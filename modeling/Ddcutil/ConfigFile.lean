import Ddcutil.SimpleIniFile
/-!
# ConfigFile — options from a configuration file

`ddcutil_config_file.c`: the options that a configuration file gives for all applications and those that it gives for
one are put in front of the arguments of the command line.
-/
namespace Ddc

open Kit

/-! ## The options of a file -/

inductive Application where
  | ddcutil | libddcutil | ddcui
  deriving DecidableEq

def Application.text : Application → List Byte
  | .ddcutil => ascii "ddcutil"
  | .libddcutil => ascii "libddcutil"
  | .ddcui => ascii "ddcui"

def Application.configName : Application → List Byte
  | .ddcui => ascii "ddcuirc"
  | _ => ascii "ddcutilrc"

/-- **What is outside**: which file `find_xdg_config_file` finds under a name, what reading it gives, the text of an error
number and the words of a text. -/
structure ConfigWorld where
  findXdgConfigFile : List Byte → Option (List Byte)
  file : List Byte → FileRead
  strerror : Nat → List Byte
  wordexp : List Byte → Option (List (List Byte))

structure ReadConfig where
  result : Int
  configFn : Option (List Byte)
  untokenizedOptionString : Option (List Byte)
  errmsgs : List (List Byte)

def assertIff (p q : Prop) [Decidable p] [Decidable q] : Exec Unit := check (p ↔ q)

def readDdcutilConfigFile (w : ConfigWorld) (application : Application) : Exec ReadConfig :=
  match w.findXdgConfigFile application.configName with
  | none => .ok ⟨-eNoent, none, none, []⟩
  | some configFn => do
    let (loadRc, errmsgs, iniFile) ← iniFileLoad w.strerror configFn (w.file configFn)
    assertIff (loadRc = 0) (iniFile.isSome = true)
    match iniFile with
    | none => .ok ⟨loadRc, some configFn, none, errmsgs⟩
    | some iniFile =>
      let globalOptions := (iniFileGetValue iniFile (ascii "global") (ascii "options")).getD []
      let ddcutilOptions := (iniFileGetValue iniFile application.text (ascii "options")).getD []
      .ok ⟨0, some configFn, some (strtrim (globalOptions ++ blank :: ddcutilOptions)), errmsgs⟩

/-! ## The new arguments -/

/-- `tokenize_options_line`, which looks neither at its argument nor at what `wordexp` returns: where there is no text or
there are no words, what it returns is not set. -/
def tokenizeOptionsLine (w : ConfigWorld) (string : Option (List Byte)) : Exec (List (List Byte)) :=
  match string with
  | none => .error .nullDeref
  | some s =>
    match w.wordexp s with
    | none => .error .nullDeref
    | some words => .ok words

def ntsaLength (cells : List (Option (List Byte))) : Nat := (cells.takeWhile Option.isSome).length

def ntsaStrings (cells : List (Option (List Byte))) : List (List Byte) := (cells.takeWhile Option.isSome).filterMap id

/-- **`merge_command_tokens`**: the cells that are written, from the first one on, and that fit in the array. -/
def mergeCommandTokens (oldArgv configTokens : List (List Byte)) : Exec (List (List Byte)) :=
  if configTokens = [] then .ok oldArgv
  else do
    let newCt := configTokens.length + oldArgv.length + 1
    let combined := oldArgv.head? :: configTokens.map some ++ oldArgv.tail.map some ++ [none]
    if newCt < combined.length then .error .outOfBounds
    else do
      check (newCt - 1 = ntsaLength combined)
      .ok (ntsaStrings combined)

structure AppliedConfig where
  result : Int
  newArgc : Nat
  newArgv : List (List Byte)
  untokenizedConfigOptions : Option (List Byte)
  configureFn : Option (List Byte)
  errmsgs : List (List Byte)

def applyConfigFile (w : ConfigWorld) (application : Application) (oldArgv : List (List Byte)) : Exec AppliedConfig := do
  let read ← readDdcutilConfigFile w application
  assertIff (read.result = 0) (read.untokenizedOptionString.isSome = true)
  if read.result = -eNoent then
    .ok ⟨0, oldArgv.length, oldArgv, read.untokenizedOptionString, read.configFn, read.errmsgs⟩
  else if read.result < 0 then
    .ok ⟨read.result, oldArgv.length, oldArgv, read.untokenizedOptionString, read.configFn, read.errmsgs⟩
  else do
    let cmdPrefixTokens ← tokenizeOptionsLine w read.untokenizedOptionString
    let newArgv ← mergeCommandTokens oldArgv cmdPrefixTokens
    .ok ⟨0, newArgv.length, newArgv, read.untokenizedOptionString, read.configFn, read.errmsgs⟩

end Ddc
