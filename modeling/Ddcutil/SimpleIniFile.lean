import Ddcutil.StringUtil
/-!
# SimpleIniFile — the reader of configuration files

`simple_ini_file.c`: a file of sections, each with lines of a key and a value.  The values are kept in a hash table under
`section/key`, and the values of a key that is given more than once are put together.
-/
namespace Ddc

open Kit

def numberSign : Byte := 0x23
def equalsSign : Byte := 0x3d
def slash : Byte := 0x2f

/-! ## Lines -/

def isCommentLine (s : List Byte) : Bool :=
  s.isEmpty || s.head? == some 0x3b || s.head? == some 0x2a || s.head? == some 0x23

def isSegment (s : List Byte) : Option (List Byte) :=
  if s.head? = some 0x5b ∧ s.getLast? = some 0x5d then
    let segName := (strtrim (s.tail.dropLast)).map tolower
    if segName = [] then none else some segName
  else none

/-- The text before and after the first `:` of a line or, where it has none, the first `=`. -/
def splitKv (s : List Byte) : Option (List Byte × List Byte) :=
  if colon ∈ s then some (s.takeWhile (· != colon), (s.dropWhile (· != colon)).drop 1)
  else if equalsSign ∈ s then some (s.takeWhile (· != equalsSign), (s.dropWhile (· != equalsSign)).drop 1)
  else none

def isKv (s : List Byte) : Option (List Byte × List Byte) := do
  let (untrimmedKey, untrimmedValue) ← splitKv s
  let key := (strtrim untrimmedKey).map tolower
  if key = [] then none else some (key, strtrim untrimmedValue)

inductive IniLine where
  | comment
  | segment (segName : List Byte)
  | kv (key value : List Byte)
  | invalid

/-- A line without the white space around it and without what follows a `#`.  `file_getlines` has cut off the white space
at its end. -/
def trimmedLine (line : List Byte) : List Byte :=
  let trimmed := line.dropWhile isspace
  if numberSign ∈ trimmed then rtrimInPlace (trimmed.takeWhile (· != numberSign)) else trimmed

def iniLine (trimmed : List Byte) : IniLine :=
  if isCommentLine trimmed = true then .comment
  else
    match isSegment trimmed with
    | some segName => .segment segName
    | none =>
      match isKv trimmed with
      | some (key, value) => .kv key value
      | none => .invalid

/-! ## The file -/

abbrev IniHash := AList fun _ : List Byte => List Byte

structure IniState where
  curSegment : Option (List Byte)
  iniFileHash : IniHash
  errorCt : Nat
  errmsgs : List (List Byte)

def emitErrorMsg (st : IniState) (text : List Byte) : IniState :=
  { st with errorCt := st.errorCt + 1, errmsgs := st.errmsgs ++ [text.take 99] }

def fullKey (segment key : List Byte) : List Byte := segment ++ slash :: key

def addValue (iniFileHash : IniHash) (key value : List Byte) : IniHash :=
  match iniFileHash.lookup key with
  | some oldValue => iniFileHash.insert key (oldValue ++ blank :: value)
  | none => iniFileHash.insert key value

def lineNumberText (n : Nat) : List Byte := ascii "Line " ++ decimal n

def invalidMsg (curSegment : Option (List Byte)) (n : Nat) (trimmed : List Byte) : List Byte :=
  match curSegment with
  | some _ => lineNumberText n ++ ascii ": invalid: " ++ trimmed
  | none => lineNumberText n ++ ascii ": invalid before section header: " ++ trimmed

/-- One line of the file.  The message of a line that is nothing is itself taken for a format. -/
def readIniLine (st : IniState) (line : List Byte × Nat) : Exec IniState :=
  let trimmed := trimmedLine line.1
  match iniLine trimmed with
  | .comment => .ok st
  | .segment segName => .ok { st with curSegment := some segName }
  | .kv key value =>
    match st.curSegment with
    | some segment => .ok { st with iniFileHash := addValue st.iniFileHash (fullKey segment key) value }
    | none => .ok (emitErrorMsg st (lineNumberText line.2 ++ ascii ": Invalid before section header: " ++ trimmed))
  | .invalid => do
    let text ← formatted (invalidMsg st.curSegment line.2 trimmed)
    .ok (emitErrorMsg st text)

structure ParsedIniFile where
  configFn : List Byte
  hashTable : IniHash

def iniFileLoad (strerror : Nat → List Byte) (iniFileName : List Byte) (file : FileRead) :
    Exec (Int × List (List Byte) × Option ParsedIniFile) :=
  match file with
  | .failed errno _ =>
    if (errno : Int) = eNoent then .ok (-eNoent, [], none)
    else
      .ok (errno, [(ascii "Error reading configuration file " ++ iniFileName ++ ascii ": " ++ strerror errno).take 99], none)
  | .read content => do
    let st ← ((fileGetlines content).zipIdx 1).foldlM readIniLine ⟨none, ∅, 0, []⟩
    if 0 < st.errorCt then .ok (-eBadmsg, st.errmsgs, none)
    else .ok (0, st.errmsgs, some ⟨iniFileName, st.iniFileHash⟩)

def iniFileGetValue (iniFile : ParsedIniFile) (segment id : List Byte) : Option (List Byte) :=
  iniFile.hashTable.lookup ((fullKey segment id).map tolower)

end Ddc
