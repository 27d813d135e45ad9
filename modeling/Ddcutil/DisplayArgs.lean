import Ddcutil.DeferredSleep
import Ddcutil.DisplaySelection
import Ddcutil.DumploadReadErrors
/-!
# DisplayArgs — the display named on the command line (cmd_parser_goption.c)

`parse_display_identifier` is given what the options that name a display were set to.  Each option that it takes
replaces the identifier and is counted, and in the end more than one is an error.  A number that was not given is -1.
-/
namespace Ddc

open Kit List Exec

def dot : Byte := 0x2e

def scanD (s : List Byte) : Option (Int × List Byte) :=
  let r := strtol s 10
  if r.rest = s then none else some (int32 r.value, r.rest)

def scanPair (sep : Byte) (val : List Byte) : Option (Int × Int) :=
  match scanD val with
  | none => none
  | some (_, []) => none
  | some (first, c :: s) => if c = sep then (scanD s).map fun second => (first, second.1) else none

def parseDotSeparatedArg (val : List Byte) : Option (Int × Int) := scanPair dot val

def parseColonSeparatedArg (val : List Byte) : Option (Int × Int) := scanPair colon val

def parseUsbArg (val : List Byte) : Option (Int × Int) := parseDotSeparatedArg val <|> parseColonSeparatedArg val

/-! ## The options -/

structure DisplayArgs where
  dispwork : Int
  buswork : Int
  hidwork : Int
  usbwork : Option (List Byte)
  edidwork : Option (List Byte)
  mfgIdWork : Option (List Byte)
  modelwork : Option (List Byte)
  snwork : Option (List Byte)

structure IdentifierParse where
  pdid : Option DisplayIdentifier
  errmsgs : List (List Byte)
  parsingOk : Bool
  explicitDisplaySpecCt : Nat

def IdentifierParse.emit (st : IdentifierParse) (msg : List Byte) : IdentifierParse :=
  { st with errmsgs := st.errmsgs ++ [msg], parsingOk := false }

def IdentifierParse.put (st : IdentifierParse) (pdid : DisplayIdentifier) : IdentifierParse :=
  { st with pdid := some pdid }

def IdentifierParse.count (st : IdentifierParse) : IdentifierParse :=
  { st with explicitDisplaySpecCt := st.explicitDisplaySpecCt + 1 }

def IdentifierParse.take (st : IdentifierParse) : Except (List Byte) DisplayIdentifier → IdentifierParse
  | .ok pdid => (st.put pdid).count
  | .error msg => (st.emit msg).count

def noUsb (option : String) : List Byte :=
  ascii ("ddcutil not built with support for USB connected monitors.  --" ++ option ++ " option invalid.")

def usbIdentifier (usbwork : List Byte) : Except (List Byte) DisplayIdentifier :=
  match parseUsbArg usbwork with
  | some (busnum, devicenum) => .ok (.usb busnum devicenum)
  | none => .error (ascii "Invalid USB argument: " ++ usbwork)

def edidIdentifier (edidwork : List Byte) : Except (List Byte) DisplayIdentifier :=
  if edidwork.length ≠ 256 then .error (ascii "EDID hex string not 256 characters")
  else
    match hhsToByteArray edidwork with
    | some pba => if h : pba.length = 128 then .ok (.edid ⟨pba, h⟩) else .error (ascii "Invalid EDID hex string")
    | none => .error (ascii "Invalid EDID hex string")

def createMfgModelSnDisplayIdentifier (mfgId modelName serialAscii : Option (List Byte)) : Exec DisplayIdentifier := do
  check ((mfgId.getD []).length < edidMfgIdFieldSize)
  check ((modelName.getD []).length < edidModelNameFieldSize)
  check ((serialAscii.getD []).length < edidSerialAsciiFieldSize)
  check (0 < (mfgId.getD []).length + (modelName.getD []).length + (serialAscii.getD []).length)
  .ok (.monser (mfgId.getD []) (modelName.getD []) (serialAscii.getD []))

section
variable (enableUsb : Bool)

def takeUsbwork (a : DisplayArgs) (st : IdentifierParse) : IdentifierParse :=
  match a.usbwork with
  | none => st
  | some usbwork => if enableUsb then st.take (usbIdentifier usbwork) else st.emit (noUsb "usb")

def takeBuswork (a : DisplayArgs) (st : IdentifierParse) : IdentifierParse :=
  if 0 ≤ a.buswork then st.take (.ok (.busno a.buswork)) else st

def takeHidwork (a : DisplayArgs) (st : IdentifierParse) : IdentifierParse :=
  if 0 ≤ a.hidwork then if enableUsb then st.take (.ok (.hiddev a.hidwork)) else st.emit (noUsb "hid") else st

def takeDispwork (a : DisplayArgs) (st : IdentifierParse) : IdentifierParse :=
  if 0 ≤ a.dispwork then st.take (.ok (.dispno a.dispwork)) else st

def takeEdidwork (a : DisplayArgs) (st : IdentifierParse) : IdentifierParse :=
  match a.edidwork with
  | none => st
  | some edidwork => st.take (edidIdentifier edidwork)

def takeMonitor (a : DisplayArgs) (st : IdentifierParse) : Exec IdentifierParse :=
  if a.mfgIdWork.isSome = true ∨ a.modelwork.isSome = true ∨ a.snwork.isSome = true then do
    let pdid ← createMfgModelSnDisplayIdentifier a.mfgIdWork a.modelwork a.snwork
    .ok (st.take (.ok pdid))
  else .ok st

def checkSpecCt (st : IdentifierParse) : IdentifierParse :=
  if 1 < st.explicitDisplaySpecCt then { st.emit (ascii "Monitor specified in more than one way") with pdid := none }
  else st

def parseDisplayIdentifier (a : DisplayArgs) : Exec IdentifierParse := do
  let st := takeUsbwork enableUsb a ⟨none, [], true, 0⟩
  let st := takeDispwork a (takeHidwork enableUsb a (takeBuswork a st))
  let st ← takeMonitor a (takeEdidwork a st)
  .ok (checkSpecCt st)

end

/-! ## What is promised -/

inductive DisplayOption where
  | dispno (n : Int)
  | busno (n : Int)
  | hiddev (n : Int)
  | usb (s : List Byte)
  | edid (s : List Byte)
  | monitor (mfgId modelName serialAscii : Option (List Byte))

def givenNumber (option : Int → DisplayOption) (work : Int) : List DisplayOption :=
  if work = -1 then [] else [option work]

def givenMonitor (mfgId modelName serialAscii : Option (List Byte)) : List DisplayOption :=
  if mfgId.isSome = true ∨ modelName.isSome = true ∨ serialAscii.isSome = true then
    [.monitor mfgId modelName serialAscii] else []

def DisplayArgs.given (a : DisplayArgs) : List DisplayOption :=
  (a.usbwork.map .usb).toList ++ givenNumber .busno a.buswork ++ givenNumber .hiddev a.hidwork ++
    givenNumber .dispno a.dispwork ++ (a.edidwork.map .edid).toList ++ givenMonitor a.mfgIdWork a.modelwork a.snwork

/-- **Two numbers with a dot or a colon between them**, each no more than an `int` can hold. -/
structure IsPair (s : List Byte) (first second : Int) : Prop where
  text : ∃ a b sep, s = a ++ sep :: b ∧ (sep = dot ∨ sep = colon) ∧ a ≠ [] ∧ b ≠ [] ∧
    (∀ c ∈ a, isDigit 10 c = true) ∧ (∀ c ∈ b, isDigit 10 c = true) ∧ first = digitsVal 10 a ∧ second = digitsVal 10 b
  first_le : first ≤ intMax
  second_le : second ≤ intMax

def IsHexOf (s : List Byte) (bytes : List Byte) : Prop :=
  s.length = 2 * bytes.length ∧ ∀ i < bytes.length, hexCode ((s.drop (2 * i)).take 2) = bytes[i]?

structure MonitorFits (mfgId modelName serialAscii : Option (List Byte)) : Prop where
  mfgId_lt : (mfgId.getD []).length < edidMfgIdFieldSize
  modelName_lt : (modelName.getD []).length < edidModelNameFieldSize
  serialAscii_lt : (serialAscii.getD []).length < edidSerialAsciiFieldSize
  nonempty : 0 < (mfgId.getD []).length + (modelName.getD []).length + (serialAscii.getD []).length

/-- **An option is well formed, and this identifier holds exactly what it was given**; USB is for builds with USB. -/
inductive Names (enableUsb : Bool) : DisplayOption → DisplayIdentifier → Prop
  | dispno {n : Int} (h : 0 ≤ n) : Names enableUsb (.dispno n) (.dispno n)
  | busno {n : Int} (h : 0 ≤ n) : Names enableUsb (.busno n) (.busno n)
  | hiddev {n : Int} (henable : enableUsb = true) (h : 0 ≤ n) : Names enableUsb (.hiddev n) (.hiddev n)
  | usb {s : List Byte} {bus device : Int} (henable : enableUsb = true) (h : IsPair s bus device) :
      Names enableUsb (.usb s) (.usb bus device)
  | edid {s : List Byte} {edidbytes : EdidBlock} (h : IsHexOf s edidbytes.bytes) :
      Names enableUsb (.edid s) (.edid edidbytes)
  | monitor {mfgId modelName serialAscii : Option (List Byte)} (h : MonitorFits mfgId modelName serialAscii) :
      Names enableUsb (.monitor mfgId modelName serialAscii)
        (.monser (mfgId.getD []) (modelName.getD []) (serialAscii.getD []))

/-- **The identifier that the options stand for**: there is one option, and it names a display. -/
def NamesOne (enableUsb : Bool) (given : List DisplayOption) (pdid : DisplayIdentifier) : Prop :=
  ∃ w, given = [w] ∧ Names enableUsb w pdid

/-- **What is promised**: no identifier where no option is given, the identifier that the options stand for, or an error
with no identifier left. -/
inductive IdentifierRight (enableUsb : Bool) (given : List DisplayOption) (st : IdentifierParse) : Prop
  | none (h : given = []) (hok : st.parsingOk = true) (hpdid : st.pdid = none)
  | one (pdid : DisplayIdentifier) (h : NamesOne enableUsb given pdid) (hok : st.parsingOk = true)
      (hpdid : st.pdid = some pdid)
  | refused (hgiven : given ≠ []) (h : ∀ pdid, ¬ NamesOne enableUsb given pdid) (hok : st.parsingOk = false)
      (hpdid : st.pdid = none) (hmsgs : st.errmsgs ≠ [])

/-! ## The condition -/

/-- The option is one that is counted: a number below -1 is taken for one that was not given. -/
def DisplayOption.counts (enableUsb : Bool) : DisplayOption → Bool
  | .dispno n => decide (0 ≤ n)
  | .busno n => decide (0 ≤ n)
  | .hiddev n => enableUsb && decide (0 ≤ n)
  | .usb _ => enableUsb
  | .edid _ | .monitor _ _ _ => true

def DisplayOption.unsupported (enableUsb : Bool) : DisplayOption → Bool
  | .hiddev n => !enableUsb && decide (0 ≤ n)
  | .usb _ => !enableUsb
  | _ => false

def DisplayOption.taken : DisplayOption → Option DisplayIdentifier
  | .dispno n => some (.dispno n)
  | .busno n => some (.busno n)
  | .hiddev n => some (.hiddev n)
  | .usb s => (usbIdentifier s).toOption
  | .edid s => (edidIdentifier s).toOption
  | .monitor mfgId modelName serialAscii =>
    some (.monser (mfgId.getD []) (modelName.getD []) (serialAscii.getD []))

def DisplayArgs.counted (enableUsb : Bool) (a : DisplayArgs) : List DisplayOption :=
  a.given.filter fun w => w.counts enableUsb

/-- **The condition on the options other than the strings of a monitor.** -/
inductive DisplayJudged (enableUsb : Bool) (a : DisplayArgs) : Prop
  | nothing (h : a.given = [])
  | several (h : 2 ≤ (a.counted enableUsb).length)
  /-- Nothing is counted, but there is an error. -/
  | unsupported (h : a.counted enableUsb = []) (w : DisplayOption) (hw : w ∈ a.given)
      (hun : w.unsupported enableUsb = true)
  /-- The only option is counted; if it is a USB argument that can be read, then it is two numbers. -/
  | single (w : DisplayOption) (h : a.given = [w]) (hcount : w.counts enableUsb = true)
      (husb : ∀ s bus device, w = .usb s → parseUsbArg s = some (bus, device) → IsPair s bus device)
  /-- Of several options one is counted, and it is an error. -/
  | malformed (w : DisplayOption) (h : a.counted enableUsb = [w]) (hmore : a.given ≠ [w]) (htaken : w.taken = none)

/-- **The condition**: the strings of a monitor fit where they are given, and the other options are judged right. -/
structure DisplayCondition (enableUsb : Bool) (a : DisplayArgs) : Prop where
  fits : a.mfgIdWork.isSome = true ∨ a.modelwork.isSome = true ∨ a.snwork.isSome = true →
    MonitorFits a.mfgIdWork a.modelwork a.snwork
  judged : DisplayJudged enableUsb a

/-! ## One option after the other -/

section
variable {enableUsb : Bool} {l : List DisplayOption} {st : IdentifierParse} {w : DisplayOption}

def DisplayOption.Accepted (enableUsb : Bool) (w : DisplayOption) : Prop :=
  w.unsupported enableUsb = false ∧ (w.counts enableUsb = true → w.taken ≠ none)

structure Took (enableUsb : Bool) (l : List DisplayOption) (st : IdentifierParse) : Prop where
  ct : st.explicitDisplaySpecCt = (l.filter fun w => w.counts enableUsb).length
  ok : st.parsingOk = true ↔ ∀ w ∈ l, w.Accepted enableUsb
  msgs : st.parsingOk = false → st.errmsgs ≠ []
  pdid : st.pdid = ((l.filter fun w => w.counts enableUsb).filterMap DisplayOption.taken).getLast?

theorem Took.start : Took enableUsb [] ⟨none, [], true, 0⟩ where
  ct := rfl
  ok := ⟨fun _ _ h => absurd h not_mem_nil, fun _ => rfl⟩
  msgs h := absurd h (by decide)
  pdid := rfl

theorem forall_accepted_append : (∀ w' ∈ l ++ [w], w'.Accepted enableUsb) ↔
    (∀ w' ∈ l, w'.Accepted enableUsb) ∧ w.Accepted enableUsb := by
  constructor
  · exact fun h => ⟨fun w' hw' => h w' (mem_append_left _ hw'), h w (by simp)⟩
  · rintro ⟨h, hw⟩ w' hw'
    rcases mem_append.1 hw' with hw' | hw'
    · exact h w' hw'
    · rw [mem_singleton.1 hw']; exact hw

theorem emit_errmsgs (st : IdentifierParse) (msg : List Byte) : (st.emit msg).errmsgs ≠ [] :=
  append_ne_nil_of_right_ne_nil _ (cons_ne_nil _ _)

theorem Took.take (h : Took enableUsb l st) (hcount : w.counts enableUsb = true)
    (hun : w.unsupported enableUsb = false) {r : Except (List Byte) DisplayIdentifier} (hr : w.taken = r.toOption) :
    Took enableUsb (l ++ [w]) (st.take r) := by
  have hfilter : (l ++ [w]).filter (fun w => w.counts enableUsb) = (l.filter fun w => w.counts enableUsb) ++ [w] := by
    rw [filter_append, filter_singleton, hcount]; rfl
  cases r with
  | ok pdid =>
    refine ⟨?_, ?_, h.msgs, ?_⟩
    · rw [hfilter, length_append, ← h.ct]; rfl
    · rw [forall_accepted_append, ← h.ok]
      exact ⟨fun hok => ⟨hok, hun, fun _ hnone => absurd (hr.symm.trans hnone) (Option.some_ne_none pdid)⟩,
        fun hok => hok.1⟩
    · rw [hfilter, filterMap_append, filterMap_cons_some hr, filterMap_nil, getLast?_concat]; rfl
  | error msg =>
    refine ⟨?_, ?_, fun _ => emit_errmsgs st msg, ?_⟩
    · rw [hfilter, length_append, ← h.ct]; rfl
    · rw [forall_accepted_append]
      exact ⟨fun hok => absurd hok Bool.false_ne_true, fun hok => absurd hr (hok.2.2 hcount)⟩
    · rw [hfilter, filterMap_append, filterMap_cons_none hr, filterMap_nil, append_nil]
      exact h.pdid

theorem filter_append_of_not (hcount : w.counts enableUsb = false) :
    (l ++ [w]).filter (fun w => w.counts enableUsb) = l.filter fun w => w.counts enableUsb := by
  rw [filter_append, filter_singleton, hcount]; exact append_nil _

theorem Took.emit (h : Took enableUsb l st) (hcount : w.counts enableUsb = false)
    (hun : w.unsupported enableUsb = true) (msg : List Byte) : Took enableUsb (l ++ [w]) (st.emit msg) where
  ct := by rw [filter_append_of_not hcount]; exact h.ct
  ok := by
    rw [forall_accepted_append]
    exact ⟨fun hok => absurd hok Bool.false_ne_true, fun hok => absurd (hun.symm.trans hok.2.1) Bool.true_eq_false.mp⟩
  msgs _ := emit_errmsgs st msg
  pdid := by rw [filter_append_of_not hcount]; exact h.pdid

theorem Took.ignore (h : Took enableUsb l st) (hcount : w.counts enableUsb = false)
    (hun : w.unsupported enableUsb = false) : Took enableUsb (l ++ [w]) st where
  ct := by rw [filter_append_of_not hcount]; exact h.ct
  ok := by
    rw [forall_accepted_append, h.ok]
    exact ⟨fun hok => ⟨hok, hun, fun hc => absurd (hcount.symm.trans hc) Bool.false_ne_true⟩, fun hok => hok.1⟩
  msgs := h.msgs
  pdid := by rw [filter_append_of_not hcount]; exact h.pdid

variable {a : DisplayArgs}

section
variable (h : Took enableUsb l st)
include h

theorem Took.usbwork : Took enableUsb (l ++ (a.usbwork.map .usb).toList) (takeUsbwork enableUsb a st) := by
  unfold takeUsbwork
  cases a.usbwork with
  | none =>
    rw [Option.map_none, Option.toList_none, append_nil]; exact h
  | some usbwork =>
    cases enableUsb with
    | true => exact h.take rfl rfl rfl
    | false => exact h.emit rfl rfl _

theorem Took.number {option : Int → DisplayOption} {work : Int} {st' : IdentifierParse}
    (hneg : work < 0 → (option work).counts enableUsb = false ∧ (option work).unsupported enableUsb = false ∧ st' = st)
    (hpos : 0 ≤ work → Took enableUsb (l ++ [option work]) st') :
    Took enableUsb (l ++ givenNumber option work) st' := by
  unfold givenNumber
  by_cases hwork : work = -1
  · obtain ⟨-, -, rfl⟩ := hneg (by omega)
    rw [if_pos hwork, append_nil]; exact h
  · rw [if_neg hwork]
    by_cases hle : 0 ≤ work
    · exact hpos hle
    · obtain ⟨hcount, hun, rfl⟩ := hneg (by omega)
      exact h.ignore hcount hun

theorem Took.buswork : Took enableUsb (l ++ givenNumber .busno a.buswork) (takeBuswork a st) := by
  refine h.number (fun hneg => ⟨decide_eq_false (Int.not_le.2 hneg), rfl, if_neg (Int.not_le.2 hneg)⟩) fun hpos => ?_
  rw [takeBuswork, if_pos hpos]; exact h.take (w := .busno a.buswork) (decide_eq_true hpos) rfl rfl

theorem Took.dispwork : Took enableUsb (l ++ givenNumber .dispno a.dispwork) (takeDispwork a st) := by
  refine h.number (fun hneg => ⟨decide_eq_false (Int.not_le.2 hneg), rfl, if_neg (Int.not_le.2 hneg)⟩) fun hpos => ?_
  rw [takeDispwork, if_pos hpos]
  exact h.take (w := .dispno a.dispwork) (decide_eq_true hpos) rfl rfl

theorem Took.hidwork : Took enableUsb (l ++ givenNumber .hiddev a.hidwork) (takeHidwork enableUsb a st) := by
  refine h.number (fun hneg => ?_) fun hpos => ?_
  · have hdec := decide_eq_false (Int.not_le.2 hneg)
    refine ⟨?_, ?_, if_neg (Int.not_le.2 hneg)⟩
    · rw [DisplayOption.counts, hdec, Bool.and_false]
    · rw [DisplayOption.unsupported, hdec, Bool.and_false]
  · have hdec := decide_eq_true hpos
    rw [takeHidwork, if_pos hpos]
    cases enableUsb with
    | true => exact h.take (w := .hiddev a.hidwork) (r := .ok (.hiddev a.hidwork)) hdec rfl rfl
    | false => exact h.emit (w := .hiddev a.hidwork) rfl hdec _

theorem Took.edidwork : Took enableUsb (l ++ (a.edidwork.map .edid).toList) (takeEdidwork a st) := by
  unfold takeEdidwork
  cases a.edidwork with
  | none =>
    rw [Option.map_none, Option.toList_none, append_nil]; exact h
  | some edidwork => exact h.take rfl rfl rfl

end

theorem createMfgModelSn_of_fits {mfgId modelName serialAscii : Option (List Byte)}
    (h : MonitorFits mfgId modelName serialAscii) : createMfgModelSnDisplayIdentifier mfgId modelName serialAscii =
      .ok (.monser (mfgId.getD []) (modelName.getD []) (serialAscii.getD [])) := by
  unfold createMfgModelSnDisplayIdentifier
  rw [check_pos h.mfgId_lt, ok_bind, check_pos h.modelName_lt, ok_bind, check_pos h.serialAscii_lt,
    ok_bind, check_pos h.nonempty, ok_bind]

theorem fits_of_createMfgModelSn {mfgId modelName serialAscii : Option (List Byte)} {pdid : DisplayIdentifier}
    (h : createMfgModelSnDisplayIdentifier mfgId modelName serialAscii = .ok pdid) :
    MonitorFits mfgId modelName serialAscii := by
  obtain ⟨_, hmfg, h⟩ := bind_eq_ok.1 h
  obtain ⟨_, hmodel, h⟩ := bind_eq_ok.1 h
  obtain ⟨_, hserial, h⟩ := bind_eq_ok.1 h
  obtain ⟨_, hnonempty, -⟩ := bind_eq_ok.1 h
  exact ⟨check_eq_ok.1 hmfg, check_eq_ok.1 hmodel, check_eq_ok.1 hserial, check_eq_ok.1 hnonempty⟩

theorem Took.monitor (h : Took enableUsb l st)
    (hfits : a.mfgIdWork.isSome = true ∨ a.modelwork.isSome = true ∨ a.snwork.isSome = true →
    MonitorFits a.mfgIdWork a.modelwork a.snwork) :
    ∃ st', takeMonitor a st = .ok st' ∧ Took enableUsb (l ++ givenMonitor a.mfgIdWork a.modelwork a.snwork) st' := by
  unfold takeMonitor givenMonitor
  by_cases hgiven : a.mfgIdWork.isSome = true ∨ a.modelwork.isSome = true ∨ a.snwork.isSome = true
  · rw [if_pos hgiven, if_pos hgiven, createMfgModelSn_of_fits (hfits hgiven), ok_bind]
    exact ⟨_, rfl, h.take rfl rfl rfl⟩
  · rw [if_neg hgiven, if_neg hgiven, append_nil]; exact ⟨st, rfl, h⟩

theorem Took.all (a : DisplayArgs)
    (hfits : a.mfgIdWork.isSome = true ∨ a.modelwork.isSome = true ∨ a.snwork.isSome = true →
    MonitorFits a.mfgIdWork a.modelwork a.snwork) :
    ∃ st, parseDisplayIdentifier enableUsb a = .ok (checkSpecCt st) ∧ Took enableUsb a.given st := by
  have hstart : Took enableUsb [] ⟨none, [], true, 0⟩ := Took.start
  have hedid := (((hstart.usbwork (a := a)).buswork (a := a)).hidwork (a := a)).dispwork (a := a) |>.edidwork (a := a)
  obtain ⟨st, hst, htook⟩ := hedid.monitor hfits
  refine ⟨st, ?_, ?_⟩
  · unfold parseDisplayIdentifier
    dsimp only
    rw [hst, ok_bind]
  · exact htook

end

theorem fits_of_returns {enableUsb : Bool} {a : DisplayArgs} {st : IdentifierParse}
    (h : parseDisplayIdentifier enableUsb a = .ok st)
    (hgiven : a.mfgIdWork.isSome = true ∨ a.modelwork.isSome = true ∨ a.snwork.isSome = true) :
    MonitorFits a.mfgIdWork a.modelwork a.snwork := by
  unfold parseDisplayIdentifier takeMonitor at h
  obtain ⟨_, hmonitor, -⟩ := bind_eq_ok.1 h
  rw [if_pos hgiven] at hmonitor
  obtain ⟨_, hcreate, -⟩ := bind_eq_ok.1 hmonitor
  exact fits_of_createMfgModelSn hcreate

/-! ## What is read -/

theorem scanD_digits {a s : List Byte} (ha : a ≠ []) (hdigits : ∀ c ∈ a, isDigit 10 c = true)
    (hrest : s.dropWhile (isDigit 10) = s) (hle : (digitsVal 10 a : Int) ≤ intMax) :
    scanD (a ++ s) = some ((digitsVal 10 a : Int), s) := by
  have himax : intMax = 2147483647 := by decide
  cases a with
  | nil => exact absurd rfl ha
  | cons c ds =>
    rw [scanD, strtol_digits s hdigits hrest (fun h => absurd h (by decide)) (Int.le_trans hle (by decide))]
    dsimp only
    have hne : s ≠ c :: ds ++ s := fun heq => by
      have hlength := congrArg List.length heq
      rw [length_append, length_cons] at hlength; omega
    rw [if_neg hne, Deferred.int32_of_range (by omega) (by omega)]

theorem dropWhile_digit_sep {sep : Byte} (h : sep = dot ∨ sep = colon) (b : List Byte) :
    (sep :: b).dropWhile (isDigit 10) = sep :: b := by
  refine dropWhile_cons_of_neg ?_
  rcases h with rfl | rfl
  · decide
  · decide

theorem parseUsbArg_of_isPair {s : List Byte} {bus device : Int} (h : IsPair s bus device) :
    parseUsbArg s = some (bus, device) := by
  obtain ⟨a, b, sep, rfl, hsep, ha, hb, hda, hdb, rfl, rfl⟩ := h.text
  have hfirst := scanD_digits ha hda (dropWhile_digit_sep hsep b) h.first_le
  have hsecond := scanD_digits (s := []) hb hdb rfl h.second_le
  rw [append_nil] at hsecond
  have hpair : ∀ sep', scanPair sep' (a ++ sep :: b) =
      if sep = sep' then some ((digitsVal 10 a : Int), (digitsVal 10 b : Int)) else none := by
    intro sep'
    rw [scanPair, hfirst]
    dsimp only
    rw [hsecond]; rfl
  rw [parseUsbArg, parseDotSeparatedArg, parseColonSeparatedArg, hpair, hpair]
  rcases hsep with rfl | rfl
  · rfl
  · rfl

theorem hexDigit_cases (c : Byte) :
    (∃ d, digitVal c = some d ∧ (digitVal c).filter (· < 16) = some d ∧ isDigit 16 c = true) ∨
      (digitVal c).filter (· < 16) = none ∧ isDigit 16 c = false := by
  unfold isDigit
  cases hc : digitVal c with
  | none => exact .inr ⟨rfl, rfl⟩
  | some d =>
    by_cases hd : d < 16
    · exact .inl ⟨d, rfl, Option.filter_some_pos (decide_eq_true hd), decide_eq_true hd⟩
    · exact .inr ⟨Option.filter_some_neg (by simpa using hd), decide_eq_false hd⟩

theorem hhsToByteArray_cons (c0 c1 : Byte) (s : List Byte) : hhsToByteArray (c0 :: c1 :: s) =
    (hexCode [c0, c1]).bind fun b => (hhsToByteArray s).map (b :: ·) := by
  rw [hexCode, hhsToByteArray]
  rcases hexDigit_cases c0 with ⟨hi, hv0, hf0, hd0⟩ | ⟨hf0, hd0⟩
  · rcases hexDigit_cases c1 with ⟨lo, hv1, hf1, hd1⟩ | ⟨hf1, hd1⟩
    · rw [hf0, hf1, if_pos ⟨rfl, by simp [hd0, hd1]⟩]
      have hval : digitsVal 16 [c0, c1] = hi * 16 + lo := by simp [digitsVal, hv0, hv1]
      rw [hval]
      cases hhsToByteArray s with
      | none | some rest => rfl
    · rw [hf0, hf1, if_neg (fun h => by simp [hd1] at h)]; rfl
  · rw [hf0, if_neg (fun h => by simp [hd0] at h)]; rfl

theorem isHexOf_cons {c0 c1 b : Byte} {s bytes : List Byte} :
    IsHexOf (c0 :: c1 :: s) (b :: bytes) ↔ hexCode [c0, c1] = some b ∧ IsHexOf s bytes := by
  have hdrop : ∀ i, (c0 :: c1 :: s).drop (2 * (i + 1)) = s.drop (2 * i) := fun i => rfl
  constructor
  · rintro ⟨hlength, hcodes⟩
    refine ⟨hcodes 0 (Nat.succ_pos _), ?_, fun i hi => ?_⟩
    · simp only [length_cons] at hlength; omega
    · have hcode := hcodes (i + 1) (Nat.succ_lt_succ hi)
      rwa [hdrop, getElem?_cons_succ] at hcode
  · rintro ⟨hfirst, hlength, hcodes⟩
    refine ⟨?_, fun i hi => ?_⟩
    · simp only [length_cons]; omega
    · cases i with
      | zero => exact hfirst
      | succ i =>
        exact hcodes i (Nat.lt_of_succ_lt_succ hi)

theorem hhsToByteArray_iff : ∀ {s bytes : List Byte}, hhsToByteArray s = some bytes ↔ IsHexOf s bytes
  | [], bytes => by
    constructor
    · intro h
      cases h; exact ⟨rfl, fun i hi => absurd hi (Nat.not_lt_zero i)⟩
    · rintro ⟨hlength, -⟩
      have hnil : bytes.length = 0 := by rw [length_nil] at hlength; omega
      rw [eq_nil_of_length_eq_zero hnil]; rfl
  | [c], bytes => by
    constructor
    · intro h; cases h
    · rintro ⟨hlength, -⟩
      rw [length_singleton] at hlength; omega
  | c0 :: c1 :: s, bytes => by
    rw [hhsToByteArray_cons]
    cases bytes with
    | nil =>
      constructor
      · intro h
        obtain ⟨b, -, hb⟩ := Option.bind_eq_some_iff.1 h
        obtain ⟨rest, -, hrest⟩ := Option.map_eq_some_iff.1 hb
        cases hrest
      · rintro ⟨hlength, -⟩
        cases hlength
    | cons b bytes =>
      rw [isHexOf_cons, ← hhsToByteArray_iff]
      constructor
      · intro h
        obtain ⟨b', hb', hrest⟩ := Option.bind_eq_some_iff.1 h
        obtain ⟨rest, hrest, heq⟩ := Option.map_eq_some_iff.1 hrest
        cases heq; exact ⟨hb', hrest⟩
      · rintro ⟨hb, hrest⟩
        rw [hb, hrest]; rfl

theorem edidIdentifier_iff {s : List Byte} {pdid : DisplayIdentifier} : (edidIdentifier s).toOption = some pdid ↔
    ∃ edidbytes : EdidBlock, pdid = .edid edidbytes ∧ IsHexOf s edidbytes.bytes := by
  unfold edidIdentifier
  constructor
  · intro h
    by_cases hlength : s.length ≠ 256
    · rw [if_pos hlength] at h; cases h
    · rw [if_neg hlength] at h
      cases hpba : hhsToByteArray s with
      | none =>
        rw [hpba] at h; cases h
      | some pba =>
        rw [hpba] at h
        dsimp only at h
        by_cases hsize : pba.length = 128
        · rw [dif_pos hsize] at h
          cases h; exact ⟨⟨pba, hsize⟩, rfl, hhsToByteArray_iff.1 hpba⟩
        · rw [dif_neg hsize] at h; cases h
  · rintro ⟨edidbytes, rfl, hhex⟩
    have hlength : ¬ s.length ≠ 256 := by rw [hhex.1, edidbytes.size]; decide
    rw [if_neg hlength, hhsToByteArray_iff.2 hhex]
    dsimp only
    rw [dif_pos edidbytes.size]; rfl

theorem usbIdentifier_iff {s : List Byte} {pdid : DisplayIdentifier} : (usbIdentifier s).toOption = some pdid ↔
    ∃ bus device, parseUsbArg s = some (bus, device) ∧ pdid = .usb bus device := by
  unfold usbIdentifier
  cases parseUsbArg s with
  | none =>
    constructor
    · intro h; cases h
    · rintro ⟨bus, device, h, -⟩
      cases h
  | some pair =>
    constructor
    · intro h
      cases h; exact ⟨pair.1, pair.2, rfl, rfl⟩
    · rintro ⟨bus, device, h, rfl⟩
      cases h; rfl

section
variable {enableUsb : Bool} {w : DisplayOption} {pdid : DisplayIdentifier}

def DisplayOption.Fits : DisplayOption → Prop
  | .monitor mfgId modelName serialAscii => MonitorFits mfgId modelName serialAscii
  | _ => True

/-- **What an option that is counted is taken for is what it names**, but for a USB argument that is read though it is
not two numbers. -/
theorem names_iff_taken (hcount : w.counts enableUsb = true) (hfits : w.Fits)
    (husb : ∀ s bus device, w = .usb s → parseUsbArg s = some (bus, device) → IsPair s bus device) :
    Names enableUsb w pdid ↔ w.taken = some pdid := by
  cases w with
  | dispno n =>
    refine ⟨fun h => by cases h; rfl, fun h => ?_⟩
    cases h; exact .dispno (of_decide_eq_true hcount)
  | busno n =>
    refine ⟨fun h => by cases h; rfl, fun h => ?_⟩
    cases h; exact .busno (of_decide_eq_true hcount)
  | hiddev n =>
    refine ⟨fun h => by cases h; rfl, fun h => ?_⟩
    cases h
    have hand := Bool.and_eq_true_iff.1 hcount
    exact .hiddev hand.1 (of_decide_eq_true hand.2)
  | usb s =>
    rw [DisplayOption.taken, usbIdentifier_iff]
    constructor
    · intro h
      cases h with
      | usb henable hpair => exact ⟨_, _, parseUsbArg_of_isPair hpair, rfl⟩
    · rintro ⟨bus, device, hparse, rfl⟩
      exact .usb hcount (husb s bus device rfl hparse)
  | edid s =>
    rw [DisplayOption.taken, edidIdentifier_iff]
    constructor
    · intro h
      cases h with
      | edid hhex => exact ⟨_, rfl, hhex⟩
    · rintro ⟨edidbytes, rfl, hhex⟩
      exact .edid hhex
  | monitor mfgId modelName serialAscii =>
    refine ⟨fun h => by cases h; rfl, fun h => ?_⟩
    cases h; exact .monitor hfits

theorem not_names_of_unsupported (h : w.unsupported enableUsb = true) : ¬ Names enableUsb w pdid := by
  intro hnames
  cases hnames with
  | dispno | busno => cases h
  | hiddev henable => simp [DisplayOption.unsupported, henable] at h
  | usb henable => simp [DisplayOption.unsupported, henable] at h
  | edid | monitor => cases h

/-! ## The end -/

theorem checkSpecCt_of_le {st : IdentifierParse} (h : st.explicitDisplaySpecCt ≤ 1) : checkSpecCt st = st :=
  if_neg (Nat.not_lt.2 h)

theorem checkSpecCt_of_lt {st : IdentifierParse} (h : 1 < st.explicitDisplaySpecCt) :
    (checkSpecCt st).parsingOk = false ∧ (checkSpecCt st).pdid = none ∧ (checkSpecCt st).errmsgs ≠ [] := by
  rw [checkSpecCt, if_pos h]; exact ⟨rfl, rfl, emit_errmsgs st _⟩

variable {a : DisplayArgs} {st : IdentifierParse}

theorem Took.ct_eq (h : Took enableUsb a.given st) : st.explicitDisplaySpecCt = (a.counted enableUsb).length := h.ct

theorem Took.pdid_eq (h : Took enableUsb a.given st) :
    st.pdid = ((a.counted enableUsb).filterMap DisplayOption.taken).getLast? := h.pdid

theorem mem_counted : w ∈ a.counted enableUsb ↔ w ∈ a.given ∧ w.counts enableUsb = true := mem_filter

theorem mem_givenNumber {option : Int → DisplayOption} {work : Int} (h : w ∈ givenNumber option work) :
    w = option work := by
  unfold givenNumber at h
  by_cases hwork : work = -1
  · rw [if_pos hwork] at h; exact absurd h not_mem_nil
  · rw [if_neg hwork] at h; exact mem_singleton.1 h

theorem fits_of_given (hfits : a.mfgIdWork.isSome = true ∨ a.modelwork.isSome = true ∨ a.snwork.isSome = true →
    MonitorFits a.mfgIdWork a.modelwork a.snwork) (hw : w ∈ a.given) : w.Fits := by
  unfold DisplayArgs.given at hw
  simp only [mem_append, Option.mem_toList, Option.map_eq_some_iff] at hw
  rcases hw with ((((⟨s, -, rfl⟩ | hw) | hw) | hw) | ⟨s, -, rfl⟩) | hw
  · trivial
  · rw [mem_givenNumber hw]
    trivial
  · rw [mem_givenNumber hw]
    trivial
  · rw [mem_givenNumber hw]
    trivial
  · trivial
  · unfold givenMonitor at hw
    by_cases hgiven : a.mfgIdWork.isSome = true ∨ a.modelwork.isSome = true ∨ a.snwork.isSome = true
    · rw [if_pos hgiven] at hw
      rw [mem_singleton.1 hw]; exact hfits hgiven
    · rw [if_neg hgiven] at hw; exact absurd hw not_mem_nil

section
variable (h : Took enableUsb a.given st)
include h

theorem Took.right_of_nil (hnil : a.counted enableUsb = []) :
    IdentifierRight enableUsb a.given (checkSpecCt st) ↔
      a.given = [] ∨ ∃ w ∈ a.given, w.unsupported enableUsb = true := by
  have hct : st.explicitDisplaySpecCt = 0 := by rw [h.ct_eq, hnil]; rfl
  have hpdid : st.pdid = none := by rw [h.pdid_eq, hnil]; rfl
  have hnot : ∀ w ∈ a.given, w.counts enableUsb = false := fun w hw =>
    Bool.eq_false_iff.2 fun hc => absurd (hnil ▸ mem_counted.2 ⟨hw, hc⟩) not_mem_nil
  rw [checkSpecCt_of_le (by omega)]
  constructor
  · intro hright
    cases hright with
    | none hgiven => exact .inl hgiven
    | one pdid _ _ hsome => exact absurd (hpdid.symm.trans hsome) (Option.some_ne_none pdid).symm
    | refused _ _ hok =>
      by_contra hnone
      have haccepted : ∀ w ∈ a.given, w.Accepted enableUsb := fun w hw =>
        ⟨Bool.eq_false_iff.2 fun hun => hnone (.inr ⟨w, hw, hun⟩),
          fun hc => absurd ((hnot w hw).symm.trans hc) Bool.false_ne_true⟩
      exact absurd (hok.symm.trans (h.ok.2 haccepted)) Bool.false_ne_true
  · rintro (hgiven | ⟨w, hw, hun⟩)
    · refine .none hgiven (h.ok.2 fun w hw => ?_) hpdid
      rw [hgiven] at hw; exact absurd hw not_mem_nil
    · have hok : st.parsingOk = false := Bool.eq_false_iff.2 fun hok =>
        absurd (((h.ok.1 hok) w hw).1.symm.trans hun) Bool.false_ne_true
      refine .refused (ne_nil_of_mem hw) (fun pdid hone => ?_) hok hpdid (h.msgs hok)
      obtain ⟨w', hw', hnames⟩ := hone
      rw [hw'] at hw
      rw [mem_singleton.1 hw] at hun; exact not_names_of_unsupported hun hnames

theorem Took.right_of_singleton (hone : a.counted enableUsb = [w]) (hfits : w.Fits) :
    IdentifierRight enableUsb a.given (checkSpecCt st) ↔
      (a.given = [w] ∧ ∀ s bus device, w = .usb s → parseUsbArg s = some (bus, device) → IsPair s bus device) ∨
      a.given ≠ [w] ∧ w.taken = none := by
  have hct : st.explicitDisplaySpecCt = 1 := by rw [h.ct_eq, hone]; rfl
  have hmem : w ∈ a.given ∧ w.counts enableUsb = true := mem_counted.1 (hone ▸ mem_singleton_self w)
  have hpdid : st.pdid = w.taken := by
    rw [h.pdid_eq, hone]
    cases htaken : w.taken with
    | none => rw [filterMap_cons_none htaken]; rfl
    | some pdid => rw [filterMap_cons_some htaken]; rfl
  have hgivenOne : ∀ {w'}, a.given = [w'] → w' = w := by
    intro w' hw'
    have hmem' := hmem.1
    rw [hw'] at hmem'; exact (mem_singleton.1 hmem').symm
  rw [checkSpecCt_of_le (by omega)]
  constructor
  · intro hright
    by_cases hgiven : a.given = [w]
    · refine .inl ⟨hgiven, fun s bus device hw hparse => ?_⟩
      have htaken : w.taken = some (.usb bus device) := by
        rw [hw, DisplayOption.taken, usbIdentifier_iff]; exact ⟨bus, device, hparse, rfl⟩
      cases hright with
      | none hnil => exact absurd (hnil.symm.trans hgiven) (cons_ne_nil _ _).symm
      | one pdid hnames _ hsome =>
        obtain ⟨w', hw', hnames⟩ := hnames
        rw [hpdid, htaken] at hsome
        cases hsome
        rw [hgivenOne hw', hw] at hnames
        cases hnames with
        | usb _ hpair => exact hpair
      | refused _ _ _ hnone =>
        rw [hpdid, htaken] at hnone; cases hnone
    · refine .inr ⟨hgiven, ?_⟩
      cases hright with
      | none hnil =>
        rw [hnil] at hmem; exact absurd hmem.1 not_mem_nil
      | one pdid hnames _ _ =>
        obtain ⟨w', hw', -⟩ := hnames
        exact absurd (hgivenOne hw' ▸ hw') hgiven
      | refused _ _ _ hnone => exact hpdid.symm.trans hnone
  · rintro (⟨hgiven, husb⟩ | ⟨hgiven, htaken⟩)
    · cases htaken : w.taken with
      | some pdid =>
        have hnames := (names_iff_taken hmem.2 hfits husb).2 htaken
        refine .one pdid ⟨w, hgiven, hnames⟩ (h.ok.2 fun w' hw' => ?_) (hpdid.trans htaken)
        rw [hgiven] at hw'
        rw [mem_singleton.1 hw']
        refine ⟨Bool.eq_false_iff.2 fun hun => not_names_of_unsupported hun hnames, fun _ => ?_⟩
        rw [htaken]; exact Option.some_ne_none pdid
      | none =>
        have hok : st.parsingOk = false := Bool.eq_false_iff.2 fun hok =>
          ((h.ok.1 hok) w hmem.1).2 hmem.2 htaken
        refine .refused (ne_nil_of_mem hmem.1) (fun pdid hnames => ?_) hok (hpdid.trans htaken) (h.msgs hok)
        obtain ⟨w', hw', hnames⟩ := hnames
        rw [hgivenOne hw', names_iff_taken hmem.2 hfits husb, htaken] at hnames; cases hnames
    · have hok : st.parsingOk = false := Bool.eq_false_iff.2 fun hok =>
        ((h.ok.1 hok) w hmem.1).2 hmem.2 htaken
      refine .refused (ne_nil_of_mem hmem.1) (fun pdid hnames => ?_) hok (hpdid.trans htaken) (h.msgs hok)
      obtain ⟨w', hw', -⟩ := hnames
      exact hgiven (hgivenOne hw' ▸ hw')

theorem Took.right_of_several (hmore : 2 ≤ (a.counted enableUsb).length) :
    IdentifierRight enableUsb a.given (checkSpecCt st) := by
  have hct : 1 < st.explicitDisplaySpecCt := by rw [h.ct_eq]; omega
  obtain ⟨hok, hpdid, hmsgs⟩ := checkSpecCt_of_lt hct
  have hlength : 2 ≤ a.given.length := Nat.le_trans hmore (length_filter_le _ _)
  refine .refused (fun hnil => ?_) (fun pdid hnames => ?_) hok hpdid hmsgs
  · rw [hnil] at hlength; exact absurd hlength (by decide)
  · obtain ⟨w, hw, -⟩ := hnames
    rw [hw, length_singleton] at hlength; exact absurd hlength (by decide)

theorem Took.right_iff (hfits : ∀ w ∈ a.given, w.Fits) :
    IdentifierRight enableUsb a.given (checkSpecCt st) ↔ DisplayJudged enableUsb a := by
  rcases hcounted : a.counted enableUsb with _ | ⟨w, _ | ⟨w', rest⟩⟩
  · rw [h.right_of_nil hcounted]
    constructor
    · rintro (hgiven | ⟨w, hw, hun⟩)
      · exact .nothing hgiven
      · exact .unsupported hcounted w hw hun
    · intro hjudged
      cases hjudged with
      | nothing hgiven => exact .inl hgiven
      | several hmore =>
        rw [hcounted] at hmore; exact absurd hmore (by decide)
      | unsupported _ w hw hun => exact .inr ⟨w, hw, hun⟩
      | single w hgiven hcount =>
        have hmem : w ∈ a.counted enableUsb := mem_counted.2 ⟨by rw [hgiven]; exact mem_singleton_self w, hcount⟩
        rw [hcounted] at hmem; exact absurd hmem not_mem_nil
      | malformed w hone =>
        rw [hcounted] at hone; cases hone
  · have hmem : w ∈ a.given ∧ w.counts enableUsb = true :=
      mem_counted.1 (hcounted ▸ mem_singleton_self w)
    rw [h.right_of_singleton hcounted (hfits w hmem.1)]
    constructor
    · rintro (⟨hgiven, husb⟩ | ⟨hgiven, htaken⟩)
      · exact .single w hgiven hmem.2 husb
      · exact .malformed w hcounted hgiven htaken
    · intro hjudged
      cases hjudged with
      | nothing hgiven =>
        rw [hgiven] at hmem; exact absurd hmem.1 not_mem_nil
      | several hmore =>
        rw [hcounted, length_singleton] at hmore; exact absurd hmore (by decide)
      | unsupported hnil =>
        rw [hcounted] at hnil; cases hnil
      | single w' hgiven _ husb =>
        have heq : w = w' := mem_singleton.1 (hgiven ▸ hmem.1)
        subst heq; exact .inl ⟨hgiven, husb⟩
      | malformed w' hone hmore htaken =>
        rw [hcounted] at hone
        cases hone; exact .inr ⟨hmore, htaken⟩
  · have hmore : 2 ≤ (a.counted enableUsb).length := by
      rw [hcounted, length_cons, length_cons]; omega
    exact iff_of_true (h.right_of_several hmore) (.several hmore)

end

end

/-- **The options are taken as promised exactly if the condition holds.** -/
theorem parseDisplayIdentifier_iff (enableUsb : Bool) (a : DisplayArgs) :
    (∃ st, parseDisplayIdentifier enableUsb a = .ok st ∧ IdentifierRight enableUsb a.given st) ↔
      DisplayCondition enableUsb a := by
  constructor
  · rintro ⟨st, hst, hright⟩
    have hfits := fits_of_returns hst
    obtain ⟨st', hst', htook⟩ := @Took.all enableUsb a hfits
    rw [hst] at hst'
    cases hst'; exact ⟨hfits, (htook.right_iff fun w hw => fits_of_given hfits hw).1 hright⟩
  · rintro ⟨hfits, hjudged⟩
    obtain ⟨st, hst, htook⟩ := @Took.all enableUsb a hfits
    exact ⟨checkSpecCt st, hst, (htook.right_iff fun w hw => fits_of_given hfits hw).2 hjudged⟩

def longModelArgs : DisplayArgs := ⟨-1, -1, -1, none, none, none, some (ascii "DELL U3011 (HDMI)"), none⟩

/-- **It fails an assertion.** -/
theorem longModelArgs_not_right :
    ¬ ∃ st, parseDisplayIdentifier true longModelArgs = .ok st ∧ IdentifierRight true longModelArgs.given st := by
  rintro ⟨st, hst, -⟩
  cases hst

end Ddc
