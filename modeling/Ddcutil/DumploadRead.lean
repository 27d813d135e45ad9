import Ddcutil.MonitorModelKey
import Ddcutil.SetVcp
/-!
# DumploadRead — a dump is read back

`create_dumpload_data_from_g_ptr_array`: each line of a dump is a keyword and a value; for a feature value the code
and the value follow the keyword.
-/
namespace Ddc

open Kit

def scanWord (width : Nat) (s : List Byte) : Option (List Byte × List Byte) :=
  let t := s.dropWhile isspace
  let word := (t.takeWhile fun c => !isspace c).take width
  if word = [] then none else some (word, t.drop word.length)

def scanWords : List Nat → List Byte → List (List Byte)
  | [], _ => []
  | width :: widths, s =>
    match scanWord width s with
    | none => []
    | some (word, rest) => word :: scanWords widths rest

/-- `%hu` of a word of at most 15 characters, too short for a number out of range: the number `strtol` reads, cut to
16 bits; no digits is a matching failure. -/
def scanHu (s : List Byte) : Option Nat :=
  let r := strtol s 10
  if r.rest = s then none else some (r.value % 0x10000).toNat

/-! ## The data of a dump -/

def createContVcpValue (featureCode : Byte) (maxVal curVal : Nat) : AnyVcpValue :=
  ⟨featureCode, .cNc (UInt8.ofNat (maxVal / 256)) (UInt8.ofNat (maxVal % 256)) (UInt8.ofNat (curVal / 256))
    (UInt8.ofNat (curVal % 256))⟩

def createTableVcpValueByBytes (featureCode : Byte) (bytes : List Byte) : AnyVcpValue := ⟨featureCode, .t bytes⟩

structure DumploadData where
  timestampMillis : Int
  edidbytes : List Byte
  edidstr : List Byte
  mfgId : List Byte
  model : List Byte
  serialAscii : List Byte
  productCode : Nat
  vcpVersion : VersionSpec
  vcpValueCt : Nat
  vcpValues : List AnyVcpValue

def strlcpy (src : List Byte) (size : Nat) : List Byte := src.take (size - 1)

def dumploadDefaults : DumploadData where
  timestampMillis := 0
  edidbytes := List.replicate 128 0
  edidstr := []
  mfgId := []
  model := []
  serialAscii := []
  productCode := 0
  vcpVersion := ⟨2, 0⟩
  vcpValueCt := 0
  vcpValues := []

/-- Whether the feature has table values, by its code, the manufacturer, the model, the product code and the version:
the flag `DDCA_NORMAL_TABLE` that `dyn_get_feature_metadata_by_mmk_and_vspec` finds. -/
abbrev TableFeatures := Byte → List Byte → List Byte → Nat → VersionSpec → Bool

def DumploadData.isTableFeature (data : DumploadData) (tableFeatures : TableFeatures) (featureId : Byte) : Bool :=
  tableFeatures featureId data.mfgId (fixupModelName data.model) data.productCode data.vcpVersion

/-! ## One line -/

/-- **What a line does**: nothing, an error with its cause, one without, or a change of the data.  An error leaves data
behind too: a bad version is stored before it is checked. -/
inductive LineEffect where
  | skip
  | badData (cause : ErrorInfo) (data : DumploadData)
  | invalidOnly
  | store (data : DumploadData)

def dumploadCause (detail : List Byte) : ErrorInfo :=
  ⟨ddcrcBadData, "create_dumpload_data_from_g_ptr_array", some (asText detail), []⟩

def atLine (linectr : Nat) (line : List Byte) : List Byte := ascii " at line " ++ decimal linectr ++ ascii ": " ++ line

def dataError (expl : String) (linectr : Nat) (line : List Byte) (data : DumploadData) : LineEffect :=
  .badData (dumploadCause (ascii expl ++ atLine linectr line)) data

def trimEnd (s : List Byte) : List Byte := s.rdropWhile fun c => c == blank || c == newline

/-- The value of a `VCP` line, read by the kind of its feature, or the error it makes. -/
def readFeatureValue (isTableFeature : Bool) (featureId : Byte) (s2 : List Byte) : Except String AnyVcpValue :=
  if isTableFeature then
    match hhsToByteArray s2 with
    | some bytes => .ok (createTableVcpValueByBytes featureId bytes)
    | none => .error "Invalid hex string value for opcode"
  else
    match scanHu s2 with
    | some featureValue => .ok (createContVcpValue featureId 0 featureValue)
    | none => .error "Invalid value for opcode"

def readVcpLine (tableFeatures : TableFeatures) (data : DumploadData) (linectr : Nat) (line s1 : List Byte)
    (s2 : Option (List Byte)) : LineEffect :=
  match s2 with
  | none => dataError "Invalid VCP data" linectr line data
  | some s2 =>
    match hhsToByteInBuf s1 with
    | none => dataError "Invalid  opcode" linectr line data
    | some featureId =>
      match readFeatureValue (data.isTableFeature tableFeatures featureId) featureId s2 with
      | .error expl => dataError expl linectr line data
      | .ok valrec => .store { data with
          vcpValueCt := data.vcpValueCt + 1
          vcpValues := data.vcpValues ++ [valrec] }

def readProductCode (s1 : List Byte) : Option Nat :=
  match strToInt s1 10 with
  | some ival => if 0 ≤ ival ∧ ival ≤ 65535 then some ival.toNat else none
  | none => none

def readKeyword (tableFeatures : TableFeatures) (data : DumploadData) (linectr : Nat)
    (line s0 s1 : List Byte) (s2 : Option (List Byte)) (rest : List Byte) : LineEffect :=
  if s0 = ascii "BUS" then .skip
  else if s0 = ascii "PRODUCT_CODE" then
    match readProductCode s1 with
    | some productCode => .store { data with productCode := productCode }
    | none => .invalidOnly
  else if s0 = ascii "EDID" ∨ s0 = ascii "EDIDSTR" then .store { data with edidstr := strlcpy s1 257 }
  else if s0 = ascii "MFG_ID" then .store { data with mfgId := strlcpy s1 edidMfgIdFieldSize }
  else if s0 = ascii "MODEL" then .store { data with model := strlcpy rest edidModelNameFieldSize }
  else if s0 = ascii "SN" then .store { data with serialAscii := strlcpy rest edidSerialAsciiFieldSize }
  else if s0 = ascii "VCP_VERSION" then
    let data := { data with vcpVersion := parseVspec s1 }
    if data.vcpVersion = vspecUnknown then dataError "Invalid VCP VERSION" linectr line data else .store data
  else if s0 = ascii "TIMESTAMP_TEXT" ∨ s0 = ascii "TIMESTAMP_MILLIS" then .skip
  else if s0 = ascii "VCP" then readVcpLine tableFeatures data linectr line s1 s2
  else
    .badData (dumploadCause (ascii "Unexpected field \"" ++ s0 ++ ascii "\"" ++ atLine linectr line)) data

def isComment (s0 : List Byte) : Bool := s0.head? == some 0x2a || s0.head? == some 0x23

def lineHead (line : List Byte) : List Byte := line.dropWhile (· == blank)

def lineWords (line : List Byte) : List (List Byte) := scanWords [31, 256, 15] (lineHead line)

def lineRest (line s0 : List Byte) : List Byte :=
  trimEnd (((lineHead line).drop s0.length).dropWhile (· == blank))

/-- One turn of the loop.  White space at the end of a line with a value is cut off the line itself. -/
def readLine (tableFeatures : TableFeatures) (data : DumploadData) (linectr : Nat) (line : List Byte) : LineEffect :=
  match lineWords line with
  | [] => .skip
  | s0 :: words =>
    if isComment s0 then .skip
    else
      match words with
      | [] => dataError "Invalid data" linectr line data
      | s1 :: words => readKeyword tableFeatures data linectr (trimEnd line) s0 s1 words.head? (lineRest line s0)

/-! ## All lines -/

structure Reading where
  linectr : Nat
  data : DumploadData
  causes : List ErrorInfo
  validData : Bool

def startReading : Reading := ⟨0, dumploadDefaults, [], true⟩

def readTurn (tableFeatures : TableFeatures) (r : Reading) (line : List Byte) : Reading :=
  let linectr := r.linectr + 1
  match readLine tableFeatures r.data linectr line with
  | .skip => { r with linectr := linectr }
  | .badData cause data =>
    { r with linectr := linectr, data := data, causes := r.causes ++ [cause], validData := false }
  | .invalidOnly => { r with linectr := linectr, validData := false }
  | .store data => { r with linectr := linectr, data := data }

def readLines (tableFeatures : TableFeatures) (lines : List (List Byte)) : Reading :=
  lines.foldl (readTurn tableFeatures) startReading

def createDumploadDataFromGPtrArray (tableFeatures : TableFeatures) (garray : List (List Byte)) :
    Exec (Option ErrorInfo × Option DumploadData) := do
  let r := readLines tableFeatures garray
  check ((r.validData = true ∧ r.causes.length = 0) ∨ (r.validData = false ∧ 0 < r.causes.length))
  .ok (if r.causes.length = 0 then (none, some r.data)
    else (some ⟨ddcrcBadData, "create_dumpload_data_from_g_ptr_array", none, r.causes⟩, none))

/-! ## Applying the values of a dump

`ddc_set_multiple` and `loadvcp_by_dumpload_data` of `ddc_dumpload.c`, over what the calls they make return: the
search for the display, opening and closing it, and each set.  What was done is kept in order.
-/

open List

structure LoadHandle where
  modelName : List Byte
  serialAscii : List Byte

/-- **What the calls return**: `setValue n` is the outcome of the `n`th call of
`ddc_set_verified_vcp_value_with_retry`.  An error names the function that made it. -/
structure LoadCalls (D : Type) where
  findDisplay : (mfgId model serialAscii : List Byte) → Option D
  openDisplay : D → Except ErrorInfo LoadHandle
  setValue : Nat → Option ErrorInfo
  closeDisplay : Option ErrorInfo
  setFunc : ∀ n e, setValue n = some e → e.func ≠ "ddc_close_display"
  closeFunc : ∀ e, closeDisplay = some e → e.func = "ddc_close_display"

inductive LoadEvent where
  | opened
  | set (vrec : AnyVcpValue)
  | closed
  deriving DecidableEq

variable {D : Type}

def ddcSetMultiple (c : LoadCalls D) : Nat → List AnyVcpValue → Option ErrorInfo × List LoadEvent
  | _, [] => (none, [])
  | ndx, vrec :: vset =>
    match c.setValue ndx with
    | some ddcExcp => (some ddcExcp, [.set vrec])
    | none =>
      let rest := ddcSetMultiple c (ndx + 1) vset
      (rest.1, .set vrec :: rest.2)

def checkTarget (pdata : DumploadData) (dh : LoadHandle) : Option ErrorInfo :=
  if dh.serialAscii ≠ pdata.serialAscii then
    some ⟨ddcrcInvalidDisplay, asText pdata.serialAscii, some (asText dh.serialAscii), []⟩
  else if dh.modelName ≠ pdata.model then
    let inData := asText pdata.model
    let ofDevice := asText dh.modelName
    some ⟨ddcrcInvalidDisplay, "loadvcp_by_dumpload_data",
      some s!"Monitor model in data ({inData}) does not match that for specified device ({ofDevice})", []⟩
  else none

def openTarget (c : LoadCalls D) (pdata : DumploadData) : Except ErrorInfo LoadHandle :=
  if pdata.mfgId.length + pdata.model.length + pdata.serialAscii.length = 0 then
    .error ⟨ddcrcInvalidDisplay, "loadvcp_by_dumpload_data",
      some "Monitor manufacturer id, model, and serial number all missing from input.", []⟩
  else
    match c.findDisplay pdata.mfgId pdata.model pdata.serialAscii with
    | none =>
      let model := asText pdata.model
      let serialAscii := asText pdata.serialAscii
      .error ⟨ddcrcInvalidDisplay, "loadvcp_by_dumpload_data",
        some s!"Monitor not connected: {model} - {serialAscii}", []⟩
    | some dref => c.openDisplay dref

def loadvcpByDumploadData (c : LoadCalls D) (pdata : DumploadData) (dh : Option LoadHandle) :
    Option ErrorInfo × List LoadEvent :=
  match dh with
  | some dh =>
    match checkTarget pdata dh with
    | some ddcExcp => (some ddcExcp, [])
    | none => ddcSetMultiple c 0 pdata.vcpValues
  | none =>
    match openTarget c pdata with
    | .error ddcExcp => (some ddcExcp, [])
    | .ok _ =>
      let done := ddcSetMultiple c 0 pdata.vcpValues
      -- the outcome of closing replaces that of the sets
      (c.closeDisplay, .opened :: done.2 ++ [.closed])

/-! ## What is claimed -/

def LoadEvent.value? : LoadEvent → Option AnyVcpValue
  | .set vrec => some vrec
  | .opened | .closed => none

def setsTried (events : List LoadEvent) : List AnyVcpValue := events.filterMap LoadEvent.value?

structure LoadRight (c : LoadCalls D) (values : List AnyVcpValue) (r : Option ErrorInfo × List LoadEvent) : Prop where
  /-- The values are tried in file order, none after one that failed. -/
  inOrder : ∃ n, setsTried r.2 = values.take n ∧ ∀ i, i + 1 < n → c.setValue i = none
  /-- `NULL` only if every value was set. -/
  success : r.1 = none → setsTried r.2 = values ∧ ∀ i < values.length, c.setValue i = none
  /-- The error of the first value that failed. -/
  failure : ∀ i e, i < (setsTried r.2).length → (∀ j < i, c.setValue j = none) → c.setValue i = some e → r.1 = some e
  /-- Closed if and only if it was opened. -/
  closes : .closed ∈ r.2 ↔ .opened ∈ r.2

theorem ddcSetMultiple_cases (c : LoadCalls D) : ∀ (ndx : Nat) (vset : List AnyVcpValue),
    (ddcSetMultiple c ndx vset = (none, vset.map .set) ∧ ∀ i < vset.length, c.setValue (ndx + i) = none) ∨
    ∃ k e, k < vset.length ∧ (∀ i < k, c.setValue (ndx + i) = none) ∧ c.setValue (ndx + k) = some e ∧
      ddcSetMultiple c ndx vset = (some e, (vset.take (k + 1)).map .set)
  | _, [] => .inl ⟨rfl, fun i hi => absurd hi (Nat.not_lt_zero i)⟩
  | ndx, vrec :: vset => by
    rw [ddcSetMultiple]
    cases h : c.setValue ndx with
    | some e => exact .inr ⟨0, e, Nat.succ_pos _, fun i hi => absurd hi (Nat.not_lt_zero i), h, rfl⟩
    | none =>
      have hshift : ∀ i, ndx + (i + 1) = ndx + 1 + i := fun i => by omega
      rcases ddcSetMultiple_cases c (ndx + 1) vset with ⟨hr, hall⟩ | ⟨k, e, hk, hbefore, hfail, hr⟩
      · refine .inl ⟨by simp only [hr]; rfl, fun i hi => ?_⟩
        cases i with
        | zero => exact h
        | succ i =>
          rw [hshift]; exact hall i (Nat.lt_of_succ_lt_succ hi)
      · refine .inr ⟨k + 1, e, Nat.succ_lt_succ hk, fun i hi => ?_, by rw [hshift]; exact hfail, by simp only [hr]; rfl⟩
        cases i with
        | zero => exact h
        | succ i =>
          rw [hshift]; exact hbefore i (Nat.lt_of_succ_lt_succ hi)

variable (values : List AnyVcpValue)

theorem setsTried_map_set : setsTried (values.map .set) = values := by
  rw [setsTried, filterMap_map]; exact filterMap_some

theorem setsTried_opened_closed : setsTried (.opened :: values.map .set ++ [.closed]) = values := by
  have happend : setsTried (.opened :: values.map .set ++ [.closed]) = setsTried (values.map .set) ++ [] :=
    filterMap_append
  rw [happend, append_nil, setsTried_map_set]

theorem loadRight_not_tried (c : LoadCalls D) (values : List AnyVcpValue) (e : ErrorInfo) :
    LoadRight c values (some e, []) where
  inOrder := ⟨0, rfl, fun i hi => absurd hi (Nat.not_lt_zero _)⟩
  success := fun h => by cases h
  failure := fun i e hi => absurd hi (Nat.not_lt_zero i)
  closes := ⟨fun h => absurd h not_mem_nil, fun h => absurd h not_mem_nil⟩

theorem loadRight_of_tried {c : LoadCalls D} {values : List AnyVcpValue} {r : Option ErrorInfo × List LoadEvent}
    {k : Nat} {e : ErrorInfo} (htried : setsTried r.2 = values.take (k + 1)) (hk : k < values.length)
    (hbefore : ∀ i < k, c.setValue (0 + i) = none) (hfail : c.setValue (0 + k) = some e)
    (hcloses : .closed ∈ r.2 ↔ .opened ∈ r.2) : LoadRight c values r ↔ r.1 = some e := by
  have hlen : (setsTried r.2).length = k + 1 := by rw [htried, length_take]; omega
  simp only [Nat.zero_add] at hbefore hfail
  constructor
  · exact fun h => h.failure k e (hlen ▸ Nat.lt_succ_self k) hbefore hfail
  · intro hr
    refine ⟨⟨k + 1, htried, fun i hi => hbefore i (Nat.lt_of_succ_lt_succ hi)⟩, ?_, ?_, hcloses⟩
    · intro hnone
      rw [hr] at hnone; cases hnone
    · intro i e' hi hall hfail'
      -- the first failure is the one at which the loop ended
      have hik : i = k := by
        rcases Nat.lt_trichotomy i k with hlt | heq | hgt
        · rw [hbefore i hlt] at hfail'; cases hfail'
        · exact heq
        · rw [hall k hgt] at hfail; cases hfail
      subst hik
      rw [hfail] at hfail'
      rw [hr, hfail']

theorem loadRight_of_all {c : LoadCalls D} {values : List AnyVcpValue} {r : Option ErrorInfo × List LoadEvent}
    (htried : setsTried r.2 = values) (hall : ∀ i < values.length, c.setValue (0 + i) = none)
    (hcloses : .closed ∈ r.2 ↔ .opened ∈ r.2) : LoadRight c values r := by
  simp only [Nat.zero_add] at hall
  refine ⟨⟨values.length, by rw [htried, take_length], fun i hi => hall i (Nat.lt_of_succ_lt hi)⟩,
    fun _ => ⟨htried, hall⟩, ?_, hcloses⟩
  intro i e hi _ hfail
  rw [hall i (htried ▸ hi)] at hfail; cases hfail

theorem closes_map_set :
    LoadEvent.closed ∈ values.map LoadEvent.set ↔ LoadEvent.opened ∈ values.map LoadEvent.set := by
  simp only [mem_map, reduceCtorEq, and_false, exists_false]

theorem closes_opened_closed (events : List LoadEvent) :
    LoadEvent.closed ∈ .opened :: events ++ [.closed] ↔ LoadEvent.opened ∈ .opened :: events ++ [.closed] :=
  ⟨fun _ => mem_append_left _ mem_cons_self, fun _ => mem_append_right _ mem_cons_self⟩

/-- **A load does what is claimed unless it opens the display itself and a value is not set.** -/
theorem loadRight_iff (c : LoadCalls D) (pdata : DumploadData) (dh : Option LoadHandle) :
    LoadRight c pdata.vcpValues (loadvcpByDumploadData c pdata dh) ↔
      ¬ (dh = none ∧ (∃ opened, openTarget c pdata = .ok opened) ∧
        ∃ i < pdata.vcpValues.length, c.setValue i ≠ none) := by
  cases dh with
  | some dh =>
    refine ⟨fun _ h => absurd h.1 (Option.some_ne_none dh), fun _ => ?_⟩
    rw [loadvcpByDumploadData]
    cases checkTarget pdata dh with
    | some e => exact loadRight_not_tried c _ e
    | none =>
      rcases ddcSetMultiple_cases c 0 pdata.vcpValues with ⟨hr, hall⟩ | ⟨k, e, hk, hbefore, hfail, hr⟩
      · simp only [hr]; exact loadRight_of_all (setsTried_map_set _) hall (closes_map_set _)
      · simp only [hr]
        exact (loadRight_of_tried (setsTried_map_set _) hk hbefore hfail (closes_map_set _)).2 rfl
  | none =>
    rw [loadvcpByDumploadData]
    cases ho : openTarget c pdata with
    | error e =>
      refine ⟨fun _ h => ?_, fun _ => loadRight_not_tried c _ e⟩
      obtain ⟨-, ⟨_, h⟩, -⟩ := h
      cases h
    | ok opened =>
      rcases ddcSetMultiple_cases c 0 pdata.vcpValues with ⟨hr, hall⟩ | ⟨k, e, hk, hbefore, hfail, hr⟩
      · simp only [hr]
        refine ⟨fun _ h => ?_,
          fun _ => loadRight_of_all (setsTried_opened_closed _) hall (closes_opened_closed _)⟩
        obtain ⟨-, -, i, hi, hne⟩ := h
        have hi := hall i hi
        rw [Nat.zero_add] at hi; exact hne hi
      · simp only [hr]
        rw [loadRight_of_tried (setsTried_opened_closed _) hk hbefore hfail (closes_opened_closed _)]
        rw [Nat.zero_add] at hfail
        have hclose : c.closeDisplay ≠ some e := fun h => c.setFunc k e hfail (c.closeFunc e h)
        refine ⟨fun h => absurd h hclose, fun h => absurd ⟨trivial, ⟨opened, rfl⟩, k, hk, ?_⟩ h⟩
        rw [hfail]; exact Option.some_ne_none e

def firstSetFails : LoadCalls Unit where
  findDisplay := fun _ _ _ => some ()
  openDisplay := fun _ => .ok ⟨ascii "U3011", []⟩
  setValue := fun n => if n = 0 then some (errinfoNew ddcrcRetries "ddc_write_only_with_retry") else none
  closeDisplay := none
  setFunc := by
    intro n e h
    split at h
    · cases h; decide
    · cases h
  closeFunc := fun e h => by cases h

def oneValueData : DumploadData :=
  { dumploadDefaults with model := ascii "U3011", vcpValueCt := 1, vcpValues := [createContVcpValue 0x10 100 50] }

/-- **The error of the set is replaced by the outcome of closing.** -/
theorem setError_lost_on_close :
    (loadvcpByDumploadData firstSetFails oneValueData none).1 = none ∧ firstSetFails.setValue 0 ≠ none ∧
      ¬ LoadRight firstSetFails oneValueData.vcpValues (loadvcpByDumploadData firstSetFails oneValueData none) := by
  refine ⟨rfl, fun h => (by cases h), fun h => ?_⟩
  have hset : firstSetFails.setValue 0 = none := (h.success rfl).2 0 (by decide)
  cases hset

end Ddc
