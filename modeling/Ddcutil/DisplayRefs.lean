import Ddcutil.Kit.Pool
import Ddcutil.Status
/-!
# DisplayRefs — display references, bus records and the search for a bus's reference

The bus records are memory that is freed when a bus goes away; a display reference has a pointer to the record of its
bus. References are never freed and their list only grows, so the index of a reference is its identity.
-/
namespace Ddc

open Kit List Exec

/-- **`I2C_Bus_Info`**, as far as displays coming and going reads and changes it. -/
structure BusInfo where
  busno : Nat
  hasEdid : Bool
  probed : Bool
  ddcChecksIgnorable : Bool
  drmConnectorName : Option String
  deriving DecidableEq

structure DrefFlags where
  communicationChecked : Bool
  communicationWorking : Bool
  usesDdcFlagForUnsupported : Bool
  transient : Bool
  busy : Bool
  removed : Bool
  ddcDisabled : Bool
  deriving DecidableEq

def noDrefFlags : DrefFlags := ⟨false, false, false, false, false, false, false⟩

abbrev DrefFlagWord := UInt16

def drefDdcCommunicationChecked : DrefFlagWord := 0x0001
def drefDdcCommunicationWorking : DrefFlagWord := 0x0002
def drefUnsupportedChecked : DrefFlagWord := 0x0010
def drefDdcUsesNullResponseForUnsupported : DrefFlagWord := 0x0020
def drefDdcUsesMhMlShSlZeroForUnsupported : DrefFlagWord := 0x0040
def drefDdcUsesDdcFlagForUnsupported : DrefFlagWord := 0x0080
def drefDdcDoesNotIndicateUnsupported : DrefFlagWord := 0x0100
def drefDynamicFeaturesChecked : DrefFlagWord := 0x0200
def drefOpen : DrefFlagWord := 0x0800
def drefDdcBusy : DrefFlagWord := 0x1000
def drefRemoved : DrefFlagWord := 0x2000
def drefDdcDisabled : DrefFlagWord := 0x4000

def dispnoInvalid : Int := -1
def dispnoPhantom : Int := -2
def dispnoRemoved : Int := -3
def dispnoBusy : Int := -4
def dispnoDdcDisabled : Int := -5

/-- **`Display_Ref`**, as far as displays coming and going reads and changes it: `detail` points to the bus record, and
the clock never reads zero. -/
structure DisplayRef where
  ioPath : IoPath
  flags : DrefFlags
  dispno : Int
  detail : Option Address
  drmConnector : Option String
  creationTimestamp : Nat
  created : 0 < creationTimestamp
  deriving DecidableEq

def readBusInfo (buses : Heap BusInfo) : Option Address → Exec BusInfo
  | none => .error .nullDeref
  | some a =>
    match buses.cells a with
    | some businfo => .ok businfo
    | none => .error .outOfBounds

/-! ## The search -/

inductive DrefKey where
  | byBusno (busno : Nat)
  | byConnector (name : String)
  deriving DecidableEq

def isI2c : IoPath → Bool
  | .i2c _ => true
  | .usb _ => false

def DrefKey.matches : DrefKey → DisplayRef → Bool
  | .byBusno busno, dref => dref.ioPath = .i2c busno
  | .byConnector name, dref => isI2c dref.ioPath && decide (dref.drmConnector = some name)

def ignored (ignoreInvalid : Bool) (dref : DisplayRef) : Bool :=
  ignoreInvalid && decide (dref.dispno ≤ 0) || ignoreInvalid && dref.flags.removed || !isI2c dref.ioPath

def checkConnector (buses : Heap BusInfo) (key : DrefKey) (dref : DisplayRef) : Exec Unit :=
  match key, dref.detail with
  | .byBusno _, _ => .ok ()
  | .byConnector _, none => .ok ()
  | .byConnector _, some a => do
    let businfo ← readBusInfo buses (some a)
    check (businfo.drmConnectorName = dref.drmConnector)

structure DrefSearch where
  result : Option Nat
  nonRemovedCt : Nat
  highest : Nat
  deriving DecidableEq

def searchDref (buses : Heap BusInfo) (key : DrefKey) (ignoreInvalid : Bool) (s : DrefSearch) (dref : DisplayRef)
    (ndx : Nat) : Exec DrefSearch :=
  if ignored ignoreInvalid dref = true then .ok s
  else do
    checkConnector buses key dref
    .ok (
      if key.matches dref = true then
        if s.highest < dref.creationTimestamp then ⟨some ndx, s.nonRemovedCt + 1, dref.creationTimestamp⟩
        else ⟨s.result, s.nonRemovedCt + 1, s.highest⟩
      else s)

def searchDrefs (buses : Heap BusInfo) (key : DrefKey) (ignoreInvalid : Bool) : List DisplayRef → Nat → DrefSearch →
    Exec DrefSearch
  | [], _, s => .ok s
  | dref :: drefs, ndx, s => do
    let s ← searchDref buses key ignoreInvalid s dref ndx
    searchDrefs buses key ignoreInvalid drefs (ndx + 1) s

def DisplayRef.markRemoved (dref : DisplayRef) : DisplayRef := { dref with flags := { dref.flags with removed := true } }

def repairDref (key : DrefKey) (ignoreInvalid : Bool) (highest : Nat) (dref : DisplayRef) : DisplayRef :=
  if ignored ignoreInvalid dref = false ∧ key.matches dref = true ∧ dref.creationTimestamp < highest then
    dref.markRemoved
  else dref

/-- **`get_dref_by_busno_or_connector`**: the index of the reference, and the references after it. -/
def getDrefByBusnoOrConnector (buses : Heap BusInfo) (allDisplayRefs : List DisplayRef) (key : DrefKey)
    (ignoreInvalid : Bool) : Exec (Option Nat × List DisplayRef) := do
  let s ← searchDrefs buses key ignoreInvalid allDisplayRefs 0 ⟨none, 0, 0⟩
  if 1 < s.nonRemovedCt then do
    check (ignoreInvalid = true)
    .ok (s.result, allDisplayRefs.map (repairDref key ignoreInvalid s.highest))
  else .ok (s.result, allDisplayRefs)

/-! ## What the search finds -/

def Counted (key : DrefKey) (ignoreInvalid : Bool) (dref : DisplayRef) : Prop :=
  ignored ignoreInvalid dref = false ∧ key.matches dref = true

instance (key : DrefKey) (ignoreInvalid : Bool) : DecidablePred (Counted key ignoreInvalid) :=
  fun _ => inferInstanceAs (Decidable (_ ∧ _))

def ConnectorsAgree (buses : Heap BusInfo) (drefs : List DisplayRef) (key : DrefKey) (ignoreInvalid : Bool) : Prop :=
  ∀ dref ∈ drefs, ignored ignoreInvalid dref = false → checkConnector buses key dref = .ok ()

theorem connectorsAgree_busno (buses : Heap BusInfo) (drefs : List DisplayRef) (busno : Nat) (ignoreInvalid : Bool) :
    ConnectorsAgree buses drefs (.byBusno busno) ignoreInvalid := fun _ _ _ => rfl

structure Searched (key : DrefKey) (ignoreInvalid : Bool) (drefs : List DisplayRef) (s : DrefSearch) : Prop where
  count : s.nonRemovedCt = drefs.countP fun dref => decide (Counted key ignoreInvalid dref)
  highest : ∀ dref ∈ drefs, Counted key ignoreInvalid dref → dref.creationTimestamp ≤ s.highest
  noResult : s.result = none → s.highest = 0
  newest : ∀ ndx, s.result = some ndx → ∃ dref, drefs[ndx]? = some dref ∧ Counted key ignoreInvalid dref ∧
    dref.creationTimestamp = s.highest

theorem searched_nil (key : DrefKey) (ignoreInvalid : Bool) : Searched key ignoreInvalid [] ⟨none, 0, 0⟩ :=
  ⟨rfl, fun _ h => absurd h not_mem_nil, fun _ => rfl, fun _ h => nomatch h⟩

variable {key : DrefKey} {ignoreInvalid : Bool} {drefs : List DisplayRef} {s : DrefSearch} {dref : DisplayRef}
variable {buses : Heap BusInfo}

theorem Searched.pass (hs : Searched key ignoreInvalid drefs s) (h : ¬ Counted key ignoreInvalid dref) :
    Searched key ignoreInvalid (drefs ++ [dref]) s := by
  refine ⟨?_, fun d hd hcounted => ?_, hs.noResult, fun ndx hndx => ?_⟩
  · rw [hs.count, countP_append, countP_singleton, if_neg (by simpa using h), Nat.add_zero]
  · rw [mem_append, mem_singleton] at hd
    rcases hd with hd | rfl
    · exact hs.highest d hd hcounted
    · exact absurd hcounted h
  · obtain ⟨d, hd, hcounted, hts⟩ := hs.newest ndx hndx
    exact ⟨d, getElem?_append_left (List.getElem?_eq_some_iff.1 hd).1 ▸ hd, hcounted, hts⟩

theorem searchDref_spec {s' : DrefSearch} (hs : Searched key ignoreInvalid drefs s)
    (h : searchDref buses key ignoreInvalid s dref drefs.length = .ok s') :
    Searched key ignoreInvalid (drefs ++ [dref]) s' := by
  have hlast : (drefs ++ [dref])[drefs.length]? = some dref := getElem?_concat_length
  unfold searchDref at h
  by_cases hignored : ignored ignoreInvalid dref = true
  · rw [if_pos hignored] at h
    cases h; exact hs.pass fun hcounted => Bool.false_ne_true (hcounted.1.symm.trans hignored)
  rw [if_neg hignored] at h
  obtain ⟨-, -, h⟩ := bind_eq_ok.1 h
  cases h
  split
  · rename_i hmatches
    have hcounted : Counted key ignoreInvalid dref := ⟨Bool.not_eq_true _ ▸ hignored, hmatches⟩
    have hcount : s.nonRemovedCt + 1 =
        (drefs ++ [dref]).countP fun dref => decide (Counted key ignoreInvalid dref) := by
      rw [hs.count, countP_append, countP_singleton, if_pos (by simpa using hcounted)]
    split
    · rename_i hnewer
      refine ⟨hcount, fun d hd hd' => ?_, (fun hnone => nomatch hnone), fun ndx hndx => ?_⟩
      · rw [mem_append, mem_singleton] at hd
        rcases hd with hd | rfl
        · exact Nat.le_of_lt (Nat.lt_of_le_of_lt (hs.highest d hd hd') hnewer)
        · exact Nat.le_refl _
      · cases hndx; exact ⟨dref, hlast, hcounted, rfl⟩
    · rename_i holder
      refine ⟨hcount, fun d hd hd' => ?_, hs.noResult, fun ndx hndx => ?_⟩
      · rw [mem_append, mem_singleton] at hd
        rcases hd with hd | rfl
        · exact hs.highest d hd hd'
        · exact Nat.le_of_not_lt holder
      · obtain ⟨d, hd, hd', hts⟩ := hs.newest ndx hndx
        exact ⟨d, getElem?_append_left (List.getElem?_eq_some_iff.1 hd).1 ▸ hd, hd', hts⟩
  · rename_i hmatches; exact hs.pass fun hcounted => hmatches hcounted.2

theorem searchDrefs_spec (drefs : List DisplayRef) :
    ∀ {pre : List DisplayRef} {s s' : DrefSearch}, Searched key ignoreInvalid pre s →
      searchDrefs buses key ignoreInvalid drefs pre.length s = .ok s' → Searched key ignoreInvalid (pre ++ drefs) s' := by
  induction drefs with
  | nil =>
    intro pre s s' hs h
    cases h
    rw [append_nil]; exact hs
  | cons dref drefs ih =>
    intro pre s s' hs h
    obtain ⟨t, ht, h⟩ := bind_eq_ok.1 h
    have hlen : pre.length + 1 = (pre ++ [dref]).length := by rw [length_append, length_singleton]
    rw [hlen] at h
    have hrest := ih (searchDref_spec hs ht) h
    rwa [append_assoc, singleton_append] at hrest

theorem searchDrefs_returns (drefs : List DisplayRef) :
    ∀ (ndx : Nat) (s : DrefSearch), (∃ s', searchDrefs buses key ignoreInvalid drefs ndx s = .ok s') ↔
      ConnectorsAgree buses drefs key ignoreInvalid := by
  induction drefs with
  | nil => exact fun ndx s => ⟨fun _ _ h => absurd h not_mem_nil, fun _ => ⟨s, rfl⟩⟩
  | cons dref drefs ih =>
    intro ndx s
    constructor
    · rintro ⟨s', h⟩ d hd hignored
      obtain ⟨t, ht, h⟩ := bind_eq_ok.1 h
      rcases mem_cons.1 hd with rfl | hd
      · rw [searchDref, if_neg (Bool.eq_false_iff.1 hignored)] at ht
        obtain ⟨u, hu, -⟩ := bind_eq_ok.1 ht
        exact hu
      · exact (ih (ndx + 1) t).1 ⟨s', h⟩ d hd hignored
    · intro hagree
      have hrest := fun t => (ih (ndx + 1) t).2 fun d hd => hagree d (mem_cons_of_mem _ hd)
      by_cases hignored : ignored ignoreInvalid dref = true
      · obtain ⟨s', hs'⟩ := hrest s
        refine ⟨s', ?_⟩
        rw [searchDrefs, searchDref, if_pos hignored, ok_bind, hs']
      · obtain ⟨s', hs'⟩ := hrest (if key.matches dref = true then
          if s.highest < dref.creationTimestamp then ⟨some ndx, s.nonRemovedCt + 1, dref.creationTimestamp⟩
          else ⟨s.result, s.nonRemovedCt + 1, s.highest⟩
        else s)
        refine ⟨s', ?_⟩
        rw [searchDrefs, searchDref, if_neg hignored, hagree dref mem_cons_self (Bool.eq_false_iff.2 hignored),
          ok_bind, ok_bind, hs']

theorem getDref_spec (hagree : ConnectorsAgree buses drefs key ignoreInvalid) :
    ∃ s, Searched key ignoreInvalid drefs s ∧ getDrefByBusnoOrConnector buses drefs key ignoreInvalid =
      if 1 < s.nonRemovedCt then
        if ignoreInvalid = true then .ok (s.result, drefs.map (repairDref key ignoreInvalid s.highest))
        else .error .assertFailed
      else .ok (s.result, drefs) := by
  obtain ⟨s, hs⟩ := (searchDrefs_returns drefs 0 ⟨none, 0, 0⟩).2 hagree
  refine ⟨s, ?_, ?_⟩
  · have hall : Searched key ignoreInvalid ([] ++ drefs) s := searchDrefs_spec drefs (searched_nil key ignoreInvalid) hs
    exact hall
  · rw [getDrefByBusnoOrConnector, hs, ok_bind]
    split
    · by_cases hign : ignoreInvalid = true
      · rw [check_pos hign, if_pos hign]; rfl
      · rw [check_neg hign, if_neg hign]; rfl
    · rfl

theorem Searched.not_counted (hs : Searched key ignoreInvalid drefs s) (hnone : s.result = none)
    (hdref : dref ∈ drefs) : ¬ Counted key ignoreInvalid dref := by
  intro hcounted
  have hle := hs.highest dref hdref hcounted
  rw [hs.noResult hnone] at hle; exact Nat.not_lt.2 hle dref.created

end Ddc
