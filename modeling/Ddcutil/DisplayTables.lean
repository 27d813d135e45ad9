import Ddcutil.DisplayData
import Ddcutil.Dsa2Frame
import Ddcutil.Kit.Pool
/-!
# DisplayTables — the results tables that displays point to

`results_tables[]` holds pointers, and every `Per_Display_Data` holds a copy of the pointer of its bus in `dsa2_data`.
This is the module of `dsa2.c` with the array as a `Kit.Pool` and the module of `per_display_data.c` over it.
-/
namespace Ddc

open Kit List Function

/-! ## The array of pointers -/

/-- **The variables of `dsa2.c`**, with `results_tables[]` as it is: an array of pointers. -/
structure Dsa2Tables where
  dsa2Enabled : Bool
  initialStep : Int
  resultsTables : Pool ResultsTable

def Dsa2Tables.view (g : Dsa2Tables) : Dsa2 where
  dsa2Enabled := g.dsa2Enabled
  initialStep := g.initialStep
  resultsTables := (List.range (i2cBusMax + 1)).map g.resultsTables.value
  length_eq := by rw [length_map, length_range]

def inResultsTables (busno : Nat) : Exec Unit := if busno ≤ i2cBusMax then .ok () else .error .outOfBounds

def Dsa2Tables.resetResultsTable (settings : Dsa2Settings) (g : Dsa2Tables) (busno : Nat) (sleepMultiplier : ℚ)
    (busInfo : Option Byte) : Exec Dsa2Tables := do
  inResultsTables busno
  let initialStep ← dsa2MultiplierToStep settings (if 0 ≤ sleepMultiplier then sleepMultiplier else 1)
  let checkbyte ← getEdidCheckbyte busInfo
  let rtable := newResultsTable g.initialStep busno
  .ok { g with resultsTables := (g.resultsTables.discard busno).create busno { rtable with
    initialStep := initialStep
    curStep := initialStep
    curRetryLoopStep := initialStep
    state := rtableBusDetected
    edidChecksumByte := checkbyte } }

/-- The array after an entry found has been checked: written to where it stays, freed where its EDID has changed. -/
def keepVerified (tables : Pool ResultsTable) (busno : Nat) (verified : Option ResultsTable) : Pool ResultsTable :=
  match tables.slots busno, verified with
  | some a, some rtable => tables.write a rtable
  | some _, none => tables.discard busno
  | none, _ => tables

def keepCreated (tables : Pool ResultsTable) (busno : Nat) (created : Option ResultsTable) : Pool ResultsTable :=
  match tables.slots busno, created with
  | none, some rtable => tables.create busno rtable
  | _, _ => tables

/-- `dsa2_get_results_table_by_busno`; the pointer it returns is the one it leaves in the array. -/
def Dsa2Tables.getResultsTableByBusno (g : Dsa2Tables) (busno : Nat) (createIfNotFound : Bool)
    (busInfo : Option Byte) : Exec Dsa2Tables := do
  check (busno ≤ i2cBusMax)
  let verified ← verifyCached (g.resultsTables.value busno) busInfo
  let rtable ← createMissing g.initialStep busno createIfNotFound busInfo verified
  .ok { g with resultsTables := keepCreated (keepVerified g.resultsTables busno verified) busno rtable }

/-! ## The functions on pointers are those on tables -/

variable {busno : Nat} {tables : Pool ResultsTable} {verified : Option ResultsTable} {createIfNotFound : Bool}
variable {busInfo : Option Byte}

theorem Dsa2Tables.fetch_view (g : Dsa2Tables) (h : busno ≤ i2cBusMax) :
    fetch g.view.resultsTables busno = .ok (g.resultsTables.value busno) := by
  rw [fetch_eq_ok]
  change ((List.range (i2cBusMax + 1)).map g.resultsTables.value)[busno]? = some (g.resultsTables.value busno)
  rw [getElem?_map, getElem?_range (Nat.lt_succ_of_le h), Option.map_some]

theorem Dsa2Tables.view_install (g : Dsa2Tables) {rtable : Option ResultsTable}
    (h : tables.value = update g.resultsTables.value busno rtable) :
    ({ g with resultsTables := tables } : Dsa2Tables).view = g.view.install busno rtable := by
  have hlist : (List.range (i2cBusMax + 1)).map tables.value =
      ((List.range (i2cBusMax + 1)).map g.resultsTables.value).set busno rtable := by
    apply ext_getElem
    · simp only [length_map, length_set]
    · intro i _ _
      rw [getElem_map, getElem_range, getElem_set, getElem_map, getElem_range, h]
      by_cases hi : busno = i
      · rw [if_pos hi, hi, update_self]
      · rw [if_neg hi, update_of_ne (Ne.symm hi)]
  unfold Dsa2Tables.view Dsa2.install
  simp only [hlist]

theorem inResultsTables_eq_ok {u : Unit} : inResultsTables busno = .ok u ↔ busno ≤ i2cBusMax := by
  unfold inResultsTables
  split
  · exact iff_of_true rfl ‹_›
  · exact iff_of_false (fun h => nomatch h) ‹_›

theorem keepVerified_value (h : tables.slots busno = none → verified = none) :
    (keepVerified tables busno verified).value = update tables.value busno verified := by
  unfold keepVerified
  cases hs : tables.slots busno with
  | none =>
    have hnone : tables.value busno = none := by rw [Pool.value, hs, Option.bind_none]
    rw [h hs, ← hnone, update_eq_self]
  | some a =>
    cases verified with
    | none => exact tables.value_discard busno
    | some rtable => exact Pool.value_write hs rtable

theorem keepCreated_value {created : Option ResultsTable}
    (h : ∀ rtable, tables.value busno = some rtable → created = some rtable) :
    (keepCreated tables busno created).value = update tables.value busno created := by
  unfold keepCreated
  cases hs : tables.slots busno with
  | none =>
    have hnone : tables.value busno = none := by rw [Pool.value, hs, Option.bind_none]
    cases created with
    | none => exact ((congrArg _ hnone.symm).trans (update_eq_self ..)).symm
    | some rtable => exact tables.value_create busno rtable
  | some a =>
    obtain ⟨rtable, hvalue⟩ := Pool.value_of_slot hs
    rw [h rtable hvalue, ← hvalue, update_eq_self]

theorem Dsa2Tables.getResultsTableByBusno_eq_ok {g g' : Dsa2Tables}
    (h : g.getResultsTableByBusno busno createIfNotFound busInfo = .ok g') :
    busno ≤ i2cBusMax ∧ ∃ verified rtable, verifyCached (g.resultsTables.value busno) busInfo = .ok verified ∧
      createMissing g.initialStep busno createIfNotFound busInfo verified = .ok rtable ∧
      g' = { g with resultsTables := keepCreated (keepVerified g.resultsTables busno verified) busno rtable } := by
  obtain ⟨_, hle, h⟩ := Exec.bind_eq_ok.1 h
  obtain ⟨verified, hverified, h⟩ := Exec.bind_eq_ok.1 h
  obtain ⟨rtable, hrtable, h⟩ := Exec.bind_eq_ok.1 h
  cases h; exact ⟨check_eq_ok.1 hle, verified, rtable, hverified, hrtable, rfl⟩

theorem verifyCached_none (h : verifyCached none busInfo = .ok verified) : verified = none := (Except.ok.inj h).symm

theorem createMissing_some {initialStep : Int} {rtable : ResultsTable} {created : Option ResultsTable}
    (h : createMissing initialStep busno createIfNotFound busInfo (some rtable) = .ok created) :
    created = some rtable := (Except.ok.inj h).symm

theorem Dsa2Tables.getResultsTableByBusno_value {g : Dsa2Tables} {rtable : Option ResultsTable}
    (hverified : verifyCached (g.resultsTables.value busno) busInfo = .ok verified)
    (hrtable : createMissing g.initialStep busno createIfNotFound busInfo verified = .ok rtable) :
    (keepCreated (keepVerified g.resultsTables busno verified) busno rtable).value =
      update g.resultsTables.value busno rtable := by
  have hkept : (keepVerified g.resultsTables busno verified).value =
      update g.resultsTables.value busno verified := by
    apply keepVerified_value
    intro hs
    rw [Pool.value, hs, Option.bind_none] at hverified; exact verifyCached_none hverified
  rw [keepCreated_value, hkept, update_idem]
  intro t ht
  rw [hkept, update_self] at ht
  subst ht; exact createMissing_some hrtable

theorem Dsa2Tables.write_view (g : Dsa2Tables) {a : Address} (h : g.resultsTables.slots busno = some a)
    (rtable : ResultsTable) :
    ({ g with resultsTables := g.resultsTables.write a rtable } : Dsa2Tables).view =
      g.view.install busno (some rtable) := g.view_install (Pool.value_write h rtable)

/-! ## Displays -/

def dpathHash : IoPath → Nat
  | .i2c busno => busno
  | .usb hiddevDevno => 100 + hiddevDevno

structure DisplayRecord where
  dpath : IoPath
  userSleepMultiplier : ℚ
  dsa2Enabled : Bool
  dsa2Data : Option Address
  dynamicSleepActive : Bool
  curLoopNullMsgCt : Int
  curLoopNullAdjustmentOccurred : Bool
  tryStats : TryCounters

/-- A display with what its pointer reads; a table that has been freed reads as none, so that any use of it faults. -/
def DisplayRecord.view (pdd : DisplayRecord) (tables : Pool ResultsTable) : PerDisplayData where
  userSleepMultiplier := pdd.userSleepMultiplier
  dsa2Enabled := pdd.dsa2Enabled
  dsa2Data := tables.deref pdd.dsa2Data
  dynamicSleepActive := pdd.dynamicSleepActive
  curLoopNullMsgCt := pdd.curLoopNullMsgCt
  curLoopNullAdjustmentOccurred := pdd.curLoopNullAdjustmentOccurred
  tryStats := pdd.tryStats

def DisplayRecord.leave (pdd : DisplayRecord) (view : PerDisplayData) : DisplayRecord where
  dpath := pdd.dpath
  userSleepMultiplier := view.userSleepMultiplier
  dsa2Enabled := view.dsa2Enabled
  dsa2Data := pdd.dsa2Data
  dynamicSleepActive := view.dynamicSleepActive
  curLoopNullMsgCt := view.curLoopNullMsgCt
  curLoopNullAdjustmentOccurred := view.curLoopNullAdjustmentOccurred
  tryStats := view.tryStats

def writeThrough (tables : Pool ResultsTable) (dsa2Data : Option Address) (rtable : Option ResultsTable) :
    Pool ResultsTable :=
  match dsa2Data, rtable with
  | some a, some rtable => tables.write a rtable
  | _, _ => tables

structure DisplayModule where
  dsa2 : Dsa2Tables
  perDisplayDataHash : Nat → Option DisplayRecord
  defaultUserSleepMultiplier : ℚ

def pddInitPdd (s : DisplayModule) (dpath : IoPath) (busInfo : Option Byte) : Exec (DisplayRecord × Dsa2Tables) := do
  let pdd : DisplayRecord := {
    dpath := dpath
    userSleepMultiplier := s.defaultUserSleepMultiplier
    dsa2Enabled := false
    dsa2Data := none
    dynamicSleepActive := true
    curLoopNullMsgCt := 0
    curLoopNullAdjustmentOccurred := false
    tryStats := ⟨List.replicate (maxMaxTries + 2) 0, length_noTries⟩ }
  match dpath with
  | .usb _ => .ok (pdd, s.dsa2)
  | .i2c busno =>
    if s.dsa2.dsa2Enabled then do
      let dsa2 ← s.dsa2.getResultsTableByBusno busno true busInfo
      .ok ({ pdd with dsa2Enabled := true, dsa2Data := dsa2.resultsTables.slots busno }, dsa2)
    else .ok (pdd, s.dsa2)

def pddGetPerDisplayData (s : DisplayModule) (dpath : IoPath) (createIfNotFound : Bool) (busInfo : Option Byte) :
    Exec DisplayModule :=
  match s.perDisplayDataHash (dpathHash dpath) with
  | some _ => .ok s
  | none =>
    if createIfNotFound then do
      let made ← pddInitPdd s dpath busInfo
      .ok { s with
        dsa2 := made.2
        perDisplayDataHash := update s.perDisplayDataHash (dpathHash dpath) (some made.1) }
    else .ok s

def pddApplyAll (s : DisplayModule) (f : DisplayRecord → DisplayRecord) : DisplayModule :=
  { s with perDisplayDataHash := fun hval => (s.perDisplayDataHash hval).map f }

def pddEnableDynamicSleepAll (s : DisplayModule) (onoff : Bool) : DisplayModule :=
  pddApplyAll { s with dsa2 := { s.dsa2 with dsa2Enabled := onoff } } fun pdd => { pdd with dsa2Enabled := onoff }

def DisplayModule.pdd (s : DisplayModule) (dpath : IoPath) : Exec DisplayRecord :=
  match s.perDisplayDataHash (dpathHash dpath) with
  | some pdd => .ok pdd
  | none => .error .nullDeref

def DisplayModule.setPdd (s : DisplayModule) (dpath : IoPath) (pdd : DisplayRecord) : DisplayModule :=
  { s with perDisplayDataHash := update s.perDisplayDataHash (dpathHash dpath) (some pdd) }

def pddResetMultiplier (settings : Dsa2Settings) (s : DisplayModule) (dpath : IoPath) (multiplier : ℚ)
    (busInfo : Option Byte) : Exec DisplayModule := do
  let pdd ← s.pdd dpath
  let s := s.setPdd dpath { pdd with userSleepMultiplier := multiplier }
  if pdd.dsa2Enabled then do
    let dsa2 ← s.dsa2.resetResultsTable settings pdd.dpath.busno multiplier busInfo
    .ok { s with dsa2 := dsa2 }
  else .ok s

def DisplayModule.onPdd (s : DisplayModule) (dpath : IoPath) (f : PerDisplayData → Exec PerDisplayData) :
    Exec DisplayModule := do
  let pdd ← s.pdd dpath
  let left ← f (pdd.view s.dsa2.resultsTables)
  .ok {
    dsa2 := { s.dsa2 with resultsTables := writeThrough s.dsa2.resultsTables pdd.dsa2Data left.dsa2Data }
    perDisplayDataHash := update s.perDisplayDataHash (dpathHash dpath) (some (pdd.leave left))
    defaultUserSleepMultiplier := s.defaultUserSleepMultiplier }

inductive DisplayModuleCall where
  | getPerDisplayData (dpath : IoPath) (createIfNotFound : Bool) (busInfo : Option Byte)
  | dsa2Enable (yesno : Bool)
  | enableDynamicSleepAll (onoff : Bool)
  | setDynamicSleepActive (dpath : IoPath) (onoff : Bool)
  | resetMultiplier (dpath : IoPath) (multiplier : ℚ) (busInfo : Option Byte)
  | getResultsTableByBusno (busno : Nat) (createIfNotFound : Bool) (busInfo : Option Byte)
  | tunedSleep (dpath : IoPath) (nullMsgAdjustmentEnabled : Bool)
  | noteRetryableFailure (dpath : IoPath) (ddcrc : Status) (remainingTries : Int)
  | recordFinal (dpath : IoPath) (ddcrc : Status) (tries now : Int)

def displayModuleStep (settings : Dsa2Settings) (s : DisplayModule) : DisplayModuleCall → Exec DisplayModule
  | .getPerDisplayData dpath createIfNotFound busInfo => pddGetPerDisplayData s dpath createIfNotFound busInfo
  | .dsa2Enable yesno => .ok { s with dsa2 := { s.dsa2 with dsa2Enabled := yesno } }
  | .enableDynamicSleepAll onoff => .ok (pddEnableDynamicSleepAll s onoff)
  | .setDynamicSleepActive dpath onoff => s.onPdd dpath fun pdd => .ok { pdd with dynamicSleepActive := onoff }
  | .resetMultiplier dpath multiplier busInfo => pddResetMultiplier settings s dpath multiplier busInfo
  | .getResultsTableByBusno busno createIfNotFound busInfo => do
    let dsa2 ← s.dsa2.getResultsTableByBusno busno createIfNotFound busInfo
    .ok { s with dsa2 := dsa2 }
  | .tunedSleep dpath nullMsgAdjustmentEnabled =>
    s.onPdd dpath fun pdd => tunedSleepWithTrace nullMsgAdjustmentEnabled pdd
  | .noteRetryableFailure dpath ddcrc remainingTries =>
    s.onPdd dpath fun pdd => pddNoteRetryableFailure pdd ddcrc remainingTries
  | .recordFinal dpath ddcrc tries now =>
    s.onPdd dpath fun pdd => pddRecordFinal settings s.dsa2.dsa2Enabled pdd ddcrc tries now

def AtStartup (s : DisplayModule) : Prop := ∀ hval, s.perDisplayDataHash hval = none

end Ddc
