import Mathlib.Data.Set.Insert
import Ddcutil.DisplayTablesShared
/-!
# DisplaysApart — which runs keep the displays' data apart

`per_display_data_hash` is keyed by `dpath_hash`, not by the path: the bus 100 + n and the USB device n have one key
and so one `Per_Display_Data`.
-/
namespace Ddc

open Kit List Exec Function

/-! ## Accesses -/

def DisplayModuleCall.dpath? : DisplayModuleCall → Option IoPath
  | .getPerDisplayData dpath _ _ => some dpath
  | .setDynamicSleepActive dpath _ => some dpath
  | .resetMultiplier dpath _ _ => some dpath
  | .tunedSleep dpath _ => some dpath
  | .noteRetryableFailure dpath _ _ => some dpath
  | .recordFinal dpath _ _ _ => some dpath
  | .dsa2Enable _ | .enableDynamicSleepAll _ | .getResultsTableByBusno _ _ _ => none

def opened (calls : List DisplayModuleCall) : Set IoPath :=
  { dpath | ∃ busInfo, .getPerDisplayData dpath true busInfo ∈ calls }

def accessed (calls : List DisplayModuleCall) : Set IoPath :=
  { dpath | ∃ createIfNotFound busInfo, .getPerDisplayData dpath createIfNotFound busInfo ∈ calls }

def DisplayModule.displayData (s : DisplayModule) (dpath : IoPath) : Exec PerDisplayData := do
  let pdd ← s.pdd dpath
  .ok (pdd.view s.dsa2.resultsTables)

/-- **The displays' data are apart after a run**: each path gets its own record, each time, and a call for one display
leaves what the others hold. -/
structure DisplaysApart (settings : Dsa2Settings) (calls : List DisplayModuleCall) (s : DisplayModule) : Prop where
  own : ∀ dpath ∈ accessed calls, ∀ pdd, s.pdd dpath = .ok pdd → pdd.dpath = dpath
  present : ∀ dpath ∈ opened calls, ∃ pdd, s.pdd dpath = .ok pdd
  again : ∀ dpath ∈ opened calls, ∀ createIfNotFound busInfo,
    pddGetPerDisplayData s dpath createIfNotFound busInfo = .ok s
  frame : ∀ dpath ∈ opened calls, ∀ other ∈ opened calls, dpath ≠ other → ∀ call, call.dpath? = some dpath →
    ∀ s', displayModuleStep settings s call = .ok s' → s'.displayData other = s.displayData other

def KeysApart (calls : List DisplayModuleCall) : Prop :=
  ∀ dpath ∈ opened calls, ∀ other ∈ accessed calls, dpathHash dpath = dpathHash other → dpath = other

def DevicesApart (calls : List DisplayModuleCall) (s : DisplayModule) : Prop :=
  ∀ number, .usb number ∈ opened calls → .i2c number ∈ opened calls →
    ∀ usb, s.pdd (.usb number) = .ok usb → usb.dsa2Enabled = true →
      ∀ i2c, s.pdd (.i2c number) = .ok i2c → ∀ a, i2c.dsa2Data = some a → s.dsa2.resultsTables.slots number ≠ some a

/-! ## The invariant -/

/-- **What a display's pointer is**: one handed out for its own bus, and in no other entry. -/
def OwnPointer (tables : Pool ResultsTable) (pdd : DisplayRecord) : Prop :=
  ∀ a, pdd.dsa2Data = some a → ∃ busno, pdd.dpath = .i2c busno ∧ busno ≤ i2cBusMax ∧ a < tables.heap.next ∧
    ∀ j, tables.slots j = some a → j = busno

/-- **What holds of the records after a run** that has opened the displays of `dpaths`. -/
structure RecordsApart (dpaths : Set IoPath) (s : DisplayModule) : Prop where
  key : ∀ hval pdd, s.perDisplayDataHash hval = some pdd → pdd.dpath ∈ dpaths ∧ dpathHash pdd.dpath = hval
  present : ∀ dpath ∈ dpaths, ∃ pdd, s.perDisplayDataHash (dpathHash dpath) = some pdd
  pointer : ∀ hval pdd, s.perDisplayDataHash hval = some pdd → OwnPointer s.dsa2.resultsTables pdd
  distinct : ∀ hval pdd hval' pdd', s.perDisplayDataHash hval = some pdd → s.perDisplayDataHash hval' = some pdd' →
    ∀ a, pdd.dsa2Data = some a → pdd'.dsa2Data = some a → pdd.dpath = pdd'.dpath

variable {s s' : DisplayModule} {pdd otherPdd : DisplayRecord} {dpaths : Set IoPath} {busInfo : Option Byte}
variable {settings : Dsa2Settings} {call : DisplayModuleCall} {dpath other : IoPath}
variable {f : PerDisplayData → Exec PerDisplayData} {multiplier : ℚ} {calls : List DisplayModuleCall}

theorem AtStartup.recordsApart (h : AtStartup s) : RecordsApart ∅ s where
  key := fun hval pdd hpdd => by rw [h hval] at hpdd; cases hpdd
  present := fun _ hdpath => absurd hdpath (Set.notMem_empty _)
  pointer := fun hval pdd hpdd => by rw [h hval] at hpdd; cases hpdd
  distinct := fun hval pdd _ _ hpdd => by rw [h hval] at hpdd; cases hpdd

theorem OwnPointer.of_changes {tables tables' : Pool ResultsTable} (h : OwnPointer tables pdd)
    (hnext : tables.heap.next ≤ tables'.heap.next)
    (hslots : ∀ j a, a < tables.heap.next → tables'.slots j = some a → tables.slots j = some a) :
    OwnPointer tables' pdd := by
  intro a ha
  obtain ⟨busno, hdpath, hle, hlt, hslot⟩ := h a ha
  exact ⟨busno, hdpath, hle, Nat.lt_of_lt_of_le hlt hnext, fun j hj => hslot j (hslots j a hlt hj)⟩

theorem RecordsApart.of_same (h : RecordsApart dpaths s)
    (hrecords : ∀ hval pdd', s'.perDisplayDataHash hval = some pdd' →
      ∃ pdd, s.perDisplayDataHash hval = some pdd ∧ pdd'.dpath = pdd.dpath ∧ pdd'.dsa2Data = pdd.dsa2Data)
    (hpresent : ∀ hval pdd, s.perDisplayDataHash hval = some pdd → ∃ pdd', s'.perDisplayDataHash hval = some pdd')
    (hnext : s.dsa2.resultsTables.heap.next ≤ s'.dsa2.resultsTables.heap.next)
    (hslots : ∀ j a, a < s.dsa2.resultsTables.heap.next → s'.dsa2.resultsTables.slots j = some a →
      s.dsa2.resultsTables.slots j = some a) : RecordsApart dpaths s' where
  key := by
    intro hval pdd' hpdd'
    obtain ⟨pdd, hpdd, hdpath, -⟩ := hrecords hval pdd' hpdd'
    rw [hdpath]; exact h.key hval pdd hpdd
  present := by
    intro dpath hdpath
    obtain ⟨pdd, hpdd⟩ := h.present dpath hdpath
    exact hpresent _ pdd hpdd
  pointer := by
    intro hval pdd' hpdd'
    obtain ⟨pdd, hpdd, hdpath, hdata⟩ := hrecords hval pdd' hpdd'
    have hpointer := (h.pointer hval pdd hpdd).of_changes hnext hslots
    intro a ha
    rw [hdpath]; exact hpointer a (hdata ▸ ha)
  distinct := by
    intro hval p' hval' q' hp' hq' a ha hb
    obtain ⟨p, hp, hpath, hpdata⟩ := hrecords hval p' hp'
    obtain ⟨q, hq, hqpath, hqdata⟩ := hrecords hval' q' hq'
    rw [hpath, hqpath]; exact h.distinct hval p hval' q hp hq a (hpdata ▸ ha) (hqdata ▸ hb)

/-! ## The array -/

theorem keepVerified_changes (tables : Pool ResultsTable) (busno : Nat) (verified : Option ResultsTable) :
    Pool.ChangesOnly busno tables (keepVerified tables busno verified) := by
  unfold keepVerified
  cases hs : tables.slots busno with
  | none => exact Pool.ChangesOnly.refl busno tables
  | some a =>
    cases verified with
    | none => exact Pool.changesOnly_discard tables busno
    | some rtable => exact Pool.changesOnly_write hs rtable

theorem keepCreated_changes (tables : Pool ResultsTable) (busno : Nat) (created : Option ResultsTable) :
    Pool.ChangesOnly busno tables (keepCreated tables busno created) := by
  unfold keepCreated
  split
  · exact Pool.changesOnly_create tables busno _
  · exact Pool.ChangesOnly.refl busno tables

theorem Dsa2Tables.getResultsTableByBusno_changes {g g' : Dsa2Tables} {busno : Nat} {createIfNotFound : Bool}
    (h : g.getResultsTableByBusno busno createIfNotFound busInfo = .ok g') :
    Pool.ChangesOnly busno g.resultsTables g'.resultsTables := by
  obtain ⟨-, verified, rtable, -, -, rfl⟩ := getResultsTableByBusno_eq_ok h
  exact (keepVerified_changes ..).trans (keepCreated_changes ..)

theorem Dsa2Tables.resetResultsTable_changes {g g' : Dsa2Tables} {busno : Nat} {sleepMultiplier : ℚ}
    (h : g.resetResultsTable settings busno sleepMultiplier busInfo = .ok g') :
    Pool.ChangesOnly busno g.resultsTables g'.resultsTables := by
  obtain ⟨_, -, h⟩ := bind_eq_ok.1 h
  obtain ⟨_, -, h⟩ := bind_eq_ok.1 h
  obtain ⟨_, -, h⟩ := bind_eq_ok.1 h
  cases h; exact (Pool.changesOnly_discard ..).trans (Pool.changesOnly_create ..)

section
variable (tables : Pool ResultsTable) (dsa2Data : Option Address) (rtable : Option ResultsTable)

theorem writeThrough_next : (writeThrough tables dsa2Data rtable).heap.next = tables.heap.next := by
  unfold writeThrough
  split <;> rfl

theorem writeThrough_slots : (writeThrough tables dsa2Data rtable).slots = tables.slots := by
  unfold writeThrough
  split <;> rfl

end

theorem writeThrough_deref {tables : Pool ResultsTable} {dsa2Data : Option Address} {rtable : Option ResultsTable}
    {b : Option Address} (h : ∀ a, dsa2Data = some a → b ≠ some a) :
    (writeThrough tables dsa2Data rtable).deref b = tables.deref b := by
  cases b with
  | none => rfl
  | some b =>
    unfold writeThrough
    split
    · exact Heap.write_other _ _ fun hb => h _ rfl (congrArg some hb)
    · rfl

/-! ## One step -/

def DisplayModuleCall.opens : DisplayModuleCall → Set IoPath
  | .getPerDisplayData dpath true _ => {dpath}
  | _ => ∅

theorem union_opens_none (h : call.opens = ∅) : dpaths ∪ call.opens = dpaths := by
  rw [h, Set.union_empty]

theorem displayModuleStep_kinds (settings : Dsa2Settings) (s : DisplayModule) (h : call.dpath? = some dpath) :
    (∃ createIfNotFound busInfo, call = .getPerDisplayData dpath createIfNotFound busInfo) ∨
      (∃ multiplier busInfo, call = .resetMultiplier dpath multiplier busInfo) ∨
      (call.opens = ∅ ∧ ∃ f, displayModuleStep settings s call = s.onPdd dpath f) := by
  cases call with
  | getPerDisplayData p createIfNotFound busInfo =>
    cases h; exact .inl ⟨_, _, rfl⟩
  | resetMultiplier p multiplier busInfo =>
    cases h; exact .inr (.inl ⟨_, _, rfl⟩)
  | dsa2Enable _ | enableDynamicSleepAll _ | getResultsTableByBusno _ _ _ => cases h
  | _ =>
    cases h
    simp only [displayModuleStep]; exact .inr (.inr ⟨rfl, _, rfl⟩)

theorem onPdd_eq_ok (h : s.onPdd dpath f = .ok s') :
    ∃ pdd left, s.perDisplayDataHash (dpathHash dpath) = some pdd ∧
      s'.dsa2.resultsTables = writeThrough s.dsa2.resultsTables pdd.dsa2Data left.dsa2Data ∧
      s'.perDisplayDataHash = update s.perDisplayDataHash (dpathHash dpath) (some (pdd.leave left)) := by
  obtain ⟨pdd, hpdd, h⟩ := bind_eq_ok.1 h
  obtain ⟨left, -, h⟩ := bind_eq_ok.1 h
  cases h; exact ⟨pdd, left, DisplayModule.pdd_eq_ok.1 hpdd, rfl, rfl⟩

theorem RecordsApart.set {pdd' : DisplayRecord} (h : RecordsApart dpaths s)
    (hpdd : s.perDisplayDataHash (dpathHash dpath) = some pdd)
    (hset : s'.perDisplayDataHash = update s.perDisplayDataHash (dpathHash dpath) (some pdd'))
    (hpath : pdd'.dpath = pdd.dpath) (hdata : pdd'.dsa2Data = pdd.dsa2Data)
    (hnext : s.dsa2.resultsTables.heap.next ≤ s'.dsa2.resultsTables.heap.next)
    (hslots : ∀ j a, a < s.dsa2.resultsTables.heap.next → s'.dsa2.resultsTables.slots j = some a → s.dsa2.resultsTables.slots j = some a) :
    RecordsApart dpaths s' := by
  refine h.of_same (fun hval p' hp' => ?_) (fun hval p hp => ?_) hnext hslots
  · rw [hset] at hp'
    by_cases hhash : hval = dpathHash dpath
    · subst hhash
      rw [update_self] at hp'
      cases hp'; exact ⟨pdd, hpdd, hpath, hdata⟩
    · rw [update_of_ne hhash] at hp'; exact ⟨p', hp', rfl, rfl⟩
  · rw [hset]
    by_cases hhash : hval = dpathHash dpath
    · exact ⟨pdd', by rw [hhash, update_self]⟩
    · exact ⟨p, by rw [update_of_ne hhash, hp]⟩

theorem onPdd_recordsApart (h : RecordsApart dpaths s) (hrun : s.onPdd dpath f = .ok s') :
    RecordsApart dpaths s' := by
  obtain ⟨pdd, left, hpdd, htables, hset⟩ := onPdd_eq_ok hrun
  refine h.set hpdd hset rfl rfl ?_ ?_
  · rw [htables, writeThrough_next]
  · intro j a _ hj
    rwa [htables, writeThrough_slots] at hj

theorem pddInitPdd_eq_ok {made : DisplayRecord × Dsa2Tables} (h : pddInitPdd s dpath busInfo = .ok made) :
    made.1.dpath = dpath ∧ Pool.ChangesOnly dpath.busno s.dsa2.resultsTables made.2.resultsTables ∧
      ∀ a, made.1.dsa2Data = some a →
        ∃ busno, dpath = .i2c busno ∧ busno ≤ i2cBusMax ∧ made.2.resultsTables.slots busno = some a := by
  unfold pddInitPdd at h
  cases dpath with
  | usb hiddevDevno =>
    cases h
    refine ⟨rfl, Pool.ChangesOnly.refl .., fun a ha => ?_⟩
    cases ha
  | i2c busno =>
    dsimp only at h
    split at h
    · obtain ⟨dsa2, hdsa2, h⟩ := bind_eq_ok.1 h
      cases h
      obtain ⟨hle, -⟩ := Dsa2Tables.getResultsTableByBusno_eq_ok hdsa2
      exact ⟨rfl, Dsa2Tables.getResultsTableByBusno_changes hdsa2, fun a ha => ⟨busno, rfl, hle, ha⟩⟩
    · cases h
      refine ⟨rfl, Pool.ChangesOnly.refl .., fun a ha => ?_⟩
      cases ha

theorem RecordsApart.add {made : DisplayRecord} (h : RecordsApart dpaths s) (hpath : made.dpath = dpath)
    (hset : s'.perDisplayDataHash = update s.perDisplayDataHash (dpathHash dpath) (some made))
    (hchanges : Pool.ChangesOnly dpath.busno s.dsa2.resultsTables s'.dsa2.resultsTables)
    (hdata : ∀ a, made.dsa2Data = some a → ∃ busno, dpath = .i2c busno ∧ busno ≤ i2cBusMax ∧ s'.dsa2.resultsTables.slots busno = some a) :
    RecordsApart (insert dpath dpaths) s' := by
  have hrecord : ∀ hval pdd, s'.perDisplayDataHash hval = some pdd →
      (hval = dpathHash dpath ∧ pdd = made) ∨ s.perDisplayDataHash hval = some pdd := by
    intro hval pdd hpdd
    rw [hset] at hpdd
    by_cases hhash : hval = dpathHash dpath
    · rw [hhash, update_self] at hpdd; exact .inl ⟨hhash, (Option.some.inj hpdd).symm⟩
    · rw [update_of_ne hhash] at hpdd; exact .inr hpdd
  have hold : ∀ hval pdd, s.perDisplayDataHash hval = some pdd → OwnPointer s'.dsa2.resultsTables pdd :=
    fun hval pdd hpdd => (h.pointer hval pdd hpdd).of_changes hchanges.next hchanges.slots
  -- A pointer of the new record is in the array, so an older record with it is for the same bus.
  have hsame : ∀ hval pdd a, s.perDisplayDataHash hval = some pdd → made.dsa2Data = some a →
      pdd.dsa2Data = some a → made.dpath = pdd.dpath := by
    intro hval pdd a hpdd ha hb
    obtain ⟨busno, hbus, -, hslot⟩ := hdata a ha
    obtain ⟨busno', hbus', -, -, hin⟩ := hold hval pdd hpdd a hb
    rw [hpath, hbus, hbus', hin busno hslot]
  constructor
  · intro hval pdd hpdd
    rcases hrecord hval pdd hpdd with ⟨rfl, rfl⟩ | hpdd
    · rw [hpath]; exact ⟨Set.mem_insert .., rfl⟩
    · obtain ⟨hmem, hkey⟩ := h.key hval pdd hpdd
      exact ⟨Set.mem_insert_of_mem _ hmem, hkey⟩
  · intro q hq
    rw [hset]
    by_cases hhash : dpathHash q = dpathHash dpath
    · exact ⟨made, by rw [hhash, update_self]⟩
    · rw [update_of_ne hhash]
      rcases Set.mem_insert_iff.1 hq with rfl | hq
      · exact absurd rfl hhash
      · exact h.present q hq
  · intro hval pdd hpdd
    rcases hrecord hval pdd hpdd with ⟨-, rfl⟩ | hpdd
    · intro a ha
      obtain ⟨busno, hbus, hle, hslot⟩ := hdata a ha
      refine ⟨busno, hpath.trans hbus, hle, Pool.slots_lt hslot, fun j hj => ?_⟩
      exact s'.dsa2.resultsTables.owned j busno a hj hslot
    · exact hold hval pdd hpdd
  · intro hval p hval' q hp hq a ha hb
    rcases hrecord hval p hp with ⟨-, rfl⟩ | hp <;> rcases hrecord hval' q hq with ⟨-, rfl⟩ | hq
    · rfl
    · exact hsame hval' q a hq ha hb
    · exact (hsame hval p a hp hb ha).symm
    · exact h.distinct hval p hval' q hp hq a ha hb

theorem pddGetPerDisplayData_found (h : s.perDisplayDataHash (dpathHash dpath) = some pdd) (createIfNotFound : Bool)
    (busInfo : Option Byte) : pddGetPerDisplayData s dpath createIfNotFound busInfo = .ok s := by
  rw [pddGetPerDisplayData, h]

theorem RecordsApart.open (h : RecordsApart dpaths s) (hpdd : s.perDisplayDataHash (dpathHash dpath) = some pdd) :
    RecordsApart (insert dpath dpaths) s where
  key := by
    intro hval p hp
    obtain ⟨hmem, hkey⟩ := h.key hval p hp
    exact ⟨Set.mem_insert_of_mem _ hmem, hkey⟩
  present := by
    intro q hq
    rcases Set.mem_insert_iff.1 hq with rfl | hq
    · exact ⟨pdd, hpdd⟩
    · exact h.present q hq
  pointer := h.pointer
  distinct := h.distinct

theorem pddGetPerDisplayData_recordsApart {createIfNotFound : Bool} (h : RecordsApart dpaths s)
    (hrun : pddGetPerDisplayData s dpath createIfNotFound busInfo = .ok s') :
    RecordsApart (dpaths ∪ (DisplayModuleCall.getPerDisplayData dpath createIfNotFound busInfo).opens) s' := by
  cases hfound : s.perDisplayDataHash (dpathHash dpath) with
  | some pdd =>
    rw [pddGetPerDisplayData_found hfound] at hrun
    cases hrun
    cases createIfNotFound with
    | false =>
      rw [union_opens_none rfl]; exact h
    | true =>
      rw [DisplayModuleCall.opens, Set.union_singleton]; exact h.open hfound
  | none =>
    rw [pddGetPerDisplayData, hfound] at hrun
    cases createIfNotFound with
    | false =>
      cases hrun
      rw [union_opens_none rfl]; exact h
    | true =>
      obtain ⟨made, hmade, hrun⟩ := bind_eq_ok.1 hrun
      cases hrun
      obtain ⟨hpath, hchanges, hdata⟩ := pddInitPdd_eq_ok hmade
      rw [DisplayModuleCall.opens, Set.union_singleton]; exact h.add hpath rfl hchanges hdata

theorem pddResetMultiplier_eq_ok (h : pddResetMultiplier settings s dpath multiplier busInfo = .ok s') :
    ∃ pdd, s.perDisplayDataHash (dpathHash dpath) = some pdd ∧
      s'.perDisplayDataHash = update s.perDisplayDataHash (dpathHash dpath)
        (some { pdd with userSleepMultiplier := multiplier }) ∧
      ((pdd.dsa2Enabled = false ∧ s'.dsa2 = s.dsa2) ∨ (pdd.dsa2Enabled = true ∧
        s.dsa2.resetResultsTable settings pdd.dpath.busno multiplier busInfo = .ok s'.dsa2)) := by
  obtain ⟨pdd, hpdd, h⟩ := bind_eq_ok.1 h
  refine ⟨pdd, DisplayModule.pdd_eq_ok.1 hpdd, ?_⟩
  split at h
  · obtain ⟨dsa2, hdsa2, h⟩ := bind_eq_ok.1 h
    cases h; exact ⟨rfl, .inr ⟨‹_›, hdsa2⟩⟩
  · cases h; exact ⟨rfl, .inl ⟨Bool.eq_false_iff.2 ‹_›, rfl⟩⟩

theorem pddResetMultiplier_changes
    (h : (pdd.dsa2Enabled = false ∧ s'.dsa2 = s.dsa2) ∨ (pdd.dsa2Enabled = true ∧
      s.dsa2.resetResultsTable settings pdd.dpath.busno multiplier busInfo = .ok s'.dsa2)) :
    Pool.ChangesOnly pdd.dpath.busno s.dsa2.resultsTables s'.dsa2.resultsTables := by
  rcases h with ⟨-, hsame⟩ | ⟨-, hreset⟩
  · rw [hsame]; exact Pool.ChangesOnly.refl ..
  · exact Dsa2Tables.resetResultsTable_changes hreset

theorem displayModuleStep_recordsApart (h : RecordsApart dpaths s) (hrun : displayModuleStep settings s call = .ok s') :
    RecordsApart (dpaths ∪ call.opens) s' := by
  cases hcall : call.dpath? with
  | some dpath =>
    rcases displayModuleStep_kinds settings s hcall with ⟨_, _, rfl⟩ | ⟨_, _, rfl⟩ | ⟨hopens, f, hf⟩
    · exact pddGetPerDisplayData_recordsApart h hrun
    · obtain ⟨pdd, hpdd, hset, hdsa2⟩ := pddResetMultiplier_eq_ok hrun
      have hchanges := pddResetMultiplier_changes hdsa2
      rw [union_opens_none rfl]; exact h.set hpdd hset rfl rfl hchanges.next hchanges.slots
    · rw [hf] at hrun
      rw [union_opens_none hopens]; exact onPdd_recordsApart h hrun
  | none =>
    cases call with
    | dsa2Enable yesno =>
      cases hrun
      rw [union_opens_none rfl]; exact ⟨h.key, h.present, h.pointer, h.distinct⟩
    | enableDynamicSleepAll onoff =>
      cases hrun
      rw [union_opens_none rfl]
      refine h.of_same (fun hval pdd' hpdd' => ?_) (fun hval pdd hpdd => ?_) (Nat.le_refl _) (fun _ _ _ hj => hj)
      · obtain ⟨pdd, hpdd, rfl⟩ := Option.map_eq_some_iff.1 hpdd'
        exact ⟨pdd, hpdd, rfl, rfl⟩
      · exact ⟨_, Option.map_eq_some_iff.2 ⟨pdd, hpdd, rfl⟩⟩
    | getResultsTableByBusno busno createIfNotFound busInfo =>
      obtain ⟨dsa2, hdsa2, hrun⟩ := bind_eq_ok.1 hrun
      cases hrun
      have hchanges := Dsa2Tables.getResultsTableByBusno_changes hdsa2
      rw [union_opens_none rfl]
      exact h.of_same (fun _ pdd hpdd => ⟨pdd, hpdd, rfl, rfl⟩) (fun _ pdd hpdd => ⟨pdd, hpdd⟩) hchanges.next
        hchanges.slots
    | _ => cases hcall

theorem mem_opened_cons : dpath ∈ opened (call :: calls) ↔ dpath ∈ call.opens ∨ dpath ∈ opened calls := by
  unfold opened
  simp only [Set.mem_ofPred_eq, mem_cons, exists_or]
  refine or_congr_left ?_
  constructor
  · rintro ⟨busInfo, rfl⟩
    exact Set.mem_singleton _
  · intro h
    unfold DisplayModuleCall.opens at h
    split at h
    · exact ⟨_, by rw [Set.mem_singleton_iff.1 h]⟩
    · exact absurd h (Set.notMem_empty _)

theorem RecordsApart.run :
    ∀ {dpaths : Set IoPath} {s s' : DisplayModule}, RecordsApart dpaths s →
      calls.foldlM (displayModuleStep settings) s = .ok s' → RecordsApart (dpaths ∪ opened calls) s' := by
  induction calls with
  | nil =>
    intro dpaths s s' h hrun
    cases hrun
    have hnone : opened [] = ∅ := Set.eq_empty_of_forall_notMem fun dpath ⟨_, hmem⟩ => not_mem_nil hmem
    rw [hnone, Set.union_empty]; exact h
  | cons call calls ih =>
    intro dpaths s s' h hrun
    obtain ⟨t, ht, hrun⟩ := bind_eq_ok.1 hrun
    have hcons : opened (call :: calls) = call.opens ∪ opened calls := by
      ext dpath
      exact mem_opened_cons
    rw [hcons, ← Set.union_assoc]; exact ih (displayModuleStep_recordsApart h ht) hrun

/-! ## Other displays -/

theorem displayData_of_same (h : s.perDisplayDataHash (dpathHash dpath) = some pdd)
    (hsame : s'.perDisplayDataHash (dpathHash dpath) = s.perDisplayDataHash (dpathHash dpath))
    (hderef : s'.dsa2.resultsTables.deref pdd.dsa2Data = s.dsa2.resultsTables.deref pdd.dsa2Data) :
    s'.displayData dpath = s.displayData dpath := by
  unfold DisplayModule.displayData
  rw [DisplayModule.pdd_eq_ok.2 h, DisplayModule.pdd_eq_ok.2 (hsame.trans h), ok_bind, ok_bind]
  unfold DisplayRecord.view
  rw [hderef]

section
variable (h : RecordsApart dpaths s) (hpdd : s.perDisplayDataHash (dpathHash dpath) = some pdd)
include h hpdd

theorem onPdd_frame (hother : s.perDisplayDataHash (dpathHash other) = some otherPdd)
    (hpaths : pdd.dpath ≠ otherPdd.dpath) (hkeys : dpathHash other ≠ dpathHash dpath)
    (hrun : s.onPdd dpath f = .ok s') : s'.displayData other = s.displayData other := by
  obtain ⟨pdd', left, hpdd', htables, hset⟩ := onPdd_eq_ok hrun
  cases hpdd.symm.trans hpdd'
  refine displayData_of_same hother ?_ ?_
  · rw [hset, update_of_ne hkeys]
  · rw [htables]
    apply writeThrough_deref
    intro a ha hb; exact hpaths (h.distinct _ pdd _ otherPdd hpdd hother a ha hb)

theorem pddResetMultiplier_frame (hother : s.perDisplayDataHash (dpathHash other) = some otherPdd)
    (hkeys : dpathHash other ≠ dpathHash dpath)
    (hentry : pdd.dsa2Enabled = true → ∀ a, otherPdd.dsa2Data = some a → s.dsa2.resultsTables.slots pdd.dpath.busno ≠ some a)
    (hrun : pddResetMultiplier settings s dpath multiplier busInfo = .ok s') :
    s'.displayData other = s.displayData other := by
  obtain ⟨pdd', hpdd', hset, hdsa2⟩ := pddResetMultiplier_eq_ok hrun
  cases hpdd.symm.trans hpdd'
  refine displayData_of_same hother ?_ ?_
  · rw [hset, update_of_ne hkeys]
  · rcases hdsa2 with ⟨-, hsame⟩ | ⟨hon, hreset⟩
    · rw [hsame]
    · have hchanges := Dsa2Tables.resetResultsTable_changes hreset
      cases hdata : otherPdd.dsa2Data with
      | none => rfl
      | some a =>
        obtain ⟨_, -, -, hlt, -⟩ := h.pointer _ otherPdd hother a hdata
        exact hchanges.cells a hlt (hentry hon a hdata)

/-- **A call for one display leaves what another one holds**, where both have records of their own and a USB device's
number is not that of a bus in use. -/
theorem displayModuleStep_frame (hpath : pdd.dpath = dpath)
    (hother : s.perDisplayDataHash (dpathHash other) = some otherPdd) (hotherPath : otherPdd.dpath = other)
    (hne : dpath ≠ other) (hkeys : dpathHash other ≠ dpathHash dpath)
    (hdevice : ∀ number, dpath = .usb number → other = .i2c number → pdd.dsa2Enabled = true → ∀ a, otherPdd.dsa2Data = some a → s.dsa2.resultsTables.slots number ≠ some a)
    (hcall : call.dpath? = some dpath) (hrun : displayModuleStep settings s call = .ok s') :
    s'.displayData other = s.displayData other := by
  have hpaths : pdd.dpath ≠ otherPdd.dpath := by rwa [hpath, hotherPath]
  rcases displayModuleStep_kinds settings s hcall with ⟨createIfNotFound, busInfo, rfl⟩ | ⟨_, _, rfl⟩ | ⟨-, f, hf⟩
  · have hsame : displayModuleStep settings s (.getPerDisplayData dpath createIfNotFound busInfo) = .ok s :=
      pddGetPerDisplayData_found hpdd createIfNotFound busInfo
    rw [hsame] at hrun
    cases hrun; rfl
  · refine pddResetMultiplier_frame h hpdd hother hkeys (fun hon a ha hslot => ?_) hrun
    obtain ⟨busno, hbus, -, -, hin⟩ := h.pointer _ otherPdd hother a ha
    rw [hpath] at hslot
    have hnumber : dpath.busno = busno := hin _ hslot
    rw [hotherPath] at hbus
    -- The entry is the other display's own bus; the path with that number is it, or a USB device.
    cases dpath with
    | i2c b => exact hne (by rw [hbus, ← hnumber, IoPath.busno])
    | usb number =>
      have hsame : number = busno := hnumber
      exact hdevice number rfl (by rw [hbus, hsame]) hon a ha hslot
  · rw [hf] at hrun; exact onPdd_frame h hpdd hother hpaths hkeys hrun

end

/-! ## Apart or not -/

theorem opened_subset_accessed (calls : List DisplayModuleCall) : opened calls ⊆ accessed calls :=
  fun _ ⟨busInfo, hmem⟩ => ⟨true, busInfo, hmem⟩

theorem pddResetMultiplier_usb (settings : Dsa2Settings) {number : Nat} {usb i2c : DisplayRecord} {a : Address}
    (husb : s.perDisplayDataHash (dpathHash (.usb number)) = some usb) (hpath : usb.dpath = .usb number)
    (hon : usb.dsa2Enabled = true) (hi2c : s.perDisplayDataHash (dpathHash (.i2c number)) = some i2c)
    (hle : number ≤ i2cBusMax) (hdata : i2c.dsa2Data = some a) (hslot : s.dsa2.resultsTables.slots number = some a) :
    ∃ s', displayModuleStep settings s (.resetMultiplier (.usb number) 1 (some 0)) = .ok s' ∧
      s'.displayData (.i2c number) ≠ s.displayData (.i2c number) := by
  obtain ⟨step, hstep, -⟩ := dsa2MultiplierToStep_ok settings (if (0 : ℚ) ≤ 1 then 1 else 1)
  have hreset : ∃ rtable, s.dsa2.resetResultsTable settings number 1 (some 0) =
      .ok { s.dsa2 with resultsTables := (s.dsa2.resultsTables.discard number).create number rtable } := by
    have hbound : inResultsTables number = .ok () := inResultsTables_eq_ok.2 hle
    simp only [Dsa2Tables.resetResultsTable, hbound, hstep, getEdidCheckbyte, ok_bind]
    exact ⟨_, rfl⟩
  obtain ⟨rtable, hreset⟩ := hreset
  have hrun : ∃ s', displayModuleStep settings s (.resetMultiplier (.usb number) 1 (some 0)) = .ok s' ∧
      s'.dsa2.resultsTables = (s.dsa2.resultsTables.discard number).create number rtable ∧
      s'.perDisplayDataHash = update s.perDisplayDataHash (dpathHash (.usb number))
        (some { usb with userSleepMultiplier := 1 }) := by
    simp only [displayModuleStep, pddResetMultiplier]
    rw [DisplayModule.pdd_eq_ok.2 husb, ok_bind, if_pos hon, hpath]
    simp only [DisplayModule.setPdd, IoPath.busno, hreset, ok_bind]; exact ⟨_, rfl, rfl, rfl⟩
  obtain ⟨s', hrun, htables, hset⟩ := hrun
  refine ⟨s', hrun, fun hsame => ?_⟩
  have hkeys : dpathHash (.i2c number) ≠ dpathHash (.usb number) := by
    change number ≠ 100 + number
    omega
  have hi2c' : s'.perDisplayDataHash (dpathHash (.i2c number)) = some i2c := by
    rw [hset, update_of_ne hkeys, hi2c]
  unfold DisplayModule.displayData at hsame
  rw [DisplayModule.pdd_eq_ok.2 hi2c, DisplayModule.pdd_eq_ok.2 hi2c', ok_bind, ok_bind] at hsame
  have hderef : s'.dsa2.resultsTables.deref (some a) = s.dsa2.resultsTables.deref (some a) := by
    have hdata' := congrArg PerDisplayData.dsa2Data (Except.ok.inj hsame)
    rwa [DisplayRecord.view, DisplayRecord.view, hdata] at hdata'
  rw [htables, Pool.deref_replaced s.dsa2.resultsTables rtable hslot] at hderef
  have hlive := s.dsa2.resultsTables.live number a hslot
  change none = s.dsa2.resultsTables.heap.cells a at hderef
  rw [← hderef] at hlive; cases hlive

theorem DisplaysApart.keysApart (h : DisplaysApart settings calls s) : KeysApart calls := by
  intro dpath hdpath other hother hhash
  obtain ⟨pdd, hpdd⟩ := h.present dpath hdpath
  have hsame : s.pdd other = .ok pdd := by
    rw [DisplayModule.pdd_eq_ok] at hpdd ⊢
    rw [← hhash, hpdd]
  rw [← h.own dpath (opened_subset_accessed calls hdpath) pdd hpdd, h.own other hother pdd hsame]

theorem DisplaysApart.devicesApart (h : DisplaysApart settings calls s) (hinv : RecordsApart dpaths s) :
    DevicesApart calls s := by
  intro number husb hi2c usb husbPdd hon i2c hi2cPdd a hdata hslot
  have husbPath := h.own _ (opened_subset_accessed calls husb) usb husbPdd
  have hi2cPath := h.own _ (opened_subset_accessed calls hi2c) i2c hi2cPdd
  rw [DisplayModule.pdd_eq_ok] at husbPdd hi2cPdd
  obtain ⟨busno, hbus, hle, -, -⟩ := hinv.pointer _ i2c hi2cPdd a hdata
  rw [hi2cPath] at hbus
  cases hbus
  obtain ⟨s', hrun, hchanged⟩ :=
    pddResetMultiplier_usb settings husbPdd husbPath hon hi2cPdd hle hdata hslot
  exact hchanged (h.frame _ husb _ hi2c (by simp) _ rfl s' hrun)

theorem displaysApart_of_recordsApart (h : RecordsApart (opened calls) s) (hkeys : KeysApart calls)
    (hdevices : DevicesApart calls s) : DisplaysApart settings calls s := by
  have hown : ∀ dpath ∈ accessed calls, ∀ pdd, s.perDisplayDataHash (dpathHash dpath) = some pdd →
      pdd.dpath = dpath := by
    intro dpath hdpath pdd hpdd
    obtain ⟨hmem, hkey⟩ := h.key _ pdd hpdd
    exact hkeys pdd.dpath hmem dpath hdpath hkey
  refine ⟨fun dpath hdpath pdd hpdd => hown dpath hdpath pdd (DisplayModule.pdd_eq_ok.1 hpdd), ?_, ?_, ?_⟩
  · intro dpath hdpath
    obtain ⟨pdd, hpdd⟩ := h.present dpath hdpath
    exact ⟨pdd, DisplayModule.pdd_eq_ok.2 hpdd⟩
  · intro dpath hdpath createIfNotFound busInfo
    obtain ⟨pdd, hpdd⟩ := h.present dpath hdpath
    exact pddGetPerDisplayData_found hpdd createIfNotFound busInfo
  · intro dpath hdpath other hother hne call hcall s' hrun
    have hdpath' := opened_subset_accessed calls hdpath
    have hother' := opened_subset_accessed calls hother
    obtain ⟨pdd, hpdd⟩ := h.present dpath hdpath
    obtain ⟨otherPdd, hotherPdd⟩ := h.present other hother
    refine displayModuleStep_frame h hpdd (hown _ hdpath' _ hpdd) hotherPdd (hown _ hother' _ hotherPdd) hne
      (fun hhash => hne (hkeys dpath hdpath other hother' hhash.symm)) ?_ hcall hrun
    intro number husb hi2c hon a ha
    subst husb hi2c
    exact hdevices number hdpath hother pdd (DisplayModule.pdd_eq_ok.2 hpdd) hon otherPdd
      (DisplayModule.pdd_eq_ok.2 hotherPdd) a ha

/-- **After any run, the displays' data are apart exactly where** no path asked for has the key of another one that has a
record, and no USB display with the algorithm on has the number of a bus whose display uses the installed table. -/
theorem displaysApart_iff (settings : Dsa2Settings) {start s : DisplayModule} {calls : List DisplayModuleCall}
    (hstart : AtStartup start) (hrun : calls.foldlM (displayModuleStep settings) start = .ok s) :
    DisplaysApart settings calls s ↔ KeysApart calls ∧ DevicesApart calls s := by
  have hinv : RecordsApart (opened calls) s := by
    have hunion := hstart.recordsApart.run hrun
    rwa [Set.empty_union] at hunion
  exact ⟨fun h => ⟨h.keysApart, h.devicesApart hinv⟩, fun ⟨hkeys, hdevices⟩ =>
    displaysApart_of_recordsApart hinv hkeys hdevices⟩

/-- A run: the displays of bus 3 and of USB device 0 are made. -/
theorem displaysApart_iff_two : ∃ s,
    [DisplayModuleCall.getPerDisplayData (.i2c 3) true (some 0x5a), .getPerDisplayData (.usb 0) true none].foldlM
      (displayModuleStep defaultDsa2Settings) startupModule = .ok s ∧
    DisplaysApart defaultDsa2Settings
      [.getPerDisplayData (.i2c 3) true (some 0x5a), .getPerDisplayData (.usb 0) true none] s := by
  have hrun : ∃ s, [DisplayModuleCall.getPerDisplayData (.i2c 3) true (some 0x5a),
      .getPerDisplayData (.usb 0) true none].foldlM (displayModuleStep defaultDsa2Settings) startupModule = .ok s :=
    ⟨_, rfl⟩
  obtain ⟨s, hrun⟩ := hrun
  refine ⟨s, hrun, (displaysApart_iff defaultDsa2Settings (fun _ => rfl) hrun).2 ⟨?_, ?_⟩⟩
  · rintro dpath ⟨_, hmem⟩ other ⟨_, _, hmem'⟩ hhash
    simp only [mem_cons, DisplayModuleCall.getPerDisplayData.injEq, not_mem_nil, or_false] at hmem hmem'
    rcases hmem with ⟨rfl, -⟩ | ⟨rfl, -⟩ <;> rcases hmem' with ⟨rfl, -⟩ | ⟨rfl, -⟩
    · rfl
    · exact absurd hhash (by decide)
    · exact absurd hhash (by decide)
    · rfl
  · rintro number ⟨_, husb⟩ ⟨_, hi2c⟩
    simp only [mem_cons, DisplayModuleCall.getPerDisplayData.injEq, IoPath.usb.injEq, IoPath.i2c.injEq,
      not_mem_nil, or_false, reduceCtorEq, false_and, false_or] at husb hi2c
    omega

/-- The displays of bus 100 and of USB device 0 are asked for, with the algorithm off: both are given the record of the
bus. -/
theorem sharedKey_not_apart : ∃ start s, AtStartup start ∧
    [DisplayModuleCall.getPerDisplayData (.i2c 100) true none, .getPerDisplayData (.usb 0) true none].foldlM
      (displayModuleStep defaultDsa2Settings) start = .ok s ∧
    s.pdd (.usb 0) = s.pdd (.i2c 100) ∧
    ¬ DisplaysApart defaultDsa2Settings
      [.getPerDisplayData (.i2c 100) true none, .getPerDisplayData (.usb 0) true none] s := by
  refine ⟨{ startupModule with dsa2 := { startupModule.dsa2 with dsa2Enabled := false } }, _, fun _ => rfl, rfl, rfl,
    fun h => ?_⟩
  have hsame := h.keysApart (.i2c 100) ⟨none, mem_cons_self⟩ (.usb 0)
    ⟨true, none, mem_cons_of_mem _ mem_cons_self⟩ rfl
  cases hsame

end Ddc
