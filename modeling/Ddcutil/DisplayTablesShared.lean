import Ddcutil.DisplayTables
/-!
# DisplayTablesShared — which runs keep `dsa2_data` the installed table

A display shares its table when `dsa2_data` is the pointer in `results_tables[]` for its bus.
-/
namespace Ddc

open Kit Exec Function

/-- **The display's pointer is the installed one**, and the multiplier in effect is the installed table's. -/
structure DisplayRecord.Shares (pdd : DisplayRecord) (tables : Pool ResultsTable) (busno : Nat) (a : Address)
    (rtable : ResultsTable) : Prop where
  dpath : pdd.dpath = .i2c busno
  inArray : busno ≤ i2cBusMax
  dsa2Data : pdd.dsa2Data = some a
  installed : tables.slots busno = some a
  live : tables.heap.cells a = some rtable
  multiplier : pdd.dynamicSleepActive = true →
    pddGetAdjustedSleepMultiplier (pdd.view tables) = dsa2GetAdjustedSleepMult rtable

def SharesTables (s : DisplayModule) : Prop :=
  ∀ hval pdd, s.perDisplayDataHash hval = some pdd → pdd.dsa2Enabled = true →
    ∃ busno a rtable, pdd.Shares s.dsa2.resultsTables busno a rtable

/-- **What keeps the tables shared**: no reset of a display that uses its table, and no turning on of displays without
one. -/
def KeepsShared (s : DisplayModule) : DisplayModuleCall → Prop
  | .resetMultiplier dpath _ _ =>
    ∀ pdd, s.perDisplayDataHash (dpathHash dpath) = some pdd → pdd.dsa2Enabled = false
  | .enableDynamicSleepAll onoff =>
    onoff = true → ∀ hval pdd, s.perDisplayDataHash hval = some pdd → pdd.dsa2Data.isSome
  | _ => True

def SharingRun (settings : Dsa2Settings) : DisplayModule → Prop :=
  Reachable AtStartup KeepsShared (displayModuleStep settings)

/-! ## The invariant -/

/-- A table that no look-up discards: not from a stats file, or checked against the EDID. -/
def ResultsTable.Checked (rtable : ResultsTable) : Prop :=
  rtable.state &&& rtableFromCache = 0 ∨ rtable.state &&& rtableEdidVerified ≠ 0

/-- **What holds of each display**: its pointer, if any, is the installed one to a checked table, and it has one where
the algorithm is on. -/
structure KeepsTable (tables : Pool ResultsTable) (pdd : DisplayRecord) : Prop where
  installed : ∀ a, pdd.dsa2Data = some a → ∃ busno rtable, pdd.dpath = .i2c busno ∧ busno ≤ i2cBusMax ∧
    tables.slots busno = some a ∧ tables.value busno = some rtable ∧ rtable.Checked
  present : pdd.dsa2Enabled = true → pdd.dsa2Data.isSome

def AllKeepTables (s : DisplayModule) : Prop :=
  ∀ hval pdd, s.perDisplayDataHash hval = some pdd → KeepsTable s.dsa2.resultsTables pdd

theorem KeepsTable.shares {tables : Pool ResultsTable} {pdd : DisplayRecord} (h : KeepsTable tables pdd)
    (hon : pdd.dsa2Enabled = true) : ∃ busno a rtable, pdd.Shares tables busno a rtable := by
  obtain ⟨a, ha⟩ := Option.isSome_iff_exists.1 (h.present hon)
  obtain ⟨busno, rtable, hdpath, hle, hslot, hvalue, -⟩ := h.installed a ha
  have hderef : tables.deref pdd.dsa2Data = some rtable := by rw [ha, Pool.deref_slot hslot, hvalue]
  refine ⟨busno, a, rtable, hdpath, hle, ha, hslot, ?_, fun hactive => ?_⟩
  · rw [ha] at hderef; exact hderef
  · have hview : (pdd.view tables).dsa2Data = some rtable := hderef
    have huse : ((pdd.view tables).dynamicSleepActive && (pdd.view tables).dsa2Enabled) = true := by
      rw [Bool.and_eq_true]; exact ⟨hactive, hon⟩
    rw [pddGetAdjustedSleepMultiplier, if_pos huse, hview]

theorem AllKeepTables.shares {s : DisplayModule} (h : AllKeepTables s) : SharesTables s :=
  fun hval pdd hpdd hon => (h hval pdd hpdd).shares hon

/-- **A change of the array that leaves checked tables checked, where they are, keeps every display's table.** -/
structure KeepsChecked (tables tables' : Pool ResultsTable) : Prop where
  slots : ∀ busno rtable, tables.value busno = some rtable → rtable.Checked →
    tables'.slots busno = tables.slots busno
  checked : ∀ busno rtable, tables.value busno = some rtable → rtable.Checked →
    ∃ rtable', tables'.value busno = some rtable' ∧ rtable'.Checked

theorem KeepsTable.of_checked {tables tables' : Pool ResultsTable} {pdd : DisplayRecord} (h : KeepsTable tables pdd)
    (hkeeps : KeepsChecked tables tables') : KeepsTable tables' pdd where
  installed := by
    intro a ha
    obtain ⟨busno, rtable, hdpath, hle, hslot, hvalue, hchecked⟩ := h.installed a ha
    obtain ⟨rtable', hvalue', hchecked'⟩ := hkeeps.checked busno rtable hvalue hchecked
    exact ⟨busno, rtable', hdpath, hle, (hkeeps.slots busno rtable hvalue hchecked).trans hslot, hvalue', hchecked'⟩
  present := h.present

theorem KeepsChecked.refl (tables : Pool ResultsTable) : KeepsChecked tables tables where
  slots := fun _ _ _ _ => rfl
  checked := fun _ rtable h hchecked => ⟨rtable, h, hchecked⟩

/-! ## Look-ups -/

theorem or_and_distrib (a b c : Byte) : (a ||| b) &&& c = (a &&& c) ||| (b &&& c) := by
  rw [← UInt8.toBitVec_inj]; exact BitVec.and_or_distrib_right ..

theorem verifyCached_checked {found : Option ResultsTable} {busInfo : Option Byte} {rtable : ResultsTable}
    (h : verifyCached found busInfo = .ok (some rtable)) : rtable.Checked := by
  cases found with
  | none => cases h
  | some t =>
    unfold verifyCached at h
    dsimp only at h
    by_cases hunchecked : (t.state ||| rtableBusDetected) &&& rtableFromCache ≠ 0 ∧
        (t.state ||| rtableBusDetected) &&& rtableEdidVerified = 0
    · rw [if_pos hunchecked] at h
      obtain ⟨checkbyte, -, h⟩ := bind_eq_ok.1 h
      split at h
      · cases h
      · cases h
        right
        rw [or_and_distrib, hunchecked.2]; decide
    · rw [if_neg hunchecked] at h
      cases h
      by_cases hcached : (t.state ||| rtableBusDetected) &&& rtableFromCache = 0
      · exact .inl hcached
      · exact .inr fun hverified => hunchecked ⟨hcached, hverified⟩

theorem verifyCached_keeps {t : ResultsTable} (ht : t.Checked) {busInfo : Option Byte}
    {verified : Option ResultsTable} (h : verifyCached (some t) busInfo = .ok verified) :
    ∃ rtable, verified = some rtable := by
  have hdetected : ∀ flag : Byte, rtableBusDetected &&& flag = 0 →
      (t.state ||| rtableBusDetected) &&& flag = t.state &&& flag := by
    intro flag hflag
    rw [or_and_distrib, hflag, UInt8.or_zero]
  have hchecked : ¬ ((t.state ||| rtableBusDetected) &&& rtableFromCache ≠ 0 ∧
      (t.state ||| rtableBusDetected) &&& rtableEdidVerified = 0) := by
    rw [hdetected rtableFromCache (by decide), hdetected rtableEdidVerified (by decide)]
    rintro ⟨hcached, hverified⟩
    rcases ht with hnot | hver
    · exact hcached hnot
    · exact hver hverified
  unfold verifyCached at h
  dsimp only at h
  rw [if_neg hchecked] at h; exact ⟨_, (Except.ok.inj h).symm⟩

theorem createMissing_checked {initialStep : Int} {busno : Nat} {createIfNotFound : Bool} {busInfo : Option Byte}
    {verified : Option ResultsTable} (hverified : ∀ t, verified = some t → t.Checked) {rtable : ResultsTable}
    (h : createMissing initialStep busno createIfNotFound busInfo verified = .ok (some rtable)) : rtable.Checked := by
  cases verified with
  | some t =>
    cases h; exact hverified _ rfl
  | none =>
    cases createIfNotFound with
    | false => cases h
    | true =>
      simp only [createMissing, if_true, bind_eq_ok] at h
      obtain ⟨checkbyte, -, h⟩ := h
      cases h; exact .inl (show rtableBusDetected &&& rtableFromCache = 0 by decide)

theorem keepVerified_slots_other {tables : Pool ResultsTable} {busno j : Nat} (verified : Option ResultsTable)
    (h : j ≠ busno) : (keepVerified tables busno verified).slots j = tables.slots j := by
  unfold keepVerified
  split
  · rfl
  · exact tables.slots_discard_other h
  · rfl

theorem keepCreated_slots_other {tables : Pool ResultsTable} {busno j : Nat} (created : Option ResultsTable)
    (h : j ≠ busno) : (keepCreated tables busno created).slots j = tables.slots j := by
  unfold keepCreated
  split
  · exact tables.slots_create_other _ h
  · rfl

theorem Dsa2Tables.getResultsTableByBusno_keeps {g g' : Dsa2Tables} {busno : Nat} {createIfNotFound : Bool}
    {busInfo : Option Byte} (h : g.getResultsTableByBusno busno createIfNotFound busInfo = .ok g') :
    KeepsChecked g.resultsTables g'.resultsTables := by
  obtain ⟨-, verified, rtable, hverified, hrtable, rfl⟩ := getResultsTableByBusno_eq_ok h
  have hvalue := getResultsTableByBusno_value hverified hrtable
  have hfound : ∀ t, g.resultsTables.value busno = some t → t.Checked →
      ∃ t', verified = some t' ∧ rtable = some t' ∧ t'.Checked := by
    intro t ht hchecked
    rw [ht] at hverified
    obtain ⟨t', rfl⟩ := verifyCached_keeps hchecked hverified
    exact ⟨t', rfl, createMissing_some hrtable, verifyCached_checked hverified⟩
  constructor
  · intro j t ht hchecked
    by_cases hj : j = busno
    · subst hj
      obtain ⟨t', rfl, rfl, -⟩ := hfound t ht hchecked
      obtain ⟨a, ha, -⟩ := Pool.slot_of_value ht
      simp only [keepVerified, keepCreated, ha, Pool.slots_write]
    · exact (keepCreated_slots_other _ hj).trans (keepVerified_slots_other _ hj)
  · intro j t ht hchecked
    rw [hvalue]
    by_cases hj : j = busno
    · subst hj
      obtain ⟨t', -, rfl, hchecked'⟩ := hfound t ht hchecked
      exact ⟨t', update_self .., hchecked'⟩
    · exact ⟨t, (update_of_ne hj ..).trans ht, hchecked⟩

theorem Dsa2Tables.getResultsTableByBusno_creates {g g' : Dsa2Tables} {busno : Nat} {busInfo : Option Byte}
    (h : g.getResultsTableByBusno busno true busInfo = .ok g') :
    busno ≤ i2cBusMax ∧ ∃ a rtable, g'.resultsTables.slots busno = some a ∧
      g'.resultsTables.value busno = some rtable ∧ rtable.Checked := by
  obtain ⟨hle, verified, rtable, hverified, hrtable, rfl⟩ := getResultsTableByBusno_eq_ok h
  have hvalue := getResultsTableByBusno_value hverified hrtable
  have hmade : ∃ t, rtable = some t := by
    cases verified with
    | some t => exact ⟨t, createMissing_some hrtable⟩
    | none =>
      simp only [createMissing, if_true, bind_eq_ok] at hrtable
      obtain ⟨checkbyte, -, hrtable⟩ := hrtable
      exact ⟨_, (Except.ok.inj hrtable).symm⟩
  obtain ⟨t, rfl⟩ := hmade
  have hat : (keepCreated (keepVerified g.resultsTables busno verified) busno (some t)).value busno = some t := by
    rw [hvalue, update_self]
  obtain ⟨a, ha, -⟩ := Pool.slot_of_value hat
  refine ⟨hle, a, t, ha, hat, createMissing_checked (fun v hv => ?_) hrtable⟩
  subst hv; exact verifyCached_checked hverified

/-! ## Functions on one display -/

/-- **What a function on a display leaves**: its switch, and the flags of its table. -/
structure SameFlags (pdd pdd' : PerDisplayData) : Prop where
  dsa2Enabled : pdd'.dsa2Enabled = pdd.dsa2Enabled
  table : ∀ rtable', pdd'.dsa2Data = some rtable' →
    ∃ rtable, pdd.dsa2Data = some rtable ∧ rtable'.state = rtable.state

theorem SameFlags.refl (pdd : PerDisplayData) : SameFlags pdd pdd := ⟨rfl, fun rtable h => ⟨rtable, h, rfl⟩⟩

theorem onDsa2Data_flags {pdd pdd' : PerDisplayData} {f : ResultsTable → Exec ResultsTable}
    (hf : ∀ rtable rtable', f rtable = .ok rtable' → rtable'.state = rtable.state)
    (h : onDsa2Data pdd f = .ok pdd') : SameFlags pdd pdd' := by
  unfold onDsa2Data at h
  split at h
  · cases hdata : pdd.dsa2Data with
    | none =>
      rw [hdata] at h; cases h
    | some rtable =>
      rw [hdata] at h
      obtain ⟨rtable', hrun, h⟩ := bind_eq_ok.1 h
      cases h
      refine ⟨rfl, fun t ht => ?_⟩
      cases ht; exact ⟨rtable, hdata, hf rtable _ hrun⟩
  · cases h; exact SameFlags.refl pdd

theorem tunedSleepWithTrace_flags {nullMsgAdjustmentEnabled : Bool} {pdd pdd' : PerDisplayData}
    (h : tunedSleepWithTrace nullMsgAdjustmentEnabled pdd = .ok pdd') : SameFlags pdd pdd' := by
  obtain ⟨_, -, h⟩ := bind_eq_ok.1 h
  cases h; exact ⟨rfl, (SameFlags.refl pdd).table⟩

theorem pddNoteRetryableFailure_flags {pdd pdd' : PerDisplayData} {ddcrc : Status} {remainingTries : Int}
    (h : pddNoteRetryableFailure pdd ddcrc remainingTries = .ok pdd') : SameFlags pdd pdd' := by
  unfold pddNoteRetryableFailure at h
  split at h
  · obtain ⟨noted, hnoted, h⟩ := bind_eq_ok.1 h
    obtain ⟨_, -, h⟩ := bind_eq_ok.1 h
    cases h
    have hflags := onDsa2Data_flags (fun _ _ => dsa2NoteRetryableFailure_state) hnoted
    exact ⟨hflags.dsa2Enabled, hflags.table⟩
  · cases h; exact SameFlags.refl pdd

theorem pddRecordFinal_flags {settings : Dsa2Settings} {dsa2Enabled : Bool} {pdd pdd' : PerDisplayData}
    {ddcrc : Status} {tries now : Int} (h : pddRecordFinal settings dsa2Enabled pdd ddcrc tries now = .ok pdd') :
    SameFlags pdd pdd' := by
  unfold pddRecordFinal pddRecordActive at h
  obtain ⟨recorded, hactive, h⟩ := bind_eq_ok.1 h
  cases h
  split at hactive
  · obtain ⟨final, hfinal, hactive⟩ := bind_eq_ok.1 hactive
    obtain ⟨_, -, hactive⟩ := bind_eq_ok.1 hactive
    cases hactive
    have hflags := onDsa2Data_flags (fun _ _ => dsa2RecordFinal_state) hfinal
    exact ⟨hflags.dsa2Enabled, hflags.table⟩
  · cases hactive; exact ⟨rfl, (SameFlags.refl pdd).table⟩

theorem writeThrough_keeps {tables : Pool ResultsTable} {pdd : DisplayRecord} (h : KeepsTable tables pdd)
    {left : PerDisplayData} (hflags : SameFlags (pdd.view tables) left) :
    KeepsChecked tables (writeThrough tables pdd.dsa2Data left.dsa2Data) := by
  cases hdata : pdd.dsa2Data with
  | none => exact KeepsChecked.refl tables
  | some a =>
    cases hleft : left.dsa2Data with
    | none => exact KeepsChecked.refl tables
    | some rtable' =>
      obtain ⟨busno, rtable, -, -, hslot, hvalue, hchecked⟩ := h.installed a hdata
      obtain ⟨rtable₀, hview, hstate⟩ := hflags.table rtable' hleft
      have hderef : tables.deref pdd.dsa2Data = some rtable := by rw [hdata, Pool.deref_slot hslot, hvalue]
      cases hderef.symm.trans hview
      refine ⟨fun _ _ _ _ => rfl, fun j t ht hchecked' => ?_⟩
      change ∃ t', (tables.write a rtable').value j = some t' ∧ t'.Checked
      rw [Pool.value_write hslot]
      by_cases hj : j = busno
      · subst hj
        refine ⟨rtable', update_self .., ?_⟩
        rw [ResultsTable.Checked, hstate]; exact hchecked
      · exact ⟨t, (update_of_ne hj ..).trans ht, hchecked'⟩

theorem AllKeepTables.set {s : DisplayModule} {dpath : IoPath} {dsa2 : Dsa2Tables} {pdd : DisplayRecord}
    {multiplier : ℚ} (h : AllKeepTables s) (hkeeps : KeepsChecked s.dsa2.resultsTables dsa2.resultsTables)
    (hpdd : KeepsTable dsa2.resultsTables pdd) :
    AllKeepTables ⟨dsa2, update s.perDisplayDataHash (dpathHash dpath) (some pdd), multiplier⟩ := by
  intro hval p hp
  dsimp only at hp
  by_cases hhash : hval = dpathHash dpath
  · rw [hhash, update_self] at hp
    cases hp; exact hpdd
  · rw [update_of_ne hhash] at hp; exact (h hval p hp).of_checked hkeeps

theorem DisplayModule.pdd_eq_ok {s : DisplayModule} {dpath : IoPath} {pdd : DisplayRecord} :
    s.pdd dpath = .ok pdd ↔ s.perDisplayDataHash (dpathHash dpath) = some pdd := by
  unfold DisplayModule.pdd
  cases s.perDisplayDataHash (dpathHash dpath) with
  | none => exact iff_of_false (fun h => nomatch h) (fun h => nomatch h)
  | some p => exact ⟨fun h => congrArg some (Except.ok.inj h), fun h => congrArg Except.ok (Option.some.inj h)⟩

theorem onPdd_keeps {s s' : DisplayModule} {dpath : IoPath} {f : PerDisplayData → Exec PerDisplayData}
    (h : AllKeepTables s) (hf : ∀ pdd pdd', f pdd = .ok pdd' → SameFlags pdd pdd')
    (hrun : s.onPdd dpath f = .ok s') : AllKeepTables s' := by
  obtain ⟨pdd, hpdd, hrun⟩ := bind_eq_ok.1 hrun
  obtain ⟨left, hleft, hrun⟩ := bind_eq_ok.1 hrun
  cases hrun
  have hkept := h _ _ (DisplayModule.pdd_eq_ok.1 hpdd)
  have hflags := hf _ _ hleft
  have hkeeps := writeThrough_keeps hkept hflags
  refine h.set hkeeps ?_
  have hleave := hkept.of_checked hkeeps
  exact ⟨hleave.installed, fun hon => hleave.present (hflags.dsa2Enabled.symm.trans hon)⟩

/-! ## One step -/

theorem pddGetPerDisplayData_keeps {s s' : DisplayModule} (h : AllKeepTables s) {dpath : IoPath}
    {createIfNotFound : Bool} {busInfo : Option Byte}
    (hrun : pddGetPerDisplayData s dpath createIfNotFound busInfo = .ok s') : AllKeepTables s' := by
  unfold pddGetPerDisplayData at hrun
  cases hfound : s.perDisplayDataHash (dpathHash dpath) with
  | some pdd =>
    rw [hfound] at hrun
    cases hrun; exact h
  | none =>
    rw [hfound] at hrun
    cases createIfNotFound with
    | false =>
      cases hrun; exact h
    | true =>
      obtain ⟨made, hmade, hrun⟩ := bind_eq_ok.1 hrun
      cases hrun
      unfold pddInitPdd at hmade
      cases dpath with
      | usb hiddevDevno =>
        cases hmade
        exact h.set (KeepsChecked.refl _) ⟨(fun a ha => nomatch ha), (fun hon => nomatch hon)⟩
      | i2c busno =>
        dsimp only at hmade
        split at hmade
        · obtain ⟨dsa2, hdsa2, hmade⟩ := bind_eq_ok.1 hmade
          cases hmade
          obtain ⟨hle, a, rtable, hslot, hvalue, hchecked⟩ := Dsa2Tables.getResultsTableByBusno_creates hdsa2
          refine h.set (Dsa2Tables.getResultsTableByBusno_keeps hdsa2) ⟨fun b hb => ?_, fun _ => ?_⟩
          · exact ⟨busno, rtable, rfl, hle, hb, hvalue, hchecked⟩
          · rw [hslot]; rfl
        · cases hmade
          exact h.set (KeepsChecked.refl _) ⟨(fun a ha => nomatch ha), (fun hon => nomatch hon)⟩

theorem displayModuleStep_keeps {settings : Dsa2Settings} {s s' : DisplayModule} {call : DisplayModuleCall}
    (h : AllKeepTables s) (hcond : KeepsShared s call) (hrun : displayModuleStep settings s call = .ok s') :
    AllKeepTables s' := by
  cases call with
  | getPerDisplayData dpath createIfNotFound busInfo => exact pddGetPerDisplayData_keeps h hrun
  | dsa2Enable yesno =>
    cases hrun; exact h
  | enableDynamicSleepAll onoff =>
    cases hrun
    intro hval pdd hpdd
    obtain ⟨pdd₀, hpdd₀, rfl⟩ := Option.map_eq_some_iff.1 hpdd
    exact ⟨(h hval pdd₀ hpdd₀).installed, fun hon => hcond hon hval pdd₀ hpdd₀⟩
  | setDynamicSleepActive dpath onoff =>
    change s.onPdd dpath (fun pdd => .ok { pdd with dynamicSleepActive := onoff }) = .ok s' at hrun
    refine onPdd_keeps h (fun pdd pdd' hset => ?_) hrun
    cases hset; exact ⟨rfl, (SameFlags.refl pdd).table⟩
  | resetMultiplier dpath multiplier busInfo =>
    obtain ⟨pdd, hpdd, hrun⟩ := bind_eq_ok.1 hrun
    rw [DisplayModule.pdd_eq_ok] at hpdd
    rw [if_neg (Bool.eq_false_iff.1 (hcond pdd hpdd))] at hrun
    cases hrun
    have hkept := h _ _ hpdd
    exact h.set (KeepsChecked.refl _) ⟨hkept.installed, hkept.present⟩
  | getResultsTableByBusno busno createIfNotFound busInfo =>
    obtain ⟨dsa2, hdsa2, hrun⟩ := bind_eq_ok.1 hrun
    cases hrun
    exact fun hval pdd hpdd => (h hval pdd hpdd).of_checked (Dsa2Tables.getResultsTableByBusno_keeps hdsa2)
  | tunedSleep dpath nullMsgAdjustmentEnabled => exact onPdd_keeps h (fun _ _ => tunedSleepWithTrace_flags) hrun
  | noteRetryableFailure dpath ddcrc remainingTries =>
    exact onPdd_keeps h (fun _ _ => pddNoteRetryableFailure_flags) hrun
  | recordFinal dpath ddcrc tries now => exact onPdd_keeps h (fun _ _ => pddRecordFinal_flags) hrun

theorem AtStartup.keeps {s : DisplayModule} (h : AtStartup s) : AllKeepTables s := by
  intro hval pdd hpdd
  rw [h hval] at hpdd; cases hpdd

theorem SharingRun.keeps {settings : Dsa2Settings} {s : DisplayModule} (h : SharingRun settings s) :
    AllKeepTables s := by
  refine Reachable.keeps (fun s hstart => hstart.keeps) (fun s call s' hinv hcond hrun => ?_) h
  exact displayModuleStep_keeps hinv hcond hrun

/-! ## The steps that break it -/

theorem pddResetMultiplier_dangles {settings : Dsa2Settings} {s s' : DisplayModule} (h : AllKeepTables s)
    {dpath : IoPath} {multiplier : ℚ} {busInfo : Option Byte} {pdd : DisplayRecord}
    (hpdd : s.perDisplayDataHash (dpathHash dpath) = some pdd) (hon : pdd.dsa2Enabled = true)
    (hrun : pddResetMultiplier settings s dpath multiplier busInfo = .ok s') :
    s'.perDisplayDataHash (dpathHash dpath) = some { pdd with userSleepMultiplier := multiplier } ∧
      s'.dsa2.resultsTables.deref pdd.dsa2Data = none := by
  obtain ⟨busno, a, rtable, hshares⟩ := (h _ _ hpdd).shares hon
  have hbusno : pdd.dpath.busno = busno := by rw [hshares.dpath, IoPath.busno]
  rw [pddResetMultiplier, DisplayModule.pdd_eq_ok.2 hpdd, ok_bind] at hrun
  rw [if_pos hon, hbusno] at hrun
  obtain ⟨dsa2, hdsa2, hrun⟩ := bind_eq_ok.1 hrun
  cases hrun
  refine ⟨update_self .., ?_⟩
  obtain ⟨_, -, hdsa2⟩ := bind_eq_ok.1 hdsa2
  obtain ⟨_, -, hdsa2⟩ := bind_eq_ok.1 hdsa2
  obtain ⟨_, -, hdsa2⟩ := bind_eq_ok.1 hdsa2
  cases hdsa2
  rw [hshares.dsa2Data]; exact Pool.deref_replaced s.dsa2.resultsTables _ hshares.installed

theorem DisplayRecord.Shares.view {pdd : DisplayRecord} {tables : Pool ResultsTable} {busno : Nat} {a : Address}
    {rtable : ResultsTable} (h : pdd.Shares tables busno a rtable) : tables.deref pdd.dsa2Data = some rtable := by
  rw [h.dsa2Data]; exact h.live

theorem pddGetAdjustedSleepMultiplier_none {pdd : PerDisplayData} (huse : pdd.UsesDsa2)
    (hdata : pdd.dsa2Data = none) : pddGetAdjustedSleepMultiplier pdd = .error .assertFailed := by
  rw [pddGetAdjustedSleepMultiplier, if_pos (Bool.and_eq_true_iff.2 huse), hdata]

theorem pddResetMultiplier_breaks {settings : Dsa2Settings} {s s' : DisplayModule} (h : AllKeepTables s)
    {dpath : IoPath} {multiplier : ℚ} {busInfo : Option Byte} {pdd : DisplayRecord}
    (hpdd : s.perDisplayDataHash (dpathHash dpath) = some pdd) (hon : pdd.dsa2Enabled = true)
    (hrun : pddResetMultiplier settings s dpath multiplier busInfo = .ok s') : ¬ SharesTables s' := by
  obtain ⟨hpdd', hdangles⟩ := pddResetMultiplier_dangles h hpdd hon hrun
  intro hafter
  obtain ⟨busno, a, rtable, hshares⟩ := hafter _ _ hpdd' hon
  have hview : s'.dsa2.resultsTables.deref pdd.dsa2Data = some rtable := hshares.view
  rw [hdangles] at hview; cases hview

theorem shares_iff_keepsShared {settings : Dsa2Settings} {s s' : DisplayModule} {call : DisplayModuleCall}
    (h : AllKeepTables s) (hrun : displayModuleStep settings s call = .ok s') :
    SharesTables s' ↔ KeepsShared s call := by
  refine ⟨fun hafter => ?_, fun hcond => (displayModuleStep_keeps h hcond hrun).shares⟩
  cases call with
  | resetMultiplier dpath multiplier busInfo =>
    intro pdd hpdd
    apply Bool.eq_false_iff.2
    intro hon; exact pddResetMultiplier_breaks h hpdd hon hrun hafter
  | enableDynamicSleepAll onoff =>
    intro hon hval pdd hpdd
    cases hrun
    obtain ⟨_, a, _, hshares⟩ := hafter hval { pdd with dsa2Enabled := onoff }
      (Option.map_eq_some_iff.2 ⟨pdd, hpdd, rfl⟩) hon
    have hdata : pdd.dsa2Data = some a := hshares.dsa2Data
    rw [hdata]; rfl
  | _ => trivial

/-! ## What a display records -/

theorem onPdd_view {s s' : DisplayModule} {dpath : IoPath} {f : PerDisplayData → Exec PerDisplayData}
    {P : ResultsTable → Prop} {pdd : DisplayRecord} {busno : Nat} {a : Address} {rtable : ResultsTable}
    (hpdd : s.perDisplayDataHash (dpathHash dpath) = some pdd)
    (hshares : pdd.Shares s.dsa2.resultsTables busno a rtable)
    (hf : ∀ left, f (pdd.view s.dsa2.resultsTables) = .ok left → ∃ rtable', P rtable' ∧ left.dsa2Data = some rtable')
    (hrun : s.onPdd dpath f = .ok s') :
    ∃ rtable', P rtable' ∧ s'.dsa2.view = s.dsa2.view.install busno (some rtable') := by
  rw [DisplayModule.onPdd, DisplayModule.pdd_eq_ok.2 hpdd, ok_bind] at hrun
  obtain ⟨left, hleft, hrun⟩ := bind_eq_ok.1 hrun
  cases hrun
  obtain ⟨rtable', hP, hdata⟩ := hf left hleft
  refine ⟨rtable', hP, ?_⟩
  rw [hdata, hshares.dsa2Data]; exact s.dsa2.write_view hshares.installed rtable'

theorem DisplayRecord.Shares.tableOf {pdd : DisplayRecord} {g : Dsa2Tables} {busno : Nat} {a : Address}
    {rtable : ResultsTable} (h : pdd.Shares g.resultsTables busno a rtable) : g.view.tableOf busno = .ok rtable := by
  have hvalue : g.resultsTables.value busno = some rtable := by rw [Pool.value, h.installed, Option.bind_some, h.live]
  rw [Dsa2.tableOf, g.fetch_view h.inArray, hvalue, ok_bind]

theorem onDsa2Data_eq_ok {pdd pdd' : PerDisplayData} {f : ResultsTable → Exec ResultsTable} {rtable : ResultsTable}
    (hon : pdd.dsa2Enabled = true) (hdata : pdd.dsa2Data = some rtable) (h : onDsa2Data pdd f = .ok pdd') :
    ∃ rtable', f rtable = .ok rtable' ∧ pdd'.dsa2Data = some rtable' := by
  rw [onDsa2Data, if_pos hon, hdata] at h
  obtain ⟨rtable', hrun, h⟩ := bind_eq_ok.1 h
  cases h; exact ⟨rtable', hrun, rfl⟩

theorem noteRetryableFailure_view {settings : Dsa2Settings} {s s' : DisplayModule} {dpath : IoPath}
    {pdd : DisplayRecord} {busno : Nat} {a : Address} {rtable : ResultsTable} {ddcrc : Status} {remainingTries : Int}
    (hpdd : s.perDisplayDataHash (dpathHash dpath) = some pdd)
    (hshares : pdd.Shares s.dsa2.resultsTables busno a rtable) (hon : pdd.dsa2Enabled = true)
    (hactive : pdd.dynamicSleepActive = true)
    (hrun : displayModuleStep settings s (.noteRetryableFailure dpath ddcrc remainingTries) = .ok s') :
    dsa2Step settings s.dsa2.view (.noteRetryableFailure busno ddcrc remainingTries) = .ok s'.dsa2.view := by
  have hspec : ∀ left, pddNoteRetryableFailure (pdd.view s.dsa2.resultsTables) ddcrc remainingTries = .ok left →
      ∃ rtable', dsa2NoteRetryableFailure rtable ddcrc remainingTries = .ok rtable' ∧
        left.dsa2Data = some rtable' := by
    intro left hleft
    unfold pddNoteRetryableFailure at hleft
    rw [if_pos (show (pdd.view s.dsa2.resultsTables).dynamicSleepActive = true from hactive)] at hleft
    obtain ⟨noted, hnoted, hleft⟩ := bind_eq_ok.1 hleft
    obtain ⟨_, -, hleft⟩ := bind_eq_ok.1 hleft
    cases hleft; exact onDsa2Data_eq_ok hon hshares.view hnoted
  obtain ⟨rtable', hnote, hview⟩ := onPdd_view
    (f := fun pdd => pddNoteRetryableFailure pdd ddcrc remainingTries)
    (P := fun rtable' => dsa2NoteRetryableFailure rtable ddcrc remainingTries = .ok rtable') hpdd hshares hspec hrun
  rw [hview]
  simp only [dsa2Step, hshares.tableOf, hnote, ok_bind]

theorem recordFinal_view {settings : Dsa2Settings} {s s' : DisplayModule} {dpath : IoPath} {pdd : DisplayRecord}
    {busno : Nat} {a : Address} {rtable : ResultsTable} {ddcrc : Status} {tries now : Int}
    (hpdd : s.perDisplayDataHash (dpathHash dpath) = some pdd)
    (hshares : pdd.Shares s.dsa2.resultsTables busno a rtable) (hon : pdd.dsa2Enabled = true)
    (hactive : pdd.dynamicSleepActive = true)
    (hrun : displayModuleStep settings s (.recordFinal dpath ddcrc tries now) = .ok s') :
    dsa2Step settings s.dsa2.view (.recordFinal busno ddcrc tries pdd.curLoopNullAdjustmentOccurred now) =
      .ok s'.dsa2.view := by
  have hspec : ∀ left, pddRecordFinal settings s.dsa2.dsa2Enabled (pdd.view s.dsa2.resultsTables) ddcrc tries now =
      .ok left → ∃ rtable', dsa2RecordFinal settings s.dsa2.dsa2Enabled rtable ddcrc tries
        pdd.curLoopNullAdjustmentOccurred now = .ok rtable' ∧ left.dsa2Data = some rtable' := by
    intro left hleft
    unfold pddRecordFinal pddRecordActive at hleft
    obtain ⟨recorded, hrecorded, hleft⟩ := bind_eq_ok.1 hleft
    cases hleft
    rw [if_pos (show (pdd.view s.dsa2.resultsTables).dynamicSleepActive = true from hactive)] at hrecorded
    obtain ⟨final, hfinal, hrecorded⟩ := bind_eq_ok.1 hrecorded
    obtain ⟨_, -, hrecorded⟩ := bind_eq_ok.1 hrecorded
    cases hrecorded; exact onDsa2Data_eq_ok hon hshares.view hfinal
  obtain ⟨rtable', hrecord, hview⟩ := onPdd_view
    (f := fun pdd => pddRecordFinal settings s.dsa2.dsa2Enabled pdd ddcrc tries now)
    (P := fun rtable' => dsa2RecordFinal settings s.dsa2.dsa2Enabled rtable ddcrc tries
      pdd.curLoopNullAdjustmentOccurred now = .ok rtable') hpdd hshares hspec hrun
  rw [hview]
  have hrecord' : dsa2RecordFinal settings s.dsa2.view.dsa2Enabled rtable ddcrc tries
      pdd.curLoopNullAdjustmentOccurred now = .ok rtable' := hrecord
  simp only [dsa2Step, hshares.tableOf, hrecord', ok_bind]

/-- **In a run whose calls keep the tables shared, every display with the algorithm on uses the installed table**: what
it notes and records is noted and recorded there.  A further call keeps the tables shared exactly when it meets the
condition. -/
theorem sharesTables_of_keepsShared (settings : Dsa2Settings) {s : DisplayModule} (h : SharingRun settings s) :
    SharesTables s ∧
      (∀ call s', displayModuleStep settings s call = .ok s' → (SharesTables s' ↔ KeepsShared s call)) ∧
      ∀ dpath pdd, s.perDisplayDataHash (dpathHash dpath) = some pdd → pdd.dsa2Enabled = true →
        pdd.dynamicSleepActive = true → ∃ busno, pdd.dpath = .i2c busno ∧
          (∀ ddcrc remainingTries s',
            displayModuleStep settings s (.noteRetryableFailure dpath ddcrc remainingTries) = .ok s' →
            dsa2Step settings s.dsa2.view (.noteRetryableFailure busno ddcrc remainingTries) = .ok s'.dsa2.view) ∧
          ∀ ddcrc tries now s', displayModuleStep settings s (.recordFinal dpath ddcrc tries now) = .ok s' →
            dsa2Step settings s.dsa2.view (.recordFinal busno ddcrc tries pdd.curLoopNullAdjustmentOccurred now) =
              .ok s'.dsa2.view := by
  have hkeeps := h.keeps
  refine ⟨hkeeps.shares, fun call s' hrun => shares_iff_keepsShared hkeeps hrun, ?_⟩
  intro dpath pdd hpdd hon hactive
  obtain ⟨busno, a, rtable, hshares⟩ := hkeeps.shares _ pdd hpdd hon
  exact ⟨busno, hshares.dpath, fun _ _ _ hrun => noteRetryableFailure_view hpdd hshares hon hactive hrun,
    fun _ _ _ _ hrun => recordFinal_view hpdd hshares hon hactive hrun⟩

def startupModule : DisplayModule where
  dsa2 := ⟨true, 7, ⟨fun _ => none, ⟨fun _ => none, 0, fun _ _ => rfl⟩, (fun _ _ h => nomatch h),
    (fun _ _ _ h => nomatch h)⟩⟩
  perDisplayDataHash := fun _ => none
  defaultUserSleepMultiplier := 1

/-- A run: the display of bus 3 is made, with a table of its own. -/
theorem sharesTables_of_keepsShared_made :
    ∃ s pdd, SharingRun defaultDsa2Settings s ∧ s.perDisplayDataHash 3 = some pdd ∧ pdd.dsa2Enabled = true ∧
      SharesTables s := by
  let call := DisplayModuleCall.getPerDisplayData (.i2c 3) true (some 0x5a)
  have hrun : ∃ s, displayModuleStep defaultDsa2Settings startupModule call = .ok s ∧
      ∃ pdd, s.perDisplayDataHash 3 = some pdd ∧ pdd.dsa2Enabled = true := ⟨_, rfl, _, rfl, rfl⟩
  obtain ⟨s, hrun, pdd, hpdd, hon⟩ := hrun
  have hkeeps : KeepsShared startupModule call := trivial
  have hreach : SharingRun defaultDsa2Settings s := .step (.start fun _ => rfl) hkeeps hrun
  exact ⟨s, pdd, hreach, hpdd, hon, (sharesTables_of_keepsShared defaultDsa2Settings hreach).1⟩

/-- The display of bus 3 is made and its multiplier reset: its pointer is to the table that was freed, and no multiplier
is in effect. -/
theorem resetMultiplier_dangles :
    ∃ s pdd, [DisplayModuleCall.getPerDisplayData (.i2c 3) true (some 0x5a), .resetMultiplier (.i2c 3) (1 / 2)
        (some 0x5a)].foldlM (displayModuleStep defaultDsa2Settings) startupModule = .ok s ∧
      s.perDisplayDataHash 3 = some pdd ∧ pdd.dsa2Enabled = true ∧
      s.dsa2.resultsTables.deref pdd.dsa2Data = none ∧
      pddGetAdjustedSleepMultiplier (pdd.view s.dsa2.resultsTables) = .error .assertFailed ∧ ¬ SharesTables s := by
  let call := DisplayModuleCall.getPerDisplayData (.i2c 3) true (some 0x5a)
  have hcond : KeepsShared startupModule call := trivial
  have hmade : ∃ s, displayModuleStep defaultDsa2Settings startupModule call = .ok s ∧
      ∃ pdd, s.perDisplayDataHash 3 = some pdd ∧ pdd.dpath = .i2c 3 ∧ pdd.dsa2Enabled = true ∧
        pdd.dynamicSleepActive = true := ⟨_, rfl, _, rfl, rfl, rfl, rfl⟩
  obtain ⟨s, hmade, pdd, hpdd, hdpath, hon, hactive⟩ := hmade
  have hstart : AtStartup startupModule := fun _ => rfl
  have hkeeps : AllKeepTables s := displayModuleStep_keeps hstart.keeps hcond hmade
  obtain ⟨step, hstep, -⟩ := dsa2MultiplierToStep_ok defaultDsa2Settings (if (0 : ℚ) ≤ 1 / 2 then 1 / 2 else 1)
  have hhash : s.perDisplayDataHash (dpathHash (.i2c 3)) = some pdd := hpdd
  have hreset : ∃ s', displayModuleStep defaultDsa2Settings s (.resetMultiplier (.i2c 3) (1 / 2) (some 0x5a)) =
      .ok s' := by
    have hbound : inResultsTables 3 = .ok () := inResultsTables_eq_ok.2 (by decide)
    simp only [displayModuleStep, pddResetMultiplier]
    rw [DisplayModule.pdd_eq_ok.2 hhash, ok_bind, if_pos hon, hdpath]
    simp only [Dsa2Tables.resetResultsTable, IoPath.busno, hbound, hstep, getEdidCheckbyte, ok_bind]
    exact ⟨_, rfl⟩
  obtain ⟨s', hreset⟩ := hreset
  obtain ⟨hpdd', hdangles⟩ := pddResetMultiplier_dangles hkeeps hhash hon hreset
  refine ⟨s', _, ?_, hpdd', hon, hdangles, pddGetAdjustedSleepMultiplier_none ⟨hactive, hon⟩ hdangles,
    pddResetMultiplier_breaks hkeeps hhash hon hreset⟩
  rw [List.foldlM_cons, hmade, ok_bind, List.foldlM_cons, hreset, ok_bind]; rfl

end Ddc
