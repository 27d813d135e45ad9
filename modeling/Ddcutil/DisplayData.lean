import Ddcutil.Dsa2Steps
/-!
# DisplayData — what a display remembers between operations

The part of `per_display_data.c`, `display_retry_data.c`, `ddc_try_data.c` and `tuned_sleep.c` that a write-read
operation reads and changes: the per-loop counts of null messages, the results table, and the try statistics.  What
`dsa2_data` points to is a field.
-/
namespace Ddc

open Kit List Exec

/-! ## Try statistics -/

/-- **The counters of one kind of operation**: fatal failures, failures of all tries, then successes by number of
tries. -/
structure TryCounters where
  counters : List Nat
  length_eq : counters.length = maxMaxTries + 2

theorem length_noTries : (List.replicate (maxMaxTries + 2) 0).length = maxMaxTries + 2 := length_replicate

def TryCounters.bump (c : TryCounters) (index : Nat) : Exec TryCounters :=
  if index < c.counters.length then
    .ok ⟨c.counters.modify index (· + 1), by rw [length_modify, c.length_eq]⟩
  else .error .outOfBounds

def TryCounters.total (c : TryCounters) : Nat := c.counters.sum

def triesIndex (ddcrc : Status) (tryct : Nat) : Nat :=
  if ddcrc = 0 then tryct + 1 else if ddcrc = ddcrcRetries ∨ ddcrc = ddcrcAllTriesZero then 1 else 0

theorem sum_modify_succ : ∀ (l : List Nat) (i : Nat), i < l.length → (l.modify i (· + 1)).sum = l.sum + 1
  | a :: l, 0, _ => by simp only [modify_zero_cons, sum_cons]; omega
  | a :: l, i + 1, h => by
    simp only [modify_succ_cons, sum_cons, sum_modify_succ l i (Nat.lt_of_succ_lt_succ h)]; omega

theorem TryCounters.bump_ok (c : TryCounters) {index : Nat} (h : index < maxMaxTries + 2) :
    ∃ c', c.bump index = .ok c' ∧ c'.total = c.total + 1 := by
  have hlt : index < c.counters.length := by rw [c.length_eq]; exact h
  exact ⟨_, if_pos hlt, sum_modify_succ _ _ hlt⟩

theorem triesIndex_lt {ddcrc : Status} {tryct : Nat} (h : tryct ≤ maxMaxTries) :
    triesIndex ddcrc tryct < maxMaxTries + 2 := by
  unfold triesIndex
  split
  · omega
  · split
    · exact Nat.lt_of_sub_ne_zero (by decide)
    · exact Nat.succ_pos _

/-! ## Per-display data -/

structure PerDisplayData where
  userSleepMultiplier : ℚ
  dsa2Enabled : Bool
  dsa2Data : Option ResultsTable
  dynamicSleepActive : Bool
  curLoopNullMsgCt : Int
  curLoopNullAdjustmentOccurred : Bool
  tryStats : TryCounters

structure DdcState where
  dsa2Enabled : Bool
  pdd : PerDisplayData
  tryData : TryCounters

def pddGetAdjustedSleepMultiplier (pdd : PerDisplayData) : Exec ℚ :=
  if pdd.dynamicSleepActive && pdd.dsa2Enabled then
    match pdd.dsa2Data with
    | some rtable => dsa2GetAdjustedSleepMult rtable
    | none => .error .assertFailed
  else .ok pdd.userSleepMultiplier

def onDsa2Data (pdd : PerDisplayData) (f : ResultsTable → Exec ResultsTable) : Exec PerDisplayData :=
  if pdd.dsa2Enabled then
    match pdd.dsa2Data with
    | some rtable => f rtable >>= fun rtable' => .ok { pdd with dsa2Data := some rtable' }
    | none => .error .nullDeref
  else .ok pdd

def pddNoteRetryableFailure (pdd : PerDisplayData) (ddcrc : Status) (remainingTries : Int) : Exec PerDisplayData :=
  if pdd.dynamicSleepActive then do
    let pdd ← onDsa2Data pdd fun rtable => dsa2NoteRetryableFailure rtable ddcrc remainingTries
    let _ ← pddGetAdjustedSleepMultiplier pdd
    .ok { pdd with
      curLoopNullMsgCt := if ddcrc = ddcrcNullResponse then pdd.curLoopNullMsgCt + 1 else pdd.curLoopNullMsgCt }
  else .ok pdd

def pddRecordActive (settings : Dsa2Settings) (dsa2Enabled : Bool) (pdd : PerDisplayData) (ddcrc : Status)
    (tries now : Int) : Exec PerDisplayData :=
  if pdd.dynamicSleepActive then do
    let pdd' ← onDsa2Data pdd fun rtable =>
      dsa2RecordFinal settings dsa2Enabled rtable ddcrc tries pdd.curLoopNullAdjustmentOccurred now
    let _ ← pddGetAdjustedSleepMultiplier pdd'
    .ok pdd'
  else .ok pdd

def pddRecordFinal (settings : Dsa2Settings) (dsa2Enabled : Bool) (pdd : PerDisplayData) (ddcrc : Status)
    (tries now : Int) : Exec PerDisplayData := do
  let pdd ← pddRecordActive settings dsa2Enabled pdd ddcrc tries now
  .ok { pdd with curLoopNullMsgCt := 0, curLoopNullAdjustmentOccurred := false }

def tunedSleepWithTrace (nullMsgAdjustmentEnabled : Bool) (pdd : PerDisplayData) : Exec PerDisplayData := do
  let _ ← pddGetAdjustedSleepMultiplier pdd
  .ok { pdd with
    curLoopNullAdjustmentOccurred :=
      pdd.curLoopNullAdjustmentOccurred || (0 < pdd.curLoopNullMsgCt && nullMsgAdjustmentEnabled) }

def tryDataRecordTries2 (maxTries : MaxTries) (s : DdcState) (ddcrc : Status) (tryct : Nat) : Exec DdcState := do
  let tryStats ← s.pdd.tryStats.bump (triesIndex ddcrc tryct)
  check (ddcrc = 0 → 0 < tryct ∧ tryct ≤ maxTries.val)
  let tryData ← s.tryData.bump (triesIndex ddcrc tryct)
  .ok { s with pdd := { s.pdd with tryStats := tryStats }, tryData := tryData }

/-! ## What the calls do -/

/-- **A display the algorithm can run on**: its table, if any, is sound, and it has one where the algorithm is on. -/
structure PerDisplayData.Sound (pdd : PerDisplayData) : Prop where
  table : ∀ rtable, pdd.dsa2Data = some rtable → rtable.Sound
  present : pdd.dsa2Enabled = true → pdd.dsa2Data.isSome

structure SameDisplay (pdd pdd' : PerDisplayData) : Prop where
  dsa2Enabled : pdd'.dsa2Enabled = pdd.dsa2Enabled
  dynamicSleepActive : pdd'.dynamicSleepActive = pdd.dynamicSleepActive
  tryStats : pdd'.tryStats = pdd.tryStats

theorem SameDisplay.refl (pdd : PerDisplayData) : SameDisplay pdd pdd := ⟨rfl, rfl, rfl⟩

theorem SameDisplay.trans {a b c : PerDisplayData} (h : SameDisplay a b) (h' : SameDisplay b c) : SameDisplay a c :=
  ⟨h'.1.trans h.1, h'.2.trans h.2, h'.3.trans h.3⟩

def PerDisplayData.UsesDsa2 (pdd : PerDisplayData) : Prop :=
  pdd.dynamicSleepActive = true ∧ pdd.dsa2Enabled = true

theorem SameDisplay.usesDsa2 {a b : PerDisplayData} (h : SameDisplay a b) : b.UsesDsa2 ↔ a.UsesDsa2 := by
  unfold PerDisplayData.UsesDsa2
  rw [h.dsa2Enabled, h.dynamicSleepActive]

/-- **A table closed between operations**: both steps one, and no null message counted. -/
def ResultsTable.Closed (rtable : ResultsTable) : Prop :=
  rtable.curRetryLoopStep = rtable.curStep ∧ rtable.curRetryLoopNullMsgCt = 0

def PerDisplayData.TableClosed (pdd : PerDisplayData) : Prop :=
  ∀ rtable, pdd.dsa2Data = some rtable → rtable.Closed

structure PerDisplayData.Closed (pdd : PerDisplayData) : Prop where
  table : pdd.TableClosed
  nullMsgCt : pdd.curLoopNullMsgCt = 0
  nullAdjustment : pdd.curLoopNullAdjustmentOccurred = false

theorem pddGetAdjustedSleepMultiplier_ok {pdd : PerDisplayData} (h : pdd.Sound) :
    ∃ m, pddGetAdjustedSleepMultiplier pdd = .ok m := by
  unfold pddGetAdjustedSleepMultiplier
  split
  · rename_i hon
    rw [Bool.and_eq_true] at hon
    obtain ⟨rtable, heq⟩ := Option.isSome_iff_exists.mp (h.present hon.2)
    rw [heq]; exact dsa2GetAdjustedSleepMult_ok (h.table rtable heq)
  · exact ⟨_, rfl⟩

theorem tunedSleepWithTrace_ok {pdd : PerDisplayData} (h : pdd.Sound) (nullMsgAdjustmentEnabled : Bool) :
    ∃ pdd', tunedSleepWithTrace nullMsgAdjustmentEnabled pdd = .ok pdd' ∧ SameDisplay pdd pdd' ∧
      pdd'.dsa2Data = pdd.dsa2Data := by
  obtain ⟨m, hm⟩ := pddGetAdjustedSleepMultiplier_ok h
  rw [tunedSleepWithTrace, hm, ok_bind]; exact ⟨_, rfl, ⟨rfl, rfl, rfl⟩, rfl⟩

theorem onDsa2Data_ok {pdd : PerDisplayData} (h : pdd.Sound) {f : ResultsTable → Exec ResultsTable}
    {P : ResultsTable → Prop}
    (hf : ∀ rtable, pdd.dsa2Enabled = true → pdd.dsa2Data = some rtable → rtable.Sound →
      ∃ rtable', f rtable = .ok rtable' ∧ rtable'.Sound ∧ P rtable') :
    ∃ pdd', onDsa2Data pdd f = .ok pdd' ∧ pdd'.Sound ∧ SameDisplay pdd pdd' ∧
      (pdd.dsa2Enabled = true → ∀ rtable', pdd'.dsa2Data = some rtable' → P rtable') ∧
      (pdd.dsa2Enabled = false → pdd'.dsa2Data = pdd.dsa2Data) := by
  cases hon : pdd.dsa2Enabled with
  | false =>
    refine ⟨pdd, ?_, h, SameDisplay.refl pdd, fun ht => absurd ht (by decide), fun _ => rfl⟩
    rw [onDsa2Data, hon]; rfl
  | true =>
    obtain ⟨rtable, heq⟩ := Option.isSome_iff_exists.mp (h.present hon)
    obtain ⟨rtable', hrun, hsound', hP⟩ := hf rtable hon heq (h.table rtable heq)
    refine ⟨{ pdd with dsa2Data := some rtable' }, ?_, ⟨fun t ht => Option.some.inj ht ▸ hsound', fun _ => rfl⟩,
      ⟨rfl, rfl, rfl⟩, ?_, fun hfalse => absurd hfalse (by decide)⟩
    · rw [onDsa2Data, hon, heq, if_pos rfl]
      simp only [hrun, ok_bind]
    · intro _ t ht
      cases ht; exact hP

/-- **A failure that leaves a closed table closed**: no null message, and no higher step to retry at. -/
def NoteHarmless (step : Int) (ddcrc : Status) (remainingTries : Int) : Prop :=
  ddcrc ≠ ddcrcNullResponse ∧ dsa2NextRetryStep step remainingTries = .ok step

structure NotedTable (step : Int) (unraised : Prop) (rtable : ResultsTable) : Prop where
  curStep : rtable.curStep = step
  nullMsgCt : 0 ≤ rtable.curRetryLoopNullMsgCt
  closed : rtable.Closed ↔ unraised

/-- **A note closes nothing**: the table is closed after it when it was before it and the failure is harmless. -/
theorem dsa2NoteRetryableFailure_noted {rtable rtable' : ResultsTable} (h : rtable.Sound) {step : Int}
    {unraised : Prop} (hnoted : NotedTable step unraised rtable) {ddcrc : Status} {remainingTries : Int}
    (hnote : dsa2NoteRetryableFailure rtable ddcrc remainingTries = .ok rtable') :
    NotedTable step (unraised ∧ NoteHarmless step ddcrc remainingTries) rtable' := by
  obtain ⟨n, hn, hge, hle⟩ := dsa2NextRetryStep_ok h.atMost remainingTries
  obtain ⟨hstep, hct, hclosed⟩ := hnoted
  have hord := h.ordered
  simp only [dsa2NoteRetryableFailure, hn, ok_bind] at hnote
  cases hnote
  refine ⟨hstep, ?_, ?_⟩
  · dsimp only
    split <;> omega
  · rw [← hclosed]
    constructor
    · rintro ⟨hretry, hnull⟩
      dsimp only at hretry hnull
      have hnot : ddcrc ≠ ddcrcNullResponse := by
        intro heq
        rw [if_pos heq] at hnull; omega
      have heq : rtable.curRetryLoopStep = rtable.curStep := by omega
      rw [if_neg hnot] at hnull
      refine ⟨⟨heq, hnull⟩, hnot, ?_⟩
      rw [← hstep, ← heq, hn, hretry, heq]
    · rintro ⟨⟨hretry, hnull⟩, hnot, hnext⟩
      rw [← hstep, ← hretry, hn] at hnext
      exact ⟨(Except.ok.inj hnext).trans hretry, (if_neg hnot).trans hnull⟩

theorem pddNoteRetryableFailure_ok {pdd : PerDisplayData} (h : pdd.Sound) (ddcrc : Status) (remainingTries : Int) :
    ∃ pdd', pddNoteRetryableFailure pdd ddcrc remainingTries = .ok pdd' ∧ pdd'.Sound ∧ SameDisplay pdd pdd' ∧
      (¬ pdd.UsesDsa2 → pdd'.dsa2Data = pdd.dsa2Data) ∧
      (pdd.UsesDsa2 → ∀ rtable', pdd'.dsa2Data = some rtable' → ∃ rtable, pdd.dsa2Data = some rtable ∧ rtable.Sound ∧
        dsa2NoteRetryableFailure rtable ddcrc remainingTries = .ok rtable') := by
  unfold pddNoteRetryableFailure
  by_cases hact : pdd.dynamicSleepActive = true
  · obtain ⟨p, hp, hsound, hsame, hon, hoff⟩ := onDsa2Data_ok h
      (P := fun rtable' => ∃ rtable, pdd.dsa2Data = some rtable ∧ rtable.Sound ∧
        dsa2NoteRetryableFailure rtable ddcrc remainingTries = .ok rtable') fun rtable _ heq hs => by
        obtain ⟨rtable', hnote, hs'⟩ := dsa2NoteRetryableFailure_ok hs ddcrc remainingTries
        exact ⟨rtable', hnote, hs', rtable, heq, hs, hnote⟩
    obtain ⟨m, hm⟩ := pddGetAdjustedSleepMultiplier_ok hsound
    rw [if_pos hact]
    simp only [hp, hm, ok_bind]
    refine ⟨_, rfl, ⟨hsound.table, hsound.present⟩, ⟨hsame.1, hsame.2, hsame.3⟩, ?_, fun huse => hon huse.2⟩
    intro hno; exact hoff (Bool.eq_false_iff.mpr fun hen => hno ⟨hact, hen⟩)
  · rw [if_neg hact]
    exact ⟨pdd, rfl, h, SameDisplay.refl pdd, fun _ => rfl, fun huse => absurd huse.1 hact⟩

/-- **The end of an operation closes the display**: always its own counts, and its table where the algorithm is in
effect and the module enabled; elsewhere the table stays as it was. -/
theorem pddRecordFinal_ok (settings : Dsa2Settings) (dsa2Enabled : Bool) {pdd : PerDisplayData} (h : pdd.Sound)
    (ddcrc : Status) (tries now : Int) :
    ∃ pdd', pddRecordFinal settings dsa2Enabled pdd ddcrc tries now = .ok pdd' ∧ pdd'.Sound ∧ SameDisplay pdd pdd' ∧
      pdd'.curLoopNullMsgCt = 0 ∧ pdd'.curLoopNullAdjustmentOccurred = false ∧
      (pdd.UsesDsa2 → dsa2Enabled = true → pdd'.TableClosed) ∧
      (¬ (pdd.UsesDsa2 ∧ dsa2Enabled = true) → pdd'.dsa2Data = pdd.dsa2Data) := by
  unfold pddRecordFinal pddRecordActive
  by_cases hact : pdd.dynamicSleepActive = true
  · obtain ⟨p, hp, hsound, hsame, hon, hoff⟩ := onDsa2Data_ok h
      (P := fun rtable' => (dsa2Enabled = true → rtable'.Closed) ∧ (dsa2Enabled = false → pdd.dsa2Data = some rtable'))
      fun rtable hen heq hs => by
        obtain ⟨t, ht, hts, hclosed⟩ := dsa2RecordFinal_ok settings dsa2Enabled hs ddcrc tries
          pdd.curLoopNullAdjustmentOccurred now
        refine ⟨t, ht, hts, hclosed, ?_⟩
        intro hoff
        subst hoff
        cases ht; exact heq
    obtain ⟨m, hm⟩ := pddGetAdjustedSleepMultiplier_ok hsound
    rw [if_pos hact]
    simp only [hp, hm, ok_bind]
    refine ⟨_, rfl, ⟨hsound.table, hsound.present⟩, ⟨hsame.1, hsame.2, hsame.3⟩, rfl, rfl, ?_, ?_⟩
    · intro huse hen rtable heq; exact (hon huse.2 rtable heq).1 hen
    · intro hno
      cases hen : pdd.dsa2Enabled with
      | false => exact hoff hen
      | true =>
        have hdis : dsa2Enabled = false := Bool.eq_false_iff.mpr fun ht => hno ⟨⟨hact, hen⟩, ht⟩
        obtain ⟨t, ht⟩ := Option.isSome_iff_exists.mp (hsound.present (hsame.1.trans hen))
        exact ht.trans ((hon hen t ht).2 hdis).symm
  · rw [if_neg hact]
    exact ⟨_, rfl, ⟨h.table, h.present⟩, ⟨rfl, rfl, rfl⟩, rfl, rfl, fun huse => absurd huse.1 hact, fun _ => rfl⟩

theorem tryDataRecordTries2_ok (maxTries : MaxTries) (s : DdcState) (ddcrc : Status) {tryct : Nat} (hpos : 1 ≤ tryct)
    (hle : tryct ≤ maxTries.val) :
    ∃ stats tryData, tryDataRecordTries2 maxTries s ddcrc tryct =
        .ok { s with pdd := { s.pdd with tryStats := stats }, tryData := tryData } ∧
      s.pdd.tryStats.bump (triesIndex ddcrc tryct) = .ok stats ∧ s.tryData.bump (triesIndex ddcrc tryct) = .ok tryData := by
  have hlt : triesIndex ddcrc tryct < maxMaxTries + 2 := triesIndex_lt (le_trans hle maxTries.le)
  obtain ⟨stats, hstats, -⟩ := s.pdd.tryStats.bump_ok hlt
  obtain ⟨tryData, htry, -⟩ := s.tryData.bump_ok hlt
  have hcheck : ddcrc = 0 → 0 < tryct ∧ tryct ≤ maxTries.val := fun _ => ⟨hpos, hle⟩
  simp only [tryDataRecordTries2, hstats, htry, check_pos hcheck, ok_bind]
  exact ⟨stats, tryData, rfl, rfl, rfl⟩

end Ddc
