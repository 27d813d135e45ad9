import Ddcutil.Dsa2
import Ddcutil.Kit.Runs
/-!
# Dsa2Steps — the steps of every results table, over all runs of the module

`ResultsTable.Sound` is the invariant: the two steps are ordered between 0 and the last one.
-/
namespace Ddc

open Kit List Exec

/-! ## The latest successes -/

theorem cirbGetLogical_of_lt (cirb : Cirb) {i : Nat} (hi : i < cirb.ct) :
    cirb.contents[i]? = some (cirbGetLogical cirb i) := by
  have hcell : cirbLogicalToPhysicalIndex cirb i = (cirb.cellOf i : Nat) := by
    rw [cirbLogicalToPhysicalIndex, RingBuffer.cellOf, if_pos (by exact_mod_cast hi)]
    by_cases hfull : cirb.ct < cirb.cells.length
    · rw [if_pos hfull, if_pos hfull]
    · rw [if_neg hfull, if_neg hfull]
      exact (Int.ofNat_tmod (cirb.nextpos + i) cirb.cells.length).symm
  have hlen : i < cirb.contents.length := by rw [cirb.length_contents]; exact hi
  have hget : cirb.cells[cirb.cellOf i]? = some cirb.contents[i] := by
    rw [cirb.getElem?_cellOf hi, getElem?_eq_getElem hlen]
  rw [cirbGetLogical, hcell, if_pos (Int.natCast_nonneg _), Int.toNat_natCast, getD_eq_getElem?_getD, hget,
    getElem?_eq_getElem hlen]
  rfl

theorem cirbGetLatest_eq_drop (cirb : Cirb) (n : Nat) : cirbGetLatest cirb n = cirb.contents.drop (cirb.ct - n) := by
  have hlen := cirb.length_contents
  unfold cirbGetLatest
  rw [if_neg (by omega)]
  apply ext_getElem?
  intro i
  rw [getElem?_map, getElem?_drop]
  rcases Nat.lt_or_ge i (min n cirb.ct) with hlt | hge
  · have hskip : (i : Int) + (if (n : Int) ≤ cirb.ct then (cirb.ct : Int) - n else 0) =
        ((cirb.ct - n + i : Nat) : Int) := by split <;> omega
    rw [getElem?_range (by split <;> omega), Option.map_some, hskip, cirbGetLogical_of_lt cirb (by omega)]
  · rw [getElem?_eq_none (by rw [length_range]; split <;> omega),
      getElem?_eq_none (by omega)]
    rfl

theorem cirbGetLatest_getLast? {cirb : Cirb} {latest : SuccessfulInvocation}
    (h : cirb.contents.getLast? = some latest) {n : Nat} (hn : 0 < n) :
    (cirbGetLatest cirb n).getLast? = some latest := by
  have hct := cirb.length_contents
  have hpos : 0 < cirb.contents.length := length_pos_of_mem (mem_of_getLast? h)
  rw [cirbGetLatest_eq_drop, getLast?_drop, if_neg (by omega), h]

/-! ## The invariant -/

structure ResultsTable.Sound (rtable : ResultsTable) : Prop where
  nonneg : 0 ≤ rtable.curStep
  ordered : rtable.curStep ≤ rtable.curRetryLoopStep
  atMost : rtable.curRetryLoopStep ≤ stepLast

structure Dsa2.Sound (g : Dsa2) : Prop where
  initialNonneg : 0 ≤ g.initialStep
  initialAtMost : g.initialStep ≤ stepLast
  tables : ∀ rtable, some rtable ∈ g.resultsTables → rtable.Sound

variable {g : Dsa2} {rtable : ResultsTable} {busno : Nat} {busInfo : Option Byte}

theorem Dsa2.Sound.install (h : g.Sound) (busno : Nat) {t : Option ResultsTable}
    (ht : ∀ rtable, t = some rtable → rtable.Sound) : (g.install busno t).Sound where
  initialNonneg := h.initialNonneg
  initialAtMost := h.initialAtMost
  tables := by
    intro rtable hmem
    rcases mem_or_eq_of_mem_set hmem with hold | hnew
    · exact h.tables rtable hold
    · exact ht rtable hnew.symm

theorem initDsa2_sound (dsa2Enabled : Bool) : (initDsa2 dsa2Enabled).Sound where
  initialNonneg := Int.le.intro 7 rfl
  initialAtMost := Int.le.intro 3 rfl
  tables := by
    intro rtable hmem
    cases eq_of_mem_replicate hmem

theorem sound_of_step {step : Int} (h0 : 0 ≤ step) (hle : step ≤ stepLast) (hcur : rtable.curStep = step)
    (hretry : rtable.curRetryLoopStep = step) : rtable.Sound where
  nonneg := by rw [hcur]; exact h0
  ordered := by rw [hcur, hretry]
  atMost := by rw [hretry]; exact hle

/-! ## Steps and multipliers -/

theorem stepAt_ok {ndx : Int} (h0 : 0 ≤ ndx) (h : ndx ≤ stepLast) : ∃ step, stepAt ndx = .ok step := by
  have hlt : ndx.toNat < steps.length := by
    have : steps.length = 11 := rfl
    unfold stepLast at h; omega
  exact ⟨_, (if_pos h0).trans (fetch_of_lt hlt)⟩

theorem firstStepAtLeast_ok (imult : Int) : ∀ (left : Nat) (ndx : Int), 0 ≤ ndx → ndx ≤ stepLast + 1 →
    stepLast + 2 ≤ ndx + left → ∃ n, firstStepAtLeast imult left ndx = .ok n ∧ ndx ≤ n
  | 0, ndx, _, hle, hleft => by omega
  | left + 1, ndx, h0, hle, hleft => by
    unfold firstStepAtLeast
    by_cases hlast : ndx ≤ stepLast
    · obtain ⟨step, hstep⟩ := stepAt_ok h0 hlast
      rw [if_pos hlast, hstep, ok_bind]
      split
      · exact ⟨ndx, rfl, Int.le_refl _⟩
      · obtain ⟨n, hn, hge⟩ := firstStepAtLeast_ok imult left (ndx + 1) (by omega) (by omega) (by omega)
        exact ⟨n, hn, by omega⟩
    · exact ⟨ndx, if_neg hlast, Int.le_refl _⟩

theorem dsa2MultiplierToStep_ok (settings : Dsa2Settings) (multiplier : ℚ) :
    ∃ n, dsa2MultiplierToStep settings multiplier = .ok n ∧ 0 ≤ n ∧ n ≤ stepLast := by
  have hfloor := settings.floorNonneg
  have hlast := settings.floorLe
  have hlen : (steps.length : Int) = stepLast + 1 := rfl
  obtain ⟨n, hn, hge⟩ := firstStepAtLeast_ok (truncate (round64 (multiplier * 100))) (steps.length + 1)
    settings.dsa2StepFloor hfloor (by omega) (by omega)
  refine ⟨if stepLast < n then stepLast else n, ?_, ?_, ?_⟩
  · simp only [dsa2MultiplierToStep, hn, ok_bind]
  · split <;> omega
  · split <;> omega

theorem dsa2NextRetryStep_ok {prevStep : Int} (h : prevStep ≤ stepLast) (remainingTries : Int) :
    ∃ n, dsa2NextRetryStep prevStep remainingTries = .ok n ∧ prevStep ≤ n ∧ n ≤ stepLast := by
  unfold dsa2NextRetryStep
  split
  · rename_i hpos
    have hsteps : (0 : ℚ) ≤ ((stepLast - prevStep : Int) : ℚ) := by exact_mod_cast Int.sub_nonneg_of_le h
    have hquot : ∀ tries : Int, 0 < tries → ∃ f, quot64 ((stepLast - prevStep : Int) : ℚ) tries = .ok f ∧ 0 ≤ f := by
      intro tries htries
      have hne : (tries : ℚ) ≠ 0 := by exact_mod_cast ne_of_gt htries
      exact ⟨_, quot64_of_ne hne, round64_nonneg (div_nonneg hsteps (by exact_mod_cast htries.le))⟩
    have hadj : ∀ (p : Bool) (tries : Int) (f : ℚ), (p = true → 0 < tries) → 0 ≤ f →
        ∃ f', dsa2NextRetryStep.adjusted p (stepLast - prevStep) tries f = .ok f' ∧ 0 ≤ f' := by
      intro p tries f hp hf
      unfold dsa2NextRetryStep.adjusted
      split
      · exact hquot tries (hp ‹_›)
      · exact ⟨f, rfl, hf⟩
    obtain ⟨f0, h0, hf0⟩ := hquot remainingTries hpos
    obtain ⟨f1, h1, hf1⟩ := hadj (2 < remainingTries) (remainingTries - 2) f0 (by simp) hf0
    obtain ⟨f, h2, hf⟩ := hadj (1 < remainingTries) (remainingTries - 1) f1 (by simp) hf1
    have hf2 : 0 ≤ truncate (if 3 / 4 < f ∧ f < 1 then 1 else f) := by
      apply truncate_nonneg
      split
      · exact zero_le_one
      · exact hf
    refine ⟨min (prevStep + truncate (if 3 / 4 < f ∧ f < 1 then 1 else f)) stepLast, ?_, ?_, Int.min_le_right _ _⟩
    · simp only [h0, h1, h2, ok_bind]
    · exact le_min (Int.le_add_of_nonneg_right hf2) h
  · exact ⟨prevStep, rfl, Int.le_refl _, h⟩

/-! ## The calls on one table -/

theorem adjustStep_le (rtable : ResultsTable) (actualLookback mostRecentStep : Int) (tooMany tooFew : Bool) :
    (dsa2AdjustForRcntSuccesses.adjustStep rtable actualLookback mostRecentStep tooMany tooFew).2 ≤
      rtable.curStep := by
  unfold dsa2AdjustForRcntSuccesses.adjustStep
  split
  · split
    · exact Int.le_refl _
    · exact Int.le_refl _
  · split
    · split
      · exact Int.sub_le_self _ (by decide)
      · exact Int.le_refl _
    · exact Int.le_refl _

/-- **The adjustment returns** on a table whose latest success needed an allowed step, whatever it remembers of the
earlier ones: no assertion fails and no divisor is 0. -/
theorem dsa2AdjustForRcntSuccesses_ok (settings : Dsa2Settings) (hcur : rtable.curStep ≤ stepLast)
    {latest : SuccessfulInvocation} (hlatest : rtable.recentValues.contents.getLast? = some latest)
    (hstep : latest.requiredStep ≤ stepLast) : ∃ r, dsa2AdjustForRcntSuccesses settings rtable = .ok r := by
  have hlast : (cirbGetLatest rtable.recentValues 10).getLast? = some latest :=
    cirbGetLatest_getLast? hlatest (by decide)
  have hlen : 0 < (cirbGetLatest rtable.recentValues 10).length :=
    length_pos_of_mem (mem_of_getLast? hlast)
  -- the last assertion, on the table with its new average
  have hend : ∀ t : ResultsTable, t.curStep = rtable.curStep →
      ∀ (actualLookback mostRecentStep : Int) (tooMany tooFew : Bool),
      ∃ r, (check ((dsa2AdjustForRcntSuccesses.adjustStep t actualLookback mostRecentStep tooMany tooFew).2 ≤
          stepLast) >>= fun _ => Except.ok
            (dsa2AdjustForRcntSuccesses.adjustStep t actualLookback mostRecentStep tooMany tooFew)) = .ok r := by
    intro t ht actualLookback mostRecentStep tooMany tooFew
    have hle := adjustStep_le t actualLookback mostRecentStep tooMany tooFew
    rw [check_pos (le_trans hle (ht ▸ hcur)), ok_bind]; exact ⟨_, rfl⟩
  unfold dsa2AdjustForRcntSuccesses
  generalize cirbGetLatest rtable.recentValues 10 = values at hlen hlast
  have hlt : ((values.length : Int) - 1).toNat < values.length := by omega
  have hne0 : (values.length : Int) ≠ 0 := by omega
  have hget : values[((values.length : Int) - 1).toNat] = latest := by
    rw [getLast?_eq_getElem?] at hlast
    rw [← Option.some_inj, ← getElem?_eq_getElem hlt, ← hlast]
    congr 1
    omega
  simp only [check_pos (show (0 : Int) < values.length by omega), fetch_of_lt hlt, hget, check_pos hstep,
    quot_of_ne hne0, dsa2TooManyErrors, dsa2TooFewErrors, ok_bind]
  apply hend
  rfl

section
variable (settings : Dsa2Settings) (rtable : ResultsTable) (next : Int)

/-- **Settling a table makes both steps one**, between the floor and the last, and closes the count of null messages. -/
theorem settleStep_closed :
    settings.dsa2StepFloor ≤ (settleStep settings rtable next).curStep ∧
      (settleStep settings rtable next).curStep ≤ stepLast ∧
      (settleStep settings rtable next).curRetryLoopStep = (settleStep settings rtable next).curStep ∧
      (settleStep settings rtable next).curRetryLoopNullMsgCt = 0 := by
  have hfloor := settings.floorLe
  refine ⟨?_, ?_, rfl, rfl⟩
  · unfold settleStep
    dsimp only
    split
    · exact Int.le_refl _
    · split <;> omega
  · unfold settleStep
    dsimp only
    split
    · exact hfloor
    · split <;> omega

theorem settleStep_sound : (settleStep settings rtable next).Sound := by
  obtain ⟨hge, hle, heq, -⟩ := settleStep_closed settings rtable next
  exact ⟨le_trans settings.floorNonneg hge, le_of_eq heq.symm, heq ▸ hle⟩

end

theorem dsa2NoteRetryableFailure_ok (h : rtable.Sound) (ddcrc : Status) (remainingTries : Int) :
    ∃ rtable', dsa2NoteRetryableFailure rtable ddcrc remainingTries = .ok rtable' ∧ rtable'.Sound := by
  obtain ⟨n, hn, hge, hle⟩ := dsa2NextRetryStep_ok h.atMost remainingTries
  simp only [dsa2NoteRetryableFailure, hn, ok_bind]
  exact ⟨_, rfl, h.nonneg, le_trans h.ordered hge, hle⟩

theorem recordSuccess_ok (settings : Dsa2Settings) (h : rtable.Sound) (tries now : Int) :
    ∃ r, recordSuccess settings rtable tries now = .ok r := by
  have hadjust : ∀ t : ResultsTable, t.curStep = rtable.curStep →
      t.recentValues = cirbAdd rtable.recentValues ⟨now, tries, rtable.curRetryLoopStep⟩ →
      ∃ r, (fun r : ResultsTable × Int => ({ r.1 with remainingInterval := defaultInterval }, r.2)) <$>
          dsa2AdjustForRcntSuccesses settings t = .ok r := by
    intro t hstep hvalues
    have hcur : t.curStep ≤ stepLast := hstep ▸ le_trans h.ordered h.atMost
    have hlatest : t.recentValues.contents.getLast? = some ⟨now, tries, rtable.curRetryLoopStep⟩ :=
      hvalues ▸ RingBuffer.getLast?_contents_push rtable.recentValues _
    obtain ⟨r, hr⟩ := dsa2AdjustForRcntSuccesses_ok settings hcur hlatest h.atMost
    rw [hr, ok_map]; exact ⟨_, rfl⟩
  unfold recordSuccess
  dsimp only
  split
  · exact ⟨_, rfl⟩
  · split
    · exact ⟨_, rfl⟩
    · split
      · split
        · exact hadjust _ rfl rfl
        · exact ⟨_, rfl⟩
      · exact hadjust _ rfl rfl

/-- **The end of an operation returns and leaves the table sound**; when the algorithm is enabled it is closed. -/
theorem dsa2RecordFinal_ok (settings : Dsa2Settings) (dsa2Enabled : Bool) (h : rtable.Sound) (ddcrc : Status)
    (tries : Int) (nullAdjustment : Bool) (now : Int) :
    ∃ rtable', dsa2RecordFinal settings dsa2Enabled rtable ddcrc tries nullAdjustment now = .ok rtable' ∧
      rtable'.Sound ∧
      (dsa2Enabled = true → rtable'.curRetryLoopStep = rtable'.curStep ∧ rtable'.curRetryLoopNullMsgCt = 0) := by
  cases dsa2Enabled with
  | false => exact ⟨rtable, rfl, h, fun hf => absurd hf (by decide)⟩
  | true =>
    unfold dsa2RecordFinal
    simp only [Bool.not_true, Bool.false_eq_true, if_false, check_pos h.atMost, check_pos h.ordered, ok_bind]
    by_cases hok : ddcrc = 0
    · have hs : ResultsTable.Sound { rtable with
          nullMsgMaxStepForSuccess :=
            if nullAdjustment then max rtable.nullMsgMaxStepForSuccess rtable.curRetryLoopStep
            else rtable.nullMsgMaxStepForSuccess } := ⟨h.nonneg, h.ordered, h.atMost⟩
      obtain ⟨r, hr⟩ := recordSuccess_ok settings hs tries now
      rw [if_pos hok, hr, ok_bind]
      exact ⟨_, rfl, settleStep_sound settings _ _, fun _ => (settleStep_closed settings _ _).2.2⟩
    · rw [if_neg hok]
      exact ⟨_, rfl, settleStep_sound settings _ _, fun _ => (settleStep_closed settings _ _).2.2⟩

/-! ## The calls of the module -/

inductive Dsa2Call where
  | enable (yesno : Bool)
  | resetResultsTable (busno : Nat) (sleepMultiplier : ℚ) (busInfo : Option Byte)
  | getResultsTableByBusno (busno : Nat) (createIfNotFound : Bool) (busInfo : Option Byte)
  | resetMultiplier (multiplier : ℚ)
  | noteRetryableFailure (busno : Nat) (ddcrc : Status) (remainingTries : Int)
  | recordFinal (busno : Nat) (ddcrc : Status) (tries : Int) (curLoopNullAdjustmentOccurred : Bool) (now : Int)

def Dsa2.tableOf (g : Dsa2) (busno : Nat) : Exec ResultsTable :=
  fetch g.resultsTables busno >>= fun t =>
    match t with
    | some rtable => .ok rtable
    | none => .error .nullDeref

def dsa2Step (settings : Dsa2Settings) (g : Dsa2) : Dsa2Call → Exec Dsa2
  | .enable yesno => .ok (dsa2Enable g yesno)
  | .resetResultsTable busno sleepMultiplier busInfo => dsa2ResetResultsTable settings g busno sleepMultiplier busInfo
  | .getResultsTableByBusno busno create busInfo => dsa2GetResultsTableByBusno g busno create busInfo
  | .resetMultiplier multiplier => dsa2ResetMultiplier settings g multiplier
  | .noteRetryableFailure busno ddcrc remainingTries => do
    let rtable ← g.tableOf busno
    let rtable ← dsa2NoteRetryableFailure rtable ddcrc remainingTries
    .ok (g.install busno (some rtable))
  | .recordFinal busno ddcrc tries nullAdjustment now => do
    let rtable ← g.tableOf busno
    let rtable ← dsa2RecordFinal settings g.dsa2Enabled rtable ddcrc tries nullAdjustment now
    .ok (g.install busno (some rtable))

/-- **What callers promise**: the bus is one the system knows, and the table passed is the one installed. -/
def Dsa2Callable (g : Dsa2) : Dsa2Call → Prop
  | .enable _ => True
  | .resetResultsTable busno _ busInfo => busno ≤ i2cBusMax ∧ busInfo.isSome
  | .getResultsTableByBusno busno _ busInfo => busno ≤ i2cBusMax ∧ busInfo.isSome
  | .resetMultiplier _ => True
  | .noteRetryableFailure busno _ _ => ∃ rtable, g.resultsTables[busno]? = some (some rtable)
  | .recordFinal busno _ _ _ _ => ∃ rtable, g.resultsTables[busno]? = some (some rtable)

theorem Dsa2.tableOf_ok (h : g.Sound) (ht : g.resultsTables[busno]? = some (some rtable)) :
    g.tableOf busno = .ok rtable ∧ rtable.Sound := by
  refine ⟨?_, h.tables rtable (mem_of_getElem? ht)⟩
  rw [Dsa2.tableOf, fetch_eq_ok.mpr ht]; rfl

theorem Dsa2.fetch_ok (g : Dsa2) (h : busno ≤ i2cBusMax) :
    ∃ t, fetch g.resultsTables busno = .ok t ∧ t ∈ g.resultsTables := by
  have hlt : busno < g.resultsTables.length := by rw [g.length_eq]; exact Nat.lt_succ_of_le h
  exact ⟨_, fetch_of_lt hlt, getElem_mem hlt⟩

theorem dsa2ResetResultsTable_ok (settings : Dsa2Settings) (h : g.Sound) (sleepMultiplier : ℚ)
    (hbus : busno ≤ i2cBusMax) (hinfo : busInfo.isSome) :
    ∃ g', dsa2ResetResultsTable settings g busno sleepMultiplier busInfo = .ok g' ∧ g'.Sound := by
  obtain ⟨t, ht, -⟩ := g.fetch_ok hbus
  obtain ⟨n, hn, h0, hle⟩ := dsa2MultiplierToStep_ok settings (if 0 ≤ sleepMultiplier then sleepMultiplier else 1)
  obtain ⟨checkbyte, rfl⟩ := Option.isSome_iff_exists.mp hinfo
  simp only [dsa2ResetResultsTable, ht, hn, getEdidCheckbyte, ok_bind]
  refine ⟨_, rfl, h.install busno ?_⟩
  intro rtable hrtable
  cases hrtable; exact sound_of_step h0 hle rfl rfl

theorem verifyCached_ok {found : Option ResultsTable} (h : ∀ rtable, found = some rtable → rtable.Sound)
    (hinfo : busInfo.isSome) :
    ∃ t, verifyCached found busInfo = .ok t ∧ ∀ rtable, t = some rtable → rtable.Sound := by
  obtain ⟨checkbyte, rfl⟩ := Option.isSome_iff_exists.mp hinfo
  cases found with
  | none => exact ⟨none, rfl, h⟩
  | some rtable =>
    have hflags : ∀ (state : Byte) (rtable' : ResultsTable), some { rtable with state := state } = some rtable' →
        rtable'.Sound := by
      intro state rtable' heq
      cases heq
      have hs := h rtable rfl
      exact ⟨hs.nonneg, hs.ordered, hs.atMost⟩
    unfold verifyCached
    dsimp only
    split
    · simp only [getEdidCheckbyte, ok_bind]
      split
      · exact ⟨none, rfl, fun _ hnone => nomatch hnone⟩
      · exact ⟨_, rfl, hflags _⟩
    · exact ⟨_, rfl, hflags _⟩

theorem createMissing_ok {initialStep : Int} (h0 : 0 ≤ initialStep) (hle : initialStep ≤ stepLast) (busno : Nat)
    (create : Bool) (hinfo : busInfo.isSome) {found : Option ResultsTable}
    (h : ∀ rtable, found = some rtable → rtable.Sound) :
    ∃ t, createMissing initialStep busno create busInfo found = .ok t ∧ ∀ rtable, t = some rtable → rtable.Sound := by
  obtain ⟨checkbyte, rfl⟩ := Option.isSome_iff_exists.mp hinfo
  cases found with
  | some rtable => exact ⟨_, rfl, h⟩
  | none =>
    cases create with
    | false => exact ⟨_, rfl, h⟩
    | true =>
      refine ⟨_, rfl, ?_⟩
      intro rtable hrtable
      cases hrtable; exact sound_of_step h0 hle rfl rfl

theorem dsa2GetResultsTableByBusno_ok (h : g.Sound) (create : Bool) (hbus : busno ≤ i2cBusMax)
    (hinfo : busInfo.isSome) : ∃ g', dsa2GetResultsTableByBusno g busno create busInfo = .ok g' ∧ g'.Sound := by
  obtain ⟨found, hfound, hmem⟩ := g.fetch_ok hbus
  obtain ⟨verified, hverified, hsound⟩ := verifyCached_ok (fun rtable heq => h.tables rtable (heq ▸ hmem)) hinfo
  obtain ⟨t, ht, htable⟩ := createMissing_ok h.initialNonneg h.initialAtMost busno create hinfo hsound
  simp only [dsa2GetResultsTableByBusno, check_pos hbus, hfound, hverified, ht, ok_bind]
  exact ⟨_, rfl, h.install busno htable⟩

theorem dsa2ResetMultiplier_ok (settings : Dsa2Settings) (h : g.Sound) (multiplier : ℚ) :
    ∃ g', dsa2ResetMultiplier settings g multiplier = .ok g' ∧ g'.Sound := by
  obtain ⟨n, hn, h0, hle⟩ := dsa2MultiplierToStep_ok settings multiplier
  simp only [dsa2ResetMultiplier, hn, ok_bind]
  refine ⟨_, rfl, h0, hle, ?_⟩
  intro rtable hmem
  obtain ⟨ndx, hlt, heq⟩ := mem_mapIdx.mp hmem
  have hold : ∀ old, g.resultsTables[ndx] = some old → old.Sound := fun old hget =>
    h.tables old (hget ▸ getElem_mem hlt)
  split at heq
  · obtain ⟨old, hget, rfl⟩ := Option.map_eq_some_iff.mp heq
    exact ⟨h0, Int.le_refl _, hle⟩
  · exact hold rtable heq

theorem dsa2Step_ok (settings : Dsa2Settings) (g : Dsa2) (call : Dsa2Call) (h : g.Sound) (hc : Dsa2Callable g call) :
    ∃ g', dsa2Step settings g call = .ok g' ∧ g'.Sound := by
  cases call with
  | enable yesno => exact ⟨_, rfl, h.initialNonneg, h.initialAtMost, h.tables⟩
  | resetResultsTable busno m busInfo => exact dsa2ResetResultsTable_ok settings h m hc.1 hc.2
  | getResultsTableByBusno busno create busInfo => exact dsa2GetResultsTableByBusno_ok h create hc.1 hc.2
  | resetMultiplier m => exact dsa2ResetMultiplier_ok settings h m
  | noteRetryableFailure busno ddcrc remainingTries =>
    obtain ⟨rtable, ht⟩ := hc
    obtain ⟨htable, hsound⟩ := g.tableOf_ok h ht
    obtain ⟨rtable', hnote, hsound'⟩ := dsa2NoteRetryableFailure_ok hsound ddcrc remainingTries
    simp only [dsa2Step, htable, hnote, ok_bind]
    exact ⟨_, rfl, h.install busno fun _ heq => Option.some.inj heq ▸ hsound'⟩
  | recordFinal busno ddcrc tries nullAdjustment now =>
    obtain ⟨rtable, ht⟩ := hc
    obtain ⟨htable, hsound⟩ := g.tableOf_ok h ht
    obtain ⟨rtable', hrecord, hsound', -⟩ := dsa2RecordFinal_ok settings g.dsa2Enabled hsound ddcrc tries
      nullAdjustment now
    simp only [dsa2Step, htable, hrecord, ok_bind]
    exact ⟨_, rfl, h.install busno fun _ heq => Option.some.inj heq ▸ hsound'⟩

theorem dsa2GetAdjustedSleepMult_ok (h : rtable.Sound) : ∃ m, dsa2GetAdjustedSleepMult rtable = .ok m := by
  obtain ⟨step, hstep⟩ := stepAt_ok (le_trans h.nonneg h.ordered) h.atMost
  have hne : (100 : ℚ) ≠ 0 := by decide
  rw [dsa2GetAdjustedSleepMult, hstep, ok_bind, quot64_of_ne hne]; exact ⟨_, rfl⟩

def Dsa2Reachable (settings : Dsa2Settings) : Dsa2 → Prop :=
  Reachable (fun g => ∃ dsa2Enabled, g = initDsa2 dsa2Enabled) Dsa2Callable (dsa2Step settings)

/-- **The steps stay in order**: in every state a run of the module reaches, each table has
0 ≤ cur_step ≤ cur_retry_loop_step ≤ step_last, its multiplier can be looked up, and every call that callers may make
returns: no assertion fails, no divisor is 0 and every index is in range. -/
theorem dsa2_steps_ordered (settings : Dsa2Settings) {g : Dsa2} (h : Dsa2Reachable settings g) :
    (∀ rtable, some rtable ∈ g.resultsTables →
      0 ≤ rtable.curStep ∧ rtable.curStep ≤ rtable.curRetryLoopStep ∧ rtable.curRetryLoopStep ≤ stepLast ∧
      ∃ m, dsa2GetAdjustedSleepMult rtable = .ok m) ∧
    ∀ call, Dsa2Callable g call → ∃ g', dsa2Step settings g call = .ok g' := by
  have hstart : ∀ g, (∃ dsa2Enabled, g = initDsa2 dsa2Enabled) → g.Sound := by
    rintro _ ⟨dsa2Enabled, rfl⟩
    exact initDsa2_sound dsa2Enabled
  obtain ⟨hinv, hcalls⟩ := Reachable.safe hstart (dsa2Step_ok settings) h
  refine ⟨fun rtable hmem => ?_, hcalls⟩
  have ht := hinv.tables rtable hmem
  exact ⟨ht.nonneg, ht.ordered, ht.atMost, dsa2GetAdjustedSleepMult_ok ht⟩

def defaultDsa2Settings : Dsa2Settings where
  targetGreatestTriesUpperBound := 3
  targetAvgTriesUpperBound10 := 14
  dsa2StepFloor := 0
  floorNonneg := Int.le_refl 0
  floorLe := by decide

/-- A run: the table of bus 3 is made, and a failure with a negative number of tries left may be noted. -/
theorem dsa2_steps_ordered_created :
    ∃ g rtable g', Dsa2Reachable defaultDsa2Settings g ∧ g.resultsTables[3]? = some (some rtable) ∧
      rtable.curStep = 7 ∧ rtable.curRetryLoopStep ≤ stepLast ∧
      dsa2Step defaultDsa2Settings g (.noteRetryableFailure 3 ddcrcNullResponse (-1)) = .ok g' := by
  have hstart : Dsa2Reachable defaultDsa2Settings (initDsa2 true) := Reachable.start ⟨true, rfl⟩
  have hmade : Dsa2Reachable defaultDsa2Settings ((initDsa2 true).install 3 (some { newResultsTable 7 3 with
      curRetryLoopStep := 7
      state := rtableBusDetected
      edidChecksumByte := 0x55 })) :=
    Reachable.step (i := .getResultsTableByBusno 3 true (some 0x55)) hstart ⟨by decide, rfl⟩ rfl
  obtain ⟨hsteps, hcalls⟩ := dsa2_steps_ordered defaultDsa2Settings hmade
  obtain ⟨g', hg'⟩ := hcalls (.noteRetryableFailure 3 ddcrcNullResponse (-1)) ⟨_, rfl⟩
  exact ⟨_, _, g', hmade, rfl, rfl, (hsteps _ (mem_of_getElem? (i := 3) rfl)).2.2.1, hg'⟩

end Ddc

/-! ## What a circular buffer of successful invocations keeps

`cirb_new`, `cirb_add`, `cirb_get_latest` and `cirb_get_logical` of `dsa2.c`, for a buffer of any size and any values
added to it.
-/

namespace Ddc

open Kit List

def cirbNewOfSize (size : Nat) (h : 0 < size) : Cirb := RingBuffer.blank size ⟨0, 0, 0⟩ h

def cirbOf (size : Nat) (h : 0 < size) (values : List SuccessfulInvocation) : Cirb :=
  values.foldl cirbAdd (cirbNewOfSize size h)

section
variable (size : Nat) (h : 0 < size) (values : List SuccessfulInvocation)

theorem contents_cirbOf : (cirbOf size h values).contents = values.drop (values.length - size) := by
  have hblank : (cirbNewOfSize size h).contents = [] := RingBuffer.contents_blank size _ h
  have hcells : (cirbNewOfSize size h).cells.length = size := length_replicate
  have hpush := RingBuffer.contents_foldl_push_eq_drop values (cirbNewOfSize size h)
  rw [hblank, hcells, nil_append, length_nil, Nat.zero_add] at hpush; exact hpush

theorem ct_cirbOf : (cirbOf size h values).ct = min values.length size := by
  rw [← RingBuffer.length_contents, contents_cirbOf, length_drop]; omega

end

theorem cirbGetLogical_of_ge (cirb : Cirb) {i : Int} (hi : cirb.ct ≤ i) : cirbGetLogical cirb i = ⟨-1, -1, 0⟩ := by
  have hphysical : cirbLogicalToPhysicalIndex cirb i = -1 := if_neg (Int.not_lt.2 hi)
  rw [cirbGetLogical, hphysical]; rfl

theorem cirbGetLatest_of_neg (cirb : Cirb) {ct : Int} (h : ct < 0) : cirbGetLatest cirb ct = cirb.contents := by
  have hall : cirbGetLatest cirb ct = cirbGetLatest cirb cirb.ct := by
    have hnat : ¬ (cirb.ct : Int) < 0 := Int.not_lt.2 (Int.natCast_nonneg _)
    simp only [cirbGetLatest, if_pos h, if_neg hnat]
  rw [hall, cirbGetLatest_eq_drop, Nat.sub_self, drop_zero]

/-- **The buffer keeps the latest values.**  Of the values added to a new buffer, the latest ones asked for come back,
the oldest first and as many as it has, a logical index counts from the oldest that is kept, and one past them is not
found. -/
theorem cirb_keeps_latest (size : Nat) (h : 0 < size) (values : List SuccessfulInvocation) :
    (∀ ct : Nat, cirbGetLatest (cirbOf size h values) ct =
      values.drop (values.length - min ct (min values.length size))) ∧
    (∀ ct : Int, ct < 0 → cirbGetLatest (cirbOf size h values) ct =
      values.drop (values.length - min values.length size)) ∧
    (∀ i : Nat, i < min values.length size →
      values[values.length - min values.length size + i]? = some (cirbGetLogical (cirbOf size h values) i)) ∧
    ∀ i : Int, (min values.length size : Nat) ≤ i → cirbGetLogical (cirbOf size h values) i = ⟨-1, -1, 0⟩ := by
  have hct := ct_cirbOf size h values
  have hstart : values.length - min values.length size = values.length - size := by omega
  refine ⟨fun ct => ?_, fun ct hneg => ?_, fun i hi => ?_, fun i hi => ?_⟩
  · rw [cirbGetLatest_eq_drop, hct, contents_cirbOf, drop_drop]
    congr 1
    omega
  · rw [cirbGetLatest_of_neg _ hneg, contents_cirbOf, hstart]
  · rw [← cirbGetLogical_of_lt _ (hct ▸ hi), contents_cirbOf, getElem?_drop, hstart]
  · rw [← hct] at hi; exact cirbGetLogical_of_ge _ hi

/-- A buffer of two values after three of them. -/
theorem cirb_keeps_latest_two : cirbGetLatest (cirbOf 2 (Nat.succ_pos 1) [⟨1, 1, 5⟩, ⟨2, 3, 6⟩, ⟨3, 2, 6⟩]) (5 : Nat) =
    [⟨2, 3, 6⟩, ⟨3, 2, 6⟩] :=
  (cirb_keeps_latest 2 (Nat.succ_pos 1) [⟨1, 1, 5⟩, ⟨2, 3, 6⟩, ⟨3, 2, 6⟩]).1 5

end Ddc
