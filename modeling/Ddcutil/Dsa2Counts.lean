import Ddcutil.Dsa2Frame
/-!
# Dsa2Counts — what the adjustments of a step count

`dsa2_adjust_for_rcnt_successes` and `dsa2_record_final` both count an adjustment and its steps, and the first of them
returns the step before a step up.  So a step up is undone and counted both ways, and a step down is counted twice.
-/
namespace Ddc

open Kit Exec

inductive TableOp where
  | noteRetryableFailure (ddcrc : Status) (remainingTries : Int)
  | recordFinal (dsa2Enabled : Bool) (ddcrc : Status) (tries : Int) (curLoopNullAdjustmentOccurred : Bool) (now : Int)

def tableStep (settings : Dsa2Settings) (rtable : ResultsTable) : TableOp → Exec ResultsTable
  | .noteRetryableFailure ddcrc remainingTries => dsa2NoteRetryableFailure rtable ddcrc remainingTries
  | .recordFinal dsa2Enabled ddcrc tries nullAdjustment now =>
    dsa2RecordFinal settings dsa2Enabled rtable ddcrc tries nullAdjustment now

variable {rtable new : ResultsTable} {r : ResultsTable × Int} {settings : Dsa2Settings} {ddcrc : Status}
variable {tries now start : Int} {nullAdjustment : Bool}

theorem tableStep_ok (settings : Dsa2Settings) (h : rtable.Sound) (op : TableOp) :
    ∃ new, tableStep settings rtable op = .ok new ∧ new.Sound := by
  cases op with
  | noteRetryableFailure ddcrc remainingTries => exact dsa2NoteRetryableFailure_ok h ddcrc remainingTries
  | recordFinal dsa2Enabled ddcrc tries nullAdjustment now =>
    obtain ⟨new, hnew, hsound, -⟩ := dsa2RecordFinal_ok settings dsa2Enabled h ddcrc tries nullAdjustment now
    exact ⟨new, hnew, hsound⟩

structure Fresh (rtable : ResultsTable) : Prop where
  sound : rtable.Sound
  adjustmentsUp : rtable.adjustmentsUp = 0
  adjustmentsDown : rtable.adjustmentsDown = 0
  totalStepsUp : rtable.totalStepsUp = 0
  totalStepsDown : rtable.totalStepsDown = 0

/-! ## The recent successes -/

def recentSuccesses (rtable : ResultsTable) (tries now : Int) : List SuccessfulInvocation :=
  cirbGetLatest (cirbAdd rtable.recentValues ⟨now, tries, rtable.curRetryLoopStep⟩) 10

def highestTryct (values : List SuccessfulInvocation) : Int :=
  values.foldl (fun m v => if m < v.tryct then v.tryct else m) 0

def totalTryct (values : List SuccessfulInvocation) : Int := values.foldl (fun n v => int32 (n + v.tryct)) 0

/-- **The recent successes show too many errors.**  The most recent one is the one that is recorded. -/
def ShowTooManyErrors (settings : Dsa2Settings) (rtable : ResultsTable) (tries now : Int) : Prop :=
  dsa2TooManyErrors settings tries (highestTryct (recentSuccesses rtable tries now))
    (totalTryct (recentSuccesses rtable tries now)) (recentSuccesses rtable tries now).length = .ok true

def ShowTooFewErrors (rtable : ResultsTable) (tries now : Int) : Prop :=
  dsa2TooFewErrors (highestTryct (recentSuccesses rtable tries now)) (totalTryct (recentSuccesses rtable tries now))
    (recentSuccesses rtable tries now).length = .ok true

/-- **A call that looks at the recent successes**: for a success without null messages that took one or two tries, or
three where the interval ends. -/
structure LooksBack (rtable : ResultsTable) (ddcrc : Status) (tries : Int) : Prop where
  success : ddcrc = 0
  noNullMsg : rtable.curRetryLoopNullMsgCt ≤ 0
  notTooMany : tries ≤ targetMaxTries
  interval : 2 < tries → rtable.remainingInterval = 1

/-- **A step up is due**: the recent successes show too many errors, and the most recent one needed a higher step. -/
structure StepUpDue (settings : Dsa2Settings) (rtable : ResultsTable) (ddcrc : Status) (tries now : Int) : Prop where
  looksBack : LooksBack rtable ddcrc tries
  tooMany : ShowTooManyErrors settings rtable tries now
  higher : rtable.curStep < rtable.curRetryLoopStep

structure StepDownDue (settings : Dsa2Settings) (rtable : ResultsTable) (ddcrc : Status) (tries : Int)
    (nullAdjustment : Bool) (now : Int) : Prop where
  looksBack : LooksBack rtable ddcrc tries
  notUp : ¬ (ShowTooManyErrors settings rtable tries now ∧ rtable.curStep < rtable.curRetryLoopStep)
  lookback : minDecrementLookback ≤ (recentSuccesses rtable tries now).length
  tooFew : ShowTooFewErrors rtable tries now
  positive : 0 < rtable.curStep
  above : min (if nullAdjustment then max rtable.nullMsgMaxStepForSuccess rtable.curRetryLoopStep
    else rtable.nullMsgMaxStepForSuccess) 3 < rtable.curStep

def Telescopes (start : Int) (rtable : ResultsTable) : Prop :=
  rtable.curStep - start = rtable.totalStepsUp - rtable.totalStepsDown

def OneAdjustment (old new : ResultsTable) : Prop :=
  new.adjustmentsDown = old.adjustmentsDown ∧
      (new.adjustmentsUp = old.adjustmentsUp ∨ new.adjustmentsUp = old.adjustmentsUp + 1) ∨
    new.adjustmentsUp = old.adjustmentsUp ∧ new.adjustmentsDown = old.adjustmentsDown + 1

def AdjustsRight (settings : Dsa2Settings) (rtable new : ResultsTable) : TableOp → Prop
  | .noteRetryableFailure .. => True
  | .recordFinal dsa2Enabled ddcrc tries _ now => OneAdjustment rtable new ∧
    (dsa2Enabled = true → StepUpDue settings rtable ddcrc tries now → new.curStep = rtable.curStep + 1)

/-- **What is claimed of a call**: the steps telescope after it, and it adjusts right. -/
def CallRight (settings : Dsa2Settings) (start : Int) (rtable : ResultsTable) (op : TableOp) : Prop :=
  ∀ new, tableStep settings rtable op = .ok new → Telescopes start new ∧ AdjustsRight settings rtable new op

/-- **A call that counts right**: no step down is due, and a step up only just below the floor. -/
def CountsRight (settings : Dsa2Settings) (rtable : ResultsTable) : TableOp → Prop
  | .noteRetryableFailure .. => True
  | .recordFinal dsa2Enabled ddcrc tries nullAdjustment now => dsa2Enabled = true →
    ¬ StepDownDue settings rtable ddcrc tries nullAdjustment now ∧
      (StepUpDue settings rtable ddcrc tries now → rtable.curStep + 1 = settings.dsa2StepFloor)

/-! ## What a call counts -/

structure SameCounts (old new : ResultsTable) : Prop where
  curStep : new.curStep = old.curStep
  totalStepsUp : new.totalStepsUp = old.totalStepsUp
  totalStepsDown : new.totalStepsDown = old.totalStepsDown
  adjustmentsUp : new.adjustmentsUp = old.adjustmentsUp
  adjustmentsDown : new.adjustmentsDown = old.adjustmentsDown

structure SteppedUp (old new : ResultsTable) : Prop where
  curStep : new.curStep = old.curStep + 1
  totalStepsUp : new.totalStepsUp = old.totalStepsUp + 1
  totalStepsDown : new.totalStepsDown = old.totalStepsDown
  adjustmentsUp : new.adjustmentsUp = old.adjustmentsUp + 1
  adjustmentsDown : new.adjustmentsDown = old.adjustmentsDown

structure CountedDown (old new : ResultsTable) : Prop where
  curStep : new.curStep = old.curStep
  totalStepsUp : new.totalStepsUp = old.totalStepsUp
  totalStepsDown : new.totalStepsDown = old.totalStepsDown + 1
  adjustmentsUp : new.adjustmentsUp = old.adjustmentsUp
  adjustmentsDown : new.adjustmentsDown = old.adjustmentsDown + 1

/-- **What a call has made of the table when it settles the step**, with the step it asks for. -/
inductive Recorded (settings : Dsa2Settings) (rtable : ResultsTable) (ddcrc : Status) (tries : Int)
    (nullAdjustment : Bool) (now : Int) (mid : ResultsTable) (next : Int) : Prop
  | up (due : StepUpDue settings rtable ddcrc tries now) (counts : SteppedUp rtable mid) (hnext : next = rtable.curStep)
  | down (due : StepDownDue settings rtable ddcrc tries nullAdjustment now) (counts : CountedDown rtable mid)
      (hnext : next = rtable.curStep - 1)
  | plain (notUp : ¬ StepUpDue settings rtable ddcrc tries now)
      (notDown : ¬ StepDownDue settings rtable ddcrc tries nullAdjustment now) (counts : SameCounts rtable mid)

theorem adjustStep_cases (rtable : ResultsTable) (actualLookback : Int) {mostRecentStep : Int} (tooMany tooFew : Bool)
    (hrecent : mostRecentStep ≤ stepLast)
    (hr : dsa2AdjustForRcntSuccesses.adjustStep rtable actualLookback mostRecentStep tooMany tooFew = r) :
    (tooMany = true ∧ rtable.curStep < mostRecentStep) ∧ SteppedUp rtable r.1 ∧ r.2 = rtable.curStep ∨
    ¬ (tooMany = true ∧ rtable.curStep < mostRecentStep) ∧
      (((minDecrementLookback ≤ actualLookback ∧ tooFew = true ∧ 0 < rtable.curStep) ∧
          min rtable.nullMsgMaxStepForSuccess 3 < rtable.curStep) ∧
          CountedDown rtable r.1 ∧ r.2 = rtable.curStep - 1 ∨
        ¬ ((minDecrementLookback ≤ actualLookback ∧ tooFew = true ∧ 0 < rtable.curStep) ∧
          min rtable.nullMsgMaxStepForSuccess 3 < rtable.curStep) ∧
          SameCounts rtable r.1) := by
  subst hr
  unfold dsa2AdjustForRcntSuccesses.adjustStep
  by_cases hup : tooMany = true ∧ rtable.curStep < mostRecentStep
  · rw [if_pos hup, if_pos (lt_of_lt_of_le hup.2 hrecent)]
    exact .inl ⟨hup, ⟨rfl, rfl, rfl, rfl, rfl⟩, rfl⟩
  · rw [if_neg hup]
    refine .inr ⟨hup, ?_⟩
    by_cases hdown : minDecrementLookback ≤ actualLookback ∧ tooFew = true ∧ 0 < rtable.curStep
    · rw [if_pos hdown]
      by_cases habove : min rtable.nullMsgMaxStepForSuccess 3 < rtable.curStep
      · rw [if_pos habove]; exact .inl ⟨⟨hdown, habove⟩, ⟨rfl, rfl, rfl, rfl, rfl⟩, rfl⟩
      · rw [if_neg habove]; exact .inr ⟨fun h => habove h.2, rfl, rfl, rfl, rfl, rfl⟩
    · rw [if_neg hdown]; exact .inr ⟨fun h => hdown h.1, rfl, rfl, rfl, rfl, rfl⟩

theorem dsa2AdjustForRcntSuccesses_eq {values : List SuccessfulInvocation} {latest : SuccessfulInvocation}
    (hvalues : cirbGetLatest rtable.recentValues 10 = values) (hlast : values.getLast? = some latest)
    (h : dsa2AdjustForRcntSuccesses settings rtable = .ok r) :
    ∃ average tooMany tooFew,
      dsa2TooManyErrors settings latest.tryct (highestTryct values) (totalTryct values) values.length = .ok tooMany ∧
      dsa2TooFewErrors (highestTryct values) (totalTryct values) values.length = .ok tooFew ∧
      latest.requiredStep ≤ stepLast ∧
      dsa2AdjustForRcntSuccesses.adjustStep { rtable with latestAvgTryct10 := average } values.length
        latest.requiredStep tooMany tooFew = r := by
  rw [dsa2AdjustForRcntSuccesses, hvalues] at h
  obtain ⟨-, -, h⟩ := bind_eq_ok.1 h
  obtain ⟨mostRecent, hmost, h⟩ := bind_eq_ok.1 h
  obtain ⟨_, hstep, h⟩ := bind_eq_ok.1 h
  obtain ⟨average, -, h⟩ := bind_eq_ok.1 h
  obtain ⟨tooMany, htooMany, h⟩ := bind_eq_ok.1 h
  obtain ⟨tooFew, htooFew, h⟩ := bind_eq_ok.1 h
  obtain ⟨-, -, h⟩ := bind_eq_ok.1 h
  have hlatest : mostRecent = latest := by
    rw [List.getLast?_eq_getElem?] at hlast
    have hndx : ((values.length : Int) - 1).toNat = values.length - 1 := by omega
    rw [fetch_eq_ok, hndx, hlast] at hmost; exact (Option.some.inj hmost).symm
  subst hlatest
  exact ⟨average, tooMany, tooFew, htooMany, htooFew, check_eq_ok.1 hstep, Except.ok.inj h⟩

theorem getLast?_recentSuccesses (rtable : ResultsTable) (tries now : Int) :
    (recentSuccesses rtable tries now).getLast? = some ⟨now, tries, rtable.curRetryLoopStep⟩ := by
  have hpush := RingBuffer.getLast?_contents_push rtable.recentValues ⟨now, tries, rtable.curRetryLoopStep⟩
  exact cirbGetLatest_getLast? hpush (by decide)

theorem recorded_of_adjust {t : ResultsTable} (hlooks : LooksBack rtable ddcrc tries)
    (h : dsa2AdjustForRcntSuccesses settings t = .ok r)
    (hrecent : t.recentValues = cirbAdd rtable.recentValues ⟨now, tries, rtable.curRetryLoopStep⟩)
    (hsame : SameCounts rtable t)
    (hnull : t.nullMsgMaxStepForSuccess =
      if nullAdjustment then max rtable.nullMsgMaxStepForSuccess rtable.curRetryLoopStep
      else rtable.nullMsgMaxStepForSuccess)
    (interval : Int) :
    Recorded settings rtable ddcrc tries nullAdjustment now { r.1 with remainingInterval := interval } r.2 := by
  have hvalues : cirbGetLatest t.recentValues 10 = recentSuccesses rtable tries now := by rw [hrecent]; rfl
  obtain ⟨average, tooMany, tooFew, htooMany, htooFew, hle, hr⟩ :=
    dsa2AdjustForRcntSuccesses_eq hvalues (getLast?_recentSuccesses rtable tries now) h
  have hmany : ShowTooManyErrors settings rtable tries now ↔ tooMany = true := by
    rw [ShowTooManyErrors, htooMany, Except.ok.injEq]
  have hfew : ShowTooFewErrors rtable tries now ↔ tooFew = true := by
    rw [ShowTooFewErrors, htooFew, Except.ok.injEq]
  obtain ⟨hcur, hup, hdown, haup, hadown⟩ := hsame
  rcases adjustStep_cases { t with latestAvgTryct10 := average } _ tooMany tooFew hle hr with
    ⟨⟨hm, hlt⟩, hcounts, hnext⟩ | ⟨hnot, ⟨⟨⟨hlook, hf, hpos⟩, habove⟩, hcounts, hnext⟩ | ⟨hnotDown, hcounts⟩⟩
  · refine .up ⟨hlooks, hmany.2 hm, hcur ▸ hlt⟩ ?_ (hnext.trans hcur)
    exact ⟨by rw [← hcur]; exact hcounts.curStep, by rw [← hup]; exact hcounts.totalStepsUp,
      by rw [← hdown]; exact hcounts.totalStepsDown, by rw [← haup]; exact hcounts.adjustmentsUp,
      by rw [← hadown]; exact hcounts.adjustmentsDown⟩
  · refine .down ⟨hlooks, fun hd => hnot ⟨hmany.1 hd.1, hcur.symm ▸ hd.2⟩, hlook, hfew.2 hf, hcur ▸ hpos, ?_⟩ ?_
      (hnext.trans (congrArg (· - 1) hcur))
    · rw [← hnull, ← hcur]; exact habove
    · exact ⟨by rw [← hcur]; exact hcounts.curStep, by rw [← hup]; exact hcounts.totalStepsUp,
        by rw [← hdown]; exact hcounts.totalStepsDown, by rw [← haup]; exact hcounts.adjustmentsUp,
        by rw [← hadown]; exact hcounts.adjustmentsDown⟩
  · refine .plain (fun hd => hnot ⟨hmany.1 hd.tooMany, hcur.symm ▸ hd.higher⟩) (fun hd => hnotDown ?_) ?_
    · refine ⟨⟨hd.lookback, hfew.1 hd.tooFew, hcur.symm ▸ hd.positive⟩, ?_⟩
      rw [hnull, hcur]; exact hd.above
    · exact ⟨by rw [← hcur]; exact hcounts.curStep, by rw [← hup]; exact hcounts.totalStepsUp,
        by rw [← hdown]; exact hcounts.totalStepsDown, by rw [← haup]; exact hcounts.adjustmentsUp,
        by rw [← hadown]; exact hcounts.adjustmentsDown⟩

theorem recorded_of_not_looksBack {mid : ResultsTable} {next : Int} (h : ¬ LooksBack rtable ddcrc tries)
    (hsame : SameCounts rtable mid) : Recorded settings rtable ddcrc tries nullAdjustment now mid next :=
  .plain (fun hd => h hd.looksBack) (fun hd => h hd.looksBack) hsame

theorem recordSuccess_recorded
    (hr : recordSuccess settings { rtable with
      nullMsgMaxStepForSuccess :=
        if nullAdjustment then max rtable.nullMsgMaxStepForSuccess rtable.curRetryLoopStep
        else rtable.nullMsgMaxStepForSuccess } tries now = .ok r) :
    Recorded settings rtable 0 tries nullAdjustment now r.1 r.2 := by
  unfold recordSuccess at hr
  dsimp only at hr
  split at hr
  · rename_i hnull
    cases hr
    exact recorded_of_not_looksBack (fun hl => absurd hnull (Int.not_lt.2 hl.noNullMsg)) ⟨rfl, rfl, rfl, rfl, rfl⟩
  · rename_i hnull
    split at hr
    · rename_i htries
      cases hr
      exact recorded_of_not_looksBack (fun hl => absurd htries (Int.not_lt.2 hl.notTooMany)) ⟨rfl, rfl, rfl, rfl, rfl⟩
    · rename_i htries
      have hlooks : (2 < tries → rtable.remainingInterval = 1) → LooksBack rtable 0 tries := fun hint =>
        ⟨rfl, Int.not_lt.1 hnull, Int.not_lt.1 htries, hint⟩
      split at hr
      · rename_i htwo
        split at hr
        · obtain ⟨q, hq, rfl⟩ := map_eq_ok.1 hr
          have hone : rtable.remainingInterval = 1 := by omega
          exact recorded_of_adjust (hlooks fun _ => hone) hq rfl ⟨rfl, rfl, rfl, rfl, rfl⟩ rfl _
        · rename_i hinterval
          cases hr
          refine recorded_of_not_looksBack (fun hl => hinterval ?_) ⟨rfl, rfl, rfl, rfl, rfl⟩
          rw [hl.interval htwo]; rfl
      · rename_i htwo
        obtain ⟨q, hq, rfl⟩ := map_eq_ok.1 hr
        exact recorded_of_adjust (hlooks fun htwo' => absurd htwo' htwo) hq rfl ⟨rfl, rfl, rfl, rfl, rfl⟩ rfl _

theorem recordFailure_counts (rtable : ResultsTable) (ddcrc : Status) :
    SameCounts rtable (recordFailure rtable ddcrc).1 := by
  unfold recordFailure
  split
  · exact ⟨rfl, rfl, rfl, rfl, rfl⟩
  · exact ⟨rfl, rfl, rfl, rfl, rfl⟩

theorem dsa2RecordFinal_recorded (h : dsa2RecordFinal settings true rtable ddcrc tries nullAdjustment now = .ok new) :
    ∃ mid next, new = settleStep settings mid next ∧
      Recorded settings rtable ddcrc tries nullAdjustment now mid next := by
  obtain ⟨-, -, h⟩ := bind_eq_ok.1 h
  obtain ⟨-, -, h⟩ := bind_eq_ok.1 h
  by_cases hok : ddcrc = 0
  · rw [if_pos hok] at h
    obtain ⟨r, hr, h⟩ := bind_eq_ok.1 h
    cases h
    subst hok; exact ⟨r.1, r.2, rfl, recordSuccess_recorded hr⟩
  · rw [if_neg hok] at h
    cases h
    obtain ⟨hcur, hup, hdown, haup, hadown⟩ := recordFailure_counts { rtable with
      nullMsgMaxStepForSuccess :=
        if nullAdjustment then max rtable.nullMsgMaxStepForSuccess rtable.curRetryLoopStep
        else rtable.nullMsgMaxStepForSuccess } ddcrc
    exact ⟨_, _, rfl, recorded_of_not_looksBack (fun hl => hok hl.success) ⟨hcur, hup, hdown, haup, hadown⟩⟩

theorem settleStep_counts (settings : Dsa2Settings) (mid : ResultsTable) (next : Int)
    (hnew : new = settleStep settings mid next) :
    (next < settings.dsa2StepFloor → new.curStep = settings.dsa2StepFloor) ∧
    (settings.dsa2StepFloor ≤ next → next ≤ stepLast → new.curStep = next) ∧
    (new.curStep < mid.curStep → new.totalStepsUp = mid.totalStepsUp ∧ new.adjustmentsUp = mid.adjustmentsUp ∧
      new.totalStepsDown = mid.totalStepsDown - (new.curStep - mid.curStep) ∧
      new.adjustmentsDown = mid.adjustmentsDown + 1) ∧
    (new.curStep = mid.curStep → new.totalStepsUp = mid.totalStepsUp ∧ new.adjustmentsUp = mid.adjustmentsUp ∧
      new.totalStepsDown = mid.totalStepsDown ∧ new.adjustmentsDown = mid.adjustmentsDown) ∧
    (mid.curStep < new.curStep → new.totalStepsDown = mid.totalStepsDown ∧
      new.adjustmentsDown = mid.adjustmentsDown ∧ new.totalStepsUp = mid.totalStepsUp + (new.curStep - mid.curStep) ∧
      new.adjustmentsUp = mid.adjustmentsUp + 1) := by
  subst hnew
  unfold settleStep
  obtain ⟨n, hn⟩ : ∃ n, n = if next < settings.dsa2StepFloor then settings.dsa2StepFloor
      else if stepLast < next then stepLast else next := ⟨_, rfl⟩
  simp only [← hn]
  refine ⟨fun h => hn.trans (if_pos h), fun hge hle => ?_, fun h => ?_, fun h => ?_, fun h => ?_⟩
  · rw [hn, if_neg (Int.not_lt.2 hge), if_neg (Int.not_lt.2 hle)]
  · have hneg : n - mid.curStep < 0 := by omega
    have hpos : ¬ 0 < n - mid.curStep := by omega
    simp only [hneg, hpos, if_true, if_false, and_self]
  · have hneg : ¬ n - mid.curStep < 0 := by omega
    have hpos : ¬ 0 < n - mid.curStep := by omega
    simp only [hneg, hpos, if_false, and_self]
  · have hneg : ¬ n - mid.curStep < 0 := by omega
    have hpos : 0 < n - mid.curStep := by omega
    simp only [hneg, hpos, if_true, if_false, and_self]

/-! ## Calls and runs -/

theorem telescopes_of_same (h : Telescopes start rtable) (hsame : SameCounts rtable new) : Telescopes start new := by
  unfold Telescopes at h ⊢
  rw [hsame.curStep, hsame.totalStepsUp, hsame.totalStepsDown]; exact h

theorem dsa2NoteRetryableFailure_sameCounts {remainingTries : Int}
    (h : dsa2NoteRetryableFailure rtable ddcrc remainingTries = .ok new) : SameCounts rtable new := by
  obtain ⟨_, -, h⟩ := bind_eq_ok.1 h
  cases h; exact ⟨rfl, rfl, rfl, rfl, rfl⟩

/-- **An operation is counted as is claimed exactly where no step down is due**, and no step up but to the floor. -/
theorem recordedRight_iff {mid : ResultsTable} {next : Int} (hsound : rtable.Sound) (htel : Telescopes start rtable)
    (hnew : new = settleStep settings mid next)
    (hrec : Recorded settings rtable ddcrc tries nullAdjustment now mid next) :
    (Telescopes start new ∧ OneAdjustment rtable new ∧
      (StepUpDue settings rtable ddcrc tries now → new.curStep = rtable.curStep + 1)) ↔
    (¬ StepDownDue settings rtable ddcrc tries nullAdjustment now ∧
      (StepUpDue settings rtable ddcrc tries now → rtable.curStep + 1 = settings.dsa2StepFloor)) := by
  obtain ⟨hfloor, hnext, hdown, hsame, hup⟩ := settleStep_counts settings mid next hnew
  have hlast : rtable.curStep ≤ stepLast := le_trans hsound.ordered hsound.atMost
  unfold Telescopes at htel ⊢
  unfold OneAdjustment
  cases hrec with
  | up due counts hn =>
    obtain ⟨hcur, htu, htd, hau, had⟩ := counts
    have hnotDown : ¬ StepDownDue settings rtable ddcrc tries nullAdjustment now := fun hd =>
      hd.notUp ⟨due.tooMany, due.higher⟩
    simp only [due, hnotDown, true_implies, not_false_iff, true_and]
    constructor
    · omega
    · omega
  | down due counts hn =>
    -- the step is counted here and again, or not at all, when it is settled
    obtain ⟨hcur, htu, htd, hau, had⟩ := counts
    simp only [due, not_true_eq_false, false_and, iff_false]; omega
  | plain notUp notDown counts =>
    obtain ⟨hcur, htu, htd, hau, had⟩ := counts
    simp only [notUp, notDown, false_implies, not_false_iff, and_true, iff_true]; omega

theorem callRight_iff (hsound : rtable.Sound) (htel : Telescopes start rtable) (op : TableOp) :
    CallRight settings start rtable op ↔ CountsRight settings rtable op := by
  obtain ⟨new, hnew, -⟩ := tableStep_ok settings hsound op
  have hone : CallRight settings start rtable op ↔ Telescopes start new ∧ AdjustsRight settings rtable new op := by
    constructor
    · exact fun h => h new hnew
    · intro h new' hnew'
      rw [hnew] at hnew'
      cases hnew'; exact h
  rw [hone]
  cases op with
  | noteRetryableFailure ddcrc remainingTries =>
    exact ⟨fun _ => trivial, fun _ => ⟨telescopes_of_same htel (dsa2NoteRetryableFailure_sameCounts hnew), trivial⟩⟩
  | recordFinal dsa2Enabled ddcrc tries nullAdjustment now =>
    cases dsa2Enabled with
    | false =>
      cases hnew
      exact ⟨fun _ h => absurd h Bool.false_ne_true,
        fun _ => ⟨htel, .inl ⟨rfl, .inl rfl⟩, fun h => absurd h Bool.false_ne_true⟩⟩
    | true =>
      obtain ⟨mid, next, hsettled, hrec⟩ := dsa2RecordFinal_recorded hnew
      simp only [CountsRight, AdjustsRight, true_implies]
      exact recordedRight_iff hsound htel hsettled hrec

/-- **A run of operations on a table with nothing counted keeps what is claimed, call for call, exactly where no step
down is due in it** and no step up but to the floor. -/
theorem callRight_run_iff (settings : Dsa2Settings) {rtable : ResultsTable} (h : Fresh rtable) (ops : List TableOp) :
    AllAlong (tableStep settings) (CallRight settings rtable.curStep) rtable ops ↔
      AllAlong (tableStep settings) (CountsRight settings) rtable ops := by
  have htel : Telescopes rtable.curStep rtable := by
    rw [Telescopes, h.totalStepsUp, h.totalStepsDown, Int.sub_self, Int.sub_self]
  have hkeep : ∀ (t : ResultsTable) op new, t.Sound ∧ Telescopes rtable.curStep t →
      CallRight settings rtable.curStep t op → tableStep settings t op = .ok new →
      new.Sound ∧ Telescopes rtable.curStep new := by
    intro t op new hinv hright hnew
    obtain ⟨new', hnew', hsound⟩ := tableStep_ok settings hinv.1 op
    rw [hnew] at hnew'
    cases hnew'; exact ⟨hsound, (hright new hnew).1⟩
  have hiff : ∀ (t : ResultsTable) op, t.Sound ∧ Telescopes rtable.curStep t →
      (CallRight settings rtable.curStep t op ↔ CountsRight settings t op) :=
    fun t op hinv => callRight_iff hinv.1 hinv.2 op
  exact AllAlong.congr hiff hkeep ⟨h.sound, htel⟩

def freshTable : ResultsTable := { newResultsTable 7 0 with curStep := 7, curRetryLoopStep := 7 }

theorem fresh_freshTable : Fresh freshTable :=
  ⟨sound_of_step (by decide) (by decide) rfl rfl, rfl, rfl, rfl, rfl⟩

/-- **A run that counts right**: a success with one try. -/
theorem callRight_run_iff_one : AllAlong (tableStep defaultDsa2Settings) (CallRight defaultDsa2Settings 7) freshTable
    [.recordFinal true 0 1 false 0] := by
  refine (callRight_run_iff defaultDsa2Settings fresh_freshTable [.recordFinal true 0 1 false 0]).2 ⟨fun _ => ⟨?_, ?_⟩, ?_⟩
  · exact fun h => absurd h.lookback (by decide)
  · exact fun h => absurd h.higher (by decide)
  · exact fun _ _ => trivial

/-- **Five successes with one try each take one step down and count two.** -/
theorem fiveSuccesses_not_telescope : ∃ new,
    (List.replicate 5 (TableOp.recordFinal true 0 1 false 0)).foldlM (tableStep defaultDsa2Settings) freshTable =
      .ok new ∧
    (new.curStep, new.totalStepsUp, new.totalStepsDown, new.adjustmentsDown) = (6, 0, 2, 2) ∧
      ¬ Telescopes freshTable.curStep new :=
  ⟨_, rfl, by decide, by unfold Telescopes; decide⟩

end Ddc
