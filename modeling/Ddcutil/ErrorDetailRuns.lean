import Ddcutil.ErrorDetail
/-!
# ErrorDetailRuns — when the error detail is of the latest call

A call that frees the record, or saves one, leaves none but its own, and with the status that it returns.  What is left
to go wrong is a call that does neither, and one that fails after its implicit initialization has failed for another
reason.
-/
namespace Ddc

open Kit List

mutual

theorem dupErrorDetail_eq : ∀ record : ErrorDetail, dupErrorDetail record = record
  | ⟨statusCode, detail, causes⟩ => congrArg (ErrorDetail.mk statusCode detail) (dupErrorDetails_eq causes)

theorem dupErrorDetails_eq : ∀ causes : List ErrorDetail, dupErrorDetails causes = causes
  | [] => rfl
  | cause :: causes => congrArg₂ List.cons (dupErrorDetail_eq cause) (dupErrorDetails_eq causes)

end

@[simp] theorem errorInfoToDdcaDetail_statusCode (err : ErrorInfo) :
    (errorInfoToDdcaDetail err).statusCode = err.statusCode := by
  cases err; rfl

theorem ddcaGetErrorDetail_eq {s : ThreadDetail} {d : SavedDetail} (h : s.errorDetail = some d) :
    ddcaGetErrorDetail s = some d.record := by
  rw [ddcaGetErrorDetail, h, Option.map_some, dupErrorDetail_eq]

theorem ddcaGetErrorDetail_eq_none {s : ThreadDetail} (h : s.errorDetail = none) : ddcaGetErrorDetail s = none := by
  rw [ddcaGetErrorDetail, h, Option.map_none]

theorem errorDetail_of_ddcaGetErrorDetail {s : ThreadDetail} {detail : ErrorDetail}
    (h : ddcaGetErrorDetail s = some detail) : ∃ d, s.errorDetail = some d ∧ d.record = detail := by
  cases hd : s.errorDetail with
  | none => cases (ddcaGetErrorDetail_eq_none hd).symm.trans h
  | some d => exact ⟨d, rfl, Option.some.inj ((ddcaGetErrorDetail_eq hd).symm.trans h)⟩

/-! ## Freeing and saving -/

/-- **The invariant**: the records that were freed are those that the present one has replaced. -/
structure DetailInv (s : ThreadDetail) : Prop where
  freedOnce : FreedOnce s
  current : ∀ d, s.errorDetail = some d → d.id < s.saved ∧ d.call ≤ s.callNo

theorem detail_start_inv : DetailInv .start where
  freedOnce := ⟨nodup_nil, fun _ => iff_of_false not_mem_nil fun h => Nat.not_lt_zero _ h.1⟩
  current := fun _ h => by cases h

theorem free_none {s : ThreadDetail} (h : s.errorDetail = none) : freeThreadErrorDetail s = s := by
  rw [freeThreadErrorDetail, h]

theorem free_some {s : ThreadDetail} {d : SavedDetail} (h : s.errorDetail = some d) :
    freeThreadErrorDetail s = { s with errorDetail := none, freed := d.id :: s.freed } := by
  rw [freeThreadErrorDetail, h]

section
variable (s : ThreadDetail)

@[simp] theorem free_errorDetail : (freeThreadErrorDetail s).errorDetail = none := by
  cases h : s.errorDetail with
  | none => rw [free_none h, h]
  | some d => rw [free_some h]

@[simp] theorem free_callNo : (freeThreadErrorDetail s).callNo = s.callNo := by
  cases h : s.errorDetail with
  | none => rw [free_none h]
  | some d => rw [free_some h]

@[simp] theorem save_callNo (record : Option ErrorDetail) : (saveThreadErrorDetail s record).callNo = s.callNo := by
  cases record with
  | none | some record => exact free_callNo s

theorem save_none_errorDetail : (saveThreadErrorDetail s none).errorDetail = none :=
  free_errorDetail s

theorem save_some_errorDetail (record : ErrorDetail) :
    ∃ d, (saveThreadErrorDetail s (some record)).errorDetail = some d ∧ d.record = record ∧ d.call = s.callNo :=
  ⟨_, rfl, rfl, free_callNo s⟩

end

theorem DetailInv.free {s : ThreadDetail} (h : DetailInv s) : DetailInv (freeThreadErrorDetail s) := by
  cases hd : s.errorDetail with
  | none =>
    rw [free_none hd]; exact h
  | some d =>
    rw [free_some hd]
    have hnew : d.id ∉ s.freed := fun hmem => ((h.freedOnce.freed d.id).1 hmem).2 d hd rfl
    refine ⟨⟨nodup_cons.2 ⟨hnew, h.freedOnce.nodup⟩, fun id => ?_⟩, fun _ hsome => by cases hsome⟩
    rw [mem_cons, h.freedOnce.freed]
    constructor
    · rintro (rfl | ⟨hlt, -⟩)
      · exact ⟨(h.current d hd).1, fun _ hsome => by cases hsome⟩
      · exact ⟨hlt, fun _ hsome => by cases hsome⟩
    · rintro ⟨hlt, -⟩
      by_cases hid : id = d.id
      · exact .inl hid
      · refine .inr ⟨hlt, fun d' hd' => ?_⟩
        rw [hd] at hd'
        cases hd'; exact Ne.symm hid

theorem DetailInv.save {s : ThreadDetail} (h : DetailInv s) (record : Option ErrorDetail) :
    DetailInv (saveThreadErrorDetail s record) := by
  cases record with
  | none => exact h.free
  | some record =>
    have hfree := h.free
    refine ⟨⟨hfree.freedOnce.nodup, fun id => ?_⟩, fun d hd => ?_⟩
    · show id ∈ (freeThreadErrorDetail s).freed ↔ _
      rw [hfree.freedOnce.freed]
      constructor
      · rintro ⟨hlt, -⟩
        refine ⟨Nat.lt_succ_of_lt hlt, fun d hd => ?_⟩
        cases hd; exact Nat.ne_of_gt hlt
      · rintro ⟨hlt, hother⟩
        have hne : (freeThreadErrorDetail s).saved ≠ id := hother _ rfl
        exact ⟨Nat.lt_of_le_of_ne (Nat.lt_succ_iff.1 hlt) (Ne.symm hne), fun d hd => by rw [free_errorDetail] at hd; cases hd⟩
    · cases hd; exact ⟨Nat.lt_succ_self _, Nat.le_refl _⟩

/-! ## The steps of a call -/

/-- **A call leaves no record but one of its own**, with the status that it returns if it fails. -/
def Renewed (callNo : Nat) (status : Status) (s' : ThreadDetail) : Prop :=
  ∀ d, s'.errorDetail = some d → d.call = callNo ∧ (status ≠ ddcrcOk → d.record.statusCode = status)

theorem renewed_of_none {callNo : Nat} {status : Status} {s' : ThreadDetail} (h : s'.errorDetail = none) :
    Renewed callNo status s' := by
  intro d hd
  cases h.symm.trans hd

theorem renewed_save (s : ThreadDetail) (record : ErrorDetail) {status : Status}
    (h : status ≠ ddcrcOk → record.statusCode = status) :
    Renewed s.callNo status (saveThreadErrorDetail s (some record)) := by
  intro d hd
  cases hd; exact ⟨free_callNo s, h⟩

structure StepsLeave (initialized : Bool) (steps : List DetailStep) (outcomes : List StepOutcome) (s : ThreadDetail)
    (status : Status) (s' : ThreadDetail) : Prop where
  inv : DetailInv s → DetailInv s'
  callNo : s'.callNo = s.callNo
  renewed : clears steps outcomes = true → Renewed s.callNo status s'
  kept : clears steps outcomes = false → s' = s ∧
    (initialized = false → status = ddcrcOk ∨ plainFailure steps outcomes = some status)

theorem stepsLeave_kept {initialized : Bool} {steps : List DetailStep} {outcomes : List StepOutcome} {s : ThreadDetail}
    {status : Status} (hclears : clears steps outcomes = false)
    (hstatus : status = ddcrcOk ∨ plainFailure steps outcomes = some status) :
    StepsLeave initialized steps outcomes s status s where
  inv := id
  callNo := rfl
  renewed := fun h => absurd (hclears.symm.trans h) Bool.false_ne_true
  kept := fun _ => ⟨rfl, fun _ => hstatus⟩

theorem stepsLeave_saved {initialized : Bool} {steps : List DetailStep} {outcomes : List StepOutcome} {s : ThreadDetail}
    {status : Status} {record : Option ErrorDetail} (hclears : clears steps outcomes = true)
    (hrecord : Renewed s.callNo status (saveThreadErrorDetail s record)) :
    StepsLeave initialized steps outcomes s status (saveThreadErrorDetail s record) where
  inv := fun h => h.save record
  callNo := save_callNo s record
  renewed := fun _ => hrecord
  kept := fun h => absurd (hclears.symm.trans h).symm Bool.false_ne_true

theorem detailSteps_spec (initialized : Bool) : ∀ (steps : List DetailStep) (outcomes : List StepOutcome)
    {s s' : ThreadDetail} {status : Status}, detailSteps initialized steps outcomes s = .ok (status, s') →
      StepsLeave initialized steps outcomes s status s'
  | [], outcomes, s, s', status, hs => by cases hs; exact stepsLeave_kept rfl (.inl rfl)
  | .free :: steps, outcomes, s, s', status, hs => by
    obtain ⟨hinv, hcallNo, hrenewed, hkept⟩ := detailSteps_spec initialized steps outcomes.tail hs
    rw [free_callNo] at hcallNo hrenewed
    refine ⟨fun h => hinv h.free, hcallNo, fun _ => ?_, fun h => by cases h⟩
    cases hclears : clears steps outcomes.tail with
    | true => exact hrenewed hclears
    | false =>
      rw [(hkept hclears).1]; exact renewed_of_none (free_errorDetail s)
  | .assertInitialized :: steps, outcomes, s, s', status, hs => by
    cases initialized with
    | false => cases hs
    | true =>
      obtain ⟨hinv, hcallNo, hrenewed, hkept⟩ := detailSteps_spec true steps outcomes.tail hs
      exact ⟨hinv, hcallNo, hrenewed, fun h => ⟨(hkept h).1, fun hinit => by cases hinit⟩⟩
  | .precond :: steps, outcomes, s, s', status, hs => by
    cases hholds : (nextOutcome outcomes).holds with
    | true =>
      have hs : detailSteps initialized steps outcomes.tail s = .ok (status, s') := by
        simpa [detailSteps, detailStep, hholds] using hs
      obtain ⟨hinv, hcallNo, hrenewed, hkept⟩ := detailSteps_spec initialized steps outcomes.tail hs
      have hclears : clears (.precond :: steps) outcomes = clears steps outcomes.tail := by simp [clears, hholds]
      have hfailure : plainFailure (.precond :: steps) outcomes = plainFailure steps outcomes.tail := if_pos hholds
      refine ⟨hinv, hcallNo, ?_, ?_⟩
      · rw [hclears]; exact hrenewed
      · rw [hclears, hfailure]; exact hkept
    | false =>
      have hs : Except.ok (ddcrcArg, s) = (.ok (status, s') : Exec (Status × ThreadDetail)) := by
        simpa [detailSteps, detailStep, hholds] using hs
      cases hs
      have hfailure : plainFailure (.precond :: steps) outcomes = some ddcrcArg :=
        if_neg (by rw [hholds]; exact Bool.false_ne_true)
      exact stepsLeave_kept (by simp [clears, hholds]) (.inr hfailure)
  | .status :: steps, outcomes, s, s', status, hs => by
    by_cases hok : (nextOutcome outcomes).status = ddcrcOk
    · have hs : detailSteps initialized steps outcomes.tail s = .ok (status, s') := by
        simpa [detailSteps, detailStep, hok] using hs
      obtain ⟨hinv, hcallNo, hrenewed, hkept⟩ := detailSteps_spec initialized steps outcomes.tail hs
      have hclears : clears (.status :: steps) outcomes = clears steps outcomes.tail := by simp [clears, hok]
      have hfailure : plainFailure (.status :: steps) outcomes = plainFailure steps outcomes.tail := if_pos hok
      refine ⟨hinv, hcallNo, ?_, ?_⟩
      · rw [hclears]; exact hrenewed
      · rw [hclears, hfailure]; exact hkept
    · have hs : Except.ok ((nextOutcome outcomes).status, s) = (.ok (status, s') : Exec (Status × ThreadDetail)) := by
        simpa [detailSteps, detailStep, hok] using hs
      cases hs; exact stepsLeave_kept (by simp [clears, hok]) (.inr (if_neg hok))
  | .errinfo saveNone :: steps, outcomes, s, s', status, hs => by
    cases herr : (nextOutcome outcomes).error with
    | some err =>
      have hs : Except.ok (err.statusCode, saveThreadErrorDetail s (some (errorInfoToDdcaDetail err))) =
          (.ok (status, s') : Exec (Status × ThreadDetail)) := by simpa [detailSteps, detailStep, herr] using hs
      cases hs
      exact stepsLeave_saved (by simp [clears, herr]) (renewed_save s _ fun _ => errorInfoToDdcaDetail_statusCode err)
    | none =>
      cases saveNone with
      | true =>
        have hs : Except.ok (ddcrcOk, saveThreadErrorDetail s none) = (.ok (status, s') : Exec (Status × ThreadDetail)) := by
          simpa [detailSteps, detailStep, herr] using hs
        cases hs
        exact stepsLeave_saved (by simp [clears]) (renewed_of_none (save_none_errorDetail s))
      | false =>
        have hs : Except.ok (ddcrcOk, s) = (.ok (status, s') : Exec (Status × ThreadDetail)) := by
          simpa [detailSteps, detailStep, herr] using hs
        cases hs; exact stepsLeave_kept (by simp [clears, herr]) (.inl rfl)
  | .dfrCheck :: steps, outcomes, s, s', status, hs => by
    cases herr : (nextOutcome outcomes).error with
    | some err =>
      by_cases hmissing : err.statusCode = ddcrcNotFound
      · have hs : Except.ok (ddcrcOk, s) = (.ok (status, s') : Exec (Status × ThreadDetail)) := by
          simpa [detailSteps, detailStep, herr, hmissing] using hs
        cases hs; exact stepsLeave_kept (by simp [clears, herr, hmissing]) (.inl rfl)
      · have hs : Except.ok (err.statusCode, saveThreadErrorDetail s (some (errorInfoToDdcaDetail err))) =
            (.ok (status, s') : Exec (Status × ThreadDetail)) := by
          simpa [detailSteps, detailStep, herr, hmissing] using hs
        cases hs
        exact stepsLeave_saved (by simp [clears, herr, hmissing])
          (renewed_save s _ fun _ => errorInfoToDdcaDetail_statusCode err)
    | none =>
      have hs : Except.ok (ddcrcOk, s) = (.ok (status, s') : Exec (Status × ThreadDetail)) := by
        simpa [detailSteps, detailStep, herr] using hs
      cases hs; exact stepsLeave_kept (by simp [clears, herr]) (.inl rfl)
  | .openErrors :: steps, outcomes, s, s', status, hs => by
    cases herrs : (nextOutcome outcomes).openErrors with
    | nil =>
      have hs : Except.ok (ddcrcOk, s) = (.ok (status, s') : Exec (Status × ThreadDetail)) := by
        simpa [detailSteps, detailStep, herrs] using hs
      cases hs; exact stepsLeave_kept (by simp [clears, herrs]) (.inl rfl)
    | cons err errs =>
      simp only [detailSteps, detailStep, herrs, Exec.ok_bind] at hs
      cases hs
      exact stepsLeave_saved (by simp [clears, herrs]) (renewed_save s _ fun h => absurd rfl h)

theorem detailSteps_plainFailure (initialized : Bool) : ∀ (steps : List DetailStep) (outcomes : List StepOutcome)
    (s : ThreadDetail) {status : Status}, plainFailure steps outcomes = some status →
      detailSteps initialized steps outcomes s = .ok (status, s) ∧ status ≠ ddcrcOk
  | .precond :: steps, outcomes, s, status, h => by
    cases hholds : (nextOutcome outcomes).holds with
    | true =>
      have h : plainFailure steps outcomes.tail = some status := (if_pos hholds).symm.trans h
      obtain ⟨hs, hne⟩ := detailSteps_plainFailure initialized steps outcomes.tail s h
      refine ⟨?_, hne⟩
      simpa [detailSteps, detailStep, hholds] using hs
    | false =>
      have hneg : ¬ (nextOutcome outcomes).holds = true := by rw [hholds]; exact Bool.false_ne_true
      have h : some ddcrcArg = some status := (if_neg hneg).symm.trans h
      cases h
      refine ⟨?_, by decide⟩
      simp [detailSteps, detailStep, hholds]
  | .status :: steps, outcomes, s, status, h => by
    by_cases hok : (nextOutcome outcomes).status = ddcrcOk
    · have h : plainFailure steps outcomes.tail = some status := (if_pos hok).symm.trans h
      obtain ⟨hs, hne⟩ := detailSteps_plainFailure initialized steps outcomes.tail s h
      refine ⟨?_, hne⟩
      simpa [detailSteps, detailStep, hok] using hs
    · have h : some (nextOutcome outcomes).status = some status := (if_neg hok).symm.trans h
      cases h
      simp [detailSteps, detailStep, hok]

theorem detailSteps_returns : ∀ (steps : List DetailStep) (outcomes : List StepOutcome) (s : ThreadDetail),
    ∃ r, detailSteps true steps outcomes s = .ok r
  | [], _, s => ⟨_, rfl⟩
  | step :: steps, outcomes, s => by
    have hstep : ∃ r, detailStep true (nextOutcome outcomes) s step = .ok r := by
      cases step with
      | errinfo saveNone =>
        dsimp only [detailStep]
        split <;> exact ⟨_, rfl⟩
      | dfrCheck =>
        dsimp only [detailStep]
        split
        · split <;> exact ⟨_, rfl⟩
        · exact ⟨_, rfl⟩
      | openErrors =>
        dsimp only [detailStep]
        split <;> exact ⟨_, rfl⟩
      | _ => exact ⟨_, rfl⟩
    obtain ⟨⟨status, t⟩, ht⟩ := hstep
    dsimp only [detailSteps]
    rw [ht, Exec.ok_bind]
    cases status with
    | some status => exact ⟨_, rfl⟩
    | none => exact detailSteps_returns steps outcomes.tail t

/-! ## A call -/

theorem DetailInv.begin {s : ThreadDetail} (h : DetailInv s) (func : StatusFunction) : DetailInv (beginCall func s) := by
  have hbegun : DetailInv { s with callNo := s.callNo + 1 } :=
    ⟨⟨h.freedOnce.nodup, h.freedOnce.freed⟩, fun d hd =>
      ⟨(h.current d hd).1, Nat.le_succ_of_le (h.current d hd).2⟩⟩
  unfold beginCall
  split
  · exact hbegun.free
  · exact hbegun

theorem DetailInv.prolog {s : ThreadDetail} (h : DetailInv s) (func : StatusFunction) (o : PrologOutcome) :
    DetailInv (detailProlog func o s) := by
  unfold detailProlog
  split
  · exact h.save _
  · exact h

theorem right_of_renewed {callNo : Nat} {status : Status} {s' : ThreadDetail} (h : DetailInv s')
    (hcallNo : s'.callNo = callNo) (hrenewed : Renewed callNo status s') : DetailRight status s' where
  fresh := by
    intro detail hdetail
    obtain ⟨d, hd, hrecord⟩ := errorDetail_of_ddcaGetErrorDetail hdetail
    exact ⟨d, hd, hrecord, (hrenewed d hd).1.trans hcallNo.symm⟩
  explains := by
    intro hfailed detail hdetail
    obtain ⟨d, hd, rfl⟩ := errorDetail_of_ddcaGetErrorDetail hdetail
    exact (hrenewed d hd).2 hfailed
  freedOnce := h.freedOnce

def StatusCall.begun (c : StatusCall) (s : ThreadDetail) : ThreadDetail :=
  detailProlog c.func.describe c.prolog (beginCall c.func.describe s)

theorem DetailInv.begun {s : ThreadDetail} (h : DetailInv s) (c : StatusCall) : DetailInv (c.begun s) :=
  (h.begin c.func.describe).prolog c.func.describe c.prolog

theorem statusCall_refused {c : StatusCall} {record : ErrorDetail}
    (h : prologRefuses c.func.describe c.prolog = some record) (s : ThreadDetail) :
    statusCall c s = .ok (record.statusCode, saveThreadErrorDetail (c.begun s) (some record)) := by
  rw [statusCall, h]; rfl

theorem statusCall_passed {c : StatusCall} (h : prologRefuses c.func.describe c.prolog = none) (s : ThreadDetail) :
    statusCall c s = detailSteps (implicitInitError c.func.describe c.prolog).isNone c.func.describe.steps c.outcomes
      (c.begun s) := by rw [statusCall, h]; rfl

theorem DetailInv.call {s s' : ThreadDetail} (h : DetailInv s) {c : StatusCall} {status : Status}
    (hs : statusCall c s = .ok (status, s')) : DetailInv s' := by
  cases hrefused : prologRefuses c.func.describe c.prolog with
  | some record =>
    rw [statusCall_refused hrefused] at hs
    cases hs; exact (h.begun c).save _
  | none =>
    rw [statusCall_passed hrefused] at hs; exact (detailSteps_spec _ _ _ hs).inv (h.begun c)

theorem not_right_of_leavesOld {s : ThreadDetail} (h : DetailInv s) {c : StatusCall} (hold : c.LeavesOld s) :
    ∃ status s', statusCall c s = .ok (status, s') ∧ ¬ DetailRight status s' := by
  obtain ⟨hsome, hfree, hrefused, himplicit, hclears⟩ := hold
  obtain ⟨d, hd⟩ := Option.ne_none_iff_exists'.1 hsome
  have hbegun : c.begun s = { s with callNo := s.callNo + 1 } := by
    rw [StatusCall.begun, detailProlog, himplicit]; exact if_neg (by rw [hfree]; exact Bool.false_ne_true)
  obtain ⟨⟨status, s'⟩, hs⟩ := detailSteps_returns c.func.describe.steps c.outcomes (c.begun s)
  have hkept := ((detailSteps_spec _ _ _ hs).kept hclears).1
  refine ⟨status, s', ?_, fun hright => ?_⟩
  · rw [statusCall_passed hrefused, himplicit]; exact hs
  · rw [hkept, hbegun] at hright
    obtain ⟨d', hd', -, hcall⟩ := hright.fresh d.record (ddcaGetErrorDetail_eq hd)
    have hsame : d' = d := Option.some.inj (hd'.symm.trans hd)
    have hbefore := (h.current d hd).2
    rw [hsame] at hcall
    dsimp only at hcall; omega

theorem not_right_of_misexplains {s : ThreadDetail} {c : StatusCall} (hmis : c.Misexplains) :
    ∃ status s', statusCall c s = .ok (status, s') ∧ ¬ DetailRight status s' := by
  obtain ⟨hrefused, err, himplicit, status, hfailure, hne⟩ := hmis
  obtain ⟨hs, hfailed⟩ := detailSteps_plainFailure false c.func.describe.steps c.outcomes (c.begun s) hfailure
  refine ⟨status, c.begun s, ?_, fun hright => ?_⟩
  · rw [statusCall_passed hrefused, himplicit]; exact hs
  · have hbegun : c.begun s = saveThreadErrorDetail (beginCall c.func.describe s) (some (errorInfoToDdcaDetail err)) := by
      rw [StatusCall.begun, detailProlog, himplicit]
    rw [hbegun] at hright
    obtain ⟨d, hd, hrecord, -⟩ := save_some_errorDetail (beginCall c.func.describe s) (errorInfoToDdcaDetail err)
    have hcode := hright.explains hfailed d.record (ddcaGetErrorDetail_eq hd)
    rw [hrecord, errorInfoToDdcaDetail_statusCode] at hcode; exact hne hcode.symm

theorem DetailInv.right {s s' : ThreadDetail} (h : DetailInv s) {c : StatusCall} (hold : ¬ c.LeavesOld s)
    (hmis : ¬ c.Misexplains) {status : Status} (hs : statusCall c s = .ok (status, s')) : DetailRight status s' := by
  have hinv := h.call hs
  cases hrefused : prologRefuses c.func.describe c.prolog with
  | some record =>
    rw [statusCall_refused hrefused] at hs
    cases hs; exact right_of_renewed hinv (save_callNo _ _) (renewed_save _ _ fun _ => rfl)
  | none =>
    rw [statusCall_passed hrefused] at hs
    obtain ⟨-, hcallNo, hrenewed, hkept⟩ := detailSteps_spec _ _ _ hs
    refine right_of_renewed hinv hcallNo ?_
    cases hclears : clears c.func.describe.steps c.outcomes with
    | true => exact hrenewed hclears
    | false =>
      obtain ⟨hsame, hstatus⟩ := hkept hclears
      rw [hsame]
      unfold StatusCall.begun detailProlog
      cases himplicit : implicitInitError c.func.describe c.prolog with
      | some err =>
        -- the record is that of the implicit initialization
        rw [save_callNo]
        refine renewed_save _ _ fun hfailed => ?_
        rw [errorInfoToDdcaDetail_statusCode]
        rw [himplicit] at hstatus
        by_contra hne
        rcases hstatus rfl with hok | hfailure
        · exact hfailed hok
        · exact hmis ⟨hrefused, err, himplicit, status, hfailure, Ne.symm hne⟩
      | none =>
        dsimp only
        refine renewed_of_none ?_
        unfold beginCall
        split
        · exact free_errorDetail _
        · rename_i hfree
          by_contra hsome
          exact hold ⟨hsome, Bool.eq_false_iff.2 hfree, hrefused, himplicit, hclears⟩

/-- **When the detail is of the latest call**: in every run in which no call leaves the record of an earlier one, or
explains another failure than its own, and in no other. -/
theorem errorDetail_right_iff (calls : List StatusCall) :
    AllAlong statusCallStep (fun s c => ∀ status s', statusCall c s = .ok (status, s') → DetailRight status s') .start
      calls ↔
    AllAlong statusCallStep (fun s c => ¬ c.LeavesOld s ∧ ¬ c.Misexplains) .start calls := by
  refine AllAlong.congr (fun s c (h : DetailInv s) => ?_) ?_ detail_start_inv
  · constructor
    · intro hright
      constructor
      · intro hold
        obtain ⟨status, s', hs, hnot⟩ := not_right_of_leavesOld h hold
        exact hnot (hright status s' hs)
      · intro hmis
        obtain ⟨status, s', hs, hnot⟩ := not_right_of_misexplains (s := s) hmis
        exact hnot (hright status s' hs)
    · rintro ⟨hold, hmis⟩ status s' hs
      exact h.right hold hmis hs
  · intro s c s' h _ hs
    unfold statusCallStep at hs
    cases hcall : statusCall c s with
    | error e =>
      rw [hcall] at hs; cases hs
    | ok r =>
      rw [hcall] at hs
      cases hs; exact h.call hcall

/-- A display cannot be opened, and then the displays are detected anew without error: the explanation that is left is
still that of the opening. -/
theorem openThenRedetect_not_right :
    ¬ AllAlong statusCallStep (fun s c => ∀ status s', statusCall c s = .ok (status, s') → DetailRight status s') .start
      [⟨.ddcaOpenDisplay2, ⟨false, none, false⟩,
          [.passes, .passes, ⟨true, ddcrcOk, some ⟨ddcrcInvalidDisplay, "ddci_open_display3", none, []⟩, []⟩]⟩,
        ⟨.ddcaRedetectDisplays, ⟨false, none, false⟩, []⟩] := by
  rintro ⟨-, hrest⟩
  obtain ⟨hright, -⟩ := hrest _ rfl
  obtain ⟨d, hd, -, hcall⟩ := (hright _ _ rfl).fresh _ rfl
  cases hd; exact absurd hcall (by decide)

end Ddc
