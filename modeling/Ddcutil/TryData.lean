import Ddcutil.DisplayData
import Mathlib.Logic.Function.Basic
/-!
# TryData — how many tries the operations took

`ddc_try_data.c` counts for each retry type how its operations ended, and keeps the maximum number of tries and the
highest and lowest it was; `drd_record_display_tries` of `display_retry_data.c` counts the same for each display.  The
counters are 16 bits wide.
-/
namespace Ddc

open Kit Function

inductive RetryOperation where
  | writeOnlyTriesOp | writeReadTriesOp | multiPartReadOp | multiPartWriteOp
  deriving DecidableEq, Repr

def initialMaxMultiExchangeTries : MaxTries := ⟨8, by decide, by decide⟩

def defaultMaxtries : RetryOperation → MaxTries
  | .writeOnlyTriesOp => initialMaxWriteOnlyExchangeTries
  | .writeReadTriesOp => initialMaxWriteReadExchangeTries
  | .multiPartReadOp | .multiPartWriteOp => initialMaxMultiExchangeTries

/-! ## Counters -/

abbrev OpCounters := Vector UInt16 (maxMaxTries + 2)

def OpCounters.zero : OpCounters := Vector.replicate (maxMaxTries + 2) 0

def OpCounters.bump (counters : OpCounters) (index : Nat) : Exec OpCounters :=
  if h : index < maxMaxTries + 2 then .ok (counters.set index (counters[index] + 1)) else .error .outOfBounds

def OpCounters.clear (counters : OpCounters) : (bound : Nat) → bound ≤ maxMaxTries + 2 → OpCounters
  | 0, _ => counters
  | ndx + 1, h => (counters.clear ndx (Nat.le_of_succ_le h)).set ndx 0

def OpCounters.total (counters : OpCounters) : (bound : Nat) → bound ≤ maxMaxTries + 2 → Nat
  | 0, _ => 0
  | ndx + 1, h => counters.total ndx (Nat.le_of_succ_le h) + counters[ndx].toNat

theorem OpCounters.getElem_zero {i : Nat} (h : i < maxMaxTries + 2) : OpCounters.zero[i] = 0 :=
  Vector.getElem_replicate h

theorem OpCounters.bump_of_lt (counters : OpCounters) {index : Nat} (h : index < maxMaxTries + 2) :
    counters.bump index = .ok (counters.set index (counters[index] + 1)) := dif_pos h

theorem OpCounters.getElem_clear (counters : OpCounters) {i : Nat} (hi : i < maxMaxTries + 2) :
    ∀ (bound : Nat) (h : bound ≤ maxMaxTries + 2), (counters.clear bound h)[i] = if i < bound then 0 else counters[i]
  | 0, _ => rfl
  | ndx + 1, h => by
    rw [OpCounters.clear, Vector.getElem_set, counters.getElem_clear hi ndx]
    by_cases heq : ndx = i
    · rw [if_pos heq, if_pos (Nat.lt_succ_of_le (Nat.le_of_eq heq.symm))]
    · rw [if_neg heq]
      have hiff : i < ndx + 1 ↔ i < ndx := by omega
      simp only [hiff]

structure TryData2 where
  maxtries : MaxTries
  counters : OpCounters
  highestMaxtries : MaxTries
  lowestMaxtries : MaxTries

structure TryData (δ : Type) where
  tryData : RetryOperation → TryData2
  tryStats : δ → RetryOperation → OpCounters

variable {δ : Type}

def tryDataInitRetryType (maxtries : MaxTries) : TryData2 := ⟨maxtries, OpCounters.zero, maxtries, maxtries⟩

def TryData.init (maxtries : RetryOperation → MaxTries) : TryData δ where
  tryData := fun retryType => tryDataInitRetryType (maxtries retryType)
  tryStats := fun _ _ => OpCounters.zero

def TryData.setTryData (s : TryData δ) (retryType : RetryOperation) (statsRec : TryData2) : TryData δ :=
  { s with tryData := update s.tryData retryType statsRec }

/-! ## The functions -/

def tryDataSetMaxtries2 (s : TryData δ) (retryType : RetryOperation) (newMaxtries : Nat) : Exec (TryData δ) :=
  if h : 1 ≤ newMaxtries ∧ newMaxtries ≤ maxMaxTries then
    let new : MaxTries := ⟨newMaxtries, h.1, h.2⟩
    let statsRec := s.tryData retryType
    .ok (s.setTryData retryType
      ⟨new, statsRec.counters,
        if newMaxtries > statsRec.highestMaxtries.val then new else statsRec.highestMaxtries,
        if newMaxtries < statsRec.lowestMaxtries.val then new else statsRec.lowestMaxtries⟩)
  else .error .assertFailed

def tryDataReset2 (s : TryData δ) (retryType : RetryOperation) : TryData δ :=
  s.setTryData retryType
    ⟨(s.tryData retryType).maxtries, (s.tryData retryType).counters.clear (maxMaxTries + 1) (Nat.le_succ _),
      (s.tryData retryType).maxtries, (s.tryData retryType).maxtries⟩

def tryDataReset2All (s : TryData δ) : TryData δ :=
  [.writeOnlyTriesOp, .writeReadTriesOp, .multiPartReadOp, .multiPartWriteOp].foldl tryDataReset2 s

def drdResetAllDisplaysTries (s : TryData δ) : TryData δ :=
  { s with tryStats := fun d retryType => (s.tryStats d retryType).clear (maxMaxTries + 2) (Nat.le_refl _) }

def drdRecordDisplayTries [DecidableEq δ] (s : TryData δ) (dh : δ) (typeId : RetryOperation) (rc : Status)
    (tryct : Nat) : Exec (TryData δ) := do
  let counters ← (s.tryStats dh typeId).bump (triesIndex rc tryct)
  .ok { s with tryStats := update s.tryStats dh (update (s.tryStats dh) typeId counters) }

def recordInTryData (s : TryData δ) (retryType : RetryOperation) (ddcrc : Status) (tryct : Nat) : Exec (TryData δ) := do
  let statsRec := s.tryData retryType
  check (ddcrc = 0 → 0 < tryct ∧ tryct ≤ statsRec.maxtries.val)
  let counters ← statsRec.counters.bump (triesIndex ddcrc tryct)
  .ok (s.setTryData retryType { statsRec with counters := counters })

def tryDataRecord [DecidableEq δ] (s : TryData δ) (dh : δ) (retryType : RetryOperation) (ddcrc : Status)
    (tryct : Nat) : Exec (TryData δ) := do
  let s ← drdRecordDisplayTries s dh retryType ddcrc tryct
  recordInTryData s retryType ddcrc tryct

def tryDataGetTotalAttempts2 (s : TryData δ) (retryType : RetryOperation) : Nat :=
  (s.tryData retryType).counters.total (maxMaxTries + 2) (Nat.le_refl _)

/-! ## What they do -/

theorem tryDataSetMaxtries2_keeps {s s' : TryData δ} {retryType : RetryOperation} {newMaxtries : Nat}
    (hs : tryDataSetMaxtries2 s retryType newMaxtries = .ok s') :
    (∀ op, (s'.tryData op).counters = (s.tryData op).counters) ∧ s'.tryStats = s.tryStats := by
  unfold tryDataSetMaxtries2 at hs
  split at hs
  · cases hs
    refine ⟨fun op => ?_, rfl⟩
    by_cases hop : op = retryType
    · subst hop
      simp only [TryData.setTryData, update_self]
    · simp only [TryData.setTryData, update_of_ne hop]
  · cases hs

theorem counters_tryDataReset2 (s : TryData δ) (retryType op : RetryOperation) {i : Nat} (hi : i < maxMaxTries + 2) :
    ((tryDataReset2 s retryType).tryData op).counters[i] =
      if retryType = op ∧ i < maxMaxTries + 1 then 0 else (s.tryData op).counters[i] := by
  by_cases hop : retryType = op
  · subst hop
    simp only [tryDataReset2, TryData.setTryData, update_self, OpCounters.getElem_clear, true_and]
  · simp only [tryDataReset2, TryData.setTryData, update_of_ne (Ne.symm hop), hop, false_and, if_false]

theorem counters_tryDataReset2All (s : TryData δ) (op : RetryOperation) {i : Nat} (hi : i < maxMaxTries + 2) :
    ((tryDataReset2All s).tryData op).counters[i] = if i < maxMaxTries + 1 then 0 else (s.tryData op).counters[i] := by
  simp only [tryDataReset2All, List.foldl_cons, List.foldl_nil, counters_tryDataReset2]
  cases op <;> simp only [true_and, reduceCtorEq, false_and, if_false]

/-- **Recording returns for valid arguments**, and adds one to the counter of the outcome, in both places. -/
theorem tryDataRecord_ok [DecidableEq δ] (s : TryData δ) (dh : δ) (retryType : RetryOperation) {ddcrc : Status}
    {tryct : Nat} (h : ddcrc = 0 → 0 < tryct ∧ tryct ≤ (s.tryData retryType).maxtries.val) :
    ∃ hlt : triesIndex ddcrc tryct < maxMaxTries + 2,
      tryDataRecord s dh retryType ddcrc tryct = .ok
        { tryData := update s.tryData retryType
            { s.tryData retryType with
              counters := (s.tryData retryType).counters.set (triesIndex ddcrc tryct)
                ((s.tryData retryType).counters[triesIndex ddcrc tryct] + 1) },
          tryStats := update s.tryStats dh (update (s.tryStats dh) retryType
            ((s.tryStats dh retryType).set (triesIndex ddcrc tryct)
              ((s.tryStats dh retryType)[triesIndex ddcrc tryct] + 1))) } := by
  have hlt : triesIndex ddcrc tryct < maxMaxTries + 2 := by
    by_cases hz : ddcrc = 0
    · exact triesIndex_lt (Nat.le_trans (h hz).2 (s.tryData retryType).maxtries.le)
    · rw [triesIndex, if_neg hz]
      split
      · exact Nat.lt_of_sub_ne_zero (by decide)
      · exact Nat.succ_pos _
  refine ⟨hlt, ?_⟩
  rw [tryDataRecord, drdRecordDisplayTries, OpCounters.bump_of_lt _ hlt, Exec.ok_bind, Exec.ok_bind, recordInTryData]
  simp only [check_pos h, OpCounters.bump_of_lt _ hlt, Exec.ok_bind, TryData.setTryData]

end Ddc
