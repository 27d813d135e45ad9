import Ddcutil.TryData
import Mathlib.Algebra.BigOperators.Group.Finset.Piecewise
import Mathlib.Data.Fintype.Basic
import Mathlib.Data.List.DropRight
/-!
# TryDataRuns — what the counters are after a run

A run is a list of calls, each with arguments that are valid where it is made.  The calls since the last reset of a
retry type are those its counters should count.
-/
namespace Ddc

open Kit List Function

variable {δ : Type}

inductive CountedAs where
  | failedFatally | failedMaxTries
  | succeeded (tries : Nat)
  deriving DecidableEq, Repr

def countedAs (ddcrc : Status) (tryct : Nat) : CountedAs :=
  if ddcrc = 0 then .succeeded tryct
  else if ddcrc = ddcrcRetries ∨ ddcrc = ddcrcAllTriesZero then .failedMaxTries else .failedFatally

def outcomeAt : Nat → CountedAs
  | 0 => .failedFatally
  | 1 => .failedMaxTries
  | tries + 2 => .succeeded (tries + 1)

theorem outcomeAt_inj : ∀ {i j : Nat}, outcomeAt i = outcomeAt j → i = j
  | 0, 0, _ => rfl
  | 1, 1, _ => rfl
  | i + 2, j + 2, h => by cases h; rfl
  | 0, 1, h | 0, j + 2, h | 1, 0, h | 1, j + 2, h | i + 2, 0, h | i + 2, 1, h => by cases h

theorem outcomeAt_triesIndex {ddcrc : Status} {tryct : Nat} (h : ddcrc = 0 → 0 < tryct) :
    outcomeAt (triesIndex ddcrc tryct) = countedAs ddcrc tryct := by
  unfold triesIndex countedAs
  by_cases hz : ddcrc = 0
  · rw [if_pos hz, if_pos hz]
    obtain ⟨tries, rfl⟩ := Nat.exists_eq_succ_of_ne_zero (Nat.pos_iff_ne_zero.1 (h hz))
    rfl
  · rw [if_neg hz, if_neg hz]
    split <;> rfl

inductive TryCall (δ : Type) where
  | record (dh : δ) (retryType : RetryOperation) (ddcrc : Status) (tryct : Nat)
  | setMaxtries (retryType : RetryOperation) (newMaxtries : Nat)
  | reset (retryType : RetryOperation)
  | resetAll
  /-- `try_data_reset2_all` and `drd_reset_all_displays_tries`. -/
  | resetTogether

def TryData.call [DecidableEq δ] (s : TryData δ) : TryCall δ → Exec (TryData δ)
  | .record dh retryType ddcrc tryct => tryDataRecord s dh retryType ddcrc tryct
  | .setMaxtries retryType newMaxtries => tryDataSetMaxtries2 s retryType newMaxtries
  | .reset retryType => .ok (tryDataReset2 s retryType)
  | .resetAll => .ok (tryDataReset2All s)
  | .resetTogether => .ok (drdResetAllDisplaysTries (tryDataReset2All s))

/-- **Valid arguments**: a success took at least one try and no more than the current maximum. -/
def TryCall.Valid (s : TryData δ) : TryCall δ → Prop
  | .record _ retryType ddcrc tryct => ddcrc = 0 → 0 < tryct ∧ tryct ≤ (s.tryData retryType).maxtries.val
  | .setMaxtries _ newMaxtries => 1 ≤ newMaxtries ∧ newMaxtries ≤ maxMaxTries
  | .reset _ | .resetAll | .resetTogether => True

inductive TryRun [DecidableEq δ] (maxtries : RetryOperation → MaxTries) : List (TryCall δ) → TryData δ → Prop
  | init : TryRun maxtries [] (TryData.init maxtries)
  | call {calls : List (TryCall δ)} {s s' : TryData δ} {c : TryCall δ} (h : TryRun maxtries calls s) (hv : c.Valid s)
      (hs : s.call c = .ok s') : TryRun maxtries (calls ++ [c]) s'

/-! ## What was recorded -/

def TryCall.records (op : RetryOperation) (outcome : CountedAs) : TryCall δ → Bool
  | .record _ retryType ddcrc tryct => retryType = op && countedAs ddcrc tryct = outcome
  | _ => false

def TryCall.recordsOn [DecidableEq δ] (d : δ) (op : RetryOperation) (outcome : CountedAs) : TryCall δ → Bool
  | .record dh retryType ddcrc tryct => dh = d && (retryType = op && countedAs ddcrc tryct = outcome)
  | _ => false

def TryCall.isOperation (op : RetryOperation) : TryCall δ → Bool
  | .record _ retryType _ _ => retryType = op
  | _ => false

def TryCall.resets (op : RetryOperation) : TryCall δ → Bool
  | .reset retryType => retryType = op
  | .resetAll | .resetTogether => true
  | _ => false

def TryCall.isResetTogether : TryCall δ → Bool
  | .resetTogether => true
  | _ => false

def recorded (op : RetryOperation) (outcome : CountedAs) (calls : List (TryCall δ)) : Nat :=
  calls.countP (TryCall.records op outcome)

def sinceReset (op : RetryOperation) (calls : List (TryCall δ)) : List (TryCall δ) :=
  calls.rtakeWhile fun c => !c.resets op

def upToReset (op : RetryOperation) (calls : List (TryCall δ)) : List (TryCall δ) :=
  calls.rdropWhile fun c => !c.resets op

/-- **What is claimed of the counters of a type**: each is the number of operations since the last reset that ended as it
says, their sum is the number of operations, and those of the displays add up to them where the type was reset for the
displays whenever it was reset. -/
structure CountersRight [Fintype δ] (calls : List (TryCall δ)) (s : TryData δ) (op : RetryOperation) : Prop where
  counters : ∀ i (hi : i < maxMaxTries + 2),
    (s.tryData op).counters[i].toNat = recorded op (outcomeAt i) (sinceReset op calls)
  total : tryDataGetTotalAttempts2 s op = (sinceReset op calls).countP (TryCall.isOperation op)
  displays : (∀ c ∈ calls, c.resets op = true → c.isResetTogether = true) → ∀ i (hi : i < maxMaxTries + 2),
    ∑ d, (s.tryStats d op)[i].toNat = (s.tryData op).counters[i].toNat

/-- **Few enough operations to count**: fewer than 65536 of each outcome since the last reset, and a multiple of 65536
that took the most tries before it. -/
structure FewOperations (calls : List (TryCall δ)) (op : RetryOperation) : Prop where
  since : ∀ i < maxMaxTries + 2, recorded op (outcomeAt i) (sinceReset op calls) < 65536
  before : 65536 ∣ recorded op (.succeeded maxMaxTries) (upToReset op calls)

/-! ## The invariant -/

theorem recorded_concat (op : RetryOperation) (o : CountedAs) (calls : List (TryCall δ)) (c : TryCall δ) :
    recorded op o (calls ++ [c]) = recorded op o calls + if c.records op o then 1 else 0 := by
  rw [recorded, countP_append, countP_singleton]; rfl

theorem sinceReset_concat (op : RetryOperation) (calls : List (TryCall δ)) (c : TryCall δ) :
    sinceReset op (calls ++ [c]) = if c.resets op then [] else sinceReset op calls ++ [c] := by
  rw [sinceReset, rtakeWhile_concat]
  cases c.resets op <;> rfl

def countedCalls (op : RetryOperation) (i : Nat) (calls : List (TryCall δ)) : List (TryCall δ) :=
  if i < maxMaxTries + 1 then sinceReset op calls else calls

def countedOnDisplays (calls : List (TryCall δ)) : List (TryCall δ) := calls.rtakeWhile fun c => !c.isResetTogether

structure TriesCounted [DecidableEq δ] (calls : List (TryCall δ)) (s : TryData δ) : Prop where
  tryData : ∀ op i (hi : i < maxMaxTries + 2),
    (s.tryData op).counters[i].toNat = recorded op (outcomeAt i) (countedCalls op i calls) % 65536
  tryStats : ∀ d op i (hi : i < maxMaxTries + 2),
    (s.tryStats d op)[i].toNat = (countedOnDisplays calls).countP (TryCall.recordsOn d op (outcomeAt i)) % 65536
  outcomes : ∀ dh retryType ddcrc tryct, TryCall.record dh retryType ddcrc tryct ∈ calls →
    ∃ i < maxMaxTries + 2, countedAs ddcrc tryct = outcomeAt i

theorem toNat_succ_mod {x : UInt16} {n : Nat} (h : x.toNat = n % 65536) : (x + 1).toNat = (n + 1) % 65536 := by
  rw [UInt16.toNat_add, h]; exact Nat.mod_add_mod n 65536 1

variable {op : RetryOperation} {c : TryCall δ} {calls : List (TryCall δ)} {s s' : TryData δ}

theorem countedCalls_concat (hc : c.resets op = false) (i : Nat) (calls : List (TryCall δ)) :
    countedCalls op i (calls ++ [c]) = countedCalls op i calls ++ [c] := by
  unfold countedCalls
  split
  · rw [sinceReset_concat, hc]; rfl
  · rfl

theorem countedOnDisplays_concat (hc : c.isResetTogether = false) (calls : List (TryCall δ)) :
    countedOnDisplays (calls ++ [c]) = countedOnDisplays calls ++ [c] := by
  rw [countedOnDisplays, rtakeWhile_concat, hc]; rfl

theorem recorded_concat_of_not {o : CountedAs} (hc : c.records op o = false) (calls : List (TryCall δ)) :
    recorded op o (calls ++ [c]) = recorded op o calls := by
  rw [recorded_concat, hc]; rfl

theorem TriesCounted.reset [DecidableEq δ] (h : TriesCounted calls s) (hrec : ∀ op o, c.records op o = false)
    (hon : ∀ d op o, c.recordsOn d op o = false)
    (hdata : ∀ op i (hi : i < maxMaxTries + 2), (s'.tryData op).counters[i] =
      if c.resets op = true ∧ i < maxMaxTries + 1 then 0 else (s.tryData op).counters[i])
    (hstats : ∀ d op i (hi : i < maxMaxTries + 2), (s'.tryStats d op)[i] =
      if c.isResetTogether = true then 0 else (s.tryStats d op)[i])
    (hnot : ∀ dh retryType ddcrc tryct, c ≠ .record dh retryType ddcrc tryct) : TriesCounted (calls ++ [c]) s' where
  tryData := by
    intro op i hi
    rw [hdata op i hi]
    by_cases hr : c.resets op = true
    · by_cases hlast : i < maxMaxTries + 1
      · rw [if_pos ⟨hr, hlast⟩, countedCalls, if_pos hlast, sinceReset_concat, if_pos hr]; rfl
      · rw [if_neg fun hb => hlast hb.2, h.tryData op i hi, countedCalls, countedCalls, if_neg hlast, if_neg hlast,
          recorded_concat_of_not (hrec op _)]
    · rw [if_neg fun hb => hr hb.1, countedCalls_concat (Bool.eq_false_iff.2 hr), recorded_concat_of_not (hrec op _)]
      exact h.tryData op i hi
  tryStats := by
    intro d op i hi
    rw [hstats d op i hi]
    by_cases ht : c.isResetTogether = true
    · rw [if_pos ht, countedOnDisplays, rtakeWhile_concat, ht]; rfl
    · rw [if_neg ht, countedOnDisplays_concat (Bool.eq_false_iff.2 ht), countP_append, countP_singleton, hon]
      exact h.tryStats d op i hi
  outcomes := by
    intro dh retryType ddcrc tryct hmem
    rcases mem_append.1 hmem with hmem | hmem
    · exact h.outcomes dh retryType ddcrc tryct hmem
    · exact absurd (mem_singleton.1 hmem).symm (hnot dh retryType ddcrc tryct)

theorem TriesCounted.concat_of_not [DecidableEq δ] (h : TriesCounted calls s) (hrec : ∀ op o, c.records op o = false)
    (hon : ∀ d op o, c.recordsOn d op o = false) (hreset : ∀ op, c.resets op = false) (htog : c.isResetTogether = false)
    (hdata : ∀ op, (s'.tryData op).counters = (s.tryData op).counters) (hstats : s'.tryStats = s.tryStats)
    (hnot : ∀ dh retryType ddcrc tryct, c ≠ .record dh retryType ddcrc tryct) : TriesCounted (calls ++ [c]) s' := by
  refine h.reset hrec hon (fun op i hi => ?_) (fun d op i hi => ?_) hnot
  · rw [if_neg fun hr => absurd (hr.1.symm.trans (hreset op)) (by decide)]
    simp only [hdata op]
  · rw [if_neg fun ht => absurd (ht.symm.trans htog) (by decide), hstats]

theorem toNat_getElem_set_succ {v : OpCounters} {j i n : Nat} (hj : j < maxMaxTries + 2) (hi : i < maxMaxTries + 2)
    (h : v[i].toNat = n % 65536) :
    (v.set j (v[j] + 1))[i].toNat = (n + if outcomeAt j = outcomeAt i then 1 else 0) % 65536 := by
  rw [Vector.getElem_set]
  by_cases heq : j = i
  · subst heq
    rw [if_pos rfl, if_pos rfl, toNat_succ_mod h]
  · rw [if_neg heq, if_neg fun ho => heq (outcomeAt_inj ho)]; exact h

theorem TriesCounted.record [DecidableEq δ] {dh : δ} {retryType : RetryOperation} {ddcrc : Status} {tryct : Nat}
    (h : TriesCounted calls s) (hv : ddcrc = 0 → 0 < tryct ∧ tryct ≤ (s.tryData retryType).maxtries.val)
    (hs : tryDataRecord s dh retryType ddcrc tryct = .ok s') :
    TriesCounted (calls ++ [.record dh retryType ddcrc tryct]) s' := by
  obtain ⟨hlt, hok⟩ := tryDataRecord_ok s dh retryType hv
  rw [hs] at hok
  cases hok
  have ho : outcomeAt (triesIndex ddcrc tryct) = countedAs ddcrc tryct := outcomeAt_triesIndex fun hz => (hv hz).1
  refine ⟨?_, ?_, ?_⟩
  · intro op i hi
    rw [countedCalls_concat rfl, recorded_concat]
    by_cases hop : retryType = op
    · subst hop
      simp only [update_self, TryCall.records, decide_true, Bool.true_and, decide_eq_true_eq, ← ho]
      exact toNat_getElem_set_succ hlt hi (h.tryData retryType i hi)
    · simp only [update_of_ne (Ne.symm hop), TryCall.records, hop, decide_false, Bool.false_and,
        Bool.false_eq_true, if_false, Nat.add_zero]
      exact h.tryData op i hi
  · intro d op i hi
    rw [countedOnDisplays_concat rfl, countP_append, countP_singleton]
    by_cases hd : dh = d
    · subst hd
      by_cases hop : retryType = op
      · subst hop
        simp only [update_self, TryCall.recordsOn, decide_true, Bool.true_and, decide_eq_true_eq, ← ho]
        exact toNat_getElem_set_succ hlt hi (h.tryStats dh retryType i hi)
      · simp only [update_self, update_of_ne (Ne.symm hop), TryCall.recordsOn, hop, decide_false,
          Bool.false_and, Bool.and_false, Bool.false_eq_true, if_false, Nat.add_zero]
        exact h.tryStats dh op i hi
    · simp only [update_of_ne (Ne.symm hd), TryCall.recordsOn, hd, decide_false, Bool.false_and,
        Bool.false_eq_true, if_false, Nat.add_zero]
      exact h.tryStats d op i hi
  · intro dh' retryType' ddcrc' tryct' hmem
    rcases mem_append.1 hmem with hmem | hmem
    · exact h.outcomes dh' retryType' ddcrc' tryct' hmem
    · cases mem_singleton.1 hmem
      exact ⟨_, hlt, ho.symm⟩

theorem TryRun.counted [DecidableEq δ] {maxtries : RetryOperation → MaxTries} (h : TryRun maxtries calls s) :
    TriesCounted calls s := by
  induction h with
  | init =>
    refine ⟨?_, ?_, fun _ _ _ _ hmem => absurd hmem not_mem_nil⟩
    · intro op i hi
      have hnil : countedCalls op i ([] : List (TryCall δ)) = [] := by unfold countedCalls; split <;> rfl
      rw [hnil]; exact congrArg UInt16.toNat (OpCounters.getElem_zero hi)
    · intro d op i hi; exact congrArg UInt16.toNat (OpCounters.getElem_zero hi)
  | @call calls s s' c h hv hs ih =>
    cases c with
    | record dh retryType ddcrc tryct => exact ih.record hv hs
    | setMaxtries retryType newMaxtries =>
      obtain ⟨hcounters, hstats⟩ := tryDataSetMaxtries2_keeps hs
      exact ih.concat_of_not (fun _ _ => rfl) (fun _ _ _ => rfl) (fun _ => rfl) rfl hcounters hstats
        fun _ _ _ _ h => by cases h
    | reset retryType =>
      cases hs
      refine ih.reset (fun _ _ => rfl) (fun _ _ _ => rfl) ?_ (fun _ _ _ _ => rfl) fun _ _ _ _ h => by cases h
      intro op i hi
      simp only [counters_tryDataReset2, TryCall.resets, decide_eq_true_eq]
    | resetAll =>
      cases hs
      refine ih.reset (fun _ _ => rfl) (fun _ _ _ => rfl) ?_ (fun _ _ _ _ => rfl) fun _ _ _ _ h => by cases h
      intro op i hi
      simp only [counters_tryDataReset2All, TryCall.resets, true_and]
    | resetTogether =>
      cases hs
      refine ih.reset (fun _ _ => rfl) (fun _ _ _ => rfl) ?_ ?_ fun _ _ _ _ h => by cases h
      · intro op i hi
        simp only [drdResetAllDisplaysTries, counters_tryDataReset2All, TryCall.resets, true_and]
      · intro d op i hi
        simp only [drdResetAllDisplaysTries, OpCounters.getElem_clear, if_pos hi, TryCall.isResetTogether, if_true]

/-! ## Sums -/

theorem sum_records (op : RetryOperation) (c : TryCall δ) (h : ∀ dh retryType ddcrc tryct,
    c = .record dh retryType ddcrc tryct → ∃ i < maxMaxTries + 2, countedAs ddcrc tryct = outcomeAt i) :
    ∑ i ∈ Finset.range (maxMaxTries + 2), (if c.records op (outcomeAt i) then 1 else 0) =
      if c.isOperation op then 1 else 0 := by
  cases c with
  | record dh retryType ddcrc tryct =>
    obtain ⟨j, hj, ho⟩ := h dh retryType ddcrc tryct rfl
    have hone : ∀ i, (outcomeAt j = outcomeAt i) = (j = i) := fun i =>
      propext ⟨outcomeAt_inj, fun heq => congrArg outcomeAt heq⟩
    by_cases hop : retryType = op
    · simp only [TryCall.records, TryCall.isOperation, hop, ho, hone, decide_true, Bool.true_and, decide_eq_true_eq,
        Finset.sum_ite_eq, Finset.mem_range, hj, if_true]
    · simp only [TryCall.records, TryCall.isOperation, hop, decide_false, Bool.false_and, Bool.false_eq_true, if_false,
        Finset.sum_const_zero]
  | setMaxtries | reset | resetAll | resetTogether => exact Finset.sum_const_zero

theorem recorded_cons (op : RetryOperation) (o : CountedAs) (c : TryCall δ) (calls : List (TryCall δ)) :
    recorded op o (c :: calls) = recorded op o calls + if c.records op o then 1 else 0 := countP_cons

theorem sum_recorded (op : RetryOperation) : ∀ calls : List (TryCall δ),
    (∀ dh retryType ddcrc tryct, TryCall.record dh retryType ddcrc tryct ∈ calls →
      ∃ i < maxMaxTries + 2, countedAs ddcrc tryct = outcomeAt i) →
    ∑ i ∈ Finset.range (maxMaxTries + 2), recorded op (outcomeAt i) calls = calls.countP (TryCall.isOperation op)
  | [], _ => Finset.sum_const_zero
  | c :: calls, h => by
    have hc := sum_records op c fun dh retryType ddcrc tryct heq =>
      h dh retryType ddcrc tryct (heq ▸ mem_cons_self)
    have ih := sum_recorded op calls fun dh retryType ddcrc tryct hmem =>
      h dh retryType ddcrc tryct (mem_cons_of_mem c hmem)
    rw [Finset.sum_congr rfl fun i _ => recorded_cons op (outcomeAt i) c calls, Finset.sum_add_distrib, ih, hc,
      countP_cons]

theorem sum_recordsOn [DecidableEq δ] [Fintype δ] (op : RetryOperation) (o : CountedAs) (c : TryCall δ) :
    ∑ d, (if c.recordsOn d op o then 1 else 0) = if c.records op o then 1 else 0 := by
  cases c with
  | record dh retryType ddcrc tryct =>
    simp only [TryCall.recordsOn, TryCall.records]
    by_cases hop : (decide (retryType = op) && decide (countedAs ddcrc tryct = o)) = true
    · simp only [hop, Bool.and_true, decide_eq_true_eq, Finset.sum_ite_eq, Finset.mem_univ, if_true]
    · simp only [Bool.eq_false_iff.2 hop, Bool.and_false, Bool.false_eq_true, if_false, Finset.sum_const_zero]
  | setMaxtries | reset | resetAll | resetTogether => exact Finset.sum_const_zero

theorem sum_recordedOn [DecidableEq δ] [Fintype δ] (op : RetryOperation) (o : CountedAs) : ∀ calls : List (TryCall δ),
    ∑ d, calls.countP (TryCall.recordsOn d op o) = recorded op o calls
  | [] => Finset.sum_const_zero
  | c :: calls => by
    rw [Finset.sum_congr rfl fun d _ => countP_cons, Finset.sum_add_distrib, sum_recordedOn,
      sum_recordsOn, recorded_cons]

theorem total_eq_sum (counters : OpCounters) {f : Nat → Nat}
    (hf : ∀ i (hi : i < maxMaxTries + 2), counters[i].toNat = f i) :
    ∀ (bound : Nat) (h : bound ≤ maxMaxTries + 2), counters.total bound h = ∑ i ∈ Finset.range bound, f i
  | 0, _ => rfl
  | ndx + 1, h => by
    rw [OpCounters.total, Finset.sum_range_succ, total_eq_sum counters hf ndx (Nat.le_of_succ_le h), hf ndx h]

/-! ## Exactly few enough operations -/

theorem recorded_upTo_add_since (op : RetryOperation) (o : CountedAs) (calls : List (TryCall δ)) :
    recorded op o (upToReset op calls) + recorded op o (sinceReset op calls) = recorded op o calls := by
  rw [recorded, recorded, ← countP_append, upToReset, sinceReset, rdropWhile_append_rtakeWhile]; rfl

theorem TriesCounted.counter_iff [DecidableEq δ] (h : TriesCounted calls s) (op : RetryOperation) {i : Nat}
    (hi : i < maxMaxTries + 2) :
    (s.tryData op).counters[i].toNat = recorded op (outcomeAt i) (sinceReset op calls) ↔
      recorded op (outcomeAt i) (sinceReset op calls) < 65536 ∧
        (i = maxMaxTries + 1 → 65536 ∣ recorded op (outcomeAt i) (upToReset op calls)) := by
  rw [h.tryData op i hi, countedCalls]
  have hadd := recorded_upTo_add_since op (outcomeAt i) calls
  by_cases hlast : i < maxMaxTries + 1
  · rw [if_pos hlast]; omega
  · rw [if_neg hlast]; omega

theorem countedOnDisplays_eq (h : ∀ c ∈ calls, c.resets op = true → c.isResetTogether = true) :
    countedOnDisplays calls = sinceReset op calls := by
  induction calls using List.reverseRecOn with
  | nil => rfl
  | append_singleton calls c ih =>
    have hc : c.isResetTogether = c.resets op := by
      cases hr : c.resets op with
      | true => exact h c (mem_append_right _ mem_cons_self) hr
      | false =>
        cases c with
        | resetTogether => cases hr
        | record | setMaxtries | reset | resetAll => rfl
    have ih := ih fun c' hc' => h c' (mem_append_left _ hc')
    rw [sinceReset_concat, countedOnDisplays, rtakeWhile_concat, hc, ← ih]
    cases c.resets op <;> rfl

/-- **The counters are right exactly where few enough operations were recorded.** -/
theorem countersRight_iff [DecidableEq δ] [Fintype δ] {maxtries : RetryOperation → MaxTries} {calls : List (TryCall δ)}
    {s : TryData δ} (h : TryRun maxtries calls s) (op : RetryOperation) :
    CountersRight calls s op ↔ FewOperations calls op := by
  have hc := h.counted
  constructor
  · intro hr
    have hlt : maxMaxTries + 1 < maxMaxTries + 2 := Nat.lt_succ_self _
    exact ⟨fun i hi => ((hc.counter_iff op hi).1 (hr.counters i hi)).1,
      ((hc.counter_iff op hlt).1 (hr.counters _ hlt)).2 rfl⟩
  · intro hf
    have hcounters : ∀ i (hi : i < maxMaxTries + 2),
        (s.tryData op).counters[i].toNat = recorded op (outcomeAt i) (sinceReset op calls) := fun i hi =>
      (hc.counter_iff op hi).2 ⟨hf.since i hi, fun heq => heq ▸ hf.before⟩
    refine ⟨hcounters, ?_, ?_⟩
    · rw [tryDataGetTotalAttempts2, total_eq_sum _ hcounters]
      exact sum_recorded op _ fun dh retryType ddcrc tryct hmem =>
        hc.outcomes dh retryType ddcrc tryct ((rtakeWhile_suffix _ _).subset hmem)
    · intro htog i hi
      rw [hcounters i hi, ← sum_recordedOn]
      refine Finset.sum_congr rfl fun d _ => ?_
      rw [hc.tryStats d op i hi, countedOnDisplays_eq htog]
      -- no display has more than there are in all
      refine Nat.mod_eq_of_lt (Nat.lt_of_le_of_lt ?_ (hf.since i hi))
      refine countP_mono_left fun c _ hon => ?_
      cases c with
      | record dh retryType ddcrc tryct => exact (Bool.and_eq_true_iff.1 hon).2
      | setMaxtries | reset | resetAll | resetTogether => cases hon

/-- **Right**: a success with three tries on the one display, then a reset of another type. -/
theorem countersRight_iff_three : ∃ s, TryRun (δ := Unit) defaultMaxtries
    [.record () .writeReadTriesOp 0 3, .reset .writeOnlyTriesOp] s ∧
      CountersRight [.record () .writeReadTriesOp 0 3, .reset .writeOnlyTriesOp] s .writeReadTriesOp := by
  have hone : TryRun (δ := Unit) defaultMaxtries [.record () .writeReadTriesOp 0 3] _ :=
    TryRun.init.call (fun _ => by decide) rfl
  have htwo : TryRun defaultMaxtries ([.record () .writeReadTriesOp 0 3] ++ [.reset .writeOnlyTriesOp]) _ :=
    hone.call trivial rfl
  exact ⟨_, htwo, (countersRight_iff htwo .writeReadTriesOp).2 ⟨by decide, by decide⟩⟩

def resetAfterFifteen : List (TryCall Unit) :=
  [.setMaxtries .writeReadTriesOp 15, .record () .writeReadTriesOp 0 15, .reset .writeReadTriesOp]

/-- **A success with 15 tries is still counted after the reset.** -/
theorem fifteenTries_not_reset :
    ∃ s, TryRun defaultMaxtries resetAfterFifteen s ∧ ¬ CountersRight resetAfterFifteen s .writeReadTriesOp := by
  refine ⟨_, .call (.call (.call .init ?_ rfl) ?_ rfl) trivial rfl, fun h => ?_⟩
  · exact ⟨by decide, by decide⟩
  · exact fun _ => by decide
  · exact absurd (h.counters (maxMaxTries + 1) (Nat.lt_succ_self _)) (by decide)

end Ddc
