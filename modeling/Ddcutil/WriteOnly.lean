import Ddcutil.Status
import Ddcutil.Kit.Loop
/-!
# WriteOnly — writing a packet with retries

`ddc_write_only` and `ddc_write_only_with_retry` of `ddc_packet_io.c`.
-/
namespace Ddc

open Kit

def ddcWriteOnly (psc : Status) : Option ErrorInfo :=
  if psc ≠ 0 then some (errinfoNew psc "ddc_write_only") else none

structure WriteTries where
  psc : Status
  retryable : Bool
  tryErrors : List ErrorInfo
  tryctr : Nat

def writeTry (write : Nat → Status) (start : Nat) (s : WriteTries) : Exec WriteTries :=
  let curExcp := ddcWriteOnly (write (start + s.tryctr))
  let psc := errinfoStatus curExcp
  if s.tryctr < maxMaxTries then
    .ok ⟨psc, if psc = -eBusy then false else s.retryable, s.tryErrors ++ curExcp.toList, s.tryctr + 1⟩
  else .error .outOfBounds

def finishWriteTries (s : WriteTries) : Exec (Option ErrorInfo) :=
  if s.psc < 0 then
    if s.retryable then .ok (some (errinfoNewWithCauses ddcrcRetries s.tryErrors "ddc_write_only_with_retry"))
    else do
      check (s.tryctr = 1)
      let excp ← fetch s.tryErrors 0
      .ok (some excp)
  else .ok none

def ddcWriteOnlyWithRetry (write : Nat → Status) (maxTries : MaxTries) (start : Nat) :
    Exec (Option ErrorInfo × Nat) := do
  let s ← forWhile (fun s => s.psc < 0 && s.retryable) (writeTry write start) maxTries.val ⟨-999, true, [], 0⟩
  let excp ← finishWriteTries s
  .ok (excp, start + s.tryctr)

/-! ## When a write succeeds -/

def Retried (psc : Status) : Prop := psc < 0 ∧ psc ≠ -eBusy

def WriteSucceeds (write : Nat → Status) (start tries : Nat) : Prop :=
  ∃ k < tries, 0 ≤ write (start + k) ∧ ∀ j < k, Retried (write (start + j))

theorem errinfoStatus_ddcWriteOnly (psc : Status) : errinfoStatus (ddcWriteOnly psc) = psc := by
  unfold ddcWriteOnly
  split
  · rfl
  · rename_i h; exact (not_not.1 h).symm

structure BetweenWrites (write : Nat → Status) (start tries left : Nat) (s : WriteTries) : Prop where
  count : s.tryctr + left = tries
  first : s.tryctr = 0 → s.psc < 0 ∧ s.retryable = true ∧ s.tryErrors = []
  retried : ∀ j, j + 1 < s.tryctr → Retried (write (start + j))
  last : ∀ k, s.tryctr = k + 1 → s.psc = write (start + k) ∧ s.retryable = decide (write (start + k) ≠ -eBusy)
  single : s.tryctr = 1 → s.psc < 0 → s.tryErrors = [errinfoNew s.psc "ddc_write_only"]

theorem writeTry_between {write : Nat → Status} {start left : Nat} {maxTries : MaxTries} {s : WriteTries}
    (hs : BetweenWrites write start maxTries.val (left + 1) s) (hc : (s.psc < 0 && s.retryable) = true) :
    ∃ s', writeTry write start s = .ok s' ∧ BetweenWrites write start maxTries.val left s' := by
  have hct := hs.count
  have hmax := maxTries.le
  rw [Bool.and_eq_true, decide_eq_true_eq] at hc
  obtain ⟨hneg, hretry⟩ := hc
  refine ⟨_, if_pos (by omega), ?_, fun h => absurd h (Nat.succ_ne_zero _), ?_, ?_, ?_⟩
  · simp only
    omega
  · -- the turn is taken only after a try that is retried
    intro j hj
    by_cases hlt : j + 1 < s.tryctr
    · exact hs.retried j hlt
    · obtain ⟨hp, hr⟩ := hs.last j (by simp only at hj; omega)
      rw [hp] at hneg
      rw [hr, decide_eq_true_eq] at hretry; exact ⟨hneg, hretry⟩
  · intro k hk
    obtain rfl : s.tryctr = k := Nat.succ.inj hk
    simp only [errinfoStatus_ddcWriteOnly, hretry, true_and]
    by_cases hb : write (start + s.tryctr) = -eBusy
    · simp [hb]
    · simp [hb]
  · intro h1 hlt
    have h0 : s.tryctr = 0 := Nat.succ.inj h1
    simp only [errinfoStatus_ddcWriteOnly] at hlt ⊢
    rw [(hs.first h0).2.2, List.nil_append, ddcWriteOnly, if_pos (Int.ne_of_lt hlt)]; rfl

/-- **`ddc_write_only_with_retry` returns `NULL` exactly when a try succeeds**; an error it returns has status `RETRIES`
or says that the bus is busy, and a busy bus found by a later try than the first fails an assertion. -/
theorem ddcWriteOnlyWithRetry_cases (write : Nat → Status) (maxTries : MaxTries) (start : Nat) :
    (WriteSucceeds write start maxTries.val ∧ ∃ n, ddcWriteOnlyWithRetry write maxTries start = .ok (none, n)) ∨
    (¬ WriteSucceeds write start maxTries.val ∧
      ((∃ e n, ddcWriteOnlyWithRetry write maxTries start = .ok (some e, n) ∧
          (e.statusCode = ddcrcRetries ∨ e.statusCode = -eBusy)) ∨
        ddcWriteOnlyWithRetry write maxTries start = .error .assertFailed)) := by
  obtain ⟨s, m, hs, hinv, -, hend⟩ := forWhile_inv (c := fun s : WriteTries => s.psc < 0 && s.retryable)
    (I := BetweenWrites write start maxTries.val) (fun _ _ h hc => writeTry_between h hc) maxTries.val
    ⟨-999, true, [], 0⟩
    ⟨Nat.zero_add _, fun _ => ⟨by decide, rfl, rfl⟩, fun j hj => absurd hj (Nat.not_lt_zero _),
      fun k hk => absurd hk (Nat.succ_ne_zero k).symm, fun h => absurd h (Nat.succ_ne_zero 0).symm⟩
  have hct := hinv.count
  have hpos := maxTries.pos
  obtain ⟨k, hk⟩ : ∃ k, s.tryctr = k + 1 := by
    cases h0 : s.tryctr with
    | zero =>
      rcases hend with hm | hc
      · omega
      · obtain ⟨h1, h2, -⟩ := hinv.first h0
        simp [h1, h2] at hc
    | succ k => exact ⟨k, rfl⟩
  obtain ⟨hpsc, hretry⟩ := hinv.last k hk
  have hbefore : ∀ j < k, Retried (write (start + j)) := fun j hj => hinv.retried j (by omega)
  rw [ddcWriteOnlyWithRetry, hs, Exec.ok_bind, finishWriteTries]
  by_cases hneg : s.psc < 0
  · have hno : ¬ WriteSucceeds write start maxTries.val := by
      rintro ⟨i, hi, hok, hall⟩
      rcases Nat.lt_trichotomy i k with hlt | rfl | hgt
      · exact absurd (hbefore i hlt).1 (Int.not_lt.2 hok)
      · rw [hpsc] at hneg; exact absurd hneg (Int.not_lt.2 hok)
      · -- the loop would not have ended at a try that is retried
        have hr : s.retryable = true := by rw [hretry, decide_eq_true_eq]; exact (hall k hgt).2
        rcases hend with hm | hc
        · omega
        · simp [hneg, hr] at hc
    refine .inr ⟨hno, ?_⟩
    rw [if_pos hneg]
    by_cases hr : s.retryable = true
    · rw [if_pos hr, Exec.ok_bind]; exact .inl ⟨_, _, rfl, .inl rfl⟩
    · rw [if_neg hr]
      have hbusy : s.psc = -eBusy := by
        rw [hretry, decide_eq_true_eq, not_not] at hr
        rw [hpsc, hr]
      by_cases h1 : s.tryctr = 1
      · rw [check_pos h1, Exec.ok_bind, hinv.single h1 hneg]; exact .inl ⟨_, _, rfl, .inr hbusy⟩
      · rw [check_neg h1]; exact .inr rfl
  · refine .inl ⟨⟨k, by omega, ?_, hbefore⟩, ?_⟩
    · rw [← hpsc]; exact Int.not_lt.1 hneg
    · rw [if_neg hneg]; exact ⟨_, rfl⟩

end Ddc
