import Ddcutil.Kit.Exec
/-!
# Loop — a loop with a bounded number of turns

`forWhile cond body n s` is the C loop that runs `body` on the state while `cond` holds, at most `n` times.  The rule
for it is the invariant rule, with the number of turns left as an argument of the invariant.
-/
namespace Kit

variable {σ : Type}

def forWhile (cond : σ → Bool) (body : σ → Exec σ) : Nat → σ → Exec σ
  | 0, s => .ok s
  | left + 1, s => if cond s then body s >>= forWhile cond body left else .ok s

variable {c : σ → Bool} {b : σ → Exec σ} {s s' : σ} {good bad : Nat → Prop} {ndx left : Nat}

theorem forWhile_stop (h : c s = false) :
    ∀ left, forWhile c b left s = .ok s
  | 0 => rfl
  | left + 1 => by simp [forWhile, h]

theorem forWhile_step (left : Nat) (hc : c s = true) (hb : b s = .ok s') :
    forWhile c b (left + 1) s = forWhile c b left s' := by
  simp [forWhile, hc, hb]

theorem forWhile_fault {e : Fault} (left : Nat) (hc : c s = true) (hb : b s = .error e) :
    forWhile c b (left + 1) s = .error e := by
  simp [forWhile, hc, hb]

theorem forWhile_add (n : Nat) : ∀ (m : Nat) (s : σ),
    forWhile c b (m + n) s = forWhile c b m s >>= forWhile c b n
  | 0, s => by rw [Nat.zero_add]; rfl
  | m + 1, s => by
    cases hc : c s with
    | false => rw [forWhile_stop hc, forWhile_stop hc, Exec.ok_bind, forWhile_stop hc]
    | true =>
      rw [Nat.succ_add]
      cases hb : b s with
      | error e => rw [forWhile_fault _ hc hb, forWhile_fault _ hc hb, Exec.error_bind]
      | ok s' => rw [forWhile_step _ hc hb, forWhile_step _ hc hb, forWhile_add]

theorem forWhile_rel {R : σ → σ → Prop} (hrefl : ∀ s, R s s) (htrans : ∀ {s t u}, R s t → R t u → R s u)
    (hbody : ∀ {s t}, b s = .ok t → R s t) :
    ∀ (n : Nat) {s t : σ}, forWhile c b n s = .ok t → R s t
  | 0, s, t, h => by cases h; exact hrefl s
  | n + 1, s, t, h => by
    cases hc : c s with
    | false =>
      rw [forWhile_stop hc] at h
      cases h; exact hrefl s
    | true =>
      cases hb : b s with
      | error e =>
        rw [forWhile_fault n hc hb] at h; cases h
      | ok s' =>
        rw [forWhile_step n hc hb] at h
        exact htrans (hbody hb) (forWhile_rel hrefl htrans hbody n h)

/-- **The invariant rule**: a body that never faults on an invariant state and takes it to the invariant with one turn
less left gives a loop that never faults; it ends with no turn left or with the condition false. -/
theorem forWhile_inv {I : Nat → σ → Prop}
    (hbody : ∀ left s, I (left + 1) s → c s = true → ∃ s', b s = .ok s' ∧ I left s') :
    ∀ (left : Nat) (s : σ), I left s →
      ∃ s' m, forWhile c b left s = .ok s' ∧ I m s' ∧ m ≤ left ∧ (m = 0 ∨ c s' = false)
  | 0, s, hs => ⟨s, 0, rfl, hs, Nat.le_refl 0, .inl rfl⟩
  | left + 1, s, hs => by
    cases hc : c s with
    | false => exact ⟨s, left + 1, forWhile_stop hc _, hs, Nat.le_refl _, .inr hc⟩
    | true =>
      obtain ⟨s', hs', hinv⟩ := hbody left s hs hc
      obtain ⟨t, m, ht, hm, hle, hend⟩ := forWhile_inv hbody left s' hinv
      exact ⟨t, m, by rw [forWhile_step left hc hs', ht], hm, Nat.le_succ_of_le hle, hend⟩

theorem forWhile_keeps {I : Nat → σ → Prop}
    (hbody : ∀ left s s', I (left + 1) s → c s = true → b s = .ok s' → I left s') :
    ∀ {left : Nat} {s t : σ}, forWhile c b left s = .ok t → I left s →
      ∃ m, I m t ∧ m ≤ left ∧ (m = 0 ∨ c t = false)
  | 0, s, t, h, hs => by cases h; exact ⟨0, hs, Nat.le_refl 0, .inl rfl⟩
  | left + 1, s, t, h, hs => by
    cases hc : c s with
    | false =>
      rw [forWhile_stop hc] at h
      cases h; exact ⟨left + 1, hs, Nat.le_refl _, .inr hc⟩
    | true =>
      cases hb : b s with
      | error e =>
        rw [forWhile_fault left hc hb] at h; cases h
      | ok s' =>
        rw [forWhile_step left hc hb] at h
        obtain ⟨m, hm, hle, hend⟩ := forWhile_keeps hbody h (hbody left s s' hs hc hb)
        exact ⟨m, hm, Nat.le_succ_of_le hle, hend⟩

/-- The C loop itself: `fuel` bounds the turns a proof has to justify, and a loop that needs more of them does not end. -/
def whileLoop (cond : σ → Bool) (body : σ → Exec σ) (fuel : Nat) (s : σ) : Exec σ := do
  let t ← forWhile cond body fuel s
  if cond t then .error .outOfFuel else .ok t

theorem whileLoop_stop (h : c s = false) (fuel : Nat) : whileLoop c b fuel s = .ok s := by
  simp [whileLoop, forWhile_stop h, h]

theorem whileLoop_step (fuel : Nat) (hc : c s = true) (hb : b s = .ok s') :
    whileLoop c b (fuel + 1) s = whileLoop c b fuel s' := by
  rw [whileLoop, forWhile_step fuel hc hb]; rfl

theorem whileLoop_fault {e : Fault} (fuel : Nat) (hc : c s = true) (hb : b s = .error e) :
    whileLoop c b (fuel + 1) s = .error e := by
  rw [whileLoop, forWhile_fault fuel hc hb]; rfl

theorem whileLoop_last (fuel : Nat) (hc : c s = true) (hb : b s = .ok s') (hstop : c s' = false) :
    whileLoop c b (fuel + 1) s = .ok s' :=
  (whileLoop_step fuel hc hb).trans (whileLoop_stop hstop fuel)

/-- **Of some indexes from `ndx` on, the first that is not good is one that is bad.** -/
def FirstBad (good bad : Nat → Prop) (ndx left : Nat) : Prop := ∃ j < left, (∀ i < j, good (ndx + i)) ∧ bad (ndx + j)

theorem firstBad_succ : FirstBad good bad ndx (left + 1) ↔ bad ndx ∨ good ndx ∧ FirstBad good bad (ndx + 1) left := by
  constructor
  · rintro ⟨j, hj, hgood, hbad⟩
    cases j with
    | zero => exact .inl hbad
    | succ j =>
      refine .inr ⟨hgood 0 (Nat.succ_pos j), j, by omega, fun i hi => ?_, ?_⟩
      · have hnext := hgood (i + 1) (by omega)
        rwa [show ndx + (i + 1) = ndx + 1 + i by omega] at hnext
      · rwa [show ndx + (j + 1) = ndx + 1 + j by omega] at hbad
  · rintro (hbad | ⟨hfirst, j, hj, hgood, hbad⟩)
    · exact ⟨0, Nat.succ_pos left, fun i hi => absurd hi (Nat.not_lt_zero i), hbad⟩
    · refine ⟨j + 1, by omega, fun i hi => ?_, ?_⟩
      · cases i with
        | zero => exact hfirst
        | succ i =>
          have hnext := hgood i (by omega)
          rwa [show ndx + 1 + i = ndx + (i + 1) by omega] at hnext
      · rwa [show ndx + 1 + j = ndx + (j + 1) by omega] at hbad

theorem firstBad_of_good (hgood : good ndx) (hbad : ¬ bad ndx) :
    FirstBad good bad ndx (left + 1) ↔ FirstBad good bad (ndx + 1) left := by
  rw [firstBad_succ]; exact ⟨fun h => (h.resolve_left hbad).2, fun h => .inr ⟨hgood, h⟩⟩

theorem firstBad_of_not_good (hgood : ¬ good ndx) : FirstBad good bad ndx (left + 1) ↔ bad ndx := by
  rw [firstBad_succ]; exact or_iff_left fun h => hgood h.1

end Kit
