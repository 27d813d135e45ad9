import Ddcutil.Kit.Exec
/-!
# Runs — the states a component can reach

A component is a step function that may fault, the states it starts in and, in each state, the calls its callers are
allowed to make.
-/
namespace Kit

variable {σ ι : Type}

/-- **The states that runs of allowed calls reach.** -/
inductive Reachable (start : σ → Prop) (callable : σ → ι → Prop) (step : σ → ι → Exec σ) : σ → Prop
  | start {s : σ} (h : start s) : Reachable start callable step s
  | step {s s' : σ} {i : ι} (h : Reachable start callable step s) (hc : callable s i) (hs : step s i = .ok s') :
      Reachable start callable step s'

variable {start : σ → Prop} {callable : σ → ι → Prop} {step : σ → ι → Exec σ} {Inv : σ → Prop}

theorem Reachable.run {l : List ι} (hl : ∀ i ∈ l, ∀ s, callable s i) :
    ∀ {s s' : σ}, Reachable start callable step s → l.foldlM step s = .ok s' → Reachable start callable step s' := by
  induction l with
  | nil =>
    intro s s' h hs
    cases hs; exact h
  | cons i l ih =>
    intro s s' h hs
    obtain ⟨t, ht, hs⟩ := Exec.bind_eq_ok.1 hs
    exact ih (fun j hj => hl j (List.mem_cons_of_mem i hj)) (.step h (hl i List.mem_cons_self s) ht) hs

theorem Reachable.keeps (hstart : ∀ s, start s → Inv s)
    (hstep : ∀ s i s', Inv s → callable s i → step s i = .ok s' → Inv s') {s : σ}
    (h : Reachable start callable step s) : Inv s := by
  induction h with
  | start h => exact hstart _ h
  | step _ hc hs ih => exact hstep _ _ _ ih hc hs

theorem Reachable.inv (hstart : ∀ s, start s → Inv s)
    (hstep : ∀ s i, Inv s → callable s i → ∃ s', step s i = .ok s' ∧ Inv s') {s : σ}
    (h : Reachable start callable step s) : Inv s := by
  refine h.keeps hstart fun s i s' hinv hc hs => ?_
  obtain ⟨t, ht, hinv'⟩ := hstep s i hinv hc
  rw [hs] at ht
  cases ht; exact hinv'

/-- **Safety of all runs**: the invariant holds in every reachable state and no allowed call faults there. -/
theorem Reachable.safe (hstart : ∀ s, start s → Inv s)
    (hstep : ∀ s i, Inv s → callable s i → ∃ s', step s i = .ok s' ∧ Inv s') {s : σ}
    (h : Reachable start callable step s) : Inv s ∧ ∀ i, callable s i → ∃ s', step s i = .ok s' := by
  have hinv := h.inv hstart hstep
  refine ⟨hinv, fun i hc => ?_⟩
  obtain ⟨s', hs', -⟩ := hstep s i hinv hc
  exact ⟨s', hs'⟩

/-! ## Along one run -/

/-- **What holds of every call of a run**, in the state in which it is made; a run ends at its first fault. -/
def AllAlong (step : σ → ι → Exec σ) (P : σ → ι → Prop) : σ → List ι → Prop
  | _, [] => True
  | s, i :: l => P s i ∧ ∀ t, step s i = .ok t → AllAlong step P t l

theorem AllAlong.cons {P : σ → ι → Prop} {s t : σ} {i : ι} {l : List ι} (h : P s i) (hs : step s i = .ok t)
    (hrest : AllAlong step P t l) : AllAlong step P s (i :: l) := by
  refine ⟨h, fun u hu => ?_⟩
  rw [hs] at hu
  cases hu; exact hrest

/-- **A property that gives another where an invariant holds**, and keeps the invariant, gives it along a run on whose
calls something is assumed. -/
theorem AllAlong.imp_of {A P Q : σ → ι → Prop} {l : List ι} (himp : ∀ s i, Inv s → A s i → P s i → Q s i)
    (hkeep : ∀ s i s', Inv s → A s i → P s i → step s i = .ok s' → Inv s') :
    ∀ {s : σ}, Inv s → AllAlong step A s l → AllAlong step P s l → AllAlong step Q s l := by
  induction l with
  | nil => exact fun _ _ _ => trivial
  | cons i l ih =>
    rintro s hinv ⟨ha, hassumed⟩ ⟨hp, hrest⟩
    exact ⟨himp s i hinv ha hp, fun t ht => ih (hkeep s i t hinv ha hp ht) (hassumed t ht) (hrest t ht)⟩

theorem AllAlong.of_true {l : List ι} : ∀ {s : σ}, AllAlong step (fun _ _ => True) s l := by
  induction l with
  | nil => exact fun {_} => trivial
  | cons i l ih => exact fun {_} => ⟨trivial, fun _ _ => ih⟩

theorem AllAlong.imp_of_inv {P Q : σ → ι → Prop} {l : List ι} {s : σ} (h : AllAlong step P s l)
    (himp : ∀ s i, Inv s → P s i → Q s i) (hkeep : ∀ s i s', Inv s → P s i → step s i = .ok s' → Inv s')
    (hinv : Inv s) : AllAlong step Q s l :=
  AllAlong.imp_of (fun s i hinv _ hp => himp s i hinv hp) (fun s i s' hinv _ hp hs => hkeep s i s' hinv hp hs) hinv
    AllAlong.of_true h

/-- **Two properties that agree where an invariant holds** agree along a run on whose calls something is assumed, if one
of them keeps the invariant. -/
theorem AllAlong.congr_of {A P Q : σ → ι → Prop} {l : List ι} (hiff : ∀ s i, Inv s → A s i → (P s i ↔ Q s i))
    (hkeep : ∀ s i s', Inv s → A s i → P s i → step s i = .ok s' → Inv s') {s : σ} (hinv : Inv s)
    (hassumed : AllAlong step A s l) : AllAlong step P s l ↔ AllAlong step Q s l := by
  constructor
  · exact AllAlong.imp_of (fun s i hinv ha hp => (hiff s i hinv ha).1 hp) hkeep hinv hassumed
  · refine AllAlong.imp_of (fun s i hinv ha hq => (hiff s i hinv ha).2 hq) (fun s i s' hinv ha hq hs => ?_) hinv hassumed
    exact hkeep s i s' hinv ha ((hiff s i hinv ha).2 hq) hs

theorem AllAlong.congr {P Q : σ → ι → Prop} (hiff : ∀ s i, Inv s → (P s i ↔ Q s i))
    (hkeep : ∀ s i s', Inv s → P s i → step s i = .ok s' → Inv s') {l : List ι} {s : σ} (hinv : Inv s) :
    AllAlong step P s l ↔ AllAlong step Q s l :=
  AllAlong.congr_of (fun s i hinv _ => hiff s i hinv) (fun s i s' hinv _ hp hs => hkeep s i s' hinv hp hs) hinv
    AllAlong.of_true

theorem AllAlong.congr_of_returns {P Q : σ → ι → Prop} (hiff : ∀ s i, Inv s → (P s i ↔ Q s i))
    (hstep : ∀ s i, Inv s → Q s i → ∃ t, step s i = .ok t ∧ Inv t) {l : List ι} {s : σ} (hinv : Inv s) :
    AllAlong step P s l ↔ AllAlong step Q s l := by
  refine AllAlong.congr hiff (fun s i t hinv hp hs => ?_) hinv
  obtain ⟨u, hu, hkept⟩ := hstep s i hinv ((hiff s i hinv).1 hp)
  rw [hs] at hu
  cases hu; exact hkept

theorem AllAlong.last {P : σ → ι → Prop} {l : List ι} {i : ι} : ∀ {s t : σ}, AllAlong step P s (l ++ [i]) →
    l.foldlM step s = .ok t → P t i := by
  induction l with
  | nil =>
    intro s t h hs
    cases hs; exact h.1
  | cons j l ih =>
    intro s t h hs
    obtain ⟨u, hu, hs⟩ := Exec.bind_eq_ok.1 hs
    exact ih (h.2 u hu) hs

end Kit
