import Mathlib.Data.Finset.Card
/-!
# Mutex — sections that a mutex guards, and counters of the threads in a section

A mutex is the thread that holds it.  What a thread does with it in one step is to leave it, to lock it when it is
free or to unlock it at the end of the section; `Guarded` says that only the holder is in the section, so that two
threads are never in it.
-/
namespace Kit

variable {T : Type}

def Guarded (mutex : Option T) (inside : T → Prop) : Prop := ∀ t, inside t → mutex = some t

theorem Guarded.unique {mutex : Option T} {inside : T → Prop} (h : Guarded mutex inside) {t u : T} (ht : inside t)
    (hu : inside u) : t = u := Option.some.inj ((h t ht).symm.trans (h u hu))

/-- **What a thread does with a mutex in one step**, from being in the section or not to being in it or not. -/
inductive MutexStep (t : T) : Option T → Prop → Option T → Prop → Prop
  | keep {mutex : Option T} {p p' : Prop} (h : p' → p) : MutexStep t mutex p mutex p'
  | lock {p p' : Prop} : MutexStep t none p (some t) p'
  | unlock {mutex : Option T} {p p' : Prop} (h : p) (h' : ¬ p') : MutexStep t mutex p none p'

theorem Guarded.step {mutex mutex' : Option T} {inside inside' : T → Prop} (h : Guarded mutex inside) {t : T}
    (hothers : ∀ u, u ≠ t → inside' u → inside u) (hstep : MutexStep t mutex (inside t) mutex' (inside' t)) :
    Guarded mutex' inside' := by
  intro u hu
  by_cases hut : u = t
  · subst hut
    cases hstep with
    | keep himp => exact h u (himp hu)
    | lock => rfl
    | unlock _ hout => exact absurd hu hout
  · have hu' := h u (hothers u hut hu)
    cases hstep with
    | keep _ => exact hu'
    | lock => cases hu'
    | unlock hin _ => exact absurd (Option.some.inj (hu'.symm.trans (h t hin))) hut

/-! ## Counters -/

def Counts (n : Nat) (inside : T → Prop) : Prop := ∃ S : Finset T, (∀ t, t ∈ S ↔ inside t) ∧ S.card = n

inductive CountStep : Nat → Prop → Nat → Prop → Prop
  | keep {n : Nat} {p p' : Prop} (h : p' ↔ p) : CountStep n p n p'
  | enter {n : Nat} {p p' : Prop} (h : ¬ p) (h' : p') : CountStep n p (n + 1) p'
  | leave {n : Nat} {p p' : Prop} (h : p) (h' : ¬ p') : CountStep n p (if 0 < n then n - 1 else n) p'

theorem Counts.zero {inside : T → Prop} (h : Counts 0 inside) (t : T) : ¬ inside t := by
  obtain ⟨S, hmem, hcard⟩ := h
  rw [← hmem, Finset.card_eq_zero.1 hcard]; exact Finset.notMem_empty t

theorem Counts.eq_zero {n : Nat} {inside : T → Prop} (h : Counts n inside) (hnone : ∀ t, ¬ inside t) : n = 0 := by
  obtain ⟨S, hmem, hcard⟩ := h
  rw [← hcard, Finset.card_eq_zero]
  exact Finset.eq_empty_of_forall_notMem fun t ht => hnone t ((hmem t).1 ht)

theorem Counts.eq_one {n : Nat} {inside : T → Prop} (h : Counts n inside)
    (hunique : ∀ t u, inside t → inside u → t = u) {t : T} (ht : inside t) : n = 1 := by
  obtain ⟨S, hmem, hcard⟩ := h
  rw [← hcard, Finset.card_eq_one]
  refine ⟨t, Finset.eq_singleton_iff_unique_mem.2 ⟨(hmem t).2 ht, fun u hu => ?_⟩⟩
  exact hunique u t ((hmem u).1 hu) ht

theorem counts_none : Counts 0 fun _ : T => False := ⟨∅, fun t => by simp, Finset.card_empty⟩

theorem Counts.step [DecidableEq T] {n n' : Nat} {inside inside' : T → Prop} (h : Counts n inside) {t : T}
    (hothers : ∀ u, u ≠ t → (inside' u ↔ inside u)) (hstep : CountStep n (inside t) n' (inside' t)) :
    Counts n' inside' := by
  obtain ⟨S, hmem, hcard⟩ := h
  cases hstep with
  | keep hiff =>
    refine ⟨S, fun u => ?_, hcard⟩
    by_cases hut : u = t
    · rw [hut, hmem, hiff]
    · rw [hmem, hothers u hut]
  | enter hout hin =>
    have hnot : t ∉ S := fun ht => hout ((hmem t).1 ht)
    refine ⟨insert t S, fun u => ?_, by rw [Finset.card_insert_of_notMem hnot, hcard]⟩
    by_cases hut : u = t
    · rw [hut]; exact iff_of_true (Finset.mem_insert_self t S) hin
    · rw [Finset.mem_insert, hmem, hothers u hut]; exact or_iff_right hut
  | leave hin hout =>
    have ht : t ∈ S := (hmem t).2 hin
    have hpos : 0 < n := hcard ▸ Finset.card_pos.2 ⟨t, ht⟩
    refine ⟨S.erase t, fun u => ?_, by rw [Finset.card_erase_of_mem ht, hcard, if_pos hpos]⟩
    by_cases hut : u = t
    · rw [hut]; exact iff_of_false (Finset.notMem_erase t S) hout
    · rw [Finset.mem_erase, hmem, hothers u hut]; exact and_iff_right hut

end Kit
