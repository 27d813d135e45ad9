import Mathlib.Data.List.Induction
import Mathlib.Tactic.Common
/-!
# Nesting — which opening elements of a list are still open

The elements of a list that open are numbered from 1.  `stillOpen` are the numbers of those that nothing closed, the
innermost first; a closing element with nothing open closes nothing.
-/
namespace Kit

open List

variable {α : Type}

def placesFrom : List α → List α → List (List α × α)
  | _, [] => []
  | pre, a :: l => (pre, a) :: placesFrom (pre ++ [a]) l

def places (l : List α) : List (List α × α) := placesFrom [] l

theorem placesFrom_append (pre l m : List α) :
    placesFrom pre (l ++ m) = placesFrom pre l ++ placesFrom (pre ++ l) m := by
  induction l generalizing pre with
  | nil => rw [nil_append, append_nil]; rfl
  | cons a l ih =>
    rw [cons_append, placesFrom, ih, append_assoc, singleton_append]; rfl

variable (l : List α)

theorem places_concat (a : α) : places (l ++ [a]) = places l ++ [(l, a)] := by
  rw [places, placesFrom_append, nil_append]; rfl

theorem mem_places {l pre : List α} {a : α} : (pre, a) ∈ places l ↔ ∃ post, l = pre ++ a :: post := by
  induction l using List.reverseRecOn with
  | nil =>
    refine ⟨fun h => absurd h not_mem_nil, ?_⟩
    rintro ⟨post, h⟩
    cases pre <;> cases h
  | append_singleton l b ih =>
    rw [places_concat, mem_append, ih, mem_singleton, Prod.mk.injEq]
    constructor
    · rintro (⟨post, rfl⟩ | ⟨rfl, rfl⟩)
      · exact ⟨post ++ [b], by rw [append_assoc, cons_append]⟩
      · exact ⟨[], rfl⟩
    · rintro ⟨post, h⟩
      induction post using List.reverseRecOn with
      | nil =>
        obtain ⟨rfl, hb⟩ := append_inj' h rfl
        cases hb; exact .inr ⟨rfl, rfl⟩
      | append_singleton post c _ =>
        rw [← cons_append, ← append_assoc] at h; exact .inl ⟨post, (append_inj' h rfl).1⟩

/-! ## What is open -/

variable (opn cls : α → Bool)

def openStep (s : Nat × List Nat) (a : α) : Nat × List Nat :=
  if opn a then (s.1 + 1, (s.1 + 1) :: s.2) else if cls a then (s.1, s.2.tail) else s

def stillOpen (l : List α) : List Nat := (l.foldl (openStep opn cls) (0, [])).2

def innermost (l : List α) : Nat := (stillOpen opn cls l).headD 0

variable {opn cls}

variable (opn cls) in
theorem foldl_openStep_fst (s : Nat × List Nat) : (l.foldl (openStep opn cls) s).1 = s.1 + l.countP opn := by
  induction l using List.reverseRecOn with
  | nil => rfl
  | append_singleton l a ih =>
    rw [foldl_append, countP_append, countP_singleton, foldl_cons, foldl_nil, openStep]
    split
    · rw [ih, Nat.add_assoc]
    · rw [Nat.add_zero, ← ih]
      split <;> rfl

theorem stillOpen_concat (a : α) :
    stillOpen opn cls (l ++ [a]) =
      if opn a then (l.countP opn + 1) :: stillOpen opn cls l
      else if cls a then (stillOpen opn cls l).tail else stillOpen opn cls l := by
  have hfst : (l.foldl (openStep opn cls) (0, [])).1 = l.countP opn := by
    rw [foldl_openStep_fst, Nat.zero_add]
  rw [stillOpen, foldl_append, foldl_cons, foldl_nil, openStep, hfst]
  split
  · rfl
  · split <;> rfl

theorem stillOpen_range {l : List α} : ∀ c ∈ stillOpen opn cls l, 0 < c ∧ c ≤ l.countP opn := by
  induction l using List.reverseRecOn with
  | nil => exact fun c hc => absurd hc not_mem_nil
  | append_singleton l a ih =>
    intro c hc
    rw [stillOpen_concat] at hc
    rw [countP_append, countP_singleton]
    split at hc
    · rename_i h
      rw [if_pos h]
      rcases mem_cons.1 hc with rfl | hc
      · omega
      · have := ih c hc
        omega
    · have hold : c ∈ stillOpen opn cls l := by
        split at hc
        · exact mem_of_mem_tail hc
        · exact hc
      have := ih c hold
      omega

theorem innermost_le : innermost opn cls l ≤ l.countP opn := by
  unfold innermost
  cases h : stillOpen opn cls l with
  | nil => exact Nat.zero_le _
  | cons c cs => exact (stillOpen_range c (h ▸ mem_cons_self)).2

end Kit
