import Mathlib.Data.List.Basic
import Mathlib.Data.List.Nodup
/-!
# StableSort — a stable sort by a comparison function

`sort cmp l` is a stable sort when it permutes `l`, orders it by `cmp` and keeps the order of any two elements that
`cmp` lets stand as they are.
-/
namespace Kit

open List

variable {α : Type}

/-- **A comparison function**: not positive where the first argument may stand in front of the second. -/
structure IsComparison (cmp : α → α → Int) : Prop where
  total : ∀ a b, cmp a b ≤ 0 ∨ cmp b a ≤ 0
  trans : ∀ a b c, cmp a b ≤ 0 → cmp b c ≤ 0 → cmp a c ≤ 0

structure IsStableSort (sort : (α → α → Int) → List α → List α) : Prop where
  perm : ∀ cmp l, (sort cmp l).Perm l
  sorted : ∀ cmp l, IsComparison cmp → (sort cmp l).Pairwise fun a b => cmp a b ≤ 0
  stable : ∀ cmp l a b, IsComparison cmp → [a, b].Sublist l → cmp a b ≤ 0 → [a, b].Sublist (sort cmp l)

theorem mergeSort_isStableSort :
    IsStableSort fun (cmp : α → α → Int) (l : List α) => l.mergeSort fun a b => decide (cmp a b ≤ 0) where
  perm _ l := mergeSort_perm l _
  sorted cmp l h := by
    refine (pairwise_mergeSort ?_ ?_ l).imp fun hab => of_decide_eq_true hab
    · intro a b c hab hbc
      exact decide_eq_true (h.trans a b c (of_decide_eq_true hab) (of_decide_eq_true hbc))
    · intro a b
      rw [Bool.or_eq_true, decide_eq_true_eq, decide_eq_true_eq]; exact h.total a b
  stable cmp l a b h hl hab := by
    refine pair_sublist_mergeSort ?_ ?_ (decide_eq_true hab) hl
    · intro a b c hab hbc
      exact decide_eq_true (h.trans a b c (of_decide_eq_true hab) (of_decide_eq_true hbc))
    · intro a b
      rw [Bool.or_eq_true, decide_eq_true_eq, decide_eq_true_eq]; exact h.total a b

theorem pair_sublist_or {l : List α} {a b : α} (ha : a ∈ l) (hb : b ∈ l) (hne : a ≠ b) :
    [a, b].Sublist l ∨ [b, a].Sublist l := by
  induction l with
  | nil => exact absurd ha not_mem_nil
  | cons c l ih =>
    rcases mem_cons.1 ha with rfl | ha'
    · rcases mem_cons.1 hb with rfl | hb'
      · exact absurd rfl hne
      · exact .inl ((singleton_sublist.2 hb').cons_cons a)
    · rcases mem_cons.1 hb with rfl | hb'
      · exact .inr ((singleton_sublist.2 ha').cons_cons b)
      · exact (ih ha' hb').imp (fun h => h.cons c) fun h => h.cons c

theorem not_pair_sublist_both {l : List α} {a b : α} (hl : l.Nodup) (hab : [a, b].Sublist l) : ¬ [b, a].Sublist l := by
  induction l with
  | nil => cases hab
  | cons c l ih =>
    obtain ⟨hc, hl'⟩ := nodup_cons.1 hl
    intro hba
    cases hab with
    | cons _ hab' =>
      cases hba with
      | cons _ hba' => exact ih hl' hab' hba'
      | cons_cons _ hba' => exact hc (hab'.subset (mem_cons_of_mem a mem_cons_self))
    | cons_cons _ hab' =>
      cases hba with
      | cons _ hba' => exact hc (hba'.subset (mem_cons_of_mem b mem_cons_self))
      | cons_cons _ hba' => exact hc (singleton_sublist.1 hab')

theorem IsStableSort.pairwise_iff {sort : (α → α → Int) → List α → List α} (hsort : IsStableSort sort)
    {cmp : α → α → Int} (hcmp : IsComparison cmp) {R : α → α → Prop} {l : List α} (hl : l.Nodup) :
    (sort cmp l).Pairwise R ↔ l.Pairwise fun a b => if cmp a b ≤ 0 then R a b else R b a := by
  have hnodup : (sort cmp l).Nodup := (hsort.perm cmp l).nodup_iff.2 hl
  have hsorted : ∀ {a b}, [a, b].Sublist (sort cmp l) → cmp a b ≤ 0 :=
    pairwise_iff_forall_sublist.1 (hsort.sorted cmp l hcmp)
  have hmem : ∀ {a}, a ∈ sort cmp l ↔ a ∈ l := (hsort.perm cmp l).mem_iff
  have hneq : ∀ {m : List α} {a b : α}, m.Nodup → [a, b].Sublist m → a ≠ b := by
    intro m a b hm h heq
    rw [heq] at h; exact not_pair_sublist_both hm h h
  rw [pairwise_iff_forall_sublist, pairwise_iff_forall_sublist]
  constructor
  · intro h a b hab
    split
    · rename_i hle; exact h (hsort.stable cmp l a b hcmp hab hle)
    · rename_i hnle
      have ha : a ∈ sort cmp l := hmem.2 (hab.subset mem_cons_self)
      have hb : b ∈ sort cmp l := hmem.2 (hab.subset (mem_cons_of_mem a mem_cons_self))
      rcases pair_sublist_or ha hb (hneq hl hab) with hfront | hback
      · exact absurd (hsorted hfront) hnle
      · exact h hback
  · intro h a b hab
    have hle := hsorted hab
    have ha : a ∈ l := hmem.1 (hab.subset mem_cons_self)
    have hb : b ∈ l := hmem.1 (hab.subset (mem_cons_of_mem a mem_cons_self))
    rcases pair_sublist_or ha hb (hneq hnodup hab) with hfront | hback
    · have hR := h hfront
      rwa [if_pos hle] at hR
    · have hR := h hback
      by_cases hle' : cmp b a ≤ 0
      · exact absurd (hsort.stable cmp l b a hcmp hback hle') (not_pair_sublist_both hnodup hab)
      · rwa [if_neg hle'] at hR

end Kit
