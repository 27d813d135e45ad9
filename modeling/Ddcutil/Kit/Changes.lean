import Mathlib.Data.Finset.SDiff
/-!
# Changes — a set followed by reports of what came and what went

Who stores a set and reports only how it changes can be followed by who applies the reports: `Change.between` is the
report from one set to the next, `follow` the reports along a list of sets.
-/
namespace Kit

open List

variable {α : Type} [DecidableEq α]

structure Change (α : Type) where
  removed : Finset α
  added : Finset α

theorem sdiff_eq_empty_both {old new : Finset α} : old \ new = ∅ ∧ new \ old = ∅ ↔ old = new := by
  rw [Finset.sdiff_eq_empty_iff_subset, Finset.sdiff_eq_empty_iff_subset]
  exact ⟨fun h => Finset.Subset.antisymm h.1 h.2, fun h => h ▸ ⟨Finset.Subset.rfl, Finset.Subset.rfl⟩⟩

namespace Change

def between (old new : Finset α) : Option (Change α) :=
  if old \ new = ∅ ∧ new \ old = ∅ then none else some ⟨old \ new, new \ old⟩

def apply (c : Change α) (s : Finset α) : Finset α := (s ∪ c.added) \ c.removed

structure Fits (c : Change α) (s : Finset α) : Prop where
  added : Disjoint c.added s
  removed : c.removed ⊆ s

def applyReport (s : Finset α) : Option (Change α) → Finset α
  | none => s
  | some c => c.apply s

theorem applyReport_between (old new : Finset α) : applyReport old (between old new) = new := by
  unfold between
  split
  · rename_i h; exact sdiff_eq_empty_both.1 h
  · change (old ∪ new \ old) \ (old \ new) = new
    ext a
    simp only [Finset.mem_sdiff, Finset.mem_union]
    tauto

theorem between_eq_none {old new : Finset α} : between old new = none ↔ old = new := by
  unfold between
  simp only [sdiff_eq_empty_both]
  split
  · rename_i h; exact ⟨fun _ => h, fun _ => rfl⟩
  · rename_i h; exact ⟨(fun hnone => nomatch hnone), fun heq => absurd heq h⟩

theorem fits_of_between {old new : Finset α} {c : Change α} (h : between old new = some c) : c.Fits old := by
  unfold between at h
  split at h
  · cases h
  · cases h; exact ⟨disjoint_sdiff_self_left, Finset.sdiff_subset⟩

def follow : Finset α → List (Finset α) → List (Option (Change α))
  | _, [] => []
  | s, t :: ts => between s t :: follow t ts

theorem foldl_follow (s : Finset α) (ts : List (Finset α)) :
    (follow s ts).foldl applyReport s = (s :: ts).getLast (cons_ne_nil s ts) := by
  induction ts generalizing s with
  | nil => rfl
  | cons t ts ih =>
    rw [follow, foldl_cons, applyReport_between, ih, getLast_cons (cons_ne_nil t ts)]

end Change

end Kit
