import Mathlib.Data.List.Basic
import Mathlib.Tactic.Common
/-!
# Parity — check values that tell of a single change

A list is folded with a commutative operation that can be cancelled, as XOR and sums modulo a number can.
-/
namespace Kit

open List

variable {α : Type} {op : α → α → α} [Std.Associative op] [Std.Commutative op]

theorem foldl_split (a b : α) (l₁ l₂ : List α) :
    (l₁ ++ b :: l₂).foldl op a = op b (l₂.foldl op (l₁.foldl op a)) := by
  have hcomm : op (l₁.foldl op a) b = op b (l₁.foldl op a) := Std.Commutative.comm _ _
  rw [foldl_append, foldl_cons, hcomm, foldl_assoc]

/-- **One element that is changed changes the value**, whatever it is changed to. -/
theorem getElem_eq_of_foldl_set (hcancel : ∀ a b c, op a c = op b c → a = b) {l : List α} {i : Nat} (hi : i < l.length)
    {a x : α} (h : (l.set i x).foldl op a = l.foldl op a) : l[i] = x := by
  have hl : l = l.take i ++ l[i] :: l.drop (i + 1) := by rw [getElem_cons_drop, take_append_drop]
  have hset : l.set i x = l.take i ++ x :: l.drop (i + 1) := set_eq_take_append_cons_drop.trans (if_pos hi)
  rw [hset, foldl_split] at h
  have hold := congrArg (foldl op a) hl
  rw [foldl_split] at hold
  exact (hcancel _ _ _ (h.trans hold)).symm

end Kit
