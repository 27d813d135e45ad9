import Mathlib.Data.List.TakeDrop
import Mathlib.Tactic.Common
/-!
# RingBuffer — a circular buffer that keeps the latest values

`RingBuffer α` is the usual array with a count of cells in use and a position of the next write.  Its fields say how
the three belong together: while the ring is not full the next write goes to the first unused cell.
-/
namespace Kit

open List

/-- **A circular buffer**: `ct` of the cells are in use and the next value goes to `nextpos`. -/
structure RingBuffer (α : Type) where
  cells : List α
  ct : Nat
  nextpos : Nat
  inCells : nextpos < cells.length
  ctLe : ct ≤ cells.length
  fillsUp : ct < cells.length → nextpos = ct

namespace RingBuffer

variable {α : Type}

abbrev size (r : RingBuffer α) : Nat := r.cells.length

def blank (n : Nat) (a : α) (h : 0 < n) : RingBuffer α where
  cells := List.replicate n a
  ct := 0
  nextpos := 0
  inCells := by simpa using h
  ctLe := Nat.zero_le _
  fillsUp := fun _ => rfl

def push (r : RingBuffer α) (a : α) : RingBuffer α where
  cells := r.cells.set r.nextpos a
  ct := if r.ct < r.cells.length then r.ct + 1 else r.ct
  nextpos := (r.nextpos + 1) % r.cells.length
  inCells := by rw [length_set]; exact Nat.mod_lt _ (Nat.zero_lt_of_lt r.inCells)
  ctLe := by
    have h := r.ctLe
    rw [length_set]
    split <;> omega
  fillsUp := by
    intro h
    rw [length_set] at h
    have hle := r.ctLe
    split at h
    · rename_i hct
      rw [if_pos hct, r.fillsUp hct, Nat.mod_eq_of_lt h]
    · omega

def contents (r : RingBuffer α) : List α :=
  if r.ct < r.cells.length then r.cells.take r.ct else r.cells.drop r.nextpos ++ r.cells.take r.nextpos

theorem contents_blank (n : Nat) (a : α) (h : 0 < n) : (blank n a h).contents = [] := by
  simp [contents, blank, h]

variable (r : RingBuffer α)

theorem length_contents : r.contents.length = r.ct := by
  have hle := r.ctLe
  unfold contents
  split
  · rw [length_take, Nat.min_eq_left hle]
  · rw [length_append, length_drop, length_take]; omega

def cellOf (r : RingBuffer α) (i : Nat) : Nat :=
  if r.ct < r.cells.length then i else (r.nextpos + i) % r.cells.length

theorem getElem?_cellOf {i : Nat} (hi : i < r.ct) : r.cells[r.cellOf i]? = r.contents[i]? := by
  have hle := r.ctLe
  have hin := r.inCells
  unfold cellOf contents
  split
  · rw [getElem?_take_of_lt hi]
  · rcases Nat.lt_or_ge i (r.cells.length - r.nextpos) with hlt | hge
    · rw [getElem?_append_left (by rw [length_drop]; exact hlt), getElem?_drop,
        Nat.mod_eq_of_lt (Nat.add_lt_of_lt_sub' hlt)]
    · have hwrap : (r.nextpos + i) % r.cells.length = r.nextpos + i - r.cells.length := by
        rw [Nat.mod_eq_sub_mod (by omega), Nat.mod_eq_of_lt (by omega)]
      rw [getElem?_append_right (by rw [length_drop]; exact hge), length_drop, hwrap,
        getElem?_take_of_lt (by omega)]
      congr 1
      omega

theorem contents_push (a : α) :
    (r.push a).contents = (r.contents ++ [a]).drop (if r.ct < r.cells.length then 0 else 1) := by
  have hin := r.inCells
  by_cases hct : r.ct < r.cells.length
  · have hpos := r.fillsUp hct
    rw [if_pos hct, drop_zero]
    have hnew : (r.push a).ct = r.ct + 1 := if_pos hct
    have hcells : (r.push a).cells = r.cells.set r.ct a := by rw [← hpos]; rfl
    have htake : (r.cells.set r.ct a).take (r.ct + 1) = r.cells.take r.ct ++ [a] := by
      rw [take_add_one, getElem?_set_self hct, take_set_of_le (Nat.le_refl _)]; rfl
    unfold contents
    rw [if_pos hct, hnew, hcells, length_set]
    split
    · exact htake
    · have hwrap : (r.push a).nextpos = 0 := by
        have h1 : (r.push a).nextpos = (r.ct + 1) % r.cells.length := by rw [← hpos]; rfl
        rw [h1, show r.ct + 1 = r.cells.length by omega, Nat.mod_self]
      rw [hwrap, drop_zero, take_zero, append_nil, ← htake,
        take_of_length_le (by rw [length_set]; omega)]
  · rw [if_neg hct]
    have hnew : ¬ (r.push a).ct < (r.push a).cells.length := by
      simp only [push, length_set, if_neg hct]; exact hct
    have hcells : (r.push a).cells = r.cells.set r.nextpos a := rfl
    have hold : (r.contents ++ [a]).drop 1 = r.cells.drop (r.nextpos + 1) ++ (r.cells.take r.nextpos ++ [a]) := by
      rw [contents, if_neg hct, append_assoc, drop_append_of_le_length (by rw [length_drop]; omega),
        drop_drop]
    rw [hold]
    rw [contents, if_neg hnew, hcells]
    have hset : r.cells.set r.nextpos a = r.cells.take r.nextpos ++ a :: r.cells.drop (r.nextpos + 1) :=
      set_eq_take_append_cons_drop.trans (if_pos hin)
    rcases Nat.lt_or_ge (r.nextpos + 1) r.cells.length with hlt | hge
    · have hpos : (r.push a).nextpos = r.nextpos + 1 := Nat.mod_eq_of_lt hlt
      have hdrop : (r.cells.set r.nextpos a).drop (r.nextpos + 1) = r.cells.drop (r.nextpos + 1) := by
        rw [drop_set_of_lt (Nat.lt_succ_self _)]
      have htake : (r.cells.set r.nextpos a).take (r.nextpos + 1) = r.cells.take r.nextpos ++ [a] := by
        rw [take_add_one, getElem?_set_self hin, take_set_of_le (Nat.le_refl _)]; rfl
      rw [hpos, hdrop, htake]
    · have hpos : (r.push a).nextpos = 0 := by
        show (r.nextpos + 1) % r.cells.length = 0
        rw [show r.nextpos + 1 = r.cells.length by omega, Nat.mod_self]
      have hend : r.cells.drop (r.nextpos + 1) = [] := drop_eq_nil_of_le hge
      rw [hpos, drop_zero, take_zero, append_nil, hset, hend, nil_append]

theorem mem_contents_push {r : RingBuffer α} {a b : α} (h : b ∈ (r.push a).contents) : b ∈ r.contents ∨ b = a := by
  rw [contents_push] at h
  rcases mem_append.mp (mem_of_mem_drop h) with h | h
  · exact .inl h
  · exact .inr (mem_singleton.mp h)

theorem getLast?_contents_push (a : α) : (r.push a).contents.getLast? = some a := by
  have hct : ¬ r.ct < r.cells.length → 0 < r.contents.length := by
    have hin := r.inCells
    rw [length_contents]; omega
  rw [contents_push]
  split
  · simp
  · rename_i hfull
    have hpos := hct hfull
    rw [drop_append_of_le_length hpos]; simp

theorem contents_foldl_push : ∀ (as : List α) (r : RingBuffer α), r.ct + as.length ≤ r.cells.length →
    (as.foldl push r).contents = r.contents ++ as
  | [], r, _ => by rw [foldl_nil, append_nil]
  | a :: as, r, h => by
    rw [length_cons] at h
    have hroom : r.ct < r.cells.length := by omega
    have hct : (r.push a).ct = r.ct + 1 := if_pos hroom
    have hsize : (r.push a).cells.length = r.cells.length := length_set
    rw [foldl_cons, contents_foldl_push as (r.push a) (by omega), contents_push, if_pos hroom,
      drop_zero, append_assoc, singleton_append]

theorem contents_foldl_push_eq_drop : ∀ (as : List α) (r : RingBuffer α),
    (as.foldl push r).contents = (r.contents ++ as).drop (r.contents.length + as.length - r.cells.length)
  | [], r => by
    have hle := r.ctLe
    rw [foldl_nil, append_nil, length_nil, length_contents, Nat.add_zero, Nat.sub_eq_zero_of_le hle,
      drop_zero]
  | a :: as, r => by
    have hct := length_contents (r.push a)
    have hsize : (r.push a).cells.length = r.cells.length := length_set
    rw [foldl_cons, contents_foldl_push_eq_drop, hct, hsize, contents_push, length_contents,
      length_cons]
    by_cases hroom : r.ct < r.cells.length
    · have hnew : (r.push a).ct = r.ct + 1 := if_pos hroom
      rw [if_pos hroom, drop_zero, append_assoc, singleton_append, hnew]
      congr 1
      omega
    · -- the oldest value is dropped now, and as many of the later ones as follow
      have hnew : (r.push a).ct = r.ct := if_neg hroom
      have hone : 1 ≤ (r.contents ++ [a]).length := by rw [length_append, length_singleton]; omega
      rw [if_neg hroom, ← drop_append_of_le_length hone, drop_drop, append_assoc, singleton_append,
        hnew]
      congr 1
      omega

end RingBuffer
end Kit
