import Mathlib.Data.List.Basic
/-!
# FlagWord — a word of flags that is put together from a list of settings

Each setting has a mask and the name of a flag.  Where the flag is on the mask is set in the word; where it is off a
setting that clears takes the mask out of the word, and another one leaves the word as it is.
-/
namespace Kit

open List

variable {w : Nat} {ν : Type}

structure Setting (w : Nat) (ν : Type) where
  mask : BitVec w
  flag : ν
  clears : Bool

variable (on : ν → Bool)

def Setting.apply (word : BitVec w) (s : Setting w ν) : BitVec w :=
  if on s.flag then word ||| s.mask else if s.clears then word &&& ~~~s.mask else word

def settle (l : List (Setting w ν)) (word : BitVec w) : BitVec w := l.foldl (Setting.apply on) word

variable {on}

theorem Setting.apply_other {s : Setting w ν} {k : Nat} (h : s.mask.getLsbD k = false) (word : BitVec w) :
    (s.apply on word).getLsbD k = word.getLsbD k := by
  unfold Setting.apply
  split
  · simp [h]
  · split
    · rw [BitVec.getLsbD_and, BitVec.getLsbD_not, h]
      by_cases hk : k < w
      · simp only [hk, decide_true, Bool.not_false, Bool.and_self, Bool.and_true]
      · rw [BitVec.getLsbD_of_ge word k (Nat.le_of_not_lt hk), Bool.false_and]
    · rfl

/-- **A bit of the mask is on with its flag.**  If the flag is off, a setting that does not clear leaves the bit. -/
theorem Setting.apply_bit {s : Setting w ν} {k : Nat} (h : s.mask.getLsbD k = true) (word : BitVec w) :
    (s.apply on word).getLsbD k = (on s.flag || (!s.clears && word.getLsbD k)) := by
  unfold Setting.apply
  cases hon : on s.flag with
  | true => simp [h]
  | false => cases hclears : s.clears <;> simp [h]

theorem settle_filter (k : Nat) (l : List (Setting w ν)) (word word' : BitVec w)
    (h : word.getLsbD k = word'.getLsbD k) :
    (settle on l word).getLsbD k = (settle on (l.filter fun s => s.mask.getLsbD k) word').getLsbD k := by
  unfold settle
  induction l generalizing word word' with
  | nil => exact h
  | cons s l ih =>
    rw [foldl_cons, filter_cons]
    cases hs : s.mask.getLsbD k with
    | false =>
      exact ih _ _ ((Setting.apply_other hs word).trans h)
    | true =>
      refine ih _ _ ?_
      rw [Setting.apply_bit hs, Setting.apply_bit hs, h]

theorem settle_bit {k : Nat} {l : List (Setting w ν)} {s : Setting w ν}
    (h : (l.filter fun s => s.mask.getLsbD k) = [s]) (word : BitVec w) :
    (settle on l word).getLsbD k = (on s.flag || (!s.clears && word.getLsbD k)) := by
  have hs : s.mask.getLsbD k = true := by
    have hmem : s ∈ l.filter fun s => s.mask.getLsbD k := h ▸ mem_singleton_self s
    exact (mem_filter.1 hmem).2
  rw [settle_filter k l word word rfl, h]; exact Setting.apply_bit hs word

theorem settle_other {k : Nat} {l : List (Setting w ν)} (h : (l.filter fun s => s.mask.getLsbD k) = [])
    (word : BitVec w) : (settle on l word).getLsbD k = word.getLsbD k := by
  rw [settle_filter k l word word rfl, h]; rfl

end Kit
