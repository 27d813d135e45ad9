import Mathlib.Data.Nat.Digits.Defs
import Mathlib.Tactic.Common
/-!
# Items — bytes that are a row of items

The first byte of an item says how many more bytes the item has (`more`).  A row of items is `Uncut` when the last of
them has all its bytes.  `littleEndian` is the number that bytes stand for, the lowest byte first.
-/
namespace Kit

open List

def Uncut {α : Type} (more : α → Nat) : List α → Prop
  | [] => True
  | a :: row => more a ≤ row.length ∧ Uncut more (row.drop (more a))
termination_by row => row.length

variable {α : Type} {more : α → Nat}

@[simp] theorem uncut_nil : Uncut more [] := by
  rw [Uncut]
  trivial

theorem uncut_item {a : α} {rest row : List α} (h : rest.length = more a) :
    Uncut more (a :: (rest ++ row)) ↔ Uncut more row := by
  rw [Uncut, ← h, drop_left, length_append]; exact and_iff_right (Nat.le_add_right _ _)

theorem not_uncut {a : α} {row : List α} (h : row.length < more a) : ¬ Uncut more (a :: row) := by
  rw [Uncut]; exact fun huncut => Nat.not_le.2 h huncut.1

theorem item_induction (more : α → Nat) {P : List α → Prop} (nil : P []) (cut : ∀ a row, row.length < more a → P (a :: row))
    (item : ∀ a rest row, rest.length = more a → P row → P (a :: (rest ++ row))) : ∀ row, P row := by
  intro row
  induction row using Uncut.induct more with
  | case1 => exact nil
  | case2 a row ih =>
    rcases Nat.lt_or_ge row.length (more a) with hlt | hle
    · exact cut a row hlt
    · have hitem := item a _ _ (length_take_of_le hle) ih
      rwa [take_append_drop] at hitem

def littleEndian (bytes : List UInt8) : Nat := Nat.ofDigits 256 (bytes.map UInt8.toNat)

@[simp] theorem littleEndian_nil : littleEndian [] = 0 := rfl

theorem littleEndian_append (bytes : List UInt8) (last : UInt8) :
    littleEndian (bytes ++ [last]) = littleEndian bytes + 256 ^ bytes.length * last.toNat := by
  simp [littleEndian, Nat.ofDigits_append]

theorem littleEndian_lt (bytes : List UInt8) : littleEndian bytes < 256 ^ bytes.length := by
  have hdigits : ∀ d ∈ bytes.map UInt8.toNat, d < 256 := by
    intro d hd
    obtain ⟨x, -, rfl⟩ := mem_map.1 hd
    exact x.toNat_lt
  have h := Nat.ofDigits_lt_base_pow_length (by decide) hdigits
  rwa [length_map] at h

theorem or_byte (high : Nat) (low : UInt8) : high <<< 8 ||| low.toNat = low.toNat + 256 * high := by
  rw [← Nat.shiftLeft_add_eq_or_of_lt low.toNat_lt, Nat.shiftLeft_eq]; omega

theorem littleEndian_cons (low : UInt8) (bytes : List UInt8) :
    littleEndian (low :: bytes) = low.toNat + 256 * littleEndian bytes := by
  simp [littleEndian, Nat.ofDigits_cons]

theorem or_shiftLeft_eq_littleEndian (b0 b1 b2 b3 : UInt8) :
    b3.toNat <<< 24 ||| b2.toNat <<< 16 ||| b1.toNat <<< 8 ||| b0.toNat = littleEndian [b0, b1, b2, b3] := by
  have hshift : b3.toNat <<< 24 ||| b2.toNat <<< 16 ||| b1.toNat <<< 8 =
      ((b3.toNat <<< 8 ||| b2.toNat) <<< 8 ||| b1.toNat) <<< 8 := by
    simp only [Nat.shiftLeft_or_distrib, ← Nat.shiftLeft_add]
  rw [hshift, or_byte, or_byte, or_byte]
  simp only [littleEndian_cons, littleEndian_nil, Nat.mul_zero, Nat.add_zero]

end Kit
