import Mathlib.Data.Int.Log
import Mathlib.Data.Rat.Floor
import Mathlib.Algebra.Order.Field.Power
import Ddcutil.Kit.Exec
/-!
# Binary64 — C doubles as the rationals they stand for

A finite double is the rational it denotes, and an operation is the exact one followed by `round64`, the rounding to
the nearest multiple of the unit in the last place, ties to even.  Overflow to infinity is not modelled.
-/
namespace Kit

def roundEven (x : ℚ) : ℤ :=
  if x - ⌊x⌋ < 1 / 2 then ⌊x⌋
  else if 1 / 2 < x - ⌊x⌋ then ⌊x⌋ + 1
  else if ⌊x⌋ % 2 = 0 then ⌊x⌋ else ⌊x⌋ + 1

/-- The exponent of the last place of a double of this size: 53 bits, and no smaller than that of the subnormals. -/
def ulpExponent (q : ℚ) : ℤ := max (Int.log 2 |q| - 52) (-1074)

def round64 (q : ℚ) : ℚ := roundEven (q / 2 ^ ulpExponent q) * 2 ^ ulpExponent q

def truncate (q : ℚ) : ℤ := if 0 ≤ q then ⌊q⌋ else ⌈q⌉

def quot64 (a b : ℚ) : Exec ℚ := if b = 0 then .error .divByZero else .ok (round64 (a / b))

def quot (a b : ℤ) : Exec ℤ := if b = 0 then .error .divByZero else .ok (a.tdiv b)

theorem quot64_of_ne {a b : ℚ} (h : b ≠ 0) : quot64 a b = .ok (round64 (a / b)) := if_neg h

theorem quot_of_ne {a b : ℤ} (h : b ≠ 0) : quot a b = .ok (a.tdiv b) := if_neg h

theorem floor_le_roundEven (x : ℚ) : ⌊x⌋ ≤ roundEven x := by
  unfold roundEven
  split
  · exact le_refl _
  · split
    · exact Int.le_add_one (le_refl _)
    · split
      · exact le_refl _
      · exact Int.le_add_one (le_refl _)

theorem round64_nonneg {q : ℚ} (h : 0 ≤ q) : 0 ≤ round64 q := by
  have hpow : (0 : ℚ) < 2 ^ ulpExponent q := zpow_pos two_pos _
  have hfloor : 0 ≤ ⌊q / 2 ^ ulpExponent q⌋ := Int.floor_nonneg.mpr (div_nonneg h hpow.le)
  have hround : (0 : ℚ) ≤ roundEven (q / 2 ^ ulpExponent q) := by
    exact_mod_cast le_trans hfloor (floor_le_roundEven _)
  exact mul_nonneg hround hpow.le

theorem roundEven_le_floor_add_one (x : ℚ) : roundEven x ≤ ⌊x⌋ + 1 := by
  unfold roundEven
  split
  · exact Int.le_add_one (le_refl _)
  · split
    · exact le_refl _
    · split
      · exact Int.le_add_one (le_refl _)
      · exact le_refl _

theorem ulp_le {q : ℚ} (h : 0 ≤ q) : (2 : ℚ) ^ ulpExponent q ≤ q + 1 := by
  have hone : (1 : ℚ) ≤ 2 := one_le_two
  rcases le_total (Int.log 2 |q| - 52) (-1074) with hle | hle
  · rw [ulpExponent, max_eq_right hle]
    have hsmall : (2 : ℚ) ^ (-1074 : ℤ) ≤ 1 := zpow_le_one_of_nonpos₀ hone (by decide)
    linarith
  · rw [ulpExponent, max_eq_left hle, abs_of_nonneg h]
    rcases h.eq_or_lt with hzero | hpos
    · have hsmall : (2 : ℚ) ^ (Int.log 2 q - 52) ≤ 1 := by
        rw [← hzero, Int.log_zero_right]; exact zpow_le_one_of_nonpos₀ hone (by decide)
      linarith
    · have hlog : (2 : ℚ) ^ Int.log 2 q ≤ q := by exact_mod_cast Int.zpow_log_le_self one_lt_two hpos
      have hless : (2 : ℚ) ^ (Int.log 2 q - 52) ≤ 2 ^ Int.log 2 q := zpow_le_zpow_right₀ hone (by omega)
      linarith

theorem round64_le {q : ℚ} (h : 0 ≤ q) : round64 q ≤ 2 * q + 1 := by
  have hpow : (0 : ℚ) < 2 ^ ulpExponent q := zpow_pos two_pos _
  have hround : (roundEven (q / 2 ^ ulpExponent q) : ℚ) ≤ q / 2 ^ ulpExponent q + 1 := by
    have hfloor : ((⌊q / 2 ^ ulpExponent q⌋ : ℤ) : ℚ) ≤ q / 2 ^ ulpExponent q := Int.floor_le _
    have hle : (roundEven (q / 2 ^ ulpExponent q) : ℚ) ≤ ⌊q / 2 ^ ulpExponent q⌋ + 1 := by
      exact_mod_cast roundEven_le_floor_add_one _
    linarith
  calc round64 q ≤ (q / 2 ^ ulpExponent q + 1) * 2 ^ ulpExponent q := mul_le_mul_of_nonneg_right hround hpow.le
    _ = q + 2 ^ ulpExponent q := by rw [add_mul, one_mul, div_mul_cancel₀ q hpow.ne']
    _ ≤ 2 * q + 1 := by linarith [ulp_le h]

theorem truncate_of_nonneg {q : ℚ} (h : 0 ≤ q) : truncate q = ⌊q⌋ := if_pos h

theorem truncate_nonneg {q : ℚ} (h : 0 ≤ q) : 0 ≤ truncate q := by
  rw [truncate_of_nonneg h]; exact Int.floor_nonneg.mpr h

end Kit
