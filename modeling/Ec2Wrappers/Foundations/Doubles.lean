import Mathlib.Algebra.Order.Floor.Ring
import Mathlib.Data.Int.Log
import Mathlib.Data.Rat.Floor
import Mathlib.Tactic.FieldSimp
import Mathlib.Tactic.Linarith

/-!
# Numbers of double precision

A double is a rational with 53 binary digits. `toDouble` rounds a rational to the nearest double,
and to the even one of two that are equally near, as the basic operations do. Overflow and the
numbers next to zero that have fewer digits are left out.

Below `2 ^ (e + 53)` the error is at most half of `2 ^ e` (`abs_toDouble_sub_le`), and a multiple of
`2 ^ e` is kept as it is (`toDouble_eq_self`).
-/

set_option autoImplicit false
set_option relaxedAutoImplicit false

namespace Ec2Wrappers.Foundations

/-- The nearest integer, the even one of two. -/
def roundEven (value : ℚ) : ℤ :=
  let below := ⌊value⌋
  if value - below < 1 / 2 ∨ (value - below = 1 / 2 ∧ below % 2 = 0) then below else below + 1

/-- The place of the last of the 53 digits. -/
def lastPlace (value : ℚ) : ℤ := Int.log 2 |value| - 52

/-- The nearest double. -/
def toDouble (value : ℚ) : ℚ := roundEven (value / 2 ^ lastPlace value) * 2 ^ lastPlace value

/-- Rounding changes a number by half at most. -/
theorem abs_roundEven_sub_le (value : ℚ) : |(roundEven value : ℚ) - value| ≤ 1 / 2 := by
  have hbelow := Int.floor_le value
  have habove := Int.lt_floor_add_one value
  rw [abs_le, roundEven]
  split_ifs with hnear
  · have hhalf : value - ⌊value⌋ ≤ 1 / 2 := hnear.elim le_of_lt fun htie ↦ htie.1.le
    constructor <;> linarith
  · have hhalf : 1 / 2 ≤ value - ⌊value⌋ := not_lt.mp fun hlt ↦ hnear (.inl hlt)
    push_cast
    constructor <;> linarith

/-- An integer is rounded to itself. -/
theorem roundEven_intCast (n : ℤ) : roundEven n = n := by
  rw [roundEven, Int.floor_intCast, sub_self, if_pos (.inl one_half_pos)]

theorem toDouble_zero : toDouble 0 = 0 := by
  have hzero : roundEven 0 = 0 := roundEven_intCast 0
  rw [toDouble, zero_div, hzero, Int.cast_zero, zero_mul]

/-- The last place of a number below a power of two. -/
theorem lastPlace_le {value : ℚ} {e : ℤ} (hvalue : value ≠ 0) (hlt : |value| < 2 ^ (e + 53)) :
    lastPlace value ≤ e := by
  have hlog : Int.log 2 |value| < e + 53 := by
    refine (Int.lt_zpow_iff_log_lt one_lt_two (abs_pos.mpr hvalue)).mp ?_
    exact_mod_cast hlt
  rw [lastPlace]
  omega

/-- The error of a number below a power of two. -/
theorem abs_toDouble_sub_le {value : ℚ} {e : ℤ} (hlt : |value| < 2 ^ (e + 53)) :
    |toDouble value - value| ≤ 2 ^ e / 2 := by
  by_cases hvalue : value = 0
  · rw [hvalue, toDouble_zero, sub_self, abs_zero]
    exact (half_pos (zpow_pos two_pos e)).le
  have hpos : (0 : ℚ) < 2 ^ lastPlace value := zpow_pos two_pos _
  have hunit : (2 : ℚ) ^ lastPlace value ≤ 2 ^ e :=
    zpow_le_zpow_right₀ one_le_two (lastPlace_le hvalue hlt)
  have hsplit : toDouble value - value =
      (roundEven (value / 2 ^ lastPlace value) - value / 2 ^ lastPlace value) *
        2 ^ lastPlace value := by
    rw [sub_mul, div_mul_cancel₀ _ hpos.ne', toDouble]
  calc |toDouble value - value|
      = |(roundEven (value / 2 ^ lastPlace value) : ℚ) - value / 2 ^ lastPlace value| *
          2 ^ lastPlace value := by rw [hsplit, abs_mul, abs_of_pos hpos]
    _ ≤ 1 / 2 * 2 ^ lastPlace value :=
        mul_le_mul_of_nonneg_right (abs_roundEven_sub_le _) hpos.le
    _ ≤ 2 ^ e / 2 := by linarith

/-- A multiple of a power of two below 53 digits more is kept. -/
theorem toDouble_eq_self {n e : ℤ} (hlt : |(n : ℚ) * 2 ^ e| < 2 ^ (e + 53)) :
    toDouble (n * 2 ^ e) = n * 2 ^ e := by
  by_cases hzero : (n : ℚ) * 2 ^ e = 0
  · rw [hzero, toDouble_zero]
  obtain ⟨digits, hdigits⟩ := Int.eq_ofNat_of_zero_le (sub_nonneg.mpr (lastPlace_le hzero hlt))
  have hpos : (0 : ℚ) < 2 ^ lastPlace ((n : ℚ) * 2 ^ e) := zpow_pos two_pos _
  have hwhole : (n : ℚ) * 2 ^ e / 2 ^ lastPlace ((n : ℚ) * 2 ^ e) =
      ((n * 2 ^ digits : ℤ) : ℚ) := by
    rw [mul_div_assoc, ← zpow_sub₀ two_ne_zero, hdigits]
    push_cast
    rfl
  rw [toDouble, hwhole, roundEven_intCast, ← hwhole, div_mul_cancel₀ _ hpos.ne']

/-- What is rounded has its last digit at the last place or before. -/
theorem exists_toDouble_eq {value : ℚ} {e : ℤ} (hplace : e ≤ lastPlace value) :
    ∃ n : ℤ, toDouble value = n * 2 ^ e := by
  obtain ⟨digits, hdigits⟩ := Int.eq_ofNat_of_zero_le (sub_nonneg.mpr hplace)
  refine ⟨roundEven (value / 2 ^ lastPlace value) * 2 ^ digits, ?_⟩
  have hunit : (2 : ℚ) ^ lastPlace value = 2 ^ digits * 2 ^ e := by
    rw [← zpow_natCast, ← zpow_add₀ two_ne_zero, ← hdigits, sub_add_cancel]
  rw [toDouble, hunit]
  push_cast
  ring

end Ec2Wrappers.Foundations
