import Mathlib.Data.Int.Log
import Mathlib.Data.Rat.Floor
import Mathlib.Tactic.Linarith

/-! Floats as the rational numbers that they stand for. -/

set_option autoImplicit false

namespace Luma.Library.Rounding

/-- The whole number that is nearest, of two the even one. -/
def roundEven (value : ℚ) : Int :=
  let below := ⌊value⌋
  if 2 * (value - below) < 1 then below
  else if 2 * (value - below) > 1 then below + 1
  else if below % 2 = 0 then below else below + 1

/-- The exponent of the last digit that a float has near a positive value. -/
def lastExponent (digits : Nat) (least : Int) (value : ℚ) : Int := max (Int.log 2 value - (digits - 1)) least

/-- The float that is nearest to a number which is not negative and not too large for one. -/
def nearest (digits : Nat) (least : Int) (value : ℚ) : ℚ :=
  roundEven (value / 2 ^ lastExponent digits least value) * 2 ^ lastExponent digits least value

def nearestDouble : ℚ → ℚ := nearest 53 (-1074)

def nearestSingle : ℚ → ℚ := nearest 24 (-149)

variable {digits : Nat} {least : Int} {value : ℚ}

theorem roundEven_near (value : ℚ) : |roundEven value - value| ≤ 1 / 2 := by
  have low := Int.floor_le value
  have high := Int.lt_floor_add_one value
  rw [abs_le]
  unfold roundEven
  simp only
  split_ifs <;> push_cast <;> constructor <;> linarith

/-- The error is at most half a unit of the last digit. -/
theorem nearest_near (digits : Nat) (least : Int) (value : ℚ) :
    |nearest digits least value - value| ≤ 2 ^ lastExponent digits least value / 2 := by
  have positive : (0 : ℚ) < 2 ^ lastExponent digits least value := zpow_pos (by norm_num) _
  have scaled : nearest digits least value - value =
      (roundEven (value / 2 ^ lastExponent digits least value) - value / 2 ^ lastExponent digits least value) *
        2 ^ lastExponent digits least value := by
    rw [sub_mul, div_mul_cancel₀ _ positive.ne']
    rfl
  rw [scaled, abs_mul, abs_of_pos positive]
  calc _ ≤ 1 / 2 * 2 ^ lastExponent digits least value :=
        mul_le_mul_of_nonneg_right (roundEven_near _) positive.le
    _ = _ := by ring

theorem nearest_near_of_le {exponent : Int} (few : lastExponent digits least value ≤ exponent) :
    |nearest digits least value - value| ≤ 2 ^ exponent / 2 := by
  have unit : (2 : ℚ) ^ lastExponent digits least value ≤ 2 ^ exponent := zpow_le_zpow_right₀ (by norm_num) few
  exact (nearest_near digits least value).trans (by linarith)

/-- A double of moderate size is not further away than a half. -/
theorem nearestDouble_near (positive : 0 < value) (small : value < 2 ^ (53 : Int)) :
    |nearestDouble value - value| ≤ 1 / 2 := by
  have exponent : lastExponent 53 (-1074) value ≤ 0 := by
    have below : Int.log 2 value < 53 := (Int.lt_zpow_iff_log_lt (by norm_num) positive).mp (by exact_mod_cast small)
    unfold lastExponent
    omega
  have near := nearest_near_of_le exponent
  rwa [zpow_zero] at near

theorem nearestSingle_near (nonnegative : 0 ≤ value) (small : value ≤ 1) :
    |nearestSingle value - value| ≤ 1 / 2 ^ 24 := by
  have exponent : lastExponent 24 (-149) value ≤ -23 := by
    have below : Int.log 2 value ≤ 0 := by
      rcases nonnegative.eq_or_lt with rfl | positive
      · simp
      · exact (Int.log_mono_right positive small).trans_eq (by simp)
    unfold lastExponent
    omega
  have near := nearest_near_of_le exponent
  norm_num at near ⊢
  exact near

end Luma.Library.Rounding
