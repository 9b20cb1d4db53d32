import Mathlib.Algebra.Order.Ring.Nat

/-! Slots of equal length on a grid of units that the rate of the slots need not divide. -/

set_option autoImplicit false

namespace Luma.Library.RateSlots

/-- The unit in which a slot starts. -/
def start (unit rate slot : Nat) : Nat := slot * unit / rate

/-- The slot that is reached at a unit. -/
def index (unit rate time : Nat) : Nat := time * rate / unit

variable {unit rate : Nat}

/-- A slot is reached when its start is. -/
theorem le_index_iff (positive : 0 < unit) (slot time : Nat) :
    slot ≤ index unit rate time ↔ slot * unit ≤ time * rate :=
  Nat.le_div_iff_mul_le positive

theorem start_index_le (whole : 0 < rate) (time : Nat) : start unit rate (index unit rate time) ≤ time := by
  have passed : index unit rate time * unit ≤ time * rate := Nat.div_mul_le_self _ _
  calc start unit rate (index unit rate time) ≤ time * rate / rate := Nat.div_le_div_right passed
    _ = time := Nat.mul_div_cancel time whole

theorem le_start_index_succ (positive : 0 < unit) (whole : 0 < rate) (time : Nat) :
    time ≤ start unit rate (index unit rate time + 1) := by
  have ahead : time * rate ≤ (index unit rate time + 1) * unit := by
    rw [Nat.add_one_mul]
    exact (Nat.lt_div_mul_add positive).le
  exact (Nat.le_div_iff_mul_le whole).mpr ahead

theorem index_start_le (positive : 0 < unit) (slot : Nat) : index unit rate (start unit rate slot) ≤ slot := by
  have early : start unit rate slot * rate ≤ slot * unit := Nat.div_mul_le_self _ _
  calc index unit rate (start unit rate slot) ≤ slot * unit / unit := Nat.div_le_div_right early
    _ = slot := Nat.mul_div_cancel slot positive

/-- A slot that starts within a unit is reached in that unit or in the next one. -/
theorem le_index_start_succ (positive : 0 < unit) (whole : 0 < rate) (coarse : rate ≤ unit) (slot : Nat) :
    slot ≤ index unit rate (start unit rate slot) + 1 := by
  cases slot with
  | zero => exact Nat.zero_le _
  | succ slot =>
    apply Nat.succ_le_succ
    rw [le_index_iff positive]
    have late : (slot + 1) * unit ≤ start unit rate (slot + 1) * rate + rate := (Nat.lt_div_mul_add whole).le
    rw [Nat.add_one_mul] at late
    omega

/-- Only a slot that starts with a unit is reached in that unit. -/
theorem index_start_eq_iff (positive : 0 < unit) (slot : Nat) :
    index unit rate (start unit rate slot) = slot ↔ rate ∣ slot * unit := by
  have early : start unit rate slot * rate ≤ slot * unit := Nat.div_mul_le_self _ _
  have reached : index unit rate (start unit rate slot) = slot ↔ slot * unit ≤ start unit rate slot * rate := by
    rw [← le_index_iff positive]
    exact ⟨fun same => same.ge, fun upTo => Nat.le_antisymm (index_start_le positive slot) upTo⟩
  rw [reached]
  constructor
  · intro late
    exact Dvd.intro_left _ (Nat.le_antisymm early late)
  · intro divides
    exact (Nat.div_mul_cancel divides).ge

end Luma.Library.RateSlots
