import Mathlib.Data.Option.Basic

/-! Arithmetic on integers of a fixed width, which fails where a value does not fit. -/

set_option autoImplicit false

namespace Luma.Library

/-- The values of an integer type. -/
structure Width where
  low : Int
  high : Int
  deriving DecidableEq, Repr

namespace Width

def i32 : Width := ⟨-2147483648, 2147483647⟩

def i64 : Width := ⟨-9223372036854775808, 9223372036854775807⟩

/-- `u64`, and `usize` on the machines that are meant. -/
def u64 : Width := ⟨0, 18446744073709551615⟩

variable {width : Width} {value result : Int}

def Fits (width : Width) (value : Int) : Prop := width.low ≤ value ∧ value ≤ width.high

instance (width : Width) (value : Int) : Decidable (width.Fits value) :=
  inferInstanceAs (Decidable (_ ∧ _))

@[simp] theorem i32_fits : i32.Fits value ↔ -2147483648 ≤ value ∧ value ≤ 2147483647 := Iff.rfl

@[simp] theorem i64_fits : i64.Fits value ↔ -9223372036854775808 ≤ value ∧ value ≤ 9223372036854775807 := Iff.rfl

@[simp] theorem u64_fits : u64.Fits value ↔ 0 ≤ value ∧ value ≤ 18446744073709551615 := Iff.rfl

/-- The result of an operation, unless it overflows. -/
def checked (width : Width) (value : Int) : Option Int := if width.Fits value then some value else none

theorem checked_of_fits (fits : width.Fits value) : width.checked value = some value := if_pos fits

/-- An operation that does not overflow goes on with its result. -/
theorem checked_bind {α : Type} {next : Int → Option α} (fits : width.Fits value) :
    (width.checked value).bind next = next value := by
  rw [checked_of_fits fits, Option.bind_some]

theorem checked_of_overflow (overflow : ¬width.Fits value) : width.checked value = none := if_neg overflow

theorem checked_eq_some : width.checked value = some result ↔ width.Fits value ∧ result = value := by
  unfold checked
  split
  · rename_i fits
    simp [fits, eq_comm]
  · rename_i overflows
    simp [overflows]

/-- The result of an operation that stops at the ends of the type. -/
def saturating (width : Width) (value : Int) : Int := max width.low (min width.high value)

theorem saturating_of_fits (fits : width.Fits value) : width.saturating value = value := by
  unfold Fits at fits
  unfold saturating
  omega

/-- A cast to the type, which goes around where the value does not fit. -/
def wrap (width : Width) (value : Int) : Int := width.low + (value - width.low) % (width.high - width.low + 1)

theorem wrap_of_fits (fits : width.Fits value) : width.wrap value = value := by
  unfold Fits at fits
  rw [wrap, Int.emod_eq_of_lt (by omega) (by omega)]
  omega

end Width

/-- `Ord::clamp`, which fails where the bounds are inverted. -/
def clampWithin (low high value : Int) : Option Int := if low ≤ high then some (max low (min high value)) else none

theorem clampWithin_of_le {low high : Int} (ordered : low ≤ high) (value : Int) :
    clampWithin low high value = some (max low (min high value)) := if_pos ordered

end Luma.Library
