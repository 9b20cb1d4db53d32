import Luma.Library.Rounding

/-! Spans of time, in whole nanoseconds, with the seconds in 64 bits.

Operations that do not always have a result fail where they have none.
-/

set_option autoImplicit false

namespace Luma.Library

/-- The number of spans. -/
def durationLimit : Nat := 2 ^ 64 * 10 ^ 9

structure Duration where
  nanos : Nat
  fits : nanos < durationLimit
  deriving DecidableEq, Repr

namespace Duration

variable (self : Duration)

def ofNanos (nanos : Nat) : Option Duration := if fits : nanos < durationLimit then some ⟨nanos, fits⟩ else none

def fromMicros (micros : UInt64) : Duration where
  nanos := micros.toNat * 1000
  fits := by
    have bound := micros.toNat_lt
    unfold durationLimit
    omega

/-- The nearest number of nanoseconds, of two the even one. -/
def fromSecs (secs : ℚ) : Option Duration :=
  if secs < 0 then none else ofNanos (Rounding.roundEven (secs * 10 ^ 9)).toNat

def asMicros : Nat := self.nanos / 1000

def add (other : Duration) : Option Duration := ofNanos (self.nanos + other.nanos)

def mul (factor : Nat) : Option Duration := ofNanos (self.nanos * factor)

/-- The quotient by a number that is not zero, rounded down. -/
def div (divisor : Nat) : Duration where
  nanos := self.nanos / divisor
  fits := Nat.lt_of_le_of_lt (Nat.div_le_self _ _) self.fits

/-- `Ord::clamp`, which fails where the bounds are inverted. -/
def clamp (low high : Duration) : Option Duration :=
  if low.nanos ≤ high.nanos then
    some (if self.nanos < low.nanos then low else if high.nanos < self.nanos then high else self)
  else none

variable {self}

@[simp] theorem div_nanos (divisor : Nat) : (self.div divisor).nanos = self.nanos / divisor := rfl

theorem ofNanos_of_lt {nanos : Nat} (fits : nanos < durationLimit) : ofNanos nanos = some ⟨nanos, fits⟩ := dif_pos fits

theorem ofNanos_eq_some {nanos : Nat} {result : Duration} (made : ofNanos nanos = some result) :
    result.nanos = nanos := by
  unfold ofNanos at made
  split at made
  · cases made
    rfl
  · cases made

theorem ofNanos_eq_none {nanos : Nat} (overflows : ofNanos nanos = none) : durationLimit ≤ nanos := by
  unfold ofNanos at overflows
  split at overflows
  · cases overflows
  · rename_i large
    exact Nat.le_of_not_lt large

theorem fromSecs_le {secs : ℚ} {result : Duration} {bound : Nat} (made : fromSecs secs = some result)
    (upTo : secs ≤ bound) : result.nanos ≤ bound * 10 ^ 9 + 1 := by
  unfold fromSecs at made
  split at made
  · cases made
  · have near := (abs_le.mp (Rounding.roundEven_near (secs * 10 ^ 9))).2
    have scaled : secs * 10 ^ 9 ≤ bound * 10 ^ 9 := mul_le_mul_of_nonneg_right upTo (by norm_num)
    have small : (Rounding.roundEven (secs * 10 ^ 9) : ℚ) ≤ (bound * 10 ^ 9 + 1 : Nat) := by
      rw [Nat.cast_add, Nat.cast_mul, Nat.cast_pow]
      norm_num at near scaled ⊢
      linarith
    rw [ofNanos_eq_some made]
    exact Int.toNat_le.mpr (by exact_mod_cast small)

/-- A clamped span lies between the bounds. -/
theorem exists_clamp (self : Duration) {low high : Duration} (ordered : low.nanos ≤ high.nanos) :
    ∃ result, self.clamp low high = some result ∧ low.nanos ≤ result.nanos ∧ result.nanos ≤ high.nanos := by
  unfold clamp
  rw [if_pos ordered]
  refine ⟨_, rfl, ?_⟩
  split
  · exact ⟨Nat.le_refl _, ordered⟩
  · split
    · exact ⟨ordered, Nat.le_refl _⟩
    · omega

end Duration

end Luma.Library
