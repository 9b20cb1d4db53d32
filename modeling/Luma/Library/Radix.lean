import Mathlib.Algebra.Group.Nat.Defs
import Mathlib.Data.List.Basic

/-! Numbers written with the digits of a radix, as the Rust standard library reads them. -/

set_option autoImplicit false

namespace Luma.Library.Radix

inductive Panic where
  | radix
  | overflow
  deriving DecidableEq, Repr

/-- `char::to_digit` of the character with the code of a byte. -/
def toDigit (radix : Nat) (byte : UInt8) : Option Nat :=
  let code := byte.toNat
  let value :=
    if 48 ≤ code ∧ code ≤ 57 then some (code - 48)
    else if 97 ≤ code ∧ code ≤ 122 then some (code - 87)
    else if 65 ≤ code ∧ code ≤ 90 then some (code - 55)
    else none
  value.filter (· < radix)

/-- The rounds over the digits. `overflowed` is what comes of a value above the greatest one: an error
where each round tests for it, and a panic where the text was taken for too short to have one. -/
def readDigits (overflowed : Except Panic (Option Nat)) (greatest radix : Nat) : Nat → List UInt8 →
    Except Panic (Option Nat)
  | total, [] => .ok (some total)
  | total, byte :: rest =>
      match toDigit radix byte with
      | none => .ok none
      | some digit =>
          if greatest < total * radix + digit then overflowed
          else readDigits overflowed greatest radix (total * radix + digit) rest

/-- What follows a plus sign. -/
def dropPlus : List UInt8 → List UInt8
  | [] => []
  | byte :: rest => if byte = 43 then rest else byte :: rest

/-- `u32::from_str_radix`, with none for an error. -/
def fromStrRadix (bytes : List UInt8) (radix : Nat) : Except Panic (Option Nat) :=
  if radix < 2 ∨ 36 < radix then .error .radix
  else
    let digits := dropPlus bytes
    if digits = [] then .ok none
    else if radix ≤ 16 ∧ digits.length ≤ 8 then readDigits (.error .overflow) 4294967295 radix 0 digits
    else readDigits (.ok none) 4294967295 radix 0 digits

/-- The number that digits denote. -/
def value (radix : Nat) (digits : List Nat) : Nat := digits.foldl (fun total digit => total * radix + digit) 0

variable {overflowed : Except Panic (Option Nat)} {greatest radix total : Nat} {bytes : List UInt8} {digits : List Nat}

theorem toDigit_lt {byte : UInt8} {digit : Nat} (read : toDigit radix byte = some digit) : digit < radix :=
  of_decide_eq_true (Option.filter_eq_some_iff.mp read).2

/-- Texts that are too short for a greater number are read as the number that they denote. -/
theorem readDigits_eq (fits : (total + 1) * radix ^ bytes.length ≤ greatest + 1) :
    readDigits overflowed greatest radix total bytes =
      .ok ((bytes.mapM (toDigit radix)).map fun digits =>
        digits.foldl (fun total digit => total * radix + digit) total) := by
  induction bytes generalizing total with
  | nil => rfl
  | cons byte rest ih =>
    cases read : toDigit radix byte with
    | none =>
      simp only [readDigits, List.mapM_cons, read]
      rfl
    | some digit =>
      have small := toDigit_lt read
      have next : (total * radix + digit + 1) * radix ^ rest.length ≤ greatest + 1 := by
        calc (total * radix + digit + 1) * radix ^ rest.length ≤ ((total + 1) * radix) * radix ^ rest.length :=
              Nat.mul_le_mul_right _ (by rw [Nat.add_mul]; omega)
          _ = (total + 1) * radix ^ (byte :: rest).length := by
              rw [List.length_cons, Nat.pow_succ, Nat.mul_assoc, Nat.mul_comm radix]
          _ ≤ greatest + 1 := fits
      have room : ¬greatest < total * radix + digit := by
        have unit : 0 < radix ^ rest.length := Nat.pow_pos (by omega)
        have within := Nat.le_trans (Nat.le_mul_of_pos_right _ unit) next
        omega
      simp only [readDigits, read, if_neg room, ih next, List.mapM_cons]
      cases rest.mapM (toDigit radix) <;> rfl

theorem dropPlus_length (bytes : List UInt8) : (dropPlus bytes).length ≤ bytes.length := by
  cases bytes with
  | nil => exact Nat.le_refl 0
  | cons byte rest =>
    rw [dropPlus]
    split
    · exact Nat.le_succ rest.length
    · exact Nat.le_refl (byte :: rest).length

theorem le_dropPlus_length (bytes : List UInt8) : bytes.length ≤ (dropPlus bytes).length + 1 := by
  cases bytes with
  | nil => exact Nat.zero_le _
  | cons byte rest =>
    rw [dropPlus]
    split
    · exact Nat.le_refl (rest.length + 1)
    · exact Nat.le_succ (byte :: rest).length

/-- At most eight hexadecimal digits are read without a panic. -/
theorem fromStrRadix_short (short : bytes.length ≤ 8) :
    fromStrRadix bytes 16 = .ok (if dropPlus bytes = [] then none
      else ((dropPlus bytes).mapM (toDigit 16)).map (value 16)) := by
  have fewer := Nat.le_trans (dropPlus_length bytes) short
  have fits : (0 + 1) * 16 ^ (dropPlus bytes).length ≤ 4294967295 + 1 := by
    rw [Nat.zero_add, Nat.one_mul]
    exact Nat.pow_le_pow_right (by decide) fewer
  unfold fromStrRadix
  rw [if_neg (by decide)]
  by_cases empty : dropPlus bytes = []
  · rw [if_pos empty, if_pos empty]
  · rw [if_neg empty, if_neg empty, if_pos ⟨Nat.le_refl 16, fewer⟩, readDigits_eq fits]
    rfl

end Luma.Library.Radix
