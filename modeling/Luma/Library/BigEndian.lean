import Mathlib.Data.Nat.Basic
import Mathlib.Tactic.Ring

/-! Fixed-width big-endian positional notation over octets. -/

set_option autoImplicit false

namespace Luma.Library.BigEndian

/-- The low `width` octets of a number, most significant first. -/
def toBytes : Nat → Nat → List UInt8
  | 0, _ => []
  | width + 1, value => UInt8.ofNat (value / 256 ^ width) :: toBytes width value

def ofBytes : List UInt8 → Nat
  | [] => 0
  | first :: rest => first.toNat * 256 ^ rest.length + ofBytes rest

@[simp] theorem toBytes_length (width value : Nat) : (toBytes width value).length = width := by
  induction width with
  | zero => rfl
  | succ width ih => simp [toBytes, ih]

theorem ofBytes_lt (bytes : List UInt8) : ofBytes bytes < 256 ^ bytes.length := by
  induction bytes with
  | nil => simp [ofBytes]
  | cons first rest ih =>
    have digit : first.toNat + 1 ≤ 256 := first.toNat_lt
    calc ofBytes (first :: rest)
        < first.toNat * 256 ^ rest.length + 256 ^ rest.length := Nat.add_lt_add_left ih _
      _ = (first.toNat + 1) * 256 ^ rest.length := by ring
      _ ≤ 256 * 256 ^ rest.length := Nat.mul_le_mul_right _ digit
      _ = 256 ^ (first :: rest).length := by rw [List.length_cons, Nat.pow_succ, Nat.mul_comm]

/-- Reading back keeps exactly the octets that fit the width. -/
theorem ofBytes_toBytes (width value : Nat) : ofBytes (toBytes width value) = value % 256 ^ width := by
  induction width with
  | zero => simp [ofBytes, toBytes, Nat.mod_one]
  | succ width ih =>
    have digit : (UInt8.ofNat (value / 256 ^ width)).toNat = value / 256 ^ width % 256 := by
      rw [UInt8.toNat_ofNat']
    rw [toBytes, ofBytes, toBytes_length, ih, digit, Nat.mod_pow_succ, Nat.mul_comm, Nat.add_comm]

theorem ofBytes_toBytes_of_lt {width value : Nat} (fits : value < 256 ^ width) :
    ofBytes (toBytes width value) = value := by
  rw [ofBytes_toBytes, Nat.mod_eq_of_lt fits]

theorem toBytes_add_mul (width value high : Nat) :
    toBytes width (high * 256 ^ width + value) = toBytes width value := by
  suffices shifted : ∀ lower ≤ width,
      toBytes lower (high * 256 ^ width + value) = toBytes lower value from shifted width le_rfl
  intro lower bound
  induction lower with
  | zero => rfl
  | succ lower ih =>
    -- The dropped multiple is a multiple of 256 at every digit below `width`.
    have split : high * 256 ^ width = 256 ^ lower * (256 * (high * 256 ^ (width - lower - 1))) := by
      have exponent : width = lower + (1 + (width - lower - 1)) := by omega
      conv_lhs => rw [exponent, Nat.pow_add, Nat.pow_add]
      ring
    have digit : (high * 256 ^ width + value) / 256 ^ lower =
        256 * (high * 256 ^ (width - lower - 1)) + value / 256 ^ lower := by
      rw [split, Nat.mul_add_div (Nat.pow_pos (by decide))]
    simp only [toBytes, ih (by omega), digit]
    congr 1
    apply UInt8.toNat_inj.mp
    simp [UInt8.toNat_ofNat']

/-- Every octet string is the notation of its own value. -/
theorem toBytes_ofBytes (bytes : List UInt8) : toBytes bytes.length (ofBytes bytes) = bytes := by
  induction bytes with
  | nil => rfl
  | cons first rest ih =>
    have low := ofBytes_lt rest
    have high : (first.toNat * 256 ^ rest.length + ofBytes rest) / 256 ^ rest.length = first.toNat := by
      rw [Nat.mul_comm, Nat.mul_add_div (Nat.pow_pos (by decide)), Nat.div_eq_of_lt low, Nat.add_zero]
    simp only [List.length_cons, toBytes, ofBytes, high, toBytes_add_mul, ih]
    congr 1
    apply UInt8.toNat_inj.mp
    simp

end Luma.Library.BigEndian

/-! Numbers in the memory of a little-endian machine, and the swap of their octets. -/

namespace Luma.Library.ByteOrder

/-- The octets of a number as they lie in memory, least significant first. -/
def inMemory (width value : Nat) : List UInt8 := (BigEndian.toBytes width value).reverse

/-- The number whose octets are those of another in the opposite order. -/
def swap (width value : Nat) : Nat := BigEndian.ofBytes (BigEndian.toBytes width value).reverse

theorem swap_lt (width value : Nat) : swap width value < 256 ^ width := by
  have bound := BigEndian.ofBytes_lt (BigEndian.toBytes width value).reverse
  rwa [List.length_reverse, BigEndian.toBytes_length] at bound

/-- A swapped number lies in memory most significant octet first. -/
theorem inMemory_swap (width value : Nat) : inMemory width (swap width value) = BigEndian.toBytes width value := by
  have swapped := BigEndian.toBytes_ofBytes (BigEndian.toBytes width value).reverse
  rw [List.length_reverse, BigEndian.toBytes_length] at swapped
  rw [inMemory, swap, swapped, List.reverse_reverse]

end Luma.Library.ByteOrder
