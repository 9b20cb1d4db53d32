import Luma.Library.BigEndian
import Luma.Library.Reader
import Luma.Protocol.Message

/-! The payload cursor and the field readers built on it. -/

set_option autoImplicit false

namespace Luma.Protocol

open Luma.Library

def readU16 (src : List UInt8) : UInt16 := UInt16.ofNat (BigEndian.ofBytes src)
def readU32 (src : List UInt8) : UInt32 := UInt32.ofNat (BigEndian.ofBytes src)
def readU64 (src : List UInt8) : UInt64 := UInt64.ofNat (BigEndian.ofBytes src)
def pushU16 (value : UInt16) : List UInt8 := BigEndian.toBytes 2 value.toNat
def pushU32 (value : UInt32) : List UInt8 := BigEndian.toBytes 4 value.toNat
def pushU64 (value : UInt64) : List UInt8 := BigEndian.toBytes 8 value.toNat

@[simp] theorem pushU16_length (value : UInt16) : (pushU16 value).length = 2 := BigEndian.toBytes_length _ _
@[simp] theorem pushU32_length (value : UInt32) : (pushU32 value).length = 4 := BigEndian.toBytes_length _ _
@[simp] theorem pushU64_length (value : UInt64) : (pushU64 value).length = 8 := BigEndian.toBytes_length _ _

@[simp] theorem readU16_pushU16 (value : UInt16) : readU16 (pushU16 value) = value := by
  rw [readU16, pushU16, BigEndian.ofBytes_toBytes_of_lt (Nat.lt_of_lt_of_le value.toNat_lt (by decide))]
  exact UInt16.ofNat_toNat

@[simp] theorem readU32_pushU32 (value : UInt32) : readU32 (pushU32 value) = value := by
  rw [readU32, pushU32, BigEndian.ofBytes_toBytes_of_lt (Nat.lt_of_lt_of_le value.toNat_lt (by decide))]
  exact UInt32.ofNat_toNat

@[simp] theorem readU64_pushU64 (value : UInt64) : readU64 (pushU64 value) = value := by
  rw [readU64, pushU64, BigEndian.ofBytes_toBytes_of_lt (Nat.lt_of_lt_of_le value.toNat_lt (by decide))]
  exact UInt64.ofNat_toNat

theorem pushU32_readU32 {src : List UInt8} (width : src.length = 4) : pushU32 (readU32 src) = src := by
  have bound : BigEndian.ofBytes src < 2 ^ 32 :=
    Nat.lt_of_lt_of_le (BigEndian.ofBytes_lt src) (by rw [width]; decide)
  rw [pushU32, readU32, UInt32.toNat_ofNat_of_lt' bound]
  exact width ▸ BigEndian.toBytes_ofBytes src

theorem pushU64_readU64 {src : List UInt8} (width : src.length = 8) : pushU64 (readU64 src) = src := by
  have bound : BigEndian.ofBytes src < 2 ^ 64 :=
    Nat.lt_of_lt_of_le (BigEndian.ofBytes_lt src) (by rw [width]; decide)
  rw [pushU64, readU64, UInt64.toNat_ofNat_of_lt' bound]
  exact width ▸ BigEndian.toBytes_ofBytes src

@[simp] theorem pushU32_append_inj {left right : UInt32} {front back : List UInt8} :
    pushU32 left ++ front = pushU32 right ++ back ↔ left = right ∧ front = back := by
  constructor
  · intro same
    obtain ⟨values, rest⟩ := List.append_inj same (by simp)
    exact ⟨by rw [← readU32_pushU32 left, values, readU32_pushU32], rest⟩
  · rintro ⟨rfl, rfl⟩
    rfl

@[simp] theorem pushU64_append_inj {left right : UInt64} {front back : List UInt8} :
    pushU64 left ++ front = pushU64 right ++ back ↔ left = right ∧ front = back := by
  constructor
  · intro same
    obtain ⟨values, rest⟩ := List.append_inj same (by simp)
    exact ⟨by rw [← readU64_pushU64 left, values, readU64_pushU64], rest⟩
  · rintro ⟨rfl, rfl⟩
    rfl

@[simp] theorem pushU32_inj {left right : UInt32} : pushU32 left = pushU32 right ↔ left = right := by
  have same : pushU32 left ++ [] = pushU32 right ++ [] ↔ left = right ∧ ([] : List UInt8) = [] := pushU32_append_inj
  simpa using same

@[simp] theorem pushU64_inj {left right : UInt64} : pushU64 left = pushU64 right ↔ left = right := by
  have same : pushU64 left ++ [] = pushU64 right ++ [] ↔ left = right ∧ ([] : List UInt8) = [] := pushU64_append_inj
  simpa using same

/-- The offset never passes the end, so the `rest` slice of the source cannot panic. -/
structure Cursor where
  bytes : List UInt8
  offset : Nat
  inBounds : offset ≤ bytes.length

namespace Cursor

abbrev Read (α : Type) := StateT Cursor (Except ProtocolError) α

def new (bytes : List UInt8) : Cursor := ⟨bytes, 0, Nat.zero_le _⟩

def remaining (self : Cursor) : List UInt8 := self.bytes.drop self.offset

/-- Slices span less than half of the 64-bit address space. -/
def Addressable (self : Cursor) : Prop := self.bytes.length < 2 ^ 63

@[simp] theorem remaining_new (bytes : List UInt8) : (new bytes).remaining = bytes := rfl

def take (count : Nat) : Read (List UInt8) := fun self =>
  let last := self.offset + count
  -- `checked_add` on `usize`
  if 2 ^ 64 ≤ last then throw (.invalidPayload "length overflow")
  else if inBounds : last ≤ self.bytes.length then
    pure ((self.bytes.drop self.offset).take count, ⟨self.bytes, last, inBounds⟩)
  else throw (.invalidPayload "truncated payload")

def byte : Read UInt8 := do
  let part ← take 1
  return part.headD 0

def u32 : Read UInt32 := do
  let part ← take 4
  return readU32 part

def u64 : Read UInt64 := do
  let part ← take 8
  return readU64 part

/-- `copy_from_slice` of a part that `take` made exactly as long as the token. -/
def array : Read SessionToken := do
  let part ← take tokenLen
  if width : part.length = tokenLen then return ⟨part, width⟩
  else throw (.invalidPayload "truncated payload")

def rest : Read (List UInt8) := fun self => pure (self.bytes.drop self.offset, self)

def isEmpty (self : Cursor) : Bool := self.offset == self.bytes.length

theorem isEmpty_iff (self : Cursor) : self.isEmpty = true ↔ self.remaining = [] := by
  have bound := self.inBounds
  simp only [isEmpty, beq_iff_eq, remaining, List.drop_eq_nil_iff]
  omega

abbrev Reads {α : Type} := Reader.Reads (ε := ProtocolError) (α := α) remaining Addressable

theorem take_reads (count : Nat) (small : count ≤ 2 ^ 32) :
    Reads (take count) (fun part bytes => part.length = count ∧ bytes = part) where
  complete := by
    rintro self _ part tail ready ⟨width, rfl⟩ split
    simp only [remaining] at split
    have available : self.offset + count ≤ self.bytes.length := by
      have lengths := congrArg List.length split
      have bound := self.inBounds
      simp only [List.length_drop, List.length_append, width] at lengths
      omega
    have fits : ¬2 ^ 64 ≤ self.offset + count := by
      unfold Addressable at ready
      omega
    refine ⟨⟨self.bytes, self.offset + count, available⟩, ?_, ?_, ready⟩
    · have front : (self.bytes.drop self.offset).take count = part := by
        rw [split, ← width, List.take_left]
      simp only [StateT.run, take, fits, available, ↓reduceIte, ↓reduceDIte, front]
      rfl
    · simp only [remaining]
      rw [← List.drop_drop, split, ← width, List.drop_left]
  faithful := by
    intro self part after ran
    simp only [StateT.run, take] at ran
    split at ran
    · cases ran
    · split at ran
      · rename_i available
        cases ran
        refine ⟨_, ⟨?_, rfl⟩, ?_⟩
        · simp only [List.length_take, List.length_drop]
          omega
        · simp only [remaining]
          rw [← List.drop_drop, List.take_append_drop]
      · cases ran

/-- A field of fixed width is read through the inverse of its notation. -/
theorem field_reads {α : Type} {count : Nat} (small : count ≤ 2 ^ 32) (read : List UInt8 → α)
    (push : α → List UInt8) (width : ∀ value, (push value).length = count)
    (written : ∀ value, read (push value) = value)
    (rewritten : ∀ part, part.length = count → push (read part) = part) :
    Reads (take count >>= fun part => pure (read part)) (fun value bytes => bytes = push value) := by
  refine ((take_reads count small).bind (fun part => Reader.Reads.pure (read part))).congr ?_
  intro value bytes
  constructor
  · rintro rfl
    exact ⟨push value, push value, [], ⟨width value, rfl⟩, ⟨(written value).symm, rfl⟩, (List.append_nil _).symm⟩
  · rintro ⟨_, part, _, ⟨exact, rfl⟩, ⟨rfl, rfl⟩, rfl⟩
    rw [List.append_nil, rewritten part exact]

theorem byte_reads : Reads byte (fun value bytes => bytes = [value]) := by
  refine field_reads (by decide) (fun part => part.headD 0) (fun value => [value]) (fun _ => rfl) (fun _ => rfl) ?_
  intro part width
  obtain ⟨value, rfl⟩ := List.length_eq_one_iff.mp width
  rfl

theorem u32_reads : Reads u32 (fun value bytes => bytes = pushU32 value) :=
  field_reads (by decide) readU32 pushU32 pushU32_length readU32_pushU32 (fun _ => pushU32_readU32)

theorem u64_reads : Reads u64 (fun value bytes => bytes = pushU64 value) :=
  field_reads (by decide) readU64 pushU64 pushU64_length readU64_pushU64 (fun _ => pushU64_readU64)

theorem array_reads : Reads array (fun token bytes => bytes = token.val) where
  complete := by
    rintro self token _ rest ready rfl split
    obtain ⟨after, ran, left, ready⟩ :=
      (take_reads tokenLen (by decide)).complete ready ⟨token.property, rfl⟩ split
    refine ⟨after, (Reader.run_bind_of_ok _ ran).trans ?_, left, ready⟩
    rw [dif_pos token.property]
    rfl
  faithful := by
    intro self token after ran
    obtain ⟨part, middle, begun, finished⟩ := Reader.run_bind_ok ran
    obtain ⟨bytes, ⟨width, rfl⟩, split⟩ := (take_reads tokenLen (by decide)).faithful begun
    rw [dif_pos width] at finished
    cases finished
    exact ⟨bytes, rfl, split⟩

theorem rest_readsAll : Reader.ReadsAll (ε := ProtocolError) remaining Addressable rest
    (fun value bytes => value = bytes) where
  complete := by
    rintro self value _ rfl
    exact ⟨self, rfl⟩
  faithful := by
    intro self value after ran
    cases ran
    rfl

/-! ## Every reader fails on the payload alone -/

def Malformed (failure : ProtocolError) : Prop := ∃ reason, failure = .invalidPayload reason

abbrev Rejects {α : Type} (reader : Read α) : Prop := Reader.Fails reader Malformed

theorem take_rejects (count : Nat) : Rejects (take count) where
  only := by
    intro self failure ran
    simp only [StateT.run, take] at ran
    split at ran
    · cases ran
      exact ⟨_, rfl⟩
    · split at ran
      · cases ran
      · cases ran
        exact ⟨_, rfl⟩

theorem byte_rejects : Rejects byte := (take_rejects 1).bind fun _ => Reader.Fails.pure _

theorem u32_rejects : Rejects u32 := (take_rejects 4).bind fun _ => Reader.Fails.pure _

theorem u64_rejects : Rejects u64 := (take_rejects 8).bind fun _ => Reader.Fails.pure _

theorem array_rejects : Rejects array := by
  refine (take_rejects tokenLen).bind ?_
  intro part
  split
  · exact Reader.Fails.pure _
  · exact Reader.Fails.throw ⟨_, rfl⟩

theorem rest_rejects : Rejects rest where
  only := by
    intro self failure ran
    cases ran

end Cursor

end Luma.Protocol
