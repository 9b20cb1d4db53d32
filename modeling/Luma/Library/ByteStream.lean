import Mathlib.Data.List.Basic

/-! A connected byte stream as one endpoint sees it.

Octets arrive in chunks that need not be the chunks the peer wrote. An exact
read depends only on their concatenation.
-/

set_option autoImplicit false

namespace Luma.Library

structure ByteStream where
  inbound : List (List UInt8) := []
  outbound : List UInt8 := []
  /-- Octets the connection still takes before a write fails, if it ever does. -/
  room : Option Nat := none
  deriving DecidableEq, Repr

namespace ByteStream

/-- Octets taken off the chunks until `count` are read. -/
def readChunks : Nat → List (List UInt8) → Option (List UInt8 × List (List UInt8))
  | 0, chunks => some ([], chunks)
  | _ + 1, [] => none
  | count + 1, chunk :: chunks =>
      if count + 1 ≤ chunk.length then
        some (chunk.take (count + 1), chunk.drop (count + 1) :: chunks)
      else (readChunks (count + 1 - chunk.length) chunks).map fun read => (chunk ++ read.1, read.2)

/-- A read that meets the end of the stream has taken everything before it. -/
def readExact (self : ByteStream) (count : Nat) : Option (List UInt8) × ByteStream :=
  match readChunks count self.inbound with
  | some (bytes, inbound) => (some bytes, { self with inbound })
  | none => (none, { self with inbound := [] })

/-- A write that fails may have sent a proper prefix. -/
def writeAll (self : ByteStream) (bytes : List UInt8) : Option Unit × ByteStream :=
  match self.room with
  | none => (some (), { self with outbound := self.outbound ++ bytes })
  | some room =>
      if bytes.length ≤ room then
        (some (), { self with outbound := self.outbound ++ bytes, room := some (room - bytes.length) })
      else (none, { self with outbound := self.outbound ++ bytes.take room, room := some 0 })

theorem readChunks_of_le (count : Nat) (chunks : List (List UInt8)) (enough : count ≤ chunks.flatten.length) :
    ∃ rest, readChunks count chunks = some (chunks.flatten.take count, rest) ∧
      rest.flatten = chunks.flatten.drop count := by
  induction chunks generalizing count with
  | nil =>
    obtain rfl : count = 0 := Nat.le_zero.mp enough
    exact ⟨[], rfl, rfl⟩
  | cons chunk chunks ih =>
    cases count with
    | zero => exact ⟨chunk :: chunks, by simp [readChunks], by simp⟩
    | succ count =>
      rw [List.flatten_cons, List.length_append] at enough
      unfold readChunks
      by_cases within : count + 1 ≤ chunk.length
      · refine ⟨chunk.drop (count + 1) :: chunks, ?_, ?_⟩
        · rw [if_pos within, List.flatten_cons, List.take_append_of_le_length within]
        · rw [List.flatten_cons, List.flatten_cons, List.drop_append_of_le_length within]
      · -- This chunk is used up; the rest of the request comes from the others.
        obtain ⟨rest, read, left⟩ := ih (count + 1 - chunk.length) (by omega)
        have past : chunk.length ≤ count + 1 := by omega
        refine ⟨rest, ?_, ?_⟩
        · rw [if_neg within, read, Option.map_some, List.flatten_cons, List.take_append,
            List.take_of_length_le past]
        · rw [left, List.flatten_cons, List.drop_append, List.drop_of_length_le past, List.nil_append]

theorem readChunks_of_lt (count : Nat) (chunks : List (List UInt8)) (short : chunks.flatten.length < count) :
    readChunks count chunks = none := by
  induction chunks generalizing count with
  | nil =>
    cases count with
    | zero => exact absurd short (Nat.lt_irrefl 0)
    | succ count => rfl
  | cons chunk chunks ih =>
    rw [List.flatten_cons, List.length_append] at short
    cases count with
    | zero => omega
    | succ count =>
      unfold readChunks
      rw [if_neg (by omega), ih (count + 1 - chunk.length) (by omega), Option.map_none]

/-- How the octets were split into chunks does not matter to an exact read. -/
theorem readExact_of_arrived {self : ByteStream} {bytes later : List UInt8}
    (arrived : self.inbound.flatten = bytes ++ later) :
    ∃ inbound, self.readExact bytes.length = (some bytes, { self with inbound }) ∧ inbound.flatten = later := by
  obtain ⟨rest, read, left⟩ := readChunks_of_le bytes.length self.inbound (by simp [arrived])
  rw [arrived, List.take_left] at read
  rw [arrived, List.drop_left] at left
  exact ⟨rest, by simp only [readExact, read], left⟩

theorem readExact_of_short {self : ByteStream} {count : Nat} (short : self.inbound.flatten.length < count) :
    self.readExact count = (none, { self with inbound := [] }) := by
  simp only [readExact, readChunks_of_lt count self.inbound short]

theorem writeAll_ok {self sent : ByteStream} {bytes : List UInt8}
    (written : self.writeAll bytes = (some (), sent)) :
    sent.outbound = self.outbound ++ bytes ∧ sent.inbound = self.inbound := by
  unfold writeAll at written
  split at written
  · cases written
    exact ⟨rfl, rfl⟩
  · split at written
    · cases written
      exact ⟨rfl, rfl⟩
    · cases written

end ByteStream

end Luma.Library
