import Mathlib.Algebra.Order.Ring.Nat
import Mathlib.Data.Option.Basic

/-! Slices of a text between byte offsets of its UTF-8 encoding.

A slice fails where an offset lies inside a character or behind the end.
-/

set_option autoImplicit false

namespace Luma.Library.ByteOffsets

def size (text : List Char) : Nat := (text.map Char.utf8Size).sum

/-- What is left behind so many bytes. -/
def skip : List Char → Nat → Option (List Char)
  | text, 0 => some text
  | [], _ + 1 => none
  | character :: text, bytes + 1 =>
      if character.utf8Size ≤ bytes + 1 then skip text (bytes + 1 - character.utf8Size) else none

/-- The first so many bytes. -/
def take : List Char → Nat → Option (List Char)
  | _, 0 => some []
  | [], _ + 1 => none
  | character :: text, bytes + 1 =>
      if character.utf8Size ≤ bytes + 1 then
        (take text (bytes + 1 - character.utf8Size)).map (character :: ·)
      else none

/-- `&text[start..finish]`. -/
def slice (text : List Char) (start finish : Nat) : Option (List Char) :=
  (skip text start).bind fun rest => take rest (finish - start)

variable {text front rest : List Char} {bytes : Nat}

@[simp] theorem size_nil : size [] = 0 := rfl

@[simp] theorem size_cons (character : Char) (text : List Char) :
    size (character :: text) = character.utf8Size + size text := by
  simp [size]

@[simp] theorem size_append (front rest : List Char) : size (front ++ rest) = size front + size rest := by
  simp [size]

theorem size_pos (character : Char) (text : List Char) : 0 < size (character :: text) := by
  rw [size_cons]
  exact Nat.lt_of_lt_of_le (Char.utf8Size_pos character) (Nat.le_add_right _ _)

theorem skip_cons (character : Char) (text : List Char) (bytes : Nat) :
    skip (character :: text) (character.utf8Size + bytes) = skip text bytes := by
  obtain ⟨width, wide⟩ := Nat.exists_eq_succ_of_ne_zero (Nat.pos_iff_ne_zero.mp (Char.utf8Size_pos character))
  rw [wide, Nat.succ_add, skip, wide, if_pos (Nat.succ_le_succ (Nat.le_add_right _ _)), Nat.succ_sub_succ,
    Nat.add_sub_cancel_left]

theorem take_cons (character : Char) (text : List Char) (bytes : Nat) :
    take (character :: text) (character.utf8Size + bytes) = (take text bytes).map (character :: ·) := by
  obtain ⟨width, wide⟩ := Nat.exists_eq_succ_of_ne_zero (Nat.pos_iff_ne_zero.mp (Char.utf8Size_pos character))
  rw [wide, Nat.succ_add, take, wide, if_pos (Nat.succ_le_succ (Nat.le_add_right _ _)), Nat.succ_sub_succ,
    Nat.add_sub_cancel_left]

/-- Behind a whole front part the text goes on as the rest does. -/
theorem skip_append (front rest : List Char) (bytes : Nat) :
    skip (front ++ rest) (size front + bytes) = skip rest bytes := by
  induction front with
  | nil => rw [List.nil_append, size_nil, Nat.zero_add]
  | cons character front ih => rw [size_cons, List.cons_append, Nat.add_assoc, skip_cons, ih]

theorem take_append (front rest : List Char) : take (front ++ rest) (size front) = some front := by
  induction front with
  | nil => cases rest <;> rfl
  | cons character front ih =>
    rw [size_cons, List.cons_append, take_cons, ih]
    rfl

theorem take_eq_some : take text bytes = some front ↔ ∃ rest, text = front ++ rest ∧ size front = bytes := by
  constructor
  · intro taken
    induction text generalizing bytes front with
    | nil =>
      cases bytes with
      | zero =>
        cases taken
        exact ⟨[], rfl, rfl⟩
      | succ bytes => cases taken
    | cons character text ih =>
      cases bytes with
      | zero =>
        cases taken
        exact ⟨character :: text, rfl, rfl⟩
      | succ bytes =>
        unfold take at taken
        split at taken
        · rename_i fits
          obtain ⟨behind, later, rfl⟩ := Option.map_eq_some_iff.mp taken
          obtain ⟨rest, rfl, width⟩ := ih later
          exact ⟨rest, rfl, by rw [size_cons, width]; omega⟩
        · cases taken
  · rintro ⟨rest, rfl, rfl⟩
    exact take_append front rest

/-- A slice that begins behind a whole front part. -/
theorem slice_append (front rest : List Char) (bytes : Nat) :
    slice (front ++ rest) (size front) (size front + bytes) = take rest bytes := by
  have skipped := skip_append front rest 0
  rw [Nat.add_zero] at skipped
  unfold slice
  rw [skipped, Nat.add_sub_cancel_left]
  cases rest <;> rfl

end Luma.Library.ByteOffsets
