import Mathlib.Data.List.DropRight
import Mathlib.Data.List.Rotate

/-! A ring of fixed size that always takes a value, in the place of the oldest one once it is full.

It is kept as cells, the number of cells in use and the place of the next value.
-/

set_option autoImplicit false

namespace Luma.Library.RecentRing

variable {α : Type} {capacity len next : Nat} {slots : List α}

/-- Cells are used from the first one on. -/
structure Fills (capacity len next : Nat) : Prop where
  bound : len ≤ capacity
  inside : next < capacity
  ahead : len < capacity → next = len

theorem Fills.start (positive : 0 < capacity) : Fills capacity 0 0 := ⟨Nat.zero_le _, positive, fun _ => rfl⟩

theorem Fills.step (fills : Fills capacity len next) :
    Fills capacity (min (len + 1) capacity) ((next + 1) % capacity) := by
  have positive : 0 < capacity := Nat.lt_of_le_of_lt (Nat.zero_le _) fills.inside
  refine ⟨Nat.min_le_right _ _, Nat.mod_lt _ positive, fun short => ?_⟩
  have room : len + 1 < capacity := by omega
  rw [fills.ahead (by omega), Nat.mod_eq_of_lt room, Nat.min_eq_left room.le]

/-- The values in the order in which they came. -/
def recent (slots : List α) (len next : Nat) : List α := (slots.take len).rotate next

theorem recent_perm (slots : List α) (len next : Nat) : (slots.take len).Perm (recent slots len next) :=
  (List.rotate_perm _ _).symm

theorem recent_filling (size : slots.length = capacity) (bound : len ≤ capacity) :
    recent slots len len = slots.take len := by
  have whole : (slots.take len).length = len := by
    rw [List.length_take, size, Nat.min_eq_left bound]
  calc recent slots len len = (slots.take len).rotate (slots.take len).length := by rw [whole, recent]
    _ = slots.take len := List.rotate_length _

theorem exists_split (short : next < slots.length) :
    ∃ front old back, slots = front ++ old :: back ∧ front.length = next := by
  refine ⟨slots.take next, slots[next], slots.drop (next + 1), ?_, ?_⟩
  · rw [← List.drop_eq_getElem_cons short, List.take_append_drop]
  · rw [List.length_take, Nat.min_eq_left short.le]

theorem set_split (front : List α) (old : α) (back : List α) (value : α) :
    (front ++ old :: back).set front.length value = front ++ value :: back := by
  rw [List.set_append_right _ _ (Nat.le_refl _), Nat.sub_self, List.set_cons_zero]

/-- A value is put behind those that are kept. -/
theorem recent_set (fills : Fills capacity len next) (size : slots.length = capacity) (value : α) :
    recent (slots.set next value) (min (len + 1) capacity) ((next + 1) % capacity) =
      (recent slots len next ++ [value]).rtake capacity := by
  have inside := fills.inside
  obtain ⟨front, old, back, rfl, rfl⟩ := exists_split (size ▸ fills.inside)
  have apart : front ++ value :: back = (front ++ [value]) ++ back := by simp
  have place : front.length + 1 = (front ++ [value]).length := by simp
  rw [set_split]
  by_cases room : len < capacity
  · -- Nothing is used behind the next cell, and the value is the last one.
    have filled := fills.ahead room
    have few : (front ++ [value]).length ≤ capacity := by
      rw [← place]
      exact inside
    have before : recent (front ++ old :: back) len front.length = front := by
      rw [← filled, recent_filling size inside.le, List.take_left]
    have after : (front ++ value :: back).take (min (len + 1) capacity) = front ++ [value] := by
      have more : len + 1 ≤ capacity := room
      rw [Nat.min_eq_left more, ← filled, apart, place, List.take_left]
    have turns : (front ++ [value]).rotate ((front.length + 1) % capacity) = front ++ [value] := by
      rcases few.lt_or_eq with less | full
      · rw [place, Nat.mod_eq_of_lt less, List.rotate_length]
      · rw [place, full, Nat.mod_self, List.rotate_zero]
    rw [before, List.rtake, Nat.sub_eq_zero_of_le few, List.drop_zero, recent, after, turns]
  · -- Everything is used, and the next cell holds the oldest value.
    have full : len = capacity := Nat.le_antisymm fills.bound (Nat.le_of_not_lt room)
    have size' : (front ++ value :: back).length = capacity := by
      rw [← size]
      simp
    have before : recent (front ++ old :: back) len front.length = old :: back ++ front := by
      rw [recent, full, ← size, List.take_length, List.rotate_append_length_eq]
    have after : (front ++ value :: back).rotate ((front.length + 1) % capacity) = back ++ (front ++ [value]) := by
      rw [← size', List.rotate_mod, place, apart, List.rotate_append_length_eq]
    have last : (old :: back ++ front ++ [value]).rtake capacity = back ++ (front ++ [value]) := by
      have one : (old :: back ++ front ++ [value]).length - capacity = 1 := by
        rw [← size]
        simp
        omega
      rw [List.rtake, one]
      simp
    rw [before, last, recent, full, Nat.min_eq_right (Nat.le_succ _), ← size', List.take_length, size', after]

/-- What is kept of values of which the last ones are kept already. -/
theorem rtake_rtake_concat (capacity : Nat) (values : List α) (value : α) :
    (values.rtake capacity ++ [value]).rtake capacity = (values ++ [value]).rtake capacity := by
  have cut : values.rtake capacity ++ [value] = (values ++ [value]).drop (values.length - capacity) := by
    rw [List.rtake, List.drop_append_of_le_length (Nat.sub_le _ _)]
  rw [cut, List.rtake, List.rtake, List.drop_drop, List.length_drop, List.length_append, List.length_singleton]
  congr 1
  omega

end Luma.Library.RecentRing
