import Mathlib.Data.Fin.Basic
import Mathlib.Logic.Function.Basic

/-! A queue in a ring of fixed size, kept as the place of its head and a count.

A push does not look whether there is space; with space it appends to the contents.
-/

set_option autoImplicit false

namespace Luma.Library

structure RingQueue (capacity : Nat) (α : Type) where
  slots : Fin capacity → α
  head : Fin capacity
  count : Nat := 0

namespace RingQueue

variable {capacity : Nat} {α : Type} (self : RingQueue capacity α)

/-- The cell that is `n` places behind the head. -/
def place (n : Nat) : Fin capacity := ⟨(self.head.val + n) % capacity, Nat.mod_lt _ self.head.pos⟩

def push (value : α) : RingQueue capacity α :=
  { self with slots := Function.update self.slots (self.place self.count) value, count := self.count + 1 }

/-- The value at the head, and the queue behind it. -/
def pop : Option (α × RingQueue capacity α) :=
  match self.count with
  | 0 => none
  | count + 1 => some (self.slots self.head, { self with head := self.place 1, count })

/-- The values in the order in which they were pushed. -/
def contents : List α := (List.range self.count).map fun n => self.slots (self.place n)

@[simp] theorem length_contents : self.contents.length = self.count := by
  simp [contents]

variable {self}

theorem place_ne {first second : Nat} (less : first < second) (near : second < capacity) :
    self.place first ≠ self.place second := by
  intro same
  have same : (self.head.val + first) % capacity = (self.head.val + second) % capacity := congrArg Fin.val same
  have divides := Nat.dvd_of_mod_eq_zero (Nat.sub_mod_eq_zero_of_mod_eq same.symm)
  have between : self.head.val + second - (self.head.val + first) = second - first := by omega
  rw [between] at divides
  have bound := Nat.le_of_dvd (by omega) divides
  omega

theorem contents_push (value : α) (space : self.count < capacity) :
    (self.push value).contents = self.contents ++ [value] := by
  have same : ∀ n, (self.push value).place n = self.place n := fun _ => rfl
  unfold contents
  have more : (self.push value).count = self.count + 1 := rfl
  rw [more, List.range_succ, List.map_append, List.map_singleton]
  congr 1
  · apply List.map_congr_left
    intro n member
    have before := List.mem_range.mp member
    rw [same]
    exact Function.update_of_ne (place_ne before space) value self.slots
  · rw [same]
    exact congrArg (fun found => [found]) (Function.update_self _ _ _)

theorem contents_pop {value : α} {after : RingQueue capacity α} (taken : self.pop = some (value, after)) :
    self.contents = value :: after.contents ∧ self.count = after.count + 1 := by
  unfold pop at taken
  cases counted : self.count with
  | zero => rw [counted] at taken; cases taken
  | succ count =>
    rw [counted] at taken
    obtain ⟨rfl, rfl⟩ := Prod.mk.inj (Option.some.inj taken)
    refine ⟨?_, rfl⟩
    unfold contents
    rw [counted, List.range_succ_eq_map, List.map_cons, List.map_map]
    congr 1
    · exact congrArg self.slots (Fin.ext (Nat.mod_eq_of_lt self.head.isLt))
    · apply List.map_congr_left
      intro n _
      refine congrArg self.slots (Fin.ext ?_)
      simp only [place, Nat.mod_add_mod]
      congr 1
      omega

theorem pop_none : self.pop = none ↔ self.contents = [] := by
  rw [← List.length_eq_zero_iff, length_contents]
  unfold pop
  cases self.count with
  | zero => exact ⟨fun _ => rfl, fun _ => rfl⟩
  | succ count => exact ⟨nofun, nofun⟩

end RingQueue

end Luma.Library
