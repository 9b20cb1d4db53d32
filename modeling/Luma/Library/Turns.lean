import Mathlib.Algebra.Ring.Nat
import Mathlib.Data.List.Basic

/-! Values that are shown in turn, each for its length, round and round. -/

set_option autoImplicit false

namespace Luma.Library.Turns

variable {α : Type} (length : α → Nat)

def total (turns : List α) : Nat := (turns.map length).sum

/-- The value whose turn it is after some time, and what remains of its turn. -/
def scan : List α → Nat → Option (α × Nat)
  | [], _ => none
  | value :: rest, elapsed =>
      if elapsed < length value then some (value, length value - elapsed) else scan rest (elapsed - length value)

/-- Without any length nobody has a turn. -/
def shown (turns : List α) (time : Nat) : Option (α × Nat) := scan length turns (time % total length turns)

variable {length}

@[simp] theorem total_nil : total length [] = 0 := rfl

@[simp] theorem total_cons (value : α) (rest : List α) :
    total length (value :: rest) = length value + total length rest := rfl

@[simp] theorem total_append (first second : List α) :
    total length (first ++ second) = total length first + total length second := by
  induction first with
  | nil => exact (Nat.zero_add _).symm
  | cons value first ih => rw [List.cons_append, total_cons, total_cons, ih, Nat.add_assoc]

theorem le_total {turns : List α} {value : α} (member : value ∈ turns) : length value ≤ total length turns := by
  induction turns with
  | nil => cases member
  | cons first turns ih =>
    rcases List.mem_cons.mp member with rfl | later
    · exact Nat.le_add_right _ _
    · exact Nat.le_trans (ih later) (Nat.le_add_left _ _)

theorem exists_positive {turns : List α} (some_ : 0 < total length turns) : ∃ value ∈ turns, 0 < length value := by
  induction turns with
  | nil => cases some_
  | cons value turns ih =>
    by_cases positive : 0 < length value
    · exact ⟨value, List.mem_cons_self, positive⟩
    · rw [total_cons] at some_
      obtain ⟨other, member, long⟩ := ih (by omega)
      exact ⟨other, List.mem_cons_of_mem _ member, long⟩

/-- Those before are over. -/
theorem scan_append (before rest : List α) (elapsed : Nat) :
    scan length (before ++ rest) (total length before + elapsed) = scan length rest elapsed := by
  induction before with
  | nil => rw [total_nil, Nat.zero_add, List.nil_append]
  | cons value before ih =>
    have behind : ¬length value + total length before + elapsed < length value := by omega
    have left : length value + total length before + elapsed - length value = total length before + elapsed := by omega
    rw [List.cons_append, total_cons, scan, if_neg behind, left, ih]

/-- The first that has a length begins. -/
theorem scan_zero (turns : List α) :
    scan length turns 0 = (turns.find? (0 < length ·)).map fun value => (value, length value) := by
  induction turns with
  | nil => rfl
  | cons value turns ih =>
    rw [scan, List.find?_cons]
    by_cases positive : 0 < length value
    · rw [if_pos positive, decide_eq_true positive]
      rfl
    · rw [if_neg positive, decide_eq_false positive, Nat.zero_sub, ih]

theorem exists_turn {turns : List α} {elapsed : Nat} (within : elapsed < total length turns) :
    ∃ before value past after, turns = before ++ value :: after ∧
      elapsed = total length before + past ∧ past < length value := by
  induction turns generalizing elapsed with
  | nil => exact absurd within (Nat.not_lt_zero _)
  | cons value turns ih =>
    by_cases first : elapsed < length value
    · exact ⟨[], value, elapsed, turns, rfl, (Nat.zero_add _).symm, first⟩
    · rw [total_cons] at within
      have inside : elapsed - length value < total length turns := by omega
      obtain ⟨before, other, past, after, rfl, whole, inside⟩ := ih inside
      refine ⟨value :: before, other, past, after, rfl, ?_, inside⟩
      rw [total_cons]
      omega

/-- At any time somebody has a turn. -/
theorem exists_shown {turns : List α} (some_ : 0 < total length turns) (time : Nat) :
    ∃ before value past after, turns = before ++ value :: after ∧
      time % total length turns = total length before + past ∧ past < length value ∧
      shown length turns time = some (value, length value - past) := by
  obtain ⟨before, value, past, after, rfl, whole, inside⟩ := exists_turn (Nat.mod_lt time some_)
  refine ⟨before, value, past, after, rfl, whole, inside, ?_⟩
  rw [shown, whole, scan_append]
  exact if_pos inside

variable {turns : List α} {time remaining : Nat} {value : α}

/-- A turn goes on while something remains of it. -/
theorem shown_add (some_ : 0 < total length turns) (shows : shown length turns time = some (value, remaining))
    {later : Nat} (soon : later < remaining) : shown length turns (time + later) = some (value, remaining - later) := by
  obtain ⟨before, value', past, after, rfl, whole, inside, shows'⟩ := exists_shown some_ time
  obtain ⟨rfl, rfl⟩ := Prod.mk.inj (Option.some.inj (shows'.symm.trans shows))
  have inTurn : total length before + past + later < total length (before ++ value' :: after) := by
    rw [total_append, total_cons]
    omega
  have place : (time + later) % total length (before ++ value' :: after) = total length before + (past + later) := by
    rw [← Nat.mod_add_mod, whole, Nat.mod_eq_of_lt inTurn, Nat.add_assoc]
  rw [shown, place, scan_append, scan, if_pos (by omega), Nat.sub_sub]

/-- When it is over, it is the turn of the next that has a length. -/
theorem shown_next (some_ : 0 < total length turns) (shows : shown length turns time = some (value, remaining)) :
    ∃ before after, turns = before ++ value :: after ∧ shown length turns (time + remaining) =
      ((after ++ before ++ [value]).find? (0 < length ·)).map fun next => (next, length next) := by
  obtain ⟨before, value', past, after, rfl, whole, inside, shows'⟩ := exists_shown some_ time
  obtain ⟨rfl, rfl⟩ := Prod.mk.inj (Option.some.inj (shows'.symm.trans shows))
  refine ⟨before, after, rfl, ?_⟩
  have own : decide (0 < length value') = true := decide_eq_true (Nat.zero_lt_of_lt inside)
  have place : (time + (length value' - past)) % total length (before ++ value' :: after) =
      (total length before + length value') % total length (before ++ value' :: after) := by
    rw [← Nat.mod_add_mod, whole, Nat.add_assoc, Nat.add_sub_cancel' (Nat.le_of_lt inside)]
  rw [shown, place, List.append_assoc, List.find?_append]
  cases found : after.find? (0 < length ·) with
  | some next =>
    have long : length next ≤ total length after := le_total (List.mem_of_find?_eq_some found)
    have positive : 0 < length next := by simpa using List.find?_some found
    have within : total length before + length value' < total length (before ++ value' :: after) := by
      rw [total_append, total_cons]
      omega
    have split : before ++ value' :: after = (before ++ [value']) ++ after := by simp
    have passed : total length before + length value' = total length (before ++ [value']) + 0 := by simp
    rw [Nat.mod_eq_of_lt within, split, passed, scan_append, scan_zero, found]
    rfl
  | none =>
    -- nobody behind has a length, so the round begins again
    have short : total length after = 0 := by
      by_contra long
      obtain ⟨other, member, positive⟩ := exists_positive (Nat.pos_of_ne_zero long)
      exact List.find?_eq_none.mp found other member (decide_eq_true positive)
    have round : total length before + length value' = total length (before ++ value' :: after) := by
      rw [total_append, total_cons, short, Nat.add_zero]
    rw [round, Nat.mod_self, scan_zero, List.find?_append, List.find?_append, List.find?_cons, List.find?_cons, own]
    rfl

end Luma.Library.Turns
