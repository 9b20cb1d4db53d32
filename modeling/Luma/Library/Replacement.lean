import Mathlib.Data.List.Infix

/-! The replacement of every occurrence of a pattern, from the front on, where occurrences do not overlap. -/

set_option autoImplicit false

namespace Luma.Library

variable {Letter : Type} [DecidableEq Letter] (pattern new : List Letter)

/-- The replacement behind the letters of an occurrence that are passed over. -/
def replaceFrom : Nat → List Letter → List Letter
  | _, [] => []
  | passed + 1, _ :: rest => replaceFrom passed rest
  | 0, letter :: rest =>
      if pattern <+: letter :: rest then new ++ replaceFrom (pattern.length - 1) rest
      else letter :: replaceFrom 0 rest

def replaceAll (letters : List Letter) : List Letter := replaceFrom pattern new 0 letters

variable {pattern new} {letter : Letter} {rest : List Letter}

theorem replaceFrom_drop (passed : Nat) (letters : List Letter) :
    replaceFrom pattern new passed letters = replaceAll pattern new (letters.drop passed) := by
  induction letters generalizing passed with
  | nil =>
    rw [List.drop_nil]
    cases passed <;> rfl
  | cons letter rest ih =>
    cases passed with
    | zero => rfl
    | succ passed => exact ih passed

@[simp] theorem replaceAll_nil : replaceAll pattern new [] = [] := rfl

theorem replaceAll_other (absent : ¬pattern <+: letter :: rest) :
    replaceAll pattern new (letter :: rest) = letter :: replaceAll pattern new rest := by
  unfold replaceAll
  rw [replaceFrom, if_neg absent]

theorem replaceAll_match (full : pattern ≠ []) (rest : List Letter) :
    replaceAll pattern new (pattern ++ rest) = new ++ replaceAll pattern new rest := by
  obtain ⟨letter, more, rfl⟩ := List.exists_cons_of_ne_nil full
  unfold replaceAll
  rw [List.cons_append, replaceFrom, if_pos ⟨rest, rfl⟩, replaceFrom_drop, List.length_cons, Nat.add_sub_cancel,
    List.drop_left]
  rfl

/-- A text is read as the replacement reads it: occurrence by occurrence, and letter by letter between them. -/
theorem replaceAll_induct {holds : List Letter → Prop} (full : pattern ≠ []) (nil : holds [])
    (occurs : ∀ rest, holds rest → holds (pattern ++ rest))
    (other : ∀ letter rest, ¬pattern <+: letter :: rest → holds rest → holds (letter :: rest))
    (letters : List Letter) : holds letters := by
  induction size : letters.length using Nat.strong_induction_on generalizing letters with
  | _ size ih =>
    subst size
    cases letters with
    | nil => exact nil
    | cons letter rest =>
      by_cases first : pattern <+: letter :: rest
      · obtain ⟨behind, whole⟩ := first
        rw [← whole]
        have positive := List.length_pos_of_ne_nil full
        have lengths := congrArg List.length whole
        rw [List.length_append] at lengths
        exact occurs behind (ih behind.length (by omega) behind rfl)
      · exact other letter rest first (ih rest.length (Nat.lt_succ_self _) rest rfl)

/-- Letters that no occurrence begins with stay in front. -/
theorem replaceAll_append {first : Letter} {more front : List Letter} (same : pattern = first :: more)
    (absent : first ∉ front) (rest : List Letter) :
    replaceAll pattern new (front ++ rest) = front ++ replaceAll pattern new rest := by
  induction front with
  | nil => rfl
  | cons letter front ih =>
    rw [List.mem_cons, not_or] at absent
    have apart : ¬pattern <+: letter :: (front ++ rest) := by
      rw [same, List.cons_prefix_cons]
      exact fun begins => absent.1 begins.1
    rw [List.cons_append, replaceAll_other apart, ih absent.2, List.cons_append]

theorem replaceAll_eq_self {letters : List Letter} (absent : ¬pattern <:+: letters) :
    replaceAll pattern new letters = letters := by
  induction letters with
  | nil => rfl
  | cons letter rest ih =>
    rw [List.infix_cons_iff, not_or] at absent
    rw [replaceAll_other absent.1, ih absent.2]

/-- A replacement by less leaves a shorter text where there is something to replace. -/
theorem length_replaceAll (shorter : new.length < pattern.length) (letters : List Letter) :
    (replaceAll pattern new letters).length ≤ letters.length ∧
      (pattern <:+: letters → (replaceAll pattern new letters).length < letters.length) := by
  have full : pattern ≠ [] := List.ne_nil_of_length_pos (Nat.zero_lt_of_lt shorter)
  induction letters using replaceAll_induct full with
  | nil => exact ⟨Nat.le_refl _, fun within => absurd (List.infix_nil.mp within) full⟩
  | occurs rest ih =>
    rw [replaceAll_match full, List.length_append, List.length_append]
    have behind := ih.1
    exact ⟨by omega, fun _ => by omega⟩
  | other letter rest absent ih =>
    rw [replaceAll_other absent, List.length_cons, List.length_cons]
    refine ⟨Nat.succ_le_succ ih.1, fun within => Nat.succ_lt_succ (ih.2 ?_)⟩
    exact (List.infix_cons_iff.mp within).resolve_left absent

theorem replaceAll_eq_self_iff (shorter : new.length < pattern.length) (letters : List Letter) :
    replaceAll pattern new letters = letters ↔ ¬pattern <:+: letters := by
  refine ⟨fun same within => ?_, replaceAll_eq_self⟩
  have less := (length_replaceAll shorter letters).2 within
  rw [same] at less
  exact Nat.lt_irrefl _ less

/-- `str::replace`. -/
def Text.replace (text pattern new : String) : String :=
  String.ofList (replaceAll pattern.toList new.toList text.toList)

end Luma.Library
