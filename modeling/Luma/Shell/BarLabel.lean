import Luma.Library.SingleLine
import Luma.Library.Text

/-! Labels of the bar, from texts of other programs. -/

set_option autoImplicit false

namespace Luma.Shell.BarLabel

open Luma.Library

/-- The Unicode category of control characters. -/
def isControl (character : Char) : Bool := character.toNat < 0x20 || (0x7f ≤ character.toNat && character.toNat ≤ 0x9f)

def separates (character : Char) : Bool := isControl character || Text.isWhitespace character

/-- The rounds over the characters, with the label so far. -/
def labelFrom (maximum : Nat) : List Char → List Char → Bool → Nat → List Char
  | [], label, _, _ => label
  | character :: rest, label, pendingSpace, count =>
      if separates character then labelFrom maximum rest label (!label.isEmpty) count
      else
        let label := (if pendingSpace then label ++ [' '] else label) ++ [character]
        if count + 1 ≥ maximum then label else labelFrom maximum rest label false (count + 1)

def barLabelText (value : String) (maximum : Nat) : String :=
  if maximum = 0 then "" else String.ofList (labelFrom maximum value.toList [] false 0)

/-- The words of the value, which control characters separate as well, with single spaces between them. -/
def normalized (value : String) : List Char := SingleLine.joined separates ' ' value.toList

/-- The first of these words. -/
def firstWord (value : String) : List Char := (normalized value).takeWhile fun character => !separates character

variable {maximum : Nat}

/-- What the rounds add is the joined text, up to the characters that are left. -/
theorem labelFrom_eq (characters label : List Char) (pendingSpace : Bool) {count : Nat} (room : count < maximum) :
    labelFrom maximum characters label pendingSpace count =
      label ++ SingleLine.cut separates (maximum - count)
        (SingleLine.joinFrom separates ' ' (!label.isEmpty) pendingSpace characters) := by
  have blank : separates ' ' = true := by decide
  induction characters generalizing label pendingSpace count with
  | nil => simp [labelFrom, SingleLine.joinFrom]
  | cons character rest ih =>
    rw [labelFrom, SingleLine.joinFrom]
    split
    · exact ih label (!label.isEmpty) room
    · rename_i visible
      obtain ⟨left, counted⟩ : ∃ left, maximum - count = left + 1 := ⟨maximum - count - 1, by omega⟩
      have added : ∀ text : List Char, (!(text ++ [character]).isEmpty) = true := fun text => by simp
      have cut : (if pendingSpace then label ++ [' '] else label) ++ [character] ++
          SingleLine.cut separates left (SingleLine.joinFrom separates ' ' true false rest) =
            label ++ SingleLine.cut separates (maximum - count) ((if pendingSpace then [' '] else []) ++
              character :: SingleLine.joinFrom separates ' ' true false rest) := by
        rw [counted]
        cases pendingSpace <;> simp [SingleLine.cut, visible, blank]
      rw [← cut]
      dsimp only
      split
      · rename_i full
        have none_ : left = 0 := by omega
        rw [none_, SingleLine.cut_zero, List.append_nil]
      · rename_i more
        rw [ih _ false (by omega), added, show maximum - (count + 1) = left by omega]

theorem barLabelText_eq (value : String) (maximum : Nat) :
    (barLabelText value maximum).toList = SingleLine.cut separates maximum (normalized value) := by
  unfold barLabelText normalized
  split
  · rename_i nothing
    rw [nothing, SingleLine.cut_zero]
    rfl
  · rename_i some_
    rw [String.toList_ofList, labelFrom_eq value.toList [] false (Nat.pos_of_ne_zero some_), List.nil_append,
      Nat.sub_zero]
    exact congrArg _ (SingleLine.joinFrom_eq value.toList)

/-- A label is a tidy beginning of the joined words, and is its own label. It is within the maximum exactly if the words
and their spaces are, or the first word alone is not shorter. -/
theorem barLabelText_single_line (value : String) (maximum : Nat) :
    ((barLabelText value maximum).toList.length ≤ maximum ↔
        (normalized value).length ≤ maximum ∨ maximum ≤ (firstWord value).length) ∧
      SingleLine.Tidy separates ' ' (barLabelText value maximum).toList ∧
      (barLabelText value maximum).toList <+: normalized value ∧
      barLabelText (barLabelText value maximum) maximum = barLabelText value maximum := by
  have blank : separates ' ' = true := by decide
  have again : (barLabelText (barLabelText value maximum) maximum).toList = (barLabelText value maximum).toList := by
    rw [barLabelText_eq, normalized, barLabelText_eq, normalized, SingleLine.joined_cut _ _ blank, SingleLine.cut_cut]
  refine ⟨?_, ?_, ?_, String.toList_injective again⟩
  · rw [barLabelText_eq]
    exact SingleLine.length_cut_le_iff maximum (normalized value)
  · rw [barLabelText_eq]
    exact SingleLine.tidy_cut_joined maximum value.toList blank
  · rw [barLabelText_eq]
    exact SingleLine.cut_begins separates maximum (normalized value)

/-- The space between two words is not counted. -/
theorem barLabelText_exceeds :
    ¬∀ (value : String) (maximum : Nat), (barLabelText value maximum).toList.length ≤ maximum := by
  intro bounded
  exact absurd (bounded "a b" 2) (by decide)

end Luma.Shell.BarLabel
