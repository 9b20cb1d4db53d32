import Mathlib.Data.List.DropRight
import Luma.Library.Text

/-! A key and a value in one text, with a space between them. -/

set_option autoImplicit false

namespace Luma.Library.Text

/-- The text without the white space at its end. -/
def trimEnd (text : String) : String := String.ofList (text.toList.rdropWhile isWhitespace)

/-- A key that white space neither surrounds nor separates. -/
def Bare (key : String) : Prop := key ≠ "" ∧ key.toList.any isWhitespace = false

instance (key : String) : Decidable (Bare key) := instDecidableAnd

theorem trim_rdropWhile (text : String) :
    trim text = String.ofList ((text.toList.dropWhile isWhitespace).rdropWhile isWhitespace) := rfl

/-! ## Characters -/

section Characters

variable {Letter : Type} (blank : Letter → Bool)

theorem rdropWhile_cons (letter : Letter) (rest : List Letter) :
    (letter :: rest).rdropWhile blank =
      if rest.rdropWhile blank = [] ∧ blank letter = true then [] else letter :: rest.rdropWhile blank := by
  unfold List.rdropWhile
  rw [List.reverse_cons, List.dropWhile_append]
  by_cases nothing : rest.reverse.dropWhile blank = []
  · rw [if_pos (List.isEmpty_iff.mpr nothing), nothing]
    cases blankness : blank letter <;> simp [blankness]
  · rw [if_neg (mt List.isEmpty_iff.mp nothing), if_neg (by simp [nothing])]
    simp

/-- A text is trimmed at one end and then at the other, in either order. -/
theorem dropWhile_rdropWhile (letters : List Letter) :
    (letters.rdropWhile blank).dropWhile blank = (letters.dropWhile blank).rdropWhile blank := by
  induction letters with
  | nil => rfl
  | cons letter rest ih =>
    rw [rdropWhile_cons, List.dropWhile_cons]
    cases blankness : blank letter with
    | true =>
      rw [if_pos rfl]
      split
      · rename_i ends
        rw [← ih, ends.1]
      · rw [List.dropWhile_cons, if_pos blankness, ih]
    | false =>
      rw [if_neg Bool.false_ne_true, if_neg (by simp), List.dropWhile_cons, if_neg (by simp [blankness]),
        rdropWhile_cons, if_neg (by simp [blankness])]

theorem rdropWhile_append {back : List Letter} (full : back.rdropWhile blank ≠ []) (front : List Letter) :
    (front ++ back).rdropWhile blank = front ++ back.rdropWhile blank := by
  induction front with
  | nil => rfl
  | cons letter rest ih =>
    rw [List.cons_append, rdropWhile_cons, ih, if_neg (by simp [full])]
    rfl

theorem dropWhile_bare {letters : List Letter} (bare : ∀ letter ∈ letters, blank letter = false) :
    letters.dropWhile blank = letters := by
  cases letters with
  | nil => rfl
  | cons letter rest => rw [List.dropWhile_cons, bare letter List.mem_cons_self, if_neg Bool.false_ne_true]

end Characters

theorem splitAtFirst_append {separator : Char} {front : List Char} (absent : separator ∉ front) (rest : List Char) :
    splitAtFirst separator (front ++ separator :: rest) = some (front, rest) := by
  induction front with
  | nil => exact if_pos rfl
  | cons character front ih =>
    rw [List.mem_cons, not_or] at absent
    obtain ⟨other, absent⟩ := absent
    rw [List.cons_append, splitAtFirst, if_neg (Ne.symm other), ih absent]
    rfl

/-! ## Texts -/

variable {key value : String}

theorem splitOnce_append (absent : ' ' ∉ key.toList) (value : String) :
    splitOnce (key ++ (" " ++ value)) ' ' = some (key, value) := by
  unfold splitOnce
  rw [String.toList_append, String.toList_append]
  show (splitAtFirst ' ' (key.toList ++ ' ' :: value.toList)).map _ = _
  rw [splitAtFirst_append absent]
  simp

theorem Bare.letters (bare : Bare key) : ∀ character ∈ key.toList, isWhitespace character = false := by
  simpa using List.any_eq_false.mp bare.2

theorem Bare.no_space (bare : Bare key) : ' ' ∉ key.toList := by
  intro there
  have blank := bare.letters ' ' there
  exact absurd blank (by decide)

theorem Bare.trim_eq (bare : Bare key) : trim key = key := by
  have reversed : ∀ character ∈ key.toList.reverse, isWhitespace character = false := fun character there =>
    bare.letters character (List.mem_reverse.mp there)
  rw [trim_rdropWhile, dropWhile_bare isWhitespace bare.letters, List.rdropWhile, dropWhile_bare isWhitespace reversed,
    List.reverse_reverse, String.ofList_toList]

theorem trim_trimEnd (value : String) : trim (trimEnd value) = trim value := by
  unfold trimEnd
  rw [trim_rdropWhile, trim_rdropWhile, String.toList_ofList, dropWhile_rdropWhile, List.rdropWhile_idempotent]

/-- White space in front of a value stays. -/
theorem trim_pair (bare : Bare key) (full : trim value ≠ "") :
    trim (key ++ (" " ++ value)) = key ++ (" " ++ trimEnd value) := by
  have ends : value.toList.rdropWhile isWhitespace ≠ [] := by
    intro nothing
    rw [trim_rdropWhile, ← dropWhile_rdropWhile, nothing] at full
    exact full rfl
  have parts : (key ++ (" " ++ value)).toList = (key.toList ++ [' ']) ++ value.toList := by
    rw [String.toList_append, String.toList_append, List.append_assoc]
    rfl
  obtain ⟨letter, rest, letters⟩ : ∃ letter rest, key.toList = letter :: rest := by
    cases written : key.toList with
    | nil => exact absurd (String.toList_eq_nil_iff.mp written) bare.1
    | cons letter rest => exact ⟨letter, rest, rfl⟩
  have visible : isWhitespace letter = false := bare.letters letter (letters ▸ List.mem_cons_self)
  have front : (key ++ (" " ++ value)).toList.dropWhile isWhitespace = (key.toList ++ [' ']) ++ value.toList := by
    rw [parts, letters, List.cons_append, List.cons_append, List.dropWhile_cons, visible, if_neg Bool.false_ne_true]
  rw [trim_rdropWhile, front, rdropWhile_append isWhitespace ends, String.ofList_append, String.ofList_append,
    String.ofList_toList, String.append_assoc]
  rfl

end Luma.Library.Text
