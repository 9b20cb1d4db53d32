import Mathlib.Data.List.Basic

/-! Texts on a single line: words with one space between them, and what is left of them behind a number of letters. -/

set_option autoImplicit false

namespace Luma.Library.SingleLine

variable {Letter : Type} (blank : Letter → Bool) (space : Letter)

/-- The maximal runs of letters that are not blank. -/
def words (letters : List Letter) : List (List Letter) :=
  (letters.splitOnP blank).filter fun word => !word.isEmpty

def joined (letters : List Letter) : List Letter := [space].intercalate (words blank letters)

/-- The words letter by letter. Behind a word a space is owed, which comes with the next word. -/
def joinFrom : Bool → Bool → List Letter → List Letter
  | _, _, [] => []
  | started, owed, letter :: rest =>
      if blank letter then joinFrom started started rest
      else (if owed then [space] else []) ++ letter :: joinFrom true false rest

/-- What comes before a number of letters that are not blank is complete. -/
def cut : Nat → List Letter → List Letter
  | 0, _ => []
  | _ + 1, [] => []
  | count + 1, letter :: rest => letter :: cut (if blank letter then count + 1 else count) rest

/-- Spaces stand between words only, and one at a time. -/
structure Tidy (letters : List Letter) : Prop where
  plain : ∀ letter ∈ letters, blank letter = true → letter = space
  single : ¬[space, space] <:+: letters
  front : letters.head? ≠ some space
  back : letters.getLast? ≠ some space

/-- Behind each blank there is a letter of a word. -/
def Followed : List Letter → Prop
  | [] => True
  | letter :: rest => (blank letter = true → ∃ next more, rest = next :: more ∧ blank next = false) ∧ Followed rest

variable {blank space}

/-! ## Joining letter by letter -/

theorem intercalate_cons (word : List Letter) (others : List (List Letter)) :
    [space].intercalate (word :: others) = word ++ others.flatMap (space :: ·) := by
  induction others generalizing word with
  | nil => simp
  | cons next others ih => simp [List.intercalate_cons_cons, ih]

theorem splitOnP_blank {letter : Letter} (blankness : blank letter = true) (rest : List Letter) :
    (letter :: rest).splitOnP blank = [] :: rest.splitOnP blank := by
  rw [List.splitOnP_cons_eq_if_modifyHead, if_pos blankness]

theorem splitOnP_letter {letter : Letter} (visible : blank letter = false) {rest : List Letter} {first : List Letter}
    {others : List (List Letter)} (split : rest.splitOnP blank = first :: others) :
    (letter :: rest).splitOnP blank = (letter :: first) :: others := by
  rw [List.splitOnP_cons_eq_if_modifyHead, if_neg (by simp [visible]), split]
  rfl

/-- Within a word the rest of it comes first, and behind it each word comes with its space. -/
theorem joinFrom_started (blank : Letter → Bool) (space : Letter) (letters : List Letter) :
    joinFrom blank space true true letters = (words blank letters).flatMap (space :: ·) ∧
      ∀ first others, letters.splitOnP blank = first :: others →
        joinFrom blank space true false letters =
          first ++ (others.filter fun word => !word.isEmpty).flatMap (space :: ·) := by
  induction letters with
  | nil =>
    refine ⟨rfl, fun first others split => ?_⟩
    cases split
    rfl
  | cons letter rest ih =>
    cases visible : blank letter with
    | true =>
      simp only [joinFrom, visible, if_true]
      refine ⟨?_, fun first others split => ?_⟩
      · rw [ih.1, words, words, splitOnP_blank visible]
        rfl
      · rw [splitOnP_blank visible] at split
        cases split
        exact ih.1
    | false =>
      obtain ⟨first, others, split⟩ := List.exists_cons_of_ne_nil (List.splitOnP_ne_nil blank rest)
      have next := ih.2 first others split
      simp only [joinFrom, visible, if_true, Bool.false_eq_true, if_false, List.nil_append]
      refine ⟨?_, fun first' others' split' => ?_⟩
      · rw [next, words, splitOnP_letter visible split]
        simp
      · rw [splitOnP_letter visible split] at split'
        cases split'
        rw [next, List.cons_append]

theorem joinFrom_eq (letters : List Letter) :
    joinFrom blank space false false letters = joined blank space letters := by
  induction letters with
  | nil => rfl
  | cons letter rest ih =>
    cases visible : blank letter with
    | true =>
      rw [joinFrom, if_pos visible, ih, joined, joined, words, words, splitOnP_blank visible]
      rfl
    | false =>
      obtain ⟨first, others, split⟩ := List.exists_cons_of_ne_nil (List.splitOnP_ne_nil blank rest)
      have next := (joinFrom_started blank space rest).2 first others split
      rw [joinFrom, if_neg (by simp [visible]), next, joined, words, splitOnP_letter visible split,
        List.filter_cons_of_pos (by simp), intercalate_cons]
      rfl

/-! ## Cutting -/

@[simp] theorem cut_zero (letters : List Letter) : cut blank 0 letters = [] := by
  cases letters <;> rfl

@[simp] theorem cut_nil (count : Nat) : cut blank count [] = [] := by
  cases count <;> rfl

theorem cut_begins (blank : Letter → Bool) (count : Nat) (letters : List Letter) : cut blank count letters <+: letters := by
  induction letters generalizing count with
  | nil => simp
  | cons letter rest ih =>
    cases count with
    | zero => simp
    | succ count => exact (List.prefix_cons_inj letter).mpr (ih _)

/-- What is cut off has the letters that are asked for, or is everything. -/
theorem le_length_cut (blank : Letter → Bool) (count : Nat) (letters : List Letter) :
    min count letters.length ≤ (cut blank count letters).length := by
  induction letters generalizing count with
  | nil =>
    rw [cut_nil]
    exact Nat.min_le_right _ _
  | cons letter rest ih =>
    cases count with
    | zero =>
      rw [cut_zero]
      exact Nat.min_le_left _ _
    | succ count =>
      rw [cut, List.length_cons, List.length_cons]
      split
      · have behind := ih (count + 1)
        omega
      · have behind := ih count
        omega

/-- The blanks count for nothing, so the bound is kept where there are none before it, or nothing behind it. -/
theorem length_cut_le_iff (count : Nat) (letters : List Letter) :
    (cut blank count letters).length ≤ count ↔
      letters.length ≤ count ∨ count ≤ (letters.takeWhile fun letter => !blank letter).length := by
  induction letters generalizing count with
  | nil => simp
  | cons letter rest ih =>
    cases count with
    | zero => simp
    | succ count =>
      cases visible : blank letter with
      | true =>
        have enough := le_length_cut blank (count + 1) rest
        have upTo := (cut_begins blank (count + 1) rest).length_le
        simp only [cut, visible, if_true, List.length_cons, List.takeWhile_cons, Bool.not_true, Bool.false_eq_true,
          if_false, List.length_nil]
        omega
      | false =>
        have behind := ih count
        simp only [cut, visible, Bool.false_eq_true, if_false, List.length_cons, List.takeWhile_cons, Bool.not_false,
          if_true]
        omega

/-! ## Joined and cut texts -/

theorem followed_cut (count : Nat) (started owed : Bool) (letters : List Letter) (blankSpace : blank space = true) :
    Followed blank (cut blank count (joinFrom blank space started owed letters)) := by
  induction letters generalizing count started owed with
  | nil =>
    rw [joinFrom, cut_nil]
    trivial
  | cons letter rest ih =>
    cases visible : blank letter with
    | true =>
      rw [joinFrom, if_pos visible]
      exact ih count started started
    | false =>
      rw [joinFrom, if_neg (by simp [visible])]
      cases count with
      | zero =>
        rw [cut_zero]
        trivial
      | succ count =>
        have word : Followed blank (letter :: cut blank count (joinFrom blank space true false rest)) :=
          ⟨fun blankness => absurd (visible.symm.trans blankness) Bool.false_ne_true, ih count true false⟩
        cases owed with
        | false => simpa [cut, visible] using word
        | true => simpa [cut, visible, blankSpace] using ⟨fun _ => ⟨letter, _, rfl, visible⟩, word⟩

theorem plain_joinFrom (started owed : Bool) (letters : List Letter) :
    ∀ letter ∈ joinFrom blank space started owed letters, blank letter = true → letter = space := by
  induction letters generalizing started owed with
  | nil => intro _ there; cases there
  | cons letter rest ih =>
    intro other there blankness
    rw [joinFrom] at there
    split at there
    · exact ih started started other there blankness
    · rename_i visible
      rcases List.mem_append.mp there with space_ | word
      · cases owed with
        | false => cases space_
        | true => exact List.mem_singleton.mp space_
      · rcases List.mem_cons.mp word with rfl | later
        · exact absurd blankness visible
        · exact ih true false other later blankness

theorem front_joinFrom (letters : List Letter) :
    ∀ letter ∈ (joinFrom blank space false false letters).head?, blank letter = false := by
  induction letters with
  | nil => intro _ first; cases first
  | cons letter rest ih =>
    rw [joinFrom]
    split
    · exact ih
    · rename_i visible
      rintro _ ⟨⟩
      exact Bool.eq_false_iff.mpr visible

theorem single_of_followed {letters : List Letter} (followed : Followed blank letters)
    (blankSpace : blank space = true) : ¬[space, space] <:+: letters := by
  induction letters with
  | nil => exact fun within => absurd (List.infix_nil.mp within) (List.cons_ne_nil _ _)
  | cons letter rest ih =>
    intro within
    rcases List.infix_cons_iff.mp within with first | later
    · obtain ⟨more, whole⟩ := first
      cases whole
      obtain ⟨next, _, same, visible⟩ := followed.1 blankSpace
      cases same
      exact absurd (visible.symm.trans blankSpace) Bool.false_ne_true
    · exact ih followed.2 later

theorem back_of_followed {letters : List Letter} (followed : Followed blank letters) (blankSpace : blank space = true) :
    letters.getLast? ≠ some space := by
  induction letters with
  | nil => exact fun last => by cases last
  | cons letter rest ih =>
    cases rest with
    | nil =>
      rintro ⟨⟩
      obtain ⟨_, _, same, -⟩ := followed.1 blankSpace
      cases same
    | cons next more =>
      rw [List.getLast?_cons_cons]
      exact ih followed.2

theorem tidy_cut_joined (count : Nat) (letters : List Letter) (blankSpace : blank space = true) :
    Tidy blank space (cut blank count (joined blank space letters)) := by
  rw [← joinFrom_eq]
  have followed := followed_cut count false false letters blankSpace
  have within := cut_begins blank count (joinFrom blank space false false letters)
  refine ⟨?_, single_of_followed followed blankSpace, ?_, back_of_followed followed blankSpace⟩
  · intro letter there
    exact plain_joinFrom false false letters letter (within.mem there)
  · intro first
    obtain ⟨more, whole⟩ := within
    have head : (joinFrom blank space false false letters).head? = some space := by
      rw [← whole, List.head?_append, first]
      rfl
    exact absurd ((front_joinFrom letters space head).symm.trans blankSpace) Bool.false_ne_true

theorem cut_cut (count : Nat) (letters : List Letter) :
    cut blank count (cut blank count letters) = cut blank count letters := by
  induction letters generalizing count with
  | nil => rw [cut_nil, cut_nil]
  | cons letter rest ih =>
    cases count with
    | zero => rw [cut_zero, cut_zero]
    | succ count => rw [cut, cut, ih]

/-- What was joined and cut is joined already. -/
theorem joinFrom_cut (count : Nat) (started owed : Bool) (letters : List Letter) (blankSpace : blank space = true)
    (begun : owed = true → started = true) :
    joinFrom blank space started false (cut blank count (joinFrom blank space started owed letters)) =
      cut blank count (joinFrom blank space started owed letters) := by
  induction letters generalizing count started owed with
  | nil =>
    rw [joinFrom, cut_nil]
    rfl
  | cons letter rest ih =>
    cases visible : blank letter with
    | true =>
      rw [joinFrom, if_pos visible]
      exact ih count started started id
    | false =>
      rw [joinFrom, if_neg (by simp [visible])]
      cases count with
      | zero =>
        rw [cut_zero]
        rfl
      | succ count =>
        have word := ih count true false (fun owes => by cases owes)
        cases owed with
        | false => simp [cut, joinFrom, visible, word]
        | true =>
          cases begun rfl
          simp [cut, joinFrom, visible, blankSpace, word]

theorem joined_cut (count : Nat) (letters : List Letter) (blankSpace : blank space = true) :
    joined blank space (cut blank count (joined blank space letters)) =
      cut blank count (joined blank space letters) := by
  rw [← joinFrom_eq, ← joinFrom_eq]
  exact joinFrom_cut count false false letters blankSpace (fun owes => by cases owes)

end Luma.Library.SingleLine
