import Mathlib.Data.List.DropRight
import Luma.Library.Text

/-! The query of the launcher, whose first character says what is searched. -/

set_option autoImplicit false

namespace Luma.Shell.Launcher

open Luma.Library

inductive LauncherCategory where
  | apps
  | windows
  | commands
  | power
  deriving DecidableEq, Repr

def launcherCategoryForQuery (query : String) : LauncherCategory :=
  match (Text.trimStart query).toList.head? with
  | some '@' => .windows
  | some '>' => .commands
  | some ':' => .power
  | _ => .apps

/-- What is searched, without the character for the category. -/
def launcherTerm (query : String) : String :=
  let query := Text.trimStart query
  Text.trimStart ((((Text.stripPrefix '@' query).or (Text.stripPrefix '>' query)).or
    (Text.stripPrefix ':' query)).getD query)

def launcherQueryForCategory (category : LauncherCategory) (query : String) : String :=
  let term := launcherTerm query
  match category with
  | .apps => term
  | .windows => "@" ++ term
  | .commands => "> " ++ term
  | .power => ":" ++ term

/-! ## Marks -/

/-- A character for a category. -/
def isMark (character : Char) : Bool := character = '@' || character = '>' || character = ':'

/-- White space aside, the query begins with the characters of two categories. -/
def TwoMarks (query : String) : Prop :=
  ∃ blanks first gap second rest, query.toList = blanks ++ first :: (gap ++ second :: rest) ∧
    (∀ character ∈ blanks ++ gap, Text.isWhitespace character = true) ∧ isMark first = true ∧ isMark second = true

/-- A click leaves what is searched as it is. -/
def Keeps (category : LauncherCategory) (query : String) : Prop := category = .apps → ¬TwoMarks query

theorem not_blank_of_mark {character : Char} (mark : isMark character = true) :
    Text.isWhitespace character = false := by
  simp only [isMark, Bool.or_eq_true, decide_eq_true_eq] at mark
  rcases mark with (rfl | rfl) | rfl <;> decide

theorem blank_iff_of_dropWhile {characters rest : List Char} {first : Char}
    (front : characters.dropWhile Text.isWhitespace = first :: rest) : Text.isWhitespace first = false := by
  have stops := List.head?_dropWhile_not Text.isWhitespace characters
  rw [front] at stops
  exact stops

/-- The term of a query without white space in front, character by character. -/
def termOf : List Char → List Char
  | [] => []
  | first :: rest => if isMark first then rest.dropWhile Text.isWhitespace else first :: rest

theorem launcherTerm_eq (query : String) :
    (launcherTerm query).toList = termOf (query.toList.dropWhile Text.isWhitespace) := by
  unfold launcherTerm Text.trimStart Text.stripPrefix
  simp only [String.toList_ofList]
  cases front : query.toList.dropWhile Text.isWhitespace with
  | nil => rfl
  | cons first rest =>
    have visible := blank_iff_of_dropWhile front
    by_cases windows : first = '@'
    · simp [termOf, isMark, windows]
    · by_cases commands : first = '>'
      · simp [termOf, isMark, commands]
      · by_cases power : first = ':'
        · simp [termOf, isMark, power]
        · simp [termOf, isMark, windows, commands, power, visible]

theorem termOf_trimmed (query : String) :
    (launcherTerm query).toList.dropWhile Text.isWhitespace = (launcherTerm query).toList := by
  rw [launcherTerm_eq]
  cases front : query.toList.dropWhile Text.isWhitespace with
  | nil => rfl
  | cons first rest =>
    rw [termOf]
    split
    · exact List.dropWhile_idempotent Text.isWhitespace _
    · rw [List.dropWhile_cons, if_neg (by simp [blank_iff_of_dropWhile front])]

/-- Two marks are one mark in front of what is searched. -/
theorem twoMarks_iff (query : String) :
    TwoMarks query ↔ ∃ mark rest, (launcherTerm query).toList = mark :: rest ∧ isMark mark = true := by
  rw [launcherTerm_eq]
  constructor
  · rintro ⟨blanks, first, gap, second, rest, whole, blank, mark, mark'⟩
    have front : query.toList.dropWhile Text.isWhitespace = first :: (gap ++ second :: rest) := by
      rw [whole, List.dropWhile_append_of_pos fun character there => blank character (List.mem_append_left _ there),
        List.dropWhile_cons, if_neg (by simp [not_blank_of_mark mark])]
    refine ⟨second, rest, ?_, mark'⟩
    rw [front, termOf, if_pos mark,
      List.dropWhile_append_of_pos fun character there => blank character (List.mem_append_right _ there),
      List.dropWhile_cons, if_neg (by simp [not_blank_of_mark mark'])]
  · rintro ⟨mark, rest, term, isMark_⟩
    cases front : query.toList.dropWhile Text.isWhitespace with
    | nil =>
      rw [front] at term
      cases term
    | cons first behind =>
      rw [front, termOf] at term
      split at term
      · rename_i first_
        refine ⟨query.toList.takeWhile Text.isWhitespace, first, behind.takeWhile Text.isWhitespace, mark, rest, ?_, ?_,
          first_, isMark_⟩
        · rw [← term, List.takeWhile_append_dropWhile, ← front, List.takeWhile_append_dropWhile]
        · intro character there
          rcases List.mem_append.mp there with before | between
          · exact List.mem_takeWhile_imp before
          · exact List.mem_takeWhile_imp between
      · rename_i other
        cases term
        exact absurd isMark_ other

/-! ## Switching -/

theorem render_marked (query : String) :
    (launcherQueryForCategory .windows query).toList = '@' :: (launcherTerm query).toList ∧
      (launcherQueryForCategory .commands query).toList = '>' :: ' ' :: (launcherTerm query).toList ∧
      (launcherQueryForCategory .power query).toList = ':' :: (launcherTerm query).toList := by
  have windows : "@".toList = ['@'] := rfl
  have commands : "> ".toList = ['>', ' '] := rfl
  have power : ":".toList = [':'] := rfl
  simp only [launcherQueryForCategory, String.toList_append, windows, commands, power, List.cons_append,
    List.nil_append, and_self]

theorem termOf_mark (mark : Char) (marked : isMark mark = true) (rest : List Char) :
    termOf ((mark :: rest).dropWhile Text.isWhitespace) = rest.dropWhile Text.isWhitespace := by
  rw [List.dropWhile_cons, if_neg (by simp [not_blank_of_mark marked]), termOf, if_pos marked]

theorem category_mark (query : String) {mark : Char} {rest : List Char} (first : query.toList = mark :: rest)
    (marked : isMark mark = true) : (Text.trimStart query).toList.head? = some mark := by
  unfold Text.trimStart
  rw [String.toList_ofList, first, List.dropWhile_cons, if_neg (by simp [not_blank_of_mark marked])]
  rfl

/-- What is searched after a click is what was searched, but that the apps have no mark of their own. -/
theorem launcherTerm_switch (category : LauncherCategory) (query : String) :
    (launcherTerm (launcherQueryForCategory category query)).toList =
      if category = .apps then termOf (launcherTerm query).toList else (launcherTerm query).toList := by
  have trimmed := termOf_trimmed query
  rw [launcherTerm_eq]
  cases category with
  | apps => rw [if_pos rfl, launcherQueryForCategory, trimmed]
  | windows => rw [if_neg (by decide), (render_marked query).1, termOf_mark '@' (by decide), trimmed]
  | commands =>
    rw [if_neg (by decide), (render_marked query).2.1, termOf_mark '>' (by decide), List.dropWhile_cons,
      if_pos (by decide), trimmed]
  | power => rw [if_neg (by decide), (render_marked query).2.2, termOf_mark ':' (by decide), trimmed]

theorem launcherTerm_switch_iff (category : LauncherCategory) (query : String) :
    launcherTerm (launcherQueryForCategory category query) = launcherTerm query ↔ Keeps category query := by
  rw [← String.toList_inj, launcherTerm_switch, Keeps, twoMarks_iff]
  split
  · rename_i apps
    cases term : (launcherTerm query).toList with
    | nil => simp [termOf]
    | cons first rest =>
      rw [termOf]
      split
      · rename_i mark
        refine iff_of_false ?_ fun keeps => keeps apps ⟨first, rest, rfl, mark⟩
        intro same
        -- The mark is missing from what is left.
        have shorter := (List.dropWhile_sublist (l := rest) Text.isWhitespace).length_le
        rw [same, List.length_cons] at shorter
        omega
      · rename_i other
        refine iff_of_true rfl ?_
        rintro _ ⟨mark, more, same, marked⟩
        cases same
        exact other marked
  · rename_i other
    exact iff_of_true rfl fun apps => absurd apps other

theorem launcherQueryForCategory_inj (category : LauncherCategory) (first second : String) :
    launcherQueryForCategory category first = launcherQueryForCategory category second ↔
      launcherTerm first = launcherTerm second := by
  cases category <;> simp [launcherQueryForCategory]

/-- Only what is searched can be taken for another category. -/
theorem launcherCategory_switch_iff (category : LauncherCategory) (query : String) :
    launcherCategoryForQuery (launcherQueryForCategory category query) = category ↔ Keeps category query := by
  rw [Keeps, twoMarks_iff]
  have trimmed := termOf_trimmed query
  unfold launcherCategoryForQuery
  cases category with
  | apps =>
    have same : (Text.trimStart (launcherQueryForCategory .apps query)).toList = (launcherTerm query).toList := by
      unfold Text.trimStart
      rw [String.toList_ofList]
      exact trimmed
    rw [same]
    cases term : (launcherTerm query).toList with
    | nil => simp
    | cons first rest =>
      by_cases windows : first = '@'
      · simp [isMark, windows]
      · by_cases commands : first = '>'
        · simp [isMark, commands]
        · by_cases power : first = ':'
          · simp [isMark, power]
          · simp [isMark, windows, commands, power]
  | windows =>
    rw [category_mark _ (render_marked query).1 (by decide)]
    exact iff_of_true rfl fun apps => by cases apps
  | commands =>
    rw [category_mark _ (render_marked query).2.1 (by decide)]
    exact iff_of_true rfl fun apps => by cases apps
  | power =>
    rw [category_mark _ (render_marked query).2.2 (by decide)]
    exact iff_of_true rfl fun apps => by cases apps

theorem not_twoMarks_switch {category : LauncherCategory} {query : String} (single : ¬TwoMarks query) :
    ¬TwoMarks (launcherQueryForCategory category query) := by
  rw [twoMarks_iff, (launcherTerm_switch_iff category query).mpr fun _ => single, ← twoMarks_iff]
  exact single

/-- A run of clicks keeps what is searched. -/
theorem launcherTerm_clicks {query : String} (single : ¬TwoMarks query) (clicks : List LauncherCategory) :
    launcherTerm (clicks.foldl (fun query category => launcherQueryForCategory category query) query) =
      launcherTerm query := by
  induction clicks generalizing query with
  | nil => rfl
  | cons category clicks ih =>
    rw [List.foldl_cons, ih (not_twoMarks_switch single)]
    exact (launcherTerm_switch_iff category query).mpr fun _ => single

/-- A category that is switched to is the one of the query, and switching is forgotten by the next switch, exactly if it
is not a switch to the apps with two marks in front. Without two marks every run of clicks is forgotten. -/
theorem launcher_categories (query : String) :
    (∀ category other,
      (launcherCategoryForQuery (launcherQueryForCategory category query) = category ↔ Keeps category query) ∧
        (launcherQueryForCategory category (launcherQueryForCategory category query) =
          launcherQueryForCategory category query ↔ Keeps category query) ∧
        (launcherQueryForCategory other (launcherQueryForCategory category query) =
          launcherQueryForCategory other query ↔ Keeps category query)) ∧
      ((∀ (clicks : List LauncherCategory) category, launcherQueryForCategory category
          (clicks.foldl (fun query category => launcherQueryForCategory category query) query) =
            launcherQueryForCategory category query) ↔ ¬TwoMarks query) := by
  have forgets (category other : LauncherCategory) :
      launcherQueryForCategory other (launcherQueryForCategory category query) =
        launcherQueryForCategory other query ↔ Keeps category query := by
    rw [launcherQueryForCategory_inj]
    exact launcherTerm_switch_iff category query
  refine ⟨fun category other => ⟨launcherCategory_switch_iff category query, forgets category category,
    forgets category other⟩, ?_, ?_⟩
  · intro forgotten
    exact (forgets .apps .windows).mp (forgotten [.apps] .windows) rfl
  · intro single clicks category
    rw [launcherQueryForCategory_inj]
    exact launcherTerm_clicks single clicks

/-- A term that begins with a mark of its own. -/
theorem launcher_apps_misread :
    launcherCategoryForQuery (launcherQueryForCategory .apps "@@mail") = .windows ∧
      launcherQueryForCategory .apps (launcherQueryForCategory .apps "@@mail") ≠
        launcherQueryForCategory .apps "@@mail" ∧
      launcherQueryForCategory .windows (launcherQueryForCategory .apps "@@mail") ≠
        launcherQueryForCategory .windows "@@mail" := by
  decide

end Luma.Shell.Launcher
