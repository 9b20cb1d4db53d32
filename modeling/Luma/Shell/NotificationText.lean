import Luma.Library.Entities

/-! The plain text of a notification, from a text with tags and entities. -/

set_option autoImplicit false

namespace Luma.Shell.NotificationText

open Luma.Library

/-- One round over a character: what is kept of it, and whether a tag is open and how much is kept behind it. -/
def round (inTag : Bool) (count : Nat) (character : Char) : Option Char × Bool × Nat :=
  if character = '<' then (none, true, count)
  else if character = '>' ∧ inTag = true then (none, false, count)
  else if inTag = false then (some character, inTag, count + 1)
  else (none, inTag, count)

/-- The characters outside tags, 2048 at most. -/
def outsideTags : Bool → Nat → List Char → List Char
  | _, _, [] => []
  | inTag, count, character :: rest =>
      let (kept, inTag, count) := round inTag count character
      kept.toList ++ if count ≥ 2048 then [] else outsideTags inTag count rest

def notificationBodyText (body : String) : String :=
  let text := String.ofList (outsideTags false 0 body.toList)
  let text := Text.replace text "&amp;" "&"
  let text := Text.replace text "&lt;" "<"
  let text := Text.replace text "&gt;" ">"
  let text := Text.replace text "&quot;" "\""
  let text := Text.replace text "&#39;" "'"
  String.ofList (text.toList.take 2048)

/-! ## The statement -/

/-- An entity behind the `&`. -/
def entityTail (character : Char) : List Char :=
  if character = '&' then "amp;".toList
  else if character = '<' then "lt;".toList
  else if character = '>' then "gt;".toList
  else if character = '"' then "quot;".toList
  else if character = '\'' then "#39;".toList
  else []

/-- The escaped characters other than the `&`. -/
def specials : List Char := ['<', '>', '"', '\'']

def escaped (plain : String) : List Char := Entities.escape '&' entityTail ('&' :: specials) plain.toList

/-- A text with tags between its characters. -/
inductive Tagged : List Char → List Char → Prop where
  | nil : Tagged [] []
  | letter {character : Char} {text whole : List Char} : character ≠ '<' → character ≠ '>' → Tagged text whole →
      Tagged (character :: text) (character :: whole)
  | tag {inside text whole : List Char} : (∀ character ∈ inside, character ≠ '<' ∧ character ≠ '>') →
      Tagged text whole → Tagged text ('<' :: (inside ++ '>' :: whole))

/-! ## Tags -/

theorem Tagged.untagged {text : List Char} (plain : ∀ character ∈ text, character ≠ '<' ∧ character ≠ '>') :
    Tagged text text := by
  induction text with
  | nil => exact .nil
  | cons character text ih =>
    obtain ⟨opens, closes⟩ := plain character List.mem_cons_self
    exact .letter opens closes (ih fun other there => plain other (List.mem_cons_of_mem _ there))

theorem outsideTags_inside {inside : List Char} (plain : ∀ character ∈ inside, character ≠ '<' ∧ character ≠ '>')
    {count : Nat} (room : count < 2048) (whole : List Char) :
    outsideTags true count (inside ++ '>' :: whole) = outsideTags false count whole := by
  have going : ¬count ≥ 2048 := Nat.not_le.mpr room
  induction inside with
  | nil =>
    rw [List.nil_append, outsideTags]
    simp [round, going]
  | cons character inside ih =>
    obtain ⟨opens, closes⟩ := plain character List.mem_cons_self
    rw [List.cons_append, outsideTags]
    simp only [round, opens, closes, if_false, false_and, Bool.true_eq_false, Option.toList_none, List.nil_append,
      going]
    exact ih fun other there => plain other (List.mem_cons_of_mem _ there)

theorem outsideTags_tagged {text whole : List Char} (tagged : Tagged text whole) {count : Nat} (room : count < 2048)
    (short : count + text.length ≤ 2048) : outsideTags false count whole = text := by
  have going : ¬count ≥ 2048 := Nat.not_le.mpr room
  induction tagged generalizing count with
  | nil => rfl
  | @letter character text whole opens closes _ ih =>
    rw [List.length_cons] at short
    rw [outsideTags]
    simp only [round, opens, closes, if_false, false_and, if_true, Option.toList_some, List.singleton_append]
    split
    · -- The last character that is kept.
      rename_i full
      have last : text = [] := List.length_eq_zero_iff.mp (by omega)
      rw [last]
    · rename_i more
      rw [ih (Nat.not_le.mp more) (by omega) more]
  | @tag inside text whole plain _ ih =>
    rw [outsideTags]
    simp only [round, if_true, Option.toList_none, List.nil_append, going, if_false]
    rw [outsideTags_inside plain room whole]
    exact ih room short going

/-! ## Entities -/

theorem code : Entities.Code '&' entityTail ('&' :: specials) := by decide +kernel

theorem notificationBodyText_eq (body : String) :
    (notificationBodyText body).toList =
      (Entities.decodeAll '&' entityTail ('&' :: specials) (outsideTags false 0 body.toList)).take 2048 := by
  unfold notificationBodyText Text.replace
  simp only [String.toList_ofList]
  rfl

/-- The text of an escaped and tagged text is the plain one exactly if that contains no entity of a character other than
the `&`. Of any input it is bounded. -/
theorem notificationBodyText_decodes (plain tagged : String) (marked : Tagged (escaped plain) tagged.toList)
    (short : (escaped plain).length ≤ 2048) :
    (notificationBodyText tagged = plain ↔
        ∀ character ∈ specials, ¬Entities.entity '&' entityTail character <:+: plain.toList) ∧
      ∀ body, (notificationBodyText body).toList.length ≤ 2048 := by
  constructor
  · have outside : outsideTags false 0 tagged.toList = escaped plain :=
      outsideTags_tagged marked (by decide) (by rw [Nat.zero_add]; exact short)
    obtain ⟨bound, same⟩ := Entities.decodeAll_eq_self_iff
      (fun character there => code.long character (List.mem_cons_of_mem _ there)) plain.toList
    have fits : (Entities.decodeAll '&' entityTail specials plain.toList).length ≤ 2048 :=
      (bound.trans (Entities.length_le_escape plain.toList)).trans short
    rw [← same, ← String.toList_inj, notificationBodyText_eq, outside, escaped,
      Entities.decodeAll_escape_start code, List.take_of_length_le fits]
  · intro body
    rw [notificationBodyText_eq]
    exact List.length_take_le _ _

theorem notificationBodyText_decodes_bold :
    notificationBodyText "<b>a</b> &amp; b" = "a & b" ∧
      ∀ body, (notificationBodyText body).toList.length ≤ 2048 := by
  have bold : ∀ character ∈ ['b'], character ≠ '<' ∧ character ≠ '>' := by simp
  have closes : ∀ character ∈ ['/', 'b'], character ≠ '<' ∧ character ≠ '>' := by simp
  have behind : ∀ character ∈ " &amp; b".toList, character ≠ '<' ∧ character ≠ '>' := by simp
  have marked : Tagged (escaped "a & b") "<b>a</b> &amp; b".toList :=
    .tag bold (.letter (by decide) (by decide) (.tag closes (.untagged behind)))
  obtain ⟨same, bounded⟩ := notificationBodyText_decodes "a & b" "<b>a</b> &amp; b" marked (by decide +kernel)
  refine ⟨same.mpr ?_, bounded⟩
  simp only [specials, List.forall_mem_cons, List.not_mem_nil, false_implies, implies_true, and_true]
  decide +kernel

/-- The entity of a plain text that is an entity itself. -/
theorem notificationBodyText_twice :
    ¬∀ plain tagged : String, Tagged (escaped plain) tagged.toList → (escaped plain).length ≤ 2048 →
      notificationBodyText tagged = plain := by
  intro decodes
  have untagged : ∀ character ∈ "&amp;lt;".toList, character ≠ '<' ∧ character ≠ '>' := by simp
  have marked : Tagged (escaped "&lt;") "&amp;lt;".toList := .untagged untagged
  exact absurd (decodes "&lt;" "&amp;lt;" marked (by decide +kernel)) (by decide +kernel)

end Luma.Shell.NotificationText
