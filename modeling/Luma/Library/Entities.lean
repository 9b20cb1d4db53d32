import Luma.Library.Replacement

/-! Letters that are written as entities, and the decoding of entities by one replacement after another.

An entity is a starting letter with a tail. Where the starting letter is decoded first, an entity that the text itself
contains is decoded as well.
-/

set_option autoImplicit false

namespace Luma.Library.Entities

variable {Letter : Type} [DecidableEq Letter] (start : Letter) (tail : Letter → List Letter)

def entity (letter : Letter) : List Letter := start :: tail letter

/-- The text with some letters written as entities. -/
def escape (letters : List Letter) (text : List Letter) : List Letter :=
  text.flatMap fun letter => if letter ∈ letters then entity start tail letter else [letter]

def decode (letter : Letter) (text : List Letter) : List Letter :=
  replaceAll (entity start tail letter) [letter] text

/-- One replacement after another. -/
def decodeAll (letters : List Letter) (text : List Letter) : List Letter :=
  letters.foldl (fun text letter => decode start tail letter text) text

/-- Tails contain nothing that is escaped, and none is the beginning of another. -/
structure Code (letters : List Letter) : Prop where
  plain : ∀ letter ∈ letters, ∀ other ∈ tail letter, other ≠ start ∧ other ∉ letters
  apart : ∀ letter ∈ letters, ∀ other ∈ letters, letter ≠ other → ¬tail letter <+: tail other
  long : ∀ letter ∈ letters, tail letter ≠ []
  distinct : letters.Nodup

instance (letters : List Letter) : Decidable (Code start tail letters) :=
  decidable_of_iff ((∀ letter ∈ letters, ∀ other ∈ tail letter, other ≠ start ∧ other ∉ letters) ∧
      (∀ letter ∈ letters, ∀ other ∈ letters, letter ≠ other → ¬tail letter <+: tail other) ∧
      (∀ letter ∈ letters, tail letter ≠ []) ∧ letters.Nodup)
    ⟨fun ⟨plain, apart, long, distinct⟩ => ⟨plain, apart, long, distinct⟩,
      fun code => ⟨code.plain, code.apart, code.long, code.distinct⟩⟩

variable {start tail} {letter : Letter} {letters text rest : List Letter}

theorem escape_cons (first : Letter) :
    escape start tail letters (first :: rest) =
      (if first ∈ letters then entity start tail first else [first]) ++ escape start tail letters rest :=
  List.flatMap_cons

theorem escape_append (front : List Letter) :
    escape start tail letters (front ++ rest) = escape start tail letters front ++ escape start tail letters rest :=
  List.flatMap_append

theorem escape_plain (plain : ∀ letter ∈ text, letter ∉ letters) : escape start tail letters text = text := by
  induction text with
  | nil => rfl
  | cons first rest ih =>
    rw [escape_cons, if_neg (plain first List.mem_cons_self),
      ih fun letter there => plain letter (List.mem_cons_of_mem _ there), List.singleton_append]

theorem length_le_escape (text : List Letter) : text.length ≤ (escape start tail letters text).length := by
  induction text with
  | nil => exact Nat.le_refl _
  | cons first rest ih =>
    rw [escape_cons, List.length_append, List.length_cons]
    split
    · rw [entity, List.length_cons]
      omega
    · rw [List.length_singleton]
      omega

omit [DecidableEq Letter] in
theorem Code.anti (code : Code start tail letters) {fewer : List Letter} (within : fewer.Sublist letters) :
    Code start tail fewer where
  plain := fun letter there other inside => by
    obtain ⟨ordinary, absent⟩ := code.plain letter (within.mem there) other inside
    exact ⟨ordinary, fun member => absent (within.mem member)⟩
  apart := fun letter there other there' => code.apart letter (within.mem there) other (within.mem there')
  long := fun letter there => code.long letter (within.mem there)
  distinct := code.distinct.sublist within

/-! ## One replacement -/

theorem decode_entity (letter : Letter) (rest : List Letter) :
    decode start tail letter (entity start tail letter ++ rest) = letter :: decode start tail letter rest :=
  replaceAll_match (List.cons_ne_nil _ _) rest

/-- A letter other than the starting one is not decoded. -/
theorem decode_plain {first : Letter} (ordinary : first ≠ start) (rest : List Letter) :
    decode start tail letter (first :: rest) = first :: decode start tail letter rest := by
  refine replaceAll_other ?_
  rw [entity, List.cons_prefix_cons]
  exact fun begins => ordinary begins.1.symm

/-- The entity of another letter stays. -/
theorem decode_other (code : Code start tail letters) (there : letter ∈ letters) {other : Letter}
    (there' : other ∈ letters) (different : letter ≠ other) (rest : List Letter) :
    decode start tail letter (entity start tail other ++ rest) =
      entity start tail other ++ decode start tail letter rest := by
  have apart : ¬entity start tail letter <+: entity start tail other ++ rest := by
    intro begins
    rw [entity, entity, List.cons_append, List.cons_prefix_cons] at begins
    rcases List.prefix_or_prefix_of_prefix begins.2 (List.prefix_append _ _) with first | second
    · exact code.apart letter there other there' different first
    · exact code.apart other there' letter there (Ne.symm different) second
  have ordinary : start ∉ tail other := fun inside => (code.plain other there' start inside).1 rfl
  have passes : decode start tail letter (start :: (tail other ++ rest)) =
      start :: decode start tail letter (tail other ++ rest) := replaceAll_other apart
  have behind : decode start tail letter (tail other ++ rest) = tail other ++ decode start tail letter rest :=
    replaceAll_append rfl ordinary rest
  rw [entity, List.cons_append, passes, behind, List.cons_append]

/-- With all starting letters escaped, decoding them leaves the rest escaped. -/
theorem decode_start (code : Code start tail (start :: letters)) (text : List Letter) :
    decode start tail start (escape start tail (start :: letters) text) = escape start tail letters text := by
  have fresh : start ∉ letters := (List.nodup_cons.mp code.distinct).1
  induction text with
  | nil => rfl
  | cons first rest ih =>
    rw [escape_cons, escape_cons]
    by_cases starts : first = start
    · rw [starts, if_pos List.mem_cons_self, if_neg fresh, decode_entity, ih, List.singleton_append]
    · by_cases escaped : first ∈ letters
      · rw [if_pos (List.mem_cons_of_mem _ escaped), if_pos escaped, decode_other code List.mem_cons_self
          (List.mem_cons_of_mem _ escaped) (Ne.symm starts), ih]
      · rw [if_neg (by simp [starts, escaped]), if_neg escaped, List.singleton_append, List.singleton_append,
          decode_plain starts, ih]

/-- Plain letters that begin an escaped text begin the text. -/
theorem begins_of_escape {front : List Letter} (ordinary : start ∉ front)
    (begins : front <+: escape start tail letters text) : front <+: text := by
  induction front generalizing text with
  | nil => exact List.nil_prefix
  | cons letter front ih =>
    rw [List.mem_cons, not_or] at ordinary
    cases text with
    | nil => exact absurd (List.prefix_nil.mp begins) (List.cons_ne_nil _ _)
    | cons first rest =>
      rw [escape_cons] at begins
      split at begins
      · rw [entity, List.cons_append, List.cons_prefix_cons] at begins
        exact absurd begins.1.symm ordinary.1
      · rw [List.singleton_append, List.cons_prefix_cons] at begins
        rw [List.cons_prefix_cons]
        exact ⟨begins.1, ih ordinary.2 begins.2⟩

/-- Decoding a letter decodes it in the text as well, and leaves the rest escaped. -/
theorem decode_escape (code : Code start tail (letter :: letters)) (ordinary : letter ≠ start)
    (unescaped : start ∉ letters) (text : List Letter) :
    decode start tail letter (escape start tail (letter :: letters) text) =
      escape start tail letters (decode start tail letter text) := by
  have fresh : letter ∉ letters := (List.nodup_cons.mp code.distinct).1
  have tail_ : start ∉ tail letter := fun inside => (code.plain letter List.mem_cons_self start inside).1 rfl
  have plain : ∀ other ∈ entity start tail letter, other ∉ letter :: letters := by
    intro other inside
    rcases List.mem_cons.mp inside with rfl | behind
    · simp [unescaped, Ne.symm ordinary]
    · exact (code.plain letter List.mem_cons_self other behind).2
  induction text using replaceAll_induct (List.cons_ne_nil start (tail letter)) with
  | nil => rfl
  | occurs rest ih =>
    have kept : escape start tail (letter :: letters) (entity start tail letter) = entity start tail letter :=
      escape_plain plain
    show decode start tail letter (escape start tail (letter :: letters) (entity start tail letter ++ rest)) =
      escape start tail letters (decode start tail letter (entity start tail letter ++ rest))
    rw [escape_append, kept, decode_entity, decode_entity, ih, escape_cons, if_neg fresh, List.singleton_append]
  | other first rest absent ih =>
    have stays : decode start tail letter (first :: rest) = first :: decode start tail letter rest :=
      replaceAll_other absent
    rw [escape_cons, stays, escape_cons]
    by_cases same : first = letter
    · rw [same, if_pos List.mem_cons_self, if_neg fresh, decode_entity, ih, List.singleton_append]
    · by_cases escaped : first ∈ letters
      · rw [if_pos (List.mem_cons_of_mem _ escaped), if_pos escaped, decode_other code List.mem_cons_self
          (List.mem_cons_of_mem _ escaped) (Ne.symm same), ih]
      · rw [if_neg (by simp [same, escaped]), if_neg escaped, List.singleton_append, List.singleton_append, ← ih]
        refine replaceAll_other fun begins => absent ?_
        rw [entity, List.cons_prefix_cons] at begins
        exact List.cons_prefix_cons.mpr ⟨begins.1, begins_of_escape tail_ begins.2⟩

/-! ## All of them -/

theorem decodeAll_escape (code : Code start tail letters) (unescaped : start ∉ letters) (text : List Letter) :
    decodeAll start tail letters (escape start tail letters text) = decodeAll start tail letters text := by
  induction letters generalizing text with
  | nil =>
    rw [escape_plain fun _ _ => List.not_mem_nil]
  | cons letter letters ih =>
    rw [List.mem_cons, not_or] at unescaped
    rw [decodeAll, List.foldl_cons, decode_escape code (Ne.symm unescaped.1) unescaped.2]
    exact ih (code.anti (List.sublist_cons_self _ _)) unescaped.2 _

/-- An escaped text is decoded to what the text itself is decoded to, the starting letter aside. -/
theorem decodeAll_escape_start (code : Code start tail (start :: letters)) (text : List Letter) :
    decodeAll start tail (start :: letters) (escape start tail (start :: letters) text) =
      decodeAll start tail letters text := by
  rw [decodeAll, List.foldl_cons, decode_start code]
  exact decodeAll_escape (code.anti (List.sublist_cons_self _ _)) (List.nodup_cons.mp code.distinct).1 text

theorem decodeAll_eq_self_iff (long : ∀ letter ∈ letters, tail letter ≠ []) (text : List Letter) :
    (decodeAll start tail letters text).length ≤ text.length ∧
      (decodeAll start tail letters text = text ↔ ∀ letter ∈ letters, ¬entity start tail letter <:+: text) := by
  induction letters generalizing text with
  | nil => exact ⟨Nat.le_refl _, by simp [decodeAll]⟩
  | cons letter letters ih =>
    have shorter : [letter].length < (entity start tail letter).length :=
      Nat.succ_lt_succ (List.length_pos_of_ne_nil (long letter List.mem_cons_self))
    have first : (decode start tail letter text).length ≤ text.length := (length_replaceAll shorter text).1
    have unchanged : decode start tail letter text = text ↔ ¬entity start tail letter <:+: text :=
      replaceAll_eq_self_iff shorter text
    obtain ⟨behind, others⟩ := ih (fun other there => long other (List.mem_cons_of_mem _ there))
      (decode start tail letter text)
    refine ⟨behind.trans first, ?_⟩
    rw [List.forall_mem_cons, ← unchanged]
    show decodeAll start tail letters (decode start tail letter text) = text ↔ _
    constructor
    · intro whole
      -- A text that is as long in the end was so all the way.
      have same : decode start tail letter text = text := by
        by_contra changed
        have less : (decode start tail letter text).length < text.length :=
          (length_replaceAll shorter text).2 (not_not.mp (mt unchanged.mpr changed))
        rw [whole] at behind
        omega
      rw [same] at others whole
      exact ⟨same, others.mp whole⟩
    · rintro ⟨same, absent⟩
      rw [same] at others ⊢
      exact others.mpr absent

end Luma.Library.Entities
