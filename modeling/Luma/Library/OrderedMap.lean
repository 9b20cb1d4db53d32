import Mathlib.Order.Lattice
import Mathlib.Data.List.Pairwise

/-! Maps whose entries are listed by their keys, as those of a `BTreeMap`. -/

set_option autoImplicit false

namespace Luma.Library

structure OrderedMap (Key Value : Type) [LinearOrder Key] where
  entries : List (Key × Value)
  ordered : entries.Pairwise fun first second => first.1 < second.1

namespace OrderedMap

variable {Key Value : Type} [LinearOrder Key]

def empty : OrderedMap Key Value := ⟨[], .nil⟩

def find (map : OrderedMap Key Value) (key : Key) : Option Value :=
  (map.entries.find? fun entry => entry.1 = key).map (·.2)

def insertEntry (key : Key) (value : Value) : List (Key × Value) → List (Key × Value)
  | [] => [(key, value)]
  | entry :: rest =>
      if key < entry.1 then (key, value) :: entry :: rest
      else if key = entry.1 then (key, value) :: rest
      else entry :: insertEntry key value rest

def eraseEntry (key : Key) (entries : List (Key × Value)) : List (Key × Value) :=
  entries.filter fun entry => entry.1 ≠ key

variable {entries : List (Key × Value)} {key : Key} {value : Value} {entry : Key × Value}

theorem mem_insertEntry (ordered : entries.Pairwise fun first second => first.1 < second.1) :
    entry ∈ insertEntry key value entries ↔ entry = (key, value) ∨ entry ∈ entries ∧ entry.1 ≠ key := by
  induction entries with
  | nil => simp [insertEntry]
  | cons first rest ih =>
    obtain ⟨least, later⟩ := List.pairwise_cons.mp ordered
    unfold insertEntry
    split
    · rename_i before
      have apart : ∀ other ∈ first :: rest, other.1 ≠ key := by
        intro other there
        rcases List.mem_cons.mp there with rfl | behind
        · exact before.ne'
        · exact (before.trans (least other behind)).ne'
      rw [List.mem_cons]
      exact or_congr_right ⟨fun there => ⟨there, apart entry there⟩, And.left⟩
    · split
      · rename_i same
        subst same
        rw [List.mem_cons, List.mem_cons]
        constructor
        · rintro (rfl | behind)
          · exact .inl rfl
          · exact .inr ⟨.inr behind, (least entry behind).ne'⟩
        · rintro (rfl | ⟨rfl | behind, apart⟩)
          · exact .inl rfl
          · exact absurd rfl apart
          · exact .inr behind
      · rename_i apart
        rw [List.mem_cons, ih later, List.mem_cons]
        constructor
        · rintro (rfl | rfl | ⟨behind, other⟩)
          · exact .inr ⟨.inl rfl, Ne.symm apart⟩
          · exact .inl rfl
          · exact .inr ⟨.inr behind, other⟩
        · rintro (rfl | ⟨rfl | behind, other⟩)
          · exact .inr (.inl rfl)
          · exact .inl rfl
          · exact .inr (.inr ⟨behind, other⟩)

theorem insertEntry_ordered (ordered : entries.Pairwise fun first second => first.1 < second.1) :
    (insertEntry key value entries).Pairwise fun first second => first.1 < second.1 := by
  induction entries with
  | nil => exact List.pairwise_singleton _ _
  | cons first rest ih =>
    obtain ⟨least, later⟩ := List.pairwise_cons.mp ordered
    unfold insertEntry
    split
    · rename_i before
      refine List.pairwise_cons.mpr ⟨?_, ordered⟩
      intro other there
      rcases List.mem_cons.mp there with rfl | behind
      · exact before
      · exact before.trans (least other behind)
    · rename_i late
      split
      · rename_i same
        subst same
        exact List.pairwise_cons.mpr ⟨least, later⟩
      · rename_i apart
        refine List.pairwise_cons.mpr ⟨?_, ih later⟩
        intro other there
        rcases (mem_insertEntry later).mp there with rfl | ⟨behind, -⟩
        · exact lt_of_le_of_ne (not_lt.mp late) (Ne.symm apart)
        · exact least other behind

theorem length_insertEntry (absent : ∀ entry ∈ entries, entry.1 ≠ key) :
    (insertEntry key value entries).length = entries.length + 1 := by
  induction entries with
  | nil => rfl
  | cons first rest ih =>
    unfold insertEntry
    split
    · rfl
    · rw [if_neg (absent first List.mem_cons_self).symm, List.length_cons,
        ih fun other there => absent other (List.mem_cons_of_mem _ there), List.length_cons]

theorem length_insertEntry_mem (ordered : entries.Pairwise fun first second => first.1 < second.1)
    (there : ∃ entry ∈ entries, entry.1 = key) : (insertEntry key value entries).length = entries.length := by
  induction entries with
  | nil =>
    obtain ⟨_, impossible, -⟩ := there
    cases impossible
  | cons first rest ih =>
    obtain ⟨least, later⟩ := List.pairwise_cons.mp ordered
    obtain ⟨entry, listed, rfl⟩ := there
    unfold insertEntry
    rcases List.mem_cons.mp listed with rfl | behind
    · rw [if_neg (lt_irrefl _), if_pos rfl]
      rfl
    · have after := least entry behind
      rw [if_neg after.asymm, if_neg after.ne', List.length_cons, ih later ⟨entry, behind, rfl⟩, List.length_cons]

def insert (map : OrderedMap Key Value) (key : Key) (value : Value) : OrderedMap Key Value :=
  ⟨insertEntry key value map.entries, insertEntry_ordered map.ordered⟩

def erase (map : OrderedMap Key Value) (key : Key) : OrderedMap Key Value :=
  ⟨eraseEntry key map.entries, map.ordered.filter _⟩

variable {map : OrderedMap Key Value}

theorem mem_insert : entry ∈ (map.insert key value).entries ↔
    entry = (key, value) ∨ entry ∈ map.entries ∧ entry.1 ≠ key :=
  mem_insertEntry map.ordered

theorem mem_erase : entry ∈ (map.erase key).entries ↔ entry ∈ map.entries ∧ entry.1 ≠ key := by
  unfold erase eraseEntry
  rw [List.mem_filter, decide_eq_true_eq]

/-- A key has one entry. -/
theorem entry_unique {other : Key × Value} (one : entry ∈ map.entries) (two : other ∈ map.entries)
    (same : entry.1 = other.1) : entry = other := by
  by_contra apart
  have differ : map.entries.Pairwise fun first second => first.1 ≠ second.1 := map.ordered.imp ne_of_lt
  have symmetric : Std.Symm fun first second : Key × Value => first.1 ≠ second.1 := ⟨fun _ _ ne => ne.symm⟩
  exact differ.forall one two apart same

theorem value_unique {other : Value} (one : (key, value) ∈ map.entries) (two : (key, other) ∈ map.entries) :
    value = other :=
  (Prod.ext_iff.mp (entry_unique one two rfl)).2

theorem find_eq_none : map.find key = none ↔ ∀ entry ∈ map.entries, entry.1 ≠ key := by
  rw [find, Option.map_eq_none_iff, List.find?_eq_none]
  simp only [decide_eq_true_eq, ne_eq]

theorem find_eq_some : map.find key = some value ↔ (key, value) ∈ map.entries := by
  constructor
  · intro found
    obtain ⟨entry, first, rfl⟩ := Option.map_eq_some_iff.mp found
    have named : entry.1 = key := by simpa using List.find?_some first
    subst named
    exact List.mem_of_find?_eq_some first
  · intro there
    cases found : map.find key with
    | none => exact absurd rfl (find_eq_none.mp found _ there)
    | some other =>
      obtain ⟨entry, first, rfl⟩ := Option.map_eq_some_iff.mp found
      have named : entry.1 = key := by simpa using List.find?_some first
      rw [entry_unique (List.mem_of_find?_eq_some first) there named]

theorem length_insert (absent : map.find key = none) :
    (map.insert key value).entries.length = map.entries.length + 1 :=
  length_insertEntry (find_eq_none.mp absent)

theorem length_replace {next : Value} (there : (key, value) ∈ map.entries) :
    (map.insert key next).entries.length = map.entries.length :=
  length_insertEntry_mem map.ordered ⟨_, there, rfl⟩

theorem length_erase_le : (map.erase key).entries.length ≤ map.entries.length := List.length_filter_le _ _

theorem length_erase_lt (there : (key, value) ∈ map.entries) :
    (map.erase key).entries.length < map.entries.length :=
  List.length_filter_lt_length_iff_exists.mpr ⟨_, there, by simp⟩

/-- The first entry has the least key. -/
theorem head_least (first : map.entries.head? = some entry) : ∀ other ∈ map.entries, entry.1 ≤ other.1 := by
  obtain ⟨rest, split⟩ := List.head?_eq_some_iff.mp first
  have ordered := map.ordered
  rw [split] at ordered ⊢
  intro other there
  rcases List.mem_cons.mp there with rfl | behind
  · exact le_rfl
  · exact ((List.pairwise_cons.mp ordered).1 other behind).le

end OrderedMap

end Luma.Library
