import Mathlib.Data.List.Nodup
import Mathlib.Data.List.Induction

/-! A table of the first highest value of each key, filled from a list. -/

set_option autoImplicit false

namespace Luma.Library.FirstHighest

variable {Key Value Block : Type} [DecidableEq Key] (higher : Value → Value → Bool)

def insertHigher (table : List (Key × Value)) (found : Key × Value) : List (Key × Value) :=
  match table.find? fun entry => entry.1 = found.1 with
  | none => table ++ [found]
  | some old =>
      if higher found.2 old.2 then table.map fun entry => if entry.1 = found.1 then found else entry else table

def table (entries : List (Key × Value)) : List (Key × Value) := entries.foldl (insertHigher higher) []

/-- No earlier value of the key is as high, and no later one is higher. -/
def First (level : Value → Nat) (entries : List (Key × Value)) (found : Key × Value) : Prop :=
  ∃ front back, entries = front ++ found :: back ∧
    (∀ other ∈ front, other.1 = found.1 → level other.2 < level found.2) ∧
      ∀ other ∈ back, other.1 = found.1 → level other.2 ≤ level found.2

variable {higher} {level : Value → Nat} {entries : List (Key × Value)} {found new : Key × Value}

/-! ## First highest values -/

omit [DecidableEq Key] in
theorem First.mem (first : First level entries found) : found ∈ entries := by
  obtain ⟨front, back, rfl, -, -⟩ := first
  exact List.mem_append_right _ List.mem_cons_self

omit [DecidableEq Key] in
theorem First.highest (first : First level entries found) :
    ∀ other ∈ entries, other.1 = found.1 → level other.2 ≤ level found.2 := by
  obtain ⟨front, back, rfl, earlier, later⟩ := first
  intro other there same
  rcases List.mem_append.mp there with before | behind
  · exact Nat.le_of_lt (earlier other before same)
  · rcases List.mem_cons.mp behind with rfl | after
    · exact Nat.le_refl _
    · exact later other after same

omit [DecidableEq Key] in
theorem First.append (first : First level entries found) {others : List (Key × Value)}
    (low : ∀ other ∈ others, other.1 = found.1 → level other.2 ≤ level found.2) :
    First level (entries ++ others) found := by
  obtain ⟨front, back, rfl, earlier, later⟩ := first
  refine ⟨front, back ++ others, by simp, earlier, ?_⟩
  intro other there same
  rcases List.mem_append.mp there with behind | added
  · exact later other behind same
  · exact low other added same

omit [DecidableEq Key] in
theorem First.of_append {others : List (Key × Value)} (first : First level (entries ++ others) found) :
    First level entries found ∨ First level others found := by
  obtain ⟨front, back, whole, earlier, later⟩ := first
  rcases List.append_eq_append_iff.mp whole with ⟨middle, rfl, rest⟩ | ⟨middle, rfl, rest⟩
  · exact .inr ⟨middle, back, rest, fun other there => earlier other (List.mem_append_right _ there), later⟩
  · cases middle with
    | nil => exact .inr ⟨[], back, rest.symm, fun _ none_ => absurd none_ List.not_mem_nil, later⟩
    | cons head middle =>
      rw [List.cons_append] at rest
      injection rest with same behind
      subst same
      refine .inl ⟨front, middle, rfl, earlier, fun other there => later other ?_⟩
      rw [behind]
      exact List.mem_append_left _ there

omit [DecidableEq Key] in
/-- The first highest value of all blocks is that of one of them. -/
theorem First.of_flatMap {blocks : List Block} {values : Block → List (Key × Value)}
    (first : First level (blocks.flatMap values) found) : ∃ block ∈ blocks, First level (values block) found := by
  induction blocks with
  | nil =>
    have none_ := first.mem
    cases none_
  | cons block blocks ih =>
    rw [List.flatMap_cons] at first
    rcases first.of_append with here | later
    · exact ⟨block, List.mem_cons_self, here⟩
    · obtain ⟨other, there, found⟩ := ih later
      exact ⟨other, List.mem_cons_of_mem _ there, found⟩

omit [DecidableEq Key] in
theorem first_append_one : First level (entries ++ [new]) found ↔
    (found = new ∧ ∀ other ∈ entries, other.1 = new.1 → level other.2 < level new.2) ∨
      First level entries found ∧ (new.1 = found.1 → level new.2 ≤ level found.2) := by
  constructor
  · rintro ⟨front, back, whole, earlier, later⟩
    cases back using List.reverseRecOn with
    | nil =>
      obtain ⟨rfl, last⟩ := List.append_inj' whole rfl
      cases last
      exact .inl ⟨rfl, earlier⟩
    | append_singleton back last _ =>
      rw [← List.cons_append, ← List.append_assoc] at whole
      obtain ⟨rfl, same⟩ := List.append_inj' whole rfl
      cases same
      refine .inr ⟨⟨front, back, rfl, earlier, fun other there => later other (List.mem_append_left _ there)⟩, ?_⟩
      exact later new (List.mem_append_right _ List.mem_cons_self)
  · rintro (⟨rfl, earlier⟩ | ⟨first, low⟩)
    · exact ⟨entries, [], rfl, earlier, fun _ none_ => absurd none_ List.not_mem_nil⟩
    · refine first.append fun other last same => ?_
      rw [List.mem_singleton.mp last] at same ⊢
      exact low same

/-! ## The table -/

/-- The table has each key of the entries once, with its first highest value. -/
structure Holds (level : Value → Nat) (entries table : List (Key × Value)) : Prop where
  distinct : (table.map (·.1)).Nodup
  first : ∀ found, found ∈ table ↔ First level entries found
  every : ∀ entry ∈ entries, ∃ found ∈ table, found.1 = entry.1

omit [DecidableEq Key] in
theorem Holds.unique {table : List (Key × Value)} (holds : Holds level entries table) {first second : Key × Value}
    (there : first ∈ table) (there' : second ∈ table) (same : first.1 = second.1) : first = second :=
  List.inj_on_of_nodup_map holds.distinct there there' same

omit [DecidableEq Key] in
/-- A key that no entry had. -/
theorem Holds.append {table : List (Key × Value)} (holds : Holds level entries table) {new : Key × Value}
    (absent : ∀ entry ∈ entries, entry.1 ≠ new.1) : Holds level (entries ++ [new]) (table ++ [new]) := by
  constructor
  · rw [List.map_append, List.nodup_append]
    refine ⟨holds.distinct, List.nodup_singleton _, ?_⟩
    rintro _ there _ last rfl
    obtain ⟨found, listed, key⟩ := List.mem_map.mp there
    rw [List.map_singleton, List.mem_singleton] at last
    exact absent found ((holds.first found).mp listed).mem (key.trans last)
  · intro found
    rw [List.mem_append, List.mem_singleton, first_append_one, holds.first]
    constructor
    · rintro (first | rfl)
      · exact .inr ⟨first, fun same => absurd same.symm (absent found first.mem)⟩
      · exact .inl ⟨rfl, fun other there same => absurd same (absent other there)⟩
    · rintro (⟨rfl, -⟩ | ⟨first, -⟩)
      · exact .inr rfl
      · exact .inl first
  · intro entry there
    rcases List.mem_append.mp there with old | last
    · obtain ⟨found, listed, key⟩ := holds.every entry old
      exact ⟨found, List.mem_append_left _ listed, key⟩
    · exact ⟨new, List.mem_append_right _ List.mem_cons_self, by rw [List.mem_singleton.mp last]⟩

/-- A higher value takes the place of the one with its key. -/
theorem Holds.replace {table : List (Key × Value)} (holds : Holds level entries table) {old new : Key × Value}
    (listed : old ∈ table) (key : old.1 = new.1) (above : level old.2 < level new.2) :
    Holds level (entries ++ [new]) (table.map fun entry => if entry.1 = new.1 then new else entry) := by
  have oldFirst := (holds.first old).mp listed
  have mem : ∀ found, found ∈ table.map (fun entry => if entry.1 = new.1 then new else entry) ↔
      found = new ∨ found ∈ table ∧ found.1 ≠ new.1 := by
    intro found
    rw [List.mem_map]
    constructor
    · rintro ⟨entry, there, rfl⟩
      split
      · exact .inl rfl
      · rename_i other
        exact .inr ⟨there, other⟩
    · rintro (rfl | ⟨there, other⟩)
      · exact ⟨old, listed, if_pos key⟩
      · exact ⟨found, there, if_neg other⟩
  have keys : (table.map fun entry => if entry.1 = new.1 then new else entry).map (·.1) = table.map (·.1) := by
    rw [List.map_map]
    apply List.map_congr_left
    intro entry _
    show (if entry.1 = new.1 then new else entry).1 = entry.1
    split
    · rename_i same
      exact same.symm
    · rfl
  constructor
  · rw [keys]
    exact holds.distinct
  · intro found
    rw [mem, first_append_one, holds.first]
    constructor
    · rintro (rfl | ⟨first, other⟩)
      · refine .inl ⟨rfl, fun other there same => ?_⟩
        exact Nat.lt_of_le_of_lt (oldFirst.highest other there (same.trans key.symm)) above
      · exact .inr ⟨first, fun same => absurd same.symm other⟩
    · rintro (⟨rfl, -⟩ | ⟨first, low⟩)
      · exact .inl rfl
      · refine .inr ⟨first, fun same => ?_⟩
        have upTo := low same.symm
        have same' := holds.unique ((holds.first found).mpr first) listed (same.trans key.symm)
        rw [same'] at upTo
        exact absurd upTo (Nat.not_le.mpr above)
  · intro entry there
    rcases List.mem_append.mp there with before | last
    · obtain ⟨found, inside, same⟩ := holds.every entry before
      by_cases replaced : found.1 = new.1
      · exact ⟨new, (mem new).mpr (.inl rfl), replaced.symm.trans same⟩
      · exact ⟨found, (mem found).mpr (.inr ⟨inside, replaced⟩), same⟩
    · exact ⟨new, (mem new).mpr (.inl rfl), by rw [List.mem_singleton.mp last]⟩

omit [DecidableEq Key] in
/-- A value that is not higher is passed over. -/
theorem Holds.keep {table : List (Key × Value)} (holds : Holds level entries table) {old new : Key × Value}
    (listed : old ∈ table) (key : old.1 = new.1) (below : level new.2 ≤ level old.2) :
    Holds level (entries ++ [new]) table := by
  have oldFirst := (holds.first old).mp listed
  refine ⟨holds.distinct, fun found => ?_, fun entry there => ?_⟩
  · rw [holds.first, first_append_one]
    constructor
    · intro first
      refine .inr ⟨first, fun same => ?_⟩
      have same' := holds.unique ((holds.first found).mpr first) listed (same.symm.trans key.symm)
      rw [same']
      exact below
    · rintro (⟨rfl, earlier⟩ | ⟨first, -⟩)
      · exact absurd (earlier old oldFirst.mem key) (Nat.not_lt.mpr below)
      · exact first
  · rcases List.mem_append.mp there with before | last
    · exact holds.every entry before
    · refine ⟨old, listed, ?_⟩
      rw [List.mem_singleton.mp last]
      exact key

theorem Holds.insert {table : List (Key × Value)} (holds : Holds level entries table)
    (levels : ∀ first second, higher first second = true ↔ level second < level first) (new : Key × Value) :
    Holds level (entries ++ [new]) (insertHigher higher table new) := by
  unfold insertHigher
  cases known : table.find? fun entry => entry.1 = new.1 with
  | none =>
    apply holds.append
    intro entry there same
    obtain ⟨found, listed, key⟩ := holds.every entry there
    have other := List.find?_eq_none.mp known found listed
    exact other (decide_eq_true (key.trans same))
  | some old =>
    have listed := List.mem_of_find?_eq_some known
    have key : old.1 = new.1 := by simpa using List.find?_some known
    dsimp only
    split
    · rename_i above
      exact holds.replace listed key ((levels _ _).mp above)
    · rename_i below
      rw [levels, Nat.not_lt] at below
      exact holds.keep listed key below

/-- The table of a list has the first highest value of each key. -/
theorem table_holds (levels : ∀ first second, higher first second = true ↔ level second < level first)
    (entries : List (Key × Value)) : Holds level entries (table higher entries) := by
  induction entries using List.reverseRecOn with
  | nil =>
    refine ⟨List.nodup_nil, fun found => ⟨fun there => absurd there List.not_mem_nil, fun first => first.mem⟩, ?_⟩
    intro _ there
    cases there
  | append_singleton entries new ih =>
    rw [table, List.foldl_append]
    exact ih.insert levels new

end Luma.Library.FirstHighest
