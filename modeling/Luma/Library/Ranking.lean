import Mathlib.Data.List.Perm.Basic

/-! The first entries of a list that is sorted by a total preorder, where ties may be put in any order. -/

set_option autoImplicit false

namespace Luma.Library.Ranking

variable {Item Key : Type} (before : Item → Item → Bool)

def better (first second : Item) : Bool := before first second && !before second first

/-- The number of entries that come before an item wherever ties are put. -/
def ahead (items : List Item) (item : Item) : Nat := items.countP fun other => better before other item

structure Preordered : Prop where
  trans : ∀ first second third, before first second = true → before second third = true → before first third = true
  total : ∀ first second, (before first second || before second first) = true

variable {before} {items : List Item} {item : Item}

theorem Preordered.before_of_not_better (preordered : Preordered before) {first second : Item}
    (worse : better before first second = false) : before second first = true := by
  have either := preordered.total first second
  cases behind : before second first with
  | true => rfl
  | false => simp_all [better]

theorem before_of_better {first second : Item} (ranks : better before first second = true) :
    before first second = true :=
  (Bool.and_eq_true_iff.mp ranks).1

/-- Ties can be put so that an item comes right behind those that are ahead of it. -/
theorem exists_sorted [DecidableEq Item] (preordered : Preordered before) (there : item ∈ items) :
    ∃ sorted : List Item, sorted.Perm items ∧ sorted.Pairwise (fun first second => before first second = true) ∧
      sorted[ahead before items item]? = some item := by
  have sorted := List.pairwise_mergeSort preordered.trans preordered.total items
  have same := List.mergeSort_perm items before
  generalize items.mergeSort before = ranks at sorted same
  let front := ranks.filter fun other => better before other item
  let back := ranks.filter fun other => !better before other item
  have self : better before item item = false := by simp [better]
  have behind : item ∈ back := List.mem_filter.mpr ⟨same.mem_iff.mpr there, by rw [self]; rfl⟩
  have whole : (front ++ item :: back.erase item).Perm items :=
    ((List.perm_cons_erase behind).symm.append_left front).trans ((List.filter_append_perm _ ranks).trans same)
  refine ⟨front ++ item :: back.erase item, whole, ?_, ?_⟩
  · have low : ∀ other ∈ back.erase item, before item other = true := by
      intro other later
      have worse := (List.mem_filter.mp (List.mem_of_mem_erase later)).2
      rw [Bool.not_eq_true'] at worse
      exact preordered.before_of_not_better worse
    have high : ∀ other ∈ front, before other item = true := fun other earlier =>
      before_of_better (List.mem_filter.mp earlier).2
    rw [List.pairwise_append, List.pairwise_cons]
    refine ⟨sorted.sublist List.filter_sublist, ⟨low, (sorted.sublist List.filter_sublist).sublist
      List.erase_sublist⟩, ?_⟩
    intro other earlier last later
    rcases List.mem_cons.mp later with rfl | later
    · exact high other earlier
    · exact preordered.trans _ _ _ (high other earlier) (low last later)
  · have place : front.length = ahead before items item := by
      rw [ahead, ← same.countP_eq, List.countP_eq_length_filter]
    rw [← place, List.getElem?_append_right (Nat.le_refl _), Nat.sub_self]
    rfl

/-- Sorted lists of the same keys have the same first entries, if none of these is tied with another entry. -/
theorem take_eq_of_untied (preordered : Preordered before) (key : Item → Key) (count : Nat) {first second : List Item}
    (sorted : first.Pairwise fun first second => before first second = true)
    (sorted' : second.Pairwise fun first second => before first second = true)
    (keys : (first.map key).Perm (second.map key))
    (level : ∀ item ∈ first, ∀ other ∈ second, key item = key other →
      before item other = true ∧ before other item = true)
    (untied : ∀ item ∈ first, ∀ other ∈ second, before item other = true → before other item = true →
      ahead before first item < count → item = other) : first.take count = second.take count := by
  induction count generalizing first second with
  | zero => rfl
  | succ count ih =>
    cases first with
    | nil =>
      have none_ : second = [] := List.map_eq_nil_iff.mp (List.Perm.nil_eq keys).symm
      rw [none_]
    | cons item first =>
      cases second with
      | nil => exact absurd keys.length_eq (by simp)
      | cons other second =>
        obtain ⟨least, rest⟩ := List.pairwise_cons.mp sorted
        obtain ⟨least', rest'⟩ := List.pairwise_cons.mp sorted'
        -- Each of the two first entries is before the entry of the other list with its key.
        have upTo : before item other = true := by
          obtain ⟨twin, there, same⟩ := List.mem_map.mp (keys.mem_iff.mpr (List.mem_map_of_mem List.mem_cons_self))
          have tied := (level twin there other List.mem_cons_self same).1
          rcases List.mem_cons.mp there with rfl | later
          · exact tied
          · exact preordered.trans _ _ _ (least twin later) tied
        have from_ : before other item = true := by
          obtain ⟨twin, there, same⟩ := List.mem_map.mp (keys.mem_iff.mp (List.mem_map_of_mem List.mem_cons_self))
          have tied := (level item List.mem_cons_self twin there same.symm).2
          rcases List.mem_cons.mp there with rfl | later
          · exact tied
          · exact preordered.trans _ _ _ (least' twin later) tied
        have foremost : ahead before (item :: first) item = 0 := by
          rw [ahead, List.countP_eq_zero]
          intro rival there
          rcases List.mem_cons.mp there with rfl | later
          · simp [better]
          · simp [better, least rival later]
        obtain rfl := untied item List.mem_cons_self other List.mem_cons_self upTo from_ (foremost ▸ Nat.succ_pos _)
        rw [List.take_succ_cons, List.take_succ_cons]
        refine congrArg _ (ih rest rest' (List.Perm.cons_inv keys) ?_ ?_)
        · exact fun rival there twin there' => level rival (List.mem_cons_of_mem _ there) twin
            (List.mem_cons_of_mem _ there')
        · intro rival there twin there' tied tied' few
          refine untied rival (List.mem_cons_of_mem _ there) twin (List.mem_cons_of_mem _ there') tied tied' ?_
          rw [ahead, List.countP_cons]
          unfold ahead at few
          split <;> omega

/-- An item is dropped only if the list is full of entries that are not behind it. -/
theorem full_of_dropped {count : Nat} (sorted : items.Pairwise fun first second => before first second = true)
    (there : item ∈ items) (dropped : item ∉ items.take count) :
    (items.take count).length = count ∧ ∀ other ∈ items.take count, before other item = true := by
  have behind : item ∈ items.drop count := by
    rw [← List.take_append_drop count items] at there
    exact (List.mem_append.mp there).resolve_left dropped
  have long : count < items.length := by
    by_contra short
    rw [List.drop_eq_nil_of_le (Nat.not_lt.mp short)] at behind
    cases behind
  rw [← List.take_append_drop count items, List.pairwise_append] at sorted
  exact ⟨List.length_take_of_le (Nat.le_of_lt long), fun other earlier => sorted.2.2 other earlier item behind⟩

end Luma.Library.Ranking
