import Mathlib.Data.List.Basic

/-! The last of the greatest elements of a list. -/

set_option autoImplicit false

namespace Luma.Library.LastMaximum

variable {α β : Type}

/-- An element replaces the best one before it unless it is below. -/
def keep (below : α → α → Bool) (best : Option α) (next : α) : Option α :=
  match best with
  | none => some next
  | some best => if below next best then some best else some next

/-- `Iterator::max_by`. -/
def lastMaximum (below : α → α → Bool) (elements : List α) : Option α := elements.foldl (keep below) none

/-- Elements that are not below each other are level, and only then. -/
structure Ordered (below : α → α → Bool) : Prop where
  asymm : ∀ first second, below first second = true → below second first = false
  trans : ∀ first second third, below first second = false → below second third = false → below first third = false

variable {below : α → α → Bool} {elements : List α} {best : α}

theorem Ordered.irrefl (ordered : Ordered below) (element : α) : below element element = false := by
  cases same : below element element with
  | false => rfl
  | true => exact same.symm.trans (ordered.asymm element element same)

/-- The element that is kept is one of the two, and neither of them is above it. -/
theorem keep_spec (ordered : Ordered below) (start : Option α) (next : α) :
    ∃ kept, keep below start next = some kept ∧ (start = some kept ∨ kept = next) ∧
      (∀ first, start = some first → below kept first = false) ∧ below kept next = false := by
  cases start with
  | none =>
    refine ⟨next, rfl, .inr rfl, ?_, ordered.irrefl next⟩
    intro first begins
    cases begins
  | some previous =>
    cases lower : below next previous with
    | true =>
      refine ⟨previous, if_pos lower, .inl rfl, ?_, ordered.asymm next previous lower⟩
      rintro first ⟨⟩
      exact ordered.irrefl previous
    | false =>
      refine ⟨next, if_neg (Bool.eq_false_iff.mp lower), .inr rfl, ?_, ordered.irrefl next⟩
      rintro first ⟨⟩
      exact lower

/-- What a search ends with was there at its start or comes from the list, and nothing seen is above it. -/
theorem foldl_spec (ordered : Ordered below) {start : Option α}
    (found : elements.foldl (keep below) start = some best) :
    (start = some best ∨ best ∈ elements) ∧ (∀ first, start = some first → below best first = false) ∧
      ∀ other ∈ elements, below best other = false := by
  induction elements generalizing start with
  | nil =>
    refine ⟨.inl found, ?_, ?_⟩
    · intro first begins
      cases begins.symm.trans found
      exact ordered.irrefl _
    · intro other there
      cases there
  | cons next rest ih =>
    -- The rest is searched from the kept one on, and neither of the first two is above it.
    obtain ⟨kept, keeps, origin, above, level⟩ := keep_spec ordered start next
    rw [List.foldl_cons, keeps] at found
    obtain ⟨source, first, others⟩ := ih found
    have best_kept := first kept rfl
    refine ⟨?_, fun previous begins => ordered.trans _ _ _ best_kept (above previous begins), ?_⟩
    · rcases source with same | there
      · cases same
        rcases origin with before | rfl
        · exact .inl before
        · exact .inr List.mem_cons_self
      · exact .inr (List.mem_cons_of_mem _ there)
    · intro other there
      rcases List.mem_cons.mp there with rfl | later
      · exact ordered.trans _ _ _ best_kept level
      · exact others other later

theorem foldl_isSome (start : Option α) (next : α) : ((next :: elements).foldl (keep below) start).isSome = true := by
  induction elements generalizing start next with
  | nil =>
    cases start with
    | none => rfl
    | some previous =>
      simp only [List.foldl_cons, List.foldl_nil, keep]
      split <;> rfl
  | cons second rest ih => exact ih (keep below start next) second

theorem lastMaximum_eq_none : lastMaximum below elements = none ↔ elements = [] := by
  cases elements with
  | nil => exact iff_of_true rfl rfl
  | cons first rest =>
    have found : (lastMaximum below (first :: rest)).isSome = true := foldl_isSome none first
    refine iff_of_false ?_ (List.cons_ne_nil _ _)
    intro absent
    rw [absent] at found
    cases found

theorem lastMaximum_spec (ordered : Ordered below) (found : lastMaximum below elements = some best) :
    best ∈ elements ∧ ∀ other ∈ elements, below best other = false := by
  obtain ⟨origin, -, others⟩ := foldl_spec ordered found
  rcases origin with same | there
  · cases same
  · exact ⟨there, others⟩

theorem keep_map {below' : β → β → Bool} {carry : α → β} {start : Option α} {next : α}
    (same : ∀ first, start = some first → below' (carry next) (carry first) = below next first) :
    keep below' (start.map carry) (carry next) = (keep below start next).map carry := by
  cases start with
  | none => rfl
  | some previous =>
    unfold keep
    simp only [Option.map_some, same previous rfl]
    split <;> rfl

/-- A map that keeps the order carries the maximum along. -/
theorem lastMaximum_map {below' : β → β → Bool} {carry : α → β}
    (same : ∀ first second, below' (carry first) (carry second) = below first second) :
    lastMaximum below' (elements.map carry) = (lastMaximum below elements).map carry := by
  have folded : ∀ start : Option α, (elements.map carry).foldl (keep below') (start.map carry) =
      (elements.foldl (keep below) start).map carry := by
    induction elements with
    | nil => exact fun start => rfl
    | cons next rest ih =>
      intro start
      rw [List.map_cons, List.foldl_cons, List.foldl_cons, keep_map fun first _ => same next first, ih]
  exact folded none

end Luma.Library.LastMaximum
