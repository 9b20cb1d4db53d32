import Mathlib.Data.List.Basic

/-! Two entries of a list exchanged, and the rank of an entry among those that are marked. -/

set_option autoImplicit false

namespace Luma.Library.Exchange

variable {α β : Type}

/-- `slice::swap`; both positions are in the list. -/
def swap (items : List α) (first second : Nat) : List α :=
  match items[first]?, items[second]? with
  | some one, some other => (items.set first other).set second one
  | _, _ => items

variable {items : List α} {first second : Nat} {one other : α}

theorem swap_eq (here : items[first]? = some one) (there : items[second]? = some other) :
    swap items first second = (items.set first other).set second one := by
  simp [swap, here, there]

theorem swap_first (here : items[first]? = some one) (there : items[second]? = some other) :
    (swap items first second)[first]? = some other := by
  obtain ⟨inside, -⟩ := List.getElem?_eq_some_iff.mp here
  rw [swap_eq here there]
  by_cases same : second = first
  · subst same
    simp_all
  · rw [List.getElem?_set_ne same, List.getElem?_set_self inside]

theorem swap_second (here : items[first]? = some one) (there : items[second]? = some other) :
    (swap items first second)[second]? = some one := by
  obtain ⟨inside, -⟩ := List.getElem?_eq_some_iff.mp there
  rw [swap_eq here there, List.getElem?_set_self (by simpa using inside)]

theorem swap_apart {place : Nat} (apart : place ≠ first) (apart' : place ≠ second) :
    (swap items first second)[place]? = items[place]? := by
  unfold swap
  split
  · rw [List.getElem?_set_ne (Ne.symm apart'), List.getElem?_set_ne (Ne.symm apart)]
  · rfl

/-- A list and the same with two entries exchanged. -/
structure Exchanged (items items' : List α) (first second : Nat) (one other : α) : Prop where
  here : items[first]? = some one
  there : items[second]? = some other
  here' : items'[first]? = some other
  there' : items'[second]? = some one
  elsewhere : ∀ place, place ≠ first → place ≠ second → items'[place]? = items[place]?
  perm : items'.Perm items

theorem exchanged_swap (here : items[first]? = some one) (there : items[second]? = some other) :
    Exchanged items (swap items first second) first second one other := by
  refine ⟨here, there, swap_first here there, swap_second here there, fun place => swap_apart, ?_⟩
  obtain ⟨inside, rfl⟩ := List.getElem?_eq_some_iff.mp here
  obtain ⟨inside', rfl⟩ := List.getElem?_eq_some_iff.mp there
  rw [swap_eq here there]
  exact List.set_set_perm inside inside'

theorem Exchanged.symm {items' : List α} (exchanged : Exchanged items items' first second one other) :
    Exchanged items items' second first other one :=
  ⟨exchanged.there, exchanged.here, exchanged.there', exchanged.here',
    fun place apart apart' => exchanged.elsewhere place apart' apart, exchanged.perm⟩

theorem Exchanged.map {items' : List α} (exchanged : Exchanged items items' first second one other) (observe : α → β) :
    Exchanged (items.map observe) (items'.map observe) first second (observe one) (observe other) where
  here := by rw [List.getElem?_map, exchanged.here, Option.map_some]
  there := by rw [List.getElem?_map, exchanged.there, Option.map_some]
  here' := by rw [List.getElem?_map, exchanged.here', Option.map_some]
  there' := by rw [List.getElem?_map, exchanged.there', Option.map_some]
  elsewhere place apart apart' := by rw [List.getElem?_map, List.getElem?_map, exchanged.elsewhere place apart apart']
  perm := exchanged.perm.map observe

/-- What both entries share does not change. -/
theorem Exchanged.map_eq {items' : List α} (exchanged : Exchanged items items' first second one other) (observe : α → β)
    (same : observe one = observe other) : items'.map observe = items.map observe := by
  apply List.ext_getElem?
  intro place
  rw [List.getElem?_map, List.getElem?_map]
  by_cases second' : place = second
  · subst second'
    rw [exchanged.there', exchanged.there, Option.map_some, Option.map_some, same]
  · by_cases first' : place = first
    · subst first'
      rw [exchanged.here', exchanged.here, Option.map_some, Option.map_some, same]
    · rw [exchanged.elsewhere place first' second']

/-! ## Ranks -/

/-- How many marked entries come before the place. -/
def rank (marks : List Bool) (place : Nat) : Nat := (marks.take place).count true

theorem rank_succ (marks : List Bool) (place : Nat) :
    rank marks (place + 1) = rank marks place + if marks[place]? = some true then 1 else 0 := by
  unfold rank
  rw [List.take_add_one, List.count_append]
  cases marks[place]? with
  | none => simp
  | some mark => cases mark <;> simp

variable {marks marks' : List Bool}

theorem rank_before (same : ∀ place < first, marks'[place]? = marks[place]?) :
    rank marks' first = rank marks first := by
  induction first with
  | zero => rfl
  | succ first ih =>
    rw [rank_succ, rank_succ, ih fun place before => same place (by omega), same first (by omega)]

/-- A marked entry that moves on past others has the value at its old rank if the others keep theirs. -/
theorem value_moved (value : Nat → β) (order : first < second) (marked : marks[first]? = some true)
    (unmarked : marks'[first]? ≠ some true) (same : ∀ place, place ≠ first → place ≠ second → marks'[place]? = marks[place]?)
    (kept : ∀ place, first < place → place < second → marks[place]? = some true →
      value (rank marks place) = value (rank marks' place)) : value (rank marks' second) = value (rank marks first) := by
  have before : rank marks' first = rank marks first := rank_before fun place early => same place (by omega) (by omega)
  -- Between the two places, ranks are by one smaller after the move.
  have between (distance : Nat) (short : first + 1 + distance ≤ second) :
      rank marks (first + 1 + distance) = rank marks' (first + 1 + distance) + 1 ∧
        value (rank marks' (first + 1 + distance)) = value (rank marks first) := by
    induction distance with
    | zero =>
      have one := rank_succ marks first
      have none := rank_succ marks' first
      rw [if_pos marked] at one
      rw [if_neg unmarked] at none
      rw [Nat.add_zero, one, none, before]
      exact ⟨rfl, rfl⟩
    | succ distance ih =>
      obtain ⟨step, equal⟩ := ih (by omega)
      have here := same (first + 1 + distance) (by omega) (by omega)
      have more := rank_succ marks (first + 1 + distance)
      have more' := rank_succ marks' (first + 1 + distance)
      rw [here] at more'
      rw [← Nat.add_assoc]
      by_cases mark : marks[first + 1 + distance]? = some true
      · have stays := kept (first + 1 + distance) (by omega) (by omega) mark
        rw [if_pos mark] at more more'
        refine ⟨by omega, ?_⟩
        rw [more', ← step, stays, equal]
      · rw [if_neg mark] at more more'
        refine ⟨by omega, ?_⟩
        rw [more', Nat.add_zero, equal]
  have reached := (between (second - first - 1) (by omega)).2
  rwa [show first + 1 + (second - first - 1) = second by omega] at reached

/-- The same in either direction: nobody's value changes, or somebody else's does. -/
theorem Exchanged.value_eq (value : Nat → β) (exchanged : Exchanged marks marks' first second true false)
    (apart : first ≠ second) (kept : ∀ place, place ≠ first → place ≠ second → marks[place]? = some true →
      value (rank marks place) = value (rank marks' place)) : value (rank marks' second) = value (rank marks first) := by
  rcases Nat.lt_or_gt_of_ne apart with order | order
  · exact value_moved value order exchanged.here (by rw [exchanged.here']; simp) exchanged.elsewhere
      fun place after before => kept place (by omega) (by omega)
  · refine (value_moved value order exchanged.there' (by rw [exchanged.there]; simp) ?_ ?_).symm
    · intro place apart apart'
      exact (exchanged.elsewhere place apart' apart).symm
    · intro place after before mark
      have same := exchanged.elsewhere place (by omega) (by omega)
      rw [same] at mark
      exact (kept place (by omega) (by omega) mark).symm

end Luma.Library.Exchange
