import Mathlib.Logic.Function.Basic

/-! Handles that are opened, kept at places and closed again. -/

set_option autoImplicit false

namespace Luma.Library

inductive HandleEvent (Handle : Type) where
  | opened (handle : Handle)
  | closed (handle : Handle)
  deriving DecidableEq

variable {Place Handle : Type}

/-- A handle is closed that was opened, and was not closed before. -/
def ClosedOnce : List (HandleEvent Handle) → Prop
  | [] => True
  | .opened _ :: earlier => ClosedOnce earlier
  | .closed handle :: earlier => .opened handle ∈ earlier ∧ .closed handle ∉ earlier ∧ ClosedOnce earlier

theorem ClosedOnce.opened {history : List (HandleEvent Handle)} (once : ClosedOnce history) {handle : Handle}
    (closed : .closed handle ∈ history) : .opened handle ∈ history := by
  induction history with
  | nil => cases closed
  | cons event earlier ih =>
    have before : ClosedOnce earlier := by
      cases event with
      | opened => exact once
      | closed => exact once.2.2
    rcases List.mem_cons.mp closed with same | old
    · subst same
      exact List.mem_cons_of_mem _ once.1
    · exact List.mem_cons_of_mem _ (ih before old)

/-- Each handle that was opened is kept at one place, or closed. -/
structure Custody (held : Place → Option Handle) (history : List (HandleEvent Handle)) : Prop where
  single : ∀ place place' handle, held place = some handle → held place' = some handle → place = place'
  live : ∀ place handle, held place = some handle → .opened handle ∈ history ∧ .closed handle ∉ history
  accounted : ∀ handle, .opened handle ∈ history → .closed handle ∈ history ∨ ∃ place, held place = some handle
  once : ClosedOnce history

namespace Custody

variable {held : Place → Option Handle} {history : List (HandleEvent Handle)}

theorem none_held (empty : ∀ place, held place = none) : Custody held [] where
  single := by
    intro place _ handle at_place
    cases (empty place).symm.trans at_place
  live := by
    intro place handle at_place
    cases (empty place).symm.trans at_place
  accounted := by
    intro handle opened
    cases opened
  once := trivial

theorem of_same {held' : Place → Option Handle} (custody : Custody held history) (same : held' = held) :
    Custody held' history := by
  rw [same]
  exact custody

variable [DecidableEq Place]

/-- A new handle is put where there was none. -/
theorem opens (custody : Custody held history) {place : Place} {handle : Handle} (vacant : held place = none)
    (fresh : .opened handle ∉ history) :
    Custody (Function.update held place (some handle)) (.opened handle :: history) := by
  have elsewhere : ∀ other kept, Function.update held place (some handle) other = some kept →
      other = place ∧ kept = handle ∨ other ≠ place ∧ held other = some kept := by
    intro other kept there
    by_cases here : other = place
    · rw [here, Function.update_self] at there
      exact .inl ⟨here, (Option.some.inj there).symm⟩
    · rw [Function.update_of_ne here] at there
      exact .inr ⟨here, there⟩
  have unknown : ∀ other, held other ≠ some handle := fun other there => fresh (custody.live other handle there).1
  constructor
  · intro first second kept one two
    rcases elsewhere first kept one with ⟨rfl, rfl⟩ | ⟨-, old⟩
    · rcases elsewhere second kept two with ⟨rfl, -⟩ | ⟨-, old⟩
      · rfl
      · exact absurd old (unknown second)
    · rcases elsewhere second kept two with ⟨-, rfl⟩ | ⟨-, old'⟩
      · exact absurd old (unknown first)
      · exact custody.single first second kept old old'
  · intro other kept there
    rcases elsewhere other kept there with ⟨-, rfl⟩ | ⟨-, old⟩
    · refine ⟨List.mem_cons_self, fun closed => ?_⟩
      rcases List.mem_cons.mp closed with same | before
      · cases same
      · exact absurd (custody.once.opened before) fresh
    · obtain ⟨opened, unclosed⟩ := custody.live other kept old
      refine ⟨List.mem_cons_of_mem _ opened, fun closed => ?_⟩
      rcases List.mem_cons.mp closed with same | before
      · cases same
      · exact unclosed before
  · intro kept opened
    rcases List.mem_cons.mp opened with same | old
    · cases same
      exact .inr ⟨place, Function.update_self ..⟩
    · rcases custody.accounted kept old with closed | ⟨other, there⟩
      · exact .inl (List.mem_cons_of_mem _ closed)
      · refine .inr ⟨other, ?_⟩
        have apart : other ≠ place := by
          rintro rfl
          cases vacant.symm.trans there
        rw [Function.update_of_ne apart]
        exact there
  · exact custody.once

/-- The handle of a place is closed. -/
theorem closes (custody : Custody held history) {place : Place} {handle : Handle} (kept : held place = some handle) :
    Custody (Function.update held place none) (.closed handle :: history) := by
  have elsewhere : ∀ other other', Function.update held place none other = some other' →
      other ≠ place ∧ held other = some other' := by
    intro other other' there
    by_cases here : other = place
    · rw [here, Function.update_self] at there
      cases there
    · rw [Function.update_of_ne here] at there
      exact ⟨here, there⟩
  obtain ⟨opened, unclosed⟩ := custody.live place handle kept
  constructor
  · intro first second kept' one two
    exact custody.single first second kept' (elsewhere first kept' one).2 (elsewhere second kept' two).2
  · intro other kept' there
    obtain ⟨apart, old⟩ := elsewhere other kept' there
    obtain ⟨opened', unclosed'⟩ := custody.live other kept' old
    refine ⟨List.mem_cons_of_mem _ opened', fun closed => ?_⟩
    rcases List.mem_cons.mp closed with same | before
    · cases same
      exact apart (custody.single other place handle old kept)
    · exact unclosed' before
  · intro kept' opened'
    rcases List.mem_cons.mp opened' with same | old
    · cases same
    · rcases custody.accounted kept' old with closed | ⟨other, there⟩
      · exact .inl (List.mem_cons_of_mem _ closed)
      · by_cases here : other = place
        · rw [here, kept] at there
          cases there
          exact .inl List.mem_cons_self
        · refine .inr ⟨other, ?_⟩
          rw [Function.update_of_ne here]
          exact there
  · exact ⟨opened, unclosed, custody.once⟩

/-- A handle is put from one place to another. -/
theorem moves (custody : Custody held history) {place target : Place} {handle : Handle}
    (kept : held place = some handle) (vacant : held target = none) :
    Custody (Function.update (Function.update held place none) target (some handle)) history := by
  have apart : target ≠ place := by
    rintro rfl
    cases vacant.symm.trans kept
  -- Whatever is held now was held before, at the same place or at the one it comes from.
  have before : ∀ other found, Function.update (Function.update held place none) target (some handle) other =
      some found → other = target ∧ found = handle ∨ other ≠ target ∧ other ≠ place ∧ held other = some found := by
    intro other found there
    by_cases here : other = target
    · rw [here, Function.update_self] at there
      exact .inl ⟨here, (Option.some.inj there).symm⟩
    · rw [Function.update_of_ne here] at there
      by_cases source : other = place
      · rw [source, Function.update_self] at there
        cases there
      · rw [Function.update_of_ne source] at there
        exact .inr ⟨here, source, there⟩
  constructor
  · intro first second found one two
    rcases before first found one with ⟨rfl, rfl⟩ | ⟨-, away, old⟩
    · rcases before second found two with ⟨rfl, -⟩ | ⟨-, away, old⟩
      · rfl
      · exact absurd (custody.single _ _ _ old kept) away
    · rcases before second found two with ⟨-, rfl⟩ | ⟨-, -, old'⟩
      · exact absurd (custody.single _ _ _ old kept) away
      · exact custody.single _ _ _ old old'
  · intro other found there
    rcases before other found there with ⟨-, rfl⟩ | ⟨-, -, old⟩
    · exact custody.live _ _ kept
    · exact custody.live _ _ old
  · intro found opened
    rcases custody.accounted found opened with closed | ⟨other, there⟩
    · exact .inl closed
    · refine .inr ?_
      by_cases source : other = place
      · rw [source, kept] at there
        cases there
        exact ⟨target, Function.update_self ..⟩
      · refine ⟨other, ?_⟩
        have elsewhere : other ≠ target := by
          rintro rfl
          cases vacant.symm.trans there
        rw [Function.update_of_ne elsewhere, Function.update_of_ne source]
        exact there
  · exact custody.once

end Custody

end Luma.Library
