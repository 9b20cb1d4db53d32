import Mathlib.Logic.Basic

/-! Early returns: how a chain of fallible steps can have succeeded. -/

set_option autoImplicit false

namespace Luma.Library.Fallible

variable {ε α β : Type}

/-- `if rejected { return Err(failure) }`. -/
def refuse (rejected : Prop) [Decidable rejected] (failure : ε) : Except ε Unit :=
  if rejected then .error failure else .ok ()

@[simp] theorem refuse_ok {rejected : Prop} [Decidable rejected] {failure : ε} {result : Unit} :
    refuse rejected failure = .ok result ↔ ¬rejected := by
  unfold refuse
  split <;> simp [*]

@[simp] theorem bind_ok {first : Except ε α} {next : α → Except ε β} {result : β} :
    (first >>= next) = .ok result ↔ ∃ value, first = .ok value ∧ next value = .ok result := by
  rcases first with failure | value
  · constructor
    · intro same
      cases same
    · rintro ⟨_, same, _⟩
      cases same
  · constructor
    · intro same
      exact ⟨value, rfl, same⟩
    · rintro ⟨_, same, continued⟩
      cases same
      exact continued

@[simp] theorem pure_ok {value result : α} : (Pure.pure value : Except ε α) = .ok result ↔ value = result := by
  constructor
  · intro same
    cases same
    rfl
  · rintro rfl
    rfl

end Luma.Library.Fallible

/-! Edits that are made on a copy and kept only when the copy passes a check. -/

namespace Luma.Library

variable {State Out Error : Type}

/-- What is in place after the edit, and what the edit returns. -/
def checkedEdit (edit : State → Except Error (State × Out)) (check : State → Except Error Unit) (state : State) :
    State × Except Error Out :=
  match edit state with
  | .error error => (state, .error error)
  | .ok (candidate, out) =>
      match check candidate with
      | .error error => (state, .error error)
      | .ok () => (candidate, .ok out)

namespace checkedEdit

variable {edit : State → Except Error (State × Out)} {check : State → Except Error Unit}
variable {state after : State} {out : Out} {error : Error}

theorem ok_iff : checkedEdit edit check state = (after, .ok out) ↔
    edit state = .ok (after, out) ∧ check after = .ok () := by
  unfold checkedEdit
  cases edited : edit state with
  | error error => simp
  | ok outcome =>
      obtain ⟨candidate, found⟩ := outcome
      dsimp only
      cases checked : check candidate with
      | error error =>
          simp only [Prod.mk.injEq, reduceCtorEq, and_false, Except.ok.injEq, false_iff, not_and]
          rintro ⟨rfl, rfl⟩ passed
          rw [checked] at passed
          cases passed
      | ok =>
          simp only [Prod.mk.injEq, Except.ok.injEq, iff_self_and]
          rintro ⟨rfl, rfl⟩
          exact checked

/-- What is rejected is rolled back. -/
theorem eq_of_error (failed : (checkedEdit edit check state).2 = .error error) :
    (checkedEdit edit check state).1 = state := by
  unfold checkedEdit at failed ⊢
  split
  · rfl
  · split
    · rfl
    · simp_all

/-- An edit that finds its own outcome already there is made again without effect. -/
theorem again (settled : edit state = .ok (after, out) → edit after = .ok (after, out))
    (kept : checkedEdit edit check state = (after, .ok out)) : checkedEdit edit check after = (after, .ok out) := by
  rw [ok_iff] at kept ⊢
  exact ⟨settled kept.1, kept.2⟩

end checkedEdit

end Luma.Library
