import Mathlib.Data.List.Basic

/-! Runs of a deterministic machine whose inputs the environment chooses.

A step maps a state and an input to the next state and the observations it
makes. Histories list observations newest first. A side condition may restrict
the inputs by the history and the state they meet.
-/

set_option autoImplicit false

namespace Luma.Library.Transition

variable {State Input Observation : Type}

abbrev Step (State Input Observation : Type) := State → Input → State × List Observation

abbrev Condition (State Input Observation : Type) := List Observation → State → Input → Prop

def unrestricted : Condition State Input Observation := fun _ _ _ => True

/-- The histories and states reached from `start` by inputs that meet `allowed`. -/
inductive Run (step : Step State Input Observation) (allowed : Condition State Input Observation)
    (start : State → Prop) : List Observation → State → Prop where
  | start {state} : start state → Run step allowed start [] state
  | step {history state} (input : Input) : Run step allowed start history state →
      allowed history state input → Run step allowed start ((step state input).2 ++ history) (step state input).1

namespace Run

variable {step : Step State Input Observation} {allowed : Condition State Input Observation}
variable {start : State → Prop} {history : List Observation} {state : State}

/-- What holds initially and is kept by every allowed step holds of every run. -/
theorem invariant {holds : List Observation → State → Prop} (initial : ∀ state, start state → holds [] state)
    (preserved : ∀ history state input, Run step allowed start history state → allowed history state input →
      holds history state → holds ((step state input).2 ++ history) (step state input).1)
    (run : Run step allowed start history state) : holds history state := by
  induction run with
  | start begun => exact initial _ begun
  | step input before permitted ih => exact preserved _ _ input before permitted ih

/-- An invariant of the states alone. -/
theorem state_invariant {holds : State → Prop} (initial : ∀ state, start state → holds state)
    (preserved : ∀ history state input, allowed history state input → holds state → holds (step state input).1)
    (run : Run step allowed start history state) : holds state := by
  induction run with
  | start begun => exact initial _ begun
  | step input before permitted ih => exact preserved _ _ input permitted ih

theorem mono {weaker : Condition State Input Observation}
    (weaken : ∀ history state input, allowed history state input → weaker history state input)
    (run : Run step allowed start history state) : Run step weaker start history state := by
  induction run with
  | start begun => exact .start begun
  | step input before permitted ih => exact .step input ih (weaken _ _ _ permitted)

end Run

/-- The run of a fixed list of inputs. -/
def execute (step : Step State Input Observation) : State → List Input → State × List Observation
  | state, [] => (state, [])
  | state, input :: inputs =>
      let next := step state input
      let rest := execute step next.1 inputs
      (rest.1, rest.2 ++ next.2)

/-- Every input of the list meets the condition where it is taken. -/
def Permits (step : Step State Input Observation) (allowed : Condition State Input Observation) :
    List Observation → State → List Input → Prop
  | _, _, [] => True
  | history, state, input :: inputs => allowed history state input ∧
      Permits step allowed ((step state input).2 ++ history) (step state input).1 inputs

instance decidablePermits (step : Step State Input Observation) (allowed : Condition State Input Observation)
    [decides : ∀ history state input, Decidable (allowed history state input)] :
    ∀ history state inputs, Decidable (Permits step allowed history state inputs)
  | _, _, [] => .isTrue trivial
  | history, state, input :: inputs =>
      have := decidablePermits step allowed ((step state input).2 ++ history) (step state input).1 inputs
      inferInstanceAs (Decidable (allowed history state input ∧ _))

theorem Run.execute {step : Step State Input Observation} {allowed : Condition State Input Observation}
    {start : State → Prop} {history : List Observation} {state : State} (inputs : List Input)
    (run : Run step allowed start history state) (permits : Permits step allowed history state inputs) :
    Run step allowed start ((Transition.execute step state inputs).2 ++ history)
      (Transition.execute step state inputs).1 := by
  induction inputs generalizing history state with
  | nil => exact run
  | cons input inputs ih =>
    have continued := ih (.step input run permits.1) permits.2
    rw [← List.append_assoc] at continued
    exact continued

theorem permits_unrestricted (step : Step State Input Observation) (history : List Observation) (state : State)
    (inputs : List Input) : Permits step unrestricted history state inputs := by
  induction inputs generalizing history state with
  | nil => trivial
  | cons input inputs ih => exact ⟨trivial, ih _ _⟩

/-- A measure that every input of one kind brings down, and no input up, falls
by the number of these inputs. -/
theorem execute_countdown (step : Step State Input Observation) (holds : State → Prop) (measure : State → Nat)
    (kind : Input → Bool) (kept : ∀ state input, holds state → holds (step state input).1)
    (falls : ∀ state input, holds state → measure (step state input).1 ≤ measure state - (kind input).toNat)
    (inputs : List Input) (state : State) (begins : holds state) :
    holds (Transition.execute step state inputs).1 ∧
      measure (Transition.execute step state inputs).1 ≤ measure state - inputs.countP kind := by
  induction inputs generalizing state with
  | nil => exact ⟨begins, Nat.le_refl _⟩
  | cons input inputs ih =>
    obtain ⟨ends, bound⟩ := ih _ (kept state input begins)
    refine ⟨ends, Nat.le_trans bound ?_⟩
    have first := falls state input begins
    rw [List.countP_cons]
    cases counted : kind input with
    | false =>
      rw [counted] at first
      simp only [Bool.toNat_false, Nat.sub_zero, Bool.false_eq_true, ↓reduceIte, Nat.add_zero] at first ⊢
      omega
    | true =>
      rw [counted] at first
      simp only [Bool.toNat_true, ↓reduceIte] at first ⊢
      omega

theorem execute_append (step : Step State Input Observation) (first second : List Input) (state : State) :
    (execute step state (first ++ second)).1 = (execute step (execute step state first).1 second).1 ∧
      (execute step state (first ++ second)).2 =
        (execute step (execute step state first).1 second).2 ++ (execute step state first).2 := by
  induction first generalizing state with
  | nil => exact ⟨rfl, (List.append_nil _).symm⟩
  | cons input first ih =>
    obtain ⟨final, seen⟩ := ih (step state input).1
    refine ⟨final, ?_⟩
    simp only [List.cons_append, execute, seen, List.append_assoc]

/-- Smaller steps that follow each other, with what they make seen. -/
inductive Trace (effect : State → State → List Observation → Prop) (before : State) :
    State → List Observation → Prop where
  | none : Trace effect before before []
  | next {middle after : State} {seen last : List Observation} : Trace effect before middle seen →
      effect middle after last → Trace effect before after (last ++ seen)

namespace Trace

variable {effect : State → State → List Observation → Prop}

theorem one {before after : State} {seen : List Observation} (made : effect before after seen) :
    Trace effect before after seen := by
  have single := Trace.next Trace.none made
  rwa [List.append_nil] at single

theorem append {before middle after : State} {seen later : List Observation} (first : Trace effect before middle seen)
    (second : Trace effect middle after later) : Trace effect before after (later ++ seen) := by
  induction second with
  | none => exact first
  | next _ made ih => rw [List.append_assoc]; exact .next ih made

/-- What every small step keeps is kept by all of them. -/
theorem preserves (holds : List Observation → State → Prop)
    (kept : ∀ history before after seen, effect before after seen → holds history before →
      holds (seen ++ history) after)
    {history : List Observation} {before after : State} {seen : List Observation}
    (trace : Trace effect before after seen) (held : holds history before) : holds (seen ++ history) after := by
  induction trace with
  | none => exact held
  | next _ made ih => rw [List.append_assoc]; exact kept _ _ _ _ made ih

end Trace

/-- Every observation meets a condition on the history before it. -/
def Throughout (meets : Observation → List Observation → Prop) : List Observation → Prop
  | [] => True
  | observation :: earlier => meets observation earlier ∧ Throughout meets earlier

/-- Observations that meet the condition whatever was before them. -/
theorem Throughout.append {meets : Observation → List Observation → Prop} {later earlier : List Observation}
    (always : ∀ observation ∈ later, ∀ before, meets observation before) (held : Throughout meets earlier) :
    Throughout meets (later ++ earlier) := by
  induction later with
  | nil => exact held
  | cons observation later ih =>
    exact ⟨always observation List.mem_cons_self _, ih fun other member => always other (List.mem_cons_of_mem _ member)⟩

theorem Throughout.mem {meets : Observation → List Observation → Prop} {history : List Observation}
    (held : Throughout meets history) {observation : Observation} (member : observation ∈ history) :
    ∃ before, meets observation before := by
  induction history with
  | nil => cases member
  | cons first history ih =>
    rcases List.mem_cons.mp member with rfl | earlier
    · exact ⟨history, held.1⟩
    · exact ih held.2 earlier

theorem Throughout.split {meets : Observation → List Observation → Prop} {later earlier : List Observation}
    {observation : Observation} (held : Throughout meets (later ++ observation :: earlier)) :
    meets observation earlier := by
  induction later with
  | nil => exact held.1
  | cons _ _ ih => exact ih held.2

/-- What is picked out of a history, oldest first. -/
def chronicle {α : Type} (pick : Observation → Option α) (history : List Observation) : List α :=
  (history.filterMap pick).reverse

section

variable {α : Type} (pick : Observation → Option α)

@[simp] theorem chronicle_nil : chronicle pick [] = [] := rfl

@[simp] theorem chronicle_cons (observation : Observation) (history : List Observation) :
    chronicle pick (observation :: history) = chronicle pick history ++ (pick observation).toList := by
  unfold chronicle
  cases picked : pick observation with
  | none => simp [picked]
  | some value => simp [picked]

theorem chronicle_append (later earlier : List Observation) :
    chronicle pick (later ++ earlier) = chronicle pick earlier ++ chronicle pick later := by
  simp [chronicle]

theorem mem_chronicle {history : List Observation} {value : α} :
    value ∈ chronicle pick history ↔ ∃ observation ∈ history, pick observation = some value := by
  simp [chronicle]

end

end Luma.Library.Transition

/-! Sequences in which two values take turns. -/

namespace Luma.Library

variable {α : Type} {first second : α}

/-- The values of the list are `first`, `second`, `first` and so on. -/
inductive Alternating : α → α → List α → Prop where
  | nil {first second : α} : Alternating first second []
  | cons {first second : α} {rest : List α} : Alternating second first rest →
      Alternating first second (first :: rest)

namespace Alternating

/-- The one whose turn it is comes next. -/
theorem next {turns : List α} (alternating : Alternating first second turns) :
    Alternating first second (turns ++ [if turns.length % 2 = 0 then first else second]) := by
  induction alternating with
  | nil => exact .cons .nil
  | @cons first second rest _ ih =>
    have turn : (if (first :: rest).length % 2 = 0 then first else second) =
        if rest.length % 2 = 0 then second else first := by
      rw [List.length_cons]
      by_cases even : rest.length % 2 = 0
      · rw [if_neg (by omega), if_pos even]
      · rw [if_pos (by omega), if_neg even]
    rw [List.cons_append, turn]
    exact .cons ih

/-- After an odd number of turns a full round leaves an odd number again. -/
theorem round {turns : List α} (alternating : Alternating first second turns) (odd : turns.length % 2 = 1) :
    Alternating first second (turns ++ [second, first]) := by
  have one := alternating.next
  rw [if_neg (by omega)] at one
  have two := one.next
  rw [if_pos (by rw [List.length_append, List.length_singleton]; omega)] at two
  rw [List.append_assoc] at two
  exact two

/-- The second never comes more often than the first, and the first at most once more. -/
theorem count_balanced [DecidableEq α] {turns : List α} (alternating : Alternating first second turns)
    (distinct : first ≠ second) :
    turns.count second ≤ turns.count first ∧ turns.count first ≤ turns.count second + 1 := by
  induction alternating with
  | nil => exact ⟨Nat.le_refl _, Nat.zero_le _⟩
  | @cons first second rest _ ih =>
    have balanced := ih distinct.symm
    have differs : second ≠ first := distinct.symm
    simp only [List.count_cons, beq_self_eq_true, ↓reduceIte, beq_iff_eq, distinct]
    omega

end Alternating

end Luma.Library
