import Mathlib.Logic.Basic

/-! Invertible readers over octet streams.

A reader is a fallible state transformer over any input state whose unread
octets can be named. Its grammar relates a value to the octets that spell it.
`Reads` states that the reader accepts every spelling and nothing else;
sequencing preserves this, so a format is proved field by field.
-/

set_option autoImplicit false

namespace Luma.Library.Reader

variable {σ ε α β : Type}

abbrev Grammar (α : Type) := α → List UInt8 → Prop

namespace Grammar

def pure (value : α) : Grammar α := fun result bytes => result = value ∧ bytes = []

def bind (first : Grammar α) (rest : α → Grammar β) : Grammar β := fun result bytes =>
  ∃ value front back, first value front ∧ rest value result back ∧ bytes = front ++ back

def guard (rejected : Prop) (grammar : Grammar α) : Grammar α := fun result bytes =>
  ¬rejected ∧ grammar result bytes

/-- Spell the value that a fallible test turns into the result. -/
def convert (grammar : Grammar α) (test : α → Except ε β) : Grammar β := fun result bytes =>
  ∃ value, grammar value bytes ∧ test value = .ok result

theorem bind_written (write : α → List UInt8) (rest : α → Grammar β) (result : β) (bytes : List UInt8) :
    bind (fun value bytes => bytes = write value) rest result bytes ↔
      ∃ value back, rest value result back ∧ bytes = write value ++ back := by
  constructor
  · rintro ⟨value, _, back, rfl, others, split⟩
    exact ⟨value, back, others, split⟩
  · rintro ⟨value, back, others, split⟩
    exact ⟨value, _, back, rfl, others, split⟩

end Grammar

/-- `reader` consumes exactly one spelling. `admissible` restricts the states
from which acceptance is promised, never those it is checked on. -/
structure Reads (remaining : σ → List UInt8) (admissible : σ → Prop)
    (reader : StateT σ (Except ε) α) (grammar : Grammar α) : Prop where
  complete : ∀ {state value bytes rest}, admissible state → grammar value bytes →
    remaining state = bytes ++ rest →
    ∃ after, reader.run state = .ok (value, after) ∧ remaining after = rest ∧ admissible after
  faithful : ∀ {state value after}, reader.run state = .ok (value, after) →
    ∃ bytes, grammar value bytes ∧ remaining state = bytes ++ remaining after

/-- `reader` accounts for every unread octet, consumed or not. -/
structure ReadsAll (remaining : σ → List UInt8) (admissible : σ → Prop)
    (reader : StateT σ (Except ε) α) (grammar : Grammar α) : Prop where
  complete : ∀ {state value}, admissible state → grammar value (remaining state) →
    ∃ after, reader.run state = .ok (value, after)
  faithful : ∀ {state value after}, reader.run state = .ok (value, after) →
    grammar value (remaining state)

theorem run_bind_ok {reader : StateT σ (Except ε) α} {next : α → StateT σ (Except ε) β}
    {state after : σ} {result : β} (ran : (reader >>= next).run state = .ok (result, after)) :
    ∃ value middle, reader.run state = .ok (value, middle) ∧ (next value).run middle = .ok (result, after) := by
  simp only [StateT.run_bind] at ran
  cases first : reader.run state with
  | error failure => rw [first] at ran; cases ran
  | ok pair => rw [first] at ran; exact ⟨pair.1, pair.2, rfl, ran⟩

theorem run_bind_of_ok {reader : StateT σ (Except ε) α} (next : α → StateT σ (Except ε) β)
    {state middle : σ} {value : α} (ran : reader.run state = .ok (value, middle)) :
    (reader >>= next).run state = (next value).run middle := by
  simp only [StateT.run_bind, ran]
  rfl

variable {remaining : σ → List UInt8} {admissible : σ → Prop}

namespace Reads

theorem pure (value : α) : Reads (ε := ε) remaining admissible (Pure.pure value) (Grammar.pure value) where
  complete := by
    rintro state _ _ rest ready ⟨rfl, rfl⟩ split
    exact ⟨state, rfl, split, ready⟩
  faithful := by
    intro state found after ran
    cases ran
    exact ⟨[], ⟨rfl, rfl⟩, rfl⟩

theorem bind {reader : StateT σ (Except ε) α} {next : α → StateT σ (Except ε) β}
    {first : Grammar α} {rest : α → Grammar β} (begins : Reads remaining admissible reader first)
    (continues : ∀ value, Reads remaining admissible (next value) (rest value)) :
    Reads remaining admissible (reader >>= next) (first.bind rest) where
  complete := by
    rintro state result _ tail ready ⟨value, front, back, spelled, others, rfl⟩ split
    obtain ⟨middle, ran, left, ready⟩ := begins.complete ready spelled
      (split.trans (List.append_assoc _ _ _))
    obtain ⟨after, finished, left, ready⟩ := (continues value).complete ready others left
    exact ⟨after, (run_bind_of_ok next ran).trans finished, left, ready⟩
  faithful := by
    intro state result after ran
    obtain ⟨value, middle, begun, finished⟩ := run_bind_ok ran
    obtain ⟨front, spelled, split⟩ := begins.faithful begun
    obtain ⟨back, others, left⟩ := (continues value).faithful finished
    exact ⟨front ++ back, ⟨value, front, back, spelled, others, rfl⟩,
      by rw [split, left, List.append_assoc]⟩

theorem congr {reader : StateT σ (Except ε) α} {grammar other : Grammar α}
    (reads : Reads remaining admissible reader grammar)
    (same : ∀ value bytes, other value bytes ↔ grammar value bytes) :
    Reads remaining admissible reader other where
  complete ready spelled split := reads.complete ready ((same _ _).mp spelled) split
  faithful ran :=
    let ⟨bytes, spelled, split⟩ := reads.faithful ran
    ⟨bytes, (same _ _).mpr spelled, split⟩

theorem guard {reader : StateT σ (Except ε) α} {grammar : Grammar α} (rejected : Prop)
    [Decidable rejected] (failure : ε) (reads : Reads remaining admissible reader grammar) :
    Reads remaining admissible (if rejected then throw failure else reader)
      (Grammar.guard rejected grammar) where
  complete := by
    rintro state value bytes rest ready ⟨passed, spelled⟩ split
    rw [if_neg passed]
    exact reads.complete ready spelled split
  faithful := by
    intro state value after ran
    by_cases holds : rejected
    · rw [if_pos holds] at ran; cases ran
    · rw [if_neg holds] at ran
      obtain ⟨bytes, spelled, split⟩ := reads.faithful ran
      exact ⟨bytes, ⟨holds, spelled⟩, split⟩

theorem convert {reader : StateT σ (Except ε) α} {grammar : Grammar α} (test : α → Except ε β)
    (reads : Reads remaining admissible reader grammar) :
    Reads remaining admissible (reader >>= fun value => liftM (test value)) (grammar.convert test) where
  complete := by
    rintro state result bytes rest ready ⟨value, spelled, passed⟩ split
    obtain ⟨after, ran, left, ready⟩ := reads.complete ready spelled split
    refine ⟨after, (run_bind_of_ok _ ran).trans ?_, left, ready⟩
    rw [passed]
    rfl
  faithful := by
    intro state result after ran
    obtain ⟨value, middle, begun, finished⟩ := run_bind_ok ran
    obtain ⟨bytes, spelled, split⟩ := reads.faithful begun
    cases passed : test value with
    | error failure => rw [passed] at finished; cases finished
    | ok found => rw [passed] at finished; cases finished; exact ⟨bytes, ⟨value, spelled, passed⟩, split⟩

/-- A reader of nothing accepts nothing. -/
theorem fail {grammar : Grammar α} (failure : ε) (empty : ∀ value bytes, ¬grammar value bytes) :
    Reads remaining admissible (throw failure : StateT σ (Except ε) α) grammar where
  complete := by
    intro state value bytes rest _ spelled
    exact absurd spelled (empty value bytes)
  faithful := by
    intro state value after ran
    cases ran

end Reads

namespace ReadsAll

/-- A first part followed by a reader of everything else. -/
theorem bind {reader : StateT σ (Except ε) α} {next : α → StateT σ (Except ε) β}
    {first : Grammar α} {rest : α → Grammar β} (begins : Reads remaining admissible reader first)
    (continues : ∀ value, ReadsAll remaining admissible (next value) (rest value)) :
    ReadsAll remaining admissible (reader >>= next) (first.bind rest) where
  complete := by
    rintro state result ready ⟨value, front, back, spelled, others, split⟩
    obtain ⟨middle, ran, left, ready⟩ := begins.complete ready spelled split
    obtain ⟨after, finished⟩ := (continues value).complete ready (left ▸ others)
    exact ⟨after, (run_bind_of_ok next ran).trans finished⟩
  faithful := by
    intro state result after ran
    obtain ⟨value, middle, begun, finished⟩ := run_bind_ok ran
    obtain ⟨front, spelled, split⟩ := begins.faithful begun
    exact ⟨value, front, _, spelled, (continues value).faithful finished, split⟩

theorem convert {reader : StateT σ (Except ε) α} {grammar : Grammar α} (test : α → Except ε β)
    (reads : ReadsAll remaining admissible reader grammar) :
    ReadsAll remaining admissible (reader >>= fun value => liftM (test value)) (grammar.convert test) where
  complete := by
    rintro state result ready ⟨value, spelled, passed⟩
    obtain ⟨after, ran⟩ := reads.complete ready spelled
    refine ⟨after, (run_bind_of_ok _ ran).trans ?_⟩
    rw [passed]
    rfl
  faithful := by
    intro state result after ran
    obtain ⟨value, middle, begun, finished⟩ := run_bind_ok ran
    refine ⟨value, reads.faithful begun, ?_⟩
    cases passed : test value with
    | error failure => rw [passed] at finished; cases finished
    | ok found => rw [passed] at finished; cases finished; rfl

theorem congr {reader : StateT σ (Except ε) α} {grammar other : Grammar α}
    (reads : ReadsAll remaining admissible reader grammar)
    (same : ∀ value bytes, other value bytes ↔ grammar value bytes) :
    ReadsAll remaining admissible reader other where
  complete ready spelled := reads.complete ready ((same _ _).mp spelled)
  faithful ran := (same _ _).mpr (reads.faithful ran)

end ReadsAll

/-- `reader` fails with no other errors than those of `kinds`. -/
structure Fails (reader : StateT σ (Except ε) α) (kinds : ε → Prop) : Prop where
  only : ∀ {state failure}, reader.run state = .error failure → kinds failure

namespace Fails

variable {kinds : ε → Prop}

theorem pure (value : α) : Fails (Pure.pure value : StateT σ (Except ε) α) kinds where
  only := by
    intro state failure ran
    cases ran

theorem throw {failure : ε} (allowed : kinds failure) :
    Fails (MonadExcept.throw failure : StateT σ (Except ε) α) kinds where
  only := by
    intro state found ran
    cases ran
    exact allowed

theorem bind {reader : StateT σ (Except ε) α} {next : α → StateT σ (Except ε) β} (begins : Fails reader kinds)
    (continues : ∀ value, Fails (next value) kinds) : Fails (reader >>= next) kinds where
  only := by
    intro state failure ran
    simp only [StateT.run_bind] at ran
    rcases first : reader.run state with stopped | ⟨value, middle⟩ <;> rw [first] at ran
    · cases ran
      exact begins.only first
    · exact (continues value).only ran

theorem lift {result : Except ε α} (allowed : ∀ failure, result = .error failure → kinds failure) :
    Fails (liftM result : StateT σ (Except ε) α) kinds where
  only := by
    intro state failure ran
    rcases result with stopped | value
    · cases ran
      exact allowed _ rfl
    · cases ran

theorem ite {condition : Prop} [Decidable condition] {first second : StateT σ (Except ε) α}
    (holds : Fails first kinds) (otherwise : Fails second kinds) :
    Fails (if condition then first else second) kinds := by
  split
  · exact holds
  · exact otherwise

end Fails

end Luma.Library.Reader
