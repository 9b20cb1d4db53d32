import Luma.Compositor.Locality

/-! Two flags of the session lock: that of the session decides what is delivered, that of
each output what is shown.

A lock surface marks its output and takes the keyboard focus whatever became of the
lock request that it is for.
-/

set_option autoImplicit false

namespace Luma.Compositor

open Luma.Library

namespace LockCoherence

inductive Input where
  | event (event : Event)
  /-- A lock surface for an output that was unplugged, and that somebody still holds. -/
  | lockSurfaceElsewhere

/-- The keyboard focus is given to a lock surface. -/
structure FocusGiven where
  locked : Bool
  deriving DecidableEq, Repr

/-- The output of a new lock surface is there. -/
def focuses (state : AnvilState) : Input → Bool
  | .event (.lockSurface output) => (state.findOutput output).isSome
  | .lockSurfaceElsewhere => true
  | .event _ => false

/-- No input handler gives the focus to a lock surface. -/
def foreign (state : AnvilState) : Input → Bool
  | .event (.seat seat) => seat.focus == some .lock && state.seat.focus != some .lock
  | _ => false

def handle (state : AnvilState) : Input → AnvilState
  | .event event => (state.handle event).1
  | .lockSurfaceElsewhere => (state.setSeat { state.seat with focus := some .lock }).requestRedraw

def step : Transition.Step AnvilState Input FocusGiven := fun state input =>
  if state.panicked || foreign state input then (state, [])
  else (handle state input, if focuses state input then [⟨state.lock.locked⟩] else [])

/-- What the output's lock data says: whether it is locked, and in which generation. -/
def mark (output : Output) : Option (Bool × Nat) := output.lock.map fun data => (data.locked, data.generation)

/-- The output is marked exactly when the session is locked, in its current generation. -/
structure Marked (lock : LockState) (mark : Option (Bool × Nat)) : Prop where
  locked : mark.any (·.1) = lock.locked
  generation : ∀ generation, mark = some (true, generation) → generation = lock.generation

def Coherent (state : AnvilState) : Prop := ∀ output ∈ state.space.outputs, Marked state.lock (mark output)

def WhileLocked (given : FocusGiven) (_ : List FocusGiven) : Prop := given.locked = true

/-- Lock surfaces are created while the session is locked. -/
def Allowed : Transition.Condition AnvilState Input FocusGiven := fun _ state input =>
  state.panicked = false → focuses state input = true → state.lock.locked = true

instance (history : List FocusGiven) (state : AnvilState) (input : Input) : Decidable (Allowed history state input) :=
  inferInstanceAs (Decidable (state.panicked = false → focuses state input = true → state.lock.locked = true))

abbrev Execution (allowed : Transition.Condition AnvilState Input FocusGiven) : List FocusGiven → AnvilState → Prop :=
  Transition.Run step allowed AnvilState.Started

/-! ## Outputs one by one -/

theorem marked_now {lock : LockState} (locked : lock.locked = true) : Marked lock (some (true, lock.generation)) :=
  ⟨locked.symm, fun _ same => by cases same; rfl⟩

theorem Coherent.of_outputs {before after : AnvilState} (coherent : Coherent before)
    (locked : after.lock.locked = before.lock.locked) (generation : after.lock.generation = before.lock.generation)
    (outputs : ∀ output ∈ after.space.outputs, ∃ earlier ∈ before.space.outputs, mark output = mark earlier) :
    Coherent after := by
  intro output member
  obtain ⟨earlier, known, same⟩ := outputs output member
  have marked := coherent earlier known
  rw [same]
  exact ⟨marked.locked.trans locked.symm, fun data shown => (marked.generation data shown).trans generation.symm⟩

variable {state : AnvilState}

/-- On a coherent session no output lacks the data that the layout pass would give it. -/
theorem Coherent.apart {result : AnvilState × List Observation} (coherent : Coherent state)
    (apart : AnvilState.Apart state result) : Coherent result.1 := by
  apply coherent.of_outputs (congrArg LockState.locked apart.lock) (congrArg LockState.generation apart.lock)
  intro output member
  rcases apart.outputs with same | marks
  · exact ⟨output, same ▸ member, rfl⟩
  · rw [marks] at member
    obtain ⟨earlier, known, rfl⟩ := List.mem_map.mp member
    refine ⟨earlier, known, ?_⟩
    unfold AnvilState.withLock
    cases locked : state.lock.locked with
    | false => rfl
    | true =>
      have marked := (coherent earlier known).locked
      rw [locked] at marked
      unfold mark at marked ⊢
      cases shown : earlier.lock with
      | none => rw [shown] at marked; cases marked
      | some data => rfl

theorem Coherent.requestLock (coherent : Coherent state) (locker : Nat) : Coherent (state.requestLock locker).1 := by
  unfold AnvilState.requestLock
  split
  · exact coherent
  · intro output member
    obtain ⟨earlier, _, rfl⟩ := List.mem_map.mp member
    exact marked_now rfl

theorem coherent_unlock (state : AnvilState) : Coherent state.unlock.1 := by
  intro output member
  obtain ⟨earlier, _, rfl⟩ := List.mem_map.mp member
  unfold mark
  cases earlier.lock with
  | none => exact ⟨rfl, nofun⟩
  | some data => exact ⟨rfl, nofun⟩

/-- A lock surface on a locked session leaves its output as locked as it was. -/
theorem Coherent.newLockSurface (coherent : Coherent state) (serial : Nat)
    (locked : (state.findOutput serial).isSome = true → state.lock.locked = true) :
    Coherent (state.newLockSurface serial) := by
  unfold AnvilState.newLockSurface
  cases found : state.findOutput serial with
  | none => exact coherent
  | some placed =>
    have locks := locked (by rw [found]; rfl)
    intro output member
    obtain ⟨earlier, known, rfl⟩ := List.mem_map.mp member
    show Marked state.lock (mark (if earlier.serial == serial then _ else earlier))
    by_cases same : (earlier.serial == serial) = true
    · rw [if_pos same]
      exact marked_now locks
    · rw [if_neg same]
      exact coherent earlier known

/-- On a session that is not locked it locks its output alone. -/
theorem incoherent_newLockSurface {serial : Nat} (unlocked : state.lock.locked = false)
    (found : (state.findOutput serial).isSome = true) : ¬Coherent (state.newLockSurface serial) := by
  intro coherent
  obtain ⟨placed, known⟩ := Option.isSome_iff_exists.mp found
  have same := List.find?_some known
  unfold AnvilState.newLockSurface at coherent
  rw [known] at coherent
  have marked := coherent _ (List.mem_map.mpr ⟨placed, List.mem_of_find?_eq_some known, rfl⟩)
  rw [if_pos same] at marked
  exact Bool.false_ne_true (unlocked.symm.trans marked.locked.symm)

theorem Coherent.connectOutput (coherent : Coherent state) (name : String) (mode : Option (Int × Int))
    (geometry : Option Core.Rect) : Coherent (state.connectOutput name mode geometry) := by
  unfold AnvilState.connectOutput
  split
  · exact coherent
  · intro output member
    rcases List.mem_append.mp member with old | new
    · exact coherent output old
    · rw [List.mem_singleton.mp new]
      unfold mark AnvilState.connectedLock
      cases locked : state.lock.locked with
      | true => exact marked_now locked
      | false => exact ⟨locked.symm, nofun⟩

theorem mark_recordPresented (data : LockOutput) (generation : Nat) :
    (data.recordPresented generation).2.locked = data.locked ∧
      (data.recordPresented generation).2.generation = data.generation := by
  unfold LockOutput.recordPresented
  split <;> exact ⟨rfl, rfl⟩

/-- Counting presentations moves no mark. -/
theorem Coherent.lockPresented (coherent : Coherent state) (frame : PresentedFrame) (generation : Nat) :
    Coherent (state.lockPresented frame generation).1 := by
  have rest := (AnvilState.countPresented_rest state frame generation).1
  have counted : ∀ lock : LockState, lock.locked = state.lock.locked → lock.generation = state.lock.generation →
      Coherent ((state.countPresented frame generation).setLock lock) := by
    intro lock locked same
    rw [rest]
    apply coherent.of_outputs locked same
    intro output member
    obtain ⟨earlier, known, rfl⟩ := List.mem_map.mp member
    refine ⟨earlier, known, ?_⟩
    split
    · unfold mark
      cases earlier.lock with
      | none => rfl
      | some data =>
        obtain ⟨locked, generation⟩ := mark_recordPresented data generation
        simp only [Option.map_some, locked, generation]
    · rfl
  rcases AnvilState.lockPresented_cases state frame generation with nothing | ⟨-, -, counts | ⟨-, confirms⟩⟩
  · rw [nothing]
    exact coherent
  · have kept := counted state.lock rfl rfl
    rw [counts]
    rw [rest] at kept ⊢
    exact kept
  · rw [confirms]
    exact counted _ rfl rfl

theorem Coherent.runIdle (coherent : Coherent state) : Coherent state.runIdle.1 := by
  rcases AnvilState.runIdle_cases state with ⟨-, nothing⟩ | ⟨frame, idles, -, ⟨-, taken⟩ | ⟨generation, -, presented⟩⟩
  · rw [nothing]
    exact coherent
  · rw [taken]
    exact coherent
  · rw [presented]
    have taken : Coherent (state.setPresentation { state.presentation with idles }) := coherent
    exact taken.lockPresented frame generation

/-! ## Every input -/

theorem Coherent.handle (coherent : Coherent state) (event : Event)
    (surface : ∀ output, event = .lockSurface output → (state.findOutput output).isSome = true → state.lock.locked = true) :
    Coherent (state.handle event).1 := by
  cases event with
  | lock locker => exact coherent.requestLock locker
  | unlock => exact coherent_unlock state
  | lockSurface output => exact coherent.newLockSurface output (surface output rfl)
  | queueFrame output =>
    unfold AnvilState.handle AnvilState.queueFrame
    dsimp only
    split <;> exact coherent
  | dropFrame frame => exact coherent
  | frameFinish frame =>
    unfold AnvilState.handle AnvilState.frameFinish
    dsimp only
    split
    · exact coherent
    · split <;> exact coherent
  | idle => exact coherent.runIdle
  | connectOutput name mode geometry => exact coherent.connectOutput name mode geometry
  | disconnectOutput name => exact fun output member => coherent output (List.mem_of_mem_filter member)
  | changeOutput name mode geometry =>
    intro output member
    obtain ⟨earlier, known, rfl⟩ := List.mem_map.mp member
    have marked := coherent earlier known
    split <;> exact marked
  | _ => exact coherent.apart (AnvilState.handle_apart rfl)

theorem Coherent.step {input : Input} (coherent : Coherent state) (allowed : Allowed [] state input) :
    Coherent (step state input).1 := by
  unfold LockCoherence.step
  split
  · exact coherent
  · rename_i going
    rw [Bool.or_eq_true, not_or, Bool.not_eq_true] at going
    have surfaces := allowed going.1
    cases input with
    | event event => exact coherent.handle event fun output same found => surfaces (by rw [same]; exact found)
    | lockSurfaceElsewhere => exact coherent

/-- While lock surfaces are created on a locked session only, whatever became of the lock
requests and wherever outputs come and go: each output is marked as locked exactly
when the session is, in its generation, and the focus is given to lock surfaces only
then. The first lock surface against that breaks one or the other. -/
theorem lock_coherent {history : List FocusGiven} (run : Execution Allowed history state) :
    (Coherent state ∧ Transition.Throughout WhileLocked history) ∧ ∀ input, ¬Allowed history state input →
      ¬Transition.Throughout WhileLocked ((step state input).2 ++ history) ∧
        ∀ output, input = .event (.lockSurface output) → ¬Coherent (step state input).1 := by
  constructor
  · apply @Transition.Run.invariant _ _ _ _ _ _ _ _
      (fun history state => Coherent state ∧ Transition.Throughout WhileLocked history) ?_ ?_ run
    · rintro _ ⟨loaded, rfl⟩
      exact ⟨List.forall_mem_nil _, trivial⟩
    · rintro history state input _ allowed ⟨coherent, given⟩
      refine ⟨coherent.step allowed, ?_⟩
      unfold LockCoherence.step
      split
      · exact given
      · rename_i going
        rw [Bool.or_eq_true, not_or, Bool.not_eq_true] at going
        dsimp only
        split
        · rename_i focus
          exact ⟨allowed going.1 focus, given⟩
        · exact given
  · intro input disallowed
    unfold Allowed at disallowed
    simp only [Classical.not_imp, Bool.not_eq_true] at disallowed
    obtain ⟨going, focus, unlocked⟩ := disallowed
    have own : foreign state input = false := by
      cases input with
      | lockSurfaceElsewhere => rfl
      | event event => cases event <;> first | rfl | cases focus
    have taken : step state input = (handle state input, [⟨false⟩]) := by
      unfold LockCoherence.step
      rw [going, own, focus, unlocked]
      rfl
    rw [taken]
    refine ⟨fun given => Bool.false_ne_true given.1, ?_⟩
    rintro output rfl
    exact incoherent_newLockSurface unlocked focus

/-- The session is not active, so the lock request before the lock surface is refused. -/
def refusedLock : List Input :=
  [.event (.connectOutput "DP-1" none none), .event .pauseSession, .event (.lock 1), .event (.lockSurface 0)]

/-- The lock surface of a refused request hides its output and takes the keyboard of an unlocked session. -/
theorem refused_lock_incoherent :
    ¬∀ history state, Execution Transition.unrestricted history state →
      Coherent state ∧ Transition.Throughout WhileLocked history := by
  intro always
  have begun : Execution Transition.unrestricted [] (AnvilState.initial (.ok {})) := .start ⟨_, rfl⟩
  have run := begun.execute refusedLock (Transition.permits_unrestricted _ _ _ _)
  rw [List.append_nil] at run
  have seen : (Transition.execute step (AnvilState.initial (.ok {})) refusedLock).2 = [⟨false⟩] := by decide +kernel
  rw [seen] at run
  exact Bool.false_ne_true (always _ _ run).2.1

/-- An output that is unplugged and plugged in again while the session is locked. -/
theorem lock_coherent_replugged :
    let final := Transition.execute step (AnvilState.initial (.ok {}))
      [.event (.connectOutput "DP-1" none none), .event (.lock 1), .event (.lockSurface 0),
        .event (.disconnectOutput "DP-1"), .event (.connectOutput "DP-1" none none), .event (.lockSurface 1),
        .event .unlock]
    (Coherent final.1 ∧ Transition.Throughout WhileLocked final.2) ∧ ∀ input, ¬Allowed final.2 final.1 input →
      ¬Transition.Throughout WhileLocked ((step final.1 input).2 ++ final.2) ∧
        ∀ output, input = .event (.lockSurface output) → ¬Coherent (step final.1 input).1 := by
  intro final
  have begun : Execution Allowed [] (AnvilState.initial (.ok {})) := .start ⟨_, rfl⟩
  have run := begun.execute [.event (.connectOutput "DP-1" none none), .event (.lock 1), .event (.lockSurface 0),
    .event (.disconnectOutput "DP-1"), .event (.connectOutput "DP-1" none none), .event (.lockSurface 1),
    .event .unlock] (by decide +kernel)
  rw [List.append_nil] at run
  exact lock_coherent run

end LockCoherence

end Luma.Compositor
