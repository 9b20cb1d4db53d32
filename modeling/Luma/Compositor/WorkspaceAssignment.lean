import Luma.Compositor.PolicyChanges

/-! No two outputs show the same workspace.

The map of outputs is an exclusive assignment. `workspace` trades numbers and the
maintenance pass hands out free ones, so both keep it; a focus by id writes the
pair that a window carries without asking who shows the workspace already.
-/

set_option autoImplicit false

namespace Luma.Compositor

open Luma.Library Luma.Core Luma.Library.Assignment Desktop

namespace AnvilState

variable {self : AnvilState} {change : Change}

/-- The output that a focus writes to is the only one with the workspace, and an output
without a number does not trade the number that it is taken to show. -/
def KeepsApart (self : AnvilState) : Change → Prop
  | .workspace out number => (shows self.desktop.outputs out).isSome ∨
      (∀ name, shows self.desktop.outputs name ≠ some number) ∨
      number ≠ 1 ∧ ∀ name, shows self.desktop.outputs name ≠ some 1
  | .focus window => window.output ∉ self.outputNames ∨
      ∀ other ∈ self.outputNames, shows self.desktop.outputs other = some window.workspace → other = window.output
  | _ => True

/-- What an output is taken to show is shown by no other one, before a trade. -/
theorem sole_previous {out other : String} {number : Nat} (exclusive : Exclusive (shows self.desktop.outputs))
    (apart : self.KeepsApart (.workspace out number)) (away : other ≠ out)
    (held : shows self.desktop.outputs other = some number) :
    Sole (shows self.desktop.outputs) out (workspaceOf self.desktop.outputs out) ∧
      workspaceOf self.desktop.outputs out ≠ number := by
  rw [workspaceOf_eq]
  rcases shown : shows self.desktop.outputs out with - | previous
  · rcases apart with known | nobody | ⟨differs, unused⟩
    · rw [shown] at known
      cases known
    · exact absurd held (nobody other)
    · exact ⟨fun holder holds => absurd holds (unused holder), differs.symm⟩
  · refine ⟨exclusive out previous shown, ?_⟩
    intro same
    have same : previous = number := same
    rw [same] at shown
    exact away (exclusive out number shown other held)

/-- A change without a pass keeps the map exclusive. -/
theorem apply_exclusive (exclusive : Exclusive (shows self.desktop.outputs)) (apart : self.KeepsApart change)
    (direct : change.maintains = false) : Exclusive (shows (change.apply self.desktop).outputs) := by
  cases change with
  | maintain | focus => cases direct
  | keep | reload | send | stash => exact exclusive
  | unstash window out =>
    simp only [Change.apply, scratchpadShow]
    split <;> exact exclusive
  | workspace out number =>
    simp only [Change.apply]
    rcases showWorkspace_cases self.desktop out number with ⟨sole, placed⟩ | ⟨other, away, held, traded⟩
    · rw [placed, shows_insert]
      exact exclusive.place sole
    · rw [traded, shows_trade]
      obtain ⟨previous, differs⟩ := sole_previous exclusive apart away held
      exact exclusive.trade away held previous differs

/-- What a pass meets is exclusive on the outputs that are connected. -/
theorem apply_restricted (exclusive : Exclusive (shows self.desktop.outputs)) (apart : self.KeepsApart change)
    (passes : change.maintains = true) :
    Exclusive (restrict self.outputNames (shows (change.apply self.desktop).outputs)) := by
  cases change with
  | keep | reload | send | stash | unstash | workspace => cases passes
  | maintain => exact exclusive.narrow fun _ _ holds => (restrict_some.mp holds).2
  | focus window =>
    simp only [Change.apply, putOn, shows_insert]
    by_cases connected : window.output ∈ self.outputNames
    · have sole := apart.resolve_left fun absent => absent connected
      have moved : restrict self.outputNames (Function.update (shows self.desktop.outputs) window.output
          (some window.workspace)) = Function.update (restrict self.outputNames (shows self.desktop.outputs))
            window.output (some window.workspace) := by
        funext name
        by_cases own : name = window.output
        · rw [own, Function.update_self, restrict, if_pos connected, Function.update_self]
        · rw [Function.update_of_ne own, restrict, restrict, Function.update_of_ne own]
      rw [moved]
      apply Exclusive.place
      · exact exclusive.narrow fun _ _ holds => (restrict_some.mp holds).2
      · intro holder holds
        obtain ⟨known, shown⟩ := restrict_some.mp holds
        exact sole holder known shown
    · -- The entry is dropped with the output that is not there.
      apply exclusive.narrow
      intro holder workspace holds
      obtain ⟨known, shown⟩ := restrict_some.mp holds
      rw [Function.update_of_ne (by rintro rfl; exact connected known)] at shown
      exact shown

theorem nextOutputs_exclusive (distinct : self.outputNames.Nodup)
    (room : (missing self.outputNames (shows self.desktop.outputs)).length ≤
      (unheld pool self.outputNames (shows self.desktop.outputs)).length)
    (exclusive : Exclusive (restrict self.outputNames (shows self.desktop.outputs))) :
    Exclusive (shows self.nextOutputs) := by
  rw [nextOutputs, shows_maintained distinct room]
  exact plan_exclusive pool_nodup exclusive

theorem handle_exclusive {event : Event} (exclusive : Exclusive (shows self.desktop.outputs))
    (distinct : self.outputNames.Nodup) (few : self.space.outputs.length ≤ 9)
    (apart : self.KeepsApart (self.change event)) : Exclusive (shows (self.handle event).1.desktop.outputs) := by
  cases handle_follows self event with
  | settled direct moved =>
    rw [moved.kept.outputs]
    exact apply_exclusive exclusive apart direct
  | maintained host passes moved =>
    set changed := self.setDesktop ((self.change event).apply self.desktop)
    have pass := prepare_maintained changed host
    rw [moved.kept.outputs, pass.outputs]
    have connected : changed.outputNames.Nodup := distinct
    apply nextOutputs_exclusive connected
    · -- Nine numbers are enough for nine outputs.
      apply missing_le_unheld pool_nodup
      rw [outputNames, List.length_map]
      exact few
    · exact apply_restricted exclusive apart passes

/-- At most nine outputs are connected, and no step puts a workspace on a second one. -/
def separating : Transition.Condition AnvilState Event Observation :=
  fun _ self event => self.space.outputs.length ≤ 9 ∧ self.KeepsApart (self.change event)

variable {history : List Observation}

theorem initial_exclusive (loaded : Except String Config) : Exclusive (shows (initial loaded).desktop.outputs) := by
  intro name workspace holds
  rw [shows, initial] at holds
  simp at holds

theorem Execution.exclusive (run : Execution separating history self) :
    Exclusive (shows self.desktop.outputs) ∧ self.outputNames.Nodup := by
  refine Execution.invariant (fun _ self => Exclusive (shows self.desktop.outputs) ∧ self.outputNames.Nodup) ?_ ?_ run
  · exact fun loaded => ⟨initial_exclusive loaded, List.nodup_nil⟩
  · intro history self event _ permitted held
    exact ⟨handle_exclusive held.1 held.2 permitted.1 permitted.2, handle_names_nodup held.2⟩

/-- Two connected outputs that show the same workspace are the same output. -/
def Injective (self : AnvilState) : Prop :=
  ∀ one ∈ self.outputNames, ∀ other ∈ self.outputNames, ∀ workspace,
    shows self.desktop.outputs one = some workspace → shows self.desktop.outputs other = some workspace → one = other

theorem assignment_injective (run : Execution separating history self) : self.Injective := by
  intro one _ other _ workspace first second
  exact run.exclusive.1 other workspace second one first

/-- Two outputs, and a command that trades their workspaces. -/
def traded : List Event := [
  .connectOutput "DP-1" (some (1920, 1080)) (some ⟨0, 0, 1920, 1080⟩),
  .connectOutput "DP-2" (some (1920, 1080)) (some ⟨1920, 0, 1920, 1080⟩),
  .maintain {}]

def tradedState : AnvilState := (Transition.execute step (initial (.error "no configuration")) traded).1

theorem assignment_injective_traded : tradedState.Injective := by
  have permits : Transition.Permits step separating [] (initial (.error "no configuration")) traded :=
    ⟨⟨by decide, trivial⟩, ⟨by decide, trivial⟩, ⟨by decide, trivial⟩, trivial⟩
  exact assignment_injective (Transition.Run.execute traded (.start ⟨_, rfl⟩) permits)

/-- A window is sent to a workspace that a new output then shows; focusing it by id
shows the workspace on its old output as well. -/
def drifted : List Event := [
  .connectOutput "DP-1" (some (1920, 1080)) (some ⟨0, 0, 1920, 1080⟩),
  .windowCreated { handle := 7 },
  .windowMapped 7,
  .maintain {},
  .command {} "send 2",
  .connectOutput "DP-2" (some (1920, 1080)) (some ⟨1920, 0, 1920, 1080⟩),
  .maintain {},
  .command {} "focus 1"]

theorem focus_shows_twice : ∃ history self,
    Execution (fun _ self _ => self.space.outputs.length ≤ 9) history self ∧ ¬self.Injective := by
  have permits : Transition.Permits step (fun _ self _ => self.space.outputs.length ≤ 9) []
      (initial (.error "no configuration")) drifted := by
    refine ⟨?_, ?_, ?_, ?_, ?_, ?_, ?_, ?_, trivial⟩ <;> beta_reduce <;> decide +kernel
  refine ⟨_, _, Transition.Run.execute drifted (.start ⟨.error "no configuration", rfl⟩) permits, fun injective => ?_⟩
  have same := injective "DP-1" (by decide +kernel) "DP-2" (by decide +kernel) 2 (by decide +kernel) (by decide +kernel)
  exact absurd same (by decide)

end AnvilState

end Luma.Compositor
