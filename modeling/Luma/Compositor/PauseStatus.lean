import Luma.Compositor.RecorderRuns
import Luma.Recorder.PauseParity

/-! The pause that the compositor shows, and the one that the engine is in.

The controller counts the lines that it writes by its status alone. An engine that is gone, or that cannot be inspected,
is shown as an error instead.
-/

set_option autoImplicit false

namespace Luma.Compositor.RecorderController

open Luma.Library Luma.Core Luma.Recorder Luma.Recorder.PipedEngine

/-! ## What the controller writes -/

inductive ControlObservation where
  | started
  | wrote (line : String)
  deriving DecidableEq

/-- An action that was written to the control pipe. -/
def written (action : String) : Except String Unit → List ControlObservation
  | .ok () => [.wrote action]
  | .error _ => []

def spawned : Except String (Nat × RecorderController × Launch) → List ControlObservation
  | .ok _ => [.started]
  | .error _ => []

/-- What an operation does to the engine. -/
def controls (self : RecorderController) : Operation → List ControlObservation
  | .start host process config replay captureOutput commitPaced =>
      spawned (self.start host process config replay captureOutput commitPaced)
  | .startGame host process config profile => spawned (self.startGame host process config profile)
  | .startGameAttach host process config pid => spawned (self.startGameAttach host process config pid)
  | .startGameXwayland host process config captureOutput window =>
      spawned (self.startGameXwayland host process config captureOutput window)
  | .togglePause host => written "pause" (self.togglePause host).1
  | .saveReplay host => written "save-replay" (self.saveReplay host)
  | .stop host => if self.child.isSome then written "stop" (self.stop host).1 else []
  | .poll _ | .noteSourceFrame _ | .abort _ => []

/-- The operations, with the lines that they write. -/
def control : Transition.Step RecorderController Operation ControlObservation := fun self operation =>
  ((self.step operation).1, self.controls operation)

/-- The pause lines since the last start. -/
def pauseLines : List ControlObservation → Nat
  | [] => 0
  | .started :: _ => 0
  | .wrote line :: earlier => pauseLines earlier + (isPause line).toNat

/-- An error that is shown is not toggled away. -/
def Inspected : Transition.Condition RecorderController Operation ControlObservation := fun _ self operation =>
  match operation with
  | .togglePause _ => self.status.state ≠ .error
  | _ => True

/-- While the engine is there and no error is shown, the status is the parity of the lines. -/
def Shown (history : List ControlObservation) (self : RecorderController) : Prop :=
  self.child.isSome → self.status.state ≠ .error → (self.status.state = .paused ↔ odd (pauseLines history) = true)

/-! ## Operations -/

variable {self after : RecorderController} {history : List ControlObservation}

theorem shown_of_none (gone : self.child = none) : Shown history self := by
  intro owned
  rw [gone] at owned
  cases owned

theorem shown_started (state : after.status.state = .starting) : Shown (.started :: history) after := by
  intro _ _
  rw [state]
  constructor
  · intro paused
    cases paused
  · intro paused
    cases paused

/-- The status is taken over, or none of them is a pause. -/
theorem Shown.of_same (shown : Shown history self) (child : after.child = self.child)
    (state : after.status.state = self.status.state) : Shown history after := by
  unfold Shown
  rw [child, state]
  exact shown

theorem Shown.wrote (shown : Shown history self) {action : String} (other : isPause action = false)
    (result : Except String Unit) : Shown (written action result ++ history) self := by
  cases result with
  | error error => exact shown
  | ok =>
    intro owned intact
    have same : pauseLines (written action (.ok ()) ++ history) = pauseLines history := by
      show pauseLines history + (isPause action).toNat = _
      rw [other]
      rfl
    rw [same]
    exact shown owned intact

theorem Shown.start (shown : Shown history self) {result : Except String (Nat × RecorderController × Launch)}
    (started : ∀ {fps after launch}, result = .ok (fps, after, launch) → Shown (.started :: history) after) :
    Shown (spawned result ++ history) (self.afterStart result).1 := by
  rcases result with error | ⟨fps, after, launch⟩
  · exact shown
  · exact started rfl

theorem Shown.togglePause (shown : Shown history self) (consistent : Consistent self) (host : StopHost)
    (intact : self.status.state ≠ .error) :
    Shown (written "pause" (self.togglePause host).1 ++ history) (self.togglePause host).2 := by
  unfold RecorderController.togglePause
  rw [if_neg consistent.noReplay]
  cases sent : self.send host with
  | error error => exact shown
  | ok =>
    intro owned _
    have before := shown owned intact
    show _ ↔ odd (pauseLines history + 1) = true
    rw [odd_succ]
    simp only
    by_cases paused : self.status.state = .paused
    · rw [if_pos paused, before.mp paused]
      decide
    · have even : odd (pauseLines history) = false := by
        rw [← Bool.not_eq_true]
        exact fun uneven => paused (before.mpr uneven)
      rw [if_neg paused, even]
      decide

theorem Shown.pollRunning (shown : Shown history self) (host : PollHost) : Shown history (self.pollRunning host).2 := by
  unfold RecorderController.pollRunning
  split
  · rename_i starts
    intro owned _
    have before := shown owned (by rw [starts.1]; decide)
    rw [starts.1] at before
    rw [← before]
    show RecorderState.recording = .paused ↔ RecorderState.starting = .paused
    decide
  · split
    · exact shown.of_same rfl rfl
    · exact shown

theorem Shown.poll (shown : Shown history self) (consistent : Consistent self) (host : PollHost) :
    Shown history (self.poll host).2 := by
  rw [poll_eq consistent]
  split
  · unfold pollNative
    split
    · exact shown_of_none rfl
    · exact shown.pollRunning host
    · exact fun _ intact => absurd rfl intact
  · rename_i nothing
    have gone : self.child = none := by simpa using nothing
    split
    · unfold pollGameLauncher
      split
      · exact shown_of_none gone
      · exact shown.pollRunning host
      · exact shown_of_none gone
    · exact shown

theorem Shown.step (shown : Shown history self) (consistent : Consistent self) {operation : Operation}
    (inspected : Inspected history self operation) :
    Shown ((control self operation).2 ++ history) (control self operation).1 := by
  cases operation with
  | start host process config replay captureOutput commitPaced =>
    exact shown.start fun ok => shown_started (start_ok ok).1.state
  | startGame host process config profile => exact shown.start fun ok => shown_started (startGame_ok ok).state
  | startGameAttach host process config pid => exact shown.start fun ok => shown_started (startGameAttach_ok ok).state
  | startGameXwayland host process config captureOutput window =>
    exact shown.start fun ok => shown_started (startGameXwayland_ok ok).state
  | togglePause host => exact shown.togglePause consistent host inspected
  | saveReplay host => exact shown.wrote (by decide) _
  | stop host => exact shown_of_none (stop_child self host)
  | poll host => exact shown.poll consistent host
  | noteSourceFrame now =>
    show Shown history (self.noteSourceFrame now)
    unfold noteSourceFrame
    split
    · exact shown
    · simp only
      split <;> exact shown.of_same rfl rfl
  | abort reason => exact shown_of_none rfl

/-! ## Runs -/

end Luma.Compositor.RecorderController
