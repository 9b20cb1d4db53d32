import Luma.Compositor.RecorderController
import Luma.Library.Transition

/-! Runs of the recorder controller over its own operations.

The handles stay consistent whatever fails. The published state outlives the
process only through a `stop` that gives up after taking its child out.
-/

set_option autoImplicit false

namespace Luma.Compositor

open Luma.Library Luma.Core

def RecorderActive : RecorderState → Prop
  | .starting | .recording | .paused | .replay => True
  | .idle | .error => False

namespace RecorderController

inductive Operation where
  | start (host : SpawnHost) (process : Nat) (config : Recorder) (replay : Bool) (captureOutput : String)
      (commitPaced : Bool)
  | startGame (host : SpawnHost) (process : Nat) (config : Recorder) (profile : GameCaptureProfile)
  | startGameAttach (host : SpawnHost) (process : Nat) (config : Recorder) (pid : Nat)
  | startGameXwayland (host : SpawnHost) (process : Nat) (config : Recorder) (captureOutput : String)
      (window : Nat)
  | togglePause (host : StopHost)
  | saveReplay (host : StopHost)
  | stop (host : StopHost)
  | poll (host : PollHost)
  | noteSourceFrame (now : Nat)
  | abort (reason : String)

/-- The controller a start leaves, and its error if it failed. -/
def afterStart (self : RecorderController) (result : Except String (Nat × RecorderController × Launch)) :
    RecorderController × List (Except String Unit) :=
  match result with
  | .ok (_, after, _) => (after, [.ok ()])
  | .error error => (self, [.error error])

/-- One call. The observation is the call's result. -/
def step : Transition.Step RecorderController Operation (Except String Unit)
  | self, .start host process config replay captureOutput commitPaced =>
      self.afterStart (self.start host process config replay captureOutput commitPaced)
  | self, .startGame host process config profile => self.afterStart (self.startGame host process config profile)
  | self, .startGameAttach host process config pid => self.afterStart (self.startGameAttach host process config pid)
  | self, .startGameXwayland host process config captureOutput window =>
      self.afterStart (self.startGameXwayland host process config captureOutput window)
  | self, .togglePause host => ((self.togglePause host).2, [(self.togglePause host).1])
  | self, .saveReplay host => (self, [self.saveReplay host])
  | self, .stop host => ((self.stop host).2, [(self.stop host).1])
  | self, .poll host => ((self.poll host).2, [])
  | self, .noteSourceFrame now => (self.noteSourceFrame now, [])
  | self, .abort reason => (self.abort reason, [])

abbrev Run (allowed : Transition.Condition RecorderController Operation (Except String Unit)) :=
  Transition.Run step allowed (· = {})

/-! ## Consistent handles -/

/-- At most one process is owned, the control pipe belongs to the native engine
and there is never a replay. -/
structure Consistent (controller : RecorderController) : Prop where
  exclusive : controller.child.isSome → controller.gameLauncher = none
  piped : controller.stdin = controller.child.isSome
  unlimited : controller.replayMaxMib = none
  noReplay : controller.status.state ≠ .replay

variable {self after : RecorderController}

theorem not_running {self : RecorderController} (idle : self.isRunning = false) :
    self.child = none ∧ self.gameLauncher = none := by
  simpa [isRunning] using idle

theorem NativeStarted.consistent {process : Nat} (started : NativeStarted self after process) :
    Consistent after where
  exclusive := by
    intro _
    rw [started.gameLauncher]
    exact (not_running started.idle).2
  piped := by rw [started.stdin, started.child]; rfl
  unlimited := started.replayMaxMib
  noReplay := by
    rw [started.state]
    decide

theorem GameStarted.consistent {process : Nat} (started : GameStarted self after process)
    (before : Consistent self) : Consistent after where
  exclusive := by
    intro owned
    rw [started.child, (not_running started.idle).1] at owned
    cases owned
  piped := by rw [started.stdin, started.child, before.piped]
  unlimited := started.replayMaxMib
  noReplay := by
    rw [started.state]
    decide

theorem initial_consistent : Consistent {} := ⟨nofun, rfl, rfl, by decide⟩

theorem abort_consistent (reason : String) : Consistent (self.abort reason) :=
  ⟨nofun, rfl, rfl, by simp [abort]⟩

theorem togglePause_consistent (before : Consistent self) (host : StopHost) :
    Consistent (self.togglePause host).2 := by
  unfold togglePause
  split
  · exact before
  · split
    · exact before
    · refine ⟨before.exclusive, before.piped, before.unlimited, ?_⟩
      dsimp only
      split <;> decide

theorem stop_consistent (before : Consistent self) (host : StopHost) : Consistent (self.stop host).2 := by
  unfold stop
  split
  · rename_i child owned
    have piped : self.stdin = true := by rw [before.piped, owned]; rfl
    rw [piped]
    rcases written : host.write with error | ⟨⟩
    · exact ⟨nofun, rfl, before.unlimited, before.noReplay⟩
    · exact initial_consistent
  · rename_i nothing _
    dsimp only
    split
    · exact ⟨fun _ => rfl, before.piped, before.unlimited, before.noReplay⟩
    · exact initial_consistent
  · exact before

theorem pollRunning_consistent (before : Consistent self) (host : PollHost) :
    Consistent (self.pollRunning host).2 := by
  unfold pollRunning
  split
  · exact ⟨before.exclusive, before.piped, before.unlimited, by simp⟩
  · split
    · exact ⟨before.exclusive, before.piped, before.unlimited, before.noReplay⟩
    · exact before

theorem poll_eq (before : Consistent self) (host : PollHost) :
    self.poll host = if self.child.isSome then self.pollNative host
      else if self.gameLauncher.isSome then self.pollGameLauncher host else (false, self) := by
  have unlimited : self.replayLimitExceeded host = none := by
    unfold replayLimitExceeded
    rw [before.unlimited]
    split <;> simp_all
  unfold poll
  rw [unlimited]

theorem poll_consistent (before : Consistent self) (host : PollHost) : Consistent (self.poll host).2 := by
  rw [poll_eq before]
  split
  · unfold pollNative
    split
    · exact ⟨nofun, rfl, before.unlimited, by simp⟩
    · exact pollRunning_consistent before host
    · exact ⟨before.exclusive, before.piped, before.unlimited, by simp⟩
  · rename_i noChild
    split
    · unfold pollGameLauncher
      split
      · refine ⟨fun _ => rfl, ?_, rfl, ?_⟩
        · simpa using noChild
        · dsimp only
          split <;> simp
      · exact pollRunning_consistent before host
      · exact ⟨before.exclusive, before.piped, before.unlimited, by simp⟩
    · exact before

theorem noteSourceFrame_consistent (before : Consistent self) (now : Nat) :
    Consistent (self.noteSourceFrame now) := by
  unfold noteSourceFrame
  split
  · exact before
  · dsimp only
    split <;> exact ⟨before.exclusive, before.piped, before.unlimited, before.noReplay⟩

theorem afterStart_consistent {result : Except String (Nat × RecorderController × Launch)} (before : Consistent self)
    (kept : ∀ {fps after launch}, result = .ok (fps, after, launch) → Consistent after) :
    Consistent (self.afterStart result).1 := by
  rcases result with error | ⟨fps, after, launch⟩
  · exact before
  · exact kept rfl

theorem step_consistent (before : Consistent self) (operation : Operation) :
    Consistent (self.step operation).1 := by
  cases operation with
  | start host process config replay captureOutput commitPaced =>
    exact afterStart_consistent before fun ok => (start_ok ok).1.consistent
  | startGame host process config profile =>
    exact afterStart_consistent before fun ok => (startGame_ok ok).consistent before
  | startGameAttach host process config pid =>
    exact afterStart_consistent before fun ok => (startGameAttach_ok ok).consistent before
  | startGameXwayland host process config captureOutput window =>
    exact afterStart_consistent before fun ok => (startGameXwayland_ok ok).consistent
  | togglePause host => exact togglePause_consistent before host
  | saveReplay host => exact before
  | stop host => exact stop_consistent before host
  | poll host => exact poll_consistent before host
  | noteSourceFrame now => exact noteSourceFrame_consistent before now
  | abort reason => exact abort_consistent reason

theorem Run.consistent {allowed : Transition.Condition RecorderController Operation (Except String Unit)}
    {history : List (Except String Unit)} {state : RecorderController} (run : Run allowed history state) :
    Consistent state := by
  refine Transition.Run.state_invariant ?_ ?_ run
  · rintro _ rfl
    exact initial_consistent
  · intro _ state operation _ before
    exact step_consistent before operation

/-! ## The published state and the process -/

/-- An active state is published only while a process is owned. -/
def Live (controller : RecorderController) : Prop :=
  RecorderActive controller.status.state → controller.isRunning = true

/-- A stop that meets an active state gets its message through: the write to a
native engine's pipe, or the termination of a game wrapper. -/
def Settles (controller : RecorderController) : Operation → Prop
  | .stop host => RecorderActive controller.status.state →
      (controller.child.isSome → host.write = .ok ()) ∧
        (controller.child = none → controller.gameLauncher.isSome → host.terminate = .ok ())
  | _ => True

theorem live_of_error {controller : RecorderController} (failed : controller.status.state = .error) :
    Live controller := by
  intro active
  rw [failed] at active
  cases active

theorem live_of_child {controller : RecorderController} {process : Nat}
    (owned : controller.child = some process) : Live controller := by
  intro _
  simp [isRunning, owned]

theorem live_of_launcher {controller : RecorderController} {process : Nat}
    (owned : controller.gameLauncher = some process) : Live controller := by
  intro _
  simp [isRunning, owned]

theorem afterStart_live {result : Except String (Nat × RecorderController × Launch)} (before : Live self)
    (kept : ∀ {fps after launch}, result = .ok (fps, after, launch) → Live after) :
    Live (self.afterStart result).1 := by
  rcases result with error | ⟨fps, after, launch⟩
  · exact before
  · exact kept rfl

theorem togglePause_live (consistent : Consistent self) (before : Live self) (host : StopHost) :
    Live (self.togglePause host).2 := by
  unfold togglePause
  split
  · exact before
  · split
    · exact before
    · rename_i sent
      intro _
      -- The message could only be sent through the pipe of an engine.
      have piped : self.stdin = true := by
        by_contra closed
        rw [Bool.not_eq_true] at closed
        rw [send, closed] at sent
        cases sent
      rw [consistent.piped] at piped
      simp [isRunning, piped]

theorem pollRunning_live (running : self.isRunning = true) (host : PollHost) :
    Live (self.pollRunning host).2 := by
  intro _
  unfold pollRunning
  split
  · exact running
  · split <;> exact running

theorem poll_live (consistent : Consistent self) (before : Live self) (host : PollHost) :
    Live (self.poll host).2 := by
  rw [poll_eq consistent]
  split
  · rename_i owned
    unfold pollNative
    split
    · exact live_of_error rfl
    · exact pollRunning_live (by simp [isRunning, owned]) host
    · exact live_of_error rfl
  · split
    · rename_i owned
      unfold pollGameLauncher
      split
      · intro active
        dsimp only at active
        split at active <;> cases active
      · exact pollRunning_live (by simp [isRunning, owned]) host
      · exact live_of_error rfl
    · exact before

theorem noteSourceFrame_live (before : Live self) (now : Nat) : Live (self.noteSourceFrame now) := by
  unfold noteSourceFrame
  split
  · exact before
  · dsimp only
    split <;> exact before

/-- A stop keeps the state and the process together exactly when it settles. -/
theorem stop_live_iff (consistent : Consistent self) (before : Live self) (host : StopHost) :
    Live (self.stop host).2 ↔ Settles self (.stop host) := by
  unfold stop
  split
  · rename_i child owned
    have piped : self.stdin = true := by rw [consistent.piped, owned]; rfl
    have alone : self.gameLauncher = none := consistent.exclusive (by rw [owned]; rfl)
    rw [piped]
    rcases written : host.write with error | ⟨⟩
    · simp [Live, Settles, isRunning, owned, alone, written]
    · simp [Live, Settles, owned, written, reset, RecorderActive]
  · rename_i launcher nothing owned
    rcases terminated : host.terminate with error | ⟨⟩
    · simp [Live, Settles, isRunning, owned, nothing, terminated]
    · simp [Live, Settles, owned, nothing, terminated, reset, RecorderActive]
  · rename_i nothing nowhere
    simp only [Settles, nothing, nowhere]
    exact ⟨fun _ _ => ⟨nofun, nofun⟩, fun _ => before⟩

theorem step_live_iff (consistent : Consistent self) (before : Live self) (operation : Operation) :
    Live (self.step operation).1 ↔ Settles self operation := by
  cases operation with
  | stop host => exact stop_live_iff consistent before host
  | start host process config replay captureOutput commitPaced =>
    exact iff_of_true (afterStart_live before fun ok => live_of_child (start_ok ok).1.child) trivial
  | startGame host process config profile =>
    exact iff_of_true (afterStart_live before fun ok => live_of_launcher (startGame_ok ok).gameLauncher) trivial
  | startGameAttach host process config pid =>
    exact iff_of_true (afterStart_live before fun ok => live_of_launcher (startGameAttach_ok ok).gameLauncher)
      trivial
  | startGameXwayland host process config captureOutput window =>
    exact iff_of_true (afterStart_live before fun ok => live_of_child (startGameXwayland_ok ok).child) trivial
  | togglePause host => exact iff_of_true (togglePause_live consistent before host) trivial
  | saveReplay host => exact iff_of_true before trivial
  | poll host => exact iff_of_true (poll_live consistent before host) trivial
  | noteSourceFrame now => exact iff_of_true (noteSourceFrame_live before now) trivial
  | abort reason => exact iff_of_true (live_of_error rfl) trivial

/-- In every run whose stops settle, an active state has its process. And a stop
that does not settle breaks this at once, whatever run it ends. -/
theorem active_has_process {history : List (Except String Unit)} {state : RecorderController} :
    (Run (fun _ => Settles) history state → Live state) ∧
      (Run Transition.unrestricted history state → Live state →
        ∀ operation, ¬Settles state operation → ¬Live (state.step operation).1) := by
  constructor
  · intro run
    have both : Consistent state ∧ Live state := by
      induction run with
      | start begun =>
        cases begun
        exact ⟨initial_consistent, fun active => by cases active⟩
      | step operation _ settles ih =>
        exact ⟨step_consistent ih.1 operation, (step_live_iff ih.1 ih.2 operation).mpr settles⟩
    exact both.2
  · intro run live operation fails kept
    exact fails ((step_live_iff run.consistent live operation).mp kept)

def exampleHost : SpawnHost where
  home := some "/home/u"
  runtimeDirectory := some "/run/user/1000"
  engine := .ok "/usr/bin/luma-recorder-engine"
  engineIsFile := true

def exampleInputs : List Operation := [.start exampleHost 1 {} false "DP-1" false, .poll { now := 600 }]

def brokenStop : Operation := .stop { write := .error "Broken pipe (os error 32)" }

theorem active_has_process_recording :
    Live (Transition.execute step {} exampleInputs).1 ∧
      ¬Live ((Transition.execute step {} exampleInputs).1.step brokenStop).1 := by
  have live : Live (Transition.execute step {} exampleInputs).1 :=
    active_has_process.1 (Transition.Run.execute exampleInputs (.start rfl) ⟨trivial, trivial, trivial⟩)
  refine ⟨live, active_has_process.2 (Transition.Run.execute exampleInputs (.start rfl)
    (Transition.permits_unrestricted _ _ _ _)) live brokenStop ?_⟩
  intro settles
  cases (settles trivial).1 rfl

/-- The engine dies, the write of `stop` meets a broken pipe, and the controller
still publishes a recording that nothing makes. -/
theorem stop_leaves_recording :
    let final := (Transition.execute step {} (exampleInputs ++ [brokenStop])).1
    final.status.state = .recording ∧ final.isRunning = false := by
  decide

end RecorderController

end Luma.Compositor
