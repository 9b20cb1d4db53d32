import Luma.Compositor.Locality
import Luma.Compositor.RecorderRuns

/-! What a failed recorder command leaves behind in the routing.

The commands write the routing before the controller refuses. Without a native
engine there is nothing to lose: the routing is idle, and every rollback makes it
idle again. With one, each rollback loses what the engine was routed by.
-/

set_option autoImplicit false

namespace Luma.Compositor

open Luma.Library Luma.Core

/-- The handles are consistent, and the routing is idle unless a native engine runs. -/
structure Supervised (recording : Recording) : Prop where
  consistent : recording.recorder.Consistent
  idle : recording.recorder.child = none → recording.routing = {}

namespace Recording

variable {self : Recording} {host : Host} {process : Nat} {config : Recorder}

theorem startNative_supervised {source : RecorderCaptureSource} {commitDriven : Bool} {fps : Nat}
    {restore : Routing → Routing} {launch : Except String (Nat × RecorderController × Launch)}
    {published : Option String} (before : Supervised self)
    (restored : restore { override := source, commitDriven } = {})
    (begun : ∀ {fps after spec}, launch = .ok (fps, after, spec) →
      RecorderController.NativeStarted self.recorder after process) :
    Supervised (self.startNative host process source commitDriven fps restore launch published).recording := by
  unfold startNative startCaptureBoost
  rcases host.timer with error | token
  · -- The timer could not be inserted, so the controller was not asked.
    refine ⟨before.consistent, fun absent => ?_⟩
    show restore _ = _
    rw [before.idle absent]
    exact restored
  · rcases launched : launch with error | ⟨_, after, _⟩
    · exact ⟨before.consistent, fun _ => rfl⟩
    · have started := begun launched
      refine ⟨?_, ?_⟩
      · rcases published with - | text
        · exact started.consistent
        · have consistent := started.consistent
          exact ⟨consistent.exclusive, consistent.piped, consistent.unlimited, consistent.noReplay⟩
      · intro absent
        have owned : (published.elim after (withSource after)).child = some process := by
          rcases published <;> exact started.child
        exact absurd (owned.symm.trans absent) nofun

theorem startWrapper_supervised {launch : Except String (Nat × RecorderController × Launch)}
    (before : Supervised self)
    (begun : ∀ {fps after spec}, launch = .ok (fps, after, spec) →
      RecorderController.GameStarted self.recorder after process) :
    Supervised (self.startWrapper launch).recording := by
  have idle : self.recorder.child = none → { self.routing with override := .output } = ({} : Routing) := by
    intro absent
    rw [before.idle absent]
  unfold startWrapper
  rcases launched : launch with error | ⟨_, after, _⟩
  · exact ⟨before.consistent, idle⟩
  · have started := begun launched
    refine ⟨started.consistent before.consistent, fun absent => idle ?_⟩
    exact started.child.symm.trans absent

theorem stopped_supervised (before : Supervised self) (routing : Routing)
    (idle : (self.recorder.stop host.stop).2.child = none → routing = {}) :
    Supervised { self with recorder := (self.recorder.stop host.stop).2, routing } :=
  ⟨RecorderController.stop_consistent before.consistent host.stop, idle⟩

theorem attempt_supervised (before : Supervised self) (attempt : Attempt) :
    Supervised (self.attempt host process config attempt).recording := by
  cases attempt with
  | native source captureOutput replay =>
    exact startNative_supervised before rfl fun ok => (RecorderController.start_ok ok).1
  | game profile => exact startWrapper_supervised before fun ok => RecorderController.startGame_ok ok
  | attach pid => exact startWrapper_supervised before fun ok => RecorderController.startGameAttach_ok ok
  | xwayland managed captureOutput window =>
    exact startNative_supervised before rfl fun ok => RecorderController.startGameXwayland_ok ok
  | toggleStop => exact stopped_supervised before _ fun _ => rfl
  | toggleStart captureOutput =>
    exact startNative_supervised before rfl fun ok => (RecorderController.start_ok ok).1

/-- The stop of a game wrapper leaves the routing alone, but that is idle already. -/
theorem stop_supervised (before : Supervised self) : Supervised (self.stop host).recording := by
  refine stopped_supervised before _ fun _ => ?_
  split
  · rename_i game
    have absent : self.recorder.child = none := by
      rcases owned : self.recorder.child with - | process
      · rfl
      · have alone := before.consistent.exclusive (by rw [owned]; rfl)
        rw [RecorderController.isGameCapture, alone] at game
        cases game
    exact before.idle absent
  · rfl

theorem pause_supervised (before : Supervised self) : Supervised (self.pause host).recording := by
  refine ⟨RecorderController.togglePause_consistent before.consistent host.stop, fun absent => before.idle ?_⟩
  exact (RecorderController.togglePause_child self.recorder host.stop).symm.trans absent

end Recording

namespace AnvilState

variable {self before after : AnvilState} {host : Host} {command : String}

/-- A poll that takes the child away says so, and then the routing is reset. -/
theorem poll_child (recorder : RecorderController) (consistent : recorder.Consistent) (answers : PollHost) :
    (recorder.poll answers).2.child = recorder.child ∨
      ((recorder.poll answers).1 = true ∧ (recorder.poll answers).2.isRunning = false) := by
  have running : (recorder.pollRunning answers).2.child = recorder.child := by
    unfold RecorderController.pollRunning
    split
    · rfl
    · split <;> rfl
  rw [RecorderController.poll_eq consistent]
  split
  · rename_i owned
    unfold RecorderController.pollNative
    split
    · exact .inr ⟨rfl, by simp [RecorderController.isRunning, consistent.exclusive owned]⟩
    · exact .inl running
    · exact .inl rfl
  · split
    · unfold RecorderController.pollGameLauncher
      split
      · exact .inl rfl
      · exact .inl running
      · exact .inl rfl
    · exact .inl rfl

theorem pollRecorder_supervised (supervised : Supervised self.recording) :
    Supervised (self.pollRecorder host).recording := by
  have consistent := RecorderController.poll_consistent supervised.consistent host.poll
  have child := poll_child self.recording.recorder supervised.consistent host.poll
  unfold pollRecorder
  dsimp only
  split
  · rename_i unchanged
    refine ⟨consistent, fun absent => supervised.idle ?_⟩
    rcases child with same | ⟨changed, -⟩
    · exact same.symm.trans absent
    · rw [changed] at unchanged
      cases unchanged
  · refine ⟨consistent, fun absent => ?_⟩
    show (if _ then _ else _) = _
    rcases child with same | ⟨-, gone⟩
    · have idle := supervised.idle (same.symm.trans absent)
      split
      · exact idle
      · rfl
    · rw [gone]
      rfl

theorem maintainDesktop_recording (self : AnvilState) (host : Host) :
    (self.maintainDesktop host).1.recording = (self.pollRecorder host).recording :=
  (prepare_prepared self host).recording

theorem stopRecording_supervised (supervised : Supervised self.recording) (reason : String) :
    Supervised (self.stopRecording reason).recording := by
  refine ⟨?_, fun _ => rfl⟩
  show RecorderController.Consistent (if _ then _ else _)
  split
  · exact RecorderController.abort_consistent reason
  · exact supervised.consistent

theorem newSession_supervised (supervised : Supervised self.recording) (client : Client) (output : Nat) :
    Supervised (self.newSession client output).1.recording := by
  have cleared : self.recording.recorder.child = none →
      { self.recording.routing with recorderSessionPending := false } = ({} : Routing) := by
    intro absent
    rw [supervised.idle absent]
  unfold newSession
  split
  · exact supervised
  · dsimp only
    split
    · exact ⟨supervised.consistent, cleared⟩
    · exact ⟨supervised.consistent, supervised.idle⟩

theorem sampled_supervised {recording sampled : Recording} (supervised : Supervised recording)
    (same : sampled = { recording with recorder := sampled.recorder })
    (window : Sampled recording.recorder sampled.recorder) : Supervised sampled := by
  have consistent := supervised.consistent
  rw [same, window]
  exact ⟨⟨consistent.exclusive, consistent.piped, consistent.unlimited, consistent.noReplay⟩, supervised.idle⟩

theorem Served.supervised {requests : List PendingCaptureFrame} {result : AnvilState × List Observation}
    (served : Served requests self result) (supervised : Supervised self.recording) :
    Supervised result.1.recording :=
  sampled_supervised supervised served.recording served.sampled

theorem settleRecording_recording (self : AnvilState) (outcome : RecorderOutcome) :
    (self.settleRecording outcome).state.recording = outcome.recording := by
  unfold settleRecording
  dsimp only
  split <;> rfl

theorem desktopCommand_supervised (supervised : Supervised self.recording) :
    Supervised (self.desktopCommand host command).state.recording := by
  have effect := desktopCommand_effect self host command
  generalize self.desktopCommand host command = outcome at effect
  cases effect with
  | refused => exact supervised
  | attempted =>
    rw [settleRecording_recording]
    exact Recording.attempt_supervised supervised _
  | stopped =>
    rw [settleRecording_recording]
    exact Recording.stop_supervised supervised
  | paused =>
    rw [settleRecording_recording]
    exact Recording.pause_supervised supervised
  | beside _ kept =>
    rw [kept.rest]
    exact supervised
  | maintained _ _ _ kept =>
    rw [kept.rest]
    show Supervised (AnvilState.recording _)
    rw [maintainDesktop_recording]
    exact pollRecorder_supervised (supervised : Supervised (self.setDesktop _).recording)

theorem requestLock_supervised (supervised : Supervised self.recording) (locker : Nat) :
    Supervised (self.requestLock locker).1.recording := by
  unfold requestLock
  split
  · exact supervised
  · exact stopRecording_supervised supervised _

theorem frame_supervised (supervised : Supervised self.recording) (session : Nat) (dmabuf valid : Bool) :
    Supervised (self.frame host session dmabuf valid).1.recording := by
  rcases frame_cases self host session dmabuf valid with idle | ⟨found, member, -, failed | queued | answered⟩
  · rw [idle]
    exact supervised
  · rw [failed]
    exact supervised
  · rw [queued]
    exact supervised
  · rw [answered]
    have served := completeCaptureFrame_served { self with nextCapture := self.nextCapture + 1 } host
      ⟨found.id, { id := self.nextCapture, dmabuf, valid }⟩ member rfl
    exact served.supervised supervised

theorem repaint_supervised (supervised : Supervised self.recording) :
    Supervised (self.repaint host).1.recording := by
  rcases repaint_cases self host with idle | ⟨-, -, served, drained, painted⟩
  · rw [idle]
    exact supervised
  · rw [painted]
    refine drained.served.supervised ?_
    rw [painted_rest]
    exact supervised

theorem handle_supervised (event : Event) (supervised : Supervised self.recording) :
    Supervised (self.handle event).1.recording := by
  cases event with
  | command host command => exact desktopCommand_supervised supervised
  | maintain host =>
    show Supervised (self.maintainDesktop host).1.recording
    rw [maintainDesktop_recording]
    exact pollRecorder_supervised supervised
  | windowCommit host handle =>
    exact (processCommitDrivenCapture_drained self.advanceGeneration host handle).served.supervised supervised
  | pauseSession =>
    exact stopRecording_supervised (supervised : Supervised (AnvilState.recording { self with desktop := _ })) _
  | lock locker => exact requestLock_supervised supervised locker
  | repaint host => exact repaint_supervised supervised
  | boostTick host => exact (captureBoostTick_drained self host).served.supervised supervised
  | newSession client output => exact newSession_supervised supervised client output
  | frame host session dmabuf valid => exact frame_supervised supervised session dmabuf valid
  | _ =>
    rw [(handle_aside rfl).recording]
    exact supervised

theorem reachable_supervised (reachable : Reachable self) : Supervised self.recording := by
  obtain ⟨history, run⟩ := reachable
  refine Execution.invariant (fun _ state => Supervised state.recording) ?_ ?_ run
  · exact fun _ => ⟨RecorderController.initial_consistent, fun _ => rfl⟩
  · exact fun _ _ event _ _ supervised => handle_supervised event supervised

end AnvilState

/-! ## Failed commands -/

/-- The routings that the rollback of a failed attempt leaves as they are. -/
def Attempt.Restores (timer : Except String Nat) (routing : Routing) : Attempt → Prop
  | .native .. | .xwayland .. | .toggleStart .. =>
    match timer with
    | .ok _ => routing = {}
    | .error _ => routing.override = .output ∧ routing.commitDriven = false ∧ routing.boostTimer = none
  | .game _ | .attach _ => routing.override = .output
  | .toggleStop => routing = {}

namespace Recording

variable {self : Recording} {host : Host} {process : Nat} {config : Recorder}

theorem startNative_failed {source : RecorderCaptureSource} {commitDriven : Bool} {fps : Nat}
    {restore : Routing → Routing} {launch : Except String (Nat × RecorderController × Launch)}
    {published : Option String} {error : String}
    (failed : (self.startNative host process source commitDriven fps restore launch published).reply = .error error) :
    (self.startNative host process source commitDriven fps restore launch published).recording.routing =
      match host.timer with
      | .ok _ => {}
      | .error _ => restore { self.routing with override := source, commitDriven, boostTimer := none } := by
  revert failed
  unfold startNative startCaptureBoost
  rcases host.timer with refused | token
  · exact fun _ => rfl
  · rcases launch with refused | ⟨_, after, _⟩
    · exact fun _ => rfl
    · exact nofun

theorem startWrapper_failed {launch : Except String (Nat × RecorderController × Launch)} {error : String}
    (failed : (self.startWrapper launch).reply = .error error) :
    (self.startWrapper launch).recording.routing = { self.routing with override := .output } := by
  unfold startWrapper at failed ⊢
  rcases launch with refused | ⟨_, after, _⟩
  · rfl
  · cases failed

theorem reset_override (routing : Routing) : { routing with override := .output } = routing ↔
    routing.override = .output := by
  cases routing
  simp [eq_comm]

theorem reset_source (routing : Routing) :
    { routing with override := .output, commitDriven := false, boostTimer := none } = routing ↔
      routing.override = .output ∧ routing.commitDriven = false ∧ routing.boostTimer = none := by
  cases routing
  simp [eq_comm]

theorem attempt_failed_iff {attempt : Attempt} {error : String}
    (failed : (self.attempt host process config attempt).reply = .error error) :
    (self.attempt host process config attempt).recording.routing = self.routing ↔
      attempt.Restores host.timer self.routing := by
  cases attempt with
  | native source captureOutput replay =>
    rw [attempt, startNative_failed failed]
    unfold Attempt.Restores
    rcases host.timer with refused | token
    · exact reset_source self.routing
    · exact eq_comm
  | game profile =>
    rw [attempt, startWrapper_failed failed]
    exact reset_override self.routing
  | attach pid =>
    rw [attempt, startWrapper_failed failed]
    exact reset_override self.routing
  | xwayland managed captureOutput window =>
    rw [attempt, startNative_failed failed]
    unfold Attempt.Restores
    rcases host.timer with refused | token
    · exact reset_source self.routing
    · exact eq_comm
  | toggleStop => exact eq_comm
  | toggleStart captureOutput =>
    rw [attempt, startNative_failed failed]
    unfold Attempt.Restores
    rcases host.timer with refused | token
    · exact reset_source self.routing
    · exact eq_comm

theorem restores_of_idle (timer : Except String Nat) (attempt : Attempt) {routing : Routing} (idle : routing = {}) :
    attempt.Restores timer routing := by
  subst idle
  cases attempt <;> first | rfl | (rcases timer with refused | token <;> simp [Attempt.Restores])

end Recording

namespace AnvilState

variable {self : AnvilState} {host : Host} {command argument error : String} {action : RecorderAction}

/-- What a failing command may meet: it is refused before it writes anything, or no
native engine runs, or the routing is one that the rollback writes back. -/
def KeepsRouting (self : AnvilState) (host : Host) (action : RecorderAction) (argument : String) : Prop :=
  self.lock.locked = true ∨ ∀ attempt, self.admit host.lowercase argument action = .ok attempt →
    self.recording.recorder.child = none ∨ attempt.Restores host.timer self.recording.routing

theorem settleRecording_reply (self : AnvilState) (outcome : RecorderOutcome) :
    (self.settleRecording outcome).reply = outcome.reply := by
  unfold settleRecording
  dsimp only
  split <;> rename_i replied <;> rw [replied]

/-- In every state of every run, a starting command that fails leaves the routing as it
was exactly when it meets this condition. -/
theorem failed_keeps_routing_iff (reachable : Reachable self)
    (starts : startingCommand command = some (action, argument))
    (failed : (self.desktopCommand host command).reply = .error error) :
    (self.desktopCommand host command).state.recording.routing = self.recording.routing ↔
      self.KeepsRouting host action argument := by
  have supervised := reachable_supervised reachable
  have effect := desktopCommand_effect self host command
  generalize self.desktopCommand host command = outcome at effect failed
  cases effect with
  | refused named unlocked checked =>
    cases starts.symm.trans named
    refine iff_of_true rfl (.inr fun attempt admitted => ?_)
    rw [checked] at admitted
    cases admitted
  | @attempted _ _ attempt named unlocked admitted =>
    cases starts.symm.trans named
    rw [settleRecording_reply] at failed
    rw [settleRecording_recording, Recording.attempt_failed_iff failed]
    constructor
    · intro restores
      refine .inr fun other same => ?_
      cases admitted.symm.trans same
      exact .inr restores
    · rintro (locked | meets)
      · rw [unlocked] at locked
        cases locked
      · rcases meets attempt admitted with absent | restores
        · exact Recording.restores_of_idle _ _ (supervised.idle absent)
        · exact restores
  | stopped other => cases starts.symm.trans other
  | paused other => cases starts.symm.trans other
  | beside reason kept =>
    rcases reason with other | locked
    · cases starts.symm.trans other
    · rw [kept.rest]
      exact iff_of_true rfl (.inl locked)
  | maintained other => cases starts.symm.trans other

def recordingHost : Host := { spawn := RecorderController.exampleHost }

/-- One output, one window, and a recording of that window. -/
def windowRecording : List Event := [
  .connectOutput "DP-1" (some (1920, 1080)) (some ⟨0, 0, 1920, 1080⟩),
  .windowCreated { handle := 7 },
  .windowMapped 7,
  .maintain {},
  .command recordingHost "recorder start window 1"]

def recordingState : AnvilState :=
  (Transition.execute step (initial (.error "no configuration")) windowRecording).1

theorem recordingState_reachable : Reachable recordingState :=
  ⟨_, Transition.Run.execute windowRecording (.start ⟨_, rfl⟩) (Transition.permits_unrestricted _ _ _ _)⟩

theorem failed_keeps_routing_iff_recording : ¬recordingState.KeepsRouting recordingHost .start "" := by
  intro keeps
  have starts : startingCommand "recorder start" = some (.start, "") := rfl
  have failed : (recordingState.desktopCommand recordingHost "recorder start").reply =
      .error "recorder is already running" := rfl
  have kept := (failed_keeps_routing_iff recordingState_reachable starts failed).mpr keeps
  revert kept
  decide

/-- While a window is recorded, a second start fails and turns the routing to the whole output. -/
theorem failed_start_resets_routing : ∃ self, Reachable self ∧
    (self.desktopCommand recordingHost "recorder start").reply = .error "recorder is already running" ∧
    self.recording.routing.override = .window 1 ∧
    (self.desktopCommand recordingHost "recorder start").state.recording.routing = {} :=
  ⟨recordingState, recordingState_reachable, rfl, by decide, by decide⟩

end AnvilState

end Luma.Compositor
