import Luma.Compositor.Effects

/-! Which events touch what.

Most inputs have nothing to do with the recorder, and most have nothing to do with
the lock or the display. For each of the two, one relation says what such an input
leaves alone, and the results about runs treat only the others.
-/

set_option autoImplicit false

namespace Luma.Compositor

open Luma.Library Luma.Core

/-! ## Recorder commands -/

/-- An engine was started, and the routing set for it. -/
structure Engaged (before : Recording) (process : Nat) (source : RecorderCaptureSource) (outcome : RecorderOutcome) :
    Prop where
  child : outcome.recording.recorder.child = some process
  override : outcome.recording.routing.override = source
  awaited : outcome.recording.routing.recorderSessionPending = true
  unconnected : outcome.recording.unconnected = process :: before.unconnected
  observations : outcome.observations = [.recordingStarted process source]

/-- No engine was started. -/
structure Unengaged (before : Recording) (outcome : RecorderOutcome) : Prop where
  child : outcome.recording.recorder.child = before.recorder.child ∨ outcome.recording.recorder.child = none
  unconnected : outcome.recording.unconnected = before.unconnected
  observations : outcome.observations = []

namespace Recording

variable {self : Recording} {host : Host} {process : Nat} {config : Recorder}

theorem startNative_cases {source : RecorderCaptureSource} {commitDriven : Bool} {fps : Nat}
    {restore : Routing → Routing} {launch : Except String (Nat × RecorderController × Launch)}
    {published : Option String}
    (begun : ∀ {fps after spec}, launch = .ok (fps, after, spec) →
      RecorderController.NativeStarted self.recorder after process) :
    Engaged self process source (self.startNative host process source commitDriven fps restore launch published) ∨
      Unengaged self (self.startNative host process source commitDriven fps restore launch published) := by
  unfold startNative startCaptureBoost
  rcases host.timer with error | token
  · exact .inr ⟨.inl rfl, rfl, rfl⟩
  · rcases launched : launch with error | ⟨_, after, _⟩
    · exact .inr ⟨.inl rfl, rfl, rfl⟩
    · left
      refine ⟨?_, rfl, rfl, rfl, rfl⟩
      rcases published with - | text <;> exact (begun launched).child

theorem startWrapper_unengaged {launch : Except String (Nat × RecorderController × Launch)}
    (begun : ∀ {fps after spec}, launch = .ok (fps, after, spec) →
      RecorderController.GameStarted self.recorder after process) :
    Unengaged self (self.startWrapper launch) := by
  unfold startWrapper
  rcases launched : launch with error | ⟨_, after, _⟩
  · exact ⟨.inl rfl, rfl, rfl⟩
  · exact ⟨.inl (begun launched).child, rfl, rfl⟩

theorem stop_unengaged (self : Recording) (host : Host) : Unengaged self (self.stop host) :=
  ⟨.inr (RecorderController.stop_child _ _), rfl, rfl⟩

theorem pause_unengaged (self : Recording) (host : Host) : Unengaged self (self.pause host) :=
  ⟨.inl (RecorderController.togglePause_child _ _), rfl, rfl⟩

theorem attempt_cases (self : Recording) (host : Host) (process : Nat) (config : Recorder) (attempt : Attempt) :
    (∃ source, Engaged self process source (self.attempt host process config attempt)) ∨
      Unengaged self (self.attempt host process config attempt) := by
  cases attempt with
  | native source captureOutput replay =>
    exact (startNative_cases fun ok => (RecorderController.start_ok ok).1).imp_left fun engaged => ⟨_, engaged⟩
  | game profile => exact .inr (startWrapper_unengaged fun ok => RecorderController.startGame_ok ok)
  | attach pid => exact .inr (startWrapper_unengaged fun ok => RecorderController.startGameAttach_ok ok)
  | xwayland managed captureOutput window =>
    exact (startNative_cases fun ok => RecorderController.startGameXwayland_ok ok).imp_left fun engaged =>
      ⟨_, engaged⟩
  | toggleStop => exact .inr ⟨.inr (RecorderController.stop_child _ _), rfl, rfl⟩
  | toggleStart captureOutput =>
    exact (startNative_cases fun ok => (RecorderController.start_ok ok).1).imp_left fun engaged => ⟨_, engaged⟩

end Recording

namespace AnvilState

variable {self : AnvilState} {host : Host}

theorem settleRecording_rest (self : AnvilState) (outcome : RecorderOutcome) :
    (self.settleRecording outcome).state = { self with
      recording := outcome.recording, desktop := (self.settleRecording outcome).state.desktop } ∧
    (self.settleRecording outcome).observations = outcome.observations := by
  unfold settleRecording
  dsimp only
  split <;> exact ⟨rfl, rfl⟩

/-! ## Screencopies -/

theorem performCopy_cases (self : AnvilState) (host : Host) (frame : ScreencopyFrame) :
    self.performCopy host frame = [.screencopyFailed frame.id] ∨
      self.performCopy host frame = [.screencopyWithdrawn frame.id] ∨
      self.performCopy host frame = [.screencopyReady frame.id] ∧ self.lock.locked = false ∧
        self.desktop.active = true := by
  unfold performCopy
  split
  · exact .inl rfl
  · split
    · exact .inl rfl
    · rename_i open_
      simp only [Bool.or_eq_true, Bool.not_eq_true', not_or, Bool.not_eq_true, Bool.not_eq_false] at open_
      split
      · exact .inr (.inl rfl)
      · split
        · exact .inl rfl
        · split
          · exact .inr (.inr ⟨rfl, open_⟩)
          · exact .inl rfl

theorem processScreencopies_rest (self : AnvilState) (host : Host) :
    (self.processScreencopies host).1 = self.setScreencopy (self.processScreencopies host).1.screencopy := by
  have general : ∀ (frames : List Nat) (current : AnvilState × List Observation),
      current.1 = self.setScreencopy current.1.screencopy →
      (frames.foldl (processScreencopy host) current).1 =
        self.setScreencopy (frames.foldl (processScreencopy host) current).1.screencopy := by
    intro frames
    induction frames with
    | nil => exact fun _ kept => kept
    | cons frame frames ih =>
      intro current kept
      apply ih
      unfold processScreencopy
      split
      · exact kept
      · split
        · exact kept
        · show current.1.updateScreencopy _ _ = _
          rw [updateScreencopy, kept]
          rfl
  exact general _ _ rfl

/-- What holds of every answer in this lock state holds of all a repaint gives. -/
theorem processScreencopies_forall {holds : Observation → Prop}
    (copied : ∀ state : AnvilState, state.lock = self.lock → state.desktop = self.desktop →
      ∀ frame, ∀ observation ∈ state.performCopy host frame, holds observation) :
    ∀ observation ∈ (self.processScreencopies host).2, holds observation := by
  have general : ∀ (frames : List Nat) (current : AnvilState × List Observation),
      current.1.lock = self.lock → current.1.desktop = self.desktop →
      (∀ observation ∈ current.2, holds observation) →
      ∀ observation ∈ (frames.foldl (processScreencopy host) current).2, holds observation := by
    intro frames
    induction frames with
    | nil => exact fun _ _ _ held => held
    | cons frame frames ih =>
      intro current lock desktop held
      rw [List.foldl_cons]
      unfold processScreencopy
      split
      · exact ih current lock desktop held
      · split
        · exact ih current lock desktop held
        · refine ih _ lock desktop ?_
          intro observation seen
          rcases List.mem_append.mp seen with new | old
          · exact copied _ lock desktop _ observation new
          · exact held observation old
  exact general _ _ rfl rfl nofun

theorem requestCopy_rest (self : AnvilState) (host : Host) (frame buffer : Nat) (withDamage : Bool) :
    (self.requestCopy host frame buffer withDamage).1 =
      self.setScreencopy (self.requestCopy host frame buffer withDamage).1.screencopy := by
  unfold requestCopy
  split
  · rfl
  · split
    · rfl
    · dsimp only
      split
      · split <;> rfl
      · rfl

theorem requestCopy_forall {holds : Observation → Prop} {frame : Nat} (buffer : Nat) (withDamage : Bool)
    (failed : holds (.screencopyFailed frame)) (withdrawn : holds (.screencopyWithdrawn frame))
    (copied : ∀ state : AnvilState, state.lock = self.lock → state.desktop = self.desktop →
      ∀ other, ∀ observation ∈ state.performCopy host other, holds observation) :
    ∀ observation ∈ (self.requestCopy host frame buffer withDamage).2, holds observation := by
  unfold requestCopy
  split
  · exact nofun
  · split
    · simpa using withdrawn
    · dsimp only
      split
      · split
        · simpa using failed
        · exact nofun
      · exact copied (self.updateScreencopy _ _) rfl rfl _

/-! ## Events that are not about recording -/

/-- Events that can move the recorder, its routing or the session it uses. -/
def recordingEvent : Event → Bool
  | .command .. | .maintain .. | .windowCommit .. | .pauseSession | .lock .. | .repaint .. | .boostTick ..
  | .newSession .. | .frame .. => true
  | _ => false

def recordingObservation : Observation → Bool
  | .recordingStarted .. | .captureReady .. => true
  | _ => false

/-- Nothing of the recording has moved; a session may be gone. -/
structure Aside (before : AnvilState) (result : AnvilState × List Observation) : Prop where
  recording : result.1.recording = before.recording
  sessions : ∀ session ∈ result.1.capture.sessions, session ∈ before.capture.sessions
  process : result.1.nextProcess = before.nextProcess
  quiet : ∀ observation ∈ result.2, recordingObservation observation = false

theorem aside_silent {after : AnvilState} (recording : after.recording = self.recording)
    (capture : after.capture = self.capture) (process : after.nextProcess = self.nextProcess) :
    Aside self (after, []) :=
  ⟨recording, fun _ there => capture ▸ there, process, nofun⟩

theorem countPresented_rest (self : AnvilState) (frame : PresentedFrame) (generation : Nat) :
    self.countPresented frame generation = { self with
      space := (self.recordPresented frame generation).space
      desktop := (self.countPresented frame generation).desktop } ∧
    (self.countPresented frame generation).desktop.active = self.desktop.active := by
  unfold countPresented
  dsimp only
  split <;> exact ⟨rfl, rfl⟩

/-- An idle call does nothing, counts a presentation, or confirms the lock as well. -/
theorem lockPresented_cases (self : AnvilState) (frame : PresentedFrame) (generation : Nat) :
    self.lockPresented frame generation = (self, []) ∨
      self.lock.locked = true ∧ self.lock.generation = generation ∧
        (self.lockPresented frame generation = (self.countPresented frame generation, []) ∨
          (self.countPresented frame generation).allReady generation = true ∧
          self.lockPresented frame generation = ((self.countPresented frame generation).setLock
            { self.lock with confirmation := none }, [.locked])) := by
  unfold lockPresented
  split
  · exact .inl rfl
  · rename_i current
    simp only [Bool.or_eq_true, Bool.not_eq_true', bne_iff_ne, not_or, Bool.not_eq_false, not_not] at current
    refine .inr ⟨current.1, current.2, ?_⟩
    dsimp only
    split
    · rename_i done
      rw [Bool.and_eq_true] at done
      refine .inr ⟨done.1, ?_⟩
      rw [(countPresented_rest self frame generation).1]
    · exact .inl rfl

/-- An idle call takes the oldest frame that waits for one. -/
theorem runIdle_cases (self : AnvilState) :
    self.presentation.idles = [] ∧ self.runIdle = (self, []) ∨
      ∃ frame idles, self.presentation.idles = frame :: idles ∧
        let taken := self.setPresentation { self.presentation with idles }
        (frame.lockGeneration = none ∧ self.runIdle = (taken, [])) ∨
          ∃ generation, frame.lockGeneration = some generation ∧ self.runIdle = taken.lockPresented frame generation := by
  unfold runIdle
  rcases waiting : self.presentation.idles with - | ⟨frame, idles⟩
  · exact .inl ⟨rfl, rfl⟩
  · refine .inr ⟨frame, idles, rfl, ?_⟩
    dsimp only
    rcases frame.lockGeneration with - | generation
    · exact .inl ⟨rfl, rfl⟩
    · exact .inr ⟨generation, rfl, rfl⟩

theorem lockPresented_aside (self : AnvilState) (frame : PresentedFrame) (generation : Nat) :
    Aside self (self.lockPresented frame generation) := by
  have counted := (countPresented_rest self frame generation).1
  rcases lockPresented_cases self frame generation with nothing | ⟨-, -, counts | ⟨-, confirms⟩⟩
  · rw [nothing]
    exact aside_silent rfl rfl rfl
  · rw [counts, counted]
    exact aside_silent rfl rfl rfl
  · rw [confirms, counted]
    exact ⟨rfl, fun _ there => there, rfl, by simp [recordingObservation]⟩

theorem runIdle_aside : Aside self self.runIdle := by
  rcases runIdle_cases self with ⟨-, nothing⟩ | ⟨frame, idles, -, ⟨-, taken⟩ | ⟨generation, -, presented⟩⟩
  · rw [nothing]
    exact aside_silent rfl rfl rfl
  · rw [taken]
    exact aside_silent rfl rfl rfl
  · rw [presented]
    have aside := lockPresented_aside (self.setPresentation { self.presentation with idles }) frame generation
    exact ⟨aside.recording, aside.sessions, aside.process, aside.quiet⟩

theorem frameFinish_aside (frame : Nat) : Aside self (self.frameFinish frame) := by
  unfold frameFinish
  split
  · exact aside_silent rfl rfl rfl
  · split
    · exact aside_silent rfl rfl rfl
    · exact ⟨rfl, fun _ there => there, rfl, by simp [recordingObservation]⟩

theorem queueFrame_aside (output : Nat) : Aside self (self.queueFrame output) := by
  unfold queueFrame
  split
  · exact aside_silent rfl rfl rfl
  · exact ⟨rfl, fun _ there => there, rfl, by simp [recordingObservation]⟩

theorem performCopy_quiet (frame : ScreencopyFrame) :
    ∀ observation ∈ self.performCopy host frame, recordingObservation observation = false := by
  rcases performCopy_cases self host frame with failed | withdrawn | ⟨ready, -⟩
  · simp [failed, recordingObservation]
  · simp [withdrawn, recordingObservation]
  · simp [ready, recordingObservation]

theorem requestCopy_aside (frame buffer : Nat) (withDamage : Bool) :
    Aside self (self.requestCopy host frame buffer withDamage) where
  recording := by rw [requestCopy_rest]; rfl
  sessions := by
    rw [requestCopy_rest]
    exact fun _ there => there
  process := by rw [requestCopy_rest]; rfl
  quiet := requestCopy_forall buffer withDamage rfl rfl fun _ _ _ => performCopy_quiet

theorem createFrame_aside (manager output : Nat) (requested : Option Core.Rect) :
    Aside self (self.createFrame manager output requested) := by
  unfold createFrame
  dsimp only
  split
  · exact ⟨rfl, fun _ there => there, rfl, by simp [recordingObservation]⟩
  · exact aside_silent rfl rfl rfl

theorem handle_aside {event : Event} (other : recordingEvent event = false) : Aside self (self.handle event) := by
  cases event with
  | command | maintain | windowCommit | pauseSession | lock | repaint | boostTick | newSession | frame =>
    cases other
  | seat | requestRedraw | windowChanged | windowUnmapped | windowDied | refreshSpace | disconnectOutput
  | changeOutput | activateSession | dropFrame => exact aside_silent rfl rfl rfl
  | windowCreated element =>
    show Aside self (self.windowCreated element, [])
    unfold windowCreated
    split <;> exact aside_silent rfl rfl rfl
  | windowMapped handle =>
    show Aside self (self.windowMapped handle, [])
    unfold windowMapped
    split <;> exact aside_silent rfl rfl rfl
  | connectOutput name mode geometry =>
    show Aside self (self.connectOutput name mode geometry, [])
    unfold connectOutput
    split <;> exact aside_silent rfl rfl rfl
  | lockSurface output =>
    show Aside self (self.newLockSurface output, [])
    unfold newLockSurface
    split <;> exact aside_silent rfl rfl rfl
  | unlock => exact ⟨rfl, fun _ there => there, rfl, by simp [unlock, handle, recordingObservation]⟩
  | queueFrame output => exact queueFrame_aside output
  | frameFinish frame => exact frameFinish_aside frame
  | idle => exact runIdle_aside
  | sessionDestroyed session =>
    refine ⟨rfl, fun _ there => List.mem_of_mem_filter there, rfl, ?_⟩
    intro observation seen
    obtain ⟨_, _, rfl⟩ := List.mem_map.mp seen
    rfl
  | frameAborted frame =>
    refine ⟨rfl, fun _ there => there, rfl, ?_⟩
    intro observation seen
    obtain ⟨_, _, rfl⟩ := List.mem_map.mp seen
    rfl
  | captureOutput manager output region => exact createFrame_aside manager output region
  | copy host frame buffer withDamage => exact requestCopy_aside frame buffer withDamage
  | screencopyDestroyed frame =>
    exact ⟨rfl, fun _ there => there, rfl, by simp [handle, destroyScreencopy, recordingObservation]⟩

/-! ## Repaints -/

/-- The state in which a repaint answers the requests of the sessions. -/
def painted (self : AnvilState) (host : Host) : AnvilState :=
  ((self.setDesktop { self.desktop with redraw := false }).processScreencopies host).1.advanceGeneration

theorem painted_rest (self : AnvilState) (host : Host) : self.painted host = { self with
    desktop := { self.desktop with redraw := false }
    screencopy := (self.painted host).screencopy
    capture := { self.capture with generation := self.capture.generation + 1 } } := by
  show AnvilState.advanceGeneration (AnvilState.processScreencopies _ host).1 = _
  rw [processScreencopies_rest]
  rfl

/-- A repaint does nothing, or answers the screencopies and then the sessions. -/
theorem repaint_cases (self : AnvilState) (host : Host) :
    self.repaint host = (self, []) ∨
      self.desktop.redraw = true ∧ self.desktop.active = true ∧ ∃ served, Drained (self.painted host) served ∧
        self.repaint host = (served.1,
          served.2 ++ ((self.setDesktop { self.desktop with redraw := false }).processScreencopies host).2) := by
  unfold repaint
  split
  · exact .inl rfl
  · rename_i paints
    simp only [Bool.or_eq_true, Bool.not_eq_true', not_or, Bool.not_eq_false] at paints
    exact .inr ⟨paints.1, paints.2, _, processOutputs_drained _ host _, rfl⟩

/-! ## Events that are not about the lock or the display -/

def lockObservation : Observation → Bool
  | .lockAccepted | .unlocked | .locked | .frameQueued .. | .framePresented .. => true
  | _ => false

/-- Events that can move the lock, the lock data of the outputs or the frames of the display. -/
def lockEvent : Event → Bool
  | .lock .. | .unlock | .lockSurface .. | .queueFrame .. | .dropFrame .. | .frameFinish .. | .idle
  | .connectOutput .. | .disconnectOutput .. | .changeOutput .. => true
  | _ => false

/-- At most the outputs without lock data were given some. -/
structure Apart (before : AnvilState) (result : AnvilState × List Observation) : Prop where
  lock : result.1.lock = before.lock
  outputs : result.1.space.outputs = before.space.outputs ∨
    result.1.space.outputs = before.space.outputs.map (withLock before.lock)
  presentation : result.1.presentation = before.presentation
  quiet : ∀ observation ∈ result.2, lockObservation observation = false

theorem apart_silent {after : AnvilState} (lock : after.lock = self.lock) (space : after.space.outputs = self.space.outputs)
    (presentation : after.presentation = self.presentation) : Apart self (after, []) :=
  ⟨lock, .inl space, presentation, nofun⟩

theorem Served.apart {requests : List PendingCaptureFrame} {result : AnvilState × List Observation}
    (served : Served requests self result) : Apart self result where
  lock := served.lock
  outputs := .inl (congrArg Space.outputs served.space)
  presentation := by rw [served.rest]
  quiet := by
    intro observation seen
    cases served.answers observation seen <;> rfl

theorem maintainDesktop_apart (self : AnvilState) (host : Host) : Apart self (self.maintainDesktop host) := by
  have prepared := prepare_prepared self host
  rw [maintainDesktop_eq]
  refine ⟨?_, .inr prepared.outputs, ?_, ?_⟩
  · show (self.prepare host).lock = _
    rw [prepared.rest]
  · show (self.prepare host).presentation = _
    rw [prepared.rest]
  · intro observation seen
    obtain ⟨_, _, rfl⟩ := List.mem_map.mp seen
    rfl

theorem settleRecording_apart {outcome : RecorderOutcome}
    (quiet : ∀ observation ∈ outcome.observations, lockObservation observation = false) :
    Apart self ((self.settleRecording outcome).state, (self.settleRecording outcome).observations) := by
  obtain ⟨state, observations⟩ := settleRecording_rest self outcome
  rw [state, observations]
  exact ⟨rfl, .inl rfl, rfl, quiet⟩

theorem attempt_observations (recording : Recording) (host : Host) (process : Nat) (config : Recorder)
    (attempt : Attempt) : ∀ observation ∈ (recording.attempt host process config attempt).observations,
      ∃ source, observation = .recordingStarted process source := by
  rcases Recording.attempt_cases recording host process config attempt with ⟨source, engaged⟩ | unengaged
  · rw [engaged.observations]
    exact fun observation seen => ⟨source, List.mem_singleton.mp seen⟩
  · rw [unengaged.observations]
    exact nofun

theorem desktopCommand_apart (self : AnvilState) (host : Host) (command : String) :
    Apart self ((self.desktopCommand host command).state, (self.desktopCommand host command).observations) := by
  have effect := desktopCommand_effect self host command
  generalize self.desktopCommand host command = outcome at effect
  cases effect with
  | refused => exact apart_silent rfl rfl rfl
  | attempted =>
    refine settleRecording_apart fun observation seen => ?_
    obtain ⟨source, rfl⟩ := attempt_observations _ _ _ _ _ observation seen
    rfl
  | stopped => exact settleRecording_apart nofun
  | paused => exact settleRecording_apart nofun
  | beside _ kept =>
    rw [kept.rest]
    exact apart_silent rfl rfl rfl
  | @maintained reply desktop after _ _ _ kept =>
    have maintained := maintainDesktop_apart (self.setDesktop desktop) host
    rw [kept.rest]
    exact ⟨maintained.lock, maintained.outputs, maintained.presentation, maintained.quiet⟩

theorem performCopy_apart (frame : ScreencopyFrame) :
    ∀ observation ∈ self.performCopy host frame, lockObservation observation = false := by
  rcases performCopy_cases self host frame with failed | withdrawn | ⟨ready, -⟩
  · simp [failed, lockObservation]
  · simp [withdrawn, lockObservation]
  · simp [ready, lockObservation]

theorem repaint_apart (self : AnvilState) (host : Host) : Apart self (self.repaint host) := by
  rcases repaint_cases self host with idle | ⟨-, -, served, drained, painted⟩
  · rw [idle]
    exact apart_silent rfl rfl rfl
  · have apart := drained.served.apart
    rw [painted_rest] at apart
    rw [painted]
    refine ⟨apart.lock, apart.outputs, apart.presentation, ?_⟩
    intro observation seen
    rcases List.mem_append.mp seen with answered | copied
    · exact apart.quiet observation answered
    · exact processScreencopies_forall (fun _ _ _ => performCopy_apart) observation copied

theorem frame_cases (self : AnvilState) (host : Host) (session : Nat) (dmabuf valid : Bool) :
    self.frame host session dmabuf valid = (self, []) ∨
      ∃ found ∈ self.capture.sessions, found.id = session ∧
        let counted := { self with nextCapture := self.nextCapture + 1 }
        let request : CaptureFrame := { id := self.nextCapture, dmabuf, valid }
        (self.frame host session dmabuf valid = (counted, [.captureFailed request.id]) ∨
          self.frame host session dmabuf valid =
            (counted.setPending (self.capture.pending ++ [⟨session, request⟩]), []) ∨
          self.frame host session dmabuf valid = counted.completeCaptureFrame host found request) := by
  unfold frame
  rcases named : self.findSession session with - | found
  · exact .inl rfl
  · obtain ⟨member, names⟩ := findSession_some named
    refine .inr ⟨found, member, names, ?_⟩
    dsimp only
    split
    · split
      · exact .inl rfl
      · exact .inr (.inl rfl)
    · exact .inr (.inr rfl)

theorem frame_apart (self : AnvilState) (host : Host) (session : Nat) (dmabuf valid : Bool) :
    Apart self (self.frame host session dmabuf valid) := by
  rcases frame_cases self host session dmabuf valid with idle | ⟨found, member, -, failed | queued | answered⟩
  · rw [idle]
    exact apart_silent rfl rfl rfl
  · rw [failed]
    exact ⟨rfl, .inl rfl, rfl, by simp [lockObservation]⟩
  · rw [queued]
    exact apart_silent rfl rfl rfl
  · rw [answered]
    have apart := (completeCaptureFrame_served { self with nextCapture := self.nextCapture + 1 } host
      ⟨found.id, { id := self.nextCapture, dmabuf, valid }⟩ member rfl).apart
    exact ⟨apart.lock, apart.outputs, apart.presentation, apart.quiet⟩

theorem newSession_apart (client : Client) (output : Nat) : Apart self (self.newSession client output) := by
  unfold newSession
  split
  · exact apart_silent rfl rfl rfl
  · dsimp only
    split <;> exact apart_silent rfl rfl rfl

theorem createFrame_apart (manager output : Nat) (requested : Option Rect) :
    Apart self (self.createFrame manager output requested) := by
  unfold createFrame
  dsimp only
  split
  · exact ⟨rfl, .inl rfl, rfl, by simp [lockObservation]⟩
  · exact apart_silent rfl rfl rfl

theorem requestCopy_apart (frame buffer : Nat) (withDamage : Bool) :
    Apart self (self.requestCopy host frame buffer withDamage) where
  lock := by rw [requestCopy_rest]; rfl
  outputs := by
    rw [requestCopy_rest]
    exact .inl rfl
  presentation := by rw [requestCopy_rest]; rfl
  quiet := requestCopy_forall buffer withDamage rfl rfl fun _ _ _ => performCopy_apart

theorem handle_apart {event : Event} (other : lockEvent event = false) : Apart self (self.handle event) := by
  cases event with
  | lock | unlock | lockSurface | queueFrame | dropFrame | frameFinish | idle | connectOutput | disconnectOutput
  | changeOutput => cases other
  | seat | requestRedraw | windowChanged | windowUnmapped | windowDied | refreshSpace | pauseSession
  | activateSession => exact apart_silent rfl rfl rfl
  | command host command =>
    have apart := desktopCommand_apart self host command
    exact ⟨apart.lock, apart.outputs, apart.presentation, apart.quiet⟩
  | maintain host => exact maintainDesktop_apart self host
  | windowCreated element =>
    show Apart self (self.windowCreated element, [])
    unfold windowCreated
    split <;> exact apart_silent rfl rfl rfl
  | windowMapped handle =>
    show Apart self (self.windowMapped handle, [])
    unfold windowMapped
    split <;> exact apart_silent rfl rfl rfl
  | windowCommit host handle =>
    have apart := (processCommitDrivenCapture_drained self.advanceGeneration host handle).served.apart
    exact ⟨apart.lock, apart.outputs, apart.presentation, apart.quiet⟩
  | repaint host => exact repaint_apart self host
  | boostTick host => exact (captureBoostTick_drained self host).served.apart
  | newSession client output => exact newSession_apart client output
  | frame host session dmabuf valid => exact frame_apart self host session dmabuf valid
  | sessionDestroyed session =>
    refine ⟨rfl, .inl rfl, rfl, ?_⟩
    intro observation seen
    obtain ⟨_, _, rfl⟩ := List.mem_map.mp seen
    rfl
  | frameAborted frame =>
    refine ⟨rfl, .inl rfl, rfl, ?_⟩
    intro observation seen
    obtain ⟨_, _, rfl⟩ := List.mem_map.mp seen
    rfl
  | captureOutput manager output region => exact createFrame_apart manager output region
  | copy host frame buffer withDamage => exact requestCopy_apart frame buffer withDamage
  | screencopyDestroyed frame =>
    exact ⟨rfl, .inl rfl, rfl, by simp [handle, destroyScreencopy, lockObservation]⟩

end AnvilState

end Luma.Compositor
