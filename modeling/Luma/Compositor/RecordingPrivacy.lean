import Luma.Compositor.RecordingRouting

/-! What the engine of a window or region recording is given.

The source of its frames is one routing for all recordings, read when a request
is answered. It is the engine's own source as long as that engine is the one the
controller has, nothing else is started, and the session that was marked for the
recorder is the engine's.
-/

set_option autoImplicit false

namespace Luma.Compositor

open Luma.Library Luma.Core

namespace AnvilState

/-- The process was started to record less than an output. -/
def Private (history : List Observation) (process : Nat) (source : RecorderCaptureSource) : Prop :=
  .recordingStarted process source ∈ history ∧ source ≠ .output

/-- Every frame an engine was given shows what it was started to record. -/
def Faithful (history : List Observation) : Prop :=
  ∀ frame process content source, .captureReady frame (.engine process) content ∈ history →
    Private history process source → content = source

/-- The requests that an event answers if their sessions can be captured. -/
def Asks (self : AnvilState) (request : PendingCaptureFrame) : Event → Prop
  | .repaint _ => self.desktop.redraw = true ∧ request ∈ self.capture.pending
  | .boostTick _ => self.recording.routing.commitDriven = false ∧ request ∈ self.capture.pending
  | .windowCommit _ _ => self.recording.routing.commitDriven = true ∧ request ∈ self.capture.pending
  | .frame _ session _ _ => request.session = session
  | _ => False

/-- Nothing but a `toggle` that stops is attempted while a window or region is recorded. -/
def Undisturbed (history : List Observation) (self : AnvilState) : Event → Prop
  | .command host command => ∀ action argument attempt, startingCommand command = some (action, argument) →
      self.lock.locked = false → self.admit host.lowercase argument action = .ok attempt → attempt ≠ .toggleStop →
      ∀ process source, self.recording.recorder.child = some process → ¬Private history process source
  | _ => True

/-- A private engine's request is answered only while the controller has that engine. -/
def Current (history : List Observation) (self : AnvilState) (event : Event) : Prop :=
  ∀ request, Asks self request event → ∀ session ∈ self.capture.sessions, session.id = request.session →
    self.captureConstraints session.output = true → ∀ process source, session.client = .engine process →
      Private history process source → self.recording.recorder.child = some process

/-- The mark for the recorder's session is not taken by another client while the
controller's private engine has yet to connect. -/
def Marked (history : List Observation) (self : AnvilState) : Event → Prop
  | .newSession client output => self.mayConnect client = true → self.acceptsSession output = true →
      ∀ process source, self.recording.recorder.child = some process → Private history process source →
        process ∈ self.recording.unconnected → client = .engine process
  | _ => True

structure Discreet (history : List Observation) (state : AnvilState) (event : Event) : Prop where
  undisturbed : Undisturbed history state event
  current : Current history state event
  marked : Marked history state event

/-! ## The invariant -/

structure Confined (history : List Observation) (state : AnvilState) : Prop where
  started : ∀ process source, .recordingStarted process source ∈ history → process < state.nextProcess
  unique : ∀ process source other, .recordingStarted process source ∈ history →
    .recordingStarted process other ∈ history → source = other
  given : ∀ frame process content, .captureReady frame (.engine process) content ∈ history →
    process < state.nextProcess
  unconnected : ∀ process ∈ state.recording.unconnected, process < state.nextProcess
  distinct : state.recording.unconnected.Nodup
  connected : ∀ session ∈ state.capture.sessions, ∀ process, session.client = .engine process →
    process < state.nextProcess
  override : ∀ process source, state.recording.recorder.child = some process → Private history process source →
    state.recording.routing.override = source
  awaited : ∀ process source, state.recording.recorder.child = some process → Private history process source →
    process ∈ state.recording.unconnected → state.recording.routing.recorderSessionPending = true
  marked : ∀ session ∈ state.capture.sessions, ∀ process source, session.client = .engine process →
    state.recording.recorder.child = some process → Private history process source → session.recorder = true
  faithful : Faithful history

/-- A step that starts nothing and gives the current engine no other routing. -/
structure Continues (history : List Observation) (before : AnvilState) (result : AnvilState × List Observation) :
    Prop where
  process : before.nextProcess ≤ result.1.nextProcess
  child : ∀ process, result.1.recording.recorder.child = some process →
    before.recording.recorder.child = some process
  routing : ∀ process source, result.1.recording.recorder.child = some process → Private history process source →
    result.1.recording.routing = before.recording.routing
  unconnected : result.1.recording.unconnected.Sublist before.recording.unconnected
  sessions : ∀ session ∈ result.1.capture.sessions, ∃ origin ∈ before.capture.sessions,
    origin.client = session.client ∧ origin.recorder = session.recorder
  silent : ∀ process source, .recordingStarted process source ∉ result.2
  given : ∀ frame process content, .captureReady frame (.engine process) content ∈ result.2 →
    process < before.nextProcess ∧ ∀ source, Private history process source → content = source

variable {self before : AnvilState} {history observations : List Observation} {host : Host} {command : String}
variable {result : AnvilState × List Observation}

theorem private_append (silent : ∀ process source, .recordingStarted process source ∉ observations)
    {process : Nat} {source : RecorderCaptureSource}
    (started : Private (observations ++ history) process source) : Private history process source := by
  refine ⟨?_, started.2⟩
  rcases List.mem_append.mp started.1 with new | old
  · exact absurd new (silent process source)
  · exact old

theorem Confined.continues (confined : Confined history before) (step : Continues history before result) :
    Confined (result.2 ++ history) result.1 where
  started := by
    intro process source seen
    rcases List.mem_append.mp seen with new | old
    · exact absurd new (step.silent process source)
    · exact Nat.lt_of_lt_of_le (confined.started process source old) step.process
  unique := by
    intro process source other first second
    rcases List.mem_append.mp first with new | first
    · exact absurd new (step.silent _ _)
    · rcases List.mem_append.mp second with new | second
      · exact absurd new (step.silent _ _)
      · exact confined.unique process source other first second
  given := by
    intro frame process content seen
    apply Nat.lt_of_lt_of_le _ step.process
    rcases List.mem_append.mp seen with new | old
    · exact (step.given frame process content new).1
    · exact confined.given frame process content old
  unconnected := fun process waits =>
    Nat.lt_of_lt_of_le (confined.unconnected process (step.unconnected.subset waits)) step.process
  distinct := confined.distinct.sublist step.unconnected
  connected := by
    intro session there process named
    obtain ⟨origin, before, client, -⟩ := step.sessions session there
    exact Nat.lt_of_lt_of_le (confined.connected origin before process (client.trans named)) step.process
  override := by
    intro process source owned started
    have earlier := private_append step.silent started
    rw [step.routing process source owned earlier]
    exact confined.override process source (step.child process owned) earlier
  awaited := by
    intro process source owned started waits
    have earlier := private_append step.silent started
    rw [step.routing process source owned earlier]
    exact confined.awaited process source (step.child process owned) earlier (step.unconnected.subset waits)
  marked := by
    intro session there process source named owned started
    obtain ⟨origin, before, client, recorder⟩ := step.sessions session there
    rw [← recorder]
    exact confined.marked origin before process source (client.trans named) (step.child process owned)
      (private_append step.silent started)
  faithful := by
    intro frame process content source seen started
    have earlier := private_append step.silent started
    rcases List.mem_append.mp seen with new | old
    · exact (step.given frame process content new).2 source earlier
    · exact confined.faithful frame process content source old earlier

/-! ## Steps that continue -/

theorem continues_silent {after : AnvilState} (process : before.nextProcess ≤ after.nextProcess)
    (child : ∀ process, after.recording.recorder.child = some process →
      before.recording.recorder.child = some process)
    (routing : ∀ process source, after.recording.recorder.child = some process → Private history process source →
      after.recording.routing = before.recording.routing)
    (unconnected : after.recording.unconnected = before.recording.unconnected)
    (sessions : after.capture.sessions = before.capture.sessions) : Continues history before (after, []) :=
  ⟨process, child, routing, unconnected ▸ .refl _, fun session there => ⟨session, sessions ▸ there, rfl, rfl⟩,
    fun _ _ => nofun, fun _ _ _ => nofun⟩

theorem Aside.continues (aside : Aside before result) : Continues history before result where
  process := Nat.le_of_eq aside.process.symm
  child := by
    rw [aside.recording]
    exact fun _ owned => owned
  routing := by
    rw [aside.recording]
    exact fun _ _ _ _ => rfl
  unconnected := by rw [aside.recording]
  sessions := fun session there => ⟨session, aside.sessions session there, rfl, rfl⟩
  silent := by
    intro process source seen
    cases aside.quiet _ seen
  given := by
    intro frame process content seen
    cases aside.quiet _ seen

/-- A session with the recorder's mark is given what the routing says. -/
theorem captureContent_private {session : CaptureSession} {frame : CaptureFrame}
    {content source : RecorderCaptureSource} (shows : self.captureContent session frame = some content)
    (marked : session.recorder = true) (routed : self.recording.routing.override = source)
    (confined : source ≠ .output) : content = source := by
  unfold captureContent at shows
  rw [marked, routed] at shows
  have differs : (source != .output) = true := by simpa using confined
  rw [differs] at shows
  split at shows
  · cases shows
  · split at shows
    · cases shows
    · simp only [Bool.and_self, if_true] at shows
      split at shows
      · cases shows
      · split at shows
        · split at shows
          · exact (Option.some.inj shows).symm
          · cases shows
        · exact (Option.some.inj shows).symm

theorem Served.continues {requests : List PendingCaptureFrame} (confined : Confined history before)
    (served : Served requests before result)
    (current : ∀ request ∈ requests, ∀ session ∈ before.capture.sessions, session.id = request.session →
      before.captureConstraints session.output = true → ∀ process source, session.client = .engine process →
        Private history process source → before.recording.recorder.child = some process) :
    Continues history before result where
  process := by
    apply Nat.le_of_eq
    rw [served.rest]
  child := by
    rw [served.sampled]
    exact fun _ owned => owned
  routing := fun _ _ _ _ => served.routing
  unconnected := by
    rw [served.recording]
  sessions := by
    intro session there
    obtain ⟨origin, before, same⟩ := served.origin there
    obtain ⟨-, client, -, recorder, -⟩ := CaptureSession.unmarked_eq same
    exact ⟨origin, before, client.symm, recorder.symm⟩
  silent := by
    intro process source seen
    cases served.answers _ seen
  given := by
    intro frame process content seen
    generalize observed : Observation.captureReady frame (.engine process) content = observation at seen
    cases served.answers _ seen with
    | failed => cases observed
    | @ready request session shown waits there names shows =>
      obtain ⟨rfl, client, rfl⟩ := Observation.captureReady.inj observed
      refine ⟨confined.connected session there process client.symm, fun source started => ?_⟩
      have owned := current request waits session there names (captureConstraints_of_content shows) process source
        client.symm started
      have marked := confined.marked session there process source client.symm owned started
      exact captureContent_private shows marked (confined.override process source owned started) started.2

end AnvilState

namespace AnvilState

variable {self before : AnvilState} {history : List Observation} {host : Host} {command : String}

/-! ## Recorder commands -/

/-- A new engine has a number that no observation and no session names. -/
theorem Confined.engaged {source : RecorderCaptureSource} {outcome : RecorderOutcome}
    (confined : Confined history self) (engaged : Engaged self.recording self.nextProcess source outcome) :
    Confined (outcome.observations ++ history)
      { (self.settleRecording outcome).state with nextProcess := self.nextProcess + 1 } := by
  obtain ⟨state, -⟩ := settleRecording_rest self outcome
  rw [state, engaged.observations]
  have fresh : ∀ other, .recordingStarted self.nextProcess other ∉ history :=
    fun other seen => Nat.lt_irrefl _ (confined.started _ other seen)
  have source_eq : ∀ other, Private ([.recordingStarted self.nextProcess source] ++ history) self.nextProcess other →
      source = other := by
    intro other started
    rcases List.mem_append.mp started.1 with new | old
    · obtain ⟨-, same⟩ := Observation.recordingStarted.inj (List.mem_singleton.mp new)
      exact same.symm
    · exact absurd old (fresh other)
  have owner : ∀ process, outcome.recording.recorder.child = some process → self.nextProcess = process :=
    fun process owned => Option.some.inj (engaged.child.symm.trans owned)
  refine ⟨?_, ?_, ?_, ?_, ?_, ?_, ?_, ?_, ?_, ?_⟩
  · intro process other seen
    rcases List.mem_append.mp seen with new | old
    · obtain ⟨rfl, -⟩ := Observation.recordingStarted.inj (List.mem_singleton.mp new)
      exact Nat.lt_succ_self _
    · exact Nat.lt_succ_of_lt (confined.started process other old)
  · intro process one other first second
    rcases List.mem_append.mp first with new | first <;> rcases List.mem_append.mp second with new' | second
    · exact (Observation.recordingStarted.inj (List.mem_singleton.mp new)).2.trans
        (Observation.recordingStarted.inj (List.mem_singleton.mp new')).2.symm
    · obtain ⟨rfl, -⟩ := Observation.recordingStarted.inj (List.mem_singleton.mp new)
      exact absurd second (fresh other)
    · obtain ⟨rfl, -⟩ := Observation.recordingStarted.inj (List.mem_singleton.mp new')
      exact absurd first (fresh one)
    · exact confined.unique process one other first second
  · intro frame process content seen
    rcases List.mem_append.mp seen with new | old
    · cases List.mem_singleton.mp new
    · exact Nat.lt_succ_of_lt (confined.given frame process content old)
  · intro process waits
    rw [engaged.unconnected] at waits
    rcases List.mem_cons.mp waits with rfl | older
    · exact Nat.lt_succ_self _
    · exact Nat.lt_succ_of_lt (confined.unconnected process older)
  · show outcome.recording.unconnected.Nodup
    rw [engaged.unconnected]
    exact List.nodup_cons.mpr ⟨fun waits => Nat.lt_irrefl _ (confined.unconnected _ waits), confined.distinct⟩
  · exact fun session there process named => Nat.lt_succ_of_lt (confined.connected session there process named)
  · intro process other owned started
    cases owner process owned
    rw [← source_eq other started]
    exact engaged.override
  · exact fun _ _ _ _ _ => engaged.awaited
  · intro session there process other named owned _
    cases owner process owned
    exact absurd (confined.connected session there _ named) (Nat.lt_irrefl _)
  · intro frame process content other seen started
    rcases List.mem_append.mp seen with new | old
    · cases List.mem_singleton.mp new
    · rcases List.mem_append.mp started.1 with new | earlier
      · obtain ⟨rfl, -⟩ := Observation.recordingStarted.inj (List.mem_singleton.mp new)
        exact absurd (confined.given frame _ content old) (Nat.lt_irrefl _)
      · exact confined.faithful frame process content other old ⟨earlier, started.2⟩

theorem unengaged_continues {outcome : RecorderOutcome} (unengaged : Unengaged self.recording outcome)
    (routing : ∀ process source, outcome.recording.recorder.child = some process → Private history process source →
      outcome.recording.routing = self.recording.routing) :
    Continues history self
      ({ (self.settleRecording outcome).state with nextProcess := self.nextProcess + 1 },
        (self.settleRecording outcome).observations) := by
  obtain ⟨state, observations⟩ := settleRecording_rest self outcome
  rw [state, observations, unengaged.observations]
  refine continues_silent (Nat.le_succ _) ?_ routing unengaged.unconnected rfl
  intro process owned
  rcases unengaged.child with same | gone
  · exact same.symm.trans owned
  · cases gone.symm.trans owned

theorem maintainDesktop_continues (history : List Observation) (self : AnvilState) (host : Host) (supervised : Supervised self.recording) :
    Continues history self (self.maintainDesktop host) := by
  have prepared := prepare_prepared self host
  have recording : (self.maintainDesktop host).1.recording = (self.pollRecorder host).recording :=
    maintainDesktop_recording self host
  have recorder : (self.pollRecorder host).recording.recorder = (self.recording.recorder.poll host.poll).2 := by
    unfold pollRecorder
    dsimp only
    split <;> rfl
  have child := poll_child self.recording.recorder supervised.consistent host.poll
  have running : ∀ process, (self.recording.recorder.poll host.poll).2.child = some process →
      (self.recording.recorder.poll host.poll).2.isRunning = true := by
    intro process owned
    simp [RecorderController.isRunning, owned]
  refine ⟨?_, ?_, ?_, ?_, ?_, ?_, ?_⟩
  · show _ ≤ (self.prepare host).nextProcess
    apply Nat.le_of_eq
    rw [prepared.rest]
  · intro process owned
    rw [recording, recorder] at owned
    rcases child with same | ⟨-, gone⟩
    · exact same.symm.trans owned
    · rw [running process owned] at gone
      cases gone
  · intro process source owned _
    rw [recording, recorder] at owned
    rw [recording]
    unfold pollRecorder
    dsimp only
    split
    · rfl
    · show (if _ then _ else _) = _
      rw [running process owned]
      rfl
  · rw [recording]
    unfold pollRecorder
    dsimp only
    split <;> exact .refl _
  · intro session there
    rw [maintainDesktop_eq] at there
    obtain ⟨origin, before, rfl⟩ := List.mem_map.mp there
    have capture : (self.prepare host).capture = self.capture := by rw [prepared.rest]
    exact ⟨origin, capture ▸ before, rfl, rfl⟩
  · intro process source seen
    obtain ⟨_, _, same⟩ := List.mem_map.mp seen
    cases same
  · intro frame process content seen
    obtain ⟨_, _, same⟩ := List.mem_map.mp seen
    cases same

theorem Continues.beside {result : AnvilState × List Observation} {after : AnvilState} {next : Nat}
    (step : Continues history before result) (kept : Beside result.1 after) (later : before.nextProcess ≤ next) :
    Continues history before ({ after with nextProcess := next }, result.2) := by
  rw [kept.rest]
  exact ⟨later, step.child, step.routing, step.unconnected, step.sessions, step.silent, step.given⟩

theorem Continues.refl (history : List Observation) (before : AnvilState) : Continues history before (before, []) :=
  continues_silent (Nat.le_refl _) (fun _ owned => owned) (fun _ _ _ _ => rfl) rfl rfl

theorem desktopCommand_confined (confined : Confined history self) (supervised : Supervised self.recording)
    (undisturbed : Undisturbed history self (.command host command)) :
    Confined ((self.runCommand host command).2 ++ history) (self.runCommand host command).1 := by
  have later : self.nextProcess ≤ self.nextProcess + 1 := Nat.le_succ _
  unfold runCommand
  have effect := desktopCommand_effect self host command
  generalize self.desktopCommand host command = outcome at effect
  cases effect with
  | refused => exact confined.continues ((Continues.refl history self).beside (.refl self) later)
  | @attempted action argument attempt starts unlocked admitted =>
    rcases Recording.attempt_cases self.recording host self.nextProcess self.desktop.config.recorder attempt with
      ⟨source, engaged⟩ | unengaged
    · dsimp only
      rw [(settleRecording_rest self _).2]
      exact confined.engaged engaged
    · refine confined.continues (unengaged_continues unengaged fun process source owned started => ?_)
      by_cases stops : attempt = .toggleStop
      · subst stops
        exact absurd (owned.symm.trans (RecorderController.stop_child _ _)) nofun
      · -- Such an attempt is not made while a private engine runs.
        rcases unengaged.child with same | gone
        · exact absurd started (undisturbed action argument attempt starts unlocked admitted stops process source
            (same.symm.trans owned))
        · exact absurd (owned.symm.trans gone) nofun
  | stopped =>
    refine confined.continues (unengaged_continues (Recording.stop_unengaged _ host) fun process source owned _ => ?_)
    exact absurd (owned.symm.trans (RecorderController.stop_child _ _)) nofun
  | paused => exact confined.continues (unengaged_continues (Recording.pause_unengaged _ host) fun _ _ _ _ => rfl)
  | beside _ kept => exact confined.continues ((Continues.refl history self).beside kept later)
  | @maintained reply desktop after _ _ _ kept =>
    have same : Confined history (self.setDesktop desktop) := ⟨confined.started, confined.unique, confined.given,
      confined.unconnected, confined.distinct, confined.connected, confined.override, confined.awaited,
      confined.marked, confined.faithful⟩
    have step := maintainDesktop_continues history (self.setDesktop desktop) host supervised
    exact same.continues (step.beside kept later)

theorem stopRecording_continues (self : AnvilState) (reason : String) {after : AnvilState} {observations : List Observation}
    (rest : after = { self with
      recording := (self.stopRecording reason).recording, lock := after.lock, capture := after.capture,
      space := after.space, seat := after.seat, desktop := after.desktop })
    (sessions : ∀ session ∈ after.capture.sessions, ∃ origin ∈ self.capture.sessions,
      origin.client = session.client ∧ origin.recorder = session.recorder)
    (quiet : ∀ observation ∈ observations, recordingObservation observation = false) :
    Continues history self (after, observations) := by
  have gone : (self.stopRecording reason).recording.recorder.child = none := by
    show RecorderController.child (if _ then _ else _) = none
    rcases running : self.recording.recorder.isRunning with - | -
    · exact (RecorderController.not_running running).1
    · rfl
  have recording : after.recording = (self.stopRecording reason).recording := by rw [rest]
  refine ⟨?_, ?_, ?_, ?_, sessions, ?_, ?_⟩
  · apply Nat.le_of_eq
    rw [rest]
  · intro process owned
    rw [recording, gone] at owned
    cases owned
  · intro process source owned _
    rw [recording, gone] at owned
    cases owned
  · rw [recording]
    exact .refl _
  · intro process source seen
    cases quiet _ seen
  · intro frame process content seen
    cases quiet _ seen

theorem requestLock_continues (locker : Nat) : Continues history self (self.requestLock locker) := by
  unfold requestLock
  split
  · exact .refl history self
  · refine stopRecording_continues self _ rfl ?_ (by simp [recordingObservation])
    intro session there
    obtain ⟨origin, before, rfl⟩ := List.mem_map.mp there
    exact ⟨origin, before, rfl, rfl⟩

theorem pauseSession_continues : Continues history self (self.pauseSession, []) :=
  stopRecording_continues self _ rfl (fun session there => ⟨session, there, rfl, rfl⟩) nofun

/-- The engine the controller has takes the mark; nobody else does. -/
theorem newSession_confined (confined : Confined history self) {client : Client} {output : Nat}
    (marked : Marked history self (.newSession client output)) :
    Confined ((self.newSession client output).2 ++ history) (self.newSession client output).1 := by
  have remaining : (self.stillUnconnected client).Sublist self.recording.unconnected := by
    cases client with
    | engine process => exact List.erase_sublist
    | other id => exact .refl _
  have dropped : Continues history self ({ self with
      nextSession := self.nextSession + 1
      recording := { self.recording with unconnected := self.stillUnconnected client } }, []) :=
    ⟨Nat.le_refl _, fun _ owned => owned, fun _ _ _ _ => rfl, remaining,
      fun session there => ⟨session, there, rfl, rfl⟩, fun _ _ => nofun, fun _ _ _ => nofun⟩
  unfold newSession
  split
  · exact confined
  · rename_i may
    rw [Bool.not_eq_true', Bool.not_eq_false] at may
    dsimp only
    split
    · rename_i accepted
      have kept := confined.continues dropped
      have engine : ∀ process, client = .engine process → process ∈ self.recording.unconnected := by
        rintro process rfl
        exact List.contains_iff_mem.mp may
      refine ⟨kept.started, kept.unique, kept.given, kept.unconnected, kept.distinct, ?_, kept.override, ?_, ?_,
        kept.faithful⟩
      · intro session there process named
        rcases List.mem_append.mp there with old | new
        · exact confined.connected session old process named
        · cases List.mem_singleton.mp new
          exact confined.unconnected process (engine process named)
      · intro process source owned started waits
        have taken := marked may accepted process source owned started (remaining.subset waits)
        subst taken
        exact absurd waits (List.Nodup.not_mem_erase confined.distinct)
      · intro session there process source named owned started
        rcases List.mem_append.mp there with old | new
        · exact confined.marked session old process source named owned started
        · cases List.mem_singleton.mp new
          exact confined.awaited process source owned started (engine process named)
    · exact confined.continues dropped

theorem frame_confined (confined : Confined history self) {session : Nat} {dmabuf valid : Bool}
    (current : Current history self (.frame host session dmabuf valid)) :
    Confined ((self.frame host session dmabuf valid).2 ++ history) (self.frame host session dmabuf valid).1 := by
  have counted : Continues history self ({ self with nextCapture := self.nextCapture + 1 }, []) :=
    continues_silent (Nat.le_refl _) (fun _ owned => owned) (fun _ _ _ _ => rfl) rfl rfl
  have same := confined.continues counted
  rcases frame_cases self host session dmabuf valid with idle | ⟨found, member, names, failed | queued | answered⟩
  · rw [idle]
    exact confined
  · rw [failed]
    have fails : Continues history self ({ self with nextCapture := self.nextCapture + 1 },
        [.captureFailed self.nextCapture]) :=
      ⟨counted.process, counted.child, counted.routing, counted.unconnected, counted.sessions,
        fun _ _ => by simp, fun _ _ _ => by simp⟩
    exact confined.continues fails
  · rw [queued]
    exact ⟨same.started, same.unique, same.given, same.unconnected, same.distinct, same.connected, same.override,
      same.awaited, same.marked, same.faithful⟩
  · rw [answered]
    set request : CaptureFrame := { id := self.nextCapture, dmabuf, valid }
    have served := completeCaptureFrame_served { self with nextCapture := self.nextCapture + 1 } host
      ⟨found.id, request⟩ member rfl
    refine same.continues (served.continues same ?_)
    intro waiting asked
    rw [List.mem_singleton.mp asked]
    exact current ⟨found.id, request⟩ names

theorem served_confined (moved : AnvilState) {result : AnvilState × List Observation}
    (confined : Confined history self) (event : Event) (current : Current history self event)
    (steady : moved = { self with desktop := moved.desktop, capture := moved.capture, screencopy := moved.screencopy })
    (active : moved.desktop.active = self.desktop.active) (sessions : moved.capture.sessions = self.capture.sessions)
    (asks : ∀ request ∈ moved.capture.pending, Asks self request event) (drained : Drained moved result) :
    Confined (result.2 ++ history) result.1 := by
  have recording : moved.recording = self.recording := by rw [steady]
  have process : moved.nextProcess = self.nextProcess := by rw [steady]
  have moves : Continues history self (moved, []) :=
    continues_silent (Nat.le_of_eq process.symm) (recording ▸ fun _ owned => owned)
      (fun _ _ _ _ => congrArg Recording.routing recording) (congrArg Recording.unconnected recording) sessions
  have same := confined.continues moves
  refine same.continues (drained.served.continues same ?_)
  intro request waits session there names capturable process source named started
  rw [recording]
  refine current request (asks request waits) session (sessions ▸ there) names ?_ process source named started
  have constraints : moved.captureConstraints session.output = self.captureConstraints session.output := by
    unfold captureConstraints findOutput
    rw [active, steady]
  rw [← constraints]
  exact capturable

theorem Confined.append_quiet (confined : Confined history self) {observations : List Observation}
    (quiet : ∀ observation ∈ observations, recordingObservation observation = false) :
    Confined (observations ++ history) self := by
  have aside : Aside self (self, observations) := ⟨rfl, fun _ there => there, rfl, quiet⟩
  exact confined.continues aside.continues

theorem private_append_quiet {observations : List Observation}
    (quiet : ∀ observation ∈ observations, recordingObservation observation = false) {process : Nat}
    {source : RecorderCaptureSource} (started : Private (observations ++ history) process source) :
    Private history process source := by
  refine private_append ?_ started
  intro process source seen
  cases quiet _ seen

theorem repaint_confined (confined : Confined history self) (current : Current history self (.repaint host)) :
    Confined ((self.repaint host).2 ++ history) (self.repaint host).1 := by
  rcases repaint_cases self host with idle | ⟨redraw, -, served, drained, painted⟩
  · rw [idle]
    exact confined
  · set started := self.setDesktop { self.desktop with redraw := false }
    have quiet : ∀ observation ∈ (started.processScreencopies host).2, recordingObservation observation = false :=
      processScreencopies_forall fun _ _ _ => performCopy_quiet
    have rest := painted_rest self host
    rw [painted, List.append_assoc]
    refine served_confined (self.painted host) (confined.append_quiet quiet) (.repaint host) ?_ ?_ ?_ ?_ ?_ drained
    · intro request asked session there names capturable process source named begun
      exact current request asked session there names capturable process source named
        (private_append_quiet quiet begun)
    · rw [rest]
    · rw [rest]
    · rw [rest]
    · rw [rest]
      exact fun request waits => ⟨redraw, waits⟩

theorem boostTick_confined (confined : Confined history self) (current : Current history self (.boostTick host)) :
    Confined ((self.captureBoostTick host).2 ++ history) (self.captureBoostTick host).1 := by
  by_cases driven : self.recording.routing.commitDriven = true
  · have idle : self.captureBoostTick host = (self, []) := by
      unfold captureBoostTick
      rw [driven]
      split <;> rfl
    rw [idle]
    exact confined
  · exact served_confined self confined (.boostTick host) current rfl rfl rfl
      (fun _ waits => ⟨by simpa using driven, waits⟩) (captureBoostTick_drained self host)

theorem windowCommit_confined {handle : Nat} (confined : Confined history self)
    (current : Current history self (.windowCommit host handle)) :
    Confined ((self.windowCommit host handle).2 ++ history) (self.windowCommit host handle).1 := by
  unfold windowCommit
  by_cases driven : self.recording.routing.commitDriven = true
  · exact served_confined self.advanceGeneration confined (.windowCommit host handle) current rfl rfl rfl
      (fun _ waits => ⟨driven, waits⟩) (processCommitDrivenCapture_drained self.advanceGeneration host handle)
  · have idle : self.advanceGeneration.processCommitDrivenCapture host handle = (self.advanceGeneration, []) := by
      unfold processCommitDrivenCapture
      rw [if_pos]
      have clock : self.advanceGeneration.recording.routing.commitDriven = false := by
        rw [Bool.not_eq_true] at driven
        exact driven
      rw [clock]
      rfl
    rw [idle]
    exact confined.continues (continues_silent (Nat.le_refl _) (fun _ owned => owned) (fun _ _ _ _ => rfl) rfl rfl)

theorem handle_confined {event : Event} (confined : Confined history self) (supervised : Supervised self.recording)
    (discreet : Discreet history self event) :
    Confined ((self.handle event).2 ++ history) (self.handle event).1 := by
  cases event with
  | command host command => exact desktopCommand_confined confined supervised discreet.undisturbed
  | maintain host => exact confined.continues (maintainDesktop_continues history self host supervised)
  | windowCommit host handle => exact windowCommit_confined confined discreet.current
  | pauseSession => exact confined.continues pauseSession_continues
  | lock locker => exact confined.continues (requestLock_continues locker)
  | repaint host => exact repaint_confined confined discreet.current
  | boostTick host => exact boostTick_confined confined discreet.current
  | newSession client output => exact newSession_confined confined discreet.marked
  | frame host session dmabuf valid => exact frame_confined confined discreet.current
  | _ => exact confined.continues (handle_aside rfl).continues

theorem initial_confined (loaded : Except String Config) : Confined [] (initial loaded) where
  started := nofun
  unique := nofun
  given := nofun
  unconnected _ there := absurd there List.not_mem_nil
  distinct := .nil
  connected _ there := absurd there List.not_mem_nil
  override := nofun
  awaited := nofun
  marked _ there := absurd there List.not_mem_nil
  faithful := nofun

theorem Execution.confined (run : Execution Discreet history self) : Confined history self := by
  refine Execution.invariant Confined initial_confined ?_ run
  intro history self event before discreet confined
  have reachable : Reachable self := ⟨history, before.mono fun _ _ _ _ => trivial⟩
  exact handle_confined confined (reachable_supervised reachable) discreet

/-- In every run whose steps are discreet, an engine that records a window or a
region is given frames of that window or region only. -/
theorem recording_faithful (run : Execution Discreet history self) : Faithful history :=
  run.confined.faithful

/-- Before anything was recorded every step is discreet. -/
theorem discreet_of_unstarted (unstarted : ∀ process source, .recordingStarted process source ∉ history)
    (event : Event) : Discreet history self event := by
  have free : ∀ process source, ¬Private history process source := fun process source started =>
    unstarted process source started.1
  refine ⟨?_, fun _ _ _ _ _ _ process source _ started => absurd started (free process source), ?_⟩
  · cases event <;> try trivial
    exact fun _ _ _ _ _ _ _ process source _ => free process source
  · cases event <;> try trivial
    exact fun _ _ process source _ started => absurd started (free process source)

theorem permits_of_unstarted (inputs : List Event)
    (unstarted : ∀ process source,
      .recordingStarted process source ∉ (Transition.execute step self inputs).2 ++ history) :
    Transition.Permits step Discreet history self inputs := by
  induction inputs generalizing self history with
  | nil => trivial
  | cons event inputs ih =>
    refine ⟨discreet_of_unstarted (fun process source seen => unstarted process source ?_) event, ih ?_⟩
    · exact List.mem_append_right _ seen
    · intro process source seen
      apply unstarted process source
      rw [Transition.execute, List.append_assoc]
      exact seen

/-- The engine connects and is given its first frame. -/
def firstFrame : List Event := [.newSession (.engine 0) 0, .frame {} 0 true true]

theorem recording_faithful_window :
    let final := Transition.execute step recordingState firstFrame
    .captureReady 0 (.engine 0) (.window 1) ∈ final.2 ∧
      Faithful (final.2 ++ [.recordingStarted 0 (.window 1)]) := by
  have quiet : (Transition.execute step (initial (.error "no configuration")) (windowRecording.take 4)).2 = [] := by
    decide
  have permits : Transition.Permits step Discreet [] (initial (.error "no configuration")) (windowRecording.take 4) := by
    apply permits_of_unstarted
    rw [quiet]
    exact fun _ _ => List.not_mem_nil
  have mapped := Transition.Run.execute (windowRecording.take 4)
    (.start ⟨_, rfl⟩ : Execution Discreet [] (initial (.error "no configuration"))) permits
  rw [quiet] at mapped
  have begun : Execution Discreet [.recordingStarted 0 (.window 1)] recordingState := by
    have started := Transition.Run.step (Event.command recordingHost "recorder start window 1") mapped
      (discreet_of_unstarted (fun _ _ => List.not_mem_nil) _)
    exact started
  have child : recordingState.recording.recorder.child = some 0 := by decide
  have connected : (recordingState.handle (.newSession (.engine 0) 0)).1.recording.recorder.child = some 0 := by decide
  have sessions : (recordingState.handle (.newSession (.engine 0) 0)).1.capture.sessions =
      [{ id := 0, client := .engine 0, output := 0, recorder := true }] := by decide
  refine ⟨by decide, recording_faithful (Transition.Run.execute firstFrame begun ⟨⟨trivial, ?_, ?_⟩, ?_, trivial⟩)⟩
  · exact fun _ asked => asked.elim
  · intro _ _ process source owned _ _
    rw [Option.some.inj (child.symm.trans owned)]
  · refine ⟨trivial, ?_, trivial⟩
    intro _ _ session there _ _ process source client _
    rw [show (step recordingState (.newSession (.engine 0) 0)).1 =
      (recordingState.handle (.newSession (.engine 0) 0)).1 from rfl] at there ⊢
    rw [sessions] at there
    rw [List.mem_singleton.mp there] at client
    rw [connected, Client.engine.inj client]

/-- The engine of a window recording asks for its second frame, the recording is
stopped, and the next repaint answers with the whole output. -/
def stoppedWhileWaiting : List Event := windowRecording ++
  [.newSession (.engine 0) 0, .frame {} 0 true true, .frame {} 0 true true, .command {} "recorder stop", .repaint {}]

theorem stopped_engine_sees_output :
    let final := Transition.execute step (initial (.error "no configuration")) stoppedWhileWaiting
    .recordingStarted 0 (.window 1) ∈ final.2 ∧ .captureReady 1 (.engine 0) .output ∈ final.2 ∧
      ¬Faithful final.2 := by
  have started : .recordingStarted 0 (.window 1) ∈
      (Transition.execute step (initial (.error "no configuration")) stoppedWhileWaiting).2 := by decide
  have shown : .captureReady 1 (.engine 0) .output ∈
      (Transition.execute step (initial (.error "no configuration")) stoppedWhileWaiting).2 := by decide
  refine ⟨started, shown, fun faithful => ?_⟩
  exact nomatch faithful 1 0 .output (.window 1) shown ⟨started, nofun⟩

end AnvilState

end Luma.Compositor
