import Luma.Compositor.RecordingPrivacy

/-! Whose session is taken for the recorder's.

A start command spawns an engine and expects a session. The next session that is accepted takes the
recorder's mark, and with it the frames of the recorded window or region, whoever creates it.
-/

set_option autoImplicit false

namespace Luma.Compositor

open Luma.Library Luma.Core

/-- The engine that the last start command spawned. -/
def spawned : List Observation → Option Nat
  | [] => none
  | .recordingStarted process _ :: _ => some process
  | _ :: older => spawned older

/-- The client is an engine that a start command spawned. -/
def Spawned (history : List Observation) (client : Client) : Prop :=
  ∃ process source, client = .engine process ∧ .recordingStarted process source ∈ history

namespace AnvilState

/-- Only engines that a start command spawned have the recorder's session. -/
def MarksSpawned (history : List Observation) (self : AnvilState) : Prop :=
  ∀ session ∈ self.capture.sessions, session.recorder = true → Spawned history session.client

/-- Only such engines were given less than an output. -/
def GivesSpawned (history : List Observation) : Prop :=
  ∀ frame client content, .captureReady frame client content ∈ history → content ≠ .output → Spawned history client

/-- If the new session takes the mark its client is the engine of the last start command. -/
def TakenBySpawned (history : List Observation) (self : AnvilState) (client : Client) (output : Nat) : Prop :=
  ∀ session, (self.newSession client output).1.capture.sessions = self.capture.sessions ++ [session] →
    session.recorder = true → ∃ process, spawned history = some process ∧ client = .engine process

/-- While the recorder's session is awaited no session is accepted but that of the engine that the controller has. -/
def Expected (_ : List Observation) (self : AnvilState) : Event → Prop
  | .newSession client output => self.mayConnect client = true → self.acceptsSession output = true →
      self.recording.routing.recorderSessionPending = true →
      ∃ process, self.recording.recorder.child = some process ∧ client = .engine process
  | _ => True

/-! ## The invariant -/

structure Attributed (history : List Observation) (state : AnvilState) : Prop where
  owner : ∀ process, state.recording.recorder.child = some process → spawned history = some process
  marks : MarksSpawned history state
  gives : GivesSpawned history

/-- A step that starts nothing, marks no session, and gives less than an output to marked sessions only. -/
structure Attributes (before : AnvilState) (result : AnvilState × List Observation) : Prop where
  child : ∀ process, result.1.recording.recorder.child = some process →
    before.recording.recorder.child = some process
  sessions : ∀ session ∈ result.1.capture.sessions, ∃ origin ∈ before.capture.sessions,
    origin.client = session.client ∧ origin.recorder = session.recorder
  silent : ∀ process source, .recordingStarted process source ∉ result.2
  given : ∀ frame client content, .captureReady frame client content ∈ result.2 → content ≠ .output →
    ∃ session ∈ before.capture.sessions, session.client = client ∧ session.recorder = true

variable {self before : AnvilState} {history observations : List Observation} {host : Host} {command : String}
variable {result : AnvilState × List Observation}

theorem spawned_append (silent : ∀ process source, .recordingStarted process source ∉ observations) :
    spawned (observations ++ history) = spawned history := by
  induction observations with
  | nil => rfl
  | cons observation rest ih =>
      have below := ih fun process source there => silent process source (List.mem_cons_of_mem _ there)
      rw [List.cons_append]
      cases observation with
      | recordingStarted process source => exact absurd List.mem_cons_self (silent process source)
      | _ => exact below

theorem spawned_mem {process : Nat} (last : spawned history = some process) : Spawned history (.engine process) := by
  induction history with
  | nil => cases last
  | cons observation rest ih =>
      cases observation with
      | recordingStarted other source =>
          cases last
          exact ⟨process, source, rfl, List.mem_cons_self⟩
      | _ =>
          obtain ⟨_, source, same, there⟩ := ih last
          exact ⟨_, source, same, List.mem_cons_of_mem _ there⟩

theorem spawned_later {client : Client} (earlier : Spawned history client) :
    Spawned (observations ++ history) client := by
  obtain ⟨process, source, same, there⟩ := earlier
  exact ⟨process, source, same, List.mem_append_right _ there⟩

theorem Attributed.attributes (attributed : Attributed history before) (step : Attributes before result) :
    Attributed (result.2 ++ history) result.1 where
  owner := by
    intro process owned
    rw [spawned_append step.silent]
    exact attributed.owner process (step.child process owned)
  marks := by
    intro session there marked
    obtain ⟨origin, before, client, recorder⟩ := step.sessions session there
    rw [← client]
    exact spawned_later (attributed.marks origin before (recorder.trans marked))
  gives := by
    intro frame client content seen partly
    rcases List.mem_append.mp seen with new | old
    · obtain ⟨session, there, rfl, marked⟩ := step.given frame client content new partly
      exact spawned_later (attributed.marks session there marked)
    · exact spawned_later (attributed.gives frame client content old partly)

/-! ## Steps that leave the marks alone -/

theorem attributes_silent {after : AnvilState}
    (child : ∀ process, after.recording.recorder.child = some process → before.recording.recorder.child = some process)
    (sessions : after.capture.sessions = before.capture.sessions) : Attributes before (after, []) where
  child := child
  sessions := fun session there => ⟨session, sessions ▸ there, rfl, rfl⟩
  silent := fun _ _ there => absurd there List.not_mem_nil
  given := fun _ _ _ there => absurd there List.not_mem_nil

theorem Attributes.refl (before : AnvilState) : Attributes before (before, []) :=
  attributes_silent (fun _ owned => owned) rfl

theorem Aside.attributes (aside : Aside before result) : Attributes before result where
  child := by
    rw [aside.recording]
    exact fun _ owned => owned
  sessions := fun session there => ⟨session, aside.sessions session there, rfl, rfl⟩
  silent := by
    intro process source seen
    cases aside.quiet _ seen
  given := by
    intro frame client content seen
    cases aside.quiet _ seen

/-- Less than an output is given to the recorder's session only. -/
theorem marked_of_captureContent {session : CaptureSession} {frame : CaptureFrame} {content : RecorderCaptureSource}
    (shows : self.captureContent session frame = some content) (partly : content ≠ .output) :
    session.recorder = true := by
  by_contra unmarked
  rw [Bool.not_eq_true] at unmarked
  simp only [captureContent, unmarked, Bool.false_and, Bool.false_eq_true, if_false] at shows
  split at shows
  · cases shows
  · split at shows
    · cases shows
    · exact partly (Option.some.inj shows).symm

theorem Served.attributes {requests : List PendingCaptureFrame} (served : Served requests before result) :
    Attributes before result where
  child := by
    rw [served.sampled]
    exact fun _ owned => owned
  sessions := by
    intro session there
    obtain ⟨origin, before, same⟩ := served.origin there
    obtain ⟨-, client, -, recorder, -⟩ := CaptureSession.unmarked_eq same
    exact ⟨origin, before, client.symm, recorder.symm⟩
  silent := by
    intro process source seen
    cases served.answers _ seen
  given := by
    intro frame client content seen partly
    generalize observed : Observation.captureReady frame client content = observation at seen
    cases served.answers _ seen with
    | failed => cases observed
    | @ready request session shown waits there names shows =>
        obtain ⟨rfl, rfl, rfl⟩ := Observation.captureReady.inj observed
        exact ⟨session, there, rfl, marked_of_captureContent shows partly⟩

/-- Where no recording was started a step that continues is one that gives nobody a frame. -/
theorem Continues.attributes (step : Continues [] before result)
    (withheld : ∀ frame client content, .captureReady frame client content ∉ result.2) : Attributes before result :=
  ⟨step.child, step.sessions, step.silent, fun frame client content given =>
    absurd given (withheld frame client content)⟩

theorem unengaged_attributes {outcome : RecorderOutcome} (unengaged : Unengaged self.recording outcome) :
    Attributes self ({ (self.settleRecording outcome).state with nextProcess := self.nextProcess + 1 },
      (self.settleRecording outcome).observations) := by
  refine (unengaged_continues unengaged fun _ _ _ begun => absurd begun.1 List.not_mem_nil).attributes ?_
  intro frame client content
  rw [(settleRecording_rest self outcome).2, unengaged.observations]
  exact List.not_mem_nil

theorem maintainDesktop_attributes (self : AnvilState) (host : Host) (supervised : Supervised self.recording) :
    Attributes self (self.maintainDesktop host) := by
  refine (maintainDesktop_continues [] self host supervised).attributes ?_
  intro frame client content seen
  obtain ⟨_, _, same⟩ := List.mem_map.mp seen
  cases same

/-- A new engine is the controller's, and the one that was spawned last. -/
theorem Attributed.engaged {source : RecorderCaptureSource} {outcome : RecorderOutcome}
    (attributed : Attributed history self) (engaged : Engaged self.recording self.nextProcess source outcome) :
    Attributed (outcome.observations ++ history)
      { (self.settleRecording outcome).state with nextProcess := self.nextProcess + 1 } := by
  obtain ⟨state, -⟩ := settleRecording_rest self outcome
  rw [state, engaged.observations]
  refine ⟨fun process owned => engaged.child.symm.trans owned, ?_, ?_⟩
  · exact fun session there marked => spawned_later (attributed.marks session there marked)
  · intro frame client content seen partly
    rcases List.mem_append.mp seen with new | old
    · cases List.mem_singleton.mp new
    · exact spawned_later (attributed.gives frame client content old partly)

theorem Attributes.beside {after : AnvilState} (step : Attributes before result) (kept : Beside result.1 after)
    (next : Nat) : Attributes before ({ after with nextProcess := next }, result.2) := by
  rw [kept.rest]
  exact ⟨step.child, step.sessions, step.silent, step.given⟩

theorem runCommand_attributed (attributed : Attributed history self) (supervised : Supervised self.recording)
    (host : Host) (command : String) :
    Attributed ((self.runCommand host command).2 ++ history) (self.runCommand host command).1 := by
  unfold runCommand
  have effect := desktopCommand_effect self host command
  generalize self.desktopCommand host command = outcome at effect
  cases effect with
  | refused => exact attributed.attributes ((Attributes.refl self).beside (.refl self) _)
  | @attempted action argument attempt =>
      rcases Recording.attempt_cases self.recording host self.nextProcess self.desktop.config.recorder attempt with
        ⟨source, engaged⟩ | unengaged
      · dsimp only
        rw [(settleRecording_rest self _).2]
        exact attributed.engaged engaged
      · exact attributed.attributes (unengaged_attributes unengaged)
  | stopped => exact attributed.attributes (unengaged_attributes (Recording.stop_unengaged _ host))
  | paused => exact attributed.attributes (unengaged_attributes (Recording.pause_unengaged _ host))
  | beside _ kept => exact attributed.attributes ((Attributes.refl self).beside kept _)
  | @maintained reply desktop after _ _ _ kept =>
      have same : Attributed history (self.setDesktop desktop) := ⟨attributed.owner, attributed.marks, attributed.gives⟩
      exact same.attributes ((maintainDesktop_attributes (self.setDesktop desktop) host supervised).beside kept _)

theorem requestLock_attributes (self : AnvilState) (locker : Nat) : Attributes self (self.requestLock locker) := by
  refine (requestLock_continues locker).attributes ?_
  intro frame client content
  unfold requestLock
  split <;> simp

theorem pauseSession_attributes (self : AnvilState) : Attributes self (self.pauseSession, []) :=
  pauseSession_continues.attributes fun _ _ _ => List.not_mem_nil

theorem frame_attributes (self : AnvilState) (host : Host) (session : Nat) (dmabuf valid : Bool) :
    Attributes self (self.frame host session dmabuf valid) := by
  rcases frame_cases self host session dmabuf valid with idle | ⟨found, member, names, failed | queued | answered⟩
  · rw [idle]
    exact .refl self
  · rw [failed]
    exact ⟨fun _ owned => owned, fun session there => ⟨session, there, rfl, rfl⟩, fun _ _ => by simp,
      fun _ _ _ => by simp⟩
  · rw [queued]
    exact attributes_silent (fun _ owned => owned) rfl
  · rw [answered]
    have served := completeCaptureFrame_served { self with nextCapture := self.nextCapture + 1 } host
      ⟨found.id, { id := self.nextCapture, dmabuf, valid }⟩ member rfl
    exact ⟨served.attributes.child, served.attributes.sessions, served.attributes.silent, served.attributes.given⟩

theorem drained_attributes (moved : AnvilState) (recording : moved.recording = self.recording)
    (sessions : moved.capture.sessions = self.capture.sessions) (drained : Drained moved result) :
    Attributes self result := by
  obtain ⟨child, origin, silent, given⟩ := drained.served.attributes
  rw [recording] at child
  rw [sessions] at origin given
  exact ⟨child, origin, silent, given⟩

theorem Attributed.append_quiet (attributed : Attributed history self)
    (quiet : ∀ observation ∈ observations, recordingObservation observation = false) :
    Attributed (observations ++ history) self := by
  have aside : Aside self (self, observations) := ⟨rfl, fun _ there => there, rfl, quiet⟩
  exact attributed.attributes (Aside.attributes aside)

theorem repaint_attributed (attributed : Attributed history self) (host : Host) :
    Attributed ((self.repaint host).2 ++ history) (self.repaint host).1 := by
  rcases repaint_cases self host with idle | ⟨-, -, served, drained, painted⟩
  · rw [idle]
    exact attributed
  · have quiet : ∀ observation ∈ ((self.setDesktop { self.desktop with redraw := false }).processScreencopies host).2,
        recordingObservation observation = false :=
      processScreencopies_forall fun _ _ _ => performCopy_quiet
    have rest := painted_rest self host
    rw [painted, List.append_assoc]
    refine (attributed.append_quiet quiet).attributes (drained_attributes (self.painted host) ?_ ?_ drained)
    · rw [rest]
    · rw [rest]

/-! ## The mark -/

/-- An awaited session has an engine, the one that was spawned last. -/
theorem Attributed.awaited (attributed : Attributed history self) (supervised : Supervised self.recording)
    (pending : self.recording.routing.recorderSessionPending = true) :
    ∃ process, self.recording.recorder.child = some process ∧ spawned history = some process := by
  cases child : self.recording.recorder.child with
  | none =>
      rw [supervised.idle child] at pending
      cases pending
  | some process => exact ⟨process, rfl, attributed.owner process child⟩

/-- The new session, if it is accepted. -/
theorem newSession_sessions (self : AnvilState) (client : Client) (output : Nat) :
    (self.newSession client output).1.capture.sessions =
      if self.mayConnect client = true ∧ self.acceptsSession output = true then
        self.capture.sessions ++
          [{ id := self.nextSession, client, output, recorder := self.recording.routing.recorderSessionPending }]
      else self.capture.sessions := by
  unfold newSession
  cases self.mayConnect client <;> cases self.acceptsSession output <;> rfl

theorem newSession_child (self : AnvilState) (client : Client) (output : Nat) :
    (self.newSession client output).1.recording.recorder = self.recording.recorder := by
  unfold newSession
  split
  · rfl
  · dsimp only
    split <;> rfl

theorem newSession_silent (self : AnvilState) (client : Client) (output : Nat) :
    (self.newSession client output).2 = [] := by
  unfold newSession
  split
  · rfl
  · dsimp only
    split <;> rfl

/-- The condition is exactly that the new session, where it takes the mark, is that of the engine spawned last. -/
theorem expected_iff (attributed : Attributed history self) (supervised : Supervised self.recording)
    (client : Client) (output : Nat) :
    Expected history self (.newSession client output) ↔ TakenBySpawned history self client output := by
  unfold TakenBySpawned
  rw [newSession_sessions]
  constructor
  · intro expected session added marked
    split at added
    · rename_i both
      rw [List.append_cancel_left_eq, List.cons.injEq] at added
      rw [← added.1] at marked
      obtain ⟨process, child, same⟩ := expected both.1 both.2 marked
      exact ⟨process, attributed.owner process child, same⟩
    · exact absurd added (by simp)
  · intro taken may accepted pending
    rw [if_pos ⟨may, accepted⟩] at taken
    obtain ⟨process, child, last⟩ := attributed.awaited supervised pending
    obtain ⟨other, found, same⟩ := taken _ rfl pending
    cases last.symm.trans found
    exact ⟨process, child, same⟩

theorem newSession_attributed (attributed : Attributed history self) {client : Client} {output : Nat}
    (expected : Expected history self (.newSession client output)) :
    Attributed ((self.newSession client output).2 ++ history) (self.newSession client output).1 := by
  rw [newSession_silent, List.nil_append]
  refine ⟨?_, ?_, attributed.gives⟩
  · rw [newSession_child]
    exact attributed.owner
  · intro session there marked
    rw [newSession_sessions] at there
    split at there
    · rename_i both
      rcases List.mem_append.mp there with old | new
      · exact attributed.marks session old marked
      · cases List.mem_singleton.mp new
        obtain ⟨process, child, same⟩ := expected both.1 both.2 marked
        rw [same]
        exact spawned_mem (attributed.owner process child)
    · exact attributed.marks session there marked

/-! ## Every run -/

theorem handle_attributed {event : Event} (attributed : Attributed history self)
    (supervised : Supervised self.recording) (expected : Expected history self event) :
    Attributed ((self.handle event).2 ++ history) (self.handle event).1 := by
  cases event with
  | command host command => exact runCommand_attributed attributed supervised host command
  | maintain host => exact attributed.attributes (maintainDesktop_attributes self host supervised)
  | windowCommit host handle =>
      have drained := processCommitDrivenCapture_drained self.advanceGeneration host handle
      exact attributed.attributes (drained_attributes self.advanceGeneration rfl rfl drained)
  | pauseSession => exact attributed.attributes (pauseSession_attributes self)
  | lock locker => exact attributed.attributes (requestLock_attributes self locker)
  | repaint host => exact repaint_attributed attributed host
  | boostTick host => exact attributed.attributes (drained_attributes self rfl rfl (captureBoostTick_drained self host))
  | newSession client output => exact newSession_attributed attributed expected
  | frame host session dmabuf valid => exact attributed.attributes (frame_attributes self host session dmabuf valid)
  | _ => exact attributed.attributes (Aside.attributes (handle_aside rfl))

theorem initial_attributed (loaded : Except String Config) : Attributed [] (initial loaded) where
  owner _ owned := by cases owned
  marks _ there := absurd there List.not_mem_nil
  gives _ _ _ there := absurd there List.not_mem_nil

theorem Execution.attributed (run : Execution Expected history self) : Attributed history self := by
  refine Execution.invariant Attributed initial_attributed ?_ run
  intro history self event before expected attributed
  have reachable : Reachable self := ⟨history, before.mono fun _ _ _ _ => trivial⟩
  exact handle_attributed attributed (reachable_supervised reachable) expected

/-- In every run in which no session is accepted in place of the awaited one, the mark is on sessions of engines that
a start command spawned, they alone are given a window or a region, and the condition goes on being exactly that the
next session that takes the mark is that of the engine spawned last. -/
theorem recorder_sessions_spawned (run : Execution Expected history self) :
    MarksSpawned history self ∧ GivesSpawned history ∧ ∀ client output,
      Expected history self (.newSession client output) ↔ TakenBySpawned history self client output := by
  have attributed := run.attributed
  have reachable : Reachable self := ⟨history, run.mono fun _ _ _ _ => trivial⟩
  exact ⟨attributed.marks, attributed.gives, expected_iff attributed (reachable_supervised reachable)⟩

/-- The engine of a window recording is the next client to ask for a session. -/
def engineConnects : List Event := windowRecording ++ [.newSession (.engine 0) 0, .frame {} 0 true true]

theorem recorder_sessions_spawned_engine :
    let final := Transition.execute step (initial (.error "no configuration")) engineConnects
    .captureReady 0 (.engine 0) (.window 1) ∈ final.2 ∧ MarksSpawned final.2 final.1 ∧ GivesSpawned final.2 := by
  have permits : Transition.Permits step Expected [] (initial (.error "no configuration")) engineConnects := by
    refine ⟨trivial, trivial, trivial, trivial, trivial, fun _ _ _ => ⟨0, ?_, rfl⟩, trivial, trivial⟩
    decide
  have run := Transition.Run.execute engineConnects
    (.start ⟨_, rfl⟩ : Execution Expected [] (initial (.error "no configuration"))) permits
  rw [List.append_nil] at run
  obtain ⟨marks, gives, -⟩ := recorder_sessions_spawned run
  exact ⟨by decide, marks, gives⟩

/-- Another client asks for a session before the engine of a window recording does. -/
def otherConnects : List Event := windowRecording ++ [.newSession (.other 5) 0, .frame {} 0 true true]

/-- That client has the recorder's session, and is given the recorded window. -/
theorem other_takes_mark :
    let final := Transition.execute step (initial (.error "no configuration")) otherConnects
    Execution Transition.unrestricted final.2 final.1 ∧ .captureReady 0 (.other 5) (.window 1) ∈ final.2 ∧
      ¬MarksSpawned final.2 final.1 := by
  have run := Transition.Run.execute otherConnects
    (.start ⟨_, rfl⟩ : Execution Transition.unrestricted [] (initial (.error "no configuration")))
    (Transition.permits_unrestricted _ _ _ _)
  rw [List.append_nil] at run
  refine ⟨run, by decide, fun owned => ?_⟩
  have marked :
      { id := 0, client := .other 5, output := 0, recorder := true, hasCaptured := true, lastGeneration := 1 } ∈
      (Transition.execute step (initial (.error "no configuration")) otherConnects).1.capture.sessions := by decide
  obtain ⟨process, source, same, -⟩ := owned _ marked rfl
  cases same

end AnvilState

end Luma.Compositor
