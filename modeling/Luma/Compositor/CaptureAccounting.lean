import Mathlib.Data.List.Nodup
import Mathlib.Data.List.Perm.Subperm
import Luma.Compositor.CaptureLocking

/-! Every request of a capture session is answered once.

A request waits in the queue once or has been let go once: by a success, by a
failure, or by dropping its frame. The protocol library turns these calls, and
the drop of a session, into what the client is sent. It is not part of the
repository; what it does with the calls on a frame is a parameter here.
-/

set_option autoImplicit false

namespace Luma.Compositor

open Luma.Library Luma.Library.Transition

/-- What a frame of the protocol library goes through. -/
inductive FrameCall where
  | success
  | fail
  /-- The frame itself is dropped. -/
  | drop
  /-- Its session is dropped. -/
  | stop
  deriving DecidableEq, Repr

inductive FrameOutcome where
  | ready
  | failed
  deriving DecidableEq, Repr

/-- What the client is sent for the calls on a frame: the first one decides, and
a frame that is dropped or stopped fails. -/
structure AnswersOnce (sent : List FrameCall → List FrameOutcome) : Prop where
  untouched : sent [] = []
  success : ∀ later, sent (.success :: later) = [.ready]
  fail : ∀ later, sent (.fail :: later) = [.failed]
  drop : ∀ later, sent (.drop :: later) = [.failed]
  stop : ∀ later, sent (.stop :: later) = [.failed]

theorem AnswersOnce.once {sent : List FrameCall → List FrameOutcome} (library : AnswersOnce sent)
    {calls : List FrameCall} (called : calls ≠ []) : (sent calls).length = 1 := by
  cases calls with
  | nil => exact absurd rfl called
  | cons call later =>
    cases call with
    | success => rw [library.success]; rfl
    | fail => rw [library.fail]; rfl
    | drop => rw [library.drop]; rfl
    | stop => rw [library.stop]; rfl

namespace AnvilState

/-- The request that an observation lets go. -/
def ended : Observation → Option Nat
  | .captureReady frame _ _ | .captureFailed frame | .captureWithdrawn frame => some frame
  | _ => none

def callOn (frame : Nat) : Observation → Option FrameCall
  | .captureReady other _ _ => if other = frame then some .success else none
  | .captureFailed other => if other = frame then some .fail else none
  | .captureWithdrawn other => if other = frame then some .drop else none
  | _ => none

def waiting (self : AnvilState) : List Nat := self.capture.pending.map (·.frame.id)

/-- The session of a request has not been dropped. -/
def live (self : AnvilState) (request : PendingCaptureFrame) : Bool :=
  self.capture.sessions.any fun session => session.id == request.session && session.owned

/-- The step from one state to the other drops the session of a frame that waits. -/
def stops (before after : AnvilState) (frame : Nat) : Bool :=
  before.capture.pending.any fun request => request.frame.id == frame && before.live request && !after.live request

/-- The calls on each frame so far, oldest first. -/
abbrev Ledger := Nat → List FrameCall

/-- Sessions are dropped before the frames of the queue are let go. -/
def record (ledger : Ledger) (before after : AnvilState) (seen : List Observation) : Ledger := fun frame =>
  ledger frame ++ (if stops before after frame then [.stop] else []) ++ chronicle (callOn frame) seen

/-- The compositor together with the calls it makes on frames. -/
def recordedStep : Step (AnvilState × Ledger) Event Observation := fun state event =>
  let next := step state.1 event
  ((next.1, record state.2 state.1 next.1 next.2), next.2)

abbrev Recorded (history : List Observation) (state : AnvilState × Ledger) : Prop :=
  Run recordedStep unrestricted (fun state => Started state.1 ∧ state.2 = fun _ => []) history state

structure Accounts (sent : List FrameCall → List FrameOutcome) (history : List Observation) (state : AnvilState)
    (ledger : Ledger) : Prop where
  bounded : state.capture.pending.length ≤ 32
  /-- A request waits once, or has been let go once. -/
  either : ∀ frame < state.nextCapture, (waiting state).count frame + (history.filterMap ended).count frame = 1
  /-- A request that no longer waits has one outcome. -/
  answered : ∀ frame < state.nextCapture, frame ∉ waiting state → (sent (ledger frame)).length = 1
  /-- One that waits in a session not dropped has none yet. -/
  unanswered : ∀ request ∈ state.capture.pending, state.live request = true → sent (ledger request.frame.id) = []
  once : ∀ frame, (sent (ledger frame)).length ≤ 1

/-! ## Counting requests -/

def tally (result : AnvilState × List Observation) (frame : Nat) : Nat :=
  (waiting result.1).count frame + (result.2.filterMap ended).count frame

variable {self before after : AnvilState} {host : Host} {result : AnvilState × List Observation}

theorem waiting_setPending (pending : List PendingCaptureFrame) :
    waiting (self.setPending pending) = pending.map (·.frame.id) := rfl

theorem completeCaptureFrame_ended (session : CaptureSession) (frame : CaptureFrame) :
    (self.completeCaptureFrame host session frame).2.filterMap ended = [frame.id] := by
  rcases completeCaptureFrame_answers self host session frame with ⟨content, ready⟩ | failed
  · rw [ready]
    rfl
  · rw [failed]
    rfl

theorem completeCaptureFrame_waiting (session : CaptureSession) (frame : CaptureFrame) :
    waiting (self.completeCaptureFrame host session frame).1 = waiting self := by
  unfold waiting
  rw [completeCaptureFrame_pending]

/-- One turn of the loop keeps the request or lets it go. -/
theorem processOne_tally (output : Nat) (current : AnvilState × List Observation) (request : PendingCaptureFrame)
    (frame : Nat) :
    tally (processOne host output current request) frame = tally current frame + [request.frame.id].count frame := by
  unfold tally
  rcases processOne_cases host output current request with kept | ⟨session, _, _, _, answered⟩
  · rw [kept, waiting_setPending, List.map_append, List.count_append]
    simp only [List.map_cons, List.map_nil, waiting]
    omega
  · rw [answered, List.filterMap_append, completeCaptureFrame_ended, completeCaptureFrame_waiting, List.count_append]
    omega

theorem foldl_tally (output : Nat) (queue : List PendingCaptureFrame) (current : AnvilState × List Observation)
    (frame : Nat) :
    tally (queue.foldl (processOne host output) current) frame =
      tally current frame + (queue.map (·.frame.id)).count frame := by
  induction queue generalizing current with
  | nil => rfl
  | cons request queue ih =>
    rw [List.foldl_cons, ih, processOne_tally, List.map_cons]
    simp only [List.count_cons, List.count_nil]
    omega

/-- The pass over the queue of one output neither loses nor doubles a request. -/
theorem processPendingCaptureFrames_tally (self : AnvilState) (host : Host) (output frame : Nat) :
    tally (self.processPendingCaptureFrames host output) frame = (waiting self).count frame := by
  unfold processPendingCaptureFrames
  rw [foldl_tally]
  simp [tally, waiting, setPending]

/-- What an event does to the queue and to the sessions: nothing is lost or
doubled, and no session comes back. -/
structure Steady (before : AnvilState) (result : AnvilState × List Observation) : Prop where
  nextCapture : result.1.nextCapture = before.nextCapture
  nextSession : result.1.nextSession = before.nextSession
  balanced : ∀ frame, tally result frame = (waiting before).count frame
  queue : ∀ request ∈ result.1.capture.pending, request ∈ before.capture.pending
  sessions : ∀ session ∈ result.1.capture.sessions, ∃ origin ∈ before.capture.sessions, origin.id = session.id ∧
    (session.owned = true → origin.owned = true)

theorem Steady.refl (self : AnvilState) : Steady self (self, []) where
  nextCapture := rfl
  nextSession := rfl
  balanced _ := Nat.add_zero _
  queue _ waits := waits
  sessions session there := ⟨session, there, rfl, id⟩

/-- Events that leave the capture sessions alone. -/
theorem Steady.silent (capture : result.1.capture = self.capture) (nextCapture : result.1.nextCapture = self.nextCapture)
    (nextSession : result.1.nextSession = self.nextSession)
    (quiet : ∀ observation ∈ result.2, ended observation = none) : Steady self result where
  nextCapture := nextCapture
  nextSession := nextSession
  balanced frame := by
    have nothing : result.2.filterMap ended = [] := List.filterMap_eq_nil_iff.mpr quiet
    unfold tally waiting
    rw [capture, nothing]
    rfl
  queue := by
    rw [capture]
    exact fun _ waits => waits
  sessions := by
    rw [capture]
    exact fun session there => ⟨session, there, rfl, id⟩

theorem Steady.trans {first second : AnvilState × List Observation} (one : Steady self first)
    (two : Steady first.1 second) : Steady self (second.1, second.2 ++ first.2) where
  nextCapture := two.nextCapture.trans one.nextCapture
  nextSession := two.nextSession.trans one.nextSession
  balanced frame := by
    have early := one.balanced frame
    have late := two.balanced frame
    unfold tally at early late ⊢
    rw [List.filterMap_append, List.count_append]
    dsimp only
    omega
  queue request waits := one.queue request (two.queue request waits)
  sessions session there := by
    obtain ⟨middle, between, same, owned⟩ := two.sessions session there
    obtain ⟨origin, before, first, kept⟩ := one.sessions middle between
    exact ⟨origin, before, first.trans same, fun holds => kept (owned holds)⟩

/-- Further changes beside the capture sessions. -/
theorem Steady.beside (steady : Steady self result) (capture : after.capture = result.1.capture)
    (nextCapture : after.nextCapture = result.1.nextCapture) (nextSession : after.nextSession = result.1.nextSession) :
    Steady self (after, result.2) := by
  have silent : Steady result.1 (after, []) := Steady.silent capture nextCapture nextSession nofun
  exact steady.trans silent

/-- What came before them. -/
theorem Steady.behind (steady : Steady after result) (capture : after.capture = self.capture)
    (nextCapture : after.nextCapture = self.nextCapture) (nextSession : after.nextSession = self.nextSession) :
    Steady self result := by
  have silent : Steady self (after, []) := Steady.silent capture nextCapture nextSession nofun
  simpa using silent.trans steady

theorem Served.steady (served : Served self.capture.pending self result)
    (balanced : ∀ frame, tally result frame = (waiting self).count frame)
    (queue : ∀ request ∈ result.1.capture.pending, request ∈ self.capture.pending) : Steady self result where
  nextCapture := by rw [served.rest]
  nextSession := by rw [served.rest]
  balanced := balanced
  queue := queue
  sessions session there := by
    obtain ⟨origin, before, same⟩ := served.origin there
    obtain ⟨id, _, _, _, owned⟩ := CaptureSession.unmarked_eq same
    exact ⟨origin, before, id.symm, fun holds => owned ▸ holds⟩

/-! ## Events that answer -/

theorem processPendingCaptureFrames_steady (self : AnvilState) (host : Host) (output : Nat) :
    Steady self (self.processPendingCaptureFrames host output) :=
  (processPendingCaptureFrames_served host output).steady (processPendingCaptureFrames_tally self host output)
    (processPendingCaptureFrames_pending host output)

theorem processOutputs_steady (self : AnvilState) (host : Host) (outputs : List Nat) :
    Steady self (self.processOutputs host outputs) := by
  have general : ∀ current : AnvilState × List Observation, Steady self current →
      Steady self (outputs.foldl (fun current output =>
        ((current.1.processPendingCaptureFrames host output).1,
          (current.1.processPendingCaptureFrames host output).2 ++ current.2)) current) := by
    induction outputs with
    | nil => exact fun _ steady => steady
    | cons output outputs ih =>
      intro current steady
      exact ih _ (steady.trans (processPendingCaptureFrames_steady current.1 host output))
  exact general (self, []) (.refl self)

theorem captureBoostTick_steady (self : AnvilState) (host : Host) : Steady self (self.captureBoostTick host) := by
  unfold captureBoostTick
  split
  · exact .refl self
  · split
    · exact .refl self
    · exact processOutputs_steady self host _

/-- Taking the first match out of a list takes out that one element. -/
theorem count_eraseP {α : Type} (test : α → Bool) (key : α → Nat) {value : α} {list : List α}
    (found : list.find? test = some value) (frame : Nat) :
    ((list.eraseP test).map key).count frame + [key value].count frame = (list.map key).count frame := by
  induction list with
  | nil => cases found
  | cons head tail ih =>
    by_cases passes : test head
    · rw [List.find?_cons_of_pos passes] at found
      cases found
      rw [List.eraseP_cons_of_pos passes, List.map_cons]
      simp only [List.count_cons, List.count_nil]
      omega
    · rw [List.find?_cons_of_neg passes] at found
      rw [List.eraseP_cons_of_neg passes, List.map_cons, List.map_cons]
      have rest := ih found
      simp only [List.count_cons] at rest ⊢
      omega

theorem processCommitDrivenCapture_steady (self : AnvilState) (host : Host) (window : Nat) :
    Steady self (self.processCommitDrivenCapture host window) := by
  have drained := processCommitDrivenCapture_drained self host window
  refine drained.served.steady (fun frame => ?_) drained.pending
  unfold processCommitDrivenCapture
  split
  · exact Nat.add_zero _
  · rcases self.commitTarget window with - | output
    · exact Nat.add_zero _
    · dsimp only
      split
      · exact Nat.add_zero _
      · rename_i request matched
        rcases self.findSession request.session with - | session
        · exact Nat.add_zero _
        · unfold tally
          rw [completeCaptureFrame_ended, completeCaptureFrame_waiting, waiting_setPending]
          exact count_eraseP _ _ matched frame

/-- A request of the queue is kept or let go, as a test says. -/
theorem count_filter_split {α : Type} (keeps : α → Bool) (key : α → Nat) (list : List α) (frame : Nat) :
    ((list.filter keeps).map key).count frame + ((list.filter fun value => !keeps value).map key).count frame =
      (list.map key).count frame := by
  induction list with
  | nil => rfl
  | cons head tail ih =>
    cases kept : keeps head with
    | false =>
      simp only [List.filter_cons, kept, Bool.false_eq_true, ↓reduceIte, Bool.not_false, List.map_cons, List.count_cons]
      omega
    | true =>
      simp only [List.filter_cons, kept, Bool.not_true, Bool.false_eq_true, ↓reduceIte, List.map_cons, List.count_cons]
      omega

/-- Requests let go with one observation each. -/
theorem filterMap_ended (answer : Nat → Observation) (ends : ∀ frame, ended (answer frame) = some frame)
    (requests : List PendingCaptureFrame) :
    (requests.map fun request => answer request.frame.id).filterMap ended = requests.map (·.frame.id) := by
  induction requests with
  | nil => rfl
  | cons request requests ih => rw [List.map_cons, List.filterMap_cons_some (ends _), ih, List.map_cons]

theorem refreshCaptureSessions_steady (self : AnvilState) : Steady self self.refreshCaptureSessions where
  nextCapture := rfl
  nextSession := rfl
  balanced frame := by
    have ended := filterMap_ended .captureFailed (fun _ => rfl)
      (self.capture.pending.filter fun request => !self.stillCapturable request)
    unfold tally refreshCaptureSessions
    rw [ended]
    exact count_filter_split self.stillCapturable (·.frame.id) self.capture.pending frame
  queue request waits := List.mem_of_mem_filter waits
  sessions session there := by
    obtain ⟨origin, before, rfl⟩ := List.mem_map.mp there
    exact ⟨origin, before, rfl, fun owned => (Bool.and_eq_true_iff.mp owned).1⟩

theorem maintainDesktop_steady (self : AnvilState) (host : Host) : Steady self (self.maintainDesktop host) := by
  have prepared := (prepare_prepared self host).rest
  rw [maintainDesktop_eq]
  apply (refreshCaptureSessions_steady (self.prepare host)).behind
  · rw [prepared]
  · rw [prepared]
  · rw [prepared]

theorem runCommand_steady (self : AnvilState) (host : Host) (command : String) :
    Steady self (self.runCommand host command) := by
  have commanded : Steady self
      ((self.desktopCommand host command).state, (self.desktopCommand host command).observations) := by
    have effect := desktopCommand_effect self host command
    generalize self.desktopCommand host command = outcome at effect
    cases effect with
    | refused => exact .refl self
    | attempted =>
      obtain ⟨state, seen⟩ := settleRecording_rest self _
      apply Steady.silent
      · rw [state]
      · rw [state]
      · rw [state]
      · rw [seen]
        intro observation there
        obtain ⟨source, rfl⟩ := attempt_observations _ _ _ _ _ observation there
        rfl
    | stopped | paused =>
      obtain ⟨state, seen⟩ := settleRecording_rest self _
      apply Steady.silent
      · rw [state]
      · rw [state]
      · rw [state]
      · rw [seen]
        exact nofun
    | beside _ kept =>
      apply Steady.silent
      · rw [kept.rest]
      · rw [kept.rest]
      · rw [kept.rest]
      · exact nofun
    | @maintained reply desktop after _ _ _ kept =>
      have maintained : Steady self ((self.setDesktop desktop).maintainDesktop host) :=
        (maintainDesktop_steady (self.setDesktop desktop) host).behind rfl rfl rfl
      apply maintained.beside
      · rw [kept.rest]
      · rw [kept.rest]
      · rw [kept.rest]
  exact commanded.beside rfl rfl rfl

theorem performCopy_unended (self : AnvilState) (host : Host) (frame : ScreencopyFrame) :
    ∀ observation ∈ self.performCopy host frame, ended observation = none := by
  rcases performCopy_cases self host frame with failed | withdrawn | ⟨ready, _⟩
  · simp [failed, ended]
  · simp [withdrawn, ended]
  · simp [ready, ended]

theorem repaint_steady (self : AnvilState) (host : Host) : Steady self (self.repaint host) := by
  unfold repaint
  split
  · exact .refl self
  · have painted := painted_rest self host
    have served := processOutputs_steady (self.painted host) host ((self.painted host).space.outputs.map (·.serial))
    have copied : Steady self (self.painted host,
        ((self.setDesktop { self.desktop with redraw := false }).processScreencopies host).2) := by
      constructor
      · rw [painted]
      · rw [painted]
      · intro frame
        have quiet : ∀ observation ∈
            ((self.setDesktop { self.desktop with redraw := false }).processScreencopies host).2,
            ended observation = none := by
          exact processScreencopies_forall fun state _ _ => performCopy_unended state host
        have nothing := List.filterMap_eq_nil_iff.mpr quiet
        unfold tally waiting
        rw [nothing, painted]
        rfl
      · rw [painted]
        exact fun _ waits => waits
      · rw [painted]
        exact fun session there => ⟨session, there, rfl, id⟩
    exact copied.trans served

/-! ## Events of a session -/

theorem sessionDestroyed_steady (self : AnvilState) (session : Nat) : Steady self (self.sessionDestroyed session) where
  nextCapture := rfl
  nextSession := rfl
  balanced frame := by
    have ended := filterMap_ended .captureWithdrawn (fun _ => rfl)
      (self.capture.pending.filter (·.session == session))
    have split := count_filter_split (fun request : PendingCaptureFrame => request.session != session) (·.frame.id)
      self.capture.pending frame
    simp only [bne, Bool.not_not] at split
    unfold tally sessionDestroyed
    rw [ended]
    exact split
  queue request waits := List.mem_of_mem_filter waits
  sessions other there := ⟨other, List.mem_of_mem_filter there, rfl, id⟩

theorem frameAborted_steady (self : AnvilState) (aborted : Nat) : Steady self (self.frameAborted aborted) where
  nextCapture := rfl
  nextSession := rfl
  balanced frame := by
    have ended := filterMap_ended .captureWithdrawn (fun _ => rfl)
      (self.capture.pending.filter (·.frame.id == aborted))
    have split := count_filter_split (fun request : PendingCaptureFrame => request.frame.id != aborted) (·.frame.id)
      self.capture.pending frame
    simp only [bne, Bool.not_not] at split
    unfold tally frameAborted
    rw [ended]
    exact split
  queue request waits := List.mem_of_mem_filter waits
  sessions session there := ⟨session, there, rfl, id⟩

theorem requestLock_steady (self : AnvilState) (locker : Nat) : Steady self (self.requestLock locker) := by
  unfold requestLock
  split
  · exact .refl self
  · constructor
    · rfl
    · rfl
    · intro frame
      exact Nat.add_zero _
    · exact fun _ waits => waits
    · intro session there
      obtain ⟨origin, before, rfl⟩ := List.mem_map.mp there
      exact ⟨origin, before, rfl, nofun⟩

theorem requestCopy_steady (self : AnvilState) (host : Host) (frame buffer : Nat) (withDamage : Bool) :
    Steady self (self.requestCopy host frame buffer withDamage) := by
  apply Steady.silent
  · rw [requestCopy_rest]
    rfl
  · rw [requestCopy_rest]
    rfl
  · rw [requestCopy_rest]
    rfl
  · exact requestCopy_forall buffer withDamage rfl rfl fun state _ _ => performCopy_unended state host

theorem createFrame_steady (self : AnvilState) (manager output : Nat) (region : Option Core.Rect) :
    Steady self (self.createFrame manager output region) := by
  unfold createFrame
  dsimp only
  split
  · exact .silent rfl rfl rfl (by simp [ended])
  · exact .silent rfl rfl rfl nofun

/-- Events of the lock, the seat and the display. -/
theorem handle_steady_beside {event : Event} (other : queueEvent event = false) : Steady self (self.handle event) := by
  cases event with
  | command | maintain | windowCommit | lock | newSession | sessionDestroyed | frame | frameAborted | repaint
  | boostTick | captureOutput | copy | screencopyDestroyed => cases other
  | seat | requestRedraw | windowChanged | windowUnmapped | windowDied | refreshSpace | disconnectOutput
  | changeOutput | pauseSession | activateSession | dropFrame => exact .silent rfl rfl rfl (List.forall_mem_nil _)
  | unlock => exact .silent rfl rfl rfl (by simp [handle, unlock, ended])
  | windowCreated element =>
    show Steady self (self.windowCreated element, [])
    unfold windowCreated
    split <;> exact .silent rfl rfl rfl (List.forall_mem_nil _)
  | windowMapped handle =>
    show Steady self (self.windowMapped handle, [])
    unfold windowMapped
    split <;> exact .silent rfl rfl rfl (List.forall_mem_nil _)
  | connectOutput name mode geometry =>
    show Steady self (self.connectOutput name mode geometry, [])
    unfold connectOutput
    split <;> exact .silent rfl rfl rfl (List.forall_mem_nil _)
  | lockSurface output =>
    show Steady self (self.newLockSurface output, [])
    unfold newLockSurface
    split <;> exact .silent rfl rfl rfl (List.forall_mem_nil _)
  | queueFrame output =>
    show Steady self (self.queueFrame output)
    unfold queueFrame
    split
    · exact .refl self
    · exact .silent rfl rfl rfl (by simp [ended])
  | frameFinish frame =>
    show Steady self (self.frameFinish frame)
    unfold frameFinish
    split
    · exact .refl self
    · split
      · exact .silent rfl rfl rfl (by simp [ended])
      · exact .silent rfl rfl rfl (by simp [ended])
  | idle =>
    show Steady self self.runIdle
    rcases runIdle_cases self with ⟨-, nothing⟩ | ⟨frame, idles, -, ⟨-, taken⟩ | ⟨generation, -, presented⟩⟩
    · rw [nothing]
      exact .refl self
    · rw [taken]
      exact .silent rfl rfl rfl (List.forall_mem_nil _)
    · rw [presented]
      set marked := self.setPresentation { self.presentation with idles }
      have counted := (countPresented_rest marked frame generation).1
      rcases lockPresented_cases marked frame generation with nothing | ⟨-, -, counts | ⟨-, confirms⟩⟩
      · rw [nothing]
        exact .silent rfl rfl rfl (List.forall_mem_nil _)
      · rw [counts, counted]
        exact .silent rfl rfl rfl (List.forall_mem_nil _)
      · rw [confirms, counted]
        exact .silent rfl rfl rfl (by simp [ended])

/-! ## One event -/

/-- What any event does to the requests: new ones are numbered in turn and
either join the queue or are let go at once. -/
structure Books (before : AnvilState) (result : AnvilState × List Observation) : Prop where
  nextCapture : before.nextCapture ≤ result.1.nextCapture
  nextSession : before.nextSession ≤ result.1.nextSession
  balanced : ∀ frame, tally result frame =
    (waiting before).count frame + if before.nextCapture ≤ frame ∧ frame < result.1.nextCapture then 1 else 0
  bounded : before.capture.pending.length ≤ 32 → result.1.capture.pending.length ≤ 32
  queue : ∀ request ∈ result.1.capture.pending, request ∈ before.capture.pending ∨
    before.nextCapture ≤ request.frame.id ∧ ∃ session ∈ before.capture.sessions, session.id = request.session
  sessions : ∀ session ∈ result.1.capture.sessions,
    (∃ origin ∈ before.capture.sessions, origin.id = session.id ∧ (session.owned = true → origin.owned = true)) ∨
      session.id = before.nextSession ∧ before.nextSession < result.1.nextSession

theorem Steady.books (steady : Steady self result) : Books self result where
  nextCapture := Nat.le_of_eq steady.nextCapture.symm
  nextSession := Nat.le_of_eq steady.nextSession.symm
  balanced frame := by
    have nothing : ¬(self.nextCapture ≤ frame ∧ frame < result.1.nextCapture) := by
      rw [steady.nextCapture]
      omega
    rw [if_neg nothing]
    exact steady.balanced frame
  bounded := by
    have part : (waiting result.1).Subperm (waiting self) := by
      apply List.subperm_ext_iff.mpr
      intro frame _
      exact Nat.le_trans (Nat.le_add_right _ _) (Nat.le_of_eq (steady.balanced frame))
    have shorter := part.length_le
    unfold waiting at shorter
    rw [List.length_map, List.length_map] at shorter
    omega
  queue request waits := .inl (steady.queue request waits)
  sessions session there := .inl (steady.sessions session there)

theorem count_new (next frame : Nat) : [next].count frame = if next ≤ frame ∧ frame < next + 1 then 1 else 0 := by
  by_cases same : next = frame
  · simp [same]
  · have outside : ¬(next ≤ frame ∧ frame < next + 1) := by omega
    rw [if_neg outside, List.count_eq_zero]
    simpa using fun equal => same equal.symm

theorem frame_books (self : AnvilState) (host : Host) (session : Nat) (dmabuf valid : Bool) :
    Books self (self.frame host session dmabuf valid) := by
  unfold frame
  rcases named : self.findSession session with - | found
  · exact (Steady.refl self).books
  · obtain ⟨member, names⟩ := findSession_some named
    set counted := { self with nextCapture := self.nextCapture + 1 }
    dsimp only
    split
    · rename_i captured
      split
      · -- The queue is full.
        refine ⟨Nat.le_succ _, Nat.le_refl _, fun frame => ?_, id, fun _ waits => .inl waits,
          fun other there => .inl ⟨other, there, rfl, id⟩⟩
        rw [← count_new]
        rfl
      · rename_i space
        refine ⟨Nat.le_succ _, Nat.le_refl _, fun frame => ?_, fun _ => ?_, fun request waits => ?_,
          fun other there => .inl ⟨other, there, rfl, id⟩⟩
        · unfold tally
          rw [waiting_setPending, List.map_append, List.count_append]
          exact congrArg _ (count_new _ _)
        · rw [Nat.not_le] at space
          simp only [setPending, List.length_append, List.length_singleton]
          exact space
        · rcases List.mem_append.mp waits with old | new
          · exact .inl old
          · obtain rfl := List.mem_singleton.mp new
            exact .inr ⟨Nat.le_refl _, found, member, names⟩
    · -- The first request of a session is answered at once.
      have served := completeCaptureFrame_served counted host
        (⟨found.id, { id := self.nextCapture, dmabuf, valid }⟩ : PendingCaptureFrame) member rfl
      have waits : (counted.completeCaptureFrame host found { id := self.nextCapture, dmabuf, valid }).1.capture.pending =
          counted.capture.pending := completeCaptureFrame_pending host found _
      have fields := served.rest
      refine ⟨?_, ?_, fun frame => ?_, ?_, ?_, fun other there => ?_⟩
      · rw [fields]
        exact Nat.le_succ _
      · apply Nat.le_of_eq
        rw [fields]
      · unfold tally
        rw [completeCaptureFrame_ended, completeCaptureFrame_waiting, fields]
        exact congrArg _ (count_new _ _)
      · rw [waits]
        exact id
      · rw [waits]
        exact fun _ there => .inl there
      · obtain ⟨origin, before, same⟩ := served.origin there
        obtain ⟨id, _, _, _, owned⟩ := CaptureSession.unmarked_eq same
        exact .inl ⟨origin, before, id.symm, fun holds => owned ▸ holds⟩

theorem newSession_books (self : AnvilState) (client : Client) (output : Nat) :
    Books self (self.newSession client output) := by
  have kept (session : CaptureSession) (there : session ∈ self.capture.sessions) :
      ∃ origin ∈ self.capture.sessions, origin.id = session.id ∧ (session.owned = true → origin.owned = true) :=
    ⟨session, there, rfl, id⟩
  have nothing (frame : Nat) : ¬(self.nextCapture ≤ frame ∧ frame < self.nextCapture) := by omega
  unfold newSession
  split
  · exact (Steady.refl self).books
  · dsimp only
    split
    · refine ⟨Nat.le_refl _, Nat.le_succ _, fun frame => ?_, id, fun _ waits => .inl waits, fun session there => ?_⟩
      · exact (if_neg (nothing frame)).symm ▸ rfl
      · rcases List.mem_append.mp there with old | new
        · exact .inl (kept session old)
        · obtain rfl := List.mem_singleton.mp new
          exact .inr ⟨rfl, Nat.lt_succ_self _⟩
    · refine ⟨Nat.le_refl _, Nat.le_succ _, fun frame => ?_, id, fun _ waits => .inl waits,
        fun session there => .inl (kept session there)⟩
      exact (if_neg (nothing frame)).symm ▸ rfl

theorem handle_books (self : AnvilState) (event : Event) : Books self (self.handle event) := by
  cases event with
  | frame host session dmabuf valid => exact frame_books self host session dmabuf valid
  | newSession client output => exact newSession_books self client output
  | command host command => exact (runCommand_steady self host command).books
  | maintain host => exact (maintainDesktop_steady self host).books
  | windowCommit host handle =>
    have committed := processCommitDrivenCapture_steady self.advanceGeneration host handle
    exact Books.mk committed.books.nextCapture committed.books.nextSession committed.books.balanced
      committed.books.bounded committed.books.queue committed.books.sessions
  | repaint host => exact (repaint_steady self host).books
  | boostTick host => exact (captureBoostTick_steady self host).books
  | lock locker => exact (requestLock_steady self locker).books
  | sessionDestroyed session => exact (sessionDestroyed_steady self session).books
  | frameAborted frame => exact (frameAborted_steady self frame).books
  | captureOutput manager output region => exact (createFrame_steady self manager output region).books
  | copy host frame buffer withDamage => exact (requestCopy_steady self host frame buffer withDamage).books
  | screencopyDestroyed frame =>
    have destroyed : Steady self (self.destroyScreencopy frame) :=
      .silent rfl rfl rfl (by simp [destroyScreencopy, ended])
    exact destroyed.books
  | _ => exact (handle_steady_beside rfl).books

/-! ## Every run -/

theorem callOn_eq_none {frame : Nat} {observation : Observation} :
    callOn frame observation = none ↔ ended observation ≠ some frame := by
  cases observation <;> simp [callOn, ended]

theorem chronicle_callOn {frame : Nat} {seen : List Observation} :
    chronicle (callOn frame) seen = [] ↔ (seen.filterMap ended).count frame = 0 := by
  unfold chronicle
  rw [List.reverse_eq_nil_iff, List.filterMap_eq_nil_iff, List.count_eq_zero, List.mem_filterMap]
  constructor
  · rintro none ⟨observation, there, ends⟩
    exact callOn_eq_none.mp (none observation there) ends
  · intro none observation there
    exact callOn_eq_none.mpr fun ends => none ⟨observation, there, ends⟩

structure Booked (history : List Observation) (state : AnvilState) (ledger : Ledger) : Prop where
  counted : ∀ frame, (waiting state).count frame + (history.filterMap ended).count frame =
    if frame < state.nextCapture then 1 else 0
  bounded : state.capture.pending.length ≤ 32
  known : ∀ request ∈ state.capture.pending, request.session < state.nextSession
  sessions : ∀ session ∈ state.capture.sessions, session.id < state.nextSession
  untouched : ∀ request ∈ state.capture.pending, state.live request = true → ledger request.frame.id = []
  called : ∀ frame, 0 < (history.filterMap ended).count frame → ledger frame ≠ []
  ahead : ∀ frame, state.nextCapture ≤ frame → ledger frame = []

theorem initial_booked (loaded : Except String Core.Config) : Booked [] (initial loaded) fun _ => [] where
  counted _ := rfl
  bounded := Nat.zero_le _
  known := nofun
  sessions := nofun
  untouched := nofun
  called _ no := absurd no (Nat.lt_irrefl _)
  ahead _ _ := rfl

variable {history : List Observation} {ledger : Ledger}

/-- No two requests of the queue are of one frame. -/
theorem Booked.unique (booked : Booked history self ledger) {request other : PendingCaptureFrame}
    (waits : request ∈ self.capture.pending) (also : other ∈ self.capture.pending)
    (same : request.frame.id = other.frame.id) : request = other := by
  have distinct : (waiting self).Nodup := by
    apply List.nodup_iff_count_le_one.mpr
    intro frame
    have counted := booked.counted frame
    split at counted
    · omega
    · omega
  exact List.inj_on_of_nodup_map distinct waits also same

theorem mem_of_stops {frame : Nat} (stopped : stops self after frame = true) :
    ∃ request ∈ self.capture.pending, request.frame.id = frame ∧ after.live request = false := by
  obtain ⟨request, waits, holds⟩ := List.any_eq_true.mp stopped
  simp only [Bool.and_eq_true, beq_iff_eq, Bool.not_eq_true'] at holds
  exact ⟨request, waits, holds.1.1, holds.2⟩

/-- A frame that is not made yet does not wait. -/
theorem Booked.unstopped (booked : Booked history self ledger) {frame : Nat} (new : self.nextCapture ≤ frame) :
    stops self after frame = false := by
  have counted := booked.counted frame
  rw [if_neg (by omega)] at counted
  apply Bool.eq_false_iff.mpr
  intro stopped
  obtain ⟨request, waits, rfl, _⟩ := mem_of_stops stopped
  have there : 0 < (waiting self).count request.frame.id := List.count_pos_iff.mpr (List.mem_map_of_mem waits)
  omega

/-- A frame is in the queue or answered by an event at most once. -/
theorem Booked.single (booked : Booked history self ledger) (books : Books self result) (frame : Nat) :
    tally result frame ≤ 1 := by
  have counted := booked.counted frame
  have balanced := books.balanced frame
  split at counted
  · rename_i early
    rw [if_neg (by omega)] at balanced
    omega
  · split at balanced <;> omega

theorem Booked.counted_step (booked : Booked history self ledger) (books : Books self result) (frame : Nat) :
    (waiting result.1).count frame + ((result.2 ++ history).filterMap ended).count frame =
      if frame < result.1.nextCapture then 1 else 0 := by
  have counted := booked.counted frame
  have balanced := books.balanced frame
  have further := books.nextCapture
  unfold tally at balanced
  rw [List.filterMap_append, List.count_append]
  by_cases early : frame < self.nextCapture
  · rw [if_pos early] at counted
    rw [if_neg (by omega)] at balanced
    rw [if_pos (by omega)]
    omega
  · rw [if_neg early] at counted
    by_cases fresh : frame < result.1.nextCapture
    · rw [if_pos (by omega)] at balanced
      rw [if_pos fresh]
      omega
    · rw [if_neg (by omega)] at balanced
      rw [if_neg fresh]
      omega

/-- A request that waits in a session that was not dropped has not been called on:
its session was there before, for sessions do not come back. -/
theorem Booked.untouched_step (booked : Booked history self ledger) (books : Books self result)
    {request : PendingCaptureFrame} (waits : request ∈ result.1.capture.pending)
    (alive : result.1.live request = true) :
    ledger request.frame.id = [] ∧ stops self result.1 request.frame.id = false := by
  rcases books.queue request waits with old | ⟨new, _⟩
  · constructor
    · apply booked.untouched request old
      obtain ⟨session, there, holds⟩ := List.any_eq_true.mp alive
      obtain ⟨named, owned⟩ := Bool.and_eq_true_iff.mp holds
      rcases books.sessions session there with ⟨origin, before, same, kept⟩ | ⟨same, _⟩
      · exact List.any_eq_true.mpr ⟨origin, before, by rw [same, named, kept owned]; rfl⟩
      · have known := booked.known request old
        rw [beq_iff_eq] at named
        omega
    · apply Bool.eq_false_iff.mpr
      intro stopped
      obtain ⟨other, also, same, dropped⟩ := mem_of_stops stopped
      rw [booked.unique also old same, alive] at dropped
      cases dropped
  · exact ⟨booked.ahead _ new, booked.unstopped new⟩

theorem Booked.step (booked : Booked history self ledger) (books : Books self result) :
    Booked (result.2 ++ history) result.1 (record ledger self result.1 result.2) := by
  constructor
  · exact booked.counted_step books
  · exact books.bounded booked.bounded
  · intro request waits
    rcases books.queue request waits with old | ⟨_, session, there, same⟩
    · exact Nat.lt_of_lt_of_le (booked.known request old) books.nextSession
    · exact same ▸ Nat.lt_of_lt_of_le (booked.sessions session there) books.nextSession
  · intro session there
    rcases books.sessions session there with ⟨origin, before, same, _⟩ | ⟨same, later⟩
    · exact same ▸ Nat.lt_of_lt_of_le (booked.sessions origin before) books.nextSession
    · exact same ▸ later
  · intro request waits alive
    have present : 0 < (waiting result.1).count request.frame.id := List.count_pos_iff.mpr (List.mem_map_of_mem waits)
    have quiet : chronicle (callOn request.frame.id) result.2 = [] := by
      have once := booked.single books request.frame.id
      unfold tally at once
      rw [chronicle_callOn]
      omega
    obtain ⟨uncalled, unstopped⟩ := booked.untouched_step books waits alive
    unfold record
    rw [uncalled, unstopped, quiet]
    rfl
  · intro frame ends called
    unfold record at called
    rw [List.append_eq_nil_iff, List.append_eq_nil_iff] at called
    rw [List.filterMap_append, List.count_append] at ends
    have silent := chronicle_callOn.mp called.2
    exact booked.called frame (by omega) called.1.1
  · intro frame beyond
    have new : self.nextCapture ≤ frame := Nat.le_trans books.nextCapture beyond
    have counted := booked.counted_step books frame
    rw [if_neg (by omega), List.filterMap_append, List.count_append] at counted
    have quiet : chronicle (callOn frame) result.2 = [] := by
      rw [chronicle_callOn]
      omega
    unfold record
    rw [booked.ahead frame new, booked.unstopped new, quiet]
    rfl

theorem Booked.of_run {state : AnvilState × Ledger} (run : Recorded history state) :
    Booked history state.1 state.2 := by
  refine @Run.invariant _ _ _ _ _ _ _ _ (fun history state => Booked history state.1 state.2) ?_ ?_ run
  · rintro ⟨self, ledger⟩ ⟨⟨loaded, begun⟩, empty⟩
    dsimp only at begun empty ⊢
    rw [begun, empty]
    exact initial_booked loaded
  · intro history state event _ _ booked
    dsimp only [recordedStep]
    rcases step_cases state.1 event with same | handled
    · rw [same]
      exact booked.step (Steady.refl state.1).books
    · rw [handled]
      exact booked.step (handle_books state.1 event)

/-- In every run: the queue holds at most 32 requests; every request accepted
waits in it once or has been let go once, and then its client has been sent one
outcome; and the pass over the queue permutes what waits into what waits still
and what it let go. -/
theorem captures_accounted {sent : List FrameCall → List FrameOutcome} (library : AnswersOnce sent) :
    (∀ {history : List Observation} {self : AnvilState} {ledger : Ledger}, Recorded history (self, ledger) →
      Accounts sent history self ledger) ∧
    ∀ (self : AnvilState) (host : Host) (output : Nat),
      (waiting (self.processPendingCaptureFrames host output).1 ++
        (self.processPendingCaptureFrames host output).2.filterMap ended).Perm (waiting self) := by
  constructor
  · intro history self ledger run
    have booked := Booked.of_run run
    dsimp only at booked
    constructor
    · exact booked.bounded
    · intro frame accepted
      have counted := booked.counted frame
      rwa [if_pos accepted] at counted
    · intro frame accepted gone
      have counted := booked.counted frame
      rw [if_pos accepted, List.count_eq_zero.mpr gone] at counted
      exact library.once (booked.called frame (by omega))
    · intro request waits alive
      rw [booked.untouched request waits alive, library.untouched]
    · intro frame
      by_cases called : ledger frame = []
      · rw [called, library.untouched]
        exact Nat.zero_le _
      · exact Nat.le_of_eq (library.once called)
  · intro self host output
    apply List.perm_iff_count.mpr
    intro frame
    rw [List.count_append]
    exact processPendingCaptureFrames_tally self host output frame

/-- A frame that takes the first call on it. -/
def firstOutcome : List FrameCall → List FrameOutcome
  | [] => []
  | .success :: _ => [.ready]
  | _ :: _ => [.failed]

theorem firstOutcome_answersOnce : AnswersOnce firstOutcome where
  untouched := rfl
  success _ := rfl
  fail _ := rfl
  drop _ := rfl
  stop _ := rfl

/-- The second request waits when the session locks; the lock stops it, and the
pass that follows lets it go. -/
def lockedCapture : (AnvilState × Ledger) × List Observation :=
  execute recordedStep (initial (.error "no configuration"), fun _ => []) (waitingCapture ++ [.lock 1, .maintain {}])

theorem captures_accounted_lockedCapture :
    Accounts firstOutcome lockedCapture.2 lockedCapture.1.1 lockedCapture.1.2 ∧
      lockedCapture.1.2 0 = [.success] ∧ lockedCapture.1.2 1 = [.stop, .fail] := by
  have begun : Recorded [] (initial (.error "no configuration"), fun _ => []) := .start ⟨⟨_, rfl⟩, rfl⟩
  have run := begun.execute (waitingCapture ++ [.lock 1, .maintain {}]) (permits_unrestricted _ _ _ _)
  rw [List.append_nil] at run
  exact ⟨(captures_accounted firstOutcome_answersOnce).1 run, by decide +kernel, by decide +kernel⟩

end AnvilState

end Luma.Compositor
