import Luma.Compositor.System

/-! What answering capture requests can do.

Serving changes the marks of the sessions, the queue of requests and the
recorder's sampling window. Everything an answer depends on stays the same, so
every answer of a whole repaint is an answer of the state it began in.
-/

set_option autoImplicit false

namespace Luma.Compositor

open Luma.Library

/-- A session without the marks of the frames it was given. -/
def CaptureSession.unmarked (session : CaptureSession) : CaptureSession :=
  { session with hasCaptured := false, lastGeneration := 0 }

theorem CaptureSession.unmarked_eq {session other : CaptureSession} (same : session.unmarked = other.unmarked) :
    session.id = other.id ∧ session.client = other.client ∧ session.output = other.output ∧
      session.recorder = other.recorder ∧ session.owned = other.owned := by
  simpa [unmarked] using same

/-- Only the sampling window of the recorder moved. -/
def Sampled (before after : RecorderController) : Prop :=
  after = { before with sampleStarted := after.sampleStarted, sampleFrames := after.sampleFrames }

theorem Sampled.refl (recorder : RecorderController) : Sampled recorder recorder := rfl

theorem Sampled.trans {first middle last : RecorderController} (one : Sampled first middle)
    (two : Sampled middle last) : Sampled first last := by
  rw [Sampled] at *
  rw [two, one]

theorem sampled_noteSourceFrame (recorder : RecorderController) (now : Nat) :
    Sampled recorder (recorder.noteSourceFrame now) := by
  unfold RecorderController.noteSourceFrame
  split
  · rfl
  · dsimp only
    split <;> rfl

namespace AnvilState

/-- An answer to one of the requests, as the state it is given in determines it. -/
inductive Answer (before : AnvilState) (requests : List PendingCaptureFrame) : Observation → Prop where
  | ready {request : PendingCaptureFrame} {session : CaptureSession} {content : RecorderCaptureSource} :
      request ∈ requests → session ∈ before.capture.sessions → session.id = request.session →
      before.captureContent session request.frame = some content →
      Answer before requests (.captureReady request.frame.id session.client content)
  | failed {request : PendingCaptureFrame} : request ∈ requests →
      Answer before requests (.captureFailed request.frame.id)

/-- The state after some of the requests were answered. -/
structure Served (requests : List PendingCaptureFrame) (before : AnvilState)
    (result : AnvilState × List Observation) : Prop where
  rest : result.1 = { before with recording := result.1.recording, capture := result.1.capture }
  recording : result.1.recording = { before.recording with recorder := result.1.recording.recorder }
  sampled : Sampled before.recording.recorder result.1.recording.recorder
  sessions : result.1.capture.sessions.map (·.unmarked) = before.capture.sessions.map (·.unmarked)
  answers : ∀ observation ∈ result.2, Answer before requests observation

variable {self before after : AnvilState} {requests : List PendingCaptureFrame}
variable {result : AnvilState × List Observation}

theorem captureContent_congr (lock : after.lock = before.lock) (desktop : after.desktop = before.desktop)
    (space : after.space = before.space) (routing : after.recording.routing = before.recording.routing)
    {session other : CaptureSession} (same : session.unmarked = other.unmarked) (frame : CaptureFrame) :
    after.captureContent session frame = before.captureContent other frame := by
  obtain ⟨-, -, output, recorder, -⟩ := CaptureSession.unmarked_eq same
  unfold captureContent captureConstraints findOutput
  rw [lock, desktop, space, routing, output, recorder]

theorem captureConstraints_of_content {session : CaptureSession} {frame : CaptureFrame}
    {content : RecorderCaptureSource} (shows : self.captureContent session frame = some content) :
    self.captureConstraints session.output = true := by
  by_contra none
  rw [Bool.not_eq_true] at none
  unfold captureContent at shows
  rw [none] at shows
  cases shows

theorem Served.refl (requests : List PendingCaptureFrame) (before : AnvilState) :
    Served requests before (before, []) :=
  ⟨rfl, rfl, rfl, rfl, nofun⟩

namespace Served

theorem lock (served : Served requests before result) : result.1.lock = before.lock := by
  rw [served.rest]

theorem desktop (served : Served requests before result) : result.1.desktop = before.desktop := by
  rw [served.rest]

theorem space (served : Served requests before result) : result.1.space = before.space := by
  rw [served.rest]

theorem routing (served : Served requests before result) :
    result.1.recording.routing = before.recording.routing := by
  rw [served.recording]

/-- A session is there before and after, with other marks at most. -/
theorem origin (served : Served requests before result) {session : CaptureSession}
    (found : session ∈ result.1.capture.sessions) :
    ∃ origin ∈ before.capture.sessions, session.unmarked = origin.unmarked := by
  have member : session.unmarked ∈ before.capture.sessions.map (·.unmarked) := by
    rw [← served.sessions]
    exact List.mem_map_of_mem found
  obtain ⟨origin, there, same⟩ := List.mem_map.mp member
  exact ⟨origin, there, same.symm⟩

/-- What answers a request later would have answered it before. -/
theorem answer (served : Served requests before result) {observation : Observation}
    (answered : Answer result.1 requests observation) : Answer before requests observation := by
  cases answered with
  | @ready request session content waits found names shows =>
    obtain ⟨origin, there, same⟩ := served.origin found
    obtain ⟨id, client, -⟩ := CaptureSession.unmarked_eq same
    rw [client]
    refine .ready waits there (id ▸ names) ?_
    rw [← captureContent_congr served.lock served.desktop served.space served.routing same]
    exact shows
  | failed waits => exact .failed waits

theorem trans {first second : AnvilState × List Observation} (one : Served requests before first)
    (two : Served requests first.1 second) : Served requests before (second.1, second.2 ++ first.2) where
  rest := by
    show second.1 = _
    rw [two.rest, one.rest]
  recording := by
    show second.1.recording = _
    rw [two.recording, one.recording]
  sampled := one.sampled.trans two.sampled
  sessions := two.sessions.trans one.sessions
  answers := by
    intro observation seen
    rcases List.mem_append.mp seen with late | early
    · exact one.answer (two.answers observation late)
    · exact one.answers observation early

theorem mono {more : List PendingCaptureFrame} (served : Served requests before result)
    (subset : ∀ request ∈ requests, request ∈ more) : Served more before result where
  rest := served.rest
  recording := served.recording
  sampled := served.sampled
  sessions := served.sessions
  answers := by
    intro observation seen
    cases served.answers observation seen with
    | ready waits found names shows => exact .ready (subset _ waits) found names shows
    | failed waits => exact .failed (subset _ waits)

end Served

/-! ## One request -/

theorem sessions_noteCaptured (host : Host) (session : CaptureSession) :
    (self.noteCaptured host session).capture.sessions.map (·.unmarked) =
      self.capture.sessions.map (·.unmarked) := by
  simp only [noteCaptured, List.map_map]
  apply List.map_congr_left
  intro other _
  simp only [Function.comp]
  split <;> rfl

theorem served_noteCaptured (self : AnvilState) (host : Host) (session : CaptureSession) :
    Served [] self (self.noteCaptured host session, []) where
  rest := rfl
  recording := rfl
  sampled := by
    show Sampled _ (if session.recorder then _ else _)
    split
    · exact sampled_noteSourceFrame _ _
    · exact .refl _
  sessions := sessions_noteCaptured host session
  answers := nofun

theorem completeCaptureFrame_served (self : AnvilState) (host : Host) {session : CaptureSession}
    (request : PendingCaptureFrame) (found : session ∈ self.capture.sessions) (names : session.id = request.session) :
    Served [request] self (self.completeCaptureFrame host session request.frame) := by
  have waits : request ∈ [request] := List.mem_singleton_self request
  have refused : Served [request] self (self, [.captureFailed request.frame.id]) :=
    ⟨rfl, rfl, rfl, rfl, by simpa using Answer.failed waits⟩
  unfold completeCaptureFrame
  rcases shown : self.captureContent session request.frame with - | content
  · exact refused
  · rcases copied : host.copy request.frame.id with error | ⟨⟩
    · exact refused
    · have marked := served_noteCaptured self host session
      refine ⟨marked.rest, marked.recording, marked.sampled, marked.sessions, ?_⟩
      simpa using Answer.ready waits found names shown

theorem completeCaptureFrame_pending (host : Host) (session : CaptureSession) (frame : CaptureFrame) :
    (self.completeCaptureFrame host session frame).1.capture.pending = self.capture.pending := by
  unfold completeCaptureFrame
  rcases self.captureContent session frame with - | content
  · rfl
  · rcases host.copy frame.id with error | ⟨⟩ <;> rfl

/-- Whatever happens, the request has an answer. -/
theorem completeCaptureFrame_answers (self : AnvilState) (host : Host) (session : CaptureSession) (frame : CaptureFrame) :
    (∃ content, (self.completeCaptureFrame host session frame).2 = [.captureReady frame.id session.client content]) ∨
      (self.completeCaptureFrame host session frame).2 = [.captureFailed frame.id] := by
  unfold completeCaptureFrame
  rcases self.captureContent session frame with - | content
  · exact .inr rfl
  · rcases host.copy frame.id with error | ⟨⟩
    · exact .inr rfl
    · exact .inl ⟨content, rfl⟩

theorem findSession_some {id : Nat} {session : CaptureSession} (found : self.findSession id = some session) :
    session ∈ self.capture.sessions ∧ session.id = id := by
  have member := List.mem_of_find?_eq_some found
  have named := List.find?_some found
  exact ⟨member, by simpa using named⟩

theorem served_setPending (pending : List PendingCaptureFrame) : Served [] self (self.setPending pending, []) :=
  ⟨rfl, rfl, rfl, rfl, nofun⟩

/-! ## The queue -/

/-- A request is still waiting or has been answered. -/
def Settled (result : AnvilState × List Observation) (request : PendingCaptureFrame) : Prop :=
  request ∈ result.1.capture.pending ∨ .captureFailed request.frame.id ∈ result.2 ∨
    ∃ client content, .captureReady request.frame.id client content ∈ result.2

/-- One turn of the loop either keeps the request or answers it. -/
theorem processOne_cases (host : Host) (output : Nat) (current : AnvilState × List Observation)
    (request : PendingCaptureFrame) :
    processOne host output current request =
        (current.1.setPending (current.1.capture.pending ++ [request]), current.2) ∨
      ∃ session ∈ current.1.capture.sessions, session.id = request.session ∧ session.output = output ∧
        processOne host output current request =
          ((current.1.completeCaptureFrame host session request.frame).1,
            (current.1.completeCaptureFrame host session request.frame).2 ++ current.2) := by
  unfold processOne
  rcases named : current.1.findSession request.session with - | session
  · exact .inl rfl
  · dsimp only
    split
    · rename_i due
      obtain ⟨member, names⟩ := findSession_some named
      simp only [answers, Bool.and_eq_true, beq_iff_eq] at due
      exact .inr ⟨session, member, names, due.1, rfl⟩
    · exact .inl rfl

theorem processOne_served (host : Host) (output : Nat) (current : AnvilState × List Observation)
    (request : PendingCaptureFrame) (waits : request ∈ requests) (served : Served requests before current) :
    Served requests before (processOne host output current request) := by
  rcases processOne_cases host output current request with kept | ⟨session, member, names, -, done⟩
  · rw [kept]
    exact served.trans ((served_setPending _).mono nofun)
  · rw [done]
    refine served.trans ((completeCaptureFrame_served current.1 host request member names).mono ?_)
    intro other same
    rw [List.mem_singleton.mp same]
    exact waits

/-- What is pending stays pending while others are served. -/
theorem processOne_pending (host : Host) (output : Nat) (current : AnvilState × List Observation)
    (request : PendingCaptureFrame) :
    (processOne host output current request).1.capture.pending = current.1.capture.pending ∨
      (processOne host output current request).1.capture.pending = current.1.capture.pending ++ [request] := by
  rcases processOne_cases host output current request with kept | ⟨session, -, -, -, done⟩
  · rw [kept]
    exact .inr rfl
  · rw [done]
    exact .inl (completeCaptureFrame_pending host session request.frame)

theorem processOne_settled (host : Host) (output : Nat) (current : AnvilState × List Observation)
    (request : PendingCaptureFrame) : Settled (processOne host output current request) request := by
  rcases processOne_cases host output current request with kept | ⟨session, -, -, -, done⟩
  · rw [kept]
    exact .inl (by simp [setPending])
  · rw [done]
    rcases completeCaptureFrame_answers current.1 host session request.frame with
      ⟨content, ready⟩ | failed
    · exact .inr (.inr ⟨session.client, content, by simp [ready]⟩)
    · exact .inr (.inl (by simp [failed]))

theorem Settled.processOne {request : PendingCaptureFrame} (host : Host) (output : Nat)
    (current : AnvilState × List Observation) (other : PendingCaptureFrame) (settled : Settled current request) :
    Settled (processOne host output current other) request := by
  have kept : ∀ observation ∈ current.2, observation ∈ (AnvilState.processOne host output current other).2 := by
    rcases processOne_cases host output current other with kept | ⟨session, -, -, -, done⟩
    · rw [kept]
      exact fun _ seen => seen
    · rw [done]
      exact fun _ seen => List.mem_append_right _ seen
  rcases settled with waits | failed | ⟨client, content, ready⟩
  · left
    rcases processOne_pending host output current other with same | grown
    · rw [same]
      exact waits
    · rw [grown]
      exact List.mem_append_left _ waits
  · exact .inr (.inl (kept _ failed))
  · exact .inr (.inr ⟨client, content, kept _ ready⟩)

theorem foldl_served (host : Host) (output : Nat) (queue : List PendingCaptureFrame)
    (current : AnvilState × List Observation) (waits : ∀ request ∈ queue, request ∈ requests)
    (served : Served requests before current) :
    Served requests before (queue.foldl (processOne host output) current) := by
  induction queue generalizing current with
  | nil => exact served
  | cons request queue ih =>
    apply ih
    · exact fun other member => waits other (List.mem_cons_of_mem _ member)
    · exact processOne_served host output current request (waits request List.mem_cons_self) served

theorem foldl_pending (host : Host) (output : Nat) (queue : List PendingCaptureFrame)
    (current : AnvilState × List Observation) :
    ∀ request ∈ (queue.foldl (processOne host output) current).1.capture.pending,
      request ∈ current.1.capture.pending ∨ request ∈ queue := by
  induction queue generalizing current with
  | nil => exact fun request waits => .inl waits
  | cons first queue ih =>
    intro request waits
    rcases ih _ request waits with early | late
    · rcases processOne_pending host output current first with same | grown
      · rw [same] at early
        exact .inl early
      · rw [grown] at early
        rcases List.mem_append.mp early with older | new
        · exact .inl older
        · exact .inr (List.mem_singleton.mp new ▸ List.mem_cons_self)
    · exact .inr (List.mem_cons_of_mem _ late)

theorem foldl_settled (host : Host) (output : Nat) (queue : List PendingCaptureFrame)
    (current : AnvilState × List Observation) (request : PendingCaptureFrame)
    (known : Settled current request ∨ request ∈ queue) :
    Settled (queue.foldl (processOne host output) current) request := by
  induction queue generalizing current with
  | nil =>
    rcases known with settled | absent
    · exact settled
    · cases absent
  | cons first queue ih =>
    apply ih
    rcases known with settled | waits
    · exact .inl (settled.processOne host output current first)
    · rcases List.mem_cons.mp waits with rfl | later
      · exact .inl (processOne_settled host output current request)
      · exact .inr later

theorem processPendingCaptureFrames_served (host : Host) (output : Nat) :
    Served self.capture.pending self (self.processPendingCaptureFrames host output) :=
  foldl_served host output _ _ (fun _ waits => waits) ((served_setPending []).mono nofun)

theorem processPendingCaptureFrames_pending (host : Host) (output : Nat) :
    ∀ request ∈ (self.processPendingCaptureFrames host output).1.capture.pending,
      request ∈ self.capture.pending := by
  intro request waits
  rcases foldl_pending host output _ _ request waits with none | queued
  · cases none
  · exact queued

theorem processPendingCaptureFrames_settled (host : Host) (output : Nat) {request : PendingCaptureFrame}
    (waits : request ∈ self.capture.pending) : Settled (self.processPendingCaptureFrames host output) request :=
  foldl_settled host output _ _ request (.inr waits)

/-- A settled request stays settled over any answers to the queue. -/
theorem Settled.append {first second : AnvilState × List Observation} {request : PendingCaptureFrame}
    (settled : Settled first request)
    (later : request ∈ first.1.capture.pending → Settled second request) :
    Settled (second.1, second.2 ++ first.2) request := by
  rcases settled with waits | failed | ⟨client, content, ready⟩
  · rcases later waits with still | failed | ⟨client, content, ready⟩
    · exact .inl still
    · exact .inr (.inl (List.mem_append_left _ failed))
    · exact .inr (.inr ⟨client, content, List.mem_append_left _ ready⟩)
  · exact .inr (.inl (List.mem_append_right _ failed))
  · exact .inr (.inr ⟨client, content, List.mem_append_right _ ready⟩)

/-- Answers to a queue: nothing new waits, and what waited is settled. -/
structure Drained (before : AnvilState) (result : AnvilState × List Observation) : Prop where
  served : Served before.capture.pending before result
  pending : ∀ request ∈ result.1.capture.pending, request ∈ before.capture.pending
  settled : ∀ request ∈ before.capture.pending, Settled result request

theorem Drained.refl (before : AnvilState) : Drained before (before, []) :=
  ⟨.refl _ _, fun _ waits => waits, fun _ waits => .inl waits⟩

theorem Drained.trans {first second : AnvilState × List Observation} (one : Drained before first)
    (two : Drained first.1 second) : Drained before (second.1, second.2 ++ first.2) where
  served := one.served.trans (two.served.mono one.pending)
  pending := fun request waits => one.pending request (two.pending request waits)
  settled := fun request waits => (one.settled request waits).append (two.settled request)

theorem processPendingCaptureFrames_drained (host : Host) (output : Nat) :
    Drained self (self.processPendingCaptureFrames host output) :=
  ⟨processPendingCaptureFrames_served host output, processPendingCaptureFrames_pending host output,
    fun _ waits => processPendingCaptureFrames_settled host output waits⟩

theorem processOutputs_drained (self : AnvilState) (host : Host) (outputs : List Nat) :
    Drained self (self.processOutputs host outputs) := by
  have general : ∀ current : AnvilState × List Observation, Drained self current →
      Drained self (outputs.foldl (fun current output =>
        ((current.1.processPendingCaptureFrames host output).1,
          (current.1.processPendingCaptureFrames host output).2 ++ current.2)) current) := by
    induction outputs with
    | nil => exact fun _ drained => drained
    | cons output outputs ih =>
      intro current drained
      exact ih _ (drained.trans (processPendingCaptureFrames_drained host output))
  exact general (self, []) (.refl self)

theorem captureBoostTick_drained (self : AnvilState) (host : Host) : Drained self (self.captureBoostTick host) := by
  unfold captureBoostTick
  split
  · exact .refl self
  · split
    · exact .refl self
    · exact processOutputs_drained self host _

/-- Removing the first match of a test loses nothing else. -/
theorem mem_eraseP_or_find {α : Type} {test : α → Bool} {value : α} {list : List α} (member : value ∈ list) :
    value ∈ list.eraseP test ∨ list.find? test = some value := by
  induction list with
  | nil => cases member
  | cons head tail ih =>
    by_cases passes : test head
    · rcases List.mem_cons.mp member with rfl | later
      · exact .inr (by simp [passes])
      · exact .inl (by simpa [passes] using later)
    · rcases List.mem_cons.mp member with rfl | later
      · exact .inl (by simp [passes])
      · rcases ih later with kept | found
        · exact .inl (by simp [passes, kept])
        · exact .inr (by simp [passes, found])

theorem processCommitDrivenCapture_drained (self : AnvilState) (host : Host) (window : Nat) :
    Drained self (self.processCommitDrivenCapture host window) := by
  unfold processCommitDrivenCapture
  split
  · exact .refl self
  · rcases self.commitTarget window with - | output
    · exact .refl self
    · dsimp only
      split
      · exact .refl self
      · rename_i request matched
        rcases named : self.findSession request.session with - | session
        · exact .refl self
        · obtain ⟨member, names⟩ := findSession_some named
          have queued : request ∈ self.capture.pending := List.mem_of_find?_eq_some matched
          set rest := self.setPending (self.capture.pending.eraseP _) with erased
          have done := completeCaptureFrame_served rest host request member names
          refine ⟨?_, ?_, ?_⟩
          · have cleared : Served self.capture.pending self (rest, []) := (served_setPending _).mono nofun
            simpa using cleared.trans (done.mono (by simpa using queued))
          · intro other waits
            rw [completeCaptureFrame_pending] at waits
            exact List.mem_of_mem_eraseP waits
          · intro other waits
            rcases mem_eraseP_or_find waits with kept | found
            · left
              rw [completeCaptureFrame_pending]
              exact kept
            · cases matched.symm.trans found
              rcases completeCaptureFrame_answers rest host session request.frame with
                ⟨content, ready⟩ | failed
              · exact .inr (.inr ⟨session.client, content, by simp [ready]⟩)
              · exact .inr (.inl (by simp [failed]))

end AnvilState

end Luma.Compositor
