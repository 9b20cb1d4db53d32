import Luma.Compositor.State

/-! Image-copy capture: sessions, frame requests and the points at which a
request is answered.

`completeCaptureFrame` is the only place that copies pixels for a session. It
reads the lock, the session's activity and the routing at that moment.
-/

set_option autoImplicit false

namespace Luma.Compositor

namespace AnvilState

/-- Whether `capture_constraints` has an answer for the output. -/
def captureConstraints (self : AnvilState) (output : Nat) : Bool :=
  !self.lock.locked && self.desktop.active && (self.findOutput output).any (·.mode.isSome)

def findSession (self : AnvilState) (session : Nat) : Option CaptureSession :=
  self.capture.sessions.find? (·.id == session)

def setSessions (self : AnvilState) (sessions : List CaptureSession) : AnvilState :=
  { self with capture := { self.capture with sessions } }

def setPending (self : AnvilState) (pending : List PendingCaptureFrame) : AnvilState :=
  { self with capture := { self.capture with pending } }

def setRouting (self : AnvilState) (routing : Routing) : AnvilState :=
  { self with recording := { self.recording with routing } }

/-- A recorder engine creates one session in its life; other clients any number. -/
def mayConnect (self : AnvilState) : Client → Bool
  | .engine process => self.recording.unconnected.contains process
  | .other _ => true

/-- The engines that are left to connect after the client did. -/
def stillUnconnected (self : AnvilState) : Client → List Nat
  | .engine process => self.recording.unconnected.erase process
  | .other _ => self.recording.unconnected

/-- Sessions beyond the limit and of outputs without constraints are dropped. -/
def acceptsSession (self : AnvilState) (output : Nat) : Bool :=
  (self.capture.sessions.filter (·.owned)).length < 32 && self.captureConstraints output

/-- The next session that is accepted is taken for the recorder's if one is expected. -/
def newSession (self : AnvilState) (client : Client) (output : Nat) : AnvilState × List Observation :=
  if !self.mayConnect client then (self, [])
  else
    let session := { id := self.nextSession, client, output, recorder := self.recording.routing.recorderSessionPending }
    let connected := { self with
      nextSession := self.nextSession + 1
      recording := { self.recording with unconnected := self.stillUnconnected client } }
    if self.acceptsSession output then
      ((connected.setSessions (self.capture.sessions ++ [session])).setRouting
        { self.recording.routing with recorderSessionPending := false }, [])
    else (connected, [])

def sessionDestroyed (self : AnvilState) (session : Nat) : AnvilState × List Observation :=
  ((self.setPending (self.capture.pending.filter (·.session != session))).setSessions
      (self.capture.sessions.filter (·.id != session)),
    (self.capture.pending.filter (·.session == session)).map (.captureWithdrawn ·.frame.id))

/-- What a session's request is answered with, before anything is copied. -/
def captureContent (self : AnvilState) (session : CaptureSession) (frame : CaptureFrame) :
    Option RecorderCaptureSource :=
  if !self.captureConstraints session.output then none
  else if !frame.dmabuf && !frame.valid then none
  else if session.recorder && self.recording.routing.override != .output then
    if !frame.dmabuf then none
    else
      match self.recording.routing.override with
      | .window id => if self.desktop.windows.any (·.id == id) then some (.window id) else none
      | source => some source
  else some .output

def noteCaptured (self : AnvilState) (host : Host) (session : CaptureSession) : AnvilState :=
  let recorder := if session.recorder then self.recording.recorder.noteSourceFrame host.now
    else self.recording.recorder
  { self with
    recording := { self.recording with recorder }
    capture := { self.capture with sessions := self.capture.sessions.map fun other =>
      if other.id == session.id then
        { other with hasCaptured := true, lastGeneration := self.capture.generation }
      else other } }

def completeCaptureFrame (self : AnvilState) (host : Host) (session : CaptureSession) (frame : CaptureFrame) :
    AnvilState × List Observation :=
  match self.captureContent session frame with
  | none => (self, [.captureFailed frame.id])
  | some content =>
    match host.copy frame.id with
    | .error _ => (self, [.captureFailed frame.id])
    | .ok () => (self.noteCaptured host session, [.captureReady frame.id session.client content])

/-- A request of a session. The first one is answered at once, later ones wait. -/
def frame (self : AnvilState) (host : Host) (session : Nat) (dmabuf valid : Bool) :
    AnvilState × List Observation :=
  match self.findSession session with
  | none => (self, [])
  | some found =>
    let request := { id := self.nextCapture, dmabuf, valid }
    let self := { self with nextCapture := self.nextCapture + 1 }
    if found.hasCaptured then
      if self.capture.pending.length ≥ 32 then (self, [.captureFailed request.id])
      else (self.setPending (self.capture.pending ++ [⟨session, request⟩]), [])
    else self.completeCaptureFrame host found request

def frameAborted (self : AnvilState) (frame : Nat) : AnvilState × List Observation :=
  (self.setPending (self.capture.pending.filter (·.frame.id != frame)),
    (self.capture.pending.filter (·.frame.id == frame)).map (.captureWithdrawn ·.frame.id))

/-- Whether a repaint of the output answers the request. -/
def answers (self : AnvilState) (output : Nat) (session : CaptureSession) : Bool :=
  session.output == output && (session.recorder || session.lastGeneration != self.capture.generation)

/-- One request of the loop in `process_pending_capture_frames`. -/
def processOne (host : Host) (output : Nat) (current : AnvilState × List Observation)
    (pending : PendingCaptureFrame) : AnvilState × List Observation :=
  let keep := (current.1.setPending (current.1.capture.pending ++ [pending]), current.2)
  match current.1.findSession pending.session with
  | none => keep
  | some session =>
    if current.1.answers output session then
      let done := current.1.completeCaptureFrame host session pending.frame
      (done.1, done.2 ++ current.2)
    else keep

def processPendingCaptureFrames (self : AnvilState) (host : Host) (output : Nat) :
    AnvilState × List Observation :=
  self.capture.pending.foldl (processOne host output) (self.setPending [], [])

/-- One output after the other. -/
def processOutputs (self : AnvilState) (host : Host) (outputs : List Nat) : AnvilState × List Observation :=
  outputs.foldl (fun current output =>
    let next := current.1.processPendingCaptureFrames host output
    (next.1, next.2 ++ current.2)) (self, [])

def waitsFor (self : AnvilState) (output : Nat) (pending : PendingCaptureFrame) : Bool :=
  (self.findSession pending.session).any (·.output == output)

def captureBoostTick (self : AnvilState) (host : Host) : AnvilState × List Observation :=
  if self.lock.locked || !self.desktop.active || self.capture.pending.isEmpty then (self, [])
  else if self.recording.routing.commitDriven then (self, [])
  else self.processOutputs host ((self.space.outputs.filter fun output =>
    self.capture.pending.any (self.waitsFor output.serial)).map (·.serial))

/-- The output a commit of the window serves, if the recorder follows that window. -/
def commitTarget (self : AnvilState) (window : Nat) : Option Output :=
  match self.recording.routing.override with
  | .window id => do
    let managed ← self.desktop.windows.find? fun managed => managed.id == id && managed.window == window
    self.space.outputs.find? (·.name == managed.output)
  | _ => none

def processCommitDrivenCapture (self : AnvilState) (host : Host) (window : Nat) :
    AnvilState × List Observation :=
  if !self.recording.routing.commitDriven || self.capture.pending.isEmpty then (self, [])
  else
    match self.commitTarget window with
    | none => (self, [])
    | some output =>
      let matching := fun pending : PendingCaptureFrame => (self.findSession pending.session).any
        fun session => session.output == output.serial && session.recorder
      match self.capture.pending.find? matching with
      | none => (self, [])
      | some pending =>
        match self.findSession pending.session with
        | none => (self, [])
        | some session =>
          (self.setPending (self.capture.pending.eraseP matching)).completeCaptureFrame host session pending.frame

/-- Whether a pending request may stay pending. -/
def stillCapturable (self : AnvilState) (pending : PendingCaptureFrame) : Bool :=
  (self.findSession pending.session).any fun session => self.captureConstraints session.output

def refreshCaptureSessions (self : AnvilState) : AnvilState × List Observation :=
  let sessions := self.capture.sessions.map fun session =>
    { session with owned := session.owned && self.captureConstraints session.output }
  ((self.setSessions sessions).setPending (self.capture.pending.filter self.stillCapturable),
    (self.capture.pending.filter fun pending => !self.stillCapturable pending).map (.captureFailed ·.frame.id))

end AnvilState

end Luma.Compositor
