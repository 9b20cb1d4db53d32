import Luma.Compositor.RecorderCommands

/-! Session locking: requests, lock surfaces and the presentation of frames
queued while an output is locked.
-/

set_option autoImplicit false

namespace Luma.Compositor

namespace LockOutput

/-- Whether another frame is needed, and the count after this one. -/
def recordPresented (self : LockOutput) (generation : Nat) : Bool × LockOutput :=
  if !self.locked || self.generation != generation then (false, self)
  else
    let presentations := min 255 (self.presentations + 1)
    (presentations < 2, { self with presentations })

def ready (self : LockOutput) (generation : Nat) : Bool :=
  self.locked && self.generation == generation && 2 ≤ self.presentations

end LockOutput

namespace AnvilState

def setOutputs (self : AnvilState) (outputs : List Output) : AnvilState :=
  { self with space := { self.space with outputs } }

def setLock (self : AnvilState) (lock : LockState) : AnvilState := { self with lock }

def requestRedraw (self : AnvilState) : AnvilState :=
  { self with desktop := { self.desktop with redraw := true } }

/-- Stop what the recorder does; a game or an engine that runs is aborted. -/
def stopRecording (self : AnvilState) (reason : String) : AnvilState :=
  let recorder := self.recording.recorder
  { self with recording := { self.recording with
    routing := stopCaptureBoost self.recording.routing
    recorder := if recorder.isRunning then recorder.abort reason else recorder } }

/-- Every capture session is dropped, and the keyboard focus with them. -/
def dropSessions (self : AnvilState) : AnvilState :=
  { self with
    capture := { self.capture with
      sessions := self.capture.sessions.map fun session => { session with owned := false } }
    seat := { self.seat with focus := none } }

/-- Accepted only on a session that is neither locked nor switched away. -/
def requestLock (self : AnvilState) (locker : Nat) : AnvilState × List Observation :=
  if self.lock.locked || !self.desktop.active then (self, [])
  else
    let generation := self.lock.generation + 1
    let self := self.stopRecording "recording stopped because the session locked"
    let self := self.setLock { locked := true, generation, confirmation := some locker }
    let self := self.dropSessions
    let self := self.setOutputs (self.space.outputs.map fun output =>
      { output with lock := some { locked := true, generation } })
    (self.requestRedraw, [.lockAccepted])

def unlock (self : AnvilState) : AnvilState × List Observation :=
  let self := self.setLock { self.lock with locked := false, confirmation := none }
  let self := self.setOutputs (self.space.outputs.map fun output =>
    { output with lock := output.lock.map fun _ => {} })
  (self.requestRedraw, [.unlocked])

/-- A lock surface may come at any time; it marks its output as locked. -/
def newLockSurface (self : AnvilState) (serial : Nat) : AnvilState :=
  if (self.findOutput serial).isNone then self
  else
    let self := self.setOutputs (self.space.outputs.map fun output =>
      if output.serial == serial then
        { output with lock := some { output.lock.getD {} with
          locked := true, generation := self.lock.generation, surface := true } }
      else output)
    ({ self with seat := { self.seat with focus := some .lock } }).requestRedraw

def recordPresented (self : AnvilState) (frame : PresentedFrame) (generation : Nat) : AnvilState :=
  self.setOutputs (self.space.outputs.map fun output =>
    if output.serial == frame.output then
      { output with lock := output.lock.map fun data => (data.recordPresented generation).2 }
    else output)

/-- Whether the output's frames under the lock are too few after this one. -/
def needsAnother (self : AnvilState) (frame : PresentedFrame) (generation : Nat) : Bool :=
  (self.findOutput frame.output).any fun output => output.lock.any fun data => (data.recordPresented generation).1

def countPresented (self : AnvilState) (frame : PresentedFrame) (generation : Nat) : AnvilState :=
  let counted := self.recordPresented frame generation
  if self.needsAnother frame generation then counted.requestRedraw else counted

def allReady (self : AnvilState) (generation : Nat) : Bool :=
  self.space.outputs.all fun output => output.lock.any (·.ready generation)

def lockPresented (self : AnvilState) (frame : PresentedFrame) (generation : Nat) :
    AnvilState × List Observation :=
  if !self.lock.locked || self.lock.generation != generation then (self, [])
  else
    let self := self.countPresented frame generation
    if self.allReady generation && self.lock.confirmation.isSome then
      (self.setLock { self.lock with confirmation := none }, [.locked])
    else (self, [])

/-! ## Frames of the display -/

def setPresentation (self : AnvilState) (presentation : Presentation) : AnvilState :=
  { self with presentation }

/-- A rendered frame is queued under the lock generation of its output, if that is locked. -/
def queueFrame (self : AnvilState) (serial : Nat) : AnvilState × List Observation :=
  match self.findOutput serial with
  | none => (self, [])
  | some output =>
    let frame := {
      id := self.presentation.nextFrame
      output := serial
      lockGeneration := (output.lock.filter (·.locked)).map (·.generation) }
    (self.setPresentation { self.presentation with
      inFlight := self.presentation.inFlight ++ [frame]
      nextFrame := self.presentation.nextFrame + 1 }, [.frameQueued frame.id serial])

def dropFrame (self : AnvilState) (frame : Nat) : AnvilState :=
  self.setPresentation { self.presentation with
    inFlight := self.presentation.inFlight.filter (·.id != frame) }

/-- The display reports a queued frame of an output that is still there. -/
def frameFinish (self : AnvilState) (frame : Nat) : AnvilState × List Observation :=
  match self.presentation.inFlight.find? (·.id == frame) with
  | none => (self, [])
  | some found =>
    if (self.findOutput found.output).isNone then (self, [])
    else
      let state := self.dropFrame frame
      let idles := if found.lockGeneration.isSome then state.presentation.idles ++ [found]
        else state.presentation.idles
      (state.setPresentation { state.presentation with idles }, [.framePresented found.id found.output])

/-- The event loop runs the oldest of its idle calls. -/
def runIdle (self : AnvilState) : AnvilState × List Observation :=
  match self.presentation.idles with
  | [] => (self, [])
  | frame :: idles =>
    let self := self.setPresentation { self.presentation with idles }
    match frame.lockGeneration with
    | none => (self, [])
    | some generation => self.lockPresented frame generation

/-! ## Outputs and virtual terminals -/

/-- An output that comes while the session is locked is a locked one. -/
def connectedLock (self : AnvilState) : Option LockOutput :=
  if self.lock.locked then some { locked := true, generation := self.lock.generation } else none

/-- A new output under a connector name that no other output has. -/
def connectOutput (self : AnvilState) (name : String) (mode : Option (Int × Int)) (geometry : Option Core.Rect) :
    AnvilState :=
  if self.outputNames.contains name then self
  else
    let output := { serial := self.nextSerial, name, mode, geometry, lock := self.connectedLock }
    { self.setOutputs (self.space.outputs ++ [output]) with nextSerial := self.nextSerial + 1 }

def disconnectOutput (self : AnvilState) (name : String) : AnvilState :=
  self.setOutputs (self.space.outputs.filter (·.name != name))

/-- Another mode, scale or place of an output. -/
def changeOutput (self : AnvilState) (name : String) (mode : Option (Int × Int)) (geometry : Option Core.Rect) :
    AnvilState :=
  self.setOutputs (self.space.outputs.map fun output =>
    if output.name == name then { output with mode, geometry } else output)

def pauseSession (self : AnvilState) : AnvilState :=
  let self := { self with desktop := { self.desktop with active := false } }
  self.stopRecording "recording stopped because the session became inactive"

def activateSession (self : AnvilState) : AnvilState :=
  ({ self with desktop := { self.desktop with active := true } }).requestRedraw

end AnvilState

end Luma.Compositor
