import Luma.Library.Transition
import Luma.Compositor.Screencopy
import Luma.Compositor.Lock
import Luma.Compositor.Policy

/-! The compositor as one machine. Whatever reaches its event loop is an input:
commands, requests of clients, the display, timers and the seat. Any order is a
run, so also every order the loop of the source can produce.
-/

set_option autoImplicit false

namespace Luma.Compositor

open Luma.Library Luma.Core

inductive Event where
  | command (host : Host) (command : String)
  | maintain (host : Host)
  /-- Input events and the focus they lead to. -/
  | seat (seat : Seat)
  | requestRedraw
  | windowCreated (element : WindowElement)
  | windowChanged (element : WindowElement)
  | windowMapped (handle : Nat)
  | windowUnmapped (handle : Nat)
  | windowDied (handle : Nat)
  | windowCommit (host : Host) (handle : Nat)
  /-- `space.refresh`. -/
  | refreshSpace
  | connectOutput (name : String) (mode : Option (Int × Int)) (geometry : Option Rect)
  | disconnectOutput (name : String)
  | changeOutput (name : String) (mode : Option (Int × Int)) (geometry : Option Rect)
  | pauseSession
  | activateSession
  | lock (locker : Nat)
  | unlock
  | lockSurface (output : Nat)
  | queueFrame (output : Nat)
  | dropFrame (frame : Nat)
  | frameFinish (frame : Nat)
  | idle
  /-- The end of a turn of the main loop. -/
  | repaint (host : Host)
  | boostTick (host : Host)
  | newSession (client : Client) (output : Nat)
  | sessionDestroyed (session : Nat)
  | frame (host : Host) (session : Nat) (dmabuf valid : Bool)
  | frameAborted (frame : Nat)
  | captureOutput (manager output : Nat) (region : Option Rect)
  | copy (host : Host) (frame buffer : Nat) (withDamage : Bool)
  | screencopyDestroyed (frame : Nat)

namespace AnvilState

def setToplevels (self : AnvilState) (toplevels : List WindowElement) : AnvilState := { self with toplevels }

def setElements (self : AnvilState) (elements : List Nat) : AnvilState :=
  { self with space := { self.space with elements } }

def setSeat (self : AnvilState) (seat : Seat) : AnvilState := { self with seat }

/-- Handles are never used twice. -/
def windowCreated (self : AnvilState) (element : WindowElement) : AnvilState :=
  if (self.findToplevel element.handle).isSome then self
  else self.setToplevels (self.toplevels ++ [{ element with alive := true }])

def windowChanged (self : AnvilState) (element : WindowElement) : AnvilState :=
  self.setToplevels (self.toplevels.map fun other =>
    if other.handle == element.handle then { element with alive := other.alive } else other)

def windowMapped (self : AnvilState) (handle : Nat) : AnvilState :=
  if self.alive handle && !self.space.elements.contains handle then
    self.setElements (self.space.elements ++ [handle])
  else self

def windowDied (self : AnvilState) (handle : Nat) : AnvilState :=
  self.setToplevels (self.toplevels.map fun element =>
    if element.handle == handle then { element with alive := false } else element)

def advanceGeneration (self : AnvilState) : AnvilState :=
  { self with capture := { self.capture with generation := self.capture.generation + 1 } }

/-- A commit with new content or damage. -/
def windowCommit (self : AnvilState) (host : Host) (handle : Nat) : AnvilState × List Observation :=
  self.advanceGeneration.processCommitDrivenCapture host handle

/-- Requests that wait for a repaint are answered once the outputs are rendered. -/
def repaint (self : AnvilState) (host : Host) : AnvilState × List Observation :=
  if !self.desktop.redraw || !self.desktop.active then (self, [])
  else
    let self := self.setDesktop { self.desktop with redraw := false }
    let copied := self.processScreencopies host
    let served := copied.1.advanceGeneration.processOutputs host
      (copied.1.space.outputs.map (·.serial))
    (served.1, served.2 ++ copied.2)

/-- Every command has a process number of its own to give to what it starts. -/
def runCommand (self : AnvilState) (host : Host) (command : String) : AnvilState × List Observation :=
  let outcome := self.desktopCommand host command
  ({ outcome.state with nextProcess := self.nextProcess + 1 }, outcome.observations)

def handle (self : AnvilState) : Event → AnvilState × List Observation
  | .command host command => self.runCommand host command
  | .maintain host => self.maintainDesktop host
  | .seat seat => (self.setSeat seat, [])
  | .requestRedraw => (self.requestRedraw, [])
  | .windowCreated element => (self.windowCreated element, [])
  | .windowChanged element => (self.windowChanged element, [])
  | .windowMapped handle => (self.windowMapped handle, [])
  | .windowUnmapped handle => (self.setElements (self.space.elements.filter (· != handle)), [])
  | .windowDied handle => (self.windowDied handle, [])
  | .windowCommit host handle => self.windowCommit host handle
  | .refreshSpace => (self.setElements (self.space.elements.filter self.alive), [])
  | .connectOutput name mode geometry => (self.connectOutput name mode geometry, [])
  | .disconnectOutput name => (self.disconnectOutput name, [])
  | .changeOutput name mode geometry => (self.changeOutput name mode geometry, [])
  | .pauseSession => (self.pauseSession, [])
  | .activateSession => (self.activateSession, [])
  | .lock locker => self.requestLock locker
  | .unlock => self.unlock
  | .lockSurface output => (self.newLockSurface output, [])
  | .queueFrame output => self.queueFrame output
  | .dropFrame frame => (self.dropFrame frame, [])
  | .frameFinish frame => self.frameFinish frame
  | .idle => self.runIdle
  | .repaint host => self.repaint host
  | .boostTick host => self.captureBoostTick host
  | .newSession client output => self.newSession client output
  | .sessionDestroyed session => self.sessionDestroyed session
  | .frame host session dmabuf valid => self.frame host session dmabuf valid
  | .frameAborted frame => self.frameAborted frame
  | .captureOutput manager output region => self.createFrame manager output region
  | .copy host frame buffer withDamage => self.requestCopy host frame buffer withDamage
  | .screencopyDestroyed frame => self.destroyScreencopy frame

/-- A process that is gone takes no input. -/
def step : Transition.Step AnvilState Event Observation := fun self event =>
  if self.panicked then (self, []) else self.handle event

/-- The source falls back to the defaults when the file does not load. -/
def startingConfig (loaded : Except String Config) : Config :=
  match Config.load loaded with
  | .ok config => config
  | .error _ => {}

/-- The compositor as it is created: nothing is connected, nothing runs. -/
def initial (loaded : Except String Config) : AnvilState := { desktop := { config := startingConfig loaded } }

def Started (self : AnvilState) : Prop := ∃ loaded, self = initial loaded

abbrev Execution (allowed : Transition.Condition AnvilState Event Observation) :
    List Observation → AnvilState → Prop := Transition.Run step allowed Started

/-- Reached by some order of inputs. -/
def Reachable (self : AnvilState) : Prop := ∃ history, Execution Transition.unrestricted history self

theorem step_panicked {self : AnvilState} (panicked : self.panicked = true) (event : Event) :
    step self event = (self, []) := by
  simp [step, panicked]

theorem step_handle {self : AnvilState} (going : self.panicked = false) (event : Event) :
    step self event = self.handle event := by
  simp [step, going]

/-- Steps of a process that is gone change nothing, so only handled events matter. -/
theorem step_cases (self : AnvilState) (event : Event) :
    step self event = (self, []) ∨ step self event = self.handle event := by
  cases panicked : self.panicked with
  | true => exact .inl (step_panicked panicked event)
  | false => exact .inr (step_handle panicked event)

/-- An invariant kept by every handled event holds throughout every run. -/
theorem Execution.invariant {allowed : Transition.Condition AnvilState Event Observation}
    (holds : List Observation → AnvilState → Prop) (begun : ∀ loaded, holds [] (initial loaded))
    (kept : ∀ history self event, Execution allowed history self → allowed history self event → holds history self →
      holds ((handle self event).2 ++ history) (handle self event).1)
    {history : List Observation} {self : AnvilState} (run : Execution allowed history self) :
    holds history self := by
  refine Transition.Run.invariant ?_ ?_ run
  · rintro _ ⟨loaded, rfl⟩
    exact begun loaded
  · intro history self event before permitted held
    rcases step_cases self event with same | handled
    · rw [same]
      exact held
    · rw [handled]
      exact kept history self event before permitted held

end AnvilState

end Luma.Compositor
