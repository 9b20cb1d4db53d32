import Std.Data.TreeMap
import Luma.Compositor.RecorderController

/-! The compositor's state, what it can be told by the outside, and what an
observer of it sees.

Resources are named by numbers. Outputs carry the lock data that the source
hangs on them; an output that is plugged in again is a new output.
-/

set_option autoImplicit false

namespace Luma.Compositor

open Luma.Core

inductive RecorderCaptureSource where
  | output
  | window (id : Nat)
  | region (region : Rect)
  deriving DecidableEq, Repr

structure LockOutput where
  locked : Bool := false
  surface : Bool := false
  generation : Nat := 0
  presentations : Nat := 0
  deriving DecidableEq, Repr

/-- Connector names are unique among the outputs that are plugged in. -/
structure Output where
  serial : Nat
  name : String
  /-- The current mode's size with the transform applied. -/
  mode : Option (Int × Int) := none
  geometry : Option Rect := none
  lock : Option LockOutput := none
  deriving DecidableEq, Repr

structure X11Surface where
  window : Nat
  overrideRedirect : Bool := false
  auxiliary : Bool := false
  deriving DecidableEq, Repr

structure WindowElement where
  handle : Nat
  alive : Bool := true
  appId : String := ""
  title : String := ""
  parented : Bool := false
  x11 : Option X11Surface := none
  deriving DecidableEq, Repr

structure Managed where
  /-- The handle of the window element. -/
  window : Nat
  id : Nat
  workspace : Nat
  output : String
  floating : Bool := false
  fullscreen : Bool := false
  scratchpad : Bool := false
  rect : Option Rect := none
  deriving DecidableEq, Repr

structure Space where
  outputs : List Output := []
  /-- Handles of the mapped window elements. -/
  elements : List Nat := []

inductive KeyboardFocusTarget where
  | window (handle : Nat)
  | lock
  | layer
  deriving DecidableEq, Repr

structure Seat where
  focus : Option KeyboardFocusTarget := none
  /-- The output the pointer was last seen on. -/
  pointer : Option String := none

structure Desktop where
  config : Config := {}
  windows : List Managed := []
  outputs : Std.TreeMap String Nat := ∅
  nextId : Nat := 1
  dirty : Bool := true
  redraw : Bool := true
  active : Bool := true
  error : Option String := none
  performanceProfileOverride : Option String := none

/-- Where the frames of the recorder's session come from. -/
structure Routing where
  override : RecorderCaptureSource := .output
  commitDriven : Bool := false
  boostFps : Option Nat := none
  boostTimer : Option Nat := none
  recorderSessionPending : Bool := false
  deriving DecidableEq, Repr

structure Recording where
  recorder : RecorderController := {}
  routing : Routing := {}
  /-- Engines that were spawned and have not created their capture session. -/
  unconnected : List Nat := []

inductive Client where
  | engine (process : Nat)
  | other (id : Nat)
  deriving DecidableEq, Repr

/-- The session and its user data, which outlives the compositor's hold on it. -/
structure CaptureSession where
  id : Nat
  client : Client
  /-- Serial of the captured output. -/
  output : Nat
  recorder : Bool := false
  hasCaptured : Bool := false
  lastGeneration : Nat := 0
  /-- Held in `capture_sessions`; a session that is dropped is stopped. -/
  owned : Bool := true
  deriving DecidableEq, Repr

/-- A capture request with what its buffer is. -/
structure CaptureFrame where
  id : Nat
  dmabuf : Bool := true
  /-- What `capture::validate` says of a buffer in shared memory. -/
  valid : Bool := true
  deriving DecidableEq, Repr

structure PendingCaptureFrame where
  session : Nat
  frame : CaptureFrame
  deriving DecidableEq, Repr

structure Capture where
  sessions : List CaptureSession := []
  pending : List PendingCaptureFrame := []
  generation : Nat := 1

structure LockState where
  locked : Bool := false
  /-- Counts accepted lock requests; the source's 64-bit counter does not wrap in any real run. -/
  generation : Nat := 0
  /-- The locker that waits for its confirmation. -/
  confirmation : Option Nat := none

/-- A frame handed to the display, with the lock generation it was queued under. -/
structure PresentedFrame where
  id : Nat
  output : Nat
  lockGeneration : Option Nat
  deriving DecidableEq, Repr

structure Presentation where
  inFlight : List PresentedFrame := []
  /-- Calls of `lock_presented` that wait for the event loop to go idle. -/
  idles : List PresentedFrame := []
  nextFrame : Nat := 0

structure Crop where
  x : Int
  y : Int
  width : Int
  height : Int
  deriving DecidableEq, Repr

structure ScreencopyFrame where
  id : Nat
  output : Option Nat
  captureWidth : Int
  captureHeight : Int
  crop : Crop
  initial : Bool
  used : Bool := false
  /-- The buffer that waits for the next repaint. -/
  pending : Option Nat := none
  deriving DecidableEq, Repr

structure Screencopy where
  /-- Managers that have captured before. -/
  captured : List Nat := []
  frames : List ScreencopyFrame := []
  pending : List Nat := []
  nextFrame : Nat := 0

structure AnvilState where
  space : Space := {}
  toplevels : List WindowElement := []
  seat : Seat := {}
  desktop : Desktop := {}
  recording : Recording := {}
  lock : LockState := {}
  capture : Capture := {}
  screencopy : Screencopy := {}
  presentation : Presentation := {}
  nextSerial : Nat := 0
  nextProcess : Nat := 0
  nextSession : Nat := 0
  nextCapture : Nat := 0
  running : Bool := true
  /-- The process is gone: an index was out of bounds. -/
  panicked : Bool := false

/-- What the operating system and the libraries answer during one input. -/
structure Host where
  spawnApp : Except String Unit := .ok ()
  spawn : SpawnHost := {}
  stop : StopHost := {}
  poll : PollHost := {}
  /-- The token of an inserted timer. -/
  timer : Except String Nat := .ok 0
  config : Except String Config := .ok {}
  writeSettings : Except String Unit := .ok ()
  clearSettings : Except String Unit := .ok ()
  outputErrors : List String := []
  /-- What reading the argument of `ratio` as a number says. -/
  ratio : Except String Unit := .ok ()
  closeWindow : Except String Unit := .ok ()
  lowercase : String → String := id
  /-- Where the layout pass puts a visible window. -/
  placement : Nat → Option Rect := fun _ => none
  /-- What the backend answers to the copy for a frame. -/
  copy : Nat → Except String Unit := fun _ => .ok ()
  /-- What `capture::validate` says of the buffer for a screencopy frame. -/
  validBuffer : Nat → Bool := fun _ => true
  now : Nat := 0

inductive Observation where
  | recordingStarted (engine : Nat) (source : RecorderCaptureSource)
  | captureReady (frame : Nat) (client : Client) (content : RecorderCaptureSource)
  | captureFailed (frame : Nat)
  | captureWithdrawn (frame : Nat)
  | screencopyReady (frame : Nat)
  | screencopyFailed (frame : Nat)
  | screencopyWithdrawn (frame : Nat)
  | lockAccepted
  | unlocked
  /-- `locked` is sent to the locker. -/
  | locked
  | frameQueued (frame output : Nat)
  | framePresented (frame output : Nat)
  deriving DecidableEq, Repr

namespace AnvilState

def outputNames (self : AnvilState) : List String := self.space.outputs.map (·.name)

def findOutput (self : AnvilState) (serial : Nat) : Option Output :=
  self.space.outputs.find? (·.serial == serial)

def findToplevel (self : AnvilState) (handle : Nat) : Option WindowElement :=
  self.toplevels.find? (·.handle == handle)

def alive (self : AnvilState) (handle : Nat) : Bool := (self.findToplevel handle).any (·.alive)

def identity (self : AnvilState) (handle : Nat) : String × String :=
  match self.findToplevel handle with
  | some element => (element.appId, element.title)
  | none => ("", "")

def focusedIndex (self : AnvilState) : Option Nat :=
  match self.seat.focus with
  | some (.window handle) => self.desktop.windows.findIdx? (·.window == handle)
  | _ => none

def activeOutput (self : AnvilState) : Option String :=
  match self.focusedIndex.bind fun index => self.desktop.windows[index]? with
  | some window => some window.output
  | none => self.seat.pointer.filter self.outputNames.contains <|> self.outputNames.head?

end AnvilState

end Luma.Compositor
