import Luma.Compositor.System

/-! Interactive resizing. A grab of the pointer or of a touch point drives it; how far
it is stays with the surface, and the client's acknowledgements and commits take it on.

The handlers look up where the window is and how far its resize is. Where that is
not what they take for granted, the compositor panics.
-/

set_option autoImplicit false

namespace Luma.Compositor

open Luma.Library Luma.Core

abbrev Point := Int × Int

inductive ResizeEdge where
  | none | top | bottom | left | topLeft | bottomLeft | right | topRight | bottomRight
  deriving DecidableEq, Repr

def ResizeEdge.bits : ResizeEdge → Nat
  | .none => 0
  | .top => 1
  | .bottom => 2
  | .left => 4
  | .topLeft => 5
  | .bottomLeft => 6
  | .right => 8
  | .topRight => 9
  | .bottomRight => 10

def ResizeEdge.intersects (self other : ResizeEdge) : Bool := self.bits &&& other.bits != 0

structure ResizeData where
  edges : ResizeEdge
  initialWindowLocation : Point
  initialWindowSize : Point
  deriving DecidableEq, Repr

inductive ResizeState where
  | notResizing
  | resizing (data : ResizeData)
  /-- The client has to acknowledge the final configure. -/
  | waitingForFinalAck (data : ResizeData) (serial : Nat)
  /-- The client has to commit its final state. -/
  | waitingForCommit (data : ResizeData)
  deriving DecidableEq, Repr

def ResizeState.isResizing : ResizeState → Bool
  | .resizing _ => true
  | _ => false

structure SurfaceData where
  resizeState : ResizeState := .notResizing
  deriving DecidableEq, Repr

/-- `PointerResizeSurfaceGrab` and `TouchResizeSurfaceGrab`. -/
structure ResizeGrab where
  window : Nat
  data : ResizeData
  deriving DecidableEq, Repr

/-- Grabs that do not resize are only known by their serial. -/
structure PointerGrab where
  serial : Nat
  resize : Option ResizeGrab := none
  deriving DecidableEq, Repr

structure TouchGrab where
  serial : Nat
  slot : Nat
  resize : Option ResizeGrab := none
  deriving DecidableEq, Repr

structure ResizeShell where
  compositor : AnvilState
  /-- The surface that a toplevel was made of. -/
  toplevelSurface : Nat → Nat
  /-- The surface that Xwayland has for an X11 window. -/
  xwaylandSurface : Nat → Option Nat := fun _ => none
  /-- Where the windows of the space are. -/
  locations : Nat → Point := fun _ => (0, 0)
  surfaceData : Nat → Option SurfaceData := fun _ => none
  pointer : Option PointerGrab := none
  pressed : List Nat := []
  touch : Option TouchGrab := none

/-- What the libraries say during one input. -/
structure ResizeHost where
  /-- The size of the window's geometry. -/
  size : Point := (0, 0)
  /-- The grab began on a surface of the client that asks. -/
  sameClient : Bool := true
  /-- The X server takes the configure. -/
  configured : Bool := true
  bufferOffset : Option Point := none

inductive ResizeInput where
  | compositor (event : Event)
  | associated (handle : Nat) (surface : Option Nat)
  /-- The layout, a move grab or an X11 client moves a window. -/
  | moved (handle : Nat) (location : Point)
  | commit (surface : Nat) (host : ResizeHost)
  /-- With whether the configure acknowledged before said that the surface is resized. -/
  | ackConfigure (surface serial : Nat) (wasResizing : Bool)
  /-- Something that does not resize takes the pointer, or it is let go. -/
  | pointerGrabbed (serial : Option Nat)
  | touchGrabbed (grab : Option (Nat × Nat))
  | resizeRequest (surface serial : Nat) (edges : ResizeEdge) (host : ResizeHost)
  | x11ResizeRequest (handle serial : Nat) (edges : ResizeEdge) (host : ResizeHost)
  /-- With the window under the pointer, where the pointer is and whether the modifier is held. -/
  | mouseAction (button serial : Nat) (enabled : Bool) (under : Option Nat) (location : Point) (host : ResizeHost)
  | pointerMotion (host : ResizeHost)
  | pointerButton (button serial : Nat) (isPressed : Bool) (host : ResizeHost)
  | touchMotion (slot : Nat) (host : ResizeHost)
  | touchUp (slot serial : Nat) (host : ResizeHost)
  | touchCancel

/-- What was unwrapped in vain. -/
inductive ResizePanic where
  | location | surfaceData | wlSurface | configure | resizeState
  deriving DecidableEq, Repr

inductive ResizeReply where
  | started (surface : Nat)
  /-- A grab of a live window is let go, with how far the surface's resize is then. -/
  | ended (surface : Nat) (state : ResizeState)
  | panicked (reason : ResizePanic)
  deriving DecidableEq, Repr

namespace ResizeShell

def inSpace (self : ResizeShell) (handle : Nat) : Bool := self.compositor.space.elements.contains handle

def isX11 (self : ResizeShell) (handle : Nat) : Bool :=
  ((self.compositor.findToplevel handle).bind (·.x11)).isSome

def elementLocation (self : ResizeShell) (handle : Nat) : Option Point :=
  if self.inSpace handle then some (self.locations handle) else none

/-- A toplevel always has its surface. -/
def wlSurface (self : ResizeShell) (handle : Nat) : Option Nat :=
  if self.isX11 handle then self.xwaylandSurface handle else some (self.toplevelSurface handle)

def windowForSurface (self : ResizeShell) (surface : Nat) : Option Nat :=
  self.compositor.space.elements.find? fun handle => self.wlSurface handle == some surface

def canManipulateWindow (self : ResizeShell) (handle : Nat) : Bool :=
  !self.compositor.lock.locked && self.compositor.desktop.windows.any fun window =>
    window.window == handle && window.floating && !window.fullscreen &&
      Desktop.visible self.compositor.desktop.outputs window

def mapElement (self : ResizeShell) (handle : Nat) (location : Point) : ResizeShell :=
  { self with
    compositor := self.compositor.setElements (self.compositor.space.elements.filter (· != handle) ++ [handle])
    locations := fun other => if other = handle then location else self.locations other }

def setSurfaceData (self : ResizeShell) (surface : Nat) (data : SurfaceData) : ResizeShell :=
  { self with surfaceData := fun other => if other = surface then some data else self.surfaceData other }

def resizeState (self : ResizeShell) (surface : Nat) : Option ResizeState :=
  (self.surfaceData surface).map (·.resizeState)

def insertIfMissing (self : ResizeShell) (surface : Nat) : ResizeShell :=
  if (self.surfaceData surface).isSome then self else self.setSurfaceData surface {}

def panic (self : ResizeShell) (reason : ResizePanic) : ResizeShell × List ResizeReply :=
  ({ self with compositor := { self.compositor with panicked := true } }, [.panicked reason])

/-! ## Beginning a grab -/

inductive Device where
  | pointer | touch

/-- The device whose grab has the serial; touch is asked first. -/
def grabWith (self : ResizeShell) (serial : Nat) : Option Device :=
  if self.touch.any (·.serial == serial) then some .touch
  else if self.pointer.any (·.serial == serial) then some .pointer
  else none

/-- A touch grab stays with the slot that it began on. -/
def setGrab (self : ResizeShell) (device : Device) (serial : Nat) (grab : ResizeGrab) : ResizeShell :=
  match device with
  | .pointer => { self with pointer := some { serial, resize := some grab } }
  | .touch => { self with touch := self.touch.map fun held => { serial, slot := held.slot, resize := some grab } }

/-- The window must be in the space and its surface must have been committed before. -/
def beginResize (self : ResizeShell) (device : Device) (surface window serial : Nat) (edges : ResizeEdge)
    (host : ResizeHost) : ResizeShell × List ResizeReply :=
  match self.elementLocation window with
  | none => self.panic .location
  | some location =>
      match self.surfaceData surface with
      | none => self.panic .surfaceData
      | some _ =>
          let data : ResizeData := { edges, initialWindowLocation := location, initialWindowSize := host.size }
          ((self.setSurfaceData surface { resizeState := .resizing data }).setGrab device serial { window, data },
            [.started surface])

def resizeRequest (self : ResizeShell) (surface serial : Nat) (edges : ResizeEdge) (host : ResizeHost) :
    ResizeShell × List ResizeReply :=
  match self.windowForSurface surface with
  | none => (self, [])
  | some window =>
      if !self.canManipulateWindow window then (self, [])
      else
        match self.grabWith serial with
        | none => (self, [])
        | some device =>
            if !host.sameClient then (self, [])
            else self.beginResize device surface window serial edges host

/-- Any grab of the pointer will do; the new one has a new serial. -/
def x11ResizeRequest (self : ResizeShell) (handle serial : Nat) (edges : ResizeEdge) (host : ResizeHost) :
    ResizeShell × List ResizeReply :=
  if self.pointer.isNone || !(self.inSpace handle && self.isX11 handle) || !self.canManipulateWindow handle then
    (self, [])
  else
    match self.wlSurface handle with
    | none => self.panic .wlSurface
    | some surface => self.beginResize .pointer surface handle serial edges host

/-- The edges of the quarter of the window that the pointer is in. -/
def quarter (location initial size : Point) : ResizeEdge :=
  let left := location.1 < initial.1 + size.1.tdiv 2
  let top := location.2 < initial.2 + size.2.tdiv 2
  if left then if top then .topLeft else .bottomLeft
  else if top then .topRight else .bottomRight

/-- `begin_mouse_action`: the first button moves, the second resizes. -/
def mouseAction (self : ResizeShell) (button serial : Nat) (enabled : Bool) (under : Option Nat) (location : Point)
    (host : ResizeHost) : ResizeShell × List ResizeReply :=
  if self.compositor.lock.locked || self.pointer.isSome || button ∉ [0x110, 0x111] || !enabled then (self, [])
  else
    match under.filter self.canManipulateWindow with
    | none => (self, [])
    | some window =>
        match self.elementLocation window with
        | none => (self, [])
        | some initial =>
            if button = 0x110 then ({ self with pointer := some { serial } }, [])
            else
              match self.wlSurface window with
              | none => (self, [])
              | some surface =>
                  (self.insertIfMissing surface).beginResize .pointer surface window serial
                    (quarter location initial host.size) host

/-! ## Driving a grab -/

/-- The part of `remember_resize` that the rest of the state can see. -/
def rememberResize (self : ResizeShell) (handle : Nat) : ResizeShell :=
  let floats := self.compositor.desktop.windows.any fun window =>
    window.window == handle && window.floating && !window.fullscreen
  if floats then { self with compositor := self.compositor.requestRedraw } else self

/-- Windows of X11 are configured where they are. -/
def drag (self : ResizeShell) (grab : ResizeGrab) (host : ResizeHost) : ResizeShell × List ResizeReply :=
  let self := self.rememberResize grab.window
  if !self.isX11 grab.window then (self, [])
  else
    match self.elementLocation grab.window with
    | none => self.panic .location
    | some _ => if host.configured then (self, []) else self.panic .configure

/-! ## Ending a grab -/

/-- The side opposite to the one that is dragged stays where it was. -/
def settledLocation (data : ResizeData) (size location : Point) : Point :=
  let initial := data.initialWindowLocation
  let x := if data.edges.intersects .left then initial.1 + (data.initialWindowSize.1 - size.1) else location.1
  let y := if data.edges.intersects .top then initial.2 + (data.initialWindowSize.2 - size.2) else location.2
  (x, y)

def settleAt (self : ResizeShell) (grab : ResizeGrab) (host : ResizeHost) (location : Point) : ResizeShell :=
  if grab.data.edges.intersects .topLeft then
    self.mapElement grab.window (settledLocation grab.data host.size location)
  else self

/-- Only a resize that is under way can be taken on. -/
def takeOn (self : ResizeShell) (surface : Nat) (next : ResizeData → ResizeState) : ResizeShell × List ResizeReply :=
  match self.surfaceData surface with
  | none => self.panic .surfaceData
  | some data =>
      match data.resizeState with
      | .resizing resize => (self.setSurfaceData surface { resizeState := next resize }, [.ended surface data.resizeState])
      | state => ((self.panic .resizeState).1, [.panicked .resizeState, .ended surface state])

def endWayland (self : ResizeShell) (grab : ResizeGrab) (serial : Nat) (host : ResizeHost) :
    ResizeShell × List ResizeReply :=
  let surface := self.toplevelSurface grab.window
  if grab.data.edges.intersects .topLeft then
    match self.elementLocation grab.window with
    | none => self.panic .location
    | some location => (self.settleAt grab host location).takeOn surface (.waitingForFinalAck · serial)
  else self.takeOn surface (.waitingForFinalAck · serial)

/-- The location is looked up whatever edges are dragged. -/
def endX11 (self : ResizeShell) (grab : ResizeGrab) (host : ResizeHost) : ResizeShell × List ResizeReply :=
  match self.elementLocation grab.window with
  | none => self.panic .location
  | some location =>
      let settled := self.settleAt grab host location
      if !host.configured then settled.panic .configure
      else
        match self.xwaylandSurface grab.window with
        -- The X11 window was unmapped.
        | none => (settled, [])
        | some surface => settled.takeOn surface .waitingForCommit

def endResize (self : ResizeShell) (grab : ResizeGrab) (serial : Nat) (host : ResizeHost) :
    ResizeShell × List ResizeReply :=
  if !self.compositor.alive grab.window then (self, [])
  else if self.isX11 grab.window then self.endX11 grab host
  else self.endWayland grab serial host

/-! ## The seat -/

def pointerMotion (self : ResizeShell) (host : ResizeHost) : ResizeShell × List ResizeReply :=
  match self.pointer.bind (·.resize) with
  | none => (self, [])
  | some grab =>
      if !self.compositor.alive grab.window then ({ self with pointer := none }, []) else self.drag grab host

/-- The buttons that are held after one changes. -/
def nowPressed (self : ResizeShell) (button : Nat) (isPressed : Bool) : List Nat :=
  if isPressed then self.pressed ++ [button] else self.pressed.filter (· != button)

def pointerButton (self : ResizeShell) (button serial : Nat) (isPressed : Bool) (host : ResizeHost) :
    ResizeShell × List ResizeReply :=
  let now := { self with pressed := self.nowPressed button isPressed }
  match self.pointer.bind (·.resize) with
  | none => (now, [])
  | some grab =>
      if !(self.nowPressed button isPressed).isEmpty then (now, [])
      else ({ now with pointer := none } : ResizeShell).endResize grab serial host

/-- The resize that a touch point drives. -/
def touchResize (self : ResizeShell) (slot : Nat) : Option ResizeGrab :=
  (self.touch.filter (·.slot == slot)).bind (·.resize)

def touchMotion (self : ResizeShell) (slot : Nat) (host : ResizeHost) : ResizeShell × List ResizeReply :=
  match self.touchResize slot with
  | none => (self, [])
  | some grab =>
      if !self.compositor.alive grab.window then ({ self with touch := none }, []) else self.drag grab host

def touchUp (self : ResizeShell) (slot serial : Nat) (host : ResizeHost) : ResizeShell × List ResizeReply :=
  match self.touchResize slot with
  | none => (self, [])
  | some grab => ({ self with touch := none } : ResizeShell).endResize grab serial host

/-! ## The client -/

/-- The serials are counted on, where the source lets them wrap. -/
def ackConfigure (self : ResizeShell) (surface serial : Nat) (wasResizing : Bool) : ResizeShell :=
  match self.resizeState surface with
  | some (.waitingForFinalAck data awaited) =>
      if awaited ≤ serial && wasResizing then self.setSurfaceData surface { resizeState := .waitingForCommit data }
      else self
  | _ => self

/-- A toplevel that is resized at its top or left moves with every commit. -/
def handleToplevelCommit (self : ResizeShell) (surface : Nat) (host : ResizeHost) : ResizeShell :=
  match self.windowForSurface surface with
  | none => self
  | some window =>
      match self.elementLocation window, self.resizeState surface with
      | some location, some (.resizing data) =>
          if !self.isX11 window && data.edges.intersects .topLeft then
            self.mapElement window (settledLocation data host.size location)
          else self
      | _, _ => self

def ensureInitialConfigure (self : ResizeShell) (surface : Nat) : ResizeShell :=
  let self := self.insertIfMissing surface
  if (self.windowForSurface surface).isNone then self
  else
    match self.resizeState surface with
    | some (.waitingForCommit _) => self.setSurfaceData surface {}
    | _ => self

def commit (self : ResizeShell) (surface : Nat) (host : ResizeHost) : ResizeShell × List ResizeReply :=
  let self := self.handleToplevelCommit surface host
  let self := { self with compositor := self.compositor.requestRedraw }
  match self.windowForSurface surface, host.bufferOffset with
  | some window, some offset =>
      match self.elementLocation window with
      | none => self.panic .location
      | some location => ((self.mapElement window (location.1 + offset.1, location.2 + offset.2)).ensureInitialConfigure surface, [])
  | _, _ => (self.ensureInitialConfigure surface, [])

/-! ## Every input -/

/-- A session that is locked takes the pointer and the touch points away. -/
def handleEvent (self : ResizeShell) (event : Event) : ResizeShell :=
  let (compositor, seen) := self.compositor.step event
  if seen.contains .lockAccepted then { self with compositor, pointer := none, touch := none }
  else { self with compositor }

def serve (self : ResizeShell) : ResizeInput → ResizeShell × List ResizeReply
  | .compositor event => (self.handleEvent event, [])
  | .associated handle surface => ({ self with
      xwaylandSurface := fun other => if other = handle then surface else self.xwaylandSurface other }, [])
  | .moved handle location => ({ self with
      locations := fun other => if other = handle then location else self.locations other }, [])
  | .commit surface host => self.commit surface host
  | .ackConfigure surface serial wasResizing => (self.ackConfigure surface serial wasResizing, [])
  | .pointerGrabbed serial => ({ self with pointer := serial.map fun serial => { serial } }, [])
  | .touchGrabbed grab => ({ self with touch := grab.map fun (serial, slot) => { serial, slot } }, [])
  | .resizeRequest surface serial edges host => self.resizeRequest surface serial edges host
  | .x11ResizeRequest handle serial edges host => self.x11ResizeRequest handle serial edges host
  | .mouseAction button serial enabled under location host =>
      self.mouseAction button serial enabled under location host
  | .pointerMotion host => self.pointerMotion host
  | .pointerButton button serial isPressed host => self.pointerButton button serial isPressed host
  | .touchMotion slot host => self.touchMotion slot host
  | .touchUp slot serial host => self.touchUp slot serial host
  | .touchCancel => ({ self with touch := none }, [])

def step : Transition.Step ResizeShell ResizeInput ResizeReply := fun self input =>
  if self.compositor.panicked then (self, []) else self.serve input

end ResizeShell

end Luma.Compositor
