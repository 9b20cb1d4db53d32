import Luma.Compositor.State
import Luma.Core.FloatingRect
import Luma.Library.Exchange

/-! The layout of the windows on their outputs, and the command that moves the focused one.

All windows are in one list. The layout pass gives each output's tiles to its tiled windows in the
order of that list; the command exchanges two entries of it.
-/

set_option autoImplicit false

namespace Luma.Compositor

open Luma.Library Luma.Core

/-- What the layout pass reads of an output. -/
structure LayoutOutput where
  name : String
  workspace : Nat
  geometry : Rect
  /-- What the layer surfaces leave. -/
  area : Rect
  deriving DecidableEq, Repr

/-- A managed window with what the layout pass keeps of it. -/
structure LaidWindow extends Managed where
  floatingRect : Option Rect := none
  requestedSize : Option Int × Option Int := (none, none)
  /-- The window is in the space. -/
  mapped : Bool := true
  deriving DecidableEq, Repr

structure TiledDesktop where
  outputs : List LayoutOutput
  named : (outputs.map (·.name)).Nodup
  gap : Int
  border : Int
  /-- The rounded product of a width and the master's ratio. -/
  share : Int → Int
  monocle : Bool
  windows : List LaidWindow
  /-- The window element that has the keyboard. -/
  focus : Option Nat

/-! ## The layout pass -/

def LayoutOutput.shows (self : LayoutOutput) (window : LaidWindow) : Bool :=
  window.output == self.name && window.workspace == self.workspace && !window.scratchpad

def LayoutOutput.tiles (self : LayoutOutput) (window : LaidWindow) : Bool :=
  self.shows window && !window.floating && !window.fullscreen

/-- A visible window gets its rectangle; the rank is the one among the tiled windows. -/
def placeWindow (output : LayoutOutput) (rects : List Rect) (rank : Nat) (window : LaidWindow) : Option LaidWindow :=
  if !output.shows window then some window
  else if window.fullscreen then some { window with rect := some output.geometry, mapped := true }
  else if window.floating then
    (floatingRect output.area window.floatingRect window.requestedSize).map fun rect =>
      { window with floatingRect := some rect, rect := some rect, mapped := true }
  else rects[rank]?.map fun rect => { window with rect := some rect, mapped := true }

/-- The loop over the windows of one output. -/
def placeAll (output : LayoutOutput) (rects : List Rect) : Nat → List LaidWindow → Option (List LaidWindow)
  | _, [] => some []
  | rank, window :: rest => do
    let placed ← placeWindow output rects rank window
    let others ← placeAll output rects (rank + if output.tiles window then 1 else 0) rest
    return placed :: others

namespace TiledDesktop

def setWindows (self : TiledDesktop) (windows : List LaidWindow) : TiledDesktop := { self with windows }

def layoutOutput (self : TiledDesktop) (windows : List LaidWindow) (output : LayoutOutput) :
    Option (List LaidWindow) := do
  let gap ← Width.i32.checked (self.gap + self.border)
  let rects ← tile output.area (windows.countP output.tiles) gap self.share self.monocle
  placeAll output rects 0 windows

def hide (self : TiledDesktop) (window : LaidWindow) : LaidWindow :=
  if self.outputs.any (·.shows window) then window else { window with mapped := false }

/-- What `maintain_desktop` does with the rectangles. -/
def layout (self : TiledDesktop) : Option TiledDesktop := do
  let windows ← self.outputs.foldlM self.layoutOutput self.windows
  return self.setWindows (windows.map self.hide)

end TiledDesktop

/-! ## The command -/

inductive Direction where
  | left | right | up | down
  deriving DecidableEq, Repr

def Direction.valid : Direction → Int → Int → Bool
  | .left, dx, _ => dx < 0
  | .right, dx, _ => dx > 0
  | .up, _, dy => dy < 0
  | .down, _, dy => dy > 0

def centre (rect : Rect) : Option (Int × Int) := do
  let x ← Width.i32.checked (rect.x + rect.w.tdiv 2)
  let y ← Width.i32.checked (rect.y + rect.h.tdiv 2)
  return (x, y)

/-- The square of the distance, if the rectangle lies in the direction. -/
def distance (direction : Direction) (origin : Int × Int) (rect : Rect) : Option (Option Int) := do
  let (x, y) ← centre rect
  let dx ← Width.i32.checked (x - origin.1)
  let dy ← Width.i32.checked (y - origin.2)
  let squared ← Width.i64.checked (dx * dx + dy * dy)
  return if direction.valid dx dy then some squared else none

/-- The focused window and those that are not in the space are passed over. -/
def measure (direction : Direction) (origin : Int × Int) (focused index : Nat) (window : LaidWindow) :
    Option (Option Int) :=
  match window.rect with
  | some rect => if index ≠ focused ∧ window.mapped = true then distance direction origin rect else some none
  | none => some none

/-- The windows in the direction, with their distances. -/
def candidates (direction : Direction) (origin : Int × Int) (focused : Nat) : Nat → List LaidWindow →
    Option (List (Nat × Int))
  | _, [] => some []
  | index, window :: rest => do
    let found ← measure direction origin focused index window
    let others ← candidates direction origin focused (index + 1) rest
    return match found with
      | some squared => (index, squared) :: others
      | none => others

/-- `min_by_key` takes the first of several. -/
def nearest : List (Nat × Int) → Option (Nat × Int)
  | [] => none
  | candidate :: rest =>
    match nearest rest with
    | some best => if best.2 < candidate.2 then some best else some candidate
    | none => some candidate

namespace TiledDesktop

def focusedIndex (self : TiledDesktop) : Option Nat :=
  self.focus.bind fun handle => self.windows.findIdx? (·.window == handle)

/-- The rectangle that distances are measured from. -/
def originRect (self : TiledDesktop) (focused : Nat) : Rect := (self.windows[focused]?.bind (·.rect)).getD ⟨0, 0, 1, 1⟩

def moveTarget (self : TiledDesktop) (direction : Direction) (focused : Nat) : Option (Option Nat) := do
  let origin ← centre (self.originRect focused)
  let found ← candidates direction origin focused 0 self.windows
  return (nearest found).map (·.1)

/-- `move DIR`. -/
def moveCommand (self : TiledDesktop) (direction : Direction) : Option TiledDesktop :=
  match self.focusedIndex with
  | none => some self
  | some focused => do
    let target ← self.moveTarget direction focused
    match target with
    | none => return self
    | some target => return self.setWindows (Exchange.swap self.windows focused target)

end TiledDesktop

end Luma.Compositor
