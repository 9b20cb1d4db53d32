import Luma.Compositor.State

/-! The wlroots screencopy protocol: frames, copies made at once and copies
that wait for the next repaint.

A frame the compositor refused at its creation stays a resource of the client.
-/

set_option autoImplicit false

namespace Luma.Compositor

open Luma.Core

def clamp (low high value : Int) : Int := max low (min high value)

/-- Products of 32-bit values fit the source's 64-bit arithmetic. -/
def clipRegion (logicalWidth logicalHeight physicalWidth physicalHeight : Int) (requested : Option Rect) :
    Option Crop :=
  if logicalWidth ≤ 0 ∨ logicalHeight ≤ 0 ∨ physicalWidth ≤ 0 ∨ physicalHeight ≤ 0 then none
  else
    match requested with
    | none => some ⟨0, 0, physicalWidth, physicalHeight⟩
    | some region =>
      if region.w ≤ 0 ∨ region.h ≤ 0 then none
      else
        let x0 := clamp 0 logicalWidth region.x
        let y0 := clamp 0 logicalHeight region.y
        let x1 := clamp 0 logicalWidth (region.x + region.w)
        let y1 := clamp 0 logicalHeight (region.y + region.h)
        if x1 ≤ x0 ∨ y1 ≤ y0 then none
        else
          let scaleFloor := fun value physical logical : Int => value * physical / logical
          let scaleCeil := fun value physical logical : Int => (value * physical + logical - 1) / logical
          let px0 := scaleFloor x0 physicalWidth logicalWidth
          let py0 := scaleFloor y0 physicalHeight logicalHeight
          let px1 := scaleCeil x1 physicalWidth logicalWidth
          let py1 := scaleCeil y1 physicalHeight logicalHeight
          some ⟨px0, py0, px1 - px0, py1 - py0⟩

namespace AnvilState

def setScreencopy (self : AnvilState) (screencopy : Screencopy) : AnvilState := { self with screencopy }

def findScreencopy (self : AnvilState) (frame : Nat) : Option ScreencopyFrame :=
  self.screencopy.frames.find? (·.id == frame)

/-- Change one frame's data. -/
def updateScreencopy (self : AnvilState) (frame : Nat) (change : ScreencopyFrame → ScreencopyFrame) : AnvilState :=
  self.setScreencopy { self.screencopy with
    frames := self.screencopy.frames.map fun other => if other.id == frame then change other else other }

/-- The output a frame may be made for. -/
def screencopyOutput (self : AnvilState) (output : Nat) : Option Output :=
  if !self.lock.locked && self.desktop.active then self.findOutput output else none

def createFrame (self : AnvilState) (manager output : Nat) (requested : Option Rect) :
    AnvilState × List Observation :=
  let found := self.screencopyOutput output
  let size := (found.bind (·.mode)).getD (0, 0)
  let logical := ((found.bind (·.geometry)).map fun geometry => (geometry.w, geometry.h)).getD (0, 0)
  let crop := clipRegion logical.1 logical.2 size.1 size.2 requested
  let frame : ScreencopyFrame := {
    id := self.screencopy.nextFrame
    output := found.map (·.serial)
    captureWidth := size.1
    captureHeight := size.2
    crop := crop.getD ⟨0, 0, 0, 0⟩
    initial := !self.screencopy.captured.contains manager }
  let state := self.setScreencopy { self.screencopy with
    captured := manager :: self.screencopy.captured
    frames := self.screencopy.frames ++ [frame]
    nextFrame := self.screencopy.nextFrame + 1 }
  if found.isNone || crop.isNone then (state, [.screencopyFailed frame.id]) else (state, [])

/-- Whether the pixels of the output still have the size the frame announced. -/
def sameSize (frame : ScreencopyFrame) (output : Output) : Bool :=
  output.mode.any fun mode => mode.1 * mode.2 == frame.captureWidth * frame.captureHeight

/-- A buffer of the wrong kind is a protocol error and ends the client. -/
def performCopy (self : AnvilState) (host : Host) (frame : ScreencopyFrame) : List Observation :=
  match frame.output.bind self.findOutput with
  | none => [.screencopyFailed frame.id]
  | some output =>
    if self.lock.locked || !self.desktop.active then [.screencopyFailed frame.id]
    else if !host.validBuffer frame.id then [.screencopyWithdrawn frame.id]
    else
      match host.copy frame.id with
      | .error _ => [.screencopyFailed frame.id]
      | .ok () => if sameSize frame output then [.screencopyReady frame.id] else [.screencopyFailed frame.id]

def isScreencopyAlive (self : AnvilState) (frame : Nat) : Bool := (self.findScreencopy frame).isSome

def requestCopy (self : AnvilState) (host : Host) (frame buffer : Nat) (withDamage : Bool) :
    AnvilState × List Observation :=
  match self.findScreencopy frame with
  | none => (self, [])
  | some found =>
    if found.used then (self, [.screencopyWithdrawn frame])
    else
      let self := self.updateScreencopy frame fun data => { data with used := true }
      if withDamage && !found.initial then
        let waiting := self.screencopy.pending.filter self.isScreencopyAlive
        let self := self.setScreencopy { self.screencopy with pending := waiting }
        if waiting.length ≥ 32 then (self, [.screencopyFailed frame])
        else
          let self := self.updateScreencopy frame fun data => { data with pending := some buffer }
          (self.setScreencopy { self.screencopy with pending := self.screencopy.pending ++ [frame] }, [])
      else (self, self.performCopy host found)

/-- One frame of the loop in `process_pending`. -/
def processScreencopy (host : Host) (current : AnvilState × List Observation) (frame : Nat) :
    AnvilState × List Observation :=
  match current.1.findScreencopy frame with
  | none => current
  | some found =>
    if found.pending.isNone then current
    else
      let state := current.1.updateScreencopy frame fun data => { data with pending := none }
      (state, state.performCopy host found ++ current.2)

def processScreencopies (self : AnvilState) (host : Host) : AnvilState × List Observation :=
  self.screencopy.pending.foldl (processScreencopy host)
    (self.setScreencopy { self.screencopy with pending := [] }, [])

/-- The frame object is destroyed, by the client or with it. -/
def destroyScreencopy (self : AnvilState) (frame : Nat) : AnvilState × List Observation :=
  (self.setScreencopy { self.screencopy with frames := self.screencopy.frames.filter (·.id != frame) },
    [.screencopyWithdrawn frame])

end AnvilState

end Luma.Compositor
