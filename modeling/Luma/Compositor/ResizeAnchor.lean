import Luma.Compositor.ResizeGrabs
import Luma.Core.FloatingRect

/-! Where a floating window is placed while it is resized.

A motion asks for a size and remembers the rectangle that keeps the other edges; the layout pass
that follows fits that rectangle into the usable area, one axis after the other.
-/

set_option autoImplicit false

namespace Luma.Compositor

open Luma.Library Luma.Core

/-! ## The grab and the layout pass -/

/-- A motion of the grab and the layout pass after it. -/
structure Drag where
  /-- The size that the pointer asks for, once it is a whole number. -/
  wanted : Point
  /-- The limits that the client has committed. -/
  minSize : Point := (0, 0)
  maxSize : Point := (0, 0)
  /-- The usable area of the output. -/
  area : Rect
  fits : area.Fits

/-- What the policy keeps of a window that floats and is not fullscreen. -/
structure FloatingWindow where
  rect : Option Rect := none
  floatingRect : Option Rect := none
  requestedSize : Option Int × Option Int := (none, none)
  deriving DecidableEq, Repr

/-- The size along one axis; no limit is zero. -/
def limited (least most wanted : Int) : Int :=
  min (max wanted (max least 1)) (if most = 0 then 2147483647 else most)

def newWidth (data : ResizeData) (drag : Drag) : Int :=
  limited drag.minSize.1 drag.maxSize.1
    (if data.edges.intersects .left || data.edges.intersects .right then drag.wanted.1 else data.initialWindowSize.1)

def newHeight (data : ResizeData) (drag : Drag) : Int :=
  limited drag.minSize.2 drag.maxSize.2
    (if data.edges.intersects .top || data.edges.intersects .bottom then drag.wanted.2 else data.initialWindowSize.2)

/-- The position along one axis; the far edge stays if the near one is dragged. -/
def rememberedStart (near : Bool) (initialStart initialLength length : Int) : Option Int := do
  let grown ← if near then Width.i32.checked (initialLength - length) else some 0
  Width.i32.checked (initialStart + grown)

def FloatingWindow.rememberResize (self : FloatingWindow) (data : ResizeData) (w h : Int) : Option FloatingWindow := do
  let x ← rememberedStart (data.edges.intersects .left) data.initialWindowLocation.1 data.initialWindowSize.1 w
  let y ← rememberedStart (data.edges.intersects .top) data.initialWindowLocation.2 data.initialWindowSize.2 h
  return { self with floatingRect := some ⟨x, y, w, h⟩ }

/-- What `maintain_desktop` does with a floating window. -/
def FloatingWindow.place (self : FloatingWindow) (area : Rect) : Option FloatingWindow := do
  let rect ← Core.floatingRect area self.floatingRect self.requestedSize
  return { self with floatingRect := some rect, rect := some rect }

def FloatingWindow.drag (self : FloatingWindow) (data : ResizeData) (drag : Drag) : Option FloatingWindow := do
  let remembered ← self.rememberResize data (newWidth data drag) (newHeight data drag)
  remembered.place drag.area

/-! ## Anchoring -/

/-- A grab on a floating window that the layout has placed. -/
structure FloatingGrab where
  data : ResizeData
  window : FloatingWindow
  placed : Rect
  began : window.rect = some placed
  located : Width.i32.Fits data.initialWindowLocation.1 ∧ Width.i32.Fits data.initialWindowLocation.2

/-- The edges that are not dragged are where they were. -/
structure Anchored (edges : ResizeEdge) (before after : Rect) : Prop where
  left : edges.intersects .left = false → after.x = before.x
  right : edges.intersects .right = false → after.x + after.w = before.x + before.w
  top : edges.intersects .top = false → after.y = before.y
  bottom : edges.intersects .bottom = false → after.y + after.h = before.y + before.h

/-- Every motion succeeds and leaves the other edges where they were when the grab began. -/
def FloatingGrab.Anchors (self : FloatingGrab) : FloatingWindow → List Drag → Prop
  | _, [] => True
  | window, drag :: rest => ∃ after rect, window.drag self.data drag = some after ∧ after.rect = some rect ∧
      Anchored self.data.edges self.placed rect ∧ self.Anchors after rest

/-- One axis of a drag: the length asked for, cut to the area, has room at the edge that is not dragged. -/
structure AxisKept (near far : Bool) (placedStart placedLength initialStart initialLength length areaStart available : Int) :
    Prop where
  areaEnds : areaStart + available ≤ 2147483647
  representable : near = true → Width.i32.Fits (initialLength - length) ∧
    Width.i32.Fits (initialStart + (initialLength - length))
  start : near = false → Rests placedStart (fittedLength available (some length) none) initialStart areaStart available
  stop : near = true → far = false →
    Rests (placedStart + placedLength - fittedLength available (some length) none)
      (fittedLength available (some length) none) (initialStart + (initialLength - length)) areaStart available
  whole : near = false → far = false → fittedLength available (some length) none = placedLength

structure FloatingGrab.Kept (self : FloatingGrab) (drag : Drag) : Prop where
  across : AxisKept (self.data.edges.intersects .left) (self.data.edges.intersects .right) self.placed.x self.placed.w
    self.data.initialWindowLocation.1 self.data.initialWindowSize.1 (newWidth self.data drag) drag.area.x (max drag.area.w 1)
  down : AxisKept (self.data.edges.intersects .top) (self.data.edges.intersects .bottom) self.placed.y self.placed.h
    self.data.initialWindowLocation.2 self.data.initialWindowSize.2 (newHeight self.data drag) drag.area.y (max drag.area.h 1)

/-! ## One axis -/

/-- The position asked for along one axis. -/
def askedStart (near : Bool) (initialStart initialLength length : Int) : Int :=
  if near then initialStart + (initialLength - length) else initialStart

variable {near far : Bool} {placedStart placedLength initialStart initialLength length areaStart available : Int}

theorem rememberedStart_eq_some (fits : Width.i32.Fits initialStart) (result : Int) :
    rememberedStart near initialStart initialLength length = some result ↔
      (near = true → Width.i32.Fits (initialLength - length) ∧ Width.i32.Fits (initialStart + (initialLength - length))) ∧
        result = askedStart near initialStart initialLength length := by
  unfold rememberedStart askedStart
  cases near with
  | false => simp [Width.checked_of_fits fits, eq_comm]
  | true =>
    simp only [if_true, forall_const, Option.bind_eq_bind, Option.bind_eq_some_iff, Width.checked_eq_some]
    constructor
    · rintro ⟨grown, ⟨small, rfl⟩, sum, rfl⟩
      exact ⟨⟨small, sum⟩, rfl⟩
    · rintro ⟨⟨small, sum⟩, rfl⟩
      exact ⟨_, ⟨small, rfl⟩, sum, rfl⟩

/-- Nothing overflows along one axis. -/
def AxisFits (near : Bool) (initialStart initialLength length areaStart available : Int) : Prop :=
  areaStart + available ≤ 2147483647 ∧ (near = true → Width.i32.Fits (initialLength - length) ∧
    Width.i32.Fits (initialStart + (initialLength - length)))

/-- The edges of one axis that are not dragged stay exactly where they can rest. -/
theorem axisKept_iff (some : 1 ≤ available) :
    AxisKept near far placedStart placedLength initialStart initialLength length areaStart available ↔
      AxisFits near initialStart initialLength length areaStart available ∧
        (near = false → fittedStart areaStart available (fittedLength available (Option.some length) none)
          (Option.some (askedStart near initialStart initialLength length)) = placedStart) ∧
        (far = false → fittedStart areaStart available (fittedLength available (Option.some length) none)
          (Option.some (askedStart near initialStart initialLength length)) +
            fittedLength available (Option.some length) none = placedStart + placedLength) := by
  obtain ⟨-, short⟩ := fittedLength_bounds some (Option.some length) none
  cases near with
  | false =>
    have rests := fittedStart_eq_iff areaStart short initialStart placedStart
    simp only [askedStart, Bool.false_eq_true, if_false, forall_const]
    constructor
    · rintro ⟨areaEnds, representable, start, -, whole⟩
      have placed := rests.mpr (start rfl)
      refine ⟨⟨areaEnds, representable⟩, placed, fun ends => ?_⟩
      rw [placed, whole rfl ends]
    · rintro ⟨⟨areaEnds, representable⟩, start, stop⟩
      refine ⟨areaEnds, representable, fun _ => rests.mp start, by simp, fun _ ends => ?_⟩
      have sum := stop ends
      omega
  | true =>
    have rests := fittedStart_eq_iff areaStart short (initialStart + (initialLength - length))
      (placedStart + placedLength - fittedLength available (Option.some length) none)
    simp only [askedStart, if_true, Bool.true_eq_false, false_implies, true_and]
    constructor
    · rintro ⟨areaEnds, representable, -, stop, -⟩
      refine ⟨⟨areaEnds, representable⟩, fun ends => ?_⟩
      have placed := rests.mpr (stop rfl ends)
      omega
    · rintro ⟨⟨areaEnds, representable⟩, stop⟩
      refine ⟨areaEnds, representable, by simp, fun _ ends => rests.mp ?_, by simp⟩
      have sum := stop ends
      omega

/-! ## A motion and the layout pass -/

/-- Where the window is placed, if nothing overflows. -/
def dragged (data : ResizeData) (drag : Drag) : Rect :=
  fitted drag.area (some ⟨
    askedStart (data.edges.intersects .left) data.initialWindowLocation.1 data.initialWindowSize.1 (newWidth data drag),
    askedStart (data.edges.intersects .top) data.initialWindowLocation.2 data.initialWindowSize.2 (newHeight data drag),
    newWidth data drag, newHeight data drag⟩) (none, none)

theorem drag_eq_some {data : ResizeData} (located : Width.i32.Fits data.initialWindowLocation.1 ∧
    Width.i32.Fits data.initialWindowLocation.2) (window after : FloatingWindow) (drag : Drag) :
    window.drag data drag = some after ↔
      (AxisFits (data.edges.intersects .left) data.initialWindowLocation.1 data.initialWindowSize.1
          (newWidth data drag) drag.area.x (max drag.area.w 1) ∧
        AxisFits (data.edges.intersects .top) data.initialWindowLocation.2 data.initialWindowSize.2
          (newHeight data drag) drag.area.y (max drag.area.h 1)) ∧
      after = { window with floatingRect := some (dragged data drag), rect := some (dragged data drag) } := by
  unfold FloatingWindow.drag FloatingWindow.rememberResize FloatingWindow.place AxisFits
  simp only [Option.bind_eq_bind, Option.bind_eq_some_iff, rememberedStart_eq_some located.1,
    rememberedStart_eq_some located.2, Option.pure_def, Option.some.injEq, floatingRect_eq drag.fits]
  constructor
  · rintro ⟨remembered, ⟨x, ⟨across, rfl⟩, y, ⟨down, rfl⟩, rfl⟩, rect, computed, rfl⟩
    split at computed
    · rename_i edges
      cases computed
      exact ⟨⟨⟨edges.1, across⟩, edges.2, down⟩, rfl⟩
    · cases computed
  · rintro ⟨⟨⟨right, across⟩, bottom, down⟩, rfl⟩
    refine ⟨_, ⟨_, ⟨across, rfl⟩, _, ⟨down, rfl⟩, rfl⟩, _, if_pos ⟨right, bottom⟩, rfl⟩

variable (grab : FloatingGrab)

/-- A motion keeps the other edges exactly where its condition holds on both axes. -/
theorem drag_anchored (window : FloatingWindow) (drag : Drag) :
    (∃ after rect, window.drag grab.data drag = some after ∧ after.rect = some rect ∧
      Anchored grab.data.edges grab.placed rect) ↔ grab.Kept drag := by
  have wide : 1 ≤ max drag.area.w 1 := by omega
  have high : 1 ≤ max drag.area.h 1 := by omega
  constructor
  · rintro ⟨after, rect, moved, placed, anchored⟩
    obtain ⟨⟨across, down⟩, rfl⟩ := (drag_eq_some grab.located window after drag).mp moved
    cases placed
    exact ⟨(axisKept_iff wide).mpr ⟨across, anchored.left, anchored.right⟩,
      (axisKept_iff high).mpr ⟨down, anchored.top, anchored.bottom⟩⟩
  · rintro ⟨across, down⟩
    obtain ⟨across, left, right⟩ := (axisKept_iff wide).mp across
    obtain ⟨down, top, bottom⟩ := (axisKept_iff high).mp down
    exact ⟨_, _, (drag_eq_some grab.located window _ drag).mpr ⟨⟨across, down⟩, rfl⟩, rfl, left, right, top, bottom⟩

/-- Over a whole grab the other edges stay exactly if they do at each motion. -/
theorem resize_anchored (drags : List Drag) :
    grab.Anchors grab.window drags ↔ ∀ drag ∈ drags, grab.Kept drag := by
  generalize grab.window = window
  induction drags generalizing window with
  | nil => simp [FloatingGrab.Anchors]
  | cons drag rest ih =>
    have first := drag_anchored grab window drag
    simp only [FloatingGrab.Anchors, List.forall_mem_cons, ← first]
    constructor
    · rintro ⟨after, rect, moved, placed, anchored, later⟩
      exact ⟨⟨after, rect, moved, placed, anchored⟩, (ih after).mp later⟩
    · rintro ⟨⟨after, rect, moved, placed, anchored⟩, later⟩
      exact ⟨after, rect, moved, placed, anchored, (ih after).mpr later⟩

/-- A window near the right border of its output, dragged at its right edge. -/
def nearBorder : FloatingGrab where
  data := { edges := .right, initialWindowLocation := (1500, 200), initialWindowSize := (400, 300) }
  window := { rect := some ⟨1500, 200, 400, 300⟩, floatingRect := some ⟨1500, 200, 400, 300⟩ }
  placed := ⟨1500, 200, 400, 300⟩
  began := rfl
  located := by simp

/-- The pointer goes to the border, which it took hold of the window thirty pixels from. -/
def toBorder : Drag where
  wanted := (430, 300)
  area := ⟨0, 0, 1920, 1080⟩
  fits := by simp [Rect.Fits]

/-- The layout pass moves the left edge by what the right one went too far. -/
theorem resize_slides : ¬∀ (grab : FloatingGrab) (drags : List Drag), grab.Anchors grab.window drags := by
  intro anchors
  obtain ⟨after, rect, moved, placed, anchored, -⟩ := anchors nearBorder [toBorder]
  have slid : nearBorder.window.drag nearBorder.data toBorder =
      some { rect := some ⟨1490, 200, 430, 300⟩, floatingRect := some ⟨1490, 200, 430, 300⟩ } := by decide
  rw [slid] at moved
  cases moved
  cases placed
  exact absurd (anchored.left (by decide)) (by decide)

end Luma.Compositor
