import Luma.Core.Settings
import Luma.Library.EvenSplit
import Luma.Library.MachineInteger

/-! The tiles of an output: a master and, beside it, a stack that shares the height.

The arithmetic is that of 32-bit integers, and fails where it overflows. No operand of a division
is negative. The rounded product of a width and the master's ratio is given as a function.
-/

set_option autoImplicit false

namespace Luma.Core

open Luma.Library

/-- The gap around the tiles, reduced until they fit. -/
def tileGap (area : Rect) (count : Nat) (gap : Int) (monocle : Bool) : Option Int := do
  let spare ← Width.i32.checked (min area.w area.h - 1)
  let gap := min (max gap 0) (max spare 0 / 2)
  if 1 < count ∧ monocle = false ∧ (count - 1 : Nat) ≤ max area.h 0 ∧ 2 ≤ area.w then
    let high ← Width.i32.checked (area.h - (count - 1 : Nat))
    let wide ← Width.i32.checked (area.w - 2)
    return min (min gap (high / 2)) (wide / 2)
  else return gap

/-- The loop over the cells of the stack. -/
def pushCells (x w usable n gap : Int) : List Nat → Int → Option (List Rect)
  | [], _ => some []
  | i :: rest, y => do
    let h ← Width.i32.checked (EvenSplit.part usable n i)
    let advance ← Width.i32.checked (h + gap)
    let next ← Width.i32.checked (y + advance)
    let below ← pushCells x w usable n gap rest next
    return ⟨x, y, w, h⟩ :: below

/-- The master and a stack of `n` windows. -/
def splitArea (inner : Rect) (n : Nat) (gap : Int) (share : Int → Int) : Option (List Rect) := do
  let spare ← Width.i32.checked (inner.w - 2)
  let splitGap := min gap (max spare 0)
  let left ← Width.i32.checked (inner.w - splitGap)
  let available := max left 2
  let most ← Width.i32.checked (available - 1)
  let masterWidth ← clampWithin 1 most (share available)
  let room ← Width.i32.checked (inner.h - n)
  let gaps ← Width.i32.checked (n - 1)
  let stackGap := min gap (max (room / max gaps 1) 0)
  let spaced ← Width.i32.checked (stackGap * gaps)
  let rest ← Width.i32.checked (inner.h - spaced)
  let beside ← Width.i32.checked (inner.x + masterWidth)
  let x ← Width.i32.checked (beside + splitGap)
  let narrower ← Width.i32.checked (inner.w - masterWidth)
  let w ← Width.i32.checked (narrower - splitGap)
  let stack ← pushCells x (max w 1) (max rest n) n stackGap (List.range n) inner.y
  return { inner with w := masterWidth } :: stack

/-- The tiles within the outer gap. -/
def arrange (inner : Rect) (count : Nat) (gap : Int) (share : Int → Int) (monocle : Bool) : Option (List Rect) :=
  if count = 1 ∨ monocle = true ∨ inner.w < 2 ∨ inner.h < (count - 1 : Nat) then some (List.replicate count inner)
  else splitArea inner (count - 1) gap share

def tile (area : Rect) (count : Nat) (gap : Int) (share : Int → Int) (monocle : Bool) : Option (List Rect) :=
  if count = 0 then some []
  else do
    let gap ← tileGap area count gap monocle
    let x ← Width.i32.checked (area.x + gap)
    let y ← Width.i32.checked (area.y + gap)
    let sides ← Width.i32.checked (2 * gap)
    let w ← Width.i32.checked (area.w - sides)
    let h ← Width.i32.checked (area.h - sides)
    arrange ⟨x, y, max w 1, max h 1⟩ count gap share monocle

/-! ## What a tiling is -/

/-- The rectangle is not empty and lies in the area. -/
structure Rect.Within (rect area : Rect) : Prop where
  wide : 0 < rect.w
  high : 0 < rect.h
  left : area.x ≤ rect.x
  top : area.y ≤ rect.y
  right : rect.x + rect.w ≤ area.x + area.w
  bottom : rect.y + rect.h ≤ area.y + area.h

def Rect.Apart (self other : Rect) : Prop :=
  self.x + self.w ≤ other.x ∨ other.x + other.w ≤ self.x ∨ self.y + self.h ≤ other.y ∨ other.y + other.h ≤ self.y

/-- The area within the outer gap is filled by a master and a stack. -/
structure Filled (area : Rect) (outer column inner : Int) (master : Rect) (stack : List Rect) : Prop where
  corner : master.x = area.x + outer ∧ master.y = area.y + outer
  height : master.h = area.h - 2 * outer
  alone : stack = [] → master.w = area.w - 2 * outer
  width : ∀ cell ∈ stack, cell.x = master.x + master.w + column ∧ master.w + column + cell.w = area.w - 2 * outer
  stacked : stack.map (fun cell => (cell.y, cell.h)) = EvenSplit.place inner master.y (stack.map Rect.h)
  heights : stack ≠ [] → (stack.map Rect.h).sum + inner * (stack.length - 1) = area.h - 2 * outer

/-- The windows share the area. -/
structure Divides (area : Rect) (gap : Int) (rects : List Rect) : Prop where
  apart : rects.Pairwise Rect.Apart
  leveled : rects.tail.Pairwise fun upper lower => lower.h ≤ upper.h ∧ upper.h ≤ lower.h + 1
  filled : ∀ master stack, rects = master :: stack → ∃ outer column inner : Int,
    (0 ≤ outer ∧ outer ≤ max gap 0) ∧ (0 ≤ column ∧ column ≤ max gap 0) ∧ (0 ≤ inner ∧ inner ≤ max gap 0) ∧
      Filled area outer column inner master stack

structure Tiling (area : Rect) (count : Nat) (gap : Int) (monocle : Bool) (rects : List Rect) : Prop where
  complete : rects.length = count
  within : ∀ rect ∈ rects, rect.Within area
  divides : monocle = false → 2 ≤ area.w → (count : Int) - 1 ≤ area.h → Divides area gap rects

end Luma.Core
