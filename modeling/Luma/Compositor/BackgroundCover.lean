import Luma.Library.Layers
import Mathlib.Data.List.Basic

/-! Whether the windows of an output hide its background.

The regions that are drawn opaquely are subtracted from the output one after the other. Only an empty remainder is
reported as covered, and work that would grow without bound is given up.
-/

set_option autoImplicit false

namespace Luma.Compositor

open Luma.Library

abbrev Pixel := Int × Int

/-- A rectangle of physical pixels, by its corner and its size. -/
structure PixelRect where
  x : Int
  y : Int
  w : Int
  h : Int
  deriving DecidableEq, Repr

namespace PixelRect

def isEmpty (self : PixelRect) : Bool := self.w == 0 || self.h == 0

def Contains (self : PixelRect) (pixel : Pixel) : Prop :=
  self.x ≤ pixel.1 ∧ pixel.1 < self.x + self.w ∧ self.y ≤ pixel.2 ∧ pixel.2 < self.y + self.h

/-- The rectangle at an origin. -/
def shifted (self : PixelRect) (origin : Int × Int) : PixelRect :=
  { self with x := self.x + origin.1, y := self.y + origin.2 }

end PixelRect

/-- `Rectangle::subtract_rects_many_in_place`. -/
abbrev Subtraction := List PixelRect → List PixelRect → List PixelRect

/-- What remains are the pixels that nothing was subtracted from. -/
def Exact (subtract : Subtraction) : Prop :=
  ∀ rects others pixel, (∃ rect ∈ subtract rects others, rect.Contains pixel) ↔
    (∃ rect ∈ rects, rect.Contains pixel) ∧ ¬∃ other ∈ others, other.Contains pixel

/-- The loop of `fully_covered` from the region of an index on. -/
def coveredFrom (subtract : Subtraction) : Nat → List PixelRect → List PixelRect → Bool
  | _, _, [] => false
  | index, remaining, region :: regions =>
      if 4096 ≤ index then false
      else
        let remaining := subtract remaining [region]
        if remaining.isEmpty then true
        else if 256 < remaining.length then false
        else coveredFrom subtract (index + 1) remaining regions

def fullyCovered (subtract : Subtraction) (area : PixelRect) (regions : List PixelRect) : Bool :=
  if area.isEmpty then false else coveredFrom subtract 0 [area] regions

/-- An element of the scene, which is drawn at its origin. -/
structure EffectElement (Color : Type) where
  origin : Int × Int
  opaqueRegions : List PixelRect
  blur : Bool
  /-- A surface of the background or the bottom layer. -/
  background : Bool
  draw : Pixel → Color → Color
  /-- A region is opaque if nothing is blended there. -/
  blends : ∀ region ∈ opaqueRegions, ∀ pixel, (region.shifted origin).Contains pixel →
    ∀ behind behind', draw pixel behind = draw pixel behind'

namespace EffectElement

variable {Color : Type}

def screenRegions (self : EffectElement Color) : List PixelRect := self.opaqueRegions.map (·.shifted self.origin)

def layer (self : EffectElement Color) : Layer Pixel Color where
  draw := self.draw
  solid := { pixel | ∃ region ∈ self.screenRegions, region.Contains pixel }
  hides := by
    rintro pixel ⟨region, there, inside⟩
    obtain ⟨relative, listed, rfl⟩ := List.mem_map.mp there
    exact self.blends relative listed pixel inside

end EffectElement

/-! ## Coverage -/

variable {subtract : Subtraction} {area : PixelRect} {regions : List PixelRect}

/-- A pixel that remains is in one of the regions that follow. -/
theorem coveredFrom_covers (exact : Exact subtract) {index : Nat} {remaining : List PixelRect}
    (covered : coveredFrom subtract index remaining regions = true) {pixel : Pixel}
    (inside : ∃ rect ∈ remaining, rect.Contains pixel) : ∃ region ∈ regions, region.Contains pixel := by
  induction regions generalizing index remaining with
  | nil => cases covered
  | cons region regions ih =>
    by_cases hit : region.Contains pixel
    · exact ⟨region, List.mem_cons_self, hit⟩
    -- Otherwise the subtraction leaves the pixel, so the loop has gone on.
    have left : ∃ rect ∈ subtract remaining [region], rect.Contains pixel := by
      refine (exact remaining [region] pixel).mpr ⟨inside, ?_⟩
      rintro ⟨other, single, here⟩
      cases List.mem_singleton.mp single
      exact hit here
    unfold coveredFrom at covered
    split at covered
    · cases covered
    simp only at covered
    split at covered
    · rename_i empty
      obtain ⟨rect, there, -⟩ := left
      rw [List.isEmpty_iff.mp empty] at there
      cases there
    split at covered
    · cases covered
    obtain ⟨later, there, contained⟩ := ih covered left
    exact ⟨later, List.mem_cons_of_mem _ there, contained⟩

theorem fullyCovered_covers (exact : Exact subtract) (covered : fullyCovered subtract area regions = true)
    {pixel : Pixel} (inside : area.Contains pixel) : ∃ region ∈ regions, region.Contains pixel := by
  unfold fullyCovered at covered
  split at covered
  · cases covered
  · exact coveredFrom_covers exact covered ⟨area, List.mem_singleton.mpr rfl, inside⟩

/-- What is behind elements with these opaque regions is not seen. -/
theorem regions_hide {Color : Type} {front : List (EffectElement Color)} {pixel : Pixel}
    (hit : ∃ region ∈ front.flatMap (·.screenRegions), region.Contains pixel)
    (below below' : List (EffectElement Color)) (backdrop backdrop' : Color) :
    Layer.compose ((front ++ below).map (·.layer)) pixel backdrop =
      Layer.compose ((front ++ below').map (·.layer)) pixel backdrop' := by
  obtain ⟨region, there, inside⟩ := hit
  obtain ⟨element, listed, own⟩ := List.mem_flatMap.mp there
  have solid : pixel ∈ element.layer.solid := ⟨region, own, inside⟩
  rw [List.map_append, List.map_append, Layer.compose_append, Layer.compose_append]
  exact Layer.compose_hides (List.mem_map_of_mem listed) solid _ _

/-- An area that is reported as covered has each of its pixels in a region. Elements with these regions hide whatever
is behind them. -/
theorem covered_hides (exact : Exact subtract) (covered : fullyCovered subtract area regions = true) :
    (∀ pixel, area.Contains pixel → ∃ region ∈ regions, region.Contains pixel) ∧
      ∀ {Color : Type} (front : List (EffectElement Color)), front.flatMap (·.screenRegions) = regions →
        ∀ below below' pixel backdrop backdrop', area.Contains pixel →
          Layer.compose ((front ++ below).map (·.layer)) pixel backdrop =
            Layer.compose ((front ++ below').map (·.layer)) pixel backdrop' := by
  have covers : ∀ pixel, area.Contains pixel → ∃ region ∈ regions, region.Contains pixel :=
    fun _ inside => fullyCovered_covers exact covered inside
  refine ⟨covers, ?_⟩
  rintro Color front rfl below below' pixel backdrop backdrop' inside
  exact regions_hide (covers pixel inside) below below' backdrop backdrop'

/-! ## A subtraction -/

/-- What is left of a rectangle is above, below, left and right of the other one. -/
def subtractRect (rect other : PixelRect) : List PixelRect :=
  let left := max rect.x other.x
  let right := min (rect.x + rect.w) (other.x + other.w)
  let top := max rect.y other.y
  let bottom := min (rect.y + rect.h) (other.y + other.h)
  if left < right ∧ top < bottom then
    [{ rect with h := top - rect.y }, { rect with y := bottom, h := rect.y + rect.h - bottom },
      { x := rect.x, y := top, w := left - rect.x, h := bottom - top },
      { x := right, y := top, w := rect.x + rect.w - right, h := bottom - top }].filter
        fun part => 0 < part.w && 0 < part.h
  else [rect]

def subtractRects (rects others : List PixelRect) : List PixelRect :=
  others.foldl (fun rects other => rects.flatMap (subtractRect · other)) rects

theorem contains_filter (parts : List PixelRect) (pixel : Pixel) :
    (∃ part ∈ parts.filter fun part => 0 < part.w && 0 < part.h, part.Contains pixel) ↔
      ∃ part ∈ parts, part.Contains pixel := by
  constructor
  · rintro ⟨part, there, inside⟩
    exact ⟨part, (List.mem_filter.mp there).1, inside⟩
  · rintro ⟨part, there, inside⟩
    have sized : 0 < part.w ∧ 0 < part.h := by
      unfold PixelRect.Contains at inside
      omega
    exact ⟨part, List.mem_filter.mpr ⟨there, by simpa using sized⟩, inside⟩

theorem contains_subtractRect (rect other : PixelRect) (pixel : Pixel) :
    (∃ part ∈ subtractRect rect other, part.Contains pixel) ↔ rect.Contains pixel ∧ ¬other.Contains pixel := by
  unfold subtractRect
  simp only
  split
  · rw [contains_filter]
    simp only [List.exists_mem_cons_iff, List.not_mem_nil, false_and, exists_false, or_false]
    unfold PixelRect.Contains
    simp only
    omega
  · simp only [List.mem_singleton, exists_eq_left]
    unfold PixelRect.Contains
    omega

theorem subtractRects_exact : Exact subtractRects := by
  intro rects others pixel
  induction others generalizing rects with
  | nil => simp [subtractRects]
  | cons other others ih =>
    have next : (∃ rect ∈ rects.flatMap (subtractRect · other), rect.Contains pixel) ↔
        (∃ rect ∈ rects, rect.Contains pixel) ∧ ¬other.Contains pixel := by
      constructor
      · rintro ⟨part, there, inside⟩
        obtain ⟨rect, listed, cut⟩ := List.mem_flatMap.mp there
        obtain ⟨whole, outside⟩ := (contains_subtractRect rect other pixel).mp ⟨part, cut, inside⟩
        exact ⟨⟨rect, listed, whole⟩, outside⟩
      · rintro ⟨⟨rect, listed, whole⟩, outside⟩
        obtain ⟨part, cut, inside⟩ := (contains_subtractRect rect other pixel).mpr ⟨whole, outside⟩
        exact ⟨part, List.mem_flatMap.mpr ⟨rect, listed, cut⟩, inside⟩
    show (∃ rect ∈ subtractRects (rects.flatMap (subtractRect · other)) others, rect.Contains pixel) ↔ _
    rw [ih, next, List.exists_mem_cons_iff, not_or, and_assoc]

/-- Two halves of an output that overlap. -/
def halves : List PixelRect := [⟨-10, 0, 60, 80⟩, ⟨50, 0, 60, 80⟩]

theorem covered_hides_halves :
    fullyCovered subtractRects ⟨0, 0, 100, 80⟩ halves = true ∧
      ∃ region ∈ halves, region.Contains (50, 79) := by
  have covered : fullyCovered subtractRects ⟨0, 0, 100, 80⟩ halves = true := by decide +kernel
  refine ⟨covered, (covered_hides subtractRects_exact covered).1 (50, 79) ?_⟩
  unfold PixelRect.Contains
  decide

end Luma.Compositor
