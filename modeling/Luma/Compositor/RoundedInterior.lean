import Luma.Compositor.BackgroundCover
import Luma.Library.MachineInteger
import Mathlib.Analysis.Real.Sqrt
import Mathlib.Data.Rat.Floor
import Mathlib.Tactic.Linarith
import Mathlib.Tactic.Ring

/-! The opaque part of a window with round corners.

A cross of three rectangles lies within the mask that the shader draws, outside the margin in which it is antialiased.
The positions are rational here.
-/

set_option autoImplicit false

namespace Luma.Compositor

open Luma.Library

/-- A rectangle by two corners. -/
structure Corners where
  x1 : Int
  y1 : Int
  x2 : Int
  y2 : Int

/-- The rectangle of the corners, unless it is empty. -/
def Corners.region (self : Corners) : Option PixelRect :=
  if self.x2 > self.x1 ∧ self.y2 > self.y1 then
    some ⟨self.x1, self.y1, Width.i32.wrap (self.x2 - self.x1), Width.i32.wrap (self.y2 - self.y1)⟩
  else none

/-- The window's rectangle `wm_rect`. -/
structure RoundRect where
  x : ℚ
  y : ℚ
  w : ℚ
  h : ℚ

namespace RoundRect

def clampedRadius (self : RoundRect) (radius : ℚ) : ℚ := max (min (min radius (self.w / 2)) (self.h / 2)) 0

/-- The cross, with corners that are cast to `i32`. -/
def cross (self : RoundRect) (radius : ℚ) : List Corners :=
  let radius := self.clampedRadius radius
  let left := Width.i32.saturating ⌈self.x + 1⌉
  let top := Width.i32.saturating ⌈self.y + 1⌉
  let right := Width.i32.saturating ⌊self.x + self.w - 1⌋
  let bottom := Width.i32.saturating ⌊self.y + self.h - 1⌋
  let innerLeft := Width.i32.saturating ⌈self.x + radius + 1⌉
  let innerRight := Width.i32.saturating ⌊self.x + self.w - radius - 1⌋
  let innerTop := Width.i32.saturating ⌈self.y + radius + 1⌉
  let innerBottom := Width.i32.saturating ⌊self.y + self.h - radius - 1⌋
  [⟨innerLeft, top, innerRight, bottom⟩,
    ⟨left, innerTop, min innerLeft right, innerBottom⟩,
    ⟨max (max innerRight innerLeft) left, innerTop, right, innerBottom⟩]

def roundedInterior (self : RoundRect) (radius : ℚ) : List PixelRect := (self.cross radius).filterMap Corners.region

/-! ## The shader -/

/-- How far a position is beyond the edges of a side, negative between them. -/
noncomputable def beyond (start size : ℚ) (position : ℝ) : ℝ := |position - start - size / 2| - size / 2

/-- The distance to the quarter circle of a corner, from the offsets to its centre. -/
noncomputable def cornerDistance (across down radius : ℝ) : ℝ :=
  √(max across 0 ^ 2 + max down 0 ^ 2) + min (max across down) 0 - radius

/-- The distance of a point to the edge of the rounded rectangle, negative inside. -/
noncomputable def signedDistance (self : RoundRect) (radius : ℚ) (point : ℝ × ℝ) : ℝ :=
  cornerDistance (beyond self.x self.w point.1 + radius) (beyond self.y self.h point.2 + radius) radius

noncomputable def smoothstep (low high value : ℝ) : ℝ :=
  let t := max 0 (min 1 ((value - low) / (high - low)))
  t * t * (3 - 2 * t)

/-- The factor by which the shader lets a point show what is behind it. -/
noncomputable def transparency (self : RoundRect) (radius : ℚ) (point : ℝ × ℝ) : ℝ :=
  smoothstep (-3 / 4) (3 / 4) (self.signedDistance radius point)

noncomputable def centre (pixel : Pixel) : ℝ × ℝ := (pixel.1 + 1 / 2, pixel.2 + 1 / 2)

/-! ## Casts -/

variable {low high : ℚ} {column : Int} {corners : Corners} {rect : RoundRect} {radius : ℚ} {pixel : Pixel}

/-- A column between two casts is between the numbers. -/
theorem between_casts (after : Width.i32.saturating ⌈low⌉ ≤ column) (before : column < Width.i32.saturating ⌊high⌋) :
    low ≤ column ∧ (column : ℚ) + 1 ≤ high := by
  simp only [Width.saturating, Width.i32] at after before
  have first : ⌈low⌉ ≤ column := by omega
  have last : column + 1 ≤ ⌊high⌋ := by omega
  refine ⟨Int.ceil_le.mp first, ?_⟩
  have reached := Int.le_floor.mp last
  push_cast at reached
  exact reached

theorem wrap_le {value : Int} (positive : 0 ≤ value) : Width.i32.wrap value ≤ value := by
  have modulus : Width.i32.high - Width.i32.low + 1 = 4294967296 := rfl
  have low : Width.i32.low = -2147483648 := rfl
  rw [Width.wrap, modulus, low]
  omega

/-- A difference of the casts that does not fit is negative after the cast, and its rectangle has no pixels. -/
theorem region_contains {region : PixelRect} (found : corners.region = some region) (inside : region.Contains pixel) :
    (corners.x1 ≤ pixel.1 ∧ pixel.1 < corners.x2) ∧ corners.y1 ≤ pixel.2 ∧ pixel.2 < corners.y2 := by
  unfold Corners.region at found
  split at found
  · rename_i proper
    cases found
    obtain ⟨left, right, top, bottom⟩ := inside
    have across := wrap_le (show 0 ≤ corners.x2 - corners.x1 by omega)
    have down := wrap_le (show 0 ≤ corners.y2 - corners.y1 by omega)
    simp only at left right top bottom
    omega
  · cases found

/-! ## The mask -/

theorem clampedRadius_nonneg (rect : RoundRect) (radius : ℚ) : 0 ≤ rect.clampedRadius radius := le_max_right _ _

theorem cornerDistance_comm (across down radius : ℝ) :
    cornerDistance across down radius = cornerDistance down across radius := by
  unfold cornerDistance
  rw [add_comm (max across 0 ^ 2), max_comm across down]

/-- A point that is far from the corners along one axis, and within the rectangle along the other. -/
theorem cornerDistance_le {across down radius : ℝ} (some : 0 ≤ radius) (far : across ≤ -3 / 2)
    (near : down ≤ radius - 3 / 2) : cornerDistance across down radius ≤ -3 / 2 := by
  have left : max across 0 = 0 := max_eq_right (by linarith)
  have root : √(max across 0 ^ 2 + max down 0 ^ 2) = max down 0 := by
    rw [left, zero_pow two_ne_zero, zero_add, Real.sqrt_sq (le_max_right _ _)]
  rw [cornerDistance, root]
  rcases le_total 0 down with outside | inside
  · have most : min (max across down) 0 ≤ 0 := min_le_right _ _
    rw [max_eq_left outside]
    linarith
  · have most : min (max across down) 0 ≤ max across down := min_le_left _ _
    rw [max_eq_right inside]
    rcases le_total across down with order | order
    · rw [max_eq_right order] at most ⊢
      linarith
    · rw [max_eq_left order] at most ⊢
      linarith

/-- The middle of a column that lies between two margins. -/
theorem beyond_le {start size margin : ℚ} (after : start + margin ≤ column)
    (before : (column : ℚ) + 1 ≤ start + size - margin) :
    beyond start size ((column : ℝ) + 1 / 2) ≤ -(margin : ℝ) - 1 / 2 := by
  have first : (start : ℝ) + margin ≤ column := by exact_mod_cast after
  have last : (column : ℝ) + 1 ≤ start + size - margin := by exact_mod_cast before
  have reach : |(column : ℝ) + 1 / 2 - start - size / 2| ≤ size / 2 - margin - 1 / 2 := by
    rw [abs_le]
    constructor <;> linarith
  unfold beyond
  linarith

/-! ## The cross -/

/-- A pixel is so far from the edges across and down. -/
def Within (rect : RoundRect) (across down : ℚ) (pixel : Pixel) : Prop :=
  (rect.x + across ≤ pixel.1 ∧ (pixel.1 : ℚ) + 1 ≤ rect.x + rect.w - across) ∧
    rect.y + down ≤ pixel.2 ∧ (pixel.2 : ℚ) + 1 ≤ rect.y + rect.h - down

/-- Every pixel of the cross is far from the left and right edges, or from the top and the bottom. -/
theorem within_of_cross (there : corners ∈ rect.cross radius) {region : PixelRect}
    (found : corners.region = some region) (inside : region.Contains pixel) :
    rect.Within (rect.clampedRadius radius + 1) 1 pixel ∨ rect.Within 1 (rect.clampedRadius radius + 1) pixel := by
  obtain ⟨⟨left, right⟩, top, bottom⟩ := region_contains found inside
  have apart : ∀ edge : ℚ, edge + rect.clampedRadius radius + 1 = edge + (rect.clampedRadius radius + 1) := fun edge =>
    add_assoc edge _ 1
  have back : ∀ edge : ℚ, edge - rect.clampedRadius radius - 1 = edge - (rect.clampedRadius radius + 1) := fun edge =>
    sub_sub edge _ 1
  simp only [cross, apart, back, List.mem_cons, List.not_mem_nil, or_false] at there
  rcases there with rfl | rfl | rfl
  · exact .inl ⟨between_casts left right, between_casts top bottom⟩
  · exact .inr ⟨between_casts left (lt_of_lt_of_le right (min_le_right _ _)), between_casts top bottom⟩
  · exact .inr ⟨between_casts (le_trans (le_max_right _ _) left) right, between_casts top bottom⟩

/-- The middle one of the rectangles ends where the others begin. -/
theorem cross_apart (rect : RoundRect) (radius : ℚ) :
    (rect.cross radius).Pairwise fun first second => first.x2 ≤ second.x1 ∨ second.x2 ≤ first.x1 := by
  refine List.pairwise_cons.mpr ⟨?_, List.pairwise_pair.mpr (.inl ?_)⟩
  · intro second there
    rcases List.mem_pair.mp there with rfl | rfl
    · exact .inr (min_le_left _ _)
    · exact .inl (le_trans (le_max_left _ _) (le_max_left _ _))
  · exact le_trans (min_le_left _ _) (le_trans (le_max_right _ _) (le_max_left _ _))

theorem signedDistance_le (either : rect.Within (rect.clampedRadius radius + 1) 1 pixel ∨
    rect.Within 1 (rect.clampedRadius radius + 1) pixel) :
    rect.signedDistance (rect.clampedRadius radius) (centre pixel) ≤ -3 / 2 := by
  have some : (0 : ℝ) ≤ (rect.clampedRadius radius : ℚ) := by exact_mod_cast clampedRadius_nonneg rect radius
  unfold signedDistance centre
  rcases either with ⟨across, down⟩ | ⟨across, down⟩
  · have far := beyond_le across.1 across.2
    have near := beyond_le down.1 down.2
    push_cast at far near
    exact cornerDistance_le some (by linarith) (by linarith)
  · have near := beyond_le across.1 across.2
    have far := beyond_le down.1 down.2
    push_cast at far near
    rw [cornerDistance_comm]
    exact cornerDistance_le some (by linarith) (by linarith)

/-- Where the distance is beyond the margin of the shader nothing shows through. -/
theorem transparency_eq_zero {point : ℝ × ℝ} (deep : rect.signedDistance radius point ≤ -3 / 4) :
    rect.transparency radius point = 0 := by
  have none_left : (rect.signedDistance radius point - -3 / 4) / (3 / 4 - -3 / 4) ≤ 0 :=
    div_nonpos_of_nonpos_of_nonneg (by linarith) (by norm_num)
  rw [transparency, smoothstep, min_eq_right (by linarith), max_eq_left none_left]
  ring

/-- The rectangles have no pixel in common and lie within the window, and each of their pixels has its centre so deep
within the rounded mask that nothing behind it shows. -/
theorem roundedInterior_sound (rect : RoundRect) (radius : ℚ) :
    (rect.roundedInterior radius).Pairwise
        (fun first second => ∀ pixel, ¬(first.Contains pixel ∧ second.Contains pixel)) ∧
      ∀ region ∈ rect.roundedInterior radius, ∀ pixel, region.Contains pixel →
        (rect.x ≤ pixel.1 ∧ (pixel.1 : ℚ) + 1 ≤ rect.x + rect.w) ∧
          (rect.y ≤ pixel.2 ∧ (pixel.2 : ℚ) + 1 ≤ rect.y + rect.h) ∧
            rect.signedDistance (rect.clampedRadius radius) (centre pixel) ≤ -3 / 4 ∧
              rect.transparency (rect.clampedRadius radius) (centre pixel) = 0 := by
  constructor
  · refine List.pairwise_filterMap.mpr ((cross_apart rect radius).imp ?_)
    rintro first second apart one found two found' pixel ⟨inside, inside'⟩
    have here := (region_contains found inside).1
    have there := (region_contains found' inside').1
    omega
  · intro region there pixel inside
    obtain ⟨corners, member, found⟩ := List.mem_filterMap.mp there
    -- Far from two opposite edges, one pixel from the other two is enough.
    have either := within_of_cross member found inside
    have some := clampedRadius_nonneg rect radius
    have distance := signedDistance_le either
    have deep : rect.signedDistance (rect.clampedRadius radius) (centre pixel) ≤ -3 / 4 := by linarith
    refine ⟨?_, ?_, deep, transparency_eq_zero deep⟩
    · rcases either with ⟨across, -⟩ | ⟨across, -⟩
      · constructor <;> linarith
      · constructor <;> linarith
    · rcases either with ⟨-, down⟩ | ⟨-, down⟩
      · constructor <;> linarith
      · constructor <;> linarith

end RoundRect

end Luma.Compositor
