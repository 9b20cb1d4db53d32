import Luma.Compositor.Screencopy
import Luma.Core.TilePartition
import Luma.Library.GridCover
import Luma.Library.MachineInteger

/-! The pixels that stand for a region of an output.

A client names a region in logical coordinates. The part of it that lies on the output is scaled
to the output's pixels, and every pixel that it touches is captured.
-/

set_option autoImplicit false

namespace Luma.Compositor

open Luma.Library Luma.Core GridCover

/-! ## The arithmetic of the source -/

def scaleFloor64 (value physical logical : Int) : Option Int := do
  let numerator ← Width.i64.checked (value * physical)
  return numerator.tdiv logical

def scaleCeil64 (value physical logical : Int) : Option Int := do
  let numerator ← Width.i64.checked (value * physical)
  let padded ← Width.i64.checked (numerator + logical)
  let last ← Width.i64.checked (padded - 1)
  return last.tdiv logical

/-- `clip_region` on machine integers, which fails where an operation overflows. -/
def clipRegion64 (logicalWidth logicalHeight physicalWidth physicalHeight : Int) (requested : Option Rect) :
    Option (Option Crop) :=
  if logicalWidth ≤ 0 ∨ logicalHeight ≤ 0 ∨ physicalWidth ≤ 0 ∨ physicalHeight ≤ 0 then some none
  else
    match requested with
    | none => some (some ⟨0, 0, physicalWidth, physicalHeight⟩)
    | some region =>
        if region.w ≤ 0 ∨ region.h ≤ 0 then some none
        else do
          let x0 ← clampWithin 0 logicalWidth region.x
          let y0 ← clampWithin 0 logicalHeight region.y
          let right ← Width.i64.checked (region.x + region.w)
          let x1 ← clampWithin 0 logicalWidth right
          let bottom ← Width.i64.checked (region.y + region.h)
          let y1 ← clampWithin 0 logicalHeight bottom
          if x1 ≤ x0 ∨ y1 ≤ y0 then return none
          else
            let px0 ← scaleFloor64 x0 physicalWidth logicalWidth
            let py0 ← scaleFloor64 y0 physicalHeight logicalHeight
            let px1 ← scaleCeil64 x1 physicalWidth logicalWidth
            let py1 ← scaleCeil64 y1 physicalHeight logicalHeight
            let width ← Width.i64.checked (px1 - px0)
            let height ← Width.i64.checked (py1 - py0)
            return some ⟨Width.i32.wrap px0, Width.i32.wrap py0, Width.i32.wrap width, Width.i32.wrap height⟩

/-! ## What it is for -/

/-- A positive length that a 32-bit integer holds. -/
abbrev Extent := { length : Int // 0 < length ∧ Width.i32.Fits length }

/-- The points of a rectangle. Its far edges are not among them. -/
def box (x y w h : Int) : Set (ℚ × ℚ) := span x (x + w) ×ˢ span y (y + h)

/-- The part of a region that lies on an output of this size. -/
def visible (width height : Extent) (region : Rect) : Set (ℚ × ℚ) :=
  box region.x region.y region.w region.h ∩ box 0 0 width.1 height.1

/-- The visible part in pixels. -/
def scaledVisible (logicalWidth logicalHeight physicalWidth physicalHeight : Extent) (region : Rect) : Set (ℚ × ℚ) :=
  Prod.map (scaled logicalWidth.1 physicalWidth.1) (scaled logicalHeight.1 physicalHeight.1) ''
    visible logicalWidth logicalHeight region

def Crop.box (self : Crop) : Set (ℚ × ℚ) := Compositor.box self.x self.y self.width self.height

/-! ## One axis -/

variable {cells size : Extent} {start length value : Int}

theorem clamp_bounds (cells : Extent) (value : Int) : 0 ≤ clamp 0 cells.1 value ∧ clamp 0 cells.1 value ≤ cells.1 := by
  have positive := cells.2.1
  unfold clamp
  omega

theorem span_clamp (cells : Extent) (some : 0 < length) :
    span start (start + length) ∩ span 0 cells.1 =
      span (clamp 0 cells.1 start) (clamp 0 cells.1 (start + length)) := by
  have positive := cells.2.1
  rw [span_inter]
  by_cases meets : max start 0 < min (start + length) cells.1
  · unfold clamp
    congr 1 <;> omega
  · rw [span_eq_empty.mpr (not_lt.mp meets), eq_comm, span_eq_empty]
    unfold clamp
    omega

theorem product_fits (cells size : Extent) (low : 0 ≤ value) (high : value ≤ cells.1) :
    0 ≤ value * size.1 ∧ value * size.1 ≤ 2147483647 * 2147483647 := by
  have wide : 0 ≤ size.1 := size.2.1.le
  have short : cells.1 ≤ 2147483647 := cells.2.2.2
  have narrow : size.1 ≤ 2147483647 := size.2.2.2
  exact ⟨Int.mul_nonneg low wide, Int.mul_le_mul (by omega) narrow wide (by omega)⟩

theorem scaleFloor64_eq (low : 0 ≤ value) (high : value ≤ cells.1) :
    scaleFloor64 value size.1 cells.1 = some (scaleFloor cells.1 size.1 value) := by
  have product := product_fits cells size low high
  rw [scaleFloor64, Option.bind_eq_bind, Width.checked_bind (by rw [Width.i64_fits]; omega),
    Int.tdiv_eq_ediv_of_nonneg product.1]
  rfl

theorem scaleCeil64_eq (low : 0 ≤ value) (high : value ≤ cells.1) :
    scaleCeil64 value size.1 cells.1 = some (scaleCeil cells.1 size.1 value) := by
  have product := product_fits cells size low high
  have some_ := cells.2.1
  have short : cells.1 ≤ 2147483647 := cells.2.2.2
  simp only [scaleCeil64, Option.bind_eq_bind]
  rw [Width.checked_bind (by rw [Width.i64_fits]; omega),
    Width.checked_bind (by rw [Width.i64_fits]; omega),
    Width.checked_bind (by rw [Width.i64_fits]; omega),
    Int.tdiv_eq_ediv_of_nonneg (by omega)]
  rfl

/-! ## Both axes -/

variable {logicalWidth logicalHeight physicalWidth physicalHeight : Extent} {region : Rect} {crop : Crop}

/-- The pixels that the scaled rectangle between two corners touches. -/
def touched (logicalWidth logicalHeight physicalWidth physicalHeight : Extent) (x0 y0 x1 y1 : Int) : Crop where
  x := scaleFloor logicalWidth.1 physicalWidth.1 x0
  y := scaleFloor logicalHeight.1 physicalHeight.1 y0
  width := scaleCeil logicalWidth.1 physicalWidth.1 x1 - scaleFloor logicalWidth.1 physicalWidth.1 x0
  height := scaleCeil logicalHeight.1 physicalHeight.1 y1 - scaleFloor logicalHeight.1 physicalHeight.1 y0

theorem visible_eq (width height : Extent) (wide : 0 < region.w) (high : 0 < region.h) : visible width height region =
    span (clamp 0 width.1 region.x) (clamp 0 width.1 (region.x + region.w)) ×ˢ
      span (clamp 0 height.1 region.y) (clamp 0 height.1 (region.y + region.h)) := by
  rw [visible, box, box, Set.prod_inter_prod, Int.zero_add, Int.zero_add, span_clamp width wide,
    span_clamp height high]

theorem visible_eq_empty (width height : Extent) (flat : region.w ≤ 0 ∨ region.h ≤ 0) :
    visible width height region = ∅ := by
  have nowhere : box region.x region.y region.w region.h = ∅ := by
    rw [box, Set.prod_eq_empty_iff, span_eq_empty, span_eq_empty]
    omega
  rw [visible, nowhere, Set.empty_inter]

/-- What the clipping finds, with the arithmetic of the source and without. -/
theorem clipRegion_cases (logicalWidth logicalHeight physicalWidth physicalHeight : Extent) (fits : region.Fits) :
    (visible logicalWidth logicalHeight region = ∅ ∧
      clipRegion logicalWidth.1 logicalHeight.1 physicalWidth.1 physicalHeight.1 (some region) = none ∧
      clipRegion64 logicalWidth.1 logicalHeight.1 physicalWidth.1 physicalHeight.1 (some region) = some none) ∨
    ∃ x0 y0 x1 y1 : Int, (0 ≤ x0 ∧ x0 < x1 ∧ x1 ≤ logicalWidth.1) ∧ (0 ≤ y0 ∧ y0 < y1 ∧ y1 ≤ logicalHeight.1) ∧
      visible logicalWidth logicalHeight region = span x0 x1 ×ˢ span y0 y1 ∧
      clipRegion logicalWidth.1 logicalHeight.1 physicalWidth.1 physicalHeight.1 (some region) =
        some (touched logicalWidth logicalHeight physicalWidth physicalHeight x0 y0 x1 y1) ∧
      clipRegion64 logicalWidth.1 logicalHeight.1 physicalWidth.1 physicalHeight.1 (some region) =
        some (some (touched logicalWidth logicalHeight physicalWidth physicalHeight x0 y0 x1 y1)) := by
  have sized : ¬(logicalWidth.1 ≤ 0 ∨ logicalHeight.1 ≤ 0 ∨ physicalWidth.1 ≤ 0 ∨ physicalHeight.1 ≤ 0) := by
    have := logicalWidth.2.1
    have := logicalHeight.2.1
    have := physicalWidth.2.1
    have := physicalHeight.2.1
    omega
  by_cases flat : region.w ≤ 0 ∨ region.h ≤ 0
  · refine .inl ⟨visible_eq_empty _ _ flat, ?_, ?_⟩
    · simp only [clipRegion, sized, flat, if_true, if_false]
    · simp only [clipRegion64, sized, flat, if_true, if_false]
  · have shown := visible_eq logicalWidth logicalHeight (by omega : 0 < region.w) (by omega)
    have left := clamp_bounds logicalWidth region.x
    have right := clamp_bounds logicalWidth (region.x + region.w)
    have top := clamp_bounds logicalHeight region.y
    have bottom := clamp_bounds logicalHeight (region.y + region.h)
    have sums : Width.i64.Fits (region.x + region.w) ∧ Width.i64.Fits (region.y + region.h) := by
      simp only [Rect.Fits, Width.i32_fits] at fits
      simp only [Width.i64_fits]
      omega
    have across : ∀ value, clampWithin 0 logicalWidth.1 value = some (clamp 0 logicalWidth.1 value) := fun value =>
      clampWithin_of_le logicalWidth.2.1.le value
    have down : ∀ value, clampWithin 0 logicalHeight.1 value = some (clamp 0 logicalHeight.1 value) := fun value =>
      clampWithin_of_le logicalHeight.2.1.le value
    simp only [clipRegion, clipRegion64, sized, flat, across, down, Width.checked_of_fits sums.1,
      Width.checked_of_fits sums.2, if_false, Option.bind_eq_bind, Option.bind_some]
    generalize clamp 0 logicalWidth.1 region.x = x0 at *
    generalize clamp 0 logicalWidth.1 (region.x + region.w) = x1 at *
    generalize clamp 0 logicalHeight.1 region.y = y0 at *
    generalize clamp 0 logicalHeight.1 (region.y + region.h) = y1 at *
    by_cases missed : x1 ≤ x0 ∨ y1 ≤ y0
    · refine .inl ⟨?_, by simp only [missed, if_true], by simp only [missed, if_true, Option.pure_def]⟩
      rw [shown, Set.prod_eq_empty_iff, span_eq_empty, span_eq_empty]
      exact missed
    · refine .inr ⟨x0, y0, x1, y1, by omega, by omega, shown, by simp only [missed, if_false]; rfl, ?_⟩
      have px0 := scaleFloor_nonneg logicalWidth.2.1 physicalWidth.2.1 left.1
      have py0 := scaleFloor_nonneg logicalHeight.2.1 physicalHeight.2.1 top.1
      have px1 := scaleCeil_le logicalWidth.2.1 physicalWidth.2.1 right.2
      have py1 := scaleCeil_le logicalHeight.2.1 physicalHeight.2.1 bottom.2
      have wide := scaleFloor_lt_scaleCeil logicalWidth.2.1 physicalWidth.2.1 (by omega : x0 < x1)
      have high := scaleFloor_lt_scaleCeil logicalHeight.2.1 physicalHeight.2.1 (by omega : y0 < y1)
      have narrow : physicalWidth.1 ≤ 2147483647 := physicalWidth.2.2.2
      have short : physicalHeight.1 ≤ 2147483647 := physicalHeight.2.2.2
      simp only [missed, if_false, scaleFloor64_eq left.1 left.2, scaleFloor64_eq top.1 top.2,
        scaleCeil64_eq right.1 right.2, scaleCeil64_eq bottom.1 bottom.2, Option.bind_some, Option.pure_def]
      rw [Width.checked_bind (by rw [Width.i64_fits]; omega),
        Width.checked_bind (by rw [Width.i64_fits]; omega),
        Width.wrap_of_fits (by rw [Width.i32_fits]; omega), Width.wrap_of_fits (by rw [Width.i32_fits]; omega),
        Width.wrap_of_fits (by rw [Width.i32_fits]; omega), Width.wrap_of_fits (by rw [Width.i32_fits]; omega)]
      rfl

theorem touched_box (x0 y0 x1 y1 : Int) :
    (touched logicalWidth logicalHeight physicalWidth physicalHeight x0 y0 x1 y1).box =
      span (scaleFloor logicalWidth.1 physicalWidth.1 x0) (scaleCeil logicalWidth.1 physicalWidth.1 x1) ×ˢ
        span (scaleFloor logicalHeight.1 physicalHeight.1 y0) (scaleCeil logicalHeight.1 physicalHeight.1 y1) := by
  simp only [Crop.box, box, touched, add_sub_cancel]

/-- The touched pixels are the least rectangle of pixels around the scaled one. -/
theorem scaled_within_iff {x0 y0 x1 y1 : Int} (wide : x0 < x1) (high : y0 < y1) (x y w h : Int) :
    Prod.map (scaled logicalWidth.1 physicalWidth.1) (scaled logicalHeight.1 physicalHeight.1) ''
        (span x0 x1 ×ˢ span y0 y1) ⊆ box x y w h ↔
      (touched logicalWidth logicalHeight physicalWidth physicalHeight x0 y0 x1 y1).box ⊆ box x y w h := by
  have width := scaleFloor_lt_scaleCeil logicalWidth.2.1 physicalWidth.2.1 wide
  have height := scaleFloor_lt_scaleCeil logicalHeight.2.1 physicalHeight.2.1 high
  rw [Set.prodMap_image_prod, touched_box, box,
    Set.prod_subset_prod_iff' (((span_nonempty wide).image _).prod ((span_nonempty high).image _)),
    Set.prod_subset_prod_iff' ((span_nonempty width).prod (span_nonempty height)),
    scaled_subset logicalWidth.2.1 physicalWidth.2.1 wide, scaled_subset logicalHeight.2.1 physicalHeight.2.1 high,
    span_subset width, span_subset height]

theorem touched_within {x0 y0 x1 y1 : Int} (across : 0 ≤ x0 ∧ x0 < x1 ∧ x1 ≤ logicalWidth.1)
    (down : 0 ≤ y0 ∧ y0 < y1 ∧ y1 ≤ logicalHeight.1) :
    (touched logicalWidth logicalHeight physicalWidth physicalHeight x0 y0 x1 y1).box ⊆
      box 0 0 physicalWidth.1 physicalHeight.1 := by
  have width := scaleFloor_lt_scaleCeil logicalWidth.2.1 physicalWidth.2.1 across.2.1
  have height := scaleFloor_lt_scaleCeil logicalHeight.2.1 physicalHeight.2.1 down.2.1
  rw [touched_box, box, Int.zero_add, Int.zero_add]
  apply Set.prod_mono
  · exact (span_subset width).mpr ⟨scaleFloor_nonneg logicalWidth.2.1 physicalWidth.2.1 across.1,
      scaleCeil_le logicalWidth.2.1 physicalWidth.2.1 across.2.2⟩
  · exact (span_subset height).mpr ⟨scaleFloor_nonneg logicalHeight.2.1 physicalHeight.2.1 down.1,
      scaleCeil_le logicalHeight.2.1 physicalHeight.2.1 down.2.2⟩

/-- No operation overflows. A region that misses the output is refused, and of any other the result is the least
rectangle of pixels that contains the scaled visible part, which is not empty and lies on the output. -/
theorem clipRegion_covers (logicalWidth logicalHeight physicalWidth physicalHeight : Extent) (region : Rect)
    (fits : region.Fits) :
    let result := clipRegion logicalWidth.1 logicalHeight.1 physicalWidth.1 physicalHeight.1 (some region)
    clipRegion64 logicalWidth.1 logicalHeight.1 physicalWidth.1 physicalHeight.1 (some region) = some result ∧
      (result = none ↔ visible logicalWidth logicalHeight region = ∅) ∧
      ∀ crop, result = some crop → 0 < crop.width ∧ 0 < crop.height ∧
        crop.box ⊆ box 0 0 physicalWidth.1 physicalHeight.1 ∧
        scaledVisible logicalWidth logicalHeight physicalWidth physicalHeight region ⊆ crop.box ∧
        ∀ other : Crop, scaledVisible logicalWidth logicalHeight physicalWidth physicalHeight region ⊆ other.box →
          crop.box ⊆ other.box := by
  intro result
  rcases clipRegion_cases logicalWidth logicalHeight physicalWidth physicalHeight fits with
    ⟨hidden, found, checked⟩ | ⟨x0, y0, x1, y1, across, down, shown, found, checked⟩
  · have none_ : result = none := found
    exact ⟨by rw [checked, none_], iff_of_true none_ hidden, fun crop other => by cases none_.symm.trans other⟩
  · have some_ : result = some (touched logicalWidth logicalHeight physicalWidth physicalHeight x0 y0 x1 y1) := found
    refine ⟨by rw [checked, some_], ?_, ?_⟩
    · rw [some_, shown]
      exact iff_of_false (Option.some_ne_none _) ((span_nonempty across.2.1).prod (span_nonempty down.2.1)).ne_empty
    · intro crop same
      cases some_.symm.trans same
      have width := scaleFloor_lt_scaleCeil logicalWidth.2.1 physicalWidth.2.1 across.2.1
      have height := scaleFloor_lt_scaleCeil logicalHeight.2.1 physicalHeight.2.1 down.2.1
      rw [scaledVisible, shown]
      refine ⟨Int.sub_pos_of_lt width, Int.sub_pos_of_lt height, touched_within across down, ?_, ?_⟩
      · exact (scaled_within_iff across.2.1 down.2.1 _ _ _ _).mpr (subset_refl _)
      · exact fun other contains => (scaled_within_iff across.2.1 down.2.1 _ _ _ _).mp contains

/-- A region that sticks out of the output on the left, where a point is one and a half pixels. -/
theorem clipRegion_covers_left :
    clipRegion64 800 600 1200 900 (some ⟨-10, 20, 101, 51⟩) = some (some ⟨0, 30, 137, 77⟩) ∧
      scaledVisible ⟨800, by decide⟩ ⟨600, by decide⟩ ⟨1200, by decide⟩ ⟨900, by decide⟩ ⟨-10, 20, 101, 51⟩ ⊆
        Crop.box ⟨0, 30, 137, 77⟩ := by
  have covered := clipRegion_covers ⟨800, by decide⟩ ⟨600, by decide⟩ ⟨1200, by decide⟩ ⟨900, by decide⟩
    ⟨-10, 20, 101, 51⟩ (by simp [Rect.Fits])
  have found : clipRegion 800 600 1200 900 (some ⟨-10, 20, 101, 51⟩) = some ⟨0, 30, 137, 77⟩ := by decide
  exact ⟨by rw [← found]; exact covered.1, (covered.2.2 _ found).2.2.2.1⟩

end Luma.Compositor
