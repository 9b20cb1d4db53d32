import Luma.Compositor.CaptureRows
import Luma.Compositor.RegionCover
import Mathlib.Tactic.Ring

/-! The pixels of a region are cut out of the pixels of its output.

A region is clipped to whole pixels when the frame is created, and cut out row by row when it is copied.
-/

set_option autoImplicit false

namespace Luma.Compositor

open Luma.Library Luma.Core GridCover

abbrev I32 := { value : Int // Width.i32.Fits value }

/-- A vector of bytes. None is longer than `isize::MAX`. -/
abbrev ByteVec := { bytes : List UInt8 // Width.i64.Fits bytes.length }

/-! ## The source -/

/-- `pixels.get(start..end)`. -/
def byteRange (pixels : List UInt8) (start finish : Int) : Option (List UInt8) :=
  if start ≤ finish ∧ finish ≤ pixels.length then some ((pixels.drop start.toNat).take (finish - start).toNat) else none

def cropRow (pixels : List UInt8) (fullStride x rowBytes row : Int) : Option (List UInt8) := do
  let above ← Width.u64.checked (row * fullStride)
  let left ← Width.u64.checked (x * 4)
  let start ← Width.u64.checked (above + left)
  let finish ← Width.u64.checked (start + rowBytes)
  byteRange pixels start finish

def cropPixels (pixels : ByteVec) (captureWidth captureHeight : Int) (crop : Crop) : Option (List UInt8) := do
  let captured ← Width.u64.checked captureWidth
  let fullStride ← Width.u64.checked (captured * 4)
  let fullHeight ← Width.u64.checked captureHeight
  let full ← Width.u64.checked (fullStride * fullHeight)
  if pixels.1.length ≠ full then none
  else if crop = ⟨0, 0, captureWidth, captureHeight⟩ then return pixels.1
  else
    let x ← Width.u64.checked crop.x
    let y ← Width.u64.checked crop.y
    let width ← Width.u64.checked crop.width
    let height ← Width.u64.checked crop.height
    let rowBytes ← Width.u64.checked (width * 4)
    let bytes ← Width.u64.checked (rowBytes * height)
    -- `Vec::with_capacity` panics when it is asked for more.
    let _ ← Width.i64.checked bytes
    let below ← Width.u64.checked (y + height)
    let rows ← (List.range (below - y).toNat).mapM fun row : Nat => cropRow pixels.1 fullStride x rowBytes (y + row)
    return rows.flatten

/-- The four bytes of a pixel. -/
def pixelAt (pixels : List UInt8) (width row column : Int) : List UInt8 :=
  (pixels.drop ((row * width + column) * 4).toNat).take 4

/-! ## Rows of one length -/

/-- What is in one row of several that are equally long. -/
theorem take_drop_flatten {α : Type} {size : Nat} {rows : List (List α)} (even : ∀ row ∈ rows, row.length = size)
    {index start count : Nat} {row : List α} (there : rows[index]? = some row) (inside : start + count ≤ size) :
    (rows.flatten.drop (index * size + start)).take count = (row.drop start).take count := by
  induction rows generalizing index with
  | nil => cases there
  | cons first rest ih =>
    have long := even first List.mem_cons_self
    -- The rows before the one that is asked for are skipped one by one.
    cases index with
    | zero =>
      cases there
      rw [Nat.zero_mul, Nat.zero_add, List.flatten_cons, List.drop_append_of_le_length (by omega),
        List.take_append_of_le_length (by rw [List.length_drop]; omega)]
    | succ index =>
      have skip : (index + 1) * size + start = first.length + (index * size + start) := by
        rw [long, Nat.succ_mul]
        omega
      rw [skip, List.flatten_cons, List.drop_length_add_append]
      exact ih (fun row member => even row (List.mem_cons_of_mem _ member)) there

theorem length_flatten {α : Type} {size : Nat} {rows : List (List α)} (even : ∀ row ∈ rows, row.length = size) :
    rows.flatten.length = rows.length * size := by
  induction rows with
  | nil => exact (Nat.zero_mul size).symm
  | cons first rest ih =>
    rw [List.flatten_cons, List.length_append, even first List.mem_cons_self,
      ih fun row member => even row (List.mem_cons_of_mem _ member), List.length_cons, Nat.succ_mul, Nat.add_comm]

/-! ## Regions inside the output -/

structure Crop.Inside (crop : Crop) (width height : Int) : Prop where
  left : 0 ≤ crop.x
  wide : 0 < crop.width
  right : crop.x + crop.width ≤ width
  top : 0 ≤ crop.y
  high : 0 < crop.height
  bottom : crop.y + crop.height ≤ height

theorem touched_inside {logicalWidth logicalHeight physicalWidth physicalHeight : Extent} {x0 y0 x1 y1 : Int}
    (across : 0 ≤ x0 ∧ x0 < x1 ∧ x1 ≤ logicalWidth.1) (down : 0 ≤ y0 ∧ y0 < y1 ∧ y1 ≤ logicalHeight.1) :
    (touched logicalWidth logicalHeight physicalWidth physicalHeight x0 y0 x1 y1).Inside physicalWidth.1
      physicalHeight.1 := by
  have right := scaleCeil_le logicalWidth.2.1 physicalWidth.2.1 across.2.2
  have bottom := scaleCeil_le logicalHeight.2.1 physicalHeight.2.1 down.2.2
  constructor
  · exact scaleFloor_nonneg logicalWidth.2.1 physicalWidth.2.1 across.1
  · exact Int.sub_pos_of_lt (scaleFloor_lt_scaleCeil logicalWidth.2.1 physicalWidth.2.1 across.2.1)
  · simp only [touched]
    omega
  · exact scaleFloor_nonneg logicalHeight.2.1 physicalHeight.2.1 down.1
  · exact Int.sub_pos_of_lt (scaleFloor_lt_scaleCeil logicalHeight.2.1 physicalHeight.2.1 down.2.1)
  · simp only [touched]
    omega

/-- What is left of a region lies on the output. -/
theorem clipRegion64_inside {logicalWidth logicalHeight physicalWidth physicalHeight : I32} {requested : Option Rect}
    (fits : ∀ region ∈ requested, region.Fits) {crop : Crop}
    (clipped : clipRegion64 logicalWidth.1 logicalHeight.1 physicalWidth.1 physicalHeight.1 requested =
      some (some crop)) : crop.Inside physicalWidth.1 physicalHeight.1 := by
  by_cases flat : logicalWidth.1 ≤ 0 ∨ logicalHeight.1 ≤ 0 ∨ physicalWidth.1 ≤ 0 ∨ physicalHeight.1 ≤ 0
  · simp only [clipRegion64, if_pos flat] at clipped
    cases clipped
  · cases requested with
    | none =>
      simp only [clipRegion64, if_neg flat] at clipped
      cases clipped
      constructor <;> simp only <;> omega
    | some region =>
      obtain ⟨-, -, refused⟩ | ⟨x0, y0, x1, y1, across, down, -, -, found⟩ := clipRegion_cases
        ⟨logicalWidth.1, by omega, logicalWidth.2⟩ ⟨logicalHeight.1, by omega, logicalHeight.2⟩
        ⟨physicalWidth.1, by omega, physicalWidth.2⟩ ⟨physicalHeight.1, by omega, physicalHeight.2⟩ (fits region rfl)
      · cases refused.symm.trans clipped
      · cases found.symm.trans clipped
        exact touched_inside across down

/-! ## Cutting out -/

variable {pixels : ByteVec} {width height : Int} {crop : Crop}

/-- The last byte of a pixel row of the region is one of the output. -/
theorem Crop.Inside.row_le (inside : crop.Inside width height) {row : Int} (low : 0 ≤ row) (high : row < crop.height) :
    0 ≤ (crop.y + row) * (width * 4) ∧
      (crop.y + row) * (width * 4) + crop.x * 4 + crop.width * 4 ≤ width * 4 * height := by
  obtain ⟨left, wide, right, top, tall, bottom⟩ := inside
  have below : (crop.y + row + 1) * (width * 4) ≤ height * (width * 4) :=
    Int.mul_le_mul_of_nonneg_right (by omega) (by omega)
  rw [Int.add_mul, Int.one_mul] at below
  rw [Int.mul_comm (width * 4) height]
  exact ⟨Int.mul_nonneg (by omega) (by omega), by omega⟩

theorem cropRow_eq (inside : crop.Inside width height) (whole : (pixels.1.length : Int) = width * 4 * height)
    {row : Int} (low : 0 ≤ row) (high : row < crop.height) :
    cropRow pixels.1 (width * 4) crop.x (crop.width * 4) (crop.y + row) =
      some ((pixels.1.drop ((crop.y + row) * (width * 4) + crop.x * 4).toNat).take (crop.width * 4).toNat) := by
  obtain ⟨above, end_⟩ := inside.row_le low high
  obtain ⟨left, wide, right, top, tall, bottom⟩ := inside
  have room := pixels.2.2
  simp only [Width.i64] at room
  simp only [cropRow, Option.bind_eq_bind]
  rw [Width.checked_bind (by rw [Width.u64_fits]; omega),
    Width.checked_bind (by rw [Width.u64_fits]; omega),
    Width.checked_bind (by rw [Width.u64_fits]; omega),
    Width.checked_bind (by rw [Width.u64_fits]; omega), byteRange,
    if_pos ⟨by omega, by omega⟩, add_sub_cancel_left]

/-- The rows that are cut out. -/
def cutRows (pixels : List UInt8) (width : Int) (crop : Crop) : List (List UInt8) :=
  (List.range crop.height.toNat).map fun row : Nat =>
    (pixels.drop ((crop.y + row) * (width * 4) + crop.x * 4).toNat).take (crop.width * 4).toNat

theorem cropPixels_eq (inside : crop.Inside width height) (whole : (pixels.1.length : Int) = width * 4 * height) :
    cropPixels pixels width height crop =
      some (if crop = ⟨0, 0, width, height⟩ then pixels.1 else (cutRows pixels.1 width crop).flatten) := by
  obtain ⟨left, wide, right, top, tall, bottom⟩ := inside
  have room := pixels.2.2
  simp only [Width.i64] at room
  -- Everything that is computed is bounded by the number of bytes, which a vector can have.
  have stride : width * 4 ≤ width * 4 * height := le_mul_of_one_le_right (by omega) (by omega)
  have rows : height ≤ width * 4 * height := le_mul_of_one_le_left (by omega) (by omega)
  have bytes : crop.width * 4 * crop.height ≤ width * 4 * height :=
    mul_le_mul (by omega) (by omega) (by omega) (by omega)
  have some_ : 0 ≤ crop.width * 4 * crop.height := Int.mul_nonneg (by omega) (by omega)
  simp only [cropPixels, Option.bind_eq_bind]
  rw [Width.checked_bind (by rw [Width.u64_fits]; omega),
    Width.checked_bind (by rw [Width.u64_fits]; omega),
    Width.checked_bind (by rw [Width.u64_fits]; omega),
    Width.checked_bind (by rw [Width.u64_fits]; omega), if_neg (not_not.mpr whole)]
  split
  · rfl
  rw [Width.checked_bind (by rw [Width.u64_fits]; omega),
    Width.checked_bind (by rw [Width.u64_fits]; omega),
    Width.checked_bind (by rw [Width.u64_fits]; omega),
    Width.checked_bind (by rw [Width.u64_fits]; omega),
    Width.checked_bind (by rw [Width.u64_fits]; omega),
    Width.checked_bind (by rw [Width.u64_fits]; omega),
    Width.checked_bind (by rw [Width.i64_fits]; omega),
    Width.checked_bind (by rw [Width.u64_fits]; omega), add_sub_cancel_left]
  have cut : ∀ row ∈ List.range crop.height.toNat,
      cropRow pixels.1 (width * 4) crop.x (crop.width * 4) (crop.y + (row : Nat)) =
        some ((pixels.1.drop ((crop.y + row) * (width * 4) + crop.x * 4).toNat).take (crop.width * 4).toNat) := by
    intro row there
    have below := List.mem_range.mp there
    exact cropRow_eq ⟨left, wide, right, top, tall, bottom⟩ whole (by omega) (by omega)
  rw [CaptureRows.mapM_eq_map cut]
  rfl

theorem cutRows_length (inside : crop.Inside width height) (whole : (pixels.1.length : Int) = width * 4 * height) :
    ∀ row ∈ cutRows pixels.1 width crop, row.length = (crop.width * 4).toNat := by
  intro bytes there
  obtain ⟨row, below, rfl⟩ := List.mem_map.mp there
  have low := List.mem_range.mp below
  have ends := inside.row_le (show 0 ≤ (row : Int) by omega) (by omega)
  have left := inside.left
  rw [List.length_take, List.length_drop]
  omega

/-- A pixel of the rows that are cut out is the one that lies at its place. -/
theorem pixelAt_cutRows (inside : crop.Inside width height) (whole : (pixels.1.length : Int) = width * 4 * height)
    {row column : Int} (down : 0 ≤ row ∧ row < crop.height) (across : 0 ≤ column ∧ column < crop.width) :
    pixelAt (cutRows pixels.1 width crop).flatten crop.width row column =
      pixelAt pixels.1 width (crop.y + row) (crop.x + column) := by
  -- The places in the crop and in the output differ by the bytes before the row.
  have place : ((row * crop.width + column) * 4).toNat = row.toNat * (crop.width * 4).toNat + (column * 4).toNat := by
    have wide := inside.wide
    have apart : (row * crop.width + column) * 4 = row * (crop.width * 4) + column * 4 := by ring
    rw [apart, Int.toNat_add (Int.mul_nonneg down.1 (by omega)) (by omega), Int.toNat_mul down.1 (by omega)]
  have source : (((crop.y + row) * width + (crop.x + column)) * 4).toNat =
      ((crop.y + row) * (width * 4) + crop.x * 4).toNat + (column * 4).toNat := by
    have ends := inside.row_le down.1 down.2
    have left := inside.left
    have apart : ((crop.y + row) * width + (crop.x + column)) * 4 =
        (crop.y + row) * (width * 4) + crop.x * 4 + column * 4 := by ring
    rw [apart, Int.toNat_add (by omega) (by omega)]
  have there : (cutRows pixels.1 width crop)[row.toNat]? =
      some ((pixels.1.drop ((crop.y + row) * (width * 4) + crop.x * 4).toNat).take (crop.width * 4).toNat) := by
    have below : row.toNat < crop.height.toNat := by omega
    rw [cutRows, List.getElem?_map, List.getElem?_range below, Option.map_some, Int.toNat_of_nonneg down.1]
  unfold pixelAt
  rw [place, take_drop_flatten (cutRows_length inside whole) there (by omega), source, List.drop_take, List.take_take,
    List.drop_drop, Nat.min_eq_left (by omega)]

theorem cutRows_flatten_length (inside : crop.Inside width height)
    (whole : (pixels.1.length : Int) = width * 4 * height) :
    ((cutRows pixels.1 width crop).flatten.length : Int) = 4 * crop.width * crop.height := by
  have wide := inside.wide
  have high := inside.high
  rw [length_flatten (cutRows_length inside whole), cutRows, List.length_map, List.length_range, Int.natCast_mul,
    Int.toNat_of_nonneg high.le, Int.toNat_of_nonneg (by omega)]
  ring

/-- Each pixel of the region has its four bytes. -/
theorem pixelAt_length (inside : crop.Inside width height) (whole : (pixels.1.length : Int) = width * 4 * height)
    {row column : Int} (down : 0 ≤ row ∧ row < crop.height) (across : 0 ≤ column ∧ column < crop.width) :
    (pixelAt pixels.1 width (crop.y + row) (crop.x + column)).length = 4 := by
  have ends := inside.row_le down.1 down.2
  have left := inside.left
  have apart : ((crop.y + row) * width + (crop.x + column)) * 4 =
      (crop.y + row) * (width * 4) + crop.x * 4 + column * 4 := by ring
  rw [pixelAt, List.length_take, List.length_drop, apart]
  omega

/-- Whatever crop a region is clipped to, no operation of the cutting overflows or fails, and the pixels that it cuts
out are those of the output at their places. -/
theorem crop_exact (logicalWidth logicalHeight physicalWidth physicalHeight : I32) (requested : Option Rect)
    (fits : ∀ region ∈ requested, region.Fits) (crop : Crop)
    (clipped : clipRegion64 logicalWidth.1 logicalHeight.1 physicalWidth.1 physicalHeight.1 requested =
      some (some crop)) (pixels : ByteVec) (whole : (pixels.1.length : Int) = physicalWidth.1 * 4 * physicalHeight.1) :
    ∃ cropped, cropPixels pixels physicalWidth.1 physicalHeight.1 crop = some cropped ∧
      (cropped.length : Int) = 4 * crop.width * crop.height ∧
        ∀ row column, 0 ≤ row ∧ row < crop.height → 0 ≤ column ∧ column < crop.width →
          (pixelAt cropped crop.width row column).length = 4 ∧
            pixelAt cropped crop.width row column =
              pixelAt pixels.1 physicalWidth.1 (crop.y + row) (crop.x + column) := by
  have inside := clipRegion64_inside fits clipped
  have same : ∀ row column, 0 ≤ row ∧ row < crop.height → 0 ≤ column ∧ column < crop.width →
      pixelAt (if crop = ⟨0, 0, physicalWidth.1, physicalHeight.1⟩ then pixels.1
        else (cutRows pixels.1 physicalWidth.1 crop).flatten) crop.width row column =
          pixelAt pixels.1 physicalWidth.1 (crop.y + row) (crop.x + column) := by
    intro row column down across
    split
    -- The shortcut for the whole output.
    · rename_i full
      rw [full, Int.zero_add, Int.zero_add]
    · exact pixelAt_cutRows inside whole down across
  refine ⟨_, cropPixels_eq inside whole, ?_, ?_⟩
  · split
    · rename_i full
      rw [full, whole]
      ring
    · exact cutRows_flatten_length inside whole
  · intro row column down across
    rw [same row column down across]
    exact ⟨pixelAt_length inside whole down across, rfl⟩

/-- The inner two columns of the lower two rows of four by three pixels. -/
theorem crop_exact_inner :
    ∃ cropped, cropPixels ⟨(List.range 48).map UInt8.ofNat, by decide⟩ 4 3 ⟨1, 1, 2, 2⟩ = some cropped ∧
      pixelAt cropped 2 1 1 = [40, 41, 42, 43] := by
  obtain ⟨cropped, found, -, pixel⟩ := crop_exact ⟨4, by decide⟩ ⟨3, by decide⟩ ⟨4, by decide⟩ ⟨3, by decide⟩
    (some ⟨1, 1, 2, 2⟩) (by simp [Rect.Fits]) ⟨1, 1, 2, 2⟩ (by decide)
    ⟨(List.range 48).map UInt8.ofNat, by decide⟩ (by decide)
  refine ⟨cropped, found, ?_⟩
  rw [(pixel 1 1 (by decide) (by decide)).2]
  decide

end Luma.Compositor
