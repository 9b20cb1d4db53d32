import Mathlib.Data.List.Basic
import Luma.Library.Fallible
import Luma.Library.MachineInteger

/-! Captured pixels are copied into the client's buffer row by row.

The client announces the buffer's size, stride and offset. They are checked once, against the
pool as it is mapped, and the loop over the rows relies on that check.
-/

set_option autoImplicit false

namespace Luma.Compositor

open Luma.Library

namespace CaptureRows

/-- The pixel formats of shared memory; the many others are a code. -/
inductive Format where
  | argb8888 | xrgb8888
  | other (code : Nat)
  deriving DecidableEq, Repr

/-- What the client announced. -/
structure BufferData where
  offset : Int
  width : Int
  height : Int
  stride : Int
  format : Format
  deriving DecidableEq, Repr

structure Layout where
  row : Int
  height : Int
  stride : Int
  offset : Int
  bytes : Int
  deriving DecidableEq, Repr

/-- `ok_or`. -/
def okOr {α : Type} (failure : String) : Option α → Except String α
  | some value => .ok value
  | none => .error failure

/-- The check of the announcement. Its operations are checked by the source itself. -/
def layout (data : BufferData) (len width height : Int) : Except String Layout :=
  if data.width ≠ width ∨ data.height ≠ height ∨ data.format ∉ [.argb8888, .xrgb8888] then
    .error "capture buffer does not match current output"
  else do
    let row ← okOr "invalid capture width" do
      let width ← Width.u64.checked width
      Width.u64.checked (width * 4)
    let height ← okOr "invalid capture height" (Width.u64.checked height)
    let stride ← okOr "invalid stride" (Width.u64.checked data.stride)
    let offset ← okOr "invalid buffer offset" (Width.u64.checked data.offset)
    let finish ← okOr "capture buffer overflow" do
      let above ← Width.u64.checked (stride * Width.u64.saturating (height - 1))
      let last ← Width.u64.checked (above + row)
      Width.u64.checked (last + offset)
    let bytes ← okOr "capture exceeds size limit" do
      let bytes ← Width.u64.checked (row * height)
      if bytes ≤ 256 * 1024 * 1024 then some bytes else none
    if row = 0 ∨ height = 0 ∨ stride < row ∨ finish > len then .error "invalid capture buffer bounds"
    else return { row, height, stride, offset, bytes }

/-- A copy from the pixels to the pool. -/
structure Copy where
  source : Int
  target : Int
  count : Int
  deriving DecidableEq, Repr

/-- One turn of the loop, which fails where its arithmetic overflows. -/
def Layout.copy (self : Layout) (y : Nat) : Option Copy := do
  let source ← Width.u64.checked (y * self.row)
  let down ← Width.u64.checked (y * self.stride)
  let target ← Width.u64.checked (self.offset + down)
  return { source, target, count := self.row }

def Layout.copies (self : Layout) : Option (List Copy) := (List.range self.height.toNat).mapM self.copy

/-- The copies that `write` makes from so many bytes of pixels. -/
def write (data : BufferData) (len width height pixels : Int) : Except String (Option (List Copy)) := do
  let found ← layout data len width height
  if pixels ≠ found.bytes then .error "unexpected capture pixel size" else return found.copies

/-! ## What the check is for -/

/-- The copies stay within the pool and the pixels, and no two of them write the same byte. -/
structure Contained (len pixels : Int) (copies : List Copy) : Prop where
  written : ∀ copy ∈ copies, 0 ≤ copy.target ∧ copy.target + copy.count ≤ len
  read : ∀ copy ∈ copies, 0 ≤ copy.source ∧ copy.source + copy.count ≤ pixels
  apart : copies.Pairwise fun first second => first.target + first.count ≤ second.target

/-- The layout that the announcement asks for, checked or not. -/
def announced (data : BufferData) (width height : Int) : Layout :=
  { row := 4 * width, height, stride := data.stride, offset := data.offset, bytes := 4 * width * height }

/-- Every row of the layout can be copied. -/
def Layout.Safe (self : Layout) (len : Int) : Prop :=
  ∃ copies, self.copies = some copies ∧ copies.length = self.height ∧ Contained len self.bytes copies

variable {data : BufferData} {len width height pixels : Int} {found : Layout}

theorem okOr_ok {α : Type} {failure : String} {value : Option α} {result : α} :
    okOr failure value = .ok result ↔ value = some result := by
  cases value with
  | none =>
      constructor <;> intro same <;> cases same
  | some value => simp only [okOr, Except.ok.injEq, Option.some.injEq]

/-- The announcement has rows of pixels, and the last of them ends within the pool. -/
structure Fitting (data : BufferData) (len width height : Int) : Prop where
  wide : 1 ≤ width
  high : 1 ≤ height
  strided : 4 * width ≤ data.stride
  placed : 0 ≤ data.offset
  inside : data.stride * (height - 1) + 4 * width + data.offset ≤ len
  addressed : data.stride * (height - 1) + 4 * width + data.offset ≤ Width.u64.high
  limited : 4 * width * height ≤ 268435456

/-- What passes the check is what was announced, and it fits. -/
theorem layout_ok (passed : layout data len width height = .ok found) :
    found = announced data width height ∧ Fitting data len width height := by
  unfold layout at passed
  split at passed
  · cases passed
  · simp only [Fallible.bind_ok, okOr_ok, Option.bind_eq_bind, Option.bind_eq_some_iff, Width.checked_eq_some] at passed
    obtain ⟨_, ⟨width, ⟨wide, rfl⟩, -, rfl⟩, height, ⟨high, rfl⟩, _, ⟨-, rfl⟩, _, ⟨offset, rfl⟩, passed⟩ := passed
    obtain ⟨_, ⟨_, ⟨-, rfl⟩, _, ⟨-, rfl⟩, addressed, rfl⟩, bytes, ⟨_, ⟨-, rfl⟩, limited⟩, passed⟩ := passed
    split at passed
    · cases passed
    · rename_i bounded
      split at limited
      · rename_i small
        simp only [Fallible.pure_ok] at passed
        cases limited
        subst passed
        simp only [Width.u64_fits] at wide high offset addressed
        have rows : Width.u64.saturating (height - 1) = height - 1 :=
          Width.saturating_of_fits (by rw [Width.u64_fits]; omega)
        have product : 4 * width * height = width * 4 * height := by rw [Int.mul_comm 4]
        rw [rows] at bounded addressed
        refine ⟨by simp only [announced, Int.mul_comm], ?_⟩
        exact {
          wide := by omega
          high := by omega
          strided := by omega
          placed := offset.1
          inside := by omega
          addressed := by rw [show Width.u64.high = 18446744073709551615 from rfl]; omega
          limited := by omega }
      · cases limited

/-- Every row of the pixels and of the pool begins behind the first and no later than the last. -/
theorem row_bounds (fitting : Fitting data len width height) {y : Nat} (below : y < height.toNat) :
    (0 ≤ y * (4 * width) ∧ y * (4 * width) + 4 * width ≤ 4 * width * height) ∧
      0 ≤ y * data.stride ∧ y * data.stride ≤ data.stride * (height - 1) := by
  have wide := fitting.wide
  have strided := fitting.strided
  have last : (y : Int) ≤ height - 1 := by omega
  have pixels : (y : Int) * (4 * width) ≤ (height - 1) * (4 * width) := Int.mul_le_mul_of_nonneg_right last (by omega)
  have pool : (y : Int) * data.stride ≤ data.stride * (height - 1) := by
    rw [Int.mul_comm data.stride]
    exact Int.mul_le_mul_of_nonneg_right last (by omega)
  rw [Int.sub_mul, Int.one_mul, Int.mul_comm height] at pixels
  exact ⟨⟨Int.mul_nonneg (by omega) (by omega), by omega⟩, Int.mul_nonneg (by omega) (by omega), pool⟩

/-- Rows that fit are copied without overflow. -/
theorem announced_copy (fitting : Fitting data len width height) {y : Nat} (below : y < height.toNat) :
    (announced data width height).copy y =
      some ⟨y * (4 * width), data.offset + y * data.stride, 4 * width⟩ := by
  obtain ⟨⟨source, sourceEnd⟩, down, downEnd⟩ := row_bounds fitting below
  obtain ⟨wide, high, strided, placed, inside, addressed, limited⟩ := fitting
  rw [show Width.u64.high = 18446744073709551615 from rfl] at addressed
  simp only [Layout.copy, announced, Option.bind_eq_bind]
  rw [Width.checked_bind (by rw [Width.u64_fits]; omega),
    Width.checked_bind (by rw [Width.u64_fits]; omega),
    Width.checked_bind (by rw [Width.u64_fits]; omega)]
  rfl

theorem mapM_eq_map {α β : Type} {attempt : α → Option β} {result : α → β} {entries : List α}
    (succeeds : ∀ entry ∈ entries, attempt entry = some (result entry)) :
    entries.mapM attempt = some (entries.map result) := by
  induction entries with
  | nil => rfl
  | cons entry rest ih =>
      rw [List.forall_mem_cons] at succeeds
      rw [List.mapM_cons, succeeds.1, ih succeeds.2]
      rfl

theorem announced_copies (fitting : Fitting data len width height) : (announced data width height).copies =
    some ((List.range height.toNat).map fun y : Nat => ⟨y * (4 * width), data.offset + y * data.stride, 4 * width⟩) :=
  mapM_eq_map fun _ there => announced_copy fitting (List.mem_range.mp there)

/-- Each row ends before the next one begins, since the stride is no shorter than a row. -/
theorem rows_apart (fitting : Fitting data len width height) {first second : Nat} (before : first < second) :
    data.offset + first * data.stride + 4 * width ≤ data.offset + second * data.stride := by
  have strided := fitting.strided
  have wide := fitting.wide
  have next : ((first : Int) + 1) * data.stride ≤ second * data.stride :=
    Int.mul_le_mul_of_nonneg_right (by omega) (by omega)
  rw [Int.add_mul, Int.one_mul] at next
  omega

theorem announced_safe (fitting : Fitting data len width height) : (announced data width height).Safe len := by
  refine ⟨_, announced_copies fitting, ?_, ?_, ?_, ?_⟩
  · rw [List.length_map, List.length_range]
    exact Int.toNat_of_nonneg (by have := fitting.high; omega)
  · intro copy there
    obtain ⟨y, below, rfl⟩ := List.mem_map.mp there
    obtain ⟨-, down, downEnd⟩ := row_bounds fitting (List.mem_range.mp below)
    have placed := fitting.placed
    have inside := fitting.inside
    dsimp only
    omega
  · intro copy there
    obtain ⟨y, below, rfl⟩ := List.mem_map.mp there
    exact (row_bounds fitting (List.mem_range.mp below)).1
  · exact List.pairwise_map.mpr (List.pairwise_lt_range.imp fun before => rows_apart fitting before)

/-- Of whatever the client announces, what passes the check is copied without overflow, within the pool and the
pixels and row by row apart. What could not be copied so does not pass. -/
theorem layout_safe (data : BufferData) (len width height : Int) :
    (∀ found, layout data len width height = .ok found → found.Safe len) ∧
      (¬(announced data width height).Safe len → ∃ error, layout data len width height = .error error) ∧
      ∀ pixels outcome, write data len width height pixels = .ok outcome →
        ∃ copies, outcome = some copies ∧ Contained len pixels copies := by
  have safe : ∀ found, layout data len width height = .ok found → found.Safe len := by
    intro found passed
    obtain ⟨rfl, fitting⟩ := layout_ok passed
    exact announced_safe fitting
  refine ⟨safe, ?_, ?_⟩
  · intro broken
    cases passed : layout data len width height with
    | error error => exact ⟨error, rfl⟩
    | ok found =>
        obtain ⟨rfl, fitting⟩ := layout_ok passed
        exact absurd (announced_safe fitting) broken
  · intro pixels outcome wrote
    simp only [write, Fallible.bind_ok] at wrote
    obtain ⟨found, passed, wrote⟩ := wrote
    split at wrote
    · cases wrote
    · rename_i sized
      obtain ⟨copies, made, -, contained⟩ := safe found passed
      cases wrote
      exact ⟨copies, made, not_not.mp sized ▸ contained⟩

end CaptureRows

end Luma.Compositor
