import Luma.Core.Settings
import Luma.Library.GridCover
import Luma.Library.MachineInteger
import Mathlib.Data.Rat.Floor

/-! Where the pointer may go.

Positions are finite numbers of double precision, which are compared and truncated only. The clamp takes
the outputs for a row that begins at the origin.
-/

set_option autoImplicit false

namespace Luma.Compositor

open Luma.Library Luma.Core

/-- An output of the space, with the geometry it has there. -/
structure PlacedOutput where
  geometry : Rect
  wide : 0 ≤ geometry.w
  high : 0 ≤ geometry.h

namespace PlacedOutput

/-- `Rectangle::contains`. -/
def contains (self : PlacedOutput) (x y : Int) : Bool :=
  self.geometry.x ≤ x && x < self.geometry.x + self.geometry.w &&
    self.geometry.y ≤ y && y < self.geometry.y + self.geometry.h

/-- The positions on the output. -/
def area (self : PlacedOutput) : Set (ℚ × ℚ) :=
  GridCover.span self.geometry.x (self.geometry.x + self.geometry.w) ×ˢ
    GridCover.span self.geometry.y (self.geometry.y + self.geometry.h)

end PlacedOutput

/-- `f64::clamp`, which fails where the bounds are inverted. -/
def clampFloat (low high value : ℚ) : Option ℚ := if low ≤ high then some (max low (min high value)) else none

/-- `as i32`: towards zero, and within the type. -/
def truncateFloat (value : ℚ) : Int := Width.i32.saturating (if 0 ≤ value then ⌊value⌋ else ⌈value⌉)

/-- The sum of the widths. -/
def totalWidth (outputs : List PlacedOutput) : Option Int :=
  outputs.foldlM (fun total output => Width.i32.checked (total + output.geometry.w)) 0

def clampCoords (outputs : List PlacedOutput) (x y : ℚ) : Option (ℚ × ℚ) :=
  if outputs = [] then some (x, y)
  else do
    let maxX ← totalWidth outputs
    let clampedX ← clampFloat 0 maxX x
    match outputs.find? (·.contains (truncateFloat clampedX) 0) with
    | some output => return (clampedX, ← clampFloat 0 output.geometry.h y)
    | none => return (clampedX, y)

/-! ## Confinement -/

def Inside (outputs : List PlacedOutput) (position : ℚ × ℚ) : Prop := ∃ output ∈ outputs, position ∈ output.area

/-- The clamp succeeds, and the position it gives is on an output. -/
def Confined (outputs : List PlacedOutput) (x y : ℚ) : Prop :=
  ∃ position, clampCoords outputs x y = some position ∧ Inside outputs position

/-- The horizontal position, limited to the row that the outputs would make. -/
def inRow (total : Int) (x : ℚ) : ℚ := max 0 (min (total : ℚ) x)

/-- Where an output is met at the height zero, the position is above its lower edge, or another output is
there. Where none is, some output is at the position anyway. -/
def Reached (outputs : List PlacedOutput) (total : Int) (x y : ℚ) : Prop :=
  match outputs.find? (·.contains ⌊inRow total x⌋ 0) with
  | some output => y < (output.geometry.y + output.geometry.h : Int) ∨
      Inside outputs (inRow total x, min (output.geometry.h : ℚ) y)
  | none => Inside outputs (inRow total x, y)

/-! ## The row of outputs -/

variable {outputs : List PlacedOutput} {total : Int}

theorem foldlM_width {start : Int} (begins : 0 ≤ start)
    (summed : outputs.foldlM (fun total output => Width.i32.checked (total + output.geometry.w)) start = some total) :
    start ≤ total ∧ total = start + (outputs.map (·.geometry.w)).sum ∧ (outputs = [] ∨ total ≤ 2147483647) := by
  induction outputs generalizing start with
  | nil =>
    cases summed
    simp
  | cons output rest ih =>
    rw [List.foldlM_cons] at summed
    obtain ⟨next, fits, later⟩ := Option.bind_eq_some_iff.mp summed
    obtain ⟨⟨-, bound⟩, rfl⟩ := Width.checked_eq_some.mp fits
    have wide := output.wide
    obtain ⟨grown, sum, ends⟩ := ih (by omega) later
    refine ⟨by omega, ?_, .inr ?_⟩
    · rw [sum, List.map_cons, List.sum_cons, Int.add_assoc]
    · rcases ends with rfl | small
      · cases later
        exact bound
      · exact small

theorem totalWidth_eq (summed : totalWidth outputs = some total) :
    0 ≤ total ∧ total = (outputs.map (·.geometry.w)).sum ∧ total ≤ 2147483647 := by
  obtain ⟨grown, sum, ends⟩ := foldlM_width (Int.le_refl 0) summed
  refine ⟨grown, by simpa using sum, ?_⟩
  rcases ends with rfl | small
  · cases summed
    decide
  · exact small

theorem clampFloat_of_le {low high : ℚ} (ordered : low ≤ high) (value : ℚ) :
    clampFloat low high value = some (max low (min high value)) := if_pos ordered

theorem inRow_mem (x : ℚ) (positive : 0 ≤ total) : 0 ≤ inRow total x ∧ inRow total x ≤ total :=
  ⟨le_max_left _ _, max_le (by exact_mod_cast positive) (min_le_left _ _)⟩

/-- Within the row truncation rounds down. -/
theorem truncateFloat_inRow (x : ℚ) (positive : 0 ≤ total) (small : total ≤ 2147483647) :
    truncateFloat (inRow total x) = ⌊inRow total x⌋ := by
  obtain ⟨above, below⟩ := inRow_mem x positive
  have low : 0 ≤ ⌊inRow total x⌋ := Int.floor_nonneg.mpr above
  have high : ⌊inRow total x⌋ ≤ total := by
    have rounded := (Int.floor_le (inRow total x)).trans below
    exact_mod_cast rounded
  rw [truncateFloat, if_pos above]
  exact Width.saturating_of_fits ⟨by simp [Width.i32]; omega, by simp [Width.i32]; omega⟩

theorem clampCoords_eq (some_output : outputs ≠ []) (summed : totalWidth outputs = some total) (x y : ℚ) :
    clampCoords outputs x y =
      match outputs.find? (·.contains ⌊inRow total x⌋ 0) with
      | some output => some (inRow total x, max 0 (min (output.geometry.h : ℚ) y))
      | none => some (inRow total x, y) := by
  obtain ⟨positive, -, small⟩ := totalWidth_eq summed
  have bounds : (0 : ℚ) ≤ total := by exact_mod_cast positive
  unfold clampCoords
  rw [if_neg some_output, summed, Option.bind_eq_bind, Option.bind_some, clampFloat_of_le bounds, Option.bind_eq_bind,
    Option.bind_some]
  have place : truncateFloat (max 0 (min (total : ℚ) x)) = ⌊inRow total x⌋ := truncateFloat_inRow x positive small
  rw [place]
  split
  · rename_i output _
    rw [clampFloat_of_le (by exact_mod_cast output.high)]
    rfl
  · rfl

/-! ## Every position of every placement -/

/-- A point of the row lies across the output exactly if it does so rounded down. -/
theorem contains_floor {output : PlacedOutput} {x : ℚ} :
    output.contains ⌊x⌋ 0 = true ↔ x ∈ GridCover.span output.geometry.x (output.geometry.x + output.geometry.w) ∧
      output.geometry.y ≤ 0 ∧ 0 < output.geometry.y + output.geometry.h := by
  simp only [PlacedOutput.contains, Bool.and_eq_true, decide_eq_true_eq, GridCover.span, Set.mem_Ico]
  rw [Int.le_floor, Int.floor_lt]
  tauto

/-- Between the origin and its lower edge the output that is met at the height zero keeps the position. -/
theorem clamped_mem_area {output : PlacedOutput} {x y : ℚ} (met : output.contains ⌊x⌋ 0 = true)
    (above : y < (output.geometry.y + output.geometry.h : Int)) :
    (x, max 0 (min (output.geometry.h : ℚ) y)) ∈ output.area := by
  obtain ⟨across, top, bottom⟩ := contains_floor.mp met
  refine ⟨across, ?_, ?_⟩
  · have origin : (output.geometry.y : ℚ) ≤ 0 := by exact_mod_cast top
    exact origin.trans (le_max_left _ _)
  · have positive : (0 : ℚ) < (output.geometry.y + output.geometry.h : Int) := by exact_mod_cast bottom
    exact max_lt positive ((min_le_right _ _).trans_lt above)

theorem confined_iff (outputs : List PlacedOutput) (x y : ℚ) :
    Confined outputs x y ↔ ∃ total, totalWidth outputs = some total ∧ Reached outputs total x y := by
  by_cases empty : outputs = []
  · subst empty
    simp [Confined, Inside, Reached]
  cases summed : totalWidth outputs with
  | none =>
    have failed : clampCoords outputs x y = none := by
      rw [clampCoords, if_neg empty, summed]
      rfl
    simp [Confined, failed]
  | some total =>
    have clamped := clampCoords_eq empty summed x y
    have wanted : Reached outputs total x y ↔ ∃ total', some total = some total' ∧ Reached outputs total' x y := by simp
    rw [← wanted, Confined, clamped]
    unfold Reached
    split
    · rename_i output found
      have met : output.contains ⌊inRow total x⌋ 0 = true := by simpa using List.find?_some found
      by_cases above : y < (output.geometry.y + output.geometry.h : Int)
      · have kept := clamped_mem_area met above
        simp only [above, true_or, iff_true]
        exact ⟨_, rfl, output, List.mem_of_find?_eq_some found, kept⟩
      · -- Below the output's lower edge the limit from above alone counts.
        obtain ⟨-, -, bottom⟩ := contains_floor.mp met
        have low : (0 : ℚ) ≤ min (output.geometry.h : ℚ) y := by
          refine le_min (by exact_mod_cast output.high) (le_trans ?_ (not_lt.mp above))
          exact_mod_cast bottom.le
        simp only [above, false_or, Option.some.injEq, exists_eq_left', max_eq_right low]
    · simp only [Option.some.injEq, exists_eq_left']

theorem sum_widths (outputs : List PlacedOutput) :
    ((outputs.map fun output : PlacedOutput => (output.geometry.x, output.geometry.x + output.geometry.w)).map
      fun interval => (interval.2 - interval.1).toNat).sum =
        (outputs.map fun output : PlacedOutput => output.geometry.w).sum.toNat ∧
      0 ≤ (outputs.map fun output : PlacedOutput => output.geometry.w).sum := by
  induction outputs with
  | nil => simp
  | cons output rest ih =>
    obtain ⟨same, nonneg⟩ := ih
    have wide := output.wide
    simp only [List.map_cons, List.sum_cons]
    rw [same]
    omega

/-- The outputs are too short together to be below every column of the row, since its last column counts. -/
theorem exists_open_column (summed : totalWidth outputs = some total) :
    ∃ column : Int, 0 ≤ column ∧ column ≤ total ∧ ∀ output ∈ outputs,
      ¬(output.geometry.x ≤ column ∧ column < output.geometry.x + output.geometry.w) := by
  obtain ⟨positive, sum, -⟩ := totalWidth_eq summed
  have short := (sum_widths outputs).1
  rw [← sum] at short
  obtain ⟨column, above, below, uncovered⟩ := IntervalCover.exists_uncovered
    (outputs.map fun output => (output.geometry.x, output.geometry.x + output.geometry.w)) 0 (total + 1)
    (by rw [short]; omega)
  refine ⟨column, above, by omega, ?_⟩
  intro output member
  exact uncovered _ (List.mem_map.mpr ⟨output, member, rfl⟩)

/-- In an open column the clamp lets the pointer go, at any height. -/
theorem exists_not_confined (outputs : List PlacedOutput) : ∃ x : ℚ, ∀ y, ¬Confined outputs x y := by
  cases summed : totalWidth outputs with
  | none =>
    refine ⟨0, fun y confined => ?_⟩
    obtain ⟨total, reached, -⟩ := (confined_iff outputs 0 y).mp confined
    cases summed.symm.trans reached
  | some total =>
    obtain ⟨column, above, below, uncovered⟩ := exists_open_column summed
    have here : inRow total column = column := by
      have low : (0 : ℚ) ≤ column := by exact_mod_cast above
      have high : (column : ℚ) ≤ total := by exact_mod_cast below
      rw [inRow, min_eq_right high, max_eq_right low]
    have outside : ∀ y, ¬Inside outputs ((column : ℚ), y) := by
      rintro y ⟨output, member, ⟨across, -⟩⟩
      obtain ⟨left, right⟩ : (output.geometry.x : ℚ) ≤ column ∧
          (column : ℚ) < (output.geometry.x + output.geometry.w : Int) := across
      exact uncovered output member ⟨by exact_mod_cast left, by exact_mod_cast right⟩
    refine ⟨column, fun y confined => ?_⟩
    obtain ⟨total', again, reached⟩ := (confined_iff outputs column y).mp confined
    cases summed.symm.trans again
    unfold Reached at reached
    rw [here] at reached
    split at reached
    · rename_i output found
      have met : output.contains ⌊(column : ℚ)⌋ 0 = true := by simpa using List.find?_some found
      obtain ⟨⟨left, right⟩, -⟩ := contains_floor.mp met
      exact uncovered output (List.mem_of_find?_eq_some found) ⟨by exact_mod_cast left, by exact_mod_cast right⟩
    · exact outside y reached

/-- The clamp confines the pointer exactly at the positions that the row of outputs reaches. No placement has only
such positions. -/
theorem pointer_confined (outputs : List PlacedOutput) :
    (∀ x y, Confined outputs x y ↔ ∃ total, totalWidth outputs = some total ∧ Reached outputs total x y) ∧
      ∃ x : ℚ, ∀ y, ¬Confined outputs x y :=
  ⟨confined_iff outputs, exists_not_confined outputs⟩

/-- One output at the origin. -/
def soleOutput : PlacedOutput where
  geometry := ⟨0, 0, 1920, 1080⟩
  wide := by decide
  high := by decide

/-- Its right edge is already outside. -/
theorem pointer_leaves_sole_output : ¬Confined [soleOutput] 1920 0 := by
  intro confined
  obtain ⟨total, summed, reached⟩ := (confined_iff [soleOutput] 1920 0).mp confined
  have row : totalWidth [soleOutput] = some 1920 := by decide
  cases row.symm.trans summed
  have edge : inRow 1920 1920 = 1920 := by norm_num [inRow]
  have beyond : ¬Inside [soleOutput] ((1920 : ℚ), 0) := by
    simp [Inside, PlacedOutput.area, GridCover.span, soleOutput]
  unfold Reached at reached
  rw [edge] at reached
  have unmet : [soleOutput].find? (·.contains ⌊(1920 : ℚ)⌋ 0) = none := by
    have whole : ⌊(1920 : ℚ)⌋ = 1920 := Int.floor_intCast 1920
    rw [whole]
    decide
  rw [unmet] at reached
  exact beyond reached

end Luma.Compositor
