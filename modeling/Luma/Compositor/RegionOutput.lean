import Luma.Compositor.RecorderCommands
import Luma.Library.MachineInteger

/-! The output that a recording of a region takes, in the arithmetic of 32-bit integers.

Where nothing overflows it is the one that `recorderOutput` chooses, by the true areas.
-/

set_option autoImplicit false

namespace Luma.Compositor

open Luma.Library Luma.Core

/-- The area that the region shares with an output. -/
def sharedArea (region geometry : Rect) : Option Int := do
  let left := max region.x geometry.x
  let top := max region.y geometry.y
  let regionRight ← Width.i32.checked (region.x + region.w)
  let outputRight ← Width.i32.checked (geometry.x + geometry.w)
  let regionBottom ← Width.i32.checked (region.y + region.h)
  let outputBottom ← Width.i32.checked (geometry.y + geometry.h)
  let width ← Width.i32.checked (min regionRight outputRight - left)
  let height ← Width.i32.checked (min regionBottom outputBottom - top)
  Width.i64.checked (max width 0 * max height 0)

/-- The outputs that the region intersects, with their areas. -/
def regionAreas (region : Rect) : List Output → Option (List (Int × String))
  | [] => some []
  | output :: rest =>
    match output.geometry with
    | none => regionAreas region rest
    | some geometry => do
      let area ← sharedArea region geometry
      let others ← regionAreas region rest
      return if area > 0 then (area, output.name) :: others else others

/-- `max_by_key` takes the last of several. -/
def largestArea : List (Int × String) → Option (Int × String)
  | [] => none
  | found :: rest =>
    match largestArea rest with
    | some best => if found.1 ≤ best.1 then some best else some found
    | none => some found

/-- `recorder_output` of a region. -/
def regionOutput (outputs : List Output) (region : Rect) : Option (Except String String) := do
  let found ← regionAreas region outputs
  return match largestArea found with
    | some (_, name) => .ok name
    | none => .error "recorder region does not intersect an output"

/-! ## Areas -/

/-- Nothing overflows between the region and an output. -/
structure Computable (region geometry : Rect) : Prop where
  regionRight : Width.i32.Fits (region.x + region.w)
  outputRight : Width.i32.Fits (geometry.x + geometry.w)
  regionBottom : Width.i32.Fits (region.y + region.h)
  outputBottom : Width.i32.Fits (geometry.y + geometry.h)
  width : Width.i32.Fits (min (region.x + region.w) (geometry.x + geometry.w) - max region.x geometry.x)
  height : Width.i32.Fits (min (region.y + region.h) (geometry.y + geometry.h) - max region.y geometry.y)

theorem sharedArea_eq_some {region geometry : Rect} {area : Int} :
    sharedArea region geometry = some area ↔ Computable region geometry ∧ area = AnvilState.overlapArea region geometry := by
  unfold sharedArea AnvilState.overlapArea
  simp only [Option.bind_eq_bind, Option.bind_eq_some_iff, Width.checked_eq_some]
  constructor
  · rintro ⟨_, ⟨regionRight, rfl⟩, _, ⟨outputRight, rfl⟩, _, ⟨regionBottom, rfl⟩, _, ⟨outputBottom, rfl⟩, _, ⟨width, rfl⟩,
      _, ⟨height, rfl⟩, -, rfl⟩
    exact ⟨⟨regionRight, outputRight, regionBottom, outputBottom, width, height⟩, rfl⟩
  · rintro ⟨⟨regionRight, outputRight, regionBottom, outputBottom, width, height⟩, rfl⟩
    refine ⟨_, ⟨regionRight, rfl⟩, _, ⟨outputRight, rfl⟩, _, ⟨regionBottom, rfl⟩, _, ⟨outputBottom, rfl⟩, _, ⟨width, rfl⟩,
      _, ⟨height, rfl⟩, ?_, rfl⟩
    rw [Width.i32_fits] at width height
    -- The product of two 32-bit lengths is a 64-bit area.
    generalize min (region.x + region.w) (geometry.x + geometry.w) - max region.x geometry.x = across at *
    generalize min (region.y + region.h) (geometry.y + geometry.h) - max region.y geometry.y = down at *
    have nonneg : 0 ≤ max across 0 * max down 0 := Int.mul_nonneg (by omega) (by omega)
    have bounded : max across 0 * max down 0 ≤ 2147483647 * 2147483647 :=
      Int.mul_le_mul (by omega) (by omega) (by omega) (by omega)
    rw [Width.i64_fits]
    omega

/-- The true area that a region shares with an output. -/
def trueArea (region : Rect) (output : Output) : Int :=
  match output.geometry with
  | some geometry => AnvilState.overlapArea region geometry
  | none => 0

def AllComputable (region : Rect) (outputs : List Output) : Prop :=
  ∀ output ∈ outputs, ∀ geometry, output.geometry = some geometry → Computable region geometry

theorem regionAreas_eq_some {region : Rect} {outputs : List Output} {found : List (Int × String)} :
    regionAreas region outputs = some found ↔ AllComputable region outputs ∧
      found = (outputs.filter fun output => trueArea region output > 0).map fun output =>
        (trueArea region output, output.name) := by
  induction outputs generalizing found with
  | nil => simp [regionAreas, AllComputable, eq_comm]
  | cons output rest ih =>
    unfold regionAreas AllComputable
    rw [List.forall_mem_cons, List.filter_cons]
    cases has : output.geometry with
    | none =>
      have none : trueArea region output = 0 := by simp [trueArea, has]
      dsimp only
      rw [ih, none, if_neg (by decide)]
      simp [AllComputable]
    | some geometry =>
      have some : trueArea region output = AnvilState.overlapArea region geometry := by simp [trueArea, has]
      simp only [Option.bind_eq_bind, Option.bind_eq_some_iff, Option.pure_def, Option.some.injEq, sharedArea_eq_some,
        forall_eq', some]
      constructor
      · rintro ⟨area, ⟨computable, rfl⟩, others, later, rfl⟩
        obtain ⟨all, rfl⟩ := ih.mp later
        refine ⟨⟨computable, all⟩, ?_⟩
        split
        · rename_i positive
          rw [if_pos (by simpa using positive), List.map_cons, some]
        · rename_i empty
          rw [if_neg (by simpa using empty)]
      · rintro ⟨⟨computable, all⟩, rfl⟩
        refine ⟨_, ⟨computable, rfl⟩, _, ih.mpr ⟨all, rfl⟩, ?_⟩
        split
        · rename_i positive
          rw [if_pos (by simpa using positive), List.map_cons, some]
        · rename_i empty
          rw [if_neg (by simpa using empty)]

theorem largestArea_none {found : List (Int × String)} (largest : largestArea found = none) : found = [] := by
  cases found with
  | nil => rfl
  | cons first rest =>
    unfold largestArea at largest
    split at largest
    · split at largest <;> cases largest
    · cases largest

theorem largestArea_maximal {found : List (Int × String)} {best : Int × String} (largest : largestArea found = some best) :
    best ∈ found ∧ ∀ other ∈ found, other.1 ≤ best.1 := by
  induction found generalizing best with
  | nil => cases largest
  | cons first rest ih =>
    unfold largestArea at largest
    split at largest
    · rename_i later at_rest
      obtain ⟨there, maximal⟩ := ih at_rest
      split at largest
      · rename_i smaller
        cases largest
        refine ⟨List.mem_cons_of_mem _ there, ?_⟩
        intro other among
        rcases List.mem_cons.mp among with rfl | among
        · exact smaller
        · exact maximal other among
      · rename_i larger
        cases largest
        refine ⟨List.mem_cons_self, ?_⟩
        intro other among
        rcases List.mem_cons.mp among with rfl | among
        · exact Int.le_refl _
        · have below := maximal other among
          omega
    · rename_i empty
      cases largest
      refine ⟨List.mem_cons_self, ?_⟩
      intro other among
      rcases List.mem_cons.mp among with rfl | among
      · exact Int.le_refl _
      · rw [largestArea_none empty] at among
        cases among

/-! ## The choice -/

/-- The answer is an output with the largest area, or an error where the region intersects none. -/
structure ChoosesLargest (outputs : List Output) (region : Rect) (answer : Except String String) : Prop where
  largest : ∀ name, answer = .ok name → ∃ output ∈ outputs, output.name = name ∧ 0 < trueArea region output ∧
    ∀ other ∈ outputs, trueArea region other ≤ trueArea region output
  failure : (∃ error, answer = .error error) ↔ ∀ output ∈ outputs, trueArea region output ≤ 0

/-- The output is chosen by the true areas exactly when no sum and no difference overflows. -/
theorem regionOutput_largest (outputs : List Output) (region : Rect) :
    (∃ answer, regionOutput outputs region = some answer ∧ ChoosesLargest outputs region answer) ↔
      AllComputable region outputs := by
  unfold regionOutput
  simp only [Option.bind_eq_bind, Option.bind_eq_some_iff, Option.pure_def, Option.some.injEq]
  constructor
  · rintro ⟨answer, ⟨found, areas, -⟩, -⟩
    exact (regionAreas_eq_some.mp areas).1
  · intro computable
    refine ⟨_, ⟨_, regionAreas_eq_some.mpr ⟨computable, rfl⟩, rfl⟩, ?_⟩
    split
    · rename_i area name best
      obtain ⟨there, maximal⟩ := largestArea_maximal best
      obtain ⟨output, among, same⟩ := List.mem_map.mp there
      rw [List.mem_filter, decide_eq_true_eq] at among
      cases same
      constructor
      · intro name same
        cases same
        refine ⟨output, among.1, rfl, among.2, ?_⟩
        intro other there
        by_cases positive : trueArea region other > 0
        · exact maximal _ (List.mem_map.mpr ⟨other, List.mem_filter.mpr ⟨there, by simpa using positive⟩, rfl⟩)
        · have some := among.2
          omega
      · constructor
        · rintro ⟨error, same⟩
          cases same
        · intro none
          have some := among.2
          have empty := none output among.1
          omega
    · rename_i none
      have empty := largestArea_none none
      rw [List.map_eq_nil_iff, List.filter_eq_nil_iff] at empty
      constructor
      · intro name same
        cases same
      · refine ⟨fun _ output there => ?_, fun _ => ⟨_, rfl⟩⟩
        have nothing := empty output there
        simpa using nothing

/-- A region of one pixel at the far left, and an output that does not begin at the origin. -/
def farOutput : Output := { serial := 1, name := "DP-1", geometry := some ⟨1920, 0, 1920, 1080⟩ }

theorem far_region_accepted (self : AnvilState) :
    self.recorderSource "region -2147483648 0 1 1" = .ok (.region ⟨-2147483648, 0, 1, 1⟩) := by
  rfl

/-- The distance from the region to the output is no 32-bit integer. -/
theorem regionOutput_overflows : ¬∀ (self : AnvilState) (value : String) (region : Rect),
    self.recorderSource value = .ok (.region region) → ∃ answer, regionOutput self.space.outputs region = some answer ∧
      ChoosesLargest self.space.outputs region answer := by
  intro chooses
  obtain ⟨answer, computed, -⟩ := chooses { space := { outputs := [farOutput] } } _ _ (far_region_accepted _)
  have overflow : regionOutput [farOutput] ⟨-2147483648, 0, 1, 1⟩ = none := by decide
  rw [overflow] at computed
  cases computed

end Luma.Compositor
