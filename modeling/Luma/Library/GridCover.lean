import Mathlib.Algebra.Order.Field.Rat
import Mathlib.Data.Rat.Cast.Order
import Mathlib.Data.Set.Prod
import Mathlib.Order.Interval.Set.Basic
import Mathlib.Algebra.Order.Ring.Nat
import Mathlib.Data.List.Nodup
import Mathlib.Data.List.Perm.Subperm

/-! Half-open intervals that are scaled to another grid, and the cells that they touch there. -/

set_option autoImplicit false

namespace Luma.Library.GridCover

variable {cells size start stop first last value bound : Int}

/-- The points between two integers. -/
def span (start stop : Int) : Set ℚ := Set.Ico (start : ℚ) (stop : ℚ)

/-- A point of a line of `cells` on a line of `size`. -/
def scaled (cells size : Int) (point : ℚ) : ℚ := point * size / cells

def scaleFloor (cells size value : Int) : Int := value * size / cells

def scaleCeil (cells size value : Int) : Int := (value * size + cells - 1) / cells

theorem le_scaled_iff (some : 0 < cells) :
    (bound : ℚ) ≤ scaled cells size value ↔ bound ≤ scaleFloor cells size value := by
  have positive : (0 : ℚ) < cells := by exact_mod_cast some
  rw [scaled, scaleFloor, le_div_iff₀ positive, Int.le_ediv_iff_mul_le some]
  exact_mod_cast Iff.rfl

theorem scaled_le_iff (some : 0 < cells) : scaled cells size value ≤ bound ↔ scaleCeil cells size value ≤ bound := by
  have positive : (0 : ℚ) < cells := by exact_mod_cast some
  have whole : (value : ℚ) * size ≤ bound * cells ↔ value * size ≤ bound * cells := by exact_mod_cast Iff.rfl
  rw [scaled, scaleCeil, div_le_iff₀ positive, whole, ← Int.lt_add_one_iff, ← Int.lt_add_one_iff (b := bound),
    Int.ediv_lt_iff_lt_mul some, Int.add_mul, Int.one_mul]
  omega

theorem scaled_lt_scaled (some : 0 < cells) (wide : 0 < size) {one other : ℚ} :
    scaled cells size one < scaled cells size other ↔ one < other := by
  have positive : (0 : ℚ) < cells := by exact_mod_cast some
  have extent : (0 : ℚ) < size := by exact_mod_cast wide
  rw [scaled, scaled, div_lt_div_iff_of_pos_right positive, mul_lt_mul_iff_left₀ extent]

theorem span_inter : span start stop ∩ span first last = span (max start first) (min stop last) := by
  simp only [span, Set.Ico_inter_Ico, Int.cast_max, Int.cast_min]

theorem span_eq_empty : span start stop = ∅ ↔ stop ≤ start := by
  rw [span, Set.Ico_eq_empty_iff, not_lt, Int.cast_le]

theorem span_nonempty (some : start < stop) : (span start stop).Nonempty := by
  rw [span, Set.nonempty_Ico]
  exact_mod_cast some

theorem span_subset (some : start < stop) : span start stop ⊆ span first last ↔ first ≤ start ∧ stop ≤ last := by
  have ordered : (start : ℚ) < stop := by exact_mod_cast some
  rw [span, span, Set.Ico_subset_Ico_iff ordered, Int.cast_le, Int.cast_le]

/-- Scaling reaches every point between the ends. -/
theorem scaled_image (some : 0 < cells) (wide : 0 < size) :
    scaled cells size '' span start stop = Set.Ico (scaled cells size start) (scaled cells size stop) := by
  have positive : (cells : ℚ) ≠ 0 := by exact_mod_cast some.ne'
  have extent : (size : ℚ) ≠ 0 := by exact_mod_cast wide.ne'
  ext point
  constructor
  · rintro ⟨origin, ⟨low, high⟩, rfl⟩
    refine ⟨?_, (scaled_lt_scaled some wide).mpr high⟩
    rw [← not_lt, scaled_lt_scaled some wide]
    exact not_lt.mpr low
  · rintro ⟨low, high⟩
    have back : scaled cells size (point * cells / size) = point := by
      rw [scaled, div_mul_cancel₀ _ extent, mul_div_cancel_right₀ _ positive]
    rw [← back] at low high
    refine ⟨point * cells / size, ⟨?_, (scaled_lt_scaled some wide).mp high⟩, back⟩
    rw [← not_lt, ← scaled_lt_scaled some wide]
    exact not_lt.mpr low

/-- The cells that a scaled interval touches run from the floor of its start to the ceiling of its end. -/
theorem scaled_subset (some : 0 < cells) (wide : 0 < size) (ordered : start < stop) :
    scaled cells size '' span start stop ⊆ span first last ↔
      first ≤ scaleFloor cells size start ∧ scaleCeil cells size stop ≤ last := by
  have apart : scaled cells size start < scaled cells size stop :=
    (scaled_lt_scaled some wide).mpr (by exact_mod_cast ordered)
  rw [scaled_image some wide, span, Set.Ico_subset_Ico_iff apart, le_scaled_iff some, scaled_le_iff some]

theorem scaleFloor_lt_scaleCeil (some : 0 < cells) (wide : 0 < size) (ordered : start < stop) :
    scaleFloor cells size start < scaleCeil cells size stop := by
  have apart : scaled cells size start < scaled cells size stop :=
    (scaled_lt_scaled some wide).mpr (by exact_mod_cast ordered)
  have below : (scaleFloor cells size start : ℚ) ≤ scaled cells size start := (le_scaled_iff some).mpr (le_refl _)
  have above : scaled cells size stop ≤ (scaleCeil cells size stop : ℚ) := (scaled_le_iff some).mpr (le_refl _)
  exact_mod_cast (below.trans_lt apart).trans_le above

theorem scaleFloor_nonneg (some : 0 < cells) (wide : 0 < size) (low : 0 ≤ value) : 0 ≤ scaleFloor cells size value :=
  Int.ediv_nonneg (Int.mul_nonneg low wide.le) some.le

theorem scaleCeil_le (some : 0 < cells) (wide : 0 < size) (high : value ≤ cells) :
    scaleCeil cells size value ≤ size := by
  have product : value * size ≤ cells * size := Int.mul_le_mul_of_nonneg_right high wide.le
  rw [scaleCeil, ← Int.lt_add_one_iff, Int.ediv_lt_iff_lt_mul some, Int.add_mul, Int.one_mul, Int.mul_comm size]
  omega

end Luma.Library.GridCover

/-! Intervals of integers that are too short together to cover a longer one. -/

namespace Luma.Library

namespace IntervalCover

/-- The integers of an interval, which is given by its first integer and the one after its last. -/
def integers (interval : Int × Int) : List Int :=
  (List.range (interval.2 - interval.1).toNat).map fun (n : Nat) => interval.1 + n

def covered (intervals : List (Int × Int)) : List Int := intervals.flatMap integers

theorem mem_integers {interval : Int × Int} {place : Int} :
    place ∈ integers interval ↔ interval.1 ≤ place ∧ place < interval.2 := by
  unfold integers
  rw [List.mem_map]
  constructor
  · rintro ⟨n, inside, rfl⟩
    have bound := List.mem_range.mp inside
    omega
  · rintro ⟨above, below⟩
    refine ⟨(place - interval.1).toNat, List.mem_range.mpr ?_, ?_⟩
    · omega
    · omega

theorem mem_covered {intervals : List (Int × Int)} {place : Int} :
    place ∈ covered intervals ↔ ∃ interval ∈ intervals, interval.1 ≤ place ∧ place < interval.2 := by
  simp only [covered, List.mem_flatMap, mem_integers]

theorem length_integers (interval : Int × Int) : (integers interval).length = (interval.2 - interval.1).toNat := by
  simp [integers]

theorem nodup_integers (interval : Int × Int) : (integers interval).Nodup := by
  refine List.Nodup.map ?_ List.nodup_range
  intro first second same
  have same : interval.1 + (first : Int) = interval.1 + second := same
  omega

theorem length_covered (intervals : List (Int × Int)) :
    (covered intervals).length = (intervals.map fun interval => (interval.2 - interval.1).toNat).sum := by
  simp only [covered, List.length_flatMap, length_integers]

/-- One of more integers than the intervals have together is in none of them. -/
theorem exists_uncovered (intervals : List (Int × Int)) (low high : Int)
    (short : (intervals.map fun interval => (interval.2 - interval.1).toNat).sum < (high - low).toNat) :
    ∃ place, low ≤ place ∧ place < high ∧ ∀ interval ∈ intervals, ¬(interval.1 ≤ place ∧ place < interval.2) := by
  by_contra none
  have all : integers (low, high) ⊆ covered intervals := by
    intro place inside
    obtain ⟨above, below⟩ := mem_integers.mp inside
    by_contra uncovered
    refine none ⟨place, above, below, ?_⟩
    intro interval member within
    exact uncovered (mem_covered.mpr ⟨interval, member, within⟩)
  have fits := ((nodup_integers (low, high)).subperm all).length_le
  rw [length_covered, length_integers] at fits
  exact Nat.not_lt.mpr fits short

end IntervalCover

end Luma.Library
