import Mathlib.Algebra.Ring.Int.Defs
import Mathlib.Data.List.Basic

/-! A length shared out in whole parts, and lengths laid along a line with a gap after each. -/

set_option autoImplicit false

namespace Luma.Library.EvenSplit

/-! ## Parts -/

/-- The length of one of the parts; the remainder goes to the first ones. -/
def part (total count index : Int) : Int := total / count + if index < total % count then 1 else 0

/-- What the parts before the index come to. -/
def before (total count index : Int) : Int := index * (total / count) + min index (total % count)

variable {total count index : Int}

theorem before_zero (total : Int) (enough : 0 < count) : before total count 0 = 0 := by
  have nonneg := Int.emod_nonneg total (by omega : count ≠ 0)
  unfold before
  omega

theorem before_succ (total count index : Int) :
    before total count (index + 1) = before total count index + part total count index := by
  unfold before part
  rw [Int.add_mul, Int.one_mul]
  split <;> omega

theorem before_count (total : Int) (enough : 0 < count) : before total count count = total := by
  have below := Int.emod_lt_of_pos total enough
  have whole := Int.mul_ediv_add_emod total count
  unfold before
  omega

theorem one_le_part (enough : 0 < count) (room : count ≤ total) (index : Int) : 1 ≤ part total count index := by
  have quotient : 1 ≤ total / count := (Int.le_ediv_iff_mul_le enough).mpr (by omega)
  unfold part
  split <;> omega

theorem part_le (enough : 0 < count) (room : count ≤ total) {index : Int} (counted : 0 ≤ index) : part total count index ≤ total := by
  have whole := Int.mul_ediv_add_emod total count
  have quotient : 0 ≤ total / count := Int.ediv_nonneg (by omega) (by omega)
  have scaled : 1 * (total / count) ≤ count * (total / count) := Int.mul_le_mul_of_nonneg_right (by omega) quotient
  have nonneg := Int.emod_nonneg total (by omega : count ≠ 0)
  unfold part
  split <;> omega

/-- A later part is not larger, and by one smaller at most. -/
theorem part_anti {first second : Int} (earlier : first ≤ second) :
    part total count second ≤ part total count first ∧ part total count first ≤ part total count second + 1 := by
  unfold part
  split <;> split <;> omega

theorem sum_parts (total count : Int) (first length : Nat) :
    ((List.range' first length).map fun index : Nat => part total count index).sum =
      before total count (first + length) - before total count first := by
  induction length generalizing first with
  | zero => simp
  | succ length ih =>
    have next := before_succ total count first
    have rest := ih (first + 1)
    rw [List.range'_succ, List.map_cons, List.sum_cons, rest]
    rw [show ((first + 1 : Nat) : Int) = (first : Int) + 1 by omega, next]
    rw [show ((length + 1 : Nat) : Int) = (length : Int) + 1 by omega]
    rw [show (first : Int) + 1 + length = first + (length + 1) by omega]
    omega

/-- Together the parts are the whole. -/
theorem sum_all_parts (total : Int) {count : Nat} (enough : 0 < count) :
    ((List.range count).map fun index : Nat => part total count index).sum = total := by
  have sum := sum_parts total count 0 count
  have none := before_zero total (by omega : (0 : Int) < count)
  have whole := before_count total (by omega : (0 : Int) < count)
  rw [← List.range_eq_range', Nat.cast_zero, Int.zero_add, whole, none] at sum
  omega

/-! ## Lengths along a line -/

/-- Where each length begins, with the length. -/
def place (gap : Int) : Int → List Int → List (Int × Int)
  | _, [] => []
  | start, length :: rest => (start, length) :: place gap (start + (length + gap)) rest

/-- What the lengths and the gaps after them come to. -/
def extent (gap : Int) : List Int → Int
  | [] => 0
  | length :: rest => length + gap + extent gap rest

variable {gap : Int}

@[simp] theorem length_place (gap start : Int) (lengths : List Int) : (place gap start lengths).length = lengths.length := by
  induction lengths generalizing start with
  | nil => rfl
  | cons length rest ih => simp [place, ih]

@[simp] theorem place_lengths (gap start : Int) (lengths : List Int) :
    (place gap start lengths).map Prod.snd = lengths := by
  induction lengths generalizing start with
  | nil => rfl
  | cons length rest ih => simp [place, ih]

theorem extent_eq (gap : Int) (lengths : List Int) : extent gap lengths = lengths.sum + gap * lengths.length := by
  induction lengths with
  | nil => simp [extent]
  | cons length rest ih =>
    simp only [extent, ih, List.sum_cons, List.length_cons]
    rw [show ((rest.length + 1 : Nat) : Int) = (rest.length : Int) + 1 by omega, Int.mul_add, Int.mul_one]
    omega

theorem extent_nonneg (spaced : 0 ≤ gap) {lengths : List Int} (nonneg : ∀ length ∈ lengths, 0 ≤ length) :
    0 ≤ extent gap lengths := by
  induction lengths with
  | nil => exact Int.le_refl 0
  | cons length rest ih =>
    have first := nonneg length List.mem_cons_self
    have others := ih fun other there => nonneg other (List.mem_cons_of_mem _ there)
    simp only [extent]
    omega

/-- Each length lies, with the gap after it, within the extent. -/
theorem place_within (spaced : 0 ≤ gap) {lengths : List Int} (nonneg : ∀ length ∈ lengths, 0 ≤ length) (start : Int) :
    ∀ segment ∈ place gap start lengths,
      start ≤ segment.1 ∧ segment.1 + segment.2 + gap ≤ start + extent gap lengths ∧ segment.2 ∈ lengths := by
  induction lengths generalizing start with
  | nil =>
    intro segment there
    cases there
  | cons length rest ih =>
    have later : ∀ other ∈ rest, 0 ≤ other := fun other there => nonneg other (List.mem_cons_of_mem _ there)
    have first := nonneg length List.mem_cons_self
    have beyond := extent_nonneg spaced later
    intro segment there
    rcases List.mem_cons.mp there with rfl | there
    · simp only [extent]
      exact ⟨Int.le_refl _, by omega, List.mem_cons_self⟩
    · obtain ⟨above, below, among⟩ := ih later _ segment there
      simp only [extent]
      exact ⟨by omega, by omega, List.mem_cons_of_mem _ among⟩

/-- Two lengths do not overlap, and the gap is between them. -/
theorem place_apart (spaced : 0 ≤ gap) {lengths : List Int} (nonneg : ∀ length ∈ lengths, 0 ≤ length) (start : Int) :
    (place gap start lengths).Pairwise fun first second => first.1 + first.2 + gap ≤ second.1 := by
  induction lengths generalizing start with
  | nil => exact List.Pairwise.nil
  | cons length rest ih =>
    have later : ∀ other ∈ rest, 0 ≤ other := fun other there => nonneg other (List.mem_cons_of_mem _ there)
    refine List.Pairwise.cons ?_ (ih later _)
    intro second there
    obtain ⟨above, -, -⟩ := place_within spaced later _ second there
    dsimp only
    omega

end Luma.Library.EvenSplit
