import Luma.Core.Tiling

/-! The tiles of an output partition its area.

They do wherever they can be computed: the coordinates of an area that ends outside the 32-bit
integers may overflow.
-/

set_option autoImplicit false

namespace Luma.Core

open Luma.Library

def Rect.Fits (self : Rect) : Prop :=
  Width.i32.Fits self.x ∧ Width.i32.Fits self.y ∧ Width.i32.Fits self.w ∧ Width.i32.Fits self.h

/-! ## The outer gap -/

/-- The area is divided between a master and a stack. -/
def Divided (area : Rect) (count : Nat) (monocle : Bool) : Prop :=
  1 < count ∧ monocle = false ∧ (count - 1 : Nat) ≤ area.h ∧ 2 ≤ area.w

instance (area : Rect) (count : Nat) (monocle : Bool) : Decidable (Divided area count monocle) :=
  inferInstanceAs (Decidable (_ ∧ _))

/-- The gap that is left around the tiles. -/
def outerGap (area : Rect) (count : Nat) (gap : Int) (monocle : Bool) : Int :=
  let fitting := min (max gap 0) ((min area.w area.h - 1) / 2)
  if Divided area count monocle then min (min fitting ((area.h - (count - 1 : Nat)) / 2)) ((area.w - 2) / 2)
  else fitting

variable {area : Rect}

theorem outerGap_bounds (wide : 0 < area.w) (high : 0 < area.h) (count : Nat) (gap : Int) (monocle : Bool) :
    (0 ≤ outerGap area count gap monocle ∧ outerGap area count gap monocle ≤ max gap 0) ∧
      2 * outerGap area count gap monocle < area.w ∧ 2 * outerGap area count gap monocle < area.h := by
  unfold outerGap
  dsimp only
  split
  · rename_i divided
    obtain ⟨-, -, rows, columns⟩ := divided
    omega
  · omega

theorem outerGap_divided {count : Nat} {monocle : Bool} (divided : Divided area count monocle) (gap : Int) :
    2 * outerGap area count gap monocle ≤ area.w - 2 ∧
      2 * outerGap area count gap monocle ≤ area.h - (count - 1 : Nat) := by
  unfold outerGap
  rw [if_pos divided]
  omega

theorem tileGap_eq (fits : area.Fits) (wide : 0 < area.w) (high : 0 < area.h) (count : Nat) (gap : Int)
    (monocle : Bool) : tileGap area count gap monocle = some (outerGap area count gap monocle) := by
  obtain ⟨-, -, width, height⟩ := fits
  rw [Width.i32_fits] at width height
  unfold tileGap outerGap
  rw [Width.checked_of_fits (by rw [Width.i32_fits]; omega), Option.bind_eq_bind, Option.bind_some]
  rw [show max (min area.w area.h - 1) 0 = min area.w area.h - 1 by omega, show max area.h 0 = area.h by omega]
  dsimp only
  by_cases divided : Divided area count monocle
  · rw [if_pos divided]
    obtain ⟨several, master, rows, columns⟩ := divided
    rw [if_pos ⟨several, master, rows, columns⟩, Width.checked_of_fits (by rw [Width.i32_fits]; omega), Option.bind_some,
      Width.checked_of_fits (by rw [Width.i32_fits]; omega), Option.bind_some]
    rfl
  · have whole : ¬(1 < count ∧ monocle = false ∧ (count - 1 : Nat) ≤ area.h ∧ 2 ≤ area.w) := divided
    rw [if_neg divided, if_neg whole]
    rfl

/-! ## The stack -/

theorem pushCells_eq {x w usable n gap y : Int} {indices : List Nat} (spaced : 0 ≤ gap) (fits : Width.i32.Fits y)
    (parts : ∀ index ∈ indices, 1 ≤ EvenSplit.part usable n index ∧ EvenSplit.part usable n index + gap ≤ 2147483647) :
    pushCells x w usable n gap indices y =
      if y + EvenSplit.extent gap (indices.map fun index : Nat => EvenSplit.part usable n index) ≤ 2147483647 then
        some ((EvenSplit.place gap y (indices.map fun index : Nat => EvenSplit.part usable n index)).map
          fun cell => ⟨x, cell.1, w, cell.2⟩)
      else none := by
  induction indices generalizing y with
  | nil =>
    rw [Width.i32_fits] at fits
    rw [if_pos (by simp only [List.map_nil, EvenSplit.extent]; omega)]
    rfl
  | cons index rest ih =>
    have later : ∀ other ∈ rest, 1 ≤ EvenSplit.part usable n other ∧
        EvenSplit.part usable n other + gap ≤ 2147483647 := fun other there => parts other (List.mem_cons_of_mem _ there)
    obtain ⟨positive, small⟩ := parts index List.mem_cons_self
    have beyond : 0 ≤ EvenSplit.extent gap (rest.map fun index : Nat => EvenSplit.part usable n index) := by
      apply EvenSplit.extent_nonneg spaced
      intro length there
      obtain ⟨other, among, rfl⟩ := List.mem_map.mp there
      have nonneg := (later other among).1
      omega
    rw [Width.i32_fits] at fits
    unfold pushCells
    rw [Width.checked_of_fits (by rw [Width.i32_fits]; omega), Option.bind_eq_bind, Option.bind_some,
      Width.checked_of_fits (by rw [Width.i32_fits]; omega), Option.bind_some]
    simp only [List.map_cons, EvenSplit.extent, EvenSplit.place]
    by_cases room : y + (EvenSplit.part usable n index + gap) ≤ 2147483647
    · have next : Width.i32.Fits (y + (EvenSplit.part usable n index + gap)) := by
        rw [Width.i32_fits]
        omega
      have total : y + (EvenSplit.part usable n index + gap +
          EvenSplit.extent gap (rest.map fun index : Nat => EvenSplit.part usable n index)) =
          y + (EvenSplit.part usable n index + gap) +
            EvenSplit.extent gap (rest.map fun index : Nat => EvenSplit.part usable n index) := by omega
      rw [Width.checked_of_fits next, Option.bind_some, ih next later, total]
      split
      · rfl
      · rfl
    · have overflows : Width.i32.checked (y + (EvenSplit.part usable n index + gap)) = none := by
        refine if_neg ?_
        rw [Width.i32_fits]
        omega
      rw [overflows, if_neg (by omega)]
      rfl

/-! ## The columns -/

/-- The gap between the columns. -/
def splitGap (inner : Rect) (gap : Int) : Int := min gap (inner.w - 2)

def masterWidth (inner : Rect) (gap : Int) (share : Int → Int) : Int :=
  max 1 (min (inner.w - splitGap inner gap - 1) (share (inner.w - splitGap inner gap)))

/-- The gap between the cells of the stack. -/
def stackGap (inner : Rect) (n gap : Int) : Int := min gap ((inner.h - n) / max (n - 1) 1)

/-- What is left of the height for the cells. -/
def stackHeight (inner : Rect) (n gap : Int) : Int := inner.h - stackGap inner n gap * (n - 1)

def stackLeft (inner : Rect) (gap : Int) (share : Int → Int) : Int :=
  inner.x + masterWidth inner gap share + splitGap inner gap

def stackCells (inner : Rect) (n : Nat) (gap : Int) (share : Int → Int) : List Rect :=
  (EvenSplit.place (stackGap inner n gap) inner.y
    ((List.range n).map fun index : Nat => EvenSplit.part (stackHeight inner n gap) n index)).map
    fun cell => ⟨stackLeft inner gap share, cell.1, inner.w - masterWidth inner gap share - splitGap inner gap, cell.2⟩

variable {inner : Rect} {gap : Int}

theorem masterWidth_bounds (wide : 2 ≤ inner.w) (spaced : 0 ≤ gap) (share : Int → Int) :
    (0 ≤ splitGap inner gap ∧ splitGap inner gap ≤ gap) ∧ 1 ≤ masterWidth inner gap share ∧
      masterWidth inner gap share + splitGap inner gap + 1 ≤ inner.w := by
  unfold masterWidth splitGap
  omega

theorem stackGap_bounds {n : Int} (some : 1 ≤ n) (high : n ≤ inner.h) (spaced : 0 ≤ gap) :
    (0 ≤ stackGap inner n gap ∧ stackGap inner n gap ≤ gap) ∧ n ≤ stackHeight inner n gap := by
  have quotient : 0 ≤ (inner.h - n) / max (n - 1) 1 := Int.ediv_nonneg (by omega) (by omega)
  have bounded : 0 ≤ stackGap inner n gap ∧ stackGap inner n gap ≤ gap ∧
      stackGap inner n gap ≤ (inner.h - n) / max (n - 1) 1 := by
    unfold stackGap
    omega
  refine ⟨⟨bounded.1, bounded.2.1⟩, ?_⟩
  unfold stackHeight
  by_cases alone : n = 1
  · subst alone
    omega
  · -- The gaps between the cells take no more than the cells leave at one pixel each.
    have rows : max (n - 1) 1 = n - 1 := by omega
    rw [rows] at bounded
    have scaled : stackGap inner n gap * (n - 1) ≤ (inner.h - n) / (n - 1) * (n - 1) :=
      Int.mul_le_mul_of_nonneg_right bounded.2.2 (by omega)
    have whole : (inner.h - n) / (n - 1) * (n - 1) ≤ inner.h - n := Int.ediv_mul_le _ (by omega)
    omega

/-- With the gap after the last one, the cells and the gaps come to the height and one gap. -/
theorem stack_extent (inner : Rect) {n : Nat} (some : 1 ≤ n) (gap : Int) :
    EvenSplit.extent (stackGap inner n gap)
      ((List.range n).map fun index : Nat => EvenSplit.part (stackHeight inner n gap) n index) =
      inner.h + stackGap inner n gap := by
  rw [EvenSplit.extent_eq, EvenSplit.sum_all_parts _ some, List.length_map, List.length_range]
  unfold stackHeight
  rw [Int.mul_sub, Int.mul_one]
  omega

theorem splitArea_eq (fits : inner.Fits) (wide : 2 ≤ inner.w) {n : Nat} (some : 1 ≤ n) (high : n ≤ inner.h)
    (spaced : 0 ≤ gap) (room : inner.h + gap ≤ 2147483647) (share : Int → Int) :
    splitArea inner n gap share =
      if stackLeft inner gap share ≤ 2147483647 ∧ inner.y + inner.h + stackGap inner n gap ≤ 2147483647 then
        Option.some ({ inner with w := masterWidth inner gap share } :: stackCells inner n gap share)
      else none := by
  obtain ⟨left, top, width, height⟩ := fits
  rw [Width.i32_fits] at left top width height
  obtain ⟨⟨column, narrow⟩, master, beside⟩ := masterWidth_bounds wide spaced share
  obtain ⟨⟨row, close⟩, cells⟩ := stackGap_bounds (by omega : (1 : Int) ≤ n) high spaced
  have taken : stackHeight inner n gap = inner.h - stackGap inner n gap * (n - 1) := rfl
  have nonneg : 0 ≤ stackGap inner n gap * ((n : Int) - 1) := Int.mul_nonneg row (by omega)
  have split : min gap (max (inner.w - 2) 0) = splitGap inner gap := by
    unfold splitGap
    omega
  have available : max (inner.w - splitGap inner gap) 2 = inner.w - splitGap inner gap := by
    unfold splitGap
    omega
  have share_clamped : clampWithin 1 (inner.w - splitGap inner gap - 1) (share (inner.w - splitGap inner gap)) =
      Option.some (masterWidth inner gap share) := clampWithin_of_le (by omega) _
  have between : min gap (max ((inner.h - n) / max ((n : Int) - 1) 1) 0) = stackGap inner n gap := by
    have quotient : 0 ≤ (inner.h - n) / max ((n : Int) - 1) 1 := Int.ediv_nonneg (by omega) (by omega)
    unfold stackGap
    omega
  unfold splitArea
  rw [Width.checked_of_fits (by rw [Width.i32_fits]; omega), Option.bind_eq_bind, Option.bind_some]
  dsimp only
  rw [split, Width.checked_of_fits (by rw [Width.i32_fits]; omega), Option.bind_some]
  rw [available, Width.checked_of_fits (by rw [Width.i32_fits]; omega), Option.bind_some]
  rw [share_clamped, Option.bind_some]
  rw [Width.checked_of_fits (by rw [Width.i32_fits]; omega), Option.bind_some]
  rw [Width.checked_of_fits (by rw [Width.i32_fits]; omega), Option.bind_some]
  rw [between, Width.checked_of_fits (by rw [Width.i32_fits]; omega), Option.bind_some]
  rw [Width.checked_of_fits (by rw [Width.i32_fits]; omega), Option.bind_some]
  by_cases representable : stackLeft inner gap share ≤ 2147483647
  · have corner : stackLeft inner gap share = inner.x + masterWidth inner gap share + splitGap inner gap := rfl
    rw [Width.checked_of_fits (by rw [Width.i32_fits]; omega), Option.bind_some]
    rw [Width.checked_of_fits (by rw [Width.i32_fits]; omega), Option.bind_some]
    rw [Width.checked_of_fits (by rw [Width.i32_fits]; omega), Option.bind_some]
    rw [Width.checked_of_fits (by rw [Width.i32_fits]; omega), Option.bind_some]
    rw [show max (inner.w - masterWidth inner gap share - splitGap inner gap) 1 =
      inner.w - masterWidth inner gap share - splitGap inner gap by omega]
    rw [show max (inner.h - stackGap inner n gap * ((n : Int) - 1)) n = stackHeight inner n gap by omega]
    have parts : ∀ index ∈ List.range n, 1 ≤ EvenSplit.part (stackHeight inner n gap) n index ∧
        EvenSplit.part (stackHeight inner n gap) n index + stackGap inner n gap ≤ 2147483647 := by
      intro index _
      have positive := EvenSplit.one_le_part (by omega : (0 : Int) < n) cells index
      have small := EvenSplit.part_le (by omega : (0 : Int) < n) cells (by omega : (0 : Int) ≤ index)
      omega
    rw [pushCells_eq row top parts, stack_extent inner some gap, ← Int.add_assoc]
    split
    · rename_i bottom
      rw [if_pos ⟨representable, bottom⟩]
      rfl
    · rename_i overflows
      rw [if_neg (fun both => overflows both.2)]
      rfl
  · rw [if_neg (fun both => representable both.1)]
    unfold stackLeft at representable
    by_cases partly : inner.x + masterWidth inner gap share ≤ 2147483647
    · rw [Width.checked_of_fits (by rw [Width.i32_fits]; omega), Option.bind_some]
      rw [Width.checked_of_overflow (by rw [Width.i32_fits]; omega)]
      rfl
    · rw [Width.checked_of_overflow (by rw [Width.i32_fits]; omega)]
      rfl

/-! ## The tiles -/

def innerArea (area : Rect) (count : Nat) (gap : Int) (monocle : Bool) : Rect :=
  let outer := outerGap area count gap monocle
  ⟨area.x + outer, area.y + outer, area.w - 2 * outer, area.h - 2 * outer⟩

/-- The tiles, where nothing overflows. -/
def tiles (area : Rect) (count : Nat) (gap : Int) (share : Int → Int) (monocle : Bool) : List Rect :=
  let outer := outerGap area count gap monocle
  let inner := innerArea area count gap monocle
  if Divided area count monocle then
    { inner with w := masterWidth inner outer share } :: stackCells inner (count - 1) outer share
  else List.replicate count inner

/-- The coordinates that are computed are 32-bit integers: those of the area within the outer gap, and where it
is divided also the left edge of the stack and what lies one gap below it. -/
def Placeable (area : Rect) (count : Nat) (gap : Int) (share : Int → Int) (monocle : Bool) : Prop :=
  let outer := outerGap area count gap monocle
  let inner := innerArea area count gap monocle
  count = 0 ∨ (inner.x ≤ 2147483647 ∧ inner.y ≤ 2147483647) ∧ (Divided area count monocle →
    stackLeft inner outer share ≤ 2147483647 ∧ inner.y + inner.h + stackGap inner (count - 1 : Nat) outer ≤ 2147483647)

variable {count : Nat} {share : Int → Int} {monocle : Bool}

/-- Every area that ends within the 32-bit integers will do. -/
theorem placeable_of_edges (wide : 0 < area.w) (high : 0 < area.h) (right : area.x + area.w ≤ 2147483647)
    (bottom : area.y + area.h ≤ 2147483647) (count : Nat) (gap : Int) (share : Int → Int) (monocle : Bool) :
    Placeable area count gap share monocle := by
  obtain ⟨⟨spaced, -⟩, columns, rows⟩ := outerGap_bounds wide high count gap monocle
  unfold Placeable
  dsimp only
  right
  refine ⟨⟨?_, ?_⟩, ?_⟩
  · simp only [innerArea]
    omega
  · simp only [innerArea]
    omega
  · intro divided
    obtain ⟨broad, tall⟩ := outerGap_divided divided gap
    have wide' : 2 ≤ (innerArea area count gap monocle).w := by
      simp only [innerArea]
      omega
    obtain ⟨-, -, beside⟩ := masterWidth_bounds wide' spaced share
    have several := divided.1
    have high' : ((count - 1 : Nat) : Int) ≤ (innerArea area count gap monocle).h := by
      simp only [innerArea]
      omega
    obtain ⟨⟨-, close⟩, -⟩ := stackGap_bounds (by omega) high' spaced
    have left : (innerArea area count gap monocle).x = area.x + outerGap area count gap monocle := rfl
    have top : (innerArea area count gap monocle).y = area.y + outerGap area count gap monocle := rfl
    have width : (innerArea area count gap monocle).w = area.w - 2 * outerGap area count gap monocle := rfl
    have height : (innerArea area count gap monocle).h = area.h - 2 * outerGap area count gap monocle := rfl
    simp only [stackLeft]
    omega

theorem not_divided_of_none : ¬Divided area 0 monocle := by
  rintro ⟨several, -⟩
  omega

theorem tile_eq (fits : area.Fits) (wide : 0 < area.w) (high : 0 < area.h) (count : Nat) (gap : Int)
    (share : Int → Int) (monocle : Bool) (result : List Rect) :
    tile area count gap share monocle = some result ↔
      Placeable area count gap share monocle ∧ result = tiles area count gap share monocle := by
  have gaps := tileGap_eq fits wide high count gap monocle
  obtain ⟨left, top, width, height⟩ := fits
  rw [Width.i32_fits] at left top width height
  obtain ⟨⟨spaced, -⟩, columns, rows⟩ := outerGap_bounds wide high count gap monocle
  unfold tile Placeable tiles
  dsimp only
  by_cases none : count = 0
  · subst none
    rw [if_pos rfl, if_neg not_divided_of_none]
    simp [eq_comm]
  rw [if_neg none, gaps, Option.bind_eq_bind, Option.bind_some]
  have inside : innerArea area count gap monocle = ⟨area.x + outerGap area count gap monocle,
    area.y + outerGap area count gap monocle, area.w - 2 * outerGap area count gap monocle,
    area.h - 2 * outerGap area count gap monocle⟩ := rfl
  have innerW : (innerArea area count gap monocle).w = area.w - 2 * outerGap area count gap monocle := rfl
  have innerH : (innerArea area count gap monocle).h = area.h - 2 * outerGap area count gap monocle := rfl
  by_cases first : area.x + outerGap area count gap monocle ≤ 2147483647
  · rw [Width.checked_of_fits (by rw [Width.i32_fits]; omega), Option.bind_some]
    by_cases second : area.y + outerGap area count gap monocle ≤ 2147483647
    · rw [Width.checked_of_fits (by rw [Width.i32_fits]; omega), Option.bind_some]
      rw [Width.checked_of_fits (by rw [Width.i32_fits]; omega), Option.bind_some]
      rw [Width.checked_of_fits (by rw [Width.i32_fits]; omega), Option.bind_some]
      rw [Width.checked_of_fits (by rw [Width.i32_fits]; omega), Option.bind_some]
      rw [show max (area.w - 2 * outerGap area count gap monocle) 1 = area.w - 2 * outerGap area count gap monocle
        by omega]
      rw [show max (area.h - 2 * outerGap area count gap monocle) 1 = area.h - 2 * outerGap area count gap monocle
        by omega]
      rw [← inside]
      have placed : (innerArea area count gap monocle).x ≤ 2147483647 ∧
          (innerArea area count gap monocle).y ≤ 2147483647 := ⟨first, second⟩
      by_cases divided : Divided area count monocle
      · obtain ⟨broad, tall⟩ := outerGap_divided divided gap
        have two := divided.1
        have several : ¬(count = 1 ∨ monocle = true ∨ (innerArea area count gap monocle).w < 2 ∨
            (innerArea area count gap monocle).h < (count - 1 : Nat)) := by
          rintro (one | other | narrow | low)
          · omega
          · exact absurd (divided.2.1.symm.trans other) (by decide)
          · omega
          · omega
        have fits' : (innerArea area count gap monocle).Fits := by
          simp only [inside, Rect.Fits, Width.i32_fits]
          omega
        have split := splitArea_eq fits' (by simp only [inside]; omega) (n := count - 1) (by omega)
          (by simp only [inside]; omega) spaced (by simp only [inside]; omega) share
        unfold arrange
        rw [if_neg several, split, if_pos divided]
        simp only [none, placed, divided, false_or, true_and, forall_const, and_self]
        split
        · rename_i representable
          simp [representable, eq_comm]
        · rename_i overflows
          simp [overflows]
      · have alone : count = 1 ∨ monocle = true ∨ (innerArea area count gap monocle).w < 2 ∨
            (innerArea area count gap monocle).h < (count - 1 : Nat) := by
          by_contra several
          rw [not_or, not_or, not_or, Bool.not_eq_true] at several
          obtain ⟨more, master, columns', rows'⟩ := several
          simp only [inside] at columns' rows'
          exact divided ⟨by omega, master, by omega, by omega⟩
        unfold arrange
        rw [if_pos alone, if_neg divided]
        simp [none, placed, divided, eq_comm]
    · rw [Width.checked_of_overflow (by rw [Width.i32_fits]; omega)]
      simp [none, inside, second]
  · rw [Width.checked_of_overflow (by rw [Width.i32_fits]; omega)]
    simp [none, inside, first]

/-! ## The partition -/

theorem innerArea_within (wide : 0 < area.w) (high : 0 < area.h) (count : Nat) (gap : Int) (monocle : Bool) :
    (innerArea area count gap monocle).Within area := by
  obtain ⟨⟨spaced, -⟩, columns, rows⟩ := outerGap_bounds wide high count gap monocle
  unfold innerArea
  constructor
  · dsimp only
    omega
  · dsimp only
    omega
  · dsimp only
    omega
  · dsimp only
    omega
  · dsimp only
    omega
  · dsimp only
    omega

theorem Rect.Within.trans {first second third : Rect} (inside : first.Within second) (outside : second.Within third) :
    first.Within third := by
  obtain ⟨wide, high, left, top, right, bottom⟩ := inside
  obtain ⟨-, -, left', top', right', bottom'⟩ := outside
  exact ⟨wide, high, by omega, by omega, by omega, by omega⟩

/-- What is known of an inner area that is divided. -/
structure Roomy (inner : Rect) (n : Nat) (gap : Int) : Prop where
  wide : 2 ≤ inner.w
  some : 1 ≤ n
  high : n ≤ inner.h
  spaced : 0 ≤ gap

theorem roomy_of_divided (wide : 0 < area.w) (high : 0 < area.h) (gap : Int) (divided : Divided area count monocle) :
    Roomy (innerArea area count gap monocle) (count - 1) (outerGap area count gap monocle) := by
  obtain ⟨⟨spaced, -⟩, -, -⟩ := outerGap_bounds wide high count gap monocle
  obtain ⟨broad, tall⟩ := outerGap_divided divided gap
  have two := divided.1
  unfold innerArea
  refine ⟨?_, by omega, ?_, spaced⟩
  · dsimp only
    omega
  · dsimp only
    omega

section Stack

variable {n : Nat} (roomy : Roomy inner n gap) (share : Int → Int)
include roomy

theorem parts_positive : ∀ length ∈ (List.range n).map fun index : Nat => EvenSplit.part (stackHeight inner n gap) n index,
    0 < length := by
  have some := roomy.some
  obtain ⟨-, cells⟩ := stackGap_bounds (by omega : (1 : Int) ≤ n) roomy.high roomy.spaced
  intro length there
  obtain ⟨index, -, rfl⟩ := List.mem_map.mp there
  have positive := EvenSplit.one_le_part (by omega : (0 : Int) < n) cells index
  omega

/-- Every cell fills the column, and lies in the area. -/
theorem stackCells_within : ∀ cell ∈ stackCells inner n gap share, cell.x = stackLeft inner gap share ∧
    cell.w = inner.w - masterWidth inner gap share - splitGap inner gap ∧ cell.Within inner := by
  have some := roomy.some
  obtain ⟨⟨column, -⟩, master, beside⟩ := masterWidth_bounds roomy.wide roomy.spaced share
  obtain ⟨⟨row, -⟩, cells⟩ := stackGap_bounds (by omega : (1 : Int) ≤ n) roomy.high roomy.spaced
  intro cell there
  obtain ⟨segment, among, rfl⟩ := List.mem_map.mp there
  have positive := parts_positive roomy
  obtain ⟨above, below, listed⟩ := EvenSplit.place_within row (fun length long => Int.le_of_lt (positive length long)) _
    segment among
  have tall := positive _ listed
  rw [stack_extent inner some gap] at below
  unfold stackLeft
  refine ⟨rfl, rfl, ?_, tall, ?_, above, ?_, ?_⟩
  · dsimp only
    omega
  · dsimp only
    omega
  · dsimp only
    omega
  · dsimp only
    omega

theorem stackCells_apart : (stackCells inner n gap share).Pairwise Rect.Apart := by
  have some := roomy.some
  obtain ⟨⟨row, -⟩, cells⟩ := stackGap_bounds (by omega : (1 : Int) ≤ n) roomy.high roomy.spaced
  have positive := parts_positive roomy
  have apart := EvenSplit.place_apart row (fun length long => Int.le_of_lt (positive length long)) inner.y
  refine List.Pairwise.map _ ?_ apart
  intro first second order
  right; right; left
  dsimp only
  omega

omit roomy in
theorem stackCells_heights (inner : Rect) (n : Nat) (gap : Int) (share : Int → Int) :
    (stackCells inner n gap share).map Rect.h =
      (List.range n).map fun index : Nat => EvenSplit.part (stackHeight inner n gap) n index := by
  unfold stackCells
  rw [List.map_map]
  exact EvenSplit.place_lengths _ _ _

omit roomy in
theorem stackCells_leveled (inner : Rect) (n : Nat) (gap : Int) (share : Int → Int) :
    (stackCells inner n gap share).Pairwise fun upper lower => lower.h ≤ upper.h ∧ upper.h ≤ lower.h + 1 := by
  have ordered : ((stackCells inner n gap share).map Rect.h).Pairwise fun upper lower =>
      lower ≤ upper ∧ upper ≤ lower + 1 := by
    rw [stackCells_heights]
    refine List.Pairwise.map _ ?_ List.pairwise_lt_range
    intro first second earlier
    exact EvenSplit.part_anti (by omega)
  exact List.pairwise_map.mp ordered

theorem stackCells_sum : ((stackCells inner n gap share).map Rect.h).sum = stackHeight inner n gap := by
  rw [stackCells_heights, EvenSplit.sum_all_parts _ roomy.some]

theorem stackCells_filled {area : Rect} {outer : Int}
    (inside : inner = ⟨area.x + outer, area.y + outer, area.w - 2 * outer, area.h - 2 * outer⟩) :
    Filled area outer (splitGap inner gap) (stackGap inner n gap) { inner with w := masterWidth inner gap share }
      (stackCells inner n gap share) := by
  have some := roomy.some
  refine ⟨?_, ?_, ?_, ?_, ?_, ?_⟩
  · rw [inside]
    exact ⟨rfl, rfl⟩
  · rw [inside]
  · intro empty
    have none := congrArg List.length empty
    simp only [stackCells, List.length_map, EvenSplit.length_place, List.length_range, List.length_nil] at none
    omega
  · intro cell there
    obtain ⟨left, width, -⟩ := stackCells_within roomy share cell there
    have across : inner.w = area.w - 2 * outer := by rw [inside]
    rw [left, width]
    unfold stackLeft
    dsimp only
    omega
  · rw [stackCells_heights]
    unfold stackCells
    rw [List.map_map]
    simp [Function.comp_def]
  · intro _
    have down : inner.h = area.h - 2 * outer := by rw [inside]
    have length : (stackCells inner n gap share).length = n := by simp [stackCells]
    rw [stackCells_sum roomy share, length, ← down]
    unfold stackHeight
    omega

end Stack

theorem tiles_divided (wide : 0 < area.w) (high : 0 < area.h) (gap : Int) (share : Int → Int)
    (divided : Divided area count monocle) : Tiling area count gap monocle (tiles area count gap share monocle) := by
  obtain ⟨bounds, -, -⟩ := outerGap_bounds wide high count gap monocle
  have inside := innerArea_within wide high count gap monocle
  have roomy := roomy_of_divided wide high gap divided
  have two := divided.1
  unfold tiles
  dsimp only
  rw [if_pos divided]
  generalize place : innerArea area count gap monocle = inner at *
  generalize outer : outerGap area count gap monocle = around at *
  obtain ⟨⟨column, narrow⟩, master, beside⟩ := masterWidth_bounds roomy.wide roomy.spaced share
  obtain ⟨⟨row, close⟩, -⟩ := stackGap_bounds (by omega : (1 : Int) ≤ (count - 1 : Nat)) roomy.high roomy.spaced
  have cells := stackCells_within roomy share
  refine ⟨?_, ?_, ?_⟩
  · simp [stackCells]
    omega
  · intro rect there
    rcases List.mem_cons.mp there with rfl | there
    · have first : ({ inner with w := masterWidth inner around share } : Rect).Within inner :=
        ⟨by dsimp only; omega, inside.high, Int.le_refl _, Int.le_refl _, by dsimp only; omega, Int.le_refl _⟩
      exact first.trans inside
    · exact (cells rect there).2.2.trans inside
  · intro _ _ _
    refine ⟨?_, stackCells_leveled inner _ around share, ?_⟩
    · refine List.Pairwise.cons ?_ (stackCells_apart roomy share)
      intro cell there
      left
      rw [(cells cell there).1]
      unfold stackLeft
      dsimp only
      omega
    · rintro first stack same
      rw [List.cons.injEq] at same
      obtain ⟨rfl, rfl⟩ := same
      refine ⟨around, splitGap inner around, stackGap inner (count - 1 : Nat) around, bounds, ⟨column, by omega⟩,
        ⟨row, by omega⟩, stackCells_filled roomy share ?_⟩
      rw [← place, ← outer]
      rfl

theorem tiles_tiling (wide : 0 < area.w) (high : 0 < area.h) (count : Nat) (gap : Int) (share : Int → Int)
    (monocle : Bool) : Tiling area count gap monocle (tiles area count gap share monocle) := by
  by_cases divided : Divided area count monocle
  · exact tiles_divided wide high gap share divided
  · obtain ⟨bounds, -, -⟩ := outerGap_bounds wide high count gap monocle
    have inside := innerArea_within wide high count gap monocle
    unfold tiles
    rw [if_neg divided]
    refine ⟨List.length_replicate, ?_, ?_⟩
    · intro rect there
      rw [List.eq_of_mem_replicate there]
      exact inside
    · intro master columns rows
      have few : count ≤ 1 := by
        by_contra several
        exact divided ⟨by omega, master, by omega, columns⟩
      have cases : count = 0 ∨ count = 1 := by omega
      rcases cases with rfl | rfl
      · exact ⟨List.Pairwise.nil, List.Pairwise.nil, by simp⟩
      · refine ⟨by simp, by simp, ?_⟩
        rintro first stack same
        rw [List.replicate_one, List.cons.injEq] at same
        obtain ⟨rfl, rfl⟩ := same
        exact ⟨_, 0, 0, bounds, ⟨Int.le_refl 0, by omega⟩, ⟨Int.le_refl 0, by omega⟩, ⟨rfl, rfl⟩, rfl, fun _ => rfl,
          by simp, rfl, by simp⟩

/-- The tiles partition the area exactly when the coordinates that are computed fit. -/
theorem tile_partitions (fits : area.Fits) (wide : 0 < area.w) (high : 0 < area.h) (count : Nat) (gap : Int)
    (share : Int → Int) (monocle : Bool) :
    (∃ rects, tile area count gap share monocle = some rects ∧ Tiling area count gap monocle rects) ↔
      Placeable area count gap share monocle := by
  constructor
  · rintro ⟨rects, computed, -⟩
    exact ((tile_eq fits wide high count gap share monocle rects).mp computed).1
  · intro placeable
    refine ⟨tiles area count gap share monocle, ?_, tiles_tiling wide high count gap share monocle⟩
    exact (tile_eq fits wide high count gap share monocle _).mpr ⟨placeable, rfl⟩

theorem tile_partitions_three : ∃ rects,
    tile ⟨-1920, 40, 1920, 1040⟩ 3 8 (fun width => width * 55 / 100) false = some rects ∧
      Tiling ⟨-1920, 40, 1920, 1040⟩ 3 8 false rects :=
  (tile_partitions (by simp [Rect.Fits]) (by decide) (by decide) 3 8 (fun width => width * 55 / 100) false).mpr
    (placeable_of_edges (by decide) (by decide) (by decide) (by decide) _ _ _ _)

/-- An output at the end of the coordinates has no room for the gap. -/
theorem tile_overflows : ¬∀ (area : Rect) (count : Nat) (gap : Int) (share : Int → Int) (monocle : Bool),
    area.Fits → 0 < area.w → 0 < area.h →
      ∃ rects, tile area count gap share monocle = some rects ∧ Tiling area count gap monocle rects := by
  intro partitions
  obtain ⟨rects, computed, -⟩ := partitions ⟨2147483647, 0, 1920, 1080⟩ 1 10 (fun width => width / 2) false
    (by simp [Rect.Fits]) (by decide) (by decide)
  have overflow : tile ⟨2147483647, 0, 1920, 1080⟩ 1 10 (fun width => width / 2) false = none := by decide
  rw [overflow] at computed
  cases computed

end Luma.Core
