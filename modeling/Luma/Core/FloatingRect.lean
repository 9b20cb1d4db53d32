import Luma.Core.TilePartition

/-! The rectangle of a floating window, kept inside the usable area of its output.

The arithmetic is that of 32-bit integers; bounds of a clamp that are inverted fail as well.
-/

set_option autoImplicit false

namespace Luma.Core

open Luma.Library

/-- The width or the height. -/
def fitLength (available : Int) (saved requested : Option Int) : Option Int :=
  clampWithin 1 available ((saved.or requested).getD (available / 2))

/-- The position along one axis, in the middle unless one is saved. -/
def fitStart (start available length : Int) (saved : Option Int) : Option Int := do
  let spare ← Width.i32.checked (available - length)
  let middle ← Width.i32.checked (start + spare / 2)
  let stop ← Width.i32.checked (start + available)
  let last ← Width.i32.checked (stop - length)
  clampWithin start last (saved.getD middle)

def floatingRect (area : Rect) (saved : Option Rect) (requested : Option Int × Option Int) : Option Rect := do
  let width := max area.w 1
  let height := max area.h 1
  let w ← fitLength width (saved.map Rect.w) requested.1
  let h ← fitLength height (saved.map Rect.h) requested.2
  let x ← fitStart area.x width w (saved.map Rect.x)
  let y ← fitStart area.y height h (saved.map Rect.y)
  return ⟨x, y, w, h⟩

/-! ## One axis -/

/-- The length that is wanted, within what is there. -/
def fittedLength (available : Int) (saved requested : Option Int) : Int :=
  max 1 (min available ((saved.or requested).getD (available / 2)))

def fittedStart (start available length : Int) (saved : Option Int) : Int :=
  max start (min (start + available - length) (saved.getD (start + (available - length) / 2)))

variable {start available length : Int}

theorem fitLength_eq (some : 1 ≤ available) (saved requested : Option Int) :
    fitLength available saved requested = Option.some (fittedLength available saved requested) :=
  clampWithin_of_le some _

theorem fittedLength_bounds (some : 1 ≤ available) (saved requested : Option Int) :
    1 ≤ fittedLength available saved requested ∧ fittedLength available saved requested ≤ available := by
  unfold fittedLength
  omega

theorem fitStart_eq (fits : Width.i32.Fits start) (some : 1 ≤ length) (short : length ≤ available)
    (small : available ≤ 2147483647) (saved : Option Int) :
    fitStart start available length saved =
      if start + available ≤ 2147483647 then Option.some (fittedStart start available length saved) else none := by
  rw [Width.i32_fits] at fits
  unfold fitStart
  rw [Width.checked_of_fits (by rw [Width.i32_fits]; omega), Option.bind_eq_bind, Option.bind_some]
  by_cases edge : start + available ≤ 2147483647
  · rw [Width.checked_of_fits (by rw [Width.i32_fits]; omega), Option.bind_some]
    rw [Width.checked_of_fits (by rw [Width.i32_fits]; omega), Option.bind_some]
    rw [Width.checked_of_fits (by rw [Width.i32_fits]; omega), Option.bind_some]
    rw [if_pos edge]
    exact clampWithin_of_le (by omega) _
  · have overflow : Width.i32.checked (start + available) = none :=
      Width.checked_of_overflow (by rw [Width.i32_fits]; omega)
    rw [overflow, if_neg edge]
    cases Width.i32.checked (start + (available - length) / 2) with
    | none => rfl
    | some middle => rfl

theorem fittedStart_bounds (start : Int) (short : length ≤ available) (saved : Option Int) :
    start ≤ fittedStart start available length saved ∧
      fittedStart start available length saved + length ≤ start + available := by
  unfold fittedStart
  omega

/-- Where a start rests: as asked where that lies inside, and else at the border on that side. -/
def Rests (start length asked areaStart available : Int) : Prop :=
  (areaStart ≤ start ∧ start + length ≤ areaStart + available) ∧
    (asked = start ∨ asked < areaStart ∧ start = areaStart ∨
      areaStart + available < asked + length ∧ start + length = areaStart + available)

theorem fittedStart_eq_iff (start : Int) (short : length ≤ available) (asked result : Int) :
    fittedStart start available length (some asked) = result ↔ Rests result length asked start available := by
  unfold fittedStart Rests
  rw [Option.getD_some]
  omega

/-! ## Both axes -/

variable {area : Rect}

/-- The rectangle, where nothing overflows. -/
def fitted (area : Rect) (saved : Option Rect) (requested : Option Int × Option Int) : Rect :=
  let width := max area.w 1
  let height := max area.h 1
  let w := fittedLength width (saved.map Rect.w) requested.1
  let h := fittedLength height (saved.map Rect.h) requested.2
  ⟨fittedStart area.x width w (saved.map Rect.x), fittedStart area.y height h (saved.map Rect.y), w, h⟩

theorem floatingRect_eq (fits : area.Fits) (saved : Option Rect) (requested : Option Int × Option Int) :
    floatingRect area saved requested =
      if area.x + max area.w 1 ≤ 2147483647 ∧ area.y + max area.h 1 ≤ 2147483647 then
        some (fitted area saved requested)
      else none := by
  obtain ⟨left, top, width, height⟩ := fits
  rw [Width.i32_fits] at width height
  unfold floatingRect
  dsimp only
  have wide : 1 ≤ max area.w 1 := by omega
  have high : 1 ≤ max area.h 1 := by omega
  obtain ⟨positive, narrow⟩ := fittedLength_bounds wide (saved.map Rect.w) requested.1
  obtain ⟨positive', low⟩ := fittedLength_bounds high (saved.map Rect.h) requested.2
  rw [fitLength_eq wide, Option.bind_eq_bind, Option.bind_some, fitLength_eq high, Option.bind_some,
    fitStart_eq left positive narrow (by omega), fitStart_eq top positive' low (by omega)]
  by_cases right : area.x + max area.w 1 ≤ 2147483647
  · by_cases bottom : area.y + max area.h 1 ≤ 2147483647
    · rw [if_pos right, if_pos bottom, if_pos ⟨right, bottom⟩]
      rfl
    · have outside : ¬(area.x + max area.w 1 ≤ 2147483647 ∧ area.y + max area.h 1 ≤ 2147483647) :=
        fun both => bottom both.2
      rw [if_pos right, if_neg bottom, if_neg outside]
      rfl
  · have outside : ¬(area.x + max area.w 1 ≤ 2147483647 ∧ area.y + max area.h 1 ≤ 2147483647) :=
      fun both => right both.1
    rw [if_neg right, if_neg outside]
    rfl

theorem fitted_within (wide : 0 < area.w) (high : 0 < area.h) (saved : Option Rect)
    (requested : Option Int × Option Int) : (fitted area saved requested).Within area := by
  unfold fitted
  rw [show max area.w 1 = area.w by omega, show max area.h 1 = area.h by omega]
  obtain ⟨positive, narrow⟩ := fittedLength_bounds wide (saved.map Rect.w) requested.1
  obtain ⟨positive', low⟩ := fittedLength_bounds high (saved.map Rect.h) requested.2
  obtain ⟨left, right⟩ := fittedStart_bounds area.x narrow (saved.map Rect.x)
  obtain ⟨top, bottom⟩ := fittedStart_bounds area.y low (saved.map Rect.y)
  exact ⟨positive, positive', left, top, right, bottom⟩

/-- A saved rectangle that lies in the area is kept. -/
theorem fitted_of_within {rect : Rect} (inside : rect.Within area) (requested : Option Int × Option Int) :
    fitted area (some rect) requested = rect := by
  obtain ⟨wide, high, left, top, right, bottom⟩ := inside
  have width : fittedLength (max area.w 1) (some rect.w) requested.1 = rect.w := by
    simp only [fittedLength, Option.some_or, Option.getD_some]
    omega
  have height : fittedLength (max area.h 1) (some rect.h) requested.2 = rect.h := by
    simp only [fittedLength, Option.some_or, Option.getD_some]
    omega
  have x : fittedStart area.x (max area.w 1) rect.w (some rect.x) = rect.x := by
    simp only [fittedStart, Option.getD_some]
    omega
  have y : fittedStart area.y (max area.h 1) rect.h (some rect.y) = rect.y := by
    simp only [fittedStart, Option.getD_some]
    omega
  unfold fitted
  simp only [Option.map_some, width, height, x, y]

/-- The rectangles in the area are exactly those that stay as they are. -/
structure Retracts (area : Rect) (saved : Option Rect) (requested : Option Int × Option Int) : Prop where
  inside : ∃ rect, floatingRect area saved requested = some rect ∧ rect.Within area ∧
    ∀ again, floatingRect area (some rect) again = some rect
  kept : ∀ rect again, rect.Within area → floatingRect area (some rect) again = some rect

/-- A floating window is kept inside its area exactly when the area ends within the 32-bit integers. -/
theorem floatingRect_retracts (fits : area.Fits) (wide : 0 < area.w) (high : 0 < area.h) (saved : Option Rect)
    (requested : Option Int × Option Int) :
    Retracts area saved requested ↔ area.x + area.w ≤ 2147483647 ∧ area.y + area.h ≤ 2147483647 := by
  have width : max area.w 1 = area.w := by omega
  have height : max area.h 1 = area.h := by omega
  have eq (saved : Option Rect) (requested : Option Int × Option Int) : floatingRect area saved requested = _ :=
    floatingRect_eq fits saved requested
  rw [width, height] at eq
  constructor
  · rintro ⟨⟨rect, computed, -⟩, -⟩
    rw [eq] at computed
    by_contra overflow
    rw [if_neg overflow] at computed
    cases computed
  · intro edges
    have kept (rect : Rect) (again : Option Int × Option Int) (inside : rect.Within area) :
        floatingRect area (some rect) again = some rect := by
      rw [eq, if_pos edges, fitted_of_within inside]
    have inside := fitted_within wide high saved requested
    refine ⟨⟨fitted area saved requested, ?_, inside, fun again => kept _ again inside⟩, kept⟩
    rw [eq, if_pos edges]

theorem floatingRect_retracts_oversize :
    Retracts ⟨-1000, 40, 1000, 700⟩ (some ⟨5000, -300, 2000, 480⟩) (none, some 2000) :=
  (floatingRect_retracts (by simp [Rect.Fits]) (by decide) (by decide) _ _).mpr (by decide)

/-- The right edge of an output at the end of the coordinates is not one of them. -/
theorem floatingRect_overflows : ¬∀ (area : Rect) (saved : Option Rect) (requested : Option Int × Option Int),
    area.Fits → 0 < area.w → 0 < area.h → Retracts area saved requested := by
  intro retracts
  obtain ⟨⟨rect, computed, -⟩, -⟩ := retracts ⟨2147483000, 0, 1920, 1080⟩ none (some 640, some 480)
    (by simp [Rect.Fits]) (by decide) (by decide)
  have overflow : floatingRect ⟨2147483000, 0, 1920, 1080⟩ none (some 640, some 480) = none := by decide
  rw [overflow] at computed
  cases computed

end Luma.Core
