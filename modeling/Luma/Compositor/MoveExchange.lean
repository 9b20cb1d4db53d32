import Luma.Compositor.TiledLayout
import Mathlib.Data.List.Nodup

/-! What `move` does to the rectangles of the windows.

The two windows exchange their tiles if both are tiled on one output. Otherwise each stays where it
is or others move with it.
-/

set_option autoImplicit false

namespace Luma.Compositor

open Luma.Library Luma.Core

/-! ## One output of the layout pass -/

/-- What the layout pass does not change. -/
def LaidWindow.frame (self : LaidWindow) : LaidWindow :=
  { self with toManaged := { self.toManaged with rect := none }, floatingRect := none, mapped := false }

theorem shows_frame (output : LayoutOutput) (window : LaidWindow) : output.shows window.frame = output.shows window := rfl

theorem shows_of_tiles {output : LayoutOutput} {window : LaidWindow} (tiled : output.tiles window = true) :
    output.shows window = true := by
  simp only [LayoutOutput.tiles, Bool.and_eq_true] at tiled
  exact tiled.1.1

variable {output : LayoutOutput} {rects : List Rect} {windows placed : List LaidWindow}

theorem placeWindow_frame {rank : Nat} {window result : LaidWindow}
    (done : placeWindow output rects rank window = some result) : result.frame = window.frame := by
  unfold placeWindow at done
  split at done
  · cases done
    rfl
  · split at done
    · cases done
      rfl
    · split at done
      · obtain ⟨rect, -, rfl⟩ := Option.map_eq_some_iff.mp done
        rfl
      · obtain ⟨rect, -, rfl⟩ := Option.map_eq_some_iff.mp done
        rfl

theorem placeWindow_hidden {rank : Nat} {window : LaidWindow} (hidden : output.shows window = false) :
    placeWindow output rects rank window = some window := by
  simp [placeWindow, hidden]

/-- Only tiled windows depend on the tiles and on their rank. -/
theorem placeWindow_untiled {window : LaidWindow} (untiled : output.tiles window = false) (rects rects' : List Rect)
    (rank rank' : Nat) : placeWindow output rects rank window = placeWindow output rects' rank' window := by
  unfold placeWindow
  split
  · rfl
  · rename_i shown
    split
    · rfl
    · rename_i windowed
      split
      · rfl
      · rename_i sunk
        have tiled : output.tiles window = true := by
          simp only [LayoutOutput.tiles]
          simp_all
        rw [tiled] at untiled
        cases untiled

theorem placeWindow_tiled {window : LaidWindow} (tiled : output.tiles window = true) (rank : Nat) :
    placeWindow output rects rank window =
      rects[rank]?.map fun rect => { window with rect := some rect, mapped := true } := by
  have shown := shows_of_tiles tiled
  simp only [LayoutOutput.tiles, Bool.and_eq_true, Bool.not_eq_true'] at tiled
  simp [placeWindow, shown, tiled]

theorem tile_of_placed {window result : LaidWindow} (tiled : output.tiles window = true) {rank : Nat}
    (done : placeWindow output rects rank window = some result) : rects[rank]? = result.rect := by
  rw [placeWindow_tiled tiled] at done
  obtain ⟨rect, found, rfl⟩ := Option.map_eq_some_iff.mp done
  exact found

/-- The marks of an output's tiled windows. -/
def marks (output : LayoutOutput) (windows : List LaidWindow) : List Bool := windows.map output.tiles

theorem rank_cons (mark : Bool) (rest : List Bool) (place : Nat) :
    Exchange.rank (mark :: rest) (place + 1) = (if mark then 1 else 0) + Exchange.rank rest place := by
  unfold Exchange.rank
  rw [List.take_succ_cons, List.count_cons]
  cases mark <;> simp [Nat.add_comm]

/-- Every window is placed by its rank. -/
theorem placeAll_iff (rank : Nat) :
    placeAll output rects rank windows = some placed ↔ placed.length = windows.length ∧
      ∀ (place : Nat) (window : LaidWindow), windows[place]? = some window → ∃ result, placed[place]? = some result ∧
        placeWindow output rects (rank + Exchange.rank (marks output windows) place) window = some result := by
  induction windows generalizing rank placed with
  | nil =>
    simp only [placeAll, Option.some.injEq]
    constructor
    · rintro rfl
      simp
    · rintro ⟨empty, -⟩
      exact (List.eq_nil_of_length_eq_zero empty).symm
  | cons window rest ih =>
    simp only [placeAll, Option.bind_eq_bind, Option.bind_eq_some_iff, Option.pure_def, Option.some.injEq]
    constructor
    · rintro ⟨result, first, others, later, rfl⟩
      obtain ⟨length, each⟩ := (ih _).mp later
      refine ⟨by simp [length], ?_⟩
      intro place here there
      cases place with
      | zero =>
        cases there
        exact ⟨result, rfl, first⟩
      | succ place =>
        obtain ⟨found, at_place, done⟩ := each place here there
        refine ⟨found, at_place, ?_⟩
        rw [show marks output (window :: rest) = output.tiles window :: marks output rest by rfl, rank_cons,
          ← Nat.add_assoc]
        exact done
    · rintro ⟨length, each⟩
      obtain ⟨result, at_first, first⟩ := each 0 window rfl
      cases placed with
      | nil => cases at_first
      | cons found others =>
        cases at_first
        refine ⟨result, first, others, (ih _).mpr ⟨by simpa using length, ?_⟩, rfl⟩
        intro place here there
        obtain ⟨found, at_place, done⟩ := each (place + 1) here there
        refine ⟨found, at_place, ?_⟩
        rw [show marks output (window :: rest) = output.tiles window :: marks output rest by rfl, rank_cons,
          ← Nat.add_assoc] at done
        exact done

theorem countP_marks (output : LayoutOutput) (windows : List LaidWindow) :
    windows.countP output.tiles = (marks output windows).count true := by
  unfold marks
  rw [List.count, List.countP_map]
  congr 1
  funext window
  simp

/-- The marks do not depend on the rectangles. -/
theorem marks_of_frames {windows' : List LaidWindow}
    (same : windows'.map LaidWindow.frame = windows.map LaidWindow.frame) (output : LayoutOutput) :
    marks output windows' = marks output windows := by
  have framed (list : List LaidWindow) : marks output list = (list.map LaidWindow.frame).map output.tiles := by
    rw [List.map_map]
    rfl
  rw [framed, framed, same]

theorem placeAll_frames {rank : Nat} (done : placeAll output rects rank windows = some placed) :
    placed.map LaidWindow.frame = windows.map LaidWindow.frame := by
  induction windows generalizing rank placed with
  | nil =>
    cases done
    rfl
  | cons window rest ih =>
    simp only [placeAll, Option.bind_eq_bind, Option.bind_eq_some_iff, Option.pure_def, Option.some.injEq] at done
    obtain ⟨result, first, others, later, rfl⟩ := done
    rw [List.map_cons, List.map_cons, placeWindow_frame first, ih later]

/-! ## The layout pass -/

namespace TiledDesktop

variable {self : TiledDesktop}

/-- The tiles of an output that has so many tiled windows. -/
def tilesOf (self : TiledDesktop) (output : LayoutOutput) (count : Nat) : Option (List Rect) := do
  let gap ← Width.i32.checked (self.gap + self.border)
  tile output.area count gap self.share self.monocle

theorem layoutOutput_eq_some :
    self.layoutOutput windows output = some placed ↔ ∃ rects,
      self.tilesOf output ((marks output windows).count true) = some rects ∧
        placeAll output rects 0 windows = some placed := by
  unfold layoutOutput tilesOf
  rw [countP_marks]
  simp only [Option.bind_eq_bind, Option.bind_eq_some_iff]
  constructor
  · rintro ⟨gap, spaced, rects, tiled, done⟩
    exact ⟨rects, ⟨gap, spaced, tiled⟩, done⟩
  · rintro ⟨rects, ⟨gap, spaced, tiled⟩, done⟩
    exact ⟨gap, spaced, rects, tiled, done⟩

/-- Where the window at a place goes, if the output shows it. -/
def Placed (self : TiledDesktop) (windows : List LaidWindow) (output : LayoutOutput) (place : Nat)
    (window result : LaidWindow) : Prop :=
  ∃ rects, self.tilesOf output ((marks output windows).count true) = some rects ∧
    placeWindow output rects (Exchange.rank (marks output windows) place) window = some result

theorem layoutOutput_placed (done : self.layoutOutput windows output = some placed) {place : Nat} {window : LaidWindow}
    (there : windows[place]? = some window) :
    ∃ result, placed[place]? = some result ∧ self.Placed windows output place window result := by
  obtain ⟨rects, tiled, all⟩ := layoutOutput_eq_some.mp done
  obtain ⟨-, each⟩ := (placeAll_iff 0).mp all
  obtain ⟨result, found, at_rank⟩ := each place window there
  rw [Nat.zero_add] at at_rank
  exact ⟨result, found, rects, tiled, at_rank⟩

theorem layoutOutput_frames (done : self.layoutOutput windows output = some placed) :
    placed.map LaidWindow.frame = windows.map LaidWindow.frame := by
  obtain ⟨rects, -, all⟩ := layoutOutput_eq_some.mp done
  exact placeAll_frames all

theorem shows_unique {outputs : List LayoutOutput} (named : (outputs.map (·.name)).Nodup) {output other : LayoutOutput}
    (there : output ∈ outputs) (there' : other ∈ outputs) {window : LaidWindow} (shown : output.shows window = true)
    (shown' : other.shows window = true) : other = output := by
  simp only [LayoutOutput.shows, Bool.and_eq_true, beq_iff_eq] at shown shown'
  exact List.inj_on_of_nodup_map named there' there (shown'.1.1.symm.trans shown.1.1)

/-- Each window is placed by the output that shows it and by no other. -/
theorem layout_placed {outputs : List LayoutOutput} (named : (outputs.map (·.name)).Nodup)
    (done : outputs.foldlM self.layoutOutput windows = some placed) {place : Nat} {window : LaidWindow}
    (there : windows[place]? = some window) : ∃ result, placed[place]? = some result ∧
      (∀ output ∈ outputs, output.shows window = true → self.Placed windows output place window result) ∧
      ((∀ output ∈ outputs, output.shows window = false) → result = window) := by
  induction outputs generalizing windows window with
  | nil =>
    cases done
    exact ⟨window, there, by simp, fun _ => rfl⟩
  | cons output rest ih =>
    rw [List.foldlM_cons] at done
    obtain ⟨middle, first, later⟩ := Option.bind_eq_some_iff.mp done
    rw [List.map_cons, List.nodup_cons] at named
    obtain ⟨step, at_step, moved⟩ := layoutOutput_placed first there
    obtain ⟨result, at_end, others, kept⟩ := ih named.2 later at_step
    have frames := layoutOutput_frames first
    have frame : step.frame = window.frame := by
      have same := congrArg (·[place]?) frames
      simp only [List.getElem?_map, at_step, there, Option.map_some, Option.some.injEq] at same
      exact same
    have shown_same (other : LayoutOutput) : other.shows step = other.shows window := by
      rw [← shows_frame, frame, shows_frame]
    refine ⟨result, at_end, ?_, ?_⟩
    · intro other among shown
      rcases List.mem_cons.mp among with rfl | further
      · -- The rest of the outputs show it no more.
        have aside : ∀ another ∈ rest, another.shows step = false := by
          intro another elsewhere
          rw [shown_same]
          by_contra shown'
          rw [Bool.not_eq_false] at shown'
          have names : ((other :: rest).map LayoutOutput.name).Nodup := List.nodup_cons.mpr named
          have same : another = other :=
            shows_unique names List.mem_cons_self (List.mem_cons_of_mem _ elsewhere) shown shown'
          subst same
          exact named.1 (List.mem_map.mpr ⟨another, elsewhere, rfl⟩)
        rw [kept aside]
        exact moved
      · have untouched : step = window := by
          have hidden : output.shows window = false := by
            by_contra shown'
            rw [Bool.not_eq_false] at shown'
            have names : ((output :: rest).map LayoutOutput.name).Nodup := List.nodup_cons.mpr named
            have same : other = output :=
              shows_unique names List.mem_cons_self (List.mem_cons_of_mem _ further) shown' shown
            subst same
            exact named.1 (List.mem_map.mpr ⟨other, further, rfl⟩)
          obtain ⟨rects, -, at_rank⟩ := moved
          rw [placeWindow_hidden hidden] at at_rank
          cases at_rank
          rfl
        rw [untouched] at others
        obtain ⟨rects, tiled, at_rank⟩ := others other further shown
        rw [marks_of_frames frames] at tiled at_rank
        exact ⟨rects, tiled, at_rank⟩
    · intro hidden
      obtain ⟨rects, -, at_rank⟩ := moved
      rw [placeWindow_hidden (hidden output List.mem_cons_self)] at at_rank
      cases at_rank
      exact kept fun other among => hidden other (List.mem_cons_of_mem _ among)

/-! ## What the command is to do -/

def rectAt (windows : List LaidWindow) (place : Nat) : Option Rect := windows[place]?.bind (·.rect)

/-- The layout pass has come to every window and would change nothing. -/
structure Settled (desktop : TiledDesktop) : Prop where
  laid : ∀ output ∈ desktop.outputs, desktop.layoutOutput desktop.windows output = some desktop.windows
  shown : ∀ window ∈ desktop.windows, window.mapped = desktop.outputs.any (·.shows window)

/-- The two windows have exchanged their rectangles and the others have kept theirs. -/
structure Exchanged (before after : List LaidWindow) (focused target : Nat) : Prop where
  forth : ∃ window other moved, before[focused]? = some window ∧ before[target]? = some other ∧
    after[target]? = some moved ∧ moved.window = window.window ∧ moved.rect = other.rect
  back : ∃ window other moved, before[focused]? = some window ∧ before[target]? = some other ∧
    after[focused]? = some moved ∧ moved.window = other.window ∧ moved.rect = window.rect
  others : ∀ place, place ≠ focused → place ≠ target → rectAt after place = rectAt before place

/-- The command and the layout pass succeed and exchange the focused window and its target only. -/
def MoveExchanges (self : TiledDesktop) (direction : Direction) : Prop :=
  ∃ moved after, self.moveCommand direction = some moved ∧ moved.layout = some after ∧
    match self.focusedIndex with
    | none => ∀ place, rectAt after.windows place = rectAt self.windows place
    | some focused =>
      match self.moveTarget direction focused with
      | some (some target) => Exchanged self.windows after.windows focused target
      | _ => ∀ place, rectAt after.windows place = rectAt self.windows place

/-- Both windows are tiled on one output. -/
def Together (self : TiledDesktop) (focused target : Nat) : Prop :=
  ∃ output ∈ self.outputs, ∃ window other, self.windows[focused]? = some window ∧ self.windows[target]? = some other ∧
    output.tiles window = true ∧ output.tiles other = true

/-- The coordinates of a centre are 32-bit integers. -/
def Centred (rect : Rect) : Prop := Width.i32.Fits (rect.x + rect.w.tdiv 2) ∧ Width.i32.Fits (rect.y + rect.h.tdiv 2)

/-- The distance from one rectangle's centre to another's is computed without overflow. -/
structure Measured (origin rect : Rect) : Prop where
  centred : Centred rect
  across : Width.i32.Fits (rect.x + rect.w.tdiv 2 - (origin.x + origin.w.tdiv 2))
  down : Width.i32.Fits (rect.y + rect.h.tdiv 2 - (origin.y + origin.h.tdiv 2))
  squared : Width.i64.Fits
    ((rect.x + rect.w.tdiv 2 - (origin.x + origin.w.tdiv 2)) * (rect.x + rect.w.tdiv 2 - (origin.x + origin.w.tdiv 2)) +
      (rect.y + rect.h.tdiv 2 - (origin.y + origin.h.tdiv 2)) * (rect.y + rect.h.tdiv 2 - (origin.y + origin.h.tdiv 2)))

structure Measurable (desktop : TiledDesktop) (focused : Nat) : Prop where
  origin : Centred (desktop.originRect focused)
  others : ∀ place window rect, desktop.windows[place]? = some window → place ≠ focused → window.mapped = true →
    window.rect = some rect → Measured (desktop.originRect focused) rect

/-! ## The target -/

theorem centre_eq_some {rect : Rect} {point : Int × Int} :
    centre rect = some point ↔ Centred rect ∧ point = (rect.x + rect.w.tdiv 2, rect.y + rect.h.tdiv 2) := by
  unfold centre Centred
  simp only [Option.bind_eq_bind, Option.bind_eq_some_iff, Width.checked_eq_some, Option.pure_def, Option.some.injEq]
  constructor
  · rintro ⟨x, ⟨fits, rfl⟩, y, ⟨fits', rfl⟩, rfl⟩
    exact ⟨⟨fits, fits'⟩, rfl⟩
  · rintro ⟨⟨fits, fits'⟩, rfl⟩
    exact ⟨_, ⟨fits, rfl⟩, _, ⟨fits', rfl⟩, rfl⟩

/-- A rectangle in the direction has another centre. -/
theorem distance_eq_some {direction : Direction} {origin rect : Rect} {found : Option Int} :
    distance direction (origin.x + origin.w.tdiv 2, origin.y + origin.h.tdiv 2) rect = some found ↔
      Measured origin rect ∧ found =
        if direction.valid (rect.x + rect.w.tdiv 2 - (origin.x + origin.w.tdiv 2))
            (rect.y + rect.h.tdiv 2 - (origin.y + origin.h.tdiv 2)) then
          some ((rect.x + rect.w.tdiv 2 - (origin.x + origin.w.tdiv 2)) *
              (rect.x + rect.w.tdiv 2 - (origin.x + origin.w.tdiv 2)) +
            (rect.y + rect.h.tdiv 2 - (origin.y + origin.h.tdiv 2)) *
              (rect.y + rect.h.tdiv 2 - (origin.y + origin.h.tdiv 2)))
        else none := by
  unfold distance
  simp only [Option.bind_eq_bind, Option.bind_eq_some_iff, Width.checked_eq_some, centre_eq_some, Option.pure_def,
    Option.some.injEq]
  constructor
  · rintro ⟨point, ⟨centred, rfl⟩, dx, ⟨across, rfl⟩, dy, ⟨down, rfl⟩, square, ⟨squared, rfl⟩, rfl⟩
    exact ⟨⟨centred, across, down, squared⟩, rfl⟩
  · rintro ⟨⟨centred, across, down, squared⟩, rfl⟩
    exact ⟨_, ⟨centred, rfl⟩, _, ⟨across, rfl⟩, _, ⟨down, rfl⟩, _, ⟨squared, rfl⟩, rfl⟩

theorem distance_apart {direction : Direction} {origin rect : Rect} {squared : Int}
    (measured : distance direction (origin.x + origin.w.tdiv 2, origin.y + origin.h.tdiv 2) rect = some (some squared)) :
    origin ≠ rect := by
  rintro rfl
  obtain ⟨-, valid⟩ := distance_eq_some.mp measured
  rw [Int.sub_self, Int.sub_self] at valid
  cases direction <;> simp [Direction.valid] at valid

theorem measure_sound {direction : Direction} {origin : Int × Int} {focused index : Nat} {window : LaidWindow}
    {squared : Int} (found : measure direction origin focused index window = some (some squared)) :
    ∃ rect, window.rect = some rect ∧ index ≠ focused ∧ window.mapped = true ∧
      distance direction origin rect = some (some squared) := by
  unfold measure at found
  split at found
  · rename_i rect has
    split at found
    · rename_i valid
      exact ⟨rect, has, valid.1, valid.2, found⟩
    · cases found
  · cases found

theorem measure_isSome {direction : Direction} {origin : Rect} {focused index : Nat} {window : LaidWindow} :
    (∃ found, measure direction (origin.x + origin.w.tdiv 2, origin.y + origin.h.tdiv 2) focused index window = some found) ↔
      (index ≠ focused → window.mapped = true → ∀ rect, window.rect = some rect → Measured origin rect) := by
  unfold measure
  cases window.rect with
  | none => simp
  | some rect =>
    dsimp only
    split
    · rename_i valid
      constructor
      · rintro ⟨found, measured⟩ - - other same
        cases same
        exact (distance_eq_some.mp measured).1
      · intro measured
        exact ⟨_, distance_eq_some.mpr ⟨measured valid.1 valid.2 rect rfl, rfl⟩⟩
    · rename_i invalid
      refine ⟨fun _ apart mapped => absurd ⟨apart, mapped⟩ invalid, fun _ => ⟨_, rfl⟩⟩

theorem candidates_sound {direction : Direction} {origin : Int × Int} {focused index : Nat} {list : List (Nat × Int)}
    (found : candidates direction origin focused index windows = some list) :
    ∀ candidate ∈ list, ∃ place window rect, candidate.1 = index + place ∧ candidate.1 ≠ focused ∧
      windows[place]? = some window ∧ window.mapped = true ∧ window.rect = some rect ∧
      distance direction origin rect = some (some candidate.2) := by
  induction windows generalizing index list with
  | nil =>
    cases found
    simp
  | cons window rest ih =>
    simp only [candidates, Option.bind_eq_bind, Option.bind_eq_some_iff, Option.pure_def, Option.some.injEq] at found
    obtain ⟨measure, first, others, later, same⟩ := found
    -- Those of the rest of the list.
    have rest_of : ∀ candidate ∈ others, ∃ place other rect, candidate.1 = index + place ∧ candidate.1 ≠ focused ∧
        (window :: rest)[place]? = some other ∧ other.mapped = true ∧ other.rect = some rect ∧
        distance direction origin rect = some (some candidate.2) := by
      intro candidate there
      obtain ⟨place, other, rect, at_place, apart, is_there, mapped, has, measured⟩ := ih later candidate there
      exact ⟨place + 1, other, rect, by omega, apart, is_there, mapped, has, measured⟩
    cases measure with
    | none =>
      rw [← same]
      exact rest_of
    | some squared =>
      rw [← same]
      intro candidate there
      rcases List.mem_cons.mp there with rfl | there
      · obtain ⟨rect, has, apart, mapped, measured⟩ := measure_sound first
        exact ⟨0, window, rect, rfl, apart, rfl, mapped, has, measured⟩
      · exact rest_of candidate there

theorem candidates_isSome {direction : Direction} {origin : Rect} {focused : Nat} (index : Nat) :
    (∃ list, candidates direction (origin.x + origin.w.tdiv 2, origin.y + origin.h.tdiv 2) focused index windows = some list) ↔
      ∀ place window rect, windows[place]? = some window → index + place ≠ focused → window.mapped = true →
        window.rect = some rect → Measured origin rect := by
  induction windows generalizing index with
  | nil => simp [candidates]
  | cons window rest ih =>
    simp only [candidates, Option.bind_eq_bind, Option.bind_eq_some_iff, Option.pure_def, Option.some.injEq]
    constructor
    · rintro ⟨list, found, first, others, later, -⟩ place other rect there apart mapped has
      cases place with
      | zero =>
        cases there
        exact measure_isSome.mp ⟨found, first⟩ apart mapped rect has
      | succ place => exact (ih (index + 1)).mp ⟨others, later⟩ place other rect there (by omega) mapped has
    · intro all
      obtain ⟨others, later⟩ := (ih (index + 1)).mpr fun place other rect there apart =>
        all (place + 1) other rect there (by omega)
      obtain ⟨found, first⟩ := measure_isSome.mpr fun apart mapped rect has => all 0 window rect rfl apart mapped has
      exact ⟨_, found, first, others, later, rfl⟩

theorem nearest_mem {list : List (Nat × Int)} {best : Nat × Int} (found : nearest list = some best) : best ∈ list := by
  induction list with
  | nil => cases found
  | cons candidate rest ih =>
    unfold nearest at found
    split at found
    · rename_i other nearer
      split at found
      · cases found
        exact List.mem_cons_of_mem _ (ih nearer)
      · cases found
        exact List.mem_cons_self
    · cases found
      exact List.mem_cons_self

theorem moveTarget_isSome {direction : Direction} {focused : Nat} :
    (∃ target, self.moveTarget direction focused = some target) ↔ self.Measurable focused := by
  unfold moveTarget
  simp only [Option.bind_eq_bind, Option.bind_eq_some_iff, centre_eq_some, Option.pure_def, Option.some.injEq]
  constructor
  · rintro ⟨target, point, ⟨centred, rfl⟩, list, found, -⟩
    have all := (candidates_isSome 0).mp ⟨list, found⟩
    simp only [Nat.zero_add] at all
    exact ⟨centred, all⟩
  · rintro ⟨centred, all⟩
    have listed := @candidates_isSome self.windows direction (self.originRect focused) focused 0
    obtain ⟨list, found⟩ := listed.mpr (by simpa only [Nat.zero_add] using all)
    exact ⟨_, _, ⟨centred, rfl⟩, list, found, rfl⟩

/-- The target is another window of the space, with another rectangle. -/
theorem moveTarget_sound {direction : Direction} {focused target : Nat}
    (chosen : self.moveTarget direction focused = some (some target)) :
    target ≠ focused ∧ ∃ window rect, self.windows[target]? = some window ∧ window.mapped = true ∧
      window.rect = some rect ∧ self.originRect focused ≠ rect := by
  unfold moveTarget at chosen
  simp only [Option.bind_eq_bind, Option.bind_eq_some_iff, centre_eq_some, Option.pure_def, Option.some.injEq] at chosen
  obtain ⟨point, ⟨centred, rfl⟩, list, found, best⟩ := chosen
  obtain ⟨candidate, nearer, rfl⟩ := Option.map_eq_some_iff.mp best
  obtain ⟨place, window, rect, at_place, apart, there, mapped, has, measured⟩ :=
    candidates_sound found candidate (nearest_mem nearer)
  rw [Nat.zero_add] at at_place
  rw [← at_place] at there
  exact ⟨apart, window, rect, there, mapped, has, distance_apart measured⟩

/-! ## Where the exchange fails -/

theorem placed_of_settled (settled : self.Settled) {output : LayoutOutput} (among : output ∈ self.outputs) {place : Nat}
    {window : LaidWindow} (there : self.windows[place]? = some window) :
    self.Placed self.windows output place window window := by
  obtain ⟨result, found, moved⟩ := layoutOutput_placed (settled.laid output among) there
  rw [there] at found
  cases found
  exact moved

variable {windows' after : List LaidWindow} {focused target : Nat} {window other : LaidWindow}

/-- A window that moves among the tiles of its output alone keeps its rectangle if the others there keep theirs. -/
theorem keeps_tile (settled : self.Settled) (apart : focused ≠ target)
    (exchanged : Exchange.Exchanged self.windows windows' focused target window other)
    (done : self.outputs.foldlM self.layoutOutput windows' = some after)
    (others : ∀ place, place ≠ focused → place ≠ target → rectAt after place = rectAt self.windows place)
    {output : LayoutOutput} (among : output ∈ self.outputs) (tiled : output.tiles window = true)
    (untiled : output.tiles other = false) : rectAt after target = window.rect := by
  obtain ⟨rects, tiling, at_rank⟩ := placed_of_settled settled among exchanged.here
  have count : (marks output windows').count true = (marks output self.windows).count true :=
    (exchanged.perm.map output.tiles).count_eq true
  have moved := exchanged.map output.tiles
  rw [tiled, untiled] at moved
  -- What the layout does with a tiled window after the exchange.
  have later {place : Nat} {tile : LaidWindow} (there : windows'[place]? = some tile) (tiled : output.tiles tile = true) :
      rects[Exchange.rank (marks output windows') place]? = rectAt after place := by
    obtain ⟨result, at_end, placed, -⟩ := layout_placed self.named done there
    obtain ⟨rects', tiling', at_rank'⟩ := placed output among (shows_of_tiles tiled)
    rw [count, tiling] at tiling'
    cases tiling'
    rw [tile_of_placed tiled at_rank', rectAt, at_end, Option.bind_some]
  have value := moved.value_eq (fun rank => rects[rank]?) apart (by
    intro place apart apart' mark
    unfold marks at *
    rw [List.getElem?_map] at mark
    obtain ⟨tile, there, tiled⟩ := Option.map_eq_some_iff.mp mark
    obtain ⟨rects', tiling', at_rank'⟩ := placed_of_settled settled among there
    rw [show marks output self.windows = self.windows.map output.tiles from rfl] at *
    rw [tiling] at tiling'
    cases tiling'
    have before := tile_of_placed tiled at_rank'
    have there' : windows'[place]? = some tile := by rw [exchanged.elsewhere place apart apart', there]
    have now := later there' tiled
    rw [others place apart apart', rectAt, there, Option.bind_some] at now
    exact before.trans now.symm)
  rw [← later exchanged.there' tiled]
  exact value.trans (tile_of_placed tiled at_rank)

/-- A floating or fullscreen window keeps its rectangle. -/
theorem keeps_untiled (settled : self.Settled)
    (exchanged : Exchange.Exchanged self.windows windows' focused target window other)
    (done : self.outputs.foldlM self.layoutOutput windows' = some after) {output : LayoutOutput}
    (among : output ∈ self.outputs) (shown : output.shows window = true) (untiled : output.tiles window = false) :
    rectAt after target = window.rect := by
  obtain ⟨rects, -, at_rank⟩ := placed_of_settled settled among exchanged.here
  obtain ⟨result, at_end, placed, -⟩ := layout_placed self.named done exchanged.there'
  obtain ⟨rects', -, at_rank'⟩ := placed output among shown
  rw [placeWindow_untiled untiled rects' rects _ (Exchange.rank (marks output self.windows) focused), at_rank] at at_rank'
  cases at_rank'
  rw [rectAt, at_end, Option.bind_some]

theorem layout_eq_some {windows : List LaidWindow} {after : TiledDesktop} :
    (self.setWindows windows).layout = some after ↔ ∃ placed,
      self.outputs.foldlM self.layoutOutput windows = some placed ∧ after = self.setWindows (placed.map self.hide) := by
  constructor
  · intro done
    obtain ⟨placed, laid, same⟩ := Option.bind_eq_some_iff.mp done
    cases same
    exact ⟨placed, laid, rfl⟩
  · rintro ⟨placed, laid, rfl⟩
    exact Option.bind_eq_some_iff.mpr ⟨placed, laid, rfl⟩

theorem hide_rect (self : TiledDesktop) (window : LaidWindow) : (self.hide window).rect = window.rect := by
  unfold hide
  split
  · rfl
  · rfl

theorem rectAt_hidden (self : TiledDesktop) (windows : List LaidWindow) (place : Nat) :
    rectAt (windows.map self.hide) place = rectAt windows place := by
  unfold rectAt
  rw [List.getElem?_map]
  cases windows[place]? with
  | none => rfl
  | some window => exact self.hide_rect window

/-- The windows that exchange their rectangles are tiled on one output. -/
theorem together_of_exchanged (settled : self.Settled) {direction : Direction}
    (chosen : self.moveTarget direction focused = some (some target)) {after : TiledDesktop}
    (done : (self.setWindows (Exchange.swap self.windows focused target)).layout = some after)
    (result : Exchanged self.windows after.windows focused target) : self.Together focused target := by
  obtain ⟨apart, other, rect, there, mapped, has, differ⟩ := moveTarget_sound chosen
  obtain ⟨-, ⟨window, other', moved, here, there', at_end, -, taken⟩, others⟩ := result
  rw [there] at there'
  cases there'
  have exchanged := Exchange.exchanged_swap here there
  obtain ⟨laid, passed, rfl⟩ := layout_eq_some.mp done
  have kept : ∀ place, place ≠ target → place ≠ focused → rectAt laid place = rectAt self.windows place := by
    intro place apart apart'
    rw [← self.rectAt_hidden]
    exact others place apart' apart
  -- The target would have to give its rectangle away.
  have given : rectAt laid focused ≠ other.rect := by
    intro same
    rw [← self.rectAt_hidden, rectAt] at same
    rw [show (self.setWindows (laid.map self.hide)).windows = laid.map self.hide from rfl] at at_end
    rw [at_end, Option.bind_some, taken, has] at same
    rw [originRect, here, Option.bind_some, same, Option.getD_some] at differ
    exact differ rfl
  have visible := settled.shown other (List.mem_of_getElem? there)
  rw [mapped] at visible
  obtain ⟨output, among, shown⟩ := List.any_eq_true.mp visible.symm
  cases tiled : output.tiles other with
  | false => exact absurd (keeps_untiled settled exchanged.symm passed among shown tiled) given
  | true =>
    refine ⟨output, among, window, other, here, there, ?_, tiled⟩
    by_contra untiled
    rw [Bool.not_eq_true] at untiled
    exact given (keeps_tile settled apart exchanged.symm passed kept among tiled untiled)

/-! ## Where it succeeds -/

/-- An output that shows neither window has nothing to do. -/
theorem layoutOutput_aside (settled : self.Settled) {output : LayoutOutput} (among : output ∈ self.outputs)
    (aside : ∀ place : Nat, windows'[place]? = self.windows[place]? ∨ ∃ window window' : LaidWindow,
      self.windows[place]? = some window ∧ windows'[place]? = some window' ∧ output.shows window = false ∧
        output.shows window' = false) : self.layoutOutput windows' output = some windows' := by
  have same : marks output windows' = marks output self.windows := by
    unfold marks
    apply List.ext_getElem?
    intro place
    rw [List.getElem?_map, List.getElem?_map]
    rcases aside place with equal | ⟨window, window', here, here', hidden, hidden'⟩
    · rw [equal]
    · rw [here, here', Option.map_some, Option.map_some]
      simp [LayoutOutput.tiles, hidden, hidden']
  obtain ⟨rects, tiling, all⟩ := layoutOutput_eq_some.mp (settled.laid output among)
  obtain ⟨-, each⟩ := (placeAll_iff 0).mp all
  refine layoutOutput_eq_some.mpr ⟨rects, by rw [same]; exact tiling, (placeAll_iff 0).mpr ⟨rfl, ?_⟩⟩
  intro place window' here'
  refine ⟨window', here', ?_⟩
  rw [same]
  rcases aside place with equal | ⟨window, another, here, there', hidden, hidden'⟩
  · rw [equal] at here'
    obtain ⟨result, found, moved⟩ := each place window' here'
    rw [here'] at found
    cases found
    exact moved
  · rw [here'] at there'
    cases there'
    exact placeWindow_hidden hidden'

theorem foldlM_same {α β : Type} {step : β → α → Option β} {inputs : List α} {state : β}
    (each : ∀ input ∈ inputs, step state input = some state) : inputs.foldlM step state = some state := by
  induction inputs with
  | nil => rfl
  | cons input rest ih =>
    rw [List.foldlM_cons, each input List.mem_cons_self]
    exact ih fun other there => each other (List.mem_cons_of_mem _ there)

theorem hide_window (self : TiledDesktop) (window : LaidWindow) : (self.hide window).window = window.window := by
  unfold hide
  split
  · rfl
  · rfl

theorem layout_settled (settled : self.Settled) : ∃ after, self.layout = some after ∧
    ∀ place, rectAt after.windows place = rectAt self.windows place := by
  have passed := foldlM_same settled.laid
  refine ⟨_, layout_eq_some.mpr ⟨self.windows, passed, rfl⟩, ?_⟩
  exact self.rectAt_hidden self.windows

/-- The window as it is once it has taken the other one's rectangle. -/
def taking (window : LaidWindow) (rect : Option Rect) : LaidWindow :=
  { window with toManaged := { window.toManaged with rect }, mapped := true }

/-- The windows after an exchange, each with the rectangle of the other. -/
structure Traded (windows placed : List LaidWindow) (focused target : Nat) (window other : LaidWindow) : Prop where
  length : placed.length = windows.length
  given : placed[focused]? = some (taking other window.rect)
  taken : placed[target]? = some (taking window other.rect)
  elsewhere : ∀ place, place ≠ focused → place ≠ target → placed[place]? = windows[place]?

theorem traded_set (apart : focused ≠ target) (here : windows[focused]? = some window)
    (there : windows[target]? = some other) :
    Traded windows ((windows.set focused (taking other window.rect)).set target (taking window other.rect)) focused target
      window other := by
  obtain ⟨inside, -⟩ := List.getElem?_eq_some_iff.mp here
  obtain ⟨inside', -⟩ := List.getElem?_eq_some_iff.mp there
  refine ⟨by simp, ?_, ?_, ?_⟩
  · rw [List.getElem?_set_ne (Ne.symm apart), List.getElem?_set_self inside]
  · rw [List.getElem?_set_self (by simpa using inside')]
  · intro place first second
    rw [List.getElem?_set_ne (Ne.symm second), List.getElem?_set_ne (Ne.symm first)]

/-- A tile is given to another tiled window of the same output. -/
theorem placeWindow_taking {rank : Nat} (tiled : output.tiles window = true) (tiled' : output.tiles other = true)
    (placed : placeWindow output rects rank window = some window) :
    placeWindow output rects rank other = some (taking other window.rect) := by
  obtain ⟨rect, found, same⟩ := Option.map_eq_some_iff.mp ((placeWindow_tiled tiled rank).symm.trans placed)
  have own := tile_of_placed tiled placed
  rw [found] at own
  rw [placeWindow_tiled tiled', found, ← own]
  rfl

/-- Its own output gives each of the two windows the other's tile. -/
theorem layoutOutput_own (settled : self.Settled)
    (exchanged : Exchange.Exchanged self.windows windows' focused target window other)
    (traded : Traded self.windows placed focused target window other) (among : output ∈ self.outputs)
    (tiled : output.tiles window = true) (tiled' : output.tiles other = true) :
    self.layoutOutput windows' output = some placed := by
  obtain ⟨rects, tiling, at_rank⟩ := placed_of_settled settled among exchanged.here
  obtain ⟨rects', tiling', at_rank'⟩ := placed_of_settled settled among exchanged.there
  rw [tiling] at tiling'
  cases tiling'
  have same : marks output windows' = marks output self.windows :=
    exchanged.map_eq output.tiles (tiled.trans tiled'.symm)
  refine layoutOutput_eq_some.mpr ⟨rects, by rw [same]; exact tiling, (placeAll_iff 0).mpr ⟨?_, ?_⟩⟩
  · exact traded.length.trans exchanged.perm.length_eq.symm
  · intro place tile found
    rw [same, Nat.zero_add]
    by_cases first : place = focused
    · subst first
      rw [exchanged.here'] at found
      cases found
      exact ⟨_, traded.given, placeWindow_taking tiled tiled' at_rank⟩
    · by_cases second : place = target
      · subst second
        rw [exchanged.there'] at found
        cases found
        exact ⟨_, traded.taken, placeWindow_taking tiled' tiled at_rank'⟩
      · rw [exchanged.elsewhere place first second] at found
        obtain ⟨rects', tiling', moved⟩ := placed_of_settled settled among found
        rw [tiling] at tiling'
        cases tiling'
        exact ⟨tile, (traded.elsewhere place first second).trans found, moved⟩

/-- The other outputs show neither of the two windows, before and after. -/
theorem layoutOutput_others (settled : self.Settled) {another : LayoutOutput} (among : output ∈ self.outputs)
    (among' : another ∈ self.outputs) (differ : another ≠ output) (here : self.windows[focused]? = some window)
    (there : self.windows[target]? = some other) (shown : output.shows window = true) (shown' : output.shows other = true)
    {one two : LaidWindow} (first : windows'[focused]? = some one) (second : windows'[target]? = some two)
    (framed : one.frame = other.frame) (framed' : two.frame = window.frame)
    (elsewhere : ∀ place, place ≠ focused → place ≠ target → windows'[place]? = self.windows[place]?) :
    self.layoutOutput windows' another = some windows' := by
  have away : another.shows window = false := by
    by_contra visible
    rw [Bool.not_eq_false] at visible
    exact differ (shows_unique self.named among among' shown visible)
  have away' : another.shows other = false := by
    by_contra visible
    rw [Bool.not_eq_false] at visible
    exact differ (shows_unique self.named among among' shown' visible)
  refine layoutOutput_aside settled among' ?_
  intro place
  by_cases equal : place = focused
  · subst equal
    refine .inr ⟨window, one, here, first, away, ?_⟩
    rw [← shows_frame, framed, shows_frame, away']
  · by_cases equal' : place = target
    · subst equal'
      refine .inr ⟨other, two, there, second, away', ?_⟩
      rw [← shows_frame, framed', shows_frame, away]
    · exact .inl (elsewhere place equal equal')

/-- Two windows of one output exchange their tiles. -/
theorem layout_exchanged (settled : self.Settled) (apart : focused ≠ target) (together : self.Together focused target) :
    ∃ after, (self.setWindows (Exchange.swap self.windows focused target)).layout = some after ∧
      Exchanged self.windows after.windows focused target := by
  obtain ⟨output, among, window, other, here, there, tiled, tiled'⟩ := together
  have exchanged := Exchange.exchanged_swap here there
  have traded := traded_set apart here there
  generalize (self.windows.set focused (taking other window.rect)).set target (taking window other.rect) = placed at traded
  have shown := shows_of_tiles tiled
  have shown' := shows_of_tiles tiled'
  obtain ⟨before, rest, split⟩ := List.append_of_mem among
  have distinct : (before ++ output :: rest).Nodup := by
    rw [← split]
    exact self.named.of_map _
  obtain ⟨absent, -⟩ := List.nodup_cons.mp (List.nodup_middle.mp distinct)
  have passed : self.outputs.foldlM self.layoutOutput (Exchange.swap self.windows focused target) = some placed := by
    rw [split, List.foldlM_append, foldlM_same (by
      intro another there'
      refine layoutOutput_others settled among (by rw [split]; simp [there']) ?_ here there shown shown' exchanged.here'
        exchanged.there' rfl rfl exchanged.elsewhere
      rintro rfl
      exact absent (List.mem_append_left _ there'))]
    refine (Option.bind_some _ _).trans ?_
    rw [List.foldlM_cons, layoutOutput_own settled exchanged traded among tiled tiled']
    refine (Option.bind_some _ _).trans (foldlM_same ?_)
    intro another there'
    refine layoutOutput_others settled among (by rw [split]; simp [there']) ?_ here there shown shown' traded.given
      traded.taken rfl rfl traded.elsewhere
    rintro rfl
    exact absent (List.mem_append_right _ there')
  refine ⟨_, layout_eq_some.mpr ⟨placed, passed, rfl⟩, ⟨window, other, self.hide (taking window other.rect), here, there, ?_⟩,
    ⟨window, other, self.hide (taking other window.rect), here, there, ?_⟩, ?_⟩
  · refine ⟨?_, self.hide_window _, self.hide_rect _⟩
    rw [setWindows, List.getElem?_map, traded.taken, Option.map_some]
  · refine ⟨?_, self.hide_window _, self.hide_rect _⟩
    rw [setWindows, List.getElem?_map, traded.given, Option.map_some]
  · intro place first second
    rw [setWindows, self.rectAt_hidden, rectAt, traded.elsewhere place first second]
    rfl

/-- The command exchanges the two windows only exactly when both are tiled on one output. -/
theorem move_exchanges (settled : self.Settled) (direction : Direction) :
    self.MoveExchanges direction ↔ ∀ focused, self.focusedIndex = some focused → self.Measurable focused ∧
      ∀ target, self.moveTarget direction focused = some (some target) → self.Together focused target := by
  obtain ⟨still, rested, kept⟩ := layout_settled settled
  unfold MoveExchanges moveCommand
  cases self.focusedIndex with
  | none =>
    simp only [Option.some.injEq, reduceCtorEq, false_implies, implies_true, iff_true]
    exact ⟨self, still, rfl, rested, kept⟩
  | some focused =>
    simp only [Option.some.injEq, forall_eq']
    constructor
    · rintro ⟨moved, after, command, done, result⟩
      obtain ⟨target, chosen, command⟩ := Option.bind_eq_some_iff.mp command
      refine ⟨moveTarget_isSome.mp ⟨target, chosen⟩, ?_⟩
      rintro place picked
      rw [picked, Option.some.injEq] at chosen
      subst chosen
      cases command
      rw [picked] at result
      exact together_of_exchanged settled picked done result
    · rintro ⟨measurable, together⟩
      obtain ⟨target, chosen⟩ := moveTarget_isSome.mpr measurable
      rw [chosen, Option.bind_eq_bind, Option.bind_some]
      cases target with
      | none => exact ⟨self, still, rfl, rested, kept⟩
      | some target =>
        obtain ⟨apart, -⟩ := moveTarget_sound chosen
        obtain ⟨after, done, result⟩ := layout_exchanged settled (Ne.symm apart) (together target chosen)
        exact ⟨_, after, rfl, done, result⟩

/-- Two windows side by side, and a third one on the output to the left of theirs. -/
def twoOutputs : TiledDesktop where
  outputs := [⟨"DP-1", 1, ⟨0, 0, 1920, 1080⟩, ⟨0, 0, 1920, 1080⟩⟩,
    ⟨"DP-2", 2, ⟨-1920, 0, 1920, 1080⟩, ⟨-1920, 0, 1920, 1080⟩⟩]
  named := by decide
  gap := 8
  border := 2
  share := fun width => width / 2
  monocle := false
  windows := [
    { window := 1, id := 1, workspace := 1, output := "DP-1", rect := some ⟨10, 10, 945, 1060⟩ },
    { window := 2, id := 2, workspace := 1, output := "DP-1", rect := some ⟨965, 10, 945, 1060⟩ },
    { window := 3, id := 3, workspace := 2, output := "DP-2", rect := some ⟨-1910, 10, 1900, 1060⟩ }]
  focus := some 1

theorem twoOutputs_settled : twoOutputs.Settled := by
  constructor
  · intro output among
    rcases List.mem_cons.mp among with rfl | among
    · decide
    · cases List.mem_singleton.mp among
      decide
  · decide

theorem move_exchanges_right : twoOutputs.MoveExchanges .right := by
  refine (move_exchanges twoOutputs_settled .right).mpr ?_
  intro focused here
  have first : twoOutputs.focusedIndex = some 0 := by decide
  rw [first] at here
  cases here
  have second : twoOutputs.moveTarget .right 0 = some (some 1) := by decide
  refine ⟨moveTarget_isSome.mp ⟨_, second⟩, ?_⟩
  intro target chosen
  rw [second] at chosen
  cases chosen
  exact ⟨_, List.mem_cons_self, _, _, rfl, rfl, by decide, by decide⟩

/-- The window to the left is on the other output, so the two side by side change places. -/
theorem move_disturbs : ¬∀ (desktop : TiledDesktop) (direction : Direction), desktop.Settled →
    desktop.MoveExchanges direction := by
  intro exchanges
  have settled := twoOutputs_settled
  obtain ⟨moved, after, command, done, result⟩ := exchanges twoOutputs .left settled
  have first : twoOutputs.focusedIndex = some 0 := by decide
  have chosen : twoOutputs.moveTarget .left 0 = some (some 2) := by decide
  unfold moveCommand at command
  simp only [first, chosen] at command result
  cases command
  obtain ⟨output, -, window, other, here, there, tiled, tiled'⟩ := together_of_exchanged settled chosen done result
  cases here
  cases there
  simp only [LayoutOutput.tiles, LayoutOutput.shows, Bool.and_eq_true, beq_iff_eq] at tiled tiled'
  have same := tiled.1.1.1.1.trans tiled'.1.1.1.1.symm
  exact absurd same (by decide)

end TiledDesktop

end Luma.Compositor
