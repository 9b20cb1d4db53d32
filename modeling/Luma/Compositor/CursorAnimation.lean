import Luma.Library.Turns
import Mathlib.Data.List.MinMax

/-! The animated cursor: which image is shown when, and how long until the next one. Times are in nanoseconds. -/

set_option autoImplicit false

namespace Luma.Compositor.CursorAnimation

open Luma.Library

structure Image where
  size : UInt32
  width : UInt32
  height : UInt32
  xhot : UInt32
  yhot : UInt32
  /-- In milliseconds. -/
  delay : UInt32
  pixelsRgba : List UInt8
  deriving DecidableEq, Repr

/-- The images of a cursor file, of which there is one. -/
abbrev Icon := { images : List Image // images ≠ [] }

def absDiff (first second : UInt32) : UInt32 := if first ≤ second then second - first else first - second

/-- The images as large as the first that is nearest. -/
def nearestImages (size : UInt32) (images : List Image) : List Image :=
  match images.argmin fun image => (absDiff size image.size).toNat with
  | some nearest => images.filter fun image => image.width = nearest.width ∧ image.height = nearest.height
  | none => []

def delayNanos (image : Image) : Nat := image.delay.toNat * 1000000

/-- The image that a time of the cycle falls on, and when the next one follows. -/
def cycle : List Image → Nat → Option (Image × Option Nat)
  | [], _ => none
  | image :: rest, elapsed =>
      if elapsed < delayNanos image then some (image, some (delayNanos image - elapsed))
      else cycle rest (elapsed - delayNanos image)

def frame (time : Nat) (size : UInt32) (images : List Image) : Option (Image × Option Nat) :=
  let near := nearestImages size images
  let total := (near.map fun image => image.delay.toNat).sum
  if near.length ≤ 1 ∨ total = 0 then near.head?.map (·, none)
  else if (near.filter (0 < ·.delay)).length = 1 then (near.find? (0 < ·.delay)).map (·, none)
  else cycle near (time % (total * 1000000))

/-- Shapes by their names; the default has one of its own. -/
inductive CursorIcon where
  | default
  | named (name : String)
  deriving DecidableEq, Repr

structure Cursor where
  icons : Icon
  size : UInt32
  /-- The images of the theme, under the name of a shape or another of its names. -/
  named : String → Option Icon

namespace Cursor

variable (self : Cursor)

def images : CursorIcon → Icon
  | .default => self.icons
  | .named name => (self.named name).getD self.icons

def scaled (scale : UInt32) : UInt32 := UInt32.ofNat (min (self.size.toNat * scale.toNat) (2 ^ 32 - 1))

def getNamedFrame (icon : CursorIcon) (scale : UInt32) (time : Nat) : Option (Image × Option Nat) :=
  frame time (self.scaled scale) (self.images icon).1

end Cursor

/-! ## The animation -/

theorem delayNanos_pos {image : Image} : 0 < delayNanos image ↔ 0 < image.delay := by
  rw [UInt32.lt_iff_toNat_lt]
  exact Nat.mul_pos_iff_of_pos_right (by decide)

theorem total_delay (images : List Image) :
    Turns.total delayNanos images = (images.map fun image => image.delay.toNat).sum * 1000000 := by
  induction images with
  | nil => rfl
  | cons image images ih =>
    rw [Turns.total_cons, ih, List.map_cons, List.sum_cons, Nat.add_mul]
    rfl

theorem cycle_eq (images : List Image) (elapsed : Nat) :
    cycle images elapsed = (Turns.scan delayNanos images elapsed).map fun turn => (turn.1, some turn.2) := by
  induction images generalizing elapsed with
  | nil => rfl
  | cons image images ih =>
    unfold cycle Turns.scan
    split
    · rfl
    · exact ih _

theorem nearestImages_ne_nil {images : List Image} (some_ : images ≠ []) (size : UInt32) :
    nearestImages size images ≠ [] := by
  unfold nearestImages
  cases found : images.argmin fun image => (absDiff size image.size).toNat with
  | none => exact absurd (List.argmin_eq_none.mp found) some_
  | some nearest =>
    have member : nearest ∈ images := List.argmin_mem found
    exact List.ne_nil_of_mem (List.mem_filter.mpr ⟨member, decide_eq_true ⟨rfl, rfl⟩⟩)

theorem mem_of_mem_nearestImages {images : List Image} {size : UInt32} {image : Image}
    (near : image ∈ nearestImages size images) : image ∈ images := by
  unfold nearestImages at near
  split at near
  · exact List.mem_of_mem_filter near
  · cases near

/-- Where several images are shown, they take turns. -/
theorem frame_eq {images : List Image} {size : UInt32}
    (several : 1 < ((nearestImages size images).filter (0 < ·.delay)).length) (time : Nat) :
    0 < Turns.total delayNanos (nearestImages size images) ∧ frame time size images =
      (Turns.shown delayNanos (nearestImages size images) time).map fun turn => (turn.1, some turn.2) := by
  obtain ⟨image, member⟩ := List.exists_mem_of_length_pos (Nat.zero_lt_of_lt several)
  obtain ⟨near, positive⟩ := List.mem_filter.mp member
  have long : 0 < Turns.total delayNanos (nearestImages size images) :=
    Nat.lt_of_lt_of_le (delayNanos_pos.mpr (of_decide_eq_true positive)) (Turns.le_total near)
  refine ⟨long, ?_⟩
  rw [total_delay] at long
  have more : ¬((nearestImages size images).length ≤ 1 ∨
      ((nearestImages size images).map fun image => image.delay.toNat).sum = 0) := by
    rintro (few | nothing)
    · exact absurd (Nat.le_trans (List.length_filter_le _ _) few) (Nat.not_le.mpr several)
    · rw [nothing, Nat.zero_mul] at long
      exact absurd long (Nat.lt_irrefl 0)
  unfold frame
  dsimp only
  rw [if_neg more, if_neg (Nat.ne_of_gt several), cycle_eq, ← total_delay]
  rfl

/-- Where at most one image is shown, it stays. -/
theorem frame_still {images : List Image} (some_ : images ≠ []) {size : UInt32}
    (few : ((nearestImages size images).filter (0 < ·.delay)).length ≤ 1) :
    ∃ image ∈ nearestImages size images, ∀ time, frame time size images = some (image, none) := by
  obtain ⟨first, rest, near⟩ := List.exists_cons_of_ne_nil (nearestImages_ne_nil some_ size)
  by_cases idle : (nearestImages size images).length ≤ 1 ∨
      ((nearestImages size images).map fun image => image.delay.toNat).sum = 0
  · refine ⟨first, near ▸ List.mem_cons_self, fun time => ?_⟩
    unfold frame
    dsimp only
    rw [if_pos idle, near]
    rfl
  · have one : ((nearestImages size images).filter (0 < ·.delay)).length = 1 := by
      refine Nat.le_antisymm few (Nat.pos_of_ne_zero fun nothing => idle (.inr ?_))
      by_contra lasting
      have long : 0 < Turns.total delayNanos (nearestImages size images) := by
        rw [total_delay]
        exact Nat.mul_pos (Nat.pos_of_ne_zero lasting) (by decide)
      obtain ⟨image, there, positive⟩ := Turns.exists_positive long
      have still := List.filter_eq_nil_iff.mp (List.length_eq_zero_iff.mp nothing) image there
      exact still (decide_eq_true (delayNanos_pos.mp positive))
    obtain ⟨image, member⟩ := List.exists_mem_of_length_pos (Nat.lt_of_lt_of_eq Nat.zero_lt_one one.symm)
    obtain ⟨there, visible⟩ := List.mem_filter.mp member
    have some_ : ((nearestImages size images).find? (0 < ·.delay)).isSome = true :=
      List.find?_isSome.mpr ⟨image, there, visible⟩
    obtain ⟨shown, found⟩ := Option.isSome_iff_exists.mp some_
    refine ⟨shown, List.mem_of_find?_eq_some found, fun time => ?_⟩
    unfold frame
    dsimp only
    rw [if_neg idle, if_pos one, found]
    rfl

/-- Beside an image there is another that is shown. -/
theorem exists_following {images before after : List Image} {image : Image}
    (several : 1 < (images.filter (0 < ·.delay)).length) (parts : images = before ++ image :: after) :
    ∃ following, (after ++ before).find? (0 < ·.delay) = some following := by
  apply Option.isSome_iff_exists.mp
  rw [List.find?_isSome]
  by_contra nobody
  have quiet : (after ++ before).filter (0 < ·.delay) = [] :=
    List.filter_eq_nil_iff.mpr fun other member visible => nobody ⟨other, member, visible⟩
  obtain ⟨behind, ahead⟩ := List.append_eq_nil_iff.mp (List.filter_append .. ▸ quiet)
  rw [parts, List.filter_append, ahead, List.filter_cons, behind] at several
  split at several
  · exact absurd several (Nat.lt_irrefl 1)
  · exact absurd several (Nat.not_lt_zero 1)

/-- The image of a time stays until its time is over. Then the next one follows that is shown at all, for the whole
of its time. An image that is the only one stays for ever, and nothing is waited for. -/
theorem Cursor.getNamedFrame_follows (self : Cursor) (icon : CursorIcon) (scale : UInt32) (time : Nat) :
    ∃ image next, self.getNamedFrame icon scale time = some (image, next) ∧ image ∈ (self.images icon).1 ∧
      match next with
      | none => ∀ later, self.getNamedFrame icon scale later = some (image, none)
      | some delay => 0 < delay ∧
          (∀ later < delay, self.getNamedFrame icon scale (time + later) = some (image, some (delay - later))) ∧
          ∃ before after following,
            nearestImages (self.scaled scale) (self.images icon).1 = before ++ image :: after ∧
            (after ++ before).find? (0 < ·.delay) = some following ∧
            self.getNamedFrame icon scale (time + delay) = some (following, some (delayNanos following)) := by
  unfold getNamedFrame
  generalize self.scaled scale = size
  generalize self.images icon = images
  by_cases several : 1 < ((nearestImages size images.1).filter (0 < ·.delay)).length
  · obtain ⟨long, shows⟩ := frame_eq several time
    obtain ⟨_, image, past, _, whole, -, inside, shown⟩ := Turns.exists_shown long time
    have near : image ∈ nearestImages size images.1 := whole ▸ List.mem_append_right _ List.mem_cons_self
    refine ⟨image, some (delayNanos image - past), ?_, mem_of_mem_nearestImages near, Nat.sub_pos_of_lt inside,
      fun later soon => ?_, ?_⟩
    · rw [shows, shown]
      rfl
    · rw [(frame_eq several _).2, Turns.shown_add long shown soon]
      rfl
    · obtain ⟨before, after, parts, next⟩ := Turns.shown_next long shown
      obtain ⟨following, found⟩ := exists_following several parts
      refine ⟨before, after, following, parts, found, ?_⟩
      simp only [delayNanos_pos] at next
      rw [(frame_eq several _).2, next, List.find?_append, found]
      rfl
  · obtain ⟨image, near, still⟩ := frame_still images.2 (Nat.le_of_not_lt several)
    exact ⟨image, none, still time, mem_of_mem_nearestImages near, still⟩

end Luma.Compositor.CursorAnimation
