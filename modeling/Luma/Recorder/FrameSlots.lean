import Luma.Library.RateSlots
import Luma.Recorder.Timeline

/-! The slots of the frame clock, within a year of recording. -/

set_option autoImplicit false

namespace Luma.Recorder

open Luma.Library

variable {fps : Nat}

/-- A frame that is presented before the end of the year. -/
def WithinYear (frame fps : Nat) : Prop := frame * nanosPerSecond < oneYearNs * fps

instance (frame fps : Nat) : Decidable (WithinYear frame fps) := Nat.decLt _ _

theorem WithinYear.presentable {frame : Nat} (within : WithinYear frame fps) (rate : fps ≤ 480) :
    Presentable frame := by
  have product : oneYearNs * fps ≤ oneYearNs * 480 := Nat.mul_le_mul_left _ rate
  have last : oneYearNs * 480 + nanosPerSecond ≤ u64Max := by decide
  unfold WithinYear at within
  unfold Presentable
  rw [Nat.add_one_mul]
  omega

/-- Neither the product of an index computation nor its quotient saturates. -/
structure Unsaturated (elapsedNs fps : Nat) : Prop where
  product : elapsedNs * fps ≤ 2 ^ 128 - 1
  quotient : elapsedNs * fps / nanosPerSecond ≤ u64Max

theorem unsaturated_of_short {elapsedNs : Nat} (short : elapsedNs < oneYearNs) (rate : fps ≤ 480) :
    Unsaturated elapsedNs fps := by
  have product : elapsedNs * fps ≤ oneYearNs * 480 := Nat.mul_le_mul short.le rate
  have small : oneYearNs * 480 ≤ u64Max := by decide
  have wide : u64Max ≤ 2 ^ 128 - 1 := by decide
  exact ⟨(product.trans small).trans wide, (Nat.div_le_self _ _).trans (product.trans small)⟩

theorem frameIndexAt_eq {elapsedNs : Nat} (exactly : Unsaturated elapsedNs fps) :
    frameIndexAt elapsedNs fps = RateSlots.index nanosPerSecond fps elapsedNs := by
  unfold frameIndexAt
  rw [Nat.min_eq_left exactly.product, Nat.min_eq_left exactly.quotient]
  rfl

theorem frameIndexAt_mono (fps : Nat) {earlier later : Nat} (order : earlier ≤ later) :
    frameIndexAt earlier fps ≤ frameIndexAt later fps := by
  unfold frameIndexAt
  gcongr

theorem saturatingMul_mono (factor : Nat) {smaller larger : Nat} (order : smaller ≤ larger) :
    saturatingMul smaller factor ≤ saturatingMul larger factor := by
  unfold saturatingMul
  gcongr

theorem frameTimes_mono (fps : Nat) {earlier later : Nat} (order : earlier ≤ later) :
    (frameTimes earlier fps).1 ≤ (frameTimes later fps).1 ∧ (frameTimes earlier fps).2 ≤ (frameTimes later fps).2 := by
  have next : saturatingAdd earlier 1 ≤ saturatingAdd later 1 := by
    unfold saturatingAdd
    gcongr
  exact ⟨Nat.div_le_div_right (saturatingMul_mono _ order), Nat.div_le_div_right (saturatingMul_mono _ next)⟩

/-- A frame ends where the next one starts. -/
theorem frameTimes_abut {frame : Nat} (fits : Presentable frame) (fps : Nat) :
    (frameTimes frame fps).2 = (frameTimes (frame + 1) fps).1 := by
  rw [frameTimes_eq fits]
  unfold Presentable at fits
  unfold frameTimes saturatingMul
  rw [Nat.min_eq_left fits]

/-- A time lies in the slot of its index. -/
theorem frameIndexAt_slot {elapsedNs : Nat} (whole : 0 < fps) (rate : fps ≤ 480) (short : elapsedNs < oneYearNs) :
    (frameTimes (frameIndexAt elapsedNs fps) fps).1 ≤ elapsedNs ∧
      elapsedNs ≤ (frameTimes (frameIndexAt elapsedNs fps) fps).2 := by
  rw [frameTimes_eq (frameIndexAt_presentable short rate), frameIndexAt_eq (unsaturated_of_short short rate)]
  exact ⟨RateSlots.start_index_le whole elapsedNs, RateSlots.le_start_index_succ (by decide) whole elapsedNs⟩

/-- The start of a frame is in its own slot, or in the one before it when the clock cannot tell the start. -/
theorem frameIndexAt_start {frame : Nat} (whole : 0 < fps) (rate : fps ≤ 480) (within : WithinYear frame fps) :
    (frameIndexAt (frameTimes frame fps).1 fps = frame ∨ frameIndexAt (frameTimes frame fps).1 fps + 1 = frame) ∧
      (frameIndexAt (frameTimes frame fps).1 fps = frame ↔ fps ∣ frame * nanosPerSecond) := by
  have started : (frameTimes frame fps).1 = RateSlots.start nanosPerSecond fps frame := by
    rw [frameTimes_eq (within.presentable rate)]
    rfl
  have short : RateSlots.start nanosPerSecond fps frame < oneYearNs := Nat.div_lt_of_lt_mul (by
    rw [Nat.mul_comm fps]
    exact within)
  have coarse : fps ≤ nanosPerSecond := by
    unfold nanosPerSecond
    omega
  rw [started, frameIndexAt_eq (unsaturated_of_short short rate)]
  have upTo : RateSlots.index nanosPerSecond fps (RateSlots.start nanosPerSecond fps frame) ≤ frame :=
    RateSlots.index_start_le (by decide) frame
  have from_ : frame ≤ RateSlots.index nanosPerSecond fps (RateSlots.start nanosPerSecond fps frame) + 1 :=
    RateSlots.le_index_start_succ (by decide) whole coarse frame
  exact ⟨by omega, RateSlots.index_start_eq_iff (by decide) frame⟩

/-- Within a year, at every rate that the options admit: a time lies in the slot of its index, slots are not empty and
abut, and the start of a frame is of its own index exactly if it is a whole number of nanoseconds. -/
theorem frame_slots (whole : 0 < fps) (rate : fps ≤ 480) :
    (∀ elapsedNs < oneYearNs, Unsaturated elapsedNs fps ∧
        (frameTimes (frameIndexAt elapsedNs fps) fps).1 ≤ elapsedNs ∧
          elapsedNs ≤ (frameTimes (frameIndexAt elapsedNs fps) fps).2) ∧
      (∀ frame, WithinYear frame fps → Presentable frame ∧
        (frameTimes frame fps).2 = (frameTimes (frame + 1) fps).1 ∧ (frameTimes frame fps).1 < (frameTimes frame fps).2 ∧
          (frameIndexAt (frameTimes frame fps).1 fps = frame ∨ frameIndexAt (frameTimes frame fps).1 fps + 1 = frame) ∧
            (frameIndexAt (frameTimes frame fps).1 fps = frame ↔ fps ∣ frame * nanosPerSecond)) ∧
      (∀ earlier later, earlier ≤ later → frameIndexAt earlier fps ≤ frameIndexAt later fps ∧
        (frameTimes earlier fps).1 ≤ (frameTimes later fps).1 ∧ (frameTimes earlier fps).2 ≤ (frameTimes later fps).2) := by
  refine ⟨?_, ?_, fun earlier later order => ⟨frameIndexAt_mono fps order, frameTimes_mono fps order⟩⟩
  · intro elapsedNs short
    exact ⟨unsaturated_of_short short rate, frameIndexAt_slot whole rate short⟩
  · intro frame within
    have fits := within.presentable rate
    have lasts : (frameTimes frame fps).1 < (frameTimes frame fps).2 := by
      rw [frameTimes_eq fits]
      exact frame_lasts frame whole rate
    exact ⟨fits, frameTimes_abut fits fps, lasts, frameIndexAt_start whole rate within⟩

/-- At 480 frames a second the fourth frame starts on a whole nanosecond and the second one does not. -/
theorem frame_slots_480 :
    frameTimes 1 480 = (2083333, 4166666) ∧ frameIndexAt (frameTimes 1 480).1 480 = 0 ∧
      (frameIndexAt (frameTimes 3 480).1 480 = 3 ↔ 480 ∣ 3 * nanosPerSecond) := by
  refine ⟨by decide, by decide, ?_⟩
  have slots := frame_slots (show 0 < 480 by decide) (by decide)
  exact (slots.2.1 3 (by decide)).2.2.2.2

end Luma.Recorder
