import Luma.Encoder.Pacing
import Luma.Library.Transition

/-! The back-off of admission stays between two bounds, and is given up again.

After 256 fast encodes the interval falls by a tenth at least, so it comes back to that of a frame.
-/

set_option autoImplicit false

namespace Luma.Encoder.Pacing

open Luma.Library

inductive Input where
  /-- A present on the asynchronous path. -/
  | present (ptsNs : UInt64)
  /-- A frame on the synchronous path. -/
  | frame (ptsNs : UInt64)
  | encoded (presentNs mapEncodeNs : UInt64)
  | admission (dropped : Bool)

/-- What makes the encoder back off. -/
inductive Event where
  | slow (mapEncodeNs : UInt64)
  /-- At least 8 of 64 captures were dropped. -/
  | saturated
  deriving DecidableEq

def Input.encodes : Input → Bool
  | .encoded _ _ => true
  | .present _ | .frame _ | .admission _ => false

def saturates (self : Pacing) (dropped : Bool) : Bool :=
  self.admissionAttempts + 1 ≥ 64 && self.admissionDrops + (if dropped then 1 else 0) ≥ 8

def step : Transition.Step Pacing Input Event := fun self input =>
  match input with
  | .present ptsNs => ((self.due ptsNs).getD self, [])
  | .frame ptsNs => ((self.dueInPhase ptsNs).getD self, [])
  | .encoded presentNs mapEncodeNs =>
      (self.submitted presentNs mapEncodeNs, if mapEncodeNs > kSlowSubmitNs then [.slow mapEncodeNs] else [])
  | .admission dropped => (self.recordAdmission dropped, if self.saturates dropped then [.saturated] else [])

abbrev Execution (fps : UInt32) : List Event → Pacing → Prop :=
  Transition.Run step Transition.unrestricted (· = initial fps)

/-! ## What every run keeps -/

/-- No frame is longer than a second, and the streak of fast encodes is spent at 256. -/
structure Regular (pacing : Pacing) : Prop where
  bounded : Bounded pacing
  second : pacing.frameIntervalNs.toNat ≤ 1000000000
  streak : pacing.fastEncodeStreak.toNat < 256

theorem Regular.initial (fps : UInt32) : Regular (initial fps) where
  bounded := Bounded.initial fps
  second := by
    unfold Pacing.initial
    rw [UInt64.toNat_div]
    exact Nat.div_le_self _ _
  streak := Nat.zero_lt_succ _

variable {pacing : Pacing}

theorem Regular.small (regular : Regular pacing) : pacing.adaptiveIntervalNs.toNat ≤ 1000000000 := by
  have upper := regular.bounded.upper
  have second := regular.second
  have most : kMaxBackoffNs.toNat ≤ 1000000000 := by decide
  omega

theorem streak_succ (regular : Regular pacing) :
    (pacing.fastEncodeStreak + 1).toNat = pacing.fastEncodeStreak.toNat + 1 := by
  have spent := regular.streak
  rw [UInt32.toNat_add, UInt32.toNat_one]
  omega

theorem toNat_reduced (regular : Regular pacing) :
    (max pacing.frameIntervalNs (pacing.adaptiveIntervalNs * 9 / 10)).toNat =
      max pacing.frameIntervalNs.toNat (pacing.adaptiveIntervalNs.toNat * 9 / 10) := by
  have small := regular.small
  have nine : (9 : UInt64).toNat = 9 := rfl
  have ten : (10 : UInt64).toNat = 10 := rfl
  rw [toNat_max, UInt64.toNat_div, UInt64.toNat_mul, nine, ten, Nat.mod_eq_of_lt (by omega)]

/-- What an encode does to the interval and to the streak. -/
inductive Encoded (before after : Pacing) (mapEncodeNs : UInt64) : Prop where
  | slow (slow : mapEncodeNs > kSlowSubmitNs) (streak : after.fastEncodeStreak = 0)
  | steady (level : before.adaptiveIntervalNs.toNat ≤ before.frameIntervalNs.toNat)
      (interval : after.adaptiveIntervalNs = before.adaptiveIntervalNs)
      (streak : after.fastEncodeStreak = before.fastEncodeStreak)
  | counted (below : before.fastEncodeStreak.toNat + 1 < 256)
      (backs : before.frameIntervalNs.toNat < before.adaptiveIntervalNs.toNat)
      (interval : after.adaptiveIntervalNs = before.adaptiveIntervalNs)
      (streak : after.fastEncodeStreak.toNat = before.fastEncodeStreak.toNat + 1)
  | reduced (backs : before.frameIntervalNs.toNat < before.adaptiveIntervalNs.toNat)
      (interval : after.adaptiveIntervalNs.toNat =
        max before.frameIntervalNs.toNat (before.adaptiveIntervalNs.toNat * 9 / 10))
      (streak : after.fastEncodeStreak = 0)

theorem submitted_frame (pacing : Pacing) (presentNs mapEncodeNs : UInt64) :
    (pacing.submitted presentNs mapEncodeNs).frameIntervalNs = pacing.frameIntervalNs := by
  unfold submitted
  split
  · rfl
  · split
    · split <;> rfl
    · rfl

theorem submitted_encoded (regular : Regular pacing) (presentNs mapEncodeNs : UInt64) :
    Encoded pacing (pacing.submitted presentNs mapEncodeNs) mapEncodeNs := by
  have next := streak_succ regular
  have limit : (256 : UInt32).toNat = 256 := rfl
  unfold submitted
  by_cases slow : mapEncodeNs > kSlowSubmitNs
  · rw [if_pos slow]
    exact .slow slow rfl
  rw [if_neg slow]
  by_cases backs : pacing.adaptiveIntervalNs > pacing.frameIntervalNs
  · rw [if_pos backs]
    have above := UInt64.lt_iff_toNat_lt.mp backs
    by_cases full : pacing.fastEncodeStreak + 1 ≥ 256
    · rw [if_pos full]
      exact .reduced above (toNat_reduced regular) rfl
    · rw [if_neg full]
      have below := mt UInt32.le_iff_toNat_le.mpr full
      exact .counted (by omega) above rfl next
  · rw [if_neg backs]
    exact .steady (Nat.not_lt.mp (mt UInt64.lt_iff_toNat_lt.mpr backs)) rfl rfl

theorem Regular.submitted (regular : Regular pacing) (presentNs mapEncodeNs : UInt64) :
    Regular (pacing.submitted presentNs mapEncodeNs) where
  bounded := regular.bounded.submitted presentNs mapEncodeNs
  second := by
    rw [submitted_frame]
    exact regular.second
  streak := by
    have zero : (0 : UInt32).toNat = 0 := rfl
    have spent := regular.streak
    cases submitted_encoded regular presentNs mapEncodeNs with
    | slow _ streak => rw [streak, zero]; omega
    | steady _ _ streak => rw [streak]; exact spent
    | counted below _ _ streak => rw [streak]; exact below
    | reduced _ _ streak => rw [streak, zero]; omega

/-- What the back-off is made of stays as it is. -/
structure Same (before after : Pacing) : Prop where
  frame : after.frameIntervalNs = before.frameIntervalNs
  interval : after.adaptiveIntervalNs = before.adaptiveIntervalNs
  streak : after.fastEncodeStreak = before.fastEncodeStreak

theorem Regular.of_same {after : Pacing} (regular : Regular pacing) (same : Same pacing after) : Regular after where
  bounded := by
    constructor
    · rw [same.frame, same.interval]
      exact regular.bounded.lower
    · rw [same.frame, same.interval]
      exact regular.bounded.upper
  second := same.frame ▸ regular.second
  streak := same.streak ▸ regular.streak

theorem due_same (pacing : Pacing) (ptsNs : UInt64) : Same pacing ((pacing.due ptsNs).getD pacing) := by
  unfold due
  split
  · exact ⟨rfl, rfl, rfl⟩
  · exact ⟨rfl, rfl, rfl⟩

theorem dueInPhase_same (pacing : Pacing) (ptsNs : UInt64) : Same pacing ((pacing.dueInPhase ptsNs).getD pacing) := by
  unfold dueInPhase
  split
  · exact ⟨rfl, rfl, rfl⟩
  · split
    · exact ⟨rfl, rfl, rfl⟩
    · exact ⟨rfl, rfl, rfl⟩

theorem recordAdmission_same {dropped : Bool} (calm : pacing.saturates dropped = false) :
    Same pacing (pacing.recordAdmission dropped) := by
  unfold saturates at calm
  simp only [recordAdmission]
  generalize (if dropped = true then (1 : UInt32) else 0) = drops at calm ⊢
  split
  · exact ⟨rfl, rfl, rfl⟩
  rename_i short
  split
  · rename_i backsOff
    have full := UInt32.not_lt.mp short
    have many := (Bool.and_eq_true_iff.mp backsOff).1
    rw [decide_eq_true full, many] at calm
    cases calm
  · exact ⟨rfl, rfl, rfl⟩

theorem recordAdmission_frame (pacing : Pacing) (dropped : Bool) :
    (pacing.recordAdmission dropped).frameIntervalNs = pacing.frameIntervalNs := by
  simp only [recordAdmission]
  generalize (if dropped = true then (1 : UInt32) else 0) = drops
  split
  · rfl
  · split <;> rfl

theorem recordAdmission_streak (pacing : Pacing) (dropped : Bool) :
    (pacing.recordAdmission dropped).fastEncodeStreak = pacing.fastEncodeStreak ∨
      (pacing.recordAdmission dropped).fastEncodeStreak = 0 := by
  simp only [recordAdmission]
  generalize (if dropped = true then (1 : UInt32) else 0) = drops
  split
  · exact .inl rfl
  · split
    · exact .inr rfl
    · exact .inl rfl

theorem Regular.recordAdmission (regular : Regular pacing) (dropped : Bool) :
    Regular (pacing.recordAdmission dropped) where
  bounded := regular.bounded.recordAdmission dropped
  second := by
    rw [recordAdmission_frame]
    exact regular.second
  streak := by
    rcases recordAdmission_streak pacing dropped with same | spent
    · rw [same]
      exact regular.streak
    · rw [spent]
      exact Nat.zero_lt_succ _

theorem Regular.step (regular : Regular pacing) (input : Input) : Regular (pacing.step input).1 := by
  cases input with
  | present ptsNs => exact regular.of_same (due_same pacing ptsNs)
  | frame ptsNs => exact regular.of_same (dueInPhase_same pacing ptsNs)
  | encoded presentNs mapEncodeNs => exact regular.submitted presentNs mapEncodeNs
  | admission dropped => exact regular.recordAdmission dropped

theorem step_frame (pacing : Pacing) (input : Input) :
    (pacing.step input).1.frameIntervalNs = pacing.frameIntervalNs := by
  cases input with
  | present ptsNs => exact (due_same pacing ptsNs).frame
  | frame ptsNs => exact (dueInPhase_same pacing ptsNs).frame
  | encoded presentNs mapEncodeNs => exact submitted_frame pacing presentNs mapEncodeNs
  | admission dropped => exact recordAdmission_frame pacing dropped

theorem Regular.of_execution {fps : UInt32} {history : List Event} (run : Execution fps history pacing) :
    Regular pacing ∧ pacing.frameIntervalNs = (Pacing.initial fps).frameIntervalNs := by
  induction run with
  | start begun =>
    subst begun
    exact ⟨Regular.initial fps, rfl⟩
  | step input _ _ ih => exact ⟨ih.1.step input, (step_frame _ input).trans ih.2⟩

/-! ## Recovery -/

/-- The number of fast encodes after which the interval is that of a frame, at most. -/
def backlog (self : Pacing) : Nat :=
  256 * (self.adaptiveIntervalNs.toNat - self.frameIntervalNs.toNat) - self.fastEncodeStreak.toNat

theorem backlog_of_same {after : Pacing} (same : Same pacing after) : after.backlog = pacing.backlog := by
  unfold backlog
  rw [same.frame, same.interval, same.streak]

/-- Without an event nothing adds to the backlog, and every encode takes one from it. -/
theorem backlog_step (regular : Regular pacing) {input : Input} (calm : (pacing.step input).2 = []) :
    (pacing.step input).1.backlog ≤ pacing.backlog - input.encodes.toNat := by
  cases input with
  | present ptsNs => exact (backlog_of_same (due_same pacing ptsNs)).le
  | frame ptsNs => exact (backlog_of_same (dueInPhase_same pacing ptsNs)).le
  | encoded presentNs mapEncodeNs =>
    have frame := submitted_frame pacing presentNs mapEncodeNs
    have fast : ¬mapEncodeNs > kSlowSubmitNs := by
      intro slow
      rw [step, if_pos slow] at calm
      cases calm
    have zero : (0 : UInt32).toNat = 0 := rfl
    have spent := regular.streak
    show (pacing.submitted presentNs mapEncodeNs).backlog ≤ pacing.backlog - 1
    unfold backlog
    -- A tenth of the interval is one nanosecond at least, which stands for 256 encodes.
    cases submitted_encoded regular presentNs mapEncodeNs with
    | slow slow => exact absurd slow fast
    | steady level interval streak =>
      rw [frame, interval, streak]
      omega
    | counted below backs interval streak =>
      rw [frame, interval, streak]
      omega
    | reduced backs interval streak =>
      rw [frame, interval, streak, zero]
      omega
  | admission dropped =>
    have quiet : pacing.saturates dropped = false := by
      rw [Bool.eq_false_iff]
      intro full
      rw [step, if_pos full] at calm
      cases calm
    exact (backlog_of_same (recordAdmission_same quiet)).le

theorem backlog_execute (inputs : List Input) (regular : Regular pacing)
    (calm : (Transition.execute step pacing inputs).2 = []) :
    (Transition.execute step pacing inputs).1.backlog ≤ pacing.backlog - inputs.countP Input.encodes := by
  induction inputs generalizing pacing with
  | nil => exact Nat.le_refl _
  | cons input inputs ih =>
    obtain ⟨rest, first⟩ := List.append_eq_nil_iff.mp calm
    have next := backlog_step regular first
    have later := ih (regular.step input) rest
    have counted : (input :: inputs).countP Input.encodes = inputs.countP Input.encodes + input.encodes.toNat := by
      rw [List.countP_cons]
      cases input.encodes <;> rfl
    rw [counted]
    refine Nat.le_trans later ?_
    omega

theorem execute_regular (inputs : List Input) (regular : Regular pacing) :
    Regular (Transition.execute step pacing inputs).1 ∧
      (Transition.execute step pacing inputs).1.frameIntervalNs = pacing.frameIntervalNs := by
  induction inputs generalizing pacing with
  | nil => exact ⟨regular, rfl⟩
  | cons input inputs ih =>
    obtain ⟨kept, frame⟩ := ih (regular.step input)
    exact ⟨kept, frame.trans (step_frame pacing input)⟩

theorem recovered_of_backlog (regular : Regular pacing) (spent : pacing.backlog = 0) :
    pacing.adaptiveIntervalNs = pacing.frameIntervalNs := by
  have lower := regular.bounded.lower
  have streak := regular.streak
  unfold backlog at spent
  exact UInt64.toNat_inj.mp (by omega)

/-- The interval of admission is never shorter than a frame, nor longer than that and the largest back-off. Whatever was
before, enough fast encodes without saturation bring it back to that of a frame. -/
theorem backoff_recovers {fps : UInt32} {history : List Event} (run : Execution fps history pacing) :
    (initial fps).frameIntervalNs ≤ pacing.adaptiveIntervalNs ∧
      pacing.adaptiveIntervalNs ≤ max (initial fps).frameIntervalNs kMaxBackoffNs ∧
        ∃ enough, ∀ inputs, (Transition.execute step pacing inputs).2 = [] →
          enough ≤ inputs.countP Input.encodes →
            (Transition.execute step pacing inputs).1.adaptiveIntervalNs = (initial fps).frameIntervalNs := by
  obtain ⟨regular, frame⟩ := Regular.of_execution run
  rw [← frame]
  refine ⟨UInt64.le_iff_toNat_le.mpr regular.bounded.lower, ?_, pacing.backlog, ?_⟩
  · rw [UInt64.le_iff_toNat_le, toNat_max]
    exact regular.bounded.upper
  · intro inputs calm enough
    obtain ⟨kept, same⟩ := execute_regular inputs regular
    have left := backlog_execute inputs regular calm
    rw [recovered_of_backlog kept (by omega), same]

/-- One slow encode at 60 frames a second, and its back-off. -/
def slowOnce : List Input := [.encoded 0 20000000]

theorem backoff_recovers_slow :
    (Transition.execute step (initial 60) slowOnce).1.adaptiveIntervalNs = 33333333 ∧
      ∃ enough, ∀ inputs, (Transition.execute step (Transition.execute step (initial 60) slowOnce).1 inputs).2 = [] →
        enough ≤ inputs.countP Input.encodes →
          (Transition.execute step (Transition.execute step (initial 60) slowOnce).1 inputs).1.adaptiveIntervalNs =
            16666666 := by
  have run : Execution 60 _ _ := Transition.Run.execute slowOnce (.start rfl) (Transition.permits_unrestricted _ _ _ _)
  exact ⟨by decide +kernel, (backoff_recovers run).2.2⟩

end Luma.Encoder.Pacing
