import Luma.Recorder.EncoderWorker

/-! A recording that is paced by commits writes one frame for each of them.

A commit that falls on an index already written takes the next one. The indices run ahead of the clock
until commits come more slowly again.
-/

set_option autoImplicit false

namespace Luma.Recorder.EncoderWorker

open Luma.Library

/-- One frame is written for a commit, behind all frames before it, unless the encoder's source refuses it. -/
def Committed (fps : Nat) : WorkerObservation → List WorkerObservation → Prop
  | .pause _ _, _ => True
  | .frame taken, earlier => Clocked fps taken earlier ∧
      (taken.failed = true ∧ taken.written = [] ∨
        taken.failed = false ∧ ∃ index, taken.written = [timedFrame fps index] ∧ taken.wallIndex ≤ index ∧
          ∀ frame ∈ written earlier, (frame.index < index ∨ frame.index = u64Max ∧ index = u64Max) ∧
            frame.ptsNs + frame.durationNs ≤ (timedFrame fps index).ptsNs)

/-! ## Times -/

theorem frameTimes_le (frame fps : Nat) : (frameTimes frame fps).1 ≤ (frameTimes frame fps).2 := by
  unfold frameTimes saturatingMul saturatingAdd nanosPerSecond u64Max
  exact Nat.div_le_div_right (by omega)

/-- A frame ends when the next index begins, or later ones. -/
theorem timedFrame_end_le {earlier later fps : Nat}
    (order : earlier < later ∨ earlier = u64Max ∧ later = u64Max) :
    (timedFrame fps earlier).ptsNs + (timedFrame fps earlier).durationNs ≤ (timedFrame fps later).ptsNs := by
  have ends : (timedFrame fps earlier).ptsNs + (timedFrame fps earlier).durationNs = (frameTimes earlier fps).2 :=
    Nat.add_sub_cancel' (frameTimes_le earlier fps)
  rw [ends]
  show (frameTimes earlier fps).2 ≤ (frameTimes later fps).1
  unfold frameTimes saturatingMul saturatingAdd nanosPerSecond
  unfold u64Max at order ⊢
  exact Nat.div_le_div_right (by omega)

/-- As long as the times fit in 64 bits they are those of the index. -/
theorem timedFrame_eq {index : Nat} (fits : Presentable index) (fps : Nat) :
    timedFrame fps index = {
      index
      ptsNs := index * nanosPerSecond / fps
      durationNs := (index + 1) * nanosPerSecond / fps - index * nanosPerSecond / fps } := by
  unfold timedFrame
  rw [frameTimes_eq fits]

/-! ## The invariant -/

structure Committing (fps : Nat) (history : List WorkerObservation) (worker : EncoderWorker) : Prop where
  rate : worker.encoder.fps = fps
  paced : worker.encoder.commitPaced = true
  origin : worker.encoder.presentationOriginNs = (firstTaken history).map (·.presentationNs)
  small : ∀ last, worker.encoder.lastFrameIndex = some last → last ≤ u64Max
  last : ∀ frame ∈ written history, ∃ last, worker.encoder.lastFrameIndex = some last ∧ frame.index ≤ last ∧
    frame = timedFrame fps frame.index
  committed : Transition.Throughout (Committed fps) history
  failures : ∀ taken, .frame taken ∈ history → taken.failed = true → ∃ error, worker.ended = some (.error error)

variable {self : EncoderWorker} {fps : Nat} {history : List WorkerObservation}

theorem frameIndexAt_le (elapsedNs fps : Nat) : frameIndexAt elapsedNs fps ≤ u64Max := Nat.min_le_right _ _

/-- The frame of a commit comes behind the last one, unless no index is left. -/
theorem planCommitted_index (encoder : Encoder) (presentationNs : Nat)
    (small : ∀ last, encoder.lastFrameIndex = some last → last ≤ u64Max) :
    encoder.indexOf presentationNs ≤ (encoder.planCommitted presentationNs).frameIndex ∧
      (encoder.planCommitted presentationNs).frameIndex ≤ u64Max ∧
      ∀ last, encoder.lastFrameIndex = some last → last < (encoder.planCommitted presentationNs).frameIndex ∨
        last = u64Max ∧ (encoder.planCommitted presentationNs).frameIndex = u64Max := by
  have bound := frameIndexAt_le (encoder.elapsedNs presentationNs) encoder.fps
  have wall : (encoder.planCommitted presentationNs).frameIndex =
      pacedFrameIndex (encoder.indexOf presentationNs) encoder.lastFrameIndex true := rfl
  rw [wall]
  unfold pacedFrameIndex Encoder.indexOf saturatingAdd
  cases reached : encoder.lastFrameIndex with
  | none => exact ⟨Nat.le_refl _, bound, fun last no => by cases no⟩
  | some last =>
    have most := small last reached
    simp only [↓reduceIte, Option.some.injEq, forall_eq']
    omega

/-- The frame of a commit is written. -/
theorem Committing.wrote (committing : Committing fps history self) (running : self.ended = none) (input : EncodeFrame)
    (now : Nat) :
    Committing fps
      (.frame { self.taken input now with
        written := planFrames (self.encoder.planCommitted input.presentationNs) self.encoder.fps } :: history)
      { self with
        encoder := { self.begun input with
          lastFrameIndex := some (self.encoder.planCommitted input.presentationNs).frameIndex }
        stats := self.stats.note (self.encoder.planCommitted input.presentationNs).outcome } := by
  obtain ⟨late, most, behind⟩ := planCommitted_index self.encoder input.presentationNs committing.small
  rw [planFrames_committed, committing.rate]
  generalize (self.encoder.planCommitted input.presentationNs).frameIndex = index at late most behind
  have clocked := clocked_taken committing.rate committing.origin input now [timedFrame fps index] false
  have order : ∀ frame ∈ written history, frame.index < index ∨ frame.index = u64Max ∧ index = u64Max := by
    intro frame there
    obtain ⟨last, reached, before, -⟩ := committing.last frame there
    have after := behind last reached
    omega
  constructor
  · exact committing.rate
  · exact committing.paced
  · exact clocked.first
  · intro last same
    cases same
    exact most
  · intro frame there
    refine ⟨index, rfl, ?_⟩
    rcases List.mem_append.mp there with old | new
    · obtain ⟨-, -, -, timed⟩ := committing.last frame old
      have before := order frame old
      exact ⟨by omega, timed⟩
    · cases List.mem_singleton.mp new
      exact ⟨Nat.le_refl _, rfl⟩
  · refine ⟨⟨clocked, .inr ⟨rfl, index, rfl, late, ?_⟩⟩, committing.committed⟩
    intro frame there
    obtain ⟨-, -, -, timed⟩ := committing.last frame there
    refine ⟨order frame there, ?_⟩
    rw [timed]
    exact timedFrame_end_le (order frame there)
  · intro taken there failed
    rcases List.mem_cons.mp there with new | old
    · cases new
      cases failed
    · obtain ⟨error, ended⟩ := committing.failures taken old failed
      cases running.symm.trans ended

theorem Committing.step (committing : Committing fps history self) (turn : EncoderCommand × CommandHost) :
    Committing fps ((EncoderWorker.step self turn).2 ++ history) (EncoderWorker.step self turn).1 := by
  rcases self.step_effect turn with idle | ⟨running, effect⟩
  · rw [idle]
    exact committing
  generalize (EncoderWorker.step self turn).2 = seen at effect ⊢
  generalize (EncoderWorker.step self turn).1 = after at effect ⊢
  have unfailed : ∀ taken, .frame taken ∈ history → taken.failed = true → False := by
    intro taken there failed
    obtain ⟨error, ended⟩ := committing.failures taken there failed
    cases running.symm.trans ended
  cases effect with
  | wrote input plan _ planned =>
    rcases planned with ⟨-, rfl⟩ | ⟨clocked, -⟩
    · exact committing.wrote running input turn.2.now
    · cases committing.paced.symm.trans clocked
  | refused input plan error part _ planned begins shorter =>
    rcases planned with ⟨-, rfl⟩ | ⟨clocked, -⟩
    · rw [planFrames_committed] at shorter
      obtain rfl := List.eq_nil_of_length_eq_zero (Nat.lt_one_iff.mp shorter)
      have clocked := clocked_taken committing.rate committing.origin input turn.2.now [] true
      constructor
      · exact committing.rate
      · exact committing.paced
      · exact clocked.first
      · exact committing.small
      · intro frame there
        rcases List.mem_append.mp there with old | new
        · exact committing.last frame old
        · cases new
      · exact ⟨⟨clocked, .inl ⟨rfl, rfl⟩⟩, committing.committed⟩
      · exact fun _ _ _ => ⟨error, rfl⟩
    · cases committing.paced.symm.trans clocked
  | skipped input _ clocked => cases committing.paced.symm.trans clocked
  | paused encoder paused _ changed =>
    -- A pause touches neither the rate nor the origin nor the last index.
    have kept : encoder.fps = self.encoder.fps ∧ encoder.commitPaced = self.encoder.commitPaced ∧
        encoder.presentationOriginNs = self.encoder.presentationOriginNs ∧
        encoder.lastFrameIndex = self.encoder.lastFrameIndex := by
      rcases setPaused_cases changed with ⟨rfl, -⟩ | ⟨-, -, rfl⟩ | ⟨-, since, -, rfl⟩
      · exact ⟨rfl, rfl, rfl, rfl⟩
      · exact ⟨rfl, rfl, rfl, rfl⟩
      · exact ⟨rfl, rfl, rfl, rfl⟩
    obtain ⟨rate, paced, origin, last⟩ := kept
    constructor
    · exact rate.trans committing.rate
    · exact paced.trans committing.paced
    · exact origin.trans committing.origin
    · intro last' reached
      exact committing.small last' (last.symm.trans reached)
    · intro frame there
      have there : frame ∈ written history := by simpa [written, writtenOf] using there
      obtain ⟨last', reached, before⟩ := committing.last frame there
      exact ⟨last', last.trans reached, before⟩
    · exact ⟨trivial, committing.committed⟩
    · intro taken there failed
      rcases List.mem_cons.mp there with new | old
      · cases new
      · exact absurd failed (unfailed taken old)
  | ended result => exact { committing with failures := fun taken there failed => absurd failed (unfailed taken there) }

theorem Committing.of_execution {allowed : Transition.Condition EncoderWorker (EncoderCommand × CommandHost)
    WorkerObservation} (run : Execution fps true allowed history self) : Committing fps history self := by
  refine run.invariant ?_ ?_
  · rintro _ rfl
    constructor
    · rfl
    · rfl
    · rfl
    · intro last reached
      cases reached
    · intro frame there
      cases there
    · trivial
    · intro taken there
      cases there
  · intro _ _ turn _ _ committing
    exact committing.step turn

/-- Every commit is one frame, on its slot of the clock or behind the frames before it. The frames do not overlap. Up
to the end of 64 bits the indices ascend, and the times are those of the index. -/
theorem commits_recorded (run : Execution fps true Transition.unrestricted history self) :
    Transition.Throughout (Committed fps) history ∧
      (∀ taken, .frame taken ∈ history → taken.failed = true → ∃ error, self.ended = some (.error error)) ∧
      ∀ index, Presentable index → timedFrame fps index = {
        index
        ptsNs := index * nanosPerSecond / fps
        durationNs := (index + 1) * nanosPerSecond / fps - index * nanosPerSecond / fps } := by
  have committing := Committing.of_execution run
  exact ⟨committing.committed, committing.failures, fun index fits => timedFrame_eq fits fps⟩

/-- The commits at these times, and nothing else. -/
def commitsAt (times : List Nat) : List (EncoderCommand × CommandHost) :=
  times.map fun presentationNs => (.frame { slot := 0, presentationNs }, { now := presentationNs })

/-- Three commits within one slot, and one later. -/
def burst : List Nat := [1000, 2000, 3000, 200000000]

theorem commits_recorded_burst :
    Transition.Throughout (Committed 30) (Transition.execute step (initial 30 true) (commitsAt burst)).2 ∧
      (written (Transition.execute step (initial 30 true) (commitsAt burst)).2).map (·.index) = [0, 1, 2, 5] := by
  have run : Execution 30 true Transition.unrestricted _ _ :=
    Transition.Run.execute (commitsAt burst) (.start rfl) (Transition.permits_unrestricted _ _ _ _)
  rw [List.append_nil] at run
  exact ⟨(commits_recorded run).1, by decide +kernel⟩

/-- The last instant of 64 bits is on a slot whose time does not fit. -/
theorem commit_time_saturates :
    ¬∀ frame ∈ written (Transition.execute step (initial 480 true) (commitsAt [0, u64Max])).2,
      frame.ptsNs = frame.index * nanosPerSecond / 480 := by
  decide +kernel

end Luma.Recorder.EncoderWorker
