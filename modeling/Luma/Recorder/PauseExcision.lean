import Luma.Recorder.EncoderWorker

/-! What a pause takes out of a recording.

The encoder subtracts the length of all pauses, its own timeline begins with the first frame. Both
agree as long as nothing was paused before that frame.
-/

set_option autoImplicit false

namespace Luma.Recorder.EncoderWorker

open Luma.Library

/-! ## The time that was paused -/

def instant : WorkerObservation → Nat
  | .frame taken => taken.now
  | .pause _ now => now

def isPaused : List WorkerObservation → Bool
  | [] => false
  | .pause paused _ :: _ => paused
  | .frame _ :: earlier => isPaused earlier

/-- How long the worker has been paused until `now`. -/
def pausedTime : List WorkerObservation → Nat → Nat
  | [], _ => 0
  | observation :: earlier, now => pausedTime earlier (instant observation) +
      if isPaused (observation :: earlier) then now - instant observation else 0

/-- How much of that was before the first frame. -/
def pausedBefore : List WorkerObservation → Nat
  | [] => 0
  | .pause _ _ :: earlier => pausedBefore earlier
  | .frame taken :: earlier =>
      match firstTaken earlier with
      | none => pausedTime earlier taken.now
      | some _ => pausedBefore earlier

/-- How long the worker was paused after the first frame and before this one. -/
def pausedSinceFirst (taken : TakenFrame) (earlier : List WorkerObservation) : Nat :=
  pausedTime earlier taken.now - pausedBefore (.frame taken :: earlier)

/-- The frame is on its index. If that is taken, a frame paced by the clock is skipped, and one of a commit is put
behind a later frame. -/
def Placed (commitPaced : Bool) (fps index : Nat) (frames earlier : List EncoderInput) : Prop :=
  (∃ duplicates, frames = duplicates ++ [timedFrame fps index]) ∨
    if commitPaced then
      ∃ frame ∈ earlier, index ≤ frame.index ∧ frames = [timedFrame fps (saturatingAdd frame.index 1)]
    else frames = [] ∧ ∃ frame ∈ earlier, frame.index = index

/-- What is subtracted from a frame is the pause since the first frame, and it is placed without that. -/
def Excised (commitPaced : Bool) (fps : Nat) : WorkerObservation → List WorkerObservation → Prop
  | .pause _ _, _ => True
  | .frame taken, earlier =>
      taken.subtractedNs = pausedSinceFirst taken earlier ∧
        taken.originNs = ((firstTaken earlier).getD taken).presentationNs ∧
        (taken.failed = false → Placed commitPaced fps
          (frameIndexAt (taken.presentationNs - taken.originNs - pausedSinceFirst taken earlier) fps)
          taken.written (written earlier))

/-! ## The condition -/

/-- The worker is not paused when it takes a frame, was not before the first one, and a frame paced by the clock that
comes no later than the last one is on an index that was written. Instants do not go back, and pauses are shorter than
the time that 64 bits can count. -/
def Undisturbed : Transition.Condition EncoderWorker (EncoderCommand × CommandHost) WorkerObservation :=
  fun history worker turn =>
    (∀ observation ∈ history.head?, instant observation ≤ turn.2.now) ∧
      match turn.1 with
      | .frame input => isPaused history = false ∧
          (firstTaken history = none → pausedTime history turn.2.now = 0) ∧
          (worker.encoder.commitPaced = false → ∀ last ∈ worker.encoder.lastFrameIndex,
            worker.encoder.indexOf input.presentationNs ≤ last →
            ∃ frame ∈ written history, frame.index = worker.encoder.indexOf input.presentationNs)
      | .pause _ => pausedTime history turn.2.now ≤ u64Max
      | .finish => True

instance decidableUndisturbed (history : List WorkerObservation) (worker : EncoderWorker) :
    (turn : EncoderCommand × CommandHost) → Decidable (Undisturbed history worker turn)
  | (.frame _, _) => inferInstanceAs (Decidable (_ ∧ _ ∧ (_ → _) ∧ (_ → ∀ last ∈ worker.encoder.lastFrameIndex, _ → _)))
  | (.pause _, _) => inferInstanceAs (Decidable (_ ∧ _ ≤ _))
  | (.finish, _) => inferInstanceAs (Decidable (_ ∧ True))

/-! ## The invariant -/

/-- What the encoder has counted, and since when it is paused. -/
def Counts (history : List WorkerObservation) (encoder : Encoder) : Prop :=
  match encoder.pausedAt with
  | none => isPaused history = false ∧ ∀ now, pausedTime history now = encoder.pausedNs
  | some since => isPaused history = true ∧ ∀ now, (∀ observation ∈ history.head?, instant observation ≤ now) →
      pausedTime history now = encoder.pausedNs + (now - since) ∧ since ≤ now

structure Excising (commitPaced : Bool) (fps : Nat) (history : List WorkerObservation) (worker : EncoderWorker) :
    Prop where
  rate : worker.encoder.fps = fps
  paced : worker.encoder.commitPaced = commitPaced
  origin : worker.encoder.presentationOriginNs = (firstTaken history).map (·.presentationNs)
  counts : Counts history worker.encoder
  clean : firstTaken history ≠ none → pausedBefore history = 0
  last : ∀ last, worker.encoder.lastFrameIndex = some last → ∃ frame ∈ written history, frame.index = last
  excised : Transition.Throughout (Excised commitPaced fps) history

variable {self : EncoderWorker} {commitPaced : Bool} {fps : Nat} {history : List WorkerObservation}

theorem Counts.running {encoder : Encoder} (counts : Counts history encoder) (active : isPaused history = false) :
    encoder.pausedAt = none ∧ ∀ now, pausedTime history now = encoder.pausedNs := by
  unfold Counts at counts
  split at counts
  · rename_i stopped
    exact ⟨stopped, counts.2⟩
  · cases active.symm.trans counts.1

/-- A frame that is taken adds nothing to the pause. -/
theorem Counts.frame {encoder next : Encoder} (counts : Counts history encoder) (active : isPaused history = false)
    (taken : TakenFrame) (since : next.pausedAt = encoder.pausedAt) (total : next.pausedNs = encoder.pausedNs) :
    Counts (.frame taken :: history) next := by
  obtain ⟨stopped, counted⟩ := counts.running active
  unfold Counts
  rw [since, stopped, total]
  refine ⟨active, fun now => ?_⟩
  have same : isPaused (.frame taken :: history) = false := active
  rw [pausedTime, same, counted]
  exact Nat.add_zero _

/-- A pause begins or ends, or goes on. -/
theorem Counts.pause {encoder next : Encoder} (counts : Counts history encoder) {paused : Bool} {now : Nat}
    {stateChange : Except String Unit} (clock : ∀ observation ∈ history.head?, instant observation ≤ now)
    (short : pausedTime history now ≤ u64Max) (changed : encoder.setPaused paused now stateChange = .ok next) :
    Counts (.pause paused now :: history) next := by
  have later : ∀ {later : Nat}, (∀ observation ∈ (WorkerObservation.pause paused now :: history).head?,
      instant observation ≤ later) → now ≤ later := fun reached => reached _ rfl
  rcases setPaused_cases changed with ⟨rfl, same⟩ | ⟨rfl, stopped, rfl⟩ | ⟨rfl, since, running, rfl⟩
  · unfold Counts at counts ⊢
    cases began : next.pausedAt with
    | none =>
      rw [began] at counts same
      cases same
      exact ⟨rfl, fun other => counts.2 now⟩
    | some since =>
      rw [began] at counts same
      cases same
      refine ⟨rfl, fun other reached => ?_⟩
      obtain ⟨counted, before⟩ := counts.2 now clock
      have order := later reached
      show pausedTime history now + (other - now) = _ ∧ _
      omega
  · unfold Counts at counts
    rw [stopped] at counts
    refine ⟨rfl, fun other reached => ⟨?_, later reached⟩⟩
    show pausedTime history now + (other - now) = _
    rw [counts.2]
  · unfold Counts at counts
    rw [running] at counts
    refine ⟨rfl, fun other => ?_⟩
    obtain ⟨counted, -⟩ := counts.2 now clock
    show pausedTime history now + 0 = saturatingAdd encoder.pausedNs (min (now - since) u64Max)
    unfold saturatingAdd
    omega

/-- What holds of a frame that is taken, whatever becomes of it. -/
structure TakenCleanly (commitPaced : Bool) (fps : Nat) (history : List WorkerObservation) (taken : TakenFrame) :
    Prop where
  subtracted : taken.subtractedNs = pausedSinceFirst taken history
  origin : taken.originNs = ((firstTaken history).getD taken).presentationNs
  slot : taken.wallIndex = frameIndexAt (taken.presentationNs - taken.originNs - pausedSinceFirst taken history) fps
  before : pausedBefore (.frame taken :: history) = 0

theorem Excising.take (excising : Excising commitPaced fps history self) (active : isPaused history = false)
    (input : EncodeFrame) (now : Nat) (first : firstTaken history = none → pausedTime history now = 0)
    (part : List EncoderInput) (failed : Bool) :
    TakenCleanly commitPaced fps history { self.taken input now with written := part, failed } := by
  have clocked := clocked_taken excising.rate excising.origin input now part failed
  have before : pausedBefore (.frame { self.taken input now with written := part, failed } :: history) = 0 := by
    unfold pausedBefore
    cases begun : firstTaken history with
    | none => exact first begun
    | some taken => exact excising.clean (by simp [begun])
  have counted := (excising.counts.running active).2 now
  have subtracted : self.encoder.pausedNs =
      pausedSinceFirst { self.taken input now with written := part, failed } history := by
    unfold pausedSinceFirst
    rw [before]
    exact counted.symm
  refine ⟨subtracted, clocked.origin, ?_, before⟩
  rw [← subtracted]
  exact clocked.slot

/-- A plan of the clock ends on the index of its frame, one of a commit there or behind the last frame. -/
theorem placed_plan {input : EncodeFrame} {plan : Plan} (planned : Plans self input plan)
    {frames : List EncoderInput} (last : ∀ last, self.encoder.lastFrameIndex = some last →
      ∃ frame ∈ frames, frame.index = last) :
    Placed self.encoder.commitPaced fps (self.encoder.indexOf input.presentationNs) (planFrames plan fps) frames := by
  rcases planned with ⟨paced, rfl⟩ | ⟨timed, planned⟩
  · rw [planFrames_committed]
    have place : (self.encoder.planCommitted input.presentationNs).frameIndex =
        pacedFrameIndex (self.encoder.indexOf input.presentationNs) self.encoder.lastFrameIndex true := rfl
    rw [place]
    unfold pacedFrameIndex
    cases reached : self.encoder.lastFrameIndex with
    | none => exact .inl ⟨[], rfl⟩
    | some before =>
      simp only [↓reduceIte]
      by_cases free : saturatingAdd before 1 ≤ self.encoder.indexOf input.presentationNs
      · rw [Nat.max_eq_left free]
        exact .inl ⟨[], rfl⟩
      · obtain ⟨frame, there, rfl⟩ := last before reached
        have bound : self.encoder.indexOf input.presentationNs ≤ u64Max := Nat.min_le_right _ _
        have late : self.encoder.indexOf input.presentationNs ≤ frame.index := by
          unfold saturatingAdd at free
          omega
        rw [Nat.max_eq_right (Nat.le_of_not_le free)]
        refine .inr ?_
        rw [if_pos paced]
        exact ⟨frame, there, late, rfl⟩
  · obtain ⟨covers, place⟩ := planLatest_covers planned
    rw [← place]
    exact .inl (planFrames_last covers.ordered fps)

/-- The index of the plan is written. -/
theorem plan_reaches {input : EncodeFrame} {plan : Plan} (planned : Plans self input plan) (fps : Nat) :
    ∃ frame ∈ planFrames plan fps, frame.index = plan.frameIndex := by
  have last : ∃ duplicates, planFrames plan fps = duplicates ++ [timedFrame fps plan.frameIndex] := by
    rcases planned with ⟨-, rfl⟩ | ⟨-, planned⟩
    · exact ⟨[], planFrames_committed _ _ _⟩
    · exact planFrames_last (planLatest_covers planned).1.ordered fps
  obtain ⟨duplicates, ends⟩ := last
  refine ⟨timedFrame fps plan.frameIndex, ?_, rfl⟩
  rw [ends]
  exact List.mem_append_right _ (List.mem_singleton.mpr rfl)

/-- A frame that is taken leaves the pause as it is and fixes the origin. -/
theorem Excising.frame (excising : Excising commitPaced fps history self) {input : EncodeFrame} {now : Nat}
    (active : isPaused history = false) (first : firstTaken history = none → pausedTime history now = 0)
    {part : List EncoderInput} {failed : Bool} {stats : EncoderStats} {ended : Option (Except String EncoderStats)}
    {lastFrameIndex : Option Nat}
    (reached : ∀ last, lastFrameIndex = some last → ∃ frame ∈ written history ++ part, frame.index = last)
    (placed : failed = false →
      Placed commitPaced fps (self.encoder.indexOf input.presentationNs) part (written history)) :
    Excising commitPaced fps (.frame { self.taken input now with written := part, failed } :: history)
      { encoder := { self.begun input with lastFrameIndex }, stats, ended } := by
  have clean := excising.take active input now first part failed
  constructor
  · exact excising.rate
  · exact excising.paced
  · exact congrArg some clean.origin
  · exact excising.counts.frame active _ rfl rfl
  · exact fun _ => clean.before
  · exact reached
  · refine ⟨⟨clean.subtracted, clean.origin, fun done => ?_⟩, excising.excised⟩
    rw [← clean.slot]
    exact placed done

theorem Excising.step (excising : Excising commitPaced fps history self) {turn : EncoderCommand × CommandHost}
    (undisturbed : Undisturbed history self turn) :
    Excising commitPaced fps ((EncoderWorker.step self turn).2 ++ history) (EncoderWorker.step self turn).1 := by
  rcases self.step_effect turn with idle | ⟨-, effect⟩
  · rw [idle]
    exact excising
  generalize (EncoderWorker.step self turn).2 = seen at effect ⊢
  generalize (EncoderWorker.step self turn).1 = after at effect ⊢
  obtain ⟨clock, quiet⟩ := undisturbed
  cases effect with
  | wrote input plan taken planned =>
    rw [taken] at quiet
    obtain ⟨active, first, -⟩ := quiet
    refine excising.frame active first ?_ fun _ => ?_
    · rintro _ ⟨⟩
      obtain ⟨frame, there, place⟩ := plan_reaches planned self.encoder.fps
      exact ⟨frame, List.mem_append_right _ there, place⟩
    · rw [← excising.paced, excising.rate]
      exact placed_plan planned excising.last
  | refused input plan error part taken planned begins shorter =>
    rw [taken] at quiet
    obtain ⟨active, first, -⟩ := quiet
    refine excising.frame active first ?_ fun done => by cases done
    intro last reached
    obtain ⟨frame, there, place⟩ := excising.last last reached
    exact ⟨frame, List.mem_append_left _ there, place⟩
  | skipped input taken timed skipped =>
    rw [taken] at quiet
    obtain ⟨active, first, filled⟩ := quiet
    obtain ⟨last, reached, order⟩ := planLatest_skips skipped
    refine excising.frame active first ?_ fun _ => .inr ?_
    · rw [List.append_nil]
      exact excising.last
    · rw [← excising.paced, timed]
      exact ⟨rfl, filled timed last reached order⟩
  | paused encoder paused taken changed =>
    rw [taken] at quiet
    obtain ⟨rate, last, paced⟩ := Encoder.setPaused_rest changed
    have origin : encoder.presentationOriginNs = self.encoder.presentationOriginNs := by
      rcases setPaused_cases changed with ⟨rfl, -⟩ | ⟨-, -, rfl⟩ | ⟨-, since, -, rfl⟩
      · rfl
      · rfl
      · rfl
    constructor
    · exact rate.trans excising.rate
    · exact paced.trans excising.paced
    · exact origin.trans excising.origin
    · exact excising.counts.pause clock quiet changed
    · exact excising.clean
    · intro index reached
      obtain ⟨frame, there, place⟩ := excising.last index (last.symm.trans reached)
      exact ⟨frame, List.mem_append_left _ there, place⟩
    · exact ⟨trivial, excising.excised⟩
  | ended result => exact { excising with }

theorem Excising.of_execution (run : Execution fps commitPaced Undisturbed history self) :
    Excising commitPaced fps history self := by
  refine run.invariant ?_ ?_
  · rintro _ rfl
    constructor
    · rfl
    · rfl
    · rfl
    · exact ⟨rfl, fun _ => rfl⟩
    · exact fun taken => absurd rfl taken
    · intro last reached
      cases reached
    · trivial
  · intro _ _ turn _ undisturbed excising
    exact excising.step undisturbed

/-- As long as nothing was paused before the first frame, exactly the pause since then is subtracted from a frame, and
the frame is on the index of the rest. -/
theorem pauses_excised (run : Execution fps commitPaced Undisturbed history self) :
    Transition.Throughout (Excised commitPaced fps) history :=
  (Excising.of_execution run).excised

/-! ## Runs -/

def frameAt (presentationNs now : Nat) : EncoderCommand × CommandHost :=
  (.frame { slot := 0, presentationNs }, { now })

def pauseAt (paused : Bool) (now : Nat) : EncoderCommand × CommandHost :=
  (.pause paused, { now })

def seconds (count : Nat) : Nat := count * nanosPerSecond

/-- Two frames, and a third one after a pause of five seconds. -/
def interrupted : List (EncoderCommand × CommandHost) :=
  [frameAt (seconds 100) (seconds 1), frameAt (seconds 101) (seconds 2), pauseAt true (seconds 3),
    pauseAt false (seconds 8), frameAt (seconds 108) (seconds 9)]

theorem pauses_excised_interrupted :
    Transition.Throughout (Excised true 30) (Transition.execute step (initial 30 true) interrupted).2 ∧
      (written (Transition.execute step (initial 30 true) interrupted).2).map (·.index) = [0, 30, 90] := by
  have undisturbed : Transition.Permits step Undisturbed [] (initial 30 true) interrupted := by decide +kernel
  have run : Execution 30 true Undisturbed _ _ := Transition.Run.execute interrupted (.start rfl) undisturbed
  rw [List.append_nil] at run
  exact ⟨pauses_excised run, by decide +kernel⟩

/-- A pause of five seconds before the first frame. -/
def pausedFirst : List (EncoderCommand × CommandHost) :=
  [pauseAt true (seconds 1), pauseAt false (seconds 6), frameAt (seconds 100) (seconds 7),
    frameAt (seconds 101) (seconds 8)]

/-- It is subtracted although the timeline begins with that frame, and the frame one second later is lost. -/
theorem early_pause_subtracted :
    ¬Transition.Throughout (Excised false 30) (Transition.execute step (initial 30 false) pausedFirst).2 ∧
      (written (Transition.execute step (initial 30 false) pausedFirst).2).map (·.index) = [0] := by
  refine ⟨fun excised => ?_, by decide +kernel⟩
  have subtracted : seconds 5 = 0 := excised.1.1
  cases subtracted

end Luma.Recorder.EncoderWorker
