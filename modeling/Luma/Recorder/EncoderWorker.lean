import Luma.Recorder.Engine

/-! The encoder worker, one command after the other.

A frame is written at the place of the timeline that its capture falls on. What the worker observes of
a frame is when it takes it, the pause it subtracts and what it writes.
-/

set_option autoImplicit false

namespace Luma.Recorder

open Luma.Library

/-- What the pipeline answers to one command, taken at the instant `now`. -/
structure CommandHost where
  now : Nat
  stateChange : Except String Unit := .ok ()
  /-- Whether the encoder's source takes the frame of an index. -/
  push : Nat → Except String Unit := fun _ => .ok ()

/-- A frame that the worker has taken. -/
structure TakenFrame where
  now : Nat
  presentationNs : Nat
  originNs : Nat
  subtractedNs : Nat
  wallIndex : Nat
  written : List EncoderInput
  /-- The encoder's source has refused a frame. -/
  failed : Bool := false
  deriving DecidableEq

inductive WorkerObservation where
  | frame (taken : TakenFrame)
  | pause (paused : Bool) (now : Nat)
  deriving DecidableEq

structure EncoderWorker where
  encoder : Encoder
  stats : EncoderStats := {}
  ended : Option (Except String EncoderStats) := none

/-- `push_one`'s buffer for an index. -/
def timedFrame (fps index : Nat) : EncoderInput where
  index := index
  ptsNs := (frameTimes index fps).1
  durationNs := (frameTimes index fps).2 - (frameTimes index fps).1

/-- Frames are written until one is refused. -/
def pushFrames (fps : Nat) (push : Nat → Except String Unit) : List Nat → List EncoderInput × Except String Unit
  | [] => ([], .ok ())
  | index :: indices =>
      match push index with
      | .error error => ([], .error error)
      | .ok () =>
          let rest := pushFrames fps push indices
          (timedFrame fps index :: rest.1, rest.2)

namespace EncoderWorker

/-- The frame as it is taken, before anything is written. -/
def taken (self : EncoderWorker) (input : EncodeFrame) (now : Nat) : TakenFrame where
  now := now
  presentationNs := input.presentationNs
  originNs := self.encoder.originNs input.presentationNs
  subtractedNs := self.encoder.pausedNs
  wallIndex := self.encoder.indexOf input.presentationNs
  written := []

/-- The first frame fixes the origin. -/
def begun (self : EncoderWorker) (input : EncodeFrame) : Encoder :=
  { self.encoder with presentationOriginNs := some (self.encoder.originNs input.presentationNs) }

/-- The indices of a plan are written. -/
def writePlan (self : EncoderWorker) (input : EncodeFrame) (host : CommandHost) (plan : Plan) :
    EncoderWorker × List WorkerObservation :=
  let pushed := pushFrames self.encoder.fps host.push
    (List.range' plan.firstIndex (plan.frameIndex + 1 - plan.firstIndex))
  match pushed.2 with
  | .error error =>
      ({ self with encoder := self.begun input, ended := some (.error error) },
        [.frame { self.taken input host.now with written := pushed.1, failed := true }])
  | .ok () =>
      ({ self with
          encoder := { self.begun input with lastFrameIndex := some plan.frameIndex }
          stats := self.stats.note plan.outcome },
        [.frame { self.taken input host.now with written := pushed.1 }])

def pushLatest (self : EncoderWorker) (input : EncodeFrame) (host : CommandHost) :
    EncoderWorker × List WorkerObservation :=
  match self.encoder.planLatest input.presentationNs with
  | none =>
      ({ self with encoder := self.begun input, stats := self.stats.note { skipped := true } },
        [.frame (self.taken input host.now)])
  | some plan => self.writePlan input host plan

def pushCommitted (self : EncoderWorker) (input : EncodeFrame) (host : CommandHost) :
    EncoderWorker × List WorkerObservation :=
  self.writePlan input host (self.encoder.planCommitted input.presentationNs)

def push (self : EncoderWorker) (input : EncodeFrame) (host : CommandHost) : EncoderWorker × List WorkerObservation :=
  if self.encoder.commitPaced then self.pushCommitted input host else self.pushLatest input host

/-- `run_encoder_worker` or `run_commit_worker`: one turn of the loop. -/
def step : Transition.Step EncoderWorker (EncoderCommand × CommandHost) WorkerObservation := fun self turn =>
  if self.ended.isSome then (self, [])
  else
    match turn.1 with
    | .frame input => self.push input turn.2
    | .pause paused =>
        match self.encoder.setPaused paused turn.2.now turn.2.stateChange with
        | .error error => ({ self with ended := some (.error error) }, [])
        | .ok encoder => ({ self with encoder }, [.pause paused turn.2.now])
    | .finish => ({ self with ended := some (.ok self.stats) }, [])

/-- The worker as it is started. -/
def initial (fps : Nat) (commitPaced : Bool) : EncoderWorker where
  encoder := { fps, commitPaced }

/-! ## What one turn does -/

variable {self after : EncoderWorker} {fps : Nat} {push : Nat → Except String Unit} {observed : List WorkerObservation}

/-- `set_paused` does nothing, or begins or ends a pause. -/
theorem setPaused_cases {before after : Encoder} {paused : Bool} {now : Nat} {stateChange : Except String Unit}
    (changed : before.setPaused paused now stateChange = .ok after) :
    after = before ∧ paused = before.pausedAt.isSome ∨
      paused = true ∧ before.pausedAt = none ∧ after = { before with pausedAt := some now } ∨
      paused = false ∧ ∃ since, before.pausedAt = some since ∧ after = { before with
        pausedAt := none
        pausedNs := saturatingAdd before.pausedNs (min (now - since) u64Max) } := by
  unfold Encoder.setPaused at changed
  split at changed
  · rename_i since running
    cases changed
    exact .inl ⟨rfl, by rw [running]; rfl⟩
  · rename_i stopped
    split at changed
    · cases changed
    · cases changed
      exact .inr (.inl ⟨rfl, stopped, rfl⟩)
  · rename_i stopped
    cases changed
    exact .inl ⟨rfl, by rw [stopped]; rfl⟩
  · rename_i since running
    split at changed
    · cases changed
    · cases changed
      exact .inr (.inr ⟨rfl, since, running, rfl⟩)

theorem pushFrames_ok {indices : List Nat} (done : (pushFrames fps push indices).2 = .ok ()) :
    (pushFrames fps push indices).1 = indices.map (timedFrame fps) := by
  induction indices with
  | nil => rfl
  | cons index indices ih =>
    unfold pushFrames at done ⊢
    cases answer : push index with
    | error error => simp [answer] at done
    | ok written =>
      simp only [answer] at done ⊢
      rw [ih done, List.map_cons]

theorem pushFrames_refused {indices : List Nat} {error : String}
    (refused : (pushFrames fps push indices).2 = .error error) :
    (pushFrames fps push indices).1 <+: indices.map (timedFrame fps) ∧
      (pushFrames fps push indices).1.length < indices.length := by
  induction indices with
  | nil => cases refused
  | cons index indices ih =>
    unfold pushFrames at refused ⊢
    cases answer : push index with
    | error error' => exact ⟨List.nil_prefix, Nat.succ_pos _⟩
    | ok written =>
      simp only [answer] at refused ⊢
      obtain ⟨part, shorter⟩ := ih refused
      refine ⟨?_, Nat.succ_lt_succ shorter⟩
      rw [List.map_cons]
      exact (List.prefix_cons_inj _).mpr part

/-- The frames that one push writes. -/
def planFrames (plan : Plan) (fps : Nat) : List EncoderInput :=
  (List.range' plan.firstIndex (plan.frameIndex + 1 - plan.firstIndex)).map (timedFrame fps)

theorem length_planFrames (plan : Plan) (fps : Nat) :
    (planFrames plan fps).length = plan.frameIndex + 1 - plan.firstIndex := by
  simp [planFrames]

/-- A commit is one frame. -/
theorem planFrames_committed (encoder : Encoder) (presentationNs fps : Nat) :
    planFrames (encoder.planCommitted presentationNs) fps =
      [timedFrame fps (encoder.planCommitted presentationNs).frameIndex] := by
  have first : (encoder.planCommitted presentationNs).firstIndex = (encoder.planCommitted presentationNs).frameIndex :=
    rfl
  unfold planFrames
  rw [first, Nat.add_sub_cancel_left]
  rfl

/-- The last frame of a plan is that of its index. -/
theorem planFrames_last {plan : Plan} (ordered : plan.firstIndex ≤ plan.frameIndex) (fps : Nat) :
    ∃ duplicates, planFrames plan fps = duplicates ++ [timedFrame fps plan.frameIndex] := by
  refine ⟨(List.range' plan.firstIndex (plan.frameIndex - plan.firstIndex)).map (timedFrame fps), ?_⟩
  have more : plan.frameIndex + 1 - plan.firstIndex = plan.frameIndex - plan.firstIndex + 1 := by omega
  have ends : plan.firstIndex + (plan.frameIndex - plan.firstIndex) = plan.frameIndex := Nat.add_sub_cancel' ordered
  rw [planFrames, more, List.range'_1_concat, List.map_append, ends]
  rfl

/-- All frames of a plan are written, or the worker ends before the last one. -/
theorem writePlan_cases (self : EncoderWorker) (input : EncodeFrame) (host : CommandHost) (plan : Plan) :
    self.writePlan input host plan =
        ({ self with
            encoder := { self.begun input with lastFrameIndex := some plan.frameIndex }
            stats := self.stats.note plan.outcome },
          [.frame { self.taken input host.now with written := planFrames plan self.encoder.fps }]) ∨
      ∃ error part, part <+: planFrames plan self.encoder.fps ∧
        part.length < (planFrames plan self.encoder.fps).length ∧ self.writePlan input host plan =
        ({ self with encoder := self.begun input, ended := some (.error error) },
          [.frame { self.taken input host.now with written := part, failed := true }]) := by
  unfold writePlan
  simp only
  split
  · rename_i error refused
    obtain ⟨part, shorter⟩ := pushFrames_refused refused
    rw [List.length_range'] at shorter
    refine .inr ⟨error, _, part, ?_, rfl⟩
    rwa [length_planFrames]
  · rename_i done
    rw [pushFrames_ok done]
    exact .inl rfl

/-- What the worker means to write of a frame. -/
def Plans (worker : EncoderWorker) (input : EncodeFrame) (plan : Plan) : Prop :=
  worker.encoder.commitPaced = true ∧ plan = worker.encoder.planCommitted input.presentationNs ∨
    worker.encoder.commitPaced = false ∧ worker.encoder.planLatest input.presentationNs = some plan

/-- What a turn of a worker can do that has not ended. -/
inductive Effect (before : EncoderWorker) (turn : EncoderCommand × CommandHost) :
    EncoderWorker → List WorkerObservation → Prop where
  | wrote (input : EncodeFrame) (plan : Plan) : turn.1 = .frame input → Plans before input plan →
      Effect before turn
        { before with
          encoder := { before.begun input with lastFrameIndex := some plan.frameIndex }
          stats := before.stats.note plan.outcome }
        [.frame { before.taken input turn.2.now with written := planFrames plan before.encoder.fps }]
  | refused (input : EncodeFrame) (plan : Plan) (error : String) (part : List EncoderInput) :
      turn.1 = .frame input → Plans before input plan → part <+: planFrames plan before.encoder.fps →
      part.length < (planFrames plan before.encoder.fps).length →
      Effect before turn { before with encoder := before.begun input, ended := some (.error error) }
        [.frame { before.taken input turn.2.now with written := part, failed := true }]
  | skipped (input : EncodeFrame) : turn.1 = .frame input → before.encoder.commitPaced = false →
      before.encoder.planLatest input.presentationNs = none →
      Effect before turn
        { before with encoder := before.begun input, stats := before.stats.note { skipped := true } }
        [.frame (before.taken input turn.2.now)]
  | paused (encoder : Encoder) (paused : Bool) : turn.1 = .pause paused →
      before.encoder.setPaused paused turn.2.now turn.2.stateChange = .ok encoder →
      Effect before turn { before with encoder } [.pause paused turn.2.now]
  | ended (result : Except String EncoderStats) : Effect before turn { before with ended := some result } []

variable {turn : EncoderCommand × CommandHost}

theorem writePlan_effect {input : EncodeFrame} {plan : Plan} (taken : turn.1 = .frame input)
    (planned : Plans self input plan) :
    Effect self turn (self.writePlan input turn.2 plan).1 (self.writePlan input turn.2 plan).2 := by
  rcases self.writePlan_cases input turn.2 plan with wrote | ⟨error, part, begins, shorter, refused⟩
  · rw [wrote]
    exact .wrote input plan taken planned
  · rw [refused]
    exact .refused input plan error part taken planned begins shorter

theorem push_effect {input : EncodeFrame} (taken : turn.1 = .frame input) :
    Effect self turn (self.push input turn.2).1 (self.push input turn.2).2 := by
  unfold EncoderWorker.push
  split
  · rename_i paced
    exact writePlan_effect taken (.inl ⟨paced, rfl⟩)
  · rename_i timed
    have timed : self.encoder.commitPaced = false := by simpa using timed
    unfold pushLatest
    split
    · rename_i none
      exact .skipped input taken timed none
    · rename_i plan planned
      exact writePlan_effect taken (.inr ⟨timed, planned⟩)

/-- A worker that has ended does nothing. -/
theorem step_effect (self : EncoderWorker) (turn : EncoderCommand × CommandHost) :
    EncoderWorker.step self turn = (self, []) ∨
      self.ended = none ∧ Effect self turn (EncoderWorker.step self turn).1 (EncoderWorker.step self turn).2 := by
  unfold EncoderWorker.step
  split
  · exact .inl rfl
  · rename_i running
    refine .inr ⟨by simpa using running, ?_⟩
    split
    · rename_i input taken
      exact push_effect taken
    · rename_i paused taken
      split
      · exact .ended _
      · rename_i changed
        exact .paused _ _ taken changed
    · exact .ended _

/-! ## Histories -/

def writtenOf : WorkerObservation → List EncoderInput
  | .frame taken => taken.written
  | .pause _ _ => []

/-- What the encoder's source has taken, the oldest first. -/
def written : List WorkerObservation → List EncoderInput
  | [] => []
  | observation :: earlier => written earlier ++ writtenOf observation

/-- The first frame that was taken. -/
def firstTaken : List WorkerObservation → Option TakenFrame
  | [] => none
  | .frame taken :: earlier => some ((firstTaken earlier).getD taken)
  | .pause _ _ :: earlier => firstTaken earlier

/-- The slot of the clock that a frame falls on, from the first frame on and without what is subtracted. -/
structure Clocked (fps : Nat) (taken : TakenFrame) (earlier : List WorkerObservation) : Prop where
  origin : taken.originNs = ((firstTaken earlier).getD taken).presentationNs
  slot : taken.wallIndex = frameIndexAt (taken.presentationNs - taken.originNs - taken.subtractedNs) fps

variable {history : List WorkerObservation}

theorem clocked_taken (rate : self.encoder.fps = fps)
    (origin : self.encoder.presentationOriginNs = (firstTaken history).map (·.presentationNs)) (input : EncodeFrame)
    (now : Nat) (part : List EncoderInput) (failed : Bool) :
    Clocked fps { self.taken input now with written := part, failed } history where
  origin := by
    show self.encoder.originNs input.presentationNs = _
    rw [Encoder.originNs, origin]
    cases firstTaken history with
    | none => rfl
    | some first => rfl
  slot := by
    show self.encoder.indexOf input.presentationNs = _
    rw [Encoder.indexOf, rate]
    rfl

/-- The first frame is known from then on. -/
theorem Clocked.first {taken : TakenFrame} (clocked : Clocked fps taken history) :
    some taken.originNs = (firstTaken (.frame taken :: history)).map (·.presentationNs) :=
  congrArg some clocked.origin

/-- The worker as it is started, and what it does then. -/
abbrev Execution (fps : Nat) (commitPaced : Bool)
    (allowed : Transition.Condition EncoderWorker (EncoderCommand × CommandHost) WorkerObservation) :
    List WorkerObservation → EncoderWorker → Prop :=
  Transition.Run step allowed (· = initial fps commitPaced)

end EncoderWorker

end Luma.Recorder
