import Mathlib.Tactic.Ring
import Mathlib.Algebra.Order.Ring.Nat

/-! The frame clock of the recorder engine.

Which frame index a capture falls on, which indices one push fills, and when a
frame is presented. Integers of 64 bits are natural numbers with the source's
saturating operations.
-/

set_option autoImplicit false

namespace Luma.Recorder

def u64Max : Nat := 2 ^ 64 - 1
def nanosPerSecond : Nat := 1000000000

def saturatingAdd (left right : Nat) : Nat := min (left + right) u64Max
def saturatingMul (left right : Nat) : Nat := min (left * right) u64Max

/-- When a frame is presented and when its successor is. -/
def frameTimes (frame fps : Nat) : Nat × Nat :=
  (saturatingMul frame nanosPerSecond / fps, saturatingMul (saturatingAdd frame 1) nanosPerSecond / fps)

/-- The product saturates at 128 bits, the quotient at 64. -/
def frameIndexAt (elapsedNs fps : Nat) : Nat :=
  min (min (elapsedNs * fps) (2 ^ 128 - 1) / nanosPerSecond) u64Max

def pacedFrameIndex (wallIndex : Nat) (previous : Option Nat) (preserveCommits : Bool) : Nat :=
  if preserveCommits then
    match previous with
    | some previous => max wallIndex (saturatingAdd previous 1)
    | none => wallIndex
  else wallIndex

/-- The first index to fill, the duplicates among them and the slots left open. -/
def cfrSpan (previous : Option Nat) (target maximumDuplicates : Nat) : Nat × Nat × Nat :=
  let missing := match previous with
    | some previous => target - previous - 1
    | none => 0
  let duplicates := min missing maximumDuplicates
  (target - duplicates, duplicates, missing - duplicates)

structure EncoderStats where
  encodedFrames : Nat := 0
  duplicatedFrames : Nat := 0
  unfilledFrames : Nat := 0
  skippedCaptures : Nat := 0
  maximumGap : Nat := 0
  deriving DecidableEq, Repr

structure PushOutcome where
  written : Nat := 0
  duplicated : Nat := 0
  unfilled : Nat := 0
  maximumGap : Nat := 0
  skipped : Bool := false
  deriving DecidableEq, Repr

/-- The statistics with one push added. -/
def EncoderStats.note (stats : EncoderStats) (outcome : PushOutcome) : EncoderStats where
  encodedFrames := saturatingAdd stats.encodedFrames outcome.written
  duplicatedFrames := saturatingAdd stats.duplicatedFrames outcome.duplicated
  unfilledFrames := saturatingAdd stats.unfilledFrames outcome.unfilled
  skippedCaptures := saturatingAdd stats.skippedCaptures outcome.skipped.toNat
  maximumGap := max stats.maximumGap outcome.maximumGap

/-- The encoder's place on the timeline; instants are nanoseconds. -/
structure Encoder where
  presentationOriginNs : Option Nat := none
  pausedNs : Nat := 0
  pausedAt : Option Nat := none
  fps : Nat
  lastFrameIndex : Option Nat := none
  commitPaced : Bool
  deriving DecidableEq, Repr

/-- The indices that one push writes, and its outcome if it succeeds. -/
structure Plan where
  firstIndex : Nat
  frameIndex : Nat
  outcome : PushOutcome
  deriving DecidableEq, Repr

namespace Encoder

/-- The first capture fixes the origin. -/
def originNs (encoder : Encoder) (presentationNs : Nat) : Nat :=
  encoder.presentationOriginNs.getD presentationNs

def elapsedNs (encoder : Encoder) (presentationNs : Nat) : Nat :=
  presentationNs - encoder.originNs presentationNs - encoder.pausedNs

/-- The frame index that a capture falls on. -/
def indexOf (encoder : Encoder) (presentationNs : Nat) : Nat :=
  frameIndexAt (encoder.elapsedNs presentationNs) encoder.fps

/-- What `push_latest` writes of a capture, unless it skips it. -/
def planLatest (encoder : Encoder) (presentationNs : Nat) : Option Plan :=
  let frameIndex := encoder.indexOf presentationNs
  if encoder.lastFrameIndex.any (frameIndex ≤ ·) then none
  else
    let (firstIndex, duplicates, unfilled) := cfrSpan encoder.lastFrameIndex frameIndex encoder.fps
    some {
      firstIndex, frameIndex
      outcome := {
        written := duplicates + 1
        duplicated := duplicates
        unfilled := unfilled
        maximumGap := saturatingAdd duplicates unfilled } }

/-- What `push_committed` writes of a capture. -/
def planCommitted (encoder : Encoder) (presentationNs : Nat) : Plan :=
  let frameIndex := pacedFrameIndex (encoder.indexOf presentationNs) encoder.lastFrameIndex true
  let gap := match encoder.lastFrameIndex with
    | some previous => frameIndex - previous - 1
    | none => 0
  { firstIndex := frameIndex, frameIndex, outcome := { written := 1, unfilled := gap, maximumGap := gap } }

/-- `set_paused` at the instant `now`. The pipeline may refuse either state. -/
def setPaused (encoder : Encoder) (paused : Bool) (now : Nat) (stateChange : Except String Unit) :
    Except String Encoder :=
  match paused, encoder.pausedAt with
  | true, some _ => .ok encoder
  | true, none =>
      match stateChange with
      | .error text => .error text
      | .ok () => .ok { encoder with pausedAt := some now }
  | false, none => .ok encoder
  | false, some pausedAt =>
      match stateChange with
      | .error text => .error text
      | .ok () =>
          .ok { encoder with
            pausedAt := none
            pausedNs := saturatingAdd encoder.pausedNs (min (now - pausedAt) u64Max) }

theorem setPaused_rest {before after : Encoder} {paused : Bool} {now : Nat} {stateChange : Except String Unit}
    (changed : before.setPaused paused now stateChange = .ok after) :
    after.fps = before.fps ∧ after.lastFrameIndex = before.lastFrameIndex ∧ after.commitPaced = before.commitPaced := by
  unfold setPaused at changed
  split at changed
  · cases changed
    exact ⟨rfl, rfl, rfl⟩
  · split at changed
    · cases changed
    · cases changed
      exact ⟨rfl, rfl, rfl⟩
  · cases changed
    exact ⟨rfl, rfl, rfl⟩
  · split at changed
    · cases changed
    · cases changed
      exact ⟨rfl, rfl, rfl⟩

end Encoder

/-! ## Without saturation -/

/-- A frame whose presentation and the next one's fit in 64 bits. -/
def Presentable (frame : Nat) : Prop := (frame + 1) * nanosPerSecond ≤ u64Max

theorem frameTimes_eq {frame : Nat} (fits : Presentable frame) (fps : Nat) :
    frameTimes frame fps = (frame * nanosPerSecond / fps, (frame + 1) * nanosPerSecond / fps) := by
  unfold Presentable at fits
  have here : frame * nanosPerSecond ≤ u64Max := by
    rw [Nat.add_mul] at fits
    omega
  have next : frame + 1 ≤ u64Max := by
    unfold nanosPerSecond at fits
    omega
  unfold frameTimes saturatingMul saturatingAdd
  rw [Nat.min_eq_left here, Nat.min_eq_left next, Nat.min_eq_left fits]

/-- A frame lasts for some time at any rate that the options admit. -/
theorem frame_lasts (frame : Nat) {fps : Nat} (positive : 0 < fps) (rate : fps ≤ 480) :
    frame * nanosPerSecond / fps < (frame + 1) * nanosPerSecond / fps := by
  have long : fps ≤ nanosPerSecond := by
    unfold nanosPerSecond
    omega
  calc frame * nanosPerSecond / fps
      < frame * nanosPerSecond / fps + 1 := Nat.lt_succ_self _
    _ = (frame * nanosPerSecond + fps) / fps := (Nat.add_div_right _ positive).symm
    _ ≤ (frame + 1) * nanosPerSecond / fps := by
      apply Nat.div_le_div_right
      rw [Nat.add_mul]
      omega

/-- A later frame is presented no sooner than the one before it has ended. -/
theorem frame_after {earlier later : Nat} (order : earlier < later) (fps : Nat) :
    (earlier + 1) * nanosPerSecond / fps ≤ later * nanosPerSecond / fps :=
  Nat.div_le_div_right (Nat.mul_le_mul_right _ order)

/-- A leap year. -/
def oneYearNs : Nat := 366 * 24 * 60 * 60 * nanosPerSecond

theorem frameIndexAt_presentable {elapsedNs fps : Nat} (short : elapsedNs < oneYearNs) (rate : fps ≤ 480) :
    Presentable (frameIndexAt elapsedNs fps) := by
  have product : elapsedNs * fps ≤ oneYearNs * 480 := Nat.mul_le_mul (Nat.le_of_lt short) rate
  have index : frameIndexAt elapsedNs fps ≤ elapsedNs * fps / nanosPerSecond := by
    unfold frameIndexAt
    exact Nat.le_trans (Nat.min_le_left _ _) (Nat.div_le_div_right (Nat.min_le_left _ _))
  have time : elapsedNs * fps / nanosPerSecond * nanosPerSecond ≤ elapsedNs * fps := Nat.div_mul_le_self _ _
  unfold Presentable
  calc (frameIndexAt elapsedNs fps + 1) * nanosPerSecond
      = frameIndexAt elapsedNs fps * nanosPerSecond + nanosPerSecond := by ring
    _ ≤ elapsedNs * fps + nanosPerSecond := by
      apply Nat.add_le_add_right
      exact Nat.le_trans (Nat.mul_le_mul_right _ index) time
    _ ≤ oneYearNs * 480 + nanosPerSecond := Nat.add_le_add_right product _
    _ ≤ u64Max := by decide

/-! ## What a push covers -/

/-- A push that is not skipped starts behind the last frame, duplicates at most
one second and accounts for every index up to its own. -/
structure Covers (previous : Option Nat) (fps : Nat) (plan : Plan) : Prop where
  ordered : plan.firstIndex ≤ plan.frameIndex
  behind : ∀ last ∈ previous, last < plan.firstIndex
  duplicated : plan.frameIndex = plan.firstIndex + plan.outcome.duplicated
  bounded : plan.outcome.duplicated ≤ fps
  written : plan.outcome.written = plan.outcome.duplicated + 1
  accounted : ∀ last ∈ previous, last + plan.outcome.written + plan.outcome.unfilled = plan.frameIndex
  fresh : previous = none → plan.firstIndex = plan.frameIndex ∧ plan.outcome.unfilled = 0
  kept : plan.outcome.skipped = false

theorem planLatest_covers {encoder : Encoder} {presentationNs : Nat} {plan : Plan}
    (planned : encoder.planLatest presentationNs = some plan) :
    Covers encoder.lastFrameIndex encoder.fps plan ∧ plan.frameIndex = encoder.indexOf presentationNs := by
  unfold Encoder.planLatest at planned
  dsimp only at planned
  split at planned
  · cases planned
  · rename_i ahead
    cases planned
    refine ⟨?_, rfl⟩
    cases last : encoder.lastFrameIndex with
    | none => constructor <;> simp [cfrSpan]
    | some previous =>
      rw [last] at ahead
      simp only [Option.any_some, decide_eq_true_eq, Nat.not_le] at ahead
      constructor
      · simp only [cfrSpan]
        omega
      · simp only [cfrSpan, Option.mem_def, Option.some.injEq, forall_eq']
        omega
      · simp only [cfrSpan]
        omega
      · simp only [cfrSpan]
        omega
      · rfl
      · simp only [cfrSpan, Option.mem_def, Option.some.injEq, forall_eq']
        omega
      · intro none
        cases none
      · rfl

/-- A capture is skipped only on or before the index of the last frame. -/
theorem planLatest_skips {encoder : Encoder} {presentationNs : Nat}
    (skipped : encoder.planLatest presentationNs = none) :
    ∃ last, encoder.lastFrameIndex = some last ∧ encoder.indexOf presentationNs ≤ last := by
  unfold Encoder.planLatest at skipped
  dsimp only at skipped
  split at skipped
  · rename_i behind
    obtain ⟨last, same, order⟩ := Option.any_eq_true _ _ |>.mp behind
    exact ⟨last, same, by simpa using order⟩
  · cases skipped

end Luma.Recorder
