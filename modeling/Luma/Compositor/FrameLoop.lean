import Luma.Compositor.RenderMetrics
import Luma.Library.Transition

/-! The frames of one output: when a vertical blank is taken for a presentation, and when the next repaint is due.

Times are those of the monotonic clock, in nanoseconds. What a frame shows and who is told of it is left out, as are
outputs that are unplugged, and errors that end the process.
-/

set_option autoImplicit false

namespace Luma.Compositor.Udev

open Luma.Library

/-- A mode that an output can have has a positive rate, and so a frame interval. -/
structure FrameMode where
  refresh : Int
  interval : Duration
  given : frameDuration refresh = some interval

inductive FrameCallback where
  /-- `frame_finish` with metadata of that sequence and time. -/
  | throttle (sequence : Nat) (time : Nat)
  | repaint (target : Nat)
  /-- The repaint after one that failed, which the surface does not remember. -/
  | reschedule (target : Nat)
  deriving DecidableEq

/-- Whether the surface remembers the timer. -/
def FrameCallback.isTracked : FrameCallback → Bool
  | .throttle _ _ | .repaint _ => true
  | .reschedule _ => false

structure FrameTimer where
  token : Nat
  due : Nat
  callback : FrameCallback
  deriving DecidableEq

structure FrameMetadata where
  sequence : Nat
  /-- The time of the hardware, if it is one of the monotonic clock. -/
  time : Option Nat

structure SurfaceData where
  lastPresentationTime : Option Nat := none
  vblankThrottleTimer : Option Nat := none
  repaintTimer : Option Nat := none
  repaintTarget : Option Nat := none
  performance : OutputPerformanceMetrics := ⟨.default⟩
  directScanoutFrames : UInt64 := 0
  composedFrames : UInt64 := 0
  emptyFrames : UInt64 := 0
  missedDeadlines : UInt64 := 0

/-- What the device says of the frame that is on the screen now. -/
inductive SubmitResult where
  | submitted
  | alreadySwapped
  | deviceInactive
  | permissionDenied
  | temporaryFailure
  deriving DecidableEq

def SubmitResult.schedulesRender : SubmitResult → Bool
  | .submitted | .alreadySwapped | .permissionDenied => true
  | .deviceInactive | .temporaryFailure => false

inductive RenderResult where
  | rendered (directScanout : Bool)
  | empty
  | alreadySwapped
  | deviceInactive
  | permissionDenied
  | testFailed
  | temporaryFailure
  deriving DecidableEq

def RenderResult.reschedules : RenderResult → Bool
  | .deviceInactive | .permissionDenied | .testFailed => true
  | .rendered _ | .empty | .alreadySwapped | .temporaryFailure => false

/-- A rendering, and how long it took. -/
structure Rendering where
  result : RenderResult
  elapsed : Duration

structure FrameLoop where
  now : Nat
  mode : FrameMode
  /-- The rate follows the frames. -/
  vrrEnabled : Bool := false
  /-- Frames are made on another device than the one that shows them. -/
  copies : Bool := false
  surface : SurfaceData := {}
  timers : List FrameTimer := []
  nextToken : Nat := 0

inductive FrameObservation where
  | presented (time : Nat) (interval : Duration)
  | scheduled (target : Nat)
  | rendered (target : Nat) (result : RenderResult) (scheduled : Bool) (finished : Nat)
  | modeSet
  | reset

inductive FrameInput where
  | passed (time : Nat)
  | vblank (metadata : FrameMetadata) (result : SubmitResult)
  | fired (timer : FrameTimer) (result : SubmitResult) (rendering : Rendering)
  /-- A commit, an input or another change of the desktop. -/
  | redraw (rendering : Rendering)
  | modeSet (mode : FrameMode)
  | vrr (enabled : Bool)
  | resetPerformanceMetrics

namespace FrameLoop

variable (self : FrameLoop)

def remove (token : Option Nat) : FrameLoop :=
  { self with timers := self.timers.filter fun timer => some timer.token ≠ token }

def insert (due : Nat) (callback : FrameCallback) : FrameLoop :=
  { self with timers := self.timers ++ [⟨self.nextToken, due, callback⟩], nextToken := self.nextToken + 1 }

/-- What remains of the frame after the last presentation. -/
def vblankRemainingTime (clock : Nat) : Option Nat :=
  self.surface.lastPresentationTime.map fun last => self.mode.interval.nanos - (clock - last)

/-- Every frame interval has a budget, so none is made up. -/
def repaintDelay : Nat :=
  match self.surface.performance.repaintBudget self.mode.interval with
  | some budget => self.mode.interval.nanos - budget.nanos
  | none => 0

def schedule (clock : Nat) : FrameLoop × List FrameObservation :=
  let target := clock + self.mode.interval.nanos
  let delay := if self.vrrEnabled || self.copies then 0 else self.repaintDelay
  let surface := { self.surface with repaintTimer := some self.nextToken, repaintTarget := some target }
  ({ self with surface }.insert (self.now + delay) (.repaint target), [.scheduled target])

def present (clock : Nat) : FrameLoop :=
  { self with surface := { self.surface with lastPresentationTime := some clock } }

/-- What the end of a frame begins with. -/
def forget : FrameLoop :=
  { (self.remove self.surface.vblankThrottleTimer).remove self.surface.repaintTimer with
    surface := { self.surface with vblankThrottleTimer := none, repaintTimer := none, repaintTarget := none } }

def frameFinish (metadata : FrameMetadata) (result : SubmitResult) : FrameLoop × List FrameObservation :=
  let self := self.forget
  let tp := metadata.time.filter (· ≠ 0)
  let clock := tp.getD self.now
  let remaining : Nat := (self.vblankRemainingTime clock).getD 0
  if remaining > self.mode.interval.nanos / 2 then
    let throttled := (tp.map (· + remaining)).getD 0
    ({ self with surface := { self.surface with vblankThrottleTimer := some self.nextToken } }.insert
      (self.now + remaining) (.throttle metadata.sequence throttled), [])
  else
    let self := self.present clock
    let presented := [FrameObservation.presented clock self.mode.interval]
    if result.schedulesRender then
      let scheduled := self.schedule clock
      (scheduled.1, scheduled.2 ++ presented)
    else (self, presented)

/-- The counters never go past their last value. -/
def increment (count : UInt64) : UInt64 := UInt64.ofNat (min (count.toNat + 1) (2 ^ 64 - 1))

/-- What the metrics take of a rendering. -/
def record (surface : SurfaceData) (rendering : Rendering) (missed : Bool) : SurfaceData :=
  match rendering.result with
  | .rendered directScanout =>
      { surface with
        performance := { surface.performance with render := surface.performance.render.record rendering.elapsed }
        directScanoutFrames :=
          if directScanout then increment surface.directScanoutFrames else surface.directScanoutFrames
        composedFrames := if directScanout then surface.composedFrames else increment surface.composedFrames
        missedDeadlines := if missed then increment surface.missedDeadlines else surface.missedDeadlines }
  | .empty => { surface with emptyFrames := increment surface.emptyFrames }
  | _ => surface

def renderSurface (frameTarget : Nat) (rendering : Rendering) : FrameLoop × List FrameObservation :=
  let scheduledDeadline := self.surface.repaintTarget == some frameTarget
  let missedBeforeRender := scheduledDeadline && frameTarget ≤ self.now
  let now := self.now + rendering.elapsed.nanos
  let missed := scheduledDeadline && (missedBeforeRender || frameTarget ≤ now)
  let surface := record { self.surface with repaintTimer := none, repaintTarget := none } rendering missed
  let self := { self.remove self.surface.repaintTimer with now, surface }
  let rendered := [FrameObservation.rendered frameTarget rendering.result scheduledDeadline now]
  if rendering.result.reschedules then
    let next := frameTarget + 1000000 / self.mode.refresh.toNat * 1000000
    (self.insert (now + (next - now)) (.reschedule next), rendered)
  else (self, rendered)

/-- A timer is gone once it has fired. -/
def fired (timer : FrameTimer) (result : SubmitResult) (rendering : Rendering) :
    FrameLoop × List FrameObservation :=
  let self := self.remove (some timer.token)
  match timer.callback with
  | .throttle sequence time => self.frameFinish ⟨sequence, some time⟩ result
  | .repaint target =>
      { self with surface := { self.surface with repaintTimer := none } }.renderSurface target rendering
  | .reschedule target => self.renderSurface target rendering

def step (self : FrameLoop) : FrameInput → FrameLoop × List FrameObservation
  | .passed time => ({ self with now := self.now + time }, [])
  | .vblank metadata result => self.frameFinish metadata result
  | .fired timer result rendering => self.fired timer result rendering
  | .redraw rendering => self.renderSurface self.now rendering
  | .modeSet mode =>
      ({ self with mode, surface := { self.surface with lastPresentationTime := none } }, [.modeSet])
  | .vrr vrrEnabled => ({ self with vrrEnabled }, [])
  | .resetPerformanceMetrics =>
      ({ self with surface := { self.surface with
        performance := ⟨.default⟩
        directScanoutFrames := 0
        composedFrames := 0
        emptyFrames := 0
        missedDeadlines := 0 } }, [.reset])

/-- The hardware's times are of the past, and do not go back. -/
def Allowed (_ : List FrameObservation) (self : FrameLoop) : FrameInput → Prop
  | .vblank metadata _ => ∀ time, metadata.time = some time →
      time ≤ self.now ∧ ∀ last, self.surface.lastPresentationTime = some last → last ≤ time
  | .fired timer _ _ => timer ∈ self.timers ∧ timer.due ≤ self.now
  | _ => True

abbrev Run : List FrameObservation → FrameLoop → Prop :=
  Transition.Run step Allowed fun self => ∃ now mode copies, self = { now, mode, copies }

/-! ## Timers -/

variable {self}

/-- The timers that the surface remembers. -/
def tracked (self : FrameLoop) : List FrameTimer := self.timers.filter fun timer => timer.callback.isTracked

structure Numbered (loop : FrameLoop) : Prop where
  distinct : (loop.timers.map (·.token)).Nodup
  below : ∀ timer ∈ loop.timers, timer.token < loop.nextToken

theorem tracked_remove (self : FrameLoop) (token : Option Nat) :
    (self.remove token).tracked = self.tracked.filter fun timer => some timer.token ≠ token :=
  List.filter_comm _ _ _

@[simp] theorem remove_none (self : FrameLoop) : self.remove none = self := by
  unfold remove
  simp

theorem tracked_insert (self : FrameLoop) (due : Nat) (callback : FrameCallback) :
    (self.insert due callback).tracked =
      self.tracked ++ if callback.isTracked then [⟨self.nextToken, due, callback⟩] else [] := by
  unfold tracked insert
  cases kept : callback.isTracked <;> simp [kept]

theorem Numbered.remove (numbered : Numbered self) (token : Option Nat) : Numbered (self.remove token) where
  distinct := numbered.distinct.sublist (List.filter_sublist.map _)
  below timer member := numbered.below timer (List.mem_of_mem_filter member)

theorem Numbered.insert (numbered : Numbered self) (due : Nat) (callback : FrameCallback) :
    Numbered (self.insert due callback) where
  distinct := by
    unfold FrameLoop.insert
    rw [List.map_append]
    refine numbered.distinct.append (List.nodup_singleton _) ?_
    intro token old new
    obtain ⟨timer, member, rfl⟩ := List.mem_map.mp old
    exact absurd (List.mem_singleton.mp new) (Nat.ne_of_lt (numbered.below timer member))
  below timer member := by
    rcases List.mem_append.mp member with old | new
    · exact Nat.lt_succ_of_lt (numbered.below timer old)
    · rw [List.mem_singleton.mp new]
      exact Nat.lt_succ_self _

theorem remove_only {timer : FrameTimer} (only : self.tracked = [timer]) :
    (self.remove (some timer.token)).tracked = [] := by
  rw [tracked_remove, only]
  simp

/-- What the surface knows of the timer that it waits for. -/
def Remembers (loop : FrameLoop) (timer : FrameTimer) : Prop :=
  match timer.callback with
  | .throttle _ time => loop.surface.vblankThrottleTimer = some timer.token ∧ loop.surface.repaintTimer = none ∧
      loop.surface.repaintTarget = none ∧ time ≤ timer.due ∧ ∀ last, loop.surface.lastPresentationTime = some last →
        last + loop.mode.interval.nanos ≤ timer.due ∧ (time ≠ 0 → time = last + loop.mode.interval.nanos)
  | .repaint target => loop.surface.vblankThrottleTimer = none ∧ loop.surface.repaintTimer = some timer.token ∧
      loop.surface.repaintTarget = some target
  | .reschedule _ => False

/-- The surface waits for one timer, or for none. -/
inductive Phase (loop : FrameLoop) : Prop where
  | idle : loop.tracked = [] → loop.surface.vblankThrottleTimer = none → loop.surface.repaintTimer = none →
      loop.surface.repaintTarget = none → Phase loop
  | waiting (timer : FrameTimer) : loop.tracked = [timer] → loop.Remembers timer → Phase loop

theorem Phase.forget (phase : Phase self) : self.forget.tracked = [] := by
  change ((self.remove self.surface.vblankThrottleTimer).remove self.surface.repaintTimer).tracked = []
  cases phase with
  | idle none_ throttle repaint _ =>
    rw [throttle, repaint, remove_none, remove_none]
    exact none_
  | waiting timer only remembers =>
    unfold Remembers at remembers
    split at remembers
    · obtain ⟨throttle, repaint, -⟩ := remembers
      rw [throttle, repaint, remove_none]
      exact remove_only only
    · obtain ⟨throttle, repaint, -⟩ := remembers
      rw [throttle, repaint, remove_none]
      exact remove_only only
    · cases remembers

/-- A rendering takes the repaint that is scheduled, and leaves a blank that is throttled. -/
theorem Phase.release (phase : Phase self) (now : Nat) (surface : SurfaceData)
    (throttle : surface.vblankThrottleTimer = self.surface.vblankThrottleTimer)
    (last : surface.lastPresentationTime = self.surface.lastPresentationTime) (repaint : surface.repaintTimer = none)
    (target : surface.repaintTarget = none) : Phase { self.remove self.surface.repaintTimer with now, surface } := by
  cases phase with
  | idle none_ throttle' repaint' _ =>
    rw [repaint', remove_none]
    exact .idle none_ (throttle.trans throttle') repaint target
  | waiting timer only remembers =>
    cases kind : timer.callback with
    | throttle sequence time =>
      simp only [Remembers, kind] at remembers
      obtain ⟨throttle', repaint', -, due, early⟩ := remembers
      rw [repaint', remove_none]
      refine .waiting timer only ?_
      simp only [Remembers, kind, throttle, repaint, target, last]
      exact ⟨throttle', trivial, trivial, due, early⟩
    | repaint target' =>
      simp only [Remembers, kind] at remembers
      obtain ⟨throttle', repaint', -⟩ := remembers
      rw [repaint']
      exact .idle (remove_only only) (throttle.trans throttle') repaint target
    | reschedule target' =>
      simp only [Remembers, kind] at remembers

theorem Phase.congr (phase : Phase self) {loop : FrameLoop} (tracked : loop.tracked = self.tracked)
    (throttle : loop.surface.vblankThrottleTimer = self.surface.vblankThrottleTimer)
    (repaint : loop.surface.repaintTimer = self.surface.repaintTimer)
    (target : loop.surface.repaintTarget = self.surface.repaintTarget)
    (last : loop.surface.lastPresentationTime = self.surface.lastPresentationTime) (mode : loop.mode = self.mode) :
    Phase loop := by
  cases phase with
  | idle none_ throttle' repaint' target' =>
    exact .idle (tracked.trans none_) (throttle.trans throttle') (repaint.trans repaint') (target.trans target')
  | waiting timer only remembers =>
    refine .waiting timer (tracked.trans only) ?_
    unfold Remembers
    rw [throttle, repaint, target, last, mode]
    exact remembers

/-- A timer that the surface can remember is the one that it waits for. -/
theorem Phase.remembers (phase : Phase self) {timer : FrameTimer} (member : timer ∈ self.timers)
    (kind : timer.callback.isTracked = true) : self.Remembers timer := by
  have tracked : timer ∈ self.tracked := List.mem_filter.mpr ⟨member, kind⟩
  cases phase with
  | idle none_ =>
    rw [none_] at tracked
    cases tracked
  | waiting other only remembers =>
    rw [only] at tracked
    exact List.mem_singleton.mp tracked ▸ remembers

theorem Phase.throttle (none_ : self.tracked = []) (repaint : self.surface.repaintTimer = none)
    (target : self.surface.repaintTarget = none) (due : Nat) (sequence : Nat) (time : Nat) (timely : time ≤ due)
    (early : ∀ last, self.surface.lastPresentationTime = some last →
      last + self.mode.interval.nanos ≤ due ∧ (time ≠ 0 → time = last + self.mode.interval.nanos)) :
    Phase ({ self with surface := { self.surface with vblankThrottleTimer := some self.nextToken } }.insert due
      (.throttle sequence time)) := by
  refine .waiting ⟨self.nextToken, due, .throttle sequence time⟩ ?_ ⟨rfl, repaint, target, timely, early⟩
  rw [tracked_insert]
  exact congrArg (· ++ _) none_

theorem Phase.schedule (none_ : self.tracked = []) (throttle : self.surface.vblankThrottleTimer = none) (clock : Nat) :
    Phase (self.schedule clock).1 := by
  let due := self.now + if self.vrrEnabled || self.copies then 0 else self.repaintDelay
  refine .waiting ⟨self.nextToken, due, .repaint (clock + self.mode.interval.nanos)⟩ ?_ ⟨throttle, rfl, rfl⟩
  unfold FrameLoop.schedule
  dsimp only
  rw [tracked_insert]
  exact congrArg (· ++ _) none_

/-! ## What is observed -/

variable {history : List FrameObservation}

/-- The last presentation in the present mode. -/
def lastPresented : List FrameObservation → Option Nat
  | [] => none
  | .presented time _ :: _ => some time
  | .modeSet :: _ => none
  | _ :: earlier => lastPresented earlier

/-- Two presentations are half an interval apart at least. -/
def Spaced : FrameObservation → List FrameObservation → Prop
  | .presented time interval, earlier => ∀ last, lastPresented earlier = some last →
      last + (interval.nanos - interval.nanos / 2) ≤ time
  | _, _ => True

/-- A frame that was made for a deadline and was late for it. -/
def isMissed : FrameObservation → Bool
  | .rendered target (.rendered _) true finished => target ≤ finished
  | _ => false

/-- The deadlines that were missed since the metrics were cleared. -/
def missedSince : List FrameObservation → Nat
  | [] => 0
  | .reset :: _ => 0
  | observation :: earlier => missedSince earlier + (isMissed observation).toNat

def isScheduled : FrameObservation → Bool
  | .scheduled _ => true
  | _ => false

/-- A rendering that takes the deadline. -/
def isJudged : FrameObservation → Bool
  | .rendered _ _ scheduled _ => scheduled
  | _ => false

structure Kept (history : List FrameObservation) (loop : FrameLoop) : Prop where
  numbered : Numbered loop
  phase : Phase loop
  last : loop.surface.lastPresentationTime = lastPresented history
  past : ∀ last, loop.surface.lastPresentationTime = some last → last ≤ loop.now
  spaced : Transition.Throughout Spaced history
  judged : history.countP isJudged + loop.surface.repaintTarget.isSome.toNat ≤ history.countP isScheduled
  missed : loop.surface.missedDeadlines.toNat = min (missedSince history) (2 ^ 64 - 1)

theorem Kept.reschedule (kept : Kept history self) (due target : Nat) :
    Kept history (self.insert due (.reschedule target)) := by
  have same : (self.insert due (.reschedule target)).tracked = self.tracked := by
    rw [tracked_insert]
    exact List.append_nil _
  exact ⟨kept.numbered.insert _ _, kept.phase.congr same rfl rfl rfl rfl rfl, kept.last, kept.past, kept.spaced,
    kept.judged, kept.missed⟩

theorem increment_toNat (count : UInt64) : (increment count).toNat = min (count.toNat + 1) (2 ^ 64 - 1) := by
  unfold increment
  rw [UInt64.toNat_ofNat']
  omega

theorem record_eq (surface : SurfaceData) (rendering : Rendering) (missed : Bool) :
    ∃ performance directScanoutFrames composedFrames emptyFrames missedDeadlines,
      record surface rendering missed = { surface with
        performance
        directScanoutFrames
        composedFrames
        emptyFrames
        missedDeadlines } := by
  unfold record
  split <;> exact ⟨_, _, _, _, _, rfl⟩

theorem record_missedDeadlines (surface : SurfaceData) (rendering : Rendering) {target finished : Nat}
    {scheduled missed : Bool} (late : missed = (scheduled && target ≤ finished)) {count : Nat}
    (before : surface.missedDeadlines.toNat = min count (2 ^ 64 - 1)) :
    (record surface rendering missed).missedDeadlines.toNat =
      min (count + (isMissed (.rendered target rendering.result scheduled finished)).toNat) (2 ^ 64 - 1) := by
  unfold record
  cases rendering.result with
  | rendered directScanout =>
    have same : isMissed (.rendered target (.rendered directScanout) scheduled finished) = missed := by
      rw [late]
      cases scheduled <;> rfl
    rw [same]
    cases missed with
    | false => exact before
    | true =>
      dsimp only
      rw [if_pos rfl, increment_toNat, before, Bool.toNat_true]
      omega
  | _ => exact before

/-- A rendering without another to come. -/
theorem Kept.rendered (kept : Kept history self) (frameTarget now : Nat) (rendering : Rendering)
    (later : now = self.now + rendering.elapsed.nanos) {missed : Bool}
    (late : missed = (self.surface.repaintTarget == some frameTarget && frameTarget ≤ now)) :
    let surface := record { self.surface with repaintTimer := none, repaintTarget := none } rendering missed
    let loop := { self.remove self.surface.repaintTimer with now, surface }
    let observed := FrameObservation.rendered frameTarget rendering.result
      (self.surface.repaintTarget == some frameTarget) now
    Kept (observed :: history) loop := by
  intro surface loop observed
  have missing := record_missedDeadlines { self.surface with repaintTimer := none, repaintTarget := none } rendering
    late kept.missed
  obtain ⟨_, _, _, _, _, same⟩ :=
    record_eq { self.surface with repaintTimer := none, repaintTarget := none } rendering missed
  have last : surface.lastPresentationTime = self.surface.lastPresentationTime := by
    simp only [surface, same]
  have repaint : surface.repaintTimer = none := by simp only [surface, same]
  have target : surface.repaintTarget = none := by simp only [surface, same]
  have throttle : surface.vblankThrottleTimer = self.surface.vblankThrottleTimer := by simp only [surface, same]
  refine ⟨⟨(kept.numbered.remove _).distinct, (kept.numbered.remove _).below⟩,
    kept.phase.release now surface throttle last repaint target, last.trans kept.last, ?_, ⟨trivial, kept.spaced⟩, ?_,
    missing⟩
  · intro time presented
    change time ≤ now
    rw [later]
    exact Nat.le_add_right_of_le (kept.past time (last.symm.trans presented))
  · have judged := kept.judged
    change (observed :: history).countP isJudged + surface.repaintTarget.isSome.toNat ≤ _
    rw [target, List.countP_cons, List.countP_cons]
    cases took : self.surface.repaintTarget == some frameTarget with
    | false =>
      simp [observed, isJudged, isScheduled, took]
      omega
    | true =>
      rw [eq_of_beq took] at judged
      simp [observed, isJudged, isScheduled, took] at judged ⊢
      omega

theorem Kept.renderSurface (kept : Kept history self) (frameTarget : Nat) (rendering : Rendering) :
    Kept ((self.renderSurface frameTarget rendering).2 ++ history) (self.renderSurface frameTarget rendering).1 := by
  let now := self.now + rendering.elapsed.nanos
  have late : (self.surface.repaintTarget == some frameTarget &&
      ((self.surface.repaintTarget == some frameTarget && decide (frameTarget ≤ self.now)) ||
        decide (frameTarget ≤ now))) =
      (self.surface.repaintTarget == some frameTarget && decide (frameTarget ≤ now)) := by
    cases self.surface.repaintTarget == some frameTarget with
    | false => rfl
    | true =>
      rw [Bool.true_and, Bool.true_and, Bool.true_and, Bool.or_eq_right_iff_imp]
      intro passed
      exact decide_eq_true (Nat.le_add_right_of_le (of_decide_eq_true passed))
  have rendered := kept.rendered frameTarget now rendering rfl late
  unfold FrameLoop.renderSurface
  dsimp only
  split
  · exact rendered.reschedule _ _
  · exact rendered

theorem vblankRemainingTime_eq {clock last : Nat} (presented : self.surface.lastPresentationTime = some last) :
    (self.vblankRemainingTime clock).getD 0 = self.mode.interval.nanos - (clock - last) := by
  unfold vblankRemainingTime
  rw [presented]
  rfl

/-- Before the first presentation no blank is early. -/
theorem presented_of_early {clock bound : Nat} (early : (self.vblankRemainingTime clock).getD 0 > bound) :
    ∃ last, self.surface.lastPresentationTime = some last := by
  unfold vblankRemainingTime at early
  cases presented : self.surface.lastPresentationTime with
  | none =>
    rw [presented] at early
    exact absurd early (Nat.not_lt_zero bound)
  | some last => exact ⟨last, rfl⟩

/-- A blank that the end of the frame takes or throttles. -/
theorem Kept.frameFinish (kept : Kept history self) (metadata : FrameMetadata) (result : SubmitResult)
    (timely : ∀ time, metadata.time = some time → time ≠ 0 →
      time ≤ self.now ∧ ∀ last, self.surface.lastPresentationTime = some last → last ≤ time) :
    Kept ((self.frameFinish metadata result).2 ++ history) (self.frameFinish metadata result).1 := by
  have tracked := kept.phase.forget
  have numbered : Numbered self.forget :=
    ⟨((kept.numbered.remove _).remove _).distinct, ((kept.numbered.remove _).remove _).below⟩
  have unjudged : history.countP isJudged ≤ history.countP isScheduled :=
    Nat.le_of_add_right_le kept.judged
  let tp := metadata.time.filter (· ≠ 0)
  have clocked : tp.getD self.now ≤ self.now ∧
      ∀ last, self.surface.lastPresentationTime = some last → last ≤ tp.getD self.now := by
    cases given : tp with
    | none => exact ⟨Nat.le_refl _, kept.past⟩
    | some time =>
      obtain ⟨same, positive⟩ := Option.filter_eq_some_iff.mp given
      exact timely time same (of_decide_eq_true positive)
  unfold FrameLoop.frameFinish
  dsimp only
  split
  · rename_i early
    obtain ⟨last, presented⟩ := presented_of_early early
    rw [vblankRemainingTime_eq presented] at early ⊢
    obtain ⟨past, later⟩ := clocked
    have ordered := later last presented
    have soon : self.mode.interval.nanos - (tp.getD self.now - last) > self.mode.interval.nanos / 2 := early
    refine ⟨⟨(numbered.insert _ _).distinct, (numbered.insert _ _).below⟩, Phase.throttle tracked rfl rfl _ _ _ ?_ ?_,
      kept.last, kept.past, kept.spaced, unjudged, kept.missed⟩
    · -- a time of the hardware is of the past, and none is put off by nothing
      show (tp.map (· + _)).getD 0 ≤ _
      cases given : tp with
      | none => exact Nat.zero_le _
      | some time =>
        rw [given] at past
        exact Nat.add_le_add_right past _
    · intro before presented'
      obtain rfl : before = last := Option.some.inj (presented'.symm.trans presented)
      show before + self.mode.interval.nanos ≤ self.now + (self.mode.interval.nanos - (tp.getD self.now - before)) ∧
        ((tp.map (· + (self.mode.interval.nanos - (tp.getD self.now - before)))).getD 0 ≠ 0 →
          (tp.map (· + (self.mode.interval.nanos - (tp.getD self.now - before)))).getD 0 =
            before + self.mode.interval.nanos)
      refine ⟨by omega, fun timed => ?_⟩
      cases given : tp with
      | none =>
        rw [given] at timed
        exact absurd rfl timed
      | some time =>
        rw [given, Option.getD_some] at ordered soon
        show time + (self.mode.interval.nanos - (time - before)) = before + self.mode.interval.nanos
        omega
  · rename_i late
    have spaced : ∀ last, lastPresented history = some last →
        last + (self.mode.interval.nanos - self.mode.interval.nanos / 2) ≤ tp.getD self.now := by
      intro last presented
      rw [← kept.last] at presented
      rw [@vblankRemainingTime_eq self.forget _ _ presented] at late
      have before := clocked.2 last presented
      change ¬self.mode.interval.nanos - (tp.getD self.now - last) > self.mode.interval.nanos / 2 at late
      omega
    have untracked : (self.forget.present (tp.getD self.now)).tracked = [] := tracked
    split
    · refine ⟨⟨(numbered.insert _ _).distinct, (numbered.insert _ _).below⟩, Phase.schedule untracked rfl _, rfl, ?_,
        ⟨trivial, spaced, kept.spaced⟩, ?_, kept.missed⟩
      · rintro _ ⟨⟩
        exact clocked.1
      · change List.countP isJudged (.scheduled _ :: .presented _ _ :: history) + 1 ≤
          List.countP isScheduled (.scheduled _ :: .presented _ _ :: history)
        simpa [List.countP_cons, isJudged, isScheduled] using unjudged
    · refine ⟨⟨numbered.distinct, numbered.below⟩, .idle tracked rfl rfl rfl, rfl, ?_, ⟨spaced, kept.spaced⟩, unjudged,
        kept.missed⟩
      rintro _ ⟨⟩
      exact clocked.1

/-! ## Timers that fire -/

theorem remove_remove (self : FrameLoop) (token : Option Nat) :
    (self.remove token).remove token = self.remove token := by
  unfold remove
  simp

/-- The timer of a blank that was throttled ends the frame, as the blank would have. -/
theorem fired_throttle {timer : FrameTimer} {sequence time : Nat} (kind : timer.callback = .throttle sequence time)
    (remembered : self.surface.vblankThrottleTimer = some timer.token) (result : SubmitResult) (rendering : Rendering) :
    self.fired timer result rendering = self.frameFinish ⟨sequence, some time⟩ result := by
  have twice : (self.remove (some timer.token)).remove self.surface.vblankThrottleTimer =
      self.remove self.surface.vblankThrottleTimer := by
    rw [remembered, remove_remove]
  have same : (self.remove (some timer.token)).forget = self.forget :=
    congrArg (fun loop => ({ loop.remove self.surface.repaintTimer with
      surface := { self.surface with vblankThrottleTimer := none, repaintTimer := none, repaintTarget := none } } :
        FrameLoop)) twice
  unfold fired frameFinish
  rw [kind]
  dsimp only
  rw [same]

theorem fired_repaint {timer : FrameTimer} {target : Nat} (kind : timer.callback = .repaint target)
    (remembered : self.surface.repaintTimer = some timer.token) (result : SubmitResult) (rendering : Rendering) :
    self.fired timer result rendering = self.renderSurface target rendering := by
  unfold fired renderSurface
  rw [kind]
  dsimp only
  rw [remove_none, remembered]
  rfl

/-- A repaint after a failure is taken, and what it renders follows. -/
theorem Kept.retried (kept : Kept history self) {timer : FrameTimer} {target : Nat} (member : timer ∈ self.timers)
    (kind : timer.callback = .reschedule target) : Kept history (self.remove (some timer.token)) := by
  have apart : ∀ other ∈ self.tracked, some other.token ≠ some timer.token := by
    intro other there same
    obtain ⟨here, tracked⟩ := List.mem_filter.mp there
    have one := List.inj_on_of_nodup_map kept.numbered.distinct here member (Option.some.inj same)
    rw [one, kind] at tracked
    cases tracked
  have same : (self.remove (some timer.token)).tracked = self.tracked := by
    rw [tracked_remove]
    exact List.filter_eq_self.mpr fun other there => decide_eq_true (apart other there)
  exact ⟨kept.numbered.remove _, kept.phase.congr same rfl rfl rfl rfl rfl, kept.last, kept.past, kept.spaced,
    kept.judged, kept.missed⟩

theorem Kept.modeSet (kept : Kept history self) (mode : FrameMode) :
    Kept (.modeSet :: history) { self with mode, surface := { self.surface with lastPresentationTime := none } } where
  numbered := ⟨kept.numbered.distinct, kept.numbered.below⟩
  phase := by
    cases kept.phase with
    | idle none_ throttle repaint target => exact .idle none_ throttle repaint target
    | waiting timer only remembers =>
      refine .waiting timer only ?_
      unfold Remembers at remembers ⊢
      split at remembers
      · obtain ⟨throttle, repaint, target, due, -⟩ := remembers
        exact ⟨throttle, repaint, target, due, nofun⟩
      · exact remembers
      · exact remembers
  last := rfl
  past _ presented := nomatch presented
  spaced := ⟨trivial, kept.spaced⟩
  judged := kept.judged
  missed := kept.missed

theorem Kept.step (kept : Kept history self) (input : FrameInput) (allowed : Allowed history self input) :
    Kept ((step self input).2 ++ history) (step self input).1 := by
  cases input with
  | passed time =>
    exact ⟨⟨kept.numbered.distinct, kept.numbered.below⟩, kept.phase.congr rfl rfl rfl rfl rfl rfl, kept.last,
      fun last presented => Nat.le_add_right_of_le (kept.past last presented), kept.spaced, kept.judged, kept.missed⟩
  | vblank metadata result => exact kept.frameFinish metadata result fun time given _ => allowed time given
  | fired timer result rendering =>
    obtain ⟨member, due⟩ := allowed
    change Kept ((self.fired timer result rendering).2 ++ history) (self.fired timer result rendering).1
    cases kind : timer.callback with
    | throttle sequence time =>
      have remembers := kept.phase.remembers member (by rw [kind]; rfl)
      simp only [Remembers, kind] at remembers
      obtain ⟨remembered, -, -, past, early⟩ := remembers
      rw [fired_throttle kind remembered]
      refine kept.frameFinish _ result ?_
      rintro _ ⟨⟩ timed
      refine ⟨Nat.le_trans past due, fun last presented => ?_⟩
      rw [(early last presented).2 timed]
      exact Nat.le_add_right _ _
    | repaint target =>
      have remembers := kept.phase.remembers member (by rw [kind]; rfl)
      simp only [Remembers, kind] at remembers
      rw [fired_repaint kind remembers.2.1]
      exact kept.renderSurface target rendering
    | reschedule target =>
      have taken := (kept.retried member kind).renderSurface target rendering
      unfold FrameLoop.fired
      rw [kind]
      exact taken
  | redraw rendering => exact kept.renderSurface self.now rendering
  | modeSet mode => exact kept.modeSet mode
  | vrr enabled =>
    exact ⟨⟨kept.numbered.distinct, kept.numbered.below⟩, kept.phase.congr rfl rfl rfl rfl rfl rfl, kept.last,
      kept.past, kept.spaced, kept.judged, kept.missed⟩
  | resetPerformanceMetrics =>
    exact ⟨⟨kept.numbered.distinct, kept.numbered.below⟩, kept.phase.congr rfl rfl rfl rfl rfl rfl, kept.last,
      kept.past, ⟨trivial, kept.spaced⟩, kept.judged, rfl⟩

/-! ## Runs -/

theorem Run.kept (run : Run history self) : Kept history self := by
  refine Transition.Run.invariant ?_ (fun _ _ input _ allowed kept => kept.step input allowed) run
  rintro _ ⟨now, mode, copies, rfl⟩
  exact ⟨⟨List.nodup_nil, fun _ member => absurd member List.not_mem_nil⟩, .idle rfl rfl rfl rfl, rfl,
    (fun _ presented => nomatch presented), trivial, Nat.le_refl _, rfl⟩

/-- A blank that is not early is presented. -/
theorem presented_of_late {metadata : FrameMetadata} (result : SubmitResult)
    (late : ∀ last, self.surface.lastPresentationTime = some last →
      last + self.mode.interval.nanos ≤ (metadata.time.filter (· ≠ 0)).getD self.now) :
    .presented ((metadata.time.filter (· ≠ 0)).getD self.now) self.mode.interval ∈
      (self.frameFinish metadata result).2 := by
  have notEarly : ¬(self.forget.vblankRemainingTime ((metadata.time.filter (· ≠ 0)).getD self.forget.now)).getD 0 >
      self.forget.mode.interval.nanos / 2 := by
    intro early
    obtain ⟨last, presented⟩ := presented_of_early early
    rw [vblankRemainingTime_eq presented] at early
    have whole := late last presented
    change self.mode.interval.nanos - ((metadata.time.filter (· ≠ 0)).getD self.now - last) >
      self.mode.interval.nanos / 2 at early
    omega
  unfold frameFinish
  dsimp only
  rw [if_neg notEarly]
  split
  · exact List.mem_append_right _ (List.mem_singleton_self _)
  · exact List.mem_singleton_self _

/-- Presentations in one mode are half an interval apart at least. A blank that is throttled is presented when its
timer fires, one interval after the last presentation, and is not throttled again. -/
theorem presentations_spaced (run : Run history self) : Transition.Throughout Spaced history ∧
    ∀ timer ∈ self.timers, ∀ sequence time, timer.callback = .throttle sequence time → timer.due ≤ self.now →
      ∀ result rendering, ∃ clock,
        .presented clock self.mode.interval ∈ (step self (.fired timer result rendering)).2 ∧
          ∀ last, self.surface.lastPresentationTime = some last →
            last + self.mode.interval.nanos ≤ clock ∧ (time ≠ 0 → clock = last + self.mode.interval.nanos) := by
  refine ⟨run.kept.spaced, fun timer member sequence time kind due result rendering => ?_⟩
  have remembers := run.kept.phase.remembers member (by rw [kind]; rfl)
  simp only [Remembers, kind] at remembers
  obtain ⟨remembered, -, -, past, early⟩ := remembers
  have fires : step self (.fired timer result rendering) = self.frameFinish ⟨sequence, some time⟩ result :=
    fired_throttle kind remembered result rendering
  have clocked : ∀ last, self.surface.lastPresentationTime = some last →
      last + self.mode.interval.nanos ≤ ((some time).filter (· ≠ 0)).getD self.now ∧
        (time ≠ 0 → ((some time).filter (· ≠ 0)).getD self.now = last + self.mode.interval.nanos) := by
    intro last presented
    obtain ⟨waited, precise⟩ := early last presented
    by_cases timed : time = 0
    · rw [timed]
      exact ⟨Nat.le_trans waited due, fun wrong => absurd rfl wrong⟩
    · have same : ((some time).filter (· ≠ 0)).getD self.now = time :=
        congrArg (Option.getD · self.now) (Option.filter_eq_some_iff.mpr ⟨rfl, decide_eq_true timed⟩)
      rw [same]
      exact ⟨Nat.le_of_eq (precise timed).symm, precise⟩
  rw [fires]
  exact ⟨_, presented_of_late result fun last presented => (clocked last presented).1, clocked⟩

/-- A blank comes a millisecond after the last one, and is presented when that frame is over. -/
theorem presentations_spaced_throttled : ∃ history self timer, Run history self ∧ timer ∈ self.timers ∧
    self.surface.lastPresentationTime = some 100000000 ∧ ∃ clock,
      .presented clock sixtieth ∈ (step self (.fired timer .submitted ⟨.empty, sixtieth⟩)).2 ∧ clock = 116666667 := by
  let mode : FrameMode := ⟨60000, sixtieth, by decide +kernel⟩
  let inputs : List FrameInput := [.passed 100000000, .vblank ⟨1, some 100000000⟩ .submitted, .passed 1000000,
    .vblank ⟨2, some 101000000⟩ .submitted, .passed 20000000]
  have permits : Transition.Permits step Allowed [] { now := 0, mode } inputs := by
    refine ⟨trivial, ?_, trivial, ?_, trivial, trivial⟩
    · rintro _ ⟨⟩
      exact ⟨by decide +kernel, fun _ presented => nomatch presented⟩
    · rintro _ ⟨⟩
      refine ⟨by decide +kernel, fun last presented => ?_⟩
      cases presented
      decide
  let timer : FrameTimer := ⟨1, 116666667, .throttle 2 116666667⟩
  have reached : ∃ history self, Run history self ∧ timer ∈ self.timers ∧ self.now = 121000000 ∧
      self.surface.lastPresentationTime = some 100000000 ∧ self.mode.interval = sixtieth :=
    ⟨_, _, .execute inputs (.start ⟨0, mode, false, rfl⟩) permits, by decide +kernel, by decide +kernel,
      by decide +kernel, by decide +kernel⟩
  obtain ⟨history, self, run, member, now, last, interval⟩ := reached
  obtain ⟨-, ends⟩ := presentations_spaced run
  have due : timer.due ≤ self.now := by
    rw [now]
    decide
  obtain ⟨clock, presented, waited⟩ := ends timer member 2 116666667 rfl due .submitted ⟨.empty, sixtieth⟩
  obtain ⟨-, same⟩ := waited 100000000 last
  rw [interval] at presented same
  exact ⟨history, self, timer, run, member, last, clock, presented, same (by decide)⟩

/-- A surface remembers one timer at most, and a deadline exactly while the timer of its repaint is there. A deadline
is judged once at most, and the counter has those that were missed. -/
theorem deadlines_judged (run : Run history self) : self.tracked.length ≤ 1 ∧
    (∀ target, self.surface.repaintTarget = some target ↔ ∃ timer ∈ self.timers, timer.callback = .repaint target) ∧
    self.surface.missedDeadlines.toNat = min (missedSince history) (2 ^ 64 - 1) ∧
    history.countP isJudged + self.surface.repaintTarget.isSome.toNat ≤ history.countP isScheduled := by
  refine ⟨?_, fun target => ⟨fun scheduled => ?_, ?_⟩, run.kept.missed, run.kept.judged⟩
  · cases run.kept.phase with
    | idle none_ => rw [none_]; exact Nat.zero_le _
    | waiting timer only => rw [only]; exact Nat.le_refl _
  · cases run.kept.phase with
    | idle _ _ _ unscheduled => exact nomatch unscheduled.symm.trans scheduled
    | waiting timer only remembers =>
      have member : timer ∈ self.tracked := only ▸ List.mem_singleton_self timer
      refine ⟨timer, List.mem_of_mem_filter member, ?_⟩
      unfold Remembers at remembers
      split at remembers
      · exact nomatch remembers.2.2.1.symm.trans scheduled
      · rename_i kind
        rw [kind, Option.some.inj (remembers.2.2.symm.trans scheduled)]
      · cases remembers
  · rintro ⟨timer, member, kind⟩
    have remembers := run.kept.phase.remembers member (by rw [kind]; rfl)
    simp only [Remembers, kind] at remembers
    exact remembers.2.2

/-- A rendering takes a whole interval, and the deadline passes. -/
theorem deadlines_judged_late : ∃ history self, Run history self ∧ missedSince history = 1 ∧
    self.surface.missedDeadlines.toNat = 1 ∧ history.countP isJudged = 1 ∧
    history.countP isJudged ≤ history.countP isScheduled := by
  let mode : FrameMode := ⟨60000, sixtieth, by decide +kernel⟩
  let timer : FrameTimer := ⟨0, 110000001, .repaint 116666667⟩
  let inputs : List FrameInput := [.passed 100000000, .vblank ⟨1, some 100000000⟩ .submitted, .passed 12000000,
    .fired timer .submitted ⟨.rendered false, sixtieth⟩]
  have permits : Transition.Permits step Allowed [] { now := 0, mode } inputs := by
    refine ⟨trivial, ?_, trivial, ⟨by decide +kernel, by decide +kernel⟩, trivial⟩
    rintro _ ⟨⟩
    exact ⟨by decide +kernel, fun _ presented => nomatch presented⟩
  have reached : ∃ history self, Run history self ∧ missedSince history = 1 ∧ history.countP isJudged = 1 :=
    ⟨_, _, .execute inputs (.start ⟨0, mode, false, rfl⟩) permits, by decide +kernel, by decide +kernel⟩
  obtain ⟨history, self, run, late, judged⟩ := reached
  obtain ⟨-, -, missed, once⟩ := deadlines_judged run
  rw [late] at missed
  exact ⟨history, self, run, late, missed, judged, Nat.le_of_add_right_le once⟩

end FrameLoop

end Luma.Compositor.Udev
