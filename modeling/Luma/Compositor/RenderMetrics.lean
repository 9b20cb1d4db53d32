import Luma.Library.Duration
import Luma.Library.RecentRing

/-! The measured render times of an output, and the time that a repaint is given. -/

set_option autoImplicit false

namespace Luma.Compositor

open Luma.Library

def performanceSampleCount : Nat := 256

structure DurationSamples where
  values : List UInt32
  len : Nat
  next : Nat
  size : values.length = performanceSampleCount
  fills : RecentRing.Fills performanceSampleCount len next

namespace DurationSamples

def default : DurationSamples where
  values := List.replicate performanceSampleCount 0
  len := 0
  next := 0
  size := List.length_replicate
  fills := .start (by decide)

variable (self : DurationSamples)

/-- What is kept of a duration. -/
def sample (duration : Duration) : UInt32 := UInt32.ofNat (min duration.asMicros (2 ^ 32 - 1))

def record (duration : Duration) : DurationSamples where
  values := self.values.set self.next (sample duration)
  next := (self.next + 1) % performanceSampleCount
  len := min (self.len + 1) performanceSampleCount
  size := by rw [List.length_set, self.size]
  fills := self.fills.step

/-- Fails where the rank is not below the number of values. -/
def percentile (percentile : Nat) : Option UInt32 :=
  if self.len = 0 then some 0
  else
    let values := (self.values.take self.len).mergeSort
    let index := (values.length - 1) * percentile / 100
    values[index]?

end DurationSamples

structure OutputPerformanceMetrics where
  render : DurationSamples

namespace OutputPerformanceMetrics

variable (self : OutputPerformanceMetrics)

def repaintBudget (frameDuration : Duration) : Option Duration :=
  if self.render.len < 8 then do
    let doubled ← frameDuration.mul 2
    return doubled.div 5
  else do
    let measured := Duration.fromMicros (← self.render.percentile 95).toUInt64
    let safety := Duration.fromMicros 250
    let wanted ← measured.add safety
    let fourfold ← frameDuration.mul 4
    wanted.clamp (frameDuration.div 5) (fourfold.div 5)

end OutputPerformanceMetrics

/-- The frame interval of a mode, from its refresh rate in millihertz. Without a positive rate there is none. -/
def frameDuration (refresh : Int) : Option Duration :=
  if refresh ≤ 0 then none else Duration.fromSecs (Rounding.nearestDouble (1000 / refresh))

/-! ## Percentiles -/

namespace DurationSamples

/-- The values in the order in which they were recorded. -/
def recent (self : DurationSamples) : List UInt32 := RecentRing.recent self.values self.len self.next

def recorded (durations : List Duration) : DurationSamples := durations.foldl record default

/-- What was recorded last, as often as there is room for it. -/
def lastSamples (durations : List Duration) : List UInt32 :=
  (durations.map sample).rtake performanceSampleCount

/-- The value of the percentile's rank in the sorted list, or zero without values. -/
def IsPercentile (values : List UInt32) (percentile : Nat) (value : UInt32) : Prop :=
  if values = [] then value = 0
  else ∃ sorted : List UInt32, sorted.Perm values ∧ sorted.Pairwise (fun first second => first ≤ second) ∧
    sorted[(values.length - 1) * percentile / 100]? = some value

theorem record_recent (self : DurationSamples) (duration : Duration) :
    (self.record duration).recent = (self.recent ++ [sample duration]).rtake performanceSampleCount :=
  RecentRing.recent_set self.fills self.size _

theorem recorded_recent (durations : List Duration) : (recorded durations).recent = lastSamples durations := by
  induction durations using List.reverseRecOn with
  | nil => rfl
  | append_singleton durations duration ih =>
    have more : recorded (durations ++ [duration]) = (recorded durations).record duration := List.foldl_concat ..
    rw [more, record_recent, ih, lastSamples, lastSamples, List.map_append, RecentRing.rtake_rtake_concat]
    rfl

theorem length_lastSamples (durations : List Duration) :
    (lastSamples durations).length = min durations.length performanceSampleCount := by
  rw [lastSamples, List.rtake, List.length_drop, List.length_map]
  omega

theorem length_take (self : DurationSamples) : (self.values.take self.len).length = self.len := by
  rw [List.length_take, self.size, Nat.min_eq_left self.fills.bound]

theorem perm_recent (self : DurationSamples) : (self.values.take self.len).Perm self.recent :=
  RecentRing.recent_perm _ _ _

theorem pairwise_mergeSort (values : List UInt32) :
    values.mergeSort.Pairwise fun first second => first ≤ second := by
  have sorted : values.mergeSort.Pairwise fun first second => decide (first ≤ second) = true := by
    apply List.pairwise_mergeSort
    · intro first second third before behind
      exact decide_eq_true (UInt32.le_trans (of_decide_eq_true before) (of_decide_eq_true behind))
    · intro first second
      simpa using UInt32.le_total first second
  exact sorted.imp of_decide_eq_true

theorem percentile_isPercentile (self : DurationSamples) (percentile : Nat) (whole : percentile ≤ 100) :
    ∃ value, self.percentile percentile = some value ∧ IsPercentile self.recent percentile value := by
  have stored := self.perm_recent
  have counted : self.recent.length = self.len := stored.length_eq.symm.trans self.length_take
  unfold DurationSamples.percentile IsPercentile
  by_cases unused : self.len = 0
  · have none_ : self.recent = [] := List.length_eq_zero_iff.mp (counted.trans unused)
    exact ⟨0, if_pos unused, by rw [if_pos none_]⟩
  · have some_ : self.recent ≠ [] := by
      intro none_
      rw [none_] at counted
      exact unused counted.symm
    have rank : (self.len - 1) * percentile / 100 < self.len := by
      have bound : (self.len - 1) * percentile ≤ (self.len - 1) * 100 := Nat.mul_le_mul_left _ whole
      omega
    have inside : (self.len - 1) * percentile / 100 < (self.values.take self.len).mergeSort.length := by
      rw [List.length_mergeSort, self.length_take]
      exact rank
    refine ⟨(self.values.take self.len).mergeSort[(self.len - 1) * percentile / 100], ?_, ?_⟩
    · rw [if_neg unused]
      dsimp only
      rw [List.length_mergeSort, self.length_take]
      exact List.getElem?_eq_getElem inside
    · rw [if_neg some_, counted]
      exact ⟨_, (List.mergeSort_perm _ _).trans stored, pairwise_mergeSort _, List.getElem?_eq_getElem inside⟩

end DurationSamples

/-! ## Budgets -/

/-- One fifth, in whole nanoseconds, to four fifths of a frame interval. -/
def WithinFifths (frame budget : Duration) : Prop :=
  (frame.div 5).nanos ≤ budget.nanos ∧ 5 * budget.nanos ≤ 4 * frame.nanos

namespace OutputPerformanceMetrics

/-- The measured time and the margin are always added without a failure. -/
theorem exists_wanted (value : UInt32) :
    ∃ wanted, (Duration.fromMicros value.toUInt64).add (Duration.fromMicros 250) = some wanted := by
  refine ⟨_, Duration.ofNanos_of_lt ?_⟩
  have bound := value.toNat_lt
  have wide : value.toUInt64.toNat = value.toNat := UInt32.toNat_toUInt64 value
  unfold durationLimit
  simp only [Duration.fromMicros, wide]
  show value.toNat * 1000 + 250 * 1000 < _
  omega

theorem repaintBudget_of_few {self : OutputPerformanceMetrics} (few : self.render.len < 8) (frame : Duration) :
    self.repaintBudget frame = (frame.mul 2).map fun doubled => doubled.div 5 := by
  rw [repaintBudget, if_pos few]
  cases frame.mul 2 <;> rfl

theorem repaintBudget_of_many {self : OutputPerformanceMetrics} (many : ¬self.render.len < 8) (frame : Duration) :
    ∃ wanted : Duration, self.repaintBudget frame = (frame.mul 4).bind fun fourfold =>
      wanted.clamp (frame.div 5) (fourfold.div 5) := by
  obtain ⟨value, percentile, -⟩ := self.render.percentile_isPercentile 95 (by decide)
  obtain ⟨wanted, added⟩ := exists_wanted value
  have steps : self.repaintBudget frame = (self.render.percentile 95).bind fun value =>
      ((Duration.fromMicros value.toUInt64).add (Duration.fromMicros 250)).bind fun wanted =>
        (frame.mul 4).bind fun fourfold => wanted.clamp (frame.div 5) (fourfold.div 5) := if_neg many
  exact ⟨wanted, by rw [steps, percentile, Option.bind_some, added, Option.bind_some]⟩

/-- A budget is within the fifths, and only an interval whose fourfold overflows has none. -/
theorem repaintBudget_cases (self : OutputPerformanceMetrics) (frame : Duration) :
    (∃ budget, self.repaintBudget frame = some budget ∧ WithinFifths frame budget) ∨
      self.repaintBudget frame = none ∧ durationLimit ≤ 4 * frame.nanos := by
  by_cases few : self.render.len < 8
  · rw [repaintBudget_of_few few]
    cases made : frame.mul 2 with
    | none =>
      have large := Duration.ofNanos_eq_none made
      exact .inr ⟨rfl, by omega⟩
    | some doubled =>
      have twice := Duration.ofNanos_eq_some made
      refine .inl ⟨_, rfl, ?_⟩
      unfold WithinFifths
      rw [Duration.div_nanos, Duration.div_nanos, twice]
      omega
  · obtain ⟨wanted, same⟩ := repaintBudget_of_many few frame
    rw [same]
    cases made : frame.mul 4 with
    | none =>
      have large := Duration.ofNanos_eq_none made
      exact .inr ⟨rfl, by omega⟩
    | some fourfold =>
      have times := Duration.ofNanos_eq_some made
      have ordered : (frame.div 5).nanos ≤ (fourfold.div 5).nanos := by
        rw [Duration.div_nanos, Duration.div_nanos, times]
        omega
      obtain ⟨budget, clamped, low, high⟩ := wanted.exists_clamp ordered
      refine .inl ⟨budget, clamped, low, ?_⟩
      rw [Duration.div_nanos, times] at high
      omega

end OutputPerformanceMetrics

/-- No frame interval is much longer than a thousand seconds. -/
theorem frameDuration_fits {refresh : Int} {frame : Duration} (given : frameDuration refresh = some frame) :
    4 * frame.nanos < durationLimit := by
  unfold frameDuration at given
  split at given
  · cases given
  · rename_i positive
    have one : (1 : ℚ) ≤ refresh := by exact_mod_cast Int.not_le.mp positive
    have secs : (0 : ℚ) < 1000 / refresh ∧ 1000 / (refresh : ℚ) ≤ 1000 :=
      ⟨by positivity, div_le_self (by norm_num) one⟩
    have near := (abs_le.mp (Rounding.nearestDouble_near secs.1 (secs.2.trans_lt (by norm_num)))).2
    have upTo : Rounding.nearestDouble (1000 / refresh) ≤ (1001 : Nat) := by
      push_cast
      linarith [secs.2]
    have short := Duration.fromSecs_le given upTo
    unfold durationLimit
    omega

/-- After any recorded durations every percentile is that of the last ones. Whatever was recorded, every frame
interval has a budget between its fifths, and of all durations only those whose fourfold overflows have none. -/
theorem recorded_percentiles (durations : List Duration) :
    (DurationSamples.lastSamples durations).length = min durations.length performanceSampleCount ∧
      (∀ percentile ≤ 100, ∃ value, (DurationSamples.recorded durations).percentile percentile = some value ∧
        DurationSamples.IsPercentile (DurationSamples.lastSamples durations) percentile value) ∧
      ∀ metrics : OutputPerformanceMetrics,
        (∀ refresh frame, frameDuration refresh = some frame →
          ∃ budget, metrics.repaintBudget frame = some budget ∧ WithinFifths frame budget) ∧
        ∀ frame, (∃ budget, metrics.repaintBudget frame = some budget ∧ WithinFifths frame budget) ∨
          metrics.repaintBudget frame = none ∧ durationLimit ≤ 4 * frame.nanos := by
  refine ⟨DurationSamples.length_lastSamples durations, ?_, fun metrics => ⟨?_, metrics.repaintBudget_cases⟩⟩
  · intro percentile whole
    rw [← DurationSamples.recorded_recent]
    exact DurationSamples.percentile_isPercentile _ percentile whole
  · intro refresh frame given
    rcases metrics.repaintBudget_cases frame with budget | ⟨-, overflows⟩
    · exact budget
    · exact absurd (frameDuration_fits given) (Nat.not_lt.mpr overflows)

/-- The frame interval of a mode of 60 hertz. -/
def sixtieth : Duration := ⟨16666667, by decide⟩

theorem recorded_percentiles_sixtieth :
    (∃ value, (DurationSamples.recorded (List.replicate 8 sixtieth)).percentile 95 = some value ∧
      DurationSamples.IsPercentile (DurationSamples.lastSamples (List.replicate 8 sixtieth)) 95 value) ∧
      ∃ budget, OutputPerformanceMetrics.repaintBudget ⟨.recorded (List.replicate 8 sixtieth)⟩ sixtieth = some budget ∧
        WithinFifths sixtieth budget := by
  obtain ⟨-, percentiles, budgets⟩ := recorded_percentiles (List.replicate 8 sixtieth)
  have rate : frameDuration 60000 = some sixtieth := by decide +kernel
  exact ⟨percentiles 95 (by decide), (budgets _).1 60000 sixtieth rate⟩

end Luma.Compositor
