import Luma.Recorder.EngineEffects

/-! The frames of a recording paced by its clock.

Whatever is captured, paused or missed, the encoder's source takes frames of
growing indices that do not overlap, and every index up to the last one is
written or counted as unfilled.
-/

set_option autoImplicit false

namespace Luma.Recorder.Engine

open Luma.Library Luma.Library.Transition

def inputOf : Observation → Option EncoderInput
  | .pushed input => some input
  | _ => none

/-- What the encoder's source has taken, oldest first. -/
def encoderInput (history : List Observation) : List EncoderInput := chronicle inputOf history

def indices (history : List Observation) : List Nat := (encoderInput history).map (·.index)

/-- No capture is a year behind the first one. -/
def WithinYear : Condition Engine Turn Observation := fun _ engine _ =>
  match engine.worker with
  | .holding input => engine.encoder.elapsedNs input.presentationNs < oneYearNs
  | _ => True

instance (history : List Observation) (engine : Engine) (turn : Turn) : Decidable (WithinYear history engine turn) := by
  unfold WithinYear
  split <;> infer_instance

/-- A skipped capture fell on or before a frame already written. -/
def SkipsBehind (observation : Observation) (earlier : List Observation) : Prop :=
  ∀ index, observation = .skipped index → ∃ input ∈ encoderInput earlier, index ≤ input.index

structure Timeline (fps : Nat) (history : List Observation) (engine : Engine) : Prop where
  ascending : (encoderInput history).Pairwise fun earlier later =>
    earlier.index < later.index ∧ earlier.ptsNs + earlier.durationNs ≤ later.ptsNs
  lasting : ∀ input ∈ encoderInput history, 0 < input.durationNs
  /-- A push under way has written the frames from its first index on. -/
  duplicates : ∀ input plan index, engine.worker = .pushing input plan index →
    plan.firstIndex ≤ index ∧ index ≤ plan.frameIndex + 1 ∧ plan.frameIndex ≤ plan.firstIndex + fps ∧
      ∃ before, indices history = before ++ List.range' plan.firstIndex (index - plan.firstIndex) ∧
        engine.stats.encodedFrames = before.length ∧ engine.encoder.lastFrameIndex = before.getLast?
  skips : Throughout SkipsBehind history
  unstarted : engine.encoder.lastFrameIndex = none → engine.stats.encodedFrames = 0 ∧ engine.stats.unfilledFrames = 0
  accounted : ∀ last, engine.encoder.lastFrameIndex = some last → ∃ first, (indices history).head? = some first ∧
    first ≤ last ∧ engine.stats.encodedFrames + engine.stats.unfilledFrames = last - first + 1
  /-- The frames of a push under way count at once, with the slots left open before them. -/
  writing : ∀ input plan index first, engine.worker = .pushing input plan index → (indices history).head? = some first →
    first ≤ index ∧ (indices history).length + engine.stats.unfilledFrames + plan.outcome.unfilled = index - first
  /-- The counters speak of the frames written, but for a push that is under way or failed. -/
  counted : (∀ input plan index, engine.worker ≠ .pushing input plan index) →
    (∀ text, engine.worker ≠ .ended (.error text)) →
    engine.stats.encodedFrames = (indices history).length ∧ engine.encoder.lastFrameIndex = (indices history).getLast?

/-! ## The invariant -/

/-- The place on the timeline and the counters account for all of these indices. -/
structure Accounts (indices : List Nat) (encoder : Encoder) (stats : EncoderStats) : Prop where
  last : encoder.lastFrameIndex = indices.getLast?
  written : stats.encodedFrames = indices.length
  empty : indices = [] → stats.unfilledFrames = 0
  spanned : ∀ first, indices.head? = some first → ∀ last, indices.getLast? = some last →
    first + indices.length + stats.unfilledFrames = last + 1

/-- Where the worker stands among the frames written. -/
def Stands (fps : Nat) (indices : List Nat) (engine : Engine) : Prop :=
  match engine.worker with
  | .pushing _ plan index => ∃ before, indices = before ++ List.range' plan.firstIndex (index - plan.firstIndex) ∧
      Accounts before engine.encoder engine.stats ∧ Covers engine.encoder.lastFrameIndex fps plan ∧
      Presentable plan.frameIndex ∧ plan.firstIndex ≤ index ∧ index ≤ plan.frameIndex + 1
  | .ended (.error _) => ∃ before, before <+: indices ∧ Accounts before engine.encoder engine.stats
  | _ => Accounts indices engine.encoder engine.stats

def stamped (fps index : Nat) : EncoderInput where
  index
  ptsNs := index * nanosPerSecond / fps
  durationNs := (index + 1) * nanosPerSecond / fps - index * nanosPerSecond / fps

structure Clocked (fps : Nat) (history : List Observation) (engine : Engine) : Prop where
  rate : engine.encoder.fps = fps
  clock : engine.encoder.commitPaced = false
  stamps : ∀ input ∈ encoderInput history, input = stamped fps input.index
  presentable : ∀ index ∈ indices history, Presentable index
  ascending : (indices history).Pairwise (· < ·)
  skips : Throughout SkipsBehind history
  stands : Stands fps (indices history) engine

@[simp] theorem encoderInput_cons (observation : Observation) (history : List Observation) :
    encoderInput (observation :: history) = encoderInput history ++ (inputOf observation).toList :=
  chronicle_cons _ _ _

theorem Presentable.mono {earlier later : Nat} (fits : Presentable later) (order : earlier ≤ later) :
    Presentable earlier := by
  unfold Presentable at fits ⊢
  have scaled : (earlier + 1) * nanosPerSecond ≤ (later + 1) * nanosPerSecond :=
    Nat.mul_le_mul_right _ (Nat.succ_le_succ order)
  exact Nat.le_trans scaled fits

theorem Presentable.lt {frame : Nat} (fits : Presentable frame) : frame + 1 ≤ u64Max := by
  unfold Presentable nanosPerSecond at fits
  omega

/-- In an ascending list nothing is behind the last element. -/
theorem le_getLast {list : List Nat} (ascending : list.Pairwise (· < ·)) {last : Nat}
    (final : list.getLast? = some last) : ∀ index ∈ list, index ≤ last := by
  obtain ⟨front, rfl⟩ := List.getLast?_eq_some_iff.mp final
  intro index member
  rcases List.mem_append.mp member with early | same
  · exact Nat.le_of_lt ((List.pairwise_append.mp ascending).2.2 index early last (List.mem_singleton_self _))
  · exact Nat.le_of_eq (List.mem_singleton.mp same)

theorem Accounts.nil_of_none {indices : List Nat} {encoder : Encoder} {stats : EncoderStats}
    (accounts : Accounts indices encoder stats) (none : encoder.lastFrameIndex = none) : indices = [] := by
  rw [accounts.last] at none
  exact List.getLast?_eq_none_iff.mp none

theorem Accounts.origin {indices : List Nat} {encoder : Encoder} {stats : EncoderStats}
    (accounts : Accounts indices encoder stats) {last : Nat} (final : encoder.lastFrameIndex = some last) :
    ∃ first, indices.head? = some first ∧ first + stats.encodedFrames + stats.unfilledFrames = last + 1 ∧
      0 < stats.encodedFrames := by
  have ending : indices.getLast? = some last := accounts.last ▸ final
  cases front : indices with
  | nil =>
    rw [front] at ending
    cases ending
  | cons first rest =>
    have spanned := accounts.spanned first (by rw [front]; rfl) last ending
    rw [accounts.written, front] at *
    exact ⟨first, rfl, spanned, Nat.succ_pos _⟩

/-- A push that is written whole keeps the accounts. -/
theorem Accounts.push {indices : List Nat} {encoder : Encoder} {stats : EncoderStats} {fps : Nat} {plan : Plan}
    (accounts : Accounts indices encoder stats) (covers : Covers encoder.lastFrameIndex fps plan)
    (fits : Presentable plan.frameIndex) :
    Accounts (indices ++ List.range' plan.firstIndex (plan.frameIndex + 1 - plan.firstIndex))
      { encoder with lastFrameIndex := some plan.frameIndex } (stats.note plan.outcome) := by
  have short := Presentable.lt fits
  have split : plan.frameIndex + 1 - plan.firstIndex = plan.outcome.duplicated + 1 := by
    have := covers.duplicated
    omega
  have final : (indices ++ List.range' plan.firstIndex (plan.outcome.duplicated + 1)).getLast? =
      some plan.frameIndex := by
    rw [List.range'_concat, ← List.append_assoc, List.getLast?_concat, Nat.one_mul, covers.duplicated]
  rw [split]
  -- The counters cannot saturate: they count slots up to the frame index.
  have bound : ∀ first, indices.head? = some first → first + stats.encodedFrames + plan.outcome.written +
      stats.unfilledFrames + plan.outcome.unfilled = plan.frameIndex + 1 := by
    intro first front
    cases reached : encoder.lastFrameIndex with
    | none =>
      rw [accounts.last, List.getLast?_eq_none_iff] at reached
      rw [reached] at front
      cases front
    | some last =>
      have spanned := accounts.spanned first front last (accounts.last ▸ reached)
      have accounted := covers.accounted last reached
      rw [accounts.written]
      omega
  cases front : indices.head? with
  | none =>
    obtain rfl : indices = [] := List.head?_eq_none_iff.mp front
    obtain ⟨alone, filled⟩ := covers.fresh accounts.last
    have none_open := accounts.empty rfl
    have none_written : stats.encodedFrames = 0 := accounts.written
    have no_duplicate : plan.outcome.duplicated = 0 := by
      have := covers.duplicated
      omega
    have one := covers.written
    constructor
    · exact final.symm
    · simp only [EncoderStats.note, saturatingAdd, List.nil_append, List.length_range']
      omega
    · intro empty
      simp at empty
    · intro first begins last ends
      rw [final] at ends
      cases ends
      simp only [List.nil_append, List.range'_succ, List.head?_cons, Option.some.injEq] at begins
      simp only [EncoderStats.note, saturatingAdd, List.nil_append, List.length_range']
      omega
  | some first =>
    have total := bound first front
    have one := covers.written
    have counted := accounts.written
    constructor
    · exact final.symm
    · simp only [EncoderStats.note, saturatingAdd, List.length_append, List.length_range']
      omega
    · intro empty
      simp at empty
    · intro origin begins last ends
      rw [final] at ends
      cases ends
      rw [List.head?_append, front] at begins
      cases begins
      simp only [EncoderStats.note, saturatingAdd, List.length_append, List.length_range']
      omega

/-! ## One turn -/

variable {fps : Nat} {history : List Observation} {before after : Engine} {seen : List Observation}

theorem Stands.of_same {indices : List Nat} (stands : Stands fps indices before)
    (encoder : after.encoder = before.encoder) (stats : after.stats = before.stats)
    (worker : after.worker = before.worker) : Stands fps indices after := by
  unfold Stands at stands ⊢
  rw [encoder, stats, worker]
  exact stands

/-- A turn that neither writes a frame nor skips a capture keeps what the history says. -/
theorem Clocked.of_quiet (clocked : Clocked fps history before) (rate : after.encoder.fps = before.encoder.fps)
    (clock : after.encoder.commitPaced = before.encoder.commitPaced)
    (quiet : ∀ observation ∈ seen, inputOf observation = none ∧ ∀ index, observation ≠ .skipped index)
    (stands : Stands fps (indices history) after) : Clocked fps (seen ++ history) after := by
  have same : encoderInput (seen ++ history) = encoderInput history := by
    unfold encoderInput
    rw [chronicle_append]
    have nothing : chronicle inputOf seen = [] := by
      unfold chronicle
      rw [List.reverse_eq_nil_iff, List.filterMap_eq_nil_iff]
      exact fun observation member => (quiet observation member).1
    rw [nothing, List.append_nil]
  have skips : Throughout SkipsBehind (seen ++ history) := by
    clear stands same
    induction seen with
    | nil => exact clocked.skips
    | cons observation seen ih =>
      refine ⟨fun index skipped => absurd skipped ((quiet observation List.mem_cons_self).2 index), ?_⟩
      exact ih fun other member => quiet other (List.mem_cons_of_mem _ member)
  have indexed : indices (seen ++ history) = indices history := by
    unfold indices
    rw [same]
  exact {
    rate := rate.trans clocked.rate
    clock := clock.trans clocked.clock
    stamps := same ▸ clocked.stamps
    presentable := indexed ▸ clocked.presentable
    ascending := indexed ▸ clocked.ascending
    skips
    stands := indexed ▸ stands }

theorem Clocked.quiet (clocked : Clocked fps history before) (encoder : after.encoder = before.encoder)
    (stats : after.stats = before.stats) (worker : after.worker = before.worker)
    (quiet : ∀ observation ∈ seen, inputOf observation = none ∧ ∀ index, observation ≠ .skipped index) :
    Clocked fps (seen ++ history) after :=
  clocked.of_quiet (congrArg _ encoder) (congrArg _ encoder) quiet (clocked.stands.of_same encoder stats worker)

theorem Stands.pushing {indices : List Nat} {engine : Engine} (stands : Stands fps indices engine)
    {input : EncodeFrame} {plan : Plan} {index : Nat} (phase : engine.worker = .pushing input plan index) :
    ∃ before, indices = before ++ List.range' plan.firstIndex (index - plan.firstIndex) ∧
      Accounts before engine.encoder engine.stats ∧ Covers engine.encoder.lastFrameIndex fps plan ∧
      Presentable plan.frameIndex ∧ plan.firstIndex ≤ index ∧ index ≤ plan.frameIndex + 1 := by
  unfold Stands at stands
  rw [phase] at stands
  exact stands

theorem Stands.accounts {indices : List Nat} {engine : Engine} (stands : Stands fps indices engine)
    (idle : ∀ input plan index, engine.worker ≠ .pushing input plan index)
    (alive : ∀ text, engine.worker ≠ .ended (.error text)) : Accounts indices engine.encoder engine.stats := by
  unfold Stands at stands
  split at stands
  · exact absurd ‹_› (idle _ _ _)
  · exact absurd ‹_› (alive _)
  · exact stands

/-- Whatever the worker does, the counters account for a part of what was written. -/
theorem Stands.part {indices : List Nat} {engine : Engine} (stands : Stands fps indices engine) :
    ∃ before, before <+: indices ∧ Accounts before engine.encoder engine.stats := by
  unfold Stands at stands
  split at stands
  · obtain ⟨before, rfl, accounts, _⟩ := stands
    exact ⟨before, List.prefix_append _ _, accounts⟩
  · exact stands
  · exact ⟨indices, List.prefix_refl _, stands⟩

theorem Accounts.congr {indices : List Nat} {encoder other : Encoder} {stats counters : EncoderStats}
    (accounts : Accounts indices encoder stats) (last : other.lastFrameIndex = encoder.lastFrameIndex)
    (written : counters.encodedFrames = stats.encodedFrames)
    (unfilled : counters.unfilledFrames = stats.unfilledFrames) : Accounts indices other counters where
  last := last.trans accounts.last
  written := written.trans accounts.written
  empty none := unfilled.trans (accounts.empty none)
  spanned first begins last ends := unfilled ▸ accounts.spanned first begins last ends

theorem Clocked.wrote (clocked : Clocked fps history before) {input : EncodeFrame} {plan : Plan} {index : Nat}
    (phase : before.worker = .pushing input plan index) (within : index ≤ plan.frameIndex)
    {releases : List BufferRelease} :
    Clocked fps
      (.pushed {
        index
        ptsNs := (frameTimes index before.encoder.fps).1
        durationNs := (frameTimes index before.encoder.fps).2 - (frameTimes index before.encoder.fps).1 } :: history)
      { before with releases, worker := .pushing input plan (index + 1) } := by
  obtain ⟨done, written, accounts, covers, fits, started, _⟩ := clocked.stands.pushing phase
  have here := Presentable.mono fits within
  have stamp : ({
      index
      ptsNs := (frameTimes index before.encoder.fps).1
      durationNs := (frameTimes index before.encoder.fps).2 - (frameTimes index before.encoder.fps).1 } :
        EncoderInput) = stamped fps index := by
    rw [frameTimes_eq here, clocked.rate]
    rfl
  rw [stamp]
  have grown : indices (.pushed (stamped fps index) :: history) = indices history ++ [index] := by
    simp [indices, inputOf, stamped]
  constructor
  · exact clocked.rate
  · exact clocked.clock
  · intro other member
    rw [encoderInput_cons] at member
    rcases List.mem_append.mp member with old | new
    · exact clocked.stamps other old
    · simp only [inputOf, Option.toList_some, List.mem_singleton] at new
      rw [new]
      rfl
  · rw [grown]
    intro other member
    rcases List.mem_append.mp member with old | new
    · exact clocked.presentable other old
    · exact List.mem_singleton.mp new ▸ here
  · -- Frames of this push come in order, and it starts behind the last frame before it.
    rw [grown, List.pairwise_append]
    refine ⟨clocked.ascending, List.pairwise_singleton _ _, fun other member last same => ?_⟩
    obtain rfl := List.mem_singleton.mp same
    rw [written] at member
    rcases List.mem_append.mp member with old | new
    · cases reached : before.encoder.lastFrameIndex with
      | none =>
        rw [accounts.last, List.getLast?_eq_none_iff] at reached
        rw [reached] at old
        cases old
      | some last =>
        have ascending : done.Pairwise (· < ·) := (List.pairwise_append.mp (written ▸ clocked.ascending)).1
        have order := le_getLast ascending (accounts.last ▸ reached) other old
        have behind := covers.behind last reached
        omega
    · have range := List.mem_range'_1.mp new
      omega
  · exact ⟨fun _ no => Observation.noConfusion no, clocked.skips⟩
  · refine ⟨done, ?_, accounts, covers, fits, Nat.le_succ_of_le started, Nat.succ_le_succ within⟩
    have one_more : index + 1 - plan.firstIndex = index - plan.firstIndex + 1 := by omega
    rw [grown, written, one_more, List.range'_concat, List.append_assoc, Nat.one_mul, Nat.add_sub_cancel' started]

theorem Clocked.skip (clocked : Clocked fps history before) {input : EncodeFrame}
    (phase : before.worker = .holding input) (skipped : before.encoder.planLatest input.presentationNs = none)
    {released : List Nat} :
    Clocked fps
      (.slotReturned input.slot :: .skipped (before.encoder.indexOf input.presentationNs) :: history)
      { before with
        encoder := { before.encoder with
          presentationOriginNs := some (before.encoder.originNs input.presentationNs) }
        stats := before.stats.note { skipped := true }
        released
        worker := .receiving } := by
  have stands := clocked.stands.accounts (by simp [phase]) (by simp [phase])
  obtain ⟨last, reached, order⟩ := planLatest_skips skipped
  obtain ⟨front, written⟩ := List.getLast?_eq_some_iff.mp (stands.last ▸ reached)
  have final : last ∈ indices history := by
    rw [written]
    exact List.mem_append_right _ (List.mem_singleton_self _)
  obtain ⟨frame, taken, rfl⟩ := List.mem_map.mp final
  have member : frame ∈ encoderInput history := taken
  have same : encoderInput (.slotReturned input.slot ::
      .skipped (before.encoder.indexOf input.presentationNs) :: history) = encoderInput history := by
    simp [inputOf]
  have indexed : indices (.slotReturned input.slot ::
      .skipped (before.encoder.indexOf input.presentationNs) :: history) = indices history := by
    unfold indices
    rw [same]
  have last_fits := Presentable.lt (clocked.presentable _ final)
  obtain ⟨first, _, total, _⟩ := stands.origin reached
  constructor
  · exact clocked.rate
  · exact clocked.clock
  · rw [same]
    exact clocked.stamps
  · rw [indexed]
    exact clocked.presentable
  · rw [indexed]
    exact clocked.ascending
  · refine ⟨fun _ no => Observation.noConfusion no, fun index this => ?_, clocked.skips⟩
    cases this
    exact ⟨frame, member, order⟩
  · rw [indexed]
    refine Accounts.congr stands rfl ?_ ?_
    · simp only [EncoderStats.note, saturatingAdd]
      omega
    · simp only [EncoderStats.note, saturatingAdd]
      omega

theorem Clocked.step (clocked : Clocked fps history before) (fast : fps ≤ 480) {turn : Turn}
    (within : WithinYear history before turn) :
    Clocked fps ((step before turn).2 ++ history) (Engine.step before turn).1 := by
  have effect := step_effect before turn
  generalize (Engine.step before turn).2 = seen at effect ⊢
  generalize (Engine.step before turn).1 = after at effect ⊢
  have silent : ∀ observation ∈ ([] : List Observation),
      inputOf observation = none ∧ ∀ index, observation ≠ .skipped index := fun _ no => nomatch no
  cases effect with
  | idle => exact clocked
  | moved | exited | announced | committed | finalized | checked => exact clocked.quiet rfl rfl rfl silent
  | handed | slotReturned =>
    refine clocked.quiet rfl rfl rfl ?_
    intro observation member
    obtain rfl := List.mem_singleton.mp member
    exact ⟨rfl, fun _ no => Observation.noConfusion no⟩
  | taken input rest phase | closing rest phase =>
    exact clocked.of_quiet rfl rfl silent (clocked.stands.accounts (by simp [phase]) (by simp [phase]))
  | paused paused rest encoder phase _ rate last clock =>
    have stands := clocked.stands.accounts (by simp [phase]) (by simp [phase])
    refine clocked.of_quiet rate clock silent ?_
    unfold Stands
    rw [phase]
    exact stands.congr last rfl rfl
  | began input plan phase planned =>
    have stands := clocked.stands.accounts (by simp [phase]) (by simp [phase])
    refine clocked.of_quiet rfl rfl silent ?_
    unfold WithinYear at within
    rw [phase] at within
    obtain ⟨covers, frame⟩ := planLatest_covers (planned clocked.clock)
    have fits : Presentable plan.frameIndex := by
      rw [frame]
      apply frameIndexAt_presentable within
      exact clocked.rate.symm ▸ fast
    rw [clocked.rate] at covers
    exact ⟨indices history, by simp, stands.congr rfl rfl rfl, covers, fits, Nat.le_refl _,
      Nat.le_succ_of_le covers.ordered⟩
  | skipped input phase skipped => exact clocked.skip phase skipped
  | wrote input plan index phase within => exact clocked.wrote phase within
  | retired input plan index phase beyond =>
    refine clocked.of_quiet rfl rfl silent ?_
    obtain ⟨done, written, accounts, covers, fits, started, ended⟩ := clocked.stands.pushing phase
    obtain rfl : index = plan.frameIndex + 1 := by omega
    rw [written]
    exact accounts.push covers fits
  | failed | rejected => exact clocked.of_quiet rfl rfl silent clocked.stands.part
  | completed phase =>
    exact clocked.of_quiet rfl rfl silent (clocked.stands.accounts (by simp [phase]) (by simp [phase]))

theorem initial_clocked (fps : Nat) : Clocked fps [] (initial fps false) where
  rate := rfl
  clock := rfl
  stamps _ no := nomatch no
  presentable _ no := nomatch no
  ascending := .nil
  skips := trivial
  stands := ⟨rfl, rfl, fun _ => rfl, fun _ no => nomatch no⟩

/-! ## A whole recording -/

theorem Clocked.of_run (fast : fps ≤ 480) {engine : Engine}
    (run : Run Engine.step WithinYear (· = initial fps false) history engine) : Clocked fps history engine := by
  refine Transition.Run.invariant ?_ ?_ run
  · intro engine begun
    rw [begun]
    exact initial_clocked fps
  · intro history engine turn _ within clocked
    exact clocked.step fast within

theorem stamped_ascending {earlier later : Nat} (order : earlier < later) :
    (stamped fps earlier).index < (stamped fps later).index ∧
      (stamped fps earlier).ptsNs + (stamped fps earlier).durationNs ≤ (stamped fps later).ptsNs := by
  refine ⟨order, ?_⟩
  have lasts : earlier * nanosPerSecond / fps ≤ (earlier + 1) * nanosPerSecond / fps :=
    Nat.div_le_div_right (Nat.mul_le_mul_right _ (Nat.le_succ _))
  have after := frame_after order fps
  simp only [stamped]
  omega

/-- While a push writes, the indices from the first one on are written or counted
as left open. -/
theorem Clocked.filling {engine : Engine} (clocked : Clocked fps history engine) {input : EncodeFrame} {plan : Plan}
    {index first : Nat} (phase : engine.worker = .pushing input plan index)
    (begins : (indices history).head? = some first) :
    first ≤ index ∧
      (indices history).length + engine.stats.unfilledFrames + plan.outcome.unfilled = index - first := by
  obtain ⟨done, written, accounts, covers, fits, started, ended⟩ := clocked.stands.pushing phase
  rw [written] at begins ⊢
  rw [List.length_append, List.length_range']
  cases reached : engine.encoder.lastFrameIndex with
  | none =>
    obtain ⟨alone, filled⟩ := covers.fresh reached
    obtain rfl := accounts.nil_of_none reached
    have none_open := accounts.empty rfl
    have origin : first = plan.firstIndex := by
      cases count : index - plan.firstIndex with
      | zero =>
        rw [count] at begins
        cases begins
      | succ count' =>
        rw [count, List.nil_append, List.range'_succ] at begins
        cases begins
        rfl
    simp only [List.length_nil]
    omega
  | some last =>
    obtain ⟨origin, front, total, _⟩ := accounts.origin reached
    have same : first = origin := by
      rw [List.head?_append, front] at begins
      cases begins
      rfl
    have behind := covers.behind last reached
    have accounted := covers.accounted last reached
    have duplicated := covers.duplicated
    have one := covers.written
    have counted := accounts.written
    omega

/-- For every rate that the options admit, whatever is captured within a year
of the first frame: the frames written are in order, do not overlap and last,
a push writes at most one second of duplicates, only captures that come too
late are skipped, and the counters account for every index. -/
theorem frame_timeline (slow : 30 ≤ fps) (fast : fps ≤ 480) {engine : Engine}
    (run : Run Engine.step WithinYear (· = initial fps false) history engine) : Timeline fps history engine := by
  have clocked := Clocked.of_run fast run
  have stands := clocked.stands
  have named : encoderInput history = (indices history).map (stamped fps) := by
    unfold indices
    rw [List.map_map]
    exact (List.map_congr_left clocked.stamps).symm.trans (List.map_id _) |>.symm
  constructor
  · rw [named, List.pairwise_map]
    exact clocked.ascending.imp stamped_ascending
  · intro input member
    rw [clocked.stamps input member]
    have lasts := frame_lasts input.index (Nat.lt_of_lt_of_le (by decide) slow) fast
    simp only [stamped]
    omega
  · intro input plan index phase
    obtain ⟨done, written, accounts, covers, fits, started, ended⟩ := stands.pushing phase
    have duplicated := covers.duplicated
    have bounded := covers.bounded
    exact ⟨started, ended, by omega, done, written, accounts.written, accounts.last⟩
  · exact clocked.skips
  · intro none
    obtain ⟨done, _, accounts⟩ := stands.part
    obtain rfl := accounts.nil_of_none none
    exact ⟨accounts.written, accounts.empty rfl⟩
  · intro last reached
    obtain ⟨done, ⟨rest, written⟩, accounts⟩ := stands.part
    obtain ⟨first, begins, total, some_written⟩ := accounts.origin reached
    have front : (indices history).head? = some first := by
      rw [← written, List.head?_append, begins]
      rfl
    have order : first ≤ last := by
      -- Both indices were written, and the list ascends.
      obtain ⟨early, last_of⟩ := List.getLast?_eq_some_iff.mp (accounts.last ▸ reached)
      have ascending : done.Pairwise (· < ·) := (List.pairwise_append.mp (written ▸ clocked.ascending)).1
      have member : first ∈ done := List.mem_of_mem_head? (by rw [begins]; rfl)
      exact le_getLast ascending (accounts.last ▸ reached) first member
    exact ⟨first, front, order, by omega⟩
  · exact fun input plan index first phase begins => clocked.filling phase begins
  · intro idle alive
    have accounts := stands.accounts idle alive
    exact ⟨accounts.written, accounts.last⟩

/-- The turns from a capture to the end of its push, which writes at most `frames` frames. -/
def captureTurns (presentationNs frames : Nat) : List Turn :=
  [.main {}, .main {}, .main { event := .ready (some presentationNs) }, .main {}] ++
    List.replicate (frames + 3) (.worker {})

/-- Captures at the start, on the fourth frame and, late, on the third. -/
def threeCaptures : List Turn :=
  captureTurns 1000 1 ++ captureTurns 100001000 3 ++ captureTurns 90001000 0

def recorded : Engine × List Observation := execute step (initial 30 false) threeCaptures

theorem frame_timeline_three_captures :
    Timeline 30 recorded.2 recorded.1 ∧ indices recorded.2 = [0, 1, 2, 3] ∧
      recorded.1.stats = { encodedFrames := 4, duplicatedFrames := 2, skippedCaptures := 1, maximumGap := 2 } := by
  have begun : Run step WithinYear (· = initial 30 false) [] (initial 30 false) := .start rfl
  have permits : Permits step WithinYear [] (initial 30 false) threeCaptures := by decide +kernel
  have run := begun.execute threeCaptures permits
  rw [List.append_nil] at run
  exact ⟨frame_timeline (by decide) (by decide) run, by decide +kernel, by decide +kernel⟩

end Luma.Recorder.Engine
