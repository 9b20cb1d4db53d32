import Luma.Encoder.PipelineRuns

/-! The timestamps of the copies on the asynchronous path.

A present is copied only when it is due, and then the next one is due an interval later.
-/

set_option autoImplicit false

namespace Luma.Encoder

/-- The present of the call that is being made. -/
def Submitter.present : Submitter → Option Present
  | .gating present _ | .readying present | .admitting present _ | .probing present | .mapping present
  | .encoding present | .marking present _ | .rechecking present _ | .claiming present _ | .reclaiming present _
  | .unmapping present _ | .freeing present _ | .copying present _ => some present
  | _ => none

namespace Direct

open Luma.Library Luma.Library.Transition

/-- The times of the copies. -/
def stamps (history : List DirectEvent) : List UInt64 := (copied history).map Prod.snd

/-- The clock is a second away from its end. -/
def Clocked (history : List DirectEvent) : Prop := ∀ ptsNs, .presented ptsNs ∈ history → ptsNs.toNat + 1000000000 < 2 ^ 64

structure Paced (history : List DirectEvent) (direct : Direct) : Prop where
  bounded : direct.pacing.Bounded
  frame : 0 < direct.pacing.frameIntervalNs.toNat ∧ direct.pacing.frameIntervalNs.toNat ≤ 1000000000
  presented : ∀ present, direct.submitter.present = some present → .presented present.ptsNs ∈ history
  ordered : (stamps history).Pairwise (· < ·)
  ahead : ∀ ptsNs ∈ stamps history, ptsNs < direct.pacing.nextDueNs
  due : ∀ present, direct.submitter.present = some present → direct.submitter.claims = true →
    present.ptsNs < direct.pacing.nextDueNs ∧ ∀ ptsNs ∈ stamps history, ptsNs < present.ptsNs

variable {harvests encodes : Nat} {history seen : List DirectEvent} {self after : Direct}

theorem Clocked.before (clocked : Clocked (seen ++ history)) : Clocked history :=
  fun ptsNs presented => clocked ptsNs (List.mem_append_right seen presented)

namespace Paced

/-- A turn that makes no copy and leaves the clock of the presents alone. -/
theorem goes (paced : Paced history self) (copies : copied (seen ++ history) = copied history)
    (bounded : after.pacing.Bounded) (frame : after.pacing.frameIntervalNs = self.pacing.frameIntervalNs)
    (due : after.pacing.nextDueNs = self.pacing.nextDueNs)
    (present : after.submitter.present = none ∨ after.submitter.present = self.submitter.present)
    (claims : after.submitter.claims = true → self.submitter.claims = true) : Paced (seen ++ history) after := by
  have same : stamps (seen ++ history) = stamps history := congrArg (List.map Prod.snd) copies
  have before : ∀ one, after.submitter.present = some one → self.submitter.present = some one := by
    intro one now
    rcases present with none | unchanged
    · exact nomatch none.symm.trans now
    · exact unchanged.symm.trans now
  constructor
  case bounded => exact bounded
  case frame => rw [frame]; exact paced.frame
  case presented => exact fun one now => List.mem_append_right seen (paced.presented one (before one now))
  case ordered => rw [same]; exact paced.ordered
  case ahead => rw [same, due]; exact paced.ahead
  case due => rw [same, due]; exact fun one now claimed => paced.due one (before one now) (claims claimed)

theorem bounded_submitted (paced : Paced history self) (presentNs mapEncodeNs : UInt64) :
    (self.pacing.submitted presentNs mapEncodeNs).Bounded ∧
      (self.pacing.submitted presentNs mapEncodeNs).frameIntervalNs = self.pacing.frameIntervalNs ∧
      (self.pacing.submitted presentNs mapEncodeNs).nextDueNs = self.pacing.nextDueNs := by
  refine ⟨paced.bounded.submitted presentNs mapEncodeNs, ?_, ?_⟩
  all_goals
    unfold Pacing.submitted
    dsimp only
    repeat' split
    all_goals rfl

end Paced

theorem recordAdmission_same (pacing : Pacing) (dropped : Bool) :
    (pacing.recordAdmission dropped).frameIntervalNs = pacing.frameIntervalNs ∧
      (pacing.recordAdmission dropped).nextDueNs = pacing.nextDueNs := by
  unfold Pacing.recordAdmission
  dsimp only
  repeat' split
  all_goals exact ⟨rfl, rfl⟩

/-- A present that is due comes after all copies, and moves the next one behind it. -/
theorem Paced.is_due (paced : Paced history self) (clocked : Clocked history) {present : Present} {pacing : Pacing}
    (there : self.submitter.present = some present) (due : self.pacing.due present.ptsNs = some pacing) :
    pacing.Bounded ∧ pacing.frameIntervalNs = self.pacing.frameIntervalNs ∧ present.ptsNs < pacing.nextDueNs ∧
      ∀ ptsNs ∈ stamps history, ptsNs < present.ptsNs := by
  have bounded := paced.bounded.due due
  obtain ⟨lower, upper⟩ := paced.bounded
  obtain ⟨positive, second⟩ := paced.frame
  have early := clocked present.ptsNs (paced.presented present there)
  unfold Pacing.due at due
  split at due
  · cases due
  · rename_i waited
    cases due
    have backoff : kMaxBackoffNs.toNat ≤ 1000000000 := by decide
    have sum : (present.ptsNs + self.pacing.adaptiveIntervalNs).toNat =
        present.ptsNs.toNat + self.pacing.adaptiveIntervalNs.toNat := by
      rw [UInt64.toNat_add]
      exact Nat.mod_eq_of_lt (by omega)
    refine ⟨bounded, rfl, ?_, fun ptsNs member => ?_⟩
    · rw [UInt64.lt_iff_toNat_lt, sum]
      omega
    · have ahead := paced.ahead ptsNs member
      rw [UInt64.lt_iff_toNat_lt] at ahead ⊢
      rw [not_and_or, not_not, UInt64.lt_iff_toNat_lt] at waited
      rcases waited with zero | late
      · rw [zero] at ahead
        exact absurd ahead (Nat.not_lt_zero _)
      · omega

namespace Paced

/-- A turn that leaves the clock of the presents alone, and the present in hand. -/
theorem moves (paced : Paced history self) {later : Submitter} (copies : copied (seen ++ history) = copied history)
    (pacing : after.pacing = self.pacing) (submitter : after.submitter = later)
    (present : later.present = none ∨ later.present = self.submitter.present)
    (claims : later.claims = true → self.submitter.claims = true) : Paced (seen ++ history) after :=
  paced.goes copies (pacing ▸ paced.bounded) (by rw [pacing]) (by rw [pacing]) (submitter ▸ present) (submitter ▸ claims)

/-- The same after a present that was due, which may have been dropped. -/
theorem dues (paced : Paced history self) (clocked : Clocked history) {present : Present} {pacing : Pacing}
    (there : self.submitter.present = some present) (due : self.pacing.due present.ptsNs = some pacing)
    (copies : copied (seen ++ history) = copied history) (bounded : after.pacing.Bounded)
    (frame : after.pacing.frameIntervalNs = pacing.frameIntervalNs) (next : after.pacing.nextDueNs = pacing.nextDueNs)
    (same : after.submitter.present = none ∨ after.submitter.present = some present) : Paced (seen ++ history) after := by
  obtain ⟨-, kept, before, behind⟩ := paced.is_due clocked there due
  have unchanged : stamps (seen ++ history) = stamps history := congrArg (List.map Prod.snd) copies
  have known : ∀ one, after.submitter.present = some one → one = present := by
    intro one now
    rcases same with none | here
    · exact nomatch none.symm.trans now
    · exact Option.some.inj (now.symm.trans here)
  constructor
  case bounded => exact bounded
  case frame => rw [frame, kept]; exact paced.frame
  case presented =>
    intro one now
    rw [known one now]
    exact List.mem_append_right seen (paced.presented present there)
  case ordered => rw [unchanged]; exact paced.ordered
  case ahead =>
    rw [unchanged, next]
    exact fun ptsNs member => UInt64.lt_trans (behind ptsNs member) before
  case due =>
    intro one now _
    rw [known one now, unchanged, next]
    exact ⟨before, behind⟩

theorem submissionFailed_kept (paced : Paced history self) {present : Present} {before : Outcome}
    (there : self.submitter.present = some present) (copies : copied (before.2 ++ history) = copied history)
    (pacing : before.1.pacing = self.pacing) :
    Paced ((submissionFailed present before).2 ++ history) (submissionFailed present before).1 := by
  unfold submissionFailed
  split
  · exact paced.moves copies pacing rfl (.inr there.symm) nofun
  all_goals
    refine paced.moves ?_ pacing rfl (.inl rfl) nofun
    change copied (.returned false :: (before.2 ++ history)) = _
    exact (copied_quiet (Pipelined.returned_quiet false)).trans copies

theorem recheck_kept (paced : Paced history self) (clocked : Clocked history) {present : Present} {encoded : Bool}
    (phase : self.submitter = .rechecking present encoded) :
    Paced ((self.recheck present encoded).2 ++ history) (self.recheck present encoded).1 := by
  have there : self.submitter.present = some present := by rw [phase]; rfl
  unfold recheck
  split
  · exact paced.moves (copied_quiet (Pipelined.returned_quiet false)) rfl rfl (.inl rfl) nofun
  · split
    · exact paced.moves (copied_quiet (Pipelined.returned_quiet encoded)) rfl rfl (.inl rfl) nofun
    · rename_i pacing due
      have bounded := paced.bounded.due due
      split
      · obtain ⟨frame, next⟩ := recordAdmission_same pacing true
        exact paced.dues clocked there due (copied_quiet (Pipelined.returned_quiet encoded)) (bounded.recordAdmission true)
          frame next (.inl rfl)
      · exact paced.dues clocked there due (copied_quiet Pipelined.nothing_quiet) bounded rfl rfl (.inr rfl)

theorem copy_kept (paced : Paced history self) {present : Present} {encoded : Bool}
    (phase : self.submitter = .copying present encoded) (succeeds : Bool) :
    Paced ((self.copy present encoded succeeds).2 ++ history) (self.copy present encoded succeeds).1 := by
  obtain ⟨before, behind⟩ := paced.due present (by rw [phase]; rfl) (by rw [phase]; rfl)
  have copies : ∀ {pacing : Pacing} (later : List DirectEvent) (made : Direct),
      pacing.Bounded → pacing.frameIntervalNs = self.pacing.frameIntervalNs → pacing.nextDueNs = self.pacing.nextDueNs →
      (∀ event ∈ later, quiet event = true) → made.pacing = pacing → made.submitter = .idle →
      Paced (later ++ [.copied self.copyNext self.copies present.ptsNs] ++ history) made := by
    intro pacing later made bounded frame next still same idle
    have grown : stamps (later ++ [.copied self.copyNext self.copies present.ptsNs] ++ history) =
        stamps history ++ [present.ptsNs] := by
      rw [List.append_assoc, stamps, copied_quiet still]
      simp [stamps, copied]
    constructor
    case bounded => rw [same]; exact bounded
    case frame => rw [same, frame]; exact paced.frame
    case presented => rw [idle]; intros; contradiction
    case ordered =>
      rw [grown, List.pairwise_append]
      refine ⟨paced.ordered, List.pairwise_singleton _ _, fun first member second last => ?_⟩
      rw [List.mem_singleton.mp last]
      exact behind first member
    case ahead =>
      rw [grown, same, next]
      intro ptsNs member
      rcases List.mem_append.mp member with earlier | last
      · exact paced.ahead ptsNs earlier
      · rw [List.mem_singleton.mp last]
        exact before
    case due => rw [idle]; intros; contradiction
  unfold copy
  dsimp only
  split
  · obtain ⟨frame, next⟩ := recordAdmission_same self.pacing false
    exact copies [.returned encoded] _ (paced.bounded.recordAdmission false) frame next
      (Pipelined.returned_quiet encoded) rfl rfl
  · exact copies [.returned false, .disabled _] _ paced.bounded rfl rfl (Pipelined.disabled_quiet false _) rfl rfl

theorem submitTurn_kept (paced : Paced history self) (clocked : Clocked history) (mode : self.mode = .harvestWorker)
    (suits : self.submitter.suits self.mode = true) (answer : Answer) :
    Paced ((self.submitTurn answer).2 ++ history) (self.submitTurn answer).1 := by
  rw [mode] at suits
  unfold submitTurn
  cases phase : self.submitter with
  | idle => exact paced
  | copying present encoded => exact paced.copy_kept phase answer.succeeds
  | rechecking present encoded => exact paced.recheck_kept clocked phase
  | gating present checks =>
    have there : self.submitter.present = some present := by rw [phase]; rfl
    cases checks with
    | cons check checks =>
      dsimp only
      rw [gate]
      split
      · exact paced.moves (copied_quiet Pipelined.nothing_quiet) rfl rfl (.inr there.symm) (by rintro ⟨⟩)
      · exact paced.moves (copied_quiet (Pipelined.returned_quiet false)) rfl rfl (.inl rfl) (by rintro ⟨⟩)
    | nil =>
      dsimp only
      rw [gate]
      split
      · exact paced.moves (copied_quiet (Pipelined.disabled_quiet false _)) rfl rfl (.inl rfl) (by rintro ⟨⟩)
      · simp only [mode]
        exact paced.moves (copied_quiet Pipelined.nothing_quiet) rfl rfl (.inr there.symm) (by rintro ⟨⟩)
  | readying present | admitting present =>
    have there : self.submitter.present = some present := by rw [phase]; rfl
    dsimp only
    simp only [ready, admission, mode]
    repeat' split
    all_goals exact paced.moves (copied_quiet Pipelined.nothing_quiet) rfl rfl (.inr there.symm) (by rintro ⟨⟩)
  | probing present =>
    have there : self.submitter.present = some present := by rw [phase]; rfl
    dsimp only
    unfold probe
    split
    · exact paced.moves (copied_quiet Pipelined.nothing_quiet) rfl rfl (.inr there.symm) (by rintro ⟨⟩)
    · exact paced.submissionFailed_kept there (copied_quiet (Pipelined.one_quiet rfl)) rfl
    · exact paced.moves (copied_quiet Pipelined.nothing_quiet) rfl rfl (.inr there.symm) (by rintro ⟨⟩)
    · exact paced.moves (copied_quiet Pipelined.nothing_quiet) rfl rfl (.inr there.symm) (by rintro ⟨⟩)
  | mapping present =>
    have there : self.submitter.present = some present := by rw [phase]; rfl
    dsimp only
    unfold map
    dsimp only
    split
    · exact paced.moves (copied_quiet (Pipelined.one_quiet rfl)) rfl rfl (.inr there.symm) (by rintro ⟨⟩)
    · exact paced.submissionFailed_kept there (copied_quiet (Pipelined.one_quiet rfl)) rfl
  | encoding present =>
    have there : self.submitter.present = some present := by rw [phase]; rfl
    obtain ⟨bounded, frame, next⟩ := paced.bounded_submitted present.ptsNs answer.mapEncodeNs
    dsimp only
    unfold encode
    simp only [mode]
    split
    · exact paced.goes (by simp [copied]) bounded frame next (.inr there.symm) (by rintro ⟨⟩)
    · exact paced.submissionFailed_kept there (by simp [disable, copied]) rfl
    · exact paced.submissionFailed_kept there (by simp [disable, copied]) rfl
  | marking present marks =>
    have there : self.submitter.present = some present := by rw [phase]; rfl
    dsimp only
    unfold mark
    simp only [mode]
    split
    all_goals exact paced.moves (copied_quiet Pipelined.nothing_quiet) rfl rfl (.inr there.symm) (by rintro ⟨⟩)
  | claiming present encoded =>
    have there : self.submitter.present = some present := by rw [phase]; rfl
    dsimp only
    refine paced.moves (copied_quiet Pipelined.nothing_quiet) rfl rfl (.inr ?_) fun _ => by rw [phase]; rfl
    split <;> exact there.symm
  | reclaiming present encoded =>
    have there : self.submitter.present = some present := by rw [phase]; rfl
    obtain ⟨frame, next⟩ := recordAdmission_same self.pacing true
    dsimp only
    unfold reclaim
    split
    · exact paced.goes (copied_quiet (Pipelined.returned_quiet encoded)) (paced.bounded.recordAdmission true) frame next
        (.inl rfl) (by rintro ⟨⟩)
    · exact paced.moves (copied_quiet Pipelined.nothing_quiet) rfl rfl (.inr there.symm) fun _ => by rw [phase]; rfl
  | unmapping present encoded =>
    have there : self.submitter.present = some present := by rw [phase]; rfl
    dsimp only
    unfold unmapReclaimed
    dsimp only
    split
    · exact paced.moves (copied_quiet Pipelined.nothing_quiet) rfl rfl (.inr there.symm) fun _ => by rw [phase]; rfl
    · split
      · exact paced.moves (copied_quiet (Pipelined.one_quiet rfl)) rfl rfl (.inr there.symm) fun _ => by rw [phase]; rfl
      · exact paced.moves (by simp [returns, disable, copied]) rfl rfl (.inl rfl) (by rintro ⟨⟩)
  | freeing present encoded =>
    have there : self.submitter.present = some present := by rw [phase]; rfl
    exact paced.moves (copied_quiet Pipelined.nothing_quiet) rfl rfl (.inr there.symm) fun _ => by rw [phase]; rfl
  | _ => rw [phase] at suits; cases suits

/-- The collector and the outside leave the presents alone. -/
theorem collect_kept (paced : Paced history self) (mode : self.mode = .harvestWorker) (answer : Answer) :
    Paced ((self.collect answer).2 ++ history) (self.collect answer).1 := by
  have returned : ∀ {draining result : Bool} {before : Outcome}, before.1.mode = .harvestWorker →
      before.1.pacing = self.pacing → before.1.submitter = self.submitter → copied (before.2 ++ history) = copied history →
      Paced ((harvestReturned draining result before).2 ++ history) (harvestReturned draining result before).1 := by
    intro draining result before same pacing submitter copies
    unfold harvestReturned
    simp only [same]
    exact paced.moves copies pacing rfl (by rw [submitter]; exact .inr rfl) (by rw [submitter]; exact id)
  unfold collect
  cases phase : self.collector with
  | harvesting draining call =>
    dsimp only
    unfold pollHarvest
    simp only [mode]
    repeat' split
    all_goals first
      | exact paced.moves (copied_quiet Pipelined.nothing_quiet) rfl rfl (.inr rfl) id
      | exact paced.moves (copied_quiet (Pipelined.one_quiet rfl)) rfl rfl (.inr rfl) id
      | exact paced.moves (by simp [copied]) rfl rfl (.inr rfl) id
      | exact returned mode rfl rfl (copied_quiet Pipelined.nothing_quiet)
      | exact returned mode rfl rfl (copied_quiet (Pipelined.one_quiet rfl))
      | exact returned mode rfl rfl (by simp [disable, copied])
  | looping checks =>
    cases checks <;> dsimp only <;> repeat' split
    all_goals exact paced.moves (copied_quiet Pipelined.nothing_quiet) rfl rfl (.inr rfl) id
  | releasing index =>
    dsimp only
    split
    · exact paced.moves (copied_quiet (Pipelined.releaseSlot_quiet _)) rfl rfl (.inr rfl) id
    · exact paced.moves (copied_quiet Pipelined.nothing_quiet) rfl rfl (.inr rfl) id
  | _ =>
    dsimp only
    repeat' split
    all_goals first
      | exact paced
      | exact paced.moves (copied_quiet Pipelined.nothing_quiet) rfl rfl (.inr rfl) id
      | exact paced.moves (copied_quiet (Pipelined.one_quiet rfl)) rfl rfl (.inr rfl) id

theorem step_kept (paced : Paced history self) (mode : self.mode = .harvestWorker)
    (suits : self.submitter.suits self.mode = true) {input : DirectInput}
    (clocked : Clocked history) : Paced ((step self input).2 ++ history) (step self input).1 := by
  have still : copied ([] ++ history) = copied history := copied_quiet Pipelined.nothing_quiet
  unfold step
  cases input with
  | submit present =>
    dsimp only
    split
    · have same : stamps ([.presented present.ptsNs] ++ history) = stamps history :=
        congrArg (List.map Prod.snd) (copied_quiet (Pipelined.presented_quiet present.ptsNs))
      refine ⟨paced.bounded, paced.frame, ?_, ?_, ?_, nofun⟩
      · rintro _ ⟨⟩
        exact List.mem_cons_self
      · change (stamps ([.presented present.ptsNs] ++ history)).Pairwise (· < ·)
        rw [same]
        exact paced.ordered
      · change ∀ ptsNs ∈ stamps ([.presented present.ptsNs] ++ history), ptsNs < self.pacing.nextDueNs
        rw [same]
        exact paced.ahead
    · exact paced
  | submitter answer => exact paced.submitTurn_kept clocked mode suits answer
  | collector answer => exact paced.collect_kept mode answer
  | transport | stopTransport => exact paced.moves still rfl rfl (.inr rfl) id
  | raise flag => cases flag <;> exact paced.moves still rfl rfl (.inr rfl) id
  | finish =>
    dsimp only
    split
    · unfold finishOnGlThread
      simp only [mode]
      split <;> exact paced
    · exact paced

theorem initial {fps : UInt32} (positive : 0 < fps.toNat) (bounded : fps.toNat ≤ 480) (mode : Mode) (width height : UInt32) :
    Paced [] (Direct.initial mode width height fps) := by
  refine ⟨.initial fps, ?_, nofun, List.Pairwise.nil, nofun, nofun⟩
  have quotient : (Direct.initial mode width height fps).pacing.frameIntervalNs.toNat = 1000000000 / fps.toNat := by
    change (1000000000 / fps.toUInt64 : UInt64).toNat = _
    rw [UInt64.toNat_div]
    rfl
  rw [quotient]
  exact ⟨Nat.div_pos (by omega) positive, Nat.div_le_self _ _⟩

end Paced

theorem harvestReturned_mode (draining result : Bool) (before : Outcome) :
    (harvestReturned draining result before).1.mode = before.1.mode := by
  unfold harvestReturned
  dsimp only
  repeat' split
  all_goals rfl

theorem submitTurn_mode (self : Direct) (answer : Answer) : (self.submitTurn answer).1.mode = self.mode := by
  unfold submitTurn
  cases self.submitter with
  | _ =>
    simp only [gate, ready, admission, probe, map, encode, mark, recheck, reclaim, unmapReclaimed, copy, wait, blit,
      finishLoop, submissionFailed]
    repeat' split
    all_goals rfl

theorem collect_mode (self : Direct) (answer : Answer) : (self.collect answer).1.mode = self.mode := by
  unfold collect
  cases self.collector with
  | harvesting draining call =>
    dsimp only
    unfold pollHarvest
    repeat' split
    all_goals first
      | rfl
      | exact harvestReturned_mode _ _ _
  | looping checks =>
    cases checks <;> dsimp only <;> repeat' split
    all_goals rfl
  | _ =>
    dsimp only
    repeat' split
    all_goals rfl

theorem step_mode (self : Direct) (input : DirectInput) : (step self input).1.mode = self.mode := by
  unfold step
  cases input with
  | submitter answer => exact self.submitTurn_mode answer
  | collector answer => exact self.collect_mode answer
  | raise flag => cases flag <;> rfl
  | _ =>
    dsimp only
    repeat' split
    all_goals first
      | rfl
      | unfold finishOnGlThread; dsimp only; repeat' split
    all_goals rfl

/-- On the asynchronous path every copy is of a later present than the ones before it. -/
theorem stamps_increase {width height fps : UInt32} (positive : 0 < fps.toNat) (bounded : fps.toNat ≤ 480)
    {history : List DirectEvent} {direct : Direct}
    (run : Run step Fresh (· = Direct.initial .harvestWorker width height fps) history direct) (clocked : Clocked history) :
    (stamps history).Pairwise (· < ·) := by
  suffices both : direct.mode = .harvestWorker ∧ Paced history direct from both.2.ordered
  induction run with
  | start begun =>
    subst begun
    exact ⟨rfl, .initial positive bounded _ _ _⟩
  | step input before fresh ih =>
    obtain ⟨mode, paced⟩ := ih clocked.before
    obtain ⟨⟨harvests, encodes, pipelined⟩, -⟩ := Pipelined.of_run before
    exact ⟨(step_mode _ input).trans mode, paced.step_kept mode pipelined.suits clocked.before⟩

end Direct

end Luma.Encoder
