import Luma.Encoder.PipelineHarvest

/-! The pipeline through the teardown on the GL thread, and over runs. -/

set_option autoImplicit false

namespace Luma.Encoder

/-- The phases of `luma_nvenc_direct_finish_on_gl_thread`. -/
def Submitter.ends : Submitter → Bool
  | .finishing _ | .finishPolling _ | .joiningOutput | .stoppingTransport | .joiningTransport | .releasing _ => true
  | _ => false

/-- Those after it has stopped the transport. -/
def Submitter.stops : Submitter → Bool
  | .joiningTransport | .releasing _ => true
  | _ => false

end Luma.Encoder

namespace Luma.Encoder.Direct

open Luma.Library Luma.Library.Transition

variable {harvests encodes : Nat} {history : List DirectEvent} {self : Direct}

/-- A teardown on the GL thread has set its flags before. -/
structure Closes (direct : Direct) : Prop where
  started : direct.submitter.ends = true → direct.cleanupStarted = true
  stopped : direct.submitter.stops = true → direct.disabled = true

namespace Closes

theorem of_apart (apart : self.submitter.ends = false) : Closes self where
  started ends := nomatch apart.symm.trans ends
  stopped stops := by
    cases phase : self.submitter <;> simp [phase, Submitter.ends, Submitter.stops] at apart stops

/-- The two flags are not taken back. -/
theorem same (closes : Closes self) {after : Direct} (submitter : after.submitter = self.submitter)
    (cleans : self.cleanupStarted = true → after.cleanupStarted = true)
    (disables : self.disabled = true → after.disabled = true) : Closes after where
  started ends := cleans (closes.started (submitter ▸ ends))
  stopped stops := disables (closes.stopped (submitter ▸ stops))

/-- A submission stays one, or returns. -/
theorem submits (answer : Answer) (apart : self.submitter.ends = false) :
    (self.submitTurn answer).1.submitter.ends = false := by
  unfold submitTurn
  cases phase : self.submitter with
  | idle | polling => simpa [phase] using apart
  | gating | readying | admitting | probing | mapping | encoding | marking | rechecking | claiming | reclaiming |
    unmapping | freeing | copying | waiting | counting | testing | blitting =>
    simp only [gate, ready, admission, probe, map, encode, mark, recheck, reclaim, unmapReclaimed, copy, wait, blit,
      submissionFailed]
    repeat' split
    all_goals rfl
  | _ => rw [phase] at apart; cases apart

theorem submitTurn_kept (closes : Closes self) (answer : Answer) : Closes (self.submitTurn answer).1 := by
  by_cases apart : self.submitter.ends = false
  · exact of_apart (submits answer apart)
  · have started := closes.started (Bool.eq_true_of_not_eq_false apart)
    unfold submitTurn
    cases phase : self.submitter with
    | finishPolling => exact closes
    | finishing tries =>
      dsimp only
      unfold finishLoop
      split <;> exact ⟨fun _ => started, nofun⟩
    | joiningOutput =>
      dsimp only
      split
      · exact ⟨fun _ => started, nofun⟩
      · exact closes
    | stoppingTransport => exact ⟨fun _ => started, fun _ => rfl⟩
    | joiningTransport =>
      have stopped := closes.stopped (by rw [phase]; rfl)
      dsimp only
      split
      · exact ⟨fun _ => started, fun _ => stopped⟩
      · exact closes
    | releasing index =>
      have stopped := closes.stopped (by rw [phase]; rfl)
      dsimp only
      split
      · exact ⟨fun _ => started, fun _ => stopped⟩
      · exact ⟨nofun, nofun⟩
    | _ => rw [phase] at apart; exact absurd rfl apart

theorem harvestReturned_kept (closes : Closes self) {draining result : Bool} {seen : List DirectEvent}
    {slots : Fin kSlots → Slot} {submitted : RingQueue kSlots (Fin kSlots)} {disabled : Bool}
    (disables : self.disabled = true → disabled = true) :
    Closes (harvestReturned draining result ({ self with slots, submitted, disabled }, seen)).1 := by
  unfold harvestReturned
  dsimp only
  split
  · exact closes.same rfl id disables
  · exact closes.same rfl id disables
  · split
    · split <;> exact of_apart rfl
    · rename_i phase
      have started := closes.started (by rw [phase]; rfl)
      cases result <;> exact ⟨fun _ => started, nofun⟩
    · exact closes.same rfl id disables

theorem collect_kept (closes : Closes self) (answer : Answer) : Closes (self.collect answer).1 := by
  unfold collect
  cases phase : self.collector with
  | harvesting draining call =>
    dsimp only
    unfold pollHarvest
    repeat' split
    all_goals first
      | exact closes.same rfl id id
      | exact closes.harvestReturned_kept id
      | exact closes.harvestReturned_kept fun _ => rfl
  | looping checks =>
    cases checks <;> dsimp only <;> repeat' split
    all_goals exact closes.same rfl id id
  | _ =>
    dsimp only
    repeat' split
    all_goals first
      | exact closes
      | exact closes.same rfl id id
      | exact closes.same rfl id fun _ => rfl

theorem step_kept (closes : Closes self) (input : DirectInput) : Closes (step self input).1 := by
  unfold step
  cases input with
  | submit present =>
    dsimp only
    split
    · exact of_apart rfl
    · exact closes
  | submitter answer => exact closes.submitTurn_kept answer
  | collector answer => exact closes.collect_kept answer
  | transport | stopTransport => exact closes.same rfl id id
  | raise flag =>
    cases flag with
    | disabled => exact closes.same rfl id fun _ => rfl
    | stopRequested | shutdownNow => exact closes.same rfl id id
  | finish =>
    dsimp only
    split
    · unfold finishOnGlThread
      split
      · exact closes
      · dsimp only
        split
        · exact closes
        · exact ⟨fun _ => rfl, nofun⟩
        · exact ⟨fun _ => rfl, nofun⟩
    · exact closes

end Closes

namespace Pipelined

/-- The encoder is there until the teardown on the GL thread has released it. -/
theorem live_of_ends (pipelined : Pipelined harvests encodes history self) (ends : self.submitter.ends = true) :
    self.mode ≠ .harvestWorker ∧ self.initialized = true := by
  have suits := pipelined.suits
  have other : self.mode ≠ .harvestWorker := by
    intro mode
    rw [mode] at suits
    cases phase : self.submitter <;> rw [phase] at suits ends <;> first | cases ends; done | cases suits
  refine ⟨other, pipelined.alive.resolve_right fun released => ?_⟩
  unfold Released at released
  have rests : self.submitter = .idle ∨ ∃ present checks, self.submitter = .gating present checks := by
    cases mode : self.mode with
    | harvestWorker => exact absurd mode other
    | synchronous | outputWorker =>
      simp only [mode] at released
      exact released.2.2.2.2.2
  rcases rests with phase | ⟨present, checks, phase⟩ <;> rw [phase] at ends <;> cases ends

/-- From one phase of the teardown to the next. -/
theorem unwinds (pipelined : Pipelined harvests encodes history self) (ends : self.submitter.ends = true)
    {later : Submitter} {slots : Fin kSlots → Slot} {seen : List DirectEvent}
    (still : ∀ event ∈ seen, quiet event = true) (alike : Alike slots self.slots)
    (suits : later.suits self.mode = true) (threads : Threads { self with submitter := later, slots })
    (torn : (∃ index, later = .releasing index) → Worker.gone self.transport.worker = true)
    (rests : later.Rests self.disabled) :
    Pipelined harvests encodes (seen ++ history) { self with submitter := later, slots } := by
  refine pipelined.goes still alike suits threads (.inl (pipelined.live_of_ends ends).2) ?_ (fun _ => rests) fun _ => .inl rests
  rintro (releasing | releasing)
  · exact torn releasing
  · exact pipelined.torn (.inr releasing)

theorem finishLoop_kept (pipelined : Pipelined harvests encodes history self) {tries : Nat}
    (phase : self.submitter = .finishing tries) :
    Pipelined harvests encodes ((self.finishLoop tries).2 ++ history) (self.finishLoop tries).1 := by
  have suits := pipelined.suits
  have threads := pipelined.threads
  rw [phase] at suits
  have mode : self.mode = .synchronous := of_decide_eq_true suits
  have live := pipelined.live_of_ends (by rw [phase]; rfl)
  unfold finishLoop
  split
  · refine pipelined.unwinds (by rw [phase]; rfl) nothing_quiet (Alike.refl _) (by rw [mode]; rfl) ?_ nofun trivial
    unfold Threads at threads ⊢
    simpa only [mode, phase] using threads
  · refine pipelined.calls mode (fun released => ?_) (.inr ⟨tries, rfl⟩) (fun _ => trivial) (by rw [phase]; rfl)
      (by rw [phase]; rfl)
    exact nomatch released.1.symm.trans live.2

theorem stoppingTransport_kept (pipelined : Pipelined harvests encodes history self)
    (phase : self.submitter = .stoppingTransport) :
    Pipelined harvests encodes history
      { self with
        disabled := true
        stopRequested := true
        transport := { self.transport with stop := true }
        submitter := .joiningTransport } := by
  have threads := pipelined.threads
  have other := (pipelined.live_of_ends (by rw [phase]; rfl)).1
  have stopped : Pipelined harvests encodes history
      { self with disabled := true, stopRequested := true, transport := { self.transport with stop := true } } :=
    pipelined.noisy (fun _ => rfl) id id
  refine stopped.unwinds (by exact phase ▸ rfl) nothing_quiet (Alike.refl _) (decide_eq_true other) ?_ nofun rfl
  unfold Threads at threads ⊢
  cases mode : self.mode <;> simp only [mode, phase] at threads ⊢
  · exact threads
  · exact threads
  · exact absurd mode other

theorem joiningOutput_kept (pipelined : Pipelined harvests encodes history self)
    (phase : self.submitter = .joiningOutput) (answer : Answer) :
    Pipelined harvests encodes ((self.submitTurn answer).2 ++ history) (self.submitTurn answer).1 := by
  have suits := pipelined.suits
  rw [phase] at suits
  have mode : self.mode = .outputWorker := of_decide_eq_true suits
  unfold submitTurn
  rw [phase]
  dsimp only
  split
  · rename_i ended
    refine pipelined.unwinds (by rw [phase]; rfl) nothing_quiet (Alike.refl _) (by rw [mode]; rfl) ?_ nofun trivial
    unfold Threads
    simp only [mode, ended]
  · exact pipelined

theorem joiningTransport_kept (pipelined : Pipelined harvests encodes history self) (closes : Closes self)
    (phase : self.submitter = .joiningTransport) (answer : Answer) :
    Pipelined harvests encodes ((self.submitTurn answer).2 ++ history) (self.submitTurn answer).1 := by
  have threads := pipelined.threads
  have other := (pipelined.live_of_ends (by rw [phase]; rfl)).1
  unfold submitTurn
  rw [phase]
  dsimp only
  split
  · rename_i gone
    refine pipelined.unwinds (by rw [phase]; rfl) nothing_quiet (Alike.refl _) (decide_eq_true other) ?_ (fun _ => gone)
      (closes.stopped (by rw [phase]; rfl))
    unfold Threads at threads ⊢
    cases mode : self.mode <;> simp only [mode, phase] at threads ⊢
    · exact threads
    · exact threads
    · exact absurd mode other
  · exact pipelined

theorem releasing_kept (pipelined : Pipelined harvests encodes history self) (closes : Closes self) {index : Nat}
    (phase : self.submitter = .releasing index) (answer : Answer) :
    Pipelined harvests encodes ((self.submitTurn answer).2 ++ history) (self.submitTurn answer).1 := by
  have threads := pipelined.threads
  have other := (pipelined.live_of_ends (by rw [phase]; rfl)).1
  have gone := pipelined.torn (.inl ⟨index, phase⟩)
  have disabled := closes.stopped (by rw [phase]; rfl)
  have started := closes.started (by rw [phase]; rfl)
  unfold submitTurn
  rw [phase]
  dsimp only
  split
  · refine pipelined.unwinds (by rw [phase]; rfl) (releaseSlot_quiet _) (setSlot_alike rfl rfl rfl rfl)
      (decide_eq_true other) ?_ (fun _ => gone) disabled
    unfold Threads at threads ⊢
    cases mode : self.mode <;> simp only [mode, phase] at threads ⊢
    · exact threads
    · exact threads
    · exact absurd mode other
  · unfold Threads at threads
    refine pipelined.releases ?_ ⟨rfl, gone, ?_⟩ (fun draining call harvesting => ?_) rfl (fun _ => disabled)
      fun _ => .inl disabled
    · unfold Threads
      have kept : self.releaseEncoder.mode = self.mode := rfl
      cases mode : self.mode <;> simp only [kept, mode, phase] at threads ⊢
      · exact threads
      · have same : self.releaseEncoder.collector = .ended := threads
        rw [same]
        exact trivial
      · exact absurd mode other
    · have kept : self.releaseEncoder.mode = self.mode := rfl
      cases mode : self.mode <;> simp only [kept, mode, phase] at threads ⊢
      · exact ⟨(by rintro ⟨⟩), started, disabled, .inl trivial⟩
      · exact ⟨fun _ => threads, started, disabled, .inl trivial⟩
      · exact absurd mode other
    · cases mode : self.mode <;> simp only [mode, phase] at threads
      · cases threads.symm.trans harvesting
      · cases threads.symm.trans harvesting
      · exact absurd mode other

theorem submitTurn_kept (pipelined : Pipelined harvests encodes history self) (closes : Closes self) (answer : Answer) :
    ∃ harvests encodes, Pipelined harvests encodes ((self.submitTurn answer).2 ++ history) (self.submitTurn answer).1 := by
  cases phase : self.submitter with
  | gating present checks =>
    unfold submitTurn
    rw [phase]
    exact pipelined.gate_kept phase
  | marking present marks =>
    unfold submitTurn
    rw [phase]
    exact ⟨harvests, pipelined.mark_kept phase⟩
  | joiningOutput => exact ⟨harvests, encodes, pipelined.joiningOutput_kept phase answer⟩
  | joiningTransport => exact ⟨harvests, encodes, pipelined.joiningTransport_kept closes phase answer⟩
  | releasing index => exact ⟨harvests, encodes, pipelined.releasing_kept closes phase answer⟩
  | _ =>
    refine ⟨harvests, encodes, ?_⟩
    unfold submitTurn
    rw [phase]
    first
    | exact pipelined
    | exact pipelined.ready_kept phase
    | exact pipelined.admission_kept phase
    | exact pipelined.probe_kept answer.wait phase
    | exact pipelined.map_kept answer.succeeds phase
    | exact pipelined.encode_kept answer phase
    | exact pipelined.recheck_kept phase
    | exact pipelined.claiming_kept phase _
    | exact pipelined.reclaim_kept phase
    | exact pipelined.unmapReclaimed_kept phase answer.succeeds
    | exact pipelined.freeing_kept phase
    | exact pipelined.copy_kept phase answer.succeeds
    | exact pipelined.wait_kept phase
    | exact pipelined.counting_kept phase
    | exact pipelined.testing_kept phase _
    | exact pipelined.blit_kept phase
    | exact pipelined.finishLoop_kept phase
    | exact pipelined.stoppingTransport_kept phase

/-- A teardown begins. -/
theorem finishOnGlThread_kept (pipelined : Pipelined harvests encodes history self) (idle : self.submitter = .idle) :
    Pipelined harvests encodes ((self.finishOnGlThread).2 ++ history) (self.finishOnGlThread).1 := by
  have live : self.cleanupStarted = false → self.mode ≠ .harvestWorker → self.initialized = true := by
    intro fresh other
    refine pipelined.alive.resolve_right fun released => ?_
    unfold Released at released
    cases mode : self.mode <;> simp only [mode] at released
    case harvestWorker => exact other mode
    all_goals exact nomatch fresh.symm.trans released.2.2.2.1
  have begins : ∀ (later : Submitter) (started : Direct), later.joined = false → later.suits self.mode = true →
      (∀ disabled, later.Rests disabled) → started.mode = self.mode → started.collector = self.collector →
      started.submitter = self.submitter → started.initialized = true → Pipelined harvests encodes history started →
      Pipelined harvests encodes history { started with submitter := later } := by
    intro later started apart suits rests mode collector submitter alive kept
    refine kept.goes nothing_quiet (Alike.refl _) (mode ▸ suits) ?_ (.inl alive) ?_ (fun _ => rests _) fun _ => .inl (rests _)
    · exact kept.threads.moved rfl rfl (by rw [submitter, idle]; rfl) apart
    · rintro (⟨index, releasing⟩ | releasing)
      · change later = .releasing index at releasing
        rw [releasing] at apart
        cases apart
      · exact kept.torn (.inr releasing)
  unfold finishOnGlThread
  split
  · exact pipelined
  · rename_i fresh
    have fresh := Bool.eq_false_of_not_eq_true fresh
    dsimp only
    split
    · exact pipelined
    · rename_i mode
      exact begins .joiningOutput { self with cleanupStarted := true, disabled := true, stopRequested := true } rfl
        (by rw [mode]; rfl) (fun _ => trivial) rfl rfl rfl (live fresh (by rw [mode]; decide))
        (pipelined.noisy (fun _ => rfl) (fun _ => rfl) id)
    · rename_i mode
      exact begins (.finishing 2000) { self with cleanupStarted := true } rfl (by rw [mode]; rfl) (fun _ => trivial)
        rfl rfl rfl (live fresh (by rw [mode]; decide)) (pipelined.noisy id (fun _ => rfl) id)

/-- What `work` leaves is a worker that has ended, if it had before. -/
theorem gone_work {transport : Transport} (gone : Worker.gone transport.worker = true) (succeeds : Bool) :
    Worker.gone (transport.work succeeds).1.worker = true := by
  cases phase : transport.worker <;> rw [phase] at gone <;> cases gone <;> simp [Transport.work, phase, Worker.gone]

theorem step_kept (pipelined : Pipelined harvests encodes history self) (closes : Closes self) {input : DirectInput}
    (fresh : Fresh history self input) :
    ∃ harvests encodes, Pipelined harvests encodes ((step self input).2 ++ history) (step self input).1 := by
  unfold step
  cases input with
  | submit present =>
    dsimp only
    refine ⟨harvests, encodes, ?_⟩
    split
    · rename_i idle
      refine pipelined.submit_kept idle present ?_
      split <;> decide
    · exact pipelined
  | submitter answer => exact pipelined.submitTurn_kept closes answer
  | collector answer => exact pipelined.collect_kept fresh
  | transport succeeds => exact ⟨harvests, encodes, pipelined.noisy id id fun gone => gone_work gone succeeds⟩
  | stopTransport => exact ⟨harvests, encodes, pipelined.noisy id id id⟩
  | raise flag =>
    refine ⟨harvests, encodes, ?_⟩
    cases flag with
    | disabled => exact pipelined.noisy (fun _ => rfl) id id
    | stopRequested | shutdownNow => exact pipelined.noisy id id id
  | finish =>
    dsimp only
    refine ⟨harvests, encodes, ?_⟩
    split
    · rename_i idle
      exact pipelined.finishOnGlThread_kept idle
    · exact pipelined

theorem initial (mode : Mode) (width height fps : UInt32) : Pipelined 0 0 [] (Direct.initial mode width height fps) := by
  constructor
  case numbered => rfl
  case place => cases mode <;> rfl
  case suits => rfl
  case threads => cases mode <;> simp [Threads, Direct.initial]
  case alive => exact .inl rfl
  case torn =>
    rintro (⟨index, releasing⟩ | ⟨index, releasing⟩)
    · cases releasing
    · cases mode <;> cases releasing
  case order => exact ⟨Nat.le_refl _, Nat.zero_le _⟩
  case ring => exact fun _ => ⟨rfl, rfl, Nat.zero_le _, nofun⟩
  case atHead =>
    intro draining call harvesting
    cases mode <;> cases harvesting
  case taken => exact .inl rfl
  case tried => exact .inl rfl
  case output => exact .inl (List.Sublist.refl _)
  case whole => exact .inr (Nat.zero_le _)
  case settled =>
    refine .inr ⟨rfl, rfl, fun _ => ?_, fun _ => rfl, ?_, ?_, nofun, nofun, ?_, nofun⟩
    · exact ⟨rfl, Nat.zero_le _, Nat.zero_le _, nofun, nofun⟩
    · rintro _ _ _ (reads | reads) <;> cases reads
    · rintro _ (reads | reads) <;> cases reads
    · rintro _ _ (reads | reads) <;> cases reads

/-- Through every run without a second collection of a picture, the pictures are in line. -/
theorem of_run {mode : Mode} {width height fps : UInt32} {history : List DirectEvent} {direct : Direct}
    (run : Run step Fresh (· = Direct.initial mode width height fps) history direct) :
    (∃ harvests encodes, Pipelined harvests encodes history direct) ∧ Closes direct := by
  induction run with
  | start begun =>
    subst begun
    exact ⟨⟨0, 0, initial mode width height fps⟩, .of_apart rfl⟩
  | step input _ fresh ih =>
    obtain ⟨⟨harvests, encodes, pipelined⟩, closes⟩ := ih
    exact ⟨pipelined.step_kept closes fresh, closes.step_kept input⟩

end Pipelined

end Luma.Encoder.Direct
