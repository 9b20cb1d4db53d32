import Luma.Encoder.SlotLife

/-! The slots through the turns of the submitting thread. -/

set_option autoImplicit false

namespace Luma.Encoder.Direct

open Luma.Library Luma.Library.Transition

variable {harvests encodes : Nat} {history seen : List DirectEvent} {self after : Direct} {slot : Fin kSlots}

namespace Slotted

theorem nothing_calm : ∀ event ∈ ([] : List DirectEvent), calm event = true := nofun

theorem returned_calm (value : Bool) : ∀ event ∈ [DirectEvent.returned value], calm event = true := by simp [calm]

/-- A turn of the submitting thread outside the teardown and without a picture in hand. -/
theorem goes (slotted : Slotted history self) {submitter later : Submitter} {pacing : Pacing} {disabled : Bool}
    (phase : self.submitter = submitter) (empty : submitter.holds = false)
    (unreleased : ∀ index, submitter ≠ .releasing index) (still : ∀ event ∈ seen, calm event = true)
    (rests : submitter.Rests self.disabled → later.Rests disabled)
    (relies : Relies (seen ++ history) { self with submitter := later, pacing, disabled } later) :
    Slotted (seen ++ history) { self with submitter := later, pacing, disabled } := by
  subst phase
  refine slotted.submits still rfl (fun _ => rfl) rfl rfl rfl empty rests relies ?_
  rintro (⟨index, releasing⟩ | releasing)
  · exact absurd releasing (unreleased index)
  · exact .inr releasing

/-- `poll` is called where nothing is harvested. -/
theorem calls (slotted : Slotted history self) (pipelined : Pipelined harvests encodes history self)
    {submitter later : Submitter} {pacing : Pacing} (phase : self.submitter = submitter) (mode : self.mode = .synchronous)
    (apart : submitter.joined = false) (empty : submitter.holds = false)
    (rests : submitter.Rests self.disabled → later.Rests self.disabled)
    (relies : Relies history { self with pacing, submitter := later, collector := .harvesting false (.testing none) } later) :
    Slotted history { self with pacing, submitter := later, collector := .harvesting false (.testing none) } := by
  have idle : self.collector = .absent := by
    have threads := pipelined.threads
    unfold Threads at threads
    simp only [mode, phase] at threads
    cases submitter <;> simp only [Submitter.joined] at threads apart <;> first | exact threads | cases apart
  subst phase
  refine slotted.strolls nothing_calm rfl (fun _ => rfl) rfl rfl (fun _ _ _ advancing => ?_)
    (fun _ worked => by cases empty.symm.trans worked.1) rests relies (fun draining call harvesting => ?_) ?_
  · cases idle.symm.trans advancing
  · cases harvesting
    trivial
  · rintro (⟨index, releasing⟩ | ⟨index, releasing⟩)
    · rw [releasing] at apart
      cases apart
    · cases idle.symm.trans releasing

theorem gate_kept (slotted : Slotted history self) (pipelined : Pipelined harvests encodes history self)
    {present : Present} {checks : List Check} (phase : self.submitter = .gating present checks) :
    Slotted ((self.gate present checks).2 ++ history) (self.gate present checks).1 := by
  cases checks with
  | cons check checks =>
    rw [gate]
    split
    · rename_i passes
      refine slotted.goes phase rfl (by simp) nothing_calm (fun resting => ⟨resting.1, ?_⟩) trivial
      rcases List.mem_cons.mp resting.2 with rfl | later
      · simp [Direct.passes, resting.1] at passes
      · exact later
    · exact slotted.goes phase rfl (by simp) (returned_calm false) (fun resting => resting.1) trivial
  | nil =>
    have awake : ¬Submitter.Rests self.disabled (.gating present []) := fun resting => by cases resting.2
    rw [gate]
    split
    · exact slotted.goes phase rfl (by simp) (by simp [returns, disable, calm]) (fun _ => rfl) trivial
    · split
      · exact slotted.goes phase rfl (by simp) nothing_calm (fun resting => absurd resting awake) trivial
      · exact slotted.goes phase rfl (by simp) nothing_calm (fun resting => absurd resting awake) trivial
      · rename_i mode
        split
        · exact slotted.goes phase rfl (by simp) (returned_calm false) (fun resting => absurd resting awake) trivial
        · exact slotted.calls pipelined phase mode rfl rfl (fun resting => absurd resting awake) trivial

theorem admission_kept (slotted : Slotted history self) {present : Present} {inFlight : Nat}
    (phase : self.submitter = .admitting present inFlight) :
    Slotted ((self.admission present inFlight).2 ++ history) (self.admission present inFlight).1 := by
  have relies := slotted.relies
  rw [phase] at relies
  unfold admission
  generalize self.transport.canAdmit inFlight = admitted
  dsimp only
  split
  · cases admitted <;> exact slotted.goes phase rfl nofun nothing_calm nofun trivial
  · rename_i mode
    cases admitted with
    | false => exact slotted.goes phase rfl nofun nothing_calm nofun trivial
    | true => exact slotted.goes phase rfl nofun nothing_calm nofun (relies mode)
  · split
    · exact slotted.goes phase rfl nofun (returned_calm false) nofun trivial
    · rename_i admits
      simp only [Bool.or_eq_true, not_or] at admits
      exact slotted.goes phase rfl nofun nothing_calm nofun (Bool.eq_false_of_not_eq_true admits.1.2)

theorem submissionFailed_goes (slotted : Slotted history self) {present : Present} {submitter : Submitter}
    (phase : self.submitter = submitter) (empty : submitter.holds = false)
    (unreleased : ∀ index, submitter ≠ .releasing index) (awake : ∀ disabled, ¬submitter.Rests disabled)
    {stage : String} (known : stage ≠ "internal output ordering") :
    Slotted ((submissionFailed present (self.disable stage)).2 ++ history) (submissionFailed present (self.disable stage)).1 := by
  have silent : ∀ event ∈ [DirectEvent.disabled stage], calm event = true := by simpa [calm] using known
  have ended : ∀ event ∈ [DirectEvent.returned false, .disabled stage], calm event = true := by simpa [calm] using known
  unfold submissionFailed
  split
  · exact slotted.goes phase empty unreleased silent (fun resting => absurd resting (awake _)) trivial
  all_goals exact slotted.goes phase empty unreleased ended (fun resting => absurd resting (awake _)) trivial

theorem probe_kept (slotted : Slotted history self) (pipelined : Pipelined harvests encodes history self)
    {present : Present} (phase : self.submitter = .probing present) (answer : WaitResult) :
    Slotted ((self.probe present answer).2 ++ history) (self.probe present answer).1 := by
  have mode := pipelined.asynchronous phase fun _ => rfl
  have probed : Slotted ([] ++ history)
      ((self.setSlot self.encodeNext { self.slots self.encodeNext with copyFence := false }).submitterAt
        (.mapping present)).1 := by
    refine slotted.works pipelined phase (by rintro ⟨⟩) rfl rfl rfl rfl rfl (fun _ => rfl) (fun slot other => ?_) own_nil
      slotted.respects (.inl rfl) (fun output => by cases mode.symm.trans output) (fun other => absurd mode other)
      (fun other => absurd mode other)
    have apart : slot ≠ self.encodeNext := by
      unfold encodeSlot at other
      rwa [mode] at other
    simp [submitterAt, setSlot, apart]
  unfold probe
  cases answer with
  | timeoutExpired => exact slotted.goes phase rfl (by simp) nothing_calm (by rintro ⟨⟩) trivial
  | waitFailed => exact slotted.submissionFailed_goes phase rfl (by simp) (by rintro _ ⟨⟩) (by decide)
  | alreadySignaled | conditionSatisfied => exact probed

/-- The submission of the picture in hand fails. -/
theorem fails (slotted : Slotted history self) (pipelined : Pipelined harvests encodes history self)
    {submitter : Submitter} {present : Present} {place : Slot} (phase : self.submitter = submitter)
    (awake : ∀ disabled, ¬submitter.Rests disabled) (admitted : submitter.admitted = true) (done : place.copyPending = false)
    (own : Own self.encodeSlot seen)
    (respects : Throughout (Respects Abandoned) (seen ++ history))
    (idle : self.mode = .outputWorker → (self.slots self.next).busy = false) :
    Slotted
      ((submissionFailed present ({ self.setSlot self.encodeSlot place with disabled := true }, seen)).2 ++ history)
      (submissionFailed present ({ self.setSlot self.encodeSlot place with disabled := true }, seen)).1 := by
  have elsewhere : ∀ slot, slot ≠ self.encodeSlot →
      ((self.setSlot self.encodeSlot place).slots slot).flags = (self.slots slot).flags := by
    intro slot other
    simp [setSlot, other]
  have after : ((self.setSlot self.encodeSlot place).slots self.encodeSlot).copyPending = false := by simpa [setSlot] using done
  unfold Direct.submissionFailed
  dsimp only
  split
  · exact slotted.works pipelined phase (awake _) admitted rfl rfl rfl rfl (by rintro ⟨⟩) elsewhere own respects (.inr rfl) idle trivial
      fun _ => after
  all_goals
    have told : Own self.encodeSlot (.returned false :: seen) := own_cons (by simp [becomes]) (by simp) own
    exact slotted.works pipelined phase (awake _) admitted rfl rfl rfl rfl (by rintro ⟨⟩) elsewhere told ⟨trivial, respects⟩
      (.inr rfl) idle trivial fun _ => after

theorem map_kept (slotted : Slotted history self) (pipelined : Pipelined harvests encodes history self)
    {present : Present} (phase : self.submitter = .mapping present) (succeeds : Bool) :
    Slotted ((self.map present succeeds).2 ++ history) (self.map present succeeds).1 := by
  have relies := slotted.relies
  rw [phase] at relies
  have idle : self.mode = .outputWorker → (self.slots self.next).busy = false := fun output => relies (by rw [output]; decide)
  unfold map
  dsimp only
  split
  · refine slotted.works pipelined phase (by rintro ⟨⟩) rfl rfl rfl rfl rfl (fun _ => rfl) (fun slot other => ?_) ?_
      ⟨trivial, slotted.respects⟩ (.inl rfl) idle (fun other => ?_) fun other => ?_
    · simp [setSlot, other]
    · simp [Own, becomes]
    · have same : self.encodeSlot = self.next := encodeSlot_next other
      simpa [setSlot, same] using relies other
    · simpa [setSlot] using slotted.unpending other self.encodeSlot
  · exact slotted.fails pipelined phase (fun _ => (by rintro ⟨⟩)) rfl rfl (by simp [Own, becomes])
      ⟨by simp [Respects], slotted.respects⟩ idle

theorem encode_kept (slotted : Slotted history self) (pipelined : Pipelined harvests encodes history self)
    {present : Present} (phase : self.submitter = .encoding present) (answer : Answer) :
    Slotted ((self.encode present answer).2 ++ history) (self.encode present answer).1 := by
  have relies := slotted.relies
  rw [phase] at relies
  have idle : self.mode = .outputWorker → (self.slots self.next).busy = false := fun output => relies (by rw [output]; decide)
  unfold encode
  dsimp only
  split
  · refine slotted.works pipelined phase (by rintro ⟨⟩) rfl rfl rfl rfl rfl (fun _ => rfl) (fun slot other => ?_) ?_
      ⟨trivial, slotted.respects⟩ (.inl rfl) idle ⟨?_, List.suffix_refl _, fun other _ => ?_, .inr ⟨.inl ?_, .inl ?_⟩⟩
      fun _ => ?_
    · simp [setSlot, other]
    · simp [Own, becomes]
    · simp [setSlot, encodeSlot]
    · have same : self.encodeSlot = self.next := encodeSlot_next other
      simpa [setSlot, same] using relies other
    · cases self.mode <;> simp [marks]
    · cases self.mode <;> simp [marks]
    · simp [setSlot]
  · exact slotted.fails pipelined phase (fun _ => (by rintro ⟨⟩)) rfl rfl (by simp [Own, becomes, disable])
      ⟨by simp [Respects], trivial, slotted.respects⟩ idle
  · rename_i failed
    -- The encoder has not taken the picture, so that the slot may be unmapped.
    refine slotted.fails pipelined phase (fun _ => (by rintro ⟨⟩)) rfl rfl (by simp [Own, becomes, disable])
      ⟨by simp [Respects], .inr ?_, trivial, slotted.respects⟩ idle
    simp [life, becomes, failed]

theorem mark_kept (slotted : Slotted history self) (pipelined : Pipelined harvests encodes history self)
    {present : Present} {marks : List Mark} (phase : self.submitter = .marking present marks) :
    Slotted ((self.mark present marks).2 ++ history) (self.mark present marks).1 := by
  have relies := slotted.relies
  rw [phase] at relies
  obtain ⟨pending, suffix, idle, flags⟩ := relies
  cases marks with
  | nil =>
    unfold mark
    dsimp only
    split
    · exact slotted.appended pipelined phase nothing_calm rfl rfl rfl rfl rfl trivial
    all_goals exact slotted.appended pipelined phase (returned_calm true) rfl rfl rfl rfl rfl trivial
  | cons first later =>
    have rest : later <:+ Direct.marks self.mode := (List.suffix_cons first later).trans suffix
    have last : self.mode ≠ .harvestWorker → first :: later = [.unharvested, .busy] ∨ first :: later = [.busy] := by
      intro other
      obtain ⟨front, same⟩ := suffix
      unfold Direct.marks at same
      cases mode : self.mode with
      | harvestWorker => exact absurd mode other
      | synchronous | outputWorker =>
        rw [mode] at same
        rcases front with _ | ⟨_, _ | ⟨_, front⟩⟩ <;> simp_all
    have vacant : self.mode ≠ .harvestWorker → (self.slots self.next).busy = false := by
      intro other
      refine idle other ?_
      rcases last other with same | same <;> simp [same]
    have elsewhere : ∀ (place : Slot) (slot : Fin kSlots), slot ≠ self.encodeSlot →
        ((self.setSlot self.encodeSlot place).slots slot).flags = (self.slots slot).flags := by
      intro place slot other
      simp [setSlot, other]
    have output : self.mode = .outputWorker → (self.slots self.next).busy = false := fun output => vacant (by rw [output]; decide)
    cases first with
    | busy =>
      rw [mark]
      refine slotted.works pipelined phase (by rintro ⟨⟩) rfl rfl rfl rfl rfl (fun _ => rfl) (elsewhere _) own_nil slotted.respects
        (.inl rfl) output ⟨?_, rest, fun other more => ?_, ?_⟩ fun other => ?_
      · simpa [setSlot, submitterAt, encodeSlot] using pending
      · rcases last other with same | same <;> simp_all
      · refine flags.imp id fun known => ⟨.inr ?_, ?_⟩
        · simp [setSlot, submitterAt, encodeSlot]
        · simpa [setSlot, submitterAt, encodeSlot] using known.2
      · simpa [setSlot, submitterAt] using pending
    | unharvested =>
      rw [mark]
      refine slotted.works pipelined phase (by rintro ⟨⟩) rfl rfl rfl rfl rfl (fun _ => rfl) (elsewhere _) own_nil slotted.respects
        (.inl rfl) output ⟨?_, rest, fun other _ => ?_, ?_⟩ fun other => ?_
      · simpa [setSlot, submitterAt, encodeSlot] using pending
      · have same : self.encodeSlot = self.next := encodeSlot_next other
        simpa [setSlot, submitterAt, same] using vacant other
      · refine flags.imp id fun known => ⟨?_, .inr ?_⟩
        · simpa [setSlot, submitterAt, encodeSlot] using known.1
        · simp [setSlot, submitterAt, encodeSlot]
      · simpa [setSlot, submitterAt] using pending

/-- A vacant slot that nobody has in hand is free. -/
theorem free (slotted : Slotted history self) {submitter : Submitter} (phase : self.submitter = submitter)
    (empty : submitter.holds = false) (awake : ¬submitter.Rests self.disabled) (spared : ¬Abandoned slot history)
    (vacant : (self.slots slot).Vacant) : life slot history = .free :=
  (slotted.vacant slot spared (fun worked => nomatch (phase ▸ empty).symm.trans worked.1) vacant).resolve_right (phase ▸ awake)

theorem recheck_kept (slotted : Slotted history self) {present : Present} {encoded : Bool}
    (phase : self.submitter = .rechecking present encoded) :
    Slotted ((self.recheck present encoded).2 ++ history) (self.recheck present encoded).1 := by
  unfold recheck
  split
  · exact slotted.goes phase rfl nofun (returned_calm false) id trivial
  · rename_i enabled
    split
    · exact slotted.goes phase rfl nofun (returned_calm encoded) id trivial
    · split
      · exact slotted.goes phase rfl nofun (returned_calm encoded) id trivial
      · rename_i pending
        exact slotted.goes phase rfl nofun nothing_calm (fun resting => absurd resting enabled)
          (Bool.eq_false_of_not_eq_true pending)

theorem claiming_kept (slotted : Slotted history self) {present : Present} {encoded : Bool}
    (phase : self.submitter = .claiming present encoded) :
    Slotted ([] ++ history) (self.submitterAt
      (if (self.slots self.copyNext).busy then .reclaiming present encoded else .copying present encoded)).1 := by
  have relies := slotted.relies
  rw [phase] at relies
  cases busy : (self.slots self.copyNext).busy with
  | true => exact slotted.goes phase rfl nofun nothing_calm nofun relies
  | false => exact slotted.goes phase rfl nofun nothing_calm nofun ⟨relies, .inr ⟨relies, .inl busy⟩⟩

theorem reclaim_kept (slotted : Slotted history self) {present : Present} {encoded : Bool}
    (phase : self.submitter = .reclaiming present encoded) :
    Slotted ((self.reclaim present encoded).2 ++ history) (self.reclaim present encoded).1 := by
  have relies := slotted.relies
  rw [phase] at relies
  unfold reclaim
  split
  · exact slotted.goes phase rfl nofun (returned_calm encoded) nofun trivial
  · rename_i harvested
    have harvested : (self.slots self.copyNext).harvested = true := by simpa using harvested
    exact slotted.goes phase rfl nofun nothing_calm nofun ⟨relies, .inr ⟨relies, .inr harvested⟩⟩

theorem unmapReclaimed_kept (slotted : Slotted history self) (pipelined : Pipelined harvests encodes history self)
    {present : Present} {encoded : Bool} (phase : self.submitter = .unmapping present encoded) (succeeds : Bool) :
    Slotted ((self.unmapReclaimed present encoded succeeds).2 ++ history)
      (self.unmapReclaimed present encoded succeeds).1 := by
  have mode := pipelined.asynchronous phase fun _ => rfl
  have relies := slotted.relies
  rw [phase] at relies
  obtain ⟨pending, claimed⟩ := relies
  have elsewhere : ∀ (place : Slot) (slot : Fin kSlots), slot ≠ self.copyNext →
      ((self.setSlot self.copyNext place).slots slot).flags = (self.slots slot).flags := by
    intro place slot other
    simp [setSlot, other]
  have respects : Throughout (Respects Abandoned) (.unmapped self.copyNext :: history) := by
    refine ⟨?_, slotted.respects⟩
    by_cases spared : Abandoned self.copyNext history
    · exact .inl spared
    · refine .inr ?_
      rw [slotted.free phase rfl (by rintro ⟨⟩) spared (claimed.resolve_left spared)]
      decide
  have lives : ∀ (seen : List DirectEvent), (∀ event ∈ seen, becomes event = none) →
      life self.copyNext (seen ++ history) = life self.copyNext history := fun seen none =>
    life_apart fun event member other now same => by cases (none event member).symm.trans same
  unfold unmapReclaimed
  dsimp only
  split
  · exact slotted.goes phase rfl (by simp) nothing_calm (by rintro ⟨⟩) ⟨pending, claimed⟩
  · split
    · refine slotted.claims pipelined phase rfl claimed mode rfl rfl rfl rfl (elsewhere _) (by simp [Own, becomes]) respects
        (fun spared _ => ?_) ⟨?_, ?_⟩
      · rw [lives _ (by simp [becomes])]
        exact .inl (slotted.free phase rfl (by rintro ⟨⟩) spared (claimed.resolve_left spared))
      · simpa [setSlot] using pending
      · refine claimed.imp (List.mem_append_right _) fun vacant => ?_
        simpa [setSlot, Slot.Vacant] using vacant
    · refine slotted.claims pipelined phase rfl claimed mode rfl rfl rfl rfl (elsewhere _)
        (by simp [Own, becomes, returns, disable]) ⟨trivial, by simp [Respects], respects⟩ (fun _ _ => .inr rfl) trivial

theorem freeing_kept (slotted : Slotted history self) (pipelined : Pipelined harvests encodes history self)
    {present : Present} {encoded : Bool} (phase : self.submitter = .freeing present encoded) :
    Slotted ([] ++ history) ((self.setSlot self.copyNext { self.slots self.copyNext with busy := false }).submitterAt
      (.copying present encoded)).1 := by
  have mode := pipelined.asynchronous phase fun _ => rfl
  have relies := slotted.relies
  rw [phase] at relies
  obtain ⟨pending, claimed⟩ := relies
  refine slotted.claims pipelined phase rfl claimed mode rfl rfl rfl rfl (fun slot other => ?_) own_nil slotted.respects
    (fun spared _ => .inl (slotted.free phase rfl nofun spared (claimed.resolve_left spared))) ⟨?_, ?_⟩
  · simp [setSlot, submitterAt, other]
  · simpa [setSlot, submitterAt] using pending
  · refine claimed.imp id fun vacant => ?_
    simpa [setSlot, submitterAt, Slot.Vacant] using pending

theorem copy_kept (slotted : Slotted history self) (pipelined : Pipelined harvests encodes history self)
    {present : Present} {encoded : Bool} (phase : self.submitter = .copying present encoded) (succeeds : Bool) :
    Slotted ((self.copy present encoded succeeds).2 ++ history) (self.copy present encoded succeeds).1 := by
  have mode := pipelined.asynchronous phase fun _ => rfl
  have relies := slotted.relies
  rw [phase] at relies
  obtain ⟨pending, claimed⟩ := relies
  have respects : Throughout (Respects Abandoned) (.copied self.copyNext self.copies present.ptsNs :: history) := by
    refine ⟨?_, slotted.respects⟩
    by_cases spared : Abandoned self.copyNext history
    · exact .inl spared
    · exact .inr (slotted.free phase rfl nofun spared (claimed.resolve_left spared))
  have elsewhere : ∀ (place : Slot) (slot : Fin kSlots), slot ≠ self.copyNext →
      ((self.setSlot self.copyNext place).slots slot).flags = (self.slots slot).flags := by
    intro place slot other
    simp [setSlot, other]
  unfold copy
  dsimp only
  split
  · refine slotted.claims pipelined phase rfl claimed mode rfl rfl rfl rfl (elsewhere _)
      (by simp [Own, becomes, returns]) ⟨trivial, respects⟩ (fun _ vacant => ?_) trivial
    simp [returns, setSlot, Slot.Vacant] at vacant
  · exact slotted.claims pipelined phase rfl claimed mode rfl rfl rfl rfl (elsewhere _)
      (by simp [Own, becomes, returns, disable]) ⟨trivial, by simp [Respects], respects⟩ (fun _ _ => .inr rfl) trivial

theorem blit_kept (slotted : Slotted history self) (pipelined : Pipelined harvests encodes history self)
    {present : Present} (phase : self.submitter = .blitting present) :
    Slotted ((self.blit present).2 ++ history) (self.blit present).1 := by
  have relies := slotted.relies
  rw [phase] at relies
  have idle : (self.slots self.next).busy = false := relies
  have mode : self.mode ≠ .harvestWorker := by
    have suits := pipelined.suits
    rw [phase] at suits
    exact of_decide_eq_true suits
  have here : self.encodeSlot = self.next := encodeSlot_next mode
  have vacant : (self.slots self.next).Vacant := ⟨slotted.unpending mode _, .inl idle⟩
  have respects : Throughout (Respects Abandoned) (.copied self.next self.copies present.ptsNs :: history) := by
    refine ⟨?_, slotted.respects⟩
    by_cases spared : Abandoned self.next history
    · exact .inl spared
    · exact .inr (slotted.free phase rfl nofun spared vacant)
  refine slotted.works pipelined phase nofun rfl rfl rfl rfl rfl (fun _ => rfl) (fun slot other => ?_) ?_ respects (.inl rfl)
    (fun _ => idle) (fun _ => ?_) fun _ => ?_
  · rw [here] at other
    simp [blit, setSlot, other]
  · simp [blit, Own, becomes, here]
  · simpa [blit, setSlot] using idle
  · simpa [blit, setSlot, here] using slotted.unpending mode self.next

/-- The teardown comes to a slot. -/
theorem releasesSlot (slotted : Slotted history self) {index : Fin kSlots} {submitter : Submitter} {collector : Collector}
    (idle : ∀ draining call, self.collector ≠ .harvesting draining call)
    (later : ∀ draining call, collector ≠ .harvesting draining call)
    (worked : ∀ slot, Worked self slot → Worked { self with submitter, collector } slot)
    (rests : self.submitter.Rests self.disabled → submitter.Rests self.disabled)
    (relies : Relies ((self.releaseSlot index).2 ++ history)
      { (self.releaseSlot index).1 with submitter, collector } submitter)
    (torn : TearsDown { (self.releaseSlot index).1 with submitter, collector }) :
    Slotted ((self.releaseSlot index).2 ++ history) { (self.releaseSlot index).1 with submitter, collector } := by
  have abandoned : Abandoned index ((self.releaseSlot index).2 ++ history) :=
    List.mem_append_left history (List.mem_append_right _ (List.mem_singleton_self _))
  have elsewhere : ∀ slot, slot ≠ index → (self.releaseSlot index).1.slots slot = self.slots slot := by
    intro slot other
    simp [releaseSlot, setSlot, other]
  have lives : ∀ slot, life slot ((self.releaseSlot index).2 ++ history) = life slot history := by
    intro slot
    refine life_apart fun event member other now same => ?_
    unfold releaseSlot at member
    dsimp only at member
    split at member <;> simp at member <;> rcases member with rfl | rfl <;> cases same
  have apart : ∀ slot, ¬Abandoned slot ((self.releaseSlot index).2 ++ history) → slot ≠ index ∧ ¬Abandoned slot history := by
    intro slot spared
    exact ⟨fun same => spared (same ▸ abandoned), fun before => spared (List.mem_append_right _ before)⟩
  constructor
  case respects =>
    unfold releaseSlot
    dsimp only
    split
    · exact ⟨.inl List.mem_cons_self, trivial, slotted.respects⟩
    · exact ⟨trivial, slotted.respects⟩
  case vacant =>
    intro slot spared free vacant
    obtain ⟨other, before⟩ := apart slot spared
    rw [lives]
    change ((self.releaseSlot index).1.slots slot).Vacant at vacant
    rw [elsewhere slot other] at vacant
    exact (slotted.vacant slot before (mt (worked slot) free) vacant).imp id rests
  case ring =>
    intro live slot member spared
    obtain ⟨other, before⟩ := apart slot spared
    refine .inl ?_
    change ((self.releaseSlot index).1.slots slot).flags = _
    rw [elsewhere slot other]
    refine (slotted.ring live slot member before).resolve_right ?_
    rintro ⟨draining, limit, advancing⟩
    exact idle _ _ advancing
  case relies => exact relies
  case tends => exact fun draining call harvesting => absurd harvesting (later draining call)
  case spared => exact fun _ _ => .inl torn
  case unpending =>
    intro other slot
    by_cases same : slot = index
    · subst same
      simpa [releaseSlot, setSlot] using slotted.unpending other slot
    · change ((self.releaseSlot index).1.slots slot).copyPending = false
      rw [elsewhere slot same]
      exact slotted.unpending other slot

/-- The teardown is through. -/
theorem releasesEncoder (slotted : Slotted history self) {submitter : Submitter} {collector : Collector}
    (later : ∀ draining call, collector ≠ .harvesting draining call)
    (worked : ∀ slot, Worked self slot → Worked { self with submitter, collector } slot)
    (rests : self.submitter.Rests self.disabled → submitter.Rests self.disabled)
    (relies : Relies history { self.releaseEncoder with submitter, collector } submitter) :
    Slotted history { self.releaseEncoder with submitter, collector } where
  respects := slotted.respects
  vacant slot spared free vacant := (slotted.vacant slot spared (mt (worked slot) free) vacant).imp id rests
  ring := nofun
  relies := relies
  tends draining call harvesting := absurd harvesting (later draining call)
  spared _ _ := .inr rfl
  unpending := slotted.unpending

/-- In the teardown of the submitting thread nothing is harvested. -/
theorem idle_of_joined (pipelined : Pipelined harvests encodes history self) (ends : self.submitter.ends = true)
    (unpolled : ∀ tries, self.submitter ≠ .finishPolling tries) (unstarted : self.submitter.joined = true) :
    ∀ draining call, self.collector ≠ .harvesting draining call := by
  intro draining call harvesting
  have threads := pipelined.threads
  have other := (pipelined.live_of_ends ends).1
  unfold Threads at threads
  cases mode : self.mode <;> simp only [mode] at threads
  case harvestWorker => exact other mode
  all_goals
    cases phase : self.submitter <;> simp only [phase, Submitter.ends, Submitter.joined] at threads ends unstarted <;>
      first
      | cases ends; done
      | cases unstarted; done
      | exact unpolled _ phase
      | cases threads.symm.trans harvesting

theorem submitTurn_kept (slotted : Slotted history self) (pipelined : Pipelined harvests encodes history self)
    (answer : Answer) : Slotted ((self.submitTurn answer).2 ++ history) (self.submitTurn answer).1 := by
  unfold submitTurn
  cases phase : self.submitter with
  | idle | polling | finishPolling => exact slotted
  | gating present checks => exact slotted.gate_kept pipelined phase
  | readying present =>
    have mode := pipelined.asynchronous phase fun _ => rfl
    dsimp only
    unfold ready
    repeat' split
    · exact slotted.goes phase rfl nofun nothing_calm nofun trivial
    · exact slotted.goes phase rfl nofun nothing_calm nofun trivial
    · exact slotted.goes phase rfl nofun nothing_calm nofun trivial
    · exact slotted.goes phase rfl nofun nothing_calm nofun fun output => nomatch mode.symm.trans output
  | admitting present inFlight => exact slotted.admission_kept phase
  | probing present => exact slotted.probe_kept pipelined phase answer.wait
  | mapping present => exact slotted.map_kept pipelined phase answer.succeeds
  | encoding present => exact slotted.encode_kept pipelined phase answer
  | marking present marks => exact slotted.mark_kept pipelined phase
  | rechecking present encoded => exact slotted.recheck_kept phase
  | claiming present encoded => exact slotted.claiming_kept phase
  | reclaiming present encoded => exact slotted.reclaim_kept phase
  | unmapping present encoded => exact slotted.unmapReclaimed_kept pipelined phase answer.succeeds
  | freeing present encoded => exact slotted.freeing_kept pipelined phase
  | copying present encoded => exact slotted.copy_kept pipelined phase answer.succeeds
  | blitting present => exact slotted.blit_kept pipelined phase
  | waiting present checks =>
    dsimp only
    unfold wait
    repeat' split
    all_goals first
      | exact slotted.goes phase rfl nofun nothing_calm nofun trivial
      | exact slotted.goes phase rfl nofun (returned_calm false) nofun trivial
  | counting present =>
    have suits := pipelined.suits
    rw [phase] at suits
    have mode : self.mode = .synchronous := of_decide_eq_true suits
    exact slotted.goes phase rfl nofun nothing_calm nofun fun output => nomatch mode.symm.trans output
  | testing present inFlight =>
    dsimp only
    cases busy : (self.slots self.next).busy with
    | true => exact slotted.goes phase rfl nofun nothing_calm nofun trivial
    | false => exact slotted.goes phase rfl nofun nothing_calm nofun fun _ => busy
  | finishing tries =>
    have suits := pipelined.suits
    rw [phase] at suits
    dsimp only
    unfold finishLoop
    split
    · exact slotted.goes phase rfl nofun nothing_calm (fun _ => trivial) trivial
    · exact slotted.calls pipelined phase (of_decide_eq_true suits) rfl rfl (fun _ => trivial) trivial
  | joiningOutput =>
    dsimp only
    split
    · exact slotted.goes phase rfl nofun nothing_calm (fun _ => trivial) trivial
    · exact slotted
  | stoppingTransport =>
    refine slotted.submits nothing_calm rfl (fun _ => rfl) rfl rfl rfl (by rw [phase]; rfl) (fun _ => rfl) trivial ?_
    rintro (⟨index, releasing⟩ | releasing)
    · exact nomatch phase.symm.trans releasing
    · exact .inr releasing
  | joiningTransport =>
    dsimp only
    split
    · exact slotted.goes phase rfl nofun nothing_calm id trivial
    · exact slotted
  | releasing index =>
    have idle := idle_of_joined pipelined (by rw [phase]; rfl) (by rw [phase]; exact fun _ => nofun) (by rw [phase]; rfl)
    have unworked : ∀ (after : Direct) slot, Worked self slot → Worked after slot := fun _ _ worked => by
      rw [Worked, phase] at worked
      cases worked.1
    have rests : ∀ later : Submitter, later.Rests self.disabled = (self.disabled = true) →
        self.submitter.Rests self.disabled → later.Rests self.disabled := by
      intro later same resting
      rw [same]
      rwa [phase] at resting
    dsimp only
    split
    · exact slotted.releasesSlot idle idle (unworked _) (rests _ rfl) trivial (.inl ⟨_, rfl⟩)
    · exact slotted.releasesEncoder idle (unworked _) (rests _ rfl) trivial

end Slotted

end Luma.Encoder.Direct
