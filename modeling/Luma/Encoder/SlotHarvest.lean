import Luma.Encoder.SlotSubmission

/-! The slots through the turns of the collecting thread. -/

set_option autoImplicit false

namespace Luma.Encoder.Direct

open Luma.Library Luma.Library.Transition

variable {harvests encodes : Nat} {history seen : List DirectEvent} {self after : Direct} {slot : Fin kSlots}

namespace Slotted

/-- A turn of the collector outside a harvest and the teardown. -/
theorem loops (slotted : Slotted history self) {later : Collector} {disabled tornDown : Bool} {transport : Transport}
    (still : ∀ event ∈ seen, calm event = true) (idle : ∀ draining call, self.collector ≠ .harvesting draining call)
    (unreleased : ∀ index, self.collector ≠ .releasing index) (disables : self.disabled = true → disabled = true)
    (begins : ∀ draining call, later = .harvesting draining call → ∃ limit, call = .testing limit) :
    Slotted (seen ++ history) { self with collector := later, disabled, tornDown, transport } := by
  refine slotted.strolls still rfl (fun _ => rfl) rfl rfl (fun draining _ _ advancing => absurd advancing (idle draining _))
    (fun _ => id) (Rests_disabled disables) ?_ (fun draining call harvesting => ?_) ?_
  · exact slotted.relies.same (fun _ => List.mem_append_right seen) rfl rfl rfl rfl fun _ => rfl
  · obtain ⟨limit, rfl⟩ := begins draining call harvesting
    trivial
  · rintro (releasing | ⟨index, releasing⟩)
    · exact .inl releasing
    · exact absurd releasing (unreleased index)

/-- From one phase of a harvest to the next, when no slot is touched. -/
theorem harvests_on (slotted : Slotted history self) {draining : Bool} {call later : Harvest}
    (harvesting : self.collector = .harvesting draining call) {transport : Transport}
    (still : ∀ event ∈ seen, calm event = true) (unmarked : ∀ limit slot, call ≠ .advancing limit slot)
    (tends : Tends (seen ++ history) { self with collector := .harvesting draining later, transport } later) :
    Slotted (seen ++ history) { self with collector := .harvesting draining later, transport } := by
  refine slotted.strolls still rfl (fun _ => rfl) rfl rfl (fun _ limit slot advancing => ?_) (fun _ => id) id ?_
    (fun begun call same => ?_) fun tears => ?_
  · rw [harvesting] at advancing
    cases advancing
    exact absurd rfl (unmarked limit slot)
  · exact slotted.relies.same (fun _ => List.mem_append_right seen) rfl rfl rfl rfl fun _ => rfl
  · cases same
    exact tends
  · refine tears.imp id ?_
    rintro ⟨index, releasing⟩
    exact nomatch harvesting.symm.trans releasing

/-- The caller of the harvest goes on. -/
theorem harvestReturned_kept (slotted : Slotted history self) (threads : Threads self) {draining : Bool} {call : Harvest}
    (harvesting : self.collector = .harvesting draining call)
    (unmarked : ∀ limit slot, call ≠ .advancing limit slot) {disabled : Bool} {seen : List DirectEvent}
    (still : ∀ event ∈ seen, calm event = true) (disables : self.disabled = true → disabled = true) (result : Bool) :
    Slotted ((harvestReturned draining result ({ self with disabled }, seen)).2 ++ history)
      (harvestReturned draining result ({ self with disabled }, seen)).1 := by
  have ends : ∀ (later : Submitter) (collector : Collector) (told : List DirectEvent),
      (∀ event ∈ told, calm event = true) → (∀ draining call, collector = .harvesting draining call → ∃ limit, call = .testing limit) →
      (∀ slot, Worked self slot → Worked { self with submitter := later } slot) →
      (self.submitter.Rests self.disabled → later.Rests disabled) →
      Relies (told ++ history) { self with disabled, submitter := later, collector } later →
      (∀ index, self.submitter = .releasing index → later = .releasing index) →
      Slotted (told ++ history) { self with disabled, submitter := later, collector } := by
    intro later collector told still begins worked rests relies stays
    refine slotted.strolls still rfl (fun _ => rfl) rfl rfl (fun _ limit slot advancing => ?_) worked rests relies
      (fun begun call same => ?_) fun tears => ?_
    · rw [harvesting] at advancing
      cases advancing
      exact absurd rfl (unmarked limit slot)
    · obtain ⟨limit, rfl⟩ := begins begun call same
      trivial
    · rcases tears with ⟨index, releasing⟩ | ⟨index, releasing⟩
      · exact .inl ⟨index, stays index releasing⟩
      · cases harvesting.symm.trans releasing
  have same : ∀ (collector : Collector), (∀ draining call, collector ≠ .harvesting draining call) →
      Slotted (seen ++ history) { self with disabled, collector } := fun collector none =>
    ends self.submitter collector seen still (fun draining call begun => absurd begun (none draining call)) (fun _ => id)
      (Rests_disabled disables) (slotted.relies.same (fun _ => List.mem_append_right seen) rfl rfl rfl rfl fun _ => rfl)
      fun _ => id
  unfold harvestReturned
  dsimp only
  split
  · refine same _ ?_
    cases draining <;> cases result <;> exact (by simp)
  · refine same _ ?_
    cases draining <;> cases result <;> exact (by simp)
  · rename_i mode
    cases phase : self.submitter with
    | polling present =>
      have unworked : ∀ (after : Direct) slot, Worked self slot → Worked after slot := fun _ _ worked => by
        rw [Worked, phase] at worked
        cases worked.1
      cases result with
      | true =>
        exact ends (.counting present) .absent seen still (by simp) (unworked _) (by rw [phase]; intros; contradiction) trivial
          (by rw [phase]; exact fun _ => (by rintro ⟨⟩))
      | false =>
        have told : ∀ event ∈ .returned false :: seen, calm event = true := by simpa [calm] using still
        exact ends .idle .absent _ told (by simp) (unworked _) (by rw [phase]; intros; contradiction) trivial
          (by rw [phase]; exact fun _ => (by rintro ⟨⟩))
    | finishPolling tries =>
      have unworked : ∀ (after : Direct) slot, Worked self slot → Worked after slot := fun _ _ worked => by
        rw [Worked, phase] at worked
        cases worked.1
      cases result with
      | true =>
        exact ends (.finishing (tries - 1)) .absent seen still (by simp) (unworked _) (fun _ => trivial) trivial
          (by rw [phase]; exact fun _ => (by rintro ⟨⟩))
      | false =>
        exact ends .stoppingTransport .absent seen still (by simp) (unworked _) (fun _ => trivial) trivial
          (by rw [phase]; exact fun _ => (by rintro ⟨⟩))
    | _ =>
      unfold Threads at threads
      simp only [mode, phase, harvesting] at threads
      cases threads

theorem harvestReturned_collector (draining result : Bool) (direct : Direct) (collector : Collector) (seen : List DirectEvent) :
    harvestReturned draining result ({ direct with collector }, seen) = harvestReturned draining result (direct, seen) := by
  unfold harvestReturned
  dsimp only

theorem harvestReturned_append (draining result : Bool) (direct : Direct) (seen before : List DirectEvent) :
    (harvestReturned draining result (direct, seen ++ before)).1 = (harvestReturned draining result (direct, seen)).1 ∧
      (harvestReturned draining result (direct, seen ++ before)).2 =
        (harvestReturned draining result (direct, seen)).2 ++ before := by
  unfold harvestReturned
  dsimp only
  split
  · exact ⟨rfl, rfl⟩
  · exact ⟨rfl, rfl⟩
  · split
    · split <;> exact ⟨rfl, rfl⟩
    · exact ⟨rfl, rfl⟩
    · exact ⟨rfl, rfl⟩

/-- The picture in the submitting thread's hand is not the one at the head. -/
theorem head_apart (pipelined : Pipelined harvests encodes history self) (live : self.initialized = true)
    (some : 0 < self.submitted.count) (holds : self.submitter.holds = true) : slotOf harvests ≠ self.encodeSlot := by
  have counted := (pipelined.ring live).counted
  have awake : ¬self.submitter.Rests self.disabled := by
    cases phase : self.submitter <;> rw [phase] at holds <;> first | cases holds; done | exact nofun
  have admitted : self.submitter.admitted = true := by
    cases phase : self.submitter <;> rw [phase] at holds <;> first | cases holds; done | rfl
  exact pipelined.apart_of_room live ((pipelined.filled rfl awake).room admitted live) (Nat.le_refl _) (by omega)

/-- The slot at the head is busy until the collector has marked it. -/
theorem head_flags (slotted : Slotted history self) (pipelined : Pipelined harvests encodes history self) {draining : Bool}
    {call : Harvest} (harvesting : self.collector = .harvesting draining call)
    (unmarked : ∀ limit slot, call ≠ .advancing limit slot) (some : 0 < self.submitted.count) :
    (self.slots (slotOf harvests)).flags = (false, true, false) := by
  have live := pipelined.live harvesting
  refine (slotted.ring live _ (head_member pipelined live some) (slotted.untouched pipelined harvesting _)).resolve_right ?_
  rintro ⟨_, limit, advancing⟩
  rw [harvesting] at advancing
  cases advancing
  exact unmarked limit _ rfl

/-- A harvest that fails after what has just been seen. -/
theorem disables (direct : Direct) {draining : Bool} {call : Harvest} {stage : String}
    (slotted : Slotted (seen ++ history) { direct with collector := .harvesting draining call })
    (threads : Threads { direct with collector := .harvesting draining call })
    (unmarked : ∀ limit slot, call ≠ .advancing limit slot) (known : stage ≠ "internal output ordering") :
    Slotted ((harvestReturned draining false ({ direct with disabled := true }, .disabled stage :: seen)).2 ++ history)
      (harvestReturned draining false ({ direct with disabled := true }, .disabled stage :: seen)).1 := by
  have told : ∀ event ∈ [DirectEvent.disabled stage], calm event = true := by simpa [calm] using known
  have kept := slotted.harvestReturned_kept threads rfl unmarked told (fun _ => rfl) false
  have other := harvestReturned_collector draining false { direct with disabled := true } (.harvesting draining call)
    [.disabled stage]
  obtain ⟨last, events⟩ := harvestReturned_append draining false { direct with disabled := true } [.disabled stage] seen
  change Slotted ((harvestReturned draining false ({ direct with disabled := true }, [.disabled stage] ++ seen)).2 ++ history)
    (harvestReturned draining false ({ direct with disabled := true }, [.disabled stage] ++ seen)).1
  rw [last, events, List.append_assoc, ← other]
  exact kept

theorem contents_nodup (pipelined : Pipelined harvests encodes history self) (live : self.initialized = true) :
    self.submitted.contents.Nodup := by
  obtain ⟨contents, -, bounded, -⟩ := pipelined.ring live
  rw [contents]
  refine List.Nodup.map_on (fun first low second high same => ?_) List.nodup_range'
  obtain ⟨lowest, lower⟩ := List.mem_range'_1.mp low
  obtain ⟨highest, higher⟩ := List.mem_range'_1.mp high
  rcases Nat.le_total first second with order | order
  · exact slotOf_inj order (by omega) same
  · exact (slotOf_inj order (by omega) same.symm).symm

/-- What is behind the head is other slots. -/
theorem behind_head (pipelined : Pipelined harvests encodes history self) (live : self.initialized = true)
    {rest : RingQueue kSlots (Fin kSlots)} {first : Fin kSlots} (popped : self.submitted.pop = some (first, rest)) :
    ∀ slot ∈ rest.contents, slot ∈ self.submitted.contents ∧ slot ≠ slotOf harvests := by
  obtain ⟨head, -⟩ := RingQueue.contents_pop popped
  obtain ⟨same, -⟩ := pipelined.head_eq live popped
  have distinct := contents_nodup pipelined live
  rw [head, same] at distinct
  intro slot member
  rw [head]
  exact ⟨List.mem_cons_of_mem _ member, fun equal => (List.nodup_cons.mp distinct).1 (equal ▸ member)⟩

/-- A `poll` takes the head off the ring, and frees its slot. -/
def polled (self : Direct) (slot : Fin kSlots) (rest : RingQueue kSlots (Fin kSlots)) : Direct :=
  let released := self.setSlot slot { self.slots slot with mapped := false }
  { released.setSlot slot { released.slots slot with busy := false } with submitted := rest }

theorem pollHarvest_kept (slotted : Slotted history self) (pipelined : Pipelined harvests encodes history self)
    {draining : Bool} {call : Harvest} {answer : Answer} (harvesting : self.collector = .harvesting draining call) :
    Slotted ((self.pollHarvest draining answer call).2 ++ history) (self.pollHarvest draining answer call).1 := by
  have live := pipelined.live harvesting
  have atHead := pipelined.atHead _ _ harvesting
  have tends := slotted.tends _ _ harvesting
  have returned : (∀ limit slot, call ≠ .advancing limit slot) →
      Slotted ((harvestReturned draining true (self, [])).2 ++ history) (harvestReturned draining true (self, [])).1 :=
    fun unmarked => slotted.harvestReturned_kept pipelined.threads harvesting unmarked nothing_calm id true
  have fails : (∀ limit slot, call ≠ .advancing limit slot) → ∀ stage, stage ≠ "internal output ordering" →
      Slotted ((harvestReturned draining false (self.disable stage)).2 ++ history)
        (harvestReturned draining false (self.disable stage)).1 := fun unmarked stage known =>
    slotted.harvestReturned_kept pipelined.threads harvesting unmarked (by simpa [calm] using known) (fun _ => rfl) false
  cases call with
  | testing limit =>
    unfold pollHarvest
    dsimp only
    split
    · exact returned (by simp)
    · exact returned (by simp)
    · exact slotted.harvests_on harvesting nothing_calm (by simp) trivial
  | verifying limit slot =>
    obtain ⟨rfl, some⟩ := atHead
    have flags := slotted.head_flags pipelined harvesting (by simp) some
    simp only [Slot.flags, Prod.mk.injEq] at flags
    rw [pollHarvest, if_pos flags.2.1]
    exact slotted.harvests_on harvesting nothing_calm (by simp) trivial
  | locking limit slot =>
    obtain ⟨rfl, some⟩ := atHead
    have flags := slotted.head_flags pipelined harvesting (by simp) some
    rw [pollHarvest]
    split
    · exact returned (by simp)
    · exact fails (by simp) _ (by decide)
    · exact fails (by simp) _ (by decide)
    · refine slotted.tended pipelined harvesting rfl rfl rfl rfl rfl rfl rfl (fun _ _ => rfl) (by simp [Own, becomes])
        ⟨trivial, slotted.respects⟩ rfl id id (head_apart pipelined live some) (fun vacant => ?_)
        (fun slot member => ⟨member, ?_⟩) (by simp) ?_
      · simp only [Slot.flags, Prod.mk.injEq] at flags
        rcases vacant.2 with idle | harvested
        · cases idle.symm.trans flags.2.1
        · cases harvested.symm.trans flags.2.2
      · by_cases same : slot = slotOf harvests
        · exact .inr (.inl (same ▸ flags))
        · exact .inl same
      · simp [Tends, life, becomes]
  | entering limit slot unit =>
    rw [pollHarvest]
    split
    · exact slotted.harvests_on harvesting nothing_calm (by simp) tends
    · refine slotted.harvests_on harvesting (by simp [calm]) (by simp) ?_
      exact (life_calm (by simp [calm])).trans tends
  | pushing limit slot unit =>
    rw [pollHarvest]
    have told : ∀ event ∈ [if (self.transport.push unit).2 then
        DirectEvent.handed (self.slots slot).bitstream.1 unit.pts else .refused unit self.transport.ready],
        calm event = true := by
      split <;> simp [calm]
    exact slotted.harvests_on harvesting told (by simp) ((life_calm told).trans tends)
  | unlocking limit slot enqueued =>
    rw [pollHarvest]
    split
    · exact slotted.harvests_on harvesting nothing_calm (by simp) tends
    all_goals
      split
      · exact fails (by simp) _ (by decide)
      · split
        · exact fails (by simp) _ (by decide)
        · split <;> exact slotted.harvests_on harvesting nothing_calm (by simp) tends
  | unmapping limit slot unlocked enqueued =>
    obtain ⟨rfl, some, -⟩ := atHead
    have flags := slotted.head_flags pipelined harvesting (by simp) some
    have known := flags
    simp only [Slot.flags, Prod.mk.injEq] at known
    have collected : life (slotOf harvests) history = .collected := tends
    have respects : Throughout (Respects Abandoned) (.unmapped (slotOf harvests) :: history) :=
      ⟨.inr (by rw [collected]; decide), slotted.respects⟩
    have unmapped : life (slotOf harvests) ([.unmapped (slotOf harvests)] ++ history) = .collected := by
      simpa [life, becomes] using collected
    have elsewhere : ∀ (place : Slot) (slot : Fin kSlots), slot ≠ slotOf harvests →
        (self.setSlot (slotOf harvests) place).slots slot = self.slots slot := by
      intro place slot other
      simp [setSlot, other]
    rw [pollHarvest]
    dsimp only
    split
    · obtain ⟨first, rest, popped⟩ := Pipelined.pop_some some
      simp only [popped]
      have freed : Slotted ([.harvested (slotOf harvests), .unmapped (slotOf harvests)] ++ history)
          { polled self (slotOf harvests) rest with collector := .harvesting draining (.testing limit) } := by
        refine slotted.tended pipelined harvesting rfl rfl rfl rfl rfl rfl rfl (fun slot other => ?_)
          (by simp [Own, becomes]) ⟨trivial, respects⟩ ?_ (fun _ => ?_) (fun harvested => ?_) (head_apart pipelined live some)
          (fun _ => .inl ?_) (fun slot member => ?_) (by simp) trivial
        · simp [polled, setSlot, other]
        · simp [polled, setSlot]
        · simp [polled, setSlot]
        · cases harvested.symm.trans known.2.2
        · simp [life, becomes]
        · obtain ⟨inside, other⟩ := behind_head pipelined live popped slot member
          exact ⟨inside, .inl other⟩
      have threads : Threads
          { polled self (slotOf harvests) rest with collector := .harvesting draining (.testing limit) } :=
        pipelined.threads_harvest harvesting rfl rfl rfl
      split
      · exact disables (polled self (slotOf harvests) rest) freed threads (by simp) (by decide)
      · split
        · exact disables (polled self (slotOf harvests) rest) freed threads (by simp) (by decide)
        · split
          · exact disables (polled self (slotOf harvests) rest) freed threads (by simp) (by decide)
          · exact freed
    all_goals
      split
      · refine slotted.tended pipelined harvesting rfl rfl rfl rfl rfl rfl rfl (elsewhere _) (by simp [Own, becomes]) respects
          ?_ (fun idle => by cases idle.symm.trans known.2.1) (fun harvested => by cases harvested.symm.trans known.2.2)
          (head_apart pipelined live some) (fun vacant => ?_) (fun slot member => ⟨member, ?_⟩) (by simp) unmapped
        · simp [setSlot]
        · simp [setSlot, Slot.Vacant, known] at vacant
        · by_cases same : slot = slotOf harvests
          · subst same
            exact .inr (.inl (by simpa [setSlot, Slot.flags] using known))
          · exact .inl same
      · have seen : Slotted ([.unmapped (slotOf harvests)] ++ history)
            { self with collector := .harvesting draining (.unmapping limit (slotOf harvests) unlocked enqueued) } := by
          refine slotted.tended pipelined harvesting rfl rfl rfl rfl rfl rfl rfl (fun _ _ => rfl) (by simp [Own, becomes])
            respects rfl id id (head_apart pipelined live some) (fun vacant => ?_) (fun slot member => ⟨member, ?_⟩) (by simp)
            unmapped
          · simp [Slot.Vacant, known] at vacant
          · by_cases same : slot = slotOf harvests
            · exact .inr (.inl (same ▸ flags))
            · exact .inl same
        exact disables self seen (pipelined.threads_harvest harvesting rfl rfl rfl) (by simp) (by decide)
  | marking limit slot =>
    obtain ⟨rfl, some, -⟩ := atHead
    have flags := slotted.head_flags pipelined harvesting (by simp) some
    simp only [Slot.flags, Prod.mk.injEq] at flags
    rw [pollHarvest]
    refine slotted.tended pipelined harvesting rfl rfl rfl rfl rfl rfl rfl (fun slot other => ?_) (by simp [Own, becomes])
      ⟨trivial, slotted.respects⟩ ?_ (fun idle => ?_) (fun _ => ?_) (head_apart pipelined live some) (fun _ => .inl ?_)
      (fun slot member => ⟨member, ?_⟩) (by simp) (fun _ => ?_)
    · simp [setSlot, other]
    · simp [setSlot]
    · cases idle.symm.trans flags.2.1
    · simp [setSlot]
    · simp [life, becomes]
    · by_cases same : slot = slotOf harvests
      · exact .inr (.inr ⟨draining, limit, same ▸ rfl⟩)
      · exact .inl same
    · simp [setSlot, flags.2.1]
  | advancing limit slot =>
    obtain ⟨rfl, some, -⟩ := atHead
    obtain ⟨first, rest, popped⟩ := Pipelined.pop_some some
    rw [pollHarvest]
    simp only [popped]
    refine slotted.tended pipelined harvesting rfl rfl rfl rfl rfl rfl rfl (fun _ _ => rfl) own_nil slotted.respects rfl id id
      (head_apart pipelined live some) (fun vacant => ?_) (fun slot member => ?_) (fun _ _ same => ?_) ?_
    · refine slotted.vacant _ (slotted.untouched pipelined harvesting _) (fun worked => ?_) vacant
      exact head_apart pipelined live some worked.1 worked.2
    · obtain ⟨inside, other⟩ := behind_head pipelined live popped slot member
      exact ⟨inside, .inl other⟩
    · cases same
      rfl
    · split
      · rename_i mode
        exact ⟨mode, tends mode⟩
      · trivial
  | freeing limit slot =>
    obtain ⟨mode, busy, harvested⟩ := tends
    have other : self.mode ≠ .harvestWorker := by rw [mode]; decide
    have apart : self.submitter.holds = true → slot ≠ self.encodeSlot := by
      intro holds same
      rw [same, encodeSlot_next other] at busy harvested
      have relies := slotted.relies
      cases phase : self.submitter with
      | mapping | encoding =>
        rw [phase] at relies
        cases (relies other).symm.trans busy
      | marking present later =>
        rw [phase] at relies
        obtain ⟨-, suffix, idle, flags⟩ := relies
        rw [encodeSlot_next other] at flags
        have fresh := flags.resolve_left (slotted.untouched pipelined harvesting _)
        -- What is left to be marked ends with the mark of a busy slot.
        by_cases waits : .busy ∈ later
        · cases (idle other waits).symm.trans busy
        · have last : .unharvested ∉ later := by
            obtain ⟨front, same⟩ := suffix
            rw [mode, Direct.marks] at same
            rcases front with _ | ⟨_, _ | ⟨_, front⟩⟩ <;> simp_all
          cases (fresh.2.resolve_left last).symm.trans harvested
      | _ => rw [phase] at holds; cases holds
    rw [pollHarvest]
    refine slotted.tended pipelined harvesting rfl rfl rfl rfl rfl rfl rfl (fun slot other => ?_) own_nil slotted.respects ?_
      (fun _ => ?_) (fun _ => ?_) apart (fun _ => ?_) (fun place member => ⟨member, .inl ?_⟩) (by simp) trivial
    · simp [setSlot, collectorAt, other]
    · simp [setSlot, collectorAt]
    · simp [setSlot, collectorAt]
    · simpa [setSlot, collectorAt] using harvested
    · refine slotted.vacant _ (slotted.untouched pipelined harvesting _) (fun worked => apart worked.1 worked.2) ?_
      exact ⟨slotted.unpending other slot, .inr harvested⟩
    · rintro rfl
      have flags := (slotted.ring live _ member (slotted.untouched pipelined harvesting _)).resolve_right ?_
      · simp only [Slot.flags, Prod.mk.injEq] at flags
        cases harvested.symm.trans flags.2.2
      · rintro ⟨_, limit, advancing⟩
        cases harvesting.symm.trans advancing

theorem collect_kept (slotted : Slotted history self) (pipelined : Pipelined harvests encodes history self)
    (answer : Answer) : Slotted ((self.collect answer).2 ++ history) (self.collect answer).1 := by
  unfold collect
  cases phase : self.collector with
  | harvesting draining call => exact slotted.pollHarvest_kept pipelined phase
  | absent | ended => exact slotted
  | releasing index =>
    have mode := pipelined.harvest_mode (.inr (.inr (.inr (.inl ⟨index, phase⟩))))
    have idle : ∀ draining call, self.collector ≠ .harvesting draining call := by rw [phase]; exact fun _ _ => (by rintro ⟨⟩)
    dsimp only
    split
    · rename_i inside
      refine slotted.releasesSlot idle (by simp) (fun _ => id) id ?_ (.inr ⟨_, rfl⟩)
      refine slotted.relies.eased (fun _ => List.mem_append_right _) rfl rfl rfl rfl (fun slot => ?_) (fun slot => ?_)
        (fun slot => ?_) fun _ _ _ => ?_
      · by_cases same : slot = ⟨index, inside⟩
        · subst same
          simp [releaseSlot, setSlot]
        · simp [releaseSlot, setSlot, same]
      · by_cases same : slot = ⟨index, inside⟩
        · subst same
          simp [releaseSlot, setSlot]
        · simp [releaseSlot, setSlot, same]
      · by_cases same : slot = ⟨index, inside⟩
        · subst same
          simp [releaseSlot, setSlot]
        · simp [releaseSlot, setSlot, same]
      · by_cases same : self.encodeSlot = ⟨index, inside⟩
        · rw [same]
          exact .inl (List.mem_append_left history (List.mem_append_right _ (List.mem_singleton_self _)))
        · simp [releaseSlot, setSlot, same]
    · have relies : Relies ([] ++ history)
          { self.releaseEncoder with submitter := self.submitter, collector := .closing } self.submitter :=
        slotted.relies.same (fun _ => id) rfl rfl rfl rfl fun _ => rfl
      exact slotted.releasesEncoder (by simp) (fun _ => id) id relies
  | looping checks =>
    have idle : ∀ draining call, self.collector ≠ .harvesting draining call := by rw [phase]; exact fun _ _ => (by rintro ⟨⟩)
    have unreleased : ∀ index, self.collector ≠ .releasing index := by rw [phase]; exact fun _ => (by rintro ⟨⟩)
    cases checks with
    | nil => exact slotted.loops nothing_calm idle unreleased id (by simp)
    | cons check checks =>
      dsimp only
      repeat' split
      · exact slotted.loops nothing_calm idle unreleased id (by simp)
      · exact slotted.loops nothing_calm idle unreleased id (by simp)
      all_goals
        refine slotted.loops nothing_calm idle unreleased id fun draining call same => ?_
        cases same
        exact ⟨_, rfl⟩
  | _ =>
    have idle : ∀ draining call, self.collector ≠ .harvesting draining call := by rw [phase]; exact fun _ _ => (by rintro ⟨⟩)
    have unreleased : ∀ index, self.collector ≠ .releasing index := by rw [phase]; exact fun _ => (by rintro ⟨⟩)
    dsimp only
    repeat' split
    all_goals first
      | exact slotted
      | exact slotted.loops nothing_calm idle unreleased id fun _ _ same => by cases same; exact ⟨_, rfl⟩
      | exact slotted.loops nothing_calm idle unreleased id fun _ _ same => by cases same
      | exact slotted.loops (by simp [disable, calm]) idle unreleased (fun _ => rfl) fun _ _ same => by cases same

end Slotted

end Luma.Encoder.Direct
