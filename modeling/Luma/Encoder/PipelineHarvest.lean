import Luma.Encoder.PipelineSubmission

/-! The pipeline through the turns of the collecting thread. -/

set_option autoImplicit false

namespace Luma.Encoder.Direct

open Luma.Library Luma.Library.Transition

variable {harvests encodes : Nat} {history : List DirectEvent} {self : Direct}

theorem Rests_disabled {submitter : Submitter} {disabled later : Bool} (disables : disabled = true → later = true)
    (rests : submitter.Rests disabled) : submitter.Rests later := by
  cases submitter <;> first | exact rests | exact disables rests | exact ⟨disables rests.1, rests.2⟩

namespace Pipelined

/-! ## Turns of the collector that hand nothing over -/

/-- The collecting thread goes on. The transport may take a packet meanwhile. -/
theorem collects (pipelined : Pipelined harvests encodes history self) {later : Collector} {slots : Fin kSlots → Slot}
    {disabled : Bool} {transport : Transport} {seen : List DirectEvent} (still : ∀ event ∈ seen, quiet event = true)
    (alike : Alike slots self.slots) (worker : transport.worker = self.transport.worker)
    (disables : self.disabled = true → disabled = true)
    (threads : Threads { self with collector := later, slots, disabled, transport })
    (alive : self.initialized = true ∨ Released { self with collector := later, slots, disabled, transport })
    (torn : (∃ index, later = .releasing index) → Worker.gone self.transport.worker = true)
    (atHead : ∀ draining call, later = .harvesting draining call →
      AtHead harvests (seen ++ history) { self with collector := later, slots, disabled, transport } call) :
    Pipelined harvests encodes (seen ++ history) { self with collector := later, slots, disabled, transport } := by
  constructor
  case numbered => rw [copied_quiet still]; exact pipelined.numbered
  case place => exact pipelined.place
  case suits => exact pipelined.suits
  case threads => exact threads
  case alive => exact alive
  case torn =>
    rintro (releasing | releasing)
    · exact (congrArg Worker.gone worker).trans (pipelined.torn (.inl releasing))
    · exact (congrArg Worker.gone worker).trans (torn releasing)
  case order => rw [copied_quiet still]; exact pipelined.order
  case ring => rw [copied_quiet still]; exact fun live => (pipelined.ring live).same alike
  case atHead => exact atHead
  case taken => rw [copied_quiet still, accepted_quiet still]; exact pipelined.taken
  case tried => rw [copied_quiet still, attempted_quiet still]; exact pipelined.tried
  case output => rw [copied_quiet still, handed_quiet still]; exact pipelined.output
  case whole => exact pipelined.whole.same still rfl (Rests_disabled disables)
  case settled =>
    refine pipelined.settled.imp (Rests_disabled disables) fun filled => ?_
    exact filled.same (copied_quiet still) (accepted_quiet still) (attempted_quiet still) rfl alike rfl rfl
      fun live => ⟨live, Nat.le_refl _⟩

theorem threads_harvest (pipelined : Pipelined harvests encodes history self) {draining : Bool} {call later : Harvest}
    (harvesting : self.collector = .harvesting draining call) {after : Direct} (mode : after.mode = self.mode)
    (submitter : after.submitter = self.submitter) (on : after.collector = .harvesting draining later) : Threads after := by
  have threads := pipelined.threads
  unfold Threads at *
  rw [mode, submitter, on]
  rw [harvesting] at threads
  cases which : self.mode <;> simp only [which] at threads ⊢
  · cases phase : self.submitter <;> simp only [phase] at threads ⊢ <;> first
      | cases threads; done
      | obtain ⟨_, same⟩ := threads; cases same; exact ⟨later, rfl⟩
  · cases phase : self.submitter <;> simp only [phase] at threads ⊢ <;> trivial
  · exact ⟨nofun, nofun⟩

/-- From one phase of a harvest to the next. -/
theorem harvests_on (pipelined : Pipelined harvests encodes history self) {draining : Bool} {call later : Harvest}
    (harvesting : self.collector = .harvesting draining call) {slots : Fin kSlots → Slot} {transport : Transport}
    {seen : List DirectEvent} (still : ∀ event ∈ seen, quiet event = true) (alike : Alike slots self.slots)
    (worker : transport.worker = self.transport.worker)
    (atHead : AtHead harvests (seen ++ history)
      { self with collector := .harvesting draining later, slots, transport } later) :
    Pipelined harvests encodes (seen ++ history)
      { self with collector := .harvesting draining later, slots, transport } := by
  refine pipelined.collects still alike worker id (pipelined.threads_harvest harvesting rfl rfl rfl)
    (.inl (pipelined.live harvesting)) nofun fun _ _ same => ?_
  cases same
  exact atHead

/-- `poll` returns to the thread that waits for it. -/
theorem resumes (pipelined : Pipelined harvests encodes history self) (live : self.initialized = true) {later : Submitter}
    {slots : Fin kSlots → Slot} {disabled : Bool} {seen : List DirectEvent} (still : ∀ event ∈ seen, quiet event = true)
    (alike : Alike slots self.slots) (suits : later.suits self.mode = true)
    (threads : Threads { self with slots, disabled, submitter := later, collector := .absent })
    (torn : ∀ index, later ≠ .releasing index) (rests : self.submitter.Rests self.disabled → later.Rests disabled)
    (fills : Filled encodes history self self.submitter → Filled encodes history self later) :
    Pipelined harvests encodes (seen ++ history)
      { self with slots, disabled, submitter := later, collector := .absent } := by
  constructor
  case numbered => rw [copied_quiet still]; exact pipelined.numbered
  case place => exact pipelined.place
  case suits => exact suits
  case threads => exact threads
  case alive => exact .inl live
  case torn =>
    rintro (⟨index, releasing⟩ | ⟨index, releasing⟩)
    · exact absurd releasing (torn index)
    · cases releasing
  case order => rw [copied_quiet still]; exact pipelined.order
  case ring => rw [copied_quiet still]; exact fun live => (pipelined.ring live).same alike
  case atHead => exact nofun
  case taken => rw [copied_quiet still, accepted_quiet still]; exact pipelined.taken
  case tried => rw [copied_quiet still, attempted_quiet still]; exact pipelined.tried
  case output => rw [copied_quiet still, handed_quiet still]; exact pipelined.output
  case whole => exact pipelined.whole.same still rfl rests
  case settled =>
    refine pipelined.settled.imp rests fun filled => ?_
    exact (fills filled).same (copied_quiet still) (accepted_quiet still) (attempted_quiet still) rfl alike rfl rfl
      fun live => ⟨live, Nat.le_refl _⟩

/-- The caller of the harvest goes on. -/
theorem harvestReturned_kept (pipelined : Pipelined harvests encodes history self) {draining : Bool} {call : Harvest}
    (harvesting : self.collector = .harvesting draining call) {slots : Fin kSlots → Slot} {disabled : Bool}
    {seen : List DirectEvent} (still : ∀ event ∈ seen, quiet event = true) (alike : Alike slots self.slots)
    (disables : self.disabled = true → disabled = true) (result : Bool) :
    Pipelined harvests encodes
      ((harvestReturned draining result ({ self with slots, disabled }, seen)).2 ++ history)
      (harvestReturned draining result ({ self with slots, disabled }, seen)).1 := by
  have live := pipelined.live harvesting
  have threads := pipelined.threads
  unfold harvestReturned
  dsimp only
  split
  · rename_i mode
    refine pipelined.collects still alike rfl disables ?_ (.inl live) ?_ ?_
    · unfold Threads
      simp only [mode]
      cases draining <;> cases result <;> exact ⟨nofun, nofun⟩
    · cases draining <;> cases result <;> exact nofun
    · cases draining <;> cases result <;> exact nofun
  · rename_i mode
    refine pipelined.collects still alike rfl disables ?_ (.inl live) ?_ ?_
    · unfold Threads at threads ⊢
      simp only [mode, harvesting] at threads ⊢
      cases phase : self.submitter <;> simp only [phase] at threads ⊢ <;>
        first | contradiction | (cases draining <;> cases result <;> trivial)
    · cases draining <;> cases result <;> exact nofun
    · cases draining <;> cases result <;> exact nofun
  · rename_i mode
    have ends : ∀ later : Submitter, later.joined = false ∨ later = .stoppingTransport →
        Threads { self with slots, disabled, submitter := later, collector := .absent } := by
      intro later apart
      unfold Threads
      simp only [mode]
      cases later <;> simp [Submitter.joined] at apart <;> trivial
    cases phase : self.submitter with
    | polling present =>
      cases result with
      | true =>
        refine pipelined.resumes live still alike (by rw [mode]; rfl) (ends _ (.inl rfl)) (by simp) (by rw [phase]; intros; contradiction) ?_
        rw [phase]
        exact fun filled => filled.plainly rfl rfl rfl
      | false =>
        have silent : ∀ event ∈ .returned false :: seen, quiet event = true := by simpa [quiet] using still
        refine pipelined.resumes live silent alike rfl (ends _ (.inl rfl)) (by simp) (by rw [phase]; intros; contradiction) ?_
        rw [phase]
        exact fun filled => filled.plainly rfl rfl rfl
    | finishPolling tries =>
      cases result with
      | true =>
        refine pipelined.resumes live still alike (by rw [mode]; rfl) (ends _ (.inl rfl)) (by simp) (fun _ => trivial) ?_
        rw [phase]
        exact fun filled => filled.plainly rfl rfl rfl
      | false =>
        refine pipelined.resumes live still alike (by rw [mode]; rfl) (ends _ (.inr rfl)) (by simp) (fun _ => trivial) ?_
        rw [phase]
        exact fun filled => filled.plainly rfl rfl rfl
    | _ =>
      unfold Threads at threads
      simp only [mode, phase, harvesting] at threads
      cases threads

/-! ## Turns that hand a picture over or take it off the ring -/

/-- A picture at the head that has not been handed over comes behind all that have. -/
theorem behind (pipelined : Pipelined harvests encodes history self) (live : self.initialized = true)
    (some : 0 < self.submitted.count) (fresh : (self.slots (slotOf harvests)).bitstream ∉ handed history) :
    (handed history).Sublist ((copied history).take harvests) := by
  obtain ⟨-, counted, -, pictures⟩ := pipelined.ring live
  have picture := pictures harvests (Nat.le_refl _) (by omega)
  rcases pipelined.output with before | ⟨-, upto⟩
  · exact before
  · rw [take_next picture] at upto
    obtain ⟨first, last, split, before, after⟩ := List.sublist_append_iff.mp upto
    rcases List.sublist_cons_iff.mp after with nothing | ⟨rest, itself, -⟩
    · rw [split, List.sublist_nil.mp nothing, List.append_nil]
      exact before
    · rw [split, itself] at fresh
      exact absurd (List.mem_append_right first List.mem_cons_self) fresh

/-- The picture at the head is handed over. -/
theorem hands (pipelined : Pipelined harvests encodes history self) {draining : Bool} {limit : Option Nat}
    {slot : Fin kSlots} {unit : EncodedUnit} {transport : Transport}
    (harvesting : self.collector = .harvesting draining (.pushing limit slot unit))
    (worker : transport.worker = self.transport.worker) :
    Pipelined harvests encodes ([.handed (self.slots slot).bitstream.1 unit.pts] ++ history)
      { self with transport, collector := .harvesting draining (.unlocking limit slot true) } := by
  have live := pipelined.live harvesting
  obtain ⟨contents, counted, bounded, pictures⟩ := pipelined.ring live
  obtain ⟨rfl, some, stamp, before⟩ := pipelined.atHead _ _ harvesting
  have picture := pictures harvests (Nat.le_refl _) (by omega)
  have sameCopies : copied ([.handed (self.slots (slotOf harvests)).bitstream.1 unit.pts] ++ history) = copied history := by
    simp [copied]
  have sameAccepted :
      accepted ([.handed (self.slots (slotOf harvests)).bitstream.1 unit.pts] ++ history) = accepted history := by
    simp [accepted]
  have sameAttempted :
      attempted ([.handed (self.slots (slotOf harvests)).bitstream.1 unit.pts] ++ history) = attempted history := by
    simp [attempted]
  have more : handed ([.handed (self.slots (slotOf harvests)).bitstream.1 unit.pts] ++ history) =
      handed history ++ [(self.slots (slotOf harvests)).bitstream] := by
    rw [stamp]
    simp [handed]
  constructor
  case numbered => rw [sameCopies]; exact pipelined.numbered
  case place => exact pipelined.place
  case suits => exact pipelined.suits
  case threads => exact pipelined.threads_harvest harvesting rfl rfl rfl
  case alive => exact .inl live
  case torn =>
    rintro (releasing | ⟨index, releasing⟩)
    · exact (congrArg Worker.gone worker).trans (pipelined.torn (.inl releasing))
    · cases releasing
  case order => rw [sameCopies]; exact pipelined.order
  case ring => rw [sameCopies]; exact fun _ => ⟨contents, counted, bounded, pictures⟩
  case atHead =>
    intro _ _ same
    cases same
    refine ⟨rfl, some, fun _ => ?_⟩
    have whole := pipelined.whole
    unfold Whole at *
    rw [more, List.length_append]
    exact whole.imp id fun all => Nat.succ_le_succ all
  case taken => rw [sameCopies, sameAccepted]; exact pipelined.taken
  case tried => rw [sameCopies, sameAttempted]; exact pipelined.tried
  case output =>
    rw [sameCopies, more, take_next picture]
    exact .inr ⟨by omega, before.append (List.Sublist.refl _)⟩
  case whole =>
    have whole := pipelined.whole
    unfold Whole at *
    rw [more, List.length_append]
    exact whole.imp id Nat.le_succ_of_le
  case settled =>
    refine pipelined.settled.imp id fun filled => ?_
    exact filled.same sameCopies sameAccepted sameAttempted rfl (Alike.refl _) rfl rfl fun live => ⟨live, Nat.le_refl _⟩

/-- The picture at the head goes off the ring. -/
theorem pops (pipelined : Pipelined harvests encodes history self) (live : self.initialized = true)
    {slot : Fin kSlots} {rest : RingQueue kSlots (Fin kSlots)}
    (first : self.submitted.pop = some (slot, rest)) {later : Submitter} {collector : Collector}
    {slots : Fin kSlots → Slot} {disabled : Bool} {seen : List DirectEvent} (still : ∀ event ∈ seen, quiet event = true)
    (alike : Alike slots self.slots) (suits : later.suits self.mode = true)
    (threads : Threads { self with slots, disabled, submitted := rest, submitter := later, collector })
    (torn : TearsDown { self with slots, disabled, submitted := rest, submitter := later, collector } →
      Worker.gone self.transport.worker = true)
    (atHead : ∀ draining call, collector = .harvesting draining call → ∀ history self, AtHead (harvests + 1) history self call)
    (whole : Whole (harvests + 1) (seen ++ history)
      { self with slots, disabled, submitted := rest, submitter := later, collector })
    (settled : self.submitter.Rests self.disabled ∨ Filled encodes history self self.submitter →
      later.Rests disabled ∨ Filled encodes history self later) :
    Pipelined (harvests + 1) encodes (seen ++ history)
      { self with slots, disabled, submitted := rest, submitter := later, collector } := by
  obtain ⟨contents, counted, bounded, pictures⟩ := pipelined.ring live
  obtain ⟨head, less⟩ := RingQueue.contents_pop first
  constructor
  case numbered => rw [copied_quiet still]; exact pipelined.numbered
  case place => exact pipelined.place
  case suits => exact suits
  case threads => exact threads
  case alive => exact .inl live
  case torn => exact torn
  case order => rw [copied_quiet still]; exact ⟨by omega, pipelined.order.2⟩
  case ring =>
    intro _
    rw [copied_quiet still]
    refine Ring.same ⟨?_, ?_, ?_, fun n after before => pictures n (Nat.le_of_succ_le after) before⟩ alike
    · change rest.contents = (List.range' (harvests + 1) rest.count).map slotOf
      rw [head, less, List.range'_succ] at contents
      exact (List.cons.inj contents).2
    · change harvests + 1 + rest.count = encodes
      omega
    · change rest.count ≤ kSlots
      omega
  case atHead => exact fun draining call harvesting => atHead draining call harvesting _ _
  case taken => rw [copied_quiet still, accepted_quiet still]; exact pipelined.taken
  case tried => rw [copied_quiet still, attempted_quiet still]; exact pipelined.tried
  case output =>
    rw [copied_quiet still, handed_quiet still]
    refine .inl (pipelined.output.elim (fun before => before.trans ?_) And.right)
    exact List.take_sublist_take_left (Nat.le_succ _)
  case whole => exact whole
  case settled =>
    refine (settled pipelined.settled).imp id fun filled => ?_
    refine filled.same (copied_quiet still) (accepted_quiet still) (attempted_quiet still) rfl alike rfl rfl fun live => ⟨live, ?_⟩
    change rest.count ≤ self.submitted.count
    omega

theorem pop_some {queue : RingQueue kSlots (Fin kSlots)} (waits : 0 < queue.count) :
    ∃ slot rest, queue.pop = some (slot, rest) := by
  cases popped : queue.pop with
  | some pair => exact ⟨pair.1, pair.2, rfl⟩
  | none =>
    have empty := congrArg List.length (RingQueue.pop_none.mp popped)
    rw [RingQueue.length_contents] at empty
    exact absurd empty (Nat.pos_iff_ne_zero.mp waits)

/-- The slot at the head of the ring is the one of the oldest picture. -/
theorem head_eq (pipelined : Pipelined harvests encodes history self) (live : self.initialized = true) {slot : Fin kSlots}
    {rest : RingQueue kSlots (Fin kSlots)} (first : self.submitted.pop = some (slot, rest)) :
    slot = slotOf harvests ∧ 0 < self.submitted.count := by
  obtain ⟨head, less⟩ := RingQueue.contents_pop first
  have contents := (pipelined.ring live).contents
  rw [head, less, List.range'_succ] at contents
  exact ⟨(List.cons.inj contents).1, by omega⟩

/-- A `poll` that fails takes its picture off the ring, and ends the submissions. -/
theorem pollFailed (pipelined : Pipelined harvests encodes history self) {draining : Bool} {call : Harvest}
    (harvesting : self.collector = .harvesting draining call) (mode : self.mode = .synchronous) {slot : Fin kSlots}
    {rest : RingQueue kSlots (Fin kSlots)} (popped : self.submitted.pop = some (slot, rest))
    {slots : Fin kSlots → Slot} {seen : List DirectEvent} (still : ∀ event ∈ seen, quiet event = true)
    (alike : Alike slots self.slots) :
    Pipelined (harvests + 1) encodes
      ((harvestReturned draining false ({ self with slots, submitted := rest, disabled := true }, seen)).2 ++ history)
      (harvestReturned draining false ({ self with slots, submitted := rest, disabled := true }, seen)).1 := by
  have live := pipelined.live harvesting
  have threads := pipelined.threads
  unfold harvestReturned
  dsimp only
  split
  · rename_i other
    cases mode.symm.trans other
  · rename_i other
    cases mode.symm.trans other
  · cases phase : self.submitter with
    | polling present =>
      have silent : ∀ event ∈ .returned false :: seen, quiet event = true := by simpa [quiet] using still
      refine pipelined.pops live popped silent alike rfl ?_ ?_ (by simp) (.inl ⟨mode, rfl⟩) fun _ => .inl rfl
      · unfold Threads
        simp only [mode]
      · rintro (⟨index, releasing⟩ | ⟨index, releasing⟩) <;> cases releasing
    | finishPolling tries =>
      refine pipelined.pops live popped still alike (by rw [mode]; rfl) ?_ ?_ (by simp) (.inl ⟨mode, trivial⟩) fun _ => .inl trivial
      · unfold Threads
        simp only [mode]
        exact trivial
      · rintro (⟨index, releasing⟩ | ⟨index, releasing⟩) <;> cases releasing
    | _ =>
      unfold Threads at threads
      simp only [mode, phase, harvesting] at threads
      cases threads

theorem pollHarvest_kept (pipelined : Pipelined harvests encodes history self) {draining : Bool} {call : Harvest}
    {answer : Answer} (harvesting : self.collector = .harvesting draining call)
    (fresh : Fresh history self (.collector answer)) :
    ∃ harvests encodes, Pipelined harvests encodes ((self.pollHarvest draining answer call).2 ++ history)
      (self.pollHarvest draining answer call).1 := by
  have live := pipelined.live harvesting
  have atHead := pipelined.atHead _ _ harvesting
  have worker : ∀ transport : Transport, ∀ unit, (transport.push unit).1.worker = transport.worker := by
    intro transport unit
    unfold Transport.push
    split
    · rfl
    · split <;> rfl
  have silent : ∀ stage, ∀ event ∈ [DirectEvent.disabled stage], quiet event = true := fun _ => one_quiet rfl
  have fails : ∀ stage, Pipelined harvests encodes
      ((harvestReturned draining false (self.disable stage)).2 ++ history)
      (harvestReturned draining false (self.disable stage)).1 := fun stage =>
    pipelined.harvestReturned_kept harvesting (silent stage) (Alike.refl _) (fun _ => rfl) false
  have returns : Pipelined harvests encodes ((harvestReturned draining true (self, [])).2 ++ history)
      (harvestReturned draining true (self, [])).1 :=
    pipelined.harvestReturned_kept harvesting nothing_quiet (Alike.refl _) id true
  cases call with
  | testing limit =>
    refine ⟨harvests, encodes, ?_⟩
    unfold pollHarvest
    dsimp only
    split
    · exact returns
    · exact returns
    · rename_i slot rest _ first
      refine pipelined.harvests_on harvesting nothing_quiet (Alike.refl _) rfl ?_
      exact pipelined.head_eq live first
  | verifying limit slot =>
    refine ⟨harvests, encodes, ?_⟩
    rw [pollHarvest]
    split
    · refine pipelined.harvests_on harvesting nothing_quiet (Alike.refl _) rfl ?_
      exact atHead
    · exact fails _
  | locking limit slot =>
    refine ⟨harvests, encodes, ?_⟩
    rw [pollHarvest]
    split
    · exact returns
    · exact fails _
    · exact fails _
    · rename_i bytes keyframe locked
      obtain ⟨rfl, some⟩ := atHead
      have unhanded : (self.slots (slotOf harvests)).bitstream ∉ handed history :=
        fresh _ (by rw [harvesting]; rfl) bytes (by rw [locked]; rfl)
      have collected_quiet : ∀ event ∈ [DirectEvent.collected (slotOf harvests)], quiet event = true := one_quiet rfl
      refine pipelined.harvests_on harvesting collected_quiet (Alike.refl _) rfl ⟨rfl, some, rfl, ?_⟩
      rw [copied_quiet collected_quiet, handed_quiet collected_quiet]
      exact pipelined.behind live some unhanded
  | entering limit slot unit =>
    refine ⟨harvests, encodes, ?_⟩
    rw [pollHarvest]
    split
    · refine pipelined.harvests_on harvesting nothing_quiet (Alike.refl _) rfl ?_
      exact atHead
    · have refused_quiet : ∀ event ∈ [DirectEvent.refused unit self.transport.ready], quiet event = true := one_quiet rfl
      refine pipelined.harvests_on harvesting refused_quiet (Alike.refl _) rfl ⟨atHead.1, atHead.2.1, nofun⟩
  | pushing limit slot unit =>
    refine ⟨harvests, encodes, ?_⟩
    rw [pollHarvest]
    cases pushed : (self.transport.push unit).2 with
    | true => exact pipelined.hands harvesting (worker _ _)
    | false =>
      have refused_quiet : ∀ event ∈ [DirectEvent.refused unit self.transport.ready], quiet event = true := one_quiet rfl
      exact pipelined.harvests_on harvesting refused_quiet (Alike.refl _) (worker _ _) ⟨atHead.1, atHead.2.1, nofun⟩
  | unlocking limit slot enqueued =>
    refine ⟨harvests, encodes, ?_⟩
    rw [pollHarvest]
    split
    · rename_i mode
      refine pipelined.harvests_on harvesting nothing_quiet (Alike.refl _) rfl ⟨atHead.1, atHead.2.1, fun reached => ?_⟩
      exact atHead.2.2 (reached.resolve_right (not_not_intro mode))
    all_goals
      split
      · exact fails _
      · split
        · exact fails _
        · rename_i taken
          have whole := atHead.2.2 (by simpa using taken)
          split
          · exact pipelined.harvests_on harvesting nothing_quiet (Alike.refl _) rfl ⟨atHead.1, atHead.2.1, fun _ => whole⟩
          · exact pipelined.harvests_on harvesting nothing_quiet (Alike.refl _) rfl ⟨atHead.1, atHead.2.1, whole⟩
  | unmapping limit slot unlocked enqueued =>
    obtain ⟨rfl, waits, whole⟩ := atHead
    have unmapped_quiet : ∀ event ∈ [DirectEvent.unmapped (slotOf harvests)], quiet event = true := one_quiet rfl
    have freed_quiet : ∀ event ∈ [DirectEvent.harvested (slotOf harvests), .unmapped (slotOf harvests)],
        quiet event = true := by simp [quiet]
    have stopped_quiet : ∀ stage, ∀ event ∈ [DirectEvent.disabled stage, .harvested (slotOf harvests),
        .unmapped (slotOf harvests)], quiet event = true := by simp [quiet]
    have alike : Alike (Function.update (self.setSlot (slotOf harvests)
        { self.slots (slotOf harvests) with mapped := false }).slots (slotOf harvests)
          { (self.setSlot (slotOf harvests) { self.slots (slotOf harvests) with mapped := false }).slots
            (slotOf harvests) with busy := false }) self.slots := by
      intro index
      by_cases here : index = slotOf harvests
      · subst here
        simp [setSlot]
      · simp [setSlot, here]
    rw [pollHarvest]
    dsimp only
    split
    · rename_i mode
      refine ⟨harvests + 1, encodes, ?_⟩
      obtain ⟨first, rest, popped⟩ := pop_some waits
      simp only [popped]
      split
      · exact pipelined.pollFailed harvesting mode popped (stopped_quiet _) alike
      · split
        · exact pipelined.pollFailed harvesting mode popped (stopped_quiet _) alike
        · split
          · exact pipelined.pollFailed harvesting mode popped (stopped_quiet _) alike
          · rename_i taken
            refine pipelined.pops live popped freed_quiet alike pipelined.suits
              (pipelined.threads_harvest harvesting rfl rfl rfl) ?_ ?_ ?_ id
            · rintro (releasing | ⟨index, releasing⟩)
              · exact pipelined.torn (.inl releasing)
              · cases releasing
            · intro _ _ same _ _
              cases same
              trivial
            · exact (whole (.inl (by simpa using taken))).same freed_quiet rfl id
    all_goals
      rename_i mode
      refine ⟨harvests, encodes, ?_⟩
      split
      · exact pipelined.harvests_on harvesting unmapped_quiet (setSlot_alike rfl rfl rfl rfl) rfl
          ⟨rfl, waits, (whole (.inr (by rw [mode]; decide))).same unmapped_quiet rfl id⟩
      · have ended_quiet : ∀ event ∈ [DirectEvent.disabled "output input reclaim", .unmapped (slotOf harvests)],
            quiet event = true := by simp [quiet]
        exact pipelined.harvestReturned_kept harvesting ended_quiet (Alike.refl _) (fun _ => rfl) false
  | marking limit slot =>
    refine ⟨harvests, encodes, ?_⟩
    rw [pollHarvest]
    have harvested_quiet : ∀ event ∈ [DirectEvent.harvested slot], quiet event = true := one_quiet rfl
    exact pipelined.harvests_on harvesting harvested_quiet (setSlot_alike rfl rfl rfl rfl) rfl
      ⟨atHead.1, atHead.2.1, atHead.2.2.same harvested_quiet rfl id⟩
  | advancing limit slot =>
    obtain ⟨rfl, waits, whole⟩ := atHead
    obtain ⟨first, rest, popped⟩ := pop_some waits
    refine ⟨harvests + 1, encodes, ?_⟩
    rw [pollHarvest]
    simp only [popped]
    refine pipelined.pops live popped nothing_quiet (Alike.refl _) pipelined.suits
      (pipelined.threads_harvest harvesting rfl rfl rfl) ?_ ?_ whole id
    · rintro (releasing | ⟨index, releasing⟩)
      · exact pipelined.torn (.inl releasing)
      · cases releasing
    · intro _ _ same _ _
      cases same
      split <;> trivial
  | freeing limit slot =>
    refine ⟨harvests, encodes, ?_⟩
    rw [pollHarvest]
    exact pipelined.harvests_on harvesting nothing_quiet (setSlot_alike rfl rfl rfl rfl) rfl trivial

/-! ## The loops of the collector, and the teardown -/

/-- Where the collector is not in a harvest. -/
theorem loops (pipelined : Pipelined harvests encodes history self) {later : Collector} {seen : List DirectEvent}
    {disabled : Bool} (still : ∀ event ∈ seen, quiet event = true) (live : self.initialized = true)
    (disables : self.disabled = true → disabled = true) (threads : Threads { self with collector := later, disabled })
    (torn : (∃ index, later = .releasing index) → Worker.gone self.transport.worker = true)
    (begins : ∀ draining call, later = .harvesting draining call → ∃ limit, call = .testing limit) :
    Pipelined harvests encodes (seen ++ history) { self with collector := later, disabled } := by
  refine pipelined.collects still (Alike.refl _) rfl disables threads (.inl live) torn fun draining call same => ?_
  obtain ⟨limit, rfl⟩ := begins draining call same
  trivial

/-- The threads of an output worker that has not ended. -/
theorem output_threads (pipelined : Pipelined harvests encodes history self) (mode : self.mode = .outputWorker)
    (running : self.collector ≠ .ended) {after : Direct} (sameMode : after.mode = self.mode)
    (submitter : after.submitter = self.submitter)
    (own : match after.collector with
      | .starting | .looping _ | .deciding | .harvesting _ _ | .ended => True
      | _ => False) : Threads after := by
  have threads := pipelined.threads
  unfold Threads at *
  rw [sameMode, submitter]
  simp only [mode] at threads ⊢
  cases phase : self.submitter <;> simp only [phase] at threads ⊢ <;> first | exact own | exact absurd threads running

theorem harvest_threads (mode : self.mode = .harvestWorker) {after : Direct} (sameMode : after.mode = self.mode)
    (own : after.collector ≠ .absent ∧ after.collector ≠ .starting) : Threads after := by
  unfold Threads
  rw [sameMode, mode]
  exact own

/-- The phases of the harvest worker alone. -/
theorem harvest_mode (pipelined : Pipelined harvests encodes history self)
    (phase : self.collector = .drainCheck ∨ self.collector = .stopping ∨ self.collector = .joining ∨
      (∃ index, self.collector = .releasing index) ∨ self.collector = .closing) : self.mode = .harvestWorker := by
  have threads := pipelined.threads
  unfold Threads at threads
  cases mode : self.mode with
  | harvestWorker => rfl
  | synchronous =>
    simp only [mode] at threads
    rcases phase with there | there | there | ⟨index, there⟩ | there <;>
      cases busy : self.submitter <;> simp [there, busy] at threads
  | outputWorker =>
    simp only [mode] at threads
    rcases phase with there | there | there | ⟨index, there⟩ | there <;>
      cases busy : self.submitter <;> simp [there, busy] at threads

theorem other_mode {mode : Mode} (synchronous : mode ≠ .synchronous) (harvest : mode ≠ .harvestWorker) :
    mode = .outputWorker := by
  cases mode with
  | outputWorker => rfl
  | synchronous => exact absurd rfl synchronous
  | harvestWorker => exact absurd rfl harvest

/-- Only a harvest or the end of the worker can be where the mode has no worker. -/
theorem not_synchronous (pipelined : Pipelined harvests encodes history self)
    (idle : ∀ draining call, self.collector ≠ .harvesting draining call) (there : self.collector ≠ .absent) :
    self.mode ≠ .synchronous := by
  intro mode
  have threads := pipelined.threads
  unfold Threads at threads
  simp only [mode] at threads
  cases phase : self.submitter <;> simp only [phase] at threads <;> first
    | exact there threads
    | obtain ⟨call, same⟩ := threads; exact idle _ _ same

/-- The encoder is there until the collector has closed it. -/
theorem live_of_collector (pipelined : Pipelined harvests encodes history self) (there : self.collector ≠ .absent)
    (running : self.collector ≠ .ended) (open_ : self.collector ≠ .closing) : self.initialized = true := by
  by_cases harvesting : ∃ draining call, self.collector = .harvesting draining call
  · obtain ⟨draining, call, harvesting⟩ := harvesting
    exact pipelined.live harvesting
  · have synchronous := pipelined.not_synchronous (fun draining call same => harvesting ⟨draining, call, same⟩) there
    refine pipelined.alive.resolve_right fun released => ?_
    unfold Released at released
    cases mode : self.mode with
    | synchronous => exact synchronous mode
    | outputWorker =>
      simp only [mode] at released
      exact running (released.2.2.1 trivial)
    | harvestWorker =>
      simp only [mode] at released
      exact released.2.2.elim open_ running

theorem live_of_phase (pipelined : Pipelined harvests encodes history self) {collector : Collector}
    (phase : self.collector = collector) (there : collector ≠ .absent) (running : collector ≠ .ended)
    (open_ : collector ≠ .closing) : self.initialized = true := by
  subst phase
  exact pipelined.live_of_collector there running open_

theorem releaseSlot_quiet (index : Fin kSlots) : ∀ event ∈ (self.releaseSlot index).2, quiet event = true := by
  unfold releaseSlot
  dsimp only
  split <;> simp [quiet]

/-- The encoder goes, when nobody looks at its ring any more. -/
theorem releases (pipelined : Pipelined harvests encodes history self) {later : Submitter} {collector : Collector}
    (threads : Threads { self.releaseEncoder with submitter := later, collector })
    (released : Released { self.releaseEncoder with submitter := later, collector })
    (idle : ∀ draining call, collector ≠ .harvesting draining call) (suits : later.suits self.mode = true)
    (rests : self.submitter.Rests self.disabled → later.Rests self.disabled)
    (fills : Filled encodes history self self.submitter → later.Rests self.disabled ∨ Filled encodes history self later) :
    Pipelined harvests encodes history { self.releaseEncoder with submitter := later, collector } := by
  constructor
  case numbered => exact pipelined.numbered
  case place => exact pipelined.place
  case suits => exact suits
  case threads => exact threads
  case alive => exact .inr released
  case torn => exact fun _ => released.2.1
  case order => exact pipelined.order
  case ring => exact nofun
  case atHead => exact fun draining call same => absurd same (idle draining call)
  case taken => exact pipelined.taken
  case tried => exact pipelined.tried
  case output => exact pipelined.output
  case whole => exact pipelined.whole.same nothing_quiet rfl rests
  case settled =>
    refine pipelined.settled.elim (fun resting => .inl (rests resting)) fun filled => (fills filled).imp id fun filled => ?_
    exact filled.same rfl rfl rfl rfl (Alike.refl _) rfl rfl nofun

/-- Turns of the outside and of the transport, which touch neither the slots nor the ring. -/
theorem noisy (pipelined : Pipelined harvests encodes history self)
    {disabled stopRequested shutdownNow cleanupStarted tornDown : Bool} {transport : Transport}
    (disables : self.disabled = true → disabled = true) (cleans : self.cleanupStarted = true → cleanupStarted = true)
    (gone : Worker.gone self.transport.worker = true → Worker.gone transport.worker = true) :
    Pipelined harvests encodes history
      { self with disabled, stopRequested, shutdownNow, cleanupStarted, tornDown, transport } := by
  have whole : ∀ n, Whole n history self → Whole n history
      { self with disabled, stopRequested, shutdownNow, cleanupStarted, tornDown, transport } :=
    fun n whole => whole.same nothing_quiet rfl (Rests_disabled disables)
  constructor
  case numbered => exact pipelined.numbered
  case place => exact pipelined.place
  case suits => exact pipelined.suits
  case threads => exact pipelined.threads
  case alive =>
    refine pipelined.alive.imp id fun released => ?_
    unfold Released at *
    obtain ⟨dead, worker, released⟩ := released
    refine ⟨dead, gone worker, ?_⟩
    cases mode : self.mode <;> simp only [mode] at released ⊢
    case harvestWorker => exact released
    all_goals exact ⟨released.1, cleans released.2.1, Rests_disabled disables released.2.2.1, released.2.2.2⟩
  case torn => exact fun tears => gone (pipelined.torn tears)
  case order => exact pipelined.order
  case ring => exact pipelined.ring
  case atHead =>
    intro draining call harvesting
    exact (pipelined.atHead draining call harvesting).same rfl rfl rfl rfl (fun _ => rfl) whole
  case taken => exact pipelined.taken
  case tried => exact pipelined.tried
  case output => exact pipelined.output
  case whole => exact whole _ pipelined.whole
  case settled =>
    refine pipelined.settled.imp (Rests_disabled disables) fun filled => ?_
    exact filled.same rfl rfl rfl rfl (Alike.refl _) rfl rfl fun live => ⟨live, Nat.le_refl _⟩

theorem collect_kept (pipelined : Pipelined harvests encodes history self) {answer : Answer}
    (fresh : Fresh history self (.collector answer)) :
    ∃ harvests encodes, Pipelined harvests encodes ((self.collect answer).2 ++ history) (self.collect answer).1 := by
  have threads := pipelined.threads
  cases phase : self.collector with
  | harvesting draining call =>
    unfold collect
    rw [phase]
    exact pipelined.pollHarvest_kept phase fresh
  | absent | ended =>
    refine ⟨harvests, encodes, ?_⟩
    unfold collect
    rw [phase]
    exact pipelined
  | starting =>
    have synchronous := pipelined.not_synchronous (by rw [phase]; nofun) (by rw [phase]; nofun)
    have mode : self.mode = .outputWorker := by
      cases mode : self.mode with
      | outputWorker => rfl
      | synchronous => exact absurd mode synchronous
      | harvestWorker =>
        unfold Threads at threads
        simp [mode, phase] at threads
    have live := pipelined.live_of_phase phase nofun nofun nofun
    refine ⟨harvests, encodes, ?_⟩
    unfold collect
    rw [phase]
    dsimp only
    split
    · exact pipelined.loops nothing_quiet live id
        (pipelined.output_threads mode (by rw [phase]; nofun) rfl rfl trivial) nofun nofun
    · have stage_quiet : ∀ event ∈ [DirectEvent.disabled "output GL context"], quiet event = true := one_quiet rfl
      exact pipelined.loops stage_quiet live (fun _ => rfl)
        (pipelined.output_threads mode (by rw [phase]; nofun) rfl rfl trivial) nofun nofun
  | looping checks =>
    have synchronous := pipelined.not_synchronous (by rw [phase]; nofun) (by rw [phase]; nofun)
    have live := pipelined.live_of_phase phase nofun nofun nofun
    have on : ∀ later : Collector, (∃ checks, later = .looping checks) ∨ later = .deciding →
        Threads { self with collector := later } := by
      intro later own
      by_cases mode : self.mode = .harvestWorker
      · refine harvest_threads mode rfl ?_
        rcases own with ⟨checks, rfl⟩ | rfl <;> exact ⟨nofun, nofun⟩
      · refine pipelined.output_threads (other_mode synchronous mode) (by rw [phase]; nofun) rfl rfl ?_
        rcases own with ⟨checks, rfl⟩ | rfl <;> exact trivial
    refine ⟨harvests, encodes, ?_⟩
    unfold collect
    rw [phase]
    cases checks with
    | nil => exact pipelined.loops nothing_quiet live id (on _ (.inr rfl)) nofun nofun
    | cons check checks =>
      dsimp only
      split
      · exact pipelined.loops nothing_quiet live id (on _ (.inl ⟨checks, rfl⟩)) nofun nofun
      · split
        · rename_i mode
          exact pipelined.loops nothing_quiet live id (harvest_threads mode rfl ⟨nofun, nofun⟩) nofun nofun
        · rename_i mode
          exact absurd mode synchronous
        · rename_i mode
          refine pipelined.loops nothing_quiet live id
            (pipelined.output_threads mode (by rw [phase]; nofun) rfl rfl trivial) nofun fun _ _ same => ?_
          cases same
          exact ⟨_, rfl⟩
  | deciding =>
    have synchronous := pipelined.not_synchronous (by rw [phase]; nofun) (by rw [phase]; nofun)
    have live := pipelined.live_of_phase phase nofun nofun nofun
    refine ⟨harvests, encodes, ?_⟩
    unfold collect
    rw [phase]
    dsimp only
    split
    · rename_i mode
      split
      · exact pipelined.loops nothing_quiet live id (harvest_threads mode rfl ⟨nofun, nofun⟩) nofun nofun
      · refine pipelined.loops nothing_quiet live id (harvest_threads mode rfl ⟨nofun, nofun⟩) nofun fun _ _ same => ?_
        cases same
        exact ⟨_, rfl⟩
    · rename_i mode
      exact absurd mode synchronous
    · rename_i mode
      have running : self.collector ≠ .ended := by rw [phase]; nofun
      split
      · refine pipelined.loops nothing_quiet live id (pipelined.output_threads mode running rfl rfl trivial) nofun
          fun _ _ same => ?_
        cases same
        exact ⟨_, rfl⟩
      · exact pipelined.loops nothing_quiet live id (pipelined.output_threads mode running rfl rfl trivial) nofun nofun
  | drainCheck =>
    have mode := pipelined.harvest_mode (.inl phase)
    have live := pipelined.live_of_phase phase nofun nofun nofun
    refine ⟨harvests, encodes, ?_⟩
    unfold collect
    rw [phase]
    dsimp only
    split
    · exact pipelined.loops nothing_quiet live id (harvest_threads mode rfl ⟨nofun, nofun⟩) nofun nofun
    · refine pipelined.loops nothing_quiet live id (harvest_threads mode rfl ⟨nofun, nofun⟩) nofun fun _ _ same => ?_
      cases same
      exact ⟨_, rfl⟩
  | joining =>
    have mode := pipelined.harvest_mode (.inr (.inr (.inl phase)))
    have live := pipelined.live_of_phase phase nofun nofun nofun
    refine ⟨harvests, encodes, ?_⟩
    unfold collect
    rw [phase]
    dsimp only
    split
    · rename_i gone
      exact pipelined.loops nothing_quiet live id (harvest_threads mode rfl ⟨nofun, nofun⟩) (fun _ => gone) nofun
    · exact pipelined
  | stopping =>
    have mode := pipelined.harvest_mode (.inr (.inl phase))
    have live := pipelined.live_of_phase phase nofun nofun nofun
    refine ⟨harvests, encodes, ?_⟩
    unfold collect
    rw [phase]
    exact pipelined.collects nothing_quiet (Alike.refl _) rfl id (harvest_threads mode rfl ⟨nofun, nofun⟩) (.inl live) nofun nofun
  | releasing index =>
    have mode := pipelined.harvest_mode (.inr (.inr (.inr (.inl ⟨index, phase⟩))))
    have live := pipelined.live_of_phase phase nofun nofun nofun
    have gone := pipelined.torn (.inr ⟨index, phase⟩)
    refine ⟨harvests, encodes, ?_⟩
    unfold collect
    rw [phase]
    dsimp only
    split
    · exact pipelined.collects (releaseSlot_quiet _) (setSlot_alike rfl rfl rfl rfl) rfl id
        (harvest_threads mode rfl ⟨(by simp), (by simp)⟩) (.inl live) (fun _ => gone) (by simp)
    · refine pipelined.releases (harvest_threads mode rfl ⟨(by simp), (by simp)⟩) ⟨rfl, gone, ?_⟩ (by simp)
        pipelined.suits id .inr
      have kept : self.releaseEncoder.mode = .harvestWorker := mode
      simp only [kept]
      exact .inl trivial
  | closing =>
    have mode := pipelined.harvest_mode (.inr (.inr (.inr (.inr phase))))
    refine ⟨harvests, encodes, ?_⟩
    unfold collect
    rw [phase]
    have marked : Pipelined harvests encodes history { self with tornDown := true } := pipelined.noisy id id id
    refine marked.collects nothing_quiet (Alike.refl _) rfl id
      (harvest_threads mode rfl ⟨(by simp), (by simp)⟩) (pipelined.alive.imp id fun released => ?_) (by simp) (by simp)
    unfold Released at *
    simp only [mode] at released ⊢
    exact ⟨released.1, released.2.1, .inr trivial⟩

end Pipelined

end Luma.Encoder.Direct
