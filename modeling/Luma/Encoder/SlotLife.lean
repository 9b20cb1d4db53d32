import Luma.Encoder.PipelineRuns

/-! The life of a slot: a copy is made in it, the encoder has it, its bitstream is collected,
and it is free again.
-/

set_option autoImplicit false

namespace Luma.Encoder

/-- What is in a slot, read off what has been seen. -/
inductive Life where
  | free
  | copied
  | mapped
  | failed
  | collected
  deriving DecidableEq, Repr

namespace Direct

open Luma.Library Luma.Library.Transition

/-- What an event makes of its slot. -/
def becomes : DirectEvent → Option (Fin kSlots × Life)
  | .copied slot _ _ => some (slot, .copied)
  | .mapped slot => some (slot, .mapped)
  | .encoded slot _ _ _ result => some (slot, if result = .failed then .failed else .mapped)
  | .collected slot => some (slot, .collected)
  | .harvested slot => some (slot, .free)
  | _ => none

def life (slot : Fin kSlots) : List DirectEvent → Life
  | [] => .free
  | event :: earlier =>
      match becomes event with
      | some (other, now) => if other = slot then now else life slot earlier
      | none => life slot earlier

/-- A slot is copied to only when it is free and unmapped only when the encoder does not have
it, except where the slot is excused. -/
def Respects (excused : Fin kSlots → List DirectEvent → Prop) (event : DirectEvent) (earlier : List DirectEvent) : Prop :=
  match event with
  | .copied slot _ _ => excused slot earlier ∨ life slot earlier = .free
  | .unmapped slot => excused slot earlier ∨ life slot earlier ∉ [.copied, .mapped]
  | .disabled stage => stage ≠ "internal output ordering"
  | _ => True

def Abandoned (slot : Fin kSlots) (earlier : List DirectEvent) : Prop := .abandoned slot ∈ earlier

/-! ## What holds between two turns -/

/-- The submitting thread has a picture in the slot. -/
def Worked (direct : Direct) (slot : Fin kSlots) : Prop := direct.submitter.holds = true ∧ slot = direct.encodeSlot

end Direct

/-- Nothing says that the slot is in use. -/
def Slot.Vacant (slot : Slot) : Prop := slot.copyPending = false ∧ (slot.busy = false ∨ slot.harvested = true)

def Slot.flags (slot : Slot) : Bool × Bool × Bool := (slot.copyPending, slot.busy, slot.harvested)

namespace Direct

open Luma.Library Luma.Library.Transition

/-- What the submitting thread knows about the slot that it is about to use. -/
def Relies (history : List DirectEvent) (self : Direct) : Submitter → Prop
  | .admitting _ _ => self.mode = .outputWorker → (self.slots self.next).busy = false
  | .blitting _ => (self.slots self.next).busy = false
  | .mapping _ | .encoding _ => self.mode ≠ .harvestWorker → (self.slots self.next).busy = false
  | .marking _ later =>
      (self.slots self.encodeSlot).copyPending = false ∧ later <:+ marks self.mode ∧
        (self.mode ≠ .harvestWorker → .busy ∈ later → (self.slots self.next).busy = false) ∧
        (Abandoned self.encodeSlot history ∨ (.busy ∈ later ∨ (self.slots self.encodeSlot).busy = true) ∧
          (.unharvested ∈ later ∨ (self.slots self.encodeSlot).harvested = false))
  | .claiming _ _ | .reclaiming _ _ => (self.slots self.copyNext).copyPending = false
  | .unmapping _ _ | .freeing _ _ | .copying _ _ =>
      (self.slots self.copyNext).copyPending = false ∧ (Abandoned self.copyNext history ∨ (self.slots self.copyNext).Vacant)
  | _ => True

/-- What the collector knows about the slot that it has in hand. -/
def Tends (history : List DirectEvent) (self : Direct) : Harvest → Prop
  | .entering _ slot _ | .pushing _ slot _ | .unlocking _ slot _ | .unmapping _ slot _ _ | .marking _ slot =>
      life slot history = .collected
  | .advancing _ slot =>
      self.mode = .outputWorker → (self.slots slot).busy = true ∧ (self.slots slot).harvested = true
  | .freeing _ slot =>
      self.mode = .outputWorker ∧ (self.slots slot).busy = true ∧ (self.slots slot).harvested = true
  | _ => True

structure Slotted (history : List DirectEvent) (direct : Direct) : Prop where
  respects : Throughout (Respects Abandoned) history
  vacant : ∀ slot, ¬Abandoned slot history → ¬Worked direct slot → (direct.slots slot).Vacant →
    life slot history = .free ∨ direct.submitter.Rests direct.disabled
  ring : direct.initialized = true → ∀ slot ∈ direct.submitted.contents, ¬Abandoned slot history →
    (direct.slots slot).flags = (false, true, false) ∨
      ∃ draining limit, direct.collector = .harvesting draining (.advancing limit slot)
  relies : Relies history direct direct.submitter
  tends : ∀ draining call, direct.collector = .harvesting draining call → Tends history direct call
  spared : ∀ slot, Abandoned slot history → TearsDown direct ∨ direct.initialized = false
  unpending : direct.mode ≠ .harvestWorker → ∀ slot, (direct.slots slot).copyPending = false

/-! ## Events that touch no slot -/

def calm : DirectEvent → Bool
  | .presented _ | .handed _ _ | .refused _ _ | .returned _ => true
  | .disabled stage => stage ≠ "internal output ordering"
  | _ => false

variable {harvests encodes : Nat} {history seen : List DirectEvent} {self after : Direct} {slot : Fin kSlots}

theorem life_apart (apart : ∀ event ∈ seen, ∀ other now, becomes event = some (other, now) → other ≠ slot) :
    life slot (seen ++ history) = life slot history := by
  induction seen with
  | nil => rfl
  | cons event seen ih =>
    have rest := ih fun other member => apart other (List.mem_cons_of_mem _ member)
    rw [List.cons_append, life]
    split
    · rename_i other now same
      rw [if_neg (apart event List.mem_cons_self other now same), rest]
    · exact rest

section

variable (still : ∀ event ∈ seen, calm event = true)
include still

theorem life_calm : life slot (seen ++ history) = life slot history :=
  life_apart fun event member other now same => by
    have quiet := still event member
    cases event <;> simp [calm, becomes] at quiet same

theorem abandoned_calm : Abandoned slot (seen ++ history) ↔ Abandoned slot history := by
  refine ⟨fun abandoned => ?_, List.mem_append_right seen⟩
  rcases List.mem_append.mp abandoned with now | before
  · exact nomatch still _ now
  · exact before

theorem respects_calm (respects : Throughout (Respects Abandoned) history) :
    Throughout (Respects Abandoned) (seen ++ history) := by
  refine Throughout.append (fun event member before => ?_) respects
  have quiet := still event member
  cases event <;> simp_all [calm, Respects]

end

theorem vacant_flags {first second : Slot} (same : first.flags = second.flags) : first.Vacant ↔ second.Vacant := by
  simp only [Slot.flags, Prod.mk.injEq] at same
  rw [Slot.Vacant, Slot.Vacant, same.1, same.2.1, same.2.2]

theorem Tends.same {call : Harvest} (tends : Tends history self call) (lives : ∀ slot, life slot (seen ++ history) = life slot history)
    (mode : after.mode = self.mode) (flags : ∀ slot, (after.slots slot).flags = (self.slots slot).flags) :
    Tends (seen ++ history) after call := by
  have each : ∀ slot, (after.slots slot).busy = (self.slots slot).busy ∧
      (after.slots slot).harvested = (self.slots slot).harvested := by
    intro slot
    have same := flags slot
    simp only [Slot.flags, Prod.mk.injEq] at same
    exact same.2
  unfold Tends at *
  cases call <;> simp only [lives, mode, (each _).1, (each _).2] <;> exact tends

theorem Relies.same {submitter : Submitter} (relies : Relies history self submitter)
    (abandons : ∀ slot, Abandoned slot history → Abandoned slot (seen ++ history))
    (mode : after.mode = self.mode) (next : after.next = self.next) (encodeNext : after.encodeNext = self.encodeNext)
    (copyNext : after.copyNext = self.copyNext) (flags : ∀ slot, (after.slots slot).flags = (self.slots slot).flags) :
    Relies (seen ++ history) after submitter := by
  have each : ∀ slot, (after.slots slot).copyPending = (self.slots slot).copyPending ∧
      (after.slots slot).busy = (self.slots slot).busy ∧ (after.slots slot).harvested = (self.slots slot).harvested := by
    intro slot
    have same := flags slot
    simpa only [Slot.flags, Prod.mk.injEq] using same
  have here : after.encodeSlot = self.encodeSlot := by
    unfold encodeSlot
    rw [mode, next, encodeNext]
  unfold Relies at *
  cases submitter <;>
    simp only [mode, next, copyNext, here, (each _).1, (each _).2.1, (each _).2.2, vacant_flags (flags _)] <;>
    first
    | exact relies
    | exact ⟨relies.1, relies.2.1, relies.2.2.1, relies.2.2.2.imp (abandons _) id⟩
    | exact ⟨relies.1, relies.2.imp (abandons _) id⟩

/-- The events are of the slot alone, and not of its teardown. -/
def Own (place : Fin kSlots) (seen : List DirectEvent) : Prop :=
  ∀ event ∈ seen, (∀ other now, becomes event = some (other, now) → other = place) ∧ ∀ slot, event ≠ .abandoned slot

theorem own_nil {place : Fin kSlots} : Own place [] := nofun

theorem own_cons {event : DirectEvent} {place : Fin kSlots}
    (first : ∀ other now, becomes event = some (other, now) → other = place) (unabandoned : ∀ slot, event ≠ .abandoned slot)
    (rest : Own place seen) : Own place (event :: seen) :=
  List.forall_mem_cons.mpr ⟨⟨first, unabandoned⟩, rest⟩

theorem life_own {place : Fin kSlots} (own : Own place seen) (slot : Fin kSlots) (apart : slot ≠ place) :
    life slot (seen ++ history) = life slot history := by
  apply life_apart
  intro event member other now same equal
  exact apart (equal ▸ (own event member).1 other now same)

theorem abandoned_own {place : Fin kSlots} (own : Own place seen) (slot : Fin kSlots)
    (abandoned : Abandoned slot (seen ++ history)) : Abandoned slot history := by
  rcases List.mem_append.mp abandoned with now | before
  · exact absurd rfl ((own _ now).2 slot)
  · exact before

/-- A collector only frees slots, and leaves the one alone whose picture is about to be submitted. -/
theorem Relies.eased {submitter : Submitter} (relies : Relies history self submitter)
    (abandons : ∀ slot, Abandoned slot history → Abandoned slot (seen ++ history))
    (mode : after.mode = self.mode) (next : after.next = self.next) (encodeNext : after.encodeNext = self.encodeNext)
    (copyNext : after.copyNext = self.copyNext)
    (pending : ∀ slot, (after.slots slot).copyPending = (self.slots slot).copyPending)
    (busy : ∀ slot, (self.slots slot).busy = false → (after.slots slot).busy = false)
    (harvested : ∀ slot, (self.slots slot).harvested = true → (after.slots slot).harvested = true)
    (marking : ∀ present marks, submitter = .marking present marks → Abandoned self.encodeSlot (seen ++ history) ∨
      (after.slots self.encodeSlot).flags = (self.slots self.encodeSlot).flags) :
    Relies (seen ++ history) after submitter := by
  have here : after.encodeSlot = self.encodeSlot := by
    unfold encodeSlot
    rw [mode, next, encodeNext]
  have vacant : ∀ slot, (self.slots slot).Vacant → (after.slots slot).Vacant := fun slot vacant =>
    ⟨(pending slot).trans vacant.1, vacant.2.imp (busy slot) (harvested slot)⟩
  unfold Relies at *
  cases submitter with
  | admitting | mapping | encoding =>
    simp only [mode, next]
    exact fun output => busy _ (relies output)
  | blitting =>
    simp only [next]
    exact busy _ relies
  | marking present later =>
    simp only [mode, next, here, pending]
    refine ⟨relies.1, relies.2.1, fun other idle => busy _ (relies.2.2.1 other idle), ?_⟩
    rcases marking present later rfl with abandoned | same
    · exact .inl abandoned
    · simp only [Slot.flags, Prod.mk.injEq] at same
      rw [same.2.1, same.2.2]
      exact relies.2.2.2.imp (abandons _) id
  | claiming | reclaiming =>
    simp only [copyNext, pending]
    exact relies
  | unmapping | freeing | copying =>
    simp only [copyNext, pending]
    exact ⟨relies.1, relies.2.imp (abandons _) (vacant _)⟩
  | _ => trivial

namespace Slotted

/-- A turn that touches no slot. -/
theorem strolls (slotted : Slotted history self) (still : ∀ event ∈ seen, calm event = true)
    (mode : after.mode = self.mode) (flags : ∀ slot, (after.slots slot).flags = (self.slots slot).flags)
    (submitted : after.submitted = self.submitted) (initialized : after.initialized = self.initialized)
    (advancing : ∀ draining limit slot, self.collector = .harvesting draining (.advancing limit slot) →
      after.collector = self.collector)
    (worked : ∀ slot, Worked self slot → Worked after slot)
    (rests : self.submitter.Rests self.disabled → after.submitter.Rests after.disabled)
    (relies : Relies (seen ++ history) after after.submitter)
    (tends : ∀ draining call, after.collector = .harvesting draining call → Tends (seen ++ history) after call)
    (torn : TearsDown self → TearsDown after) : Slotted (seen ++ history) after := by
  have lives : ∀ slot, life slot (seen ++ history) = life slot history := fun slot => life_calm still
  constructor
  case respects => exact respects_calm still slotted.respects
  case vacant =>
    intro slot spared free vacant
    rw [lives]
    exact (slotted.vacant slot (mt (abandoned_calm still).mpr spared) (mt (worked slot) free)
      ((vacant_flags (flags slot)).mp vacant)).imp id rests
  case ring =>
    intro live slot member spared
    rw [submitted] at member
    rw [flags]
    refine (slotted.ring (initialized ▸ live) slot member (mt (abandoned_calm still).mpr spared)).imp id ?_
    rintro ⟨draining, limit, there⟩
    exact ⟨draining, limit, (advancing draining limit slot there).trans there⟩
  case relies => exact relies
  case tends => exact tends
  case spared =>
    intro slot abandoned
    rw [initialized]
    exact (slotted.spared slot ((abandoned_calm still).mp abandoned)).imp torn id
  case unpending =>
    intro other slot
    have same := flags slot
    simp only [Slot.flags, Prod.mk.injEq] at same
    rw [same.1]
    exact slotted.unpending (mode ▸ other) slot

/-- A turn of the submitting thread that has no picture in hand and touches no slot. -/
theorem submits (slotted : Slotted history self) (still : ∀ event ∈ seen, calm event = true)
    (mode : after.mode = self.mode) (flags : ∀ slot, (after.slots slot).flags = (self.slots slot).flags)
    (submitted : after.submitted = self.submitted) (initialized : after.initialized = self.initialized)
    (collector : after.collector = self.collector) (empty : self.submitter.holds = false)
    (rests : self.submitter.Rests self.disabled → after.submitter.Rests after.disabled)
    (relies : Relies (seen ++ history) after after.submitter) (torn : TearsDown self → TearsDown after) :
    Slotted (seen ++ history) after :=
  slotted.strolls still mode flags submitted initialized (fun _ _ _ _ => collector)
    (fun _ worked => nomatch empty.symm.trans worked.1) rests relies
    (fun draining call harvesting =>
      (slotted.tends draining call (collector ▸ harvesting)).same (fun _ => life_calm still) mode flags) torn

/-- The next slot of a path that encodes what it has just copied. -/
theorem encodeSlot_next (other : self.mode ≠ .harvestWorker) : self.encodeSlot = self.next := by
  unfold encodeSlot
  cases mode : self.mode with
  | harvestWorker => exact absurd mode other
  | synchronous | outputWorker => rfl

/-- The submitting thread goes on with a picture in hand, or fails with it. Only its slot is touched. -/
theorem works (slotted : Slotted history self) (pipelined : Pipelined harvests encodes history self)
    {submitter : Submitter} (phase : self.submitter = submitter) (awake : ¬submitter.Rests self.disabled)
    (admitted : submitter.admitted = true) (mode : after.mode = self.mode) (submitted : after.submitted = self.submitted)
    (initialized : after.initialized = self.initialized) (collector : after.collector = self.collector)
    (here : after.submitter.holds = true → after.encodeSlot = self.encodeSlot)
    (elsewhere : ∀ slot, slot ≠ self.encodeSlot → (after.slots slot).flags = (self.slots slot).flags)
    (own : Own self.encodeSlot seen)
    (respects : Throughout (Respects Abandoned) (seen ++ history))
    (owns : after.submitter.holds = true ∨ after.submitter.Rests after.disabled)
    (idle : self.mode = .outputWorker → (self.slots self.next).busy = false)
    (relies : Relies (seen ++ history) after after.submitter)
    (unpending : self.mode ≠ .harvestWorker → (after.slots self.encodeSlot).copyPending = false) :
    Slotted (seen ++ history) after := by
  have lives : ∀ slot, slot ≠ self.encodeSlot → life slot (seen ++ history) = life slot history := life_own own
  have before : ∀ slot, Abandoned slot (seen ++ history) → Abandoned slot history := abandoned_own own
  -- The slots in the ring are others while there is room for the picture in hand.
  have room : self.initialized = true → self.submitted.count < kSlots := (pipelined.filled phase awake).room admitted
  have apart : self.initialized = true → ∀ n, harvests ≤ n → n < encodes → slotOf n ≠ self.encodeSlot :=
    fun live n => pipelined.apart_of_room live (room live)
  constructor
  case respects => exact respects
  case vacant =>
    intro slot spared free vacant
    rcases owns with holds | rests
    case inr => exact .inr rests
    have other : slot ≠ self.encodeSlot := fun same => free ⟨holds, same.trans (here holds).symm⟩
    rw [lives slot other]
    refine .inl ((slotted.vacant slot (fun abandoned => spared (List.mem_append_right seen abandoned)) ?_
      ((vacant_flags (elsewhere slot other)).mp vacant)).resolve_right (phase ▸ awake))
    exact fun worked => other worked.2
  case ring =>
    intro live slot member spared
    have live : self.initialized = true := initialized ▸ live
    rw [submitted, (pipelined.ring live).contents] at member
    obtain ⟨n, place, rfl⟩ := List.mem_map.mp member
    obtain ⟨low, high⟩ := List.mem_range'_1.mp place
    have counted := (pipelined.ring live).counted
    rw [elsewhere _ (apart live n low (by omega)), collector]
    refine slotted.ring live _ ?_ fun abandoned => spared (List.mem_append_right seen abandoned)
    rw [(pipelined.ring live).contents]
    exact member
  case relies => exact relies
  case tends =>
    intro draining call harvesting
    rw [collector] at harvesting
    have tends := slotted.tends draining call harvesting
    have atHead := pipelined.atHead draining call harvesting
    have live := pipelined.live harvesting
    have counted := (pipelined.ring live).counted
    have busyApart : ∀ slot, self.mode = .outputWorker → (self.slots slot).busy = true → slot ≠ self.encodeSlot := by
      intro slot output busy same
      rw [same, encodeSlot_next (by rw [output]; decide), idle output] at busy
      cases busy
    have flags : ∀ slot, slot ≠ self.encodeSlot → (after.slots slot).busy = (self.slots slot).busy ∧
        (after.slots slot).harvested = (self.slots slot).harvested := by
      intro slot other
      have same := elsewhere slot other
      simp only [Slot.flags, Prod.mk.injEq] at same
      exact same.2
    unfold Tends AtHead at *
    rw [mode]
    cases call with
    | testing | verifying | locking => trivial
    | entering _ slot | pushing _ slot | unlocking _ slot | unmapping _ slot | marking _ slot =>
      obtain ⟨rfl, some, -⟩ := atHead
      exact (lives _ (apart live harvests (Nat.le_refl _) (by omega))).trans tends
    | advancing limit slot =>
      intro output
      obtain ⟨busy, harvested⟩ := tends output
      obtain ⟨sameBusy, sameHarvested⟩ := flags slot (busyApart slot output busy)
      exact ⟨sameBusy.trans busy, sameHarvested.trans harvested⟩
    | freeing limit slot =>
      obtain ⟨output, busy, harvested⟩ := tends
      obtain ⟨sameBusy, sameHarvested⟩ := flags slot (busyApart slot output busy)
      exact ⟨output, sameBusy.trans busy, sameHarvested.trans harvested⟩
  case spared =>
    intro slot abandoned
    rw [initialized]
    refine (slotted.spared slot (before slot abandoned)).imp ?_ id
    rintro (⟨index, releasing⟩ | ⟨index, releasing⟩)
    · rw [phase.symm.trans releasing] at admitted
      cases admitted
    · exact .inr ⟨index, collector.trans releasing⟩
  case unpending =>
    intro other slot
    rw [mode] at other
    by_cases same : slot = self.encodeSlot
    · rw [same]
      exact unpending other
    · have flags := elsewhere slot same
      simp only [Slot.flags, Prod.mk.injEq] at flags
      exact flags.1.trans (slotted.unpending other slot)

/-- The teardown does not come while anything is harvested. -/
theorem untouched (slotted : Slotted history self) (pipelined : Pipelined harvests encodes history self) {draining : Bool}
    {call : Harvest} (harvesting : self.collector = .harvesting draining call) (slot : Fin kSlots) :
    ¬Abandoned slot history := by
  intro abandoned
  rcases slotted.spared slot abandoned with (⟨index, releasing⟩ | ⟨index, releasing⟩) | gone
  · have suits := pipelined.suits
    have threads := pipelined.threads
    unfold Threads at threads
    rw [releasing] at suits
    cases mode : self.mode <;> simp only [mode, releasing, harvesting] at threads
    · cases threads
    · cases threads
    · exact of_decide_eq_true suits mode
  · exact nomatch harvesting.symm.trans releasing
  · exact nomatch gone.symm.trans (pipelined.live harvesting)

/-- The head of the ring is one of its slots. -/
theorem head_member (pipelined : Pipelined harvests encodes history self) (live : self.initialized = true)
    (some : 0 < self.submitted.count) : slotOf harvests ∈ self.submitted.contents := by
  rw [(pipelined.ring live).contents]
  exact List.mem_map.mpr ⟨harvests, List.mem_range'_1.mpr ⟨Nat.le_refl _, by omega⟩, rfl⟩

/-- The slot of the next copy is claimed, or a copy is made in it. -/
theorem claims (slotted : Slotted history self) (pipelined : Pipelined harvests encodes history self)
    {submitter : Submitter} (phase : self.submitter = submitter) (claims : submitter.claims = true)
    (free : Abandoned self.copyNext history ∨ (self.slots self.copyNext).Vacant) (harvest : self.mode = .harvestWorker)
    (mode : after.mode = self.mode) (submitted : after.submitted = self.submitted)
    (initialized : after.initialized = self.initialized) (collector : after.collector = self.collector)
    (elsewhere : ∀ slot, slot ≠ self.copyNext → (after.slots slot).flags = (self.slots slot).flags)
    (own : Own self.copyNext seen)
    (respects : Throughout (Respects Abandoned) (seen ++ history))
    (here : ¬Abandoned self.copyNext history → (after.slots self.copyNext).Vacant →
      life self.copyNext (seen ++ history) = .free ∨ after.submitter.Rests after.disabled)
    (relies : Relies (seen ++ history) after after.submitter) : Slotted (seen ++ history) after := by
  have lives : ∀ slot, slot ≠ self.copyNext → life slot (seen ++ history) = life slot history := life_own own
  have before : ∀ slot, Abandoned slot (seen ++ history) → Abandoned slot history := abandoned_own own
  obtain ⟨-, empty, -, -, awake⟩ := Pipelined.claims_apart claims
  -- A vacant slot is in the ring only between its mark and the step of the head.
  have marked : self.initialized = true → self.copyNext ∈ self.submitted.contents → ¬Abandoned self.copyNext history →
      ∃ draining limit, self.collector = .harvesting draining (.advancing limit self.copyNext) := by
    intro live member spared
    refine (slotted.ring live _ member spared).resolve_left fun flags => ?_
    have vacant := free.resolve_left spared
    simp only [Slot.flags, Prod.mk.injEq] at flags
    rcases vacant.2 with idle | harvested
    · exact nomatch idle.symm.trans flags.2.1
    · exact nomatch harvested.symm.trans flags.2.2
  constructor
  case respects => exact respects
  case vacant =>
    intro slot spared _ vacant
    have spared : ¬Abandoned slot history := fun abandoned => spared (List.mem_append_right seen abandoned)
    by_cases same : slot = self.copyNext
    · subst same
      exact here spared vacant
    · rw [lives slot same]
      refine .inl ((slotted.vacant slot spared ?_ ((vacant_flags (elsewhere slot same)).mp vacant)).resolve_right ?_)
      · exact fun worked => nomatch (phase ▸ empty).symm.trans worked.1
      · exact phase ▸ awake _
  case ring =>
    intro live slot member spared
    have live : self.initialized = true := initialized ▸ live
    have spared : ¬Abandoned slot history := fun abandoned => spared (List.mem_append_right seen abandoned)
    rw [submitted] at member
    rw [collector]
    by_cases same : slot = self.copyNext
    · subst same
      exact .inr (marked live member spared)
    · rw [elsewhere slot same]
      exact slotted.ring live slot member spared
  case relies => exact relies
  case tends =>
    intro draining call harvesting
    rw [collector] at harvesting
    have tends := slotted.tends draining call harvesting
    have atHead := pipelined.atHead draining call harvesting
    have live := pipelined.live harvesting
    have apart : 0 < self.submitted.count → (∀ limit slot, call ≠ .advancing limit slot) → slotOf harvests ≠ self.copyNext := by
      intro some other same
      obtain ⟨_, limit, advancing⟩ := marked live (same ▸ head_member pipelined live some)
        (slotted.untouched pipelined harvesting _)
      rw [harvesting] at advancing
      cases advancing
      exact other limit _ rfl
    unfold Tends AtHead at *
    rw [mode]
    cases call with
    | testing | verifying | locking => trivial
    | entering _ slot | pushing _ slot | unlocking _ slot | unmapping _ slot | marking _ slot =>
      obtain ⟨rfl, some, -⟩ := atHead
      exact (lives _ (apart some nofun)).trans tends
    | advancing limit slot => exact fun output => nomatch harvest.symm.trans output
    | freeing limit slot => exact nomatch harvest.symm.trans tends.1
  case spared =>
    intro slot abandoned
    rw [initialized]
    refine (slotted.spared slot (before slot abandoned)).imp ?_ id
    rintro (⟨index, releasing⟩ | ⟨index, releasing⟩)
    · rw [phase.symm.trans releasing] at claims
      cases claims
    · exact .inr ⟨index, collector.trans releasing⟩
  case unpending => exact fun other => absurd (mode.trans harvest) other

/-- The picture in hand goes into the ring. -/
theorem appended (slotted : Slotted history self) (pipelined : Pipelined harvests encodes history self)
    {present : Present} (phase : self.submitter = .marking present []) (still : ∀ event ∈ seen, calm event = true)
    (mode : after.mode = self.mode) (slots : after.slots = self.slots)
    (submitted : after.submitted = self.submitted.push self.encodeSlot) (initialized : after.initialized = self.initialized)
    (collector : after.collector = self.collector) (relies : Relies (seen ++ history) after after.submitter) :
    Slotted (seen ++ history) after := by
  have marked := slotted.relies
  rw [phase] at marked
  obtain ⟨pending, -, -, flags⟩ := marked
  have lives : ∀ slot, life slot (seen ++ history) = life slot history := fun slot => life_calm still
  have awake : ¬self.submitter.Rests self.disabled := by rw [phase]; exact nofun
  constructor
  case respects => exact respects_calm still slotted.respects
  case vacant =>
    intro slot spared _ vacant
    have spared : ¬Abandoned slot history := mt (abandoned_calm still).mpr spared
    rw [slots] at vacant
    rw [lives]
    refine .inl ((slotted.vacant slot spared (fun worked => ?_) vacant).resolve_right awake)
    rw [worked.2] at spared vacant
    obtain ⟨busy, harvested⟩ := flags.resolve_left spared
    rcases vacant.2 with idle | free
    · exact nomatch idle.symm.trans (busy.resolve_left nofun)
    · exact nomatch free.symm.trans (harvested.resolve_left nofun)
  case ring =>
    intro live slot member spared
    have spared : ¬Abandoned slot history := mt (abandoned_calm still).mpr spared
    have live : self.initialized = true := initialized ▸ live
    have room := (pipelined.filled phase nofun).room rfl live
    rw [submitted, RingQueue.contents_push self.encodeSlot room] at member
    rw [slots, collector]
    rcases List.mem_append.mp member with before | last
    · exact slotted.ring live slot before spared
    · obtain rfl := List.mem_singleton.mp last
      obtain ⟨busy, harvested⟩ := flags.resolve_left spared
      refine .inl ?_
      rw [Slot.flags, pending, busy.resolve_left nofun, harvested.resolve_left nofun]
  case relies => exact relies
  case tends =>
    intro draining call harvesting
    exact (slotted.tends draining call (collector ▸ harvesting)).same lives mode fun slot => by rw [slots]
  case spared =>
    intro slot abandoned
    rw [initialized]
    refine (slotted.spared slot ((abandoned_calm still).mp abandoned)).imp ?_ id
    rintro (⟨index, releasing⟩ | ⟨index, releasing⟩)
    · exact nomatch phase.symm.trans releasing
    · exact .inr ⟨index, collector.trans releasing⟩
  case unpending =>
    intro other slot
    rw [slots]
    exact slotted.unpending (mode ▸ other) slot

/-- The collector goes on with the slot that it has in hand. -/
theorem tended (slotted : Slotted history self) (pipelined : Pipelined harvests encodes history self) {head : Fin kSlots}
    {draining : Bool} {call later : Harvest} (harvesting : self.collector = .harvesting draining call)
    (mode : after.mode = self.mode) (next : after.next = self.next) (encodeNext : after.encodeNext = self.encodeNext)
    (copyNext : after.copyNext = self.copyNext) (submitter : after.submitter = self.submitter)
    (disabled : after.disabled = self.disabled) (collector : after.collector = .harvesting draining later)
    (elsewhere : ∀ slot, slot ≠ head → after.slots slot = self.slots slot)
    (own : Own head seen)
    (respects : Throughout (Respects Abandoned) (seen ++ history))
    (pending : (after.slots head).copyPending = (self.slots head).copyPending)
    (busy : (self.slots head).busy = false → (after.slots head).busy = false)
    (harvested : (self.slots head).harvested = true → (after.slots head).harvested = true)
    (apart : self.submitter.holds = true → head ≠ self.encodeSlot)
    (here : (after.slots head).Vacant → life head (seen ++ history) = .free ∨ self.submitter.Rests self.disabled)
    (ring : ∀ slot ∈ after.submitted.contents, slot ∈ self.submitted.contents ∧ (slot ≠ head ∨
      (after.slots slot).flags = (false, true, false) ∨ ∃ draining limit, after.collector = .harvesting draining (.advancing limit slot)))
    (steps : ∀ limit slot, call = .advancing limit slot → slot = head)
    (tends : Tends (seen ++ history) after later) : Slotted (seen ++ history) after := by
  have lives : ∀ slot, slot ≠ head → life slot (seen ++ history) = life slot history := life_own own
  have before : ∀ slot, Abandoned slot (seen ++ history) → Abandoned slot history := abandoned_own own
  have live := pipelined.live harvesting
  have place : after.encodeSlot = self.encodeSlot := by
    unfold encodeSlot
    rw [mode, next, encodeNext]
  constructor
  case respects => exact respects
  case vacant =>
    intro slot spared free vacant
    have spared : ¬Abandoned slot history := fun abandoned => spared (List.mem_append_right seen abandoned)
    rw [submitter, disabled]
    by_cases same : slot = head
    · subst same
      exact here vacant
    · rw [lives slot same]
      rw [elsewhere slot same] at vacant
      refine slotted.vacant slot spared (fun worked => free ?_) vacant
      exact ⟨by rw [submitter]; exact worked.1, worked.2.trans place.symm⟩
  case ring =>
    intro _ slot member spared
    have spared : ¬Abandoned slot history := fun abandoned => spared (List.mem_append_right seen abandoned)
    obtain ⟨there, other | known⟩ := ring slot member
    · refine (slotted.ring live slot there spared).imp (fun flags => by rw [elsewhere slot other, flags]) ?_
      rintro ⟨_, limit, advancing⟩
      rw [harvesting] at advancing
      cases advancing
      exact absurd (steps limit slot rfl) other
    · exact known
  case relies =>
    rw [submitter]
    refine slotted.relies.eased (fun slot abandoned => List.mem_append_right seen abandoned) mode next encodeNext copyNext
      (fun slot => ?_) (fun slot => ?_) (fun slot => ?_) fun present marks marking => .inr ?_
    · by_cases same : slot = head
      · rw [same, pending]
      · rw [elsewhere slot same]
    · by_cases same : slot = head
      · rw [same]
        exact busy
      · rw [elsewhere slot same]
        exact id
    · by_cases same : slot = head
      · rw [same]
        exact harvested
      · rw [elsewhere slot same]
        exact id
    · rw [elsewhere _ (apart (by rw [marking]; rfl)).symm]
  case tends =>
    intro begun call same
    rw [collector] at same
    cases same
    exact tends
  case spared => exact fun slot abandoned => absurd (before slot abandoned) (slotted.untouched pipelined harvesting slot)
  case unpending =>
    intro other slot
    rw [mode] at other
    by_cases same : slot = head
    · rw [same, pending]
      exact slotted.unpending other head
    · rw [elsewhere slot same]
      exact slotted.unpending other slot

end Slotted

end Direct

end Luma.Encoder
