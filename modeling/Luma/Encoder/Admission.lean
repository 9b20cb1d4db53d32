import Luma.Encoder.PipelineRuns
import Luma.Encoder.TransportOrder

/-! Admission: a frame is submitted only while the transport has a slot left for it.

What the transport holds and what is still with the encoder fit together into the transport,
as long as no picture is collected twice. A collection whose unlock fails leaves its picture
at the head of the ring, and the drain that follows collects it again.
-/

set_option autoImplicit false

namespace Luma.Encoder

open Luma.Library Luma.Library.Transition

/-- A slot of the transport is kept for a frame that is not yet submitted. -/
def Submitter.reserved : Submitter → Nat
  | .probing _ | .blitting _ | .mapping _ | .encoding _ => 1
  | _ => 0

/-- The unit that the collector has in hand. -/
def Collector.unit : Collector → Option EncodedUnit
  | .harvesting _ (.entering _ _ unit) | .harvesting _ (.pushing _ _ unit) => some unit
  | _ => none

def Worker.serves : Worker → Bool
  | .waiting | .writing _ | .releasing _ _ | .leaving _ => true
  | _ => false

namespace Transport

/-- The slots are accounted for, and only a transport with a worker is ready. -/
structure Served (transport : Transport) : Prop where
  pooled : Pooled transport
  ready : transport.ready = true → transport.worker.serves = true

namespace Served

variable {transport : Transport}

theorem initial (fps : UInt32) : Served (Transport.initial fps) := ⟨(Ordered.initial fps).pooled, nofun⟩

theorem stopped (served : Served transport) : Served { transport with stop := true } :=
  ⟨served.pooled.of_same rfl rfl rfl, served.ready⟩

theorem work (served : Served transport) (succeeds : Bool) : Served (transport.work succeeds).1 := by
  refine ⟨served.pooled.kept (work_effect transport succeeds), ?_⟩
  have ready := served.ready
  unfold Transport.work
  cases phase : transport.worker with
  | starting =>
    rw [phase] at ready
    cases succeeds with
    | true => exact fun _ => rfl
    | false => exact ready
  | waiting =>
    dsimp only
    split
    · exact fun _ => rfl
    · split
      · exact fun _ => rfl
      · exact ready
  | writing slot => exact fun _ => rfl
  | releasing slot written => cases written <;> exact fun _ => rfl
  | leaving written => exact nofun
  | closing written =>
    rw [phase] at ready
    exact ready
  | aborted | ended => exact ready

/-- A turn of the worker only frees slots. -/
theorem work_inFlight (served : Served transport) (succeeds : Bool) :
    (transport.work succeeds).1.transportInFlight ≤ transport.transportInFlight := by
  have pools := (served.work succeeds).pooled
  have effect := work_effect transport succeeds
  generalize (transport.work succeeds).1 = after, (transport.work succeeds).2 = seen at pools effect
  rw [pools.inFlight, served.pooled.inFlight]
  cases effect with
  | quiet held ring => rw [held, ring]
  | taken _ slot rest idle first =>
    obtain ⟨-, less⟩ := RingQueue.contents_pop first
    simp only [held, idle, List.length_singleton, List.length_nil]
    omega
  | wrote slot _ writing => simp [held, writing]
  | released _ slot written releasing => cases written <;> simp [held, releasing, setSlot]

theorem push (served : Served transport) (unit : EncodedUnit) :
    Served (transport.push unit).1 ∧
      (transport.push unit).1.transportInFlight = transport.transportInFlight + (transport.push unit).2.toNat ∧
      ((transport.push unit).2 = false → kQueueMax ≤ transport.transportInFlight) := by
  by_cases space : transport.transportInFlight < kQueueMax
  · obtain ⟨index, unused, accepted⟩ := served.pooled.push_accepts space unit
    obtain ⟨pools, counts⟩ := served.pooled.pushed unused (packetBytes transport.fps unit)
    rw [accepted]
    exact ⟨⟨pools, served.ready⟩, counts, nofun⟩
  · rw [served.pooled.push_refuses space unit]
    exact ⟨served, rfl, fun _ => Nat.le_of_not_lt space⟩

end Served

end Transport

namespace Direct

/-- The pictures that the encoder has taken and whose access units are not handed over. -/
def outstanding (history : List DirectEvent) : List (Nat × UInt64) :=
  (accepted history).filter fun picture => picture ∉ handed history

/-- What is in the transport and with the encoder fits into the transport, and a ready
transport refuses only units that are too large. -/
structure Admitted (history : List DirectEvent) (direct : Direct) : Prop where
  capacity : direct.transport.transportInFlight + (outstanding history).length ≤ kQueueMax
  unrefused : ∀ unit, .refused unit true ∈ history → 8 * 1024 * 1024 < unit.bytes.length

/-- A collection is of a picture that has not been handed over, and not empty. -/
def Collectable : Condition Direct DirectInput DirectEvent := fun history self input =>
  Fresh history self input ∧
    match input with
    | .collector answer => ∀ _ ∈ self.collector.locks, ∀ bytes ∈ answer.lock.bytes, bytes ≠ []
    | _ => True

instance : ∀ history self input, Decidable (Collectable history self input)
  | history, self, .collector answer =>
      inferInstanceAs (Decidable (Fresh history self (.collector answer) ∧
        ∀ _ ∈ self.collector.locks, ∀ bytes ∈ answer.lock.bytes, bytes ≠ []))
  | _, _, .submit _ | _, _, .submitter _ | _, _, .transport _ | _, _, .stopTransport | _, _, .raise _ | _, _, .finish =>
      .isTrue ⟨trivial, trivial⟩

/-- The event is of no encoding, handing over or refusal. -/
def unbooked : DirectEvent → Bool
  | .handed _ _ | .refused _ _ => false
  | .encoded _ _ _ _ result => result = .failed
  | _ => true

/-- Every picture that the encoder has, or is about to have, has its slot in the transport. -/
structure Booked (history : List DirectEvent) (direct : Direct) : Prop where
  served : direct.transport.Served
  slots : direct.transport.transportInFlight + (accepted history).length + direct.submitter.reserved ≤
    kQueueMax + (handed history).length
  named : ∀ unit, direct.collector.unit = some unit → unit.bytes ≠ []
  unrefused : ∀ unit, .refused unit true ∈ history → 8 * 1024 * 1024 < unit.bytes.length

variable {harvests encodes : Nat} {history seen : List DirectEvent} {self after : Direct}

theorem accepted_unbooked (still : ∀ event ∈ seen, unbooked event = true) : accepted (seen ++ history) = accepted history := by
  have nothing : accepted seen = [] := by
    simp only [accepted, chronicle, List.reverse_eq_nil_iff, List.filterMap_eq_nil_iff]
    intro event member
    have calm := still event member
    cases event <;> simp_all [unbooked]
  rw [accepted, chronicle_append]
  exact (congrArg _ nothing).trans (List.append_nil _)

theorem handed_unbooked (still : ∀ event ∈ seen, unbooked event = true) : handed (seen ++ history) = handed history := by
  have nothing : handed seen = [] := by
    simp only [handed, chronicle, List.reverse_eq_nil_iff, List.filterMap_eq_nil_iff]
    intro event member
    have calm := still event member
    cases event <;> simp_all [unbooked]
  rw [handed, chronicle_append]
  exact (congrArg _ nothing).trans (List.append_nil _)

theorem nothing_unbooked : ∀ event ∈ ([] : List DirectEvent), unbooked event = true := nofun

theorem returned_unbooked (value : Bool) : ∀ event ∈ [DirectEvent.returned value], unbooked event = true := by
  simp [unbooked]

theorem releaseSlot_unbooked (index : Fin kSlots) : ∀ event ∈ (self.releaseSlot index).2, unbooked event = true := by
  unfold releaseSlot
  dsimp only
  split <;> simp [unbooked]

namespace Booked

/-- A turn that books nothing. -/
theorem quiet (booked : Booked history self) (still : ∀ event ∈ seen, unbooked event = true)
    (served : after.transport.Served) (inFlight : after.transport.transportInFlight ≤ self.transport.transportInFlight)
    (reserved : after.submitter.reserved ≤ self.submitter.reserved)
    (units : ∀ unit, after.collector.unit = some unit → unit.bytes ≠ []) : Booked (seen ++ history) after where
  served := served
  slots := by
    have slots := booked.slots
    rw [accepted_unbooked still, handed_unbooked still]
    omega
  named := units
  unrefused unit refused := by
    rcases List.mem_append.mp refused with now | before
    · exact nomatch still _ now
    · exact booked.unrefused unit before

/-- The same, with the transport left alone and no slot reserved. -/
theorem submits (booked : Booked history self) (still : ∀ event ∈ seen, unbooked event = true)
    (transport : after.transport = self.transport) (collector : after.collector.unit = none ∨ after.collector = self.collector)
    (reserved : after.submitter.reserved ≤ self.submitter.reserved) : Booked (seen ++ history) after := by
  refine booked.quiet still (transport ▸ booked.served) (by rw [transport]) reserved fun unit named => ?_
  rcases collector with nothing | same
  · exact nomatch nothing.symm.trans named
  · exact booked.named unit (same ▸ named)

theorem submissionFailed (booked : Booked history self) {present : Present} {before : Outcome}
    (still : ∀ event ∈ before.2, unbooked event = true) (transport : before.1.transport = self.transport)
    (collector : before.1.collector = self.collector) :
    Booked ((Direct.submissionFailed present before).2 ++ history) (Direct.submissionFailed present before).1 := by
  unfold Direct.submissionFailed
  split
  · exact booked.submits still transport (.inr collector) (Nat.zero_le _)
  all_goals
    refine booked.submits (fun event member => ?_) transport (.inr collector) (Nat.zero_le _)
    rcases List.mem_cons.mp member with rfl | member
    · rfl
    · exact still event member

/-- A submission is admitted by what the encoder and the transport hold at that moment. -/
theorem admission_kept (booked : Booked history self) (pipelined : Pipelined harvests encodes history self)
    {present : Present} {inFlight : Nat} (phase : self.submitter = .admitting present inFlight) :
    Booked ((self.admission present inFlight).2 ++ history) (self.admission present inFlight).1 := by
  have filled := pipelined.filled phase nofun
  have room : self.transport.canAdmit inFlight = true →
      self.transport.transportInFlight + (accepted history).length + 1 ≤ kQueueMax + (handed history).length := by
    intro admits
    obtain ⟨ready, space⟩ := Bool.and_eq_true_iff.mp admits
    have space := of_decide_eq_true space
    -- A ready transport has its worker, so the encoder has not been released.
    have live : self.initialized = true := by
      refine pipelined.alive.resolve_right fun released => ?_
      have serves := booked.served.ready ready
      have gone := released.2.1
      cases worker : self.transport.worker <;> rw [worker] at serves gone <;> first | cases serves; done | cases gone
    have whole : harvests ≤ (handed history).length :=
      pipelined.whole.resolve_left fun failed => nomatch phase ▸ failed.2
    have counted := (pipelined.ring live).counted
    have read := (filled.read present inFlight (.inl rfl)).1 live
    have taken : (accepted history).length = encodes := by
      rw [filled.accepted]
      exact List.length_take_of_le pipelined.order.2
    omega
  have reserves : ∀ later : Submitter, later.reserved ≤ 1 → self.transport.canAdmit inFlight = true →
      Booked history { self with submitter := later } := by
    intro later one admits
    have enough := room admits
    exact ⟨booked.served, Nat.le_trans (Nat.add_le_add_left one _) enough, booked.named, booked.unrefused⟩
  unfold admission
  dsimp only
  cases admits : self.transport.canAdmit inFlight with
  | false =>
    split
    · exact booked.submits nothing_unbooked rfl (.inr rfl) (Nat.zero_le _)
    · exact booked.submits nothing_unbooked rfl (.inr rfl) (Nat.zero_le _)
    · exact booked.submits (returned_unbooked false) rfl (.inr rfl) (Nat.zero_le _)
  | true =>
    split
    · exact reserves _ (Nat.le_refl _) admits
    · exact reserves _ (Nat.le_refl _) admits
    · split
      · exact booked.submits (returned_unbooked false) rfl (.inr rfl) (Nat.zero_le _)
      · exact reserves _ (Nat.le_refl _) admits

theorem encode_kept (booked : Booked history self) {present : Present} (phase : self.submitter = .encoding present)
    (answer : Answer) : Booked ((self.encode present answer).2 ++ history) (self.encode present answer).1 := by
  have slots := booked.slots
  rw [phase] at slots
  -- The slot that was kept is now the picture's.
  have takes : ∀ (result : EncodeResult) (after : Direct) (later : List DirectEvent), result ≠ .failed →
      after.transport = self.transport → after.collector = self.collector → after.submitter.reserved = 0 →
      (∀ event ∈ later, unbooked event = true) →
      Booked (later ++ [.encoded self.encodeSlot (self.slots self.encodeSlot).texture (self.inputTimeStamp present)
        self.firstFrame result] ++ history) after := by
    intro result after later taken transport collector unreserved still
    have encoded : Booked ([.encoded self.encodeSlot (self.slots self.encodeSlot).texture (self.inputTimeStamp present)
        self.firstFrame result] ++ history) after := by
      refine ⟨transport ▸ booked.served, ?_, collector ▸ booked.named, fun unit refused => ?_⟩
      · simp only [accepted, handed, chronicle_cons, List.singleton_append, taken, ↓reduceIte, Option.toList_some,
          Option.toList_none, List.length_append, List.length_singleton, List.append_nil, transport, unreserved]
        exact slots
      · exact booked.unrefused unit (by simpa using refused)
    rw [List.append_assoc]
    exact encoded.submits still rfl (.inr rfl) (Nat.le_refl _)
  unfold encode
  dsimp only
  split
  · rename_i success
    rw [success]
    exact takes .success _ [] (by simp) rfl rfl rfl (by simp)
  · rename_i more
    rw [more]
    unfold Direct.submissionFailed
    split
    · exact takes .needMoreInput _ [.disabled _] (by rintro ⟨⟩) rfl rfl rfl (by simp [unbooked])
    all_goals exact takes .needMoreInput _ [.returned false, .disabled _] (by rintro ⟨⟩) rfl rfl rfl (by simp [unbooked])
  · rename_i failed
    exact booked.submissionFailed (by simp [disable, failed, unbooked]) rfl rfl

theorem submitTurn_kept (booked : Booked history self) (pipelined : Pipelined harvests encodes history self)
    (answer : Answer) : Booked ((self.submitTurn answer).2 ++ history) (self.submitTurn answer).1 := by
  unfold submitTurn
  cases phase : self.submitter with
  | idle | polling | finishPolling => exact booked
  | admitting present inFlight => exact booked.admission_kept pipelined phase
  | encoding present => exact booked.encode_kept phase answer
  | stoppingTransport => exact booked.quiet nofun booked.served.stopped (Nat.le_refl _) (Nat.zero_le _) booked.named
  | probing present =>
    dsimp only
    unfold probe
    split
    · exact booked.submits nothing_unbooked rfl (.inr rfl) (Nat.zero_le _)
    · exact booked.submissionFailed (by simp [disable, unbooked]) rfl rfl
    · exact booked.submits nothing_unbooked rfl (.inr rfl) (by rw [phase]; exact Nat.le_refl _)
    · exact booked.submits nothing_unbooked rfl (.inr rfl) (by rw [phase]; exact Nat.le_refl _)
  | mapping present =>
    dsimp only
    unfold map
    dsimp only
    split
    · exact booked.submits (by simp [unbooked]) rfl (.inr rfl) (by rw [phase]; exact Nat.le_refl _)
    · exact booked.submissionFailed (by simp [disable, unbooked]) rfl rfl
  | blitting present => exact booked.submits (by simp [blit, unbooked]) rfl (.inr rfl) (by rw [phase]; exact Nat.le_refl _)
  | gating present checks =>
    dsimp only
    unfold gate
    repeat' split
    all_goals first
      | exact booked.submits nothing_unbooked rfl (.inr rfl) (Nat.zero_le _)
      | exact booked.submits nothing_unbooked rfl (.inl rfl) (Nat.zero_le _)
      | exact booked.submits (by simp [returns, disable, unbooked]) rfl (.inr rfl) (Nat.zero_le _)
  | _ =>
    simp only [ready, mark, recheck, reclaim, unmapReclaimed, copy, wait, finishLoop]
    repeat' split
    all_goals first
      | exact booked
      | exact booked.submits nothing_unbooked rfl (.inr rfl) (Nat.zero_le _)
      | exact booked.submits nothing_unbooked rfl (.inl rfl) (Nat.zero_le _)
      | exact booked.submits (releaseSlot_unbooked _) rfl (.inr rfl) (Nat.zero_le _)
      | exact booked.submits (by simp [returns, disable, unbooked]) rfl (.inr rfl) (Nat.zero_le _)

theorem harvestReturned (booked : Booked history self) {draining result : Bool} {before : Outcome}
    (still : ∀ event ∈ before.2, unbooked event = true) (transport : before.1.transport = self.transport)
    (submitter : before.1.submitter = self.submitter) :
    Booked ((Direct.harvestReturned draining result before).2 ++ history)
      (Direct.harvestReturned draining result before).1 := by
  have silent : ∀ event ∈ .returned false :: before.2, unbooked event = true := by simpa [unbooked] using still
  unfold Direct.harvestReturned
  dsimp only
  split
  · refine booked.submits still transport (.inl ?_) (by rw [submitter])
    cases draining <;> cases result <;> rfl
  · refine booked.submits still transport (.inl ?_) (by rw [submitter])
    cases draining <;> cases result <;> rfl
  · split
    · split
      · exact booked.submits still transport (.inl rfl) (Nat.zero_le _)
      · exact booked.submits silent transport (.inl rfl) (Nat.zero_le _)
    · refine booked.submits still transport (.inl rfl) ?_
      cases result <;> exact Nat.zero_le _
    · exact booked.submits still transport (.inl rfl) (by rw [submitter])

theorem pollHarvest_kept (booked : Booked history self) (pipelined : Pipelined harvests encodes history self)
    {draining : Bool} {call : Harvest} {answer : Answer} (harvesting : self.collector = .harvesting draining call)
    (collectable : Collectable history self (.collector answer)) :
    Booked ((self.pollHarvest draining answer call).2 ++ history) (self.pollHarvest draining answer call).1 := by
  have fails : ∀ stage, Booked ((Direct.harvestReturned draining false (self.disable stage)).2 ++ history)
      (Direct.harvestReturned draining false (self.disable stage)).1 := fun stage =>
    booked.harvestReturned (by simp [disable, unbooked]) rfl rfl
  have returns : Booked ((Direct.harvestReturned draining true (self, [])).2 ++ history)
      (Direct.harvestReturned draining true (self, [])).1 := booked.harvestReturned nothing_unbooked rfl rfl
  cases call with
  | testing limit =>
    unfold pollHarvest
    dsimp only
    split
    · exact returns
    · exact returns
    · exact booked.submits nothing_unbooked rfl (.inl rfl) (Nat.le_refl _)
  | verifying limit slot =>
    rw [pollHarvest]
    split
    · exact booked.submits nothing_unbooked rfl (.inl rfl) (Nat.le_refl _)
    · exact fails _
  | locking limit slot =>
    rw [pollHarvest]
    split
    · exact returns
    · exact fails _
    · exact fails _
    · rename_i bytes keyframe locked
      have filled : bytes ≠ [] := collectable.2 slot (by rw [harvesting]; rfl) bytes (by rw [locked]; rfl)
      refine booked.quiet (by simp [unbooked]) booked.served (Nat.le_refl _) (Nat.le_refl _) fun unit named => ?_
      cases named
      exact filled
  | entering limit slot unit =>
    have named := booked.named unit (by rw [harvesting]; rfl)
    rw [pollHarvest]
    split
    · exact booked.quiet nothing_unbooked booked.served (Nat.le_refl _) (Nat.le_refl _) fun _ same => by cases same; exact named
    · rename_i fails
      refine ⟨booked.served, ?_, (by intros; contradiction), fun other refused => ?_⟩
      · simpa [accepted, handed] using booked.slots
      · rcases List.mem_append.mp refused with now | before
        · obtain ⟨rfl, ready⟩ : other = unit ∧ self.transport.ready = true := by simpa using now
          have large : ¬other.Fits := by simpa [ready] using fails
          unfold EncodedUnit.Fits at large
          have some := List.length_pos_iff.mpr named
          simp only [not_not] at large
          unfold kMaxAu kPacketSlotBytes at large
          omega
        · exact booked.unrefused other before
  | pushing limit slot unit =>
    obtain ⟨rfl, some, stamp, before⟩ := pipelined.atHead _ _ harvesting
    have live := pipelined.live harvesting
    have counted := (pipelined.ring live).counted
    have slots := booked.slots
    obtain ⟨served, inFlight, full⟩ := booked.served.push unit
    -- The picture in hand is taken and not handed over, so its slot is there.
    have space : self.transport.transportInFlight < kQueueMax := by
      have few := before.length_le
      have taken : encodes ≤ (accepted history).length := by
        have copies := pipelined.order.2
        rcases pipelined.taken with same | same <;> rw [same, List.length_take] <;> omega
      rw [List.length_take] at few
      omega
    have pushed : (self.transport.push unit).2 = true := by
      by_contra refused
      exact absurd space (Nat.not_lt.mpr (full (Bool.eq_false_of_not_eq_true refused)))
    rw [pollHarvest]
    rw [pushed] at inFlight
    simp only [pushed]
    refine ⟨served, ?_, (by intros; contradiction), fun other refused => booked.unrefused other (by simpa using refused)⟩
    rw [inFlight]
    simp only [accepted, handed] at slots
    simp only [accepted, handed, ↓reduceIte, List.singleton_append, chronicle_cons, Option.toList_none, List.append_nil,
      Option.toList_some, List.length_append, List.length_singleton, Bool.toNat_true]
    omega
  | unlocking limit slot enqueued =>
    rw [pollHarvest]
    repeat' split
    all_goals first
      | exact fails _
      | exact booked.submits nothing_unbooked rfl (.inl rfl) (Nat.le_refl _)
  | unmapping limit slot unlocked enqueued =>
    rw [pollHarvest]
    dsimp only
    repeat' split
    all_goals first
      | exact booked.harvestReturned (by simp [disable, unbooked]) rfl rfl
      | exact booked.submits (by simp [unbooked]) rfl (.inl rfl) (Nat.le_refl _)
  | marking limit slot =>
    rw [pollHarvest]
    exact booked.submits (by simp [unbooked]) rfl (.inl rfl) (Nat.le_refl _)
  | advancing limit slot =>
    rw [pollHarvest]
    refine booked.submits nothing_unbooked rfl (.inl ?_) (Nat.le_refl _)
    cases self.mode <;> rfl
  | freeing limit slot =>
    rw [pollHarvest]
    exact booked.submits nothing_unbooked rfl (.inl rfl) (Nat.le_refl _)

theorem collect_kept (booked : Booked history self) (pipelined : Pipelined harvests encodes history self)
    {answer : Answer} (collectable : Collectable history self (.collector answer)) :
    Booked ((self.collect answer).2 ++ history) (self.collect answer).1 := by
  unfold collect
  cases phase : self.collector with
  | harvesting draining call => exact booked.pollHarvest_kept pipelined phase collectable
  | stopping => exact booked.quiet nothing_unbooked booked.served.stopped (Nat.le_refl _) (Nat.le_refl _) nofun
  | looping checks =>
    cases checks <;> dsimp only <;> repeat' split
    all_goals exact booked.submits nothing_unbooked rfl (.inl rfl) (Nat.le_refl _)
  | _ =>
    dsimp only
    repeat' split
    all_goals first
      | exact booked
      | exact booked.submits nothing_unbooked rfl (.inl rfl) (Nat.le_refl _)
      | exact booked.submits (releaseSlot_unbooked _) rfl (.inl rfl) (Nat.le_refl _)
      | exact booked.submits (by simp [disable, unbooked]) rfl (.inl rfl) (Nat.le_refl _)

theorem step_kept (booked : Booked history self) (pipelined : Pipelined harvests encodes history self)
    {input : DirectInput} (collectable : Collectable history self input) :
    Booked ((step self input).2 ++ history) (step self input).1 := by
  unfold step
  cases input with
  | submit present =>
    dsimp only
    split
    · exact booked.submits (by simp [unbooked]) rfl (.inr rfl) (Nat.zero_le _)
    · exact booked
  | submitter answer => exact booked.submitTurn_kept pipelined answer
  | collector answer => exact booked.collect_kept pipelined collectable
  | transport succeeds =>
    exact booked.quiet nothing_unbooked (booked.served.work succeeds) (booked.served.work_inFlight succeeds)
      (Nat.le_refl _) booked.named
  | stopTransport => exact booked.quiet nothing_unbooked booked.served.stopped (Nat.le_refl _) (Nat.le_refl _) booked.named
  | raise flag => cases flag <;> exact booked.submits nothing_unbooked rfl (.inr rfl) (Nat.le_refl _)
  | finish =>
    dsimp only
    split
    · unfold finishOnGlThread
      split
      · exact booked
      · dsimp only
        split
        · exact booked
        · exact booked.submits nothing_unbooked rfl (.inr rfl) (Nat.zero_le _)
        · exact booked.submits nothing_unbooked rfl (.inr rfl) (Nat.zero_le _)
    · exact booked

theorem initial (mode : Mode) (width height fps : UInt32) : Booked [] (Direct.initial mode width height fps) where
  served := Transport.Served.initial fps
  slots := by
    have none : (Transport.initial fps).transportInFlight = 0 := (Transport.Served.initial fps).pooled.inFlight
    change (Transport.initial fps).transportInFlight + 0 + 0 ≤ kQueueMax + 0
    omega
  named := by cases mode <;> exact nofun
  unrefused := nofun

end Booked

/-- What is handed over has been taken before. -/
theorem Pipelined.handed_taken (pipelined : Pipelined harvests encodes history self) :
    (handed history).Sublist (accepted history) := by
  have first : (handed history).Sublist ((copied history).take encodes) := by
    rcases pipelined.output with before | ⟨some, upto⟩
    · exact before.trans (List.take_sublist_take_left pipelined.order.1)
    · exact upto.trans (List.take_sublist_take_left some)
  rcases pipelined.taken with same | same
  · rwa [same]
  · rw [same]
    exact first.trans (List.take_sublist_take_left (Nat.le_succ _))

theorem length_outstanding (pipelined : Pipelined harvests encodes history self) :
    (outstanding history).length + (handed history).length ≤ (accepted history).length := by
  have split : (accepted history).length = _ + _ :=
    List.length_eq_length_filter_add fun picture => decide (picture ∉ handed history)
  have all : (handed history).filter (fun picture => !decide (picture ∉ handed history)) = handed history :=
    List.filter_eq_self.mpr fun picture member => by simpa using member
  have some := (pipelined.handed_taken.filter fun picture => !decide (picture ∉ handed history)).length_le
  rw [all] at some
  unfold outstanding
  omega

/-- As long as only pictures that have not been handed over are collected, and none is
empty, everything that is with the encoder fits into the transport. -/
theorem submissions_admitted {mode : Mode} {width height fps : UInt32} {history : List DirectEvent} {direct : Direct}
    (run : Run step Collectable (· = Direct.initial mode width height fps) history direct) : Admitted history direct := by
  suffices both : (∃ harvests encodes, Pipelined harvests encodes history direct) ∧ Booked history direct by
    obtain ⟨⟨harvests, encodes, pipelined⟩, booked⟩ := both
    have slots := booked.slots
    have rest := length_outstanding pipelined
    exact ⟨by omega, booked.unrefused⟩
  induction run with
  | start begun =>
    subst begun
    exact ⟨⟨0, 0, Pipelined.initial mode width height fps⟩, .initial mode width height fps⟩
  | step input before collectable ih =>
    have closes := (Pipelined.of_run (before.mono fun _ _ _ collectable => collectable.1)).2
    obtain ⟨⟨harvests, encodes, pipelined⟩, booked⟩ := ih
    exact ⟨pipelined.step_kept closes collectable.1, booked.step_kept pipelined collectable⟩

/-- Frames are presented every 20 ms, each with the turns that its submission needs. -/
def presenting (first count : Nat) : List DirectInput :=
  (List.range' first count).flatMap fun n =>
    .submit ⟨1920, 1080, UInt64.ofNat (20000000 * (n + 1))⟩ :: List.replicate 21 (.submitter {})

/-- Turns of the collector in which every bitstream is there. -/
def collecting (count : Nat) : List DirectInput := List.replicate count (.collector { lock := .success [7] true })

theorem submissions_admitted_four_frames :
    Admitted (execute step (initial .harvestWorker 1920 1080 60) (.transport true :: presenting 0 5 ++ collecting 38)).2
      (execute step (initial .harvestWorker 1920 1080 60) (.transport true :: presenting 0 5 ++ collecting 38)).1 := by
  have run := Run.execute (.transport true :: presenting 0 5 ++ collecting 38)
    (.start rfl : Run step Collectable (· = initial .harvestWorker 1920 1080 60) [] _) (by decide +kernel)
  rw [List.append_nil] at run
  exact submissions_admitted run

/-- Four pictures wait in the transport and twelve are with the encoder. The unlock of the
next one fails, so that the final drain collects it again. -/
def doubled : List DirectInput :=
  .transport true :: presenting 0 5 ++ collecting 38 ++ presenting 5 12 ++ collecting 10 ++
    [.collector { succeeds := false }] ++ collecting 94

/-- The last picture is refused by a ready transport. -/
theorem doubled_collection_overflows : ¬∀ mode width height fps history direct,
    Run step unrestricted (· = Direct.initial mode width height fps) history direct → Admitted history direct := by
  intro admits
  have run := Run.execute doubled
    (.start rfl : Run step unrestricted (· = initial .harvestWorker 1920 1080 60) [] _) (permits_unrestricted _ _ _ _)
  rw [List.append_nil] at run
  have refused : .refused ⟨[7], 320000000, true⟩ true ∈ (execute step (initial .harvestWorker 1920 1080 60) doubled).2 := by
    decide +kernel
  exact absurd ((admits _ _ _ _ _ _ run).unrefused _ refused) (by decide)

end Direct

end Luma.Encoder
