import Luma.Encoder.Direct

/-! The pictures in the ring of slots, numbered by their copies.

The slots take turns, so that the picture `n` is in the slot `n` modulo their number. Copies,
encodings and harvests go on in this order, each behind the one before it.
-/

set_option autoImplicit false

namespace Luma.Encoder

/-- The bitstream that the collector is about to lock. -/
def Collector.locks : Collector → Option (Fin kSlots)
  | .harvesting _ (.locking _ slot) => some slot
  | _ => none

def LockResult.bytes : LockResult → Option (List UInt8)
  | .success bytes _ => some bytes
  | _ => none

end Luma.Encoder

namespace Luma.Encoder.Direct

open Luma.Library Luma.Library.Transition

def slotOf (n : Nat) : Fin kSlots := ⟨n % kSlots, Nat.mod_lt n (by decide)⟩

theorem slotOf_succ (n : Nat) : slotOf n + 1 = slotOf (n + 1) := by
  apply Fin.ext
  simp [slotOf, Fin.val_add]

theorem slotOf_inj {first second : Nat} (order : first ≤ second) (near : second < first + kSlots)
    (same : slotOf first = slotOf second) : first = second := by
  have remainders : first % 12 = second % 12 := congrArg Fin.val same
  change second < first + 12 at near
  omega

/-! ## What has been seen -/

def copied (history : List DirectEvent) : List (Nat × UInt64) :=
  chronicle (fun | .copied _ frame ptsNs => some (frame, ptsNs) | _ => none) history

def attempted (history : List DirectEvent) : List (Nat × UInt64) :=
  chronicle (fun | .encoded _ frame ptsNs _ _ => some (frame, ptsNs) | _ => none) history

/-- The pictures that the encoder has taken. -/
def accepted (history : List DirectEvent) : List (Nat × UInt64) :=
  chronicle
    (fun | .encoded _ frame ptsNs _ result => if result = .failed then none else some (frame, ptsNs) | _ => none) history

def handed (history : List DirectEvent) : List (Nat × UInt64) :=
  chronicle (fun | .handed frame ptsNs => some (frame, ptsNs) | _ => none) history

/-- A locked bitstream is of a picture that has not been handed over. -/
def Fresh : Condition Direct DirectInput DirectEvent := fun history self input =>
  match input with
  | .collector answer =>
      ∀ slot ∈ self.collector.locks, ∀ bytes ∈ answer.lock.bytes, (self.slots slot).bitstream ∉ handed history
  | _ => True

instance : ∀ history self input, Decidable (Fresh history self input)
  | history, self, .collector answer =>
      inferInstanceAs (Decidable (∀ slot ∈ self.collector.locks, ∀ bytes ∈ answer.lock.bytes,
        (self.slots slot).bitstream ∉ handed history))
  | _, _, .submit _ | _, _, .submitter _ | _, _, .transport _ | _, _, .stopTransport | _, _, .raise _ | _, _, .finish =>
      .isTrue trivial

end Luma.Encoder.Direct

namespace Luma.Encoder

/-! ## What holds between two turns -/

/-- The submitting thread does not submit again, given whether the encoder is disabled. -/
def Submitter.Rests (disabled : Bool) : Submitter → Prop
  | .finishing _ | .finishPolling _ | .joiningOutput | .stoppingTransport => True
  | .joiningTransport | .releasing _ | .idle | .rechecking _ _ => disabled = true
  | .gating _ checks => disabled = true ∧ .disabled ∈ checks
  | _ => False

def Submitter.isMarking : Submitter → Bool
  | .marking _ _ => true
  | _ => false

/-- A frame of `submit_framebuffer` is copied and not yet submitted. -/
def Submitter.holds : Submitter → Bool
  | .mapping _ | .encoding _ | .marking _ _ => true
  | _ => false

/-- The transport has admitted a submission. -/
def Submitter.admitted : Submitter → Bool
  | .probing _ | .blitting _ | .mapping _ | .encoding _ | .marking _ _ => true
  | _ => false

/-- The slot of the next copy is free, or about to be. -/
def Submitter.claims : Submitter → Bool
  | .claiming _ _ | .reclaiming _ _ | .unmapping _ _ | .freeing _ _ | .copying _ _ => true
  | _ => false

/-- The phase relies on nothing. -/
def Submitter.plain : Submitter → Bool
  | .idle | .gating _ _ | .readying _ | .rechecking _ _ | .polling _ | .waiting _ _ | .counting _ | .finishing _
  | .finishPolling _ | .joiningOutput | .stoppingTransport | .joiningTransport | .releasing _ => true
  | _ => false

/-- The thread has called `poll`, or has joined the collector. -/
def Submitter.joined : Submitter → Bool
  | .polling _ | .finishPolling _ | .stoppingTransport | .joiningTransport | .releasing _ => true
  | _ => false

/-- The phase is one of the mode's own calls. -/
def Submitter.suits (mode : Mode) : Submitter → Bool
  | .readying _ | .probing _ | .rechecking _ _ | .claiming _ _ | .reclaiming _ _ | .unmapping _ _ | .freeing _ _
  | .copying _ _ => mode = .harvestWorker
  | .waiting _ _ | .testing _ _ | .joiningOutput => mode = .outputWorker
  | .polling _ | .counting _ | .finishing _ | .finishPolling _ => mode = .synchronous
  | .blitting _ | .stoppingTransport | .joiningTransport | .releasing _ => mode ≠ .harvestWorker
  | _ => true

end Luma.Encoder

namespace Luma.Encoder.Direct

open Luma.Library Luma.Library.Transition

/-- The slots differ in nothing but whether they are mapped, busy, harvested or fenced. -/
def Alike (first second : Fin kSlots → Slot) : Prop :=
  ∀ index, (first index).copyPending = (second index).copyPending ∧ (first index).texture = (second index).texture ∧
    (first index).copyPtsNs = (second index).copyPtsNs ∧ (first index).bitstream = (second index).bitstream

/-- The copies of the asynchronous path that wait for their encoding. -/
structure Pending (first : Nat) (copies : List (Nat × UInt64)) (slots : Fin kSlots → Slot) (copyNext : Fin kSlots) :
    Prop where
  next : copyNext = slotOf copies.length
  ordered : first ≤ copies.length
  bounded : copies.length ≤ first + kSlots
  waiting : ∀ n, first ≤ n → n < copies.length → (slots (slotOf n)).copyPending = true ∧
    (slots (slotOf n)).texture = n ∧ copies[n]? = some (n, (slots (slotOf n)).copyPtsNs)
  only : ∀ index, (slots index).copyPending = true → ∃ n, first ≤ n ∧ n < copies.length ∧ slotOf n = index

/-- What the submitting thread relies on in a phase while it may still submit. `encodes`
pictures have been submitted. -/
structure Filled (encodes : Nat) (history : List DirectEvent) (direct : Direct) (submitter : Submitter) : Prop where
  accepted : accepted history = (copied history).take (encodes + submitter.isMarking.toNat)
  attempted : attempted history = (copied history).take (encodes + submitter.isMarking.toNat)
  pending : direct.mode = .harvestWorker →
    Pending (encodes + submitter.isMarking.toNat) (copied history) direct.slots direct.copyNext
  single : direct.mode ≠ .harvestWorker → (copied history).length = encodes + submitter.holds.toNat
  offered : direct.mode = .harvestWorker → ∀ present inFlight,
    submitter = .admitting present inFlight ∨ submitter = .probing present → encodes < (copied history).length
  stamped : ∀ present, submitter = .mapping present ∨ submitter = .encoding present →
    (direct.slots (slotOf encodes)).texture = encodes ∧
      (copied history)[encodes]? = some (encodes, direct.inputTimeStamp present)
  encoding : submitter.isMarking = true → (copied history)[encodes]? = some (direct.slots (slotOf encodes)).bitstream
  room : submitter.admitted = true → direct.initialized = true → direct.submitted.count < kSlots
  read : ∀ present inFlight, submitter = .admitting present inFlight ∨ submitter = .testing present inFlight →
    (direct.initialized = true → direct.submitted.count ≤ inFlight) ∧ (direct.mode ≠ .synchronous → inFlight < kSlots)
  free : submitter.claims = true → (copied history).length < encodes + kSlots

/-- The ring holds the pictures from `harvests` on. -/
structure Ring (harvests encodes : Nat) (copies : List (Nat × UInt64)) (slots : Fin kSlots → Slot)
    (submitted : RingQueue kSlots (Fin kSlots)) : Prop where
  contents : submitted.contents = (List.range' harvests submitted.count).map slotOf
  counted : harvests + submitted.count = encodes
  bounded : submitted.count ≤ kSlots
  pictures : ∀ n, harvests ≤ n → n < encodes → copies[n]? = some (slots (slotOf n)).bitstream

/-- At least `count` pictures are handed over. Only a failed `poll` leaves one out, and
nothing is submitted after it. -/
def Whole (count : Nat) (history : List DirectEvent) (self : Direct) : Prop :=
  (self.mode = .synchronous ∧ self.submitter.Rests self.disabled) ∨ count ≤ (handed history).length

/-- What the harvest relies on at the slot that it has in hand. -/
def AtHead (harvests : Nat) (history : List DirectEvent) (self : Direct) : Harvest → Prop
  | .testing _ | .freeing _ _ => True
  | .verifying _ slot | .locking _ slot => slot = slotOf harvests ∧ 0 < self.submitted.count
  | .entering _ slot unit | .pushing _ slot unit =>
      slot = slotOf harvests ∧ 0 < self.submitted.count ∧ unit.pts = (self.slots slot).bitstream.2 ∧
        (handed history).Sublist ((copied history).take harvests)
  | .unlocking _ slot enqueued =>
      slot = slotOf harvests ∧ 0 < self.submitted.count ∧ (enqueued = true → Whole (harvests + 1) history self)
  | .unmapping _ slot _ enqueued =>
      slot = slotOf harvests ∧ 0 < self.submitted.count ∧
        (enqueued = true ∨ self.mode ≠ .synchronous → Whole (harvests + 1) history self)
  | .marking _ slot | .advancing _ slot =>
      slot = slotOf harvests ∧ 0 < self.submitted.count ∧ Whole (harvests + 1) history self

/-- Which threads there are, and which of them has ended. -/
def Threads (self : Direct) : Prop :=
  match self.mode with
  | .synchronous =>
      match self.submitter with
      | .polling _ | .finishPolling _ => ∃ call, self.collector = .harvesting false call
      | _ => self.collector = .absent
  | .outputWorker =>
      match self.submitter with
      | .stoppingTransport | .joiningTransport | .releasing _ => self.collector = .ended
      | _ =>
          match self.collector with
          | .starting | .looping _ | .deciding | .harvesting _ _ | .ended => True
          | _ => False
  | .harvestWorker => self.collector ≠ .absent ∧ self.collector ≠ .starting

/-- The encoder is gone: the tables are reset, and nobody looks at the ring any more. -/
def Released (self : Direct) : Prop :=
  self.initialized = false ∧ Worker.gone self.transport.worker = true ∧
    match self.mode with
    | .harvestWorker => self.collector = .closing ∨ self.collector = .ended
    | _ => (self.mode = .outputWorker → self.collector = .ended) ∧ self.cleanupStarted = true ∧
        self.submitter.Rests self.disabled ∧ (self.submitter = .idle ∨ ∃ present checks, self.submitter = .gating present checks)

/-- The teardown has begun, after the join of the transport. -/
def TearsDown (self : Direct) : Prop :=
  (∃ index, self.submitter = .releasing index) ∨ (∃ index, self.collector = .releasing index)

structure Pipelined (harvests encodes : Nat) (history : List DirectEvent) (direct : Direct) : Prop where
  numbered : (copied history).map Prod.fst = List.range direct.copies
  place : direct.encodeSlot = slotOf encodes
  suits : direct.submitter.suits direct.mode = true
  threads : Threads direct
  alive : direct.initialized = true ∨ Released direct
  torn : TearsDown direct → Worker.gone direct.transport.worker = true
  order : harvests ≤ encodes ∧ encodes ≤ (copied history).length
  ring : direct.initialized = true → Ring harvests encodes (copied history) direct.slots direct.submitted
  atHead : ∀ draining call, direct.collector = .harvesting draining call → AtHead harvests history direct call
  taken : accepted history = (copied history).take encodes ∨ accepted history = (copied history).take (encodes + 1)
  tried : attempted history = (copied history).take encodes ∨ attempted history = (copied history).take (encodes + 1)
  output : (handed history).Sublist ((copied history).take harvests) ∨
    (harvests < encodes ∧ (handed history).Sublist ((copied history).take (harvests + 1)))
  whole : Whole harvests history direct
  settled : direct.submitter.Rests direct.disabled ∨ Filled encodes history direct direct.submitter

/-! ## Chronicles -/

/-- The event is of no copy, encoding or handing over. -/
def quiet : DirectEvent → Bool
  | .copied _ _ _ | .encoded _ _ _ _ _ | .handed _ _ => false
  | _ => true

section

variable {history seen : List DirectEvent} (still : ∀ event ∈ seen, quiet event = true)
include still

theorem chronicle_quiet {α : Type} {pick : DirectEvent → Option α} (blind : ∀ event, quiet event = true → pick event = none) :
    chronicle pick (seen ++ history) = chronicle pick history := by
  have nothing : seen.filterMap pick = [] :=
    List.filterMap_eq_nil_iff.mpr fun event member => blind event (still event member)
  simp [chronicle, nothing]

theorem copied_quiet : copied (seen ++ history) = copied history :=
  chronicle_quiet still fun event calm => by cases event <;> first | rfl | cases calm

theorem attempted_quiet : attempted (seen ++ history) = attempted history :=
  chronicle_quiet still fun event calm => by cases event <;> first | rfl | cases calm

theorem accepted_quiet : accepted (seen ++ history) = accepted history :=
  chronicle_quiet still fun event calm => by cases event <;> first | rfl | cases calm

theorem handed_quiet : handed (seen ++ history) = handed history :=
  chronicle_quiet still fun event calm => by cases event <;> first | rfl | cases calm

end

variable {harvests encodes : Nat} {history : List DirectEvent} {self : Direct}

namespace Filled

variable {submitter : Submitter}

theorem plainly (filled : Filled encodes history self submitter) (unmarked : submitter.isMarking = false)
    (empty : submitter.holds = false) {later : Submitter} (plain : later.plain = true) :
    Filled encodes history self later := by
  obtain ⟨accepted, attempted, pending, single, -, -, -, -, -, -⟩ := filled
  rw [unmarked] at accepted attempted pending
  rw [empty] at single
  constructor
  case accepted | attempted | pending | single => cases later <;> first | assumption | cases plain
  all_goals cases later <;> simp_all [Submitter.plain, Submitter.isMarking, Submitter.admitted, Submitter.claims]

/-- Between two phases without a copy in hand. -/
theorem advance (filled : Filled encodes history self submitter) (unmarked : submitter.isMarking = false)
    (empty : submitter.holds = false) {later : Submitter} (laterEmpty : later.holds = false)
    (offered : self.mode = .harvestWorker → ∀ present inFlight,
      later = .admitting present inFlight ∨ later = .probing present → encodes < (copied history).length)
    (room : later.admitted = true → self.initialized = true → self.submitted.count < kSlots)
    (read : ∀ present inFlight, later = .admitting present inFlight ∨ later = .testing present inFlight →
      (self.initialized = true → self.submitted.count ≤ inFlight) ∧ (self.mode ≠ .synchronous → inFlight < kSlots))
    (free : later.claims = true → (copied history).length < encodes + kSlots) :
    Filled encodes history self later := by
  obtain ⟨accepted, attempted, pending, single, -, -, -, -, -, -⟩ := filled
  have laterUnmarked : later.isMarking = false := by cases later <;> first | rfl | cases laterEmpty
  rw [unmarked] at accepted attempted pending
  rw [empty] at single
  constructor
  case accepted | attempted | pending => rw [laterUnmarked]; assumption
  case single => rw [laterEmpty]; assumption
  case stamped => rintro present (rfl | rfl) <;> cases laterEmpty
  case encoding => rw [laterUnmarked]; exact nofun
  all_goals assumption

end Filled

/-! ## Turns that move a thread only -/

theorem Alike.refl (slots : Fin kSlots → Slot) : Alike slots slots := fun _ => ⟨rfl, rfl, rfl, rfl⟩

theorem Pending.same {first : Nat} {copies : List (Nat × UInt64)} {slots later : Fin kSlots → Slot} {copyNext : Fin kSlots}
    (pending : Pending first copies slots copyNext) (alike : Alike later slots) : Pending first copies later copyNext := by
  obtain ⟨next, ordered, bounded, waiting, only⟩ := pending
  refine ⟨next, ordered, bounded, fun n after before => ?_, fun index pends => ?_⟩
  · obtain ⟨pends, texture, copyPts, -⟩ := alike (slotOf n)
    rw [pends, texture, copyPts]
    exact waiting n after before
  · rw [(alike index).1] at pends
    exact only index pends

/-- The first of the copies is encoded, and is no longer pending. -/
theorem Pending.encoded {first : Nat} {copies : List (Nat × UInt64)} {slots : Fin kSlots → Slot} {copyNext : Fin kSlots}
    (pending : Pending first copies slots copyNext) (some : first < copies.length) {slot : Slot}
    (done : slot.copyPending = false) :
    Pending (first + 1) copies (Function.update slots (slotOf first) slot) copyNext := by
  obtain ⟨next, ordered, bounded, waiting, only⟩ := pending
  refine ⟨next, some, by omega, fun n after before => ?_, fun index pends => ?_⟩
  · have apart : slotOf n ≠ slotOf first := by
      intro same
      have equal := slotOf_inj (by omega) (by omega) same.symm
      omega
    rw [Function.update_of_ne apart]
    exact waiting n (by omega) before
  · by_cases here : index = slotOf first
    · rw [here, Function.update_self, done] at pends
      cases pends
    · rw [Function.update_of_ne here] at pends
      obtain ⟨n, after, before, same⟩ := only index pends
      refine ⟨n, Nat.lt_of_le_of_ne after ?_, before, same⟩
      rintro rfl
      exact here same.symm

/-- Another copy is made, in a free slot. -/
theorem Pending.copied {first : Nat} {copies : List (Nat × UInt64)} {slots : Fin kSlots → Slot} {copyNext : Fin kSlots}
    (pending : Pending first copies slots copyNext) (free : copies.length < first + kSlots) {slot : Slot} {ptsNs : UInt64}
    (pends : slot.copyPending = true) (texture : slot.texture = copies.length) (stamp : slot.copyPtsNs = ptsNs) :
    Pending first (copies ++ [(copies.length, ptsNs)]) (Function.update slots copyNext slot) (copyNext + 1) := by
  obtain ⟨rfl, ordered, bounded, waiting, only⟩ := pending
  have length : (copies ++ [(copies.length, ptsNs)]).length = copies.length + 1 := by simp
  constructor
  case next => rw [length, slotOf_succ]
  case ordered => omega
  case bounded => omega
  case waiting =>
    intro n after before
    by_cases last : n = copies.length
    · subst last
      simp [pends, texture, stamp]
    · have apart : slotOf n ≠ slotOf copies.length := fun same => last (slotOf_inj (by omega) (by omega) same)
      rw [Function.update_of_ne apart, List.getElem?_append_left (by omega)]
      exact waiting n after (by omega)
  case only =>
    intro index waits
    by_cases here : index = slotOf copies.length
    · exact ⟨copies.length, ordered, by omega, here.symm⟩
    · rw [Function.update_of_ne here] at waits
      obtain ⟨n, after, before, same⟩ := only index waits
      exact ⟨n, after, by omega, same⟩

theorem Ring.same {copies : List (Nat × UInt64)} {slots later : Fin kSlots → Slot} {submitted : RingQueue kSlots (Fin kSlots)}
    (ring : Ring harvests encodes copies slots submitted) (alike : Alike later slots) :
    Ring harvests encodes copies later submitted := by
  obtain ⟨contents, counted, bounded, pictures⟩ := ring
  refine ⟨contents, counted, bounded, fun n after before => ?_⟩
  rw [(alike (slotOf n)).2.2.2]
  exact pictures n after before

theorem AtHead.same {call : Harvest} (atHead : AtHead harvests history self call) {after : Direct}
    {later : List DirectEvent} (sameCopies : copied later = copied history) (sameHanded : handed later = handed history)
    (mode : after.mode = self.mode) (count : after.submitted.count = self.submitted.count)
    (slots : 0 < self.submitted.count →
      (after.slots (slotOf harvests)).bitstream = (self.slots (slotOf harvests)).bitstream)
    (whole : ∀ n, Whole n history self → Whole n later after) : AtHead harvests later after call := by
  unfold AtHead at *
  rw [count, mode]
  cases call with
  | testing | freeing => trivial
  | verifying | locking => exact atHead
  | entering limit slot unit | pushing limit slot unit =>
    obtain ⟨rfl, some, rest⟩ := atHead
    simp only [slots some, sameHanded, sameCopies]
    exact ⟨trivial, some, rest⟩
  | unlocking | unmapping => exact ⟨atHead.1, atHead.2.1, fun enqueued => whole _ (atHead.2.2 enqueued)⟩
  | marking | advancing => exact ⟨atHead.1, atHead.2.1, whole _ atHead.2.2⟩

theorem Filled.same {submitter : Submitter} (filled : Filled encodes history self submitter) {after : Direct}
    {later : List DirectEvent} (sameCopies : Direct.copied later = Direct.copied history)
    (sameAccepted : Direct.accepted later = Direct.accepted history)
    (sameAttempted : Direct.attempted later = Direct.attempted history) (mode : after.mode = self.mode)
    (alike : Alike after.slots self.slots) (copyNext : after.copyNext = self.copyNext)
    (encodeNext : after.encodeNext = self.encodeNext)
    (ring : after.initialized = true → self.initialized = true ∧ after.submitted.count ≤ self.submitted.count) :
    Filled encodes later after submitter := by
  obtain ⟨accepted, attempted, pending, single, offered, stamped, encoding, room, read, free⟩ := filled
  have stamp : ∀ present, after.inputTimeStamp present = self.inputTimeStamp present := by
    intro present
    rw [inputTimeStamp, inputTimeStamp, mode, encodeNext, (alike self.encodeNext).2.2.1]
  constructor
  case pending =>
    rw [sameCopies, mode, copyNext]
    exact fun asynchronous => (pending asynchronous).same alike
  case room =>
    intro admitted live
    exact Nat.lt_of_le_of_lt (ring live).2 (room admitted (ring live).1)
  case read =>
    intro present inFlight reads
    rw [mode]
    exact ⟨fun live => Nat.le_trans (ring live).2 ((read present inFlight reads).1 (ring live).1),
      (read present inFlight reads).2⟩
  all_goals
    simp only [sameCopies, sameAccepted, sameAttempted, mode, stamp, (alike _).2.1, (alike _).2.2.2]
  all_goals assumption

theorem Threads.moved (threads : Threads self) {after : Direct} (mode : after.mode = self.mode)
    (collector : after.collector = self.collector) (apart : self.submitter.joined = false)
    (laterApart : after.submitter.joined = false) : Threads after := by
  unfold Threads at *
  rw [mode, collector]
  cases which : self.mode <;> simp only [which] at threads ⊢
  · cases phase : self.submitter <;> simp only [phase, Submitter.joined] at threads apart <;>
      cases later : after.submitter <;> simp only [later, Submitter.joined] at laterApart ⊢ <;>
        first | exact threads | contradiction
  · cases phase : self.submitter <;> simp only [phase, Submitter.joined] at threads apart <;>
      cases later : after.submitter <;> simp only [later, Submitter.joined] at laterApart ⊢ <;>
        first | exact threads | contradiction
  · exact threads

theorem Whole.same {n : Nat} (whole : Whole n history self) {after : Direct} {seen : List DirectEvent}
    (still : ∀ event ∈ seen, quiet event = true) (mode : after.mode = self.mode)
    (rests : self.submitter.Rests self.disabled → after.submitter.Rests after.disabled) :
    Whole n (seen ++ history) after := by
  unfold Whole at *
  rw [handed_quiet still, mode]
  exact whole.imp (fun skipped => ⟨skipped.1, rests skipped.2⟩) id

namespace Pipelined

/-- The submitting thread goes on. -/
theorem goes (pipelined : Pipelined harvests encodes history self) {later : Submitter} {pacing : Pacing} {disabled : Bool}
    {slots : Fin kSlots → Slot} {seen : List DirectEvent} (still : ∀ event ∈ seen, quiet event = true)
    (alike : Alike slots self.slots) (suits : later.suits self.mode = true)
    (threads : Threads { self with submitter := later, pacing, disabled, slots })
    (alive : self.initialized = true ∨ Released { self with submitter := later, pacing, disabled, slots })
    (torn : TearsDown { self with submitter := later, pacing, disabled, slots } →
      Worker.gone self.transport.worker = true)
    (rests : self.submitter.Rests self.disabled → later.Rests disabled)
    (fills : Filled encodes history self self.submitter → later.Rests disabled ∨ Filled encodes history self later) :
    Pipelined harvests encodes (seen ++ history) { self with submitter := later, pacing, disabled, slots } := by
  have whole : ∀ n, Whole n history self → Whole n (seen ++ history) { self with submitter := later, pacing, disabled, slots } :=
    fun n whole => whole.same still rfl rests
  constructor
  case numbered => rw [copied_quiet still]; exact pipelined.numbered
  case place => exact pipelined.place
  case suits => exact suits
  case threads => exact threads
  case alive => exact alive
  case torn => exact torn
  case order => rw [copied_quiet still]; exact pipelined.order
  case ring => rw [copied_quiet still]; exact fun live => (pipelined.ring live).same alike
  case atHead =>
    intro draining call harvesting
    exact (pipelined.atHead draining call harvesting).same (copied_quiet still) (handed_quiet still) rfl rfl
      (fun _ => (alike _).2.2.2) whole
  case taken => rw [copied_quiet still, accepted_quiet still]; exact pipelined.taken
  case tried => rw [copied_quiet still, attempted_quiet still]; exact pipelined.tried
  case output => rw [copied_quiet still, handed_quiet still]; exact pipelined.output
  case whole => exact whole _ pipelined.whole
  case settled =>
    refine pipelined.settled.elim (fun resting => .inl (rests resting)) fun filled => (fills filled).imp id fun filled => ?_
    exact filled.same (copied_quiet still) (accepted_quiet still) (attempted_quiet still) rfl alike rfl rfl
      fun live => ⟨live, Nat.le_refl _⟩

/-- The same, when it has neither called `poll` nor joined a thread. -/
theorem moves (pipelined : Pipelined harvests encodes history self) {later : Submitter} {pacing : Pacing} {disabled : Bool}
    {slots : Fin kSlots → Slot} {seen : List DirectEvent} (still : ∀ event ∈ seen, quiet event = true)
    (alike : Alike slots self.slots) (apart : self.submitter.joined = false) (laterApart : later.joined = false)
    (suits : later.suits self.mode = true)
    (rests : self.submitter.Rests self.disabled →
      later.Rests disabled ∧ (self.mode ≠ .harvestWorker → later = .idle ∨ ∃ present checks, later = .gating present checks))
    (fills : Filled encodes history self self.submitter → later.Rests disabled ∨ Filled encodes history self later) :
    Pipelined harvests encodes (seen ++ history) { self with submitter := later, pacing, disabled, slots } := by
  refine pipelined.goes still alike suits (pipelined.threads.moved rfl rfl apart laterApart) ?_ ?_
    (fun resting => (rests resting).1) fills
  · refine pipelined.alive.imp id fun released => ?_
    unfold Released at *
    obtain ⟨gone, worker, released⟩ := released
    refine ⟨gone, worker, ?_⟩
    cases mode : self.mode <;> simp only [mode] at released ⊢
    · exact ⟨released.1, released.2.1, (rests released.2.2.1).1, (rests released.2.2.1).2 (by rw [mode]; decide)⟩
    · exact ⟨released.1, released.2.1, (rests released.2.2.1).1, (rests released.2.2.1).2 (by rw [mode]; decide)⟩
    · exact released
  · rintro (⟨index, releasing⟩ | releasing)
    · change later = .releasing index at releasing
      rw [releasing] at laterApart
      cases laterApart
    · exact pipelined.torn (.inr releasing)

/-- From a phase that still submits and has nothing in hand to one that relies on nothing. -/
theorem toPlain (pipelined : Pipelined harvests encodes history self) {submitter later : Submitter} {pacing : Pacing}
    {seen : List DirectEvent} (still : ∀ event ∈ seen, quiet event = true) (phase : self.submitter = submitter)
    (wakes : ¬submitter.Rests self.disabled) (unmarked : submitter.isMarking = false) (empty : submitter.holds = false)
    (apart : submitter.joined = false) (plain : later.plain = true) (laterApart : later.joined = false)
    (suits : later.suits self.mode = true) :
    Pipelined harvests encodes (seen ++ history) { self with submitter := later, pacing } := by
  refine pipelined.moves still (Alike.refl _) (phase ▸ apart) laterApart suits (fun resting => ?_) fun filled => ?_
  · exact absurd (phase ▸ resting) wakes
  · exact .inr (filled.plainly (phase ▸ unmarked) (phase ▸ empty) plain)

theorem one_quiet {event : DirectEvent} (calm : quiet event = true) : ∀ other ∈ [event], quiet other = true := by
  intro other member
  rw [List.mem_singleton.mp member]
  exact calm

theorem presented_quiet (ptsNs : UInt64) : ∀ event ∈ [DirectEvent.presented ptsNs], quiet event = true := one_quiet rfl

theorem returned_quiet (value : Bool) : ∀ event ∈ [DirectEvent.returned value], quiet event = true := one_quiet rfl

theorem disabled_quiet (value : Bool) (stage : String) :
    ∀ event ∈ [DirectEvent.returned value, .disabled stage], quiet event = true := by
  simp [quiet]

theorem nothing_quiet : ∀ event ∈ ([] : List DirectEvent), quiet event = true := nofun

/-- The submitting thread calls `poll`, and waits for it. -/
theorem calls (pipelined : Pipelined harvests encodes history self) {later : Submitter} {pacing : Pacing}
    (mode : self.mode = .synchronous) (live : ¬Released self)
    (polls : (∃ present, later = .polling present) ∨ ∃ tries, later = .finishPolling tries)
    (rests : self.submitter.Rests self.disabled → later.Rests self.disabled)
    (unmarked : self.submitter.isMarking = false) (empty : self.submitter.holds = false) :
    Pipelined harvests encodes history
      { self with pacing, submitter := later, collector := .harvesting false (.testing none) } := by
  have plain : later.plain = true := by rcases polls with ⟨_, rfl⟩ | ⟨_, rfl⟩ <;> rfl
  constructor
  case numbered | place | order | ring | taken | tried | output =>
    first
    | exact pipelined.numbered
    | exact pipelined.place
    | exact pipelined.order
    | exact pipelined.ring
    | exact pipelined.taken
    | exact pipelined.tried
    | exact pipelined.output
  case suits =>
    change later.suits self.mode = true
    rw [mode]
    rcases polls with ⟨_, rfl⟩ | ⟨_, rfl⟩ <;> rfl
  case threads =>
    unfold Threads
    simp only [mode]
    rcases polls with ⟨_, rfl⟩ | ⟨_, rfl⟩ <;> exact ⟨_, rfl⟩
  case alive => exact .inl (pipelined.alive.resolve_right live)
  case torn =>
    rintro (⟨index, releasing⟩ | ⟨index, releasing⟩)
    · rcases polls with ⟨_, rfl⟩ | ⟨_, rfl⟩ <;> cases releasing
    · cases releasing
  case atHead =>
    intro draining call harvesting
    cases harvesting
    trivial
  case whole => exact pipelined.whole.same nothing_quiet rfl rests
  case settled =>
    refine pipelined.settled.imp rests fun filled => ?_
    exact (filled.plainly unmarked empty plain).same rfl rfl rfl rfl (Alike.refl _) rfl rfl
      fun live => ⟨live, Nat.le_refl _⟩

end Pipelined

end Luma.Encoder.Direct
