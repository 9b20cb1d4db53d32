import Luma.Export.VulkanLayer

/-! Which acknowledgements free which slots. The layer takes an acknowledgement for the
export of every swapchain that has the same slot and generation; while no two agree
in both, each acknowledgement frees its own export, and no image is overwritten that
the receiver still reads.
-/

set_option autoImplicit false

namespace Luma.Export.Vulkan

open Luma.Library

/-- No other swapchain has the slot that the acknowledgement names busy at its generation. -/
def Layer.unmistaken (layer : Layer) (ack : Export) : Bool :=
  (List.finRange maxSwapchains).all fun place =>
    (layer.swaps place).all fun entry => !Layer.hits entry ack || entry.identity == ack.identity

/-- The same along the acknowledgements as they are read. -/
def Layer.allUnmistaken (layer : Layer) : List Export → Bool
  | [] => true
  | ack :: acks => layer.unmistaken ack && allUnmistaken (layer.readAck ack).1 acks

/-- The condition on a present. -/
def Unmistaken : Transition.Condition World Input Event := fun _ world input =>
  match input with
  | .present _ _ _ => world.layer.allUnmistaken world.acks = true
  | _ => True

instance : ∀ history world input, Decidable (Unmistaken history world input)
  | _, world, .present _ _ _ => inferInstanceAs (Decidable (world.layer.allUnmistaken world.acks = true))
  | _, _, .createSwapchain _ _ _ | _, _, .destroySwapchain _ | _, _, .acknowledge _ _ => .isTrue trivial

/-- Only a slot's own acknowledgement frees it, and only images are overwritten that nobody reads. -/
def Owned (event : Event) (earlier : List Event) : Prop :=
  (∀ current acknowledged, event = .freed current acknowledged → current = acknowledged) ∧
    ∀ identity slot, event = .overwritten identity slot →
      ∀ read ∈ stillRead earlier [], ¬(read.identity = identity ∧ read.slot = slot)

/-! ## What one present can do -/

inductive Effect (acks : List Export) (before : Layer) : Layer → List Event → Prop where
  | read (ack : Export) : ack ∈ acks → before.unmistaken ack = true →
      Effect acks before (before.readAck ack).1 (before.readAck ack).2
  | emitted (place : Fin maxSwapchains) (entry : SwapchainEntry) (index : Fin ring) (slot : CaptureSlot) :
      before.swaps place = some entry → (entry.slots index).busy = true → (entry.slots index).sent = false →
      slot = { entry.slots index with fence := false, sent := true } →
      Effect acks before (before.setSlot place entry index slot)
        [.exported (entry.current index)]
  | filled (place : Fin maxSwapchains) (entry : SwapchainEntry) (index : Fin ring) (slot : CaptureSlot) (cursor : Nat) :
      before.swaps place = some entry → (entry.slots index).busy = false →
      slot.generation = (entry.slots index).generation + 1 → slot.busy = true → slot.sent = false →
      Effect acks before (before.setSlot place { entry with cursor } index slot) [.overwritten entry.identity index]

abbrev Effects (acks : List Export) : Layer → Layer → List Event → Prop := Transition.Trace (Effect acks)

namespace Layer

theorem drainAcks_effects {acks : List Export} (layer : Layer) (some_ : List Export) (known : ∀ ack ∈ some_, ack ∈ acks)
    (own : layer.allUnmistaken some_ = true) : Effects acks layer (layer.drainAcks some_).1 (layer.drainAcks some_).2 := by
  induction some_ generalizing layer with
  | nil => exact .none
  | cons ack rest ih =>
    simp only [allUnmistaken, Bool.and_eq_true] at own
    have first : Effects acks layer (layer.readAck ack).1 (layer.readAck ack).2 :=
      .one (.read ack (known ack List.mem_cons_self) own.1)
    exact first.append (ih _ (fun other member => known other (List.mem_cons_of_mem _ member)) own.2)

theorem emitSlot_effects {acks : List Export} {layer : Layer} {place : Fin maxSwapchains} {index : Fin ring}
    (leaves : Bool) (waits : layer.waiting place index = true) :
    Effects acks layer (layer.emitSlot place index leaves).1 (layer.emitSlot place index leaves).2 := by
  unfold waiting at waits
  unfold emitSlot
  cases found : layer.swaps place with
  | none => exact .none
  | some entry =>
    rw [found] at waits
    simp only [Option.any_some, Bool.and_eq_true, Bool.not_eq_true'] at waits
    simp only
    by_cases sends : ((entry.slots index).fence && leaves) = true
    · rw [if_pos sends]
      exact .one (.emitted place entry index _ found waits.1 waits.2 rfl)
    · rw [if_neg sends]
      exact .none

theorem emitWaiting_effects {acks : List Export} (layer : Layer) (host : PresentHost)
    (rest : List (Fin maxSwapchains × Fin ring)) :
    Effects acks layer (layer.emitWaiting host rest).1 (layer.emitWaiting host rest).2 := by
  induction rest generalizing layer with
  | nil => exact .none
  | cons next rest ih =>
    obtain ⟨place, index⟩ := next
    unfold emitWaiting
    by_cases waits : layer.waiting place index = true
    · simp only [waits, ↓reduceIte]
      exact (emitSlot_effects (host.sent place index) waits).append (ih _)
    · simp only [waits, Bool.false_eq_true, ↓reduceIte]
      exact Transition.Trace.none.append (ih _)

theorem fill_effects {acks : List Export} {layer : Layer} {place : Fin maxSwapchains} {entry : SwapchainEntry}
    {index : Fin ring} (host : PresentHost) (found : layer.swaps place = some entry)
    (free : (entry.slots index).busy = false) :
    Effects acks layer (layer.fill place entry index host).1 (layer.fill place entry index host).2 := by
  have written : Effects acks layer _ _ :=
    .one (.filled place entry index {
        generation := (entry.slots index).generation + 1
        fence := (entry.slots index).fence || host.fenceExported, busy := true, sent := false }
      ((index.val + 1) % ring) found free rfl rfl rfl)
  unfold fill
  by_cases exported : host.fenceExported = true
  · simp only [exported, ↓reduceIte]
    rw [exported] at written
    refine written.append (emitSlot_effects (host.sent place index) ?_)
    simp [waiting, setSlot]
  · simp only [exported, Bool.false_eq_true, ↓reduceIte]
    rw [Bool.not_eq_true] at exported
    rw [exported] at written
    exact written

theorem capture_effects {acks : List Export} (layer : Layer) (handle image : Nat) (host : PresentHost) :
    Effects acks layer (layer.capture handle image host).1 (layer.capture handle image host).2 := by
  unfold capture
  cases found : (layer.findSwap handle).bind fun place => (layer.swaps place).map fun entry => (place, entry) with
  | none => exact .none
  | some pair =>
    obtain ⟨place, entry⟩ := pair
    obtain ⟨place, _, mapped⟩ := Option.bind_eq_some_iff.mp found
    obtain ⟨entry, held, same⟩ := Option.map_eq_some_iff.mp mapped
    cases same
    simp only
    by_cases unready : (!entry.exportReady || decide (entry.imageCount ≤ image)) = true
    · rw [if_pos unready]
      exact .none
    · rw [if_neg unready]
      cases next : nextSlot entry with
      | none => exact .none
      | some index =>
        have free := List.find?_some next
        simp only [Bool.not_eq_true'] at free
        cases host.submitted with
        | false => exact .none
        | true => exact fill_effects host held free

theorem queuePresent_effects {layer : Layer} {acks : List Export} (handle image : Nat) (host : PresentHost)
    (own : layer.allUnmistaken acks = true) :
    Effects acks layer (layer.queuePresent acks handle image host).1 (layer.queuePresent acks handle image host).2 := by
  have drained := layer.drainAcks_effects acks (fun _ member => member) own
  unfold queuePresent
  generalize places = everywhere
  have emitted := drained.append (emitWaiting_effects (layer.drainAcks acks).1 host everywhere)
  dsimp only
  cases host.plain with
  | false =>
    rw [Bool.not_false, if_pos rfl]
    exact emitted
  | true =>
    rw [Bool.not_true, if_neg Bool.false_ne_true]
    exact emitted.append (capture_effects _ handle image host)

end Layer

/-! ## What is read is held -/

/-- Each image that is read is the current one of its slot, which is busy with it; the exports
whose acknowledgement is on its way are over. -/
structure AckInvariant (acks : List Export) (history : List Event) (layer : Layer) : Prop where
  identities : ∀ place entry, layer.swaps place = some entry → entry.identity < layer.nextIdentity
  unique : ∀ first second one two, layer.swaps first = some one → layer.swaps second = some two →
    one.identity = two.identity → first = second
  knownRead : ∀ read ∈ stillRead history [], read.identity < layer.nextIdentity
  knownAcks : ∀ ack ∈ acks, ack.identity < layer.nextIdentity
  held : ∀ read ∈ stillRead history [], ∀ place entry, layer.swaps place = some entry →
    entry.identity = read.identity → (entry.slots read.slot).busy = true ∧ (entry.slots read.slot).sent = true ∧
      (entry.slots read.slot).generation = read.generation
  past : ∀ ack ∈ acks, ∀ place entry, layer.swaps place = some entry → entry.identity = ack.identity →
    ack.generation ≤ (entry.slots ack.slot).generation ∧
      ((entry.slots ack.slot).busy = true → (entry.slots ack.slot).sent = false →
        ack.generation < (entry.slots ack.slot).generation)
  distinct : (stillRead history []).Nodup
  finished : ∀ ack ∈ acks, ack ∉ stillRead history []
  owned : Transition.Throughout Owned history

namespace Layer

theorem freeSlot_identity (entry : SwapchainEntry) (ack : Export) :
    (freeSlot entry ack).identity = entry.identity := by
  unfold freeSlot
  simp only
  split <;> rfl

/-- A slot that is not the one hit stays as it was. -/
theorem freeSlot_slots (entry : SwapchainEntry) (ack : Export) (index : Fin ring) :
    (freeSlot entry ack).slots index = entry.slots index ∨
      hits entry ack = true ∧ index = ack.slot ∧
        (freeSlot entry ack).slots index = { entry.slots index with busy := false, sent := false } := by
  unfold freeSlot
  by_cases hit : hits entry ack = true
  · simp only [hit, ↓reduceIte]
    by_cases own : index = ack.slot
    · subst own
      exact .inr ⟨trivial, rfl, by simp⟩
    · exact .inl (by simp [own])
  · exact .inl (by simp [hit])

theorem readAck_lookup {layer : Layer} {ack : Export} {place : Fin maxSwapchains} {entry : SwapchainEntry}
    (found : (layer.readAck ack).1.swaps place = some entry) :
    ∃ before, layer.swaps place = some before ∧ entry = freeSlot before ack := by
  obtain ⟨before, held, same⟩ := Option.map_eq_some_iff.mp found
  exact ⟨before, held, same.symm⟩

theorem mem_readAck {layer : Layer} {ack : Export} {event : Event} :
    event ∈ (layer.readAck ack).2 ↔ ∃ place entry, layer.swaps place = some entry ∧ hits entry ack = true ∧
      event = .freed (entry.current ack.slot) ack := by
  simp only [readAck, List.mem_filterMap, List.mem_finRange, true_and, Option.bind_eq_some_iff, freed,
    Option.ite_none_right_eq_some, Option.some.injEq]
  constructor
  · rintro ⟨place, entry, found, hit, rfl⟩
    exact ⟨place, entry, found, hit, rfl⟩
  · rintro ⟨place, entry, found, hit, rfl⟩
    exact ⟨place, entry, found, hit, rfl⟩

/-- An unmistaken acknowledgement that hits is the slot's own. -/
theorem hit_own {layer : Layer} {ack : Export} {place : Fin maxSwapchains} {entry : SwapchainEntry}
    (own : layer.unmistaken ack = true) (found : layer.swaps place = some entry) (hit : hits entry ack = true) :
    entry.current ack.slot = ack := by
  have here := List.all_eq_true.mp own place (List.mem_finRange place)
  rw [found, Option.all_some, hit] at here
  simp only [Bool.not_true, Bool.false_or, beq_iff_eq] at here
  simp only [hits, Bool.and_eq_true, beq_iff_eq] at hit
  cases ack
  simp only [SwapchainEntry.current, Export.mk.injEq] at here hit ⊢
  exact ⟨here, trivial, hit.2⟩

end Layer

theorem stillRead_freed {later : List Event} (reading : List Export)
    (freed : ∀ event ∈ later, ∃ current acknowledged, event = .freed current acknowledged) :
    stillRead later reading = reading := by
  induction later with
  | nil => rfl
  | cons event later ih =>
    obtain ⟨current, acknowledged, rfl⟩ := freed event List.mem_cons_self
    exact ih fun other member => freed other (List.mem_cons_of_mem _ member)

namespace AckInvariant

variable {acks : List Export} {history : List Event} {before after : Layer}

theorem read (ack : Export) (known : ack ∈ acks) (own : before.unmistaken ack = true)
    (held : AckInvariant acks history before) :
    AckInvariant acks ((before.readAck ack).2 ++ history) (before.readAck ack).1 := by
  have same : stillRead ((before.readAck ack).2 ++ history) [] = stillRead history [] := by
    rw [stillRead_append]
    refine stillRead_freed _ fun event member => ?_
    obtain ⟨_, _, _, _, rfl⟩ := Layer.mem_readAck.mp member
    exact ⟨_, _, rfl⟩
  constructor
  · intro place entry found
    obtain ⟨old, looked, rfl⟩ := Layer.readAck_lookup found
    rw [Layer.freeSlot_identity]
    exact held.identities place old looked
  · intro first second one two foundOne foundTwo equal
    obtain ⟨oldOne, lookedOne, rfl⟩ := Layer.readAck_lookup foundOne
    obtain ⟨oldTwo, lookedTwo, rfl⟩ := Layer.readAck_lookup foundTwo
    rw [Layer.freeSlot_identity, Layer.freeSlot_identity] at equal
    exact held.unique first second oldOne oldTwo lookedOne lookedTwo equal
  · rw [same]
    exact held.knownRead
  · exact held.knownAcks
  · rw [same]
    intro read reads place entry found equal
    obtain ⟨old, looked, rfl⟩ := Layer.readAck_lookup found
    rw [Layer.freeSlot_identity] at equal
    have current := held.held read reads place old looked equal
    rcases Layer.freeSlot_slots old ack read.slot with kept | ⟨hit, slot, _⟩
    · rw [kept]
      exact current
    · -- The slot that is freed is the one of `ack`, and nobody reads that any more.
      exfalso
      have mine := Layer.hit_own own looked hit
      have reading : read = ack := by
        rw [← mine, ← slot, SwapchainEntry.current, current.2.2, equal]
      exact held.finished ack known (reading ▸ reads)
  · intro other member place entry found equal
    obtain ⟨old, looked, rfl⟩ := Layer.readAck_lookup found
    rw [Layer.freeSlot_identity] at equal
    have before_ := held.past other member place old looked equal
    rcases Layer.freeSlot_slots old ack other.slot with kept | ⟨_, _, freed⟩
    · rw [kept]
      exact before_
    · rw [freed]
      exact ⟨before_.1, nofun⟩
  · rw [same]
    exact held.distinct
  · rw [same]
    exact held.finished
  · refine Transition.Throughout.append (fun event member earlier => ?_) held.owned
    obtain ⟨place, entry, found, hit, rfl⟩ := Layer.mem_readAck.mp member
    refine ⟨fun current acknowledged made => ?_, nofun⟩
    obtain ⟨rfl, rfl⟩ := Event.freed.inj made
    exact Layer.hit_own own found hit

/-- The entry of a place after one of its slots has changed. -/
theorem setSlot_lookup {place other : Fin maxSwapchains} {entry found : SwapchainEntry} {index : Fin ring}
    {slot : CaptureSlot} (looked : (before.setSlot place entry index slot).swaps other = some found) :
    other = place ∧ found = { entry with slots := Function.update entry.slots index slot } ∨
      other ≠ place ∧ before.swaps other = some found := by
  by_cases own : other = place
  · subst own
    rw [Layer.setSlot, Layer.setSwap_same] at looked
    exact .inl ⟨rfl, (Option.some.inj looked).symm⟩
  · rw [Layer.setSlot, Layer.setSwap_other _ own] at looked
    exact .inr ⟨own, looked⟩

/-- A change of a slot of one swapchain, which keeps its identity. Its new state must agree
with what is read of it and what was. -/
theorem change {place : Fin maxSwapchains} {entry changed : SwapchainEntry} {index : Fin ring} {slot : CaptureSlot}
    {latest : Event} (held : AckInvariant acks history before) (looked : before.swaps place = some entry)
    (same : changed.identity = entry.identity) (slots : changed.slots = entry.slots)
    (known : ∀ read ∈ stillRead (latest :: history) [], read ∈ stillRead history [] ∨
      read = { entry.current index with generation := slot.generation } ∧ slot.busy = true ∧ slot.sent = true)
    (unread : ∀ read ∈ stillRead history [], read.identity = entry.identity → read.slot ≠ index)
    (past : ∀ ack ∈ acks, ack.identity = entry.identity → ack.slot = index → ack.generation ≤ slot.generation ∧
      (slot.busy = true → slot.sent = false → ack.generation < slot.generation))
    (distinct : (stillRead (latest :: history) []).Nodup) (finished : ∀ ack ∈ acks, ack ∉ stillRead (latest :: history) [])
    (owned : Owned latest history) :
    AckInvariant acks (latest :: history) (before.setSlot place changed index slot) := by
  have identity : ∀ other found, (before.setSlot place changed index slot).swaps other = some found →
      ∃ old, before.swaps other = some old ∧ found.identity = old.identity := by
    intro other found seen
    rcases setSlot_lookup seen with ⟨rfl, rfl⟩ | ⟨_, kept⟩
    · exact ⟨entry, looked, same⟩
    · exact ⟨found, kept, rfl⟩
  constructor
  · intro other found seen
    obtain ⟨old, kept, equal⟩ := identity other found seen
    rw [equal]
    exact held.identities other old kept
  · intro first second one two foundOne foundTwo equal
    obtain ⟨oldOne, keptOne, sameOne⟩ := identity first one foundOne
    obtain ⟨oldTwo, keptTwo, sameTwo⟩ := identity second two foundTwo
    rw [sameOne, sameTwo] at equal
    exact held.unique first second oldOne oldTwo keptOne keptTwo equal
  · intro read reads
    rcases known read reads with before_ | ⟨rfl, _⟩
    · exact held.knownRead read before_
    · exact held.identities place entry looked
  · exact held.knownAcks
  · intro read reads other found seen equal
    rcases setSlot_lookup seen with ⟨rfl, rfl⟩ | ⟨elsewhere, kept⟩
    · rcases known read reads with before_ | ⟨rfl, busy, sent⟩
      · have differs := unread read before_ (equal.symm.trans same)
        have kept : (Function.update changed.slots index slot) read.slot = entry.slots read.slot := by
          rw [Function.update_of_ne differs, slots]
        simp only [kept]
        exact held.held read before_ other entry looked (same.symm.trans equal)
      · simp only [SwapchainEntry.current, Function.update_self]
        exact ⟨busy, sent, trivial⟩
    · rcases known read reads with before_ | ⟨rfl, _⟩
      · exact held.held read before_ other found kept equal
      -- What is new is read of this swapchain, and identities tell the places apart.
      · exact absurd (held.unique other place found entry kept looked equal) elsewhere
  · intro ack member other found seen equal
    rcases setSlot_lookup seen with ⟨rfl, rfl⟩ | ⟨_, kept⟩
    · by_cases own : ack.slot = index
      · have written : (Function.update entry.slots index slot) ack.slot = slot := by rw [own, Function.update_self]
        simp only [slots, written]
        exact past ack member (equal.symm.trans same) own
      · simp only [slots, Function.update_of_ne own]
        exact held.past ack member other entry looked (same.symm.trans equal)
    · exact held.past ack member other found kept equal
  · exact distinct
  · exact finished
  · exact ⟨owned, held.owned⟩

theorem effect {seen : List Event} (made : Effect acks before after seen) (held : AckInvariant acks history before) :
    AckInvariant acks (seen ++ history) after := by
  cases made with
  | read ack known own => exact held.read ack known own
  | emitted place entry index slot looked busy unsent same =>
    -- The slot's current copy was never sent, so nobody reads it and nobody has acknowledged it.
    have unread : ∀ read ∈ stillRead history [], read.identity = entry.identity → read.slot ≠ index := by
      rintro read reads equal rfl
      have current := held.held read reads place entry looked equal.symm
      rw [unsent] at current
      cases current.2.1
    have fresh : ∀ ack ∈ acks, ack.identity = entry.identity → ack.slot = index →
        ack.generation < (entry.slots index).generation := by
      rintro ack member equal rfl
      exact (held.past ack member place entry looked equal.symm).2 busy unsent
    subst same
    refine held.change looked rfl rfl ?_ unread ?_ ?_ ?_ ⟨nofun, nofun⟩
    · intro read reads
      rcases List.mem_cons.mp reads with rfl | earlier
      · exact .inr ⟨rfl, busy, rfl⟩
      · exact .inl earlier
    · intro ack member equal own
      exact ⟨Nat.le_of_lt (fresh ack member equal own), nofun⟩
    · refine List.nodup_cons.mpr ⟨fun reads => ?_, held.distinct⟩
      exact unread _ reads rfl rfl
    · intro ack member reads
      rcases List.mem_cons.mp reads with rfl | earlier
      · exact Nat.lt_irrefl _ (fresh _ member rfl rfl)
      · exact held.finished ack member earlier
  | filled place entry index slot cursor looked free generation busy unsent =>
    -- A free slot is read by nobody, and its new generation is ahead of every acknowledgement.
    have unread : ∀ read ∈ stillRead history [], read.identity = entry.identity → read.slot ≠ index := by
      rintro read reads equal rfl
      have current := held.held read reads place entry looked equal.symm
      rw [free] at current
      cases current.1
    refine held.change looked rfl rfl (fun read reads => .inl reads) unread ?_ held.distinct held.finished ⟨nofun, ?_⟩
    · rintro ack member equal rfl
      have bound := (held.past ack member place entry looked equal.symm).1
      rw [generation]
      exact ⟨by omega, fun _ _ => by omega⟩
    · intro identity slot_ made read reads other
      obtain ⟨rfl, rfl⟩ := Event.overwritten.inj made
      exact unread read reads other.1 other.2

end AckInvariant

/-! ## Every run -/

namespace AckInvariant

variable {acks : List Export} {history : List Event} {layer : Layer}

theorem forget (held : AckInvariant acks history layer) : AckInvariant [] history layer :=
  { held with knownAcks := List.forall_mem_nil _, past := List.forall_mem_nil _, finished := List.forall_mem_nil _ }

theorem destroy (handle : Nat) (held : AckInvariant acks history layer) :
    AckInvariant acks history (layer.destroySwapchain handle) := by
  unfold Layer.destroySwapchain
  cases layer.findSwap handle with
  | none => exact held
  | some place =>
    have kept : ∀ other entry, (layer.setSwap place none).swaps other = some entry → layer.swaps other = some entry := by
      intro other entry found
      by_cases own : other = place
      · rw [own, Layer.setSwap_same] at found
        cases found
      · rwa [Layer.setSwap_other _ own] at found
    exact { held with
      identities := fun other entry found => held.identities other entry (kept other entry found)
      unique := fun first second one two foundOne foundTwo =>
        held.unique first second one two (kept first one foundOne) (kept second two foundTwo)
      held := fun read reads other entry found => held.held read reads other entry (kept other entry found)
      past := fun ack member other entry found => held.past ack member other entry (kept other entry found) }

/-- A new swapchain has an identity that no export carries yet. -/
theorem create (handle imageCount : Nat) (exportReady : Bool) (held : AckInvariant acks history layer) :
    AckInvariant acks history (layer.createSwapchain handle imageCount exportReady) := by
  unfold Layer.createSwapchain
  cases (List.finRange maxSwapchains).find? fun place => (layer.swaps place).isNone with
  | none => exact held
  | some place =>
    simp only
    generalize made : ({ handle, identity := layer.nextIdentity, imageCount, exportReady } : SwapchainEntry) = entry
    have fresh : entry.identity = layer.nextIdentity := by rw [← made]
    have lookup : ∀ other found, (layer.setSwap place (some entry)).swaps other = some found →
        other = place ∧ found = entry ∨ layer.swaps other = some found := by
      intro other found looked
      by_cases own : other = place
      · rw [own, Layer.setSwap_same] at looked
        exact .inl ⟨own, (Option.some.inj looked).symm⟩
      · rw [Layer.setSwap_other _ own] at looked
        exact .inr looked
    constructor
    · intro other found looked
      rcases lookup other found looked with ⟨_, rfl⟩ | kept
      · exact Nat.lt_succ_of_le (Nat.le_of_eq fresh)
      · exact Nat.lt_succ_of_lt (held.identities other found kept)
    · intro first second one two foundOne foundTwo equal
      rcases lookup first one foundOne with ⟨placeOne, rfl⟩ | keptOne
      · rcases lookup second two foundTwo with ⟨placeTwo, _⟩ | keptTwo
        · rw [placeOne, placeTwo]
        · have older := held.identities second two keptTwo
          omega
      · rcases lookup second two foundTwo with ⟨_, rfl⟩ | keptTwo
        · have older := held.identities first one keptOne
          omega
        · exact held.unique first second one two keptOne keptTwo equal
    · exact fun read reads => Nat.lt_succ_of_lt (held.knownRead read reads)
    · exact fun ack member => Nat.lt_succ_of_lt (held.knownAcks ack member)
    · intro read reads other found looked equal
      rcases lookup other found looked with ⟨_, rfl⟩ | kept
      · have older := held.knownRead read reads
        omega
      · exact held.held read reads other found kept equal
    · intro ack member other found looked equal
      rcases lookup other found looked with ⟨_, rfl⟩ | kept
      · have older := held.knownAcks ack member
        omega
      · exact held.past ack member other found kept equal
    · exact held.distinct
    · exact held.finished
    · exact held.owned

/-- The receiver is done with an image: its acknowledgement may now be on its way. -/
theorem acknowledge {read : Export} (reads : read ∈ stillRead history []) (delivered : Bool)
    (held : AckInvariant acks history layer) :
    AckInvariant (if delivered then acks ++ [read] else acks) (.acknowledged read :: history) layer := by
  have gone : read ∉ stillRead (.acknowledged read :: history) [] := held.distinct.not_mem_erase
  have among : ∀ ack, ack ∈ (if delivered then acks ++ [read] else acks) → ack ∈ acks ∨ ack = read := by
    cases delivered with
    | false => exact fun ack member => .inl member
    | true => exact fun ack member => (List.mem_append.mp member).imp_right List.mem_singleton.mp
  refine ⟨held.identities, held.unique, fun other still => held.knownRead other (List.mem_of_mem_erase still), ?_,
    fun other still => held.held other (List.mem_of_mem_erase still), ?_, held.distinct.erase read, ?_, ⟨⟨nofun, nofun⟩,
      held.owned⟩⟩
  · intro ack member
    rcases among ack member with before | rfl
    · exact held.knownAcks ack before
    · exact held.knownRead ack reads
  · intro ack member place entry found equal
    rcases among ack member with before | rfl
    · exact held.past ack before place entry found equal
    -- What is acknowledged was sent, so it is no newer than the slot.
    · obtain ⟨_, sent, generation⟩ := held.held ack reads place entry found equal
      rw [sent, generation]
      exact ⟨Nat.le_refl _, nofun⟩
  · intro ack member still
    rcases among ack member with before | rfl
    · exact held.finished ack before (List.mem_of_mem_erase still)
    · exact gone still

end AckInvariant

theorem ackInvariant {history : List Event} {world : World} (run : World.Execution Unmistaken history world) :
    world.reading = stillRead history [] ∧ AckInvariant world.acks history world.layer := by
  apply @Transition.Run.invariant _ _ _ _ _ _ _ _
    (fun history world => world.reading = stillRead history [] ∧ AckInvariant world.acks history world.layer) ?_ ?_ run
  · rintro _ rfl
    exact ⟨rfl, nofun, nofun, List.forall_mem_nil _, List.forall_mem_nil _, List.forall_mem_nil _,
      List.forall_mem_nil _, .nil, List.forall_mem_nil _, trivial⟩
  · rintro history world input _ unmistaken ⟨reading, held⟩
    cases input with
    | createSwapchain handle imageCount exportReady => exact ⟨reading, held.create handle imageCount exportReady⟩
    | destroySwapchain handle => exact ⟨reading, held.destroy handle⟩
    | present handle image host =>
      have presented := (Layer.queuePresent_effects handle image host unmistaken).preserves
        (fun history layer => AckInvariant world.acks history layer) (fun _ _ _ _ made before => before.effect made) held
      -- The present has read all of the socket.
      refine ⟨?_, presented.forget⟩
      simp only [World.step, stillRead_append, reading]
    | acknowledge read delivered =>
      unfold World.step
      by_cases reads : world.reading.contains read = true
      · simp only [reads, ↓reduceIte]
        rw [List.contains_iff_mem, reading] at reads
        refine ⟨?_, held.acknowledge reads delivered⟩
        rw [reading]
        rfl
      · simp only [reads, Bool.false_eq_true, ↓reduceIte]
        exact ⟨reading, held⟩

/-- A mistaken acknowledgement frees a slot whose export it does not name. -/
theorem drainAcks_mistaken {layer : Layer} {acks : List Export} (mistaken : layer.allUnmistaken acks = false) :
    ∃ current acknowledged, .freed current acknowledged ∈ (layer.drainAcks acks).2 ∧ current ≠ acknowledged := by
  induction acks generalizing layer with
  | nil => cases mistaken
  | cons ack acks ih =>
    rw [Layer.allUnmistaken, Bool.and_eq_false_iff] at mistaken
    rcases mistaken with here | later
    · simp only [Layer.unmistaken, List.all_eq_false, List.mem_finRange, true_and, Bool.not_eq_true] at here
      obtain ⟨place, found⟩ := here
      cases looked : layer.swaps place with
      | none => rw [looked] at found; cases found
      | some entry =>
        rw [looked, Option.all_some, Bool.or_eq_false_iff, Bool.not_eq_false', beq_eq_false_iff_ne] at found
        refine ⟨entry.current ack.slot, ack, ?_, fun same => found.2 (by rw [← same]; rfl)⟩
        exact List.mem_append_right _ (Layer.mem_readAck.mpr ⟨place, entry, looked, found.1, rfl⟩)
    · obtain ⟨current, acknowledged, freed, differs⟩ := ih later
      exact ⟨current, acknowledged, List.mem_append_left _ freed, differs⟩

theorem mem_queuePresent {layer : Layer} {acks : List Export} {event : Event} (handle image : Nat) (host : PresentHost)
    (drained : event ∈ (layer.drainAcks acks).2) : event ∈ (layer.queuePresent acks handle image host).2 := by
  unfold Layer.queuePresent
  cases host.plain with
  | false => exact List.mem_append_right _ drained
  | true => exact List.mem_append_right _ (List.mem_append_right _ drained)

/-- While no acknowledgement hits another swapchain's export of its slot and generation,
every acknowledgement frees its own export only and no image is overwritten that is
still read. The first present that reads a mistaken one frees a foreign export. -/
theorem acks_free_their_own {history : List Event} {world : World} (run : World.Execution Unmistaken history world) :
    Transition.Throughout Owned history ∧
      ∀ input, ¬Unmistaken history world input → ¬Transition.Throughout Owned ((World.step world input).2 ++ history) := by
  refine ⟨(ackInvariant run).2.owned, fun input mistaken owned => ?_⟩
  cases input with
  | present handle image host =>
    obtain ⟨current, acknowledged, freed, differs⟩ := drainAcks_mistaken (Bool.not_eq_true _ ▸ mistaken)
    have member : .freed current acknowledged ∈ (World.step world (.present handle image host)).2 ++ history :=
      List.mem_append_left _ (mem_queuePresent handle image host freed)
    obtain ⟨_, mine⟩ := owned.mem member
    exact differs (mine.1 current acknowledged rfl)
  | createSwapchain | destroySwapchain | acknowledge => exact mistaken trivial

/-! ## A swapchain that is recreated -/

/-- The first swapchain's only image is acknowledged after the second swapchain has
exported one from the same slot. -/
def recreated : List Input :=
  [.createSwapchain 10 3 true, .present 10 0 {}, .destroySwapchain 10, .createSwapchain 20 3 true,
    .present 20 0 {}, .acknowledge { identity := 1, slot := 0, generation := 1 } true,
    .present 20 1 {}, .present 20 2 {}, .present 20 0 {}, .present 20 1 {}]

/-- The late acknowledgement frees the second swapchain's slot, whose image is then
overwritten while it is still read. -/
theorem late_acknowledgement_frees_another_export :
    ¬∀ history world, World.Execution Transition.unrestricted history world → Transition.Throughout Owned history := by
  intro always
  have begun : World.Execution Transition.unrestricted [] {} := .start rfl
  have run := begun.execute recreated (Transition.permits_unrestricted _ _ _ _)
  rw [List.append_nil] at run
  have seen : (Transition.execute World.step {} recreated).2 =
      [.exported { identity := 2, slot := 0, generation := 2 }, .overwritten 2 0,
        .exported { identity := 2, slot := 3, generation := 1 }, .overwritten 2 3,
        .exported { identity := 2, slot := 2, generation := 1 }, .overwritten 2 2,
        .exported { identity := 2, slot := 1, generation := 1 }, .overwritten 2 1,
        .freed { identity := 2, slot := 0, generation := 1 } { identity := 1, slot := 0, generation := 1 },
        .acknowledged { identity := 1, slot := 0, generation := 1 },
        .exported { identity := 2, slot := 0, generation := 1 }, .overwritten 2 0,
        .exported { identity := 1, slot := 0, generation := 1 }, .overwritten 1 0] := by
    decide +kernel
  rw [seen] at run
  have owned := always _ _ run
  exact owned.2.1.2 2 0 rfl { identity := 2, slot := 0, generation := 1 } (by decide) ⟨rfl, rfl⟩

/-- One swapchain whose acknowledgements come in time. -/
theorem acks_free_their_own_oneSwapchain :
    let inputs := [Input.createSwapchain 10 3 true, .present 10 0 {},
      .acknowledge { identity := 1, slot := 0, generation := 1 } true, .present 10 1 {}]
    let final := Transition.execute World.step {} inputs
    Transition.Throughout Owned final.2 ∧ ∀ input, ¬Unmistaken final.2 final.1 input →
      ¬Transition.Throughout Owned ((World.step final.1 input).2 ++ final.2) := by
  intro inputs
  have begun : World.Execution Unmistaken [] {} := .start rfl
  have run := begun.execute inputs (by decide +kernel)
  rw [List.append_nil] at run
  exact acks_free_their_own run

end Luma.Export.Vulkan
