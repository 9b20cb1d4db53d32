import Luma.Export.FenceLayer

/-! A slot has a fence exactly while its message waits to be sent.

An acknowledgement of a message that was not sent, and a fence that the driver does not export, break this. The fence is
lost then, or the slot.
-/

set_option autoImplicit false

namespace Luma.Export.Vulkan.FenceLayer

open Luma.Library

/-! ## The statement -/

/-- A slot that waits to be sent has its fence, and no other slot has one. -/
def Matched (slot : FenceSlot) : Prop := (slot.busy && !slot.sent) = slot.fenceFd.isSome

def held (layer : FenceLayer) (place : Place) : Option Nat := (layer.slotAt place).bind (·.fenceFd)

/-- Acknowledgements name messages that were sent, and the driver exports each fence that it is asked for. -/
def Dutiful : Transition.Condition FenceLayer Call FenceEvent := fun _ layer call =>
  match call with
  | .present acks _ _ host =>
      (∀ ack ∈ acks, ∀ place slot, layer.slotAt place = some slot → hits ack place.2 slot = true → slot.sent = true) ∧
        host.fence = .descriptor
  | _ => True

structure Kept (history : List FenceEvent) (layer : FenceLayer) : Prop where
  matched : ∀ place slot, layer.slotAt place = some slot → Matched slot
  custody : Custody layer.held history
  fresh : ∀ fd, .opened fd ∈ history → fd < layer.nextFd

/-! ## Slots -/

variable {layer after : FenceLayer} {history : List FenceEvent} {place : Place} {slot old : FenceSlot}

theorem slotAt_setSlot (found : layer.slotAt place = some old) (slot : FenceSlot) :
    (layer.setSlot place slot).slotAt = Function.update layer.slotAt place (some slot) := by
  funext other
  obtain ⟨swap, there, -⟩ := Option.map_eq_some_iff.mp found
  unfold slotAt setSlot
  simp only
  by_cases same : other.1 = place.1
  · rw [same, Function.update_self, there]
    by_cases index : other.2 = place.2
    · have here : other = place := Prod.ext same index
      rw [here]
      simp
    · have apart : other ≠ place := fun here => index (congrArg Prod.snd here)
      simp [apart, index, same, there]
  · have apart : other ≠ place := fun here => same (congrArg Prod.fst here)
    simp [apart, same]

theorem held_setSlot (found : layer.slotAt place = some old) (slot : FenceSlot) :
    (layer.setSlot place slot).held = Function.update layer.held place slot.fenceFd := by
  funext other
  unfold held
  rw [slotAt_setSlot found]
  by_cases here : other = place
  · rw [here, Function.update_self, Function.update_self]
    rfl
  · rw [Function.update_of_ne here, Function.update_of_ne here]

theorem held_of_slotAt (found : layer.slotAt place = some slot) : layer.held place = slot.fenceFd := by
  unfold held
  rw [found]
  rfl

theorem Kept.free (kept : Kept history layer) (found : layer.slotAt place = some slot) (free : slot.busy = false) :
    slot.fenceFd = none := by
  have matched := kept.matched place slot found
  rw [Matched, free, Bool.false_and] at matched
  exact Option.isSome_eq_false_iff.mp matched.symm |> Option.isNone_iff_eq_none.mp

/-- Nothing but the flags of the slots changes. -/
theorem Kept.of_same (kept : Kept history layer) (matched : ∀ place slot, after.slotAt place = some slot → Matched slot)
    (same : after.held = layer.held) (next : after.nextFd = layer.nextFd) : Kept history after where
  matched := matched
  custody := kept.custody.of_same same
  fresh := by
    rw [next]
    exact kept.fresh

/-- One slot changes, with what is done to its fence. -/
theorem Kept.setSlot (kept : Kept history layer) (found : layer.slotAt place = some old) {events : List FenceEvent}
    (matched : Matched slot) (custody : Custody (Function.update layer.held place slot.fenceFd) (events ++ history))
    (fresh : ∀ fd, .opened fd ∈ events → fd < layer.nextFd) : Kept (events ++ history) (layer.setSlot place slot) where
  matched := by
    intro other found' there
    rw [slotAt_setSlot found] at there
    by_cases here : other = place
    · rw [here, Function.update_self] at there
      cases there
      exact matched
    · rw [Function.update_of_ne here] at there
      exact kept.matched other found' there
  custody := by
    rw [held_setSlot found]
    exact custody
  fresh := by
    intro fd opened
    rcases List.mem_append.mp opened with new | before
    · exact fresh fd new
    · exact kept.fresh fd before

/-! ## Acknowledgements -/

theorem slotAt_readAck (layer : FenceLayer) (ack : SlotAck) (place : Place) :
    (layer.readAck ack).slotAt place = (layer.slotAt place).map fun slot =>
      if hits ack place.2 slot then { slot with busy := false, sent := false } else slot := by
  unfold slotAt readAck
  rw [Option.map_map, Option.map_map]
  rfl

theorem readAck_cases {ack : SlotAck} (found : (layer.readAck ack).slotAt place = some slot) :
    ∃ old, layer.slotAt place = some old ∧
      (hits ack place.2 old = true ∧ slot = { old with busy := false, sent := false } ∨ slot = old) := by
  rw [slotAt_readAck] at found
  obtain ⟨old, there, same⟩ := Option.map_eq_some_iff.mp found
  refine ⟨old, there, ?_⟩
  split at same
  · rename_i hit
    exact .inl ⟨hit, same.symm⟩
  · exact .inr same.symm

theorem held_readAck (layer : FenceLayer) (ack : SlotAck) : (layer.readAck ack).held = layer.held := by
  funext place
  unfold held
  rw [slotAt_readAck]
  cases layer.slotAt place with
  | none => rfl
  | some slot =>
    show (if hits ack place.2 slot then { slot with busy := false, sent := false } else slot).fenceFd = slot.fenceFd
    split <;> rfl

theorem Kept.readAck (kept : Kept history layer) {ack : SlotAck}
    (due : ∀ place slot, layer.slotAt place = some slot → hits ack place.2 slot = true → slot.sent = true) :
    Kept history (layer.readAck ack) := by
  refine kept.of_same ?_ (held_readAck layer ack) rfl
  intro place slot found
  obtain ⟨old, there, ⟨hit, rfl⟩ | rfl⟩ := readAck_cases found
  · have matched := kept.matched place old there
    rw [Matched, due place old there hit, Bool.not_true, Bool.and_false] at matched
    exact matched
  · exact kept.matched place slot there

/-- A slot that an acknowledgement frees is not hit again, the others stay as they are. -/
theorem Kept.drainAcks {acks : List SlotAck} (kept : Kept history layer)
    (due : ∀ ack ∈ acks, ∀ place slot, layer.slotAt place = some slot → hits ack place.2 slot = true →
      slot.sent = true) : Kept history (layer.drainAcks acks) := by
  induction acks generalizing layer with
  | nil => exact kept
  | cons ack acks ih =>
    have first := kept.readAck (due ack List.mem_cons_self)
    refine ih first ?_
    intro other there place slot found hit
    obtain ⟨old, before, ⟨-, rfl⟩ | rfl⟩ := readAck_cases found
    · cases hit
    · exact due other (List.mem_cons_of_mem _ there) place slot before hit

/-! ## Messages -/

theorem Kept.emitSlot (kept : Kept history layer) (place : Place) (leaves : Bool) :
    Kept ((layer.emitSlot place leaves).2 ++ history) (layer.emitSlot place leaves).1 := by
  unfold FenceLayer.emitSlot
  split
  · exact kept
  · rename_i slot found
    split
    · exact kept
    · rename_i fd fence
      split
      · have custody := kept.custody.closes ((held_of_slotAt found).trans fence)
        refine kept.setSlot found ?_ custody ?_
        · show (slot.busy && !true) = false
          rw [Bool.not_true, Bool.and_false]
        · intro other opened
          cases List.mem_singleton.mp opened
      · exact kept

theorem Kept.emitWaiting (kept : Kept history layer) (host : FenceHost) (waiting : List Place) :
    Kept ((layer.emitWaiting host waiting).2 ++ history) (layer.emitWaiting host waiting).1 := by
  induction waiting generalizing layer history with
  | nil => exact kept
  | cons place rest ih =>
    unfold FenceLayer.emitWaiting
    simp only
    split
    · rw [List.append_assoc]
      exact ih (kept.emitSlot place (host.sent place))
    · rw [List.append_assoc]
      exact ih kept

/-! ## Captures -/

theorem slotAt_update {layer : FenceLayer} {at_ : Fin maxSwapchains} (swap : Option FenceSwap) (place : Place) :
    FenceLayer.slotAt { layer with swaps := Function.update layer.swaps at_ swap } place =
      if place.1 = at_ then swap.map (·.slots place.2) else layer.slotAt place := by
  unfold slotAt
  simp only
  split
  · rename_i here
    rw [here, Function.update_self]
  · rename_i other
    rw [Function.update_of_ne other]

theorem slotAt_cursor {swap : FenceSwap} {at_ : Fin maxSwapchains} (found : layer.swaps at_ = some swap)
    (cursor next : Nat) :
    FenceLayer.slotAt { swaps := Function.update layer.swaps at_ (some { swap with cursor }), nextFd := next } =
      layer.slotAt := by
  funext place
  unfold slotAt
  simp only
  by_cases here : place.1 = at_
  · rw [here, Function.update_self, found]
    rfl
  · rw [Function.update_of_ne here]

/-- A free slot has no fence, so that of the new copy is the only one. -/
theorem Kept.fill (kept : Kept history layer) {swap : FenceSwap} (found : layer.swaps place.1 = some swap)
    (free : (swap.slots place.2).busy = false) {host : FenceHost} (fence : host.fence = .descriptor) :
    Kept ((layer.fill place swap host).2 ++ history) (layer.fill place swap host).1 := by
  have there : layer.slotAt place = some (swap.slots place.2) := by
    unfold slotAt
    rw [found]
    rfl
  have vacant : layer.held place = none := (held_of_slotAt there).trans (kept.free there free)
  have fresh : .opened layer.nextFd ∉ history := fun opened => Nat.lt_irrefl _ (kept.fresh _ opened)
  unfold FenceLayer.fill
  rw [fence]
  generalize (place.2.val + 1) % ring = cursor
  have same := slotAt_cursor found cursor (layer.nextFd + 1)
  have unchanged : FenceLayer.held
      { swaps := Function.update layer.swaps place.1 (some { swap with cursor }), nextFd := layer.nextFd + 1 } =
      layer.held := by
    funext other
    unfold held
    rw [same]
  have advanced : Kept history
      { swaps := Function.update layer.swaps place.1 (some { swap with cursor }), nextFd := layer.nextFd + 1 } := {
    matched := by
      rw [same]
      exact kept.matched
    custody := kept.custody.of_same unchanged
    fresh := fun fd opened => Nat.lt_succ_of_lt (kept.fresh fd opened) }
  simp only
  rw [List.append_assoc]
  refine Kept.emitSlot ?_ place (host.sent place)
  refine advanced.setSlot (same ▸ there) rfl ?_ ?_
  · rw [unchanged]
    exact kept.custody.opens vacant fresh
  · intro fd opened
    cases List.mem_singleton.mp opened
    exact Nat.lt_succ_self _

theorem Kept.capture (kept : Kept history layer) (handle image : Nat) {host : FenceHost}
    (fence : host.fence = .descriptor) :
    Kept ((layer.capture handle image host).2 ++ history) (layer.capture handle image host).1 := by
  unfold FenceLayer.capture
  split
  · exact kept
  · rename_i at_ swap found
    obtain ⟨at_', -, mapped⟩ := Option.bind_eq_some_iff.mp found
    obtain ⟨swap', there, same⟩ := Option.map_eq_some_iff.mp mapped
    cases same
    split
    · exact kept
    · split
      · exact kept
      · rename_i index next
        split
        · refine kept.fill there ?_ fence
          simpa using List.find?_some next
        · exact kept

theorem Kept.queuePresent (kept : Kept history layer) {acks : List SlotAck} {host : FenceHost}
    (due : ∀ ack ∈ acks, ∀ place slot, layer.slotAt place = some slot → hits ack place.2 slot = true →
      slot.sent = true) (fence : host.fence = .descriptor) (handle image : Nat) :
    Kept ((layer.queuePresent acks handle image host).2 ++ history) (layer.queuePresent acks handle image host).1 := by
  have drained := kept.drainAcks due
  unfold FenceLayer.queuePresent
  generalize Layer.places = everywhere
  have emitted := drained.emitWaiting host everywhere
  simp only
  split
  · exact emitted
  · rw [List.append_assoc]
    exact emitted.capture handle image fence

/-! ## Swapchains -/

/-- The slots of a new swapchain have no fence. -/
theorem Kept.createSwapchain (kept : Kept history layer) (handle device imageCount : Nat) (exportReady : Bool) :
    Kept history (layer.createSwapchain handle device imageCount exportReady) := by
  unfold FenceLayer.createSwapchain
  split
  · exact kept
  rename_i at_ first
  have vacant : layer.swaps at_ = none := by simpa using List.find?_some first
  have same : ∀ place, FenceLayer.slotAt
      { layer with swaps := Function.update layer.swaps at_ (some { handle, device, imageCount, exportReady }) } place =
        if place.1 = at_ then some {} else layer.slotAt place :=
    slotAt_update _
  refine kept.of_same ?_ ?_ rfl
  · intro place slot found
    rw [same] at found
    split at found
    · cases found
      rfl
    · exact kept.matched place slot found
  · funext place
    unfold held
    rw [same]
    split
    · rename_i here
      rw [slotAt, here, vacant]
      rfl
    · rfl

theorem releaseSlot_held (layer : FenceLayer) (place : Place) :
    (layer.releaseSlot place).1.held = Function.update layer.held place none := by
  unfold releaseSlot
  split
  · rename_i vacant
    refine (Function.update_eq_self_iff.mpr ?_).symm
    unfold held
    rw [vacant]
    rfl
  · rename_i slot found
    exact held_setSlot found _

theorem Kept.releaseSlot (kept : Kept history layer) (place : Place) :
    Kept ((layer.releaseSlot place).2 ++ history) (layer.releaseSlot place).1 := by
  unfold FenceLayer.releaseSlot
  split
  · exact kept
  · rename_i slot found
    refine kept.setSlot found rfl ?_ ?_
    · have kept_at := held_of_slotAt found
      cases fence : slot.fenceFd with
      | none =>
        rw [fence] at kept_at
        exact kept.custody.of_same (Function.update_eq_self_iff.mpr kept_at.symm)
      | some fd => exact kept.custody.closes (kept_at.trans fence)
    · intro fd opened
      obtain ⟨closed, -, same⟩ := List.mem_map.mp opened
      cases same

theorem Kept.releaseSlots (kept : Kept history layer) (at_ : Fin maxSwapchains) (indices : List (Fin ring)) :
    Kept ((layer.releaseSlots at_ indices).2 ++ history) (layer.releaseSlots at_ indices).1 := by
  induction indices generalizing layer history with
  | nil => exact kept
  | cons index rest ih =>
    unfold FenceLayer.releaseSlots
    rw [List.append_assoc]
    exact ih (kept.releaseSlot (at_, index))

/-- The slots that are released have no fence left. -/
theorem releaseSlots_held (layer : FenceLayer) (at_ : Fin maxSwapchains) (indices : List (Fin ring)) (place : Place) :
    (layer.releaseSlots at_ indices).1.held place =
      if place.1 = at_ ∧ place.2 ∈ indices then none else layer.held place := by
  induction indices generalizing layer with
  | nil => simp [releaseSlots]
  | cons index rest ih =>
    show ((layer.releaseSlot (at_, index)).1.releaseSlots at_ rest).1.held place = _
    rw [ih, releaseSlot_held]
    by_cases here : place = (at_, index)
    · subst here
      simp
    · rw [Function.update_of_ne here]
      have apart : place.1 = at_ → place.2 ≠ index := fun first second => here (Prod.ext first second)
      by_cases first : place.1 = at_
      · simp [first, apart first]
      · simp [first]

theorem Kept.releaseSwap (kept : Kept history layer) (at_ : Fin maxSwapchains) :
    Kept ((layer.releaseSwap at_).2 ++ history) (layer.releaseSwap at_).1 := by
  have released := kept.releaseSlots at_ (List.finRange ring)
  have empty : ∀ place : Place, place.1 = at_ → (layer.releaseSlots at_ (List.finRange ring)).1.held place = none := by
    intro place here
    rw [releaseSlots_held, if_pos ⟨here, List.mem_finRange _⟩]
  unfold FenceLayer.releaseSwap
  generalize layer.releaseSlots at_ (List.finRange ring) = emptied at released empty ⊢
  have same : ∀ place, FenceLayer.slotAt { emptied.1 with swaps := Function.update emptied.1.swaps at_ none } place =
      if place.1 = at_ then none else emptied.1.slotAt place :=
    slotAt_update none
  refine released.of_same ?_ ?_ rfl
  · intro place slot found
    rw [same] at found
    split at found
    · cases found
    · exact released.matched place slot found
  · funext place
    unfold held
    rw [same]
    split
    · rename_i here
      exact (empty place here).symm
    · rfl

theorem Kept.destroyDevice (kept : Kept history layer) (device : Nat) (places : List (Fin maxSwapchains)) :
    Kept ((layer.destroyDevice device places).2 ++ history) (layer.destroyDevice device places).1 := by
  induction places generalizing layer history with
  | nil => exact kept
  | cons at_ rest ih =>
    unfold FenceLayer.destroyDevice
    simp only
    rw [List.append_assoc]
    split
    · exact ih (kept.releaseSwap at_)
    · exact ih kept

/-! ## Runs -/

theorem Kept.step (kept : Kept history layer) {call : Call} (dutiful : Dutiful history layer call) :
    Kept ((FenceLayer.step layer call).2 ++ history) (FenceLayer.step layer call).1 := by
  cases call with
  | createSwapchain handle device imageCount exportReady =>
    exact kept.createSwapchain handle device imageCount exportReady
  | destroySwapchain handle =>
    show Kept ((layer.destroySwapchain handle).2 ++ history) (layer.destroySwapchain handle).1
    unfold FenceLayer.destroySwapchain
    split
    · exact kept
    · exact kept.releaseSwap _
  | destroyDevice device => exact kept.destroyDevice device _
  | present acks handle image host => exact kept.queuePresent dutiful.1 dutiful.2 handle image

theorem Kept.of_execution (run : Execution Dutiful history layer) : Kept history layer := by
  induction run with
  | start begun =>
    cases begun
    constructor
    · intro place slot found
      cases found
    · exact Custody.none_held fun _ => rfl
    · intro fd opened
      cases opened
  | step call _ dutiful kept => exact kept.step dutiful

/-! ## No slot is lost -/

/-- A present that captures nothing, and whose messages leave. -/
def delivering : FenceHost where
  plain := false

def delivered (slot : FenceSlot) : FenceSlot :=
  if slot.busy && !slot.sent then { slot with fenceFd := none, sent := true } else slot

theorem delivered_delivered (slot : FenceSlot) : delivered (delivered slot) = delivered slot := by
  unfold delivered
  split
  · simp
  · rfl

theorem delivered_sent {slot : FenceSlot} (busy : slot.busy = true) : (delivered slot).sent = true := by
  unfold delivered
  rw [busy]
  cases sent : slot.sent with
  | false => rfl
  | true => exact sent

theorem delivered_rest (slot : FenceSlot) :
    (delivered slot).busy = slot.busy ∧ (delivered slot).generation = slot.generation := by
  unfold delivered
  split <;> exact ⟨rfl, rfl⟩

theorem emitSlot_slotAt (kept : Kept history layer) (place : Place) :
    (if layer.waits place then layer.emitSlot place true else (layer, [])).1.slotAt =
      Function.update layer.slotAt place ((layer.slotAt place).map delivered) := by
  unfold waits emitSlot
  cases found : layer.slotAt place with
  | none =>
    show layer.slotAt = Function.update layer.slotAt place none
    rw [← found, Function.update_eq_self]
  | some slot =>
    have matched := kept.matched place slot found
    simp only [Option.any_some, Option.map_some]
    unfold Matched at matched
    cases waiting : slot.busy && !slot.sent with
    | false =>
      have unchanged : delivered slot = slot := by
        rw [delivered, waiting]
        rfl
      show layer.slotAt = Function.update layer.slotAt place (some (delivered slot))
      rw [unchanged, ← found, Function.update_eq_self]
    | true =>
      rw [waiting] at matched
      obtain ⟨fd, fence⟩ := Option.isSome_iff_exists.mp matched.symm
      rw [delivered, waiting, fence]
      exact slotAt_setSlot found _

/-- Where messages leave, no slot waits any more. -/
theorem emitWaiting_slotAt (kept : Kept history layer) (waiting : List Place) (place : Place) :
    (layer.emitWaiting delivering waiting).1.slotAt place =
      if place ∈ waiting then (layer.slotAt place).map delivered else layer.slotAt place := by
  induction waiting generalizing layer history with
  | nil => rfl
  | cons first rest ih =>
    have sends := emitSlot_slotAt kept first
    have next : Kept
        ((if layer.waits first then layer.emitSlot first true else (layer, [])).2 ++ history)
        (if layer.waits first then layer.emitSlot first true else (layer, [])).1 := by
      split
      · exact kept.emitSlot first true
      · exact kept
    show ((if layer.waits first then layer.emitSlot first true else (layer, [])).1.emitWaiting delivering rest).1.slotAt
      place = _
    rw [ih next, sends]
    by_cases here : place = first
    · subst here
      rw [Function.update_self, if_pos List.mem_cons_self]
      split
      · rw [Option.map_map]
        congr 1
        funext slot
        exact delivered_delivered slot
      · rfl
    · rw [Function.update_of_ne here]
      simp [here]

theorem mem_places (place : Place) : place ∈ Layer.places := by
  unfold Layer.places
  refine List.mem_flatMap.mpr ⟨place.1, List.mem_finRange _, ?_⟩
  exact List.mem_map.mpr ⟨place.2, List.mem_finRange _, rfl⟩

theorem delivering_slotAt (kept : Kept history layer) (acks : List SlotAck)
    (due : ∀ ack ∈ acks, ∀ place slot, layer.slotAt place = some slot → hits ack place.2 slot = true →
      slot.sent = true) (place : Place) :
    (layer.queuePresent acks 0 0 delivering).1.slotAt place = ((layer.drainAcks acks).slotAt place).map delivered := by
  have all := mem_places
  unfold queuePresent
  generalize Layer.places = everywhere at all ⊢
  exact (emitWaiting_slotAt (kept.drainAcks due) everywhere place).trans (if_pos (all place))

theorem execute_pair {State Input Observation : Type} (step : Transition.Step State Input Observation) (state : State)
    (first second : Input) :
    (Transition.execute step state [first, second]).1 = (step (step state first).1 second).1 := rfl

/-- The slot is sent by the next present whose messages leave, and free once its acknowledgement is read. -/
theorem Kept.reclaim (kept : Kept history layer) (found : layer.slotAt place = some slot) (busy : slot.busy = true) :
    ∃ calls, Transition.Permits FenceLayer.step Dutiful history layer calls ∧
      ∃ after, (Transition.execute FenceLayer.step layer calls).1.slotAt place = some after ∧ after.busy = false := by
  have nothing : ∀ ack ∈ ([] : List SlotAck), ∀ place slot, layer.slotAt place = some slot →
      hits ack place.2 slot = true → slot.sent = true := by
    intro ack there
    cases there
  have first := fun other => delivering_slotAt kept [] nothing other
  have quiet : Dutiful history layer (.present [] 0 0 delivering) := ⟨nothing, rfl⟩
  have sending := kept.step quiet
  -- Every busy slot is sent now, so any acknowledgement is due.
  have due : ∀ ack ∈ [SlotAck.mk place.2.val slot.generation], ∀ other slot',
      (FenceLayer.step layer (.present [] 0 0 delivering)).1.slotAt other = some slot' →
        hits ack other.2 slot' = true → slot'.sent = true := by
    intro ack _ other slot' there hit
    obtain ⟨old, -, rfl⟩ := Option.map_eq_some_iff.mp ((first other).symm.trans there)
    refine delivered_sent ?_
    unfold hits at hit
    rw [(delivered_rest old).1] at hit
    simp only [Bool.and_eq_true] at hit
    exact hit.1.1
  refine ⟨[.present [] 0 0 delivering, .present [⟨place.2.val, slot.generation⟩] 0 0 delivering],
    ⟨quiet, ⟨due, rfl⟩, trivial⟩, ?_⟩
  have sent : (FenceLayer.step layer (.present [] 0 0 delivering)).1.slotAt place = some (delivered slot) := by
    refine (first place).trans ?_
    show (layer.slotAt place).map delivered = _
    rw [found]
    rfl
  have hit : hits ⟨place.2.val, slot.generation⟩ place.2 (delivered slot) = true := by
    unfold hits
    rw [(delivered_rest slot).1, (delivered_rest slot).2, busy]
    simp
  have second := delivering_slotAt sending [⟨place.2.val, slot.generation⟩] due place
  have freed : ((FenceLayer.step layer (.present [] 0 0 delivering)).1.drainAcks
      [⟨place.2.val, slot.generation⟩]).slotAt place = some { delivered slot with busy := false, sent := false } := by
    show (FenceLayer.readAck _ _).slotAt place = _
    rw [slotAt_readAck, sent, Option.map_some, if_pos hit]
  rw [freed] at second
  rw [execute_pair]
  exact ⟨_, second, rfl⟩

end Luma.Export.Vulkan.FenceLayer
