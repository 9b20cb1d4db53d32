import Luma.Export.VulkanLayer
import Luma.Library.Custody

/-! The present layer with the descriptors of its fences.

A slot keeps the sync file of its last copy until the message with it has left. Descriptors are named by numbers that
are never used twice. Any acknowledgement may arrive, whoever sends it.
-/

set_option autoImplicit false

namespace Luma.Export.Vulkan

open Luma.Library

abbrev Place := Fin maxSwapchains × Fin ring

structure FenceSlot where
  generation : Nat := 0
  fenceFd : Option Nat := none
  busy : Bool := false
  sent : Bool := false
  deriving DecidableEq

structure FenceSwap where
  handle : Nat
  device : Nat
  imageCount : Nat
  exportReady : Bool
  slots : Fin ring → FenceSlot := fun _ => {}
  cursor : Nat := 0

structure FenceLayer where
  swaps : Fin maxSwapchains → Option FenceSwap := fun _ => none
  /-- The next descriptor that the driver gives. -/
  nextFd : Nat := 0

/-- An acknowledgement with the right magic and version. -/
structure SlotAck where
  slot : Nat
  generation : Nat
  deriving DecidableEq

/-- What `vkGetSemaphoreFdKHR` returns. A success may come with the descriptor -1. -/
inductive FenceAnswer where
  | failed | absent | descriptor
  deriving DecidableEq

structure FenceHost where
  /-- Present info with one swapchain and few enough semaphores. -/
  plain : Bool := true
  submitted : Bool := true
  fence : FenceAnswer := .descriptor
  /-- Whether the message of a place leaves. -/
  sent : Place → Bool := fun _ => true

abbrev FenceEvent := HandleEvent Nat

namespace FenceLayer

def slotAt (layer : FenceLayer) (place : Place) : Option FenceSlot :=
  (layer.swaps place.1).map fun swap => swap.slots place.2

def setSlot (layer : FenceLayer) (place : Place) (slot : FenceSlot) : FenceLayer :=
  let changed := (layer.swaps place.1).map fun swap =>
    { swap with slots := Function.update swap.slots place.2 slot }
  { layer with swaps := Function.update layer.swaps place.1 changed }

/-! ## Acknowledgements and messages -/

def hits (ack : SlotAck) (index : Fin ring) (slot : FenceSlot) : Bool :=
  slot.busy && index.val == ack.slot && slot.generation == ack.generation

/-- An acknowledgement is looked up in every swapchain. -/
def readAck (layer : FenceLayer) (ack : SlotAck) : FenceLayer :=
  let free := fun (index : Fin ring) (slot : FenceSlot) =>
    if hits ack index slot then { slot with busy := false, sent := false } else slot
  { layer with
    swaps := fun at_ => (layer.swaps at_).map fun swap =>
      { swap with slots := fun index => free index (swap.slots index) } }

def drainAcks (layer : FenceLayer) (acks : List SlotAck) : FenceLayer := acks.foldl readAck layer

/-- Once the message has left the layer closes its own descriptor. -/
def emitSlot (layer : FenceLayer) (place : Place) (leaves : Bool) : FenceLayer × List FenceEvent :=
  match layer.slotAt place with
  | none => (layer, [])
  | some slot =>
      match slot.fenceFd with
      | none => (layer, [])
      | some fd =>
          if leaves then (layer.setSlot place { slot with fenceFd := none, sent := true }, [.closed fd])
          else (layer, [])

def waits (layer : FenceLayer) (place : Place) : Bool :=
  (layer.slotAt place).any fun slot => slot.busy && !slot.sent

/-- Messages that did not leave at an earlier present. -/
def emitWaiting (layer : FenceLayer) (host : FenceHost) : List Place → FenceLayer × List FenceEvent
  | [] => (layer, [])
  | place :: rest =>
      let first := if layer.waits place then layer.emitSlot place (host.sent place) else (layer, [])
      let others := emitWaiting first.1 host rest
      (others.1, others.2 ++ first.2)

/-! ## Presents -/

def findSwap (layer : FenceLayer) (handle : Nat) : Option (Fin maxSwapchains) :=
  (List.finRange maxSwapchains).find? fun at_ => (layer.swaps at_).any (·.handle == handle)

/-- The first slot from the cursor on that is not busy. -/
def nextSlot (swap : FenceSwap) : Option (Fin ring) :=
  ((List.range ring).map fun n => Layer.wrap (swap.cursor + n)).find? fun index => !(swap.slots index).busy

/-- The copy is submitted. Its sync file is exported into the slot, whatever was there before. -/
def fill (layer : FenceLayer) (place : Place) (swap : FenceSwap) (host : FenceHost) :
    FenceLayer × List FenceEvent :=
  let old := swap.slots place.2
  let copied := { old with generation := old.generation + 1, busy := true, sent := false }
  let advanced := { layer with
    swaps := Function.update layer.swaps place.1 (some { swap with cursor := (place.2.val + 1) % ring }) }
  match host.fence with
  | .failed => (advanced.setSlot place copied, [])
  | .absent => (advanced.setSlot place { copied with fenceFd := none }, [])
  | .descriptor =>
      let exported := { advanced with nextFd := layer.nextFd + 1 }
      let fenced := exported.setSlot place { copied with fenceFd := some layer.nextFd }
      let emitted := fenced.emitSlot place (host.sent place)
      (emitted.1, emitted.2 ++ [.opened layer.nextFd])

/-- The capture of a present. Whatever is missing, the present itself goes through. -/
def capture (layer : FenceLayer) (handle image : Nat) (host : FenceHost) : FenceLayer × List FenceEvent :=
  match (layer.findSwap handle).bind fun at_ => (layer.swaps at_).map fun swap => (at_, swap) with
  | none => (layer, [])
  | some (at_, swap) =>
      if !swap.exportReady || swap.imageCount ≤ image then (layer, [])
      else
        match nextSlot swap with
        | none => (layer, [])
        | some index => if host.submitted then layer.fill (at_, index) swap host else (layer, [])

/-- `vkQueuePresentKHR` with the acknowledgements that wait in the socket. -/
def queuePresent (layer : FenceLayer) (acks : List SlotAck) (handle image : Nat) (host : FenceHost) :
    FenceLayer × List FenceEvent :=
  let emitted := (layer.drainAcks acks).emitWaiting host Layer.places
  if !host.plain then emitted
  else
    let captured := emitted.1.capture handle image host
    (captured.1, captured.2 ++ emitted.2)

/-! ## Swapchains -/

/-- The first free place is taken. Without one the swapchain is not captured. -/
def createSwapchain (layer : FenceLayer) (handle device imageCount : Nat) (exportReady : Bool) : FenceLayer :=
  match (List.finRange maxSwapchains).find? fun at_ => (layer.swaps at_).isNone with
  | none => layer
  | some at_ =>
      { layer with swaps := Function.update layer.swaps at_ (some { handle, device, imageCount, exportReady }) }

def releaseSlot (layer : FenceLayer) (place : Place) : FenceLayer × List FenceEvent :=
  match layer.slotAt place with
  | none => (layer, [])
  | some slot => (layer.setSlot place {}, slot.fenceFd.toList.map .closed)

def releaseSlots (layer : FenceLayer) (at_ : Fin maxSwapchains) : List (Fin ring) → FenceLayer × List FenceEvent
  | [] => (layer, [])
  | index :: rest =>
      let first := layer.releaseSlot (at_, index)
      let others := releaseSlots first.1 at_ rest
      (others.1, others.2 ++ first.2)

def releaseSwap (layer : FenceLayer) (at_ : Fin maxSwapchains) : FenceLayer × List FenceEvent :=
  let released := layer.releaseSlots at_ (List.finRange ring)
  ({ released.1 with swaps := Function.update released.1.swaps at_ none }, released.2)

def destroySwapchain (layer : FenceLayer) (handle : Nat) : FenceLayer × List FenceEvent :=
  match layer.findSwap handle with
  | none => (layer, [])
  | some at_ => layer.releaseSwap at_

def destroyDevice (layer : FenceLayer) (device : Nat) : List (Fin maxSwapchains) → FenceLayer × List FenceEvent
  | [] => (layer, [])
  | at_ :: rest =>
      let first := if (layer.swaps at_).any (·.device == device) then layer.releaseSwap at_ else (layer, [])
      let others := destroyDevice first.1 device rest
      (others.1, others.2 ++ first.2)

/-! ## Runs -/

inductive Call where
  | createSwapchain (handle device imageCount : Nat) (exportReady : Bool)
  | destroySwapchain (handle : Nat)
  | destroyDevice (device : Nat)
  | present (acks : List SlotAck) (handle image : Nat) (host : FenceHost)

def step : Transition.Step FenceLayer Call FenceEvent := fun layer call =>
  match call with
  | .createSwapchain handle device imageCount exportReady =>
      (layer.createSwapchain handle device imageCount exportReady, [])
  | .destroySwapchain handle => layer.destroySwapchain handle
  | .destroyDevice device => layer.destroyDevice device (List.finRange maxSwapchains)
  | .present acks handle image host => layer.queuePresent acks handle image host

abbrev Execution (allowed : Transition.Condition FenceLayer Call FenceEvent) : List FenceEvent → FenceLayer → Prop :=
  Transition.Run step allowed (· = {})

end FenceLayer

end Luma.Export.Vulkan
