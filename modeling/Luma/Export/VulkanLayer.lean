import Mathlib.Data.Fin.Basic
import Mathlib.Data.List.FinRange
import Mathlib.Logic.Function.Basic
import Luma.Library.Transition

/-! The Vulkan present layer: a ring of exported images for each swapchain, filled at
presents and freed by the acknowledgements that all swapchains of the process
receive on one socket.

An acknowledgement on its way is kept as the export it is for; the layer sees its
slot and its generation only. The socket is open: without it the layer does nothing.
-/

set_option autoImplicit false

namespace Luma.Export.Vulkan

open Luma.Library

abbrev maxSwapchains : Nat := 16

abbrev ring : Nat := 4

structure CaptureSlot where
  generation : Nat := 0
  /-- A sync file of the last copy waits to be sent. -/
  fence : Bool := false
  busy : Bool := false
  sent : Bool := false
  deriving DecidableEq, Repr

structure SwapchainEntry where
  handle : Nat
  identity : Nat
  imageCount : Nat
  exportReady : Bool
  slots : Fin ring → CaptureSlot := fun _ => {}
  cursor : Nat := 0

/-- What the layer keeps; a place without a swapchain is free. -/
structure Layer where
  swaps : Fin maxSwapchains → Option SwapchainEntry := fun _ => none
  nextIdentity : Nat := 1

/-- An image handed to the receiver. -/
structure Export where
  identity : Nat
  slot : Fin ring
  generation : Nat
  deriving DecidableEq, Repr

/-- What the slot exports, or exported last. -/
def SwapchainEntry.current (entry : SwapchainEntry) (index : Fin ring) : Export :=
  { identity := entry.identity, slot := index, generation := (entry.slots index).generation }

inductive Event where
  /-- The slot that held the first export is marked free by the acknowledgement of the second. -/
  | freed (current acknowledged : Export)
  | overwritten (identity : Nat) (slot : Fin ring)
  | exported (sent : Export)
  /-- The receiver has read the image and acknowledges it. -/
  | acknowledged (read : Export)
  deriving DecidableEq, Repr

/-- What the driver and the socket answer during one present. -/
structure PresentHost where
  /-- Present info with one swapchain and few enough semaphores. -/
  plain : Bool := true
  submitted : Bool := true
  fenceExported : Bool := true
  sent : Fin maxSwapchains → Fin ring → Bool := fun _ _ => true

namespace Layer

def setSwap (layer : Layer) (place : Fin maxSwapchains) (entry : Option SwapchainEntry) : Layer :=
  { layer with swaps := Function.update layer.swaps place entry }

@[simp] theorem setSwap_same (layer : Layer) (place : Fin maxSwapchains) (entry : Option SwapchainEntry) :
    (layer.setSwap place entry).swaps place = entry := by
  simp [setSwap]

theorem setSwap_other {layer : Layer} {place other : Fin maxSwapchains} (entry : Option SwapchainEntry)
    (differs : other ≠ place) : (layer.setSwap place entry).swaps other = layer.swaps other := by
  simp [setSwap, differs]

def setSlot (layer : Layer) (place : Fin maxSwapchains) (entry : SwapchainEntry) (index : Fin ring)
    (slot : CaptureSlot) : Layer :=
  layer.setSwap place (some { entry with slots := Function.update entry.slots index slot })

/-! ## Acknowledgements -/

/-- The test of `drain_acks`, for the slot that the acknowledgement names. -/
def hits (entry : SwapchainEntry) (ack : Export) : Bool :=
  (entry.slots ack.slot).busy && (entry.slots ack.slot).generation == ack.generation

def freeSlot (entry : SwapchainEntry) (ack : Export) : SwapchainEntry :=
  let slot := { entry.slots ack.slot with busy := false, sent := false }
  if hits entry ack then { entry with slots := Function.update entry.slots ack.slot slot } else entry

/-- What the acknowledgement frees in one swapchain. -/
def freed (ack : Export) (entry : SwapchainEntry) : Option Event :=
  if hits entry ack then some (.freed (entry.current ack.slot) ack) else none

/-- An acknowledgement is looked up in every swapchain. -/
def readAck (layer : Layer) (ack : Export) : Layer × List Event :=
  ({ layer with swaps := fun place => (layer.swaps place).map fun entry => freeSlot entry ack },
    (List.finRange maxSwapchains).filterMap fun place => (layer.swaps place).bind (freed ack))

def drainAcks (layer : Layer) : List Export → Layer × List Event
  | [] => (layer, [])
  | ack :: acks =>
      let first := layer.readAck ack
      let rest := drainAcks first.1 acks
      (rest.1, rest.2 ++ first.2)

/-! ## Exports -/

/-- Send the slot's message, if its sync file is there. A message that does not leave is tried again. -/
def emitSlot (layer : Layer) (place : Fin maxSwapchains) (index : Fin ring) (leaves : Bool) : Layer × List Event :=
  match layer.swaps place with
  | none => (layer, [])
  | some entry =>
      let slot := entry.slots index
      if slot.fence && leaves then
        (layer.setSlot place entry index { slot with fence := false, sent := true },
          [.exported (entry.current index)])
      else (layer, [])

def waiting (layer : Layer) (place : Fin maxSwapchains) (index : Fin ring) : Bool :=
  (layer.swaps place).any fun entry => (entry.slots index).busy && !(entry.slots index).sent

/-- Every place of every ring. -/
def places : List (Fin maxSwapchains × Fin ring) :=
  (List.finRange maxSwapchains).flatMap fun place => (List.finRange ring).map fun index => (place, index)

/-- Messages that did not leave at an earlier present. -/
def emitWaiting (layer : Layer) (host : PresentHost) : List (Fin maxSwapchains × Fin ring) → Layer × List Event
  | [] => (layer, [])
  | (place, index) :: rest =>
      let first := if layer.waiting place index then layer.emitSlot place index (host.sent place index) else (layer, [])
      let others := emitWaiting first.1 host rest
      (others.1, others.2 ++ first.2)

/-! ## Presents -/

def findSwap (layer : Layer) (handle : Nat) : Option (Fin maxSwapchains) :=
  (List.finRange maxSwapchains).find? fun place => (layer.swaps place).any (·.handle == handle)

def wrap (index : Nat) : Fin ring := ⟨index % ring, Nat.mod_lt _ (by decide)⟩

/-- The first slot from the cursor on that is not busy. -/
def nextSlot (entry : SwapchainEntry) : Option (Fin ring) :=
  ((List.range ring).map fun n => wrap (entry.cursor + n)).find? fun index => !(entry.slots index).busy

/-- Copy the presented image into the slot and send it. -/
def fill (layer : Layer) (place : Fin maxSwapchains) (entry : SwapchainEntry) (index : Fin ring) (host : PresentHost) :
    Layer × List Event :=
  let slot := entry.slots index
  let copied : CaptureSlot := {
    -- An export that fails keeps the sync file of before, if there is one.
    generation := slot.generation + 1, fence := slot.fence || host.fenceExported, busy := true, sent := false }
  let filled := { entry with
    cursor := (index.val + 1) % ring
    slots := Function.update entry.slots index copied }
  let layer := layer.setSwap place (some filled)
  let written := [Event.overwritten entry.identity index]
  if host.fenceExported then
    let emitted := layer.emitSlot place index (host.sent place index)
    (emitted.1, emitted.2 ++ written)
  else (layer, written)

/-- The capture of a present. Whatever is missing, the present itself goes through. -/
def capture (layer : Layer) (handle image : Nat) (host : PresentHost) : Layer × List Event :=
  match (layer.findSwap handle).bind fun place => (layer.swaps place).map fun entry => (place, entry) with
  | none => (layer, [])
  | some (place, entry) =>
      if !entry.exportReady || entry.imageCount ≤ image then (layer, [])
      else
        match nextSlot entry with
        | none => (layer, [])
        -- A submission that fails leaves the slot as free as it was.
        | some index => if host.submitted then layer.fill place entry index host else (layer, [])

/-- `vkQueuePresentKHR` with the acknowledgements that wait in the socket. -/
def queuePresent (layer : Layer) (acks : List Export) (handle image : Nat) (host : PresentHost) :
    Layer × List Event :=
  let drained := layer.drainAcks acks
  let emitted := drained.1.emitWaiting host places
  if !host.plain then (emitted.1, emitted.2 ++ drained.2)
  else
    let captured := emitted.1.capture handle image host
    (captured.1, captured.2 ++ (emitted.2 ++ drained.2))

/-- The first free place is taken. Without one the swapchain is not captured. -/
def createSwapchain (layer : Layer) (handle imageCount : Nat) (exportReady : Bool) : Layer :=
  match (List.finRange maxSwapchains).find? fun place => (layer.swaps place).isNone with
  | none => layer
  | some place =>
      { layer.setSwap place (some { handle, identity := layer.nextIdentity, imageCount, exportReady }) with
        nextIdentity := layer.nextIdentity + 1 }

def destroySwapchain (layer : Layer) (handle : Nat) : Layer :=
  match layer.findSwap handle with
  | none => layer
  | some place => layer.setSwap place none

end Layer

/-! ## The layer and the receiver of its images -/

structure World where
  layer : Layer := {}
  /-- Exports that the receiver has not acknowledged, the newest first. -/
  reading : List Export := []
  /-- Acknowledgements in the layer's socket. -/
  acks : List Export := []

inductive Input where
  | createSwapchain (handle imageCount : Nat) (exportReady : Bool)
  | destroySwapchain (handle : Nat)
  | present (handle image : Nat) (host : PresentHost)
  /-- The receiver is done with an image. Its acknowledgement may be lost. -/
  | acknowledge (read : Export) (delivered : Bool)

/-- The images that the receiver reads after further events, the newest first. -/
def stillRead : List Event → List Export → List Export
  | [], reading => reading
  | .exported sent :: earlier, reading => sent :: stillRead earlier reading
  | .acknowledged read :: earlier, reading => (stillRead earlier reading).erase read
  | .freed _ _ :: earlier, reading | .overwritten _ _ :: earlier, reading => stillRead earlier reading

theorem stillRead_append (later earlier : List Event) (reading : List Export) :
    stillRead (later ++ earlier) reading = stillRead later (stillRead earlier reading) := by
  induction later with
  | nil => rfl
  | cons event later ih =>
    cases event with
    | exported sent => rw [List.cons_append, stillRead, stillRead, ih]
    | acknowledged read => rw [List.cons_append, stillRead, stillRead, ih]
    | freed current acknowledged => rw [List.cons_append, stillRead, stillRead, ih]
    | overwritten identity slot => rw [List.cons_append, stillRead, stillRead, ih]

namespace World

def step : Transition.Step World Input Event := fun world input =>
  match input with
  | .createSwapchain handle imageCount exportReady =>
      ({ world with layer := world.layer.createSwapchain handle imageCount exportReady }, [])
  -- The receiver may still read what the swapchain exported.
  | .destroySwapchain handle => ({ world with layer := world.layer.destroySwapchain handle }, [])
  | .present handle image host =>
      let presented := world.layer.queuePresent world.acks handle image host
      ({ layer := presented.1, reading := stillRead presented.2 world.reading, acks := [] }, presented.2)
  | .acknowledge read delivered =>
      if world.reading.contains read then
        ({ world with
            reading := world.reading.erase read
            acks := if delivered then world.acks ++ [read] else world.acks }, [.acknowledged read])
      else (world, [])

abbrev Execution (allowed : Transition.Condition World Input Event) : List Event → World → Prop :=
  Transition.Run step allowed (· = {})

end World

end Luma.Export.Vulkan
