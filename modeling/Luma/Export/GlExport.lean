import Mathlib.Data.Fin.Basic
import Mathlib.Data.List.FinRange
import Mathlib.Logic.Function.Basic
import Luma.Library.Transition

/-! The game's side of the OpenGL capture: four textures that are copied into,
exported over a datagram socket and acknowledged by the receiver.

Copies complete on the GPU in their own time, so what a poll of a fence says is
part of each call, as is what the socket does with a message.
-/

set_option autoImplicit false

namespace Luma.Export

open Luma.Library

abbrev kSlots : Nat := 4

def ackMagic : Nat := 0x4c564b41

def protocolVersion : Nat := 3

def ackMessageSize : Nat := 24

/-- A datagram from the socket, with the length `recv` reports for it. -/
structure AckMessage where
  received : Nat := ackMessageSize
  magic : Nat := ackMagic
  version : Nat := protocolVersion
  size : Nat := ackMessageSize
  generation : Nat
  slot : Nat
  deriving DecidableEq, Repr

namespace AckMessage

def valid (ack : AckMessage) : Bool :=
  ack.received == ackMessageSize && ack.magic == ackMagic && ack.version == protocolVersion &&
    ack.size == ackMessageSize

end AckMessage

structure Slot where
  /-- The semaphore carries a signal of this side. -/
  needsAcquire : Bool := false
  /-- Counts copies; the source's 64-bit counter does not wrap in any real run. -/
  generation : Nat := 0
  pts : Nat := 0
  /-- The fence of a copy that is still to be sent. -/
  fence : Bool := false
  sent : Bool := false
  deriving DecidableEq, Repr

structure NvencDirect where
  width : Nat
  height : Nat
  interval : Nat
  stream : Nat := 0
  slots : Fin kSlots → Slot := fun _ => {}
  due : Nat := 0
  sequence : Nat := 0
  copied : Nat := 0
  dropped : Nat := 0
  probeDue : Nat := 0
  stopped : Bool := false
  /-- Datagrams that wait in the socket. -/
  inbox : List AckMessage := []

/-- What `glClientWaitSync` answers. -/
inductive FenceStatus where
  | expired | signaled | failed
  deriving DecidableEq, Repr

/-- Whether a message left and, if not, whether the receiver is gone. -/
inductive SendOutcome where
  | sent
  | refused (gone : Bool)
  deriving DecidableEq, Repr

structure GpuHost where
  fence : Fin kSlots → FenceStatus := fun _ => .expired
  send : Fin kSlots → SendOutcome := fun _ => .sent
  fenceCreated : Bool := true
  probe : SendOutcome := .sent

inductive Event where
  | presented (pts : Nat)
  /-- A well-formed acknowledgement was read. -/
  | acked (slot : Fin kSlots) (generation : Nat)
  /-- The game's queue waits for the slot's semaphore. -/
  | acquired (slot : Fin kSlots)
  | overwritten (slot : Fin kSlots)
  /-- The game's queue signals the slot's semaphore. -/
  | released (slot : Fin kSlots)
  | copied (slot : Fin kSlots) (generation pts : Nat)
  | exported (slot : Fin kSlots) (generation pts : Nat)
  | sendFailed (slot : Fin kSlots) (generation : Nat)
  deriving DecidableEq, Repr

inductive Input where
  | arrive (ack : AckMessage)
  | submit (width height pts : Nat) (host : GpuHost)
  | requestStop

namespace NvencDirect

def setSlot (state : NvencDirect) (index : Fin kSlots) (slot : Slot) : NvencDirect :=
  { state with slots := Function.update state.slots index slot }

@[simp] theorem setSlot_same (state : NvencDirect) (index : Fin kSlots) (slot : Slot) :
    (state.setSlot index slot).slots index = slot := by
  simp [setSlot]

theorem setSlot_other {state : NvencDirect} {index other : Fin kSlots} (slot : Slot) (differs : other ≠ index) :
    (state.setSlot index slot).slots other = state.slots other := by
  simp [setSlot, differs]

@[simp] theorem setSlot_sequence (state : NvencDirect) (index : Fin kSlots) (slot : Slot) :
    (state.setSlot index slot).sequence = state.sequence := rfl

def stop (state : NvencDirect) : NvencDirect := { state with stopped := true }

@[simp] theorem stop_slots (state : NvencDirect) : state.stop.slots = state.slots := rfl

@[simp] theorem stop_sequence (state : NvencDirect) : state.stop.sequence = state.sequence := rfl

/-! ## Acknowledgements -/

/-- One datagram: a slot that waits for exactly this generation is free again. -/
def acknowledge (state : NvencDirect) (ack : AckMessage) : NvencDirect × List Event :=
  if ack.valid then
    if inside : ack.slot < kSlots then
      let index : Fin kSlots := ⟨ack.slot, inside⟩
      let slot := state.slots index
      -- An acknowledgement of an older copy of the slot frees nothing.
      let state := if slot.sent && slot.generation == ack.generation then
        state.setSlot index { slot with sent := false } else state
      (state, [.acked index ack.generation])
    else (state, [])
  else (state, [])

def acknowledgeAll (state : NvencDirect) : List AckMessage → NvencDirect × List Event
  | [] => (state, [])
  | ack :: acks =>
      let first := state.acknowledge ack
      let rest := acknowledgeAll first.1 acks
      (rest.1, rest.2 ++ first.2)

/-- At most as many datagrams are read at once as there are slots. -/
def drainAcks (state : NvencDirect) : NvencDirect × List Event :=
  { state with inbox := state.inbox.drop kSlots }.acknowledgeAll (state.inbox.take kSlots)

/-! ## Exports -/

def older (state : NvencDirect) (best : Option (Fin kSlots)) (index : Fin kSlots) : Option (Fin kSlots) :=
  if (state.slots index).fence &&
      best.all (fun found => (state.slots index).generation < (state.slots found).generation)
  then some index else best

/-- The copy with the smallest generation among those still to be sent. -/
def nextToSend (state : NvencDirect) : Option (Fin kSlots) := (List.finRange kSlots).foldl state.older none

/-- The message for a completed copy. The fence goes whether or not it left. -/
def sendSlot (state : NvencDirect) (outcome : SendOutcome) (index : Fin kSlots) : NvencDirect × List Event :=
  let slot := state.slots index
  match outcome with
  | .sent =>
      (state.setSlot index { slot with sent := true, fence := false },
        [.exported index slot.generation slot.pts])
  | .refused gone =>
      let state := state.setSlot index { slot with sent := false, fence := false }
      (if gone then state.stop else state, [.sendFailed index slot.generation])

def sendCompleted (state : NvencDirect) (host : GpuHost) : Nat → NvencDirect × List Event
  | 0 => (state, [])
  | turns + 1 =>
      match state.nextToSend with
      | none => (state, [])
      | some index =>
          match host.fence index with
          -- A later copy does not overtake one that the GPU still works on.
          | .expired => (state, [])
          | .failed => (state.stop, [])
          | .signaled =>
              let first := state.sendSlot (host.send index) index
              let rest := sendCompleted first.1 host turns
              (rest.1, rest.2 ++ first.2)

def pump (state : NvencDirect) (host : GpuHost) : NvencDirect × List Event :=
  let drained := state.drainAcks
  let sent := drained.1.sendCompleted host kSlots
  (sent.1, sent.2 ++ drained.2)

/-! ## Presents -/

/-- `luma_capture_due`: whether a capture is due, and the next deadline. -/
def captureDue (now interval due : Nat) : Bool × Nat :=
  if interval = 0 ∨ now < due then (false, due)
  -- The first capture starts the schedule.
  else if due = 0 then (true, now + interval)
  else (true, due + ((now - due) / interval + 1) * interval)

def setDue (state : NvencDirect) (due : Nat) : NvencDirect := { state with due }

def freeSlot (state : NvencDirect) : Option (Fin kSlots) :=
  (List.finRange kSlots).find? fun index => !(state.slots index).fence && !(state.slots index).sent

/-- No slot is free: the frame is dropped, and once a second the receiver is probed. -/
def dropFrame (state : NvencDirect) (pts : Nat) (host : GpuHost) : NvencDirect :=
  let state := { state with dropped := state.dropped + 1 }
  if state.probeDue ≤ pts then
    let state := { state with probeDue := pts + 1000000000 }
    match host.probe with
    | .refused true => state.stop
    | _ => state
  else state

/-- The commands of a copy: a signal of this side that nobody waited for is taken back first. -/
def written (state : NvencDirect) (index : Fin kSlots) : List Event :=
  .released index :: .overwritten index :: if (state.slots index).needsAcquire then [.acquired index] else []

/-- Without a fence for the copy the capture ends. -/
def spoil (state : NvencDirect) (index : Fin kSlots) : NvencDirect :=
  (state.setSlot index { state.slots index with needsAcquire := true }).stop

def noteCopy (state : NvencDirect) (index : Fin kSlots) (pts : Nat) : NvencDirect :=
  let generation := state.sequence + 1
  { state.setSlot index { state.slots index with needsAcquire := true, fence := true, generation, pts } with
    sequence := generation
    copied := state.copied + 1 }

theorem noteCopy_same (state : NvencDirect) (index : Fin kSlots) (pts : Nat) :
    (state.noteCopy index pts).slots index =
      { state.slots index with needsAcquire := true, fence := true, generation := state.sequence + 1, pts } :=
  state.setSlot_same index _

theorem noteCopy_other {state : NvencDirect} {index other : Fin kSlots} (pts : Nat) (differs : other ≠ index) :
    (state.noteCopy index pts).slots other = state.slots other := setSlot_other _ differs

/-- Copy the frame into a free slot. -/
def copyInto (state : NvencDirect) (index : Fin kSlots) (pts : Nat) (host : GpuHost) : NvencDirect × List Event :=
  if !host.fenceCreated then (state.spoil index, state.written index)
  else (state.noteCopy index pts, .copied index (state.sequence + 1) pts :: state.written index)

/-- What follows the pump once a capture is due. -/
def capture (state : NvencDirect) (pts : Nat) (host : GpuHost) : NvencDirect × List Event :=
  match state.freeSlot with
  | none => (state.dropFrame pts host, [])
  | some index => state.copyInto index pts host

def submitAsync (state : NvencDirect) (width height pts : Nat) (host : GpuHost) : NvencDirect × List Event :=
  if state.stopped then (state, [])
  else if width ≠ state.width ∨ height ≠ state.height then (state.stop, [])
  else
    let pumped := state.pump host
    let due := captureDue pts state.interval pumped.1.due
    -- A pump that stops the capture leaves the deadline alone.
    if pumped.1.stopped then pumped
    else
      let state := pumped.1.setDue due.2
      if !due.1 then (state, pumped.2)
      else
        let captured := state.capture pts host
        (captured.1, captured.2 ++ pumped.2)

def step : Transition.Step NvencDirect Input Event := fun state input =>
  match input with
  | .arrive ack => ({ state with inbox := state.inbox ++ [ack] }, [])
  | .submit width height pts host =>
      let submitted := state.submitAsync width height pts host
      (submitted.1, submitted.2 ++ [.presented pts])
  | .requestStop => (state.stop, [])

/-- The pool as it is set up. -/
def Created (state : NvencDirect) : Prop :=
  ∃ width height interval stream, state = { width, height, interval, stream }

abbrev Execution : List Event → NvencDirect → Prop := Transition.Run step Transition.unrestricted Created

end NvencDirect

end Luma.Export
