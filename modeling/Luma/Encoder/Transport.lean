import Mathlib.Data.Fintype.Card
import Mathlib.Data.List.FinRange
import Luma.Encoder.Wire
import Luma.Library.RingQueue
import Luma.Library.Transition

/-! The transport of the native encoder: a pool of packets, the ring of those that wait
and the worker that writes them to the socket.

A call of `enqueue` finds out whether the transport is ready before it takes the lock,
and the worker holds no lock while it writes.
-/

set_option autoImplicit false

namespace Luma.Encoder

open Luma.Library

abbrev kQueueMax : Nat := 16

structure PacketSlot where
  bytes : List UInt8 := []
  inUse : Bool := false
  deriving DecidableEq, Repr

/-- What the worker does next. It leaves its loop on a stop, or after a write that failed. -/
inductive Worker where
  | starting
  | aborted
  | waiting
  | writing (slot : Fin kQueueMax)
  | releasing (slot : Fin kQueueMax) (written : Bool)
  | leaving (written : Bool)
  | closing (written : Bool)
  | ended (written : Bool)
  deriving DecidableEq, Repr

structure Transport where
  fps : UInt32
  slots : Fin kQueueMax → PacketSlot := fun _ => {}
  readySlots : RingQueue kQueueMax (Fin kQueueMax) := { slots := fun _ => 0, head := 0 }
  ready : Bool := false
  failed : Bool := false
  stop : Bool := false
  worker : Worker := .starting
  /-- The units of the calls of `enqueue` that have found the transport ready. -/
  entering : List EncodedUnit := []

inductive TransportEvent where
  | enqueued (packet : List UInt8)
  | refused (unit : EncodedUnit)
  | written (packet : List UInt8)
  | writeFailed (packet : List UInt8)
  | stopRequested
  | exited
  deriving DecidableEq, Repr

inductive TransportInput where
  | enqueue (unit : EncodedUnit)
  /-- The part of `enqueue` behind the lock, of one of the calls. -/
  | push (caller : Nat)
  /-- A turn of the worker, with whether the socket takes what it writes. -/
  | worker (succeeds : Bool)
  | stop
  deriving DecidableEq, Repr

namespace Transport

def freeSlot (self : Transport) : Option (Fin kQueueMax) :=
  (List.finRange kQueueMax).find? fun index => !(self.slots index).inUse

def setSlot (self : Transport) (index : Fin kQueueMax) (slot : PacketSlot) : Transport :=
  { self with slots := Function.update self.slots index slot }

/-- `enqueue` behind its lock, and whether it took the unit. -/
def push (self : Transport) (unit : EncodedUnit) : Transport × Bool :=
  if self.readySlots.count = kQueueMax then (self, false)
  else
    match self.freeSlot with
    | none => (self, false)
    | some index =>
        ({ self.setSlot index { bytes := packetBytes self.fps unit, inUse := true } with
            readySlots := self.readySlots.push index }, true)

def transportInFlight (self : Transport) : Nat := (List.finRange kQueueMax).countP fun index => (self.slots index).inUse

def canAdmit (self : Transport) (encoderInFlight : Nat) : Bool :=
  self.ready && self.transportInFlight + encoderInFlight < kQueueMax

/-- `enqueue` up to its lock. -/
def enter (self : Transport) (unit : EncodedUnit) : Transport × List TransportEvent :=
  if !self.ready || !decide unit.Fits then (self, [.refused unit])
  else ({ self with entering := self.entering ++ [unit] }, [])

def finishEnqueue (self : Transport) (caller : Nat) : Transport × List TransportEvent :=
  match self.entering[caller]? with
  | none => (self, [])
  | some unit =>
      let pushed := self.push unit
      ({ pushed.1 with entering := self.entering.eraseIdx caller },
        [if pushed.2 then .enqueued (packetBytes self.fps unit) else .refused unit])

/-- One turn of `transport_main`. -/
def work (self : Transport) (succeeds : Bool) : Transport × List TransportEvent :=
  match self.worker with
  | .starting =>
      -- The connection, the hello, the start and the packet pool.
      if succeeds then ({ self with ready := true, worker := .waiting }, [])
      else ({ self with failed := true, worker := .aborted }, [])
  | .waiting =>
      match self.readySlots.pop with
      | some (slot, rest) => ({ self with readySlots := rest, worker := .writing slot }, [])
      | none => if self.stop then ({ self with worker := .leaving true }, []) else (self, [])
  | .writing slot =>
      let packet := (self.slots slot).bytes
      ({ self with worker := .releasing slot succeeds },
        [if succeeds then .written packet else .writeFailed packet])
  | .releasing slot written =>
      ({ self.setSlot slot {} with worker := if written then .waiting else .leaving false }, [])
  -- Without the lock, so that an `enqueue` may still come in between.
  | .leaving written => ({ self with ready := false, worker := .closing written }, [])
  | .closing written => ({ self with failed := true, worker := .ended written }, [.exited])
  | .aborted | .ended _ => (self, [])

def step : Transition.Step Transport TransportInput TransportEvent := fun self input =>
  match input with
  | .enqueue unit => self.enter unit
  | .push caller => self.finishEnqueue caller
  | .worker succeeds => self.work succeeds
  | .stop => ({ self with stop := true }, [.stopRequested])

def initial (fps : UInt32) : Transport := { fps }

/-! ## The packets of the pool -/

/-- The slot whose packet the worker has in hand. -/
def held (self : Transport) : List (Fin kQueueMax) :=
  match self.worker with
  | .writing slot | .releasing slot _ => [slot]
  | _ => []

/-- The packets that wait, in the order of the ring. -/
def queued (self : Transport) : List (List UInt8) := self.readySlots.contents.map fun index => (self.slots index).bytes

def beingWritten (self : Transport) : List (List UInt8) :=
  match self.worker with
  | .writing slot => [(self.slots slot).bytes]
  | _ => []

/-- The slots in use are those in the worker's hand and in the ring, each once. -/
structure Pooled (transport : Transport) : Prop where
  distinct : (transport.held ++ transport.readySlots.contents).Nodup
  inUse : ∀ index, (transport.slots index).inUse = true ↔ index ∈ transport.held ++ transport.readySlots.contents

namespace Pooled

variable {self : Transport}

theorem inFlight (pooled : Pooled self) : self.transportInFlight = self.readySlots.count + self.held.length := by
  have members : ((List.finRange kQueueMax).filter fun index => (self.slots index).inUse).Perm
      (self.held ++ self.readySlots.contents) := by
    rw [List.perm_ext_iff_of_nodup ((List.nodup_finRange kQueueMax).filter _) pooled.distinct]
    intro index
    rw [List.mem_filter, pooled.inUse]
    exact ⟨And.right, fun member => ⟨List.mem_finRange index, member⟩⟩
  rw [transportInFlight, List.countP_eq_length_filter, members.length_eq, List.length_append,
    RingQueue.length_contents, Nat.add_comm]

theorem bounded (pooled : Pooled self) : self.transportInFlight ≤ kQueueMax := by
  have bound := pooled.distinct.length_le_card
  rw [List.length_append, RingQueue.length_contents, Fintype.card_fin] at bound
  rw [pooled.inFlight]
  omega

/-- While slots are left, the ring has space and one of them is found. -/
theorem push_accepts (pooled : Pooled self) (space : self.transportInFlight < kQueueMax) (unit : EncodedUnit) :
    ∃ index, (self.slots index).inUse = false ∧
      self.push unit = ({ self.setSlot index { bytes := packetBytes self.fps unit, inUse := true } with
        readySlots := self.readySlots.push index }, true) := by
  have room := pooled.inFlight
  unfold push
  rw [if_neg (by omega)]
  cases free : self.freeSlot with
  | some index =>
    have unused := List.find?_some free
    rw [Bool.not_eq_true'] at unused
    exact ⟨index, unused, rfl⟩
  | none =>
    have all := List.find?_eq_none.mp free
    have every : self.transportInFlight = (List.finRange kQueueMax).length := by
      rw [transportInFlight, List.countP_eq_length]
      intro index member
      simpa using all index member
    rw [List.length_finRange] at every
    omega

/-- A full pool takes nothing and stays as it is. -/
theorem push_refuses (pooled : Pooled self) (full : ¬self.transportInFlight < kQueueMax) (unit : EncodedUnit) :
    self.push unit = (self, false) := by
  have every : self.transportInFlight = (List.finRange kQueueMax).length := by
    rw [List.length_finRange]
    exact Nat.le_antisymm pooled.bounded (Nat.le_of_not_lt full)
  unfold push
  split
  · rfl
  · have none : self.freeSlot = none := by
      rw [transportInFlight, List.countP_eq_length] at every
      apply List.find?_eq_none.mpr
      intro index member
      simpa using every index member
    rw [none]

theorem of_same {after : Transport} (pooled : Pooled self) (held : after.held = self.held)
    (ring : after.readySlots = self.readySlots) (slots : after.slots = self.slots) : Pooled after := by
  obtain ⟨distinct, inUse⟩ := pooled
  constructor
  · rw [held, ring]
    exact distinct
  · rw [held, ring, slots]
    exact inUse

end Pooled

end Transport

end Luma.Encoder
