import Luma.Library.RingQueue
import Luma.Library.Transition
import Mathlib.Algebra.Group.Nat.Defs

/-! The worker that encodes captured frames, behind a pool of staging textures.

The import thread copies a frame into a free slot and queues its index. The worker has the encoder read the texture, and
the slot is free again once the fence behind that read is signalled. The threads take turns in any order, and the GPU
completes a read at any time.
-/

set_option autoImplicit false

namespace Luma.Export

open Luma.Library

/-- The staging frames for a rate and a size, by the limits of the environment. -/
def stagingSlotCount (width height fps bufferMs bufferMib : Nat) : Nat :=
  let byTime := (fps * bufferMs + 999) / 1000
  let byMemory := bufferMib * 2 ^ 20 / (width * height * 4)
  max 4 (min (min byTime byMemory) 256)

theorem four_le_stagingSlotCount (width height fps bufferMs bufferMib : Nat) :
    4 ≤ stagingSlotCount width height fps bufferMs bufferMib :=
  Nat.le_max_left ..

inductive StagingState where
  | free | queued | retiring
  deriving DecidableEq

/-- A frame of the game: the picture in its texture, and its time. -/
structure StagedFrame where
  source : Nat
  pts : Nat
  deriving DecidableEq

structure StagingSlot where
  state : StagingState := .free
  /-- The picture that was copied into the texture. -/
  texture : Nat := 0
  pts : Nat := 0
  /-- The fences behind the copy into the texture and behind the encoder's read of it. -/
  copied : Bool := false
  consumed : Bool := false
  /-- The GPU has not completed the encoder's read. -/
  reading : Bool := false
  deriving DecidableEq

def StagingSlot.frame (slot : StagingSlot) : StagedFrame := ⟨slot.texture, slot.pts⟩

/-- The import thread in `copy`, by its place in the code. -/
inductive Importer (capacity : Nat) where
  | idle
  | scanning (offset : Nat) (frame : StagedFrame)
  | copying (index : Fin capacity) (frame : StagedFrame)
  | publishing (index : Fin capacity) (frame : StagedFrame)
  | enqueueing (index : Fin capacity) (frame : StagedFrame)

/-- The worker, by its place in the code. -/
inductive Encoding (capacity : Nat) where
  | starting
  /-- There is no encoder, and no loop. -/
  | stopped
  | waiting
  | submitting (index : Fin capacity)
  | fencing (index : Fin capacity)
  | retiring (index : Fin capacity)
  | ended

structure EncodeWorker (capacity : Nat) where
  slots : Fin capacity → StagingSlot := fun _ => {}
  queue : RingQueue capacity (Fin capacity)
  scanNext : Nat := 0
  closing : Bool := false
  failed : Bool := false
  poolDrops : Nat := 0
  encoded : Nat := 0
  submitDrops : Nat := 0
  importer : Importer capacity := .idle
  worker : Encoding capacity := .starting

inductive StagingEvent (capacity : Nat) where
  | overwritten (index : Fin capacity)
  | accepted (frame : StagedFrame)
  /-- The branch of a full queue. -/
  | overflowed
  | submitted (index : Fin capacity) (frame : StagedFrame)
  /-- The GPU has completed the encoder's read of the texture. -/
  | completed (index : Fin capacity)
  deriving DecidableEq

/-- `glClientWaitSync` without a timeout. -/
inductive ClientWait where
  | signalled | expired | failed
  deriving DecidableEq

/-- What OpenGL answers the import thread, and whether it creates a fence. -/
structure ImportAnswer where
  wait : ClientWait := .signalled
  fence : Bool := true

structure EncodeAnswer where
  started : Bool := true
  submitted : Bool := true
  fence : Bool := true

inductive StagingTurn (capacity : Nat) where
  /-- `copy` is called for a frame, of the size of the slots or not. -/
  | copy (frame : StagedFrame) (sized : Bool)
  | importer (answer : ImportAnswer)
  | worker (answer : EncodeAnswer)
  | completed (index : Fin capacity)
  /-- `finish` closes the queue. -/
  | close

namespace EncodeWorker

variable {capacity : Nat}

def setSlot (self : EncodeWorker capacity) (index : Fin capacity) (slot : StagingSlot) : EncodeWorker capacity :=
  { self with slots := Function.update self.slots index slot }

/-! ## The import thread -/

/-- A slot of the pool, from the scan's start on. -/
def scanned (self : EncodeWorker capacity) (offset : Nat) : Fin capacity :=
  ⟨(self.scanNext + offset) % capacity, Nat.mod_lt _ self.queue.head.pos⟩

/-- A fence is not signalled before the read in front of it is complete. -/
def polled (slot : StagingSlot) (wait : ClientWait) : ClientWait :=
  if !slot.consumed then .signalled
  else if wait = .signalled ∧ slot.reading then .expired
  else wait

/-- Look at one slot. -/
def scan (self : EncodeWorker capacity) (offset : Nat) (frame : StagedFrame) (answer : ImportAnswer) :
    EncodeWorker capacity :=
  if capacity ≤ offset then { self with poolDrops := self.poolDrops + 1, importer := .idle }
  else
    let index := self.scanned offset
    let slot := self.slots index
    match slot.state with
    | .queued => { self with importer := .scanning (offset + 1) frame }
    | .free => { self with importer := .copying index frame }
    | .retiring =>
        match polled slot answer.wait with
        | .failed => { self with failed := true, importer := .idle }
        | .expired => { self with importer := .scanning (offset + 1) frame }
        | .signalled =>
            { self.setSlot index { slot with consumed := false, state := .free } with importer := .copying index frame }

def enqueue (self : EncodeWorker capacity) (index : Fin capacity) (frame : StagedFrame) :
    EncodeWorker capacity × List (StagingEvent capacity) :=
  if self.queue.count = capacity then ({ self with failed := true, importer := .idle }, [.overflowed])
  else
    ({ self with queue := self.queue.push index, scanNext := (index.val + 1) % capacity, importer := .idle },
      [.accepted frame])

def importStep (self : EncodeWorker capacity) (answer : ImportAnswer) :
    EncodeWorker capacity × List (StagingEvent capacity) :=
  match self.importer with
  | .idle => (self, [])
  | .scanning offset frame => (self.scan offset frame answer, [])
  | .copying index frame =>
      ({ self.setSlot index { self.slots index with texture := frame.source, copied := answer.fence } with
          importer := .publishing index frame }, [.overwritten index])
  | .publishing index frame =>
      ({ self.setSlot index { self.slots index with pts := frame.pts, state := .queued } with
          importer := .enqueueing index frame }, [])
  | .enqueueing index frame => self.enqueue index frame

/-! ## The worker -/

def receive (self : EncodeWorker capacity) : EncodeWorker capacity :=
  match self.queue.pop with
  | none => if self.closing then { self with worker := .ended } else self
  | some (index, queue) => { self with queue, worker := .submitting index }

def submit (self : EncodeWorker capacity) (index : Fin capacity) (submitted : Bool) : EncodeWorker capacity :=
  let submitting := { self.setSlot index { self.slots index with copied := false, reading := true } with
    worker := .fencing index }
  if submitted then { submitting with encoded := self.encoded + 1 }
  else { submitting with submitDrops := self.submitDrops + 1 }

/-- Without a fence the worker waits for the GPU itself. -/
def workerStep (self : EncodeWorker capacity) (answer : EncodeAnswer) :
    EncodeWorker capacity × List (StagingEvent capacity) :=
  match self.worker with
  | .starting =>
      if answer.started then ({ self with worker := .waiting }, [])
      else ({ self with failed := true, worker := .stopped }, [])
  | .waiting => (self.receive, [])
  | .submitting index => (self.submit index answer.submitted, [.submitted index (self.slots index).frame])
  | .fencing index =>
      if answer.fence then
        ({ self.setSlot index { self.slots index with consumed := true } with worker := .retiring index }, [])
      else
        ({ self.setSlot index { self.slots index with consumed := false, reading := false } with
          worker := .retiring index }, [.completed index])
  | .retiring index =>
      ({ self.setSlot index { self.slots index with state := .retiring } with worker := .waiting }, [])
  | .stopped | .ended => (self, [])

def complete (self : EncodeWorker capacity) (index : Fin capacity) :
    EncodeWorker capacity × List (StagingEvent capacity) :=
  if (self.slots index).reading then
    (self.setSlot index { self.slots index with reading := false }, [.completed index])
  else (self, [])

/-- The import thread calls one function at a time. -/
def step : Transition.Step (EncodeWorker capacity) (StagingTurn capacity) (StagingEvent capacity) := fun self turn =>
  match turn with
  | .copy frame sized =>
      match self.importer with
      | .idle =>
          if self.closing || self.failed || !sized then (self, [])
          else ({ self with importer := .scanning 0 frame }, [])
      | _ => (self, [])
  | .importer answer => self.importStep answer
  | .worker answer => self.workerStep answer
  | .completed index => self.complete index
  | .close =>
      match self.importer with
      | .idle => ({ self with closing := true }, [])
      | _ => (self, [])

def initial (positive : 0 < capacity) : EncodeWorker capacity where
  queue := { slots := fun _ => ⟨0, positive⟩, head := ⟨0, positive⟩ }

abbrev Execution (positive : 0 < capacity) : List (StagingEvent capacity) → EncodeWorker capacity → Prop :=
  Transition.Run step Transition.unrestricted (· = initial positive)

end EncodeWorker

end Luma.Export
