import Luma.Encoder.Pacing
import Luma.Encoder.Transport

/-! The direct encoder: the thread that submits frames, the one that collects their
bitstreams and the one that writes them.

A turn makes at most one call or one access to what the threads share. The driver, the
clock and the outside choose the answers. In `synchronous` mode `poll` runs on the
submitting thread, which then waits in the model for the turns of the collector.
-/

set_option autoImplicit false

namespace Luma.Encoder

open Luma.Library

abbrev kSlots : Nat := 12

def kCollectorLead : Nat := kSlots - 1

structure Slot where
  mapped : Bool := false
  busy : Bool := false
  harvested : Bool := true
  copyFence : Bool := false
  copyPtsNs : UInt64 := 0
  copyPending : Bool := false
  /-- The number of the copy that the texture holds. -/
  texture : Nat := 0
  /-- The picture whose encoding the bitstream is for, with its timestamp. -/
  bitstream : Nat × UInt64 := (0, 0)
  deriving DecidableEq, Repr

/-- How the encoder was set up: with neither worker, with `luma_nvenc_direct_start_output_worker`
or with `luma_nvenc_direct_start_harvest_worker`. -/
inductive Mode where
  | synchronous
  | outputWorker
  | harvestWorker
  deriving DecidableEq, Repr

structure Present where
  width : UInt32
  height : UInt32
  ptsNs : UInt64
  deriving DecidableEq, Repr

/-! ## What is outside -/

inductive WaitResult where
  | timeoutExpired
  | alreadySignaled
  | conditionSatisfied
  | waitFailed
  deriving DecidableEq, Repr

inductive EncodeResult where
  | success
  | needMoreInput
  | failed
  deriving DecidableEq, Repr

inductive LockResult where
  | success (bytes : List UInt8) (keyframe : Bool)
  | lockBusy
  | needMoreInput
  | failed
  deriving DecidableEq, Repr

/-- The answer to the call of one turn, which reads only its own part. -/
structure Answer where
  succeeds : Bool := true
  wait : WaitResult := .alreadySignaled
  encode : EncodeResult := .success
  lock : LockResult := .lockBusy
  mapEncodeNs : UInt64 := 0
  /-- The output has been waiting for longer than `collect_after`. -/
  overdue : Bool := false
  deriving DecidableEq, Repr

inductive DirectEvent where
  | presented (ptsNs : UInt64)
  | copied (slot : Fin kSlots) (frame : Nat) (ptsNs : UInt64)
  | mapped (slot : Fin kSlots)
  | encoded (slot : Fin kSlots) (frame : Nat) (ptsNs : UInt64) (forceIdr : Bool) (result : EncodeResult)
  | collected (slot : Fin kSlots)
  | handed (frame : Nat) (ptsNs : UInt64)
  | refused (unit : EncodedUnit) (ready : Bool)
  | harvested (slot : Fin kSlots)
  /-- A call of `nvEncUnmapInputResource`, whatever it returns. -/
  | unmapped (slot : Fin kSlots)
  /-- The teardown has come to the slot. -/
  | abandoned (slot : Fin kSlots)
  | disabled (stage : String)
  | returned (value : Bool)
  deriving DecidableEq, Repr

/-! ## The threads -/

/-- A flag that a thread looks at before it goes on. -/
inductive Check where
  | initialized
  | disabled
  | transportFailed
  | transportReady
  | stopRequested
  | tornDown
  | shutdownNow
  deriving DecidableEq, Repr

/-- A flag of a slot that is set when its picture is with the encoder. -/
inductive Mark where
  | busy
  | unharvested
  deriving DecidableEq, Repr

inductive Submitter where
  | idle
  | gating (present : Present) (checks : List Check)
  -- `encode_ready_copy`, and the same steps of `submit_framebuffer`.
  | readying (present : Present)
  | admitting (present : Present) (inFlight : Nat)
  | probing (present : Present)
  | mapping (present : Present)
  | encoding (present : Present)
  | marking (present : Present) (marks : List Mark)
  -- `luma_nvenc_direct_submit_async` after it.
  | rechecking (present : Present) (encoded : Bool)
  | claiming (present : Present) (encoded : Bool)
  | reclaiming (present : Present) (encoded : Bool)
  | unmapping (present : Present) (encoded : Bool)
  | freeing (present : Present) (encoded : Bool)
  | copying (present : Present) (encoded : Bool)
  -- `submit_framebuffer` before its copy.
  | polling (present : Present)
  | waiting (present : Present) (checks : List Check)
  | counting (present : Present)
  | testing (present : Present) (inFlight : Nat)
  | blitting (present : Present)
  -- `luma_nvenc_direct_finish_on_gl_thread`.
  | finishing (tries : Nat)
  | finishPolling (tries : Nat)
  | joiningOutput
  | stoppingTransport
  | joiningTransport
  | releasing (index : Nat)
  deriving DecidableEq, Repr

/-- Where `poll_harvest` or `poll` is. The latter has no limit. -/
inductive Harvest where
  | testing (limit : Option Nat)
  | verifying (limit : Option Nat) (slot : Fin kSlots)
  | locking (limit : Option Nat) (slot : Fin kSlots)
  | entering (limit : Option Nat) (slot : Fin kSlots) (unit : EncodedUnit)
  | pushing (limit : Option Nat) (slot : Fin kSlots) (unit : EncodedUnit)
  | unlocking (limit : Option Nat) (slot : Fin kSlots) (enqueued : Bool)
  | unmapping (limit : Option Nat) (slot : Fin kSlots) (unlocked enqueued : Bool)
  | marking (limit : Option Nat) (slot : Fin kSlots)
  | advancing (limit : Option Nat) (slot : Fin kSlots)
  | freeing (limit : Option Nat) (slot : Fin kSlots)
  deriving DecidableEq, Repr

inductive Collector where
  | absent
  | starting
  | looping (checks : List Check)
  | deciding
  | harvesting (draining : Bool) (call : Harvest)
  | drainCheck
  | stopping
  | joining
  | releasing (index : Nat)
  | closing
  | ended
  deriving DecidableEq, Repr

structure Direct where
  mode : Mode
  width : UInt32
  height : UInt32
  pacing : Pacing
  slots : Fin kSlots → Slot := fun _ => {}
  submitted : RingQueue kSlots (Fin kSlots) := { slots := fun _ => 0, head := 0 }
  next : Fin kSlots := 0
  copyNext : Fin kSlots := 0
  encodeNext : Fin kSlots := 0
  initialized : Bool := true
  firstFrame : Bool := true
  disabled : Bool := false
  stopRequested : Bool := false
  shutdownNow : Bool := false
  cleanupStarted : Bool := false
  tornDown : Bool := false
  transport : Transport
  submitter : Submitter := .idle
  collector : Collector
  /-- The copies made so far. -/
  copies : Nat := 0

/-- A flag that another thread sets in `luma_nvenc_direct_request_stop` or
`luma_nvenc_direct_notify_unload`. -/
inductive Flag where
  | disabled
  | stopRequested
  | shutdownNow
  deriving DecidableEq, Repr

inductive DirectInput where
  | submit (present : Present)
  | submitter (answer : Answer)
  | collector (answer : Answer)
  | transport (succeeds : Bool)
  | stopTransport
  | raise (flag : Flag)
  | finish
  deriving DecidableEq, Repr

/-- A join of the transport's thread returns. -/
def Worker.gone : Worker → Bool
  | .aborted | .ended _ => true
  | _ => false

namespace Direct

/-- A state with what it makes seen, newest first. -/
abbrev Outcome := Direct × List DirectEvent

def setSlot (self : Direct) (index : Fin kSlots) (slot : Slot) : Direct :=
  { self with slots := Function.update self.slots index slot }

def passes (self : Direct) : Check → Bool
  | .initialized => self.initialized
  | .disabled => !self.disabled
  | .transportFailed => !self.transport.failed
  | .transportReady => self.transport.ready
  | .stopRequested => !self.stopRequested
  | .tornDown => !self.tornDown
  | .shutdownNow => !self.shutdownNow

def disable (self : Direct) (stage : String) : Outcome := ({ self with disabled := true }, [.disabled stage])

def submitterAt (self : Direct) (submitter : Submitter) : Outcome := ({ self with submitter }, [])

/-- The end of a call of the submitting thread, after what the call has just done. -/
def returns (value : Bool) (before : Outcome) : Outcome :=
  ({ before.1 with submitter := .idle }, .returned value :: before.2)

/-! ## Submission -/

/-- The slot that is encoded next. -/
def encodeSlot (self : Direct) : Fin kSlots :=
  match self.mode with
  | .harvestWorker => self.encodeNext
  | .synchronous | .outputWorker => self.next

/-- A submission that has failed. `luma_nvenc_direct_submit_async` looks at `disabled` first. -/
def submissionFailed (present : Present) (before : Outcome) : Outcome :=
  match before.1.mode with
  | .harvestWorker => ({ before.1 with submitter := .rechecking present false }, before.2)
  | .synchronous | .outputWorker => returns false before

def asyncGates : List Check :=
  [.initialized, .disabled, .transportFailed, .transportReady, .stopRequested, .tornDown]

def framebufferGates : List Check := [.initialized, .disabled, .transportFailed, .transportReady]

def waitGates : List Check := [.disabled, .stopRequested, .transportFailed]

/-- The beginning of a submission, up to the first look at the encoder's own work. -/
def gate (self : Direct) (present : Present) : List Check → Outcome
  | check :: checks =>
      if self.passes check then self.submitterAt (.gating present checks) else returns false (self, [])
  | [] =>
      if present.width % 2 ≠ 0 ∨ present.height % 2 ≠ 0 ∨ present.width ≠ self.width ∨
          present.height ≠ self.height then
        returns false (self.disable "present surface resized (capture resolution is fixed)")
      else
        match self.mode with
        | .harvestWorker => self.submitterAt (.readying present)
        | .outputWorker => self.submitterAt (.waiting present waitGates)
        | .synchronous =>
            match self.pacing.dueInPhase present.ptsNs with
            | none => returns false (self, [])
            | some pacing =>
                ({ self with
                    pacing
                    submitter := .polling present
                    collector := .harvesting false (.testing none) }, [])

/-- The conditions of `encode_ready_copy` before it asks the transport. -/
def ready (self : Direct) (present : Present) : Outcome :=
  if !(self.slots self.encodeNext).copyPending then self.submitterAt (.rechecking present false)
  else if self.pacing.nextEncodeNs ≠ 0 ∧ present.ptsNs < self.pacing.nextEncodeNs then
    self.submitterAt (.rechecking present false)
  else if self.submitted.count ≥ kSlots then self.submitterAt (.rechecking present false)
  else self.submitterAt (.admitting present self.submitted.count)

/-- The answer of `can_admit` to the number of submissions that was read before. -/
def admission (self : Direct) (present : Present) (inFlight : Nat) : Outcome :=
  let admitted := self.transport.canAdmit inFlight
  match self.mode with
  | .harvestWorker => self.submitterAt (if admitted then .probing present else .rechecking present false)
  | .outputWorker => self.submitterAt (if admitted then .blitting present else .waiting present waitGates)
  | .synchronous =>
      if !admitted || (self.slots self.next).busy || inFlight ≥ kSlots then returns false (self, [])
      else self.submitterAt (.blitting present)

def probe (self : Direct) (present : Present) : WaitResult → Outcome
  | .timeoutExpired => self.submitterAt (.rechecking present false)
  | .waitFailed => submissionFailed present (self.disable "OpenGL copy fence wait")
  | .alreadySignaled | .conditionSatisfied =>
      let slot := self.slots self.encodeNext
      (self.setSlot self.encodeNext { slot with copyFence := false }).submitterAt (.mapping present)

def map (self : Direct) (present : Present) (succeeds : Bool) : Outcome :=
  let index := self.encodeSlot
  let slot := self.slots index
  if succeeds then
    ({ self.setSlot index { slot with mapped := true } with submitter := .encoding present }, [.mapped index])
  else
    submissionFailed present
      ((self.setSlot index { slot with copyPending := false }).disable "NvEncMapInputResource")

/-- The timestamp that the encoder is given. -/
def inputTimeStamp (self : Direct) (present : Present) : UInt64 :=
  match self.mode with
  | .harvestWorker => (self.slots self.encodeNext).copyPtsNs
  | .synchronous | .outputWorker => present.ptsNs

/-- The flags of the slot in the order in which the path sets them. -/
def marks : Mode → List Mark
  | .harvestWorker => [.busy, .unharvested]
  | .synchronous | .outputWorker => [.unharvested, .busy]

def encode (self : Direct) (present : Present) (answer : Answer) : Outcome :=
  let index := self.encodeSlot
  let slot := self.slots index
  let stamp := self.inputTimeStamp present
  let call := DirectEvent.encoded index slot.texture stamp self.firstFrame answer.encode
  match answer.encode with
  | .success =>
      let pacing :=
        match self.mode with
        | .harvestWorker => self.pacing.submitted present.ptsNs answer.mapEncodeNs
        | .synchronous | .outputWorker => self.pacing
      ({ self.setSlot index { slot with copyPending := false, bitstream := (slot.texture, stamp) } with
          pacing, submitter := .marking present (marks self.mode) }, [call])
  | .needMoreInput =>
      -- The encoder keeps the picture, and its slot stays mapped.
      let disabled := (self.setSlot index { slot with copyPending := false, bitstream := (slot.texture, stamp) }).disable
        "NvEncEncodePicture returned NEED_MORE_INPUT"
      submissionFailed present (disabled.1, disabled.2 ++ [call])
  | .failed =>
      let disabled := (self.setSlot index { slot with copyPending := false, mapped := false }).disable
        "NvEncEncodePicture"
      submissionFailed present (disabled.1, disabled.2 ++ [.unmapped index, call])

def mark (self : Direct) (present : Present) : List Mark → Outcome
  | .busy :: marks =>
      (self.setSlot self.encodeSlot { self.slots self.encodeSlot with busy := true }).submitterAt
        (.marking present marks)
  | .unharvested :: marks =>
      (self.setSlot self.encodeSlot { self.slots self.encodeSlot with harvested := false }).submitterAt
        (.marking present marks)
  | [] =>
      let submitted := { self with submitted := self.submitted.push self.encodeSlot, firstFrame := false }
      match self.mode with
      | .harvestWorker =>
          ({ submitted with encodeNext := self.encodeNext + 1 }).submitterAt (.rechecking present true)
      | .synchronous | .outputWorker => returns true ({ submitted with next := self.next + 1 }, [])

/-- What follows `encode_ready_copy`: whether the present is due, and the slot of its copy. -/
def recheck (self : Direct) (present : Present) (encoded : Bool) : Outcome :=
  if self.disabled then returns false (self, [])
  else
    match self.pacing.due present.ptsNs with
    | none => returns encoded (self, [])
    | some pacing =>
        if (self.slots self.copyNext).copyPending then
          returns encoded ({ self with pacing := pacing.recordAdmission true }, [])
        else ({ self with pacing, submitter := .claiming present encoded }, [])

def reclaim (self : Direct) (present : Present) (encoded : Bool) : Outcome :=
  if !(self.slots self.copyNext).harvested then
    returns encoded ({ self with pacing := self.pacing.recordAdmission true }, [])
  else self.submitterAt (.unmapping present encoded)

def unmapReclaimed (self : Direct) (present : Present) (encoded succeeds : Bool) : Outcome :=
  let slot := self.slots self.copyNext
  if !slot.mapped then self.submitterAt (.freeing present encoded)
  else
    let unmapped := self.setSlot self.copyNext { slot with mapped := false }
    if succeeds then ({ unmapped with submitter := .freeing present encoded }, [.unmapped self.copyNext])
    else
      let disabled := unmapped.disable "NvEncUnmapInputResource on reclaim"
      returns false (disabled.1, disabled.2 ++ [.unmapped self.copyNext])

def copy (self : Direct) (present : Present) (encoded succeeds : Bool) : Outcome :=
  let slot := { self.slots self.copyNext with texture := self.copies }
  let call := DirectEvent.copied self.copyNext self.copies present.ptsNs
  if succeeds then
    let pending := { slot with copyFence := true, copyPtsNs := present.ptsNs, copyPending := true }
    returns encoded ({ self.setSlot self.copyNext pending with
      copies := self.copies + 1, copyNext := self.copyNext + 1, pacing := self.pacing.recordAdmission false }, [call])
  else
    let disabled := ({ self.setSlot self.copyNext slot with copies := self.copies + 1 }).disable
      "create OpenGL copy fence"
    returns false (disabled.1, disabled.2 ++ [call])

/-- The wait of `submit_framebuffer` for the collector and the transport. -/
def wait (self : Direct) (present : Present) : List Check → Outcome
  | check :: checks =>
      if self.passes check then self.submitterAt (.waiting present checks) else returns false (self, [])
  | [] =>
      if self.submitted.count < kSlots then self.submitterAt (.testing present self.submitted.count)
      else self.submitterAt (.waiting present waitGates)

def blit (self : Direct) (present : Present) : Outcome :=
  ({ self.setSlot self.next { self.slots self.next with texture := self.copies } with
      copies := self.copies + 1, submitter := .mapping present },
    [.copied self.next self.copies present.ptsNs])

/-! ## Teardown -/

/-- One slot in the loop of `release_encoder_resources`. -/
def releaseSlot (self : Direct) (index : Fin kSlots) : Outcome :=
  let slot := self.slots index
  (self.setSlot index { slot with mapped := false, busy := false },
    (if slot.mapped then [.unmapped index] else []) ++ [.abandoned index])

/-- The rest of `release_encoder_resources`. -/
def releaseEncoder (self : Direct) : Direct :=
  { self with initialized := false, submitted := { self.submitted with count := 0 } }

def finishOnGlThread (self : Direct) : Outcome :=
  if self.cleanupStarted then (self, [])
  else
    let started := { self with cleanupStarted := true }
    match self.mode with
    -- Here the worker tears down.
    | .harvestWorker => (self, [])
    | .outputWorker => ({ started with disabled := true, stopRequested := true, submitter := .joiningOutput }, [])
    | .synchronous => ({ started with submitter := .finishing 2000 }, [])

/-- The loop of `luma_nvenc_direct_finish_on_gl_thread` over what was submitted. -/
def finishLoop (self : Direct) (tries : Nat) : Outcome :=
  if self.submitted.count = 0 ∨ tries = 0 then self.submitterAt .stoppingTransport
  else ({ self with submitter := .finishPolling tries, collector := .harvesting false (.testing none) }, [])

/-! ## Harvest -/

def collectorAt (self : Direct) (collector : Collector) : Outcome := ({ self with collector }, [])

def loopChecks : Mode → List Check
  | .harvestWorker => [.stopRequested, .disabled, .shutdownNow]
  | .synchronous | .outputWorker => [.stopRequested, .disabled]

/-- Where the caller of `poll_harvest` or `poll` goes on. -/
def harvestReturned (draining result : Bool) (before : Outcome) : Outcome :=
  let self := before.1
  match self.mode with
  | .harvestWorker =>
      let next := if draining then .stopping else if result then .looping (loopChecks self.mode) else .drainCheck
      ({ self with collector := next }, before.2)
  | .outputWorker =>
      let next := if draining || !result then .ended else .looping (loopChecks self.mode)
      ({ self with collector := next }, before.2)
  | .synchronous =>
      let self := { self with collector := .absent }
      match self.submitter with
      | .polling present =>
          if result then ({ self with submitter := .counting present }, before.2) else returns false (self, before.2)
      | .finishPolling tries =>
          ({ self with submitter := if result then .finishing (tries - 1) else .stoppingTransport }, before.2)
      | _ => (self, before.2)

/-- One turn of `poll_harvest`, or of `poll` in the synchronous mode. -/
def pollHarvest (self : Direct) (draining : Bool) (answer : Answer) : Harvest → Outcome
  | .testing limit =>
      match limit, self.submitted.pop with
      | some 0, _ | _, none => harvestReturned draining true (self, [])
      | limit, some (slot, _) => self.collectorAt (.harvesting draining (.verifying (limit.map (· - 1)) slot))
  | .verifying limit slot =>
      if (self.slots slot).busy then self.collectorAt (.harvesting draining (.locking limit slot))
      else harvestReturned draining false (self.disable "internal output ordering")
  | .locking limit slot =>
      match answer.lock with
      | .lockBusy => harvestReturned draining true (self, [])
      | .needMoreInput =>
          harvestReturned draining false (self.disable "NvEncLockBitstream returned NEED_MORE_INPUT")
      | .failed => harvestReturned draining false (self.disable "NvEncLockBitstream")
      | .success bytes keyframe =>
          let unit : EncodedUnit := { bytes, pts := (self.slots slot).bitstream.2, keyframe }
          ({ self with collector := .harvesting draining (.entering limit slot unit) }, [.collected slot])
  | .entering limit slot unit =>
      if self.transport.ready && decide unit.Fits then
        self.collectorAt (.harvesting draining (.pushing limit slot unit))
      else
        ({ self with collector := .harvesting draining (.unlocking limit slot false) },
          [.refused unit self.transport.ready])
  | .pushing limit slot unit =>
      let pushed := self.transport.push unit
      ({ self with transport := pushed.1, collector := .harvesting draining (.unlocking limit slot pushed.2) },
        [if pushed.2 then .handed (self.slots slot).bitstream.1 unit.pts else .refused unit self.transport.ready])
  | .unlocking limit slot enqueued =>
      match self.mode with
      | .synchronous => self.collectorAt (.harvesting draining (.unmapping limit slot answer.succeeds enqueued))
      | .outputWorker | .harvestWorker =>
          if !answer.succeeds then harvestReturned draining false (self.disable "NvEncUnlockBitstream")
          else if !enqueued then harvestReturned draining false (self.disable "compressed access-unit transport")
          else
            match self.mode with
            | .outputWorker => self.collectorAt (.harvesting draining (.unmapping limit slot true true))
            | _ => self.collectorAt (.harvesting draining (.marking limit slot))
  | .unmapping limit slot unlocked enqueued =>
      let released := self.setSlot slot { self.slots slot with mapped := false }
      match self.mode with
      | .synchronous =>
          -- `poll` frees the slot whatever the calls have returned.
          let rest := match self.submitted.pop with | some (_, rest) => rest | none => self.submitted
          let freed := { released.setSlot slot { released.slots slot with busy := false } with submitted := rest }
          let seen := [DirectEvent.harvested slot, .unmapped slot]
          if !unlocked then
            harvestReturned draining false ({ freed with disabled := true }, .disabled "NvEncUnlockBitstream" :: seen)
          else if !answer.succeeds then
            harvestReturned draining false ({ freed with disabled := true }, .disabled "NvEncUnmapInputResource" :: seen)
          else if !enqueued then
            harvestReturned draining false
              ({ freed with disabled := true }, .disabled "compressed access-unit transport" :: seen)
          else ({ freed with collector := .harvesting draining (.testing limit) }, seen)
      | .outputWorker | .harvestWorker =>
          if answer.succeeds then
            ({ released with collector := .harvesting draining (.marking limit slot) }, [.unmapped slot])
          else
            let disabled := self.disable "output input reclaim"
            harvestReturned draining false (disabled.1, disabled.2 ++ [.unmapped slot])
  | .marking limit slot =>
      ({ self.setSlot slot { self.slots slot with harvested := true } with
          collector := .harvesting draining (.advancing limit slot) }, [.harvested slot])
  | .advancing limit slot =>
      let rest := match self.submitted.pop with | some (_, rest) => rest | none => self.submitted
      let next := match self.mode with | .outputWorker => Harvest.freeing limit slot | _ => .testing limit
      ({ self with submitted := rest, collector := .harvesting draining next }, [])
  | .freeing limit slot =>
      (self.setSlot slot { self.slots slot with busy := false }).collectorAt (.harvesting draining (.testing limit))

/-- One turn of `harvest_worker_main`, of the output worker or of a `poll`. -/
def collect (self : Direct) (answer : Answer) : Outcome :=
  match self.collector with
  | .absent | .ended => (self, [])
  | .starting =>
      if answer.succeeds then self.collectorAt (.looping (loopChecks self.mode))
      else
        let disabled := self.disable "output GL context"
        ({ disabled.1 with collector := .ended }, disabled.2)
  | .looping (check :: checks) =>
      if self.passes check then self.collectorAt (.looping checks)
      else
        match self.mode with
        | .harvestWorker => self.collectorAt .drainCheck
        | .synchronous | .outputWorker => self.collectorAt (.harvesting true (.testing (some kSlots)))
  | .looping [] => self.collectorAt .deciding
  | .deciding =>
      let count := self.submitted.count
      match self.mode with
      | .harvestWorker =>
          if count = 0 then self.collectorAt (.looping (loopChecks self.mode))
          else self.collectorAt (.harvesting false (.testing (some kSlots)))
      | .synchronous | .outputWorker =>
          if count ≥ kCollectorLead ∨ (count ≠ 0 ∧ answer.overdue = true) then
            self.collectorAt (.harvesting false (.testing (some 1)))
          else self.collectorAt (.looping (loopChecks self.mode))
  | .harvesting draining call => self.pollHarvest draining answer call
  | .drainCheck =>
      if self.shutdownNow then self.collectorAt .stopping
      else self.collectorAt (.harvesting true (.testing (some kSlots)))
  | .stopping => ({ self with transport := { self.transport with stop := true }, collector := .joining }, [])
  | .joining => if Worker.gone self.transport.worker then self.collectorAt (.releasing 0) else (self, [])
  | .releasing index =>
      if inside : index < kSlots then
        let released := self.releaseSlot ⟨index, inside⟩
        ({ released.1 with collector := .releasing (index + 1) }, released.2)
      else self.releaseEncoder.collectorAt .closing
  | .closing => ({ self with tornDown := true, collector := .ended }, [])

/-- One turn of the submitting thread. -/
def submitTurn (self : Direct) (answer : Answer) : Outcome :=
  match self.submitter with
  | .idle | .polling _ | .finishPolling _ => (self, [])
  | .gating present checks => self.gate present checks
  | .readying present => self.ready present
  | .admitting present inFlight => self.admission present inFlight
  | .probing present => self.probe present answer.wait
  | .mapping present => self.map present answer.succeeds
  | .encoding present => self.encode present answer
  | .marking present marks => self.mark present marks
  | .rechecking present encoded => self.recheck present encoded
  | .claiming present encoded =>
      self.submitterAt (if (self.slots self.copyNext).busy then .reclaiming present encoded else .copying present encoded)
  | .reclaiming present encoded => self.reclaim present encoded
  | .unmapping present encoded => self.unmapReclaimed present encoded answer.succeeds
  | .freeing present encoded =>
      (self.setSlot self.copyNext { self.slots self.copyNext with busy := false }).submitterAt (.copying present encoded)
  | .copying present encoded => self.copy present encoded answer.succeeds
  | .waiting present checks => self.wait present checks
  | .counting present => self.submitterAt (.admitting present self.submitted.count)
  | .testing present inFlight =>
      self.submitterAt (if (self.slots self.next).busy then .waiting present waitGates else .admitting present inFlight)
  | .blitting present => self.blit present
  | .finishing tries => self.finishLoop tries
  | .joiningOutput => if self.collector = .ended then self.submitterAt .stoppingTransport else (self, [])
  | .stoppingTransport =>
      ({ self with
          disabled := true
          stopRequested := true
          transport := { self.transport with stop := true }
          submitter := .joiningTransport }, [])
  | .joiningTransport => if Worker.gone self.transport.worker then self.submitterAt (.releasing 0) else (self, [])
  | .releasing index =>
      if inside : index < kSlots then
        let released := self.releaseSlot ⟨index, inside⟩
        ({ released.1 with submitter := .releasing (index + 1) }, released.2)
      else self.releaseEncoder.submitterAt .idle

def raise (self : Direct) : Flag → Direct
  | .disabled => { self with disabled := true }
  | .stopRequested => { self with stopRequested := true }
  | .shutdownNow => { self with shutdownNow := true }

def step : Transition.Step Direct DirectInput DirectEvent := fun self input =>
  match input with
  | .submit present =>
      match self.submitter with
      | .idle =>
          let gates := match self.mode with | .harvestWorker => asyncGates | _ => framebufferGates
          ({ self with submitter := .gating present gates }, [.presented present.ptsNs])
      | _ => (self, [])
  | .submitter answer => self.submitTurn answer
  | .collector answer => self.collect answer
  | .transport succeeds => ({ self with transport := (self.transport.work succeeds).1 }, [])
  | .stopTransport => ({ self with transport := { self.transport with stop := true } }, [])
  | .raise flag => (self.raise flag, [])
  | .finish =>
      match self.submitter with
      | .idle => self.finishOnGlThread
      | _ => (self, [])

def initial (mode : Mode) (width height fps : UInt32) : Direct where
  mode
  width
  height
  pacing := .initial fps
  transport := Transport.initial fps
  collector :=
    match mode with
    | .synchronous => .absent
    | .outputWorker => .starting
    | .harvestWorker => .looping (loopChecks mode)

end Direct

end Luma.Encoder
