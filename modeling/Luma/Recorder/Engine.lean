import Luma.Library.SyncChannel
import Luma.Library.Transition
import Luma.Recorder.Timeline

/-! The recorder engine: the capture loop of `run`, the encoder worker and the
buffers of the media pipeline.

Eight capture slots travel from the loop through a queue of eight commands to
the worker, into encoder buffers and back through the release channel. The
threads take turns in any order; the compositor, the commands on standard input
and the pipeline are the environment of each turn. The pacing of captures is
left to the order of turns.
-/

set_option autoImplicit false

namespace Luma.Recorder

open Luma.Library

def captureBufferPoolSize : Nat := 8

/-- A captured image on its way to the encoder. -/
structure EncodeFrame where
  slot : Nat
  presentationNs : Nat
  deriving DecidableEq, Repr

inductive EncoderCommand where
  | frame (input : EncodeFrame)
  | pause (paused : Bool)
  | finish
  deriving DecidableEq, Repr

/-- The guard that returns a slot once its push is over and its buffers are gone. -/
structure BufferRelease where
  slot : Nat
  inFlight : Nat := 0
  retired : Bool := false
  returned : Bool := false
  /-- Calls of `maybe_return` under way, by the worker or by buffers just finalized. -/
  checks : Nat := 0
  deriving DecidableEq, Repr

inductive Worker where
  | receiving
  | holding (input : EncodeFrame)
  /-- In a push, before the write of `index` or, behind the last one, the retirement. -/
  | pushing (input : EncodeFrame) (plan : Plan) (index : Nat)
  | stopping
  | ended (result : Except String EncoderStats)
  deriving DecidableEq

/-- The loop of `run` by its place in the code. -/
inductive Main where
  | deciding
  | announcing
  | idling
  | resuming
  | taking
  | capturing (slot : Nat)
  | sending (input : EncodeFrame)
  | pausing
  /-- A stop may cancel a capture whose slot is never used again. -/
  | finishing (cancelled : Option Nat)
  | joining (cancelled : Option Nat)
  | returned (result : Except String EncoderStats)
  deriving DecidableEq

structure Engine where
  encoder : Encoder
  stats : EncoderStats := {}
  worker : Worker := .receiving
  queue : SyncChannel EncoderCommand := { capacity := 8 }
  /-- The release channel, which takes any number of slots. -/
  released : List Nat := []
  /-- Every guard made so far, the newest first. -/
  releases : List BufferRelease := []
  availableSlots : List Nat := List.range captureBufferPoolSize
  capturedFrames : Nat := 0
  paused : Bool := false
  main : Main := .deciding

/-- A frame as the encoder's source takes it. -/
structure EncoderInput where
  index : Nat
  ptsNs : Nat
  durationNs : Nat
  deriving DecidableEq, Repr

inductive Observation where
  /-- The slot is handed out for a new capture. -/
  | handed (slot : Nat)
  /-- The slot is sent to the release channel. -/
  | slotReturned (slot : Nat)
  | pushed (input : EncoderInput)
  /-- A capture was skipped that fell on this frame index. -/
  | skipped (index : Nat)
  deriving DecidableEq

/-- The commands drained from standard input. -/
structure Commands where
  stop : Bool := false
  togglePause : Bool := false

/-- What a paused loop waits for. -/
inductive PausedCommand where
  | stop | pause | other | disconnected | timeout

/-- What one dispatch of the capture connection brings. -/
inductive CaptureEvent where
  | pending
  | ready (presentationNs : Option Nat)
  | failed (reason : String)
  | stopped
  | disconnected (error : String)

structure MainHost where
  commands : Commands := {}
  command : PausedCommand := .timeout
  event : CaptureEvent := .pending
  /-- Exporting the captured buffer. -/
  frame : Except String Unit := .ok ()

/-- What the pipeline answers to the worker, and the instant of the turn. -/
structure WorkerHost where
  now : Nat := 0
  stateChange : Except String Unit := .ok ()
  prepare : Except String Unit := .ok ()
  push : Except String Unit := .ok ()
  stop : Except String Unit := .ok ()

inductive Turn where
  | main (host : MainHost)
  | worker (host : WorkerHost)
  /-- The pipeline drops a buffer of the guard at this place. -/
  | finalized (place : Nat)
  /-- A call of `maybe_return` on the guard at this place is carried out. -/
  | checked (place : Nat)

namespace Engine

/-! ## The capture loop -/

def return_ (engine : Engine) (result : Except String EncoderStats) : Engine :=
  { engine with main := .returned result }

/-- Send a command and go on, unless the worker is gone. A full queue blocks. -/
def send (engine : Engine) (command : EncoderCommand) (next : Main) (stopped : String) : Engine :=
  match engine.queue.send command with
  | none => engine
  | some (false, _) => engine.return_ (.error stopped)
  | some (true, queue) => { engine with queue, main := next }

/-- The branch behind the pause commands. -/
def afterCommands (engine : Engine) : Main := if engine.paused then .idling else .taking

def decide (engine : Engine) (commands : Commands) : Engine :=
  if commands.stop then { engine with main := .finishing none }
  else if commands.togglePause then { engine with paused := !engine.paused, main := .announcing }
  else { engine with main := engine.afterCommands }

def idle (engine : Engine) (command : PausedCommand) : Engine :=
  match command with
  | .stop | .disconnected => { engine with main := .finishing none }
  | .pause => { engine with paused := false, main := .resuming }
  | .other | .timeout => { engine with main := .deciding }

/-- Collect what was released and hand out the first free slot. -/
def take (engine : Engine) : Engine × List Observation :=
  match engine.availableSlots ++ engine.released with
  | [] => ({ engine with main := .deciding }, [])
  | slot :: rest =>
      ({ engine with availableSlots := rest, released := [], main := .capturing slot }, [.handed slot])

def capture (engine : Engine) (slot : Nat) (host : MainHost) : Engine :=
  match host.event with
  | .disconnected error => engine.return_ (.error error)
  | event =>
      let paused := if host.commands.togglePause then !engine.paused else engine.paused
      if host.commands.stop then { engine with paused, main := .finishing (some slot) }
      else
        match event with
        | .pending => { engine with paused }
        | .stopped => engine.return_ (.error "capture session was stopped by the compositor")
        | .failed reason => engine.return_ (.error s!"capture frame failed: {reason}")
        | .ready none => engine.return_ (.error "capture frame omitted its presentation timestamp")
        | .ready (some presentationNs) =>
            match host.frame with
            | .error error => engine.return_ (.error error)
            | .ok () => { engine with paused, main := .sending { slot, presentationNs } }
        | .disconnected error => engine.return_ (.error error)

def sendFrame (engine : Engine) (input : EncodeFrame) : Engine :=
  match engine.queue.send (.frame input) with
  | none => engine
  | some (false, _) => engine.return_ (.error "encoder worker stopped while accepting a capture frame")
  | some (true, queue) =>
      { engine with
        queue
        capturedFrames := engine.capturedFrames + 1
        main := if engine.paused then .pausing else .deciding }

def join (engine : Engine) : Engine :=
  match engine.worker with
  | .ended result => engine.return_ result
  | _ => engine

def mainStep (engine : Engine) (host : MainHost) : Engine × List Observation :=
  match engine.main with
  | .deciding => (engine.decide host.commands, [])
  | .announcing =>
      (engine.send (.pause engine.paused) engine.afterCommands "encoder worker stopped while changing pause state", [])
  | .idling => (engine.idle host.command, [])
  | .resuming => (engine.send (.pause false) .deciding "encoder worker stopped while resuming", [])
  | .taking => engine.take
  | .capturing slot => (engine.capture slot host, [])
  | .sending input => (engine.sendFrame input, [])
  | .pausing => (engine.send (.pause true) .deciding "encoder worker stopped while pausing", [])
  | .finishing cancelled =>
      (engine.send .finish (.joining cancelled) "encoder worker stopped before finalization", [])
  | .joining _ => (engine.join, [])
  | .returned _ => (engine, [])

/-! ## The encoder worker -/

/-- The worker returns; commands still queued go with its receiver. -/
def endWorker (engine : Engine) (result : Except String EncoderStats) : Engine :=
  { engine with worker := .ended result, queue := engine.queue.dropReceiver }

/-- `push_latest` or `push_committed` up to the first write. -/
def beginPush (engine : Engine) (input : EncodeFrame) : Engine × List Observation :=
  let encoder :=
    { engine.encoder with presentationOriginNs := some (engine.encoder.originNs input.presentationNs) }
  let plan :=
    if engine.encoder.commitPaced then some (engine.encoder.planCommitted input.presentationNs)
    else engine.encoder.planLatest input.presentationNs
  match plan with
  | some plan =>
      ({ engine with
          encoder
          releases := { slot := input.slot } :: engine.releases
          worker := .pushing input plan plan.firstIndex }, [])
  | none =>
      -- The slot of a skipped capture goes straight back.
      ({ engine with
          encoder
          stats := engine.stats.note { skipped := true }
          released := engine.released ++ [input.slot]
          worker := .receiving },
        [.slotReturned input.slot, .skipped (engine.encoder.indexOf input.presentationNs)])

/-- Change the guard of the push under way. -/
def modifyHead (change : BufferRelease → BufferRelease) : List BufferRelease → List BufferRelease
  | [] => []
  | release :: rest => change release :: rest

/-- A rejected buffer is dropped at once, and its finalizer checks the guard. -/
def pushOne (engine : Engine) (input : EncodeFrame) (plan : Plan) (index : Nat) (host : WorkerHost) :
    Engine × List Observation :=
  match host.prepare with
  | .error text => (engine.endWorker (.error text), [])
  | .ok () =>
      match host.push with
      | .error text =>
          ({ engine with
              releases := modifyHead (fun release => { release with checks := release.checks + 1 }) engine.releases
            }.endWorker (.error text), [])
      | .ok () =>
          let (pts, nextPts) := frameTimes index engine.encoder.fps
          ({ engine with
              releases :=
                modifyHead (fun release => { release with inFlight := release.inFlight + 1 }) engine.releases
              worker := .pushing input plan (index + 1) },
            [.pushed { index, ptsNs := pts, durationNs := nextPts - pts }])

def endPush (engine : Engine) (plan : Plan) : Engine :=
  { engine with
    releases := modifyHead (fun release =>
      { release with retired := true, checks := release.checks + 1 }) engine.releases
    encoder := { engine.encoder with lastFrameIndex := some plan.frameIndex }
    stats := engine.stats.note plan.outcome
    worker := .receiving }

def receiveCommand (engine : Engine) (host : WorkerHost) : Engine :=
  match engine.queue.recv with
  | none => engine
  | some (some (.frame input), queue) => { engine with queue, worker := .holding input }
  | some (some (.pause paused), queue) =>
      match engine.encoder.setPaused paused host.now host.stateChange with
      | .error text => { engine with queue }.endWorker (.error text)
      | .ok encoder => { engine with queue, encoder }
  | some (some .finish, queue) => { engine with queue, worker := .stopping }
  | some (none, _) => { engine with worker := .stopping }

def workerStep (engine : Engine) (host : WorkerHost) : Engine × List Observation :=
  match engine.worker with
  | .receiving => (engine.receiveCommand host, [])
  | .holding input => engine.beginPush input
  | .pushing input plan index =>
      if index ≤ plan.frameIndex then engine.pushOne input plan index host
      else (engine.endPush plan, [])
  | .stopping =>
      match host.stop with
      | .error text => (engine.endWorker (.error text), [])
      | .ok () => (engine.endWorker (.ok engine.stats), [])
  | .ended _ => (engine, [])

/-! ## The media pipeline -/

/-- The callback of a dropped buffer, up to its call of `maybe_return`. -/
def finalizeBuffer (engine : Engine) (place : Nat) : Engine :=
  match engine.releases[place]? with
  | none => engine
  | some release =>
      if release.inFlight = 0 then engine
      else
        { engine with
          releases := engine.releases.set place
            { release with inFlight := release.inFlight - 1, checks := release.checks + 1 } }

/-- `maybe_return`, which at most once finds its guard retired and free. -/
def maybeReturn (engine : Engine) (place : Nat) : Engine × List Observation :=
  match engine.releases[place]? with
  | none => (engine, [])
  | some release =>
      if release.checks = 0 then (engine, [])
      else if release.retired ∧ release.inFlight = 0 ∧ release.returned = false then
        ({ engine with
            releases := engine.releases.set place
              { release with checks := release.checks - 1, returned := true }
            released := engine.released ++ [release.slot] }, [.slotReturned release.slot])
      else
        ({ engine with releases := engine.releases.set place { release with checks := release.checks - 1 } }, [])

/-- Once `run` has returned, the process is gone. -/
def step (engine : Engine) (turn : Turn) : Engine × List Observation :=
  match engine.main with
  | .returned _ => (engine, [])
  | _ =>
      match turn with
      | .main host => engine.mainStep host
      | .worker host => engine.workerStep host
      | .finalized place => (engine.finalizeBuffer place, [])
      | .checked place => engine.maybeReturn place

/-- The engine as it enters its loop. -/
def initial (fps : Nat) (commitPaced : Bool) : Engine where
  encoder := { fps, commitPaced }

end Engine

end Luma.Recorder
