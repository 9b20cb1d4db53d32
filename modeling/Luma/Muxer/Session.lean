import Luma.Library.SyncChannel
import Luma.Library.Transition
import Luma.Protocol.Channel

/-! The game capture muxer: `run_session` and its writer thread.

The receiving thread and the writer share a queue of four inputs and otherwise
take turns in any order. What GStreamer, FFmpeg and the kernel answer is chosen
by the environment of each turn. Counters are unbounded.
-/

set_option autoImplicit false

namespace Luma.Muxer

open Luma.Library Luma.Protocol

def maxQueuedAccessUnits : Nat := 4
def errorProtocol : UInt32 := 1
def errorConfiguration : UInt32 := 2

/-- The options that a session reads. -/
structure Options where
  token : SessionToken
  fps : UInt32
  deriving DecidableEq, Repr

structure MuxerStats where
  receivedAccessUnits : Nat := 0
  writtenAccessUnits : Nat := 0
  receivedBytes : Nat := 0
  firstPtsNs : Option UInt64 := none
  lastPtsNs : Option UInt64 := none
  latestHookStats : FrameStats := {}
  deriving DecidableEq, Repr

def MuxerStats.noteAccessUnit (stats : MuxerStats) (au : AccessUnit) : Except String MuxerStats :=
  if stats.lastPtsNs.any (au.ptsNs < ·) then .error "access-unit PTS moved backwards"
  else if au.durationNs = 0 then .error "access-unit duration is required for true VFR output"
  else .ok { stats with
    firstPtsNs := some (stats.firstPtsNs.getD au.ptsNs)
    lastPtsNs := some au.ptsNs
    receivedAccessUnits := stats.receivedAccessUnits + 1
    receivedBytes := stats.receivedBytes + au.data.length }

def validateStart (config : VideoConfig) (requestedFps : UInt32) : Except String Unit :=
  if config.width = 0 ∨ config.height = 0 ∨ config.width > 16384 ∨ config.height > 16384 ∨
      config.width % 2 ≠ 0 ∨ config.height % 2 ≠ 0 then
    .error "H.264 dimensions must be nonzero, even, and no larger than 16384"
  else if config.fpsDen ≠ 1 ∨ config.fpsNum ≠ requestedFps then
    let numerator := config.fpsNum
    let denominator := config.fpsDen
    .error s!"hook declared {numerator}/{denominator} fps but muxer was launched for {requestedFps} fps"
  else .ok ()

inductive WriterInput where
  | accessUnit (au : AccessUnit)
  /-- Only a protocol Stop or a clean peer EOF may request MP4 finalization. -/
  | finish
  deriving DecidableEq

/-- A timestamped buffer handed to the pipeline's source. -/
structure Buffer where
  data : List UInt8
  ptsNs : UInt64
  dtsNs : UInt64
  durationNs : UInt64
  deriving DecidableEq, Repr

/-- Why a session failed. The texts of the source are these cases with the
named values put in. -/
inductive SessionError where
  | authentication (error : ProtocolError)
  | expectedStart (received : Message)
  | receivingStart (error : ProtocolError)
  | configuration (text : String)
  | spawn (text : String)
  | accessUnit (text : String)
  | writerStoppedBeforeAccessUnit
  | writerStoppedBeforeFinalization
  | hookReported (code : UInt32) (message : String)
  | unexpected (received : Message)
  | protocol (error : ProtocolError)
  | writer (text : String)
  | writerPanicked
  | ffmpeg (text : String)
  deriving DecidableEq

/-- How the writer thread ended, as `join` reports it. -/
inductive Joined where
  | ok (written : Nat)
  | failed (text : String)
  | panicked
  deriving DecidableEq, Repr

inductive WriterPhase where
  | absent
  | launching
  | receiving
  | finalizing
  | ended (joined : Joined)
  deriving DecidableEq, Repr

structure Writer where
  phase : WriterPhase := .absent
  written : Nat := 0
  firstPtsNs : Option UInt64 := none
  firstDtsNs : Option UInt64 := none
  deriving DecidableEq, Repr

inductive Main where
  | authenticating
  | starting
  | spawning (config : VideoConfig)
  | receiving
  | sending (au : AccessUnit)
  | finishing
  | joining
  | reaping
  | returned (result : Except SessionError MuxerStats)
  deriving DecidableEq

structure Session where
  options : Options
  sessionId : UInt64
  channel : Channel
  main : Main := .authenticating
  stats : MuxerStats := {}
  outcome : Except SessionError Unit := .ok ()
  gracefulEnd : Bool := false
  queue : SyncChannel WriterInput := { capacity := maxQueuedAccessUnits }
  writer : Writer := {}

inductive Observation where
  /-- A hello with the expected token was read and acknowledged. -/
  | authenticated (pid capabilities : UInt32)
  | received (message : Message)
  /-- The stream ended after Start, between packets or inside of one. -/
  | ended
  | spawned (config : VideoConfig)
  | forwarded (au : AccessUnit)
  | finishRequested
  | pushed (buffer : Buffer)
  | removed
  | returned (result : Except SessionError MuxerStats)
  deriving DecidableEq

/-- The text of `UnexpectedEof`. -/
def unexpectedEof : String := "failed to fill whole buffer"

/-- What the kernel and FFmpeg answer to the receiving thread. -/
structure MainHost where
  /-- A read that fails for another reason than the end of the stream. -/
  readFault : Option { text : String // text ≠ unexpectedEof } := none
  spawn : Except String Unit := .ok ()
  /-- How waiting for FFmpeg went: an error or its unsuccessful exit status. -/
  wait : Except String Unit := .ok ()

/-- What GStreamer answers to the writer. An error of the final bus wait is an
error message, a failed stop or the timeout. -/
structure WriterHost where
  panics : Bool := false
  launch : Except String Unit := .ok ()
  buffer : Except String Unit := .ok ()
  push : Except String Unit := .ok ()
  endOfStream : Except String Unit := .ok ()
  bus : Except String Unit := .ok ()

inductive Turn where
  | main (host : MainHost)
  | writer (host : WriterHost)

namespace Session

def receive (channel : Channel) (host : MainHost) : Except ProtocolError Message × Channel :=
  match host.readFault with
  | some fault => (.error (.io fault.val), channel)
  | none => channel.recv

def sendError (channel : Channel) (code : UInt32) (text : String) : Channel :=
  (channel.send (.error code text)).2

def return_ (session : Session) (result : Except SessionError MuxerStats) : Session × List Observation :=
  ({ session with main := .returned result }, [.returned result])

def authenticate (session : Session) (host : MainHost) : Session × List Observation :=
  match host.readFault with
  | some fault => session.return_ (.error (.authentication (.io fault.val)))
  | none =>
      match session.channel.serverHandshake session.options.token session.sessionId with
      | (.error error, channel) => { session with channel }.return_ (.error (.authentication error))
      | (.ok (pid, capabilities), channel) =>
          ({ session with channel, main := .starting }, [.authenticated pid capabilities])

def awaitStart (session : Session) (host : MainHost) : Session × List Observation :=
  match receive session.channel host with
  | (.ok (.start config), channel) =>
      match validateStart config session.options.fps with
      | .error text =>
          { session with channel := sendError channel errorConfiguration text }.return_ (.error (.configuration text))
      | .ok () => ({ session with channel, main := .spawning config }, [.received (.start config)])
  | (.ok other, channel) =>
      { session with channel := sendError channel errorProtocol "expected Start after authenticated hello" }.return_
        (.error (.expectedStart other))
  | (.error error, channel) => { session with channel }.return_ (.error (.receivingStart error))

def spawnFfmpeg (session : Session) (config : VideoConfig) (host : MainHost) : Session × List Observation :=
  match host.spawn with
  | .error text => session.return_ (.error (.spawn text))
  | .ok () => ({ session with main := .receiving, writer := { phase := .launching } }, [.spawned config])

/-- Leave the loop with an error. -/
def break_ (session : Session) (error : SessionError) : Session :=
  { session with outcome := .error error, main := .finishing }

/-- One round of the receive loop up to the send of an access unit. -/
def receiveNext (session : Session) (host : MainHost) : Session × List Observation :=
  match receive session.channel host with
  | (.ok message, channel) =>
      let next : Session := match message with
        | .accessUnit au =>
            match session.stats.noteAccessUnit au with
            | .error text =>
                { session with channel := sendError channel errorProtocol text }.break_ (.accessUnit text)
            | .ok stats => { session with channel, stats, main := .sending au }
        | .stats hookStats =>
            { session with channel, stats := { session.stats with latestHookStats := hookStats } }
        | .stop => { session with channel, gracefulEnd := true, main := .finishing }
        | .error code text => { session with channel }.break_ (.hookReported code text)
        | other =>
            { session with channel := sendError channel errorProtocol "unexpected message after Start" }.break_
              (.unexpected other)
      (next, [.received message])
  | (.error error, channel) =>
      if error = .io unexpectedEof then
        ({ session with channel, gracefulEnd := true, main := .finishing }, [.ended])
      else
        ({ session with channel := sendError channel errorProtocol error.display }.break_ (.protocol error), [])

def sendUnit (session : Session) (au : AccessUnit) : Session × List Observation :=
  match session.queue.send (.accessUnit au) with
  | none => (session, [])
  | some (false, _) => (session.break_ .writerStoppedBeforeAccessUnit, [])
  | some (true, queue) => ({ session with queue, main := .receiving }, [.forwarded au])

/-- Ask for finalization after a graceful end, then drop the sender. -/
def finish (session : Session) : Session × List Observation :=
  if session.gracefulEnd ∧ session.outcome = .ok () then
    match session.queue.send .finish with
    | none => (session, [])
    | some (false, queue) =>
        ({ session with
            queue := queue.dropSender
            outcome := .error .writerStoppedBeforeFinalization
            main := .joining }, [])
    | some (true, queue) => ({ session with queue := queue.dropSender, main := .joining }, [.finishRequested])
  else ({ session with queue := session.queue.dropSender, main := .joining }, [])

def join (session : Session) : Session × List Observation :=
  match session.writer.phase with
  | .ended (.ok written) =>
      ({ session with stats := { session.stats with writtenAccessUnits := written }, main := .reaping }, [])
  | .ended (.failed text) => ({ session with outcome := .error (.writer text), main := .reaping }, [])
  | .ended .panicked => ({ session with outcome := .error .writerPanicked, main := .reaping }, [])
  | _ => (session, [])

/-- Wait for FFmpeg, or kill it and remove what it wrote. -/
def reap (session : Session) (host : MainHost) : Session × List Observation :=
  if session.outcome = .ok () ∧ session.gracefulEnd then
    match host.wait with
    | .error text => session.return_ (.error (.ffmpeg text))
    | .ok () => session.return_ (.ok session.stats)
  else
    match session.outcome with
    | .error error =>
        ({ session with main := .returned (.error error) }, [.returned (.error error), .removed])
    | .ok () =>
        ({ session with main := .returned (.ok session.stats) }, [.returned (.ok session.stats), .removed])

def mainStep (session : Session) (host : MainHost) : Session × List Observation :=
  match session.main with
  | .authenticating => session.authenticate host
  | .starting => session.awaitStart host
  | .spawning config => session.spawnFfmpeg config host
  | .receiving => session.receiveNext host
  | .sending au => session.sendUnit au
  | .finishing => session.finish
  | .joining => session.join
  | .reaping => session.reap host
  | .returned _ => (session, [])

/-- The thread is over and its receiver dropped. -/
def endWriter (session : Session) (joined : Joined) : Session :=
  { session with
    writer := { session.writer with phase := .ended joined }
    queue := session.queue.dropReceiver }

def saturatingSub (left right : UInt64) : UInt64 := if right ≤ left then left - right else 0

/-- The buffer of a unit on the timeline that starts at the given origins. -/
def bufferOf (originPtsNs originDtsNs : UInt64) (au : AccessUnit) : Buffer where
  data := au.data
  ptsNs := saturatingSub au.ptsNs originPtsNs
  dtsNs := saturatingSub au.dtsNs originDtsNs
  durationNs := au.durationNs

def writeUnit (session : Session) (au : AccessUnit) (host : WriterHost) : Session × List Observation :=
  let originPtsNs := session.writer.firstPtsNs.getD au.ptsNs
  let originDtsNs := session.writer.firstDtsNs.getD au.dtsNs
  let writer := { session.writer with firstPtsNs := some originPtsNs, firstDtsNs := some originDtsNs }
  match host.buffer with
  | .error text => ({ session with writer }.endWriter (.failed text), [])
  | .ok () =>
      match host.push with
      | .error text => ({ session with writer }.endWriter (.failed text), [])
      | .ok () =>
          ({ session with writer := { writer with written := writer.written + 1 } },
            [.pushed (bufferOf originPtsNs originDtsNs au)])

def finalize (session : Session) (host : WriterHost) : Session :=
  match host.endOfStream with
  | .error text => session.endWriter (.failed text)
  | .ok () =>
      match host.bus with
      | .error text => session.endWriter (.failed text)
      | .ok () => session.endWriter (.ok session.writer.written)

/-- What the writer thread does next, unless it panics. -/
def writerAction (session : Session) (host : WriterHost) : Session × List Observation :=
  match session.writer.phase with
  | .absent => (session, [])
  | .launching =>
      match host.launch with
      | .error text => (session.endWriter (.failed text), [])
      | .ok () => ({ session with writer := { session.writer with phase := .receiving } }, [])
  | .receiving =>
      match session.queue.recv with
      | none => (session, [])
      | some (some (.accessUnit au), queue) => { session with queue }.writeUnit au host
      | some (some .finish, queue) =>
          ({ session with queue, writer := { session.writer with phase := .finalizing } }, [])
      | some (none, _) =>
          (session.endWriter (.failed "H.264 writer was aborted without protocol Stop or clean EOF"), [])
  | .finalizing => (session.finalize host, [])
  | .ended _ => (session, [])

def running (phase : WriterPhase) : Bool :=
  match phase with
  | .absent | .ended _ => false
  | _ => true

def writerStep (session : Session) (host : WriterHost) : Session × List Observation :=
  if host.panics && running session.writer.phase then (session.endWriter .panicked, [])
  else session.writerAction host

def step : Transition.Step Session Turn Observation
  | session, .main host => session.mainStep host
  | session, .writer host => session.writerStep host

/-- `run_session` on a connected stream. -/
def initial (options : Options) (sessionId : UInt64) (stream : ByteStream) : Session where
  options := options
  sessionId := sessionId
  channel := Channel.new stream

/-- The runs of a session: any order of turns and any answers of the environment. -/
abbrev Runs (options : Options) (sessionId : UInt64) (stream : ByteStream) :
    List Observation → Session → Prop :=
  Transition.Run step Transition.unrestricted (· = initial options sessionId stream)

end Session

end Luma.Muxer
