import Luma.Library.Transition
import Mathlib.Data.UInt

/-! The capture receiver: the loop that reads the exports of the recorded processes,
imports their images, hands the frames to the encoder and acknowledges them.

A turn is one round of the loop. Processes send, streams end, the encoder fails and a
signal comes at any time between two turns; what comes during a turn is seen by the next.
A descriptor is known by the file that it refers to.
-/

set_option autoImplicit false

namespace Luma.Export

open Luma.Library

def lumaVkExportMagic : UInt32 := 0x4c564b45
def lumaVkProtocolVersion : UInt16 := 3
def lumaExportCopyComplete : UInt32 := 1
def lumaExportFlipY : UInt32 := 2
def lumaExportOpaqueMemory : UInt32 := 4

/-- The bytes of `luma_vk_export_message`. -/
def exportMessageSize : Nat := 96

/-- `luma_vk_export_message`, without what only the driver reads. -/
structure VkExportMessage where
  magic : UInt32 := lumaVkExportMagic
  version : UInt16 := lumaVkProtocolVersion
  size : UInt16 := 96
  generation : UInt64
  ptsNs : UInt64
  streamId : UInt64
  slot : UInt32
  width : UInt32
  height : UInt32
  drmFourcc : UInt32 := 0
  pitch : UInt32 := 0
  reserved : UInt32
  allocationSize : UInt64 := 0
  deriving DecidableEq, Repr

namespace VkExportMessage

def copyComplete (message : VkExportMessage) : Bool := message.reserved &&& lumaExportCopyComplete != 0

def opaqueMemory (message : VkExportMessage) : Bool := message.reserved &&& lumaExportOpaqueMemory != 0

/-- The descriptors that come with the message. -/
def descriptorCount (message : VkExportMessage) : Nat :=
  if message.opaqueMemory then 2 else if message.copyComplete then 1 else 2

/-- What `receive_frame` checks of the message itself. -/
def valid (message : VkExportMessage) : Bool :=
  message.reserved &&& ~~~(lumaExportCopyComplete ||| lumaExportFlipY ||| lumaExportOpaqueMemory) == 0 &&
    (!message.opaqueMemory || message.copyComplete) &&
    message.magic == lumaVkExportMagic && message.version == lumaVkProtocolVersion &&
    message.size.toNat == exportMessageSize && message.width > 0 && message.height > 0 &&
    message.width ≤ 16384 && message.height ≤ 16384 &&
    (if message.opaqueMemory then message.allocationSize > 0 && message.allocationSize ≤ 0x100000000
     else message.pitch > 0 && message.drmFourcc != 0) &&
    message.ptsNs != 0

end VkExportMessage

/-- A datagram in the export socket, with the process that has sent it. -/
structure Datagram where
  sender : Nat
  /-- The address that an acknowledgement goes to. -/
  peer : Nat
  length : Nat := exportMessageSize
  truncated : Bool := false
  /-- The process and user id that the kernel attests. -/
  credentials : Option (Int × Nat)
  descriptors : List Nat
  message : VkExportMessage
  deriving DecidableEq, Repr

/-- `luma_vk_ack_message` and where it is sent. -/
structure VkAckMessage where
  peer : Nat
  generation : UInt64
  slot : UInt32
  deriving DecidableEq, Repr

def Datagram.ack (frame : Datagram) : VkAckMessage :=
  { peer := frame.peer, generation := frame.message.generation, slot := frame.message.slot }

/-! ## Senders -/

/-- What `/proc` says of a process. -/
structure ProcessTable where
  comm : Int → Option String
  parent : Int → Option Int

/-- Whether the root is met within so many generations. -/
def ProcessTable.descends (processes : ProcessTable) (root : Int) : Nat → Int → Bool
  | 0, _ => false
  | depth + 1, pid =>
      if pid ≤ 1 then false
      else if pid = root then true
      else
        match processes.parent pid with
        | none => false
        | some parent => if parent = pid then false else processes.descends root depth parent

def allowedSender (processes : ProcessTable) (pid root : Int) : Option String → Bool
  | none => pid == root
  | some name => processes.comm pid == some name && processes.descends root 128 pid

structure ReceiverOptions where
  expectedPidFile : Bool
  expectedProcessName : Option String
  euid : Nat

/-- `static_cast<pid_t>`. -/
def pidOf (number : Int) : Int := Int.bmod number (2 ^ 32)

/-- The verdict of `receive_frame` on a datagram. -/
def ReceiverOptions.accepts (options : ReceiverOptions) (processes : ProcessTable) (expectedPid : Int)
    (datagram : Datagram) : Bool :=
  datagram.length == exportMessageSize && !datagram.truncated &&
    datagram.credentials.any (fun (pid, uid) =>
      uid == options.euid && allowedSender processes pid (pidOf expectedPid) options.expectedProcessName) &&
    min datagram.descriptors.length 2 == datagram.message.descriptorCount && datagram.message.valid

/-! ## The loop -/

/-- An imported image, with the process and the descriptor that it came from. -/
structure CachedImport where
  streamId : UInt64
  slot : UInt32
  width : UInt32
  height : UInt32
  sender : Nat
  image : Nat
  deriving DecidableEq, Repr

def importedSlots : Nat := 64

def pendingAcks : Nat := 64

structure CaptureReceiver where
  options : ReceiverOptions
  expectedPid : Int
  inbox : List Datagram := []
  imported : List CachedImport := []
  /-- Frames whose acknowledgement waits for a fence. -/
  pending : List Datagram := []
  display : Bool := false
  /-- The size that the encoder was started with. -/
  encoder : Option (UInt32 × UInt32) := none
  healthy : Bool := true
  stopping : Bool := false
  ended : Bool := false

inductive CopyResult where
  | copied
  | poolFull
  | failed
  deriving DecidableEq, Repr

/-- What the socket, the files and the driver answer during one turn. -/
structure TurnHost where
  /-- The poll and the read are not interrupted. -/
  readable : Bool := true
  /-- The expected pid in its file: no file, no number in it, or a number. -/
  pidFile : Option (Option Int) := none
  processes : ProcessTable
  /-- The fences that are signaled, by their place. -/
  completed : Nat → Bool := fun _ => true
  /-- The acknowledgement of the frame gets into its peer's socket. -/
  delivered : Datagram → Bool := fun _ => true
  initialized : Bool := true
  image : Bool := true
  texture : Bool := true
  semaphore : Bool := true
  framebuffer : Bool := true
  nativeFence : Bool := true
  encoderStarts : Bool := true
  copy : CopyResult := .copied
  fenceCreated : Bool := true

inductive ReceiverSighting where
  | arrived (datagram : Datagram)
  | streamEnded (sender : Nat) (streamId : UInt64)
  | copied (frame : Datagram) (source : CachedImport)
  /-- The import cache is full. -/
  | refused (frame : Datagram) (imported : List CachedImport)
  | acknowledged (frame : Datagram) (delivered : Bool)
  deriving DecidableEq, Repr

inductive ReceiverInput where
  | send (datagram : Datagram)
  | endStream (sender : Nat) (streamId : UInt64)
  | encoderFails
  | stop
  | turn (host : TurnHost)

namespace CaptureReceiver

variable (self : CaptureReceiver) (host : TurnHost)

def acknowledge (frame : Datagram) : ReceiverSighting := .acknowledged frame (host.delivered frame)

/-- The pid that a frame is received with. -/
def readPid : Int :=
  if self.expectedPid ≤ 1 && self.options.expectedPidFile then
    match host.pidFile with
    | none => self.expectedPid
    | some number => number.getD (-1)
  else self.expectedPid

def find (frame : Datagram) : Option CachedImport :=
  self.imported.find? fun candidate =>
    candidate.streamId == frame.message.streamId && candidate.slot == frame.message.slot

/-- Import the image of a slot seen for the first time. A failure keeps the display. -/
def importImage (frame : Datagram) : CaptureReceiver × Option CachedImport :=
  let message := frame.message
  if !self.display && !host.initialized then (self, none)
  else
    -- The first display is chosen by an import that works, so only later images can fail.
    let image := message.opaqueMemory || !self.display || host.image
    let self := { self with display := true }
    if !image then (self, none)
    else if message.opaqueMemory && (!host.texture || !host.semaphore) then (self, none)
    else if !host.framebuffer then (self, none)
    else
      let imported : CachedImport := {
        streamId := message.streamId, slot := message.slot, width := message.width, height := message.height
        sender := frame.sender, image := frame.descriptors.headD 0 }
      ({ self with imported := self.imported ++ [imported] }, some imported)

def startEncoder (frame : Datagram) : CaptureReceiver :=
  if self.encoder.isSome then self
  else if host.encoderStarts then { self with encoder := some (frame.message.width, frame.message.height) }
  else { self with stopping := true }

/-- `EncodeWorker::copy`, once the encoder is started. -/
def copy (frame : Datagram) (source : CachedImport) : CaptureReceiver × List ReceiverSighting :=
  if self.encoder ≠ some (source.width, source.height) ∨ self.healthy = false then (self, [])
  else
    match host.copy with
    | .copied => (self, [.copied frame source])
    | .poolFull => (self, [])
    | .failed => ({ self with healthy := false }, [])

/-- The acknowledgement waits for the fence behind the commands of this frame.
Without a place or a fence the receiver waits for the GPU itself. -/
def scheduleAck (frame : Datagram) : CaptureReceiver × List ReceiverSighting :=
  if self.pending.length < pendingAcks && host.fenceCreated then
    ({ self with pending := self.pending ++ [frame] }, [])
  else (self, [acknowledge host frame])

/-- Handle a frame whose image is imported. -/
def handle (frame : Datagram) (source : CachedImport) (new : Bool) : CaptureReceiver × List ReceiverSighting :=
  if !frame.message.copyComplete && !host.nativeFence then
    ({ self with imported := if new then self.imported.erase source else self.imported }, [acknowledge host frame])
  else
    let copied := (self.startEncoder host frame).copy host frame source
    let scheduled := copied.1.scheduleAck host frame
    (scheduled.1, scheduled.2 ++ copied.2)

def receive (frame : Datagram) : CaptureReceiver × List ReceiverSighting :=
  match self.find frame with
  | some source => self.handle host frame source false
  | none =>
      if importedSlots ≤ self.imported.length then (self, [acknowledge host frame, .refused frame self.imported])
      else
        let found := self.importImage host frame
        match found.2 with
        | none => (found.1, [acknowledge host frame])
        | some source => found.1.handle host frame source true

/-- `retire_ack_fences` without waiting. -/
def retire : CaptureReceiver × List ReceiverSighting :=
  let done := self.pending.zipIdx.filter fun item => host.completed item.2
  let waits := self.pending.zipIdx.filter fun item => !host.completed item.2
  ({ self with pending := waits.map Prod.fst }, (done.map fun item => acknowledge host item.1).reverse)

/-- What follows the loop. -/
def finish : CaptureReceiver × List ReceiverSighting :=
  ({ self with pending := [], ended := true }, (self.pending.map (acknowledge host)).reverse)

/-- One round of the loop, or its end. -/
def turn : CaptureReceiver × List ReceiverSighting :=
  if self.ended then (self, [])
  else if self.stopping then self.finish host
  else
    let retired := self.retire host
    if !self.healthy then
      let finished := retired.1.finish host
      (finished.1, finished.2 ++ retired.2)
    else if !host.readable then retired
    else
      match self.inbox with
      | [] => retired
      | datagram :: rest =>
          let self := { retired.1 with inbox := rest, expectedPid := self.readPid host }
          -- What is not accepted goes without an acknowledgement.
          if self.options.accepts host.processes self.expectedPid datagram then
            let received := self.receive host datagram
            (received.1, received.2 ++ retired.2)
          else (self, retired.2)

def step : Transition.Step CaptureReceiver ReceiverInput ReceiverSighting := fun self input =>
  match input with
  -- A closed socket takes nothing.
  | .send datagram =>
      if self.ended then (self, []) else ({ self with inbox := self.inbox ++ [datagram] }, [.arrived datagram])
  | .endStream sender streamId => (self, [.streamEnded sender streamId])
  | .encoderFails => ({ self with healthy := false }, [])
  | .stop => ({ self with stopping := true }, [])
  | .turn host => self.turn host

/-- The receiver of these options before its first turn. -/
def Started (self : CaptureReceiver) : Prop :=
  ∃ options expectedPid, self = { options, expectedPid }

end CaptureReceiver

end Luma.Export
