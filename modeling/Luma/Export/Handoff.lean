import Luma.Library.Transition
import Luma.Export.ExportSafety

/-! The game and the receiver of its frames: export messages, the receiver's import
of the textures, its acknowledgements, and the semaphore that each opaque texture
is handed over with.

Any message may be lost on the way or refused, and the receiver's fences complete
in their own time. Other games may send to the same receiver.
-/

set_option autoImplicit false

namespace Luma.Export

open Luma.Library

structure ExportMessage where
  generation : Nat
  pts : Nat
  stream : Nat
  slot : Nat
  width : Nat
  height : Nat
  copyComplete : Bool := true
  opaqueMemory : Bool := true
  deriving DecidableEq, Repr

namespace ExportMessage

/-- What the receiver checks of a message before it looks at the sender and the descriptors. -/
def wellFormed (message : ExportMessage) : Bool :=
  (!message.opaqueMemory || message.copyComplete) && message.width > 0 && message.height > 0 &&
    message.width ≤ 16384 && message.height ≤ 16384 && message.pts != 0

end ExportMessage

structure ImportedSlot where
  stream : Nat
  slot : Nat
  width : Nat
  height : Nat
  /-- The semaphore came with the import. -/
  semaphore : Bool
  deriving DecidableEq, Repr

structure Receiver where
  imported : List ImportedSlot := []
  pendingAcks : List ExportMessage := []
  /-- A display was found that can import. -/
  display : Bool := false
  encoderStarted : Bool := false
  stopping : Bool := false

def importCacheSize : Nat := 64

def pendingAckLimit : Nat := 64

/-- What the socket, the driver and the encoder answer while one message is handled. -/
structure ReceiverHost where
  /-- The sender and the descriptors are in order. -/
  accepted : Bool := true
  initialized : Bool := true
  image : Bool := true
  texture : Bool := true
  semaphore : Bool := true
  framebuffer : Bool := true
  nativeFence : Bool := true
  encoderStarts : Bool := true
  fenceCreated : Bool := true
  /-- The acknowledgement reaches the game's socket. -/
  delivered : Bool := true

inductive ReceiverEvent where
  /-- The receiver's queue waits for the semaphore of the stream's slot. -/
  | acquired (stream slot : Nat)
  /-- It signals the semaphore. -/
  | released (stream slot : Nat)
  | acknowledged (message : ExportMessage)
  deriving DecidableEq, Repr

namespace Receiver

def find (receiver : Receiver) (message : ExportMessage) : Option ImportedSlot :=
  receiver.imported.find? fun candidate => candidate.stream == message.stream && candidate.slot == message.slot

/-- Import the texture of a slot seen for the first time. A failure keeps the display. -/
def importSlot (receiver : Receiver) (message : ExportMessage) (host : ReceiverHost) : Receiver × Option ImportedSlot :=
  if importCacheSize ≤ receiver.imported.length then (receiver, none)
  else if !receiver.display && !host.initialized then (receiver, none)
  else
    -- The first display is chosen by an import that works, so only later images can fail.
    let image := message.opaqueMemory || !receiver.display || host.image
    let receiver := { receiver with display := true }
    if !image then (receiver, none)
    else if message.opaqueMemory && (!host.texture || !host.semaphore) then (receiver, none)
    else if !host.framebuffer then (receiver, none)
    else
      let imported := {
        stream := message.stream, slot := message.slot, width := message.width, height := message.height
        semaphore := message.opaqueMemory }
      ({ receiver with imported := receiver.imported ++ [imported] }, some imported)

/-- The import a message is handled with, and whether it is new. -/
def lookup (receiver : Receiver) (message : ExportMessage) (host : ReceiverHost) : Receiver × Option (ImportedSlot × Bool) :=
  match receiver.find message with
  | some imported => (receiver, some (imported, false))
  | none =>
      let outcome := receiver.importSlot message host
      (outcome.1, outcome.2.map fun imported => (imported, true))

def startEncoder (receiver : Receiver) (host : ReceiverHost) : Receiver :=
  if receiver.encoderStarted then receiver
  else { receiver with encoderStarted := host.encoderStarts, stopping := receiver.stopping || !host.encoderStarts }

/-- The acknowledgement waits for the fence behind the commands of this frame.
Without one the receiver waits for the GPU and acknowledges at once. -/
def scheduleAck (receiver : Receiver) (message : ExportMessage) (host : ReceiverHost) : Receiver × List ReceiverEvent :=
  if receiver.pendingAcks.length < pendingAckLimit && host.fenceCreated then
    ({ receiver with pendingAcks := receiver.pendingAcks ++ [message] }, [])
  else (receiver, [.acknowledged message])

/-- Handle an imported frame. A full encoder only drops the frame. -/
def present (receiver : Receiver) (message : ExportMessage) (imported : ImportedSlot) (new : Bool) (host : ReceiverHost) :
    Receiver × List ReceiverEvent :=
  let waits := if message.opaqueMemory then [ReceiverEvent.acquired message.stream message.slot] else []
  if !message.copyComplete && !host.nativeFence then
    let receiver := if new then { receiver with imported := receiver.imported.erase imported } else receiver
    (receiver, .acknowledged message :: waits)
  else
    let receiver := receiver.startEncoder host
    let signals := if imported.semaphore then [ReceiverEvent.released message.stream message.slot] else []
    let scheduled := receiver.scheduleAck message host
    (scheduled.1, scheduled.2 ++ (signals ++ waits))

/-- One message. What is not accepted is dropped without an acknowledgement. -/
def receive (receiver : Receiver) (message : ExportMessage) (host : ReceiverHost) : Receiver × List ReceiverEvent :=
  if !host.accepted || !message.wellFormed then (receiver, [])
  else
    let found := receiver.lookup message host
    match found.2 with
    | none => (found.1, [.acknowledged message])
    | some (imported, new) => found.1.present message imported new host

/-- Acknowledge the frames whose commands are done. -/
def retire (receiver : Receiver) (completed : ExportMessage → Bool) : Receiver × List ReceiverEvent :=
  ({ receiver with pendingAcks := receiver.pendingAcks.filter fun message => !completed message },
    ((receiver.pendingAcks.filter completed).map .acknowledged).reverse)

end Receiver

/-! ## Both sides -/

structure Handoff where
  game : NvencDirect
  receiver : Receiver := {}
  /-- Messages on their way to the receiver. -/
  wire : List ExportMessage := []

inductive HandoffEvent where
  | game (event : Event)
  | receiver (event : ReceiverEvent)
  deriving DecidableEq, Repr

inductive HandoffInput where
  | submit (width height pts : Nat) (host : GpuHost)
  | requestStop
  /-- Another stream's message. -/
  | foreign (message : ExportMessage)
  | receive (host : ReceiverHost)
  | retire (completed delivered : ExportMessage → Bool)
  /-- The receiver is told to stop and waits for what its queue holds. -/
  | finish (delivered : ExportMessage → Bool)

namespace Handoff

/-- The message of an export. -/
def message? (game : NvencDirect) : Event → Option ExportMessage
  | .exported slot generation pts =>
      some { generation, pts, stream := game.stream, slot := slot.val, width := game.width, height := game.height }
  | _ => none

def advanceGame (state : Handoff) (input : Input) : Handoff × List HandoffEvent :=
  let outcome := state.game.step input
  ({ state with game := outcome.1, wire := state.wire ++ outcome.2.reverse.filterMap (message? state.game) },
    outcome.2.map .game)

/-- An acknowledgement names the slot and the generation; it goes to the sender of the message. -/
def ackOf (state : Handoff) (delivered : ExportMessage → Bool) : ReceiverEvent → Option AckMessage
  | .acknowledged message =>
      if delivered message && message.stream == state.game.stream then
        some { generation := message.generation, slot := message.slot }
      else none
  | _ => none

/-- The receiver goes on, and what it acknowledges reaches the game's socket. -/
def advanceReceiver (state : Handoff) (outcome : Receiver × List ReceiverEvent) (delivered : ExportMessage → Bool) :
    Handoff × List HandoffEvent :=
  ({ state with
      receiver := outcome.1
      game := { state.game with
        inbox := state.game.inbox ++ outcome.2.reverse.filterMap (state.ackOf delivered) } },
    outcome.2.map .receiver)

def step : Transition.Step Handoff HandoffInput HandoffEvent := fun state input =>
  match input with
  | .submit width height pts host => state.advanceGame (.submit width height pts host)
  | .requestStop => state.advanceGame .requestStop
  | .foreign message =>
      if message.stream == state.game.stream then (state, []) else ({ state with wire := state.wire ++ [message] }, [])
  | .receive host =>
      if state.receiver.stopping then (state, [])
      else
        match state.wire with
        | [] => (state, [])
        | message :: rest =>
            { state with wire := rest }.advanceReceiver (state.receiver.receive message host) fun _ => host.delivered
  | .retire completed delivered => state.advanceReceiver (state.receiver.retire completed) delivered
  | .finish delivered =>
      let outcome := state.receiver.retire fun _ => true
      state.advanceReceiver ({ outcome.1 with stopping := true }, outcome.2) delivered

def Started (state : Handoff) : Prop := NvencDirect.Created state.game ∧ state.receiver = {} ∧ state.wire = []

abbrev Execution : List HandoffEvent → Handoff → Prop := Transition.Run step Transition.unrestricted Started

end Handoff

end Luma.Export
