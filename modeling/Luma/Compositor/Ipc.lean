import Luma.Core.Settings
import Luma.Library.SyncChannel
import Luma.Library.Transition

/-! Subscribers of the desktop's state, which the compositor publishes.

The compositor replaces the state and notifies the subscribers before it unlocks the state. Each
subscriber has a thread, which waits for a notification and then sends the state as it is by then.
A thread blocks on a lock that another holds, so its turn changes nothing.
-/

set_option autoImplicit false

namespace Luma.Compositor.Ipc

open Luma.Library Luma.Core

/-- What the compositor publishes. -/
structure Snapshot (Window Output Layer Performance : Type) where
  version : Nat
  windows : List Window
  outputs : List Output
  focused : Option Nat
  error : Option String
  layers : List Layer
  recorder : RecorderStatus
  recorderSettings : Recorder
  performance : Performance

namespace Snapshot

variable {Window Output Layer Performance : Type} [DecidableEq Window] [DecidableEq Output] [DecidableEq Layer]

/-- `same_snapshot_for_immediate_subscribers`: nothing differs but telemetry. -/
def same (left right : Snapshot Window Output Layer Performance) : Bool :=
  left.version == right.version && left.windows == right.windows && left.outputs == right.outputs &&
    left.focused == right.focused && left.error == right.error && left.layers == right.layers &&
    left.recorder.state == right.recorder.state && left.recorder.source == right.recorder.source &&
    left.recorder.requestedFps == right.recorder.requestedFps &&
    left.recorder.outputPath == right.recorder.outputPath && left.recorder.error == right.recorder.error &&
    left.recorderSettings == right.recorderSettings

/-- The snapshot without its telemetry: the time recorded so far and the performance. -/
def untimed (self : Snapshot Window Output Layer Performance) : Snapshot Window Output Layer Unit :=
  { self with recorder := { self.recorder with elapsedMs := 0 }, performance := () }

end Snapshot

variable {State : Type}

/-- A published state, with its place in the order of publication. -/
structure Stamped (State : Type) where
  number : Nat
  state : State

/-- Where the thread of a subscriber is. -/
inductive Stage (State : Type) where
  /-- The request is read, and the thread enters its sender in the list. -/
  | registering
  | opening
  /-- The first response is written, and nobody looks whether that succeeds. -/
  | greeting (response : Stamped State)
  | waiting
  | draining
  | reading
  | writing (response : Stamped State)
  | ended

structure Subscriber (State : Type) where
  stage : Stage State := .registering
  channel : SyncChannel State := { capacity := 8 }
  /-- The last response that was written, or whose writing failed when nobody looked. -/
  sent : Option (Stamped State) := none

/-- How far the compositor is with a publication. It holds the state from the beginning, and the list of senders
while it notifies those that are left. -/
inductive Publication where
  | none
  | updated
  | notifying (left : List Nat)
  deriving DecidableEq, Repr

structure Hub (State : Type) where
  current : Stamped State
  publication : Publication := .none
  /-- All subscribers there have been. -/
  subscribers : List (Subscriber State) := []
  /-- The senders in the compositor's list. -/
  senders : List Nat := []

inductive Event (State : Type) where
  | publish (latest : State)
  | lockSubscribers
  | notify
  | subscribe
  /-- A turn of a thread. It is told whether a notification arrives in time, or a write succeeds. -/
  | turn (subscriber : Nat) (succeeds : Bool)

inductive Observation (State : Type) where
  /-- A publication is complete. -/
  | published (stamped : Stamped State) (changed : Bool)
  /-- A subscriber is sent a response. -/
  | responded (subscriber : Nat) (response : Stamped State)

/-- The thread waits for a notification, at most two seconds. -/
def Subscriber.await (self : Subscriber State) (arrives : Bool) : Subscriber State :=
  if !arrives then { self with stage := .draining }
  else
    match self.channel.recv with
    | some (some _, channel) => { self with stage := .draining, channel }
    | some (none, _) => { self with stage := .ended, channel := self.channel.dropReceiver }
    | none => self

/-- Notifications that are left say nothing new. -/
def Subscriber.drain (self : Subscriber State) : Subscriber State :=
  match self.channel.recv with
  | some (some _, channel) => { self with channel }
  | _ => { self with stage := .reading }

/-- A turn of the thread, and the response it has written. -/
def Subscriber.turn (self : Subscriber State) (current : Stamped State) (publication : Publication)
    (succeeds : Bool) : Subscriber State × Option (Stamped State) :=
  match self.stage with
  | .registering =>
      match publication with
      | .notifying _ => (self, none)
      | _ => ({ self with stage := .opening }, none)
  | .opening => if publication = .none then ({ self with stage := .greeting current }, none) else (self, none)
  | .greeting response =>
      ({ self with stage := .waiting, sent := some response }, if succeeds then some response else none)
  | .waiting => (self.await succeeds, none)
  | .draining => (self.drain, none)
  | .reading => if publication = .none then ({ self with stage := .writing current }, none) else (self, none)
  | .writing response =>
      if succeeds then ({ self with stage := .waiting, sent := some response }, some response)
      else ({ self with stage := .ended, channel := self.channel.dropReceiver }, none)
  | .ended => (self, none)

namespace Hub

/-- The publication is over, and the locks are released. -/
def complete (self : Hub State) (changed : Bool) : Hub State × List (Observation State) :=
  ({ self with publication := .none }, [.published self.current changed])

/-- `publish_snapshot`, up to the lock of the senders. -/
def publish (same : State → State → Bool) (self : Hub State) (latest : State) : Hub State × List (Observation State) :=
  let next := { self with current := ⟨self.current.number + 1, latest⟩ }
  if same self.current.state latest then next.complete false else ({ next with publication := .updated }, [])

def setSubscriber (self : Hub State) (index : Nat) (subscriber : Subscriber State) : Hub State :=
  { self with subscribers := self.subscribers.set index subscriber }

/-- One call of `try_send`. A sender is dropped when its receiver is gone; a full queue is left as it is. -/
def notifyOne (self : Hub State) (index : Nat) : Hub State :=
  match self.subscribers[index]? with
  | none => self
  | some subscriber =>
      match subscriber.channel.send self.current.state with
      | some (true, channel) => self.setSubscriber index { subscriber with channel }
      | some (false, channel) =>
          { self.setSubscriber index { subscriber with channel := channel.dropSender } with
            senders := self.senders.filter (· ≠ index) }
      | none => self

/-- A thread that registers enters its sender. -/
def enter (senders : List Nat) (index : Nat) (before after : Stage State) : List Nat :=
  match before, after with
  | .registering, .opening => senders ++ [index]
  | _, _ => senders

def turn (self : Hub State) (index : Nat) (succeeds : Bool) : Hub State × List (Observation State) :=
  match self.subscribers[index]? with
  | none => (self, [])
  | some subscriber =>
      let turned := subscriber.turn self.current self.publication succeeds
      ({ self.setSubscriber index turned.1 with senders := enter self.senders index subscriber.stage turned.1.stage },
        (turned.2.map (.responded index)).toList)

def step (same : State → State → Bool) : Transition.Step (Hub State) (Event State) (Observation State) :=
  fun self event =>
  match event, self.publication with
  | .publish latest, .none => self.publish same latest
  | .lockSubscribers, .updated => ({ self with publication := .notifying self.senders }, [])
  | .notify, .notifying (index :: left) => ({ self.notifyOne index with publication := .notifying left }, [])
  | .notify, .notifying [] => self.complete true
  | .subscribe, _ => ({ self with subscribers := self.subscribers ++ [{}] }, [])
  | .turn index succeeds, _ => self.turn index succeeds
  | _, _ => (self, [])

/-- Nothing is published yet, and nobody has subscribed. -/
def start (initial : State) : Hub State := { current := ⟨0, initial⟩ }

abbrev Execution (same : State → State → Bool) (initial : State) : List (Observation State) → Hub State → Prop :=
  Transition.Run (step same) Transition.unrestricted (· = start initial)

end Hub

end Luma.Compositor.Ipc
