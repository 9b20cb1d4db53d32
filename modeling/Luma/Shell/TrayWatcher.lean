import Luma.Library.Transition
import Mathlib.Logic.Function.Basic

/-! The registry of tray items and hosts, and the message bus it asks who owns a name.

A registration is answered when the bus has said who owns its service, or when that took too
long. The bus delivers its replies and signals in one queue. Maps are lists of entries with
distinct keys; only the order of the signals of one removal depends on that.
-/

set_option autoImplicit false

namespace Luma.Shell

open Luma.Library

/-- A registration that waits for the owner of its service. -/
structure Request where
  /-- The key in `pending`; the source's 64-bit sequence does not wrap in any real run. -/
  number : Nat
  host : Bool
  service : String
  path : String
  owner : String
  invocation : Nat
  deriving DecidableEq, Repr

structure Entry where
  id : String
  service : String
  owner : String
  deriving DecidableEq, Repr

structure Watcher where
  items : List Entry := []
  hosts : List Entry := []
  pending : List Request := []
  sequence : Nat := 0
  /-- The callbacks of the calls of `GetNameOwner`. -/
  outstanding : List Request := []

inductive Reply where
  | done
  | error (name message : String)
  deriving DecidableEq, Repr

inductive WatcherObservation where
  /-- A call with arguments of the right type came in. -/
  | called (invocation : Nat)
  | answered (invocation : Nat) (reply : Reply)
  | itemRegistered (id : String)
  | itemUnregistered (id : String)
  | hostRegistered
  | hostUnregistered
  deriving DecidableEq, Repr

/-- GLib's tests of bus names and object paths. -/
structure Names where
  isName : String → Bool
  isObjectPath : String → Bool

def invalidPath : Reply := .error "org.freedesktop.DBus.Error.InvalidArgs" "Invalid tray object path"

def invalidService : Reply := .error "org.freedesktop.DBus.Error.InvalidArgs" "Invalid tray service name"

def tooManyPending : Reply :=
  .error "org.freedesktop.DBus.Error.LimitsExceeded" "Too many pending tray registrations"

def notOwned : Reply :=
  .error "org.freedesktop.DBus.Error.AccessDenied" "Tray service is not owned by the caller"

def tooMany : Reply := .error "org.freedesktop.DBus.Error.LimitsExceeded" "Too many tray registrations"

def Request.id (self : Request) : String := if self.host then self.service else self.service ++ self.path

def Request.entry (self : Request) : Entry := ⟨self.id, self.service, self.owner⟩

/-- A change of owner takes the service, or the caller itself, away. -/
def gone (name old service owner : String) : Bool := service == name || (name.startsWith ":" && owner == old)

namespace Watcher

def entries (self : Watcher) (host : Bool) : List Entry := if host then self.hosts else self.items

def insert (self : Watcher) (request : Request) : Watcher :=
  if request.host then { self with hosts := self.hosts ++ [request.entry] }
  else { self with items := self.items ++ [request.entry] }

/-- The service and the path a registration is about, or what is wrong with it. -/
def resolve (names : Names) (host : Bool) (sender value : String) : Except Reply (String × String) :=
  if value.startsWith "/" ∧ ¬host then
    if names.isObjectPath value then .ok (sender, value) else .error invalidPath
  else if names.isName value then .ok (value, "/StatusNotifierItem")
  else .error invalidService

/-- The handler of a method call, with the lookup it sends. -/
def register (self : Watcher) (names : Names) (invocation : Nat) (host : Bool) (sender value : String) :
    Watcher × Option Request × List WatcherObservation :=
  match resolve names host sender value with
  | .error reply => (self, none, [.answered invocation reply])
  | .ok (service, path) =>
    if self.pending.length ≥ 64 then (self, none, [.answered invocation tooManyPending])
    else
      let request : Request := ⟨self.sequence + 1, host, service, path, sender, invocation⟩
      ({ self with
        sequence := request.number
        pending := self.pending ++ [request]
        outstanding := self.outstanding ++ [request] }, some request, [])

/-- A registration whose caller owns the service. -/
def enter (self : Watcher) (request : Request) : Watcher × List WatcherObservation :=
  if (self.entries request.host).any (·.id == request.id) then (self, [.answered request.invocation .done])
  else if (self.entries request.host).length ≥ 64 then (self, [.answered request.invocation tooMany])
  else
    let signals : List WatcherObservation :=
      if !request.host then [.itemRegistered request.id]
      else if self.hosts.isEmpty then [.hostRegistered] else []
    (self.insert request, .answered request.invocation .done :: signals)

/-- The callback of a lookup, with the owner or no result. -/
def settle (self : Watcher) (number : Nat) (result : Option String) : Watcher × List WatcherObservation :=
  match self.outstanding.find? (·.number == number) with
  | none => (self, [])
  | some request =>
    let known := self.pending.any (·.number == number)
    let watcher := { self with
      outstanding := self.outstanding.filter (·.number != number)
      pending := self.pending.filter (·.number != number) }
    if known && result == some request.owner then watcher.enter request
    else (watcher, [.answered request.invocation notOwned])

/-- The handler of `NameOwnerChanged`. -/
def nameOwnerChanged (self : Watcher) (name old new : String) : Watcher × List WatcherObservation :=
  if old = "" ∨ old = new then (self, [])
  else
    let removed := self.items.filter fun entry => gone name old entry.service entry.owner
    let watcher := { self with
      pending := self.pending.filter fun request => !gone name old request.service request.owner
      items := self.items.filter fun entry => !gone name old entry.service entry.owner
      hosts := self.hosts.filter fun entry => !gone name old entry.service entry.owner }
    let lost := !self.hosts.isEmpty && watcher.hosts.isEmpty
    (watcher, (if lost then [.hostUnregistered] else []) ++ (removed.map fun entry => .itemUnregistered entry.id).reverse)

end Watcher

/-! ## The bus -/

inductive Message where
  | reply (number : Nat) (owner : Option String)
  | nameOwnerChanged (name old new : String)
  deriving DecidableEq, Repr

structure Bus where
  /-- Who owns a name; a connection owns its unique name. -/
  owner : String → Option String
  /-- The lookups that the bus has not handled. -/
  lookups : List Request := []
  /-- What is on its way to the watcher. -/
  queue : List Message := []
  watcher : Watcher := {}
  nextInvocation : Nat := 0

inductive BusEvent where
  /-- A method call; `value` is missing where the arguments have another type. -/
  | register (host : Bool) (sender : String) (value : Option String)
  /-- The bus answers a lookup. -/
  | lookup (index : Nat)
  | deliver
  /-- A lookup ends without a result. -/
  | fail (number : Nat)
  | change (name : String) (owner : Option String)
  deriving DecidableEq, Repr

namespace Bus

def register (self : Bus) (names : Names) (host : Bool) (sender : String) (value : Option String) :
    Bus × List WatcherObservation :=
  match value with
  | none => (self, [])
  | some value =>
    let (watcher, lookup, observations) := self.watcher.register names self.nextInvocation host sender value
    ({ self with watcher, lookups := self.lookups ++ lookup.toList, nextInvocation := self.nextInvocation + 1 },
      observations ++ [.called self.nextInvocation])

def deliver (self : Bus) : Bus × List WatcherObservation :=
  match self.queue with
  | [] => (self, [])
  | message :: queue =>
    let (watcher, observations) := match message with
      | .reply number owner => self.watcher.settle number owner
      | .nameOwnerChanged name old new => self.watcher.nameOwnerChanged name old new
    ({ self with queue, watcher }, observations)

/-- Every change of owner is announced; no owner has an empty name. -/
def change (self : Bus) (name : String) (owner : Option String) : Bus :=
  if owner = some "" ∨ self.owner name = owner then self
  else { self with
    owner := Function.update self.owner name owner
    queue := self.queue ++ [.nameOwnerChanged name ((self.owner name).getD "") (owner.getD "")] }

def step (names : Names) (self : Bus) : BusEvent → Bus × List WatcherObservation
  | .register host sender value => self.register names host sender value
  | .lookup index =>
    match self.lookups[index]? with
    | none => (self, [])
    | some request => ({ self with
        lookups := self.lookups.eraseIdx index
        queue := self.queue ++ [.reply request.number (self.owner request.service)] }, [])
  | .deliver => self.deliver
  | .fail number =>
    let (watcher, observations) := self.watcher.settle number none
    ({ self with watcher }, observations)
  | .change name owner => (self.change name owner, [])

/-- The watcher starts on a bus on which any names are owned. -/
def Starts (bus : Bus) : Prop := ∃ owner : String → Option String, (∀ name, owner name ≠ some "") ∧ bus = { owner }

abbrev Execution (names : Names) := Transition.Run (step names) Transition.unrestricted Starts

end Bus

end Luma.Shell
