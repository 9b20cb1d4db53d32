import Mathlib.Algebra.Ring.Nat
import Luma.Library.Text
import Luma.Library.Transition

/-! A private agent for one pairing that the user started.

The agent's connection is opened by a task, which then registers the agent and asks the device
to pair. The pairing ends for one of several causes, or is dropped, at any point of that.
Invocations are numbered as they come in.
-/

set_option autoImplicit false

namespace Luma.Shell

open Luma.Library

inductive Answer where
  | pin | passkey | confirm
  deriving DecidableEq, Repr

/-- What the user's answer tells the service. -/
inductive Value where
  | pin (text : String)
  | passkey (number : Nat)
  | confirmed
  deriving DecidableEq, Repr

/-- The Unicode category of control characters. -/
def isControl (character : Char) : Bool := character.toNat < 0x20 || (0x7f ≤ character.toNat && character.toNat ≤ 0x9f)

/-- The length of the text in UTF-8. -/
def byteLength (text : String) : Nat := (text.toList.map Char.utf8Size).sum

def answer (kind : Answer) (text : String) : Option Value :=
  match kind with
  | .pin =>
    if 1 ≤ text.toList.length ∧ text.toList.length ≤ 16 ∧ !text.toList.any isControl then some (.pin text) else none
  | .passkey => if text ≠ "" ∧ byteLength text ≤ 6 then (Text.decimal text.toList).map .passkey else none
  | .confirm => some .confirmed

/-- A call of the agent with its arguments. -/
inductive AgentMethod where
  | release | cancel
  | requestPinCode (device : String)
  | requestPasskey (device : String)
  | displayPinCode (device pin : String)
  | displayPasskey (device : String) (passkey entered : Nat)
  | requestConfirmation (device : String) (passkey : Nat)
  | requestAuthorization (device : String)
  | authorizeService (device service : String)
  deriving DecidableEq, Repr

/-- The object path in the first argument. -/
def AgentMethod.device : AgentMethod → Option String
  | .release | .cancel => none
  | .requestPinCode device | .requestPasskey device | .displayPinCode device _ | .displayPasskey device _ _
  | .requestConfirmation device _ | .requestAuthorization device | .authorizeService device _ => some device

/-- Six digits, with leading zeros. -/
def sixDigits (number : Nat) : String :=
  let digits := (toString number).toList
  String.ofList (List.replicate (6 - digits.length) '0' ++ digits)

def invalidPasskey : String := "Invalid passkey"

/-- The text of a prompt and the answer it asks for, or why the request is refused. -/
def prompt : AgentMethod → Except String (String × Option Answer)
  | .requestPinCode _ => .ok ("Enter the device PIN.", some .pin)
  | .requestPasskey _ => .ok ("Enter the device passkey.", some .passkey)
  | .requestConfirmation _ passkey =>
    if passkey > 999999 then .error invalidPasskey
    else .ok (s!"Does the device show {sixDigits passkey}?", some .confirm)
  | .displayPasskey _ passkey entered =>
    if passkey > 999999 then .error invalidPasskey
    else .ok (s!"Type {sixDigits passkey} on the device, then Enter. ({min entered 6}/6 digits entered)", none)
  | .displayPinCode _ pin =>
    if (answer .pin pin).isNone then .error "Invalid PIN" else .ok (s!"Type {pin} on the device, then Enter.", none)
  | .requestAuthorization _ => .ok ("Allow this device to pair?", some .confirm)
  | .authorizeService _ service =>
    let shown := String.ofList ((service.toList.take 64).filter (!isControl ·))
    .ok (s!"Allow service {shown} for this device?", some .confirm)
  | .release | .cancel => .error "Unsupported request"

/-- Why a pairing ended. -/
inductive Cause where
  | connectionFailed | registrationFailed | agentFailed | paired | pairFailed | canceled | deviceRemoved | released | dropped
  deriving DecidableEq, Repr

inductive PairingObservation where
  | received (invocation : Nat)
  /-- The user is asked about a request of the sender for the device. -/
  | prompted (invocation : Nat) (sender device : String) (kind : Answer)
  /-- The user is shown what to type on the device. -/
  | displayed (invocation : Nat)
  /-- The user pressed the button or Enter. -/
  | acted
  | granted (invocation : Nat) (value : Value)
  /-- A call that asks nothing is answered. -/
  | acknowledged (invocation : Nat)
  | refused (invocation : Nat) (name message : String)
  | ended (cause : Cause)
  | opened
  | cancelPairing
  | closed
  deriving DecidableEq, Repr

/-- What the task of `start` waits for. -/
inductive Task where
  | connecting | registering | pairing | done
  deriving DecidableEq, Repr

/-- The agent's connection; it is closed when the answer to `CancelPairing` is there. -/
inductive Link where
  | none | open | canceling | closed
  deriving DecidableEq, Repr

structure Pairing where
  owner : String
  device : String
  title : String
  /-- The pairing has not been dropped. -/
  alive : Bool := true
  active : Bool := true
  /-- `connection` holds the link. -/
  connection : Bool := false
  registration : Bool := false
  pending : Option (Nat × Answer) := none
  message : String := ""
  text : String := ""
  entryVisible : Bool := false
  acceptVisible : Bool := false
  panelVisible : Bool := true
  error : String := ""
  task : Task := .connecting
  link : Link := .none
  nextInvocation : Nat := 0
  deriving DecidableEq, Repr

namespace Pairing

def rejected (invocation : Nat) (message : String) : PairingObservation :=
  .refused invocation "org.bluez.Error.Rejected" message

def canceled (invocation : Nat) (message : String) : PairingObservation :=
  .refused invocation "org.bluez.Error.Canceled" message

/-- The pending request, if any, is refused. -/
def withdraw (self : Pairing) (message : String) : Pairing × List PairingObservation :=
  match self.pending with
  | none => (self, [])
  | some (invocation, _) => ({ self with pending := none }, [canceled invocation message])

/-- The connection is given up, after `CancelPairing` if that is asked for. -/
def close (self : Pairing) (cancel : Bool) : Pairing × List PairingObservation :=
  if !self.connection then (self, [])
  else
    let pairing := { self with connection := false, registration := false }
    if cancel then ({ pairing with link := .canceling }, [.cancelPairing])
    else ({ pairing with link := .closed }, [.closed])

def finish (self : Pairing) (error : Option String) (cancel : Bool) (cause : Cause) :
    Pairing × List PairingObservation :=
  if !self.active then (self, [])
  else
    let (withdrawn, refused) := { self with active := false }.withdraw "Pairing ended"
    let (closed, closing) := { withdrawn with
      text := ""
      panelVisible := false
      error := error.getD "Paired. Select Connect to use the device." }.close cancel
    (closed, closing ++ [.ended cause] ++ refused)

/-- The last reference to the pairing goes. -/
def drop (self : Pairing) : Pairing × List PairingObservation :=
  let (withdrawn, refused) := { self with alive := false }.withdraw "Pairing closed"
  let (closed, closing) := withdrawn.close self.active
  (closed, closing ++ (if self.active then [.ended .dropped] else []) ++ refused)

/-- The user answers with the text of the entry. -/
def respond (self : Pairing) (text : String) : Pairing × List PairingObservation :=
  match self.pending with
  | none => (self, [.acted])
  | some (invocation, kind) =>
    match answer kind text with
    | none => ({ self with message := match kind with
        | .passkey => "Enter a passkey containing 1–6 digits."
        | _ => "Enter a PIN containing 1–16 characters." }, [.acted])
    | some value => ({ self with
        pending := none
        text := ""
        entryVisible := false
        acceptVisible := false
        message := s!"Pairing with {self.title}…" }, [.granted invocation value, .acted])

/-- A request of the service about the device. -/
def ask (self : Pairing) (invocation : Nat) (sender : String) (method : AgentMethod) :
    Pairing × List PairingObservation :=
  if method.device ≠ some self.device ∨ self.pending.isSome then
    (self, [rejected invocation "Unexpected pairing request"])
  else
    match prompt method with
    | .error message => (self, [rejected invocation message])
    | .ok (message, kind) =>
      let shown := { self with
        message := s!"{self.title}\n{message}"
        text := ""
        entryVisible := kind == some .pin || kind == some .passkey
        acceptVisible := kind.isSome }
      match kind with
      | some kind => ({ shown with pending := some (invocation, kind) },
          [.prompted invocation sender self.device kind])
      | none => (shown, [.acknowledged invocation, .displayed invocation])

def request (self : Pairing) (invocation : Nat) (sender : Option String) (method : AgentMethod) :
    Pairing × List PairingObservation :=
  if sender ≠ some self.owner ∨ !self.active then
    (self, [rejected invocation "No active pairing for this sender"])
  else
    match method with
    | .cancel =>
      let (withdrawn, refused) := self.withdraw "Agent request canceled"
      ({ withdrawn with
        text := ""
        entryVisible := false
        acceptVisible := false
        message := "Waiting for pairing result…" }, .acknowledged invocation :: refused)
    | .release =>
      let (finished, ending) := self.finish (some "Pairing ended by Bluetooth service") false .released
      (finished, ending ++ [.acknowledged invocation])
    | method => self.ask invocation (sender.getD "") method

/-- The handler on the agent's object, which looks whether the pairing is still there. -/
def methodCall (self : Pairing) (sender : Option String) (method : AgentMethod) : Pairing × List PairingObservation :=
  let invocation := self.nextInvocation
  let self := { self with nextInvocation := invocation + 1 }
  let (next, observations) :=
    if self.alive then self.request invocation sender method
    else (self, [canceled invocation "Pairing closed"])
  (next, observations ++ [.received invocation])

/-- The answer to opening the connection, with the answer to registering the object. -/
def connected (self : Pairing) (result registration : Except String Unit) : Pairing × List PairingObservation :=
  if self.task ≠ .connecting then (self, [])
  else
    let done := { self with task := .done }
    match result with
    | .error error => if self.alive then done.finish (some error) false .connectionFailed else (done, [])
    | .ok () =>
      if !self.alive || !self.active then ({ done with link := .closed }, [.closed, .opened])
      else
        match registration with
        | .error error =>
          let (finished, ending) := { done with link := .closed }.finish (some error) false .registrationFailed
          (finished, ending ++ [.closed, .opened])
        | .ok () => ({ self with
            task := .registering
            registration := true
            connection := true
            link := .open }, [.opened])

/-- The answer to `RegisterAgent`. -/
def registered (self : Pairing) (result : Except String Unit) : Pairing × List PairingObservation :=
  if self.task ≠ .registering then (self, [])
  else if !self.alive || !self.active then ({ self with task := .done }, [])
  else
    match result with
    | .error error => { self with task := .done }.finish (some error) false .agentFailed
    | .ok () => ({ self with task := .pairing }, [])

/-- The answer to `Pair`. -/
def paired (self : Pairing) (result : Except String Unit) : Pairing × List PairingObservation :=
  if self.task ≠ .pairing then (self, [])
  else if !self.alive then ({ self with task := .done }, [])
  else
    match result with
    | .ok () => { self with task := .done }.finish none false .paired
    | .error error => { self with task := .done }.finish (some s!"Pairing failed: {error}") true .pairFailed

end Pairing

inductive PairingEvent where
  | methodCall (sender : Option String) (method : AgentMethod)
  | respond (text : String)
  | cancel
  | deviceRemoved
  | connected (result registration : Except String Unit)
  | registered (result : Except String Unit)
  | paired (result : Except String Unit)
  /-- `CancelPairing` is answered or takes too long. -/
  | cancelAnswered
  | drop

namespace Pairing

/-- Nothing but the task's answers reaches a pairing that was dropped. -/
def step (self : Pairing) : PairingEvent → Pairing × List PairingObservation
  | .methodCall sender method => self.methodCall sender method
  | .respond text => if self.alive then self.respond text else (self, [])
  | .cancel => if self.alive then self.finish (some "Pairing canceled") true .canceled else (self, [])
  | .deviceRemoved =>
    if self.alive then
      self.finish (some "Pairing canceled: Bluetooth device disappeared") true .deviceRemoved
    else (self, [])
  | .connected result registration => self.connected result registration
  | .registered result => self.registered result
  | .paired result => self.paired result
  | .cancelAnswered => if self.link = .canceling then ({ self with link := .closed }, [.closed]) else (self, [])
  | .drop => if self.alive then self.drop else (self, [])

/-- `start`, with the owner and the path of the device's proxy. -/
def Starts (pairing : Pairing) : Prop := ∃ owner device title : String, pairing =
  { owner, device, title, message := s!"Pairing with {title}…" }

abbrev Execution := Transition.Run step Transition.unrestricted Starts

end Pairing

end Luma.Shell
