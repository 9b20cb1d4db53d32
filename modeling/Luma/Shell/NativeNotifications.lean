import Luma.Library.Transition
import Luma.Library.Upsert
import Luma.Shell.NotificationText

/-! Notifications of the native shell.

The bus thread gives out ids and sends events, which the shell takes from a channel. Each notification comes
with its origin, which the source does not keep. Icons, timers and the look are left out: a timer, like the
regular maintenance, only makes the shell look for what has expired.
-/

set_option autoImplicit false

namespace Luma.Shell.Native

open Luma.Library

/-- An application on the bus, or the shell that reports a configuration error, with the number of valid
configurations that came before. -/
inductive Origin where
  | application (name : String)
  | configuration (stretch : Nat)
  deriving DecidableEq, Repr

structure Notification where
  id : UInt32
  summary : String
  body : String
  actions : List (String × String)
  expiresAt : Option Nat
  critical : Bool
  origin : Origin
  deriving DecidableEq, Repr

def configErrorNotificationId : UInt32 := 4294967295

/-- In milliseconds. -/
def notificationLifetime : Nat := 5000

def notificationSummaryText (summary : String) : String :=
  String.ofList ((NotificationText.notificationBodyText summary).toList.take 256)

def configErrorNotification (error : String) (stretch : Nat) : Notification where
  id := configErrorNotificationId
  summary := "Configuration warning"
  body := NotificationText.notificationBodyText error
  actions := []
  expiresAt := none
  critical := true
  origin := .configuration stretch

inductive NotificationEvent where
  | upsert (notification : Notification)
  | close (id : UInt32) (reason : Nat) (origin : Origin)
  | dismiss (id : UInt32)
  deriving DecidableEq, Repr

structure App where
  notifications : List Notification := []
  events : List NotificationEvent := []
  nextId : UInt32 := 0
  /-- The error of the last snapshot. -/
  error : Option String := none
  /-- The number of valid configurations that followed an error. -/
  validated : Nat := 0
  deriving DecidableEq, Repr

inductive Observation where
  /-- The answer to a call, with the ids that were held or on their way. -/
  | returned (application : String) (replacesId id : UInt32) (held : List UInt32)
  | replaced (old new : Origin)
  | warned (stretch : Nat)
  | dismissed (id : UInt32)
  | removed (id : UInt32)
  | action (id : UInt32) (key : String)
  | closed (id : UInt32) (reason : Nat)
  deriving DecidableEq, Repr

inductive Input where
  | notify (application : String) (replacesId : UInt32) (summary body : String) (actions : List String) (now : Nat)
  | closeNotification (application : String) (id : UInt32)
  | snapshot (error : Option String)
  | deliver
  | expire (now : Nat)
  /-- A click on a row, and the action that it hits. -/
  | click (row : Nat) (action : Option String)
  | dismissAll
  | clear

namespace App

variable (self : App)

def ids : List UInt32 := self.notifications.map Notification.id

def upsertId : NotificationEvent → Option UInt32
  | .upsert notification => some notification.id
  | _ => none

def heldIds : List UInt32 := self.ids ++ self.events.filterMap upsertId

def send (event : NotificationEvent) : App := { self with events := self.events ++ [event] }

def actionPairs : List String → List (String × String)
  | key :: label :: rest =>
      (String.ofList (key.toList.take 128), String.ofList (label.toList.take 128)) :: actionPairs rest
  | _ => []

/-- The counter wraps around. -/
def followingId : UInt32 := max (self.nextId + 1) 1

def notify (application : String) (replacesId : UInt32) (summary body : String) (actions : List String) (now : Nat) :
    App × List Observation :=
  let id := if replacesId = 0 then self.followingId else replacesId
  let counted := if replacesId = 0 then { self with nextId := self.nextId + 1 } else self
  (counted.send (.upsert {
      id
      summary := notificationSummaryText summary
      body := NotificationText.notificationBodyText body
      actions := (actionPairs actions).take 4
      expiresAt := some (now + notificationLifetime)
      critical := false
      origin := .application application }),
    [.returned application replacesId id self.heldIds])

def closeNotification (application : String) (id : UInt32) : App :=
  self.send (.close id 3 (.application application))

/-- A snapshot whose error is another one. -/
def snapshot (error : Option String) : App :=
  if error = self.error then self
  else
    match error with
    | some text => { self with error }.send (.upsert (configErrorNotification text self.validated))
    | none =>
        { self with error, validated := self.validated + 1 }.send
          (.close configErrorNotificationId 3 (.configuration (self.validated + 1)))

def warnings : Origin → List Observation
  | .configuration stretch => [.warned stretch]
  | .application _ => []

/-- The oldest notifications make room. -/
def put (notification : Notification) : App × List Observation :=
  let notifications := upsert Notification.id notification self.notifications
  let replaced := self.notifications.filter fun existing => existing.id = notification.id
  ({ self with notifications := notifications.drop (notifications.length - 100) },
    warnings notification.origin ++ replaced.map fun existing => .replaced existing.origin notification.origin)

def retain (id : UInt32) : App :=
  { self with notifications := self.notifications.filter fun notification => notification.id ≠ id }

def handle : NotificationEvent → App × List Observation
  | .upsert notification => self.put notification
  | .close id reason _ => (self.retain id, [.closed id reason])
  | .dismiss id => (self.retain id, [])

def deliver : App × List Observation :=
  match self.events with
  | [] => (self, [])
  | event :: events => { self with events }.handle event

def expired (now : Nat) (notification : Notification) : Bool := notification.expiresAt.any fun expiry => expiry ≤ now

def expire (now : Nat) : App × List Observation :=
  ({ self with notifications := self.notifications.filter fun notification => !expired now notification },
    (self.notifications.filter (expired now)).map fun notification => .closed notification.id 1)

/-- The newest notification is in the first row. -/
def click (row : Nat) (action : Option String) : App × List Observation :=
  match self.notifications.reverse[row]? with
  | none => (self, [])
  | some notification =>
      ((self.send (.dismiss notification.id)).retain notification.id,
        [.dismissed notification.id, .closed notification.id 2] ++
          (action.map (Observation.action notification.id)).toList)

def closings : List Observation :=
  self.notifications.flatMap fun notification => [.dismissed notification.id, .closed notification.id 2]

def dismissAll : App × List Observation :=
  ({ self with
      notifications := []
      events := self.events ++ self.notifications.map fun notification => .dismiss notification.id },
    self.closings)

def clear : App × List Observation := ({ self with notifications := [] }, self.closings)

def act : Input → App × List Observation
  | .notify application replacesId summary body actions now =>
      self.notify application replacesId summary body actions now
  | .closeNotification application id => (self.closeNotification application id, [])
  | .snapshot error => (self.snapshot error, [])
  | .deliver => self.deliver
  | .expire now => self.expire now
  | .click row action => self.click row action
  | .dismissAll => self.dismissAll
  | .clear => self.clear

/-- What was held before, and is no longer. -/
def gone (after : App) : List Observation :=
  (self.ids.filter fun id => id ∉ after.ids).map Observation.removed

def step (self : App) (input : Input) : App × List Observation :=
  ((self.act input).1, self.gone (self.act input).1 ++ (self.act input).2)

end App

end Luma.Shell.Native
