import Luma.Library.OrderedMap
import Luma.Library.Transition
import Mathlib.Data.Nat.Basic

/-! The notification service of the desktop bus.

Calls, clicks and timers are handled one after the other on the main loop. The widgets of a popup
are known by the number of the call that made them, and timers by the identifiers of their
sources, which are not used again. The window of the notification center is left out.
-/

set_option autoImplicit false

namespace Luma.Shell

open Luma.Library

/-- What a call to `Notify` asks for. -/
structure NotifyRequest where
  replaces : Nat := 0
  summary : String := ""
  body : String := ""
  /-- Keys and labels in turn. -/
  actions : List String := []
  timeout : Int := -1
  deriving DecidableEq, Repr

/-- The widget of a popup, whose buttons all name the popup. -/
structure PopupWidget where
  serial : Nat
  id : Nat
  summary : String
  body : String
  /-- Keys and labels. -/
  buttons : List (String × String)
  deriving DecidableEq, Repr

structure Popup where
  widget : Nat
  timer : Option Nat
  deriving DecidableEq, Repr

/-- A timer of the main loop that closes a popup when it expires. -/
structure PopupTimer where
  source : Nat
  id : Nat
  milliseconds : Nat
  /-- The popup that it was made for, which the callback does not know. -/
  widget : Nat
  deriving DecidableEq, Repr

structure NotificationServer where
  counter : Nat := 0
  items : OrderedMap Nat Popup := OrderedMap.empty
  stack : List PopupWidget := []
  visible : Bool := false
  history : List (String × String) := []
  dnd : Bool := false
  timers : List PopupTimer := []
  /-- The sources that were made so far. -/
  sources : Nat := 0
  /-- The widgets that were made so far. -/
  widgets : Nat := 0
  /-- A source was removed that did not exist. -/
  panicked : Bool := false

inductive NotificationInput where
  | notify (request : NotifyRequest)
  | closeNotification (id : Nat)
  /-- A click on one of the buttons of a widget. -/
  | action (widget button : Nat)
  | dismiss (widget : Nat)
  | expire (source : Nat)
  | setDnd (on : Bool)
  | clearHistory
  deriving DecidableEq, Repr

inductive NotificationOutput where
  /-- The answer to `Notify`. -/
  | returned (id : Nat)
  | notificationClosed (id reason : Nat)
  | actionInvoked (id : Nat) (key : String)
  /-- The search for an identifier does not end. -/
  | stuck
  deriving DecidableEq, Repr

namespace NotificationServer

/-- `u32::wrapping_add(1).max(1)`. -/
def following (counter : Nat) : Nat := max ((counter + 1) % 4294967296) 1

/-- The identifiers are tried one after the other. More rounds than entries are enough. -/
def claim (items : OrderedMap Nat Popup) : Nat → Nat → Option Nat
  | 0, _ => none
  | rounds + 1, counter =>
      if (items.find (following counter)).isSome then claim items rounds (following counter)
      else some (following counter)

/-- `Popups::remove`, and whether there was something to remove. -/
def remove (self : NotificationServer) (id : Nat) : NotificationServer × Bool :=
  match self.items.find id with
  | none => (self, false)
  | some popup =>
      ({ self with
        items := self.items.erase id
        timers := self.timers.filter fun timer => popup.timer ≠ some timer.source
        panicked := self.panicked || popup.timer.any fun source => !self.timers.any fun timer => timer.source = source
        stack := self.stack.filter fun widget => widget.serial ≠ popup.widget
        visible := self.visible && !(self.items.erase id).entries.isEmpty }, true)

def closePopup (self : NotificationServer) (id reason : Nat) : NotificationServer × List NotificationOutput :=
  match self.remove id with
  | (after, true) => (after, [.notificationClosed id reason])
  | (after, false) => (after, [])

def chunks : List String → List (String × String)
  | key :: label :: rest => (key, label) :: chunks rest
  | _ => []

def buttons (actions : List String) : List (String × String) :=
  (((chunks actions).filter fun pair => pair.1.utf8ByteSize ≤ 1024).take 4).map fun pair =>
    (pair.1, String.ofList (pair.2.toList.take 40))

/-- The entry in the history, of which the last hundred are kept. -/
def note (self : NotificationServer) (request : NotifyRequest) : NotificationServer :=
  let summary := String.ofList (request.summary.toList.take 256)
  let body := String.ofList (request.body.toList.take 8192)
  let history := self.history ++ [(summary, body)]
  { self with history := history.drop (history.length - 100) }

/-- The timer of a new popup, unless it is to stay. -/
def timerFor (self : NotificationServer) (id : Nat) (request : NotifyRequest) : Option PopupTimer :=
  if request.timeout = 0 then none
  else some
    { source := self.sources
      id
      milliseconds := if request.timeout < 0 then 5000 else request.timeout.toNat
      widget := self.widgets }

def present (self : NotificationServer) (id : Nat) (request : NotifyRequest) : NotificationServer :=
  let widget : PopupWidget :=
    { serial := self.widgets
      id
      summary := String.ofList (request.summary.toList.take 256)
      body := String.ofList (request.body.toList.take 8192)
      buttons := buttons request.actions }
  let timer := self.timerFor id request
  { self with
    stack := self.stack ++ [widget]
    widgets := self.widgets + 1
    visible := true
    items := self.items.insert id { widget := widget.serial, timer := timer.map PopupTimer.source }
    timers := timer.toList ++ self.timers
    sources := self.sources + timer.toList.length }

/-- The popup that makes room for another one. -/
def evict (self : NotificationServer) : NotificationServer × List NotificationOutput :=
  match self.items.entries.head? with
  | none => (self, [])
  | some oldest => if 3 ≤ self.items.entries.length then self.closePopup oldest.1 1 else (self, [])

/-- The server without the popup of an identifier, and with the entry in the history. -/
def prepared (self : NotificationServer) (id : Nat) (request : NotifyRequest) : NotificationServer :=
  (self.remove id).1.note request

/-- `Notify` once the identifier is known. -/
def publish (self : NotificationServer) (id : Nat) (request : NotifyRequest) :
    NotificationServer × List NotificationOutput :=
  if (self.prepared id request).dnd then (self.prepared id request, [.notificationClosed id 1, .returned id])
  else
    let evicted := (self.prepared id request).evict
    (evicted.1.present id request, .returned id :: evicted.2)

/-- The call names a popup that is shown. -/
def Replaces (self : NotificationServer) (request : NotifyRequest) : Prop :=
  request.replaces ≠ 0 ∧ (self.items.find request.replaces).isSome = true

instance (self : NotificationServer) (request : NotifyRequest) : Decidable (self.Replaces request) :=
  inferInstanceAs (Decidable (_ ∧ _))

def notify (self : NotificationServer) (request : NotifyRequest) : NotificationServer × List NotificationOutput :=
  if self.Replaces request then self.publish request.replaces request
  else
    match claim self.items (self.items.entries.length + 1) self.counter with
    | none => (self, [.stuck])
    | some id => { self with counter := id }.publish id request

/-- The loop takes out a timer that expires, and the callback takes it out of the popup. -/
def loosen (self : NotificationServer) (timer : PopupTimer) : NotificationServer :=
  let timers := self.timers.filter fun other => other.source ≠ timer.source
  match self.items.find timer.id with
  | none => { self with timers }
  | some popup => { self with timers, items := self.items.insert timer.id { popup with timer := none } }

def step (self : NotificationServer) : NotificationInput → NotificationServer × List NotificationOutput
  | .notify request => self.notify request
  | .closeNotification id => self.closePopup id 3
  | .action serial button =>
      match self.stack.find? fun widget => widget.serial = serial with
      | none => (self, [])
      | some widget =>
          match widget.buttons[button]? with
          | none => (self, [])
          | some (key, _) =>
              let closed := self.closePopup widget.id 2
              (closed.1, closed.2 ++ [.actionInvoked widget.id key])
  | .dismiss serial =>
      match self.stack.find? fun widget => widget.serial = serial with
      | none => (self, [])
      | some widget => self.closePopup widget.id 2
  | .expire source =>
      match self.timers.find? fun timer => timer.source = source with
      | none => (self, [])
      | some timer => (self.loosen timer).closePopup timer.id 1
  | .setDnd on => ({ self with dnd := on }, [])
  | .clearHistory => ({ self with history := [] }, [])

end NotificationServer

end Luma.Shell
