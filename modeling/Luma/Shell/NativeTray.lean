import Luma.Library.Transition
import Luma.Library.Upsert
import Mathlib.Logic.Function.Basic

/-! Tray items of the native shell.

Two threads of each registration watch its owner and its signals. They share the list of registered items with
the bus thread, and send events to the shell. A step of a thread is what it does between two points where others
may come in between. Registrations and items come with the owner of the service when they were registered, which
the source does not keep.
-/

set_option autoImplicit false

namespace Luma.Shell.NativeTray

open Luma.Library

structure Registration where
  id : String
  service : String
  path : String
  owner : Option String
  deriving DecidableEq, Repr

/-- What is read from an item on the bus. -/
structure Content (Image : Type) where
  icon : Option Image
  visible : Bool
  menuPath : Option String

structure TrayItem (Image : Type) where
  id : String
  service : String
  path : String
  icon : Option Image
  visible : Bool
  menuPath : Option String
  owner : Option String

inductive TrayEvent (Image : Type) where
  | upsert (item : TrayItem Image)
  | remove (id : String)

inductive Job where
  | owner | signals
  deriving DecidableEq, Repr

inductive Phase (Image : Type) where
  | starting
  /-- Owner changes are listened to, but the owner is not known. -/
  | subscribed
  | queried (owner : String)
  | watching (owner : String)
  | waiting
  | loading
  | loaded (content : Content Image)
  | removing
  /-- The item is off the list, and the shell is to be told. -/
  | sending
  | done

/-- A thread, with the owner changes that it has not seen yet. -/
structure Monitor (Image : Type) where
  job : Job
  registration : Registration
  phase : Phase Image := .starting
  signals : List (String × String × String) := []

structure App (Image : Type) where
  owners : String → Option String := fun _ => none
  items : List Registration := []
  monitors : List (Monitor Image) := []
  events : List (TrayEvent Image) := []
  tray : List (TrayItem Image) := []

inductive Observation where
  | changed (service : String)
  | called (registration : Registration)
  /-- A thread of a registration takes another one, or its own, off the list. -/
  | unlisted (monitor entry : Registration)
  deriving DecidableEq, Repr

/-- What a thread meets next. -/
inductive Happening (Image : Type) where
  | proceed (ok : Bool)
  | signal (member : Option String)
  | load (content : Content Image)
  | ended

inductive Input (Image : Type) where
  | changeOwner (service : String) (owner : Option String)
  | register (value : String) (sender : Option String) (content : Content Image)
  | monitor (index : Nat) (happening : Happening Image)
  | deliver

variable {Image : Type}

def trayServiceOwnerLost (name oldOwner newOwner service owner : String) : Bool :=
  name == service && oldOwner == owner && newOwner != owner

def traySignalNeedsRefresh : Option String → Bool
  | none => false
  | some member => ["PropertiesChanged", "NewIcon", "NewAttentionIcon", "NewOverlayIcon", "NewStatus",
      "NewIconThemePath"].contains member

def trayItem (registration : Registration) (content : Content Image) : TrayItem Image where
  id := registration.id
  service := registration.service
  path := registration.path
  icon := content.icon
  visible := content.visible
  menuPath := content.menuPath
  owner := registration.owner

namespace Monitor

/-- What a thread does on its own. -/
def advance (self : Monitor Image) (owners : String → Option String) (happening : Happening Image) : Monitor Image :=
  match self.phase, happening with
  | .starting, .proceed true =>
      { self with phase := match self.job with | .owner => .subscribed | .signals => .waiting }
  | .starting, .proceed false => { self with phase := .removing }
  | .subscribed, .proceed ok =>
      match if ok then owners self.registration.service else none with
      | some owner => { self with phase := .queried owner }
      | none => { self with phase := .removing }
  | .queried owner, .proceed ok =>
      { self with
        phase := if ok && owners self.registration.service = some owner then .watching owner else .removing }
  | .watching owner, .proceed _ =>
      match self.signals with
      | [] => self
      | (name, oldOwner, newOwner) :: signals =>
          if trayServiceOwnerLost name oldOwner newOwner self.registration.service owner then
            { self with phase := .removing, signals }
          else { self with signals }
  | .watching _, .ended => { self with phase := .removing }
  | .waiting, .signal member => if traySignalNeedsRefresh member then { self with phase := .loading } else self
  | .waiting, .ended => { self with phase := .removing }
  | .loading, .load content => { self with phase := .loaded content }
  | _, _ => self

/-- The bus tells of a change of owner. -/
def hear (self : Monitor Image) (signal : String × String × String) : Monitor Image :=
  match self.phase with
  | .subscribed | .queried _ | .watching _ => { self with signals := self.signals ++ [signal] }
  | _ => self

end Monitor

namespace App

variable (self : App Image)

def ids : List String := self.items.map Registration.id

def changeOwner (service : String) (owner : Option String) : App Image :=
  { self with
    owners := Function.update self.owners service owner
    monitors := self.monitors.map fun monitor =>
      monitor.hear (service, (self.owners service).getD "", owner.getD "") }

/-- A path belongs to the connection that registers it. -/
def registration (value : String) (sender : Option String) : Option Registration :=
  let value := String.ofList (value.toList.take 256)
  let place :=
    if value.toList.head? = some '/' then sender.map fun service => (service, value)
    else some (value, "/StatusNotifierItem")
  place.map fun (service, path) => { id := service ++ path, service, path, owner := self.owners service }

/-- The list is locked until the item is loaded and sent and the threads are started. -/
def register (value : String) (sender : Option String) (content : Content Image) : App Image × List Observation :=
  match self.registration value sender with
  | none => (self, [])
  | some registration =>
      if registration.id ∈ self.ids then (self, [.called registration])
      else
        ({ self with
            items := self.items ++ [registration]
            events := self.events ++ [.upsert (trayItem registration content)]
            monitors := self.monitors ++ [{ job := .owner, registration }, { job := .signals, registration }] },
          [.called registration])

def setPhase (index : Nat) (monitor : Monitor Image) (phase : Phase Image) : App Image :=
  { self with monitors := self.monitors.set index { monitor with phase } }

/-- The first half of `remove_tray_item`, which has the list locked. -/
def unlist (index : Nat) (monitor : Monitor Image) : App Image × List Observation :=
  match self.items.find? fun entry => entry.id = monitor.registration.id with
  | none => (self.setPhase index monitor .done, [])
  | some entry =>
      ({ self.setPhase index monitor .sending with
          items := self.items.eraseP fun entry => entry.id = monitor.registration.id },
        [.unlisted monitor.registration entry])

def monitorStep (index : Nat) (happening : Happening Image) : App Image × List Observation :=
  match self.monitors[index]? with
  | none => (self, [])
  | some monitor =>
      match monitor.phase with
      | .removing => self.unlist index monitor
      | .sending =>
          ({ self.setPhase index monitor .done with events := self.events ++ [.remove monitor.registration.id] }, [])
      | .loaded content =>
          ({ self.setPhase index monitor .waiting with
              events := self.events ++ [.upsert (trayItem monitor.registration content)] }, [])
      | _ => ({ self with monitors := self.monitors.set index (monitor.advance self.owners happening) }, [])

/-- The shell's list once it has an event. -/
def handle (tray : List (TrayItem Image)) : TrayEvent Image → List (TrayItem Image)
  | .upsert item => upsert TrayItem.id item tray
  | .remove id => tray.filter fun item => item.id ≠ id

def deliver : App Image :=
  match self.events with
  | [] => self
  | event :: events => { self with events, tray := handle self.tray event }

def step (self : App Image) : Input Image → App Image × List Observation
  | .changeOwner service owner => (self.changeOwner service owner, [.changed service])
  | .register value sender content => self.register value sender content
  | .monitor index happening => self.monitorStep index happening
  | .deliver => (self.deliver, [])

end App

end Luma.Shell.NativeTray
