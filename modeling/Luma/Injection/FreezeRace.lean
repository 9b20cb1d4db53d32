import Luma.Injection.Injector
import Luma.Library.Transition
import Mathlib.Logic.Function.Basic

/-! The freeze of a process whose threads come and go.

The injector reads the task directory entry by entry, and any thread may be missing in what it reads. A thread that is
attached runs on until it has stopped, and from then on only when it is let go.
-/

set_option autoImplicit false

namespace Luma.Injection

open Luma.Library

inductive ThreadMode where
  | running
  /-- Attached, and the stop is on its way, or the thread has exited and was not waited for. -/
  | attached
  | stopped (signal : Nat)
  deriving DecidableEq

def ThreadMode.moves : ThreadMode → Bool
  | .running | .attached => true
  | .stopped _ => false

/-- The injector, by its place in the code. -/
inductive FreezePlace where
  | opening
  | listing (seen : List Nat)
  | checking (tids left : List Nat)
  | attaching (tids left : List Nat)
  | waiting (tids left : List Nat)
  | reopening (tids : List Nat)
  | relisting (tids seen : List Nat)
  | retrying (tids fresh : List Nat)
  | confirming (tids : List Nat) (tid : Nat) (fresh : List Nat)
  /-- The victim is about to be continued, to load the library or to call its initializer. -/
  | preparing (tids : List Nat) (initializes : Bool)
  | executing (tids : List Nat) (initializes : Bool)
  | detaching (left : List Nat)
  | ended
  deriving DecidableEq

/-- The injector and the threads of the process that it is to freeze. -/
structure FreezeRace where
  pid : Nat
  alive : List Nat
  mode : Nat → ThreadMode := fun _ => .running
  place : FreezePlace := .opening

inductive FreezeEvent where
  /-- What `list_task_ids` finds, at first and when it is called again with so many threads stopped. -/
  | listed (tids : List Nat)
  | relisted (count : Nat) (tids : List Nat)
  /-- The retry round skips a thread: there is no room for it, or it cannot be attached or waited for. -/
  | missed (tid : Nat)
  deriving DecidableEq

inductive FreezeTurn where
  | spawn (parent child : Nat)
  | exit (tid : Nat)
  /-- A thread that is attached stops, by the stop or by a signal that comes before it. -/
  | stop (tid signal : Nat)
  /-- The whole process is gone. -/
  | die
  | opened (readable : Bool)
  | entry (tid : Nat)
  | finished
  | checked (pending : Option Bool)
  | attach (permitted : Bool)
  | wait
  | proceed (prepared : Bool)
  | returned (signal : Nat)
  | detach

namespace FreezeRace

def setMode (self : FreezeRace) (tid : Nat) (mode : ThreadMode) : FreezeRace :=
  { self with mode := Function.update self.mode tid mode }

/-! ## The threads -/

/-- A number is used again once nobody has to wait for it. -/
def spawn (self : FreezeRace) (parent child : Nat) : FreezeRace :=
  if parent ∈ self.alive ∧ (self.mode parent).moves ∧ child ∉ self.alive ∧ self.mode child = .running then
    { self with alive := self.alive ++ [child] }
  else self

def exit (self : FreezeRace) (tid : Nat) : FreezeRace :=
  if (self.mode tid).moves then
    { self with alive := self.alive.filter (· ≠ tid) }
  else self

def stop (self : FreezeRace) (tid signal : Nat) : FreezeRace :=
  if tid ∈ self.alive ∧ self.mode tid = .attached then self.setMode tid (.stopped signal) else self

/-! ## The injector -/

/-- `opendir`. -/
def opened (self : FreezeRace) (readable : Bool) : FreezeRace :=
  match self.place with
  | .opening =>
      if readable then { self with place := .listing [] } else { self with place := .ended }
  | .reopening tids =>
      if readable then { self with place := .relisting tids [] } else { self with place := .preparing tids false }
  | _ => self

/-- `readdir`. There is room for so many threads only. -/
def entry (self : FreezeRace) (tid : Nat) : FreezeRace :=
  match self.place with
  | .listing seen =>
      if tid ∈ self.alive ∧ tid ∉ seen then
        if maxTids ≤ seen.length then { self with place := .ended } else { self with place := .listing (seen ++ [tid]) }
      else self
  | .relisting tids seen =>
      if tid ∈ self.alive ∧ tid ∉ seen then
        if maxTids ≤ seen.length then { self with place := .preparing tids false }
        else { self with place := .relisting tids (seen ++ [tid]) }
      else self
  | _ => self

/-- The end of the directory. The retry round is only for a list that has grown. -/
def finished (self : FreezeRace) : FreezeRace × List FreezeEvent :=
  match self.place with
  | .listing seen =>
      match listTaskIds self.pid (some seen) with
      | none => ({ self with place := .ended }, [])
      | some tids => ({ self with place := .checking tids tids }, [.listed tids])
  | .relisting tids seen =>
      match listTaskIds self.pid (some seen) with
      | none => ({ self with place := .preparing tids false }, [])
      | some fresh =>
          if tids.length < fresh.length then
            ({ self with place := .retrying tids fresh }, [.relisted tids.length fresh])
          else ({ self with place := .preparing tids false }, [.relisted tids.length fresh])
  | _ => (self, [])

/-- `task_has_pending_signals`. -/
def checked (self : FreezeRace) (pending : Option Bool) : FreezeRace :=
  match self.place with
  | .checking tids [] => { self with place := .attaching tids tids }
  | .checking tids (_ :: left) =>
      if pending = some false then { self with place := .checking tids left } else { self with place := .ended }
  | _ => self

def attachable (self : FreezeRace) (tid : Nat) (permitted : Bool) : Bool :=
  permitted && tid ∈ self.alive && self.mode tid = .running

/-- `PTRACE_ATTACH`, at first and in the retry round. -/
def attach (self : FreezeRace) (permitted : Bool) : FreezeRace × List FreezeEvent :=
  match self.place with
  | .attaching tids [] => ({ self with place := .waiting tids tids }, [])
  | .attaching tids (tid :: left) =>
      if self.attachable tid permitted then
        ({ self.setMode tid .attached with place := .attaching tids left }, [])
      else ({ self with place := .detaching tids }, [])
  | .retrying tids [] => ({ self with place := .preparing tids false }, [])
  | .retrying tids (tid :: fresh) =>
      if maxTids ≤ tids.length then
        ({ self with place := .preparing tids false }, ((tid :: fresh).filter (· ∉ tids)).map .missed)
      else if tid ∈ tids then ({ self with place := .retrying tids fresh }, [])
      else if self.attachable tid permitted then
        ({ self.setMode tid .attached with place := .confirming tids tid fresh }, [])
      else ({ self with place := .retrying tids fresh }, [.missed tid])
  | _ => (self, [])

/-- `wait_tid_stop`. Whoever was confirmed as stopped is let go, or everybody if nobody was. -/
def wait (self : FreezeRace) : FreezeRace × List FreezeEvent :=
  match self.place with
  | .waiting tids [] => ({ self with place := .reopening tids }, [])
  | .waiting tids (tid :: left) =>
      let confirmed := tids.take (tids.length - (left.length + 1))
      if tid ∉ self.alive then
        ({ self.setMode tid .running with place := .detaching (if confirmed = [] then tids else confirmed) }, [])
      else
        match self.mode tid with
        | .stopped signal =>
            if signal = sigStop then ({ self with place := .waiting tids left }, [])
            else ({ self with place := .detaching (confirmed ++ [tid]) }, [])
        | _ => (self, [])
  | .confirming tids tid fresh =>
      if tid ∉ self.alive then
        ({ self.setMode tid .running with place := .retrying tids fresh }, [.missed tid])
      else
        match self.mode tid with
        | .stopped signal =>
            if signal = sigStop then ({ self with place := .retrying (tids ++ [tid]) fresh }, [])
            else ({ self with place := .detaching (tids ++ [tid]) }, [])
        | _ => (self, [])
  | _ => (self, [])

/-- Everything up to `PTRACE_CONT`, which may fail anywhere. -/
def proceed (self : FreezeRace) (prepared : Bool) : FreezeRace :=
  match self.place with
  | .preparing tids initializes =>
      if prepared && self.pid ∈ self.alive then
        { self.setMode self.pid .running with place := .executing tids initializes }
      else { self with place := .detaching tids }
  | _ => self

/-- The victim comes to the trap, or stops elsewhere, or is gone. -/
def returned (self : FreezeRace) (signal : Nat) : FreezeRace :=
  match self.place with
  | .executing tids initializes =>
      if self.pid ∉ self.alive then { self with place := .detaching tids }
      else if signal = sigTrap ∧ initializes = false then
        { self.setMode self.pid (.stopped signal) with place := .preparing tids true }
      else { self.setMode self.pid (.stopped signal) with place := .detaching tids }
  | _ => self

/-- `PTRACE_DETACH`, which does nothing to a thread that has not stopped. -/
def detach (self : FreezeRace) : FreezeRace :=
  match self.place with
  | .detaching [] => { self with place := .ended }
  | .detaching (tid :: left) =>
      if (self.mode tid).moves then { self with place := .detaching left }
      else { self.setMode tid .running with place := .detaching left }
  | _ => self

def step : Transition.Step FreezeRace FreezeTurn FreezeEvent := fun self turn =>
  match turn with
  | .spawn parent child => (self.spawn parent child, [])
  | .exit tid => (self.exit tid, [])
  | .stop tid signal => (self.stop tid signal, [])
  | .die => ({ self with alive := [] }, [])
  | .opened readable => (self.opened readable, [])
  | .entry tid => (self.entry tid, [])
  | .finished => self.finished
  | .checked pending => (self.checked pending, [])
  | .attach permitted => self.attach permitted
  | .wait => self.wait
  | .proceed prepared => (self.proceed prepared, [])
  | .returned signal => (self.returned signal, [])
  | .detach => (self.detach, [])

def start (pid : Nat) (threads : List Nat) : FreezeRace := { pid, alive := threads }

/-- The injector is started on a process with any threads. -/
abbrev Execution : List FreezeEvent → FreezeRace → Prop :=
  Transition.Run step Transition.unrestricted fun self => ∃ pid threads, self = start pid threads

end FreezeRace

end Luma.Injection
