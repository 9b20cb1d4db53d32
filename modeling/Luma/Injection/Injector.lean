import Mathlib.Algebra.Group.Nat.Defs
import Luma.Library.ByteMemory

/-! The injector that loads a library into another process.

It stops every thread of the process, makes the first one call `dlopen` and the library's
initializer, puts back what it changed and lets the threads go. What the kernel and the process
answer is given by an environment.
-/

set_option autoImplicit false

namespace Luma.Injection

open Luma.Library

/-! ## The environment -/

def sigStop : Nat := 19

def sigTrap : Nat := 5

def maxTids : Nat := 1024

/-- What `wait_tid_stop` finds. -/
inductive Wait where
  | stopped (signal : Nat)
  | exited
  | failed
  deriving DecidableEq, Repr

structure Registers where
  rip : Nat
  rsp : Nat
  rax : Nat
  rdi : Nat
  rsi : Nat
  others : List Nat
  deriving DecidableEq, Repr

/-- A line of the list of mappings. -/
structure Mapping where
  start : Nat
  finish : Nat
  writable : Bool
  deriving DecidableEq, Repr

/-- What happens when the victim is made to call a function. -/
structure RemoteCall where
  setsRegisters : Bool
  continues : Bool
  /-- What the victim does until it stops. -/
  runs : Registers → (Nat → UInt8) → Registers × (Nat → UInt8)
  wait : Wait
  getsRegisters : Bool

structure Environment where
  /-- Where `dlopen` is in the process, unless the preparations fail. -/
  remoteDlopen : Option Nat
  initOffset : Nat
  /-- The entries of the task directory, unless it cannot be read, and those when it is read again. -/
  tasks : Option (List Nat)
  laterTasks : Option (List Nat)
  pendingSignals : Nat → Option Bool
  attaches : Nat → Bool
  waits : Nat → Wait
  getsRegisters : Bool
  peeksText : Bool
  /-- The mappings when they are read first and again. -/
  maps : Option (List Mapping)
  laterMaps : Option (List Mapping)
  /-- Whether the words of the path can be poked. -/
  pokesPath : Nat → Bool
  pokesText : Bool
  dlopenCall : RemoteCall
  hookBias : Nat
  initCall : RemoteCall

/-! ## Freezing the threads -/

/-- `list_task_ids`: the process's own thread comes first. -/
def listTaskIds (pid : Nat) (tasks : Option (List Nat)) : Option (List Nat) :=
  match tasks with
  | none => none
  | some found =>
    if maxTids < found.length then none
    else
      match found.idxOf? pid with
      | none => none
      | some index => some ((found.set index (found.headD pid)).set 0 pid)

/-- The loop that waits for the attached threads, with the signal each is to get when it is detached, and
whether all stopped as they should. -/
def waitAll (environment : Environment) : List Nat → List (Nat × Nat) × Bool
  | [] => ([], true)
  | tid :: tids =>
    match environment.waits tid with
    | .stopped signal =>
      if signal = sigStop then
        let (stopped, clean) := waitAll environment tids
        ((tid, 0) :: stopped, clean)
      else ([(tid, signal)], false)
    | _ => ([], false)

/-- The retry round, with the threads that were let go again at once. -/
def retry (environment : Environment) : List Nat → List (Nat × Nat) → List (Nat × Nat) × List Nat × Bool
  | [], stopped => (stopped, [], true)
  | tid :: fresh, stopped =>
    if maxTids ≤ stopped.length then (stopped, [], true)
    else if tid ∈ stopped.map Prod.fst then retry environment fresh stopped
    else if !environment.attaches tid then retry environment fresh stopped
    else
      match environment.waits tid with
      | .stopped signal =>
        if signal = sigStop then retry environment fresh (stopped ++ [(tid, 0)])
        else (stopped ++ [(tid, signal)], [], false)
      | _ =>
        let (held, dropped, clean) := retry environment fresh stopped
        (held, tid :: dropped, clean)

/-- How far the threads were stopped. -/
structure Freeze where
  attached : List Nat
  stopped : List (Nat × Nat) := []
  dropped : List Nat := []
  frozen : Bool := false
  deriving DecidableEq, Repr

def freeze (environment : Environment) (pid : Nat) (tids : List Nat) : Freeze :=
  if !tids.all environment.attaches then { attached := tids.takeWhile environment.attaches }
  else
    let (stopped, clean) := waitAll environment tids
    if !clean then { attached := tids, stopped }
    else
      match listTaskIds pid environment.laterTasks with
      | none => { attached := tids, stopped, frozen := true }
      | some fresh =>
        if tids.length < fresh.length then
          let (held, dropped, frozen) := retry environment fresh stopped
          { attached := held.map Prod.fst ++ dropped, stopped := held, dropped, frozen }
        else { attached := tids, stopped, frozen := true }

/-- The threads that are detached at the end or in the retry round, with the signals they get. -/
def Freeze.detached (freeze : Freeze) (tids : List Nat) : List (Nat × Nat) :=
  (if freeze.stopped = [] then tids.map (·, 0) else freeze.stopped) ++ freeze.dropped.map (·, 0)

/-! ## The victim -/

structure Victim where
  registers : Registers
  memory : Nat → UInt8
  /-- What the injector wrote last. -/
  poked : Nat → Option UInt8 := fun _ => none

namespace Victim

/-- The bytes with what follows them in memory up to a full word. -/
def word (self : Victim) (address : Nat) (bytes : List UInt8) : List UInt8 :=
  bytes ++ ByteMemory.load self.memory (address + bytes.length) (8 - bytes.length)

end Victim

def sub64 (first second : Nat) : Nat :=
  if second ≤ first then first - second else first + 2 ^ 64 - second

def align16 (address : Nat) : Nat := address - address % 16

/-- Where the path goes, below the stack pointer. -/
def pathAddress (rsp : Nat) : Nat := align16 (sub64 rsp 1024)

def callStack (rsp : Nat) : Nat := align16 (sub64 (pathAddress rsp) 1024)

/-- The loop of `mapping_writable`. -/
def findWritable (address length : Nat) : List Mapping → Bool
  | [] => false
  | mapping :: rest =>
    if mapping.start ≤ address ∧ (address + length) % 2 ^ 64 ≤ mapping.finish then mapping.writable
    else if address < mapping.start then false
    else findWritable address length rest

def mappingWritable (maps : Option (List Mapping)) (address length : Nat) : Bool :=
  length != 0 && (maps.map (findWritable address length)).getD false

/-- There is room below the stack pointer for the path and the calls. -/
def hasScratch (environment : Environment) (rsp pathLength : Nat) : Bool :=
  callStack rsp < rsp && mappingWritable environment.maps (callStack rsp) (rsp - callStack rsp) &&
    mappingWritable environment.laterMaps (pathAddress rsp) pathLength

/-- The victim is made to run from the registers, and the value that it returns, if it comes to the trap. -/
def Victim.call (self : Victim) (remote : RemoteCall) (registers : Registers) : Victim × Option Nat :=
  if !remote.setsRegisters then (self, none)
  else if !remote.continues then ({ self with registers }, none)
  else
    let after := remote.runs registers self.memory
    let stopped := { self with registers := after.1, memory := after.2 }
    if remote.wait ≠ .stopped sigTrap || !remote.getsRegisters then (stopped, none)
    else (stopped, some after.1.rax)

structure Outcome where
  result : Nat
  attached : List Nat := []
  detached : List (Nat × Nat) := []
  victim : Victim

end Luma.Injection
