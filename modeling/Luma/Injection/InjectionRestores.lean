import Luma.Injection.Injector
import Mathlib.Data.List.TakeWhile

/-! What the injection leaves behind.

The registers and the interrupted instruction are always put back. Which threads are let go depends
on the thread at which the freeze stops short, and which bytes above the scratch area are written
depends on the length of the path.
-/

set_option autoImplicit false

namespace Luma.Injection

open Luma.Library

/-- The signal that the thread is to get when it is detached. -/
def Environment.due (environment : Environment) (tid : Nat) : Nat :=
  match environment.waits tid with
  | .stopped signal => if signal = sigStop then 0 else signal
  | _ => 0

/-- No attached thread is forgotten and none loses its signal. -/
structure ThreadsKept (environment : Environment) (tids : List Nat) : Prop where
  /-- Before one that cannot be attached, no thread stops with another signal. -/
  unattached : ∀ before tid after, tids = before ++ tid :: after → (∀ other ∈ before, environment.attaches other = true) →
    environment.attaches tid = false → ∀ other ∈ before, environment.due other = 0
  /-- If the first one does not stop, the others stop with no other signal. -/
  first : ∀ tid after, tids = tid :: after → (∀ other ∈ tids, environment.attaches other = true) →
    (∀ signal, environment.waits tid ≠ .stopped signal) → ∀ other ∈ after, environment.due other = 0
  /-- After any other one that does not stop as it should, no thread is left. -/
  later : ∀ before tid after, tids = before ++ tid :: after → (∀ other ∈ tids, environment.attaches other = true) →
    (∀ other ∈ before, environment.waits other = .stopped sigStop) → environment.waits tid ≠ .stopped sigStop →
    (before ≠ [] ∨ ∃ signal, environment.waits tid = .stopped signal) →
    environment.waits tid ≠ .failed ∧ ∀ other ∈ after, other ∉ before → other ≠ tid → environment.waits other = .exited

variable {environment : Environment}

/-- All that were attached are let go as they should be. -/
def Released (environment : Environment) (attached : List Nat) (detached : List (Nat × Nat)) : Prop :=
  ∀ tid ∈ attached, environment.waits tid ≠ .exited → (tid, environment.due tid) ∈ detached ∧
    ∀ signal, (tid, signal) ∈ detached → signal = environment.due tid

/-- No thread that the retry round takes stops with another signal. -/
def NoneForeign (environment : Environment) : List Nat → List Nat → Prop
  | [], _ => True
  | tid :: fresh, held =>
    if maxTids ≤ held.length then True
    else if tid ∈ held ∨ environment.attaches tid = false ∨ environment.waits tid = .exited ∨
        environment.waits tid = .failed then NoneForeign environment fresh held
    else environment.waits tid = .stopped sigStop ∧ NoneForeign environment fresh (held ++ [tid])

/-- Every thread that the injector takes attaches and stops as it should. -/
structure Freezes (environment : Environment) (pid : Nat) (tids : List Nat) : Prop where
  attaches : ∀ tid ∈ tids, environment.attaches tid = true
  clean : ∀ tid ∈ tids, environment.waits tid = .stopped sigStop
  spawned : ∀ fresh, listTaskIds pid environment.laterTasks = some fresh → tids.length < fresh.length →
    NoneForeign environment fresh tids

namespace Victim

variable {self : Victim}

/-- A byte of the bytes is written: it and all words up to its own can be. -/
def Reaches (succeeds : Nat → Bool) (address : Nat) (bytes : List UInt8) (place : Nat) (byte : UInt8) : Prop :=
  ∃ offset, place = address + offset ∧ bytes[offset]? = some byte ∧ ∀ index ≤ offset / 8, succeeds index = true

theorem Reaches.unique {succeeds : Nat → Bool} {address place : Nat} {bytes : List UInt8} {first second : UInt8}
    (one : Reaches succeeds address bytes place first) (other : Reaches succeeds address bytes place second) :
    first = second := by
  obtain ⟨offset, rfl, there, -⟩ := one
  obtain ⟨offset', same, there', -⟩ := other
  have equal : offset' = offset := by omega
  rw [equal, there, Option.some.injEq] at there'
  exact there'

/-- The path is not written into the red zone or above it, unless what it writes is there already. -/
def ScratchKept (environment : Environment) (path : List UInt8) (self : Victim) : Prop :=
  environment.getsRegisters = true → environment.peeksText = true →
    hasScratch environment self.registers.rsp path.length = true →
    ∀ place byte, Reaches environment.pokesPath (pathAddress self.registers.rsp) path place byte →
      self.registers.rsp - 128 ≤ place →
      (self.registers.rip ≤ place ∧ place < self.registers.rip + 8) ∨ byte = self.memory place

end Victim

/-! ## The whole injection -/

/-- What the injection depends on to restore its target, once it stops the first thread. -/
structure Kept (environment : Environment) (pid : Nat) (tids : List Nat) (path : List UInt8) (victim : Victim) :
    Prop where
  threads : ThreadsKept environment tids
  scratch : Freezes environment pid tids → victim.ScratchKept environment path

end Luma.Injection
