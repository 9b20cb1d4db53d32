import Mathlib.Data.List.Basic

/-! A bounded queue between two threads that may each hang up.

`none` means that the caller would block. A send to a receiver that is gone
fails; values already queued can still be taken after the sender is gone.
-/

set_option autoImplicit false

namespace Luma.Library

structure SyncChannel (α : Type) where
  capacity : Nat
  queue : List α := []
  /-- Some sender is left. -/
  sending : Bool := true
  /-- The receiver is left. -/
  receiving : Bool := true
  deriving Repr

namespace SyncChannel

variable {α : Type}

/-- Whether the value went in, with the channel left behind. -/
def send (self : SyncChannel α) (value : α) : Option (Bool × SyncChannel α) :=
  if !self.receiving then some (false, self)
  else if self.queue.length < self.capacity then some (true, { self with queue := self.queue ++ [value] })
  else none

/-- The oldest value, or nothing once the queue is empty and the sender gone. -/
def recv (self : SyncChannel α) : Option (Option α × SyncChannel α) :=
  match self.queue with
  | value :: rest => some (some value, { self with queue := rest })
  | [] => if self.sending then none else some (none, self)

def dropSender (self : SyncChannel α) : SyncChannel α := { self with sending := false }

/-- What is still queued goes with the receiver. -/
def dropReceiver (self : SyncChannel α) : SyncChannel α := { self with queue := [], receiving := false }

theorem send_cases {self after : SyncChannel α} {value : α} {sent : Bool}
    (done : self.send value = some (sent, after)) :
    (sent = true ∧ self.receiving = true ∧ self.queue.length < self.capacity ∧
      after = { self with queue := self.queue ++ [value] }) ∨
    (sent = false ∧ self.receiving = false ∧ after = self) := by
  unfold send at done
  by_cases gone : (!self.receiving) = true
  · rw [if_pos gone] at done
    cases done
    exact .inr ⟨rfl, by simpa using gone, rfl⟩
  · rw [if_neg gone] at done
    by_cases space : self.queue.length < self.capacity
    · rw [if_pos space] at done
      cases done
      exact .inl ⟨rfl, by simpa using gone, space, rfl⟩
    · rw [if_neg space] at done
      cases done

theorem recv_cases {self after : SyncChannel α} {taken : Option α} (done : self.recv = some (taken, after)) :
    (∃ value rest, taken = some value ∧ self.queue = value :: rest ∧ after = { self with queue := rest }) ∨
    (taken = none ∧ self.queue = [] ∧ self.sending = false ∧ after = self) := by
  unfold recv at done
  split at done
  · rename_i value rest queued
    simp only [Option.some.injEq, Prod.mk.injEq] at done
    exact .inl ⟨value, rest, done.1.symm, queued, done.2.symm⟩
  · rename_i empty
    split at done
    · cases done
    · rename_i gone
      simp only [Option.some.injEq, Prod.mk.injEq] at done
      exact .inr ⟨done.1.symm, empty, by simpa using gone, done.2.symm⟩

/-- Once the sender is gone a receive never blocks. -/
theorem recv_of_hung_up {self : SyncChannel α} (gone : self.sending = false) :
    ∃ taken after, self.recv = some (taken, after) ∧ after.queue.length = self.queue.length - 1 ∧
      after.sending = false := by
  unfold recv
  cases queued : self.queue with
  | nil => exact ⟨none, self, by simp [gone], by simp [queued], gone⟩
  | cons value rest => exact ⟨some value, _, rfl, by simp, gone⟩

end SyncChannel

end Luma.Library
