import Luma.Export.EncodeWorker
import Mathlib.Data.Fintype.Card

/-! What the threads around the staging pool keep, and that the import thread keeps it.

Whatever is in the queue is in the state for it, so a free slot leaves room for itself. A texture is copied over only
once the GPU has read it.
-/

set_option autoImplicit false

namespace Luma.Export.EncodeWorker

open Luma.Library

variable {capacity : Nat}

/-! ## The statement -/

/-- The frames that `copy` has taken, the oldest first. -/
def accepted : List (StagingEvent capacity) → List StagedFrame
  | [] => []
  | .accepted frame :: earlier => accepted earlier ++ [frame]
  | .overwritten _ :: earlier | .overflowed :: earlier | .submitted _ _ :: earlier | .completed _ :: earlier =>
      accepted earlier

/-- What was submitted to the encoder: the picture in the texture, and its time. -/
def submitted : List (StagingEvent capacity) → List StagedFrame
  | [] => []
  | .submitted _ frame :: earlier => submitted earlier ++ [frame]
  | .overwritten _ :: earlier | .overflowed :: earlier | .accepted _ :: earlier | .completed _ :: earlier =>
      submitted earlier

/-- The encoder's read of the texture is not complete. -/
def beingRead (index : Fin capacity) : List (StagingEvent capacity) → Bool
  | [] => false
  | .submitted other _ :: earlier => if other = index then true else beingRead index earlier
  | .completed other :: earlier => if other = index then false else beingRead index earlier
  | .overwritten _ :: earlier | .overflowed :: earlier | .accepted _ :: earlier => beingRead index earlier

/-- No texture is copied over while it is read, and the queue is never full. -/
def Safe : StagingEvent capacity → List (StagingEvent capacity) → Prop
  | .overwritten index, earlier => beingRead index earlier = false
  | .overflowed, _ => False
  | .accepted _, _ | .submitted _ _, _ | .completed _, _ => True

/-- One step of a slot's cycle, or none. -/
def Cycles : StagingState → StagingState → Prop
  | .free, after => after = .free ∨ after = .queued
  | .queued, after => after = .queued ∨ after = .retiring
  | .retiring, after => after = .retiring ∨ after = .free

/-- The frames that were taken and not submitted. -/
def pending (self : EncodeWorker capacity) : List StagedFrame :=
  (match self.worker with
    | .submitting index => [(self.slots index).frame]
    | _ => []) ++ self.queue.contents.map fun index => (self.slots index).frame

/-! ## The invariant -/

def held : Encoding capacity → Option (Fin capacity)
  | .submitting index | .fencing index | .retiring index => some index
  | .starting | .stopped | .waiting | .ended => none

/-- The slot that the import thread works on. -/
def target : Importer capacity → Option (Fin capacity)
  | .copying index _ | .publishing index _ | .enqueueing index _ => some index
  | .idle | .scanning _ _ => none

/-- What the import thread knows of the slot that it has found. -/
def Relies (self : EncodeWorker capacity) : Importer capacity → Prop
  | .copying index _ => (self.slots index).state = .free
  | .publishing index frame => (self.slots index).state = .free ∧ (self.slots index).texture = frame.source
  | .enqueueing index frame => (self.slots index).state = .queued ∧ index ∉ self.queue.contents ∧
      held self.worker ≠ some index ∧ (self.slots index).frame = frame
  | .idle | .scanning _ _ => True

/-- Where a read may be under way. -/
def Read (self : EncodeWorker capacity) (index : Fin capacity) : Prop :=
  self.worker = .fencing index ∨
    (self.slots index).consumed = true ∧ (self.worker = .retiring index ∨ (self.slots index).state = .retiring)

structure Staged (history : List (StagingEvent capacity)) (pool : EncodeWorker capacity) : Prop where
  nodup : pool.queue.contents.Nodup
  queued : ∀ index ∈ pool.queue.contents, (pool.slots index).state = .queued
  holding : ∀ index, held pool.worker = some index →
    (pool.slots index).state = .queued ∧ index ∉ pool.queue.contents
  relies : Relies pool pool.importer
  reading : ∀ index, (pool.slots index).reading = true → Read pool index
  seen : ∀ index, beingRead index history = (pool.slots index).reading
  order : accepted history = submitted history ++ pool.pending
  safe : Transition.Throughout Safe history

variable {self : EncodeWorker capacity} {history : List (StagingEvent capacity)} {index : Fin capacity}

theorem slots_setSlot (self : EncodeWorker capacity) (index : Fin capacity) (slot : StagingSlot)
    (other : Fin capacity) :
    (self.setSlot index slot).slots other = if other = index then slot else self.slots other :=
  Function.update_apply ..

theorem Staged.unqueued (staged : Staged history self) (state : (self.slots index).state ≠ .queued) :
    index ∉ self.queue.contents ∧ held self.worker ≠ some index :=
  ⟨fun there => state (staged.queued index there), fun holds => state (staged.holding index holds).1⟩

/-- The import thread keeps what it knows while its slot stays as it is, and out of the worker's way. -/
theorem Relies.kept {after : EncodeWorker capacity} {importer : Importer capacity} (relies : Relies self importer)
    (slots : ∀ index, target importer = some index →
      (after.slots index).state = (self.slots index).state ∧ (after.slots index).frame = (self.slots index).frame)
    (others : ∀ index, target importer = some index → index ∉ self.queue.contents → held self.worker ≠ some index →
      index ∉ after.queue.contents ∧ held after.worker ≠ some index) : Relies after importer := by
  cases importer with
  | idle | scanning => trivial
  | copying index frame =>
    have free : (self.slots index).state = .free := relies
    exact (slots index rfl).1.trans free
  | publishing index frame =>
    obtain ⟨free, picture⟩ : (self.slots index).state = .free ∧ (self.slots index).texture = frame.source := relies
    obtain ⟨state, same⟩ := slots index rfl
    exact ⟨state.trans free, (congrArg StagedFrame.source same).trans picture⟩
  | enqueueing index frame =>
    obtain ⟨queued, out, unheld, taken⟩ := relies
    obtain ⟨state, same⟩ := slots index rfl
    obtain ⟨out, unheld⟩ := others index rfl out unheld
    exact ⟨state.trans queued, out, unheld, same.trans taken⟩

/-- The import thread does not work on the slot that the worker has. -/
theorem Staged.apart (staged : Staged history self) (holds : held self.worker = some index) {other : Fin capacity}
    (works : target self.importer = some other) : other ≠ index := by
  have queued := (staged.holding index holds).1
  have relies := staged.relies
  rintro rfl
  cases place : self.importer with
  | idle | scanning =>
    rw [place] at works
    cases works
  | copying at_ frame =>
    rw [place] at works relies
    cases works
    have free : (self.slots other).state = .free := relies
    cases queued.symm.trans free
  | publishing at_ frame =>
    rw [place] at works relies
    cases works
    cases queued.symm.trans relies.1
  | enqueueing at_ frame =>
    rw [place] at works relies
    cases works
    exact relies.2.2.1 holds

/-- The encoder has read what is in a free slot. -/
theorem Staged.unread (staged : Staged history self) (state : (self.slots index).state = .free) :
    (self.slots index).reading = false := by
  have other : (self.slots index).state ≠ .queued := by
    rw [state]
    decide
  obtain ⟨-, unheld⟩ := staged.unqueued other
  rw [← Bool.not_eq_true]
  intro reading
  rcases staged.reading index reading with fencing | ⟨-, retiring | retired⟩
  · exact unheld (by rw [fencing]; rfl)
  · exact unheld (by rw [retiring]; rfl)
  · rw [state] at retired
    cases retired

/-- The queue does not see a slot that is not in it. -/
theorem behind_setSlot (slot : StagingSlot) (out : index ∉ self.queue.contents) :
    (self.queue.contents.map fun other => ((self.setSlot index slot).slots other).frame) =
      self.queue.contents.map fun other => (self.slots other).frame := by
  apply List.map_congr_left
  intro other there
  have apart : other ≠ index := fun same => out (same ▸ there)
  rw [slots_setSlot, if_neg apart]

/-- The pending frames are read off the queue and the slot that the worker is about to submit. -/
theorem pending_congr {after : EncodeWorker capacity} (worker : after.worker = self.worker)
    (queue : after.queue.contents = self.queue.contents)
    (frames : ∀ other, other ∈ self.queue.contents ∨ held self.worker = some other →
      (after.slots other).frame = (self.slots other).frame) : after.pending = self.pending := by
  unfold pending
  rw [worker, queue]
  congr 1
  · cases stage : self.worker with
    | submitting at_ =>
      have same := frames at_ (Or.inr (by rw [stage]; rfl))
      exact congrArg (fun frame => [frame]) same
    | starting | stopped | waiting | fencing | retiring | ended => rfl
  · apply List.map_congr_left
    intro other there
    exact frames other (Or.inl there)

theorem pending_setSlot (slot : StagingSlot) (out : index ∉ self.queue.contents)
    (unheld : held self.worker ≠ some index) : (self.setSlot index slot).pending = self.pending := by
  refine pending_congr rfl rfl ?_
  intro other used
  have apart : other ≠ index := by
    rintro rfl
    exact used.elim out unheld
  rw [slots_setSlot, if_neg apart]

/-! ## The import thread -/

/-- The import thread changes a slot that nobody else has. -/
theorem Staged.imports (staged : Staged history self) {slot : StagingSlot} {importer : Importer capacity}
    (state : (self.slots index).state ≠ .queued) (idle : (self.slots index).reading = false)
    (unread : slot.reading = false) (relies : Relies { self.setSlot index slot with importer } importer) :
    Staged history { self.setSlot index slot with importer } := by
  obtain ⟨out, unheld⟩ := staged.unqueued state
  constructor
  · exact staged.nodup
  · intro other there
    have apart : other ≠ index := fun same => out (same ▸ there)
    show ((self.setSlot index slot).slots other).state = _
    rw [slots_setSlot, if_neg apart]
    exact staged.queued other there
  · intro other holds
    have apart : other ≠ index := fun same => unheld (same ▸ holds)
    show ((self.setSlot index slot).slots other).state = _ ∧ _
    rw [slots_setSlot, if_neg apart]
    exact staged.holding other holds
  · exact relies
  · intro other reading
    have apart : other ≠ index := by
      rintro rfl
      have reads : ((self.setSlot other slot).slots other).reading = true := reading
      rw [slots_setSlot, if_pos rfl, unread] at reads
      cases reads
    have same : (self.setSlot index slot).slots other = self.slots other := by rw [slots_setSlot, if_neg apart]
    have reads : (self.slots other).reading = true := by
      rw [← same]
      exact reading
    unfold Read
    show _ ∨ ((self.setSlot index slot).slots other).consumed = true ∧
      (_ ∨ ((self.setSlot index slot).slots other).state = _)
    rw [same]
    exact staged.reading other reads
  · intro other
    show _ = ((self.setSlot index slot).slots other).reading
    rw [slots_setSlot, staged.seen]
    split
    · rename_i same
      rw [same, idle, unread]
    · rfl
  · exact staged.order.trans (congrArg _ (pending_setSlot slot out unheld).symm)
  · exact staged.safe

/-- Only the place of the import thread changes. -/
theorem Staged.of_importer (staged : Staged history self) (importer : Importer capacity)
    (relies : Relies self importer) {poolDrops : Nat} {failed closing : Bool} :
    Staged history { self with importer, poolDrops, failed, closing } :=
  { staged with relies := relies }

theorem Staged.scan (staged : Staged history self) (offset : Nat) (frame : StagedFrame) (answer : ImportAnswer) :
    Staged history (self.scan offset frame answer) := by
  unfold EncodeWorker.scan
  split
  · exact staged.of_importer .idle trivial
  simp only
  generalize self.scanned offset = index
  cases state : (self.slots index).state with
  | queued => exact staged.of_importer (.scanning (offset + 1) frame) trivial
  | free => exact staged.of_importer (.copying index frame) state
  | retiring =>
    cases wait : polled (self.slots index) answer.wait with
    | failed => exact staged.of_importer .idle trivial
    | expired => exact staged.of_importer (.scanning (offset + 1) frame) trivial
    | signalled =>
      have other : (self.slots index).state ≠ .queued := by
        rw [state]
        decide
      -- A signalled fence is behind the read. Without a fence there was none left.
      have idle : (self.slots index).reading = false := by
        unfold polled at wait
        cases reading : (self.slots index).reading with
        | false => rfl
        | true =>
          have consumed : (self.slots index).consumed = true := by
            obtain ⟨-, unheld⟩ := staged.unqueued other
            rcases staged.reading index reading with fencing | ⟨consumed, -⟩
            · exact absurd (by rw [fencing]; rfl) unheld
            · exact consumed
          rw [consumed, reading] at wait
          simp only [Bool.not_true, Bool.false_eq_true, ↓reduceIte, and_true] at wait
          split at wait
          · cases wait
          · rename_i unsignalled
            exact absurd wait unsignalled
      refine staged.imports other idle idle ?_
      show ((self.setSlot index _).slots index).state = _
      rw [slots_setSlot, if_pos rfl]

/-- The index is new in the queue, so the queue was not full. -/
theorem Staged.room (staged : Staged history self) (out : index ∉ self.queue.contents) :
    self.queue.count < capacity := by
  have distinct : (index :: self.queue.contents).Nodup := List.nodup_cons.mpr ⟨out, staged.nodup⟩
  have bound := distinct.length_le_card
  rw [List.length_cons, RingQueue.length_contents, Fintype.card_fin] at bound
  exact bound

theorem Staged.enqueue (staged : Staged history self) {frame : StagedFrame}
    (place : self.importer = .enqueueing index frame) :
    Staged ((self.enqueue index frame).2 ++ history) (self.enqueue index frame).1 := by
  have relies := staged.relies
  rw [place] at relies
  obtain ⟨state, out, unheld, same⟩ := relies
  have space := staged.room out
  have contents := RingQueue.contents_push index space
  unfold EncodeWorker.enqueue
  rw [if_neg (Nat.ne_of_lt space)]
  constructor
  · show (self.queue.push index).contents.Nodup
    rw [contents, List.nodup_append]
    refine ⟨staged.nodup, List.nodup_singleton _, ?_⟩
    intro first there second single
    cases List.mem_singleton.mp single
    exact fun same => out (same ▸ there)
  · intro other there
    have there : other ∈ (self.queue.push index).contents := there
    rw [contents] at there
    rcases List.mem_append.mp there with old | new
    · exact staged.queued other old
    · cases List.mem_singleton.mp new
      exact state
  · intro other holds
    refine ⟨(staged.holding other holds).1, ?_⟩
    show other ∉ (self.queue.push index).contents
    rw [contents]
    intro there
    rcases List.mem_append.mp there with old | new
    · exact (staged.holding other holds).2 old
    · cases List.mem_singleton.mp new
      exact unheld holds
  · trivial
  · exact staged.reading
  · exact staged.seen
  · show accepted history ++ [frame] = submitted history ++ _
    have later : EncodeWorker.pending { self with
        queue := self.queue.push index, scanNext := (index.val + 1) % capacity, importer := .idle } =
          self.pending ++ [frame] := by
      unfold pending
      rw [contents, List.map_append, List.map_singleton, same, List.append_assoc]
    rw [later, staged.order, List.append_assoc]
  · exact ⟨trivial, staged.safe⟩

theorem Staged.importStep (staged : Staged history self) (answer : ImportAnswer) :
    Staged ((self.importStep answer).2 ++ history) (self.importStep answer).1 := by
  have relies := staged.relies
  unfold EncodeWorker.importStep
  cases place : self.importer with
  | idle => exact staged
  | scanning offset frame => exact staged.scan offset frame answer
  | copying index frame =>
    rw [place] at relies
    have free : (self.slots index).state = .free := relies
    have unread := staged.unread free
    have other : (self.slots index).state ≠ .queued := by
      rw [free]
      decide
    have copies : Staged history { self.setSlot index
        { self.slots index with texture := frame.source, copied := answer.fence } with
          importer := .publishing index frame } := by
      refine staged.imports other unread unread ?_
      show ((self.setSlot index _).slots index).state = _ ∧ ((self.setSlot index _).slots index).texture = _
      rw [slots_setSlot, if_pos rfl]
      exact ⟨free, rfl⟩
    have safe : Safe (.overwritten index) history := (staged.seen index).trans unread
    exact { copies with safe := ⟨safe, staged.safe⟩ }
  | publishing index frame =>
    rw [place] at relies
    obtain ⟨free, picture⟩ : (self.slots index).state = .free ∧ (self.slots index).texture = frame.source := relies
    have unread := staged.unread free
    have other : (self.slots index).state ≠ .queued := by
      rw [free]
      decide
    obtain ⟨out, unheld⟩ := staged.unqueued other
    refine staged.imports other unread unread ?_
    unfold Relies
    show ((self.setSlot index _).slots index).state = _ ∧ _ ∧ _ ∧ ((self.setSlot index _).slots index).frame = _
    rw [slots_setSlot, if_pos rfl]
    refine ⟨rfl, out, unheld, ?_⟩
    unfold StagingSlot.frame
    rw [picture]
  | enqueueing index frame => exact staged.enqueue place

end Luma.Export.EncodeWorker
