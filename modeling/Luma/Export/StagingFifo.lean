import Luma.Export.StagingPool

/-! The staging pool is a queue: the worker submits what the import thread has taken, once and in its order. -/

set_option autoImplicit false

namespace Luma.Export.EncodeWorker

open Luma.Library

variable {capacity : Nat} {self : EncodeWorker capacity} {history : List (StagingEvent capacity)}
variable {index : Fin capacity}

/-! ## The worker -/

theorem pending_of_idle (idle : ∀ index, self.worker ≠ .submitting index) :
    self.pending = self.queue.contents.map fun index => (self.slots index).frame := by
  unfold pending
  cases place : self.worker with
  | submitting index => exact absurd place (idle index)
  | starting | stopped | waiting | fencing | retiring | ended => exact List.nil_append _

/-- The worker goes from one place without a slot to another. -/
theorem Staged.of_worker (staged : Staged history self) (worker : Encoding capacity) (failed : Bool)
    (before : held self.worker = none) (after : held worker = none) : Staged history { self with worker, failed } := by
  have free : ∀ {place : Encoding capacity}, held place = none → ∀ index, place ≠ .submitting index := by
    intro place none index same
    rw [same] at none
    cases none
  constructor
  · exact staged.nodup
  · exact staged.queued
  · intro other holds
    rw [show held worker = some other from holds] at after
    cases after
  · refine staged.relies.kept (fun _ _ => ⟨rfl, rfl⟩) ?_
    intro other _ out _
    refine ⟨out, ?_⟩
    show held worker ≠ _
    rw [after]
    exact (Option.some_ne_none _).symm
  · intro other reading
    right
    rcases staged.reading other reading with fencing | ⟨consumed, retiring | retired⟩
    · rw [fencing] at before
      cases before
    · rw [retiring] at before
      cases before
    · exact ⟨consumed, Or.inr retired⟩
  · exact staged.seen
  · have same : EncodeWorker.pending { self with worker, failed } = _ := pending_of_idle (free after)
    rw [same]
    exact staged.order.trans (congrArg _ (pending_of_idle (free before)))
  · exact staged.safe

/-- The worker changes the slot that it holds, which is not in the queue. -/
theorem Staged.works (staged : Staged history self) {slot : StagingSlot} {worker : Encoding capacity}
    {seen : List (StagingEvent capacity)} (holds : held self.worker = some index)
    (goes : held worker = some index ∧ slot.state = .queued ∨ held worker = none)
    (reads : slot.reading = true → Read { self.setSlot index slot with worker } index)
    (read : ∀ other, beingRead other (seen ++ history) = ((self.setSlot index slot).slots other).reading)
    (order : accepted (seen ++ history) = submitted (seen ++ history) ++
      EncodeWorker.pending { self.setSlot index slot with worker })
    (safe : Transition.Throughout Safe (seen ++ history)) :
    Staged (seen ++ history) { self.setSlot index slot with worker } := by
  obtain ⟨queued, out⟩ := staged.holding index holds
  have keeps : ∀ other, other ≠ index → (self.setSlot index slot).slots other = self.slots other := by
    intro other apart
    rw [slots_setSlot, if_neg apart]
  constructor
  · exact staged.nodup
  · intro other there
    show ((self.setSlot index slot).slots other).state = _
    rw [keeps other fun same => out (same ▸ there)]
    exact staged.queued other there
  · intro other holding
    have holding : held worker = some other := holding
    rcases goes with ⟨kept, state⟩ | gone
    · cases Option.some.inj (holding.symm.trans kept)
      show ((self.setSlot index slot).slots index).state = _ ∧ _
      rw [slots_setSlot, if_pos rfl]
      exact ⟨state, out⟩
    · rw [gone] at holding
      cases holding
  · refine staged.relies.kept ?_ ?_
    · intro other target
      have same := keeps other (staged.apart holds target)
      exact ⟨congrArg StagingSlot.state same, congrArg StagingSlot.frame same⟩
    · intro other target out unheld
      refine ⟨out, ?_⟩
      show held worker ≠ _
      rcases goes with ⟨kept, -⟩ | gone
      · rw [kept, ← holds]
        exact unheld
      · rw [gone]
        exact (Option.some_ne_none _).symm
  · intro other reading
    by_cases same : other = index
    · subst same
      have reading : ((self.setSlot other slot).slots other).reading = true := reading
      rw [slots_setSlot, if_pos rfl] at reading
      exact reads reading
    · have reading : ((self.setSlot index slot).slots other).reading = true := reading
      rw [keeps other same] at reading
      have free : held self.worker ≠ some other := by
        rw [holds]
        exact fun taken => same (Option.some.inj taken).symm
      rcases staged.reading other reading with fencing | ⟨consumed, retiring | retired⟩
      · exact absurd (by rw [fencing]; rfl) free
      · exact absurd (by rw [retiring]; rfl) free
      · right
        show ((self.setSlot index slot).slots other).consumed = true ∧
          (_ ∨ ((self.setSlot index slot).slots other).state = _)
        rw [keeps other same]
        exact ⟨consumed, Or.inr retired⟩
  · exact read
  · exact order
  · exact safe

theorem Staged.receive (staged : Staged history self) (place : self.worker = .waiting) :
    Staged history self.receive := by
  have waiting : ∀ index, self.worker ≠ .submitting index := by
    intro index same
    rw [place] at same
    cases same
  unfold EncodeWorker.receive
  cases taken : self.queue.pop with
  | none =>
    simp only
    split
    · exact staged.of_worker .ended self.failed (by rw [place]; rfl) rfl
    · exact staged
  | some pair =>
    obtain ⟨index, queue⟩ := pair
    have contents := (RingQueue.contents_pop taken).1
    have nodup := staged.nodup
    rw [contents, List.nodup_cons] at nodup
    have before : ∀ other ∈ queue.contents, other ∈ self.queue.contents := by
      intro other there
      rw [contents]
      exact List.mem_cons_of_mem _ there
    constructor
    · exact nodup.2
    · exact fun other there => staged.queued other (before other there)
    · intro other holds
      cases Option.some.inj (show some index = some other from holds)
      refine ⟨staged.queued index ?_, nodup.1⟩
      rw [contents]
      exact List.mem_cons_self
    · refine staged.relies.kept (fun _ _ => ⟨rfl, rfl⟩) ?_
      intro other _ out _
      refine ⟨fun there => out (before other there), ?_⟩
      intro taken
      cases Option.some.inj (show some index = some other from taken)
      apply out
      rw [contents]
      exact List.mem_cons_self
    · intro other reading
      right
      rcases staged.reading other reading with fencing | ⟨consumed, retiring | retired⟩
      · rw [place] at fencing
        cases fencing
      · rw [place] at retiring
        cases retiring
      · exact ⟨consumed, Or.inr retired⟩
    · exact staged.seen
    · refine staged.order.trans (congrArg _ ?_)
      rw [pending_of_idle waiting, contents]
      rfl
    · exact staged.safe

theorem Staged.seen_kept (staged : Staged history self) {slot : StagingSlot}
    (kept : slot.reading = (self.slots index).reading) (other : Fin capacity) :
    beingRead other history = ((self.setSlot index slot).slots other).reading := by
  rw [slots_setSlot, staged.seen]
  split
  · rename_i same
    rw [same, kept]
  · rfl

theorem Staged.seen_completed (staged : Staged history self) {slot : StagingSlot} (unread : slot.reading = false)
    (other : Fin capacity) :
    beingRead other (.completed index :: history) = ((self.setSlot index slot).slots other).reading := by
  rw [slots_setSlot]
  show (if index = other then false else beingRead other history) = _
  by_cases same : other = index
  · rw [if_pos same.symm, if_pos same, unread]
  · rw [if_neg fun taken => same taken.symm, if_neg same]
    exact staged.seen other

theorem Staged.submit (staged : Staged history self) (place : self.worker = .submitting index) (answer : Bool) :
    Staged (.submitted index (self.slots index).frame :: history) (self.submit index answer) := by
  have holds : held self.worker = some index := by
    rw [place]
    rfl
  obtain ⟨queued, out⟩ := staged.holding index holds
  have given : Staged ([.submitted index (self.slots index).frame] ++ history) { self.setSlot index
      { self.slots index with copied := false, reading := true } with worker := .fencing index } := by
    refine staged.works holds (Or.inl ⟨rfl, queued⟩) (fun _ => Or.inl rfl) ?_ ?_ ⟨trivial, staged.safe⟩
    · intro other
      rw [slots_setSlot]
      show (if index = other then true else beingRead other history) = _
      by_cases same : other = index
      · rw [if_pos same.symm, if_pos same]
      · rw [if_neg fun taken => same taken.symm, if_neg same]
        exact staged.seen other
    · show accepted history = (submitted history ++ [(self.slots index).frame]) ++ _
      have later : EncodeWorker.pending { self.setSlot index
          { self.slots index with copied := false, reading := true } with worker := .fencing index } =
            self.queue.contents.map fun index => (self.slots index).frame := by
        rw [pending_of_idle (by intro index same; cases same)]
        exact behind_setSlot _ out
      rw [later, staged.order]
      unfold pending
      rw [place, List.append_assoc]
  unfold EncodeWorker.submit
  simp only
  split
  · exact { given with }
  · exact { given with }

theorem Staged.workerStep (staged : Staged history self) (answer : EncodeAnswer) :
    Staged ((self.workerStep answer).2 ++ history) (self.workerStep answer).1 := by
  unfold EncodeWorker.workerStep
  cases place : self.worker with
  | starting =>
    simp only
    split
    · exact staged.of_worker .waiting self.failed (by rw [place]; rfl) rfl
    · exact staged.of_worker .stopped true (by rw [place]; rfl) rfl
  | waiting => exact staged.receive place
  | submitting index => exact staged.submit place answer.submitted
  | fencing index =>
    have holds : held self.worker = some index := by
      rw [place]
      rfl
    obtain ⟨queued, out⟩ := staged.holding index holds
    have waits : ∀ at_, self.worker ≠ .submitting at_ := by
      intro at_ same
      rw [place] at same
      cases same
    have same : ∀ slot, EncodeWorker.pending { self.setSlot index slot with worker := .retiring index } =
        self.pending := by
      intro slot
      rw [pending_of_idle waits, pending_of_idle (by intro at_ same; cases same)]
      exact behind_setSlot slot out
    simp only
    split
    · refine staged.works holds (Or.inl ⟨rfl, queued⟩) (fun _ => Or.inr ⟨?_, Or.inl rfl⟩) (staged.seen_kept rfl) ?_
        staged.safe
      · show ((self.setSlot index _).slots index).consumed = _
        rw [slots_setSlot, if_pos rfl]
      · exact staged.order.trans (congrArg _ (same _).symm)
    · refine staged.works holds (Or.inl ⟨rfl, queued⟩) ?_ (staged.seen_completed rfl) ?_ ⟨trivial, staged.safe⟩
      · intro reads
        cases reads
      · exact staged.order.trans (congrArg _ (same _).symm)
  | retiring index =>
    have holds : held self.worker = some index := by
      rw [place]
      rfl
    obtain ⟨queued, out⟩ := staged.holding index holds
    have waits : ∀ at_, self.worker ≠ .submitting at_ := by
      intro at_ same
      rw [place] at same
      cases same
    refine staged.works holds (Or.inr rfl) ?_ (staged.seen_kept rfl) ?_ staged.safe
    · intro reads
      rcases staged.reading index reads with fencing | ⟨consumed, -⟩
      · rw [place] at fencing
        cases fencing
      · right
        show ((self.setSlot index _).slots index).consumed = _ ∧ (_ ∨ ((self.setSlot index _).slots index).state = _)
        rw [slots_setSlot, if_pos rfl]
        exact ⟨consumed, Or.inr rfl⟩
    · refine staged.order.trans (congrArg _ ?_)
      rw [pending_of_idle waits, pending_of_idle (by intro at_ same; cases same)]
      exact (behind_setSlot _ out).symm
  | stopped => exact staged
  | ended => exact staged

/-! ## Every turn -/

/-- The GPU completes a read. -/
theorem Staged.completes (staged : Staged history self) {slots : Fin capacity → StagingSlot}
    (same : ∀ other, slots other =
      { self.slots other with reading := if other = index then false else (self.slots other).reading })
    (read : ∀ other, beingRead other (.completed index :: history) = (slots other).reading) :
    Staged (.completed index :: history) { self with slots } := by
  have states : ∀ other, (slots other).state = (self.slots other).state := by
    intro other
    rw [same]
  have frames : ∀ other, (slots other).frame = (self.slots other).frame := by
    intro other
    rw [same]
    rfl
  constructor
  · exact staged.nodup
  · exact fun other there => (states other).trans (staged.queued other there)
  · intro other holds
    have holding := staged.holding other holds
    exact ⟨(states other).trans holding.1, holding.2⟩
  · exact staged.relies.kept (fun other _ => ⟨states other, frames other⟩) (fun _ _ out unheld => ⟨out, unheld⟩)
  · intro other reading
    have reading : (slots other).reading = true := reading
    have reads : (self.slots other).reading = true := by
      rw [same] at reading
      by_cases here : other = index
      · rw [if_pos here] at reading
        cases reading
      · rw [if_neg here] at reading
        exact reading
    show _ ∨ (slots other).consumed = true ∧ (_ ∨ (slots other).state = _)
    rw [same]
    exact staged.reading other reads
  · exact read
  · refine staged.order.trans (congrArg _ (Eq.symm ?_))
    exact pending_congr rfl rfl fun other _ => frames other
  · exact ⟨trivial, staged.safe⟩

theorem Staged.complete (staged : Staged history self) (index : Fin capacity) :
    Staged ((self.complete index).2 ++ history) (self.complete index).1 := by
  unfold EncodeWorker.complete
  split
  · refine staged.completes ?_ (staged.seen_completed rfl)
    intro other
    rw [Function.update_apply]
    by_cases here : other = index
    · rw [if_pos here, if_pos here, here]
    · rw [if_neg here, if_neg here]
  · exact staged

theorem Staged.step (staged : Staged history self) (turn : StagingTurn capacity) :
    Staged ((step self turn).2 ++ history) (step self turn).1 := by
  cases turn with
  | copy frame sized =>
    unfold EncodeWorker.step
    cases place : self.importer with
    | idle =>
      simp only
      split
      · exact staged
      · exact staged.of_importer (.scanning 0 frame) trivial
    | scanning | copying | publishing | enqueueing => exact staged
  | importer answer => exact staged.importStep answer
  | worker answer => exact staged.workerStep answer
  | completed index => exact staged.complete index
  | close =>
    unfold EncodeWorker.step
    cases place : self.importer with
    | idle => exact staged.of_importer .idle trivial
    | scanning | copying | publishing | enqueueing => exact staged

theorem Staged.initial (positive : 0 < capacity) : Staged [] (initial positive) where
  nodup := List.nodup_nil
  queued := fun _ there => by cases there
  holding := fun _ holds => by cases holds
  relies := trivial
  reading := fun _ reading => by cases reading
  seen := fun _ => rfl
  order := rfl
  safe := trivial

theorem Staged.of_execution {positive : 0 < capacity} (run : Execution positive history self) :
    Staged history self := by
  refine run.invariant ?_ ?_
  · rintro _ rfl
    exact .initial positive
  · intro history self turn _ _ staged
    exact staged.step turn

/-! ## The cycle of a slot -/

theorem Cycles.stays (state : StagingState) : Cycles state state := by
  cases state with
  | free | queued | retiring => exact Or.inl rfl

theorem cycles_setSlot {slot : StagingSlot} (cycles : Cycles (self.slots index).state slot.state)
    (other : Fin capacity) : Cycles (self.slots other).state ((self.setSlot index slot).slots other).state := by
  rw [slots_setSlot]
  split
  · rename_i same
    exact same ▸ cycles
  · exact Cycles.stays _

theorem cycles_kept {slot : StagingSlot} (kept : slot.state = (self.slots index).state) (other : Fin capacity) :
    Cycles (self.slots other).state ((self.setSlot index slot).slots other).state :=
  cycles_setSlot (kept ▸ Cycles.stays _) other

theorem scan_cycles (offset : Nat) (frame : StagedFrame) (answer : ImportAnswer) (other : Fin capacity) :
    Cycles (self.slots other).state ((self.scan offset frame answer).slots other).state := by
  unfold EncodeWorker.scan
  split
  · exact Cycles.stays _
  simp only
  generalize self.scanned offset = index
  cases state : (self.slots index).state with
  | queued => exact Cycles.stays _
  | free => exact Cycles.stays _
  | retiring =>
    cases polled (self.slots index) answer.wait with
    | failed => exact Cycles.stays _
    | expired => exact Cycles.stays _
    | signalled =>
      refine cycles_setSlot ?_ other
      rw [state]
      exact Or.inr rfl

theorem Staged.importStep_cycles (staged : Staged history self) (answer : ImportAnswer) (other : Fin capacity) :
    Cycles (self.slots other).state ((self.importStep answer).1.slots other).state := by
  have relies := staged.relies
  unfold EncodeWorker.importStep
  cases place : self.importer with
  | idle => exact Cycles.stays _
  | scanning offset frame => exact scan_cycles offset frame answer other
  | copying index frame =>
    apply cycles_kept
    rfl
  | publishing index frame =>
    rw [place] at relies
    refine cycles_setSlot ?_ other
    rw [relies.1]
    exact Or.inr rfl
  | enqueueing index frame =>
    simp only [EncodeWorker.enqueue]
    split
    · exact Cycles.stays _
    · exact Cycles.stays _

theorem Staged.workerStep_cycles (staged : Staged history self) (answer : EncodeAnswer) (other : Fin capacity) :
    Cycles (self.slots other).state ((self.workerStep answer).1.slots other).state := by
  unfold EncodeWorker.workerStep
  cases place : self.worker with
  | starting =>
    simp only
    split
    · exact Cycles.stays _
    · exact Cycles.stays _
  | waiting =>
    simp only [EncodeWorker.receive]
    split
    · split
      · exact Cycles.stays _
      · exact Cycles.stays _
    · exact Cycles.stays _
  | submitting index =>
    simp only [EncodeWorker.submit]
    split
    · apply cycles_kept
      rfl
    · apply cycles_kept
      rfl
  | fencing index =>
    simp only
    split
    · apply cycles_kept
      rfl
    · apply cycles_kept
      rfl
  | retiring index =>
    refine cycles_setSlot ?_ other
    rw [(staged.holding index (by rw [place]; rfl)).1]
    exact Or.inr rfl
  | stopped => exact Cycles.stays _
  | ended => exact Cycles.stays _

theorem Staged.step_cycles (staged : Staged history self) (turn : StagingTurn capacity) (other : Fin capacity) :
    Cycles (self.slots other).state ((EncodeWorker.step self turn).1.slots other).state := by
  cases turn with
  | copy frame sized =>
    unfold EncodeWorker.step
    cases self.importer with
    | idle =>
      simp only
      split
      · exact Cycles.stays _
      · exact Cycles.stays _
    | scanning | copying | publishing | enqueueing => exact Cycles.stays _
  | importer answer => exact staged.importStep_cycles answer other
  | worker answer => exact staged.workerStep_cycles answer other
  | completed index =>
    simp only [EncodeWorker.step, EncodeWorker.complete]
    split
    · apply cycles_kept
      rfl
    · exact Cycles.stays _
  | close =>
    unfold EncodeWorker.step
    cases self.importer with
    | idle | scanning | copying | publishing | enqueueing => exact Cycles.stays _

/-! ## The queue ends empty -/

/-- The worker is in its loop, or was. -/
def Loops : Encoding capacity → Prop
  | .starting | .stopped => False
  | .waiting | .submitting _ | .fencing _ | .retiring _ | .ended => True

/-- Closing ends the calls, and an empty queue then ends the loop. -/
structure Shut (pool : EncodeWorker capacity) : Prop where
  idle : pool.closing = true → pool.importer = .idle
  drained : pool.worker = .ended → pool.closing = true ∧ pool.queue.contents = []

theorem importStep_keeps (self : EncodeWorker capacity) (answer : ImportAnswer) :
    (self.importStep answer).1.closing = self.closing ∧ (self.importStep answer).1.worker = self.worker := by
  unfold EncodeWorker.importStep
  cases self.importer with
  | idle => exact ⟨rfl, rfl⟩
  | scanning offset frame =>
    unfold EncodeWorker.scan
    grind [EncodeWorker.setSlot]
  | copying | publishing => exact ⟨rfl, rfl⟩
  | enqueueing index frame =>
    simp only [EncodeWorker.enqueue]
    split
    · exact ⟨rfl, rfl⟩
    · exact ⟨rfl, rfl⟩

theorem Shut.step (shut : Shut self) (turn : StagingTurn capacity) : Shut (EncodeWorker.step self turn).1 := by
  cases turn with
  | copy frame sized =>
    unfold EncodeWorker.step
    cases place : self.importer with
    | idle =>
      simp only
      cases closing : self.closing with
      | true => exact shut
      | false =>
        simp only [Bool.false_or]
        split
        · exact shut
        · constructor
          · intro closes
            cases closes
          · intro ended
            cases closing.symm.trans (shut.drained ended).1
    | scanning | copying | publishing | enqueueing => exact shut
  | importer answer =>
    show Shut (self.importStep answer).1
    obtain ⟨closing, worker⟩ := importStep_keeps self answer
    cases closes : self.closing with
    | true =>
      have idle : self.importStep answer = (self, []) := by
        unfold EncodeWorker.importStep
        rw [shut.idle closes]
      rw [idle]
      exact shut
    | false =>
      constructor
      · intro closed
        cases closes.symm.trans (closing.symm.trans closed)
      · intro ended
        cases closes.symm.trans (shut.drained (worker.symm.trans ended)).1
  | worker answer =>
    show Shut (self.workerStep answer).1
    unfold EncodeWorker.workerStep
    cases place : self.worker with
    | starting =>
      simp only
      split
      · exact ⟨shut.idle, fun ended => by cases ended⟩
      · exact ⟨shut.idle, fun ended => by cases ended⟩
    | waiting =>
      simp only [EncodeWorker.receive]
      cases taken : self.queue.pop with
      | none =>
        simp only
        split
        · rename_i closing
          exact ⟨shut.idle, fun _ => ⟨closing, RingQueue.pop_none.mp taken⟩⟩
        · exact shut
      | some pair => exact ⟨shut.idle, fun ended => by cases ended⟩
    | submitting index =>
      simp only [EncodeWorker.submit]
      split
      · exact ⟨shut.idle, fun ended => by cases ended⟩
      · exact ⟨shut.idle, fun ended => by cases ended⟩
    | fencing index =>
      simp only
      split
      · exact ⟨shut.idle, fun ended => by cases ended⟩
      · exact ⟨shut.idle, fun ended => by cases ended⟩
    | retiring index => exact ⟨shut.idle, fun ended => by cases ended⟩
    | stopped => exact shut
    | ended => exact shut
  | completed index =>
    simp only [EncodeWorker.step, EncodeWorker.complete]
    split
    · exact ⟨shut.idle, shut.drained⟩
    · exact shut
  | close =>
    unfold EncodeWorker.step
    cases self.importer with
    | idle => exact ⟨fun _ => rfl, fun ended => ⟨rfl, (shut.drained ended).2⟩⟩
    | scanning | copying | publishing | enqueueing => exact shut

theorem Shut.of_execution {positive : 0 < capacity} (run : Execution positive history self) : Shut self := by
  refine run.state_invariant ?_ ?_
  · rintro _ rfl
    exact ⟨fun _ => rfl, fun ended => by cases ended⟩
  · intro _ _ turn _ shut
    exact shut.step turn

def isWorker : StagingTurn capacity → Bool
  | .worker _ => true
  | .copy _ _ | .importer _ | .completed _ | .close => false

/-- The turns of the worker since it began with the frame before: every frame takes four. -/
def ahead : Encoding capacity → Nat
  | .starting | .stopped | .fencing _ | .ended => 0
  | .retiring _ => 1
  | .waiting => 2
  | .submitting _ => 3

theorem ahead_lt (place : Encoding capacity) : ahead place < 4 := by
  cases place with
  | starting | stopped | waiting | submitting | fencing | retiring | ended => simp [ahead]

theorem accepted_append (later : List (StagingEvent capacity)) :
    accepted (later ++ history) = accepted history ++ accepted later := by
  induction later with
  | nil => exact (List.append_nil _).symm
  | cons event later ih =>
    cases event with
    | accepted frame =>
      show accepted (later ++ history) ++ [frame] = accepted history ++ (accepted later ++ [frame])
      rw [ih, List.append_assoc]
    | overwritten | overflowed | submitted | completed => exact ih

theorem step_others (self : EncodeWorker capacity) (history : List (StagingEvent capacity))
    {turn : StagingTurn capacity} (others : isWorker turn = false) :
    (EncodeWorker.step self turn).1.worker = self.worker ∧
      submitted ((EncodeWorker.step self turn).2 ++ history) = submitted history := by
  cases turn with
  | copy frame sized =>
    unfold EncodeWorker.step
    cases self.importer with
    | idle =>
      simp only
      split
      · exact ⟨rfl, rfl⟩
      · exact ⟨rfl, rfl⟩
    | scanning | copying | publishing | enqueueing => exact ⟨rfl, rfl⟩
  | importer answer =>
    refine ⟨(importStep_keeps self answer).2, ?_⟩
    simp only [EncodeWorker.step, EncodeWorker.importStep]
    cases self.importer with
    | idle | scanning | copying | publishing => rfl
    | enqueueing index frame =>
      simp only [EncodeWorker.enqueue]
      split
      · rfl
      · rfl
  | worker answer => cases others
  | completed index =>
    simp only [EncodeWorker.step, EncodeWorker.complete]
    split
    · exact ⟨rfl, rfl⟩
    · exact ⟨rfl, rfl⟩
  | close =>
    unfold EncodeWorker.step
    cases self.importer with
    | idle | scanning | copying | publishing | enqueueing => exact ⟨rfl, rfl⟩

/-- A frame that is not submitted keeps the worker going. -/
theorem Staged.advances (staged : Staged history self) (shut : Shut self) (loops : Loops self.worker)
    (answer : EncodeAnswer) :
    Loops (self.workerStep answer).1.worker ∧
      (submitted history).length ≤ (submitted ((self.workerStep answer).2 ++ history)).length ∧
      ((submitted history).length < (accepted history).length →
        4 * (submitted history).length + ahead self.worker + 1 ≤
          4 * (submitted ((self.workerStep answer).2 ++ history)).length +
            ahead (self.workerStep answer).1.worker) := by
  have order := congrArg List.length staged.order
  rw [List.length_append] at order
  unfold EncodeWorker.workerStep
  cases place : self.worker with
  | starting | stopped =>
    rw [place] at loops
    exact loops.elim
  | waiting =>
    have behind : self.pending = _ := pending_of_idle (by intro index same; rw [place] at same; cases same)
    simp only [EncodeWorker.receive]
    cases taken : self.queue.pop with
    | none =>
      have none := RingQueue.pop_none.mp taken
      rw [behind, none] at order
      have equal : ¬(submitted history).length < (accepted history).length := Nat.not_lt.mpr (Nat.le_of_eq order)
      simp only
      split
      · exact ⟨trivial, Nat.le_refl _, fun fewer => absurd fewer equal⟩
      · refine ⟨?_, Nat.le_refl _, fun fewer => absurd fewer equal⟩
        show Loops self.worker
        rw [place]
        trivial
    | some pair => exact ⟨trivial, Nat.le_refl _, fun _ => Nat.le_refl _⟩
  | submitting index =>
    have more : (submitted (.submitted index (self.slots index).frame :: history)).length =
        (submitted history).length + 1 := List.length_append
    refine ⟨?_, ?_, ?_⟩
    · simp only [EncodeWorker.submit]
      split
      · trivial
      · trivial
    · exact Nat.le_of_lt (Nat.lt_of_lt_of_eq (Nat.lt_succ_self _) more.symm)
    · intro _
      show _ ≤ 4 * (submitted (.submitted index (self.slots index).frame :: history)).length + _
      rw [more]
      show _ + 3 + 1 ≤ _
      omega
  | fencing index =>
    simp only
    split
    · exact ⟨trivial, Nat.le_refl _, fun _ => Nat.le_refl _⟩
    · exact ⟨trivial, Nat.le_refl _, fun _ => Nat.le_refl _⟩
  | retiring index => exact ⟨trivial, Nat.le_refl _, fun _ => Nat.le_refl _⟩
  | ended =>
    have behind : self.pending = _ := pending_of_idle (by intro index same; rw [place] at same; cases same)
    rw [behind, (shut.drained place).2] at order
    have equal : ¬(submitted history).length < (accepted history).length := Nat.not_lt.mpr (Nat.le_of_eq order)
    refine ⟨?_, Nat.le_refl _, fun fewer => absurd fewer equal⟩
    show Loops self.worker
    rw [place]
    trivial

/-- The worker submits the first frames in four turns each. -/
theorem Staged.submits (turns : List (StagingTurn capacity)) (staged : Staged history self) (shut : Shut self)
    (loops : Loops self.worker) {frames : Nat} (taken : frames ≤ (accepted history).length)
    (enough : 4 * frames ≤ 4 * (submitted history).length + turns.countP isWorker + ahead self.worker) :
    frames ≤ (submitted ((Transition.execute EncodeWorker.step self turns).2 ++ history)).length := by
  induction turns generalizing self history with
  | nil =>
    have near := ahead_lt self.worker
    have frames : frames ≤ (submitted history).length := by
      rw [List.countP_nil] at enough
      omega
    exact frames
  | cons turn turns ih =>
    have after := staged.step turn
    have grown : (accepted history).length ≤ (accepted ((EncodeWorker.step self turn).2 ++ history)).length := by
      rw [accepted_append, List.length_append]
      exact Nat.le_add_right _ _
    show _ ≤ (submitted ((Transition.execute EncodeWorker.step (EncodeWorker.step self turn).1 turns).2 ++
      (EncodeWorker.step self turn).2 ++ history)).length
    rw [List.append_assoc]
    rw [List.countP_cons] at enough
    cases worker : isWorker turn with
    | false =>
      obtain ⟨same, kept⟩ := step_others self history worker
      refine ih after (shut.step turn) (same ▸ loops) (Nat.le_trans taken grown) ?_
      rw [kept, same]
      rw [worker] at enough
      exact enough
    | true =>
      cases turn with
      | worker answer =>
        obtain ⟨still, more, progress⟩ := staged.advances shut loops answer
        refine ih after (shut.step _) still (Nat.le_trans taken grown) ?_
        show _ ≤ 4 * (submitted ((self.workerStep answer).2 ++ history)).length + _ +
          ahead (self.workerStep answer).1.worker
        rw [if_pos worker] at enough
        by_cases fewer : (submitted history).length < (accepted history).length
        · have progress := progress fewer
          omega
        · omega
      | copy | importer | completed | close => cases worker

/-! ## Whole runs -/

/-- Whatever the order of the threads and of the fences, every slot goes through its cycle, the queue has a slot once
and has space for a free one, and no texture is copied over while it is read. The encoder gets the frames that were
taken, in their order: the ones before the pending ones so far, and all of them once the worker has had its turns. -/
theorem staged_frames {positive : 0 < capacity} (run : Execution positive history self) :
    Transition.Throughout Safe history ∧ self.queue.contents.Nodup ∧
      (∀ index, (self.slots index).state = .free → self.queue.count < capacity) ∧
      (∀ index frame, self.importer = .enqueueing index frame → self.queue.count < capacity) ∧
      (∀ turn index, Cycles (self.slots index).state ((EncodeWorker.step self turn).1.slots index).state) ∧
      accepted history = submitted history ++ self.pending ∧
      (Loops self.worker → ∀ turns, 4 * self.pending.length ≤ turns.countP isWorker →
        accepted history <+: submitted ((Transition.execute EncodeWorker.step self turns).2 ++ history)) := by
  have staged := Staged.of_execution run
  refine ⟨staged.safe, staged.nodup, ?_, ?_, staged.step_cycles, staged.order, ?_⟩
  · intro index state
    have other : (self.slots index).state ≠ .queued := by
      rw [state]
      decide
    exact staged.room (staged.unqueued other).1
  · intro index frame place
    have relies := staged.relies
    rw [place] at relies
    exact staged.room relies.2.1
  · intro loops turns enough
    have order := congrArg List.length staged.order
    rw [List.length_append] at order
    have all := staged.submits turns (.of_execution run) loops (Nat.le_refl _) (by omega)
    have final : Staged ((Transition.execute EncodeWorker.step self turns).2 ++ history)
        (Transition.execute EncodeWorker.step self turns).1 :=
      Staged.of_execution (run.execute turns (Transition.permits_unrestricted _ _ _ _))
    have taken := final.order
    rw [accepted_append] at taken
    exact List.prefix_of_prefix_length_le ⟨_, rfl⟩ ⟨_, taken.symm⟩ all

/-- Two frames are taken while the worker has the first one. -/
def twoFrames : List (StagingTurn 2) :=
  [.copy ⟨7, 1⟩ true, .importer {}, .importer {}, .worker {}, .importer {}, .importer {}, .worker {},
    .copy ⟨8, 2⟩ true, .importer {}, .importer {}, .worker {}, .importer {}, .importer {}]

theorem staged_frames_two :
    accepted (Transition.execute EncodeWorker.step (initial Nat.two_pos) twoFrames).2 = [⟨7, 1⟩, ⟨8, 2⟩] ∧
      accepted (Transition.execute EncodeWorker.step (initial Nat.two_pos) twoFrames).2 =
        submitted (Transition.execute EncodeWorker.step (initial Nat.two_pos) twoFrames).2 ++
          (Transition.execute EncodeWorker.step (initial Nat.two_pos) twoFrames).1.pending ∧
      (Transition.execute EncodeWorker.step (initial Nat.two_pos) twoFrames).1.pending = [⟨8, 2⟩] := by
  have run : Execution Nat.two_pos _ _ :=
    Transition.Run.execute twoFrames (.start rfl) (Transition.permits_unrestricted _ _ _ _)
  rw [List.append_nil] at run
  refine ⟨by decide +kernel, ?_, by decide +kernel⟩
  generalize Transition.execute EncodeWorker.step (initial Nat.two_pos) twoFrames = final at run ⊢
  obtain ⟨-, -, -, -, -, order, -⟩ := staged_frames run
  exact order

end Luma.Export.EncodeWorker
