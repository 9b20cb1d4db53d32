import Luma.Encoder.Transport

/-! Runs of the transport: what is enqueued is written, in its order and once.

A packet that comes in after the worker has left its loop on a stop stays in the ring. The
check of readiness does not exclude it, since it is made before the lock is taken.
-/

set_option autoImplicit false

namespace Luma.Encoder

open Luma.Library Luma.Library.Transition

def Worker.leftOnStop : Worker → Bool
  | .leaving written | .closing written | .ended written => written
  | _ => false

def Worker.failed : Worker → Bool
  | .releasing _ written | .leaving written | .closing written | .ended written => !written
  | _ => false

namespace Transport

def enqueued (history : List TransportEvent) : List (List UInt8) :=
  chronicle (fun | .enqueued packet => some packet | _ => none) history

def written (history : List TransportEvent) : List (List UInt8) :=
  chronicle (fun | .written packet => some packet | _ => none) history

def cutOff (history : List TransportEvent) : List (List UInt8) :=
  chronicle (fun | .writeFailed packet => some packet | _ => none) history

/-- What is promised of the queue at every moment of a run. -/
structure Delivered (history : List TransportEvent) (transport : Transport) : Prop where
  /-- The packets are written in their order, each once. Only the last write may fail. -/
  order : enqueued history =
    written history ++ cutOff history ++ transport.beingWritten ++ transport.queued
  one : (cutOff history).length ≤ 1
  slots : transport.transportInFlight = transport.readySlots.count + transport.held.length
  drained : .exited ∈ history → cutOff history = [] → written history = enqueued history

/-- No `enqueue` gets to the lock after the worker has left its loop on a stop. -/
def Timely : Condition Transport TransportInput TransportEvent := fun _ transport input =>
  match input with
  | .push caller => caller < transport.entering.length → transport.worker.leftOnStop = false
  | _ => True

instance : ∀ history transport input, Decidable (Timely history transport input)
  | _, transport, .push caller =>
      inferInstanceAs (Decidable (caller < transport.entering.length → transport.worker.leftOnStop = false))
  | _, _, .enqueue _ | _, _, .worker _ | _, _, .stop => .isTrue trivial

structure Ordered (history : List TransportEvent) (transport : Transport) : Prop where
  pooled : Pooled transport
  order : enqueued history =
    written history ++ cutOff history ++ transport.beingWritten ++ transport.queued
  failed : (cutOff history).length = transport.worker.failed.toNat
  emptied : transport.worker.leftOnStop = true → transport.readySlots.contents = []
  exited : .exited ∈ history ↔ ∃ written, transport.worker = .ended written

/-! ## One turn -/

/-- What a turn does to the queue. -/
inductive Effect (before : Transport) : TransportInput → Transport → List TransportEvent → Prop where
  /-- Nothing is put in or taken out. -/
  | quiet {input : TransportInput} {after : Transport} {seen : List TransportEvent} (held : after.held = before.held)
      (ring : after.readySlots = before.readySlots) (slots : after.slots = before.slots)
      (writing : after.beingWritten = before.beingWritten) (failed : after.worker.failed = before.worker.failed)
      (left : after.worker.leftOnStop = true → before.worker.leftOnStop = true ∨ before.readySlots.contents = [])
      (enqueued : enqueued seen = []) (written : written seen = []) (cutOff : cutOff seen = [])
      (exited : ∀ history, (.exited ∈ history ↔ ∃ written, before.worker = .ended written) →
        (.exited ∈ seen ++ history ↔ ∃ written, after.worker = .ended written)) : Effect before input after seen
  | pushed (caller : Nat) (unit : EncodedUnit) (index : Fin kQueueMax) (waits : before.entering[caller]? = some unit)
      (unused : (before.slots index).inUse = false) :
      Effect before (.push caller) { before.setSlot index { bytes := packetBytes before.fps unit, inUse := true } with
        readySlots := before.readySlots.push index, entering := before.entering.eraseIdx caller }
        [.enqueued (packetBytes before.fps unit)]
  | taken (succeeds : Bool) (slot : Fin kQueueMax) (rest : RingQueue kQueueMax (Fin kQueueMax)) (idle : before.worker = .waiting)
      (first : before.readySlots.pop = some (slot, rest)) :
      Effect before (.worker succeeds) { before with readySlots := rest, worker := .writing slot } []
  | wrote (slot : Fin kQueueMax) (succeeds : Bool) (writing : before.worker = .writing slot) :
      Effect before (.worker succeeds) { before with worker := .releasing slot succeeds }
        [if succeeds then .written (before.slots slot).bytes else .writeFailed (before.slots slot).bytes]
  | released (succeeds : Bool) (slot : Fin kQueueMax) (written : Bool)
      (releasing : before.worker = .releasing slot written) :
      Effect before (.worker succeeds) { before.setSlot slot {} with worker := if written then .waiting else .leaving false } []

theorem enter_effect (transport : Transport) (unit : EncodedUnit) :
    Effect transport (.enqueue unit) (transport.enter unit).1 (transport.enter unit).2 := by
  unfold enter
  split
  · exact .quiet rfl rfl rfl rfl rfl .inl rfl rfl rfl fun history same => by simpa using same
  · exact .quiet rfl rfl rfl rfl rfl .inl rfl rfl rfl fun history same => by simpa using same

theorem finishEnqueue_effect {transport : Transport} (pooled : Pooled transport) (caller : Nat) :
    Effect transport (.push caller) (transport.finishEnqueue caller).1 (transport.finishEnqueue caller).2 := by
  unfold finishEnqueue
  cases waits : transport.entering[caller]? with
  | none => exact .quiet rfl rfl rfl rfl rfl .inl rfl rfl rfl fun history same => by simpa using same
  | some unit =>
    by_cases space : transport.transportInFlight < kQueueMax
    · obtain ⟨index, unused, accepted⟩ := pooled.push_accepts space unit
      simp only [accepted]
      exact .pushed caller unit index waits unused
    · simp only [pooled.push_refuses space unit]
      exact .quiet rfl rfl rfl rfl rfl .inl rfl rfl rfl fun history same => by simpa using same

theorem work_effect (transport : Transport) (succeeds : Bool) :
    Effect transport (.worker succeeds) (transport.work succeeds).1 (transport.work succeeds).2 := by
  obtain ⟨worker, at_worker⟩ : ∃ worker, transport.worker = worker := ⟨_, rfl⟩
  unfold work
  rw [at_worker]
  cases worker with
  | starting =>
    cases succeeds <;>
      exact .quiet (by simp [held, at_worker]) rfl rfl (by simp [beingWritten, at_worker])
        (by simp [Worker.failed, at_worker]) (by simp [Worker.leftOnStop]) rfl rfl rfl (by simp [at_worker])
  | aborted => exact .quiet rfl rfl rfl rfl rfl .inl rfl rfl rfl fun history same => by simpa using same
  | waiting =>
    cases first : transport.readySlots.pop with
    | some pair => exact .taken succeeds pair.1 pair.2 at_worker first
    | none =>
      have empty := RingQueue.pop_none.mp first
      by_cases stopped : transport.stop = true
      · simp only [stopped]
        exact .quiet (by simp [held, at_worker]) rfl rfl (by simp [beingWritten, at_worker])
          (by simp [Worker.failed, at_worker]) (fun _ => .inr empty) rfl rfl rfl (by simp [at_worker])
      · simp only [stopped]
        exact .quiet rfl rfl rfl rfl rfl .inl rfl rfl rfl fun history same => by simpa using same
  | writing slot => exact .wrote slot succeeds at_worker
  | releasing slot written => exact .released succeeds slot written at_worker
  | leaving written =>
    exact .quiet (by simp [held, at_worker]) rfl rfl (by simp [beingWritten, at_worker])
      (by simp [Worker.failed, at_worker]) (fun left => .inl (by simpa [Worker.leftOnStop, at_worker] using left)) rfl rfl rfl (by simp [at_worker])
  | closing written =>
    exact .quiet (by simp [held, at_worker]) rfl rfl (by simp [beingWritten, at_worker])
      (by simp [Worker.failed, at_worker]) (fun left => .inl (by simpa [Worker.leftOnStop, at_worker] using left)) rfl rfl rfl (by simp)
  | ended written => exact .quiet rfl rfl rfl rfl rfl .inl rfl rfl rfl fun history same => by simpa using same

theorem step_effect {transport : Transport} (pooled : Pooled transport) (input : TransportInput) :
    Effect transport input (step transport input).1 (step transport input).2 := by
  cases input with
  | enqueue unit => exact enter_effect transport unit
  | push caller => exact finishEnqueue_effect pooled caller
  | worker succeeds => exact work_effect transport succeeds
  | stop => exact .quiet rfl rfl rfl rfl rfl .inl rfl rfl rfl fun history same => by simpa [step] using same

/-! ## The invariant -/

variable {history : List TransportEvent} {before after : Transport} {seen : List TransportEvent} {input : TransportInput}

theorem Pooled.pushed (pooled : Pooled before) {index : Fin kQueueMax} (unused : (before.slots index).inUse = false)
    (bytes : List UInt8) :
    Pooled { before.setSlot index { bytes, inUse := true } with readySlots := before.readySlots.push index } ∧
      Transport.transportInFlight
        { before.setSlot index { bytes, inUse := true } with readySlots := before.readySlots.push index } =
          before.transportInFlight + 1 := by
  have outside : index ∉ before.held ++ before.readySlots.contents := by
    rw [← pooled.inUse, unused]
    decide
  have space : before.readySlots.count < kQueueMax := by
    have bound := List.Nodup.length_le_card (List.nodup_cons.mpr ⟨outside, pooled.distinct⟩)
    rw [List.length_cons, List.length_append, RingQueue.length_contents, Fintype.card_fin] at bound
    omega
  have contents := RingQueue.contents_push index space
  have pools :
      Pooled { before.setSlot index { bytes, inUse := true } with readySlots := before.readySlots.push index } := by
    constructor
    · change (before.held ++ (before.readySlots.push index).contents).Nodup
      rw [contents, ← List.append_assoc, List.nodup_append]
      refine ⟨pooled.distinct, List.nodup_singleton _, fun first member second last => ?_⟩
      rw [List.mem_singleton.mp last]
      exact fun same => outside (same ▸ member)
    · intro other
      change (Function.update before.slots index _ other).inUse = true ↔
        other ∈ before.held ++ (before.readySlots.push index).contents
      rw [contents, ← List.append_assoc, List.mem_append, List.mem_singleton, ← pooled.inUse]
      by_cases same : other = index
      · subst same
        simp
      · simp [same]
  refine ⟨pools, ?_⟩
  rw [pools.inFlight, pooled.inFlight]
  change before.readySlots.count + 1 + before.held.length = _
  omega

theorem Pooled.kept (pooled : Pooled before) (effect : Effect before input after seen) : Pooled after := by
  cases effect with
  | quiet held ring slots => exact pooled.of_same held ring slots
  | pushed caller unit index waits unused =>
    exact (pooled.pushed unused (packetBytes before.fps unit)).1.of_same rfl rfl rfl
  | taken _ slot rest idle first =>
    obtain ⟨contents, -⟩ := RingQueue.contents_pop first
    have places : before.held ++ before.readySlots.contents = [slot] ++ rest.contents := by
      simp [held, idle, contents]
    exact ⟨places ▸ pooled.distinct, fun index => places ▸ pooled.inUse index⟩
  | wrote slot succeeds writing => exact pooled.of_same (by simp [held, writing]) rfl rfl
  | released _ slot written releasing =>
    have places : before.held ++ before.readySlots.contents = slot :: before.readySlots.contents := by
      simp [held, releasing]
    obtain ⟨distinct, inUse⟩ := pooled
    rw [places] at distinct
    obtain ⟨outside, distinct⟩ := List.nodup_cons.mp distinct
    have nothing : ({ before.setSlot slot {} with worker := if written then .waiting else .leaving false } :
        Transport).held = [] := by cases written <;> rfl
    constructor
    · rw [nothing]
      exact distinct
    · intro index
      rw [nothing]
      change (Function.update before.slots slot {} index).inUse = true ↔ index ∈ before.readySlots.contents
      by_cases same : index = slot
      · subst same
        simp [outside]
      · rw [Function.update_of_ne same, inUse, places, List.mem_cons]
        simp [same]

/-- A cell that is changed outside a list of places changes nothing in what stands there. -/
theorem map_bytes_setSlot {transport : Transport} {index : Fin kQueueMax} (slot : PacketSlot)
    {places : List (Fin kQueueMax)} (outside : index ∉ places) :
    places.map (fun place => ((transport.setSlot index slot).slots place).bytes) =
      places.map fun place => (transport.slots place).bytes := by
  apply List.map_congr_left
  intro place member
  have apart : place ≠ index := fun same => outside (same ▸ member)
  simp [setSlot, apart]

theorem beingWritten_setSlot {transport : Transport} {index : Fin kQueueMax} (slot : PacketSlot)
    (outside : index ∉ transport.held) : (transport.setSlot index slot).beingWritten = transport.beingWritten := by
  cases working : transport.worker with
  | writing place =>
    have apart : place ≠ index := by simpa [held, working, eq_comm] using outside
    simp [beingWritten, setSlot, working, apart]
  | _ => simp [beingWritten, setSlot, working]

theorem Pooled.unused (pooled : Pooled before) {index : Fin kQueueMax} (unused : (before.slots index).inUse = false) :
    index ∉ before.held ∧ index ∉ before.readySlots.contents := by
  have outside : index ∉ before.held ++ before.readySlots.contents := by
    rw [← pooled.inUse, unused]
    decide
  rw [List.mem_append] at outside
  exact not_or.mp outside

theorem Ordered.initial (fps : UInt32) : Ordered [] (Transport.initial fps) where
  pooled := {
    distinct := List.nodup_nil
    inUse := fun index => by simp [Transport.initial, held, RingQueue.contents]
  }
  order := rfl
  failed := rfl
  emptied := fun _ => rfl
  exited := by simp [Transport.initial]

theorem Ordered.kept (ordered : Ordered history before) (effect : Effect before input after seen)
    (timely : Timely history before input) : Ordered (seen ++ history) after := by
  obtain ⟨pooled, order, failed, emptied, exited⟩ := ordered
  have pools := pooled.kept effect
  cases effect with
  | quiet sameHeld ring slots writing sameFailed left noneEnqueued noneWritten noneCut ends =>
    refine ⟨pools, ?_, ?_, fun gone => ?_, ends history exited⟩
    · have same : after.queued = before.queued := by rw [queued, queued, ring, slots]
      unfold enqueued written cutOff at *
      simp only [chronicle_append, noneEnqueued, noneWritten, noneCut, List.append_nil, order, writing, same]
    · unfold cutOff at *
      rw [chronicle_append, noneCut, List.append_nil, failed, sameFailed]
    · rw [ring]
      exact (left gone).elim emptied id
  | pushed caller unit index waits unused =>
    obtain ⟨apart, outside⟩ := pooled.unused unused
    have space : before.readySlots.count < kQueueMax := by
      have bound := List.Nodup.length_le_card (List.nodup_cons.mpr
        ⟨by rw [List.mem_append]; exact not_or.mpr ⟨apart, outside⟩, pooled.distinct⟩)
      rw [List.length_cons, List.length_append, RingQueue.length_contents, Fintype.card_fin] at bound
      omega
    have stays := timely (List.getElem?_eq_some_iff.mp waits).1
    have more : Transport.queued { before.setSlot index { bytes := packetBytes before.fps unit, inUse := true } with
        readySlots := before.readySlots.push index, entering := before.entering.eraseIdx caller } =
          before.queued ++ [packetBytes before.fps unit] := by
      have cell : (Function.update before.slots index
          { bytes := packetBytes before.fps unit, inUse := true } index).bytes = packetBytes before.fps unit := by simp
      change (before.readySlots.push index).contents.map _ = _
      rw [RingQueue.contents_push index space, List.map_append, List.map_singleton]
      exact congrArg₂ (· ++ ·) (map_bytes_setSlot _ outside) (congrArg (fun bytes => [bytes]) cell)
    refine ⟨pools, ?_, failed, fun gone => ?_, ?_⟩
    · rw [more]
      unfold enqueued at *
      simp only [List.singleton_append, chronicle_cons, order]
      change _ = written history ++ cutOff history ++
        (before.setSlot index { bytes := packetBytes before.fps unit, inUse := true }).beingWritten ++ _
      rw [beingWritten_setSlot _ apart]
      simp
    · exact absurd (stays.symm.trans gone) (by decide)
    · simpa [setSlot] using exited
  | taken _ slot rest idle first =>
    obtain ⟨contents, -⟩ := RingQueue.contents_pop first
    refine ⟨pools, ?_, ?_, nofun, ?_⟩
    · rw [List.nil_append, order]
      simp [beingWritten, queued, idle, contents]
    · simpa [Worker.failed, idle] using failed
    · simpa [idle] using exited
  | wrote slot succeeds writing =>
    have clean : cutOff history = [] := by simpa [Worker.failed, writing] using failed
    refine ⟨pools, ?_, ?_, nofun, ?_⟩
    · have same : Transport.queued { before with worker := .releasing slot succeeds } = before.queued := rfl
      rw [same]
      cases succeeds
      · unfold enqueued written cutOff at *
        simp [order, clean, beingWritten, writing]
      · unfold enqueued written cutOff at *
        simp [order, clean, beingWritten, writing]
    · unfold cutOff at *
      cases succeeds <;> simp [clean, Worker.failed]
    · cases succeeds <;> simpa [writing] using exited
  | released _ slot succeeded releasing =>
    have outside : slot ∉ before.readySlots.contents := by
      have distinct := pooled.distinct
      simp only [held, releasing, List.singleton_append, List.nodup_cons] at distinct
      exact distinct.1
    refine ⟨pools, ?_, ?_, ?_, ?_⟩
    · have nothing : Transport.beingWritten { before.setSlot slot {} with
          worker := if succeeded then .waiting else .leaving false } = [] := by cases succeeded <;> rfl
      have same : Transport.queued { before.setSlot slot {} with
          worker := if succeeded then .waiting else .leaving false } = before.queued := map_bytes_setSlot _ outside
      rw [nothing, same, List.nil_append, order]
      simp [beingWritten, releasing]
    · rw [List.nil_append, failed, releasing]
      cases succeeded <;> rfl
    · cases succeeded <;> exact nofun
    · rw [List.nil_append, exited, releasing]
      cases succeeded <;> simp

theorem Ordered.of_run {fps : UInt32} {transport : Transport}
    (run : Run step Timely (· = Transport.initial fps) history transport) : Ordered history transport := by
  induction run with
  | start begun => subst begun; exact Ordered.initial fps
  | step input _ timely ih => exact ih.kept (step_effect ih.pooled input) timely

theorem Ordered.delivered {transport : Transport} (ordered : Ordered history transport) :
    Delivered history transport := by
  obtain ⟨pooled, order, failed, emptied, exited⟩ := ordered
  refine ⟨order, ?_, pooled.inFlight, fun gone clean => ?_⟩
  · rw [failed]
    exact Bool.toNat_le _
  · obtain ⟨final, ended⟩ := exited.mp gone
    rw [clean, ended] at failed
    obtain rfl : final = true := by
      cases final
      · cases failed
      · rfl
    have nothing := emptied (by rw [ended]; rfl)
    rw [order, clean]
    simp [beingWritten, queued, ended, nothing]

/-- The packet of an untimely push is taken, and the worker ends without it. -/
theorem Ordered.lost {transport : Transport} (ordered : Ordered history transport) {caller : Nat}
    (late : ¬Timely history transport (.push caller)) :
    ¬Delivered ((execute step transport [.push caller, .worker true, .worker true]).2 ++ history)
      (execute step transport [.push caller, .worker true, .worker true]).1 := by
  obtain ⟨pooled, order, failed, emptied, exited⟩ := ordered
  obtain ⟨waits, gone⟩ : caller < transport.entering.length ∧ transport.worker.leftOnStop = true := by
    simpa [Timely] using late
  have nothing := emptied gone
  have unit := List.getElem?_eq_getElem waits
  have clean : transport.held = [] ∧ transport.beingWritten = [] ∧ transport.worker.failed = false := by
    cases working : transport.worker with
    | leaving | closing | ended =>
      rw [working] at gone
      exact ⟨by simp [held, working], by simp [beingWritten, working], by simpa [Worker.failed, Worker.leftOnStop] using gone⟩
    | _ => rw [working] at gone; cases gone
  obtain ⟨unheld, unwritten, succeeded⟩ := clean
  have uncut : cutOff history = [] := by simpa [succeeded] using failed
  have all : enqueued history = written history := by simp [order, uncut, unwritten, queued, nothing]
  have empty : transport.transportInFlight < kQueueMax := by
    rw [pooled.inFlight, ← RingQueue.length_contents, nothing, unheld]
    decide
  obtain ⟨index, -, accepted⟩ := pooled.push_accepts empty transport.entering[caller]
  -- Whatever the worker still has to do, it ends in these two turns.
  intro delivered
  have final := delivered.drained
  unfold enqueued written cutOff at *
  have exits : ∀ other, other ∈ history → other = .exited → ∃ written, transport.worker = .ended written :=
    fun other member same => exited.mp (same ▸ member)
  cases working : transport.worker with
  | leaving value | closing value =>
    simp [execute, step, finishEnqueue, unit, accepted, work, working, setSlot, all, uncut] at final
  | ended value =>
    have seen := exited.mpr ⟨value, working⟩
    simp [execute, step, finishEnqueue, unit, accepted, work, working, setSlot, all, uncut, seen] at final
  | _ => rw [working] at gone; cases gone

/-- As long as every push is timely the queue keeps its promise, and the first one that
is not breaks it. -/
theorem queue_delivers {fps : UInt32} {history : List TransportEvent} {transport : Transport}
    (run : Run step Timely (· = Transport.initial fps) history transport) :
    Delivered history transport ∧ ∀ caller, ¬Timely history transport (.push caller) →
      ¬Delivered ((execute step transport [.push caller, .worker true, .worker true]).2 ++ history)
        (execute step transport [.push caller, .worker true, .worker true]).1 := by
  have ordered := Ordered.of_run run
  exact ⟨ordered.delivered, fun caller => ordered.lost⟩

/-- Two units are checked and one of them waits. A stop comes, and the worker leaves after it. -/
def interrupted : List TransportInput :=
  [.worker true, .enqueue ⟨[7], 1, true⟩, .enqueue ⟨[8], 2, false⟩, .push 0, .stop, .worker true, .worker true,
    .worker true, .worker true]

theorem queue_delivers_interrupted :
    Delivered (execute step (initial 60) interrupted).2 (execute step (initial 60) interrupted).1 ∧
      ¬Delivered (execute step (initial 60) (interrupted ++ [.push 0, .worker true, .worker true])).2
        (execute step (initial 60) (interrupted ++ [.push 0, .worker true, .worker true])).1 := by
  have run := Run.execute interrupted (.start rfl : Run step Timely (· = initial 60) [] _) (by decide)
  rw [List.append_nil] at run
  obtain ⟨kept, breaks⟩ := queue_delivers run
  refine ⟨kept, ?_⟩
  have lost := breaks 0 (by decide)
  rw [(execute_append step interrupted _ (initial 60)).1, (execute_append step interrupted _ (initial 60)).2]
  exact lost

/-- A unit that passes the check before the stop and the lock after it is never written. -/
theorem late_unit_lost : ¬∀ fps history transport, Run step unrestricted (· = initial fps) history transport →
    Delivered history transport := by
  intro delivers
  have run := Run.execute interrupted (.start rfl : Run step Timely (· = initial 60) [] _) (by decide)
  rw [List.append_nil] at run
  have late : ¬Timely (execute step (initial 60) interrupted).2 (execute step (initial 60) interrupted).1 (.push 0) := by
    decide
  have everything := Run.execute (interrupted ++ [.push 0, .worker true, .worker true])
    (.start rfl : Run step unrestricted (· = initial 60) [] _) (permits_unrestricted _ _ _ _)
  rw [List.append_nil, (execute_append step interrupted _ (initial 60)).1,
    (execute_append step interrupted _ (initial 60)).2] at everything
  exact (Ordered.of_run run).lost late (delivers _ _ _ everything)

end Transport

end Luma.Encoder
