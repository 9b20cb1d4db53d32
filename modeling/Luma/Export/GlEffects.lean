import Luma.Export.GlExport

/-! What one call can do to the slots of the exporter, and the rule for what every
order of presents, completions, sends and acknowledgements keeps.
-/

set_option autoImplicit false

namespace Luma.Export

open Luma.Library

/-- One change of a slot while the frame presented at `now` is handled. -/
inductive Effect (now : Nat) (before : NvencDirect) : NvencDirect → List Event → Prop where
  | quiet (after : NvencDirect) : after.slots = before.slots → after.sequence = before.sequence →
      after.stream = before.stream → Effect now before after []
  /-- The acknowledgement names another generation, or the slot does not wait for one. -/
  | unmatched (index : Fin kSlots) (generation : Nat) :
      ¬((before.slots index).sent = true ∧ (before.slots index).generation = generation) →
      Effect now before before [.acked index generation]
  | freed (index : Fin kSlots) : (before.slots index).sent = true →
      Effect now before (before.setSlot index { before.slots index with sent := false })
        [.acked index (before.slots index).generation]
  | exported (index : Fin kSlots) : (before.slots index).fence = true →
      (∀ other, (before.slots other).fence = true →
        (before.slots index).generation ≤ (before.slots other).generation) →
      Effect now before (before.setSlot index { before.slots index with sent := true, fence := false })
        [.exported index (before.slots index).generation (before.slots index).pts]
  | refused (index : Fin kSlots) : (before.slots index).fence = true →
      Effect now before (before.setSlot index { before.slots index with sent := false, fence := false })
        [.sendFailed index (before.slots index).generation]
  | spoiled (index : Fin kSlots) : (before.slots index).fence = false → (before.slots index).sent = false →
      Effect now before (before.spoil index) (before.written index)
  | copied (index : Fin kSlots) : (before.slots index).fence = false → (before.slots index).sent = false →
      Effect now before (before.noteCopy index now)
        (.copied index (before.sequence + 1) now :: before.written index)

/-- The time of a present. -/
def Event.present? : Event → Option Nat
  | .presented pts => some pts
  | _ => none

theorem written_presents (state : NvencDirect) (index : Fin kSlots) :
    (state.written index).filterMap Event.present? = [] := by
  unfold NvencDirect.written
  cases (state.slots index).needsAcquire <;> rfl

abbrev Effects (now : Nat) : NvencDirect → NvencDirect → List Event → Prop := Transition.Trace (Effect now)

namespace NvencDirect

theorem acknowledge_effects (now : Nat) (state : NvencDirect) (ack : AckMessage) :
    Effects now state (state.acknowledge ack).1 (state.acknowledge ack).2 := by
  unfold acknowledge
  by_cases valid : ack.valid = true
  · by_cases inside : ack.slot < kSlots
    · rw [if_pos valid, dif_pos inside]
      by_cases own : ((state.slots ⟨ack.slot, inside⟩).sent &&
          (state.slots ⟨ack.slot, inside⟩).generation == ack.generation) = true
      · have parts := own
        simp only [Bool.and_eq_true, beq_iff_eq] at parts
        simp only [own, ↓reduceIte]
        rw [← parts.2]
        exact .one (.freed _ parts.1)
      · simp only [own, Bool.false_eq_true, ↓reduceIte]
        simp only [Bool.and_eq_true, beq_iff_eq] at own
        exact .one (.unmatched _ _ own)
    · rw [if_pos valid, dif_neg inside]
      exact .none
  · rw [if_neg valid]
    exact .none

theorem acknowledgeAll_effects (now : Nat) (state : NvencDirect) (acks : List AckMessage) :
    Effects now state (state.acknowledgeAll acks).1 (state.acknowledgeAll acks).2 := by
  induction acks generalizing state with
  | nil => exact .none
  | cons ack acks ih => exact (state.acknowledge_effects now ack).append (ih _)

theorem drainAcks_effects (now : Nat) (state : NvencDirect) :
    Effects now state state.drainAcks.1 state.drainAcks.2 := by
  have emptied : Effects now state { state with inbox := state.inbox.drop kSlots } [] := .one (.quiet _ rfl rfl rfl)
  have read := emptied.append (acknowledgeAll_effects now _ (state.inbox.take kSlots))
  rw [List.append_nil] at read
  exact read

/-! The search for the next copy to send finds the oldest one. -/

/-- What the search says of the slots it has seen. -/
def Oldest (state : NvencDirect) (seen : List (Fin kSlots)) : Option (Fin kSlots) → Prop
  | none => ∀ index ∈ seen, (state.slots index).fence = false
  | some found => (state.slots found).fence = true ∧
      ∀ index ∈ seen, (state.slots index).fence = true →
        (state.slots found).generation ≤ (state.slots index).generation

theorem older_oldest {state : NvencDirect} {seen : List (Fin kSlots)} {best : Option (Fin kSlots)}
    (index : Fin kSlots) (held : state.Oldest seen best) : state.Oldest (seen ++ [index]) (state.older best index) := by
  unfold older
  by_cases better : ((state.slots index).fence &&
      best.all fun found => (state.slots index).generation < (state.slots found).generation) = true
  · rw [if_pos better]
    simp only [Bool.and_eq_true] at better
    refine ⟨better.1, fun other member waits => ?_⟩
    rcases List.mem_append.mp member with earlier | last
    · cases best with
      | none => rw [held other earlier] at waits; cases waits
      | some found =>
        have least := held.2 other earlier waits
        have smaller := better.2
        simp only [Option.all_some, decide_eq_true_eq] at smaller
        omega
    · apply Nat.le_of_eq
      rw [List.mem_singleton.mp last]
  · rw [if_neg better]
    simp only [Bool.and_eq_true, not_and] at better
    cases best with
    | none =>
      intro other member
      rcases List.mem_append.mp member with earlier | last
      · exact held other earlier
      · rw [List.mem_singleton.mp last]
        by_contra pending
        exact better (by simpa using pending) (by simp)
    | some found =>
      refine ⟨held.1, fun other member waits => ?_⟩
      rcases List.mem_append.mp member with earlier | last
      · exact held.2 other earlier waits
      · rw [List.mem_singleton.mp last] at waits ⊢
        have least := better waits
        simpa using least

theorem nextToSend_oldest (state : NvencDirect) : state.Oldest (List.finRange kSlots) state.nextToSend := by
  have search : ∀ (rest seen : List (Fin kSlots)) (best : Option (Fin kSlots)), state.Oldest seen best →
      state.Oldest (seen ++ rest) (rest.foldl state.older best) := by
    intro rest
    induction rest with
    | nil =>
      intro seen best held
      rw [List.append_nil]
      exact held
    | cons index rest ih =>
      intro seen best held
      rw [List.append_cons]
      exact ih _ _ (older_oldest index held)
  exact search (List.finRange kSlots) [] none (List.forall_mem_nil _)

theorem nextToSend_some {state : NvencDirect} {index : Fin kSlots} (found : state.nextToSend = some index) :
    (state.slots index).fence = true ∧ ∀ other, (state.slots other).fence = true →
      (state.slots index).generation ≤ (state.slots other).generation := by
  have oldest := state.nextToSend_oldest
  rw [found] at oldest
  exact ⟨oldest.1, fun other => oldest.2 other (List.mem_finRange other)⟩

theorem stop_effect (now : Nat) (state : NvencDirect) : Effect now state state.stop [] := .quiet _ rfl rfl rfl

theorem sendSlot_effects (now : Nat) {state : NvencDirect} {index : Fin kSlots} (outcome : SendOutcome)
    (found : state.nextToSend = some index) :
    Effects now state (state.sendSlot outcome index).1 (state.sendSlot outcome index).2 := by
  obtain ⟨pending, oldest⟩ := nextToSend_some found
  cases outcome with
  | sent => exact .one (.exported index pending oldest)
  | refused gone =>
    have refused : Effects now state _ _ := .one (.refused index pending)
    cases gone with
    | false => exact refused
    | true => exact refused.next (stop_effect now _)

theorem sendCompleted_effects (now : Nat) (state : NvencDirect) (host : GpuHost) (turns : Nat) :
    Effects now state (state.sendCompleted host turns).1 (state.sendCompleted host turns).2 := by
  induction turns generalizing state with
  | zero => exact .none
  | succ turns ih =>
    unfold sendCompleted
    cases found : state.nextToSend with
    | none => exact .none
    | some index =>
      simp only
      cases host.fence index with
      | expired => exact .none
      | failed => exact .one (.quiet _ rfl rfl rfl)
      | signaled => exact (sendSlot_effects now (host.send index) found).append (ih _)

theorem pump_effects (now : Nat) (state : NvencDirect) (host : GpuHost) :
    Effects now state (state.pump host).1 (state.pump host).2 :=
  (state.drainAcks_effects now).append (sendCompleted_effects now _ host kSlots)

theorem freeSlot_some {state : NvencDirect} {index : Fin kSlots} (found : state.freeSlot = some index) :
    (state.slots index).fence = false ∧ (state.slots index).sent = false := by
  have free := List.find?_some found
  simpa using free

theorem dropFrame_slots (state : NvencDirect) (pts : Nat) (host : GpuHost) :
    (state.dropFrame pts host).slots = state.slots ∧ (state.dropFrame pts host).sequence = state.sequence ∧
      (state.dropFrame pts host).stream = state.stream := by
  unfold dropFrame
  by_cases probes : state.probeDue ≤ pts
  · simp only [probes, ↓reduceIte]
    rcases host.probe with _ | ⟨_ | _⟩ <;> exact ⟨rfl, rfl, rfl⟩
  · simp only [probes, ↓reduceIte, and_self]

theorem capture_effects (state : NvencDirect) (pts : Nat) (host : GpuHost) :
    Effects pts state (state.capture pts host).1 (state.capture pts host).2 := by
  unfold capture
  cases found : state.freeSlot with
  | none =>
    obtain ⟨slots, sequence, stream⟩ := state.dropFrame_slots pts host
    exact .one (.quiet _ slots sequence stream)
  | some index =>
    obtain ⟨copied, acknowledged⟩ := freeSlot_some found
    simp only [copyInto]
    cases host.fenceCreated with
    | false => exact .one (.spoiled index copied acknowledged)
    | true => exact .one (.copied index copied acknowledged)

theorem submitAsync_effects (state : NvencDirect) (width height pts : Nat) (host : GpuHost) :
    Effects pts state (state.submitAsync width height pts host).1 (state.submitAsync width height pts host).2 := by
  unfold submitAsync
  by_cases stopped : state.stopped = true
  · rw [if_pos stopped]
    exact .none
  · rw [if_neg stopped]
    by_cases resized : width ≠ state.width ∨ height ≠ state.height
    · rw [if_pos resized]
      exact .one (.quiet _ rfl rfl rfl)
    · rw [if_neg resized]
      have pumped := state.pump_effects pts host
      generalize state.pump host = outcome at pumped ⊢
      obtain ⟨after, seen⟩ := outcome
      by_cases ended : after.stopped = true
      · simp only [ended, ↓reduceIte]
        exact pumped
      · have timed := Transition.Trace.next pumped
          (Effect.quiet (after.setDue (captureDue pts state.interval after.due).2) rfl rfl rfl)
        rw [List.nil_append] at timed
        simp only [ended, Bool.false_eq_true, ↓reduceIte]
        cases (captureDue pts state.interval after.due).1 with
        | false => exact timed
        | true => exact timed.append (capture_effects _ pts host)

theorem effect_presents {now : Nat} {before after : NvencDirect} {seen : List Event}
    (made : Effect now before after seen) : seen.filterMap Event.present? = [] := by
  cases made with
  | spoiled index => exact written_presents before index
  | copied index => exact written_presents before index
  | quiet | unmatched | freed | exported | refused => rfl

/-- What every effect keeps, once the present is noted, holds of every run. -/
theorem Execution.keeps {holds : List Event → NvencDirect → Prop}
    (begun : ∀ state, Created state → holds [] state)
    (quiet : ∀ history before after, Effect 0 before after [] → holds history before → holds history after)
    (noted : ∀ history state pts, holds history state → holds (.presented pts :: history) state)
    (kept : ∀ now history before after seen, (history.filterMap Event.present?).head? = some now →
      Effect now before after seen → holds history before → holds (seen ++ history) after)
    {history : List Event} {state : NvencDirect} (run : Execution history state) : holds history state := by
  refine Transition.Run.invariant begun ?_ run
  rintro history state (ack | ⟨width, height, pts, host⟩ | _) _ _ held
  · exact quiet history state _ (.quiet _ rfl rfl rfl) held
  · have submitted := state.submitAsync_effects width height pts host
    have carried := submitted.preserves
      (fun history state => (history.filterMap Event.present?).head? = some pts ∧ holds history state)
      (fun history before after seen made held =>
        ⟨by rw [List.filterMap_append, effect_presents made]; exact held.1,
          kept pts history before after seen held.1 made held.2⟩)
      ⟨rfl, noted history state pts held⟩
    simp only [step, List.append_assoc]
    exact carried.2
  · exact quiet history state _ (.quiet _ rfl rfl rfl) held

end NvencDirect

end Luma.Export
