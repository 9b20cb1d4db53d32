import Luma.Export.Handoff

/-! Over every run of the game and the receiver the operations on the semaphore of a
slot take turns: a signal, a wait, a signal.

A side that waits signals again before it does anything else, so between two
steps each semaphore that was ever signalled carries one signal.
-/

set_option autoImplicit false

namespace Luma.Export

open Luma.Library

inductive Side where
  | game | receiver
  deriving DecidableEq, Repr

inductive Operation where
  | signal | wait
  deriving DecidableEq, Repr

/-- The operation on the semaphore of a stream's slot. -/
def semaphoreOperation (stream : Nat) (slot : Fin kSlots) : HandoffEvent → Option (Side × Operation)
  | .game (.acquired index) => if index = slot then some (.game, .wait) else none
  | .game (.released index) => if index = slot then some (.game, .signal) else none
  | .receiver (.acquired other index) => if other = stream ∧ index = slot.val then some (.receiver, .wait) else none
  | .receiver (.released other index) => if other = stream ∧ index = slot.val then some (.receiver, .signal) else none
  | _ => none

def operations (stream : Nat) (slot : Fin kSlots) (history : List HandoffEvent) : List (Side × Operation) :=
  Transition.chronicle (semaphoreOperation stream slot) history

theorem operations_append (stream : Nat) (slot : Fin kSlots) (later earlier : List HandoffEvent) :
    operations stream slot (later ++ earlier) = operations stream slot earlier ++ operations stream slot later :=
  Transition.chronicle_append _ later earlier

theorem operations_cons (stream : Nat) (slot : Fin kSlots) (event : HandoffEvent) (earlier : List HandoffEvent) :
    operations stream slot (event :: earlier) =
      operations stream slot earlier ++ (semaphoreOperation stream slot event).toList :=
  Transition.chronicle_cons _ event earlier

/-- The operations so far on a semaphore that carries a signal, or that was never used. -/
structure Handed (done : List (Side × Operation)) (used : Bool) : Prop where
  alternating : Alternating .signal .wait (done.map (·.2))
  carries : used = true → done.length % 2 = 1
  untouched : used = false → done = []
  begins : ∀ operation, done.head? = some operation → operation = (.game, .signal)

/-- One side waits and signals. -/
theorem Handed.round {done : List (Side × Operation)} (handed : Handed done true) (side : Side) :
    Handed (done ++ [(side, .wait), (side, .signal)]) true := by
  have odd := handed.carries rfl
  constructor
  · rw [List.map_append]
    exact handed.alternating.round (by rw [List.length_map]; exact odd)
  · intro _
    rw [List.length_append, List.length_cons, List.length_singleton]
    omega
  · nofun
  · intro operation first
    cases done with
    | nil => cases odd
    | cons head rest => exact handed.begins operation first

/-- The game takes its own signal back, if there is one, and signals anew. -/
theorem Handed.copy {done : List (Side × Operation)} {used : Bool} (handed : Handed done used) :
    Handed (done ++ ((if used then [(.game, .wait)] else []) ++ [(.game, .signal)])) true := by
  cases used with
  | true => exact handed.round .game
  | false =>
    rw [handed.untouched rfl]
    refine ⟨.cons .nil, fun _ => rfl, nofun, fun operation first => ?_⟩
    exact (Option.some.inj first).symm

/-! ## The game's side -/

theorem operations_written (stream : Nat) (slot index : Fin kSlots) (state : NvencDirect) :
    operations stream slot ((state.written index).map .game) =
      if index = slot then (if (state.slots index).needsAcquire then [(.game, .wait)] else []) ++ [(.game, .signal)]
      else [] := by
  have nothing : operations stream slot [] = [] := rfl
  unfold NvencDirect.written
  by_cases own : index = slot
  · cases (state.slots index).needsAcquire <;> simp [operations_cons, nothing, semaphoreOperation, own]
  · cases (state.slots index).needsAcquire <;> simp [operations_cons, nothing, semaphoreOperation, own]

/-- What the game's part of a step keeps, seen from the history before it. -/
structure GameHanded (stream : Nat) (history : List HandoffEvent) (begun : NvencDirect) (seen : List Event)
    (game : NvencDirect) : Prop where
  sameStream : game.stream = stream
  handed : ∀ slot, Handed (operations stream slot (seen.map .game ++ history)) (game.slots slot).needsAcquire
  pending : ∀ slot, (game.slots slot).fence = true → (game.slots slot).needsAcquire = true
  exported : ∀ slot generation pts, .exported slot generation pts ∈ seen → (game.slots slot).needsAcquire = true
  kept : ∀ slot, (begun.slots slot).needsAcquire = true → (game.slots slot).needsAcquire = true

section

variable {stream : Nat} {history : List HandoffEvent} {begun before : NvencDirect} {earlier : List Event}

/-- Changes of a slot that leave its semaphore alone. -/
theorem GameHanded.leave {after : NvencDirect} {seen : List Event} (held : GameHanded stream history begun earlier before)
    (same : after.stream = before.stream)
    (needs : ∀ slot, (after.slots slot).needsAcquire = (before.slots slot).needsAcquire)
    (fences : ∀ slot, (after.slots slot).fence = true → (before.slots slot).fence = true)
    (silent : ∀ slot, operations stream slot (seen.map .game) = [])
    (exports : ∀ slot generation pts, .exported slot generation pts ∈ seen → (before.slots slot).needsAcquire = true) :
    GameHanded stream history begun (seen ++ earlier) after := by
  constructor
  · rw [same]
    exact held.sameStream
  · intro slot
    rw [List.map_append, List.append_assoc, operations_append, silent, List.append_nil, needs]
    exact held.handed slot
  · intro slot waits
    rw [needs]
    exact held.pending slot (fences slot waits)
  · intro slot generation pts member
    rw [needs]
    rcases List.mem_append.mp member with now | before
    · exact exports slot generation pts now
    · exact held.exported slot generation pts before
  · intro slot used
    rw [needs]
    exact held.kept slot used

theorem setSlot_needs {index : Fin kSlots} {slot : Slot} (same : slot.needsAcquire = (before.slots index).needsAcquire)
    (other : Fin kSlots) : ((before.setSlot index slot).slots other).needsAcquire = (before.slots other).needsAcquire := by
  by_cases own : other = index
  · rw [own, NvencDirect.setSlot_same, same]
  · rw [NvencDirect.setSlot_other _ own]

theorem setSlot_fences {index : Fin kSlots} {slot : Slot} (narrows : slot.fence = true → (before.slots index).fence = true)
    (other : Fin kSlots) (waits : ((before.setSlot index slot).slots other).fence = true) :
    (before.slots other).fence = true := by
  by_cases own : other = index
  · rw [own, NvencDirect.setSlot_same] at waits
    rw [own]
    exact narrows waits
  · rw [NvencDirect.setSlot_other _ own] at waits
    exact waits

theorem written_exports_nothing (state : NvencDirect) (index slot : Fin kSlots) (generation pts : Nat) :
    .exported slot generation pts ∉ state.written index := by
  unfold NvencDirect.written
  cases (state.slots index).needsAcquire <;> simp

/-- A copy into a slot, whether or not it gets its fence. -/
theorem GameHanded.copy {after : NvencDirect} {index : Fin kSlots} (last : List Event)
    (held : GameHanded stream history begun earlier before) (same : after.stream = before.stream)
    (own : (after.slots index).needsAcquire = true) (others : ∀ slot, slot ≠ index → after.slots slot = before.slots slot)
    (silent : ∀ slot, operations stream slot (last.map .game) = [])
    (exports : ∀ slot generation pts, .exported slot generation pts ∉ last) :
    GameHanded stream history begun (last ++ before.written index ++ earlier) after := by
  have kept : ∀ slot, (before.slots slot).needsAcquire = true → (after.slots slot).needsAcquire = true := by
    intro slot used
    by_cases this : slot = index
    · rw [this]; exact own
    · rw [others slot this]; exact used
  constructor
  · rw [same]
    exact held.sameStream
  · intro slot
    rw [List.append_assoc, List.map_append, List.map_append, List.append_assoc, List.append_assoc, operations_append,
      operations_append, silent, List.append_nil, operations_written]
    by_cases this : index = slot
    · subst this
      rw [if_pos rfl, own]
      exact (held.handed index).copy
    · rw [if_neg this, List.append_nil, others slot fun equal => this equal.symm]
      exact held.handed slot
  · intro slot waits
    by_cases this : slot = index
    · rw [this]; exact own
    · rw [others slot this] at waits ⊢
      exact held.pending slot waits
  · intro slot generation pts member
    rcases List.mem_append.mp member with now | before
    · rcases List.mem_append.mp now with newest | writing
      · exact absurd newest (exports slot generation pts)
      · exact absurd writing (written_exports_nothing _ _ _ _ _)
    · exact kept slot (held.exported slot generation pts before)
  · exact fun slot used => kept slot (held.kept slot used)

theorem GameHanded.effect {now : Nat} {after : NvencDirect} {seen : List Event} (made : Effect now before after seen)
    (held : GameHanded stream history begun earlier before) : GameHanded stream history begun (seen ++ earlier) after := by
  cases made with
  | quiet _ slots _ same =>
    exact held.leave same (fun _ => by rw [slots]) (fun _ waits => by rwa [slots] at waits) (fun _ => rfl) nofun
  | unmatched index generation =>
    exact held.leave rfl (fun _ => rfl) (fun _ waits => waits) (fun _ => rfl) nofun
  | freed index sent =>
    exact held.leave rfl (setSlot_needs rfl) (setSlot_fences fun waits => waits) (fun _ => rfl) nofun
  | exported index waits _ =>
    refine held.leave rfl (setSlot_needs rfl) (setSlot_fences nofun) (fun _ => rfl) fun slot generation pts member => ?_
    obtain ⟨rfl, _⟩ := Event.exported.inj (List.mem_singleton.mp member)
    exact held.pending slot waits
  | refused index waits => exact held.leave rfl (setSlot_needs rfl) (setSlot_fences nofun) (fun _ => rfl) nofun
  | spoiled index _ _ =>
    refine held.copy [] rfl ?_ (fun _ other => NvencDirect.setSlot_other _ other) (fun _ => rfl) nofun
    rw [NvencDirect.spoil, NvencDirect.stop_slots, NvencDirect.setSlot_same]
  | copied index _ _ =>
    refine held.copy [_] rfl ?_ (fun _ other => NvencDirect.noteCopy_other _ other) (fun _ => rfl) ?_
    · rw [NvencDirect.noteCopy_same]
    · intro slot generation pts member
      cases List.mem_singleton.mp member

end

/-- A call of the game, from a state in which every semaphore carries its signal. -/
theorem step_gameHanded {stream : Nat} {history : List HandoffEvent} {game : NvencDirect} (input : Input)
    (same : game.stream = stream)
    (handed : ∀ slot, Handed (operations stream slot history) (game.slots slot).needsAcquire)
    (pending : ∀ slot, (game.slots slot).fence = true → (game.slots slot).needsAcquire = true) :
    GameHanded stream history game (game.step input).2 (game.step input).1 := by
  have begun : GameHanded stream history game [] game := ⟨same, handed, pending, nofun, fun _ used => used⟩
  cases input with
  | arrive ack =>
    have quiet : Effect 0 game (game.step (.arrive ack)).1 [] := .quiet _ rfl rfl rfl
    exact begun.effect quiet
  | submit width height pts host =>
    have presented : GameHanded stream history game ([.presented pts] ++ []) game :=
      begun.leave rfl (fun _ => rfl) (fun _ waits => waits) (fun _ => rfl) nofun
    exact (game.submitAsync_effects width height pts host).preserves (GameHanded stream history game)
      (fun _ _ _ _ made held => held.effect made) presented
  | requestStop => exact begun.effect (game.stop_effect 0)

/-! ## The receiver's side -/

namespace Receiver

/-- Every import of the stream came with its semaphore. -/
def Semaphored (stream : Nat) (receiver : Receiver) : Prop :=
  ∀ imported ∈ receiver.imported, imported.stream = stream → imported.semaphore = true

theorem importSlot_semaphored {stream : Nat} {receiver : Receiver} {message : ExportMessage} (host : ReceiverHost)
    (semaphored : Semaphored stream receiver) (own : message.stream = stream → message.opaqueMemory = true) :
    Semaphored stream (receiver.importSlot message host).1 ∧
      ∀ imported, (receiver.importSlot message host).2 = some imported →
        imported.stream = stream → imported.semaphore = true := by
  unfold importSlot
  by_cases full : importCacheSize ≤ receiver.imported.length
  · rw [if_pos full]
    exact ⟨semaphored, nofun⟩
  · rw [if_neg full]
    by_cases blind : (!receiver.display && !host.initialized) = true
    · rw [if_pos blind]
      exact ⟨semaphored, nofun⟩
    · rw [if_neg blind]
      simp only
      by_cases noImage : (!(message.opaqueMemory || !receiver.display || host.image)) = true
      · rw [if_pos noImage]
        exact ⟨semaphored, nofun⟩
      · rw [if_neg noImage]
        by_cases refused : (message.opaqueMemory && (!host.texture || !host.semaphore)) = true
        · rw [if_pos refused]
          exact ⟨semaphored, nofun⟩
        · rw [if_neg refused]
          by_cases incomplete : (!host.framebuffer) = true
          · rw [if_pos incomplete]
            exact ⟨semaphored, nofun⟩
          · rw [if_neg incomplete]
            constructor
            · intro imported member same
              rcases List.mem_append.mp member with before | new
              · exact semaphored imported before same
              · rw [List.mem_singleton.mp new] at same ⊢
                exact own same
            · intro imported found same
              rw [← Option.some.inj found] at same ⊢
              exact own same

theorem lookup_semaphored {stream : Nat} {receiver : Receiver} {message : ExportMessage} (host : ReceiverHost)
    (semaphored : Semaphored stream receiver) (own : message.stream = stream → message.opaqueMemory = true) :
    Semaphored stream (receiver.lookup message host).1 ∧
      ∀ imported new, (receiver.lookup message host).2 = some (imported, new) →
        imported.stream = stream → imported.semaphore = true := by
  unfold lookup
  cases cached : receiver.find message with
  | some known =>
    refine ⟨semaphored, fun imported new found => ?_⟩
    obtain ⟨rfl, _⟩ := Prod.mk.inj (Option.some.inj found)
    exact semaphored known (List.mem_of_find?_eq_some cached)
  | none =>
    obtain ⟨kept, fresh⟩ := importSlot_semaphored host semaphored own
    refine ⟨kept, fun imported new found => ?_⟩
    obtain ⟨made, outcome, pair⟩ := Option.map_eq_some_iff.mp found
    obtain ⟨rfl, _⟩ := Prod.mk.inj pair
    exact fresh made outcome

theorem importSlot_stream {receiver : Receiver} {message : ExportMessage} {host : ReceiverHost} {imported : ImportedSlot}
    (found : (receiver.importSlot message host).2 = some imported) : imported.stream = message.stream := by
  unfold importSlot at found
  simp only at found
  split at found
  · cases found
  · split at found
    · cases found
    · split at found
      · cases found
      · split at found
        · cases found
        · split at found
          · cases found
          · rw [← Option.some.inj found]

theorem lookup_stream {receiver : Receiver} {message : ExportMessage} {host : ReceiverHost} {imported : ImportedSlot}
    {new : Bool} (found : (receiver.lookup message host).2 = some (imported, new)) :
    imported.stream = message.stream := by
  unfold lookup at found
  cases cached : receiver.find message with
  | some known =>
    rw [cached] at found
    obtain ⟨rfl, _⟩ := Prod.mk.inj (Option.some.inj found)
    have matching := List.find?_some cached
    simp only [Bool.and_eq_true, beq_iff_eq] at matching
    exact matching.1
  | none =>
    rw [cached] at found
    obtain ⟨made, outcome, pair⟩ := Option.map_eq_some_iff.mp found
    obtain ⟨rfl, _⟩ := Prod.mk.inj pair
    exact importSlot_stream outcome

/-- The operations of one handled message: a full round on its own semaphore, or none. -/
def Rounds (stream : Nat) (message : ExportMessage) (events : List ReceiverEvent) : Prop :=
  (∀ slot, operations stream slot (events.map .receiver) = []) ∨
    message.stream = stream ∧ ∀ slot : Fin kSlots, operations stream slot (events.map .receiver) =
      if message.slot = slot.val then [(.receiver, .wait), (.receiver, .signal)] else []

theorem scheduleAck_imported (receiver : Receiver) (message : ExportMessage) (host : ReceiverHost) :
    (receiver.scheduleAck message host).1.imported = receiver.imported := by
  unfold scheduleAck
  split <;> rfl

theorem scheduleAck_operations (stream : Nat) (receiver : Receiver) (message : ExportMessage) (host : ReceiverHost)
    (slot : Fin kSlots) : operations stream slot ((receiver.scheduleAck message host).2.map .receiver) = [] := by
  unfold scheduleAck
  split <;> rfl

theorem startEncoder_imported (receiver : Receiver) (host : ReceiverHost) :
    (receiver.startEncoder host).imported = receiver.imported := by
  unfold startEncoder
  split <;> rfl

/-- Operations on the semaphores of another stream are none on this one's. -/
theorem operations_foreign {stream other index : Nat} (slot : Fin kSlots) (differs : other ≠ stream)
    (waits signals : Bool) :
    operations stream slot (((if signals then [ReceiverEvent.released other index] else []) ++
      if waits then [ReceiverEvent.acquired other index] else []).map .receiver) = [] := by
  have nothing : operations stream slot [] = [] := rfl
  cases waits <;> cases signals <;> simp [operations_cons, nothing, semaphoreOperation, differs]

theorem operations_own {stream index : Nat} (slot : Fin kSlots) :
    operations stream slot ([ReceiverEvent.released stream index, .acquired stream index].map .receiver) =
      if index = slot.val then [(.receiver, .wait), (.receiver, .signal)] else [] := by
  have nothing : operations stream slot [] = [] := rfl
  by_cases own : index = slot.val <;> simp [operations_cons, nothing, semaphoreOperation, own]

theorem present_rounds {stream : Nat} {receiver : Receiver} {message : ExportMessage} {imported : ImportedSlot}
    (new : Bool) (host : ReceiverHost) (semaphored : Semaphored stream receiver)
    (own : message.stream = stream →
      message.opaqueMemory = true ∧ message.copyComplete = true ∧ imported.semaphore = true) :
    Semaphored stream (receiver.present message imported new host).1 ∧
      Rounds stream message (receiver.present message imported new host).2 := by
  have nothing : ∀ slot, operations stream slot [] = [] := fun _ => rfl
  unfold present
  by_cases unsynced : (!message.copyComplete && !host.nativeFence) = true
  · -- Only a message without a completed copy comes here, which is another stream's.
    have foreign : message.stream ≠ stream := by
      intro same
      rw [(own same).2.1] at unsynced
      cases unsynced
    simp only [unsynced, ↓reduceIte]
    constructor
    · cases new with
      | false => exact semaphored
      | true => exact fun other member => semaphored other (List.mem_of_mem_erase member)
    · refine .inl fun slot => ?_
      have waits := @operations_foreign stream message.stream message.slot slot foreign message.opaqueMemory false
      rw [List.map_cons, operations_cons]
      simp only [Bool.false_eq_true, ↓reduceIte, List.nil_append] at waits
      rw [waits]
      rfl
  · simp only [unsynced, Bool.false_eq_true, ↓reduceIte]
    constructor
    · unfold Semaphored
      rw [scheduleAck_imported, startEncoder_imported]
      exact semaphored
    · by_cases same : message.stream = stream
      · obtain ⟨opaqueMemory, _, semaphore⟩ := own same
        refine .inr ⟨same, fun slot => ?_⟩
        rw [List.map_append, operations_append, scheduleAck_operations, List.append_nil, opaqueMemory, semaphore, same]
        exact operations_own slot
      · refine .inl fun slot => ?_
        rw [List.map_append, operations_append, scheduleAck_operations, List.append_nil]
        exact operations_foreign slot same message.opaqueMemory imported.semaphore

theorem receive_rounds {stream : Nat} {receiver : Receiver} {message : ExportMessage} (host : ReceiverHost)
    (semaphored : Semaphored stream receiver)
    (own : message.stream = stream → message.opaqueMemory = true ∧ message.copyComplete = true) :
    Semaphored stream (receiver.receive message host).1 ∧ Rounds stream message (receiver.receive message host).2 := by
  unfold receive
  by_cases dropped : (!host.accepted || !message.wellFormed) = true
  · rw [if_pos dropped]
    exact ⟨semaphored, .inl fun _ => rfl⟩
  · rw [if_neg dropped]
    obtain ⟨kept, fresh⟩ := lookup_semaphored host semaphored fun same => (own same).1
    simp only
    cases found : (receiver.lookup message host).2 with
    | none => exact ⟨kept, .inl fun _ => rfl⟩
    | some import_ =>
      obtain ⟨imported, new⟩ := import_
      apply present_rounds new host kept
      intro same
      exact ⟨(own same).1, (own same).2, fresh imported new found ((lookup_stream found).trans same)⟩

theorem retire_operations (stream : Nat) (receiver : Receiver) (completed : ExportMessage → Bool) (slot : Fin kSlots) :
    operations stream slot ((receiver.retire completed).2.map .receiver) = [] := by
  unfold retire operations Transition.chronicle
  rw [List.reverse_eq_nil_iff, List.filterMap_eq_nil_iff]
  intro event member
  simp only [List.map_reverse, List.map_map, List.mem_reverse, List.mem_map, Function.comp_apply] at member
  obtain ⟨_, _, rfl⟩ := member
  rfl

end Receiver

/-! ## Both sides -/

structure HandoffInvariant (history : List HandoffEvent) (state : Handoff) : Prop where
  handed : ∀ slot, Handed (operations state.game.stream slot history) (state.game.slots slot).needsAcquire
  pending : ∀ slot, (state.game.slots slot).fence = true → (state.game.slots slot).needsAcquire = true
  wire : ∀ message ∈ state.wire, message.stream = state.game.stream →
    (message.opaqueMemory = true ∧ message.copyComplete = true) ∧
      ∃ slot : Fin kSlots, message.slot = slot.val ∧ (state.game.slots slot).needsAcquire = true
  imported : state.receiver.Semaphored state.game.stream

namespace Handoff

theorem advanceGame_invariant {history : List HandoffEvent} {state : Handoff} (input : Input)
    (held : HandoffInvariant history state) :
    HandoffInvariant ((state.advanceGame input).2 ++ history) (state.advanceGame input).1 := by
  have game := step_gameHanded input rfl held.handed held.pending
  have same : (state.game.step input).1.stream = state.game.stream := game.sameStream
  constructor
  · intro slot
    rw [advanceGame, same]
    exact game.handed slot
  · exact game.pending
  · intro message member
    rw [advanceGame, same]
    intro own
    rcases List.mem_append.mp member with before | sent
    · obtain ⟨flags, slot, named, used⟩ := held.wire message before own
      exact ⟨flags, slot, named, game.kept slot used⟩
    · obtain ⟨event, seen, made⟩ := List.mem_filterMap.mp sent
      rw [List.mem_reverse] at seen
      cases event with
      | exported slot generation pts =>
        rw [← Option.some.inj made]
        exact ⟨⟨rfl, rfl⟩, slot, rfl, game.exported slot generation pts seen⟩
      | presented | acked | acquired | overwritten | released | copied | sendFailed => cases made
  · rw [advanceGame, same]
    exact held.imported

/-- The receiver's part of a step, when its operations come in rounds. -/
theorem advanceReceiver_invariant {history : List HandoffEvent} {state : Handoff}
    {outcome : Receiver × List ReceiverEvent} (delivered : ExportMessage → Bool)
    (held : HandoffInvariant history state) (imported : outcome.1.Semaphored state.game.stream)
    (rounds : ∀ slot, operations state.game.stream slot (outcome.2.map .receiver) = [] ∨
      (state.game.slots slot).needsAcquire = true ∧
        operations state.game.stream slot (outcome.2.map .receiver) = [(.receiver, .wait), (.receiver, .signal)]) :
    HandoffInvariant ((state.advanceReceiver outcome delivered).2 ++ history)
      (state.advanceReceiver outcome delivered).1 := by
  refine ⟨fun slot => ?_, held.pending, held.wire, imported⟩
  have before := held.handed slot
  simp only [advanceReceiver, operations_append]
  rcases rounds slot with idle | ⟨used, round⟩
  · rw [idle, List.append_nil]
    exact before
  · rw [used] at before
    rw [round, used]
    exact before.round .receiver

theorem handoffInvariant {history : List HandoffEvent} {state : Handoff} (run : Execution history state) :
    HandoffInvariant history state := by
  refine Transition.Run.invariant ?_ ?_ run
  · rintro ⟨_, _, _⟩ ⟨⟨width, height, interval, stream, rfl⟩, rfl, rfl⟩
    refine ⟨fun slot => ⟨.nil, nofun, fun _ => rfl, nofun⟩, nofun, List.forall_mem_nil _, List.forall_mem_nil _⟩
  · intro history state input _ _ held
    cases input with
    | submit width height pts host => exact advanceGame_invariant _ held
    | requestStop => exact advanceGame_invariant _ held
    | foreign message =>
      unfold step
      by_cases own : message.stream = state.game.stream
      · simp only [own, beq_self_eq_true, ↓reduceIte]
        exact held
      · simp only [beq_iff_eq, own, ↓reduceIte]
        refine ⟨held.handed, held.pending, fun other member same => ?_, held.imported⟩
        rcases List.mem_append.mp member with before | new
        · exact held.wire other before same
        · rw [List.mem_singleton.mp new] at same
          exact absurd same own
    | receive host =>
      unfold step
      by_cases stopping : state.receiver.stopping = true
      · simp only [stopping, ↓reduceIte]
        exact held
      · simp only [stopping, Bool.false_eq_true, ↓reduceIte]
        cases queued : state.wire with
        | nil => exact held
        | cons message rest =>
          have known : ∀ other ∈ message :: rest, other ∈ state.wire := fun other member => queued ▸ member
          have shorter : HandoffInvariant history { state with wire := rest } :=
            ⟨held.handed, held.pending, fun other member => held.wire other (known other (List.mem_cons_of_mem _ member)),
              held.imported⟩
          have facts := held.wire message (known message List.mem_cons_self)
          obtain ⟨imported, rounds⟩ := Receiver.receive_rounds host held.imported fun same => (facts same).1
          refine advanceReceiver_invariant _ shorter imported fun slot => ?_
          rcases rounds with idle | ⟨same, round⟩
          · exact .inl (idle slot)
          · obtain ⟨_, owner, named, used⟩ := facts same
            rw [round slot]
            by_cases this : message.slot = slot.val
            · obtain rfl : owner = slot := Fin.ext (named.symm.trans this)
              exact .inr ⟨used, if_pos this⟩
            · exact .inl (if_neg this)
    | retire completed delivered =>
      exact advanceReceiver_invariant delivered held held.imported fun slot =>
        .inl (Receiver.retire_operations _ _ completed slot)
    | finish delivered =>
      exact advanceReceiver_invariant delivered held held.imported fun slot =>
        .inl (Receiver.retire_operations _ _ _ slot)

end Handoff

/-- The operations of both processes on a slot's semaphore take turns, the game's signal
first: nobody waits for a signal that was not queued, and nobody signals twice. -/
theorem semaphore_operations_alternate {history : List HandoffEvent} {state : Handoff}
    (run : Handoff.Execution history state) (slot : Fin kSlots) :
    Alternating .signal .wait ((operations state.game.stream slot history).map (·.2)) ∧
      (∀ operation, (operations state.game.stream slot history).head? = some operation →
        operation = (.game, .signal)) ∧
      ((operations state.game.stream slot history).map (·.2)).count .wait ≤
        ((operations state.game.stream slot history).map (·.2)).count .signal ∧
      ((operations state.game.stream slot history).map (·.2)).count .signal ≤
        ((operations state.game.stream slot history).map (·.2)).count .wait + 1 := by
  have handed := (Handoff.handoffInvariant run).handed slot
  exact ⟨handed.alternating, handed.begins, handed.alternating.count_balanced nofun⟩

def signaledFences : GpuHost := { fence := fun _ => .signaled }

/-- A frame is copied and shown by the receiver, the next one of its slot does not leave. -/
def oneFrameThrough : List HandoffInput :=
  [.submit 2 2 1 {}, .submit 2 2 1 signaledFences, .receive {}, .retire (fun _ => true) fun _ => true,
    .submit 2 2 3 signaledFences, .submit 2 2 5 { signaledFences with send := fun _ => .refused false }]

theorem semaphore_operations_alternate_oneFrameThrough :
    Alternating .signal .wait ((operations 0 0
        (Transition.execute Handoff.step { game := smallExporter } oneFrameThrough).2).map (·.2)) ∧
      operations 0 0 (Transition.execute Handoff.step { game := smallExporter } oneFrameThrough).2 =
        [(.game, .signal), (.receiver, .wait), (.receiver, .signal), (.game, .wait), (.game, .signal),
          (.game, .wait), (.game, .signal)] := by
  have begun : Handoff.Execution [] { game := smallExporter } := .start ⟨⟨2, 2, 1, 0, rfl⟩, rfl, rfl⟩
  have run := begun.execute oneFrameThrough (Transition.permits_unrestricted _ _ _ _)
  rw [List.append_nil] at run
  have same : (Transition.execute Handoff.step { game := smallExporter } oneFrameThrough).1.game.stream = 0 := by
    decide +kernel
  have turns := (semaphore_operations_alternate run 0).1
  rw [same] at turns
  exact ⟨turns, by decide +kernel⟩

end Luma.Export
