import Mathlib.Data.Fintype.Card
import Luma.Export.GlEffects

/-! The exporter never overwrites a texture that the receiver may still read, and
its messages leave in the order of their copies.
-/

set_option autoImplicit false

namespace Luma.Export

open Luma.Library

/-! ## What a history says of the slots -/

/-- The events since the slot's texture was last written. -/
def sinceCopy (slot : Fin kSlots) (history : List Event) : List Event :=
  history.takeWhile fun event => event != .overwritten slot

/-- Never sent since its last copy, or its message did not leave, or the
acknowledgement of its own generation arrived. -/
def Free (slot : Fin kSlots) (history : List Event) : Prop :=
  (∀ generation pts, .exported slot generation pts ∉ sinceCopy slot history) ∨
  (∃ generation, .sendFailed slot generation ∈ sinceCopy slot history) ∨
  ∃ generation pts, .exported slot generation pts ∈ sinceCopy slot history ∧
    .acked slot generation ∈ sinceCopy slot history

/-- The generation and the timestamp of a message that left. -/
def Event.message? : Event → Option (Nat × Nat)
  | .exported _ generation pts => some (generation, pts)
  | _ => none

def messages (history : List Event) : List (Nat × Nat) := Transition.chronicle Event.message? history

def presents (history : List Event) : List Nat := Transition.chronicle Event.present? history

/-- The exports whose acknowledgement has not arrived. -/
def outstanding : List Event → List (Fin kSlots × Nat)
  | [] => []
  | .exported slot generation _ :: earlier => (slot, generation) :: outstanding earlier
  | .acked slot generation :: earlier => (outstanding earlier).filter (· != (slot, generation))
  | _ :: earlier => outstanding earlier

theorem mem_sinceCopy_cons {slot : Fin kSlots} {event latest : Event} {history : List Event} :
    event ∈ sinceCopy slot (latest :: history) ↔
      latest ≠ .overwritten slot ∧ (event = latest ∨ event ∈ sinceCopy slot history) := by
  unfold sinceCopy
  by_cases writes : latest = .overwritten slot
  · simp [writes]
  · simp [writes]

/-- Being free survives every event but the export of this slot. -/
theorem Free.later {slot : Fin kSlots} {latest : Event} {history : List Event} (free : Free slot history)
    (kept : ∀ generation pts, latest ≠ .exported slot generation pts) : Free slot (latest :: history) := by
  unfold Free
  simp only [mem_sinceCopy_cons]
  by_cases writes : latest = .overwritten slot
  · exact .inl fun generation pts member => member.1 writes
  · rcases free with never | ⟨generation, failed⟩ | ⟨generation, pts, left, arrived⟩
    · refine .inl fun generation pts member => ?_
      rcases member.2 with now | before
      · exact kept generation pts now.symm
      · exact never generation pts before
    · exact .inr (.inl ⟨generation, writes, .inr failed⟩)
    · exact .inr (.inr ⟨generation, pts, ⟨writes, .inr left⟩, writes, .inr arrived⟩)

/-! ## The flags of a slot tell what happened to its texture -/

/-- What the flags of a slot say of the events since its texture was written. -/
structure Tells (slot : Fin kSlots) (flags : Slot) (history : List Event) : Prop where
  pending : flags.fence = true → flags.sent = false ∧
    ∀ generation pts, .exported slot generation pts ∉ sinceCopy slot history
  inFlight : flags.sent = true → ∃ pts, .exported slot flags.generation pts ∈ sinceCopy slot history
  free : flags.fence = false → flags.sent = false → Free slot history

/-- An event that neither writes nor exports this slot. -/
def Passes (slot : Fin kSlots) (event : Event) : Prop :=
  event ≠ .overwritten slot ∧ ∀ generation pts, event ≠ .exported slot generation pts

theorem Tells.later {slot : Fin kSlots} {flags : Slot} {latest : Event} {history : List Event}
    (tells : Tells slot flags history) (passes : Passes slot latest) : Tells slot flags (latest :: history) := by
  constructor
  · intro waits
    obtain ⟨unsent, never⟩ := tells.pending waits
    refine ⟨unsent, fun generation pts member => ?_⟩
    rcases (mem_sinceCopy_cons.mp member).2 with now | before
    · exact passes.2 generation pts now.symm
    · exact never generation pts before
  · intro sent
    obtain ⟨pts, left⟩ := tells.inFlight sent
    exact ⟨pts, mem_sinceCopy_cons.mpr ⟨passes.1, .inr left⟩⟩
  · intro idle unsent
    exact (tells.free idle unsent).later passes.2

theorem Tells.laterAll {slot : Fin kSlots} {flags : Slot} {latest history : List Event}
    (tells : Tells slot flags history) (passes : ∀ event ∈ latest, Passes slot event) :
    Tells slot flags (latest ++ history) := by
  induction latest with
  | nil => exact tells
  | cons event latest ih =>
    have before := ih fun earlier member => passes earlier (List.mem_cons_of_mem event member)
    exact before.later (passes event List.mem_cons_self)

/-- A slot that was just written: nothing of it has left. -/
theorem Tells.written {slot : Fin kSlots} {flags : Slot} {latest history : List Event} (unsent : flags.sent = false)
    (silent : ∀ generation pts, .exported slot generation pts ∉ latest) :
    Tells slot flags (latest ++ .overwritten slot :: history) := by
  have never : ∀ generation pts, .exported slot generation pts ∉ sinceCopy slot (latest ++ .overwritten slot :: history) := by
    intro generation pts member
    induction latest with
    | nil => exact (mem_sinceCopy_cons.mp member).1 rfl
    | cons event latest ih =>
      rcases (mem_sinceCopy_cons.mp member).2 with now | before
      · exact silent generation pts (now ▸ List.mem_cons_self)
      · exact ih (fun generation pts inside => silent generation pts (List.mem_cons_of_mem event inside)) before
  refine ⟨fun _ => ⟨unsent, never⟩, fun sent => ?_, fun _ _ => .inl never⟩
  rw [unsent] at sent
  cases sent

/-- The commands of a copy concern its own slot only, and export nothing. -/
theorem written_passes (state : NvencDirect) {index other : Fin kSlots} (differs : other ≠ index) :
    ∀ event ∈ state.written index, Passes other event := by
  intro event member
  unfold NvencDirect.written at member
  have distinct : Event.overwritten index ≠ .overwritten other := fun same => differs (Event.overwritten.inj same).symm
  cases taken : (state.slots index).needsAcquire with
  | false =>
    simp only [taken, Bool.false_eq_true, ↓reduceIte, List.mem_cons, List.not_mem_nil, or_false] at member
    rcases member with rfl | rfl
    · exact ⟨nofun, nofun⟩
    · exact ⟨distinct, nofun⟩
  | true =>
    simp only [taken, ↓reduceIte, List.mem_cons, List.not_mem_nil, or_false] at member
    rcases member with rfl | rfl | rfl
    · exact ⟨nofun, nofun⟩
    · exact ⟨distinct, nofun⟩
    · exact ⟨nofun, nofun⟩

theorem written_tells (state : NvencDirect) (index : Fin kSlots) {flags : Slot} {history : List Event} (latest : List Event)
    (unsent : flags.sent = false) (silent : ∀ generation pts, .exported index generation pts ∉ latest) :
    Tells index flags (latest ++ (state.written index ++ history)) := by
  have told : ∀ earlier, Tells index flags ((latest ++ [.released index]) ++ .overwritten index :: earlier) := by
    intro earlier
    apply Tells.written unsent
    intro generation pts member
    rcases List.mem_append.mp member with first | last
    · exact silent generation pts first
    · cases List.mem_singleton.mp last
  unfold NvencDirect.written
  have placed := told ((if (state.slots index).needsAcquire then [.acquired index] else []) ++ history)
  simpa using placed

/-- No texture is written that the receiver may still read, and the flags tell which. -/
def Safe (history : List Event) (state : NvencDirect) : Prop :=
  (∀ slot, Tells slot (state.slots slot) history) ∧
    Transition.Throughout (fun event earlier => ∀ slot, event = .overwritten slot → Free slot earlier) history

theorem overwrites_free {state : NvencDirect} {index : Fin kSlots} {history : List Event} (free : Free index history)
    (held : Transition.Throughout (fun event earlier => ∀ slot, event = .overwritten slot → Free slot earlier) history) :
    Transition.Throughout (fun event earlier => ∀ slot, event = .overwritten slot → Free slot earlier)
      (state.written index ++ history) := by
  unfold NvencDirect.written
  cases (state.slots index).needsAcquire with
  | false => exact ⟨nofun, fun slot same => (Event.overwritten.inj same) ▸ free, held⟩
  | true =>
    refine ⟨nofun, fun slot same => ?_, nofun, held⟩
    obtain rfl := Event.overwritten.inj same
    exact free.later nofun

theorem Safe.effect {now : Nat} {history : List Event} {before after : NvencDirect} {seen : List Event}
    (made : Effect now before after seen) (safe : Safe history before) : Safe (seen ++ history) after := by
  obtain ⟨tells, held⟩ := safe
  cases made with
  | quiet _ slots _ _ =>
    rw [Safe, slots]
    exact ⟨tells, held⟩
  | unmatched index generation => exact ⟨fun slot => (tells slot).later ⟨nofun, nofun⟩, nofun, held⟩
  | freed index sent =>
    refine ⟨fun slot => ?_, nofun, held⟩
    by_cases own : slot = index
    · subst own
      rw [NvencDirect.setSlot_same]
      obtain ⟨pts, left⟩ := (tells slot).inFlight sent
      refine ⟨fun waits => ?_, nofun, fun _ _ => ?_⟩
      -- A slot whose message left waits for no fence.
      · rw [((tells slot).pending waits).1] at sent
        cases sent
      · refine .inr (.inr ⟨(before.slots slot).generation, pts, ?_, ?_⟩)
        · exact mem_sinceCopy_cons.mpr ⟨nofun, .inr left⟩
        · exact mem_sinceCopy_cons.mpr ⟨nofun, .inl rfl⟩
    · rw [NvencDirect.setSlot_other _ own]
      exact (tells slot).later ⟨nofun, nofun⟩
  | exported index _ _ =>
    refine ⟨fun slot => ?_, nofun, held⟩
    by_cases own : slot = index
    · subst own
      rw [NvencDirect.setSlot_same]
      exact ⟨nofun, fun _ => ⟨_, mem_sinceCopy_cons.mpr ⟨nofun, .inl rfl⟩⟩, nofun⟩
    · rw [NvencDirect.setSlot_other _ own]
      exact (tells slot).later ⟨nofun, fun _ _ same => own (Event.exported.inj same).1.symm⟩
  | refused index _ =>
    refine ⟨fun slot => ?_, nofun, held⟩
    by_cases own : slot = index
    · subst own
      rw [NvencDirect.setSlot_same]
      exact ⟨nofun, nofun, fun _ _ => .inr (.inl ⟨_, mem_sinceCopy_cons.mpr ⟨nofun, .inl rfl⟩⟩)⟩
    · rw [NvencDirect.setSlot_other _ own]
      exact (tells slot).later ⟨nofun, nofun⟩
  | spoiled index idle unsent =>
    refine ⟨fun slot => ?_, overwrites_free ((tells index).free idle unsent) held⟩
    rw [NvencDirect.spoil, NvencDirect.stop_slots]
    by_cases own : slot = index
    · subst own
      rw [NvencDirect.setSlot_same]
      exact written_tells before slot [] unsent nofun
    · rw [NvencDirect.setSlot_other _ own]
      exact (tells slot).laterAll (written_passes before own)
  | copied index idle unsent =>
    refine ⟨fun slot => ?_, nofun, overwrites_free ((tells index).free idle unsent) held⟩
    by_cases own : slot = index
    · subst own
      rw [NvencDirect.noteCopy_same]
      refine written_tells before slot [_] unsent fun generation pts member => ?_
      cases List.mem_singleton.mp member
    · rw [NvencDirect.noteCopy_other _ own]
      exact ((tells slot).laterAll (written_passes before own)).later ⟨nofun, nofun⟩

/-! ## Messages leave in the order of their copies -/

theorem messages_append (later earlier : List Event) :
    messages (later ++ earlier) = messages earlier ++ messages later := Transition.chronicle_append _ later earlier

theorem written_messages (state : NvencDirect) (index : Fin kSlots) : messages (state.written index) = [] := by
  unfold NvencDirect.written
  cases (state.slots index).needsAcquire <;> rfl

/-- Copies that are still to be sent come after every message, each with a generation of its own. -/
structure Ordered (history : List Event) (state : NvencDirect) : Prop where
  bounded : ∀ slot, (state.slots slot).fence = true → (state.slots slot).generation ≤ state.sequence
  counted : ∀ message ∈ messages history, message.1 ≤ state.sequence
  distinct : ∀ first second, (state.slots first).fence = true → (state.slots second).fence = true →
    (state.slots first).generation = (state.slots second).generation → first = second
  ahead : ∀ message ∈ messages history, ∀ slot, (state.slots slot).fence = true →
    message.1 < (state.slots slot).generation
  increasing : (messages history).Pairwise fun first second => first.1 < second.1

/-- The copies still to be sent in one state are among those of another. -/
def Narrows (before after : NvencDirect) : Prop :=
  ∀ slot, (after.slots slot).fence = true → (before.slots slot).fence = true ∧
    (after.slots slot).generation = (before.slots slot).generation ∧ (after.slots slot).pts = (before.slots slot).pts

theorem Narrows.of_slots {before after : NvencDirect} (same : after.slots = before.slots) : Narrows before after := by
  intro slot waits
  rw [same] at waits ⊢
  exact ⟨waits, rfl, rfl⟩

theorem Narrows.setSlot {state : NvencDirect} {index : Fin kSlots} {slot : Slot}
    (narrows : slot.fence = true → (state.slots index).fence = true ∧
      slot.generation = (state.slots index).generation ∧ slot.pts = (state.slots index).pts) :
    Narrows state (state.setSlot index slot) := by
  intro other waits
  by_cases own : other = index
  · subst own
    rw [NvencDirect.setSlot_same] at waits ⊢
    exact narrows waits
  · rw [NvencDirect.setSlot_other _ own] at waits ⊢
    exact ⟨waits, rfl, rfl⟩

theorem Ordered.narrow {history seen : List Event} {before after : NvencDirect} (ordered : Ordered history before)
    (narrows : Narrows before after) (sequence : after.sequence = before.sequence) (silent : messages seen = []) :
    Ordered (seen ++ history) after := by
  have same : messages (seen ++ history) = messages history := by rw [messages_append, silent, List.append_nil]
  constructor
  · intro slot waits
    obtain ⟨waited, generation, _⟩ := narrows slot waits
    rw [generation, sequence]
    exact ordered.bounded slot waited
  · rw [same, sequence]
    exact ordered.counted
  · intro first second one two equal
    obtain ⟨waitedOne, generationOne, _⟩ := narrows first one
    obtain ⟨waitedTwo, generationTwo, _⟩ := narrows second two
    rw [generationOne, generationTwo] at equal
    exact ordered.distinct first second waitedOne waitedTwo equal
  · rw [same]
    intro message sent slot waits
    obtain ⟨waited, generation, _⟩ := narrows slot waits
    rw [generation]
    exact ordered.ahead message sent slot waited
  · rw [same]
    exact ordered.increasing

theorem Ordered.export {history : List Event} {before : NvencDirect} {index : Fin kSlots} {slot : Slot}
    (ordered : Ordered history before) (waits : (before.slots index).fence = true)
    (oldest : ∀ other, (before.slots other).fence = true →
      (before.slots index).generation ≤ (before.slots other).generation) (taken : slot.fence = false) :
    Ordered (.exported index (before.slots index).generation (before.slots index).pts :: history)
      (before.setSlot index slot) := by
  have narrows : Narrows before (before.setSlot index slot) := .setSlot (by rw [taken]; nofun)
  have kept : Ordered ([] ++ history) (before.setSlot index slot) := ordered.narrow narrows rfl rfl
  have more : messages (.exported index (before.slots index).generation (before.slots index).pts :: history) =
      messages history ++ [((before.slots index).generation, (before.slots index).pts)] :=
    Transition.chronicle_cons _ _ _
  refine ⟨kept.bounded, ?_, kept.distinct, ?_, ?_⟩
  · rw [more]
    intro message sent
    rcases List.mem_append.mp sent with earlier | last
    · exact kept.counted message earlier
    · rw [List.mem_singleton.mp last]
      exact ordered.bounded index waits
  · rw [more]
    intro message sent other still
    rcases List.mem_append.mp sent with earlier | last
    · exact kept.ahead message earlier other still
    · obtain ⟨waited, generation, _⟩ := narrows other still
      rw [List.mem_singleton.mp last, generation]
      have least := oldest other waited
      -- Another copy with this generation would be this very copy, which is no longer waiting.
      have differs : (before.slots index).generation ≠ (before.slots other).generation := by
        intro equal
        obtain rfl := ordered.distinct index other waits waited equal
        rw [NvencDirect.setSlot_same, taken] at still
        cases still
      omega
  · rw [more]
    refine List.pairwise_append.mpr ⟨ordered.increasing, List.pairwise_singleton _ _, ?_⟩
    intro message earlier last member
    rw [List.mem_singleton.mp member]
    exact ordered.ahead message earlier index waits

theorem Ordered.copy {history : List Event} {before : NvencDirect} (index : Fin kSlots) (now : Nat)
    (ordered : Ordered history before) :
    Ordered (.copied index (before.sequence + 1) now :: before.written index ++ history) (before.noteCopy index now) := by
  have same : messages (.copied index (before.sequence + 1) now :: before.written index ++ history) =
      messages history := by
    rw [List.cons_append, messages, Transition.chronicle_cons, ← messages, messages_append, written_messages]
    simp [Event.message?]
  have fresh : (before.noteCopy index now).sequence = before.sequence + 1 := rfl
  have copied : ((before.noteCopy index now).slots index).generation = before.sequence + 1 := by
    rw [NvencDirect.noteCopy_same]
  have bounded : ∀ slot, slot ≠ index → ((before.noteCopy index now).slots slot).fence = true →
      ((before.noteCopy index now).slots slot).generation ≤ before.sequence := by
    intro slot other waits
    rw [NvencDirect.noteCopy_other _ other] at waits ⊢
    exact ordered.bounded slot waits
  constructor
  · intro slot waits
    by_cases own : slot = index
    · rw [own, copied, fresh]
    · have least := bounded slot own waits
      omega
  · rw [same, fresh]
    intro message sent
    have least := ordered.counted message sent
    omega
  · intro first second one two equal
    by_cases ownFirst : first = index
    · by_cases ownSecond : second = index
      · rw [ownFirst, ownSecond]
      · have least := bounded second ownSecond two
        rw [← equal, ownFirst, copied] at least
        omega
    · have least := bounded first ownFirst one
      by_cases ownSecond : second = index
      · rw [equal, ownSecond, copied] at least
        omega
      · rw [NvencDirect.noteCopy_other _ ownFirst] at one equal
        rw [NvencDirect.noteCopy_other _ ownSecond] at two equal
        exact ordered.distinct first second one two equal
  · rw [same]
    intro message sent slot waits
    by_cases own : slot = index
    · rw [own, copied]
      have least := ordered.counted message sent
      omega
    · rw [NvencDirect.noteCopy_other _ own] at waits ⊢
      exact ordered.ahead message sent slot waits
  · rw [same]
    exact ordered.increasing

theorem Ordered.effect {now : Nat} {history : List Event} {before after : NvencDirect} {seen : List Event}
    (made : Effect now before after seen) (ordered : Ordered history before) : Ordered (seen ++ history) after := by
  cases made with
  | quiet _ slots sequence _ => exact ordered.narrow (.of_slots slots) sequence rfl
  | unmatched index generation => exact ordered.narrow (.of_slots rfl) rfl rfl
  | freed index sent => exact ordered.narrow (.setSlot fun waits => ⟨waits, rfl, rfl⟩) rfl rfl
  | exported index waits oldest => exact ordered.export waits oldest rfl
  | refused index waits => exact ordered.narrow (.setSlot nofun) rfl rfl
  | spoiled index idle unsent =>
    exact ordered.narrow (.setSlot fun waits => ⟨waits, rfl, rfl⟩) rfl (written_messages before index)
  | copied index idle unsent => exact ordered.copy index now

/-! ## Timestamps -/

/-- The newest present is the latest one when presents come in order. -/
theorem newest_latest {history : List Event} {now : Nat} (newest : (history.filterMap Event.present?).head? = some now)
    (sorted : (presents history).Pairwise (· ≤ ·)) : ∀ pts ∈ presents history, pts ≤ now := by
  unfold presents Transition.chronicle at *
  rw [List.pairwise_reverse] at sorted
  intro pts member
  rw [List.mem_reverse] at member
  cases listed : history.filterMap Event.present? with
  | nil => rw [listed] at newest; cases newest
  | cons first rest =>
    rw [listed] at newest sorted member
    obtain rfl := Option.some.inj newest
    rcases List.mem_cons.mp member with rfl | earlier
    · exact Nat.le_refl _
    · exact (List.pairwise_cons.mp sorted).1 pts earlier

/-- While presents come in order, the timestamps follow the generations. -/
structure Timed (history : List Event) (state : NvencDirect) : Prop where
  presented : ∀ slot, (state.slots slot).fence = true → (state.slots slot).pts ∈ presents history
  ordered : (presents history).Pairwise (· ≤ ·) → ∀ first second, (state.slots first).fence = true →
    (state.slots second).fence = true → (state.slots first).generation < (state.slots second).generation →
    (state.slots first).pts ≤ (state.slots second).pts
  ahead : (presents history).Pairwise (· ≤ ·) → ∀ message ∈ messages history,
    message.2 ∈ presents history ∧ ∀ slot, (state.slots slot).fence = true → message.2 ≤ (state.slots slot).pts
  increasing : (presents history).Pairwise (· ≤ ·) →
    (messages history).Pairwise fun first second => first.2 ≤ second.2

theorem presents_append (later earlier : List Event) :
    presents (later ++ earlier) = presents earlier ++ presents later := Transition.chronicle_append _ later earlier

theorem presents_effect {now : Nat} {history seen : List Event} {before after : NvencDirect}
    (made : Effect now before after seen) : presents (seen ++ history) = presents history := by
  rw [presents_append, presents, presents, Transition.chronicle, Transition.chronicle, NvencDirect.effect_presents made]
  simp

theorem Timed.narrow {history later : List Event} {before after : NvencDirect} (timed : Timed history before)
    (narrows : Narrows before after) (presented : presents later = presents history)
    (sent : messages later = messages history) : Timed later after := by
  constructor
  · rw [presented]
    intro slot waits
    obtain ⟨waited, _, pts⟩ := narrows slot waits
    rw [pts]
    exact timed.presented slot waited
  · rw [presented]
    intro sorted first second one two less
    obtain ⟨waitedOne, generationOne, ptsOne⟩ := narrows first one
    obtain ⟨waitedTwo, generationTwo, ptsTwo⟩ := narrows second two
    rw [generationOne, generationTwo] at less
    rw [ptsOne, ptsTwo]
    exact timed.ordered sorted first second waitedOne waitedTwo less
  · rw [presented, sent]
    intro sorted message member
    obtain ⟨known, ahead⟩ := timed.ahead sorted message member
    refine ⟨known, fun slot waits => ?_⟩
    obtain ⟨waited, _, pts⟩ := narrows slot waits
    rw [pts]
    exact ahead slot waited
  · rw [presented, sent]
    exact timed.increasing

theorem Timed.present {history : List Event} {state : NvencDirect} (pts : Nat) (timed : Timed history state) :
    Timed (.presented pts :: history) state := by
  have more : presents (.presented pts :: history) = presents history ++ [pts] := Transition.chronicle_cons _ _ _
  have same : messages (.presented pts :: history) = messages history := by
    rw [messages, Transition.chronicle_cons, ← messages]
    simp [Event.message?]
  have before : (presents history ++ [pts]).Pairwise (· ≤ ·) → (presents history).Pairwise (· ≤ ·) :=
    fun sorted => (List.pairwise_append.mp sorted).1
  constructor
  · rw [more]
    exact fun slot waits => List.mem_append_left _ (timed.presented slot waits)
  · rw [more]
    exact fun sorted => timed.ordered (before sorted)
  · rw [more, same]
    intro sorted message member
    obtain ⟨known, ahead⟩ := timed.ahead (before sorted) message member
    exact ⟨List.mem_append_left _ known, ahead⟩
  · rw [more, same]
    exact fun sorted => timed.increasing (before sorted)

theorem Timed.export {history : List Event} {before : NvencDirect} {index : Fin kSlots} {slot : Slot}
    (timed : Timed history before) (ordered : Ordered history before) (waits : (before.slots index).fence = true)
    (oldest : ∀ other, (before.slots other).fence = true →
      (before.slots index).generation ≤ (before.slots other).generation) (taken : slot.fence = false) :
    Timed (.exported index (before.slots index).generation (before.slots index).pts :: history)
      (before.setSlot index slot) := by
  have narrows : Narrows before (before.setSlot index slot) := .setSlot (by rw [taken]; nofun)
  have kept := timed.narrow narrows rfl rfl
  have same : presents (.exported index (before.slots index).generation (before.slots index).pts :: history) =
      presents history := by
    rw [presents, Transition.chronicle_cons, ← presents]
    simp [Event.present?]
  have more : messages (.exported index (before.slots index).generation (before.slots index).pts :: history) =
      messages history ++ [((before.slots index).generation, (before.slots index).pts)] :=
    Transition.chronicle_cons _ _ _
  refine ⟨?_, ?_, ?_, ?_⟩
  · rw [same]
    exact kept.presented
  · rw [same]
    exact kept.ordered
  · rw [same, more]
    intro sorted message member
    rcases List.mem_append.mp member with earlier | last
    · exact kept.ahead sorted message earlier
    · rw [List.mem_singleton.mp last]
      refine ⟨timed.presented index waits, fun other still => ?_⟩
      obtain ⟨waited, _, pts⟩ := narrows other still
      rw [pts]
      have differs : (before.slots index).generation ≠ (before.slots other).generation := by
        intro equal
        obtain rfl := ordered.distinct index other waits waited equal
        rw [NvencDirect.setSlot_same, taken] at still
        cases still
      have least := oldest other waited
      apply timed.ordered sorted index other waits waited
      omega
  · rw [same, more]
    intro sorted
    refine List.pairwise_append.mpr ⟨timed.increasing sorted, List.pairwise_singleton _ _, ?_⟩
    intro message earlier last member
    rw [List.mem_singleton.mp member]
    exact (timed.ahead sorted message earlier).2 index waits

theorem Timed.copy {history : List Event} {before : NvencDirect} (index : Fin kSlots) {now : Nat}
    (timed : Timed history before) (ordered : Ordered history before)
    (newest : (history.filterMap Event.present?).head? = some now) :
    Timed (.copied index (before.sequence + 1) now :: before.written index ++ history) (before.noteCopy index now) := by
  have sent : messages (.copied index (before.sequence + 1) now :: before.written index ++ history) =
      messages history := by
    rw [List.cons_append, messages, Transition.chronicle_cons, ← messages, messages_append, written_messages]
    simp [Event.message?]
  have presented : presents (.copied index (before.sequence + 1) now :: before.written index ++ history) =
      presents history := by
    rw [List.cons_append, presents, Transition.chronicle_cons, ← presents, presents_append]
    simp [presents, Transition.chronicle, written_presents, Event.present?]
  have member : now ∈ presents history := by
    rw [presents, Transition.chronicle, List.mem_reverse]
    exact List.mem_of_head? newest
  have fresh : ((before.noteCopy index now).slots index).pts = now := by rw [NvencDirect.noteCopy_same]
  have copied : ((before.noteCopy index now).slots index).generation = before.sequence + 1 := by
    rw [NvencDirect.noteCopy_same]
  constructor
  · rw [presented]
    intro slot waits
    by_cases own : slot = index
    · rw [own, fresh]
      exact member
    · rw [NvencDirect.noteCopy_other _ own] at waits ⊢
      exact timed.presented slot waits
  · rw [presented]
    intro sorted first second one two less
    by_cases ownFirst : first = index
    · -- The new copy has the largest generation.
      exfalso
      by_cases ownSecond : second = index
      · rw [ownFirst, ownSecond] at less
        omega
      · rw [ownFirst, copied] at less
        rw [NvencDirect.noteCopy_other _ ownSecond] at two less
        have bound := ordered.bounded second two
        omega
    · rw [NvencDirect.noteCopy_other _ ownFirst] at one less ⊢
      by_cases ownSecond : second = index
      · rw [ownSecond, fresh]
        exact newest_latest newest sorted _ (timed.presented first one)
      · rw [NvencDirect.noteCopy_other _ ownSecond] at two less ⊢
        exact timed.ordered sorted first second one two less
  · rw [presented, sent]
    intro sorted message known
    obtain ⟨before_, ahead⟩ := timed.ahead sorted message known
    refine ⟨before_, fun slot waits => ?_⟩
    by_cases own : slot = index
    · rw [own, fresh]
      exact newest_latest newest sorted _ before_
    · rw [NvencDirect.noteCopy_other _ own] at waits ⊢
      exact ahead slot waits
  · rw [presented, sent]
    exact timed.increasing

theorem Timed.effect {now : Nat} {history : List Event} {before after : NvencDirect} {seen : List Event}
    (made : Effect now before after seen) (newest : (history.filterMap Event.present?).head? = some now)
    (ordered : Ordered history before) (timed : Timed history before) : Timed (seen ++ history) after := by
  have presented : presents (seen ++ history) = presents history := presents_effect made
  have silent : messages seen = [] → messages (seen ++ history) = messages history := by
    intro nothing
    rw [messages_append, nothing, List.append_nil]
  cases made with
  | quiet _ slots _ _ => exact timed.narrow (.of_slots slots) rfl rfl
  | unmatched index generation => exact timed.narrow (.of_slots rfl) presented (silent rfl)
  | freed index sent => exact timed.narrow (.setSlot fun waits => ⟨waits, rfl, rfl⟩) presented (silent rfl)
  | exported index waits oldest => exact timed.export ordered waits oldest rfl
  | refused index waits => exact timed.narrow (.setSlot nofun) presented (silent rfl)
  | spoiled index idle unsent =>
    exact timed.narrow (.setSlot fun waits => ⟨waits, rfl, rfl⟩) presented (silent (written_messages before index))
  | copied index idle unsent => exact timed.copy index ordered newest

/-! ## No more exports are outstanding than there are slots -/

/-- A slot waits for the acknowledgement of each of its outstanding exports, so for one at most. -/
structure Counted (history : List Event) (state : NvencDirect) : Prop where
  waiting : ∀ slot generation, (slot, generation) ∈ outstanding history →
    (state.slots slot).sent = true ∧ (state.slots slot).generation = generation
  single : ((outstanding history).map (·.1)).Nodup

theorem Counted.length_le {history : List Event} {state : NvencDirect} (counted : Counted history state) :
    (outstanding history).length ≤ kSlots := by
  have bound := counted.single.length_le_card
  rw [List.length_map, Fintype.card_fin] at bound
  exact bound

theorem Counted.unsent {history : List Event} {state : NvencDirect} {slot : Fin kSlots} (counted : Counted history state)
    (unsent : (state.slots slot).sent = false) : slot ∉ (outstanding history).map (·.1) := by
  intro member
  obtain ⟨⟨_, generation⟩, listed, rfl⟩ := List.mem_map.mp member
  have sent := (counted.waiting _ generation listed).1
  rw [unsent] at sent
  cases sent

/-- A change of a slot that waits for nothing. -/
theorem Counted.setSlot {history later : List Event} {before after : NvencDirect} {index : Fin kSlots}
    (counted : Counted history before) (unsent : (before.slots index).sent = false)
    (others : ∀ slot, slot ≠ index → after.slots slot = before.slots slot)
    (same : outstanding later = outstanding history) : Counted later after := by
  refine ⟨?_, ?_⟩
  · rw [same]
    intro slot generation listed
    have differs : slot ≠ index := by
      rintro rfl
      exact counted.unsent unsent (List.mem_map_of_mem listed)
    rw [others slot differs]
    exact counted.waiting slot generation listed
  · rw [same]
    exact counted.single

theorem written_outstanding (state : NvencDirect) (index : Fin kSlots) (history : List Event) :
    outstanding (state.written index ++ history) = outstanding history := by
  unfold NvencDirect.written
  cases (state.slots index).needsAcquire <;> rfl

/-- An acknowledgement takes the export it names off the list. -/
theorem Counted.acknowledge {history : List Event} {before after : NvencDirect} {index : Fin kSlots} {generation : Nat}
    (counted : Counted history before)
    (kept : ∀ slot, (before.slots slot).sent = true → (slot, (before.slots slot).generation) ≠ (index, generation) →
      (after.slots slot).sent = true ∧ (after.slots slot).generation = (before.slots slot).generation) :
    Counted (.acked index generation :: history) after := by
  constructor
  · intro slot other listed
    obtain ⟨earlier, differs⟩ := List.mem_filter.mp listed
    obtain ⟨sent, rfl⟩ := counted.waiting slot other earlier
    exact kept slot sent (by simpa using differs)
  · exact counted.single.sublist (List.Sublist.map _ List.filter_sublist)

theorem Counted.effect {now : Nat} {history : List Event} {before after : NvencDirect} {seen : List Event}
    (made : Effect now before after seen) (safe : Safe history before) (counted : Counted history before) :
    Counted (seen ++ history) after := by
  cases made with
  | quiet _ slots _ _ => exact ⟨by rw [slots]; exact counted.waiting, counted.single⟩
  | unmatched index generation => exact counted.acknowledge fun slot sent _ => ⟨sent, rfl⟩
  | freed index sent =>
    refine counted.acknowledge fun slot waits differs => ?_
    have other : slot ≠ index := by
      rintro rfl
      exact differs rfl
    rw [NvencDirect.setSlot_other _ other]
    exact ⟨waits, rfl⟩
  | exported index waits _ =>
    have unsent := ((safe.1 index).pending waits).1
    -- So the slot has no export on the list yet.
    constructor
    · intro slot generation listed
      rcases List.mem_cons.mp listed with own | earlier
      · obtain ⟨rfl, rfl⟩ := Prod.mk.inj own
        rw [NvencDirect.setSlot_same]
        exact ⟨rfl, rfl⟩
      · have other : slot ≠ index := by
          rintro rfl
          exact counted.unsent unsent (List.mem_map_of_mem earlier)
        rw [NvencDirect.setSlot_other _ other]
        exact counted.waiting slot generation earlier
    · exact List.nodup_cons.mpr ⟨counted.unsent unsent, counted.single⟩
  | refused index waits =>
    exact counted.setSlot ((safe.1 index).pending waits).1 (fun _ other => NvencDirect.setSlot_other _ other) rfl
  | spoiled index _ unsent =>
    exact counted.setSlot unsent (fun _ other => NvencDirect.setSlot_other _ other)
      (written_outstanding before index history)
  | copied index _ unsent =>
    exact counted.setSlot unsent (fun _ other => NvencDirect.noteCopy_other _ other)
      (written_outstanding before index history)

/-! ## Every run -/

structure ExportInvariant (history : List Event) (state : NvencDirect) : Prop where
  safe : Safe history state
  ordered : Ordered history state
  timed : Timed history state
  counted : Counted history state

theorem exportInvariant {history : List Event} {state : NvencDirect} (run : NvencDirect.Execution history state) :
    ExportInvariant history state := by
  refine NvencDirect.Execution.keeps ?_ ?_ ?_ ?_ run
  -- The pool as created, steps that only move flags, presents, and what a present does.
  · rintro _ ⟨width, height, interval, stream, rfl⟩
    refine ⟨⟨fun slot => ⟨nofun, nofun, fun _ _ => .inl nofun⟩, trivial⟩, ?_, ?_, ?_⟩
    · exact ⟨nofun, List.forall_mem_nil _, nofun, List.forall_mem_nil _, .nil⟩
    · exact ⟨nofun, nofun, fun _ => List.forall_mem_nil _, fun _ => .nil⟩
    · exact ⟨nofun, .nil⟩
  · intro history before after quiet held
    have slots : after.slots = before.slots := by
      cases quiet with | quiet _ slots _ _ => exact slots
    exact ⟨held.safe.effect quiet, held.ordered.effect quiet, held.timed.narrow (.of_slots slots) rfl rfl,
      held.counted.effect quiet held.safe⟩
  · intro history state pts held
    have ordered : Ordered ([.presented pts] ++ history) state := held.ordered.narrow (.of_slots rfl) rfl rfl
    exact ⟨⟨fun slot => (held.safe.1 slot).later ⟨nofun, nofun⟩, nofun, held.safe.2⟩, ordered,
      held.timed.present pts, held.counted.waiting, held.counted.single⟩
  · intro now history before after seen newest made held
    exact ⟨held.safe.effect made, held.ordered.effect made, held.timed.effect made newest held.ordered,
      held.counted.effect made held.safe⟩

/-- A texture is written only while its slot is free; messages leave in the order of
their copies, none twice, with timestamps that follow the presents; and no more
exports wait for their acknowledgement than there are slots. -/
theorem exports_are_safe {history : List Event} {state : NvencDirect} (run : NvencDirect.Execution history state) :
    Transition.Throughout (fun event earlier => ∀ slot, event = .overwritten slot → Free slot earlier) history ∧
      (messages history).Pairwise (fun first second => first.1 < second.1) ∧
      ((presents history).Pairwise (· ≤ ·) →
        (messages history).Pairwise fun first second => first.2 ≤ second.2) ∧
      (outstanding history).length ≤ kSlots := by
  obtain ⟨safe, ordered, timed, counted⟩ := exportInvariant run
  exact ⟨safe.2, ordered.increasing, timed.increasing, counted.length_le⟩

def smallExporter : NvencDirect := { width := 2, height := 2, interval := 1 }

/-- Two frames go out; the acknowledgement of the first frees its slot for a third. -/
def threeFrames : List Input :=
  [.submit 2 2 1 {}, .submit 2 2 3 { fence := fun _ => .signaled },
    .arrive { generation := 1, slot := 0 }, .submit 2 2 5 { fence := fun _ => .signaled },
    .submit 2 2 7 { fence := fun _ => .signaled }]

theorem exports_are_safe_threeFrames :
    (messages (Transition.execute NvencDirect.step smallExporter threeFrames).2).Pairwise
      (fun first second => first.1 < second.1) ∧
      messages (Transition.execute NvencDirect.step smallExporter threeFrames).2 = [(1, 1), (2, 3), (3, 5)] := by
  have begun : NvencDirect.Execution [] smallExporter := .start ⟨2, 2, 1, 0, rfl⟩
  have run := begun.execute threeFrames (Transition.permits_unrestricted _ _ _ _)
  rw [List.append_nil] at run
  exact ⟨(exports_are_safe run).2.1, by decide +kernel⟩

end Luma.Export
