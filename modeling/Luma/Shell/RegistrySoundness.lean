import Luma.Shell.TrayWatcher
import Luma.Library.Transition
import Mathlib.Data.List.Nodup

/-! What the tray registry holds and announces, in every order of registrations, lookups and
changes of owner.

A confirmed owner stays the owner until a signal that takes the entry away is on its way: the
reply that confirms it and that signal come in the order in which the bus saw them.
-/

set_option autoImplicit false

namespace Luma.Shell

open Luma.Library

/-- The message takes away what the holder of the service has registered. -/
def Message.Removes (service holder : String) : Message → Prop
  | .reply _ _ => False
  | .nameOwnerChanged name old new => old ≠ "" ∧ old ≠ new ∧ gone name old service holder = true

/-- The holder owns the service, or a message that takes its entries away is on its way. -/
def Backed (owner : String → Option String) (queue : List Message) (service holder : String) : Prop :=
  owner service = some holder ∨ ∃ message ∈ queue, message.Removes service holder

/-! ## The watcher -/

namespace Watcher

variable {self : Watcher}

structure Registry (watcher : Watcher) : Prop where
  numbers : (watcher.outstanding.map Request.number).Nodup
  below : ∀ request ∈ watcher.outstanding, request.number ≤ watcher.sequence
  held : ∀ request ∈ watcher.pending, request ∈ watcher.outstanding
  once : ∀ host, ((watcher.entries host).map Entry.id).Nodup
  bounded : ∀ host, (watcher.entries host).length ≤ 64
  waiting : watcher.pending.length ≤ 64

theorem insert_entries (self : Watcher) (request : Request) (host : Bool) : (self.insert request).entries host =
    if host = request.host then self.entries host ++ [request.entry] else self.entries host := by
  unfold insert
  cases asked : request.host <;> cases host <;> rfl

theorem insert_rest (self : Watcher) (request : Request) : (self.insert request).outstanding = self.outstanding ∧
    (self.insert request).pending = self.pending ∧ (self.insert request).sequence = self.sequence := by
  unfold insert
  split <;> exact ⟨rfl, rfl, rfl⟩

theorem changed_entries (self : Watcher) {name old new : String} (change : ¬(old = "" ∨ old = new)) (host : Bool) :
    (self.nameOwnerChanged name old new).1.entries host =
      (self.entries host).filter fun entry => !gone name old entry.service entry.owner := by
  unfold nameOwnerChanged
  rw [if_neg change]
  cases host <;> rfl

/-- The watcher once the callback of a lookup has run its course. -/
def settled (self : Watcher) (number : Nat) : Watcher := { self with
  outstanding := self.outstanding.filter (·.number != number)
  pending := self.pending.filter (·.number != number) }

theorem settled_registry (registry : Registry self) (number : Nat) : Registry (self.settled number) where
  numbers := registry.numbers.sublist (List.filter_sublist.map _)
  below := fun request there => registry.below request (List.mem_of_mem_filter there)
  held := by
    intro request there
    obtain ⟨held, other⟩ := List.mem_filter.mp there
    exact List.mem_filter.mpr ⟨registry.held request held, other⟩
  once := registry.once
  bounded := registry.bounded
  waiting := Nat.le_trans (List.length_filter_le _ _) registry.waiting

/-- What a confirmed registration does: nothing to the entries, or it adds its own. -/
theorem enter_cases (self : Watcher) (request : Request) :
    ((self.enter request).1 = self ∧ ∃ reply, (self.enter request).2 = [.answered request.invocation reply]) ∨
    ((self.enter request).1 = self.insert request ∧ (∀ entry ∈ self.entries request.host, entry.id ≠ request.id) ∧
      (self.entries request.host).length < 64 ∧
      (self.enter request).2 = .answered request.invocation .done ::
        if !request.host then [.itemRegistered request.id]
        else if self.hosts.isEmpty then [.hostRegistered] else []) := by
  unfold enter
  split
  · exact .inl ⟨rfl, _, rfl⟩
  · rename_i fresh
    split
    · exact .inl ⟨rfl, _, rfl⟩
    · rename_i room
      refine .inr ⟨rfl, ?_, by omega, rfl⟩
      simpa using fresh

/-- What the callback of a lookup does: nothing if it ran before, or it admits or refuses. -/
theorem settle_cases (registry : Registry self) (number : Nat) (result : Option String) :
    self.settle number result = (self, []) ∨
    ∃ request ∈ self.outstanding, request.number = number ∧
      ((request ∈ self.pending ∧ result = some request.owner ∧
        self.settle number result = (self.settled number).enter request) ∨
      self.settle number result = (self.settled number, [.answered request.invocation notOwned])) := by
  unfold settle
  split
  · exact .inl rfl
  · rename_i request found
    have there := List.mem_of_find?_eq_some found
    have named : request.number = number := by simpa using List.find?_some found
    refine .inr ⟨request, there, named, ?_⟩
    dsimp only
    split
    · rename_i valid
      rw [Bool.and_eq_true, List.any_eq_true, beq_iff_eq] at valid
      obtain ⟨⟨waiting, held, same⟩, owned⟩ := valid
      have numbers : waiting.number = request.number := (beq_iff_eq.mp same).trans named.symm
      have unique := List.inj_on_of_nodup_map registry.numbers (registry.held waiting held) there numbers
      exact .inl ⟨unique ▸ held, owned, rfl⟩
    · exact .inr rfl

theorem insert_registry (registry : Registry self) {request : Request}
    (fresh : ∀ entry ∈ self.entries request.host, entry.id ≠ request.id)
    (room : (self.entries request.host).length < 64) : Registry (self.insert request) := by
  obtain ⟨outstanding, pending, sequence⟩ := insert_rest self request
  refine ⟨?_, ?_, ?_, ?_, ?_, ?_⟩
  · rw [outstanding]
    exact registry.numbers
  · rw [outstanding, sequence]
    exact registry.below
  · rw [outstanding, pending]
    exact registry.held
  · intro host
    rw [insert_entries]
    split
    · rename_i same
      subst same
      rw [List.map_append]
      apply List.Nodup.append (registry.once _) (List.nodup_singleton _)
      intro id old new
      obtain ⟨entry, there, rfl⟩ := List.mem_map.mp old
      exact fresh entry there (List.mem_singleton.mp new)
    · exact registry.once host
  · intro host
    rw [insert_entries]
    split
    · rename_i same
      subst same
      rw [List.length_append, List.length_singleton]
      omega
    · exact registry.bounded host
  · rw [pending]
    exact registry.waiting

theorem changed_registry (registry : Registry self) (name old new : String) :
    Registry (self.nameOwnerChanged name old new).1 := by
  by_cases change : old = "" ∨ old = new
  · unfold nameOwnerChanged
    rw [if_pos change]
    exact registry
  · have rest : (self.nameOwnerChanged name old new).1.outstanding = self.outstanding ∧
        (self.nameOwnerChanged name old new).1.sequence = self.sequence ∧
        (self.nameOwnerChanged name old new).1.pending =
          self.pending.filter fun request => !gone name old request.service request.owner := by
      unfold nameOwnerChanged
      rw [if_neg change]
      exact ⟨rfl, rfl, rfl⟩
    obtain ⟨outstanding, sequence, pending⟩ := rest
    refine ⟨?_, ?_, ?_, ?_, ?_, ?_⟩
    · rw [outstanding]
      exact registry.numbers
    · rw [outstanding, sequence]
      exact registry.below
    · rw [outstanding, pending]
      exact fun request there => registry.held request (List.mem_of_mem_filter there)
    · intro host
      rw [changed_entries self change]
      exact (registry.once host).sublist (List.filter_sublist.map _)
    · intro host
      rw [changed_entries self change]
      exact Nat.le_trans (List.length_filter_le _ _) (registry.bounded host)
    · rw [pending]
      exact Nat.le_trans (List.length_filter_le _ _) registry.waiting

/-- What a method call does: it is answered at once, or a lookup is sent for it. -/
theorem register_cases (self : Watcher) (names : Names) (invocation : Nat) (host : Bool) (sender value : String) :
    (∃ reply, self.register names invocation host sender value = (self, none, [.answered invocation reply])) ∨
    ∃ service path, self.pending.length < 64 ∧ self.register names invocation host sender value =
      ({ self with
        sequence := self.sequence + 1
        pending := self.pending ++ [⟨self.sequence + 1, host, service, path, sender, invocation⟩]
        outstanding := self.outstanding ++ [⟨self.sequence + 1, host, service, path, sender, invocation⟩] },
      some ⟨self.sequence + 1, host, service, path, sender, invocation⟩, []) := by
  unfold register
  split
  · exact .inl ⟨_, rfl⟩
  · split
    · exact .inl ⟨_, rfl⟩
    · rename_i service path _ _
      exact .inr ⟨service, path, by omega, rfl⟩

end Watcher

/-! ## The bus -/

namespace Bus

variable {bus : Bus} {names : Names}

open Watcher

/-- Entries are backed, and so is every registration whose confirmation is on its way by what
comes after it. -/
structure Sound (bus : Bus) : Prop where
  registry : Registry bus.watcher
  named : ∀ name, bus.owner name ≠ some ""
  lookups : ∀ lookup ∈ bus.lookups, lookup.number ≤ bus.watcher.sequence ∧
    ∀ request ∈ bus.watcher.pending, request.number = lookup.number → request = lookup
  replies : ∀ number owner, .reply number owner ∈ bus.queue → number ≤ bus.watcher.sequence
  confirmed : ∀ before number holder after, bus.queue = before ++ .reply number (some holder) :: after →
    ∀ request ∈ bus.watcher.pending, request.number = number → holder = request.owner →
    Backed bus.owner after request.service request.owner
  listed : ∀ host, ∀ entry ∈ bus.watcher.entries host, Backed bus.owner bus.queue entry.service entry.owner

/-- A message that removes nothing of what it concerns is taken off the queue. -/
theorem backed_tail {owner : String → Option String} {message : Message} {queue : List Message}
    {service holder : String} (keeps : ¬message.Removes service holder)
    (backed : Backed owner (message :: queue) service holder) : Backed owner queue service holder := by
  rcases backed with owns | ⟨other, there, removes⟩
  · exact .inl owns
  · rcases List.mem_cons.mp there with rfl | later
    · exact absurd removes keeps
    · exact .inr ⟨other, later, removes⟩

/-- The next message only takes things away, and it takes what it removes. -/
theorem pop_sound (sound : Sound bus) {message : Message} {queue : List Message} (next : bus.queue = message :: queue)
    {watcher : Watcher} (registry : Registry watcher) (sequence : watcher.sequence = bus.watcher.sequence)
    (pending : ∀ request ∈ watcher.pending, request ∈ bus.watcher.pending ∧
      ¬message.Removes request.service request.owner)
    (entries : ∀ host, ∀ entry ∈ watcher.entries host, entry ∈ bus.watcher.entries host ∧
      ¬message.Removes entry.service entry.owner) : Sound { bus with queue, watcher } where
  registry := registry
  named := sound.named
  lookups := by
    intro lookup there
    obtain ⟨below, same⟩ := sound.lookups lookup there
    exact ⟨sequence ▸ below, fun request held => same request (pending request held).1⟩
  replies := by
    intro number owner there
    show number ≤ watcher.sequence
    rw [sequence]
    exact sound.replies number owner (next ▸ List.mem_cons_of_mem _ there)
  confirmed := by
    intro before number holder after whole request held
    have longer : bus.queue = message :: before ++ .reply number (some holder) :: after :=
      next.trans (congrArg (message :: ·) whole)
    exact sound.confirmed (message :: before) number holder after longer request (pending request held).1
  listed := by
    intro host entry there
    obtain ⟨old, keeps⟩ := entries host entry there
    have backed := sound.listed host entry old
    rw [next] at backed
    exact backed_tail keeps backed

theorem settle_sound (sound : Sound bus) (number : Nat) (result : Option String)
    (grants : ∀ request ∈ bus.watcher.pending, request.number = number → result = some request.owner →
      Backed bus.owner bus.queue request.service request.owner) :
    Sound { bus with watcher := (bus.watcher.settle number result).1 } := by
  have denied : Sound { bus with watcher := bus.watcher.settled number } := {
    registry := settled_registry sound.registry number
    named := sound.named
    lookups := fun lookup there => ⟨(sound.lookups lookup there).1,
      fun request held => (sound.lookups lookup there).2 request (List.mem_of_mem_filter held)⟩
    replies := sound.replies
    confirmed := fun before number holder after whole request held =>
      sound.confirmed before number holder after whole request (List.mem_of_mem_filter held)
    listed := sound.listed }
  rcases settle_cases sound.registry number result with same | ⟨request, there, named, ⟨held, owned, admitted⟩ | refused⟩
  · rw [same]
    exact sound
  · rw [admitted]
    rcases enter_cases (bus.watcher.settled number) request with ⟨same, -⟩ | ⟨inserted, fresh, room, -⟩
    · rw [same]
      exact denied
    · rw [inserted]
      obtain ⟨-, pending, sequence⟩ := insert_rest (bus.watcher.settled number) request
      refine ⟨insert_registry denied.registry fresh room, sound.named, ?_, ?_, ?_, ?_⟩
      · intro lookup there
        obtain ⟨below, same⟩ := denied.lookups lookup there
        refine ⟨?_, fun other held => same other ?_⟩
        · show _ ≤ ((bus.watcher.settled number).insert request).sequence
          rw [sequence]
          exact below
        · change other ∈ ((bus.watcher.settled number).insert request).pending at held
          rw [pending] at held
          exact held
      · intro number owner there
        show number ≤ ((bus.watcher.settled _).insert request).sequence
        rw [sequence]
        exact denied.replies number owner there
      · intro before number holder after whole other waits
        change other ∈ ((bus.watcher.settled _).insert request).pending at waits
        rw [pending] at waits
        exact denied.confirmed before number holder after whole other waits
      · intro host entry there
        change entry ∈ ((bus.watcher.settled number).insert request).entries host at there
        rw [insert_entries] at there
        split at there
        · rcases List.mem_append.mp there with old | new
          · exact denied.listed host entry old
          · cases List.mem_singleton.mp new
            exact grants request held named owned
        · exact denied.listed host entry there
  · rw [refused]
    exact denied

theorem deliver_sound (sound : Sound bus) : Sound bus.deliver.1 := by
  unfold deliver
  cases next : bus.queue with
  | nil => exact sound
  | cons message queue =>
    cases message with
    | reply number owner =>
      have popped : Sound { bus with queue } := by
        apply pop_sound sound next sound.registry rfl
        · exact fun request held => ⟨held, id⟩
        · exact fun host entry there => ⟨there, id⟩
      apply settle_sound popped number owner
      intro request held named owned
      subst owned
      exact sound.confirmed [] number request.owner queue next request held named rfl
    | nameOwnerChanged name old new =>
      dsimp only
      apply pop_sound sound next (changed_registry sound.registry name old new)
      · unfold nameOwnerChanged
        split <;> rfl
      · intro request held
        by_cases change : old = "" ∨ old = new
        · unfold nameOwnerChanged at held
          rw [if_pos change] at held
          refine ⟨held, fun removes => ?_⟩
          rcases change with empty | same
          · exact removes.1 empty
          · exact removes.2.1 same
        · unfold nameOwnerChanged at held
          rw [if_neg change] at held
          obtain ⟨old, stays⟩ := List.mem_filter.mp held
          refine ⟨old, fun removes => ?_⟩
          rw [removes.2.2] at stays
          cases stays
      · intro host entry there
        by_cases change : old = "" ∨ old = new
        · unfold nameOwnerChanged at there
          rw [if_pos change] at there
          refine ⟨there, fun removes => ?_⟩
          rcases change with empty | same
          · exact removes.1 empty
          · exact removes.2.1 same
        · rw [changed_entries bus.watcher change] at there
          obtain ⟨old, stays⟩ := List.mem_filter.mp there
          refine ⟨old, fun removes => ?_⟩
          rw [removes.2.2] at stays
          cases stays

theorem register_sound (sound : Sound bus) (host : Bool) (sender : String) (value : Option String) :
    Sound (bus.register names host sender value).1 := by
  cases value with
  | none => exact sound
  | some value =>
    unfold register
    dsimp only
    rcases register_cases bus.watcher names bus.nextInvocation host sender value with ⟨reply, same⟩ | ⟨service, path, room, sent⟩
    · rw [same]
      simp only [Option.toList_none, List.append_nil]
      exact { sound with }
    · rw [sent]
      set request : Request := ⟨bus.watcher.sequence + 1, host, service, path, sender, bus.nextInvocation⟩ with asks
      have registry := sound.registry
      have later {number : Nat} (below : number ≤ bus.watcher.sequence) : request.number ≠ number := by
        show bus.watcher.sequence + 1 ≠ number
        omega
      refine ⟨⟨?_, ?_, ?_, registry.once, registry.bounded, ?_⟩, sound.named, ?_, ?_, ?_, sound.listed⟩
      · show (List.map Request.number (bus.watcher.outstanding ++ [request])).Nodup
        rw [List.map_append]
        apply List.Nodup.append registry.numbers (List.nodup_singleton _)
        intro number old new
        obtain ⟨other, there, rfl⟩ := List.mem_map.mp old
        exact later (registry.below other there) (List.mem_singleton.mp new).symm
      · intro other there
        rcases List.mem_append.mp there with old | new
        · exact Nat.le_succ_of_le (registry.below other old)
        · cases List.mem_singleton.mp new
          exact Nat.le_refl _
      · intro other there
        rcases List.mem_append.mp there with old | new
        · exact List.mem_append_left _ (registry.held other old)
        · exact List.mem_append_right _ new
      · show (bus.watcher.pending ++ [request]).length ≤ 64
        rw [List.length_append, List.length_singleton]
        omega
      · intro lookup there
        rcases List.mem_append.mp there with old | new
        · obtain ⟨below, same⟩ := sound.lookups lookup old
          refine ⟨Nat.le_succ_of_le below, fun other held named => ?_⟩
          rcases List.mem_append.mp held with waiting | latest
          · exact same other waiting named
          · cases List.mem_singleton.mp latest
            exact absurd named (later below)
        · cases List.mem_singleton.mp new
          refine ⟨Nat.le_refl _, fun other held named => ?_⟩
          rcases List.mem_append.mp held with waiting | latest
          · exact absurd named.symm (later (registry.below other (registry.held other waiting)))
          · exact List.mem_singleton.mp latest
      · intro number owner there
        exact Nat.le_succ_of_le (sound.replies number owner there)
      · intro before number holder after whole other held named
        rcases List.mem_append.mp held with waiting | latest
        · exact sound.confirmed before number holder after whole other waiting named
        · cases List.mem_singleton.mp latest
          have below := sound.replies number (some holder) (by
            show _ ∈ bus.queue
            rw [show bus.queue = _ from whole]
            simp)
          exact absurd named (later below)

theorem lookup_sound (sound : Sound bus) {index : Nat} {lookup : Request} (there : bus.lookups[index]? = some lookup) :
    Sound { bus with
      lookups := bus.lookups.eraseIdx index
      queue := bus.queue ++ [.reply lookup.number (bus.owner lookup.service)] } := by
  obtain ⟨below, same⟩ := sound.lookups lookup (List.mem_of_getElem? there)
  refine ⟨sound.registry, sound.named, ?_, ?_, ?_, ?_⟩
  · exact fun other among => sound.lookups other ((List.eraseIdx_sublist _ _).subset among)
  · intro number owner among
    rcases List.mem_append.mp among with old | new
    · exact sound.replies number owner old
    · cases List.mem_singleton.mp new
      exact below
  · intro before number holder after whole request held named owned
    rcases List.eq_nil_or_concat' after with rfl | ⟨after, last, rfl⟩
    · -- The new reply says who owns the service now.
      obtain ⟨-, reply⟩ := List.append_inj' whole rfl
      injection reply with reply
      injection reply with numbers answer
      cases same request held (named.trans numbers.symm)
      exact .inl (answer.trans (congrArg some owned))
    · have shorter : bus.queue = before ++ .reply number (some holder) :: after ∧ _ = [last] :=
        List.append_inj' (whole.trans (by simp)) rfl
      rcases sound.confirmed before number holder after shorter.1 request held named owned with owns | ⟨message, later, removes⟩
      · exact .inl owns
      · exact .inr ⟨message, List.mem_append_left _ later, removes⟩
  · intro host entry listed
    rcases sound.listed host entry listed with owns | ⟨message, later, removes⟩
    · exact .inl owns
    · exact .inr ⟨message, List.mem_append_left _ later, removes⟩

theorem change_sound (sound : Sound bus) (name : String) (owner : Option String) : Sound (bus.change name owner) := by
  unfold change
  split
  · exact sound
  · rename_i changes
    rw [not_or] at changes
    generalize announces : Message.nameOwnerChanged name ((bus.owner name).getD "") (owner.getD "") = signal
    -- Whoever loses a name is named by the signal.
    have backed {queue : List Message} {service holder : String} (backed : Backed bus.owner queue service holder) :
        Backed (Function.update bus.owner name owner) (queue ++ [signal]) service holder := by
      rcases backed with owns | ⟨message, there, removes⟩
      · by_cases same : service = name
        · subst same
          right
          refine ⟨signal, List.mem_append_right _ List.mem_cons_self, announces ▸ ⟨?_, ?_, ?_⟩⟩
          · rw [owns]
            exact fun empty => sound.named service (by rw [owns]; exact congrArg some empty)
          · rw [owns]
            intro again
            apply changes.2
            rw [owns]
            cases owner with
            | none => exact absurd (show holder = "" from again) fun empty => sound.named service (by rw [owns, empty])
            | some new => exact congrArg some again
          · simp [gone]
        · exact .inl ((Function.update_of_ne same _ _).trans owns)
      · exact .inr ⟨message, List.mem_append_left _ there, removes⟩
    refine ⟨sound.registry, ?_, sound.lookups, ?_, ?_, fun host entry there => backed (sound.listed host entry there)⟩
    · intro other
      show Function.update bus.owner name owner other ≠ _
      by_cases same : other = name
      · subst same
        rw [Function.update_self]
        exact changes.1
      · rw [Function.update_of_ne same]
        exact sound.named other
    · intro number answer there
      rcases List.mem_append.mp there with old | new
      · exact sound.replies number answer old
      · rw [← announces] at new
        cases List.mem_singleton.mp new
    · intro before number holder after whole request held named owned
      rcases List.eq_nil_or_concat' after with rfl | ⟨after, last, rfl⟩
      · obtain ⟨-, reply⟩ := List.append_inj' whole rfl
        rw [← announces] at reply
        cases reply
      · have shorter : bus.queue = before ++ .reply number (some holder) :: after ∧ [signal] = [last] :=
          List.append_inj' (whole.trans (by simp)) rfl
        cases shorter.2
        exact backed (sound.confirmed before number holder after shorter.1 request held named owned)

theorem step_sound (sound : Sound bus) (event : BusEvent) : Sound (bus.step names event).1 := by
  cases event with
  | register host sender value => exact register_sound sound host sender value
  | lookup index =>
    unfold step
    dsimp only
    split
    · exact sound
    · rename_i request there
      exact lookup_sound sound there
  | deliver => exact deliver_sound sound
  | fail number =>
    apply settle_sound sound number none
    intro request held named nothing
    cases nothing
  | change name owner => exact change_sound sound name owner

end Bus

end Luma.Shell
