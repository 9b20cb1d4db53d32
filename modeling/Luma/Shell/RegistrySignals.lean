import Luma.Shell.RegistrySoundness

/-! Answers and signals of the tray registry.

A registration is answered at once or has a callback that will answer it. The signals about an
item are sent when its entry comes and when it goes.
-/

set_option autoImplicit false

namespace Luma.Shell

open Luma.Library

/-! ## Turns -/

/-- True and false take turns from true on, and the last one says whether something is there. -/
structure Turns (values : List Bool) (present : Prop) : Prop where
  alternating : Alternating true false values
  last : values.length % 2 = 1 ↔ present

namespace Turns

variable {values : List Bool} {present after : Prop}

theorem nil (absent : ¬present) : Turns [] present := ⟨.nil, by simpa using absent⟩

theorem keep (turns : Turns values present) (same : after ↔ present) : Turns values after :=
  ⟨turns.alternating, turns.last.trans same.symm⟩

theorem appear (turns : Turns values present) (absent : ¬present) (comes : after) : Turns (values ++ [true]) after := by
  have even : values.length % 2 = 0 := by
    have parity := turns.last.not.mpr absent
    omega
  have next := turns.alternating.next
  rw [if_pos even] at next
  refine ⟨next, ?_⟩
  rw [List.length_append, List.length_singleton]
  exact ⟨fun _ => comes, fun _ => by omega⟩

theorem vanish (turns : Turns values present) (there : present) (goes : ¬after) : Turns (values ++ [false]) after := by
  have odd : values.length % 2 = 1 := turns.last.mpr there
  have next := turns.alternating.next
  rw [if_neg (by omega)] at next
  refine ⟨next, ?_⟩
  rw [List.length_append, List.length_singleton]
  exact ⟨fun parity => by omega, fun stays => absurd stays goes⟩

end Turns

namespace WatcherObservation

/-- What a signal says about an item. -/
def aboutItem (id : String) : WatcherObservation → Option Bool
  | .itemRegistered other => if other = id then some true else none
  | .itemUnregistered other => if other = id then some false else none
  | _ => none

/-- What a signal says about hosts. -/
def aboutHosts : WatcherObservation → Option Bool
  | .hostRegistered => some true
  | .hostUnregistered => some false
  | _ => none

def answers (invocation : Nat) : WatcherObservation → Bool
  | .answered other _ => other == invocation
  | _ => false

end WatcherObservation

open WatcherObservation Watcher

/-- The signals of a kind in the order they were sent. -/
def signals (about : WatcherObservation → Option Bool) (history : List WatcherObservation) : List Bool :=
  (history.filterMap about).reverse

theorem signals_append (about : WatcherObservation → Option Bool) (observations history : List WatcherObservation) :
    signals about (observations ++ history) = signals about history ++ signals about observations := by
  rw [signals, List.filterMap_append, List.reverse_append]
  rfl

theorem signals_unregistered {entries : List Entry} (once : (entries.map Entry.id).Nodup) (id : String) :
    signals (aboutItem id) (entries.map fun entry => .itemUnregistered entry.id).reverse =
      if id ∈ entries.map Entry.id then [false] else [] := by
  rw [signals, List.filterMap_reverse, List.reverse_reverse]
  induction entries with
  | nil => rfl
  | cons entry entries ih =>
    rw [List.map_cons, List.nodup_cons] at once
    have rest := ih once.2
    rw [List.map_cons, List.filterMap_cons]
    by_cases named : entry.id = id
    · subst named
      rw [if_neg once.1] at rest
      simp [aboutItem, rest]
    · simp [aboutItem, named, Ne.symm named, rest]

/-! ## The watcher -/

namespace Watcher

variable {self : Watcher} {history : List WatcherObservation}

/-- The signals sent so far fit what is registered. -/
structure Announced (history : List WatcherObservation) (watcher : Watcher) : Prop where
  items : ∀ id, Turns (signals (aboutItem id) history) (id ∈ watcher.items.map Entry.id)
  hosts : Turns (signals aboutHosts history) (watcher.hosts ≠ [])

/-- Calls so far are answered or have a callback. -/
def Accounted (history : List WatcherObservation) (outstanding : List Request) : Prop :=
  ∀ invocation, history.countP (answers invocation) + outstanding.countP (·.invocation == invocation) =
    history.count (.called invocation)

theorem announced_quiet (announced : Announced history self) {observations : List WatcherObservation}
    (items : ∀ id, observations.filterMap (aboutItem id) = []) (hosts : observations.filterMap aboutHosts = []) :
    Announced (observations ++ history) self where
  items := by
    intro id
    rw [signals_append, signals, signals, items id, List.reverse_nil, List.append_nil]
    exact announced.items id
  hosts := by
    rw [signals_append, signals, signals, hosts, List.reverse_nil, List.append_nil]
    exact announced.hosts

theorem announced_same (announced : Announced history self) {after : Watcher} (items : after.items = self.items)
    (hosts : after.hosts = self.hosts) : Announced history after :=
  ⟨fun id => items ▸ announced.items id, hosts ▸ announced.hosts⟩

theorem enter_announced (announced : Announced history self) (request : Request) :
    Announced ((self.enter request).2 ++ history) (self.enter request).1 := by
  rcases enter_cases self request with ⟨same, reply, observed⟩ | ⟨inserted, fresh, -, observed⟩
  · rw [same, observed]
    exact announced_quiet announced (fun _ => rfl) rfl
  · rw [inserted, observed]
    cases asked : request.host with
    | false =>
      rw [asked] at fresh
      have entries : (self.insert request).items = self.items ++ [request.entry] := by simp [insert, asked]
      have others : (self.insert request).hosts = self.hosts := by simp [insert, asked]
      refine ⟨fun id => ?_, ?_⟩
      · rw [signals_append, entries, List.map_append]
        by_cases named : request.id = id
        · have came : signals (aboutItem id) (.answered request.invocation .done ::
              if !false then [.itemRegistered request.id] else if self.hosts.isEmpty then [.hostRegistered] else []) =
              [true] := by simp [signals, List.filterMap_cons, aboutItem, named]
          rw [came]
          apply (announced.items id).appear
          · intro there
            obtain ⟨entry, listed, same⟩ := List.mem_map.mp there
            exact fresh entry listed (same.trans named.symm)
          · exact List.mem_append_right _ (named ▸ List.mem_cons_self)
        · have other : signals (aboutItem id) (.answered request.invocation .done ::
              if !false then [.itemRegistered request.id] else if self.hosts.isEmpty then [.hostRegistered] else []) =
              [] := by simp [signals, List.filterMap_cons, aboutItem, named]
          rw [other, List.append_nil]
          apply (announced.items id).keep
          rw [List.mem_append]
          constructor
          · rintro (old | new)
            · exact old
            · exact absurd (List.mem_singleton.mp new).symm named
          · exact .inl
      · rw [signals_append, others]
        show Turns (_ ++ []) _
        rw [List.append_nil]
        exact announced.hosts
    | true =>
      have entries : (self.insert request).items = self.items := by simp [insert, asked]
      have others : (self.insert request).hosts = self.hosts ++ [request.entry] := by simp [insert, asked]
      refine ⟨fun id => ?_, ?_⟩
      · rw [signals_append, entries]
        have quiet : signals (aboutItem id) (.answered request.invocation .done ::
            if !true then [.itemRegistered request.id] else if self.hosts.isEmpty then [.hostRegistered] else []) =
            [] := by cases self.hosts <;> rfl
        rw [quiet, List.append_nil]
        exact announced.items id
      · rw [signals_append, others]
        cases present : self.hosts with
        | nil =>
          rw [← present]
          have came : signals aboutHosts (.answered request.invocation .done ::
              if !true then [.itemRegistered request.id] else if self.hosts.isEmpty then [.hostRegistered] else []) =
              [true] := by
            rw [present]
            rfl
          rw [came]
          apply announced.hosts.appear
          · simp [present]
          · simp
        | cons host rest =>
          rw [← present]
          have quiet : signals aboutHosts (.answered request.invocation .done ::
              if !true then [.itemRegistered request.id] else if self.hosts.isEmpty then [.hostRegistered] else []) =
              [] := by
            rw [present]
            rfl
          rw [quiet, List.append_nil]
          apply announced.hosts.keep
          simp [present]

theorem settle_announced (registry : Registry self) (announced : Announced history self) (number : Nat)
    (result : Option String) :
    Announced ((self.settle number result).2 ++ history) (self.settle number result).1 := by
  have settled : Announced history (self.settled number) := announced_same announced rfl rfl
  rcases settle_cases registry number result with same | ⟨request, -, -, ⟨-, -, admitted⟩ | denied⟩
  · rw [same]
    exact announced
  · rw [admitted]
    exact enter_announced settled request
  · rw [denied]
    exact announced_quiet settled (fun _ => rfl) rfl

theorem changed_announced (registry : Registry self) (announced : Announced history self) (name old new : String) :
    Announced ((self.nameOwnerChanged name old new).2 ++ history) (self.nameOwnerChanged name old new).1 := by
  unfold nameOwnerChanged
  split
  · exact announced
  · set leaves : Entry → Bool := fun entry => gone name old entry.service entry.owner with leaving
    set stays : Entry → Bool := fun entry => !gone name old entry.service entry.owner with staying
    have once : (self.items.map Entry.id).Nodup := registry.once false
    have removed : ((self.items.filter leaves).map Entry.id).Nodup := once.sublist (List.filter_sublist.map _)
    refine ⟨fun id => ?_, ?_⟩
    · rw [signals_append, signals_append]
      have silent : signals (aboutItem id) (if (!self.hosts.isEmpty && (self.hosts.filter stays).isEmpty) = true then
          [WatcherObservation.hostUnregistered] else []) = [] := by split <;> rfl
      rw [silent, List.append_nil, signals_unregistered removed]
      split
      · rename_i going
        obtain ⟨entry, there, named⟩ := List.mem_map.mp going
        obtain ⟨listed, goes⟩ := List.mem_filter.mp there
        apply (announced.items id).vanish
        · exact List.mem_map.mpr ⟨entry, listed, named⟩
        · intro kept
          obtain ⟨other, stayed, same⟩ := List.mem_map.mp kept
          obtain ⟨among, stay⟩ := List.mem_filter.mp stayed
          cases List.inj_on_of_nodup_map once among listed (same.trans named.symm)
          change (!leaves entry) = true at stay
          rw [goes] at stay
          cases stay
      · rename_i remains
        rw [List.append_nil]
        apply (announced.items id).keep
        constructor
        · intro there
          obtain ⟨entry, kept, named⟩ := List.mem_map.mp there
          exact List.mem_map.mpr ⟨entry, List.mem_of_mem_filter kept, named⟩
        · intro there
          obtain ⟨entry, listed, named⟩ := List.mem_map.mp there
          refine List.mem_map.mpr ⟨entry, List.mem_filter.mpr ⟨listed, ?_⟩, named⟩
          cases goes : leaves entry with
          | true => exact absurd (List.mem_map.mpr ⟨entry, List.mem_filter.mpr ⟨listed, goes⟩, named⟩) remains
          | false => exact congrArg (!·) goes
    · rw [signals_append, signals_append]
      have silent : signals aboutHosts ((self.items.filter leaves).map fun entry =>
          WatcherObservation.itemUnregistered entry.id).reverse = [] := by
        rw [signals, List.reverse_eq_nil_iff, List.filterMap_eq_nil_iff]
        intro observation there
        obtain ⟨entry, -, rfl⟩ := List.mem_map.mp (List.mem_reverse.mp there)
        rfl
      rw [silent, List.nil_append]
      split
      · rename_i lost
        rw [Bool.and_eq_true, Bool.not_eq_true', List.isEmpty_eq_false_iff, List.isEmpty_iff] at lost
        apply announced.hosts.vanish lost.1
        exact not_not.mpr lost.2
      · rename_i kept
        show Turns (_ ++ []) _
        rw [List.append_nil]
        apply announced.hosts.keep
        constructor
        · intro some none
          exact some (by rw [none]; rfl)
        · intro some none
          apply kept
          rw [Bool.and_eq_true, Bool.not_eq_true', List.isEmpty_eq_false_iff, List.isEmpty_iff]
          exact ⟨some, none⟩

/-! ## Answers -/

/-- Of the callbacks with one number there is one. -/
theorem count_settled {outstanding : List Request} (numbers : (outstanding.map Request.number).Nodup)
    {request : Request} (there : request ∈ outstanding) (test : Request → Bool) :
    outstanding.countP test = (outstanding.filter (·.number != request.number)).countP test +
      if test request then 1 else 0 := by
  induction outstanding with
  | nil => cases there
  | cons first rest ih =>
    rw [List.map_cons, List.nodup_cons] at numbers
    rcases List.mem_cons.mp there with rfl | later
    · have others : rest.filter (·.number != request.number) = rest := by
        rw [List.filter_eq_self]
        intro other among
        rw [bne_iff_ne]
        exact fun same => numbers.1 (same ▸ List.mem_map_of_mem among)
      rw [List.filter_cons_of_neg (by simp), others, List.countP_cons]
    · have differs : (first.number != request.number) = true := by
        rw [bne_iff_ne]
        exact fun same => numbers.1 (same ▸ List.mem_map_of_mem later)
      rw [List.filter_cons, if_pos differs, List.countP_cons, List.countP_cons, ih numbers.2 later]
      omega

/-- The callback of the request has run, and the request was answered. -/
theorem accounted_answer (registry : Registry self) (accounted : Accounted history self.outstanding) {request : Request}
    (there : request ∈ self.outstanding) {observations : List WatcherObservation}
    (once : ∀ invocation, observations.countP (answers invocation) = if request.invocation = invocation then 1 else 0)
    (uncalled : ∀ invocation, .called invocation ∉ observations) :
    Accounted (observations ++ history) (self.settled request.number).outstanding := by
  intro invocation
  have known := accounted invocation
  rw [count_settled registry.numbers there] at known
  rw [List.countP_append, once, List.count_append, List.count_eq_zero_of_not_mem (uncalled invocation), ← known]
  show _ + (List.filter _ _).countP _ = _
  simp only [beq_iff_eq]
  omega

theorem settle_accounted (registry : Registry self) (accounted : Accounted history self.outstanding) (number : Nat)
    (result : Option String) :
    Accounted ((self.settle number result).2 ++ history) (self.settle number result).1.outstanding := by
  rcases settle_cases registry number result with same | ⟨request, there, rfl, ⟨-, -, admitted⟩ | denied⟩
  · rw [same]
    exact accounted
  · rw [admitted]
    rcases enter_cases (self.settled request.number) request with ⟨same, reply, observed⟩ | ⟨inserted, -, -, observed⟩
    · rw [same, observed]
      apply accounted_answer registry accounted there
      · intro invocation
        simp [answers, List.countP_cons]
      · intro invocation called
        cases List.mem_singleton.mp called
    · rw [inserted, observed, (insert_rest _ _).1]
      apply accounted_answer registry accounted there
      · intro invocation
        rw [List.countP_cons]
        have silent : (if !request.host then [WatcherObservation.itemRegistered request.id]
            else if (self.settled request.number).hosts.isEmpty then [.hostRegistered] else []).countP
              (answers invocation) = 0 := by
          split
          · rfl
          · split <;> rfl
        rw [silent]
        simp [answers]
      · intro invocation called
        rcases List.mem_cons.mp called with answer | signal
        · cases answer
        · split at signal
          · cases List.mem_singleton.mp signal
          · split at signal
            · cases List.mem_singleton.mp signal
            · cases signal
  · rw [denied]
    apply accounted_answer registry accounted there
    · intro invocation
      simp [answers, List.countP_cons]
    · intro invocation called
      cases List.mem_singleton.mp called

end Watcher

/-! ## Every run -/

namespace Bus

variable {names : Names} {bus : Bus} {history : List WatcherObservation}

/-- The invariant of the bus, the watcher and what the watcher has said. -/
structure Faithful (history : List WatcherObservation) (bus : Bus) : Prop where
  sound : Sound bus
  announced : Announced history bus.watcher
  accounted : Accounted history bus.watcher.outstanding
  numbered : ∀ invocation, .called invocation ∈ history → invocation < bus.nextInvocation
  single : ∀ invocation, history.count (.called invocation) ≤ 1

theorem Faithful.uncalled (faithful : Faithful history bus) : history.count (.called bus.nextInvocation) = 0 := by
  rw [List.count_eq_zero]
  intro there
  exact absurd (faithful.numbered _ there) (Nat.lt_irrefl _)

/-- What a step says that is no call leaves the calls as they were. -/
theorem calls_append {observations : List WatcherObservation} (none : ∀ invocation, .called invocation ∉ observations)
    (invocation : Nat) : (observations ++ history).count (.called invocation) = history.count (.called invocation) := by
  rw [List.count_append, List.count_eq_zero_of_not_mem (none invocation), Nat.zero_add]

theorem Faithful.quiet {after : Bus} {observations : List WatcherObservation} (faithful : Faithful history bus)
    (sound : Sound after) (announced : Announced (observations ++ history) after.watcher)
    (accounted : Accounted (observations ++ history) after.watcher.outstanding)
    (next : after.nextInvocation = bus.nextInvocation) (none : ∀ invocation, .called invocation ∉ observations) :
    Faithful (observations ++ history) after where
  sound := sound
  announced := announced
  accounted := accounted
  numbered := by
    intro invocation there
    rcases List.mem_append.mp there with new | old
    · exact absurd new (none invocation)
    · exact next ▸ faithful.numbered invocation old
  single := by
    intro invocation
    rw [calls_append none]
    exact faithful.single invocation

theorem settle_uncalled {self : Watcher} (registry : Registry self) (number : Nat) (result : Option String)
    (invocation : Nat) : .called invocation ∉ (self.settle number result).2 := by
  rcases settle_cases registry number result with same | ⟨request, -, -, ⟨-, -, admitted⟩ | denied⟩
  · simp [same]
  · rw [admitted]
    rcases enter_cases (self.settled number) request with ⟨-, reply, observed⟩ | ⟨-, -, -, observed⟩
    · simp [observed]
    · rw [observed]
      intro there
      rcases List.mem_cons.mp there with answer | signal
      · cases answer
      · split at signal
        · cases List.mem_singleton.mp signal
        · split at signal
          · cases List.mem_singleton.mp signal
          · cases signal
  · simp [denied]

theorem changed_quiet (self : Watcher) (name old new : String) :
    (∀ invocation, .called invocation ∉ (self.nameOwnerChanged name old new).2) ∧
    (∀ invocation, (self.nameOwnerChanged name old new).2.countP (answers invocation) = 0) ∧
    (self.nameOwnerChanged name old new).1.outstanding = self.outstanding := by
  unfold nameOwnerChanged
  split
  · refine ⟨fun invocation there => ?_, fun _ => rfl, rfl⟩
    cases there
  · have kinds : ∀ observation ∈ (if (!self.hosts.isEmpty && (self.hosts.filter fun entry =>
          !gone name old entry.service entry.owner).isEmpty) = true then [WatcherObservation.hostUnregistered] else []) ++
        ((self.items.filter fun entry => gone name old entry.service entry.owner).map fun entry =>
          WatcherObservation.itemUnregistered entry.id).reverse,
        observation = .hostUnregistered ∨ ∃ id, observation = .itemUnregistered id := by
      intro observation there
      rcases List.mem_append.mp there with host | item
      · split at host
        · exact .inl (List.mem_singleton.mp host)
        · cases host
      · obtain ⟨entry, -, rfl⟩ := List.mem_map.mp (List.mem_reverse.mp item)
        exact .inr ⟨entry.id, rfl⟩
    refine ⟨fun invocation there => ?_, fun invocation => ?_, rfl⟩
    · rcases kinds _ there with host | ⟨id, item⟩
      · cases host
      · cases item
    · rw [List.countP_eq_zero]
      intro observation there
      rcases kinds observation there with rfl | ⟨id, rfl⟩
      · exact Bool.false_ne_true
      · exact Bool.false_ne_true

theorem register_faithful (faithful : Faithful history bus) (host : Bool) (sender : String) (value : Option String) :
    Faithful ((bus.register names host sender value).2 ++ history) (bus.register names host sender value).1 := by
  have sound : Sound (bus.register names host sender value).1 := register_sound faithful.sound host sender value
  cases value with
  | none => exact faithful
  | some value =>
    have called (invocation : Nat) : (WatcherObservation.called bus.nextInvocation :: history).count (.called invocation) =
        history.count (.called invocation) + if bus.nextInvocation = invocation then 1 else 0 := by
      rw [List.count_cons]
      simp
    have numbered (invocation : Nat) (there : .called invocation ∈ WatcherObservation.called bus.nextInvocation :: history) :
        invocation < bus.nextInvocation + 1 := by
      rcases List.mem_cons.mp there with new | old
      · cases new
        exact Nat.lt_succ_self _
      · exact Nat.lt_succ_of_lt (faithful.numbered invocation old)
    have single (invocation : Nat) : (WatcherObservation.called bus.nextInvocation :: history).count (.called invocation) ≤ 1 := by
      rw [called]
      split
      · rename_i same
        have uncalled := faithful.uncalled
        rw [same] at uncalled
        omega
      · exact faithful.single invocation
    have announced : Announced ([.called bus.nextInvocation] ++ history) bus.watcher :=
      announced_quiet faithful.announced (fun _ => rfl) rfl
    unfold register at sound ⊢
    dsimp only at sound ⊢
    rcases register_cases bus.watcher names bus.nextInvocation host sender value with ⟨reply, same⟩ | ⟨service, path, -, sent⟩
    · rw [same] at sound ⊢
      have answered : Announced ([.answered bus.nextInvocation reply] ++ ([.called bus.nextInvocation] ++ history))
          bus.watcher := announced_quiet announced (fun _ => rfl) rfl
      refine ⟨sound, answered, fun invocation => ?_, fun invocation there => ?_, fun invocation => ?_⟩
      · have known := faithful.accounted invocation
        show List.countP _ (.answered bus.nextInvocation reply :: .called bus.nextInvocation :: history) + _ =
          List.count _ (.answered bus.nextInvocation reply :: .called bus.nextInvocation :: history)
        rw [List.count_cons_of_ne (by simp), called, List.countP_cons, List.countP_cons, ← known]
        simp only [answers, beq_iff_eq, Bool.false_eq_true, if_false]
        omega
      · rcases List.mem_cons.mp there with new | old
        · cases new
        · exact numbered invocation old
      · show List.count _ (.answered bus.nextInvocation reply :: .called bus.nextInvocation :: history) ≤ 1
        rw [List.count_cons_of_ne (by simp)]
        exact single invocation
    · rw [sent] at sound ⊢
      refine ⟨sound, announced_same announced rfl rfl, fun invocation => ?_, numbered, single⟩
      have known := faithful.accounted invocation
      show List.countP _ (.called bus.nextInvocation :: history) + List.countP _ (bus.watcher.outstanding ++ [_]) =
        List.count _ (.called bus.nextInvocation :: history)
      rw [called, List.countP_cons, List.countP_append, ← known]
      simp only [answers, List.countP_cons, List.countP_nil, beq_iff_eq, Bool.false_eq_true, if_false]
      omega

theorem step_faithful (faithful : Faithful history bus) (event : BusEvent) :
    Faithful ((bus.step names event).2 ++ history) (bus.step names event).1 := by
  have sound : Sound (bus.step names event).1 := step_sound faithful.sound event
  have registry := faithful.sound.registry
  cases event with
  | register host sender value => exact register_faithful faithful host sender value
  | lookup index =>
    unfold step at sound ⊢
    dsimp only at sound ⊢
    split at sound
    · exact faithful
    · exact { faithful with sound }
  | deliver =>
    show Faithful (bus.deliver.2 ++ history) bus.deliver.1
    change Sound bus.deliver.1 at sound
    unfold deliver at sound ⊢
    cases next : bus.queue with
    | nil => exact faithful
    | cons message queue =>
      rw [next] at sound
      cases message with
      | reply number owner =>
        exact faithful.quiet sound (settle_announced registry faithful.announced number owner)
          (settle_accounted registry faithful.accounted number owner) rfl (settle_uncalled registry number owner)
      | nameOwnerChanged name old new =>
        obtain ⟨uncalled, silent, outstanding⟩ := changed_quiet bus.watcher name old new
        refine faithful.quiet sound (changed_announced registry faithful.announced name old new) ?_ rfl uncalled
        intro invocation
        dsimp only
        rw [calls_append uncalled, List.countP_append, silent, outstanding, Nat.zero_add]
        exact faithful.accounted invocation
  | fail number =>
    exact faithful.quiet sound (settle_announced registry faithful.announced number none)
      (settle_accounted registry faithful.accounted number none) rfl (settle_uncalled registry number none)
  | change name owner =>
    have rest : (bus.change name owner).watcher = bus.watcher ∧
        (bus.change name owner).nextInvocation = bus.nextInvocation := by
      unfold change
      split <;> exact ⟨rfl, rfl⟩
    refine ⟨sound, ?_, ?_, ?_, faithful.single⟩
    · show Announced history (bus.change name owner).watcher
      rw [rest.1]
      exact faithful.announced
    · show Accounted history (bus.change name owner).watcher.outstanding
      rw [rest.1]
      exact faithful.accounted
    · intro invocation there
      show invocation < (bus.change name owner).nextInvocation
      rw [rest.2]
      exact faithful.numbered invocation there

theorem start_faithful (starts : Starts bus) : Faithful [] bus := by
  obtain ⟨owner, named, rfl⟩ := starts
  have nothing (host : Bool) : Watcher.entries {} host = [] := by cases host <;> rfl
  refine ⟨⟨⟨List.nodup_nil, ?_, ?_, ?_, ?_, Nat.zero_le 64⟩, named, ?_, ?_, ?_, ?_⟩, ⟨fun id => .nil ?_, .nil (by simp)⟩, ?_, ?_, ?_⟩
  · intro request there
    cases there
  · intro request there
    cases there
  · intro host
    show (List.map _ (Watcher.entries {} host)).Nodup
    rw [nothing]
    exact List.nodup_nil
  · intro host
    show (Watcher.entries {} host).length ≤ 64
    rw [nothing]
    decide
  · intro lookup there
    cases there
  · intro number owner there
    cases there
  · intro before number holder after whole
    simp at whole
  · intro host entry there
    change entry ∈ Watcher.entries {} host at there
    rw [nothing] at there
    cases there
  · intro there
    cases there
  · intro invocation
    rfl
  · intro invocation there
    cases there
  · intro invocation
    exact Nat.zero_le _

theorem Execution.faithful (run : Execution names history bus) : Faithful history bus := by
  induction run with
  | start begun => exact start_faithful begun
  | step event _ _ ih => exact step_faithful ih event

/-- What holds of the registry in every run. -/
structure RegistrySound (history : List WatcherObservation) (bus : Bus) : Prop where
  /-- Whoever registered a listed item owns its service, or a signal that removes the item is on its way. -/
  owned : ∀ item ∈ bus.watcher.items, Backed bus.owner bus.queue item.service item.owner
  /-- So with hosts. -/
  hosted : ∀ host ∈ bus.watcher.hosts, Backed bus.owner bus.queue host.service host.owner
  items : bus.watcher.items.length ≤ 64
  hosts : bus.watcher.hosts.length ≤ 64
  lookups : bus.watcher.pending.length ≤ 64
  /-- A call is answered once or has the one callback that will answer it. -/
  answered : ∀ invocation, .called invocation ∈ history → history.countP (answers invocation) +
    bus.watcher.outstanding.countP (·.invocation == invocation) = 1
  /-- Registered comes first, Unregistered second and so on; the last one says whether the id is listed. -/
  announced : ∀ id, Turns (signals (aboutItem id) history) (id ∈ bus.watcher.items.map Entry.id)
  /-- So with the presence of hosts. -/
  present : Turns (signals aboutHosts history) (bus.watcher.hosts ≠ [])

theorem registry_sound (run : Execution names history bus) : RegistrySound history bus := by
  have faithful := run.faithful
  exact {
    owned := faithful.sound.listed false
    hosted := faithful.sound.listed true
    items := faithful.sound.registry.bounded false
    hosts := faithful.sound.registry.bounded true
    lookups := faithful.sound.registry.waiting
    answered := by
      intro invocation there
      have known := faithful.accounted invocation
      have single := faithful.single invocation
      have called : 0 < history.count (.called invocation) := List.count_pos_iff.mpr there
      omega
    announced := faithful.announced.items
    present := faithful.announced.hosts }

/-- A caller registers its own item, is confirmed and leaves the bus. -/
def registersAndLeaves : List BusEvent := [
  .register false ":1.7" (some "/item"),
  .lookup 0,
  .change ":1.7" none,
  .deliver,
  .deliver]

/-- A bus with one connection and tests that accept every name. -/
def oneConnection : Bus := { owner := fun name => if name = ":1.7" then some ":1.7" else none }

theorem registry_sound_leaving : RegistrySound (Transition.execute (step ⟨fun _ => true, fun _ => true⟩) oneConnection
    registersAndLeaves).2 (Transition.execute (step ⟨fun _ => true, fun _ => true⟩) oneConnection registersAndLeaves).1 := by
  have starts : Starts oneConnection := by
    refine ⟨_, fun name => ?_, rfl⟩
    split
    · decide
    · intro named
      cases named
  have run : Execution ⟨fun _ => true, fun _ => true⟩ _ _ := Transition.Run.execute registersAndLeaves (.start starts)
    (Transition.permits_unrestricted _ _ _ _)
  rw [List.append_nil] at run
  exact registry_sound run

end Bus

end Luma.Shell
