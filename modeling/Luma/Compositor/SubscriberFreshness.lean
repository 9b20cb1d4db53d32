import Luma.Compositor.Ipc

/-! No subscriber stays behind.

A thread that is going to wait, or waits, has a response in view: the one it writes, or the last one it wrote. If a
publication with a change is newer, a notification is queued, since the thread reads the state only after it has taken
what was queued, and while the state is read nothing is published. While senders are notified, this
holds of those that had their turn.
-/

set_option autoImplicit false

namespace Luma.Compositor.Ipc

open Luma.Library

variable {State : Type} {same : State → State → Bool} {initial : State} {history : List (Observation State)}

/-! ## Histories -/

/-- The state that was published last. -/
def latest (initial : State) : List (Observation State) → Stamped State
  | [] => ⟨0, initial⟩
  | .published stamped _ :: _ => stamped
  | _ :: earlier => latest initial earlier

/-- The state was published, or was there before anything was. -/
def Known (initial : State) (history : List (Observation State)) (stamped : Stamped State) : Prop :=
  stamped = ⟨0, initial⟩ ∨ ∃ changed, .published stamped changed ∈ history

/-- No publication with a change is newer. -/
def UpToDate (history : List (Observation State)) (stamped : Stamped State) : Prop :=
  ∀ published, .published published true ∈ history → published.number ≤ stamped.number

/-- Publications are numbered one after the other, and say whether something changed. A subscriber is sent what was
published, never something older than before. -/
def Proper (same : State → State → Bool) (initial : State) : Observation State → List (Observation State) → Prop
  | .published stamped changed, earlier => stamped.number = (latest initial earlier).number + 1 ∧
    changed = !same (latest initial earlier).state stamped.state
  | .responded subscriber response, earlier => Known initial earlier response ∧
    ∀ previous, .responded subscriber previous ∈ earlier → previous.number ≤ response.number

theorem Known.mono {stamped : Stamped State} (known : Known initial history stamped)
    (observed : List (Observation State)) : Known initial (observed ++ history) stamped := by
  rcases known with first | ⟨changed, there⟩
  · exact .inl first
  · exact .inr ⟨changed, List.mem_append_right _ there⟩

theorem known_latest : Known initial history (latest initial history) := by
  induction history with
  | nil => exact .inl rfl
  | cons observation earlier ih =>
    cases observation with
    | published stamped changed => exact .inr ⟨changed, List.mem_cons_self⟩
    | responded subscriber response => exact ih.mono [.responded subscriber response]

/-- The last publication has the greatest number. -/
theorem Known.number_le {stamped : Stamped State} (proper : Transition.Throughout (Proper same initial) history)
    (known : Known initial history stamped) : stamped.number ≤ (latest initial history).number := by
  induction history with
  | nil =>
    rcases known with rfl | ⟨changed, there⟩
    · exact Nat.le_refl _
    · cases there
  | cons observation earlier ih =>
    cases observation with
    | published last change =>
      have numbered : last.number = (latest initial earlier).number + 1 := proper.1.1
      rcases known with rfl | ⟨changed, there⟩
      · exact Nat.zero_le _
      · rcases List.mem_cons.mp there with newest | older
        · cases newest
          exact Nat.le_refl _
        · have before := ih proper.2 (.inr ⟨changed, older⟩)
          show stamped.number ≤ last.number
          omega
    | responded subscriber response =>
      refine ih proper.2 (known.imp_right ?_)
      rintro ⟨changed, there⟩
      exact ⟨changed, (List.mem_cons.mp there).resolve_left (by simp)⟩

theorem upToDate_latest (proper : Transition.Throughout (Proper same initial) history) :
    UpToDate history (latest initial history) :=
  fun _ there => Known.number_le proper (.inr ⟨true, there⟩)

/-! ## One subscriber -/

/-- The response that the thread writes or has written, when it does not read another one before it waits. -/
def Subscriber.inView (self : Subscriber State) : Option (Stamped State) :=
  match self.stage with
  | .greeting response | .writing response => some response
  | .waiting => self.sent
  | _ => none

theorem Subscriber.await_sent (self : Subscriber State) (arrives : Bool) : (self.await arrives).sent = self.sent := by
  unfold Subscriber.await
  split
  · rfl
  · split
    all_goals rfl

theorem Subscriber.drain_sent (self : Subscriber State) : self.drain.sent = self.sent := by
  unfold Subscriber.drain
  split
  · rfl
  · rfl

/-- The last response stays the last one, or is the one in view. -/
theorem Subscriber.turn_sent (self : Subscriber State) (current : Stamped State) (publication : Publication)
    (succeeds : Bool) : (self.turn current publication succeeds).1.sent = self.sent ∨
      ∃ response, self.inView = some response ∧ (self.turn current publication succeeds).1.sent = some response := by
  unfold Subscriber.turn
  cases stage : self.stage with
  | registering =>
    simp only
    split
    · exact .inl rfl
    · exact .inl rfl
  | opening =>
    simp only
    split
    · exact .inl rfl
    · exact .inl rfl
  | greeting response => exact .inr ⟨response, by simp [Subscriber.inView, stage], rfl⟩
  | waiting => exact .inl (self.await_sent succeeds)
  | draining => exact .inl self.drain_sent
  | reading =>
    simp only
    split
    · exact .inl rfl
    · exact .inl rfl
  | writing response =>
    simp only
    split
    · exact .inr ⟨response, by simp [Subscriber.inView, stage], rfl⟩
    · exact .inl rfl
  | ended => exact .inl rfl

/-- Only the response in view is written. -/
theorem Subscriber.turn_writes {self : Subscriber State} {current : Stamped State} {publication : Publication}
    {succeeds : Bool} {response : Stamped State} (writes : (self.turn current publication succeeds).2 = some response) :
    self.inView = some response ∧ (self.turn current publication succeeds).1.sent = some response := by
  unfold Subscriber.turn at writes ⊢
  cases stage : self.stage with
  | registering =>
    simp only [stage] at writes
    split at writes
    · cases writes
    · cases writes
  | opening =>
    simp only [stage] at writes
    split at writes
    · cases writes
    · cases writes
  | greeting written =>
    simp only [stage] at writes ⊢
    split at writes
    · cases writes
      exact ⟨by simp [Subscriber.inView, stage], rfl⟩
    · cases writes
  | waiting => simp only [stage, reduceCtorEq] at writes
  | draining => simp only [stage, reduceCtorEq] at writes
  | reading =>
    simp only [stage] at writes
    split at writes
    · cases writes
    · cases writes
  | writing written =>
    simp only [stage] at writes ⊢
    split at writes
    · rename_i succeeds
      cases writes
      exact ⟨by simp [Subscriber.inView, stage], by simp [succeeds]⟩
    · cases writes
  | ended => simp only [stage, reduceCtorEq] at writes

/-- What holds of a subscriber among the senders, while a publication is under way. -/
structure Tracked (initial : State) (history : List (Observation State)) (senders : List Nat)
    (publication : Publication) (index : Nat) (subscriber : Subscriber State) : Prop where
  connected : subscriber.stage = .ended ∨ subscriber.channel.receiving = true ∧ subscriber.channel.sending = true
  roomy : 0 < subscriber.channel.capacity
  listed : subscriber.stage = .registering ∨ subscriber.stage = .ended ∨ index ∈ senders
  waiting : subscriber.stage = .waiting → subscriber.sent.isSome = true
  known : ∀ response, subscriber.inView = some response ∨ subscriber.sent = some response →
    Known initial history response
  advancing : ∀ response previous, subscriber.inView = some response → subscriber.sent = some previous →
    previous.number ≤ response.number
  settled : ∀ response, subscriber.inView = some response → subscriber.channel.queue = [] → UpToDate history response
  notified : ∀ response left, subscriber.inView = some response → publication = .notifying left → index ∉ left →
    subscriber.channel.queue ≠ []

/-- No publication among these has changed anything. -/
def Quiet (observed : List (Observation State)) : Prop := ∀ stamped, .published stamped true ∉ observed

namespace Tracked

variable {senders : List Nat} {publication : Publication} {index : Nat} {subscriber : Subscriber State}

/-- What happens elsewhere, when nothing has changed and the subscriber keeps its place among the senders. -/
theorem elsewhere (tracked : Tracked initial history senders publication index subscriber)
    (observed : List (Observation State)) {others : List Nat} {next : Publication} (quiet : Quiet observed)
    (listed : index ∈ senders → index ∈ others)
    (turn : ∀ left, next = .notifying left → index ∉ left →
      ∃ before, publication = .notifying before ∧ index ∉ before) :
    Tracked initial (observed ++ history) others next index subscriber where
  connected := tracked.connected
  roomy := tracked.roomy
  listed := tracked.listed.imp_right (Or.imp_right listed)
  waiting := tracked.waiting
  known := fun response seen => (tracked.known response seen).mono observed
  advancing := tracked.advancing
  settled := by
    intro response seen empty published there
    rcases List.mem_append.mp there with new | old
    · exact absurd new (quiet published)
    · exact tracked.settled response seen empty published old
  notified := by
    intro response left seen under passed
    obtain ⟨before, during, had⟩ := turn left under passed
    exact tracked.notified response before seen during had

/-- A turn of the publication leaves the thread as it is. -/
theorem republished (tracked : Tracked initial history senders publication index subscriber)
    (observed : List (Observation State)) {next : Publication}
    (settled : ∀ response, subscriber.inView = some response → subscriber.channel.queue = [] →
      UpToDate (observed ++ history) response)
    (notified : ∀ response left, subscriber.inView = some response → next = .notifying left → index ∉ left →
      subscriber.channel.queue ≠ []) :
    Tracked initial (observed ++ history) senders next index subscriber where
  connected := tracked.connected
  roomy := tracked.roomy
  listed := tracked.listed
  waiting := tracked.waiting
  known := fun response seen => (tracked.known response seen).mono observed
  advancing := tracked.advancing
  settled := settled
  notified := notified

/-- A thread that has no response in view. -/
theorem withoutView {stage : Stage State} {channel : SyncChannel State}
    (tracked : Tracked initial history senders publication index subscriber)
    (connected : stage = .ended ∨ channel.receiving = true ∧ channel.sending = true)
    (roomy : 0 < channel.capacity) (listed : stage = .registering ∨ stage = .ended ∨ index ∈ senders)
    (blind : ({ subscriber with stage, channel } : Subscriber State).inView = none) (active : stage ≠ .waiting) :
    Tracked initial history senders publication index { subscriber with stage, channel } where
  connected := connected
  roomy := roomy
  listed := listed
  waiting := fun idle => absurd idle active
  known := by
    intro response seen
    rw [blind] at seen
    exact tracked.known response (.inr (seen.resolve_left (by simp)))
  advancing := by
    intro response previous seen
    rw [blind] at seen
    cases seen
  settled := by
    intro response seen
    rw [blind] at seen
    cases seen
  notified := by
    intro response left seen
    rw [blind] at seen
    cases seen

/-- The thread reads the state, which is the last one published as long as no publication is under way. -/
theorem read {stage : Stage State} (tracked : Tracked initial history senders .none index subscriber)
    (proper : Transition.Throughout (Proper same initial) history)
    (active : stage = .greeting (latest initial history) ∨ stage = .writing (latest initial history))
    (entered : subscriber.stage ≠ .registering) (lives : subscriber.stage ≠ .ended) :
    Tracked initial history senders .none index { subscriber with stage } where
  connected := .inr (tracked.connected.resolve_left lives)
  roomy := tracked.roomy
  listed := .inr (.inr ((tracked.listed.resolve_left entered).resolve_left lives))
  waiting := by
    intro idle
    rcases active with greets | writes
    · cases greets.symm.trans idle
    · cases writes.symm.trans idle
  known := by
    rintro response (seen | was)
    · have sees : response = latest initial history := by
        rcases active with rfl | rfl
        · exact (Option.some.inj seen).symm
        · exact (Option.some.inj seen).symm
      rw [sees]
      exact known_latest
    · exact tracked.known response (.inr was)
  advancing := by
    intro response previous seen was
    have before : previous.number ≤ (latest initial history).number :=
      Known.number_le proper (tracked.known previous (.inr was))
    rcases active with rfl | rfl
    · cases seen
      exact before
    · cases seen
      exact before
  settled := by
    intro response seen _
    rcases active with rfl | rfl
    · cases seen
      exact upToDate_latest proper
    · cases seen
      exact upToDate_latest proper
  notified := by
    intro response left seen under
    cases under

/-- The response in view is written. -/
theorem written {response : Stamped State} (tracked : Tracked initial history senders publication index subscriber)
    (sees : subscriber.inView = some response) (entered : subscriber.stage ≠ .registering)
    (lives : subscriber.stage ≠ .ended) :
    Tracked initial history senders publication index { subscriber with stage := .waiting, sent := some response } where
  connected := .inr (tracked.connected.resolve_left lives)
  roomy := tracked.roomy
  listed := .inr (.inr ((tracked.listed.resolve_left entered).resolve_left lives))
  waiting := fun _ => rfl
  known := by
    intro other seen
    have same : some response = some other := seen.elim id id
    cases same
    exact tracked.known response (.inl sees)
  advancing := by
    intro other previous seen was
    cases seen
    cases was
    exact Nat.le_refl _
  settled := by
    intro other seen
    cases seen
    exact tracked.settled response sees
  notified := by
    intro other left seen
    cases seen
    exact tracked.notified response left sees

/-- The thread has taken what was queued, or has not: either way it goes on to read the state. -/
theorem goesOn {stage : Stage State} {channel : SyncChannel State}
    (tracked : Tracked initial history senders publication index subscriber)
    (active : stage = .draining ∨ stage = .reading) (entered : subscriber.stage ≠ .registering)
    (lives : subscriber.stage ≠ .ended) (receiving : channel.receiving = subscriber.channel.receiving)
    (sending : channel.sending = subscriber.channel.sending)
    (capacity : channel.capacity = subscriber.channel.capacity) :
    Tracked initial history senders publication index { subscriber with stage, channel } := by
  have connected := tracked.connected.resolve_left lives
  have listed := (tracked.listed.resolve_left entered).resolve_left lives
  rw [← receiving, ← sending] at connected
  have roomy := tracked.roomy
  rw [← capacity] at roomy
  rcases active with rfl | rfl
  · exact tracked.withoutView (.inr connected) roomy (.inr (.inr listed)) rfl (by simp)
  · exact tracked.withoutView (.inr connected) roomy (.inr (.inr listed)) rfl (by simp)

/-- The thread ends, and its receiver with it. -/
theorem ends (tracked : Tracked initial history senders publication index subscriber) :
    Tracked initial history senders publication index
      { subscriber with stage := .ended, channel := subscriber.channel.dropReceiver } :=
  tracked.withoutView (.inl rfl) tracked.roomy (.inr (.inl rfl)) rfl (by simp)

theorem await (tracked : Tracked initial history senders publication index subscriber) (arrives : Bool)
    (waits : subscriber.stage = .waiting) :
    Tracked initial history senders publication index (subscriber.await arrives) := by
  have entered : subscriber.stage ≠ .registering := by simp [waits]
  have lives : subscriber.stage ≠ .ended := by simp [waits]
  unfold Subscriber.await
  split
  · exact tracked.goesOn (.inl rfl) entered lives rfl rfl rfl
  · split
    · rename_i value channel received
      rcases SyncChannel.recv_cases received with ⟨_, rest, -, -, rfl⟩ | ⟨nothing, -⟩
      · exact tracked.goesOn (.inl rfl) entered lives rfl rfl rfl
      · cases nothing
    · exact tracked.ends
    · exact tracked

theorem drain (tracked : Tracked initial history senders publication index subscriber)
    (drains : subscriber.stage = .draining) :
    Tracked initial history senders publication index subscriber.drain := by
  have entered : subscriber.stage ≠ .registering := by simp [drains]
  have lives : subscriber.stage ≠ .ended := by simp [drains]
  unfold Subscriber.drain
  split
  · rename_i value channel received
    rcases SyncChannel.recv_cases received with ⟨_, rest, -, -, rfl⟩ | ⟨nothing, -⟩
    · exact tracked.goesOn (.inl drains) entered lives rfl rfl rfl
    · cases nothing
  · exact tracked.goesOn (.inr rfl) entered lives rfl rfl rfl

/-- A turn of the thread, which enters its sender when it registers. -/
theorem turn {current : Stamped State} {others : List Nat}
    (tracked : Tracked initial history senders publication index subscriber)
    (proper : Transition.Throughout (Proper same initial) history)
    (settled : publication = .none → current = latest initial history) (succeeds : Bool)
    (kept : index ∈ senders → index ∈ others)
    (enters : subscriber.stage = .registering → (subscriber.turn current publication succeeds).1.stage = .opening →
      index ∈ others) :
    Tracked initial history others publication index (subscriber.turn current publication succeeds).1 := by
  have stays : Tracked initial history others publication index subscriber :=
    tracked.elsewhere [] (fun _ => List.not_mem_nil) kept fun left under passed => ⟨left, under, passed⟩
  have connected := stays.connected
  cases stage : subscriber.stage with
  | registering =>
    have entered := enters stage
    rw [stage] at connected
    unfold Subscriber.turn at entered ⊢
    simp only [stage] at entered ⊢
    split at entered
    · exact stays
    · have connected := connected.resolve_left (by simp)
      exact stays.withoutView (.inr connected) stays.roomy (.inr (.inr (entered rfl))) rfl (by simp)
  | opening =>
    unfold Subscriber.turn
    simp only [stage]
    split
    · rename_i idle
      subst idle
      rw [settled rfl]
      exact stays.read proper (.inl rfl) (by simp [stage]) (by simp [stage])
    · exact stays
  | greeting response =>
    unfold Subscriber.turn
    simp only [stage]
    exact stays.written (by simp [Subscriber.inView, stage]) (by simp [stage]) (by simp [stage])
  | waiting =>
    unfold Subscriber.turn
    simp only [stage]
    exact stays.await succeeds stage
  | draining =>
    unfold Subscriber.turn
    simp only [stage]
    exact stays.drain stage
  | reading =>
    unfold Subscriber.turn
    simp only [stage]
    split
    · rename_i idle
      subst idle
      rw [settled rfl]
      exact stays.read proper (.inr rfl) (by simp [stage]) (by simp [stage])
    · exact stays
  | writing response =>
    unfold Subscriber.turn
    simp only [stage]
    split
    · exact stays.written (by simp [Subscriber.inView, stage]) (by simp [stage]) (by simp [stage])
    · exact stays.ends
  | ended =>
    unfold Subscriber.turn
    simp only [stage]
    exact stays

/-- One notification: the queue is not empty after it, unless the thread has ended. -/
theorem notify {left : List Nat} {channel : SyncChannel State} {value : State} {arrived : Bool}
    (tracked : Tracked initial history senders (.notifying (index :: left)) index subscriber)
    (sent : subscriber.channel.send value = some (arrived, channel)) :
    arrived = true ∧ Tracked initial history senders (.notifying left) index { subscriber with channel } ∨
    arrived = false ∧ subscriber.stage = .ended ∧ channel = subscriber.channel := by
  rcases SyncChannel.send_cases sent with ⟨rfl, receiving, -, rfl⟩ | ⟨rfl, gone, rfl⟩
  · refine .inl ⟨rfl, ?_⟩
    exact {
      connected := tracked.connected
      roomy := tracked.roomy
      listed := tracked.listed
      waiting := tracked.waiting
      known := tracked.known
      advancing := tracked.advancing
      settled := by
        intro response seen empty
        exact absurd empty (by simp)
      notified := by
        intro response left seen under passed
        simp }
  · refine .inr ⟨rfl, tracked.connected.resolve_right ?_, rfl⟩
    rintro ⟨receiving, -⟩
    rw [gone] at receiving
    cases receiving

/-- Nothing is asked of the sender of a thread that has ended. -/
theorem hangUp (tracked : Tracked initial history senders publication index subscriber)
    (ended : subscriber.stage = .ended) (others : List Nat) (next : Publication) :
    Tracked initial history others next index { subscriber with channel := subscriber.channel.dropSender } where
  connected := .inl ended
  roomy := tracked.roomy
  listed := .inr (.inl ended)
  waiting := tracked.waiting
  known := tracked.known
  advancing := tracked.advancing
  settled := tracked.settled
  notified := by
    intro response left seen
    simp [Subscriber.inView, ended] at seen

/-- A full queue is not empty. -/
theorem full {left : List Nat} {value : State}
    (tracked : Tracked initial history senders (.notifying (index :: left)) index subscriber)
    (refused : subscriber.channel.send value = none) :
    Tracked initial history senders (.notifying left) index subscriber := by
  have crowded : subscriber.channel.queue ≠ [] := by
    intro empty
    have roomy := tracked.roomy
    unfold SyncChannel.send at refused
    split at refused
    · cases refused
    · simp [empty, roomy] at refused
  exact tracked.republished [] tracked.settled fun _ _ _ _ _ => crowded

end Tracked

/-! ## The compositor and all subscribers -/

namespace Hub

variable {hub : Hub State}

structure Fresh (same : State → State → Bool) (initial : State) (history : List (Observation State)) (hub : Hub State) :
    Prop where
  proper : Transition.Throughout (Proper same initial) history
  idle : hub.publication = .none → hub.current = latest initial history
  busy : hub.publication ≠ .none → hub.current.number = (latest initial history).number + 1 ∧
    same (latest initial history).state hub.current.state = false
  answered : ∀ index response, .responded index response ∈ history → ∃ subscriber last,
    hub.subscribers[index]? = some subscriber ∧ subscriber.sent = some last ∧ response.number ≤ last.number
  tracked : ∀ index subscriber, hub.subscribers[index]? = some subscriber →
    Tracked initial history hub.senders hub.publication index subscriber

namespace Fresh

theorem started (same : State → State → Bool) (initial : State) : Fresh same initial [] (Hub.start initial) where
  proper := trivial
  idle := fun _ => rfl
  busy := fun busy => absurd rfl busy
  answered := fun _ _ there => absurd there List.not_mem_nil
  tracked := fun _ _ found => absurd found (by simp [Hub.start])

/-- A step that leaves the subscribers as they are. -/
theorem keep (fresh : Fresh same initial history hub) (observed : List (Observation State)) {next : Hub State}
    (proper : Transition.Throughout (Proper same initial) (observed ++ history))
    (unanswered : ∀ index response, .responded index response ∉ observed)
    (idle : next.publication = .none → next.current = latest initial (observed ++ history))
    (busy : next.publication ≠ .none → next.current.number = (latest initial (observed ++ history)).number + 1 ∧
      same (latest initial (observed ++ history)).state next.current.state = false)
    (subscribers : next.subscribers = hub.subscribers)
    (tracked : ∀ index subscriber, hub.subscribers[index]? = some subscriber →
      Tracked initial (observed ++ history) next.senders next.publication index subscriber) :
    Fresh same initial (observed ++ history) next where
  proper := proper
  idle := idle
  busy := busy
  answered := by
    intro index response there
    rw [subscribers]
    exact fresh.answered index response ((List.mem_append.mp there).resolve_left (unanswered index response))
  tracked := by
    rw [subscribers]
    exact tracked

theorem publish (fresh : Fresh same initial history hub) (idle : hub.publication = .none) (state : State) :
    Fresh same initial ((hub.publish same state).2 ++ history) (hub.publish same state).1 := by
  have current := fresh.idle idle
  unfold Hub.publish
  split
  · rename_i unchanged
    have made : Proper same initial (.published ⟨hub.current.number + 1, state⟩ false) history := by
      rw [current] at unchanged ⊢
      exact ⟨rfl, by simp [unchanged]⟩
    refine fresh.keep [.published ⟨hub.current.number + 1, state⟩ false] ⟨made, fresh.proper⟩ (by simp)
      (fun _ => rfl) (fun busy => absurd rfl busy) rfl ?_
    intro index subscriber found
    refine (fresh.tracked index subscriber found).elsewhere _ (by simp [Quiet]) id ?_
    intro left under
    cases under
  · rename_i changed
    have pending : hub.current.number + 1 = (latest initial history).number + 1 ∧
        same (latest initial history).state state = false := by
      rw [current] at changed ⊢
      exact ⟨rfl, by simpa using changed⟩
    refine fresh.keep [] fresh.proper (by simp) (fun busy => by cases busy) (fun _ => pending) rfl ?_
    intro index subscriber found
    refine (fresh.tracked index subscriber found).elsewhere _ (by simp [Quiet]) id ?_
    intro left under
    cases under

/-- All senders are to be notified. -/
theorem lockSubscribers (fresh : Fresh same initial history hub) (updated : hub.publication = .updated) :
    Fresh same initial history { hub with publication := .notifying hub.senders } := by
  refine fresh.keep [] fresh.proper (by simp) (fun busy => by cases busy) ?_ rfl ?_
  · intro _
    exact fresh.busy (by simp [updated])
  · intro index subscriber found
    have tracked := fresh.tracked index subscriber found
    refine tracked.republished [] tracked.settled ?_
    intro response left seen under passed
    cases under
    rcases tracked.listed with entering | ended | there
    · simp [Subscriber.inView, entering] at seen
    · simp [Subscriber.inView, ended] at seen
    · exact absurd there passed

/-- The publication is complete, since every thread has been notified. -/
theorem complete (fresh : Fresh same initial history hub) (told : hub.publication = .notifying []) :
    Fresh same initial ((hub.complete true).2 ++ history) (hub.complete true).1 := by
  obtain ⟨numbered, changed⟩ := fresh.busy (by simp [told])
  refine fresh.keep [.published hub.current true] ⟨⟨numbered, by simp [changed]⟩, fresh.proper⟩ (by simp)
    (fun _ => rfl) (fun busy => absurd rfl busy) rfl ?_
  intro index subscriber found
  have tracked := fresh.tracked index subscriber found
  refine tracked.republished [.published hub.current true] ?_ ?_
  · intro response seen empty
    exact absurd empty (tracked.notified response [] seen told List.not_mem_nil)
  · intro response left seen under
    cases under

theorem subscribe (fresh : Fresh same initial history hub) :
    Fresh same initial history { hub with subscribers := hub.subscribers ++ [{}] } where
  proper := fresh.proper
  idle := fresh.idle
  busy := fresh.busy
  answered := by
    intro index response there
    obtain ⟨subscriber, last, found, sent, older⟩ := fresh.answered index response there
    have inside := (List.getElem?_eq_some_iff.mp found).1
    exact ⟨subscriber, last, (List.getElem?_append_left inside).trans found, sent, older⟩
  tracked := by
    intro index subscriber found
    have place : index < (hub.subscribers ++ [({} : Subscriber State)]).length := (List.getElem?_eq_some_iff.mp found).1
    rw [List.length_append, List.length_singleton] at place
    rcases Nat.lt_succ_iff_lt_or_eq.mp place with inside | rfl
    · rw [List.getElem?_append_left inside] at found
      exact fresh.tracked index subscriber found
    · rw [List.getElem?_concat_length] at found
      cases found
      exact {
        connected := .inr ⟨rfl, rfl⟩
        roomy := Nat.succ_pos 7
        listed := .inl rfl
        waiting := by simp
        known := by simp [Subscriber.inView]
        advancing := by simp [Subscriber.inView]
        settled := by simp [Subscriber.inView]
        notified := by simp [Subscriber.inView] }

/-- A step that changes one subscriber. -/
theorem change (fresh : Fresh same initial history hub) (observed : List (Observation State)) {index : Nat}
    {before after : Subscriber State} (found : hub.subscribers[index]? = some before) {next : Hub State}
    (proper : Transition.Throughout (Proper same initial) (observed ++ history))
    (idle : next.publication = .none → next.current = latest initial (observed ++ history))
    (busy : next.publication ≠ .none → next.current.number = (latest initial (observed ++ history)).number + 1 ∧
      same (latest initial (observed ++ history)).state next.current.state = false)
    (subscribers : next.subscribers = hub.subscribers.set index after)
    (responded : ∀ place response, .responded place response ∈ observed → place = index ∧
      after.sent = some response)
    (sent : ∀ previous, before.sent = some previous → ∃ last, after.sent = some last ∧ previous.number ≤ last.number)
    (changed : Tracked initial (observed ++ history) next.senders next.publication index after)
    (others : ∀ place subscriber, place ≠ index → hub.subscribers[place]? = some subscriber →
      Tracked initial (observed ++ history) next.senders next.publication place subscriber) :
    Fresh same initial (observed ++ history) next where
  proper := proper
  idle := idle
  busy := busy
  answered := by
    have inside := (List.getElem?_eq_some_iff.mp found).1
    intro place response there
    rw [subscribers]
    rcases List.mem_append.mp there with new | old
    · obtain ⟨rfl, written⟩ := responded place response new
      exact ⟨after, response, List.getElem?_set_self inside, written, Nat.le_refl _⟩
    · obtain ⟨subscriber, last, place_found, was, older⟩ := fresh.answered place response old
      by_cases here : place = index
      · subst here
        cases found.symm.trans place_found
        obtain ⟨now, written, newer⟩ := sent last was
        exact ⟨after, now, List.getElem?_set_self inside, written, Nat.le_trans older newer⟩
      · exact ⟨subscriber, last, (List.getElem?_set_ne (Ne.symm here)).trans place_found, was, older⟩
  tracked := by
    have inside := (List.getElem?_eq_some_iff.mp found).1
    intro place subscriber there
    rw [subscribers] at there
    by_cases here : place = index
    · subst here
      rw [List.getElem?_set_self inside] at there
      cases there
      exact changed
    · rw [List.getElem?_set_ne (Ne.symm here)] at there
      exact others place subscriber here there

/-- The others, while one sender has its turn. -/
theorem passedOver (fresh : Fresh same initial history hub) {index place : Nat} {left senders : List Nat}
    {subscriber : Subscriber State} (notifying : hub.publication = .notifying (index :: left)) (apart : place ≠ index)
    (found : hub.subscribers[place]? = some subscriber) (kept : place ∈ hub.senders → place ∈ senders) :
    Tracked initial history senders (.notifying left) place subscriber := by
  refine (fresh.tracked place subscriber found).elsewhere [] (by simp [Quiet]) kept ?_
  intro others under passed
  cases under
  refine ⟨index :: left, notifying, ?_⟩
  intro there
  exact passed ((List.mem_cons.mp there).resolve_left apart)

theorem notifyOne (fresh : Fresh same initial history hub) {index : Nat} {left : List Nat}
    (notifying : hub.publication = .notifying (index :: left)) :
    Fresh same initial history { hub.notifyOne index with publication := .notifying left } := by
  have pending := fresh.busy (by simp [notifying])
  unfold Hub.notifyOne
  split
  · rename_i missing
    refine fresh.keep [] fresh.proper (by simp) (fun busy => by cases busy) (fun _ => pending) rfl ?_
    intro place subscriber found
    refine fresh.passedOver notifying ?_ found id
    rintro rfl
    cases missing.symm.trans found
  · rename_i subscriber found
    have tracked := fresh.tracked index subscriber found
    rw [notifying] at tracked
    split
    · rename_i channel sent
      rcases tracked.notify sent with ⟨-, after⟩ | ⟨arrived, -⟩
      · refine fresh.change [] found fresh.proper (fun busy => by cases busy) (fun _ => pending) rfl (by simp) ?_
          after ?_
        · exact fun previous was => ⟨previous, was, Nat.le_refl _⟩
        · exact fun place other apart there => fresh.passedOver notifying apart there id
      · cases arrived
    · rename_i channel sent
      rcases tracked.notify sent with ⟨arrived, -⟩ | ⟨-, ended, rfl⟩
      · cases arrived
      · refine fresh.change [] found fresh.proper (fun busy => by cases busy) (fun _ => pending) rfl (by simp) ?_ ?_ ?_
        · exact fun previous was => ⟨previous, was, Nat.le_refl _⟩
        · exact tracked.hangUp ended _ _
        · intro place other apart there
          refine fresh.passedOver notifying apart there ?_
          intro listed
          exact List.mem_filter.mpr ⟨listed, by simpa using apart⟩
    · rename_i refused
      refine fresh.keep [] fresh.proper (by simp) (fun busy => by cases busy) (fun _ => pending) rfl ?_
      intro place other there
      by_cases here : place = index
      · subst here
        cases found.symm.trans there
        exact tracked.full refused
      · exact fresh.passedOver notifying here there id

theorem turn (fresh : Fresh same initial history hub) (index : Nat) (succeeds : Bool) :
    Fresh same initial ((hub.turn index succeeds).2 ++ history) (hub.turn index succeeds).1 := by
  unfold Hub.turn
  split
  · exact fresh
  · rename_i subscriber found
    have tracked := fresh.tracked index subscriber found
    simp only
    generalize entered : Hub.enter hub.senders index subscriber.stage
      (subscriber.turn hub.current hub.publication succeeds).1.stage = senders
    have kept : ∀ place ∈ hub.senders, place ∈ senders := by
      intro place there
      rw [← entered]
      unfold Hub.enter
      split
      · exact List.mem_append_left _ there
      · exact there
    have after : Tracked initial history senders hub.publication index
        (subscriber.turn hub.current hub.publication succeeds).1 := by
      refine tracked.turn fresh.proper fresh.idle succeeds (kept index) ?_
      intro registers opens
      rw [← entered, registers, opens]
      exact List.mem_append_right _ List.mem_cons_self
    have newer : ∀ previous, subscriber.sent = some previous → ∃ last,
        (subscriber.turn hub.current hub.publication succeeds).1.sent = some last ∧ previous.number ≤ last.number := by
      intro previous was
      rcases subscriber.turn_sent hub.current hub.publication succeeds with stays | ⟨response, sees, written⟩
      · exact ⟨previous, stays.trans was, Nat.le_refl _⟩
      · exact ⟨response, written, tracked.advancing response previous sees was⟩
    cases writes : (subscriber.turn hub.current hub.publication succeeds).2 with
    | none =>
      refine fresh.change [] found fresh.proper fresh.idle fresh.busy rfl (by simp) newer after ?_
      intro place other _ there
      exact (fresh.tracked place other there).elsewhere [] (by simp [Quiet]) (kept place)
        fun left under passed => ⟨left, under, passed⟩
    | some response =>
      obtain ⟨sees, written⟩ := Subscriber.turn_writes writes
      have proper : Proper same initial (.responded index response) history := by
        refine ⟨tracked.known response (.inl sees), ?_⟩
        intro previous there
        obtain ⟨answerer, last, here, was, older⟩ := fresh.answered index previous there
        cases found.symm.trans here
        exact Nat.le_trans older (tracked.advancing response last sees was)
      have quiet : Quiet [Observation.responded index response] := by simp [Quiet]
      refine fresh.change [.responded index response] found ⟨proper, fresh.proper⟩ fresh.idle fresh.busy rfl ?_ newer
        (after.elsewhere _ quiet id fun left under passed => ⟨left, under, passed⟩) ?_
      · intro place other there
        cases List.mem_singleton.mp there
        exact ⟨rfl, written⟩
      · intro place other _ there
        exact (fresh.tracked place other there).elsewhere _ quiet (kept place)
          fun left under passed => ⟨left, under, passed⟩

/-- Every step keeps all of it. -/
theorem step (fresh : Fresh same initial history hub) (event : Event State) :
    Fresh same initial ((hub.step same event).2 ++ history) (hub.step same event).1 := by
  unfold Hub.step
  split
  · rename_i idle
    exact fresh.publish idle _
  · rename_i updated
    exact fresh.lockSubscribers updated
  · rename_i notifying
    exact fresh.notifyOne notifying
  · rename_i told
    exact fresh.complete told
  · exact fresh.subscribe
  · exact fresh.turn _ _
  · exact fresh

theorem of_execution (run : Execution same initial history hub) : Fresh same initial history hub := by
  refine run.invariant ?_ ?_
  · rintro _ rfl
    exact started same initial
  · intro _ _ event _ _ fresh
    exact fresh.step event

end Fresh

end Hub

/-! ## Snapshots -/

/-- What a thread promises that waits with nothing queued, and what the list of senders does. -/
structure Served {State : Type} (history : List (Observation State)) (hub : Hub State) (index : Nat)
    (subscriber : Subscriber State) : Prop where
  answered : ∀ response, .responded index response ∈ history → ∃ last, subscriber.sent = some last ∧
    response.number ≤ last.number
  fresh : subscriber.stage = .waiting → subscriber.channel.queue = [] → ∃ last, subscriber.sent = some last ∧
    UpToDate history last
  listed : subscriber.stage ≠ .registering → index ∉ hub.senders → subscriber.stage = .ended

section

variable {Window Output Layer Performance : Type} [DecidableEq Window] [DecidableEq Output] [DecidableEq Layer]

end

/-- A desktop without windows, before and after a command failed. -/
def empty : Snapshot Unit Unit Unit Unit :=
  { version := 1, windows := [], outputs := [], focused := none, error := none, layers := [], recorder := {},
    recorderSettings := {}, performance := () }

def failed : Snapshot Unit Unit Unit Unit := { empty with error := some "unknown command" }

end Luma.Compositor.Ipc
