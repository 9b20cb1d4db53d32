import Luma.Shell.Notifications
import Mathlib.Data.List.Nodup
import Mathlib.Data.List.Perm.Subperm

/-! The identifiers of notifications, and the timers of their popups. -/

set_option autoImplicit false

namespace Luma.Shell

open Luma.Library

namespace NotificationServer

variable {server : NotificationServer} {id other : Nat} {popup : Popup} {request : NotifyRequest}

/-- A popup with the identifier is shown. -/
def Live (self : NotificationServer) (id : Nat) : Prop := ∃ popup, (id, popup) ∈ self.items.entries

/-! ## Identifiers -/

theorem live_iff : server.Live id ↔ (server.items.find id).isSome = true := by
  rw [Option.isSome_iff_exists]
  exact exists_congr fun popup => OrderedMap.find_eq_some.symm

theorem following_eq {counter : Nat} (word : counter < 4294967296) :
    following counter = counter % 4294967295 + 1 := by
  unfold following
  by_cases last : counter = 4294967295
  · rw [last]
    decide
  · have below : counter < 4294967295 := by omega
    rw [Nat.mod_eq_of_lt below, Nat.mod_eq_of_lt (by omega)]
    exact max_eq_left (Nat.succ_le_succ (Nat.zero_le counter))

theorem following_pos (counter : Nat) : following counter ≠ 0 := by
  unfold following
  omega

theorem following_lt (counter : Nat) : following counter < 4294967296 := by
  unfold following
  omega

variable {items : OrderedMap Nat Popup} {rounds counter : Nat}

/-- The identifier that is found is free, and those on the way to it are taken. -/
theorem claim_spec (word : counter < 4294967296) (found : claim items rounds counter = some id) :
    id ≠ 0 ∧ id < 4294967296 ∧ items.find id = none ∧
      (∀ passed, counter % 4294967295 < passed → passed < id → (items.find passed).isSome = true) ∧
        (id ≤ counter % 4294967295 → (items.find 4294967295).isSome = true) := by
  induction rounds generalizing counter with
  | zero => cases found
  | succ rounds ih =>
    rw [claim] at found
    have next := following_eq word
    have bound := following_lt counter
    -- Only the round behind the greatest number goes back to the least one.
    split at found
    · rename_i taken
      obtain ⟨positive, small, free, passes, wraps⟩ := ih bound found
      refine ⟨positive, small, free, ?_, ?_⟩
      · intro passed after before
        by_cases first : passed = following counter
        · rw [first]
          exact taken
        · exact passes passed (by omega) before
      · intro behind
        by_cases last : following counter = 4294967295
        · rw [← last]
          exact taken
        · exact wraps (by omega)
    · rename_i free
      cases found
      refine ⟨following_pos counter, bound, Option.not_isSome_iff_eq_none.mp free, ?_, ?_⟩
      · intro passed after before
        omega
      · intro behind
        omega

/-- The identifiers that are tried, in their order. -/
def candidates : Nat → Nat → List Nat
  | 0, _ => []
  | rounds + 1, counter => following counter :: candidates rounds (following counter)

theorem candidates_eq (word : counter < 4294967296) :
    candidates rounds counter = (List.range rounds).map fun turn => (counter + turn) % 4294967295 + 1 := by
  induction rounds generalizing counter with
  | zero => rfl
  | succ rounds ih =>
    rw [candidates, ih (following_lt counter), List.range_succ_eq_map, List.map_cons, List.map_map, following_eq word]
    congr 1
    refine List.map_congr_left fun turn _ => ?_
    simp only [Function.comp_apply]
    omega

theorem candidates_nodup (word : counter < 4294967296) (few : rounds ≤ 4294967295) :
    (candidates rounds counter).Nodup := by
  rw [candidates_eq word]
  refine List.Nodup.map_on ?_ List.nodup_range
  intro first below second below' same
  rw [List.mem_range] at below below'
  omega

theorem candidates_taken (none_ : claim items rounds counter = none) :
    ∀ id ∈ candidates rounds counter, id ∈ items.entries.map (·.1) := by
  induction rounds generalizing counter with
  | zero => exact fun id there => absurd there List.not_mem_nil
  | succ rounds ih =>
    rw [claim] at none_
    split at none_
    · rename_i taken
      intro id there
      rcases List.mem_cons.mp there with rfl | later
      · obtain ⟨popup, found⟩ := Option.isSome_iff_exists.mp taken
        exact List.mem_map.mpr ⟨_, OrderedMap.find_eq_some.mp found, rfl⟩
      · exact ih none_ id later
    · cases none_

/-- More identifiers are tried than there are popups. -/
theorem claim_ends (word : counter < 4294967296) (few : items.entries.length < 4294967295) :
    ∃ id, claim items (items.entries.length + 1) counter = some id := by
  cases found : claim items (items.entries.length + 1) counter with
  | some id => exact ⟨id, rfl⟩
  | none =>
    have distinct := candidates_nodup word (show items.entries.length + 1 ≤ 4294967295 by omega)
    have within := (distinct.subperm (candidates_taken found)).length_le
    rw [candidates_eq word, List.length_map, List.length_map, List.length_range] at within
    omega

/-! ## Popups and timers -/

/-- The timers are those of the popups. -/
structure Coherent (server : NotificationServer) : Prop where
  word : server.counter < 4294967296
  few : server.items.entries.length ≤ 3
  counted : ∀ entry ∈ server.items.entries, entry.2.widget < server.widgets
  sourced : ∀ entry ∈ server.items.entries, ∀ source, entry.2.timer = some source → source < server.sources
  apart : ∀ entry ∈ server.items.entries, ∀ other ∈ server.items.entries, ∀ source, entry.2.timer = some source →
    other.2.timer = some source → entry = other
  timed : ∀ entry ∈ server.items.entries, ∀ source, entry.2.timer = some source →
    ∃ timer ∈ server.timers, timer.source = source
  owned : ∀ timer ∈ server.timers, ∃ popup, (timer.id, popup) ∈ server.items.entries ∧ popup.widget = timer.widget ∧
    popup.timer = some timer.source
  fine : server.panicked = false

theorem remove_none (absent : server.items.find id = none) : server.remove id = (server, false) := by
  unfold remove
  rw [absent]

theorem remove_some (found : server.items.find id = some popup) : server.remove id =
    ({ server with
      items := server.items.erase id
      timers := server.timers.filter fun timer => popup.timer ≠ some timer.source
      panicked := server.panicked || popup.timer.any fun source => !server.timers.any fun timer => timer.source = source
      stack := server.stack.filter fun widget => widget.serial ≠ popup.widget
      visible := server.visible && !(server.items.erase id).entries.isEmpty }, true) := by
  unfold remove
  rw [found]

theorem mem_remove {entry : Nat × Popup} :
    entry ∈ (server.remove id).1.items.entries ↔ entry ∈ server.items.entries ∧ entry.1 ≠ id := by
  cases found : server.items.find id with
  | none =>
    rw [remove_none found]
    exact ⟨fun there => ⟨there, OrderedMap.find_eq_none.mp found entry there⟩, And.left⟩
  | some popup =>
    rw [remove_some found]
    exact OrderedMap.mem_erase

theorem remove_unchanged (server : NotificationServer) (id : Nat) : (server.remove id).1.counter = server.counter ∧
    (server.remove id).1.dnd = server.dnd ∧ (server.remove id).1.widgets = server.widgets := by
  cases found : server.items.find id with
  | none =>
    rw [remove_none found]
    exact ⟨rfl, rfl, rfl⟩
  | some popup =>
    rw [remove_some found]
    exact ⟨rfl, rfl, rfl⟩

theorem Coherent.remove (coherent : Coherent server) (id : Nat) : Coherent (server.remove id).1 := by
  cases found : server.items.find id with
  | none =>
    rw [remove_none found]
    exact coherent
  | some popup =>
    have there := OrderedMap.find_eq_some.mp found
    rw [remove_some found]
    have kept : ∀ entry ∈ (server.items.erase id).entries, entry ∈ server.items.entries ∧ entry.1 ≠ id :=
      fun entry => OrderedMap.mem_erase.mp
    constructor
    case word => exact coherent.word
    case few => exact Nat.le_trans OrderedMap.length_erase_le coherent.few
    case counted => exact fun entry stays => coherent.counted entry (kept entry stays).1
    case sourced => exact fun entry stays => coherent.sourced entry (kept entry stays).1
    case apart =>
      exact fun entry stays other stays' => coherent.apart entry (kept entry stays).1 other (kept other stays').1
    case timed =>
      -- The timer that goes is not the one of another popup.
      intro entry stays source named
      obtain ⟨stays, other⟩ := kept entry stays
      obtain ⟨timer, pending, rfl⟩ := coherent.timed entry stays source named
      refine ⟨timer, List.mem_filter.mpr ⟨pending, ?_⟩, rfl⟩
      rw [decide_eq_true_eq]
      intro same
      exact other (congrArg Prod.fst (coherent.apart entry stays _ there timer.source named same))
    case owned =>
      intro timer stays
      obtain ⟨pending, different⟩ := List.mem_filter.mp stays
      rw [decide_eq_true_eq] at different
      obtain ⟨owner, listed, drawn, names⟩ := coherent.owned timer pending
      refine ⟨owner, OrderedMap.mem_erase.mpr ⟨listed, ?_⟩, drawn, names⟩
      intro same
      have whole : owner = popup :=
        OrderedMap.value_unique (show (id, owner) ∈ server.items.entries from same ▸ listed) there
      exact different (whole ▸ names)
    case fine =>
      rw [Bool.or_eq_false_iff]
      refine ⟨coherent.fine, ?_⟩
      cases named : popup.timer with
      | none => rfl
      | some source =>
        obtain ⟨timer, pending, same⟩ := coherent.timed _ there source named
        have listed : (server.timers.any fun timer => timer.source = source) = true :=
          List.any_eq_true.mpr ⟨timer, pending, decide_eq_true same⟩
        rw [Option.any_some, listed]
        rfl

theorem Coherent.keep {after : NotificationServer} (coherent : Coherent server) (word : after.counter < 4294967296)
    (items : after.items = server.items) (timers : after.timers = server.timers)
    (sources : after.sources = server.sources) (widgets : after.widgets = server.widgets)
    (panicked : after.panicked = server.panicked) : Coherent after := by
  constructor
  case word => exact word
  case few => exact items ▸ coherent.few
  case counted => exact items ▸ widgets ▸ coherent.counted
  case sourced => exact items ▸ sources ▸ coherent.sourced
  case apart => exact items ▸ coherent.apart
  case timed => exact items ▸ timers ▸ coherent.timed
  case owned => exact items ▸ timers ▸ coherent.owned
  case fine => exact panicked.trans coherent.fine

theorem closePopup_fst (server : NotificationServer) (id reason : Nat) :
    (server.closePopup id reason).1 = (server.remove id).1 := by
  unfold closePopup
  cases found : server.items.find id with
  | none => rw [remove_none found]
  | some popup => rw [remove_some found]

theorem closePopup_snd (server : NotificationServer) (id reason : Nat) : (server.closePopup id reason).2 =
    if (server.items.find id).isSome then [.notificationClosed id reason] else [] := by
  unfold closePopup
  cases found : server.items.find id with
  | none =>
    rw [remove_none found]
    rfl
  | some popup =>
    rw [remove_some found]
    rfl

theorem evict_cases (server : NotificationServer) :
    server.evict = (server, []) ∧ server.items.entries.length < 3 ∨
      ∃ oldest, server.items.entries.head? = some oldest ∧ 3 ≤ server.items.entries.length ∧
        server.evict = server.closePopup oldest.1 1 := by
  unfold evict
  cases first : server.items.entries.head? with
  | none =>
    rw [List.head?_eq_none_iff.mp first]
    exact .inl ⟨rfl, by decide⟩
  | some oldest =>
    simp only
    split
    · rename_i full
      exact .inr ⟨oldest, rfl, full, rfl⟩
    · rename_i room
      exact .inl ⟨rfl, Nat.not_le.mp room⟩

/-- The loop takes out a timer and the popup of it has none from then on. -/
theorem loosen_eq (coherent : Coherent server) {timer : PopupTimer} (pending : timer ∈ server.timers) :
    ∃ popup, (timer.id, popup) ∈ server.items.entries ∧ popup.timer = some timer.source ∧
      server.loosen timer = { server with
        timers := server.timers.filter fun other => other.source ≠ timer.source
        items := server.items.insert timer.id { popup with timer := none } } := by
  obtain ⟨popup, there, -, names⟩ := coherent.owned timer pending
  refine ⟨popup, there, names, ?_⟩
  unfold loosen
  rw [OrderedMap.find_eq_some.mpr there]

theorem Coherent.loosen (coherent : Coherent server) {timer : PopupTimer} (pending : timer ∈ server.timers) :
    Coherent (server.loosen timer) := by
  obtain ⟨popup, there, names, same⟩ := loosen_eq coherent pending
  rw [same]
  have kept : ∀ entry ∈ (server.items.insert timer.id { popup with timer := none }).entries,
      entry = (timer.id, { popup with timer := none }) ∨ entry ∈ server.items.entries ∧ entry.1 ≠ timer.id :=
    fun entry => OrderedMap.mem_insert.mp
  -- What still has a timer is another popup, as it was.
  have armed : ∀ entry ∈ (server.items.insert timer.id { popup with timer := none }).entries, ∀ source,
      entry.2.timer = some source → entry ∈ server.items.entries ∧ entry.1 ≠ timer.id := by
    intro entry stays source armed
    rcases kept entry stays with rfl | old
    · cases armed
    · exact old
  constructor
  case word => exact coherent.word
  case few => exact (OrderedMap.length_replace there).le.trans coherent.few
  case counted =>
    intro entry stays
    rcases kept entry stays with rfl | ⟨old, -⟩
    · exact coherent.counted (timer.id, popup) there
    · exact coherent.counted entry old
  case sourced =>
    intro entry stays source named
    exact coherent.sourced entry (armed entry stays source named).1 source named
  case apart =>
    intro entry stays other stays' source named named'
    exact coherent.apart entry (armed entry stays source named).1 other (armed other stays' source named').1 source
      named named'
  case timed =>
    intro entry stays source named
    obtain ⟨old, away⟩ := armed entry stays source named
    obtain ⟨owner, found, rfl⟩ := coherent.timed entry old source named
    refine ⟨owner, List.mem_filter.mpr ⟨found, ?_⟩, rfl⟩
    rw [decide_eq_true_eq]
    intro shared
    exact away (congrArg Prod.fst (coherent.apart entry old _ there timer.source (shared ▸ named) names))
  case owned =>
    intro owner stays
    obtain ⟨found, different⟩ := List.mem_filter.mp stays
    rw [decide_eq_true_eq] at different
    obtain ⟨holder, listed, drawn, named⟩ := coherent.owned owner found
    refine ⟨holder, OrderedMap.mem_insert.mpr (.inr ⟨listed, ?_⟩), drawn, named⟩
    intro shared
    have whole : holder = popup :=
      OrderedMap.value_unique (show (timer.id, holder) ∈ server.items.entries from shared ▸ listed) there
    rw [whole, names] at named
    exact different (Option.some.inj named).symm
  case fine => exact coherent.fine

theorem Coherent.closePopup (coherent : Coherent server) (id reason : Nat) :
    Coherent (server.closePopup id reason).1 := by
  rw [closePopup_fst]
  exact coherent.remove id

/-- A popup makes room where there are three of them. -/
theorem Coherent.evict (coherent : Coherent server) : Coherent server.evict.1 ∧
    server.evict.1.items.entries.length < 3 := by
  rcases evict_cases server with ⟨same, room⟩ | ⟨oldest, first, full, same⟩
  · rw [same]
    exact ⟨coherent, room⟩
  · rw [same]
    refine ⟨coherent.closePopup oldest.1 1, ?_⟩
    obtain ⟨rest, split⟩ := List.head?_eq_some_iff.mp first
    have there : (oldest.1, oldest.2) ∈ server.items.entries := split ▸ List.mem_cons_self
    rw [closePopup_fst, remove_some (OrderedMap.find_eq_some.mpr there)]
    exact Nat.lt_of_lt_of_le (OrderedMap.length_erase_lt there) coherent.few

theorem timerFor_made {timer : PopupTimer} (made : server.timerFor id request = some timer) :
    timer.source = server.sources ∧ timer.id = id ∧ timer.widget = server.widgets := by
  unfold timerFor at made
  split at made
  · cases made
  · cases made
    exact ⟨rfl, rfl, rfl⟩

/-- The popup that is shown is the new one, and its timer the newest. -/
theorem mem_present {entry : Nat × Popup} : entry ∈ (server.present id request).items.entries ↔
    entry = (id, { widget := server.widgets, timer := (server.timerFor id request).map PopupTimer.source }) ∨
      entry ∈ server.items.entries ∧ entry.1 ≠ id :=
  OrderedMap.mem_insert

theorem Coherent.present (coherent : Coherent server) (room : server.items.entries.length < 3)
    (absent : server.items.find id = none) (request : NotifyRequest) : Coherent (server.present id request) := by
  -- The number of a new timer is above those of the others.
  have newest : ∀ source, (server.timerFor id request).map PopupTimer.source = some source →
      source = server.sources ∧ ∃ timer, server.timerFor id request = some timer ∧ timer.source = source := by
    intro source named
    obtain ⟨timer, made, rfl⟩ := Option.map_eq_some_iff.mp named
    exact ⟨(timerFor_made made).1, timer, made, rfl⟩
  constructor
  case word => exact coherent.word
  case few =>
    have length : (server.present id request).items.entries.length = server.items.entries.length + 1 :=
      OrderedMap.length_insert absent
    omega
  case counted =>
    intro entry stays
    rcases mem_present.mp stays with rfl | ⟨old, -⟩
    · exact Nat.lt_succ_self _
    · exact Nat.lt_succ_of_lt (coherent.counted entry old)
  case sourced =>
    intro entry stays source named
    have more : (server.present id request).sources = server.sources + (server.timerFor id request).toList.length := rfl
    rcases mem_present.mp stays with rfl | ⟨old, -⟩
    · obtain ⟨rfl, timer, made, -⟩ := newest source named
      rw [more, made]
      exact Nat.lt_succ_self _
    · have bound := coherent.sourced entry old source named
      omega
  case apart =>
    intro entry stays other stays' source named named'
    rcases mem_present.mp stays with rfl | ⟨old, -⟩ <;> rcases mem_present.mp stays' with rfl | ⟨old', -⟩
    · rfl
    · have bound := coherent.sourced other old' source named'
      have last := (newest source named).1
      omega
    · have bound := coherent.sourced entry old source named
      have last := (newest source named').1
      omega
    · exact coherent.apart entry old other old' source named named'
  case timed =>
    intro entry stays source named
    rcases mem_present.mp stays with rfl | ⟨old, -⟩
    · obtain ⟨-, timer, made, same⟩ := newest source named
      refine ⟨timer, List.mem_append_left _ ?_, same⟩
      rw [made]
      exact List.mem_cons_self
    · obtain ⟨timer, pending, same⟩ := coherent.timed entry old source named
      exact ⟨timer, List.mem_append_right _ pending, same⟩
  case owned =>
    intro timer stays
    rcases List.mem_append.mp stays with added | pending
    · have made : server.timerFor id request = some timer := Option.mem_toList.mp added
      obtain ⟨-, rfl, drawn⟩ := timerFor_made made
      refine ⟨_, mem_present.mpr (.inl rfl), drawn.symm, ?_⟩
      rw [made]
      rfl
    · obtain ⟨popup, listed, drawn, named⟩ := coherent.owned timer pending
      refine ⟨popup, mem_present.mpr (.inr ⟨listed, ?_⟩), drawn, named⟩
      exact OrderedMap.find_eq_none.mp absent _ listed
  case fine => exact coherent.fine

/-! ## One step -/

/-- What does not change the popups, but for the timer of one of them. -/
inductive Quiet (server : NotificationServer) : NotificationServer → Prop where
  | same : Quiet server server
  | loosened {timer : PopupTimer} : timer ∈ server.timers → Quiet server (server.loosen timer)
  | dnd (on : Bool) : Quiet server { server with dnd := on }
  | cleared : Quiet server { server with history := [] }

/-- All inputs but calls of `Notify` close a popup at most. -/
theorem step_cases (server : NotificationServer) (input : NotificationInput) :
    (∃ request, input = .notify request) ∨ ∃ base, Quiet server base ∧ (server.step input = (base, []) ∨
      ∃ id reason invoked, server.step input =
          ((base.closePopup id reason).1, (base.closePopup id reason).2 ++ invoked) ∧
        ∀ output ∈ invoked, ∃ id key, output = .actionInvoked id key) := by
  have closing : ∀ (base : NotificationServer) id reason, base.closePopup id reason =
      ((base.closePopup id reason).1, (base.closePopup id reason).2 ++ []) := fun base id reason => by
    rw [List.append_nil]
  have silent : ∀ output ∈ ([] : List NotificationOutput), ∃ id key, output = .actionInvoked id key :=
    fun output there => absurd there List.not_mem_nil
  cases input with
  | notify request => exact .inl ⟨request, rfl⟩
  | closeNotification id => exact .inr ⟨server, .same, .inr ⟨id, 3, [], closing server id 3, silent⟩⟩
  | action serial button =>
    refine .inr ⟨server, .same, ?_⟩
    unfold step
    simp only
    split
    · exact .inl rfl
    · rename_i widget _
      split
      · exact .inl rfl
      · rename_i key _ _
        refine .inr ⟨widget.id, 2, [.actionInvoked widget.id key], rfl, ?_⟩
        intro output there
        exact ⟨widget.id, key, List.mem_singleton.mp there⟩
  | dismiss serial =>
    refine .inr ⟨server, .same, ?_⟩
    unfold step
    simp only
    split
    · exact .inl rfl
    · rename_i widget _
      exact .inr ⟨widget.id, 2, [], closing server widget.id 2, silent⟩
  | expire source =>
    unfold step
    simp only
    split
    · exact .inr ⟨server, .same, .inl rfl⟩
    · rename_i timer found
      exact .inr ⟨_, .loosened (List.mem_of_find?_eq_some found), .inr ⟨timer.id, 1, [], closing _ timer.id 1, silent⟩⟩
  | setDnd on => exact .inr ⟨_, .dnd on, .inl rfl⟩
  | clearHistory => exact .inr ⟨_, .cleared, .inl rfl⟩

theorem Coherent.quiet {base : NotificationServer} (coherent : Coherent server) (quiet : Quiet server base) :
    Coherent base := by
  cases quiet with
  | same => exact coherent
  | loosened pending => exact coherent.loosen pending
  | dnd on => exact coherent.keep coherent.word rfl rfl rfl rfl rfl
  | cleared => exact coherent.keep coherent.word rfl rfl rfl rfl rfl

theorem publish_quiet (quiet : server.dnd = true) :
    server.publish id request = (server.prepared id request, [.notificationClosed id 1, .returned id]) :=
  if_pos ((remove_unchanged server id).2.1.trans quiet)

theorem publish_shown (loud : server.dnd = false) : server.publish id request =
    ((server.prepared id request).evict.1.present id request,
      .returned id :: (server.prepared id request).evict.2) := by
  have same : (server.prepared id request).dnd = false := (remove_unchanged server id).2.1.trans loud
  unfold publish
  rw [if_neg (Bool.eq_false_iff.mp same)]

theorem mem_prepared {entry : Nat × Popup} : entry ∈ (server.prepared id request).items.entries ↔
    entry ∈ server.items.entries ∧ entry.1 ≠ id :=
  mem_remove

theorem mem_evict {entry : Nat × Popup} (there : entry ∈ server.evict.1.items.entries) :
    entry ∈ server.items.entries := by
  rcases evict_cases server with ⟨same, -⟩ | ⟨oldest, -, -, same⟩
  · rw [same] at there
    exact there
  · rw [same, closePopup_fst] at there
    exact (mem_remove.mp there).1

theorem Coherent.prepared (coherent : Coherent server) (id : Nat) (request : NotifyRequest) :
    Coherent (server.prepared id request) :=
  (coherent.remove id).keep (coherent.remove id).word rfl rfl rfl rfl rfl

theorem Coherent.publish (coherent : Coherent server) (id : Nat) (request : NotifyRequest) :
    Coherent (server.publish id request).1 := by
  have ready := coherent.prepared id request
  cases state : server.dnd with
  | true =>
    rw [publish_quiet state]
    exact ready
  | false =>
    rw [publish_shown state]
    obtain ⟨evicted, room⟩ := ready.evict
    refine evicted.present room ?_ request
    rw [OrderedMap.find_eq_none]
    exact fun entry there => (mem_prepared.mp (mem_evict there)).2

/-- A call counts before it does anything else. -/
structure Numbered (server base : NotificationServer) : Prop where
  items : base.items = server.items
  dnd : base.dnd = server.dnd
  widgets : base.widgets = server.widgets
  coherent : Coherent base

/-- The identifier of a call: the one that is replaced, or a free one. -/
theorem notify_eq (coherent : Coherent server) (request : NotifyRequest) : ∃ id base, id ≠ 0 ∧
    Numbered server base ∧ server.notify request = base.publish id request ∧
      (server.Replaces request → id = request.replaces) ∧
        (¬server.Replaces request →
          ¬server.Live id ∧ ∃ rounds, claim server.items rounds server.counter = some id) := by
  unfold notify
  by_cases replaced : server.Replaces request
  · rw [if_pos replaced]
    exact ⟨request.replaces, server, replaced.1, ⟨rfl, rfl, rfl, coherent⟩, rfl, fun _ => rfl,
      fun new => absurd replaced new⟩
  · obtain ⟨id, found⟩ := claim_ends coherent.word (Nat.lt_of_le_of_lt coherent.few (by decide))
    obtain ⟨positive, small, free, -⟩ := claim_spec coherent.word found
    rw [if_neg replaced, found]
    have counted : Coherent { server with counter := id } := coherent.keep small rfl rfl rfl rfl rfl
    refine ⟨id, { server with counter := id }, positive, ⟨rfl, rfl, rfl, counted⟩, rfl,
      fun named => absurd named replaced, fun _ => ⟨?_, _, found⟩⟩
    rw [live_iff, free]
    exact Bool.false_ne_true

theorem Coherent.step (coherent : Coherent server) (input : NotificationInput) : Coherent (server.step input).1 := by
  rcases step_cases server input with ⟨request, rfl⟩ | ⟨base, quiet, same | ⟨id, reason, invoked, same, -⟩⟩
  · obtain ⟨id, base, -, numbered, same, -⟩ := notify_eq coherent request
    show Coherent (server.notify request).1
    rw [same]
    exact numbered.coherent.publish id request
  · rw [same]
    exact coherent.quiet quiet
  · rw [same]
    exact (coherent.quiet quiet).closePopup id reason

end NotificationServer

end Luma.Shell
