import Luma.Shell.NotificationTimers

/-! The life of notifications: how often their closing is told, and which of them makes room for another one. -/

set_option autoImplicit false

namespace Luma.Shell

open Luma.Library

namespace NotificationServer

variable {server : NotificationServer} {id other : Nat} {popup : Popup} {request : NotifyRequest}
variable {items : OrderedMap Nat Popup} {rounds counter : Nat}

/-- How often the closing of a notification was told since its identifier was last returned. -/
def closedSince (id : Nat) : List NotificationOutput → Nat
  | [] => 0
  | .returned other :: earlier => if other = id then 0 else closedSince id earlier
  | .notificationClosed other _ :: earlier => (if other = id then 1 else 0) + closedSince id earlier
  | _ :: earlier => closedSince id earlier

def returnedId : NotificationOutput → Option Nat
  | .returned id => some id
  | _ => none

/-- The popup that makes room for a fourth one is the one that was shown longest ago. -/
def EvictsOldest (self : NotificationServer) : Prop :=
  ∀ request id, self.dnd = false → .notificationClosed id 1 ∈ (self.notify request).2 →
    ∃ popup, (id, popup) ∈ self.items.entries ∧ ∀ entry ∈ self.items.entries, popup.widget ≤ entry.2.widget

/-- The search for a new identifier passes all those of the popups: none is the last one there is, and from where the
search starts up to any of them all are taken. -/
def Ahead (self : NotificationServer) : Prop :=
  ¬self.Live 4294967295 ∧
    ∀ id shown, self.counter % 4294967295 < id → id ≤ shown → self.Live shown → self.Live id

/-- A popup is replaced only where it has the greatest identifier, and new ones come after all others. -/
def Steady (self : NotificationServer) : NotificationInput → Prop
  | .notify request => self.dnd = true ∨
      if self.Replaces request then ∀ id, self.Live id → id ≤ request.replaces else self.Ahead
  | _ => True

/-! ## The signal -/

/-- An output that tells something about a notification. -/
def About (id : Nat) (output : NotificationOutput) : Prop :=
  output = .returned id ∨ ∃ reason, output = .notificationClosed id reason

/-- While the popup is shown its closing was not told, and once it is gone it was told once. -/
structure Settled (history : List NotificationOutput) (server : NotificationServer) (id : Nat) : Prop where
  shown : server.Live id → .returned id ∈ history ∧ closedSince id history = 0
  gone : ¬server.Live id → .returned id ∈ history → closedSince id history = 1
  never : .returned id ∉ history → closedSince id history = 0

variable {history outputs : List NotificationOutput} {after : NotificationServer} {reason : Nat}

theorem closedSince_append (silent : ∀ output ∈ outputs, ¬About id output) :
    closedSince id (outputs ++ history) = closedSince id history := by
  induction outputs with
  | nil => rfl
  | cons output rest ih =>
    have later := ih fun output there => silent output (List.mem_cons_of_mem _ there)
    have first := silent output List.mem_cons_self
    rw [List.cons_append]
    cases output with
    | returned other =>
      rw [closedSince, if_neg, later]
      rintro rfl
      exact first (.inl rfl)
    | notificationClosed other reason =>
      rw [closedSince, if_neg, later, Nat.zero_add]
      rintro rfl
      exact first (.inr ⟨reason, rfl⟩)
    | actionInvoked other key => exact later
    | stuck => exact later

theorem Settled.keep (settled : Settled history server id) (silent : ∀ output ∈ outputs, ¬About id output)
    (same : after.Live id ↔ server.Live id) : Settled (outputs ++ history) after id := by
  have told : .returned id ∈ outputs ++ history ↔ .returned id ∈ history := by
    rw [List.mem_append]
    exact or_iff_right fun there => silent _ there (.inl rfl)
  constructor
  case shown =>
    intro live
    rw [told, closedSince_append silent]
    exact settled.shown (same.mp live)
  case gone =>
    intro dead
    rw [told, closedSince_append silent]
    exact settled.gone fun live => dead (same.mpr live)
  case never =>
    rw [told, closedSince_append silent]
    exact settled.never

theorem live_remove : (server.remove id).1.Live other ↔ server.Live other ∧ other ≠ id := by
  constructor
  · rintro ⟨popup, there⟩
    exact ⟨⟨popup, (mem_remove.mp there).1⟩, (mem_remove.mp there).2⟩
  · rintro ⟨⟨popup, there⟩, apart⟩
    exact ⟨popup, mem_remove.mpr ⟨there, apart⟩⟩

theorem live_present : (server.present id request).Live other ↔ other = id ∨ server.Live other := by
  constructor
  · rintro ⟨popup, there⟩
    rcases mem_present.mp there with same | ⟨old, -⟩
    · exact .inl (Prod.ext_iff.mp same).1
    · exact .inr ⟨popup, old⟩
  · intro shown
    by_cases same : other = id
    · subst same
      exact ⟨_, mem_present.mpr (.inl rfl)⟩
    · obtain ⟨popup, there⟩ := shown.resolve_left same
      exact ⟨popup, mem_present.mpr (.inr ⟨there, same⟩)⟩

theorem live_quiet {base : NotificationServer} (coherent : Coherent server) (quiet : Quiet server base) :
    base.Live id ↔ server.Live id := by
  cases quiet with
  | same => rfl
  | dnd on => rfl
  | cleared => rfl
  | @loosened timer pending =>
    obtain ⟨popup, there, -, same⟩ := loosen_eq coherent pending
    rw [same]
    constructor
    · rintro ⟨shown, listed⟩
      rcases OrderedMap.mem_insert.mp listed with new | ⟨old, -⟩
      · cases new
        exact ⟨popup, there⟩
      · exact ⟨shown, old⟩
    · rintro ⟨shown, listed⟩
      by_cases same : id = timer.id
      · subst same
        exact ⟨_, OrderedMap.mem_insert.mpr (.inl rfl)⟩
      · exact ⟨shown, OrderedMap.mem_insert.mpr (.inr ⟨listed, same⟩)⟩

theorem Settled.closePopup (settled : Settled history server other) (id reason : Nat) :
    Settled ((server.closePopup id reason).2 ++ history) (server.closePopup id reason).1 other := by
  rw [closePopup_fst, closePopup_snd]
  by_cases live : server.Live id
  · rw [if_pos (live_iff.mp live)]
    by_cases same : other = id
    · subst same
      obtain ⟨told, none_⟩ := settled.shown live
      constructor
      case shown => exact fun still => absurd rfl (live_remove.mp still).2
      case gone =>
        intro _ _
        rw [List.singleton_append, closedSince, if_pos rfl, none_]
      case never => exact fun absent => absurd (List.mem_append_right _ told) absent
    · refine settled.keep ?_ ?_
      · intro output there about
        cases List.mem_singleton.mp there
        rcases about with impossible | ⟨reason, same'⟩
        · cases impossible
        · cases same'
          exact same rfl
      · rw [live_remove]
        exact and_iff_left same
  · rw [if_neg fun found => live (live_iff.mpr found)]
    refine settled.keep (fun output there => absurd there List.not_mem_nil) ?_
    rw [live_remove]
    exact ⟨And.left, fun shown => ⟨shown, fun same => live (same ▸ shown)⟩⟩

theorem Settled.evict (settled : Settled history server id) :
    Settled (server.evict.2 ++ history) server.evict.1 id := by
  rcases evict_cases server with ⟨same, -⟩ | ⟨oldest, -, -, same⟩
  · rw [same]
    exact settled
  · rw [same]
    exact settled.closePopup oldest.1 1

theorem Settled.publish (settled : ∀ other, Settled history server other) (id : Nat) (request : NotifyRequest)
    (other : Nat) : Settled ((server.publish id request).2 ++ history) (server.publish id request).1 other := by
  have gone : (server.prepared id request).Live other ↔ server.Live other ∧ other ≠ id := live_remove
  by_cases same : other = id
  -- The notification of the call itself.
  · subst same
    cases state : server.dnd with
    | true =>
      rw [publish_quiet state]
      constructor
      case shown => exact fun live => absurd rfl (gone.mp live).2
      case gone =>
        intro _ _
        simp [closedSince]
      case never => exact fun absent => absurd (List.mem_append_left _ (by simp)) absent
    | false =>
      rw [publish_shown state]
      have told : .returned other ∈ .returned other :: (server.prepared other request).evict.2 ++ history :=
        List.mem_cons_self
      constructor
      case shown =>
        intro _
        refine ⟨told, ?_⟩
        rw [List.cons_append, closedSince, if_pos rfl]
      case gone => exact fun dead => absurd (live_present.mpr (.inl rfl)) dead
      case never => exact fun absent => absurd told absent
  · -- The call says nothing about other notifications, but for the one that it closes.
    have kept : Settled history (server.prepared id request) other :=
      (settled other).keep (fun output there => absurd there List.not_mem_nil) (gone.trans (and_iff_left same))
    cases state : server.dnd with
    | true =>
      rw [publish_quiet state]
      refine kept.keep ?_ Iff.rfl
      rintro output there (rfl | ⟨reason, rfl⟩)
      · simp [same] at there
      · simp [same] at there
    | false =>
      rw [publish_shown state]
      refine kept.evict.keep (show ∀ output ∈ [NotificationOutput.returned id], ¬About other output from ?_) ?_
      · rintro output there (rfl | ⟨reason, rfl⟩)
        · simp [same] at there
        · simp at there
      · rw [live_present]
        exact or_iff_right same

theorem live_of_items (same : after.items = server.items) : after.Live id ↔ server.Live id := by
  unfold Live
  rw [same]

theorem Settled.step (coherent : Coherent server) (settled : ∀ other, Settled history server other)
    (input : NotificationInput) (other : Nat) :
    Settled ((server.step input).2 ++ history) (server.step input).1 other := by
  rcases step_cases server input with ⟨request, rfl⟩ | ⟨base, quiet, same | ⟨id, reason, invoked, same, actions⟩⟩
  · obtain ⟨id, base, -, numbered, same, -⟩ := notify_eq coherent request
    show Settled ((server.notify request).2 ++ history) (server.notify request).1 other
    rw [same]
    have counted : ∀ other, Settled history base other := fun other =>
      (settled other).keep (fun output there => absurd there List.not_mem_nil) (live_of_items numbered.items)
    exact Settled.publish counted id request other
  · rw [same]
    exact (settled other).keep (fun output there => absurd there List.not_mem_nil) (live_quiet coherent quiet)
  · rw [same, List.append_assoc]
    refine Settled.closePopup ((settled other).keep ?_ (live_quiet coherent quiet)) id reason
    rintro output there about
    obtain ⟨acted, key, rfl⟩ := actions output there
    rcases about with impossible | ⟨reason, impossible⟩ <;> cases impossible

/-! ## Which popup makes room -/

/-- Popups with greater identifiers were shown later. -/
def Aged (server : NotificationServer) : Prop :=
  ∀ first ∈ server.items.entries, ∀ second ∈ server.items.entries, first.1 < second.1 →
    first.2.widget < second.2.widget

theorem Aged.thin (aged : Aged server) (from_ : ∀ entry ∈ after.items.entries,
    ∃ old ∈ server.items.entries, old.1 = entry.1 ∧ old.2.widget = entry.2.widget) : Aged after := by
  intro first there second there' less
  obtain ⟨old, listed, key, drawn⟩ := from_ first there
  obtain ⟨old', listed', key', drawn'⟩ := from_ second there'
  rw [← drawn, ← drawn']
  exact aged old listed old' listed' (by rw [key, key']; exact less)

theorem Aged.quiet {base : NotificationServer} (coherent : Coherent server) (aged : Aged server)
    (quiet : Quiet server base) : Aged base := by
  refine aged.thin ?_
  intro entry there
  cases quiet with
  | same => exact ⟨entry, there, rfl, rfl⟩
  | dnd on => exact ⟨entry, there, rfl, rfl⟩
  | cleared => exact ⟨entry, there, rfl, rfl⟩
  | @loosened timer pending =>
    obtain ⟨popup, listed, -, same⟩ := loosen_eq coherent pending
    rw [same] at there
    rcases OrderedMap.mem_insert.mp there with rfl | ⟨old, -⟩
    · exact ⟨_, listed, rfl, rfl⟩
    · exact ⟨entry, old, rfl, rfl⟩

theorem Aged.remove (aged : Aged server) (id : Nat) : Aged (server.remove id).1 :=
  aged.thin fun entry there => ⟨entry, (mem_remove.mp there).1, rfl, rfl⟩

theorem Aged.present (coherent : Coherent server) (aged : Aged server)
    (last : ∀ other, server.Live other → other < id) : Aged (server.present id request) := by
  intro first there second there' less
  rcases mem_present.mp there with rfl | ⟨old, -⟩ <;> rcases mem_present.mp there' with rfl | ⟨old', -⟩
  · exact absurd less (lt_irrefl id)
  · exact absurd less (last second.1 ⟨second.2, old'⟩).asymm
  · exact coherent.counted first old
  · exact aged first old second old' less

/-- The condition says that the new identifier comes after all others. -/
theorem ahead_iff (coherent : Coherent server) (found : claim server.items rounds server.counter = some id) :
    server.Ahead ↔ ∀ other, server.Live other → other < id := by
  obtain ⟨-, small, free, passes, wraps⟩ := claim_spec coherent.word found
  have unused : ¬server.Live id := fun live => by
    rw [live_iff, free] at live
    cases live
  constructor
  · rintro ⟨end_, taken⟩ other live
    by_contra above
    have apart : other ≠ id := fun same => unused (same ▸ live)
    by_cases behind : id ≤ server.counter % 4294967295
    · exact end_ (live_iff.mpr (wraps behind))
    · exact unused (taken id other (by omega) (by omega) live)
  · intro above
    refine ⟨fun live => ?_, fun passed other after upTo live => ?_⟩
    · have less := above _ live
      omega
    · have less := above _ live
      exact live_iff.mpr (passes passed after (by omega))

theorem Aged.step (coherent : Coherent server) (aged : Aged server) {input : NotificationInput}
    (steady : server.Steady input) : Aged (server.step input).1 := by
  rcases step_cases server input with ⟨request, rfl⟩ | ⟨base, quiet, same | ⟨id, reason, invoked, same, -⟩⟩
  · obtain ⟨id, base, -, numbered, same, replaced, new⟩ := notify_eq coherent request
    show Aged (server.notify request).1
    have ready : Aged (base.prepared id request) := aged.thin fun entry there =>
      ⟨entry, numbered.items ▸ (mem_prepared.mp there).1, rfl, rfl⟩
    rw [same]
    cases state : server.dnd with
    | true =>
      rw [publish_quiet (numbered.dnd.trans state)]
      exact ready
    | false =>
      rw [publish_shown (numbered.dnd.trans state)]
      have evicted : Aged (base.prepared id request).evict.1 :=
        ready.thin fun entry there => ⟨entry, mem_evict there, rfl, rfl⟩
      refine Aged.present (numbered.coherent.prepared id request).evict.1 evicted ?_
      rintro other ⟨popup, there⟩
      obtain ⟨old, apart⟩ := mem_prepared.mp (mem_evict there)
      have live : server.Live other := ⟨popup, numbered.items ▸ old⟩
      have condition := steady.resolve_left (Bool.eq_false_iff.mp state)
      -- A popup that stays has to be below the identifier that the call gets.
      by_cases named : server.Replaces request
      · rw [if_pos named] at condition
        have bound := condition other live
        have key := replaced named
        exact lt_of_le_of_ne (key ▸ bound) apart
      · rw [if_neg named] at condition
        obtain ⟨-, rounds, found⟩ := new named
        exact (ahead_iff coherent found).mp condition other live
  · rw [same]
    exact Aged.quiet coherent aged quiet
  · rw [same, closePopup_fst]
    exact (Aged.quiet coherent aged quiet).remove id

/-- Three popups stay only where the call replaces none. -/
theorem prepared_full (coherent : Coherent server) (full : 3 ≤ (server.prepared id request).items.entries.length) :
    server.prepared id request = server.note request ∧ server.items.entries.length = 3 := by
  cases found : server.items.find id with
  | none =>
    have same : server.prepared id request = server.note request := by
      unfold prepared
      rw [remove_none found]
    rw [same] at full
    exact ⟨same, Nat.le_antisymm coherent.few full⟩
  | some popup =>
    have fewer : (server.prepared id request).items.entries.length < server.items.entries.length := by
      unfold prepared
      rw [remove_some found]
      exact OrderedMap.length_erase_lt (OrderedMap.find_eq_some.mp found)
    have few := coherent.few
    omega

/-- The popup with the least identifier goes. -/
theorem evicted_head (coherent : Coherent server) {request : NotifyRequest} (loud : server.dnd = false)
    (told : .notificationClosed id 1 ∈ (server.notify request).2) :
    ∃ popup, server.items.entries.head? = some (id, popup) := by
  obtain ⟨new, base, -, numbered, same, -⟩ := notify_eq coherent request
  rw [same, publish_shown (numbered.dnd.trans loud)] at told
  rcases List.mem_cons.mp told with impossible | evicted
  · cases impossible
  rcases evict_cases (base.prepared new request) with ⟨same', -⟩ | ⟨oldest, first, full, same'⟩
  · rw [same'] at evicted
    cases evicted
  · rw [same', closePopup_snd] at evicted
    split at evicted
    · cases List.mem_singleton.mp evicted
      refine ⟨oldest.2, ?_⟩
      rw [(prepared_full numbered.coherent full).1] at first
      rw [← numbered.items]
      exact first
    · cases evicted

theorem Aged.evictsOldest (coherent : Coherent server) (aged : Aged server) : EvictsOldest server := by
  intro request id loud told
  obtain ⟨popup, first⟩ := evicted_head coherent loud told
  have there := List.mem_of_mem_head? first
  refine ⟨popup, there, ?_⟩
  intro entry listed
  rcases (OrderedMap.head_least first entry listed).eq_or_lt with same | less
  · cases OrderedMap.entry_unique there listed same
    exact le_rfl
  · exact (aged _ there entry listed less).le

/-- A popup with a lesser identifier was shown later than another one. -/
def Inverted (server : NotificationServer) : Prop :=
  ∃ later ∈ server.items.entries, ∃ earlier ∈ server.items.entries, later.1 < earlier.1 ∧
    earlier.2.widget < later.2.widget

theorem evict_unchanged (server : NotificationServer) :
    server.evict.1.dnd = server.dnd ∧ server.evict.1.widgets = server.widgets := by
  rcases evict_cases server with ⟨same, -⟩ | ⟨oldest, -, -, same⟩
  · rw [same]
    exact ⟨rfl, rfl⟩
  · rw [same, closePopup_fst]
    exact (remove_unchanged server oldest.1).2

/-- Something is left that is not before a popup, even if this one makes room. -/
theorem evict_keeps {entry : Nat × Popup} (there : entry ∈ server.items.entries) :
    ∃ left ∈ server.evict.1.items.entries, entry.1 ≤ left.1 := by
  rcases evict_cases server with ⟨same, -⟩ | ⟨oldest, first, full, same⟩
  · rw [same]
    exact ⟨entry, there, le_rfl⟩
  · rw [same, closePopup_fst]
    by_cases goes : entry.1 = oldest.1
    · obtain ⟨rest, split⟩ := List.head?_eq_some_iff.mp first
      -- Three popups were shown, so another one is behind the first.
      obtain ⟨next, others, split'⟩ : ∃ next others, rest = next :: others := by
        cases rest with
        | nil =>
          rw [split] at full
          exact absurd full (Nat.not_le.mpr (Nat.lt_add_of_pos_right (Nat.succ_pos 1)))
        | cons next others => exact ⟨next, others, rfl⟩
      have ordered := server.items.ordered
      rw [split, split'] at ordered
      have less := (List.pairwise_cons.mp ordered).1 next List.mem_cons_self
      have listed : next ∈ server.items.entries := by
        rw [split, split']
        exact List.mem_cons_of_mem _ List.mem_cons_self
      exact ⟨next, mem_remove.mpr ⟨listed, less.ne'⟩, goes.trans_le less.le⟩
    · exact ⟨entry, mem_remove.mpr ⟨there, goes⟩, le_rfl⟩

/-- The popup of a call is the newest of all. -/
theorem publish_newest (coherent : Coherent server) (loud : server.dnd = false) :
    ∃ newest ∈ (server.publish id request).1.items.entries, newest.1 = id ∧
      ∀ entry ∈ (server.prepared id request).evict.1.items.entries,
        entry ∈ (server.publish id request).1.items.entries ∧ entry.1 ≠ id ∧ entry.2.widget < newest.2.widget := by
  have ready := (coherent.prepared id request).evict.1
  rw [publish_shown loud]
  refine ⟨_, mem_present.mpr (.inl rfl), rfl, ?_⟩
  intro entry there
  have apart := (mem_prepared.mp (mem_evict there)).2
  exact ⟨mem_present.mpr (.inr ⟨there, apart⟩), apart, ready.counted entry there⟩

theorem publish_loud (loud : server.dnd = false) : (server.publish id request).1.dnd = false := by
  rw [publish_shown loud]
  have first := (evict_unchanged (server.prepared id request)).1
  have second := (remove_unchanged server id).2.1
  exact first.trans (second.trans loud)

/-- A step that does not meet the condition leaves popups in the wrong order. -/
theorem inverted_of_not_steady (coherent : Coherent server) {input : NotificationInput}
    (unsteady : ¬server.Steady input) : Inverted (server.step input).1 ∧ (server.step input).1.dnd = false := by
  cases input with
  | notify request =>
    obtain ⟨quiet, order⟩ := not_or.mp unsteady
    have loud := Bool.eq_false_iff.mpr quiet
    obtain ⟨id, base, -, numbered, same, replaced, new⟩ := notify_eq coherent request
    -- The call gets an identifier below that of an older popup.
    have above : ∃ other, server.Live other ∧ id < other := by
      by_cases named : server.Replaces request
      · rw [if_pos named] at order
        push Not at order
        obtain ⟨other, live, less⟩ := order
        exact ⟨other, live, (replaced named).trans_lt less⟩
      · rw [if_neg named] at order
        obtain ⟨unused, rounds, found⟩ := new named
        rw [ahead_iff coherent found] at order
        push Not at order
        obtain ⟨other, live, upTo⟩ := order
        exact ⟨other, live, lt_of_le_of_ne upTo fun same => unused (same ▸ live)⟩
    obtain ⟨other, ⟨popup, there⟩, less⟩ := above
    show Inverted (server.notify request).1 ∧ (server.notify request).1.dnd = false
    rw [same]
    refine ⟨?_, publish_loud (numbered.dnd.trans loud)⟩
    obtain ⟨newest, listed, key, later⟩ := publish_newest numbered.coherent (numbered.dnd.trans loud)
    obtain ⟨left, stays, upTo⟩ := evict_keeps (mem_prepared.mpr ⟨numbered.items ▸ there, less.ne'⟩)
    obtain ⟨kept, -, older⟩ := later left stays
    exact ⟨newest, listed, left, kept, key ▸ less.trans_le upTo, older⟩
  | _ => exact absurd trivial unsteady

/-- The call that follows, which names no popup. -/
theorem notify_plain (coherent : Coherent server) (loud : server.dnd = false) :
    ∃ id base, Numbered server base ∧ server.notify {} = base.publish id {} ∧ base.dnd = false ∧
      (base.prepared id {}).items = server.items := by
  obtain ⟨id, base, -, numbered, same, -, new⟩ := notify_eq coherent {}
  obtain ⟨unused, -⟩ := new fun named => named.1 rfl
  refine ⟨id, base, numbered, same, numbered.dnd.trans loud, ?_⟩
  have absent : base.items.find id = none := by
    rw [numbered.items, ← Option.not_isSome_iff_eq_none, ← live_iff]
    exact unused
  unfold prepared
  rw [remove_none absent]
  exact numbered.items

/-- Where three popups are shown, the next call closes the first one. -/
theorem closes_head (coherent : Coherent server) (loud : server.dnd = false)
    (full : 3 ≤ server.items.entries.length) :
    ∃ oldest, server.items.entries.head? = some oldest ∧ .notificationClosed oldest.1 1 ∈ (server.notify {}).2 := by
  obtain ⟨id, base, -, same, loud', items⟩ := notify_plain coherent loud
  rw [same, publish_shown loud']
  rcases evict_cases (base.prepared id {}) with ⟨-, room⟩ | ⟨oldest, first, -, evicted⟩
  · rw [items] at room
    omega
  · refine ⟨oldest, items ▸ first, List.mem_cons_of_mem _ ?_⟩
    have listed : (oldest.1, oldest.2) ∈ (base.prepared id {}).items.entries := List.mem_of_mem_head? first
    rw [evicted, closePopup_snd, OrderedMap.find_eq_some.mpr listed]
    exact List.mem_singleton.mpr rfl

/-- The first popup of a full server is the oldest one, where the oldest one makes room. -/
theorem head_oldest (coherent : Coherent server) (loud : server.dnd = false)
    (full : 3 ≤ server.items.entries.length) (oldest : EvictsOldest server) :
    ∃ first, server.items.entries.head? = some first ∧ ∀ entry ∈ server.items.entries,
      first.1 ≤ entry.1 ∧ first.2.widget ≤ entry.2.widget := by
  obtain ⟨first, head, told⟩ := closes_head coherent loud full
  obtain ⟨popup, there, least⟩ := oldest {} first.1 loud told
  have same : popup = first.2 := OrderedMap.value_unique there (List.mem_of_mem_head? head)
  refine ⟨first, head, fun entry listed => ⟨OrderedMap.head_least head entry listed, ?_⟩⟩
  rw [← same]
  exact least entry listed

/-- From popups in the wrong order on, one of the next two popups that make room is not the oldest one. -/
theorem evictsYounger_of_inverted (coherent : Coherent server) (loud : server.dnd = false)
    (inverted : Inverted server) : ¬EvictsOldest server ∨ ¬EvictsOldest (server.notify {}).1 := by
  by_contra both
  obtain ⟨now, next⟩ := not_or.mp both
  rw [not_not] at now next
  obtain ⟨later, there, earlier, there', less, older⟩ := inverted
  obtain ⟨id, base, numbered, same, loud', items⟩ := notify_plain coherent loud
  have after : Coherent (server.notify {}).1 := coherent.step (.notify {})
  rw [same] at next after
  -- Neither of the two makes room for the call.
  have kept : ∀ entry, entry = later ∨ entry = earlier → entry ∈ (base.prepared id {}).evict.1.items.entries := by
    intro entry which
    have listed : entry ∈ (base.prepared id {}).items.entries := by
      rw [items]
      rcases which with rfl | rfl <;> assumption
    rcases evict_cases (base.prepared id {}) with ⟨same', -⟩ | ⟨oldest, first, full, same'⟩
    · rw [same']
      exact listed
    · rw [same', closePopup_fst]
      refine mem_remove.mpr ⟨listed, ?_⟩
      rw [items] at first full
      obtain ⟨head, begins, least⟩ := head_oldest coherent loud full now
      cases begins.symm.trans first
      have upTo := (least later there).1
      have aged := (least earlier there').2
      intro key
      rcases which with rfl | rfl
      · cases OrderedMap.entry_unique there (List.mem_of_mem_head? first) key
        exact absurd aged (Nat.not_le.mpr older)
      · omega
  obtain ⟨newest, listed, key, publishes⟩ := publish_newest numbered.coherent loud'
  obtain ⟨stays, apart, before⟩ := publishes later (kept later (.inl rfl))
  obtain ⟨stays', apart', before'⟩ := publishes earlier (kept earlier (.inr rfl))
  have differ : later ≠ earlier := fun same => absurd less (same ▸ lt_irrefl _)
  have differ' : later ≠ newest := fun same => apart (same ▸ key)
  have differ'' : earlier ≠ newest := fun same => apart' (same ▸ key)
  have length : ∀ entries : List (Nat × Popup), entries.Nodup →
      (∀ entry ∈ entries, entry ∈ (base.publish id {}).1.items.entries) →
        entries.length ≤ (base.publish id {}).1.items.entries.length :=
    fun entries distinct within => (distinct.subperm within).length_le
  have full : 3 ≤ (base.publish id {}).1.items.entries.length := by
    refine length [later, earlier, newest] (by simp [differ, differ', differ'']) ?_
    intro entry which
    simp only [List.mem_cons, List.not_mem_nil, or_false] at which
    rcases which with rfl | rfl | rfl <;> assumption
  -- The one that makes room next is a fourth one.
  obtain ⟨first, head, least⟩ := head_oldest after (publish_loud loud') full next
  have low := least later stays
  have high := least earlier stays'
  have apartLater : first ≠ later := by
    rintro rfl
    omega
  have apartEarlier : first ≠ earlier := by
    rintro rfl
    omega
  have apartNewest : first ≠ newest := by
    rintro rfl
    omega
  have many := length [first, later, earlier, newest]
    (by simp [differ, differ', differ'', apartLater, apartEarlier, apartNewest]) (by
      intro entry which
      simp only [List.mem_cons, List.not_mem_nil, or_false] at which
      rcases which with rfl | rfl | rfl | rfl
      · exact List.mem_of_mem_head? head
      all_goals assumption)
  have few := after.few
  simp only [List.length_cons, List.length_nil] at many
  omega

/-! ## Runs -/

def Initial (server : NotificationServer) : Prop := server = {}

/-- Popups, answers, signals and timers. -/
structure Lifecycle (history : List NotificationOutput) (server : NotificationServer) : Prop where
  few : server.items.entries.length ≤ 3
  answered : ∀ request, ∃ id, (server.notify request).2.filterMap returnedId = [id] ∧ id ≠ 0 ∧
    (server.Live id → request.replaces = id)
  told : ∀ id, Settled history server id
  /-- A timer that can expire is the one of the popup that is shown under its identifier. -/
  owned : ∀ timer ∈ server.timers, ∃ popup, (timer.id, popup) ∈ server.items.entries ∧ popup.widget = timer.widget ∧
    popup.timer = some timer.source
  fine : server.panicked = false

theorem coherent_initial : Coherent {} := by
  constructor
  case word => decide
  case few => decide
  case fine => rfl
  all_goals
    intro entry there
    cases there

theorem answered_once (coherent : Coherent server) (request : NotifyRequest) :
    ∃ id, (server.notify request).2.filterMap returnedId = [id] ∧ id ≠ 0 ∧
      (server.Live id → request.replaces = id) := by
  obtain ⟨id, base, positive, numbered, same, replaced, new⟩ := notify_eq coherent request
  refine ⟨id, ?_, positive, fun live => ?_⟩
  · rw [same]
    cases state : base.dnd with
    | true =>
      rw [publish_quiet state]
      rfl
    | false =>
      rw [publish_shown state, List.filterMap_cons_some (rfl : returnedId (.returned id) = some id)]
      rcases evict_cases (base.prepared id request) with ⟨evicted, -⟩ | ⟨oldest, -, -, evicted⟩
      · rw [evicted]
        rfl
      · rw [evicted, closePopup_snd]
        split <;> rfl
  · by_cases named : server.Replaces request
    · exact (replaced named).symm
    · exact absurd live (new named).1

theorem coherent_of_run {allowed : Transition.Condition NotificationServer NotificationInput NotificationOutput}
    (run : Transition.Run step allowed Initial history server) : Coherent server :=
  run.state_invariant
    (fun server begun => by
      rw [show server = {} from begun]
      exact coherent_initial)
    fun _ _ input _ coherent => coherent.step input

theorem settled_of_run (run : Transition.Run step Transition.unrestricted Initial history server) (id : Nat) :
    Settled history server id := by
  induction run generalizing id with
  | start begun =>
    cases begun
    refine ⟨?_, fun _ absent => absurd absent List.not_mem_nil, fun _ => rfl⟩
    rintro ⟨popup, impossible⟩
    cases impossible
  | step input before _ ih => exact Settled.step (coherent_of_run before) ih input id

theorem aged_of_run (run : Transition.Run step (fun _ => Steady) Initial history server) : Aged server := by
  induction run with
  | start begun =>
    cases begun
    intro entry there
    cases there
  | step input before steady ih => exact ih.step (coherent_of_run before) steady

/-- All but the choice of the popup that makes room holds in every run. That choice is right as long as the condition
is met, and wrong at once or one call after a step that does not meet it. -/
theorem notifications_lifecycle {history : List NotificationOutput} {server : NotificationServer}
    (run : Transition.Run step Transition.unrestricted Initial history server) :
    Lifecycle history server ∧ (Transition.Run step (fun _ => Steady) Initial history server → EvictsOldest server) ∧
      ∀ input, ¬server.Steady input →
        ¬EvictsOldest (server.step input).1 ∨ ¬EvictsOldest ((server.step input).1.step (.notify {})).1 := by
  have coherent := coherent_of_run run
  refine ⟨⟨coherent.few, answered_once coherent, settled_of_run run, coherent.owned, coherent.fine⟩, ?_, ?_⟩
  · intro steady
    exact (aged_of_run steady).evictsOldest (coherent_of_run steady)
  · intro input unsteady
    obtain ⟨inverted, loud⟩ := inverted_of_not_steady coherent unsteady
    exact evictsYounger_of_inverted (coherent.step input) loud inverted

/-- Three notifications, of which the first is replaced at last. -/
def replacedFirst : List NotificationInput :=
  [.notify {}, .notify {}, .notify {}, .notify { replaces := 1 }]

/-- The next call closes the newest popup. -/
theorem evicts_replacement : ¬∀ history server,
    Transition.Run step Transition.unrestricted Initial history server → EvictsOldest server := by
  intro right
  have start : Transition.Run step Transition.unrestricted Initial [] {} := .start rfl
  have run := start.execute replacedFirst (Transition.permits_unrestricted _ _ _ _)
  have told : .notificationClosed 1 1 ∈ ((Transition.execute step {} replacedFirst).1.notify {}).2 := by decide
  obtain ⟨popup, there, least⟩ := right _ _ run {} 1 rfl told
  have newest : popup.widget = 3 := by
    have listed : (1, popup) ∈ (Transition.execute step {} replacedFirst).1.items.entries := there
    have entry : (1, ⟨3, some 3⟩) ∈ (Transition.execute step {} replacedFirst).1.items.entries := by decide
    rw [OrderedMap.value_unique listed entry]
  have older := least (2, ⟨1, some 1⟩) (by decide)
  rw [newest] at older
  exact absurd older (by decide)

theorem steady_plain (coherent : Coherent server) (found : claim server.items rounds server.counter = some id)
    (above : ∀ entry ∈ server.items.entries, entry.1 < id) : server.Steady (.notify {}) := by
  refine .inr ?_
  rw [if_neg fun named => named.1 rfl, ahead_iff coherent found]
  rintro other ⟨popup, there⟩
  exact above _ there

/-- Three notifications. -/
def threeShown : List NotificationInput := [.notify {}, .notify {}, .notify {}]

theorem threeShown_steady : Transition.Permits step (fun _ => Steady) [] {} threeShown :=
  have first := coherent_initial.step (.notify {})
  have second := first.step (.notify {})
  ⟨steady_plain coherent_initial (rfl : claim _ 1 _ = some 1) (by decide),
    steady_plain first (rfl : claim _ 1 _ = some 2) (by decide),
    steady_plain second (rfl : claim _ 1 _ = some 3) (by decide), trivial⟩

theorem notifications_lifecycle_three : EvictsOldest (Transition.execute step {} threeShown).1 ∧
    ((Transition.execute step {} threeShown).1.notify {}).2 = [.returned 4, .notificationClosed 1 1] := by
  refine ⟨?_, by decide⟩
  have start : Transition.Run step (fun _ => Steady) Initial [] {} := .start rfl
  have steady := start.execute threeShown threeShown_steady
  rw [List.append_nil] at steady
  exact (notifications_lifecycle (steady.mono fun _ _ _ _ => trivial)).2.1 steady

end NotificationServer

end Luma.Shell
