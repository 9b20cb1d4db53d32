import Luma.Shell.NativeTray

/-! Tray items under races of their threads.

What the shell holds once it has every event is what is on the list, but for items whose removal is still to be
sent. A step of a thread may break this only where it sends an event or takes an item off the list.
-/

set_option autoImplicit false

namespace Luma.Shell.NativeTray

open Luma.Library

variable {Image : Type}

/-! ## The statement -/

/-- The shell's list once every event on the way is delivered. -/
def delivered (app : App Image) : List (TrayItem Image) := app.events.foldl App.handle app.tray

def Phase.isSending : Phase Image → Bool
  | .sending => true
  | _ => false

/-- A thread has taken the item off the list and has not told the shell. -/
def Unsent (app : App Image) (id : String) : Prop :=
  ∃ (index : Nat) (monitor : Monitor Image), app.monitors[index]? = some monitor ∧
    monitor.phase.isSending = true ∧ monitor.registration.id = id

/-- Registered, and the owner of the service did not change since. -/
def Registered (registration : Registration) : List Observation → Prop
  | [] => False
  | observation :: earlier =>
      observation = .called registration ∨ observation ≠ .changed registration.service ∧ Registered registration earlier

/-- The connection that registered the item still has the service. -/
abbrev Lives (app : App Image) (registration : Registration) : Prop :=
  registration.owner ≠ none ∧ app.owners registration.service = registration.owner

/-- The shell shows the item, and it is of the owner that registered it. -/
structure Held (tray : List (TrayItem Image)) (entry : Registration) : Prop where
  shown : entry.id ∈ tray.map TrayItem.id
  owned : ∀ item ∈ tray, item.id = entry.id → item.owner = entry.owner

structure Tracked (history : List Observation) (app : App Image) : Prop where
  gone : ∀ id, id ∉ app.ids → ¬Unsent app id → id ∉ (delivered app).map TrayItem.id
  held : ∀ entry ∈ app.items, Held (delivered app) entry
  lasting : ∀ registration, registration.owner ≠ none → Registered registration history → registration ∈ app.items
  own : ∀ monitor entry, .unlisted monitor entry ∈ history → monitor.owner = entry.owner

/-- A thread takes only its owner's item off the list, once the owner is gone, and tells the shell before the item
is listed again. What it has loaded is sent while its owner's item is listed or the removal is still to be sent. -/
def MonitorMeets (app : App Image) (monitor : Monitor Image) : Prop :=
  match monitor.phase with
  | .removing => ∀ entry ∈ app.items, entry.id = monitor.registration.id →
      monitor.registration.owner = entry.owner ∧ ¬Lives app entry
  | .sending => monitor.registration.id ∉ app.ids
  | .loaded _ =>
      (∃ entry ∈ app.items, entry.id = monitor.registration.id ∧ entry.owner = monitor.registration.owner) ∨
        monitor.registration.id ∉ app.ids ∧ Unsent app monitor.registration.id
  | _ => True

/-- A living owner's item is registered while no other item is listed under its id. -/
def Meets (app : App Image) : Input Image → Prop
  | .register value sender _ => ∀ registration ∈ app.registration value sender,
      Lives app registration → ∀ entry ∈ app.items, entry.id = registration.id → entry = registration
  | .monitor index _ => ∀ monitor ∈ app.monitors[index]?, MonitorMeets app monitor
  | _ => True

structure Kept (history : List Observation) (app : App Image) : Prop where
  tracked : Tracked history app
  living : ∀ registration, Registered registration history → app.owners registration.service = registration.owner
  listed : app.ids.Nodup
  distinct : ((delivered app).map TrayItem.id).Nodup

variable {history observed : List Observation} {app after : App Image} {id : String}

/-! ## Histories -/

theorem Registered.changed {registration : Registration} {service : String}
    (registered : Registered registration (.changed service :: history)) :
    service ≠ registration.service ∧ Registered registration history := by
  rcases registered with called | ⟨other, before⟩
  · cases called
  · exact ⟨fun same => other (same ▸ rfl), before⟩

theorem Registered.unlisted {registration monitor entry : Registration}
    (registered : Registered registration (.unlisted monitor entry :: history)) : Registered registration history := by
  rcases registered with called | ⟨-, before⟩
  · cases called
  · exact before

theorem Registered.called {registration other : Registration}
    (registered : Registered registration (.called other :: history)) :
    registration = other ∨ Registered registration history := by
  rcases registered with called | ⟨-, before⟩
  · cases called
    exact .inl rfl
  · exact .inr before

theorem Tracked.observe (tracked : Tracked history app) {observation : Observation}
    (other : ∀ monitor entry, observation ≠ .unlisted monitor entry)
    (monitor entry : Registration) (observed : .unlisted monitor entry ∈ observation :: history) :
    monitor.owner = entry.owner := by
  rcases List.mem_cons.mp observed with new | old
  · exact absurd new.symm (other monitor entry)
  · exact tracked.own monitor entry old

/-! ## Threads -/

/-- A step of a thread leaves what other threads have to send. -/
theorem Unsent.set (unsent : Unsent app id) {index : Nat} {monitor next : Monitor Image}
    (here : app.monitors[index]? = some monitor) (same : after.monitors = app.monitors.set index next)
    (other : monitor.phase.isSending = true → monitor.registration.id ≠ id) : Unsent after id := by
  obtain ⟨place, sender, there, sending, own⟩ := unsent
  have apart : index ≠ place := by
    rintro rfl
    rw [here] at there
    cases there
    exact other sending own
  refine ⟨place, sender, ?_, sending, own⟩
  rw [same, List.getElem?_set_ne apart]
  exact there

theorem hear_same (monitor : Monitor Image) (signal : String × String × String) :
    (monitor.hear signal).phase = monitor.phase ∧ (monitor.hear signal).registration = monitor.registration := by
  unfold Monitor.hear
  split <;> exact ⟨rfl, rfl⟩

/-! ## Steps that change no list -/

theorem Kept.quiet (kept : Kept history app) (owners : after.owners = app.owners) (items : after.items = app.items)
    (same : delivered after = delivered app) (unsent : ∀ id, Unsent app id → Unsent after id) :
    Kept history after := by
  have ids : after.ids = app.ids := by rw [App.ids, items, App.ids]
  constructor
  · constructor
    · intro id unlisted sent
      rw [ids] at unlisted
      rw [same]
      exact kept.tracked.gone id unlisted fun there => sent (unsent id there)
    · rw [items, same]
      exact kept.tracked.held
    · rw [items]
      exact kept.tracked.lasting
    · exact kept.tracked.own
  · rw [owners]
    exact kept.living
  · rw [ids]
    exact kept.listed
  · rw [same]
    exact kept.distinct

theorem Kept.deliver (kept : Kept history app) : Kept history app.deliver := by
  unfold App.deliver
  split
  · exact kept
  · rename_i event events queued
    have same : delivered { app with events, tray := App.handle app.tray event } = delivered app := by
      rw [delivered, delivered, queued, List.foldl_cons]
    exact kept.quiet rfl rfl same fun _ unsent => unsent

theorem Kept.changeOwner (kept : Kept history app) (service : String) (owner : Option String) :
    Kept (.changed service :: history) (app.changeOwner service owner) := by
  have unsent : ∀ id, Unsent app id → Unsent (app.changeOwner service owner) id := by
    rintro id ⟨index, monitor, there, sending, own⟩
    obtain ⟨phase, registration⟩ := hear_same monitor (service, (app.owners service).getD "", owner.getD "")
    refine ⟨index, monitor.hear (service, (app.owners service).getD "", owner.getD ""), ?_, ?_, ?_⟩
    · simp [App.changeOwner, there]
    · rw [phase]
      exact sending
    · rw [registration]
      exact own
  constructor
  · constructor
    · intro id unlisted sent
      exact kept.tracked.gone id unlisted fun there => sent (unsent id there)
    · exact kept.tracked.held
    · intro registration owned registered
      exact kept.tracked.lasting registration owned registered.changed.2
    · exact kept.tracked.observe fun _ _ same => by cases same
  · intro registration registered
    obtain ⟨other, before⟩ := registered.changed
    have still : (app.changeOwner service owner).owners registration.service = app.owners registration.service :=
      Function.update_of_ne (Ne.symm other) _ _
    rw [still]
    exact kept.living registration before
  · exact kept.listed
  · exact kept.distinct

theorem Kept.advance (kept : Kept history app) {index : Nat} {monitor next : Monitor Image}
    (here : app.monitors[index]? = some monitor) (idle : monitor.phase.isSending = false) :
    Kept history { app with monitors := app.monitors.set index next } := by
  refine kept.quiet rfl rfl rfl fun id unsent => unsent.set here rfl fun sending => ?_
  rw [idle] at sending
  cases sending

/-! ## Events -/

theorem delivered_append (app : App Image) (owners : String → Option String) (items : List Registration)
    (monitors : List (Monitor Image)) (event : TrayEvent Image) :
    delivered { app with owners, items, monitors, events := app.events ++ [event] } =
      App.handle (delivered app) event := by
  rw [delivered, delivered, List.foldl_append]
  rfl

theorem Held.upsert {tray : List (TrayItem Image)} {entry : Registration} (held : Held tray entry)
    (distinct : (tray.map TrayItem.id).Nodup) {new : TrayItem Image}
    (owner : new.id = entry.id → new.owner = entry.owner) : Held (upsert TrayItem.id new tray) entry := by
  constructor
  · exact upsert.mem_keys.mpr (.inr held.shown)
  · intro item there own
    by_cases taken : item.id = new.id
    · rw [upsert.eq_of_key distinct there taken]
      exact owner (taken.symm.trans own)
    · refine held.owned item ((upsert.mem_of_mem there).resolve_left fun same => taken ?_) own
      rw [same]

theorem held_new {tray : List (TrayItem Image)} (distinct : (tray.map TrayItem.id).Nodup) (registration : Registration)
    (content : Content Image) : Held (upsert TrayItem.id (trayItem registration content) tray) registration := by
  constructor
  · exact upsert.mem_keys.mpr (.inl rfl)
  · intro item there own
    rw [upsert.eq_of_key distinct there own]
    rfl

theorem Held.remove {tray : List (TrayItem Image)} {entry : Registration} (held : Held tray entry) {id : String}
    (other : entry.id ≠ id) : Held (tray.filter fun item => item.id ≠ id) entry := by
  constructor
  · obtain ⟨item, there, own⟩ := List.mem_map.mp held.shown
    have stays : item.id ≠ id := own ▸ other
    exact List.mem_map.mpr ⟨item, List.mem_filter.mpr ⟨there, decide_eq_true stays⟩, own⟩
  · exact fun item there => held.owned item (List.mem_of_mem_filter there)

/-- What has been loaded is sent. -/
theorem Kept.sendItem (kept : Kept history app) {index : Nat} {monitor : Monitor Image} (content : Content Image)
    (here : app.monitors[index]? = some monitor) (idle : monitor.phase.isSending = false)
    (meets : (∃ entry ∈ app.items, entry.id = monitor.registration.id ∧ entry.owner = monitor.registration.owner) ∨
      monitor.registration.id ∉ app.ids ∧ Unsent app monitor.registration.id) :
    Kept history { app.setPhase index monitor .waiting with
      events := app.events ++ [.upsert (trayItem monitor.registration content)] } := by
  have same : delivered { app.setPhase index monitor .waiting with
      events := app.events ++ [.upsert (trayItem monitor.registration content)] } =
        upsert TrayItem.id (trayItem monitor.registration content) (delivered app) := delivered_append ..
  have unsent : ∀ id, Unsent app id → Unsent { app.setPhase index monitor .waiting with
      events := app.events ++ [.upsert (trayItem monitor.registration content)] } id := by
    intro id unsent
    refine unsent.set here rfl fun sending => ?_
    rw [idle] at sending
    cases sending
  refine ⟨⟨?_, ?_, kept.tracked.lasting, kept.tracked.own⟩, kept.living, kept.listed, ?_⟩
  · intro id unlisted sent there
    rw [same, upsert.mem_keys] at there
    rcases there with rfl | old
    · rcases meets with ⟨entry, listed, own, -⟩ | ⟨-, waits⟩
      · exact unlisted (List.mem_map.mpr ⟨entry, listed, own⟩)
      · exact sent (unsent _ waits)
    · exact kept.tracked.gone id unlisted (fun waits => sent (unsent id waits)) old
  · intro entry listed
    rw [same]
    refine (kept.tracked.held entry listed).upsert kept.distinct fun own => ?_
    rcases meets with ⟨other, there, same', owner⟩ | ⟨unlisted, -⟩
    · have one : other = entry := List.inj_on_of_nodup_map kept.listed there listed (same'.trans own)
      exact (one ▸ owner).symm
    · exact absurd (List.mem_map.mpr ⟨entry, listed, own.symm⟩) unlisted
  · rw [same]
    exact upsert.nodup kept.distinct

/-- The shell is told of a removal. -/
theorem Kept.sendRemove (kept : Kept history app) {index : Nat} {monitor : Monitor Image}
    (here : app.monitors[index]? = some monitor) (meets : monitor.registration.id ∉ app.ids) :
    Kept history { app.setPhase index monitor .done with
      events := app.events ++ [.remove monitor.registration.id] } := by
  have same : delivered { app.setPhase index monitor .done with
      events := app.events ++ [.remove monitor.registration.id] } =
        (delivered app).filter fun item => item.id ≠ monitor.registration.id := delivered_append ..
  refine ⟨⟨?_, ?_, kept.tracked.lasting, kept.tracked.own⟩, kept.living, kept.listed, ?_⟩
  · intro id unlisted sent there
    rw [same] at there
    obtain ⟨item, inside, rfl⟩ := List.mem_map.mp there
    obtain ⟨inside, other⟩ := List.mem_filter.mp inside
    refine kept.tracked.gone item.id unlisted (fun waits => sent ?_) (List.mem_map_of_mem inside)
    exact waits.set here rfl fun _ own => of_decide_eq_true other own.symm
  · intro entry listed
    rw [same]
    refine (kept.tracked.held entry listed).remove fun taken => meets ?_
    exact List.mem_map.mpr ⟨entry, listed, taken⟩
  · rw [same]
    exact kept.distinct.sublist (List.filter_sublist.map _)

/-! ## The list -/

theorem mem_eraseP {items : List Registration} (listed : (items.map Registration.id).Nodup) (id : String)
    (entry : Registration) : entry ∈ items.eraseP (fun entry => entry.id = id) ↔ entry ∈ items ∧ entry.id ≠ id := by
  induction items with
  | nil => simp
  | cons first rest ih =>
    rw [List.map_cons, List.nodup_cons] at listed
    by_cases taken : first.id = id
    · rw [List.eraseP_cons_of_pos (by simpa using taken), List.mem_cons]
      constructor
      · intro later
        exact ⟨.inr later, fun own => listed.1 (List.mem_map.mpr ⟨entry, later, own.trans taken.symm⟩)⟩
      · rintro ⟨rfl | later, other⟩
        · exact absurd taken other
        · exact later
    · rw [List.eraseP_cons_of_neg (by simpa using taken), List.mem_cons, List.mem_cons, ih listed.2]
      constructor
      · rintro (rfl | later)
        · exact ⟨.inl rfl, taken⟩
        · exact ⟨.inr later.1, later.2⟩
      · rintro ⟨first | later, other⟩
        · exact .inl first
        · exact .inr ⟨later, other⟩

/-- A thread takes its owner's item off the list. -/
theorem Kept.unlist (kept : Kept history app) {index : Nat} {monitor : Monitor Image}
    (here : app.monitors[index]? = some monitor) (idle : monitor.phase.isSending = false)
    (meets : ∀ entry ∈ app.items, entry.id = monitor.registration.id →
      monitor.registration.owner = entry.owner ∧ ¬Lives app entry) :
    Kept ((app.unlist index monitor).2 ++ history) (app.unlist index monitor).1 := by
  unfold App.unlist
  cases found : app.items.find? fun entry => entry.id = monitor.registration.id with
  | none => exact kept.advance here idle
  | some entry =>
    have there := List.mem_of_find?_eq_some found
    have own : entry.id = monitor.registration.id := by simpa using List.find?_some found
    obtain ⟨owner, dead⟩ := meets entry there own
    have left : ∀ other, other ∈ app.items.eraseP (fun entry => entry.id = monitor.registration.id) ↔
        other ∈ app.items ∧ other.id ≠ monitor.registration.id := mem_eraseP kept.listed _
    refine ⟨⟨?_, ?_, ?_, ?_⟩, ?_, ?_, kept.distinct⟩
    · intro id unlisted sent
      by_cases taken : id = monitor.registration.id
      · have short : index < app.monitors.length := (List.getElem?_eq_some_iff.mp here).1
        exact absurd ⟨index, _, List.getElem?_set_self short, rfl, taken.symm⟩ sent
      · refine kept.tracked.gone id (fun listed => unlisted ?_) fun waits => sent ?_
        · obtain ⟨other, inside, rfl⟩ := List.mem_map.mp listed
          exact List.mem_map.mpr ⟨other, (left other).mpr ⟨inside, taken⟩, rfl⟩
        · refine waits.set here rfl fun sending => ?_
          rw [idle] at sending
          cases sending
    · exact fun other listed => kept.tracked.held other ((left other).mp listed).1
    · intro registration owned registered
      have before := registered.unlisted
      have listed := kept.tracked.lasting registration owned before
      refine (left registration).mpr ⟨listed, fun same => dead ?_⟩
      -- The one entry with that id is the registered one, and its owner is there.
      have one : registration = entry := List.inj_on_of_nodup_map kept.listed listed there (same.trans own.symm)
      exact one ▸ ⟨owned, kept.living registration before⟩
    · intro by_ taken observed
      rcases List.mem_cons.mp observed with new | old
      · cases new
        exact owner
      · exact kept.tracked.own by_ taken old
    · exact fun registration registered => kept.living registration registered.unlisted
    · exact kept.listed.sublist (List.eraseP_sublist.map _)

theorem registration_owner {value : String} {sender : Option String} {registration : Registration}
    (made : app.registration value sender = some registration) :
    app.owners registration.service = registration.owner := by
  obtain ⟨⟨service, path⟩, -, rfl⟩ := Option.map_eq_some_iff.mp made
  rfl

theorem Kept.called (kept : Kept history app) {registration : Registration}
    (owner : app.owners registration.service = registration.owner)
    (listed : registration.owner ≠ none → registration ∈ app.items) : Kept (.called registration :: history) app := by
  refine ⟨⟨kept.tracked.gone, kept.tracked.held, ?_, ?_⟩, ?_, kept.listed, kept.distinct⟩
  · intro other owned registered
    rcases registered.called with rfl | before
    · exact listed owned
    · exact kept.tracked.lasting other owned before
  · exact kept.tracked.observe fun _ _ same => by cases same
  · intro other registered
    rcases registered.called with rfl | before
    · exact owner
    · exact kept.living other before

/-- An item is listed and loaded. -/
theorem Kept.list (kept : Kept history app) (registration : Registration) (content : Content Image)
    (fresh : registration.id ∉ app.ids) :
    Kept history { app with
      items := app.items ++ [registration]
      events := app.events ++ [.upsert (trayItem registration content)]
      monitors := app.monitors ++ [{ job := .owner, registration }, { job := .signals, registration }] } := by
  have same : delivered { app with
      items := app.items ++ [registration]
      events := app.events ++ [.upsert (trayItem registration content)]
      monitors := app.monitors ++ [{ job := .owner, registration }, { job := .signals, registration }] } =
        upsert TrayItem.id (trayItem registration content) (delivered app) := delivered_append ..
  refine ⟨⟨?_, ?_, ?_, kept.tracked.own⟩, kept.living, ?_, ?_⟩
  · intro id unlisted sent there
    rw [App.ids, List.map_append, List.mem_append, not_or] at unlisted
    rw [same, upsert.mem_keys] at there
    rcases there with rfl | old
    · exact unlisted.2 List.mem_cons_self
    · refine kept.tracked.gone id unlisted.1 (fun waits => sent ?_) old
      obtain ⟨index, monitor, here, sending, own⟩ := waits
      have short : index < app.monitors.length := (List.getElem?_eq_some_iff.mp here).1
      exact ⟨index, monitor, (List.getElem?_append_left short).trans here, sending, own⟩
  · intro entry listed
    rw [same]
    rcases List.mem_append.mp listed with old | new
    · refine (kept.tracked.held entry old).upsert kept.distinct fun taken => absurd ?_ fresh
      exact List.mem_map.mpr ⟨entry, old, taken.symm⟩
    · cases List.mem_singleton.mp new
      exact held_new kept.distinct registration content
  · exact fun other owned registered => List.mem_append_left _ (kept.tracked.lasting other owned registered)
  · rw [App.ids, List.map_append, List.map_singleton, List.nodup_append]
    refine ⟨kept.listed, List.nodup_singleton _, ?_⟩
    rintro _ before _ last rfl
    exact fresh (List.mem_singleton.mp last ▸ before)
  · rw [same]
    exact upsert.nodup kept.distinct

theorem Kept.register (kept : Kept history app) (value : String) (sender : Option String) (content : Content Image)
    (meets : Meets app (.register value sender content)) :
    Kept ((app.register value sender content).2 ++ history) (app.register value sender content).1 := by
  unfold App.register
  cases made : app.registration value sender with
  | none => exact kept
  | some registration =>
    have owner := registration_owner made
    dsimp only
    split
    · rename_i known
      refine kept.called owner fun owned => ?_
      obtain ⟨entry, listed, own⟩ := List.mem_map.mp known
      exact meets registration made ⟨owned, owner⟩ entry listed own ▸ listed
    · rename_i fresh
      exact (kept.list registration content fresh).called owner fun _ => List.mem_append_right _ List.mem_cons_self

/-! ## Steps -/

theorem Kept.monitorStep (kept : Kept history app) (index : Nat) (happening : Happening Image)
    (meets : Meets app (.monitor index happening)) :
    Kept ((app.monitorStep index happening).2 ++ history) (app.monitorStep index happening).1 := by
  unfold App.monitorStep
  cases here : app.monitors[index]? with
  | none => exact kept
  | some monitor =>
    have meets := meets monitor here
    unfold MonitorMeets at meets
    cases phase : monitor.phase with
    | removing =>
      simp only [phase] at meets ⊢
      exact kept.unlist here (by rw [phase]; rfl) meets
    | sending =>
      simp only [phase] at meets ⊢
      exact kept.sendRemove here meets
    | loaded content =>
      simp only [phase] at meets ⊢
      exact kept.sendItem content here (by rw [phase]; rfl) meets
    | _ => simp only [phase]; exact kept.advance here (by rw [phase]; rfl)

theorem Kept.step (kept : Kept history app) (input : Input Image) (meets : Meets app input) :
    Kept ((app.step input).2 ++ history) (app.step input).1 := by
  cases input with
  | changeOwner service owner => exact kept.changeOwner service owner
  | register value sender content => exact kept.register value sender content meets
  | monitor index happening => exact kept.monitorStep index happening meets
  | deliver => exact kept.deliver

theorem Kept.start : Kept [] ({} : App Image) := by
  constructor
  · constructor
    · intro id _ _ there
      cases there
    · intro entry listed
      cases listed
    · intro registration _ registered
      cases registered
    · intro monitor entry observed
      cases observed
  · intro registration registered
    cases registered
  · exact List.nodup_nil
  · exact List.nodup_nil

/-- Items are neither lost nor resurrected in any order of steps that meet the condition. -/
theorem run_tracked (run : Transition.Run App.step (fun _ => Meets) (· = ({} : App Image)) history app) :
    Tracked history app := by
  have kept : Kept history app := by
    refine run.invariant ?_ ?_
    · rintro _ rfl
      exact Kept.start
    · exact fun _ _ input _ meets kept => kept.step input meets
  exact kept.tracked

instance (app : App Image) (id : String) : Decidable (Unsent app id) :=
  decidable_of_iff (∃ monitor ∈ app.monitors, monitor.phase.isSending = true ∧ monitor.registration.id = id) (by
    constructor
    · rintro ⟨monitor, there, sends⟩
      obtain ⟨index, here⟩ := List.mem_iff_getElem?.mp there
      exact ⟨index, monitor, here, sends⟩
    · rintro ⟨index, monitor, here, sends⟩
      exact ⟨monitor, List.mem_of_getElem? here, sends⟩)

instance (app : App Image) : ∀ monitor, Decidable (MonitorMeets app monitor)
  | ⟨_, _, .removing, _⟩ => inferInstanceAs (Decidable (∀ entry ∈ app.items, _))
  | ⟨_, _, .sending, _⟩ => inferInstanceAs (Decidable (_ ∉ _))
  | ⟨_, _, .loaded _, _⟩ => inferInstanceAs (Decidable (_ ∨ _))
  | ⟨_, _, .starting, _⟩ | ⟨_, _, .subscribed, _⟩ | ⟨_, _, .queried _, _⟩ | ⟨_, _, .watching _, _⟩
  | ⟨_, _, .waiting, _⟩ | ⟨_, _, .loading, _⟩ | ⟨_, _, .done, _⟩ => .isTrue trivial

instance (app : App Image) : ∀ input, Decidable (Meets app input)
  | .register value sender _ => inferInstanceAs (Decidable (∀ registration ∈ app.registration value sender, _))
  | .monitor index _ => inferInstanceAs (Decidable (∀ monitor ∈ app.monitors[index]?, _))
  | .changeOwner _ _ | .deliver => .isTrue trivial

/-- An application registers an item, changes its icon and leaves. -/
def leaving : List (Input Unit) :=
  [.changeOwner ":1.5" (some ":1.5"),
    .register "/item" (some ":1.5") { icon := none, visible := true, menuPath := none },
    .monitor 0 (.proceed true), .monitor 0 (.proceed true), .monitor 0 (.proceed true), .monitor 1 (.proceed true),
    .monitor 1 (.signal (some "NewIcon")),
    .monitor 1 (.load { icon := some (), visible := true, menuPath := none }), .monitor 1 (.proceed true),
    .changeOwner ":1.5" none, .monitor 0 (.proceed true), .monitor 0 (.proceed true), .monitor 0 (.proceed true),
    .deliver, .deliver, .deliver]

theorem leaving_tracked :
    (Transition.execute App.step {} leaving).1.ids = [] ∧
      Tracked (Transition.execute App.step {} leaving).2 (Transition.execute App.step {} leaving).1 := by
  have permits : Transition.Permits App.step (fun _ => Meets) [] {} leaving := by decide +kernel
  have run : Transition.Run App.step (fun _ => Meets) (· = {}) _ _ := .execute leaving (.start rfl) permits
  rw [List.append_nil] at run
  exact ⟨by decide +kernel, run_tracked run⟩

/-- What was loaded before the owner left is sent after the removal. -/
theorem sent_after : ¬∀ history (app : App Unit),
    Transition.Run App.step Transition.unrestricted (· = {}) history app → Tracked history app := by
  intro tracked
  let content : Content Unit := { icon := none, visible := true, menuPath := none }
  let inputs : List (Input Unit) :=
    [.changeOwner ":1.5" (some ":1.5"), .register "/item" (some ":1.5") content, .monitor 0 (.proceed true),
      .monitor 0 (.proceed true), .monitor 0 (.proceed true), .monitor 1 (.proceed true),
      .monitor 1 (.signal (some "NewIcon")), .monitor 1 (.load content), .changeOwner ":1.5" none,
      .monitor 0 (.proceed true), .monitor 0 (.proceed true), .monitor 0 (.proceed true), .monitor 1 (.proceed true)]
  have run : Transition.Run App.step Transition.unrestricted (· = {}) _ _ :=
    .execute inputs (.start rfl) (Transition.permits_unrestricted _ _ _ _)
  have unlisted : ":1.5/item" ∉ (Transition.execute App.step {} inputs).1.ids := by decide +kernel
  have sent : ¬Unsent (Transition.execute App.step {} inputs).1 ":1.5/item" := by decide +kernel
  have shown : ":1.5/item" ∈ (delivered (Transition.execute App.step {} inputs).1).map TrayItem.id := by decide +kernel
  exact (tracked _ _ run).gone _ unlisted sent shown

end Luma.Shell.NativeTray
