import Luma.Shell.NativeNotifications

/-! The identity of notifications in the native shell.

Ids are given out in order, so that an id that is given is above all that are held, as long as applications
replace only what they were given. A configuration is valid from when it arrives, but the event that takes the
warning away is delivered after the events that were sent before it.
-/

set_option autoImplicit false

namespace Luma.Shell.Native

open Luma.Library

/-! ## The statement -/

/-- The id was given to the application. -/
def Given (history : List Observation) (application : String) (id : UInt32) : Prop :=
  ∃ held, .returned application 0 id held ∈ history

def Origin.isConfiguration : Origin → Bool
  | .configuration _ => true
  | .application _ => false

/-- The warning of a configuration error was shown and not dismissed, and no valid configuration has arrived since
the error. -/
def Warned (history : List Observation) (app : App) : Prop :=
  ∃ later earlier, history = later ++ .warned app.validated :: earlier ∧ .dismissed configErrorNotificationId ∉ later

def closedId : Observation → Option UInt32
  | .closed id _ => some id
  | _ => none

def removedId : Observation → Option UInt32
  | .removed id => some id
  | _ => none

structure Identified (history : List Observation) (app : App) : Prop where
  fresh : ∀ application id held, .returned application 0 id held ∈ history →
    id ≠ 0 ∧ id ≠ configErrorNotificationId ∧ id ∉ held
  own : ∀ old application, .replaced old (.application application) ∈ history → old = .application application
  warning : Warned history app → ∃ notification ∈ app.notifications,
    notification.id = configErrorNotificationId ∧ notification.origin.isConfiguration = true
  closed : (history.filterMap closedId).Perm (history.filterMap removedId)

/-- The ids are not used up, applications replace what they were given and leave the warning alone, and an event
that closes a notification finds it, one that dismisses it does not, and one that shows it finds room. -/
def Meets (history : List Observation) (app : App) : Input → Prop
  | .notify application replacesId _ _ _ _ =>
      if replacesId = 0 then app.nextId.toNat + 1 < configErrorNotificationId.toNat
      else Given history application replacesId
  | .closeNotification _ id => id ≠ configErrorNotificationId
  | .deliver =>
      match app.events with
      | .upsert notification :: _ => notification.id ∈ app.ids ∨ app.notifications.length < 100
      | .close id _ _ :: _ => id ∈ app.ids
      | .dismiss id :: _ => id ∉ app.ids
      | [] => True
  | _ => True

/-! ## The invariant -/

/-- An application shows what it was given, and the shell its warning. -/
def Proper (history : List Observation) (notification : Notification) : Prop :=
  match notification.origin with
  | .application application => Given history application notification.id
  | .configuration _ => notification.id = configErrorNotificationId ∧ notification.expiresAt = none

/-- Only a warning of an earlier error is taken away by the event. -/
def Orderly (history : List Observation) (app : App) : NotificationEvent → Prop
  | .upsert notification => Proper history notification ∧
      ∀ stretch, notification.origin = .configuration stretch → stretch ≤ app.validated
  | .close id _ (.application _) => id ≠ configErrorNotificationId
  | .close _ _ (.configuration stretch) => stretch ≤ app.validated ∧ ∀ shown, .warned shown ∈ history → shown < stretch
  | .dismiss _ => True

/-- A warning was sent before a configuration was valid. -/
def Before : NotificationEvent → NotificationEvent → Prop
  | .upsert notification, .close _ _ (.configuration stretch) =>
      ∀ earlier, notification.origin = .configuration earlier → earlier < stretch
  | _, _ => True

structure Kept (history : List Observation) (app : App) : Prop where
  identified : Identified history app
  counted : app.nextId.toNat < configErrorNotificationId.toNat
  given : ∀ application id, Given history application id → id ≠ 0 ∧ id.toNat ≤ app.nextId.toNat
  single : ∀ first second id, Given history first id → Given history second id → first = second
  distinct : app.ids.Nodup
  proper : ∀ notification ∈ app.notifications, Proper history notification
  orderly : ∀ event ∈ app.events, Orderly history app event
  ordered : app.events.Pairwise Before
  shown : ∀ stretch, .warned stretch ∈ history → stretch ≤ app.validated
  room : app.notifications.length ≤ 100

variable {history observed : List Observation} {app after : App} {notification : Notification}

/-! ## Histories -/

theorem Given.mono {application : String} {id : UInt32} (given : Given history application id)
    (observed : List Observation) : Given (observed ++ history) application id := by
  obtain ⟨held, there⟩ := given
  exact ⟨held, List.mem_append_right _ there⟩

theorem Proper.mono (proper : Proper history notification) (observed : List Observation) :
    Proper (observed ++ history) notification := by
  unfold Proper at proper ⊢
  split
  · rename_i same
    rw [same] at proper
    exact proper.mono observed
  · rename_i same
    rw [same] at proper
    exact proper

theorem Orderly.mono {event : NotificationEvent} (orderly : Orderly history app event)
    (valid : app.validated ≤ after.validated)
    (shown : ∀ id reason stretch, event = .close id reason (.configuration stretch) →
      ∀ earlier, .warned earlier ∈ observed → earlier < stretch) : Orderly (observed ++ history) after event := by
  unfold Orderly at orderly ⊢
  split
  · obtain ⟨proper, stretches⟩ := orderly
    exact ⟨proper.mono observed, fun stretch origin => Nat.le_trans (stretches stretch origin) valid⟩
  · exact orderly
  · refine ⟨Nat.le_trans orderly.1 valid, fun earlier there => ?_⟩
    rcases List.mem_append.mp there with new | old
    · exact shown _ _ _ rfl earlier new
    · exact orderly.2 earlier old
  · trivial

/-- What is observed tells of no call and no notification that is shown. -/
def Quiet (observed : List Observation) : Prop :=
  ∀ observation ∈ observed, match observation with
    | .returned _ _ _ _ | .replaced _ _ | .warned _ => False
    | _ => True

theorem Quiet.given {application : String} {id : UInt32} (quiet : Quiet observed)
    (given : Given (observed ++ history) application id) : Given history application id := by
  obtain ⟨held, there⟩ := given
  rcases List.mem_append.mp there with new | old
  · exact (quiet _ new).elim
  · exact ⟨held, old⟩

/-- A warning that was shown before is still called for. -/
theorem Warned.before (warned : Warned (observed ++ history) after) (unwarned : ∀ stretch, .warned stretch ∉ observed)
    (same : after.validated = app.validated) :
    Warned history app ∧ .dismissed configErrorNotificationId ∉ observed := by
  obtain ⟨later, earlier, whole, kept⟩ := warned
  rcases List.append_eq_append_iff.mp whole with ⟨middle, rfl, rest⟩ | ⟨middle, rfl, rest⟩
  · refine ⟨⟨middle, earlier, same ▸ rest, fun there => kept (List.mem_append_right _ there)⟩, ?_⟩
    exact fun there => kept (List.mem_append_left _ there)
  · cases middle with
    | nil =>
      rw [List.append_nil]
      exact ⟨⟨[], earlier, same ▸ rest.symm, List.not_mem_nil⟩, kept⟩
    | cons first middle =>
      rw [List.cons_append] at rest
      injection rest with same_ _
      subst same_
      exact absurd (List.mem_append_right _ List.mem_cons_self) (unwarned _)

/-! ## Removals -/

theorem gone_filter (distinct : app.ids.Nodup) (stays : Notification → Bool)
    (same : after.notifications = app.notifications.filter stays) :
    app.ids.filter (fun id => id ∉ after.ids) =
      (app.notifications.filter fun notification => !stays notification).map Notification.id := by
  unfold App.ids at distinct ⊢
  rw [List.filter_map]
  refine congrArg _ (List.filter_congr fun notification there => ?_)
  rw [same]
  cases kept : stays notification with
  | true =>
    have listed : notification.id ∈ (app.notifications.filter stays).map Notification.id :=
      List.mem_map_of_mem (List.mem_filter.mpr ⟨there, kept⟩)
    simpa [and_assoc] using listed
  | false =>
    have absent : notification.id ∉ (app.notifications.filter stays).map Notification.id := by
      intro listed
      obtain ⟨other, inside, same⟩ := List.mem_map.mp listed
      obtain ⟨inside, stays⟩ := List.mem_filter.mp inside
      rw [List.inj_on_of_nodup_map distinct inside there same, kept] at stays
      cases stays
    simpa using absent

theorem gone_removed (app after : App) :
    (app.gone after).filterMap removedId = app.ids.filter (fun id => id ∉ after.ids) := by
  unfold App.gone
  rw [List.filterMap_map]
  exact List.filterMap_some

theorem gone_closed (app after : App) : (app.gone after).filterMap closedId = [] := by
  unfold App.gone
  rw [List.filterMap_map]
  exact List.filterMap_eq_nil_iff.mpr fun _ _ => rfl

theorem gone_quiet (app after : App) : Quiet (app.gone after) := by
  intro observation there
  obtain ⟨id, -, rfl⟩ := List.mem_map.mp there
  trivial

/-- Notifications that go are closed, and nothing comes. -/
theorem Kept.shrink (kept : Kept history app) {signals : List Observation} {stays : Notification → Bool}
    (counter : after.nextId = app.nextId) (valid : after.validated = app.validated)
    (same : after.notifications = app.notifications.filter stays)
    (events : ∀ event ∈ after.events, event ∈ app.events ∨ ∃ id, event = .dismiss id)
    (ordered : after.events.Pairwise Before) (quiet : Quiet signals)
    (closed : (signals.filterMap closedId).Perm
      ((app.notifications.filter fun notification => !stays notification).map Notification.id))
    (signed : signals.filterMap removedId = [])
    (warning : Warned history app → .dismissed configErrorNotificationId ∉ signals →
      ∀ notification ∈ app.notifications, notification.id = configErrorNotificationId →
        notification.origin.isConfiguration = true → stays notification = true) :
    Kept (app.gone after ++ signals ++ history) after := by
  have quiet : Quiet (app.gone after ++ signals) := by
    intro observation there
    rcases List.mem_append.mp there with gone | signal
    · exact gone_quiet app after observation gone
    · exact quiet observation signal
  have unwarned : ∀ stretch, .warned stretch ∉ app.gone after ++ signals := fun stretch there => quiet _ there
  have shown : ∀ stretch, .warned stretch ∈ app.gone after ++ signals ++ history → .warned stretch ∈ history := by
    intro stretch there
    exact (List.mem_append.mp there).resolve_left (unwarned stretch)
  refine ⟨⟨?_, ?_, ?_, ?_⟩, ?_, ?_, ?_, ?_, ?_, ?_, ordered, ?_, ?_⟩
  · intro application id held there
    exact kept.identified.fresh application id held ((List.mem_append.mp there).resolve_left fun new => quiet _ new)
  · intro old application there
    exact kept.identified.own old application ((List.mem_append.mp there).resolve_left fun new => quiet _ new)
  · intro warned
    obtain ⟨warned, undismissed⟩ := warned.before unwarned valid
    obtain ⟨notification, there, id, origin⟩ := kept.identified.warning warned
    have undismissed : .dismissed configErrorNotificationId ∉ signals := fun signal =>
      undismissed (List.mem_append_right _ signal)
    refine ⟨notification, ?_, id, origin⟩
    rw [same]
    exact List.mem_filter.mpr ⟨there, warning warned undismissed notification there id origin⟩
  · simp only [List.filterMap_append, gone_closed, gone_removed, signed, List.nil_append, List.append_nil]
    rw [gone_filter kept.distinct stays same]
    exact closed.append kept.identified.closed
  · rw [counter]
    exact kept.counted
  · intro application id given
    rw [counter]
    exact kept.given application id (quiet.given given)
  · intro first second id given given'
    exact kept.single first second id (quiet.given given) (quiet.given given')
  · unfold App.ids
    rw [same]
    exact kept.distinct.sublist (List.filter_sublist.map _)
  · intro notification there
    rw [same] at there
    exact (kept.proper notification (List.mem_of_mem_filter there)).mono _
  · intro event there
    rcases events event there with old | ⟨id, rfl⟩
    · exact (kept.orderly event old).mono (Nat.le_of_eq valid.symm) fun _ _ _ _ stretch new => (quiet _ new).elim
    · trivial
  · intro stretch there
    rw [valid]
    exact kept.shown stretch (shown stretch there)
  · rw [same]
    exact Nat.le_trans (List.length_filter_le _ _) kept.room

/-! ## Sending -/

theorem gone_same (same : after.notifications = app.notifications) : app.gone after = [] := by
  unfold App.gone App.ids
  rw [same, List.map_eq_nil_iff, List.filter_eq_nil_iff]
  intro id there
  simpa using there

theorem filterMap_unclosed (unclosed : ∀ observation ∈ observed, closedId observation = none ∧
    removedId observation = none) : observed.filterMap closedId = [] ∧ observed.filterMap removedId = [] :=
  ⟨List.filterMap_eq_nil_iff.mpr fun observation there => (unclosed observation there).1,
    List.filterMap_eq_nil_iff.mpr fun observation there => (unclosed observation there).2⟩

/-- Events that are sent leave what is held as it is. -/
theorem Kept.sent (kept : Kept history app) {event : NotificationEvent} (same : after.notifications = app.notifications)
    (events : after.events = app.events ++ [event]) (valid : app.validated ≤ after.validated)
    (counter : app.nextId.toNat ≤ after.nextId.toNat) (counted : after.nextId.toNat < configErrorNotificationId.toNat)
    (calls : ∀ observation ∈ observed, ∃ application replacesId id held,
      observation = .returned application replacesId id held)
    (fresh : ∀ application id held, .returned application 0 id held ∈ observed →
      (id ≠ 0 ∧ id ≠ configErrorNotificationId ∧ id ∉ held) ∧
        app.nextId.toNat < id.toNat ∧ id.toNat ≤ after.nextId.toNat)
    (single : ∀ first second id, Given observed first id → Given observed second id → first = second)
    (orderly : Orderly (observed ++ history) after event) (last : ∀ earlier ∈ app.events, Before earlier event) :
    Kept (app.gone after ++ observed ++ history) after := by
  rw [gone_same same, List.nil_append]
  have unwarned : ∀ stretch, .warned stretch ∉ observed := by
    intro stretch there
    obtain ⟨application, replacesId, id, held, call⟩ := calls _ there
    cases call
  have shown : ∀ stretch, .warned stretch ∈ observed ++ history → .warned stretch ∈ history := by
    intro stretch there
    exact (List.mem_append.mp there).resolve_left (unwarned stretch)
  have unclosed : observed.filterMap closedId = [] ∧ observed.filterMap removedId = [] := by
    apply filterMap_unclosed
    intro observation there
    obtain ⟨application, replacesId, id, held, rfl⟩ := calls observation there
    exact ⟨rfl, rfl⟩
  -- An id that was given before is not given now.
  have above : ∀ application id, Given observed application id → app.nextId.toNat < id.toNat := by
    rintro application id ⟨held, there⟩
    exact (fresh application id held there).2.1
  have split : ∀ application id, Given (observed ++ history) application id →
      Given observed application id ∨ Given history application id := by
    rintro application id ⟨held, there⟩
    exact (List.mem_append.mp there).imp (fun new => ⟨held, new⟩) fun old => ⟨held, old⟩
  refine ⟨⟨?_, ?_, ?_, ?_⟩, counted, ?_, ?_, ?_, ?_, ?_, ?_, ?_, ?_⟩
  · intro application id held there
    rcases List.mem_append.mp there with new | old
    · exact (fresh application id held new).1
    · exact kept.identified.fresh application id held old
  · intro old application there
    rcases List.mem_append.mp there with new | before
    · obtain ⟨_, _, _, _, call⟩ := calls _ new
      cases call
    · exact kept.identified.own old application before
  · intro warned
    -- No warning was shown after a configuration that arrives now.
    have shows := warned
    obtain ⟨later, earlier, whole, -⟩ := shows
    have there : .warned after.validated ∈ observed ++ history := by
      rw [whole]
      exact List.mem_append_right _ List.mem_cons_self
    have valid := Nat.le_antisymm (kept.shown _ (shown _ there)) valid
    obtain ⟨warned, -⟩ := Warned.before warned unwarned valid
    rw [same]
    exact kept.identified.warning warned
  · simp only [List.filterMap_append, unclosed, List.nil_append]
    exact kept.identified.closed
  · intro application id given
    rcases split application id given with ⟨held, new⟩ | old
    · obtain ⟨⟨nonzero, -, -⟩, -, upTo⟩ := fresh application id held new
      exact ⟨nonzero, upTo⟩
    · obtain ⟨nonzero, upTo⟩ := kept.given application id old
      exact ⟨nonzero, Nat.le_trans upTo counter⟩
  · intro first second id given given'
    rcases split first id given with new | old
    · rcases split second id given' with new' | old'
      · exact single first second id new new'
      · exact absurd (above first id new) (Nat.not_lt.mpr (kept.given second id old').2)
    · rcases split second id given' with new' | old'
      · exact absurd (above second id new') (Nat.not_lt.mpr (kept.given first id old).2)
      · exact kept.single first second id old old'
  · unfold App.ids
    rw [same]
    exact kept.distinct
  · intro notification there
    rw [same] at there
    exact (kept.proper notification there).mono observed
  · intro sent there
    rw [events] at there
    rcases List.mem_append.mp there with old | new
    · exact (kept.orderly sent old).mono valid fun _ _ _ _ stretch new => absurd new (unwarned stretch)
    · rw [List.mem_singleton.mp new]
      exact orderly
  · rw [events, List.pairwise_append]
    refine ⟨kept.ordered, List.pairwise_singleton _ _, ?_⟩
    intro earlier there _ new
    rw [List.mem_singleton.mp new]
    exact last earlier there
  · intro stretch there
    exact Nat.le_trans (kept.shown stretch (shown stretch there)) valid
  · rw [same]
    exact kept.room

/-- An event that is sent without an answer. -/
theorem Kept.told (kept : Kept history app) {event : NotificationEvent} (same : after.notifications = app.notifications)
    (events : after.events = app.events ++ [event]) (valid : app.validated ≤ after.validated)
    (counter : after.nextId = app.nextId) (orderly : Orderly history after event)
    (last : ∀ earlier ∈ app.events, Before earlier event) : Kept (app.gone after ++ [] ++ history) after := by
  have upTo : app.nextId.toNat ≤ after.nextId.toNat := by rw [counter]
  have counted : after.nextId.toNat < configErrorNotificationId.toNat := by
    rw [counter]
    exact kept.counted
  refine kept.sent same events valid upTo counted ?_ ?_ ?_ orderly last
  · intro _ there
    cases there
  · intro _ _ _ there
    cases there
  · rintro _ _ _ ⟨_, there⟩
    cases there

/-! ## Delivery -/

/-- What an application was given is not the id of the warning. -/
theorem Kept.given_ne (kept : Kept history app) {application : String} {id : UInt32}
    (given : Given history application id) : id ≠ configErrorNotificationId := by
  rintro rfl
  exact absurd (kept.given application _ given).2 (Nat.not_le.mpr kept.counted)

theorem mem_warnings {origin : Origin} {observation : Observation} (there : observation ∈ App.warnings origin) :
    ∃ stretch, origin = .configuration stretch ∧ observation = .warned stretch := by
  cases origin with
  | application => cases there
  | configuration stretch => exact ⟨stretch, rfl, List.mem_singleton.mp there⟩

theorem put_eq (app : App) (room : notification.id ∈ app.ids ∨ app.notifications.length < 100)
    (full : app.notifications.length ≤ 100) :
    app.put notification = ({ app with notifications := upsert Notification.id notification app.notifications },
      App.warnings notification.origin ++ (app.notifications.filter fun existing => existing.id = notification.id).map
        fun existing => .replaced existing.origin notification.origin) := by
  have small : (upsert Notification.id notification app.notifications).length ≤ 100 := by
    rw [upsert.length]
    split
    · exact full
    · rename_i absent
      exact room.resolve_left absent
  rw [App.put, Nat.sub_eq_zero_of_le small]
  rfl

theorem gone_upsert (app : App) (events : List NotificationEvent) (notification : Notification) :
    app.gone { app with
      events
      notifications := upsert Notification.id notification app.notifications } = [] := by
  unfold App.gone App.ids
  rw [List.map_eq_nil_iff, List.filter_eq_nil_iff]
  intro id there
  have stays : id ∈ (upsert Notification.id notification app.notifications).map Notification.id :=
    upsert.mem_keys.mpr (.inr there)
  simpa using stays

/-- What is held under an id that an application was given is of that application. -/
theorem Kept.replaced_own (kept : Kept history app) {application : String} {existing : Notification}
    (own : Given history application notification.id) (inside : existing ∈ app.notifications)
    (id : existing.id = notification.id) : existing.origin = .application application := by
  have theirs := kept.proper existing inside
  cases from_ : existing.origin with
  | application other =>
    rw [Proper, from_] at theirs
    rw [kept.single other application notification.id (id ▸ theirs) own]
  | configuration stretch =>
    rw [Proper, from_] at theirs
    exact absurd (id.symm.trans theirs.1) (kept.given_ne own)

/-- A notification that is delivered takes a free place or that of its application. -/
theorem Kept.put (kept : Kept history app) {rest : List NotificationEvent}
    (events : app.events = .upsert notification :: rest)
    (room : notification.id ∈ app.ids ∨ app.notifications.length < 100) :
    Kept (app.gone (({ app with events := rest } : App).put notification).1 ++
      (({ app with events := rest } : App).put notification).2 ++ history)
      (({ app with events := rest } : App).put notification).1 := by
  have orderly : Orderly history app (.upsert notification) :=
    kept.orderly _ (events ▸ List.mem_cons_self)
  obtain ⟨proper, stretches⟩ := orderly
  have later := kept.ordered
  rw [events, List.pairwise_cons] at later
  obtain ⟨first, later⟩ := later
  rw [put_eq { app with events := rest } room kept.room]
  generalize made : App.warnings notification.origin ++
    (app.notifications.filter fun existing => existing.id = notification.id).map
      (fun existing => Observation.replaced existing.origin notification.origin) = observed
  -- What is observed is a warning, or the replacement of a notification with the id.
  have cases_ : ∀ observation ∈ observed, (∃ stretch, notification.origin = .configuration stretch ∧
      observation = .warned stretch) ∨ ∃ existing ∈ app.notifications, existing.id = notification.id ∧
        observation = .replaced existing.origin notification.origin := by
    intro observation there
    rw [← made] at there
    rcases List.mem_append.mp there with warning | replaced
    · exact .inl (mem_warnings warning)
    · obtain ⟨existing, inside, rfl⟩ := List.mem_map.mp replaced
      obtain ⟨inside, same⟩ := List.mem_filter.mp inside
      exact .inr ⟨existing, inside, of_decide_eq_true same, rfl⟩
  have unlisted : observed.filterMap closedId = [] ∧ observed.filterMap removedId = [] := by
    apply filterMap_unclosed
    intro observation there
    rcases cases_ observation there with ⟨_, -, rfl⟩ | ⟨_, -, -, rfl⟩ <;> exact ⟨rfl, rfl⟩
  have unreturned : ∀ application replacesId id held, .returned application replacesId id held ∉ observed := by
    intro _ _ _ _ there
    rcases cases_ _ there with ⟨_, -, same⟩ | ⟨_, -, -, same⟩ <;> cases same
  have given : ∀ application id, Given (observed ++ history) application id → Given history application id := by
    rintro application id ⟨held, there⟩
    exact ⟨held, (List.mem_append.mp there).resolve_left (unreturned _ _ _ _)⟩
  have warned : ∀ stretch, .warned stretch ∈ observed → notification.origin = .configuration stretch := by
    intro stretch there
    rcases cases_ _ there with ⟨_, origin, same⟩ | ⟨_, -, -, same⟩
    · cases same
      exact origin
    · cases same
  dsimp only
  rw [gone_upsert, List.nil_append]
  refine ⟨⟨?_, ?_, ?_, ?_⟩, kept.counted, ?_, ?_, ?_, ?_, ?_, later, ?_, ?_⟩
  · intro application id held there
    exact kept.identified.fresh application id held ((List.mem_append.mp there).resolve_left (unreturned _ _ _ _))
  · intro old application there
    rcases List.mem_append.mp there with new | before
    · rcases cases_ _ new with ⟨_, -, same⟩ | ⟨existing, inside, id, same⟩
      · cases same
      · injection same with origin origin'
        subst origin
        have own : Given history application notification.id := by
          rw [Proper, ← origin'] at proper
          exact proper
        exact kept.replaced_own own inside id
    · exact kept.identified.own old application before
  · intro warns
    cases from_ : notification.origin with
    | configuration stretch =>
      rw [Proper, from_] at proper
      exact ⟨notification, upsert.mem_self, proper.1, by rw [from_]; rfl⟩
    | application application =>
      rw [Proper, from_] at proper
      have unwarned : ∀ stretch, .warned stretch ∉ observed := by
        intro stretch there
        rw [warned stretch there] at from_
        cases from_
      have before : Warned history app := (Warned.before warns unwarned rfl).1
      obtain ⟨warning, there, id, origin⟩ := kept.identified.warning before
      have other : warning.id ≠ notification.id := fun same => kept.given_ne proper (same.symm.trans id)
      exact ⟨warning, upsert.mem_other there other, id, origin⟩
  · simp only [List.filterMap_append, unlisted, List.nil_append]
    exact kept.identified.closed
  · intro application id there
    exact kept.given application id (given application id there)
  · intro one two id there there'
    exact kept.single one two id (given one id there) (given two id there')
  · exact upsert.nodup kept.distinct
  · intro other there
    rcases upsert.mem_of_mem there with rfl | old
    · exact proper.mono observed
    · exact (kept.proper other old).mono observed
  · intro event there
    refine (kept.orderly event (events ▸ List.mem_cons_of_mem _ there)).mono (Nat.le_refl _) ?_
    rintro id reason stretch rfl earlier new
    exact first _ there earlier (warned earlier new)
  · intro stretch there
    rcases List.mem_append.mp there with new | old
    · exact stretches stretch (warned stretch new)
    · exact kept.shown stretch old
  · rw [upsert.length]
    split
    · exact kept.room
    · rename_i absent
      exact room.resolve_left absent

theorem removed_one (app : App) (distinct : app.ids.Nodup) (id : UInt32) :
    (app.notifications.filter fun notification => !decide (notification.id ≠ id)).map Notification.id =
      if id ∈ app.ids then [id] else [] := by
  have same : (app.notifications.filter fun notification => !decide (notification.id ≠ id)).map Notification.id =
      app.ids.filter fun other => other = id := by
    unfold App.ids
    rw [List.filter_map]
    refine congrArg _ (List.filter_congr fun notification _ => ?_)
    simp
  rw [same, List.filter_eq]
  split
  · rename_i there
    rw [List.count_eq_one_of_mem distinct there]
    rfl
  · rename_i absent
    rw [List.count_eq_zero_of_not_mem absent]
    rfl

/-- The event that comes first is taken, and what it closes goes. -/
theorem Kept.retain (kept : Kept history app) {rest : List NotificationEvent} {event : NotificationEvent}
    (events : app.events = event :: rest) {id : UInt32} {signals : List Observation} (quiet : Quiet signals)
    (closed : signals.filterMap closedId = if id ∈ app.ids then [id] else [])
    (signed : signals.filterMap removedId = [])
    (warning : Warned history app → id ∈ app.ids → id ≠ configErrorNotificationId) :
    Kept (app.gone (({ app with events := rest } : App).retain id) ++ signals ++ history)
      (({ app with events := rest } : App).retain id) := by
  have later := kept.ordered
  rw [events, List.pairwise_cons] at later
  refine kept.shrink rfl rfl rfl (fun event there => .inl (events ▸ List.mem_cons_of_mem _ there)) later.2 quiet ?_
    signed ?_
  · rw [removed_one app kept.distinct, closed]
  · intro warned _ notification there same _
    refine decide_eq_true fun own => ?_
    have held : id ∈ app.ids := own ▸ List.mem_map_of_mem there
    exact warning warned held (own.symm.trans same)

/-- What is delivered under the condition keeps the invariant. -/
theorem Kept.deliver (kept : Kept history app) (meets : Meets history app .deliver) :
    Kept (app.gone app.deliver.1 ++ app.deliver.2 ++ history) app.deliver.1 := by
  unfold App.deliver
  unfold Meets at meets
  cases events : app.events with
  | nil =>
    dsimp only
    rw [gone_same rfl]
    exact kept
  | cons event rest =>
    rw [events] at meets
    have orderly := kept.orderly event (events ▸ List.mem_cons_self)
    cases event with
    | upsert notification => exact kept.put events meets
    | close id reason origin =>
      have signal : Quiet [.closed id reason] := by
        intro observation there
        rw [List.mem_singleton.mp there]
        trivial
      refine kept.retain events signal (if_pos meets).symm rfl ?_
      intro warned _ own
      cases origin with
      | application => exact orderly own
      | configuration stretch =>
        obtain ⟨later, earlier, whole, -⟩ := warned
        have shown : .warned app.validated ∈ history := by
          rw [whole]
          exact List.mem_append_right _ List.mem_cons_self
        exact Nat.lt_irrefl _ (Nat.lt_of_lt_of_le (orderly.2 _ shown) orderly.1)
    | dismiss id =>
      have signal : Quiet [] := by
        intro _ none_
        cases none_
      exact kept.retain events signal (if_neg meets).symm rfl fun _ there => absurd there meets

/-! ## The other steps -/

theorem Kept.expire (kept : Kept history app) (now : Nat) :
    Kept (app.gone (app.expire now).1 ++ (app.expire now).2 ++ history) (app.expire now).1 := by
  refine kept.shrink rfl rfl rfl (fun event there => .inl there) kept.ordered ?_ ?_ ?_ ?_
  · intro observation there
    obtain ⟨notification, -, rfl⟩ := List.mem_map.mp there
    trivial
  · simp only [App.expire, List.filterMap_map, Bool.not_not]
    rw [show closedId ∘ (fun notification : Notification => Observation.closed notification.id 1) =
      some ∘ Notification.id from rfl, List.filterMap_eq_map]
  · simp only [App.expire, List.filterMap_map]
    exact List.filterMap_eq_nil_iff.mpr fun _ _ => rfl
  · intro _ _ notification there id origin
    have proper := kept.proper notification there
    cases from_ : notification.origin with
    | application => rw [from_] at origin; cases origin
    | configuration stretch =>
      rw [Proper, from_] at proper
      simp [App.expired, proper.2]

theorem closings_quiet (app : App) : Quiet app.closings := by
  intro observation there
  obtain ⟨notification, -, inside⟩ := List.mem_flatMap.mp there
  rcases List.mem_cons.mp inside with rfl | inside
  · trivial
  · rw [List.mem_singleton.mp inside]
    trivial

theorem closings_closed (app : App) : app.closings.filterMap closedId = app.ids ∧
    app.closings.filterMap removedId = [] ∧ ∀ id ∈ app.ids, .dismissed id ∈ app.closings := by
  unfold App.closings App.ids
  refine ⟨?_, ?_, ?_⟩
  · induction app.notifications with
    | nil => rfl
    | cons notification rest ih =>
      rw [List.flatMap_cons, List.filterMap_append, ih]
      rfl
  · induction app.notifications with
    | nil => rfl
    | cons notification rest ih =>
      rw [List.flatMap_cons, List.filterMap_append, ih]
      rfl
  · intro id there
    obtain ⟨notification, inside, rfl⟩ := List.mem_map.mp there
    exact List.mem_flatMap.mpr ⟨notification, inside, List.mem_cons_self⟩

/-- Everything is dismissed. -/
theorem Kept.empty (kept : Kept history app) (counter : after.nextId = app.nextId)
    (valid : after.validated = app.validated) (none_ : after.notifications = [])
    (events : ∀ event ∈ after.events, event ∈ app.events ∨ ∃ id, event = .dismiss id)
    (ordered : after.events.Pairwise Before) : Kept (app.gone after ++ app.closings ++ history) after := by
  obtain ⟨closed, signed, dismissed⟩ := closings_closed app
  have same : after.notifications = app.notifications.filter fun _ => false := by
    rw [none_, List.filter_false]
  refine kept.shrink counter valid same events ordered (closings_quiet app) ?_ signed ?_
  · rw [closed]
    simp [App.ids]
  · intro _ undismissed notification there id _
    exact absurd (dismissed _ (id ▸ List.mem_map_of_mem there)) undismissed

theorem before_dismiss (events : List NotificationEvent) (ordered : events.Pairwise Before) (ids : List UInt32) :
    (events ++ ids.map NotificationEvent.dismiss).Pairwise Before := by
  rw [List.pairwise_append]
  refine ⟨ordered, ?_, ?_⟩
  · rw [List.pairwise_map]
    exact List.pairwise_of_forall fun _ _ => trivial
  · intro event _ _ last
    obtain ⟨id, -, rfl⟩ := List.mem_map.mp last
    cases event <;> trivial

theorem Kept.dismissAll (kept : Kept history app) :
    Kept (app.gone app.dismissAll.1 ++ app.dismissAll.2 ++ history) app.dismissAll.1 := by
  have sent : app.dismissAll.1.events = app.events ++ app.ids.map NotificationEvent.dismiss := by
    simp [App.dismissAll, App.ids]
  refine kept.empty rfl rfl rfl ?_ ?_
  · intro event there
    rw [sent] at there
    rcases List.mem_append.mp there with old | new
    · exact .inl old
    · obtain ⟨id, -, rfl⟩ := List.mem_map.mp new
      exact .inr ⟨id, rfl⟩
  · rw [sent]
    exact before_dismiss _ kept.ordered _

theorem Kept.click (kept : Kept history app) (row : Nat) (action : Option String) :
    Kept (app.gone (app.click row action).1 ++ (app.click row action).2 ++ history) (app.click row action).1 := by
  unfold App.click
  split
  · rw [gone_same rfl]
    exact kept
  · rename_i notification found
    have there : notification ∈ app.notifications := List.mem_reverse.mp (List.mem_of_getElem? found)
    have listed : notification.id ∈ app.ids := List.mem_map_of_mem there
    have signals : ∀ observation ∈ [Observation.dismissed notification.id, .closed notification.id 2] ++
        (action.map (Observation.action notification.id)).toList, observation = .dismissed notification.id ∨
          observation = .closed notification.id 2 ∨ ∃ key, observation = .action notification.id key := by
      intro observation inside
      cases action with
      | none =>
        have either : observation = .dismissed notification.id ∨ observation = .closed notification.id 2 := by
          simpa using inside
        exact either.imp_right .inl
      | some key =>
        have either : observation = .dismissed notification.id ∨ observation = .closed notification.id 2 ∨
            observation = .action notification.id key := by simpa using inside
        exact either.imp_right fun rest => rest.imp_right fun same => ⟨key, same⟩
    refine kept.shrink rfl rfl rfl ?_ (before_dismiss _ kept.ordered [notification.id]) ?_ ?_ ?_ ?_
    · intro event inside
      rcases List.mem_append.mp inside with old | new
      · exact .inl old
      · exact .inr ⟨notification.id, List.mem_singleton.mp new⟩
    · intro observation inside
      rcases signals observation inside with rfl | rfl | ⟨key, rfl⟩ <;> trivial
    · rw [removed_one app kept.distinct, if_pos listed]
      cases action <;> exact List.Perm.refl _
    · cases action <;> rfl
    · intro _ undismissed other inside id _
      refine decide_eq_true fun own => undismissed ?_
      rw [← id, own]
      exact List.mem_cons_self

theorem following_toNat (app : App) (counted : app.nextId.toNat + 1 < configErrorNotificationId.toNat) :
    (app.nextId + 1).toNat = app.nextId.toNat + 1 ∧ app.followingId = app.nextId + 1 := by
  have small : app.nextId.toNat + 1 < 4294967295 := counted
  have next : (app.nextId + 1).toNat = app.nextId.toNat + 1 := by
    rw [UInt32.toNat_add]
    exact Nat.mod_eq_of_lt (by have one : (1 : UInt32).toNat = 1 := rfl; omega)
  refine ⟨next, ?_⟩
  show (if app.nextId + 1 ≤ 1 then 1 else app.nextId + 1) = app.nextId + 1
  split
  · rename_i least
    have one : (app.nextId + 1).toNat ≤ 1 := UInt32.le_iff_toNat_le.mp least
    exact UInt32.toNat_inj.mp (by rw [next] at one ⊢; exact (Nat.le_antisymm one (Nat.succ_pos _)).symm)
  · rfl

/-- An id that follows those that were given is held by nobody. -/
theorem Kept.fresh_id (kept : Kept history app) {id : UInt32} (above : app.nextId.toNat < id.toNat)
    (below : id ≠ configErrorNotificationId) : id ∉ app.heldIds := by
  have other : ∀ notification, Proper history notification → notification.id ≠ id := by
    intro notification proper same
    cases from_ : notification.origin with
    | application application =>
      rw [Proper, from_, same] at proper
      exact absurd (kept.given application id proper).2 (Nat.not_le.mpr above)
    | configuration stretch =>
      rw [Proper, from_, same] at proper
      exact below proper.1
  intro there
  rcases List.mem_append.mp there with held | sent
  · obtain ⟨notification, inside, same⟩ := List.mem_map.mp held
    exact other notification (kept.proper notification inside) same
  · obtain ⟨event, inside, same⟩ := List.mem_filterMap.mp sent
    have orderly := kept.orderly event inside
    cases event with
    | upsert notification => exact other notification orderly.1 (Option.some.inj same)
    | close | dismiss => cases same

theorem Kept.notify (kept : Kept history app) (application : String) (replacesId : UInt32) (summary body : String)
    (actions : List String) (now : Nat)
    (meets : Meets history app (.notify application replacesId summary body actions now)) :
    Kept (app.gone (app.notify application replacesId summary body actions now).1 ++
      (app.notify application replacesId summary body actions now).2 ++ history)
      (app.notify application replacesId summary body actions now).1 := by
  have calls : ∀ observation ∈ (app.notify application replacesId summary body actions now).2,
      ∃ application replacesId id held, observation = .returned application replacesId id held := by
    intro observation there
    exact ⟨_, _, _, _, List.mem_singleton.mp there⟩
  have last : ∀ earlier ∈ app.events, ∀ notification, Before earlier (.upsert notification) := by
    intro earlier _ _
    cases earlier <;> trivial
  unfold Meets at meets
  unfold App.notify at calls ⊢
  by_cases new : replacesId = 0
  · subst new
    simp only [if_true] at meets calls ⊢
    obtain ⟨next, id⟩ := following_toNat app meets
    have unreserved : app.nextId + 1 ≠ configErrorNotificationId := by
      intro same
      rw [← same, next] at meets
      exact Nat.lt_irrefl _ meets
    have above : app.nextId.toNat < (app.nextId + 1).toNat := next ▸ Nat.lt_succ_self _
    have nonzero : app.nextId + 1 ≠ 0 := by
      intro zero
      rw [zero] at above
      exact Nat.not_lt_zero _ above
    refine kept.sent rfl rfl (Nat.le_refl _) (Nat.le_of_lt above) (next ▸ meets) calls ?_ ?_ ?_ fun _ there =>
      last _ there _
    · intro _ _ _ there
      cases List.mem_singleton.mp there
      rw [id]
      exact ⟨⟨nonzero, unreserved, kept.fresh_id above unreserved⟩, above, Nat.le_refl _⟩
    · rintro _ _ _ ⟨_, there⟩ ⟨_, there'⟩
      cases List.mem_singleton.mp there
      cases List.mem_singleton.mp there'
      rfl
    · refine ⟨⟨_, List.mem_append_left _ (List.mem_singleton_self _)⟩, ?_⟩
      rintro _ ⟨⟩
  · simp only [new, if_false] at meets calls ⊢
    refine kept.sent rfl rfl (Nat.le_refl _) (Nat.le_refl _) kept.counted calls ?_ ?_ ?_ fun _ there => last _ there _
    · intro _ _ _ there
      cases List.mem_singleton.mp there
      exact absurd rfl new
    · rintro _ _ _ ⟨_, there⟩
      cases List.mem_singleton.mp there
      exact absurd rfl new
    · refine ⟨meets.mono _, ?_⟩
      rintro _ ⟨⟩

theorem Kept.closeNotification (kept : Kept history app) (application : String) {id : UInt32}
    (meets : id ≠ configErrorNotificationId) :
    Kept (app.gone (app.closeNotification application id) ++ [] ++ history) (app.closeNotification application id) := by
  refine kept.told rfl rfl (Nat.le_refl _) rfl meets ?_
  intro earlier _
  cases earlier <;> trivial

theorem Kept.snapshot (kept : Kept history app) (error : Option String) :
    Kept (app.gone (app.snapshot error) ++ [] ++ history) (app.snapshot error) := by
  unfold App.snapshot
  split
  · rw [gone_same rfl]
    exact kept
  · cases error with
    | some text =>
      refine kept.told rfl rfl (Nat.le_refl _) rfl ?_ ?_
      · refine ⟨⟨rfl, rfl⟩, ?_⟩
        rintro _ ⟨⟩
        exact Nat.le_refl _
      · intro earlier _
        cases earlier <;> trivial
    | none =>
      refine kept.told rfl rfl (Nat.le_succ _) rfl ?_ ?_
      · exact ⟨Nat.le_refl _, fun earlier there => Nat.lt_succ_of_le (kept.shown earlier there)⟩
      · intro earlier there
        cases earlier with
        | upsert notification =>
          intro stretch origin
          exact Nat.lt_succ_of_le ((kept.orderly _ there).2 stretch origin)
        | close | dismiss => trivial

theorem Kept.step (kept : Kept history app) (input : Input) (meets : Meets history app input) :
    Kept ((app.step input).2 ++ history) (app.step input).1 := by
  cases input with
  | notify application replacesId summary body actions now => exact kept.notify _ _ _ _ _ _ meets
  | closeNotification application id => exact kept.closeNotification application meets
  | snapshot error => exact kept.snapshot error
  | deliver => exact kept.deliver meets
  | expire now => exact kept.expire now
  | click row action => exact kept.click row action
  | dismissAll => exact kept.dismissAll
  | clear => exact kept.empty rfl rfl rfl (fun event there => .inl there) kept.ordered

/-! ## Runs -/

theorem Kept.start : Kept [] {} := by
  refine ⟨⟨?_, ?_, ?_, List.Perm.refl _⟩, ?_, ?_, ?_, List.nodup_nil, ?_, ?_, List.Pairwise.nil, ?_, ?_⟩
  · intro _ _ _ there
    cases there
  · intro _ _ there
    cases there
  · rintro ⟨later, earlier, whole, -⟩
    exact absurd whole (by simp)
  · decide
  · rintro _ _ ⟨_, there⟩
    cases there
  · rintro _ _ _ ⟨_, there⟩
    cases there
  · intro _ there
    cases there
  · intro _ there
    cases there
  · intro _ there
    cases there
  · decide

/-- A run under the condition keeps notifications apart, shows the warning as long as it is due, and closes what
it removes. -/
theorem run_identified (run : Transition.Run App.step Meets (· = {}) history app) : Identified history app := by
  have kept : Kept history app := by
    induction run with
    | start begun => exact begun ▸ .start
    | step input _ meets ih => exact ih.step input meets
  exact kept.identified

def gives (application : String) (id : UInt32) : Observation → Bool
  | .returned caller replacesId given _ => caller = application ∧ replacesId = 0 ∧ given = id
  | _ => false

instance (history : List Observation) (application : String) (id : UInt32) : Decidable (Given history application id) :=
  decidable_of_iff (history.any (gives application id) = true) (by
    rw [List.any_eq_true]
    constructor
    · rintro ⟨observation, there, same⟩
      cases observation with
      | returned caller replacesId given held =>
        obtain ⟨rfl, rfl, rfl⟩ := of_decide_eq_true same
        exact ⟨held, there⟩
      | replaced | warned | dismissed | removed | action | closed => cases same
    · rintro ⟨held, there⟩
      exact ⟨_, there, decide_eq_true ⟨rfl, rfl, rfl⟩⟩)

instance (history : List Observation) (app : App) : ∀ input, Decidable (Meets history app input)
  | .notify _ replacesId _ _ _ _ => inferInstanceAs (Decidable (if replacesId = 0 then _ else _))
  | .closeNotification _ _ => inferInstanceAs (Decidable (_ ≠ _))
  | .deliver =>
      match events : app.events with
      | .upsert notification :: _ =>
          decidable_of_iff (notification.id ∈ app.ids ∨ app.notifications.length < 100) (by simp only [Meets, events])
      | .close id _ _ :: _ => decidable_of_iff (id ∈ app.ids) (by simp only [Meets, events])
      | .dismiss id :: _ => decidable_of_iff (id ∉ app.ids) (by simp only [Meets, events])
      | [] => .isTrue (by simp only [Meets, events])
  | .snapshot _ | .expire _ | .click _ _ | .dismissAll | .clear => .isTrue trivial

/-- A notification is replaced, and a configuration error outlives all others. -/
def replacedAndWarned : List Input :=
  [.notify "mail" 0 "One" "" [] 0, .deliver, .notify "chat" 0 "Two" "" [] 0, .deliver, .snapshot (some "error"),
    .notify "mail" 1 "Three" "" [] 1000, .deliver, .deliver, .closeNotification "chat" 2, .deliver, .expire 7000]

theorem replacedAndWarned_identified :
    (Transition.execute App.step {} replacedAndWarned).1.ids = [configErrorNotificationId] ∧
      Identified (Transition.execute App.step {} replacedAndWarned).2
        (Transition.execute App.step {} replacedAndWarned).1 := by
  have permits : Transition.Permits App.step Meets [] {} replacedAndWarned := by decide +kernel
  have run : Transition.Run App.step Meets (· = {}) _ _ := .execute replacedAndWarned (.start rfl) permits
  rw [List.append_nil] at run
  exact ⟨by decide +kernel, run_identified run⟩

/-- An application names an id ahead of the counter, which then comes to it. -/
theorem named_ahead : ¬∀ history app,
    Transition.Run App.step Transition.unrestricted (· = {}) history app → Identified history app := by
  intro identified
  let inputs : List Input := [.notify "mail" 0 "" "" [] 0, .deliver, .notify "chat" 2 "" "" [] 0, .deliver,
    .notify "mail" 0 "" "" [] 0]
  have run : Transition.Run App.step Transition.unrestricted (· = {}) _ _ :=
    .execute inputs (.start rfl) (Transition.permits_unrestricted _ _ _ _)
  have given : .returned "mail" 0 2 [1, 2] ∈ (Transition.execute App.step {} inputs).2 ++ [] := by decide +kernel
  exact absurd ((identified _ _ run).fresh _ _ _ given).2.2 (by decide)

end Luma.Shell.Native
