import Luma.Shell.TrayMenu
import Mathlib.Data.List.Nodup
import Mathlib.Data.List.Perm.Basic

/-! What a tray menu shows, whatever the order of signals, replies, clicks and closings.

A load of the current opening keeps the content insensitive, so the page on top stays the one
it reads until its rows are shown. A signal during a load is remembered in `again`.
-/

set_option autoImplicit false

namespace Luma.Shell

open Luma.Library

/-- The layout is still to be asked for. -/
def Stage.asks : Stage → Prop
  | .spawned _ | .announcing | .readingTheme => True
  | .readingLayout | .decoding _ => False

namespace Menu

variable {menu : Menu} {history : List MenuObservation}

/-! ## The tasks -/

/-- At most one task of each opening is there, and the menu is busy while its own one is. -/
structure Tasks (menu : Menu) : Prop where
  distinct : (menu.loads.map Load.generation).Nodup
  past : ∀ load ∈ menu.loads, load.generation ≤ menu.generation
  busy : menu.busy = true ↔ ∃ load ∈ menu.loads, load.generation = menu.generation
  opened : menu.busy = true → menu.visible = true ∧ menu.proxy.isSome = true ∧ menu.sensitive = false
  again : menu.again = true → menu.busy = true

/-- A widget that takes a click leads to a stack within the bounds. -/
def Widget.Fits (parents : List Int) : Widget → Prop
  | .back => 1 < parents.length
  | .separator => True
  | .row _ submenu sensitive => submenu = true → sensitive = true → parents.length < 16

structure Coherent (menu : Menu) : Prop extends Tasks menu where
  current : ∀ load ∈ menu.loads, load.generation = menu.generation → load.parent = menu.top
  once : menu.parents.Nodup
  depth : 1 ≤ menu.parents.length ∧ menu.parents.length ≤ 16
  shown : ∀ page widgets, menu.content = .page page widgets → menu.visible = true → menu.busy = false →
    menu.proxy.isSome = true ∧ page = menu.top ∧ ∀ widget ∈ widgets, Widget.Fits menu.parents widget

/-- A load that will ask for the layout is under way or will follow. -/
def Pending (menu : Menu) : Prop :=
  menu.again = true ∨ ∃ load ∈ menu.loads, load.generation = menu.generation ∧ load.stage.asks

theorem idle_tasks (tasks : Tasks menu) (idle : menu.busy = false) :
    ∀ load ∈ menu.loads, load.generation ≠ menu.generation := by
  intro load there same
  have busy := tasks.busy.mpr ⟨load, there, same⟩
  rw [idle] at busy
  cases busy

/-- The menu with a new task. -/
def begin (menu : Menu) (proxy : MenuProxy) (announce : Bool) : Menu := { menu with
  busy := true
  sensitive := false
  loads := menu.loads ++ [⟨menu.generation, proxy, menu.top, .spawned announce⟩] }

theorem load_begins (visible : menu.visible = true) (idle : menu.busy = false) {proxy : MenuProxy}
    (connected : menu.proxy = some proxy) (announce : Bool) : menu.load announce = menu.begin proxy announce := by
  simp [load, begin, visible, idle, connected]

theorem begin_coherent (tasks : Tasks menu) (visible : menu.visible = true) (idle : menu.busy = false)
    {proxy : MenuProxy} (connected : menu.proxy = some proxy) (once : menu.parents.Nodup)
    (depth : 1 ≤ menu.parents.length ∧ menu.parents.length ≤ 16) (announce : Bool) :
    Coherent (menu.begin proxy announce) where
  distinct := by
    have fresh := idle_tasks tasks idle
    show (List.map Load.generation (menu.loads ++ _)).Nodup
    rw [List.map_append]
    apply List.Nodup.append tasks.distinct (List.nodup_singleton _)
    intro generation old new
    obtain ⟨load, there, rfl⟩ := List.mem_map.mp old
    exact fresh load there (List.mem_singleton.mp new)
  past := by
    intro load there
    rcases List.mem_append.mp there with old | new
    · exact tasks.past load old
    · cases List.mem_singleton.mp new
      exact Nat.le_refl _
  busy := by
    constructor
    · intro _
      exact ⟨_, List.mem_append_right _ List.mem_cons_self, rfl⟩
    · exact fun _ => rfl
  opened := by
    intro _
    exact ⟨visible, by simp [begin, connected], rfl⟩
  again := fun _ => rfl
  current := by
    intro load there same
    rcases List.mem_append.mp there with old | new
    · exact absurd same (idle_tasks tasks idle load old)
    · cases List.mem_singleton.mp new
      rfl
  once := once
  depth := depth
  shown := by
    intro page widgets _ _ free
    cases free

theorem load_coherent (coherent : Coherent menu) (announce : Bool) : Coherent (menu.load announce) := by
  cases visible : menu.visible with
  | false =>
    rw [load, visible]
    exact coherent
  | true =>
    cases busy : menu.busy with
    | true =>
      have same : menu.load announce = { menu with again := true } := by simp [load, visible, busy]
      rw [same]
      exact { coherent with
        opened := coherent.opened
        again := fun _ => busy
        current := coherent.current
        shown := coherent.shown }
    | false =>
      cases connected : menu.proxy with
      | none =>
        have same : menu.load announce = menu := by simp [load, visible, busy, connected]
        rw [same]
        exact coherent
      | some proxy =>
        rw [load_begins visible busy connected]
        exact begin_coherent coherent.toTasks visible busy connected coherent.once coherent.depth announce

theorem load_generation (menu : Menu) (announce : Bool) : (menu.load announce).generation = menu.generation := by
  unfold load
  repeat' split
  all_goals rfl

theorem load_keeps (pending : Pending menu) (announce : Bool) : Pending (menu.load announce) := by
  unfold load
  split
  · exact pending
  · split
    · exact .inl rfl
    · split
      · exact pending
      · rcases pending with again | ⟨load, there, same, asks⟩
        · exact .inl again
        · exact .inr ⟨load, List.mem_append_left _ there, same, asks⟩

theorem load_pending (visible : menu.visible = true) (connected : menu.proxy.isSome = true) (announce : Bool) :
    Pending (menu.load announce) := by
  obtain ⟨proxy, connected⟩ := Option.isSome_iff_exists.mp connected
  cases busy : menu.busy with
  | true =>
    left
    simp [load, visible, busy]
  | false =>
    rw [load_begins visible busy connected]
    exact .inr ⟨_, List.mem_append_right _ List.mem_cons_self, rfl, trivial⟩

theorem popdown_coherent (coherent : Coherent menu) : Coherent menu.popdown := by
  unfold popdown
  split
  · exact {
      distinct := coherent.distinct
      past := fun load there => Nat.le_succ_of_le (coherent.past load there)
      busy := by
        constructor
        · intro busy
          cases busy
        · rintro ⟨load, there, same⟩
          have past := coherent.past load there
          change load.generation = menu.generation + 1 at same
          omega
      opened := fun busy => by cases busy
      again := fun again => by cases again
      current := by
        intro load there same
        have past := coherent.past load there
        change load.generation = menu.generation + 1 at same
        omega
      once := coherent.once
      depth := coherent.depth
      shown := fun _ _ _ visible => by cases visible }
  · exact coherent

/-! ## One task goes on -/

section Advance

variable {index : Nat} {load : Load}

theorem set_coherent (coherent : Coherent menu) (there : menu.loads[index]? = some load) (stage : Stage) :
    Coherent { menu with loads := menu.loads.set index { load with stage } } := by
  obtain ⟨inside, rfl⟩ := List.getElem?_eq_some_iff.mp there
  have generations : (menu.loads.set index { menu.loads[index] with stage }).map Load.generation =
      menu.loads.map Load.generation := by
    rw [List.map_set]
    apply List.ext_getElem?
    intro position
    rw [List.getElem?_set]
    split
    · rename_i here
      subst here
      simp [inside]
    · rfl
  have old {other : Load} (among : other ∈ menu.loads.set index { menu.loads[index] with stage }) :
      ∃ same ∈ menu.loads, same.generation = other.generation ∧ same.parent = other.parent := by
    rcases List.mem_or_eq_of_mem_set among with kept | rfl
    · exact ⟨other, kept, rfl, rfl⟩
    · exact ⟨_, List.getElem_mem inside, rfl, rfl⟩
  exact {
    distinct := by
      rw [generations]
      exact coherent.distinct
    past := by
      intro other among
      obtain ⟨same, there, generation, -⟩ := old among
      exact generation ▸ coherent.past same there
    busy := by
      rw [coherent.busy]
      have mentions (loads : List Load) : (∃ load ∈ loads, load.generation = menu.generation) ↔
          menu.generation ∈ loads.map Load.generation := by simp
      rw [mentions, mentions, generations]
    opened := coherent.opened
    again := coherent.again
    current := by
      intro other among current
      obtain ⟨same, there, generation, parent⟩ := old among
      exact parent ▸ coherent.current same there (generation.trans current)
    once := coherent.once
    depth := coherent.depth
    shown := coherent.shown }

theorem erased (coherent : Coherent menu) (there : menu.loads[index]? = some load) {other : Load}
    (among : other ∈ menu.loads.eraseIdx index) : other ∈ menu.loads ∧ other.generation ≠ load.generation := by
  obtain ⟨inside, rfl⟩ := List.getElem?_eq_some_iff.mp there
  obtain ⟨position, within, different, rfl⟩ := List.mem_eraseIdx_iff_getElem.mp among
  refine ⟨List.getElem_mem within, fun same => different ?_⟩
  have distinct := coherent.distinct
  rw [List.nodup_iff_injective_getElem] at distinct
  have places := @distinct ⟨position, by simpa using within⟩ ⟨index, by simpa using inside⟩ (by simpa using same)
  exact congrArg Fin.val places

theorem stale_coherent (coherent : Coherent menu) (there : menu.loads[index]? = some load)
    (stale : load.generation ≠ menu.generation) : Coherent { menu with loads := menu.loads.eraseIdx index } where
  distinct := coherent.distinct.sublist ((List.eraseIdx_sublist _ _).map _)
  past := fun other among => coherent.past other (erased coherent there among).1
  busy := by
    rw [coherent.busy]
    constructor
    · rintro ⟨other, among, current⟩
      refine ⟨other, ?_, current⟩
      obtain ⟨position, within, rfl⟩ := List.getElem_of_mem among
      refine List.mem_eraseIdx_iff_getElem.mpr ⟨position, within, ?_, rfl⟩
      rintro rfl
      obtain ⟨inside, here⟩ := List.getElem?_eq_some_iff.mp there
      exact stale (here ▸ current)
    · rintro ⟨other, among, current⟩
      exact ⟨other, (erased coherent there among).1, current⟩
  opened := coherent.opened
  again := coherent.again
  current := fun other among => coherent.current other (erased coherent there among).1
  once := coherent.once
  depth := coherent.depth
  shown := coherent.shown

/-- The rows that are shown fit the stack they are shown under. -/
theorem pageContent_fits {parents : List Int} {page parent : Int} {rows : List Child} {widgets : List Widget}
    (content : pageContent parents.length page rows = .page parent widgets) :
    parent = page ∧ ∀ widget ∈ widgets, Widget.Fits parents widget := by
  unfold pageContent at content
  dsimp only at content
  by_cases empty : (if parents.length > 1 then [Widget.back] else []) ++ rows.filterMap (Child.widget parents.length) = []
  · rw [if_pos empty] at content
    cases content
  · rw [if_neg empty] at content
    injection content with same rest
    refine ⟨same.symm, fun widget there => ?_⟩
    rw [← rest] at there
    rcases List.mem_append.mp there with back | row
    · split at back
      · rename_i deep
        cases List.mem_singleton.mp back
        exact deep
      · cases back
    · obtain ⟨child, -, made⟩ := List.mem_filterMap.mp row
      unfold Child.widget at made
      split at made
      · cases made
      · split at made
        · cases made
          trivial
        · cases made
          intro submenu sensitive
          simp only [submenu, Bool.not_true, Bool.false_or, Bool.and_eq_true, decide_eq_true_eq] at sensitive
          exact sensitive.2

/-- What is shown at the end of a load. -/
def outcome (menu : Menu) (load : Load) : Option (List Child) → Content
  | some rows => pageContent menu.parents.length load.parent rows
  | none => .message "Menu unavailable"

/-- The menu between the end of a load and the next one. -/
def settled (menu : Menu) (content : Content) : Menu :=
  { menu with busy := false, sensitive := true, again := false, content }

theorem finish_eq (menu : Menu) (load : Load) (rows : Option (List Child)) : (menu.finish load rows).1 =
    if menu.again then (menu.settled (menu.outcome load rows)).load false else menu.settled (menu.outcome load rows) := by
  cases again : menu.again with
  | true => cases rows <;> simp only [finish, settled, outcome, render, again, if_true]
  | false => cases rows <;> simp only [finish, settled, outcome, render, again, Bool.false_eq_true, if_false]

/-- A task of the current opening is over: what it read is shown, and a load follows if one was asked for. -/
theorem finish_coherent (coherent : Coherent menu) (there : menu.loads[index]? = some load)
    (current : load.generation = menu.generation) (rows : Option (List Child)) :
    Coherent (finish { menu with loads := menu.loads.eraseIdx index } load rows).1 := by
  have busy := coherent.busy.mpr ⟨load, List.mem_of_getElem? there, current⟩
  obtain ⟨visible, connected, -⟩ := coherent.opened busy
  have parent := coherent.current load (List.mem_of_getElem? there) current
  set ended : Menu := { menu with loads := menu.loads.eraseIdx index } with ending
  have others : ∀ other ∈ ended.loads, other.generation ≠ menu.generation :=
    fun other among same => (erased coherent there among).2 (same.trans current.symm)
  have idle : Coherent (ended.settled (ended.outcome load rows)) := {
    distinct := coherent.distinct.sublist ((List.eraseIdx_sublist _ _).map _)
    past := fun other among => coherent.past other (erased coherent there among).1
    busy := by
      constructor
      · intro busy
        cases busy
      · rintro ⟨other, among, same⟩
        exact absurd same (others other among)
    opened := fun busy => by cases busy
    again := fun again => by cases again
    current := fun other among same => absurd same (others other among)
    once := coherent.once
    depth := coherent.depth
    shown := by
      intro page widgets content _ _
      cases rows with
      | none => cases content
      | some rows =>
        obtain ⟨rfl, fits⟩ := pageContent_fits content
        exact ⟨connected, parent, fits⟩ }
  rw [finish_eq]
  split
  · exact load_coherent idle false
  · exact idle

theorem advance_coherent (coherent : Coherent menu) (there : menu.loads[index]? = some load)
    (layout : Option LayoutReply) : Coherent (menu.advance index load layout).1 := by
  have goesOn := set_coherent coherent there
  have ends := stale_coherent coherent there
  unfold advance
  dsimp only
  cases load.stage with
  | spawned announce =>
    cases announce with
    | true => exact goesOn _
    | false =>
      dsimp only
      split
      · rename_i stale
        exact ends stale
      · exact goesOn _
  | announcing | readingTheme =>
    dsimp only
    split
    · rename_i stale
      exact ends stale
    · exact goesOn _
  | readingLayout =>
    dsimp only
    split
    · rename_i stale
      exact ends stale
    · rename_i current
      split
      · exact finish_coherent coherent there (not_not.mp current) _
      · split
        · exact goesOn _
        · exact finish_coherent coherent there (not_not.mp current) _
  | decoding rows =>
    dsimp only
    split
    · rename_i stale
      exact ends stale
    · rename_i current
      exact finish_coherent coherent there (not_not.mp current) _

end Advance

/-! ## The other events -/

theorem show_coherent (coherent : Coherent menu) (path owner : Option String) :
    Coherent (menu.show path owner) := by
  unfold «show»
  split
  · rename_i path owner
    split
    · exact coherent
    · rename_i closed
      simp only [not_or, Bool.not_eq_true] at closed
      have idle : menu.busy = false := by
        cases busy : menu.busy with
        | false => rfl
        | true => rw [(coherent.opened busy).1] at closed; cases closed.2
      exact {
        distinct := coherent.distinct
        past := coherent.past
        busy := coherent.busy
        opened := fun busy => by
          change menu.busy = true at busy
          rw [idle] at busy
          cases busy
        again := coherent.again
        current := fun load there current => absurd current (idle_tasks coherent.toTasks idle load there)
        once := List.nodup_singleton 0
        depth := ⟨Nat.le_refl 1, show 1 ≤ 16 by decide⟩
        shown := fun page widgets content => by cases content }
  · exact coherent

theorem created_coherent (coherent : Coherent menu) (index : Nat) (succeeds : Bool) :
    Coherent (menu.created index succeeds) := by
  have taken (proxy : MenuProxy) : Coherent { menu with
      creations := menu.creations.eraseIdx index, proxy := some proxy } := {
    coherent with
    opened := fun busy => ⟨(coherent.opened busy).1, rfl, (coherent.opened busy).2.2⟩
    shown := fun page widgets content visible idle => ⟨rfl, (coherent.shown page widgets content visible idle).2⟩ }
  unfold created
  split
  · exact coherent
  · dsimp only
    split
    · exact { coherent with }
    · split
      · exact load_coherent (taken _) true
      · exact { coherent with shown := fun page widgets content => by cases content }

/-- What takes a click is shown while nothing is loading. -/
theorem clickable_some (coherent : Coherent menu) {index : Nat} {widget : Widget}
    (clickable : menu.clickable index = some widget) : menu.visible = true ∧ menu.busy = false ∧
      menu.proxy.isSome = true ∧ Widget.Fits menu.parents widget := by
  unfold Menu.clickable at clickable
  split at clickable
  · cases clickable
  · rename_i page widgets content
    split at clickable
    · rename_i shown
      rw [Bool.and_eq_true] at shown
      have idle : menu.busy = false := by
        cases busy : menu.busy with
        | false => rfl
        | true =>
          have insensitive := (coherent.opened busy).2.2
          rw [shown.2] at insensitive
          cases insensitive
      obtain ⟨connected, -, fits⟩ := coherent.shown page widgets content shown.1 idle
      exact ⟨shown.1, idle, connected, fits widget (List.mem_of_getElem? clickable)⟩
    · cases clickable

/-- Another page is on top, and it is loaded. -/
theorem navigate_coherent (coherent : Coherent menu) (visible : menu.visible = true) (idle : menu.busy = false)
    (connected : menu.proxy.isSome = true) {parents : List Int} (once : parents.Nodup)
    (depth : 1 ≤ parents.length ∧ parents.length ≤ 16) : Coherent ({ menu with parents }.load true) := by
  obtain ⟨proxy, connected⟩ := Option.isSome_iff_exists.mp connected
  have tasks : Tasks { menu with parents } := { coherent.toTasks with }
  have begins : { menu with parents }.load true = { menu with parents }.begin proxy true := by
    apply load_begins <;> assumption
  rw [begins]
  exact begin_coherent tasks visible idle connected once depth true

theorem click_coherent (coherent : Coherent menu) (index : Nat) : Coherent (menu.click index).1 := by
  unfold click
  split
  · rename_i clicked
    obtain ⟨visible, idle, connected, deep⟩ := clickable_some coherent clicked
    apply navigate_coherent coherent visible idle connected (coherent.once.sublist (List.dropLast_sublist _))
    have bound := coherent.depth
    change 1 < menu.parents.length at deep
    rw [List.length_dropLast]
    omega
  · rename_i id clicked
    obtain ⟨visible, idle, connected, fits⟩ := clickable_some coherent clicked
    split
    · exact coherent
    · rename_i fresh
      apply navigate_coherent coherent visible idle connected
      · exact List.Nodup.append coherent.once (List.nodup_singleton _) (by simpa using fresh)
      · have room := fits rfl rfl
        rw [List.length_append, List.length_singleton]
        omega
  · exact popdown_coherent coherent
  · exact coherent

theorem step_coherent (coherent : Coherent menu) (event : MenuEvent) : Coherent (menu.step event).1 := by
  cases event with
  | «show» path owner => exact show_coherent coherent path owner
  | created index succeeds => exact created_coherent coherent index succeeds
  | layoutSignal | refresh => exact load_coherent coherent false
  | answered index layout =>
    show Coherent (menu.step (.answered index layout)).1
    unfold step
    dsimp only
    split
    · exact coherent
    · rename_i load there
      exact advance_coherent coherent there layout
  | click index => exact click_coherent coherent index
  | closed => exact popdown_coherent coherent

/-! ## The signals -/

/-- A layout signal of the opening that no `GetLayout` has followed. -/
def Owed (generation : Nat) (history : List MenuObservation) : Prop :=
  ∃ later earlier, history = later ++ .layoutSignal generation :: earlier ∧
    ∀ parent, .getLayout generation parent ∉ later

theorem owed_cons {generation : Nat} {observation : MenuObservation} :
    Owed generation (observation :: history) ↔ observation = .layoutSignal generation ∨
      Owed generation history ∧ ∀ parent, observation ≠ .getLayout generation parent := by
  constructor
  · rintro ⟨later, earlier, whole, unanswered⟩
    cases later with
    | nil =>
      injection whole with first
      exact .inl first
    | cons first later =>
      injection whole with same rest
      subst same
      refine .inr ⟨⟨later, earlier, rest, fun parent there => ?_⟩, fun parent same => ?_⟩
      · exact unanswered parent (List.mem_cons_of_mem _ there)
      · exact unanswered parent (same ▸ List.mem_cons_self)
  · rintro (rfl | ⟨⟨later, earlier, rfl, unanswered⟩, other⟩)
    · exact ⟨[], history, rfl, by simp⟩
    · refine ⟨observation :: later, earlier, rfl, fun parent there => ?_⟩
      rcases List.mem_cons.mp there with same | there
      · exact other parent same.symm
      · exact unanswered parent there

/-- An observation that is no signal; a page that is rendered is the one on top. -/
def Quiet : MenuObservation → Prop
  | .layoutSignal _ => False
  | .rendered _ page top => page = top
  | _ => True

/-- What the history says about the signals and the pages of the runs that led to the menu. -/
structure Recorded (history : List MenuObservation) (menu : Menu) : Prop where
  past : ∀ generation, .layoutSignal generation ∈ history → generation ≤ menu.generation
  pending : Owed menu.generation history → Pending menu
  rendered : ∀ generation page top, .rendered generation page top ∈ history → page = top

section Recorded

variable {after : Menu} {observation : MenuObservation}

theorem owed_quiet (quiet : Quiet observation) {generation : Nat} (owed : Owed generation (observation :: history)) :
    Owed generation history := by
  rcases owed_cons.mp owed with rfl | ⟨owed, -⟩
  · exact quiet.elim
  · exact owed

theorem Recorded.quiet (recorded : Recorded history menu) (quiet : Quiet observation) :
    Recorded (observation :: history) menu where
  past := by
    intro generation there
    rcases List.mem_cons.mp there with rfl | old
    · exact quiet.elim
    · exact recorded.past generation old
  pending := fun owed => recorded.pending (owed_quiet quiet owed)
  rendered := by
    intro generation page top there
    rcases List.mem_cons.mp there with rfl | old
    · exact quiet
    · exact recorded.rendered generation page top old

/-- A step within the opening that loses no pending load. -/
theorem Recorded.keep (recorded : Recorded history menu) (same : after.generation = menu.generation)
    (keeps : Owed menu.generation history → Pending menu → Pending after) : Recorded history after where
  past := fun generation there => same ▸ recorded.past generation there
  pending := fun owed => keeps (same ▸ owed) (recorded.pending (same ▸ owed))
  rendered := recorded.rendered

theorem Recorded.load (recorded : Recorded history menu) (announce : Bool) :
    Recorded history (menu.load announce) :=
  recorded.keep (load_generation menu announce) fun _ pending => load_keeps pending announce

theorem Recorded.popdown (recorded : Recorded history menu) : Recorded history menu.popdown := by
  unfold Menu.popdown
  split
  · refine ⟨fun generation there => Nat.le_succ_of_le (recorded.past generation there), ?_, recorded.rendered⟩
    rintro ⟨later, earlier, rfl, -⟩
    have past := recorded.past (menu.generation + 1) (by simp)
    omega
  · exact recorded

/-- A task that has asked for the layout leaves only `again` to follow up on a signal. -/
theorem pending_again (coherent : Coherent menu) {index : Nat} {load : Load} (there : menu.loads[index]? = some load)
    (current : load.generation = menu.generation) (asked : ¬load.stage.asks) (pending : Pending menu) :
    menu.again = true := by
  rcases pending with again | ⟨other, among, same, asks⟩
  · exact again
  · obtain ⟨inside, rfl⟩ := List.getElem?_eq_some_iff.mp there
    have unique := List.inj_on_of_nodup_map coherent.distinct among (List.getElem_mem inside) (same.trans current.symm)
    exact absurd (unique ▸ asks) asked

theorem Recorded.finish (recorded : Recorded history menu) (coherent : Coherent menu) {index : Nat} {load : Load}
    (there : menu.loads[index]? = some load) (current : load.generation = menu.generation)
    (asked : ¬load.stage.asks) (rows : Option (List Child)) :
    Recorded ((Menu.finish { menu with loads := menu.loads.eraseIdx index } load rows).2 ++ history)
      (Menu.finish { menu with loads := menu.loads.eraseIdx index } load rows).1 := by
  have busy := coherent.busy.mpr ⟨load, List.mem_of_getElem? there, current⟩
  obtain ⟨visible, connected, -⟩ := coherent.opened busy
  have parent := coherent.current load (List.mem_of_getElem? there) current
  have shown : Recorded history (Menu.finish { menu with loads := menu.loads.eraseIdx index } load rows).1 := by
    apply recorded.keep
    · rw [finish_eq]
      split
      · exact load_generation _ _
      · rfl
    · intro _ pending
      have again := pending_again coherent there current asked pending
      rw [finish_eq, if_pos again]
      apply load_pending
      · exact visible
      · exact connected
  unfold Menu.finish at shown ⊢
  cases rows with
  | none => exact shown
  | some rows =>
    exact shown.quiet parent

theorem Recorded.advance (recorded : Recorded history menu) (coherent : Coherent menu) {index : Nat} {load : Load}
    (there : menu.loads[index]? = some load) (layout : Option LayoutReply) :
    Recorded ((menu.advance index load layout).2 ++ history) (menu.advance index load layout).1 := by
  have ends (stale : load.generation ≠ menu.generation) :
      Recorded history { menu with loads := menu.loads.eraseIdx index } := by
    refine recorded.keep rfl fun _ pending => ?_
    rcases pending with again | ⟨other, among, same, asks⟩
    · exact .inl again
    · obtain ⟨position, within, rfl⟩ := List.getElem_of_mem among
      refine .inr ⟨_, List.mem_eraseIdx_iff_getElem.mpr ⟨position, within, ?_, rfl⟩, same, asks⟩
      rintro rfl
      obtain ⟨inside, here⟩ := List.getElem?_eq_some_iff.mp there
      exact stale (here ▸ same)
  have goesOn (stage : Stage) (asks : load.stage.asks → stage.asks) :
      Recorded history { menu with loads := menu.loads.set index { load with stage } } := by
    refine recorded.keep rfl fun _ pending => ?_
    rcases pending with again | ⟨other, among, same, early⟩
    · exact .inl again
    · obtain ⟨position, within, rfl⟩ := List.getElem_of_mem among
      obtain ⟨inside, rfl⟩ := List.getElem?_eq_some_iff.mp there
      by_cases here : index = position
      · subst here
        exact .inr ⟨_, List.mem_set inside _, same, asks early⟩
      · exact .inr ⟨_, List.mem_iff_getElem.mpr ⟨position, by simpa using within, List.getElem_set_ne here _⟩,
          same, early⟩
  have finishes := recorded.finish coherent there
  unfold Menu.advance
  dsimp only
  cases stage : load.stage with
  | spawned announce =>
    cases announce with
    | true =>
      exact (goesOn .announcing fun _ => trivial).quiet trivial
    | false =>
      dsimp only
      split
      · rename_i stale
        exact ends stale
      · exact (goesOn .readingTheme fun _ => trivial).quiet trivial
  | announcing =>
    dsimp only
    split
    · rename_i stale
      exact ends stale
    · exact (goesOn .readingTheme fun _ => trivial).quiet trivial
  | readingTheme =>
    dsimp only
    split
    · rename_i stale
      exact ends stale
    · rename_i current
      have same : load.generation = menu.generation := not_not.mp current
      refine ⟨?_, ?_, ?_⟩
      · intro generation signal
        rcases List.mem_cons.mp signal with other | old
        · cases other
        · exact recorded.past generation old
      · intro owed
        rcases owed_cons.mp owed with signal | ⟨-, other⟩
        · cases signal
        · exact absurd (by rw [same]) (other load.parent)
      · intro generation page top shown
        rcases List.mem_cons.mp shown with other | old
        · cases other
        · exact recorded.rendered generation page top old
  | readingLayout =>
    dsimp only
    split
    · rename_i stale
      exact ends stale
    · rename_i current
      have asked : ¬load.stage.asks := by simp [stage, Stage.asks]
      split
      · exact finishes (not_not.mp current) asked none
      · split
        · exact goesOn _ asked.elim
        · exact finishes (not_not.mp current) asked (some _)
  | decoding rows =>
    dsimp only
    split
    · rename_i stale
      exact ends stale
    · rename_i current
      have asked : ¬load.stage.asks := by simp [stage, Stage.asks]
      exact finishes (not_not.mp current) asked (some rows)

end Recorded

theorem step_recorded (coherent : Coherent menu) (recorded : Recorded history menu) (event : MenuEvent) :
    Recorded ((menu.step event).2 ++ history) (menu.step event).1 := by
  cases event with
  | «show» path owner =>
    apply recorded.keep
    · show (menu.show path owner).generation = _
      unfold «show»
      repeat' split
      all_goals rfl
    · intro _ pending
      show Pending (menu.show path owner)
      unfold «show»
      repeat' split
      all_goals exact pending
  | created index succeeds =>
    show Recorded history (menu.created index succeeds)
    unfold created
    split
    · exact recorded
    · dsimp only
      split
      · exact recorded.keep rfl fun _ pending => pending
      · split
        · rename_i creation _ _ _
          have connected : Recorded history { menu with
              creations := menu.creations.eraseIdx index, proxy := some creation.proxy } :=
            recorded.keep rfl fun _ pending => pending
          exact connected.load true
        · exact recorded.keep rfl fun _ pending => pending
  | layoutSignal =>
    have loads := recorded.load false
    show Recorded ((if menu.visible && menu.proxy.isSome then [.layoutSignal menu.generation] else []) ++ history) _
    split
    · rename_i connected
      rw [Bool.and_eq_true] at connected
      refine ⟨?_, fun _ => load_pending connected.1 connected.2 false, ?_⟩
      · intro generation there
        rcases List.mem_cons.mp there with new | old
        · cases new
          exact Nat.le_of_eq (load_generation menu false).symm
        · exact loads.past generation old
      · intro generation page top there
        rcases List.mem_cons.mp there with other | old
        · cases other
        · exact loads.rendered generation page top old
    · exact loads
  | refresh => exact recorded.load false
  | answered index layout =>
    unfold step
    dsimp only
    split
    · exact recorded
    · rename_i load there
      exact recorded.advance coherent there layout
  | click index =>
    have navigates (parents : List Int) : Recorded history ({ menu with parents }.load true) := by
      have moved : Recorded history { menu with parents } := recorded.keep rfl fun _ pending => pending
      exact moved.load true
    show Recorded ((menu.click index).2 ++ history) (menu.click index).1
    unfold click
    split
    · exact navigates _
    · split
      · exact recorded
      · exact navigates _
    · dsimp only
      split
      · exact recorded.popdown.quiet trivial
      · exact recorded.popdown
    · exact recorded
  | closed => exact recorded.popdown

/-! ## Every run -/

theorem start_coherent : Coherent {} where
  distinct := List.nodup_nil
  past := fun load there => by cases there
  busy := by simp
  opened := fun busy => by cases busy
  again := fun again => by cases again
  current := fun load there => by cases there
  once := List.nodup_singleton 0
  depth := by decide
  shown := fun page widgets content => by cases content

theorem Execution.coherent (run : Execution history menu) : Coherent menu ∧ Recorded history menu := by
  induction run with
  | start begun =>
    subst begun
    refine ⟨start_coherent, ?_, ?_, ?_⟩
    · intro generation there
      cases there
    · rintro ⟨later, earlier, whole, -⟩
      simp at whole
    · intro generation page top there
      cases there
  | step event _ _ ih => exact ⟨step_coherent ih.1 event, step_recorded ih.1 ih.2 event⟩

/-! ## The end of a load -/

/-- The answers that a task still waits for, at most. -/
def Stage.left : Stage → Nat
  | .spawned true => 5
  | .spawned false | .announcing => 4
  | .readingTheme => 3
  | .readingLayout => 2
  | .decoding _ => 1

/-- The next answer goes to the task of the current opening. -/
def answer (menu : Menu) (layout : Option LayoutReply) : Menu :=
  match menu.loads.findIdx? (·.generation == menu.generation) with
  | none => menu
  | some index => (menu.step (.answered index layout)).1

def answers (menu : Menu) (layouts : Nat → Option LayoutReply) : Nat → Menu
  | 0 => menu
  | count + 1 => (menu.answers layouts count).answer (layouts count)

/-- No more than so many answers are due in the current opening. -/
def Due (menu : Menu) (count : Nat) : Prop :=
  ∀ load ∈ menu.loads, load.generation = menu.generation →
    Stage.left load.stage + (if menu.again then 6 else 0) ≤ count

section Due

variable {index count : Nat} {load : Load}

theorem due_set (coherent : Coherent menu) (there : menu.loads[index]? = some load)
    (current : load.generation = menu.generation) (due : Due menu (count + 1)) {stage : Stage}
    (less : Stage.left stage < Stage.left load.stage) :
    Due { menu with loads := menu.loads.set index { load with stage } } count := by
  intro other among same
  have next := set_coherent coherent there stage
  obtain ⟨inside, -⟩ := List.getElem?_eq_some_iff.mp there
  have unique := List.inj_on_of_nodup_map next.distinct among (List.mem_set inside _) (same.trans current.symm)
  subst unique
  have bound := due load (List.mem_of_getElem? there) current
  show Stage.left stage + (if menu.again then 6 else 0) ≤ count
  omega

theorem due_finish (coherent : Coherent menu) (there : menu.loads[index]? = some load)
    (current : load.generation = menu.generation) (due : Due menu (count + 1)) (rows : Option (List Child)) :
    Due (finish { menu with loads := menu.loads.eraseIdx index } load rows).1 count := by
  have none : ∀ other ∈ menu.loads.eraseIdx index, other.generation ≠ menu.generation :=
    fun other among same => (erased coherent there among).2 (same.trans current.symm)
  rw [finish_eq]
  split
  · rename_i again
    have bound := due load (List.mem_of_getElem? there) current
    change menu.again = true at again
    rw [if_pos again] at bound
    obtain ⟨visible, connected, -⟩ := coherent.opened (coherent.again again)
    obtain ⟨proxy, connected⟩ := Option.isSome_iff_exists.mp connected
    intro other among same
    have begins (content : Content) : (settled { menu with loads := menu.loads.eraseIdx index } content).load false =
        (settled { menu with loads := menu.loads.eraseIdx index } content).begin proxy false := by
      apply load_begins
      · exact visible
      · rfl
      · exact connected
    rw [begins] at among same ⊢
    rcases List.mem_append.mp among with old | new
    · exact absurd same (none other old)
    · cases List.mem_singleton.mp new
      show 4 + 0 ≤ count
      omega
  · intro other among same
    exact absurd same (none other among)

theorem due_advance (coherent : Coherent menu) (there : menu.loads[index]? = some load)
    (current : load.generation = menu.generation) (due : Due menu (count + 1)) (layout : Option LayoutReply) :
    Due (menu.advance index load layout).1 count := by
  have goesOn {stage : Stage} (less : Stage.left stage < Stage.left load.stage) :
      Due { menu with loads := menu.loads.set index { load with stage } } count :=
    due_set coherent there current due less
  have finishes := due_finish coherent there current due
  have fresh : ¬load.generation ≠ menu.generation := not_not.mpr current
  unfold advance
  dsimp only
  cases stage : load.stage with
  | spawned announce =>
    cases announce with
    | true => exact goesOn (by rw [stage]; decide)
    | false =>
      simp only [if_neg fresh]
      exact goesOn (by rw [stage]; decide)
  | announcing | readingTheme =>
    simp only [if_neg fresh]
    exact goesOn (by rw [stage]; decide)
  | readingLayout =>
    simp only [if_neg fresh]
    split
    · exact finishes none
    · split
      · exact goesOn (by rw [stage]; exact Nat.one_lt_two)
      · exact finishes (some _)
  | decoding rows =>
    simp only [if_neg fresh]
    exact finishes (some rows)

end Due

theorem answer_idle (idle : ∀ load ∈ menu.loads, load.generation ≠ menu.generation) (layout : Option LayoutReply) :
    menu.answer layout = menu := by
  unfold answer
  rw [List.findIdx?_eq_none_iff.mpr fun load there => by simpa using idle load there]

theorem answer_due (coherent : Coherent menu) {count : Nat} (due : Due menu (count + 1)) (layout : Option LayoutReply) :
    Coherent (menu.answer layout) ∧ Due (menu.answer layout) count := by
  cases found : menu.loads.findIdx? (·.generation == menu.generation) with
  | none =>
    have idle : ∀ load ∈ menu.loads, load.generation ≠ menu.generation := by
      simpa using List.findIdx?_eq_none_iff.mp found
    rw [answer_idle idle]
    exact ⟨coherent, fun load there same => absurd same (idle load there)⟩
  | some index =>
    obtain ⟨inside, current, -⟩ := List.findIdx?_eq_some_iff_getElem.mp found
    have there := List.getElem?_eq_getElem inside
    have steps : menu.answer layout = (menu.advance index menu.loads[index] layout).1 := by
      unfold answer
      rw [found]
      simp only [step, there]
    rw [steps]
    exact ⟨advance_coherent coherent there layout, due_advance coherent there (by simpa using current) due layout⟩

/-- Every load comes to its end, whatever the answers are. -/
theorem answers_end (coherent : Coherent menu) (layouts : Nat → Option LayoutReply) :
    ∃ count, (menu.answers layouts count).busy = false := by
  have general : ∀ left count, Coherent (menu.answers layouts count) → Due (menu.answers layouts count) left →
      ∃ count, (menu.answers layouts count).busy = false := by
    intro left
    induction left with
    | zero =>
      intro count coherent due
      refine ⟨count, Bool.eq_false_iff.mpr fun busy => ?_⟩
      obtain ⟨load, there, current⟩ := coherent.busy.mp busy
      have bound := due load there current
      have positive : 0 < Stage.left load.stage := by
        unfold Stage.left
        split <;> omega
      omega
    | succ left ih =>
      intro count coherent due
      obtain ⟨coherent, due⟩ := answer_due coherent due (layouts count)
      exact ih (count + 1) coherent due
  apply general 11 0 coherent
  intro load _ _
  have bound : Stage.left load.stage ≤ 5 := by
    unfold Stage.left
    split <;> omega
  split <;> omega

/-! ## The pages -/

/-- What holds of a menu and the run that led to it. -/
structure PageCoherent (history : List MenuObservation) (menu : Menu) : Prop where
  /-- Each opening has at most one load in flight. -/
  oneLoad : ∀ generation, (menu.loads.filter (·.generation = generation)).length ≤ 1
  /-- Rows are rendered for the page on top. -/
  rendered : ∀ generation page top, .rendered generation page top ∈ history → page = top
  /-- Rows stay those of the page on top until another load begins. -/
  shown : ∀ page widgets, menu.content = .page page widgets → menu.visible = true → menu.busy = false → page = menu.top
  /-- Nothing takes clicks during a load of the current opening. -/
  still : menu.busy = true → ∀ index, menu.clickable index = none
  /-- An answer to a load of an earlier opening changes nothing but the load. -/
  overtaken : ∀ index load layout, menu.loads[index]? = some load → load.generation ≠ menu.generation →
    ∃ loads, (menu.step (.answered index layout)).1 = { menu with loads }
  /-- So does the answer to the creation of a proxy for an earlier opening. -/
  abandoned : ∀ index creation succeeds, menu.creations[index]? = some creation →
    creation.generation ≠ menu.generation →
    ∃ creations, (menu.step (.created index succeeds)).1 = { menu with creations }
  once : menu.parents.Nodup
  depth : menu.parents.length ≤ 16
  /-- While no load is in flight, every signal of the current opening has been followed by a `GetLayout`. -/
  followed : menu.busy = false → ¬Owed menu.generation history
  /-- A load in flight ends after finitely many answers. -/
  ends : ∀ layouts, ∃ count, (menu.answers layouts count).busy = false

theorem oneLoad_of_distinct {loads : List Load} (distinct : (loads.map Load.generation).Nodup) (generation : Nat) :
    (loads.filter (·.generation = generation)).length ≤ 1 := by
  have single : (loads.map Load.generation).count generation ≤ 1 := List.nodup_iff_count_le_one.mp distinct generation
  rw [List.count, List.countP_map, List.countP_eq_length_filter] at single
  exact single

theorem page_coherent (run : Execution history menu) : PageCoherent history menu := by
  obtain ⟨coherent, recorded⟩ := run.coherent
  exact {
    oneLoad := oneLoad_of_distinct coherent.distinct
    rendered := recorded.rendered
    shown := fun page widgets content visible idle => (coherent.shown page widgets content visible idle).2.1
    still := by
      intro busy index
      unfold Menu.clickable
      rw [(coherent.opened busy).2.2]
      split
      · rfl
      · rw [Bool.and_false]
        rfl
    overtaken := by
      intro index load layout there stale
      unfold step
      simp only [there, advance, if_pos stale]
      split
      · exact ⟨_, rfl⟩
      all_goals exact ⟨_, rfl⟩
    abandoned := by
      intro index creation succeeds there stale
      refine ⟨menu.creations.eraseIdx index, ?_⟩
      show menu.created index succeeds = _
      unfold created
      rw [there]
      exact if_pos stale
    once := coherent.once
    depth := coherent.depth.2
    followed := by
      intro idle owed
      rcases recorded.pending owed with again | ⟨load, there, current, -⟩
      · have busy := coherent.again again
        rw [idle] at busy
        cases busy
      · exact idle_tasks coherent.toTasks idle load there current
    ends := answers_end coherent }

/-- A menu is opened and its first page is read while a signal comes. -/
def firstPage : List MenuEvent := [
  .show (some "/menu") (some ":1.7"),
  .created 0 true,
  .answered 0 none,
  .answered 0 none,
  .layoutSignal,
  .answered 0 none,
  .answered 0 (some { id := 0, children := [some { id := 5, submenu := true }] })]

theorem page_coherent_firstPage : PageCoherent (Transition.execute step {} firstPage).2
    (Transition.execute step {} firstPage).1 := by
  have run : Execution ((Transition.execute step {} firstPage).2 ++ []) (Transition.execute step {} firstPage).1 :=
    Transition.Run.execute firstPage (.start rfl) (Transition.permits_unrestricted _ _ _ _)
  rw [List.append_nil] at run
  exact page_coherent run

end Menu

end Luma.Shell
