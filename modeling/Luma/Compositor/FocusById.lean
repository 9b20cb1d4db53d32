import Luma.Compositor.PolicyChanges
import Mathlib.Data.List.Nodup

/-! `focus ID`: which window has the keyboard after the maintenance pass.

The command finds the place of the window, runs the pass and focuses what is at the place
then. The pass takes dead windows out of the list. In every run no two managed windows have
one handle or one id, and so the place is still right exactly if no window up to it is dead.
-/

set_option autoImplicit false

namespace Luma.Compositor

open Luma.Library Luma.Core

/-! ## Places in a list that loses elements -/

section Places

variable {α : Type} {test : α → Bool} {elements : List α} {place : Nat} {element : α}

theorem filter_place (kept : ∀ element ∈ elements.take (place + 1), test element = true) :
    (elements.filter test)[place]? = elements[place]? := by
  induction elements generalizing place with
  | nil => rfl
  | cons first rest ih =>
    rw [List.take_succ_cons] at kept
    rw [List.filter_cons_of_pos (kept first List.mem_cons_self)]
    cases place with
    | zero => rfl
    | succ place => exact ih fun element there => kept element (List.mem_cons_of_mem _ there)

theorem filter_behind (stands : (elements.filter test)[place]? = some element) : element ∈ elements.drop place := by
  induction elements generalizing place with
  | nil => cases stands
  | cons first rest ih =>
    rw [List.filter_cons] at stands
    split at stands
    · cases place with
      | zero =>
        cases stands
        exact List.mem_cons_self
      | succ place => exact ih stands
    · have behind := ih stands
      cases place with
      | zero => exact List.mem_cons_of_mem _ behind
      | succ place =>
        rw [← List.drop_drop] at behind
        exact List.mem_of_mem_drop behind

/-- Once an element up to the place is gone, what stands there was behind it. -/
theorem filter_shifted {lost : α} (there : lost ∈ elements.take (place + 1)) (gone : test lost = false)
    (stands : (elements.filter test)[place]? = some element) : element ∈ elements.drop (place + 1) := by
  induction elements generalizing place with
  | nil => cases stands
  | cons first rest ih =>
    rw [List.take_succ_cons] at there
    rw [List.drop_succ_cons]
    rw [List.filter_cons] at stands
    split at stands
    · rename_i stays
      rcases List.mem_cons.mp there with rfl | later
      · rw [gone] at stays
        cases stays
      · cases place with
        | zero => cases later
        | succ place => exact ih later stands
    · exact filter_behind stands

end Places

/-! ## Handles and ids -/

/-- The names of a window: its handle and its id. -/
def Managed.tag (self : Managed) : Nat × Nat := (self.window, self.id)

namespace Desktop

def tags (self : Desktop) : List (Nat × Nat) := self.windows.map Managed.tag

/-- No two windows have one handle or one id, and the next id is above them all. -/
structure Numbered (desktop : Desktop) : Prop where
  handles : (desktop.tags.map (·.1)).Nodup
  ids : (desktop.tags.map (·.2)).Nodup
  below : ∀ tag ∈ desktop.tags, tag.2 < desktop.nextId

/-- The same windows in some order. -/
structure SameTags (before after : Desktop) : Prop where
  tags : after.tags.Perm before.tags
  nextId : after.nextId = before.nextId

namespace SameTags

variable {before middle after : Desktop}

theorem refl (self : Desktop) : SameTags self self := ⟨.refl _, rfl⟩

theorem trans (one : SameTags before middle) (two : SameTags middle after) : SameTags before after :=
  ⟨two.tags.trans one.tags, two.nextId.trans one.nextId⟩

theorem of_windows (windows : after.windows = before.windows) (nextId : after.nextId = before.nextId) :
    SameTags before after :=
  ⟨.of_eq (by rw [Desktop.tags, windows, Desktop.tags]), nextId⟩

theorem numbered (same : SameTags before after) (numbered : before.Numbered) : after.Numbered where
  handles := (same.tags.map _).nodup_iff.mpr numbered.handles
  ids := (same.tags.map _).nodup_iff.mpr numbered.ids
  below := by
    intro tag there
    rw [same.nextId]
    exact numbered.below tag (same.tags.mem_iff.mp there)

end SameTags

theorem Numbered.keep {before after : Desktop} (numbered : before.Numbered)
    (windows : after.windows = before.windows) (nextId : after.nextId = before.nextId) : after.Numbered :=
  (SameTags.of_windows windows nextId).numbered numbered

variable {self : Desktop}

theorem tags_map {change : Managed → Managed} (same : ∀ window, (change window).tag = window.tag)
    (windows : List Managed) : (windows.map change).map Managed.tag = windows.map Managed.tag := by
  rw [List.map_map]
  exact List.map_congr_left fun window _ => same window

theorem setWindow_same {change : Managed → Managed} (same : ∀ window, (change window).tag = window.tag) (index : Nat) :
    SameTags self (self.setWindow index change) := by
  refine ⟨.of_eq ?_, rfl⟩
  apply List.ext_getElem?
  intro position
  simp only [tags, setWindow, List.getElem?_map, List.getElem?_modify]
  cases self.windows[position]? with
  | none => rfl
  | some window =>
    simp only [Option.map_some]
    split
    · exact congrArg some (same window)
    · rfl

theorem swapWindows_same (left right : Nat) : SameTags self (self.swapWindows left right) := by
  unfold swapWindows
  split
  · rename_i first second one two
    obtain ⟨inside, rfl⟩ := List.getElem?_eq_some_iff.mp one
    obtain ⟨within, rfl⟩ := List.getElem?_eq_some_iff.mp two
    exact ⟨(List.set_set_perm inside within).map _, rfl⟩
  · exact .refl self

theorem send_same (focused : Option Nat) (out : String) (workspace : Nat) :
    SameTags self (self.send focused out workspace) := by
  unfold send
  split
  · exact .refl self
  · apply setWindow_same
    intro window
    rfl

theorem showWorkspace_same (out : String) (workspace : Nat) : SameTags self (self.showWorkspace out workspace) := by
  have moves (window : Managed) : (moveTo workspace out window).tag = window.tag := by
    unfold moveTo
    split <;> rfl
  have gives : SameTags self (self.giveAway out workspace) := by
    unfold giveAway
    dsimp only
    split
    · exact .refl self
    · refine ⟨.of_eq (tags_map (fun window => ?_) _), rfl⟩
      unfold exchange
      split
      · rfl
      · exact moves window
  exact gives.trans ⟨.of_eq (tags_map moves _), rfl⟩

theorem scratchpadSend_same (focused : Option Nat) : SameTags self (self.scratchpadSend focused) := by
  unfold scratchpadSend
  split
  · exact .refl self
  · apply setWindow_same
    intro window
    rfl

theorem scratchpadShow_same (out : String) : SameTags self (self.scratchpadShow out) := by
  unfold scratchpadShow
  split
  · exact .refl self
  · apply setWindow_same
    intro window
    rfl

/-- The windows that stay keep their order, and those that arrive are numbered behind them. -/
def Renewed (living : List Managed) (next : Nat) (after : Desktop) : Prop :=
  ∃ handles : List Nat, handles.Nodup ∧ (∀ handle ∈ handles, ∀ window ∈ living, window.window ≠ handle) ∧
    after.tags = living.map Managed.tag ++ handles.zipIdx next ∧ after.nextId = next + handles.length

theorem renewed_numbered {living : List Managed} {after : Desktop} (numbered : self.Numbered)
    (stays : living.Sublist self.windows) (renewed : Renewed living self.nextId after) : after.Numbered := by
  obtain ⟨handles, distinct, absent, tags, next⟩ := renewed
  have part : (living.map Managed.tag).Sublist self.tags := stays.map _
  refine ⟨?_, ?_, ?_⟩
  · rw [tags, List.map_append, List.zipIdx_map_fst]
    apply List.Nodup.append (numbered.handles.sublist (part.map _)) distinct
    intro handle old new
    simp only [List.map_map, List.mem_map, Function.comp_apply] at old
    obtain ⟨window, there, rfl⟩ := old
    exact absent _ new window there rfl
  · rw [tags, List.map_append, List.zipIdx_map_snd]
    apply List.Nodup.append (numbered.ids.sublist (part.map _)) (List.nodup_range' ..)
    intro id old new
    obtain ⟨tag, there, rfl⟩ := List.mem_map.mp old
    have below := numbered.below tag (part.subset there)
    rw [List.mem_range'_1] at new
    omega
  · intro tag there
    rw [next]
    rw [tags] at there
    rcases List.mem_append.mp there with old | new
    · have below := numbered.below tag (part.subset old)
      omega
    · obtain ⟨-, above⟩ := List.mem_zipIdx new
      omega

end Desktop

namespace AnvilState

variable {self : AnvilState} {host : Host}

/-! ## The pass -/

theorem arrivals_renewed {living : List Managed} {next : Nat} (active : String) (handles : List Nat)
    (renewed : Desktop.Renewed living next self.desktop) :
    Desktop.Renewed living next (handles.foldl (arrive active) self).desktop := by
  induction handles generalizing self with
  | nil => exact renewed
  | cons handle handles ih =>
    apply ih
    unfold arrive
    dsimp only
    split
    · exact renewed
    · rename_i passes
      obtain ⟨arrived, distinct, absent, tags, count⟩ := renewed
      simp only [Bool.or_eq_true, not_or, Bool.not_eq_true, List.any_eq_false] at passes
      have unknown (tag : Nat × Nat) (there : tag ∈ self.desktop.tags) : tag.1 ≠ handle := by
        obtain ⟨window, managed, rfl⟩ := List.mem_map.mp there
        simpa [Managed.tag] using passes.1 window managed
      rw [tags] at unknown
      refine ⟨arrived ++ [handle], ?_, ?_, ?_, ?_⟩
      · apply List.Nodup.append distinct (List.nodup_singleton _)
        intro other old new
        rw [List.mem_singleton] at new
        subst new
        rw [← List.zipIdx_map_fst next arrived] at old
        obtain ⟨tag, there, same⟩ := List.mem_map.mp old
        exact unknown tag (List.mem_append_right _ there) same
      · intro other there window managed
        rcases List.mem_append.mp there with old | new
        · exact absent other old window managed
        · rw [List.mem_singleton] at new
          subst new
          exact unknown window.tag (List.mem_append_left _ (List.mem_map_of_mem managed))
      · show (self.desktop.windows ++ _).map Managed.tag = _
        rw [List.map_append, List.zipIdx_append, ← List.append_assoc, ← tags, count]
        simp [Desktop.tags, Managed.tag]
      · show self.desktop.nextId + 1 = _
        rw [count, List.length_append, List.length_singleton]
        omega

theorem prepare_renewed (self : AnvilState) (host : Host) :
    Desktop.Renewed self.living self.desktop.nextId (self.prepare host).desktop := by
  obtain ⟨recording, dirty, polled⟩ := pollRecorder_eq self host
  set polling : AnvilState := { self with recording, desktop := { self.desktop with dirty } }
  have adopts (window : Managed) : (Desktop.adopt polling.outputNames window).tag = window.tag := by
    unfold Desktop.adopt
    split <;> rfl
  have begun : Desktop.Renewed self.living self.desktop.nextId polling.maintainOutputs.maintainWindows.desktop := by
    refine ⟨[], List.nodup_nil, ?_, ?_, rfl⟩
    · intro handle nothing
      cases nothing
    · show (self.living.map (Desktop.adopt polling.outputNames)).map Managed.tag = _
      rw [Desktop.tags_map adopts, List.zipIdx_nil, List.append_nil]
  obtain ⟨handles, distinct, absent, tags, count⟩ := arrivals_renewed
    ((polling.maintainOutputs.maintainWindows).activeOutput.getD
      ((polling.maintainOutputs.maintainWindows).outputNames.headD "")) self.space.elements begun
  set arrived := polling.maintainOutputs.maintainWindows.maintainArrivals with arriving
  have laid : ((arrived.maintainLock).maintainLayout host).desktop.tags = arrived.desktop.tags := by
    show ((arrived.maintainLock).desktop.windows.map _).map Managed.tag = _
    rw [Desktop.tags_map fun window => by split <;> rfl, maintainLock_eq]
    rfl
  have focused (state : AnvilState) : state.maintainFocus.desktop.tags = state.desktop.tags ∧
      state.maintainFocus.desktop.nextId = state.desktop.nextId := by
    unfold maintainFocus
    split
    · exact ⟨rfl, rfl⟩
    · split <;> exact ⟨rfl, rfl⟩
  obtain ⟨sameTags, sameNext⟩ := focused ((arrived.maintainLock).maintainLayout host)
  have last : (self.prepare host).desktop =
      { ((arrived.maintainLock).maintainLayout host).maintainFocus.desktop with dirty := false } := by
    unfold prepare
    rw [polled]
    rfl
  refine ⟨handles, distinct, absent, ?_, ?_⟩
  · rw [last]
    exact sameTags.trans (laid.trans tags)
  · rw [last]
    show ((arrived.maintainLock).maintainLayout host).maintainFocus.desktop.nextId = _
    rw [sameNext]
    show (arrived.maintainLock).desktop.nextId = _
    rw [maintainLock_eq]
    exact count

theorem prepare_numbered (numbered : self.desktop.Numbered) (host : Host) : (self.prepare host).desktop.Numbered :=
  Desktop.renewed_numbered numbered List.filter_sublist (prepare_renewed self host)

/-! ## Every run -/

theorem settle_same {result : Except String Desktop}
    (same : ∀ desktop, result = .ok desktop → Desktop.SameTags self.desktop desktop) :
    Desktop.SameTags self.desktop (self.settleDesktop result).state.desktop := by
  rcases result with error | desktop
  · exact .refl _
  · exact (same desktop rfl).trans (.of_windows rfl rfl)

theorem settleRecording_same (outcome : RecorderOutcome) :
    Desktop.SameTags self.desktop (self.settleRecording outcome).state.desktop := by
  unfold settleRecording
  dsimp only
  split <;> exact .of_windows rfl rfl

theorem recorderCommand_same (argument : String) :
    Desktop.SameTags self.desktop (self.recorderCommand host argument).state.desktop := by
  have begins (argument : String) (action : RecorderAction) :
      Desktop.SameTags self.desktop (self.beginRecording host argument action).state.desktop := by
    unfold beginRecording
    split
    · exact .refl _
    · exact settleRecording_same _
  unfold recorderCommand
  split
  · exact .refl _
  · split
    · exact .refl _
    · rename_i action _
      cases action with simp only [recorderAction]
      | stop | pause | replaySave => exact settleRecording_same _
      | set =>
        unfold recorderSet
        repeat' split
        all_goals exact .of_windows rfl rfl
      | settingsReset =>
        unfold recorderReset
        repeat' split
        all_goals exact .of_windows rfl rfl
      | status => exact .refl _
      | start | gameStart | gameAttach | xwaylandStart | replayStart | toggle => exact begins _ _

theorem performanceCommand_same (argument : String) :
    Desktop.SameTags self.desktop (self.performanceCommand argument).state.desktop := by
  unfold performanceCommand
  repeat' split
  all_goals exact .of_windows rfl rfl

theorem focusWindow_same (self : AnvilState) (index : Nat) :
    Desktop.SameTags self.desktop (self.focusWindow index).desktop := by
  unfold focusWindow
  split <;> exact .of_windows rfl rfl

theorem focusById_numbered (numbered : self.desktop.Numbered) (id : Nat) :
    (self.focusById host id).1.desktop.Numbered := by
  unfold focusById
  split
  · exact numbered
  · split
    · exact numbered
    · rename_i window _
      have started : (self.setDesktop (self.desktop.putOn window)).desktop.Numbered := numbered.keep rfl rfl
      have pass := prepare_numbered started host
      dsimp only
      split
      · exact (focusWindow_same _ _).numbered pass
      · exact pass

theorem focusCommand_numbered (numbered : self.desktop.Numbered) (move : Bool) (argument : String) :
    (self.focusCommand host move argument).state.desktop.Numbered := by
  have unchanged : ∀ desktop, Except.ok self.desktop = Except.ok (ε := String) desktop →
      Desktop.SameTags self.desktop desktop := by
    intro desktop same
    cases same
    exact .refl _
  unfold focusCommand
  split
  · rename_i id _
    have focused : (self.focusById host id).1.desktop.Numbered := focusById_numbered numbered id
    exact focused.keep rfl rfl
  · split
    · exact (settle_same unchanged).numbered numbered
    · split
      · exact (settle_same unchanged).numbered numbered
      · split
        · refine (settle_same fun desktop swapped => ?_).numbered numbered
          cases swapped
          exact Desktop.swapWindows_same _ _
        · rename_i target _ _
          exact ((focusWindow_same self target).numbered numbered).keep rfl rfl

theorem runVerb_numbered (numbered : self.desktop.Numbered) (argument : String) (verb : Verb) :
    (self.runVerb host argument verb).state.desktop.Numbered := by
  have settles {result : Except String Desktop}
      (same : ∀ desktop, result = .ok desktop → Desktop.SameTags self.desktop desktop) :
      (self.settleDesktop result).state.desktop.Numbered := (settle_same same).numbered numbered
  cases verb with simp only [runVerb]
  | status | terminal | launcher | exec | launch | screenshot | lock | quit => exact numbered
  | performance => exact (performanceCommand_same argument).numbered numbered
  | recorder => exact (recorderCommand_same argument).numbered numbered
  | reload =>
    unfold reload
    split
    · exact numbered.keep rfl rfl
    · exact numbered.keep rfl rfl
  | workspace | send =>
    apply settles
    intro desktop accepted
    obtain ⟨target, workspace, -, -, -, rfl⟩ := Desktop.workspaceCommand_ok accepted
    split
    · exact Desktop.send_same _ _ _
    · exact Desktop.showWorkspace_same _ _
  | layout =>
    apply settles
    intro desktop accepted
    unfold layoutCommand at accepted
    split at accepted <;> cases accepted
    exact .of_windows rfl rfl
  | ratio =>
    apply settles
    intro desktop accepted
    rw [map_const_ok accepted]
    exact .refl _
  | close =>
    apply settles
    intro desktop accepted
    split at accepted
    · cases accepted
      exact .refl _
    · rw [map_const_ok accepted]
      exact .refl _
  | fullscreen | floating =>
    apply settles
    intro desktop toggled
    cases toggled
    unfold toggleWindow
    split
    · exact .refl _
    · apply Desktop.setWindow_same
      intro window
      rfl
  | scratchpad =>
    apply settles
    intro desktop accepted
    unfold Desktop.scratchpadCommand at accepted
    split at accepted <;> cases accepted
    · exact Desktop.scratchpadSend_same _
    · exact Desktop.scratchpadShow_same _
  | focus | move => exact focusCommand_numbered numbered _ argument

theorem handle_numbered (numbered : self.desktop.Numbered) (event : Event) : (self.handle event).1.desktop.Numbered := by
  cases asked : policyEvent event with
  | false =>
    have unmoved : Unmoved self (self.handle event).1 := handle_unmoved asked
    rw [unmoved.desktop]
    exact numbered.keep rfl rfl
  | true =>
    cases event with
    | command host command =>
      show (self.desktopCommand host command).state.desktop.Numbered
      unfold desktopCommand
      split
      · exact numbered
      · split
        · exact numbered
        · exact runVerb_numbered numbered _ _
    | maintain host => exact prepare_numbered numbered host
    | windowCreated element =>
      show (self.windowCreated element).desktop.Numbered
      unfold windowCreated
      split <;> exact numbered
    | windowMapped handle =>
      show (self.windowMapped handle).desktop.Numbered
      unfold windowMapped
      split <;> exact numbered
    | connectOutput name mode geometry =>
      show (self.connectOutput name mode geometry).desktop.Numbered
      unfold connectOutput
      split <;> exact numbered
    | windowChanged | windowUnmapped | refreshSpace | windowDied | disconnectOutput | changeOutput => exact numbered
    | _ => cases asked

theorem reachable_numbered (reachable : Reachable self) : self.desktop.Numbered := by
  obtain ⟨history, run⟩ := reachable
  refine Execution.invariant (fun _ self => self.desktop.Numbered) ?_ ?_ run
  · intro loaded
    exact ⟨List.nodup_nil, List.nodup_nil, by simp [initial, Desktop.tags]⟩
  · intro history self event _ _ numbered
    exact handle_numbered numbered event

/-! ## The command -/

theorem numbered_handle {desktop : Desktop} (numbered : desktop.Numbered) {one other : Managed}
    (first : one ∈ desktop.windows) (second : other ∈ desktop.windows) (same : one.window = other.window) :
    one.id = other.id := by
  have tags := List.inj_on_of_nodup_map numbered.handles (List.mem_map_of_mem first) (List.mem_map_of_mem second) same
  exact congrArg Prod.snd tags

/-- An id that stands at a place of the list stands nowhere behind it. -/
theorem numbered_behind {desktop : Desktop} (numbered : desktop.Numbered) {index : Nat} {one other : Managed}
    (stands : desktop.windows[index]? = some one) (behind : other ∈ desktop.windows.drop (index + 1)) :
    other.id ≠ one.id := by
  intro same
  have ids : (desktop.windows.map (·.id)).Nodup := by
    have tags := numbered.ids
    rw [Desktop.tags, List.map_map] at tags
    exact tags
  obtain ⟨inside, rfl⟩ := List.getElem?_eq_some_iff.mp stands
  have part := ids.sublist ((List.drop_sublist index desktop.windows).map (·.id))
  rw [List.drop_eq_getElem_cons inside, List.map_cons, List.nodup_cons] at part
  exact part.1 (same ▸ List.mem_map_of_mem behind)

/-- No window up to the one with the id is dead. -/
def AliveUpTo (self : AnvilState) (id : Nat) : Prop :=
  ∀ index, self.desktop.windows.findIdx? (·.id == id) = some index →
    ∀ window ∈ self.desktop.windows.take (index + 1), self.alive window.window = true

/-- The keyboard is on a managed window with the id. -/
def FocusedOn (self : AnvilState) (id : Nat) : Prop :=
  ∃ window ∈ self.desktop.windows, window.id = id ∧ self.seat.focus = some (.window window.window)

section Found

variable {index id : Nat} {window : Managed}

theorem placed_id (found : self.desktop.windows.findIdx? (·.id == id) = some index)
    (stands : self.desktop.windows[index]? = some window) : window.id = id := by
  obtain ⟨inside, named, -⟩ := List.findIdx?_eq_some_iff_getElem.mp found
  obtain ⟨-, rfl⟩ := List.getElem?_eq_some_iff.mp stands
  simpa using named

theorem focusById_alive (host : Host) (up : self.panicked = false) (found : self.desktop.windows.findIdx? (·.id == id) = some index)
    (stands : self.desktop.windows[index]? = some window)
    (alive : ∀ window ∈ self.desktop.windows.take (index + 1), self.alive window.window = true) :
    (self.focusById host id).1.panicked = false ∧ (self.focusById host id).1.FocusedOn id := by
  set started := self.setDesktop (self.desktop.putOn window) with starting
  obtain ⟨handles, -, -, tags, -⟩ := prepare_renewed started host
  have living : started.living[index]? = some window := (filter_place alive).trans stands
  have tag : ((started.prepare host).desktop.windows.map Managed.tag)[index]? = some window.tag := by
    obtain ⟨inside, there⟩ := List.getElem?_eq_some_iff.mp living
    rw [Desktop.tags] at tags
    rw [tags, List.getElem?_append_left (by simpa using inside), List.getElem?_map, living]
    rfl
  rw [List.getElem?_map, Option.map_eq_some_iff] at tag
  obtain ⟨target, now, same⟩ := tag
  have inside := (List.getElem?_eq_some_iff.mp now).1
  have focuses : (self.focusById host id).1 = ((started.maintainDesktop host).1).focusWindow index := by
    unfold focusById
    simp only [found, stands]
    exact congrArg Prod.fst (if_pos inside)
  have focused : (self.focusById host id).1 = { (started.maintainDesktop host).1 with
      seat := { (started.maintainDesktop host).1.seat with focus := some (.window target.window) }
      desktop := { (started.maintainDesktop host).1.desktop with redraw := true } } := by
    rw [focuses]
    unfold focusWindow
    rw [show (started.maintainDesktop host).1.desktop.windows[index]? = some target from now]
  constructor
  · rw [focused]
    show (started.prepare host).panicked = false
    rw [(prepare_prepared started host).rest]
    exact up
  · rw [focused]
    refine ⟨target, List.mem_of_getElem? now, ?_, rfl⟩
    exact (congrArg Prod.snd same).trans (placed_id found stands)

theorem focusById_dead (host : Host) (numbered : self.desktop.Numbered)
    (found : self.desktop.windows.findIdx? (·.id == id) = some index)
    (stands : self.desktop.windows[index]? = some window) {lost : Managed}
    (there : lost ∈ self.desktop.windows.take (index + 1)) (dead : self.alive lost.window = false) :
    (self.focusById host id).1.panicked = true ∨ ¬(self.focusById host id).1.FocusedOn id := by
  set started := self.setDesktop (self.desktop.putOn window) with starting
  have begun : started.desktop.Numbered := numbered.keep rfl rfl
  obtain ⟨handles, -, -, tags, -⟩ := prepare_renewed started host
  have named := placed_id found stands
  -- What stands at the place after the pass was behind it before, or is new.
  have another (target : Managed) (now : (started.prepare host).desktop.windows[index]? = some target) :
      target.id ≠ id := by
    have tag : ((started.prepare host).desktop.windows.map Managed.tag)[index]? = some target.tag := by
      rw [List.getElem?_map, now]
      rfl
    rw [Desktop.tags] at tags
    rw [tags] at tag
    rw [List.getElem?_append] at tag
    split at tag
    · have old := tag
      rw [List.getElem?_map, Option.map_eq_some_iff] at old
      obtain ⟨survivor, survives, same⟩ := old
      have behind := filter_shifted there dead survives
      rw [← show survivor.id = target.id from congrArg Prod.snd same, ← named]
      exact numbered_behind numbered stands behind
    · obtain ⟨above, -⟩ := List.mem_zipIdx (List.mem_of_getElem? tag)
      have below := numbered.below window.tag (List.mem_map_of_mem (List.mem_of_getElem? stands))
      simp only [Managed.tag] at below
      change self.desktop.nextId ≤ target.id at above
      omega
  by_cases inside : index < (started.prepare host).desktop.windows.length
  · right
    have focuses : (self.focusById host id).1 = ((started.maintainDesktop host).1).focusWindow index := by
      unfold focusById
      simp only [found, stands]
      exact congrArg Prod.fst (if_pos inside)
    obtain ⟨target, now⟩ : ∃ target, (started.prepare host).desktop.windows[index]? = some target :=
      ⟨_, List.getElem?_eq_getElem inside⟩
    rw [focuses]
    unfold focusWindow
    rw [show (started.maintainDesktop host).1.desktop.windows[index]? = some target from now]
    rintro ⟨other, managed, names, focus⟩
    injection focus with handle
    injection handle with handle
    have same := numbered_handle (prepare_numbered begun host) managed (List.mem_of_getElem? now) handle.symm
    exact another target now (same ▸ names)
  · left
    unfold focusById
    simp only [found, stands]
    rw [if_neg (show ¬index < (started.maintainDesktop host).1.desktop.windows.length from inside)]

end Found

/-- The process lives on. If a window had the id, then the keyboard is on the window with the
id; if none had it, then only a repaint is due. -/
structure FocusesNamed (id : Nat) (before after : AnvilState) : Prop where
  runs : after.panicked = false
  focused : (∃ window ∈ before.desktop.windows, window.id = id) → after.FocusedOn id
  nothing : (∀ window ∈ before.desktop.windows, window.id ≠ id) →
    after = before.setDesktop { before.desktop with dirty := true, redraw := true }

theorem focusCommand_id {argument : String} {id : Nat} (reads : Text.parseUnsigned (2 ^ 64 - 1) argument = some id)
    (move : Bool) : (self.focusCommand host move argument).state =
      (self.focusById host id).1.setDesktop { (self.focusById host id).1.desktop with dirty := true, redraw := true } := by
  unfold focusCommand
  rw [reads]
  rfl

theorem focusCommand_focuses {argument : String} {id : Nat} (numbered : self.desktop.Numbered)
    (up : self.panicked = false) (reads : Text.parseUnsigned (2 ^ 64 - 1) argument = some id) (move : Bool) :
    FocusesNamed id self (self.focusCommand host move argument).state ↔ self.AliveUpTo id := by
  rw [focusCommand_id reads]
  cases found : self.desktop.windows.findIdx? (·.id == id) with
  | none =>
    have nobody : ∀ window ∈ self.desktop.windows, window.id ≠ id := by
      simpa using List.findIdx?_eq_none_iff.mp found
    have unchanged : self.focusById host id = (self, []) := by
      unfold focusById
      rw [found]
    rw [unchanged]
    constructor
    · intro _ index somewhere
      rw [found] at somewhere
      cases somewhere
    · intro _
      refine ⟨up, ?_, fun _ => rfl⟩
      rintro ⟨window, there, names⟩
      exact absurd names (nobody window there)
  | some index =>
    obtain ⟨inside, -, -⟩ := List.findIdx?_eq_some_iff_getElem.mp found
    have stands := List.getElem?_eq_getElem inside
    have present : ∃ window ∈ self.desktop.windows, window.id = id :=
      ⟨_, List.getElem_mem inside, placed_id found stands⟩
    constructor
    · intro focuses position somewhere lost there
      cases found.symm.trans somewhere
      by_contra dead
      rcases focusById_dead host numbered found stands there (by simpa using dead) with stopped | elsewhere
      · have runs : (self.focusById host id).1.panicked = false := focuses.runs
        rw [stopped] at runs
        cases runs
      · exact elsewhere (focuses.focused present)
    · intro alive
      obtain ⟨runs, focused⟩ := focusById_alive host up found stands (alive index found)
      refine ⟨runs, fun _ => focused, fun absent => ?_⟩
      obtain ⟨window, there, names⟩ := present
      exact absurd names (absent window there)

/-- In every reachable state `focus ID` is refused on a locked session or does what it says
exactly if the session is locked or no window up to the one with the id has died since the
last pass. -/
theorem focus_id_focuses_named (reachable : Reachable self) (up : self.panicked = false) (host : Host)
    {command argument : String} {id : Nat} (focus : splitCommand command = ("focus", argument))
    (reads : Text.parseUnsigned (2 ^ 64 - 1) argument = some id) :
    (self.lock.locked = true ∧ (self.desktopCommand host command).state = self ∨
      FocusesNamed id self (self.desktopCommand host command).state) ↔
    (self.lock.locked = true ∨ self.AliveUpTo id) := by
  cases session : self.lock.locked with
  | true =>
    have refused : (self.desktopCommand host command).state = self := by
      unfold desktopCommand
      have verb (other : String) (named : (splitCommand other).1 ≠ "focus") : command ≠ other := by
        rintro rfl
        exact named (congrArg Prod.fst focus)
      rw [if_pos ⟨session, verb "status" (by decide +kernel), verb "performance status" (by decide +kernel)⟩]
    simp [refused]
  | false =>
    have runs : (self.desktopCommand host command).state = (self.focusCommand host false argument).state := by
      unfold desktopCommand
      rw [if_neg (by simp [session]), focus]
      rfl
    rw [runs]
    simpa using focusCommand_focuses (reachable_numbered reachable) up reads false

/-- Two windows, the first of which dies. -/
def firstDied : List Event := [
  .connectOutput "DP-1" (some (1920, 1080)) (some ⟨0, 0, 1920, 1080⟩),
  .windowCreated { handle := 7 },
  .windowMapped 7,
  .windowCreated { handle := 8 },
  .windowMapped 8,
  .maintain {},
  .windowDied 7,
  .refreshSpace]

def runState (events : List Event) : AnvilState :=
  (Transition.execute step (initial (.error "no configuration")) events).1

theorem runState_reachable (events : List Event) : Reachable (runState events) :=
  ⟨_, Transition.Run.execute events (.start ⟨_, rfl⟩) (Transition.permits_unrestricted _ _ _ _)⟩

theorem focus_id_focuses_named_living :
    FocusesNamed 2 (runState (firstDied.take 6)) ((runState (firstDied.take 6)).desktopCommand {} "focus 2").state := by
  have focuses := (focus_id_focuses_named (runState_reachable (firstDied.take 6)) (by decide +kernel) {}
    (show splitCommand "focus 2" = ("focus", "2") by decide +kernel) (show _ = some 2 by decide +kernel)).mpr
    (.inr (by
      intro index found
      have second : (runState (firstDied.take 6)).desktop.windows.findIdx? (·.id == 2) = some 1 := by decide +kernel
      cases second.symm.trans found
      decide +kernel))
  rcases focuses with ⟨locked, -⟩ | focuses
  · exact absurd locked (by decide +kernel)
  · exact focuses

/-- The place of the second window is out of range once the pass has dropped the first. -/
theorem focus_id_panics : ∃ self, Reachable self ∧ self.panicked = false ∧ self.lock.locked = false ∧
    (∃ window ∈ self.desktop.windows, window.id = 2) ∧ (self.desktopCommand {} "focus 2").state.panicked = true :=
  ⟨runState firstDied, runState_reachable _, by decide +kernel, by decide +kernel, by decide +kernel,
    by decide +kernel⟩

end AnvilState

end Luma.Compositor
