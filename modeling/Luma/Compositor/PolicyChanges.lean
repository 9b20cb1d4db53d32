import Luma.Compositor.Locality
import Luma.Compositor.OutputMap

/-! What an event asks of policy, and that policy does just that.

Few events change where windows live or what outputs show. Each asks for one
change, which is read off the event and the state; the changes that run the
maintenance pass make theirs first.
-/

set_option autoImplicit false

namespace Luma.Compositor

open Luma.Library Luma.Core Luma.Library.Assignment

/-- The part of a managed window that says where it lives. -/
structure Home where
  window : Nat
  workspace : Nat
  output : String
  scratchpad : Bool
  deriving DecidableEq, Repr

def Managed.home (self : Managed) : Home := ⟨self.window, self.workspace, self.output, self.scratchpad⟩

theorem Managed.home_eq {one other : Managed} (same : one.home = other.home) :
    one.window = other.window ∧ one.workspace = other.workspace ∧ one.output = other.output ∧
      one.scratchpad = other.scratchpad := by
  simpa [home] using same

/-- The same policy up to the order of the windows and what they look like. -/
structure Kept (before after : Desktop) : Prop where
  rules : after.config.rules = before.config.rules
  workspaces : after.config.layout.workspaces = before.config.layout.workspaces
  outputs : after.outputs = before.outputs
  windows : ∀ window ∈ after.windows, ∃ earlier ∈ before.windows, window.home = earlier.home

namespace Kept

variable {before middle after : Desktop}

theorem refl (self : Desktop) : Kept self self := ⟨rfl, rfl, rfl, fun window there => ⟨window, there, rfl⟩⟩

theorem trans (one : Kept before middle) (two : Kept middle after) : Kept before after where
  rules := two.rules.trans one.rules
  workspaces := two.workspaces.trans one.workspaces
  outputs := two.outputs.trans one.outputs
  windows := by
    intro window there
    obtain ⟨earlier, known, same⟩ := two.windows window there
    obtain ⟨origin, first, home⟩ := one.windows earlier known
    exact ⟨origin, first, same.trans home⟩

theorem of_windows (rules : after.config.rules = before.config.rules)
    (workspaces : after.config.layout.workspaces = before.config.layout.workspaces)
    (outputs : after.outputs = before.outputs) (windows : after.windows = before.windows) : Kept before after :=
  ⟨rules, workspaces, outputs, fun window there => ⟨window, windows ▸ there, rfl⟩⟩

end Kept

theorem Desktop.kept_setWindow (self : Desktop) (index : Nat) (change : Managed → Managed)
    (same : ∀ window, (change window).home = window.home) : Kept self (self.setWindow index change) := by
  refine ⟨rfl, rfl, rfl, fun window there => ?_⟩
  obtain ⟨position, inside, rfl⟩ := List.mem_iff_getElem.mp there
  rw [setWindow, List.length_modify] at inside
  refine ⟨self.windows[position], List.getElem_mem inside, ?_⟩
  simp only [setWindow, List.getElem_modify]
  split
  · exact same _
  · rfl

theorem Desktop.kept_swapWindows (self : Desktop) (left right : Nat) : Kept self (self.swapWindows left right) := by
  unfold swapWindows
  split
  · rename_i first second one two
    refine ⟨rfl, rfl, rfl, fun window there => ⟨window, ?_, rfl⟩⟩
    rcases List.mem_or_eq_of_mem_set there with earlier | rfl
    · rcases List.mem_or_eq_of_mem_set earlier with original | rfl
      · exact original
      · exact List.mem_of_getElem? two
    · exact List.mem_of_getElem? one
  · exact .refl self

namespace AnvilState

variable {self : AnvilState} {host : Host}

/-! ## Events that policy does not carry out -/

/-- Events that change windows, outputs or the desktop itself. -/
def policyEvent : Event → Bool
  | .command .. | .maintain .. | .windowCreated .. | .windowChanged .. | .windowMapped .. | .windowUnmapped ..
  | .windowDied .. | .refreshSpace | .connectOutput .. | .disconnectOutput .. | .changeOutput .. => true
  | _ => false

/-- Neither the windows nor the names of the outputs change, and policy does not. -/
structure Unmoved (before after : AnvilState) : Prop where
  desktop : after.desktop = { before.desktop with
    dirty := after.desktop.dirty, redraw := after.desktop.redraw, active := after.desktop.active }
  toplevels : after.toplevels = before.toplevels
  elements : after.space.elements = before.space.elements
  names : after.outputNames = before.outputNames

theorem unmoved_of_eq {after : AnvilState} (desktop : after.desktop = self.desktop)
    (toplevels : after.toplevels = self.toplevels) (space : after.space = self.space) : Unmoved self after :=
  ⟨by rw [desktop], toplevels, by rw [space], by rw [outputNames, space]; rfl⟩

theorem Served.unmoved {requests : List PendingCaptureFrame} {result : AnvilState × List Observation}
    (served : Served requests self result) : Unmoved self result.1 :=
  unmoved_of_eq served.desktop (by rw [served.rest]) served.space

theorem names_map {outputs : List Output} {change : Output → Output}
    (same : ∀ output, (change output).name = output.name) : (outputs.map change).map (·.name) = outputs.map (·.name) := by
  rw [List.map_map]
  exact List.map_congr_left fun output _ => same output

theorem requestLock_unmoved (locker : Nat) : Unmoved self (self.requestLock locker).1 := by
  unfold requestLock
  split
  · exact unmoved_of_eq rfl rfl rfl
  · exact ⟨rfl, rfl, rfl, names_map fun _ => rfl⟩

theorem countPresented_unmoved (frame : PresentedFrame) (generation : Nat) :
    Unmoved self (self.countPresented frame generation) := by
  have names : (self.recordPresented frame generation).outputNames = self.outputNames := by
    apply names_map
    intro output
    split <;> rfl
  unfold countPresented
  dsimp only
  split <;> exact ⟨rfl, rfl, rfl, names⟩

theorem runIdle_unmoved : Unmoved self self.runIdle.1 := by
  rcases runIdle_cases self with ⟨-, nothing⟩ | ⟨frame, idles, -, ⟨-, taken⟩ | ⟨generation, -, presented⟩⟩
  · rw [nothing]
    exact unmoved_of_eq rfl rfl rfl
  · rw [taken]
    exact unmoved_of_eq rfl rfl rfl
  · rw [presented]
    set waiting := self.setPresentation { self.presentation with idles }
    have counted : Unmoved waiting (waiting.countPresented frame generation) := countPresented_unmoved _ _
    have still : Unmoved waiting (waiting.lockPresented frame generation).1 := by
      rcases lockPresented_cases waiting frame generation with nothing | ⟨-, -, counts | ⟨-, confirms⟩⟩
      · rw [nothing]
        exact unmoved_of_eq rfl rfl rfl
      · rw [counts]
        exact counted
      · rw [confirms]
        exact ⟨counted.desktop, counted.toplevels, counted.elements, counted.names⟩
    exact ⟨still.desktop, still.toplevels, still.elements, still.names⟩

theorem repaint_unmoved : Unmoved self (self.repaint host).1 := by
  rcases repaint_cases self host with idle | ⟨-, -, served, drained, painted⟩
  · rw [idle]
    exact unmoved_of_eq rfl rfl rfl
  · rw [painted]
    have answered := drained.served.unmoved
    rw [painted_rest] at answered
    exact ⟨answered.desktop, answered.toplevels, answered.elements, answered.names⟩

theorem frame_unmoved (session : Nat) (dmabuf valid : Bool) :
    Unmoved self (self.frame host session dmabuf valid).1 := by
  rcases frame_cases self host session dmabuf valid with idle | ⟨found, member, -, failed | queued | answered⟩
  · rw [idle]
    exact unmoved_of_eq rfl rfl rfl
  · rw [failed]
    exact unmoved_of_eq rfl rfl rfl
  · rw [queued]
    exact unmoved_of_eq rfl rfl rfl
  · rw [answered]
    have served := (completeCaptureFrame_served { self with nextCapture := self.nextCapture + 1 } host
      ⟨found.id, { id := self.nextCapture, dmabuf, valid }⟩ member rfl).unmoved
    exact ⟨served.desktop, served.toplevels, served.elements, served.names⟩

theorem handle_unmoved {event : Event} (other : policyEvent event = false) :
    Unmoved self (self.handle event).1 := by
  cases event with
  | command | maintain | windowCreated | windowChanged | windowMapped | windowUnmapped | windowDied | refreshSpace
  | connectOutput | disconnectOutput | changeOutput => cases other
  | seat | dropFrame | sessionDestroyed | frameAborted | screencopyDestroyed => exact unmoved_of_eq rfl rfl rfl
  | requestRedraw | pauseSession | activateSession => exact ⟨rfl, rfl, rfl, rfl⟩
  | unlock => exact ⟨rfl, rfl, rfl, names_map fun _ => rfl⟩
  | windowCommit host handle =>
    have served := (processCommitDrivenCapture_drained self.advanceGeneration host handle).served.unmoved
    exact ⟨served.desktop, served.toplevels, served.elements, served.names⟩
  | lock locker => exact requestLock_unmoved locker
  | lockSurface output =>
    show Unmoved self (self.newLockSurface output)
    unfold newLockSurface
    split
    · exact unmoved_of_eq rfl rfl rfl
    · refine ⟨rfl, rfl, rfl, names_map fun output => ?_⟩
      split <;> rfl
  | queueFrame output =>
    show Unmoved self (self.queueFrame output).1
    unfold queueFrame
    split <;> exact unmoved_of_eq rfl rfl rfl
  | frameFinish frame =>
    show Unmoved self (self.frameFinish frame).1
    unfold frameFinish
    split
    · exact unmoved_of_eq rfl rfl rfl
    · split <;> exact unmoved_of_eq rfl rfl rfl
  | idle => exact runIdle_unmoved
  | repaint host => exact repaint_unmoved
  | boostTick host => exact (captureBoostTick_drained self host).served.unmoved
  | newSession client output =>
    show Unmoved self (self.newSession client output).1
    unfold newSession
    split
    · exact unmoved_of_eq rfl rfl rfl
    · dsimp only
      split <;> exact unmoved_of_eq rfl rfl rfl
  | frame host session dmabuf valid => exact frame_unmoved session dmabuf valid
  | captureOutput manager output region =>
    show Unmoved self (self.createFrame manager output region).1
    unfold createFrame
    dsimp only
    split <;> exact unmoved_of_eq rfl rfl rfl
  | copy host frame buffer withDamage =>
    show Unmoved self (self.requestCopy host frame buffer withDamage).1
    rw [requestCopy_rest]
    exact unmoved_of_eq rfl rfl rfl

end AnvilState

/-! ## Changes -/

/-- What an event asks of policy. -/
inductive Change where
  | keep
  | reload (config : Config)
  | send (index : Nat) (out : String) (workspace : Nat)
  | workspace (out : String) (workspace : Nat)
  | stash (index : Nat)
  | unstash (window : Managed) (out : String)
  | maintain
  | focus (window : Managed)

namespace Change

/-- Changes that run the maintenance pass afterwards. -/
def maintains : Change → Bool
  | .maintain | .focus _ => true
  | _ => false

def apply (self : Desktop) : Change → Desktop
  | .keep | .maintain => self
  | .reload config => { self with config }
  | .send index out number => self.send (some index) out number
  | .workspace out number => self.showWorkspace out number
  | .stash index => self.scratchpadSend (some index)
  | .unstash _ out => self.scratchpadShow out
  | .focus window => self.putOn window

/-- What is known of a change that was read off an event. -/
def Proper (self : Desktop) : Change → Prop
  | .reload config => config.validate = .ok ()
  | .send _ _ number | .workspace _ number => 1 ≤ number ∧ number ≤ self.config.layout.workspaces
  | .unstash window _ => self.windows.find? (·.scratchpad) = some window
  | .focus window => window ∈ self.windows
  | _ => True

end Change

namespace Desktop

def workspaceChange (self : Desktop) (send : Bool) (focused : Option Nat) (out argument : String) : Change :=
  let (number, target) := (Text.splitOnce argument ' ').getD (argument, "")
  match Text.parseUnsigned 255 number with
  | none => .keep
  | some workspace =>
    match self.workspaceTarget send out target with
    | .error _ => .keep
    | .ok out =>
      if workspace = 0 ∨ workspace > self.config.layout.workspaces then .keep
      else if !send then .workspace out workspace
      else
        match focused with
        | none => .keep
        | some index => .send index out workspace

def scratchpadChange (self : Desktop) (focused : Option Nat) (out : String) : String → Change
  | "send" =>
    match focused with
    | none => .keep
    | some index => .stash index
  | "show" =>
    match self.windows.find? (·.scratchpad) with
    | none => .keep
    | some window => .unstash window out
  | _ => .keep

theorem workspaceChange_proper (self : Desktop) (send : Bool) (focused : Option Nat) (out argument : String) :
    (self.workspaceChange send focused out argument).Proper self := by
  unfold workspaceChange
  dsimp only
  split
  · trivial
  · split
    · trivial
    · split
      · trivial
      · rename_i inside
        have bounds := not_or.mp inside
        split
        · exact ⟨by omega, by omega⟩
        · split
          · trivial
          · exact ⟨by omega, by omega⟩

theorem scratchpadChange_proper (self : Desktop) (focused : Option Nat) (out action : String) :
    (self.scratchpadChange focused out action).Proper self := by
  unfold scratchpadChange
  split
  · split <;> trivial
  · split
    · trivial
    · assumption
  · trivial

/-- A command is carried out as the change it asks for, or fails and asks for none. -/
def CarriesOut (self : Desktop) (change : Change) (result : Except String Desktop) : Prop :=
  change.maintains = false ∧ (result = .ok (change.apply self) ∨ (∃ error, result = .error error) ∧ change = .keep)

theorem workspaceCommand_carriesOut (self : Desktop) (send : Bool) (focused : Option Nat) (out argument : String) :
    self.CarriesOut (self.workspaceChange send focused out argument)
      (self.workspaceCommand send focused out argument) := by
  unfold CarriesOut workspaceCommand workspaceChange
  dsimp only
  cases parsed : Text.parseUnsigned 255 ((Text.splitOnce argument ' ').getD (argument, "")).1 with
  | none => exact ⟨rfl, .inr ⟨⟨_, rfl⟩, rfl⟩⟩
  | some workspace =>
    dsimp only
    cases named : self.workspaceTarget send out ((Text.splitOnce argument ' ').getD (argument, "")).2 with
    | error _ => exact ⟨rfl, .inr ⟨⟨_, rfl⟩, rfl⟩⟩
    | ok out =>
      dsimp only
      split
      · exact ⟨rfl, .inr ⟨⟨_, rfl⟩, rfl⟩⟩
      · cases send with
        | false => exact ⟨rfl, .inl rfl⟩
        | true =>
          cases focused with
          | none => exact ⟨rfl, .inl rfl⟩
          | some index => exact ⟨rfl, .inl rfl⟩

theorem scratchpadShow_none {self : Desktop} (nothing : self.windows.find? (·.scratchpad) = none) (out : String) :
    self.scratchpadShow out = self := by
  unfold scratchpadShow
  have missing : self.windows.findIdx? (·.scratchpad) = none := by
    rw [List.findIdx?_eq_none_iff]
    intro window there
    simpa using List.find?_eq_none.mp nothing window there
  rw [missing]

theorem scratchpadCommand_carriesOut (self : Desktop) (focused : Option Nat) (out action : String) :
    self.CarriesOut (self.scratchpadChange focused out action) (self.scratchpadCommand focused out action) := by
  by_cases send : action = "send"
  · subst send
    cases focused with
    | none => exact ⟨rfl, .inl rfl⟩
    | some index => exact ⟨rfl, .inl rfl⟩
  · by_cases shows : action = "show"
    · subst shows
      cases found : self.windows.find? (·.scratchpad) with
      | none =>
        have kept : self.scratchpadChange focused out "show" = .keep := by simp [scratchpadChange, found]
        rw [kept]
        exact ⟨rfl, .inl (congrArg Except.ok (scratchpadShow_none found out))⟩
      | some window =>
        have taken : self.scratchpadChange focused out "show" = .unstash window out := by
          simp [scratchpadChange, found]
        rw [taken]
        refine ⟨rfl, .inl ?_⟩
        simp [scratchpadCommand, Change.apply]
    · have kept : self.scratchpadChange focused out action = .keep := by
        unfold scratchpadChange
        split <;> first | contradiction | rfl
      have refused : self.scratchpadCommand focused out action = .error "scratchpad send/show" := by
        unfold scratchpadCommand
        split <;> first | contradiction | rfl
      rw [kept, refused]
      exact ⟨rfl, .inr ⟨⟨_, rfl⟩, rfl⟩⟩

end Desktop

namespace AnvilState

def reloadChange (host : Host) : Change :=
  match Config.load host.config with
  | .ok config => .reload config
  | .error _ => .keep

/-- `focus ID` and `move ID`; a direction changes no home. -/
def focusChange (self : AnvilState) (argument : String) : Change :=
  match Text.parseUnsigned (2 ^ 64 - 1) argument with
  | none => .keep
  | some id =>
    match self.desktop.windows.find? (·.id == id) with
    | none => .keep
    | some window => .focus window

def verbChange (self : AnvilState) (host : Host) (argument : String) : Verb → Change
  | .reload => reloadChange host
  | .workspace => self.desktop.workspaceChange false self.focusedIndex (self.activeOutput.getD "") argument
  | .send => self.desktop.workspaceChange true self.focusedIndex (self.activeOutput.getD "") argument
  | .scratchpad => self.desktop.scratchpadChange self.focusedIndex (self.activeOutput.getD "") argument
  | .focus | .move => self.focusChange argument
  | _ => .keep

def commandChange (self : AnvilState) (host : Host) (command : String) : Change :=
  if self.lock.locked then .keep
  else
    match Verb.parse (splitCommand command).1 with
    | none => .keep
    | some verb => self.verbChange host (splitCommand command).2 verb

def change (self : AnvilState) : Event → Change
  | .command host command => self.commandChange host command
  | .maintain _ => .maintain
  | _ => .keep

theorem change_proper (self : AnvilState) (event : Event) : (self.change event).Proper self.desktop := by
  cases event with
  | command host command =>
    show (self.commandChange host command).Proper self.desktop
    unfold commandChange
    split
    · trivial
    · split
      · trivial
      · rename_i verb _
        have focusing (argument : String) : (self.focusChange argument).Proper self.desktop := by
          unfold focusChange
          split
          · trivial
          · split
            · trivial
            · exact List.mem_of_find?_eq_some ‹_›
        cases verb with simp only [verbChange]
        | reload =>
          unfold reloadChange
          split
          · exact Config.load_ok ‹_›
          · trivial
        | workspace | send => exact Desktop.workspaceChange_proper ..
        | scratchpad => exact Desktop.scratchpadChange_proper ..
        | focus | move => exact focusing _
        | _ => trivial
  | _ => trivial

variable {self before middle after : AnvilState} {host : Host} {change : Change}

/-- Policy, the mapped elements and the windows are the same. -/
structure Still (before after : AnvilState) : Prop where
  kept : Kept before.desktop after.desktop
  elements : after.space.elements = before.space.elements
  toplevels : after.toplevels = before.toplevels

theorem Still.refl (self : AnvilState) : Still self self := ⟨.refl _, rfl, rfl⟩

theorem Still.trans (one : Still before middle) (two : Still middle after) : Still before after :=
  ⟨one.kept.trans two.kept, two.elements.trans one.elements, two.toplevels.trans one.toplevels⟩

theorem still_desktop {desktop : Desktop} (kept : Kept self.desktop desktop) : Still self (self.setDesktop desktop) :=
  ⟨kept, rfl, rfl⟩

/-- Only other parts of the state change. -/
theorem still_same (config : after.desktop.config = self.desktop.config)
    (outputs : after.desktop.outputs = self.desktop.outputs) (windows : after.desktop.windows = self.desktop.windows)
    (elements : after.space.elements = self.space.elements) (toplevels : after.toplevels = self.toplevels) :
    Still self after :=
  ⟨.of_windows (by rw [config]) (by rw [config]) outputs windows, elements, toplevels⟩

theorem Unmoved.still (unmoved : Unmoved before after) : Still before after := by
  refine still_same ?_ ?_ ?_ unmoved.elements unmoved.toplevels <;> rw [unmoved.desktop]

/-- Policy is the same. Windows that were known still are, and none comes back to life. -/
structure Moved (before after : AnvilState) : Prop where
  kept : Kept before.desktop after.desktop
  elements : ∀ handle ∈ after.space.elements,
    handle ∈ before.space.elements ∨ (before.findToplevel handle).isSome
  toplevels : ∀ handle, (before.findToplevel handle).isSome →
    (after.findToplevel handle).isSome ∧ (after.alive handle = true → before.alive handle = true)

theorem Still.moved (still : Still before after) : Moved before after := by
  have found (handle : Nat) : after.findToplevel handle = before.findToplevel handle := by
    rw [findToplevel, findToplevel, still.toplevels]
  refine ⟨still.kept, fun handle there => .inl (still.elements ▸ there), fun handle known => ?_⟩
  rw [alive, alive, found]
  exact ⟨known, id⟩

theorem Moved.trans (one : Moved before middle) (two : Still middle after) : Moved before after where
  kept := one.kept.trans two.kept
  elements := by
    rw [two.elements]
    exact one.elements
  toplevels := by
    intro handle known
    obtain ⟨still, revives⟩ := one.toplevels handle known
    obtain ⟨last, living⟩ := two.moved.toplevels handle still
    exact ⟨last, fun alive => revives (living alive)⟩

/-- The change is made, and the pass is run after it if it runs one. -/
inductive Follows (self : AnvilState) (change : Change) (after : AnvilState) : Prop where
  | settled : change.maintains = false → Moved (self.setDesktop (change.apply self.desktop)) after →
      Follows self change after
  | maintained (host : Host) : change.maintains = true →
      Moved ((self.setDesktop (change.apply self.desktop)).prepare host) after → Follows self change after

theorem follows_moved (moved : Moved self after) : Follows self .keep after := .settled rfl moved

theorem follows_keep (still : Still self after) : Follows self .keep after := follows_moved still.moved

theorem Follows.trans (follows : Follows self change middle) (still : Still middle after) :
    Follows self change after := by
  cases follows with
  | settled direct made => exact .settled direct (made.trans still)
  | maintained host passes made => exact .maintained host passes (made.trans still)

theorem settle_follows {result : Except String Desktop} (carries : self.desktop.CarriesOut change result) :
    Follows self change (self.settleDesktop result).state := by
  obtain ⟨direct, done | ⟨⟨error, failed⟩, nothing⟩⟩ := carries
  · rw [done]
    apply Follows.settled direct
    apply Still.moved
    exact still_same rfl rfl rfl rfl rfl
  · rw [failed, nothing]
    exact follows_keep (.refl _)

theorem settle_still {result : Except String Desktop}
    (kept : ∀ desktop, result = .ok desktop → Kept self.desktop desktop) :
    Still self (self.settleDesktop result).state := by
  rcases result with error | desktop
  · exact .refl _
  · exact still_desktop ((kept desktop rfl).trans (.of_windows rfl rfl rfl rfl))

theorem settleRecording_still (outcome : RecorderOutcome) : Still self (self.settleRecording outcome).state := by
  unfold settleRecording
  dsimp only
  split <;> exact still_same rfl rfl rfl rfl rfl

theorem beginRecording_still (argument : String) (action : RecorderAction) :
    Still self (self.beginRecording host argument action).state := by
  unfold beginRecording
  split
  · exact .refl _
  · exact settleRecording_still _

theorem still_setRecorder (recorder : Recorder) : Still self (self.setRecorder recorder) :=
  still_desktop (.of_windows rfl rfl rfl rfl)

theorem still_markDirty : Still self self.markDirty := still_same rfl rfl rfl rfl rfl

theorem recorderAction_still (argument : String) (action : RecorderAction) :
    Still self (self.recorderAction host argument action).state := by
  cases action with simp only [recorderAction]
  | stop | pause | replaySave => exact settleRecording_still _
  | set =>
    unfold recorderSet
    split
    · exact .refl _
    · split
      · exact .refl _
      · split
        · exact .refl _
        · split
          · exact still_setRecorder _
          · exact (still_setRecorder _).trans still_markDirty
  | settingsReset =>
    unfold recorderReset
    split
    · exact .refl _
    · split
      · exact .refl _
      · exact (still_setRecorder _).trans still_markDirty
  | status => exact .refl _
  | start | gameStart | gameAttach | xwaylandStart | replayStart | toggle => exact beginRecording_still _ _

theorem recorderCommand_still (argument : String) : Still self (self.recorderCommand host argument).state := by
  unfold recorderCommand
  split
  · exact .refl _
  · split
    · exact .refl _
    · exact recorderAction_still _ _

theorem performanceCommand_still (argument : String) : Still self (self.performanceCommand argument).state := by
  unfold performanceCommand
  split
  · exact .refl _
  · exact .refl _
  · exact still_markDirty
  · exact .refl _
  · split
    · exact .refl _
    · exact still_same rfl rfl rfl rfl rfl
  · exact .refl _

theorem reload_follows : Follows self (reloadChange host) (self.reload host).state := by
  unfold reload reloadChange
  cases loaded : Config.load host.config with
  | error error => exact follows_keep (still_same rfl rfl rfl rfl rfl)
  | ok config =>
    apply Follows.settled rfl
    apply Still.moved
    exact still_same rfl rfl rfl rfl rfl

theorem toggleWindow_kept {change : Managed → Managed} (same : ∀ window, (change window).home = window.home) :
    Kept self.desktop (self.toggleWindow change) := by
  unfold toggleWindow
  split
  · exact .refl _
  · exact Desktop.kept_setWindow _ _ _ same

theorem focusWindow_still (self : AnvilState) (index : Nat) : Still self (self.focusWindow index) := by
  unfold focusWindow
  split
  · exact .refl _
  · exact still_same rfl rfl rfl rfl rfl

theorem focusById_follows {id : Nat} {window : Managed} (found : self.desktop.windows.find? (·.id == id) = some window) :
    Follows self (.focus window) (self.focusById host id).1 := by
  rw [List.find?_eq_bind_findIdx?_getElem?, Option.bind_eq_some_iff] at found
  obtain ⟨index, position, inside⟩ := found
  unfold focusById
  rw [position]
  dsimp only
  rw [inside]
  dsimp only
  set maintained := ((self.setDesktop (self.desktop.putOn window)).maintainDesktop host).1
  -- Refreshing the sessions is all that follows the pass, besides the focus.
  have pass : Still ((self.setDesktop (self.desktop.putOn window)).prepare host) maintained :=
    still_same rfl rfl rfl rfl rfl
  apply Follows.maintained host rfl
  apply Still.moved
  split
  · exact pass.trans (focusWindow_still maintained index)
  · exact pass.trans (still_same rfl rfl rfl rfl rfl)

theorem focusCommand_follows (move : Bool) (argument : String) :
    Follows self (self.focusChange argument) (self.focusCommand host move argument).state := by
  unfold focusCommand focusChange
  cases parsed : Text.parseUnsigned (2 ^ 64 - 1) argument with
  | some id =>
    dsimp only
    cases found : self.desktop.windows.find? (·.id == id) with
    | none =>
      have nothing : self.focusById host id = (self, []) := by
        rcases focusById_cases self host id with ⟨-, nothing⟩ | ⟨window, known, -⟩
        · exact nothing
        · rw [found] at known
          cases known
      rw [nothing]
      exact follows_keep (still_same rfl rfl rfl rfl rfl)
    | some window => exact (focusById_follows found).trans (still_same rfl rfl rfl rfl rfl)
  | none =>
    have unchanged : ∀ desktop, Except.ok self.desktop = Except.ok (ε := String) desktop → Kept self.desktop desktop := by
      intro desktop same
      cases same
      exact .refl _
    dsimp only
    apply follows_keep
    split
    · exact settle_still unchanged
    · split
      · exact settle_still unchanged
      · rename_i target _
        split
        · apply settle_still
          intro desktop swapped
          cases swapped
          exact Desktop.kept_swapWindows _ _ _
        · exact (focusWindow_still self target).trans (still_same rfl rfl rfl rfl rfl)

theorem runVerb_follows (argument : String) (verb : Verb) :
    Follows self (self.verbChange host argument verb) (self.runVerb host argument verb).state := by
  cases verb with simp only [runVerb, verbChange]
  | status | terminal | launcher | exec | launch | screenshot | lock => exact follows_keep (.refl _)
  | quit => exact follows_keep (still_same rfl rfl rfl rfl rfl)
  | performance => exact follows_keep (performanceCommand_still argument)
  | recorder => exact follows_keep (recorderCommand_still argument)
  | reload => exact reload_follows
  | workspace => exact settle_follows (Desktop.workspaceCommand_carriesOut ..)
  | send => exact settle_follows (Desktop.workspaceCommand_carriesOut ..)
  | layout =>
    apply follows_keep
    apply settle_still
    intro desktop accepted
    unfold layoutCommand at accepted
    split at accepted
    · cases accepted
    · cases accepted
      exact .of_windows rfl rfl rfl rfl
  | ratio =>
    apply follows_keep
    apply settle_still
    intro desktop accepted
    rw [map_const_ok accepted]
    exact .refl _
  | close =>
    apply follows_keep
    apply settle_still
    intro desktop accepted
    split at accepted
    · cases accepted
      exact .refl _
    · rw [map_const_ok accepted]
      exact .refl _
  | fullscreen | floating =>
    apply follows_keep
    apply settle_still
    intro desktop toggled
    cases toggled
    exact toggleWindow_kept fun _ => rfl
  | scratchpad => exact settle_follows (Desktop.scratchpadCommand_carriesOut ..)
  | focus => exact focusCommand_follows false argument
  | move => exact focusCommand_follows true argument

theorem desktopCommand_follows (command : String) :
    Follows self (self.commandChange host command) (self.desktopCommand host command).state := by
  unfold desktopCommand commandChange
  by_cases locked : self.lock.locked = true
  · rw [if_pos locked]
    split
    · exact follows_keep (.refl _)
    · rename_i accepted
      -- Only the queries pass while the session is locked.
      split
      · exact follows_keep (.refl _)
      · rename_i verb parsed
        by_cases acts : verb ≠ .status ∧ verb ≠ .performance
        · rw [unlocked_of_verb accepted parsed acts] at locked
          cases locked
        · have follows := @runVerb_follows self host (splitCommand command).2 verb
          have queries : verb = .status ∨ verb = .performance := by tauto
          rcases queries with rfl | rfl <;> exact follows
  · rw [if_neg locked, if_neg fun refused => locked refused.1]
    cases parsed : Verb.parse (splitCommand command).1 with
    | none => exact follows_keep (.refl _)
    | some verb => exact runVerb_follows _ verb

/-! ## Windows that come and go -/

theorem windowCreated_moved (element : WindowElement) : Moved self (self.windowCreated element) := by
  unfold windowCreated
  split
  · exact (Still.refl _).moved
  · refine ⟨.refl _, fun handle there => .inl there, fun handle known => ?_⟩
    have same : (self.setToplevels (self.toplevels ++ [{ element with alive := true }])).findToplevel handle =
        self.findToplevel handle := by
      unfold findToplevel setToplevels
      rw [List.find?_append]
      exact Option.or_of_isSome known
    rw [alive, alive, same]
    exact ⟨known, id⟩

/-- Elements change, each under its handle. -/
theorem mapToplevels_moved {change : WindowElement → WindowElement}
    (same : ∀ element, (change element).handle = element.handle)
    (dies : ∀ element, (change element).alive = true → element.alive = true) :
    Moved self (self.setToplevels (self.toplevels.map change)) := by
  refine ⟨.refl _, fun handle there => .inl there, fun handle known => ?_⟩
  have found : (self.setToplevels (self.toplevels.map change)).findToplevel handle =
      (self.findToplevel handle).map change := by
    unfold findToplevel setToplevels
    rw [List.find?_map]
    congr 2
    funext element
    simp [same]
  rw [alive, alive, found, Option.isSome_map, Option.any_map]
  refine ⟨known, fun living => ?_⟩
  obtain ⟨element, there, live⟩ := (Option.any_eq_true _ _).mp living
  exact (Option.any_eq_true _ _).mpr ⟨element, there, dies element live⟩

theorem windowMapped_moved (handle : Nat) : Moved self (self.windowMapped handle) := by
  unfold windowMapped
  split
  · rename_i maps
    rw [Bool.and_eq_true] at maps
    refine ⟨.refl _, fun other there => ?_, fun _ known => ⟨known, id⟩⟩
    rcases List.mem_append.mp there with old | new
    · exact .inl old
    · rw [List.mem_singleton.mp new]
      obtain ⟨element, found, -⟩ := (Option.any_eq_true _ _).mp maps.1
      right
      rw [found]
      rfl
  · exact (Still.refl _).moved

theorem filterElements_moved (test : Nat → Bool) : Moved self (self.setElements (self.space.elements.filter test)) :=
  ⟨.refl _, fun _ there => .inl (List.mem_of_mem_filter there), fun _ known => ⟨known, id⟩⟩

theorem handle_follows (self : AnvilState) (event : Event) :
    Follows self (self.change event) (self.handle event).1 := by
  cases asked : policyEvent event with
  | false =>
    have same : self.change event = .keep := by cases event <;> first | rfl | cases asked
    rw [same]
    exact follows_keep (handle_unmoved asked).still
  | true =>
    cases event with
    | command host command =>
      exact (desktopCommand_follows command).trans (still_same rfl rfl rfl rfl rfl)
    | maintain host =>
      have pass : Still (self.prepare host) (self.maintainDesktop host).1 := still_same rfl rfl rfl rfl rfl
      exact .maintained host rfl pass.moved
    | windowCreated element => exact follows_moved (windowCreated_moved element)
    | windowChanged element =>
      apply follows_moved
      apply mapToplevels_moved
      · intro other
        split
        · rename_i same
          exact (beq_iff_eq.mp same).symm
        · rfl
      · intro other living
        split at living <;> exact living
    | windowMapped handle => exact follows_moved (windowMapped_moved handle)
    | windowUnmapped | refreshSpace => exact follows_moved (filterElements_moved _)
    | windowDied handle =>
      apply follows_moved
      apply mapToplevels_moved
      · intro other
        split <;> rfl
      · intro other living
        split at living
        · cases living
        · exact living
    | disconnectOutput | changeOutput => exact follows_keep (still_same rfl rfl rfl rfl rfl)
    | connectOutput name mode geometry =>
      apply follows_keep
      have connects : Still self (self.connectOutput name mode geometry) := by
        unfold connectOutput
        split <;> exact still_same rfl rfl rfl rfl rfl
      exact connects
    | _ => cases asked

/-! ## The maintenance pass -/

def element (self : AnvilState) (handle : Nat) : WindowElement := (self.findToplevel handle).getD { handle }

/-- The managed windows that the pass keeps. -/
def living (self : AnvilState) : List Managed := self.desktop.windows.filter fun window => self.alive window.window

/-- What the outputs show after the pass. -/
def nextOutputs (self : AnvilState) : Outputs :=
  Desktop.assignMissing self.outputNames (Desktop.retainConnected self.outputNames self.desktop.outputs)

def focusedHandle (self : AnvilState) : Option Nat :=
  match self.seat.focus with
  | some (.window handle) => some handle
  | _ => none

def focusedAmong (self : AnvilState) (windows : List Managed) : Option Managed :=
  self.focusedHandle.bind fun handle => windows.find? (·.window == handle)

/-- The output where the pass puts windows that no rule places. -/
def nextActive (self : AnvilState) : String :=
  match (self.focusedAmong self.living).map (Desktop.adopt self.outputNames) with
  | some window => window.output
  | none => (self.seat.pointer.filter self.outputNames.contains).getD (self.outputNames.headD "")

/-- A window that the pass adds for a mapped element. -/
structure Arrives (before : AnvilState) (window : Managed) : Prop where
  mapped : window.window ∈ before.space.elements
  unmanaged : ∀ other ∈ before.living, other.window ≠ window.window
  ordinary : (before.element window.window).x11.any (·.overrideRedirect) = false
  out : window.scratchpad = false
  placed : ∃ floating,
    let arrival := Desktop.arrival { before.desktop with outputs := before.nextOutputs } before.outputNames
      before.nextActive (before.element window.window).appId (before.element window.window).title floating
    window.workspace = arrival.workspace ∧ window.output = arrival.output

/-- What the pass makes of the desktop it meets. -/
structure Maintained (before after : AnvilState) : Prop where
  rules : after.desktop.config.rules = before.desktop.config.rules
  workspaces : after.desktop.config.layout.workspaces = before.desktop.config.layout.workspaces
  outputs : after.desktop.outputs = before.nextOutputs
  windows : ∀ window ∈ after.desktop.windows, Arrives before window ∨
    ∃ earlier ∈ before.living, window.home = (Desktop.adopt before.outputNames earlier).home
  elements : ∀ handle ∈ after.space.elements,
    handle ∈ before.space.elements ∨ ∃ window ∈ before.desktop.windows, window.window = handle
  toplevels : after.toplevels = before.toplevels

theorem focusedIndex_eq (self : AnvilState) : self.focusedIndex =
    self.focusedHandle.bind fun handle => self.desktop.windows.findIdx? (·.window == handle) := by
  unfold focusedIndex focusedHandle
  rcases self.seat.focus with - | ⟨handle⟩ | - | - <;> rfl

theorem focused_eq (self : AnvilState) : (self.focusedIndex.bind fun index => self.desktop.windows[index]?) =
    self.focusedAmong self.desktop.windows := by
  rw [focusedIndex_eq, focusedAmong, Option.bind_assoc]
  congr 1
  funext handle
  rw [List.find?_eq_bind_findIdx?_getElem?]

theorem activeOutput_eq (self : AnvilState) :
    self.activeOutput = ((self.focusedAmong self.desktop.windows).map (·.output)).or
      ((self.seat.pointer.filter self.outputNames.contains).or self.outputNames.head?) := by
  rw [← focused_eq]
  unfold activeOutput
  cases self.focusedIndex.bind fun index => self.desktop.windows[index]? with
  | some window => rfl
  | none => cases self.seat.pointer.filter self.outputNames.contains <;> rfl

theorem adopt_window (names : List String) (window : Managed) : (Desktop.adopt names window).window = window.window := by
  unfold Desktop.adopt
  split <;> rfl

theorem nextActive_eq (self : AnvilState) :
    (self.maintainOutputs.maintainWindows).activeOutput.getD (self.outputNames.headD "") = self.nextActive := by
  have found : (self.maintainOutputs.maintainWindows).focusedAmong self.maintainOutputs.maintainWindows.desktop.windows =
      (self.focusedAmong self.living).map (Desktop.adopt self.outputNames) := by
    show self.focusedAmong (self.living.map (Desktop.adopt self.outputNames)) = _
    unfold focusedAmong
    cases self.focusedHandle with
    | none => rfl
    | some handle =>
      simp only [Option.bind_some, List.find?_map]
      congr 2
      funext window
      simp [adopt_window]
  rw [activeOutput_eq, found]
  unfold nextActive
  cases (self.focusedAmong self.living).map (Desktop.adopt self.outputNames) with
  | some window => rfl
  | none =>
    show ((self.seat.pointer.filter self.outputNames.contains).or self.outputNames.head?).getD _ = _
    cases self.seat.pointer.filter self.outputNames.contains with
    | some name => rfl
    | none => cases self.outputNames <;> rfl

/-- The desktop in the middle of the loop over the mapped elements. -/
structure Arriving (before : AnvilState) (desktop : Desktop) : Prop where
  config : desktop.config = before.desktop.config
  outputs : desktop.outputs = before.nextOutputs
  earlier : ∀ window ∈ before.living, Desktop.adopt before.outputNames window ∈ desktop.windows
  windows : ∀ window ∈ desktop.windows, Arrives before window ∨
    ∃ earlier ∈ before.living, window = Desktop.adopt before.outputNames earlier

theorem arrive_arriving {desktop : Desktop} (arriving : Arriving self desktop) {handle : Nat}
    (mapped : handle ∈ self.space.elements) :
    Arriving self (arrive self.nextActive (self.setDesktop desktop) handle).desktop := by
  unfold arrive
  dsimp only
  split
  · exact arriving
  · rename_i passes
    simp only [Bool.or_eq_true, not_or, Bool.not_eq_true] at passes
    refine ⟨arriving.config, arriving.outputs, ?_, ?_⟩
    · exact fun window there => List.mem_append_left _ (arriving.earlier window there)
    · intro window there
      rcases List.mem_append.mp there with old | new
      · exact arriving.windows window old
      · rw [List.mem_singleton] at new
        subst new
        refine .inl ⟨mapped, fun other managed same => ?_, passes.2, rfl, ?_⟩
        · have absent := List.any_eq_false.mp passes.1 _ (arriving.earlier other managed)
          rw [adopt_window] at absent
          exact absent (beq_iff_eq.mpr same)
        · refine ⟨(self.element handle).parented || (self.element handle).x11.any (·.auxiliary), ?_⟩
          have same (floating : Bool) : desktop.arrival self.outputNames self.nextActive
                (self.element handle).appId (self.element handle).title floating =
              Desktop.arrival { self.desktop with outputs := self.nextOutputs } self.outputNames
                self.nextActive (self.element handle).appId (self.element handle).title floating := by
            unfold Desktop.arrival
            rw [arriving.config, arriving.outputs]
          exact ⟨congrArg Desktop.Arrival.workspace (same _), congrArg Desktop.Arrival.output (same _)⟩

theorem arrivals_arriving {handles : List Nat} {desktop : Desktop} (arriving : Arriving self desktop)
    (mapped : ∀ handle ∈ handles, handle ∈ self.space.elements) :
    ∃ after, handles.foldl (arrive self.nextActive) (self.setDesktop desktop) = self.setDesktop after ∧
      Arriving self after := by
  induction handles generalizing desktop with
  | nil => exact ⟨desktop, rfl, arriving⟩
  | cons handle handles ih =>
    have next := arrive_arriving arriving (mapped handle List.mem_cons_self)
    have rest : arrive self.nextActive (self.setDesktop desktop) handle =
        self.setDesktop (arrive self.nextActive (self.setDesktop desktop) handle).desktop := by
      unfold arrive
      dsimp only
      split <;> rfl
    rw [List.foldl_cons, rest]
    exact ih next fun other there => mapped other (List.mem_cons_of_mem _ there)

theorem maintainLayout_home (self : AnvilState) (host : Host) {window : Managed}
    (there : window ∈ (self.maintainLayout host).desktop.windows) :
    ∃ earlier ∈ self.desktop.windows, window.home = earlier.home := by
  obtain ⟨earlier, known, rfl⟩ := List.mem_map.mp there
  refine ⟨earlier, known, ?_⟩
  split <;> rfl

/-- Elements that the layout maps are those of managed windows. -/
theorem maintainLayout_elements (self : AnvilState) (host : Host) {handle : Nat}
    (there : handle ∈ (self.maintainLayout host).space.elements) :
    handle ∈ self.space.elements ∨ ∃ window ∈ self.desktop.windows, window.window = handle := by
  rcases List.mem_append.mp (List.mem_of_mem_filter there) with old | new
  · exact .inl old
  · obtain ⟨window, placed, rfl⟩ := List.mem_map.mp (List.mem_of_mem_filter new)
    exact .inr ⟨window, List.mem_of_mem_filter placed, rfl⟩

theorem maintainFocus_still (self : AnvilState) : Still self self.maintainFocus := by
  unfold maintainFocus
  split
  · exact .refl _
  · split <;> exact still_same rfl rfl rfl rfl rfl

theorem pollRecorder_eq (self : AnvilState) (host : Host) : ∃ recording dirty, self.pollRecorder host =
    { self with recording, desktop := { self.desktop with dirty } } := by
  obtain ⟨polled, desktop⟩ := pollRecorder_rest self host
  refine ⟨(self.pollRecorder host).recording, (self.pollRecorder host).desktop.dirty, ?_⟩
  rw [← desktop]
  exact polled

theorem prepare_maintained (self : AnvilState) (host : Host) : Maintained self (self.prepare host) := by
  obtain ⟨recording, dirty, polled⟩ := pollRecorder_eq self host
  -- Polling leaves everything that the rest of the pass reads.
  set polling : AnvilState := { self with recording, desktop := { self.desktop with dirty } }
  set started := polling.maintainOutputs.maintainWindows with starting
  have begun : Arriving polling started.desktop := by
    refine ⟨rfl, rfl, ?_, ?_⟩
    · exact fun window there => List.mem_map_of_mem there
    · intro window there
      obtain ⟨earlier, known, rfl⟩ := List.mem_map.mp there
      exact .inr ⟨earlier, known, rfl⟩
  obtain ⟨arrived, reached, arriving⟩ := arrivals_arriving begun fun handle there => there
  have arrivals : started.maintainArrivals = polling.setDesktop arrived := by
    unfold maintainArrivals
    rw [show started.outputNames = polling.outputNames from rfl, starting, nextActive_eq, ← reached]
    rfl
  have locked : (started.maintainArrivals).maintainLock.desktop = arrived := by
    rw [arrivals, maintainLock_eq]
    rfl
  set laid := (started.maintainArrivals).maintainLock.maintainLayout host with laying
  have last : Still laid (self.prepare host) := by
    have focus := maintainFocus_still laid
    unfold prepare
    rw [polled]
    exact focus.trans (still_same rfl rfl rfl rfl rfl)
  have config : laid.desktop.config = arrived.config := by
    rw [← locked]
    rfl
  have windows : ∀ window ∈ (self.prepare host).desktop.windows, Arrives self window ∨
      ∃ earlier ∈ self.living, window.home = (Desktop.adopt self.outputNames earlier).home := by
    intro window there
    obtain ⟨placed, known, same⟩ := last.kept.windows window there
    obtain ⟨earlier, member, home⟩ := maintainLayout_home _ host known
    rw [locked] at member
    have equal := same.trans home
    rcases arriving.windows earlier member with arrives | ⟨origin, living, rfl⟩
    · obtain ⟨handle, workspace, output, scratchpad⟩ := Managed.home_eq equal
      obtain ⟨mapped, unmanaged, ordinary, out, placing⟩ := arrives
      left
      exact ⟨handle ▸ mapped, handle ▸ unmanaged, handle ▸ ordinary, scratchpad ▸ out, by
        rw [handle, workspace, output]
        exact placing⟩
    · exact .inr ⟨origin, living, equal⟩
  refine ⟨?_, ?_, ?_, windows, ?_, ?_⟩
  · rw [last.kept.rules, config, arriving.config]
  · rw [last.kept.workspaces, config, arriving.config]
  · have outputs : laid.desktop.outputs = arrived.outputs := by
      rw [← locked]
      rfl
    rw [last.kept.outputs, outputs]
    exact arriving.outputs
  · intro handle there
    rw [last.elements] at there
    rcases maintainLayout_elements _ host there with old | ⟨window, member, rfl⟩
    · left
      rw [arrivals, maintainLock_eq] at old
      exact old
    · rw [locked] at member
      rcases arriving.windows window member with arrives | ⟨origin, living, rfl⟩
      · exact .inl arrives.mapped
      · refine .inr ⟨origin, List.mem_of_mem_filter living, (adopt_window _ origin).symm⟩
  · rw [last.toplevels, laying]
    have same : (started.maintainArrivals).maintainLock.toplevels = self.toplevels := by
      rw [arrivals, maintainLock_eq]
      rfl
    exact same

/-! ## Names of outputs -/

/-- Only plugging and unplugging changes the names. -/
theorem handle_names (self : AnvilState) (event : Event) :
    (self.handle event).1.outputNames = self.outputNames ∨
      (∃ name, name ∉ self.outputNames ∧ (self.handle event).1.outputNames = self.outputNames ++ [name]) ∨
      ∃ name, (self.handle event).1.outputNames = self.outputNames.filter (· != name) := by
  have apart {result : AnvilState × List Observation} (apart : Apart self result) :
      result.1.outputNames = self.outputNames := by
    rcases apart.outputs with same | locked
    · rw [outputNames, same]
      rfl
    · rw [outputNames, locked]
      apply names_map
      intro output
      unfold withLock
      split <;> rfl
  cases asked : policyEvent event with
  | false => exact .inl (handle_unmoved asked).names
  | true =>
    cases event with
    | command | maintain | windowCreated | windowChanged | windowMapped | windowUnmapped | windowDied
    | refreshSpace => exact .inl (apart (handle_apart rfl))
    | changeOutput name mode geometry =>
      left
      apply names_map
      intro output
      split <;> rfl
    | connectOutput name mode geometry =>
      show (self.connectOutput name mode geometry).outputNames = _ ∨ _
      by_cases known : self.outputNames.contains name = true
      · left
        rw [connectOutput, if_pos known]
      · right
        left
        refine ⟨name, by simpa using known, ?_⟩
        show (self.connectOutput name mode geometry).outputNames = _
        rw [connectOutput, if_neg known]
        exact List.map_append
    | disconnectOutput name =>
      right
      right
      refine ⟨name, ?_⟩
      show (self.space.outputs.filter (·.name != name)).map (·.name) = _
      rw [outputNames, List.filter_map]
      rfl
    | _ => cases asked

theorem handle_names_nodup {event : Event} (distinct : self.outputNames.Nodup) :
    (self.handle event).1.outputNames.Nodup := by
  rcases handle_names self event with same | ⟨name, fresh, grown⟩ | ⟨name, shrunk⟩
  · rw [same]
    exact distinct
  · rw [grown, List.nodup_append]
    refine ⟨distinct, by simp, ?_⟩
    rintro other there _ last rfl
    rw [List.mem_singleton] at last
    exact fresh (last ▸ there)
  · rw [shrunk]
    exact distinct.filter _

end AnvilState

end Luma.Compositor
