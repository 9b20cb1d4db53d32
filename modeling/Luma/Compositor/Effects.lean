import Luma.Compositor.Serving

/-! What the maintenance pass and a command can do, said once.

Both touch many parts of the state; the results about recording, locking and
capture only need to know which parts, and what happens there.
-/

set_option autoImplicit false

namespace Luma.Compositor

open Luma.Library

namespace AnvilState

variable {self before after : AnvilState}

/-! ## The maintenance pass -/

/-- The pass up to its last step. -/
def prepare (self : AnvilState) (host : Host) : AnvilState :=
  let self := ((((self.pollRecorder host).maintainOutputs).maintainWindows).maintainArrivals).maintainLock
  let self := (self.maintainLayout host).maintainFocus
  self.setDesktop { self.desktop with dirty := false }

theorem maintainDesktop_eq (self : AnvilState) (host : Host) :
    self.maintainDesktop host = (self.prepare host).refreshCaptureSessions := rfl

/-- Policy moved on: windows, focus and the map of outputs, but no output,
no lock and no capture. -/
structure Arranged (before after : AnvilState) : Prop where
  rest : after = { before with space := after.space, seat := after.seat, desktop := after.desktop }
  outputs : after.space.outputs = before.space.outputs
  active : after.desktop.active = before.desktop.active

theorem Arranged.refl (self : AnvilState) : Arranged self self := ⟨rfl, rfl, rfl⟩

theorem Arranged.trans {middle : AnvilState} (one : Arranged before middle) (two : Arranged middle after) :
    Arranged before after where
  rest := by rw [two.rest, one.rest]
  outputs := two.outputs.trans one.outputs
  active := two.active.trans one.active

theorem arranged_setDesktop {desktop : Desktop} (active : desktop.active = self.desktop.active) :
    Arranged self (self.setDesktop desktop) := ⟨rfl, rfl, active⟩

theorem arrive_arranged (active : String) (self : AnvilState) (handle : Nat) :
    Arranged self (arrive active self handle) := by
  unfold arrive
  dsimp only
  split
  · exact .refl self
  · exact arranged_setDesktop rfl

theorem arrivals_arranged (active : String) (handles : List Nat) (self : AnvilState) :
    Arranged self (handles.foldl (arrive active) self) := by
  induction handles generalizing self with
  | nil => exact .refl self
  | cons handle handles ih => exact (arrive_arranged active self handle).trans (ih _)

theorem maintainFocus_arranged (self : AnvilState) : Arranged self self.maintainFocus := by
  unfold maintainFocus
  split
  · exact .refl self
  · split <;> exact ⟨rfl, rfl, rfl⟩

theorem pollRecorder_rest (self : AnvilState) (host : Host) :
    self.pollRecorder host = { self with
      recording := (self.pollRecorder host).recording
      desktop := (self.pollRecorder host).desktop } ∧
    (self.pollRecorder host).desktop = { self.desktop with dirty := (self.pollRecorder host).desktop.dirty } := by
  unfold pollRecorder
  dsimp only
  split <;> exact ⟨rfl, rfl⟩

/-- On a locked session outputs without lock data become locked ones. -/
def withLock (lock : LockState) (output : Output) : Output :=
  if lock.locked then
    { output with lock := some (output.lock.getD { locked := true, generation := lock.generation }) }
  else output

theorem maintainLock_eq (self : AnvilState) :
    self.maintainLock = self.setOutputs (self.space.outputs.map (withLock self.lock)) := by
  unfold maintainLock setOutputs withLock
  cases self.lock.locked <;> simp

/-- What the pass does outside policy: it polls the recorder and locks outputs. -/
structure Prepared (host : Host) (before after : AnvilState) : Prop where
  rest : after = { before with
    space := after.space, seat := after.seat, desktop := after.desktop, recording := after.recording }
  recording : after.recording = (before.pollRecorder host).recording
  outputs : after.space.outputs = before.space.outputs.map (withLock before.lock)
  active : after.desktop.active = before.desktop.active

theorem prepare_prepared (self : AnvilState) (host : Host) : Prepared host self (self.prepare host) := by
  obtain ⟨polled, desktop⟩ := pollRecorder_rest self host
  set recorded := self.pollRecorder host with polling
  have managed : Arranged recorded recorded.maintainOutputs.maintainWindows := ⟨rfl, rfl, rfl⟩
  have settled : Arranged recorded recorded.maintainOutputs.maintainWindows.maintainArrivals :=
    managed.trans (arrivals_arranged _ _ _)
  set arrived := recorded.maintainOutputs.maintainWindows.maintainArrivals with arriving
  have lock : arrived.lock = self.lock := by rw [settled.rest, polled]
  have placed : Arranged (arrived.maintainLock.maintainLayout host) (self.prepare host) :=
    (maintainFocus_arranged _).trans (arranged_setDesktop rfl)
  have laid : Arranged arrived.maintainLock (arrived.maintainLock.maintainLayout host) := ⟨rfl, rfl, rfl⟩
  have later := laid.trans placed
  refine ⟨?_, ?_, ?_, ?_⟩
  · rw [later.rest, maintainLock_eq, settled.rest, polled]
    rfl
  · rw [later.rest, maintainLock_eq, settled.rest]
    rfl
  · rw [later.outputs, maintainLock_eq, lock]
    show arrived.space.outputs.map _ = _
    rw [settled.outputs, polled]
  · rw [later.active, maintainLock_eq]
    show arrived.desktop.active = _
    rw [settled.active, desktop]

/-- Sessions that cannot capture are let go, their requests fail. -/
theorem refreshCaptureSessions_drained (self : AnvilState) (request : PendingCaptureFrame)
    (waits : request ∈ self.capture.pending) : Settled self.refreshCaptureSessions request := by
  by_cases capturable : self.stillCapturable request
  · left
    exact List.mem_filter.mpr ⟨waits, capturable⟩
  · right
    left
    apply List.mem_map.mpr
    exact ⟨request, List.mem_filter.mpr ⟨waits, by simp [capturable]⟩, rfl⟩

/-! ## Commands -/

/-- What a command other than the recorder's changes directly. -/
structure Beside (before after : AnvilState) : Prop where
  rest : after = { before with
    seat := after.seat, desktop := after.desktop, running := after.running, panicked := after.panicked }
  active : after.desktop.active = before.desktop.active

theorem Beside.refl (self : AnvilState) : Beside self self := ⟨rfl, rfl⟩

theorem Beside.trans {middle : AnvilState} (one : Beside before middle) (two : Beside middle after) :
    Beside before after where
  rest := by rw [two.rest, one.rest]
  active := two.active.trans one.active

theorem beside_focusWindow (self : AnvilState) (index : Nat) : Beside self (self.focusWindow index) := by
  unfold focusWindow
  split
  · exact .refl self
  · exact ⟨rfl, rfl⟩

/-- Actions that begin something, or `toggle`, which may. -/
def starting : RecorderAction → Bool
  | .start | .gameStart | .gameAttach | .xwaylandStart | .replayStart | .toggle => true
  | .stop | .pause | .replaySave | .set | .settingsReset | .status => false

/-- The starting action a command names, with its argument. -/
def startingCommand (command : String) : Option (RecorderAction × String) :=
  if Verb.parse (splitCommand command).1 = some .recorder then
    match RecorderAction.parse (splitAction (splitCommand command).2).1 with
    | some action =>
      if starting action then some (action, (splitAction (splitCommand command).2).2) else none
    | none => none
  else none

/-- The ways a command can go. -/
inductive CommandEffect (self : AnvilState) (host : Host) (command : String) : Outcome → Prop where
  | refused {action : RecorderAction} {argument error : String} :
      startingCommand command = some (action, argument) → self.lock.locked = false →
      self.admit host.lowercase argument action = .error error →
      CommandEffect self host command ⟨.error error, self, []⟩
  | attempted {action : RecorderAction} {argument : String} {attempt : Attempt} :
      startingCommand command = some (action, argument) → self.lock.locked = false →
      self.admit host.lowercase argument action = .ok attempt →
      CommandEffect self host command (self.settleRecording
        (self.recording.attempt host self.nextProcess self.desktop.config.recorder attempt))
  | stopped : startingCommand command = none → self.lock.locked = false →
      CommandEffect self host command (self.settleRecording (self.recording.stop host))
  | paused : startingCommand command = none → self.lock.locked = false →
      CommandEffect self host command (self.settleRecording (self.recording.pause host))
  | beside {reply : Except String Unit} {after : AnvilState} :
      startingCommand command = none ∨ self.lock.locked = true → Beside self after →
      CommandEffect self host command ⟨reply, after, []⟩
  | maintained {reply : Except String Unit} {desktop : Desktop} {after : AnvilState} :
      startingCommand command = none → self.lock.locked = false → desktop.active = self.desktop.active →
      Beside ((self.setDesktop desktop).maintainDesktop host).1 after →
      CommandEffect self host command ⟨reply, after, ((self.setDesktop desktop).maintainDesktop host).2⟩

theorem settleDesktop_beside (self : AnvilState) (result : Except String Desktop)
    (active : ∀ desktop, result = .ok desktop → desktop.active = self.desktop.active) :
    Beside self (self.settleDesktop result).state ∧ (self.settleDesktop result).observations = [] := by
  rcases result with error | desktop
  · exact ⟨.refl self, rfl⟩
  · exact ⟨⟨rfl, active desktop rfl⟩, rfl⟩

end AnvilState

theorem Desktop.workspaceTarget_ok {self : Desktop} {send : Bool} {out target chosen : String}
    (accepted : self.workspaceTarget send out target = .ok chosen) :
    chosen = out ∨ self.outputs.contains chosen := by
  unfold workspaceTarget at accepted
  split at accepted
  · cases accepted
    exact .inl rfl
  · split at accepted
    · rename_i known
      cases accepted
      simp only [Bool.and_eq_true] at known
      exact .inr known.2
    · cases accepted

/-- What `workspace` and `send` do when their argument is accepted. -/
theorem Desktop.workspaceCommand_ok {self after : Desktop} {send : Bool} {focused : Option Nat}
    {out argument : String} (accepted : self.workspaceCommand send focused out argument = .ok after) :
    ∃ target workspace, (target = out ∨ self.outputs.contains target) ∧
      0 < workspace ∧ workspace ≤ self.config.layout.workspaces ∧
      after = if send then self.send focused target workspace else self.showWorkspace target workspace := by
  unfold workspaceCommand at accepted
  dsimp only at accepted
  split at accepted
  · cases accepted
  · rename_i workspace _
    split at accepted
    · cases accepted
    · rename_i target chosen
      split at accepted
      · cases accepted
      · rename_i inside
        refine ⟨target, workspace, workspaceTarget_ok chosen, by omega, by omega, ?_⟩
        split at accepted <;> rename_i sending <;> cases accepted <;> simp [sending]

namespace Desktop

variable (self : Desktop)

@[simp] theorem active_send (focused : Option Nat) (out : String) (workspace : Nat) :
    (self.send focused out workspace).active = self.active := by
  unfold send
  split <;> rfl

@[simp] theorem active_showWorkspace (out : String) (workspace : Nat) :
    (self.showWorkspace out workspace).active = self.active := by
  show (self.giveAway out workspace).active = _
  unfold giveAway
  dsimp only
  split <;> rfl

theorem active_workspaceCommand {self after : Desktop} {send : Bool} {focused : Option Nat}
    {out argument : String} (accepted : self.workspaceCommand send focused out argument = .ok after) :
    after.active = self.active := by
  obtain ⟨target, workspace, -, -, -, rfl⟩ := workspaceCommand_ok accepted
  split <;> simp

theorem active_scratchpadCommand {self after : Desktop} {focused : Option Nat} {out action : String}
    (accepted : self.scratchpadCommand focused out action = .ok after) : after.active = self.active := by
  unfold scratchpadCommand at accepted
  split at accepted
  · cases accepted
    unfold scratchpadSend
    split <;> rfl
  · cases accepted
    unfold scratchpadShow
    split <;> rfl
  · cases accepted

theorem active_swapWindows (left right : Nat) : (self.swapWindows left right).active = self.active := by
  unfold swapWindows
  split <;> rfl

end Desktop

namespace AnvilState

variable {self : AnvilState} {host : Host} {command : String}

/-- A verb that leaves everything but policy alone. -/
def Plain (self : AnvilState) (outcome : Outcome) : Prop :=
  Beside self outcome.state ∧ outcome.observations = []

theorem plain_self (reply : Except String Unit) : Plain self ⟨reply, self, []⟩ := ⟨.refl self, rfl⟩

theorem performanceCommand_plain (argument : String) : Plain self (self.performanceCommand argument) := by
  unfold performanceCommand
  split
  · exact plain_self _
  · exact plain_self _
  · exact ⟨⟨rfl, rfl⟩, rfl⟩
  · exact plain_self _
  · split
    · exact plain_self _
    · exact ⟨⟨rfl, rfl⟩, rfl⟩
  · exact plain_self _

theorem reload_plain (host : Host) : Plain self (self.reload host) := by
  unfold reload
  split
  · exact ⟨⟨rfl, rfl⟩, rfl⟩
  · exact ⟨⟨rfl, rfl⟩, rfl⟩

theorem toggleWindow_active (change : Managed → Managed) :
    (self.toggleWindow change).active = self.desktop.active := by
  unfold toggleWindow
  split <;> rfl

theorem layoutCommand_active {mode : String} {desktop : Desktop}
    (accepted : self.layoutCommand mode = .ok desktop) : desktop.active = self.desktop.active := by
  unfold layoutCommand at accepted
  split at accepted <;> cases accepted
  rfl

theorem map_const_ok {result : Except String Unit} {desktop kept : Desktop}
    (accepted : result.map (fun _ => kept) = .ok desktop) : desktop = kept := by
  rcases result with error | ⟨⟩ <;> cases accepted
  rfl

/-- A focus by id that names a window runs the whole pass after `putOn`. -/
theorem focusById_cases (self : AnvilState) (host : Host) (id : Nat) :
    (self.desktop.windows.find? (·.id == id) = none ∧ self.focusById host id = (self, [])) ∨
      ∃ window, self.desktop.windows.find? (·.id == id) = some window ∧
        Beside ((self.setDesktop (self.desktop.putOn window)).maintainDesktop host).1 (self.focusById host id).1 ∧
        (self.focusById host id).2 = ((self.setDesktop (self.desktop.putOn window)).maintainDesktop host).2 := by
  rw [List.find?_eq_bind_findIdx?_getElem?]
  unfold focusById
  split
  · rename_i missing
    exact .inl ⟨by rw [missing]; rfl, rfl⟩
  · rename_i index found
    rw [found]
    dsimp only [Option.bind_some]
    split
    · rename_i outside
      exact .inl ⟨outside, rfl⟩
    · rename_i window inside
      refine .inr ⟨window, inside, ?_⟩
      split
      · exact ⟨beside_focusWindow _ index, rfl⟩
      · exact ⟨⟨rfl, rfl⟩, rfl⟩

/-- `focus` and `move` change policy only, or run the whole pass. -/
theorem focusCommand_effect (self : AnvilState) (host : Host) (move : Bool) (argument : String) :
    Plain self (self.focusCommand host move argument) ∨
      ∃ desktop, desktop.active = self.desktop.active ∧
        Beside ((self.setDesktop desktop).maintainDesktop host).1 (self.focusCommand host move argument).state ∧
        (self.focusCommand host move argument).observations = ((self.setDesktop desktop).maintainDesktop host).2 := by
  unfold focusCommand
  split
  · rename_i id _
    rcases focusById_cases self host id with ⟨-, nothing⟩ | ⟨window, -, beside, seen⟩
    · left
      rw [nothing]
      exact ⟨⟨rfl, rfl⟩, rfl⟩
    · right
      exact ⟨self.desktop.putOn window, rfl, beside.trans ⟨rfl, rfl⟩, seen⟩
  · left
    split
    · exact settleDesktop_beside _ _ (by rintro _ ⟨⟩; rfl)
    · split
      · exact settleDesktop_beside _ _ (by rintro _ ⟨⟩; rfl)
      · rename_i target _
        split
        · refine settleDesktop_beside _ _ ?_
          rintro _ ⟨⟩
          exact Desktop.active_swapWindows ..
        · obtain ⟨settled, quiet⟩ := settleDesktop_beside (self.focusWindow target)
            (.ok (self.focusWindow target).desktop) (by rintro _ ⟨⟩; rfl)
          exact ⟨(beside_focusWindow self target).trans settled, quiet⟩

theorem recorderSet_plain (argument : String) : Plain self (self.recorderSet host argument) := by
  unfold recorderSet
  split
  · exact plain_self _
  · split
    · exact plain_self _
    · split
      · exact plain_self _
      · split <;> exact ⟨⟨rfl, rfl⟩, rfl⟩

theorem recorderReset_plain : Plain self (self.recorderReset host) := by
  unfold recorderReset
  split
  · exact plain_self _
  · split
    · exact plain_self _
    · exact ⟨⟨rfl, rfl⟩, rfl⟩

theorem saveReplay_plain : Plain self (self.settleRecording
    { reply := self.recording.recorder.saveReplay host.stop, recording := self.recording }) := by
  unfold settleRecording
  dsimp only
  split <;> exact ⟨⟨rfl, rfl⟩, rfl⟩

theorem effect_plain {outcome : Outcome} (unlocked : startingCommand command = none ∨ self.lock.locked = true)
    (plain : Plain self outcome) : CommandEffect self host command outcome := by
  obtain ⟨reply, after, observations⟩ := outcome
  obtain ⟨beside, quiet⟩ := plain
  dsimp only at beside quiet
  rw [quiet]
  exact .beside unlocked beside

theorem startingCommand_recorder {action : RecorderAction}
    (verb : Verb.parse (splitCommand command).1 = some .recorder)
    (named : RecorderAction.parse (splitAction (splitCommand command).2).1 = some action) :
    startingCommand command =
      if starting action then some (action, (splitAction (splitCommand command).2).2) else none := by
  simp [startingCommand, verb, named]

/-- A starting command is refused by its checks or carried out. -/
theorem effect_starting {action : RecorderAction} {argument : String}
    (starts : startingCommand command = some (action, argument)) (unlocked : self.lock.locked = false) :
    CommandEffect self host command (self.beginRecording host argument action) := by
  unfold beginRecording
  rcases admitted : self.admit host.lowercase argument action with error | attempt
  · exact .refused starts unlocked admitted
  · exact .attempted starts unlocked admitted

theorem recorderAction_effect {action : RecorderAction}
    (verb : Verb.parse (splitCommand command).1 = some .recorder)
    (named : RecorderAction.parse (splitAction (splitCommand command).2).1 = some action)
    (unlocked : self.lock.locked = false) :
    CommandEffect self host command
      (self.recorderAction host (splitAction (splitCommand command).2).2 action) := by
  have starts := startingCommand_recorder verb named
  cases action with simp only [recorderAction]
  | stop => exact .stopped starts unlocked
  | pause => exact .paused starts unlocked
  | replaySave => exact effect_plain (.inl starts) saveReplay_plain
  | set => exact effect_plain (.inl starts) (recorderSet_plain _)
  | settingsReset => exact effect_plain (.inl starts) recorderReset_plain
  | status => exact effect_plain (.inl starts) (plain_self _)
  | start => exact effect_starting starts unlocked
  | gameStart => exact effect_starting starts unlocked
  | gameAttach => exact effect_starting starts unlocked
  | xwaylandStart => exact effect_starting starts unlocked
  | replayStart => exact effect_starting starts unlocked
  | toggle => exact effect_starting starts unlocked

theorem recorderCommand_effect (verb : Verb.parse (splitCommand command).1 = some .recorder)
    (unlocked : self.lock.locked = false) :
    CommandEffect self host command (self.recorderCommand host (splitCommand command).2) := by
  unfold recorderCommand
  split
  · rename_i empty
    have nothing : RecorderAction.parse (splitAction "").1 = none := by decide
    have starts : startingCommand command = none := by simp [startingCommand, verb, empty, nothing]
    exact effect_plain (.inl starts) (plain_self _)
  · rcases named : RecorderAction.parse (splitAction (splitCommand command).2).1 with - | action
    · have starts : startingCommand command = none := by simp [startingCommand, verb, named]
      exact effect_plain (.inl starts) (plain_self _)
    · exact recorderAction_effect verb named unlocked

/-- Only the two queries pass on a locked session. -/
theorem unlocked_of_verb {verb : Verb} (accepted : ¬(self.lock.locked ∧ command ≠ "status" ∧ command ≠ "performance status"))
    (parsed : Verb.parse (splitCommand command).1 = some verb) (acts : verb ≠ .status ∧ verb ≠ .performance) :
    self.lock.locked = false := by
  by_contra locked
  rw [Bool.not_eq_false] at locked
  have query : command = "status" ∨ command = "performance status" := by
    by_contra other
    exact accepted ⟨locked, not_or.mp other⟩
  have status : Verb.parse (splitCommand "status").1 = some .status := by decide
  have performance : Verb.parse (splitCommand "performance status").1 = some .performance := by decide
  rcases query with rfl | rfl
  · exact acts.1 (Option.some.inj (parsed.symm.trans status))
  · exact acts.2 (Option.some.inj (parsed.symm.trans performance))

theorem settled_effect {result : Except String Desktop} (starts : startingCommand command = none)
    (active : ∀ desktop, result = .ok desktop → desktop.active = self.desktop.active) :
    CommandEffect self host command (self.settleDesktop result) :=
  effect_plain (.inl starts) (settleDesktop_beside _ _ active)

theorem focus_effect (move : Bool) (argument : String) (starts : startingCommand command = none)
    (unlocked : self.lock.locked = false) :
    CommandEffect self host command (self.focusCommand host move argument) := by
  rcases focusCommand_effect self host move argument with plain | ⟨desktop, active, beside, seen⟩
  · exact effect_plain (.inl starts) plain
  · rcases shape : self.focusCommand host move argument with ⟨reply, after, observations⟩
    rw [shape] at beside seen
    dsimp only at beside seen
    rw [seen]
    exact .maintained starts unlocked active beside

theorem runVerb_effect {verb : Verb} (argument : String) (starts : startingCommand command = none)
    (other : verb ≠ .recorder)
    (unlocked : verb ≠ .status ∧ verb ≠ .performance → self.lock.locked = false) :
    CommandEffect self host command (self.runVerb host argument verb) := by
  cases verb with simp only [runVerb]
  | recorder => exact absurd rfl other
  | performance => exact effect_plain (.inl starts) (performanceCommand_plain argument)
  | status | terminal | launcher | exec | launch | screenshot | lock =>
    exact effect_plain (.inl starts) (plain_self _)
  | quit => exact effect_plain (.inl starts) ⟨⟨rfl, rfl⟩, rfl⟩
  | reload => exact effect_plain (.inl starts) (reload_plain host)
  | workspace => exact settled_effect starts fun _ accepted => Desktop.active_workspaceCommand accepted
  | send => exact settled_effect starts fun _ accepted => Desktop.active_workspaceCommand accepted
  | layout => exact settled_effect starts fun _ accepted => layoutCommand_active accepted
  | ratio =>
    refine settled_effect starts fun desktop accepted => ?_
    rw [map_const_ok accepted]
  | close =>
    refine settled_effect starts fun desktop accepted => ?_
    split at accepted
    · cases accepted
      rfl
    · rw [map_const_ok accepted]
  | fullscreen =>
    refine settled_effect starts ?_
    rintro _ ⟨⟩
    exact toggleWindow_active _
  | floating =>
    refine settled_effect starts ?_
    rintro _ ⟨⟩
    exact toggleWindow_active _
  | scratchpad => exact settled_effect starts fun _ accepted => Desktop.active_scratchpadCommand accepted
  | focus => exact focus_effect false argument starts (unlocked ⟨nofun, nofun⟩)
  | move => exact focus_effect true argument starts (unlocked ⟨nofun, nofun⟩)

theorem desktopCommand_effect (self : AnvilState) (host : Host) (command : String) :
    CommandEffect self host command (self.desktopCommand host command) := by
  unfold desktopCommand
  split
  · rename_i refused
    exact effect_plain (.inr refused.1) (plain_self _)
  · rename_i accepted
    rcases parsed : Verb.parse (splitCommand command).1 with - | verb
    · exact effect_plain (.inl (by simp [startingCommand, parsed])) (plain_self _)
    · by_cases records : verb = .recorder
      · subst records
        exact recorderCommand_effect parsed (unlocked_of_verb accepted parsed ⟨nofun, nofun⟩)
      · have starts : startingCommand command = none := by simp [startingCommand, parsed, records]
        exact runVerb_effect _ starts records (unlocked_of_verb accepted parsed)

end AnvilState

end Luma.Compositor
