import Luma.Library.KeyValue
import Luma.Compositor.FocusById
import Luma.Compositor.SettingsCommands
import Luma.Shell.RecorderPanel

/-! The source that the recorder panel remembers, and what the panel and the compositor make of it afterwards. -/

set_option autoImplicit false

namespace Luma.Shell

open Luma.Library Luma.Core Luma.Compositor

/-! ## The compositor behind the panel -/

/-- A window as the compositor publishes it. -/
def windowInfo (compositor : AnvilState) (window : Managed) : WindowInfo where
  id := window.id
  x11Window := ((compositor.findToplevel window.window).bind (·.x11)).map (·.window)
  title := (compositor.identity window.window).2
  appId := (compositor.identity window.window).1

def windowInfos (compositor : AnvilState) : List WindowInfo := compositor.desktop.windows.map (windowInfo compositor)

/-- The command that changes one setting. -/
def recorderSetCommand (command : String × String) : String := "recorder set " ++ command.1 ++ " " ++ command.2

/-- The same windows are open, with the same settings. -/
structure Alike (before after : AnvilState) : Prop where
  windows : windowInfos after = windowInfos before
  settings : after.desktop.config.recorder = before.desktop.config.recorder

/-- The commands succeed one after the other. In between anything may happen that leaves the windows and the settings
alone. -/
inductive Sent : AnvilState → List (String × String) → AnvilState → Prop
  | done {before after : AnvilState} (alike : Alike before after) : Sent before [] after
  | send {before between after : AnvilState} {command : String × String} {rest : List (String × String)} (host : Host)
      (alike : Alike before between)
      (accepted : (between.desktopCommand host (recorderSetCommand command)).reply = .ok ())
      (sent : Sent (between.desktopCommand host (recorderSetCommand command)).state rest after) :
      Sent before (command :: rest) after

/-! ## What is remembered -/

/-- The app id in the settings after a window is remembered. -/
def heldAppId (previous : Recorder) (window : WindowInfo) : String :=
  if Text.trim window.appId = "" then previous.windowAppId
  else if Text.trim window.appId = "none" then ""
  else Text.trim window.appId

/-- An app id that reads `none` clears the title too. -/
def heldTitle (previous : Recorder) (window : WindowInfo) : String :=
  if Text.trim window.title = "" then if Text.trim window.appId = "none" then "" else previous.windowTitle
  else if Text.trim window.title = "none" then ""
  else Text.trim window.title

def held (previous : Recorder) (mode : RecorderCaptureMode) (window : WindowInfo) : Recorder :=
  { previous with
    captureMode := mode.setting
    windowAppId := heldAppId previous window
    windowTitle := heldTitle previous window }

@[simp] theorem held_appId (previous : Recorder) (mode : RecorderCaptureMode) (window : WindowInfo) :
    (held previous mode window).windowAppId = heldAppId previous window := by
  rw [held]

@[simp] theorem held_title (previous : Recorder) (mode : RecorderCaptureMode) (window : WindowInfo) :
    (held previous mode window).windowTitle = heldTitle previous window := by
  rw [held]

/-- The window is the first that matches what is remembered. -/
structure Foremost (lowercase : String → String) (windows : List WindowInfo) (settings : Recorder)
    (window : WindowInfo) : Prop where
  remembered : settings.windowAppId ≠ "" ∨ settings.windowTitle ≠ ""
  fits : windowMatchesSettings lowercase window settings = true
  first : ∀ other ∈ windows.takeWhile (fun other => other.id != window.id),
    windowMatchesSettings lowercase other settings = false

namespace RecorderPanel

/-- The cursor of the first two modes. -/
def cursor (self : RecorderPanel) : Nat :=
  if self.captureMode = .xwaylandDirect then self.xwaylandSelected else self.selected

/-- The monitor entry of the list of sources. -/
def OnMonitor (self : RecorderPanel) : Prop := self.captureMode = .screen ∧ self.selected = 0

instance (self : RecorderPanel) : Decidable self.OnMonitor := inferInstanceAs (Decidable (_ ∧ _))

/-- The source under the cursor of the first two modes. -/
def source (self : RecorderPanel) : RecorderCaptureSource :=
  if self.OnMonitor then .output else (self.selectedWindow.map fun window => .window window.id).getD .output

/-- The panel is on the source again, and the compositor starts with it. -/
structure RoundTrip (lowercase : String → String) (panel restored : RecorderPanel) (compositor : AnvilState) :
    Prop where
  mode : restored.captureMode = panel.captureMode
  cursor : restored.cursor = panel.cursor
  resolved : compositor.rememberedRecorderSource lowercase compositor.desktop.config.recorder = .ok panel.source

/-- Behind the monitor entry nothing stays remembered, and a window is the first that matches what is remembered. -/
def Keeps (self : RecorderPanel) (lowercase : String → String) (previous : Recorder) : Prop :=
  ∀ window, self.selectedWindow = some window →
    if self.OnMonitor then heldAppId previous window = "" ∧ heldTitle previous window = ""
    else Foremost lowercase self.windows (held previous self.captureMode window) window

end RecorderPanel

/-! ## Commands -/

variable {before after : AnvilState} {recorder next : Recorder} {key value : String}

theorem recorderRequest_set (key value : String) :
    AnvilState.recorderRequest (recorderSetCommand (key, value)) = some (.set, key ++ (" " ++ value)) := by
  have parts : recorderSetCommand (key, value) =
      "recorder" ++ (" " ++ ("set" ++ (" " ++ (key ++ (" " ++ value))))) := by
    have verb : "recorder set " = "recorder" ++ (" " ++ ("set" ++ " ")) := by decide
    unfold recorderSetCommand
    rw [verb]
    simp only [String.append_assoc]
  generalize key ++ (" " ++ value) = argument at parts ⊢
  have command : AnvilState.splitCommand (recorderSetCommand (key, value)) =
      ("recorder", "set" ++ (" " ++ argument)) := by
    unfold AnvilState.splitCommand
    rw [parts, Text.splitOnce_append (by decide)]
    rfl
  have action : AnvilState.splitAction ("set" ++ (" " ++ argument)) = ("set", argument) := by
    unfold AnvilState.splitAction
    rw [Text.splitOnce_append (by decide)]
    rfl
  have verb : AnvilState.Verb.parse "recorder" = some .recorder := by decide +kernel
  have parsed : RecorderAction.parse "set" = some .set := by decide +kernel
  unfold AnvilState.recorderRequest
  rw [command]
  dsimp only
  rw [if_pos verb, action, parsed]
  rfl

theorem settingsChange_pair (recorder : Recorder) (bare : Text.Bare key) (full : Text.trim value ≠ "") :
    settingsChange recorder (key ++ (" " ++ value)) = recorder.apply key (Text.trimEnd value) := by
  unfold settingsChange
  rw [Text.trim_pair bare full, Text.splitOnce_append bare.no_space]
  dsimp only
  rw [if_neg (by simp [bare.1, Text.trim_trimEnd, full]), bare.trim_eq]

theorem apply_assign (applied : recorder.apply key value = .ok next) :
    ∃ stored, recorder.assign key value = .ok (next, stored) := by
  unfold Recorder.apply at applied
  cases assigned : recorder.assign key value with
  | error error =>
    rw [assigned] at applied
    cases applied
  | ok pair =>
    rw [assigned] at applied
    simp only [bind, Except.bind] at applied
    split at applied
    · cases applied
    · cases applied
      exact ⟨pair.2, rfl⟩

theorem change_mode {mode : RecorderCaptureMode}
    (changed : settingsChange recorder ("capture_mode" ++ (" " ++ mode.setting)) = .ok next) :
    next = { recorder with captureMode := mode.setting } := by
  have full : Text.trim mode.setting ≠ "" ∧ Text.trimEnd mode.setting = mode.setting := by cases mode <;> decide
  rw [settingsChange_pair recorder (by decide +kernel) full.1, full.2] at changed
  obtain ⟨stored, assigned⟩ := apply_assign changed
  have known : mode.setting ∈ Recorder.captureModes := by cases mode <;> decide
  simp only [Recorder.assign, if_pos known] at assigned
  cases assigned
  rfl

theorem change_appId (full : Text.trim value ≠ "")
    (changed : settingsChange recorder ("window_match" ++ (" " ++ value)) = .ok next) :
    next = if Text.trim value = "none" then { recorder with windowAppId := "", windowTitle := "" }
      else { recorder with windowAppId := Text.trim value } := by
  rw [settingsChange_pair recorder (by decide +kernel) full] at changed
  obtain ⟨stored, assigned⟩ := apply_assign changed
  simp only [Recorder.assign, Text.trim_trimEnd, full, or_false] at assigned
  split at assigned
  · rename_i cleared
    cases assigned
    rw [if_pos cleared]
  · rename_i kept
    cases assigned
    rw [if_neg kept]

theorem change_title (full : Text.trim value ≠ "")
    (changed : settingsChange recorder ("window_title" ++ (" " ++ value)) = .ok next) :
    next = { recorder with windowTitle := if Text.trim value = "none" then "" else Text.trim value } := by
  rw [settingsChange_pair recorder (by decide +kernel) full] at changed
  obtain ⟨stored, assigned⟩ := apply_assign changed
  simp only [Recorder.assign, Text.trim_trimEnd, full, or_false] at assigned
  split at assigned
  · rename_i cleared
    cases assigned
    rw [if_pos cleared]
  · rename_i kept
    cases assigned
    rw [if_neg kept]

/-- The changes one after the other. -/
def changeAll (recorder : Recorder) : List (String × String) → Except String Recorder
  | [] => .ok recorder
  | (key, value) :: rest =>
      match settingsChange recorder (key ++ (" " ++ value)) with
      | .error error => .error error
      | .ok next => changeAll next rest

theorem desktopCommand_accepted {host : Host}
    (accepted : (before.desktopCommand host (recorderSetCommand (key, value))).reply = .ok ()) :
    ∃ next, settingsChange before.desktop.config.recorder (key ++ (" " ++ value)) = .ok next ∧
      (before.desktopCommand host (recorderSetCommand (key, value))).state = (before.setRecorder next).markDirty := by
  have named := recorderRequest_set key value
  -- A locked desktop refuses the command.
  have unlocked : before.lock.locked = false := by
    by_contra locked
    rw [Bool.not_eq_false] at locked
    unfold AnvilState.desktopCommand at accepted
    rw [if_pos ⟨locked, AnvilState.recorderRequest_other named⟩] at accepted
    cases accepted
  rw [AnvilState.desktopCommand_recorder host named unlocked, AnvilState.recorderAction,
    AnvilState.recorderSet_eq] at accepted ⊢
  cases changed : settingsChange before.desktop.config.recorder (key ++ (" " ++ value)) with
  | error error =>
    rw [changed] at accepted
    cases accepted
  | ok next =>
    rw [changed] at accepted
    dsimp only at accepted ⊢
    cases written : host.writeSettings with
    | error error =>
      rw [written] at accepted
      cases accepted
    | ok done => exact ⟨next, rfl, rfl⟩

/-- The settings change one after the other, and nothing happens to the windows. -/
theorem Sent.changes {commands : List (String × String)} (sent : Sent before commands after) :
    changeAll before.desktop.config.recorder commands = .ok after.desktop.config.recorder ∧
      windowInfos after = windowInfos before := by
  induction sent with
  | done alike => exact ⟨congrArg Except.ok alike.settings.symm, alike.windows⟩
  | @send before between after command rest host alike accepted sent ih =>
    obtain ⟨next, changed, state⟩ := desktopCommand_accepted accepted
    obtain ⟨settings, windows⟩ := ih
    rw [state] at settings windows
    constructor
    · unfold changeAll
      rw [← alike.settings, changed]
      exact settings
    · exact windows.trans alike.windows

theorem changeAll_append {front back : List (String × String)}
    (changed : changeAll recorder (front ++ back) = .ok next) :
    ∃ between, changeAll recorder front = .ok between ∧ changeAll between back = .ok next := by
  induction front generalizing recorder with
  | nil => exact ⟨recorder, rfl, changed⟩
  | cons command rest ih =>
    rw [List.cons_append, changeAll] at changed
    rw [changeAll]
    split at changed
    · cases changed
    · exact ih changed

theorem changeAll_one (changed : changeAll recorder [(key, value)] = .ok next) :
    settingsChange recorder (key ++ (" " ++ value)) = .ok next := by
  rw [changeAll] at changed
  split at changed
  · cases changed
  · rename_i happened
    rw [happened]
    exact changed

/-! ## Remembering -/

variable {self : RecorderPanel} {commands : List (String × String)} {window : WindowInfo} {lowercase : String → String}

/-- The commands that a window's identity is remembered with. -/
theorem rememberCommands_window (native : self.captureMode = .screen ∨ self.captureMode = .xwaylandDirect)
    (remembers : self.rememberCommands = .ok commands) :
    ∃ window, self.selectedWindow = some window ∧
      commands = [("capture_mode", self.captureMode.setting)] ++
        ((if Text.trim window.appId ≠ "" then [("window_match", window.appId)] else []) ++
          if Text.trim window.title ≠ "" then [("window_title", window.title)] else []) := by
  unfold RecorderPanel.rememberCommands at remembers
  cases selected : self.selectedWindow with
  | none => rcases native with mode | mode <;> simp [mode, selected] at remembers
  | some window =>
    refine ⟨window, rfl, ?_⟩
    rcases native with mode | mode
    all_goals
      simp only [mode, selected] at remembers ⊢
      generalize ((if Text.trim window.appId ≠ "" then [("window_match", window.appId)] else []) ++
        if Text.trim window.title ≠ "" then [("window_title", window.title)] else []) = identity at remembers ⊢
      split at remembers
      · cases remembers
      · cases remembers
        rfl

theorem changeAll_appId
    (changed : changeAll recorder (if Text.trim window.appId ≠ "" then [("window_match", window.appId)] else []) =
      .ok next) :
    next = { recorder with
      windowAppId := heldAppId recorder window
      windowTitle := if Text.trim window.appId = "none" then "" else recorder.windowTitle } := by
  unfold heldAppId
  by_cases blank : Text.trim window.appId = ""
  · rw [if_neg (not_not.mpr blank)] at changed
    cases changed
    simp [blank]
  · rw [if_pos blank] at changed
    rw [change_appId blank (changeAll_one changed), if_neg blank]
    split <;> rfl

theorem changeAll_title
    (changed : changeAll recorder (if Text.trim window.title ≠ "" then [("window_title", window.title)] else []) =
      .ok next) :
    next = { recorder with
      windowTitle := if Text.trim window.title = "" then recorder.windowTitle
        else if Text.trim window.title = "none" then "" else Text.trim window.title } := by
  by_cases blank : Text.trim window.title = ""
  · rw [if_neg (not_not.mpr blank)] at changed
    cases changed
    rw [if_pos blank]
  · rw [if_pos blank] at changed
    rw [change_title blank (changeAll_one changed), if_neg blank]

/-- Once all commands have succeeded the settings hold what the window leaves in them. -/
theorem remembered_held (native : self.captureMode = .screen ∨ self.captureMode = .xwaylandDirect)
    (remembers : self.rememberCommands = .ok commands) (selected : self.selectedWindow = some window)
    (changed : changeAll recorder commands = .ok next) : next = held recorder self.captureMode window := by
  obtain ⟨remembered, there, rfl⟩ := rememberCommands_window native remembers
  cases selected.symm.trans there
  -- The capture method first, then the app id, which may clear the title, then the title.
  obtain ⟨moded, mode, changed⟩ := changeAll_append changed
  obtain ⟨named, appId, title⟩ := changeAll_append changed
  rw [changeAll_title title, changeAll_appId appId, change_mode (changeAll_one mode), held, heldAppId, heldTitle,
    heldAppId]

/-! ## Finding it again -/

section Search

variable {compositor : AnvilState} {settings : Recorder} {windows front back : List WindowInfo}
variable {search : WindowInfo → Bool}

theorem resolves_output :
    compositor.rememberedRecorderSource lowercase settings = .ok .output ↔
      settings.windowAppId = "" ∧ settings.windowTitle = "" := by
  unfold AnvilState.rememberedRecorderSource
  split
  · rename_i nothing
    exact iff_of_true rfl nothing
  · rename_i something
    refine iff_of_false ?_ something
    split <;> simp

theorem resolves_window {id : Nat} :
    compositor.rememberedRecorderSource lowercase settings = .ok (.window id) ↔
      (settings.windowAppId ≠ "" ∨ settings.windowTitle ≠ "") ∧
        ((windowInfos compositor).find? fun window => windowMatchesSettings lowercase window settings).map (·.id) =
          some id := by
  -- The compositor looks for the same window in its own list.
  have same : ((windowInfos compositor).find? fun window => windowMatchesSettings lowercase window settings) =
      (compositor.desktop.windows.find? (compositor.rememberedMatch lowercase (lowercase settings.windowAppId)
        (lowercase settings.windowTitle))).map (windowInfo compositor) := List.find?_map ..
  rw [same]
  unfold AnvilState.rememberedRecorderSource
  by_cases nothing : settings.windowAppId = "" ∧ settings.windowTitle = ""
  · rw [if_pos nothing]
    simp [nothing]
  · rw [if_neg nothing]
    rw [not_and_or] at nothing
    cases compositor.desktop.windows.find? (compositor.rememberedMatch lowercase (lowercase settings.windowAppId)
        (lowercase settings.windowTitle)) with
    | none => simp
    | some window => simp [nothing, windowInfo]

/-- What stands before a window, by its id. -/
theorem takeWhile_split (distinct : (windows.map (·.id)).Nodup) (there : window ∈ windows) :
    ∃ back, windows = windows.takeWhile (fun other => other.id != window.id) ++ window :: back := by
  obtain ⟨front, back, rfl⟩ := List.append_of_mem there
  have others : ∀ other ∈ front, (other.id != window.id) = true := by
    rw [List.map_append, List.nodup_append] at distinct
    intro other earlier
    simpa using distinct.2.2 other.id (List.mem_map_of_mem earlier) window.id (by simp)
  refine ⟨back, ?_⟩
  rw [List.takeWhile_append_of_pos others]
  simp

theorem find_foremost (distinct : (windows.map (·.id)).Nodup) (there : window ∈ windows) :
    (windows.find? search).map (·.id) = some window.id ↔
      search window = true ∧
        ∀ other ∈ windows.takeWhile (fun other => other.id != window.id), search other = false := by
  obtain ⟨back, parts⟩ := takeWhile_split distinct there
  generalize windows.takeWhile (fun other => other.id != window.id) = front at parts ⊢
  subst parts
  rw [List.map_append, List.map_cons, List.nodup_append, List.nodup_cons] at distinct
  rw [List.find?_append]
  -- A match in front of the window hides it.
  cases earlier : front.find? search with
  | some other =>
    have listed := List.mem_of_find?_eq_some earlier
    have found := List.find?_some earlier
    refine iff_of_false ?_ fun foremost => ?_
    · rw [Option.some_or, Option.map_some, Option.some_inj]
      exact distinct.2.2 other.id (List.mem_map_of_mem listed) window.id (by simp)
    · rw [foremost.2 other listed] at found
      cases found
  | none =>
    have silent : ∀ other ∈ front, search other = false := by simpa using List.find?_eq_none.mp earlier
    rw [Option.none_or, List.find?_cons]
    cases search window with
    | true => simpa using silent
    | false =>
      refine iff_of_false ?_ (fun foremost => absurd foremost.1 Bool.false_ne_true)
      intro later
      rw [Option.map_eq_some_iff] at later
      obtain ⟨other, found, same⟩ := later
      exact distinct.2.1.1 (same ▸ List.mem_map_of_mem (List.mem_of_find?_eq_some found))

theorem findIdx_foremost {index : Nat} (distinct : windows.Nodup) (parts : windows = front ++ window :: back)
    (found : search window = true) (first : ∀ other ∈ front, search other = false)
    (stands : windows[index]? = some window) : windows.findIdx? search = some index := by
  have place : windows[front.length]? = some window := by simp [parts]
  obtain ⟨inside, -⟩ := List.getElem?_eq_some_iff.mp stands
  have same : index = front.length := (List.getElem?_inj inside distinct).mp (stands.trans place.symm)
  have nowhere : front.findIdx? search = none := List.findIdx?_eq_none_iff.mpr first
  rw [parts, List.findIdx?_append, nowhere, same]
  simp [List.findIdx?_cons, found]

end Search

namespace RecorderPanel

variable {opened : RecorderPanel} {state : RecorderState}

theorem cycle_back (mode : RecorderCaptureMode) : (mode.cycle true).cycle false = mode := by
  cases mode <;> decide

theorem ofSetting_setting (mode : RecorderCaptureMode) : RecorderCaptureMode.ofSetting mode.setting = mode := by
  cases mode <;> decide

theorem held_mode (previous : Recorder) (mode : RecorderCaptureMode) (window : WindowInfo) :
    RecorderCaptureMode.ofSetting (held previous mode window).captureMode = mode := by
  unfold held
  exact ofSetting_setting mode

theorem restore_screen (mode : RecorderCaptureMode.ofSetting self.settings.captureMode = .screen) :
    (self.restoreRecorderSelection lowercase).captureMode = .screen ∧
      (self.restoreRecorderSelection lowercase).selected = self.windowIndexForSettings lowercase self.settings := by
  unfold restoreRecorderSelection cycleRecorderCaptureMode
  dsimp only
  rw [mode, cycle_back]
  exact ⟨rfl, rfl⟩

/-- The cursor stays where it is restored. -/
theorem restore_xwayland (mode : RecorderCaptureMode.ofSetting self.settings.captureMode = .xwaylandDirect)
    {index : Nat} (found : (self.xwaylandWindows.findIdx? fun window =>
      windowMatchesSettings lowercase window self.settings) = some index) :
    (self.restoreRecorderSelection lowercase).captureMode = .xwaylandDirect ∧
      (self.restoreRecorderSelection lowercase).xwaylandSelected = index := by
  obtain ⟨inside, -⟩ := List.findIdx?_eq_some_iff_getElem.mp found
  unfold xwaylandWindows at found inside
  unfold restoreRecorderSelection cycleRecorderCaptureMode xwaylandWindows
  dsimp only
  rw [mode, cycle_back]
  dsimp only
  rw [found, Option.getD_some]
  exact ⟨rfl, by omega⟩

theorem takeSnapshot_fresh (lowercase : String → String) (settings : Recorder) (windows : List WindowInfo)
    (state : RecorderState) (fresh : opened.selectionRestored = false) :
    ∃ taken : RecorderPanel, taken.settings = settings ∧ taken.windows = windows ∧
      opened.takeSnapshot lowercase settings windows state =
        { taken.restoreRecorderSelection lowercase with selectionRestored := true } := by
  unfold takeSnapshot
  dsimp only
  rw [fresh, if_neg Bool.false_ne_true]
  exact ⟨_, rfl, rfl, rfl⟩

/-- Noting that the selection is restored does not move it. -/
theorem restored_selection (panel : RecorderPanel) :
    { panel with selectionRestored := true }.captureMode = panel.captureMode ∧
      { panel with selectionRestored := true }.selected = panel.selected ∧
      { panel with selectionRestored := true }.xwaylandSelected = panel.xwaylandSelected := ⟨rfl, rfl, rfl⟩

/-! ## The round trip -/

variable {previous : Recorder}

theorem selectedWindow_open (selected : self.selectedWindow = some window) : window ∈ self.windows := by
  unfold selectedWindow at selected
  split at selected
  · exact List.mem_of_mem_filter (List.mem_of_getElem? selected)
  · exact List.mem_of_getElem? selected

/-- The compositor starts with the source of the panel exactly if the panel keeps it. -/
theorem resolved_iff (distinct : (self.windows.map (·.id)).Nodup) (selected : self.selectedWindow = some window)
    (shown : windowInfos after = self.windows)
    (settled : after.desktop.config.recorder = held previous self.captureMode window) :
    after.rememberedRecorderSource lowercase after.desktop.config.recorder = .ok self.source ↔
      self.Keeps lowercase previous := by
  have one : self.Keeps lowercase previous ↔
      if self.OnMonitor then heldAppId previous window = "" ∧ heldTitle previous window = ""
      else Foremost lowercase self.windows (held previous self.captureMode window) window := by
    unfold Keeps
    rw [selected]
    exact ⟨fun keeps => keeps window rfl, fun keeps other same => Option.some.inj same ▸ keeps⟩
  rw [one, settled]
  unfold source
  split
  · rw [resolves_output, held_appId, held_title]
  · rw [selected, Option.map_some, Option.getD_some, resolves_window, shown,
      find_foremost distinct (selectedWindow_open selected)]
    exact ⟨fun found => ⟨found.1, found.2.1, found.2.2⟩, fun found => ⟨found.remembered, found.fits, found.first⟩⟩

theorem restored_screen (distinct : (self.windows.map (·.id)).Nodup) (mode : self.captureMode = .screen)
    (selected : self.selectedWindow = some window) (fresh : opened.selectionRestored = false)
    (keeps : self.Keeps lowercase previous) {restored : RecorderPanel}
    (restores : opened.takeSnapshot lowercase (held previous self.captureMode window) self.windows state = restored) :
    restored.captureMode = .screen ∧ restored.selected = self.selected := by
  obtain ⟨taken, settings, windows, snapshot⟩ :=
    takeSnapshot_fresh lowercase (held previous self.captureMode window) self.windows state fresh
  obtain ⟨method, cursor⟩ := restore_screen (show RecorderCaptureMode.ofSetting taken.settings.captureMode = _ by
    rw [settings, held_mode, mode])
  rw [← restores, snapshot, (restored_selection _).1, (restored_selection _).2.1, cursor]
  refine ⟨method, ?_⟩
  unfold windowIndexForSettings
  rw [settings, windows]
  have kept := keeps window selected
  -- The monitor comes back where nothing is remembered, a window where its identity finds it first.
  split at kept
  · rename_i monitor
    rw [monitor.2, held_appId, held_title, if_pos kept]
  · rename_i elsewhere
    have behind : self.selected ≠ 0 := fun first => elsewhere ⟨mode, first⟩
    have stands : self.windows[self.selected - 1]? = some window := by
      unfold selectedWindow at selected
      rwa [if_neg (by simp [mode])] at selected
    obtain ⟨back, parts⟩ := takeWhile_split distinct (List.mem_of_getElem? stands)
    have found := findIdx_foremost distinct.of_map parts kept.fits kept.first stands
    rw [if_neg (not_and_or.mpr kept.remembered), found]
    show self.selected - 1 + 1 = self.selected
    omega

theorem restored_xwayland (distinct : (self.windows.map (·.id)).Nodup) (mode : self.captureMode = .xwaylandDirect)
    (selected : self.selectedWindow = some window) (fresh : opened.selectionRestored = false)
    (keeps : self.Keeps lowercase previous) {restored : RecorderPanel}
    (restores : opened.takeSnapshot lowercase (held previous self.captureMode window) self.windows state = restored) :
    restored.captureMode = .xwaylandDirect ∧ restored.xwaylandSelected = self.xwaylandSelected := by
  obtain ⟨taken, settings, windows, snapshot⟩ :=
    takeSnapshot_fresh lowercase (held previous self.captureMode window) self.windows state fresh
  have kept := keeps window selected
  rw [if_neg (by simp [OnMonitor, mode])] at kept
  have stands : self.xwaylandWindows[self.xwaylandSelected]? = some window := by
    unfold selectedWindow at selected
    rwa [if_pos mode] at selected
  have listed := List.mem_of_getElem? stands
  unfold xwaylandWindows at stands listed
  obtain ⟨back, parts⟩ := takeWhile_split distinct (List.mem_of_mem_filter listed)
  -- Without the other windows the order is the same.
  have filtered := congrArg (List.filter fun window => window.x11Window.isSome) parts
  rw [List.filter_append, List.filter_cons_of_pos (List.of_mem_filter listed)] at filtered
  have found := findIdx_foremost (distinct.of_map.filter _) filtered kept.fits
    (fun other earlier => kept.first other (List.mem_of_mem_filter earlier)) stands
  rw [← restores, snapshot, (restored_selection _).1, (restored_selection _).2.2]
  refine restore_xwayland (by rw [settings, held_mode, mode]) ?_
  unfold xwaylandWindows
  rw [settings, windows]
  exact found

variable {commands : List (String × String)}

/-- When a source of the first two modes is remembered, and all commands succeed while the same windows are open, then
a panel that is opened afterwards is on the source again and the compositor starts with it exactly if the panel keeps
it. -/
theorem remembered_round_trip (reachable : before.Reachable)
    (native : self.captureMode = .screen ∨ self.captureMode = .xwaylandDirect)
    (shown : self.windows = windowInfos before) (remembers : self.rememberCommands = .ok commands)
    (sent : Sent before commands after) (fresh : opened.selectionRestored = false) (lowercase : String → String)
    (state : RecorderState) :
    RoundTrip lowercase self
        (opened.takeSnapshot lowercase after.desktop.config.recorder (windowInfos after) state) after ↔
      self.Keeps lowercase before.desktop.config.recorder := by
  have distinct : (self.windows.map (·.id)).Nodup := by
    have ids := (AnvilState.reachable_numbered reachable).ids
    rw [Desktop.tags, List.map_map] at ids
    rw [shown, windowInfos, List.map_map]
    exact ids
  obtain ⟨window, selected, -⟩ := rememberCommands_window native remembers
  obtain ⟨changed, same⟩ := sent.changes
  have settled := remembered_held native remembers selected changed
  have windows : windowInfos after = self.windows := same.trans shown.symm
  have resolved : _ ↔ self.Keeps lowercase _ := resolved_iff distinct selected windows settled
  refine ⟨fun trip => resolved.mp trip.resolved, fun keeps => ?_⟩
  rw [windows, settled]
  obtain ⟨restored, restores⟩ : ∃ restored,
      opened.takeSnapshot lowercase (held before.desktop.config.recorder self.captureMode window) self.windows state =
        restored := ⟨_, rfl⟩
  rw [restores]
  rcases native with mode | mode
  · obtain ⟨method, place⟩ := restored_screen distinct mode selected fresh keeps restores
    refine ⟨method.trans mode.symm, ?_, resolved.mpr keeps⟩
    unfold RecorderPanel.cursor
    rw [if_neg (by rw [method]; decide), if_neg (by rw [mode]; decide)]
    exact place
  · obtain ⟨method, place⟩ := restored_xwayland distinct mode selected fresh keeps restores
    refine ⟨method.trans mode.symm, ?_, resolved.mpr keeps⟩
    unfold RecorderPanel.cursor
    rw [if_pos method, if_pos mode]
    exact place

/-- A desktop with two windows. -/
def twoWindows : AnvilState := AnvilState.runState [
  .connectOutput "DP-1" (some (1920, 1080)) (some ⟨0, 0, 1920, 1080⟩),
  .windowCreated { handle := 7, appId := "firefox", title := "News" },
  .windowMapped 7,
  .windowCreated { handle := 8, appId := "foot", title := "Shell" },
  .windowMapped 8,
  .maintain {}]

def onEntry (entry : Nat) : RecorderPanel := { selected := entry, windows := windowInfos twoWindows }

def sendAll (compositor : AnvilState) : List (String × String) → AnvilState
  | [] => compositor
  | command :: rest => sendAll (compositor.desktopCommand {} (recorderSetCommand command)).state rest

def accepts (compositor : AnvilState) : List (String × String) → Bool
  | [] => true
  | command :: rest =>
      decide ((compositor.desktopCommand {} (recorderSetCommand command)).reply = .ok ()) &&
        accepts (compositor.desktopCommand {} (recorderSetCommand command)).state rest

theorem accepts_sent {compositor : AnvilState} (accepted : accepts compositor commands = true) :
    Sent compositor commands (sendAll compositor commands) := by
  induction commands generalizing compositor with
  | nil => exact .done ⟨rfl, rfl⟩
  | cons command rest ih =>
    rw [accepts, Bool.and_eq_true, decide_eq_true_eq] at accepted
    exact .send {} ⟨rfl, rfl⟩ accepted.1 (ih accepted.2)

def shellCommands : List (String × String) :=
  [("capture_mode", "screen"), ("window_match", "foot"), ("window_title", "Shell")]

/-- The second window is remembered. -/
theorem remembered_round_trip_second :
    RoundTrip id (onEntry 2)
      (({} : RecorderPanel).takeSnapshot id (sendAll twoWindows shellCommands).desktop.config.recorder
        (windowInfos (sendAll twoWindows shellCommands)) .idle) (sendAll twoWindows shellCommands) := by
  have keeps : (onEntry 2).Keeps id twoWindows.desktop.config.recorder := by
    intro window selected
    have second : (onEntry 2).selectedWindow =
        some { id := 2, appId := "foot", title := "Shell" } := by decide +kernel
    cases second.symm.trans selected
    rw [if_neg (by decide +kernel)]
    exact ⟨by decide +kernel, by decide +kernel, by decide +kernel⟩
  have reachable : twoWindows.Reachable := AnvilState.runState_reachable _
  have remembers : (onEntry 2).rememberCommands = .ok shellCommands := by decide +kernel
  have sent := accepts_sent (show accepts twoWindows shellCommands = true by decide +kernel)
  exact (remembered_round_trip reachable (.inl rfl) rfl remembers sent rfl id .idle).mpr keeps

def newsCommands : List (String × String) :=
  [("capture_mode", "screen"), ("window_match", "firefox"), ("window_title", "News")]

/-- Behind the monitor entry the first window is remembered, and the compositor starts with it. -/
theorem monitor_remembers_window : ∃ before after : AnvilState, ∃ commands, before.Reachable ∧
    (onEntry 0).windows = windowInfos before ∧ (onEntry 0).OnMonitor ∧
    (onEntry 0).rememberCommands = .ok commands ∧ Sent before commands after ∧
    (({} : RecorderPanel).takeSnapshot id after.desktop.config.recorder (windowInfos after) .idle).cursor = 1 ∧
    after.rememberedRecorderSource id after.desktop.config.recorder = .ok (.window 1) ∧
    ¬RoundTrip id (onEntry 0)
      (({} : RecorderPanel).takeSnapshot id after.desktop.config.recorder (windowInfos after) .idle) after := by
  have sent := accepts_sent (show accepts twoWindows newsCommands = true by decide +kernel)
  refine ⟨twoWindows, sendAll twoWindows newsCommands, newsCommands, AnvilState.runState_reachable _, rfl,
    by decide +kernel, by decide +kernel, sent, by decide +kernel, by decide +kernel, fun trip => ?_⟩
  exact absurd trip.resolved (by decide +kernel)

end RecorderPanel

end Luma.Shell
