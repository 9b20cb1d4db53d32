import Luma.Core.Settings
import Luma.Library.Transition

/-! The recorder panel of the native shell: its two views, the settings rows and the inline text edit.

Clicks come with the region that they hit. What `/proc` lists is part of the state and may change
at any time. Labels, the values that rows show and the answers to commands other than settings
are left out.
-/

set_option autoImplicit false

namespace Luma.Shell

open Luma.Library Luma.Core

inductive RecorderCaptureMode where
  | screen | xwaylandDirect | openGlInject | openGlGame | vulkanGame
  deriving DecidableEq, Repr

namespace RecorderCaptureMode

def all : List RecorderCaptureMode := [.screen, .xwaylandDirect, .openGlInject, .openGlGame, .vulkanGame]

def cycle (self : RecorderCaptureMode) (forward : Bool) : RecorderCaptureMode :=
  let index := all.idxOf self
  let next := if forward then (index + 1) % all.length else (index + all.length - 1) % all.length
  all[next]?.getD self

/-- The value of the setting for a mode. -/
def setting : RecorderCaptureMode → String
  | .xwaylandDirect => "xwayland"
  | .openGlInject => "inject"
  | .openGlGame => "opengl"
  | .vulkanGame => "vulkan"
  | .screen => "screen"

def ofSetting : String → RecorderCaptureMode
  | "xwayland" => .xwaylandDirect
  | "inject" => .openGlInject
  | "opengl" => .openGlGame
  | "vulkan" => .vulkanGame
  | _ => .screen

/-- The interface of the game profiles that a mode starts. -/
def api : RecorderCaptureMode → Option String
  | .openGlGame => some "opengl"
  | .vulkanGame => some "vulkan"
  | _ => none

end RecorderCaptureMode

inductive RecorderSettingsTab where
  | output | capture | video | audio | replay
  deriving DecidableEq, Repr

namespace RecorderSettingsTab

def all : List RecorderSettingsTab := [.output, .capture, .video, .audio, .replay]

def cycle (self : RecorderSettingsTab) (forward : Bool) : RecorderSettingsTab :=
  let index := all.idxOf self
  let next := if forward then (index + 1) % all.length else (index + all.length - 1) % all.length
  all[next]?.getD self

end RecorderSettingsTab

inductive RecorderRowKind where
  | cycle | step | toggle | path | identity | action | info
  deriving DecidableEq, Repr

/-- The kinds of the rows of a tab, which no setting changes. -/
def recorderSettingsRows : RecorderSettingsTab → List RecorderRowKind
  | .output => [.cycle, .step, .toggle, .toggle, .info, .path]
  | .capture => [.cycle, .identity, .action, .info]
  | .video => [.step, .step, .step, .step, .info]
  | .audio => [.cycle, .cycle, .info]
  | .replay => [.step, .step, .info]

/-! ## Left and right -/

/-- The next value of a number between two limits. -/
def stepValue (forward : Bool) (current low high amount : Nat) : String :=
  if forward then toString (min (current + amount) high) else toString (max (current - amount) low)

/-- What a row sends, before the settings check it. -/
def adjustCommands (settings : Recorder) (forward : Bool) :
    RecorderSettingsTab → Nat → Except String (List (String × String))
  | .output, 0 =>
      let codec := if settings.codec = "h264" then "hevc" else "h264"
      let off := if codec = "h264" ∧ settings.hdr = true then [("hdr", "false")] else []
      .ok (off ++ [("codec", codec)])
  | .output, 1 => .ok [("quality", stepValue forward settings.quality 1 51 1)]
  | .output, 2 => .ok [("hdr", toString (!settings.hdr))]
  | .output, 3 => .ok [("cursor", toString (!settings.cursor))]
  | .output, 4 => .error "the container is fixed to fragmented MP4"
  | .output, 5 => .error "press Enter to edit the recording path"
  | .output, _ => .error "settings row is out of range"
  | .capture, 0 =>
      let modes := Recorder.captureModes
      let current := if settings.captureMode ∈ modes then modes.idxOf settings.captureMode else 0
      let next := if forward then (current + 1) % modes.length else (current + modes.length - 1) % modes.length
      .ok [("capture_mode", modes[next]?.getD "")]
  | .capture, 1 => .error "press Enter to edit the remembered target"
  | .capture, 2 => .error "press Enter to remember the current selection"
  | .capture, 3 => .ok []
  | .capture, _ => .error "settings row is out of range"
  | .video, 0 => .ok [("screen_fps", stepValue forward settings.screenFps 30 480 30)]
  | .video, 1 => .ok [("fps", stepValue forward settings.fps 30 480 30)]
  | .video, 2 => .ok [("output_width", stepValue forward settings.outputWidth 2 16384 2)]
  | .video, 3 => .ok [("output_height", stepValue forward settings.outputHeight 2 16384 2)]
  | .video, _ => .ok []
  | .audio, 0 =>
      .ok [("desktop_audio", if settings.desktopAudio = "default_output" then "disabled" else "default_output")]
  | .audio, 1 => .ok [("microphone", if settings.microphone = "default_input" then "disabled" else "default_input")]
  | .audio, _ => .ok []
  | .replay, 0 => .ok [("replay_seconds", stepValue forward settings.replaySeconds 2 3600 5)]
  | .replay, 1 => .ok [("replay_max_mib", stepValue forward settings.replayMaxMib 64 8192 64)]
  | .replay, _ => .ok []

/-- The commands one after the other, up to the first that is rejected. -/
def applyAll (candidate : Recorder) : List (String × String) → Except String Recorder
  | [] => .ok candidate
  | (key, value) :: rest =>
      match candidate.apply key value with
      | .error error => .error (key ++ ": " ++ error)
      | .ok next => applyAll next rest

def adjustRecorderSetting (settings : Recorder) (tab : RecorderSettingsTab) (row : Nat) (direction : Int) :
    Except String (List (String × String)) :=
  if direction = 0 then .ok []
  else if (recorderSettingsRows tab)[row]?.isNone then .error "settings row is out of range"
  else do
    let commands ← adjustCommands settings (0 < direction) tab row
    let _ ← applyAll settings commands
    return commands

/-! ## Windows -/

/-- The part of a window's description that the panel reads. -/
structure WindowInfo where
  id : Nat
  x11Window : Option Nat := none
  title : String := ""
  appId : String := ""
  deriving DecidableEq, Repr

/-- A remembered app id is looked for in the title of windows that have none. -/
def windowMatchesSettings (lowercase : String → String) (window : WindowInfo) (settings : Recorder) : Bool :=
  let appId := lowercase window.appId
  let title := lowercase window.title
  let rememberedApp := lowercase settings.windowAppId
  let rememberedTitle := lowercase settings.windowTitle
  (rememberedApp != "" && ((appId != "" && Text.contains appId rememberedApp) ||
    (appId == "" && Text.contains title rememberedApp))) ||
  (rememberedTitle != "" && Text.contains title rememberedTitle)

/-- A process that may be captured by injection. -/
structure RecorderAttachTarget where
  pid : Nat
  comm : String
  deriving DecidableEq, Repr

/-! ## The panel -/

inductive RecorderView where
  | controls | settings
  deriving DecidableEq, Repr

/-- The text that is edited, and what the source does not keep: the row where the edit began and the capture method
of the settings then. -/
structure RecorderEdit where
  buffer : String
  kind : RecorderRowKind
  method : String
  deriving DecidableEq, Repr

structure RecorderPanel where
  view : RecorderView := .controls
  settingsTab : RecorderSettingsTab := .output
  settingsRow : Nat := 0
  pathEdit : Option RecorderEdit := none
  captureMode : RecorderCaptureMode := .screen
  selected : Nat := 0
  xwaylandSelected : Nat := 0
  attachSelected : Nat := 0
  gameProfileSelected : Nat := 0
  selectionRestored : Bool := false
  /-- A message, and whether it is about an error. -/
  feedback : Option (String × Bool) := none
  exit : Bool := false
  /-- The last snapshot: the settings, the windows and the state of the recorder. -/
  settings : Recorder := {}
  windows : List WindowInfo := []
  recorderState : RecorderState := .idle
  processes : List RecorderAttachTarget := []
  deriving DecidableEq, Repr

inductive RecorderRowPart where
  | dec | value | inc
  deriving DecidableEq, Repr

inductive RecorderHit where
  | startStop | pause | replaySave | settings
  | tab (index : Nat)
  | row (index : Nat) (part : RecorderRowPart)
  | closeSettings | resetSettings
  deriving DecidableEq, Repr

inductive RecorderKey where
  | escape | tab | up | down | left | right | ret | backSpace | space
  | other (utf8 : Option String)
  deriving DecidableEq, Repr

inductive RecorderPanelInput where
  | key (key : RecorderKey)
  | click (hit : Option RecorderHit)
  /-- A snapshot that differs from the last one. -/
  | snapshot (settings : Recorder) (windows : List WindowInfo) (state : RecorderState)
  /-- The answer to settings commands: an error, or none. -/
  | answer (error : Option String)
  | processes (targets : List RecorderAttachTarget)
  deriving DecidableEq, Repr

inductive RecorderPanelOutput where
  /-- Settings commands, which are sent up to the first that fails. -/
  | recorderSet (commands : List (String × String))
  /-- The end of an edit, with the settings commands that it sends. -/
  | commit (edit : RecorderEdit) (commands : List (String × String))
  | run (command : String)
  deriving DecidableEq, Repr

namespace RecorderPanel

def rowKinds (self : RecorderPanel) : List RecorderRowKind := recorderSettingsRows self.settingsTab

/-- The cursor, kept among the rows of the tab. -/
def clampRow (self : RecorderPanel) : RecorderPanel :=
  { self with settingsRow := min self.settingsRow (self.rowKinds.length - 1) }

def fail (self : RecorderPanel) (message : String) : RecorderPanel := { self with feedback := some (message, true) }

def sendRecorderCommands (self : RecorderPanel) (commands : List (String × String)) :
    RecorderPanel × List RecorderPanelOutput :=
  ({ self with feedback := none }, [.recorderSet commands])

def applyRecorderAdjustment (self : RecorderPanel) (direction : Int) : RecorderPanel × List RecorderPanelOutput :=
  match adjustRecorderSetting self.settings self.settingsTab self.settingsRow direction with
  | .ok [] => (self, [])
  | .ok commands => self.sendRecorderCommands commands
  | .error error => (self.fail error, [])

/-- The kind of the selected row if the enter key acts on it. -/
def recorderEditableRowKind (self : RecorderPanel) : Option RecorderRowKind :=
  self.rowKinds[self.settingsRow]?.filter fun kind => kind = .path || kind = .identity || kind = .action

/-! ## The selection -/

def xwaylandWindows (self : RecorderPanel) : List WindowInfo :=
  self.windows.filter fun window => window.x11Window.isSome

def selectedRecorderXwaylandWindow (self : RecorderPanel) : Option WindowInfo :=
  self.xwaylandWindows[self.xwaylandSelected]?

def selectedRecorderAttachTarget (self : RecorderPanel) : Option RecorderAttachTarget :=
  self.processes[self.attachSelected]?

def gameProfiles (self : RecorderPanel) : List GameCaptureProfile :=
  match self.captureMode.api with
  | none => []
  | some api => self.settings.gameProfiles.filter fun profile => profile.api = api

def selectedRecorderGameProfile (self : RecorderPanel) : Option GameCaptureProfile :=
  self.gameProfiles[self.gameProfileSelected]?

/-- The window under the cursor of the first two modes. The first entry of the list of sources is the monitor. -/
def selectedWindow (self : RecorderPanel) : Option WindowInfo :=
  if self.captureMode = .xwaylandDirect then self.selectedRecorderXwaylandWindow
  else self.windows[self.selected - 1]?

def recorderSelectedWindowIdentity (self : RecorderPanel) : Option String := do
  let window ← self.selectedWindow
  if Text.trim window.appId ≠ "" then some window.appId
  else if Text.trim window.title ≠ "" then some window.title
  else none

def recorderIdentityEditSeed (self : RecorderPanel) : String :=
  match self.settings.captureMode with
  | "screen" | "xwayland" =>
      self.recorderSelectedWindowIdentity.getD
        (if self.settings.windowAppId = "" ∧ self.settings.windowTitle = "" then "" else self.settings.windowAppId)
  | "inject" => (self.selectedRecorderAttachTarget.map (·.comm)).getD self.settings.injectProcess
  | "opengl" | "vulkan" => (self.selectedRecorderGameProfile.map (·.name)).getD self.settings.gameProfile
  | _ => ""

/-- The commands that remember what is selected, or why there are none. -/
def rememberCommands (self : RecorderPanel) : Except String (List (String × String)) :=
  let mode := ("capture_mode", self.captureMode.setting)
  match self.captureMode with
  | .screen | .xwaylandDirect =>
      match self.selectedWindow with
      | none => .error "Select a source on the Controls page first"
      | some window =>
          let commands := mode ::
            ((if Text.trim window.appId ≠ "" then [("window_match", window.appId)] else []) ++
              if Text.trim window.title ≠ "" then [("window_title", window.title)] else [])
          if commands.length = 1 then .error "That window has no app_id or title to remember"
          else .ok commands
  | .openGlInject =>
      match self.selectedRecorderAttachTarget with
      | none => .error "Select a process on the Controls page first"
      | some target => .ok [mode, ("inject_process", target.comm)]
  | .openGlGame | .vulkanGame =>
      match self.selectedRecorderGameProfile with
      | none => .error "Select a profile on the Controls page first"
      | some profile => .ok [mode, ("game_profile", profile.name)]

def rememberCurrentRecorderSource (self : RecorderPanel) : RecorderPanel × List RecorderPanelOutput :=
  match self.rememberCommands with
  | .error message => (self.fail message, [])
  | .ok commands => self.sendRecorderCommands commands

def cycleRecorderCaptureMode (self : RecorderPanel) (forward : Bool) : RecorderPanel :=
  let cycled := { self with captureMode := self.captureMode.cycle forward }
  { cycled with
    gameProfileSelected := min self.gameProfileSelected (cycled.gameProfiles.length - 1)
    attachSelected := min self.attachSelected (self.processes.length - 1)
    xwaylandSelected := min self.xwaylandSelected (self.xwaylandWindows.length - 1) }

/-- One more or less, between the ends of a list. -/
def moveCursor (count cursor : Nat) (forward : Bool) : Nat :=
  if count = 0 then 0 else if forward then min (cursor + 1) (count - 1) else cursor - 1

def moveRecorderSelection (self : RecorderPanel) (forward : Bool) : RecorderPanel :=
  match self.captureMode with
  | .screen =>
      { self with selected := if forward then min (self.selected + 1) self.windows.length else self.selected - 1 }
  | .xwaylandDirect =>
      { self with xwaylandSelected := moveCursor self.xwaylandWindows.length self.xwaylandSelected forward }
  | .openGlInject => { self with attachSelected := moveCursor self.processes.length self.attachSelected forward }
  | .openGlGame | .vulkanGame =>
      { self with gameProfileSelected := moveCursor self.gameProfiles.length self.gameProfileSelected forward }

def windowIndexForSettings (self : RecorderPanel) (lowercase : String → String) (settings : Recorder) : Nat :=
  if settings.windowAppId = "" ∧ settings.windowTitle = "" then 0
  else
    ((self.windows.findIdx? fun window => windowMatchesSettings lowercase window settings).map (· + 1)).getD 0

def restoreRecorderSelection (self : RecorderPanel) (lowercase : String → String) : RecorderPanel :=
  let settings := self.settings
  let moded := { self with captureMode := .ofSetting settings.captureMode }
  let restored := match moded.captureMode with
    | .screen => { moded with selected := moded.windowIndexForSettings lowercase settings }
    | .xwaylandDirect =>
        { moded with
          xwaylandSelected :=
            (moded.xwaylandWindows.findIdx? fun window => windowMatchesSettings lowercase window settings).getD 0 }
    | .openGlInject =>
        { moded with
          attachSelected := (moded.processes.findIdx? fun (target : RecorderAttachTarget) =>
            settings.injectProcess != "" &&
              Text.contains (lowercase target.comm) (lowercase settings.injectProcess)).getD 0 }
    | .openGlGame | .vulkanGame =>
        { moded with
          gameProfileSelected := (moded.gameProfiles.findIdx? fun (profile : GameCaptureProfile) =>
            profile.name = settings.gameProfile).getD 0 }
  (restored.cycleRecorderCaptureMode true).cycleRecorderCaptureMode false

/-! ## Starting -/

def running (self : RecorderPanel) : Bool := self.recorderState ≠ .idle && self.recorderState ≠ .error

/-- Nothing stands against starting the selected method. -/
def recorderCanStart (self : RecorderPanel) : Bool :=
  !self.running && self.settings.enabled &&
    match self.captureMode with
    | .screen => true
    | .xwaylandDirect => self.selectedRecorderXwaylandWindow.isSome
    | .openGlInject => self.selectedRecorderAttachTarget.isSome
    | .openGlGame | .vulkanGame => self.gameProfiles.length != 0 && self.selectedRecorderGameProfile.isSome

def rememberedScreenCommand (self : RecorderPanel) (lowercase : String → String) (action : String) (selected : Nat) :
    String :=
  if (self.settings.windowAppId ≠ "" ∨ self.settings.windowTitle ≠ "") ∧
      (self.windows.any fun window => windowMatchesSettings lowercase window self.settings) = true then
    "recorder " ++ action ++ " remembered"
  else
    match if 0 < selected then self.windows[selected - 1]? else none with
    | some window => "recorder " ++ action ++ " window " ++ toString window.id
    | none => "recorder " ++ action ++ " output"

def recorderStartCommand (self : RecorderPanel) (lowercase : String → String) : Option String :=
  if self.running then some "recorder stop"
  else
    match self.captureMode with
    | .screen => some (self.rememberedScreenCommand lowercase "start" self.selected)
    | .xwaylandDirect => do
        let window ← self.selectedRecorderXwaylandWindow
        let x11 ← window.x11Window
        some ("recorder xwayland-start " ++ toString x11)
    | .openGlInject => do
        let target ← self.selectedRecorderAttachTarget
        some ("recorder game-attach " ++ toString target.pid)
    | .openGlGame | .vulkanGame => do
        let profile ← self.selectedRecorderGameProfile
        some ("recorder game-start " ++ profile.name)

/-- The start button, which closes the panel. -/
def startStop (self : RecorderPanel) (lowercase : String → String) : RecorderPanel × List RecorderPanelOutput :=
  if self.running then ({ self with exit := true }, [.run "recorder stop"])
  else if self.recorderCanStart then
    match self.recorderStartCommand lowercase with
    | some command => ({ self with exit := true }, [.run command])
    | none => (self, [])
  else (self, [])

/-! ## The edit -/

/-- The setting that holds the remembered target of a capture method. -/
def rememberedKey : String → Option String
  | "screen" | "xwayland" => some "window_match"
  | "inject" => some "inject_process"
  | "opengl" | "vulkan" => some "game_profile"
  | _ => none

def beginEdit (self : RecorderPanel) (kind : RecorderRowKind) (buffer : String) : RecorderPanel :=
  { self with pathEdit := some { buffer, kind, method := self.settings.captureMode } }

def commitRecorderTextEdit (self : RecorderPanel) : RecorderPanel × List RecorderPanelOutput :=
  match self.pathEdit with
  | none => (self, [])
  | some edit =>
      let buffer := Text.trim edit.buffer
      let closed := { self with pathEdit := none }
      if closed.recorderEditableRowKind = some .identity then
        if buffer = "" then (closed.fail "Remembered target cannot be empty", [.commit edit []])
        else
          match rememberedKey closed.settings.captureMode with
          | some key => ({ closed with feedback := none }, [.commit edit [(key, buffer)]])
          | none => (closed, [.commit edit []])
      else if buffer = "" then (closed.fail "Recording path cannot be empty", [.commit edit []])
      else ({ closed with feedback := none }, [.commit edit [("output_directory", buffer)]])

/-- The enter key on a row, or a click on it. -/
def activateRow (self : RecorderPanel) (kind : Option RecorderRowKind) (direction : Int) :
    RecorderPanel × List RecorderPanelOutput :=
  match kind with
  | some .path => (self.beginEdit .path self.settings.outputDirectory, [])
  | some .identity => (self.beginEdit .identity self.recorderIdentityEditSeed, [])
  | some .action => self.rememberCurrentRecorderSource
  | _ => self.applyRecorderAdjustment direction

/-! ## Inputs -/

def activateRecorderHit (self : RecorderPanel) (lowercase : String → String) :
    RecorderHit → RecorderPanel × List RecorderPanelOutput
  | .startStop => self.startStop lowercase
  | .pause => (self, if self.running then [.run "recorder pause"] else [])
  | .replaySave => (self, if self.running then [.run "recorder replay-save"] else [])
  | .settings => ({ self with view := .settings }, [])
  | .closeSettings => ({ self with view := .controls }, [])
  | .resetSettings => ({ self with feedback := none }, [.run "recorder settings-reset"])
  | .tab index =>
      match RecorderSettingsTab.all[index]? with
      | none => (self, [])
      | some tab => ({ { self with settingsTab := tab }.clampRow with pathEdit := none }, [])
  | .row index part =>
      if self.rowKinds.length ≤ index then ({ self with settingsRow := self.rowKinds.length - 1 }, [])
      else
        let moved := { self with settingsRow := index }
        match self.rowKinds[index]? with
        | some .info | none => (moved, [])
        | some .toggle => moved.applyRecorderAdjustment 1
        | some kind => moved.activateRow (some kind) (if part = .dec then -1 else 1)

/-- The keys of the settings view. -/
def settingsKey (self : RecorderPanel) : RecorderKey → RecorderPanel × List RecorderPanelOutput
  | .escape =>
      if self.pathEdit.isSome then ({ self with pathEdit := none }, []) else ({ self with view := .controls }, [])
  | .tab => ({ { self with settingsTab := self.settingsTab.cycle true }.clampRow with pathEdit := none }, [])
  | .up => ({ self with settingsRow := self.settingsRow - 1, pathEdit := none }, [])
  | .down => ({ { self with settingsRow := self.settingsRow + 1 }.clampRow with pathEdit := none }, [])
  | .left => self.applyRecorderAdjustment (-1)
  | .right => self.applyRecorderAdjustment 1
  | .ret =>
      if self.pathEdit.isSome then self.commitRecorderTextEdit else self.activateRow self.recorderEditableRowKind 1
  | .backSpace =>
      ({ self with pathEdit := self.pathEdit.map fun edit =>
        { edit with buffer := String.ofList edit.buffer.toList.dropLast } }, [])
  | .space => (self, [])
  | .other utf8 =>
      match utf8 with
      | none => (self, [])
      | some text =>
          ({ self with pathEdit := self.pathEdit.map fun edit => { edit with buffer := edit.buffer ++ text } }, [])

/-- The keys of the controls view. -/
def controlsKey (self : RecorderPanel) (lowercase : String → String) :
    RecorderKey → RecorderPanel × List RecorderPanelOutput
  | .escape => ({ self with exit := true }, [])
  | .tab => ({ self with view := .settings }.clampRow, [])
  | .up => (self.moveRecorderSelection false, [])
  | .down => (self.moveRecorderSelection true, [])
  | .left => (self.cycleRecorderCaptureMode false, [])
  | .right => (self.cycleRecorderCaptureMode true, [])
  | .ret => self.startStop lowercase
  | .backSpace => (self, [])
  | .space => (self, [.run "recorder pause"])
  | .other _ => (self, [])

def takeSnapshot (self : RecorderPanel) (lowercase : String → String) (settings : Recorder)
    (windows : List WindowInfo) (state : RecorderState) : RecorderPanel :=
  let taken := { self with settings, windows, recorderState := state, selected := min self.selected windows.length }
  if taken.selectionRestored then taken.clampRow
  else { taken.clampRow.restoreRecorderSelection lowercase with selectionRestored := true }

def step (lowercase : String → String) (self : RecorderPanel) :
    RecorderPanelInput → RecorderPanel × List RecorderPanelOutput
  | .key key => if self.view = .settings then self.settingsKey key else self.controlsKey lowercase key
  | .click none => (self, [])
  | .click (some hit) => self.activateRecorderHit lowercase hit
  | .snapshot settings windows state => (self.takeSnapshot lowercase settings windows state, [])
  | .answer none => ({ self with feedback := some ("Saved", false) }, [])
  | .answer (some error) => (self.fail error, [])
  | .processes targets => ({ self with processes := targets }, [])

end RecorderPanel

end Luma.Shell
