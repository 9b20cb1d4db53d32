import Luma.Compositor.State

/-! The recorder commands of `desktop_command` and the routing they write.

Every command that starts something first checks its arguments, then writes the
routing, then asks the controller. `admit` is the first part: it names what the
command is about to attempt. `attempt` is the rest.
-/

set_option autoImplicit false

namespace Luma.Compositor

open Luma.Library Luma.Library.Fallible Luma.Core

/-! ## Routing -/

def clampBoost (fps : Nat) : Nat := max 30 (min fps 480)

/-- The old timer is gone whether or not the new one can be inserted. -/
def startCaptureBoost (routing : Routing) (timer : Except String Nat) (fps : Nat) : Except String Unit × Routing :=
  let routing := { routing with boostTimer := none }
  match timer with
  | .error error => (.error error, routing)
  | .ok token => (.ok (), { routing with
      boostFps := some (clampBoost fps)
      recorderSessionPending := true
      boostTimer := some token })

def stopCaptureBoost (_ : Routing) : Routing :=
  { boostTimer := none, boostFps := none, recorderSessionPending := false, override := .output, commitDriven := false }

/-! ## Arguments -/

namespace AnvilState

def parseAll (parse : String → Option Int) : List String → Option (List Int)
  | [] => some []
  | word :: rest => do return (← parse word) :: (← parseAll parse rest)

def parseI32 : String → Option Int := Text.parseSigned (-2147483648) 2147483647

def recorderSource (self : AnvilState) (value : String) : Except String RecorderCaptureSource :=
  match Text.words value with
  | [] | "output" :: _ => .ok .output
  | "window" :: parts =>
    match parts with
    | [] => .error "window source requires an id"
    | word :: rest =>
      match Text.parseUnsigned (2 ^ 64 - 1) word with
      | none => .error "window id must be a number"
      | some id =>
        if !rest.isEmpty || !self.desktop.windows.any (·.id == id) then .error "recorder window does not exist"
        else .ok (.window id)
  | "region" :: parts =>
    match parseAll parseI32 parts with
    | none => .error "region values must be integers"
    | some [x, y, w, h] =>
      if w ≤ 0 ∨ h ≤ 0 then .error "region source requires x y width height with a positive size"
      else .ok (.region ⟨x, y, w, h⟩)
    | some _ => .error "region source requires x y width height with a positive size"
  | _ => .error "recorder source must be output, window ID, or region X Y W H"

def rememberedMatch (self : AnvilState) (lowercase : String → String) (wantedApp wantedTitle : String)
    (window : Managed) : Bool :=
  let appId := lowercase (self.identity window.window).1
  let title := lowercase (self.identity window.window).2
  (wantedApp != "" && ((appId != "" && Text.contains appId wantedApp) ||
    (appId == "" && Text.contains title wantedApp))) ||
  (wantedTitle != "" && Text.contains title wantedTitle)

def rememberedRecorderSource (self : AnvilState) (lowercase : String → String) (config : Recorder) :
    Except String RecorderCaptureSource :=
  if config.windowAppId = "" ∧ config.windowTitle = "" then .ok .output
  else
    match self.desktop.windows.find? (self.rememberedMatch lowercase (lowercase config.windowAppId)
      (lowercase config.windowTitle)) with
    | some window => .ok (.window window.id)
    | none =>
      let wanted := if config.windowAppId = "" then config.windowTitle else config.windowAppId
      .error s!"remembered window '{wanted}' is not open"

def overlapArea (region geometry : Rect) : Int :=
  let left := max region.x geometry.x
  let top := max region.y geometry.y
  let right := min (region.x + region.w) (geometry.x + geometry.w)
  let bottom := min (region.y + region.h) (geometry.y + geometry.h)
  max (right - left) 0 * max (bottom - top) 0

/-- `max_by_key` keeps the last of several maxima. -/
def largestOverlap (region : Rect) : List Output → Option (Int × String) → Option (Int × String)
  | [], best => best
  | output :: rest, best =>
    let area := match output.geometry with
      | some geometry => overlapArea region geometry
      | none => 0
    if area > 0 ∧ best.all (fun found => found.1 ≤ area) then largestOverlap region rest (some (area, output.name))
    else largestOverlap region rest best

def recorderOutput (self : AnvilState) : RecorderCaptureSource → Except String String
  | .output =>
    match self.activeOutput with
    | some name => .ok name
    | none => .error "recorder has no active output"
  | .window id =>
    match self.desktop.windows.find? (·.id == id) with
    | some window => .ok window.output
    | none => .error "recorder window does not exist"
  | .region region =>
    match largestOverlap region self.space.outputs none with
    | some (_, name) => .ok name
    | none => .error "recorder region does not intersect an output"

end AnvilState

/-! ## What a command attempts -/

inductive RecorderAction where
  | start | gameStart | gameAttach | xwaylandStart | replayStart | stop | toggle | pause | replaySave
  | set | settingsReset | status
  deriving DecidableEq, Repr

def RecorderAction.parse : String → Option RecorderAction
  | "start" => some .start
  | "game-start" => some .gameStart
  | "game-attach" => some .gameAttach
  | "xwayland-start" => some .xwaylandStart
  | "replay-start" => some .replayStart
  | "stop" => some .stop
  | "toggle" => some .toggle
  | "pause" => some .pause
  | "replay-save" => some .replaySave
  | "set" => some .set
  | "settings-reset" => some .settingsReset
  | "status" => some .status
  | _ => none

/-- A command past its own checks, about to write the routing. -/
inductive Attempt where
  | native (source : RecorderCaptureSource) (captureOutput : String) (replay : Bool)
  | game (profile : GameCaptureProfile)
  | attach (pid : Nat)
  | xwayland (managed : Nat) (captureOutput : String) (window : Nat)
  | toggleStop
  | toggleStart (captureOutput : String)
  deriving DecidableEq, Repr

def parsePositive (text message : String) : Except String Nat :=
  match Text.parseUnsigned (2 ^ 32 - 1) (Text.trim text) with
  | none => .error message
  | some value => if value = 0 then .error message else .ok value

/-- The window that owns an X11 window id. -/
def AnvilState.x11Managed (self : AnvilState) (window : Nat) : Option Managed :=
  self.desktop.windows.find? fun managed => (self.findToplevel managed.window).any
    fun element => element.x11.any (·.window == window)

/-- The checks of the six starting commands, none of which has an effect. -/
def AnvilState.admit (self : AnvilState) (lowercase : String → String) (argument : String) :
    RecorderAction → Except String Attempt
  | .start => do
    let source ← if Text.trim argument = "remembered" then
        self.rememberedRecorderSource lowercase self.desktop.config.recorder
      else self.recorderSource argument
    let captureOutput ← self.recorderOutput source
    return .native source captureOutput false
  | .replayStart => do
    let source ← self.recorderSource argument
    let captureOutput ← self.recorderOutput source
    return .native source captureOutput true
  | .gameStart => do
    let profileName := Text.trim argument
    refuse (profileName = "") "game-start requires a configured game profile name"
    match self.desktop.config.recorder.gameProfiles.find? (·.name == profileName) with
    | none => .error s!"recorder game profile '{profileName}' does not exist"
    | some profile =>
      refuse (profile.api ∉ ["opengl", "vulkan"])
        s!"game capture profile '{profileName}' has unsupported API {profile.api}"
      return .game profile
  | .gameAttach => do
    let pid ← parsePositive argument "game-attach requires one positive graphics-process PID"
    return .attach pid
  | .xwaylandStart => do
    let window ← parsePositive argument "xwayland-start requires one positive X11 window ID"
    match self.x11Managed window with
    | none => .error s!"X11 window {RecorderController.hex window} is not managed by this Luma session"
    | some managed => return .xwayland managed.id managed.output window
  | .toggle =>
    if self.recording.recorder.isRunning then .ok .toggleStop
    else do
      let captureOutput ← self.recorderOutput .output
      return .toggleStart captureOutput
  | _ => .error "not a starting command"

/-! ## Carrying it out -/

structure RecorderOutcome where
  reply : Except String Unit
  recording : Recording
  observations : List Observation := []

def sourceText : RecorderCaptureSource → String
  | .output => "output"
  | .window id => s!"window {id}"
  | .region region => s!"region {region.x},{region.y} {region.w}x{region.h}"

namespace Recording

def withSource (controller : RecorderController) (source : String) : RecorderController :=
  { controller with status := { controller.status with source := some source } }

/-- The shape of the commands that start a native engine: they differ in the
routing they write, in what a failed boost restores, in how the engine is
started and in the source they publish afterwards. -/
def startNative (self : Recording) (host : Host) (process : Nat) (source : RecorderCaptureSource)
    (commitDriven : Bool) (fps : Nat) (restore : Routing → Routing)
    (launch : Except String (Nat × RecorderController × Launch)) (published : Option String) : RecorderOutcome :=
  let routing := { self.routing with override := source, commitDriven }
  match startCaptureBoost routing host.timer fps with
  | (.error error, routing) => { reply := .error error, recording := { self with routing := restore routing } }
  | (.ok (), routing) =>
    match launch with
    | .error error =>
      { reply := .error error, recording := { self with routing := stopCaptureBoost routing } }
    | .ok (_, recorder, _) =>
      { reply := .ok ()
        recording := { recorder := published.elim recorder (withSource recorder), routing,
                       unconnected := process :: self.unconnected }
        observations := [.recordingStarted process source] }

/-- The shape of the commands that hand capture to a game wrapper. -/
def startWrapper (self : Recording) (launch : Except String (Nat × RecorderController × Launch)) :
    RecorderOutcome :=
  let routing := { self.routing with override := .output }
  match launch with
  | .error error => { reply := .error error, recording := { self with routing } }
  | .ok (_, recorder, _) => { reply := .ok (), recording := { self with recorder, routing } }

def attempt (self : Recording) (host : Host) (process : Nat) (config : Recorder) : Attempt → RecorderOutcome
  | .native source captureOutput replay =>
    self.startNative host process source false config.screenFps (fun routing => { routing with override := .output })
      (self.recorder.start host.spawn process config replay captureOutput false) (some (sourceText source))
  | .game profile => self.startWrapper (self.recorder.startGame host.spawn process config profile)
  | .attach pid => self.startWrapper (self.recorder.startGameAttach host.spawn process config pid)
  | .xwayland managed captureOutput window =>
    self.startNative host process (.window managed) true config.fps
      (fun routing => { routing with override := .output, commitDriven := false })
      (self.recorder.startGameXwayland host.spawn process config captureOutput window) none
  | .toggleStop =>
    let (reply, recorder) := self.recorder.stop host.stop
    { reply, recording := { self with recorder, routing := stopCaptureBoost self.routing } }
  | .toggleStart captureOutput =>
    self.startNative host process .output false config.screenFps id
      (self.recorder.start host.spawn process config false captureOutput false) none

def stop (self : Recording) (host : Host) : RecorderOutcome :=
  let (reply, recorder) := self.recorder.stop host.stop
  let routing := if self.recorder.isGameCapture then self.routing else stopCaptureBoost self.routing
  { reply, recording := { self with recorder, routing } }

def pause (self : Recording) (host : Host) : RecorderOutcome :=
  let (reply, recorder) := self.recorder.togglePause host.stop
  { reply, recording := { self with recorder } }

end Recording

/-! ## The command -/

def recorderUsage : String :=
  "recorder requires start [source], game-start PROFILE, game-attach PID, xwayland-start WINDOW, " ++
    "replay-start [source], stop, toggle, pause, replay-save, set KEY VALUE, settings-reset, or status"

/-- What a command replies, the state it leaves and what it made visible. -/
structure Outcome where
  reply : Except String Unit
  state : AnvilState
  observations : List Observation := []

namespace AnvilState

/-- Commands end by marking the desktop dirty unless they failed. -/
def settleRecording (self : AnvilState) (outcome : RecorderOutcome) : Outcome :=
  let state := { self with recording := outcome.recording }
  match outcome.reply with
  | .error error => ⟨.error error, state, outcome.observations⟩
  | .ok () => ⟨.ok (), { state with desktop := { state.desktop with dirty := true } }, outcome.observations⟩

def setRecorder (self : AnvilState) (recorder : Recorder) : AnvilState :=
  { self with desktop := { self.desktop with config := { self.desktop.config with recorder } } }

def markDirty (self : AnvilState) : AnvilState := { self with desktop := { self.desktop with dirty := true } }

def recorderSet (self : AnvilState) (host : Host) (argument : String) : Outcome :=
  match Text.splitOnce (Text.trim argument) ' ' with
  | none => ⟨.error "recorder set requires a KEY and VALUE", self, []⟩
  | some (key, value) =>
    if key = "" ∨ Text.trim value = "" then ⟨.error "recorder set requires a KEY and VALUE", self, []⟩
    else
      match self.desktop.config.recorder.apply (Text.trim key) value with
      | .error error => ⟨.error error, self, []⟩
      | .ok recorder =>
        match host.writeSettings with
        | .error error => ⟨.error error, self.setRecorder recorder, []⟩
        | .ok () => ⟨.ok (), (self.setRecorder recorder).markDirty, []⟩

def recorderReset (self : AnvilState) (host : Host) : Outcome :=
  match host.clearSettings with
  | .error error => ⟨.error error, self, []⟩
  | .ok () =>
    match Config.load host.config with
    | .error error => ⟨.error error, self, []⟩
    | .ok base => ⟨.ok (), (self.setRecorder base.recorder).markDirty, []⟩

/-- A starting command: its checks, and if they pass the attempt. -/
def beginRecording (self : AnvilState) (host : Host) (argument : String) (action : RecorderAction) : Outcome :=
  match self.admit host.lowercase argument action with
  | .error error => ⟨.error error, self, []⟩
  | .ok attempt =>
    self.settleRecording (self.recording.attempt host self.nextProcess self.desktop.config.recorder attempt)

def recorderAction (self : AnvilState) (host : Host) (argument : String) : RecorderAction → Outcome
  | .stop => self.settleRecording (self.recording.stop host)
  | .pause => self.settleRecording (self.recording.pause host)
  | .replaySave => self.settleRecording
      { reply := self.recording.recorder.saveReplay host.stop, recording := self.recording }
  | .set => self.recorderSet host argument
  | .settingsReset => self.recorderReset host
  | .status => ⟨.ok (), self, []⟩
  | action => self.beginRecording host argument action

/-- `splitn(2, ' ')` on the argument of `recorder`. -/
def splitAction (argument : String) : String × String :=
  (Text.splitOnce argument ' ').getD (argument, "")

def recorderCommand (self : AnvilState) (host : Host) (argument : String) : Outcome :=
  if argument = "" then ⟨host.spawnApp, self, []⟩
  else
    match RecorderAction.parse (splitAction argument).1 with
    | none => ⟨.error recorderUsage, self, []⟩
    | some action => self.recorderAction host (splitAction argument).2 action

end AnvilState

end Luma.Compositor
