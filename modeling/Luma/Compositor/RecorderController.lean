import Luma.Core.Settings
import Luma.Library.Fallible

/-! Supervision of the recorder's processes.

Every answer of the operating system is an input: what a start finds on the
way, whether a write to the control pipe succeeds, what waiting for a process
reports. A failed start leaves the controller as it was.
-/

set_option autoImplicit false

namespace Luma.Compositor

open Luma.Library Luma.Library.Fallible Luma.Core

/-- What the operating system answers to one start. Errors are their texts. -/
structure SpawnHost where
  home : Option String := none
  createDirectory : Except String Unit := .ok ()
  canonicalize : Except String String := .ok "/"
  runtimeDirectory : Option String := none
  createLog : Except String Unit := .ok ()
  epoch : Except String Nat := .ok 0
  /-- `luma-recorder-engine` beside the running executable. -/
  engine : Except String String := .error "no such file"
  engineIsFile : Bool := false
  /-- What `game_capture_launcher` or `game_capture_attacher` finds. -/
  launcher : Except String String := .error "no such file"
  /-- What `validate_attach_target` finds. -/
  attachTarget : Except String Unit := .ok ()
  spawn : Except String Unit := .ok ()
  stderrPipe : Bool := true
  stdinPipe : Bool := true
  /-- Milliseconds of the monotonic clock. -/
  now : Nat := 0

structure StopHost where
  write : Except String Unit := .ok ()
  /-- What `terminate_game_launcher` returns. -/
  terminate : Except String Unit := .ok ()

structure ExitStatus where
  success : Bool
  text : String

structure PollHost where
  rssMib : Option Nat := none
  tryWait : Except String (Option ExitStatus) := .ok none
  logTail : Option String := none
  now : Nat := 0

/-- A program and its arguments, as handed to `Command`. -/
structure Launch where
  program : String
  arguments : List String
  deriving DecidableEq, Repr

/-- Processes are named by numbers that are never used twice. -/
structure RecorderController where
  child : Option Nat := none
  stdin : Bool := false
  gameLauncher : Option Nat := none
  logPath : Option String := none
  started : Option Nat := none
  sampleStarted : Option Nat := none
  sampleFrames : Nat := 0
  replayMaxMib : Option Nat := none
  status : RecorderStatus := {}
  deriving DecidableEq, Repr

def stripHomes : List Char → List Char
  | '~' :: '/' :: rest => stripHomes rest
  | text => text

/-- `PathBuf::join`. -/
def joinPath (base relative : String) : String :=
  if relative.toList.head? = some '/' then relative
  else if base.toList.getLast?.all (· = '/') then base ++ relative
  else base ++ "/" ++ relative

def expandHome (home : Option String) (value : String) : Except String String :=
  if value = "~" ∨ Text.startsWith value.toList ['~', '/'] then
    match home with
    | none => .error "HOME is missing"
    | some home => .ok (joinPath home (String.ofList (stripHomes value.toList)))
  else .ok value

namespace RecorderController

def isRunning (self : RecorderController) : Bool := self.child.isSome || self.gameLauncher.isSome

def isGameCapture (self : RecorderController) : Bool := self.gameLauncher.isSome

def reset (_ : RecorderController) : RecorderController := {}

/-- The steps every start takes before it looks for its program. -/
def recorderDirectory (host : SpawnHost) (config : Recorder) : Except String String := do
  let outputDirectory ← expandHome host.home config.outputDirectory
  host.createDirectory.mapError fun error =>
    s!"failed to create recorder directory {outputDirectory}: {error}"
  return outputDirectory

def gameDirectory (host : SpawnHost) (config : Recorder) : Except String String := do
  let outputDirectory ← recorderDirectory host config
  host.canonicalize.mapError fun error =>
    s!"failed to resolve game capture directory {outputDirectory}: {error}"

def openLog (host : SpawnHost) (name description : String) : Except String String := do
  match host.runtimeDirectory with
  | none => throw "XDG_RUNTIME_DIR is missing"
  | some runtime =>
    host.createLog.mapError fun error => s!"failed to create {description} log: {error}"
    return joinPath runtime name

def start (self : RecorderController) (host : SpawnHost) (process : Nat) (config : Recorder) (replay : Bool)
    (captureOutput : String) (commitPaced : Bool) : Except String (Nat × RecorderController × Launch) := do
  refuse self.isRunning "recorder is already running"
  refuse replay "instant replay is not implemented by the native recorder yet"
  refuse (!config.enabled) "recorder is disabled in configuration"
  let outputDirectory ← recorderDirectory host config
  let logPath ← openLog host "luma-recorder.log" "recorder"
  let epoch ← host.epoch
  let outputPath := joinPath outputDirectory s!"luma-{epoch}.mp4"
  let engine ← host.engine
  refuse (!host.engineIsFile) s!"native recorder engine is missing: {engine}"
  let arguments := ["--output", outputPath, "--fps", toString config.screenFps, "--codec", config.codec,
    "--hdr", if config.hdr then "true" else "false", "--quality", toString config.quality,
    "--width", toString config.outputWidth, "--height", toString config.outputHeight,
    "--output-name", captureOutput, "--pacing", if commitPaced then "commit" else "clock",
    "--desktop-audio", config.desktopAudio, "--microphone", config.microphone] ++
    if replay then ["--replay-seconds", toString config.replaySeconds] else []
  host.spawn.mapError fun error => s!"failed to start native recorder: {error}"
  refuse (!host.stderrPipe) "native recorder log pipe is missing"
  refuse (!host.stdinPipe) "native recorder control pipe is missing"
  return (config.screenFps, { self with
    status := {
      state := if replay then .replay else .starting
      source := some "native-dmabuf"
      requestedFps := config.screenFps
      outputPath := if replay then none else some outputPath }
    started := some host.now
    sampleStarted := some host.now
    sampleFrames := 0
    replayMaxMib := if replay then some config.replayMaxMib else none
    stdin := true
    logPath := some logPath
    child := some process }, ⟨engine, arguments⟩)

def startGame (self : RecorderController) (host : SpawnHost) (process : Nat) (config : Recorder)
    (profile : GameCaptureProfile) : Except String (Nat × RecorderController × Launch) := do
  refuse self.isRunning "recorder is already running"
  refuse (!config.enabled) "recorder is disabled in configuration"
  refuse (profile.api ∉ ["opengl", "vulkan"])
    s!"game capture profile '{profile.name}' uses unsupported API {profile.api}"
  let outputDirectory ← gameDirectory host config
  let logPath ← openLog host "luma-game-capture.log" "game capture"
  let epoch ← host.epoch
  let outputPath := joinPath outputDirectory s!"luma-game-{epoch}.mp4"
  let launcher ← host.launcher
  refuse (profile.targetProcessName ≠ "" ∧ profile.api ≠ "opengl")
    "only OpenGL game profiles may target a launcher child process"
  let target := if profile.targetProcessName ≠ "" then
    ["--target-process-name", profile.targetProcessName] else []
  let arguments := ["--output", outputPath, "--fps", toString profile.fps, "--quality", toString config.quality] ++
    target ++ ["--"] ++ profile.command
  host.spawn.mapError fun error => s!"failed to launch {profile.api} capture wrapper {launcher}: {error}"
  refuse (!host.stderrPipe) "game capture log pipe is missing"
  return (profile.fps, { self with
    status := {
      state := .starting
      source := some s!"game-{profile.api}:{profile.name}"
      requestedFps := profile.fps
      outputPath := some outputPath }
    started := some host.now
    sampleStarted := none
    sampleFrames := 0
    replayMaxMib := none
    logPath := some logPath
    gameLauncher := some process }, ⟨launcher, arguments⟩)

def startGameAttach (self : RecorderController) (host : SpawnHost) (process : Nat) (config : Recorder)
    (pid : Nat) : Except String (Nat × RecorderController × Launch) := do
  refuse self.isRunning "recorder is already running"
  refuse (!config.enabled) "recorder is disabled in configuration"
  host.attachTarget
  let outputDirectory ← gameDirectory host config
  let logPath ← openLog host "luma-game-capture.log" "game capture"
  let epoch ← host.epoch
  let outputPath := joinPath outputDirectory s!"luma-game-{epoch}.mp4"
  let attacher ← host.launcher
  let arguments := ["--pid", toString pid, "--output", outputPath, "--fps", toString config.fps,
    "--quality", toString config.quality]
  host.spawn.mapError fun error => s!"failed to start OpenGL attach helper {attacher}: {error}"
  refuse (!host.stderrPipe) "game attach log pipe is missing"
  return (config.fps, { self with
    status := {
      state := .starting
      source := some s!"game-opengl-inject:{pid}"
      requestedFps := config.fps
      outputPath := some outputPath }
    started := some host.now
    sampleStarted := none
    sampleFrames := 0
    replayMaxMib := none
    logPath := some logPath
    gameLauncher := some process }, ⟨attacher, arguments⟩)

def hex (value : Nat) : String := "0x" ++ String.ofList (Nat.toDigits 16 value)

def startGameXwayland (self : RecorderController) (host : SpawnHost) (process : Nat) (config : Recorder)
    (captureOutput : String) (window : Nat) : Except String (Nat × RecorderController × Launch) := do
  refuse (window = 0) "Xwayland capture requires a nonzero X11 window ID"
  let nativeConfig := { config with screenFps := config.fps }
  let (fps, self, launch) ← self.start host process nativeConfig false captureOutput true
  return (fps, { self with
    status := { self.status with source := some s!"game-xwayland-commit:{hex window}" } }, launch)

/-- The child is taken out before the write that may fail. -/
def stop (self : RecorderController) (host : StopHost) : Except String Unit × RecorderController :=
  match self.child, self.gameLauncher with
  | some _, _ =>
    if !self.stdin then (.error "recorder control pipe is missing", { self with child := none })
    else
      let self := { self with child := none, stdin := false }
      match host.write with
      | .error error => (.error s!"failed to stop recorder: {error}", self)
      | .ok () => (.ok (), self.reset)
  | none, some _ =>
    let self := { self with gameLauncher := none }
    match host.terminate with
    | .error error => (.error error, self)
    | .ok () => (.ok (), self.reset)
  | none, none => (.error "recorder is not running", self)

/-- Write one action to the control pipe. -/
def send (self : RecorderController) (host : StopHost) : Except String Unit :=
  if !self.stdin then .error "recorder is not running"
  else host.write.mapError fun error => s!"recorder control failed: {error}"

def togglePause (self : RecorderController) (host : StopHost) : Except String Unit × RecorderController :=
  if self.status.state = .replay then (.error "replay buffering cannot be paused", self)
  else
    match self.send host with
    | .error error => (.error error, self)
    | .ok () =>
      let state := if self.status.state = .paused then .recording else .paused
      (.ok (), { self with status := { self.status with state } })

/-- A stop gives its engine away. -/
theorem stop_child (self : RecorderController) (host : StopHost) : (self.stop host).2.child = none := by
  unfold stop
  split
  · split
    · rfl
    · split
      · rfl
      · rfl
  · rename_i nothing _
    simp only
    split
    · exact nothing
    · rfl
  · assumption

theorem togglePause_child (self : RecorderController) (host : StopHost) :
    (self.togglePause host).2.child = self.child := by
  unfold togglePause
  split
  · rfl
  · split
    · rfl
    · rfl

def saveReplay (self : RecorderController) (host : StopHost) : Except String Unit :=
  if self.status.state ≠ .replay then .error "replay buffer is not running" else self.send host

/-- The last log line after a colon, unless it is missing or empty. -/
def detail (host : PollHost) : String :=
  match host.logTail with
  | some line => if line = "" then "" else ": " ++ line
  | none => ""

/-- A process that is still there after half a second counts as recording. -/
def pollRunning (self : RecorderController) (host : PollHost) : Bool × RecorderController :=
  if self.status.state = .starting ∧ self.started.any (fun started => started + 500 ≤ host.now) then
    (true, { self with status := { self.status with state := .recording } })
  else
    match self.started with
    | some started =>
      (false, { self with status := { self.status with elapsedMs := host.now - started } })
    | none => (false, self)

def pollNative (self : RecorderController) (host : PollHost) : Bool × RecorderController :=
  match host.tryWait with
  | .ok (some exit) => (true, { self with
      child := none
      status := { self.status with
        state := .error
        error := some s!"recorder exited with {exit.text}{detail host}" }
      stdin := false
      logPath := none
      started := none })
  | .ok none => self.pollRunning host
  | .error error => (true, { self with status := { self.status with
      state := .error
      error := some s!"failed to inspect recorder: {error}" } })

def pollGameLauncher (self : RecorderController) (host : PollHost) : Bool × RecorderController :=
  match host.tryWait with
  | .ok (some exit) =>
    let status := if exit.success then { self.status with state := .idle, error := none }
      else { self.status with
        state := .error
        error := some s!"game capture launcher exited with {exit.text}{detail host}" }
    (true, { self with
      gameLauncher := none
      stdin := false
      started := none
      sampleStarted := none
      sampleFrames := 0
      replayMaxMib := none
      status
      logPath := none })
  | .ok none => self.pollRunning host
  | .error error => (true, { self with status := { self.status with
      state := .error
      error := some s!"failed to inspect game capture launcher: {error}" } })

/-- The memory limit of a replay, when a native child has one and exceeds it. -/
def replayLimitExceeded (self : RecorderController) (host : PollHost) : Option Nat :=
  match self.child, self.replayMaxMib, host.rssMib with
  | some _, some limit, some rss => if rss > limit then some limit else none
  | _, _, _ => none

def poll (self : RecorderController) (host : PollHost) : Bool × RecorderController :=
  match self.replayLimitExceeded host with
  | some limit => (true, { self with
      child := none
      status := { self.status with
        state := .error
        error := some s!"replay memory safety limit exceeded ({limit} MiB)" }
      replayMaxMib := none })
  | none =>
    if self.child.isSome then self.pollNative host
    else if self.gameLauncher.isSome then self.pollGameLauncher host
    else (false, self)

/-- The measured rates are left out, the sampling window is not. -/
def noteSourceFrame (self : RecorderController) (now : Nat) : RecorderController :=
  if self.child.isNone then self
  else
    let sampleStarted := self.sampleStarted.getD now
    if now - sampleStarted ≥ 500 then { self with sampleFrames := 0, sampleStarted := some now }
    else { self with sampleFrames := self.sampleFrames + 1, sampleStarted := some sampleStarted }

def abort (self : RecorderController) (reason : String) : RecorderController :=
  { self with
    child := none
    gameLauncher := none
    stdin := false
    logPath := none
    started := none
    sampleStarted := none
    sampleFrames := 0
    replayMaxMib := none
    status := { self.status with state := .error, error := some reason } }

/-! ## What a start that succeeds has done -/

/-- A native engine has taken over a controller that ran nothing. -/
structure NativeStarted (before after : RecorderController) (process : Nat) : Prop where
  idle : before.isRunning = false
  child : after.child = some process
  stdin : after.stdin = true
  gameLauncher : after.gameLauncher = before.gameLauncher
  replayMaxMib : after.replayMaxMib = none
  state : after.status.state = .starting

/-- A game wrapper has taken over a controller that ran nothing. -/
structure GameStarted (before after : RecorderController) (process : Nat) : Prop where
  idle : before.isRunning = false
  child : after.child = before.child
  stdin : after.stdin = before.stdin
  gameLauncher : after.gameLauncher = some process
  replayMaxMib : after.replayMaxMib = none
  state : after.status.state = .starting

variable {self after : RecorderController} {host : SpawnHost} {process fps : Nat} {config : Recorder}
variable {captureOutput : String} {launch : Launch}

theorem start_ok {replay commitPaced : Bool}
    (started : self.start host process config replay captureOutput commitPaced = .ok (fps, after, launch)) :
    NativeStarted self after process ∧ replay = false := by
  simp only [start, bind_ok, refuse_ok, pure_ok] at started
  obtain ⟨_, idle, _, native, _, _, _, _, _, _, _, _, _, _, _, _, _, _, _, _, _, _, same⟩ := started
  cases same
  simp only [Bool.not_eq_true] at native idle
  subst native
  exact ⟨⟨idle, rfl, rfl, rfl, rfl, rfl⟩, rfl⟩

theorem startGame_ok {profile : GameCaptureProfile}
    (started : self.startGame host process config profile = .ok (fps, after, launch)) :
    GameStarted self after process := by
  simp only [startGame, bind_ok, refuse_ok, pure_ok] at started
  obtain ⟨_, idle, _, _, _, _, _, _, _, _, _, _, _, _, _, _, _, _, _, _, same⟩ := started
  cases same
  exact ⟨Bool.not_eq_true _ ▸ idle, rfl, rfl, rfl, rfl, rfl⟩

theorem startGameAttach_ok {pid : Nat}
    (started : self.startGameAttach host process config pid = .ok (fps, after, launch)) :
    GameStarted self after process := by
  simp only [startGameAttach, bind_ok, refuse_ok, pure_ok] at started
  obtain ⟨_, idle, _, _, _, _, _, _, _, _, _, _, _, _, _, _, _, _, same⟩ := started
  cases same
  exact ⟨Bool.not_eq_true _ ▸ idle, rfl, rfl, rfl, rfl, rfl⟩

theorem startGameXwayland_ok {window : Nat}
    (started : self.startGameXwayland host process config captureOutput window = .ok (fps, after, launch)) :
    NativeStarted self after process := by
  simp only [startGameXwayland, bind_ok, refuse_ok, pure_ok] at started
  obtain ⟨_, _, ⟨_, middle, _⟩, inner, same⟩ := started
  cases same
  obtain ⟨idle, child, stdin, gameLauncher, replayMaxMib, state⟩ := (start_ok inner).1
  exact ⟨idle, child, stdin, gameLauncher, replayMaxMib, state⟩

end RecorderController

end Luma.Compositor
