import Mathlib.Algebra.Group.Int.Defs
import Mathlib.Algebra.Group.Nat.Defs
import Mathlib.Tactic.SplitIfs
import Luma.Library.Text

/-! Recorder settings, window rules and layout: the parts of the configuration
that the compositor's policy reads, with the checks made on loading.

Integers are bounded by the checks of the source, not by their type.
-/

set_option autoImplicit false

namespace Luma.Core

open Luma.Library

structure Rect where
  x : Int
  y : Int
  w : Int
  h : Int
  deriving DecidableEq, Repr

structure GameCaptureProfile where
  name : String := ""
  api : String := "opengl"
  command : List String := []
  fps : Nat := 480
  targetProcessName : String := ""
  deriving DecidableEq, Repr

structure Recorder where
  enabled : Bool := true
  hdr : Bool := false
  screenFps : Nat := 240
  fps : Nat := 480
  codec : String := "h264"
  quality : Nat := 20
  outputWidth : Nat := 2560
  outputHeight : Nat := 1440
  outputDirectory : String := "~/Videos/Luma"
  container : String := "mp4"
  cursor : Bool := true
  desktopAudio : String := "default_output"
  microphone : String := "default_input"
  replaySeconds : Nat := 30
  replayMaxMib : Nat := 1024
  captureMode : String := "screen"
  windowAppId : String := ""
  windowTitle : String := ""
  injectProcess : String := ""
  gameProfile : String := ""
  gameProfiles : List GameCaptureProfile := []
  deriving DecidableEq, Repr

inductive RecorderState where
  | idle | starting | recording | paused | replay | error
  deriving DecidableEq, Repr

/-- The published status without its floating-point rates and replay counters. -/
structure RecorderStatus where
  state : RecorderState := .idle
  source : Option String := none
  requestedFps : Nat := 0
  elapsedMs : Nat := 0
  outputPath : Option String := none
  error : Option String := none
  deriving DecidableEq, Repr

namespace Recorder

def captureModes : List String := ["screen", "xwayland", "inject", "opengl", "vulkan"]

def parseBool (value : String) : Except String Bool :=
  if value = "true" then .ok true
  else if value = "false" then .ok false
  else .error s!"recorder boolean must be true or false, got '{value}'"

/-- The number parser that `assign` builds for its value. -/
def parseIn (value name : String) (low high : Nat) : Except String Nat :=
  match Text.parseUnsigned (2 ^ 64 - 1) value with
  | none => .error s!"recorder {name} must be a number"
  | some parsed =>
      if low ≤ parsed ∧ parsed ≤ high then .ok parsed
      else .error s!"recorder {name} must be {low}..={high}"

/-- The settings with one key assigned, and the value as stored. -/
def assign (self : Recorder) (key value : String) : Except String (Recorder × String) :=
  let parse := parseIn value
  let stored := Text.trim value
  match key with
  | "enabled" => do return ({ self with enabled := ← parseBool value }, stored)
  | "hdr" => do return ({ self with hdr := ← parseBool value }, stored)
  | "cursor" => do return ({ self with cursor := ← parseBool value }, stored)
  | "screen_fps" => do return ({ self with screenFps := ← parse "screen_fps" 30 480 }, stored)
  | "fps" => do return ({ self with fps := ← parse "fps" 30 480 }, stored)
  | "codec" =>
      if value ∈ ["hevc", "h264"] then .ok ({ self with codec := value }, stored)
      else .error "recorder codec must be h264 or hevc"
  | "quality" => do return ({ self with quality := ← parse "quality" 1 51 }, stored)
  | "output_width" => do return ({ self with outputWidth := ← parse "output_width" 2 16384 }, stored)
  | "output_height" => do return ({ self with outputHeight := ← parse "output_height" 2 16384 }, stored)
  | "output_directory" =>
      if stored = "" then .error "recorder output_directory must not be empty"
      else .ok ({ self with outputDirectory := stored }, stored)
  | "container" =>
      if value ≠ "mp4" then .error "recorder container must be mp4"
      else .ok ({ self with container := value }, stored)
  | "desktop_audio" =>
      if stored = "disabled" ∨ stored = "" then .ok ({ self with desktopAudio := "disabled" }, "disabled")
      else .ok ({ self with desktopAudio := stored }, stored)
  | "microphone" =>
      if stored = "disabled" ∨ stored = "" then .ok ({ self with microphone := "disabled" }, "disabled")
      else .ok ({ self with microphone := stored }, stored)
  | "replay_seconds" => do return ({ self with replaySeconds := ← parse "replay_seconds" 2 3600 }, stored)
  | "replay_max_mib" => do return ({ self with replayMaxMib := ← parse "replay_max_mib" 64 8192 }, stored)
  | "capture_mode" =>
      if value ∈ captureModes then .ok ({ self with captureMode := value }, stored)
      else .error "recorder capture_mode must be screen, xwayland, inject, opengl, or vulkan"
  | "window_match" | "window_app_id" =>
      if stored = "none" ∨ stored = "" then
        .ok ({ self with windowAppId := "", windowTitle := "" }, "none")
      else .ok ({ self with windowAppId := stored }, stored)
  | "window_title" =>
      if stored = "none" ∨ stored = "" then .ok ({ self with windowTitle := "" }, "none")
      else .ok ({ self with windowTitle := stored }, stored)
  | "inject_process" =>
      if stored = "none" ∨ stored = "" then .ok ({ self with injectProcess := "" }, "none")
      else if stored.utf8ByteSize > 128 then .error "recorder inject_process must be at most 128 characters"
      else .ok ({ self with injectProcess := stored }, stored)
  | "game_profile" =>
      if stored = "none" ∨ stored = "" then .ok ({ self with gameProfile := "" }, "none")
      else if self.gameProfiles.any (·.name == stored) then .ok ({ self with gameProfile := stored }, stored)
      else .error s!"recorder game profile '{stored}' does not exist"
  | _ => .error s!"unknown recorder setting '{key}'"

def targetNameValid (profile : GameCaptureProfile) : Bool :=
  profile.targetProcessName == "" ||
    (profile.api == "opengl" && profile.targetProcessName.utf8ByteSize ≤ 15 &&
      profile.targetProcessName.toList.all fun character =>
        character.isAlphanum || character == '_' || character == '-' || character == '.')

/-- The loop over the profiles, which remembers the names it has met. -/
def profilesValid : List String → List GameCaptureProfile → Bool
  | _, [] => true
  | names, profile :: rest =>
      Text.trim profile.name != "" && !names.contains profile.name &&
        ["opengl", "vulkan"].contains profile.api && !profile.command.isEmpty &&
        profile.command.all (· != "") && 30 ≤ profile.fps && profile.fps ≤ 480 &&
        targetNameValid profile && profilesValid (profile.name :: names) rest

def limitsValid (self : Recorder) : Bool :=
  30 ≤ self.fps && self.fps ≤ 480 && 30 ≤ self.screenFps && self.screenFps ≤ 480 &&
    ["hevc", "h264"].contains self.codec && 1 ≤ self.quality && self.quality ≤ 51 &&
    self.outputWidth != 0 && self.outputHeight != 0 &&
    self.outputWidth ≤ 16384 && self.outputHeight ≤ 16384 &&
    self.outputWidth % 2 == 0 && self.outputHeight % 2 == 0 &&
    self.outputDirectory != "" && self.container == "mp4" && (!self.hdr || self.codec == "hevc") &&
    captureModes.contains self.captureMode &&
    self.windowAppId.utf8ByteSize ≤ 256 && self.windowTitle.utf8ByteSize ≤ 256 &&
    self.injectProcess.utf8ByteSize ≤ 128 &&
    (self.gameProfile == "" || self.gameProfiles.any (·.name == self.gameProfile)) &&
    2 ≤ self.replaySeconds && self.replaySeconds ≤ 3600 &&
    64 ≤ self.replayMaxMib && self.replayMaxMib ≤ 8192

def validateRecorder (self : Recorder) : Except String Unit :=
  if !self.limitsValid then
    .error "invalid fps, codec, quality, dimensions, HDR codec, capture mode, remembered source, output, or replay limits"
  else if !profilesValid [] self.gameProfiles then
    .error "invalid game profile name, API, command, fps limit, or target process name"
  else .ok ()

/-- A rejected value leaves the settings untouched. -/
def apply (self : Recorder) (key value : String) : Except String Recorder := do
  let (candidate, _) ← self.assign key value
  match candidate.validateRecorder with
  | .error error => .error s!"recorder {key}='{value}' rejected: {error}"
  | .ok () => return candidate

end Recorder

structure Layout where
  mode : String := "master"
  workspaces : Nat := 9
  deriving DecidableEq, Repr

structure WindowRule where
  appId : Option String := none
  title : Option String := none
  workspace : Option Nat := none
  output : Option String := none
  floating : Option Bool := none
  width : Option Int := none
  height : Option Int := none
  deriving DecidableEq, Repr

structure Config where
  layout : Layout := {}
  rules : List WindowRule := []
  recorder : Recorder := {}
  deriving DecidableEq, Repr

namespace Config

def ruleValid (layout : Layout) (rule : WindowRule) : Bool :=
  rule.workspace.all (fun workspace => 1 ≤ workspace && workspace ≤ layout.workspaces) &&
    rule.width.all (1 ≤ ·) && rule.height.all (1 ≤ ·)

/-- The source goes over the game profiles once more after `validate_recorder`,
which has already made the same checks. -/
def validate (self : Config) : Except String Unit :=
  if ¬(1 ≤ self.layout.workspaces ∧ self.layout.workspaces ≤ 9) then
    .error "master_ratio must be 0.1..0.9; workspaces 1..9"
  else if self.layout.mode ∉ ["master", "monocle"] then .error "layout mode must be master or monocle"
  else
    match self.recorder.validateRecorder with
    | .error _ =>
        .error "invalid recorder fps, codec, quality, dimensions, HDR codec, capture mode, remembered source, output, or replay limits"
    | .ok () =>
        if !self.rules.all (ruleValid self.layout) then .error "invalid window rule" else .ok ()

/-- `Config::load` once the files are read and parsed. The sections that are
not modelled are checked by the parser that hands over `parsed`. -/
def load (parsed : Except String Config) : Except String Config := do
  let config ← parsed
  config.validate
  return config

theorem load_ok {parsed : Except String Config} {config : Config} (loaded : load parsed = .ok config) :
    config.validate = .ok () := by
  unfold load at loaded
  rcases parsed with failure | found
  · cases loaded
  · rcases checked : found.validate with failure | ⟨⟩
    · simp only [bind, Except.bind, checked] at loaded
      cases loaded
    · simp only [bind, Except.bind, checked] at loaded
      cases loaded
      exact checked

theorem validate_workspaces {config : Config} (valid : config.validate = .ok ()) :
    1 ≤ config.layout.workspaces ∧ config.layout.workspaces ≤ 9 := by
  unfold validate at valid
  split at valid
  · cases valid
  · rename_i bounds
    exact not_not.mp bounds

theorem validate_rules {config : Config} (valid : config.validate = .ok ()) {rule : WindowRule}
    (member : rule ∈ config.rules) {workspace : Nat} (names : rule.workspace = some workspace) :
    1 ≤ workspace ∧ workspace ≤ config.layout.workspaces := by
  unfold validate at valid
  split_ifs at valid with _ _ rejected
  · split at valid <;> cases valid
  · have checked := List.all_eq_true.mp (by simpa using rejected) rule member
    simp only [ruleValid, names, Option.all_some, Bool.and_eq_true, decide_eq_true_eq] at checked
    exact checked.1.1

end Config

end Luma.Core
