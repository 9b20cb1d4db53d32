import Luma.Core.Settings
import Luma.Library.Fallible
import Luma.Library.Patch

/-! The recorder settings as a file, and how it is laid over the configuration.

The text of a TOML document is read and printed by a library; documents, and what
the derived code makes of the recorder's section, are modelled. The sections of
other parts of the desktop are read by a parameter.
-/

set_option autoImplicit false

namespace Luma.Core

open Luma.Library

inductive Toml where
  | boolean (value : Bool)
  | integer (value : Int)
  | string (value : String)
  | array (items : List Toml)
  | table (entries : List (String × Toml))
  /-- A float or a date. -/
  | other (text : String)

abbrev Table := List (String × Toml)

/-- The library; documents that it parses name no key twice. -/
structure TomlLibrary where
  parse : String → Except String Table
  print : Table → Except String String

namespace Toml

def toBoolean : Toml → Option Bool
  | .boolean value => some value
  | _ => none

def toUnsigned (maximum : Nat) : Toml → Option Nat
  | .integer value => if 0 ≤ value ∧ value ≤ maximum then some value.toNat else none
  | _ => none

def toText : Toml → Option String
  | .string value => some value
  | _ => none

def toItems {α : Type} (read : Toml → Option α) : Toml → Option (List α)
  | .array items => items.mapM read
  | _ => none

theorem toUnsigned_integer {maximum value : Nat} (fits : value ≤ maximum) :
    toUnsigned maximum (.integer value) = some value := by
  unfold toUnsigned
  dsimp only
  rw [if_pos ⟨Int.natCast_nonneg _, Int.ofNat_le.mpr fits⟩, Int.toNat_natCast]

theorem toItems_map {α : Type} {read : Toml → Option α} {write : α → Toml} {items : List α}
    (reads : ∀ item ∈ items, read (write item) = some item) : toItems read (.array (items.map write)) = some items := by
  unfold toItems
  dsimp only
  induction items with
  | nil => rfl
  | cons item rest ih =>
    rw [List.map_cons, List.mapM_cons, reads item List.mem_cons_self,
      ih fun other member => reads other (List.mem_cons_of_mem _ member)]
    rfl

end Toml

def u32Max : Nat := 2 ^ 32 - 1
def u8Max : Nat := 2 ^ 8 - 1

/-! ## Game profiles -/

inductive ProfileKey where
  | name | api | command | fps | targetProcessName
  deriving DecidableEq, Repr

namespace ProfileKey

abbrev Value : ProfileKey → Type
  | .command => List String
  | .fps => Nat
  | _ => String

def all : List ProfileKey := [.name, .api, .command, .fps, .targetProcessName]

def label : ProfileKey → String
  | .name => "name"
  | .api => "api"
  | .command => "command"
  | .fps => "fps"
  | .targetProcessName => "target_process_name"

def read : (key : ProfileKey) → Toml → Option key.Value
  | .name | .api | .targetProcessName => Toml.toText
  | .command => Toml.toItems Toml.toText
  | .fps => Toml.toUnsigned u32Max

def write : (key : ProfileKey) → key.Value → Toml
  | .name, value | .api, value | .targetProcessName, value => .string value
  | .command, arguments => .array (arguments.map .string)
  | .fps, value => .integer (value : Nat)

def format : Patch.Format Value Toml where
  name := label
  named name := all.find? (·.label == name)
  read := read
  write := write

theorem named_name (key : ProfileKey) : format.named (format.name key) = some key := by
  cases key <;> rfl

theorem mem_all (key : ProfileKey) : key ∈ all := by
  cases key <;> decide

end ProfileKey

namespace GameCaptureProfile

def get (self : GameCaptureProfile) : Values ProfileKey.Value
  | .name => self.name
  | .api => self.api
  | .command => self.command
  | .fps => self.fps
  | .targetProcessName => self.targetProcessName

def build (values : Values ProfileKey.Value) : GameCaptureProfile where
  name := values .name
  api := values .api
  command := values .command
  fps := values .fps
  targetProcessName := values .targetProcessName

def read : Toml → Option GameCaptureProfile
  | .table entries =>
      match Patch.readEntries ProfileKey.format entries with
      | .error _ => none
      | .ok patch => some (build (patch.onto (get {})))
  | _ => none

def serialize (self : GameCaptureProfile) : Toml :=
  .table (Patch.writeEntries ProfileKey.format ProfileKey.all self.get)

theorem read_serialize {profile : GameCaptureProfile} (fits : profile.fps ≤ u32Max) :
    read profile.serialize = some profile := by
  have reads : ∀ key, ProfileKey.format.read key (ProfileKey.format.write key (profile.get key)) =
      some (profile.get key) := by
    intro key
    cases key with
    | name | api | targetProcessName => rfl
    | command => exact Toml.toItems_map fun _ _ => rfl
    | fps => exact Toml.toUnsigned_integer fits
  unfold read serialize
  dsimp only
  rw [Patch.readEntries_written ProfileKey.format ProfileKey.named_name profile.get reads ProfileKey.mem_all]
  rfl

end GameCaptureProfile

/-! ## The recorder's section -/

inductive RecorderKey where
  | enabled | hdr | screenFps | fps | codec | quality | outputWidth | outputHeight | outputDirectory | container
  | cursor | desktopAudio | microphone | replaySeconds | replayMaxMib | captureMode | windowAppId | windowTitle
  | injectProcess | gameProfile | gameProfiles
  deriving DecidableEq, Repr

namespace RecorderKey

abbrev Value : RecorderKey → Type
  | .enabled | .hdr | .cursor => Bool
  | .screenFps | .fps | .quality | .outputWidth | .outputHeight | .replaySeconds | .replayMaxMib => Nat
  | .gameProfiles => List GameCaptureProfile
  | _ => String

def all : List RecorderKey := [
  .enabled, .hdr, .screenFps, .fps, .codec, .quality, .outputWidth, .outputHeight, .outputDirectory, .container,
  .cursor, .desktopAudio, .microphone, .replaySeconds, .replayMaxMib, .captureMode, .windowAppId, .windowTitle,
  .injectProcess, .gameProfile, .gameProfiles]

def label : RecorderKey → String
  | .enabled => "enabled"
  | .hdr => "hdr"
  | .screenFps => "screen_fps"
  | .fps => "fps"
  | .codec => "codec"
  | .quality => "quality"
  | .outputWidth => "output_width"
  | .outputHeight => "output_height"
  | .outputDirectory => "output_directory"
  | .container => "container"
  | .cursor => "cursor"
  | .desktopAudio => "desktop_audio"
  | .microphone => "microphone"
  | .replaySeconds => "replay_seconds"
  | .replayMaxMib => "replay_max_mib"
  | .captureMode => "capture_mode"
  | .windowAppId => "window_app_id"
  | .windowTitle => "window_title"
  | .injectProcess => "inject_process"
  | .gameProfile => "game_profile"
  | .gameProfiles => "game_profiles"

def read : (key : RecorderKey) → Toml → Option key.Value
  | .enabled | .hdr | .cursor => Toml.toBoolean
  | .screenFps | .fps | .outputWidth | .outputHeight | .replaySeconds | .replayMaxMib => Toml.toUnsigned u32Max
  | .quality => Toml.toUnsigned u8Max
  | .codec | .outputDirectory | .container | .desktopAudio | .microphone | .captureMode | .windowAppId | .windowTitle
  | .injectProcess | .gameProfile => Toml.toText
  | .gameProfiles => Toml.toItems GameCaptureProfile.read

def write : (key : RecorderKey) → key.Value → Toml
  | .enabled, value | .hdr, value | .cursor, value => .boolean value
  | .screenFps, value | .fps, value | .outputWidth, value | .outputHeight, value | .replaySeconds, value
  | .replayMaxMib, value | .quality, value => .integer (value : Nat)
  | .codec, value | .outputDirectory, value | .container, value | .desktopAudio, value | .microphone, value
  | .captureMode, value | .windowAppId, value | .windowTitle, value | .injectProcess, value
  | .gameProfile, value => .string value
  | .gameProfiles, profiles => .array (profiles.map GameCaptureProfile.serialize)

def format : Patch.Format Value Toml where
  name := label
  named name := all.find? (·.label == name)
  read := read
  write := write

theorem named_name (key : RecorderKey) : format.named (format.name key) = some key := by
  cases key <;> rfl

theorem mem_all (key : RecorderKey) : key ∈ all := by
  cases key <;> decide

end RecorderKey

/-- What a document says of the recorder's keys. -/
abbrev RecorderPatch := Patch RecorderKey.Value

namespace Recorder

def get (self : Recorder) : Values RecorderKey.Value
  | .enabled => self.enabled
  | .hdr => self.hdr
  | .screenFps => self.screenFps
  | .fps => self.fps
  | .codec => self.codec
  | .quality => self.quality
  | .outputWidth => self.outputWidth
  | .outputHeight => self.outputHeight
  | .outputDirectory => self.outputDirectory
  | .container => self.container
  | .cursor => self.cursor
  | .desktopAudio => self.desktopAudio
  | .microphone => self.microphone
  | .replaySeconds => self.replaySeconds
  | .replayMaxMib => self.replayMaxMib
  | .captureMode => self.captureMode
  | .windowAppId => self.windowAppId
  | .windowTitle => self.windowTitle
  | .injectProcess => self.injectProcess
  | .gameProfile => self.gameProfile
  | .gameProfiles => self.gameProfiles

def build (values : Values RecorderKey.Value) : Recorder where
  enabled := values .enabled
  hdr := values .hdr
  screenFps := values .screenFps
  fps := values .fps
  codec := values .codec
  quality := values .quality
  outputWidth := values .outputWidth
  outputHeight := values .outputHeight
  outputDirectory := values .outputDirectory
  container := values .container
  cursor := values .cursor
  desktopAudio := values .desktopAudio
  microphone := values .microphone
  replaySeconds := values .replaySeconds
  replayMaxMib := values .replayMaxMib
  captureMode := values .captureMode
  windowAppId := values .windowAppId
  windowTitle := values .windowTitle
  injectProcess := values .injectProcess
  gameProfile := values .gameProfile
  gameProfiles := values .gameProfiles

theorem get_build (values : Values RecorderKey.Value) : (build values).get = values := by
  funext key
  cases key <;> rfl

/-- Keys that the document omits have their default. -/
def ofPatch (patch : RecorderPatch) : Recorder := build (patch.onto (get {}))

def readPatch (table : Table) : Except String RecorderPatch := Patch.readEntries RecorderKey.format table

def serialize (self : Recorder) : Table := Patch.writeEntries RecorderKey.format RecorderKey.all self.get

end Recorder

/-! ## Loading -/

/-- The `[recorder]` section of a configuration. -/
def sectionPatch : Option Toml → Except String RecorderPatch
  | none => .ok Patch.empty
  | some (.table entries) => Recorder.readPatch entries
  | some _ => .error "invalid type, expected struct Recorder"

/-- What the configuration file says of the recorder's keys. -/
def basePatch (toml : TomlLibrary) (base : String) : Except String RecorderPatch :=
  if Text.trim base = "" then .ok Patch.empty
  else toml.parse (Text.trim base) >>= fun table => sectionPatch (table.lookup "recorder")

/-- What the settings file says of them. -/
def overlayPatch (toml : TomlLibrary) (settings : String) : Except String RecorderPatch :=
  toml.parse settings >>= Recorder.readPatch

namespace Config

variable (toml : TomlLibrary) (sections : Table → Except String Config)

def readBase (base : String) : Except String Config :=
  if Text.trim base = "" then .ok {}
  else do
    let table ← toml.parse (Text.trim base)
    let config ← sections table
    let patch ← sectionPatch (table.lookup "recorder")
    return { config with recorder := .ofPatch patch }

def readWithSettings (base : String) (settings : Option String) : Except String Config := do
  let config ← readBase toml sections base
  match settings with
  | none => return config
  | some settings =>
      match overlayPatch toml settings with
      | .error error => .error s!"recorder settings: {error}"
      | .ok patch => return { config with recorder := .ofPatch patch }

def parseWithSettings (base : String) (settings : Option String) : Except String Config :=
  load (readWithSettings toml sections base settings)

variable {toml sections} {base settings : String} {config : Config}

theorem readBase_ok (read : readBase toml sections base = .ok config) :
    ∃ patch, basePatch toml base = .ok patch ∧ config.recorder = .ofPatch patch := by
  unfold readBase at read
  unfold basePatch
  split at read
  · rename_i empty
    cases read
    exact ⟨Patch.empty, if_pos empty, rfl⟩
  · rename_i written
    simp only [Fallible.bind_ok, Fallible.pure_ok] at read
    obtain ⟨table, parsed, others, _, patch, reads, rfl⟩ := read
    refine ⟨patch, ?_, rfl⟩
    rw [if_neg written, Fallible.bind_ok]
    exact ⟨table, parsed, reads⟩

theorem parseWithSettings_some (loaded : parseWithSettings toml sections base (some settings) = .ok config) :
    ∃ lower upper, basePatch toml base = .ok lower ∧ overlayPatch toml settings = .ok upper ∧
      config.recorder = .ofPatch upper := by
  unfold parseWithSettings load readWithSettings at loaded
  simp only [Fallible.bind_ok, Fallible.pure_ok] at loaded
  obtain ⟨read, ⟨below, base_read, overlaid⟩, _, _, rfl⟩ := loaded
  obtain ⟨lower, lower_read, _⟩ := readBase_ok base_read
  split at overlaid
  · cases overlaid
  · rename_i upper upper_read
    cases overlaid
    exact ⟨lower, upper, lower_read, upper_read, rfl⟩

/-- The values that a settings file laid over the configuration file gives. -/
def merged (upper lower : RecorderPatch) : Values RecorderKey.Value := (upper.above lower).onto (Recorder.get {})

/-- The recorder settings that are loaded are those of the settings file laid
over the configuration file exactly when the configuration file sets every key
that the settings file omits, if at all, to its default. -/
theorem settings_merged_iff (loaded : parseWithSettings toml sections base (some settings) = .ok config) :
    ∃ lower upper, basePatch toml base = .ok lower ∧ overlayPatch toml settings = .ok upper ∧
      ((∀ key, config.recorder.get key = merged upper lower key) ↔
        ∀ key, upper key = none → ∀ value, lower key = some value → value = ({} : Recorder).get key) := by
  obtain ⟨lower, upper, below, above, recorder⟩ := parseWithSettings_some loaded
  refine ⟨lower, upper, below, above, ?_⟩
  rw [recorder, Recorder.ofPatch, Recorder.get_build, ← funext_iff]
  exact Patch.above_onto_iff upper lower (Recorder.get {})

end Config

/-- The library on two short documents. -/
def shortDocuments : TomlLibrary where
  parse text :=
    if text = "[recorder]\nquality = 18" then .ok [("recorder", .table [("quality", .integer 18)])]
    else if text = "fps = 60" then .ok [("fps", .integer 60)]
    else .error "expected an equals"
  print _ := .error "unsupported"

/-- The settings file names another key, and the quality of the configuration
file is lost. -/
theorem quality_reset_by_overlay :
    ((basePatch shortDocuments "[recorder]\nquality = 18").toOption.bind fun lower => lower .quality) =
        some (18 : Nat) ∧
      ((overlayPatch shortDocuments "fps = 60").toOption.map fun upper => (upper .quality).isNone) = some true ∧
      (Config.parseWithSettings shortDocuments (fun _ => .ok {}) "[recorder]\nquality = 18"
        (some "fps = 60")).toOption.map (·.recorder.quality) = some 20 := by
  decide +kernel

/-- A settings file that omits no key of the configuration file. -/
theorem settings_merged_iff_fps :
    ∃ lower upper, basePatch shortDocuments "" = .ok lower ∧ overlayPatch shortDocuments "fps = 60" = .ok upper ∧
      ((∀ key, ({ fps := 60 } : Recorder).get key = Config.merged upper lower key) ↔
        ∀ key, upper key = none → ∀ value, lower key = some value → value = ({} : Recorder).get key) := by
  have loaded : Config.parseWithSettings shortDocuments (fun _ => .ok {}) "" (some "fps = 60") =
      .ok { recorder := { fps := 60 } } := by
    decide +kernel
  exact Config.settings_merged_iff loaded

end Luma.Core
