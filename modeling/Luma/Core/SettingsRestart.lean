import Luma.Core.SettingsOverlay

/-! Settings changed at runtime come back after a restart.

Every accepted change leaves settings that the checks on loading accept, and
settings within these bounds are read back as they were written.
-/

set_option autoImplicit false

namespace Luma.Core

open Luma.Library

/-- What the file system answers to a write of the settings file. -/
structure SettingsWrite where
  directory : String := "~/.config/wm"
  temporary : String := "~/.config/wm/recorder-settings.toml.tmp"
  createDirectory : Except String Unit := .ok ()
  createTemporary : Except String Unit := .ok ()
  writeTemporary : Except String Unit := .ok ()
  rename : Except String Unit := .ok ()

/-- The settings file is replaced by a rename of what was written beside it. -/
def writeRecorderSettings (toml : TomlLibrary) (disk : SettingsWrite) (overlay : Option String) (recorder : Recorder) :
    Except String Unit × Option String :=
  let directory := disk.directory
  let temporary := disk.temporary
  match disk.createDirectory with
  | .error error => (.error s!"failed to create {directory}: {error}", overlay)
  | .ok () =>
      match toml.print recorder.serialize with
      | .error error => (.error s!"failed to serialize recorder settings: {error}", overlay)
      | .ok body =>
          match disk.createTemporary with
          | .error error => (.error s!"failed to write {temporary}: {error}", overlay)
          | .ok () =>
              match disk.writeTemporary with
              | .error error => (.error s!"failed to write {temporary}: {error}", overlay)
              | .ok () =>
                  match disk.rename with
                  | .error error => (.error s!"failed to persist recorder settings: {error}", overlay)
                  | .ok () => (.ok (), some body)

theorem writeRecorderSettings_cases (toml : TomlLibrary) (disk : SettingsWrite) (overlay : Option String)
    (recorder : Recorder) :
    (∃ error, writeRecorderSettings toml disk overlay recorder = (.error error, overlay)) ∨
      ∃ body, toml.print recorder.serialize = .ok body ∧
        writeRecorderSettings toml disk overlay recorder = (.ok (), some body) := by
  unfold writeRecorderSettings
  dsimp only
  split
  · exact .inl ⟨_, rfl⟩
  · split
    · exact .inl ⟨_, rfl⟩
    · rename_i body printed
      split
      · exact .inl ⟨_, rfl⟩
      · split
        · exact .inl ⟨_, rfl⟩
        · split
          · exact .inl ⟨_, rfl⟩
          · exact .inr ⟨body, printed, rfl⟩

/-- A file that is read whole. -/
inductive ReadFile where
  | text (contents : String)
  | notFound
  | failed (error : String)

/-- What the file system answers about the configuration file and the settings file. -/
structure SettingsDisk where
  write : SettingsWrite := {}
  settingsPath : String := "~/.config/wm/recorder-settings.toml"
  /-- Whether a settings file, if there is one, can be removed. -/
  remove : Except String Unit := .ok ()
  configPath : String := "~/.config/wm/config.toml"
  base : ReadFile := .notFound
  settingsReadable : Bool := true

/-- Whether there was a settings file, and what there is now. -/
def clearRecorderSettings (disk : SettingsDisk) (overlay : Option String) : Except String Bool × Option String :=
  let path := disk.settingsPath
  match disk.remove with
  | .error error => (.error s!"failed to remove {path}: {error}", overlay)
  | .ok () => (.ok overlay.isSome, none)

theorem clearRecorderSettings_cases (disk : SettingsDisk) (overlay : Option String) :
    (∃ refused error, disk.remove = .error refused ∧ clearRecorderSettings disk overlay = (.error error, overlay)) ∨
      disk.remove = .ok () ∧ clearRecorderSettings disk overlay = (.ok overlay.isSome, none) := by
  unfold clearRecorderSettings
  cases answer : disk.remove with
  | error refused => exact .inl ⟨refused, _, rfl, rfl⟩
  | ok answer => exact .inr ⟨rfl, rfl⟩

namespace Recorder

/-- One change after the other; those that fail are ignored. -/
def applyAll (self : Recorder) (changes : List (String × String)) : Recorder :=
  changes.foldl (fun recorder change =>
    match recorder.apply change.1 change.2 with
    | .ok changed => changed
    | .error _ => recorder) self

theorem apply_valid {before after : Recorder} {key value : String} (applied : before.apply key value = .ok after) :
    after.validateRecorder = .ok () := by
  unfold apply at applied
  simp only [Fallible.bind_ok] at applied
  obtain ⟨⟨candidate, stored⟩, _, checked⟩ := applied
  dsimp only at checked
  split at checked
  · cases checked
  · rename_i valid
    simp only [Fallible.pure_ok] at checked
    exact checked ▸ valid

theorem applyAll_valid {self : Recorder} (valid : self.validateRecorder = .ok ()) (changes : List (String × String)) :
    (self.applyAll changes).validateRecorder = .ok () := by
  induction changes generalizing self with
  | nil => exact valid
  | cons change rest ih =>
    unfold applyAll
    rw [List.foldl_cons]
    cases applied : self.apply change.1 change.2 with
    | error text => exact ih valid
    | ok changed => exact ih (apply_valid applied)

theorem validateRecorder_ok {self : Recorder} (valid : self.validateRecorder = .ok ()) :
    self.limitsValid = true ∧ profilesValid [] self.gameProfiles = true := by
  unfold validateRecorder at valid
  split at valid
  · cases valid
  · rename_i limits
    split at valid
    · cases valid
    · rename_i profiles
      exact ⟨by simpa using limits, by simpa using profiles⟩

theorem profilesValid_fps {names : List String} {profiles : List GameCaptureProfile}
    (valid : profilesValid names profiles = true) : ∀ profile ∈ profiles, profile.fps ≤ u32Max := by
  induction profiles generalizing names with
  | nil => exact nofun
  | cons first rest ih =>
    simp only [profilesValid, Bool.and_eq_true, decide_eq_true_eq] at valid
    intro profile member
    rcases List.mem_cons.mp member with rfl | later
    · exact Nat.le_trans valid.1.1.2 (by decide)
    · exact ih valid.2 profile later

/-- The checks keep every number within what its field can hold. -/
theorem read_write {self : Recorder} (valid : self.validateRecorder = .ok ()) (key : RecorderKey) :
    RecorderKey.format.read key (RecorderKey.format.write key (self.get key)) = some (self.get key) := by
  obtain ⟨limits, profiles⟩ := validateRecorder_ok valid
  simp only [limitsValid, Bool.and_eq_true, decide_eq_true_eq] at limits
  cases key with
  | enabled | hdr | cursor => rfl
  | codec | outputDirectory | container | desktopAudio | microphone | captureMode | windowAppId | windowTitle
  | injectProcess | gameProfile => rfl
  | fps | screenFps | quality | outputWidth | outputHeight | replaySeconds | replayMaxMib =>
    apply Toml.toUnsigned_integer
    simp only [get, u32Max, u8Max]
    omega
  | gameProfiles =>
    apply Toml.toItems_map
    intro profile member
    exact GameCaptureProfile.read_serialize (profilesValid_fps profiles profile member)

/-- Settings that pass the checks read back as they are written. -/
theorem readPatch_serialize {self : Recorder} (valid : self.validateRecorder = .ok ()) :
    readPatch self.serialize = .ok fun key => some (self.get key) :=
  Patch.readEntries_written RecorderKey.format RecorderKey.named_name self.get (read_write valid) RecorderKey.mem_all

/-- A document that names every key leaves nothing to the defaults. -/
theorem ofPatch_get (self : Recorder) : ofPatch (fun key => some (self.get key)) = self := by
  unfold ofPatch
  rw [Patch.onto_full]
  rfl

end Recorder

namespace Config

section

variable (toml : TomlLibrary) (sections : Table → Except String Config) (disk : SettingsDisk) (overlay : Option String)

/-- A settings file that cannot be read counts as none. -/
def readFiles : Except String Config :=
  let settings := if disk.settingsReadable then overlay else none
  let path := disk.configPath
  match disk.base with
  | .text contents => readWithSettings toml sections contents settings
  | .notFound => readWithSettings toml sections "" settings
  | .failed error => .error s!"{path}: {error}"

/-- `Config::load` with its files. -/
def loadFiles : Except String Config :=
  let settings := if disk.settingsReadable then overlay else none
  let path := disk.configPath
  match disk.base with
  | .text contents => parseWithSettings toml sections contents settings
  | .notFound => parseWithSettings toml sections "" settings
  | .failed error => .error s!"{path}: {error}"

end

/-- What a valid configuration consists of. -/
theorem validate_ok {config : Config} : config.validate = .ok () ↔
    (1 ≤ config.layout.workspaces ∧ config.layout.workspaces ≤ 9) ∧ config.layout.mode ∈ ["master", "monocle"] ∧
      config.recorder.validateRecorder = .ok () ∧ config.rules.all (ruleValid config.layout) = true := by
  unfold validate
  by_cases workspaces : 1 ≤ config.layout.workspaces ∧ config.layout.workspaces ≤ 9
  · by_cases mode : config.layout.mode ∈ ["master", "monocle"]
    · rw [if_neg (not_not.mpr workspaces), if_neg (not_not.mpr mode)]
      cases checked : config.recorder.validateRecorder with
      | error text => simp
      | ok checked =>
        cases fits : config.rules.all (ruleValid config.layout) with
        | false => simp
        | true => simp [workspaces, mode]
    · rw [if_neg (not_not.mpr workspaces), if_pos mode]
      simp [mode]
  · rw [if_pos workspaces]
    simp [workspaces]

variable {toml : TomlLibrary} {sections : Table → Except String Config} {base text : String} {config : Config}

theorem load_valid (valid : config.validate = .ok ()) : load (.ok config) = .ok config := by
  unfold load
  rw [Fallible.bind_ok]
  refine ⟨config, rfl, ?_⟩
  rw [Fallible.bind_ok]
  exact ⟨(), valid, rfl⟩

/-- Without a settings file, what is loaded is the configuration file. -/
theorem parseWithSettings_none (loaded : parseWithSettings toml sections base none = .ok config) :
    readBase toml sections base = .ok config := by
  unfold parseWithSettings load readWithSettings at loaded
  simp only [Fallible.bind_ok, Fallible.pure_ok] at loaded
  obtain ⟨_, ⟨_, read, rfl⟩, _, _, rfl⟩ := loaded
  exact read

theorem readWithSettings_some {patch : RecorderPatch} (read : readBase toml sections base = .ok config)
    (overlaid : overlayPatch toml text = .ok patch) :
    readWithSettings toml sections base (some text) = .ok { config with recorder := .ofPatch patch } := by
  unfold readWithSettings
  rw [Fallible.bind_ok]
  refine ⟨config, read, ?_⟩
  dsimp only
  rw [overlaid]
  rfl

/-- For every valid configuration file and all changes at runtime: a settings
file written of the result loads over the same configuration file, and gives the
same settings. -/
theorem settings_survive_restart (loaded : parseWithSettings toml sections base none = .ok config)
    (changes : List (String × String)) (disk : SettingsWrite) (overlay : Option String)
    (roundTrips : ∀ text, toml.print (config.recorder.applyAll changes).serialize = .ok text →
      toml.parse text = .ok (config.recorder.applyAll changes).serialize)
    (wrote : (writeRecorderSettings toml disk overlay (config.recorder.applyAll changes)).1 = .ok ()) :
    parseWithSettings toml sections base
        (writeRecorderSettings toml disk overlay (config.recorder.applyAll changes)).2 =
      .ok { config with recorder := config.recorder.applyAll changes } := by
  obtain ⟨workspaces, mode, recorder, rules⟩ := validate_ok.mp (load_ok loaded)
  have accepted := Recorder.applyAll_valid recorder changes
  have fits : ({ config with recorder := config.recorder.applyAll changes } : Config).validate = .ok () :=
    validate_ok.mpr ⟨workspaces, mode, accepted, rules⟩
  rcases writeRecorderSettings_cases toml disk overlay (config.recorder.applyAll changes) with
    ⟨error, failed⟩ | ⟨text, printed, written⟩
  · rw [failed] at wrote
    cases wrote
  · have parsed : overlayPatch toml text = .ok fun key => some ((config.recorder.applyAll changes).get key) := by
      unfold overlayPatch
      rw [Fallible.bind_ok]
      exact ⟨_, roundTrips text printed, Recorder.readPatch_serialize accepted⟩
    have overlaid := readWithSettings_some (parseWithSettings_none loaded) parsed
    rw [Recorder.ofPatch_get] at overlaid
    rw [written]
    unfold parseWithSettings
    rw [overlaid]
    exact load_valid fits

end Config

/-- Settings as changed below, and their text. -/
def savedSettings : Recorder := { fps := 60, quality := 18, windowTitle := "Minecraft" }

def savedText : String :=
  "enabled = true\nhdr = false\nscreen_fps = 240\nfps = 60\ncodec = \"h264\"\nquality = 18\noutput_width = 2560\n" ++
  "output_height = 1440\noutput_directory = \"~/Videos/Luma\"\ncontainer = \"mp4\"\ncursor = true\n" ++
  "desktop_audio = \"default_output\"\nmicrophone = \"default_input\"\nreplay_seconds = 30\n" ++
  "replay_max_mib = 1024\ncapture_mode = \"screen\"\nwindow_app_id = \"\"\nwindow_title = \"Minecraft\"\n" ++
  "inject_process = \"\"\ngame_profile = \"\"\ngame_profiles = []\n"

/-- The library on these documents. -/
def savedDocuments : TomlLibrary where
  parse text := if text = savedText then .ok savedSettings.serialize else shortDocuments.parse text
  print _ := .ok savedText

def savedChanges : List (String × String) := [("fps", "60"), ("codec", "vp9"), ("window_title", " Minecraft ")]

/-- Two changes, one of them trimmed, and one that is refused. -/
theorem settings_survive_restart_saved :
    Config.parseWithSettings savedDocuments (fun _ => .ok {}) "[recorder]\nquality = 18" (some savedText) =
      .ok { recorder := savedSettings } := by
  have loaded : Config.parseWithSettings savedDocuments (fun _ => .ok {}) "[recorder]\nquality = 18" none =
      .ok { recorder := { quality := 18 } } := by
    decide +kernel
  have changed : ({ quality := 18 } : Recorder).applyAll savedChanges = savedSettings := by decide +kernel
  have written (recorder : Recorder) :
      writeRecorderSettings savedDocuments {} none recorder = (.ok (), some savedText) := rfl
  have parsed : ∀ text,
      savedDocuments.print (({ quality := 18 } : Recorder).applyAll savedChanges).serialize = .ok text →
      savedDocuments.parse text = .ok (({ quality := 18 } : Recorder).applyAll savedChanges).serialize := by
    intro text printed
    rw [changed]
    obtain rfl : savedText = text := Except.ok.inj printed
    unfold savedDocuments
    dsimp only
    rw [if_pos rfl]
  have survived := Config.settings_survive_restart loaded savedChanges {} none parsed (by rw [written])
  rw [written, changed] at survived
  exact survived

end Luma.Core
