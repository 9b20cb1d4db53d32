import Luma.Compositor.System
import Luma.Core.SettingsRestart

/-! The two commands that change the recorder settings, with the files behind them.

`set` changes the settings that are in use and then writes the settings file;
`settings-reset` removes the file and then loads what is left. Both stop where the
second part fails.
-/

set_option autoImplicit false

namespace Luma.Compositor

open Luma.Library Luma.Core

/-! ## Requests -/

/-- The settings that `set` asks for, or what is wrong with its argument. -/
def settingsChange (recorder : Recorder) (argument : String) : Except String Recorder :=
  match Text.splitOnce (Text.trim argument) ' ' with
  | none => .error "recorder set requires a KEY and VALUE"
  | some (key, value) =>
    if key = "" ∨ Text.trim value = "" then .error "recorder set requires a KEY and VALUE"
    else recorder.apply (Text.trim key) value

namespace AnvilState

/-- The action a recorder command names, with its argument. -/
def recorderRequest (command : String) : Option (RecorderAction × String) :=
  if Verb.parse (splitCommand command).1 = some .recorder then
    (RecorderAction.parse (splitAction (splitCommand command).2).1).map fun action =>
      (action, (splitAction (splitCommand command).2).2)
  else none

variable {self : AnvilState} {command argument : String} {action : RecorderAction}

theorem recorderSet_eq (self : AnvilState) (host : Host) (argument : String) :
    self.recorderSet host argument =
      match settingsChange self.desktop.config.recorder argument with
      | .error error => ⟨.error error, self, []⟩
      | .ok recorder =>
        match host.writeSettings with
        | .error error => ⟨.error error, self.setRecorder recorder, []⟩
        | .ok () => ⟨.ok (), (self.setRecorder recorder).markDirty, []⟩ := by
  unfold recorderSet settingsChange
  cases Text.splitOnce (Text.trim argument) ' ' with
  | none => rfl
  | some parts =>
    obtain ⟨key, value⟩ := parts
    by_cases missing : key = "" ∨ Text.trim value = ""
    · simp [missing]
    · cases applied : self.desktop.config.recorder.apply (Text.trim key) value with
      | error error => simp [missing, applied]
      | ok recorder => cases written : host.writeSettings <;> simp [missing, applied]

/-- The two commands that a locked session answers are not the recorder's. -/
theorem recorderRequest_other (named : recorderRequest command = some (action, argument)) :
    command ≠ "status" ∧ command ≠ "performance status" := by
  have status : recorderRequest "status" = none := by decide
  have performance : recorderRequest "performance status" = none := by decide
  constructor
  · rintro rfl
    cases status.symm.trans named
  · rintro rfl
    cases performance.symm.trans named

theorem desktopCommand_recorder (host : Host) (named : recorderRequest command = some (action, argument))
    (unlocked : self.lock.locked = false) :
    self.desktopCommand host command = self.recorderAction host argument action := by
  unfold recorderRequest at named
  split at named
  · rename_i verb
    rw [Option.map_eq_some_iff] at named
    obtain ⟨parsed, named, same⟩ := named
    cases same
    unfold desktopCommand
    rw [if_neg (by simp [unlocked]), verb]
    dsimp only [runVerb]
    unfold recorderCommand
    -- Without an argument no action is named.
    have nothing : RecorderAction.parse (splitAction "").1 = none := by decide
    have argued : (splitCommand command).2 ≠ "" := by
      intro empty
      rw [empty, nothing] at named
      cases named
    rw [if_neg argued, named]
  · cases named

end AnvilState

/-! ## The compositor with its settings file -/

structure Stored where
  state : AnvilState
  overlay : Option String := none

namespace Stored

variable (toml : TomlLibrary) (sections : Table → Except String Config)

/-- The outcome of a command, and the settings file after it. -/
abbrev StoredOutcome := Outcome × Option String

def recorderSet (self : Stored) (disk : SettingsDisk) (argument : String) : StoredOutcome :=
  match settingsChange self.state.desktop.config.recorder argument with
  | .error error => (⟨.error error, self.state, []⟩, self.overlay)
  | .ok recorder =>
    -- The new settings are in use before they are written.
    let state := self.state.setRecorder recorder
    let written := writeRecorderSettings toml disk.write self.overlay recorder
    match written.1 with
    | .error error => (⟨.error error, state, []⟩, written.2)
    | .ok () => (⟨.ok (), state.markDirty, []⟩, written.2)

def recorderReset (self : Stored) (disk : SettingsDisk) : StoredOutcome :=
  let cleared := clearRecorderSettings disk self.overlay
  match cleared.1 with
  | .error error => (⟨.error error, self.state, []⟩, cleared.2)
  | .ok _ =>
    -- The file is gone whether or not the rest loads.
    match Config.loadFiles toml sections disk cleared.2 with
    | .error error => (⟨.error error, self.state, []⟩, cleared.2)
    | .ok base => (⟨.ok (), (self.state.setRecorder base.recorder).markDirty, []⟩, cleared.2)

def desktopCommand (self : Stored) (disk : SettingsDisk) (host : Host) (command : String) : StoredOutcome :=
  if self.state.lock.locked ∧ command ≠ "status" ∧ command ≠ "performance status" then
    (⟨.error "session is locked", self.state, []⟩, self.overlay)
  else
    match AnvilState.recorderRequest command with
    | some (.set, argument) => self.recorderSet toml disk argument
    | some (.settingsReset, _) => self.recorderReset toml sections disk
    | _ =>
      let host := { host with config := Config.readFiles toml sections disk self.overlay }
      (self.state.desktopCommand host command, self.overlay)

def handle (self : Stored) (disk : SettingsDisk) : Event → Stored × List Observation
  | .command host command =>
    let (outcome, overlay) := self.desktopCommand toml sections disk host command
    (⟨{ outcome.state with nextProcess := self.state.nextProcess + 1 }, overlay⟩, outcome.observations)
  | event => (⟨(self.state.handle event).1, self.overlay⟩, (self.state.handle event).2)

/-- Every input comes with what the files are like when it is handled. -/
def step : Transition.Step Stored (SettingsDisk × Event) Observation := fun self input =>
  if self.state.panicked then (self, []) else self.handle toml sections input.1 input.2

/-- The compositor starts with the settings that it finds. -/
def Started (self : Stored) : Prop :=
  ∃ disk, self.state = AnvilState.initial (Config.readFiles toml sections disk self.overlay)

def Reachable (self : Stored) : Prop :=
  ∃ history, Transition.Run (step toml sections) Transition.unrestricted (Started toml sections) history self

variable {toml sections} {self : Stored} {disk : SettingsDisk} {host : Host} {command argument error : String}
variable {action : RecorderAction}

/-! ## Commands that fail -/

/-- Settings that cannot be written are in use all the same. -/
theorem recorderSet_failed (failed : (self.recorderSet toml disk argument).1.reply = .error error) :
    (self.recorderSet toml disk argument).2 = self.overlay ∧
      (self.recorderSet toml disk argument).1.state.desktop.config.recorder =
        (settingsChange self.state.desktop.config.recorder argument).toOption.getD
          self.state.desktop.config.recorder := by
  unfold recorderSet at failed ⊢
  cases changed : settingsChange self.state.desktop.config.recorder argument with
  | error refused => exact ⟨rfl, rfl⟩
  | ok recorder =>
    rw [changed] at failed
    dsimp only at failed ⊢
    rcases writeRecorderSettings_cases toml disk.write self.overlay recorder with ⟨_, written⟩ | ⟨_, _, written⟩
    · rw [written]
      exact ⟨rfl, rfl⟩
    · rw [written] at failed
      cases failed

/-- A settings file that could be removed is gone. -/
theorem recorderReset_failed (failed : (self.recorderReset toml sections disk).1.reply = .error error) :
    (self.recorderReset toml sections disk).1.state = self.state ∧
      (self.recorderReset toml sections disk).2 = if disk.remove = .ok () then none else self.overlay := by
  unfold recorderReset at failed ⊢
  rcases clearRecorderSettings_cases disk self.overlay with ⟨refused, _, kept, cleared⟩ | ⟨removed, cleared⟩
  · rw [cleared, kept]
    exact ⟨rfl, (if_neg nofun).symm⟩
  · rw [cleared] at failed ⊢
    rw [if_pos removed]
    dsimp only at failed ⊢
    split at failed
    · exact ⟨rfl, rfl⟩
    · cases failed

/-- What a settings command that fails has to meet: the session is locked; or `set`
asks for what is already in use, or for something that is refused; or
`settings-reset` cannot remove the file, or there is none. -/
def KeepsSettings (self : Stored) (disk : SettingsDisk) (argument : String) : RecorderAction → Prop
  | .settingsReset => self.state.lock.locked = true ∨ disk.remove ≠ .ok () ∨ self.overlay = none
  | _ => self.state.lock.locked = true ∨ ∀ recorder,
      settingsChange self.state.desktop.config.recorder argument = .ok recorder →
        recorder = self.state.desktop.config.recorder

theorem desktopCommand_request (named : AnvilState.recorderRequest command = some (action, argument))
    (unlocked : self.state.lock.locked = false) (settings : action = .set ∨ action = .settingsReset) :
    self.desktopCommand toml sections disk host command =
      if action = .set then self.recorderSet toml disk argument else self.recorderReset toml sections disk := by
  unfold desktopCommand
  rcases settings with rfl | rfl <;> simp only [unlocked, named] <;> rfl

/-- In every state a settings command that fails leaves the settings in use and the
settings file as they were exactly when it meets this condition. -/
theorem failed_keeps_settings_iff (named : AnvilState.recorderRequest command = some (action, argument))
    (settings : action = .set ∨ action = .settingsReset)
    (failed : (self.desktopCommand toml sections disk host command).1.reply = .error error) :
    ((self.desktopCommand toml sections disk host command).1.state.desktop.config.recorder =
        self.state.desktop.config.recorder ∧
      (self.desktopCommand toml sections disk host command).2 = self.overlay) ↔
    self.KeepsSettings disk argument action := by
  -- The session is locked, or the command gets to its two effects.
  cases locked : self.state.lock.locked with
  | true =>
    have refused : self.desktopCommand toml sections disk host command =
        (⟨.error "session is locked", self.state, []⟩, self.overlay) :=
      if_pos ⟨locked, AnvilState.recorderRequest_other named⟩
    rw [refused]
    refine iff_of_true ⟨rfl, rfl⟩ ?_
    rcases settings with rfl | rfl <;> exact .inl locked
  | false =>
    rw [desktopCommand_request named locked settings] at failed ⊢
    rcases settings with rfl | rfl
    · rw [if_pos rfl] at failed ⊢
      obtain ⟨kept, live⟩ := recorderSet_failed failed
      rw [kept, live]
      unfold KeepsSettings
      cases settingsChange self.state.desktop.config.recorder argument with
      | error refused => simp [Except.toOption]
      | ok recorder => simp [Except.toOption, locked]
    · rw [if_neg nofun] at failed ⊢
      obtain ⟨live, kept⟩ := recorderReset_failed failed
      rw [live, kept]
      unfold KeepsSettings
      by_cases removed : disk.remove = .ok ()
      · simp [locked, removed, eq_comm]
      · simp [removed]

/-- The compositor as it starts with a settings file. -/
def customized : Stored where
  state := AnvilState.initial (Config.readFiles shortDocuments (fun _ => .ok {}) {} (some "fps = 60"))
  overlay := some "fps = 60"

theorem customized_reachable : Reachable shortDocuments (fun _ => .ok {}) customized :=
  ⟨[], .start ⟨{}, rfl⟩⟩

def readOnly : SettingsDisk where
  write := { createDirectory := .error "Read-only file system (os error 30)" }
  remove := .error "Read-only file system (os error 30)"

def brokenBase : SettingsDisk := { base := .text "[recorder" }

/-- The file cannot be removed, and the settings in use stay with it. -/
theorem failed_keeps_settings_iff_readOnly :
    (customized.desktopCommand shortDocuments (fun _ => .ok {}) readOnly {}
        "recorder settings-reset").1.state.desktop.config.recorder = customized.state.desktop.config.recorder ∧
      (customized.desktopCommand shortDocuments (fun _ => .ok {}) readOnly {} "recorder settings-reset").2 =
        some "fps = 60" := by
  have named : AnvilState.recorderRequest "recorder settings-reset" = some (.settingsReset, "") := by decide
  have failed : (customized.desktopCommand shortDocuments (fun _ => .ok {}) readOnly {}
      "recorder settings-reset").1.reply =
        .error "failed to remove ~/.config/wm/recorder-settings.toml: Read-only file system (os error 30)" := by
    decide +kernel
  exact (failed_keeps_settings_iff named (.inr rfl) failed).mpr (.inr (.inl nofun))

/-- New settings stay in use when they cannot be written, and the settings file is
gone when the configuration file does not load. -/
theorem failed_settings_change : ∃ self, Reachable shortDocuments (fun _ => .ok {}) self ∧
    (self.desktopCommand shortDocuments (fun _ => .ok {}) readOnly {} "recorder set fps 30").1.reply =
      .error "failed to create ~/.config/wm: Read-only file system (os error 30)" ∧
    self.state.desktop.config.recorder.fps = 60 ∧
    (self.desktopCommand shortDocuments (fun _ => .ok {}) readOnly {}
      "recorder set fps 30").1.state.desktop.config.recorder.fps = 30 ∧
    (self.desktopCommand shortDocuments (fun _ => .ok {}) brokenBase {} "recorder settings-reset").1.reply =
      .error "expected an equals" ∧
    self.overlay = some "fps = 60" ∧
    (self.desktopCommand shortDocuments (fun _ => .ok {}) brokenBase {} "recorder settings-reset").2 = none :=
  ⟨customized, customized_reachable, by decide +kernel, by decide +kernel, by decide +kernel, by decide +kernel,
    rfl, by decide +kernel⟩

end Stored

end Luma.Compositor
