import Luma.Core.SettingsRestart
import Luma.Library.Fallible

/-! A change of one recorder setting: what it may change, and that a change which is rejected leaves no trace.

A key is said to name the field that is stored under it. The key `window_match` names the two
fields that identify a window.
-/

set_option autoImplicit false

namespace Luma.Core

open Luma.Library

namespace Recorder

/-- `apply` in place: the settings afterwards, and the value as stored or the error. -/
def applyInPlace (self : Recorder) (key value : String) : Recorder × Except String String :=
  checkedEdit (fun candidate => candidate.assign key value)
    (fun candidate => candidate.validateRecorder.mapError fun error =>
      s!"recorder {key}='{value}' rejected: {error}") self

/-- The fields that a key names. -/
def Names (key : String) (field : RecorderKey) : Prop :=
  field.label = key ∨ key = "window_match" ∧ (field = .windowAppId ∨ field = .windowTitle)

/-- A window whose app id is cleared is not remembered by its title either. -/
def Clears (key value : String) (field : RecorderKey) : Prop :=
  key = "window_app_id" ∧ (Text.trim value = "none" ∨ Text.trim value = "") ∧ field = .windowTitle

instance (key : String) (field : RecorderKey) : Decidable (Names key field) :=
  inferInstanceAs (Decidable (_ ∨ _))

/-! ## Settings as a table of fields -/

def set (self : Recorder) (field : RecorderKey) (value : field.Value) : Recorder :=
  build (Function.update self.get field value)

structure Update where
  field : RecorderKey
  value : field.Value

def setAll (self : Recorder) (updates : List Update) : Recorder :=
  updates.foldl (fun recorder update => recorder.set update.field update.value) self

variable {self candidate other : Recorder} {key value stored : String}

theorem get_set (self : Recorder) (field : RecorderKey) (value : field.Value) :
    (self.set field value).get = Function.update self.get field value := get_build _

theorem eq_of_get {first second : Recorder} (same : ∀ field, first.get field = second.get field) : first = second := by
  have table : first.get = second.get := funext same
  exact (ofPatch_get first).symm.trans ((congrArg (fun get => ofPatch fun field => some (get field)) table).trans
    (ofPatch_get second))

theorem get_setAll_other {updates : List Update} {field : RecorderKey}
    (untouched : ∀ update ∈ updates, update.field ≠ field) :
    (self.setAll updates).get field = self.get field := by
  induction updates generalizing self with
  | nil => rfl
  | cons update rest ih =>
      rw [List.forall_mem_cons] at untouched
      have first : (self.set update.field update.value).get field = self.get field := by
        rw [get_set, Function.update_of_ne untouched.1.symm]
      exact (ih untouched.2).trans first

/-- Only the fields that are not written matter for the outcome of the updates. -/
theorem setAll_congr {updates : List Update}
    (same : ∀ field, (∀ update ∈ updates, update.field ≠ field) → self.get field = other.get field) :
    self.setAll updates = other.setAll updates := by
  induction updates generalizing self other with
  | nil => exact eq_of_get fun field => same field fun _ absent => absurd absent List.not_mem_nil
  | cons update rest ih =>
      refine ih fun field untouched => ?_
      rw [get_set, get_set]
      by_cases is : field = update.field
      · subst is
        rw [Function.update_self, Function.update_self]
      · rw [Function.update_of_ne is, Function.update_of_ne is]
        exact same field (List.forall_mem_cons.mpr ⟨fun own => is own.symm, untouched⟩)

theorem setAll_again (updates : List Update) : (self.setAll updates).setAll updates = self.setAll updates :=
  setAll_congr fun _ untouched => get_setAll_other untouched

/-! ## What a key writes -/

/-- With the profiles as they are the key and the value write these fields, whatever the settings. -/
structure Writes (recorder : Recorder) (key value : String) (updates : List Update) (stored : String) : Prop where
  fields : ∀ update ∈ updates, (Names key update.field ∨ Clears key value update.field) ∧ update.field ≠ .gameProfiles
  assigned : ∀ other : Recorder, other.gameProfiles = recorder.gameProfiles →
    other.assign key value = .ok (other.setAll updates, stored)

/-- An arm that stores what it reads from the value. -/
theorem writes_parsed (field : RecorderKey) {parsed : Except String field.Value} (named : field.label = key)
    (settable : field ≠ .gameProfiles)
    (arm : ∀ other : Recorder,
      other.assign key value = (parsed >>= fun found => pure (other.set field found, Text.trim value)))
    (assigned : self.assign key value = .ok (candidate, stored)) : ∃ updates, Writes self key value updates stored := by
  rw [arm] at assigned
  simp only [Fallible.bind_ok, Fallible.pure_ok] at assigned
  obtain ⟨found, read, same⟩ := assigned
  cases same
  refine ⟨[⟨field, found⟩], by simp [Names, named, settable], fun other _ => ?_⟩
  rw [arm, read]
  rfl

/-- An arm that stores one value. -/
theorem writes_value (field : RecorderKey) (found : field.Value) (named : field.label = key)
    (settable : field ≠ .gameProfiles)
    (arm : ∀ other : Recorder, other.gameProfiles = self.gameProfiles →
      other.assign key value = .ok (other.set field found, stored)) : ∃ updates, Writes self key value updates stored :=
  ⟨[⟨field, found⟩], by simp [Names, named, settable], arm⟩

/-- What a key assigns depends on the settings only through the profiles, and stays within the fields of the key. -/
theorem assign_writes (assigned : self.assign key value = .ok (candidate, stored)) :
    ∃ updates, Writes self key value updates stored := by
  unfold assign at assigned
  dsimp only at assigned
  split at assigned
  · exact writes_parsed .enabled rfl (by decide) (fun _ => rfl) assigned
  · exact writes_parsed .hdr rfl (by decide) (fun _ => rfl) assigned
  · exact writes_parsed .cursor rfl (by decide) (fun _ => rfl) assigned
  · exact writes_parsed .screenFps rfl (by decide) (fun _ => rfl) assigned
  · exact writes_parsed .fps rfl (by decide) (fun _ => rfl) assigned
  · split at assigned
    · rename_i known
      cases assigned
      refine writes_value .codec value rfl (by decide) fun _ _ => ?_
      simp only [assign, known, if_true]
      rfl
    · cases assigned
  · exact writes_parsed .quality rfl (by decide) (fun _ => rfl) assigned
  · exact writes_parsed .outputWidth rfl (by decide) (fun _ => rfl) assigned
  · exact writes_parsed .outputHeight rfl (by decide) (fun _ => rfl) assigned
  · split at assigned
    · cases assigned
    · rename_i named
      cases assigned
      refine writes_value .outputDirectory (Text.trim value) rfl (by decide) fun _ _ => ?_
      simp only [assign, named, if_false]
      rfl
  · split at assigned
    · cases assigned
    · rename_i known
      cases assigned
      refine writes_value .container value rfl (by decide) fun _ _ => ?_
      simp only [assign, known, if_false]
      rfl
  · split at assigned
    · rename_i off
      cases assigned
      refine writes_value .desktopAudio "disabled" rfl (by decide) fun _ _ => ?_
      simp only [assign, off, if_true]
      rfl
    · rename_i device
      cases assigned
      refine writes_value .desktopAudio (Text.trim value) rfl (by decide) fun _ _ => ?_
      simp only [assign, device, if_false]
      rfl
  · split at assigned
    · rename_i off
      cases assigned
      refine writes_value .microphone "disabled" rfl (by decide) fun _ _ => ?_
      simp only [assign, off, if_true]
      rfl
    · rename_i device
      cases assigned
      refine writes_value .microphone (Text.trim value) rfl (by decide) fun _ _ => ?_
      simp only [assign, device, if_false]
      rfl
  · exact writes_parsed .replaySeconds rfl (by decide) (fun _ => rfl) assigned
  · exact writes_parsed .replayMaxMib rfl (by decide) (fun _ => rfl) assigned
  · split at assigned
    · rename_i known
      cases assigned
      refine writes_value .captureMode value rfl (by decide) fun _ _ => ?_
      simp only [assign, known, if_true]
      rfl
    · cases assigned
  · split at assigned
    · rename_i cleared
      cases assigned
      refine ⟨[⟨.windowAppId, ""⟩, ⟨.windowTitle, ""⟩], by simp [Names], fun _ _ => ?_⟩
      simp only [assign, cleared, if_true]
      rfl
    · rename_i identity
      cases assigned
      refine ⟨[⟨.windowAppId, Text.trim value⟩], by simp [Names], fun _ _ => ?_⟩
      simp only [assign, identity, if_false]
      rfl
  · split at assigned
    · rename_i cleared
      cases assigned
      have fields : Names "window_app_id" .windowAppId ∧ Clears "window_app_id" value .windowTitle :=
        ⟨.inl rfl, rfl, cleared, rfl⟩
      refine ⟨[⟨.windowAppId, ""⟩, ⟨.windowTitle, ""⟩], by simp [fields.1, fields.2], fun _ _ => ?_⟩
      simp only [assign, cleared, if_true]
      rfl
    · rename_i identity
      cases assigned
      refine writes_value .windowAppId (Text.trim value) rfl (by decide) fun _ _ => ?_
      simp only [assign, identity, if_false]
      rfl
  · split at assigned
    · rename_i cleared
      cases assigned
      refine writes_value .windowTitle "" rfl (by decide) fun _ _ => ?_
      simp only [assign, cleared, if_true]
      rfl
    · rename_i identity
      cases assigned
      refine writes_value .windowTitle (Text.trim value) rfl (by decide) fun _ _ => ?_
      simp only [assign, identity, if_false]
      rfl
  · split at assigned
    · rename_i cleared
      cases assigned
      refine writes_value .injectProcess "" rfl (by decide) fun _ _ => ?_
      simp only [assign, cleared, if_true]
      rfl
    · split at assigned
      · cases assigned
      · rename_i process short
        cases assigned
        refine writes_value .injectProcess (Text.trim value) rfl (by decide) fun _ _ => ?_
        simp only [assign, process, short, if_false]
        rfl
  · split at assigned
    · rename_i cleared
      cases assigned
      refine writes_value .gameProfile "" rfl (by decide) fun _ _ => ?_
      simp only [assign, cleared, if_true]
      rfl
    · split at assigned
      · rename_i profile known
        cases assigned
        refine writes_value .gameProfile (Text.trim value) rfl (by decide) fun other same => ?_
        have listed : (other.gameProfiles.any (·.name == Text.trim value)) = true := by rw [same, known]
        simp only [assign, profile, listed, if_true, if_false]
        rfl
      · cases assigned
  · cases assigned

theorem assign_eq {updates : List Update} (assigned : self.assign key value = .ok (candidate, stored))
    (writes : Writes self key value updates stored) : candidate = self.setAll updates := by
  have same := assigned.symm.trans (writes.assigned self rfl)
  cases same
  rfl

/-- A setting that has been assigned is assigned again without effect. -/
theorem assign_again (assigned : self.assign key value = .ok (candidate, stored)) :
    candidate.assign key value = .ok (candidate, stored) := by
  obtain ⟨updates, writes⟩ := assign_writes assigned
  obtain rfl := assign_eq assigned writes
  have profiles : (self.setAll updates).get .gameProfiles = self.get .gameProfiles :=
    get_setAll_other fun update there => (writes.fields update there).2
  rw [writes.assigned _ profiles, setAll_again]

theorem assign_frame (assigned : self.assign key value = .ok (candidate, stored)) {field : RecorderKey}
    (unnamed : ¬Names key field) (kept : ¬Clears key value field) : candidate.get field = self.get field := by
  obtain ⟨updates, writes⟩ := assign_writes assigned
  obtain rfl := assign_eq assigned writes
  refine get_setAll_other fun update there is => ?_
  subst is
  exact (writes.fields update there).1.elim unnamed kept

/-- A change that is rejected leaves the settings as they were. One that is accepted leaves settings that are
valid, touches only the fields of its key, and is accepted again without effect. -/
theorem applyInPlace_guarded (self : Recorder) (key value : String) :
    (∀ error, (self.applyInPlace key value).2 = .error error → (self.applyInPlace key value).1 = self) ∧
      ∀ after stored, self.applyInPlace key value = (after, .ok stored) →
        after.validateRecorder = .ok () ∧
          (∀ field, ¬Names key field → ¬Clears key value field → after.get field = self.get field) ∧
          after.applyInPlace key value = (after, .ok stored) := by
  refine ⟨fun error failed => checkedEdit.eq_of_error failed, fun after stored applied => ?_⟩
  obtain ⟨assigned, checked⟩ := checkedEdit.ok_iff.mp applied
  have valid : after.validateRecorder = .ok () := by
    cases result : after.validateRecorder with
    | error error =>
        rw [result] at checked
        cases checked
    | ok => rfl
  exact ⟨valid, fun _ unnamed kept => assign_frame assigned unnamed kept, checkedEdit.again assign_again applied⟩

/-- The app id of a window takes its title with it when it is cleared. -/
theorem applyInPlace_clears_title : ¬∀ (self after : Recorder) (key value stored : String),
    self.validateRecorder = .ok () → self.applyInPlace key value = (after, .ok stored) →
      ∀ field, ¬Names key field → after.get field = self.get field := by
  intro framed
  have before : validateRecorder { windowAppId := "game", windowTitle := "lobby" } = .ok () := by decide
  have kept := framed { windowAppId := "game", windowTitle := "lobby" } {} "window_app_id" "none" "none" before
    (by decide) .windowTitle (by decide)
  exact absurd kept (by decide)

end Recorder

end Luma.Core
