import Luma.Shell.RecorderPanel

/-! Where the text edits of the recorder panel end up. -/

set_option autoImplicit false

namespace Luma.Shell

open Luma.Library Luma.Core

/-- The setting whose row the edit was opened on. -/
def RecorderEdit.target (self : RecorderEdit) : Option String :=
  match self.kind with
  | .path => some "output_directory"
  | .identity => RecorderPanel.rememberedKey self.method
  | _ => none

/-- The only setting that changes is the one whose row the edit was opened on. -/
def RecorderEdit.Reaches (self : RecorderEdit) (commands : List (String × String)) : Prop :=
  commands = [] ∨ ∃ key, self.target = some key ∧ commands = [(key, Text.trim self.buffer)]

namespace RecorderPanel

variable {lowercase : String → String} {self after : RecorderPanel} {outputs : List RecorderPanelOutput}
variable {input : RecorderPanelInput} {edit : RecorderEdit} {commands : List (String × String)}

def CommitsRight (outputs : List RecorderPanelOutput) : Prop :=
  ∀ edit commands, .commit edit commands ∈ outputs → edit.Reaches commands

/-- The row that is selected is the one of the remembered target, and the capture method still has the same setting for
it, or none. -/
def OnTarget (self : RecorderPanel) (edit : RecorderEdit) : Prop :=
  self.rowKinds[self.settingsRow]? = some .identity ∧
    (rememberedKey self.settings.captureMode = none ∨
      rememberedKey self.settings.captureMode = rememberedKey edit.method)

/-- A remembered target that is not blank is committed on its row, under the setting that it was opened for. -/
def Steady (self : RecorderPanel) : RecorderPanelInput → Prop
  | .key .ret => self.view = .settings → ∀ edit, self.pathEdit = some edit → edit.kind = .identity →
      Text.trim edit.buffer ≠ "" → self.OnTarget edit
  | _ => True

/-- Edits are open on the tab that has their row. -/
def Placed (self : RecorderPanel) : Prop :=
  ∀ edit, self.pathEdit = some edit → edit.kind = .path ∧ self.settingsTab = .output ∨
    edit.kind = .identity ∧ self.settingsTab = .capture

/-- Nothing is committed, and an edit that stays open stays on its tab. -/
structure Quiet (before : RecorderPanel) (result : RecorderPanel × List RecorderPanelOutput) : Prop where
  silent : ∀ edit commands, .commit edit commands ∉ result.2
  placed : Placed before → Placed result.1

/-! ## What each function leaves alone -/

theorem path_tab {tab : RecorderSettingsTab} {row : Nat} (here : (recorderSettingsRows tab)[row]? = some .path) :
    tab = .output := by
  have listed := List.mem_of_getElem? here
  cases tab <;> first | rfl | exact absurd listed (by decide)

theorem identity_tab {tab : RecorderSettingsTab} {row : Nat}
    (here : (recorderSettingsRows tab)[row]? = some .identity) : tab = .capture := by
  have listed := List.mem_of_getElem? here
  cases tab <;> first | rfl | exact absurd listed (by decide)

theorem Placed.same (placed : Placed self) (edit : after.pathEdit = self.pathEdit)
    (tab : after.settingsTab = self.settingsTab) : Placed after := by
  unfold Placed
  rw [edit, tab]
  exact placed

theorem Placed.closed (closed : after.pathEdit = none) : Placed after := by
  intro edit open_
  rw [closed] at open_
  cases open_

/-- The panel with another cursor or message. -/
theorem Quiet.of_same (edit : after.pathEdit = self.pathEdit) (tab : after.settingsTab = self.settingsTab)
    (silent : ∀ edit commands, .commit edit commands ∉ outputs) : Quiet self (after, outputs) :=
  ⟨silent, fun placed => placed.same edit tab⟩

theorem Quiet.of_closed (closed : after.pathEdit = none) : Quiet self (after, []) :=
  ⟨fun _ _ => List.not_mem_nil, fun _ => .closed closed⟩

theorem Quiet.trans {result : RecorderPanel × List RecorderPanelOutput} (quiet : Quiet after result)
    (edit : after.pathEdit = self.pathEdit) (tab : after.settingsTab = self.settingsTab) : Quiet self result :=
  ⟨quiet.silent, fun placed => quiet.placed (placed.same edit tab)⟩

theorem sendRecorderCommands_quiet (self : RecorderPanel) (commands : List (String × String)) :
    Quiet self (self.sendRecorderCommands commands) :=
  .of_same rfl rfl (by simp)

theorem applyRecorderAdjustment_quiet (self : RecorderPanel) (direction : Int) :
    Quiet self (self.applyRecorderAdjustment direction) := by
  unfold applyRecorderAdjustment
  split
  · exact .of_same rfl rfl (by simp)
  · exact sendRecorderCommands_quiet self _
  · exact .of_same rfl rfl (by simp)

theorem rememberCurrentRecorderSource_quiet (self : RecorderPanel) : Quiet self self.rememberCurrentRecorderSource := by
  unfold rememberCurrentRecorderSource
  split
  · exact .of_same rfl rfl (by simp)
  · exact sendRecorderCommands_quiet self _

theorem startStop_quiet (self : RecorderPanel) (lowercase : String → String) :
    Quiet self (self.startStop lowercase) := by
  unfold startStop
  split
  · exact .of_same rfl rfl (by simp)
  · split
    · split <;> exact .of_same rfl rfl (by simp)
    · exact .of_same rfl rfl (by simp)

/-- An edit begins on a row of the current tab. -/
theorem activateRow_quiet (self : RecorderPanel) {kind : Option RecorderRowKind} {row : Nat}
    (here : ∀ listed, kind = some listed → self.rowKinds[row]? = some listed) (direction : Int) :
    Quiet self (self.activateRow kind direction) := by
  unfold activateRow
  split
  · refine ⟨by simp, ?_⟩
    rintro - edit ⟨⟩
    exact .inl ⟨rfl, path_tab (here _ rfl)⟩
  · refine ⟨by simp, ?_⟩
    rintro - edit ⟨⟩
    exact .inr ⟨rfl, identity_tab (here _ rfl)⟩
  · exact rememberCurrentRecorderSource_quiet self
  · exact applyRecorderAdjustment_quiet self direction

theorem editable_here {kind : RecorderRowKind} (editable : self.recorderEditableRowKind = some kind) :
    self.rowKinds[self.settingsRow]? = some kind :=
  (Option.filter_eq_some_iff.mp editable).1

theorem activateRecorderHit_quiet (self : RecorderPanel) (lowercase : String → String) (hit : RecorderHit) :
    Quiet self (self.activateRecorderHit lowercase hit) := by
  cases hit with
  | startStop => exact startStop_quiet self lowercase
  | pause => exact .of_same rfl rfl (by split <;> simp)
  | replaySave => exact .of_same rfl rfl (by split <;> simp)
  | settings => exact .of_same rfl rfl (by simp)
  | closeSettings => exact .of_same rfl rfl (by simp)
  | resetSettings => exact .of_same rfl rfl (by simp)
  | tab index =>
    unfold activateRecorderHit
    simp only
    split
    · exact .of_same rfl rfl (by simp)
    · exact .of_closed rfl
  | row index part =>
    unfold activateRecorderHit
    simp only
    split
    · exact .of_same rfl rfl (by simp)
    · split
      · exact .of_same rfl rfl (by simp)
      · exact .of_same rfl rfl (by simp)
      · exact (applyRecorderAdjustment_quiet _ _).trans rfl rfl
      -- The edit that such a click opens is one of what the row is.
      · rename_i kind _ _ here
        have listed : ∀ listed, some kind = some listed → self.rowKinds[index]? = some listed := by
          rintro listed ⟨⟩
          exact here
        exact (activateRow_quiet { self with settingsRow := index } listed _).trans rfl rfl

theorem moveRecorderSelection_quiet (self : RecorderPanel) (forward : Bool) :
    Quiet self (self.moveRecorderSelection forward, []) := by
  unfold moveRecorderSelection
  split <;> exact .of_same rfl rfl (by simp)

theorem controlsKey_quiet (self : RecorderPanel) (lowercase : String → String) (key : RecorderKey) :
    Quiet self (self.controlsKey lowercase key) := by
  cases key with
  | escape => exact .of_same rfl rfl (by simp)
  | tab => exact .of_same rfl rfl (by simp)
  | up => exact moveRecorderSelection_quiet self false
  | down => exact moveRecorderSelection_quiet self true
  | left => exact .of_same rfl rfl (by simp)
  | right => exact .of_same rfl rfl (by simp)
  | ret => exact startStop_quiet self lowercase
  | backSpace => exact .of_same rfl rfl (by simp)
  | space => exact .of_same rfl rfl (by simp)
  | other utf8 => exact .of_same rfl rfl (by simp)

/-- Another text of the same edit. -/
theorem retype_quiet (self : RecorderPanel) (retype : RecorderEdit → String) :
    Quiet self ({ self with pathEdit := self.pathEdit.map fun edit => { edit with buffer := retype edit } }, []) := by
  refine ⟨by simp, ?_⟩
  intro placed edit open_
  obtain ⟨old, opened, rfl⟩ := Option.map_eq_some_iff.mp open_
  exact placed old opened

theorem settingsKey_quiet (self : RecorderPanel) {key : RecorderKey}
    (other : key = .ret → self.pathEdit = none) : Quiet self (self.settingsKey key) := by
  cases key with
  | escape =>
    unfold settingsKey
    simp only
    split
    · exact .of_closed rfl
    · exact .of_same rfl rfl (by simp)
  | tab => exact .of_closed rfl
  | up => exact .of_closed rfl
  | down => exact .of_closed rfl
  | left => exact applyRecorderAdjustment_quiet self (-1)
  | right => exact applyRecorderAdjustment_quiet self 1
  | ret =>
    have none_ : ¬self.pathEdit.isSome = true := by simp [other rfl]
    unfold settingsKey
    simp only
    rw [if_neg none_]
    exact activateRow_quiet self (fun listed editable => editable_here editable) 1
  | backSpace => exact retype_quiet self fun edit => String.ofList edit.buffer.toList.dropLast
  | space => exact .of_same rfl rfl (by simp)
  | other utf8 =>
    unfold settingsKey
    cases utf8 with
    | none => exact .of_same rfl rfl (by simp)
    | some text => exact retype_quiet self fun edit => edit.buffer ++ text

theorem restore_same (self : RecorderPanel) (lowercase : String → String) :
    (self.restoreRecorderSelection lowercase).pathEdit = self.pathEdit ∧
      (self.restoreRecorderSelection lowercase).settingsTab = self.settingsTab := by
  unfold restoreRecorderSelection
  simp only
  split <;> exact ⟨rfl, rfl⟩

theorem takeSnapshot_quiet (self : RecorderPanel) (lowercase : String → String) (settings : Recorder)
    (windows : List WindowInfo) (state : RecorderState) :
    Quiet self (self.takeSnapshot lowercase settings windows state, []) := by
  have restored : ∀ taken : RecorderPanel, taken.pathEdit = self.pathEdit → taken.settingsTab = self.settingsTab →
      Quiet self ({ taken.restoreRecorderSelection lowercase with selectionRestored := true }, []) := by
    intro taken edit tab
    have same := restore_same taken lowercase
    exact .of_same (same.1.trans edit) (same.2.trans tab) (by simp)
  unfold takeSnapshot
  simp only
  split
  · exact .of_same rfl rfl (by simp)
  · exact restored _ rfl rfl

/-- Only the enter key in the settings view ends an edit. -/
theorem step_cases (lowercase : String → String) (self : RecorderPanel) (input : RecorderPanelInput) :
    Quiet self (step lowercase self input) ∨ input = .key .ret ∧ self.view = .settings ∧
      (∃ edit, self.pathEdit = some edit) ∧ step lowercase self input = self.commitRecorderTextEdit := by
  cases input with
  | key key =>
    by_cases view : self.view = .settings
    · by_cases commits : key = .ret ∧ self.pathEdit.isSome = true
      · obtain ⟨rfl, open_⟩ := commits
        refine .inr ⟨rfl, view, Option.isSome_iff_exists.mp open_, ?_⟩
        exact (if_pos view).trans (if_pos open_)
      · refine .inl ?_
        have same : step lowercase self (.key key) = self.settingsKey key := if_pos view
        rw [same]
        refine settingsKey_quiet self ?_
        rintro rfl
        exact Option.not_isSome_iff_eq_none.mp fun open_ => commits ⟨rfl, open_⟩
    · have same : step lowercase self (.key key) = self.controlsKey lowercase key := if_neg view
      exact .inl (same ▸ controlsKey_quiet self lowercase key)
  | click hit =>
    cases hit with
    | none => exact .inl (.of_same rfl rfl (by simp))
    | some hit => exact .inl (activateRecorderHit_quiet self lowercase hit)
  | snapshot settings windows state => exact .inl (takeSnapshot_quiet self lowercase settings windows state)
  | answer error => cases error <;> exact .inl (.of_same rfl rfl (by simp))
  | processes targets => exact .inl (.of_same rfl rfl (by simp))

/-! ## Commits -/

/-- What an edit sends at its end. -/
def committed (self : RecorderPanel) (edit : RecorderEdit) : List (String × String) :=
  if Text.trim edit.buffer = "" then []
  else if self.rowKinds[self.settingsRow]? = some .identity then
    match rememberedKey self.settings.captureMode with
    | some key => [(key, Text.trim edit.buffer)]
    | none => []
  else [("output_directory", Text.trim edit.buffer)]

theorem editable_identity : self.recorderEditableRowKind = some .identity ↔
    self.rowKinds[self.settingsRow]? = some .identity := by
  unfold recorderEditableRowKind
  rw [Option.filter_eq_some_iff]
  exact and_iff_left rfl

theorem commit_eq (open_ : self.pathEdit = some edit) : self.commitRecorderTextEdit.1.pathEdit = none ∧
    self.commitRecorderTextEdit.2 = [.commit edit (self.committed edit)] := by
  have same : { self with pathEdit := none }.recorderEditableRowKind = self.recorderEditableRowKind := rfl
  unfold commitRecorderTextEdit committed
  simp only [open_, same, editable_identity]
  by_cases blank : Text.trim edit.buffer = ""
  · simp only [if_pos blank]
    split <;> exact ⟨rfl, rfl⟩
  · simp only [if_neg blank]
    split
    · cases rememberedKey self.settings.captureMode <;> exact ⟨rfl, rfl⟩
    · exact ⟨rfl, rfl⟩

theorem rememberedKey_ne (method : String) : rememberedKey method ≠ some "output_directory" := by
  unfold rememberedKey
  split <;> decide

/-- A path is committed as the path, wherever the cursor is. -/
theorem committed_path (placed : Placed self) (open_ : self.pathEdit = some edit) (path : edit.kind = .path) :
    edit.Reaches (self.committed edit) := by
  have tab : self.settingsTab = .output := by
    rcases placed edit open_ with ⟨-, tab⟩ | ⟨impossible, -⟩
    · exact tab
    · cases path.symm.trans impossible
  have elsewhere : self.rowKinds[self.settingsRow]? ≠ some .identity := by
    intro here
    cases tab.symm.trans (identity_tab here)
  unfold committed
  rw [if_neg elsewhere]
  split
  · exact .inl rfl
  · refine .inr ⟨"output_directory", ?_, rfl⟩
    rw [RecorderEdit.target, path]

theorem committed_identity (identity : edit.kind = .identity) :
    edit.Reaches (self.committed edit) ↔ (Text.trim edit.buffer ≠ "" → self.OnTarget edit) := by
  have target : edit.target = rememberedKey edit.method := by rw [RecorderEdit.target, identity]
  unfold committed RecorderEdit.Reaches OnTarget
  rw [target]
  by_cases blank : Text.trim edit.buffer = ""
  · rw [if_pos blank]
    exact iff_of_true (.inl rfl) fun full => absurd blank full
  rw [if_neg blank]
  -- Any other row under the cursor sends the text to the recording path.
  by_cases here : self.rowKinds[self.settingsRow]? = some .identity
  · rw [if_pos here]
    cases live : rememberedKey self.settings.captureMode with
    | none => exact iff_of_true (.inl rfl) fun _ => ⟨here, .inl rfl⟩
    | some key =>
      constructor
      · rintro (impossible | ⟨other, opened, same⟩) _
        · cases impossible
        · cases same
          exact ⟨here, .inr opened.symm⟩
      · intro on
        refine .inr ⟨key, ?_, rfl⟩
        exact ((on blank).2.resolve_left (by simp)).symm
  · rw [if_neg here]
    constructor
    · rintro (impossible | ⟨other, opened, same⟩) _
      · cases impossible
      · cases same
        exact absurd opened (rememberedKey_ne edit.method)
    · intro on
      exact absurd (on blank).1 here

theorem commitsRight_iff (placed : Placed self) (lowercase : String → String) (input : RecorderPanelInput) :
    CommitsRight (step lowercase self input).2 ↔ self.Steady input := by
  -- Only a commit can send a text to the wrong place.
  by_cases commits : input = .key .ret ∧ self.view = .settings ∧ ∃ edit, self.pathEdit = some edit
  · obtain ⟨rfl, view, edit, open_⟩ := commits
    have same : step lowercase self (.key .ret) = self.commitRecorderTextEdit := by
      have ends : self.pathEdit.isSome = true := by rw [open_]; rfl
      exact (if_pos view).trans (if_pos ends)
    have only : CommitsRight (step lowercase self (.key .ret)).2 ↔ edit.Reaches (self.committed edit) := by
      rw [same, (commit_eq open_).2]
      constructor
      · exact fun right => right edit _ (List.mem_singleton.mpr rfl)
      · intro right other commands there
        cases List.mem_singleton.mp there
        exact right
    rw [only]
    rcases placed edit open_ with ⟨kind, -⟩ | ⟨kind, -⟩
    · refine iff_of_true (committed_path placed open_ kind) ?_
      intro _ other opened identity
      cases open_.symm.trans opened
      cases kind.symm.trans identity
    · rw [committed_identity kind]
      constructor
      · intro right _ other opened _
        cases open_.symm.trans opened
        exact right
      · exact fun steady => steady view edit open_ kind
  · have quiet : Quiet self (step lowercase self input) := by
      rcases step_cases lowercase self input with quiet | ⟨key, view, open_, -⟩
      · exact quiet
      · exact absurd ⟨key, view, open_⟩ commits
    refine iff_of_true (fun edit commands there => absurd there (quiet.silent edit commands)) ?_
    unfold Steady
    split
    · exact fun view edit open_ => absurd ⟨rfl, view, edit, open_⟩ commits
    · trivial

theorem Placed.step (placed : Placed self) (lowercase : String → String) (input : RecorderPanelInput) :
    Placed (step lowercase self input).1 := by
  rcases step_cases lowercase self input with quiet | ⟨-, -, ⟨edit, open_⟩, same⟩
  · exact quiet.placed placed
  · rw [same]
    exact .closed (commit_eq open_).1

/-- No edit is open. -/
def Initial (panel : RecorderPanel) : Prop := panel.pathEdit = none

variable {history : List RecorderPanelOutput}

theorem placed_of_run
    {allowed : Transition.Condition RecorderPanel RecorderPanelInput RecorderPanelOutput}
    (run : Transition.Run (step lowercase) allowed Initial history self) : Placed self :=
  run.state_invariant (fun _ closed => .closed closed) fun _ _ input _ placed => placed.step lowercase input

theorem CommitsRight.append {earlier : List RecorderPanelOutput} (now : CommitsRight outputs)
    (before : CommitsRight earlier) : CommitsRight (outputs ++ earlier) := by
  intro edit commands there
  rcases List.mem_append.mp there with new | old
  · exact now edit commands new
  · exact before edit commands old

/-- A step that commits sends nothing but the commands of the edit that is open. -/
theorem commit_alone (there : .commit edit commands ∈ (step lowercase self input).2) :
    self.pathEdit = some edit ∧ (step lowercase self input).2 = [.commit edit commands] := by
  rcases step_cases lowercase self input with quiet | ⟨-, -, ⟨opened, open_⟩, same⟩
  · exact absurd there (quiet.silent edit commands)
  · rw [same, (commit_eq open_).2] at there ⊢
    cases List.mem_singleton.mp there
    exact ⟨open_, rfl⟩

/-- An edit reaches the setting whose row it was opened on in exactly the steps that meet the condition, and so in
every run of such steps. -/
theorem edits_reach_target (lowercase : String → String) :
    (∀ history panel input, Transition.Run (step lowercase) Transition.unrestricted Initial history panel →
        (CommitsRight (step lowercase panel input).2 ↔ panel.Steady input)) ∧
      (∀ history panel, Transition.Run (step lowercase) (fun _ => Steady) Initial history panel →
        CommitsRight history) ∧
        ∀ panel input edit commands, .commit edit commands ∈ (step lowercase panel input).2 →
          panel.pathEdit = some edit ∧ (step lowercase panel input).2 = [.commit edit commands] := by
  refine ⟨?_, ?_, fun panel input edit commands => commit_alone⟩
  · intro history panel input run
    exact commitsRight_iff (placed_of_run run) lowercase input
  · intro history panel run
    induction run with
    | start begun => exact fun edit commands there => absurd there List.not_mem_nil
    | step input before steady ih =>
      exact .append ((commitsRight_iff (placed_of_run before) lowercase input).mpr steady) ih

/-- The remembered target is edited, and the cursor moved by a click before the edit ends. -/
def clickedAway : List RecorderPanelInput :=
  [.click (some .settings), .click (some (.tab 1)), .click (some (.row 1 .value)), .key (.other (some "x")),
    .click (some (.row 3 .value)), .key .ret]

/-- The text becomes the recording path. -/
theorem clickedAway_path : ¬∀ history panel,
    Transition.Run (step id) Transition.unrestricted Initial history panel → CommitsRight history := by
  intro right
  have start : Transition.Run (step id) Transition.unrestricted Initial [] {} := .start rfl
  have run := start.execute clickedAway (Transition.permits_unrestricted _ _ _ _)
  have told : .commit { buffer := "x", kind := .identity, method := "screen" } [("output_directory", "x")] ∈
      (Transition.execute (step id) {} clickedAway).2 ++ [] := by decide
  rcases right _ _ run _ _ told with impossible | ⟨key, target, same⟩
  · cases impossible
  · have named : "output_directory" = key := congrArg Prod.fst (List.cons.inj same).1
    subst named
    exact rememberedKey_ne "screen" target

end RecorderPanel

end Luma.Shell
