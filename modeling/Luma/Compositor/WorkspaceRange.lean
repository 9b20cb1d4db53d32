import Luma.Compositor.PolicyChanges

/-! Workspace numbers stay within the configured range.

Commands check the number they are given, and rules are checked when they are
loaded. Two steps check nothing: a reload may lower the bound under numbers in
use, and the maintenance pass hands out numbers up to nine whatever the bound.
-/

set_option autoImplicit false

namespace Luma.Compositor

open Luma.Library Luma.Core Luma.Library.Assignment

namespace Desktop

/-- A number that a `workspace` command accepts. -/
def Admits (self : Desktop) (workspace : Nat) : Prop :=
  1 ≤ workspace ∧ workspace ≤ self.config.layout.workspaces

/-- Every number in use is one that a command accepts. -/
def InRange (self : Desktop) : Prop :=
  (∀ name workspace, shows self.outputs name = some workspace → self.Admits workspace) ∧
    ∀ window ∈ self.windows, self.Admits window.workspace

/-- Numbers in use and numbers that the configuration can bring into use. -/
structure Ranged (desktop : Desktop) : Prop where
  bounds : 1 ≤ desktop.config.layout.workspaces ∧ desktop.config.layout.workspaces ≤ 9
  rules : ∀ rule ∈ desktop.config.rules, ∀ workspace, rule.workspace = some workspace → desktop.Admits workspace
  outputs : ∀ name workspace, shows desktop.outputs name = some workspace → desktop.Admits workspace
  windows : ∀ window ∈ desktop.windows, desktop.Admits window.workspace

variable {self after : Desktop} {change : Change}

theorem Kept.admits (kept : Kept self after) {workspace : Nat} : after.Admits workspace ↔ self.Admits workspace := by
  rw [Admits, Admits, kept.workspaces]

theorem Ranged.kept (ranged : Ranged self) (kept : Kept self after) : Ranged after where
  bounds := kept.workspaces ▸ ranged.bounds
  rules := by
    rw [kept.rules]
    exact fun rule there workspace names => (Kept.admits kept).mpr (ranged.rules rule there workspace names)
  outputs := by
    rw [kept.outputs]
    exact fun name workspace holds => (Kept.admits kept).mpr (ranged.outputs name workspace holds)
  windows := by
    intro window there
    obtain ⟨earlier, known, home⟩ := kept.windows window there
    rw [(Managed.home_eq home).2.1]
    exact (Kept.admits kept).mpr (ranged.windows earlier known)

theorem Ranged.workspaceOf (ranged : Ranged self) (name : String) : self.Admits (workspaceOf self.outputs name) := by
  rw [workspaceOf_eq]
  rcases holds : shows self.outputs name with - | workspace
  · exact ⟨Nat.le_refl 1, ranged.bounds.1⟩
  · exact ranged.outputs name workspace holds

theorem mem_setWindow {index : Nat} {change : Managed → Managed} {window : Managed}
    (there : window ∈ (self.setWindow index change).windows) :
    ∃ earlier ∈ self.windows, window = earlier ∨ window = change earlier := by
  obtain ⟨position, inside, rfl⟩ := List.mem_iff_getElem.mp there
  rw [setWindow, List.length_modify] at inside
  refine ⟨self.windows[position], List.getElem_mem inside, ?_⟩
  simp only [setWindow, List.getElem_modify]
  split
  · exact .inr rfl
  · exact .inl rfl

/-- Numbers are handed to windows and outputs that are there. -/
theorem Ranged.placing (ranged : Ranged self) {outputs : Outputs} {windows : List Managed}
    (shown : ∀ name workspace, shows outputs name = some workspace → self.Admits workspace)
    (lives : ∀ window ∈ windows, self.Admits window.workspace) :
    Ranged { self with outputs, windows } :=
  ⟨ranged.bounds, ranged.rules, shown, lives⟩

theorem Ranged.insert (ranged : Ranged self) (name : String) {workspace : Nat} (admits : self.Admits workspace) :
    ∀ other number, shows (self.outputs.insert name workspace) other = some number → self.Admits number := by
  intro other number holds
  rw [shows_insert] at holds
  by_cases placed : other = name
  · rw [placed, Function.update_self] at holds
    rw [← Option.some.inj holds]
    exact admits
  · rw [Function.update_of_ne placed] at holds
    exact ranged.outputs other number holds

/-- `send` gives the focused window the number it was told. -/
theorem Ranged.send (ranged : Ranged self) {index : Nat} {out : String} {workspace : Nat}
    (admits : self.Admits workspace) : Ranged (self.send (some index) out workspace) := by
  apply ranged.placing ranged.outputs
  intro window there
  obtain ⟨earlier, known, rfl | rfl⟩ := mem_setWindow there
  · exact ranged.windows window known
  · exact admits

theorem exchange_workspace (previous workspace : Nat) (other out : String) (window : Managed) :
    (exchange previous workspace other out window).workspace = window.workspace := by
  unfold exchange moveTo
  split
  · rfl
  · split <;> rfl

theorem moveTo_workspace (workspace : Nat) (out : String) (window : Managed) :
    (moveTo workspace out window).workspace = window.workspace := by
  unfold moveTo
  split <;> rfl

/-- `workspace` gives the previous number of one output to the other. -/
theorem Ranged.showWorkspace (ranged : Ranged self) {out : String} {workspace : Nat}
    (admits : self.Admits workspace) : Ranged (self.showWorkspace out workspace) := by
  rcases showWorkspace_cases self out workspace with ⟨-, placed⟩ | ⟨other, -, -, traded⟩
  · rw [placed]
    apply ranged.placing (ranged.insert out admits)
    intro window there
    obtain ⟨earlier, known, rfl⟩ := List.mem_map.mp there
    rw [moveTo_workspace]
    exact ranged.windows earlier known
  · rw [traded]
    have given := ranged.placing (ranged.insert other (ranged.workspaceOf out)) ranged.windows
    apply ranged.placing (given.insert out admits)
    intro window there
    obtain ⟨earlier, known, rfl⟩ := List.mem_map.mp there
    rw [Function.comp_apply, moveTo_workspace, exchange_workspace]
    exact ranged.windows earlier known

theorem Ranged.scratchpadSend (ranged : Ranged self) {index : Nat} :
    Ranged (self.scratchpadSend (some index)) := by
  apply ranged.placing ranged.outputs
  intro window there
  obtain ⟨earlier, known, rfl | rfl⟩ := mem_setWindow there
  · exact ranged.windows window known
  · exact ranged.windows earlier known

theorem Ranged.scratchpadShow (ranged : Ranged self) {out : String} : Ranged (self.scratchpadShow out) := by
  unfold Desktop.scratchpadShow
  split
  · exact ranged
  · apply ranged.placing ranged.outputs
    intro window there
    obtain ⟨earlier, known, rfl | rfl⟩ := mem_setWindow there
    · exact ranged.windows window known
    · exact ranged.workspaceOf out

/-- What rules and outputs can give to a new window. -/
theorem arrival_workspace (self : Desktop) (names : List String) (active app title : String) (floating : Bool)
    {holds : Nat → Prop} (ruled : ∀ rule ∈ self.config.rules, ∀ workspace, rule.workspace = some workspace → holds workspace)
    (shown : ∀ name, holds (workspaceOf self.outputs name)) :
    holds (self.arrival names active app title floating).workspace := by
  have general : ∀ (rules : List WindowRule) (arrival : Arrival), (∀ rule ∈ rules, rule ∈ self.config.rules) →
      holds arrival.workspace → holds (rules.foldl (applyRule names self.outputs) arrival).workspace := by
    intro rules
    induction rules with
    | nil => exact fun _ _ held => held
    | cons rule rules ih =>
      intro arrival known held
      apply ih _ fun other there => known other (List.mem_cons_of_mem _ there)
      unfold applyRule
      rcases named : rule.workspace with - | workspace
      · -- The rule names an output at most, whose workspace the window takes.
        dsimp only [Option.getD_none]
        split
        · split
          · exact shown _
          · exact held
        · exact held
      · exact ruled rule (known rule List.mem_cons_self) workspace named
  exact general _ _ (fun rule there => List.mem_of_mem_filter there) (shown active)

end Desktop

namespace AnvilState

variable {self : AnvilState} {change : Change}

/-- The outputs that get a number find one that commands accept. -/
def Numbered (self : AnvilState) (shown : String → Option Nat) : Prop :=
  self.desktop.config.layout.workspaces = 9 ∨ (missing self.outputNames shown).length ≤
    (unheld (List.range' 1 self.desktop.config.layout.workspaces) self.outputNames shown).length

/-- A reload keeps every number in use, and a pass has numbers for the outputs that lack one. -/
def Fits (self : AnvilState) : Change → Prop
  | .reload config => (∀ name workspace, Desktop.shows self.desktop.outputs name = some workspace →
        workspace ≤ config.layout.workspaces) ∧
      ∀ window ∈ self.desktop.windows, window.workspace ≤ config.layout.workspaces
  | .maintain => self.Numbered (Desktop.shows self.desktop.outputs)
  | .focus window => self.Numbered
      (Function.update (Desktop.shows self.desktop.outputs) window.output (some window.workspace))
  | _ => True

open Desktop in
theorem apply_ranged (ranged : Ranged self.desktop) (proper : change.Proper self.desktop) (fits : self.Fits change) :
    Ranged (change.apply self.desktop) := by
  cases change with
  | keep | maintain => exact ranged
  | reload config =>
    refine ⟨Config.validate_workspaces proper, fun _ there _ names => Config.validate_rules proper there names, ?_, ?_⟩
    · exact fun name workspace holds => ⟨(ranged.outputs name workspace holds).1, fits.1 name workspace holds⟩
    · exact fun window there => ⟨(ranged.windows window there).1, fits.2 window there⟩
  | send index out workspace => exact ranged.send proper
  | workspace out workspace => exact ranged.showWorkspace proper
  | stash index => exact ranged.scratchpadSend
  | unstash window out => exact ranged.scratchpadShow
  | focus window => exact ranged.placing (ranged.insert _ (ranged.windows window proper)) ranged.windows

/-- Numbers that are handed out in order come from the front of the pool. -/
theorem numbered_fresh {shown : String → Option Nat} (numbered : self.Numbered shown)
    (bounds : 1 ≤ self.desktop.config.layout.workspaces ∧ self.desktop.config.layout.workspaces ≤ 9)
    {pair : String × Nat}
    (there : pair ∈ (missing self.outputNames shown).zip (unheld Desktop.pool self.outputNames shown)) :
    self.desktop.Admits pair.2 := by
  rcases numbered with nine | room
  · obtain ⟨-, member, -⟩ := zip_fresh pair there
    rw [Desktop.Admits, nine]
    exact Desktop.mem_pool.mp member
  · set bound := self.desktop.config.layout.workspaces with bounded
    have split : Desktop.pool = List.range' 1 bound ++ List.range' (1 + bound) (9 - bound) := by
      rw [Desktop.pool, List.range'_append_1]
      congr 1
      omega
    have first : unheld Desktop.pool self.outputNames shown =
        unheld (List.range' 1 bound) self.outputNames shown ++
          unheld (List.range' (1 + bound) (9 - bound)) self.outputNames shown := by
      rw [split]
      exact List.filter_append ..
    rw [first, ← List.append_nil (missing self.outputNames shown)] at there
    have inside : pair.2 ∈ unheld (List.range' 1 bound) self.outputNames shown := by
      rw [List.append_nil, List.zip_eq_zip_take_min, List.take_append_of_le_length (by simp; omega)] at there
      exact List.mem_of_mem_take (List.of_mem_zip (a := pair.1) (b := pair.2) there).2
    have member := (mem_unheld.mp inside).1
    rw [List.mem_range'_1] at member
    exact ⟨by omega, by omega⟩

theorem numbered_room {shown : String → Option Nat} (numbered : self.Numbered shown)
    (bounds : self.desktop.config.layout.workspaces ≤ 9)
    (few : self.desktop.config.layout.workspaces ≠ 9) :
    (missing self.outputNames shown).length ≤ (unheld Desktop.pool self.outputNames shown).length := by
  have room := numbered.resolve_left few
  apply Nat.le_trans room
  apply List.Sublist.length_le
  apply List.Sublist.filter
  exact List.range'_sublist_right.mpr bounds

/-- What the outputs show after the pass is in range. -/
theorem nextOutputs_ranged (ranged : Desktop.Ranged self.desktop) (distinct : self.outputNames.Nodup)
    (numbered : self.Numbered (Desktop.shows self.desktop.outputs)) {name : String} {workspace : Nat}
    (holds : Desktop.shows self.nextOutputs name = some workspace) : self.desktop.Admits workspace := by
  by_cases nine : self.desktop.config.layout.workspaces = 9
  · rcases Desktop.assignMissing_cases holds with old | fresh
    · rw [Desktop.shows_retainConnected] at old
      exact ranged.outputs name workspace (restrict_some.mp old).2
    · rw [Desktop.Admits, nine]
      exact Desktop.mem_pool.mp fresh
  · rw [nextOutputs, Desktop.shows_maintained distinct (numbered_room numbered ranged.bounds.2 nine)] at holds
    rcases (plan_cases holds).2 with old | fresh
    · exact ranged.outputs name workspace old
    · exact numbered_fresh numbered ranged.bounds fresh

theorem Maintained.ranged {after : AnvilState} (maintained : Maintained self after)
    (ranged : Desktop.Ranged self.desktop) (distinct : self.outputNames.Nodup)
    (numbered : self.Numbered (Desktop.shows self.desktop.outputs)) : Desktop.Ranged after.desktop := by
  have same (workspace : Nat) : after.desktop.Admits workspace ↔ self.desktop.Admits workspace := by
    rw [Desktop.Admits, Desktop.Admits, maintained.workspaces]
  have shown : ∀ name workspace, Desktop.shows self.nextOutputs name = some workspace →
      self.desktop.Admits workspace := fun _ _ holds => nextOutputs_ranged ranged distinct numbered holds
  have next : Desktop.Ranged { self.desktop with outputs := self.nextOutputs } :=
    ranged.placing shown ranged.windows
  refine ⟨maintained.workspaces ▸ ranged.bounds, ?_, ?_, ?_⟩
  · rw [maintained.rules]
    exact fun rule there workspace names => (same workspace).mpr (ranged.rules rule there workspace names)
  · rw [maintained.outputs]
    exact fun name workspace holds => (same workspace).mpr (shown name workspace holds)
  · intro window there
    rw [same]
    rcases maintained.windows window there with arrives | ⟨earlier, living, home⟩
    · obtain ⟨floating, workspace, -⟩ := arrives.placed
      rw [workspace]
      apply Desktop.arrival_workspace
      · exact next.rules
      · exact next.workspaceOf
    · have kept : (Desktop.adopt self.outputNames earlier).workspace = earlier.workspace := by
        unfold Desktop.adopt
        split <;> rfl
      rw [(Managed.home_eq home).2.1, kept]
      exact ranged.windows earlier (List.mem_of_mem_filter living)

/-- One step keeps the numbers in range when its change fits. -/
theorem handle_ranged {event : Event} (ranged : Desktop.Ranged self.desktop) (distinct : self.outputNames.Nodup)
    (fits : self.Fits (self.change event)) : Desktop.Ranged (self.handle event).1.desktop := by
  have proper := change_proper self event
  cases handle_follows self event with
  | settled direct moved => exact (apply_ranged ranged proper fits).kept moved.kept
  | maintained host passes moved =>
    have applied := apply_ranged ranged proper fits
    set changed := self.setDesktop ((self.change event).apply self.desktop) with changing
    have numbered : changed.Numbered (Desktop.shows changed.desktop.outputs) := by
      rw [changing]
      cases asked : self.change event with
      | maintain =>
        rw [asked] at fits
        exact fits
      | focus window =>
        rw [asked] at fits
        have placed : self.Numbered (Function.update (Desktop.shows self.desktop.outputs) window.output
          (some window.workspace)) := fits
        rw [← Desktop.shows_insert] at placed
        exact placed
      | _ =>
        rw [asked] at passes
        cases passes
    have pass := prepare_maintained changed host
    exact (Maintained.ranged pass applied distinct numbered).kept moved.kept

theorem startingConfig_ranged (loaded : Except String Config) : Desktop.Ranged (initial loaded).desktop := by
  have valid : (startingConfig loaded).validate = .ok () := by
    unfold startingConfig
    split
    · exact Config.load_ok ‹_›
    · decide
  refine ⟨Config.validate_workspaces valid, fun _ there _ names => Config.validate_rules valid there names, ?_, nofun⟩
  intro name workspace holds
  rw [Desktop.shows, initial] at holds
  simp at holds

/-- Runs in which every change fits. -/
def fitting : Transition.Condition AnvilState Event Observation := fun _ self event => self.Fits (self.change event)

variable {history : List Observation}

theorem Execution.ranged (run : Execution fitting history self) :
    Desktop.Ranged self.desktop ∧ self.outputNames.Nodup := by
  refine Execution.invariant (fun _ self => Desktop.Ranged self.desktop ∧ self.outputNames.Nodup) ?_ ?_ run
  · exact fun loaded => ⟨startingConfig_ranged loaded, List.nodup_nil⟩
  · intro history self event _ fits held
    exact ⟨handle_ranged held.1 held.2 fits, handle_names_nodup held.2⟩

/-- A `workspace` command with one of the nine numbers is read as that number. -/
theorem reads_workspace : ∀ workspace < 10,
    splitCommand s!"workspace {workspace}" = ("workspace", toString workspace) ∧
      Text.splitOnce (toString workspace) ' ' = none ∧
      Text.parseUnsigned 255 (toString workspace) = some workspace := by
  decide

theorem workspace_accepted {workspace : Nat} (admits : self.desktop.Admits workspace)
    (bound : self.desktop.config.layout.workspaces ≤ 9) (unlocked : self.lock.locked = false) (host : Host) :
    (self.desktopCommand host s!"workspace {workspace}").reply = .ok () := by
  obtain ⟨splits, single, parses⟩ := reads_workspace workspace (by have := admits.2; omega)
  unfold desktopCommand
  rw [if_neg (by simp [unlocked]), splits]
  have accepted : self.desktop.workspaceCommand false self.focusedIndex (self.activeOutput.getD "")
      (toString workspace) = .ok (self.desktop.showWorkspace (self.activeOutput.getD "") workspace) := by
    unfold Desktop.workspaceCommand
    rw [single]
    dsimp only [Option.getD_none]
    rw [parses]
    have inside : ¬(workspace = 0 ∨ workspace > self.desktop.config.layout.workspaces) := by
      have positive := admits.1
      have below := admits.2
      omega
    simp [Desktop.workspaceTarget, inside]
  show (self.settleDesktop (self.desktop.workspaceCommand false self.focusedIndex (self.activeOutput.getD "")
    (toString workspace))).reply = _
  rw [accepted]
  rfl

/-- In every run whose changes fit, every number in use is in range, and an unlocked
session accepts the command that shows the workspace of any window. -/
theorem workspaces_in_range (run : Execution fitting history self) : self.desktop.InRange ∧
    ∀ window ∈ self.desktop.windows, self.lock.locked = false → ∀ host,
      (self.desktopCommand host s!"workspace {window.workspace}").reply = .ok () := by
  obtain ⟨ranged, -⟩ := run.ranged
  refine ⟨⟨ranged.outputs, ranged.windows⟩, fun window there unlocked host => ?_⟩
  exact workspace_accepted (ranged.windows window there) ranged.bounds.2 unlocked host

/-- One output and one window. -/
def oneWindow : List Event := [
  .connectOutput "DP-1" (some (1920, 1080)) (some ⟨0, 0, 1920, 1080⟩),
  .windowCreated { handle := 7 },
  .windowMapped 7,
  .maintain {}]

def oneWindowState : AnvilState :=
  (Transition.execute step (initial (.error "no configuration")) oneWindow).1

theorem workspaces_in_range_oneWindow :
    (oneWindowState.desktopCommand {} "workspace 1").reply = .ok () ∧ oneWindowState.desktop.InRange := by
  have permits : Transition.Permits step fitting [] (initial (.error "no configuration")) oneWindow :=
    ⟨trivial, trivial, trivial, .inl rfl, trivial⟩
  have run : Execution fitting _ oneWindowState := Transition.Run.execute oneWindow (.start ⟨_, rfl⟩) permits
  have window : { window := 7, id := 1, workspace := 1, output := "DP-1" } ∈ oneWindowState.desktop.windows := by
    decide
  obtain ⟨inRange, accepted⟩ := workspaces_in_range run
  exact ⟨accepted _ window rfl {}, inRange⟩

/-- An output shows the fifth workspace when a configuration with two is loaded. -/
def loweredBound : List Event := [
  .connectOutput "DP-1" (some (1920, 1080)) (some ⟨0, 0, 1920, 1080⟩),
  .maintain {},
  .command {} "workspace 5",
  .command { config := .ok { layout := { workspaces := 2 } } } "reload"]

theorem reload_leaves_range : ∃ history self, Execution Transition.unrestricted history self ∧
    ¬self.desktop.InRange := by
  refine ⟨_, _, Transition.Run.execute loweredBound (.start ⟨.error "no configuration", rfl⟩)
    (Transition.permits_unrestricted _ _ _ _), fun inRange => ?_⟩
  have shown := inRange.1 "DP-1" 5 (by decide)
  exact absurd shown.2 (by decide)

end AnvilState

end Luma.Compositor
