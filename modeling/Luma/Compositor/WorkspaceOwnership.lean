import Luma.Compositor.WorkspaceAssignment

/-! Windows live on the output that shows their workspace.

Every live window outside of the scratchpad forms a pair of an output and a
workspace. The pair is sole when no other output shows the workspace, and showing
a workspace shows all of its windows as long as all these pairs are sole.
-/

set_option autoImplicit false

namespace Luma.Compositor

open Luma.Library Luma.Core Luma.Library.Assignment Desktop

/-! ## Rules for new windows -/

/-- What rules ask for: an output, and a workspace if one is named from there on. -/
structure Wish where
  output : String
  workspace : Option Nat

def applyWish (names : List String) (wish : Wish) (rule : WindowRule) : Wish :=
  match rule.output.filter names.contains with
  | some output => ⟨output, rule.workspace⟩
  | none => ⟨wish.output, rule.workspace.or wish.workspace⟩

theorem applyRule_wish {names : List String} {outputs : Outputs} {arrival : Arrival} {wish : Wish} (rule : WindowRule)
    (output : arrival.output = wish.output)
    (workspace : arrival.workspace = wish.workspace.getD (workspaceOf outputs wish.output)) :
    (applyRule names outputs arrival rule).output = (applyWish names wish rule).output ∧
      (applyRule names outputs arrival rule).workspace =
        (applyWish names wish rule).workspace.getD (workspaceOf outputs (applyWish names wish rule).output) := by
  unfold applyRule applyWish
  cases named : rule.output with
  | none => cases asked : rule.workspace <;> simp [output, workspace]
  | some place =>
    by_cases connected : place ∈ names
    · cases asked : rule.workspace <;> simp [Option.filter, connected]
    · cases asked : rule.workspace <;> simp [Option.filter, connected, output, workspace]

theorem foldl_wish {names : List String} {outputs : Outputs} (rules : List WindowRule) {arrival : Arrival} {wish : Wish}
    (output : arrival.output = wish.output)
    (workspace : arrival.workspace = wish.workspace.getD (workspaceOf outputs wish.output)) :
    (rules.foldl (applyRule names outputs) arrival).output = (rules.foldl (applyWish names) wish).output ∧
      (rules.foldl (applyRule names outputs) arrival).workspace =
        (rules.foldl (applyWish names) wish).workspace.getD
          (workspaceOf outputs (rules.foldl (applyWish names) wish).output) := by
  induction rules generalizing arrival wish with
  | nil => exact ⟨output, workspace⟩
  | cons rule rules ih =>
    obtain ⟨next, shown⟩ := @applyRule_wish names _ _ _ rule output workspace
    exact ih next shown

/-- A wish is for a connected output when it began with one. -/
theorem foldl_wish_output {names : List String} (rules : List WindowRule) {wish : Wish} (member : wish.output ∈ names) :
    (rules.foldl (applyWish names) wish).output ∈ names := by
  induction rules generalizing wish with
  | nil => exact member
  | cons rule rules ih =>
    apply ih
    unfold applyWish
    split
    · rename_i found
      simpa using (Option.filter_eq_some_iff.mp found).2
    · exact member

namespace AnvilState

variable {self before after : AnvilState} {change : Change} {window : Managed}

/-- What the rules that match an element ask for. -/
def wish (self : AnvilState) (handle : Nat) : Wish :=
  let element := self.element handle
  (self.desktop.config.rules.filter fun rule => ruleMatches rule element.appId element.title).foldl
    (applyWish self.outputNames) ⟨self.nextActive, none⟩

theorem nextActive_mem (connected : self.outputNames ≠ []) : self.nextActive ∈ self.outputNames := by
  have first : self.outputNames.headD "" ∈ self.outputNames := by
    rcases names : self.outputNames with - | ⟨name, rest⟩
    · exact absurd names connected
    · exact List.mem_cons_self
  unfold nextActive
  split
  · rename_i window found
    obtain ⟨earlier, -, rfl⟩ := Option.map_eq_some_iff.mp found
    unfold adopt
    split
    · rename_i member
      simpa using member
    · exact first
  · cases pointed : self.seat.pointer.filter self.outputNames.contains with
    | none => exact first
    | some name => simpa using (Option.filter_eq_some_iff.mp pointed).2

theorem Arrives.wish (arrives : Arrives self window) :
    window.output = (self.wish window.window).output ∧
      window.workspace = (self.wish window.window).workspace.getD
        (workspaceOf self.nextOutputs (self.wish window.window).output) := by
  obtain ⟨floating, workspace, output⟩ := arrives.placed
  rw [workspace, output]
  exact foldl_wish _ rfl rfl

/-! ## The pass -/

/-- Handing out numbers and placing new windows leaves every workspace with its windows:
free numbers are enough, what a new output is given belongs to windows that end there, and
a rule that names a workspace names the output that is to show it. -/
structure Passes (before : AnvilState) (shown : String → Option Nat) : Prop where
  room : (missing before.outputNames shown).length ≤ (unheld pool before.outputNames shown).length
  filled : ∀ pair ∈ (missing before.outputNames shown).zip (unheld pool before.outputNames shown),
    ∀ window ∈ before.living, window.scratchpad = false → window.workspace = pair.2 →
      (adopt before.outputNames window).output = pair.1
  ruled : ∀ handle ∈ before.space.elements, before.alive handle = true →
    (∀ window ∈ before.desktop.windows, window.window ≠ handle) →
    (before.element handle).x11.any (·.overrideRedirect) = false →
    ∀ workspace, (before.wish handle).workspace = some workspace →
      Sole (plan pool before.outputNames shown) (before.wish handle).output workspace

/-- Windows that the pass keeps are where their workspace is shown. -/
def Retained (before : AnvilState) (shown : String → Option Nat) : Prop :=
  ∀ window ∈ before.living, window.scratchpad = false → ∀ holder ∈ before.outputNames,
    shown holder = some window.workspace → (adopt before.outputNames window).output = holder

def Homed (self : AnvilState) : Prop :=
  ∀ window ∈ self.desktop.windows, self.alive window.window = true → window.scratchpad = false →
    Sole (shows self.desktop.outputs) window.output window.workspace

theorem adopted_sole (passes : before.Passes (shows before.desktop.outputs))
    (retained : before.Retained (shows before.desktop.outputs)) {earlier : Managed} (living : earlier ∈ before.living)
    (out : earlier.scratchpad = false) :
    Sole (plan pool before.outputNames (shows before.desktop.outputs))
      (adopt before.outputNames earlier).output earlier.workspace := by
  intro holder holds
  obtain ⟨member, old | given⟩ := plan_cases holds
  · exact (retained earlier living out holder member old).symm
  · exact (passes.filled _ given earlier living out rfl).symm

theorem arrived_sole (passes : before.Passes (shows before.desktop.outputs))
    (exclusive : Exclusive (plan pool before.outputNames (shows before.desktop.outputs)))
    (shown : shows before.nextOutputs = plan pool before.outputNames (shows before.desktop.outputs))
    (arrives : Arrives before window) (alive : before.alive window.window = true) :
    Sole (plan pool before.outputNames (shows before.desktop.outputs)) window.output window.workspace := by
  obtain ⟨output, workspace⟩ := arrives.wish
  rw [output, workspace]
  have unmanaged : ∀ other ∈ before.desktop.windows, other.window ≠ window.window := by
    intro other there same
    -- A window with this handle would be a living one.
    have living : other ∈ before.living := List.mem_filter.mpr ⟨there, by rw [same]; exact alive⟩
    exact arrives.unmanaged other living same
  cases asked : (before.wish window.window).workspace with
  | some workspace => exact passes.ruled _ arrives.mapped alive unmanaged arrives.ordinary workspace asked
  | none =>
    rw [Option.getD_none, workspaceOf_eq, shown]
    intro holder holds
    have connected : before.outputNames ≠ [] := by
      intro nothing
      have member := (plan_cases holds).1
      rw [nothing] at member
      cases member
    have placed : (before.wish window.window).output ∈ before.outputNames :=
      foldl_wish_output _ (nextActive_mem connected)
    obtain ⟨number, held⟩ := Option.isSome_iff_exists.mp (plan_isSome passes.room placed)
    rw [held, Option.getD_some] at holds
    exact exclusive _ _ held holder holds

theorem Maintained.homed (maintained : Maintained before after) (distinct : before.outputNames.Nodup)
    (exclusive : Exclusive (restrict before.outputNames (shows before.desktop.outputs)))
    (passes : before.Passes (shows before.desktop.outputs))
    (retained : before.Retained (shows before.desktop.outputs)) : Homed after := by
  have shown : shows before.nextOutputs = plan pool before.outputNames (shows before.desktop.outputs) :=
    shows_maintained distinct passes.room
  intro window there alive out
  have living : before.alive window.window = true := by
    rw [AnvilState.alive, findToplevel, maintained.toplevels] at alive
    exact alive
  rw [maintained.outputs, shown]
  rcases maintained.windows window there with arrives | ⟨earlier, known, home⟩
  · exact arrived_sole passes (plan_exclusive pool_nodup exclusive) shown arrives living
  · obtain ⟨-, workspace, output, scratchpad⟩ := Managed.home_eq home
    have same : (adopt before.outputNames earlier).workspace = earlier.workspace ∧
        (adopt before.outputNames earlier).scratchpad = earlier.scratchpad := by
      unfold adopt
      split <;> exact ⟨rfl, rfl⟩
    rw [workspace, output, same.1]
    apply adopted_sole passes retained known
    rw [← same.2, ← scratchpad]
    exact out

/-! ## Single changes -/

theorem mem_setWindow_position {desktop : Desktop} {index : Nat} {change : Managed → Managed}
    (there : window ∈ (desktop.setWindow index change).windows) :
    ∃ position earlier, desktop.windows[position]? = some earlier ∧
      (window = earlier ∨ position = index ∧ window = change earlier) := by
  obtain ⟨position, inside, rfl⟩ := List.mem_iff_getElem.mp there
  rw [setWindow, List.length_modify] at inside
  refine ⟨position, desktop.windows[position], List.getElem?_eq_getElem inside, ?_⟩
  simp only [setWindow, List.getElem_modify]
  split
  · exact .inr ⟨by omega, rfl⟩
  · exact .inl rfl

/-- A change that touches one window keeps the others homed. -/
theorem Homed.setWindow (homed : Homed self) {index : Nat} {alter : Managed → Managed}
    (same : ∀ earlier, (alter earlier).window = earlier.window)
    (placed : ∀ earlier, self.desktop.windows[index]? = some earlier → self.alive earlier.window = true →
      (alter earlier).scratchpad = false →
      Sole (shows self.desktop.outputs) (alter earlier).output (alter earlier).workspace) :
    Homed (self.setDesktop (self.desktop.setWindow index alter)) := by
  intro window there alive out
  obtain ⟨position, earlier, inside, rfl | ⟨rfl, rfl⟩⟩ := mem_setWindow_position there
  · exact homed window (List.mem_of_getElem? inside) alive out
  · apply placed earlier inside _ out
    rw [same] at alive
    exact alive

/-- `workspace` moves the windows of both workspaces with them. -/
theorem Homed.showWorkspace (homed : Homed self) (exclusive : Exclusive (shows self.desktop.outputs))
    {out : String} {number : Nat} (apart : self.KeepsApart (.workspace out number)) :
    Homed (self.setDesktop (self.desktop.showWorkspace out number)) := by
  intro window there alive free
  rcases showWorkspace_cases self.desktop out number with ⟨sole, placed⟩ | ⟨other, away, held, traded⟩
  · rw [placed] at there ⊢
    obtain ⟨earlier, known, rfl⟩ := List.mem_map.mp there
    simp only [setDesktop, shows_insert]
    by_cases moves : earlier.workspace = number
    · rw [moveTo, if_pos moves]
      simp only [moves]
      exact sole.place fun _ => rfl
    · rw [moveTo, if_neg moves] at alive free ⊢
      exact (homed earlier known alive free).place fun same => absurd same moves
  · rw [traded] at there ⊢
    obtain ⟨earlier, known, rfl⟩ := List.mem_map.mp there
    obtain ⟨previous, differs⟩ := sole_previous exclusive apart away held
    simp only [setDesktop, shows_trade]
    simp only [Function.comp_apply, exchange] at alive free ⊢
    by_cases given : earlier.workspace = workspaceOf self.desktop.outputs out
    · -- This window follows the number that the other output takes.
      rw [if_pos given, moveTo, if_neg (by simp only [given]; exact differs)]
      simp only [given]
      exact previous.trade_previous differs
    · rw [if_neg given] at alive free ⊢
      by_cases moves : earlier.workspace = number
      · have moved : moveTo number out (moveTo number out earlier) = { earlier with output := out } := by
          simp [moveTo, moves]
        rw [moved]
        simp only [moves]
        exact (exclusive other number held).trade_new differs
      · have stays : moveTo number out (moveTo number out earlier) = earlier := by
          simp [moveTo, moves]
        rw [stays] at alive free ⊢
        exact (homed earlier known alive free).trade moves given

theorem Homed.send (homed : Homed self) (exclusive : Exclusive (shows self.desktop.outputs)) {index : Nat}
    {out : String} {number : Nat} : Homed (self.setDesktop (self.desktop.send (some index) out number)) := by
  apply Homed.setWindow homed
  · intro earlier
    rfl
  intro earlier _ _ _ holder holds
  cases found : findEntry self.desktop.outputs fun _ shown => shown == number with
  | none =>
    have other := findEntry_none found holds
    simp at other
  | some owner =>
    obtain ⟨shown, held, same⟩ := findEntry_some found
    rw [beq_iff_eq] at same
    rw [same] at held
    simp only [Option.getD_some]
    exact exclusive owner number held holder holds

theorem Homed.scratchpadSend (homed : Homed self) {index : Nat} :
    Homed (self.setDesktop (self.desktop.scratchpadSend (some index))) := by
  apply Homed.setWindow homed
  · intro earlier
    rfl
  intro earlier _ _ free
  cases free

theorem Homed.scratchpadShow (homed : Homed self) (exclusive : Exclusive (shows self.desktop.outputs)) {out : String}
    (found : self.desktop.windows.find? (·.scratchpad) = some window)
    (placed : self.alive window.window = true → (shows self.desktop.outputs out).isSome ∨
      ∀ name, shows self.desktop.outputs name ≠ some 1) :
    Homed (self.setDesktop (self.desktop.scratchpadShow out)) := by
  rw [List.find?_eq_bind_findIdx?_getElem?, Option.bind_eq_some_iff] at found
  obtain ⟨index, position, inside⟩ := found
  unfold Desktop.scratchpadShow
  rw [position]
  apply Homed.setWindow homed
  · intro earlier
    rfl
  intro earlier there alive _ holder holds
  have same : earlier = window := Option.some.inj (there.symm.trans inside)
  simp only [workspaceOf_eq] at holds
  rcases shown : shows self.desktop.outputs out with - | number
  · rw [shown, Option.getD_none] at holds
    rcases placed (same ▸ alive) with known | unused
    · rw [shown] at known
      cases known
    · exact absurd holds (unused holder)
  · rw [shown, Option.getD_some] at holds
    exact exclusive out number shown holder holds

/-- The pairs of live windows stay sole: windows that a command moves follow their
workspace, and the pass after it finds every workspace with its windows. -/
def Housing (self : AnvilState) : Change → Prop
  | .workspace out number => self.KeepsApart (.workspace out number)
  | .unstash window out => self.alive window.window = true →
      (shows self.desktop.outputs out).isSome ∨ ∀ name, shows self.desktop.outputs name ≠ some 1
  | .maintain => self.Passes (shows self.desktop.outputs)
  | .focus window => self.KeepsApart (.focus window) ∧
      (window.output ∈ self.outputNames → ∀ other ∈ self.living, other.scratchpad = false →
        other.workspace = window.workspace → (adopt self.outputNames other).output = window.output) ∧
      self.Passes (Function.update (shows self.desktop.outputs) window.output (some window.workspace))
  | _ => True

theorem Housing.apart (housing : self.Housing change) : self.KeepsApart change := by
  cases change with
  | workspace => exact housing
  | focus => exact housing.1
  | _ => trivial

theorem apply_homed (homed : Homed self) (exclusive : Exclusive (shows self.desktop.outputs))
    (proper : change.Proper self.desktop) (housing : self.Housing change) (direct : change.maintains = false) :
    Homed (self.setDesktop (change.apply self.desktop)) := by
  cases change with
  | maintain | focus => cases direct
  | keep | reload => exact homed
  | send index out number => exact homed.send exclusive
  | workspace out number => exact homed.showWorkspace exclusive housing
  | stash index => exact homed.scratchpadSend
  | unstash window out => exact homed.scratchpadShow exclusive proper housing

theorem adopt_connected {names : List String} (connected : window.output ∈ names) : adopt names window = window := by
  rw [adopt, if_pos (by simpa using connected)]

/-- What a change leaves for its pass to keep. -/
theorem apply_retained (homed : Homed self) (housing : self.Housing change) (passes : change.maintains = true) :
    self.Retained (shows (change.apply self.desktop).outputs) := by
  have kept {window : Managed} {holder : String} (there : window ∈ self.living) (free : window.scratchpad = false)
      (member : holder ∈ self.outputNames) (holds : shows self.desktop.outputs holder = some window.workspace) :
      (adopt self.outputNames window).output = holder := by
    obtain ⟨known, alive⟩ := List.mem_filter.mp there
    have own := homed window known alive free holder holds
    rw [own] at member ⊢
    rw [adopt_connected member]
  cases change with
  | keep | reload | send | workspace | stash | unstash => cases passes
  | maintain => exact fun window there free holder member holds => kept there free member holds
  | focus focused =>
    intro window there free holder member holds
    simp only [Change.apply, putOn, shows_insert] at holds
    by_cases placed : holder = focused.output
    · rw [placed, Function.update_self] at holds
      rw [placed] at member ⊢
      exact housing.2.1 member window there free (Option.some.inj holds).symm
    · rw [Function.update_of_ne placed] at holds
      exact kept there free member holds

/-! ## Runs -/

/-- Handles of mapped and of managed windows belong to windows that were created. -/
def Known (self : AnvilState) : Prop :=
  (∀ handle ∈ self.space.elements, (self.findToplevel handle).isSome) ∧
    ∀ window ∈ self.desktop.windows, (self.findToplevel window.window).isSome

theorem Moved.known (moved : Moved before after) (known : Known before) : Known after := by
  refine ⟨fun handle there => ?_, fun window there => ?_⟩
  · rcases moved.elements handle there with earlier | found
    · exact (moved.toplevels handle (known.1 handle earlier)).1
    · exact (moved.toplevels handle found).1
  · obtain ⟨earlier, managed, home⟩ := moved.kept.windows window there
    rw [(Managed.home_eq home).1]
    exact (moved.toplevels _ (known.2 earlier managed)).1

theorem Moved.homed (moved : Moved before after) (known : Known before) (homed : Homed before) : Homed after := by
  intro window there alive free
  obtain ⟨earlier, managed, home⟩ := moved.kept.windows window there
  obtain ⟨handle, workspace, output, scratchpad⟩ := Managed.home_eq home
  rw [handle] at alive
  rw [moved.kept.outputs, workspace, output]
  exact homed earlier managed ((moved.toplevels _ (known.2 earlier managed)).2 alive) (scratchpad ▸ free)

theorem Maintained.known (maintained : Maintained before after) (known : Known before) : Known after := by
  have found (handle : Nat) : after.findToplevel handle = before.findToplevel handle := by
    rw [findToplevel, findToplevel, maintained.toplevels]
  refine ⟨fun handle there => ?_, fun window there => ?_⟩
  · rw [found]
    rcases maintained.elements handle there with old | ⟨window, managed, rfl⟩
    · exact known.1 handle old
    · exact known.2 window managed
  · rw [found]
    rcases maintained.windows window there with arrives | ⟨earlier, living, home⟩
    · exact known.1 _ arrives.mapped
    · rw [(Managed.home_eq home).1, adopt_window]
      exact known.2 earlier (List.mem_of_mem_filter living)

/-- Changes give windows other places, not other handles. -/
theorem apply_handles (self : Desktop) (change : Change) {window : Managed} (there : window ∈ (change.apply self).windows) :
    ∃ earlier ∈ self.windows, earlier.window = window.window := by
  have altered {index : Nat} {alter : Managed → Managed} (there : window ∈ (self.setWindow index alter).windows)
      (same : ∀ earlier, (alter earlier).window = earlier.window) : ∃ earlier ∈ self.windows, earlier.window = window.window := by
    obtain ⟨position, earlier, inside, rfl | ⟨-, rfl⟩⟩ := mem_setWindow_position there
    · exact ⟨window, List.mem_of_getElem? inside, rfl⟩
    · exact ⟨earlier, List.mem_of_getElem? inside, (same earlier).symm⟩
  cases change with
  | keep | maintain | reload | focus => exact ⟨window, there, rfl⟩
  | send | stash => exact altered there fun _ => rfl
  | unstash other out =>
    simp only [Change.apply, scratchpadShow] at there
    split at there
    · exact ⟨window, there, rfl⟩
    · exact altered there fun _ => rfl
  | workspace out number =>
    have moved (earlier : Managed) : (moveTo number out earlier).window = earlier.window := by
      unfold moveTo
      split <;> rfl
    simp only [Change.apply] at there
    rcases showWorkspace_cases self out number with ⟨-, placed⟩ | ⟨other, -, -, traded⟩
    · rw [placed] at there
      obtain ⟨earlier, known, rfl⟩ := List.mem_map.mp there
      exact ⟨earlier, known, (moved earlier).symm⟩
    · rw [traded] at there
      obtain ⟨earlier, known, rfl⟩ := List.mem_map.mp there
      refine ⟨earlier, known, ?_⟩
      rw [Function.comp_apply, moved, exchange]
      split
      · rfl
      · rw [moved]

structure Housed (state : AnvilState) : Prop where
  exclusive : Exclusive (shows state.desktop.outputs)
  distinct : state.outputNames.Nodup
  known : Known state
  homed : Homed state

theorem handle_housed {event : Event} (housed : Housed self) (housing : self.Housing (self.change event)) :
    Housed (self.handle event).1 := by
  have proper := change_proper self event
  set changed := self.setDesktop ((self.change event).apply self.desktop) with changing
  have known : Known changed := by
    refine ⟨housed.known.1, fun window there => ?_⟩
    obtain ⟨earlier, managed, same⟩ := apply_handles self.desktop (self.change event) there
    rw [← same]
    exact housed.known.2 earlier managed
  have distinct : (self.handle event).1.outputNames.Nodup := handle_names_nodup housed.distinct
  cases handle_follows self event with
  | settled direct moved =>
    refine ⟨?_, distinct, moved.known known, moved.homed known ?_⟩
    · rw [moved.kept.outputs]
      exact apply_exclusive housed.exclusive housing.apart direct
    · exact apply_homed housed.homed housed.exclusive proper housing direct
  | maintained host passes moved =>
    have pass := prepare_maintained changed host
    have connected : changed.outputNames.Nodup := housed.distinct
    have restricted : Exclusive (restrict changed.outputNames (shows changed.desktop.outputs)) :=
      apply_restricted housed.exclusive housing.apart passes
    have fits : changed.Passes (shows changed.desktop.outputs) := by
      rw [changing]
      cases asked : self.change event with
      | maintain =>
        rw [asked] at housing
        exact ⟨housing.room, housing.filled, housing.ruled⟩
      | focus window =>
        rw [asked] at housing
        obtain ⟨-, -, enters⟩ := housing
        rw [← shows_insert] at enters
        exact ⟨enters.room, enters.filled, enters.ruled⟩
      | _ =>
        rw [asked] at passes
        cases passes
    have retained : changed.Retained (shows changed.desktop.outputs) := by
      have kept := apply_retained housed.homed housing passes
      rw [changing]
      cases asked : self.change event with
      | maintain | focus =>
        rw [asked] at kept
        exact kept
      | _ =>
        rw [asked] at passes
        cases passes
    refine ⟨?_, distinct, moved.known (Maintained.known pass known),
      moved.homed (Maintained.known pass known) (Maintained.homed pass connected restricted fits retained)⟩
    rw [moved.kept.outputs, pass.outputs]
    exact nextOutputs_exclusive connected fits.room restricted

def housing : Transition.Condition AnvilState Event Observation := fun _ self event => self.Housing (self.change event)

variable {history : List Observation}

theorem Execution.housed (run : Execution housing history self) : Housed self := by
  refine Execution.invariant (fun _ self => Housed self) ?_ ?_ run
  · exact fun loaded => ⟨initial_exclusive loaded, List.nodup_nil, ⟨nofun, nofun⟩, nofun⟩
  · intro history self event _ permitted held
    exact handle_housed held permitted

/-- Live windows outside of the scratchpad are on the output that shows their workspace. -/
def Owned (self : AnvilState) : Prop :=
  ∀ window ∈ self.desktop.windows, self.alive window.window = true → window.scratchpad = false →
    ∀ name ∈ self.outputNames, shows self.desktop.outputs name = some window.workspace →
      window.output = name ∧ shows self.desktop.outputs window.output = some window.workspace

theorem windows_owned (run : Execution housing history self) : self.Owned := by
  intro window there alive out name _ shown
  have own := run.housed.homed window there alive out name shown
  rw [own] at shown
  exact ⟨own.symm, shown⟩

/-- A window is mapped and the pass places it. -/
def placedWindow : List Event := [
  .connectOutput "DP-1" (some (1920, 1080)) (some ⟨0, 0, 1920, 1080⟩),
  .windowCreated { handle := 7 },
  .windowMapped 7,
  .maintain {}]

def placedState : AnvilState := (Transition.execute step (initial (.error "no configuration")) placedWindow).1

theorem windows_owned_placedWindow : placedState.Owned := by
  have permits : Transition.Permits step housing [] (initial (.error "no configuration")) placedWindow := by
    refine ⟨trivial, trivial, trivial, ⟨by decide, ?_, ?_⟩, trivial⟩
    · exact fun _ _ window there => absurd there List.not_mem_nil
    · exact fun _ _ _ _ _ workspace asked => nomatch asked
  exact windows_owned (Transition.Run.execute placedWindow (.start ⟨_, rfl⟩) permits)

/-- A window was sent to a workspace that nobody showed, and a new output is plugged in. -/
def sentAway : List Event := [
  .connectOutput "DP-1" (some (1920, 1080)) (some ⟨0, 0, 1920, 1080⟩),
  .windowCreated { handle := 7 },
  .windowMapped 7,
  .maintain {},
  .command {} "send 2",
  .connectOutput "DP-2" (some (1920, 1080)) (some ⟨1920, 0, 1920, 1080⟩)]

/-- The pass shows the workspace on the new output and leaves its window on the old one. -/
theorem hotplug_leaves_window : ∃ history self, Execution Transition.unrestricted history self ∧
    ¬(step self (.maintain {})).1.Owned := by
  refine ⟨_, _, Transition.Run.execute sentAway (.start ⟨.error "no configuration", rfl⟩)
    (Transition.permits_unrestricted _ _ _ _), fun owned => ?_⟩
  have there : { window := 7, id := 1, workspace := 2, output := "DP-1" } ∈
      (step (Transition.execute step (initial (.error "no configuration")) sentAway).1 (.maintain {})).1.desktop.windows := by
    decide +kernel
  have owner := (owned _ there (by decide +kernel) rfl "DP-2" (by decide +kernel) (by decide +kernel)).1
  exact absurd owner (by decide)

end AnvilState

end Luma.Compositor
