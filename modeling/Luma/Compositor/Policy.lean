import Luma.Compositor.Capture
import Luma.Compositor.RecorderCommands

/-! Desktop policy: which workspace each output shows, where windows live, and
the maintenance pass that follows every change.

The passes are the ones of `maintain_desktop`, in its order. The placement of
visible windows is an input; animation and rendering state are left out.
-/

set_option autoImplicit false

namespace Luma.Compositor

open Luma.Library Luma.Core

abbrev Outputs := Std.TreeMap String Nat

namespace Desktop

/-- The first entry, in the order of the output names, that satisfies the test. -/
def findEntry (outputs : Outputs) (test : String → Nat → Bool) : Option String :=
  (outputs.toList.find? fun entry => test entry.1 entry.2).map (·.1)

def workspaceOf (outputs : Outputs) (output : String) : Nat := (outputs[output]?).getD 1

/-! ## Maintenance of outputs and windows -/

def retainConnected (names : List String) (outputs : Outputs) : Outputs :=
  outputs.filter fun name _ => names.contains name

def shown (outputs : Outputs) (workspace : Nat) : Bool := outputs.toList.any (·.2 == workspace)

/-- The first of the nine numbers that no output shows, or else the first one. -/
def freeWorkspace (outputs : Outputs) : Nat :=
  ((List.range' 1 9).find? fun workspace => !shown outputs workspace).getD 1

/-- Outputs without a workspace get one, in the order they were connected. -/
def assignMissing : List String → Outputs → Outputs
  | [], outputs => outputs
  | name :: rest, outputs =>
    if outputs.contains name then assignMissing rest outputs
    else assignMissing rest (outputs.insert name (freeWorkspace outputs))

def adopt (names : List String) (window : Managed) : Managed :=
  if names.contains window.output then window else { window with output := names.headD "" }

/-- What the rules have made of a new window so far. -/
structure Arrival where
  output : String
  workspace : Nat
  floating : Bool
  deriving DecidableEq, Repr

def ruleMatches (rule : WindowRule) (app title : String) : Bool :=
  rule.appId.all (· == app) && rule.title.all fun part => Text.contains title part

def applyRule (names : List String) (outputs : Outputs) (arrival : Arrival) (rule : WindowRule) : Arrival :=
  let arrival := match rule.output with
    | some output =>
      if names.contains output then { arrival with output, workspace := workspaceOf outputs output } else arrival
    | none => arrival
  { arrival with
    workspace := rule.workspace.getD arrival.workspace
    floating := rule.floating.getD arrival.floating }

/-- The output and workspace of a new window under the rules that match it. -/
def arrival (self : Desktop) (names : List String) (active app title : String) (floating : Bool) : Arrival :=
  (self.config.rules.filter fun rule => ruleMatches rule app title).foldl (applyRule names self.outputs)
    ⟨active, workspaceOf self.outputs active, floating⟩

/-- A window is shown by the output it names when that shows its workspace. -/
def visible (outputs : Outputs) (window : Managed) : Bool :=
  !window.scratchpad && outputs[window.output]? == some window.workspace

/-! ## Workspace commands -/

def setWindow (self : Desktop) (index : Nat) (change : Managed → Managed) : Desktop :=
  { self with windows := self.windows.modify index change }

/-- `send N`: the focused window goes to whoever shows the workspace. -/
def send (self : Desktop) (focused : Option Nat) (out : String) (workspace : Nat) : Desktop :=
  match focused with
  | none => self
  | some index =>
    let output := (findEntry self.outputs fun _ shown => shown == workspace).getD out
    self.setWindow index fun window => { window with workspace, output }

def moveTo (workspace : Nat) (output : String) (window : Managed) : Managed :=
  if window.workspace = workspace then { window with output } else window

/-- In an exchange the windows of both workspaces follow them. -/
def exchange (previous workspace : Nat) (other out : String) (window : Managed) : Managed :=
  if window.workspace = previous then { window with output := other } else moveTo workspace out window

/-- The output that shows the workspace already takes the previous one for it. -/
def giveAway (self : Desktop) (out : String) (workspace : Nat) : Desktop :=
  let previous := workspaceOf self.outputs out
  match findEntry self.outputs fun name shown => shown == workspace && name != out with
  | none => self
  | some other => { self with
      outputs := self.outputs.insert other previous
      windows := self.windows.map (exchange previous workspace other out) }

/-- `workspace N`. -/
def showWorkspace (self : Desktop) (out : String) (workspace : Nat) : Desktop :=
  let self := self.giveAway out workspace
  { self with
    outputs := self.outputs.insert out workspace
    windows := self.windows.map (moveTo workspace out) }

/-- The output a `workspace` command is about; `send` takes no argument of that kind. -/
def workspaceTarget (self : Desktop) (send : Bool) (out target : String) : Except String String :=
  if target = "" then .ok out
  else if !send && self.outputs.contains target then .ok target
  else .error "unknown output or unexpected argument"

def workspaceCommand (self : Desktop) (send : Bool) (focused : Option Nat) (out argument : String) :
    Except String Desktop :=
  let (number, target) := (Text.splitOnce argument ' ').getD (argument, "")
  match Text.parseUnsigned 255 number with
  | none => .error "workspace must be a number"
  | some workspace =>
    match self.workspaceTarget send out target with
    | .error error => .error error
    | .ok out =>
      if workspace = 0 ∨ workspace > self.config.layout.workspaces then .error "workspace out of range"
      else if send then .ok (self.send focused out workspace)
      else .ok (self.showWorkspace out workspace)

/-- The focused window's workspace is put on the output the window names. -/
def putOn (self : Desktop) (window : Managed) : Desktop :=
  { self with outputs := self.outputs.insert window.output window.workspace }

def scratchpadSend (self : Desktop) (focused : Option Nat) : Desktop :=
  match focused with
  | none => self
  | some index => self.setWindow index fun window => { window with scratchpad := true }

def scratchpadShow (self : Desktop) (out : String) : Desktop :=
  match self.windows.findIdx? (·.scratchpad) with
  | none => self
  | some index => self.setWindow index fun window => { window with
      scratchpad := false
      floating := true
      workspace := workspaceOf self.outputs out
      output := out }

def scratchpadCommand (self : Desktop) (focused : Option Nat) (out : String) : String → Except String Desktop
  | "send" => .ok (self.scratchpadSend focused)
  | "show" => .ok (self.scratchpadShow out)
  | _ => .error "scratchpad send/show"

/-! ## Directions -/

def centre (rect : Rect) : Int × Int := (rect.x + rect.w / 2, rect.y + rect.h / 2)

def inDirection (direction : String) (dx dy : Int) : Bool :=
  match direction with
  | "left" => dx < 0
  | "right" => dx > 0
  | "up" => dy < 0
  | "down" => dy > 0
  | _ => false

/-- The nearest mapped window in a direction; `min_by_key` keeps the first of several minima. -/
def directionTarget (self : Desktop) (elements : List Nat) (index : Nat) (direction : String) : Option Nat :=
  let origin := centre (((self.windows[index]?).bind (·.rect)).getD ⟨0, 0, 1, 1⟩)
  let distances := self.windows.zipIdx.filterMap fun (window, other) =>
    if other == index || !elements.contains window.window then none
    else window.rect.bind fun rect =>
      let dx := (centre rect).1 - origin.1
      let dy := (centre rect).2 - origin.2
      if inDirection direction dx dy then some (other, dx ^ 2 + dy ^ 2) else none
  distances.foldl (fun best candidate => match best with
    | none => some candidate
    | some found => if candidate.2 < found.2 then some candidate else some found) none |>.map (·.1)

def swapWindows (self : Desktop) (left right : Nat) : Desktop :=
  match self.windows[left]?, self.windows[right]? with
  | some first, some second => { self with windows := (self.windows.set left second).set right first }
  | _, _ => self

end Desktop

namespace AnvilState

def setDesktop (self : AnvilState) (desktop : Desktop) : AnvilState := { self with desktop }

/-- Focus the window at an index and raise it. -/
def focusWindow (self : AnvilState) (index : Nat) : AnvilState :=
  match self.desktop.windows[index]? with
  | none => self
  | some window => { self with
      seat := { self.seat with focus := some (.window window.window) }
      desktop := { self.desktop with redraw := true } }

/-! ## The maintenance pass -/

def pollRecorder (self : AnvilState) (host : Host) : AnvilState :=
  let (changed, recorder) := self.recording.recorder.poll host.poll
  if !changed then { self with recording := { self.recording with recorder } }
  else
    let routing := if recorder.isRunning then self.recording.routing else stopCaptureBoost self.recording.routing
    ({ self with recording := { self.recording with recorder, routing } }).markDirty

/-- Outputs that are gone lose their entry, new ones get a workspace. -/
def maintainOutputs (self : AnvilState) : AnvilState :=
  self.setDesktop { self.desktop with
    outputs := Desktop.assignMissing self.outputNames
      (Desktop.retainConnected self.outputNames self.desktop.outputs) }

/-- Dead windows go, windows of outputs that are gone move to the first output. -/
def maintainWindows (self : AnvilState) : AnvilState :=
  let living := self.desktop.windows.filter fun window => self.alive window.window
  self.setDesktop { self.desktop with
    windows := living.map (Desktop.adopt self.outputNames)
    redraw := self.desktop.redraw || living.length != self.desktop.windows.length }

/-- One candidate of the loop over the mapped elements. -/
def arrive (active : String) (self : AnvilState) (handle : Nat) : AnvilState :=
  let element := (self.findToplevel handle).getD { handle }
  if self.desktop.windows.any (·.window == handle) || element.x11.any (·.overrideRedirect) then self
  else
    let floating := element.parented || element.x11.any (·.auxiliary)
    let arrival := self.desktop.arrival self.outputNames active element.appId element.title floating
    self.setDesktop { self.desktop with
      nextId := self.desktop.nextId + 1
      windows := self.desktop.windows ++ [{
        window := handle
        id := self.desktop.nextId
        workspace := arrival.workspace
        output := arrival.output
        floating := arrival.floating }] }

def maintainArrivals (self : AnvilState) : AnvilState :=
  self.space.elements.foldl (arrive (self.activeOutput.getD (self.outputNames.headD ""))) self

/-- On a locked session every output is a locked output. -/
def maintainLock (self : AnvilState) : AnvilState :=
  if !self.lock.locked then self
  else { self with space := { self.space with outputs := self.space.outputs.map fun output =>
    { output with lock := some (output.lock.getD { locked := true, generation := self.lock.generation }) } } }

/-- A window is placed when the output it names has a geometry and shows it. -/
def placed (self : AnvilState) (window : Managed) : Bool :=
  Desktop.visible self.desktop.outputs window &&
    self.space.outputs.any fun output => output.name == window.output && output.geometry.isSome

/-- Visible windows are mapped where the layout puts them, hidden ones unmapped. -/
def maintainLayout (self : AnvilState) (host : Host) : AnvilState :=
  let windows := self.desktop.windows.map fun window =>
    if self.placed window then { window with rect := host.placement window.window <|> window.rect } else window
  let arriving := (self.desktop.windows.filter self.placed).map (·.window)
  let hidden := (self.desktop.windows.filter fun window =>
    !Desktop.visible self.desktop.outputs window).map (·.window)
  { self with
    space := { self.space with
      elements := (self.space.elements ++ arriving.filter (!self.space.elements.contains ·)).filter
        (!hidden.contains ·) }
    desktop := { self.desktop with windows } }

def needsFocus (self : AnvilState) : Bool :=
  !self.lock.locked && self.seat.focus != some .layer &&
    (self.focusedIndex.bind fun index => self.desktop.windows[index]?).all fun window =>
      !self.space.elements.contains window.window

/-- The last mapped window takes a focus that has no window to be on. -/
def maintainFocus (self : AnvilState) : AnvilState :=
  if !self.needsFocus then self
  else
    match self.desktop.windows.reverse.find? fun window => self.space.elements.contains window.window with
    | some window => { self with
        seat := { self.seat with focus := some (.window window.window) }
        desktop := { self.desktop with redraw := true } }
    | none => { self with seat := { self.seat with focus := none } }

def maintainDesktop (self : AnvilState) (host : Host) : AnvilState × List Observation :=
  let self := self.pollRecorder host
  let self := self.maintainOutputs
  let self := self.maintainWindows
  let self := self.maintainArrivals
  let self := self.maintainLock
  let self := self.maintainLayout host
  let self := self.maintainFocus
  let self := self.setDesktop { self.desktop with dirty := false }
  self.refreshCaptureSessions

/-! ## Commands -/

inductive Verb where
  | status | performance | terminal | launcher | recorder | exec | launch | screenshot | quit | lock | reload
  | workspace | send | layout | ratio | close | fullscreen | floating | scratchpad | focus | move
  deriving DecidableEq, Repr

def Verb.parse : String → Option Verb
  | "status" => some .status
  | "performance" => some .performance
  | "terminal" => some .terminal
  | "launcher" => some .launcher
  | "recorder" => some .recorder
  | "exec" => some .exec
  | "launch" => some .launch
  | "screenshot" => some .screenshot
  | "quit" => some .quit
  | "lock" => some .lock
  | "reload" => some .reload
  | "workspace" => some .workspace
  | "send" => some .send
  | "layout" => some .layout
  | "ratio" => some .ratio
  | "close" => some .close
  | "fullscreen" => some .fullscreen
  | "floating" => some .floating
  | "scratchpad" => some .scratchpad
  | "focus" => some .focus
  | "move" => some .move
  | _ => none

def performanceCommand (self : AnvilState) (argument : String) : Outcome :=
  match Text.words argument with
  | [] | ["status"] => ⟨.ok (), self, []⟩
  | ["reset"] => ⟨.ok (), self.markDirty, []⟩
  | ["profile"] => ⟨.error "performance profile requires auto, desktop, or gaming", self, []⟩
  | "profile" :: profile :: rest =>
    if !rest.isEmpty || !(["auto", "desktop", "gaming"].contains profile) then
      ⟨.error "performance profile requires auto, desktop, or gaming", self, []⟩
    else
      ⟨.ok (), (self.setDesktop { self.desktop with
        performanceProfileOverride := some profile, redraw := true }).markDirty, []⟩
  | _ => ⟨.error "performance requires status, reset, or profile auto|desktop|gaming", self, []⟩

/-- Commands that change the desktop mark it for a repaint when they succeed. -/
def settleDesktop (self : AnvilState) (result : Except String Desktop) : Outcome :=
  match result with
  | .error error => ⟨.error error, self, []⟩
  | .ok desktop => ⟨.ok (), self.setDesktop { desktop with dirty := true, redraw := true }, []⟩

def reload (self : AnvilState) (host : Host) : Outcome :=
  match Config.load host.config with
  | .error error => ⟨.error error, self.setDesktop { self.desktop with error := some error }, []⟩
  | .ok config =>
    let error := if host.outputErrors.isEmpty then none else some ("; ".intercalate host.outputErrors)
    self.settleDesktop (.ok { self.desktop with config, error })

/-- The window id names a window: its workspace is put on its output. -/
def focusById (self : AnvilState) (host : Host) (id : Nat) : AnvilState × List Observation :=
  match self.desktop.windows.findIdx? (·.id == id) with
  | none => (self, [])
  | some index =>
    match self.desktop.windows[index]? with
    | none => (self, [])
    | some window =>
      let maintained := (self.setDesktop (self.desktop.putOn window)).maintainDesktop host
      -- The index was found before the pass, which may have removed windows.
      if index < maintained.1.desktop.windows.length then (maintained.1.focusWindow index, maintained.2)
      else ({ maintained.1 with panicked := true }, maintained.2)

def focusCommand (self : AnvilState) (host : Host) (move : Bool) (argument : String) : Outcome :=
  match Text.parseUnsigned (2 ^ 64 - 1) argument with
  | some id =>
    let (state, observations) := self.focusById host id
    ⟨.ok (), state.markDirty.setDesktop { state.markDirty.desktop with redraw := true }, observations⟩
  | none =>
    match self.focusedIndex with
    | none => self.settleDesktop (.ok self.desktop)
    | some index =>
      match self.desktop.directionTarget self.space.elements index argument with
      | none => self.settleDesktop (.ok self.desktop)
      | some target =>
        if move then self.settleDesktop (.ok (self.desktop.swapWindows index target))
        else (self.focusWindow target).settleDesktop (.ok (self.focusWindow target).desktop)

def toggleWindow (self : AnvilState) (change : Managed → Managed) : Desktop :=
  match self.focusedIndex with
  | none => self.desktop
  | some index => self.desktop.setWindow index change

def layoutCommand (self : AnvilState) (mode : String) : Except String Desktop :=
  if mode ∉ ["master", "monocle"] then .error "layout must be master or monocle"
  else .ok { self.desktop with config := { self.desktop.config with layout := { self.desktop.config.layout with mode } } }

/-- The arguments of `exec`, `launch` and the others are read by the spawning step. -/
def runVerb (self : AnvilState) (host : Host) (argument : String) : Verb → Outcome
  | .status => ⟨.ok (), self, []⟩
  | .performance => self.performanceCommand argument
  | .recorder => self.recorderCommand host argument
  | .terminal | .launcher | .exec | .launch | .screenshot | .lock => ⟨host.spawnApp, self, []⟩
  | .quit => ⟨.ok (), { self with running := false }, []⟩
  | .reload => self.reload host
  | .workspace => self.settleDesktop
      (self.desktop.workspaceCommand false self.focusedIndex (self.activeOutput.getD "") argument)
  | .send => self.settleDesktop
      (self.desktop.workspaceCommand true self.focusedIndex (self.activeOutput.getD "") argument)
  | .layout => self.settleDesktop (self.layoutCommand argument)
  | .ratio => self.settleDesktop (host.ratio.map fun _ => self.desktop)
  | .close => self.settleDesktop (match self.focusedIndex with
      | none => .ok self.desktop
      | some _ => host.closeWindow.map fun _ => self.desktop)
  | .fullscreen => self.settleDesktop
      (.ok (self.toggleWindow fun window => { window with fullscreen := !window.fullscreen }))
  | .floating => self.settleDesktop
      (.ok (self.toggleWindow fun window => { window with floating := !window.floating }))
  | .scratchpad => self.settleDesktop
      (self.desktop.scratchpadCommand self.focusedIndex (self.activeOutput.getD "") argument)
  | .focus => self.focusCommand host false argument
  | .move => self.focusCommand host true argument

def splitCommand (command : String) : String × String := (Text.splitOnce command ' ').getD (command, "")

def desktopCommand (self : AnvilState) (host : Host) (command : String) : Outcome :=
  if self.lock.locked ∧ command ≠ "status" ∧ command ≠ "performance status" then
    ⟨.error "session is locked", self, []⟩
  else
    match Verb.parse (splitCommand command).1 with
    | none => ⟨.error s!"unknown command: {(splitCommand command).1}", self, []⟩
    | some verb => self.runVerb host (splitCommand command).2 verb

end AnvilState

end Luma.Compositor
