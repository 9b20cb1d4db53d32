import Luma.Compositor.System

/-! What clients ask of their toplevels and layer surfaces.

A handler looks its window up in the space, where hidden windows are not, and its
output through the client's resource, which may outlive the output. Where it takes
the answer for granted, the compositor panics.
-/

set_option autoImplicit false

namespace Luma.Compositor

open Luma.Library Luma.Core

/-- What the handlers read back of a toplevel. -/
structure ToplevelSurface where
  initialConfigureSent : Bool := false
  /-- The output that the pending state names for fullscreen. -/
  fullscreenOutput : Option Nat := none
  deriving DecidableEq, Repr

structure ShellState where
  compositor : AnvilState
  /-- By the handle of the window. -/
  surfaces : Nat → ToplevelSurface := fun _ => {}
  /-- Outputs that were unplugged while something else still holds them. -/
  lingering : List Nat := []

/-- What the libraries say during one request. -/
structure RequestHost where
  /-- The first output that the window is on. -/
  shownOn : Option Nat := none
  /-- The client has bound the output that its window gets. -/
  bound : Bool := true

inductive ShellRequest where
  | fullscreen (output : Option Nat)
  | unfullscreen
  | maximize
  | unmaximize
  deriving DecidableEq, Repr

inductive ShellInput where
  | compositor (event : Event)
  /-- The last holder of an unplugged output lets it go. -/
  | outputDropped (serial : Nat)
  | initialConfigure (handle : Nat)
  /-- A commit without a buffer takes the toplevel back to where it began. -/
  | reset (handle : Nat)
  | request (handle : Nat) (request : ShellRequest) (host : RequestHost)
  | newLayerSurface (output : Option Nat)

inductive ShellReply where
  /-- A toplevel request is done; a configure is due once the initial one was sent. -/
  | answered (handle : Nat) (due configured : Bool)
  | panicked
  deriving DecidableEq, Repr

namespace ShellState

/-- `Output::from_resource`. -/
def fromResource (self : ShellState) (output : Option Nat) : Option Nat :=
  output.filter fun serial => (self.compositor.findOutput serial).isSome || self.lingering.contains serial

def outputGeometry (self : ShellState) (serial : Nat) : Option Rect :=
  (self.compositor.findOutput serial).bind (·.geometry)

def firstOutput (self : ShellState) : Option Nat := self.compositor.space.outputs.head?.map (·.serial)

def inSpace (self : ShellState) (handle : Nat) : Bool := self.compositor.space.elements.contains handle

/-- The first output of a window that is in the space. -/
def outputForElement (self : ShellState) (handle : Nat) (host : RequestHost) : Option Nat :=
  if self.inSpace handle then host.shownOn.filter fun serial => (self.compositor.findOutput serial).isSome
  else none

def fullscreenOutputGeometry (self : ShellState) (handle : Nat) (output : Option Nat) (host : RequestHost) :
    Option Rect :=
  ((self.fromResource output).or (self.outputForElement handle host)).bind self.outputGeometry

def setSurface (self : ShellState) (handle : Nat) (surface : ToplevelSurface) : ShellState :=
  { self with surfaces := fun other => if other = handle then surface else self.surfaces other }

/-- The fullscreen flag of the managed window. -/
def markFullscreen (self : ShellState) (handle : Nat) (fullscreen : Bool) : ShellState :=
  { self with compositor := self.compositor.setDesktop { self.compositor.desktop with
      windows := self.compositor.desktop.windows.map fun window =>
        if window.window == handle then { window with fullscreen } else window } }

/-- Whether a configure answers the request. -/
def configure (self : ShellState) (handle : Nat) : Option (ShellState × Bool) :=
  some (self, (self.surfaces handle).initialConfigureSent)

/-! ## Requests -/

/-- None where the source unwraps nothing: the window must be in the space. -/
def setFullscreen (self : ShellState) (handle : Nat) (wlOutput : Option Nat) : Option (ShellState × Bool) :=
  if self.inSpace handle then
    (self.setSurface handle { self.surfaces handle with fullscreenOutput := wlOutput }).configure handle
  else none

def fullscreenRequest (self : ShellState) (handle : Nat) (wlOutput : Option Nat) (host : RequestHost) :
    Option (ShellState × Bool) :=
  let self := self.markFullscreen handle true
  match self.fullscreenOutputGeometry handle wlOutput host with
  | none => self.configure handle
  | some _ =>
      -- Not the output that the geometry is of, when the window chose that one.
      match (self.fromResource wlOutput).or self.firstOutput with
      | none => none
      | some output => self.setFullscreen handle (if host.bound then some output else wlOutput)

def unfullscreenRequest (self : ShellState) (handle : Nat) : Option (ShellState × Bool) :=
  let self := self.markFullscreen handle false
  let taken := (self.surfaces handle).fullscreenOutput
  let self := self.setSurface handle { self.surfaces handle with fullscreenOutput := none }
  if taken.isSome && (self.fromResource taken).isNone then none else self.configure handle

/-- The window's output: where it is, where it belongs, or the first one. -/
def maximizeOutput (self : ShellState) (handle : Nat) (host : RequestHost) : Option Nat :=
  let managed := (self.compositor.desktop.windows.find? (·.window == handle)).bind fun window =>
    (self.compositor.space.outputs.find? (·.name == window.output)).map (·.serial)
  ((self.outputForElement handle host).or managed).or self.firstOutput

def maximizeRequest (self : ShellState) (handle : Nat) (host : RequestHost) : Option (ShellState × Bool) :=
  let known := self.inSpace handle || self.compositor.desktop.windows.any (·.window == handle)
  if !known then self.configure handle
  else
    match (self.maximizeOutput handle host).bind self.outputGeometry with
    | none => self.configure handle
    | some _ =>
        -- A window that is not shown stays so.
        let raised := self.compositor.space.elements.filter (· != handle) ++ [handle]
        let elements := if self.inSpace handle then raised else self.compositor.space.elements
        let mapped := { self with compositor := self.compositor.setElements elements }
        mapped.configure handle

def unmaximizeRequest (self : ShellState) (handle : Nat) : Option (ShellState × Bool) := self.configure handle

def serve (self : ShellState) (handle : Nat) (request : ShellRequest) (host : RequestHost) :
    Option (ShellState × Bool) :=
  match request with
  | .fullscreen output => self.fullscreenRequest handle output host
  | .unfullscreen => self.unfullscreenRequest handle
  | .maximize => self.maximizeRequest handle host
  | .unmaximize => self.unmaximizeRequest handle

/-- The output that a new layer surface is put on. -/
def newLayerSurface (self : ShellState) (output : Option Nat) : Option Nat :=
  (self.fromResource output).or self.firstOutput

/-! ## The compositor with its clients' requests -/

def panic (self : ShellState) : ShellState × List ShellReply :=
  ({ self with compositor := { self.compositor with panicked := true } }, [.panicked])

/-- Outputs that leave may be held on to. -/
def handleEvent (self : ShellState) (event : Event) : ShellState :=
  let left := match event with
    | .disconnectOutput name => (self.compositor.space.outputs.filter (·.name == name)).map (·.serial)
    | _ => []
  { self with compositor := (self.compositor.step event).1, lingering := self.lingering ++ left }

def step : Transition.Step ShellState ShellInput ShellReply := fun self input =>
  if self.compositor.panicked then (self, [])
  else
    match input with
    | .compositor event => (self.handleEvent event, [])
    | .outputDropped serial => ({ self with lingering := self.lingering.filter (· != serial) }, [])
    | .initialConfigure handle =>
        (self.setSurface handle { self.surfaces handle with initialConfigureSent := true }, [])
    | .reset handle => (self.setSurface handle {}, [])
    | .request handle request host =>
        if !self.compositor.alive handle then (self, [])
        else
          match self.serve handle request host with
          | none => self.panic
          | some (after, configured) =>
              (after, [.answered handle (self.surfaces handle).initialConfigureSent configured])
    | .newLayerSurface output =>
        match self.newLayerSurface output with
        | none => self.panic
        | some _ => (self, [])

/-- Requests do not panic, and toplevel requests are configured. -/
def Settled (reply : ShellReply) (_ : List ShellReply) : Prop :=
  match reply with
  | .answered _ due configured => due = true → configured = true
  | .panicked => False

/-! ## What the handlers take for granted -/

/-- A hidden window asks for a shown output by name. -/
def fullscreenFound (self : ShellState) (handle : Nat) (output : Option Nat) : Bool :=
  self.inSpace handle || ((self.fromResource output).bind self.outputGeometry).isNone

def grants (self : ShellState) (handle : Nat) (request : ShellRequest) : Bool :=
  match request with
  | .fullscreen output => self.fullscreenFound handle output
  | .unfullscreen =>
      let output := (self.surfaces handle).fullscreenOutput
      output.isNone || (self.fromResource output).isSome
  | .maximize | .unmaximize => true

def Granted : Transition.Condition ShellState ShellInput ShellReply := fun _ self input =>
  self.compositor.panicked = false →
    match input with
    | .request handle request _ => self.compositor.alive handle = true → self.grants handle request = true
    | .newLayerSurface output => (self.fromResource output).isSome = true ∨ self.compositor.space.outputs ≠ []
    | .compositor _ | .outputDropped _ | .initialConfigure _ | .reset _ => True

instance : ∀ history (self : ShellState) input, Decidable (Granted history self input)
  | _, self, .request handle request _ => inferInstanceAs (Decidable (self.compositor.panicked = false →
      self.compositor.alive handle = true → self.grants handle request = true))
  | _, self, .newLayerSurface output => inferInstanceAs (Decidable (self.compositor.panicked = false →
      (self.fromResource output).isSome = true ∨ self.compositor.space.outputs ≠ []))
  | _, _, .compositor _ | _, _, .outputDropped _ | _, _, .initialConfigure _ | _, _, .reset _ =>
      .isTrue fun _ => trivial

variable {self : ShellState} {handle : Nat}

/-! ## One request -/

/-- Without the requested output, the geometry is of an output that is there. -/
theorem firstOutput_of_element {host : RequestHost} {serial : Nat}
    (element : self.outputForElement handle host = some serial) : self.firstOutput.isSome = true ∧ self.inSpace handle = true := by
  unfold outputForElement at element
  split at element
  · rename_i shown
    refine ⟨?_, shown⟩
    have found := (Option.filter_eq_some_iff.mp element).2
    obtain ⟨output, known⟩ := Option.isSome_iff_exists.mp found
    have member := List.mem_of_find?_eq_some known
    unfold firstOutput
    cases outputs : self.compositor.space.outputs with
    | nil => rw [outputs] at member; cases member
    | cons first rest => rfl
  · cases element

/-- The answer to a request: a panic, or a configure where the initial one was sent. -/
def Answers (self : ShellState) (handle : Nat) (granted : Bool) (answer : Option (ShellState × Bool)) : Prop :=
  if granted then ∃ after, answer = some (after, (self.surfaces handle).initialConfigureSent) else answer = none

theorem configure_answers {after : ShellState}
    (same : (after.surfaces handle).initialConfigureSent = (self.surfaces handle).initialConfigureSent) :
    Answers self handle true (after.configure handle) := ⟨after, congrArg (fun sent => some (after, sent)) same⟩

theorem setSurface_sent (output : Option Nat) :
    ((self.setSurface handle { self.surfaces handle with fullscreenOutput := output }).surfaces handle).initialConfigureSent =
      (self.surfaces handle).initialConfigureSent := by
  unfold setSurface
  dsimp only
  rw [if_pos rfl]

theorem setFullscreen_answers (self : ShellState) (handle : Nat) (output : Option Nat) :
    Answers self handle (self.inSpace handle) (self.setFullscreen handle output) := by
  unfold setFullscreen
  cases shown : self.inSpace handle with
  | true => exact configure_answers (setSurface_sent output)
  | false => rfl

theorem fullscreenRequest_answers (output : Option Nat) (host : RequestHost) :
    Answers self handle (self.fullscreenFound handle output) (self.fullscreenRequest handle output host) := by
  set marked := self.markFullscreen handle true with marking
  have placed := fun output => setFullscreen_answers marked handle output
  unfold fullscreenRequest fullscreenFound fullscreenOutputGeometry
  dsimp only
  rw [← marking, show marked.fromResource output = self.fromResource output from rfl]
  cases explicit : self.fromResource output with
  | some serial =>
    have same : marked.outputGeometry serial = self.outputGeometry serial := rfl
    simp only [Option.some_or, Option.bind_some, same]
    cases geometry : self.outputGeometry serial with
    | none =>
      rw [Option.isNone_none, Bool.or_true]
      exact configure_answers rfl
    | some rect =>
      rw [Option.isNone_some, Bool.or_false]
      exact placed _
  | none =>
    rw [Option.bind_none, Option.isNone_none, Bool.or_true, Option.none_or]
    cases element : marked.outputForElement handle host with
    | none => exact configure_answers rfl
    | some serial =>
      obtain ⟨first, inSpace⟩ := firstOutput_of_element element
      obtain ⟨chosen, found⟩ := Option.isSome_iff_exists.mp first
      rw [Option.bind_some]
      cases geometry : marked.outputGeometry serial with
      | none => exact configure_answers rfl
      | some rect =>
        rw [Option.none_or, found]
        have made := placed (if host.bound = true then some chosen else output)
        rw [inSpace] at made
        exact made

theorem unfullscreenRequest_answers :
    Answers self handle (self.grants handle .unfullscreen) (self.unfullscreenRequest handle) := by
  unfold unfullscreenRequest grants
  dsimp only
  have taken : ((self.markFullscreen handle false).surfaces handle).fullscreenOutput =
      (self.surfaces handle).fullscreenOutput := rfl
  rw [taken]
  generalize (self.surfaces handle).fullscreenOutput = output
  have same : ((self.markFullscreen handle false).setSurface handle
      { (self.markFullscreen handle false).surfaces handle with fullscreenOutput := none }).fromResource output =
        self.fromResource output := rfl
  rw [same]
  cases output with
  | none => exact configure_answers (setSurface_sent none)
  | some serial =>
    cases self.fromResource (some serial) with
    | none => rfl
    | some => exact configure_answers (setSurface_sent none)

theorem maximizeRequest_answers (host : RequestHost) :
    Answers self handle true (self.maximizeRequest handle host) := by
  unfold maximizeRequest
  dsimp only
  split
  · exact configure_answers rfl
  · split
    · exact configure_answers rfl
    · exact configure_answers rfl

/-- A request panics where it is not granted, and is answered with a configure otherwise. -/
theorem serve_answers (self : ShellState) (handle : Nat) (request : ShellRequest) (host : RequestHost) :
    Answers self handle (self.grants handle request) (self.serve handle request host) := by
  cases request with
  | fullscreen output => exact fullscreenRequest_answers output host
  | unfullscreen => exact unfullscreenRequest_answers
  | maximize => exact maximizeRequest_answers host
  | unmaximize => exact configure_answers rfl

theorem newLayerSurface_isSome (output : Option Nat) : (self.newLayerSurface output).isSome = true ↔
    (self.fromResource output).isSome = true ∨ self.compositor.space.outputs ≠ [] := by
  unfold newLayerSurface firstOutput
  cases self.fromResource output with
  | some serial => simp
  | none =>
    cases self.compositor.space.outputs with
    | nil => simp
    | cons first rest => simp

/-! ## Every input -/

theorem step_settled (self : ShellState) (input : ShellInput) (history : List ShellReply) :
    Transition.Throughout Settled ((step self input).2 ++ history) ↔
      Transition.Throughout Settled history ∧ Granted history self input := by
  unfold step Granted
  cases going : self.compositor.panicked with
  | true => exact ⟨fun settled => ⟨settled, nofun⟩, And.left⟩
  | false =>
    rw [if_neg Bool.false_ne_true]
    cases input with
    | compositor | outputDropped | initialConfigure | reset =>
      exact ⟨fun settled => ⟨settled, fun _ => trivial⟩, And.left⟩
    | request handle request host =>
      dsimp only
      cases alive : self.compositor.alive handle with
      | false => exact ⟨fun settled => ⟨settled, nofun⟩, And.left⟩
      | true =>
        rw [if_neg (by decide)]
        have answers := serve_answers self handle request host
        unfold Answers at answers
        cases granted : self.grants handle request with
        | true =>
          rw [granted, if_pos rfl] at answers
          obtain ⟨after, served⟩ := answers
          rw [served]
          exact ⟨fun settled => ⟨settled.2, fun _ _ => rfl⟩, fun settled => ⟨id, settled.1⟩⟩
        | false =>
          rw [granted, if_neg Bool.false_ne_true] at answers
          rw [answers]
          exact ⟨fun settled => settled.1.elim, fun settled => nomatch settled.2 rfl rfl⟩
    | newLayerSurface output =>
      dsimp only
      rw [← newLayerSurface_isSome]
      cases self.newLayerSurface output with
      | none => exact ⟨fun settled => settled.1.elim, fun settled => nomatch settled.2 rfl⟩
      | some => exact ⟨fun settled => ⟨settled, fun _ => rfl⟩, And.left⟩

abbrev Execution (allowed : Transition.Condition ShellState ShellInput ShellReply) : List ShellReply → ShellState → Prop :=
  Transition.Run step allowed fun self => ∃ compositor, AnvilState.Started compositor ∧ self = { compositor }

/-- While no hidden window asks for fullscreen on a shown output by name, the output that
a window leaves fullscreen on can still be looked up, and layer surfaces find an output,
no request panics and each is configured. The first request against that panics. -/
theorem shell_requests_settled {history : List ShellReply} (run : Execution Granted history self) :
    Transition.Throughout Settled history ∧ ∀ input, ¬Granted history self input →
      ¬Transition.Throughout Settled ((step self input).2 ++ history) := by
  constructor
  · apply @Transition.Run.invariant _ _ _ _ _ _ _ _ (fun history _ => Transition.Throughout Settled history) ?_ ?_ run
    · exact fun _ _ => trivial
    · exact fun history self input _ granted settled => (step_settled self input history).mpr ⟨settled, granted⟩
  · exact fun input denied settled => denied ((step_settled self input history).mp settled).2

def oneScreen : Event := .connectOutput "DP-1" none (some ⟨0, 0, 1920, 1080⟩)

/-- A window is shown, and hidden by a change of workspace. -/
def hiddenWindow : List ShellInput :=
  [.compositor oneScreen, .compositor (.windowCreated { handle := 1 }), .compositor (.windowMapped 1),
    .initialConfigure 1, .compositor (.maintain {}), .compositor (.command {} "workspace 2"), .compositor (.maintain {})]

/-- Its client asks for fullscreen on the screen by name. -/
theorem hidden_fullscreen_panics :
    ¬∀ history self, Execution Transition.unrestricted history self → Transition.Throughout Settled history := by
  intro always
  have begun : Execution Transition.unrestricted [] { compositor := AnvilState.initial (.ok {}) } :=
    .start ⟨_, ⟨_, rfl⟩, rfl⟩
  have run := begun.execute (hiddenWindow ++ [.request 1 (.fullscreen (some 0)) {}])
    (Transition.permits_unrestricted _ _ _ _)
  rw [List.append_nil] at run
  have seen : (Transition.execute step { compositor := AnvilState.initial (.ok {}) }
      (hiddenWindow ++ [.request 1 (.fullscreen (some 0)) {}])).2 = [.panicked] := by
    decide +kernel
  rw [seen] at run
  exact (always _ _ run).1

/-- The other requests of a hidden window. -/
theorem shell_requests_settled_hidden :
    let final := Transition.execute step { compositor := AnvilState.initial (.ok {}) } (hiddenWindow ++
      [.request 1 (.fullscreen none) {}, .request 1 .maximize {}, .request 1 .unfullscreen {}, .newLayerSurface none])
    Transition.Throughout Settled final.2 ∧ ∀ input, ¬Granted final.2 final.1 input →
      ¬Transition.Throughout Settled ((step final.1 input).2 ++ final.2) := by
  intro final
  have begun : Execution Granted [] { compositor := AnvilState.initial (.ok {}) } := .start ⟨_, ⟨_, rfl⟩, rfl⟩
  have run := begun.execute (hiddenWindow ++
    [.request 1 (.fullscreen none) {}, .request 1 .maximize {}, .request 1 .unfullscreen {}, .newLayerSurface none])
    (by decide +kernel)
  rw [List.append_nil] at run
  exact shell_requests_settled run

end ShellState

end Luma.Compositor
