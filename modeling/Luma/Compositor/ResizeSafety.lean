import Luma.Compositor.ResizeGrabs

/-! When a resize may be dragged and ended.

Whether a surface's resize is under way can be told from the replies alone: two grabs of
one surface share its state, and the one that ends first takes it on for both.
-/

set_option autoImplicit false

namespace Luma.Compositor

open Luma.Library Luma.Core

namespace ResizeShell

/-- No grab of the surface has ended since the last one began. -/
def underWay (surface : Nat) : List ResizeReply → Bool
  | [] => false
  | .started other :: earlier => other == surface || underWay surface earlier
  | .ended other _ :: earlier => other != surface && underWay surface earlier
  | .panicked _ :: earlier => underWay surface earlier

/-- Nothing panics, and a surface is being resized whenever a grab of it ends. -/
def Sound (reply : ResizeReply) (_ : List ResizeReply) : Prop :=
  match reply with
  | .started _ => True
  | .ended _ state => state.isResizing = true
  | .panicked _ => False

/-! ## What the handlers take for granted -/

def draggable (self : ResizeShell) (host : ResizeHost) (grab : ResizeGrab) : Bool :=
  !self.compositor.alive grab.window || !self.isX11 grab.window || (self.inSpace grab.window && host.configured)

/-- A toplevel must be shown where its top or left side was dragged, an X11 window in any case. -/
def endable (self : ResizeShell) (history : List ResizeReply) (host : ResizeHost) (grab : ResizeGrab) : Bool :=
  !self.compositor.alive grab.window ||
    if self.isX11 grab.window then
      self.inSpace grab.window && host.configured && (self.xwaylandSurface grab.window).all (underWay · history)
    else
      (!grab.data.edges.intersects .topLeft || self.inSpace grab.window) &&
        underWay (self.toplevelSurface grab.window) history

/-- Whether a request reaches the surface's data. -/
def asks (self : ResizeShell) (surface serial : Nat) (host : ResizeHost) : Bool :=
  (self.windowForSurface surface).any self.canManipulateWindow && (self.grabWith serial).isSome && host.sameClient

def x11Asks (self : ResizeShell) (handle : Nat) : Bool :=
  self.pointer.isSome && (self.inSpace handle && self.isX11 handle) && self.canManipulateWindow handle

def grants (self : ResizeShell) (history : List ResizeReply) : ResizeInput → Bool
  | .resizeRequest surface serial _ host => !self.asks surface serial host || (self.surfaceData surface).isSome
  | .x11ResizeRequest handle _ _ _ =>
      !self.x11Asks handle || (self.xwaylandSurface handle).any fun surface => (self.surfaceData surface).isSome
  | .pointerMotion host => (self.pointer.bind (·.resize)).all (self.draggable host)
  | .touchMotion slot host => (self.touchResize slot).all (self.draggable host)
  | .pointerButton button _ isPressed host =>
      !(self.nowPressed button isPressed).isEmpty || (self.pointer.bind (·.resize)).all (self.endable history host)
  | .touchUp slot _ host => (self.touchResize slot).all (self.endable history host)
  | .compositor _ | .associated _ _ | .moved _ _ | .commit _ _ | .ackConfigure _ _ _ | .pointerGrabbed _
  | .touchGrabbed _ | .mouseAction _ _ _ _ _ _ | .touchCancel => true

def Granted : Transition.Condition ResizeShell ResizeInput ResizeReply := fun history self input =>
  self.compositor.panicked = false → self.grants history input = true

instance : ∀ history (self : ResizeShell) input, Decidable (Granted history self input) := fun history self input =>
  inferInstanceAs (Decidable (self.compositor.panicked = false → self.grants history input = true))

/-! ## What the surfaces keep -/

def resizing (self : ResizeShell) (surface : Nat) : Bool := (self.resizeState surface).any (·.isResizing)

variable {self : ResizeShell} {history : List ResizeReply}

theorem resizing_setSurfaceData (surface other : Nat) (data : SurfaceData) :
    (self.setSurfaceData surface data).resizing other =
      if other = surface then data.resizeState.isResizing else self.resizing other := by
  unfold resizing resizeState setSurfaceData
  by_cases same : other = surface
  · simp [same]
  · simp [same]

theorem resizing_setGrab (device : Device) (serial : Nat) (grab : ResizeGrab) (surface : Nat) :
    (self.setGrab device serial grab).resizing surface = self.resizing surface := by
  cases device <;> rfl

/-- Data that is put in place says nothing of a resize. -/
theorem resizing_insertIfMissing (surface other : Nat) :
    (self.insertIfMissing surface).resizing other = self.resizing other := by
  unfold insertIfMissing
  split
  · rfl
  · rename_i missing
    rw [resizing_setSurfaceData]
    split
    · rename_i same
      subst same
      have absent : self.surfaceData other = none := by simpa using missing
      simp [resizing, resizeState, absent, ResizeState.isResizing]
    · rfl

theorem insertIfMissing_isSome (surface : Nat) : ((self.insertIfMissing surface).surfaceData surface).isSome = true := by
  unfold insertIfMissing
  split
  · assumption
  · simp [setSurfaceData]

/-- Neither waiting state is the one of a resize. -/
theorem ackConfigure_resizing (surface serial other : Nat) (wasResizing : Bool) :
    (self.ackConfigure surface serial wasResizing).resizing other = self.resizing other := by
  unfold ackConfigure
  split
  · rename_i data awaited waiting
    split
    · rw [resizing_setSurfaceData]
      split
      · rename_i same
        subst same
        simp [resizing, waiting, ResizeState.isResizing]
      · rfl
    · rfl
  · rfl

theorem handleToplevelCommit_resizing (surface other : Nat) (host : ResizeHost) :
    (self.handleToplevelCommit surface host).resizing other = self.resizing other := by
  unfold handleToplevelCommit
  split
  · rfl
  · split
    · split
      · rfl
      · rfl
    · rfl

theorem ensureInitialConfigure_resizing (surface other : Nat) :
    (self.ensureInitialConfigure surface).resizing other = self.resizing other := by
  have inserted := @resizing_insertIfMissing self surface
  unfold ensureInitialConfigure
  dsimp only
  split
  · exact inserted other
  · split
    · rename_i data waiting
      rw [resizing_setSurfaceData]
      split
      · rename_i same
        subst same
        have before := inserted other
        simp only [resizing, waiting, Option.any_some, ResizeState.isResizing] at before
        exact before
      · exact inserted other
    · exact inserted other

theorem windowForSurface_inSpace {surface window : Nat} (found : self.windowForSurface surface = some window) :
    self.inSpace window = true := by
  have member := List.mem_of_find?_eq_some found
  simpa [inSpace] using member

theorem elementLocation_inSpace {handle : Nat} (shown : self.inSpace handle = true) :
    self.elementLocation handle = some (self.locations handle) := by
  unfold elementLocation
  rw [if_pos shown]

theorem elementLocation_hidden {handle : Nat} (hidden : self.inSpace handle = false) :
    self.elementLocation handle = none := by
  unfold elementLocation
  rw [hidden]
  rfl

/-! ## One input -/

/-- While the process lives, the replies tell which surfaces are being resized. -/
def Tracked (history : List ResizeReply) (self : ResizeShell) : Prop :=
  self.compositor.panicked = false → ∀ surface, underWay surface history = self.resizing surface

/-- What an input leads to: its replies are sound if it is granted, and they are kept track of. -/
def Serves (history : List ResizeReply) (granted : Bool) (outcome : ResizeShell × List ResizeReply) : Prop :=
  (Transition.Throughout Sound (outcome.2 ++ history) ↔ Transition.Throughout Sound history ∧ granted = true) ∧
    Tracked (outcome.2 ++ history) outcome.1

theorem serves_panic (reason : ResizePanic) : Serves history false (self.panic reason) :=
  ⟨⟨fun sound => sound.1.elim, fun sound => nomatch sound.2⟩, nofun⟩

section

variable (tracks : ∀ surface, underWay surface history = self.resizing surface)
include tracks

theorem serves_quiet {after : ResizeShell} (same : ∀ surface, after.resizing surface = self.resizing surface) :
    Serves history true (after, []) :=
  ⟨⟨fun sound => ⟨sound, rfl⟩, And.left⟩, fun _ surface => (tracks surface).trans (same surface).symm⟩

theorem beginResize_serves (device : Device) (surface window serial : Nat) (edges : ResizeEdge) (host : ResizeHost)
    (shown : self.inSpace window = true) :
    Serves history (self.surfaceData surface).isSome (self.beginResize device surface window serial edges host) := by
  unfold beginResize
  rw [elementLocation_inSpace shown]
  dsimp only
  cases kept : self.surfaceData surface with
  | none => exact serves_panic .surfaceData
  | some data =>
    refine ⟨⟨fun sound => ⟨sound.2, rfl⟩, fun sound => ⟨trivial, sound.1⟩⟩, fun _ other => ?_⟩
    rw [resizing_setGrab, resizing_setSurfaceData, List.singleton_append, underWay, tracks other]
    by_cases same : other = surface
    · simp [same, ResizeState.isResizing]
    · simp [same, Ne.symm same]

theorem takeOn_serves (surface : Nat) {next : ResizeData → ResizeState} (ends : ∀ data, (next data).isResizing = false) :
    Serves history (underWay surface history) (self.takeOn surface next) := by
  rw [tracks surface]
  unfold takeOn resizing resizeState
  cases kept : self.surfaceData surface with
  | none => exact serves_panic .surfaceData
  | some data =>
    dsimp only
    rw [Option.map_some, Option.any_some]
    cases state : data.resizeState with
    | resizing resize =>
      refine ⟨⟨fun sound => ⟨sound.2, rfl⟩, fun sound => ⟨rfl, sound.1⟩⟩, fun _ other => ?_⟩
      rw [resizing_setSurfaceData, List.singleton_append, underWay, tracks other]
      by_cases same : other = surface
      · simp [same, ends]
      · simp [same, Ne.symm same]
    | notResizing | waitingForFinalAck | waitingForCommit =>
      exact ⟨⟨fun sound => sound.1.elim, fun sound => nomatch sound.2⟩, nofun⟩

/-- A toplevel is only configured; an X11 window is configured where it is. -/
theorem drag_serves (grab : ResizeGrab) (host : ResizeHost) :
    Serves history (!self.isX11 grab.window || (self.inSpace grab.window && host.configured)) (self.drag grab host) := by
  have same : ∀ surface, (self.rememberResize grab.window).resizing surface = self.resizing surface := by
    intro surface
    unfold rememberResize
    dsimp only
    split <;> rfl
  have kind : (self.rememberResize grab.window).isX11 grab.window = self.isX11 grab.window := by
    unfold rememberResize
    dsimp only
    split <;> rfl
  have place : (self.rememberResize grab.window).elementLocation grab.window = self.elementLocation grab.window := by
    unfold rememberResize
    dsimp only
    split <;> rfl
  unfold drag
  dsimp only
  rw [kind, place]
  cases self.isX11 grab.window with
  | false => exact serves_quiet tracks same
  | true =>
    cases shown : self.inSpace grab.window with
    | false =>
      rw [elementLocation_hidden shown]
      exact serves_panic .location
    | true =>
      rw [elementLocation_inSpace shown]
      cases host.configured with
      | false => exact serves_panic .configure
      | true => exact serves_quiet tracks same

theorem settleAt_tracks (grab : ResizeGrab) (host : ResizeHost) (location : Point) :
    ∀ surface, underWay surface history = (self.settleAt grab host location).resizing surface := by
  intro surface
  rw [tracks surface]
  unfold settleAt
  split
  · rfl
  · rfl

theorem endWayland_serves (grab : ResizeGrab) (serial : Nat) (host : ResizeHost) :
    Serves history ((!grab.data.edges.intersects .topLeft || self.inSpace grab.window) &&
      underWay (self.toplevelSurface grab.window) history) (self.endWayland grab serial host) := by
  have ends : ∀ data, (ResizeState.waitingForFinalAck data serial).isResizing = false := fun _ => rfl
  unfold endWayland
  dsimp only
  cases grab.data.edges.intersects .topLeft with
  | false => exact takeOn_serves tracks _ ends
  | true =>
    cases shown : self.inSpace grab.window with
    | false =>
      rw [elementLocation_hidden shown]
      exact serves_panic .location
    | true =>
      rw [elementLocation_inSpace shown]
      exact takeOn_serves (settleAt_tracks tracks grab host _) _ ends

theorem endX11_serves (grab : ResizeGrab) (host : ResizeHost) :
    Serves history (self.inSpace grab.window && host.configured &&
      (self.xwaylandSurface grab.window).all (underWay · history)) (self.endX11 grab host) := by
  unfold endX11
  cases shown : self.inSpace grab.window with
  | false =>
    rw [elementLocation_hidden shown]
    exact serves_panic .location
  | true =>
    rw [elementLocation_inSpace shown]
    dsimp only
    cases host.configured with
    | false => exact serves_panic .configure
    | true =>
      have settled := settleAt_tracks tracks grab host (self.locations grab.window)
      cases self.xwaylandSurface grab.window with
      | none => exact serves_quiet tracks fun surface => (settled surface).symm.trans (tracks surface)
      | some surface => exact takeOn_serves settled surface fun _ => rfl

theorem endResize_serves (grab : ResizeGrab) (serial : Nat) (host : ResizeHost) :
    Serves history (self.endable history host grab) (self.endResize grab serial host) := by
  unfold endResize endable
  cases self.compositor.alive grab.window with
  | false => exact serves_quiet tracks fun _ => rfl
  | true =>
    cases self.isX11 grab.window with
    | false => exact endWayland_serves tracks grab serial host
    | true => exact endX11_serves tracks grab host

theorem pointerMotion_serves (host : ResizeHost) :
    Serves history (self.grants history (.pointerMotion host)) (self.pointerMotion host) := by
  unfold grants pointerMotion
  dsimp only
  cases self.pointer.bind (·.resize) with
  | none => exact serves_quiet tracks fun _ => rfl
  | some grab =>
    dsimp only
    rw [Option.all_some, draggable]
    cases self.compositor.alive grab.window with
    | false => exact serves_quiet tracks fun _ => rfl
    | true => exact drag_serves tracks grab host

theorem touchMotion_serves (slot : Nat) (host : ResizeHost) :
    Serves history (self.grants history (.touchMotion slot host)) (self.touchMotion slot host) := by
  unfold grants touchMotion
  dsimp only
  cases self.touchResize slot with
  | none => exact serves_quiet tracks fun _ => rfl
  | some grab =>
    dsimp only
    rw [Option.all_some, draggable]
    cases self.compositor.alive grab.window with
    | false => exact serves_quiet tracks fun _ => rfl
    | true => exact drag_serves tracks grab host

theorem pointerButton_serves (button serial : Nat) (isPressed : Bool) (host : ResizeHost) :
    Serves history (self.grants history (.pointerButton button serial isPressed host))
      (self.pointerButton button serial isPressed host) := by
  unfold grants pointerButton
  dsimp only
  cases self.pointer.bind (·.resize) with
  | none =>
    rw [Option.all_none, Bool.or_true]
    exact serves_quiet tracks fun _ => rfl
  | some grab =>
    cases (self.nowPressed button isPressed).isEmpty with
    | false => exact serves_quiet tracks fun _ => rfl
    | true =>
      let released : ResizeShell := { self with pressed := self.nowPressed button isPressed, pointer := none }
      exact @endResize_serves released history tracks grab serial host

theorem touchUp_serves (slot serial : Nat) (host : ResizeHost) :
    Serves history (self.grants history (.touchUp slot serial host)) (self.touchUp slot serial host) := by
  unfold grants touchUp
  dsimp only
  cases self.touchResize slot with
  | none => exact serves_quiet tracks fun _ => rfl
  | some grab =>
    let released : ResizeShell := { self with touch := none }
    exact @endResize_serves released history tracks grab serial host

theorem resizeRequest_serves (surface serial : Nat) (edges : ResizeEdge) (host : ResizeHost) :
    Serves history (self.grants history (.resizeRequest surface serial edges host))
      (self.resizeRequest surface serial edges host) := by
  unfold grants asks resizeRequest
  dsimp only
  cases found : self.windowForSurface surface with
  | none => exact serves_quiet tracks fun _ => rfl
  | some window =>
    dsimp only
    rw [Option.any_some]
    cases self.canManipulateWindow window with
    | false => exact serves_quiet tracks fun _ => rfl
    | true =>
      cases self.grabWith serial with
      | none => exact serves_quiet tracks fun _ => rfl
      | some device =>
        cases host.sameClient with
        | false => exact serves_quiet tracks fun _ => rfl
        | true => exact beginResize_serves tracks device surface window serial edges host (windowForSurface_inSpace found)

theorem x11ResizeRequest_serves (handle serial : Nat) (edges : ResizeEdge) (host : ResizeHost) :
    Serves history (self.grants history (.x11ResizeRequest handle serial edges host))
      (self.x11ResizeRequest handle serial edges host) := by
  unfold grants x11Asks x11ResizeRequest wlSurface
  dsimp only
  cases self.pointer with
  | none => exact serves_quiet tracks fun _ => rfl
  | some held =>
    cases shown : self.inSpace handle with
    | false => exact serves_quiet tracks fun _ => rfl
    | true =>
      cases self.isX11 handle with
      | false => exact serves_quiet tracks fun _ => rfl
      | true =>
        cases self.canManipulateWindow handle with
        | false => exact serves_quiet tracks fun _ => rfl
        | true =>
          cases self.xwaylandSurface handle with
          | none => exact serves_panic .wlSurface
          | some surface => exact beginResize_serves tracks .pointer surface handle serial edges host shown

/-- The mouse puts the surface's data in place itself. -/
theorem mouseAction_serves (button serial : Nat) (enabled : Bool) (under : Option Nat) (location : Point)
    (host : ResizeHost) : Serves history true (self.mouseAction button serial enabled under location host) := by
  unfold mouseAction
  split
  · exact serves_quiet tracks fun _ => rfl
  · split
    · exact serves_quiet tracks fun _ => rfl
    · rename_i window _
      cases shown : self.inSpace window with
      | false =>
        rw [elementLocation_hidden shown]
        exact serves_quiet tracks fun _ => rfl
      | true =>
        rw [elementLocation_inSpace shown]
        dsimp only
        split
        · exact serves_quiet tracks fun _ => rfl
        · split
          · exact serves_quiet tracks fun _ => rfl
          · rename_i surface _
            have kept : ∀ other, underWay other history = (self.insertIfMissing surface).resizing other :=
              fun other => (tracks other).trans (resizing_insertIfMissing surface other).symm
            have placed : (self.insertIfMissing surface).inSpace window = true := by
              unfold insertIfMissing
              split
              · exact shown
              · exact shown
            have begun := beginResize_serves kept .pointer surface window serial
              (quarter location (self.locations window) host.size) host placed
            rw [insertIfMissing_isSome] at begun
            exact begun

theorem commit_serves (surface : Nat) (host : ResizeHost) : Serves history true (self.commit surface host) := by
  unfold commit
  dsimp only
  split
  · rename_i window offset found _
    rw [elementLocation_inSpace (windowForSurface_inSpace found)]
    apply serves_quiet tracks
    intro other
    rw [ensureInitialConfigure_resizing]
    exact handleToplevelCommit_resizing surface other host
  · apply serves_quiet tracks
    intro other
    rw [ensureInitialConfigure_resizing]
    exact handleToplevelCommit_resizing surface other host

theorem serve_serves (input : ResizeInput) : Serves history (self.grants history input) (self.serve input) := by
  cases input with
  | compositor event =>
    apply serves_quiet tracks
    intro surface
    unfold handleEvent
    dsimp only
    split
    · rfl
    · rfl
  | associated | moved | pointerGrabbed | touchGrabbed | touchCancel => exact serves_quiet tracks fun _ => rfl
  | commit surface host => exact commit_serves tracks surface host
  | ackConfigure surface serial wasResizing =>
    exact serves_quiet tracks fun other => ackConfigure_resizing surface serial other wasResizing
  | resizeRequest surface serial edges host => exact resizeRequest_serves tracks surface serial edges host
  | x11ResizeRequest handle serial edges host => exact x11ResizeRequest_serves tracks handle serial edges host
  | mouseAction button serial enabled under location host =>
    exact mouseAction_serves tracks button serial enabled under location host
  | pointerMotion host => exact pointerMotion_serves tracks host
  | pointerButton button serial isPressed host => exact pointerButton_serves tracks button serial isPressed host
  | touchMotion slot host => exact touchMotion_serves tracks slot host
  | touchUp slot serial host => exact touchUp_serves tracks slot serial host

end

/-! ## Every order of inputs -/

theorem step_serves (tracked : Tracked history self) (input : ResizeInput) :
    (Transition.Throughout Sound ((step self input).2 ++ history) ↔
      Transition.Throughout Sound history ∧ Granted history self input) ∧
      Tracked ((step self input).2 ++ history) (step self input).1 := by
  unfold step Granted
  cases going : self.compositor.panicked with
  | true => exact ⟨⟨fun sound => ⟨sound, nofun⟩, And.left⟩, tracked⟩
  | false =>
    obtain ⟨sound, tracks⟩ := serve_serves (tracked going) input
    refine ⟨⟨fun after => ?_, fun before => ?_⟩, tracks⟩
    · exact ⟨(sound.mp after).1, fun _ => (sound.mp after).2⟩
    · exact sound.mpr ⟨before.1, before.2 rfl⟩

/-- Nothing is resized yet, whichever surfaces the toplevels will be made of. -/
def Started (self : ResizeShell) : Prop :=
  ∃ compositor toplevelSurface, AnvilState.Started compositor ∧ self = { compositor, toplevelSurface }

abbrev Execution (allowed : Transition.Condition ResizeShell ResizeInput ResizeReply) :
    List ResizeReply → ResizeShell → Prop := Transition.Run step allowed Started

theorem Execution.tracked {allowed : Transition.Condition ResizeShell ResizeInput ResizeReply}
    (run : Execution allowed history self) : Tracked history self := by
  apply Transition.Run.invariant ?_ ?_ run
  · rintro state ⟨compositor, toplevelSurface, _, rfl⟩ _ surface
    rfl
  · intro history self input _ _ tracked
    exact (step_serves tracked input).2

/-- Nothing panics and resizes end as such, while requests are for surfaces with data, an
X11 window stays shown as long as it is dragged, a grab at the top or left ends on a window
that is shown, the X server takes what it is told, and the grab that ends is the first to
end since one last began on its surface. The first input against that panics. -/
theorem resizing_safe {history : List ResizeReply} {self : ResizeShell} (run : Execution Granted history self) :
    Transition.Throughout Sound history ∧ ∀ input, ¬Granted history self input →
      ¬Transition.Throughout Sound ((step self input).2 ++ history) := by
  have tracked := run.tracked
  constructor
  · have both : Tracked history self ∧ Transition.Throughout Sound history := by
      apply @Transition.Run.invariant _ _ _ _ _ _ _ _
        (fun history self => Tracked history self ∧ Transition.Throughout Sound history) ?_ ?_ run
      · exact fun state begun => ⟨Execution.tracked (Transition.Run.start begun : Execution Granted [] state), trivial⟩
      · rintro history self input _ granted ⟨tracked, sound⟩
        obtain ⟨same, tracks⟩ := step_serves tracked input
        exact ⟨tracks, same.mpr ⟨sound, granted⟩⟩
    exact both.2
  · exact fun input denied sound => denied ((step_serves tracked input).1.mp sound).2

def ordinaryScreen : Event := .connectOutput "DP-1" none (some ⟨0, 0, 1920, 1080⟩)

/-- A floating window with a press on it that the client may resize from. -/
def pressedWindow : List ResizeInput :=
  [.compositor ordinaryScreen, .compositor (.windowCreated { handle := 1, parented := true }),
    .compositor (.windowMapped 1), .commit 7 {}, .compositor (.maintain {}), .pointerGrabbed (some 3)]

/-- Its top left corner is dragged while another workspace is shown. -/
def hiddenResize : List ResizeInput :=
  [.resizeRequest 7 3 .topLeft {}, .compositor (.command {} "workspace 2"), .compositor (.maintain {})]

def letGo : ResizeInput := .pointerButton 0x110 4 false {}

/-- The window is hidden when its corner is let go. -/
theorem hidden_resize_panics :
    ¬∀ history self, Execution Transition.unrestricted history self → Transition.Throughout Sound history := by
  intro always
  have begun : Execution Transition.unrestricted [] { compositor := AnvilState.initial (.ok {}), toplevelSurface := fun _ => 7 } :=
    .start ⟨_, _, ⟨_, rfl⟩, rfl⟩
  have run := begun.execute (pressedWindow ++ hiddenResize ++ [letGo]) (Transition.permits_unrestricted _ _ _ _)
  rw [List.append_nil] at run
  have seen : (Transition.execute step { compositor := AnvilState.initial (.ok {}), toplevelSurface := fun _ => 7 }
      (pressedWindow ++ hiddenResize ++ [letGo])).2 = [.panicked .location, .started 7] := by
    decide +kernel
  rw [seen] at run
  exact (always _ _ run).1

/-- The window is shown again in time, and a touch grab follows once the first resize is done. -/
def touchedAfter : List ResizeInput :=
  [.compositor (.command {} "workspace 1"), .compositor (.maintain {}), .pointerMotion {}, .commit 7 {}, letGo,
    .ackConfigure 7 5 true, .commit 7 {}, .touchGrabbed (some (6, 0)), .resizeRequest 7 6 .right {}, .touchMotion 0 {},
    .touchUp 0 8 {}]

def resizedTwice : List ResizeInput := pressedWindow ++ hiddenResize ++ touchedAfter

theorem resizing_safe_resizedTwice :
    let final := Transition.execute step { compositor := AnvilState.initial (.ok {}), toplevelSurface := fun _ => 7 }
      resizedTwice
    Transition.Throughout Sound final.2 ∧ ∀ input, ¬Granted final.2 final.1 input →
      ¬Transition.Throughout Sound ((step final.1 input).2 ++ final.2) := by
  intro final
  have begun : Execution Granted [] { compositor := AnvilState.initial (.ok {}), toplevelSurface := fun _ => 7 } :=
    .start ⟨_, _, ⟨_, rfl⟩, rfl⟩
  have run := begun.execute resizedTwice (by decide +kernel)
  rw [List.append_nil] at run
  exact resizing_safe run

end ResizeShell

end Luma.Compositor
