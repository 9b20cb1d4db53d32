import Luma.Compositor.CaptureLocking

/-! The screencopy requests in detail: besides what the compositor lets its clients know,
the buffers that they hand over and get back are written down, under their frames.
-/

set_option autoImplicit false

namespace Luma.Compositor

open Luma.Library Luma.Core

inductive CopyObservation where
  | handed (frame buffer : Nat)
  /-- The output was captured for the frame. -/
  | copied (frame : Nat)
  | released (frame buffer : Nat)
  | ready (frame : Nat)
  | failed (frame : Nat)
  /-- A protocol error, which ends the client. -/
  | rejected (frame : Nat)
  | destroyed (frame : Nat)
  deriving DecidableEq, Repr

def CopyObservation.frame : CopyObservation → Nat
  | .handed frame _ | .copied frame | .released frame _ | .ready frame | .failed frame | .rejected frame
  | .destroyed frame => frame

/-- The events after which a client hears no more of its frame. -/
def CopyObservation.answers (frame : Nat) : CopyObservation → Bool
  | .ready other | .failed other => other == frame
  | _ => false

inductive CopyInput where
  | event (event : Event)
  /-- A client may destroy a buffer that waits; the compositor keeps its hold on it. -/
  | bufferDestroyed (buffer : Nat)

namespace AnvilState

/-! ## Requests -/

def createFrameEffects (self : AnvilState) (manager output : Nat) (requested : Option Rect) : List CopyObservation :=
  let id := self.screencopy.nextFrame
  if (self.createFrame manager output requested).2.isEmpty then [] else [.failed id]

/-- What `perform_copy` does, the latest first. -/
def performCopyEffects (self : AnvilState) (host : Host) (frame : ScreencopyFrame) (buffer : Nat) :
    List CopyObservation :=
  match frame.output.bind self.findOutput with
  | none => [.failed frame.id, .released frame.id buffer]
  | some output =>
      if self.lock.locked || !self.desktop.active then [.failed frame.id, .released frame.id buffer]
      else if !host.validBuffer frame.id then [.rejected frame.id, .released frame.id buffer]
      else
        let written := (host.copy frame.id).toOption.isSome && sameSize frame output
        let answer := if written then .ready frame.id else .failed frame.id
        [answer, .released frame.id buffer, .copied frame.id]

/-- The requests that wait, for frames that are still there. -/
def alivePending (self : AnvilState) : List Nat := self.screencopy.pending.filter self.isScreencopyAlive

def queueFull (self : AnvilState) : Bool := 32 ≤ self.alivePending.length

/-- A frame that was used before is an error, and its buffer is left alone. -/
def requestCopyEffects (self : AnvilState) (host : Host) (frame buffer : Nat) (withDamage : Bool) :
    List CopyObservation :=
  match self.findScreencopy frame with
  | none => []
  | some found =>
      if found.used then [.rejected frame, .handed frame buffer]
      else if withDamage && !found.initial then
        if self.queueFull then
          [.failed frame, .released frame buffer, .handed frame buffer]
        else [.handed frame buffer]
      else self.performCopyEffects host found buffer ++ [.handed frame buffer]

def serveNext (host : Host) (current : AnvilState × List CopyObservation) (frame : Nat) :
    AnvilState × List CopyObservation :=
  match current.1.findScreencopy frame with
  | none => current
  | some found =>
      match found.pending with
      | none => current
      | some buffer =>
          let state := current.1.updateScreencopy frame fun data => { data with pending := none }
          (state, state.performCopyEffects host found buffer ++ current.2)

/-- `process_pending`. -/
def processPending (self : AnvilState) (host : Host) : AnvilState × List CopyObservation :=
  self.screencopy.pending.foldl (serveNext host)
    (self.setScreencopy { self.screencopy with pending := [] }, [])

/-- Destroying a frame gives the buffer back that waits in it. -/
def destroyEffects (self : AnvilState) (frame : Nat) : List CopyObservation :=
  match self.findScreencopy frame with
  | none => []
  | some found =>
      match found.pending with
      | none => [.destroyed frame]
      | some buffer => [.destroyed frame, .released frame buffer]

def copyEffects (self : AnvilState) : Event → List CopyObservation
  | .captureOutput manager output region => self.createFrameEffects manager output region
  | .copy host frame buffer withDamage => self.requestCopyEffects host frame buffer withDamage
  | .screencopyDestroyed frame => self.destroyEffects frame
  | .repaint host =>
      if !self.desktop.redraw || !self.desktop.active then []
      else ((self.setDesktop { self.desktop with redraw := false }).processPending host).2
  | _ => []

def copyStep : Transition.Step AnvilState CopyInput CopyObservation := fun self input =>
  match input with
  | .event event => ((self.step event).1, if self.panicked then [] else self.copyEffects event)
  | .bufferDestroyed _ => (self, [])

variable {self : AnvilState} {host : Host} {frame buffer : Nat}

/-! ## The requests in the model -/

theorem findScreencopy_congr {after : AnvilState} (same : after.screencopy = self.screencopy) (frame : Nat) :
    after.findScreencopy frame = self.findScreencopy frame := by
  unfold findScreencopy
  rw [same]

def markUsed (data : ScreencopyFrame) : ScreencopyFrame := { data with used := true }

/-- A frame that waits for damage is queued, unless too many are. -/
def queueCopy (self : AnvilState) (frame buffer : Nat) : AnvilState :=
  let marked := (self.updateScreencopy frame markUsed).setScreencopy
    { (self.updateScreencopy frame markUsed).screencopy with pending := self.alivePending }
  if self.queueFull then marked
  else
    let held := marked.updateScreencopy frame fun data => { data with pending := some buffer }
    held.setScreencopy { held.screencopy with pending := held.screencopy.pending ++ [frame] }

theorem alivePending_mark (self : AnvilState) (frame : Nat) :
    (self.updateScreencopy frame markUsed).alivePending = self.alivePending := by
  have alive : (self.updateScreencopy frame markUsed).isScreencopyAlive = self.isScreencopyAlive := by
    funext other
    unfold isScreencopyAlive
    rw [findScreencopy_change self frame other markUsed fun _ => rfl, Option.isSome_map]
  unfold alivePending
  rw [alive]
  rfl

/-- What a request for a frame that is there does to the state. -/
theorem requestCopy_state {data : ScreencopyFrame} (found : self.findScreencopy frame = some data)
    (fresh : data.used = false) (withDamage : Bool) :
    (self.requestCopy host frame buffer withDamage).1 =
      if withDamage && !data.initial then self.queueCopy frame buffer else self.updateScreencopy frame markUsed := by
  have alive : (self.updateScreencopy frame fun data => { data with used := true }).screencopy.pending.filter
      (self.updateScreencopy frame fun data => { data with used := true }).isScreencopyAlive = self.alivePending :=
    alivePending_mark self frame
  unfold requestCopy queueCopy queueFull
  rw [found]
  dsimp only
  rw [fresh, if_neg Bool.false_ne_true]
  split
  · rw [alive]
    by_cases full : self.alivePending.length ≥ 32
    · rw [if_pos full, if_pos (decide_eq_true full)]
      rfl
    · rw [if_neg full, if_neg (by simpa using full)]
      rfl
  · rfl

theorem queueCopy_find (self : AnvilState) (frame buffer other : Nat) :
    (self.queueCopy frame buffer).findScreencopy other = (self.findScreencopy other).map fun data =>
      if other = frame then if self.queueFull then markUsed data else { markUsed data with pending := some buffer }
      else data := by
  have marked := findScreencopy_change self frame other markUsed fun _ => rfl
  unfold queueCopy
  dsimp only
  cases self.queueFull with
  | true => exact marked
  | false =>
    rw [if_neg Bool.false_ne_true]
    refine (findScreencopy_change _ frame other (fun data => { data with pending := some buffer }) fun _ => rfl).trans ?_
    refine (congrArg _ marked).trans ?_
    rw [Option.map_map]
    congr 1
    funext data
    by_cases same : other = frame
    · simp [same]
    · simp [same]

theorem queueCopy_next (frame buffer : Nat) :
    (self.queueCopy frame buffer).screencopy.nextFrame = self.screencopy.nextFrame := by
  unfold queueCopy
  dsimp only
  split
  · rfl
  · rfl

theorem queueCopy_pending (frame buffer : Nat) : (self.queueCopy frame buffer).screencopy.pending =
    if self.queueFull then self.alivePending else self.alivePending ++ [frame] := by
  unfold queueCopy
  dsimp only
  split
  · rfl
  · rfl

theorem destroyScreencopy_find (self : AnvilState) (frame other : Nat) :
    (self.destroyScreencopy frame).1.findScreencopy other = if other = frame then none else self.findScreencopy other := by
  show (self.screencopy.frames.filter _).find? _ = _
  rw [List.find?_filter]
  by_cases same : other = frame
  · subst same
    rw [if_pos rfl, List.find?_eq_none]
    intro data _
    by_cases named : data.id = other
    · simp [named]
    · simp [named]
  · rw [if_neg same]
    unfold findScreencopy
    congr 1
    funext data
    by_cases named : data.id = other
    · simp [named, same]
    · simp [named]

/-! ## Working off the queue -/

section

variable {current : AnvilState × List CopyObservation}

theorem serveNext_find (host : Host) (current : AnvilState × List CopyObservation) (frame other : Nat) :
    (serveNext host current frame).1.findScreencopy other =
      (current.1.findScreencopy other).map fun data => if other = frame then { data with pending := none } else data := by
  have unchanged (absent : ∀ data, current.1.findScreencopy frame = some data → data.pending = none) :
      current.1.findScreencopy other =
        (current.1.findScreencopy other).map fun data => if other = frame then { data with pending := none } else data := by
    rcases found : current.1.findScreencopy other with - | data
    · rfl
    · by_cases same : other = frame
      · subst same
        have idle := absent data found
        rw [Option.map_some, if_pos rfl, ← idle]
      · rw [Option.map_some, if_neg same]
  unfold serveNext
  rcases found : current.1.findScreencopy frame with - | data
  · exact unchanged fun _ there => by rw [found] at there; cases there
  · dsimp only
    rcases waits : data.pending with - | buffer
    · exact unchanged fun other same => by
        rw [found] at same
        cases same
        exact waits
    · exact findScreencopy_change current.1 frame other (fun data => { data with pending := none }) fun _ => rfl

theorem serve_find (frames : List Nat) (host : Host) (current : AnvilState × List CopyObservation) (frame : Nat) :
    (frames.foldl (serveNext host) current).1.findScreencopy frame =
      (current.1.findScreencopy frame).map fun data =>
        if frame ∈ frames then { data with pending := none } else data := by
  induction frames generalizing current with
  | nil => simp
  | cons first frames ih =>
    rw [List.foldl_cons, ih, serveNext_find, Option.map_map]
    congr 1
    funext data
    by_cases now : frame = first
    · simp [now]
    · simp [now]

theorem serveNext_effects (host : Host) (current : AnvilState × List CopyObservation) (frame : Nat)
    (data : ScreencopyFrame) (buffer : Nat) :
    (serveNext host current frame).1.performCopyEffects host data buffer = current.1.performCopyEffects host data buffer := by
  unfold serveNext
  split
  · rfl
  · split
    · rfl
    · rfl

theorem serveNext_mono (host : Host) (current : AnvilState × List CopyObservation) (frame : Nat) :
    current.2.Sublist (serveNext host current frame).2 := by
  unfold serveNext
  split
  · exact List.Sublist.refl _
  · split
    · exact List.Sublist.refl _
    · exact List.sublist_append_right _ _

theorem serve_mono (frames : List Nat) (host : Host) (current : AnvilState × List CopyObservation) :
    current.2.Sublist (frames.foldl (serveNext host) current).2 := by
  induction frames generalizing current with
  | nil => exact List.Sublist.refl _
  | cons first frames ih => exact (serveNext_mono host current first).trans (ih _)

/-- A frame that waits in the queue is served with what it was asked for. -/
theorem serve_effects (frames : List Nat) {data : ScreencopyFrame} (queued : frame ∈ frames)
    (found : current.1.findScreencopy frame = some data) (waits : data.pending = some buffer) :
    (current.1.performCopyEffects host data buffer).Sublist (frames.foldl (serveNext host) current).2 := by
  induction frames generalizing current with
  | nil => cases queued
  | cons first frames ih =>
    by_cases now : frame = first
    · subst now
      have served : (current.1.performCopyEffects host data buffer).Sublist (serveNext host current frame).2 := by
        unfold serveNext
        rw [found]
        dsimp only
        rw [waits]
        exact List.sublist_append_left _ _
      exact served.trans (serve_mono frames host _)
    · have later : frame ∈ frames := (List.mem_cons.mp queued).resolve_left now
      have still : (serveNext host current first).1.findScreencopy frame = some data := by
        rw [serveNext_find, found, Option.map_some, if_neg now]
      have served := ih later still
      rwa [serveNext_effects] at served

theorem serve_pending (frames : List Nat) (host : Host) (current : AnvilState × List CopyObservation) :
    (frames.foldl (serveNext host) current).1.screencopy.pending = current.1.screencopy.pending := by
  induction frames generalizing current with
  | nil => rfl
  | cons first frames ih =>
    rw [List.foldl_cons, ih]
    unfold serveNext
    split
    · rfl
    · split
      · rfl
      · rfl

/-- The detailed queue leaves the state that the queue of the model does. -/
theorem serve_state (frames : List Nat) (host : Host) (current : AnvilState × List CopyObservation)
    (seen : List Observation) :
    (frames.foldl (serveNext host) current).1 = (frames.foldl (processScreencopy host) (current.1, seen)).1 := by
  induction frames generalizing current seen with
  | nil => rfl
  | cons first frames ih =>
    rw [List.foldl_cons, List.foldl_cons]
    have same : (serveNext host current first).1 = (processScreencopy host (current.1, seen) first).1 := by
      unfold serveNext processScreencopy
      dsimp only
      rcases current.1.findScreencopy first with - | data
      · rfl
      · dsimp only
        rcases data.pending with - | buffer
        · rfl
        · rfl
    rw [ih _ (processScreencopy host (current.1, seen) first).2, same]

end

theorem processPending_effects {data : ScreencopyFrame} (queued : frame ∈ self.screencopy.pending)
    (found : self.findScreencopy frame = some data) (waits : data.pending = some buffer) :
    (self.performCopyEffects host data buffer).Sublist (self.processPending host).2 :=
  @serve_effects host frame buffer (self.setScreencopy { self.screencopy with pending := [] }, []) self.screencopy.pending
    data queued found waits

/-! ## A repaint -/

theorem repaint_screencopy (host : Host) (redraws : self.desktop.redraw = true) (active : self.desktop.active = true) :
    (self.repaint host).1.screencopy =
      ((self.setDesktop { self.desktop with redraw := false }).processPending host).1.screencopy := by
  have same := serve_state self.screencopy.pending host
    ((self.setDesktop { self.desktop with redraw := false }).setScreencopy { self.screencopy with pending := [] }, []) []
  unfold repaint
  rw [redraws, active]
  simp only [Bool.not_true, Bool.or_self, Bool.false_eq_true, if_false]
  rw [(processOutputs_drained _ host _).served.rest]
  exact congrArg (·.screencopy) same.symm

theorem repaint_idle (idle : (!self.desktop.redraw || !self.desktop.active) = true) :
    self.repaint host = (self, []) := by
  unfold repaint
  rw [if_pos idle]

theorem paints_of_not_idle (paints : ¬(!self.desktop.redraw || !self.desktop.active) = true) :
    self.desktop.redraw = true ∧ self.desktop.active = true := by
  simpa using paints

/-! ## A step -/

theorem copyEffects_silent {event : Event} (other : screencopyEvent event = false) : self.copyEffects event = [] := by
  cases event with
  | repaint | captureOutput | copy | screencopyDestroyed => cases other
  | _ => rfl

theorem copyStep_event (going : self.panicked = false) (event : Event) :
    copyStep self (.event event) = ((self.handle event).1, self.copyEffects event) := by
  unfold copyStep step
  dsimp only
  rw [going]
  rfl

end AnvilState

end Luma.Compositor
