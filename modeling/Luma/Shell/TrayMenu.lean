import Luma.Library.Transition

/-! The popover menu of a tray item, of which only the visible page is read.

A page is loaded by a task that waits for one answer after the other and looks at the
generation after each. Closing the popover starts a new generation. Focus, icons and labels
are left out.
-/

set_option autoImplicit false

namespace Luma.Shell

open Luma.Library

/-- A child of a layout, with the properties that decide how it is shown. -/
structure Child where
  id : Int
  visible : Bool := true
  separator : Bool := false
  enabled : Bool := true
  submenu : Bool := false
  /-- The child comes with image data to decode. -/
  iconData : Bool := false
  deriving DecidableEq, Repr

/-- The reply to `GetLayout`; a child that is no layout is `none`. -/
structure LayoutReply where
  size : Nat := 0
  id : Int
  children : List (Option Child) := []
  deriving DecidableEq, Repr

def parseChildren (parent : Int) : List Int → List (Option Child) → Option (List Child)
  | _, [] => some []
  | _, none :: _ => none
  | ids, some row :: rest =>
    if row.id = parent ∨ row.id ∈ ids then none
    else (parseChildren parent (row.id :: ids) rest).map (row :: ·)

def parseLayout (value : LayoutReply) (parent : Int) : Option (List Child) :=
  if value.size > 1024 * 1024 then none
  else if value.id ≠ parent ∨ value.children.length > 128 then none
  else parseChildren parent [] value.children

structure MenuProxy where
  owner : String
  path : String
  deriving DecidableEq, Repr

inductive Stage where
  /-- The task has not run yet; it may have to call `AboutToShow` first. -/
  | spawned (announce : Bool)
  | announcing
  | readingTheme
  | readingLayout
  /-- A worker decodes the images of the rows. -/
  | decoding (rows : List Child)
  deriving DecidableEq, Repr

/-- The task of `load`. -/
structure Load where
  generation : Nat
  proxy : MenuProxy
  parent : Int
  stage : Stage
  deriving DecidableEq, Repr

/-- The creation of a proxy for an opening of the menu. -/
structure Creation where
  generation : Nat
  proxy : MenuProxy
  deriving DecidableEq, Repr

inductive Widget where
  | back
  | separator
  | row (id : Int) (submenu sensitive : Bool)
  deriving DecidableEq, Repr

inductive Content where
  | message (text : String)
  /-- The rows of a page. -/
  | page (parent : Int) (widgets : List Widget)
  deriving DecidableEq, Repr

/-- The row of a child under a stack of the given depth. -/
def Child.widget (depth : Nat) (child : Child) : Option Widget :=
  if !child.visible then none
  else if child.separator then some .separator
  else some (.row child.id child.submenu (child.enabled && (!child.submenu || decide (depth < 16))))

def pageContent (depth : Nat) (page : Int) (rows : List Child) : Content :=
  let widgets := (if depth > 1 then [.back] else []) ++ rows.filterMap (Child.widget depth)
  if widgets = [] then .message "No actions" else .page page widgets

structure Menu where
  visible : Bool := false
  content : Content := .message ""
  sensitive : Bool := true
  proxy : Option MenuProxy := none
  /-- The page on top is the last one. -/
  parents : List Int := [0]
  /-- Counts the times the menu was closed; the 64-bit counter does not wrap in any real run. -/
  generation : Nat := 0
  busy : Bool := false
  again : Bool := false
  loads : List Load := []
  creations : List Creation := []
  deriving DecidableEq, Repr

inductive MenuObservation where
  /-- A layout signal came while the menu was open and connected. -/
  | layoutSignal (generation : Nat)
  | aboutToShow (generation : Nat) (parent : Int)
  | getTheme (generation : Nat)
  | getLayout (generation : Nat) (parent : Int)
  /-- The rows of a page were rendered under the page on top. -/
  | rendered (generation : Nat) (page top : Int)
  | activated (id : Int)
  deriving DecidableEq, Repr

namespace Menu

def top (self : Menu) : Int := self.parents.getLast?.getD 0

/-- The handler of `closed`; the popover is hidden by then. -/
def popdown (self : Menu) : Menu :=
  if self.visible then
    { self with
      visible := false
      generation := self.generation + 1
      proxy := none
      busy := false
      again := false }
  else self

def load (self : Menu) (announce : Bool) : Menu :=
  if !self.visible then self
  else if self.busy then { self with again := true }
  else
    match self.proxy with
    | none => self
    | some proxy => { self with
        busy := true
        sensitive := false
        loads := self.loads ++ [⟨self.generation, proxy, self.top, .spawned announce⟩] }

/-- `show` with the cached path of the menu and the owner of the item. -/
def «show» (self : Menu) (path owner : Option String) : Menu :=
  match path, owner with
  | some path, some owner =>
    if path = "/" ∨ self.visible then self
    else { self with
      parents := [0]
      content := .message "Loading…"
      visible := true
      creations := self.creations ++ [⟨self.generation, ⟨owner, path⟩⟩] }
  | _, _ => self

/-- The answer to the creation of a proxy. -/
def created (self : Menu) (index : Nat) (succeeds : Bool) : Menu :=
  match self.creations[index]? with
  | none => self
  | some creation =>
    let menu := { self with creations := self.creations.eraseIdx index }
    if creation.generation ≠ self.generation then menu
    else if succeeds then { menu with proxy := some creation.proxy }.load true
    else { menu with content := .message "Menu unavailable" }

def render (self : Menu) (page : Int) (rows : List Child) : Menu :=
  { self with content := pageContent self.parents.length page rows }

/-- The end of a load that no closing has overtaken. -/
def finish (self : Menu) (load : Load) (rows : Option (List Child)) : Menu × List MenuObservation :=
  let menu := { self with busy := false, sensitive := true }
  let shown := match rows with
    | some rows => menu.render load.parent rows
    | none => { menu with content := .message "Menu unavailable" }
  let next := if shown.again then { shown with again := false }.load false else shown
  (next, if rows.isSome then [.rendered load.generation load.parent self.top] else [])

/-- What the task does when it goes on; `layout` is the reply to `GetLayout`. -/
def advance (self : Menu) (index : Nat) (load : Load) (layout : Option LayoutReply) :
    Menu × List MenuObservation :=
  let goesOn (stage : Stage) : Menu := { self with loads := self.loads.set index { load with stage } }
  let ended := { self with loads := self.loads.eraseIdx index }
  match load.stage with
  | .spawned true => (goesOn .announcing, [.aboutToShow load.generation load.parent])
  | .spawned false | .announcing =>
    if load.generation ≠ self.generation then (ended, [])
    else (goesOn .readingTheme, [.getTheme load.generation])
  | .readingTheme =>
    if load.generation ≠ self.generation then (ended, [])
    else (goesOn .readingLayout, [.getLayout load.generation load.parent])
  | .readingLayout =>
    if load.generation ≠ self.generation then (ended, [])
    else
      match layout.bind (parseLayout · load.parent) with
      | none => ended.finish load none
      | some rows =>
        if rows.any (·.iconData) then (goesOn (.decoding rows), []) else ended.finish load (some rows)
  | .decoding rows =>
    if load.generation ≠ self.generation then (ended, []) else ended.finish load (some rows)

/-- A widget takes clicks while the popover shows it and its content is sensitive. -/
def clickable (self : Menu) (index : Nat) : Option Widget :=
  match self.content with
  | .message _ => none
  | .page _ widgets => if self.visible && self.sensitive then widgets[index]? else none

def click (self : Menu) (index : Nat) : Menu × List MenuObservation :=
  match self.clickable index with
  | some .back => ({ self with parents := self.parents.dropLast }.load true, [])
  | some (.row id true true) =>
    if id ∈ self.parents then (self, []) else ({ self with parents := self.parents ++ [id] }.load true, [])
  | some (.row id false true) => (self.popdown, if self.proxy.isSome then [.activated id] else [])
  | _ => (self, [])

end Menu

inductive MenuEvent where
  | «show» (path owner : Option String)
  | created (index : Nat) (succeeds : Bool)
  /-- `LayoutUpdated` or `ItemsPropertiesUpdated`. -/
  | layoutSignal
  /-- The theme path changed, or a directory of the theme. -/
  | refresh
  /-- A task goes on, for an answer or because it runs for the first time. -/
  | answered (index : Nat) (layout : Option LayoutReply)
  | click (index : Nat)
  /-- The popover closes: a click elsewhere, a new owner of the item, the end of the button. -/
  | closed
  deriving DecidableEq, Repr

namespace Menu

def step (self : Menu) : MenuEvent → Menu × List MenuObservation
  | .show path owner => (self.show path owner, [])
  | .created index succeeds => (self.created index succeeds, [])
  | .layoutSignal =>
    (self.load false, if self.visible && self.proxy.isSome then [.layoutSignal self.generation] else [])
  | .refresh => (self.load false, [])
  | .answered index layout =>
    match self.loads[index]? with
    | none => (self, [])
    | some load => self.advance index load layout
  | .click index => self.click index
  | .closed => (self.popdown, [])

abbrev Execution := Transition.Run step Transition.unrestricted (· = ({} : Menu))

end Menu

end Luma.Shell
