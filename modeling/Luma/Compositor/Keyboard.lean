import Mathlib.Data.List.Basic
import Luma.Library.Transition

/-! The keyboard filter: which keys go to the focused client, which are bindings, and
the tap of a Super key that opens the launcher.

The keymap and its state belong to a library; exclusive layer surfaces and shortcut
inhibitors come and go between any two events.
-/

set_option autoImplicit false

namespace Luma.Compositor.Keyboard

open Luma.Library

abbrev Keycode := Nat

abbrev Keysym := Nat

inductive KeyState where
  | pressed | released
  deriving DecidableEq, Repr

structure ModifiersState where
  ctrl : Bool := false
  alt : Bool := false
  shift : Bool := false
  logo : Bool := false
  deriving DecidableEq, Repr

/-- The actions that keys have. -/
inductive KeyAction where
  | none
  | vtSwitch (vt : Nat)
  | desktop (command : String)
  deriving DecidableEq, Repr

inductive FilterResult where
  | forward
  | intercept (action : KeyAction)
  deriving DecidableEq, Repr

/-- The keymap of the keyboard and what it says in each of its states. -/
structure Keymap (Xkb : Type) where
  update : Xkb → Keycode → KeyState → Xkb
  modifiedSym : Xkb → Keycode → Keysym
  rawSyms : Xkb → Keycode → List Keysym
  modifiers : Xkb → ModifiersState
  keysymName : Keysym → String

structure State (Xkb : Type) where
  xkb : Xkb
  /-- Keys that the keyboard holds pressed, whoever got their press. -/
  pressedKeys : List Keycode := []
  /-- The bindings of the configuration, in the order of their keys. -/
  bindings : List (String × String) := []
  locked : Bool := false
  suppressedKeys : List Keysym := []
  superTapPending : Bool := false
  superTapUsed : Bool := false

/-- The desktop that a key event meets. -/
structure Scene where
  /-- A layer surface of the top or overlay layer takes the keyboard for itself. -/
  exclusive : Bool := false
  /-- The window under the pointer inhibits shortcuts. -/
  inhibited : Bool := false
  deriving DecidableEq, Repr

/-- The branch of the filter that a key event takes. -/
inductive Mode where
  | locked | exclusive | inhibited | plain
  /-- The compositor releases the key itself. -/
  | releasing
  deriving DecidableEq, Repr

structure KeyEvent where
  key : Keycode
  state : KeyState
  mode : Mode
  /-- The key is a Super key. -/
  isSuper : Bool
  result : FilterResult
  /-- The symbol that the press entered in the suppressed keys. -/
  entered : Option Keysym
  /-- The suppressed keys behind the event. -/
  suppressed : List Keysym
  deriving DecidableEq, Repr

inductive Observation where
  | key (event : KeyEvent)
  | button (state : KeyState)
  | locked
  deriving DecidableEq, Repr

inductive Input where
  | key (key : Keycode) (state : KeyState) (scene : Scene)
  | button (state : KeyState)
  /-- A lock request, which the backend and the session may not support. -/
  | lock (supported : Bool)
  | unlock
  /-- The window of a nested compositor loses the focus. -/
  | unfocused
  | configured (bindings : List (String × String))

/-! ## Bindings -/

def eqIgnoreAsciiCase (first second : String) : Bool :=
  first.toList.map Char.toLower == second.toList.map Char.toLower

def bindingAction (bindings : List (String × String)) (key : String) : Option String :=
  (bindings.lookup key).or ((bindings.find? fun binding => eqIgnoreAsciiCase binding.1 key).map (·.2))

def isSuperKey (keysym : Keysym) : Bool := keysym == 0xffeb || keysym == 0xffec

def switchVt1 : Keysym := 0x1008fe01

/-- Whatever the modifiers, the keys that switch the terminal do so. -/
def processKeyboardShortcut (keysym : Keysym) : Option KeyAction :=
  if switchVt1 ≤ keysym ∧ keysym ≤ switchVt1 + 11 then some (.vtSwitch (keysym - switchVt1 + 1)) else none

namespace State

variable {Xkb : Type} (keymap : Keymap Xkb) (self : State Xkb)

def keysym (key : Keycode) : Keysym := keymap.modifiedSym self.xkb key

/-- The symbol of the key without its modifiers. -/
def raw (key : Keycode) : Keysym := ((keymap.rawSyms self.xkb key).head?).getD (self.keysym keymap key)

def shortcutPrefix : String :=
  let mods := keymap.modifiers self.xkb
  (if mods.logo then "Super+" else "") ++ (if mods.ctrl then "Ctrl+" else "") ++
    (if mods.alt then "Alt+" else "") ++ (if mods.shift then "Shift+" else "")

/-- The binding of the symbol, or else of the raw one. -/
def shortcut (key : Keysym) (raw : Keysym) : Option String :=
  let binding := fun symbol => bindingAction self.bindings (self.shortcutPrefix keymap ++ keymap.keysymName symbol)
  (binding key).or (binding raw)

/-! ## The filter -/

/-- The keyboard takes note of the key before the filter sees it. -/
def keyInput (key : Keycode) (state : KeyState) : State Xkb :=
  { self with
    xkb := keymap.update self.xkb key state
    pressedKeys := match state with
      | .pressed => if self.pressedKeys.contains key then self.pressedKeys else self.pressedKeys ++ [key]
      | .released => self.pressedKeys.filter (· != key) }

/-- Take the symbol out of the suppressed keys. -/
def retain (symbol : Keysym) : State Xkb :=
  { self with suppressedKeys := self.suppressedKeys.filter (· != symbol) }

/-- An action is intercepted, and the symbol suppressed until its release. -/
def pressAction (symbol : Keysym) (action : Option KeyAction) : FilterResult × State Xkb :=
  match action with
  | some action => (.intercept action, { self with suppressedKeys := self.suppressedKeys ++ [symbol] })
  | none => (.forward, self)

def releaseSuppressed (symbol : Keysym) : FilterResult × State Xkb :=
  if self.suppressedKeys.contains symbol then (.intercept .none, self.retain symbol) else (.forward, self)

/-- The filter of a locked session. -/
def lockedFilter (key : Keycode) (state : KeyState) : FilterResult × State Xkb :=
  let symbol := self.keysym keymap key
  match state with
  | .pressed => self.pressAction symbol (processKeyboardShortcut symbol)
  | .released => self.releaseSuppressed symbol

/-- What a press says about a tap of Super. -/
def notePress (raw : Keysym) (inhibited : Bool) : State Xkb :=
  if isSuperKey raw then { self with superTapPending := !inhibited, superTapUsed := false }
  else if self.superTapPending then { self with superTapUsed := true }
  else self

def plainFilter (key : Keycode) (state : KeyState) (inhibited : Bool) : FilterResult × State Xkb :=
  let keysym := self.keysym keymap key
  let raw := self.raw keymap key
  match state with
  | .pressed =>
      let noted := self.notePress raw inhibited
      if inhibited then (.forward, noted)
      else
        noted.pressAction keysym
          (((noted.shortcut keymap keysym raw).map KeyAction.desktop).or (processKeyboardShortcut keysym))
  | .released =>
      if isSuperKey raw && self.superTapPending then
        let ended := { self with superTapPending := false, superTapUsed := false }
        if self.superTapUsed then (.forward, ended) else (.intercept (.desktop "launcher"), ended)
      else self.releaseSuppressed keysym

def mode (scene : Scene) : Mode :=
  if self.locked then .locked
  else if scene.exclusive then .exclusive
  else if scene.inhibited then .inhibited
  else .plain

def filter (mode : Mode) (key : Keycode) (state : KeyState) : FilterResult × State Xkb :=
  match mode with
  | .locked => self.lockedFilter keymap key state
  | .exclusive | .releasing => (.forward, self)
  | .inhibited => self.plainFilter keymap key state true
  | .plain => self.plainFilter keymap key state false

/-- The keyboard's `input` with a filter, and what is seen of it. -/
def input (mode : Mode) (key : Keycode) (state : KeyState) : State Xkb × KeyEvent :=
  let noted := self.keyInput keymap key state
  let filtered := noted.filter keymap mode key state
  (filtered.2, {
    key, state, mode
    isSuper := isSuperKey (noted.raw keymap key)
    result := filtered.1
    entered := match state, filtered.1 with
      | .pressed, .intercept _ => some (noted.keysym keymap key)
      | _, _ => none
    suppressed := filtered.2.suppressedKeys })

def keyboardKeyToAction (key : Keycode) (state : KeyState) (scene : Scene) : State Xkb × KeyEvent :=
  self.input keymap (self.mode scene) key state

/-! ## Everything else -/

/-- Release keys to whoever has the focus. -/
def releaseKeys (self : State Xkb) : List Keycode → State Xkb × List Observation
  | [] => (self, [])
  | key :: keys =>
      let first := self.input keymap .releasing key .released
      let rest := releaseKeys first.1 keys
      (rest.1, rest.2 ++ [.key first.2])

def releaseAllKeys : State Xkb × List Observation := self.releaseKeys keymap self.pressedKeys

def lock (supported : Bool) : State Xkb × List Observation :=
  if !supported || self.locked then (self, [])
  else
    let released := { self with locked := true }.releaseAllKeys keymap
    ({ released.1 with suppressedKeys := [], superTapPending := false, superTapUsed := false },
      .locked :: released.2)

def step : Transition.Step (State Xkb) Input Observation := fun self input =>
  match input with
  | .key key state scene =>
      let handled := self.keyboardKeyToAction keymap key state scene
      (handled.1, [.key handled.2])
  -- A button may start a grab or move the focus, and leaves the keys alone.
  | .button state => (self, [.button state])
  | .lock supported => self.lock keymap supported
  | .unlock => ({ self with locked := false }, [])
  | .unfocused => self.releaseAllKeys keymap
  | .configured bindings => ({ self with bindings }, [])

/-- No key has been pressed yet. -/
def initial (xkb : Xkb) (bindings : List (String × String)) : State Xkb := { xkb, bindings }

end State

/-! ## Keys of a keyboard -/

/-- Some keys of an English keyboard: Return, A, Shift and Super. -/
def englishKeymap : Keymap ModifiersState where
  update mods key state := match key with
    | 50 => { mods with shift := state == .pressed }
    | 133 => { mods with logo := state == .pressed }
    | _ => mods
  modifiedSym mods key := match key with
    | 36 => 0xff0d
    | 38 => if mods.shift then 0x41 else 0x61
    | 50 => 0xffe1
    | 133 => 0xffeb
    | _ => 0
  rawSyms _ key := match key with
    | 36 => [0xff0d]
    | 38 => [0x61]
    | 50 => [0xffe1]
    | 133 => [0xffeb]
    | _ => []
  modifiers mods := mods
  keysymName keysym := match keysym with
    | 0xff0d => "Return"
    | 0x41 => "A"
    | 0x61 => "a"
    | 0xffe1 => "Shift_L"
    | 0xffeb => "Super_L"
    | _ => "NoSymbol"

def press (key : Keycode) : Input := .key key .pressed {}

def release (key : Keycode) : Input := .key key .released {}

end Luma.Compositor.Keyboard
