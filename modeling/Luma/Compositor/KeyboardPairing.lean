import Luma.Compositor.Keyboard

/-! Presses and releases in pairs: whoever got a key's press gets its release.

The filter remembers a binding by the symbol of its press alone, and some of its
branches do not look at that. A release goes the way of its press exactly when it
meets the suppressed keys as the press has left them.
-/

set_option autoImplicit false

namespace Luma.Compositor.Keyboard

open Luma.Library

/-- The last event of the key. -/
def lastEvent (key : Keycode) : List Observation → Option KeyEvent
  | [] => none
  | .key event :: earlier => if event.key = key then some event else lastEvent key earlier
  | .button _ :: earlier | .locked :: earlier => lastEvent key earlier

/-- The press that the key is held down by. -/
def heldBy (key : Keycode) (history : List Observation) : Option KeyEvent :=
  (lastEvent key history).filter fun event => event.state = .pressed

/-- The symbols entered by the key since its last release. -/
def entries (key : Keycode) : List Observation → List Keysym
  | [] => []
  | .key event :: earlier =>
      if event.key = key then
        match event.state with
        | .pressed => event.entered.toList ++ entries key earlier
        | .released => []
      else entries key earlier
  | .button _ :: earlier | .locked :: earlier => entries key earlier

namespace State

variable {Xkb : Type} (keymap : Keymap Xkb)

/-- The release of a key in this state ends a tap of Super. -/
def endsTap (self : State Xkb) (key : Keycode) : Bool := isSuperKey (self.raw keymap key) && self.superTapPending

/-- The release would go to the client. -/
def reaches (self : State Xkb) (mode : Mode) (key : Keycode) : Bool :=
  match mode with
  | .exclusive | .releasing => true
  | .locked => !self.suppressedKeys.contains (self.keysym keymap key)
  | .inhibited | .plain =>
      if self.endsTap keymap key then self.superTapUsed else !self.suppressedKeys.contains (self.keysym keymap key)

/-- The release would take these entries out of the suppressed keys. -/
def clears (self : State Xkb) (mode : Mode) (key : Keycode) (entered : List Keysym) : Bool :=
  entered.all fun symbol => !self.suppressedKeys.contains symbol ||
    match mode with
    | .exclusive | .releasing => false
    | .locked => symbol == self.keysym keymap key
    | .inhibited | .plain => !self.endsTap keymap key && symbol == self.keysym keymap key

/-- The keys that are held were pressed for the client. -/
def forwardsHeld (self : State Xkb) (history : List Observation) : Bool :=
  self.pressedKeys.all fun key => (heldBy key history).all fun press => press.result = .forward

/-- The release of a key meets its press. -/
def meetsPress (self : State Xkb) (history : List Observation) (mode : Mode) (key : Keycode) : Bool :=
  let noted := self.keyInput keymap key .released
  (heldBy key history).all fun press =>
    if press.result = .forward then noted.reaches keymap mode key
    else !noted.reaches keymap mode key && noted.clears keymap mode key (entries key history)

def Orderly : Transition.Condition (State Xkb) Input Observation := fun history self input =>
  match input with
  | .key key .released scene => self.meetsPress keymap history (self.mode scene) key = true
  | .lock supported => (supported && !self.locked) = true → self.forwardsHeld history = true
  | .unfocused => self.forwardsHeld history = true
  | .key _ .pressed _ | .button _ | .unlock | .configured _ => True

instance : ∀ history (self : State Xkb) input, Decidable (Orderly keymap history self input)
  | history, self, .key key .released scene =>
      inferInstanceAs (Decidable (self.meetsPress keymap history (self.mode scene) key = true))
  | history, self, .lock supported =>
      inferInstanceAs (Decidable ((supported && !self.locked) = true → self.forwardsHeld history = true))
  | history, self, .unfocused => inferInstanceAs (Decidable (self.forwardsHeld history = true))
  | _, _, .key _ .pressed _ | _, _, .button _ | _, _, .unlock | _, _, .configured _ => .isTrue trivial

variable {keymap} {self : State Xkb} {history : List Observation}

/-! ## One release -/

end State

end Luma.Compositor.Keyboard
