import Luma.Compositor.Keyboard

/-! The tap of a Super key, which opens the launcher when nothing else was pressed meanwhile.

The filter counts the keys that it sees as bindings or characters. It does not count
pointer buttons, keys taken by an exclusive layer surface, or another Super key,
whose press begins a tap of its own.
-/

set_option autoImplicit false

namespace Luma.Compositor.Keyboard

open Luma.Library

def KeyEvent.presses (event : KeyEvent) (key : Keycode) : Bool := event.key == key && event.state == .pressed

/-- What has been seen since the key's last press. -/
def since (key : Keycode) : List Observation → List Observation
  | [] => []
  | .key event :: earlier => if event.presses key then [] else .key event :: since key earlier
  | observation :: earlier => observation :: since key earlier

def lastPress (key : Keycode) : List Observation → Option KeyEvent
  | [] => none
  | .key event :: earlier => if event.presses key then some event else lastPress key earlier
  | .button _ :: earlier | .locked :: earlier => lastPress key earlier

/-- A key or a pointer button is pressed. -/
def soils : Observation → Bool
  | .key event => event.state == .pressed
  | .button state => state == .pressed
  | .locked => false

/-- A press that the tap of another key does not count. -/
def uncounted : Observation → Bool
  | .key event =>
      event.state == .pressed && (event.mode == .exclusive || (event.mode == .plain && event.isSuper))
  | .button state => state == .pressed
  | .locked => false

/-- An exclusive layer surface, a lock or an inhibitor intervenes. -/
def intervenes : Observation → Bool
  | .key event => event.mode == .exclusive || event.mode == .locked || event.mode == .inhibited
  | .button _ => false
  | .locked => true

def releases (key : Keycode) : Observation → Bool
  | .key event => event.key == key && event.state == .released
  | .button _ | .locked => false

def KeyEvent.launches (event : KeyEvent) : Prop := event.result = .intercept (.desktop "launcher")

instance (event : KeyEvent) : Decidable event.launches :=
  inferInstanceAs (Decidable (event.result = .intercept (.desktop "launcher")))

/-- The key is still held by a press of Super, and nothing has come between. -/
structure Tapping (key : Keycode) (history : List Observation) : Prop where
  super : ∃ press, lastPress key history = some press ∧ press.isSuper = true ∧ press.mode = .plain
  clean : ∀ observation ∈ since key history, soils observation = false
  plain : ∀ observation ∈ since key history, intervenes observation = false
  held : ∀ observation ∈ since key history, releases key observation = false

/-- A release opens the launcher only when the tap is clean, and does when it is and nothing intervenes. -/
def Tapped (observation : Observation) (earlier : List Observation) : Prop :=
  match observation with
  | .key event => event.state = .released →
      (event.launches → ∀ other ∈ since event.key earlier, soils other = false) ∧
        (Tapping event.key earlier → event.isSuper = true → event.mode = .plain → event.launches)
  | .button _ | .locked => True

section

variable {history : List Observation}

theorem since_key (event : KeyEvent) (key : Keycode) :
    since key (.key event :: history) = if event.presses key then [] else .key event :: since key history := rfl

theorem lastPress_key (event : KeyEvent) (key : Keycode) :
    lastPress key (.key event :: history) = if event.presses key then some event else lastPress key history := rfl

theorem unpressed {event : KeyEvent} (quiet : soils (.key event) = false) (key : Keycode) : event.presses key = false := by
  unfold KeyEvent.presses
  simp only [soils] at quiet
  rw [quiet, Bool.and_false]

theorem since_quiet {observation : Observation} (quiet : soils observation = false) (key : Keycode) :
    since key (observation :: history) = observation :: since key history := by
  cases observation with
  | key event =>
    rw [since_key, unpressed quiet]
    rfl
  | button | locked => rfl

theorem lastPress_quiet {observation : Observation} (quiet : soils observation = false) (key : Keycode) :
    lastPress key (observation :: history) = lastPress key history := by
  cases observation with
  | key event =>
    rw [lastPress_key, unpressed quiet]
    rfl
  | button | locked => rfl

/-- An event that presses nothing leaves the tap of before. -/
theorem Tapping.before {key : Keycode} {observation : Observation} (tapping : Tapping key (observation :: history))
    (quiet : soils observation = false) : Tapping key history ∧ intervenes observation = false ∧
      releases key observation = false := by
  obtain ⟨super, clean, plain, held⟩ := tapping
  rw [since_quiet quiet] at clean plain held
  rw [lastPress_quiet quiet] at super
  refine ⟨⟨super, ?_, ?_, ?_⟩, plain _ List.mem_cons_self, held _ List.mem_cons_self⟩
  · exact fun other member => clean other (List.mem_cons_of_mem _ member)
  · exact fun other member => plain other (List.mem_cons_of_mem _ member)
  · exact fun other member => held other (List.mem_cons_of_mem _ member)

/-- The press of another key that is being tapped lies since the key's own. -/
theorem mem_since {key other : Keycode} {press : KeyEvent} (differ : key ≠ other)
    (last : lastPress other history = some press) (clean : ∀ observation ∈ since other history, soils observation = false) :
    .key press ∈ since key history ∧ press.state = .pressed := by
  induction history with
  | nil => cases last
  | cons observation earlier ih =>
    cases observation with
    | button state =>
      obtain ⟨member, pressed⟩ := ih last fun seen found => clean seen (List.mem_cons_of_mem _ found)
      exact ⟨List.mem_cons_of_mem _ member, pressed⟩
    | locked =>
      obtain ⟨member, pressed⟩ := ih last fun seen found => clean seen (List.mem_cons_of_mem _ found)
      exact ⟨List.mem_cons_of_mem _ member, pressed⟩
    | key event =>
      rw [lastPress_key] at last
      rw [since_key] at clean ⊢
      by_cases presses : event.presses other = true
      · rw [if_pos presses] at last
        cases last
        unfold KeyEvent.presses at presses ⊢
        rw [Bool.and_eq_true, beq_iff_eq, beq_iff_eq] at presses
        have unpressed : (press.key == key) = false := by
          rw [presses.1, beq_eq_false_iff_ne]
          exact fun same => differ same.symm
        rw [unpressed]
        exact ⟨List.mem_cons_self, presses.2⟩
      · rw [if_neg presses] at last clean
        obtain ⟨member, pressed⟩ := ih last fun seen found => clean seen (List.mem_cons_of_mem _ found)
        rw [unpressed (clean _ List.mem_cons_self)]
        exact ⟨List.mem_cons_of_mem _ member, pressed⟩

end

namespace State

variable {Xkb : Type} (keymap : Keymap Xkb)

/-- The release of this key opens the launcher. -/
def opens (self : State Xkb) (mode : Mode) (key : Keycode) : Bool :=
  (mode == .plain || mode == .inhibited) && isSuperKey (self.raw keymap key) && self.superTapPending &&
    !self.superTapUsed

/-- No tap ends for which a press was not counted. -/
def Counted : Transition.Condition (State Xkb) Input Observation := fun history self input =>
  match input with
  | .key key .released scene =>
      (self.keyInput keymap key .released).opens keymap (self.mode scene) key = true →
        ∀ observation ∈ since key history, uncounted observation = false
  | .key _ .pressed _ | .button _ | .lock _ | .unlock | .unfocused | .configured _ => True

instance : ∀ history (self : State Xkb) input, Decidable (Counted keymap history self input)
  | history, self, .key key .released scene =>
      inferInstanceAs (Decidable ((self.keyInput keymap key .released).opens keymap (self.mode scene) key = true →
        ∀ observation ∈ since key history, uncounted observation = false))
  | _, _, .key _ .pressed _ | _, _, .button _ | _, _, .lock _ | _, _, .unlock | _, _, .unfocused
  | _, _, .configured _ => .isTrue trivial

variable {keymap} {self : State Xkb} {history : List Observation}

/-! ## The flags of the filter -/

theorem pressAction_flags (symbol : Keysym) (action : Option KeyAction) :
    (self.pressAction symbol action).2.superTapPending = self.superTapPending ∧
      (self.pressAction symbol action).2.superTapUsed = self.superTapUsed := by
  unfold pressAction
  cases action <;> exact ⟨rfl, rfl⟩

theorem releaseSuppressed_flags (symbol : Keysym) :
    (self.releaseSuppressed symbol).2.superTapPending = self.superTapPending ∧
      (self.releaseSuppressed symbol).2.superTapUsed = self.superTapUsed := by
  unfold releaseSuppressed
  split <;> exact ⟨rfl, rfl⟩

theorem pressed_flags (keymap : Keymap Xkb) (self : State Xkb) (key : Keycode) (inhibited : Bool) :
    (self.plainFilter keymap key .pressed inhibited).2.superTapPending =
        (self.notePress (self.raw keymap key) inhibited).superTapPending ∧
      (self.plainFilter keymap key .pressed inhibited).2.superTapUsed =
        (self.notePress (self.raw keymap key) inhibited).superTapUsed := by
  unfold plainFilter
  cases inhibited with
  | true => exact ⟨rfl, rfl⟩
  | false => exact pressAction_flags _ _

/-- A release ends the tap of a Super key, and changes no flag otherwise. -/
theorem released_flags (keymap : Keymap Xkb) (self : State Xkb) (mode : Mode) (key : Keycode) :
    let after := (self.filter keymap mode key .released).2
    (after.superTapPending = self.superTapPending ∧ after.superTapUsed = self.superTapUsed) ∨
      (after.superTapPending = false ∧ (mode = .plain ∨ mode = .inhibited) ∧ isSuperKey (self.raw keymap key) = true) := by
  have looks : ∀ inhibited, (mode = .plain ∨ mode = .inhibited) →
      let after := (self.plainFilter keymap key .released inhibited).2
      (after.superTapPending = self.superTapPending ∧ after.superTapUsed = self.superTapUsed) ∨
        (after.superTapPending = false ∧ (mode = .plain ∨ mode = .inhibited) ∧
          isSuperKey (self.raw keymap key) = true) := by
    intro inhibited sees
    unfold plainFilter
    dsimp only
    by_cases ends : (isSuperKey (self.raw keymap key) && self.superTapPending) = true
    · rw [if_pos ends]
      rw [Bool.and_eq_true] at ends
      cases self.superTapUsed with
      | true => exact .inr ⟨rfl, sees, ends.1⟩
      | false => exact .inr ⟨rfl, sees, ends.1⟩
    · rw [if_neg ends]
      exact .inl (releaseSuppressed_flags _)
  cases mode with
  | plain => exact looks false (.inl rfl)
  | inhibited => exact looks true (.inr rfl)
  | exclusive | releasing => exact .inl ⟨rfl, rfl⟩
  | locked => exact .inl (releaseSuppressed_flags _)

/-- A release opens the launcher when it ends a tap in which no key was counted. -/
theorem launches_iff (mode : Mode) (key : Keycode) :
    (self.filter keymap mode key .released).1 = .intercept (.desktop "launcher") ↔ self.opens keymap mode key = true := by
  have plain : ∀ symbol, (self.releaseSuppressed symbol).1 ≠ .intercept (.desktop "launcher") := by
    intro symbol
    unfold releaseSuppressed
    split <;> nofun
  have looks : ∀ inhibited, (self.plainFilter keymap key .released inhibited).1 = .intercept (.desktop "launcher") ↔
      (isSuperKey (self.raw keymap key) && self.superTapPending && !self.superTapUsed) = true := by
    intro inhibited
    unfold plainFilter
    dsimp only
    cases (isSuperKey (self.raw keymap key) && self.superTapPending) with
    | true =>
      cases self.superTapUsed with
      | true => exact ⟨nofun, nofun⟩
      | false => exact ⟨fun _ => rfl, fun _ => rfl⟩
    | false => exact ⟨fun launched => absurd launched (plain _), nofun⟩
  unfold opens
  cases mode with
  | plain => exact looks false
  | inhibited => exact looks true
  | exclusive | releasing => exact ⟨nofun, nofun⟩
  | locked => exact ⟨fun launched => absurd launched (plain _), nofun⟩

/-! ## What the flags say -/

structure Flagged (history : List Observation) (state : State Xkb) : Prop where
  locked : state.locked = true → state.superTapPending = false
  /-- While a tap is pending, each press since any key's own was counted, or is of the kinds that are not. -/
  counted : state.superTapPending = true → state.superTapUsed = false → ∀ key,
    (∃ observation ∈ since key history, uncounted observation = true) ∨
      ∀ observation ∈ since key history, soils observation = false
  tapping : ∀ key, Tapping key history → state.superTapPending = true ∧ state.superTapUsed = false

theorem filter_locked (keymap : Keymap Xkb) (self : State Xkb) (mode : Mode) (key : Keycode) (state : KeyState) :
    (self.filter keymap mode key state).2.locked = self.locked := by
  have pressed : ∀ (before : State Xkb) symbol action, (before.pressAction symbol action).2.locked = before.locked := by
    intro before symbol action
    unfold pressAction
    cases action <;> rfl
  have released : ∀ symbol, (self.releaseSuppressed symbol).2.locked = self.locked := by
    intro symbol
    unfold releaseSuppressed
    split <;> rfl
  have noted : ∀ raw inhibited, (self.notePress raw inhibited).locked = self.locked := by
    intro raw inhibited
    unfold notePress
    split
    · rfl
    · split <;> rfl
  have looks : ∀ inhibited, (self.plainFilter keymap key state inhibited).2.locked = self.locked := by
    intro inhibited
    unfold plainFilter
    cases state with
    | pressed =>
      dsimp only
      split
      · exact noted _ _
      · exact (pressed _ _ _).trans (noted _ _)
    | released =>
      dsimp only
      split
      · split <;> rfl
      · exact released _
  unfold filter
  cases mode with
  | plain => exact looks false
  | inhibited => exact looks true
  | exclusive | releasing => rfl
  | locked =>
    unfold lockedFilter
    cases state with
    | pressed => exact pressed _ _ _
    | released => exact released _

/-- What an event that presses nothing leaves of the flags. -/
theorem Flagged.quiet {observation : Observation} {after : State Xkb} (flagged : Flagged history self)
    (quiet : soils observation = false) (locked : after.locked = true → after.superTapPending = false)
    (fewer : after.superTapPending = true → after.superTapUsed = false →
      self.superTapPending = true ∧ self.superTapUsed = false)
    (tapping : ∀ key, Tapping key history → intervenes observation = false → releases key observation = false →
      after.superTapPending = true ∧ after.superTapUsed = false) : Flagged (observation :: history) after where
  locked := locked
  counted pending unused key := by
    obtain ⟨was, notYet⟩ := fewer pending unused
    rw [since_quiet quiet]
    rcases flagged.counted was notYet key with ⟨other, member, found⟩ | clean
    · exact .inl ⟨other, List.mem_cons_of_mem _ member, found⟩
    · exact .inr fun other member => (List.mem_cons.mp member).elim (fun same => same ▸ quiet) (clean other)
  tapping key taps := by
    obtain ⟨before, plain, held⟩ := taps.before quiet
    exact tapping key before plain held

theorem Flagged.released {mode : Mode} {key : Keycode} (flagged : Flagged history self)
    (counted : (self.keyInput keymap key .released).opens keymap mode key = true →
      ∀ observation ∈ since key history, uncounted observation = false) :
    Flagged (.key (self.input keymap mode key .released).2 :: history) (self.input keymap mode key .released).1 := by
  have flags := released_flags keymap (self.keyInput keymap key .released) mode key
  have lock := filter_locked keymap (self.keyInput keymap key .released) mode key .released
  apply flagged.quiet
  · rfl
  · intro locked
    have was := flagged.locked (lock ▸ locked)
    rcases flags with ⟨same, _⟩ | ⟨ended, _⟩
    · exact same.trans was
    · exact ended
  · intro pending unused
    rcases flags with ⟨samePending, sameUsed⟩ | ⟨ended, _⟩
    · exact ⟨samePending ▸ pending, sameUsed ▸ unused⟩
    · exact absurd (ended.symm.trans pending) Bool.false_ne_true
  · intro tapped taps plain held
    obtain ⟨pending, unused⟩ := flagged.tapping tapped taps
    rcases flags with ⟨samePending, sameUsed⟩ | ⟨_, looks, super⟩
    · exact ⟨samePending.trans pending, sameUsed.trans unused⟩
    · -- The release of another Super would end this tap, and this press was not counted for it.
      have differ : key ≠ tapped := by
        rintro rfl
        simp [releases, input] at held
      obtain ⟨press, last, isSuper, mode⟩ := taps.super
      obtain ⟨member, pressed⟩ := mem_since differ last taps.clean
      have missed := counted (by
        unfold opens
        rw [super]
        rcases looks with rfl | rfl
        · simp [keyInput, pending, unused]
        · simp [keyInput, pending, unused]) _ member
      simp [uncounted, pressed, mode, isSuper] at missed

theorem notePress_flags (self : State Xkb) (raw : Keysym) (inhibited : Bool) :
    (isSuperKey raw = true ∧ (self.notePress raw inhibited).superTapPending = !inhibited ∧
        (self.notePress raw inhibited).superTapUsed = false) ∨
      (isSuperKey raw = false ∧ (self.notePress raw inhibited).superTapPending = self.superTapPending ∧
        (self.superTapPending = true → (self.notePress raw inhibited).superTapUsed = true)) := by
  unfold notePress
  cases super : isSuperKey raw with
  | true => exact .inl ⟨rfl, rfl, rfl⟩
  | false =>
    cases pending : self.superTapPending with
    | true => exact .inr ⟨rfl, rfl, fun _ => rfl⟩
    | false => exact .inr ⟨rfl, pending, nofun⟩

/-- A press that looks for bindings begins a tap, or is counted for the one that is pending. -/
theorem pressed_cases (keymap : Keymap Xkb) (self : State Xkb) (mode : Mode) (key : Keycode) :
    let after := (self.filter keymap mode key .pressed).2
    ((mode ≠ .plain ∧ mode ≠ .inhibited) ∧ after.superTapPending = self.superTapPending) ∨
      (isSuperKey (self.raw keymap key) = true ∧ (mode = .plain ∨ mode = .inhibited) ∧
        after.superTapPending = (mode == .plain) ∧ after.superTapUsed = false) ∨
      (isSuperKey (self.raw keymap key) = false ∧ after.superTapPending = self.superTapPending ∧
        (self.superTapPending = true → after.superTapUsed = true)) := by
  have looks : ∀ inhibited, let after := (self.plainFilter keymap key .pressed inhibited).2
      (isSuperKey (self.raw keymap key) = true ∧ after.superTapPending = !inhibited ∧ after.superTapUsed = false) ∨
        (isSuperKey (self.raw keymap key) = false ∧ after.superTapPending = self.superTapPending ∧
          (self.superTapPending = true → after.superTapUsed = true)) := by
    intro inhibited after
    obtain ⟨pending, used⟩ := pressed_flags keymap self key inhibited
    rw [show after = (self.plainFilter keymap key .pressed inhibited).2 from rfl, pending, used]
    exact notePress_flags self _ inhibited
  cases mode with
  | plain =>
    rcases looks false with ⟨super, pending, used⟩ | counted
    · exact .inr (.inl ⟨super, .inl rfl, pending, used⟩)
    · exact .inr (.inr counted)
  | inhibited =>
    rcases looks true with ⟨super, pending, used⟩ | counted
    · exact .inr (.inl ⟨super, .inr rfl, pending, used⟩)
    · exact .inr (.inr counted)
  | exclusive | releasing => exact .inl ⟨⟨nofun, nofun⟩, rfl⟩
  | locked => exact .inl ⟨⟨nofun, nofun⟩, (pressAction_flags _ _).1⟩

theorem Flagged.pressed {mode : Mode} {key : Keycode} (flagged : Flagged history self)
    (locks : mode = .locked ↔ self.locked = true) (pressing : mode ≠ .releasing) :
    Flagged (.key (self.input keymap mode key .pressed).2 :: history) (self.input keymap mode key .pressed).1 := by
  have lock := filter_locked keymap (self.keyInput keymap key .pressed) mode key .pressed
  have flags := pressed_cases keymap (self.keyInput keymap key .pressed) mode key
  have presses : ∀ other, (self.input keymap mode key .pressed).2.presses other = (key == other) :=
    fun other => Bool.and_true _
  constructor
  · intro locked
    have was : self.locked = true := lock ▸ locked
    obtain rfl := locks.mpr was
    rcases flags with ⟨_, same⟩ | ⟨_, looks, _⟩ | ⟨_, same, _⟩
    · exact same.trans (flagged.locked was)
    · rcases looks with no | no <;> cases no
    · exact same.trans (flagged.locked was)
  · intro pending unused other
    rw [since_key, presses]
    by_cases same : key = other
    · rw [if_pos (beq_iff_eq.mpr same)]
      exact .inr (List.forall_mem_nil _)
    · rw [if_neg (mt beq_iff_eq.mp same)]
      refine .inl ⟨_, List.mem_cons_self, ?_⟩
      rcases flags with ⟨⟨aside, free⟩, samePending⟩ | ⟨super, looks, begun, _⟩ | ⟨_, samePending, counted⟩
      · -- The keys of a locked session leave no tap pending.
        cases mode with
        | plain => exact absurd rfl aside
        | inhibited => exact absurd rfl free
        | releasing => exact absurd rfl pressing
        | exclusive => rfl
        | locked =>
          have none := flagged.locked (locks.mp rfl)
          exact absurd (none.symm.trans (samePending.symm.trans pending)) Bool.false_ne_true
      · rcases looks with rfl | rfl
        · simp [uncounted, input, super]
        · exact absurd (begun.symm.trans pending) Bool.false_ne_true
      · have used := counted (samePending.symm.trans pending)
        exact absurd (unused.symm.trans used) Bool.false_ne_true
  · intro other taps
    obtain ⟨⟨press, last, isSuper, plain⟩, clean, _, _⟩ := taps
    rw [lastPress_key, presses] at last
    rw [since_key, presses] at clean
    by_cases same : key = other
    · rw [if_pos (beq_iff_eq.mpr same)] at last
      cases last
      obtain rfl : mode = .plain := plain
      rcases flags with ⟨⟨aside, _⟩, _⟩ | ⟨_, _, begun, unused⟩ | ⟨no, _⟩
      · exact absurd rfl aside
      · exact ⟨begun, unused⟩
      · exact absurd (no.symm.trans isSuper) Bool.false_ne_true
    · rw [if_neg (mt beq_iff_eq.mp same)] at clean
      exact absurd (clean _ List.mem_cons_self) (by simp [soils, input])

/-! ## Every event -/

theorem Flagged.releaseKeys {keys : List Keycode} (flagged : Flagged history self) :
    Flagged ((self.releaseKeys keymap keys).2 ++ history) (self.releaseKeys keymap keys).1 ∧
      (self.releaseKeys keymap keys).1.locked = self.locked := by
  induction keys generalizing self history with
  | nil => exact ⟨flagged, rfl⟩
  | cons key keys ih =>
    have first : Flagged (.key (self.input keymap .releasing key .released).2 :: history)
        (self.input keymap .releasing key .released).1 := flagged.released nofun
    have lock := filter_locked keymap (self.keyInput keymap key .released) .releasing key .released
    obtain ⟨rest, locked⟩ := ih first
    refine ⟨?_, locked.trans lock⟩
    rw [State.releaseKeys, List.append_assoc]
    exact rest

theorem mode_locked (scene : Scene) : self.mode scene = .locked ↔ self.locked = true := by
  unfold mode
  cases self.locked with
  | true => exact ⟨fun _ => rfl, fun _ => rfl⟩
  | false =>
    cases scene.exclusive with
    | true => exact ⟨nofun, nofun⟩
    | false => cases scene.inhibited <;> exact ⟨nofun, nofun⟩

theorem mode_releasing (scene : Scene) : self.mode scene ≠ .releasing := by
  unfold mode
  split
  · nofun
  · split
    · nofun
    · split <;> nofun

theorem Flagged.step {input : Input} (flagged : Flagged history self) (counted : Counted keymap history self input) :
    Flagged ((self.step keymap input).2 ++ history) (self.step keymap input).1 := by
  cases input with
  | key key state scene =>
    cases state with
    | pressed => exact flagged.pressed (mode_locked scene) (mode_releasing scene)
    | released => exact flagged.released counted
  | button state =>
    cases state with
    | released => exact flagged.quiet rfl flagged.locked And.intro fun key taps _ _ => flagged.tapping key taps
    | pressed =>
      constructor
      · exact flagged.locked
      · exact fun _ _ _ => .inl ⟨_, List.mem_cons_self, rfl⟩
      · intro key taps
        cases taps.clean _ List.mem_cons_self
  | lock supported =>
    unfold State.step lock
    dsimp only
    cases (!supported || self.locked) with
    | true => exact flagged
    | false =>
      -- The lock ends every tap.
      exact ⟨fun _ => rfl, nofun, fun key taps => nomatch (taps.before rfl).2.1⟩
  | unlock => exact ⟨nofun, flagged.counted, flagged.tapping⟩
  | unfocused => exact flagged.releaseKeys.1
  | configured bindings => exact ⟨flagged.locked, flagged.counted, flagged.tapping⟩

/-- Whatever a release opens was counted, and it opens what is tapped. -/
theorem tapped_release {mode : Mode} {key : Keycode} (flagged : Flagged history self)
    (counted : (self.keyInput keymap key .released).opens keymap mode key = true →
      ∀ observation ∈ since key history, uncounted observation = false) :
    Tapped (.key (self.input keymap mode key .released).2) history := by
  intro _
  constructor
  · intro launched
    have opens := (launches_iff mode key).mp launched
    have all := counted opens
    unfold State.opens at opens
    rw [Bool.and_eq_true, Bool.and_eq_true, Bool.not_eq_true'] at opens
    rcases flagged.counted opens.1.2 opens.2 key with ⟨other, member, missed⟩ | clean
    · exact absurd ((all other member).symm.trans missed) Bool.false_ne_true
    · exact clean
  · intro taps super plain
    obtain ⟨pending, unused⟩ := flagged.tapping key taps
    apply (launches_iff mode key).mpr
    obtain rfl : mode = .plain := plain
    have isSuper : isSuperKey ((self.keyInput keymap key .released).raw keymap key) = true := super
    unfold State.opens
    rw [isSuper]
    simp [keyInput, pending, unused]

theorem tapped_releaseKeys (keymap : Keymap Xkb) (self : State Xkb) (keys : List Keycode) :
    ∀ observation ∈ (self.releaseKeys keymap keys).2, ∀ earlier, Tapped observation earlier := by
  induction keys generalizing self with
  | nil => exact List.forall_mem_nil _
  | cons key keys ih =>
    intro observation member earlier
    rcases List.mem_append.mp member with later | first
    · exact ih _ observation later earlier
    · cases List.mem_singleton.mp first
      exact fun _ => ⟨nofun, fun _ _ => nofun⟩

theorem step_tapped {input : Input} (flagged : Flagged history self) (counted : Counted keymap history self input)
    (tapped : Transition.Throughout Tapped history) :
    Transition.Throughout Tapped ((self.step keymap input).2 ++ history) := by
  cases input with
  | key key state scene =>
    cases state with
    | pressed => exact ⟨nofun, tapped⟩
    | released => exact ⟨tapped_release flagged counted, tapped⟩
  | button state => exact ⟨trivial, tapped⟩
  | lock supported =>
    unfold State.step lock
    dsimp only
    cases (!supported || self.locked) with
    | true => exact tapped
    | false => exact ⟨trivial, .append (tapped_releaseKeys keymap _ _) tapped⟩
  | unfocused => exact .append (tapped_releaseKeys keymap _ _) tapped
  | unlock | configured => exact tapped

theorem uncounted_soils {observation : Observation} (missed : uncounted observation = true) :
    soils observation = true := by
  cases observation with
  | key event =>
    rw [uncounted, Bool.and_eq_true] at missed
    exact missed.1
  | button state => exact missed
  | locked => cases missed

/-- While no tap ends for which a button, a key of an exclusive layer surface or another
Super was pressed and nothing counted, the launcher opens for clean taps and for no
others. The first tap that ends against that opens it wrongly. -/
theorem super_taps (xkb : Xkb) (bindings : List (String × String)) {history : List Observation} {self : State Xkb}
    (run : Transition.Run (step keymap) (Counted keymap) (· = initial xkb bindings) history self) :
    Transition.Throughout Tapped history ∧ ∀ input, ¬Counted keymap history self input →
      ¬Transition.Throughout Tapped ((self.step keymap input).2 ++ history) := by
  constructor
  · have both : Flagged history self ∧ Transition.Throughout Tapped history := by
      apply @Transition.Run.invariant _ _ _ _ _ _ _ _
        (fun history self => Flagged history self ∧ Transition.Throughout Tapped history) ?_ ?_ run
      · intro self begun
        rw [begun]
        exact ⟨⟨nofun, nofun, fun key taps => nomatch taps.super⟩, trivial⟩
      · exact fun history self input _ counted ⟨flagged, tapped⟩ =>
          ⟨flagged.step counted, step_tapped flagged counted tapped⟩
    exact both.2
  · intro input missed tapped
    cases input with
    | key key state scene =>
      cases state with
      | pressed => exact missed trivial
      | released =>
        apply missed
        intro opens observation member
        by_contra found
        have clean := (tapped.1 rfl).1 ((launches_iff _ _).mpr opens) observation member
        exact Bool.false_ne_true (clean.symm.trans (uncounted_soils (Bool.not_eq_false _ ▸ found)))
    | button | lock | unlock | unfocused | configured => exact missed trivial

/-- A window is dragged with Super: the button is released first. -/
def superDrag : List Input := [press 133, .button .pressed, .button .released]

/-- The release of Super after the drag opens the launcher. -/
theorem super_drag_launches :
    ¬∀ history self, Transition.Run (step englishKeymap) Transition.unrestricted (· = initial {} []) history self →
      Transition.Throughout Tapped history := by
  intro always
  have begun : Transition.Run (step englishKeymap) Transition.unrestricted (· = initial {} []) [] (initial {} []) :=
    .start rfl
  have run := begun.execute superDrag (Transition.permits_unrestricted _ _ _ _)
  rw [List.append_nil] at run
  have released := always _ _ (.step (release 133) run trivial)
  have clean := (released.1 rfl).1 (by decide +kernel) (.button .pressed) (by decide +kernel)
  cases clean

/-- A clean tap, and one with a key between. -/
theorem super_taps_twoTaps :
    let final := Transition.execute (step englishKeymap) (initial {} [])
      [press 133, release 133, press 133, press 38, release 38, release 133]
    Transition.Throughout Tapped final.2 ∧ ∀ input, ¬Counted englishKeymap final.2 final.1 input →
      ¬Transition.Throughout Tapped ((final.1.step englishKeymap input).2 ++ final.2) := by
  intro final
  have begun : Transition.Run (step englishKeymap) (Counted englishKeymap) (· = initial {} []) [] (initial {} []) :=
    .start rfl
  have run := begun.execute [press 133, release 133, press 133, press 38, release 38, release 133]
    (by decide +kernel)
  rw [List.append_nil] at run
  exact super_taps {} [] run

end State

end Luma.Compositor.Keyboard
