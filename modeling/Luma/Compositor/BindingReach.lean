import Luma.Compositor.Keyboard
import Luma.Core.Bindings

/-! Whether a press of a key runs the binding that the configuration has for it.

A binding may name its modifiers in any order, and more than once. The keyboard names those of a
press in one order only.
-/

set_option autoImplicit false

namespace Luma.Compositor.Keyboard

open Luma.Core

/-- The names of the modifiers, in the order in which the keyboard puts them. -/
def ModifiersState.held (mods : ModifiersState) : List String :=
  (if mods.logo then ["Super"] else []) ++ (if mods.ctrl then ["Ctrl"] else []) ++
    (if mods.alt then ["Alt"] else []) ++ (if mods.shift then ["Shift"] else [])

theorem ModifiersState.held_sublist (mods : ModifiersState) : mods.held.Sublist Binding.modifierNames := by
  obtain ⟨ctrl, alt, shift, logo⟩ := mods
  cases ctrl <;> cases alt <;> cases shift <;> cases logo <;> decide

namespace State

variable {Xkb : Type} (keymap : Keymap Xkb) (self : State Xkb)

/-- The symbols that the keyboard looks up for a key. -/
def symbols (key : Keycode) : List Keysym := [self.keysym keymap key, self.raw keymap key]

/-- A binding is for a key when it names one of the key's symbols, and the modifiers that are held. -/
def Denotes (binding : String) (key : Keycode) : Prop :=
  (∀ modifier, modifier ∈ Binding.modifiers binding ↔ modifier ∈ (keymap.modifiers self.xkb).held) ∧
    ∃ symbol ∈ self.symbols keymap key, eqIgnoreAsciiCase (Binding.key binding) (keymap.keysymName symbol) = true

/-- A binding is for a press of a key as the keyboard stands. -/
def BoundTo (key : Keycode) (binding : String) : Prop :=
  (self.keyInput keymap key .pressed).Denotes keymap binding key

/-- The press finds a binding that is for it and runs its command. -/
def Works (key : Keycode) : Prop :=
  ∃ found command, (found, command) ∈ self.bindings ∧ self.BoundTo keymap key found ∧
    (self.input keymap .plain key .pressed).2.result = .intercept (.desktop command)

/-! ## The lookup -/

theorem shortcutPrefix_text (name : String) :
    self.shortcutPrefix keymap ++ name = Binding.text (keymap.modifiers self.xkb).held name := by
  unfold shortcutPrefix ModifiersState.held
  obtain ⟨ctrl, alt, shift, logo⟩ := keymap.modifiers self.xkb
  cases ctrl <;> cases alt <;> cases shift <;> cases logo <;> simp [Binding.text, ← String.toList_inj]

end State

theorem eqIgnoreAsciiCase_iff {first second : String} :
    eqIgnoreAsciiCase first second = true ↔ Binding.fold first = Binding.fold second := by
  simp [eqIgnoreAsciiCase, Binding.fold]

theorem bindingAction_some {bindings : List (String × String)} {text command : String}
    (found : bindingAction bindings text = some command) :
    ∃ binding, (binding, command) ∈ bindings ∧ Binding.fold binding = Binding.fold text := by
  rw [bindingAction, Option.or_eq_some_iff] at found
  rcases found with spelled | ⟨-, close⟩
  · obtain ⟨before, after, rfl, -⟩ := List.lookup_eq_some_iff.mp spelled
    exact ⟨text, by simp, rfl⟩
  · obtain ⟨⟨binding, other⟩, first, same⟩ := Option.map_eq_some_iff.mp close
    simp only at same
    subst same
    have alike := List.find?_some first
    exact ⟨binding, List.mem_of_find?_eq_some first, eqIgnoreAsciiCase_iff.mp alike⟩

theorem bindingAction_isSome {bindings : List (String × String)} {text binding command : String}
    (there : (binding, command) ∈ bindings) (same : Binding.fold binding = Binding.fold text) :
    (bindingAction bindings text).isSome := by
  have close : (bindings.find? fun entry => eqIgnoreAsciiCase entry.1 text).isSome = true :=
    List.find?_isSome.mpr ⟨(binding, command), there, eqIgnoreAsciiCase_iff.mpr same⟩
  rw [bindingAction, Option.isSome_or, Option.isSome_map, close, Bool.or_true]

namespace State

variable {Xkb : Type} (keymap : Keymap Xkb) (self : State Xkb)

/-- A text that the keyboard looks up is that of a binding which is for the key and ordered. -/
theorem denotes_iff {key : Keycode} {binding : String} (valid : Binding.check binding = .ok ())
    (plain : ∀ symbol, '+' ∉ (keymap.keysymName symbol).toList) :
    (self.Denotes keymap binding key ∧ Binding.Ordered binding) ↔
      ∃ symbol ∈ self.symbols keymap key,
        Binding.fold binding = Binding.fold (self.shortcutPrefix keymap ++ keymap.keysymName symbol) := by
  have held := (keymap.modifiers self.xkb).held_sublist
  simp only [shortcutPrefix_text, Binding.fold_eq_text_iff valid held.subset (plain _), Denotes, eqIgnoreAsciiCase_iff]
  constructor
  · rintro ⟨⟨same, symbol, there, named⟩, ordered⟩
    exact ⟨symbol, there, Binding.sublist_ext (by decide) ordered held same, named⟩
  · rintro ⟨symbol, there, same, named⟩
    exact ⟨⟨fun modifier => by rw [same], symbol, there, named⟩, by rw [Binding.Ordered, same]; exact held⟩

theorem shortcut_found {key raw : Keysym} {command : String} (found : self.shortcut keymap key raw = some command) :
    ∃ symbol ∈ [key, raw], ∃ binding, (binding, command) ∈ self.bindings ∧
      Binding.fold binding = Binding.fold (self.shortcutPrefix keymap ++ keymap.keysymName symbol) := by
  simp only [shortcut, Option.or_eq_some_iff] at found
  rcases found with found | ⟨-, found⟩
  · exact ⟨key, by simp, bindingAction_some found⟩
  · exact ⟨raw, by simp, bindingAction_some found⟩

theorem shortcut_isSome {key raw symbol : Keysym} {binding command : String} (looked : symbol ∈ [key, raw])
    (there : (binding, command) ∈ self.bindings)
    (same : Binding.fold binding = Binding.fold (self.shortcutPrefix keymap ++ keymap.keysymName symbol)) :
    (self.shortcut keymap key raw).isSome := by
  have found := bindingAction_isSome there same
  simp only [List.mem_cons, List.not_mem_nil, or_false] at looked
  simp only [shortcut, Option.isSome_or, Bool.or_eq_true]
  rcases looked with rfl | rfl
  · exact .inl found
  · exact .inr found

/-- A tap of Super that the press begins or ends does not touch what is looked up. -/
theorem notePress_shortcut (raw : Keysym) (inhibited : Bool) (first second : Keysym) :
    (self.notePress raw inhibited).shortcut keymap first second = self.shortcut keymap first second := by
  unfold notePress
  split
  · rfl
  · split <;> rfl

/-- The press runs the command that the lookup finds, and no other. -/
theorem press_runs_iff {key : Keycode} {command : String} :
    (self.input keymap .plain key .pressed).2.result = .intercept (.desktop command) ↔
      (self.keyInput keymap key .pressed).shortcut keymap ((self.keyInput keymap key .pressed).keysym keymap key)
        ((self.keyInput keymap key .pressed).raw keymap key) = some command := by
  simp only [input, filter, plainFilter, notePress_shortcut]
  cases found : (self.keyInput keymap key .pressed).shortcut keymap
      ((self.keyInput keymap key .pressed).keysym keymap key) ((self.keyInput keymap key .pressed).raw keymap key) with
  | some other => simp [pressAction]
  | none =>
      simp only [Option.map_none, Option.none_or, processKeyboardShortcut, Bool.false_eq_true, if_false]
      split <;> simp [pressAction]

/-- With a configuration that is accepted, every binding of a key works exactly when one of the bindings of that
key, if there is any, names its modifiers in the keyboard's order and once each. -/
theorem bindings_work_iff (plain : ∀ symbol, '+' ∉ (keymap.keysymName symbol).toList)
    (valid : validateBindings self.bindings = .ok ()) (key : Keycode) :
    (∀ binding ∈ self.bindings, self.BoundTo keymap key binding.1 → self.Works keymap key) ↔
      ((∃ binding ∈ self.bindings, self.BoundTo keymap key binding.1) →
        ∃ binding ∈ self.bindings, self.BoundTo keymap key binding.1 ∧ Binding.Ordered binding.1) := by
  have checked := check_of_validateBindings valid
  constructor
  · rintro works ⟨binding, there, bound⟩
    obtain ⟨_, command, -, -, ran⟩ := works binding there bound
    obtain ⟨symbol, looked, found, stored, same⟩ := shortcut_found keymap _ ((press_runs_iff keymap self).mp ran)
    have ordered := (denotes_iff keymap _ (checked _ stored) plain).mpr ⟨symbol, looked, same⟩
    exact ⟨(found, command), stored, ordered⟩
  · rintro some_ordered binding there bound
    obtain ⟨ordered, stored, both⟩ := some_ordered ⟨binding, there, bound⟩
    obtain ⟨symbol, looked, same⟩ := (denotes_iff keymap _ (checked _ stored) plain).mp both
    obtain ⟨command, found⟩ := Option.isSome_iff_exists.mp
      (shortcut_isSome keymap (self.keyInput keymap key .pressed) looked stored same)
    -- The binding that is found first may be another one than the ordered one that is known.
    obtain ⟨symbol, looked, first, stored, same⟩ := shortcut_found keymap _ found
    have boundTo := (denotes_iff keymap _ (checked _ stored) plain).mpr ⟨symbol, looked, same⟩
    exact ⟨first, command, stored, boundTo.1, (press_runs_iff keymap self).mpr found⟩

theorem englishKeymap_plain (symbol : Keysym) : '+' ∉ (englishKeymap.keysymName symbol).toList := by
  simp only [englishKeymap]
  split <;> decide

/-- Super and Shift are held. -/
def chorded (bindings : List (String × String)) : State ModifiersState :=
  { xkb := { shift := true, logo := true }, bindings }

theorem chorded_boundTo {bindings : List (String × String)} {binding : String}
    (modifiers : ∀ modifier, modifier ∈ Binding.modifiers binding ↔ modifier ∈ ["Super", "Shift"])
    (key : Binding.key binding = "A") : (chorded bindings).BoundTo englishKeymap 38 binding :=
  ⟨modifiers, 0x41, List.mem_cons_self, by rw [key]; decide⟩

theorem bindings_work_ordered : validateBindings [("Super+Shift+A", "reload")] = .ok () ∧
    (chorded [("Super+Shift+A", "reload")]).Works englishKeymap 38 := by
  have modifiers : Binding.modifiers "Super+Shift+A" = ["Super", "Shift"] := by decide
  have bound : (chorded [("Super+Shift+A", "reload")]).BoundTo englishKeymap 38 "Super+Shift+A" :=
    chorded_boundTo (by simp [modifiers]) (by decide)
  have works := (bindings_work_iff englishKeymap (chorded [("Super+Shift+A", "reload")]) englishKeymap_plain
    (by decide) 38).mpr fun _ => ⟨_, List.mem_cons_self, bound, by decide⟩
  exact ⟨by decide, works _ List.mem_cons_self bound⟩

/-- A binding that is accepted and that no press runs. -/
theorem binding_unreachable : validateBindings [("Shift+Super+A", "reload")] = .ok () ∧
    (chorded [("Shift+Super+A", "reload")]).BoundTo englishKeymap 38 "Shift+Super+A" ∧
    ¬ (chorded [("Shift+Super+A", "reload")]).Works englishKeymap 38 := by
  have modifiers : Binding.modifiers "Shift+Super+A" = ["Shift", "Super"] := by decide
  have bound : (chorded [("Shift+Super+A", "reload")]).BoundTo englishKeymap 38 "Shift+Super+A" :=
    chorded_boundTo (fun modifier => by simp [modifiers, or_comm]) (by decide)
  refine ⟨by decide, bound, ?_⟩
  rintro ⟨found, command, -, -, ran⟩
  rw [show ((chorded [("Shift+Super+A", "reload")]).input englishKeymap .plain 38 .pressed).2.result = .forward
    by decide] at ran
  cases ran

end State

end Luma.Compositor.Keyboard
