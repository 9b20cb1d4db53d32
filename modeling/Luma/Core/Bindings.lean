import Mathlib.Data.List.Basic

/-! The texts that name key bindings: modifiers and, last, a key, joined by plus signs.

The parser of the configuration takes such a text apart. The keyboard puts one together for a
press, and compares it with those of the configuration letter by letter, whatever their case.
-/

set_option autoImplicit false

namespace Luma.Core

namespace Binding

def modifierNames : List String := ["Super", "Ctrl", "Alt", "Shift"]

/-- The parts of a text between its plus signs. -/
def parts (binding : String) : List String := (binding.toList.splitOn '+').map String.ofList

def modifiers (binding : String) : List String := (parts binding).dropLast

def key (binding : String) : String := (parts binding).getLast?.getD ""

def check (binding : String) : Except String Unit :=
  match (parts binding).getLast? with
  | none => .error "invalid binding"
  | some key =>
      if key.isEmpty || (modifiers binding).any (fun modifier => !modifierNames.contains modifier) then
        .error ("invalid binding: " ++ binding)
      else .ok ()

/-- The modifiers stand in the order in which the keyboard names them, each at most once. -/
def Ordered (binding : String) : Prop := (modifiers binding).Sublist modifierNames

instance (binding : String) : Decidable (Ordered binding) :=
  inferInstanceAs (Decidable ((modifiers binding).Sublist modifierNames))

/-- The text of some modifiers and a key. -/
def text (held : List String) (key : String) : String :=
  held.foldr (fun modifier rest => modifier ++ "+" ++ rest) key

/-- The letters of a text, in lower case where they are ASCII ones. -/
def fold (text : String) : List Char := text.toList.map Char.toLower

end Binding

/-- The part of the configuration's `validate` that looks at the bindings. -/
def validateBindings : List (String × String) → Except String Unit
  | [] => .ok ()
  | binding :: rest => do
      Binding.check binding.1
      validateBindings rest

/-! ## What the texts say -/

theorem check_of_validateBindings {bindings : List (String × String)} (valid : validateBindings bindings = .ok ()) :
    ∀ binding ∈ bindings, Binding.check binding.1 = .ok () := by
  induction bindings with
  | nil => simp
  | cons first rest ih =>
      cases checked : Binding.check first.1 with
      | error reason =>
          rw [validateBindings, checked] at valid
          cases valid
      | ok =>
          rw [validateBindings, checked] at valid
          rw [List.forall_mem_cons]
          exact ⟨checked, ih valid⟩

namespace Binding

variable {binding first second name : String} {held : List String}

theorem modifiers_subset (valid : check binding = .ok ()) : modifiers binding ⊆ modifierNames := by
  unfold check at valid
  split at valid
  · cases valid
  · split at valid
    · cases valid
    · rename_i clean
      intro modifier there
      simp only [Bool.or_eq_true, List.any_eq_true, not_or, not_exists] at clean
      simpa [there] using clean.2 modifier

/-- Parts of a list and changing its letters commute, where the change neither makes nor unmakes a separator. -/
theorem splitOn_map {α β : Type} [BEq α] [LawfulBEq α] [BEq β] [LawfulBEq β] (change : α → β) {before : α} {after : β}
    (only : ∀ letter, change letter = after ↔ letter = before) (letters : List α) :
    (letters.map change).splitOn after = (letters.splitOn before).map (List.map change) := by
  induction letters with
  | nil => simp [List.splitOn_nil]
  | cons letter rest ih =>
      rw [List.map_cons, List.splitOn_cons_eq_if_modifyHead, List.splitOn_cons_eq_if_modifyHead, ih]
      by_cases separator : letter = before
      · simp [separator, (only before).mpr rfl]
      · have kept : change letter ≠ after := fun same => separator ((only letter).mp same)
        cases pieces : rest.splitOn before with
        | nil => exact absurd pieces (List.splitOn_ne_nil before rest)
        | cons piece others => simp [separator, kept]

theorem splitOn_injective {α : Type} [BEq α] [LawfulBEq α] (separator : α) {first second : List α}
    (same : first.splitOn separator = second.splitOn separator) : first = second := by
  have joined := congrArg (List.intercalate [separator]) same
  rwa [List.intercalate_splitOn, List.intercalate_splitOn] at joined

theorem toLower_eq_plus (letter : Char) : letter.toLower = '+' ↔ letter = '+' := by
  unfold Char.toLower
  split
  · rename_i upper
    simp only [Char.ext_iff, UInt32.le_iff_toNat_le, ← UInt32.toNat_inj, UInt32.toNat_add] at upper ⊢
    simp at upper ⊢
    omega
  · rfl

theorem fold_splitOn (binding : String) : (fold binding).splitOn '+' = (parts binding).map fold := by
  rw [fold, splitOn_map Char.toLower toLower_eq_plus, parts, List.map_map]
  exact List.map_congr_left fun piece _ => by simp [fold]

theorem fold_eq_iff : fold first = fold second ↔ (parts first).map fold = (parts second).map fold := by
  rw [← fold_splitOn, ← fold_splitOn]
  exact ⟨fun same => by rw [same], splitOn_injective '+'⟩

theorem parts_eq (binding : String) : parts binding = modifiers binding ++ [key binding] := by
  have written : parts binding ≠ [] := by simp [parts]
  rw [modifiers, key, List.getLast?_eq_getLast_of_ne_nil written, Option.getD_some, List.dropLast_append_getLast]

theorem parts_text (names : ∀ modifier ∈ held, '+' ∉ modifier.toList) (plain : '+' ∉ name.toList) :
    parts (text held name) = held ++ [name] := by
  induction held with
  | nil => simp [text, parts, List.splitOn_eq_singleton plain]
  | cons modifier rest ih =>
      have below := ih fun modifier there => names modifier (List.mem_cons_of_mem _ there)
      have whole : (text (modifier :: rest) name).toList = modifier.toList ++ '+' :: (text rest name).toList := by
        simp [text]
      rw [parts, whole, List.splitOn_append_cons_self_of_not_mem (names modifier List.mem_cons_self)]
      rw [parts] at below
      rw [List.map_cons, below, String.ofList_toList, List.cons_append]

theorem plus_notMem_modifierNames : ∀ modifier ∈ modifierNames, '+' ∉ modifier.toList := by decide

theorem fold_injective_modifierNames : ∀ first ∈ modifierNames, ∀ second ∈ modifierNames, fold first = fold second →
    first = second := by decide

theorem map_fold_inj {first second : List String} (firstNames : first ⊆ modifierNames)
    (secondNames : second ⊆ modifierNames) : first.map fold = second.map fold ↔ first = second := by
  refine ⟨fun same => ?_, fun same => by rw [same]⟩
  induction first generalizing second with
  | nil => cases second with
    | nil => rfl
    | cons => cases same
  | cons name rest ih =>
      cases second with
      | nil => cases same
      | cons other others =>
          rw [List.cons_subset] at firstNames secondNames
          rw [List.map_cons, List.map_cons, List.cons.injEq] at same
          rw [fold_injective_modifierNames name firstNames.1 other secondNames.1 same.1,
            ih firstNames.2 secondNames.2 same.2]

/-- A text is that of a press, up to the case of its letters, when it names the modifiers as the press does. -/
theorem fold_eq_text_iff (valid : check binding = .ok ()) (names : held ⊆ modifierNames) (plain : '+' ∉ name.toList) :
    fold binding = fold (text held name) ↔ modifiers binding = held ∧ fold (key binding) = fold name := by
  have separate : ∀ modifier ∈ held, '+' ∉ modifier.toList := fun modifier there =>
    plus_notMem_modifierNames modifier (names there)
  rw [fold_eq_iff, parts_text separate plain, parts_eq, List.map_append, List.map_append]
  simp only [List.map_cons, List.map_nil, List.append_singleton_inj, map_fold_inj (modifiers_subset valid) names]

/-- Of the ways to name some modifiers only one is ordered. -/
theorem sublist_ext {α : Type} {all first second : List α} (unique : all.Nodup) (firstIn : first.Sublist all)
    (secondIn : second.Sublist all) (same : ∀ entry, entry ∈ first ↔ entry ∈ second) : first = second := by
  induction firstIn generalizing second with
  | slnil => exact (List.sublist_nil.mp secondIn).symm
  | @cons first all entry firstIn ih =>
      rw [List.nodup_cons] at unique
      cases secondIn with
      | cons _ secondIn => exact ih unique.2 secondIn same
      | cons_cons => exact absurd (firstIn.subset ((same entry).mpr List.mem_cons_self)) unique.1
  | @cons_cons first all entry firstIn ih =>
      rw [List.nodup_cons] at unique
      cases secondIn with
      | cons _ secondIn => exact absurd (secondIn.subset ((same entry).mp List.mem_cons_self)) unique.1
      | @cons_cons second _ _ secondIn =>
          congr 1
          refine ih unique.2 secondIn fun other => ?_
          by_cases is : other = entry
          · subst is
            exact ⟨fun there => absurd (firstIn.subset there) unique.1,
              fun there => absurd (secondIn.subset there) unique.1⟩
          · simpa [is] using same other

end Binding

end Luma.Core
