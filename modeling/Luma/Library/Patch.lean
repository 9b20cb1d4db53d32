import Mathlib.Data.List.Nodup
import Mathlib.Logic.Function.Basic

/-! Records by their keys, and patches that give some of the keys a value.

A patch is laid over a record, or over another patch. Documents list a patch as
named entries; the entries written of a record read back as that record.
-/

set_option autoImplicit false

namespace Luma.Library

variable {Key : Type} {Value : Key → Type}

/-- A value for each key. -/
abbrev Values (Value : Key → Type) := (key : Key) → Value key

/-- A value for some of the keys. -/
abbrev Patch (Value : Key → Type) := (key : Key) → Option (Value key)

namespace Patch

def empty : Patch Value := fun _ => none

def onto (patch : Patch Value) (base : Values Value) : Values Value := fun key => (patch key).getD (base key)

/-- One patch with another beneath it. -/
def above (upper lower : Patch Value) : Patch Value := fun key => (upper key).or (lower key)

theorem onto_full (record base : Values Value) : onto (fun key => some (record key)) base = record := rfl

/-- Leaving out the patch beneath is seen at the keys that only it sets, to
other values than the base has. -/
theorem above_onto_iff (upper lower : Patch Value) (base : Values Value) :
    upper.onto base = (upper.above lower).onto base ↔
      ∀ key, upper key = none → ∀ value, lower key = some value → value = base key := by
  constructor
  · intro same key absent value set
    have here := congrFun same key
    unfold onto above at here
    rw [absent, set] at here
    exact here.symm
  · intro defaults
    funext key
    unfold onto above
    cases set : upper key with
    | some value => rfl
    | none =>
      cases beneath : lower key with
      | none => rfl
      | some value => exact (defaults key set value beneath).symm

/-! ## Documents -/

variable [DecidableEq Key] {Raw : Type}

/-- How the entries of a document are named, read and written. -/
structure Format (Value : Key → Type) (Raw : Type) where
  name : Key → String
  named : String → Option Key
  read : (key : Key) → Raw → Option (Value key)
  write : (key : Key) → Value key → Raw

variable (format : Format Value Raw)

/-- Unknown names and values of the wrong kind are refused. -/
def readEntry (patch : Patch Value) (entry : String × Raw) : Except String (Patch Value) :=
  match format.named entry.1 with
  | none =>
      let name := entry.1
      .error s!"unknown field {name}"
  | some key =>
      match format.read key entry.2 with
      | none =>
          let name := entry.1
          .error s!"invalid value for {name}"
      | some value => .ok (Function.update patch key (some value))

def readEntries (entries : List (String × Raw)) : Except String (Patch Value) :=
  entries.foldlM (readEntry format) empty

def writeEntries (keys : List Key) (record : Values Value) : List (String × Raw) :=
  keys.map fun key => (format.name key, format.write key (record key))

/-- The record's value at these keys, and the patch elsewhere. -/
theorem foldlM_written (names : ∀ key, format.named (format.name key) = some key) (record : Values Value)
    (reads : ∀ key, format.read key (format.write key (record key)) = some (record key)) (keys : List Key)
    (patch : Patch Value) :
    (writeEntries format keys record).foldlM (readEntry format) patch =
      .ok fun key => if key ∈ keys then some (record key) else patch key := by
  induction keys generalizing patch with
  | nil =>
    have none : (fun key => if key ∈ ([] : List Key) then some (record key) else patch key) = patch := by
      funext key
      simp
    rw [none]
    rfl
  | cons first rest ih =>
    have read : readEntry format patch (format.name first, format.write first (record first)) =
        .ok (Function.update patch first (some (record first))) := by
      unfold readEntry
      rw [names first]
      dsimp only
      rw [reads first]
    have step : (writeEntries format (first :: rest) record).foldlM (readEntry format) patch =
        (writeEntries format rest record).foldlM (readEntry format)
          (Function.update patch first (some (record first))) := by
      show (readEntry format patch _ >>= _) = _
      rw [read]
      rfl
    rw [step, ih]
    congr 1
    funext key
    by_cases later : key ∈ rest
    · simp [later]
    · by_cases same : key = first
      · subst same
        simp [later]
      · simp [later, same]

/-- The entries of all keys read back as the record. -/
theorem readEntries_written (names : ∀ key, format.named (format.name key) = some key) (record : Values Value)
    (reads : ∀ key, format.read key (format.write key (record key)) = some (record key)) {keys : List Key}
    (all : ∀ key, key ∈ keys) :
    readEntries format (writeEntries format keys record) = .ok fun key => some (record key) := by
  unfold readEntries
  rw [foldlM_written format names record reads keys]
  congr 1
  funext key
  rw [if_pos (all key)]

end Patch

end Luma.Library
