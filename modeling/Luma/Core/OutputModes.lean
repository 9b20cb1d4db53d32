import Luma.Library.LastMaximum
import Luma.Library.Rounding
import Mathlib.Tactic.NormNum

/-! The choice among the modes that an output advertises. -/

set_option autoImplicit false

namespace Luma.Core

open Luma.Library LastMaximum Rounding

structure OutputConfig where
  scale : ℚ := 1
  transform : String := "normal"
  width : Int := 0
  height : Int := 0
  /-- The rate in hertz, a double. -/
  hz : ℚ := 0
  /-- The rate in millihertz. -/
  refresh : Int := 0

structure OutputMode where
  width : Int
  height : Int
  refresh : Int
  preferred : Bool
  deriving DecidableEq

namespace OutputConfig

def transforms : List String :=
  ["normal", "90", "180", "270", "flipped", "flipped-90", "flipped-180", "flipped-270"]

/-- The check of an output in `Config::validate`. -/
def Valid (self : OutputConfig) : Prop :=
  (1 / 2 ≤ self.scale ∧ self.scale ≤ 4) ∧ self.transform ∈ transforms ∧ 0 ≤ self.width ∧ 0 ≤ self.height ∧
    (0 ≤ self.hz ∧ self.hz ≤ 1000) ∧ 0 ≤ self.refresh ∧ ¬(0 < self.hz ∧ 0 < self.refresh) ∧
      (self.width = 0 ↔ self.height = 0)

/-- `output_refresh_millihz`. `f64::round` goes away from zero at a half. -/
def outputRefreshMillihz (self : OutputConfig) : Int :=
  if 0 < self.hz then ⌊nearestDouble (self.hz * 1000) + 1 / 2⌋ else self.refresh

/-- The test of the filter. -/
def accepts (self : OutputConfig) (mode : OutputMode) : Bool :=
  let requested := self.outputRefreshMillihz
  (self.width == 0 || (mode.width == self.width && mode.height == self.height)) &&
    (requested == 0 || (mode.refresh - requested).natAbs ≤ 500)

/-- What `max_by_key` compares. -/
structure ModeKey where
  distance : Int
  preferred : Bool
  refresh : Int
  index : Nat

/-- The order of tuples, with the index reversed. -/
def ModeKey.below (first second : ModeKey) : Bool :=
  first.distance < second.distance ||
    first.distance == second.distance &&
      (!first.preferred && second.preferred ||
        first.preferred == second.preferred &&
          (first.refresh < second.refresh ||
            first.refresh == second.refresh && second.index < first.index))

def modeKey (self : OutputConfig) (entry : OutputMode × Nat) : ModeKey :=
  let requested := self.outputRefreshMillihz
  let distance := if requested = 0 then 0 else -((entry.1.refresh - requested).natAbs : Int)
  { distance, preferred := entry.1.preferred, refresh := entry.1.refresh, index := entry.2 }

def lower (self : OutputConfig) (first second : OutputMode × Nat) : Bool :=
  (self.modeKey first).below (self.modeKey second)

def selectOutputMode (modes : List OutputMode) (self : OutputConfig) : Option Nat :=
  let entries := modes.zipIdx.filter fun entry => self.accepts entry.1
  (lastMaximum self.lower entries).map (·.2)

/-! ## The statement -/

/-- The size and the rate of the mode are requested ones, or none are requested. -/
def Fits (self : OutputConfig) (mode : OutputMode) : Prop :=
  (self.width = 0 ∧ self.height = 0 ∨ mode.width = self.width ∧ mode.height = self.height) ∧
    (self.outputRefreshMillihz = 0 ∨ |mode.refresh - self.outputRefreshMillihz| ≤ 500)

/-- How far a mode is from the requested rate. -/
def distance (self : OutputConfig) (mode : OutputMode) : Int :=
  if self.outputRefreshMillihz = 0 then 0 else |mode.refresh - self.outputRefreshMillihz|

/-- The closest rate is first, then a preferred mode, then the highest rate, then the first in the list. -/
def Before (self : OutputConfig) (first second : OutputMode × Nat) : Prop :=
  self.distance first.1 < self.distance second.1 ∨
    self.distance first.1 = self.distance second.1 ∧
      (first.1.preferred = true ∧ second.1.preferred = false ∨
        first.1.preferred = second.1.preferred ∧
          (second.1.refresh < first.1.refresh ∨
            first.1.refresh = second.1.refresh ∧ first.2 < second.2))

/-! ## The order -/

variable {config : OutputConfig} {mode : OutputMode} {first second : OutputMode × Nat}

theorem accepts_iff (valid : config.Valid) : config.accepts mode = true ↔ config.Fits mode := by
  obtain ⟨-, -, -, -, -, -, -, both⟩ := valid
  have size : config.width = 0 ↔ config.width = 0 ∧ config.height = 0 :=
    ⟨fun none_ => ⟨none_, both.mp none_⟩, And.left⟩
  have near : ∀ gap : Int, gap.natAbs ≤ 500 ↔ |gap| ≤ 500 := fun gap => by
    rw [Int.abs_eq_natAbs]
    omega
  simp only [accepts, Fits, Bool.and_eq_true, Bool.or_eq_true, beq_iff_eq, decide_eq_true_eq, near, ← size]

theorem modeKey_distance (config : OutputConfig) (entry : OutputMode × Nat) :
    (config.modeKey entry).distance = -config.distance entry.1 := by
  simp only [modeKey, distance, Int.abs_eq_natAbs]
  split
  · rfl
  · rfl

theorem lower_iff : config.lower first second = true ↔ config.Before second first := by
  have preferred : ∀ entry, (config.modeKey entry).preferred = entry.1.preferred := fun _ => rfl
  have refresh : ∀ entry, (config.modeKey entry).refresh = entry.1.refresh := fun _ => rfl
  have index : ∀ entry, (config.modeKey entry).index = entry.2 := fun _ => rfl
  simp only [lower, ModeKey.below, Before, modeKey_distance, preferred, refresh, index, Bool.or_eq_true,
    Bool.and_eq_true, decide_eq_true_eq, beq_iff_eq, Bool.not_eq_true']
  generalize config.distance first.1 = near
  generalize config.distance second.1 = far
  cases first.1.preferred <;> cases second.1.preferred <;> simp <;> omega

theorem Before.asymm (before : config.Before first second) : ¬config.Before second first := by
  unfold Before at before ⊢
  grind

/-- An entry that is not before another one is not before those that this one is not before. -/
theorem Before.of_not {third : OutputMode × Nat} (last : ¬config.Before second first)
    (middle : ¬config.Before third second) : ¬config.Before third first := by
  unfold Before at last middle ⊢
  grind

theorem lower_ordered (config : OutputConfig) : Ordered config.lower := by
  constructor
  · intro first second lower
    rw [Bool.eq_false_iff, ne_eq, lower_iff]
    exact Before.asymm (lower_iff.mp lower)
  · intro first second third one two
    rw [Bool.eq_false_iff, ne_eq, lower_iff] at one two ⊢
    exact Before.of_not one two

theorem Before.total (apart : first.2 ≠ second.2) (last : ¬config.Before second first) :
    config.Before first second := by
  unfold Before at last ⊢
  grind

/-! ## The choice -/

variable {modes : List OutputMode}

theorem mem_entries (valid : config.Valid) {entry : OutputMode × Nat} :
    (entry ∈ modes.zipIdx.filter fun entry => config.accepts entry.1) ↔
      modes[entry.2]? = some entry.1 ∧ config.Fits entry.1 := by
  rw [List.mem_filter, accepts_iff valid, List.mem_zipIdx_iff_getElem?]

theorem selectOutputMode_none (valid : config.Valid) :
    selectOutputMode modes config = none ↔ ∀ mode ∈ modes, ¬config.Fits mode := by
  rw [selectOutputMode, Option.map_eq_none_iff, lastMaximum_eq_none, List.filter_eq_nil_iff]
  constructor
  · intro absent mode there fits
    obtain ⟨index, placed⟩ := List.mem_iff_getElem?.mp there
    exact absent (mode, index) (List.mem_zipIdx_iff_getElem?.mpr placed) ((accepts_iff valid).mpr fits)
  · intro absent entry there accepted
    have placed := List.mem_zipIdx_iff_getElem?.mp there
    exact absent entry.1 (List.mem_of_getElem? placed) ((accepts_iff valid).mp accepted)

theorem selectOutputMode_some (valid : config.Valid) {index : Nat}
    (chosen : selectOutputMode modes config = some index) :
    ∃ mode, modes[index]? = some mode ∧ config.Fits mode ∧
      ∀ other otherIndex, modes[otherIndex]? = some other → config.Fits other → otherIndex ≠ index →
        config.Before (mode, index) (other, otherIndex) := by
  obtain ⟨entry, found, rfl⟩ := Option.map_eq_some_iff.mp chosen
  obtain ⟨there, greatest⟩ := lastMaximum_spec (lower_ordered config) found
  obtain ⟨placed, fits⟩ := (mem_entries valid).mp there
  refine ⟨entry.1, placed, fits, ?_⟩
  intro other otherIndex listed fitting apart
  have level := greatest (other, otherIndex) ((mem_entries valid).mpr ⟨listed, fitting⟩)
  rw [Bool.eq_false_iff, ne_eq, lower_iff] at level
  exact Before.total apart.symm level

/-- Where the entries are once another one stands before a place. -/
def shift (place : Nat) (entry : OutputMode × Nat) : OutputMode × Nat :=
  (entry.1, if entry.2 < place then entry.2 else entry.2 + 1)

theorem lower_shift (place : Nat) :
    config.lower (shift place first) (shift place second) = config.lower first second := by
  rw [Bool.eq_iff_iff, lower_iff, lower_iff]
  unfold Before shift
  simp only
  split <;> split <;> grind

theorem zipIdx_insert (before after : List OutputMode) (mode : OutputMode) (rejected : config.accepts mode = false) :
    ((before ++ mode :: after).zipIdx.filter fun entry => config.accepts entry.1) =
      ((before ++ after).zipIdx.filter fun entry => config.accepts entry.1).map (shift before.length) := by
  -- Only the places behind the rejected mode are moved.
  have drops : ∀ place, ((mode :: after).zipIdx place).filter (fun entry => config.accepts entry.1) =
      (after.zipIdx (place + 1)).filter fun entry => config.accepts entry.1 := by
    intro place
    rw [List.zipIdx_cons]
    exact List.filter_cons_of_neg (Bool.eq_false_iff.mp rejected)
  rw [List.zipIdx_append, List.zipIdx_append, List.filter_append, List.filter_append, List.map_append, drops,
    Nat.zero_add]
  congr 1
  · refine (List.map_congr_left ?_).trans (List.map_id _) |>.symm
    intro entry there
    have early := List.snd_lt_of_mem_zipIdx (List.mem_filter.mp there).1
    exact Prod.ext rfl (if_pos early)
  · rw [List.zipIdx_succ, List.filter_map]
    refine List.map_congr_left ?_
    intro entry there
    have late := List.le_snd_of_mem_zipIdx (List.mem_filter.mp there).1
    exact Prod.ext rfl (if_neg (Nat.not_lt.mpr late)).symm

/-- A mode that is not chosen from does not change which mode is chosen. -/
theorem selectOutputMode_insert (before after : List OutputMode) (mode : OutputMode)
    (rejected : config.accepts mode = false) :
    selectOutputMode (before ++ mode :: after) config = (selectOutputMode (before ++ after) config).map fun index =>
      if index < before.length then index else index + 1 := by
  have carried : ∀ entries, lastMaximum config.lower (entries.map (shift before.length)) =
      (lastMaximum config.lower entries).map (shift before.length) := fun entries =>
    lastMaximum_map fun _ _ => lower_shift before.length
  simp only [selectOutputMode, zipIdx_insert before after mode rejected, carried, Option.map_map]
  rfl

theorem selectOutputMode_optimal (config : OutputConfig) (valid : config.Valid) (modes : List OutputMode) :
    (selectOutputMode modes config = none ↔ ∀ mode ∈ modes, ¬config.Fits mode) ∧
      (∀ index, selectOutputMode modes config = some index →
        ∃ mode, modes[index]? = some mode ∧ config.Fits mode ∧
          ∀ other otherIndex, modes[otherIndex]? = some other → config.Fits other → otherIndex ≠ index →
            config.Before (mode, index) (other, otherIndex)) ∧
        ∀ before after mode, modes = before ++ after → ¬config.Fits mode →
          selectOutputMode (before ++ mode :: after) config = (selectOutputMode modes config).map fun index =>
            if index < before.length then index else index + 1 := by
  refine ⟨selectOutputMode_none valid, fun index => selectOutputMode_some valid, ?_⟩
  rintro before after mode rfl unfit
  refine selectOutputMode_insert before after mode ?_
  rw [Bool.eq_false_iff, ne_eq, accepts_iff valid]
  exact unfit

/-- The output of the tests with a requested rate of 60 Hz. -/
def requested : OutputConfig := { width := 2560, height := 1440, refresh := 60000 }

theorem requested_valid : requested.Valid := by
  norm_num [requested, Valid, transforms]

theorem selectOutputMode_optimal_requested :
    selectOutputMode [⟨1920, 1080, 60000, true⟩, ⟨2560, 1440, 59940, false⟩] requested = some 1 ∧
      ∃ mode, [(⟨1920, 1080, 60000, true⟩ : OutputMode), ⟨2560, 1440, 59940, false⟩][1]? = some mode ∧
        requested.Fits mode :=
  have chosen : selectOutputMode [⟨1920, 1080, 60000, true⟩, ⟨2560, 1440, 59940, false⟩] requested = some 1 := by decide
  have ⟨mode, placed, fits, _⟩ := (selectOutputMode_optimal requested requested_valid _).2.1 1 chosen
  ⟨chosen, mode, placed, fits⟩

end OutputConfig

end Luma.Core
