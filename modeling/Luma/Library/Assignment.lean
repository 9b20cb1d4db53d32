import Mathlib.Data.List.Perm.Subperm
import Mathlib.Logic.Function.Basic

/-! Partial assignments of values to keys, where a value has one key at most.

A pair is sole when no other key holds its value. An assignment is exclusive when
all of its own pairs are; residents that live with whoever holds their value are
sole pairs as well, so that one set of lemmas serves both.
-/

set_option autoImplicit false

namespace Luma.Library.Assignment

variable {Key Value : Type}

/-- No key but this one holds the value. -/
def Sole (assigned : Key → Option Value) (key : Key) (value : Value) : Prop :=
  ∀ holder, assigned holder = some value → holder = key

def Exclusive (assigned : Key → Option Value) : Prop :=
  ∀ key value, assigned key = some value → Sole assigned key value

variable {assigned later : Key → Option Value} {key other target : Key} {value new previous : Value}

theorem Sole.narrow (sole : Sole assigned key value)
    (kept : ∀ holder, later holder = some value → assigned holder = some value) : Sole later key value :=
  fun holder holds => sole holder (kept holder holds)

theorem Exclusive.narrow (exclusive : Exclusive assigned)
    (kept : ∀ holder value, later holder = some value → assigned holder = some value) : Exclusive later :=
  fun key value holds => (exclusive key value (kept key value holds)).narrow fun holder => kept holder value

section Changes

variable [DecidableEq Key]

/-! ## Single changes -/

theorem Sole.place (sole : Sole assigned key value) (own : value = new → key = target) :
    Sole (Function.update assigned target (some new)) key value := by
  intro holder holds
  by_cases placed : holder = target
  · rw [placed, Function.update_self] at holds
    rw [placed, own (Option.some.inj holds).symm]
  · rw [Function.update_of_ne placed] at holds
    exact sole holder holds

/-- A value may go to a key when no other key holds it. -/
theorem Exclusive.place (exclusive : Exclusive assigned) (sole : Sole assigned target new) :
    Exclusive (Function.update assigned target (some new)) := by
  intro key value holds
  by_cases placed : key = target
  · rw [placed, Function.update_self] at holds
    cases holds
    rw [placed]
    exact sole.place fun _ => rfl
  · rw [Function.update_of_ne placed] at holds
    refine (exclusive key value holds).place ?_
    rintro rfl
    exact sole key holds

/-- Two keys trade: the holder of `new` takes the previous value of the other key. -/
def trade (assigned : Key → Option Value) (target other : Key) (previous new : Value) : Key → Option Value :=
  Function.update (Function.update assigned other (some previous)) target (some new)

theorem trade_target : trade assigned target other previous new target = some new :=
  Function.update_self ..

theorem trade_other (apart : other ≠ target) : trade assigned target other previous new other = some previous := by
  rw [trade, Function.update_of_ne apart, Function.update_self]

theorem trade_of_ne (away : key ≠ target) (apart : key ≠ other) :
    trade assigned target other previous new key = assigned key := by
  rw [trade, Function.update_of_ne away, Function.update_of_ne apart]

theorem Sole.trade (sole : Sole assigned key value) (first : value ≠ new) (second : value ≠ previous) :
    Sole (trade assigned target other previous new) key value :=
  (sole.place fun same => absurd same second).place fun same => absurd same first

/-- After the trade the other key is the only one with the previous value. -/
theorem Sole.trade_previous (sole : Sole assigned target previous) (differ : previous ≠ new) :
    Sole (Assignment.trade assigned target other previous new) other previous := by
  intro holder holds
  by_cases placed : holder = target
  · rw [placed, trade_target] at holds
    exact absurd (Option.some.inj holds).symm differ
  · by_contra apart
    rw [trade_of_ne placed apart] at holds
    exact placed (sole holder holds)

theorem Sole.trade_new (sole : Sole assigned other new) (differ : previous ≠ new) :
    Sole (Assignment.trade assigned target other previous new) target new := by
  intro holder holds
  by_contra placed
  by_cases traded : holder = other
  · rw [traded, trade_other (traded ▸ placed)] at holds
    exact differ (Option.some.inj holds)
  · rw [trade_of_ne placed traded] at holds
    exact traded (sole holder holds)

theorem Exclusive.trade (exclusive : Exclusive assigned) (apart : other ≠ target) (held : assigned other = some new)
    (sole : Sole assigned target previous) (differ : previous ≠ new) :
    Exclusive (trade assigned target other previous new) := by
  have gives := exclusive other new held
  intro key value holds
  by_cases placed : key = target
  · rw [placed, trade_target] at holds
    cases holds
    rw [placed]
    exact gives.trade_new differ
  · by_cases traded : key = other
    · rw [traded, trade_other apart] at holds
      cases holds
      rw [traded]
      exact sole.trade_previous differ
    · rw [trade_of_ne placed traded] at holds
      refine (exclusive key value holds).trade ?_ ?_
      · rintro rfl
        exact traded (gives key holds)
      · rintro rfl
        exact placed (sole key holds)

/-! ## Filling up -/

/-- Keys get values one after the other. -/
def fill (assigned : Key → Option Value) : List (Key × Value) → Key → Option Value
  | [] => assigned
  | (key, value) :: pairs => fill (Function.update assigned key (some value)) pairs

variable {pairs : List (Key × Value)}

theorem fill_cases (holds : fill assigned pairs key = some value) :
    assigned key = some value ∨ (key, value) ∈ pairs := by
  induction pairs generalizing assigned with
  | nil => exact .inl holds
  | cons pair pairs ih =>
    rcases ih holds with placed | later
    · by_cases own : key = pair.1
      · rw [own, Function.update_self] at placed
        right
        rw [own, ← Option.some.inj placed]
        exact List.mem_cons_self
      · rw [Function.update_of_ne own] at placed
        exact .inl placed
    · exact .inr (List.mem_cons_of_mem _ later)

theorem fill_isSome (member : key ∈ pairs.map (·.1) ∨ (assigned key).isSome) : (fill assigned pairs key).isSome := by
  induction pairs generalizing assigned with
  | nil => exact member.resolve_left nofun
  | cons pair pairs ih =>
    apply ih
    by_cases own : key = pair.1
    · right
      rw [own, Function.update_self]
      rfl
    · rw [Function.update_of_ne own]
      exact member.imp_left fun there => (List.mem_cons.mp there).resolve_left own

/-- Different values that nobody holds keep an assignment exclusive. -/
theorem Exclusive.fill (exclusive : Exclusive assigned) (differ : (pairs.map (·.2)).Nodup)
    (fresh : ∀ pair ∈ pairs, ∀ holder, assigned holder ≠ some pair.2) : Exclusive (fill assigned pairs) := by
  induction pairs generalizing assigned with
  | nil => exact exclusive
  | cons pair pairs ih =>
    rw [List.map_cons, List.nodup_cons] at differ
    have sole : Sole assigned pair.1 pair.2 := fun holder holds =>
      absurd holds (fresh pair List.mem_cons_self holder)
    apply ih (Exclusive.place exclusive sole) differ.2
    intro other there holder holds
    by_cases placed : holder = pair.1
    · rw [placed, Function.update_self] at holds
      rw [Option.some.inj holds] at differ
      exact differ.1 (List.mem_map_of_mem there)
    · rw [Function.update_of_ne placed] at holds
      exact fresh other (List.mem_cons_of_mem _ there) holder holds

end Changes

/-! ## Keys without a value, values without a key -/

def restrict [DecidableEq Key] (keys : List Key) (assigned : Key → Option Value) (key : Key) : Option Value :=
  if key ∈ keys then assigned key else none

theorem restrict_some [DecidableEq Key] {keys : List Key} :
    restrict keys assigned key = some value ↔ key ∈ keys ∧ assigned key = some value := by
  unfold restrict
  split <;> simp [*]

def missing (keys : List Key) (assigned : Key → Option Value) : List Key :=
  keys.filter fun key => (assigned key).isNone

theorem mem_missing {keys : List Key} : key ∈ missing keys assigned ↔ key ∈ keys ∧ assigned key = none := by
  simp [missing]

variable [DecidableEq Value]

/-- The values of a pool that none of the keys holds. -/
def unheld (pool : List Value) (keys : List Key) (assigned : Key → Option Value) : List Value :=
  pool.filter fun value => keys.all fun key => assigned key ≠ some value

theorem mem_unheld {pool : List Value} {keys : List Key} :
    value ∈ unheld pool keys assigned ↔ value ∈ pool ∧ ∀ key ∈ keys, assigned key ≠ some value := by
  simp [unheld]

/-- As many values as keys are enough for the keys that have none. -/
theorem missing_le_unheld {pool : List Value} {keys : List Key} (distinct : pool.Nodup)
    (enough : keys.length ≤ pool.length) : (missing keys assigned).length ≤ (unheld pool keys assigned).length := by
  -- The values that are held have different holders among the keys.
  set held := pool.filter fun value => !(keys.all fun key => assigned key ≠ some value) with holding
  have holders : held.length ≤ (keys.filterMap assigned).length := by
    apply (List.subperm_of_subset (distinct.filter _) ?_).length_le
    intro value there
    simp only [List.mem_filter, Bool.not_eq_true', List.all_eq_false, decide_not] at there
    obtain ⟨-, key, member, holds⟩ := there
    exact List.mem_filterMap.mpr ⟨key, member, by simpa using holds⟩
  have values : pool.length = (unheld pool keys assigned).length + held.length :=
    List.length_eq_length_filter_add _
  have counted : (keys.filterMap assigned).length = (keys.filter fun key => !(assigned key).isNone).length := by
    rw [List.length_filterMap_eq_countP, List.countP_eq_length_filter]
    simp
  have split : keys.length = (missing keys assigned).length + (keys.filter fun key => !(assigned key).isNone).length :=
    List.length_eq_length_filter_add _
  omega

section Plan

variable [DecidableEq Key]

/-- The keys that have no value get the values of the pool that are left, in order. -/
def plan (pool : List Value) (keys : List Key) (assigned : Key → Option Value) : Key → Option Value :=
  fill (restrict keys assigned) ((missing keys assigned).zip (unheld pool keys assigned))

variable {pool : List Value} {keys : List Key}

theorem zip_fresh (pair : Key × Value) (there : pair ∈ (missing keys assigned).zip (unheld pool keys assigned)) :
    pair.1 ∈ keys ∧ pair.2 ∈ pool ∧ ∀ holder, restrict keys assigned holder ≠ some pair.2 := by
  obtain ⟨lacks, left⟩ := List.of_mem_zip (a := pair.1) (b := pair.2) there
  obtain ⟨member, free⟩ := mem_unheld.mp left
  refine ⟨(mem_missing.mp lacks).1, member, fun holder holds => ?_⟩
  obtain ⟨known, held⟩ := restrict_some.mp holds
  exact free holder known held

theorem plan_cases (holds : plan pool keys assigned key = some value) :
    key ∈ keys ∧ (assigned key = some value ∨
      (key, value) ∈ (missing keys assigned).zip (unheld pool keys assigned)) := by
  rcases fill_cases holds with old | filled
  · obtain ⟨member, held⟩ := restrict_some.mp old
    exact ⟨member, .inl held⟩
  · exact ⟨(zip_fresh _ filled).1, .inr filled⟩

/-- With values enough every key has one. -/
theorem plan_isSome (room : (missing keys assigned).length ≤ (unheld pool keys assigned).length) (member : key ∈ keys) :
    (plan pool keys assigned key).isSome := by
  apply fill_isSome
  rcases held : assigned key with - | value
  · left
    rw [List.map_fst_zip room]
    exact mem_missing.mpr ⟨member, held⟩
  · right
    rw [restrict, if_pos member, held]
    rfl

/-- The plan is exclusive when what the keys hold already is. -/
theorem plan_exclusive (distinct : pool.Nodup) (exclusive : Exclusive (restrict keys assigned)) :
    Exclusive (plan pool keys assigned) := by
  apply exclusive.fill
  · rw [List.zip_eq_zip_take_min, List.map_snd_zip (by simp)]
    exact (distinct.filter _).sublist (List.take_sublist _ _)
  · exact fun pair there => (zip_fresh pair there).2.2

end Plan

end Luma.Library.Assignment
