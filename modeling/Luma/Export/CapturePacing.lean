import Luma.Export.GlExport
import Mathlib.Tactic.Ring

/-! The deadline of the exporting capture keeps the phase of its first capture.

Time since the first capture is cut into cells of one interval. In each cell the first present is captured.
-/

set_option autoImplicit false

namespace Luma.Export

open Luma.Library

/-- `luma_capture_due` on its own words. -/
def lumaCaptureDue (now interval due : UInt64) : Bool × UInt64 :=
  if interval = 0 ∨ now < due then (false, due)
  else if due = 0 then (true, now + interval)
  else (true, due + ((now - due) / interval + 1) * interval)

/-- A present, with what was answered and the deadline after it. -/
structure Present where
  time : UInt64
  captured : Bool
  due : UInt64
  deriving DecidableEq

namespace Present

def answered (interval due now : UInt64) : Present :=
  let answer := lumaCaptureDue now interval due
  { time := now, captured := answer.1, due := answer.2 }

def step (interval : UInt64) : Transition.Step UInt64 UInt64 Present := fun due now =>
  ((answered interval due now).due, [answered interval due now])

abbrev Presents (interval : UInt64) (allowed : Transition.Condition UInt64 UInt64 Present) :
    List Present → UInt64 → Prop :=
  Transition.Run (step interval) allowed (· = 0)

/-! ## The statement -/

/-- Times do not decrease from the first one on, and their deadlines do not overflow. -/
def Ordered (first interval : UInt64) : Transition.Condition UInt64 UInt64 Present := fun history _ now =>
  (history = [] → now = first) ∧ (∀ earlier ∈ history, earlier.time ≤ now) ∧ now.toNat + interval.toNat < 2 ^ 64

instance (first interval : UInt64) (history : List Present) (due now : UInt64) :
    Decidable (Ordered first interval history due now) := by
  unfold Ordered
  infer_instance

/-- The number of the cell of this time. -/
def cell (first interval time : UInt64) : Nat := (time.toNat - first.toNat) / interval.toNat

structure Paced (first interval : UInt64) (present : Present) (earlier : List Present) : Prop where
  phase : present.captured = true →
    present.time < present.due ∧ ∃ k, present.due.toNat = first.toNat + k * interval.toNat
  leads : present.captured = true ↔
    ∀ other ∈ earlier, cell first interval other.time ≠ cell first interval present.time

/-! ## Words and numbers -/

variable {now interval due first : UInt64}

theorem advance_le (now interval due : Nat) (passed : due ≤ now) :
    due + ((now - due) / interval + 1) * interval ≤ now + interval := by
  have cells := Nat.div_mul_le_self (now - due) interval
  rw [Nat.add_one_mul]
  omega

theorem toNat_eq_zero (word : UInt64) : word.toNat = 0 ↔ word = 0 := UInt64.toNat_inj (b := 0)

theorem toNat_advance (some : interval ≠ 0) (passed : due ≤ now) (room : now.toNat + interval.toNat < 2 ^ 64) :
    (due + ((now - due) / interval + 1) * interval).toNat =
      due.toNat + ((now.toNat - due.toNat) / interval.toNat + 1) * interval.toNat := by
  have bound := advance_le now.toNat interval.toNat due.toNat (UInt64.le_iff_toNat_le.mp passed)
  have cells : ((now - due) / interval).toNat = (now.toNat - due.toNat) / interval.toNat := by
    rw [UInt64.toNat_div, UInt64.toNat_sub_of_le _ _ passed]
  have positive : 0 < interval.toNat := Nat.pos_of_ne_zero fun zero => some ((toNat_eq_zero interval).mp zero)
  -- Nothing that is computed on the way is above the present and one interval.
  have small := Nat.div_le_self (now.toNat - due.toNat) interval.toNat
  have next : ((now - due) / interval + 1).toNat = (now.toNat - due.toNat) / interval.toNat + 1 := by
    rw [UInt64.toNat_add, cells]
    exact Nat.mod_eq_of_lt (by rw [UInt64.toNat_one]; omega)
  have advance : (((now - due) / interval + 1) * interval).toNat =
      ((now.toNat - due.toNat) / interval.toNat + 1) * interval.toNat := by
    rw [UInt64.toNat_mul, next]
    exact Nat.mod_eq_of_lt (by omega)
  rw [UInt64.toNat_add, advance]
  exact Nat.mod_eq_of_lt (by omega)

/-! ## The deadline -/

variable {history : List Present}

/-- A time is before the end of a cell exactly if its own cell is not a later one. -/
theorem cell_lt {time : UInt64} (some : 0 < interval.toNat) (after : first ≤ time) (k : Nat) :
    cell first interval time < k ↔ time.toNat < first.toNat + k * interval.toNat := by
  have order := UInt64.le_iff_toNat_le.mp after
  unfold cell
  rw [Nat.div_lt_iff_lt_mul some]
  omega

theorem cell_shift (some : 0 < interval.toNat) {k : Nat} (place : due.toNat = first.toNat + k * interval.toNat)
    (passed : due.toNat ≤ now.toNat) :
    cell first interval now = k + (now.toNat - due.toNat) / interval.toNat := by
  have split : now.toNat - first.toNat = (now.toNat - due.toNat) + interval.toNat * k := by
    rw [Nat.mul_comm]
    omega
  rw [cell, split, Nat.add_mul_div_left _ _ some, Nat.add_comm]

/-- After the first present the deadline ends the cell of the latest capture, and every present was before it. -/
structure Phase (first interval : UInt64) (history : List Present) (due : UInt64) : Prop where
  fresh : history = [] → due = 0
  ends : history ≠ [] →
    ∃ latest ∈ history, due.toNat = first.toNat + (cell first interval latest.time + 1) * interval.toNat
  before : ∀ present ∈ history, first ≤ present.time ∧ present.time < due

theorem answered_early (early : now < due) :
    answered interval due now = { time := now, captured := false, due } := by
  unfold answered lumaCaptureDue
  rw [if_pos (.inr early)]

theorem answered_first (some : interval ≠ 0) :
    answered interval 0 now = { time := now, captured := true, due := now + interval } := by
  have ready : ¬(interval = 0 ∨ now < 0) := fun early => early.elim some (UInt64.not_lt.mpr UInt64.zero_le)
  unfold answered lumaCaptureDue
  rw [if_neg ready, if_pos rfl]

theorem answered_later (some : interval ≠ 0) (started : due ≠ 0) (passed : due ≤ now) :
    answered interval due now =
      { time := now, captured := true, due := due + ((now - due) / interval + 1) * interval } := by
  have ready : ¬(interval = 0 ∨ now < due) := fun early => early.elim some (UInt64.not_lt.mpr passed)
  unfold answered lumaCaptureDue
  rw [if_neg ready, if_neg started]

/-- The deadline that a capture leaves ends the cell of its present. -/
theorem Phase.capture {present : Present} (phase : Phase first interval history due) (some : 0 < interval.toNat)
    (after : first ≤ present.time) (follows : ∀ other ∈ history, other.time ≤ present.time)
    (captured : present.captured = true)
    (ends : present.due.toNat = first.toNat + (cell first interval present.time + 1) * interval.toNat)
    (new : ∀ other ∈ history, cell first interval other.time ≠ cell first interval present.time) :
    Phase first interval (present :: history) present.due ∧ Paced first interval present history := by
  have early : present.time < present.due := by
    rw [UInt64.lt_iff_toNat_lt, ends, ← cell_lt some after]
    exact Nat.lt_succ_self _
  constructor
  · refine ⟨fun empty => absurd empty (List.cons_ne_nil _ _), fun _ => ⟨present, List.mem_cons_self, ends⟩, ?_⟩
    intro other there
    rcases List.mem_cons.mp there with rfl | old
    · exact ⟨after, early⟩
    · exact ⟨(phase.before other old).1, UInt64.lt_of_le_of_lt (follows other old) early⟩
  · exact ⟨fun _ => ⟨early, _, ends⟩, fun _ => new, fun _ => captured⟩

/-- A present before the deadline is in the cell of the latest capture. -/
theorem Phase.skip (phase : Phase first interval history due) (some : 0 < interval.toNat)
    (follows : ∀ other ∈ history, other.time ≤ now) {latest : Present} (there : latest ∈ history)
    (ends : due.toNat = first.toNat + (cell first interval latest.time + 1) * interval.toNat) (early : now < due) :
    Phase first interval ({ time := now, captured := false, due } :: history) due ∧
      Paced first interval { time := now, captured := false, due } history := by
  have begun := (phase.before latest there).1
  have after : first ≤ now := UInt64.le_trans begun (follows latest there)
  have same : cell first interval latest.time = cell first interval now := by
    have below := UInt64.lt_iff_toNat_lt.mp early
    rw [ends, ← cell_lt some after] at below
    have above := Nat.div_le_div_right (c := interval.toNat)
      (Nat.sub_le_sub_right (UInt64.le_iff_toNat_le.mp (follows latest there)) first.toNat)
    exact Nat.le_antisymm above (Nat.le_of_lt_succ below)
  constructor
  · refine ⟨fun empty => absurd empty (List.cons_ne_nil _ _), fun _ => ⟨latest, List.mem_cons_of_mem _ there, ends⟩, ?_⟩
    intro other member
    rcases List.mem_cons.mp member with rfl | old
    · exact ⟨after, early⟩
    · exact phase.before other old
  · refine ⟨fun captured => (Bool.false_ne_true captured).elim, fun captured => (Bool.false_ne_true captured).elim, ?_⟩
    exact fun new => absurd same (new latest there)

theorem Phase.step (phase : Phase first interval history due) (some : interval ≠ 0)
    (ordered : Ordered first interval history due now) :
    Phase first interval (answered interval due now :: history) (answered interval due now).due ∧
      Paced first interval (answered interval due now) history := by
  obtain ⟨begins, follows, room⟩ := ordered
  have wide : 0 < interval.toNat := Nat.pos_of_ne_zero fun zero => some ((toNat_eq_zero interval).mp zero)
  cases history with
  | nil =>
    -- The first present starts the cells.
    obtain rfl := phase.fresh rfl
    obtain rfl := begins rfl
    rw [answered_first some]
    have own : cell now interval now = 0 := by
      rw [cell, Nat.sub_self, Nat.zero_div]
    refine phase.capture wide UInt64.le_rfl follows rfl ?_ (fun other there => (List.not_mem_nil there).elim)
    show (now + interval).toNat = now.toNat + (cell now interval now + 1) * interval.toNat
    rw [own, Nat.zero_add, Nat.one_mul, UInt64.toNat_add, Nat.mod_eq_of_lt room]
  | cons previous earlier =>
    obtain ⟨latest, there, ends⟩ := phase.ends (List.cons_ne_nil _ _)
    by_cases early : now < due
    · rw [answered_early early]
      exact phase.skip wide follows there ends early
    -- The deadline is the end of an earlier cell, so no present was in this one.
    · have passed : due ≤ now := UInt64.not_lt.mp early
      have shifted := cell_shift wide ends (UInt64.le_iff_toNat_le.mp passed)
      have started : due ≠ 0 := by
        rintro rfl
        exact UInt64.not_lt.mpr UInt64.zero_le (phase.before latest there).2
      have begun := (phase.before latest there).1
      rw [answered_later some started passed]
      refine phase.capture wide (UInt64.le_trans begun (follows latest there)) follows rfl ?_ ?_
      · show UInt64.toNat _ = _
        rw [toNat_advance some passed room, shifted, ends]
        ring
      · intro other old
        obtain ⟨after, below⟩ := phase.before other old
        have inside := UInt64.lt_iff_toNat_lt.mp below
        rw [ends, ← cell_lt wide after] at inside
        have later : cell first interval latest.time + 1 ≤ cell first interval now := shifted ▸ Nat.le_add_right _ _
        exact Nat.ne_of_lt (Nat.lt_of_lt_of_le inside later)

/-- A capture ends the cell that it is in, which is a later one than those before. -/
theorem Phase.of_presents (some : interval ≠ 0) (run : Presents interval (Ordered first interval) history due) :
    Phase first interval history due ∧ Transition.Throughout (Paced first interval) history := by
  induction run with
  | start begun =>
    subst begun
    refine ⟨⟨fun _ => rfl, fun started => absurd rfl started, ?_⟩, trivial⟩
    intro present there
    cases there
  | step now _ ordered ih =>
    obtain ⟨next, paced⟩ := ih.1.step some ordered
    exact ⟨next, paced, ih.2⟩

theorem captures_apart (paced : Transition.Throughout (Paced first interval) history) :
    (history.filter (·.captured)).Pairwise fun later earlier =>
      cell first interval earlier.time ≠ cell first interval later.time := by
  induction history with
  | nil => exact List.Pairwise.nil
  | cons present earlier ih =>
    cases captured : present.captured with
    | false =>
      rw [List.filter_cons_of_neg (by simp [captured])]
      exact ih paced.2
    | true =>
      rw [List.filter_cons_of_pos captured, List.pairwise_cons]
      refine ⟨?_, ih paced.2⟩
      intro other there
      exact paced.1.leads.mp captured other (List.mem_of_mem_filter there)

/-- After each capture the deadline is a whole number of intervals after the first present, and not passed. The captures
are the first presents of their cells, and no cell has two. -/
theorem presents_paced (some : interval ≠ 0) (run : Presents interval (Ordered first interval) history due) :
    Transition.Throughout (Paced first interval) history ∧
      (history.filter (·.captured)).Pairwise fun later earlier =>
        cell first interval earlier.time ≠ cell first interval later.time :=
  ⟨(Phase.of_presents some run).2, captures_apart (Phase.of_presents some run).2⟩

/-- A capture in time, one that is late by more than a cell, and presents within cells. -/
theorem presents_paced_late :
    (Transition.execute (step 10) 0 [1000, 1012, 1015, 1041, 1050]).2.reverse.map (·.captured) =
        [true, true, false, true, true] ∧
      Transition.Throughout (Paced 1000 10) (Transition.execute (step 10) 0 [1000, 1012, 1015, 1041, 1050]).2 := by
  have ordered : Transition.Permits (step 10) (Ordered 1000 10) [] 0 [1000, 1012, 1015, 1041, 1050] := by
    decide
  have run : Presents 10 (Ordered 1000 10) _ _ := Transition.Run.execute _ (.start rfl) ordered
  rw [List.append_nil] at run
  exact ⟨by decide, (presents_paced (by decide) run).1⟩

end Present

end Luma.Export
