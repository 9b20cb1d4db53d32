import Luma.Library.Assignment
import Luma.Compositor.Policy

/-! The map of outputs as an assignment of workspaces, and what the code does to
it: `workspace` places or trades, the maintenance pass restricts and fills up.
-/

set_option autoImplicit false

namespace Luma.Compositor

open Luma.Library Luma.Library.Assignment

namespace Desktop

/-- The workspace that an output shows. -/
def shows (outputs : Outputs) (name : String) : Option Nat := outputs[name]?

variable {self : Desktop} {outputs : Outputs} {names rest : List String} {name out : String} {workspace : Nat}

theorem contains_eq : outputs.contains name = (shows outputs name).isSome := by
  rw [shows, Std.TreeMap.isSome_getElem?_eq_contains]

theorem workspaceOf_eq : workspaceOf outputs name = (shows outputs name).getD 1 := rfl

theorem shows_insert :
    shows (outputs.insert name workspace) = Function.update (shows outputs) name (some workspace) := by
  funext other
  by_cases same : other = name
  · subst same
    rw [Function.update_self, shows, Std.TreeMap.getElem?_insert_self]
  · rw [Function.update_of_ne same, shows, Std.TreeMap.getElem?_insert, if_neg]
    · rfl
    · intro equal
      exact same (Std.LawfulEqOrd.eq_of_compare equal).symm

theorem shows_retainConnected : shows (retainConnected names outputs) = restrict names (shows outputs) := by
  funext other
  rw [shows, retainConnected, Std.TreeMap.getElem?_filter']
  unfold restrict shows
  cases outputs[other]? <;> simp [Option.filter]

theorem mem_toList {entry : String × Nat} : entry ∈ outputs.toList ↔ shows outputs entry.1 = some entry.2 :=
  Std.TreeMap.mem_toList_iff_getElem?_eq_some

theorem shown_iff : shown outputs workspace = true ↔ ∃ holder, shows outputs holder = some workspace := by
  simp only [shown, List.any_eq_true, beq_iff_eq]
  constructor
  · rintro ⟨entry, there, rfl⟩
    exact ⟨entry.1, mem_toList.mp there⟩
  · rintro ⟨holder, holds⟩
    exact ⟨(holder, workspace), mem_toList.mpr holds, rfl⟩

theorem findEntry_some {test : String → Nat → Bool} (found : findEntry outputs test = some name) :
    ∃ workspace, shows outputs name = some workspace ∧ test name workspace = true := by
  obtain ⟨entry, there, rfl⟩ := Option.map_eq_some_iff.mp found
  have tested := List.find?_some (p := fun entry : String × Nat => test entry.1 entry.2) there
  exact ⟨entry.2, mem_toList.mp (List.mem_of_find?_eq_some there), tested⟩

theorem findEntry_none {test : String → Nat → Bool} (nothing : findEntry outputs test = none)
    (holds : shows outputs name = some workspace) : test name workspace = false := by
  have absent := List.find?_eq_none.mp (Option.map_eq_none_iff.mp nothing) (name, workspace) (mem_toList.mpr holds)
  simpa using absent

/-! ## The commands -/

/-- `workspace N` places the number on an output, or trades with the output that shows it. -/
theorem showWorkspace_cases (self : Desktop) (out : String) (workspace : Nat) :
    Sole (shows self.outputs) out workspace ∧ self.showWorkspace out workspace = { self with
        outputs := self.outputs.insert out workspace
        windows := self.windows.map (moveTo workspace out) } ∨
      ∃ other, other ≠ out ∧ shows self.outputs other = some workspace ∧
        self.showWorkspace out workspace = { self with
          outputs := (self.outputs.insert other (workspaceOf self.outputs out)).insert out workspace
          windows := self.windows.map
            (moveTo workspace out ∘ exchange (workspaceOf self.outputs out) workspace other out) } := by
  unfold showWorkspace giveAway
  dsimp only
  split
  · rename_i nobody
    left
    refine ⟨fun holder holds => ?_, rfl⟩
    simpa using findEntry_none nobody holds
  · rename_i other found
    right
    obtain ⟨shown, holds, tested⟩ := findEntry_some found
    simp only [Bool.and_eq_true, beq_iff_eq, bne_iff_ne] at tested
    refine ⟨other, tested.2, tested.1 ▸ holds, ?_⟩
    rw [List.map_map]

theorem shows_trade {other : String} {previous : Nat} :
    shows ((outputs.insert other previous).insert out workspace) =
      trade (shows outputs) out other previous workspace := by
  rw [shows_insert, shows_insert]
  rfl

/-! ## Outputs without a workspace -/

/-- The numbers that are given to outputs. -/
def pool : List Nat := List.range' 1 9

theorem pool_nodup : pool.Nodup := List.nodup_range'

theorem mem_pool : workspace ∈ pool ↔ 1 ≤ workspace ∧ workspace ≤ 9 := by
  simp only [pool, List.mem_range'_1]
  omega

def unshown (outputs : Outputs) : List Nat := pool.filter fun workspace => !shown outputs workspace

theorem freeWorkspace_eq : freeWorkspace outputs = (unshown outputs).headD 1 := by
  rw [freeWorkspace, unshown, List.headD_eq_head?_getD, List.head?_filter]
  rfl

theorem freeWorkspace_mem : freeWorkspace outputs ∈ pool := by
  rw [freeWorkspace_eq]
  rcases left : unshown outputs with - | ⟨first, more⟩
  · decide
  · have member : first ∈ unshown outputs := left ▸ List.mem_cons_self
    exact (List.mem_filter.mp member).1

theorem unshown_insert (lacks : shows outputs name = none) :
    unshown (outputs.insert name workspace) = (unshown outputs).filter (· != workspace) := by
  unfold unshown
  rw [List.filter_filter]
  apply List.filter_congr
  intro number _
  have same : shown (outputs.insert name workspace) number = true ↔ number = workspace ∨ shown outputs number = true := by
    rw [shown_iff, shown_iff, shows_insert]
    constructor
    · rintro ⟨holder, holds⟩
      by_cases placed : holder = name
      · rw [placed, Function.update_self] at holds
        exact .inl (Option.some.inj holds).symm
      · rw [Function.update_of_ne placed] at holds
        exact .inr ⟨holder, holds⟩
    · rintro (rfl | ⟨holder, holds⟩)
      · exact ⟨name, Function.update_self ..⟩
      · refine ⟨holder, ?_⟩
        rw [Function.update_of_ne, holds]
        rintro rfl
        rw [lacks] at holds
        cases holds
  rw [Bool.eq_iff_iff]
  simp only [Bool.not_eq_true', ← Bool.not_eq_true, same, Bool.and_eq_true, bne_iff_ne]
  tauto

theorem unshown_insert_first {first : Nat} {more : List Nat} (lacks : shows outputs name = none)
    (left : unshown outputs = first :: more) : unshown (outputs.insert name first) = more := by
  have distinct : (first :: more).Nodup := left ▸ pool_nodup.filter _
  rw [unshown_insert lacks, left, List.filter_cons_of_neg (by simp), List.filter_eq_self]
  intro number there
  rw [List.nodup_cons] at distinct
  rw [bne_iff_ne]
  rintro rfl
  exact distinct.1 there

theorem missing_update {assigned : String → Option Nat} (away : name ∉ rest) :
    missing rest (Function.update assigned name (some workspace)) = missing rest assigned := by
  apply List.filter_congr
  intro other there
  rw [Function.update_of_ne]
  rintro rfl
  exact away there

/-- As long as free numbers are left, outputs get them in order. -/
theorem assignMissing_fill (distinct : rest.Nodup)
    (room : (missing rest (shows outputs)).length ≤ (unshown outputs).length) :
    shows (assignMissing rest outputs) =
      fill (shows outputs) ((missing rest (shows outputs)).zip (unshown outputs)) := by
  induction rest generalizing outputs with
  | nil => rfl
  | cons name rest ih =>
    rw [List.nodup_cons] at distinct
    unfold assignMissing
    by_cases known : outputs.contains name = true
    · rw [if_pos known]
      have has : (shows outputs name).isNone = false := by
        rw [contains_eq] at known
        rw [Option.isNone_eq_false_iff, known]
      have same : missing (name :: rest) (shows outputs) = missing rest (shows outputs) :=
        List.filter_cons_of_neg (by simp [has])
      rw [same] at room ⊢
      exact ih distinct.2 room
    · rw [if_neg known]
      have lacks : shows outputs name = none := by
        rw [contains_eq, Bool.not_eq_true, Option.isSome_eq_false_iff, Option.isNone_iff_eq_none] at known
        exact known
      have first : missing (name :: rest) (shows outputs) = name :: missing rest (shows outputs) :=
        List.filter_cons_of_pos (by rw [lacks]; rfl)
      rw [first] at room ⊢
      rcases left : unshown outputs with - | ⟨number, more⟩
      · rw [left] at room
        cases room
      · -- The first free number goes to this output, the others are left for the rest.
        have gone := unshown_insert_first lacks left
        have others : missing rest (shows (outputs.insert name number)) = missing rest (shows outputs) := by
          rw [shows_insert]
          exact missing_update distinct.1
        have enough : (missing rest (shows (outputs.insert name number))).length ≤
            (unshown (outputs.insert name number)).length := by
          rw [others, gone]
          rw [left] at room
          exact Nat.le_of_succ_le_succ room
        rw [freeWorkspace_eq, left]
        have later := ih distinct.2 enough
        rw [others, gone, shows_insert] at later
        exact later

/-- Whatever is assigned is an old entry or one of the nine numbers. -/
theorem assignMissing_cases (holds : shows (assignMissing rest outputs) name = some workspace) :
    shows outputs name = some workspace ∨ workspace ∈ pool := by
  induction rest generalizing outputs with
  | nil => exact .inl holds
  | cons first rest ih =>
    unfold assignMissing at holds
    split at holds
    · exact ih holds
    · rcases ih holds with placed | fresh
      · rw [shows_insert] at placed
        by_cases own : name = first
        · rw [own, Function.update_self] at placed
          rw [← Option.some.inj placed]
          exact .inr freeWorkspace_mem
        · rw [Function.update_of_ne own] at placed
          exact .inl placed
      · exact .inr fresh

theorem missing_restrict {assigned : String → Option Nat} :
    missing names (restrict names assigned) = missing names assigned := by
  apply List.filter_congr
  intro name there
  rw [restrict, if_pos there]

theorem unshown_retainConnected :
    unshown (retainConnected names outputs) = unheld pool names (shows outputs) := by
  apply List.filter_congr
  intro number _
  rw [Bool.eq_iff_iff, Bool.not_eq_true', ← Bool.not_eq_true, shown_iff, shows_retainConnected]
  simp [restrict_some]

/-- The first part of the maintenance pass carries out the plan. -/
theorem shows_maintained (distinct : names.Nodup)
    (room : (missing names (shows outputs)).length ≤ (unheld pool names (shows outputs)).length) :
    shows (assignMissing names (retainConnected names outputs)) = plan pool names (shows outputs) := by
  have lacking : missing names (shows (retainConnected names outputs)) = missing names (shows outputs) := by
    rw [shows_retainConnected, missing_restrict]
  rw [assignMissing_fill distinct (by rw [lacking, unshown_retainConnected]; exact room), lacking,
    unshown_retainConnected, shows_retainConnected]
  rfl

end Desktop

end Luma.Compositor
