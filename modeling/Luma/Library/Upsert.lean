import Mathlib.Data.List.Nodup

/-! A list of items with different keys, where an item takes the place of the one with its key. -/

set_option autoImplicit false

namespace Luma.Library

variable {Item Key : Type} [DecidableEq Key] (key : Item → Key)

def upsert (new : Item) : List Item → List Item
  | [] => [new]
  | item :: rest => if key item = key new then new :: rest else item :: upsert new rest

namespace upsert

variable {key} {new item : Item} {items : List Item}

theorem known (there : key new ∈ items.map key) : (upsert key new items).map key = items.map key := by
  induction items with
  | nil => cases there
  | cons first rest ih =>
    unfold upsert
    split
    · rename_i same
      rw [List.map_cons, List.map_cons, same]
    · rename_i other
      have later := (List.mem_cons.mp there).resolve_left fun same => other same.symm
      rw [List.map_cons, List.map_cons, ih later]

theorem fresh (absent : key new ∉ items.map key) : upsert key new items = items ++ [new] := by
  induction items with
  | nil => rfl
  | cons first rest ih =>
    rw [List.map_cons, List.mem_cons, not_or] at absent
    rw [upsert, if_neg fun same => absent.1 same.symm, ih absent.2]
    rfl

theorem mem_keys {name : Key} : name ∈ (upsert key new items).map key ↔ name = key new ∨ name ∈ items.map key := by
  by_cases there : key new ∈ items.map key
  · rw [known there]
    exact ⟨.inr, fun either => either.elim (fun same => same ▸ there) id⟩
  · rw [fresh there, List.map_append, List.map_singleton, List.mem_append, List.mem_singleton, or_comm]

theorem length (items : List Item) : (upsert key new items).length =
    if key new ∈ items.map key then items.length else items.length + 1 := by
  split
  · rename_i there
    rw [← List.length_map key, known there, List.length_map]
  · rename_i absent
    rw [fresh absent, List.length_append, List.length_singleton]

theorem nodup (distinct : (items.map key).Nodup) : ((upsert key new items).map key).Nodup := by
  by_cases there : key new ∈ items.map key
  · rw [known there]
    exact distinct
  · rw [fresh there, List.map_append, List.nodup_append]
    refine ⟨distinct, List.nodup_singleton _, ?_⟩
    rintro _ before _ last rfl
    rw [List.map_singleton, List.mem_singleton] at last
    exact there (last ▸ before)

theorem mem_self : new ∈ upsert key new items := by
  induction items with
  | nil => exact List.mem_cons_self
  | cons first rest ih =>
    unfold upsert
    split
    · exact List.mem_cons_self
    · exact List.mem_cons_of_mem _ ih

theorem mem_of_mem (there : item ∈ upsert key new items) : item = new ∨ item ∈ items := by
  induction items with
  | nil => exact .inl (List.mem_singleton.mp there)
  | cons first rest ih =>
    unfold upsert at there
    split at there
    · exact (List.mem_cons.mp there).imp_right (List.mem_cons_of_mem _)
    · rcases List.mem_cons.mp there with rfl | later
      · exact .inr List.mem_cons_self
      · exact (ih later).imp_right (List.mem_cons_of_mem _)

theorem mem_other (there : item ∈ items) (other : key item ≠ key new) : item ∈ upsert key new items := by
  induction items with
  | nil => cases there
  | cons first rest ih =>
    unfold upsert
    rcases List.mem_cons.mp there with rfl | later
    · rw [if_neg other]
      exact List.mem_cons_self
    · split
      · exact List.mem_cons_of_mem _ later
      · exact List.mem_cons_of_mem _ (ih later)

/-- With different keys, only the new item has its key. -/
theorem eq_of_key (distinct : (items.map key).Nodup) (there : item ∈ upsert key new items) (same : key item = key new) :
    item = new :=
  List.inj_on_of_nodup_map (nodup distinct) there mem_self same

end upsert

end Luma.Library
