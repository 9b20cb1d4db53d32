import Luma.Injection.FreezeRace
import Mathlib.Data.List.Nodup

/-! Which threads the freeze misses.

A thread that was read and attached stays stopped while the victim runs foreign code. One that is created after the
second listing, or that this listing or the retry round passes over, runs on.
-/

set_option autoImplicit false

namespace Luma.Injection

open Luma.Library

/-- The own thread changes places with the first one. -/
theorem listTaskIds_perm {pid : Nat} {seen tids : List Nat} (listed : listTaskIds pid (some seen) = some tids) :
    tids.Perm seen := by
  unfold listTaskIds at listed
  simp only at listed
  split at listed
  · cases listed
  split at listed
  · cases listed
  rename_i index found
  cases listed
  obtain ⟨inside, own, -⟩ := List.idxOf?_eq_some_iff.mp found
  cases seen with
  | nil => cases inside
  | cons head rest =>
    cases index with
    | zero =>
      have own : head = pid := own
      rw [own]
      exact List.Perm.refl _
    | succ place =>
      have inside : place < rest.length := Nat.lt_of_succ_lt_succ inside
      have own : rest[place] = pid := own
      have split : rest = rest.take place ++ pid :: rest.drop (place + 1) := by
        rw [← own, List.getElem_cons_drop, List.take_append_drop]
      show (pid :: rest.set place head).Perm (head :: rest)
      rw [List.set_eq_take_append_cons_drop, if_pos inside]
      have moved := (List.perm_middle.cons pid).trans
        ((List.Perm.swap head pid (rest.take place ++ rest.drop (place + 1))).trans (List.perm_middle.symm.cons head))
      exact moved.trans (.of_eq (congrArg (head :: ·) split.symm))

namespace FreezeRace

/-! ## The statement -/

/-- The thread was attached and has stopped with the stop itself. -/
def Holds (self : FreezeRace) (tid : Nat) : Prop := tid ∈ self.alive ∧ self.mode tid = .stopped sigStop

/-- No other thread runs. -/
def Complete (self : FreezeRace) : Prop := ∀ tid ∈ self.alive, tid ≠ self.pid → self.mode tid = .stopped sigStop

/-- The thread was read at first, or the second time in a longer list, and the retry round has not skipped it. -/
def Reached (history : List FreezeEvent) (tid : Nat) : Prop :=
  (∃ tids, .listed tids ∈ history ∧ tid ∈ tids) ∨
    ∃ count fresh, .relisted count fresh ∈ history ∧ count < fresh.length ∧ tid ∈ fresh ∧ .missed tid ∉ history

/-! ## The invariant -/

/-- Only these threads are attached. -/
def Only (self : FreezeRace) (tids : List Nat) : Prop := ∀ tid, self.mode tid ≠ .running → tid ∈ tids

/-- What holds of the threads at a place of the injector. -/
def Settled (history : List FreezeEvent) (self : FreezeRace) : FreezePlace → Prop
  | .opening => history = [] ∧ Only self []
  | .listing seen => history = [] ∧ Only self [] ∧ seen.Nodup
  | .checking tids _ => history = [.listed tids] ∧ Only self []
  | .attaching tids left => history = [.listed tids] ∧ Only self tids ∧ left ⊆ tids
  | .waiting tids left => history = [.listed tids] ∧ Only self tids ∧ ∀ tid ∈ tids, tid ∉ left → Holds self tid
  | .reopening tids => history = [.listed tids] ∧ Only self tids ∧ ∀ tid ∈ tids, Holds self tid
  | .relisting tids seen =>
      (history = [.listed tids] ∧ Only self tids ∧ ∀ tid ∈ tids, Holds self tid) ∧ seen.Nodup
  | .retrying tids fresh =>
      (∀ tid, Reached history tid ↔ tid ∈ tids ∨ tid ∈ fresh) ∧ (∀ first, .listed first ∈ history → first ⊆ tids) ∧
        fresh.Nodup ∧ Only self tids ∧ ∀ tid ∈ tids, Holds self tid
  | .confirming tids tid fresh =>
      (∀ other, Reached history other ↔ other ∈ tids ∨ other ∈ tid :: fresh) ∧
        (∀ first, .listed first ∈ history → first ⊆ tids) ∧ (tid :: fresh).Nodup ∧ tid ∉ tids ∧
          Only self (tid :: tids) ∧ ∀ other ∈ tids, Holds self other
  | .preparing tids _ | .executing tids _ =>
      (∀ tid, Reached history tid ↔ tid ∈ tids) ∧ (∀ tid ≠ self.pid, self.mode tid ≠ .running → tid ∈ tids) ∧
        ∀ tid ∈ tids, tid ≠ self.pid → Holds self tid
  | .detaching _ | .ended => True

variable {self after : FreezeRace} {history : List FreezeEvent}

/-! ## The threads -/

/-- What the threads do on their own, unless the process is gone. -/
structure Beside (before after : FreezeRace) : Prop where
  pid : after.pid = before.pid
  place : after.place = before.place
  modes : ∀ tid, after.mode tid ≠ .running → before.mode tid ≠ .running
  holds : ∀ tid, Holds before tid → Holds after tid

theorem Only.beside {tids : List Nat} (only : Only self tids) (beside : Beside self after) : Only after tids :=
  fun tid mode => only tid (beside.modes tid mode)

theorem Settled.beside (settled : Settled history self self.place) (beside : Beside self after) :
    Settled history after after.place := by
  rw [beside.place]
  cases place : self.place with
  | opening =>
    rw [place] at settled
    exact ⟨settled.1, settled.2.beside beside⟩
  | listing seen =>
    rw [place] at settled
    exact ⟨settled.1, settled.2.1.beside beside, settled.2.2⟩
  | checking tids left =>
    rw [place] at settled
    exact ⟨settled.1, settled.2.beside beside⟩
  | attaching tids left =>
    rw [place] at settled
    exact ⟨settled.1, settled.2.1.beside beside, settled.2.2⟩
  | waiting tids left =>
    rw [place] at settled
    obtain ⟨listed, only, held⟩ := settled
    exact ⟨listed, only.beside beside, fun tid there done => beside.holds tid (held tid there done)⟩
  | reopening tids =>
    rw [place] at settled
    obtain ⟨listed, only, held⟩ := settled
    exact ⟨listed, only.beside beside, fun tid there => beside.holds tid (held tid there)⟩
  | relisting tids seen =>
    rw [place] at settled
    obtain ⟨⟨listed, only, held⟩, distinct⟩ := settled
    exact ⟨⟨listed, only.beside beside, fun tid there => beside.holds tid (held tid there)⟩, distinct⟩
  | retrying tids fresh =>
    rw [place] at settled
    obtain ⟨reached, first, distinct, only, held⟩ := settled
    exact ⟨reached, first, distinct, only.beside beside, fun tid there => beside.holds tid (held tid there)⟩
  | confirming tids tid fresh =>
    rw [place] at settled
    obtain ⟨reached, first, distinct, new, only, held⟩ := settled
    exact ⟨reached, first, distinct, new, only.beside beside, fun tid there => beside.holds tid (held tid there)⟩
  | preparing tids initializes | executing tids initializes =>
    rw [place] at settled
    obtain ⟨reached, only, held⟩ := settled
    rw [← beside.pid] at only held
    exact ⟨reached, fun tid other mode => only tid other (beside.modes tid mode),
      fun tid there other => beside.holds tid (held tid there other)⟩
  | detaching left => trivial
  | ended => trivial

theorem spawn_beside (parent child : Nat) : Beside self (self.spawn parent child) := by
  unfold spawn
  split
  · exact ⟨rfl, rfl, fun _ mode => mode, fun _ held => ⟨List.mem_append_left _ held.1, held.2⟩⟩
  · exact ⟨rfl, rfl, fun _ mode => mode, fun _ held => held⟩

theorem exit_beside (tid : Nat) : Beside self (self.exit tid) := by
  unfold exit
  split
  · rename_i moves
    refine ⟨rfl, rfl, fun _ mode => mode, ?_⟩
    intro other held
    refine ⟨List.mem_filter.mpr ⟨held.1, ?_⟩, held.2⟩
    -- A thread that has stopped does not exit.
    have apart : other ≠ tid := by
      rintro rfl
      rw [held.2] at moves
      cases moves
    exact decide_eq_true apart
  · exact ⟨rfl, rfl, fun _ mode => mode, fun _ held => held⟩

theorem stop_beside (tid signal : Nat) : Beside self (self.stop tid signal) := by
  unfold stop
  split
  · rename_i stops
    constructor
    · rfl
    · rfl
    · intro other mode
      by_cases same : other = tid
      · rw [same, stops.2]
        decide
      · have mode : Function.update self.mode tid (.stopped signal) other ≠ .running := mode
        rwa [Function.update_of_ne same] at mode
    · intro other held
      have apart : other ≠ tid := by
        rintro rfl
        cases held.2.symm.trans stops.2
      exact ⟨held.1, (Function.update_of_ne apart _ _).trans held.2⟩
  · exact ⟨rfl, rfl, fun _ mode => mode, fun _ held => held⟩

theorem spawn_gone {parent child : Nat} (gone : self.alive = []) : (self.spawn parent child).alive = [] := by
  unfold spawn
  rw [if_neg]
  · exact gone
  · rintro ⟨there, -⟩
    rw [gone] at there
    cases there

/-! ## The injector -/

variable {tids : List Nat} {tid : Nat}

theorem Only.narrow (only : Only self []) : Only self tids := fun other mode => by cases only other mode

/-- A thread is attached. -/
theorem Only.attached (only : Only self tids) (mode : ThreadMode) : Only (self.setMode tid mode) (tid :: tids) := by
  intro other moved
  by_cases same : other = tid
  · exact same ▸ List.mem_cons_self
  · have moved : Function.update self.mode tid mode other ≠ .running := moved
    rw [Function.update_of_ne same] at moved
    exact List.mem_cons_of_mem _ (only other moved)

/-- A thread is let go, or its exit is waited for. -/
theorem Only.released (only : Only self (tid :: tids)) : Only (self.setMode tid .running) tids := by
  intro other moved
  by_cases same : other = tid
  · subst same
    exact absurd (Function.update_self ..) moved
  · have moved : Function.update self.mode tid .running other ≠ .running := moved
    rw [Function.update_of_ne same] at moved
    exact (List.mem_cons.mp (only other moved)).resolve_left same

theorem Holds.apart {other : Nat} (held : Holds self other) (apart : other ≠ tid) (mode : ThreadMode) :
    Holds (self.setMode tid mode) other :=
  ⟨held.1, (Function.update_of_ne apart _ _).trans held.2⟩

theorem reached_listed : Reached [.listed tids] tid ↔ tid ∈ tids := by
  constructor
  · rintro (⟨first, there, inside⟩ | ⟨count, fresh, there, -⟩)
    · cases List.mem_singleton.mp there
      exact inside
    · cases List.mem_singleton.mp there
  · exact fun inside => Or.inl ⟨tids, List.mem_singleton_self _, inside⟩

theorem reached_relisted {fresh : List Nat} :
    Reached [.relisted tids.length fresh, .listed tids] tid ↔
      tid ∈ tids ∨ tids.length < fresh.length ∧ tid ∈ fresh := by
  constructor
  · rintro (⟨first, there, inside⟩ | ⟨count, others, there, longer, inside, -⟩)
    · simp only [List.mem_cons, reduceCtorEq, List.not_mem_nil, or_false, false_or] at there
      cases there
      exact Or.inl inside
    · simp only [List.mem_cons, reduceCtorEq, List.not_mem_nil, or_false] at there
      cases there
      exact Or.inr ⟨longer, inside⟩
  · rintro (inside | ⟨longer, inside⟩)
    · exact Or.inl ⟨tids, by simp, inside⟩
    · exact Or.inr ⟨tids.length, fresh, by simp, longer, inside, by simp⟩

/-- The retry round skips threads that were not read at first. -/
theorem reached_missed {skipped : List Nat}
    (new : ∀ first, .listed first ∈ history → ∀ other ∈ skipped, other ∉ first) :
    Reached (skipped.map .missed ++ history) tid ↔ Reached history tid ∧ tid ∉ skipped := by
  have missed : .missed tid ∈ skipped.map FreezeEvent.missed ↔ tid ∈ skipped := by simp
  constructor
  · rintro (⟨first, there, inside⟩ | ⟨count, fresh, there, longer, inside, kept⟩)
    · have there := (List.mem_append.mp there).resolve_left (by simp)
      exact ⟨Or.inl ⟨first, there, inside⟩, fun skip => new first there tid skip inside⟩
    · have there := (List.mem_append.mp there).resolve_left (by simp)
      rw [List.mem_append, not_or] at kept
      exact ⟨Or.inr ⟨count, fresh, there, longer, inside, kept.2⟩, fun skip => kept.1 (missed.mpr skip)⟩
  · rintro ⟨⟨first, there, inside⟩ | ⟨count, fresh, there, longer, inside, kept⟩, unskipped⟩
    · exact Or.inl ⟨first, List.mem_append_right _ there, inside⟩
    · refine Or.inr ⟨count, fresh, List.mem_append_right _ there, longer, inside, ?_⟩
      intro there
      rcases List.mem_append.mp there with skip | old
      · exact unskipped (missed.mp skip)
      · exact kept old

theorem listed_of_missed {first : List Nat} (there : .listed first ∈ FreezeEvent.missed tid :: history) :
    .listed first ∈ history :=
  (List.mem_cons.mp there).resolve_left (by simp)

/-- The retry round skips the next thread. -/
theorem reached_skipped {fresh : List Nat}
    (reached : ∀ other, Reached history other ↔ other ∈ tids ∨ other ∈ tid :: fresh)
    (first : ∀ read, .listed read ∈ history → read ⊆ tids) (distinct : (tid :: fresh).Nodup) (new : tid ∉ tids)
    (other : Nat) : Reached (.missed tid :: history) other ↔ other ∈ tids ∨ other ∈ fresh := by
  have unread : ∀ read, .listed read ∈ history → ∀ skip ∈ [tid], skip ∉ read := by
    intro read there skip only inside
    exact new (List.mem_singleton.mp only ▸ first read there inside)
  show Reached ([tid].map .missed ++ history) other ↔ _
  rw [reached_missed unread, reached, List.mem_singleton]
  constructor
  · rintro ⟨known | there, apart⟩
    · exact Or.inl known
    · exact Or.inr ((List.mem_cons.mp there).resolve_left apart)
  · rintro (known | later)
    · exact ⟨Or.inl known, fun same => new (same ▸ known)⟩
    · exact ⟨Or.inr (List.mem_cons_of_mem _ later), fun same => (List.nodup_cons.mp distinct).1 (same ▸ later)⟩

theorem Settled.opened (settled : Settled history self self.place) (readable : Bool) :
    Settled history (self.opened readable) (self.opened readable).place := by
  unfold FreezeRace.opened
  cases place : self.place with
  | opening =>
    rw [place] at settled
    cases readable with
    | true => exact ⟨settled.1, settled.2, List.nodup_nil⟩
    | false => trivial
  | reopening tids =>
    rw [place] at settled
    cases readable with
    | true => exact ⟨settled, List.nodup_nil⟩
    | false =>
      obtain ⟨listed, only, held⟩ := settled
      exact ⟨fun tid => listed ▸ reached_listed, fun tid _ => only tid, fun tid there _ => held tid there⟩
  | listing | checking | attaching | waiting | relisting | retrying | confirming | preparing | executing | detaching
    | ended =>
    exact settled

theorem Settled.entry (settled : Settled history self self.place) (tid : Nat) :
    Settled history (self.entry tid) (self.entry tid).place := by
  have appended : ∀ {seen : List Nat}, seen.Nodup → tid ∉ seen → (seen ++ [tid]).Nodup := by
    intro seen distinct new
    refine List.nodup_append.mpr ⟨distinct, List.nodup_singleton tid, ?_⟩
    intro other there last single same
    exact new (List.mem_singleton.mp single ▸ same ▸ there)
  unfold FreezeRace.entry
  cases place : self.place with
  | listing seen =>
    rw [place] at settled
    simp only
    split
    · rename_i found
      split
      · trivial
      · exact ⟨settled.1, settled.2.1, appended settled.2.2 found.2⟩
    · rw [place]
      exact settled
  | relisting tids seen =>
    rw [place] at settled
    obtain ⟨⟨listed, only, held⟩, distinct⟩ := settled
    simp only
    split
    · rename_i found
      split
      · exact ⟨fun tid => listed ▸ reached_listed, fun tid _ => only tid, fun tid there _ => held tid there⟩
      · exact ⟨⟨listed, only, held⟩, appended distinct found.2⟩
    · rw [place]
      exact ⟨⟨listed, only, held⟩, distinct⟩
  | opening | checking | attaching | waiting | reopening | retrying | confirming | preparing | executing | detaching
    | ended =>
    exact settled

/-- A list that has not grown is not looked at. -/
theorem Settled.finished (settled : Settled history self self.place) :
    Settled (self.finished.2 ++ history) self.finished.1 self.finished.1.place := by
  unfold FreezeRace.finished
  cases place : self.place with
  | listing seen =>
    rw [place] at settled
    obtain ⟨rfl, only, distinct⟩ := settled
    simp only
    split
    · trivial
    · exact ⟨rfl, only⟩
  | relisting tids seen =>
    rw [place] at settled
    obtain ⟨⟨rfl, only, held⟩, distinct⟩ := settled
    simp only
    split
    · exact ⟨fun tid => reached_listed, fun tid _ => only tid, fun tid there _ => held tid there⟩
    · rename_i fresh found
      split
      · rename_i longer
        refine ⟨?_, ?_, (listTaskIds_perm found).nodup_iff.mpr distinct, only, held⟩
        · intro tid
          show Reached [.relisted tids.length fresh, .listed tids] tid ↔ _
          rw [reached_relisted, and_iff_right longer]
        · intro first there
          have there : FreezeEvent.listed first ∈ [.relisted tids.length fresh, .listed tids] := there
          simp only [List.mem_cons, reduceCtorEq, List.not_mem_nil, or_false, false_or] at there
          cases there
          exact List.Subset.refl _
      · rename_i shorter
        refine ⟨?_, fun tid _ => only tid, fun tid there _ => held tid there⟩
        intro tid
        show Reached [.relisted tids.length fresh, .listed tids] tid ↔ _
        rw [reached_relisted]
        exact or_iff_left fun both => shorter both.1
  | opening | checking | attaching | waiting | reopening | retrying | confirming | preparing | executing | detaching
    | ended =>
    exact settled

theorem Settled.checked (settled : Settled history self self.place) (pending : Option Bool) :
    Settled history (self.checked pending) (self.checked pending).place := by
  unfold FreezeRace.checked
  cases place : self.place with
  | checking tids left =>
    rw [place] at settled
    cases left with
    | nil => exact ⟨settled.1, settled.2.narrow, List.Subset.refl _⟩
    | cons tid left =>
      simp only
      split
      · exact settled
      · trivial
  | opening | listing | attaching | waiting | reopening | relisting | retrying | confirming | preparing | executing
    | detaching | ended =>
    exact settled

theorem Settled.attach (settled : Settled history self self.place) (permitted : Bool) :
    Settled ((self.attach permitted).2 ++ history) (self.attach permitted).1 (self.attach permitted).1.place := by
  unfold FreezeRace.attach
  cases place : self.place with
  | attaching tids left =>
    rw [place] at settled
    obtain ⟨listed, only, inside⟩ := settled
    cases left with
    | nil => exact ⟨listed, only, fun tid there undone => absurd there undone⟩
    | cons tid left =>
      simp only
      split
      · refine ⟨listed, ?_, fun other there => inside (List.mem_cons_of_mem _ there)⟩
        intro other moved
        rcases List.mem_cons.mp (only.attached .attached other moved) with rfl | old
        · exact inside List.mem_cons_self
        · exact old
      · trivial
  | retrying tids fresh =>
    rw [place] at settled
    obtain ⟨reached, first, distinct, only, held⟩ := settled
    cases fresh with
    | nil =>
      refine ⟨?_, fun tid _ => only tid, fun tid there _ => held tid there⟩
      intro tid
      exact (reached tid).trans (or_iff_left List.not_mem_nil)
    | cons tid fresh =>
      simp only
      split
      · -- No room is left.
        refine ⟨?_, fun tid _ => only tid, fun tid there _ => held tid there⟩
        intro other
        have new : ∀ read, .listed read ∈ history → ∀ other ∈ (tid :: fresh).filter (· ∉ tids), other ∉ read := by
          intro read there other skipped inside
          exact of_decide_eq_true (List.mem_filter.mp skipped).2 (first read there inside)
        rw [reached_missed new, reached, List.mem_filter, decide_eq_true_eq]
        constructor
        · rintro ⟨known | there, kept⟩
          · exact known
          · exact Decidable.not_not.mp fun unknown => kept ⟨there, unknown⟩
        · exact fun known => ⟨Or.inl known, fun skipped => skipped.2 known⟩
      split
      · rename_i known
        refine ⟨?_, first, (List.nodup_cons.mp distinct).2, only, held⟩
        intro other
        refine (reached other).trans ⟨?_, Or.imp_right (List.mem_cons_of_mem _)⟩
        rintro (there | there)
        · exact Or.inl there
        · rcases List.mem_cons.mp there with rfl | later
          · exact Or.inl known
          · exact Or.inr later
      rename_i new
      split
      · refine ⟨reached, first, distinct, new, only.attached .attached, ?_⟩
        intro other there
        have apart : other ≠ tid := fun same => new (same ▸ there)
        exact (held other there).apart apart .attached
      · exact ⟨reached_skipped reached first distinct new, fun read there => first read (listed_of_missed there),
          (List.nodup_cons.mp distinct).2, only, held⟩
  | opening | listing | checking | waiting | reopening | relisting | confirming | preparing | executing | detaching
    | ended =>
    exact settled

theorem Settled.wait (settled : Settled history self self.place) :
    Settled (self.wait.2 ++ history) self.wait.1 self.wait.1.place := by
  unfold FreezeRace.wait
  cases place : self.place with
  | waiting tids left =>
    rw [place] at settled
    obtain ⟨listed, only, held⟩ := settled
    cases left with
    | nil => exact ⟨listed, only, fun tid there => held tid there List.not_mem_nil⟩
    | cons tid left =>
      simp only
      split
      · trivial
      rename_i there
      cases mode : self.mode tid with
      | stopped signal =>
        simp only
        split
        · rename_i stop
          refine ⟨listed, only, ?_⟩
          intro other inside done
          by_cases same : other = tid
          · rw [same]
            exact ⟨Decidable.not_not.mp there, stop ▸ mode⟩
          · exact held other inside fun undone => (List.mem_cons.mp undone).elim same done
        · trivial
      | running | attached =>
        simp only
        rw [place]
        exact ⟨listed, only, held⟩
  | confirming tids tid fresh =>
    rw [place] at settled
    obtain ⟨reached, first, distinct, new, only, held⟩ := settled
    simp only
    split
    · refine ⟨reached_skipped reached first distinct new, fun read there => first read (listed_of_missed there),
        (List.nodup_cons.mp distinct).2, only.released, ?_⟩
      intro other there
      have apart : other ≠ tid := fun same => new (same ▸ there)
      exact (held other there).apart apart .running
    rename_i there
    cases mode : self.mode tid with
    | stopped signal =>
      simp only
      split
      · rename_i stop
        refine ⟨?_, ?_, (List.nodup_cons.mp distinct).2, ?_, ?_⟩
        · intro other
          refine (reached other).trans ?_
          rw [List.mem_append, List.mem_singleton, List.mem_cons, or_assoc]
        · exact fun read there => List.Subset.trans (first read there) (List.subset_append_left _ _)
        · intro other moved
          rcases List.mem_cons.mp (only other moved) with rfl | old
          · exact List.mem_append_right _ (List.mem_singleton_self _)
          · exact List.mem_append_left _ old
        · intro other inside
          rcases List.mem_append.mp inside with old | last
          · exact held other old
          · rw [List.mem_singleton.mp last]
            exact ⟨Decidable.not_not.mp there, stop ▸ mode⟩
      · trivial
    | running | attached =>
      simp only
      rw [place]
      exact ⟨reached, first, distinct, new, only, held⟩
  | opening | listing | checking | attaching | reopening | relisting | retrying | preparing | executing | detaching
    | ended =>
    exact settled

theorem others_attached (only : ∀ tid ≠ self.pid, self.mode tid ≠ .running → tid ∈ tids) (mode : ThreadMode) :
    ∀ tid ≠ self.pid, (self.setMode self.pid mode).mode tid ≠ .running → tid ∈ tids := by
  intro tid other moved
  have moved : Function.update self.mode self.pid mode tid ≠ .running := moved
  rw [Function.update_of_ne other] at moved
  exact only tid other moved

/-- The victim is continued, and nobody else. -/
theorem Settled.proceed (settled : Settled history self self.place) (prepared : Bool) :
    Settled history (self.proceed prepared) (self.proceed prepared).place := by
  unfold FreezeRace.proceed
  cases place : self.place with
  | preparing tids initializes =>
    rw [place] at settled
    obtain ⟨reached, only, held⟩ := settled
    simp only
    split
    · exact ⟨reached, others_attached only .running, fun tid there other => (held tid there other).apart other .running⟩
    · trivial
  | opening | listing | checking | attaching | waiting | reopening | relisting | retrying | confirming | executing
    | detaching | ended =>
    exact settled

theorem Settled.returned (settled : Settled history self self.place) (signal : Nat) :
    Settled history (self.returned signal) (self.returned signal).place := by
  unfold FreezeRace.returned
  cases place : self.place with
  | executing tids initializes =>
    rw [place] at settled
    obtain ⟨reached, only, held⟩ := settled
    simp only
    split
    · trivial
    split
    · exact ⟨reached, others_attached only (.stopped signal),
        fun tid there other => (held tid there other).apart other (.stopped signal)⟩
    · trivial
  | opening | listing | checking | attaching | waiting | reopening | relisting | retrying | confirming | preparing
    | detaching | ended =>
    exact settled

theorem Settled.detach (settled : Settled history self self.place) : Settled history self.detach self.detach.place := by
  unfold FreezeRace.detach
  cases place : self.place with
  | detaching left =>
    cases left with
    | nil => trivial
    | cons tid left =>
      simp only
      split
      · trivial
      · trivial
  | opening | listing | checking | attaching | waiting | reopening | relisting | retrying | confirming | preparing
    | executing | ended =>
    exact settled

/-! ## Whole runs -/

/-- Nobody is created by a thread that is not there. -/
theorem step_gone (turn : FreezeTurn) (gone : self.alive = []) : (step self turn).1.alive = [] := by
  cases turn with
  | spawn parent child => exact spawn_gone gone
  | exit tid =>
    show (self.exit tid).alive = []
    unfold FreezeRace.exit
    split
    · show self.alive.filter _ = []
      rw [gone]
      rfl
    · exact gone
  | stop tid signal =>
    show (self.stop tid signal).alive = []
    unfold FreezeRace.stop
    split
    · exact gone
    · exact gone
  | die => rfl
  | opened readable => grind [FreezeRace.step, FreezeRace.opened]
  | entry tid => grind [FreezeRace.step, FreezeRace.entry]
  | finished => grind [FreezeRace.step, FreezeRace.finished]
  | checked pending => grind [FreezeRace.step, FreezeRace.checked]
  | attach permitted => grind [FreezeRace.step, FreezeRace.attach, setMode]
  | wait => grind [FreezeRace.step, FreezeRace.wait, setMode]
  | proceed prepared => grind [FreezeRace.step, FreezeRace.proceed, setMode]
  | returned signal => grind [FreezeRace.step, FreezeRace.returned, setMode]
  | detach => grind [FreezeRace.step, FreezeRace.detach, setMode]

theorem Settled.step (settled : Settled history self self.place) (turn : FreezeTurn) :
    (FreezeRace.step self turn).1.alive = [] ∨
      Settled ((FreezeRace.step self turn).2 ++ history) (FreezeRace.step self turn).1
        (FreezeRace.step self turn).1.place := by
  cases turn with
  | spawn parent child => exact Or.inr (settled.beside (spawn_beside parent child))
  | exit tid => exact Or.inr (settled.beside (exit_beside tid))
  | stop tid signal => exact Or.inr (settled.beside (stop_beside tid signal))
  | die => exact Or.inl rfl
  | opened readable => exact Or.inr (settled.opened readable)
  | entry tid => exact Or.inr (settled.entry tid)
  | finished => exact Or.inr settled.finished
  | checked pending => exact Or.inr (settled.checked pending)
  | attach permitted => exact Or.inr (settled.attach permitted)
  | wait => exact Or.inr settled.wait
  | proceed prepared => exact Or.inr (settled.proceed prepared)
  | returned signal => exact Or.inr (settled.returned signal)
  | detach => exact Or.inr settled.detach

theorem settled_of_execution (run : Execution history self) : self.alive = [] ∨ Settled history self self.place := by
  induction run with
  | start begun =>
    obtain ⟨pid, threads, rfl⟩ := begun
    exact Or.inr ⟨rfl, fun _ mode => absurd rfl mode⟩
  | step turn _ _ ih =>
    rcases ih with gone | settled
    · exact Or.inl (step_gone turn gone)
    · exact settled.step turn

/-- Whenever the victim is about to be continued, every other thread is held by the stop exactly when each was read, the
second time in a longer list, and was not skipped by the retry round. While the victim runs, the ones that were read
stay held. -/
theorem freeze_complete (run : Execution history self) {tids : List Nat} {initializes : Bool} :
    (self.place = .preparing tids initializes →
      (Complete self ↔ ∀ tid ∈ self.alive, tid ≠ self.pid → Reached history tid)) ∧
    (self.place = .executing tids initializes → ∀ tid ≠ self.pid, Reached history tid →
      self.alive = [] ∨ Holds self tid) := by
  constructor
  · intro place
    rcases settled_of_execution run with gone | settled
    · unfold Complete
      rw [gone]
      constructor
      · intro _ tid there
        cases there
      · intro _ tid there
        cases there
    rw [place] at settled
    obtain ⟨reached, only, held⟩ := settled
    constructor
    · intro complete tid there other
      refine (reached tid).mpr (only tid other ?_)
      rw [complete tid there other]
      decide
    · intro covered tid there other
      exact (held tid ((reached tid).mp (covered tid there other)) other).2
  · intro place tid other hit
    rcases settled_of_execution run with gone | settled
    · exact Or.inl gone
    · rw [place] at settled
      obtain ⟨reached, -, held⟩ := settled
      exact Or.inr (held tid ((reached tid).mp hit) other)

/-- A second thread is created before the first one has stopped, and is found by the second listing. -/
def foundLate : List FreezeTurn :=
  [.opened true, .entry 1, .finished, .checked (some false), .checked none, .attach true, .attach true, .spawn 1 2,
    .stop 1 sigStop, .wait, .wait, .opened true, .entry 1, .entry 2, .finished, .attach true, .attach true,
    .stop 2 sigStop, .wait, .attach true]

theorem freeze_complete_late : Complete (Transition.execute step (start 1 [1]) foundLate).1 := by
  have run : Execution _ _ :=
    Transition.Run.execute foundLate (.start ⟨1, [1], rfl⟩) (Transition.permits_unrestricted _ _ _ _)
  rw [List.append_nil] at run
  have seen : (Transition.execute step (start 1 [1]) foundLate).2 = [.relisted 1 [1, 2], .listed [1]] := by
    decide +kernel
  have alive : (Transition.execute step (start 1 [1]) foundLate).1.alive = [1, 2] := by decide +kernel
  have pid : (Transition.execute step (start 1 [1]) foundLate).1.pid = 1 := by decide +kernel
  have place : (Transition.execute step (start 1 [1]) foundLate).1.place = .preparing [1, 2] false := by decide +kernel
  generalize Transition.execute step (start 1 [1]) foundLate = final at *
  refine ((freeze_complete run).1 place).mpr ?_
  intro tid there other
  rw [alive] at there
  rw [pid] at other
  rw [seen]
  refine Or.inr ⟨1, [1, 2], List.mem_cons_self, by decide, there, by simp⟩

/-- The second thread creates a third one when the second listing has been made. -/
def spawnedLate : List FreezeTurn :=
  foundLate.take 15 ++ .spawn 2 3 :: foundLate.drop 15

theorem freeze_incomplete : ¬∀ history self, Execution history self → ∀ tids initializes,
    self.place = .preparing tids initializes → self.pid ∈ self.alive → Complete self := by
  intro complete
  have run : Execution _ _ :=
    Transition.Run.execute spawnedLate (.start ⟨1, [1], rfl⟩) (Transition.permits_unrestricted _ _ _ _)
  have held := complete _ _ run [1, 2] false (by decide +kernel) (by decide +kernel) 3 (by decide +kernel)
    (by decide +kernel)
  revert held
  decide +kernel

end FreezeRace

end Luma.Injection
