import Luma.Export.XwaylandCapture
import Luma.Library.Custody

/-! What the Xwayland capture does with its images. Books are kept of every image: where it is until it is destroyed,
and which fence stands behind the copy from it.
-/

set_option autoImplicit false

namespace Luma.Export.Xwayland

open Luma.Library

namespace Deed

def image? : Deed → Option (HandleEvent Nat)
  | .imported image => some (.opened image)
  | .destroyed image => some (.closed image)
  | _ => none

def descriptor? : Deed → Option (HandleEvent Nat)
  | .received fd => some (.opened fd)
  | .closed fd => some (.closed fd)
  | _ => none

/-- Nothing happens to images and fences. -/
def quiet : Deed → Bool
  | .admitted _ | .received _ | .closed _ | .complained _ => true
  | _ => false

end Deed

abbrev images (history : List Deed) : List (HandleEvent Nat) := history.filterMap Deed.image?

abbrev descriptors (history : List Deed) : List (HandleEvent Nat) := history.filterMap Deed.descriptor?

/-- The fence is there, and neither has it signalled nor was the graphics processor finished since. -/
def unsignalled (fence : Nat) : List Deed → Bool
  | [] => false
  | .fenced _ other :: earlier => other == fence || unsignalled fence earlier
  | .signalled other :: earlier => other != fence && unsignalled fence earlier
  | .finished :: _ => false
  | _ :: earlier => unsignalled fence earlier

/-- No image is destroyed while the fence behind the copy from it has not signalled. -/
def Safe (deed : Deed) (earlier : List Deed) : Prop :=
  ∀ image fence, deed = .destroyed image → .fenced image fence ∈ earlier → unsignalled fence earlier = false

/-- Where an image is: on its way to a slot, or in one. -/
def held (slots : SlotIndex → ImportSlot) (hand : Option Nat) : Option SlotIndex → Option Nat
  | none => hand
  | some place => (slots place).image

structure Books (slots : SlotIndex → ImportSlot) (hand : Option Nat) (pending : List Nat) (nextName : Nat)
    (history : List Deed) : Prop where
  custody : Custody (held slots hand) (images history)
  imported : ∀ image, .imported image ∈ history → image < nextName
  received : ∀ fd, .received fd ∈ history → fd < nextName
  fenced : ∀ image fence, .fenced image fence ∈ history →
    .destroyed image ∈ history ∨ ∃ place, slots place = { image := some image, fence := some fence }
  waiting : ∀ fence, unsignalled fence history = true → fence ∈ pending
  safe : Transition.Throughout Safe history

/-! ## Places -/

section Places

variable {slots : SlotIndex → ImportSlot} {hand : Option Nat} {place : SlotIndex} {slot : ImportSlot}

theorem held_update : held (Function.update slots place slot) hand =
    Function.update (held slots hand) (some place) slot.image := by
  funext at_
  cases at_ with
  | none => rw [Function.update_of_ne (Option.some_ne_none place).symm]; rfl
  | some other =>
    by_cases here : other = place
    · rw [here, Function.update_self]
      simp [held]
    · rw [Function.update_of_ne (mt Option.some.inj here)]
      simp [held, Function.update_of_ne here]

theorem held_hand (next : Option Nat) : held slots next = Function.update (held slots hand) none next := by
  funext at_
  cases at_ with
  | none => rw [Function.update_self]; rfl
  | some other => rw [Function.update_of_ne (Option.some_ne_none other)]; rfl

end Places

/-- What only one deed shows is in the history with it. -/
theorem mem_shown {Shown : Type} {shows : Deed → Option Shown} {history : List Deed} {deed : Deed} {value : Shown}
    (only : ∀ other, shows other = some value ↔ other = deed) :
    value ∈ history.filterMap shows ↔ deed ∈ history := by
  rw [List.mem_filterMap]
  constructor
  · rintro ⟨other, there, same⟩
    rw [(only other).mp same] at there
    exact there
  · intro there
    exact ⟨deed, there, (only deed).mpr rfl⟩

theorem mem_images_opened {history : List Deed} {image : Nat} :
    .opened image ∈ images history ↔ .imported image ∈ history :=
  mem_shown fun other => by cases other <;> simp [Deed.image?]

theorem mem_images_closed {history : List Deed} {image : Nat} :
    .closed image ∈ images history ↔ .destroyed image ∈ history :=
  mem_shown fun other => by cases other <;> simp [Deed.image?]

theorem mem_descriptors_opened {history : List Deed} {fd : Nat} :
    .opened fd ∈ descriptors history ↔ .received fd ∈ history :=
  mem_shown fun other => by cases other <;> simp [Deed.descriptor?]

theorem mem_descriptors_closed {history : List Deed} {fd : Nat} :
    .closed fd ∈ descriptors history ↔ .closed fd ∈ history :=
  mem_shown fun other => by cases other <;> simp [Deed.descriptor?]

theorem unsignalled_quiet {deeds history : List Deed} (quiet : ∀ deed ∈ deeds, deed.quiet = true) (fence : Nat) :
    unsignalled fence (deeds ++ history) = unsignalled fence history := by
  induction deeds with
  | nil => rfl
  | cons deed rest ih =>
    have inner := ih fun other there => quiet other (List.mem_cons_of_mem _ there)
    have still := quiet deed List.mem_cons_self
    cases deed <;> first | exact inner | cases still

/-! ## Entries -/

namespace Books

variable {slots : SlotIndex → ImportSlot} {hand : Option Nat} {pending : List Nat} {nextName : Nat}
variable {history : List Deed} {place : SlotIndex} {image : Nat}

/-- The fence behind a copy stands in the slot of its image. -/
theorem in_slot (books : Books slots hand pending nextName history) (kept : held slots hand (some place) = some image)
    {fence : Nat} (fenced : .fenced image fence ∈ history) :
    slots place = { image := some image, fence := some fence } := by
  rcases books.fenced image fence fenced with destroyed | ⟨other, there⟩
  · exact absurd (mem_images_closed.mpr destroyed) (books.custody.live _ _ kept).2
  · have also_ : held slots hand (some other) = some image := by simp [held, there]
    cases books.custody.single _ _ _ also_ kept
    exact there

theorem in_hand (books : Books slots hand pending nextName history) (kept : hand = some image) (fence : Nat) :
    .fenced image fence ∉ history := by
  intro fenced
  have inside : held slots hand none = some image := kept
  rcases books.fenced image fence fenced with destroyed | ⟨other, there⟩
  · exact (books.custody.live _ _ inside).2 (mem_images_closed.mpr destroyed)
  · have also_ : held slots hand (some other) = some image := by simp [held, there]
    cases books.custody.single _ _ _ also_ inside

/-- A deed that puts no fence anywhere. -/
theorem fenced_cons (books : Books slots hand pending nextName history) {deed : Deed}
    (unfenced : ∀ image fence, deed ≠ .fenced image fence) (image fence : Nat)
    (there : .fenced image fence ∈ deed :: history) :
    .destroyed image ∈ deed :: history ∨ ∃ place, slots place = { image := some image, fence := some fence } := by
  rcases List.mem_cons.mp there with same | before
  · exact absurd same.symm (unfenced image fence)
  · rcases books.fenced image fence before with destroyed | slot
    · exact .inl (List.mem_cons_of_mem _ destroyed)
    · exact .inr slot

/-- Deeds that do nothing to images and fences. -/
theorem quietly (books : Books slots hand pending nextName history) {deeds : List Deed} {later : Nat}
    (quiet : ∀ deed ∈ deeds, deed.quiet = true) (grows : nextName ≤ later)
    (received : ∀ fd, .received fd ∈ deeds → fd < later) : Books slots hand pending later (deeds ++ history) := by
  have none_ : deeds.filterMap Deed.image? = [] := by
    rw [List.filterMap_eq_nil_iff]
    intro deed there
    have still := quiet deed there
    cases deed <;> first | rfl | cases still
  have old {deed : Deed} (loud : deed.quiet = false) (there : deed ∈ deeds ++ history) : deed ∈ history := by
    rcases List.mem_append.mp there with new | before
    · rw [quiet deed new] at loud
      cases loud
    · exact before
  constructor
  · have same : images (deeds ++ history) = images history := by
      rw [images, List.filterMap_append, none_, List.nil_append]
    rw [same]
    exact books.custody
  · intro image there
    exact Nat.lt_of_lt_of_le (books.imported image (old rfl there)) grows
  · intro fd there
    rcases List.mem_append.mp there with new | before
    · exact received fd new
    · exact Nat.lt_of_lt_of_le (books.received fd before) grows
  · intro image fence there
    rcases books.fenced image fence (old rfl there) with destroyed | slot
    · exact .inl (List.mem_append_right _ destroyed)
    · exact .inr slot
  · intro fence waits
    rw [unsignalled_quiet quiet] at waits
    exact books.waiting fence waits
  · refine Transition.Throughout.append ?_ books.safe
    rintro deed there before image fence rfl
    cases quiet _ there

/-- A slot is emptied when no fence that has not signalled is in it. -/
theorem releases (books : Books slots hand pending nextName history)
    (settled : ∀ fence, (slots place).fence = some fence → fence ∉ pending) :
    Books (Function.update slots place {}) hand pending nextName
      (((slots place).image.map Deed.destroyed).toList ++ history) := by
  -- The slots that keep an image are the others.
  have others {image fence : Nat} {other : SlotIndex} (apart : other ≠ place)
      (there : slots other = { image := some image, fence := some fence }) :
      ∃ place', Function.update slots place {} place' = { image := some image, fence := some fence } :=
    ⟨other, by rw [Function.update_of_ne apart, there]⟩
  cases kept : (slots place).image with
  | none =>
    have same : held (Function.update slots place {}) hand = held slots hand := by
      rw [held_update, Function.update_eq_self_iff]
      exact kept.symm
    refine ⟨books.custody.of_same same, books.imported, books.received, ?_, books.waiting, books.safe⟩
    intro image fence fenced
    rcases books.fenced image fence fenced with destroyed | ⟨other, there⟩
    · exact .inl destroyed
    · refine .inr (others ?_ there)
      rintro rfl
      rw [there] at kept
      cases kept
  | some image =>
    have inside : held slots hand (some place) = some image := kept
    constructor
    · have closed := books.custody.closes inside
      rw [← show held (Function.update slots place {}) hand = _ from held_update] at closed
      exact closed
    · intro other there
      exact books.imported other (by simpa using there)
    · intro fd there
      exact books.received fd (by simpa using there)
    · intro other fence fenced
      rcases books.fenced other fence (by simpa using fenced) with destroyed | ⟨at_, there⟩
      · exact .inl (List.mem_cons_of_mem _ destroyed)
      · by_cases here : at_ = place
        · rw [here] at there
          rw [there] at kept
          cases kept
          exact .inl List.mem_cons_self
        · exact .inr (others here there)
    · exact books.waiting
    · refine ⟨?_, books.safe⟩
      rintro _ fence ⟨⟩ fenced
      have stands := books.in_slot inside fenced
      have gone : fence ∉ pending := settled fence (by rw [stands])
      simpa using mt (books.waiting fence) gone

/-- A new image. -/
theorem creates (books : Books slots none pending nextName history) :
    Books slots (some nextName) pending (nextName + 1) (.imported nextName :: history) := by
  constructor
  · have fresh : .opened nextName ∉ images history := fun there =>
      Nat.lt_irrefl _ (books.imported nextName (mem_images_opened.mp there))
    have opened := books.custody.opens (show held slots none none = none from rfl) fresh
    rw [← held_hand] at opened
    exact opened
  · intro image there
    rcases List.mem_cons.mp there with same | before
    · cases same
      exact Nat.lt_succ_self _
    · exact Nat.lt_succ_of_lt (books.imported image before)
  · intro fd there
    exact Nat.lt_succ_of_lt (books.received fd (by simpa using there))
  · exact books.fenced_cons (by simp)
  · exact books.waiting
  · refine ⟨?_, books.safe⟩
    rintro image fence ⟨⟩

/-- An image without a slot is destroyed. -/
theorem drops (books : Books slots (some image) pending nextName history) :
    Books slots none pending nextName (.destroyed image :: history) := by
  constructor
  · have closed := books.custody.closes (show held slots (some image) none = some image from rfl)
    rw [← held_hand] at closed
    exact closed
  · intro other there
    exact books.imported other (by simpa using there)
  · intro fd there
    exact books.received fd (by simpa using there)
  · exact books.fenced_cons (by simp)
  · exact books.waiting
  · refine ⟨?_, books.safe⟩
    rintro _ fence ⟨⟩ fenced
    exact absurd fenced (books.in_hand rfl fence)

/-- An image gets into an empty slot. -/
theorem fills (books : Books slots (some image) pending nextName history) (empty : slots place = {}) :
    Books (Function.update slots place { image := some image }) none pending nextName history := by
  refine ⟨?_, books.imported, books.received, ?_, books.waiting, books.safe⟩
  · have moved := books.custody.moves (show held slots (some image) none = some image from rfl)
      (show held slots (some image) (some place) = none by simp [held, empty])
    rw [← held_hand none, ← show held (Function.update slots place { image := some image }) none = _ from
      held_update] at moved
    exact moved
  · intro other fence fenced
    rcases books.fenced other fence fenced with destroyed | ⟨at_, there⟩
    · exact .inl destroyed
    · refine .inr ⟨at_, ?_⟩
      rw [Function.update_of_ne, there]
      rintro rfl
      rw [empty] at there
      cases there

/-- A fence is put behind the copy from an image. -/
theorem fences (books : Books slots none pending nextName history) (stands : slots place = { image := some image }) :
    Books (Function.update slots place { image := some image, fence := some nextName }) none (nextName :: pending)
      (nextName + 1) (.fenced image nextName :: history) := by
  have inside : held slots none (some place) = some image := by simp [held, stands]
  constructor
  · have same : held (Function.update slots place { image := some image, fence := some nextName }) none =
        held slots none := by
      rw [held_update, Function.update_eq_self_iff]
      exact inside.symm
    exact books.custody.of_same same
  · intro other there
    exact Nat.lt_succ_of_lt (books.imported other (by simpa using there))
  · intro fd there
    exact Nat.lt_succ_of_lt (books.received fd (by simpa using there))
  · intro other fence fenced
    -- The slot had no fence before, so no other copy is behind it.
    rcases List.mem_cons.mp fenced with same | before
    · cases same
      exact .inr ⟨place, Function.update_self ..⟩
    · rcases books.fenced other fence before with destroyed | ⟨at_, there⟩
      · exact .inl (List.mem_cons_of_mem _ destroyed)
      · refine .inr ⟨at_, ?_⟩
        rw [Function.update_of_ne, there]
        rintro rfl
        rw [stands] at there
        cases there
  · intro fence waits
    rw [unsignalled, Bool.or_eq_true, beq_iff_eq] at waits
    rcases waits with rfl | before
    · exact List.mem_cons_self
    · exact List.mem_cons_of_mem _ (books.waiting fence before)
  · refine ⟨?_, books.safe⟩
    rintro image fence ⟨⟩

/-- Deeds after which fewer fences are waited for. -/
theorem settles (books : Books slots hand pending nextName history) {deed : Deed} {later : List Nat}
    (other : deed.image? = none) (received : deed.descriptor? = none)
    (unfenced : ∀ image fence, deed ≠ .fenced image fence)
    (waiting : ∀ fence, unsignalled fence (deed :: history) = true → fence ∈ later) :
    Books slots hand later nextName (deed :: history) := by
  constructor
  · rw [images, List.filterMap_cons_none other]
    exact books.custody
  · intro image there
    rcases List.mem_cons.mp there with rfl | before
    · cases other
    · exact books.imported image before
  · intro fd there
    rcases List.mem_cons.mp there with rfl | before
    · cases received
    · exact books.received fd before
  · exact books.fenced_cons unfenced
  · exact waiting
  · refine ⟨?_, books.safe⟩
    rintro image fence rfl
    cases other

/-- After `glFinish` no fence is waited for. -/
theorem finishes (books : Books slots hand pending nextName history) :
    Books slots hand [] nextName (.finished :: history) := by
  refine books.settles rfl rfl (by simp) ?_
  intro fence waits
  cases waits

theorem signals (books : Books slots hand pending nextName history) (fence : Nat) :
    Books slots hand (pending.erase fence) nextName (.signalled fence :: history) := by
  refine books.settles rfl rfl (by simp) ?_
  intro other waits
  rw [unsignalled, Bool.and_eq_true, bne_iff_ne] at waits
  exact (List.mem_erase_of_ne (Ne.symm waits.1)).mpr (books.waiting other waits.2)

end Books

end Luma.Export.Xwayland
