import Luma.Library.Transition
import Mathlib.Algebra.Order.BigOperators.Group.List
import Mathlib.Algebra.Order.Ring.Nat
import Mathlib.Logic.Function.Basic

/-! The images of closed windows, which an output retains while they fade.

What a new image displaces depends on the number of images and on the bytes of their textures. Where and
how an image is drawn is left out.
-/

set_option autoImplicit false

namespace Luma.Compositor

open Luma.Library

/-- The size of a texture is a pair of non-negative 32-bit integers. -/
structure ClosingTexture where
  width : Nat
  height : Nat
  wide : width < 2 ^ 31
  high : height < 2 ^ 31

/-- The bytes of a texture, by arithmetic of 64 bits. -/
def ClosingTexture.bytes (self : ClosingTexture) : Nat := self.width * self.height % 2 ^ 64 * 4 % 2 ^ 64

structure Closing where
  texture : ClosingTexture
  started : Nat
  duration : Nat
  workspace : Nat
  source : Option Nat

def Closing.bytes (self : Closing) : Nat := self.texture.bytes

def maxClosingImages : Nat := 8

def maxClosingBytes : Nat := 128 * 1024 * 1024

def saturatingAdd64 (left right : Nat) : Nat := min (left + right) (2 ^ 64 - 1)

/-- The loop of `retention_evictions`, over the sizes that are left. -/
def evictOldest (required retained : Nat) : List Nat → Nat
  | [] => 0
  | size :: rest =>
      if maxClosingImages ≤ (size :: rest).length ∨ maxClosingBytes < saturatingAdd64 retained required then
        evictOldest required (retained - size) rest + 1
      else 0

def retentionEvictions (sizes : List Nat) (required : Nat) : Option Nat :=
  if maxClosingBytes < required then none
  else some (evictOldest required (sizes.foldl saturatingAdd64 0) sizes)

/-- The images of each output, the oldest first. -/
structure ClosingImages (Output : Type) where
  images : Output → List Closing

inductive ClosingOperation (Output : Type) where
  | retain (output : Output) (image : Closing)
  | tick (output : Output) (enabled : Bool) (workspace now : Nat)
  /-- `cancel_closing_window`, for the outputs of the space. -/
  | cancel (outputs : List Output) (surface : Nat)

/-- An image is added. -/
structure Retained (Output : Type) where
  output : Output
  image : Closing

namespace ClosingImages

variable {Output : Type} [DecidableEq Output]

def setImages (self : ClosingImages Output) (output : Output) (images : List Closing) : ClosingImages Output :=
  { images := Function.update self.images output images }

def retain (self : ClosingImages Output) (output : Output) (image : Closing) :
    ClosingImages Output × List (Retained Output) :=
  match retentionEvictions ((self.images output).map Closing.bytes) image.bytes with
  | none => (self, [])
  | some evictions => (self.setImages output ((self.images output).drop evictions ++ [image]), [⟨output, image⟩])

/-- What is over or of another workspace goes, and whether anything is left. -/
def tick (self : ClosingImages Output) (output : Output) (enabled : Bool) (workspace now : Nat) :
    ClosingImages Output × Bool :=
  let kept := (self.images output).filter fun image =>
    enabled && image.workspace == workspace && now - image.started < image.duration
  (self.setImages output kept, !kept.isEmpty)

def cancel (self : ClosingImages Output) (outputs : List Output) (surface : Nat) : ClosingImages Output :=
  outputs.foldl (fun self output =>
    self.setImages output ((self.images output).filter fun image => image.source != some surface)) self

def step : Transition.Step (ClosingImages Output) (ClosingOperation Output) (Retained Output) :=
  fun self operation =>
  match operation with
  | .retain output image => self.retain output image
  | .tick output enabled workspace now => ((self.tick output enabled workspace now).1, [])
  | .cancel outputs surface => (self.cancel outputs surface, [])

abbrev Execution : List (Retained Output) → ClosingImages Output → Prop :=
  Transition.Run step Transition.unrestricted (· = { images := fun _ => [] })

end ClosingImages

/-! ## Evictions -/

/-- What an output may hold. -/
structure Bounded (images : List Closing) : Prop where
  count : images.length ≤ maxClosingImages
  bytes : (images.map Closing.bytes).sum ≤ maxClosingBytes

theorem Bounded.sublist {images others : List Closing} (bounded : Bounded images) (kept : List.Sublist others images) :
    Bounded others where
  count := Nat.le_trans kept.length_le bounded.count
  bytes := Nat.le_trans (List.Sublist.sum_le_sum (kept.map Closing.bytes) fun _ _ => Nat.zero_le _) bounded.bytes

theorem bounded_append {images : List Closing} {image : Closing} :
    Bounded (images ++ [image]) ↔
      images.length < maxClosingImages ∧ (images.map Closing.bytes).sum + image.bytes ≤ maxClosingBytes := by
  constructor
  · rintro ⟨count, bytes⟩
    simp only [List.length_append, List.length_singleton, List.map_append, List.map_cons, List.map_nil,
      List.sum_append, List.sum_singleton] at count bytes
    exact ⟨count, bytes⟩
  · rintro ⟨count, bytes⟩
    refine ⟨?_, by simpa using bytes⟩
    rw [List.length_append, List.length_singleton]
    exact count

/-- Sizes within the bound are added up without saturation. -/
theorem foldl_saturatingAdd64 {sizes : List Nat} {total : Nat} (small : total + sizes.sum ≤ maxClosingBytes) :
    sizes.foldl saturatingAdd64 total = total + sizes.sum := by
  induction sizes generalizing total with
  | nil => rfl
  | cons size rest ih =>
    rw [List.sum_cons] at small ⊢
    have next : saturatingAdd64 total size = total + size := by
      unfold maxClosingBytes at small
      exact Nat.min_eq_left (by omega)
    rw [List.foldl_cons, next, ih (by omega)]
    omega

/-- The evictions are the fewest that leave room for the new image. -/
theorem evictOldest_spec {images : List Closing} {image : Closing} (fits : image.bytes ≤ maxClosingBytes)
    (within : (images.map Closing.bytes).sum ≤ maxClosingBytes) :
    let evictions := evictOldest image.bytes (images.map Closing.bytes).sum (images.map Closing.bytes)
    evictions ≤ images.length ∧ Bounded (images.drop evictions ++ [image]) ∧
      ∀ fewer < evictions, ¬Bounded (images.drop fewer ++ [image]) := by
  induction images with
  | nil =>
    refine ⟨Nat.le_refl _, bounded_append.mpr ⟨Nat.succ_pos 7, by simpa using fits⟩, ?_⟩
    intro fewer less
    exact absurd less (Nat.not_lt_zero _)
  | cons oldest rest ih =>
    rw [List.map_cons, List.sum_cons] at within
    have later := ih (by omega)
    have exact_sum : saturatingAdd64 (oldest.bytes + (rest.map Closing.bytes).sum) image.bytes =
        oldest.bytes + (rest.map Closing.bytes).sum + image.bytes := by
      unfold maxClosingBytes at within fits
      exact Nat.min_eq_left (by omega)
    -- The loop goes on exactly while the images that are left and the new one break a bound.
    have goesOn : (maxClosingImages ≤ (oldest.bytes :: rest.map Closing.bytes).length ∨
        maxClosingBytes < saturatingAdd64 (oldest.bytes + (rest.map Closing.bytes).sum) image.bytes) ↔
        ¬Bounded (oldest :: rest ++ [image]) := by
      rw [exact_sum, bounded_append, List.map_cons, List.sum_cons, List.length_cons, List.length_map, List.length_cons]
      omega
    rw [List.map_cons, List.sum_cons, evictOldest]
    by_cases full : Bounded (oldest :: rest ++ [image])
    · rw [if_neg (by rw [goesOn]; exact not_not.mpr full)]
      refine ⟨Nat.zero_le _, full, ?_⟩
      intro fewer less
      exact absurd less (Nat.not_lt_zero _)
    · rw [if_pos (goesOn.mpr full), Nat.add_sub_cancel_left]
      obtain ⟨length, bounded, least⟩ := later
      refine ⟨Nat.succ_le_succ length, bounded, ?_⟩
      intro fewer less
      cases fewer with
      | zero => exact full
      | succ fewer => exact least fewer (Nat.lt_of_succ_lt_succ less)

namespace ClosingImages

variable {Output : Type} [DecidableEq Output] {self : ClosingImages Output} {output : Output} {image : Closing}

/-- The image takes the place of the shortest prefix of older ones that makes room for it. -/
structure Displaced (before after : List Closing) (image : Closing) (evictions : Nat) : Prop where
  within : evictions ≤ before.length
  left : after = before.drop evictions ++ [image]
  bounded : Bounded after
  least : ∀ fewer < evictions, ¬Bounded (before.drop fewer ++ [image])

theorem retain_oversized (large : maxClosingBytes < image.bytes) : self.retain output image = (self, []) := by
  unfold retain retentionEvictions
  rw [if_pos large]

theorem retain_fitting (bounded : Bounded (self.images output)) (fits : image.bytes ≤ maxClosingBytes) :
    ∃ evictions, Displaced (self.images output) ((self.retain output image).1.images output) image evictions ∧
      (self.retain output image).2 = [⟨output, image⟩] ∧
      ∀ other, other ≠ output → (self.retain output image).1.images other = self.images other := by
  have summed : ((self.images output).map Closing.bytes).foldl saturatingAdd64 0 =
      ((self.images output).map Closing.bytes).sum := by
    rw [foldl_saturatingAdd64 (by simpa using bounded.bytes), Nat.zero_add]
  obtain ⟨within, room, least⟩ := evictOldest_spec fits bounded.bytes
  unfold retain retentionEvictions
  rw [if_neg (Nat.not_lt.mpr fits), summed]
  refine ⟨_, ⟨within, by simp [setImages], ?_, least⟩, rfl, ?_⟩
  · simpa [setImages] using room
  · intro other differs
    simp [setImages, differs]

/-! ## Runs -/

variable {history : List (Retained Output)}

/-- The images that were ever added to the output, the oldest first. -/
def retainedOn (output : Output) (history : List (Retained Output)) : List Closing :=
  Transition.chronicle (fun retained => if retained.output = output then some retained.image else none) history

@[simp] theorem retainedOn_cons (retained : Retained Output) :
    retainedOn output (retained :: history) =
      retainedOn output history ++ if retained.output = output then [retained.image] else [] := by
  unfold retainedOn
  rw [Transition.chronicle_cons]
  split
  · rfl
  · rfl

/-- Images leave, or one that is new comes last. -/
structure Holding (history : List (Retained Output)) (closing : ClosingImages Output) : Prop where
  bounded : ∀ output, Bounded (closing.images output)
  ordered : ∀ output, List.Sublist (closing.images output) (retainedOn output history)

theorem Holding.narrow (holding : Holding history self) {next : ClosingImages Output}
    (kept : ∀ output, List.Sublist (next.images output) (self.images output)) : Holding history next where
  bounded := fun output => (holding.bounded output).sublist (kept output)
  ordered := fun output => (kept output).trans (holding.ordered output)

theorem tick_sublist (self : ClosingImages Output) (output : Output) (enabled : Bool) (workspace now : Nat)
    (other : Output) :
    List.Sublist ((self.tick output enabled workspace now).1.images other) (self.images other) := by
  by_cases here : other = output
  · subst here
    simp [tick, setImages]
  · simp [tick, setImages, here]

theorem cancel_sublist (self : ClosingImages Output) (outputs : List Output) (surface : Nat) (other : Output) :
    List.Sublist ((self.cancel outputs surface).images other) (self.images other) := by
  unfold cancel
  induction outputs generalizing self with
  | nil => exact List.Sublist.refl _
  | cons output rest ih =>
    refine (ih _).trans ?_
    by_cases here : other = output
    · subst here
      simp [setImages]
    · simp [setImages, here]

theorem Holding.retain (holding : Holding history self) (output : Output) (image : Closing) :
    Holding ((self.retain output image).2 ++ history) (self.retain output image).1 := by
  by_cases large : maxClosingBytes < image.bytes
  · rw [retain_oversized large]
    exact holding
  · obtain ⟨evictions, displaced, seen, others⟩ := retain_fitting (holding.bounded output) (Nat.not_lt.mp large)
    rw [seen]
    constructor
    · intro other
      by_cases here : other = output
      · subst here
        exact displaced.bounded
      · rw [others other here]
        exact holding.bounded other
    · intro other
      by_cases here : other = output
      · subst here
        rw [displaced.left, List.singleton_append, retainedOn_cons, if_pos rfl]
        exact ((List.drop_sublist _ _).trans (holding.ordered other)).append (List.Sublist.refl _)
      · rw [others other here, List.singleton_append, retainedOn_cons, if_neg (Ne.symm here), List.append_nil]
        exact holding.ordered other

theorem Holding.step (holding : Holding history self) (operation : ClosingOperation Output) :
    Holding ((ClosingImages.step self operation).2 ++ history) (ClosingImages.step self operation).1 := by
  cases operation with
  | retain output image => exact holding.retain output image
  | tick output enabled workspace now => exact holding.narrow (tick_sublist self output enabled workspace now)
  | cancel outputs surface => exact holding.narrow (cancel_sublist self outputs surface)

theorem Holding.of_execution (run : Execution history self) : Holding history self := by
  refine run.invariant ?_ ?_
  · rintro _ rfl
    exact ⟨fun _ => ⟨Nat.zero_le _, Nat.zero_le _⟩, fun _ => List.nil_sublist _⟩
  · intro _ _ operation _ _ holding
    exact holding.step operation

/-- What an output holds, and what an image that comes next does to it. -/
structure Retention (history : List (Retained Output)) (closing : ClosingImages Output) (output : Output) : Prop where
  bounded : Bounded (closing.images output)
  ordered : List.Sublist (closing.images output) (retainedOn output history)
  rejected : ∀ image, maxClosingBytes < image.bytes → closing.retain output image = (closing, [])
  displaced : ∀ image, image.bytes ≤ maxClosingBytes → ∃ evictions,
    Displaced (closing.images output) ((closing.retain output image).1.images output) image evictions ∧
      ∀ other, other ≠ output → (closing.retain output image).1.images other = closing.images other

/-- After any operations each output holds images within both bounds in the order of their ages, and a further
one displaces no more of the oldest than it must. -/
theorem closing_images_retained (run : Execution history self) (output : Output) : Retention history self output := by
  have holding := Holding.of_execution run
  refine ⟨holding.bounded output, holding.ordered output, fun image large => retain_oversized large, ?_⟩
  intro image fits
  obtain ⟨evictions, displaced, -, others⟩ := retain_fitting (holding.bounded output) fits
  exact ⟨evictions, displaced, others⟩

/-- Half of the bytes. -/
def halfImage : Closing where
  texture := { width := 4096, height := 4096, wide := by decide, high := by decide }
  started := 0
  duration := 200
  workspace := 1
  source := none

/-- Three such images. -/
def threeHalves : List (ClosingOperation Nat) := List.replicate 3 (.retain 0 halfImage)

theorem closing_images_retained_halves :
    Bounded ((Transition.execute step { images := fun _ => [] } threeHalves).1.images 0) ∧
      ((Transition.execute step { images := fun _ => [] } threeHalves).1.images 0).length = 2 := by
  have run : Execution _ _ := Transition.Run.execute threeHalves (.start rfl) (Transition.permits_unrestricted _ _ _ _)
  rw [List.append_nil] at run
  exact ⟨(closing_images_retained run 0).bounded, by decide +kernel⟩

end ClosingImages

end Luma.Compositor
