import Luma.Export.VulkanLayer
import Luma.Muxer.Session
import Mathlib.Data.List.Sort

/-! The order in which the exports of a swapchain leave the Vulkan present layer.

A frame whose message does not leave waits in its slot, and later presents try the slots
again by their index. The acknowledgements that a present reads may be any at all.
-/

set_option autoImplicit false

namespace Luma.Export.Vulkan

open Luma.Library Luma.Library.Transition Luma.Muxer Luma.Protocol

/-- `luma_vk_export_message`, without the layout of the image. -/
structure ExportMessage where
  generation : Nat
  ptsNs : UInt64
  streamId : Nat
  slot : Fin ring
  deriving DecidableEq, Repr

inductive Sighting where
  | captured (identity : Nat) (slot : Fin ring) (ptsNs : UInt64)
  | sent (message : ExportMessage)
  deriving DecidableEq, Repr

/-- `pts_ns` of every slot, by the identity of its swapchain. -/
abbrev Stamps := Nat → Fin ring → UInt64

def Stamps.set (stamps : Stamps) (identity : Nat) (slot : Fin ring) (ptsNs : UInt64) : Stamps :=
  Function.update stamps identity (Function.update (stamps identity) slot ptsNs)

/-- What one present does, with the timestamps: a capture takes the clock's reading, and a
message takes what its slot has. -/
def stamp (clock : UInt64) (stamps : Stamps) : List Event → Stamps × List Sighting
  | [] => (stamps, [])
  | .overwritten identity slot :: earlier =>
      let before := stamp clock stamps earlier
      (before.1.set identity slot clock, .captured identity slot clock :: before.2)
  | .exported sent :: earlier =>
      let before := stamp clock stamps earlier
      (before.1, .sent {
        generation := sent.generation, ptsNs := before.1 sent.identity sent.slot
        streamId := sent.identity, slot := sent.slot } :: before.2)
  | .freed _ _ :: earlier | .acknowledged _ :: earlier => stamp clock stamps earlier

/-- The layer with the timestamps of its slots. -/
structure Stamped where
  layer : Layer := {}
  stamps : Stamps := fun _ _ => 0

inductive StampedInput where
  | createSwapchain (handle imageCount : Nat) (exportReady : Bool)
  | destroySwapchain (handle : Nat)
  | present (acks : List Export) (handle image : Nat) (host : PresentHost) (clock : UInt64)

namespace Stamped

def step : Transition.Step Stamped StampedInput Sighting := fun self input =>
  match input with
  | .createSwapchain handle imageCount exportReady =>
      ({ self with layer := self.layer.createSwapchain handle imageCount exportReady }, [])
  | .destroySwapchain handle => ({ self with layer := self.layer.destroySwapchain handle }, [])
  | .present acks handle image host clock =>
      let presented := self.layer.queuePresent acks handle image host
      let stamped := stamp clock self.stamps presented.2
      ({ layer := presented.1, stamps := stamped.1 }, stamped.2)

end Stamped

/-! ## What a present finds -/

/-- The slot holds a frame whose message has not left. -/
def CaptureSlot.awaits (slot : CaptureSlot) : Bool := slot.busy && !slot.sent && slot.fence

/-- An acknowledgement frees the slot. -/
def answered (acks : List Export) (entry : SwapchainEntry) (index : Fin ring) : Bool :=
  acks.any fun ack => ack.slot == index && ack.generation == (entry.slots index).generation

/-- The message of the slot is tried again. -/
def retried (acks : List Export) (entry : SwapchainEntry) (index : Fin ring) : Bool :=
  (entry.slots index).awaits && !answered acks entry index

/-- The slot that a new frame goes to. -/
def vacantSlot (acks : List Export) (entry : SwapchainEntry) : Option (Fin ring) :=
  ((List.range ring).map fun n => Layer.wrap (entry.cursor + n)).find? fun index =>
    !(entry.slots index).busy || answered acks entry index

/-- The present copies its image, if there is a slot for it, and tries to send the message. -/
def captures (entry : SwapchainEntry) (image : Nat) (host : PresentHost) : Bool :=
  host.plain && entry.exportReady && image < entry.imageCount && host.submitted && host.fenceExported

/-- The retries go by the index of the slots. A newer frame that leaves has every older one
before it, and the older one leaves too. -/
def RetriesInTurn (stamps : Stamps) (acks : List Export) (host : PresentHost) (place : Fin maxSwapchains)
    (entry : SwapchainEntry) : Prop :=
  ∀ older newer, retried acks entry older = true → retried acks entry newer = true →
    stamps entry.identity older < stamps entry.identity newer → host.sent place newer = true →
    older < newer ∧ host.sent place older = true

/-- The frame of this present leaves only when all that are tried again have left. -/
def CaptureInTurn (acks : List Export) (image : Nat) (host : PresentHost) (place : Fin maxSwapchains)
    (entry : SwapchainEntry) : Prop :=
  captures entry image host = true → ∀ index ∈ vacantSlot acks entry, host.sent place index = true →
    ∀ older, retried acks entry older = true → host.sent place older = true

def InTurn : Condition Stamped StampedInput Sighting := fun _ self input =>
  match input with
  | .present acks handle image host _ =>
      ∀ place, ∀ entry ∈ self.layer.swaps place,
        RetriesInTurn self.stamps acks host place entry ∧
          (self.layer.findSwap handle = some place → CaptureInTurn acks image host place entry)
  | _ => True

def Sighting.before (clock : UInt64) : Sighting → Bool
  | .captured _ _ ptsNs => ptsNs < clock
  | .sent _ => true

/-- The clock's reading is later than at every earlier capture. -/
def Ticking : Condition Stamped StampedInput Sighting := fun history _ input =>
  match input with
  | .present _ _ _ _ clock => ∀ sighting ∈ history, sighting.before clock = true
  | _ => True

section

variable (stamps : Stamps) (acks : List Export) (image : Nat) (host : PresentHost) (place : Fin maxSwapchains)
  (entry : SwapchainEntry)

instance : Decidable (RetriesInTurn stamps acks host place entry) :=
  inferInstanceAs (Decidable (∀ older newer, retried acks entry older = true → retried acks entry newer = true →
    stamps entry.identity older < stamps entry.identity newer → host.sent place newer = true →
    older < newer ∧ host.sent place older = true))

instance : Decidable (CaptureInTurn acks image host place entry) :=
  inferInstanceAs (Decidable (captures entry image host = true → ∀ index ∈ vacantSlot acks entry,
    host.sent place index = true → ∀ older, retried acks entry older = true → host.sent place older = true))

end

instance : ∀ history self input, Decidable (InTurn history self input)
  | _, self, .present acks handle image host _ => inferInstanceAs (Decidable (∀ place, ∀ entry ∈ self.layer.swaps place,
      RetriesInTurn self.stamps acks host place entry ∧
        (self.layer.findSwap handle = some place → CaptureInTurn acks image host place entry)))
  | _, _, .createSwapchain _ _ _ | _, _, .destroySwapchain _ => .isTrue trivial

instance : ∀ history self input, Decidable (Ticking history self input)
  | history, _, .present _ _ _ _ clock =>
      inferInstanceAs (Decidable (∀ sighting ∈ history, Sighting.before clock sighting = true))
  | _, _, .createSwapchain _ _ _ | _, _, .destroySwapchain _ => .isTrue trivial

/-! ## The acknowledgements of a present -/

section

variable (acks : List Export)

/-- The swapchain after the acknowledgements. -/
def settle (entry : SwapchainEntry) : SwapchainEntry :=
  { entry with slots := fun index =>
      let slot := entry.slots index
      if slot.busy && answered acks entry index then { slot with busy := false, sent := false } else slot }

theorem settle_cons (ack : Export) (entry : SwapchainEntry) :
    settle acks (Layer.freeSlot entry ack) = settle (ack :: acks) entry := by
  unfold settle Layer.freeSlot
  split
  · rename_i hit
    simp only [Layer.hits, Bool.and_eq_true, beq_iff_eq] at hit
    congr 1
    funext index
    by_cases same : index = ack.slot
    · subst same
      simp [answered, hit.1, hit.2]
    · simp [answered, same, Ne.symm same]
  · rename_i missed
    congr 1
    funext index
    by_cases same : index = ack.slot
    · subst same
      by_cases busy : (entry.slots ack.slot).busy = true
      · have other : ¬(entry.slots ack.slot).generation = ack.generation := by
          simpa [Layer.hits, busy] using missed
        simp [answered, busy, Ne.symm other]
      · simp [busy]
    · simp [answered, Ne.symm same]

theorem drainAcks_swaps (layer : Layer) (place : Fin maxSwapchains) :
    (layer.drainAcks acks).1.swaps place = (layer.swaps place).map (settle acks) := by
  induction acks generalizing layer with
  | nil =>
    have nothing : settle [] = id := by
      funext entry
      simp [settle, answered]
    rw [nothing, Option.map_id]
    rfl
  | cons ack acks ih =>
    rw [Layer.drainAcks, ih, Layer.readAck, Option.map_map]
    congr 1
    funext entry
    exact settle_cons acks ack entry

theorem settle_awaits (entry : SwapchainEntry) (index : Fin ring) :
    ((settle acks entry).slots index).awaits = retried acks entry index := by
  unfold settle retried
  cases busy : (entry.slots index).busy <;> cases known : answered acks entry index <;>
    simp [CaptureSlot.awaits, busy, known]

theorem settle_vacant (entry : SwapchainEntry) : Layer.nextSlot (settle acks entry) = vacantSlot acks entry := by
  unfold Layer.nextSlot vacantSlot settle
  congr 1
  funext index
  cases busy : (entry.slots index).busy <;> cases known : answered acks entry index <;> simp [busy, known]

end

/-! ## What holds between two sends -/

/-- The messages of a swapchain. -/
def sentBy (identity : Nat) (history : List Sighting) : List ExportMessage :=
  chronicle (fun
    | .sent message => if message.streamId = identity then some message else none
    | _ => none) history

/-- The slots and the times of its captures. -/
def capturedBy (identity : Nat) (history : List Sighting) : List (Fin ring × UInt64) :=
  chronicle (fun
    | .captured other slot ptsNs => if other = identity then some (slot, ptsNs) else none
    | _ => none) history

structure Ordered (history : List Sighting) (layer : Layer) (stamps : Stamps) : Prop where
  fresh : ∀ place entry, layer.swaps place = some entry → entry.identity < layer.nextIdentity
  apart : ∀ first second one other, layer.swaps first = some one → layer.swaps second = some other →
    one.identity = other.identity → first = second
  captured : ∀ identity, ((capturedBy identity history).map Prod.snd).Pairwise (· < ·)
  known : ∀ identity, ∀ message ∈ sentBy identity history, (message.slot, message.ptsNs) ∈ capturedBy identity history
  leaving : ∀ identity, ((sentBy identity history).map ExportMessage.ptsNs).Pairwise (· < ·)
  waits : ∀ place entry, layer.swaps place = some entry → ∀ index, (entry.slots index).awaits = true →
    (index, stamps entry.identity index) ∈ capturedBy entry.identity history ∧
      ∀ message ∈ sentBy entry.identity history, message.ptsNs < stamps entry.identity index

/-- Of two captures at different slots one is the earlier one. -/
theorem pairwise_apart {captures : List (Fin ring × UInt64)} (increasing : (captures.map Prod.snd).Pairwise (· < ·))
    {first second : Fin ring × UInt64} (one : first ∈ captures) (other : second ∈ captures) (differ : first.1 ≠ second.1) :
    first.2 ≠ second.2 := by
  intro same
  have injective := List.inj_on_of_nodup_map (increasing.imp fun before => UInt64.ne_of_lt before)
  exact differ (congrArg Prod.fst (injective one other same))

variable {history : List Sighting} {layer after : Layer} {stamps : Stamps}

namespace Ordered

/-- A step after which no swapchain and no waiting frame is new. -/
theorem eased (ordered : Ordered history layer stamps) (next : layer.nextIdentity ≤ after.nextIdentity)
    (before : ∀ place entry, after.swaps place = some entry → ∃ earlier, layer.swaps place = some earlier ∧
      entry.identity = earlier.identity ∧ ∀ index, (entry.slots index).awaits = true → (earlier.slots index).awaits = true) :
    Ordered history after stamps := by
  constructor
  case fresh =>
    intro place entry there
    obtain ⟨earlier, present, same, -⟩ := before place entry there
    rw [same]
    exact Nat.lt_of_lt_of_le (ordered.fresh place earlier present) next
  case apart =>
    intro first second one other here there equal
    obtain ⟨one', here', same, -⟩ := before first one here
    obtain ⟨other', there', same', -⟩ := before second other there
    exact ordered.apart first second one' other' here' there' (same.symm.trans (equal.trans same'))
  case captured => exact ordered.captured
  case known => exact ordered.known
  case leaving => exact ordered.leaving
  case waits =>
    intro place entry there index waiting
    obtain ⟨earlier, present, same, still⟩ := before place entry there
    rw [same]
    exact ordered.waits place earlier present index (still index waiting)

theorem created (ordered : Ordered history layer stamps) (handle imageCount : Nat) (exportReady : Bool) :
    Ordered history (layer.createSwapchain handle imageCount exportReady) stamps := by
  unfold Layer.createSwapchain
  split
  · exact ordered
  · rename_i place found
    have cases : ∀ other entry, (layer.setSwap place
        (some { handle, identity := layer.nextIdentity, imageCount, exportReady })).swaps other = some entry →
        (other = place ∧ entry.identity = layer.nextIdentity ∧ ∀ index, entry.slots index = {}) ∨
          layer.swaps other = some entry := by
      intro other entry there
      by_cases same : other = place
      · subst same
        rw [Layer.setSwap_same] at there
        cases there
        exact .inl ⟨rfl, rfl, fun _ => rfl⟩
      · rw [Layer.setSwap_other _ same] at there
        exact .inr there
    constructor
    case fresh =>
      intro other entry there
      rcases cases other entry there with ⟨-, new, -⟩ | old
      · rw [new]
        exact Nat.lt_succ_self _
      · exact Nat.lt_succ_of_lt (ordered.fresh other entry old)
    case apart =>
      intro first second one other here there equal
      rcases cases first one here with ⟨same, new, -⟩ | old <;> rcases cases second other there with ⟨same', new', -⟩ | old'
      · exact same.trans same'.symm
      · exact absurd (ordered.fresh second other old') (by rw [← equal, new]; exact Nat.lt_irrefl _)
      · exact absurd (ordered.fresh first one old) (by rw [equal, new']; exact Nat.lt_irrefl _)
      · exact ordered.apart first second one other old old' equal
    case captured => exact ordered.captured
    case known => exact ordered.known
    case leaving => exact ordered.leaving
    case waits =>
      intro other entry there index waiting
      rcases cases other entry there with ⟨-, -, empty⟩ | old
      · rw [empty index] at waiting
        cases waiting
      · exact ordered.waits other entry old index waiting

theorem destroyed (ordered : Ordered history layer stamps) (handle : Nat) :
    Ordered history (layer.destroySwapchain handle) stamps := by
  unfold Layer.destroySwapchain
  split
  · exact ordered
  · rename_i place found
    refine ordered.eased (Nat.le_refl _) fun other entry there => ?_
    by_cases same : other = place
    · subst same
      rw [Layer.setSwap_same] at there
      cases there
    · rw [Layer.setSwap_other _ same] at there
      exact ⟨entry, there, rfl, fun _ => id⟩

theorem drained (ordered : Ordered history layer stamps) (acks : List Export) :
    Ordered history (layer.drainAcks acks).1 stamps := by
  have next : ∀ (layer : Layer), (layer.drainAcks acks).1.nextIdentity = layer.nextIdentity := by
    induction acks with
    | nil => exact fun _ => rfl
    | cons ack acks ih => exact fun layer => ih (layer.readAck ack).1
  refine ordered.eased (Nat.le_of_eq (next layer).symm) fun place entry there => ?_
  rw [drainAcks_swaps] at there
  obtain ⟨earlier, present, rfl⟩ := Option.map_eq_some_iff.mp there
  refine ⟨earlier, present, rfl, fun index waiting => ?_⟩
  rw [settle_awaits] at waiting
  exact (Bool.and_eq_true_iff.mp waiting).1

/-- A frame leaves, and no older one of its swapchain waits. -/
theorem sends (ordered : Ordered history layer stamps) {place : Fin maxSwapchains} {entry : SwapchainEntry}
    {index : Fin ring} (there : layer.swaps place = some entry) (waiting : (entry.slots index).awaits = true)
    (first : ∀ other, (entry.slots other).awaits = true →
      ¬stamps entry.identity other < stamps entry.identity index) (generation : Nat) :
    Ordered (.sent ⟨generation, stamps entry.identity index, entry.identity, index⟩ :: history)
      (layer.setSlot place entry index { entry.slots index with fence := false, sent := true }) stamps := by
  obtain ⟨member, behind⟩ := ordered.waits place entry there index waiting
  have captures : ∀ identity, capturedBy identity (.sent ⟨generation, stamps entry.identity index, entry.identity, index⟩ :: history) =
      capturedBy identity history := fun _ => rfl
  have sent : ∀ identity, sentBy identity (.sent ⟨generation, stamps entry.identity index, entry.identity, index⟩ :: history) =
      sentBy identity history ++
        if entry.identity = identity then [⟨generation, stamps entry.identity index, entry.identity, index⟩] else [] := by
    intro identity
    unfold sentBy chronicle
    by_cases same : entry.identity = identity <;> simp [same]
  have before : ∀ other known, (layer.setSlot place entry index { entry.slots index with fence := false, sent := true }).swaps other =
      some known → (other = place ∧ known.identity = entry.identity ∧ ∀ slot, (known.slots slot).awaits = true →
        slot ≠ index ∧ (entry.slots slot).awaits = true) ∨ other ≠ place ∧ layer.swaps other = some known := by
    intro other known here
    by_cases same : other = place
    · subst same
      rw [Layer.setSlot, Layer.setSwap_same] at here
      cases here
      refine .inl ⟨rfl, rfl, fun slot still => ?_⟩
      by_cases equal : slot = index
      · subst equal
        simp [CaptureSlot.awaits] at still
      · simp only [Function.update_of_ne equal] at still
        exact ⟨equal, still⟩
    · rw [Layer.setSlot, Layer.setSwap_other _ same] at here
      exact .inr ⟨same, here⟩
  constructor
  case fresh =>
    intro other known here
    rcases before other known here with ⟨-, same, -⟩ | ⟨-, old⟩
    · rw [same]
      exact ordered.fresh place entry there
    · exact ordered.fresh other known old
  case apart =>
    intro one two first second here here' equal
    rcases before one first here with ⟨rfl, same, -⟩ | ⟨-, old⟩ <;> rcases before two second here' with ⟨rfl, same', -⟩ | ⟨-, old'⟩
    · rfl
    · exact ordered.apart _ _ _ _ there old' (same.symm.trans equal)
    · exact ordered.apart _ _ _ _ old there (equal.trans same')
    · exact ordered.apart _ _ _ _ old old' equal
  case captured => exact ordered.captured
  case known =>
    intro identity message member'
    rw [captures]
    rw [sent] at member'
    rcases List.mem_append.mp member' with old | new
    · exact ordered.known identity message old
    · split at new
      · rename_i same
        rw [List.mem_singleton.mp new, ← same]
        exact member
      · cases new
  case leaving =>
    intro identity
    rw [sent, List.map_append, List.pairwise_append]
    refine ⟨ordered.leaving identity, ?_, ?_⟩
    · split
      · exact List.pairwise_singleton _ _
      · exact List.Pairwise.nil
    · intro earlier old later new
      split at new
      · rename_i same
        obtain ⟨message, before, rfl⟩ := List.mem_map.mp old
        subst same
        rw [List.mem_singleton.mp new]
        exact behind message before
      · cases new
  case waits =>
    intro other known here slot still
    rw [captures, sent]
    rcases before other known here with ⟨-, same, waits⟩ | ⟨differs, old⟩
    · obtain ⟨apart, awaits⟩ := waits slot still
      obtain ⟨taken, after⟩ := ordered.waits place entry there slot awaits
      rw [same]
      refine ⟨taken, fun message old => ?_⟩
      rcases List.mem_append.mp old with old | new
      · exact after message old
      · rw [if_pos rfl] at new
        rw [List.mem_singleton.mp new]
        have unequal := pairwise_apart (ordered.captured entry.identity) taken member apart
        exact UInt64.lt_of_le_of_ne (UInt64.not_lt.mp (first slot awaits)) (Ne.symm unequal)
    · have other : entry.identity ≠ known.identity := fun equal => differs (ordered.apart _ _ _ _ there old equal).symm
      rw [if_neg other, List.append_nil]
      exact ordered.waits _ known old slot still

/-- A frame is captured later than all before it. -/
theorem captures (ordered : Ordered history layer stamps) {place : Fin maxSwapchains} {entry filled : SwapchainEntry}
    {index : Fin ring} {clock : UInt64} (there : layer.swaps place = some entry)
    (late : ∀ identity, ∀ capture ∈ capturedBy identity history, capture.2 < clock)
    (same : filled.identity = entry.identity)
    (others : ∀ other, other ≠ index → (filled.slots other).awaits = true → (entry.slots other).awaits = true) :
    Ordered (.captured entry.identity index clock :: history) (layer.setSwap place (some filled))
      (stamps.set entry.identity index clock) := by
  have sent : ∀ identity, sentBy identity (.captured entry.identity index clock :: history) = sentBy identity history :=
    fun _ => rfl
  have taken : ∀ identity, capturedBy identity (.captured entry.identity index clock :: history) =
      capturedBy identity history ++ if entry.identity = identity then [(index, clock)] else [] := by
    intro identity
    unfold capturedBy chronicle
    by_cases equal : entry.identity = identity <;> simp [equal]
  have before : ∀ other known, (layer.setSwap place (some filled)).swaps other = some known →
      (other = place ∧ known = filled) ∨ other ≠ place ∧ layer.swaps other = some known := by
    intro other known here
    by_cases equal : other = place
    · subst equal
      rw [Layer.setSwap_same] at here
      exact .inl ⟨rfl, (Option.some.inj here).symm⟩
    · rw [Layer.setSwap_other _ equal] at here
      exact .inr ⟨equal, here⟩
  constructor
  case fresh =>
    intro other known here
    rcases before other known here with ⟨-, rfl⟩ | ⟨-, old⟩
    · rw [same]
      exact ordered.fresh place entry there
    · exact ordered.fresh other known old
  case apart =>
    intro one two first second here here' equal
    rcases before one first here with ⟨rfl, rfl⟩ | ⟨-, old⟩ <;> rcases before two second here' with ⟨rfl, rfl⟩ | ⟨-, old'⟩
    · rfl
    · exact ordered.apart _ _ _ _ there old' (same.symm.trans equal)
    · exact ordered.apart _ _ _ _ old there (equal.trans same)
    · exact ordered.apart _ _ _ _ old old' equal
  case captured =>
    intro identity
    rw [taken, List.map_append, List.pairwise_append]
    refine ⟨ordered.captured identity, ?_, ?_⟩
    · split
      · exact List.pairwise_singleton _ _
      · exact List.Pairwise.nil
    · intro earlier old later new
      obtain ⟨capture, member, rfl⟩ := List.mem_map.mp old
      split at new
      · rw [List.mem_singleton.mp new]
        exact late identity capture member
      · cases new
  case known =>
    intro identity message member
    rw [taken]
    exact List.mem_append_left _ (ordered.known identity message member)
  case leaving => exact ordered.leaving
  case waits =>
    intro other known here slot waiting
    rw [sent, taken]
    rcases before other known here with ⟨-, rfl⟩ | ⟨differs, old⟩
    · rw [same, if_pos rfl, Stamps.set, Function.update_self]
      by_cases equal : slot = index
      · subst equal
        rw [Function.update_self]
        refine ⟨List.mem_append_right _ (List.mem_singleton.mpr rfl), fun message member => ?_⟩
        exact late _ _ (ordered.known _ message member)
      · rw [Function.update_of_ne equal]
        obtain ⟨member, behind⟩ := ordered.waits place entry there slot (others slot equal waiting)
        exact ⟨List.mem_append_left _ member, behind⟩
    · have other : entry.identity ≠ known.identity := fun equal => differs (ordered.apart _ _ _ _ there old equal).symm
      rw [if_neg other, List.append_nil, Stamps.set, Function.update_of_ne (Ne.symm other)]
      exact ordered.waits _ known old slot waiting

end Ordered

/-! ## The retries of a present -/

theorem stamp_append (clock : UInt64) (stamps : Stamps) (later earlier : List Event) :
    stamp clock stamps (later ++ earlier) =
      ((stamp clock (stamp clock stamps earlier).1 later).1,
        (stamp clock (stamp clock stamps earlier).1 later).2 ++ (stamp clock stamps earlier).2) := by
  induction later with
  | nil => rfl
  | cons event later ih => cases event <;> simp only [List.cons_append, stamp, ih]

theorem stamp_freed (clock : UInt64) (stamps : Stamps) {events : List Event}
    (freed : ∀ event ∈ events, ∃ current acknowledged, event = .freed current acknowledged) :
    stamp clock stamps events = (stamps, []) := by
  induction events with
  | nil => rfl
  | cons event events ih =>
    obtain ⟨current, acknowledged, rfl⟩ := freed event List.mem_cons_self
    exact ih fun other member => freed other (List.mem_cons_of_mem _ member)

theorem drainAcks_freed (layer : Layer) (acks : List Export) :
    ∀ event ∈ (layer.drainAcks acks).2, ∃ current acknowledged, event = .freed current acknowledged := by
  induction acks generalizing layer with
  | nil => nofun
  | cons ack acks ih =>
    intro event member
    rcases List.mem_append.mp member with later | now
    · exact ih _ event later
    · obtain ⟨place, -, found⟩ := List.mem_filterMap.mp now
      obtain ⟨entry, -, freed⟩ := Option.bind_eq_some_iff.mp found
      unfold Layer.freed at freed
      split at freed
      · exact ⟨_, _, (Option.some.inj freed).symm⟩
      · cases freed

/-- One slot of the retries. -/
theorem retry_cases (layer : Layer) (place : Fin maxSwapchains) (index : Fin ring) (leaves : Bool) :
    (∃ entry, layer.swaps place = some entry ∧ (entry.slots index).awaits = true ∧ leaves = true ∧
      (if layer.waiting place index then layer.emitSlot place index leaves else (layer, [])) =
        (layer.setSlot place entry index { entry.slots index with fence := false, sent := true },
          [.exported (entry.current index)])) ∨
    ((∀ entry, layer.swaps place = some entry → ¬((entry.slots index).awaits = true ∧ leaves = true)) ∧
      (if layer.waiting place index then layer.emitSlot place index leaves else (layer, [])) = (layer, [])) := by
  cases there : layer.swaps place with
  | none =>
    refine .inr ⟨nofun, ?_⟩
    simp [Layer.waiting, there]
  | some entry =>
    by_cases sends : (entry.slots index).awaits = true ∧ leaves = true
    · refine .inl ⟨entry, rfl, sends.1, sends.2, ?_⟩
      obtain ⟨awaits, leaves⟩ := sends
      simp only [CaptureSlot.awaits, Bool.and_eq_true, Bool.not_eq_true'] at awaits
      obtain ⟨⟨busy, unsent⟩, fence⟩ := awaits
      simp [Layer.waiting, Layer.emitSlot, there, busy, unsent, fence, leaves]
    · refine .inr ⟨fun known same => Option.some.inj same ▸ sends, ?_⟩
      split
      · rename_i waiting
        simp only [Layer.waiting, there, Option.any_some, Bool.and_eq_true, Bool.not_eq_true'] at waiting
        have stays : ((entry.slots index).fence && leaves) = false := by
          simpa [CaptureSlot.awaits, waiting.1, waiting.2] using sends
        simp [Layer.emitSlot, there, stays]
      · rfl

/-- The swapchain after its slots in the list were tried. -/
def resent (host : PresentHost) (rest : List (Fin maxSwapchains × Fin ring)) (place : Fin maxSwapchains)
    (entry : SwapchainEntry) : SwapchainEntry :=
  { entry with slots := fun index =>
      let slot := entry.slots index
      if (place, index) ∈ rest ∧ slot.awaits = true ∧ host.sent place index = true then
        { slot with fence := false, sent := true }
      else slot }

theorem emitWaiting_swaps (host : PresentHost) {rest : List (Fin maxSwapchains × Fin ring)} (once : rest.Nodup)
    (layer : Layer) (place : Fin maxSwapchains) :
    (layer.emitWaiting host rest).1.swaps place = (layer.swaps place).map (resent host rest place) := by
  induction rest generalizing layer with
  | nil =>
    have nothing : resent host [] place = id := by
      funext entry
      simp [resent]
    rw [nothing, Option.map_id]
    rfl
  | cons first rest ih =>
    obtain ⟨other, index⟩ := first
    obtain ⟨absent, once⟩ := List.nodup_cons.mp once
    rw [Layer.emitWaiting, ih once]
    rcases retry_cases layer other index (host.sent other index) with ⟨entry, there, awaits, leaves, same⟩ | ⟨stays, same⟩
    · rw [same]
      by_cases equal : place = other
      · subst equal
        rw [Layer.setSlot, Layer.setSwap_same, there, Option.map_some, Option.map_some]
        unfold resent
        congr 2
        funext slot
        by_cases here : slot = index
        · subst here
          simp [absent, awaits, leaves]
        · simp [here]
      · rw [Layer.setSlot, Layer.setSwap_other _ equal]
        unfold resent
        simp [equal]
    · rw [same]
      cases there : layer.swaps place with
      | none => rfl
      | some entry =>
        rw [Option.map_some, Option.map_some]
        unfold resent
        congr 2
        funext slot
        by_cases here : place = other ∧ slot = index
        · obtain ⟨rfl, rfl⟩ := here
          have stays := stays entry there
          simp only [not_and, Bool.not_eq_true] at stays
          by_cases awaits : (entry.slots slot).awaits = true
          · simp [stays awaits]
          · simp [awaits]
        · simp only [List.mem_cons, Prod.mk.injEq, here, false_or]

/-- The slots of a ring are tried by their index. -/
theorem places_sorted : Layer.places.Pairwise fun first second => first.1 = second.1 → first.2 < second.2 := by
  decide +kernel

theorem places_nodup : Layer.places.Nodup :=
  places_sorted.imp fun before same => absurd (before (congrArg Prod.fst same)) (by rw [same]; exact lt_irrefl _)

theorem mem_places (place : Fin maxSwapchains) (index : Fin ring) : (place, index) ∈ Layer.places := by
  simp [Layer.places]

namespace Ordered

theorem retries (ordered : Ordered history layer stamps) (host : PresentHost) (clock : UInt64)
    {rest : List (Fin maxSwapchains × Fin ring)}
    (sorted : rest.Pairwise fun first second => first.1 = second.1 → first.2 < second.2)
    (inTurn : ∀ place entry, layer.swaps place = some entry → ∀ older newer, (entry.slots older).awaits = true →
      (entry.slots newer).awaits = true → stamps entry.identity older < stamps entry.identity newer →
      (place, newer) ∈ rest → host.sent place newer = true →
      older < newer ∧ host.sent place older = true ∧ (place, older) ∈ rest) :
    (stamp clock stamps (layer.emitWaiting host rest).2).1 = stamps ∧
      (∀ identity, capturedBy identity ((stamp clock stamps (layer.emitWaiting host rest).2).2 ++ history) =
        capturedBy identity history) ∧
      Ordered ((stamp clock stamps (layer.emitWaiting host rest).2).2 ++ history) (layer.emitWaiting host rest).1 stamps := by
  induction rest generalizing history layer with
  | nil => exact ⟨rfl, fun _ => rfl, ordered⟩
  | cons first rest ih =>
    obtain ⟨place, index⟩ := first
    obtain ⟨before, sorted⟩ := List.pairwise_cons.mp sorted
    rw [Layer.emitWaiting, stamp_append]
    rcases retry_cases layer place index (host.sent place index) with ⟨entry, there, awaits, leaves, same⟩ | ⟨stays, same⟩
    · rw [same]
      have oldest : ∀ other, (entry.slots other).awaits = true →
          ¬stamps entry.identity other < stamps entry.identity index := by
        intro other waiting older
        obtain ⟨lower, -, member⟩ := inTurn place entry there other index waiting awaits older List.mem_cons_self leaves
        rcases List.mem_cons.mp member with equal | later
        · exact absurd lower (by rw [(Prod.mk.inj equal).2]; exact lt_irrefl _)
        · exact absurd (before _ later rfl) (lt_asymm lower)
      have next := ordered.sends there awaits oldest (entry.slots index).generation
      obtain ⟨stamped, taken, rest⟩ := ih next sorted (by
        intro other known here older newer waiting waits stamped member leaving
        by_cases equal : other = place
        · subst equal
          rw [Layer.setSlot, Layer.setSwap_same] at here
          cases here
          have apart : ∀ slot, (Function.update entry.slots index
              { entry.slots index with fence := false, sent := true } slot).awaits = true →
              slot ≠ index ∧ (entry.slots slot).awaits = true := by
            intro slot still
            by_cases here : slot = index
            · subst here
              simp [CaptureSlot.awaits] at still
            · rw [Function.update_of_ne here] at still
              exact ⟨here, still⟩
          obtain ⟨differs, waiting⟩ := apart older waiting
          obtain ⟨lower, left, among⟩ := inTurn other entry there older newer waiting (apart newer waits).2 stamped
            (List.mem_cons_of_mem _ member) leaving
          refine ⟨lower, left, (List.mem_cons.mp among).resolve_left fun equal => differs (Prod.mk.inj equal).2⟩
        · rw [Layer.setSlot, Layer.setSwap_other _ equal] at here
          obtain ⟨lower, left, among⟩ := inTurn other known here older newer waiting waits stamped
            (List.mem_cons_of_mem _ member) leaving
          exact ⟨lower, left, (List.mem_cons.mp among).resolve_left fun same => equal (Prod.mk.inj same).1⟩)
      refine ⟨stamped, fun identity => ?_, ?_⟩
      · exact (congrArg _ (List.append_assoc _ _ _)).trans (taken identity)
      · rw [List.append_assoc]
        exact rest
    · rw [same]
      have stays := stays
      obtain ⟨stamped, taken, rest⟩ := ih ordered sorted (by
        intro other known here older newer waiting waits older' member leaving
        obtain ⟨lower, left, among⟩ := inTurn other known here older newer waiting waits older'
          (List.mem_cons_of_mem _ member) leaving
        refine ⟨lower, left, (List.mem_cons.mp among).resolve_left fun equal => ?_⟩
        obtain ⟨rfl, rfl⟩ := Prod.mk.inj equal
        exact stays known here ⟨waiting, left⟩)
      refine ⟨stamped, fun identity => ?_, ?_⟩
      · exact (congrArg _ (congrArg (· ++ _) (List.append_nil _))).trans (taken identity)
      · rw [stamp, List.append_nil]
        exact rest

theorem fills {place : Fin maxSwapchains} {entry : SwapchainEntry} {index : Fin ring} {host : PresentHost} {clock : UInt64}
    (ordered : Ordered history layer stamps) (there : layer.swaps place = some entry)
    (late : ∀ identity, ∀ capture ∈ capturedBy identity history, capture.2 < clock)
    (last : host.fenceExported = true → host.sent place index = true → ∀ older, (entry.slots older).awaits = false) :
    Ordered ((stamp clock stamps (layer.fill place entry index host).2).2 ++ history) (layer.fill place entry index host).1
      (stamp clock stamps (layer.fill place entry index host).2).1 := by
  unfold Layer.fill
  dsimp only
  generalize made : ({ entry with cursor := _, slots := Function.update entry.slots index _ } : SwapchainEntry) = filled
  have same : filled.identity = entry.identity := by rw [← made]
  have others : ∀ other, other ≠ index → filled.slots other = entry.slots other := by
    intro other apart
    rw [← made]
    exact Function.update_of_ne apart _ _
  have taken := ordered.captures there late same fun other apart => by rw [others other apart]; exact id
  split
  · rename_i exported
    have own : (filled.slots index).awaits = true := by
      rw [← made]
      simp [CaptureSlot.awaits, exported]
    have fence : (filled.slots index).fence = true := (Bool.and_eq_true_iff.mp own).2
    unfold Layer.emitSlot
    simp only [Layer.setSwap_same, fence, Bool.true_and]
    split
    · rename_i leaves
      have alone : ∀ other, (filled.slots other).awaits = true →
          ¬(stamps.set entry.identity index clock) filled.identity other <
            (stamps.set entry.identity index clock) filled.identity index := by
        intro other waiting older
        by_cases equal : other = index
        · rw [equal] at older
          exact absurd older (UInt64.lt_irrefl _)
        · rw [others other equal, last exported leaves other] at waiting
          cases waiting
      exact taken.sends (Layer.setSwap_same ..) own alone (filled.slots index).generation
    · exact taken
  · exact taken

/-- The capture of a present, after which its frame leaves only when no other one waits. -/
theorem capture {handle image : Nat} {host : PresentHost} {clock : UInt64} (ordered : Ordered history layer stamps)
    (late : ∀ identity, ∀ capture ∈ capturedBy identity history, capture.2 < clock)
    (last : ∀ place entry index, layer.findSwap handle = some place → layer.swaps place = some entry →
      entry.exportReady = true → image < entry.imageCount → host.submitted = true → host.fenceExported = true →
      Layer.nextSlot entry = some index → host.sent place index = true → ∀ older, (entry.slots older).awaits = false) :
    Ordered ((stamp clock stamps (layer.capture handle image host).2).2 ++ history) (layer.capture handle image host).1
      (stamp clock stamps (layer.capture handle image host).2).1 := by
  unfold Layer.capture
  split
  · exact ordered
  · rename_i place entry found
    obtain ⟨_, here, found⟩ := Option.bind_eq_some_iff.mp found
    obtain ⟨_, there, same⟩ := Option.map_eq_some_iff.mp found
    obtain ⟨rfl, rfl⟩ := Prod.mk.inj same
    split
    · exact ordered
    · rename_i ready
      simp only [Bool.or_eq_true, Bool.not_eq_true', decide_eq_true_eq, not_or, Bool.not_eq_false, Nat.not_le] at ready
      split
      · exact ordered
      · rename_i index next
        split
        · rename_i submitted
          exact ordered.fills there late (last _ _ index here there ready.1 ready.2 submitted · next)
        · exact ordered

end Ordered

/-! ## Presents -/

theorem resent_awaits (host : PresentHost) (place : Fin maxSwapchains) (entry : SwapchainEntry) (index : Fin ring) :
    ((resent host Layer.places place entry).slots index).awaits =
      ((entry.slots index).awaits && !host.sent place index) := by
  unfold resent
  simp only [mem_places, true_and]
  split
  · rename_i left
    rw [left.1, left.2]
    simp [CaptureSlot.awaits]
  · rename_i stays
    cases awaits : (entry.slots index).awaits <;> simp_all

theorem resent_next (host : PresentHost) (place : Fin maxSwapchains) (entry : SwapchainEntry) :
    Layer.nextSlot (resent host Layer.places place entry) = Layer.nextSlot entry := by
  unfold Layer.nextSlot resent
  congr 1
  funext index
  dsimp only
  split <;> rfl

/-- The swapchains keep their places through acknowledgements and retries. -/
theorem findSwap_mapped {change : Fin maxSwapchains → SwapchainEntry → SwapchainEntry}
    (mapped : ∀ place, after.swaps place = (layer.swaps place).map (change place))
    (kept : ∀ place entry, (change place entry).handle = entry.handle) (handle : Nat) :
    after.findSwap handle = layer.findSwap handle := by
  unfold Layer.findSwap
  congr 1
  funext place
  rw [mapped, Option.any_map]
  congr 1
  funext entry
  exact congrArg (· == handle) (kept place entry)

/-- The layer's swapchains when a present comes to its capture. -/
theorem tried_swaps (layer : Layer) (acks : List Export) (host : PresentHost) (place : Fin maxSwapchains) :
    ((layer.drainAcks acks).1.emitWaiting host Layer.places).1.swaps place =
      (layer.swaps place).map fun entry => resent host Layer.places place (settle acks entry) := by
  rw [emitWaiting_swaps host places_nodup, drainAcks_swaps, Option.map_map]
  rfl

theorem Ordered.presents {self : Stamped} (ordered : Ordered history self.layer self.stamps) {acks : List Export}
    {handle image : Nat} {host : PresentHost} {clock : UInt64}
    (ticking : Ticking history self (.present acks handle image host clock))
    (inTurn : InTurn history self (.present acks handle image host clock)) :
    Ordered ((self.step (.present acks handle image host clock)).2 ++ history)
      (self.step (.present acks handle image host clock)).1.layer
      (self.step (.present acks handle image host clock)).1.stamps := by
  have quiet := stamp_freed clock self.stamps (drainAcks_freed self.layer acks)
  obtain ⟨stamped, taken, tried⟩ := (ordered.drained acks).retries host clock places_sorted (by
    intro place entry there older newer waiting waits before _ leaves
    rw [drainAcks_swaps] at there
    obtain ⟨earlier, known, rfl⟩ := Option.map_eq_some_iff.mp there
    rw [settle_awaits] at waiting waits
    obtain ⟨lower, left⟩ := (inTurn place earlier known).1 older newer waiting waits before leaves
    exact ⟨lower, left, mem_places place older⟩)
  have late : ∀ identity, ∀ capture ∈ capturedBy identity history, capture.2 < clock := by
    intro identity capture member
    obtain ⟨sighting, seen, picked⟩ := List.mem_filterMap.mp (List.mem_reverse.mp member)
    cases sighting with
    | captured other slot ptsNs =>
      dsimp only at picked
      split at picked
      · cases picked
        exact of_decide_eq_true (ticking _ seen)
      · cases picked
    | sent message => cases picked
  unfold Stamped.step Layer.queuePresent
  dsimp only
  split
  · simp only [stamp_append, quiet, stamped, List.append_nil]
    exact tried
  · rename_i plain
    simp only [Bool.not_eq_true', Bool.not_eq_false] at plain
    simp only [stamp_append, quiet, stamped, List.append_nil, List.append_assoc]
    refine tried.capture (fun identity => by rw [taken]; exact late identity) ?_
    intro place entry index here there ready image_lt submitted exported next leaves older
    rw [findSwap_mapped (tried_swaps self.layer acks host) fun _ _ => rfl] at here
    rw [tried_swaps] at there
    obtain ⟨earlier, known, rfl⟩ := Option.map_eq_some_iff.mp there
    rw [resent_next, settle_vacant] at next
    have captured : Vulkan.captures earlier image host = true := by
      unfold Vulkan.captures
      rw [plain, submitted, exported, show earlier.exportReady = true from ready,
        decide_eq_true (show image < earlier.imageCount from image_lt)]
      rfl
    have all := (inTurn place earlier known).2 here captured index next leaves older
    rw [resent_awaits, settle_awaits]
    cases waiting : retried acks earlier older with
    | false => rfl
    | true => rw [all waiting]; rfl

/-! ## Runs -/

theorem Ordered.step_kept {self : Stamped} (ordered : Ordered history self.layer self.stamps) {input : StampedInput}
    (ticking : Ticking history self input) (inTurn : InTurn history self input) :
    Ordered ((self.step input).2 ++ history) (self.step input).1.layer (self.step input).1.stamps := by
  cases input with
  | createSwapchain handle imageCount exportReady => exact ordered.created handle imageCount exportReady
  | destroySwapchain handle => exact ordered.destroyed handle
  | present acks handle image host clock => exact ordered.presents ticking inTurn

theorem Ordered.initial : Ordered [] {} fun _ _ => 0 where
  fresh := nofun
  apart := nofun
  captured _ := List.Pairwise.nil
  known := nofun
  leaving _ := List.Pairwise.nil
  waits := nofun

/-- The muxer takes access units in their order. -/
def noteAll (stats : MuxerStats) (units : List AccessUnit) : Except String MuxerStats :=
  units.foldlM MuxerStats.noteAccessUnit stats

/-- Units whose timestamps do not decrease never fail the check of their order. -/
theorem noteAll_forward {units : List AccessUnit} (ordered : (units.map AccessUnit.ptsNs).Pairwise (· ≤ ·))
    {stats : MuxerStats} (later : ∀ last ∈ stats.lastPtsNs, ∀ unit ∈ units, last ≤ unit.ptsNs) :
    noteAll stats units ≠ .error "access-unit PTS moved backwards" := by
  induction units generalizing stats with
  | nil => nofun
  | cons unit units ih =>
    obtain ⟨first, ordered⟩ := List.pairwise_cons.mp ordered
    have forward : stats.lastPtsNs.any (unit.ptsNs < ·) = false := by
      rw [Option.any_eq_false]
      intro last known
      rw [decide_eq_false_iff_not, UInt64.not_lt]
      exact later last known unit List.mem_cons_self
    unfold noteAll at ih ⊢
    rw [List.foldlM_cons, MuxerStats.noteAccessUnit, forward]
    split
    · contradiction
    · split
      · intro same
        exact absurd (Except.error.inj same) (by decide)
      · refine ih ordered ?_
        rintro _ ⟨⟩ other member
        exact first _ (List.mem_map_of_mem member)

/-- The exports of one swapchain leave in the order of their captures, with timestamps
that the muxer takes whichever of the frames are encoded. -/
structure Orderly (identity : Nat) (history : List Sighting) : Prop where
  order : ((sentBy identity history).map fun message => (message.slot, message.ptsNs)).Sublist (capturedBy identity history)
  increasing : ((sentBy identity history).map ExportMessage.ptsNs).Pairwise (· < ·)
  forward : ∀ units : List AccessUnit,
    (units.map AccessUnit.ptsNs).Sublist ((sentBy identity history).map ExportMessage.ptsNs) →
      noteAll {} units ≠ .error "access-unit PTS moved backwards"

theorem Ordered.orderly (ordered : Ordered history layer stamps) (identity : Nat) : Orderly identity history := by
  have increasing := ordered.leaving identity
  constructor
  case increasing => exact increasing
  case forward =>
    intro units among
    exact noteAll_forward ((increasing.sublist among).imp UInt64.le_of_lt) nofun
  case order =>
    let before := fun first second : Fin ring × UInt64 => first.2 < second.2
    have : Std.Antisymm before := ⟨fun _ _ earlier later => absurd later (UInt64.lt_asymm earlier)⟩
    have sent : ((sentBy identity history).map fun message => (message.slot, message.ptsNs)).Pairwise before :=
      List.pairwise_map.mpr (List.pairwise_map.mp increasing : (sentBy identity history).Pairwise (·.ptsNs < ·.ptsNs))
    have taken : (capturedBy identity history).Pairwise before := List.pairwise_map.mp (ordered.captured identity)
    have distinct := sent.imp fun {first second} earlier (same : first = second) =>
      UInt64.lt_irrefl _ (same ▸ earlier : first.2 < first.2)
    refine List.sublist_of_subperm_of_pairwise (List.subperm_of_subset distinct ?_) sent taken
    intro capture member
    obtain ⟨message, known, rfl⟩ := List.mem_map.mp member
    exact ordered.known identity message known

/-- While the clock moves on and every present's sends come in turn, the exports of
every swapchain leave in the order of their captures. -/
theorem exports_leave_in_order {state : Stamped}
    (run : Run Stamped.step (fun history state input => Ticking history state input ∧ InTurn history state input)
      (· = {}) history state) (identity : Nat) : Orderly identity history := by
  suffices ordered : Ordered history state.layer state.stamps from ordered.orderly identity
  induction run with
  | start begun => subst begun; exact .initial
  | step input _ allowed ih => exact ih.step_kept allowed.1 allowed.2

/-- Three presents of a swapchain. The message of the second leaves at the third. -/
def delayed : List StampedInput := [.createSwapchain 5 3 true, .present [] 5 0 {} 10,
  .present [⟨1, ⟨0, by decide⟩, 1⟩] 5 1 { sent := fun _ index => index.val ≠ 1 } 20, .present [] 5 2 {} 30]

theorem exports_leave_in_order_delayed : Orderly 1 (execute Stamped.step {} delayed).2 := by
  have run := Run.execute delayed (.start rfl : Run Stamped.step
    (fun history state input => Ticking history state input ∧ InTurn history state input) (· = {}) [] _) (by decide +kernel)
  rw [List.append_nil] at run
  exact exports_leave_in_order run 1

/-- The first frame is not sent at two presents, while the second one is. -/
def overtaken : List StampedInput := [.createSwapchain 5 3 true, .present [] 5 0 { sent := fun _ _ => false } 10,
  .present [] 5 1 { sent := fun _ index => index.val ≠ 0 } 20, .present [] 5 2 {} 30]

/-- A frame that is tried again leaves after a later one, and its unit stops the muxer. -/
theorem retried_frame_overtaken : ¬∀ history state identity, Run Stamped.step Ticking (· = {}) history state →
    Orderly identity history := by
  intro orderly
  have run := Run.execute overtaken (.start rfl : Run Stamped.step Ticking (· = {}) [] _) (by decide +kernel)
  rw [List.append_nil] at run
  let unit (ptsNs : UInt64) : AccessUnit := { ptsNs, dtsNs := ptsNs, durationNs := 10, flags := .empty, data := [7] }
  exact (orderly _ _ 1 run).forward [unit 20, unit 10] (by decide +kernel) rfl

end Luma.Export.Vulkan
