import Luma.Compositor.ScreencopyEffects

/-! The books of a screencopy frame: whether it was copied, what its client was told, and
which of its buffers were given back. They balance as long as no frame is copied twice
or answered again after it was refused.
-/

set_option autoImplicit false

namespace Luma.Compositor

open Luma.Library Luma.Core

namespace AnvilState

/-- Whether a buffer waits in a frame. -/
def heldBuffer (frame : Option ScreencopyFrame) (buffer : Nat) : Nat :=
  if frame.bind (·.pending) = some buffer then 1 else 0

/-- Nothing is copied for a frame that was served or dropped, and nobody is told of it. -/
def Afresh (observation : CopyObservation) (earlier : List CopyObservation) : Prop :=
  match observation with
  | .copied frame => (∀ buffer, .released frame buffer ∉ earlier) ∧ .destroyed frame ∉ earlier
  | .ready frame | .failed frame => .destroyed frame ∉ earlier
  | _ => True

/-! ## What the requests must not do -/

/-- Frames that were refused when they were made: there was no output for them, or nothing to copy. -/
def refused (frame : ScreencopyFrame) : Bool := frame.output.isNone || frame.crop.width ≤ 0

/-- A copy would end in an event, not in an error. -/
def concludes (self : AnvilState) (host : Host) (frame : ScreencopyFrame) : Bool :=
  (frame.output.bind self.findOutput).isNone || self.lock.locked || !self.desktop.active || host.validBuffer frame.id

/-- A frame is copied once. A refused one may only wait, or end in an error. -/
def copies (self : AnvilState) (host : Host) (frame : ScreencopyFrame) (withDamage : Bool) : Bool :=
  let waits := withDamage && !frame.initial
  !frame.used && (!refused frame || !(if waits then self.queueFull else self.concludes host frame))

variable {self : AnvilState} {host : Host} {history : List CopyObservation} {frame buffer : Nat}

/-! ## One frame's books -/

/-- Whether a frame has not been served yet. -/
def unserved (data : ScreencopyFrame) : Bool := !data.used || data.pending.isSome

structure FrameBooks (history : List CopyObservation) (frame : Nat) (data : Option ScreencopyFrame) : Prop where
  copied : history.count (.copied frame) ≤ 1
  answered : history.countP (·.answers frame) ≤ 1
  released : ∀ buffer, history.count (.released frame buffer) + heldBuffer data buffer = history.count (.handed frame buffer)
  unserved : ∀ found ∈ data, unserved found = true → .copied frame ∉ history ∧
    (∀ buffer, .released frame buffer ∉ history) ∧ history.countP (·.answers frame) = (refused found).toNat
  present : data ≠ none → .destroyed frame ∉ history
  idle : ∀ found ∈ data, found.used = false → found.pending = none

theorem apart_count {seen : List CopyObservation} (others : ∀ observation ∈ seen, observation.frame ≠ frame)
    {observation : CopyObservation} (about : observation.frame = frame) : seen.count observation = 0 :=
  List.count_eq_zero.mpr fun member => others observation member about

theorem apart_answers {seen : List CopyObservation} (others : ∀ observation ∈ seen, observation.frame ≠ frame) :
    seen.countP (·.answers frame) = 0 := by
  rw [List.countP_eq_zero]
  intro observation member answers
  apply others observation member
  cases observation with
  | ready | failed => simpa [CopyObservation.answers, CopyObservation.frame] using answers
  | handed | copied | released | rejected | destroyed => cases answers

/-- Only what is seen of the frame itself counts. -/
theorem FrameBooks.counted {data : Option ScreencopyFrame} {other : List CopyObservation} (books : FrameBooks history frame data)
    (same : ∀ observation, observation.frame = frame → other.count observation = history.count observation)
    (answers : other.countP (·.answers frame) = history.countP (·.answers frame)) : FrameBooks other frame data := by
  have missing : ∀ observation : CopyObservation, observation.frame = frame → observation ∉ history →
      observation ∉ other := fun observation about absent => by
    rw [← List.count_eq_zero, same observation about]
    exact List.count_eq_zero.mpr absent
  constructor
  · rw [same _ rfl]
    exact books.copied
  · rw [answers]
    exact books.answered
  · intro buffer
    rw [same _ rfl, same _ rfl]
    exact books.released buffer
  · intro found there waits
    obtain ⟨copied, released, answered⟩ := books.unserved found there waits
    exact ⟨missing _ rfl copied, fun buffer => missing _ rfl (released buffer), answers.trans answered⟩
  · exact fun there => missing _ rfl (books.present there)
  · exact books.idle

theorem FrameBooks.apart {data : Option ScreencopyFrame} {seen : List CopyObservation} (books : FrameBooks history frame data)
    (others : ∀ observation ∈ seen, observation.frame ≠ frame) : FrameBooks (seen ++ history) frame data := by
  apply books.counted
  · intro observation about
    rw [List.count_append, apart_count others about, Nat.zero_add]
  · rw [List.countP_append, apart_answers others, Nat.zero_add]

/-- A frame that is made is refused at once, or not at all. -/
theorem FrameBooks.make {data : ScreencopyFrame} (others : ∀ observation ∈ history, observation.frame ≠ frame)
    (idle : data.pending = none) :
    FrameBooks ((if refused data then [.failed frame] else []) ++ history) frame (some data) := by
  have alone : FrameBooks (if refused data then [.failed frame] else []) frame (some data) := by
    cases ends : refused data with
    | false =>
      refine ⟨by simp, by simp, by simp [heldBuffer, idle], ?_, by simp, ?_⟩
      · rintro found there _
        cases there
        simp [ends]
      · rintro found there _
        cases there
        exact idle
    | true =>
      refine ⟨by simp, by simp [CopyObservation.answers], by simp [heldBuffer, idle], ?_, by simp, ?_⟩
      · rintro found there _
        cases there
        simp [ends, CopyObservation.answers]
      · rintro found there _
        cases there
        exact idle
  apply alone.counted
  · intro observation about
    rw [List.count_append, apart_count others about, Nat.add_zero]
  · rw [List.countP_append, apart_answers others, Nat.add_zero]

/-- A buffer that is handed over for a frame waits in it. -/
theorem FrameBooks.hand {data : ScreencopyFrame} (books : FrameBooks history frame (some data)) (fresh : data.used = false)
    (buffer : Nat) :
    FrameBooks (.handed frame buffer :: history) frame (some { data with used := true, pending := some buffer }) := by
  have waits : AnvilState.unserved data = true := by simp [AnvilState.unserved, fresh]
  obtain ⟨copied, released, answered⟩ := books.unserved data rfl waits
  have idle : data.pending = none := books.idle data rfl fresh
  constructor
  · simpa using books.copied
  · simpa [CopyObservation.answers] using books.answered
  · intro other
    have before := books.released other
    rw [List.count_eq_zero.mpr (released other)] at before
    simp only [heldBuffer, Option.bind_some, idle, reduceCtorEq, if_false, Nat.add_zero] at before
    simp only [heldBuffer, Option.bind_some, List.count_cons, Option.some.injEq, beq_iff_eq, reduceCtorEq, if_false,
      CopyObservation.handed.injEq, true_and, ← before, List.count_eq_zero.mpr (released other)]
  · rintro found there _
    cases there
    refine ⟨by simpa using copied, fun other => by simpa using released other, ?_⟩
    exact (List.countP_cons_of_neg (by simp [CopyObservation.answers])).trans answered
  · intro _
    simpa using books.present (by simp)
  · rintro found there unused
    cases there
    cases unused

/-- What ends a request: its buffer is given back, and an event or an error follows. -/
inductive Service (frame buffer : Nat) : Bool → List CopyObservation → Prop where
  | concluded {answer : CopyObservation} {copies : List CopyObservation} :
      answer = .ready frame ∨ answer = .failed frame → copies = [] ∨ copies = [.copied frame] →
        Service frame buffer true (answer :: .released frame buffer :: copies)
  | rejected : Service frame buffer false [.rejected frame, .released frame buffer]

theorem performCopyEffects_service (self : AnvilState) (host : Host) (data : ScreencopyFrame) (buffer : Nat) :
    Service data.id buffer (self.concludes host data) (self.performCopyEffects host data buffer) := by
  unfold performCopyEffects concludes
  cases data.output.bind self.findOutput with
  | none => exact .concluded (.inr rfl) (.inl rfl)
  | some output =>
    dsimp only
    cases self.lock.locked with
    | true => exact .concluded (.inr rfl) (.inl rfl)
    | false =>
      cases self.desktop.active with
      | false => exact .concluded (.inr rfl) (.inl rfl)
      | true =>
        cases host.validBuffer data.id with
        | false => exact .rejected
        | true =>
          refine .concluded ?_ (.inr rfl)
          split
          · exact .inl rfl
          · exact .inr rfl

theorem Service.about {concluded : Bool} {seen : List CopyObservation} (service : Service frame buffer concluded seen) :
    ∀ observation ∈ seen, observation.frame = frame := by
  cases service with
  | rejected => simp [CopyObservation.frame]
  | concluded answer copies =>
    rcases answer with rfl | rfl <;> rcases copies with rfl | rfl <;> simp [CopyObservation.frame]

theorem Service.answered {concluded : Bool} {seen : List CopyObservation}
    (service : Service frame buffer concluded seen) : seen.countP (·.answers frame) = concluded.toNat := by
  cases service with
  | rejected => rfl
  | concluded answer copies =>
    rcases answer with rfl | rfl <;> rcases copies with rfl | rfl <;> simp [CopyObservation.answers]

theorem Service.released {concluded : Bool} {seen : List CopyObservation}
    (service : Service frame buffer concluded seen) (other : Nat) :
    seen.count (.released frame other) = if buffer = other then 1 else 0 := by
  cases service with
  | rejected => simp [List.count_cons]
  | concluded answer copies =>
    rcases answer with rfl | rfl <;> rcases copies with rfl | rfl <;> simp [List.count_cons]

theorem Service.rest {concluded : Bool} {seen : List CopyObservation} (service : Service frame buffer concluded seen) :
    seen.count (.copied frame) ≤ 1 ∧ (∀ other, seen.count (.handed frame other) = 0) ∧ .destroyed frame ∉ seen := by
  cases service with
  | rejected => simp
  | concluded answer copies =>
    rcases answer with rfl | rfl <;> rcases copies with rfl | rfl <;> simp

theorem Service.ends {concluded : Bool} {seen : List CopyObservation} (service : Service frame buffer concluded seen) :
    .released frame buffer ∈ seen ∧ (.ready frame ∈ seen ∨ .failed frame ∈ seen ∨ .rejected frame ∈ seen) := by
  cases service with
  | rejected => simp
  | concluded answer copies =>
    rcases answer with rfl | rfl
    · simp
    · simp

/-- A service copies before it gives the buffer back, and only for a frame that is there. -/
theorem Service.afresh {concluded : Bool} {seen : List CopyObservation} (service : Service frame buffer concluded seen)
    (afresh : Transition.Throughout Afresh history) (released : ∀ other, .released frame other ∉ history)
    (present : .destroyed frame ∉ history) : Transition.Throughout Afresh (seen ++ history) := by
  cases service with
  | rejected => exact ⟨trivial, trivial, afresh⟩
  | concluded answer copies =>
    rcases copies with rfl | rfl
    · have told : CopyObservation.destroyed frame ∉ CopyObservation.released frame buffer :: history := by simpa using present
      rcases answer with rfl | rfl
      · exact ⟨told, trivial, afresh⟩
      · exact ⟨told, trivial, afresh⟩
    · have told : CopyObservation.destroyed frame ∉
          CopyObservation.released frame buffer :: CopyObservation.copied frame :: history := by simpa using present
      rcases answer with rfl | rfl
      · exact ⟨told, trivial, ⟨released, present⟩, afresh⟩
      · exact ⟨told, trivial, ⟨released, present⟩, afresh⟩

/-- A frame that waits is served: its buffer goes back, and it is not refused when an event follows. -/
theorem FrameBooks.serve {data : ScreencopyFrame} {concluded : Bool} {seen : List CopyObservation}
    (books : FrameBooks history frame (some data)) (waits : data.pending = some buffer) (used : data.used = true)
    (service : Service frame buffer concluded seen) (granted : refused data = true → concluded = false) :
    FrameBooks (seen ++ history) frame (some { data with pending := none }) := by
  have served : AnvilState.unserved data = true := by simp [AnvilState.unserved, waits]
  obtain ⟨copied, released, answered⟩ := books.unserved data rfl served
  obtain ⟨once, handed, present⟩ := service.rest
  constructor
  · rw [List.count_append, List.count_eq_zero.mpr copied]
    exact once
  · rw [List.countP_append, service.answered, answered]
    cases ends : refused data with
    | false => cases concluded <;> decide
    | true =>
      rw [granted ends]
      decide
  · intro other
    have before := books.released other
    simp only [heldBuffer, Option.bind_some, waits, Option.some.injEq] at before
    simp only [heldBuffer, Option.bind_some, List.count_append, service.released, handed other, ← before,
      reduceCtorEq, if_false]
    omega
  · rintro found there waits
    cases there
    simp [AnvilState.unserved, used] at waits
  · intro _
    rw [List.mem_append, not_or]
    exact ⟨present, books.present (by simp)⟩
  · rintro found there _
    cases there
    rfl

/-- A frame that is destroyed gives its buffer back. -/
theorem FrameBooks.destroy {data : ScreencopyFrame} (books : FrameBooks history frame (some data)) :
    FrameBooks ((match data.pending with
      | none => [.destroyed frame]
      | some buffer => [.destroyed frame, .released frame buffer]) ++ history) frame none := by
  cases waits : data.pending with
  | none =>
    constructor
    · simpa using books.copied
    · simpa [CopyObservation.answers] using books.answered
    · intro other
      simpa [heldBuffer, waits] using books.released other
    · exact fun _ there => absurd there (Option.not_mem_none _)
    · exact fun there => absurd rfl there
    · exact fun _ there => absurd there (Option.not_mem_none _)
  | some buffer =>
    constructor
    · simpa using books.copied
    · simpa [CopyObservation.answers] using books.answered
    · intro other
      have before := books.released other
      simp only [heldBuffer, Option.bind_some, waits, Option.some.injEq] at before
      simp only [heldBuffer, Option.bind_none, List.cons_append, List.nil_append, List.count_cons, beq_iff_eq,
        CopyObservation.released.injEq, true_and, reduceCtorEq, if_false, Nat.add_zero, ← before]
    · exact fun _ there => absurd there (Option.not_mem_none _)
    · exact fun there => absurd rfl there
    · exact fun _ there => absurd there (Option.not_mem_none _)

/-! ## The books of all frames -/

structure CopyLedger (history : List CopyObservation) (state : AnvilState) : Prop where
  books : ∀ frame, FrameBooks history frame (state.findScreencopy frame)
  afresh : Transition.Throughout Afresh history
  known : ∀ observation ∈ history, observation.frame < state.screencopy.nextFrame
  numbered : ∀ data ∈ state.screencopy.frames, data.id < state.screencopy.nextFrame

theorem CopyLedger.congr {after : AnvilState} (ledger : CopyLedger history self) (same : after.screencopy = self.screencopy) :
    CopyLedger history after where
  books other := by
    rw [findScreencopy_congr same]
    exact ledger.books other
  afresh := ledger.afresh
  known := by
    rw [same]
    exact ledger.known
  numbered := by
    rw [same]
    exact ledger.numbered

theorem CopyLedger.bounded {data : ScreencopyFrame} (ledger : CopyLedger history self)
    (found : self.findScreencopy frame = some data) : frame < self.screencopy.nextFrame := by
  have member := ledger.numbered data (List.mem_of_find?_eq_some found)
  rwa [findScreencopy_some found] at member

/-- Something happens to one frame. -/
theorem CopyLedger.move {after : AnvilState} {seen : List CopyObservation} (ledger : CopyLedger history self) (frame : Nat)
    (about : ∀ observation ∈ seen, observation.frame = frame) (bounded : frame < after.screencopy.nextFrame)
    (grown : self.screencopy.nextFrame ≤ after.screencopy.nextFrame)
    (numbered : ∀ data ∈ after.screencopy.frames, data.id < after.screencopy.nextFrame)
    (others : ∀ other, other ≠ frame → after.findScreencopy other = self.findScreencopy other)
    (books : FrameBooks (seen ++ history) frame (after.findScreencopy frame))
    (afresh : Transition.Throughout Afresh (seen ++ history)) : CopyLedger (seen ++ history) after where
  books other := by
    by_cases same : other = frame
    · subst same
      exact books
    · rw [others other same]
      apply (ledger.books other).apart
      intro observation member
      rw [about observation member]
      exact Ne.symm same
  afresh := afresh
  known := by
    intro observation member
    rcases List.mem_append.mp member with new | old
    · rw [about observation new]
      exact bounded
    · exact Nat.lt_of_lt_of_le (ledger.known observation old) grown
  numbered := numbered

theorem updateScreencopy_numbered (ledger : CopyLedger history self) (frame : Nat) (change : ScreencopyFrame → ScreencopyFrame)
    (kept : ∀ data, (change data).id = data.id) :
    ∀ data ∈ (self.updateScreencopy frame change).screencopy.frames, data.id < self.screencopy.nextFrame := by
  intro data member
  obtain ⟨before, there, rfl⟩ := List.mem_map.mp member
  have numbered := ledger.numbered before there
  split
  · rw [kept]
    exact numbered
  · exact numbered

/-! ## New frames -/

/-- What is left of a region after clipping is not empty. -/
theorem clipRegion_width {logicalWidth logicalHeight physicalWidth physicalHeight : Int} {requested : Option Rect}
    {crop : Crop} (clipped : clipRegion logicalWidth logicalHeight physicalWidth physicalHeight requested = some crop) :
    0 < crop.width := by
  unfold clipRegion at clipped
  split at clipped
  · cases clipped
  · rename_i positive
    have logical : 0 < logicalWidth := by omega
    have physical : 0 < physicalWidth := by omega
    split at clipped
    · cases clipped
      exact physical
    · split at clipped
      · cases clipped
      · dsimp only at clipped
        split at clipped
        · cases clipped
        · rename_i region _ wide
          cases clipped
          dsimp only
          generalize clamp 0 logicalWidth region.x = left at wide ⊢
          generalize clamp 0 logicalWidth (region.x + region.w) = right at wide ⊢
          have ordered : left < right := by omega
          have floor : left * physicalWidth / logicalWidth * logicalWidth ≤ left * physicalWidth :=
            Int.ediv_mul_le _ (by omega)
          have ceiling : right * physicalWidth + logicalWidth - 1 <
              ((right * physicalWidth + logicalWidth - 1) / logicalWidth + 1) * logicalWidth :=
            Int.lt_ediv_add_one_mul_self _ logical
          have scaled : left * physicalWidth < right * physicalWidth := Int.mul_lt_mul_of_pos_right ordered physical
          have narrower : left * physicalWidth / logicalWidth * logicalWidth <
              (right * physicalWidth + logicalWidth - 1) / logicalWidth * logicalWidth := by
            rw [Int.add_mul] at ceiling
            omega
          have smaller := Int.lt_of_mul_lt_mul_right narrower (by omega)
          omega

/-- A new frame has the next number, and is refused when that is what its client is told. -/
theorem createFrame_cases (self : AnvilState) (manager output : Nat) (region : Option Rect) :
    ∃ data : ScreencopyFrame, data.id = self.screencopy.nextFrame ∧ data.pending = none ∧
      (self.createFrame manager output region).1 = self.setScreencopy { self.screencopy with
        captured := manager :: self.screencopy.captured
        frames := self.screencopy.frames ++ [data]
        nextFrame := self.screencopy.nextFrame + 1 } ∧
      self.createFrameEffects manager output region =
        if refused data then [.failed self.screencopy.nextFrame] else [] := by
  unfold createFrameEffects createFrame
  dsimp only
  generalize self.screencopyOutput output = found
  obtain ⟨crop, clips⟩ : ∃ crop, clipRegion
      (((found.bind (·.geometry)).map fun geometry => (geometry.w, geometry.h)).getD (0, 0)).1
      (((found.bind (·.geometry)).map fun geometry => (geometry.w, geometry.h)).getD (0, 0)).2
      ((found.bind (·.mode)).getD (0, 0)).1 ((found.bind (·.mode)).getD (0, 0)).2 region = crop := ⟨_, rfl⟩
  simp only [clips]
  refine ⟨{
    id := self.screencopy.nextFrame
    output := found.map (·.serial)
    captureWidth := ((found.bind (·.mode)).getD (0, 0)).1
    captureHeight := ((found.bind (·.mode)).getD (0, 0)).2
    crop := crop.getD ⟨0, 0, 0, 0⟩
    initial := !self.screencopy.captured.contains manager }, rfl, rfl, ?_, ?_⟩
  · split
    · rfl
    · rfl
  · unfold refused
    dsimp only
    cases found with
    | none => rfl
    | some there =>
      cases crop with
      | none => rfl
      | some part =>
        have wide := clipRegion_width clips
        have narrow : ¬part.width ≤ 0 := by omega
        simp [narrow]

theorem appendFrame_find (ledger : CopyLedger history self) {data : ScreencopyFrame} (named : data.id = self.screencopy.nextFrame)
    (captured : List Nat) (nextFrame other : Nat) :
    (self.setScreencopy { self.screencopy with
      captured, frames := self.screencopy.frames ++ [data], nextFrame }).findScreencopy other =
      if other = self.screencopy.nextFrame then some data else self.findScreencopy other := by
  show (self.screencopy.frames ++ [data]).find? _ = _
  rw [List.find?_append]
  change (self.findScreencopy other).or _ = _
  by_cases same : other = self.screencopy.nextFrame
  · have fresh : self.findScreencopy other = none := by
      rw [Option.eq_none_iff_forall_ne_some]
      exact fun found there => absurd (ledger.bounded there) (by omega)
    rw [fresh, if_pos same]
    simp [named, same]
  · have differs : data.id ≠ other := by omega
    rw [if_neg same]
    simp [differs]

theorem createFrame_ledger (ledger : CopyLedger history self) (manager output : Nat) (region : Option Rect) :
    CopyLedger (self.createFrameEffects manager output region ++ history) (self.createFrame manager output region).1 := by
  obtain ⟨data, named, idle, made, seen⟩ := createFrame_cases self manager output region
  rw [made, seen]
  have find := appendFrame_find ledger named (manager :: self.screencopy.captured) (self.screencopy.nextFrame + 1)
  have others : ∀ observation ∈ history, observation.frame ≠ self.screencopy.nextFrame :=
    fun observation member => Nat.ne_of_lt (ledger.known observation member)
  apply ledger.move self.screencopy.nextFrame
  · split
    · simp [CopyObservation.frame]
    · exact nofun
  · exact Nat.lt_succ_self _
  · exact Nat.le_succ _
  · intro other member
    rcases List.mem_append.mp member with old | new
    · exact Nat.lt_succ_of_lt (ledger.numbered other old)
    · rw [List.mem_singleton.mp new, named]
      exact Nat.lt_succ_self _
  · intro other differs
    rw [find, if_neg differs]
  · rw [find, if_pos rfl]
    exact FrameBooks.make others idle
  · split
    · exact ⟨fun member => others _ member rfl, ledger.afresh⟩
    · exact ledger.afresh

/-! ## Frames that go -/

theorem destroyScreencopy_ledger (ledger : CopyLedger history self) (frame : Nat) :
    CopyLedger (self.destroyEffects frame ++ history) (self.destroyScreencopy frame).1 := by
  have find := destroyScreencopy_find self frame
  have numbered : ∀ data ∈ (self.destroyScreencopy frame).1.screencopy.frames, data.id < self.screencopy.nextFrame :=
    fun data member => ledger.numbered data (List.mem_filter.mp member).1
  have kept := ledger.books frame
  unfold destroyEffects
  rcases found : self.findScreencopy frame with - | data
  · refine ⟨fun other => ?_, ledger.afresh, ledger.known, numbered⟩
    rw [find]
    by_cases same : other = frame
    · rw [if_pos same, same]
      rwa [found] at kept
    · rw [if_neg same]
      exact ledger.books other
  · rw [found] at kept
    have ended := kept.destroy
    dsimp only
    apply ledger.move frame
    · split
      · simp [CopyObservation.frame]
      · simp [CopyObservation.frame]
    · exact ledger.bounded found
    · exact Nat.le_refl _
    · exact numbered
    · intro other differs
      rw [find, if_neg differs]
    · rw [find, if_pos rfl]
      exact ended
    · split
      · exact ⟨trivial, ledger.afresh⟩
      · exact ⟨trivial, trivial, ledger.afresh⟩

/-! ## A copy -/

theorem queueCopy_numbered (ledger : CopyLedger history self) (frame buffer : Nat) :
    ∀ data ∈ (self.queueCopy frame buffer).screencopy.frames, data.id < self.screencopy.nextFrame := by
  have marked := updateScreencopy_numbered ledger frame markUsed fun _ => rfl
  unfold queueCopy
  dsimp only
  split
  · exact marked
  · intro data member
    obtain ⟨before, there, rfl⟩ := List.mem_map.mp member
    have numbered := marked before there
    split
    · exact numbered
    · exact numbered

theorem queueCopy_ledger {data : ScreencopyFrame} {seen : List CopyObservation} (ledger : CopyLedger history self)
    (found : self.findScreencopy frame = some data) (buffer : Nat)
    (about : ∀ observation ∈ seen, observation.frame = frame)
    (books : FrameBooks (seen ++ history) frame ((self.queueCopy frame buffer).findScreencopy frame))
    (afresh : Transition.Throughout Afresh (seen ++ history)) : CopyLedger (seen ++ history) (self.queueCopy frame buffer) := by
  apply ledger.move frame about ?_ ?_ ?_ ?_ books afresh
  · rw [queueCopy_next]
    exact ledger.bounded found
  · exact Nat.le_of_eq (queueCopy_next frame buffer).symm
  · rw [queueCopy_next]
    exact queueCopy_numbered ledger frame buffer
  · intro other differs
    rw [queueCopy_find]
    cases self.findScreencopy other <;> simp [differs]

theorem copies_iff (data : ScreencopyFrame) (withDamage : Bool) : self.copies host data withDamage = true ↔
    data.used = false ∧ (refused data = true →
      (if withDamage && !data.initial then self.queueFull else self.concludes host data) = false) := by
  unfold copies
  dsimp only
  generalize (if withDamage && !data.initial then self.queueFull else self.concludes host data) = ends
  cases data.used <;> cases refused data <;> cases ends <;> decide

/-- A copy that is granted keeps the books. -/
theorem requestCopy_ledger (ledger : CopyLedger history self) (withDamage : Bool)
    (granted : ∀ data, self.findScreencopy frame = some data → self.copies host data withDamage = true) :
    CopyLedger (self.requestCopyEffects host frame buffer withDamage ++ history)
      (self.requestCopy host frame buffer withDamage).1 := by
  unfold requestCopyEffects
  rcases found : self.findScreencopy frame with - | data
  · unfold requestCopy
    rw [found]
    exact ledger
  · obtain ⟨fresh, refusal⟩ := (copies_iff data withDamage).mp (granted data found)
    have kept := ledger.books frame
    rw [found] at kept
    have unserved : AnvilState.unserved data = true := by simp [AnvilState.unserved, fresh]
    obtain ⟨_, released, _⟩ := kept.unserved data rfl unserved
    have idle := kept.idle data rfl fresh
    -- Whatever follows, the buffer is handed over first.
    have handed := kept.hand fresh buffer
    have untouched : ∀ other, CopyObservation.released frame other ∉ CopyObservation.handed frame buffer :: history := by
      simpa using released
    have present : CopyObservation.destroyed frame ∉ CopyObservation.handed frame buffer :: history :=
      handed.present (by simp)
    have afresh : Transition.Throughout Afresh (.handed frame buffer :: history) := ⟨trivial, ledger.afresh⟩
    rw [requestCopy_state found fresh]
    dsimp only
    rw [fresh, if_neg Bool.false_ne_true]
    cases waits : withDamage && !data.initial with
    | true =>
      rw [waits, if_pos rfl] at refusal
      rw [if_pos rfl, if_pos rfl]
      cases full : self.queueFull with
      | true =>
        have service : Service frame buffer true [.failed frame, .released frame buffer] :=
          .concluded (.inr rfl) (.inl rfl)
        have served := handed.serve rfl rfl service fun refuses => full.symm.trans (refusal refuses)
        apply queueCopy_ledger ledger found
        · simp [CopyObservation.frame]
        · rw [queueCopy_find, found, Option.map_some, if_pos rfl, full, if_pos rfl]
          unfold markUsed
          rw [idle]
          exact served
        · exact service.afresh afresh untouched present
      | false =>
        apply queueCopy_ledger ledger found
        · simp [CopyObservation.frame]
        · rw [queueCopy_find, found, Option.map_some, if_pos rfl, full, if_neg Bool.false_ne_true]
          exact handed
        · exact afresh
    | false =>
      rw [waits, if_neg Bool.false_ne_true] at refusal
      have service := performCopyEffects_service self host data buffer
      rw [findScreencopy_some found] at service
      have served := handed.serve rfl rfl service refusal
      rw [if_neg Bool.false_ne_true, if_neg Bool.false_ne_true]
      apply ledger.move frame
      · intro observation member
        rcases List.mem_append.mp member with seen | asked
        · exact service.about observation seen
        · rw [List.mem_singleton.mp asked]
          rfl
      · exact ledger.bounded found
      · exact Nat.le_refl _
      · exact updateScreencopy_numbered ledger frame markUsed fun _ => rfl
      · exact fun other differs => findScreencopy_update self markUsed (fun _ => rfl) differs
      · rw [findScreencopy_change self frame frame markUsed fun _ => rfl, found, Option.map_some, if_pos rfl,
          List.append_assoc]
        unfold markUsed
        rw [idle]
        exact served
      · rw [List.append_assoc]
        exact service.afresh afresh untouched present

/-! ## The queue -/

section

variable {current : AnvilState × List CopyObservation}

theorem serveNext_concludes (host : Host) (current : AnvilState × List CopyObservation) (frame : Nat)
    (data : ScreencopyFrame) : (serveNext host current frame).1.concludes host data = current.1.concludes host data := by
  unfold serveNext
  split
  · rfl
  · split
    · rfl
    · rfl

theorem serveNext_ledger (ledger : CopyLedger (current.2 ++ history) current.1) (frame : Nat)
    (granted : ∀ data, current.1.findScreencopy frame = some data → data.pending.isSome = true → refused data = true →
      current.1.concludes host data = false) :
    CopyLedger ((serveNext host current frame).2 ++ history) (serveNext host current frame).1 := by
  unfold serveNext
  rcases found : current.1.findScreencopy frame with - | data
  · exact ledger
  · dsimp only
    rcases waits : data.pending with - | buffer
    · exact ledger
    · dsimp only
      have kept := ledger.books frame
      rw [found] at kept
      have used : data.used = true := by
        by_contra unused
        have idle := kept.idle data rfl (by simpa using unused)
        rw [waits] at idle
        cases idle
      have named : data.id = frame := findScreencopy_some found
      have service := performCopyEffects_service current.1 host data buffer
      rw [named] at service
      have unserved : AnvilState.unserved data = true := by simp [AnvilState.unserved, waits]
      obtain ⟨_, released, _⟩ := kept.unserved data rfl unserved
      rw [List.append_assoc]
      apply ledger.move frame service.about
      · exact ledger.bounded found
      · exact Nat.le_refl _
      · exact updateScreencopy_numbered ledger frame _ fun _ => rfl
      · exact fun other differs => findScreencopy_update current.1 _ (fun _ => rfl) differs
      · rw [findScreencopy_change _ _ _ (fun data : ScreencopyFrame => { data with pending := none }) (fun _ => rfl), found,
          Option.map_some, if_pos rfl]
        exact kept.serve waits used service (granted data found (by rw [waits]; rfl))
      · exact service.afresh ledger.afresh released (kept.present (by simp))

/-- Every frame of the queue is served in turn. -/
theorem serve_ledger (frames : List Nat) (ledger : CopyLedger (current.2 ++ history) current.1)
    (granted : ∀ frame ∈ frames, ∀ data, current.1.findScreencopy frame = some data → data.pending.isSome = true →
      refused data = true → current.1.concludes host data = false) :
    CopyLedger ((frames.foldl (serveNext host) current).2 ++ history) (frames.foldl (serveNext host) current).1 := by
  induction frames generalizing current with
  | nil => exact ledger
  | cons first frames ih =>
    apply ih (serveNext_ledger ledger first (granted first List.mem_cons_self))
    intro frame member data found waits refuses
    rw [serveNext_concludes]
    rw [serveNext_find] at found
    rcases before : current.1.findScreencopy frame with - | earlier
    · rw [before] at found
      cases found
    · rw [before, Option.map_some] at found
      by_cases same : frame = first
      · rw [if_pos same] at found
        cases found
        cases waits
      · rw [if_neg same] at found
        rw [← Option.some.inj found] at waits refuses ⊢
        exact granted frame (List.mem_cons_of_mem _ member) earlier before waits refuses

end

theorem processPending_ledger (host : Host) (ledger : CopyLedger history self)
    (granted : ∀ frame ∈ self.screencopy.pending, ∀ data, self.findScreencopy frame = some data →
      data.pending.isSome = true → refused data = true → self.concludes host data = false) :
    CopyLedger ((self.processPending host).2 ++ history) (self.processPending host).1 := by
  have emptied : CopyLedger history (self.setScreencopy { self.screencopy with pending := [] }) :=
    ⟨ledger.books, ledger.afresh, ledger.known, ledger.numbered⟩
  exact @serve_ledger host history (self.setScreencopy { self.screencopy with pending := [] }, []) self.screencopy.pending
    emptied granted

end AnvilState

end Luma.Compositor
