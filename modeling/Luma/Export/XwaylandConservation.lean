import Luma.Export.XwaylandResources

/-! The Xwayland capture conserves its resources while no reply that is refused has descriptors. -/

set_option autoImplicit false

namespace Luma.Export.Xwayland

open Luma.Library

/-- The time of an admission. -/
def Deed.admission? : Deed → Option Nat
  | .admitted now => some now.toNat
  | _ => none

abbrev admissions (history : List Deed) : List Nat := history.filterMap Deed.admission?

/-- The reply is not refused, or has no descriptors. -/
def BuffersReply.Harmless (self : BuffersReply) : Prop :=
  self.planes.length = 1 ∧ self.width ≠ 0 ∧ self.height ≠ 0 ∨ self.planes = []

namespace Capture

variable {self : Capture} {hand : Option Nat} {history : List Deed} {host : Host} {place : SlotIndex} {image : Nat}

/-- The books are in order, and images stand only behind fences in a display that is open. -/
structure Kept (hand : Option Nat) (capture : Capture) (history : List Deed) : Prop where
  books : Books capture.slots hand capture.pending capture.nextName history
  tidy : capture.stopping = false → ∀ place, (capture.slots place).fence = none → capture.slots place = {}
  shut : capture.egl = none → ∀ place, capture.slots place = {}

/-- An image stands in its slot without a fence. -/
structure Filled (place : SlotIndex) (image : Nat) (capture : Capture) (history : List Deed) : Prop where
  books : Books capture.slots none capture.pending capture.nextName history
  stands : capture.slots place = { image := some image }
  others : ∀ other, other ≠ place → (capture.slots other).fence = none → capture.slots other = {}
  opened : capture.egl ≠ none

/-! ## Slots -/

theorem tidy_update {slots : SlotIndex → ImportSlot} {slot : ImportSlot}
    (others : ∀ other, other ≠ place → (slots other).fence = none → slots other = {})
    (here : slot.fence = none → slot = {}) (other : SlotIndex)
    (unfenced : (Function.update slots place slot other).fence = none) :
    Function.update slots place slot other = {} := by
  by_cases same : other = place
  · rw [same, Function.update_self] at unfenced ⊢
    exact here unfenced
  · rw [Function.update_of_ne same] at unfenced ⊢
    exact others other same unfenced

theorem Kept.releases (kept : Kept hand self history)
    (settled : ∀ fence, (self.slots place).fence = some fence → fence ∉ self.pending) :
    Kept hand (self.releaseSlot place).1 ((self.releaseSlot place).2 ++ history) := by
  refine ⟨kept.books.releases settled, ?_, ?_⟩
  · intro running
    exact tidy_update (fun other _ => kept.tidy running other) fun _ => rfl
  · intro closed other
    show Function.update self.slots place {} other = {}
    by_cases same : other = place
    · rw [same, Function.update_self]
    · rw [Function.update_of_ne same]
      exact kept.shut closed other

theorem Filled.releases (filled : Filled place image self history) :
    Kept none (self.releaseSlot place).1 ((self.releaseSlot place).2 ++ history) := by
  refine ⟨filled.books.releases (by simp [filled.stands]), fun _ => ?_, fun closed => absurd closed filled.opened⟩
  exact tidy_update filled.others fun _ => rfl

/-- What looking for a slot leaves. -/
structure Available (hand : Option Nat) (self : Capture) (history : List Deed) (found : Option SlotIndex × Done) :
    Prop where
  kept : Kept hand found.2.1 (found.2.2 ++ history)
  empty : ∀ place, found.1 = some place → found.2.1.slots place = {}
  rest : found.2.1 = { self with slots := found.2.1.slots }
  destroys : ∀ deed ∈ found.2.2, ∃ image, deed = .destroyed image

theorem releaseSlot_destroys (self : Capture) (place : SlotIndex) :
    ∀ deed ∈ (self.releaseSlot place).2, ∃ image, deed = .destroyed image := by
  intro deed there
  unfold releaseSlot at there
  rw [Option.mem_toList, Option.map_eq_some_iff] at there
  obtain ⟨image, -, rfl⟩ := there
  exact ⟨image, rfl⟩

theorem availableSlot_available (kept : Kept hand self history) (running : self.stopping = false) (host : Host)
    (places : List SlotIndex) : Available hand self history (self.availableSlot host places) := by
  induction places with
  | nil => exact ⟨kept, by simp [availableSlot], rfl, by simp [availableSlot]⟩
  | cons place rest ih =>
    unfold availableSlot
    split
    · rename_i unfenced
      refine ⟨kept, ?_, rfl, by simp⟩
      rintro _ ⟨⟩
      exact kept.tidy running place unfenced
    -- A slot is taken over only when the fence in it has signalled.
    · rename_i fence fenced
      split
      · rename_i signalled
        refine ⟨kept.releases ?_, ?_, rfl, releaseSlot_destroys self place⟩
        · intro other same
          cases fenced.symm.trans same
          unfold clientWaitSync at signalled
          simpa using (Bool.and_eq_true_iff.mp signalled).1
        · rintro _ ⟨⟩
          exact Function.update_self ..
      · exact ih

/-! ## Copies -/

theorem submit_kept (filled : Filled place image self history) :
    Kept none (self.submit host place image).1 ((self.submit host place image).2 ++ history) := by
  unfold submit
  split
  · dsimp only
    split
    · refine ⟨filled.books.fences filled.stands, fun _ => ?_, fun closed => absurd closed filled.opened⟩
      exact tidy_update filled.others (by simp)
    -- Without a fence nothing tells when the copy is done, and the image is destroyed at once.
    · have counted : Filled place image { self with encoded := self.encoded + 1 } history :=
        ⟨filled.books, filled.stands, filled.others, filled.opened⟩
      exact counted.releases
  · have finished : Filled place image { self with pending := [] } (.finished :: history) :=
      ⟨filled.books.finishes, filled.stands, filled.others, filled.opened⟩
    have released := finished.releases
    rw [List.append_assoc]
    exact ⟨released.books, released.tidy, released.shut⟩

theorem startEncoder_kept (filled : Filled place image self history) :
    Kept none (self.startEncoder host place image).1 ((self.startEncoder host place image).2 ++ history) := by
  unfold startEncoder
  split
  · exact submit_kept filled
  · dsimp only
    split
    · exact submit_kept ⟨filled.books, filled.stands, filled.others, filled.opened⟩
    · refine ⟨?_, ?_, fun closed => absurd closed filled.opened⟩
      · exact filled.books.quietly (by simp [complain, Deed.quiet]) (Nat.le_refl _) (by simp [complain])
      · intro running
        cases running

theorem fillSlot_kept (host : Host) (kept : Kept (some image) self history) (running : self.stopping = false)
    (empty : self.slots place = {}) (opened : self.egl ≠ none) :
    Kept none (self.fillSlot host place image).1 ((self.fillSlot host place image).2 ++ history) := by
  have filled : Filled place image (self.setSlot place { self.slots place with image := some image }) history := by
    have named : ({ self.slots place with image := some image } : ImportSlot) = { image := some image } := by rw [empty]
    rw [named]
    refine ⟨kept.books.fills empty, Function.update_self .., ?_, opened⟩
    intro other apart unfenced
    change (Function.update self.slots place _ other).fence = none at unfenced
    show Function.update self.slots place _ other = {}
    rw [Function.update_of_ne apart] at unfenced ⊢
    exact kept.tidy running other unfenced
  unfold fillSlot
  dsimp only
  split
  · exact startEncoder_kept filled
  · have released := filled.releases
    exact ⟨released.books, released.tidy, released.shut⟩

/-! ## A frame -/

/-- Descriptors come and go without a trace in the rest. -/
theorem Kept.quietly (kept : Kept hand self history) {deeds : List Deed} (quiet : ∀ deed ∈ deeds, deed.quiet = true)
    (received : ∀ fd, .received fd ∉ deeds) : Kept hand self (deeds ++ history) :=
  ⟨kept.books.quietly quiet (Nat.le_refl _) fun fd there => absurd there (received fd), kept.tidy, kept.shut⟩

theorem Kept.closing (kept : Kept hand self history) (fd : Nat) : Kept hand self (.closed fd :: history) :=
  kept.quietly (show ∀ deed ∈ [Deed.closed fd], deed.quiet = true by simp [Deed.quiet]) (by simp)

theorem Kept.dropPool (kept : Kept hand self history) : Kept hand self.dropPool history :=
  ⟨kept.books, kept.tidy, kept.shut⟩

theorem Kept.dropExport (kept : Kept hand self history) : Kept hand self.dropExport history :=
  ⟨kept.books, kept.tidy, kept.shut⟩

/-- An image at hand gets into a slot, or is destroyed. -/
theorem importFrame_kept (host : Host) (egl : EglState) (frame : ExportedFrame) (kept : Kept hand self history)
    (running : self.stopping = false) (opened : self.egl ≠ none) :
    Kept none (self.importFrame host egl frame hand).1 ((self.importFrame host egl frame hand).2 ++ history) := by
  have found := availableSlot_available kept running host (List.finRange kImportSlots)
  obtain ⟨kept', empty, rest, -⟩ := found
  unfold importFrame
  generalize self.availableSlot host (List.finRange kImportSlots) = found at kept' empty rest ⊢
  obtain ⟨place?, after, deeds⟩ := found
  dsimp only at kept' empty rest ⊢
  have running' : after.stopping = false := by rw [rest]; exact running
  have opened' : after.egl ≠ none := by rw [rest]; exact opened
  -- Without a free slot the image at hand has to go, and with one it is put there.
  cases place? with
  | none =>
    dsimp only
    cases hand with
    | none => exact (kept'.closing frame.fd).dropPool
    | some image =>
      have dropped : Kept none after (.destroyed image :: (deeds ++ history)) :=
        ⟨kept'.books.drops, kept'.tidy, kept'.shut⟩
      exact (dropped.closing frame.fd).dropPool
  | some place =>
    cases hand with
    | some image =>
      have filled := fillSlot_kept host (kept'.closing frame.fd) running' (empty place rfl) opened'
      dsimp only
      rw [List.append_assoc]
      exact filled
    | none =>
      dsimp only
      split
      · have created : Kept (some after.nextName) after.createImage.1
            (.imported after.nextName :: (deeds ++ history)) :=
          ⟨kept'.books.creates, kept'.tidy, kept'.shut⟩
        have filled := fillSlot_kept host (created.closing frame.fd) running' (empty place rfl) opened'
        rw [List.append_assoc]
        exact filled
      · exact (kept'.closing frame.fd).dropExport

theorem openDisplay_kept (host : Host) (frame : ExportedFrame) (kept : Kept none self history)
    (running : self.stopping = false) :
    Kept none (self.openDisplay host frame).1 ((self.openDisplay host frame).2 ++ history) := by
  unfold openDisplay
  split
  · rename_i egl opened
    exact importFrame_kept host egl frame kept running (by simp [opened])
  · rename_i closed
    split
    · refine ⟨?_, ?_, kept.shut⟩
      · refine kept.books.quietly (by simp [complain, Deed.quiet]) (Nat.le_refl _) (by simp [complain])
      · intro running
        cases running
    · rename_i egl _
      have created : Kept (some self.nextName) { self with egl := some egl }.createImage.1
          (.imported self.nextName :: history) :=
        ⟨kept.books.creates, kept.tidy, fun closed => by cases closed⟩
      have imported := importFrame_kept host egl frame created running (by simp [createImage])
      dsimp only
      rw [List.append_assoc]
      exact imported

/-! ## What one capture comes to -/

def settled (self : Capture) : Nat := self.encoded + self.exportDrops + self.poolDrops

/-- The capture is counted or complained about, and nothing else is heard of it but what it does with descriptors. -/
structure Outcome (before : Capture) (result : Done) (handles : List (HandleEvent Nat)) : Prop where
  nextDue : result.1.nextDue = before.nextDue
  admitted : result.1.admitted = before.admitted
  left : result.1.left = before.left
  counted : result.1.settled = before.settled + 1 ∨ ∃ message, .complained message ∈ result.2
  descriptors : descriptors result.2 = handles
  silent : admissions result.2 = []

/-- The books that an outcome is about. -/
structure SameBooks (before after : Capture) : Prop where
  nextDue : after.nextDue = before.nextDue
  admitted : after.admitted = before.admitted
  left : after.left = before.left
  settled : after.settled = before.settled

theorem Outcome.after {before middle : Capture} {result : Done} {handles : List (HandleEvent Nat)}
    (outcome : Outcome middle result handles) (same : SameBooks before middle) (deeds : List Deed)
    (silent : admissions deeds = []) :
    Outcome before (result.1, result.2 ++ deeds) (handles ++ Xwayland.descriptors deeds) where
  nextDue := outcome.nextDue.trans same.nextDue
  admitted := outcome.admitted.trans same.admitted
  left := outcome.left.trans same.left
  counted := by
    rcases outcome.counted with counted | ⟨message, complained⟩
    · exact .inl (counted.trans (congrArg (· + 1) same.settled))
    · exact .inr ⟨message, List.mem_append_left _ complained⟩
  descriptors := by
    rw [Xwayland.descriptors, List.filterMap_append]
    exact congrArg (· ++ _) outcome.descriptors
  silent := by
    rw [admissions, List.filterMap_append, List.append_eq_nil_iff]
    exact ⟨outcome.silent, silent⟩

theorem Outcome.of_same {before middle : Capture} {result : Done} {handles : List (HandleEvent Nat)}
    (outcome : Outcome middle result handles) (same : SameBooks before middle) : Outcome before result handles := by
  have whole := outcome.after same [] rfl
  rw [List.append_nil, show Xwayland.descriptors [] = [] from rfl, List.append_nil] at whole
  exact whole

@[simp] theorem descriptors_releaseSlot (self : Capture) (place : SlotIndex) :
    descriptors (self.releaseSlot place).2 = [] := by
  unfold releaseSlot
  cases (self.slots place).image <;> rfl

@[simp] theorem admissions_releaseSlot (self : Capture) (place : SlotIndex) :
    admissions (self.releaseSlot place).2 = [] := by
  unfold releaseSlot
  cases (self.slots place).image <;> rfl

theorem submit_outcome (self : Capture) (host : Host) (place : SlotIndex) (image : Nat) :
    Outcome self (self.submit host place image) [] := by
  unfold submit
  split
  · dsimp only
    split
    · exact ⟨rfl, rfl, rfl, .inl (by simp [settled, setSlot]; omega), rfl, rfl⟩
    · exact ⟨rfl, rfl, rfl, .inl (by simp [settled, releaseSlot, setSlot]; omega), descriptors_releaseSlot _ _,
        admissions_releaseSlot _ _⟩
  · refine ⟨rfl, rfl, rfl, .inl rfl, ?_, ?_⟩
    · rw [descriptors, List.filterMap_append, show List.filterMap _ _ = [] from descriptors_releaseSlot _ _]
      rfl
    · rw [admissions, List.filterMap_append, show List.filterMap _ _ = [] from admissions_releaseSlot _ _]
      rfl

theorem startEncoder_outcome (self : Capture) (host : Host) (place : SlotIndex) (image : Nat) :
    Outcome self (self.startEncoder host place image) [] := by
  unfold startEncoder
  split
  · exact submit_outcome self host place image
  · dsimp only
    split
    · exact (submit_outcome _ host place image).of_same ⟨rfl, rfl, rfl, rfl⟩
    · exact ⟨rfl, rfl, rfl, .inr ⟨_, List.mem_cons_self⟩, rfl, rfl⟩

theorem fillSlot_outcome (self : Capture) (host : Host) (place : SlotIndex) (image : Nat) :
    Outcome self (self.fillSlot host place image) [] := by
  unfold fillSlot
  dsimp only
  split
  · exact (startEncoder_outcome _ host place image).of_same ⟨rfl, rfl, rfl, rfl⟩
  · refine ⟨rfl, rfl, rfl, .inl ?_, descriptors_releaseSlot _ _, admissions_releaseSlot _ _⟩
    simp only [settled, releaseSlot, setSlot, Capture.dropExport]
    omega

theorem destroys_hidden {Shown : Type} {shows : Deed → Option Shown} {deeds : List Deed}
    (destroys : ∀ deed ∈ deeds, ∃ image, deed = .destroyed image) (hidden : ∀ image, shows (.destroyed image) = none) :
    deeds.filterMap shows = [] := by
  rw [List.filterMap_eq_nil_iff]
  intro deed there
  obtain ⟨image, rfl⟩ := destroys deed there
  exact hidden image

theorem destroys_quietly {deeds : List Deed} (destroys : ∀ deed ∈ deeds, ∃ image, deed = .destroyed image) :
    descriptors deeds = [] ∧ admissions deeds = [] :=
  ⟨destroys_hidden destroys fun _ => rfl, destroys_hidden destroys fun _ => rfl⟩

theorem availableSlot_destroys (self : Capture) (host : Host) (places : List SlotIndex) :
    SameBooks self (self.availableSlot host places).2.1 ∧
      ∀ deed ∈ (self.availableSlot host places).2.2, ∃ image, deed = .destroyed image := by
  induction places with
  | nil => exact ⟨⟨rfl, rfl, rfl, rfl⟩, by simp [availableSlot]⟩
  | cons place rest ih =>
    unfold availableSlot
    split
    · exact ⟨⟨rfl, rfl, rfl, rfl⟩, by simp⟩
    · split
      · exact ⟨⟨rfl, rfl, rfl, rfl⟩, releaseSlot_destroys self place⟩
      · exact ih

/-- The descriptor of the frame is closed, whatever comes of it. -/
theorem importFrame_outcome (self : Capture) (host : Host) (egl : EglState) (frame : ExportedFrame)
    (image : Option Nat) : Outcome self (self.importFrame host egl frame image) [.closed frame.fd] := by
  obtain ⟨same, destroys⟩ := availableSlot_destroys self host (List.finRange kImportSlots)
  obtain ⟨handles, silent⟩ := destroys_quietly destroys
  unfold importFrame
  generalize self.availableSlot host (List.finRange kImportSlots) = found at same handles silent ⊢
  obtain ⟨place?, after, deeds⟩ := found
  dsimp only at same handles silent ⊢
  have closed : descriptors (.closed frame.fd :: deeds) = [.closed frame.fd] := congrArg (_ :: ·) handles
  cases place? with
  | none =>
    have dropped : after.dropPool.settled = self.settled + 1 := congrArg (· + 1) same.settled
    cases image with
    | none => exact ⟨same.nextDue, same.admitted, same.left, .inl dropped, closed, silent⟩
    | some image => exact ⟨same.nextDue, same.admitted, same.left, .inl dropped, closed, silent⟩
  | some place =>
    cases image with
    | some image =>
      have filled := (fillSlot_outcome after host place image).after same (.closed frame.fd :: deeds) silent
      rw [closed] at filled
      exact filled
    | none =>
      dsimp only
      split
      · have filled := (fillSlot_outcome after.createImage.1 host place after.nextName).after
          (show SameBooks self _ from ⟨same.nextDue, same.admitted, same.left, same.settled⟩)
          (.closed frame.fd :: .imported after.nextName :: deeds) silent
        rw [show descriptors (.closed frame.fd :: .imported after.nextName :: deeds) = [.closed frame.fd] from closed]
          at filled
        exact filled
      · have dropped : after.dropExport.settled = self.settled + 1 := by
          have before := same.settled
          simp only [settled, Capture.dropExport] at before ⊢
          omega
        exact ⟨same.nextDue, same.admitted, same.left, .inl dropped, closed, silent⟩

theorem openDisplay_outcome (self : Capture) (host : Host) (frame : ExportedFrame) :
    Outcome self (self.openDisplay host frame) [.closed frame.fd] := by
  unfold openDisplay
  split
  · exact importFrame_outcome self host _ frame none
  · split
    · exact ⟨rfl, rfl, rfl, .inr ⟨_, List.mem_cons_self⟩, rfl, rfl⟩
    · rename_i egl _
      have imported := importFrame_outcome { self with egl := some egl }.createImage.1 host egl frame
        (some self.nextName)
      exact imported.after (show SameBooks self _ from ⟨rfl, rfl, rfl, rfl⟩) [.imported self.nextName] rfl

/-! ## Replies -/

/-- What exporting a frame leaves: names for the descriptors of the reply, the first of which is the frame's. -/
structure Exported (before : Capture) (host : Host) (exported : Option ExportedFrame × Done) (count : Nat) : Prop where
  result : exported.2 = ({ before with nextName := before.nextName + count },
    ((List.range' before.nextName count).map Deed.received).reverse)
  frame : ∀ frame, exported.1 = some frame → count = 1 ∧ frame.fd = before.nextName
  nothing : (host.named = true → ∀ reply, host.reply = some reply → reply.Harmless) → exported.1 = none → count = 0

theorem exportWindowFrame_exported (self : Capture) (host : Host) :
    ∃ count, Exported self host (self.exportWindowFrame host) count := by
  unfold exportWindowFrame
  split
  · exact ⟨0, rfl, by simp, fun _ _ => rfl⟩
  · rename_i named
    split
    · exact ⟨0, rfl, by simp, fun _ _ => rfl⟩
    · rename_i reply answered
      refine ⟨reply.planes.length, ?_⟩
      dsimp only
      split
      · rename_i plane planes
        split
        · rename_i empty
          refine ⟨rfl, by simp, fun harmless _ => ?_⟩
          rcases harmless (by simpa using named) reply answered with ⟨-, wide, high⟩ | none_
          · exact absurd empty (not_or.mpr ⟨wide, high⟩)
          · exact congrArg List.length none_
        · refine ⟨rfl, ?_, fun _ gone => by cases gone⟩
          rintro frame ⟨⟩
          exact ⟨congrArg List.length planes, rfl⟩
      -- A reply of no or several planes is refused, and what it carries stays open.
      · rename_i several
        refine ⟨rfl, by simp, fun harmless _ => ?_⟩
        rcases harmless (by simpa using named) reply answered with ⟨one, -⟩ | none_
        · obtain ⟨plane, planes⟩ := List.length_eq_one_iff.mp one
          exact absurd planes (several plane)
        · exact congrArg List.length none_

theorem Exported.kept {exported : Option ExportedFrame × Done} {count : Nat}
    (exports : Exported self host exported count) (kept : Kept none self history) :
    Kept none exported.2.1 (exported.2.2 ++ history) := by
  rw [exports.result]
  refine ⟨kept.books.quietly ?_ (Nat.le_add_right _ _) ?_, kept.tidy, kept.shut⟩
  · intro deed there
    rw [List.mem_reverse, List.mem_map] at there
    obtain ⟨fd, -, rfl⟩ := there
    rfl
  · intro fd there
    rw [List.mem_reverse, List.mem_map] at there
    obtain ⟨_, inside, ⟨⟩⟩ := there
    exact (List.mem_range'_1.mp inside).2

theorem captureFrame_kept (target : Target) (host : Host) (kept : Kept none self history)
    (running : self.stopping = false) :
    Kept none (self.captureFrame target host).1 ((self.captureFrame target host).2 ++ history) := by
  obtain ⟨count, exports⟩ := exportWindowFrame_exported self host
  have exported := exports.kept kept
  have running' : (self.exportWindowFrame host).2.1.stopping = false := by
    rw [exports.result]
    exact running
  unfold captureFrame
  dsimp only
  split
  · exact exported.dropExport
  · rename_i frame _
    split
    · exact (exported.closing frame.fd).dropExport
    · have opened := openDisplay_kept host frame exported running'
      rw [List.append_assoc]
      exact opened

/-- A frame's descriptor is received and closed, or none is. -/
theorem captureFrame_outcome (self : Capture) (target : Target) (host : Host)
    (harmless : host.named = true → ∀ reply, host.reply = some reply → reply.Harmless) :
    Outcome self (self.captureFrame target host) [] ∨
      Outcome self (self.captureFrame target host) [.closed self.nextName, .opened self.nextName] := by
  obtain ⟨count, result, frames, nothing⟩ := exportWindowFrame_exported self host
  unfold captureFrame
  dsimp only
  rw [result]
  split
  · rename_i none_
    rw [nothing harmless none_]
    left
    refine ⟨rfl, rfl, rfl, .inl ?_, rfl, rfl⟩
    simp only [settled, Capture.dropExport]
    omega
  · rename_i frame some_
    obtain ⟨rfl, named⟩ := frames frame some_
    right
    split
    · refine ⟨rfl, rfl, rfl, .inl ?_, ?_, rfl⟩
      · simp only [settled, Capture.dropExport]
        omega
      · rw [named]
        rfl
    · have opened := openDisplay_outcome { self with nextName := self.nextName + 1 } host frame
      have whole := opened.after (show SameBooks self _ from ⟨rfl, rfl, rfl, rfl⟩) [.received self.nextName] rfl
      rw [named] at whole
      exact whole

end Capture

end Luma.Export.Xwayland
