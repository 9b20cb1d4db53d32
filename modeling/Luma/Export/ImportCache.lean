import Luma.Export.ReceiverAnswers

/-! The images that the capture receiver copies frames from. The cache is searched by stream
and slot alone, keeps every image for good, and has no more than 64 places.
-/

set_option autoImplicit false

namespace Luma.Export.CaptureReceiver

open Luma.Library Luma.Library.Transition

/-- The image was exported by the process, for the stream and the slot, with this size. -/
def Exported (history : List ReceiverSighting) (source : CachedImport) : Prop :=
  ∃ frame, .arrived frame ∈ history ∧ frame.sender = source.sender ∧ frame.message.streamId = source.streamId ∧
    frame.message.slot = source.slot ∧ frame.message.width = source.width ∧ frame.message.height = source.height ∧
    frame.descriptors.head? = some source.image

/-- The stream no longer exists. -/
def Ended (history : List ReceiverSighting) (sender : Nat) (streamId : UInt64) : Prop :=
  .streamEnded sender streamId ∈ history

instance (history : List ReceiverSighting) (sender : Nat) (streamId : UInt64) : Decidable (Ended history sender streamId) :=
  inferInstanceAs (Decidable (_ ∈ _))

/-- The image is of the frame's own sender, stream and slot. -/
def OwnImage (source : CachedImport) (frame : Datagram) : Prop :=
  source.sender = frame.sender ∧ source.streamId = frame.message.streamId ∧ source.slot = frame.message.slot

/-- A frame is copied from the image that its sender exported, and no frame of a live stream
is refused while images of ended streams take the room. -/
def Rightful (event : ReceiverSighting) (earlier : List ReceiverSighting) : Prop :=
  match event with
  | .copied frame source => Exported earlier source ∧ OwnImage source frame
  | .refused frame imported => ¬Ended earlier frame.sender frame.message.streamId →
      ∀ source ∈ imported, ¬Ended earlier source.sender source.streamId
  | _ => True

/-- An accepted frame finds no other sender's image under its stream and slot, and when it
finds no image and the cache full, none in it is of an ended stream. -/
def Unmixed : Condition CaptureReceiver ReceiverInput ReceiverSighting := fun history self input =>
  match input with
  | .turn host => ∀ frame ∈ self.inbox.head?, self.options.accepts host.processes (self.readPid host) frame = true →
      (∀ source ∈ self.find frame, source.sender = frame.sender) ∧
        (self.find frame = none → importedSlots ≤ self.imported.length →
          ¬Ended history frame.sender frame.message.streamId →
          ∀ source ∈ self.imported, ¬Ended history source.sender source.streamId)
  | _ => True

instance : ∀ history self input, Decidable (Unmixed history self input)
  | history, self, .turn host => inferInstanceAs (Decidable (∀ frame ∈ self.inbox.head?,
      self.options.accepts host.processes (self.readPid host) frame = true →
        (∀ source ∈ self.find frame, source.sender = frame.sender) ∧
          (self.find frame = none → importedSlots ≤ self.imported.length →
            ¬Ended history frame.sender frame.message.streamId →
            ∀ source ∈ self.imported, ¬Ended history source.sender source.streamId)))
  | _, _, .send _ | _, _, .endStream _ _ | _, _, .encoderFails | _, _, .stop => .isTrue trivial

structure Sourced (history : List ReceiverSighting) (receiver : CaptureReceiver) : Prop where
  rightful : Throughout Rightful history
  cached : ∀ source ∈ receiver.imported, Exported history source
  waiting : ∀ frame ∈ receiver.inbox, .arrived frame ∈ history

variable {history seen : List ReceiverSighting} {self after : CaptureReceiver} {host : TurnHost}

theorem Exported.later {source : CachedImport} (exported : Exported history source) : Exported (seen ++ history) source := by
  obtain ⟨frame, known, rest⟩ := exported
  exact ⟨frame, List.mem_append_right seen known, rest⟩

/-- An event of no frame's image. -/
def plain : ReceiverSighting → Bool
  | .copied _ _ | .refused _ _ => false
  | _ => true

theorem nothing_plain : ∀ event ∈ ([] : List ReceiverSighting), plain event = true := nofun

theorem one_plain {event : ReceiverSighting} (known : plain event = true) : ∀ other ∈ [event], plain other = true := by
  rintro _ (_ | ⟨_, ⟨⟩⟩)
  exact known

namespace Sourced

theorem goes (sourced : Sourced history self) (plainly : ∀ event ∈ seen, plain event = true)
    (imported : ∀ source ∈ after.imported, source ∈ self.imported ∨ Exported (seen ++ history) source)
    (inbox : ∀ frame ∈ after.inbox, frame ∈ self.inbox ∨ .arrived frame ∈ seen) : Sourced (seen ++ history) after := by
  constructor
  case rightful =>
    refine Throughout.append (fun event member earlier => ?_) sourced.rightful
    have known := plainly event member
    cases event with
    | copied | refused => cases known
    | _ => trivial
  case cached =>
    intro source member
    rcases imported source member with before | now
    · exact (sourced.cached source before).later
    · exact now
  case waiting =>
    intro frame member
    rcases inbox frame member with before | now
    · exact List.mem_append_right seen (sourced.waiting frame before)
    · exact List.mem_append_left history now

/-- A turn that leaves the cache and the socket alone. -/
theorem stays (sourced : Sourced history self) (plainly : ∀ event ∈ seen, plain event = true)
    (imported : after.imported = self.imported) (inbox : after.inbox = self.inbox) : Sourced (seen ++ history) after :=
  sourced.goes plainly (fun _ member => .inl (imported ▸ member)) fun _ member => .inl (inbox ▸ member)

theorem startEncoder_kept (sourced : Sourced history self) (frame : Datagram) :
    Sourced history (self.startEncoder host frame) := by
  unfold startEncoder
  repeat' split
  all_goals exact sourced.stays nothing_plain rfl rfl

theorem copy_kept (sourced : Sourced history self) {frame : Datagram} {source : CachedImport}
    (exported : Exported history source) (own : OwnImage source frame) :
    Sourced ((self.copy host frame source).2 ++ history) (self.copy host frame source).1 := by
  unfold copy
  split
  · exact sourced.stays nothing_plain rfl rfl
  · split
    · exact ⟨⟨⟨exported, own⟩, sourced.rightful⟩, fun other member => (sourced.cached other member).later,
        fun other member => List.mem_cons_of_mem _ (sourced.waiting other member)⟩
    · exact sourced.stays nothing_plain rfl rfl
    · exact sourced.stays nothing_plain rfl rfl

theorem scheduleAck_kept (sourced : Sourced history self) (frame : Datagram) :
    Sourced ((self.scheduleAck host frame).2 ++ history) (self.scheduleAck host frame).1 := by
  unfold scheduleAck
  split
  · exact sourced.stays nothing_plain rfl rfl
  · exact sourced.stays (one_plain rfl) rfl rfl

theorem handle_kept (sourced : Sourced history self) {frame : Datagram} {source : CachedImport} (new : Bool)
    (exported : Exported history source) (own : OwnImage source frame) :
    Sourced ((self.handle host frame source new).2 ++ history) (self.handle host frame source new).1 := by
  unfold handle
  split
  · refine sourced.goes (one_plain rfl) (fun other member => .inl ?_) fun _ => .inl
    split at member
    · exact List.mem_of_mem_erase member
    · exact member
  · rw [List.append_assoc]
    exact ((sourced.startEncoder_kept frame).copy_kept exported own).scheduleAck_kept frame

/-- A new import is what the frame's message says of the frame's first descriptor. -/
theorem importImage_kept (sourced : Sourced history self) (host : TurnHost) {frame : Datagram} (arrived : .arrived frame ∈ history)
    (described : frame.descriptors ≠ []) :
    Sourced history (self.importImage host frame).1 ∧
      ∀ source ∈ (self.importImage host frame).2, Exported history source ∧ OwnImage source frame := by
  have exported : Exported history {
      streamId := frame.message.streamId, slot := frame.message.slot, width := frame.message.width
      height := frame.message.height, sender := frame.sender, image := frame.descriptors.headD 0 } := by
    refine ⟨frame, arrived, rfl, rfl, rfl, rfl, rfl, ?_⟩
    cases descriptors : frame.descriptors with
    | nil => exact absurd descriptors described
    | cons image rest => rfl
  unfold importImage
  dsimp only
  repeat' split
  all_goals first
    | exact ⟨sourced.stays nothing_plain rfl rfl, nofun⟩
    | skip
  refine ⟨⟨sourced.rightful, fun source member => ?_, sourced.waiting⟩, ?_⟩
  · rcases List.mem_append.mp member with before | new
    · exact sourced.cached source before
    · rw [List.mem_singleton.mp new]
      exact exported
  · rintro _ ⟨⟩
    exact ⟨exported, rfl, rfl, rfl⟩

theorem receive_kept (sourced : Sourced history self) {frame : Datagram} (arrived : .arrived frame ∈ history)
    (described : frame.descriptors ≠ []) (own : ∀ source ∈ self.find frame, source.sender = frame.sender)
    (live : self.find frame = none → importedSlots ≤ self.imported.length →
      ¬Ended history frame.sender frame.message.streamId →
      ∀ source ∈ self.imported, ¬Ended history source.sender source.streamId) :
    Sourced ((self.receive host frame).2 ++ history) (self.receive host frame).1 := by
  unfold receive
  split
  · rename_i source found
    have key := List.find?_some found
    simp only [Bool.and_eq_true, beq_iff_eq] at key
    exact sourced.handle_kept false (sourced.cached source (List.mem_of_find?_eq_some found)) ⟨own source found, key.1, key.2⟩
  · rename_i missing
    split
    · rename_i full
      exact ⟨⟨trivial, live missing full, sourced.rightful⟩, fun source member => (sourced.cached source member).later,
        fun other member => List.mem_append_right [acknowledge host frame, .refused frame self.imported]
          (sourced.waiting other member)⟩
    · obtain ⟨kept, new⟩ := sourced.importImage_kept host arrived described
      dsimp only
      split
      · exact kept.stays (one_plain rfl) rfl rfl
      · rename_i source made
        obtain ⟨exported, own⟩ := new source made
        exact kept.handle_kept true exported own

end Sourced

/-! ## Turns -/

theorem accepts_described {options : ReceiverOptions} {processes : ProcessTable} {expectedPid : Int} {frame : Datagram}
    (accepted : options.accepts processes expectedPid frame = true) : frame.descriptors ≠ [] := by
  simp only [ReceiverOptions.accepts, Bool.and_eq_true, beq_iff_eq] at accepted
  obtain ⟨⟨-, count⟩, -⟩ := accepted
  intro none
  rw [none] at count
  unfold VkExportMessage.descriptorCount at count
  split at count
  · cases count
  · split at count <;> cases count

/-- The receiver acknowledges frames, and nothing else. -/
def Acknowledges (seen : List ReceiverSighting) : Prop := ∀ event ∈ seen, ∃ frame reached, event = .acknowledged frame reached

theorem acknowledged_reverse {frames : List Datagram} : Acknowledges ((frames.map (acknowledge host)).reverse) := by
  intro event member
  obtain ⟨frame, -, rfl⟩ := List.mem_map.mp (List.mem_reverse.mp member)
  exact ⟨frame, _, rfl⟩

theorem retire_acknowledges_only : Acknowledges (self.retire host).2 := by
  intro event member
  obtain ⟨item, -, rfl⟩ := List.mem_map.mp (List.mem_reverse.mp member)
  exact ⟨item.1, _, rfl⟩

theorem Acknowledges.plainly (only : Acknowledges seen) : ∀ event ∈ seen, plain event = true := by
  intro event member
  obtain ⟨frame, reached, rfl⟩ := only event member
  rfl

theorem Acknowledges.ended (only : Acknowledges seen) {sender : Nat} {streamId : UInt64} :
    Ended (seen ++ history) sender streamId ↔ Ended history sender streamId := by
  refine ⟨fun ended => ?_, List.mem_append_right seen⟩
  rcases List.mem_append.mp ended with now | before
  · obtain ⟨_, _, same⟩ := only _ now
    cases same
  · exact before

namespace Sourced

theorem turn_kept (sourced : Sourced history self) (unmixed : Unmixed history self (.turn host)) :
    Sourced ((self.turn host).2 ++ history) (self.turn host).1 := by
  have retired : Sourced ((self.retire host).2 ++ history) (self.retire host).1 :=
    sourced.stays retire_acknowledges_only.plainly rfl rfl
  unfold turn
  split
  · exact sourced
  · split
    · exact sourced.stays acknowledged_reverse.plainly rfl rfl
    · dsimp only
      split
      · rw [List.append_assoc]
        exact retired.stays acknowledged_reverse.plainly rfl rfl
      · split
        · exact retired
        · split
          · exact retired
          · rename_i datagram rest inbox
            have member : datagram ∈ self.inbox := by rw [inbox]; exact List.mem_cons_self
            have read : Sourced ((self.retire host).2 ++ history)
                { (self.retire host).1 with inbox := rest, expectedPid := self.readPid host } := by
              refine ⟨retired.rightful, retired.cached, fun frame member => retired.waiting frame ?_⟩
              change frame ∈ self.inbox
              rw [inbox]
              exact List.mem_cons_of_mem _ member
            split
            · rename_i accepted
              obtain ⟨own, live⟩ := unmixed datagram (by rw [inbox]; rfl) accepted
              rw [List.append_assoc]
              refine read.receive_kept (retired.waiting datagram member) (accepts_described accepted) own ?_
              intro missing full alive source kept ended
              have alive := mt retire_acknowledges_only.ended.mpr alive
              exact live missing full alive source kept (retire_acknowledges_only.ended.mp ended)
            · exact read

theorem step_kept {input : ReceiverInput} (sourced : Sourced history self) (unmixed : Unmixed history self input) :
    Sourced ((step self input).2 ++ history) (step self input).1 := by
  cases input with
  | send datagram =>
    unfold step
    dsimp only
    split
    · exact sourced
    · refine sourced.goes (one_plain rfl) (fun _ => .inl) fun frame member => ?_
      rcases List.mem_append.mp member with before | new
      · exact .inl before
      · rw [List.mem_singleton.mp new]
        exact .inr List.mem_cons_self
  | endStream sender streamId => exact sourced.stays (one_plain rfl) rfl rfl
  | encoderFails | stop => exact sourced.stays nothing_plain rfl rfl
  | turn host => exact sourced.turn_kept unmixed

end Sourced

/-- While no frame finds another sender's image or a cache full of ended streams, every
frame is copied from the image that its sender exported for its stream and slot, with
that image's size, and none of a live stream is refused for images of ended ones. -/
theorem frames_from_own_images (run : Run step Unmixed Started history self) : Throughout Rightful history := by
  suffices sourced : Sourced history self from sourced.rightful
  induction run with
  | start begun =>
    obtain ⟨options, expectedPid, rfl⟩ := begun
    exact ⟨trivial, nofun, nofun⟩
  | step input _ unmixed ih => exact ih.step_kept unmixed

/-- A process of the recorded profile exports a frame of a stream. -/
def exportingAs (sender : Nat) (pid : Int) (streamId : UInt64) (slot : UInt32) : Datagram :=
  let first := exporting 1 slot
  { first with
    sender, credentials := some (pid, 1000), descriptors := [10 * sender, 10 * sender + 1]
    message := { first.message with streamId } }

/-- A receiver of the processes called `game` below process 50. -/
def profiled : CaptureReceiver :=
  { options := { expectedPidFile := false, expectedProcessName := some "game", euid := 1000 }, expectedPid := 50 }

def family : ProcessTable :=
  { comm := fun pid => if pid = 50 then some "launcher" else some "game", parent := fun _ => some 50 }

/-- Two processes use different streams. -/
def apart : List ReceiverInput :=
  [.send (exportingAs 7 51 1 0), .send (exportingAs 8 52 2 0), .send (exportingAs 7 51 1 0),
    .turn { processes := family }, .turn { processes := family }, .turn { processes := family }]

theorem frames_from_own_images_apart : Throughout Rightful (execute step profiled apart).2 := by
  have run := Run.execute apart (.start ⟨_, _, rfl⟩ : Run step Unmixed Started [] profiled) (by decide +kernel)
  rw [List.append_nil] at run
  exact frames_from_own_images run

/-- Two processes use the same stream. -/
def alike : List ReceiverInput :=
  [.send (exportingAs 7 51 1 0), .turn { processes := family }, .send (exportingAs 8 52 1 0), .turn { processes := family }]

/-- Sixteen swapchains come and go, and a seventeenth is created. -/
def recreated : List ReceiverInput :=
  ((List.range 64).flatMap fun index =>
    [.send (exportingAs 7 51 (UInt64.ofNat (index / 4)) (UInt32.ofNat (index % 4))), .turn { processes := family },
      .endStream 7 (UInt64.ofNat (index / 4))]) ++
    [.send (exportingAs 7 51 16 0), .turn { processes := family }]

/-- The event is of another sender's image, or of room that an ended stream takes. -/
def wrongful (event : ReceiverSighting) (earlier : List ReceiverSighting) : Bool :=
  match event with
  | .copied frame source => source.sender != frame.sender
  | .refused frame imported => !decide (Ended earlier frame.sender frame.message.streamId) &&
      imported.any fun source => decide (Ended earlier source.sender source.streamId)
  | _ => false

def anyWrongful : List ReceiverSighting → Bool
  | [] => false
  | event :: earlier => wrongful event earlier || anyWrongful earlier

theorem wrongful_not_rightful (wrong : anyWrongful history = true) : ¬Throughout Rightful history := by
  induction history with
  | nil => cases wrong
  | cons event earlier ih =>
    rintro ⟨rightful, before⟩
    rcases Bool.or_eq_true_iff.mp wrong with now | then_
    · cases event with
      | copied frame source => exact bne_iff_ne.mp now rightful.2.1
      | refused frame imported =>
        simp only [wrongful, Bool.and_eq_true, Bool.not_eq_true', decide_eq_false_iff_not, List.any_eq_true,
          decide_eq_true_eq] at now
        obtain ⟨live, source, member, ended⟩ := now
        exact rightful live source member ended
      | _ => cases now
    · exact ih then_ before

/-- A frame is copied from another process's image, and a seventeenth swapchain is refused. -/
theorem images_mixed_up :
    (∃ self, Run step unrestricted Started (execute step profiled alike).2 self ∧
      ¬Throughout Rightful (execute step profiled alike).2) ∧
    ∃ self, Run step unrestricted Started (execute step profiled recreated).2 self ∧
      ¬Throughout Rightful (execute step profiled recreated).2 := by
  have reached : ∀ inputs, Run step unrestricted Started (execute step profiled inputs).2 (execute step profiled inputs).1 := by
    intro inputs
    have run := Run.execute inputs (.start ⟨_, _, rfl⟩ : Run step unrestricted Started [] profiled)
      (permits_unrestricted _ _ _ _)
    rwa [List.append_nil] at run
  refine ⟨⟨_, reached alike, wrongful_not_rightful ?_⟩, ⟨_, reached recreated, wrongful_not_rightful ?_⟩⟩
  · decide +kernel
  · decide +kernel

end Luma.Export.CaptureReceiver
