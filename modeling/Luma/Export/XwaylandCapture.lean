import Mathlib.Algebra.Group.Nat.Defs
import Mathlib.Logic.Function.Basic
import Luma.Library.Transition

/-! The loop of the Xwayland capture.

Each completed present of the window may be captured: its pixmap is exported, imported as an image into a slot and
copied by the encoder. A slot keeps its image until the fence behind the copy has signalled. Descriptors, images and
fences are named by numbers that are never used twice.
-/

set_option autoImplicit false

namespace Luma.Export.Xwayland

open Luma.Library

abbrev kImportSlots : Nat := 8

abbrev SlotIndex := Fin kImportSlots

/-- The arguments and the size of the window, as checked before the loop. -/
structure Target where
  fps : Nat
  sourceWidth : Nat
  sourceHeight : Nat
  rate : 30 ≤ fps ∧ fps ≤ 480
  size : 2 ≤ sourceWidth ∧ 2 ≤ sourceHeight

def Target.interval (self : Target) : UInt64 := UInt64.ofNat (1000000000 / self.fps)

/-! ## The X server, the driver and the encoder -/

inductive Fourcc where
  | argb8888 | xrgb8888
  deriving DecidableEq

structure Plane where
  stride : Nat
  offset : Nat
  deriving DecidableEq

/-- The answer about the buffers of a pixmap. A descriptor comes with every plane. -/
structure BuffersReply where
  width : Nat
  height : Nat
  depth : Nat
  modifier : Nat
  planes : List Plane
  deriving DecidableEq

structure ExportedFrame where
  width : Nat
  height : Nat
  fourcc : Fourcc
  stride : Nat
  offset : Nat
  modifier : Nat
  fd : Nat
  deriving DecidableEq

inductive EglAttribute where
  | width | height | linuxDrmFourcc (code : Fourcc) | plane0Fd | plane0Offset | plane0Pitch
  | plane0ModifierLo | plane0ModifierHi
  deriving DecidableEq

structure EglState where
  modifierImport : Bool
  deriving DecidableEq

/-- What a driver says of an import. -/
abbrev CreateImage := List (EglAttribute × Nat) → Bool

/-- A display that is tried, and whether a context can be made on it. -/
structure Candidate where
  context : Bool
  egl : EglState
  createImage : CreateImage

/-- The answers during one capture. -/
structure Host where
  /-- The window's pixmap is named. -/
  named : Bool := true
  reply : Option BuffersReply
  candidates : List Candidate := []
  createImage : CreateImage := fun _ => true
  /-- Asking for a fence may fail, and then says nothing of it. -/
  waitFails : Nat → Bool := fun _ => false
  complete : Bool := true
  /-- The encoder is created, and becomes ready. -/
  encoder : Option Bool := some true
  submitted : Bool := true
  fenced : Bool := true

inductive Deed where
  | admitted (now : UInt64)
  | received (fd : Nat)
  | closed (fd : Nat)
  | imported (image : Nat)
  | destroyed (image : Nat)
  /-- The fence behind the copy from an image. -/
  | fenced (image fence : Nat)
  | signalled (fence : Nat)
  /-- `glFinish`. -/
  | finished
  | complained (message : String)
  deriving DecidableEq

/-! ## The loop -/

structure ImportSlot where
  image : Option Nat := none
  fence : Option Nat := none
  deriving DecidableEq

structure Capture where
  egl : Option EglState := none
  slots : SlotIndex → ImportSlot := fun _ => {}
  encoder : Bool := false
  nextDue : UInt64 := 0
  presents : Nat := 0
  admitted : Nat := 0
  encoded : Nat := 0
  exportDrops : Nat := 0
  poolDrops : Nat := 0
  stopping : Bool := false
  /-- The loop is over, and everything is released. -/
  left : Bool := false
  /-- The fences that have not signalled. -/
  pending : List Nat := []
  nextName : Nat := 0

inductive Input where
  /-- The window presents a pixmap. -/
  | present (now : UInt64) (host : Host)
  | otherEvent
  | signal (fence : Nat)
  | stop
  /-- The end of the loop, when it is stopped, or waiting for events or the connection fails. -/
  | leave

/-- The state after a part of the loop, with its deeds, newest first. -/
abbrev Done := Capture × List Deed

def modifierAttributes (egl : EglState) (frame : ExportedFrame) : List (EglAttribute × Nat) :=
  if egl.modifierImport = true ∧ frame.modifier ≠ 2 ^ 64 - 1 then
    [(.plane0ModifierLo, frame.modifier % 2 ^ 32), (.plane0ModifierHi, frame.modifier / 2 ^ 32)]
  else []

def importAttributes (egl : EglState) (frame : ExportedFrame) : List (EglAttribute × Nat) :=
  (.width, frame.width) :: (.height, frame.height) :: (.linuxDrmFourcc frame.fourcc, 0) :: (.plane0Fd, frame.fd) ::
    (.plane0Offset, frame.offset) :: (.plane0Pitch, frame.stride) :: modifierAttributes egl frame

/-- The first display that has a context and imports the frame. -/
def initializeForImage (host : Host) (frame : ExportedFrame) : Option EglState :=
  (host.candidates.find? fun candidate =>
    candidate.context && candidate.createImage (importAttributes candidate.egl frame)).map (·.egl)

namespace Capture

def setSlot (self : Capture) (place : SlotIndex) (slot : ImportSlot) : Capture :=
  { self with slots := Function.update self.slots place slot }

def releaseSlot (self : Capture) (place : SlotIndex) : Done :=
  (self.setSlot place {}, ((self.slots place).image.map Deed.destroyed).toList)

def clientWaitSync (self : Capture) (host : Host) (fence : Nat) : Bool :=
  !self.pending.contains fence && !host.waitFails fence

/-- The first slot without a fence, or whose fence has signalled. -/
def availableSlot (self : Capture) (host : Host) : List SlotIndex → Option SlotIndex × Done
  | [] => (none, self, [])
  | place :: rest =>
      match (self.slots place).fence with
      | none => (some place, self, [])
      | some fence =>
          if self.clientWaitSync host fence then (some place, self.releaseSlot place)
          else self.availableSlot host rest

/-- A reply that is refused is freed with whatever descriptors it has. -/
def exportWindowFrame (self : Capture) (host : Host) : Option ExportedFrame × Done :=
  if host.named = false then (none, self, [])
  else
    match host.reply with
    | none => (none, self, [])
    | some reply =>
        let fds := List.range' self.nextName reply.planes.length
        let received : Done :=
          ({ self with nextName := self.nextName + reply.planes.length }, (fds.map Deed.received).reverse)
        match reply.planes with
        | [plane] =>
            -- This and the other refusal free the reply and leave its descriptors open.
            if reply.width = 0 ∨ reply.height = 0 then (none, received)
            else
              (some {
                width := reply.width
                height := reply.height
                fourcc := if reply.depth = 32 then .argb8888 else .xrgb8888
                stride := plane.stride
                offset := plane.offset
                modifier := reply.modifier
                fd := self.nextName }, received)
        | _ => (none, received)

def dropExport (self : Capture) : Capture := { self with exportDrops := self.exportDrops + 1 }

def dropPool (self : Capture) : Capture := { self with poolDrops := self.poolDrops + 1 }

/-- A message, after which the loop stops. -/
def complain (self : Capture) (message : String) : Done := ({ self with stopping := true }, [.complained message])

/-- The copy is submitted, and a fence put behind it. -/
def submit (self : Capture) (host : Host) (place : SlotIndex) (image : Nat) : Done :=
  if host.submitted then
    let encoded := { self with encoded := self.encoded + 1 }
    if host.fenced then
      let fence := encoded.nextName
      ({ encoded.setSlot place { image := some image, fence := some fence } with
          pending := fence :: encoded.pending
          nextName := fence + 1 }, [.fenced image fence])
    else encoded.releaseSlot place
  else
    -- The copy may be under way although the encoder failed, so everything is finished first.
    let released := { self with pending := [] }.releaseSlot place
    (released.1.dropPool, released.2 ++ [.finished])

def startEncoder (self : Capture) (host : Host) (place : SlotIndex) (image : Nat) : Done :=
  if self.encoder then self.submit host place image
  else
    let created := { self with encoder := host.encoder.isSome }
    if host.encoder = some true then created.submit host place image
    -- The image stays in its slot, without a fence, until the loop is left.
    else created.complain "Xwayland NVENC transport did not become ready"

/-- The image is put into the slot and onto its framebuffer. -/
def fillSlot (self : Capture) (host : Host) (place : SlotIndex) (image : Nat) : Done :=
  let filled := self.setSlot place { self.slots place with image := some image }
  if host.complete then filled.startEncoder host place image
  else
    let released := filled.releaseSlot place
    (released.1.dropExport, released.2)

/-- A new image, with the number that it gets. -/
def createImage (self : Capture) : Done := ({ self with nextName := self.nextName + 1 }, [.imported self.nextName])

/-- The frame is imported into a slot, unless it was when the display was opened. -/
def importFrame (self : Capture) (host : Host) (egl : EglState) (frame : ExportedFrame) (image : Option Nat) : Done :=
  let found := self.availableSlot host (List.finRange kImportSlots)
  match found.1 with
  | none => (found.2.1.dropPool, .closed frame.fd :: ((image.map Deed.destroyed).toList ++ found.2.2))
  | some place =>
      match image with
      | some image =>
          let filled := found.2.1.fillSlot host place image
          (filled.1, filled.2 ++ .closed frame.fd :: found.2.2)
      | none =>
          if host.createImage (importAttributes egl frame) then
            let created := found.2.1.createImage
            let filled := created.1.fillSlot host place found.2.1.nextName
            (filled.1, filled.2 ++ .closed frame.fd :: (created.2 ++ found.2.2))
          else (found.2.1.dropExport, .closed frame.fd :: found.2.2)

/-- The first frame opens the display that can import it. -/
def openDisplay (self : Capture) (host : Host) (frame : ExportedFrame) : Done :=
  match self.egl with
  | some egl => self.importFrame host egl frame none
  | none =>
      match initializeForImage host frame with
      | none =>
          let failed := self.complain "no EGL device can import the Xwayland DMA-BUF"
          (failed.1, failed.2 ++ [.closed frame.fd])
      | some egl =>
          let created := { self with egl := some egl }.createImage
          let imported := created.1.importFrame host egl frame (some self.nextName)
          (imported.1, imported.2 ++ created.2)

def captureFrame (self : Capture) (target : Target) (host : Host) : Done :=
  let exported := self.exportWindowFrame host
  match exported.1 with
  | none => (exported.2.1.dropExport, exported.2.2)
  | some frame =>
      if frame.width ≠ target.sourceWidth ∨ frame.height ≠ target.sourceHeight then
        (exported.2.1.dropExport, .closed frame.fd :: exported.2.2)
      else
        let opened := exported.2.1.openDisplay host frame
        (opened.1, opened.2 ++ exported.2.2)

/-- The next deadline if a present at this time is admitted. -/
def dueAfter (interval due now : UInt64) : Option UInt64 :=
  if due ≠ 0 ∧ now < due then none
  else some (if due = 0 ∨ interval ≤ now - due then now + interval else due + interval)

def present (self : Capture) (target : Target) (now : UInt64) (host : Host) : Done :=
  let seen := { self with presents := self.presents + 1 }
  match dueAfter target.interval self.nextDue now with
  | none => (seen, [])
  | some due =>
      let captured := { seen with nextDue := due, admitted := self.admitted + 1 }.captureFrame target host
      (captured.1, captured.2 ++ [.admitted now])

def releaseSlots (self : Capture) : List SlotIndex → Done
  | [] => (self, [])
  | place :: rest =>
      let released := self.releaseSlot place
      let others := released.1.releaseSlots rest
      (others.1, others.2 ++ released.2)

/-- The end of the program. -/
def leave (self : Capture) : Done :=
  match self.egl with
  | none => ({ self with left := true }, [])
  | some _ =>
      let released := { self with pending := [] }.releaseSlots (List.finRange kImportSlots)
      ({ released.1 with egl := none, left := true }, released.2 ++ [.finished])

def step (target : Target) : Transition.Step Capture Input Deed := fun self input =>
  match input with
  | .present now host => if self.stopping || self.left then (self, []) else self.present target now host
  | .otherEvent => (self, [])
  | .signal fence => ({ self with pending := self.pending.erase fence }, [.signalled fence])
  | .stop => ({ self with stopping := true }, [])
  | .leave => if self.left then (self, []) else self.leave

abbrev Execution (target : Target) (allowed : Transition.Condition Capture Input Deed) : List Deed → Capture → Prop :=
  Transition.Run (step target) allowed (· = {})

end Capture

end Luma.Export.Xwayland
