import Luma.Export.XwaylandConservation

/-! Whole runs of the Xwayland capture. -/

set_option autoImplicit false

namespace Luma.Export.Xwayland

open Luma.Library

/-! ## The deadline -/

/-- Each admission is later than the one that is k admissions before it by more than k - 1 intervals. Newest first. -/
def Spaced (interval : Nat) : List Nat → Prop
  | [] => True
  | now :: earlier =>
      (∀ place time, earlier[place]? = some time → time + place * interval < now) ∧ Spaced interval earlier

/-- The next deadline is as far away as an admission then has to be. -/
structure Paced (interval due : Nat) (times : List Nat) : Prop where
  spaced : Spaced interval times
  ahead : ∀ place time, times[place]? = some time → time + place * interval < due

section Deadline

variable {interval due now later : UInt64} {times : List Nat}

theorem dueAfter_some (whole : interval ≠ 0) (room : now.toNat + interval.toNat < 2 ^ 64)
    (admitted : Capture.dueAfter interval due now = some later) :
    due.toNat ≤ now.toNat ∧ now.toNat < later.toNat ∧ (due ≠ 0 → due.toNat + interval.toNat ≤ later.toNat) := by
  have positive : 0 < interval.toNat := by
    rw [Nat.pos_iff_ne_zero]
    exact fun zero => whole (UInt64.toNat_inj.mp zero)
  unfold Capture.dueAfter at admitted
  split at admitted
  · cases admitted
  · rename_i ready
    have passed : due.toNat ≤ now.toNat := by
      by_cases first : due = 0
      · rw [first]
        exact Nat.zero_le _
      · exact UInt64.le_iff_toNat_le.mp (UInt64.not_lt.mp fun early => ready ⟨first, early⟩)
    have apart : (now - due).toNat = now.toNat - due.toNat :=
      UInt64.toNat_sub_of_le _ _ (UInt64.le_iff_toNat_le.mpr passed)
    -- The first deadline, and one that is missed by an interval or more, starts at the present.
    split at admitted
    · rename_i behind
      cases admitted
      rw [UInt64.toNat_add, Nat.mod_eq_of_lt room]
      omega
    · rename_i near
      cases admitted
      rw [not_or, UInt64.not_le, UInt64.lt_iff_toNat_lt, apart] at near
      have fits : due.toNat + interval.toNat < 2 ^ 64 := by omega
      rw [UInt64.toNat_add, Nat.mod_eq_of_lt fits]
      omega

theorem Paced.advance (paced : Paced interval.toNat due.toNat times) (whole : interval ≠ 0)
    (room : now.toNat + interval.toNat < 2 ^ 64) (admitted : Capture.dueAfter interval due now = some later) :
    Paced interval.toNat later.toNat (now.toNat :: times) := by
  obtain ⟨passed, before, next⟩ := dueAfter_some whole room admitted
  refine ⟨⟨fun place time there => ?_, paced.spaced⟩, fun place time there => ?_⟩
  · exact Nat.lt_of_lt_of_le (paced.ahead place time there) passed
  · cases place with
    | zero =>
      rw [List.getElem?_cons_zero] at there
      cases there
      omega
    | succ place =>
      have ahead := paced.ahead place time there
      have started : due ≠ 0 := by
        rintro rfl
        exact absurd ahead (Nat.not_lt_zero _)
      have gap := next started
      rw [Nat.add_one_mul]
      omega

theorem interval_ne_zero (target : Target) : target.interval ≠ 0 := by
  have bounds := target.rate
  have small : 1000000000 / target.fps < 2 ^ 64 := Nat.lt_of_le_of_lt (Nat.div_le_self _ _) (by decide)
  have positive : 0 < 1000000000 / target.fps := Nat.div_pos (by omega) (by omega)
  intro zero
  have words := congrArg UInt64.toNat zero
  rw [Target.interval, UInt64.toNat_ofNat_of_lt' small] at words
  exact absurd words (Nat.ne_of_gt positive)

end Deadline

/-! ## The statement -/

/-- Replies that are refused have no descriptors, and the clock is no closer than an interval to the end of its
words. -/
def Allowed (target : Target) : Transition.Condition Capture Input Deed := fun _ self input =>
  match input with
  | .present now host =>
      now.toNat + target.interval.toNat < 2 ^ 64 ∧
        (self.stopping = false → self.left = false → Capture.dueAfter target.interval self.nextDue now ≠ none →
          host.named = true → ∀ reply ∈ host.reply, reply.Harmless)
  | _ => True

instance (reply : BuffersReply) : Decidable reply.Harmless := by
  unfold BuffersReply.Harmless
  infer_instance

instance (target : Target) (history : List Deed) (capture : Capture) (input : Input) :
    Decidable (Allowed target history capture input) := by
  unfold Allowed
  cases input <;> infer_instance

structure Conserves (target : Target) (history : List Deed) (capture : Capture) : Prop where
  /-- Every descriptor that was received is closed, and none twice. -/
  descriptors : ClosedOnce (descriptors history) ∧ ∀ fd, .received fd ∈ history → .closed fd ∈ history
  /-- No image is destroyed twice, and in the end all are. -/
  images : ClosedOnce (images history) ∧
    (capture.left = true → ∀ image, .imported image ∈ history → .destroyed image ∈ history)
  safe : Transition.Throughout Safe history
  accounted : (∀ message, .complained message ∉ history) → capture.admitted = capture.settled
  paced : Spaced target.interval.toNat (admissions history)

namespace Capture

/-- Nothing is in hand between two inputs. -/
structure Orderly (target : Target) (history : List Deed) (capture : Capture) : Prop where
  kept : Kept none capture history
  handles : Custody (fun _ : Unit => (none : Option Nat)) (Xwayland.descriptors history)
  accounted : (∀ message, .complained message ∉ history) → capture.admitted = capture.settled
  paced : Paced target.interval.toNat capture.nextDue.toNat (admissions history)
  emptied : capture.left = true → ∀ place, capture.slots place = {}

variable {target : Target} {self : Capture} {history : List Deed} {host : Host} {now : UInt64}

theorem Orderly.conserves (orderly : Orderly target history self) : Conserves target history self where
  descriptors := by
    refine ⟨orderly.handles.once, fun fd received => ?_⟩
    rcases orderly.handles.accounted fd (mem_descriptors_opened.mpr received) with closed | ⟨_, nowhere⟩
    · exact mem_descriptors_closed.mp closed
    · cases nowhere
  images := by
    refine ⟨orderly.kept.books.custody.once, fun left image imported => ?_⟩
    rcases orderly.kept.books.custody.accounted image (mem_images_opened.mpr imported) with destroyed | ⟨place, there⟩
    · exact mem_images_closed.mp destroyed
    · cases place with
      | none => cases there
      | some place =>
        rw [held, orderly.emptied left place] at there
        cases there
  safe := orderly.kept.books.safe
  accounted := orderly.accounted
  paced := orderly.paced.spaced

/-! ## Steps -/

theorem initial_orderly (target : Target) : Orderly target [] {} where
  kept := {
    books := {
      custody := .none_held fun place => by cases place <;> rfl
      imported := by simp
      received := by simp
      fenced := by simp
      waiting := by simp [unsignalled]
      safe := trivial }
    tidy := fun _ _ _ => rfl
    shut := fun _ _ => rfl }
  handles := .none_held fun _ => rfl
  accounted := fun _ => rfl
  paced := ⟨trivial, by simp⟩
  emptied := fun _ _ => rfl

/-- A descriptor that was received and closed again. -/
theorem handles_closed {fd : Nat} (handles : Custody (fun _ : Unit => (none : Option Nat)) (descriptors history))
    (fresh : .received fd ∉ history) :
    Custody (fun _ : Unit => (none : Option Nat)) (.closed fd :: .opened fd :: descriptors history) := by
  have opened : Custody (Function.update (fun _ : Unit => (none : Option Nat)) () (some fd)) _ :=
    handles.opens rfl (mt mem_descriptors_opened.mp fresh)
  have closed := opened.closes (Function.update_self ..)
  refine closed.of_same (funext fun place => ?_)
  cases place
  rw [Function.update_self]

theorem present_orderly (orderly : Orderly target history self) (running : self.stopping = false)
    (staying : self.left = false) (allowed : Allowed target history self (.present now host)) :
    Orderly target ((self.present target now host).2 ++ history) (self.present target now host).1 := by
  obtain ⟨room, harmless⟩ := allowed
  unfold present
  dsimp only
  cases admitted : dueAfter target.interval self.nextDue now with
  | none =>
    exact ⟨⟨orderly.kept.books, orderly.kept.tidy, orderly.kept.shut⟩, orderly.handles, orderly.accounted,
      orderly.paced, orderly.emptied⟩
  | some due =>
    have paced := orderly.paced.advance (interval_ne_zero target) room admitted
    have clean := harmless running staying (by simp [admitted])
    have quiet := orderly.kept.quietly (show ∀ deed ∈ [Deed.admitted now], deed.quiet = true by simp [Deed.quiet])
      (by simp)
    dsimp only
    have before : Kept none
        { self with presents := self.presents + 1, nextDue := due, admitted := self.admitted + 1 }
        (.admitted now :: history) := ⟨quiet.books, quiet.tidy, quiet.shut⟩
    have kept := captureFrame_kept target host before running
    have outcome := captureFrame_outcome
      { self with presents := self.presents + 1, nextDue := due, admitted := self.admitted + 1 } target host clean
    generalize { self with presents := self.presents + 1, nextDue := due, admitted := self.admitted + 1 }.captureFrame
      target host = captured at kept outcome ⊢
    rw [List.append_assoc]
    show Orderly target (captured.2 ++ .admitted now :: history) captured.1
    -- Whatever comes of the frame, only its descriptor is received and closed.
    have whole {handles : List (HandleEvent Nat)} (came : Outcome { self with
          presents := self.presents + 1
          nextDue := due
          admitted := self.admitted + 1 } captured handles)
        (custody : Custody (fun _ : Unit => (none : Option Nat)) (handles ++ descriptors history)) :
        Orderly target (captured.2 ++ .admitted now :: history) captured.1 := by
      refine ⟨kept, ?_, ?_, ?_, ?_⟩
      · rw [descriptors, List.filterMap_append, show captured.2.filterMap _ = handles from came.descriptors]
        exact custody
      · intro calm
        rcases came.counted with counted | ⟨message, complained⟩
        · have accounts := orderly.accounted fun message there =>
            calm message (List.mem_append_right _ (List.mem_cons_of_mem _ there))
          rw [came.admitted, counted]
          exact congrArg (· + 1) accounts
        · exact absurd (List.mem_append_left _ complained) (calm message)
      · rw [admissions, List.filterMap_append, show captured.2.filterMap _ = [] from came.silent, came.nextDue]
        exact paced
      · intro left
        rw [came.left] at left
        cases staying.symm.trans left
    -- The descriptor of the frame has the next name, which no other has had.
    rcases outcome with outcome | outcome
    · exact whole outcome orderly.handles
    · refine whole outcome (handles_closed orderly.handles fun there => ?_)
      exact Nat.lt_irrefl _ (orderly.kept.books.received _ there)

/-- With no fence to wait for every slot is emptied. -/
theorem releaseSlots_kept (kept : Kept none self history) (idle : self.pending = []) (places : List SlotIndex) :
    Kept none (self.releaseSlots places).1 ((self.releaseSlots places).2 ++ history) ∧
      (∀ place ∈ places, (self.releaseSlots places).1.slots place = {}) ∧
      (∀ place, self.slots place = {} → (self.releaseSlots places).1.slots place = {}) ∧
      (self.releaseSlots places).1 = { self with slots := (self.releaseSlots places).1.slots } ∧
      ∀ deed ∈ (self.releaseSlots places).2, ∃ image, deed = .destroyed image := by
  induction places generalizing self history with
  | nil => exact ⟨kept, by simp, fun _ empty => empty, rfl, by simp [releaseSlots]⟩
  | cons place rest ih =>
    have released : Kept none (self.releaseSlot place).1 ((self.releaseSlot place).2 ++ history) :=
      kept.releases (by simp [idle])
    obtain ⟨kept', emptied, stays, same, destroys⟩ := ih released idle
    unfold releaseSlots
    dsimp only
    refine ⟨?_, ?_, ?_, same, ?_⟩
    · rw [List.append_assoc]
      exact kept'
    · intro other there
      rcases List.mem_cons.mp there with rfl | later
      · exact stays other (Function.update_self ..)
      · exact emptied other later
    · intro other empty
      refine stays other ?_
      show Function.update self.slots place {} other = {}
      by_cases here : other = place
      · rw [here, Function.update_self]
      · rw [Function.update_of_ne here, empty]
    · intro deed there
      rcases List.mem_append.mp there with later | first
      · exact destroys deed later
      · exact releaseSlot_destroys self place deed first

theorem leave_orderly (orderly : Orderly target history self) :
    Orderly target (self.leave.2 ++ history) self.leave.1 := by
  unfold leave
  split
  · rename_i closed
    exact ⟨⟨orderly.kept.books, orderly.kept.tidy, orderly.kept.shut⟩, orderly.handles, orderly.accounted,
      orderly.paced, fun _ => orderly.kept.shut closed⟩
  -- Behind `glFinish` no fence is waited for.
  · have finished : Kept none { self with pending := [] } (.finished :: history) :=
      ⟨orderly.kept.books.finishes, orderly.kept.tidy, orderly.kept.shut⟩
    obtain ⟨kept, emptied, -, same, destroys⟩ := releaseSlots_kept finished rfl (List.finRange kImportSlots)
    obtain ⟨handles, silent⟩ := destroys_quietly destroys
    dsimp only
    generalize { self with pending := [] }.releaseSlots (List.finRange kImportSlots) = released
      at kept emptied same destroys handles silent ⊢
    rw [List.append_assoc]
    show Orderly target (released.2 ++ .finished :: history) _
    have everywhere (place : SlotIndex) : released.1.slots place = {} := emptied place (List.mem_finRange place)
    refine ⟨⟨kept.books, kept.tidy, fun _ => everywhere⟩, ?_, ?_, ?_, fun _ => everywhere⟩
    · rw [descriptors, List.filterMap_append, show released.2.filterMap _ = [] from handles]
      exact orderly.handles
    · intro calm
      rw [same]
      exact orderly.accounted fun message there => calm message (List.mem_append_right _ (List.mem_cons_of_mem _ there))
    · rw [admissions, List.filterMap_append, show released.2.filterMap _ = [] from silent, same]
      exact orderly.paced

theorem step_orderly (orderly : Orderly target history self) (input : Input)
    (allowed : Allowed target history self input) :
    Orderly target ((step target self input).2 ++ history) (step target self input).1 := by
  cases input with
  | present now host =>
    unfold step
    dsimp only
    split
    · exact orderly
    · rename_i going
      rw [Bool.or_eq_true, not_or, Bool.not_eq_true, Bool.not_eq_true] at going
      exact present_orderly orderly going.1 going.2 allowed
  | otherEvent => exact orderly
  | signal fence =>
    refine ⟨⟨orderly.kept.books.signals fence, orderly.kept.tidy, orderly.kept.shut⟩, orderly.handles, ?_,
      orderly.paced, orderly.emptied⟩
    intro calm
    exact orderly.accounted fun message there => calm message (List.mem_cons_of_mem _ there)
  | stop =>
    refine ⟨⟨orderly.kept.books, ?_, orderly.kept.shut⟩, orderly.handles, orderly.accounted, orderly.paced,
      orderly.emptied⟩
    intro running
    cases running
  | leave =>
    unfold step
    dsimp only
    split
    · exact orderly
    · exact leave_orderly orderly

/-- In every run in which the replies that are refused have no descriptors the capture conserves its resources. -/
theorem capture_conserves (run : Execution target (Allowed target) history self) : Conserves target history self := by
  have orderly : Orderly target history self := by
    induction run with
    | start begun =>
      rw [begun]
      exact initial_orderly target
    | step input _ allowed ih => exact step_orderly ih input allowed
  exact orderly.conserves

def window : Target where
  fps := 60
  sourceWidth := 1280
  sourceHeight := 720
  rate := by decide
  size := by decide

/-- A reply about a pixmap with this number of planes. -/
def planar (planes : Nat) : Host where
  reply := some {
    width := 1280
    height := 720
    depth := 24
    modifier := 0
    planes := List.replicate planes { stride := 5120, offset := 0 } }
  candidates := [{ context := true, egl := { modifierImport := true }, createImage := fun _ => true }]

/-- Two frames are captured, the second after the copy of the first. -/
def twoFrames : List Input :=
  [.present 1000000 (planar 1), .signal 2, .present 20000000 (planar 1), .stop, .leave]

theorem capture_conserves_two :
    Conserves window (Transition.execute (step window) {} twoFrames).2
      (Transition.execute (step window) {} twoFrames).1 := by
  have run : Execution window (Allowed window) ((Transition.execute (step window) {} twoFrames).2 ++ []) _ :=
    Transition.Run.execute twoFrames (.start rfl) (by decide +kernel)
  rw [List.append_nil] at run
  exact capture_conserves run

/-- The descriptors of a reply with two planes are never closed. -/
theorem second_plane_leaks : ∃ target history capture,
    Execution target Transition.unrestricted history capture ∧ capture.left = true ∧
    ∃ fd, .received fd ∈ history ∧ .closed fd ∉ history := by
  have run : Execution window Transition.unrestricted
      ((Transition.execute (step window) {} [.present 1000000 (planar 2), .leave]).2 ++ []) _ :=
    Transition.Run.execute _ (.start rfl) (Transition.permits_unrestricted _ _ _ _)
  exact ⟨window, _, _, run, by decide +kernel, 0, by decide +kernel, by decide +kernel⟩

end Capture

end Luma.Export.Xwayland
