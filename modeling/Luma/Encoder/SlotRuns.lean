import Luma.Encoder.Admission
import Luma.Encoder.PresentTimes
import Luma.Encoder.SlotHarvest
import Luma.Encoder.Wire

/-! The slots over runs, and the timestamps of what is handed over. -/

set_option autoImplicit false

namespace Luma.Encoder.Direct

open Luma.Library Luma.Library.Transition

variable {harvests encodes : Nat} {history seen : List DirectEvent} {self after : Direct} {slot : Fin kSlots}

namespace Slotted

theorem step_kept (slotted : Slotted history self) (pipelined : Pipelined harvests encodes history self)
    (input : DirectInput) : Slotted ((step self input).2 ++ history) (step self input).1 := by
  have outside : ∀ {disabled stopRequested shutdownNow : Bool} {transport : Transport},
      (self.disabled = true → disabled = true) →
      Slotted ([] ++ history) { self with disabled, stopRequested, shutdownNow, transport } := fun disables =>
    slotted.strolls nothing_calm rfl (fun _ => rfl) rfl rfl (fun _ _ _ _ => rfl) (fun _ => id) (Rests_disabled disables)
      (slotted.relies.same (fun _ => id) rfl rfl rfl rfl fun _ => rfl)
      (fun draining call harvesting => (slotted.tends draining call harvesting).same (fun _ => rfl) rfl fun _ => rfl) id
  unfold step
  cases input with
  | submit present =>
    dsimp only
    split
    · rename_i idle
      refine slotted.goes idle rfl (by simp) (by simp [calm]) (fun disabled => ⟨disabled, ?_⟩) trivial
      split <;> decide
    · exact slotted
  | submitter answer => exact slotted.submitTurn_kept pipelined answer
  | collector answer => exact slotted.collect_kept pipelined answer
  | transport succeeds => exact outside id
  | stopTransport => exact outside id
  | raise flag =>
    cases flag with
    | disabled => exact outside fun _ => rfl
    | stopRequested | shutdownNow => exact outside id
  | finish =>
    dsimp only
    split
    · rename_i idle
      have begins : ∀ {disabled stopRequested : Bool} (later : Submitter), (∀ disabled, later.Rests disabled) →
          later.plain = true →
          Slotted ([] ++ history) { self with cleanupStarted := true, disabled, stopRequested, submitter := later } := by
        intro disabled stopRequested later rests plain
        refine slotted.submits nothing_calm rfl (fun _ => rfl) rfl rfl rfl (by rw [idle]; rfl) (fun _ => rests _) ?_ ?_
        · cases later <;> trivial
        · rintro (⟨index, releasing⟩ | releasing)
          · cases idle.symm.trans releasing
          · exact .inr releasing
      unfold finishOnGlThread
      split
      · exact slotted
      · dsimp only
        split
        · exact slotted
        · exact begins .joiningOutput (fun _ => trivial) rfl
        · exact begins (.finishing 2000) (fun _ => trivial) rfl
    · exact slotted

theorem initial (mode : Mode) (width height fps : UInt32) : Slotted [] (Direct.initial mode width height fps) where
  respects := trivial
  vacant _ _ _ _ := .inl rfl
  ring := nofun
  relies := trivial
  tends := by cases mode <;> exact nofun
  spared := nofun
  unpending _ _ := rfl

end Slotted

theorem run_mode {allowed : Condition Direct DirectInput DirectEvent} {mode : Mode} {width height fps : UInt32}
    {direct : Direct} (run : Run step allowed (· = Direct.initial mode width height fps) history direct) : direct.mode = mode := by
  induction run with
  | start begun => subst begun; rfl
  | step input _ _ ih => exact (step_mode _ input).trans ih

/-- The presents, in their order. -/
def presents (history : List DirectEvent) : List UInt64 :=
  chronicle (fun | .presented ptsNs => some ptsNs | _ => none) history

/-- The life of the slots and what comes of their pictures. The copies are numbered, so
that each is encoded and handed over at most once. -/
structure Lifecycle (history : List DirectEvent) (direct : Direct) : Prop where
  slots : Throughout (Respects Abandoned) history
  numbered : (copied history).map Prod.fst = List.range direct.copies
  encoded : attempted history <+: copied history
  order : (handed history).Sublist (copied history)
  increasing : direct.mode = .harvestWorker → Clocked history → ((handed history).map Prod.snd).Pairwise (· < ·)

/-- Until the teardown comes to it, a slot is used by one picture at a time, and the
pictures are encoded and handed over in the order of their copies. -/
theorem slots_live {mode : Mode} {width height fps : UInt32} (creatable : Creatable width height fps)
    {history : List DirectEvent} {direct : Direct}
    (run : Run step Fresh (· = Direct.initial mode width height fps) history direct) : Lifecycle history direct := by
  obtain ⟨⟨harvests, encodes, pipelined⟩, -⟩ := Pipelined.of_run run
  have order : (handed history).Sublist (copied history) :=
    pipelined.output.elim (·.trans (List.take_sublist _ _)) (·.2.trans (List.take_sublist _ _))
  constructor
  case slots =>
    suffices slotted : Slotted history direct from slotted.respects
    clear pipelined order
    induction run with
    | start begun => subst begun; exact .initial mode width height fps
    | step input before fresh ih =>
      obtain ⟨⟨_, _, pipelined⟩, -⟩ := Pipelined.of_run before
      exact ih.step_kept pipelined input
  case numbered => exact pipelined.numbered
  case encoded => rcases pipelined.tried with same | same <;> rw [same] <;> exact List.take_prefix _ _
  case order => exact order
  case increasing =>
    intro asynchronous clocked
    have same : mode = .harvestWorker := (run_mode run).symm.trans asynchronous
    subst same
    unfold Creatable at creatable
    push Not at creatable
    obtain ⟨-, -, -, -, -, -, rate, fastest⟩ := creatable
    have positive : 0 < fps.toNat := Nat.pos_of_ne_zero fun zero => rate (UInt32.toNat_inj.mp zero)
    have bounded : fps.toNat ≤ (480 : UInt32).toNat := UInt32.le_iff_toNat_le.mp (UInt32.not_lt.mp fastest)
    exact (stamps_increase positive bounded run clocked).sublist (order.map Prod.snd)

theorem unmapped_uncollected {start : Direct → Prop} {direct : Direct} (slot : Fin kSlots)
    (run : Run step unrestricted start history direct) (newest : history.head? = some (.unmapped slot))
    (mapped : life slot history.tail = .mapped) :
    ¬∀ history direct, Run step unrestricted start history direct → Throughout (Respects fun _ _ => False) history := by
  intro respected
  obtain ⟨before, rfl⟩ := List.head?_eq_some_iff.mp newest
  rw [List.tail_cons] at mapped
  refine (respected _ _ run).1.elim id fun away => away ?_
  rw [mapped]
  decide

/-- The driver unloads while the first picture is with the encoder. -/
def hurried : List DirectInput :=
  .transport true :: presenting 0 2 ++ .raise .shutdownNow :: List.replicate 5 (.collector {}) ++
    List.replicate 4 (.transport true) ++ List.replicate 2 (.collector {})

/-- The unlock of the first picture fails, and the final drain collects it again. -/
def redrained : List DirectInput :=
  .transport true :: presenting 0 3 ++ collecting 10 ++ [.collector { succeeds := false }] ++ collecting 6

/-- Two presents of one time shortly before the clock wraps. -/
def wrapped : List DirectInput :=
  let times : List UInt64 := [0xFFFFFFFFFFFFFF00, 0xFFFFFFFFFFFFFF00, 0xFFFFFFFFFFFFFFFF]
  .transport true :: times.flatMap (fun ptsNs => .submit ⟨1920, 1080, ptsNs⟩ :: List.replicate 21 (.submitter {})) ++
    collecting 19

/-- The teardown unmaps what was not collected, a second collection hands a unit over
again, and a clock that wraps repeats a timestamp. -/
theorem slots_cut_short :
    (¬∀ history direct, Run step unrestricted (· = Direct.initial .harvestWorker 1920 1080 60) history direct →
      Throughout (Respects fun _ _ => False) history) ∧
    (¬∀ history direct, Run step unrestricted (· = Direct.initial .harvestWorker 1920 1080 60) history direct →
      (handed history).Sublist (copied history)) ∧
    ¬∀ history direct, Run step unrestricted (· = Direct.initial .harvestWorker 1920 1080 60) history direct →
      (presents history).Pairwise (· ≤ ·) → ((handed history).map Prod.snd).Pairwise (· < ·) := by
  have begun : Run step unrestricted (· = initial .harvestWorker 1920 1080 60) [] (initial .harvestWorker 1920 1080 60) :=
    .start rfl
  have reached : ∀ inputs, Run step unrestricted (· = initial .harvestWorker 1920 1080 60)
      (execute step (initial .harvestWorker 1920 1080 60) inputs).2
      (execute step (initial .harvestWorker 1920 1080 60) inputs).1 := by
    intro inputs
    have run := begun.execute inputs (permits_unrestricted _ _ _ _)
    rwa [List.append_nil] at run
  refine ⟨?_, fun ordered => ?_, fun increasing => ?_⟩
  · exact unmapped_uncollected 0 (reached hurried) (by decide +kernel) (by decide +kernel)
  · exact absurd (ordered _ _ (reached redrained)) (by decide +kernel)
  · exact absurd (increasing _ _ (reached wrapped) (by decide +kernel)) (by decide +kernel)

theorem slots_live_four_frames :
    Lifecycle (execute step (initial .harvestWorker 1920 1080 60) (.transport true :: presenting 0 5 ++ collecting 38)).2
      (execute step (initial .harvestWorker 1920 1080 60) (.transport true :: presenting 0 5 ++ collecting 38)).1 := by
  have run := Run.execute (.transport true :: presenting 0 5 ++ collecting 38)
    (.start rfl : Run step Fresh (· = initial .harvestWorker 1920 1080 60) [] _) (by decide +kernel)
  rw [List.append_nil] at run
  exact slots_live (by decide) run

end Luma.Encoder.Direct
