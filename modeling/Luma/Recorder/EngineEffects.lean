import Luma.Recorder.Engine

/-! What one turn of the recorder engine can do. -/

set_option autoImplicit false

namespace Luma.Recorder.Engine

open Luma.Library

/-- Slots that the capture loop holds. -/
def filling : Main → List Nat
  | .capturing slot => [slot]
  | .sending input => [input.slot]
  | .finishing cancelled | .joining cancelled => cancelled.toList
  | _ => []

def slotOf : EncoderCommand → Option Nat
  | .frame input => some input.slot
  | _ => none

/-- The worker has been told to finish, or will never be. -/
def leaving : Main → Bool
  | .joining _ | .returned _ => true
  | _ => false

inductive Effect (before : Engine) : Engine → List Observation → Prop where
  | idle : Effect before before []
  /-- The loop goes on with the slots it holds. -/
  | moved (main : Main) (paused : Bool) : filling main = filling before.main → leaving main = leaving before.main →
      Effect before { before with main, paused } []
  | exited (result : Except String EncoderStats) : Effect before { before with main := .returned result } []
  | announced (command : EncoderCommand) (main : Main) : slotOf command = none → filling main = filling before.main →
      leaving before.main = false → (leaving main = true ↔ command = .finish) →
      Effect before
        { before with queue := { before.queue with queue := before.queue.queue ++ [command] }, main } []
  | handed (slot : Nat) (rest : List Nat) : before.main = .taking →
      before.availableSlots ++ before.released = slot :: rest →
      Effect before { before with availableSlots := rest, released := [], main := .capturing slot } [.handed slot]
  | committed (input : EncodeFrame) (main : Main) : before.main = .sending input → filling main = [] →
      leaving main = false →
      Effect before
        { before with
          queue := { before.queue with queue := before.queue.queue ++ [.frame input] }
          capturedFrames := before.capturedFrames + 1
          main } []
  | taken (input : EncodeFrame) (rest : List EncoderCommand) : before.worker = .receiving →
      before.queue.queue = .frame input :: rest →
      Effect before { before with queue := { before.queue with queue := rest }, worker := .holding input } []
  | paused (paused : Bool) (rest : List EncoderCommand) (encoder : Encoder) : before.worker = .receiving →
      before.queue.queue = .pause paused :: rest → encoder.fps = before.encoder.fps →
      encoder.lastFrameIndex = before.encoder.lastFrameIndex → encoder.commitPaced = before.encoder.commitPaced →
      Effect before { before with queue := { before.queue with queue := rest }, encoder } []
  | closing (rest : List EncoderCommand) : before.worker = .receiving →
      (before.queue.queue = .finish :: rest ∨ before.queue.sending = false ∧ before.queue.queue = rest) →
      Effect before { before with queue := { before.queue with queue := rest }, worker := .stopping } []
  | began (input : EncodeFrame) (plan : Plan) : before.worker = .holding input →
      (before.encoder.commitPaced = false → before.encoder.planLatest input.presentationNs = some plan) →
      Effect before
        { before with
          encoder := { before.encoder with
            presentationOriginNs := some (before.encoder.originNs input.presentationNs) }
          releases := { slot := input.slot } :: before.releases
          worker := .pushing input plan plan.firstIndex } []
  | skipped (input : EncodeFrame) : before.worker = .holding input →
      before.encoder.planLatest input.presentationNs = none →
      Effect before
        { before with
          encoder := { before.encoder with
            presentationOriginNs := some (before.encoder.originNs input.presentationNs) }
          stats := before.stats.note { skipped := true }
          released := before.released ++ [input.slot]
          worker := .receiving }
        [.slotReturned input.slot, .skipped (before.encoder.indexOf input.presentationNs)]
  | wrote (input : EncodeFrame) (plan : Plan) (index : Nat) : before.worker = .pushing input plan index →
      index ≤ plan.frameIndex →
      Effect before
        { before with
          releases := modifyHead (fun release => { release with inFlight := release.inFlight + 1 }) before.releases
          worker := .pushing input plan (index + 1) }
        [.pushed {
          index
          ptsNs := (frameTimes index before.encoder.fps).1
          durationNs := (frameTimes index before.encoder.fps).2 - (frameTimes index before.encoder.fps).1 }]
  | retired (input : EncodeFrame) (plan : Plan) (index : Nat) : before.worker = .pushing input plan index →
      plan.frameIndex < index →
      Effect before (before.endPush plan) []
  | failed (text : String) : (∀ result, before.worker ≠ .ended result) →
      Effect before (before.endWorker (.error text)) []
  | rejected (text : String) (input : EncodeFrame) (plan : Plan) (index : Nat) :
      before.worker = .pushing input plan index →
      Effect before
        ({ before with
            releases := modifyHead (fun release => { release with checks := release.checks + 1 }) before.releases
          }.endWorker (.error text)) []
  | completed : before.worker = .stopping → Effect before (before.endWorker (.ok before.stats)) []
  | finalized (place : Nat) (release : BufferRelease) : before.releases[place]? = some release →
      release.inFlight ≠ 0 →
      Effect before
        { before with
          releases := before.releases.set place
            { release with inFlight := release.inFlight - 1, checks := release.checks + 1 } } []
  | slotReturned (place : Nat) (release : BufferRelease) : before.releases[place]? = some release →
      release.checks ≠ 0 → release.retired = true → release.inFlight = 0 → release.returned = false →
      Effect before
        { before with
          releases := before.releases.set place { release with checks := release.checks - 1, returned := true }
          released := before.released ++ [release.slot] } [.slotReturned release.slot]
  | checked (place : Nat) (release : BufferRelease) : before.releases[place]? = some release →
      release.checks ≠ 0 → ¬(release.retired = true ∧ release.inFlight = 0 ∧ release.returned = false) →
      Effect before
        { before with
          releases := before.releases.set place { release with checks := release.checks - 1 } } []

/-! ## The capture loop -/

theorem send_effect {engine : Engine} {command : EncoderCommand} {next : Main} (stopped : String)
    (plain : slotOf command = none) (same : filling next = filling engine.main) (stays : leaving engine.main = false)
    (ends : leaving next = true ↔ command = .finish) :
    Effect engine (engine.send command next stopped) [] := by
  unfold send
  split
  · exact .idle
  · exact .exited _
  · rename_i queue sent
    rcases SyncChannel.send_cases sent with ⟨_, _, _, rfl⟩ | ⟨no, _⟩
    · exact .announced command next plain same stays ends
    · cases no

theorem capture_effect {engine : Engine} {slot : Nat} (phase : engine.main = .capturing slot) (host : MainHost) :
    Effect engine (engine.capture slot host) [] := by
  have held : filling engine.main = [slot] := by rw [phase]; rfl
  have stays : leaving engine.main = false := by rw [phase]; rfl
  unfold capture
  split
  · exact .exited _
  · dsimp only
    generalize (if host.commands.togglePause = true then !engine.paused else engine.paused) = paused
    split
    · exact .moved _ paused held.symm stays.symm
    · split
      · exact .moved engine.main paused rfl rfl
      · exact .exited _
      · exact .exited _
      · exact .exited _
      · split
        · exact .exited _
        · exact .moved _ paused held.symm stays.symm
      · exact .exited _

theorem mainStep_effect (engine : Engine) (host : MainHost) :
    Effect engine (engine.mainStep host).1 (engine.mainStep host).2 := by
  unfold mainStep
  split
  · rename_i phase
    have none_held : filling engine.main = [] := by rw [phase]; rfl
    have stays : leaving engine.main = false := by rw [phase]; rfl
    unfold decide
    dsimp only
    split
    · exact .moved _ _ none_held.symm stays.symm
    · split
      · exact .moved _ _ none_held.symm stays.symm
      · unfold afterCommands
        split
        · exact .moved _ engine.paused none_held.symm stays.symm
        · exact .moved _ engine.paused none_held.symm stays.symm
  · rename_i phase
    unfold afterCommands
    apply send_effect _ rfl
    · rw [phase]
      split <;> rfl
    · rw [phase]
      rfl
    · split <;> simp [leaving]
  · rename_i phase
    have none_held : filling engine.main = [] := by rw [phase]; rfl
    have stays : leaving engine.main = false := by rw [phase]; rfl
    unfold idle
    dsimp only
    split <;> exact .moved _ _ none_held.symm stays.symm
  · rename_i phase
    apply send_effect _ rfl
    · rw [phase]
      rfl
    · rw [phase]
      rfl
    · simp [leaving]
  · rename_i phase
    unfold take
    split
    · apply Effect.moved _ engine.paused
      · rw [phase]
        rfl
      · rw [phase]
        rfl
    · rename_i slot rest free
      exact .handed slot rest phase free
  · rename_i slot phase
    exact capture_effect phase host
  · rename_i input phase
    unfold sendFrame
    dsimp only
    split
    · exact .idle
    · exact .exited _
    · rename_i queue sent
      rcases SyncChannel.send_cases sent with ⟨_, _, _, rfl⟩ | ⟨no, _⟩
      · apply Effect.committed input _ phase
        · split <;> rfl
        · split <;> rfl
      · cases no
  · rename_i phase
    apply send_effect _ rfl
    · rw [phase]
      rfl
    · rw [phase]
      rfl
    · simp [leaving]
  · rename_i cancelled phase
    apply send_effect _ rfl
    · rw [phase]
      rfl
    · rw [phase]
      rfl
    · simp [leaving]
  · unfold join
    dsimp only
    split
    · exact .exited _
    · exact .idle
  · exact .idle

/-! ## The worker and the pipeline -/

theorem receiveCommand_effect {engine : Engine} (phase : engine.worker = .receiving) (host : WorkerHost) :
    Effect engine (engine.receiveCommand host) [] := by
  unfold receiveCommand
  split
  · exact .idle
  · rename_i input queue received
    rcases SyncChannel.recv_cases received with ⟨value, rest, same, queued, rfl⟩ | ⟨none, _⟩
    · cases same
      exact .taken input rest phase queued
    · cases none
  · rename_i paused queue received
    rcases SyncChannel.recv_cases received with ⟨value, rest, same, queued, rfl⟩ | ⟨none, _⟩
    · cases same
      split
      · exact .failed _ (by simp [phase])
      · rename_i encoder changed
        obtain ⟨fps, last, paced⟩ := Encoder.setPaused_rest changed
        exact .paused paused rest encoder phase queued fps last paced
    · cases none
  · rename_i queue received
    rcases SyncChannel.recv_cases received with ⟨value, rest, same, queued, rfl⟩ | ⟨none, _⟩
    · cases same
      exact .closing rest phase (.inl queued)
    · cases none
  · rename_i queue received
    rcases SyncChannel.recv_cases received with ⟨_, _, same, _⟩ | ⟨_, _, gone, _⟩
    · cases same
    · exact .closing engine.queue.queue phase (.inr ⟨gone, rfl⟩)

theorem beginPush_effect {engine : Engine} {input : EncodeFrame} (phase : engine.worker = .holding input) :
    Effect engine (engine.beginPush input).1 (engine.beginPush input).2 := by
  unfold beginPush
  dsimp only
  split
  · rename_i plan planned
    apply Effect.began input plan phase
    intro clock
    rwa [clock, if_neg Bool.false_ne_true] at planned
  · rename_i skipped
    apply Effect.skipped input phase
    split at skipped
    · cases skipped
    · exact skipped

theorem workerStep_effect (engine : Engine) (host : WorkerHost) :
    Effect engine (engine.workerStep host).1 (engine.workerStep host).2 := by
  unfold workerStep
  split
  · rename_i phase
    exact receiveCommand_effect phase host
  · rename_i input phase
    exact beginPush_effect phase
  · rename_i input plan index phase
    split
    · rename_i within
      unfold pushOne
      split
      · exact .failed _ (by simp [phase])
      · split
        · exact .rejected _ input plan index phase
        · exact .wrote input plan index phase within
    · rename_i beyond
      exact .retired input plan index phase (Nat.lt_of_not_le beyond)
  · rename_i phase
    split
    · exact .failed _ (by simp [phase])
    · exact .completed phase
  · exact .idle

theorem step_effect (engine : Engine) (turn : Turn) : Effect engine (step engine turn).1 (step engine turn).2 := by
  unfold step
  split
  · exact .idle
  · cases turn with
    | main host => exact mainStep_effect engine host
    | worker host => exact workerStep_effect engine host
    | finalized place =>
      dsimp only
      unfold finalizeBuffer
      split
      · exact .idle
      · rename_i release found
        split
        · exact .idle
        · rename_i live
          exact .finalized place release found live
    | checked place =>
      dsimp only
      unfold maybeReturn
      split
      · exact .idle
      · rename_i release found
        split
        · exact .idle
        · rename_i called
          split
          · rename_i due
            exact .slotReturned place release found called due.1 due.2.1 due.2.2
          · rename_i undue
            exact .checked place release found called undue

end Luma.Recorder.Engine
