import Luma.Recorder.SlotPool

/-! How a recording ends. The loop tells the worker to finish and waits for it; the
worker ends the stream, which the pipeline answers only while it plays.

A stop during a pause and every early return of the loop miss this shutdown.
-/

set_option autoImplicit false

namespace Luma.Recorder

open Luma.Library

inductive Milestone where
  /-- The worker ends the stream of a pipeline that plays or is paused. -/
  | endOfStream (playing : Bool)
  /-- The engine exits, and has joined its worker or not. -/
  | exited (joined : Bool)
  deriving DecidableEq, Repr

/-- A pipeline that changes its state when asked is as it is asked to be. -/
theorem Encoder.setPaused_complies (encoder : Encoder) (paused : Bool) (now : Nat) (stateChange : Except String Unit)
    (complies : (paused == encoder.pausedAt.isSome || stateChange.isOk) = true) :
    ∃ after, encoder.setPaused paused now stateChange = .ok after ∧ after.pausedAt.isSome = paused := by
  unfold setPaused
  cases paused with
  | true =>
    cases found : encoder.pausedAt with
    | some pausedAt => exact ⟨encoder, rfl, by rw [found]; rfl⟩
    | none =>
      cases stateChange with
      | ok => exact ⟨_, rfl, rfl⟩
      | error => rw [found] at complies; cases complies
  | false =>
    cases found : encoder.pausedAt with
    | none => exact ⟨encoder, rfl, by rw [found]; rfl⟩
    | some pausedAt =>
      cases stateChange with
      | ok => exact ⟨_, rfl, rfl⟩
      | error => rw [found] at complies; cases complies

namespace Engine

def returned : Main → Bool
  | .returned _ => true
  | _ => false

def joins : Main → Bool
  | .joining _ => true
  | _ => false

/-- `stop` of the encoder follows `set_paused` in what it finds. -/
def streamEnd (engine : Engine) : List Milestone :=
  match engine.worker with
  | .stopping => [.endOfStream engine.encoder.pausedAt.isNone]
  | _ => []

def exit (engine : Engine) (host : MainHost) : List Milestone :=
  if returned (engine.mainStep host).1.main then [.exited (joins engine.main)] else []

def milestones (engine : Engine) (turn : Turn) : List Milestone :=
  if returned engine.main then []
  else
    match turn with
    | .main host => engine.exit host
    | .worker _ => engine.streamEnd
    | .finalized _ | .checked _ => []

/-- The engine's turns with what they do to the end of the recording. -/
def watch : Transition.Step Engine Turn Milestone := fun engine turn => ((engine.step turn).1, engine.milestones turn)

/-- One end of the stream, while the pipeline plays, and no exit before it is joined. -/
def Finalizes (milestone : Milestone) (earlier : List Milestone) : Prop :=
  match milestone with
  | .endOfStream playing => playing = true ∧ earlier = []
  | .exited joined => joined = true ∧ earlier = [.endOfStream true]

/-! ## Turns that keep to the shutdown -/

/-- A capture that a stop ends, or that brings a frame. -/
def captured (host : MainHost) : Bool :=
  match host.event with
  | .disconnected _ => false
  | .pending => true
  | .ready (some _) => host.commands.stop || host.frame.isOk
  | .ready none | .failed _ | .stopped => host.commands.stop

/-- The loop does not return early, and is stopped only while it records. -/
def leavesOrderly (engine : Engine) (host : MainHost) : Bool :=
  match engine.main with
  | .deciding => !(host.commands.stop && engine.paused)
  | .idling =>
      match host.command with
      | .stop | .disconnected => false
      | .pause | .other | .timeout => true
  | .capturing _ => captured host
  | _ => true

/-- The pipeline takes the frames and the changes of state that it is asked for. -/
def complies (engine : Engine) (host : WorkerHost) : Bool :=
  match engine.worker with
  | .receiving =>
      match engine.queue.queue with
      | .pause paused :: _ => paused == engine.encoder.pausedAt.isSome || host.stateChange.isOk
      | _ => true
  | .pushing _ plan index => if index ≤ plan.frameIndex then host.prepare.isOk && host.push.isOk else true
  | _ => true

def Undisturbed : Transition.Condition Engine Turn Milestone := fun _ engine turn =>
  match turn with
  | .main host => engine.leavesOrderly host = true
  | .worker host => engine.complies host = true
  | .finalized _ | .checked _ => True

instance : ∀ history engine turn, Decidable (Undisturbed history engine turn)
  | _, engine, .main host => inferInstanceAs (Decidable (engine.leavesOrderly host = true))
  | _, engine, .worker host => inferInstanceAs (Decidable (engine.complies host = true))
  | _, _, .finalized _ | _, _, .checked _ => .isTrue trivial

/-! ## The pause that the pipeline will be in -/

def pauseOf : EncoderCommand → Option Bool
  | .pause paused => some paused
  | _ => none

/-- The pause that a pipeline is in once these commands are worked off. -/
def pauseAfter (commands : List EncoderCommand) (paused : Bool) : Bool :=
  (commands.filterMap pauseOf).getLast?.getD paused

def announced (engine : Engine) : Bool := pauseAfter engine.queue.queue engine.encoder.pausedAt.isSome

/-- What the loop has announced, by its place. -/
def Agrees (main : Main) (paused announced : Bool) : Prop :=
  match main with
  | .deciding => announced = paused
  | .announcing | .returned _ => True
  | .idling => paused = true ∧ announced = true
  | .pausing => paused = true
  | .resuming => paused = false
  | .taking => paused = false ∧ announced = false
  | .capturing _ | .sending _ | .finishing _ | .joining _ => announced = false

/-- What has been seen of the end of the recording. -/
def Told (history : List Milestone) (engine : Engine) : Prop :=
  match engine.main, engine.worker with
  | .returned result, worker => worker = .ended result ∧ history = [.exited true, .endOfStream true]
  | .joining _, .ended _ => history = [.endOfStream true]
  | _, .ended _ => False
  | _, _ => history = []

structure Orderly (history : List Milestone) (engine : Engine) : Prop where
  finishing : Finishing engine
  receiving : (∀ result, engine.worker ≠ .ended result) → engine.queue.receiving = true
  agrees : Agrees engine.main engine.paused engine.announced
  told : Told history engine

variable {before after : Engine} {history : List Milestone}

/-! ## The loop -/

theorem pauseAfter_concat (commands : List EncoderCommand) (command : EncoderCommand) (paused : Bool) :
    pauseAfter (commands ++ [command]) paused = (pauseOf command).getD (pauseAfter commands paused) := by
  unfold pauseAfter
  rw [List.filterMap_append]
  cases command with
  | pause paused => simp [pauseOf]
  | frame | finish => simp [pauseOf]

theorem pauseAfter_cons (command : EncoderCommand) (commands : List EncoderCommand) (paused : Bool) :
    pauseAfter (command :: commands) paused = pauseAfter commands ((pauseOf command).getD paused) := by
  unfold pauseAfter
  cases command with
  | pause paused => simp [pauseOf, List.getLast?_cons]
  | frame | finish => simp [pauseOf]

/-- A worker that has not ended takes what is sent to it. -/
theorem send_alive (alive : before.queue.receiving = true) (command : EncoderCommand) (next : Main) (stopped : String) :
    before.send command next stopped = before ∨
      before.send command next stopped =
        { before with queue := { before.queue with queue := before.queue.queue ++ [command] }, main := next } := by
  unfold send
  cases sent : before.queue.send command with
  | none => exact .inl rfl
  | some answer =>
    obtain ⟨accepted, queue⟩ := answer
    rcases SyncChannel.send_cases sent with ⟨rfl, _, _, rfl⟩ | ⟨_, gone, _⟩
    · exact .inr rfl
    · rw [alive] at gone
      cases gone

theorem told_running (told : Told history before) (running : leaving before.main = false) :
    history = [] ∧ ∀ result, before.worker ≠ .ended result := by
  unfold Told at told
  generalize before.main = main at told running
  generalize before.worker = worker at told
  cases main with
  | joining | returned => cases running
  | deciding | announcing | idling | resuming | taking | capturing | sending | pausing | finishing =>
    cases worker with
    | ended => exact told.elim
    | receiving | holding | pushing | stopping => exact ⟨told, nofun⟩

theorem told_of_running {main : Main} (seen : history = []) (working : ∀ result, after.worker ≠ .ended result)
    (phase : after.main = main) (goes : returned main = false) : Told history after := by
  unfold Told
  rw [phase]
  generalize after.worker = worker at working
  cases worker with
  | ended result => exact absurd rfl (working result)
  | receiving | holding | pushing | stopping =>
    cases main with
    | returned => cases goes
    | deciding | announcing | idling | resuming | taking | capturing | sending | pausing | finishing | joining =>
      exact seen

/-- A turn of the loop that leaves the worker alone and does not return. -/
structure Stays (before after : Engine) : Prop where
  worker : after.worker = before.worker
  receiving : after.queue.receiving = before.queue.receiving
  goes : returned after.main = false
  agrees : Agrees after.main after.paused after.announced

theorem Stays.of_sent (command : EncoderCommand)
    (queue : after.queue = { before.queue with queue := before.queue.queue ++ [command] })
    (encoder : after.encoder = before.encoder) (worker : after.worker = before.worker) (goes : returned after.main = false)
    (agrees : Agrees after.main after.paused ((pauseOf command).getD before.announced)) : Stays before after where
  worker := worker
  receiving := by rw [queue]
  goes := goes
  agrees := by
    unfold announced
    rw [queue, encoder, pauseAfter_concat]
    exact agrees

theorem Stays.sent (alive : before.queue.receiving = true) (command : EncoderCommand) (next : Main) (stopped : String)
    (goes : returned before.main = false) (stays : Agrees before.main before.paused before.announced)
    (moves : returned next = false) (agrees : Agrees next before.paused ((pauseOf command).getD before.announced)) :
    Stays before (before.send command next stopped) := by
  rcases send_alive alive command next stopped with blocked | sent
  · rw [blocked]
    exact ⟨rfl, rfl, goes, stays⟩
  · rw [sent]
    exact .of_sent command rfl rfl rfl moves agrees

theorem Stays.captured {slot : Nat} {host : MainHost} (phase : before.main = .capturing slot)
    (calm : captured host = true) (agrees : before.announced = false) : Stays before (before.capture slot host) := by
  unfold capture
  unfold Engine.captured at calm
  cases happens : host.event with
  | disconnected error => rw [happens] at calm; cases calm
  | pending =>
    dsimp only
    by_cases stop : host.commands.stop = true
    · rw [if_pos stop]
      exact ⟨rfl, rfl, rfl, agrees⟩
    · rw [if_neg stop]
      exact ⟨rfl, rfl, by rw [phase]; rfl, by rw [phase]; exact agrees⟩
  | ready presentation =>
    rw [happens] at calm
    dsimp only
    by_cases stop : host.commands.stop = true
    · rw [if_pos stop]
      exact ⟨rfl, rfl, rfl, agrees⟩
    · rw [if_neg stop]
      cases presentation with
      | none => exact absurd calm stop
      | some presentationNs =>
        cases exported : host.frame with
        | error error =>
          rw [exported] at calm
          exact absurd (by simpa [Except.isOk, Except.toBool] using calm) stop
        | ok => exact ⟨rfl, rfl, rfl, agrees⟩
  | failed | stopped =>
    rw [happens] at calm
    dsimp only at calm ⊢
    rw [if_pos calm]
    exact ⟨rfl, rfl, rfl, agrees⟩

theorem Stays.committed (input : EncodeFrame) (alive : before.queue.receiving = true)
    (goes : returned before.main = false) (stays : Agrees before.main before.paused before.announced)
    (playing : before.announced = false) : Stays before (before.sendFrame input) := by
  unfold sendFrame
  cases sent : before.queue.send (.frame input) with
  | none => exact ⟨rfl, rfl, goes, stays⟩
  | some answer =>
    obtain ⟨accepted, queue⟩ := answer
    rcases SyncChannel.send_cases sent with ⟨rfl, _, _, rfl⟩ | ⟨_, gone, _⟩
    · cases paused : before.paused with
      | true => exact .of_sent (.frame input) rfl rfl rfl rfl rfl
      | false => exact .of_sent (.frame input) rfl rfl rfl rfl playing
    · rw [alive] at gone
      cases gone

theorem Orderly.loop {host : MainHost} (orderly : Orderly history before) (running : leaving before.main = false)
    (calm : before.leavesOrderly host = true) : Stays before (before.mainStep host).1 := by
  have alive := orderly.receiving (told_running orderly.told running).2
  have agrees := orderly.agrees
  have goes : returned before.main = false := by
    generalize before.main = main at running
    cases main with
    | returned | joining => cases running
    | deciding | announcing | idling | resuming | taking | capturing | sending | pausing | finishing => rfl
  unfold leavesOrderly at calm
  unfold mainStep
  cases phase : before.main with
  | deciding =>
    rw [phase] at calm agrees
    dsimp only [Agrees] at agrees
    unfold decide afterCommands
    dsimp only
    cases stop : host.commands.stop with
    | true =>
      have playing : before.paused = false := by simpa [stop] using calm
      exact ⟨rfl, rfl, rfl, agrees.trans playing⟩
    | false =>
      cases host.commands.togglePause with
      | true => exact ⟨rfl, rfl, rfl, trivial⟩
      | false =>
        cases paused : before.paused with
        | true => exact ⟨rfl, rfl, rfl, rfl, agrees.trans paused⟩
        | false => exact ⟨rfl, rfl, rfl, rfl, agrees.trans paused⟩
  | announcing =>
    apply Stays.sent alive _ _ _ goes agrees
    · unfold afterCommands
      cases before.paused <;> rfl
    · unfold afterCommands
      cases before.paused with
      | true => exact ⟨rfl, rfl⟩
      | false => exact ⟨rfl, rfl⟩
  | idling =>
    rw [phase] at calm agrees
    unfold idle
    cases asked : host.command with
    | stop | disconnected => rw [asked] at calm; cases calm
    | pause => exact ⟨rfl, rfl, rfl, rfl⟩
    | other | timeout => exact ⟨rfl, rfl, rfl, agrees.2.trans agrees.1.symm⟩
  | resuming =>
    rw [phase] at agrees
    exact .sent alive _ _ _ goes (phase ▸ agrees) rfl agrees.symm
  | taking =>
    rw [phase] at agrees
    dsimp only
    unfold take
    split
    · exact ⟨rfl, rfl, rfl, agrees.2.trans agrees.1.symm⟩
    · exact ⟨rfl, rfl, rfl, agrees.2⟩
  | capturing slot =>
    rw [phase] at calm agrees
    exact .captured phase calm agrees
  | sending input =>
    rw [phase] at agrees
    exact .committed input alive goes (phase ▸ agrees) agrees
  | pausing =>
    rw [phase] at agrees
    exact .sent alive _ _ _ goes (phase ▸ agrees) rfl agrees.symm
  | finishing cancelled =>
    rw [phase] at agrees
    exact .sent alive _ _ _ goes (phase ▸ agrees) rfl agrees
  | joining | returned => rw [phase] at running; cases running

/-! ## The worker -/

/-- What the worker does to a recording before it ends. -/
structure Works (before after : Engine) : Prop where
  main : after.main = before.main
  paused : after.paused = before.paused
  worker : ∀ result, after.worker ≠ .ended result
  receiving : after.queue.receiving = before.queue.receiving
  announced : after.announced = before.announced

theorem Works.received {host : WorkerHost} (phase : before.worker = .receiving) (calm : before.complies host = true)
    (sending : before.queue.sending = true) : Works before (before.receiveCommand host) := by
  unfold complies at calm
  rw [phase] at calm
  dsimp only at calm
  unfold receiveCommand
  cases received : before.queue.recv with
  | none => exact ⟨rfl, rfl, fun result => by rw [phase]; nofun, rfl, rfl⟩
  | some answer =>
    obtain ⟨taken, queue⟩ := answer
    rcases SyncChannel.recv_cases received with ⟨command, rest, rfl, queued, rfl⟩ | ⟨_, _, gone, _⟩
    · have announced : before.announced = pauseAfter rest ((pauseOf command).getD before.encoder.pausedAt.isSome) := by
        unfold Engine.announced
        rw [queued, pauseAfter_cons]
      cases command with
      | frame input => exact ⟨rfl, rfl, nofun, rfl, announced.symm⟩
      | finish => exact ⟨rfl, rfl, nofun, rfl, announced.symm⟩
      | pause paused =>
        rw [queued] at calm
        dsimp only at calm ⊢
        obtain ⟨encoder, changed, state⟩ := before.encoder.setPaused_complies paused host.now host.stateChange calm
        rw [changed]
        refine ⟨rfl, rfl, fun result => by rw [phase]; nofun, rfl, ?_⟩
        rw [announced]
        unfold Engine.announced
        rw [state]
        rfl
    · rw [sending] at gone
      cases gone

theorem Works.of_same (main : after.main = before.main) (paused : after.paused = before.paused)
    (worker : ∀ result, after.worker ≠ .ended result) (queue : after.queue = before.queue)
    (state : after.encoder.pausedAt = before.encoder.pausedAt) : Works before after where
  main := main
  paused := paused
  worker := worker
  receiving := by rw [queue]
  announced := by
    unfold Engine.announced
    rw [queue, state]

theorem Works.began {input : EncodeFrame} : Works before (before.beginPush input).1 := by
  unfold beginPush
  dsimp only
  split
  · exact .of_same rfl rfl nofun rfl rfl
  · exact .of_same rfl rfl nofun rfl rfl

theorem Works.wrote {input : EncodeFrame} {plan : Plan} {index : Nat} {host : WorkerHost}
    (complies : (host.prepare.isOk && host.push.isOk) = true) :
    Works before (before.pushOne input plan index host).1 := by
  unfold pushOne
  cases prepared : host.prepare with
  | error => rw [prepared] at complies; cases complies
  | ok =>
    cases pushed : host.push with
    | error => rw [prepared, pushed] at complies; cases complies
    | ok => exact .of_same rfl rfl nofun rfl rfl

/-- A worker that neither stops nor has ended goes on. -/
theorem Works.step {host : WorkerHost} (calm : before.complies host = true) (sending : before.queue.sending = true)
    (working : ∀ result, before.worker ≠ .ended result) (going : before.worker ≠ .stopping) :
    Works before (before.workerStep host).1 := by
  unfold workerStep
  cases phase : before.worker with
  | receiving => exact .received phase calm sending
  | holding input => exact .began
  | pushing input plan index =>
    unfold complies at calm
    rw [phase] at calm
    dsimp only at calm ⊢
    by_cases within : index ≤ plan.frameIndex
    · rw [if_pos within] at calm ⊢
      exact .wrote calm
    · rw [if_neg within]
      exact .of_same rfl rfl nofun rfl rfl
  | stopping => exact absurd phase going
  | ended result => exact absurd phase (working result)

/-! ## Every turn -/

theorem Told.finalizes (told : Told history before) : Transition.Throughout Finalizes history := by
  have none : history = [] → Transition.Throughout Finalizes history := fun empty => empty ▸ trivial
  unfold Told at told
  generalize before.main = main at told
  generalize before.worker = worker at told
  cases main with
  | returned result =>
    rw [told.2]
    exact ⟨⟨rfl, rfl⟩, ⟨rfl, rfl⟩, trivial⟩
  | joining =>
    cases worker with
    | ended =>
      rw [told]
      exact ⟨⟨rfl, rfl⟩, trivial⟩
    | receiving | holding | pushing | stopping => exact none told
  | deciding | announcing | idling | resuming | taking | capturing | sending | pausing | finishing =>
    cases worker with
    | ended => exact told.elim
    | receiving | holding | pushing | stopping => exact none told

theorem Told.working (told : Told history before) (goes : returned before.main = false)
    (working : ∀ result, before.worker ≠ .ended result) : history = [] := by
  unfold Told at told
  generalize before.main = main at told goes
  generalize before.worker = worker at told working
  cases worker with
  | ended result => exact absurd rfl (working result)
  | receiving | holding | pushing | stopping =>
    cases main with
    | returned => cases goes
    | deciding | announcing | idling | resuming | taking | capturing | sending | pausing | finishing | joining =>
      exact told

/-- Turns that only the guards and the release channel see. -/
theorem Orderly.of_same (orderly : Orderly history before) (finishing : Finishing after)
    (main : after.main = before.main) (paused : after.paused = before.paused) (worker : after.worker = before.worker)
    (queue : after.queue = before.queue) (encoder : after.encoder = before.encoder) : Orderly history after where
  finishing := finishing
  receiving := by
    rw [worker, queue]
    exact orderly.receiving
  agrees := by
    unfold announced
    rw [main, paused, queue, encoder]
    exact orderly.agrees
  told := by
    unfold Told
    rw [main, worker]
    exact orderly.told

theorem Orderly.joined {cancelled : Option Nat} (orderly : Orderly history before)
    (phase : before.main = .joining cancelled) :
    Orderly ((if returned before.join.main then [.exited true] else []) ++ history) before.join := by
  unfold join
  split
  · rename_i result state
    have told := orderly.told
    unfold Told at told
    rw [phase, state] at told
    refine ⟨orderly.finishing.of_same rfl nofun id, fun working => absurd state (working result), trivial, state, ?_⟩
    rw [told]
    rfl
  · rw [phase]
    exact orderly

/-- The worker, told to finish by a loop that waits for it, ends the stream. -/
theorem Orderly.ended {cancelled : Option Nat} (orderly : Orderly history before)
    (phase : before.main = .joining cancelled) (playing : before.encoder.pausedAt.isSome = false)
    (result : Except String EncoderStats) : Orderly [.endOfStream true] (before.endWorker result) where
  finishing := orderly.finishing.ended before.releases
  receiving working := absurd rfl (working result)
  agrees := by
    dsimp only [endWorker]
    rw [phase]
    exact playing
  told := by
    unfold Told
    dsimp only [endWorker]
    rw [phase]

theorem Orderly.main_turn {host : MainHost} (orderly : Orderly history before) (goes : returned before.main = false)
    (calm : before.leavesOrderly host = true) :
    Orderly (before.exit host ++ history) (before.mainStep host).1 := by
  have finishing := orderly.finishing.step (mainStep_effect before host)
  cases running : leaving before.main with
  | false =>
    have stays := orderly.loop running calm
    obtain ⟨seen, working⟩ := told_running orderly.told running
    have quiet : before.exit host = [] := by
      unfold exit
      rw [stays.goes]
      rfl
    rw [quiet]
    refine ⟨finishing, ?_, stays.agrees, told_of_running seen (stays.worker ▸ working) rfl stays.goes⟩
    rw [stays.receiving]
    exact fun _ => orderly.receiving working
  | true =>
    cases phase : before.main with
    | returned => rw [phase] at goes; cases goes
    | deciding | announcing | idling | resuming | taking | capturing | sending | pausing | finishing =>
      rw [phase] at running; cases running
    | joining cancelled =>
      unfold exit mainStep
      rw [phase]
      exact orderly.joined phase

theorem Orderly.worker_turn {host : WorkerHost} (orderly : Orderly history before) (goes : returned before.main = false)
    (calm : before.complies host = true) : Orderly (before.streamEnd ++ history) (before.workerStep host).1 := by
  have finishing := orderly.finishing.step (workerStep_effect before host)
  by_cases ended : ∃ result, before.worker = .ended result
  · obtain ⟨result, state⟩ := ended
    unfold streamEnd workerStep
    rw [state]
    exact orderly
  · have working : ∀ result, before.worker ≠ .ended result := fun result state => ended ⟨result, state⟩
    have seen := orderly.told.working goes working
    by_cases stopping : before.worker = .stopping
    · -- Only a loop that waits for the worker has told it to finish.
      cases phase : before.main with
      | returned => rw [phase] at goes; cases goes
      | deciding | announcing | idling | resuming | taking | capturing | sending | pausing | finishing =>
        exact absurd stopping (orderly.finishing.early (by rw [phase]; rfl)).2
      | joining cancelled =>
        have playing : before.encoder.pausedAt.isSome = false := by
          have agrees := orderly.agrees
          rw [phase] at agrees
          unfold Agrees announced at agrees
          rw [orderly.finishing.drained stopping] at agrees
          exact agrees
        have plays : before.encoder.pausedAt.isNone = true := by simpa using playing
        unfold streamEnd workerStep
        rw [stopping, seen, plays]
        cases host.stop with
        | error text => exact orderly.ended phase playing _
        | ok => exact orderly.ended phase playing _
    · have works := Works.step calm orderly.finishing.sending working stopping
      have quiet : before.streamEnd = [] := by
        unfold streamEnd
        generalize before.worker = worker at stopping
        cases worker with
        | stopping => exact absurd rfl stopping
        | receiving | holding | pushing | ended => rfl
      rw [quiet]
      refine ⟨finishing, ?_, ?_, told_of_running seen works.worker works.main goes⟩
      · rw [works.receiving]
        exact fun _ => orderly.receiving working
      · rw [works.main, works.paused, works.announced]
        exact orderly.agrees

theorem step_returned (gone : returned before.main = true) (turn : Turn) : before.step turn = (before, []) := by
  unfold Engine.step
  generalize before.main = main at gone
  cases main with
  | returned => rfl
  | deciding | announcing | idling | resuming | taking | capturing | sending | pausing | finishing | joining =>
    cases gone

theorem step_going (goes : returned before.main = false) (turn : Turn) :
    before.step turn = match turn with
      | .main host => before.mainStep host
      | .worker host => before.workerStep host
      | .finalized place => (before.finalizeBuffer place, [])
      | .checked place => before.maybeReturn place := by
  unfold Engine.step
  generalize before.main = main at goes
  cases main with
  | returned => cases goes
  | deciding | announcing | idling | resuming | taking | capturing | sending | pausing | finishing | joining => rfl

theorem finalizeBuffer_keeps (engine : Engine) (place : Nat) :
    (engine.finalizeBuffer place).main = engine.main ∧ (engine.finalizeBuffer place).paused = engine.paused ∧
      (engine.finalizeBuffer place).worker = engine.worker ∧ (engine.finalizeBuffer place).queue = engine.queue ∧
        (engine.finalizeBuffer place).encoder = engine.encoder := by
  unfold finalizeBuffer
  split
  · exact ⟨rfl, rfl, rfl, rfl, rfl⟩
  · split <;> exact ⟨rfl, rfl, rfl, rfl, rfl⟩

theorem maybeReturn_keeps (engine : Engine) (place : Nat) :
    (engine.maybeReturn place).1.main = engine.main ∧ (engine.maybeReturn place).1.paused = engine.paused ∧
      (engine.maybeReturn place).1.worker = engine.worker ∧ (engine.maybeReturn place).1.queue = engine.queue ∧
        (engine.maybeReturn place).1.encoder = engine.encoder := by
  unfold maybeReturn
  split
  · exact ⟨rfl, rfl, rfl, rfl, rfl⟩
  · split
    · exact ⟨rfl, rfl, rfl, rfl, rfl⟩
    · split <;> exact ⟨rfl, rfl, rfl, rfl, rfl⟩

theorem Orderly.step {turn : Turn} (orderly : Orderly history before) (calm : Undisturbed history before turn) :
    Orderly ((watch before turn).2 ++ history) (watch before turn).1 := by
  have finishing := orderly.finishing.step (step_effect before turn)
  unfold watch milestones
  cases goes : returned before.main with
  | true =>
    rw [if_pos rfl, step_returned goes]
    exact orderly
  | false =>
    rw [if_neg Bool.false_ne_true]
    rw [step_going goes] at finishing ⊢
    cases turn with
    | main host => exact orderly.main_turn goes calm
    | worker host => exact orderly.worker_turn goes calm
    | finalized place =>
      obtain ⟨main, paused, worker, queue, encoder⟩ := before.finalizeBuffer_keeps place
      exact orderly.of_same finishing main paused worker queue encoder
    | checked place =>
      obtain ⟨main, paused, worker, queue, encoder⟩ := before.maybeReturn_keeps place
      exact orderly.of_same finishing main paused worker queue encoder

theorem initial_orderly (fps : Nat) (commitPaced : Bool) : Orderly [] (initial fps commitPaced) where
  finishing := (initial_pooled fps commitPaced).finishing
  receiving _ := rfl
  agrees := rfl
  told := rfl

/-- While the loop is stopped only as it records, no early return is taken and the
pipeline takes its frames and changes of state, every exit follows one end of
the stream, in a pipeline that plays, and returns what the joined worker made. -/
theorem recording_finalized (fps : Nat) (commitPaced : Bool) {engine : Engine}
    (run : Transition.Run watch Undisturbed (· = initial fps commitPaced) history engine) :
    Transition.Throughout Finalizes history ∧ ∀ result, engine.main = .returned result →
      engine.worker = .ended result ∧ history = [.exited true, .endOfStream true] := by
  have orderly : Orderly history engine := by
    refine Transition.Run.invariant ?_ ?_ run
    · intro engine begun
      rw [begun]
      exact initial_orderly fps commitPaced
    · intro history engine turn _ calm orderly
      exact orderly.step calm
  refine ⟨orderly.told.finalizes, fun result phase => ?_⟩
  have told := orderly.told
  unfold Told at told
  rw [phase] at told
  exact told

/-- Pause, then stop. -/
def pausedStop : List Turn :=
  [.main { commands := { togglePause := true } }, .main {}, .worker {}, .main { command := .stop }, .main {},
    .worker {}, .worker { stop := .error "encoder timed out while finalizing the recording index" }, .main {}]

/-- The stream of a paused pipeline is ended. -/
theorem recording_not_finalized :
    ¬∀ history engine, Transition.Run watch Transition.unrestricted (· = initial 30 false) history engine →
      Transition.Throughout Finalizes history := by
  intro always
  have begun : Transition.Run watch Transition.unrestricted (· = initial 30 false) [] (initial 30 false) := .start rfl
  have stopped := begun.execute pausedStop (Transition.permits_unrestricted _ _ _ _)
  rw [List.append_nil] at stopped
  have seen : (Transition.execute watch (initial 30 false) pausedStop).2 = [.exited true, .endOfStream false] := by
    decide +kernel
  rw [seen] at stopped
  exact Bool.false_ne_true (always _ _ stopped).2.1.1

/-- A recording of one frame that is paused, resumed and stopped. -/
theorem recording_finalized_oneFrame :
    let turns : List Turn :=
      [.main { commands := { togglePause := true } }, .main {}, .worker {}, .main { command := .pause }, .main {},
        .worker {}, .main {}, .main {}, .main { event := .ready (some 1000) }, .main {}, .worker {}, .worker {},
        .worker {}, .main { commands := { stop := true } }, .main {}, .worker {}, .worker {}, .worker {}, .main {}]
    let final := Transition.execute watch (initial 30 false) turns
    returned final.1.main = true ∧ final.2 = [.exited true, .endOfStream true] := by
  intro turns final
  have begun : Transition.Run watch Undisturbed (· = initial 30 false) [] (initial 30 false) := .start rfl
  have run := begun.execute turns (by decide +kernel)
  rw [List.append_nil] at run
  have ends : returned final.1.main = true := by decide +kernel
  refine ⟨ends, ?_⟩
  cases phase : final.1.main with
  | returned result => exact ((recording_finalized 30 false run).2 result phase).2
  | deciding | announcing | idling | resuming | taking | capturing | sending | pausing | finishing | joining =>
    rw [phase] at ends
    cases ends

end Engine

end Luma.Recorder
