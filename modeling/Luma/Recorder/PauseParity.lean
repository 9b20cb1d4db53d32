import Luma.Library.Text
import Luma.Recorder.Finalization

/-! The control pipe of the recorder engine.

The loop takes lines at its top, while it is paused and while it waits for a capture. Only two of these places tell the
encoder worker at once, and two lines that are taken together may cancel out.
-/

set_option autoImplicit false

namespace Luma.Recorder

open Luma.Library

/-- The engine behind its control pipe. -/
structure PipedEngine where
  engine : Engine
  /-- Lines that the reader thread has sent and the loop has not taken. -/
  lines : List String := []
  /-- The reader thread is gone. -/
  closed : Bool := false

inductive PipeTurn where
  | line (text : String)
  | endOfInput
  | turn (turn : Turn)

inductive PipeObservation where
  | consumed (line : String)
  | sent (command : EncoderCommand)
  deriving DecidableEq

def isPause (line : String) : Bool := Text.trim line = "pause"

def drainCommand (commands : Commands) (line : String) : Commands :=
  if Text.trim line = "stop" then { commands with stop := true }
  else if isPause line then { commands with togglePause := !commands.togglePause }
  else commands

def drainCommands (lines : List String) : Commands := lines.foldl drainCommand {}

/-- The command that the loop is about to send. -/
def Engine.outgoing (engine : Engine) : Option EncoderCommand :=
  match engine.main with
  | .announcing => some (.pause engine.paused)
  | .resuming => some (.pause false)
  | .sending input => some (.frame input)
  | .pausing => some (.pause true)
  | .finishing _ => some .finish
  | _ => none

/-- The command that the worker's queue takes in the loop's next turn. -/
def Engine.sent (engine : Engine) : List EncoderCommand :=
  match engine.outgoing with
  | none => []
  | some command =>
      match engine.queue.send command with
      | some (true, _) => [command]
      | _ => []

namespace PipedEngine

/-- What a paused loop receives. -/
def received (self : PipedEngine) : PausedCommand :=
  match self.lines with
  | [] => if self.closed then .disconnected else .timeout
  | line :: _ => if Text.trim line = "stop" then .stop else if isPause line then .pause else .other

/-- The lines that the loop takes in its next turn. -/
def taken (self : PipedEngine) (host : MainHost) : List String :=
  match self.engine.main with
  | .deciding => self.lines
  | .idling => self.lines.take 1
  | .capturing _ =>
      match host.event with
      | .disconnected _ => []
      | _ => self.lines
  | _ => []

def answered (self : PipedEngine) (host : MainHost) : MainHost :=
  { host with commands := drainCommands (self.taken host), command := self.received }

/-- At its end the reader thread sends a stop. -/
def step : Transition.Step PipedEngine PipeTurn PipeObservation
  | self, .line text => (if self.closed then self else { self with lines := self.lines ++ [text] }, [])
  | self, .endOfInput =>
      (if self.closed then self else { self with lines := self.lines ++ ["stop"], closed := true }, [])
  | self, .turn (.main host) =>
      ({ self with
          engine := (self.engine.step (.main (self.answered host))).1
          lines := self.lines.drop (self.taken host).length },
        self.engine.sent.map .sent ++ (self.taken host).reverse.map .consumed)
  | self, .turn other => ({ self with engine := (self.engine.step other).1 }, [])

def initial (fps : Nat) (commitPaced : Bool) : PipedEngine where
  engine := .initial fps commitPaced

abbrev Execution (fps : Nat) (commitPaced : Bool) : List PipeObservation → PipedEngine → Prop :=
  Transition.Run step Transition.unrestricted (· = initial fps commitPaced)

/-! ## The statement -/

def odd (count : Nat) : Bool := count % 2 == 1

/-- The pause lines that were taken. -/
def pauses : List PipeObservation → Nat
  | [] => 0
  | .consumed line :: earlier => pauses earlier + (isPause line).toNat
  | .sent _ :: earlier => pauses earlier

/-- The last `Pause` that was sent. -/
def lastPause : List PipeObservation → Bool
  | [] => false
  | .sent (.pause paused) :: _ => paused
  | .sent _ :: earlier | .consumed _ :: earlier => lastPause earlier

/-- A pause is sent for a change only, and a frame only while nothing is paused. -/
def Alternates : PipeObservation → List PipeObservation → Prop
  | .sent (.pause paused), earlier => lastPause earlier = !paused
  | .sent (.frame _), earlier => lastPause earlier = false
  | .sent .finish, _ | .consumed _, _ => True

/-- The flag of the loop, what the worker was told and what was asked for, by the place of the loop. -/
def Settled (paused last asked : Bool) : Main → Prop
  | .deciding => last = paused ∧ asked = paused
  | .announcing => last = !paused ∧ asked = paused
  | .idling => paused = true ∧ last = true ∧ asked = true
  | .resuming => paused = false ∧ last = true ∧ asked = false
  | .taking => paused = false ∧ last = false ∧ asked = false
  | .capturing _ | .sending _ => last = false ∧ asked = paused
  | .pausing => paused = true ∧ last = false ∧ asked = true
  | .finishing _ | .joining _ | .returned _ => True

def Agrees (history : List PipeObservation) (engine : Engine) : Prop :=
  Settled engine.paused (lastPause history) (odd (pauses history)) engine.main

/-! ## Lines -/

@[simp] theorem odd_zero : odd 0 = false := rfl

theorem odd_succ (count : Nat) : odd (count + 1) = !odd count := by
  unfold odd
  rcases Nat.mod_two_eq_zero_or_one count with even | uneven
  · simp [Nat.add_mod, even]
  · simp [Nat.add_mod, uneven]

theorem odd_add (first second : Nat) : odd (first + second) = (odd first != odd second) := by
  induction second with
  | zero => simp
  | succ second ih =>
    rw [← Nat.add_assoc, odd_succ, odd_succ, ih]
    cases odd first <;> cases odd second <;> rfl

theorem drainCommand_toggle (commands : Commands) (line : String) :
    (drainCommand commands line).togglePause = (commands.togglePause != isPause line) := by
  unfold drainCommand
  by_cases stops : Text.trim line = "stop"
  · have other : isPause line = false := by simp [isPause, stops]
    rw [if_pos stops, other, Bool.bne_false]
  · rw [if_neg stops]
    by_cases pauses : isPause line = true
    · rw [if_pos pauses, pauses, Bool.bne_true]
    · rw [if_neg pauses, (Bool.not_eq_true _).mp pauses, Bool.bne_false]

/-- A batch of lines toggles the pause if it is asked for an odd number of times. -/
theorem drainCommands_toggle (lines : List String) :
    (drainCommands lines).togglePause = odd (lines.countP isPause) := by
  have from_any : ∀ commands : Commands,
      (lines.foldl drainCommand commands).togglePause = (commands.togglePause != odd (lines.countP isPause)) := by
    induction lines with
    | nil => exact fun commands => (Bool.bne_false _).symm
    | cons line lines ih =>
      intro commands
      rw [List.foldl_cons, ih, drainCommand_toggle, List.countP_cons]
      cases pauses : isPause line with
      | false => simp
      | true =>
        simp only [↓reduceIte, odd_succ]
        cases commands.togglePause <;> cases odd (lines.countP isPause) <;> rfl
  rw [drainCommands, from_any]
  exact Bool.false_bne _

variable {history : List PipeObservation}

theorem consumed_cons (line : String) (lines : List String) :
    (line :: lines).reverse.map PipeObservation.consumed ++ history =
      lines.reverse.map .consumed ++ (.consumed line :: history) := by
  simp

/-- Lines that are taken together. -/
theorem pauses_consumed (lines : List String) :
    pauses (lines.reverse.map .consumed ++ history) = pauses history + lines.countP isPause := by
  induction lines generalizing history with
  | nil => rfl
  | cons line lines ih =>
    rw [consumed_cons, ih, pauses, List.countP_cons]
    cases isPause line with
    | false => rfl
    | true =>
      show pauses history + 1 + lines.countP isPause = pauses history + (lines.countP isPause + 1)
      omega

theorem lastPause_consumed (lines : List String) :
    lastPause (lines.reverse.map .consumed ++ history) = lastPause history := by
  induction lines generalizing history with
  | nil => rfl
  | cons line lines ih =>
    rw [consumed_cons, ih, lastPause]

theorem alternates_consumed (lines : List String) (alternates : Transition.Throughout Alternates history) :
    Transition.Throughout Alternates (lines.reverse.map .consumed ++ history) := by
  refine Transition.Throughout.append ?_ alternates
  intro observation there before
  obtain ⟨line, -, rfl⟩ := List.mem_map.mp there
  trivial

end PipedEngine

/-! ## Commands -/

namespace Engine

variable {engine : Engine} {command : EncoderCommand}

/-- The queue is full, or the worker is gone, or the command is in the queue. -/
theorem sent_cases (outgoing : engine.outgoing = some command) :
    engine.queue.send command = none ∧ engine.sent = [] ∨
      (∃ queue, engine.queue.send command = some (false, queue)) ∧ engine.sent = [] ∨
      ∃ queue, engine.queue.send command = some (true, queue) ∧ queue.queue = engine.queue.queue ++ [command] ∧
        engine.sent = [command] := by
  unfold Engine.sent
  simp only [outgoing]
  rcases answer : engine.queue.send command with _ | ⟨accepted, queue⟩
  · exact .inl ⟨rfl, rfl⟩
  rcases SyncChannel.send_cases answer with ⟨rfl, -, -, rfl⟩ | ⟨rfl, -, rfl⟩
  · exact .inr (.inr ⟨_, rfl, rfl, rfl⟩)
  · exact .inr (.inl ⟨⟨_, rfl⟩, rfl⟩)

theorem send_outcomes (next : Main) (stopped : String) (outgoing : engine.outgoing = some command) :
    engine.send command next stopped = engine ∧ engine.sent = [] ∨
      (∃ result, engine.send command next stopped = engine.return_ result) ∧ engine.sent = [] ∨
      ∃ queue, engine.send command next stopped = { engine with queue, main := next } ∧
        queue.queue = engine.queue.queue ++ [command] ∧ engine.sent = [command] := by
  unfold send
  rcases sent_cases outgoing with ⟨full, unsent⟩ | ⟨⟨queue, gone⟩, unsent⟩ | ⟨queue, accepted, grown, sent⟩
  · rw [full]
    exact .inl ⟨rfl, unsent⟩
  · rw [gone]
    exact .inr (.inl ⟨⟨_, rfl⟩, unsent⟩)
  · rw [accepted]
    exact .inr (.inr ⟨queue, rfl, grown, sent⟩)

theorem sendFrame_outcomes {input : EncodeFrame} (outgoing : engine.outgoing = some (.frame input)) :
    engine.sendFrame input = engine ∧ engine.sent = [] ∨
      (∃ result, engine.sendFrame input = engine.return_ result) ∧ engine.sent = [] ∨
      ∃ queue, engine.sendFrame input = { engine with
          queue
          capturedFrames := engine.capturedFrames + 1
          main := if engine.paused then .pausing else .deciding } ∧
        queue.queue = engine.queue.queue ++ [.frame input] ∧ engine.sent = [.frame input] := by
  unfold sendFrame
  rcases sent_cases outgoing with ⟨full, unsent⟩ | ⟨⟨queue, gone⟩, unsent⟩ | ⟨queue, accepted, grown, sent⟩
  · rw [full]
    exact .inl ⟨rfl, unsent⟩
  · rw [gone]
    exact .inr (.inl ⟨⟨_, rfl⟩, unsent⟩)
  · rw [accepted]
    exact .inr (.inr ⟨queue, rfl, grown, sent⟩)

/-- At the other places of the loop nothing is sent. -/
theorem unsent (nothing : engine.outgoing = none) : engine.sent = [] := by
  unfold Engine.sent
  rw [nothing]

end Engine

namespace PipedEngine

/-! ## One turn of the loop -/

structure Pacing (history : List PipeObservation) (engine : Engine) : Prop where
  agrees : Agrees history engine
  alternates : Transition.Throughout Alternates history

variable {self : PipedEngine} {history : List PipeObservation} {engine after : Engine}

theorem Pacing.settled (pacing : Pacing history engine) {place : Main} (here : engine.main = place) :
    Settled engine.paused (lastPause history) (odd (pauses history)) place := by
  rw [← here]
  exact pacing.agrees

/-- The loop goes on without a command, with the lines that it has taken. -/
theorem Pacing.took (pacing : Pacing history engine) (lines : List String)
    (settled : Settled after.paused (lastPause history) (odd (pauses history + lines.countP isPause)) after.main) :
    Pacing (lines.reverse.map .consumed ++ history) after where
  agrees := by
    rw [Agrees, lastPause_consumed, pauses_consumed]
    exact settled
  alternates := alternates_consumed lines pacing.alternates

/-- A command is sent, or the loop stays where it is or returns. -/
theorem Pacing.sends (pacing : Pacing history engine) {command : EncoderCommand}
    (outcomes : after = engine ∧ engine.sent = [] ∨ (∃ result, after = engine.return_ result) ∧ engine.sent = [] ∨
      engine.sent = [command] ∧ after.paused = engine.paused ∧
        Settled engine.paused (lastPause (.sent command :: history)) (odd (pauses history)) after.main)
    (alternates : Alternates (.sent command) history) :
    Pacing (engine.sent.map .sent ++ history) after := by
  rcases outcomes with ⟨rfl, unsent⟩ | ⟨⟨result, rfl⟩, unsent⟩ | ⟨sent, same, settled⟩
  · rw [unsent]
    exact pacing
  · rw [unsent]
    exact ⟨trivial, pacing.alternates⟩
  · rw [sent]
    refine ⟨?_, alternates, pacing.alternates⟩
    rw [Agrees, same]
    exact settled

theorem toggled (asked : Bool) (toggle : Bool) (paused : Bool) (same : asked = paused) :
    (asked != toggle) = if toggle then !paused else paused := by
  subst same
  cases toggle <;> cases asked <;> rfl

/-- The batch at the top of the loop. -/
theorem Pacing.decide (pacing : Pacing history engine) (place : engine.main = .deciding) (lines : List String) :
    Pacing (lines.reverse.map .consumed ++ history) (engine.decide (drainCommands lines)) := by
  obtain ⟨last, asked⟩ := pacing.settled place
  apply pacing.took
  unfold Engine.decide
  rw [odd_add, drainCommands_toggle, asked]
  split
  · trivial
  split
  · rename_i toggle
    rw [toggle, last]
    exact ⟨(Bool.not_not _).symm, Bool.bne_true _⟩
  · rename_i kept
    rw [Bool.not_eq_true] at kept
    rw [kept, last]
    unfold Engine.afterCommands
    cases engine.paused
    · exact ⟨rfl, rfl, rfl⟩
    · exact ⟨rfl, rfl, rfl⟩

/-- A line that is taken alone stops the recording, asks for the pause or does not. -/
theorem received_cases (self : PipedEngine) :
    self.received = .stop ∨ self.received = .disconnected ∨
      self.received = .pause ∧ odd ((self.lines.take 1).countP isPause) = true ∨
      (self.received = .other ∨ self.received = .timeout) ∧ odd ((self.lines.take 1).countP isPause) = false := by
  unfold PipedEngine.received
  cases self.lines with
  | nil =>
    simp only
    split
    · exact .inr (.inl rfl)
    · exact .inr (.inr (.inr ⟨.inr rfl, rfl⟩))
  | cons line rest =>
    have first : (line :: rest).take 1 = [line] := rfl
    simp only [first, List.countP_singleton]
    split
    · exact .inl rfl
    · split
      · exact .inr (.inr (.inl ⟨rfl, rfl⟩))
      · exact .inr (.inr (.inr ⟨.inl rfl, rfl⟩))

/-- One line while the loop is paused. -/
theorem Pacing.idle (pacing : Pacing history self.engine) (place : self.engine.main = .idling) :
    Pacing ((self.lines.take 1).reverse.map .consumed ++ history) (self.engine.idle self.received) := by
  obtain ⟨paused, last, asked⟩ := pacing.settled place
  apply pacing.took
  rw [odd_add, last, asked]
  unfold Engine.idle
  rcases self.received_cases with same | same | ⟨same, one⟩ | ⟨same | same, none⟩
  · rw [same]
    trivial
  · rw [same]
    trivial
  · rw [same, one]
    exact ⟨rfl, rfl, rfl⟩
  · rw [same, none]
    exact ⟨paused.symm, paused.symm⟩
  · rw [same, none]
    exact ⟨paused.symm, paused.symm⟩

/-- The batch behind a dispatch. -/
theorem Pacing.capture (pacing : Pacing history engine) {slot : Nat} (place : engine.main = .capturing slot)
    (host : MainHost) (lines : List String) (drained : host.commands = drainCommands lines) :
    Pacing (lines.reverse.map .consumed ++ history) (engine.capture slot host) := by
  obtain ⟨last, asked⟩ := pacing.settled place
  apply pacing.took
  have toggle := toggled (odd (pauses history)) (odd (lines.countP isPause)) engine.paused asked
  rw [odd_add, toggle, last, ← drainCommands_toggle, ← drained]
  unfold Engine.capture
  generalize (if host.commands.togglePause = true then !engine.paused else engine.paused) = paused
  split
  · trivial
  dsimp only
  split
  · trivial
  split
  · rw [place]
    exact ⟨rfl, rfl⟩
  · trivial
  · trivial
  · trivial
  · split
    · trivial
    · exact ⟨rfl, rfl⟩
  · trivial

/-- A command is sent, and the loop goes on at another place. -/
theorem Pacing.announce (pacing : Pacing history engine) {command : EncoderCommand} (next : Main) (stopped : String)
    (outgoing : engine.outgoing = some command) (alternates : Alternates (.sent command) history)
    (settled : Settled engine.paused (lastPause (.sent command :: history)) (odd (pauses history)) next) :
    Pacing (engine.sent.map .sent ++ history) (engine.send command next stopped) := by
  refine pacing.sends ?_ alternates
  rcases Engine.send_outcomes next stopped outgoing with blocked | gone | ⟨queue, same, -, sent⟩
  · exact .inl blocked
  · exact .inr (.inl gone)
  · rw [same]
    exact .inr (.inr ⟨sent, rfl, settled⟩)

theorem Pacing.sendFrame (pacing : Pacing history engine) {input : EncodeFrame} (place : engine.main = .sending input) :
    Pacing (engine.sent.map .sent ++ history) (engine.sendFrame input) := by
  obtain ⟨last, asked⟩ := pacing.settled place
  have outgoing : engine.outgoing = some (.frame input) := by
    unfold Engine.outgoing
    rw [place]
  have unpaused : Alternates (.sent (.frame input)) history := last
  refine pacing.sends ?_ unpaused
  rcases Engine.sendFrame_outcomes outgoing with blocked | gone | ⟨queue, same, -, sent⟩
  · exact .inl blocked
  · exact .inr (.inl gone)
  · rw [same]
    refine .inr (.inr ⟨sent, rfl, ?_⟩)
    have unchanged : lastPause (.sent (.frame input) :: history) = lastPause history := rfl
    rw [unchanged, last, asked]
    cases engine.paused
    · exact ⟨rfl, rfl⟩
    · exact ⟨rfl, rfl, rfl⟩

theorem observed_sent {host : MainHost} (none : self.taken host = []) :
    self.engine.sent.map PipeObservation.sent ++ (self.taken host).reverse.map .consumed ++ history =
      self.engine.sent.map .sent ++ history := by
  rw [none, List.reverse_nil, List.map_nil, List.append_nil]

theorem observed_taken {host : MainHost} {lines : List String} (nothing : self.engine.outgoing = none)
    (some : self.taken host = lines) :
    self.engine.sent.map PipeObservation.sent ++ (self.taken host).reverse.map .consumed ++ history =
      lines.reverse.map .consumed ++ history := by
  rw [Engine.unsent nothing, some]
  rfl

/-- Behind a dispatch the pipe is drained, unless the connection is lost. -/
theorem taken_capturing (self : PipedEngine) {slot : Nat} (place : self.engine.main = .capturing slot)
    (host : MainHost) :
    (∃ error, host.event = .disconnected error ∧ self.taken host = []) ∨ self.taken host = self.lines := by
  unfold PipedEngine.taken
  rw [place]
  cases event : host.event with
  | disconnected error => exact .inl ⟨error, rfl, rfl⟩
  | pending | ready | failed | stopped => exact .inr rfl

/-- One turn of the loop, by its place. -/
theorem Pacing.main (pacing : Pacing history self.engine) (host : MainHost) :
    Pacing (self.engine.sent.map .sent ++ (self.taken host).reverse.map .consumed ++ history)
      (self.engine.mainStep (self.answered host)).1 := by
  unfold Engine.mainStep
  cases place : self.engine.main with
  | deciding =>
    have drained : self.taken host = self.lines := by rw [PipedEngine.taken, place]
    rw [observed_taken (by rw [Engine.outgoing, place]) drained, PipedEngine.answered, drained]
    exact pacing.decide place self.lines
  | announcing =>
    obtain ⟨last, asked⟩ := pacing.settled place
    rw [observed_sent (by rw [PipedEngine.taken, place])]
    refine pacing.announce _ _ (by rw [Engine.outgoing, place]) last ?_
    rw [asked]
    unfold Engine.afterCommands
    cases self.engine.paused
    · exact ⟨rfl, rfl, rfl⟩
    · exact ⟨rfl, rfl, rfl⟩
  | idling =>
    rw [observed_taken (by rw [Engine.outgoing, place]) (by rw [PipedEngine.taken, place])]
    exact pacing.idle place
  | resuming =>
    obtain ⟨paused, last, asked⟩ := pacing.settled place
    rw [observed_sent (by rw [PipedEngine.taken, place])]
    exact pacing.announce _ _ (by rw [Engine.outgoing, place]) last ⟨paused.symm, asked.trans paused.symm⟩
  | taking =>
    obtain ⟨paused, last, asked⟩ := pacing.settled place
    rw [observed_taken (by rw [Engine.outgoing, place]) (by rw [PipedEngine.taken, place])]
    show Pacing _ self.engine.take.1
    refine pacing.took [] ?_
    unfold Engine.take
    split
    · exact ⟨last.trans paused.symm, asked.trans paused.symm⟩
    · exact ⟨last, asked.trans paused.symm⟩
  | capturing slot =>
    show Pacing _ (self.engine.capture slot (self.answered host))
    have silent : self.engine.outgoing = none := by rw [Engine.outgoing, place]
    rcases self.taken_capturing place host with ⟨error, event, none⟩ | drained
    · rw [observed_taken silent none]
      refine pacing.took [] ?_
      unfold Engine.capture
      rw [PipedEngine.answered, event]
      trivial
    · rw [observed_taken silent drained]
      exact pacing.capture place _ self.lines (congrArg drainCommands drained)
  | sending input =>
    rw [observed_sent (by rw [PipedEngine.taken, place])]
    exact pacing.sendFrame place
  | pausing =>
    obtain ⟨paused, last, asked⟩ := pacing.settled place
    rw [observed_sent (by rw [PipedEngine.taken, place])]
    exact pacing.announce _ _ (by rw [Engine.outgoing, place]) last ⟨paused.symm, asked.trans paused.symm⟩
  | finishing cancelled =>
    rw [observed_sent (by rw [PipedEngine.taken, place])]
    exact pacing.announce _ _ (by rw [Engine.outgoing, place]) trivial trivial
  | joining cancelled =>
    rw [observed_taken (by rw [Engine.outgoing, place]) (by rw [PipedEngine.taken, place])]
    show Pacing _ self.engine.join
    refine pacing.took [] ?_
    unfold Engine.join
    split
    · trivial
    · rw [place]
      trivial
  | returned result =>
    rw [observed_taken (by rw [Engine.outgoing, place]) (by rw [PipedEngine.taken, place])]
    exact pacing

/-! ## Runs -/

/-- The worker does not touch the loop. -/
theorem workerStep_loop (engine : Engine) (host : WorkerHost) :
    (engine.workerStep host).1.main = engine.main ∧ (engine.workerStep host).1.paused = engine.paused := by
  unfold Engine.workerStep
  split
  · unfold Engine.receiveCommand
    split
    · exact ⟨rfl, rfl⟩
    · exact ⟨rfl, rfl⟩
    · split
      · exact ⟨rfl, rfl⟩
      · exact ⟨rfl, rfl⟩
    · exact ⟨rfl, rfl⟩
    · exact ⟨rfl, rfl⟩
  · unfold Engine.beginPush
    simp only
    split
    · exact ⟨rfl, rfl⟩
    · exact ⟨rfl, rfl⟩
  · split
    · unfold Engine.pushOne
      split
      · exact ⟨rfl, rfl⟩
      · split
        · exact ⟨rfl, rfl⟩
        · exact ⟨rfl, rfl⟩
    · exact ⟨rfl, rfl⟩
  · split
    · exact ⟨rfl, rfl⟩
    · exact ⟨rfl, rfl⟩
  · exact ⟨rfl, rfl⟩

theorem Pacing.of_same (pacing : Pacing history engine)
    (same : after.main = engine.main ∧ after.paused = engine.paused) :
    Pacing history after where
  agrees := by
    rw [Agrees, same.1, same.2]
    exact pacing.agrees
  alternates := pacing.alternates

theorem Pacing.step (pacing : Pacing history self.engine) (turn : PipeTurn) :
    Pacing ((PipedEngine.step self turn).2 ++ history) (PipedEngine.step self turn).1.engine := by
  unfold PipedEngine.step
  split
  · simp only
    split <;> exact pacing
  · simp only
    split <;> exact pacing
  · rename_i host
    cases goes : Engine.returned self.engine.main with
    | true =>
      have ended : ∃ result, self.engine.main = .returned result := by
        generalize self.engine.main = main at goes
        cases main with
        | returned result => exact ⟨result, rfl⟩
        | deciding | announcing | idling | resuming | taking | capturing | sending | pausing | finishing | joining =>
          cases goes
      obtain ⟨result, place⟩ := ended
      rw [Engine.step_returned goes,
        observed_taken (by rw [Engine.outgoing, place]) (by rw [PipedEngine.taken, place])]
      exact pacing
    | false =>
      rw [Engine.step_going goes]
      exact pacing.main host
  · rename_i turn other
    cases goes : Engine.returned self.engine.main with
    | true =>
      rw [Engine.step_returned goes]
      exact pacing
    | false =>
      rw [Engine.step_going goes]
      cases turn with
      | main host => exact absurd rfl (other host)
      | worker host => exact pacing.of_same (workerStep_loop self.engine host)
      | finalized place =>
        obtain ⟨main, paused, -⟩ := self.engine.finalizeBuffer_keeps place
        exact pacing.of_same ⟨main, paused⟩
      | checked place =>
        obtain ⟨main, paused, -⟩ := self.engine.maybeReturn_keeps place
        exact pacing.of_same ⟨main, paused⟩

theorem Pacing.of_execution {fps : Nat} {commitPaced : Bool} (run : Execution fps commitPaced history self) :
    Pacing history self.engine := by
  induction run with
  | start begun =>
    cases begun
    exact ⟨⟨rfl, rfl⟩, trivial⟩
  | step turn _ _ pacing => exact pacing.step turn

end PipedEngine

end Luma.Recorder
