import Luma.Muxer.SessionRuns

/-! When a muxing session comes to its end.

A session that has not spawned FFmpeg needs two turns of the receiving thread
to spawn it or return. One that has left its receive loop with an error returns
after one turn of the receiving thread, six of the writer and two more of the
receiving thread, whatever happens in between.
-/

set_option autoImplicit false

namespace Luma.Muxer

open Luma.Library Luma.Protocol Transition

def Turn.isMain : Turn → Bool
  | .main _ => true
  | .writer _ => false

def Turn.isWriter : Turn → Bool
  | .main _ => false
  | .writer _ => true

namespace Session

theorem writerStep_rest (session : Session) (host : WriterHost) :
    let after := (session.writerStep host).1
    after = { session with queue := after.queue, writer := after.writer } ∧
      after.queue.sending = session.queue.sending := by
  have effect := writerStep_effect session host
  generalize (session.writerStep host).1 = after at effect ⊢
  generalize (session.writerStep host).2 = seen at effect
  cases effect <;> exact ⟨rfl, rfl⟩

/-! ## Up to the spawn -/

/-- Messages still to be read before the spawn. -/
def openingLeft (session : Session) : Nat :=
  match session.main with
  | .authenticating => 2
  | .starting => 1
  | _ => 0

theorem openingLeft_authenticate (session : Session) (host : MainHost) :
    (session.authenticate host).1.openingLeft ≤ 1 := by
  unfold authenticate
  split
  · simp [return_, openingLeft]
  · split <;> simp [return_, openingLeft]

theorem openingLeft_awaitStart (session : Session) (host : MainHost) :
    (session.awaitStart host).1.openingLeft = 0 := by
  unfold awaitStart
  split
  · split <;> simp [return_, openingLeft]
  · simp [return_, openingLeft]
  · simp [return_, openingLeft]

theorem openingLeft_falls (session : Session) (turn : Turn) :
    (step session turn).1.openingLeft ≤ session.openingLeft - turn.isMain.toNat := by
  cases turn with
  | writer host =>
    have rest := (writerStep_rest session host).1
    have same : (session.writerStep host).1.openingLeft = session.openingLeft := by
      rw [rest]
      rfl
    simp [step, same, Turn.isMain]
  | main host =>
    cases phase : session.main with
    | authenticating =>
      simpa [step, mainStep, phase, openingLeft, Turn.isMain] using openingLeft_authenticate session host
    | starting =>
      simpa [step, mainStep, phase, openingLeft, Turn.isMain] using openingLeft_awaitStart session host
    | _ =>
      -- Later places never go back.
      have effect := mainStep_effect session host
      have zero : (session.mainStep host).1.openingLeft = 0 := by
        generalize (session.mainStep host).1 = after at effect ⊢
        generalize (session.mainStep host).2 = seen at effect
        cases effect <;> simp_all [openingLeft, break_]
      simp [step, zero]

/-! ## After the loop -/

/-- Turns of the writer until it is over, once nothing more is sent. -/
def writerLeft (session : Session) : Nat :=
  match session.writer.phase with
  | .absent | .ended _ => 0
  | .launching => session.queue.queue.length + 2
  | .receiving => session.queue.queue.length + 1
  | .finalizing => 1

/-- The receiving thread is before the spawn of the writer or has joined it. -/
def alone (main : Main) : Bool :=
  match main with
  | .authenticating | .starting | .spawning _ | .reaping | .returned _ => true
  | _ => false

/-- The queue is bounded, its sender gone when the writer is joined, and the
writer has no turn left outside of its life. -/
structure Orderly (session : Session) : Prop where
  capacity : session.queue.capacity = maxQueuedAccessUnits
  bounded : session.queue.queue.length ≤ maxQueuedAccessUnits
  joining : session.main = .joining → session.queue.sending = false
  ceased : alone session.main = true → session.writerLeft = 0
  present : alone session.main = false → session.writer.phase ≠ .absent

/-- The receive loop is over, and the receiving thread waits for nothing but the
end of the writer. -/
def Closing (session : Session) : Prop :=
  match session.main with
  | .finishing => ¬(session.gracefulEnd = true ∧ session.outcome = .ok ())
  | .joining | .reaping | .returned _ => True
  | _ => False

def finishingLeft (session : Session) : Nat :=
  match session.main with
  | .finishing => 1
  | _ => 0

/-- Turns of the receiving thread once the writer is over. -/
def closingLeft (session : Session) : Nat :=
  match session.main with
  | .finishing => 3
  | .joining => 2
  | .reaping => 1
  | _ => 0

theorem WriterEffect.writerLeft {before after : Session} {seen : List Observation}
    (effect : WriterEffect before after seen) : after.writerLeft ≤ before.writerLeft := by
  cases effect with
  | idle => exact Nat.le_refl _
  | launched phase => simp [Session.writerLeft, phase]
  | failed writer joined alive ceased bad => simp [Session.writerLeft, ceased]
  | pushed au rest phase queued => simp [Session.writerLeft, phase, queued]
  | finishing rest phase queued => simp [Session.writerLeft, phase, queued]
  | finalized phase => simp [Session.writerLeft, endWriter]

theorem Orderly.writer {session : Session} (orderly : Orderly session) (host : WriterHost) :
    Orderly (session.writerStep host).1 := by
  have effect := writerStep_effect session host
  obtain ⟨rest, sending⟩ := writerStep_rest session host
  have main : (session.writerStep host).1.main = session.main := by rw [rest]
  have left := effect.writerLeft
  constructor
  · generalize (session.writerStep host).1 = after at effect ⊢
    generalize (session.writerStep host).2 = seen at effect
    cases effect <;> exact orderly.capacity
  · have bounded := orderly.bounded
    generalize (session.writerStep host).1 = after at effect ⊢
    generalize (session.writerStep host).2 = seen at effect
    cases effect with
    | pushed au rest phase queued =>
      rw [queued] at bounded
      exact Nat.le_trans (Nat.le_succ _) bounded
    | finishing rest phase queued =>
      rw [queued] at bounded
      exact Nat.le_trans (Nat.le_succ _) bounded
    | failed => exact Nat.zero_le _
    | finalized => exact Nat.zero_le _
    | idle => exact bounded
    | launched => exact bounded
  · rw [main, sending]
    exact orderly.joining
  · rw [main]
    intro later
    have none := orderly.ceased later
    omega
  · rw [main]
    intro with_writer
    have present := orderly.present with_writer
    generalize (session.writerStep host).1 = after at effect ⊢
    generalize (session.writerStep host).2 = seen at effect
    cases effect with
    | idle => exact present
    | failed writer joined alive ceased bad =>
      rw [ceased]
      simp
    | pushed au rest phase queued => exact present
    | launched | finishing | finalized => exact (fun wrong => nomatch wrong)

theorem Orderly.main {session : Session} (orderly : Orderly session) (host : MainHost) :
    Orderly (session.mainStep host).1 := by
  have effect := mainStep_effect session host
  generalize (session.mainStep host).1 = after at effect ⊢
  generalize (session.mainStep host).2 = seen at effect
  obtain ⟨capacity, bounded, joining, ceased, present⟩ := orderly
  cases effect with
  | idle => exact ⟨capacity, bounded, joining, ceased, present⟩
  | refused channel error early =>
    refine ⟨capacity, bounded, (fun wrong => nomatch wrong), fun _ => ceased ?_, (fun wrong => nomatch wrong)⟩
    rcases early with early | early | ⟨config, early⟩ <;> rw [early] <;> rfl
  | forwarded au pending open_ space =>
    refine ⟨capacity, ?_, (fun wrong => nomatch wrong), (fun wrong => nomatch wrong),
      fun _ => present (by rw [pending]; rfl)⟩
    rw [capacity] at space
    simpa using Nat.succ_le_of_lt space
  | asked at_end graceful ok open_ space =>
    refine ⟨capacity, ?_, fun _ => rfl, (fun wrong => nomatch wrong), fun _ => present (by rw [at_end]; rfl)⟩
    rw [capacity] at space
    simpa using Nat.succ_le_of_lt space
  | unasked phase | unanswered _ phase =>
    exact ⟨capacity, bounded, fun _ => rfl, (fun wrong => nomatch wrong), fun _ => present (by rw [phase]; rfl)⟩
  | joined written waiting ended =>
    exact ⟨capacity, bounded, (fun wrong => nomatch wrong), fun _ => by simp [writerLeft, ended],
      (fun wrong => nomatch wrong)⟩
  | joinedFailure error waiting ended =>
    obtain ⟨joined, ended⟩ := ended
    exact ⟨capacity, bounded, (fun wrong => nomatch wrong), fun _ => by simp [writerLeft, ended],
      (fun wrong => nomatch wrong)⟩
  | authenticated _ _ _ phase | started _ phase =>
    exact ⟨capacity, bounded, (fun wrong => nomatch wrong), fun _ => ceased (by rw [phase]; rfl),
      (fun wrong => nomatch wrong)⟩
  | finished phase | unfinished _ phase | cleaned _ phase =>
    exact ⟨capacity, bounded, (fun wrong => nomatch wrong), fun _ => ceased (by rw [phase]; rfl),
      (fun wrong => nomatch wrong)⟩
  | reported hookStats phase =>
    exact ⟨capacity, bounded, by simp [phase], by simp [phase, alone], fun _ => present (by rw [phase]; rfl)⟩
  | spawned =>
    exact ⟨capacity, bounded, (fun wrong => nomatch wrong), (fun wrong => nomatch wrong), fun _ => by simp⟩
  | accepted _ _ phase | stopped phase | rejected _ _ _ phase | ended phase | failed _ _ phase | unsent _ phase =>
    exact ⟨capacity, bounded, (fun wrong => nomatch wrong), (fun wrong => nomatch wrong),
      fun _ => present (by rw [phase]; rfl)⟩

theorem Orderly.step {session : Session} (orderly : Orderly session) (turn : Turn) :
    Orderly (Session.step session turn).1 := by
  cases turn with
  | main host => exact orderly.main host
  | writer host => exact orderly.writer host

theorem Runs.orderly {options : Options} {sessionId : UInt64} {stream : ByteStream} {history : List Observation}
    {session : Session} (run : Runs options sessionId stream history session) : Orderly session := by
  apply run.state_invariant
  · intro state at_start
    rw [at_start]
    exact ⟨rfl, Nat.zero_le _, (fun wrong => nomatch wrong), fun _ => rfl, (fun wrong => nomatch wrong)⟩
  · intro history state turn _ orderly
    exact orderly.step turn

/-- A session that can neither go on in its loop nor end well is closing, and
when it has returned it has failed and removed the output. -/
theorem Loop.failed {origin : Channel} {later : List Observation} {session : Session} (loop : Loop origin later session)
    (stuck : ∀ noted, ¬Looping origin later session noted) (incomplete : ¬Complete origin later session) :
    Closing session ∧ ∀ result, session.main = .returned result →
      (∃ error, result = .error error) ∧ .removed ∈ later := by
  have place := loop.place
  unfold Place at place
  unfold Closing
  cases phase : session.main with
  | authenticating | starting | spawning _ => simp only [phase] at place
  | receiving | sending _ =>
    simp only [phase] at place
    exact absurd place (stuck _)
  | finishing =>
    simp only [phase] at place
    exact ⟨fun clean => incomplete (place.2 clean.2), (fun _ same => nomatch same)⟩
  | joining | reaping => exact ⟨trivial, (fun _ same => nomatch same)⟩
  | returned result =>
    refine ⟨trivial, fun other same => ?_⟩
    cases same
    cases result with
    | ok stats =>
      simp only [phase] at place
      exact absurd place.1 incomplete
    | error error =>
      simp only [phase] at place
      exact ⟨⟨error, rfl⟩, place.resolve_right incomplete⟩

/-- A turn of the receiving thread moves a closing session on, unless it waits
for the writer. -/
theorem Closing.main {session : Session} (closing : Closing session) (host : MainHost) :
    Closing (session.mainStep host).1 ∧ (session.mainStep host).1.finishingLeft = 0 ∧
      (session.mainStep host).1.writer = session.writer ∧
      (session.mainStep host).1.queue.queue = session.queue.queue ∧
      ((session.main = .joining → ∃ joined, session.writer.phase = .ended joined) →
        (session.mainStep host).1.closingLeft ≤ session.closingLeft - 1) := by
  unfold Closing at closing
  cases phase : session.main with
  | finishing =>
    simp only [phase] at closing
    simp only [mainStep, phase, finish, if_neg closing]
    exact ⟨trivial, rfl, trivial, by rfl, fun _ => by simp [closingLeft, phase]⟩
  | joining =>
    simp only [mainStep, phase, join]
    split
    · exact ⟨trivial, rfl, rfl, rfl, fun _ => by simp [closingLeft, phase]⟩
    · exact ⟨trivial, rfl, rfl, rfl, fun _ => by simp [closingLeft, phase]⟩
    · exact ⟨trivial, rfl, rfl, rfl, fun _ => by simp [closingLeft, phase]⟩
    · rename_i stuck stuck' stuck''
      refine ⟨by simp [Closing, phase], by simp [finishingLeft, phase], rfl, rfl, ?_⟩
      intro ceased
      obtain ⟨joined, ended⟩ := ceased trivial
      cases joined with
      | ok written => exact absurd ended (stuck written)
      | failed text => exact absurd ended (stuck' text)
      | panicked => exact absurd ended stuck''
  | reaping =>
    have left : session.closingLeft = 1 := by simp [closingLeft, phase]
    rw [left]
    simp only [mainStep, phase, reap]
    split
    · split <;> exact ⟨trivial, rfl, rfl, rfl, fun _ => Nat.le_refl _⟩
    · split <;> exact ⟨trivial, rfl, rfl, rfl, fun _ => Nat.le_refl _⟩
  | returned result =>
    simp only [mainStep, phase]
    exact ⟨by simp [Closing, phase], by simp [finishingLeft, phase], trivial, trivial,
      fun _ => by simp [closingLeft, phase]⟩
  | authenticating => simp only [phase] at closing
  | starting => simp only [phase] at closing
  | spawning config => simp only [phase] at closing
  | receiving => simp only [phase] at closing
  | sending au => simp only [phase] at closing

theorem Closing.writer {session : Session} (closing : Closing session) (host : WriterHost) :
    Closing (session.writerStep host).1 ∧ (session.writerStep host).1.finishingLeft = session.finishingLeft ∧
      (session.writerStep host).1.closingLeft = session.closingLeft := by
  have rest := (writerStep_rest session host).1
  rw [rest]
  exact ⟨closing, rfl, rfl⟩

theorem Closing.step {session : Session} (closing : Closing session) (turn : Turn) :
    Closing (Session.step session turn).1 := by
  cases turn with
  | main host => exact (closing.main host).1
  | writer host => exact (closing.writer host).1

/-- With nothing more to come, a turn of a living writer brings its end nearer. -/
theorem writerLeft_falls {session : Session} (sent : session.queue.sending = false) (host : WriterHost) :
    (session.writerStep host).1.writerLeft ≤ session.writerLeft - 1 := by
  unfold writerStep
  split
  · simp [writerLeft, endWriter]
  · unfold writerAction
    split
    · rename_i phase
      simp [writerLeft, phase]
    · rename_i phase
      split
      · simp [writerLeft, endWriter]
      · simp [writerLeft, phase]
    · rename_i phase
      obtain ⟨taken, after, read, shorter, _⟩ := SyncChannel.recv_of_hung_up sent
      rw [read]
      cases taken with
      | none => simp [writerLeft, endWriter]
      | some input =>
        have taken : after.queue.length + 1 = session.queue.queue.length := by
          rcases SyncChannel.recv_cases read with ⟨value, rest, _, queued, rfl⟩ | ⟨none, _⟩
          · simp [queued]
          · cases none
        cases input with
        | finish => simp [writerLeft, phase, ← taken]
        | accessUnit au =>
          dsimp only
          unfold writeUnit
          dsimp only
          split
          · simp [writerLeft, endWriter]
          · split
            · simp [writerLeft, endWriter]
            · simp [writerLeft, phase, ← taken]
    · unfold finalize
      split
      · simp [writerLeft, endWriter]
      · split <;> simp [writerLeft, endWriter]
    · rename_i phase
      simp [writerLeft, phase]

theorem returned_of_closed {session : Session} (closing : Closing session) (none : session.closingLeft = 0) :
    ∃ result, session.main = .returned result := by
  unfold Closing at closing
  unfold closingLeft at none
  cases phase : session.main with
  | returned result => exact ⟨result, rfl⟩
  | _ => simp_all

/-- The receiving thread has dropped its sender. -/
def Dropped (session : Session) : Prop := Closing session ∧ Orderly session ∧ session.finishingLeft = 0

theorem Dropped.step {session : Session} (dropped : Dropped session) (turn : Turn) :
    Dropped (Session.step session turn).1 := by
  obtain ⟨closing, orderly, finishing⟩ := dropped
  refine ⟨closing.step turn, orderly.step turn, ?_⟩
  cases turn with
  | main host => exact (closing.main host).2.1
  | writer host => exact (closing.writer host).2.1.trans finishing

theorem Dropped.writerLeft {session : Session} (dropped : Dropped session) (turn : Turn) :
    (Session.step session turn).1.writerLeft ≤ session.writerLeft - turn.isWriter.toNat := by
  obtain ⟨closing, orderly, finishing⟩ := dropped
  cases turn with
  | main host =>
    obtain ⟨_, _, writer, queue, _⟩ := closing.main host
    have same : (session.mainStep host).1.writerLeft = session.writerLeft := by
      unfold Session.writerLeft
      rw [writer, queue]
    simp [Session.step, same, Turn.isWriter]
  | writer host =>
    cases phase : session.main with
    | joining => exact writerLeft_falls (orderly.joining phase) host
    | reaping | returned _ =>
      -- The writer was over before.
      have ceased := orderly.ceased (by rw [phase]; rfl)
      have falls := (writerStep_effect session host).writerLeft
      simp only [Session.step]
      omega
    | finishing => simp [finishingLeft, phase] at finishing
    | authenticating | starting | spawning _ | receiving | sending _ => simp [Closing, phase] at closing

theorem Dropped.closingLeft {session : Session} (dropped : Dropped session) (ceased : session.writerLeft = 0)
    (turn : Turn) : (Session.step session turn).1.closingLeft ≤ session.closingLeft - turn.isMain.toNat := by
  obtain ⟨closing, orderly, finishing⟩ := dropped
  cases turn with
  | writer host =>
    obtain ⟨_, _, same⟩ := closing.writer host
    simp [Session.step, same, Turn.isMain]
  | main host =>
    apply (closing.main host).2.2.2.2
    intro joining
    have present := orderly.present (by rw [joining]; rfl)
    cases phase : session.writer.phase with
    | ended joined => exact ⟨joined, rfl⟩
    | absent => exact absurd phase present
    | launching | receiving | finalizing => simp [Session.writerLeft, phase] at ceased

theorem Dropped.two_left {session : Session} (dropped : Dropped session) : session.closingLeft ≤ 2 := by
  have finishing := dropped.2.2
  unfold finishingLeft at finishing
  unfold Session.closingLeft
  split at finishing
  · cases finishing
  · split <;> simp_all

/-- A session whose loop failed returns once the receiving thread ran, then the
writer six times and then the receiving thread twice, in any interleaving. -/
theorem Closing.returns {session : Session} (closing : Closing session) (orderly : Orderly session)
    (first middle last : List Turn) (drops : 1 ≤ first.countP Turn.isMain)
    (writes : maxQueuedAccessUnits + 2 ≤ middle.countP Turn.isWriter) (joins : 2 ≤ last.countP Turn.isMain) :
    ∃ result, (Transition.execute Session.step session (first ++ (middle ++ last))).1.main = .returned result := by
  rw [(Transition.execute_append Session.step first _ session).1, (Transition.execute_append Session.step middle last _).1]
  -- The sender is dropped, the writer ends, and the receiving thread joins it.
  obtain ⟨⟨closing, orderly⟩, finishing⟩ := Transition.execute_countdown Session.step
    (fun state => Closing state ∧ Orderly state) finishingLeft Turn.isMain
    (fun state turn holds => ⟨holds.1.step turn, holds.2.step turn⟩)
    (fun state turn holds => by
      cases turn with
      | main host => exact Nat.le_trans (Nat.le_of_eq (holds.1.main host).2.1) (Nat.zero_le _)
      | writer host => exact Nat.le_of_eq (holds.1.writer host).2.1)
    first session ⟨closing, orderly⟩
  have one : session.finishingLeft ≤ 1 := by
    unfold finishingLeft
    split <;> omega
  obtain ⟨dropped, writer⟩ := Transition.execute_countdown Session.step Dropped Session.writerLeft Turn.isWriter
    (fun state turn holds => holds.step turn) (fun state turn holds => holds.writerLeft turn)
    middle _ ⟨closing, orderly, by omega⟩
  have few : (Transition.execute Session.step session first).1.writerLeft ≤ maxQueuedAccessUnits + 2 := by
    have bounded := orderly.bounded
    unfold Session.writerLeft
    split <;> omega
  obtain ⟨⟨closed, _⟩, ended⟩ := Transition.execute_countdown Session.step
    (fun state => Dropped state ∧ state.writerLeft = 0) Session.closingLeft Turn.isMain
    (fun state turn holds => ⟨holds.1.step turn, by
      have falls := holds.1.writerLeft turn
      omega⟩)
    (fun state turn holds => holds.1.closingLeft holds.2 turn)
    last _ ⟨dropped, by omega⟩
  have two := dropped.two_left
  exact returned_of_closed closed.1 (by omega)

end Session

end Luma.Muxer
