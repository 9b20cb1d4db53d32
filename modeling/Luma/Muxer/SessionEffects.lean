import Luma.Muxer.Session
import Luma.Protocol.Handshake

/-! What one turn of a muxing session can do.

`MainEffect` and `WriterEffect` list the outcomes of a turn of each thread;
every invariant of a session is proved by cases on them.
-/

set_option autoImplicit false

namespace Luma.Muxer.Session

open Luma.Library Luma.Protocol

/-- Messages that end the receive loop with an error. -/
def Rejects (stats : MuxerStats) : Message → Prop
  | .accessUnit au => ∃ text, stats.noteAccessUnit au = .error text
  | .stats _ | .stop => False
  | _ => True

inductive MainEffect (before : Session) (host : MainHost) : Session → List Observation → Prop where
  | idle : MainEffect before host before []
  | authenticated (channel : Channel) (pid capabilities : UInt32) : before.main = .authenticating →
      before.channel.recv.1 = .ok (.clientHello before.options.token pid capabilities) →
      Channel.SameReads channel before.channel.recv.2 →
      MainEffect before host { before with channel, main := .starting } [.authenticated pid capabilities]
  | started (config : VideoConfig) : before.main = .starting →
      before.channel.recv.1 = .ok (.start config) → validateStart config before.options.fps = .ok () →
      MainEffect before host { before with channel := before.channel.recv.2, main := .spawning config }
        [.received (.start config)]
  | refused (channel : Channel) (error : SessionError) :
      (before.main = .authenticating ∨ before.main = .starting ∨ ∃ config, before.main = .spawning config) →
      MainEffect before host { before with channel, main := .returned (.error error) } [.returned (.error error)]
  | spawned (config : VideoConfig) : before.main = .spawning config →
      MainEffect before host { before with main := .receiving, writer := { phase := .launching } } [.spawned config]
  | accepted (au : AccessUnit) (stats : MuxerStats) : before.main = .receiving →
      before.channel.recv.1 = .ok (.accessUnit au) → before.stats.noteAccessUnit au = .ok stats →
      MainEffect before host { before with channel := before.channel.recv.2, stats, main := .sending au }
        [.received (.accessUnit au)]
  | reported (hookStats : FrameStats) : before.main = .receiving → before.channel.recv.1 = .ok (.stats hookStats) →
      MainEffect before host
        { before with
          channel := before.channel.recv.2
          stats := { before.stats with latestHookStats := hookStats } } [.received (.stats hookStats)]
  | stopped : before.main = .receiving → before.channel.recv.1 = .ok .stop →
      MainEffect before host { before with channel := before.channel.recv.2, gracefulEnd := true, main := .finishing }
        [.received .stop]
  | rejected (channel : Channel) (message : Message) (error : SessionError) : before.main = .receiving →
      before.channel.recv.1 = .ok message → Rejects before.stats message →
      MainEffect before host ({ before with channel }.break_ error) [.received message]
  | ended : before.main = .receiving → before.channel.recv.1 = .error (.io unexpectedEof) →
      MainEffect before host { before with channel := before.channel.recv.2, gracefulEnd := true, main := .finishing }
        [.ended]
  | failed (channel : Channel) (error : SessionError) : before.main = .receiving →
      MainEffect before host ({ before with channel }.break_ error) []
  | forwarded (au : AccessUnit) : before.main = .sending au → before.queue.receiving = true →
      before.queue.queue.length < before.queue.capacity →
      MainEffect before host
        { before with
          queue := { before.queue with queue := before.queue.queue ++ [.accessUnit au] }
          main := .receiving } [.forwarded au]
  | unsent (au : AccessUnit) : before.main = .sending au → before.queue.receiving = false →
      MainEffect before host (before.break_ .writerStoppedBeforeAccessUnit) []
  | asked : before.main = .finishing → before.gracefulEnd = true → before.outcome = .ok () →
      before.queue.receiving = true → before.queue.queue.length < before.queue.capacity →
      MainEffect before host
        { before with
          queue := { before.queue with queue := before.queue.queue ++ [.finish], sending := false }
          main := .joining } [.finishRequested]
  | unasked : before.main = .finishing → (before.gracefulEnd = true → before.outcome ≠ .ok ()) →
      MainEffect before host { before with queue := before.queue.dropSender, main := .joining } []
  | unanswered (error : SessionError) : before.main = .finishing →
      MainEffect before host
        { before with queue := before.queue.dropSender, outcome := .error error, main := .joining } []
  | joined (written : Nat) : before.main = .joining → before.writer.phase = .ended (.ok written) →
      MainEffect before host
        { before with stats := { before.stats with writtenAccessUnits := written }, main := .reaping } []
  | joinedFailure (error : SessionError) : before.main = .joining →
      (∃ joined, before.writer.phase = .ended joined) →
      MainEffect before host { before with outcome := .error error, main := .reaping } []
  | finished : before.main = .reaping → before.outcome = .ok () → before.gracefulEnd = true →
      MainEffect before host { before with main := .returned (.ok before.stats) } [.returned (.ok before.stats)]
  | unfinished (text : String) : before.main = .reaping → before.outcome = .ok () → before.gracefulEnd = true →
      host.wait = .error text → MainEffect before host { before with main := .returned (.error (.ffmpeg text)) }
        [.returned (.error (.ffmpeg text))]
  | cleaned (result : Except SessionError MuxerStats) : before.main = .reaping →
      ¬(before.outcome = .ok () ∧ before.gracefulEnd = true) →
      (∀ error, before.outcome = .error error → result = .error error) →
      MainEffect before host { before with main := .returned result } [.returned result, .removed]

inductive WriterEffect (before : Session) : Session → List Observation → Prop where
  | idle : WriterEffect before before []
  | launched : before.writer.phase = .launching →
      WriterEffect before { before with writer := { before.writer with phase := .receiving } } []
  | failed (writer : Writer) (joined : Joined) : running before.writer.phase = true →
      writer.phase = .ended joined → (∀ written, joined ≠ .ok written) →
      WriterEffect before { before with queue := before.queue.dropReceiver, writer } []
  | pushed (au : AccessUnit) (rest : List WriterInput) : before.writer.phase = .receiving →
      before.queue.queue = .accessUnit au :: rest →
      WriterEffect before
        { before with
          queue := { before.queue with queue := rest }
          writer := { before.writer with
            firstPtsNs := some (before.writer.firstPtsNs.getD au.ptsNs)
            firstDtsNs := some (before.writer.firstDtsNs.getD au.dtsNs)
            written := before.writer.written + 1 } }
        [.pushed (bufferOf (before.writer.firstPtsNs.getD au.ptsNs) (before.writer.firstDtsNs.getD au.dtsNs) au)]
  | finishing (rest : List WriterInput) : before.writer.phase = .receiving →
      before.queue.queue = .finish :: rest →
      WriterEffect before
        { before with
          queue := { before.queue with queue := rest }
          writer := { before.writer with phase := .finalizing } } []
  | finalized : before.writer.phase = .finalizing →
      WriterEffect before (before.endWriter (.ok before.writer.written)) []

/-! ## The receiving thread -/

theorem authenticate_effect {session : Session} (at_start : session.main = .authenticating) (host : MainHost) :
    MainEffect session host (session.authenticate host).1 (session.authenticate host).2 := by
  unfold authenticate
  split
  · exact .refused session.channel _ (.inl at_start)
  · split
    · rename_i error channel handshake
      exact .refused channel _ (.inl at_start)
    · rename_i pid capabilities channel handshake
      obtain ⟨hello, along⟩ := Channel.serverHandshake_ok handshake
      exact .authenticated channel pid capabilities at_start hello along

theorem receive_cases (channel : Channel) (host : MainHost) :
    receive channel host = channel.recv ∨
      ∃ text, text ≠ unexpectedEof ∧ receive channel host = (.error (.io text), channel) := by
  unfold receive
  cases host.readFault with
  | none => exact .inl rfl
  | some fault => exact .inr ⟨fault.val, fault.property, rfl⟩

theorem awaitStart_effect {session : Session} (at_start : session.main = .starting) (host : MainHost) :
    MainEffect session host (session.awaitStart host).1 (session.awaitStart host).2 := by
  have refused (channel : Channel) (error : SessionError) :
      MainEffect session host { session with channel, main := .returned (.error error) } [.returned (.error error)] :=
    .refused channel error (.inr (.inl at_start))
  unfold awaitStart
  split
  · rename_i config channel received
    have read : session.channel.recv = (.ok (.start config), channel) := by
      rcases receive_cases session.channel host with plain | ⟨text, _, fault⟩
      · exact plain.symm.trans received
      · rw [fault] at received
        cases received
    split
    · exact refused _ _
    · rename_i valid
      obtain rfl : session.channel.recv.2 = channel := congrArg Prod.snd read
      exact .started config at_start (congrArg Prod.fst read) valid
  · exact refused _ _
  · exact refused _ _

theorem receiveNext_effect {session : Session} (looping : session.main = .receiving) (host : MainHost) :
    MainEffect session host (session.receiveNext host).1 (session.receiveNext host).2 := by
  unfold receiveNext
  rcases receive_cases session.channel host with plain | ⟨text, other, fault⟩
  · rw [plain]
    rcases received : session.channel.recv with ⟨error | message, channel⟩
    all_goals obtain rfl : session.channel.recv.2 = channel := congrArg Prod.snd received
    · dsimp only
      by_cases at_end : error = .io unexpectedEof
      · rw [if_pos at_end]
        exact .ended looping (by rw [received, at_end])
      · rw [if_neg at_end]
        exact .failed _ _ looping
    · have read : session.channel.recv.1 = .ok message := congrArg Prod.fst received
      cases message with
      | accessUnit au =>
        dsimp only
        cases noted : session.stats.noteAccessUnit au with
        | error text => exact .rejected _ _ _ looping read ⟨text, noted⟩
        | ok stats =>
          exact .accepted au stats looping read noted
      | stats hookStats => exact .reported hookStats looping read
      | stop => exact .stopped looping read
      | clientHello token pid capabilities => exact .rejected _ _ _ looping read trivial
      | serverHello sessionId => exact .rejected _ _ _ looping read trivial
      | start config => exact .rejected _ _ _ looping read trivial
      | error code text => exact .rejected _ _ _ looping read trivial
  · rw [fault]
    dsimp only
    rw [if_neg (by simpa using other)]
    exact .failed _ _ looping

theorem sendUnit_effect {session : Session} {host : MainHost} {au : AccessUnit} (pending : session.main = .sending au) :
    MainEffect session host (session.sendUnit au).1 (session.sendUnit au).2 := by
  unfold sendUnit
  split
  · exact .idle
  · rename_i queue sent
    rcases SyncChannel.send_cases sent with ⟨yes, _⟩ | ⟨_, gone, _⟩
    · cases yes
    · exact .unsent au pending gone
  · rename_i queue sent
    rcases SyncChannel.send_cases sent with ⟨_, open_, space, rfl⟩ | ⟨no, _⟩
    · exact .forwarded au pending open_ space
    · cases no

theorem finish_effect {session : Session} {host : MainHost} (at_end : session.main = .finishing) :
    MainEffect session host session.finish.1 session.finish.2 := by
  unfold finish
  split
  · rename_i graceful
    split
    · exact .idle
    · rename_i queue sent
      rcases SyncChannel.send_cases sent with ⟨yes, _⟩ | ⟨_, _, rfl⟩
      · cases yes
      · exact .unanswered _ at_end
    · rename_i queue sent
      rcases SyncChannel.send_cases sent with ⟨_, open_, space, rfl⟩ | ⟨no, _⟩
      · exact .asked at_end graceful.1 graceful.2 open_ space
      · cases no
  · rename_i failed
    exact .unasked at_end (fun graceful ok => failed ⟨graceful, ok⟩)

theorem join_effect {session : Session} {host : MainHost} (waiting : session.main = .joining) :
    MainEffect session host session.join.1 session.join.2 := by
  unfold join
  split
  · rename_i written ceased
    exact .joined written waiting ceased
  · rename_i text ceased
    exact .joinedFailure _ waiting ⟨_, ceased⟩
  · rename_i ceased
    exact .joinedFailure _ waiting ⟨_, ceased⟩
  · exact .idle

theorem reap_effect {session : Session} (last : session.main = .reaping) (host : MainHost) :
    MainEffect session host (session.reap host).1 (session.reap host).2 := by
  unfold reap
  split
  · rename_i clean
    split
    · rename_i text waited
      exact .unfinished text last clean.1 clean.2 waited
    · exact .finished last clean.1 clean.2
  · rename_i unclean
    split
    · rename_i error failed
      apply MainEffect.cleaned _ last unclean
      intro other same
      rw [failed] at same
      cases same
      rfl
    · rename_i ok
      apply MainEffect.cleaned _ last unclean
      intro error same
      rw [ok] at same
      cases same

theorem mainStep_effect (session : Session) (host : MainHost) :
    MainEffect session host (session.mainStep host).1 (session.mainStep host).2 := by
  unfold mainStep
  split
  · rename_i phase
    exact authenticate_effect phase host
  · rename_i phase
    exact awaitStart_effect phase host
  · rename_i config phase
    unfold spawnFfmpeg
    split
    · exact .refused session.channel _ (.inr (.inr ⟨config, phase⟩))
    · exact .spawned config phase
  · rename_i phase
    exact receiveNext_effect phase host
  · rename_i au phase
    exact sendUnit_effect phase
  · rename_i phase
    exact finish_effect phase
  · rename_i phase
    exact join_effect phase
  · rename_i phase
    exact reap_effect phase host
  · exact .idle

/-! ## The writer thread -/

theorem writeUnit_effect {session : Session} {au : AccessUnit} {rest : List WriterInput}
    (looping : session.writer.phase = .receiving) (queued : session.queue.queue = .accessUnit au :: rest)
    (host : WriterHost) :
    let popped := { session with queue := { session.queue with queue := rest } }
    WriterEffect session (popped.writeUnit au host).1 (popped.writeUnit au host).2 := by
  intro popped
  have alive : running session.writer.phase = true := by rw [looping]; rfl
  unfold writeUnit
  dsimp only
  split
  · exact .failed _ (.failed _) alive rfl (fun _ same => nomatch same)
  · split
    · exact .failed _ (.failed _) alive rfl (fun _ same => nomatch same)
    · exact .pushed au rest looping queued

theorem writerAction_effect (session : Session) (host : WriterHost) :
    WriterEffect session (session.writerAction host).1 (session.writerAction host).2 := by
  unfold writerAction
  split
  · exact .idle
  · rename_i phase
    split
    · exact .failed _ (.failed _) (by rw [phase]; rfl) rfl (fun _ same => nomatch same)
    · exact .launched phase
  · rename_i phase
    split
    · exact .idle
    · rename_i au queue taken
      rcases SyncChannel.recv_cases taken with ⟨value, rest, same, queued, rfl⟩ | ⟨none, _⟩
      · cases same
        exact writeUnit_effect phase queued host
      · cases none
    · rename_i queue taken
      rcases SyncChannel.recv_cases taken with ⟨value, rest, same, queued, rfl⟩ | ⟨none, _⟩
      · cases same
        exact .finishing rest phase queued
      · cases none
    · exact .failed _ (.failed _) (by rw [phase]; rfl) rfl (fun _ same => nomatch same)
  · rename_i phase
    have alive : running session.writer.phase = true := by rw [phase]; rfl
    unfold finalize
    split
    · exact .failed _ (.failed _) alive rfl (fun _ same => nomatch same)
    · split
      · exact .failed _ (.failed _) alive rfl (fun _ same => nomatch same)
      · exact .finalized phase
  · exact .idle

theorem writerStep_effect (session : Session) (host : WriterHost) :
    WriterEffect session (session.writerStep host).1 (session.writerStep host).2 := by
  unfold writerStep
  split
  · rename_i crash
    exact .failed _ .panicked (Bool.and_eq_true_iff.mp crash).2 rfl (fun _ same => nomatch same)
  · exact writerAction_effect session host

end Luma.Muxer.Session
