import Luma.Muxer.SessionOrder

/-! What a failed muxing session leaves behind.

A session that failed after the spawn removes the output, except where only the
exit of FFmpeg failed: waiting for it comes after the choice to keep the output.
-/

set_option autoImplicit false

namespace Luma.Muxer.Session

open Luma.Library Luma.Protocol Transition

variable {options : Options} {sessionId : UInt64} {stream : ByteStream}
variable {history : List Observation} {session : Session}

/-- A failed session has removed the output of the FFmpeg it spawned. -/
def RemovesFailed (history : List Observation) (session : Session) : Prop :=
  ∀ error config, session.main = .returned (.error error) → .spawned config ∈ history → .removed ∈ history

/-- A session leaves an output exactly if it succeeded. -/
def CleansUp (history : List Observation) (session : Session) : Prop :=
  RemovesFailed history session ∧ ∀ stats, session.main = .returned (.ok stats) → .removed ∉ history

/-- FFmpeg exits with success wherever a session that went well waits for it. -/
def ExitsWell : Condition Session Turn Observation := fun _ session turn =>
  match turn with
  | .main host => session.main = .reaping → session.outcome = .ok () → session.gracefulEnd = true →
      host.wait = .ok ()
  | .writer _ => True

theorem Runs.kept (run : Runs options sessionId stream history session) {stats : MuxerStats}
    (returned : session.main = .returned (.ok stats)) : .removed ∉ history := by
  intro removed
  obtain ⟨config, pid, capabilities, later, _, opened⟩ := run.opened removed (fun holds => holds)
  cases run.stage with
  | authenticating | starting | spawning => simp at removed
  | refused error phase absent preliminary => exact preliminary _ removed
  | opened config pid capabilities later opens loop flow =>
    rcases List.mem_append.mp removed with now | before
    · exact loop.kept (by simp [returned]) now
    · simp at before

/-- Before the spawn there is nothing to remove. -/
theorem Stage.unspawned (stage : Stage options (Channel.new stream) session history)
    (early : session.main = .authenticating ∨ session.main = .starting ∨
      ∃ config, session.main = .spawning config) (config : VideoConfig) : .spawned config ∉ history := by
  intro member
  cases stage with
  | authenticating | starting | spawning => simp at member
  | refused error phase => simp_all
  | opened config pid capabilities later opens loop flow =>
    have place := loop.place
    rcases early with phase | phase | ⟨_, phase⟩ <;> simp only [Place, phase] at place

theorem removes_step {turn : Turn} (stage : Stage options (Channel.new stream) session history)
    (well : ExitsWell history session turn)
    (before : RemovesFailed history session) :
    RemovesFailed ((step session turn).2 ++ history) (step session turn).1 := by
  intro error config returned spawned
  cases turn with
  | writer host =>
    have rest := (writerStep_rest session host).1
    have effect := writerStep_effect session host
    have same : session.main = .returned (.error error) := by
      rw [← returned]
      simp only [step]
      rw [rest]
    have earlier : .spawned config ∈ history := by
      simp only [step] at spawned
      generalize (session.writerStep host).1 = after at effect
      generalize (session.writerStep host).2 = seen at effect spawned
      cases effect <;> simpa using spawned
    exact List.mem_append_right _ (before error config same earlier)
  | main host =>
    have effect := mainStep_effect session host
    simp only [step] at returned spawned ⊢
    generalize (session.mainStep host).1 = after at effect returned ⊢
    generalize (session.mainStep host).2 = seen at effect spawned ⊢
    cases effect with
    | idle => exact List.mem_append_right _ (before error config returned (by simpa using spawned))
    | refused channel error' early =>
      exact absurd (by simpa using spawned) (stage.unspawned early config)
    | unfinished text last ok graceful waited =>
      -- The one failure behind which the output stays.
      rw [well last ok graceful] at waited
      cases waited
    | cleaned => simp
    | finished | authenticated | started | spawned | accepted | stopped | rejected | ended | failed | forwarded
      | unsent | asked | unasked | unanswered | joined | joinedFailure => cases returned
    | reported _ looping =>
      have still : session.main = .returned (.error error) := returned
      rw [looping] at still
      cases still

/-- A failed session leaves no output, exactly as long as FFmpeg exits well when
a session that went well waits for it. -/
theorem failed_session_removes_output (options : Options) (sessionId : UInt64) (stream : ByteStream) :
    (∀ history session, Run step ExitsWell (· = initial options sessionId stream) history session →
      CleansUp history session) ∧
    (∀ history session turn, Runs options sessionId stream history session → ¬ExitsWell history session turn →
      ¬CleansUp ((step session turn).2 ++ history) (step session turn).1) := by
  constructor
  · intro history session run
    have plain : Runs options sessionId stream history session := run.mono (fun _ _ _ _ => trivial)
    refine ⟨?_, fun stats returned => plain.kept returned⟩
    apply run.invariant
    · intro state at_start error config returned
      rw [at_start] at returned
      cases returned
    · intro history session turn run well before
      have plain : Runs options sessionId stream history session := run.mono (fun _ _ _ _ => trivial)
      exact removes_step plain.stage well before
  · intro history session turn run unwell cleans
    cases turn with
    | writer host => exact unwell trivial
    | main host =>
      simp only [ExitsWell, Classical.not_imp] at unwell
      obtain ⟨last, ok, graceful, fails⟩ := unwell
      cases waited : host.wait with
      | ok done => exact fails waited
      | error text =>
        obtain ⟨error, seen, returned⟩ : ∃ error, (session.mainStep host).2 = [.returned (.error error)] ∧
            (session.mainStep host).1.main = .returned (.error error) := by
          simp only [mainStep, last, reap, ok, graceful, and_self, ↓reduceIte, waited]
          exact ⟨_, rfl, rfl⟩
        cases run.stage with
        | authenticating phase | starting _ _ phase | spawning _ _ _ phase | refused _ phase =>
          rw [last] at phase
          cases phase
        | opened config pid capabilities later opens loop flow =>
          have removed := cleans.1 error config returned (by simp)
          simp only [step, seen] at removed
          have earlier : .removed ∈ later := by simpa using removed
          exact loop.kept (by simp [last]) earlier

section

/-- Turns up to the return of a session whose first message after Start ends it. -/
def shortTurns (wait : Except String Unit) : List Turn :=
  List.replicate 5 (.main {}) ++ List.replicate 3 (.writer {}) ++ List.replicate 2 (.main { wait })

def shortSession (stream : ByteStream) (wait : Except String Unit) : Session × List Observation :=
  execute step (initial ⟨zeroToken, 60⟩ 0 stream) (shortTurns wait)

theorem shortSession_runs (stream : ByteStream) :
    Run step ExitsWell (· = initial ⟨zeroToken, 60⟩ 0 stream) (shortSession stream (.ok ())).2
      (shortSession stream (.ok ())).1 := by
  have begun : Run step ExitsWell (· = initial ⟨zeroToken, 60⟩ 0 stream) []
      (initial ⟨zeroToken, 60⟩ 0 stream) := .start rfl
  have well : Permits step ExitsWell [] (initial ⟨zeroToken, 60⟩ 0 stream) (shortTurns (.ok ())) :=
    ⟨fun _ _ _ => rfl, fun _ _ _ => rfl, fun _ _ _ => rfl, fun _ _ _ => rfl, fun _ _ _ => rfl,
      trivial, trivial, trivial, fun _ _ _ => rfl, fun _ _ _ => rfl, trivial⟩
  have run := begun.execute (shortTurns (.ok ())) well
  rw [List.append_nil] at run
  exact run

theorem failed_session_removes_output_two_hellos :
    CleansUp (shortSession twoHellos (.ok ())).2 (shortSession twoHellos (.ok ())).1 :=
  (failed_session_removes_output ⟨zeroToken, 60⟩ 0 twoHellos).1 _ _ (shortSession_runs twoHellos)

/-- A client that stops right after Start. -/
def stopsAtOnce : ByteStream where
  inbound := Channel.packets 0 [.clientHello zeroToken 1 0, .start smallConfig, .stop]

/-- FFmpeg exits with a failure after a stop that everyone else handled: the
session fails and its output stays. -/
theorem failed_session_keeps_output :
    let final := shortSession stopsAtOnce (.error "FFmpeg exited with exit status: 1")
    final.1.main = .returned (.error (.ffmpeg "FFmpeg exited with exit status: 1")) ∧
      .spawned smallConfig ∈ final.2 ∧ .removed ∉ final.2 := by
  decide +kernel

end

end Luma.Muxer.Session
