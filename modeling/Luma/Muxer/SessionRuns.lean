import Luma.Muxer.SessionEffects

/-! Invariants of muxing sessions.

`Stage` says how far a session has come and that it read exactly the opening
messages before. Once FFmpeg runs, `Loop` relates the receiving thread to the
stream behind the Start message, and `Flow` the writer to what was forwarded.
-/

set_option autoImplicit false

namespace Luma.Muxer.Session

open Luma.Library Luma.Protocol Transition

def heardOf : Observation → Option Message
  | .received message => some message
  | _ => none

def forwardedOf : Observation → Option AccessUnit
  | .forwarded au => some au
  | _ => none

def pushedOf : Observation → Option Buffer
  | .pushed buffer => some buffer
  | _ => none

def unitOf : Message → Option AccessUnit
  | .accessUnit au => some au
  | _ => none

abbrev units (messages : List Message) : List AccessUnit := messages.filterMap unitOf

/-- Messages after which the receive loop goes on, timestamps permitting. -/
def Continues : Message → Prop
  | .accessUnit _ | .stats _ => True
  | _ => False

/-- Timestamps never decrease and no duration is zero. -/
def Timed (aus : List AccessUnit) : Prop :=
  aus.Pairwise (fun earlier later => earlier.ptsNs ≤ later.ptsNs) ∧ ∀ au ∈ aus, au.durationNs ≠ 0

/-- The statistics after the units were noted. -/
structure Counted (stats : MuxerStats) (aus : List AccessUnit) : Prop where
  received : stats.receivedAccessUnits = aus.length
  last : stats.lastPtsNs = aus.getLast?.map (·.ptsNs)
  timed : Timed aus

/-- Buffers of the units on the timeline that the first of them starts. -/
def timeline : List AccessUnit → List Buffer
  | [] => []
  | first :: rest => (first :: rest).map (bufferOf first.ptsNs first.dtsNs)

theorem timeline_append (done : List AccessUnit) (au : AccessUnit) :
    timeline (done ++ [au]) = timeline done ++
      [bufferOf ((done.head?.map (·.ptsNs)).getD au.ptsNs) ((done.head?.map (·.dtsNs)).getD au.dtsNs) au] := by
  cases done with
  | nil => simp [timeline]
  | cons first rest => simp [timeline]

theorem timed_append {aus : List AccessUnit} {au : AccessUnit} (timed : Timed aus)
    (later : ∀ last ∈ aus.getLast?, last.ptsNs ≤ au.ptsNs) (lasting : au.durationNs ≠ 0) :
    Timed (aus ++ [au]) := by
  constructor
  · rw [List.pairwise_append]
    refine ⟨timed.1, List.pairwise_singleton _ _, ?_⟩
    intro earlier member other same
    rw [List.mem_singleton.mp same]
    -- Every earlier unit is at most the last one.
    obtain ⟨last, ends⟩ : ∃ last, aus.getLast? = some last :=
      Option.isSome_iff_exists.mp (List.getLast?_isSome.mpr (List.ne_nil_of_mem member))
    obtain ⟨front, split⟩ := List.getLast?_eq_some_iff.mp ends
    have bounded : earlier.ptsNs ≤ last.ptsNs := by
      rw [split] at member
      rcases List.mem_append.mp member with before | here
      · have ordered := timed.1
        rw [split, List.pairwise_append] at ordered
        exact ordered.2.2 earlier before last (List.mem_singleton.mpr rfl)
      · rw [List.mem_singleton.mp here]
        exact UInt64.le_refl _
    exact UInt64.le_trans bounded (later last ends)
  · intro other member
    rcases List.mem_append.mp member with before | here
    · exact timed.2 other before
    · rwa [List.mem_singleton.mp here]

theorem noteAccessUnit_counted {stats noted : MuxerStats} {aus : List AccessUnit} {au : AccessUnit}
    (counted : Counted stats aus) (accepted : stats.noteAccessUnit au = .ok noted) :
    Counted noted (aus ++ [au]) := by
  unfold MuxerStats.noteAccessUnit at accepted
  split at accepted
  · cases accepted
  · rename_i forward
    split at accepted
    · cases accepted
    · rename_i lasting
      cases accepted
      constructor
      · simp [counted.received]
      · simp
      · apply timed_append counted.timed _ lasting
        intro last ends
        rw [counted.last, Option.mem_def.mp ends] at forward
        simpa using forward

/-- How the messages after Start ended without an error: by Stop, or by the end
of the stream between packets or inside of one. -/
def Ended (origin : Channel) (messages : List Message) : Prop :=
  (∃ before, messages = before ++ [.stop] ∧ ∀ message ∈ before, Continues message) ∨
    ((∀ message ∈ messages, Continues message) ∧
      (origin.recvEach messages.length).2.recv.1 = .error (.io unexpectedEof))

/-- What holds while the receive loop runs, with the units noted so far. -/
structure Looping (origin : Channel) (later : List Observation) (session : Session) (noted : List AccessUnit) :
    Prop where
  along : Channel.SameReads session.channel (origin.recvEach (chronicle heardOf later).length).2
  continues : ∀ message ∈ chronicle heardOf later, Continues message
  units_eq : units (chronicle heardOf later) = noted
  counted : Counted session.stats noted
  unasked : .finishRequested ∉ later
  ok : session.outcome = .ok ()

/-- What a session without an error has behind it when the loop is over. -/
structure Complete (origin : Channel) (later : List Observation) (session : Session) : Prop where
  graceful : session.gracefulEnd = true
  ended : Ended origin (chronicle heardOf later)
  units_eq : units (chronicle heardOf later) = chronicle forwardedOf later
  counted : Counted session.stats (chronicle forwardedOf later)

/-- The receiving thread by its place in the code. -/
def Place (origin : Channel) (later : List Observation) (session : Session) : Prop :=
  match session.main with
  | .receiving => Looping origin later session (chronicle forwardedOf later)
  | .sending au => Looping origin later session (chronicle forwardedOf later ++ [au])
  | .finishing => .finishRequested ∉ later ∧ (session.outcome = .ok () → Complete origin later session)
  | .joining => session.outcome = .ok () → Complete origin later session
  | .reaping => session.outcome = .ok () → Complete origin later session ∧
      ∃ written, session.writer.phase = .ended (.ok written) ∧ session.stats.writtenAccessUnits = written
  | .returned (.ok stats) => Complete origin later session ∧ session.stats = stats ∧
      session.writer.phase = .ended (.ok stats.writtenAccessUnits)
  | .returned (.error _) => .removed ∈ later ∨ Complete origin later session
  | _ => False

/-- The receiving thread of a session whose FFmpeg was spawned, by its place in
the code. The stream behind the Start message is read from `origin`. -/
structure Loop (origin : Channel) (later : List Observation) (session : Session) : Prop where
  reads : (origin.recvEach (chronicle heardOf later).length).1 = (chronicle heardOf later).map .ok
  forwarded_prefix : chronicle forwardedOf later <+: units (chronicle heardOf later)
  timed : Timed (chronicle forwardedOf later)
  asked : .finishRequested ∈ later → Ended origin (chronicle heardOf later)
  kept : (∀ error, session.main ≠ .returned (.error error)) → .removed ∉ later
  place : Place origin later session

/-- The writer and its queue against what was forwarded. -/
def Flow (later : List Observation) (session : Session) : Prop :=
  match session.writer.phase with
  | .absent => False
  | .launching | .receiving => ∃ done waiting, chronicle forwardedOf later = done ++ waiting ∧
      chronicle pushedOf later = timeline done ∧ session.writer.written = done.length ∧
      session.writer.firstPtsNs = done.head?.map (·.ptsNs) ∧ session.writer.firstDtsNs = done.head?.map (·.dtsNs) ∧
      session.queue.queue =
        waiting.map .accessUnit ++ if .finishRequested ∈ later then [.finish] else []
  | .finalizing => chronicle pushedOf later = timeline (chronicle forwardedOf later) ∧
      session.writer.written = (chronicle forwardedOf later).length ∧ .finishRequested ∈ later
  | .ended (.ok written) => chronicle pushedOf later = timeline (chronicle forwardedOf later) ∧
      written = (chronicle forwardedOf later).length ∧ .finishRequested ∈ later ∧ session.queue.receiving = false
  | .ended _ => session.queue.receiving = false

/-! ## The receiving thread -/

theorem reads_next {origin channel : Channel} {messages : List Message} {message : Message}
    (reads : (origin.recvEach messages.length).1 = messages.map .ok)
    (along : Channel.SameReads channel (origin.recvEach messages.length).2)
    (received : channel.recv.1 = .ok message) :
    (origin.recvEach (messages ++ [message]).length).1 = (messages ++ [message]).map .ok ∧
      Channel.SameReads channel.recv.2 (origin.recvEach (messages ++ [message]).length).2 := by
  obtain ⟨results, after⟩ := Channel.recvEach_succ origin messages.length
  obtain ⟨same, onward⟩ := along.recv
  rw [List.length_append, List.length_singleton]
  constructor
  · rw [results, reads, ← same, received, List.map_append, List.map_singleton]
  · rw [after]
    exact onward

theorem continues_append {messages : List Message} {message : Message}
    (before : ∀ message ∈ messages, Continues message) (next : Continues message) :
    ∀ other ∈ messages ++ [message], Continues other := by
  intro other member
  rcases List.mem_append.mp member with earlier | here
  · exact before other earlier
  · rwa [List.mem_singleton.mp here]

variable {origin : Channel} {later : List Observation} {before : Session}

/-- One round of the receive loop. -/
theorem Loop.hears {after : Session} {message : Message} (loop : Loop origin later before)
    (looping : before.main = .receiving) (received : before.channel.recv.1 = .ok message)
    (place : Looping origin later before (chronicle forwardedOf later) →
      (origin.recvEach (chronicle heardOf later ++ [message]).length).1 =
        (chronicle heardOf later ++ [message]).map .ok →
      Channel.SameReads before.channel.recv.2
        (origin.recvEach (chronicle heardOf later ++ [message]).length).2 →
      Place origin (.received message :: later) after) :
    Loop origin (.received message :: later) after := by
  have here := loop.place
  simp only [Place, looping] at here
  obtain ⟨reads, along⟩ := reads_next loop.reads here.along received
  constructor
  · simpa [heardOf] using reads
  · -- What was forwarded before is still a prefix of one more unit.
    simp only [chronicle_cons, heardOf, forwardedOf, Option.toList_some, Option.toList_none, List.append_nil]
    rw [units, List.filterMap_append]
    exact loop.forwarded_prefix.trans (List.prefix_append _ _)
  · simpa [forwardedOf] using loop.timed
  · intro asked
    exact absurd (List.mem_of_ne_of_mem (by simp) asked) here.unasked
  · intro _ removed
    apply loop.kept _ (List.mem_of_ne_of_mem (by simp) removed)
    intro error same
    rw [looping] at same
    cases same
  · exact place here reads along

/-- Observations that are neither read nor forwarded. -/
structure Quiet (seen later : List Observation) : Prop where
  heard : chronicle heardOf (seen ++ later) = chronicle heardOf later
  forwarded : chronicle forwardedOf (seen ++ later) = chronicle forwardedOf later

theorem Loop.turns {after : Session} {seen : List Observation} (loop : Loop origin later before)
    (quiet : Quiet seen later) (asked : .finishRequested ∈ seen → Ended origin (chronicle heardOf later))
    (running : ∀ error, before.main ≠ .returned (.error error))
    (kept : .removed ∈ seen → ∃ error, after.main = .returned (.error error))
    (place : Place origin (seen ++ later) after) : Loop origin (seen ++ later) after := by
  constructor
  · rw [quiet.heard]
    exact loop.reads
  · rw [quiet.heard, quiet.forwarded]
    exact loop.forwarded_prefix
  · rw [quiet.forwarded]
    exact loop.timed
  · rw [quiet.heard]
    intro member
    rcases List.mem_append.mp member with now | earlier
    · exact asked now
    · exact loop.asked earlier
  · intro unreturned member
    rcases List.mem_append.mp member with now | earlier
    · obtain ⟨error, same⟩ := kept now
      exact unreturned error same
    · exact loop.kept running earlier
  · exact place

theorem Complete.turns {after : Session} {seen : List Observation} (complete : Complete origin later before)
    (quiet : Quiet seen later) (graceful : after.gracefulEnd = before.gracefulEnd)
    (received : after.stats.receivedAccessUnits = before.stats.receivedAccessUnits)
    (last : after.stats.lastPtsNs = before.stats.lastPtsNs) : Complete origin (seen ++ later) after := by
  constructor
  · rw [graceful]
    exact complete.graceful
  · rw [quiet.heard]
    exact complete.ended
  · rw [quiet.heard, quiet.forwarded]
    exact complete.units_eq
  · rw [quiet.forwarded]
    exact ⟨received.trans complete.counted.received, last.trans complete.counted.last, complete.counted.timed⟩

/-- The unit that was noted goes to the writer. -/
theorem Loop.forwards {after : Session} {au : AccessUnit} (loop : Loop origin later before)
    (pending : before.main = .sending au) (main : after.main = .receiving) (channel : after.channel = before.channel)
    (stats : after.stats = before.stats) (outcome : after.outcome = before.outcome) :
    Loop origin (.forwarded au :: later) after := by
  have here := loop.place
  simp only [Place, pending] at here
  have forwards : chronicle forwardedOf (.forwarded au :: later) = chronicle forwardedOf later ++ [au] := by
    simp [forwardedOf]
  have heard : chronicle heardOf (.forwarded au :: later) = chronicle heardOf later := by
    simp [heardOf]
  constructor
  · simpa [heardOf] using loop.reads
  · rw [heard, here.units_eq]
    exact forwards ▸ List.prefix_rfl
  · rw [forwards]
    exact here.counted.timed
  · intro asked
    exact absurd (List.mem_of_ne_of_mem (by simp) asked) here.unasked
  · intro _ removed
    exact loop.kept (by simp [pending]) (List.mem_of_ne_of_mem (by simp) removed)
  · simp only [Place, main]
    rw [forwards]
    constructor
    · rw [heard, channel]
      exact here.along
    · rw [heard]
      exact here.continues
    · rw [heard]
      exact here.units_eq
    · exact stats ▸ here.counted
    · simpa using here.unasked
    · exact outcome.trans here.ok

theorem Loop.main {host : MainHost} {after : Session} {seen : List Observation} (loop : Loop origin later before)
    (effect : MainEffect before host after seen) :
    Loop origin (seen ++ later) after := by
  have here := loop.place
  cases effect with
  | idle => exact loop
  | authenticated _ _ _ phase => simp only [Place, phase] at here
  | started _ phase => simp only [Place, phase] at here
  | refused _ _ phase =>
    rcases phase with phase | phase | ⟨_, phase⟩ <;> simp only [Place, phase] at here
  | spawned _ phase => simp only [Place, phase] at here
  | accepted au stats looping received noted =>
    apply loop.hears looping received
    intro here reads along
    dsimp only [Place]
    constructor
    · simpa [heardOf] using along
    · simpa [heardOf] using continues_append here.continues (by trivial)
    · simp [heardOf, forwardedOf, unitOf, here.units_eq]
    · simpa [forwardedOf] using noteAccessUnit_counted here.counted noted
    · simpa using here.unasked
    · exact here.ok
  | reported hookStats looping received =>
    apply loop.hears looping received
    intro here reads along
    simp only [Place, looping]
    constructor
    · simpa [heardOf] using along
    · simpa [heardOf] using continues_append here.continues (by trivial)
    · simp [heardOf, forwardedOf, unitOf, here.units_eq]
    · simpa [forwardedOf] using ⟨here.counted.received, here.counted.last, here.counted.timed⟩
    · simpa using here.unasked
    · exact here.ok
  | stopped looping received =>
    apply loop.hears looping received
    intro here reads along
    dsimp only [Place]
    refine ⟨by simpa using here.unasked, fun _ => ?_⟩
    constructor
    · rfl
    · left
      exact ⟨chronicle heardOf later, by simp [heardOf], here.continues⟩
    · simp [heardOf, forwardedOf, unitOf, here.units_eq]
    · simpa [forwardedOf] using here.counted
  | rejected channel message error looping received rejects =>
    apply loop.hears looping received
    intro here reads along
    dsimp only [Place, break_]
    exact ⟨by simpa using here.unasked, fun ok => nomatch ok⟩
  | ended looping at_end =>
    simp only [Place, looping] at here
    apply loop.turns ⟨by simp [heardOf], by simp [forwardedOf]⟩ (by simp) (by simp [looping]) (by simp)
    dsimp only [Place]
    refine ⟨by simpa using here.unasked, fun _ => ?_⟩
    constructor
    · rfl
    · right
      simp only [List.singleton_append, chronicle_cons, heardOf, Option.toList_none, List.append_nil]
      exact ⟨here.continues, here.along.recv.1.symm.trans at_end⟩
    · simp [heardOf, forwardedOf, here.units_eq]
    · simpa [forwardedOf] using here.counted
  | failed channel error looping =>
    simp only [Place, looping] at here
    apply loop.turns ⟨rfl, rfl⟩ (by simp) (by simp [looping]) (by simp)
    exact ⟨here.unasked, fun ok => nomatch ok⟩
  | forwarded au pending open_ space =>
    exact loop.forwards pending rfl rfl rfl rfl
  | unsent au pending gone =>
    simp only [Place, pending] at here
    apply loop.turns ⟨rfl, rfl⟩ (by simp) (by simp [pending]) (by simp)
    exact ⟨here.unasked, fun ok => nomatch ok⟩
  | asked at_end graceful ok open_ space =>
    simp only [Place, at_end] at here
    have quiet : Quiet [.finishRequested] later := ⟨by simp [heardOf], by simp [forwardedOf]⟩
    apply loop.turns quiet (fun _ => (here.2 ok).ended) (by simp [at_end]) (by simp)
    intro ok
    exact (here.2 ok).turns quiet rfl rfl rfl
  | unasked at_end unclean =>
    simp only [Place, at_end] at here
    apply loop.turns ⟨rfl, rfl⟩ (by simp) (by simp [at_end]) (by simp)
    intro ok
    exact (here.2 ok).turns ⟨rfl, rfl⟩ rfl rfl rfl
  | unanswered error at_end =>
    apply loop.turns ⟨rfl, rfl⟩ (by simp) (by simp [at_end]) (by simp)
    intro ok
    cases ok
  | joined written waiting ceased =>
    simp only [Place, waiting] at here
    apply loop.turns ⟨rfl, rfl⟩ (by simp) (by simp [waiting]) (by simp)
    intro ok
    exact ⟨(here ok).turns ⟨rfl, rfl⟩ rfl rfl rfl, written, ceased, rfl⟩
  | joinedFailure error waiting ceased =>
    apply loop.turns ⟨rfl, rfl⟩ (by simp) (by simp [waiting]) (by simp)
    intro ok
    cases ok
  | finished last ok graceful =>
    simp only [Place, last] at here
    have quiet : Quiet [.returned (.ok before.stats)] later := ⟨by simp [heardOf], by simp [forwardedOf]⟩
    apply loop.turns quiet (by simp) (by simp [last]) (by simp)
    obtain ⟨complete, written, ceased, counted⟩ := here ok
    exact ⟨complete.turns quiet rfl rfl rfl, rfl, by rw [ceased, counted]⟩
  | unfinished text last ok graceful =>
    simp only [Place, last] at here
    have quiet : Quiet [.returned (.error (.ffmpeg text))] later := ⟨by simp [heardOf], by simp [forwardedOf]⟩
    apply loop.turns quiet (by simp) (by simp [last]) (by simp)
    exact .inr ((here ok).1.turns quiet rfl rfl rfl)
  | cleaned result last unclean failed =>
    simp only [Place, last] at here
    have quiet : Quiet [.returned result, .removed] later := ⟨by simp [heardOf], by simp [forwardedOf]⟩
    cases outcome : before.outcome with
    | ok done => exact absurd ⟨outcome, (here outcome).1.graceful⟩ unclean
    | error error =>
      have same := failed error outcome
      subst same
      apply loop.turns quiet (by simp) (by simp [last]) (fun _ => ⟨error, rfl⟩)
      exact .inl (by simp)

/-- A turn of the writer keeps the place of the receiving thread. -/
theorem Place.writer {after : Session} {seen : List Observation} (place : Place origin later before)
    (quiet : Quiet seen later) (asked : .finishRequested ∉ seen) (removed : .removed ∈ later → .removed ∈ seen ++ later)
    (rest : after = { before with queue := after.queue, writer := after.writer })
    (ceased : ∀ written, before.writer.phase = .ended (.ok written) → after.writer.phase = .ended (.ok written)) :
    Place origin (seen ++ later) after := by
  have main : after.main = before.main := by rw [rest]
  have graceful : after.gracefulEnd = before.gracefulEnd := by rw [rest]
  have stats : after.stats = before.stats := by rw [rest]
  have outcome : after.outcome = before.outcome := by rw [rest]
  have channel : after.channel = before.channel := by rw [rest]
  have unasked (still : .finishRequested ∉ later) : .finishRequested ∉ seen ++ later := by
    intro member
    rcases List.mem_append.mp member with now | earlier
    · exact asked now
    · exact still earlier
  have complete (whole : Complete origin later before) : Complete origin (seen ++ later) after :=
    whole.turns quiet graceful (by rw [stats]) (by rw [stats])
  have looping {noted : List AccessUnit} (loop : Looping origin later before noted) :
      Looping origin (seen ++ later) after noted := by
    constructor
    · rw [quiet.heard, channel]
      exact loop.along
    · rw [quiet.heard]
      exact loop.continues
    · rw [quiet.heard]
      exact loop.units_eq
    · rw [stats]
      exact loop.counted
    · exact unasked loop.unasked
    · rw [outcome]
      exact loop.ok
  unfold Place at place ⊢
  rw [main, outcome, stats, quiet.forwarded]
  cases phase : before.main with
  | authenticating => simp only [phase] at place
  | starting => simp only [phase] at place
  | spawning config => simp only [phase] at place
  | receiving =>
    simp only [phase] at place ⊢
    exact looping place
  | sending au =>
    simp only [phase] at place ⊢
    exact looping place
  | finishing =>
    simp only [phase] at place ⊢
    exact ⟨unasked place.1, fun ok => complete (place.2 ok)⟩
  | joining =>
    simp only [phase] at place ⊢
    exact fun ok => complete (place ok)
  | reaping =>
    simp only [phase] at place ⊢
    intro ok
    obtain ⟨whole, written, ended, counted⟩ := place ok
    exact ⟨complete whole, written, ceased written ended, counted⟩
  | returned result =>
    cases result with
    | ok stats =>
      simp only [phase] at place ⊢
      exact ⟨complete place.1, place.2.1, ceased _ place.2.2⟩
    | error error =>
      simp only [phase] at place ⊢
      exact place.imp removed complete

theorem Loop.writer {after : Session} {seen : List Observation} (loop : Loop origin later before)
    (effect : WriterEffect before after seen) : Loop origin (seen ++ later) after := by
  -- The writer neither reads nor forwards, and an ended writer does nothing.
  have carry {next : Session} {observed : List Observation} (quiet : Quiet observed later)
      (pushes : ∀ observation ∈ observed, ∃ buffer, observation = .pushed buffer)
      (rest : next = { before with queue := next.queue, writer := next.writer })
      (ceased : ∀ written, before.writer.phase = .ended (.ok written) →
        next.writer.phase = .ended (.ok written)) : Loop origin (observed ++ later) next := by
    have absent {observation : Observation} (other : ∀ buffer, observation ≠ .pushed buffer) :
        observation ∉ observed := by
      intro member
      obtain ⟨buffer, same⟩ := pushes _ member
      exact other buffer same
    have main : next.main = before.main := by rw [rest]
    constructor
    · rw [quiet.heard]
      exact loop.reads
    · rw [quiet.heard, quiet.forwarded]
      exact loop.forwarded_prefix
    · rw [quiet.forwarded]
      exact loop.timed
    · rw [quiet.heard]
      intro member
      rcases List.mem_append.mp member with now | earlier
      · exact absurd now (absent (by simp))
      · exact loop.asked earlier
    · intro unreturned member
      rw [main] at unreturned
      rcases List.mem_append.mp member with now | earlier
      · exact absent (by simp) now
      · exact loop.kept unreturned earlier
    · exact loop.place.writer quiet (absent (by simp)) (List.mem_append_right _) rest ceased
  cases effect with
  | idle => exact loop
  | launched phase => exact carry ⟨rfl, rfl⟩ (by simp) rfl (by simp [phase])
  | failed writer joined alive ceased bad =>
    apply carry ⟨rfl, rfl⟩ (by simp) rfl
    intro written ended
    rw [ended] at alive
    cases alive
  | pushed au rest phase queued =>
    exact carry ⟨by simp [heardOf], by simp [forwardedOf]⟩ (by simp) rfl (by simp [phase])
  | finishing rest phase queued => exact carry ⟨rfl, rfl⟩ (by simp) rfl (by simp [phase])
  | finalized phase => exact carry ⟨rfl, rfl⟩ (by simp) rfl (by simp [phase])

/-! ## The writer -/

theorem Flow.writer {after : Session} {seen : List Observation} (flow : Flow later before)
    (effect : WriterEffect before after seen) : Flow (seen ++ later) after := by
  cases effect with
  | idle => exact flow
  | launched phase =>
    simp only [Flow, phase] at flow
    exact flow
  | failed writer joined alive ceased bad =>
    unfold Flow
    dsimp only
    rw [ceased]
    cases joined with
    | ok written => exact absurd rfl (bad written)
    | failed text => rfl
    | panicked => rfl
  | pushed au rest phase queued =>
    simp only [Flow, phase] at flow
    obtain ⟨done, waiting, forwarded, pushed, written, firstPts, firstDts, queue⟩ := flow
    rw [queued] at queue
    cases waiting with
    | nil =>
      -- Only the request to finish is left in the queue.
      split at queue <;> cases queue
    | cons head waiting =>
      simp only [List.map_cons, List.cons_append, List.cons.injEq, WriterInput.accessUnit.injEq] at queue
      obtain ⟨rfl, remaining⟩ := queue
      simp only [Flow, phase]
      refine ⟨done ++ [au], waiting, ?_, ?_, ?_, ?_, ?_, ?_⟩
      · simp [forwardedOf, forwarded]
      · simp only [List.singleton_append, chronicle_cons, pushedOf, Option.toList_some, pushed, firstPts, firstDts]
        rw [timeline_append]
      · simp [written]
      · rw [firstPts]
        cases done <;> simp
      · rw [firstDts]
        cases done <;> simp
      · simp [remaining]
  | finishing rest phase queued =>
    simp only [Flow, phase] at flow
    obtain ⟨done, waiting, forwarded, pushed, written, firstPts, firstDts, queue⟩ := flow
    rw [queued] at queue
    cases waiting with
    | cons head waiting => cases queue
    | nil =>
      simp only [List.append_nil] at forwarded
      split at queue
      · rename_i asked
        simp only [Flow, List.nil_append]
        rw [forwarded]
        exact ⟨pushed, written, asked⟩
      · cases queue
  | finalized phase =>
    simp only [Flow, phase] at flow
    obtain ⟨pushed, written, asked⟩ := flow
    simp only [Flow, endWriter]
    exact ⟨pushed, written, asked, rfl⟩

/-- The receiving thread adds to the queue what it observes as forwarded. -/
theorem Flow.main {host : MainHost} {after : Session} {seen : List Observation} (flow : Flow later before)
    (loop : Loop origin later before) (effect : MainEffect before host after seen) : Flow (seen ++ later) after := by
  have here := loop.place
  have carry {next : Session} {observed : List Observation}
      (silent : chronicle forwardedOf (observed ++ later) = chronicle forwardedOf later)
      (still : chronicle pushedOf (observed ++ later) = chronicle pushedOf later)
      (asked : .finishRequested ∈ observed ++ later ↔ .finishRequested ∈ later)
      (writer : next.writer = before.writer) (queue : next.queue.queue = before.queue.queue)
      (receiving : next.queue.receiving = before.queue.receiving) : Flow (observed ++ later) next := by
    unfold Flow at flow ⊢
    rw [silent, still, writer, queue, receiving]
    simp only [asked]
    exact flow
  cases effect with
  | idle => exact flow
  | authenticated _ _ _ phase => simp only [Place, phase] at here
  | started _ phase => simp only [Place, phase] at here
  | refused _ _ phase =>
    rcases phase with phase | phase | ⟨_, phase⟩ <;> simp only [Place, phase] at here
  | spawned _ phase => simp only [Place, phase] at here
  | accepted => exact carry (by simp [forwardedOf]) (by simp [pushedOf]) (by simp) rfl rfl rfl
  | reported => exact carry (by simp [forwardedOf]) (by simp [pushedOf]) (by simp) rfl rfl rfl
  | stopped => exact carry (by simp [forwardedOf]) (by simp [pushedOf]) (by simp) rfl rfl rfl
  | rejected => exact carry (by simp [forwardedOf]) (by simp [pushedOf]) (by simp) rfl rfl rfl
  | ended => exact carry (by simp [forwardedOf]) (by simp [pushedOf]) (by simp) rfl rfl rfl
  | failed => exact carry rfl rfl (by simp) rfl rfl rfl
  | unsent => exact carry rfl rfl (by simp) rfl rfl rfl
  | unasked => exact carry rfl rfl (by simp) rfl rfl rfl
  | unanswered => exact carry rfl rfl (by simp) rfl rfl rfl
  | joined => exact carry rfl rfl (by simp) rfl rfl rfl
  | joinedFailure => exact carry rfl rfl (by simp) rfl rfl rfl
  | finished => exact carry (by simp [forwardedOf]) (by simp [pushedOf]) (by simp) rfl rfl rfl
  | unfinished => exact carry (by simp [forwardedOf]) (by simp [pushedOf]) (by simp) rfl rfl rfl
  | cleaned => exact carry (by simp [forwardedOf]) (by simp [pushedOf]) (by simp) rfl rfl rfl
  | forwarded au pending open_ space =>
    simp only [Place, pending] at here
    have unasked := here.unasked
    unfold Flow at flow ⊢
    dsimp only
    cases phase : before.writer.phase with
    | absent => simp only [phase] at flow
    | ended joined =>
      -- The receiver of a writer that is over is gone.
      cases joined <;> simp only [phase] at flow
      · rw [flow.2.2.2] at open_
        cases open_
      · rw [flow] at open_
        cases open_
      · rw [flow] at open_
        cases open_
    | finalizing =>
      simp only [phase] at flow
      exact absurd flow.2.2 unasked
    | launching | receiving =>
      simp only [phase] at flow ⊢
      obtain ⟨done, waiting, forwarded, pushed, written, firstPts, firstDts, queue⟩ := flow
      refine ⟨done, waiting ++ [au], ?_, ?_, written, firstPts, firstDts, ?_⟩
      · simp [forwardedOf, forwarded]
      · simpa [pushedOf] using pushed
      · simp [queue, unasked]
  | asked at_end graceful ok open_ space =>
    simp only [Place, at_end] at here
    have unasked := here.1
    unfold Flow at flow ⊢
    dsimp only
    cases phase : before.writer.phase with
    | absent => simp only [phase] at flow
    | ended joined =>
      cases joined <;> simp only [phase] at flow
      · rw [flow.2.2.2] at open_
        cases open_
      · rw [flow] at open_
        cases open_
      · rw [flow] at open_
        cases open_
    | finalizing =>
      simp only [phase] at flow
      exact absurd flow.2.2 unasked
    | launching | receiving =>
      simp only [phase] at flow ⊢
      obtain ⟨done, waiting, forwarded, pushed, written, firstPts, firstDts, queue⟩ := flow
      refine ⟨done, waiting, ?_, ?_, written, firstPts, firstDts, ?_⟩
      · simpa [forwardedOf] using forwarded
      · simpa [pushedOf] using pushed
      · simp [queue, unasked]

/-! ## Runs -/

/-- The stream opens as a session requires: a hello with the expected token and
then a Start that passes for the expected rate. -/
structure Opens (options : Options) (stream : Channel) (config : VideoConfig) (pid capabilities : UInt32) : Prop where
  hello : stream.recv.1 = .ok (.clientHello options.token pid capabilities)
  start : stream.recv.2.recv.1 = .ok (.start config)
  valid : validateStart config options.fps = .ok ()

/-- Observations that a session makes before FFmpeg is spawned. -/
def Preliminary : Observation → Prop
  | .authenticated _ _ | .received _ | .returned _ => True
  | _ => False

/-- Nothing but the channel and the place in the code has changed yet. -/
structure Fresh (options : Options) (session : Session) : Prop where
  options_eq : session.options = options
  absent : session.writer.phase = .absent
  empty : session.queue.queue = []
  stats_eq : session.stats = {}
  ok : session.outcome = .ok ()

/-- How far a session has come. -/
inductive Stage (options : Options) (stream : Channel) (session : Session) : List Observation → Prop where
  | authenticating : session.main = .authenticating → Fresh options session →
      Channel.SameReads session.channel stream → Stage options stream session []
  | starting (pid capabilities : UInt32) : session.main = .starting → Fresh options session →
      stream.recv.1 = .ok (.clientHello options.token pid capabilities) →
      Channel.SameReads session.channel stream.recv.2 →
      Stage options stream session [.authenticated pid capabilities]
  | spawning (config : VideoConfig) (pid capabilities : UInt32) : session.main = .spawning config →
      Fresh options session → Opens options stream config pid capabilities →
      Channel.SameReads session.channel stream.recv.2.recv.2 →
      Stage options stream session [.received (.start config), .authenticated pid capabilities]
  | refused (error : SessionError) {history : List Observation} : session.main = .returned (.error error) →
      session.writer.phase = .absent → (∀ observation ∈ history, Preliminary observation) →
      Stage options stream session history
  | opened (config : VideoConfig) (pid capabilities : UInt32) (later : List Observation) :
      Opens options stream config pid capabilities → Loop stream.recv.2.recv.2 later session → Flow later session →
      Stage options stream session
        (later ++ [.spawned config, .received (.start config), .authenticated pid capabilities])

/-- Before FFmpeg is spawned the writer has no turn. -/
theorem WriterEffect.of_absent {before after : Session} {seen : List Observation}
    (effect : WriterEffect before after seen) (absent : before.writer.phase = .absent) :
    after = before ∧ seen = [] := by
  cases effect with
  | idle => exact ⟨rfl, rfl⟩
  | launched phase =>
    rw [absent] at phase
    cases phase
  | failed writer joined alive ceased bad =>
    rw [absent] at alive
    cases alive
  | pushed au rest phase queued =>
    rw [absent] at phase
    cases phase
  | finishing rest phase queued =>
    rw [absent] at phase
    cases phase
  | finalized phase =>
    rw [absent] at phase
    cases phase

variable {options : Options} {stream : Channel} {session : Session} {history : List Observation}

theorem Stage.writer (stage : Stage options stream session history) (host : WriterHost) :
    Stage options stream (session.writerStep host).1 ((session.writerStep host).2 ++ history) := by
  have effect := writerStep_effect session host
  have idle (absent : session.writer.phase = .absent) :
      Stage options stream (session.writerStep host).1 ((session.writerStep host).2 ++ history) := by
    obtain ⟨same, quiet⟩ := effect.of_absent absent
    rw [same, quiet]
    exact stage
  cases stage with
  | authenticating _ fresh _ => exact idle fresh.absent
  | starting _ _ _ fresh _ _ => exact idle fresh.absent
  | spawning _ _ _ _ fresh _ _ => exact idle fresh.absent
  | refused _ _ absent _ => exact idle absent
  | opened config pid capabilities later opens loop flow =>
    rw [← List.append_assoc]
    exact .opened config pid capabilities _ opens (loop.writer effect) (flow.writer effect)

/-- The state right after the spawn. -/
theorem Loop.spawned (fresh : Fresh options session)
    (along : Channel.SameReads session.channel origin) :
    Loop origin [] { session with main := .receiving, writer := { phase := .launching } } where
  reads := rfl
  forwarded_prefix := List.prefix_rfl
  timed := ⟨List.Pairwise.nil, by simp⟩
  asked := by simp
  kept := by simp
  place := {
    along := along
    continues := by simp
    units_eq := rfl
    counted := by
      have stats : ({ session with main := .receiving, writer := { phase := .launching } } : Session).stats = {} :=
        fresh.stats_eq
      rw [stats]
      exact ⟨rfl, rfl, List.Pairwise.nil, by simp⟩
    unasked := by simp
    ok := fresh.ok }

theorem Flow.spawned (fresh : Fresh options session) :
    Flow [] { session with main := .receiving, writer := { phase := .launching } } :=
  ⟨[], [], rfl, rfl, rfl, rfl, rfl, by simpa using fresh.empty⟩

theorem Stage.main (stage : Stage options stream session history) (host : MainHost) :
    Stage options stream (session.mainStep host).1 ((session.mainStep host).2 ++ history) := by
  have effect := mainStep_effect session host
  generalize (session.mainStep host).1 = after at effect ⊢
  generalize (session.mainStep host).2 = seen at effect ⊢
  cases stage with
  | authenticating phase fresh along =>
    cases effect
    case idle => exact .authenticating phase fresh along
    case authenticated channel pid capabilities _ hello onward =>
      obtain ⟨same, next⟩ := along.recv
      rw [same, fresh.options_eq] at hello
      exact .starting pid capabilities rfl ⟨fresh.1, fresh.2, fresh.3, fresh.4, fresh.5⟩ hello (onward.trans next)
    case refused channel error _ => exact .refused error rfl fresh.absent (by simp [Preliminary])
    all_goals
      exfalso
      simp_all only [reduceCtorEq]
  | starting pid capabilities phase fresh hello along =>
    cases effect
    case idle => exact .starting pid capabilities phase fresh hello along
    case started config _ start valid =>
      obtain ⟨same, next⟩ := along.recv
      rw [same] at start
      rw [fresh.options_eq] at valid
      exact .spawning config pid capabilities rfl ⟨fresh.1, fresh.2, fresh.3, fresh.4, fresh.5⟩
        ⟨hello, start, valid⟩ next
    case refused channel error _ => exact .refused error rfl fresh.absent (by simp [Preliminary])
    all_goals
      exfalso
      simp_all only [reduceCtorEq]
  | spawning config pid capabilities phase fresh opens along =>
    cases effect
    case idle => exact .spawning config pid capabilities phase fresh opens along
    case spawned other same =>
      rw [phase] at same
      cases same
      exact .opened config pid capabilities [] opens (.spawned fresh along) (.spawned fresh)
    case refused channel error _ => exact .refused error rfl fresh.absent (by simp [Preliminary])
    all_goals
      exfalso
      simp_all only [reduceCtorEq]
  | refused error phase absent preliminary =>
    cases effect
    case idle => exact .refused error phase absent preliminary
    all_goals
      exfalso
      simp_all only [reduceCtorEq, or_self, exists_false]
  | opened config pid capabilities later opens loop flow =>
    rw [← List.append_assoc]
    exact .opened config pid capabilities _ opens (loop.main effect) (flow.main loop effect)

theorem Runs.stage {sessionId : UInt64} {stream : ByteStream} (run : Runs options sessionId stream history session) :
    Stage options (Channel.new stream) session history := by
  apply run.invariant (fun state at_start => ?_) (fun history state turn _ _ stage => ?_)
  · rw [at_start]
    exact .authenticating rfl ⟨rfl, rfl, rfl, rfl, rfl⟩ (Channel.SameReads.refl _)
  · cases turn with
    | main host => exact stage.main host
    | writer host => exact stage.writer host

end Luma.Muxer.Session
