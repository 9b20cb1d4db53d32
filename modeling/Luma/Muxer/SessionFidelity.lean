import Mathlib.Data.List.Forall2
import Mathlib.Data.List.TakeWhile
import Luma.Muxer.SessionOrder

/-! What a muxing session writes of what it was sent. -/

set_option autoImplicit false

namespace Luma.Muxer.Session

open Luma.Library Luma.Protocol Transition

variable {options : Options} {sessionId : UInt64} {stream : ByteStream}
variable {history : List Observation} {session : Session}

/-- The messages before the first Stop. -/
def untilStop (messages : List Message) : List Message := messages.takeWhile (· ≠ .stop)

/-- The buffers carry the units one by one, unchanged and on the timeline that
starts at the first of them. -/
def Faithful (aus : List AccessUnit) (buffers : List Buffer) : Prop :=
  List.Forall₂ (fun au buffer => buffer.data = au.data ∧ buffer.durationNs = au.durationNs ∧
    ∀ first ∈ aus.head?, buffer.ptsNs.toNat + first.ptsNs.toNat = au.ptsNs.toNat) aus buffers

theorem saturatingSub_add {left right : UInt64} (ordered : right ≤ left) :
    (saturatingSub left right).toNat + right.toNat = left.toNat := by
  have bound := UInt64.le_iff_toNat_le.mp ordered
  rw [saturatingSub, if_pos ordered, UInt64.toNat_sub_of_le _ _ ordered]
  omega

theorem timeline_faithful {aus : List AccessUnit} (timed : Timed aus) : Faithful aus (timeline aus) := by
  cases aus with
  | nil => exact List.Forall₂.nil
  | cons first rest =>
    rw [Faithful, timeline, List.forall₂_map_right_iff, List.forall₂_same]
    intro au member
    refine ⟨rfl, rfl, ?_⟩
    intro origin same
    cases same
    apply saturatingSub_add
    rcases List.mem_cons.mp member with here | later
    · rw [here]
      exact UInt64.le_refl _
    · exact (List.pairwise_cons.mp timed.1).1 au later

theorem units_append (first second : List Message) : units (first ++ second) = units first ++ units second :=
  List.filterMap_append

theorem untilStop_of_stop {messages : List Message} (running : ∀ message ∈ messages, message ≠ .stop)
    (rest : List Message) : untilStop (messages ++ .stop :: rest) = messages := by
  unfold untilStop
  rw [List.takeWhile_append_of_pos, List.takeWhile_cons_of_neg (by simp), List.append_nil]
  intro message member
  simpa using running message member

theorem untilStop_of_running {messages : List Message} (running : ∀ message ∈ messages, message ≠ .stop) :
    untilStop messages = messages := by
  unfold untilStop
  rw [List.takeWhile_eq_self_iff]
  intro message member
  simpa using running message member

theorem Continues.ne_stop {message : Message} (continues : Continues message) : message ≠ .stop := by
  rintro rfl
  exact continues

/-- A loop that ended well has heard the whole packets up to the first Stop. -/
theorem Ended.arrived {channel : Channel} {messages heard : List Message} {hello start : Message} {whole : Nat}
    (results : (channel.recvEach whole).1 = (messages.take whole).map .ok)
    (at_cut : (channel.recvEach whole).2.recv.1 = .error (.io unexpectedEof))
    (reads : (channel.recvEach (hello :: start :: heard).length).1 = (hello :: start :: heard).map .ok)
    (opening : ∀ message ∈ [hello, start], message ≠ .stop ∧ unitOf message = none)
    (ended : Ended channel.recv.2.recv.2 heard) :
    units (untilStop (messages.take whole)) = units heard := by
  obtain ⟨within, same⟩ := Channel.received_of_cut results at_cut reads
  have behind : messages.take whole =
      (hello :: start :: heard) ++ (messages.take whole).drop (hello :: start :: heard).length := by
    conv_lhs => rw [← List.take_append_drop (hello :: start :: heard).length (messages.take whole)]
    rw [← same]
  have silent : units [hello, start] = [] := by
    simp [units, (opening hello (by simp)).2, (opening start (by simp)).2]
  rcases ended with ⟨before, rfl, continues⟩ | ⟨continues, at_end⟩
  · have running : ∀ message ∈ [hello, start] ++ before, message ≠ .stop := by
      intro message member
      rcases List.mem_append.mp member with early | late
      · exact (opening message early).1
      · exact (continues message late).ne_stop
    have split : messages.take whole = ([hello, start] ++ before) ++
        .stop :: (messages.take whole).drop (hello :: start :: (before ++ [.stop])).length := by
      rw [behind]
      simp
    rw [split, untilStop_of_stop running, units_append, silent, units_append]
    simp [units, unitOf]
  · -- The stream ended where the packets were cut.
    have all : (hello :: start :: heard).length = whole := by
      apply Nat.le_antisymm within
      by_contra before
      have entry := Channel.recvEach_entry channel (Nat.lt_of_not_le before)
      rw [results, List.getElem?_map] at entry
      cases found : (messages.take whole)[(hello :: start :: heard).length]? with
      | none =>
        rw [found] at entry
        cases entry
      | some message =>
        rw [found] at entry
        have failed := (Option.some.inj entry).trans at_end
        cases failed
    have running : ∀ message ∈ [hello, start] ++ heard, message ≠ .stop := by
      intro message member
      rcases List.mem_append.mp member with early | late
      · exact (opening message early).1
      · exact (continues message late).ne_stop
    have split : messages.take whole = [hello, start] ++ heard := by
      rw [behind, all, List.drop_take_self]
      simp
    rw [split, untilStop_of_running running, units_append, silent, List.nil_append]

theorem Timed.front {first second : List AccessUnit} (timed : Timed (first ++ second)) : Timed first :=
  ⟨(List.pairwise_append.mp timed.1).1, fun au member => timed.2 au (List.mem_append_left _ member)⟩

/-- A unit that breaks the timeline was heard: the session fails. -/
theorem Runs.untimed (run : Runs options sessionId stream history session) {config : VideoConfig}
    {pid capabilities : UInt32} {later : List Observation}
    (opened : history = later ++ opening config pid capabilities)
    (untimed : ¬Timed (units (chronicle heardOf later))) :
    Closing session ∧ ∀ result, session.main = .returned result → ∃ error, result = .error error := by
  obtain ⟨_, loop, _⟩ := run.behind opened
  obtain ⟨closing, ends⟩ := loop.failed
    (fun noted looping => untimed (looping.units_eq ▸ looping.counted.timed))
    (fun complete => untimed (complete.units_eq ▸ complete.counted.timed))
  exact ⟨closing, fun result returned => (ends result returned).1⟩

theorem Runs.faithful (run : Runs options sessionId stream history session) {messages : List Message} {cut : Nat}
    (fits : ∀ message ∈ messages, Channel.Framable message)
    (receivable : ∀ message ∈ messages, message.Receivable)
    (arrived : stream.inbound.flatten = (Channel.packets 0 messages).flatten.take cut) {stats : MuxerStats}
    (returned : session.main = .returned (.ok stats)) :
    let whole := messages.take (Channel.wholePackets cut (Channel.packets 0 messages))
    Faithful (units (untilStop whole)) (chronicle pushedOf history) ∧
      stats.writtenAccessUnits = (units (untilStop whole)).length ∧
      stats.receivedAccessUnits = (units (untilStop whole)).length := by
  intro whole
  cases run.stage with
  | authenticating phase | starting _ _ phase | spawning _ _ _ phase | refused _ phase =>
    rw [returned] at phase
    cases phase
  | opened config pid capabilities later opens loop flow =>
    have place := loop.place
    simp only [Place, returned] at place
    obtain ⟨complete, same, ceased⟩ := place
    simp only [Flow, ceased] at flow
    obtain ⟨pushed, written, _, _⟩ := flow
    obtain ⟨results, at_cut⟩ := Channel.recvEach_cut (Channel.new stream) messages cut fits receivable arrived
    have reads : ((Channel.new stream).recvEach
        (.clientHello options.token pid capabilities :: .start config :: chronicle heardOf later).length).1 =
        (.clientHello options.token pid capabilities :: .start config :: chronicle heardOf later).map .ok := by
      simp only [List.length_cons, Channel.recvEach, opens.hello, opens.start, loop.reads, List.map_cons]
    have all := complete.ended.arrived results at_cut reads (by simp [unitOf])
    have forwarded : units (untilStop whole) = chronicle forwardedOf later := all.trans complete.units_eq
    have buffers : chronicle pushedOf (later ++ opening config pid capabilities) =
        timeline (chronicle forwardedOf later) := by
      rw [chronicle_append]
      simpa [opening, pushedOf] using pushed
    rw [forwarded]
    refine ⟨?_, written, ?_⟩
    · have faithful := timeline_faithful complete.counted.timed
      rw [← buffers] at faithful
      exact faithful
    · rw [← same]
      exact complete.counted.received

/-- A session that succeeds has written exactly the units that arrived whole
before the end. A unit that breaks the timeline is never forwarded and ends the
session with an error, and finalization is asked for only behind a Stop or the
end of the stream. -/
theorem muxing_faithful (run : Runs options sessionId stream history session) :
    (∀ (messages : List Message) (cut : Nat), (∀ message ∈ messages, Channel.Framable message) →
      (∀ message ∈ messages, message.Receivable) →
      stream.inbound.flatten = (Channel.packets 0 messages).flatten.take cut →
      ∀ stats, session.main = .returned (.ok stats) →
        let whole := messages.take (Channel.wholePackets cut (Channel.packets 0 messages))
        Faithful (units (untilStop whole)) (chronicle pushedOf history) ∧
          stats.writtenAccessUnits = (units (untilStop whole)).length ∧
          stats.receivedAccessUnits = (units (untilStop whole)).length) ∧
    (∀ config pid capabilities later, history = later ++ opening config pid capabilities →
      (chronicle forwardedOf later <+: units (chronicle heardOf later) ∧ Timed (chronicle forwardedOf later)) ∧
      (¬Timed (units (chronicle heardOf later)) →
        (∀ result, session.main = .returned result → ∃ error, result = .error error) ∧
        ∀ first middle last : List Turn, 1 ≤ first.countP Turn.isMain →
          maxQueuedAccessUnits + 2 ≤ middle.countP Turn.isWriter → 2 ≤ last.countP Turn.isMain →
          ∃ error, (execute step session (first ++ (middle ++ last))).1.main = .returned (.error error)) ∧
      (.finishRequested ∈ later → Ended (Channel.new stream).recv.2.recv.2 (chronicle heardOf later))) := by
  constructor
  · intro messages cut fits receivable arrived stats returned
    exact run.faithful fits receivable arrived returned
  · intro config pid capabilities later opened
    obtain ⟨_, loop, _⟩ := run.behind opened
    refine ⟨⟨loop.forwarded_prefix, loop.timed⟩, ?_, loop.asked⟩
    intro untimed
    obtain ⟨closing, ends⟩ := run.untimed opened untimed
    refine ⟨ends, ?_⟩
    intro first middle last drops writes joins
    obtain ⟨result, returned⟩ := closing.returns run.orderly first middle last drops writes joins
    have continued : Runs options sessionId stream _ _ :=
      run.execute (first ++ (middle ++ last)) (permits_unrestricted _ _ _ _)
    have opened' : (execute step session (first ++ (middle ++ last))).2 ++ history =
        ((execute step session (first ++ (middle ++ last))).2 ++ later) ++ opening config pid capabilities := by
      rw [opened, List.append_assoc]
    -- What was heard before is still heard.
    have still : ¬Timed (units (chronicle heardOf ((execute step session (first ++ (middle ++ last))).2 ++ later))) := by
      rw [chronicle_append, units_append]
      exact fun timed => untimed timed.front
    obtain ⟨error, same⟩ := (continued.untimed opened' still).2 result returned
    exact ⟨error, by rw [returned, same]⟩

section

/-- Two units, and a third that the stream is cut inside of. -/
def cutClient : List Message :=
  [.clientHello zeroToken 1 0, .start smallConfig, .accessUnit ⟨10, 10, 5, .keyframe, [1]⟩,
    .accessUnit ⟨30, 30, 5, .empty, [2, 3]⟩, .accessUnit ⟨40, 40, 5, .empty, [4]⟩]

def cutStream : ByteStream where
  inbound := [(Channel.packets 0 cutClient).flatten.take 224]

def cutSession : Session × List Observation :=
  execute step (initial ⟨zeroToken, 60⟩ 0 cutStream)
    (List.replicate 9 (.main {}) ++ List.replicate 5 (.writer {}) ++ List.replicate 2 (.main {}))

theorem cutSession_runs : Runs ⟨zeroToken, 60⟩ 0 cutStream cutSession.2 cutSession.1 := by
  have begun : Runs ⟨zeroToken, 60⟩ 0 cutStream [] (initial ⟨zeroToken, 60⟩ 0 cutStream) := .start rfl
  have run := begun.execute
    (List.replicate 9 (.main {}) ++ List.replicate 5 (.writer {}) ++ List.replicate 2 (.main {}))
    (permits_unrestricted _ _ _ _)
  rw [List.append_nil] at run
  exact run

def cutStats : MuxerStats where
  receivedAccessUnits := 2
  writtenAccessUnits := 2
  receivedBytes := 3
  firstPtsNs := some 10
  lastPtsNs := some 30

theorem cutSession_returned : cutSession.1.main = .returned (.ok cutStats) := by
  decide +kernel

theorem muxing_faithful_cut :
    let whole := cutClient.take (Channel.wholePackets 224 (Channel.packets 0 cutClient))
    Faithful (units (untilStop whole)) (chronicle pushedOf cutSession.2) ∧
      cutStats.writtenAccessUnits = (units (untilStop whole)).length ∧
      cutStats.receivedAccessUnits = (units (untilStop whole)).length :=
  (muxing_faithful cutSession_runs).1 cutClient 224 (by decide) (by decide) (List.append_nil _) cutStats
    cutSession_returned

end

end Luma.Muxer.Session
