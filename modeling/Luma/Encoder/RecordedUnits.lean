import Luma.Encoder.TransportOrder
import Luma.Muxer.SessionFidelity

/-! From the encoder's transport to the recording: what a muxer that reads the worker's stream has written.

The stream may end at any octet, also inside the packet of the write that failed.
-/

set_option autoImplicit false

namespace Luma.Encoder.Transport

open Luma.Library Luma.Library.Transition Luma.Protocol

variable {fps : UInt32} {history : List TransportEvent} {transport : Transport}

/-! ## What is taken and what is sent -/

/-- The packets are those of units that `enqueue` lets in. -/
structure Carried (fps : UInt32) (history : List TransportEvent) (transport : Transport) : Prop where
  rate : transport.fps = fps
  entering : ∀ unit ∈ transport.entering, unit.Fits
  units : ∃ units : List EncodedUnit, enqueued history = units.map (packetBytes fps) ∧ ∀ unit ∈ units, unit.Fits

theorem work_frame (transport : Transport) (succeeds : Bool) : (transport.work succeeds).1.fps = transport.fps ∧
    (transport.work succeeds).1.entering = transport.entering ∧ enqueued (transport.work succeeds).2 = [] := by
  unfold work
  split
  · split <;> exact ⟨rfl, rfl, rfl⟩
  · split
    · exact ⟨rfl, rfl, rfl⟩
    · split <;> exact ⟨rfl, rfl, rfl⟩
  · cases succeeds <;> exact ⟨rfl, rfl, rfl⟩
  · exact ⟨rfl, rfl, rfl⟩
  · exact ⟨rfl, rfl, rfl⟩
  · exact ⟨rfl, rfl, rfl⟩
  · exact ⟨rfl, rfl, rfl⟩
  · exact ⟨rfl, rfl, rfl⟩

theorem push_frame (transport : Transport) (unit : EncodedUnit) :
    (transport.push unit).1.fps = transport.fps ∧ (transport.push unit).1.worker = transport.worker := by
  unfold push
  split
  · exact ⟨rfl, rfl⟩
  · split <;> exact ⟨rfl, rfl⟩

theorem Carried.step (carried : Carried fps history transport) (input : TransportInput) :
    Carried fps ((step transport input).2 ++ history) (step transport input).1 := by
  obtain ⟨rate, entering, units, taken, fits⟩ := carried
  cases input with
  | enqueue unit =>
    change Carried fps ((transport.enter unit).2 ++ history) (transport.enter unit).1
    unfold enter
    split
    · exact ⟨rate, entering, units, by simpa [enqueued] using taken, fits⟩
    · rename_i ready
      refine ⟨rate, fun other member => ?_, units, taken, fits⟩
      rcases List.mem_append.mp member with before | new
      · exact entering other before
      · rw [List.mem_singleton.mp new]
        rw [Bool.not_eq_true, Bool.or_eq_false_iff] at ready
        exact of_decide_eq_true (Bool.not_eq_eq_eq_not.mp ready.2)
  | push caller =>
    change Carried fps ((transport.finishEnqueue caller).2 ++ history) (transport.finishEnqueue caller).1
    unfold finishEnqueue
    cases waits : transport.entering[caller]? with
    | none => exact ⟨rate, entering, units, taken, fits⟩
    | some unit =>
      have fit : unit.Fits := entering unit (List.mem_of_getElem? waits)
      have others : ∀ other ∈ transport.entering.eraseIdx caller, other.Fits :=
        fun other member => entering other (List.mem_of_mem_eraseIdx member)
      have same := (push_frame transport unit).1.trans rate
      dsimp only
      cases (transport.push unit).2 with
      | false => exact ⟨same, others, units, by simpa [enqueued] using taken, fits⟩
      | true =>
        refine ⟨same, others, units ++ [unit], ?_, ?_⟩
        · unfold enqueued at *
          simp [taken, rate]
        · simpa [or_imp, forall_and] using ⟨fits, fit⟩
  | worker succeeds =>
    obtain ⟨sameRate, sameEntering, nothing⟩ := work_frame transport succeeds
    refine ⟨sameRate.trans rate, sameEntering ▸ entering, units, ?_, fits⟩
    exact (chronicle_append _ _ _).trans ((congrArg (_ ++ ·) nothing).trans ((List.append_nil _).trans taken))
  | stop => exact ⟨rate, entering, units, by simpa [enqueued, Transport.step] using taken, fits⟩

/-- Once the worker has left its loop it sends nothing. -/
theorem step_left (left : transport.worker.leftOnStop = true) (input : TransportInput) :
    (step transport input).1.worker.leftOnStop = true ∧ written (step transport input).2 = [] ∧
      cutOff (step transport input).2 = [] := by
  cases input with
  | enqueue unit =>
    change (transport.enter unit).1.worker.leftOnStop = true ∧ written (transport.enter unit).2 = [] ∧
      cutOff (transport.enter unit).2 = []
    unfold enter
    split <;> exact ⟨left, rfl, rfl⟩
  | push caller =>
    change (transport.finishEnqueue caller).1.worker.leftOnStop = true ∧
      written (transport.finishEnqueue caller).2 = [] ∧ cutOff (transport.finishEnqueue caller).2 = []
    unfold finishEnqueue
    split
    · exact ⟨left, rfl, rfl⟩
    · rename_i unit _
      dsimp only
      rw [(push_frame transport unit).2]
      split <;> exact ⟨left, rfl, rfl⟩
  | worker succeeds =>
    change (transport.work succeeds).1.worker.leftOnStop = true ∧ written (transport.work succeeds).2 = [] ∧
      cutOff (transport.work succeeds).2 = []
    unfold work
    cases working : transport.worker with
    | leaving | closing =>
      rw [working] at left
      exact ⟨left, rfl, rfl⟩
    | ended => exact ⟨left, rfl, rfl⟩
    | _ =>
      rw [working] at left
      cases left
  | stop => exact ⟨left, rfl, rfl⟩

theorem Ordered.sent_first (ordered : Ordered history transport) :
    written history ++ cutOff history <+: enqueued history := by
  rw [ordered.order, List.append_assoc]
  exact List.prefix_append _ _

/-- What is sent comes first of what is taken, also when a packet is taken too late. -/
theorem sent_leads (run : Run step unrestricted (· = Transport.initial fps) history transport) :
    written history ++ cutOff history <+: enqueued history := by
  have either : Ordered history transport ∨
      (transport.worker.leftOnStop = true ∧ written history ++ cutOff history <+: enqueued history) := by
    induction run with
    | start begun =>
      subst begun
      exact .inl (Ordered.initial fps)
    | @step history transport input _ _ ih =>
      by_cases left : transport.worker.leftOnStop = true
      · obtain ⟨still, unwritten, uncut⟩ := step_left left input
        have first := ih.elim Ordered.sent_first And.right
        refine .inr ⟨still, ?_⟩
        unfold written cutOff enqueued at *
        rw [chronicle_append, chronicle_append, chronicle_append, unwritten, uncut, List.append_nil, List.append_nil]
        exact first.trans (List.prefix_append _ _)
      · have ordered := ih.resolve_right fun gone => left gone.1
        refine .inl (ordered.kept (step_effect ordered.pooled input) ?_)
        cases input with
        | push caller => exact fun _ => Bool.eq_false_of_not_eq_true left
        | _ => trivial
  exact either.elim Ordered.sent_first And.right

/-! ## What is recorded -/

theorem wholePackets_all (packets : List (List UInt8)) {cut : Nat} (all : packets.flatten.length ≤ cut) :
    Channel.wholePackets cut packets = packets.length := by
  induction packets generalizing cut with
  | nil => rfl
  | cons bytes packets ih =>
    rw [List.flatten_cons, List.length_append] at all
    rw [Channel.wholePackets, if_pos (by omega), ih (by omega), List.length_cons]

/-- Behind the hello and the start come the units, and no Stop. -/
theorem units_messages (token : SessionToken) (pid width height : UInt32) (units : List EncodedUnit) (count : Nat) :
    Muxer.Session.units (Muxer.Session.untilStop ((messages token pid width height fps units).take count)) =
      (units.take (count - 2)).map (·.accessUnit fps) := by
  have running : ∀ message ∈ (messages token pid width height fps units).take count, message ≠ .stop := by
    intro message member
    have there := List.mem_of_mem_take member
    simp only [messages, List.mem_cons, List.mem_map] at there
    rcases there with rfl | rfl | ⟨_, _, rfl⟩ <;> simp
  rw [Muxer.Session.untilStop_of_running running]
  rcases count with - | - | count
  · rfl
  · rfl
  · change ((units.map fun unit => Message.accessUnit (unit.accessUnit fps)).take count).filterMap _ = _
    rw [← List.map_take, List.filterMap_map]
    exact List.filterMap_eq_map ▸ rfl

/-- A recording that the muxer finishes has the first units that `enqueue` has taken, each once, in their order, and
unchanged but for the time of the first. If the stream has come through, it has all that were sent. -/
theorem units_recorded (sent : Run step unrestricted (· = Transport.initial fps) history transport)
    (token : SessionToken) (pid : UInt32) {width height : UInt32} (creatable : Creatable width height fps)
    {options : Muxer.Options} {sessionId : UInt64} {stream : ByteStream} {seen : List Muxer.Observation}
    {session : Muxer.Session} (run : Muxer.Session.Runs options sessionId stream seen session) {cut : Nat}
    (arrived : stream.inbound.flatten =
      (transportStream token pid width height fps (written history ++ cutOff history)).take cut)
    {stats : Muxer.MuxerStats} (returned : session.main = .returned (.ok stats)) :
    ∃ units : List EncodedUnit, enqueued history = units.map (packetBytes fps) ∧
      Muxer.Session.Faithful ((units.take stats.writtenAccessUnits).map (·.accessUnit fps))
        (chronicle Muxer.Session.pushedOf seen) ∧
      stats.writtenAccessUnits ≤ (written history ++ cutOff history).length ∧
      (stream.inbound.flatten = transportStream token pid width height fps (written history ++ cutOff history) →
        stats.writtenAccessUnits = (written history ++ cutOff history).length) := by
  have carried : Carried fps history transport := by
    refine sent.invariant ?_ fun _ _ input _ _ carried => carried.step input
    rintro _ rfl
    exact ⟨rfl, nofun, [], rfl, nofun⟩
  obtain ⟨units, taken, fits⟩ := carried.units
  obtain ⟨first, same⟩ : ∃ first, written history ++ cutOff history = (units.take first).map (packetBytes fps) := by
    have front := List.prefix_iff_eq_take.mp (sent_leads sent)
    rw [taken, ← List.map_take] at front
    exact ⟨_, front⟩
  have small : ∀ unit ∈ units.take first, unit.Fits := fun unit member => fits unit (List.mem_of_mem_take member)
  rw [same] at arrived ⊢
  have stream_eq := transportStream_eq token pid width height fps (units.take first)
  have recorded := run.faithful (messages_framable token pid width height fps small)
    (messages_receivable token pid creatable small) (stream_eq ▸ arrived) returned
  dsimp only at recorded
  rw [units_messages, List.length_map] at recorded
  obtain ⟨faithful, count, -⟩ := recorded
  rw [List.length_map]
  refine ⟨units, taken, ?_, ?_, fun whole => ?_⟩
  · have front : (units.take first).take (Channel.wholePackets cut
        (Channel.packets 0 (messages token pid width height fps (units.take first))) - 2) =
          units.take stats.writtenAccessUnits := by
      rw [count, List.take_take, List.take_eq_take_iff, List.length_take]
      omega
    exact front ▸ faithful
  · rw [count, List.length_take]
    exact Nat.min_le_right _ _
  · have long : (Channel.packets 0 (messages token pid width height fps (units.take first))).flatten.length ≤ cut := by
      rw [← stream_eq, ← List.take_eq_self_iff]
      exact arrived.symm.trans whole
    have all := wholePackets_all _ long
    have two : (messages token pid width height fps (units.take first)).length = (units.take first).length + 2 := by
      simp [messages]
    rw [count, all, Channel.packets_length, two, Nat.add_sub_cancel, List.take_length]

/-- One unit is taken and sent, and is the recording. -/
theorem units_recorded_one : ∃ (history : List TransportEvent) (units : List EncodedUnit)
    (seen : List Muxer.Observation), (enqueued history).length = 1 ∧
      enqueued history = units.map (packetBytes 60) ∧
      Muxer.Session.Faithful ((units.take 1).map (·.accessUnit 60)) (chronicle Muxer.Session.pushedOf seen) := by
  let unit : EncodedUnit := { bytes := [0, 0, 0, 1], pts := 5, keyframe := true }
  let token : SessionToken := ⟨List.replicate 32 7, rfl⟩
  let stream : ByteStream := { inbound := [transportStream token 42 2 2 60 [packetBytes 60 unit]] }
  let inputs : List TransportInput := [.worker true, .enqueue unit, .push 0, .worker true, .worker true]
  let turns : List Muxer.Turn :=
    List.replicate 7 (.main {}) ++ List.replicate 4 (.writer {}) ++ List.replicate 2 (.main {})
  let stats : Muxer.MuxerStats :=
    { receivedAccessUnits := 1, writtenAccessUnits := 1, receivedBytes := 4, firstPtsNs := some 5, lastPtsNs := some 5 }
  have sent : ∃ history transport, Run step unrestricted (· = Transport.initial 60) history transport ∧
      written history ++ cutOff history = [packetBytes 60 unit] ∧ (enqueued history).length = 1 :=
    ⟨_, _, .execute inputs (.start rfl) (permits_unrestricted _ _ _ _), by decide +kernel, by decide +kernel⟩
  have recorded : ∃ seen session, Muxer.Session.Runs ⟨token, 60⟩ 0 stream seen session ∧
      session.main = .returned (.ok stats) :=
    ⟨_, _, .execute turns (.start rfl) (permits_unrestricted _ _ _ _), by decide +kernel⟩
  obtain ⟨history, transport, sent, packets, taken⟩ := sent
  obtain ⟨seen, session, run, returned⟩ := recorded
  have arrived : stream.inbound.flatten =
      (transportStream token 42 2 2 60 (written history ++ cutOff history)).take 1000 := by
    rw [packets]
    decide +kernel
  obtain ⟨units, same, faithful, -⟩ := units_recorded sent token 42 (by decide) run arrived returned
  exact ⟨history, units, seen, taken, same, faithful⟩

end Luma.Encoder.Transport
