import Luma.Protocol.Streaming

/-! What a handshake that succeeds says about the incoming stream.

Two channels read alike when they are at the same place of the same incoming
stream; what they send does not matter.
-/

set_option autoImplicit false

namespace Luma.Protocol.Channel

open Luma.Library

/-! ## What reading depends on -/

/-- The two channels are at the same place of the same incoming stream. -/
def SameReads (left right : Channel) : Prop :=
  left.stream.inbound = right.stream.inbound ∧ left.nextReceive = right.nextReceive

namespace SameReads

theorem refl (channel : Channel) : SameReads channel channel := ⟨rfl, rfl⟩

theorem trans {left middle right : Channel} (first : SameReads left middle) (second : SameReads middle right) :
    SameReads left right :=
  ⟨first.1.trans second.1, first.2.trans second.2⟩

theorem readExact {left right : Channel} (same : SameReads left right) (count : Nat) :
    (left.readExact count).1 = (right.readExact count).1 ∧
      SameReads (left.readExact count).2 (right.readExact count).2 := by
  obtain ⟨inbound, number⟩ := same
  unfold Channel.readExact ByteStream.readExact
  rw [inbound]
  cases ByteStream.readChunks count right.stream.inbound with
  | none => exact ⟨rfl, rfl, number⟩
  | some read => exact ⟨rfl, rfl, number⟩

theorem recv {left right : Channel} (same : SameReads left right) :
    left.recv.1 = right.recv.1 ∧ SameReads left.recv.2 right.recv.2 := by
  have first := same.readExact headerLen
  unfold Channel.recv
  rcases header_left : left.readExact headerLen with ⟨outcome, after⟩
  rcases header_right : right.readExact headerLen with ⟨outcome', after'⟩
  rw [header_left, header_right] at first
  obtain ⟨rfl, along⟩ := first
  cases outcome with
  | error failure => exact ⟨rfl, along⟩
  | ok header =>
    dsimp only
    rw [along.2]
    split_ifs
    · exact ⟨rfl, along⟩
    · exact ⟨rfl, along⟩
    · exact ⟨rfl, along⟩
    · exact ⟨rfl, along⟩
    · have second := along.readExact (readU32 ((header.drop 8).take 4)).toNat
      rcases payload_left : after.readExact (readU32 ((header.drop 8).take 4)).toNat with ⟨payload, last⟩
      rcases payload_right : after'.readExact (readU32 ((header.drop 8).take 4)).toNat with ⟨payload', last'⟩
      rw [payload_left, payload_right] at second
      obtain ⟨rfl, at_end⟩ := second
      cases payload with
      | error failure => exact ⟨rfl, at_end⟩
      | ok payload => exact ⟨rfl, at_end.1, congrArg (· + 1) at_end.2⟩

theorem writeAll (channel : Channel) (bytes : List UInt8) : SameReads (channel.writeAll bytes).2 channel := by
  have untouched : (channel.stream.writeAll bytes).2.inbound = channel.stream.inbound := by
    unfold ByteStream.writeAll
    split
    · rfl
    · split <;> rfl
  unfold Channel.writeAll
  split
  · rename_i stream written
    rw [written] at untouched
    exact ⟨untouched, rfl⟩
  · rename_i stream written
    rw [written] at untouched
    exact ⟨untouched, rfl⟩

/-- Sending leaves the incoming stream alone, whether or not it succeeds. -/
theorem send (channel : Channel) (message : Message) : SameReads (channel.send message).2 channel := by
  unfold Channel.send
  cases encodeMessage message with
  | error failure => exact refl channel
  | ok encoded =>
    dsimp only
    split_ifs
    · exact refl channel
    · have first := writeAll channel (header encoded.1 (UInt32.ofNat encoded.2.length) channel.nextSend)
      rcases written : channel.writeAll (header encoded.1 (UInt32.ofNat encoded.2.length) channel.nextSend)
        with ⟨outcome, middle⟩
      rw [written] at first
      cases outcome with
      | error failure => exact first
      | ok done =>
        have second := (writeAll middle encoded.2).trans first
        dsimp only
        rcases written : middle.writeAll encoded.2 with ⟨outcome, last⟩
        rw [written] at second
        cases outcome with
        | error failure => exact second
        | ok done => exact second

end SameReads

theorem recvEach_succ (self : Channel) (count : Nat) :
    (self.recvEach (count + 1)).1 = (self.recvEach count).1 ++ [(self.recvEach count).2.recv.1] ∧
      (self.recvEach (count + 1)).2 = (self.recvEach count).2.recv.2 := by
  induction count generalizing self with
  | zero => exact ⟨rfl, rfl⟩
  | succ count ih =>
    obtain ⟨results, after⟩ := ih self.recv.2
    exact ⟨congrArg (self.recv.1 :: ·) results, after⟩

/-! ## The handshake of the server -/

theorem or_eq_zero {left right : UInt8} : left ||| right = 0 ↔ left = 0 ∧ right = 0 := by
  constructor
  · intro none
    have bits : left.toBitVec ||| right.toBitVec = 0#8 := congrArg UInt8.toBitVec none
    obtain ⟨first, second⟩ := BitVec.or_eq_zero_iff.mp bits
    exact ⟨UInt8.toBitVec_inj.mp first, UInt8.toBitVec_inj.mp second⟩
  · rintro ⟨rfl, rfl⟩
    rfl

theorem differences_eq_zero (pairs : List (UInt8 × UInt8)) (difference : UInt8) :
    pairs.foldl (fun difference pair => difference ||| (pair.1 ^^^ pair.2)) difference = 0 ↔
      difference = 0 ∧ ∀ pair ∈ pairs, pair.1 = pair.2 := by
  induction pairs generalizing difference with
  | nil => simp
  | cons pair pairs ih =>
    rw [List.foldl_cons, ih, or_eq_zero, UInt8.xor_eq_zero_iff, List.forall_mem_cons, and_assoc]

/-- The comparison without early exit is equality. -/
theorem constantTimeTokenEq_iff {left right : SessionToken} :
    constantTimeTokenEq left right = true ↔ left = right := by
  have lengths : left.val.length = right.val.length := left.property.trans right.property.symm
  rw [constantTimeTokenEq, beq_iff_eq, differences_eq_zero]
  constructor
  · rintro ⟨_, equal⟩
    apply Subtype.ext
    apply List.ext_getElem lengths
    intro place before after
    exact equal _ (List.mem_iff_getElem.mpr ⟨place, by simp [before, after], List.getElem_zip⟩)
  · intro same
    refine ⟨rfl, ?_⟩
    intro pair member
    rw [same, List.zip_eq_zipWith, List.zipWith_self, List.mem_map] at member
    obtain ⟨octet, _, rfl⟩ := member
    rfl

/-- A handshake that succeeds has read a hello with the expected token, and
left the incoming stream after it. -/
theorem serverHandshake_ok {self after : Channel} {expected : SessionToken} {sessionId : UInt64}
    {pid capabilities : UInt32}
    (accepted : self.serverHandshake expected sessionId = (.ok (pid, capabilities), after)) :
    self.recv.1 = .ok (.clientHello expected pid capabilities) ∧ SameReads after self.recv.2 := by
  unfold serverHandshake at accepted
  rcases received : self.recv with ⟨outcome, middle⟩
  rw [received] at accepted
  split at accepted
  · cases accepted
  · rename_i token pid' capabilities' next same
    cases same
    by_cases equal : constantTimeTokenEq expected token = true
    · rw [if_pos equal] at accepted
      have untouched := SameReads.send middle (.serverHello sessionId)
      rcases acknowledged : middle.send (.serverHello sessionId) with ⟨_ | _, last⟩
      · rw [acknowledged] at accepted
        cases accepted
      · rw [acknowledged] at accepted untouched
        cases accepted
        exact ⟨by rw [constantTimeTokenEq_iff.mp equal], untouched⟩
    · rw [if_neg equal] at accepted
      cases accepted
  · cases accepted

end Luma.Protocol.Channel
