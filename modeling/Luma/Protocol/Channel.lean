import Luma.Library.ByteStream
import Luma.Protocol.Codec

/-! Framed transport: `Channel::send`, `Channel::recv` and the handshakes.

A packet is a 16-octet header and a payload. Every operation returns the
channel it leaves, also when it fails.
-/

set_option autoImplicit false

namespace Luma.Protocol

open Luma.Library

structure Channel where
  stream : ByteStream
  nextSend : UInt32
  nextReceive : UInt32
  deriving DecidableEq, Repr

namespace Channel

def new (stream : ByteStream) : Channel := ⟨stream, 0, 0⟩

def writeAll (self : Channel) (bytes : List UInt8) : Except ProtocolError Unit × Channel :=
  match self.stream.writeAll bytes with
  | (some (), stream) => (.ok (), { self with stream })
  | (none, stream) => (.error (.io "Broken pipe"), { self with stream })

def readExact (self : Channel) (count : Nat) : Except ProtocolError (List UInt8) × Channel :=
  match self.stream.readExact count with
  | (some bytes, stream) => (.ok bytes, { self with stream })
  | (none, stream) => (.error (.io "failed to fill whole buffer"), { self with stream })

def header (kind : UInt16) (length sequence : UInt32) : List UInt8 :=
  pushU32 magic ++ (pushU16 protocolVersion ++ (pushU16 kind ++ (pushU32 length ++ pushU32 sequence)))

def send (self : Channel) (message : Message) : Except ProtocolError Unit × Channel :=
  match encodeMessage message with
  | .error failure => (.error failure, self)
  | .ok (kind, payload) =>
    if payload.length > maximumFor kind then
      (.error (.oversized "game-capture" payload.length (maximumFor kind)), self)
    else
      match self.writeAll (header kind (UInt32.ofNat payload.length) self.nextSend) with
      | (.error failure, self) => (.error failure, self)
      | (.ok (), self) =>
        match self.writeAll payload with
        | (.error failure, self) => (.error failure, self)
        | (.ok (), self) => (.ok (), { self with nextSend := self.nextSend + 1 })

def recv (self : Channel) : Except ProtocolError Message × Channel :=
  match self.readExact headerLen with
  | (.error failure, self) => (.error failure, self)
  | (.ok header, self) =>
    let version := readU16 ((header.drop 4).take 2)
    let kind := readU16 ((header.drop 6).take 2)
    let length := (readU32 ((header.drop 8).take 4)).toNat
    let sequence := readU32 ((header.drop 12).take 4)
    if readU32 (header.take 4) ≠ magic then (.error .badMagic, self)
    else if version ≠ protocolVersion then (.error (.unsupportedVersion version), self)
    else if sequence ≠ self.nextReceive then (.error (.sequence self.nextReceive sequence), self)
    else if length > maximumFor kind then
      (.error (.oversized "game-capture" length (maximumFor kind)), self)
    else
      match self.readExact length with
      | (.error failure, self) => (.error failure, self)
      | (.ok payload, self) =>
        (decodeMessage kind payload, { self with nextReceive := self.nextReceive + 1 })

/-- The hook-side authentication exchange. -/
def clientHandshake (self : Channel) (token : SessionToken) (pid capabilities : UInt32) :
    Except ProtocolError UInt64 × Channel :=
  match self.send (.clientHello token pid capabilities) with
  | (.error failure, self) => (.error failure, self)
  | (.ok (), self) =>
    match self.recv with
    | (.error failure, self) => (.error failure, self)
    | (.ok (.serverHello sessionId), self) => (.ok sessionId, self)
    | (.ok (.error code message), self) => (.error (.serverRejected code message), self)
    | (.ok _, self) => (.error (.invalidPayload "expected server hello"), self)

/-- Compare fixed-size secrets without early exit. -/
def constantTimeTokenEq (left right : SessionToken) : Bool :=
  (List.zip left.val right.val).foldl (fun difference pair => difference ||| (pair.1 ^^^ pair.2)) 0 == 0

def serverHandshake (self : Channel) (expected : SessionToken) (sessionId : UInt64) :
    Except ProtocolError (UInt32 × UInt32) × Channel :=
  match self.recv with
  | (.error failure, self) => (.error failure, self)
  | (.ok (.clientHello token pid capabilities), self) =>
    if constantTimeTokenEq expected token then
      match self.send (.serverHello sessionId) with
      | (.error failure, self) => (.error failure, self)
      | (.ok (), self) => (.ok (pid, capabilities), self)
    else (.error .authenticationFailed, self)
  | (.ok _, self) => (.error (.invalidPayload "expected client hello"), self)

/-! ## One packet -/

theorem header_length (kind : UInt16) (length sequence : UInt32) :
    (header kind length sequence).length = headerLen := by
  simp [header, headerLen]

theorem writeAll_ok {self sent : Channel} {bytes : List UInt8} (written : self.writeAll bytes = (.ok (), sent)) :
    sent.stream.outbound = self.stream.outbound ++ bytes ∧ sent.nextSend = self.nextSend := by
  unfold writeAll at written
  split at written
  · rename_i stream written'
    cases written
    exact ⟨(ByteStream.writeAll_ok written').1, rfl⟩
  · cases written

theorem readExact_of_arrived {self : Channel} {bytes later : List UInt8}
    (arrived : self.stream.inbound.flatten = bytes ++ later) :
    ∃ after : Channel, self.readExact bytes.length = (.ok bytes, after) ∧
      after.stream.inbound.flatten = later ∧ after.nextReceive = self.nextReceive := by
  obtain ⟨inbound, read, left⟩ := ByteStream.readExact_of_arrived arrived
  exact ⟨{ self with stream := { self.stream with inbound } }, by simp only [readExact, read], left, rfl⟩

/-- What a send that succeeds has put on the stream. -/
theorem send_ok {self sent : Channel} {message : Message} (accepted : self.send message = (.ok (), sent)) :
    message.payload.length ≤ maximumFor message.kind ∧ sent.nextSend = self.nextSend + 1 ∧
      sent.stream.outbound = self.stream.outbound ++
        (header message.kind (UInt32.ofNat message.payload.length) self.nextSend ++ message.payload) := by
  unfold send at accepted
  rcases encoded : encodeMessage message with failure | ⟨kind, payload⟩ <;> rw [encoded] at accepted
  · cases accepted
  obtain ⟨rfl, rfl⟩ := encodeMessage_ok encoded
  by_cases oversized : message.payload.length > maximumFor message.kind
  · simp only [oversized, ↓reduceIte] at accepted
    cases accepted
  simp only [oversized, ↓reduceIte] at accepted
  rcases first : self.writeAll (header message.kind (UInt32.ofNat message.payload.length) self.nextSend)
    with ⟨_ | _, middle⟩ <;> rw [first] at accepted
  · cases accepted
  simp only at accepted
  rcases second : middle.writeAll message.payload with ⟨_ | _, last⟩ <;> rw [second] at accepted
  · cases accepted
  cases accepted
  obtain ⟨written, kept⟩ := writeAll_ok first
  obtain ⟨rest, last_kept⟩ := writeAll_ok second
  refine ⟨Nat.le_of_not_lt oversized, ?_, ?_⟩
  · simp only [last_kept, kept]
  · rw [rest, written, List.append_assoc]

theorem slice (front field back : List UInt8) :
    ((front ++ (field ++ back)).drop front.length).take field.length = field := by
  rw [List.drop_left, List.take_left]

theorem header_fields (kind : UInt16) (length sequence : UInt32) :
    let packet := header kind length sequence
    readU32 (packet.take 4) = magic ∧ readU16 ((packet.drop 4).take 2) = protocolVersion ∧
      readU16 ((packet.drop 6).take 2) = kind ∧ readU32 ((packet.drop 8).take 4) = length ∧
      readU32 ((packet.drop 12).take 4) = sequence := by
  have at0 := slice [] (pushU32 magic) (pushU16 protocolVersion ++ (pushU16 kind ++ (pushU32 length ++ pushU32 sequence)))
  have at4 := slice (pushU32 magic) (pushU16 protocolVersion) (pushU16 kind ++ (pushU32 length ++ pushU32 sequence))
  have at6 := slice (pushU32 magic ++ pushU16 protocolVersion) (pushU16 kind) (pushU32 length ++ pushU32 sequence)
  have at8 := slice (pushU32 magic ++ (pushU16 protocolVersion ++ pushU16 kind)) (pushU32 length) (pushU32 sequence)
  have at12 := slice (pushU32 magic ++ (pushU16 protocolVersion ++ (pushU16 kind ++ pushU32 length)))
    (pushU32 sequence) []
  simp only [List.append_assoc, List.append_nil, List.nil_append, List.length_append, pushU32_length,
    pushU16_length, List.length_nil, List.drop_zero, Nat.reduceAdd] at at0 at4 at6 at8 at12
  simp only [header, at0, at4, at6, at8, at12, readU32_pushU32, readU16_pushU16, and_self]

/-- A well-framed packet in sequence is consumed whole, whether or not its
payload decodes. -/
theorem recv_of_packet {self : Channel} {kind : UInt16} {payload later : List UInt8}
    (bounded : payload.length ≤ maximumFor kind)
    (arrived : self.stream.inbound.flatten =
      header kind (UInt32.ofNat payload.length) self.nextReceive ++ (payload ++ later)) :
    ∃ after : Channel, self.recv = (decodeMessage kind payload, after) ∧
      after.stream.inbound.flatten = later ∧ after.nextReceive = self.nextReceive + 1 := by
  obtain ⟨middle, first, left, kept⟩ := readExact_of_arrived arrived
  obtain ⟨after, second, last_left, last_kept⟩ := readExact_of_arrived left
  obtain ⟨magic_read, version_read, kind_read, length_read, sequence_read⟩ :=
    header_fields kind (UInt32.ofNat payload.length) self.nextReceive
  have width : (UInt32.ofNat payload.length).toNat = payload.length :=
    UInt32.toNat_ofNat_of_lt' (Nat.lt_of_le_of_lt bounded (maximumFor_lt kind))
  rw [header_length] at first
  refine ⟨{ after with nextReceive := after.nextReceive + 1 }, ?_, last_left, ?_⟩
  · simp only [recv, first, magic_read, version_read, kind_read, length_read, sequence_read, kept, width,
      ne_eq, not_true_eq_false, ↓reduceIte, gt_iff_lt, Nat.not_lt.mpr bounded, second]
  · simp only [last_kept, kept]

/-- A message the sender accepts is received unchanged exactly when it is not a
start with a zero dimension or rate and not an access unit without data. The
receiver refuses those two by their payload and stays aligned on the next packet. -/
theorem recv_send {sender sent : Channel} {message : Message} (accepted : sender.send message = (.ok (), sent)) :
    ∃ wrote, sent.stream.outbound = sender.stream.outbound ++ wrote ∧
      ∀ (receiver : Channel) (later : List UInt8), receiver.nextReceive = sender.nextSend →
        receiver.stream.inbound.flatten = wrote ++ later →
        (receiver.recv.1 = .ok message ↔ message.Receivable) ∧
        (¬message.Receivable → ∃ reason, receiver.recv.1 = .error (.invalidPayload reason)) ∧
        receiver.recv.2.stream.inbound.flatten = later ∧ receiver.recv.2.nextReceive = sent.nextSend := by
  obtain ⟨bounded, advanced, wrote⟩ := send_ok accepted
  refine ⟨_, wrote, ?_⟩
  intro receiver later aligned arrived
  rw [← aligned, List.append_assoc] at arrived
  obtain ⟨after, received, left, next⟩ := recv_of_packet bounded arrived
  rw [received, advanced, ← aligned]
  refine ⟨⟨fun decoded => (decodeMessage_faithful decoded).2.1, ?_⟩, ?_, left, next⟩
  · intro receivable
    exact decodeMessage_complete (Nat.lt_of_le_of_lt bounded
      (Nat.lt_of_lt_of_le (maximumFor_lt _) (by decide))) ⟨rfl, receivable, rfl⟩
  · intro refused
    rcases decoded : decodeMessage message.kind message.payload with failure | found
    · obtain ⟨reason, rfl⟩ := decodeMessage_malformed (Decode.known_rejects message.kind_known) decoded
      exact ⟨reason, rfl⟩
    · obtain ⟨kinds, receivable, same⟩ := decodeMessage_faithful decoded
      exact absurd (Message.payload_injective kinds same.symm ▸ receivable) refused

theorem recv_send_stop :
    ∃ wrote, ((new {}).send .stop).2.stream.outbound = (new {}).stream.outbound ++ wrote ∧
      ∀ (receiver : Channel) (later : List UInt8), receiver.nextReceive = (new {}).nextSend →
        receiver.stream.inbound.flatten = wrote ++ later →
        (receiver.recv.1 = .ok .stop ↔ Message.stop.Receivable) ∧
        (¬Message.stop.Receivable → ∃ reason, receiver.recv.1 = .error (.invalidPayload reason)) ∧
        receiver.recv.2.stream.inbound.flatten = later ∧
        receiver.recv.2.nextReceive = ((new {}).send .stop).2.nextSend :=
  recv_send rfl

/-- Sent without complaint, refused on arrival: a start of width zero and an
access unit without data. -/
theorem accepted_not_received :
    let zeroWidth := Message.start ⟨.h264, 0, 1080, 60, 1⟩
    let noData := Message.accessUnit ⟨0, 0, 0, .empty, []⟩
    let sent := (new {}).send
    let received := fun message => ((new { inbound := [(sent message).2.stream.outbound] }).recv).1
    (sent zeroWidth).1 = .ok () ∧ received zeroWidth = .error (.invalidPayload "zero video dimension or rate") ∧
      (sent noData).1 = .ok () ∧ received noData = .error (.invalidPayload "empty access unit") :=
  ⟨rfl, rfl, rfl, rfl⟩

end Channel

end Luma.Protocol
