import Mathlib.Tactic.SplitIfs
import Luma.Protocol.Cursor

/-! The message codec: `encode_message`, `decode_message` and their agreement.

Every decodable message has one spelling under its kind. Encoder and decoder
are both read off that spelling, so the round trip and canonicity are the two
directions of one equivalence.
-/

set_option autoImplicit false

namespace Luma.Protocol

open Luma.Library

def utf8 (text : String) : List UInt8 := text.toByteArray.data.toList

/-- `str::from_utf8`. -/
def fromUtf8 (bytes : List UInt8) : Except ProtocolError String :=
  match String.fromUTF8? ⟨bytes.toArray⟩ with
  | some text => .ok text
  | none => .error (.invalidPayload "non-UTF8 error")

theorem fromUtf8_ok {bytes : List UInt8} {text : String} : fromUtf8 bytes = .ok text ↔ bytes = utf8 text := by
  unfold fromUtf8 utf8 String.fromUTF8?
  constructor
  · intro decoded
    split at decoded
    · rename_i found valid
      cases decoded
      split at valid
      · cases valid; rfl
      · cases valid
    · cases decoded
  · rintro rfl
    have same : (⟨text.toByteArray.data.toList.toArray⟩ : ByteArray) = text.toByteArray := rfl
    rw [same, dif_pos text.isValidUTF8]
    rfl

def encodeMessage : Message → Except ProtocolError (UInt16 × List UInt8)
  | .clientHello token pid capabilities =>
      .ok (Kind.clientHello, token.val ++ (pushU32 pid ++ pushU32 capabilities))
  | .serverHello sessionId => .ok (Kind.serverHello, pushU64 sessionId)
  | .start config =>
      let codec : UInt8 := match config.codec with | .h264 => 1
      .ok (Kind.start, [codec] ++ (pushU32 config.width ++ (pushU32 config.height ++
        (pushU32 config.fpsNum ++ pushU32 config.fpsDen))))
  | .accessUnit unit =>
      .ok (Kind.accessUnit, pushU64 unit.ptsNs ++ (pushU64 unit.dtsNs ++ (pushU64 unit.durationNs ++
        (pushU32 unit.flags.bits ++ unit.data))))
  | .stats stats =>
      .ok (Kind.stats, pushU64 stats.submitted ++ (pushU64 stats.encoded ++
        (pushU64 stats.droppedBeforeEncode ++ (pushU64 stats.droppedSendBackpressure ++
          pushU64 stats.encodeLatencyUs))))
  | .stop => .ok (Kind.stop, [])
  | .error code message =>
      let bytes := utf8 message
      if bytes.length > maxControlBytes - 4 then
        .error (.oversized "error" bytes.length (maxControlBytes - 4))
      else .ok (Kind.error, pushU32 code ++ bytes)

namespace Decode

def clientHello : Cursor.Read Message := do
  let token ← Cursor.array
  let pid ← Cursor.u32
  let capabilities ← Cursor.u32
  return .clientHello token pid capabilities

def serverHello : Cursor.Read Message := do
  let sessionId ← Cursor.u64
  return .serverHello sessionId

def codec : UInt8 → Except ProtocolError Codec
  | 1 => .ok .h264
  | _ => .error (.invalidPayload "unknown codec")

def start : Cursor.Read Message := do
  let codec ← Cursor.byte >>= fun first => liftM (codec first)
  let width ← Cursor.u32
  let height ← Cursor.u32
  let fpsNum ← Cursor.u32
  let fpsDen ← Cursor.u32
  if width = 0 ∨ height = 0 ∨ fpsNum = 0 ∨ fpsDen = 0 then
    throw (.invalidPayload "zero video dimension or rate")
  else return .start ⟨codec, width, height, fpsNum, fpsDen⟩

/-- The access unit is built only once its data is known not to be empty. -/
def unit (ptsNs dtsNs durationNs : UInt64) (flags : AccessUnitFlags) (data : List UInt8) :
    Except ProtocolError Message :=
  if data = [] then .error (.invalidPayload "empty access unit")
  else .ok (.accessUnit ⟨ptsNs, dtsNs, durationNs, flags, data⟩)

def accessUnit : Cursor.Read Message := do
  let ptsNs ← Cursor.u64
  let dtsNs ← Cursor.u64
  let durationNs ← Cursor.u64
  let flags ← Cursor.u32 >>= fun bits => liftM (AccessUnitFlags.fromBits bits)
  let data ← Cursor.rest
  liftM (unit ptsNs dtsNs durationNs flags data)

def stats : Cursor.Read Message := do
  let submitted ← Cursor.u64
  let encoded ← Cursor.u64
  let droppedBeforeEncode ← Cursor.u64
  let droppedSendBackpressure ← Cursor.u64
  let encodeLatencyUs ← Cursor.u64
  return .stats ⟨submitted, encoded, droppedBeforeEncode, droppedSendBackpressure, encodeLatencyUs⟩

def stop : Cursor.Read Message := return .stop

def error : Cursor.Read Message := do
  let code ← Cursor.u32
  let bytes ← Cursor.rest
  liftM ((fromUtf8 bytes).map (Message.error code))

end Decode

def readMessage (kind : UInt16) : Cursor.Read Message :=
  if kind = Kind.clientHello then Decode.clientHello
  else if kind = Kind.serverHello then Decode.serverHello
  else if kind = Kind.start then Decode.start
  else if kind = Kind.accessUnit then Decode.accessUnit
  else if kind = Kind.stats then Decode.stats
  else if kind = Kind.stop then Decode.stop
  else if kind = Kind.error then Decode.error
  else throw (.unknownMessage kind)

def decodeMessage (kind : UInt16) (payload : List UInt8) : Except ProtocolError Message := do
  let (message, cursor) ← (readMessage kind).run (Cursor.new payload)
  if !cursor.isEmpty && kind != Kind.accessUnit && kind != Kind.error then
    throw (.invalidPayload "trailing bytes")
  else return message

/-! ## Spellings -/

/-- The octets the encoder writes, its length check aside. -/
@[simp] def Message.payload : Message → List UInt8
  | .clientHello token pid capabilities => token.val ++ (pushU32 pid ++ pushU32 capabilities)
  | .serverHello sessionId => pushU64 sessionId
  | .start config => [1] ++ (pushU32 config.width ++ (pushU32 config.height ++
      (pushU32 config.fpsNum ++ pushU32 config.fpsDen)))
  | .accessUnit unit => pushU64 unit.ptsNs ++ (pushU64 unit.dtsNs ++ (pushU64 unit.durationNs ++
      (pushU32 unit.flags.bits ++ unit.data)))
  | .stats counters => pushU64 counters.submitted ++ (pushU64 counters.encoded ++
      (pushU64 counters.droppedBeforeEncode ++ (pushU64 counters.droppedSendBackpressure ++
        pushU64 counters.encodeLatencyUs)))
  | .stop => []
  | .error code message => pushU32 code ++ utf8 message

/-- What the receiver demands beyond the shape of the fields. -/
def Message.Receivable : Message → Prop
  | .start config => ¬(config.width = 0 ∨ config.height = 0 ∨ config.fpsNum = 0 ∨ config.fpsDen = 0)
  | .accessUnit unit => unit.data ≠ []
  | _ => True

instance : DecidablePred Message.Receivable := fun message => by
  cases message <;> unfold Message.Receivable <;> infer_instance

def Spells (kind : UInt16) : Reader.Grammar Message := fun message bytes =>
  message.kind = kind ∧ message.Receivable ∧ bytes = message.payload

/-! ## Each reader accepts exactly the spellings of its kind -/

namespace Decode

open Reader

theorem clientHello_reads : Cursor.Reads clientHello (Spells Kind.clientHello) := by
  refine (Cursor.array_reads.bind fun token => Cursor.u32_reads.bind fun pid =>
    Cursor.u32_reads.bind fun capabilities =>
      Reads.pure (Message.clientHello token pid capabilities)).congr ?_
  intro message bytes
  simp only [Grammar.bind_written, Grammar.pure]
  constructor
  · rintro ⟨kind, _, rfl⟩
    cases message with
    | clientHello token pid capabilities => exact ⟨token, _, ⟨pid, _, ⟨capabilities, _, ⟨rfl, rfl⟩, rfl⟩, rfl⟩, by simp⟩
    | _ => nomatch kind
  · rintro ⟨token, _, ⟨pid, _, ⟨capabilities, _, ⟨rfl, rfl⟩, rfl⟩, rfl⟩, rfl⟩
    exact ⟨rfl, trivial, by simp⟩

theorem serverHello_reads : Cursor.Reads serverHello (Spells Kind.serverHello) := by
  refine (Cursor.u64_reads.bind fun sessionId => Reads.pure (Message.serverHello sessionId)).congr ?_
  intro message bytes
  simp only [Grammar.bind_written, Grammar.pure]
  constructor
  · rintro ⟨kind, _, rfl⟩
    cases message with
    | serverHello sessionId => exact ⟨sessionId, _, ⟨rfl, rfl⟩, by simp⟩
    | _ => nomatch kind
  · rintro ⟨sessionId, _, ⟨rfl, rfl⟩, rfl⟩
    exact ⟨rfl, trivial, by simp⟩

theorem codec_reads : Cursor.Reads (Cursor.byte >>= fun first => liftM (codec first))
    (fun _ bytes => bytes = [1]) := by
  refine (Cursor.byte_reads.convert codec).congr ?_
  intro found bytes
  constructor
  · rintro rfl
    exact ⟨1, rfl, by cases found; rfl⟩
  · rintro ⟨first, rfl, passed⟩
    unfold codec at passed
    split at passed
    · rfl
    · cases passed

theorem start_reads : Cursor.Reads start (Spells Kind.start) := by
  refine (codec_reads.bind fun codec => Cursor.u32_reads.bind fun width =>
    Cursor.u32_reads.bind fun height => Cursor.u32_reads.bind fun fpsNum =>
      Cursor.u32_reads.bind fun fpsDen =>
        (Reads.pure (Message.start ⟨codec, width, height, fpsNum, fpsDen⟩)).guard
          (width = 0 ∨ height = 0 ∨ fpsNum = 0 ∨ fpsDen = 0) _).congr ?_
  intro message bytes
  simp only [Grammar.bind_written, Grammar.guard, Grammar.pure]
  constructor
  · rintro ⟨kind, positive, rfl⟩
    cases message with
    | start config =>
      exact ⟨config.codec, _, ⟨config.width, _, ⟨config.height, _, ⟨config.fpsNum, _,
        ⟨config.fpsDen, [], ⟨positive, rfl, rfl⟩, rfl⟩, rfl⟩, rfl⟩, rfl⟩, by simp⟩
    | _ => nomatch kind
  · rintro ⟨codec, _, ⟨width, _, ⟨height, _, ⟨fpsNum, _, ⟨fpsDen, _, ⟨positive, rfl, rfl⟩, rfl⟩,
      rfl⟩, rfl⟩, rfl⟩, rfl⟩
    exact ⟨rfl, positive, by simp⟩

theorem flags_reads : Cursor.Reads (Cursor.u32 >>= fun bits => liftM (AccessUnitFlags.fromBits bits))
    (fun flags bytes => bytes = pushU32 flags.bits) := by
  refine (Cursor.u32_reads.convert AccessUnitFlags.fromBits).congr ?_
  intro flags bytes
  constructor
  · rintro rfl
    exact ⟨flags.bits, rfl, AccessUnitFlags.fromBits_bits flags⟩
  · rintro ⟨bits, rfl, passed⟩
    rw [AccessUnitFlags.bits_of_fromBits passed]

theorem accessUnit_reads : ReadsAll Cursor.remaining Cursor.Addressable accessUnit
    (Spells Kind.accessUnit) := by
  refine (ReadsAll.bind Cursor.u64_reads fun ptsNs => .bind Cursor.u64_reads fun dtsNs =>
    .bind Cursor.u64_reads fun durationNs => .bind flags_reads fun flags =>
      Cursor.rest_readsAll.convert (unit ptsNs dtsNs durationNs flags)).congr ?_
  intro message bytes
  simp only [Grammar.bind_written, Grammar.convert, unit]
  constructor
  · rintro ⟨kind, nonempty, rfl⟩
    cases message with
    | accessUnit unit =>
      exact ⟨unit.ptsNs, _, ⟨unit.dtsNs, _, ⟨unit.durationNs, _, ⟨unit.flags, _,
        ⟨unit.data, rfl, if_neg nonempty⟩, rfl⟩, rfl⟩, rfl⟩, rfl⟩
    | _ => nomatch kind
  · rintro ⟨ptsNs, _, ⟨dtsNs, _, ⟨durationNs, _, ⟨flags, _, ⟨data, rfl, passed⟩, rfl⟩, rfl⟩, rfl⟩, rfl⟩
    split at passed
    · cases passed
    · cases passed
      exact ⟨rfl, by assumption, rfl⟩

theorem stats_reads : Cursor.Reads stats (Spells Kind.stats) := by
  refine (Cursor.u64_reads.bind fun submitted => Cursor.u64_reads.bind fun encoded =>
    Cursor.u64_reads.bind fun beforeEncode => Cursor.u64_reads.bind fun backpressure =>
      Cursor.u64_reads.bind fun latency => Reads.pure
        (Message.stats ⟨submitted, encoded, beforeEncode, backpressure, latency⟩)).congr ?_
  intro message bytes
  simp only [Grammar.bind_written, Grammar.pure]
  constructor
  · rintro ⟨kind, _, rfl⟩
    cases message with
    | stats counters =>
      exact ⟨counters.submitted, _, ⟨counters.encoded, _, ⟨counters.droppedBeforeEncode, _,
        ⟨counters.droppedSendBackpressure, _, ⟨counters.encodeLatencyUs, _, ⟨rfl, rfl⟩, rfl⟩, rfl⟩,
        rfl⟩, rfl⟩, by simp⟩
    | _ => nomatch kind
  · rintro ⟨submitted, _, ⟨encoded, _, ⟨beforeEncode, _, ⟨backpressure, _, ⟨latency, _, ⟨rfl, rfl⟩,
      rfl⟩, rfl⟩, rfl⟩, rfl⟩, rfl⟩
    exact ⟨rfl, trivial, by simp⟩

theorem stop_reads : Cursor.Reads stop (Spells Kind.stop) := by
  refine (Reads.pure Message.stop).congr ?_
  intro message bytes
  constructor
  · rintro ⟨kind, _, rfl⟩
    cases message with
    | stop => exact ⟨rfl, rfl⟩
    | _ => nomatch kind
  · rintro ⟨rfl, rfl⟩
    exact ⟨rfl, trivial, rfl⟩

theorem error_reads : ReadsAll Cursor.remaining Cursor.Addressable error (Spells Kind.error) := by
  refine (ReadsAll.bind Cursor.u32_reads fun code =>
    Cursor.rest_readsAll.convert (fun bytes => (fromUtf8 bytes).map (Message.error code))).congr ?_
  intro message bytes
  simp only [Grammar.bind_written, Grammar.convert]
  constructor
  · rintro ⟨kind, _, rfl⟩
    cases message with
    | error code text =>
      refine ⟨code, _, ⟨utf8 text, rfl, ?_⟩, rfl⟩
      rw [fromUtf8_ok.mpr rfl]
      rfl
    | _ => nomatch kind
  · rintro ⟨code, _, ⟨bytes, rfl, passed⟩, rfl⟩
    cases decoded : fromUtf8 bytes with
    | error failure => rw [decoded] at passed; cases passed
    | ok text =>
      rw [decoded] at passed
      cases passed
      exact ⟨rfl, trivial, by rw [fromUtf8_ok.mp decoded]; rfl⟩

end Decode

/-! ## Rejected payloads -/

namespace Decode

open Reader Cursor

theorem known_rejects {kind : UInt16}
    (known : kind ∈ [Kind.clientHello, Kind.serverHello, Kind.start, Kind.accessUnit, Kind.stats, Kind.stop,
      Kind.error]) : Rejects (readMessage kind) := by
  simp only [List.mem_cons, List.not_mem_nil, or_false] at known
  rcases known with rfl | rfl | rfl | rfl | rfl | rfl | rfl
  · exact array_rejects.bind fun _ => u32_rejects.bind fun _ => u32_rejects.bind fun _ => Fails.pure _
  · exact u64_rejects.bind fun _ => Fails.pure _
  · refine Fails.bind (byte_rejects.bind fun first => Fails.lift ?_) fun _ =>
      u32_rejects.bind fun _ => u32_rejects.bind fun _ => u32_rejects.bind fun _ => u32_rejects.bind fun _ =>
        Fails.ite (Fails.throw ⟨_, rfl⟩) (Fails.pure _)
    intro failure refused
    unfold codec at refused
    split at refused <;> cases refused
    exact ⟨_, rfl⟩
  · refine u64_rejects.bind fun _ => u64_rejects.bind fun _ => u64_rejects.bind fun _ =>
      Fails.bind (u32_rejects.bind fun bits => Fails.lift ?_) fun _ => rest_rejects.bind fun data => Fails.lift ?_
    · intro failure refused
      unfold AccessUnitFlags.fromBits at refused
      split_ifs at refused
      cases refused
      exact ⟨_, rfl⟩
    · intro failure refused
      unfold unit at refused
      split_ifs at refused
      cases refused
      exact ⟨_, rfl⟩
  · exact u64_rejects.bind fun _ => u64_rejects.bind fun _ => u64_rejects.bind fun _ => u64_rejects.bind fun _ =>
      u64_rejects.bind fun _ => Fails.pure _
  · exact Fails.pure _
  · refine u32_rejects.bind fun code => rest_rejects.bind fun bytes => Fails.lift ?_
    intro failure refused
    unfold fromUtf8 at refused
    split at refused <;> cases refused
    exact ⟨_, rfl⟩

end Decode

theorem decodeMessage_malformed {kind : UInt16} {payload : List UInt8} {failure : ProtocolError}
    (rejects : Cursor.Rejects (readMessage kind)) (rejected : decodeMessage kind payload = .error failure) :
    Cursor.Malformed failure := by
  unfold decodeMessage at rejected
  rcases ran : (readMessage kind).run (Cursor.new payload) with stopped | ⟨message, cursor⟩ <;>
    rw [ran] at rejected
  · cases rejected
    exact rejects.only ran
  · change (if _ then throw _ else pure _) = _ at rejected
    split_ifs at rejected <;> cases rejected
    exact ⟨_, rfl⟩

/-! ## Round trip and canonicity -/

/-- The kinds whose last field takes whatever octets are left. -/
def OpenEnded (kind : UInt16) : Prop := kind = Kind.accessUnit ∨ kind = Kind.error

instance : DecidablePred OpenEnded := fun kind =>
  inferInstanceAs (Decidable (kind = Kind.accessUnit ∨ kind = Kind.error))

theorem readMessage_reads (kind : UInt16) :
    (¬OpenEnded kind ∧ Cursor.Reads (readMessage kind) (Spells kind)) ∨
      (OpenEnded kind ∧ Reader.ReadsAll Cursor.remaining Cursor.Addressable (readMessage kind) (Spells kind)) := by
  unfold readMessage
  split_ifs with hello server start unit stats stop error
  · subst hello; exact .inl ⟨by decide, Decode.clientHello_reads⟩
  · subst server; exact .inl ⟨by decide, Decode.serverHello_reads⟩
  · subst start; exact .inl ⟨by decide, Decode.start_reads⟩
  · subst unit; exact .inr ⟨by decide, Decode.accessUnit_reads⟩
  · subst stats; exact .inl ⟨by decide, Decode.stats_reads⟩
  · subst stop; exact .inl ⟨by decide, Decode.stop_reads⟩
  · subst error; exact .inr ⟨by decide, Decode.error_reads⟩
  · refine .inl ⟨fun open_ended => open_ended.elim unit error, Reader.Reads.fail _ ?_⟩
    rintro message _ ⟨rfl, _, _⟩
    cases message <;> contradiction

theorem decodeMessage_of_open {kind : UInt16} (openEnded : OpenEnded kind) (payload : List UInt8) :
    decodeMessage kind payload = (readMessage kind).run (Cursor.new payload) >>= fun read => .ok read.1 := by
  unfold decodeMessage
  congr 1
  funext read
  rcases openEnded with rfl | rfl <;> simp [pure, Except.pure]

theorem decodeMessage_of_closed {kind : UInt16} (closed : ¬OpenEnded kind) (payload : List UInt8) :
    decodeMessage kind payload = (readMessage kind).run (Cursor.new payload) >>= fun read =>
      if read.2.remaining = [] then .ok read.1 else .error (.invalidPayload "trailing bytes") := by
  unfold decodeMessage
  congr 1
  funext read
  simp only [OpenEnded, not_or] at closed
  simp only [← Cursor.isEmpty_iff, bne_iff_ne, closed.1, closed.2, ne_eq, not_false_eq_true,
    Bool.and_eq_true, Bool.not_eq_true']
  cases read.2.isEmpty <;> rfl

theorem decodeMessage_faithful {kind : UInt16} {payload : List UInt8} {message : Message}
    (decoded : decodeMessage kind payload = .ok message) : Spells kind message payload := by
  rcases readMessage_reads kind with ⟨closed, reads⟩ | ⟨openEnded, reads⟩
  · rw [decodeMessage_of_closed closed] at decoded
    cases ran : (readMessage kind).run (Cursor.new payload) with
    | error failure => rw [ran] at decoded; cases decoded
    | ok read =>
      obtain ⟨bytes, spelled, split⟩ := reads.faithful ran
      rw [ran] at decoded
      change (if read.2.remaining = [] then Except.ok read.1 else _) = _ at decoded
      split_ifs at decoded with finished
      cases decoded
      rw [finished, List.append_nil, Cursor.remaining_new] at split
      exact split ▸ spelled
  · rw [decodeMessage_of_open openEnded] at decoded
    cases ran : (readMessage kind).run (Cursor.new payload) with
    | error failure => rw [ran] at decoded; cases decoded
    | ok read =>
      rw [ran] at decoded
      cases decoded
      exact reads.faithful ran

theorem Message.kind_known (message : Message) :
    message.kind ∈ [Kind.clientHello, Kind.serverHello, Kind.start, Kind.accessUnit, Kind.stats, Kind.stop,
      Kind.error] := by
  cases message <;> simp [Message.kind]

theorem decodeMessage_complete {kind : UInt16} {payload : List UInt8} {message : Message}
    (addressable : payload.length < 2 ^ 63) (spelled : Spells kind message payload) :
    decodeMessage kind payload = .ok message := by
  have admissible : (Cursor.new payload).Addressable := addressable
  rcases readMessage_reads kind with ⟨closed, reads⟩ | ⟨openEnded, reads⟩
  · obtain ⟨after, ran, finished, _⟩ := reads.complete admissible spelled (List.append_nil _).symm
    rw [decodeMessage_of_closed closed, ran]
    exact if_pos finished
  · obtain ⟨after, ran⟩ := reads.complete admissible spelled
    rw [decodeMessage_of_open openEnded, ran]
    rfl

theorem encodeMessage_eq (message : Message) :
    encodeMessage message = .ok (message.kind, message.payload) ∨
      ∃ code text, message = .error code text ∧ maxControlBytes - 4 < (utf8 text).length ∧
        encodeMessage message = .error (.oversized "error" (utf8 text).length (maxControlBytes - 4)) := by
  cases message with
  | error code text =>
    by_cases long : (utf8 text).length > maxControlBytes - 4
    · exact .inr ⟨code, text, rfl, long, if_pos long⟩
    · exact .inl (if_neg long)
  | _ => exact .inl rfl

theorem encodeMessage_ok {message : Message} {kind : UInt16} {payload : List UInt8}
    (encoded : encodeMessage message = .ok (kind, payload)) : kind = message.kind ∧ payload = message.payload := by
  rcases encodeMessage_eq message with written | ⟨_, _, _, _, failed⟩
  · rw [written] at encoded
    cases encoded
    exact ⟨rfl, rfl⟩
  · rw [failed] at encoded
    cases encoded

theorem utf8_inj {left right : String} (same : utf8 left = utf8 right) : left = right := by
  have decoded := fromUtf8_ok.mpr same
  rw [fromUtf8_ok.mpr rfl] at decoded
  cases decoded
  rfl

/-- A kind and its octets name one message, receivable or not. -/
theorem Message.payload_injective {left right : Message} (kinds : left.kind = right.kind)
    (same : left.payload = right.payload) : left = right := by
  cases left <;> cases right <;> cases kinds
  · rename_i token pid capabilities other _ _
    obtain ⟨tokens, rest⟩ := List.append_inj same (token.property.trans other.property.symm)
    simp only [pushU32_append_inj, pushU32_inj] at rest
    rw [Subtype.ext tokens, rest.1, rest.2]
  · rw [pushU64_inj.mp same]
  · rename_i config other
    obtain ⟨⟨⟩, _, _, _, _⟩ := config
    obtain ⟨⟨⟩, _, _, _, _⟩ := other
    simpa using same
  · rename_i unit other
    obtain ⟨_, _, _, ⟨_, _⟩, _⟩ := unit
    obtain ⟨_, _, _, ⟨_, _⟩, _⟩ := other
    simpa using same
  · rename_i counters other
    obtain ⟨_, _, _, _, _⟩ := counters
    obtain ⟨_, _, _, _, _⟩ := other
    simpa using same
  · rfl
  · obtain ⟨codes, texts⟩ := pushU32_append_inj.mp same
    rw [codes, utf8_inj texts]

end Luma.Protocol
