import Luma.Library.BigEndian
import Luma.Muxer.Session
import Luma.Protocol.Streaming

/-! The game's side of the capture protocol as the native encoder writes it, on a
little-endian machine, and its agreement with the channel of the muxer.
-/

set_option autoImplicit false

namespace Luma.Encoder

open Luma.Library Luma.Protocol

/-- The octets `LGCP`. -/
def kMagic : UInt32 := 0x4c474350

def kVersion : UInt16 := 1

def kHello : UInt16 := 1

def kStart : UInt16 := 3

def kAccessUnit : UInt16 := 4

def kMaxAu : Nat := 64 * 1024 * 1024

def kAccessUnitHeaderBytes : Nat := 28

def kPacketSlotBytes : Nat := 8 * 1024 * 1024

/-! ## Numbers on the wire -/

def be16 (n : UInt16) : UInt16 := UInt16.ofNat (ByteOrder.swap 2 n.toNat)

def be32 (n : UInt32) : UInt32 := UInt32.ofNat (ByteOrder.swap 4 n.toNat)

def be64 (n : UInt64) : UInt64 := UInt64.ofNat (ByteOrder.swap 8 n.toNat)

/-- What `memcpy` takes from a variable of this type. -/
def memory16 (n : UInt16) : List UInt8 := ByteOrder.inMemory 2 n.toNat

def memory32 (n : UInt32) : List UInt8 := ByteOrder.inMemory 4 n.toNat

def memory64 (n : UInt64) : List UInt8 := ByteOrder.inMemory 8 n.toNat

@[simp] theorem memory16_be16 (n : UInt16) : memory16 (be16 n) = pushU16 n := by
  rw [memory16, be16, UInt16.toNat_ofNat_of_lt' (ByteOrder.swap_lt 2 n.toNat), ByteOrder.inMemory_swap]
  rfl

@[simp] theorem memory32_be32 (n : UInt32) : memory32 (be32 n) = pushU32 n := by
  rw [memory32, be32, UInt32.toNat_ofNat_of_lt' (ByteOrder.swap_lt 4 n.toNat), ByteOrder.inMemory_swap]
  rfl

@[simp] theorem memory64_be64 (n : UInt64) : memory64 (be64 n) = pushU64 n := by
  rw [memory64, be64, UInt64.toNat_ofNat_of_lt' (ByteOrder.swap_lt 8 n.toNat), ByteOrder.inMemory_swap]
  rfl

/-! ## Messages -/

/-- The octets of a message, and the sequence number of the next one. -/
def writeMessage (sequence : UInt32) (kind : UInt16) (payload : List UInt8) : List UInt8 × UInt32 :=
  let header := memory32 (be32 kMagic) ++ (memory16 (be16 kVersion) ++ (memory16 (be16 kind) ++
    (memory32 (be32 (UInt32.ofNat payload.length)) ++ memory32 (be32 sequence))))
  (header ++ payload, sequence + 1)

def hello (token : SessionToken) (pid : UInt32) : List UInt8 :=
  -- Bit 0 of the capabilities is H.264 Annex-B.
  token.val ++ (memory32 (be32 pid) ++ memory32 (be32 1))

def start (width height fps : UInt32) : List UInt8 :=
  [1] ++ (memory32 (be32 width) ++ (memory32 (be32 height) ++ (memory32 (be32 fps) ++ memory32 (be32 1))))

/-- What the encoder hands to the transport. -/
structure EncodedUnit where
  bytes : List UInt8
  pts : UInt64
  keyframe : Bool
  deriving DecidableEq, Repr

def durationNs (fps : UInt32) : UInt64 := 1000000000 / fps.toUInt64

/-- The slot that `enqueue` fills: the fixed fields and the access unit behind them. -/
def packetBytes (fps : UInt32) (unit : EncodedUnit) : List UInt8 :=
  let timestamp := memory64 (be64 unit.pts)
  let flags : UInt32 := if unit.keyframe then 1 else 0
  timestamp ++ (timestamp ++ (memory64 (be64 (durationNs fps)) ++ (memory32 (be32 flags) ++ unit.bytes)))

/-- The lengths that `enqueue` takes. -/
def EncodedUnit.Fits (unit : EncodedUnit) : Prop :=
  ¬(unit.bytes.length = 0 ∨ unit.bytes.length > kMaxAu ∨ unit.bytes.length > kPacketSlotBytes)

instance : DecidablePred EncodedUnit.Fits := fun unit =>
  inferInstanceAs (Decidable ¬(unit.bytes.length = 0 ∨ unit.bytes.length > kMaxAu ∨ unit.bytes.length > kPacketSlotBytes))

/-- The loop of the transport worker. -/
def writePackets : UInt32 → List (List UInt8) → List UInt8
  | _, [] => []
  | sequence, packet :: packets =>
      let written := writeMessage sequence kAccessUnit packet
      written.1 ++ writePackets written.2 packets

/-- `transport_main` with the packets that it is given. -/
def transportStream (token : SessionToken) (pid width height fps : UInt32) (packets : List (List UInt8)) : List UInt8 :=
  let greeted := writeMessage 0 kHello (hello token pid)
  let started := writeMessage greeted.2 kStart (start width height fps)
  greeted.1 ++ (started.1 ++ writePackets started.2 packets)

/-- `luma_nvenc_direct_create` checks the size and the rate. -/
def Creatable (width height fps : UInt32) : Prop :=
  ¬(width = 0 ∨ height = 0 ∨ width > 16384 ∨ height > 16384 ∨ width &&& 1 ≠ 0 ∨ height &&& 1 ≠ 0 ∨ fps = 0 ∨ fps > 480)

instance (width height fps : UInt32) : Decidable (Creatable width height fps) :=
  inferInstanceAs (Decidable ¬(width = 0 ∨ height = 0 ∨ width > 16384 ∨ height > 16384 ∨ width &&& 1 ≠ 0 ∨
    height &&& 1 ≠ 0 ∨ fps = 0 ∨ fps > 480))

/-! ## The messages of the protocol -/

def videoConfig (width height fps : UInt32) : VideoConfig := { codec := .h264, width, height, fpsNum := fps, fpsDen := 1 }

def EncodedUnit.accessUnit (fps : UInt32) (unit : EncodedUnit) : AccessUnit where
  ptsNs := unit.pts
  dtsNs := unit.pts
  durationNs := durationNs fps
  flags := if unit.keyframe then .keyframe else .empty
  data := unit.bytes

/-- The messages that the muxer is meant to receive. -/
def messages (token : SessionToken) (pid width height fps : UInt32) (units : List EncodedUnit) : List Message :=
  .clientHello token pid 1 :: .start (videoConfig width height fps) ::
    units.map fun unit => .accessUnit (unit.accessUnit fps)

theorem writeMessage_eq (sequence : UInt32) (kind : UInt16) (payload : List UInt8) :
    writeMessage sequence kind payload =
      (Channel.header kind (UInt32.ofNat payload.length) sequence ++ payload, sequence + 1) := by
  simp only [writeMessage, memory32_be32, memory16_be16]
  rfl

theorem hello_payload (token : SessionToken) (pid : UInt32) :
    hello token pid = (Message.clientHello token pid 1).payload := by
  simp only [hello, memory32_be32, Message.payload]

theorem start_payload (width height fps : UInt32) :
    start width height fps = (Message.start (videoConfig width height fps)).payload := by
  simp only [start, memory32_be32, Message.payload, videoConfig]

theorem packetBytes_payload (fps : UInt32) (unit : EncodedUnit) :
    packetBytes fps unit = (Message.accessUnit (unit.accessUnit fps)).payload := by
  simp only [packetBytes, memory64_be64, memory32_be32, Message.payload, EncodedUnit.accessUnit]
  cases unit.keyframe <;> rfl

theorem writePackets_eq (sequence fps : UInt32) (units : List EncodedUnit) :
    writePackets sequence (units.map (packetBytes fps)) =
      (Channel.packets sequence (units.map fun unit => .accessUnit (unit.accessUnit fps))).flatten := by
  induction units generalizing sequence with
  | nil => rfl
  | cons unit units ih =>
    simp only [List.map_cons, writePackets, writeMessage_eq, ih, Channel.packets, List.flatten_cons, Channel.packet,
      packetBytes_payload]
    rfl

/-- The native stream is that of the channel's own packets, numbered from zero. -/
theorem transportStream_eq (token : SessionToken) (pid width height fps : UInt32) (units : List EncodedUnit) :
    transportStream token pid width height fps (units.map (packetBytes fps)) =
      (Channel.packets 0 (messages token pid width height fps units)).flatten := by
  simp only [transportStream, writeMessage_eq, writePackets_eq, messages, Channel.packets, List.flatten_cons,
    Channel.packet, hello_payload, start_payload]
  rfl

theorem validateStart_ok {width height fps : UInt32} (creatable : Creatable width height fps) :
    Muxer.validateStart (videoConfig width height fps) fps = .ok () := by
  have even : ∀ n : UInt32, n &&& 1 = 0 → n % 2 = 0 := by
    intro n clear
    have low : n.toNat &&& 1 = 0 := congrArg UInt32.toNat clear
    apply UInt32.toNat_inj.mp
    rw [UInt32.toNat_mod]
    rwa [Nat.and_one_is_mod] at low
  unfold Creatable at creatable
  push Not at creatable
  obtain ⟨width0, height0, width1, height1, width2, height2, _⟩ := creatable
  unfold Muxer.validateStart videoConfig
  rw [if_neg, if_neg]
  · simp
  · simp only [not_or, ne_eq, Decidable.not_not, gt_iff_lt, UInt32.not_lt]
    exact ⟨width0, height0, UInt32.not_lt.mp width1, UInt32.not_lt.mp height1, even width width2, even height height2⟩

/-! ## What the muxer receives -/

theorem messages_framable (token : SessionToken) (pid width height fps : UInt32) {units : List EncodedUnit}
    (fits : ∀ unit ∈ units, unit.Fits) : ∀ message ∈ messages token pid width height fps units,
      Channel.Framable message := by
  intro message member
  rcases List.mem_cons.mp member with rfl | rest
  · simp [Channel.Framable, token.property, maximumFor, Message.kind, Kind.clientHello, Kind.accessUnit, tokenLen,
      maxControlBytes]
  rcases List.mem_cons.mp rest with rfl | encoded
  · simp [Channel.Framable, maximumFor, Message.kind, Kind.start, Kind.accessUnit, maxControlBytes]
  · obtain ⟨unit, known, rfl⟩ := List.mem_map.mp encoded
    have small := fits unit known
    unfold EncodedUnit.Fits kPacketSlotBytes at small
    simp only [Channel.Framable, Message.payload, List.length_append, pushU64_length, pushU32_length, maximumFor,
      Message.kind, ↓reduceIte, maxAccessUnitBytes, EncodedUnit.accessUnit]
    omega

theorem messages_receivable (token : SessionToken) (pid : UInt32) {width height fps : UInt32} {units : List EncodedUnit}
    (creatable : Creatable width height fps) (fits : ∀ unit ∈ units, unit.Fits) :
    ∀ message ∈ messages token pid width height fps units, message.Receivable := by
  intro message member
  rcases List.mem_cons.mp member with rfl | rest
  · trivial
  rcases List.mem_cons.mp rest with rfl | encoded
  · unfold Creatable at creatable
    rintro (zero | zero | zero | zero)
    · exact creatable (.inl zero)
    · exact creatable (.inr (.inl zero))
    · exact creatable (.inr (.inr (.inr (.inr (.inr (.inr (.inl zero)))))))
    · cases zero
  · obtain ⟨unit, known, rfl⟩ := List.mem_map.mp encoded
    intro empty
    exact fits unit known (.inl (congrArg List.length empty))

/-- Whatever the size, the rate and the access units that the encoder takes, and however
the stream is split on its way, the muxer's channel receives the hello, the start and
the units with their fields, numbered from zero, and the muxer accepts the start. -/
theorem native_stream_received (token : SessionToken) (pid : UInt32) {width height fps : UInt32} {units : List EncodedUnit}
    (creatable : Creatable width height fps) (fits : ∀ unit ∈ units, unit.Fits) :
    transportStream token pid width height fps (units.map (packetBytes fps)) =
        (Channel.packets 0 (messages token pid width height fps units)).flatten ∧
      (∀ channel : Channel, channel.nextReceive = 0 →
        channel.stream.inbound.flatten = transportStream token pid width height fps (units.map (packetBytes fps)) →
        (channel.recvEach (units.length + 2)).1 = (messages token pid width height fps units).map .ok ∧
          (channel.recvEach (units.length + 2)).2.stream.inbound.flatten = [] ∧
          (channel.recvEach (units.length + 2)).2.nextReceive = UInt32.ofNat (units.length + 2)) ∧
      Muxer.validateStart (videoConfig width height fps) fps = .ok () := by
  refine ⟨transportStream_eq token pid width height fps units, fun channel fresh arrived => ?_,
    validateStart_ok creatable⟩
  have count : (messages token pid width height fps units).length = units.length + 2 := by
    simp [messages]
  rw [transportStream_eq, ← fresh, ← List.append_nil (List.flatten (Channel.packets _ _))] at arrived
  have received := channel.recvEach_packets (messages token pid width height fps units) []
    (messages_framable token pid width height fps fits) (messages_receivable token pid creatable fits) arrived
  rw [count, fresh, UInt32.zero_add] at received
  exact received

theorem native_stream_received_keyframe :
    let token : SessionToken := ⟨List.replicate 32 7, rfl⟩
    let unit : EncodedUnit := { bytes := [0, 0, 0, 1], pts := 5, keyframe := true }
    let channel := Channel.new { inbound := [transportStream token 42 1920 1080 60 [packetBytes 60 unit]] }
    (channel.recvEach 3).1 = (messages token 42 1920 1080 60 [unit]).map .ok := by
  intro token unit channel
  have fits : ∀ other ∈ [unit], other.Fits := by decide
  have received := native_stream_received token 42 (by decide : Creatable 1920 1080 60) fits
  exact (received.2.1 channel rfl (List.append_nil _)).1

end Luma.Encoder
