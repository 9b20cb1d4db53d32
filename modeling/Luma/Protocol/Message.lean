import Mathlib.Algebra.Group.Nat.Defs
import Mathlib.Data.Nat.Basic

/-! Messages and errors of the direct game capture protocol.

The hook or the external receiver sends encoded H.264 access units to a local
muxer. Fixed-width fields keep the source's widths; payloads are octet lists.
-/

set_option autoImplicit false

namespace Luma.Protocol

def protocolVersion : UInt16 := 1
def tokenLen : Nat := 32
def maxControlBytes : Nat := 64 * 1024
def maxAccessUnitBytes : Nat := 64 * 1024 * 1024
/-- The octets `LGCP`. -/
def magic : UInt32 := 0x4c474350
def headerLen : Nat := 16

inductive ProtocolError where
  | io (error : String)
  | unsupportedVersion (version : UInt16)
  | badMagic
  | unknownMessage (kind : UInt16)
  | oversized (message : String) (length maximum : Nat)
  | sequence (expected actual : UInt32)
  | authenticationFailed
  | serverRejected (code : UInt32) (message : String)
  | invalidPayload (reason : String)
  deriving DecidableEq, Repr

namespace ProtocolError

def display : ProtocolError → String
  | .io error => s!"IPC I/O error: {error}"
  | .unsupportedVersion version => s!"unsupported game-capture protocol version {version}"
  | .badMagic => "invalid game-capture IPC magic"
  | .unknownMessage kind => s!"unknown game-capture IPC message {kind}"
  | .oversized message length maximum => s!"{message} payload {length} exceeds {maximum}"
  | .sequence expected actual => s!"out-of-order game-capture packet {actual}; expected {expected}"
  | .authenticationFailed => "game-capture hook token was rejected"
  | .serverRejected code message => s!"game-capture server rejected hook ({code}): {message}"
  | .invalidPayload reason => s!"invalid game-capture IPC payload: {reason}"

end ProtocolError

/-- A per-launch secret of fixed length. -/
abbrev SessionToken := { bytes : List UInt8 // bytes.length = tokenLen }

inductive Codec where
  | h264
  deriving DecidableEq, Repr

structure VideoConfig where
  codec : Codec
  width : UInt32
  height : UInt32
  fpsNum : UInt32
  fpsDen : UInt32
  deriving DecidableEq, Repr

structure FrameStats where
  submitted : UInt64 := 0
  encoded : UInt64 := 0
  droppedBeforeEncode : UInt64 := 0
  droppedSendBackpressure : UInt64 := 0
  encodeLatencyUs : UInt64 := 0
  deriving DecidableEq, Repr

/-- The tuple field is private in the source: only the constants and
`fromBits` build a value, so unknown bits are never set. -/
structure AccessUnitFlags where
  bits : UInt32
  known : bits &&& ~~~0x3 = 0
  deriving DecidableEq

namespace AccessUnitFlags

def keyframe : AccessUnitFlags := ⟨1, by decide⟩
def config : AccessUnitFlags := ⟨2, by decide⟩
def empty : AccessUnitFlags := ⟨0, by decide⟩

def fromBits (bits : UInt32) : Except ProtocolError AccessUnitFlags :=
  if known : bits &&& ~~~0x3 = 0 then .ok ⟨bits, known⟩
  else .error (.invalidPayload "unknown access-unit flags")

@[simp] theorem fromBits_bits (flags : AccessUnitFlags) : fromBits flags.bits = .ok flags := by
  simp [fromBits, flags.known]

theorem bits_of_fromBits {bits : UInt32} {flags : AccessUnitFlags} (accepted : fromBits bits = .ok flags) :
    flags.bits = bits := by
  unfold fromBits at accepted
  split at accepted
  · cases accepted; rfl
  · cases accepted

end AccessUnitFlags

structure AccessUnit where
  /-- Nanoseconds on the hook's monotonic clock. -/
  ptsNs : UInt64
  dtsNs : UInt64
  durationNs : UInt64
  flags : AccessUnitFlags
  /-- One complete Annex-B access unit, without container framing. -/
  data : List UInt8
  deriving DecidableEq

inductive Message where
  | clientHello (token : SessionToken) (pid capabilities : UInt32)
  | serverHello (sessionId : UInt64)
  | start (config : VideoConfig)
  | accessUnit (unit : AccessUnit)
  | stats (stats : FrameStats)
  | stop
  | error (code : UInt32) (message : String)
  deriving DecidableEq

namespace Kind

def clientHello : UInt16 := 1
def serverHello : UInt16 := 2
def start : UInt16 := 3
def accessUnit : UInt16 := 4
def stats : UInt16 := 5
def stop : UInt16 := 6
def error : UInt16 := 7

end Kind

def Message.kind : Message → UInt16
  | .clientHello .. => Kind.clientHello
  | .serverHello _ => Kind.serverHello
  | .start _ => Kind.start
  | .accessUnit _ => Kind.accessUnit
  | .stats _ => Kind.stats
  | .stop => Kind.stop
  | .error .. => Kind.error

def maximumFor (kind : UInt16) : Nat :=
  if kind = Kind.accessUnit then maxAccessUnitBytes else maxControlBytes

theorem maximumFor_lt (kind : UInt16) : maximumFor kind < 2 ^ 32 := by
  unfold maximumFor
  split <;> decide

end Luma.Protocol
