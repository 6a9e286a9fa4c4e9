import Sponge.Model.ByteStream
import Sponge.Model.WrappingIntegers

/-!
# Segments and configuration

`tcp_helpers/tcp_header.hh`, `tcp_helpers/tcp_segment.hh` and
`tcp_helpers/tcp_config.hh`.  The header has every field of the source with the
source's default, since a default-constructed header is what the sender starts
each segment from.
-/

namespace Sponge

/-- A TCP segment header. -/
structure TCPHeader where
  sport : UInt16 := 0
  dport : UInt16 := 0
  seqno : WrappingInt32 := ⟨0⟩
  ackno : WrappingInt32 := ⟨0⟩
  /-- Data offset: `LENGTH / 4` for a header without options. -/
  doff : UInt8 := 5
  urg : Bool := false
  ack : Bool := false
  psh : Bool := false
  rst : Bool := false
  syn : Bool := false
  fin : Bool := false
  win : UInt16 := 0
  cksum : UInt16 := 0
  uptr : UInt16 := 0
  deriving DecidableEq

/-- A TCP segment: a header and a payload. -/
structure TCPSegment where
  header : TCPHeader := {}
  payload : Bytes := []
  deriving DecidableEq

/-- Payload length, plus one for SYN and one for FIN. -/
def TCPSegment.lengthInSequenceSpace (segment : TCPSegment) : Nat :=
  segment.payload.length + (if segment.header.syn then 1 else 0) +
    (if segment.header.fin then 1 else 0)

/-- The parameters of one endpoint. -/
structure TCPConfig where
  rtTimeout : UInt16 := 1000
  recvCapacity : Nat := 64000
  sendCapacity : Nat := 64000
  fixedIsn : Option WrappingInt32 := none
  deriving DecidableEq

namespace TCPConfig

/-- `MAX_PAYLOAD_SIZE`. -/
def maxPayloadSize : Nat := 1000

/-- `MAX_RETX_ATTEMPTS`. -/
def maxRetxAttempts : Nat := 8

end TCPConfig

end Sponge
