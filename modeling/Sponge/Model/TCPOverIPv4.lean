import Sponge.Model.IPv4
import Sponge.Model.TCPSerialization

/-!
# TCP segments in IPv4 datagrams

`tcp_helpers/tcp_over_ip.cc`, with the state of `tcp_helpers/fd_adapter.hh`.  An
`Address` is the pair of its `ipv4_numeric()` and its `port()`, which building one
from a dotted quad and a port inverts.  The payload of a datagram stands in a
single buffer, as `IPv4Datagram::parse` leaves it.
-/

namespace Sponge

/-- An IPv4 address and a port. -/
@[ext]
structure Address where
  ipv4Numeric : UInt32 := 0
  port : UInt16 := 0
  deriving DecidableEq

/-- The parameters of an adapter. -/
structure FdAdapterConfig where
  source : Address := {}
  destination : Address := {}
  lossRateDn : UInt16 := 0
  lossRateUp : UInt16 := 0
  deriving DecidableEq

/-- `PROTO_TCP`: the protocol number for TCP. -/
def IPv4Header.protoTcp : UInt8 := 6

/-- The configuration of an adapter, and whether its connection is in LISTEN. -/
structure TCPOverIPv4Adapter where
  cfg : FdAdapterConfig := {}
  listen : Bool := false
  deriving DecidableEq

namespace TCPOverIPv4Adapter

/-- Reply to the source of this segment from now on, from the address it was sent to. -/
def target (adapter : TCPOverIPv4Adapter) (ipDgram : IPv4Datagram) (tcpSeg : TCPSegment) :
    TCPOverIPv4Adapter where
  cfg := { adapter.cfg with
    source := ⟨ipDgram.header.dst, adapter.cfg.source.port⟩
    destination := ⟨ipDgram.header.src, tcpSeg.header.sport⟩ }
  listen := false

/-- The last check of `unwrap_tcp_in_ip`: is the segment from our peer? -/
def checkPeer (adapter : TCPOverIPv4Adapter) (tcpSeg : TCPSegment) :
    Option TCPSegment × TCPOverIPv4Adapter :=
  if tcpSeg.header.sport ≠ adapter.cfg.destination.port then (none, adapter)
  else (some tcpSeg, adapter)

/-- The segment in a datagram, if it is valid and related to the connection. -/
def unwrapTcpInIp (adapter : TCPOverIPv4Adapter) (ipDgram : IPv4Datagram) :
    Option TCPSegment × TCPOverIPv4Adapter :=
  if ¬ adapter.listen ∧ ipDgram.header.dst ≠ adapter.cfg.source.ipv4Numeric then (none, adapter)
  else if ¬ adapter.listen ∧ ipDgram.header.src ≠ adapter.cfg.destination.ipv4Numeric then
    (none, adapter)
  else if ipDgram.header.proto ≠ IPv4Header.protoTcp then (none, adapter)
  else
    let parsed := TCPSegment.parse {} ipDgram.payload ipDgram.header.pseudoCksum.toNat
    let tcpSeg := parsed.2
    if parsed.1 ≠ .noError then (none, adapter)
    else if tcpSeg.header.dport ≠ adapter.cfg.source.port then (none, adapter)
    else if adapter.listen then
      if tcpSeg.header.syn ∧ ¬ tcpSeg.header.rst then
        (adapter.target ipDgram tcpSeg).checkPeer tcpSeg
      else (none, adapter)
    else adapter.checkPeer tcpSeg

/-- Set the ports of a segment, and wrap it in a datagram. -/
def wrapTcpInIp (adapter : TCPOverIPv4Adapter) (seg : TCPSegment) :
    Option IPv4Datagram × TCPSegment :=
  let seg := { seg with header := { seg.header with
    sport := adapter.cfg.source.port
    dport := adapter.cfg.destination.port } }
  let header : IPv4Header := {
    src := adapter.cfg.source.ipv4Numeric
    dst := adapter.cfg.destination.ipv4Numeric }
  let header := { header with
    len := UInt16.ofNat (header.hlen.toNat * 4 + seg.header.doff.toNat * 4 + seg.payload.length) }
  ((seg.serialize header.pseudoCksum.toNat).map fun payload => { header, payload }, seg)

end TCPOverIPv4Adapter

end Sponge
