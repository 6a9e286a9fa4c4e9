import Sponge.Model.EventLoop
import Sponge.Model.TCPOverIPv4

/-!
# Adapters between a device and a connection

`tcp_helpers/fd_adapter.cc`, `tcp_helpers/tuntap_adapter.hh` and
`tcp_helpers/lossy_fd_adapter.hh`.  What the device delivers and what a random
generator draws are arguments; a device takes a datagram whole.  An exception is
`none`.
-/

namespace Sponge

/--
What a socket asks of its adapter, whose state is an `α`: the device carries the
datagrams `π`, and a call draws an `ω`.
-/
structure FdAdapter (α π ω : Type) where
  fd : α → FDWrapper
  read : α → π → ω → Option (Option TCPSegment × α)
  write : α → TCPSegment → ω → Option (List π × α)

/-! ## TCP in IPv4 over a TUN device -/

/-- An adapter for the datagrams of a TUN device. -/
structure TCPOverIPv4OverTunFdAdapter extends TCPOverIPv4Adapter where
  tun : FDWrapper := {}
  deriving DecidableEq

namespace TCPOverIPv4OverTunFdAdapter

/-- Read a datagram, and the segment in it if it is valid and related to the connection. -/
def read (adapter : TCPOverIPv4OverTunFdAdapter) (bytes : Bytes) :
    Option (Option TCPSegment × TCPOverIPv4OverTunFdAdapter) :=
  (FileDescriptor.read adapter.tun (2 ^ 64 - 1) bytes).map fun str =>
    let parsed := IPv4Datagram.parse {} str.1
    if parsed.1 ≠ .noError then (none, { adapter with tun := str.2 })
    else
      let unwrapped := adapter.unwrapTcpInIp parsed.2
      (unwrapped.1, { unwrapped.2 with tun := str.2 })

/-- Wrap a segment in a datagram and write it to the device. -/
def write (adapter : TCPOverIPv4OverTunFdAdapter) (seg : TCPSegment) :
    Option (List Bytes × TCPOverIPv4OverTunFdAdapter) :=
  ((adapter.wrapTcpInIp seg).1.bind IPv4Datagram.serialize).map fun bytes =>
    ([bytes], { adapter with tun := adapter.tun.registerWrite })

def fdAdapter : FdAdapter TCPOverIPv4OverTunFdAdapter Bytes Unit where
  fd := tun
  read adapter bytes _ := adapter.read bytes
  write adapter seg _ := adapter.write seg

end TCPOverIPv4OverTunFdAdapter

/-! ## TCP in UDP -/

/-- A UDP datagram between two sockets. -/
structure UDPDatagram where
  source : Address
  destination : Address
  payload : Bytes
  deriving DecidableEq

/-- An adapter for the payloads of a UDP socket, which is bound to `address`. -/
structure TCPOverUDPSocketAdapter where
  cfg : FdAdapterConfig := {}
  listen : Bool := false
  address : Address := {}
  sock : FDWrapper := {}
  deriving DecidableEq

namespace TCPOverUDPSocketAdapter

/-- `mtu`: the largest payload that `recv` takes. -/
def mtu : Nat := 65536

/-- Receive a datagram, and the segment in it if it is valid and from the peer. -/
def read (adapter : TCPOverUDPSocketAdapter) (datagram : UDPDatagram) :
    Option (Option TCPSegment × TCPOverUDPSocketAdapter) :=
  if datagram.payload.length > mtu then none
  else
    let adapter := { adapter with sock := adapter.sock.registerRead }
    if ¬ adapter.listen ∧ datagram.source ≠ adapter.cfg.destination then some (none, adapter)
    else
      let parsed := TCPSegment.parse {} datagram.payload 0
      let seg := parsed.2
      if parsed.1 ≠ .noError then some (none, adapter)
      else if adapter.listen then
        if seg.header.syn ∧ ¬ seg.header.rst then
          some (some seg, { adapter with
            cfg := { adapter.cfg with destination := datagram.source }
            listen := false })
        else some (none, adapter)
      else some (some seg, adapter)

/-- Send a segment, with the ports of the configuration, to the peer. -/
def write (adapter : TCPOverUDPSocketAdapter) (seg : TCPSegment) :
    Option (List UDPDatagram × TCPOverUDPSocketAdapter) :=
  let seg := { seg with header := { seg.header with
    sport := adapter.cfg.source.port
    dport := adapter.cfg.destination.port } }
  (seg.serialize 0).map fun payload =>
    ([⟨adapter.address, adapter.cfg.destination, payload⟩],
      { adapter with sock := adapter.sock.registerWrite })

def fdAdapter : FdAdapter TCPOverUDPSocketAdapter UDPDatagram Unit where
  fd := sock
  read adapter datagram _ := adapter.read datagram
  write adapter seg _ := adapter.write seg

end TCPOverUDPSocketAdapter

/-! ## Random loss -/

namespace LossyFdAdapter

/-- Whether to drop a datagram; `draw` is what the generator yields. -/
def shouldDrop (cfg : FdAdapterConfig) (uplink : Bool) (draw : UInt16) : Bool :=
  let loss := if uplink then cfg.lossRateUp else cfg.lossRateDn
  decide (loss ≠ 0) && decide (draw < loss)

variable {α π ω : Type}

/-- An adapter that drops some of what it reads and writes. -/
def fdAdapter (adapter : FdAdapter α π ω) (config : α → FdAdapterConfig) :
    FdAdapter α π (ω × UInt16) where
  fd := adapter.fd
  read state datagram draw :=
    -- the datagram has been read when it is dropped
    (adapter.read state datagram draw.1).map fun ret =>
      (if shouldDrop (config ret.2) false draw.2 then none else ret.1, ret.2)
  write state seg draw :=
    if shouldDrop (config state) true draw.2 then some ([], state)
    else adapter.write state seg draw.1

end LossyFdAdapter

end Sponge
