import Sponge.Model.TCPReceiver
import Sponge.Model.TCPSender

/-!
# The connection

`tcp_connection.hh` and `tcp_connection.cc`: one endpoint, made of a sender, a
receiver and the queue of segments to put on the wire.  The time since the last
segment is a `size_t` and wraps at 64 bits.  The destructor, which runs after the
last call, is not part of the model.
-/

namespace Sponge

open MachineInt

/-- The state of one endpoint. -/
structure TCPConnection where
  cfg : TCPConfig
  receiver : TCPReceiver
  sender : TCPSender
  segmentsOut : List TCPSegment
  lingerAfterStreamsFinish : Bool
  timeSinceLastSegmentReceived : Nat
  deriving DecidableEq

namespace TCPConnection

/-- The constructor; `random` seeds the initial sequence number when none is fixed. -/
def new (cfg : TCPConfig) (random : UInt32) : TCPConnection where
  cfg := cfg
  receiver := TCPReceiver.new cfg.recvCapacity
  sender := TCPSender.new cfg.sendCapacity cfg.rtTimeout cfg.fixedIsn random
  segmentsOut := []
  lingerAfterStreamsFinish := true
  timeSinceLastSegmentReceived := 0

def remainingOutboundCapacity (c : TCPConnection) : Nat := c.sender.stream.remainingCapacity

def bytesInFlight (c : TCPConnection) : Nat := c.sender.bytesInFlight

def inboundStream (c : TCPConnection) : ByteStream := c.receiver.streamOut

def outboundStream (c : TCPConnection) : ByteStream := c.sender.stream

/-- Is the connection still alive in any way? -/
def active (c : TCPConnection) : Bool :=
  let outbound := c.sender.stream
  let inbound := c.receiver.streamOut
  if outbound.eof && inbound.eof then
    if c.sender.bytesInFlight = 0 then
      if c.lingerAfterStreamsFinish = false then false
      else decide (c.timeSinceLastSegmentReceived < 10 * c.cfg.rtTimeout.toNat)
    else true
  else if outbound.error || inbound.error then false
  else true

/-- Stamp a segment with the receiver's acknowledgment number and window. -/
def stamp (ackno : Option WrappingInt32) (winSize : Nat) (segment : TCPSegment) : TCPSegment :=
  let header := segment.header
  let header :=
    match ackno with
    | some ackno =>
        if header.ack = false then { header with ackno := ackno, ack := true } else header
    | none => header
  let header :=
    if header.win = ({} : TCPHeader).win then { header with win := UInt16.ofNat winSize }
    else header
  { segment with header := header }

/-- Move every segment the sender has queued to the connection's own queue. -/
def popAndSendSegments (c : TCPConnection) : TCPConnection :=
  let winSize := min c.receiver.windowSize 65535
  { c with
    sender := { c.sender with segmentsOut := [] }
    segmentsOut := c.segmentsOut ++ c.sender.segmentsOut.map (stamp c.receiver.ackno winSize) }

/-- `set_error()` on both streams. -/
def setErrors (c : TCPConnection) : TCPConnection :=
  { c with
    sender := { c.sender with stream := c.sender.stream.setError }
    receiver := { c.receiver with
      reassembler := { c.receiver.reassembler with
        output := c.receiver.reassembler.output.setError } } }

/-- Give up: send a RST instead of whatever was queued and set both streams to error. -/
def positiveUncleanShutdown (c : TCPConnection) : TCPConnection :=
  let sender := { c.sender with segmentsOut := [] }
  let c := { c with sender := sender.sendEmptySegmentWithThisHeader { rst := true } }
  c.popAndSendSegments.setErrors

/-- The segment is empty and numbered one before the acknowledgment number. -/
def isKeepAlive (c : TCPConnection) (segment : TCPSegment) : Bool :=
  match c.receiver.ackno with
  | some ackno =>
      decide (segment.lengthInSequenceSpace = 0) && decide (segment.header.seqno = ackno.sub 1)
  | none => false

/-- The answers of `segment_received` to a keep-alive and to a non-empty segment. -/
def respond (c : TCPConnection) (segment : TCPSegment) : TCPSender :=
  let s := if c.isKeepAlive segment then c.sender.sendEmptySegment else c.sender
  if segment.lengthInSequenceSpace ≠ 0 then
    let s := s.fillWindow
    if s.segmentsOut.isEmpty then s.sendEmptySegment else s
  else s

/-- A segment has been received from the network. -/
def segmentReceived (c : TCPConnection) (segment : TCPSegment) : Option TCPConnection :=
  if c.active = false then some c
  else
    let c := { c with timeSinceLastSegmentReceived := 0 }
    if segment.header.rst = true then some c.setErrors
    else
      let linger :=
        if segment.header.fin = true ∧ c.sender.stream.inputEnded = false then false
        else c.lingerAfterStreamsFinish
      do
        let receiver ← c.receiver.segmentReceived segment
        let sender :=
          if segment.header.ack = true then
            c.sender.ackReceived segment.header.ackno segment.header.win
          else c.sender
        let c := { c with
          lingerAfterStreamsFinish := linger
          receiver := receiver
          sender := sender }
        let c := { c with sender := c.respond segment }
        some c.popAndSendSegments

/-- Write to the outbound stream and send what the window allows. -/
def write (c : TCPConnection) (data : Bytes) : TCPConnection × Nat :=
  let written := c.sender.stream.write data
  let sender := { c.sender with stream := written.1 }
  ({ c with sender := sender.fillWindow }.popAndSendSegments, written.2)

/-- The check of `tick`: give up after too many consecutive retransmissions. -/
def giveUpIfExhausted (c : TCPConnection) : TCPConnection :=
  if c.sender.consecutiveRetransmissions > TCPConfig.maxRetxAttempts then c.positiveUncleanShutdown
  else c

/-- Time has passed. -/
def tick (c : TCPConnection) (msSinceLastTick : Nat) : TCPConnection :=
  let c := { c with sender := c.sender.tick msSinceLastTick }
  let c := c.giveUpIfExhausted.popAndSendSegments
  { c with
    timeSinceLastSegmentReceived := add64 c.timeSinceLastSegmentReceived msSinceLastTick }

/-- Shut down the outbound stream. -/
def endInputStream (c : TCPConnection) : TCPConnection :=
  let sender := { c.sender with stream := c.sender.stream.endInput }
  { c with sender := sender.fillWindow }.popAndSendSegments

/-- Initiate a connection by sending a SYN. -/
def connect (c : TCPConnection) : TCPConnection :=
  { c with sender := c.sender.fillWindow }.popAndSendSegments

/-- The application reads or pops `len` bytes of `inbound_stream()`. -/
def popInbound (c : TCPConnection) (len : Nat) : TCPConnection :=
  { c with receiver := c.receiver.popStreamOut len }

end TCPConnection

end Sponge
