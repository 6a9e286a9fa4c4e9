import Sponge.Model.StreamReassembler
import Sponge.Model.TCPSegment

/-!
# The receiver

`tcp_receiver.hh` and `tcp_receiver.cc`.  The members `_fin_recived` and
`_capacity` are read by no function.  `_isn` holds a raw 32-bit value that is
only used as a `WrappingInt32`.
-/

namespace Sponge

open MachineInt

/-- The receiver's state. -/
structure TCPReceiver where
  reassembler : StreamReassembler
  synRecived : Bool
  isn : WrappingInt32
  lastStreamNo : Nat
  deriving DecidableEq

namespace TCPReceiver

/-- The constructor `TCPReceiver(capacity)`. -/
def new (capacity : Nat) : TCPReceiver where
  reassembler := StreamReassembler.new capacity
  synRecived := false
  isn := ⟨0⟩
  lastStreamNo := 0

def streamOut (r : TCPReceiver) : ByteStream := r.reassembler.output

/-- The application reads or pops `len` bytes of `stream_out()`. -/
def popStreamOut (r : TCPReceiver) (len : Nat) : TCPReceiver :=
  { r with reassembler := r.reassembler.popStreamOut len }

/-- Unwrap the segment's position, note it as the checkpoint and push the payload there. -/
def place (r : TCPReceiver) (segment : TCPSegment) (offsetStreamNo : Nat) : Option TCPReceiver := do
  let absSeqno := unwrap segment.header.seqno r.isn r.lastStreamNo
  let streamNo := add64 absSeqno offsetStreamNo
  let reassembler ← r.reassembler.pushSubstring segment.payload streamNo segment.header.fin
  pure { r with lastStreamNo := streamNo, reassembler := reassembler }

/-- Handle an inbound segment. -/
def segmentReceived (r : TCPReceiver) (segment : TCPSegment) : Option TCPReceiver :=
  -- `offset_stream_no` is 0 for the first SYN and otherwise -1, converted to 64 bits
  if r.synRecived = false then
    if segment.header.syn = true then
      place { r with synRecived := true, isn := segment.header.seqno } segment 0
    else some r
  else place r segment (2 ^ 64 - 1)

/-- The acknowledgment number to send, absent until a SYN has been received. -/
def ackno (r : TCPReceiver) : Option WrappingInt32 :=
  if r.synRecived = false then none
  else
    let streamNo := r.reassembler.getNextIndex
    let offsetAckno := (if r.synRecived then 1 else 0) + (if r.streamOut.inputEnded then 1 else 0)
    some (wrap (add64 streamNo offsetAckno) r.isn)

def windowSize (r : TCPReceiver) : Nat := r.streamOut.remainingCapacity

def unassembledBytes (r : TCPReceiver) : Nat := r.reassembler.unassembledBytes

end TCPReceiver

end Sponge
