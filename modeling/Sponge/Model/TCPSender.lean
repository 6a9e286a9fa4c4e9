import Sponge.Model.TCPSegment

/-!
# The sender

`tcp_sender.hh` and `tcp_sender.cc`.  Absolute sequence numbers and the window
are natural numbers; the timer and the retransmission counter are `unsigned
int` and wrap at 32 bits.  A queue is the list of its elements, front first.
-/

namespace Sponge

open MachineInt

/-- An entry of `_segments_outstanding`: the segment with its absolute sequence
number and whether it was sent as a zero-window probe. -/
structure Outstanding where
  absSeqno : Nat
  windowZeroFlag : Bool
  segment : TCPSegment
  deriving DecidableEq

/-- The first absolute sequence number after an outstanding segment. -/
def Outstanding.stop (entry : Outstanding) : Nat :=
  entry.absSeqno + entry.segment.lengthInSequenceSpace

/-- The sender's state. -/
structure TCPSender where
  isn : WrappingInt32
  segmentsOut : List TCPSegment
  segmentsOutstanding : List Outstanding
  initTimerBackup : Nat
  initialRetransmissionTimeout : Nat
  retransmissionTimeout : Nat
  timerEnable : Bool
  consecutiveRetransmissionsCount : Nat
  stream : ByteStream
  nextSeqno : Nat
  lastAckno : Nat
  windowSize : Nat
  windowZeroValid : Bool
  finSent : Bool
  deriving DecidableEq

namespace TCPSender

/-- The constructor; `random` is the value drawn when no initial sequence number is fixed. -/
def new (capacity : Nat) (retxTimeout : UInt16) (fixedIsn : Option WrappingInt32)
    (random : UInt32) : TCPSender where
  isn := fixedIsn.getD ⟨random⟩
  segmentsOut := []
  segmentsOutstanding := []
  initTimerBackup := retxTimeout.toNat
  initialRetransmissionTimeout := retxTimeout.toNat
  retransmissionTimeout := 0
  timerEnable := false
  consecutiveRetransmissionsCount := 0
  stream := ByteStream.new capacity
  nextSeqno := 0
  lastAckno := 0
  windowSize := 1
  windowZeroValid := false
  finSent := false

/-- The total sequence-space length of a queue of outstanding segments. -/
def queuedLength : List Outstanding → Nat
  | [] => 0
  | entry :: rest => entry.segment.lengthInSequenceSpace + queuedLength rest

def bytesInFlight (s : TCPSender) : Nat := queuedLength s.segmentsOutstanding

def consecutiveRetransmissions (s : TCPSender) : Nat := s.consecutiveRetransmissionsCount

def nextSeqnoAbsolute (s : TCPSender) : Nat := s.nextSeqno

/-- Number the segment, queue it, and remember it unless it is empty. -/
def sendSegment (s : TCPSender) (segment : TCPSegment) (windowZeroFlag : Bool) : TCPSender :=
  let absSeqno := s.nextSeqnoAbsolute
  let segment := { segment with
    header := { segment.header with seqno := wrap s.nextSeqno s.isn } }
  let s := { s with
    nextSeqno := s.nextSeqno + segment.lengthInSequenceSpace
    segmentsOut := s.segmentsOut ++ [segment] }
  if segment.lengthInSequenceSpace ≠ 0 then
    { s with
      timerEnable := true
      segmentsOutstanding := s.segmentsOutstanding ++ [⟨absSeqno, windowZeroFlag, segment⟩] }
  else s

def sendEmptySegment (s : TCPSender) : TCPSender := s.sendSegment {} false

def sendEmptySegmentWithThisHeader (s : TCPSender) (header : TCPHeader) : TCPSender :=
  s.sendSegment { header := header } false

/--
The `while` loop of `fill_window`.  Every round that does not leave the loop
consumes at least one of the `numBytesToSend`, which is therefore also enough
fuel.
-/
def fillLoop (windowZeroFlag : Bool) : Nat → Nat → TCPSender → TCPSender
  | 0, _, s => s
  | fuel + 1, numBytesToSend, s =>
      if numBytesToSend = 0 then s
      else
        let maxReadLength := min numBytesToSend TCPConfig.maxPayloadSize
        let payload := (s.stream.read maxReadLength).1
        let stream := (s.stream.read maxReadLength).2
        let numBytesToSend := numBytesToSend - payload.length
        let fin := stream.eof && decide (0 < numBytesToSend) && !s.finSent
        let numBytesToSend := if fin then numBytesToSend - 1 else numBytesToSend
        let segment : TCPSegment := { header := { fin := fin }, payload := payload }
        let s := { s with stream := stream, finSent := s.finSent || fin }
        if segment.lengthInSequenceSpace = 0 then s
        else fillLoop windowZeroFlag fuel numBytesToSend (s.sendSegment segment windowZeroFlag)

/-- `fill_window` from the computation of `num_bytes_to_send` on. -/
def fillAllowance (s : TCPSender) : TCPSender :=
  let numBytesToSend :=
    if s.lastAckno + s.windowSize ≥ s.nextSeqno then s.lastAckno + s.windowSize - s.nextSeqno
    else 0
  -- a zero window is answered by one probe for each time the flag was set
  if s.windowSize = 0 ∧ s.windowZeroValid = true then
    fillLoop true (numBytesToSend + 1) (numBytesToSend + 1) { s with windowZeroValid := false }
  else fillLoop false numBytesToSend numBytesToSend s

/-- Create and send segments to fill as much of the window as possible. -/
def fillWindow (s : TCPSender) : TCPSender :=
  if s.finSent = true then s
  else if s.nextSeqnoAbsolute = 0 then
    (s.sendSegment { header := { syn := true } } false).fillAllowance
  else s.fillAllowance

/-- The loop of `remove_outstanding_segments`: drop fully acknowledged segments. -/
def popAcknowledged (lastAckno : Nat) : List Outstanding → List Outstanding
  | [] => []
  | entry :: rest =>
      if entry.absSeqno + entry.segment.lengthInSequenceSpace ≤ lastAckno then
        popAcknowledged lastAckno rest
      else entry :: rest

def removeOutstandingSegments (s : TCPSender) : TCPSender :=
  let remaining := popAcknowledged s.lastAckno s.segmentsOutstanding
  let segmentsPopedOut := decide (remaining.length < s.segmentsOutstanding.length)
  let s := { s with segmentsOutstanding := remaining }
  if segmentsPopedOut then
    { s with
      retransmissionTimeout := 0
      initialRetransmissionTimeout := s.initTimerBackup
      timerEnable := !remaining.isEmpty
      consecutiveRetransmissionsCount := 0 }
  else s

/-- The assignments of `ack_received` to `_last_ackno`, `_window_size` and the probe flag. -/
def acceptAck (s : TCPSender) (newAckno newWindowSize : Nat) : TCPSender :=
  let lastAckno := max s.lastAckno newAckno
  if newAckno + newWindowSize > lastAckno then
    { s with lastAckno := lastAckno, windowSize := newAckno + newWindowSize - lastAckno }
  else { s with lastAckno := lastAckno, windowSize := 0, windowZeroValid := true }

/-- A new acknowledgment was received. -/
def ackReceived (s : TCPSender) (ackno : WrappingInt32) (windowSize : UInt16) : TCPSender :=
  if s.nextSeqno = 0 then s
  else
    let newAckno := unwrap ackno s.isn s.lastAckno
    if newAckno > s.nextSeqno then s
    else (s.acceptAck newAckno windowSize.toNat).removeOutstandingSegments.fillWindow

/-- Retransmit the oldest outstanding segment and back off unless it is a probe. -/
def timeoutRetransmission (s : TCPSender) : TCPSender :=
  match s.segmentsOutstanding with
  | [] =>
      { s with
        timerEnable := false
        retransmissionTimeout := 0
        initialRetransmissionTimeout := s.initTimerBackup
        consecutiveRetransmissionsCount := 0 }
  | oldest :: _ =>
      let s := { s with segmentsOut := s.segmentsOut ++ [oldest.segment] }
      if oldest.windowZeroFlag = false then
        { s with
          initialRetransmissionTimeout := mul32 s.initialRetransmissionTimeout 2
          consecutiveRetransmissionsCount := add32 s.consecutiveRetransmissionsCount 1 }
      else s

/-- The sender is told how many milliseconds have passed. -/
def tick (s : TCPSender) (msSinceLastTick : Nat) : TCPSender :=
  if s.timerEnable = false then s
  else
    let s := { s with
      retransmissionTimeout := add32 s.retransmissionTimeout msSinceLastTick }
    if s.retransmissionTimeout ≥ s.initialRetransmissionTimeout then
      { s.timeoutRetransmission with timerEnable := true, retransmissionTimeout := 0 }
    else s

end TCPSender

end Sponge
