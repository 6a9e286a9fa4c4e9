import Sponge.Library.Loop
import Sponge.Model.TCPConnection

/-!
# The benchmark

`apps/tcp_benchmark.cc`: two connections in one thread.  A string is written into the
first, the segments of each are handed to the other, those of the first perhaps in
reverse, and what the second assembles is read.  The string is an argument, and so are
the initial sequence numbers; the time that is taken is not modelled.
-/

namespace Sponge

/-- The variables of `main_loop`. -/
structure Benchmark where
  x : TCPConnection
  y : TCPConnection
  bytesToSend : Bytes
  xClosed : Bool := false
  stringReceived : Bytes := []

namespace Benchmark

open Loop

/-- The exceptions of `main_loop`. -/
inductive Fault where
  /-- `want = ..., written = ...`. -/
  | written (want written : Nat)
  /-- `strings sent vs. received don't match`. -/
  | mismatch
  /-- `segment_received` has thrown. -/
  | segmentReceived
  deriving DecidableEq

/-- Hand all segments of `x` to `y`. -/
def moveSegments (x y : TCPConnection) (reorder : Bool) :
    Except Fault (TCPConnection × TCPConnection) :=
  let segments := x.segmentsOut
  let x := { x with segmentsOut := [] }
  let order := if reorder then segments.reverse else segments
  match order.foldlM TCPConnection.segmentReceived y with
  | none => .error .segmentReceived
  | some y => .ok (x, y)

/--
The loop that writes into `x`.  Every round but the last writes something, so that the
number of bytes left to send, and one, is enough fuel.
-/
def writeInput : Nat → TCPConnection → Bytes → Except Fault (TCPConnection × Bytes)
  | 0, x, bytesToSend => .ok (x, bytesToSend)
  | fuel + 1, x, bytesToSend =>
      if bytesToSend.length ≠ 0 ∧ x.remainingOutboundCapacity ≠ 0 then
        let want := min x.remainingOutboundCapacity bytesToSend.length
        let written := (x.write (bytesToSend.take want)).2
        if want ≠ written then .error (.written want written)
        else writeInput fuel (x.write (bytesToSend.take want)).1 (bytesToSend.drop written)
      else .ok (x, bytesToSend)

/-- Close `x` once everything has been written. -/
def closeInput (x : TCPConnection) (bytesToSend : Bytes) (xClosed : Bool) :
    TCPConnection × Bool :=
  if bytesToSend.length = 0 ∧ xClosed = false then (x.endInputStream, true) else (x, xClosed)

/-- Read what `y` has assembled. -/
def readOutput (y : TCPConnection) (stringReceived : Bytes) : TCPConnection × Bytes :=
  let availableOutput := y.inboundStream.bufferSize
  if availableOutput > 0 then
    (y.popInbound availableOutput, stringReceived ++ (y.inboundStream.read availableOutput).1)
  else (y, stringReceived)

/-- `loop`. -/
def loop (reorder : Bool) (b : Benchmark) : Except Fault Benchmark := do
  -- write input into x
  let (x, bytesToSend) ← writeInput (b.bytesToSend.length + 1) b.x b.bytesToSend
  let (x, xClosed) := closeInput x bytesToSend b.xClosed
  -- exchange segments between x and y but in reverse order
  let (x, y) ← moveSegments x b.y reorder
  let (y, x) ← moveSegments y x false
  -- read output from y
  let (y, stringReceived) := readOutput y b.stringReceived
  -- time passes
  .ok { x := x.tick 1000, y := y.tick 1000, bytesToSend, xClosed, stringReceived }

/-- Both connections have been made and opened. -/
def start (stringToSend : Bytes) (randomX randomY : UInt32) : Benchmark where
  x := (TCPConnection.new {} randomX).connect
  y := (TCPConnection.new {} randomY).endInputStream
  bytesToSend := stringToSend

/-- `while (not y.inbound_stream().eof()) loop()`. -/
def receiving (reorder : Bool) : Except Fault Benchmark → Round (Except Fault Benchmark)
  | .error fault => .leave (.error fault)
  | .ok b => if b.y.inboundStream.eof then .leave (.ok b) else .again (loop reorder b)

/-- `while (x.active() or y.active()) loop()`. -/
def closing (reorder : Bool) : Except Fault Benchmark → Round (Except Fault Benchmark)
  | .error fault => .leave (.error fault)
  | .ok b => if b.x.active || b.y.active then .again (loop reorder b) else .leave (.ok b)

/-- The check between the two loops. -/
def compare (stringToSend : Bytes) : Except Fault Benchmark → Except Fault Benchmark
  | .error fault => .error fault
  | .ok b => if b.stringReceived ≠ stringToSend then .error .mismatch else .ok b

/-- `main_loop` ends with this outcome. -/
def MainLoop (reorder : Bool) (stringToSend : Bytes) (randomX randomY : UInt32)
    (outcome : Except Fault Benchmark) : Prop :=
  ∃ received, Completes (receiving reorder) (.ok (start stringToSend randomX randomY)) received ∧
    Completes (closing reorder) (compare stringToSend received) outcome

end Benchmark

end Sponge
