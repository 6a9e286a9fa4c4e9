import Sponge.Model.TCPSegment

/-!
# How a byte stream is cut into segments

The segments by which one endpoint conveys its stream to the other.  Absolute
sequence number 0 is the SYN and byte `i` of the stream has number `i + 1`.  The
stream may still grow while segments of it are under way; once a FIN is sent it
is closed and stays as it is.
-/

namespace Sponge

/-- The bare SYN of a peer with initial sequence number `isn`. -/
structure IsSyn (isn : WrappingInt32) (segment : TCPSegment) : Prop where
  isSyn : segment.header.syn = true
  noFin : segment.header.fin = false
  bare : segment.payload = []
  first : segment.header.seqno = isn

/--
A segment that carries the bytes of `stream` from `index` on.  A FIN is sent
only once the stream is `closed`, on a slice that ends where the stream ends.
-/
structure IsSlice (isn : WrappingInt32) (stream : Bytes) (closed : Prop) (index : Nat)
    (segment : TCPSegment) : Prop where
  bounded : index + segment.payload.length ≤ stream.length
  noSyn : segment.header.syn = false
  genuine : segment.payload = (stream.drop index).take segment.payload.length
  placed : segment.header.seqno = wrap (index + 1) isn
  final : segment.header.fin = true → closed ∧ index + segment.payload.length = stream.length

/-- The segments a peer can send: its SYN, an empty segment at any position, or a slice. -/
inductive Genuine (isn : WrappingInt32) (stream : Bytes) (closed : Prop) (segment : TCPSegment) :
    Prop where
  | syn (isSyn : IsSyn isn segment)
  | empty (position : Nat) (bounded : position ≤ stream.length + 2)
      (noSyn : segment.header.syn = false) (noFin : segment.header.fin = false)
      (bare : segment.payload = []) (placed : segment.header.seqno = wrap position isn)
  | slice (index : Nat) (isSlice : IsSlice isn stream closed index segment)

/-- A slice occupies its bytes and, with the FIN, one more sequence number. -/
theorem IsSlice.length_eq {isn : WrappingInt32} {stream : Bytes} {closed : Prop} {index : Nat}
    {segment : TCPSegment} (isSlice : IsSlice isn stream closed index segment) :
    segment.lengthInSequenceSpace = segment.payload.length + segment.header.fin.toNat := by
  simp only [TCPSegment.lengthInSequenceSpace, isSlice.noSyn]
  cases segment.header.fin <;> rfl

/-- The bare SYN occupies one sequence number. -/
theorem IsSyn.length_eq {isn : WrappingInt32} {segment : TCPSegment} (isSyn : IsSyn isn segment) :
    segment.lengthInSequenceSpace = 1 := by
  simp [TCPSegment.lengthInSequenceSpace, isSyn.isSyn, isSyn.noFin, isSyn.bare]

/--
What a sender transmits at an absolute sequence number: the SYN at 0, then
slices.  The acknowledgment is left to the connection.
-/
inductive Transmits (isn : WrappingInt32) (stream : Bytes) (closed : Prop) :
    Nat → TCPSegment → Prop where
  | syn {segment : TCPSegment} (noAck : segment.header.ack = false) (isSyn : IsSyn isn segment) :
      Transmits isn stream closed 0 segment
  | slice {segment : TCPSegment} (noAck : segment.header.ack = false) (index : Nat)
      (isSlice : IsSlice isn stream closed index segment)
      (short : segment.payload.length ≤ TCPConfig.maxPayloadSize) :
      Transmits isn stream closed (index + 1) segment

section Growth

variable {isn : WrappingInt32} {stream longer : Bytes} {closed closed' : Prop}
  {segment : TCPSegment}

/-- A slice of the stream is a slice of every longer one. -/
theorem IsSlice.grow {index : Nat} (isSlice : IsSlice isn stream closed index segment)
    (isPart : stream <+: longer) (frozen : closed → closed' ∧ longer = stream) :
    IsSlice isn longer closed' index segment := by
  obtain ⟨extra, rfl⟩ := isPart
  have bounded := isSlice.bounded
  refine ⟨by rw [List.length_append]; omega, isSlice.noSyn, ?_, isSlice.placed, fun isFin => ?_⟩
  · rw [List.drop_append_of_le_length (by omega),
      List.take_append_of_le_length (by rw [List.length_drop]; omega)]
    exact isSlice.genuine
  · obtain ⟨isClosed, atEnd⟩ := isSlice.final isFin
    exact ⟨(frozen isClosed).1, by rw [(frozen isClosed).2]; exact atEnd⟩

theorem Genuine.grow (genuine : Genuine isn stream closed segment) (isPart : stream <+: longer)
    (frozen : closed → closed' ∧ longer = stream) : Genuine isn longer closed' segment := by
  cases genuine with
  | syn isSyn => exact .syn isSyn
  | empty position bounded noSyn noFin bare placed =>
      have longerLength := isPart.length_le
      exact .empty position (by omega) noSyn noFin bare placed
  | slice index isSlice => exact .slice index (isSlice.grow isPart frozen)

theorem Transmits.grow {position : Nat} (transmits : Transmits isn stream closed position segment)
    (isPart : stream <+: longer) (frozen : closed → closed' ∧ longer = stream) :
    Transmits isn longer closed' position segment := by
  cases transmits with
  | syn noAck isSyn => exact .syn noAck isSyn
  | slice noAck index isSlice short => exact .slice noAck index (isSlice.grow isPart frozen) short

theorem Transmits.genuine {position : Nat}
    (transmits : Transmits isn stream closed position segment) :
    Genuine isn stream closed segment := by
  cases transmits with
  | syn _ isSyn => exact .syn isSyn
  | slice _ index isSlice _ => exact .slice index isSlice

theorem Transmits.noAck {position : Nat}
    (transmits : Transmits isn stream closed position segment) : segment.header.ack = false := by
  cases transmits with
  | syn noAck _ => exact noAck
  | slice noAck _ _ _ => exact noAck

end Growth

end Sponge
