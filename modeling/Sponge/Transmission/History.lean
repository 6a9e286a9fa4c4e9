import Sponge.Library.Run
import Sponge.Transmission.Accounting

/-!
# The history of a sender

A run of a sender is logged from outside: the bytes its stream accepted, the
non-empty segments queued by every call but a tick, which are the first
transmissions, and the segments queued by ticks, which are the retransmissions,
each with the position of the oldest outstanding segment at that time.
-/

namespace Sponge.TCPSender

open Tiling

/-- The calls made on a sender; `dequeue` takes a segment off the output queue. -/
inductive Call where
  | write (data : Bytes)
  | endInput
  | fillWindow
  | ackReceived (ackno : WrappingInt32) (windowSize : UInt16)
  | tick (msSinceLastTick : Nat)
  | sendEmptySegment
  | dequeue

def handle (s : TCPSender) : Call → TCPSender
  | .write data => { s with stream := (s.stream.write data).1 }
  | .endInput => { s with stream := s.stream.endInput }
  | .fillWindow => s.fillWindow
  | .ackReceived ackno windowSize => s.ackReceived ackno windowSize
  | .tick msSinceLastTick => s.tick msSinceLastTick
  | .sendEmptySegment => s.sendEmptySegment
  | .dequeue => { s with segmentsOut := s.segmentsOut.tail }

/-- The segments a call appends to the output queue. -/
def queuedBy (s : TCPSender) (call : Call) : List TCPSegment :=
  (s.handle call).segmentsOut.drop s.segmentsOut.length

/-- The bytes a call adds to the stream. -/
def acceptedBy (s : TCPSender) : Call → Bytes
  | .write data => data.take (s.stream.write data).2
  | _ => []

/-- A sender with the log of its run. -/
structure Logged where
  sender : TCPSender
  accepted : Bytes
  firsts : List TCPSegment
  resent : List (Option Nat × TCPSegment)

namespace Logged

def fresh (sender : TCPSender) : Logged := ⟨sender, [], [], []⟩

def firstsBy (o : Logged) : Call → List TCPSegment
  | .tick _ => []
  | call => (o.sender.queuedBy call).filter fun segment =>
      decide (0 < segment.lengthInSequenceSpace)

def resentBy (o : Logged) : Call → List (Option Nat × TCPSegment)
  | .tick msSinceLastTick => (o.sender.queuedBy (.tick msSinceLastTick)).map fun segment =>
      (o.sender.segmentsOutstanding.head?.map Outstanding.absSeqno, segment)
  | _ => []

def call (o : Logged) (call : Call) : Option Logged :=
  some {
    sender := o.sender.handle call
    accepted := o.accepted ++ o.sender.acceptedBy call
    firsts := o.firsts ++ o.firstsBy call
    resent := o.resent ++ o.resentBy call }

/-- Every retransmission so far repeats the first transmission at its position. -/
def Repeats (o : Logged) : Prop :=
  ∀ entry ∈ o.resent, ∃ position, entry.1 = some position ∧
    (position, entry.2) ∈ placements o.firsts

end Logged

section Invariant

variable {isn : WrappingInt32} {written : Bytes} {firsts : List TCPSegment} {s : TCPSender}

/-- Non-empty segments appended to the output queue are what a call queued. -/
theorem queuedBy_of_append (call : Call) {segments : List TCPSegment}
    (appended : (s.handle call).segmentsOut = s.segmentsOut ++ segments) :
    s.queuedBy call = segments := by
  rw [queuedBy, appended, List.drop_left]

theorem filter_nonempty {segments : List TCPSegment}
    (nonempty : ∀ segment ∈ segments, 0 < segment.lengthInSequenceSpace) :
    segments.filter (fun segment => decide (0 < segment.lengthInSequenceSpace)) = segments :=
  List.filter_eq_self.mpr fun segment member => decide_eq_true (nonempty segment member)

/-- A call that sends is logged with the segments that keep the account. -/
theorem Accounted.logged {o : Logged} {call : Call}
    (notTick : o.firstsBy call = (o.sender.queuedBy call).filter fun segment =>
      decide (0 < segment.lengthInSequenceSpace))
    (sends : ∃ segments, Accounted isn written (firsts ++ segments) (o.sender.handle call) ∧
      (o.sender.handle call).segmentsOut = o.sender.segmentsOut ++ segments) :
    Accounted isn written (firsts ++ o.firstsBy call) (o.sender.handle call) := by
  obtain ⟨segments, accounted, appended⟩ := sends
  rw [notTick, queuedBy_of_append call appended, filter_nonempty]
  · exact accounted
  · exact fun segment member => accounted.nonempty segment (List.mem_append_right _ member)

theorem Accounted.call {o : Logged} (accounted : Accounted isn o.accepted o.firsts o.sender)
    (call : Call) :
    Accounted isn (o.accepted ++ o.sender.acceptedBy call) (o.firsts ++ o.firstsBy call)
      (o.sender.handle call) := by
  cases call with
  | write data =>
      have nothing : o.firstsBy (.write data) = [] := by simp [Logged.firstsBy, queuedBy, handle]
      rw [nothing, List.append_nil]
      exact accounted.write data
  | endInput =>
      have nothing : o.firstsBy .endInput = [] := by simp [Logged.firstsBy, queuedBy, handle]
      simp only [nothing, acceptedBy, List.append_nil]
      exact accounted.endInput
  | fillWindow =>
      simp only [acceptedBy, List.append_nil]
      obtain ⟨segments, accounted', sends⟩ := accounted.fillWindow
      exact Accounted.logged rfl ⟨segments, accounted', sends.segmentsOut⟩
  | ackReceived ackno windowSize =>
      simp only [acceptedBy, List.append_nil]
      obtain ⟨segments, accounted', appended, _⟩ := accounted.ackReceived ackno windowSize
      exact Accounted.logged rfl ⟨segments, accounted', appended⟩
  | tick msSinceLastTick =>
      simp only [acceptedBy, Logged.firstsBy, List.append_nil]
      exact accounted.congr (o.sender.tick_spec msSinceLastTick).1
  | sendEmptySegment =>
      -- the segment is queued, but it is empty and not logged
      obtain ⟨same, appended⟩ := o.sender.sendEmptySegment_spec
      have nothing : o.firstsBy .sendEmptySegment = [] := by
        simp only [Logged.firstsBy, queuedBy_of_append .sendEmptySegment appended]
        rfl
      simp only [nothing, acceptedBy, List.append_nil]
      exact accounted.congr same
  | dequeue =>
      have nothing : o.firstsBy .dequeue = [] := by
        have shorter : o.sender.segmentsOut.tail.length ≤ o.sender.segmentsOut.length := by simp
        simp only [Logged.firstsBy, queuedBy, handle, List.drop_eq_nil_of_le shorter,
          List.filter_nil]
      simp only [nothing, acceptedBy, List.append_nil]
      exact accounted.congr ⟨rfl, rfl, rfl, rfl, rfl, rfl, rfl, rfl⟩

/-- The oldest outstanding segment is where it was first sent. -/
theorem Accounted.mem_placements (accounted : Accounted isn written firsts s) (entry : Outstanding)
    (member : entry ∈ s.segmentsOutstanding) : entry.placed ∈ placements firsts := by
  have placed := List.mem_map_of_mem (f := Outstanding.placed) member
  rw [accounted.outstanding, pending, List.mem_filter] at placed
  exact placed.1

theorem Logged.Repeats.call {o : Logged} (repeats : o.Repeats)
    (accounted : Accounted isn o.accepted o.firsts o.sender) {call : Call} {o' : Logged}
    (next : o.call call = some o') : o'.Repeats := by
  cases next
  intro entry member
  rcases List.mem_append.mp member with old | new
  · obtain ⟨position, known, inFirsts⟩ := repeats entry old
    refine ⟨position, known, ?_⟩
    rw [placements, layout_append]
    exact List.mem_append_left _ inFirsts
  · cases call with
    | tick msSinceLastTick =>
        simp only [Logged.resentBy, Logged.firstsBy, List.append_nil] at new ⊢
        obtain ⟨_, queue | ⟨oldest, rest, outstanding, queue⟩⟩ :=
          o.sender.tick_spec msSinceLastTick
        · rw [queuedBy_of_append (.tick msSinceLastTick)
            (queue.trans (List.append_nil _).symm)] at new
          cases new
        · rw [queuedBy_of_append (.tick msSinceLastTick) queue, outstanding] at new
          obtain rfl := List.mem_singleton.mp new
          refine ⟨oldest.absSeqno, rfl, accounted.mem_placements oldest ?_⟩
          rw [outstanding]
          exact List.mem_cons_self
    | _ => cases new

/-- No call takes an acknowledgment back. -/
theorem Accounted.lastAckno_le (accounted : Accounted isn written firsts s) (call : Call) :
    s.lastAckno ≤ (s.handle call).lastAckno := by
  cases call with
  | fillWindow =>
      obtain ⟨_, _, sends⟩ := accounted.fillWindow
      exact Nat.le_of_eq sends.lastAckno.symm
  | ackReceived ackno windowSize =>
      obtain ⟨_, _, _, forward⟩ := accounted.ackReceived ackno windowSize
      exact forward
  | tick msSinceLastTick =>
      exact Nat.le_of_eq (s.tick_spec msSinceLastTick).1.lastAckno.symm
  | sendEmptySegment => exact Nat.le_of_eq s.sendEmptySegment_spec.1.lastAckno.symm
  | _ => exact Nat.le_refl _

/-- The bytes in flight reach from the oldest outstanding segment to the next number. -/
theorem Accounted.bytesInFlight_eq (accounted : Accounted isn written firsts s) :
    s.bytesInFlight = s.segmentsOutstanding.head?.elim 0 fun oldest =>
      s.nextSeqno - oldest.absSeqno := by
  obtain ⟨start, rest, queue, total, inFlight⟩ := accounted.contiguous
  cases outstanding : s.segmentsOutstanding with
  | nil => rw [bytesInFlight, outstanding]; rfl
  | cons oldest entries =>
      rw [outstanding] at queue
      cases rest with
      | nil => cases queue
      | cons item rest =>
          have atStart : oldest.absSeqno = start := congrArg Prod.fst (List.cons.inj queue).1
          simp only [List.head?_cons, Option.elim_some]
          omega

end Invariant

section Runs

variable {capacity : Nat} {retxTimeout : UInt16} {fixedIsn : Option WrappingInt32}
  {random : UInt32} {o : Logged}

/-- The logs of the runs of a fresh sender. -/
abbrev Run (capacity : Nat) (retxTimeout : UInt16) (fixedIsn : Option WrappingInt32)
    (random : UInt32) (o : Logged) : Prop :=
  Reaches Logged.call Always (Logged.fresh (new capacity retxTimeout fixedIsn random)) o

theorem accounted_of_run (reached : Run capacity retxTimeout fixedIsn random o) :
    Accounted (fixedIsn.getD ⟨random⟩) o.accepted o.firsts o.sender ∧ o.Repeats := by
  refine reached.invariant
    (fun o => Accounted (fixedIsn.getD ⟨random⟩) o.accepted o.firsts o.sender ∧ o.Repeats)
    ⟨accounted_new capacity retxTimeout fixedIsn random, fun _ member => by cases member⟩ ?_
  rintro state call final ⟨accounted, repeats⟩ _ next
  refine ⟨?_, repeats.call accounted next⟩
  cases next
  exact accounted.call call

/-- A FIN ends its segment two past the last byte written. -/
theorem Accounted.stop_of_fin {isn : WrappingInt32} {written : Bytes} {firsts : List TCPSegment}
    {s : TCPSender} (accounted : Accounted isn written firsts s) {placed : Nat × TCPSegment}
    (member : placed ∈ placements firsts) (isFin : placed.2.header.fin = true) :
    stop TCPSegment.lengthInSequenceSpace placed = written.length + 2 := by
  obtain ⟨position, segment⟩ := placed
  cases accounted.transmits _ member with
  | syn _ isSyn =>
      rw [isSyn.noFin] at isFin
      cases isFin
  | slice _ index isSlice _ =>
      have atEnd := (isSlice.final isFin).2
      change index + 1 + segment.lengthInSequenceSpace = _
      rw [isSlice.length_eq, isFin, Bool.toNat_true]
      omega

/--
The first transmissions of a sender, laid end to end, cover its sequence numbers
and convey the accepted bytes; at most one of them carries the FIN, and every
retransmission repeats the one at its position.
-/
theorem sender_transmits_stream (reached : Run capacity retxTimeout fixedIsn random o) :
    (∀ segment ∈ o.firsts, segment.lengthInSequenceSpace ≠ 0) ∧
      span TCPSegment.lengthInSequenceSpace o.firsts = o.sender.nextSeqnoAbsolute ∧
      (∀ placed ∈ placements o.firsts, Transmits (fixedIsn.getD ⟨random⟩) o.accepted
        (o.sender.stream.inputEnded = true) placed.1 placed.2) ∧
      (∀ placed ∈ placements o.firsts, ∀ other ∈ placements o.firsts,
        placed.2.header.fin = true → other.2.header.fin = true → placed = other) ∧
      ∀ entry ∈ o.resent, ∃ position, entry.1 = some position ∧
        (position, entry.2) ∈ placements o.firsts := by
  obtain ⟨accounted, repeats⟩ := accounted_of_run reached
  refine ⟨fun segment member => (accounted.nonempty segment member).ne', accounted.span_eq,
    accounted.transmits, fun placed member other member' isFin isFin' => ?_, repeats⟩
  refine eq_of_stop_eq accounted.nonempty member member' ?_
  rw [accounted.stop_of_fin member isFin, accounted.stop_of_fin member' isFin']

/-- Two bytes are sent after the SYN and repeated when the timer expires. -/
theorem sender_transmits_stream_retransmitted :
    ∃ o, Run 10 1000 (some ⟨5⟩) 0 o ∧ o.firsts.length = 2 ∧ o.resent.length = 1 ∧
      span TCPSegment.lengthInSequenceSpace o.firsts = o.sender.nextSeqnoAbsolute := by
  have start : Run 10 1000 (some ⟨5⟩) 0 (Logged.fresh (new 10 1000 (some ⟨5⟩) 0)) := .refl
  have one := start.tail Call.fillWindow trivial rfl
  have two := one.tail (Call.ackReceived ⟨6⟩ 4) trivial rfl
  have three := two.tail (Call.write [97, 98]) trivial rfl
  have four := three.tail Call.fillWindow trivial rfl
  have five := four.tail (Call.tick 1000) trivial rfl
  exact ⟨_, five, by decide, by decide, (sender_transmits_stream five).2.1⟩

/--
The retransmission queue is the list of first transmissions that stop after the
last acknowledgment number: a contiguous run that ends at the next sequence
number.  The acknowledgment number only grows, up to the next sequence number,
and an acknowledgment beyond that changes nothing.
-/
theorem retransmission_queue_exact (reached : Run capacity retxTimeout fixedIsn random o) :
    o.sender.segmentsOutstanding.map Outstanding.placed =
        pending TCPSegment.lengthInSequenceSpace o.sender.lastAckno (placements o.firsts) ∧
      (∃ start rest, o.sender.segmentsOutstanding.map Outstanding.placed =
          layout TCPSegment.lengthInSequenceSpace start rest ∧
        start + span TCPSegment.lengthInSequenceSpace rest = o.sender.nextSeqnoAbsolute) ∧
      o.sender.bytesInFlight = (o.sender.segmentsOutstanding.head?.elim 0 fun oldest =>
        o.sender.nextSeqnoAbsolute - oldest.absSeqno) ∧
      (o.sender.bytesInFlight = 0 ↔ o.sender.lastAckno = o.sender.nextSeqnoAbsolute) ∧
      o.sender.lastAckno ≤ o.sender.nextSeqnoAbsolute ∧
      (∀ call, o.sender.lastAckno ≤ (o.sender.handle call).lastAckno) ∧
      ∀ ackno windowSize,
        o.sender.nextSeqnoAbsolute < unwrap ackno o.sender.isn o.sender.lastAckno →
          o.sender.ackReceived ackno windowSize = o.sender := by
  obtain ⟨accounted, _⟩ := accounted_of_run reached
  obtain ⟨start, rest, queue, total, inFlight⟩ := accounted.contiguous
  refine ⟨accounted.outstanding, ⟨start, rest, queue, by rw [← inFlight]; exact total⟩, ?_,
    accounted.bytesInFlight_eq_zero_iff, accounted.acked, accounted.lastAckno_le, ?_⟩
  · exact accounted.bytesInFlight_eq
  · intro ackno windowSize beyond
    rw [nextSeqnoAbsolute] at beyond
    rw [ackReceived_eq, if_pos (Or.inr beyond)]

/-- The SYN is acknowledged and the byte sent after it is not. -/
theorem retransmission_queue_exact_one_byte :
    ∃ o, Run 10 1000 (some ⟨5⟩) 0 o ∧ o.sender.lastAckno = 1 ∧
      o.sender.segmentsOutstanding.length = 1 ∧
      o.sender.segmentsOutstanding.map Outstanding.placed =
        pending TCPSegment.lengthInSequenceSpace o.sender.lastAckno (placements o.firsts) := by
  have start : Run 10 1000 (some ⟨5⟩) 0 (Logged.fresh (new 10 1000 (some ⟨5⟩) 0)) := .refl
  have one := start.tail Call.fillWindow trivial rfl
  have two := one.tail (Call.write [97]) trivial rfl
  have three := two.tail (Call.ackReceived ⟨6⟩ 4) trivial rfl
  exact ⟨_, three, by decide, by decide, (retransmission_queue_exact three).1⟩

end Runs

end Sponge.TCPSender
