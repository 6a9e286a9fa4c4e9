import Sponge.Connection.Runs
import Sponge.Reception.Safety
import Sponge.Transmission.Issue

/-!
# What an endpoint emits

Everything a connection puts on the wire is a segment of the stream its
application wrote, stamped with the acknowledgment number its receiver has at
that time.  An endpoint is a connection with its log: the bytes accepted from
and read by its application, and the segments put on the wire.
-/

namespace Sponge

open TCPSender

/-- The RST of an abort is an empty segment like any other. -/
theorem TCPSender.Sending.withRst {isn : WrappingInt32} {written : Bytes} {s : TCPSender}
    (sending : Sending isn written s) :
    Sending isn written (TCPConnection.withRst s) ∧
      Furthers written s written (TCPConnection.withRst s) := by
  obtain ⟨firsts, settled⟩ := sending.settled
  refine sending.requeue fun segment member => ?_
  obtain rfl := List.mem_singleton.mp member
  exact settled.toAccounted.clean_of_empty rfl rfl rfl

/-! ## Stamping -/

namespace TCPConnection

section Stamp

variable {ackno : Option WrappingInt32} {winSize : Nat} {segment : TCPSegment}

theorem stamp_length :
    (stamp ackno winSize segment).lengthInSequenceSpace = segment.lengthInSequenceSpace := by
  rw [stamp_eq]
  rfl

theorem isSyn_stamp {isn : WrappingInt32} (isSyn : IsSyn isn segment) :
    IsSyn isn (stamp ackno winSize segment) := by
  rw [stamp_eq]
  exact ⟨isSyn.isSyn, isSyn.noFin, isSyn.bare, isSyn.first⟩

theorem isSlice_stamp {isn : WrappingInt32} {written : Bytes} {closed : Prop} {index : Nat}
    (isSlice : IsSlice isn written closed index segment) :
    IsSlice isn written closed index (stamp ackno winSize segment) := by
  rw [stamp_eq]
  exact ⟨isSlice.bounded, isSlice.noSyn, isSlice.genuine, isSlice.placed, isSlice.final⟩

theorem genuine_stamp {isn : WrappingInt32} {written : Bytes} {closed : Prop}
    (genuine : Genuine isn written closed segment) :
    Genuine isn written closed (stamp ackno winSize segment) := by
  cases genuine with
  | syn isSyn => exact .syn (isSyn_stamp isSyn)
  | empty position bounded noSyn noFin bare placed =>
      rw [stamp_eq]
      exact .empty position bounded noSyn noFin bare placed
  | slice index isSlice => exact .slice index (isSlice_stamp isSlice)

/-- A segment stamped as acknowledging carries the receiver's acknowledgment number. -/
theorem ackno_of_stamp (noAck : segment.header.ack = false)
    (isAck : (stamp ackno winSize segment).header.ack = true) :
    ackno = some (stamp ackno winSize segment).header.ackno := by
  rw [stamp_eq, noAck] at isAck ⊢
  obtain ⟨known, rfl⟩ := Option.isSome_iff_exists.mp isAck
  rfl

end Stamp

end TCPConnection

/-! ## Endpoints -/

/-- A connection with the log of its application and of the wire it transmits on. -/
structure Endpoint where
  conn : TCPConnection
  accepted : Bytes
  readBytes : Bytes
  wire : List TCPSegment

namespace Endpoint

def fresh (cfg : TCPConfig) (random : UInt32) : Endpoint :=
  ⟨TCPConnection.new cfg random, [], [], []⟩

/-- What the application and the clock do, and handing a queued segment to the network. -/
inductive Act where
  | connect
  | write (data : Bytes)
  | endInputStream
  | tick (msSinceLastTick : Nat)
  | read (len : Nat)
  | transmit

def act (e : Endpoint) : Act → Endpoint
  | .connect => { e with conn := e.conn.connect }
  | .write data =>
      { e with
        conn := (e.conn.write data).1
        accepted := e.accepted ++ data.take (e.conn.write data).2 }
  | .endInputStream => { e with conn := e.conn.endInputStream }
  | .tick msSinceLastTick => { e with conn := e.conn.tick msSinceLastTick }
  | .read len =>
      { e with
        conn := e.conn.popInbound len
        readBytes := e.readBytes ++ e.conn.inboundStream.peekOutput len }
  | .transmit =>
      { e with
        conn := { e.conn with segmentsOut := e.conn.segmentsOut.tail }
        wire := e.wire ++ e.conn.segmentsOut.take 1 }

def receive (e : Endpoint) (segment : TCPSegment) : Option Endpoint := do
  let conn ← e.conn.segmentReceived segment
  some { e with conn := conn }

/-- The application has ended its stream. -/
def Closed (e : Endpoint) : Prop := e.conn.outboundStream.inputEnded = true

/-- Every segment sent so far, on the wire or waiting for it. -/
def emitted (e : Endpoint) : List TCPSegment := e.conn.segmentsOut ++ e.wire

/-- The endpoint has emitted only segments of what it has sent. -/
structure Emitting (isn : WrappingInt32) (e : Endpoint) : Prop where
  sending : Sending isn e.accepted e.conn.sender
  flushed : e.conn.sender.segmentsOut = []
  issued : ∀ segment ∈ e.emitted, Issued isn e.accepted e.conn.sender segment

/-- What one endpoint has written and sent so far, compared to another. -/
def Furthers (e e' : Endpoint) : Prop :=
  TCPSender.Furthers e.accepted e.conn.sender e'.accepted e'.conn.sender

/-- More is written and sent, and new segments carry the current acknowledgment. -/
structure Progress (e e' : Endpoint) : Prop where
  furthers : Furthers e e'
  stamped : ∀ segment ∈ e'.emitted, segment ∈ e.emitted ∨
    (segment.header.ack = true → e'.conn.receiver.ackno = some segment.header.ackno)

variable {isn : WrappingInt32} {e : Endpoint}

/-- What is emitted is of the stream of the application. -/
theorem Emitting.genuine (emitting : Emitting isn e) {segment : TCPSegment}
    (member : segment ∈ e.emitted) : Genuine isn e.accepted e.Closed segment := by
  obtain ⟨firsts, settled⟩ := emitting.sending.settled
  exact settled.toAccounted.genuine_of_issued (emitting.issued segment member)

/-- A stamp does not change what a segment is made of. -/
theorem issued_stamp {written : Bytes} {s : TCPSender} {segment : TCPSegment}
    (issued : Issued isn written s segment) (ackno : Option WrappingInt32) (winSize : Nat) :
    Issued isn written s (TCPConnection.stamp ackno winSize segment) := by
  refine ⟨TCPConnection.genuine_stamp issued.genuine, fun isSyn => issued.started ?_⟩
  rwa [TCPConnection.stamp_eq] at isSyn

/-- A call ends with the sender's queue stamped and moved to the connection's. -/
theorem Emitting.flush (emitting : Emitting isn e) {c : TCPConnection} {accepted : Bytes}
    (queue : c.segmentsOut = e.conn.segmentsOut)
    (sends : Sending isn accepted c.sender ∧
      TCPSender.Furthers e.accepted e.conn.sender accepted c.sender) :
    Emitting isn { e with conn := c.popAndSendSegments, accepted := accepted } ∧
      Progress e { e with conn := c.popAndSendSegments, accepted := accepted } := by
  obtain ⟨sending, sentMore⟩ := sends
  obtain ⟨emptied, unchanged⟩ := sending.requeue fun _ none => absurd none List.not_mem_nil
  have furthers := sentMore.trans unchanged
  have emitted_cases :
      ∀ segment ∈ emitted { e with conn := c.popAndSendSegments, accepted := accepted },
        segment ∈ e.emitted ∨ ∃ queued ∈ c.sender.segmentsOut, segment =
          TCPConnection.stamp c.receiver.ackno (min c.receiver.windowSize 65535) queued := by
    intro segment member
    simp only [emitted, TCPConnection.popAndSendSegments, queue, List.append_assoc] at member
    rcases List.mem_append.mp member with old | later
    · exact Or.inl (List.mem_append_left _ old)
    · rcases List.mem_append.mp later with new | onWire
      · obtain ⟨queued, inQueue, rfl⟩ := List.mem_map.mp new
        exact Or.inr ⟨queued, inQueue, rfl⟩
      · exact Or.inl (List.mem_append_right _ onWire)
  refine ⟨⟨emptied, rfl, fun segment member => ?_⟩, ⟨furthers, fun segment member => ?_⟩⟩
  · rcases emitted_cases segment member with old | ⟨queued, inQueue, rfl⟩
    · exact (emitting.issued segment old).grow furthers
    · exact issued_stamp ((sending.clean queued inQueue).toIssued.grow unchanged) _ _
  · rcases emitted_cases segment member with old | ⟨queued, inQueue, rfl⟩
    · exact Or.inl old
    · exact Or.inr (TCPConnection.ackno_of_stamp (sending.clean queued inQueue).noAck)

theorem emitting_fresh (cfg : TCPConfig) (random : UInt32) :
    Emitting (cfg.fixedIsn.getD ⟨random⟩) (fresh cfg random) where
  sending := ⟨⟨[], settled_new _ _ _ _⟩, fun _ member => by cases member⟩
  flushed := rfl
  issued := fun _ member => by cases member

/-- Nothing is emitted by a step that leaves the stream alone. -/
theorem Emitting.keep (emitting : Emitting isn e) (e' : Endpoint)
    (sends : Sending isn e'.accepted e'.conn.sender ∧ Furthers e e')
    (flushed : e'.conn.sender.segmentsOut = [])
    (emitted : ∀ segment ∈ e'.emitted, segment ∈ e.emitted) : Emitting isn e' ∧ Progress e e' := by
  obtain ⟨sending, furthers⟩ := sends
  refine ⟨⟨sending, flushed, fun segment member => ?_⟩, furthers, fun segment member => ?_⟩
  · exact (emitting.issued segment (emitted segment member)).grow furthers
  · exact .inl (emitted segment member)

theorem mem_emitted_of_transmit {segment : TCPSegment}
    (member : segment ∈ (e.act .transmit).emitted) : segment ∈ e.emitted := by
  simp only [Endpoint.act, emitted, List.mem_append] at member ⊢
  rcases member with queued | onWire | taken
  · exact Or.inl (List.mem_of_mem_tail queued)
  · exact Or.inr onWire
  · exact Or.inl (List.mem_of_mem_take taken)

/-- A tick repeats the oldest outstanding segment, or gives up with a RST. -/
theorem Emitting.tick (emitting : Emitting isn e) (msSinceLastTick : Nat) :
    Emitting isn (e.act (.tick msSinceLastTick)) ∧ Progress e (e.act (.tick msSinceLastTick)) ∧
      (e.act (.tick msSinceLastTick)).conn.sender.lastAckno = e.conn.sender.lastAckno := by
  obtain ⟨ticked, furthers⟩ := emitting.sending.tick msSinceLastTick
  have same := (e.conn.sender.tick_spec msSinceLastTick).1
  rw [Endpoint.act]
  cases e.conn.elapsed msSinceLastTick with
  | gaveUp _ ran =>
      rw [ran]
      obtain ⟨withRst, furthers'⟩ := ticked.withRst
      obtain ⟨failed, furthers''⟩ := withRst.setError
      exact and_assoc.mp ⟨emitting.flush rfl
        ⟨failed, (furthers.trans furthers').trans furthers''⟩, same.lastAckno⟩
  | waited _ ran =>
      rw [ran]
      exact and_assoc.mp ⟨emitting.flush rfl ⟨ticked, furthers⟩, same.lastAckno⟩

/-- What an endpoint does of its own accord. -/
theorem Emitting.act (emitting : Emitting isn e) (action : Act) :
    Emitting isn (e.act action) ∧ Progress e (e.act action) ∧
      (e.act action).conn.sender.lastAckno = e.conn.sender.lastAckno := by
  have sending := emitting.sending
  obtain ⟨firsts, settled⟩ := sending.settled
  cases action with
  | connect =>
      exact and_assoc.mp ⟨emitting.flush rfl sending.fillWindow, settled.fillWindow_frame.1⟩
  | write data =>
      exact and_assoc.mp ⟨emitting.flush rfl (sending.write data),
        (settled.toAccounted.write data).fillWindow_frame.1⟩
  | endInputStream =>
      exact and_assoc.mp ⟨emitting.flush rfl sending.endInput,
        settled.toAccounted.endInput.fillWindow_frame.1⟩
  | tick msSinceLastTick => exact emitting.tick msSinceLastTick
  | read len =>
      exact and_assoc.mp ⟨emitting.keep _ ⟨sending, .refl _ _⟩ emitting.flushed fun _ => id, rfl⟩
  | transmit =>
      exact and_assoc.mp ⟨emitting.keep _ ⟨sending, .refl _ _⟩ emitting.flushed
        fun _ => mem_emitted_of_transmit, rfl⟩

/-! ## Receiving -/

/-- What answers a segment is made of what has been sent by then. -/
theorem resilient_sending (segment : TCPSegment) (isn : WrappingInt32) (written : Bytes)
    (s₀ : TCPSender) :
    TCPConnection.Resilient segment fun s =>
      Sending isn written s ∧ TCPSender.Furthers written s₀ written s where
  fillWindow := by
    rintro s ⟨sending, furthers⟩
    obtain ⟨sending', furthers'⟩ := sending.fillWindow
    exact ⟨sending', furthers.trans furthers'⟩
  ackReceived := by
    rintro _ s ⟨sending, furthers⟩
    obtain ⟨sending', furthers'⟩ := sending.ackReceived segment.header.ackno segment.header.win
    exact ⟨sending', furthers.trans furthers'⟩
  sendEmptySegment := by
    rintro s ⟨sending, furthers⟩
    obtain ⟨sending', furthers'⟩ := sending.sendEmptySegment
    exact ⟨sending', furthers.trans furthers'⟩

/-- A truthful acknowledgment moves the sender no further than the truth. -/
theorem resilient_acked {segment : TCPSegment} {written : Bytes} {bound : Nat}
    (cycle : written.length + 2 < 2 ^ 32) (small : bound < 2 ^ 32)
    (truthful : segment.header.ack = true →
      ∃ position ≤ bound, segment.header.ackno = wrap position isn) :
    TCPConnection.Resilient segment fun s => Sending isn written s ∧ s.lastAckno ≤ bound where
  fillWindow := by
    rintro s ⟨sending, acked⟩
    obtain ⟨_, settled⟩ := sending.settled
    exact ⟨sending.fillWindow.1, by rwa [settled.fillWindow_frame.1]⟩
  ackReceived := by
    rintro isAck s ⟨sending, acked⟩
    obtain ⟨_, settled⟩ := sending.settled
    obtain ⟨position, before, placed⟩ := truthful isAck
    have sent := settled.nextSeqno_le
    refine ⟨(sending.ackReceived _ _).1, ?_⟩
    rw [placed]
    exact settled.lastAckno_ackReceived_le acked before (by omega) (by omega) _
  sendEmptySegment := by
    rintro s ⟨sending, acked⟩
    exact ⟨sending.sendEmptySegment.1, by rwa [s.sendEmptySegment_spec.1.lastAckno]⟩

theorem received_of_receive {e' : Endpoint} {segment : TCPSegment}
    (received : e.receive segment = some e') :
    ∃ conn, TCPConnection.Received e.conn segment conn ∧ e' = { e with conn := conn } := by
  obtain ⟨conn, segmentReceived, rest⟩ := Option.bind_eq_some_iff.mp received
  cases rest
  exact ⟨conn, TCPConnection.received_of_segmentReceived segmentReceived, rfl⟩

/-- Whatever arrives, an endpoint keeps emitting only segments of its stream. -/
theorem Emitting.receive (emitting : Emitting isn e) {e' : Endpoint} {segment : TCPSegment}
    (received : e.receive segment = some e') : Emitting isn e' ∧ Progress e e' := by
  obtain ⟨conn, outcome, rfl⟩ := received_of_receive received
  cases outcome with
  | ignored _ =>
      exact emitting.keep _ ⟨emitting.sending, .refl _ _⟩ emitting.flushed fun _ => id
  | reset _ _ => exact emitting.keep _ emitting.sending.setError emitting.flushed fun _ => id
  | handled _ _ _ _ _ _ kept =>
      exact emitting.flush rfl (kept _ (resilient_sending segment isn e.accepted e.conn.sender)
        ⟨emitting.sending, .refl _ _⟩)

theorem Emitting.acked_receive (emitting : Emitting isn e) {e' : Endpoint} {segment : TCPSegment}
    (received : e.receive segment = some e') {bound : Nat}
    (cycle : e.accepted.length + 2 < 2 ^ 32) (small : bound < 2 ^ 32)
    (truthful : segment.header.ack = true →
      ∃ position ≤ bound, segment.header.ackno = wrap position isn)
    (acked : e.conn.sender.lastAckno ≤ bound) : e'.conn.sender.lastAckno ≤ bound := by
  obtain ⟨conn, outcome, rfl⟩ := received_of_receive received
  cases outcome with
  | ignored _ => exact acked
  | reset _ _ => exact acked
  | handled _ _ _ _ _ _ kept =>
      exact (kept _ (resilient_acked cycle small truthful) ⟨emitting.sending, acked⟩).2

end Endpoint

end Sponge
