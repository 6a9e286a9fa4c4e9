import Sponge.Connection.BeforeSyn
import Sponge.Connection.Contents
import Sponge.Connection.Silence
import Sponge.Network.Emission
import Sponge.Reception.Advance
import Sponge.Transmission.Timer

/-!
# A segment is sent again, taken and answered

The parts of one exchange, each for the side it happens on: a tick sends the oldest
outstanding segment again, a receiver with room takes it whatever its stamp, the
connection answers it with its acknowledgment number, and that answer removes it from
the queue and ends the attempts.
-/

namespace Sponge

open TCPSender TCPReceiver

/-! ## The oldest outstanding segment -/

namespace TCPSender

variable {isn : WrappingInt32} {written : Bytes} {firsts : List TCPSegment} {s : TCPSender}
  {oldest : Outstanding} {rest : List Outstanding}

/-- The oldest outstanding segment starts no later than what is acknowledged. -/
theorem Accounted.oldest_le (accounted : Accounted isn written firsts s)
    (queue : s.segmentsOutstanding = oldest :: rest) : oldest.absSeqno ≤ s.lastAckno := by
  obtain ⟨done, remaining, _, kept, below, _⟩ := Tiling.exists_pending accounted.nonempty 0
    s.lastAckno
  have placed := accounted.outstanding.trans kept
  rw [queue] at placed
  cases remaining with
  | nil => cases placed
  | cons first later =>
      have start := congrArg Prod.fst (List.cons.inj placed).1
      change oldest.absSeqno = 0 + Tiling.span TCPSegment.lengthInSequenceSpace done at start
      rcases below with rfl | bounded
      · rw [start]
        exact Nat.zero_le _
      · omega

/-- Some tick sends the oldest outstanding segment again. -/
theorem Armed.resends (armed : Armed s) (queue : s.segmentsOutstanding = oldest :: rest) :
    ∃ msSinceLastTick,
      (s.tick msSinceLastTick).segmentsOut = s.segmentsOut ++ [oldest.segment] ∧
        ((s.tick msSinceLastTick).consecutiveRetransmissionsCount =
            MachineInt.add32 s.consecutiveRetransmissionsCount 1 ∨
          (s.tick msSinceLastTick).consecutiveRetransmissionsCount =
            s.consecutiveRetransmissionsCount) := by
  obtain ⟨msSinceLastTick, sent⟩ := armed.exists_tick (by rw [queue]; exact List.cons_ne_nil _ _)
  refine ⟨msSinceLastTick, ?_⟩
  cases s.ticked msSinceLastTick with
  | stopped _ ran | early _ _ ran | drained _ _ ran =>
      rw [ran] at sent
      exact absurd rfl sent
  | resent _ _ first others queue' ran =>
      rw [queue] at queue'
      cases queue'
      rw [ran]
      refine ⟨rfl, ?_⟩
      dsimp only
      split
      · exact .inl rfl
      · exact .inr rfl

theorem Sends.count {s' : TCPSender} {segments : List TCPSegment} (sends : Sends s s' segments) :
    s'.consecutiveRetransmissionsCount = s.consecutiveRetransmissionsCount := by
  obtain ⟨_, _, _, _, rfl⟩ := sends
  rfl

/-- The acknowledgment of the oldest outstanding segment removes it and ends the attempts. -/
theorem Settled.acked_oldest (settled : Settled isn written firsts s)
    (queue : s.segmentsOutstanding = oldest :: rest) {ackno : WrappingInt32} {position : Nat}
    (meant : unwrap ackno s.isn s.lastAckno = position) (covers : oldest.stop ≤ position)
    (possible : position ≤ s.nextSeqno) (windowSize : UInt16) :
    position ≤ (s.ackReceived ackno windowSize).lastAckno ∧
      (s.ackReceived ackno windowSize).consecutiveRetransmissionsCount = 0 := by
  have member : oldest ∈ s.segmentsOutstanding := by rw [queue]; exact List.mem_cons_self
  have unacked := settled.lastAckno_lt_stop member
  have accepted : s.ackReceived ackno windowSize =
      (s.acknowledge position windowSize.toNat).fillWindow := by
    rw [ackReceived_eq, meant, if_neg (by omega)]
  have accounted' := settled.toAccounted.acknowledge (by omega) possible windowSize.toNat
  obtain ⟨_, _, sends⟩ := accounted'.fillWindow
  have forward : position ≤ (s.acknowledge position windowSize.toNat).lastAckno := by
    rw [(s.acknowledge_core _ _).lastAckno]
    exact Nat.le_max_right _ _
  rw [accepted, sends.lastAckno, sends.count]
  refine ⟨forward, ?_⟩
  cases s.acknowledged position windowSize.toNat with
  | popped _ _ _ _ _ ran => rw [ran]
  | kept _ _ _ ran =>
      -- the queue would still hold what is acknowledged
      have still : (s.acknowledge position windowSize.toNat).lastAckno < oldest.stop :=
        accounted'.lastAckno_lt_stop (by rw [ran]; exact member)
      omega

theorem Unstuck.fillWindow (unstuck : Unstuck s) (accounted : Accounted isn written firsts s) :
    Unstuck s.fillWindow := by
  rw [accounted.unstuck_fillWindow_iff]
  rintro ⟨started, notSent, caught, _, waiting⟩
  obtain ⟨drained, closed⟩ := unstuck started (accounted.bytesInFlight_eq_zero_iff.mpr caught)
  rcases waiting with unread | isEnded
  · exact unread drained
  · exact absurd (notSent.symm.trans (closed isEnded)) Bool.false_ne_true

theorem Unstuck.congr (unstuck : Unstuck s) {s' : TCPSender} (same : SameCore s s') :
    Unstuck s' := by
  rw [Unstuck, same.nextSeqno, same.stream, same.finSent, bytesInFlight, same.segmentsOutstanding]
  exact unstuck

theorem ackReceived_error (s : TCPSender) (ackno : WrappingInt32) (windowSize : UInt16) :
    (s.ackReceived ackno windowSize).stream.error = s.stream.error := by
  rw [ackReceived_eq]
  split
  · rfl
  · rw [fillWindow_error, (s.acknowledge_core _ _).stream]

/-- A sender that is not stuck, with an acknowledged position and no attempt made since. -/
structure Relieved (isn : WrappingInt32) (written : Bytes) (ended : Bool) (position : Nat)
    (s : TCPSender) : Prop where
  settled : ∃ firsts, Settled isn written firsts s
  acked : position ≤ s.lastAckno
  count : s.consecutiveRetransmissionsCount = 0
  unstuck : Unstuck s
  error : s.stream.error = false
  inputEnded : s.stream.inputEnded = ended

theorem resilient_relieved (segment : TCPSegment) (isn : WrappingInt32) (written : Bytes)
    (ended : Bool) (position : Nat) :
    TCPConnection.Resilient segment (Relieved isn written ended position) where
  fillWindow := by
    rintro s ⟨⟨firsts, settled⟩, acked, count, unstuck, error, inputEnded⟩
    obtain ⟨_, settled', sends⟩ := settled.fillWindow
    exact ⟨⟨_, settled'⟩, by rwa [sends.lastAckno], sends.count.trans count,
      unstuck.fillWindow settled.toAccounted, (fillWindow_error s).trans error,
      settled.fillWindow_frame.2.trans inputEnded⟩
  ackReceived := by
    rintro _ s ⟨⟨firsts, settled⟩, acked, count, unstuck, error, inputEnded⟩
    obtain ⟨_, settled', _, sameEnd⟩ := settled.ackReceived segment.header.ackno segment.header.win
    obtain ⟨_, _, _, forward⟩ :=
      settled.toAccounted.ackReceived segment.header.ackno segment.header.win
    refine ⟨⟨_, settled'⟩, acked.trans forward, ?_, settled.unstuck_ackReceived unstuck _ _,
      (s.ackReceived_error _ _).trans error, sameEnd.trans inputEnded⟩
    rcases settled.toAccounted.ackReceived_cases segment.header.ackno segment.header.win with
      ignored | ⟨_, accepted, accounted'⟩
    · rw [ignored]
      exact count
    · obtain ⟨_, _, sends⟩ := accounted'.fillWindow
      rw [accepted, sends.count]
      cases s.acknowledged (unwrap segment.header.ackno s.isn s.lastAckno)
        segment.header.win.toNat with
      | kept _ _ _ ran => rw [ran]; exact count
      | popped _ _ _ _ _ ran => rw [ran]
  sendEmptySegment := by
    rintro s ⟨⟨firsts, settled⟩, acked, count, unstuck, error, inputEnded⟩
    have settled' : Settled isn written firsts s.sendEmptySegment :=
      settled.sendEmptySegmentWithThisHeader rfl rfl
    rw [sendEmptySegment, sendSegment_of_empty _ _ rfl] at settled' ⊢
    exact ⟨⟨_, settled'⟩, acked, count, unstuck, error, inputEnded⟩

end TCPSender

/-! ## Answers -/

namespace TCPConnection

variable {c : TCPConnection}

/-- A sender makes its segments neither acknowledging nor resetting. -/
def Unanswered (segment : TCPSegment) : Prop :=
  segment.header.ack = false ∧ segment.header.rst = false

theorem made_unanswered : Made Unanswered where
  numbered := fun _ _ plain => plain
  syn := ⟨rfl, rfl⟩
  empty := ⟨rfl, rfl⟩
  round := fun _ _ _ => ⟨rfl, rfl⟩

/-- The connection before it answers a segment. -/
def taken (c : TCPConnection) (segment : TCPSegment) (receiver : TCPReceiver) : TCPConnection :=
  { c with
    timeSinceLastSegmentReceived := 0
    lingerAfterStreamsFinish :=
      if segment.header.fin = true ∧ c.outboundStream.inputEnded = false then false
      else c.lingerAfterStreamsFinish
    receiver := receiver
    sender := c.acked segment }

theorem handled_eq (c : TCPConnection) (segment : TCPSegment) (receiver : TCPReceiver) :
    c.handled segment receiver =
      { c.taken segment receiver with
        sender := (c.taken segment receiver).respond segment }.popAndSendSegments := rfl

/-- What holds of the sender after the acknowledgment holds of it after the answer. -/
theorem Resilient.handled {segment : TCPSegment} {Holds : TCPSender → Prop}
    (resilient : Resilient segment Holds) (receiver : TCPReceiver)
    (holds : Holds (c.acked segment)) :
    Holds ((c.taken segment receiver).respond segment) := resilient.respond holds

theorem acked_of_ack {segment : TCPSegment} (isAck : segment.header.ack = true) :
    c.acked segment = c.sender.ackReceived segment.header.ackno segment.header.win := if_pos isAck

/-- A segment that takes up sequence numbers is answered with the acknowledgment number. -/
theorem handled_answers {segment : TCPSegment} {receiver : TCPReceiver} {ackno : WrappingInt32}
    (nonempty : segment.lengthInSequenceSpace ≠ 0) (known : receiver.ackno = some ackno)
    (contains : Contains Unanswered c.sender) :
    ∃ answer ∈ (c.handled segment receiver).segmentsOut, answer.header.ack = true ∧
      answer.header.ackno = ackno ∧ answer.header.rst = false := by
  have acked : Contains Unanswered (c.acked segment) := by
    unfold TCPConnection.acked
    split
    · exact contains.ackReceived made_unanswered _ _
    · exact contains
  have answers := (resilient_contains made_unanswered segment).handled receiver acked
  obtain ⟨queued, inQueue⟩ :=
    List.exists_mem_of_ne_nil _ ((c.taken segment receiver).respond_ne_nil nonempty)
  obtain ⟨noAck, noRst⟩ := answers.queued queued inQueue
  obtain ⟨isAck, acknowledged⟩ := stamp_ackno noAck ackno (min receiver.windowSize 65535)
  refine ⟨stamp (some ackno) (min receiver.windowSize 65535) queued, ?_, isAck, acknowledged, ?_⟩
  · rw [handled_eq, popAndSendSegments, ← known]
    exact List.mem_append_right _ (List.mem_map_of_mem inQueue)
  · rwa [stamp_eq]

/-- Without an error a connection is active while the inbound stream has not ended. -/
theorem active_of_not_ended (outbound : c.outboundStream.error = false)
    (inbound : c.inboundStream.error = false) (notEnded : c.inboundStream.inputEnded = false) :
    c.active = true := by
  refine (active_of_not_eof fun both => ?_).mpr ⟨outbound, inbound⟩
  exact absurd (notEnded.symm.trans ((ByteStream.eof_iff _).mp both.2).2) Bool.false_ne_true

/-- And while something is in flight. -/
theorem active_of_inFlight (outbound : c.outboundStream.error = false)
    (inbound : c.inboundStream.error = false) (flying : c.bytesInFlight ≠ 0) :
    c.active = true := by
  by_cases both : c.outboundStream.eof = true ∧ c.inboundStream.eof = true
  · exact (active_of_eof both.1 both.2).mpr (.inl flying)
  · exact (active_of_not_eof both).mpr ⟨outbound, inbound⟩

end TCPConnection

/-- A receiver with room takes what comes next, also when it is sent again with a new stamp. -/
theorem TCPReceiver.Sound.takes {isn : WrappingInt32} {stream : Bytes} {closed : Prop}
    {capacity : Nat} {r : TCPReceiver} {readBytes : Bytes} {held : Nat → Option UInt8}
    (sound : Sound isn stream closed capacity r readBytes held)
    (half : stream.length + capacity + 2 < 2 ^ 31) (near : Near stream r)
    (room : 0 < r.windowSize) (notEnded : r.streamOut.inputEnded = false) {position : Nat}
    {segment : TCPSegment} (transmits : Transmits isn stream closed position segment)
    (reached : position ≤ r.absAckno)
    (atStart : position = 0 → r.lastStreamNo = 0 ∨ r.lastStreamNo = 2 ^ 64 - 1)
    (ackno : Option WrappingInt32) (winSize : Nat) :
    ∃ r' held', r.segmentReceived (TCPConnection.stamp ackno winSize segment) = some r' ∧
      Sound isn stream closed capacity r' readBytes held' ∧ Near stream r' ∧
      (r.absAckno < r'.absAckno ∨ position + segment.lengthInSequenceSpace ≤ r'.absAckno) := by
  cases transmits with
  | syn _ isSyn =>
      obtain ⟨r', held', received, sound', near', _, counted⟩ :=
        sound.takes_syn (by omega) (TCPConnection.isSyn_stamp isSyn) (atStart rfl)
      exact ⟨r', held', received, sound', near', .inr (by rw [isSyn.length_eq]; exact counted)⟩
  | slice _ index isSlice _ =>
      have recived : r.synRecived = true := by
        by_contra notYet
        rw [absAckno, if_pos (by simpa using notYet)] at reached
        omega
      rw [absAckno_of_recived recived, notEnded, if_neg Bool.false_ne_true] at reached
      obtain ⟨r', held', received, sound', near', _, taken⟩ :=
        sound.takes_slice half near recived room (TCPConnection.isSlice_stamp isSlice) (by omega)
      rw [TCPConnection.stamp_length] at taken
      exact ⟨r', held', received, sound', near', taken⟩

end Sponge
