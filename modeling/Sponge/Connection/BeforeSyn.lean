import Sponge.Connection.Runs
import Sponge.Model.TCPState
import Sponge.Reception.Arrival
import Sponge.Transmission.Summary

/-!
# Before the peer's SYN

A connection that has not received a SYN drops whatever a segment without SYN
brings, but only after it has looked at the FIN bit and the acknowledgment, and
it answers every segment that takes up sequence numbers.  What such a segment
leaves as it is: only one without payload and FIN, whose acknowledgment is
ignored or says nothing new.
-/

namespace Sponge

open TCPSender MachineInt

namespace TCPSender

variable {isn : WrappingInt32} {written : Bytes} {firsts : List TCPSegment} {s : TCPSender}

/-- The acknowledgment is ignored, or it leaves the progress and lets nothing be sent. -/
def AckUnnoticed (s : TCPSender) (ackno : WrappingInt32) (windowSize : UInt16) : Prop :=
  s.nextSeqno = 0 ∨ s.nextSeqno < unwrap ackno s.isn s.lastAckno ∨
    (s.lastAckno = 0 → unwrap ackno s.isn s.lastAckno = 0) ∧
    (s.finSent = true → unwrap ackno s.isn s.lastAckno = s.nextSeqno →
      s.lastAckno = s.nextSeqno) ∧
    (s.finSent = true ∨ ¬ s.Waiting ∨
      max s.lastAckno (unwrap ackno s.isn s.lastAckno) <
        unwrap ackno s.isn s.lastAckno + windowSize.toNat ∧
      unwrap ackno s.isn s.lastAckno + windowSize.toNat ≤ s.nextSeqno)

theorem hasNothingToSend_acknowledge_iff (started : s.nextSeqno ≠ 0)
    (newAckno newWindowSize : Nat) :
    (s.acknowledge newAckno newWindowSize).HasNothingToSend ↔
      s.finSent = true ∨ ¬ s.Waiting ∨ max s.lastAckno newAckno < newAckno + newWindowSize ∧
        newAckno + newWindowSize ≤ s.nextSeqno := by
  have core := s.acknowledge_core newAckno newWindowSize
  rw [HasNothingToSend, s.allowance_acknowledge_eq_zero_iff, Waiting, core.finSent,
    core.nextSeqno, core.stream, and_iff_right started, or_comm (b := ¬ _)]
  rfl

/-- With nothing to send, `fill_window` changes nothing that the summary looks at. -/
theorem Accounted.fillWindow_progress (accounted : Accounted isn written firsts s)
    (nothing : s.HasNothingToSend) :
    s.fillWindow.nextSeqno = s.nextSeqno ∧ s.fillWindow.lastAckno = s.lastAckno ∧
      s.fillWindow.finSent = s.finSent := by
  have queue := accounted.fillWindow_queue_iff.mpr nothing
  cases accounted.filled with
  | ended _ ran => rw [ran]; exact ⟨rfl, rfl, rfl⟩
  | opened notSent unsent _ _ =>
      rcases nothing with finSent | ⟨started, _⟩
      · exact absurd (notSent.symm.trans finSent) Bool.false_ne_true
      · exact absurd unsent started
  | sent _ _ _ segments ran fills =>
      have total := fills.span_eq
      rw [ran] at queue ⊢
      obtain rfl : segments = [] := by simpa [TCPSender.transmitted] using queue
      have noFin : s.finFits s.allowance = false := by
        rw [← Bool.toNat_eq_zero]
        simp only [Tiling.span] at total
        omega
      simp [TCPSender.transmitted, noFin, Tiling.span]

theorem fillWindow_error (s : TCPSender) : s.fillWindow.stream.error = s.stream.error := by
  have rounds : KeptByRounds (fun s' => s'.stream.error = s.stream.error) := by
    refine ⟨fun s segment windowZeroFlag _ same => ?_, fun _ _ _ => id, fun _ => id⟩
    unfold sendSegment
    dsimp only
    split <;> exact same
  exact rounds.fillWindow rfl

/-- Progress shows when the SYN, or everything up to the FIN, becomes acknowledged. -/
theorem progress_max_iff {nextSeqno lastAckno newAckno : Nat} (finSent : Bool)
    (started : nextSeqno ≠ 0) (acked : lastAckno ≤ nextSeqno) (possible : newAckno ≤ nextSeqno) :
    progress nextSeqno (max lastAckno newAckno) finSent = progress nextSeqno lastAckno finSent ↔
      (lastAckno = 0 → newAckno = 0) ∧
        (finSent = true → newAckno = nextSeqno → lastAckno = nextSeqno) := by
  unfold progress
  rw [if_neg started, if_neg started]
  by_cases unacked : lastAckno = 0
  · by_cases same : newAckno = 0
    · simp [unacked, same, started.symm]
    · simp only [unacked, Nat.zero_max, same, if_false, if_true]
      split_ifs <;> simp
  rw [if_neg unacked, if_neg (by omega)]
  cases finSent with
  | false => simp [unacked]
  | true =>
      have caught : max lastAckno newAckno = nextSeqno ↔
          lastAckno = nextSeqno ∨ newAckno = nextSeqno := by omega
      rw [if_neg Bool.noConfusion]
      by_cases before : lastAckno = nextSeqno
      · rw [if_pos (caught.mpr (Or.inl before)), if_pos before]
        exact iff_of_true rfl ⟨fun none => absurd none unacked, fun _ _ => before⟩
      by_cases now : newAckno = nextSeqno
      · rw [if_pos (caught.mpr (Or.inr now)), if_neg before]
        exact iff_of_false TCPSenderStateSummary.noConfusion fun same => before (same.2 rfl now)
      · rw [if_neg fun both => (caught.mp both).elim before now, if_neg before]
        exact iff_of_true rfl ⟨fun none => absurd none unacked, fun _ all => absurd all now⟩

/-- When an acknowledgment neither queues anything nor changes the summary. -/
theorem Accounted.ackReceived_unchanged_iff (accounted : Accounted isn written firsts s)
    (noError : s.stream.error = false) (ackno : WrappingInt32) (windowSize : UInt16) :
    ((s.ackReceived ackno windowSize).segmentsOut = s.segmentsOut ∧
      (s.ackReceived ackno windowSize).stateSummary = s.stateSummary) ↔
      s.AckUnnoticed ackno windowSize := by
  have acked := accounted.acked
  rw [AckUnnoticed, ackReceived_eq]
  split
  · rename_i ignored
    exact iff_of_true ⟨rfl, rfl⟩ (ignored.imp_right Or.inl)
  · rename_i accepted
    obtain ⟨started, notBeyond⟩ := not_or.mp accepted
    rw [or_iff_right started, or_iff_right notBeyond]
    generalize unwrap ackno s.isn s.lastAckno = newAckno at *
    have possible := Nat.not_lt.mp notBeyond
    have accounted' := accounted.acknowledge started possible windowSize.toNat
    have core := s.acknowledge_core newAckno windowSize.toNat
    rw [← s.acknowledge_segmentsOut newAckno windowSize.toNat, accounted'.fillWindow_queue_iff,
      hasNothingToSend_acknowledge_iff started, ← and_assoc, and_comm (b := _ ∨ _)]
    refine and_congr_right fun nothing => ?_
    obtain ⟨next, last, fin⟩ := accounted'.fillWindow_progress
      ((hasNothingToSend_acknowledge_iff started ..).mpr nothing)
    obtain ⟨_, accounted'', _⟩ := accounted'.fillWindow
    rw [core.nextSeqno] at next
    rw [core.lastAckno] at last
    rw [core.finSent] at fin
    rw [accounted''.stateSummary_eq (by rw [fillWindow_error, core.stream]; exact noError),
      accounted.stateSummary_eq noError, next, last, fin]
    exact progress_max_iff s.finSent started acked possible

end TCPSender

namespace TCPConnection

variable {c c' : TCPConnection} {segment : TCPSegment}

theorem length_eq_zero_iff (noSyn : segment.header.syn = false) :
    segment.lengthInSequenceSpace = 0 ↔ segment.payload = [] ∧ segment.header.fin = false := by
  cases fin : segment.header.fin <;> simp [TCPSegment.lengthInSequenceSpace, noSyn, fin]

/-- No segment is emitted, and `state()` and the linger flag stay. -/
structure Unchanged (c c' : TCPConnection) : Prop where
  queue : c'.segmentsOut = c.segmentsOut
  state : c'.state = c.state
  linger : c'.lingerAfterStreamsFinish = c.lingerAfterStreamsFinish

/-- The connection is over, or the segment is empty and its acknowledgment not noticed. -/
def Undisturbed (c : TCPConnection) (segment : TCPSegment) : Prop :=
  c.active = false ∨ segment.payload = [] ∧ segment.header.fin = false ∧
    (segment.header.ack = true →
      c.sender.AckUnnoticed segment.header.ackno segment.header.win)

/-- What holds between calls before the SYN. -/
structure Unstarted (c : TCPConnection) : Prop where
  accounted : ∃ isn written firsts, Accounted isn written firsts c.sender
  flushed : c.sender.segmentsOut = []
  unstarted : c.receiver.synRecived = false
  isOpen : c.inboundStream.inputEnded = false

/-- Before the SYN nothing is delivered. -/
theorem open_of_reaches {cfg : TCPConfig} {random : UInt32}
    (reached : Reaches step Always (new cfg random) c) (unstarted : c.receiver.synRecived = false) :
    c.inboundStream.inputEnded = false := by
  refine reached.invariant (fun c => c.receiver.synRecived = false →
    c.inboundStream.inputEnded = false) (fun _ => rfl) ?_ unstarted
  intro c event c' before _ next unstarted
  have moves := moves_of_step next
  rw [inboundStream]
  generalize c'.receiver = r' at *
  cases moves with
  | stay _ => exact before unstarted
  | error _ => exact before unstarted
  | read _ => exact before unstarted
  | arrive _ _ received =>
      obtain rfl := TCPReceiver.segmentReceived_unstarted received unstarted
      exact before unstarted

theorem unstarted_of_reaches {cfg : TCPConfig} {random : UInt32}
    (reached : Reaches step Always (new cfg random) c) (unstarted : c.receiver.synRecived = false) :
    Unstarted c := by
  obtain ⟨written, firsts, settled⟩ := settled_of_reaches reached
  refine ⟨⟨_, _, _, settled.toAccounted⟩, ?_, unstarted, open_of_reaches reached unstarted⟩
  exact reached.invariant (fun c => c.sender.segmentsOut = []) rfl
    fun _ _ _ flushed _ next => flushed_of_step flushed next

/-- While the inbound stream is open only an error ends the connection. -/
theorem active_of_open (isOpen : c.inboundStream.inputEnded = false) :
    c.active = true ↔ c.outboundStream.error = false ∧ c.inboundStream.error = false := by
  refine active_of_not_eof fun finished => ?_
  rw [((ByteStream.eof_iff _).mp finished.2).2] at isOpen
  cases isOpen

theorem Unstarted.received (unstarted : Unstarted c) (noSyn : segment.header.syn = false)
    (noRst : segment.header.rst = false) (isActive : c.active = true) :
    c.step (.segmentReceived segment) = some (c.handled segment c.receiver) := by
  rw [step, segmentReceived_eq isActive noRst,
    TCPReceiver.segmentReceived_of_ignored ⟨unstarted.unstarted, noSyn⟩]
  rfl

/-- The sender after the acknowledgment, if any. -/
def acked (c : TCPConnection) (segment : TCPSegment) : TCPSender :=
  if segment.header.ack = true then c.sender.ackReceived segment.header.ackno segment.header.win
  else c.sender

/-- An empty segment without SYN only hands its acknowledgment to the sender. -/
theorem Unstarted.handled_of_empty (unstarted : Unstarted c)
    (noSyn : segment.header.syn = false) (empty : segment.payload = [])
    (noFin : segment.header.fin = false) :
    c.handled segment c.receiver =
      { c with
        timeSinceLastSegmentReceived := 0
        sender := c.acked segment }.popAndSendSegments := by
  have length := (length_eq_zero_iff noSyn).mpr ⟨empty, noFin⟩
  have noAckno : c.receiver.ackno = none := if_pos unstarted.unstarted
  simp [handled, acked, respond, isKeepAlive, length, noAckno, noFin]

theorem acked_error (c : TCPConnection) (segment : TCPSegment) :
    (c.acked segment).stream.error = c.sender.stream.error := by
  unfold acked
  split
  · rw [ackReceived_eq]
    split
    · rfl
    · rw [fillWindow_error, (c.sender.acknowledge_core _ _).stream]
  · rfl

/-- What is handled of an empty segment goes unnoticed exactly if its acknowledgment does. -/
theorem Unstarted.unchanged_iff_of_empty (unstarted : Unstarted c) (isActive : c.active = true)
    (noSyn : segment.header.syn = false) (empty : segment.payload = [])
    (noFin : segment.header.fin = false) :
    Unchanged c (c.handled segment c.receiver) ↔
      (c.acked segment).segmentsOut = c.sender.segmentsOut ∧
        (c.acked segment).stateSummary = c.sender.stateSummary := by
  obtain ⟨noError, noError'⟩ := (active_of_open unstarted.isOpen).mp isActive
  rw [unstarted.handled_of_empty noSyn empty noFin]
  generalize after : { c with
    timeSinceLastSegmentReceived := 0, sender := c.acked segment }.popAndSendSegments = c'
  have sender : c'.sender.stateSummary = (c.acked segment).stateSummary := by rw [← after]; rfl
  have receiver : c'.receiver = c.receiver := by rw [← after]; rfl
  have linger : c'.lingerAfterStreamsFinish = c.lingerAfterStreamsFinish := by rw [← after]; rfl
  have isActive' : c'.active = true := by
    rw [active_of_open (by rw [inboundStream, receiver]; exact unstarted.isOpen), inboundStream,
      receiver, ← after]
    exact ⟨(c.acked_error segment).trans noError, noError'⟩
  have queue : c'.segmentsOut = c.segmentsOut ↔
      (c.acked segment).segmentsOut = c.sender.segmentsOut := by
    rw [unstarted.flushed, ← after]
    exact popAndSendSegments_queue_iff _
  constructor
  · intro unchanged
    have summary := congrArg TCPState.sender unchanged.state
    exact ⟨queue.mp unchanged.queue, sender.symm.trans summary⟩
  · rintro ⟨same, summary⟩
    refine ⟨queue.mpr same, ?_, linger⟩
    rw [state, state, TCPState.new, TCPState.new, sender, summary, receiver, isActive', isActive,
      linger]

/-- One segment without SYN and RST changes nothing exactly if it leaves the connection alone. -/
theorem Unstarted.unchanged_iff (unstarted : Unstarted c) (noSyn : segment.header.syn = false)
    (noRst : segment.header.rst = false)
    (next : c.step (.segmentReceived segment) = some c') :
    Unchanged c c' ↔ c.Undisturbed segment := by
  rw [Undisturbed]
  cases isActive : c.active with
  | false =>
      cases received_of_segmentReceived next with
      | ignored _ => exact iff_of_true ⟨rfl, rfl, rfl⟩ (Or.inl rfl)
      | reset active _ => exact absurd (isActive.symm.trans active) Bool.false_ne_true
      | handled active => exact absurd (isActive.symm.trans active) Bool.false_ne_true
  | true =>
      rw [unstarted.received noSyn noRst isActive] at next
      cases next
      rw [or_iff_right Bool.noConfusion]
      by_cases length : segment.lengthInSequenceSpace = 0
      · have empty := (length_eq_zero_iff noSyn).mp length
        rw [unstarted.unchanged_iff_of_empty isActive noSyn empty.1 empty.2, and_iff_right empty.1,
          and_iff_right empty.2]
        obtain ⟨isn, written, firsts, accounted⟩ := unstarted.accounted
        have noError := ((active_of_open unstarted.isOpen).mp isActive).1
        unfold acked
        split
        · rename_i isAck
          rw [accounted.ackReceived_unchanged_iff noError, forall_prop_of_true isAck]
        · rename_i noAck
          exact iff_of_true ⟨rfl, rfl⟩ fun isAck => absurd isAck noAck
      · -- whatever takes up sequence numbers is answered
        refine iff_of_false (fun unchanged => ?_) fun empty => length ?_
        · exact handled_emits c c.receiver length unchanged.queue
        · exact (length_eq_zero_iff noSyn).mpr ⟨empty.1, empty.2.1⟩

/-- Such a segment is handled without an exception, and the SYN is still awaited. -/
theorem Unstarted.exists_step (unstarted : Unstarted c) (noSyn : segment.header.syn = false)
    (noRst : segment.header.rst = false) :
    ∃ c', c.step (.segmentReceived segment) = some c' ∧ c'.receiver = c.receiver := by
  cases isActive : c.active with
  | false => exact ⟨c, if_pos isActive, rfl⟩
  | true => exact ⟨_, unstarted.received noSyn noRst isActive, rfl⟩

/-- A segment without SYN and RST arrives and leaves the connection alone. -/
def ArrivesUndisturbed (c : TCPConnection) : Event → Prop
  | .segmentReceived segment =>
      segment.header.syn = false ∧ segment.header.rst = false ∧ c.Undisturbed segment
  | _ => False

theorem Unchanged.trans {c'' : TCPConnection} (first : Unchanged c c')
    (second : Unchanged c' c'') : Unchanged c c'' :=
  ⟨second.queue.trans first.queue, second.state.trans first.state,
    second.linger.trans first.linger⟩

/--
Before the peer's SYN, segments without SYN and RST that leave the connection
alone emit nothing and change neither `state()` nor the linger flag, in any
number; and a segment leaves it so exactly if the connection is over, or it
carries no payload and no FIN and its acknowledgment goes unnoticed.
-/
theorem unchanged_before_syn_iff {cfg : TCPConfig} {random : UInt32}
    (reached : Reaches Sponge.TCPConnection.step Always (new cfg random) c)
    (unstarted : c.receiver.synRecived = false) :
    (∀ later, Reaches Sponge.TCPConnection.step ArrivesUndisturbed c later → Unchanged c later) ∧
      ∀ segment : TCPSegment, segment.header.syn = false → segment.header.rst = false →
        ∃ c', c.step (.segmentReceived segment) = some c' ∧
          (Unchanged c c' ↔ c.Undisturbed segment) := by
  constructor
  · intro later run
    refine (run.invariant (fun later => Reaches Sponge.TCPConnection.step Always (new cfg random)
      later ∧ later.receiver.synRecived = false ∧ Unchanged c later)
      ⟨reached, unstarted, rfl, rfl, rfl⟩ ?_).2.2
    intro state event final holds permitted next
    obtain ⟨reached', unstarted', same⟩ := holds
    have before := unstarted_of_reaches reached' unstarted'
    cases event with
    | segmentReceived segment =>
        obtain ⟨noSyn, noRst, undisturbed⟩ := permitted
        obtain ⟨final', next', receiver⟩ := before.exists_step noSyn noRst
        obtain rfl : final' = final := Option.some.inj (next'.symm.trans next)
        exact ⟨reached'.tail _ trivial next, by rw [receiver]; exact unstarted',
          same.trans ((before.unchanged_iff noSyn noRst next).mpr undisturbed)⟩
    | write _ | endInputStream | connect | tick _ | read _ | dequeue => exact permitted.elim
  · intro segment noSyn noRst
    have before := unstarted_of_reaches reached unstarted
    obtain ⟨c', next, _⟩ := before.exists_step noSyn noRst
    exact ⟨c', next, before.unchanged_iff noSyn noRst next⟩

/-- A listening connection takes no notice of an acknowledgment. -/
theorem unchanged_before_syn_iff_listening :
    ∃ c', (new {} 0).step
        (.segmentReceived { header := { seqno := ⟨9⟩, ack := true, ackno := ⟨5⟩, win := 10 } }) =
          some c' ∧ Unchanged (new {} 0) c' := by
  obtain ⟨c', next, exactly⟩ := (unchanged_before_syn_iff (c := new {} 0) .refl rfl).2
    { header := { seqno := ⟨9⟩, ack := true, ackno := ⟨5⟩, win := 10 } } rfl rfl
  exact ⟨c', next, exactly.mpr (Or.inr ⟨rfl, rfl, fun _ => Or.inl rfl⟩)⟩

/-- A byte sent to a listening connection is answered with a SYN. -/
theorem byte_before_syn_answered :
    ¬ ∀ (cfg : TCPConfig) (random : UInt32) (c : TCPConnection),
      Reaches Sponge.TCPConnection.step Always (new cfg random) c →
      c.receiver.synRecived = false →
      ∀ segment : TCPSegment, segment.header.syn = false → segment.header.rst = false →
        ∀ c', c.step (.segmentReceived segment) = some c' → Unchanged c c' := by
  intro unchanged
  exact absurd (unchanged {} 0 _ .refl rfl { header := { seqno := ⟨0⟩ }, payload := [97] } rfl rfl
    _ rfl).queue (by decide)

end TCPConnection

end Sponge
