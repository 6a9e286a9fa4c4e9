import Sponge.Connection.Linger
import Sponge.Reception.Output
import Sponge.Transmission.Summary

/-!
# The diagram of the states

A state has one of the official names when the summaries of the sender and the
receiver and the two bits of the connection are those the name stands for.  Most
of what a connection goes through has no name; but the names it does go through
come in the order of the arrows of the specification, whatever arrives and
whatever the application does.  Only a connection closed after TIME_WAIT goes back
there, if it is ticked until the 64-bit time since the last segment wraps.
-/

namespace Sponge

open TCPSender

namespace TCPState

namespace State

/-- The arrows of the diagram, with a reset from every state that is not over. -/
def arrows : State → List State
  | .listen => [.synRcvd, .synSent, .reset]
  | .synSent => [.synRcvd, .established, .reset]
  | .synRcvd => [.established, .finWait1, .reset]
  | .established => [.finWait1, .closeWait, .reset]
  | .closeWait => [.lastAck, .reset]
  | .lastAck => [.closed, .reset]
  | .finWait1 => [.finWait2, .closing, .timeWait, .reset]
  | .finWait2 => [.timeWait, .reset]
  | .closing => [.timeWait, .reset]
  | .timeWait => [.closed, .reset]
  | .closed => []
  | .reset => []

/-- There is a way along the arrows. -/
def Precedes : State → State → Prop := Relation.ReflTransGen fun first next => next ∈ first.arrows

/-- The states within a number of arrows. -/
def within : Nat → State → List State
  | 0, state => [state]
  | count + 1, state => state :: state.arrows.flatMap (within count)

theorem precedes_of_mem_within (count : Nat) {first last : State}
    (near : last ∈ within count first) : Precedes first last := by
  induction count generalizing first with
  | zero =>
      rw [List.mem_singleton.mp near]
      exact .refl
  | succ count ih =>
      rcases List.mem_cons.mp near with rfl | further
      · exact .refl
      · obtain ⟨next, arrow, nearer⟩ := List.mem_flatMap.mp further
        exact (Relation.ReflTransGen.single arrow).trans (ih nearer)

end State

/-- What a connection has left behind, as a number. -/
def rankSender : TCPSenderStateSummary → Nat
  | .closed => 0
  | .synSent => 1
  | .synAcked => 2
  | .finSent => 3
  | .finAcked => 4
  | .error => 5

def rankReceiver : TCPReceiverStateSummary → Nat
  | .listen => 0
  | .synRecv => 1
  | .finRecv => 2
  | .error => 3

/--
A later state: the summaries have not gone back, the linger bit is not set again, and
it is not cleared any more once the FIN is sent; a closed connection stays closed.
-/
def NotBefore (first last : TCPState) : Prop :=
  rankSender first.sender ≤ rankSender last.sender ∧
    rankReceiver first.receiver ≤ rankReceiver last.receiver ∧
    (first.active = true → last.lingerAfterStreamsFinish = true →
      first.lingerAfterStreamsFinish = true) ∧
    (first.active = true → last.active = true → 3 ≤ rankSender first.sender →
      rankSender first.sender ≤ 4 →
      last.lingerAfterStreamsFinish = first.lingerAfterStreamsFinish) ∧
    (first = ofState .closed → last = ofState .closed)

instance (first last : TCPState) : Decidable (NotBefore first last) :=
  inferInstanceAs (Decidable (_ ∧ _))

theorem eq_closed_of_ofState_eq {state : State} (closed : ofState state = ofState .closed) :
    state = .closed := by
  revert closed
  cases state <;> decide

/-- Of two official states, the later one can be reached along the arrows. -/
theorem precedes_of_notBefore {first last : State}
    (notBefore : NotBefore (ofState first) (ofState last)) : first.Precedes last := by
  apply State.precedes_of_mem_within 7
  revert notBefore
  cases first <;> cases last <;> decide

end TCPState

/-! ## The sender does not go back -/

namespace TCPSender

/-- What was sent, acknowledged or finished stays so, and an error stays. -/
structure Onward (s s' : TCPSender) : Prop where
  nextSeqno : s.nextSeqno ≤ s'.nextSeqno
  lastAckno : s.lastAckno ≤ s'.lastAckno
  fin : s.finSent = true → s'.finSent = true ∧ s'.nextSeqno = s.nextSeqno
  error : s.stream.error = true → s'.stream.error = true

variable {isn : WrappingInt32} {written : Bytes} {firsts : List TCPSegment} {s s' s'' : TCPSender}

theorem Onward.refl (s : TCPSender) : Onward s s := ⟨le_rfl, le_rfl, fun sent => ⟨sent, rfl⟩, id⟩

theorem Onward.trans (first : Onward s s') (second : Onward s' s'') : Onward s s'' where
  nextSeqno := first.nextSeqno.trans second.nextSeqno
  lastAckno := first.lastAckno.trans second.lastAckno
  fin sent := by
    obtain ⟨sent', same⟩ := first.fin sent
    obtain ⟨sent'', same'⟩ := second.fin sent'
    exact ⟨sent'', same'.trans same⟩
  error := second.error ∘ first.error

theorem SameCore.onward (same : SameCore s s') : Onward s s' where
  nextSeqno := same.nextSeqno.ge
  lastAckno := same.lastAckno.ge
  fin sent := ⟨same.finSent.trans sent, same.nextSeqno⟩
  error failed := by rwa [same.stream]

theorem onward_withStream {stream : ByteStream}
    (error : s.stream.error = true → stream.error = true) :
    Onward s { s with stream := stream } :=
  ⟨le_rfl, le_rfl, fun sent => ⟨sent, rfl⟩, error⟩

theorem Accounted.onward_fillWindow (accounted : Accounted isn written firsts s) :
    Onward s s.fillWindow := by
  obtain ⟨segments, _, sends⟩ := accounted.fillWindow
  obtain ⟨taken, stream_eq⟩ := sends.stream
  refine ⟨?_, sends.lastAckno.ge, fun sent => ?_, fun failed => ?_⟩
  · rw [sends.nextSeqno]
    exact Nat.le_add_right _ _
  · rw [fillWindow_of_finSent sent]
    exact ⟨sent, rfl⟩
  · rw [stream_eq]
    exact failed

theorem Accounted.onward_ackReceived (accounted : Accounted isn written firsts s)
    (ackno : WrappingInt32) (windowSize : UInt16) : Onward s (s.ackReceived ackno windowSize) := by
  rcases accounted.ackReceived_cases ackno windowSize with ignored | ⟨_, accepted, accounted'⟩
  · rw [ignored]
    exact .refl s
  · rw [accepted]
    have core := s.acknowledge_core (unwrap ackno s.isn s.lastAckno) windowSize.toNat
    refine Onward.trans ?_ accounted'.onward_fillWindow
    refine ⟨core.nextSeqno.ge, ?_, fun sent => ⟨core.finSent.trans sent, core.nextSeqno⟩, ?_⟩
    · rw [core.lastAckno]
      exact le_max_left _ _
    · rw [core.stream]
      exact id

/-- More sent and more acknowledged is more progress, if nothing is sent after the FIN. -/
theorem rankSender_progress_le {sent sent' acked acked' : Nat} {fin fin' : Bool}
    (within : acked ≤ sent) (within' : acked' ≤ sent') (grown : sent ≤ sent')
    (later : acked ≤ acked') (last : fin = true → fin' = true ∧ sent' = sent) :
    TCPState.rankSender (progress sent acked fin) ≤
      TCPState.rankSender (progress sent' acked' fin') := by
  cases fin with
  | false =>
      unfold progress
      split_ifs <;> first | decide | omega | contradiction
  | true =>
      obtain ⟨rfl, rfl⟩ := last rfl
      unfold progress
      split_ifs <;> first | decide | omega

theorem rankSender_le (accounted : Accounted isn written firsts s) {written' : Bytes}
    {firsts' : List TCPSegment} (accounted' : Accounted isn written' firsts' s')
    (onward : Onward s s') :
    TCPState.rankSender s.stateSummary ≤ TCPState.rankSender s'.stateSummary := by
  cases failed' : s'.stream.error with
  | true =>
      have last : s'.stateSummary = .error := if_pos failed'
      rw [last]
      cases s.stateSummary <;> decide
  | false =>
      have failed : s.stream.error = false := by
        by_contra failed
        exact absurd (failed'.symm.trans (onward.error (by simpa using failed)))
          Bool.false_ne_true
      rw [accounted.stateSummary_eq failed, accounted'.stateSummary_eq failed']
      exact rankSender_progress_le accounted.acked accounted'.acked onward.nextSeqno
        onward.lastAckno onward.fin

end TCPSender

namespace TCPConnection

/-- No call on a connection takes its sender back. -/
theorem steady_onward (isn : WrappingInt32) (first : TCPSender) :
    Steady fun s => (∃ written firsts, Settled isn written firsts s) ∧ Onward first s where
  fillWindow s := by
    rintro ⟨⟨written, firsts, settled⟩, onward⟩
    exact ⟨(steady_settled isn).fillWindow s ⟨_, _, settled⟩,
      onward.trans settled.onward_fillWindow⟩
  ackReceived s ackno windowSize := by
    rintro ⟨⟨written, firsts, settled⟩, onward⟩
    exact ⟨(steady_settled isn).ackReceived s ackno windowSize ⟨_, _, settled⟩,
      onward.trans (settled.onward_ackReceived ackno windowSize)⟩
  sendEmptySegment s := by
    rintro ⟨settled, onward⟩
    exact ⟨(steady_settled isn).sendEmptySegment s settled,
      onward.trans s.sendEmptySegment_spec.1.onward⟩
  write s data := by
    rintro ⟨⟨written, firsts, settled⟩, onward⟩
    refine ⟨(steady_settled isn).write s data ⟨_, _, settled⟩, onward.trans ?_⟩
    refine Onward.trans ?_ (settled.toAccounted.write data).onward_fillWindow
    exact onward_withStream fun failed => (s.stream.write_error data).trans failed
  tick s msSinceLastTick := by
    rintro ⟨settled, onward⟩
    exact ⟨(steady_settled isn).tick s msSinceLastTick settled,
      onward.trans (s.tick_spec msSinceLastTick).1.onward⟩
  requeue s queue := by
    rintro ⟨settled, onward⟩
    exact ⟨(steady_settled isn).requeue s queue settled,
      onward.trans ⟨le_rfl, le_rfl, fun sent => ⟨sent, rfl⟩, id⟩⟩
  setError s := by
    rintro ⟨settled, onward⟩
    exact ⟨(steady_settled isn).setError s settled, onward.trans (onward_withStream fun _ => rfl)⟩

/-! ## The connection does not go back -/

/-- What a connection has heard and done stays so. -/
structure Onward (c c' : TCPConnection) : Prop where
  sender : TCPSender.Onward c.sender c'.sender
  recived : c.receiver.synRecived = true → c'.receiver.synRecived = true
  inboundEnded : c.inboundStream.inputEnded = true → c'.inboundStream.inputEnded = true
  inboundError : c.inboundStream.error = true → c'.inboundStream.error = true
  linger : c'.lingerAfterStreamsFinish = true → c.lingerAfterStreamsFinish = true
  /-- The linger is decided while the outbound stream is open. -/
  decided : c.outboundStream.inputEnded = true →
    c'.outboundStream.inputEnded = true ∧
      c'.lingerAfterStreamsFinish = c.lingerAfterStreamsFinish

variable {c c' c'' : TCPConnection} {event : Event}

theorem inboundKept_inputEnded : InboundKept fun stream => stream.inputEnded = true where
  write stream data ended := (stream.write_inputEnded data).trans ended
  endInput _ _ := rfl
  popOutput _ _ := id
  setError _ := id

theorem inboundKept_error : InboundKept fun stream => stream.error = true where
  write stream data failed := (stream.write_error data).trans failed
  endInput _ := id
  popOutput _ _ := id
  setError _ _ := rfl

theorem recived_of_step (next : c.step event = some c')
    (recived : c.receiver.synRecived = true) : c'.receiver.synRecived = true := by
  have moves := moves_of_step next
  generalize c'.receiver = r' at moves ⊢
  cases moves with
  | stay _ => exact recived
  | error _ => exact recived
  | read _ => exact recived
  | arrive _ _ received =>
      rw [TCPReceiver.segmentReceived, if_neg (by simp [recived])] at received
      obtain ⟨reassembler, _, rest⟩ := Option.bind_eq_some_iff.mp received
      cases rest
      exact recived

theorem onward_of_step {isn : WrappingInt32} {written : Bytes} {firsts : List TCPSegment}
    (settled : Settled isn written firsts c.sender) (next : c.step event = some c') :
    Onward c c' where
  sender := by
    refine ((steady_onward isn c.sender).step ⟨⟨_, _, settled⟩, .refl _⟩ (fun _ => ?_) next).2
    obtain ⟨_, settled', _⟩ := settled.endInput
    refine ⟨⟨_, _, settled'⟩, ?_⟩
    have ended : TCPSender.Onward c.sender { c.sender with stream := c.sender.stream.endInput } :=
      onward_withStream id
    exact ended.trans settled.toAccounted.endInput.onward_fillWindow
  recived := recived_of_step next
  inboundEnded := inboundKept_inputEnded.step next
  inboundError := inboundKept_error.step next
  linger lingers := by
    by_contra cleared
    have still := (linger_of_step next).mpr (.inl (by simpa using cleared))
    exact absurd (still.symm.trans lingers) Bool.false_ne_true
  decided ended := by
    refine ⟨outboundEnded_mono next ended, Bool.eq_iff_iff.mpr (not_iff_not.mp ?_)⟩
    rw [Bool.not_eq_true, Bool.not_eq_true, linger_of_step next]
    refine or_iff_left fun hears => ?_
    cases event with
    | segmentReceived segment => exact absurd (hears.2.2.2.symm.trans ended) Bool.false_ne_true
    | write _ | endInputStream | connect | tick _ | read _ | dequeue => exact hears

theorem Onward.trans (first : Onward c c') (second : Onward c' c'') : Onward c c'' where
  sender := first.sender.trans second.sender
  recived := second.recived ∘ first.recived
  inboundEnded := second.inboundEnded ∘ first.inboundEnded
  inboundError := second.inboundError ∘ first.inboundError
  linger := first.linger ∘ second.linger
  decided ended := by
    obtain ⟨ended', same⟩ := first.decided ended
    obtain ⟨ended'', same'⟩ := second.decided ended'
    exact ⟨ended'', same'.trans same⟩

theorem onward_of_reaches {cfg : TCPConfig} {random : UInt32}
    (reached : Reaches step Always (new cfg random) c) (later : Reaches step Always c c') :
    Onward c c' := by
  induction later with
  | refl => exact ⟨.refl _, id, id, id, id, fun ended => ⟨ended, rfl⟩⟩
  | tail event earlier _ next ih =>
      obtain ⟨_, _, settled⟩ := settled_of_reaches (reached.trans earlier)
      exact ih.trans (onward_of_step settled next)

/-! ## A closed connection stays closed -/

/-- Both streams are over, the FIN is acknowledged and nothing is waited for. -/
structure Over (c : TCPConnection) : Prop where
  finSent : c.sender.finSent = true
  idle : c.sender.segmentsOutstanding = []
  counted : c.sender.consecutiveRetransmissionsCount = 0
  outbound : c.outboundStream.eof = true ∧ c.outboundStream.error = false
  inbound : c.inboundStream.eof = true ∧ c.inboundStream.error = false
  gone : ¬ c.Lingers

theorem Over.inactive (isOver : Over c) : c.active = false := by
  rw [← Bool.not_eq_true, active_of_eof isOver.outbound.1 isOver.inbound.1]
  refine not_or.mpr ⟨not_not.mpr ?_, isOver.gone⟩
  rw [bytesInFlight, TCPSender.bytesInFlight, isOver.idle, queuedLength]

/-- What the application does to the outbound stream has no effect. -/
theorem Over.fillWindow (isOver : Over c) {stream : ByteStream}
    (same : stream.eof = true ∧ stream.error = false) :
    Over { c with
      sender := { c.sender with stream := stream }.fillWindow }.popAndSendSegments := by
  have nothing : { c.sender with stream := stream }.fillWindow =
      { c.sender with stream := stream } := fillWindow_of_finSent isOver.finSent
  rw [nothing]
  exact ⟨isOver.finSent, isOver.idle, isOver.counted, same, isOver.inbound, isOver.gone⟩

theorem Over.tick (isOver : Over c) {msSinceLastTick : Nat}
    (inTime : c.timeSinceLastSegmentReceived + msSinceLastTick < 2 ^ 64) :
    Over (c.tick msSinceLastTick) := by
  have same := (c.sender.tick_spec msSinceLastTick).1
  obtain ⟨counted, ran⟩ := tick_of_idle isOver.idle isOver.counted msSinceLastTick
  have stream : (c.sender.tick msSinceLastTick).stream = c.outboundStream := same.stream
  rw [ran, MachineInt.add64_of_lt inTime]
  refine ⟨same.finSent.trans isOver.finSent, same.segmentsOutstanding.trans isOver.idle, counted,
    ?_, isOver.inbound, fun lingers => isOver.gone ⟨lingers.1, ?_⟩⟩
  · change (c.sender.tick msSinceLastTick).stream.eof = true ∧
      (c.sender.tick msSinceLastTick).stream.error = false
    rw [stream]
    exact isOver.outbound
  · exact Nat.lt_of_le_of_lt (Nat.le_add_right _ _) lingers.2

theorem Over.step (isOver : Over c) (inTime : c.InTime event) (next : c.step event = some c') :
    Over c' := by
  cases event with
  | segmentReceived segment =>
      cases received_of_segmentReceived next with
      | ignored _ => exact isOver
      | reset isActive _ => exact absurd (isOver.inactive.symm.trans isActive) Bool.false_ne_true
      | handled isActive => exact absurd (isOver.inactive.symm.trans isActive) Bool.false_ne_true
  | write data =>
      cases next
      have ended := ((ByteStream.eof_iff _).mp isOver.outbound.1).2
      refine isOver.fillWindow ⟨?_, (ByteStream.write_error _ data).trans isOver.outbound.2⟩
      rw [c.sender.stream.write_of_ended data ended]
      exact isOver.outbound.1
  | endInputStream =>
      cases next
      have drained := ((ByteStream.eof_iff _).mp isOver.outbound.1).1
      exact isOver.fillWindow ⟨(ByteStream.eof_iff _).mpr ⟨drained, rfl⟩, isOver.outbound.2⟩
  | connect =>
      cases next
      exact isOver.fillWindow isOver.outbound
  | tick msSinceLastTick =>
      cases next
      exact isOver.tick inTime
  | read len =>
      cases next
      obtain ⟨drained, ended⟩ := (ByteStream.eof_iff _).mp isOver.inbound.1
      refine ⟨isOver.finSent, isOver.idle, isOver.counted, isOver.outbound, ⟨?_, isOver.inbound.2⟩,
        isOver.gone⟩
      refine (ByteStream.popOutput_eof_iff _ len).mpr ⟨?_, ended⟩
      rw [show c.receiver.reassembler.output.buffer = [] from drained]
      exact Nat.zero_le _
  | dequeue =>
      cases next
      exact ⟨isOver.finSent, isOver.idle, isOver.counted, isOver.outbound, isOver.inbound,
        isOver.gone⟩

/-- A sender whose FIN is acknowledged, by its summary. -/
theorem finSent_of_summary {isn : WrappingInt32} {written : Bytes} {firsts : List TCPSegment}
    (settled : Settled isn written firsts c.sender) (late : 3 ≤ TCPState.rankSender c.state.sender)
    (noError : TCPState.rankSender c.state.sender ≤ 4) :
    c.outboundStream.error = false ∧ c.sender.finSent = true := by
  have failed : c.sender.stream.error = false := by
    by_contra failed
    have last : c.state.sender = .error := if_pos (by simpa using failed)
    rw [last] at noError
    exact absurd noError (by decide)
  refine ⟨failed, ?_⟩
  by_contra notSent
  have summary : c.state.sender = _ := settled.stateSummary_eq failed
  rw [summary, progress] at late
  simp only [Bool.not_eq_true] at notSent
  rw [if_pos notSent] at late
  split_ifs at late <;> exact absurd late (by decide)

theorem finRecv_iff : c.state.receiver = .finRecv ↔
    c.inboundStream.error = false ∧ c.receiver.synRecived = true ∧
      c.inboundStream.inputEnded = true := by
  change c.receiver.stateSummary = _ ↔ _
  unfold TCPReceiver.stateSummary TCPReceiver.ackno
  simp only [inboundStream]
  split_ifs <;> simp_all

theorem rankReceiver_le (onward : Onward c c') :
    TCPState.rankReceiver c.state.receiver ≤ TCPState.rankReceiver c'.state.receiver := by
  have recived := onward.recived
  have ended := onward.inboundEnded
  have failed := onward.inboundError
  change TCPState.rankReceiver c.receiver.stateSummary ≤
    TCPState.rankReceiver c'.receiver.stateSummary
  unfold TCPReceiver.stateSummary TCPReceiver.ackno
  simp only [inboundStream] at ended failed
  split_ifs <;> first | decide | simp_all

/-- The official CLOSED: the streams are over and the connection is not active. -/
theorem closed_iff {isn : WrappingInt32} {written : Bytes} {firsts : List TCPSegment}
    (settled : Settled isn written firsts c.sender) :
    c.state = .ofState .closed ↔ Over c ∧ c.receiver.synRecived = true := by
  have started : c.sender.finSent = true → c.sender.nextSeqno ≠ 0 := by
    intro sent unsent
    exact absurd ((settled.fresh unsent).finSent.symm.trans sent) Bool.false_ne_true
  constructor
  · intro closed
    have sender : c.state.sender = .finAcked := congrArg TCPState.sender closed
    have receiver : c.state.receiver = .finRecv := congrArg TCPState.receiver closed
    have inactive : c.active = false := congrArg TCPState.active closed
    obtain ⟨noError, sent⟩ := finSent_of_summary settled (by rw [sender]; decide)
      (by rw [sender]; decide)
    obtain ⟨noError', recived, _⟩ := finRecv_iff.mp receiver
    obtain ⟨outbound, inbound, idle⟩ := eof_of_inactive inactive noError noError'
    have nothing := settled.bytesInFlight_eq_zero_iff_nil.mp idle
    refine ⟨⟨sent, nothing, ?_, ⟨outbound, noError⟩, ⟨inbound, noError'⟩, fun lingers => ?_⟩,
      recived⟩
    · by_contra running
      exact settled.counted (Nat.pos_of_ne_zero running) nothing
    · have isActive := (active_of_eof outbound inbound).mpr (.inr lingers)
      exact absurd (inactive.symm.trans isActive) Bool.false_ne_true
  · rintro ⟨isOver, recived⟩
    have idle : c.bytesInFlight = 0 := settled.bytesInFlight_eq_zero_iff_nil.mpr isOver.idle
    have sender : c.sender.stateSummary = .finAcked := by
      rw [settled.stateSummary_eq isOver.outbound.2, progress_eq_finAcked_iff started]
      exact ⟨isOver.finSent, settled.bytesInFlight_eq_zero_iff.mp idle⟩
    have receiver : c.receiver.stateSummary = .finRecv :=
      finRecv_iff.mpr ⟨isOver.inbound.2, recived, ((ByteStream.eof_iff _).mp isOver.inbound.1).2⟩
    rw [TCPConnection.state, TCPState.new, sender, receiver, isOver.inactive]
    rfl

/-- No run takes a connection back, and none in time takes it out of CLOSED. -/
theorem notBefore_of_reaches {cfg : TCPConfig} {random : UInt32}
    (reached : Reaches step Always (new cfg random) c) (later : Reaches step Always c c')
    (inTime : c.state = .ofState .closed → Reaches step InTime c c') :
    TCPState.NotBefore c.state c'.state := by
  obtain ⟨_, _, settled⟩ := settled_of_reaches reached
  obtain ⟨_, _, settled'⟩ := settled_of_reaches (reached.trans later)
  have onward := onward_of_reaches reached later
  refine ⟨rankSender_le settled.toAccounted settled'.toAccounted onward.sender,
    rankReceiver_le onward, fun isActive lingers => ?_, fun isActive isActive' late noError => ?_,
    fun closed => ?_⟩
  · have lingers' : (if c'.active then c'.lingerAfterStreamsFinish else false) = true := lingers
    have before := onward.linger (by
      split at lingers'
      · exact lingers'
      · cases lingers')
    exact (if_pos isActive).trans before
  · obtain ⟨_, sent⟩ := finSent_of_summary settled late noError
    obtain ⟨_, same⟩ := onward.decided (settled.finished sent).1
    exact ((if_pos isActive').trans same).trans (if_pos isActive).symm
  · obtain ⟨isOver, recived⟩ := (closed_iff settled).mp closed
    have stays : Over c' := (inTime closed).invariant Over isOver
      fun _ _ _ isOver inTime next => isOver.step inTime next
    exact (closed_iff settled').mpr ⟨stays, onward.recived recived⟩

/--
Whatever arrives and whatever the application does, if a connection is in the
official state `first` and later in the official state `last`, then there is a way
from `first` to `last` along the arrows of the specification.  From CLOSED this
asks that no tick makes the time since the last segment wrap.
-/
theorem states_follow_diagram {cfg : TCPConfig} {random : UInt32} {first last : TCPState.State}
    (reached : Reaches step Always (new cfg random) c) (later : Reaches step Always c c')
    (inTime : first = .closed → Reaches step InTime c c')
    (isFirst : c.state = .ofState first) (isLast : c'.state = .ofState last) :
    first.Precedes last := by
  have notBefore := notBefore_of_reaches reached later fun closed =>
    inTime (TCPState.eq_closed_of_ofState_eq (isFirst.symm.trans closed))
  rw [isFirst, isLast] at notBefore
  exact TCPState.precedes_of_notBefore notBefore

/-- Both sides open at once, and the connection is then reset. -/
theorem states_follow_diagram_simultaneous_open :
    ∃ c c', Reaches step Always (new { fixedIsn := some ⟨5⟩ } 0) c ∧ Reaches step Always c c' ∧
      c.state = .ofState .synRcvd ∧ c'.state = .ofState .reset ∧
      TCPState.State.Precedes .synRcvd .reset := by
  have opened : (execute step Always (new { fixedIsn := some ⟨5⟩ } 0)
      [fun _ => .connect,
        fun _ => .segmentReceived { header := { syn := true, seqno := ⟨100⟩, win := 8 } }]).any
      (fun c => decide (c.state = .ofState .synRcvd ∧
        (execute step Always c [fun _ => .segmentReceived { header := { rst := true } }]).any
          (fun c' => decide (c'.state = .ofState .reset)) = true)) = true := by decide
  obtain ⟨c, reached, isFirst, ran⟩ := exists_reaches opened
  obtain ⟨c', later, isLast⟩ := exists_reaches ran
  exact ⟨c, c', reached, later, isFirst, isLast,
    states_follow_diagram reached later nofun isFirst isLast⟩

end TCPConnection

end Sponge
