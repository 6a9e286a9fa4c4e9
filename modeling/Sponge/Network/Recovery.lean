import Sponge.Network.Answers
import Sponge.Network.Runs
import Sponge.Network.Sent
import Sponge.Reception.Output

/-!
# No loss is for good

However much has been lost, what one side has written can still reach the other: when
its timer expires the oldest outstanding segment is sent again, the other side takes
what is new in it and answers, and the answer removes the segment from the queue.  This
needs an attempt that is left, a sender that is not stranded and a checkpoint of the
receiver that is not far off.
-/

namespace Sponge

open TCPSender TCPReceiver

/-! ## What is sent from now on -/

open Endpoint

namespace Endpoint

/-- Neither stream of the endpoint has failed. -/
structure Healthy (e : Endpoint) : Prop where
  outbound : e.conn.outboundStream.error = false
  inbound : e.conn.inboundStream.error = false

theorem keeps_noError : ByteStream.Keeps fun stream => stream.error = false where
  write := fun _ _ noError => (ByteStream.write_error ..).trans noError
  endInput := fun _ noError => noError

theorem resilient_noError (segment : TCPSegment) :
    TCPConnection.Resilient segment fun s => s.stream.error = false where
  fillWindow := fun s noError => (fillWindow_error s).trans noError
  ackReceived := fun _ s noError => (s.ackReceived_error _ _).trans noError
  sendEmptySegment := fun s noError =>
    (congrArg ByteStream.error s.sendEmptySegment_spec.1.stream).trans noError

/-- A segment other than a RST that an active connection accepts does no harm. -/
theorem Healthy.receive {e : Endpoint} (healthy : Healthy e) (isActive : e.conn.active = true)
    {segment : TCPSegment} (noRst : segment.header.rst = false) {receiver : TCPReceiver}
    (received : e.conn.receiver.segmentReceived segment = some receiver) :
    e.receive segment = some { e with conn := e.conn.handled segment receiver } ∧
      Healthy { e with conn := e.conn.handled segment receiver } := by
  have called : e.receive segment = some { e with conn := e.conn.handled segment receiver } := by
    rw [Endpoint.receive, TCPConnection.segmentReceived_eq isActive noRst, received]
    rfl
  refine ⟨called, ?_, TCPReceiver.segmentReceived_output keeps_noError received healthy.inbound⟩
  refine (resilient_noError segment).handled receiver ?_
  unfold TCPConnection.acked
  split
  · exact (ackReceived_error _ _ _).trans healthy.outbound
  · exact healthy.outbound

/-- What was queued is on the wire, after what was there before. -/
theorem mem_transmitAll {e : Endpoint} {segment : TCPSegment} {count : Nat}
    (before : count ≤ e.wire.length) (queued : segment ∈ e.conn.segmentsOut) :
    segment ∈ e.transmitAll.wire.drop count := by
  rw [transmitAll, List.drop_append_of_le_length before]
  exact List.mem_append_right _ queued

/-- While an attempt is left, the oldest outstanding segment can be sent again. -/
theorem exists_resend {e : Endpoint} (wire : List TCPSegment) (armed : Armed e.conn.sender)
    (attempts : e.conn.sender.consecutiveRetransmissionsCount < TCPConfig.maxRetxAttempts)
    {oldest : Outstanding} {rest : List Outstanding}
    (queue : e.conn.sender.segmentsOutstanding = oldest :: rest) :
    ∃ e', RunsOn wire e e' ∧ e'.accepted = e.accepted ∧
      SameCore e.conn.sender e'.conn.sender ∧ e'.conn.receiver = e.conn.receiver ∧
      ∃ ackno winSize, ∀ count ≤ e.wire.length,
        TCPConnection.stamp ackno winSize oldest.segment ∈ e'.wire.drop count := by
  obtain ⟨msSinceLastTick, sent, count⟩ := armed.resends queue
  have few : ¬ (e.conn.sender.tick msSinceLastTick).consecutiveRetransmissionsCount >
      TCPConfig.maxRetxAttempts := by
    rw [TCPConfig.maxRetxAttempts] at attempts ⊢
    rcases count with more | equal
    · rw [more, MachineInt.add32]
      omega
    · rw [equal]
      omega
  have same := (e.conn.sender.tick_spec msSinceLastTick).1
  have runs : RunsOn wire e (e.act (.tick msSinceLastTick)).transmitAll :=
    (RunsOn.act .refl _).transmitAll
  rw [Endpoint.act, e.conn.tick_of_few few] at runs
  refine ⟨_, runs, rfl, ?_, rfl, e.conn.receiver.ackno, min e.conn.receiver.windowSize 65535,
    fun _ before => mem_transmitAll before ?_⟩
  · exact ⟨same.isn, same.stream, same.segmentsOutstanding, same.nextSeqno, same.lastAckno,
      same.windowSize, same.windowZeroValid, same.finSent⟩
  · refine List.mem_append_right _ (List.mem_map_of_mem ?_)
    rw [sent]
    exact List.mem_append_right _ (List.mem_singleton.mpr rfl)

section Delivery

variable {isn : WrappingInt32} {stream : Bytes} {closed : Prop} {capacity : Nat}
  {held : Nat → Option UInt8} {e : Endpoint}

/-- The application takes everything that is assembled. -/
def readAll (e : Endpoint) : Endpoint := e.act (.read e.conn.inboundStream.buffer.length)

theorem readAll_readBytes :
    e.readAll.readBytes = e.readBytes ++ e.conn.inboundStream.buffer := by
  change e.readBytes ++ e.conn.inboundStream.buffer.take _ = _
  rw [Nat.min_self, List.take_length]

theorem readAll_eof (ended : e.conn.inboundStream.inputEnded = true) :
    e.readAll.conn.inboundStream.eof = true :=
  (ByteStream.popOutput_eof_iff ..).mpr ⟨Nat.le_refl _, ended⟩

theorem readAll_window
    (sound : Sound isn stream closed capacity e.conn.receiver e.readBytes held) :
    e.readAll.conn.receiver.windowSize = capacity := by
  have capacity_eq := sound.refines.capacity_eq
  change e.conn.receiver.streamOut.capacity = capacity at capacity_eq
  change (e.conn.receiver.streamOut.popOutput _).remainingCapacity = capacity
  rw [ByteStream.remainingCapacity, ByteStream.popOutput_buffer, ByteStream.popOutput_capacity,
    capacity_eq, TCPConnection.inboundStream, Nat.min_self, List.drop_length, List.length_nil,
    Nat.sub_zero]

/-- Once the inbound stream is read, what comes next is taken and answered. -/
theorem exists_delivery {wire : List TCPSegment} (healthy : Healthy e)
    (sound : Sound isn stream closed capacity e.conn.receiver e.readBytes held)
    (half : stream.length + capacity + 2 < 2 ^ 31) (near : Near stream e.conn.receiver)
    (room : 0 < capacity) (notEnded : e.conn.inboundStream.inputEnded = false)
    (plain : Contains TCPConnection.Unanswered e.conn.sender) {position : Nat}
    {segment : TCPSegment} (transmits : Transmits isn stream closed position segment)
    (nonempty : segment.lengthInSequenceSpace ≠ 0) (noRst : segment.header.rst = false)
    (reached : position ≤ e.conn.receiver.absAckno)
    (atStart : position = 0 →
      e.conn.receiver.lastStreamNo = 0 ∨ e.conn.receiver.lastStreamNo = 2 ^ 64 - 1)
    {ackno : Option WrappingInt32} {winSize : Nat}
    (onWire : TCPConnection.stamp ackno winSize segment ∈ wire) :
    ∃ e', RunsOn wire e e' ∧ e'.accepted = e.accepted ∧ Healthy e' ∧
      Near stream e'.conn.receiver ∧
      (e.conn.receiver.absAckno < e'.conn.receiver.absAckno ∨
        position + segment.lengthInSequenceSpace ≤ e'.conn.receiver.absAckno) ∧
      ∃ answer : TCPSegment, (∀ count ≤ e.wire.length, answer ∈ e'.wire.drop count) ∧
        answer.header.ack = true ∧ answer.header.ackno = wrap e'.conn.receiver.absAckno isn ∧
        answer.header.rst = false := by
  obtain ⟨same, sound₁⟩ := act_sound sound (.read e.conn.inboundStream.buffer.length)
  have healthy₁ : Healthy e.readAll := ⟨healthy.outbound, healthy.inbound⟩
  obtain ⟨receiver, held', received, sound', near', taken⟩ := sound₁.takes half near
    (by rw [← readAll, readAll_window sound]; exact room) notEnded transmits
    (by rw [same]; exact reached) atStart ackno winSize
  rw [same] at taken
  have counted : receiver.absAckno ≠ 0 := by omega
  have recived : receiver.synRecived = true := by
    by_contra notYet
    exact counted (if_pos (by simpa using notYet))
  have stampedRst : (TCPConnection.stamp ackno winSize segment).header.rst = false := by
    rwa [TCPConnection.stamp_eq]
  obtain ⟨called, healthy'⟩ := healthy₁.receive
    (TCPConnection.active_of_not_ended healthy₁.outbound healthy₁.inbound notEnded) stampedRst
    received
  obtain ⟨answer, queued, isAck, placed, noRst'⟩ :=
    TCPConnection.handled_answers (c := e.readAll.conn)
      (TCPConnection.stamp_length.trans_ne nonempty)
      (sound'.ackno_eq (by omega) recived) plain
  refine ⟨_, ((RunsOn.act .refl _).receive onWire called).transmitAll, rfl,
    ⟨healthy'.outbound, healthy'.inbound⟩, near', taken, answer,
    fun count before => mem_transmitAll before queued, isAck, placed, noRst'⟩

end Delivery

end Endpoint

namespace Network

variable {cfg : Side → TCPConfig} {random : Side → UInt32} {n₀ n : Network} {side : Side}

/-- The segments put on the wire since the network was in the state `n₀`. -/
def wireSince (n₀ n : Network) (side : Side) : List TCPSegment :=
  (n side).wire.drop (n₀ side).wire.length

/-- Only what was put on the wire since then arrives: what was on it before is lost. -/
def Since (n₀ n : Network) : Move → Prop
  | .act _ _ => True
  | .deliver side segment => segment ∈ wireSince n₀ n side.peer

theorem carried_of_since {move : Move} (since : Since n₀ n move) : n.Carried move := by
  cases move with
  | act _ _ => trivial
  | deliver _ _ => exact List.mem_of_mem_drop since

theorem wire_length_le (later : Reaches step (Since n₀) n₀ n) (side : Side) :
    (n₀ side).wire.length ≤ (n side).wire.length := by
  refine later.invariant (fun n => ∀ side, (n₀ side).wire.length ≤ (n side).wire.length)
    (fun _ => Nat.le_refl _) (fun n move n' before _ next => ?_) side
  refine forall_of_step (P := fun side e => (n₀ side).wire.length ≤ e.wire.length) before
    (fun side action => ?_) (fun side segment e received => ?_) next
  · cases action with
    | transmit =>
        rw [Endpoint.act, List.length_append]
        exact (before side).trans (Nat.le_add_right _ _)
    | connect | write _ | endInputStream | tick _ | read _ => exact before side
  · obtain ⟨conn, _, rfl⟩ := received_of_receive received
    exact before side

/-- The states considered: the streams are as they were in `n₀`, and nothing has failed. -/
structure Underway (n₀ n : Network) (side : Side) : Prop where
  later : Reaches step (Since n₀) n₀ n
  accepted : ∀ other, (n other).accepted = (n₀ other).accepted
  ended : (n side).conn.outboundStream.inputEnded = (n₀ side).conn.outboundStream.inputEnded
  healthy : ∀ other, Healthy (n other)
  near : Near (n side).sent (n side.peer).conn.receiver
  unstuck : Unstuck (n side).conn.sender

/-- The sending side does something. -/
theorem Underway.source (underway : Underway n₀ n side) {e : Endpoint}
    (runs : RunsOn (wireSince n₀ n side.peer) (n side) e)
    (accepted : e.accepted = (n side).accepted)
    (ended : e.conn.outboundStream.inputEnded = (n side).conn.outboundStream.inputEnded)
    (healthy : Healthy e) (part : (n side).sent <+: e.sent) (unstuck : Unstuck e.conn.sender) :
    ∃ n', Reaches step (Since n₀) n n' ∧ Underway n₀ n' side ∧ n' side = e ∧
      n' side.peer = n side.peer := by
  have here : Function.update n side e side = e := Function.update_self ..
  have there : Function.update n side e side.peer = n side.peer :=
    Function.update_of_ne side.peer_ne ..
  have reached : Reaches step (Since n₀) n (Function.update n side e) := by
    refine reaches_of_runsOn (fun _ _ => trivial) (fun e' segment onWire => ?_) runs
    rw [Since, wireSince, Function.update_of_ne side.peer_ne]
    exact onWire
  refine ⟨_, reached, ⟨underway.later.trans reached, ?_, ?_, ?_, ?_, ?_⟩, here, there⟩
  · exact (Function.forall_update_iff n fun other e => e.accepted = (n₀ other).accepted).mpr
      ⟨accepted.trans (underway.accepted side), fun other _ => underway.accepted other⟩
  · rw [here, ended, underway.ended]
  · exact (Function.forall_update_iff n fun _ => Healthy).mpr
      ⟨healthy, fun other _ => underway.healthy other⟩
  · rw [here, there]
    exact underway.near.grow part
  · rwa [here]

/-- The receiving side does something. -/
theorem Underway.destination (underway : Underway n₀ n side) {e : Endpoint}
    (runs : RunsOn (wireSince n₀ n side) (n side.peer) e)
    (accepted : e.accepted = (n side.peer).accepted) (healthy : Healthy e)
    (near : Near (n side).sent e.conn.receiver) :
    ∃ n', Reaches step (Since n₀) n n' ∧ Underway n₀ n' side ∧ n' side = n side ∧
      n' side.peer = e := by
  have here : Function.update n side.peer e side.peer = e := Function.update_self ..
  have there : Function.update n side.peer e side = n side :=
    Function.update_of_ne side.peer_ne.symm ..
  have reached : Reaches step (Since n₀) n (Function.update n side.peer e) := by
    refine reaches_of_runsOn (fun _ _ => trivial) (fun e' segment onWire => ?_) runs
    rw [Since, wireSince, Side.peer_peer, Function.update_of_ne side.peer_ne.symm]
    exact onWire
  refine ⟨_, reached, ⟨underway.later.trans reached, ?_, ?_, ?_, ?_, ?_⟩, there, here⟩
  · exact (Function.forall_update_iff n fun other e => e.accepted = (n₀ other).accepted).mpr
      ⟨accepted.trans (underway.accepted side.peer), fun other _ => underway.accepted other⟩
  · rw [there, underway.ended]
  · exact (Function.forall_update_iff n fun _ => Healthy).mpr
      ⟨healthy, fun other _ => underway.healthy other⟩
  · rwa [here, there]
  · rw [there]
    exact underway.unstuck

/-- The peer has assembled all that `side` has accepted, and the end if there is one. -/
structure Delivered (n : Network) (side : Side) : Prop where
  bytes : (n side.peer).readBytes ++ (n side.peer).conn.inboundStream.buffer = (n side).accepted
  ended : (n side).Closed → (n side.peer).conn.inboundStream.inputEnded = true

/-! ## One exchange -/

section Exchange

variable (reached₀ : Reaches step Carried (fresh cfg random) n₀)
  (half : (n₀ side).accepted.length + (cfg side.peer).recvCapacity + 2 < 2 ^ 31)
  (back : (n₀ side.peer).accepted.length + (cfg side).recvCapacity + 2 < 2 ^ 32)
  (room : 0 < (cfg side.peer).recvCapacity) (underway : Underway n₀ n side)

include reached₀ underway in
theorem Underway.reached : Reaches step Carried (fresh cfg random) n :=
  reached₀.trans (underway.later.weaken fun _ _ => carried_of_since)

include reached₀ underway in
theorem Underway.traced : Traced cfg random n := traced_of_reaches (underway.reached reached₀)

include half underway in
theorem Underway.cycle : OneCycle cfg n side := by
  rw [OneCycle, underway.accepted]
  omega

include reached₀ underway in
theorem Underway.armed : Armed (n side).conn.sender := by
  refine (connection_of_reaches (underway.reached reached₀) side).invariant
    (fun c => Armed c.sender) ⟨fun some => absurd rfl some, ?_, ?_⟩ ?_
  · exact Nat.lt_trans (UInt16.toNat_lt _) (by decide)
  · exact Nat.lt_trans (UInt16.toNat_lt _) (by decide)
  · intro c event c' armed _ next
    refine TCPConnection.steady_armed.step armed (fun _ => ?_) next
    exact armed_rounds.fillWindow ⟨armed.running, armed.limit, armed.backup⟩

include reached₀ underway in
/-- The oldest outstanding segment is sent again. -/
theorem Underway.resend
    (attempts : (n side).conn.sender.consecutiveRetransmissionsCount < TCPConfig.maxRetxAttempts)
    {oldest : Outstanding} {rest : List Outstanding}
    (queue : (n side).conn.sender.segmentsOutstanding = oldest :: rest) :
    ∃ n', Reaches step (Since n₀) n n' ∧ Underway n₀ n' side ∧
      SameCore (n side).conn.sender (n' side).conn.sender ∧
      ∃ ackno winSize,
        TCPConnection.stamp ackno winSize oldest.segment ∈ wireSince n₀ n' side := by
  obtain ⟨e, runs, accepted, same, receiver, ackno, winSize, again⟩ :=
    exists_resend (wireSince n₀ n side.peer) (underway.armed reached₀) attempts queue
  have healthy := underway.healthy side
  obtain ⟨n', reached, underway', here, _⟩ := underway.source runs accepted
    (congrArg ByteStream.inputEnded same.stream)
    ⟨(congrArg ByteStream.error same.stream).trans healthy.outbound,
      (congrArg (·.streamOut.error) receiver).trans healthy.inbound⟩
    (by rw [sent, sent, sentPart, sentPart, same.stream, accepted])
    (underway.unstuck.congr same)
  refine ⟨n', reached, underway', by rwa [here], ackno, winSize, ?_⟩
  rw [wireSince, here]
  exact again _ (wire_length_le underway.later side)

include reached₀ underway in
/-- What a side remembers has neither an acknowledgment nor a RST. -/
theorem Underway.plain (other : Side) :
    Contains TCPConnection.Unanswered (n other).conn.sender := by
  have emitting := (underway.traced reached₀).emitting other
  obtain ⟨_, settled⟩ := emitting.sending.settled
  refine ⟨fun segment member => ?_, fun entry member => ⟨?_, ?_⟩⟩
  · rw [emitting.flushed] at member
    cases member
  · exact (settled.transmits _ (settled.toAccounted.mem_placements entry member)).noAck
  · exact TCPConnection.noRst_of_reaches
      (connection_of_reaches (underway.reached reached₀) other) entry member

include reached₀ half underway in
/-- While the SYN is outstanding nothing else has been sent, and the checkpoint is at the start. -/
theorem Underway.atStart {entry : Outstanding}
    (member : entry ∈ (n side).conn.sender.segmentsOutstanding) (first : entry.absSeqno = 0) :
    (n side.peer).conn.receiver.lastStreamNo = 0 ∨
      (n side.peer).conn.receiver.lastStreamNo = 2 ^ 64 - 1 := by
  have traced := underway.traced reached₀
  have early := (traced.paced side (underway.cycle half)).early
  obtain ⟨_, settled⟩ := (traced.emitting side).sending.settled
  have placed := settled.toAccounted.mem_placements entry member
  have unacked := settled.toAccounted.lastAckno_lt_stop member
  have bounded : entry.stop ≤ (n side).conn.sender.nextSeqno :=
    settled.toAccounted.stop_le placed
  have transmits : Transmits _ _ _ entry.absSeqno entry.segment := settled.transmits _ placed
  have one : entry.stop = 1 := by
    rw [Outstanding.stop, first]
    rw [first] at transmits
    cases transmits with
    | syn _ isSyn => rw [isSyn.length_eq]
  have only := (early (by omega) (by omega)).1
  have next : (n side).conn.sender.nextSeqno = (n side).sent.length + 1 + _ :=
    settled.nextSeqno_eq (by omega)
  rcases underway.near with inside | below
  · exact .inl (by omega)
  · exact .inr below

include reached₀ half room underway in
/-- The oldest outstanding segment arrives, and is answered. -/
theorem Underway.deliver {oldest : Outstanding} {rest : List Outstanding}
    (queue : (n side).conn.sender.segmentsOutstanding = oldest :: rest)
    {ackno : Option WrappingInt32} {winSize : Nat}
    (again : TCPConnection.stamp ackno winSize oldest.segment ∈ wireSince n₀ n side)
    (notEnded : (n side.peer).conn.inboundStream.inputEnded = false) :
    ∃ n', Reaches step (Since n₀) n n' ∧ Underway n₀ n' side ∧ n' side = n side ∧
      ((n side.peer).conn.receiver.absAckno < (n' side.peer).conn.receiver.absAckno ∨
        oldest.stop ≤ (n' side.peer).conn.receiver.absAckno) ∧
      ∃ answer ∈ wireSince n₀ n' side.peer, answer.header.ack = true ∧
        answer.header.ackno =
          wrap (n' side.peer).conn.receiver.absAckno (isn cfg random side) ∧
        answer.header.rst = false := by
  have traced := underway.traced reached₀
  have cycle := underway.cycle half
  have paced := traced.paced side cycle
  have acked := (traced.conveying side cycle).acked
  obtain ⟨held, sound⟩ := paced.sound
  obtain ⟨_, settled⟩ := (traced.emitting side).sending.settled
  have member : oldest ∈ (n side).conn.sender.segmentsOutstanding := by
    rw [queue]
    exact List.mem_cons_self
  have placed := settled.toAccounted.mem_placements oldest member
  have shorter := sent_length_le (n side)
  rw [underway.accepted] at shorter
  have started := settled.toAccounted.oldest_le queue
  obtain ⟨e, runs, accepted, healthy, near, taken, answer, onWire, isAnswer⟩ :=
    exists_delivery (underway.healthy side.peer) sound (by omega) underway.near room notEnded
      (underway.plain reached₀ side.peer) (settled.toAccounted.transmits_sent placed)
      (settled.nonempty _ (Tiling.bounds_of_mem_layout placed).2.2).ne'
      (((underway.plain reached₀ side).outstanding oldest member).2) (started.trans acked)
      (underway.atStart reached₀ half member) again
  obtain ⟨n', reached, underway', here, there⟩ :=
    underway.destination runs accepted healthy near
  refine ⟨n', reached, underway', here, by rwa [there], answer, ?_, by rwa [there]⟩
  rw [wireSince, there]
  exact onWire _ (wire_length_le underway.later side.peer)

include reached₀ half back underway in
/-- The answer arrives: the segment is acknowledged, and the attempts end. -/
theorem Underway.answered {oldest : Outstanding} {rest : List Outstanding}
    (queue : (n side).conn.sender.segmentsOutstanding = oldest :: rest) {answer : TCPSegment}
    (onWire : answer ∈ wireSince n₀ n side.peer) (isAck : answer.header.ack = true)
    (placed : answer.header.ackno =
      wrap (n side.peer).conn.receiver.absAckno (isn cfg random side))
    (noRst : answer.header.rst = false)
    (covers : oldest.stop ≤ (n side.peer).conn.receiver.absAckno) :
    ∃ n', Reaches step (Since n₀) n n' ∧ Underway n₀ n' side ∧
      (n' side).conn.sender.consecutiveRetransmissionsCount = 0 ∧
      (n side).conn.sender.lastAckno < (n' side).conn.sender.lastAckno := by
  have traced := underway.traced reached₀
  have emitting := traced.emitting side
  have paced := traced.paced side (underway.cycle half)
  obtain ⟨_, settled⟩ := emitting.sending.settled
  have member : oldest ∈ (n side).conn.sender.segmentsOutstanding := by
    rw [queue]
    exact List.mem_cons_self
  have unacked := settled.toAccounted.lastAckno_lt_stop member
  have possible := paced.absAckno_le emitting
  have limit := settled.nextSeqno_le
  rw [underway.accepted] at limit
  -- the answer means the position that the peer has reached
  have meant : unwrap answer.header.ackno (n side).conn.sender.isn
      (n side).conn.sender.lastAckno = (n side.peer).conn.receiver.absAckno := by
    rw [placed, settled.isn_eq]
    exact unwrap_of_near _ (by omega) (by omega) (.inl (by omega))
  obtain ⟨forward, none⟩ := settled.acked_oldest queue meant covers possible answer.header.win
  have healthy := underway.healthy side
  have isActive : (n side).conn.active = true := by
    refine TCPConnection.active_of_inFlight healthy.outbound healthy.inbound ?_
    change (n side).conn.sender.bytesInFlight ≠ 0
    rw [ne_eq, settled.toAccounted.bytesInFlight_eq_zero_iff_nil, queue]
    exact List.cons_ne_nil _ _
  have backCycle : OneCycle cfg n side.peer := by
    rw [OneCycle, Side.peer_peer, underway.accepted]
    exact back
  have backward := traced.paced side.peer backCycle
  rw [Side.peer_peer] at backward
  obtain ⟨held, sound⟩ := backward.sound
  have issued := (traced.emitting side.peer).issued answer
    (List.mem_append_right _ (List.mem_of_mem_drop onWire))
  have shorter := sent_length_le (n side.peer)
  rw [underway.accepted] at shorter
  obtain ⟨receiver, _, received, _⟩ := sound.segmentReceived (by omega) issued.genuine
  obtain ⟨called, healthy'⟩ := healthy.receive isActive noRst received
  have runs : RunsOn (wireSince n₀ n side.peer) (n side) _ := RunsOn.receive .refl onWire called
  have relieved : Relieved (isn cfg random side) (n side).accepted
      (n side).conn.outboundStream.inputEnded (n side.peer).conn.receiver.absAckno
      (((n side).conn.taken answer receiver).respond answer) := by
    refine (resilient_relieved _ _ _ _ _).handled receiver ?_
    rw [TCPConnection.acked_of_ack isAck]
    obtain ⟨_, settled', _, sameEnd⟩ :=
      settled.ackReceived answer.header.ackno answer.header.win
    exact ⟨⟨_, settled'⟩, forward, none, settled.unstuck_ackReceived underway.unstuck _ _,
      (ackReceived_error _ _ _).trans healthy.outbound, sameEnd⟩
  have furthers := (emitting.receive called).2.furthers
  obtain ⟨n', reached, underway', here, _⟩ := underway.source runs rfl relieved.inputEnded healthy'
    furthers.part (relieved.unstuck.congr ⟨rfl, rfl, rfl, rfl, rfl, rfl, rfl, rfl⟩)
  refine ⟨n', reached, underway', ?_, ?_⟩
  · rw [here]
    exact relieved.count
  · rw [here]
    exact Nat.lt_of_lt_of_le (Nat.lt_of_lt_of_le unacked covers) relieved.acked

end Exchange

/-! ## The whole stream -/

section Stream

variable (reached₀ : Reaches step Carried (fresh cfg random) n₀)
  (half : (n₀ side).accepted.length + (cfg side.peer).recvCapacity + 2 < 2 ^ 31)
  (back : (n₀ side.peer).accepted.length + (cfg side).recvCapacity + 2 < 2 ^ 32)
  (room : 0 < (cfg side.peer).recvCapacity) (underway : Underway n₀ n side)

include reached₀ half underway in
/-- The peer's input ends with everything. -/
theorem Underway.delivered_of_ended
    (ended : (n side.peer).conn.inboundStream.inputEnded = true) : Delivered n side := by
  have conveying := (underway.traced reached₀).conveying side (underway.cycle half)
  obtain ⟨held, sound⟩ := conveying.sound
  exact ⟨(sound.delivered.2 ended).2, fun _ => ended⟩

include reached₀ half underway in
/-- When nothing is outstanding, everything has arrived. -/
theorem Underway.delivered_of_nil (nothing : (n side).conn.sender.segmentsOutstanding = []) :
    Delivered n side := by
  by_cases ended : (n side.peer).conn.inboundStream.inputEnded = true
  · exact underway.delivered_of_ended reached₀ half ended
  have conveying := (underway.traced reached₀).conveying side (underway.cycle half)
  have acked := conveying.acked
  obtain ⟨held, sound⟩ := conveying.sound
  obtain ⟨_, settled⟩ := ((underway.traced reached₀).emitting side).sending.settled
  have total := settled.length_eq
  have inFlight := settled.toAccounted.bytesInFlight_eq_zero_iff_nil.mpr nothing
  have caught := settled.toAccounted.bytesInFlight_eq_zero_iff.mp inFlight
  by_cases unsent : (n side).conn.sender.nextSeqno = 0
  · -- a stream that has not been started is empty and open
    have fresh := settled.fresh unsent
    have idle : ¬ (n side).conn.sender.Waiting := by
      intro waiting
      have spent := settled.filled fresh.finSent waiting
      rw [allowance, fresh.lastAckno, fresh.windowSize, unsent] at spent
      omega
    obtain ⟨drained, isOpen⟩ := not_or.mp idle
    have none : (n side).accepted = [] := by
      rw [List.eq_nil_iff_length_eq_zero, total, fresh.bytesRead, not_not.mp drained]
      rfl
    refine ⟨?_, fun closed => absurd closed isOpen⟩
    have isPart := sound.delivered.1
    rw [none] at isPart ⊢
    exact List.prefix_nil.mp isPart
  · obtain ⟨drained, closes⟩ := underway.unstuck unsent inFlight
    have next := settled.position unsent
    have empty := congrArg List.length drained
    have assembled := assembled_le sound.refines sound.agrees
    have recived : (n side.peer).conn.receiver.synRecived = true := by
      by_contra notYet
      rw [absAckno, if_pos (by simpa using notYet)] at acked
      omega
    rw [absAckno_of_recived recived] at acked
    change _ ≤ _ + (if (n side.peer).conn.inboundStream.inputEnded then 1 else 0) at acked
    rw [if_neg ended] at acked
    rw [List.length_nil] at empty
    have whole : (n side).accepted.length ≤ (n side.peer).conn.receiver.reassembler.nextIndex := by
      omega
    refine ⟨assembled.2.trans (List.take_of_length_le whole), fun closed => ?_⟩
    rw [closes closed, Bool.toNat_true] at next
    omega

include reached₀ half room underway in
/-- The oldest outstanding segment arrives until all of it is taken. -/
theorem Underway.deliverAll {oldest : Outstanding} {rest : List Outstanding}
    (queue : (n side).conn.sender.segmentsOutstanding = oldest :: rest)
    {ackno : Option WrappingInt32} {winSize : Nat}
    (again : TCPConnection.stamp ackno winSize oldest.segment ∈ wireSince n₀ n side) :
    ∃ n', Reaches step (Since n₀) n n' ∧ Underway n₀ n' side ∧
      (Delivered n' side ∨
        n' side = n side ∧ oldest.stop ≤ (n' side.peer).conn.receiver.absAckno ∧
        ∃ answer ∈ wireSince n₀ n' side.peer, answer.header.ack = true ∧
          answer.header.ackno =
            wrap (n' side.peer).conn.receiver.absAckno (isn cfg random side) ∧
          answer.header.rst = false) := by
  refine Reaches.attain (fun m => Underway n₀ m side ∧ m side = n side)
    (fun m => oldest.stop - (m side.peer).conn.receiver.absAckno) ?_ ⟨underway, rfl⟩
  rintro m ⟨underway, same⟩ unfinished
  have notEnded : (m side.peer).conn.inboundStream.inputEnded = false := by
    rw [← Bool.not_eq_true]
    intro ended
    exact unfinished ⟨underway, .inl (underway.delivered_of_ended reached₀ half ended)⟩
  obtain ⟨m', reached, underway', same', taken, answer⟩ :=
    underway.deliver reached₀ half room (by rw [same]; exact queue)
      (by rw [wireSince, same]; exact again) notEnded
  refine ⟨m', reached, ?_⟩
  by_cases covers : oldest.stop ≤ (m' side.peer).conn.receiver.absAckno
  · exact .inl ⟨underway', .inr ⟨same'.trans same, covers, answer⟩⟩
  · exact .inr ⟨⟨underway', same'.trans same⟩, by omega⟩

include reached₀ half back room underway in
/-- One exchange acknowledges more, or everything has arrived. -/
theorem Underway.exchange
    (attempts : (n side).conn.sender.consecutiveRetransmissionsCount < TCPConfig.maxRetxAttempts)
    (undelivered : ¬ Delivered n side) :
    ∃ n', Reaches step (Since n₀) n n' ∧ Underway n₀ n' side ∧
      (Delivered n' side ∨
        (n' side).conn.sender.consecutiveRetransmissionsCount < TCPConfig.maxRetxAttempts ∧
        (n side).conn.sender.lastAckno < (n' side).conn.sender.lastAckno) := by
  cases queue : (n side).conn.sender.segmentsOutstanding with
  | nil => exact absurd (underway.delivered_of_nil reached₀ half queue) undelivered
  | cons oldest rest =>
      obtain ⟨n₁, reached₁, underway₁, same, _, _, again⟩ :=
        underway.resend reached₀ attempts queue
      have queue₁ := same.segmentsOutstanding.trans queue
      obtain ⟨n₂, reached₂, underway₂, delivered | ⟨here, covers, answer, onWire, isAck, placed,
        noRst⟩⟩ := underway₁.deliverAll reached₀ half room queue₁ again
      · exact ⟨n₂, reached₁.trans reached₂, underway₂, .inl delivered⟩
      · rw [← here] at queue₁ same
        obtain ⟨n₃, reached₃, underway₃, none, forward⟩ :=
          underway₂.answered reached₀ half back queue₁ onWire isAck placed noRst covers
        refine ⟨n₃, (reached₁.trans reached₂).trans reached₃, underway₃, .inr ⟨?_, ?_⟩⟩
        · rw [none]
          decide
        · rwa [same.lastAckno] at forward

end Stream

/-- Nothing has failed, and nothing stands in the way of a recovery. -/
structure Recoverable (n : Network) (side : Side) : Prop where
  healthy : ∀ other, Healthy (n other)
  attempts : (n side).conn.sender.consecutiveRetransmissionsCount < TCPConfig.maxRetxAttempts
  unstuck : Unstuck (n side).conn.sender
  near : Near (n side).sent (n side.peer).conn.receiver

/--
No loss is for good: in every state that two endpoints reach, while the stream of `side`
fits in half a cycle and that of its peer in one, if neither stream has failed, an
attempt is left, the sender is not stranded and the receiver's checkpoint is not off,
then even when everything on the wire is lost the run can go on, without another byte
being written, to a state where the peer has read all that `side` has accepted, and to
its end if the stream was closed.
-/
theorem losses_are_recoverable (cfg : Side → TCPConfig) (random : Side → UInt32)
    (reached : Reaches step Carried (fresh cfg random) n) (side : Side)
    (half : (n side).accepted.length + (cfg side.peer).recvCapacity + 2 < 2 ^ 31)
    (back : (n side.peer).accepted.length + (cfg side).recvCapacity + 2 < 2 ^ 32)
    (room : 0 < (cfg side.peer).recvCapacity) (recoverable : Recoverable n side) :
    ∃ n', Reaches step (Since n) n n' ∧ (n' side).accepted = (n side).accepted ∧
      (n' side.peer).readBytes = (n side).accepted ∧
      ((n side).Closed → (n' side.peer).conn.inboundStream.eof = true) := by
  have initially : Underway n n side :=
    ⟨.refl, fun _ => rfl, rfl, recoverable.healthy, recoverable.near, recoverable.unstuck⟩
  -- every exchange acknowledges more, and there is an end to what can be acknowledged
  obtain ⟨n₁, reached₁, underway₁, delivered⟩ : ∃ n₁, Reaches step (Since n) n n₁ ∧
      Underway n n₁ side ∧ Delivered n₁ side := by
    refine Reaches.attain
      (fun m => Underway n m side ∧
        (m side).conn.sender.consecutiveRetransmissionsCount < TCPConfig.maxRetxAttempts)
      (fun m => (n side).accepted.length + 2 - (m side).conn.sender.lastAckno) ?_
      ⟨initially, recoverable.attempts⟩
    rintro m ⟨underway, attempts⟩ unfinished
    obtain ⟨m', later, underway', delivered | ⟨attempts', forward⟩⟩ :=
      underway.exchange reached half back room attempts fun delivered =>
        unfinished ⟨underway, delivered⟩
    · exact ⟨m', later, .inl ⟨underway', delivered⟩⟩
    · refine ⟨m', later, .inr ⟨⟨underway', attempts'⟩, ?_⟩⟩
      obtain ⟨_, settled⟩ := ((underway'.traced reached).emitting side).sending.settled
      have acked := settled.acked
      have limit := settled.nextSeqno_le
      rw [underway'.accepted] at limit
      omega
  have healthy := underway₁.healthy side.peer
  obtain ⟨n₂, reached₂, underway₂, here, there⟩ := underway₁.destination
    (e := (n₁ side.peer).readAll) (RunsOn.act .refl _) rfl ⟨healthy.outbound, healthy.inbound⟩
    underway₁.near
  refine ⟨n₂, reached₁.trans reached₂, underway₂.accepted side, ?_, fun closed => ?_⟩
  · rw [there, readAll_readBytes, delivered.bytes, underway₁.accepted side]
  · rw [there]
    exact readAll_eof (delivered.ended (underway₁.ended.trans closed))

/-- Two bytes and the end of the stream are lost, and so is the first retransmission. -/
theorem losses_are_recoverable_twice :
    ∃ n, Reaches step Carried
        (fresh (fun _ => { recvCapacity := 1, sendCapacity := 4 }) (fun _ => 7)) n ∧
      (n .b).readBytes = [] ∧
      ∃ n', Reaches step (Since n) n n' ∧ (n' .b).readBytes = [104, 105] ∧
        (n' .b).conn.inboundStream.eof = true := by
  have ran : (execute step Carried
      (fresh (fun _ => { recvCapacity := 1, sendCapacity := 4 }) (fun _ => 7))
      [fun _ => .act .a .connect, fun _ => .act .a .transmit,
        fun n => .deliver .b ((n .a).wire.headD {}), fun _ => .act .b .transmit,
        fun n => .deliver .a ((n .b).wire.headD {}), fun _ => .act .a (.write [104, 105]),
        fun _ => .act .a .endInputStream, fun _ => .act .a .transmit,
        fun _ => .act .a (.tick 1000), fun _ => .act .a .transmit]).any
      (fun n => decide ((n .a).accepted = [104, 105] ∧ (n .b).accepted = [] ∧
        (n .b).readBytes = [] ∧ (n .a).conn.outboundStream.inputEnded = true ∧
        (n .a).conn.outboundStream.error = false ∧ (n .a).conn.inboundStream.error = false ∧
        (n .b).conn.outboundStream.error = false ∧ (n .b).conn.inboundStream.error = false ∧
        (n .a).conn.sender.consecutiveRetransmissionsCount = 1 ∧
        (n .a).conn.sender.bytesInFlight ≠ 0 ∧
        (n .b).conn.receiver.lastStreamNo = 0)) = true := by decide
  obtain ⟨n, reached, written, nothing, unread, closed, outA, inA, outB, inB, attempts, flying,
    atStart⟩ := exists_reaches ran
  have recoverable : Recoverable n .a := by
    refine ⟨fun other => ?_, ?_, fun _ caught => absurd caught flying,
      .inl (by rw [Side.peer, atStart]; exact Nat.zero_le _)⟩
    · cases other with
      | a => exact ⟨outA, inA⟩
      | b => exact ⟨outB, inB⟩
    · rw [attempts]
      decide
  obtain ⟨n', later, _, delivered, ended⟩ := losses_are_recoverable _ _ reached .a
    (by rw [written]; decide) (by rw [Side.peer, nothing]; decide) (by decide) recoverable
  exact ⟨n, reached, unread, n', later, delivered.trans written, ended closed⟩

end Network

end Sponge
