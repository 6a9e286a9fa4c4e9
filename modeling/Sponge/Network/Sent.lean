import Sponge.Network.EndToEnd
import Sponge.Reception.Placement
import Sponge.Transmission.StaleAck

/-!
# What is received has been sent

An endpoint emits only bytes that its sender has taken from the stream, and a FIN only
when the sender has sent one.  So what the other side has assembled, and what it
acknowledges, never goes past the next sequence number of the sender.
-/

namespace Sponge

open TCPSender

/-- The bytes that the endpoint has put into segments. -/
def Endpoint.sent (e : Endpoint) : Bytes := e.conn.sender.sentPart e.accepted

/-- The endpoint has sent its FIN. -/
def Endpoint.FinSent (e : Endpoint) : Prop := e.conn.sender.finSent = true

/-! ## Before the SYN is acknowledged -/

namespace TCPSender

variable {isn : WrappingInt32} {written : Bytes} {s : TCPSender}

/-- Nothing that follows the SYN is acknowledged by the initial sequence number. -/
theorem wrap_ne_isn {position : Nat} (positive : 1 ≤ position) (small : position < 2 ^ 32) :
    wrap position isn ≠ isn := by
  rw [ne_eq, ← offset_eq_zero_iff, offset_wrap]
  omega

/-- A true acknowledgment lets nothing but the SYN out before it covers the SYN. -/
theorem resilient_synFillsWindow {segment : TCPSegment}
    (truthful : segment.header.ack = true →
      ∃ position, 1 ≤ position ∧ position < 2 ^ 32 ∧ segment.header.ackno = wrap position isn) :
    TCPConnection.Resilient segment fun s =>
      (∃ firsts, Settled isn written firsts s) ∧ SynFillsWindow s where
  fillWindow := by
    rintro s ⟨⟨firsts, settled⟩, fillsWindow⟩
    obtain ⟨_, settled', _⟩ := settled.fillWindow
    exact ⟨⟨_, settled'⟩, fillsWindow.fillWindow settled.toAccounted⟩
  ackReceived := by
    rintro isAck s ⟨⟨firsts, settled⟩, fillsWindow⟩
    obtain ⟨position, positive, small, placed⟩ := truthful isAck
    obtain ⟨_, settled', _⟩ := settled.ackReceived segment.header.ackno segment.header.win
    refine ⟨⟨_, settled'⟩, fillsWindow.ackReceived settled.toAccounted ?_⟩
    rintro ⟨_, _, isIsn, _⟩
    rw [placed, settled.isn_eq] at isIsn
    exact wrap_ne_isn positive small isIsn
  sendEmptySegment := by
    rintro s ⟨⟨firsts, settled⟩, fillsWindow⟩
    have same := s.sendEmptySegment_spec.1
    exact ⟨⟨_, settled.sendEmptySegmentWithThisHeader rfl rfl⟩,
      fillsWindow.congr same.lastAckno same.nextSeqno same.windowSize same.windowZeroValid⟩

end TCPSender

namespace Endpoint

variable {isn : WrappingInt32} {e e' : Endpoint}

theorem synFillsWindow_act (emitting : Emitting isn e) (fillsWindow : SynFillsWindow e.conn.sender)
    (action : Act) : SynFillsWindow (e.act action).conn.sender := by
  obtain ⟨firsts, settled⟩ := emitting.sending.settled
  have kept : ∀ stream : ByteStream, SynFillsWindow { e.conn.sender with stream := stream } :=
    fun _ => fillsWindow.congr rfl rfl rfl rfl
  have flushed : ∀ s : TCPSender, SynFillsWindow s → SynFillsWindow { s with segmentsOut := [] } :=
    fun _ holds => holds.congr rfl rfl rfl rfl
  cases action with
  | connect => exact flushed _ (fillsWindow.fillWindow settled.toAccounted)
  | write data => exact flushed _ ((kept _).fillWindow (settled.toAccounted.write data))
  | endInputStream => exact flushed _ ((kept _).fillWindow settled.toAccounted.endInput)
  | tick msSinceLastTick =>
      have same := (e.conn.sender.tick_spec msSinceLastTick).1
      have ticked := fillsWindow.congr same.lastAckno same.nextSeqno same.windowSize
        same.windowZeroValid
      rw [Endpoint.act]
      cases e.conn.elapsed msSinceLastTick with
      | gaveUp _ ran =>
          rw [ran]
          exact ticked.congr rfl rfl rfl rfl
      | waited _ ran =>
          rw [ran]
          exact flushed _ ticked
  | read _ | transmit => exact fillsWindow

theorem synFillsWindow_receive (emitting : Emitting isn e)
    (fillsWindow : SynFillsWindow e.conn.sender) {segment : TCPSegment}
    (truthful : segment.header.ack = true →
      ∃ position, 1 ≤ position ∧ position < 2 ^ 32 ∧ segment.header.ackno = wrap position isn)
    (received : e.receive segment = some e') : SynFillsWindow e'.conn.sender := by
  obtain ⟨conn, outcome, rfl⟩ := received_of_receive received
  cases outcome with
  | ignored _ => exact fillsWindow
  | reset _ _ => exact fillsWindow.congr rfl rfl rfl rfl
  | handled _ _ _ _ _ _ kept =>
      have answered := kept _ (resilient_synFillsWindow truthful)
        ⟨emitting.sending.settled, fillsWindow⟩
      exact answered.2.congr rfl rfl rfl rfl

/-- Only a SYN starts the receiver. -/
theorem recived_of_receive {segment : TCPSegment} (received : e.receive segment = some e')
    (recived : e'.conn.receiver.synRecived = true) :
    e.conn.receiver.synRecived = true ∨ segment.header.syn = true := by
  obtain ⟨conn, outcome, rfl⟩ := received_of_receive received
  cases outcome with
  | ignored _ => exact .inl recived
  | reset _ _ => exact .inl recived
  | handled _ _ _ receiver _ handled _ =>
      by_contra neither
      obtain ⟨notYet, noSyn⟩ := not_or.mp neither
      rw [TCPReceiver.segmentReceived, if_pos (by simpa using notYet), if_neg noSyn] at handled
      cases handled
      exact notYet recived

theorem recived_act (action : Act) :
    (e.act action).conn.receiver.synRecived = e.conn.receiver.synRecived := by
  cases action with
  | tick msSinceLastTick =>
      rw [Endpoint.act]
      cases e.conn.elapsed msSinceLastTick with
      | gaveUp _ ran | waited _ ran => rw [ran]; rfl
  | connect | write _ | endInputStream | read _ | transmit => rfl

end Endpoint

/-! ## One direction -/

open Endpoint TCPReceiver

/-- What `dst` has assembled and acknowledged, `src` has sent. -/
structure Paced (isn : WrappingInt32) (capacity : Nat) (src dst : Endpoint) : Prop where
  sound : ∃ held, Sound isn src.sent src.FinSent capacity dst.conn.receiver dst.readBytes held
  started : dst.conn.receiver.synRecived = true → src.conn.sender.nextSeqno ≠ 0
  truthful : ∀ segment ∈ dst.emitted, segment.header.ack = true →
    ∃ position, 1 ≤ position ∧ position ≤ dst.conn.receiver.absAckno ∧
      segment.header.ackno = wrap position isn
  early : SynFillsWindow src.conn.sender

section Direction

variable {isn : WrappingInt32} {capacity : Nat} {src src' dst dst' : Endpoint}

theorem sent_length_le (e : Endpoint) : e.sent.length ≤ e.accepted.length := by
  rw [sent, sentPart, List.length_take]
  exact Nat.min_le_right _ _

/-- The acknowledgment number is within what has been sent. -/
theorem Paced.absAckno_le (paced : Paced isn capacity src dst) (emitting : Emitting isn src) :
    dst.conn.receiver.absAckno ≤ src.conn.sender.nextSeqno := by
  obtain ⟨held, sound⟩ := paced.sound
  obtain ⟨_, settled⟩ := emitting.sending.settled
  cases recived : dst.conn.receiver.synRecived with
  | false =>
      rw [absAckno, if_pos recived]
      exact Nat.zero_le _
  | true =>
      have next : src.conn.sender.nextSeqno =
          src.sent.length + 1 + src.conn.sender.finSent.toNat :=
        settled.nextSeqno_eq (paced.started recived)
      have assembled := (assembled_le sound.refines sound.agrees).1
      rw [absAckno, if_neg (by simp [recived]), next]
      split
      · rename_i ended
        have sentFin : src.conn.sender.finSent = true := (sound.ended ended).1
        rw [sentFin, Bool.toNat_true]
        omega
      · omega

/-- The sending side moves on. -/
theorem Paced.source (paced : Paced isn capacity src dst) (furthers : Furthers src src')
    (early : SynFillsWindow src'.conn.sender) : Paced isn capacity src' dst := by
  obtain ⟨held, sound⟩ := paced.sound
  exact ⟨⟨held, sound.grow furthers.part furthers.frozen⟩,
    fun recived => furthers.started (paced.started recived), paced.truthful, early⟩

/-- The receiving side moves on. -/
theorem Paced.destination (paced : Paced isn capacity src dst)
    (cycle : src.sent.length + capacity + 2 < 2 ^ 32) (progress : Progress dst dst')
    {held : Nat → Option UInt8}
    (forward : dst.conn.receiver.absAckno ≤ dst'.conn.receiver.absAckno)
    (sound : Sound isn src.sent src.FinSent capacity dst'.conn.receiver dst'.readBytes held)
    (started : dst'.conn.receiver.synRecived = true → src.conn.sender.nextSeqno ≠ 0) :
    Paced isn capacity src dst' := by
  refine ⟨⟨held, sound⟩, started, fun segment member isAck => ?_, paced.early⟩
  rcases progress.stamped segment member with old | stamped
  · obtain ⟨position, positive, before, placed⟩ := paced.truthful segment old isAck
    exact ⟨position, positive, before.trans forward, placed⟩
  · have current := stamped isAck
    have recived : dst'.conn.receiver.synRecived = true := by
      by_contra notYet
      rw [ackno, if_pos (by simpa using notYet)] at current
      cases current
    rw [sound.ackno_eq (by omega) recived] at current
    refine ⟨_, ?_, Nat.le_refl _, (Option.some.inj current).symm⟩
    rw [absAckno, if_neg (by simp [recived])]
    omega

end Direction

/-! ## The network -/

namespace Network

variable {cfg : Side → TCPConfig} {random : Side → UInt32} {n : Network}

/-- Neither side has more than the other one has sent. -/
structure Traced (cfg : Side → TCPConfig) (random : Side → UInt32) (n : Network) : Prop
    extends Consistent cfg random n where
  paced : ∀ side, OneCycle cfg n side →
    Paced (isn cfg random side) (cfg side.peer).recvCapacity (n side) (n side.peer)

theorem traced_fresh (cfg : Side → TCPConfig) (random : Side → UInt32) :
    Traced cfg random (fresh cfg random) where
  toConsistent := consistent_fresh cfg random
  paced := fun side _ =>
    ⟨⟨_, sound_new _ _ _ _⟩, fun recived => absurd recived Bool.false_ne_true,
      fun _ member => (by cases member), fun _ started => absurd rfl started⟩

/-- One side moves on; what it has sent and what it has assembled both stay in pace. -/
theorem Traced.update (traced : Traced cfg random n) {side : Side} {e : Endpoint}
    (consistent : Consistent cfg random (Function.update n side e))
    (progress : Progress (n side) e)
    (early : OneCycle cfg n side → SynFillsWindow e.conn.sender)
    (destination : OneCycle cfg n side.peer →
      (∃ held, (n side).conn.receiver.absAckno ≤ e.conn.receiver.absAckno ∧
        Sound (isn cfg random side.peer) (n side.peer).sent (n side.peer).FinSent
          (cfg side).recvCapacity e.conn.receiver e.readBytes held) ∧
        (e.conn.receiver.synRecived = true → (n side.peer).conn.sender.nextSeqno ≠ 0)) :
    Traced cfg random (Function.update n side e) := by
  refine ⟨consistent, Side.forall_update (P := fun side src dst =>
    src.accepted.length + (cfg side.peer).recvCapacity + 2 < 2 ^ 32 →
      Paced (isn cfg random side) (cfg side.peer).recvCapacity src dst) ?_ ?_⟩
  · intro cycle
    have grown := progress.furthers.grown.length_le
    have earlier : OneCycle cfg n side := by
      rw [OneCycle]
      omega
    exact (traced.paced side earlier).source progress.furthers (early earlier)
  · intro cycle
    have paced := traced.paced side.peer cycle
    obtain ⟨⟨held, forward, sound⟩, started⟩ := destination cycle
    have shorter := sent_length_le (n side.peer)
    rw [Side.peer_peer] at paced cycle ⊢
    exact paced.destination (by omega) progress forward sound started

theorem Traced.step (traced : Traced cfg random n) {move : Move} {n' : Network}
    (carried : n.Carried move) (next : n.step move = some n') : Traced cfg random n' := by
  have consistent := traced.toConsistent.step carried next
  cases move with
  | act side action =>
      cases next
      refine traced.update consistent ((traced.emitting side).act action).2.1
        (fun cycle => synFillsWindow_act (traced.emitting side) (traced.paced side cycle).early _)
        fun cycle => ?_
      have paced := traced.paced side.peer cycle
      rw [Side.peer_peer] at paced
      obtain ⟨held, sound⟩ := paced.sound
      obtain ⟨same, sound'⟩ := act_sound sound action
      refine ⟨⟨held, same.ge, sound'⟩, fun recived => paced.started ?_⟩
      rwa [recived_act] at recived
  | deliver side segment =>
      obtain ⟨e, received, rest⟩ := Option.bind_eq_some_iff.mp next
      cases rest
      have sent : segment ∈ (n side.peer).emitted := List.mem_append_right _ carried
      refine traced.update consistent ((traced.emitting side).receive received).2
        (fun cycle => ?_) fun cycle => ?_
      · have paced := traced.paced side cycle
        rw [OneCycle] at cycle
        obtain ⟨held, sound⟩ := paced.sound
        have bound := sound.absAckno_bound
        have shorter := sent_length_le (n side)
        refine synFillsWindow_receive (traced.emitting side) paced.early (fun isAck => ?_) received
        obtain ⟨position, positive, before, placed⟩ := paced.truthful segment sent isAck
        exact ⟨position, positive, by omega, placed⟩
      · have paced := traced.paced side.peer cycle
        rw [OneCycle] at cycle
        rw [Side.peer_peer] at paced cycle
        obtain ⟨held, sound⟩ := paced.sound
        have shorter := sent_length_le (n side.peer)
        have issued := (traced.emitting side.peer).issued segment sent
        obtain ⟨held', forward, sound'⟩ := receive_sound sound (by omega) issued.genuine received
        refine ⟨⟨held', forward, sound'⟩, fun recived => ?_⟩
        rcases recived_of_receive received recived with before | isSyn
        · exact paced.started before
        · exact issued.started isSyn

theorem traced_of_reaches (reached : Reaches step Carried (fresh cfg random) n) :
    Traced cfg random n :=
  reached.invariant (Traced cfg random) (traced_fresh cfg random)
    fun _ _ _ traced carried next => traced.step carried next

/--
In every run of two endpoints, while the stream of `side` and the window of its peer fit
in half a cycle of sequence numbers: the peer has not acknowledged more than `side` has
sent, and whatever acknowledgment of the peer is on the wire, `side` takes it for the
position that was meant, which is not beyond its next sequence number.
-/
theorem no_acknowledgment_impossible (cfg : Side → TCPConfig) (random : Side → UInt32)
    (reached : Reaches step Carried (fresh cfg random) n) (side : Side)
    (half : (n side).accepted.length + (cfg side.peer).recvCapacity + 2 < 2 ^ 31) :
    (n side.peer).conn.receiver.absAckno ≤ (n side).conn.sender.nextSeqnoAbsolute ∧
      ∀ segment ∈ (n side.peer).wire, segment.header.ack = true →
        ∃ position, 1 ≤ position ∧ position ≤ (n side).conn.sender.nextSeqnoAbsolute ∧
          segment.header.ackno = wrap position (n side).conn.sender.isn ∧
          unwrap segment.header.ackno (n side).conn.sender.isn (n side).conn.sender.lastAckno =
            position := by
  have traced := traced_of_reaches reached
  have cycle : OneCycle cfg n side := by
    rw [OneCycle]
    omega
  have paced := traced.paced side cycle
  have bounded := paced.absAckno_le (traced.emitting side)
  obtain ⟨_, settled⟩ := (traced.emitting side).sending.settled
  have acked := settled.acked
  have limit := settled.nextSeqno_le
  refine ⟨bounded, fun segment onWire isAck => ?_⟩
  obtain ⟨position, positive, before, placed⟩ :=
    paced.truthful segment (List.mem_append_right _ onWire) isAck
  refine ⟨position, positive, before.trans bounded, by rw [settled.isn_eq]; exact placed, ?_⟩
  rw [placed, settled.isn_eq]
  exact unwrap_of_near _ positive (by omega) (.inl (by omega))

/-- The answer to a SYN acknowledges it. -/
theorem no_acknowledgment_impossible_syn :
    ∃ n, Reaches step Carried (fresh (fun _ => { recvCapacity := 4 }) (fun _ => 7)) n ∧
      ∃ segment ∈ (n .b).wire, segment.header.ack = true ∧
        unwrap segment.header.ackno (n .a).conn.sender.isn (n .a).conn.sender.lastAckno = 1 ∧
        (n .a).conn.sender.nextSeqnoAbsolute = 1 := by
  have ran : (execute step Carried (fresh (fun _ => { recvCapacity := 4 }) (fun _ => 7))
      [fun _ => .act .a .connect, fun _ => .act .a .transmit,
        fun n => .deliver .b ((n .a).wire.headD {}), fun _ => .act .b .transmit]).any
      (fun n => decide ((n .a).accepted = [] ∧ (n .a).conn.sender.nextSeqnoAbsolute = 1 ∧
        ∃ segment ∈ (n .b).wire, segment.header.ack = true)) = true := by decide
  obtain ⟨n, reached, nothing, next, segment, onWire, isAck⟩ := exists_reaches ran
  obtain ⟨_, possible⟩ := no_acknowledgment_impossible (fun _ => { recvCapacity := 4 })
    (fun _ => 7) reached .a (by rw [nothing]; decide)
  obtain ⟨position, positive, bounded, _, unwrapped⟩ := possible segment onWire isAck
  refine ⟨n, reached, segment, onWire, isAck, ?_, next⟩
  rw [next] at bounded
  omega

end Network

end Sponge
