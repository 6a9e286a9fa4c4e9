import Sponge.Network.Emission

/-!
# Two endpoints over an unreliable network

Each endpoint's application makes any calls at any time, and whatever one of
them has put on the wire may reach the other late, often, out of order or never.
One direction of the conversation is described by `Conveying`: the receiving side
is sound for the stream of the sending side, every acknowledgment it has emitted
was true when it was emitted, and the sending side has believed no other.
-/

namespace Sponge

open TCPReceiver

namespace Endpoint

variable {isn : WrappingInt32} {stream : Bytes} {closed : Prop} {capacity : Nat}
  {held : Nat → Option UInt8} {e e' : Endpoint}

/-- No call of the application or the clock changes what the receiver has assembled. -/
theorem act_sound (sound : Sound isn stream closed capacity e.conn.receiver e.readBytes held)
    (action : Act) :
    (e.act action).conn.receiver.absAckno = e.conn.receiver.absAckno ∧
      Sound isn stream closed capacity (e.act action).conn.receiver (e.act action).readBytes
        held := by
  cases action with
  | connect => exact ⟨rfl, sound⟩
  | write data => exact ⟨rfl, sound⟩
  | endInputStream => exact ⟨rfl, sound⟩
  | tick msSinceLastTick =>
      rw [Endpoint.act]
      cases e.conn.elapsed msSinceLastTick with
      | gaveUp _ ran =>
          rw [ran]
          exact ⟨rfl, sound.setError⟩
      | waited _ ran =>
          rw [ran]
          exact ⟨rfl, sound⟩
  | read len => exact ⟨rfl, sound.popStreamOut len⟩
  | transmit => exact ⟨rfl, sound⟩

/-- A genuine segment does not make the connection throw. -/
theorem exists_receive (sound : Sound isn stream closed capacity e.conn.receiver e.readBytes held)
    (cycle : stream.length + capacity + 2 < 2 ^ 32) {segment : TCPSegment}
    (genuine : Genuine isn stream closed segment) : ∃ e', e.receive segment = some e' := by
  obtain ⟨r', _, received, _⟩ := sound.segmentReceived cycle genuine
  simp only [receive, TCPConnection.segmentReceived, received]
  split
  · exact ⟨_, rfl⟩
  · split <;> exact ⟨_, rfl⟩

theorem receive_sound (sound : Sound isn stream closed capacity e.conn.receiver e.readBytes held)
    (cycle : stream.length + capacity + 2 < 2 ^ 32) {segment : TCPSegment}
    (genuine : Genuine isn stream closed segment) (received : e.receive segment = some e') :
    ∃ held', e.conn.receiver.absAckno ≤ e'.conn.receiver.absAckno ∧
      Sound isn stream closed capacity e'.conn.receiver e'.readBytes held' := by
  obtain ⟨conn, outcome, rfl⟩ := received_of_receive received
  cases outcome with
  | ignored _ => exact ⟨held, Nat.le_refl _, sound⟩
  | reset _ _ => exact ⟨held, Nat.le_refl _, sound.setError⟩
  | handled _ _ _ receiver _ handled _ =>
      obtain ⟨r', held', received', forward, sound'⟩ := sound.segmentReceived cycle genuine
      rw [handled] at received'
      cases received'
      exact ⟨held', forward, sound'⟩

end Endpoint

/-! ## One direction -/

open Endpoint

/-- What `src` has written, `dst` assembles and acknowledges. -/
structure Conveying (isn : WrappingInt32) (capacity : Nat) (src dst : Endpoint) : Prop where
  sound : ∃ held,
    Sound isn src.accepted src.Closed capacity dst.conn.receiver dst.readBytes held
  truthful : ∀ segment ∈ dst.emitted, segment.header.ack = true →
    ∃ position ≤ dst.conn.receiver.absAckno, segment.header.ackno = wrap position isn
  acked : src.conn.sender.lastAckno ≤ dst.conn.receiver.absAckno

section Direction

variable {isn : WrappingInt32} {capacity : Nat} {src src' dst dst' : Endpoint}

/-- The sending side moves on. -/
theorem Conveying.source (conveying : Conveying isn capacity src dst) (progress : Progress src src')
    (acked : src'.conn.sender.lastAckno ≤ dst.conn.receiver.absAckno) :
    Conveying isn capacity src' dst := by
  obtain ⟨held, sound⟩ := conveying.sound
  exact ⟨⟨held, sound.grow progress.furthers.grown progress.furthers.closed⟩, conveying.truthful,
    acked⟩

/-- The receiving side moves on, and what it then emits acknowledges what it then has. -/
theorem Conveying.destination (conveying : Conveying isn capacity src dst)
    (cycle : src.accepted.length + capacity + 2 < 2 ^ 32) (progress : Progress dst dst')
    {held : Nat → Option UInt8}
    (forward : dst.conn.receiver.absAckno ≤ dst'.conn.receiver.absAckno)
    (sound : Sound isn src.accepted src.Closed capacity dst'.conn.receiver dst'.readBytes held) :
    Conveying isn capacity src dst' := by
  refine ⟨⟨held, sound⟩, fun segment member isAck => ?_, conveying.acked.trans forward⟩
  rcases progress.stamped segment member with old | stamped
  · obtain ⟨position, before, placed⟩ := conveying.truthful segment old isAck
    exact ⟨position, before.trans forward, placed⟩
  · have current := stamped isAck
    have recived : dst'.conn.receiver.synRecived = true := by
      by_contra notYet
      rw [ackno, if_pos (by simpa using notYet)] at current
      cases current
    rw [sound.ackno_eq (by omega) recived] at current
    exact ⟨_, Nat.le_refl _, (Option.some.inj current).symm⟩

end Direction

/-! ## The network -/

inductive Side where
  | a
  | b
  deriving DecidableEq

namespace Side

def peer : Side → Side
  | a => b
  | b => a

@[simp] theorem peer_peer (side : Side) : side.peer.peer = side := by cases side <;> rfl

@[simp] theorem peer_ne (side : Side) : side.peer ≠ side := by cases side <;> decide

theorem eq_or_eq_peer (side other : Side) : side = other ∨ side = other.peer := by
  cases side <;> cases other <;> decide

/-- What relates each side to its peer, when one of them has moved. -/
theorem forall_update {α : Type} {P : Side → α → α → Prop} {f : Side → α} {side : Side}
    {value : α} (mover : P side value (f side.peer)) (peer : P side.peer (f side.peer) value)
    (other : Side) :
    P other (Function.update f side value other) (Function.update f side value other.peer) := by
  rcases other.eq_or_eq_peer side with rfl | rfl
  · rwa [Function.update_self, Function.update_of_ne other.peer_ne]
  · rwa [Function.update_of_ne side.peer_ne, peer_peer, Function.update_self]

end Side

abbrev Network := Side → Endpoint

/-- An endpoint acts, or a segment reaches it. -/
inductive Move where
  | act (side : Side) (action : Act)
  | deliver (side : Side) (segment : TCPSegment)

namespace Network

variable {cfg : Side → TCPConfig} {random : Side → UInt32} {n : Network}

def fresh (cfg : Side → TCPConfig) (random : Side → UInt32) : Network :=
  fun side => Endpoint.fresh (cfg side) (random side)

def step (n : Network) : Move → Option Network
  | .act side action => some (Function.update n side ((n side).act action))
  | .deliver side segment => do
      let e ← (n side).receive segment
      some (Function.update n side e)

/-- What each endpoint keeps, whatever it does or receives, is kept by every move. -/
theorem forall_of_step {P : Side → Endpoint → Prop} {move : Move} {n' : Network}
    (holds : ∀ side, P side (n side)) (act : ∀ side action, P side ((n side).act action))
    (receive : ∀ side segment e, (n side).receive segment = some e → P side e)
    (next : n.step move = some n') : ∀ side, P side (n' side) := by
  cases move with
  | act side action =>
      cases next
      exact (Function.forall_update_iff n P).mpr ⟨act side action, fun other _ => holds other⟩
  | deliver side segment =>
      obtain ⟨e, received, rest⟩ := Option.bind_eq_some_iff.mp next
      cases rest
      exact (Function.forall_update_iff n P).mpr
        ⟨receive side segment e received, fun other _ => holds other⟩

/-- The network alters and forges nothing: what arrives was sent by the other side. -/
def Carried (n : Network) : Move → Prop
  | .act _ _ => True
  | .deliver side segment => segment ∈ (n side.peer).wire

instance (n : Network) : (move : Move) → Decidable (n.Carried move)
  | .act _ _ => inferInstanceAs (Decidable True)
  | .deliver side segment => inferInstanceAs (Decidable (segment ∈ (n side.peer).wire))

/-- The initial sequence number of a side. -/
def isn (cfg : Side → TCPConfig) (random : Side → UInt32) (side : Side) : WrappingInt32 :=
  (cfg side).fixedIsn.getD ⟨random side⟩

/-- The stream of `side` and the window of its peer fit in one cycle of sequence numbers. -/
def OneCycle (cfg : Side → TCPConfig) (n : Network) (side : Side) : Prop :=
  (n side).accepted.length + (cfg side.peer).recvCapacity + 2 < 2 ^ 32

/-- Both sides emit their streams, and each conveys it as long as it fits in one cycle. -/
structure Consistent (cfg : Side → TCPConfig) (random : Side → UInt32) (n : Network) : Prop where
  emitting : ∀ side, Emitting (isn cfg random side) (n side)
  conveying : ∀ side, OneCycle cfg n side →
    Conveying (isn cfg random side) (cfg side.peer).recvCapacity (n side) (n side.peer)

theorem consistent_fresh (cfg : Side → TCPConfig) (random : Side → UInt32) :
    Consistent cfg random (fresh cfg random) where
  emitting := fun side => emitting_fresh (cfg side) (random side)
  conveying := fun side _ =>
    ⟨⟨_, sound_new _ _ _ _⟩, fun _ member => (by cases member), Nat.le_refl _⟩

/-- One side moves on; what it conveys and what is conveyed to it both stay true. -/
theorem Consistent.update (consistent : Consistent cfg random n) {side : Side} {e : Endpoint}
    (emitting : Emitting (isn cfg random side) e) (progress : Progress (n side) e)
    (source : OneCycle cfg n side →
      e.conn.sender.lastAckno ≤ (n side.peer).conn.receiver.absAckno)
    (destination : OneCycle cfg n side.peer → ∃ held,
      (n side).conn.receiver.absAckno ≤ e.conn.receiver.absAckno ∧
        Sound (isn cfg random side.peer) (n side.peer).accepted (n side.peer).Closed
          (cfg side).recvCapacity e.conn.receiver e.readBytes held) :
    Consistent cfg random (Function.update n side e) := by
  refine ⟨?_, Side.forall_update (P := fun side src dst =>
    src.accepted.length + (cfg side.peer).recvCapacity + 2 < 2 ^ 32 →
      Conveying (isn cfg random side) (cfg side.peer).recvCapacity src dst) ?_ ?_⟩
  · exact (Function.forall_update_iff n _).mpr ⟨emitting, fun other _ => consistent.emitting other⟩
  · intro cycle
    have grown := progress.furthers.grown.length_le
    have earlier : OneCycle cfg n side := by
      rw [OneCycle]
      omega
    exact (consistent.conveying side earlier).source progress (source earlier)
  · intro cycle
    have conveying := consistent.conveying side.peer cycle
    obtain ⟨held, forward, sound⟩ := destination cycle
    rw [Side.peer_peer] at conveying cycle ⊢
    exact conveying.destination cycle progress forward sound

/-- The invariant of one step. -/
theorem Consistent.step (consistent : Consistent cfg random n) {move : Move} {n' : Network}
    (carried : n.Carried move) (next : n.step move = some n') : Consistent cfg random n' := by
  cases move with
  | act side action =>
      cases next
      obtain ⟨emitting, progress, lastAckno⟩ := (consistent.emitting side).act action
      refine consistent.update emitting progress (fun cycle => ?_) fun cycle => ?_
      · rw [lastAckno]
        exact (consistent.conveying side cycle).acked
      · have conveying := consistent.conveying side.peer cycle
        rw [Side.peer_peer] at conveying
        obtain ⟨held, sound⟩ := conveying.sound
        obtain ⟨same, sound'⟩ := act_sound sound action
        exact ⟨held, same.ge, sound'⟩
  | deliver side segment =>
      obtain ⟨e, received, rest⟩ := Option.bind_eq_some_iff.mp next
      cases rest
      have sent : segment ∈ (n side.peer).emitted := List.mem_append_right _ carried
      obtain ⟨emitting, progress⟩ := (consistent.emitting side).receive received
      refine consistent.update emitting progress (fun cycle => ?_) fun cycle => ?_
      · have conveying := consistent.conveying side cycle
        rw [OneCycle] at cycle
        obtain ⟨held, sound⟩ := conveying.sound
        have bound := sound.absAckno_bound
        exact (consistent.emitting side).acked_receive received (by omega) (by omega)
          (conveying.truthful segment sent) conveying.acked
      · have conveying := consistent.conveying side.peer cycle
        rw [OneCycle] at cycle
        rw [Side.peer_peer] at conveying cycle
        obtain ⟨held, sound⟩ := conveying.sound
        exact receive_sound sound cycle ((consistent.emitting side.peer).genuine sent)
          received

theorem consistent_of_reaches (reached : Reaches step Carried (fresh cfg random) n) :
    Consistent cfg random n :=
  reached.invariant (Consistent cfg random) (consistent_fresh cfg random)
    fun _ _ _ consistent carried next => consistent.step carried next

/--
In every run of two endpoints, while the stream of `side` fits in one cycle of
sequence numbers: what its peer has read and buffered is a prefix of what `side`
has accepted; the peer's input ends only when `side` has closed its stream, with
all of it; `side` takes as acknowledged no more than its peer has assembled, and
still holds everything else it has sent; and no delivery throws.
-/
theorem end_to_end_safety (cfg : Side → TCPConfig) (random : Side → UInt32)
    (reached : Reaches step Carried (fresh cfg random) n) (side : Side)
    (cycle : (n side).accepted.length + (cfg side.peer).recvCapacity + 2 < 2 ^ 32) :
    ((n side.peer).readBytes ++ (n side.peer).conn.inboundStream.buffer) <+: (n side).accepted ∧
      ((n side.peer).conn.inboundStream.inputEnded = true →
        (n side).conn.outboundStream.inputEnded = true ∧
          (n side.peer).readBytes ++ (n side.peer).conn.inboundStream.buffer =
            (n side).accepted) ∧
      (n side).conn.sender.lastAckno ≤ (n side.peer).conn.receiver.absAckno ∧
      (∀ position, (n side.peer).conn.receiver.absAckno ≤ position →
        position < (n side).conn.sender.nextSeqnoAbsolute →
        ∃ entry ∈ (n side).conn.sender.segmentsOutstanding, entry.absSeqno ≤ position ∧
          position < entry.absSeqno + entry.segment.lengthInSequenceSpace) ∧
      ∀ segment ∈ (n side).wire, ∃ e, (n side.peer).receive segment = some e := by
  have consistent := consistent_of_reaches reached
  have conveying := consistent.conveying side cycle
  obtain ⟨held, sound⟩ := conveying.sound
  obtain ⟨_, settled⟩ := (consistent.emitting side).sending.settled
  obtain ⟨isPart, whenEnded⟩ := sound.delivered
  refine ⟨isPart, whenEnded, conveying.acked, fun position unassembled sent => ?_,
    fun segment onWire => ?_⟩
  · exact settled.exists_outstanding (conveying.acked.trans unassembled) sent
  · exact exists_receive sound cycle
      ((consistent.emitting side).genuine (List.mem_append_right _ onWire))

/-- Two bytes written after the handshake are delivered twice and assembled once. -/
theorem end_to_end_safety_duplicated :
    ∃ n, Reaches step Carried
        (fresh (fun _ => { recvCapacity := 4, sendCapacity := 4 }) (fun _ => 7)) n ∧
      (n .b).readBytes = [104] ∧ (n .b).conn.inboundStream.buffer = [105] ∧
      ((n .b).readBytes ++ (n .b).conn.inboundStream.buffer) <+: (n .a).accepted := by
  have start : Reaches step Carried
      (fresh (fun _ => { recvCapacity := 4, sendCapacity := 4 }) (fun _ => 7))
      (fresh (fun _ => { recvCapacity := 4, sendCapacity := 4 }) (fun _ => 7)) := .refl
  have one := start.tail (Move.act .a .connect) trivial rfl
  have two := one.tail (Move.act .a .transmit) trivial rfl
  have three := two.tail
    (Move.deliver .b { header := { seqno := ⟨7⟩, syn := true, win := 4 } }) (by decide) rfl
  have four := three.tail (Move.act .b .transmit) trivial rfl
  have five := four.tail
    (Move.deliver .a
      { header := { seqno := ⟨7⟩, ackno := ⟨8⟩, ack := true, syn := true, win := 4 } })
    (by decide) rfl
  have six := five.tail (Move.act .a (.write [104, 105])) trivial rfl
  have seven := six.tail (Move.act .a .transmit) trivial rfl
  have eight := seven.tail (Move.act .a .transmit) trivial rfl
  have nine := eight.tail
    (Move.deliver .b
      { header := { seqno := ⟨8⟩, ackno := ⟨8⟩, ack := true, win := 4 }, payload := [104, 105] })
    (by decide) rfl
  have ten := nine.tail (Move.act .b (.read 1)) trivial rfl
  have eleven := ten.tail
    (Move.deliver .b
      { header := { seqno := ⟨8⟩, ackno := ⟨8⟩, ack := true, win := 4 }, payload := [104, 105] })
    (by decide) rfl
  exact ⟨_, eleven, by decide, by decide, (end_to_end_safety _ _ eleven .a (by decide)).1⟩

end Network

end Sponge
