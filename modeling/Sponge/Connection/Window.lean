import Sponge.Connection.Runs
import Sponge.Reception.Arrival
import Sponge.Transmission.Contents

/-!
# The advertised window

Every segment a connection emits was queued by its sender without a stamp, also
when it is sent again, and is stamped with what the receiver has at the end of
the call.  The receiver's next index, the end of its input and the right end of
its window never go back, whatever arrives, so the stamps do not either.
-/

namespace Sponge

open TCPSender StreamReassembler

namespace TCPConnection

/-! ## What a call puts on the queue -/

/-- What a sender keeps through every call, with what it has queued. -/
structure Queueing (Holds : TCPSender → Prop) : Prop where
  fillWindow : ∀ s, Holds s → Holds s.fillWindow
  ackReceived : ∀ s ackno windowSize, Holds s → Holds (s.ackReceived ackno windowSize)
  sendEmptySegment : ∀ s, Holds s → Holds s.sendEmptySegment
  tick : ∀ s msSinceLastTick, Holds s → Holds (s.tick msSinceLastTick)
  withStream : ∀ s stream, Holds s → Holds { s with stream := stream }
  flush : ∀ s, Holds s → Holds { s with segmentsOut := [] }
  withRst : ∀ s, Holds s → Holds (withRst s)

/-- Segments are stamped with what the receiver has at the end of the call. -/
def stampNow (r : TCPReceiver) (segment : TCPSegment) : TCPSegment :=
  stamp r.ackno (min r.windowSize 65535) segment

/-- A call appends what some sender has queued, stamped, to the connection's queue. -/
structure Flushed (Holds : TCPSender → Prop) (c c' : TCPConnection) : Prop where
  sender : Holds c'.sender
  queue : ∃ s, Holds s ∧
    c'.segmentsOut = c.segmentsOut ++ s.segmentsOut.map (stampNow c'.receiver)

variable {Holds : TCPSender → Prop} {c c' : TCPConnection}

theorem Queueing.pop (queueing : Queueing Holds) (holds : Holds c'.sender)
    (queue : c'.segmentsOut = c.segmentsOut) : Flushed Holds c c'.popAndSendSegments := by
  refine ⟨queueing.flush _ holds, c'.sender, holds, ?_⟩
  rw [popAndSendSegments, queue]
  rfl

theorem Queueing.idle (queueing : Queueing Holds) (holds : Holds c'.sender)
    (queue : c'.segmentsOut = c.segmentsOut) : Flushed Holds c c' := by
  refine ⟨holds, { c'.sender with segmentsOut := [] }, queueing.flush _ holds, ?_⟩
  rw [queue, List.map_nil, List.append_nil]

theorem Queueing.step (queueing : Queueing Holds) {event : Event} (holds : Holds c.sender)
    (stays : event ≠ .dequeue) (next : c.step event = some c') : Flushed Holds c c' := by
  cases event with
  | segmentReceived segment =>
      cases received_of_segmentReceived next with
      | ignored _ => exact queueing.idle holds rfl
      | reset _ _ => exact queueing.idle (queueing.withStream _ _ holds) rfl
      | handled _ _ _ _ _ _ kept =>
          refine queueing.pop
            (kept _ ⟨queueing.fillWindow, ?_, queueing.sendEmptySegment⟩ holds) rfl
          exact fun _ s => queueing.ackReceived s _ _
  | write data =>
      cases next
      exact queueing.pop (queueing.fillWindow _ (queueing.withStream _ _ holds)) rfl
  | endInputStream =>
      cases next
      exact queueing.pop (queueing.fillWindow _ (queueing.withStream _ _ holds)) rfl
  | connect =>
      cases next
      exact queueing.pop (queueing.fillWindow _ holds) rfl
  | tick msSinceLastTick =>
      cases next
      have ticked := queueing.tick _ msSinceLastTick holds
      cases c.elapsed msSinceLastTick with
      | gaveUp _ ran =>
          rw [ran]
          exact queueing.pop (queueing.withStream _ _ (queueing.withRst _ ticked)) rfl
      | waited _ ran =>
          rw [ran]
          exact queueing.pop ticked rfl
  | read len =>
      cases next
      exact queueing.idle holds rfl
  | dequeue => exact absurd rfl stays

/-- Through every call, if the RST of an abort has the property too. -/
theorem queueing_contains {P : TCPSegment → Prop} (made : Made P)
    (rst : P { header := { rst := true } }) : Queueing (Contains P) where
  fillWindow := fun _ contains => contains.fillWindow made
  ackReceived := fun _ ackno windowSize contains => contains.ackReceived made ackno windowSize
  sendEmptySegment := fun _ contains => contains.sendSegment made false made.empty
  tick := fun _ msSinceLastTick contains => contains.tick msSinceLastTick
  withStream := fun _ _ contains => ⟨contains.queued, contains.outstanding⟩
  flush := fun _ contains =>
    ⟨fun _ member => absurd member List.not_mem_nil, contains.outstanding⟩
  withRst := fun s contains =>
    ⟨fun _ member => List.mem_singleton.mp member ▸ made.numbered s _ rst, contains.outstanding⟩

theorem queueing_plain : Queueing Plain := queueing_contains made_unstamped ⟨rfl, rfl⟩

/-! ## The receiver only moves on -/

/-- `r'` acknowledges no less than `r`, and its window ends no earlier. -/
structure NotBehind (r r' : TCPReceiver) : Prop where
  next_le : r.reassembler.nextIndex ≤ r'.reassembler.nextIndex
  ended : r.streamOut.inputEnded = true → r'.streamOut.inputEnded = true
  windowEnd_le : r.reassembler.nextIndex + r.windowSize ≤ r'.reassembler.nextIndex + r'.windowSize
  recived : r.synRecived = true → r'.synRecived = true

theorem NotBehind.refl (r : TCPReceiver) : NotBehind r r := ⟨Nat.le_refl _, id, Nat.le_refl _, id⟩

theorem NotBehind.trans {r r' r'' : TCPReceiver} (first : NotBehind r r')
    (second : NotBehind r' r'') : NotBehind r r'' :=
  ⟨first.next_le.trans second.next_le, second.ended ∘ first.ended,
    first.windowEnd_le.trans second.windowEnd_le, second.recived ∘ first.recived⟩

theorem notBehind_of_arrived {r r' : TCPReceiver} {segment : TCPSegment}
    (arrived : TCPReceiver.Arrived r segment r') : NotBehind r r' := by
  cases arrived with
  | ignored _ => exact NotBehind.refl r
  | pushed _ _ _ pushed =>
      refine ⟨?_, pushed.ended_of_ended, pushed.windowEnd_le, fun _ => r.noteSyn_synRecived segment⟩
      rw [pushed.next_eq]
      exact Nat.le_add_right _ _

/-- A payload that arrives is a string, whose length 64 bits can count. -/
def Representable (_ : TCPConnection) : Event → Prop
  | .segmentReceived segment => segment.payload.length < 2 ^ 64
  | _ => True

theorem Moves.notBehind {event : Event} {r' : TCPReceiver} (moves : Moves c event r')
    (stored : Stored c.receiver.reassembler) (inRange : c.Representable event) :
    Stored r'.reassembler ∧ NotBehind c.receiver r' := by
  cases moves with
  | stay _ => exact ⟨stored, NotBehind.refl _⟩
  | error _ =>
      exact ⟨⟨stored.capacity_lt, stored.separated, stored.gap⟩, Nat.le_refl _, id, Nat.le_refl _,
        id⟩
  | read len =>
      exact ⟨stored.read len, Nat.le_refl _, id,
        Nat.add_le_add_left (ByteStream.remainingCapacity_le_popOutput _ len) _, id⟩
  | arrive _ _ received =>
      have arrived := TCPReceiver.arrived_of_received stored inRange received
      exact ⟨arrived.stored stored, notBehind_of_arrived arrived⟩

/-! ## Emissions -/

/-- An emitted segment, with the receiver at the end of the call that emitted it. -/
structure Emission where
  segment : TCPSegment
  receiver : TCPReceiver

/-- The acknowledgment number of an emission as an absolute sequence number. -/
def Emission.absAckno (emission : Emission) : Nat :=
  emission.receiver.reassembler.getNextIndex + 1 +
    if emission.receiver.streamOut.inputEnded then 1 else 0

/-- The first absolute sequence number past the advertised window. -/
def Emission.rightEdge (emission : Emission) : Nat :=
  emission.absAckno + emission.segment.header.win.toNat

/-- The segment carries the window in full and, after the SYN, the acknowledgment number. -/
structure Emission.Current (emission : Emission) : Prop where
  win : emission.segment.header.win.toNat = min emission.receiver.windowSize 65535
  ackno : emission.receiver.synRecived = true → emission.segment.header.ack = true ∧
    emission.receiver.ackno = some emission.segment.header.ackno

/-- A connection with everything it has emitted, in order. -/
structure Emitter where
  conn : TCPConnection
  emissions : List Emission

def Emitter.fresh (cfg : TCPConfig) (random : UInt32) : Emitter := ⟨new cfg random, []⟩

def Emitter.step (e : Emitter) (event : Event) : Option Emitter := do
  let conn ← e.conn.step event
  let emitted := conn.segmentsOut.drop e.conn.segmentsOut.length
  some ⟨conn, e.emissions ++ emitted.map fun segment => ⟨segment, conn.receiver⟩⟩

theorem current_of_unstamped {segment : TCPSegment} (unstamped : Unstamped segment)
    (r : TCPReceiver) : Emission.Current ⟨stampNow r segment, r⟩ := by
  constructor
  · dsimp only [stampNow]
    rw [stamp_eq, if_pos unstamped.2, UInt16.toNat_ofNat']
    omega
  · intro recived
    obtain ⟨ackno, known⟩ : ∃ ackno, r.ackno = some ackno := ⟨_, if_neg (by simpa using recived)⟩
    dsimp only [stampNow]
    rw [known, (stamp_ackno unstamped.1 ackno _).2]
    exact ⟨(stamp_ackno unstamped.1 ackno _).1, rfl⟩

/-- Of two emissions the later one is stamped by a receiver that is not behind. -/
theorem edges_le {first later : Emission} (current : first.Current) (current' : later.Current)
    (notBehind : NotBehind first.receiver later.receiver) :
    first.absAckno ≤ later.absAckno ∧ first.rightEdge ≤ later.rightEdge := by
  have next := notBehind.next_le
  have window := notBehind.windowEnd_le
  have ended : (if first.receiver.streamOut.inputEnded then 1 else 0) ≤
      if later.receiver.streamOut.inputEnded then 1 else 0 := by
    cases isEnded : first.receiver.streamOut.inputEnded with
    | false => exact Nat.zero_le _
    | true => simp [notBehind.ended isEnded]
  rw [Emission.rightEdge, Emission.rightEdge, current.win, current'.win, Emission.absAckno,
    Emission.absAckno, getNextIndex, getNextIndex]
  omega

/-- All emissions are current, in order, and none is ahead of the connection's receiver. -/
structure Advertising (e : Emitter) : Prop where
  plain : Plain e.conn.sender
  stored : Stored e.conn.receiver.reassembler
  current : ∀ emission ∈ e.emissions, emission.Current
  ordered : e.emissions.Pairwise fun first later => NotBehind first.receiver later.receiver
  notBehind : ∀ emission ∈ e.emissions, NotBehind emission.receiver e.conn.receiver

/-- The new emissions are stamped segments the sender had queued. -/
theorem current_of_step (plain : Plain c.sender) {event : Event}
    (next : c.step event = some c') : Plain c'.sender ∧
      ∀ segment ∈ c'.segmentsOut.drop c.segmentsOut.length,
        Emission.Current ⟨segment, c'.receiver⟩ := by
  by_cases isDequeue : event = .dequeue
  · subst isDequeue
    cases next
    refine ⟨plain, fun segment member => ?_⟩
    rw [List.drop_eq_nil_of_le (by simp)] at member
    cases member
  · obtain ⟨plain', s, queued, queue⟩ := queueing_plain.step plain isDequeue next
    refine ⟨plain', fun segment member => ?_⟩
    rw [queue, List.drop_left] at member
    obtain ⟨original, inQueue, rfl⟩ := List.mem_map.mp member
    exact current_of_unstamped (queued.queued original inQueue) _

theorem Advertising.step {e e' : Emitter} {event : Event} (advertising : Advertising e)
    (inRange : e.conn.Representable event) (next : e.step event = some e') : Advertising e' := by
  obtain ⟨conn, called, rest⟩ := Option.bind_eq_some_iff.mp next
  cases rest
  obtain ⟨plain, current⟩ := current_of_step advertising.plain called
  obtain ⟨stored, moved⟩ := (moves_of_step called).notBehind advertising.stored inRange
  refine ⟨plain, stored, ?_, ?_, ?_⟩
  · intro emission member
    rcases List.mem_append.mp member with old | new
    · exact advertising.current emission old
    · obtain ⟨segment, emitted, rfl⟩ := List.mem_map.mp new
      exact current segment emitted
  · refine List.pairwise_append.mpr ⟨advertising.ordered, ?_, fun first old later new => ?_⟩
    · exact List.pairwise_map.mpr (List.pairwise_of_forall fun _ _ => NotBehind.refl _)
    · obtain ⟨segment, _, rfl⟩ := List.mem_map.mp new
      exact (advertising.notBehind first old).trans moved
  · intro emission member
    rcases List.mem_append.mp member with old | new
    · exact (advertising.notBehind emission old).trans moved
    · obtain ⟨segment, _, rfl⟩ := List.mem_map.mp new
      exact NotBehind.refl _

theorem advertising_of_reaches {cfg : TCPConfig} {random : UInt32}
    (bounded : cfg.recvCapacity < 2 ^ 64) {e : Emitter}
    (reached : Reaches Emitter.step (fun e event => e.conn.Representable event)
      (Emitter.fresh cfg random) e) : Advertising e := by
  refine reached.invariant Advertising ⟨?_, stored_new bounded, ?_, .nil, ?_⟩
    fun _ _ _ advertising inRange next => advertising.step inRange next
  · exact ⟨fun _ member => absurd member List.not_mem_nil,
      fun _ member => absurd member List.not_mem_nil⟩
  · exact fun _ member => absurd member List.not_mem_nil
  · exact fun _ member => absurd member List.not_mem_nil

/--
Whatever arrives and whatever the application does, every emitted segment carries
the window in full and, once the SYN has arrived, the current acknowledgment
number; and along the emissions neither the acknowledgment number nor the right
edge of the window goes back.
-/
theorem advertised_window_never_shrinks {cfg : TCPConfig} {random : UInt32}
    (bounded : cfg.recvCapacity < 2 ^ 64) {e : Emitter}
    (reached : Reaches Emitter.step (fun e event => e.conn.Representable event)
      (Emitter.fresh cfg random) e) :
    (∀ emission ∈ e.emissions, emission.Current) ∧
      e.emissions.Pairwise fun first later =>
        first.absAckno ≤ later.absAckno ∧ first.rightEdge ≤ later.rightEdge := by
  have advertising := advertising_of_reaches bounded reached
  refine ⟨advertising.current, advertising.ordered.imp_of_mem ?_⟩
  intro first later member member' notBehind
  exact edges_le (advertising.current first member) (advertising.current later member') notBehind

/-- A handshake, a byte that fills the window, and a read: three emissions. -/
theorem advertised_window_never_shrinks_reopened :
    ∃ e, Reaches Emitter.step (fun e event => e.conn.Representable event)
        (Emitter.fresh { recvCapacity := 1, fixedIsn := some ⟨0⟩ } 0) e ∧
      e.emissions.map Emission.absAckno = [1, 2, 2] ∧
      e.emissions.map Emission.rightEdge = [2, 2, 3] ∧
      e.emissions.Pairwise fun first later =>
        first.absAckno ≤ later.absAckno ∧ first.rightEdge ≤ later.rightEdge := by
  have start : Reaches Emitter.step (fun e event => e.conn.Representable event)
    (Emitter.fresh { recvCapacity := 1, fixedIsn := some ⟨0⟩ } 0)
    (Emitter.fresh { recvCapacity := 1, fixedIsn := some ⟨0⟩ } 0) := .refl
  have one := start.tail (Event.segmentReceived { header := { syn := true, seqno := ⟨7⟩ } })
    (Nat.two_pow_pos 64) rfl
  have two := one.tail (Event.segmentReceived { header := { seqno := ⟨8⟩ }, payload := [97] })
    (by decide : 1 < 2 ^ 64) rfl
  have three := two.tail (Event.read 1) trivial rfl
  have four := three.tail (Event.tick 1000) trivial rfl
  exact ⟨_, four, by decide, by decide, (advertised_window_never_shrinks (by decide) four).2⟩

end TCPConnection

end Sponge
