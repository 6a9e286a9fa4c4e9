import Sponge.Connection.Runs

/-!
# What is left of an aborted connection

A RST, or too many retransmissions, sets the error flags of both streams.
`active()` asks first whether both streams are at their end, and the flags
matter only if they are not.  So an aborted connection is dead for good exactly
when its streams cannot both be brought to their end with something in flight or
with time left to linger.
-/

namespace Sponge

namespace TCPSender

/-- The sender sends nothing more, whatever is written to its stream. -/
def Mute (s : TCPSender) : Prop :=
  (∃ isn written firsts, Accounted isn written firsts s) ∧ s.nextSeqno ≠ 0 ∧
    (s.finSent = true ∨ s.allowance = 0)

theorem Mute.fillWindow {s : TCPSender} (mute : Mute s) : s.fillWindow = s := by
  obtain ⟨⟨_, _, _, accounted⟩, started, finSent | nothing⟩ := mute
  · exact fillWindow_of_finSent finSent
  · exact accounted.fillWindow_of_allowance started nothing

/-- What happens to the stream does not make the sender speak. -/
theorem Mute.withStream {s : TCPSender} (mute : Mute s) (stream : ByteStream)
    (kept : ∀ isn written firsts, Accounted isn written firsts s →
      ∃ written', Accounted isn written' firsts { s with stream := stream }) :
    Mute { s with stream := stream } := by
  obtain ⟨⟨isn, written, firsts, accounted⟩, started, reason⟩ := mute
  obtain ⟨written', accounted'⟩ := kept isn written firsts accounted
  exact ⟨⟨isn, written', firsts, accounted'⟩, started, reason⟩

theorem Mute.congr {s s' : TCPSender} (mute : Mute s) (same : SameCore s s') : Mute s' := by
  obtain ⟨⟨_, _, _, accounted⟩, started, reason⟩ := mute
  refine ⟨⟨_, _, _, accounted.congr same⟩, by rwa [same.nextSeqno], ?_⟩
  rw [allowance, probes, same.finSent, same.lastAckno, same.windowSize, same.nextSeqno,
    same.windowZeroValid]
  exact reason

end TCPSender

namespace TCPConnection

open TCPSender

/-- A RST arrives while the connection is active, or a tick exceeds the attempts. -/
def Aborts (c : TCPConnection) : Event → Prop
  | .segmentReceived segment => c.active = true ∧ segment.header.rst = true
  | .tick msSinceLastTick =>
      (c.tick msSinceLastTick).sender.consecutiveRetransmissions > TCPConfig.maxRetxAttempts
  | _ => False

/-- The connection is not active, now and in every later state. -/
def DeadForGood (c : TCPConnection) : Prop :=
  ∀ later, Reaches step Always c later → later.active = false

/--
The inbound stream has ended and all that was written has been sent; and
something is in flight, or the connection would linger, or the FIN may still be
sent.
-/
def Resurrectable (c : TCPConnection) : Prop :=
  c.inboundStream.inputEnded = true ∧ c.outboundStream.buffer = [] ∧
    (0 < c.bytesInFlight ∨
      (c.lingerAfterStreamsFinish = true ∧ 0 < c.cfg.rtTimeout.toNat) ∨
      (c.sender.finSent = false ∧ 0 < c.sender.allowance))

/-! ## The abort -/

/-- What an abort leaves: the same sender and receiver, with the error flags set. -/
structure Aborted (c c' : TCPConnection) : Prop where
  cfg_eq : c'.cfg = c.cfg
  linger_eq : c'.lingerAfterStreamsFinish = c.lingerAfterStreamsFinish
  core : SameCore { c.sender with stream := c.sender.stream.setError } c'.sender
  inbound_eq : c'.inboundStream = c.inboundStream.setError
  waits : c'.timeSinceLastSegmentReceived = 0 ∨ 0 < c.bytesInFlight

theorem tick_count (c : TCPConnection) (msSinceLastTick : Nat) :
    (c.tick msSinceLastTick).sender.consecutiveRetransmissionsCount =
      (c.sender.tick msSinceLastTick).consecutiveRetransmissionsCount := by
  cases c.elapsed msSinceLastTick with
  | gaveUp _ ran =>
      rw [ran]
      rfl
  | waited _ ran =>
      rw [ran]
      rfl

theorem aborted_of_aborts {isn : WrappingInt32} {written : Bytes} {firsts : List TCPSegment}
    {c c' : TCPConnection} {event : Event} (settled : Settled isn written firsts c.sender)
    (aborts : c.Aborts event) (next : c.step event = some c') : Aborted c c' := by
  cases event with
  | segmentReceived segment =>
      obtain ⟨isActive, isRst⟩ := aborts
      cases received_of_segmentReceived next with
      | ignored inactive =>
          rw [isActive] at inactive
          cases inactive
      | reset _ _ => exact ⟨rfl, rfl, ⟨rfl, rfl, rfl, rfl, rfl, rfl, rfl, rfl⟩, rfl, Or.inl rfl⟩
      | handled _ noRst =>
          rw [isRst] at noRst
          cases noRst
  | tick msSinceLastTick =>
      have many : (c.sender.tick msSinceLastTick).consecutiveRetransmissionsCount >
          TCPConfig.maxRetxAttempts := by
        rw [← tick_count]
        exact aborts
      have same := (c.sender.tick_spec msSinceLastTick).1
      -- the counter runs only while something is outstanding
      have outstanding := (settled.tick msSinceLastTick).counted (Nat.zero_lt_of_lt many)
      rw [same.segmentsOutstanding] at outstanding
      cases next
      rw [c.tick_of_many many]
      refine ⟨rfl, rfl, ⟨same.isn, congrArg ByteStream.setError same.stream,
        same.segmentsOutstanding, same.nextSeqno, same.lastAckno, same.windowSize,
        same.windowZeroValid, same.finSent⟩, rfl, Or.inr ?_⟩
      rw [Nat.pos_iff_ne_zero, bytesInFlight, ne_eq, settled.bytesInFlight_eq_zero_iff_nil]
      exact outstanding
  | _ => exact aborts.elim

/-! ## The dead stay dead -/

/-- The inbound stream failed; and if it has ended, the streams cannot be revived. -/
structure Dead (c : TCPConnection) : Prop where
  failed : c.inboundStream.error = true
  buried : c.inboundStream.inputEnded = true → c.sender.Mute ∧
    (c.outboundStream.buffer ≠ [] ∨ c.bytesInFlight = 0 ∧ ¬ c.MayLinger)

variable {c c' : TCPConnection}

theorem Dead.inactive (dead : Dead c) : c.active = false := by
  rw [← Bool.not_eq_true]
  by_cases finished : c.outboundStream.eof = true ∧ c.inboundStream.eof = true
  · rw [active_of_eof finished.1 finished.2]
    obtain ⟨_, unread | ⟨idle, noLinger⟩⟩ := dead.buried ((ByteStream.eof_iff _).mp finished.2).2
    · exact absurd ((ByteStream.eof_iff _).mp finished.1).1 unread
    · exact not_or.mpr ⟨not_not.mpr idle, fun lingers => noLinger lingers.mayLinger⟩
  · rw [active_of_not_eof finished, dead.failed]
    exact fun noErrors => Bool.noConfusion noErrors.2

/-- The application may write to the outbound stream or close it: nothing is sent. -/
theorem Dead.fillWindow (dead : Dead c) (stream : ByteStream)
    (kept : ∀ isn written firsts, Accounted isn written firsts c.sender →
      ∃ written', Accounted isn written' firsts { c.sender with stream := stream })
    (unread : c.outboundStream.buffer ≠ [] → stream.buffer ≠ []) :
    Dead { c with
      sender := { c.sender with stream := stream }.fillWindow }.popAndSendSegments := by
  refine ⟨dead.failed, fun isEnded => ?_⟩
  obtain ⟨wasMute, reason⟩ := dead.buried isEnded
  have mute := wasMute.withStream stream kept
  have silent := mute.fillWindow
  refine ⟨?_, ?_⟩
  · simp only [popAndSendSegments, silent]
    exact mute.congr ⟨rfl, rfl, rfl, rfl, rfl, rfl, rfl, rfl⟩
  · simp only [popAndSendSegments, silent, outboundStream, bytesInFlight]
    exact reason.imp unread id

/-- Time does not change who may linger, and a further abort sets the flags again. -/
theorem Dead.tick (dead : Dead c) (msSinceLastTick : Nat) : Dead (c.tick msSinceLastTick) := by
  have same := (c.sender.tick_spec msSinceLastTick).1
  have buried : c.inboundStream.inputEnded = true → (c.sender.tick msSinceLastTick).Mute ∧
      ((c.sender.tick msSinceLastTick).stream.buffer ≠ [] ∨
        (c.sender.tick msSinceLastTick).bytesInFlight = 0 ∧
          ¬ c.MayLinger) := by
    intro isEnded
    obtain ⟨mute, reason⟩ := dead.buried isEnded
    rw [same.stream, TCPSender.bytesInFlight, same.segmentsOutstanding]
    exact ⟨mute.congr same, reason⟩
  cases c.elapsed msSinceLastTick with
  | gaveUp _ ran =>
      rw [ran]
      refine ⟨rfl, fun isEnded => ?_⟩
      obtain ⟨mute, reason⟩ := buried isEnded
      refine ⟨?_, reason⟩
      exact (mute.withStream _ fun _ written _ accounted => ⟨written, accounted.setError⟩).congr
        ⟨rfl, rfl, rfl, rfl, rfl, rfl, rfl, rfl⟩
  | waited _ ran =>
      rw [ran]
      refine ⟨dead.failed, fun isEnded => ?_⟩
      obtain ⟨mute, reason⟩ := buried isEnded
      exact ⟨mute.congr ⟨rfl, rfl, rfl, rfl, rfl, rfl, rfl, rfl⟩, reason⟩

/-- Nothing that happens to a dead connection revives it. -/
theorem Dead.step {event : Event} (dead : Dead c) (next : c.step event = some c') : Dead c' := by
  cases event with
  | segmentReceived segment =>
      cases received_of_segmentReceived next with
      | ignored _ => exact dead
      | reset isActive _ =>
          rw [dead.inactive] at isActive
          cases isActive
      | handled isActive =>
          rw [dead.inactive] at isActive
          cases isActive
  | write data =>
      cases next
      refine dead.fillWindow _ (fun _ _ _ accounted => ⟨_, accounted.write data⟩) fun unread => ?_
      rw [ByteStream.write_buffer]
      exact List.append_ne_nil_of_left_ne_nil unread _
  | endInputStream =>
      cases next
      exact dead.fillWindow _ (fun _ _ _ accounted => ⟨_, accounted.endInput⟩) id
  | connect =>
      cases next
      exact dead.fillWindow c.sender.stream (fun _ _ _ accounted => ⟨_, accounted⟩) id
  | tick msSinceLastTick =>
      cases next
      exact dead.tick msSinceLastTick
  | read len =>
      cases next
      exact ⟨dead.failed, dead.buried⟩
  | dequeue =>
      cases next
      exact ⟨dead.failed, dead.buried⟩

theorem Dead.forGood (dead : Dead c) : DeadForGood c := fun _ reached =>
  (reached.invariant Dead dead fun _ _ _ dead _ next => dead.step next).inactive

section Exact

variable {isn : WrappingInt32} {written : Bytes} {firsts : List TCPSegment}

/-- A fresh sender may still send the SYN. -/
theorem allowance_of_fresh {s : TCPSender} (unsent : s.nextSeqno = 0) (fresh : Fresh s) :
    s.allowance ≠ 0 := by
  rw [allowance, fresh.lastAckno, fresh.windowSize, unsent]
  omega

/-- The abort keeps everything that decides about sending. -/
theorem Aborted.sender_eq (aborted : Aborted c c') :
    c'.outboundStream.buffer = c.outboundStream.buffer ∧ c'.bytesInFlight = c.bytesInFlight ∧
      c'.sender.nextSeqno = c.sender.nextSeqno ∧ c'.sender.finSent = c.sender.finSent ∧
      c'.sender.allowance = c.sender.allowance := by
  have core := aborted.core
  refine ⟨by rw [outboundStream, core.stream]; rfl, ?_, core.nextSeqno, core.finSent, ?_⟩
  · rw [bytesInFlight, TCPSender.bytesInFlight, core.segmentsOutstanding]
    rfl
  · rw [allowance, probes, core.lastAckno, core.windowSize, core.nextSeqno, core.windowZeroValid]
    rfl

/-- An abort that cannot be revived leaves a dead connection. -/
theorem Aborted.dead (aborted : Aborted c c') (settled : Settled isn written firsts c.sender)
    (notResurrectable : ¬ c.Resurrectable) : Dead c' := by
  refine ⟨by rw [aborted.inbound_eq]; rfl, fun isEnded => ?_⟩
  rw [aborted.inbound_eq] at isEnded
  have accounted := settled.toAccounted.setError.congr aborted.core
  obtain ⟨buffer_eq, inFlight_eq, next_eq, fin_eq, allowance_eq⟩ := aborted.sender_eq
  rw [Mute, buffer_eq, inFlight_eq, next_eq, fin_eq, allowance_eq]
  by_cases drained : c.outboundStream.buffer = []
  · have none := not_or.mp fun revives => notResurrectable ⟨isEnded, drained, revives⟩
    obtain ⟨idle, noMore⟩ := none
    obtain ⟨noLinger, noFin⟩ := not_or.mp noMore
    refine ⟨⟨⟨_, _, _, accounted⟩, fun unsent => ?_, ?_⟩, Or.inr ⟨by omega, fun lingers => ?_⟩⟩
    · have fresh := settled.fresh unsent
      exact noFin ⟨fresh.finSent, Nat.pos_of_ne_zero (allowance_of_fresh unsent fresh)⟩
    · cases finSent : c.sender.finSent with
      | true => exact Or.inl rfl
      | false => exact Or.inr (Nat.eq_zero_of_not_pos fun allowed => noFin ⟨finSent, allowed⟩)
    · rw [MayLinger, aborted.linger_eq, aborted.cfg_eq] at lingers
      exact noLinger lingers
  · -- what is still buffered has no allowance left
    have notSent : c.sender.finSent = false := by
      rw [← Bool.not_eq_true]
      exact fun sent => drained (settled.finished sent).2
    have nothing := settled.filled notSent (Or.inl drained)
    refine ⟨⟨⟨_, _, _, accounted⟩, fun unsent => ?_, Or.inr nothing⟩, Or.inl drained⟩
    exact allowance_of_fresh unsent (settled.fresh unsent) nothing

/-- A sender without a buffered byte is at the end of its stream once that is closed. -/
theorem eof_endInput {s : TCPSender} (accounted : Accounted isn written firsts s)
    (drained : s.stream.buffer = []) :
    { s with stream := s.stream.endInput }.fillWindow.stream.eof = true := by
  obtain ⟨_, _, sends⟩ := accounted.endInput.fillWindow
  obtain ⟨taken, stream_eq⟩ := sends.stream
  rw [stream_eq, ByteStream.popOutput_eof_iff]
  refine ⟨?_, rfl⟩
  change s.stream.buffer.length ≤ taken
  rw [drained]
  exact Nat.zero_le _

/-- A connection that can be revived comes back when it is read to its end and closed. -/
theorem Aborted.resurrected (aborted : Aborted c c')
    (settled : Settled isn written firsts c.sender) (resurrectable : c.Resurrectable) :
    ((c'.popInbound c'.inboundStream.buffer.length).endInputStream).active = true := by
  obtain ⟨isEnded, drained, revives⟩ := resurrectable
  obtain ⟨buffer_eq, inFlight_eq, next_eq, fin_eq, allowance_eq⟩ := aborted.sender_eq
  have accounted := settled.toAccounted.setError.congr aborted.core
  have outbound := eof_endInput accounted (buffer_eq.trans drained)
  have inbound : (c'.inboundStream.popOutput c'.inboundStream.buffer.length).eof = true := by
    rw [ByteStream.popOutput_eof_iff, aborted.inbound_eq]
    exact ⟨Nat.le_refl _, isEnded⟩
  refine (active_of_eof (c := (c'.popInbound c'.inboundStream.buffer.length).endInputStream)
    outbound inbound).mpr ?_
  by_cases inFlight : 0 < c.bytesInFlight
  · left
    have flying : c'.bytesInFlight ≠ 0 := by
      rw [inFlight_eq]
      exact Nat.ne_of_gt inFlight
    exact accounted.endInput.inFlight_fillWindow_of_inFlight flying
  · rcases revives with flying | ⟨linger, positive⟩ | ⟨notSent, allowed⟩
    · exact absurd flying inFlight
    · right
      have now := aborted.waits.resolve_right inFlight
      refine ⟨aborted.linger_eq.trans linger, ?_⟩
      change c'.timeSinceLastSegmentReceived < 10 * c'.cfg.rtTimeout.toNat
      rw [now, aborted.cfg_eq]
      omega
    · left
      refine accounted.endInput.inFlight_fillWindow (fin_eq.trans notSent) (Or.inr rfl) ?_
      change c'.sender.allowance ≠ 0
      omega

end Exact

/--
An aborted connection is dead for good exactly when, before the abort, the
inbound stream had not ended, or written bytes were still unsent, or nothing was
in flight, could linger or could be sent.
-/
theorem aborted_connection_dead_iff {cfg : TCPConfig} {random : UInt32} (event : Event)
    (reached : Reaches Sponge.TCPConnection.step Always (new cfg random) c)
    (aborts : c.Aborts event) (next : c.step event = some c') :
    c'.DeadForGood ↔ ¬ c.Resurrectable := by
  obtain ⟨written, firsts, settled⟩ := settled_of_reaches reached
  have aborted := aborted_of_aborts settled aborts next
  constructor
  · intro deadForGood resurrectable
    have start : Reaches Sponge.TCPConnection.step Always c' c' := .refl
    have read := start.tail (Event.read c'.inboundStream.buffer.length) trivial rfl
    have inactive := deadForGood _ (read.tail Event.endInputStream trivial rfl)
    have isActive := aborted.resurrected settled resurrectable
    rw [inactive] at isActive
    cases isActive
  · exact fun notResurrectable => (aborted.dead settled notResurrectable).forGood

/-- A RST to an established connection, both of whose streams are open, is final. -/
theorem aborted_connection_dead_iff_established :
    ∃ c c', Reaches step Always (new { fixedIsn := some ⟨5⟩ } 0) c ∧
      c.step (.segmentReceived { header := { rst := true } }) = some c' ∧ c'.DeadForGood := by
  have start : Reaches step Always (new { fixedIsn := some ⟨5⟩ } 0)
    (new { fixedIsn := some ⟨5⟩ } 0) := .refl
  have one := start.tail Event.connect trivial rfl
  have two := one.tail (Event.segmentReceived
    { header := { syn := true, ack := true, seqno := ⟨100⟩, ackno := ⟨6⟩, win := 8 } }) trivial rfl
  exact ⟨_, _, two, rfl, (aborted_connection_dead_iff
    (.segmentReceived { header := { rst := true } }) two ⟨by decide, rfl⟩ rfl).mpr
      fun resurrectable => absurd resurrectable.1 (by decide)⟩

/-- A RST while the last FIN is in flight leaves the connection active. -/
theorem rst_in_last_ack_survived :
    ¬ ∀ (cfg : TCPConfig) (random : UInt32) (c c' : TCPConnection) (event : Event),
      Reaches step Always (new cfg random) c → c.Aborts event → c.step event = some c' →
        c'.DeadForGood := by
  intro alwaysDead
  have start : Reaches step Always (new { fixedIsn := some ⟨5⟩ } 0)
    (new { fixedIsn := some ⟨5⟩ } 0) := .refl
  have one := start.tail Event.connect trivial rfl
  have two := one.tail (Event.segmentReceived
    { header := { syn := true, ack := true, seqno := ⟨100⟩, ackno := ⟨6⟩, win := 8 } }) trivial rfl
  have three := two.tail (Event.segmentReceived
    { header := { fin := true, ack := true, seqno := ⟨101⟩, ackno := ⟨6⟩, win := 8 } }) trivial rfl
  have four := three.tail Event.endInputStream trivial rfl
  have dead := alwaysDead _ _ _ _ (.segmentReceived { header := { rst := true } }) four
    ⟨by decide, rfl⟩ rfl
  exact absurd (dead _ .refl) (by decide)

end TCPConnection

end Sponge
