import Sponge.Connection.Abort
import Sponge.Connection.Window

/-!
# What a finished connection still says

Only `segment_received` asks whether the connection is active.  A connection that
is over stays silent exactly if its sender has nothing in flight and nothing to
send whatever is written or closed, and if closing it cannot make it linger, now or
when the 64-bit time since the last segment has wrapped.
-/

namespace Sponge

open TCPSender StreamReassembler

namespace TCPSender

/-- The timer runs while something is outstanding, and its limit is a 32-bit number. -/
structure Armed (s : TCPSender) : Prop where
  running : s.segmentsOutstanding ≠ [] → s.timerEnable = true
  limit : s.initialRetransmissionTimeout < 2 ^ 32
  backup : s.initTimerBackup < 2 ^ 32

variable {s : TCPSender}

theorem armed_rounds : KeptByRounds Armed where
  send := by
    intro s segment windowZeroFlag _ armed
    by_cases nonempty : segment.lengthInSequenceSpace = 0
    · rw [sendSegment_of_empty _ _ nonempty]
      exact ⟨armed.running, armed.limit, armed.backup⟩
    · rw [sendSegment_of_nonempty _ _ nonempty]
      exact ⟨fun _ => Bool.or_true _, armed.limit, armed.backup⟩
  read := fun _ _ _ armed => ⟨armed.running, armed.limit, armed.backup⟩
  spend := fun _ armed => ⟨armed.running, armed.limit, armed.backup⟩

theorem Armed.acknowledge (armed : Armed s) (newAckno newWindowSize : Nat) :
    Armed (s.acknowledge newAckno newWindowSize) := by
  cases s.acknowledged newAckno newWindowSize with
  | kept _ _ _ ran =>
      rw [ran]
      exact ⟨armed.running, armed.limit, armed.backup⟩
  | popped _ _ _ _ _ ran =>
      rw [ran]
      exact ⟨fun some => by simpa using some, armed.backup, armed.backup⟩

theorem Armed.tick (armed : Armed s) (msSinceLastTick : Nat) :
    Armed (s.tick msSinceLastTick) := by
  cases s.ticked msSinceLastTick with
  | stopped _ ran => rwa [ran]
  | early _ _ ran =>
      rw [ran]
      exact ⟨armed.running, armed.limit, armed.backup⟩
  | drained _ _ ran =>
      rw [ran]
      exact ⟨fun _ => rfl, armed.backup, armed.backup⟩
  | resent _ _ oldest rest _ ran =>
      rw [ran]
      refine ⟨fun _ => rfl, ?_, armed.backup⟩
      dsimp only
      split
      · exact Nat.mod_lt _ (Nat.two_pow_pos 32)
      · exact armed.limit

/-- While something is outstanding, some tick sends it again. -/
theorem Armed.exists_tick (armed : Armed s) (outstanding : s.segmentsOutstanding ≠ []) :
    ∃ msSinceLastTick, (s.tick msSinceLastTick).segmentsOut ≠ s.segmentsOut := by
  have limit := armed.limit
  -- a tick that makes the timer show its largest value
  refine ⟨2 ^ 32 - 1 - s.retransmissionTimeout % 2 ^ 32, ?_⟩
  have expired : MachineInt.add32 s.retransmissionTimeout
      (2 ^ 32 - 1 - s.retransmissionTimeout % 2 ^ 32) ≥ s.initialRetransmissionTimeout := by
    unfold MachineInt.add32
    omega
  cases s.ticked (2 ^ 32 - 1 - s.retransmissionTimeout % 2 ^ 32) with
  | stopped off => exact absurd ((armed.running outstanding).symm.trans off) (by decide)
  | early _ below => exact absurd expired (Nat.not_le.mpr below)
  | drained _ queue => exact absurd queue outstanding
  | resent _ _ oldest rest _ ran =>
      rw [ran]
      simp

end TCPSender

namespace TCPConnection

variable {c c' : TCPConnection}

theorem steady_armed : Steady Armed where
  fillWindow := fun _ => armed_rounds.fillWindow
  ackReceived := by
    intro s ackno windowSize armed
    rw [ackReceived_eq]
    split
    · exact armed
    · exact armed_rounds.fillWindow (armed.acknowledge _ _)
  sendEmptySegment := fun s => armed_rounds.send s {} false ⟨rfl, rfl⟩
  write := fun _ _ armed => armed_rounds.fillWindow ⟨armed.running, armed.limit, armed.backup⟩
  tick := fun _ msSinceLastTick armed => armed.tick msSinceLastTick
  requeue := fun _ _ armed => ⟨armed.running, armed.limit, armed.backup⟩
  setError := fun _ armed => ⟨armed.running, armed.limit, armed.backup⟩

/-! ## The property -/

/-- The calls made on a connection from outside, reads of the inbound stream apart. -/
def Called (c : TCPConnection) : Event → Prop
  | .read _ | .dequeue => False
  | event => c.Representable event

/-- Such calls, as long as the time since the last segment does not wrap. -/
def CalledInTime (c : TCPConnection) (event : Event) : Prop := c.Called event ∧ c.InTime event

/-- No such call, nor any sequence of them, appends a segment. -/
def Silent (allowed : TCPConnection → Event → Prop) (c : TCPConnection) : Prop :=
  ∀ later, Reaches step allowed c later → later.segmentsOut = c.segmentsOut

/--
Nothing is in flight, nothing will be sent whatever is written or closed, and
closing the outbound stream does not make the connection wait for the peer.
-/
structure NothingLeft (c : TCPConnection) (waits : Prop) : Prop where
  started : c.sender.nextSeqno ≠ 0
  idle : c.bytesInFlight = 0
  spent : c.sender.finSent = true ∨ c.sender.allowance = 0
  gone : ¬ (c.inboundStream.eof = true ∧ c.outboundStream.buffer = [] ∧ waits)

/-! ## Those with nothing left stay silent -/

/-- Who waits for the peer while `allowed` calls are made has waited from the start. -/
structure Patience (allowed : TCPConnection → Event → Prop) (Waits : TCPConnection → Prop) :
    Prop where
  called : ∀ {c event}, allowed c event → c.Called event
  lingers : ∀ {c : TCPConnection}, c.Lingers → Waits c
  frame : ∀ {c c' : TCPConnection}, Waits c' →
    c'.lingerAfterStreamsFinish = c.lingerAfterStreamsFinish → c'.cfg = c.cfg →
    c'.timeSinceLastSegmentReceived = c.timeSinceLastSegmentReceived → Waits c
  tick : ∀ {c c' : TCPConnection} {msSinceLastTick : Nat}, allowed c (.tick msSinceLastTick) →
    Waits c' → c'.lingerAfterStreamsFinish = c.lingerAfterStreamsFinish → c'.cfg = c.cfg →
    c'.timeSinceLastSegmentReceived =
      MachineInt.add64 c.timeSinceLastSegmentReceived msSinceLastTick → Waits c

theorem patience_called : Patience Called MayLinger where
  called := id
  lingers := Lingers.mayLinger
  frame := by
    intro c c' waits linger cfg _
    rwa [MayLinger, ← linger, ← cfg]
  tick := by
    intro c c' _ _ waits linger cfg _
    rwa [MayLinger, ← linger, ← cfg]

theorem patience_calledInTime : Patience CalledInTime Lingers where
  called := And.left
  lingers := id
  frame := by
    intro c c' waits linger cfg time
    rwa [Lingers, ← linger, ← cfg, ← time]
  tick := by
    intro c c' msSinceLastTick allowed waits linger cfg time
    rw [Lingers, linger, cfg, time, MachineInt.add64_of_lt allowed.2] at waits
    exact ⟨waits.1, Nat.lt_of_le_of_lt (Nat.le_add_right _ _) waits.2⟩

/-- A connection that is over, with a sender that says nothing. -/
structure Quiet (Waits : TCPConnection → Prop) (c : TCPConnection) : Prop where
  mute : c.sender.Mute
  flushed : c.sender.segmentsOut = []
  idle : c.sender.segmentsOutstanding = []
  counted : c.sender.consecutiveRetransmissionsCount = 0
  ended : c.outboundStream.error = true ∨ c.inboundStream.error = true ∨
    c.outboundStream.eof = true ∧ c.inboundStream.eof = true
  gone : ¬ (c.inboundStream.eof = true ∧ c.outboundStream.buffer = [] ∧ Waits c)

section Quiet

variable {allowed : TCPConnection → Event → Prop} {Waits : TCPConnection → Prop}

theorem Quiet.inactive (quiet : Quiet Waits c) (patience : Patience allowed Waits) :
    c.active = false := by
  rw [← Bool.not_eq_true]
  by_cases finished : c.outboundStream.eof = true ∧ c.inboundStream.eof = true
  · rw [active_of_eof finished.1 finished.2]
    refine not_or.mpr ⟨not_not.mpr ?_, fun lingers => quiet.gone ?_⟩
    · rw [bytesInFlight, TCPSender.bytesInFlight, quiet.idle, queuedLength]
    · exact ⟨finished.2, ((ByteStream.eof_iff _).mp finished.1).1, patience.lingers lingers⟩
  · rw [active_of_not_eof finished]
    rintro ⟨noError, noError'⟩
    rcases quiet.ended with failed | failed | both
    · exact Bool.noConfusion (noError.symm.trans failed)
    · exact Bool.noConfusion (noError'.symm.trans failed)
    · exact finished both

/-- The application may write to the outbound stream or close it: nothing is sent. -/
theorem Quiet.fillWindow (quiet : Quiet Waits c) (patience : Patience allowed Waits)
    (stream : ByteStream)
    (kept : ∀ isn written firsts, Accounted isn written firsts c.sender →
      ∃ written', Accounted isn written' firsts { c.sender with stream := stream })
    (error : stream.error = c.outboundStream.error)
    (eof : c.outboundStream.eof = true → stream.eof = true)
    (unread : c.outboundStream.buffer ≠ [] → stream.buffer ≠ []) :
    Quiet Waits { c with
        sender := { c.sender with stream := stream }.fillWindow }.popAndSendSegments ∧
      { c with
        sender := { c.sender with stream := stream }.fillWindow }.popAndSendSegments.segmentsOut =
        c.segmentsOut := by
  have mute := quiet.mute.withStream stream kept
  rw [mute.fillWindow]
  refine ⟨⟨mute.congr ⟨rfl, rfl, rfl, rfl, rfl, rfl, rfl, rfl⟩, rfl, quiet.idle, quiet.counted, ?_,
    fun gone => quiet.gone ⟨gone.1, ?_, patience.frame gone.2.2 rfl rfl rfl⟩⟩, ?_⟩
  · rcases quiet.ended with failed | failed | both
    · exact Or.inl (error.trans failed)
    · exact Or.inr (Or.inl failed)
    · exact Or.inr (Or.inr ⟨eof both.1, both.2⟩)
  · by_contra some
    exact unread some gone.2.1
  · exact (popAndSendSegments_queue_iff _).mpr quiet.flushed

theorem Quiet.tick (quiet : Quiet Waits c) (patience : Patience allowed Waits)
    {msSinceLastTick : Nat} (isAllowed : allowed c (.tick msSinceLastTick)) :
    Quiet Waits (c.tick msSinceLastTick) ∧
      (c.tick msSinceLastTick).segmentsOut = c.segmentsOut := by
  obtain ⟨same, queue⟩ := c.sender.tick_spec msSinceLastTick
  have flushed : (c.sender.tick msSinceLastTick).segmentsOut = [] := by
    rcases queue with kept | ⟨oldest, rest, outstanding, _⟩
    · rw [kept, quiet.flushed]
    · rw [quiet.idle] at outstanding
      cases outstanding
  obtain ⟨counted, ran⟩ := tick_of_idle quiet.idle quiet.counted msSinceLastTick
  rw [ran]
  refine ⟨⟨quiet.mute.congr ⟨same.isn, same.stream, same.segmentsOutstanding, same.nextSeqno,
    same.lastAckno, same.windowSize, same.windowZeroValid, same.finSent⟩, rfl,
    same.segmentsOutstanding.trans quiet.idle, counted, ?_, fun gone => quiet.gone ?_⟩, ?_⟩
  · change (c.sender.tick msSinceLastTick).stream.error = true ∨ _ ∨
      (c.sender.tick msSinceLastTick).stream.eof = true ∧ _
    rw [same.stream]
    exact quiet.ended
  · obtain ⟨inbound, outbound, waits⟩ := gone
    change (c.sender.tick msSinceLastTick).stream.buffer = [] at outbound
    rw [same.stream] at outbound
    exact ⟨inbound, outbound, patience.tick isAllowed waits rfl rfl rfl⟩
  · exact (popAndSendSegments_queue_iff _).mpr flushed

theorem Quiet.step {event : Event} (quiet : Quiet Waits c) (patience : Patience allowed Waits)
    (isAllowed : allowed c event) (next : c.step event = some c') :
    Quiet Waits c' ∧ c'.segmentsOut = c.segmentsOut := by
  cases event with
  | segmentReceived segment =>
      cases received_of_segmentReceived next with
      | ignored _ => exact ⟨quiet, rfl⟩
      | reset isActive _ | handled isActive =>
          exact absurd ((quiet.inactive patience).symm.trans isActive) Bool.false_ne_true
  | write data =>
      cases next
      refine quiet.fillWindow patience _ (fun _ _ _ accounted => ⟨_, accounted.write data⟩)
        (ByteStream.write_error _ data) (fun eof => ?_) fun unread => ?_
      · rw [c.sender.stream.write_of_ended data ((ByteStream.eof_iff _).mp eof).2]
        exact eof
      · rw [ByteStream.write_buffer]
        exact List.append_ne_nil_of_left_ne_nil unread _
  | endInputStream =>
      cases next
      refine quiet.fillWindow patience _ (fun _ _ _ accounted => ⟨_, accounted.endInput⟩) rfl
        (fun eof => ?_) id
      exact (ByteStream.eof_iff _).mpr ⟨((ByteStream.eof_iff _).mp eof).1, rfl⟩
  | connect =>
      cases next
      exact quiet.fillWindow patience c.sender.stream (fun _ _ _ accounted => ⟨_, accounted⟩) rfl
        id id
  | tick msSinceLastTick =>
      cases next
      exact quiet.tick patience isAllowed
  | read _ | dequeue => exact (patience.called isAllowed).elim

theorem Quiet.silent (quiet : Quiet Waits c) (patience : Patience allowed Waits) :
    Silent allowed c := by
  intro later reached
  refine (reached.invariant
    (fun later => Quiet Waits later ∧ later.segmentsOut = c.segmentsOut) ⟨quiet, rfl⟩ ?_).2
  rintro state event final ⟨quiet, same⟩ isAllowed next
  obtain ⟨quiet', same'⟩ := quiet.step patience isAllowed next
  exact ⟨quiet', same'.trans same⟩

end Quiet

/-! ## Those with something left can be made to speak -/

/-- What holds of a connection between any two calls. -/
structure Resting (c : TCPConnection) : Prop where
  settled : ∃ isn written firsts, Settled isn written firsts c.sender
  flushed : c.sender.segmentsOut = []
  armed : Armed c.sender
  stored : Stored c.receiver.reassembler
  clock : c.timeSinceLastSegmentReceived < 2 ^ 64

theorem clock_of_step {event : Event} (clock : c.timeSinceLastSegmentReceived < 2 ^ 64)
    (next : c.step event = some c') : c'.timeSinceLastSegmentReceived < 2 ^ 64 := by
  cases event with
  | segmentReceived segment =>
      cases received_of_segmentReceived next with
      | ignored _ => exact clock
      | reset _ _ => exact Nat.two_pow_pos 64
      | handled _ _ _ _ _ _ _ => exact Nat.two_pow_pos 64
  | tick msSinceLastTick =>
      cases next
      exact MachineInt.add64_lt _ _
  | write _ | endInputStream | connect | read _ | dequeue =>
      cases next
      exact clock

theorem resting_of_reaches {cfg : TCPConfig} {random : UInt32}
    (bounded : cfg.recvCapacity < 2 ^ 64)
    (reached : Reaches step Representable (new cfg random) c) : Resting c := by
  obtain ⟨written, firsts, settled⟩ :=
    settled_of_reaches (reached.weaken fun _ _ _ => trivial)
  refine ⟨⟨_, _, _, settled⟩, ?_, ?_, ?_, ?_⟩
  · exact reached.invariant (fun c => c.sender.segmentsOut = []) rfl
      fun _ _ _ flushed _ next => flushed_of_step flushed next
  · refine reached.invariant (fun c => Armed c.sender) ⟨fun some => absurd rfl some, ?_, ?_⟩ ?_
    · exact cfg.rtTimeout.toNat_lt.trans (by decide)
    · exact cfg.rtTimeout.toNat_lt.trans (by decide)
    · intro c event c' armed _ next
      exact steady_armed.step armed
        (fun _ => armed_rounds.fillWindow ⟨armed.running, armed.limit, armed.backup⟩) next
  · exact reached.invariant (fun c => Stored c.receiver.reassembler) (stored_new bounded)
      fun _ _ _ stored inRange next => ((moves_of_step next).notBehind stored inRange).1
  · exact reached.invariant (fun c => c.timeSinceLastSegmentReceived < 2 ^ 64)
      (Nat.two_pow_pos 64) fun _ _ _ clock _ next => clock_of_step clock next

theorem Resting.counted (resting : Resting c) (idle : c.sender.segmentsOutstanding = []) :
    c.sender.consecutiveRetransmissionsCount = 0 := by
  obtain ⟨isn, written, firsts, settled⟩ := resting.settled
  by_contra running
  exact settled.counted (Nat.pos_of_ne_zero running) idle

theorem Silent.call (silent : Silent Called c) (event : Event) (called : c.Called event)
    (next : c.step event = some c') : c'.segmentsOut = c.segmentsOut ∧ Silent Called c' := by
  have one : Reaches step Called c c' := Reaches.refl.tail event called next
  refine ⟨silent c' one, fun later reached => ?_⟩
  rw [silent c' one]
  exact silent later (one.trans reached)

/-- A silent connection fills its window with nothing, whatever its stream is made. -/
theorem Resting.nothing_to_send (resting : Resting c) {stream : ByteStream}
    (kept : ∀ isn written firsts, Accounted isn written firsts c.sender →
      ∃ written', Accounted isn written' firsts { c.sender with stream := stream })
    (same : { c with
      sender := { c.sender with stream := stream }.fillWindow }.popAndSendSegments.segmentsOut =
        c.segmentsOut) : { c.sender with stream := stream }.HasNothingToSend := by
  obtain ⟨isn, written, firsts, settled⟩ := resting.settled
  obtain ⟨written', accounted⟩ := kept isn written firsts settled.toAccounted
  rw [← accounted.fillWindow_queue_iff]
  exact ((popAndSendSegments_queue_iff _).mp same).trans resting.flushed.symm

theorem Silent.started (silent : Silent Called c) (resting : Resting c) :
    c.sender.nextSeqno ≠ 0 := by
  intro unsent
  obtain ⟨isn, written, firsts, settled⟩ := resting.settled
  have same := (silent.call .connect trivial rfl).1
  rcases resting.nothing_to_send (fun _ written _ accounted => ⟨written, accounted⟩) same with
    finSent | ⟨started, _⟩
  · exact Bool.noConfusion ((settled.fresh unsent).finSent.symm.trans finSent)
  · exact started unsent

/-- The FIN could be sent as soon as something is allowed. -/
theorem Silent.spent (silent : Silent Called c) (resting : Resting c) :
    c.sender.finSent = true ∨ c.sender.allowance = 0 := by
  have same := (silent.call .endInputStream trivial rfl).1
  rcases resting.nothing_to_send (fun _ written _ accounted => ⟨written, accounted.endInput⟩) same
    with finSent | ⟨_, nothing | settled⟩
  · exact Or.inl finSent
  · exact Or.inr nothing
  · exact absurd (Or.inr rfl) settled

/-- What is outstanding is sent again, or given up with a RST. -/
theorem Silent.idle (silent : Silent Called c) (resting : Resting c) :
    c.sender.segmentsOutstanding = [] := by
  by_contra outstanding
  obtain ⟨msSinceLastTick, resends⟩ := resting.armed.exists_tick outstanding
  have same := (silent.call (.tick msSinceLastTick) trivial rfl).1
  cases c.elapsed msSinceLastTick with
  | gaveUp _ ran =>
      rw [ran] at same
      exact List.cons_ne_nil _ _ ((popAndSendSegments_queue_iff _).mp same)
  | waited _ ran =>
      rw [ran] at same
      exact resends (((popAndSendSegments_queue_iff _).mp same).trans resting.flushed.symm)

/-- An active connection answers a FIN. -/
theorem Silent.inactive (silent : Silent Called c) (stored : Stored c.receiver.reassembler) :
    ¬ c.active = true := by
  intro isActive
  obtain ⟨receiver, received, _⟩ := TCPReceiver.exists_arrived stored
    (show ({ header := { fin := true } } : TCPSegment).payload.length < 2 ^ 64 from
      Nat.two_pow_pos 64)
  have answered : c.step (.segmentReceived { header := { fin := true } }) =
      some (c.handled { header := { fin := true } } receiver) := by
    rw [step, segmentReceived_eq isActive rfl]
    exact congrArg (Option.map _) received
  exact handled_emits _ receiver (by decide)
    (silent.call (.segmentReceived { header := { fin := true } }) (Nat.two_pow_pos 64) answered).1

/-- A connection that may linger is active again once it is closed and its time has wrapped. -/
theorem Silent.gone (silent : Silent Called c) (resting : Resting c) (mute : c.sender.Mute) :
    ¬ (c.inboundStream.eof = true ∧ c.outboundStream.buffer = [] ∧ c.MayLinger) := by
  rintro ⟨inbound, drained, linger, positive⟩
  have idle := silent.idle resting
  have closed := (mute.withStream c.sender.stream.endInput
    fun _ written _ accounted => ⟨written, accounted.endInput⟩).fillWindow
  have sender : c.endInputStream.sender =
      { c.sender with stream := c.sender.stream.endInput, segmentsOut := [] } := by
    rw [endInputStream, closed]
    rfl
  -- the tick that brings the time back to zero
  obtain ⟨rest, wrapped⟩ :
      ∃ rest, MachineInt.add64 c.timeSinceLastSegmentReceived rest = 0 := by
    refine ⟨2 ^ 64 - c.timeSinceLastSegmentReceived, ?_⟩
    rw [MachineInt.add64, Nat.add_sub_of_le resting.clock.le, Nat.mod_self]
  obtain ⟨_, ran⟩ := tick_of_idle (c := c.endInputStream) (by rw [sender]; exact idle)
    (by rw [sender]; exact resting.counted idle) rest
  have silent' := (silent.call .endInputStream trivial rfl).2
  have silent'' := (silent'.call (.tick rest) trivial rfl).2
  have outbound : (c.endInputStream.tick rest).outboundStream.eof = true := by
    rw [ran, ByteStream.eof_iff]
    change (c.endInputStream.sender.tick rest).stream.buffer = [] ∧
      (c.endInputStream.sender.tick rest).stream.inputEnded = true
    rw [(c.endInputStream.sender.tick_spec rest).1.stream, sender]
    exact ⟨drained, rfl⟩
  refine silent''.inactive ?_ ((active_of_eof outbound ?_).mpr (Or.inr ?_))
  · rw [ran]
    exact resting.stored
  · rw [ran]
    exact inbound
  · rw [ran]
    refine ⟨linger, ?_⟩
    change MachineInt.add64 c.timeSinceLastSegmentReceived rest < 10 * c.cfg.rtTimeout.toNat
    omega

/-- With nothing left the sender says nothing, and neither stream comes back. -/
theorem Resting.quiet {Waits : TCPConnection → Prop} (resting : Resting c)
    (inactive : c.active = false) (nothing : NothingLeft c (Waits c)) : Quiet Waits c := by
  obtain ⟨isn, written, firsts, settled⟩ := resting.settled
  have idle := settled.bytesInFlight_eq_zero_iff_nil.mp nothing.idle
  refine ⟨⟨⟨_, _, _, settled.toAccounted⟩, nothing.started, nothing.spent⟩, resting.flushed, idle,
    resting.counted idle, ?_, nothing.gone⟩
  by_cases finished : c.outboundStream.eof = true ∧ c.inboundStream.eof = true
  · exact Or.inr (Or.inr finished)
  · have failed := (active_of_not_eof finished).not.mp (by simp [inactive])
    rw [not_and_or, Bool.not_eq_false, Bool.not_eq_false] at failed
    exact failed.imp_right Or.inl

/-- What can be made to speak has something left. -/
theorem Silent.nothingLeft (silent : Silent Called c) (resting : Resting c) :
    NothingLeft c c.MayLinger := by
  obtain ⟨isn, written, firsts, settled⟩ := resting.settled
  have started := silent.started resting
  have spent := silent.spent resting
  refine ⟨started, ?_, spent, silent.gone resting ⟨⟨_, _, _, settled.toAccounted⟩, started, spent⟩⟩
  exact settled.bytesInFlight_eq_zero_iff_nil.mpr (silent.idle resting)

/--
A connection that is not active stays silent, whatever is called on it, exactly
if the SYN was sent, nothing is in flight, the FIN was sent or nothing more is
allowed, and closing the outbound stream does not make it linger, at once or when the
time since the last segment has wrapped.  Until then it also stays silent if
the time to linger is over.
-/
theorem finished_connection_silent_iff {cfg : TCPConfig} {random : UInt32}
    (bounded : cfg.recvCapacity < 2 ^ 64)
    (reached : Reaches Sponge.TCPConnection.step Representable (new cfg random) c)
    (inactive : c.active = false) :
    (Silent Called c ↔ NothingLeft c c.MayLinger) ∧
      (NothingLeft c c.Lingers → Silent CalledInTime c) := by
  have resting := resting_of_reaches bounded reached
  refine ⟨⟨fun silent => silent.nothingLeft resting, fun nothing => ?_⟩, fun nothing => ?_⟩
  · exact (resting.quiet inactive nothing).silent patience_called
  · exact (resting.quiet inactive nothing).silent patience_calledInTime

/-- A connection closed by the peer first, then locally, with both FINs acknowledged. -/
theorem finished_connection_silent_iff_passive_close :
    ∃ c, Reaches Sponge.TCPConnection.step Representable (new { fixedIsn := some ⟨0⟩ } 0) c ∧
      c.active = false ∧ Silent Called c := by
  have start : Reaches Sponge.TCPConnection.step Representable
    (new { fixedIsn := some ⟨0⟩ } 0) (new { fixedIsn := some ⟨0⟩ } 0) := .refl
  have one := start.tail (Event.segmentReceived { header := { syn := true, seqno := ⟨7⟩ } })
    (Nat.two_pow_pos 64) rfl
  have two := one.tail (Event.segmentReceived
    { header := { fin := true, seqno := ⟨8⟩, ack := true, ackno := ⟨1⟩, win := 10 } })
    (Nat.two_pow_pos 64) rfl
  have three := two.tail Event.endInputStream trivial rfl
  have four := three.tail (Event.segmentReceived
    { header := { seqno := ⟨9⟩, ack := true, ackno := ⟨2⟩, win := 10 } })
    (Nat.two_pow_pos 64) rfl
  exact ⟨_, four, by decide, (finished_connection_silent_iff (by decide) four (by decide)).1.mpr
    ⟨by decide, by decide, by decide, fun gone => absurd gone.2.2.1 (by decide)⟩⟩

/-- A RST on an established connection, then the local close: a FIN is sent all the same. -/
theorem fin_after_rst :
    ¬ ∀ (cfg : TCPConfig) (random : UInt32) (c : TCPConnection), cfg.recvCapacity < 2 ^ 64 →
      Reaches Sponge.TCPConnection.step Representable (new cfg random) c →
        c.active = false → Silent Called c := by
  intro silent
  have start : Reaches Sponge.TCPConnection.step Representable
    (new { fixedIsn := some ⟨0⟩ } 0) (new { fixedIsn := some ⟨0⟩ } 0) := .refl
  have one := start.tail (Event.segmentReceived { header := { syn := true, seqno := ⟨7⟩ } })
    (Nat.two_pow_pos 64) rfl
  have two := one.tail (Event.segmentReceived
    { header := { seqno := ⟨8⟩, ack := true, ackno := ⟨1⟩, win := 10 } })
    (Nat.two_pow_pos 64) rfl
  have three := two.tail (Event.segmentReceived { header := { rst := true, seqno := ⟨8⟩ } })
    (Nat.two_pow_pos 64) rfl
  exact absurd (silent _ _ _ (by decide) three (by decide) _
    (Reaches.refl.tail Event.endInputStream trivial rfl)) (by decide)

end TCPConnection

end Sponge
