import Sponge.Model.TCPConnection
import Sponge.Transmission.Rest

/-!
# Runs of one endpoint

The calls the application, the clock and the network make on a connection, in
any order.  Each of them is described once by what it does to the sender, so
that what a sender keeps through its own calls is kept through those of the
connection that owns it.
-/

namespace Sponge.TCPConnection

open MachineInt TCPSender

/-- A call on a connection; `dequeue` takes a segment off its output queue. -/
inductive Event where
  | segmentReceived (segment : TCPSegment)
  | write (data : Bytes)
  | endInputStream
  | connect
  | tick (msSinceLastTick : Nat)
  | read (len : Nat)
  | dequeue

def step (c : TCPConnection) : Event → Option TCPConnection
  | .segmentReceived segment => c.segmentReceived segment
  | .write data => some (c.write data).1
  | .endInputStream => some c.endInputStream
  | .connect => some c.connect
  | .tick msSinceLastTick => some (c.tick msSinceLastTick)
  | .read len => some (c.popInbound len)
  | .dequeue => some { c with segmentsOut := c.segmentsOut.tail }

/-- The connection waits for the peer's last segments after both streams have ended. -/
def Lingers (c : TCPConnection) : Prop :=
  c.lingerAfterStreamsFinish = true ∧ c.timeSinceLastSegmentReceived < 10 * c.cfg.rtTimeout.toNat

/-- The connection lingers after a segment, and again when the time since then has wrapped. -/
def MayLinger (c : TCPConnection) : Prop :=
  c.lingerAfterStreamsFinish = true ∧ 0 < c.cfg.rtTimeout.toNat

theorem Lingers.mayLinger {c : TCPConnection} (lingers : c.Lingers) : c.MayLinger := by
  obtain ⟨linger, soon⟩ := lingers
  exact ⟨linger, by omega⟩

/-- A tick does not make the time since the last segment wrap. -/
def InTime (c : TCPConnection) : Event → Prop
  | .tick msSinceLastTick => c.timeSinceLastSegmentReceived + msSinceLastTick < 2 ^ 64
  | _ => True

instance (c : TCPConnection) : (event : Event) → Decidable (c.InTime event)
  | .tick msSinceLastTick =>
      inferInstanceAs (Decidable (c.timeSinceLastSegmentReceived + msSinceLastTick < 2 ^ 64))
  | .segmentReceived _ | .write _ | .endInputStream | .connect | .read _ | .dequeue =>
      inferInstanceAs (Decidable True)

/-- With both streams at their end only what is in flight, or lingering, keeps a connection. -/
theorem active_of_eof {c : TCPConnection} (outbound : c.outboundStream.eof = true)
    (inbound : c.inboundStream.eof = true) :
    c.active = true ↔ c.bytesInFlight ≠ 0 ∨ c.Lingers := by
  rw [outboundStream] at outbound
  rw [inboundStream] at inbound
  simp only [active, outbound, inbound, Bool.and_self, if_true, bytesInFlight, Lingers]
  by_cases idle : c.sender.bytesInFlight = 0
  · simp [idle]
  · simp [idle]

/-- Before that an error, and nothing else, ends it. -/
theorem active_of_not_eof {c : TCPConnection}
    (unfinished : ¬ (c.outboundStream.eof = true ∧ c.inboundStream.eof = true)) :
    c.active = true ↔ c.outboundStream.error = false ∧ c.inboundStream.error = false := by
  have notBoth : (c.sender.stream.eof && c.receiver.streamOut.eof) = false := by
    rw [← Bool.not_eq_true, Bool.and_eq_true]
    exact unfinished
  simp [active, notBoth, outboundStream, inboundStream]

/-- A connection is over without an error when both streams are and nothing is in flight. -/
theorem eof_of_inactive {c : TCPConnection} (inactive : c.active = false)
    (outbound : c.outboundStream.error = false) (inbound : c.inboundStream.error = false) :
    c.outboundStream.eof = true ∧ c.inboundStream.eof = true ∧ c.bytesInFlight = 0 := by
  have notActive : ¬ c.active = true := by rw [inactive]; exact Bool.false_ne_true
  have finished : c.outboundStream.eof = true ∧ c.inboundStream.eof = true := by
    by_contra unfinished
    exact notActive ((active_of_not_eof unfinished).mpr ⟨outbound, inbound⟩)
  refine ⟨finished.1, finished.2, ?_⟩
  by_contra inFlight
  exact notActive ((active_of_eof finished.1 finished.2).mpr (.inl inFlight))

/-- What a sender keeps through everything the arrival of `segment` makes it do. -/
structure Resilient (segment : TCPSegment) (Holds : TCPSender → Prop) : Prop where
  fillWindow : ∀ s, Holds s → Holds s.fillWindow
  ackReceived : segment.header.ack = true → ∀ s, Holds s →
    Holds (s.ackReceived segment.header.ackno segment.header.win)
  sendEmptySegment : ∀ s, Holds s → Holds s.sendEmptySegment

theorem Resilient.respond {segment : TCPSegment} {Holds : TCPSender → Prop}
    (resilient : Resilient segment Holds) {c : TCPConnection} (holds : Holds c.sender) :
    Holds (c.respond segment) := by
  have keptAlive :
      Holds (if c.isKeepAlive segment then c.sender.sendEmptySegment else c.sender) := by
    split
    · exact resilient.sendEmptySegment _ holds
    · exact holds
  have filled := resilient.fillWindow _ keptAlive
  unfold TCPConnection.respond
  dsimp only
  generalize (if c.isKeepAlive segment then c.sender.sendEmptySegment else c.sender) = s at *
  split
  · split
    · exact resilient.sendEmptySegment _ filled
    · exact filled
  · exact keptAlive

/-- The connection after its receiver has taken a segment and its sender has answered. -/
def handled (c : TCPConnection) (segment : TCPSegment) (receiver : TCPReceiver) :
    TCPConnection :=
  let c := { c with
    timeSinceLastSegmentReceived := 0
    lingerAfterStreamsFinish :=
      if segment.header.fin = true ∧ c.outboundStream.inputEnded = false then false
      else c.lingerAfterStreamsFinish
    receiver := receiver
    sender :=
      if segment.header.ack = true then
        c.sender.ackReceived segment.header.ackno segment.header.win
      else c.sender }
  { c with sender := c.respond segment }.popAndSendSegments

theorem segmentReceived_eq {c : TCPConnection} {segment : TCPSegment}
    (isActive : c.active = true) (noRst : segment.header.rst = false) :
    c.segmentReceived segment = (c.receiver.segmentReceived segment).map (c.handled segment) := by
  unfold segmentReceived
  rw [if_neg (by simp [isActive])]
  dsimp only
  rw [if_neg (by simp [noRst])]
  cases c.receiver.segmentReceived segment <;> rfl

/-- What `segment_received` does: nothing when inactive, an abort on RST, otherwise all parts. -/
inductive Received (c : TCPConnection) (segment : TCPSegment) : TCPConnection → Prop where
  | ignored (inactive : c.active = false) : Received c segment c
  | reset (isActive : c.active = true) (isRst : segment.header.rst = true) :
      Received c segment { c with timeSinceLastSegmentReceived := 0 }.setErrors
  | handled (isActive : c.active = true) (noRst : segment.header.rst = false)
      (linger : Bool) (receiver : TCPReceiver) (sender : TCPSender)
      (received : c.receiver.segmentReceived segment = some receiver)
      (kept : ∀ Holds : TCPSender → Prop, Resilient segment Holds → Holds c.sender →
        Holds sender) :
      Received c segment
        { c with
          timeSinceLastSegmentReceived := 0
          lingerAfterStreamsFinish := linger
          receiver := receiver
          sender := sender }.popAndSendSegments

theorem received_of_segmentReceived {c c' : TCPConnection} {segment : TCPSegment}
    (next : c.segmentReceived segment = some c') : Received c segment c' := by
  by_cases inactive : c.active = false
  · rw [segmentReceived, if_pos inactive] at next
    cases next
    exact .ignored inactive
  have isActive : c.active = true := by simpa using inactive
  by_cases isRst : segment.header.rst = true
  · rw [segmentReceived, if_neg inactive] at next
    simp only [if_pos isRst] at next
    cases next
    exact .reset isActive isRst
  have noRst : segment.header.rst = false := by simpa using isRst
  rw [segmentReceived_eq isActive noRst] at next
  obtain ⟨receiver, received, rfl⟩ := Option.map_eq_some_iff.mp next
  refine .handled isActive noRst _ receiver _ received ?_
  intro Holds resilient holds
  apply resilient.respond
  dsimp only
  split
  · rename_i isAck
    exact resilient.ackReceived isAck _ holds
  · exact holds

/-! ## The queue -/

/-- A connection moves exactly what its sender has queued. -/
theorem popAndSendSegments_queue_iff (c : TCPConnection) :
    c.popAndSendSegments.segmentsOut = c.segmentsOut ↔ c.sender.segmentsOut = [] := by
  simp [popAndSendSegments]

/-- A segment that takes up sequence numbers is answered. -/
theorem respond_ne_nil (c : TCPConnection) {segment : TCPSegment}
    (nonempty : segment.lengthInSequenceSpace ≠ 0) : (c.respond segment).segmentsOut ≠ [] := by
  unfold respond
  dsimp only
  rw [if_pos nonempty]
  generalize (if c.isKeepAlive segment then c.sender.sendEmptySegment else c.sender) = s
  split
  · rw [(sendEmptySegment_spec _).2]
    simp
  · rename_i queued
    simpa using queued

/-- And an active connection sends the answer. -/
theorem handled_emits (c : TCPConnection) {segment : TCPSegment} (receiver : TCPReceiver)
    (nonempty : segment.lengthInSequenceSpace ≠ 0) :
    (c.handled segment receiver).segmentsOut ≠ c.segmentsOut :=
  (popAndSendSegments_queue_iff _).not.mpr (respond_ne_nil _ nonempty)

/-! ## Stamps -/

/-- A stamp writes the acknowledgment number and the window where there is none. -/
theorem stamp_eq (ackno : Option WrappingInt32) (winSize : Nat) (segment : TCPSegment) :
    stamp ackno winSize segment =
      { segment with
        header := { segment.header with
          ack := segment.header.ack || ackno.isSome
          ackno :=
            if segment.header.ack then segment.header.ackno else ackno.getD segment.header.ackno
          win :=
            if segment.header.win = 0 then UInt16.ofNat winSize else segment.header.win } } := by
  rcases segment with ⟨⟨_, _, _, _, _, _, ack, _, _, _, _, win, _, _⟩, _⟩
  by_cases unset : win = 0
  · cases ackno <;> cases ack <;> simp [stamp, unset]
  · cases ackno <;> cases ack <;> simp [stamp, unset]

theorem stamp_ackno {segment : TCPSegment} (noAck : segment.header.ack = false)
    (ackno : WrappingInt32) (winSize : Nat) :
    (stamp (some ackno) winSize segment).header.ack = true ∧
      (stamp (some ackno) winSize segment).header.ackno = ackno := by
  rw [stamp_eq, noAck]
  exact ⟨rfl, rfl⟩

/-! ## Time -/

/-- A tick that stays within the attempts lets the sender's clock run. -/
theorem tick_of_few (c : TCPConnection) {msSinceLastTick : Nat}
    (few : ¬ (c.sender.tick msSinceLastTick).consecutiveRetransmissionsCount >
      TCPConfig.maxRetxAttempts) :
    c.tick msSinceLastTick =
      { c with
        sender := c.sender.tick msSinceLastTick
        timeSinceLastSegmentReceived :=
          add64 c.timeSinceLastSegmentReceived msSinceLastTick }.popAndSendSegments := by
  have carriesOn : giveUpIfExhausted { c with sender := c.sender.tick msSinceLastTick } =
      { c with sender := c.sender.tick msSinceLastTick } := if_neg few
  rw [tick, carriesOn]
  rfl

/-- A tick of a connection with nothing outstanding only lets the clocks run. -/
theorem tick_of_idle {c : TCPConnection} (idle : c.sender.segmentsOutstanding = [])
    (counted : c.sender.consecutiveRetransmissionsCount = 0) (msSinceLastTick : Nat) :
    (c.sender.tick msSinceLastTick).consecutiveRetransmissionsCount = 0 ∧
      c.tick msSinceLastTick =
        { c with
          sender := c.sender.tick msSinceLastTick
          timeSinceLastSegmentReceived := add64 c.timeSinceLastSegmentReceived
            msSinceLastTick }.popAndSendSegments := by
  have stays : (c.sender.tick msSinceLastTick).consecutiveRetransmissionsCount = 0 := by
    by_contra running
    refine counted_tick (fun some => ?_) msSinceLastTick (Nat.pos_of_ne_zero running) ?_
    · exact absurd counted some.ne'
    · rw [(c.sender.tick_spec msSinceLastTick).1.segmentsOutstanding, idle]
  exact ⟨stays, c.tick_of_few (by rw [stays]; exact Nat.not_lt_zero _)⟩

/-- The sender with nothing but a RST in its output queue. -/
def withRst (s : TCPSender) : TCPSender :=
  { s with segmentsOut := [s.numbered { header := { rst := true } }] }

/-- A tick that exceeds the attempts replaces what was queued by a RST and sets the errors. -/
theorem tick_of_many (c : TCPConnection) {msSinceLastTick : Nat}
    (many : (c.sender.tick msSinceLastTick).consecutiveRetransmissionsCount >
      TCPConfig.maxRetxAttempts) :
    c.tick msSinceLastTick =
      { c with
        sender := withRst (c.sender.tick msSinceLastTick)
        timeSinceLastSegmentReceived :=
          add64 c.timeSinceLastSegmentReceived msSinceLastTick }.setErrors.popAndSendSegments := by
  have givesUp : giveUpIfExhausted { c with sender := c.sender.tick msSinceLastTick } =
      { c with sender := c.sender.tick msSinceLastTick }.positiveUncleanShutdown := if_pos many
  rw [tick, givesUp]
  simp only [positiveUncleanShutdown, sendEmptySegmentWithThisHeader]
  rw [sendSegment_of_empty _ _ rfl]
  simp only [popAndSendSegments, setErrors, withRst, List.nil_append, List.map_nil,
    List.append_nil]
  rfl

/-- What a tick can do: let the clock of the sender run, or give the connection up. -/
inductive Elapsed (c : TCPConnection) (msSinceLastTick : Nat) : Prop where
  | waited
      (few : ¬ (c.sender.tick msSinceLastTick).consecutiveRetransmissionsCount >
        TCPConfig.maxRetxAttempts)
      (ran : c.tick msSinceLastTick =
        { c with
          sender := c.sender.tick msSinceLastTick
          timeSinceLastSegmentReceived :=
            add64 c.timeSinceLastSegmentReceived msSinceLastTick }.popAndSendSegments)
  | gaveUp
      (many : (c.sender.tick msSinceLastTick).consecutiveRetransmissionsCount >
        TCPConfig.maxRetxAttempts)
      (ran : c.tick msSinceLastTick =
        { c with
          sender := withRst (c.sender.tick msSinceLastTick)
          timeSinceLastSegmentReceived :=
            add64 c.timeSinceLastSegmentReceived msSinceLastTick }.setErrors.popAndSendSegments)

theorem elapsed (c : TCPConnection) (msSinceLastTick : Nat) : Elapsed c msSinceLastTick := by
  by_cases many : (c.sender.tick msSinceLastTick).consecutiveRetransmissionsCount >
    TCPConfig.maxRetxAttempts
  · exact .gaveUp many (c.tick_of_many many)
  · exact .waited many (c.tick_of_few many)

/-! ## What a call does to the receiver -/

/-- The receiver with its output set to error. -/
def withError (r : TCPReceiver) : TCPReceiver :=
  { r with reassembler := { r.reassembler with output := r.reassembler.output.setError } }

/-- What a call can do to the receiver of its connection. -/
inductive Moves (c : TCPConnection) : Event → TCPReceiver → Prop where
  | stay (event : Event) : Moves c event c.receiver
  | error (event : Event) : Moves c event (withError c.receiver)
  | read (len : Nat) : Moves c (.read len) (c.receiver.popStreamOut len)
  | arrive {segment : TCPSegment} {r' : TCPReceiver} (isActive : c.active = true)
      (noRst : segment.header.rst = false)
      (received : c.receiver.segmentReceived segment = some r') :
      Moves c (.segmentReceived segment) r'

theorem moves_of_step {c c' : TCPConnection} {event : Event} (next : c.step event = some c') :
    Moves c event c'.receiver := by
  cases event with
  | segmentReceived segment =>
      cases received_of_segmentReceived next with
      | ignored _ => exact .stay _
      | reset _ _ => exact .error _
      | handled isActive noRst _ _ _ received _ => exact .arrive isActive noRst received
  | tick msSinceLastTick =>
      cases next
      cases c.elapsed msSinceLastTick with
      | gaveUp _ ran =>
          rw [ran]
          exact .error _
      | waited _ ran =>
          rw [ran]
          exact .stay _
  | read len =>
      cases next
      exact .read len
  | write _ | endInputStream | connect | dequeue =>
      cases next
      exact .stay _

/-! ## What a sender keeps through every call -/

/-- What a sender keeps through every call on its connection but the close. -/
structure Steady (Holds : TCPSender → Prop) : Prop where
  fillWindow : ∀ s, Holds s → Holds s.fillWindow
  ackReceived : ∀ s ackno windowSize, Holds s → Holds (s.ackReceived ackno windowSize)
  sendEmptySegment : ∀ s, Holds s → Holds s.sendEmptySegment
  write : ∀ s data, Holds s → Holds { s with stream := (s.stream.write data).1 }.fillWindow
  tick : ∀ s msSinceLastTick, Holds s → Holds (s.tick msSinceLastTick)
  requeue : ∀ s queue, Holds s → Holds { s with segmentsOut := queue }
  setError : ∀ s, Holds s → Holds { s with stream := s.stream.setError }

theorem Steady.resilient {Holds : TCPSender → Prop} (steady : Steady Holds)
    (segment : TCPSegment) : Resilient segment Holds :=
  ⟨steady.fillWindow, fun _ s holds => steady.ackReceived s _ _ holds, steady.sendEmptySegment⟩

theorem Steady.step {Holds : TCPSender → Prop} (steady : Steady Holds) {c c' : TCPConnection}
    {event : Event} (holds : Holds c.sender)
    (whenClosed : event = .endInputStream →
      Holds { c.sender with stream := c.sender.stream.endInput }.fillWindow)
    (next : c.step event = some c') : Holds c'.sender := by
  cases event with
  | segmentReceived segment =>
      cases received_of_segmentReceived next with
      | ignored _ => exact holds
      | reset _ _ => exact steady.setError _ holds
      | handled _ _ _ _ _ _ kept =>
          exact steady.requeue _ [] (kept _ (steady.resilient segment) holds)
  | write data =>
      cases next
      exact steady.requeue _ [] (steady.write _ data holds)
  | endInputStream =>
      cases next
      exact steady.requeue _ [] (whenClosed rfl)
  | connect =>
      cases next
      exact steady.requeue _ [] (steady.fillWindow _ holds)
  | tick msSinceLastTick =>
      cases next
      have ticked := steady.tick _ msSinceLastTick holds
      cases c.elapsed msSinceLastTick with
      | gaveUp _ ran =>
          rw [ran]
          exact steady.requeue _ [] (steady.setError _ (steady.requeue _ _ ticked))
      | waited _ ran =>
          rw [ran]
          exact steady.requeue _ [] ticked
  | read len =>
      cases next
      exact holds
  | dequeue =>
      cases next
      exact holds

/-- Between two calls the sender's own queue is empty. -/
theorem flushed_of_step {c c' : TCPConnection} {event : Event}
    (flushed : c.sender.segmentsOut = []) (next : c.step event = some c') :
    c'.sender.segmentsOut = [] := by
  cases event with
  | segmentReceived segment =>
      cases received_of_segmentReceived next with
      | ignored _ => exact flushed
      | reset _ _ => exact flushed
      | handled _ _ _ _ _ _ _ => rfl
  | tick msSinceLastTick =>
      cases next
      rfl
  | write _ | endInputStream | connect =>
      cases next
      rfl
  | read _ | dequeue =>
      cases next
      exact flushed

/-- Only the close ends the outbound stream. -/
theorem steady_inputEnded (ended : Bool) : Steady (fun s => s.stream.inputEnded = ended) := by
  have rounds : KeptByRounds (fun s => s.stream.inputEnded = ended) := by
    refine ⟨fun s segment windowZeroFlag _ same => ?_, fun _ _ _ => id, fun _ => id⟩
    unfold sendSegment
    dsimp only
    split <;> exact same
  refine ⟨fun _ => rounds.fillWindow, ?_, fun s => rounds.send s {} false ⟨rfl, rfl⟩, ?_, ?_,
    fun _ _ => id, fun _ => id⟩
  · intro s ackno windowSize same
    rw [ackReceived_eq]
    split
    · exact same
    · refine rounds.fillWindow ?_
      rw [(s.acknowledge_core _ _).stream]
      exact same
  · intro s data same
    exact rounds.fillWindow ((s.stream.write_inputEnded data).trans same)
  · intro s msSinceLastTick same
    rw [(s.tick_spec msSinceLastTick).1.stream]
    exact same

theorem outboundEnded_of_step {c c' : TCPConnection} {event : Event}
    (next : c.step event = some c') (stays : event ≠ .endInputStream) :
    c'.outboundStream.inputEnded = c.outboundStream.inputEnded :=
  (steady_inputEnded _).step rfl (fun close => absurd close stays) next

theorem steady_settled (isn : WrappingInt32) :
    Steady (fun s => ∃ written firsts, Settled isn written firsts s) where
  fillWindow := by
    rintro s ⟨_, _, settled⟩
    obtain ⟨_, settled', _⟩ := settled.fillWindow
    exact ⟨_, _, settled'⟩
  ackReceived := by
    rintro s ackno windowSize ⟨_, _, settled⟩
    obtain ⟨_, settled', _⟩ := settled.ackReceived ackno windowSize
    exact ⟨_, _, settled'⟩
  sendEmptySegment := by
    rintro s ⟨_, _, settled⟩
    exact ⟨_, _, settled.sendEmptySegmentWithThisHeader rfl rfl⟩
  write := by
    rintro s data ⟨_, _, settled⟩
    obtain ⟨_, settled', _⟩ := settled.write data
    exact ⟨_, _, settled'⟩
  tick := by
    rintro s msSinceLastTick ⟨_, _, settled⟩
    exact ⟨_, _, settled.tick msSinceLastTick⟩
  requeue := by
    rintro s queue ⟨_, _, settled⟩
    exact ⟨_, _, settled.requeue queue⟩
  setError := by
    rintro s ⟨_, _, settled⟩
    exact ⟨_, _, settled.setError⟩

/-- The sender of a connection is settled between any two calls. -/
theorem settled_of_reaches {cfg : TCPConfig} {random : UInt32} {c : TCPConnection}
    (reached : Reaches step Always (new cfg random) c) :
    ∃ written firsts, Settled (cfg.fixedIsn.getD ⟨random⟩) written firsts c.sender := by
  refine reached.invariant
    (fun c => ∃ written firsts, Settled (cfg.fixedIsn.getD ⟨random⟩) written firsts c.sender)
    ⟨_, _, settled_new _ _ _ _⟩ ?_
  intro c event c' holds _ next
  refine (steady_settled _).step holds (fun _ => ?_) next
  obtain ⟨_, _, settled⟩ := holds
  obtain ⟨_, settled', _⟩ := settled.endInput
  exact ⟨_, _, settled'⟩

end Sponge.TCPConnection
