import Sponge.Connection.Window
import Sponge.Network.Runs
import Sponge.Network.Sent

/-!
# Flow control

A receiver advertises as many sequence numbers as its buffer has room for, and a sender
stays within what was advertised except for the probes of a closed window, of one
sequence number each.  So whatever the network does, the bytes that have been sent and
not yet read by the peer's application fit in the peer's buffer, apart from the probes.
-/

namespace Sponge

open TCPSender TCPReceiver Tiling

/-! ## The sender stays within the window -/

namespace TCPSender

/-- The window ends by `edge`, and so does everything outstanding but the probes. -/
structure Fitting (edge : Nat) (s : TCPSender) : Prop where
  window : s.finSent = false → s.lastAckno + s.windowSize ≤ edge
  entries : ∀ entry ∈ s.segmentsOutstanding, entry.windowZeroFlag = false → entry.stop ≤ edge
  probes : ∀ entry ∈ s.segmentsOutstanding, entry.windowZeroFlag = true →
    entry.segment.lengthInSequenceSpace = 1

/-- How many probes are outstanding. -/
def probesOut (s : TCPSender) : Nat :=
  (s.segmentsOutstanding.filter Outstanding.windowZeroFlag).length

variable {isn : WrappingInt32} {written : Bytes} {firsts : List TCPSegment} {s s' : TCPSender}
  {edge : Nat}

theorem Fitting.mono (fitting : Fitting edge s) {later : Nat} (further : edge ≤ later) :
    Fitting later s :=
  ⟨fun notSent => (fitting.window notSent).trans further,
    fun entry member plain => (fitting.entries entry member plain).trans further, fitting.probes⟩

theorem Fitting.congr (fitting : Fitting edge s) (window : s'.windowSize = s.windowSize)
    (lastAckno : s'.lastAckno = s.lastAckno) (finSent : s'.finSent = s.finSent)
    (queue : s'.segmentsOutstanding = s.segmentsOutstanding) : Fitting edge s' := by
  refine ⟨?_, ?_, ?_⟩
  · rw [window, lastAckno, finSent]
    exact fitting.window
  · rw [queue]
    exact fitting.entries
  · rw [queue]
    exact fitting.probes

/-- What an entry of the queue is, when it was added for `segments`. -/
theorem bounds_of_mem_enqueue {windowZeroFlag : Bool} {position : Nat} {segments : List TCPSegment}
    {entry : Outstanding} (member : entry ∈ enqueue windowZeroFlag position segments) :
    entry.windowZeroFlag = windowZeroFlag ∧ position ≤ entry.absSeqno ∧
      entry.stop ≤ position + span TCPSegment.lengthInSequenceSpace segments ∧
      entry.segment ∈ segments := by
  obtain ⟨placed, inLayout, rfl⟩ := List.mem_map.mp member
  exact ⟨rfl, bounds_of_mem_layout inLayout⟩

/-- New entries end by `edge`, or are probes of one sequence number. -/
theorem Fitting.enqueue (fitting : Fitting edge s) {windowZeroFlag : Bool} {position : Nat}
    {segments : List TCPSegment}
    (fits : segments ≠ [] → windowZeroFlag = false →
      position + span TCPSegment.lengthInSequenceSpace segments ≤ edge)
    (single : windowZeroFlag = true → ∀ segment ∈ segments, segment.lengthInSequenceSpace = 1)
    (notLess : s'.finSent = false → s.finSent = false) (window : s'.windowSize = s.windowSize)
    (lastAckno : s'.lastAckno = s.lastAckno)
    (queue : s'.segmentsOutstanding =
      s.segmentsOutstanding ++ TCPSender.enqueue windowZeroFlag position segments) :
    Fitting edge s' := by
  refine ⟨fun notSent => ?_, fun entry member plain => ?_, fun entry member isProbe => ?_⟩
  · rw [window, lastAckno]
    exact fitting.window (notLess notSent)
  · rw [queue] at member
    rcases List.mem_append.mp member with old | new
    · exact fitting.entries entry old plain
    · obtain ⟨flag, _, bounded, inSegments⟩ := bounds_of_mem_enqueue new
      exact bounded.trans (fits (List.ne_nil_of_mem inSegments) (flag.symm.trans plain))
  · rw [queue] at member
    rcases List.mem_append.mp member with old | new
    · exact fitting.probes entry old isProbe
    · obtain ⟨flag, _, _, inSegments⟩ := bounds_of_mem_enqueue new
      exact single (flag.symm.trans isProbe) _ inSegments

theorem Fitting.fillWindow (fitting : Fitting edge s) (accounted : Accounted isn written firsts s)
    (positive : 1 ≤ edge) : Fitting edge s.fillWindow := by
  have acked := accounted.acked
  cases accounted.filled with
  | ended _ ran =>
      rw [ran]
      exact fitting
  | opened notSent unsent fresh ran =>
      rw [ran]
      refine fitting.enqueue (fun _ _ => ?_) (fun isProbe => absurd isProbe Bool.false_ne_true)
        (fun _ => notSent) rfl rfl rfl
      rw [unsent]
      exact positive
  | sent notSent started _ segments ran fills =>
      rw [ran]
      have most := fills.span_le
      rw [allowance] at most
      refine fitting.enqueue (fun nonempty plain => ?_) (fun isProbe segment member => ?_)
        (fun _ => notSent) rfl rfl rfl
      · -- something is sent, so the window reaches beyond what has been sent before
        have window := fitting.window notSent
        have some : span TCPSegment.lengthInSequenceSpace segments ≠ 0 := by
          rwa [ne_eq, span_eq_zero_iff fills.nonempty]
        rw [plain, Bool.toNat_false] at most
        omega
      · -- a probe is all that is allowed
        have closed : s.windowSize = 0 := by
          rw [TCPSender.probes, Bool.and_eq_true, decide_eq_true_iff] at isProbe
          exact isProbe.1
        obtain ⟨start, placed⟩ :=
          layout_of_mem TCPSegment.lengthInSequenceSpace member 0
        obtain ⟨_, bounded, _⟩ := bounds_of_mem_layout placed
        have nonempty := fills.nonempty segment member
        rw [isProbe, Bool.toNat_true] at most
        change start + segment.lengthInSequenceSpace ≤ _ at bounded
        omega

/-- An acknowledgment of a window that ends by `edge`. -/
theorem Fitting.ackReceived (fitting : Fitting edge s) (accounted : Accounted isn written firsts s)
    (positive : 1 ≤ edge) {ackno : WrappingInt32} {windowSize : UInt16}
    (within : s.finSent = false →
      unwrap ackno s.isn s.lastAckno + windowSize.toNat ≤ edge) :
    Fitting edge (s.ackReceived ackno windowSize) := by
  rcases accounted.ackReceived_cases ackno windowSize with ignored | ⟨_, accepted, accounted'⟩
  · rw [ignored]
    exact fitting
  · rw [accepted]
    have core := s.acknowledge_core (unwrap ackno s.isn s.lastAckno) windowSize.toNat
    have kept : ∀ entry ∈ (s.acknowledge (unwrap ackno s.isn s.lastAckno)
        windowSize.toNat).segmentsOutstanding, entry ∈ s.segmentsOutstanding := by
      intro entry member
      rw [core.segmentsOutstanding] at member
      exact (popAcknowledged_suffix _ _).subset member
    refine Fitting.fillWindow ⟨fun notSent => ?_, fun entry member => ?_, fun entry member => ?_⟩
      accounted' positive
    · rw [core.finSent] at notSent
      have before := fitting.window notSent
      have now := within notSent
      rw [core.lastAckno, core.windowSize]
      dsimp only
      omega
    · exact fitting.entries entry (kept entry member)
    · exact fitting.probes entry (kept entry member)

/-- Entries laid end to end reach past `edge` by one for each probe. -/
theorem span_le_of_fitting {entries : List Outstanding} {start : Nat} {segments : List TCPSegment}
    (laid : entries.map Outstanding.placed =
      layout TCPSegment.lengthInSequenceSpace start segments)
    (fits : ∀ entry ∈ entries, entry.windowZeroFlag = false → entry.stop ≤ edge)
    (single : ∀ entry ∈ entries, entry.windowZeroFlag = true →
      entry.segment.lengthInSequenceSpace = 1) :
    start + span TCPSegment.lengthInSequenceSpace segments ≤
      max start edge + (entries.filter Outstanding.windowZeroFlag).length := by
  induction entries generalizing start segments with
  | nil =>
      cases segments with
      | nil => exact (Nat.le_max_left _ _).trans (Nat.le_add_right _ _)
      | cons _ _ => cases laid
  | cons entry entries ih =>
      cases segments with
      | nil => cases laid
      | cons segment segments =>
          obtain ⟨first, later⟩ := List.cons.inj laid
          obtain ⟨position, same⟩ := Prod.mk.inj first
          have rest := ih later (fun entry member => fits entry (List.mem_cons_of_mem _ member))
            fun entry member => single entry (List.mem_cons_of_mem _ member)
          rw [span]
          cases flag : entry.windowZeroFlag with
          | false =>
              have ends := fits entry List.mem_cons_self flag
              rw [Outstanding.stop, position, same] at ends
              rw [List.filter_cons_of_neg (by simp [flag])]
              omega
          | true =>
              have one := single entry List.mem_cons_self flag
              rw [same] at one
              rw [List.filter_cons_of_pos flag, List.length_cons]
              omega

/-- What has been sent ends by `edge`, or is acknowledged, but for the outstanding probes. -/
theorem Fitting.nextSeqno_le (fitting : Fitting edge s)
    (accounted : Accounted isn written firsts s) :
    s.nextSeqno ≤ max s.lastAckno edge + s.probesOut := by
  obtain ⟨done, rest, split, kept, below, _⟩ := exists_pending accounted.nonempty 0 s.lastAckno
  have reach := span_le_of_fitting (accounted.outstanding.trans kept) fitting.entries fitting.probes
  have total := accounted.span_eq
  rw [split, span_append] at total
  change _ ≤ _ + s.probesOut at reach
  rcases below with rfl | bounded
  · rw [span] at reach total
    omega
  · omega

end TCPSender

/-! ## What an endpoint advertises -/

namespace TCPConnection

/-- What a call queues is stamped with the acknowledgment and the window at its end. -/
theorem stamped_of_step {c c' : TCPConnection} (plain : Plain c.sender) {event : Event}
    (stays : event ≠ .dequeue) (next : c.step event = some c') :
    Plain c'.sender ∧ ∀ segment ∈ c'.segmentsOut,
      segment ∈ c.segmentsOut ∨ Emission.Current ⟨segment, c'.receiver⟩ := by
  obtain ⟨plain', s, queued, queue⟩ := queueing_plain.step plain stays next
  refine ⟨plain', fun segment member => ?_⟩
  rw [queue] at member
  rcases List.mem_append.mp member with old | new
  · exact .inl old
  · obtain ⟨original, inQueue, rfl⟩ := List.mem_map.mp new
    exact .inr (current_of_unstamped (queued.queued original inQueue) _)

end TCPConnection

/-- The window of a receiver ends where its buffer would be full. -/
theorem TCPReceiver.Sound.window_eq {isn : WrappingInt32} {stream : Bytes} {closed : Prop}
    {capacity : Nat} {r : TCPReceiver} {readBytes : Bytes} {held : Nat → Option UInt8}
    (sound : Sound isn stream closed capacity r readBytes held) (recived : r.synRecived = true) :
    r.absAckno + r.windowSize =
      1 + readBytes.length + capacity + (if r.streamOut.inputEnded then 1 else 0) := by
  have window := sound.refines.window
  change r.reassembler.nextIndex + r.windowSize = _ at window
  rw [absAckno, if_neg (by simp [recived])]
  omega

namespace Endpoint

/-- The sequence number at which the buffer of the endpoint, with the given capacity, ends. -/
def edge (e : Endpoint) (capacity : Nat) : Nat := 1 + e.readBytes.length + capacity

/-- Everything the endpoint queues it stamps. -/
def Stamps (e e' : Endpoint) : Prop :=
  Plain e'.conn.sender ∧ ∀ segment ∈ e'.emitted,
    segment ∈ e.emitted ∨ TCPConnection.Emission.Current ⟨segment, e'.conn.receiver⟩

variable {isn : WrappingInt32} {e e' : Endpoint}

theorem stamps_of_step (event : TCPConnection.Event) (plain : Plain e.conn.sender)
    (stays : event ≠ .dequeue) (next : e.conn.step event = some e'.conn)
    (wire : e'.wire = e.wire) : Stamps e e' := by
  obtain ⟨plain', stamped⟩ := TCPConnection.stamped_of_step plain stays next
  refine ⟨plain', fun segment member => ?_⟩
  rw [emitted, wire] at member
  rcases List.mem_append.mp member with queued | onWire
  · rcases stamped segment queued with old | new
    · exact .inl (List.mem_append_left _ old)
    · exact .inr new
  · exact .inl (List.mem_append_right _ onWire)

theorem stamps_act (plain : Plain e.conn.sender) (action : Act) : Stamps e (e.act action) := by
  cases action with
  | transmit => exact ⟨plain, fun segment member => .inl (mem_emitted_of_transmit member)⟩
  | connect => exact stamps_of_step .connect plain (by simp) rfl rfl
  | write data => exact stamps_of_step (.write data) plain (by simp) rfl rfl
  | endInputStream => exact stamps_of_step .endInputStream plain (by simp) rfl rfl
  | tick ms => exact stamps_of_step (.tick ms) plain (by simp) rfl rfl
  | read len => exact stamps_of_step (.read len) plain (by simp) rfl rfl

theorem stamps_receive (plain : Plain e.conn.sender) {segment : TCPSegment}
    (received : e.receive segment = some e') : Stamps e e' := by
  obtain ⟨conn, called, rest⟩ := Option.bind_eq_some_iff.mp received
  cases rest
  exact stamps_of_step (.segmentReceived segment) plain (by simp) called rfl

theorem fitting_act {edge : Nat} (emitting : Emitting isn e) (fitting : Fitting edge e.conn.sender)
    (positive : 1 ≤ edge) (action : Act) : Fitting edge (e.act action).conn.sender := by
  obtain ⟨firsts, settled⟩ := emitting.sending.settled
  have kept : ∀ stream : ByteStream, Fitting edge { e.conn.sender with stream := stream } :=
    fun _ => fitting.congr rfl rfl rfl rfl
  have flushed : ∀ s : TCPSender, Fitting edge s → Fitting edge { s with segmentsOut := [] } :=
    fun _ holds => holds.congr rfl rfl rfl rfl
  cases action with
  | connect => exact flushed _ (fitting.fillWindow settled.toAccounted positive)
  | write data => exact flushed _ ((kept _).fillWindow (settled.toAccounted.write data) positive)
  | endInputStream =>
      exact flushed _ ((kept _).fillWindow settled.toAccounted.endInput positive)
  | tick msSinceLastTick =>
      have same := (e.conn.sender.tick_spec msSinceLastTick).1
      have ticked := fitting.congr same.windowSize same.lastAckno same.finSent
        same.segmentsOutstanding
      rw [Endpoint.act]
      cases e.conn.elapsed msSinceLastTick with
      | gaveUp _ ran =>
          rw [ran]
          exact ticked.congr rfl rfl rfl rfl
      | waited _ ran =>
          rw [ran]
          exact flushed _ ticked
  | read _ | transmit => exact fitting

/-- Whatever an acknowledgment makes the sender send stays within the window it reports. -/
theorem resilient_fitting {segment : TCPSegment} {written : Bytes} {s₀ : TCPSender} {edge : Nat}
    (half : written.length + 2 < 2 ^ 31) (positive : 1 ≤ edge)
    (truthful : segment.header.ack = true → ∃ position, 1 ≤ position ∧ position < 2 ^ 31 ∧
      segment.header.ackno = wrap position isn ∧
      (s₀.finSent = true ∨ position + segment.header.win.toNat ≤ edge)) :
    TCPConnection.Resilient segment fun s =>
      (Sending isn written s ∧ TCPSender.Furthers written s₀ written s) ∧
        Fitting edge s where
  fillWindow := by
    rintro s ⟨sends, fitting⟩
    obtain ⟨firsts, settled⟩ := sends.1.settled
    exact ⟨(resilient_sending segment isn written s₀).fillWindow s sends,
      fitting.fillWindow settled.toAccounted positive⟩
  ackReceived := by
    rintro isAck s ⟨sends, fitting⟩
    obtain ⟨firsts, settled⟩ := sends.1.settled
    refine ⟨(resilient_sending segment isn written s₀).ackReceived isAck s sends,
      fitting.ackReceived settled.toAccounted positive fun notSent => ?_⟩
    obtain ⟨position, first, bounded, placed, closed | within⟩ := truthful isAck
    · exact absurd (notSent.symm.trans (sends.2.frozen closed).1) Bool.false_ne_true
    · have acked := settled.acked
      have limit := settled.nextSeqno_le
      rw [placed, settled.isn_eq, unwrap_of_near isn first (by omega) (.inl (by omega))]
      exact within
  sendEmptySegment := by
    rintro s ⟨sends, fitting⟩
    have same := s.sendEmptySegment_spec.1
    exact ⟨(resilient_sending segment isn written s₀).sendEmptySegment s sends,
      fitting.congr same.windowSize same.lastAckno same.finSent same.segmentsOutstanding⟩

theorem fitting_receive {edge : Nat} (emitting : Emitting isn e)
    (fitting : Fitting edge e.conn.sender) (half : e.accepted.length + 2 < 2 ^ 31)
    (positive : 1 ≤ edge) {segment : TCPSegment}
    (truthful : segment.header.ack = true → ∃ position, 1 ≤ position ∧ position < 2 ^ 31 ∧
      segment.header.ackno = wrap position isn ∧
      (e.FinSent ∨ position + segment.header.win.toNat ≤ edge))
    (received : e.receive segment = some e') : Fitting edge e'.conn.sender := by
  obtain ⟨conn, outcome, rfl⟩ := received_of_receive received
  cases outcome with
  | ignored _ => exact fitting
  | reset _ _ => exact fitting.congr rfl rfl rfl rfl
  | handled _ _ _ _ _ _ kept =>
      have answered := kept _ (resilient_fitting half positive truthful)
        ⟨⟨emitting.sending, .refl _ _⟩, fitting⟩
      exact answered.2.congr rfl rfl rfl rfl

end Endpoint

/-! ## One direction -/

open Endpoint

/-- `src` stays within what `dst` has room for, and that is what `dst` advertises. -/
structure Flowing (isn : WrappingInt32) (capacity : Nat) (src dst : Endpoint) : Prop where
  fitting : Fitting (dst.edge capacity) src.conn.sender
  advertised : ∀ segment ∈ dst.emitted, segment.header.ack = true →
    ∃ position, 1 ≤ position ∧ position ≤ dst.conn.receiver.absAckno ∧
      segment.header.ackno = wrap position isn ∧
      (src.FinSent ∨ position + segment.header.win.toNat ≤ dst.edge capacity)

section Direction

variable {isn : WrappingInt32} {capacity : Nat} {src src' dst dst' : Endpoint}

theorem edge_positive (e : Endpoint) (capacity : Nat) : 1 ≤ e.edge capacity := by
  rw [edge]
  omega

/-- The sending side moves on. -/
theorem Flowing.source (flowing : Flowing isn capacity src dst) (furthers : Furthers src src')
    (fitting : Fitting (dst.edge capacity) src'.conn.sender) :
    Flowing isn capacity src' dst := by
  refine ⟨fitting, fun segment member isAck => ?_⟩
  obtain ⟨position, first, reached, placed, closed | within⟩ :=
    flowing.advertised segment member isAck
  · exact ⟨position, first, reached, placed, .inl (furthers.frozen closed).1⟩
  · exact ⟨position, first, reached, placed, .inr within⟩

/-- The receiving side moves on. -/
theorem Flowing.destination (flowing : Flowing isn capacity src dst)
    (machine : src.sent.length + 2 < 2 ^ 64) (progress : Progress dst dst')
    (stamps : Stamps dst dst') {held : Nat → Option UInt8}
    (forward : dst.conn.receiver.absAckno ≤ dst'.conn.receiver.absAckno)
    (read : dst.readBytes.length ≤ dst'.readBytes.length)
    (sound : Sound isn src.sent src.FinSent capacity dst'.conn.receiver dst'.readBytes held) :
    Flowing isn capacity src dst' := by
  have further : dst.edge capacity ≤ dst'.edge capacity := by
    rw [edge, edge]
    omega
  refine ⟨flowing.fitting.mono further, fun segment member isAck => ?_⟩
  have old : segment ∈ dst.emitted → ∃ position, 1 ≤ position ∧
      position ≤ dst'.conn.receiver.absAckno ∧ segment.header.ackno = wrap position isn ∧
      (src.FinSent ∨ position + segment.header.win.toNat ≤ dst'.edge capacity) := by
    intro before
    obtain ⟨position, first, reached, placed, closed | within⟩ :=
      flowing.advertised segment before isAck
    · exact ⟨position, first, reached.trans forward, placed, .inl closed⟩
    · exact ⟨position, first, reached.trans forward, placed, .inr (within.trans further)⟩
  rcases progress.stamped segment member with before | acknowledges
  · exact old before
  rcases stamps.2 segment member with before | current
  · exact old before
  have known := acknowledges isAck
  have recived : dst'.conn.receiver.synRecived = true := by
    by_contra notYet
    rw [ackno, if_pos (by simpa using notYet)] at known
    cases known
  have window := sound.window_eq recived
  have win : segment.header.win.toNat = min dst'.conn.receiver.windowSize 65535 := current.win
  rw [sound.ackno_eq machine recived] at known
  refine ⟨_, ?_, Nat.le_refl _, (Option.some.inj known).symm, ?_⟩
  · rw [absAckno, if_neg (by simp [recived])]
    omega
  · cases ended : dst'.conn.receiver.streamOut.inputEnded with
    | true => exact .inl (sound.ended ended).1
    | false =>
        rw [ended, if_neg Bool.false_ne_true] at window
        rw [edge]
        exact .inr (by omega)

/-- What was sent and not read fits in the buffer, but for the probes. -/
theorem Flowing.sent_length_le (flowing : Flowing isn capacity src dst)
    (emitting : Emitting isn src)
    (acked : src.conn.sender.lastAckno ≤ dst.conn.receiver.absAckno)
    (paced : Paced isn capacity src dst) :
    src.sent.length ≤ dst.readBytes.length + capacity + src.conn.sender.probesOut := by
  obtain ⟨firsts, settled⟩ := emitting.sending.settled
  obtain ⟨held, sound⟩ := paced.sound
  have reach := flowing.fitting.nextSeqno_le settled.toAccounted
  rw [edge] at reach
  by_cases unsent : src.conn.sender.nextSeqno = 0
  · have nothing : src.sent.length = 0 := by
      rw [sent, sentPart, (settled.fresh unsent).bytesRead, List.take_zero, List.length_nil]
    omega
  have next : src.conn.sender.nextSeqno =
      src.sent.length + 1 + src.conn.sender.finSent.toNat := settled.nextSeqno_eq unsent
  cases recived : dst.conn.receiver.synRecived with
  | false =>
      rw [absAckno, if_pos recived] at acked
      omega
  | true =>
      have window := sound.window_eq recived
      cases ended : dst.conn.receiver.streamOut.inputEnded with
      | false =>
          rw [ended, if_neg Bool.false_ne_true] at window
          omega
      | true =>
          have closed : src.conn.sender.finSent = true := (sound.ended ended).1
          rw [ended, if_pos rfl] at window
          rw [closed, Bool.toNat_true] at next
          omega

end Direction

/-! ## The network -/

namespace Network

variable {cfg : Side → TCPConfig} {random : Side → UInt32} {n : Network}

/-- The stream of `side` and the window of its peer fit in half a cycle. -/
def HalfCycle (cfg : Side → TCPConfig) (n : Network) (side : Side) : Prop :=
  (n side).accepted.length + (cfg side.peer).recvCapacity + 2 < 2 ^ 31

/-- Both sides advertise what they have room for, and the other side stays within it. -/
structure Regulated (cfg : Side → TCPConfig) (random : Side → UInt32) (n : Network) : Prop
    extends Traced cfg random n where
  plain : ∀ side, Plain (n side).conn.sender
  flowing : ∀ side, HalfCycle cfg n side →
    Flowing (isn cfg random side) (cfg side.peer).recvCapacity (n side) (n side.peer)

theorem regulated_fresh (cfg : Side → TCPConfig) (random : Side → UInt32) :
    Regulated cfg random (fresh cfg random) where
  toTraced := traced_fresh cfg random
  plain := fun _ => ⟨fun _ member => absurd member List.not_mem_nil,
    fun _ member => absurd member List.not_mem_nil⟩
  flowing := fun _ _ =>
    ⟨⟨fun _ => edge_positive _ _, fun _ member => absurd member List.not_mem_nil,
      fun _ member => absurd member List.not_mem_nil⟩,
      fun _ member => absurd member List.not_mem_nil⟩

theorem HalfCycle.oneCycle {side : Side} (half : HalfCycle cfg n side) : OneCycle cfg n side := by
  rw [HalfCycle] at half
  rw [OneCycle]
  omega

/-- One side moves on; it stays within what its peer advertises, and advertises what it has. -/
theorem Regulated.update (regulated : Regulated cfg random n) {side : Side} {e : Endpoint}
    (traced : Traced cfg random (Function.update n side e))
    (progress : Progress (n side) e) (stamps : Stamps (n side) e)
    (fitting : HalfCycle cfg n side →
      Fitting ((n side.peer).edge (cfg side.peer).recvCapacity) e.conn.sender)
    (read : (n side).readBytes.length ≤ e.readBytes.length)
    (forward : OneCycle cfg n side.peer →
      (n side).conn.receiver.absAckno ≤ e.conn.receiver.absAckno) :
    Regulated cfg random (Function.update n side e) := by
  refine ⟨traced, ?_, Side.forall_update (P := fun side src dst =>
    src.accepted.length + (cfg side.peer).recvCapacity + 2 < 2 ^ 31 →
      Flowing (isn cfg random side) (cfg side.peer).recvCapacity src dst) ?_ ?_⟩
  · exact (Function.forall_update_iff n fun _ e => Plain e.conn.sender).mpr
      ⟨stamps.1, fun other _ => regulated.plain other⟩
  · intro half
    have grown := progress.furthers.grown.length_le
    have earlier : HalfCycle cfg n side := by
      rw [HalfCycle]
      omega
    exact (regulated.flowing side earlier).source progress.furthers (fitting earlier)
  · intro half
    have earlier : HalfCycle cfg n side.peer := half
    have flowing := regulated.flowing side.peer earlier
    have cycle : OneCycle cfg (Function.update n side e) side.peer := by
      rw [OneCycle, Function.update_of_ne side.peer_ne]
      omega
    have paced := traced.paced side.peer cycle
    rw [Function.update_of_ne side.peer_ne, Side.peer_peer, Function.update_self] at paced
    rw [Side.peer_peer] at flowing half ⊢
    obtain ⟨held, sound⟩ := paced.sound
    have shorter := sent_length_le (n side.peer)
    exact flowing.destination (by omega) progress stamps (forward earlier.oneCycle) read sound

theorem Regulated.step (regulated : Regulated cfg random n) {move : Move} {n' : Network}
    (carried : n.Carried move) (next : n.step move = some n') : Regulated cfg random n' := by
  have traced := regulated.toTraced.step carried next
  cases move with
  | act side action =>
      cases next
      have emitting := regulated.emitting side
      refine regulated.update traced (emitting.act action).2.1
        (stamps_act (regulated.plain side) action)
        (fun half => fitting_act emitting (regulated.flowing side half).fitting
          (edge_positive _ _) action) ?_ fun cycle => ?_
      · cases action with
        | read len =>
            rw [Endpoint.act, List.length_append]
            exact Nat.le_add_right _ _
        | connect | write _ | endInputStream | tick _ | transmit => exact Nat.le_refl _
      · have paced := regulated.paced side.peer cycle
        rw [Side.peer_peer] at paced
        obtain ⟨held, sound⟩ := paced.sound
        exact (act_sound sound action).1.ge
  | deliver side segment =>
      obtain ⟨e, received, rest⟩ := Option.bind_eq_some_iff.mp next
      cases rest
      have emitting := regulated.emitting side
      have sent : segment ∈ (n side.peer).emitted := List.mem_append_right _ carried
      refine regulated.update traced (emitting.receive received).2
        (stamps_receive (regulated.plain side) received)
        (fun half => ?_) ?_ fun cycle => ?_
      · have flowing := regulated.flowing side half
        have paced := regulated.paced side half.oneCycle
        rw [HalfCycle] at half
        obtain ⟨held, sound⟩ := paced.sound
        have bound := sound.absAckno_bound
        have shorter := sent_length_le (n side)
        refine fitting_receive emitting flowing.fitting (by omega) (edge_positive _ _)
          (fun isAck => ?_) received
        obtain ⟨position, first, reached, placed, within⟩ :=
          flowing.advertised segment sent isAck
        exact ⟨position, first, by omega, placed, within⟩
      · obtain ⟨conn, _, rfl⟩ := received_of_receive received
        exact Nat.le_refl _
      · have paced := regulated.paced side.peer cycle
        rw [OneCycle] at cycle
        rw [Side.peer_peer] at paced cycle
        obtain ⟨held, sound⟩ := paced.sound
        have shorter := sent_length_le (n side.peer)
        have issued := (regulated.emitting side.peer).issued segment sent
        obtain ⟨_, forward, _⟩ := receive_sound sound (by omega) issued.genuine received
        exact forward

theorem regulated_of_reaches (reached : Reaches step Carried (fresh cfg random) n) :
    Regulated cfg random n :=
  reached.invariant (Regulated cfg random) (regulated_fresh cfg random)
    fun _ _ _ regulated carried next => regulated.step carried next

/--
In every run of two endpoints, while the stream of `side` and the window of its peer fit
in half a cycle of sequence numbers: every outstanding segment that is not a probe ends
within the buffer that the peer's application leaves, a probe occupies one sequence
number, and so the bytes that were sent and that the peer's application has not read are
no more than the peer's capacity and the outstanding probes.
-/
theorem flow_is_controlled (cfg : Side → TCPConfig) (random : Side → UInt32)
    (reached : Reaches step Carried (fresh cfg random) n) (side : Side)
    (half : (n side).accepted.length + (cfg side.peer).recvCapacity + 2 < 2 ^ 31) :
    (∀ entry ∈ (n side).conn.sender.segmentsOutstanding,
      if entry.windowZeroFlag then entry.segment.lengthInSequenceSpace = 1
      else entry.stop ≤ 1 + (n side.peer).readBytes.length + (cfg side.peer).recvCapacity) ∧
      (n side).sent.length ≤ (n side.peer).readBytes.length + (cfg side.peer).recvCapacity +
        (n side).conn.sender.probesOut := by
  have regulated := regulated_of_reaches reached
  have flowing := regulated.flowing side half
  refine ⟨fun entry member => ?_, ?_⟩
  · split
    · rename_i isProbe
      exact flowing.fitting.probes entry member isProbe
    · rename_i plain
      exact flowing.fitting.entries entry member (by simpa using plain)
  · exact flowing.sent_length_le (regulated.emitting side)
      (regulated.conveying side (HalfCycle.oneCycle half)).acked
      (regulated.paced side (HalfCycle.oneCycle half))

/-- A probe of one byte is outstanding when the peer's application has not read anything. -/
theorem flow_is_controlled_probe :
    ∃ n, Reaches step Carried
        (fresh (fun _ => { recvCapacity := 1, sendCapacity := 4 }) (fun _ => 7)) n ∧
      (n .a).conn.sender.probesOut = 1 ∧ (n .a).sent = [104, 105] ∧
      (n .a).sent.length ≤ (n .b).readBytes.length + 1 + (n .a).conn.sender.probesOut := by
  have ran : (execute step Carried
      (fresh (fun _ => { recvCapacity := 1, sendCapacity := 4 }) (fun _ => 7))
      [fun _ => .act .a .connect, fun _ => .act .a .transmit,
        fun n => .deliver .b ((n .a).wire.headD {}), fun _ => .act .b .transmit,
        fun n => .deliver .a ((n .b).wire.headD {}), fun _ => .act .a (.write [104, 105]),
        fun _ => .act .a .transmit, fun _ => .act .a .transmit,
        fun n => .deliver .b ((n .a).wire.getLastD {}), fun _ => .act .b .transmit,
        fun n => .deliver .a ((n .b).wire.getLastD {})]).any
      (fun n => decide ((n .a).accepted = [104, 105] ∧ (n .a).sent = [104, 105] ∧
        (n .a).conn.sender.probesOut = 1)) = true := by decide
  obtain ⟨n, reached, written, sent, probes⟩ := exists_reaches ran
  obtain ⟨_, bounded⟩ := flow_is_controlled _ _ reached .a (by rw [written]; decide)
  exact ⟨n, reached, probes, sent, bounded⟩

end Network

end Sponge
