import Sponge.Transmission.FillWindow
import Sponge.Transmission.Steps

/-!
# What a sender accounts for

`Accounted` ties a sender to the bytes written to it and to the non-empty
segments it has sent for the first time, oldest first.  Laid end to end these
cover the absolute sequence numbers up to the next one, and the retransmission
queue is the part of them that the last acknowledgment number has not passed.
-/

namespace Sponge

open Tiling

/-- An outstanding segment with its position. -/
def Outstanding.placed (entry : Outstanding) : Nat × TCPSegment := (entry.absSeqno, entry.segment)

/-- The segments with the positions they have in the order of their first transmission. -/
abbrev placements (firsts : List TCPSegment) : List (Nat × TCPSegment) :=
  layout TCPSegment.lengthInSequenceSpace 0 firsts

namespace TCPSender

/-- The sender conveys `written` and has sent `firsts`. -/
structure Accounted (isn : WrappingInt32) (written : Bytes) (firsts : List TCPSegment)
    (s : TCPSender) : Prop extends Aligned written s where
  isn_eq : s.isn = isn
  fresh : s.nextSeqno = 0 → Fresh s
  position : s.nextSeqno ≠ 0 → s.nextSeqno = s.stream.bytesRead + 1 + s.finSent.toNat
  finished : s.finSent = true → s.stream.inputEnded = true ∧ s.stream.buffer = []
  nonempty : ∀ segment ∈ firsts, 0 < segment.lengthInSequenceSpace
  span_eq : span TCPSegment.lengthInSequenceSpace firsts = s.nextSeqno
  transmits : ∀ placed ∈ placements firsts,
    Transmits isn written (s.stream.inputEnded = true) placed.1 placed.2
  outstanding : s.segmentsOutstanding.map Outstanding.placed =
    pending TCPSegment.lengthInSequenceSpace s.lastAckno (placements firsts)
  acked : s.lastAckno ≤ s.nextSeqno

theorem accounted_new (capacity : Nat) (retxTimeout : UInt16) (fixedIsn : Option WrappingInt32)
    (random : UInt32) :
    Accounted (fixedIsn.getD ⟨random⟩) [] [] (new capacity retxTimeout fixedIsn random) where
  accepted := rfl
  unread := rfl
  isn_eq := rfl
  fresh := fun _ => ⟨rfl, rfl, rfl, rfl, rfl⟩
  position := fun started => absurd rfl started
  finished := fun absurd => by cases absurd
  nonempty := fun _ member => by cases member
  span_eq := rfl
  transmits := fun _ member => by cases member
  outstanding := rfl
  acked := Nat.le_refl _

/-- The two senders differ in their timers and output queues only. -/
structure SameCore (s s' : TCPSender) : Prop where
  isn : s'.isn = s.isn
  stream : s'.stream = s.stream
  segmentsOutstanding : s'.segmentsOutstanding = s.segmentsOutstanding
  nextSeqno : s'.nextSeqno = s.nextSeqno
  lastAckno : s'.lastAckno = s.lastAckno
  windowSize : s'.windowSize = s.windowSize
  windowZeroValid : s'.windowZeroValid = s.windowZeroValid
  finSent : s'.finSent = s.finSent

variable {isn : WrappingInt32} {written : Bytes} {firsts : List TCPSegment} {s s' : TCPSender}

theorem Accounted.congr (accounted : Accounted isn written firsts s) (same : SameCore s s') :
    Accounted isn written firsts s' := by
  obtain ⟨isn', stream, queue, next, last, window, zero, fin⟩ := same
  refine ⟨⟨?_, ?_⟩, isn'.trans accounted.isn_eq, ?_, ?_, ?_, accounted.nonempty, ?_, ?_, ?_, ?_⟩ <;>
    simp only [stream, queue, next, last, fin]
  · exact accounted.accepted
  · exact accounted.unread
  · intro unsent
    obtain ⟨last', window', zero', fin', read'⟩ := accounted.fresh unsent
    exact ⟨last.trans last', window.trans window', zero.trans zero', fin.trans fin',
      by rw [stream, read']⟩
  · exact accounted.position
  · exact accounted.finished
  · exact accounted.span_eq
  · exact accounted.transmits
  · exact accounted.outstanding
  · exact accounted.acked

/-! ## Sending -/

theorem placed_enqueue (windowZeroFlag : Bool) (position : Nat) (segments : List TCPSegment) :
    (enqueue windowZeroFlag position segments).map Outstanding.placed =
      layout TCPSegment.lengthInSequenceSpace position segments := by
  simp [enqueue, Outstanding.placed, Function.comp_def]

/-- Sending further non-empty segments of the stream, contiguous to the last. -/
theorem Accounted.transmitted (accounted : Accounted isn written firsts s) (windowZeroFlag : Bool)
    {segments : List TCPSegment} {taken : Nat} {fin : Bool} (windowZeroValid : Bool)
    (nonempty : ∀ segment ∈ segments, 0 < segment.lengthInSequenceSpace)
    (transmits : ∀ placed ∈ layout TCPSegment.lengthInSequenceSpace s.nextSeqno segments,
      Transmits s.isn written (s.stream.inputEnded = true) placed.1 placed.2)
    (position : s.nextSeqno + span TCPSegment.lengthInSequenceSpace segments =
      s.stream.bytesRead + min taken s.stream.buffer.length + 1 + (s.finSent || fin).toNat)
    (finished : (s.finSent || fin) = true →
      s.stream.inputEnded = true ∧ s.stream.buffer.length ≤ taken) :
    Accounted isn written (firsts ++ segments)
      { s.transmitted windowZeroFlag segments taken fin with
        windowZeroValid := windowZeroValid } := by
  have bounded := accounted.acked
  have aligned := accounted.toAligned.transmitted windowZeroFlag segments taken fin
  refine ⟨⟨aligned.accepted, aligned.unread⟩, accounted.isn_eq, ?_, fun _ => position, ?_, ?_, ?_,
    ?_, ?_, ?_⟩
  · intro unsent
    simp only [TCPSender.transmitted] at unsent
    omega
  · intro isSent
    obtain ⟨isEnded, drained⟩ := finished isSent
    refine ⟨isEnded, ?_⟩
    simp only [TCPSender.transmitted, ByteStream.popOutput_buffer, List.drop_eq_nil_iff]
    omega
  · intro segment member
    rcases List.mem_append.mp member with old | new
    · exact accounted.nonempty segment old
    · exact nonempty segment new
  · rw [span_append, accounted.span_eq]
    rfl
  · intro placed member
    rw [placements, layout_append, Nat.zero_add, accounted.span_eq] at member
    rcases List.mem_append.mp member with old | new
    · exact accounted.transmits placed old
    · rw [← accounted.isn_eq]
      exact transmits placed new
  · -- what is sent now is not acknowledged yet
    simp only [TCPSender.transmitted, List.map_append, placed_enqueue, accounted.outstanding,
      placements, layout_append, Nat.zero_add, accounted.span_eq, pending_append]
    rw [pending_of_le nonempty bounded]
  · simp only [TCPSender.transmitted]
    omega

/-- The SYN is what a sender transmits at position 0. -/
theorem transmits_syn (s : TCPSender) (unsent : s.nextSeqno = 0) (closed : Prop) :
    Transmits s.isn written closed s.nextSeqno (s.numbered { header := { syn := true } }) := by
  rw [unsent]
  refine .syn rfl ⟨rfl, rfl, rfl, ?_⟩
  simp [numbered, unsent]

/-- What `fill_window` does: nothing after the FIN, the SYN at first, and then what is allowed. -/
inductive Filled (written : Bytes) (s : TCPSender) : Prop where
  | ended (finSent : s.finSent = true) (ran : s.fillWindow = s)
  | opened (notSent : s.finSent = false) (unsent : s.nextSeqno = 0) (fresh : Fresh s)
      (ran : s.fillWindow =
        s.transmitted false [s.numbered { header := { syn := true } }] 0 false)
  | sent (notSent : s.finSent = false) (started : s.nextSeqno ≠ 0)
      (position : s.nextSeqno = s.stream.bytesRead + 1) (segments : List TCPSegment)
      (ran : s.fillWindow =
        { s.transmitted s.probes segments s.allowance (s.finFits s.allowance) with
          windowZeroValid := s.windowZeroValid && !s.probes })
      (fills : Fills written s s.allowance segments)

theorem Accounted.filled (accounted : Accounted isn written firsts s) : Filled written s := by
  cases finSent : s.finSent with
  | true => exact .ended finSent (fillWindow_of_finSent finSent)
  | false =>
      by_cases unsent : s.nextSeqno = 0
      · have fresh := accounted.fresh unsent
        exact .opened finSent unsent fresh (fillWindow_of_fresh unsent fresh)
      · have position := accounted.position unsent
        rw [finSent, Bool.toNat_false, Nat.add_zero] at position
        obtain ⟨segments, ran, fills⟩ :=
          fillWindow_spec finSent unsent accounted.toAligned position
        exact .sent finSent unsent position segments ran fills

/-- `fill_window` sends further segments of the stream, and keeps the account. -/
theorem Accounted.fillWindow (accounted : Accounted isn written firsts s) :
    ∃ segments, Accounted isn written (firsts ++ segments) s.fillWindow ∧
      Sends s s.fillWindow segments := by
  cases accounted.filled with
  | ended _ ran =>
      rw [ran]
      exact ⟨[], by rwa [List.append_nil], s.sends_refl⟩
  | opened notSent unsent fresh ran =>
      rw [ran]
      refine ⟨[s.numbered { header := { syn := true } }],
        accounted.transmitted false s.windowZeroValid ?_ ?_ ?_ ?_, ⟨_, _, _, _, rfl⟩⟩
      · simp [TCPSegment.lengthInSequenceSpace, numbered]
      · simpa [layout] using s.transmits_syn unsent _
      · simp [span, unsent, fresh.bytesRead, notSent, TCPSegment.lengthInSequenceSpace, numbered]
      · simp [notSent]
  | sent notSent _ position segments ran fills =>
      rw [ran]
      refine ⟨segments, accounted.transmitted s.probes _ fills.nonempty fills.transmits ?_ ?_,
        ⟨_, _, _, _, rfl⟩⟩
      · rw [fills.span_eq, notSent, Bool.false_or]
        omega
      · rw [notSent, Bool.false_or, finFits, Bool.and_eq_true, decide_eq_true_iff]
        exact fun fits => ⟨fits.1, Nat.le_of_lt fits.2⟩

/-- `fill_window` leaves the acknowledgment number and the end of the stream alone. -/
theorem Accounted.fillWindow_frame (accounted : Accounted isn written firsts s) :
    s.fillWindow.lastAckno = s.lastAckno ∧
      s.fillWindow.stream.inputEnded = s.stream.inputEnded := by
  obtain ⟨_, _, sends⟩ := accounted.fillWindow
  obtain ⟨taken, stream_eq⟩ := sends.stream
  exact ⟨sends.lastAckno, by rw [stream_eq]; rfl⟩

/-- At most the SYN, the written bytes and the FIN are sent. -/
theorem Accounted.nextSeqno_le (accounted : Accounted isn written firsts s) :
    s.nextSeqno ≤ written.length + 2 := by
  by_cases unsent : s.nextSeqno = 0
  · omega
  · have position := accounted.position unsent
    have total := accounted.length_eq
    have flag := Bool.toNat_le s.finSent
    omega

/-- After `fill_window` at least the SYN is sent. -/
theorem Accounted.started_fillWindow (accounted : Accounted isn written firsts s) :
    s.fillWindow.nextSeqno ≠ 0 := by
  by_cases unsent : s.nextSeqno = 0
  · rw [fillWindow_of_fresh unsent (accounted.fresh unsent)]
    simp [TCPSender.transmitted, span, TCPSegment.lengthInSequenceSpace, numbered]
  · obtain ⟨_, _, sends⟩ := accounted.fillWindow
    rw [sends.nextSeqno]
    omega

/-! ## The application's side -/

theorem Accounted.write (accounted : Accounted isn written firsts s) (data : Bytes) :
    Accounted isn (written ++ data.take (s.stream.write data).2) firsts
      { s with stream := (s.stream.write data).1 } := by
  have fits := s.stream.write_count_le data
  have inside : s.stream.bytesRead ≤ written.length := by
    rw [accounted.length_eq]
    exact Nat.le_add_right _ _
  -- an ended stream accepts nothing
  have frozen : s.stream.inputEnded = true →
      written ++ data.take (s.stream.write data).2 = written := fun isEnded => by
    rw [s.stream.write_of_ended data isEnded, List.take_zero, List.append_nil]
  refine ⟨⟨?_, ?_⟩, accounted.isn_eq, ?_, ?_, ?_, accounted.nonempty, accounted.span_eq, ?_,
    accounted.outstanding, accounted.acked⟩
  · rw [List.length_append, List.length_take, accounted.accepted,
      ByteStream.write_bytesWritten, Nat.min_eq_left fits]
  · rw [ByteStream.write_bytesRead, ByteStream.write_buffer, List.drop_append_of_le_length inside,
      accounted.unread]
  · intro unsent
    obtain ⟨last, window, zero, fin, read⟩ := accounted.fresh unsent
    exact ⟨last, window, zero, fin, by rw [ByteStream.write_bytesRead, read]⟩
  · intro started
    rw [ByteStream.write_bytesRead]
    exact accounted.position started
  · intro isSent
    obtain ⟨isEnded, drained⟩ := accounted.finished isSent
    rw [s.stream.write_of_ended data isEnded]
    exact ⟨isEnded, drained⟩
  · intro placed member
    refine (accounted.transmits placed member).grow (List.prefix_append _ _) fun isEnded => ?_
    exact ⟨by rw [ByteStream.write_inputEnded, isEnded], frozen isEnded⟩

theorem Accounted.endInput (accounted : Accounted isn written firsts s) :
    Accounted isn written firsts { s with stream := s.stream.endInput } := by
  refine ⟨⟨accounted.accepted, accounted.unread⟩, accounted.isn_eq, fun unsent => ?_,
    accounted.position, ?_, accounted.nonempty, accounted.span_eq, ?_, accounted.outstanding,
    accounted.acked⟩
  · obtain ⟨last, window, zero, fin, read⟩ := accounted.fresh unsent
    exact ⟨last, window, zero, fin, read⟩
  · exact fun isSent => ⟨rfl, (accounted.finished isSent).2⟩
  · exact fun placed member => (accounted.transmits placed member).grow (List.prefix_refl _)
      fun _ => ⟨rfl, rfl⟩

theorem Accounted.setError (accounted : Accounted isn written firsts s) :
    Accounted isn written firsts { s with stream := s.stream.setError } := by
  refine ⟨⟨accounted.accepted, accounted.unread⟩, accounted.isn_eq, fun unsent => ?_,
    accounted.position, accounted.finished, accounted.nonempty, accounted.span_eq,
    accounted.transmits,
    accounted.outstanding, accounted.acked⟩
  obtain ⟨last, window, zero, fin, read⟩ := accounted.fresh unsent
  exact ⟨last, window, zero, fin, read⟩

/-! ## Acknowledgments -/

/-- The queue keeps the segments that the acknowledgment number has not passed. -/
theorem popAcknowledged_layout {position acked : Nat} {items : List TCPSegment}
    {entries : List Outstanding}
    (queue : entries.map Outstanding.placed =
      layout TCPSegment.lengthInSequenceSpace position items) :
    (popAcknowledged acked entries).map Outstanding.placed =
      pending TCPSegment.lengthInSequenceSpace acked
        (layout TCPSegment.lengthInSequenceSpace position items) := by
  induction items generalizing position entries with
  | nil =>
      obtain rfl := List.map_eq_nil_iff.mp queue
      rfl
  | cons item rest ih =>
      obtain ⟨entry, entries, rfl, atHead, inRest⟩ := List.map_eq_cons_iff.mp queue
      cases atHead
      rw [popAcknowledged]
      split
      · rename_i done
        rw [pending_cons_of_le rest done]
        exact ih inRest
      · rename_i after
        rw [pending_cons_of_lt (Nat.not_le.mp after), queue]

theorem removeOutstandingSegments_core (s : TCPSender) :
    SameCore
      { s with segmentsOutstanding := popAcknowledged s.lastAckno s.segmentsOutstanding }
      s.removeOutstandingSegments := by
  unfold removeOutstandingSegments
  dsimp only
  split <;> exact ⟨rfl, rfl, rfl, rfl, rfl, rfl, rfl, rfl⟩

/-- The effect of an acknowledgment on everything but the timers. -/
theorem acknowledge_core (s : TCPSender) (newAckno newWindowSize : Nat) :
    SameCore
      { s with
        lastAckno := max s.lastAckno newAckno
        windowSize := newAckno + newWindowSize - max s.lastAckno newAckno
        windowZeroValid := s.windowZeroValid ||
          decide (newAckno + newWindowSize ≤ max s.lastAckno newAckno)
        segmentsOutstanding := popAcknowledged (max s.lastAckno newAckno) s.segmentsOutstanding }
      (s.acknowledge newAckno newWindowSize) := by
  have core := removeOutstandingSegments_core (s.acceptAck newAckno newWindowSize)
  rw [acknowledge]
  rw [acceptAck_eq] at core ⊢
  exact core

theorem Accounted.acknowledge (accounted : Accounted isn written firsts s)
    (started : s.nextSeqno ≠ 0)
    {newAckno : Nat} (possible : newAckno ≤ s.nextSeqno) (newWindowSize : Nat) :
    Accounted isn written firsts (s.acknowledge newAckno newWindowSize) := by
  refine Accounted.congr ?_ (s.acknowledge_core newAckno newWindowSize)
  have acked := accounted.acked
  refine ⟨⟨accounted.accepted, accounted.unread⟩, accounted.isn_eq,
    fun unsent => absurd unsent started, accounted.position, accounted.finished,
    accounted.nonempty, accounted.span_eq, accounted.transmits, ?_, ?_⟩
  · obtain ⟨done, rest, _, kept, _⟩ := exists_pending accounted.nonempty 0 s.lastAckno
    dsimp only
    rw [popAcknowledged_layout (accounted.outstanding.trans kept), ← kept,
      pending_pending (Nat.le_max_left _ _)]
  · dsimp only
    omega

/-- An acknowledgment beyond the next sequence number, or before the SYN, is ignored. -/
theorem ackReceived_eq (s : TCPSender) (ackno : WrappingInt32) (windowSize : UInt16) :
    s.ackReceived ackno windowSize =
      if s.nextSeqno = 0 ∨ s.nextSeqno < unwrap ackno s.isn s.lastAckno then s
      else (s.acknowledge (unwrap ackno s.isn s.lastAckno) windowSize.toNat).fillWindow := by
  unfold ackReceived acknowledge
  by_cases unsent : s.nextSeqno = 0
  · rw [if_pos unsent, if_pos (Or.inl unsent)]
  · by_cases beyond : s.nextSeqno < unwrap ackno s.isn s.lastAckno
    · simp only [if_neg unsent, if_pos (Or.inr beyond), gt_iff_lt, if_pos beyond]
    · simp only [gt_iff_lt, unsent, beyond, or_self, if_false]

theorem acknowledge_segmentsOut (s : TCPSender) (newAckno newWindowSize : Nat) :
    (s.acknowledge newAckno newWindowSize).segmentsOut = s.segmentsOut := by
  cases s.acknowledged newAckno newWindowSize with
  | kept _ _ _ ran | popped _ _ _ _ _ ran => rw [ran]

/-- An acknowledgment is ignored, or accepted and followed by `fill_window`. -/
theorem Accounted.ackReceived_cases (accounted : Accounted isn written firsts s)
    (ackno : WrappingInt32) (windowSize : UInt16) :
    s.ackReceived ackno windowSize = s ∨
      unwrap ackno s.isn s.lastAckno ≤ s.nextSeqno ∧
        s.ackReceived ackno windowSize =
          (s.acknowledge (unwrap ackno s.isn s.lastAckno) windowSize.toNat).fillWindow ∧
        Accounted isn written firsts
          (s.acknowledge (unwrap ackno s.isn s.lastAckno) windowSize.toNat) := by
  rw [ackReceived_eq]
  split
  · exact Or.inl rfl
  · rename_i possible
    obtain ⟨started, notBeyond⟩ := not_or.mp possible
    have bounded := Nat.not_lt.mp notBeyond
    exact Or.inr ⟨bounded, rfl, accounted.acknowledge started bounded _⟩

theorem Accounted.ackReceived (accounted : Accounted isn written firsts s) (ackno : WrappingInt32)
    (windowSize : UInt16) :
    ∃ segments, Accounted isn written (firsts ++ segments) (s.ackReceived ackno windowSize) ∧
      (s.ackReceived ackno windowSize).segmentsOut = s.segmentsOut ++ segments ∧
      s.lastAckno ≤ (s.ackReceived ackno windowSize).lastAckno := by
  rcases accounted.ackReceived_cases ackno windowSize with ignored | ⟨_, accepted, accounted'⟩
  · rw [ignored]
    exact ⟨[], by rwa [List.append_nil], (List.append_nil _).symm, Nat.le_refl _⟩
  · rw [accepted]
    obtain ⟨segments, accounted'', sends⟩ := accounted'.fillWindow
    refine ⟨segments, accounted'', ?_, ?_⟩
    · rw [sends.segmentsOut, acknowledge_segmentsOut]
    · rw [sends.lastAckno, (s.acknowledge_core _ _).lastAckno]
      exact Nat.le_max_left _ _

/-- A truthful acknowledgment of a position within the first cycle is never overstated. -/
theorem Accounted.lastAckno_ackReceived_le (accounted : Accounted isn written firsts s)
    {position bound : Nat} (acked : s.lastAckno ≤ bound) (truthful : position ≤ bound)
    (cycle : s.nextSeqno < 2 ^ 32) (small : position < 2 ^ 32) (windowSize : UInt16) :
    (s.ackReceived (wrap position isn) windowSize).lastAckno ≤ bound := by
  rcases accounted.ackReceived_cases (wrap position isn) windowSize with
    ignored | ⟨bounded, accepted, accounted'⟩
  · rwa [ignored]
  · rw [accepted]
    obtain ⟨_, _, sends⟩ := accounted'.fillWindow
    have limit := accounted.acked
    -- what is not beyond the next sequence number unwraps to the position itself
    obtain ⟨residue, _⟩ := unwrap_mod (wrap position isn) s.isn (show s.lastAckno < 2 ^ 64 by omega)
    rw [← accounted.isn_eq, offset_wrap] at residue
    rw [sends.lastAckno, (s.acknowledge_core _ _).lastAckno]
    dsimp only
    rw [← accounted.isn_eq] at bounded ⊢
    omega

/-! ## Time -/

/-- A tick retransmits at most the oldest outstanding segment. -/
theorem tick_spec (s : TCPSender) (msSinceLastTick : Nat) :
    SameCore s (s.tick msSinceLastTick) ∧
      ((s.tick msSinceLastTick).segmentsOut = s.segmentsOut ∨
        ∃ oldest rest, s.segmentsOutstanding = oldest :: rest ∧
          (s.tick msSinceLastTick).segmentsOut = s.segmentsOut ++ [oldest.segment]) := by
  cases s.ticked msSinceLastTick with
  | stopped _ ran | early _ _ ran | drained _ _ ran =>
      rw [ran]
      exact ⟨⟨rfl, rfl, rfl, rfl, rfl, rfl, rfl, rfl⟩, Or.inl rfl⟩
  | resent _ _ oldest rest queue ran =>
      rw [ran]
      exact ⟨⟨rfl, rfl, rfl, rfl, rfl, rfl, rfl, rfl⟩, Or.inr ⟨oldest, rest, queue, rfl⟩⟩

theorem sendEmptySegment_spec (s : TCPSender) :
    SameCore s s.sendEmptySegment ∧
      s.sendEmptySegment.segmentsOut = s.segmentsOut ++ [s.numbered {}] := by
  rw [sendEmptySegment, sendSegment_of_empty _ _ rfl]
  exact ⟨⟨rfl, rfl, rfl, rfl, rfl, rfl, rfl, rfl⟩, rfl⟩

/-! ## Bytes in flight -/

theorem queuedLength_layout {position : Nat} {items : List TCPSegment} {entries : List Outstanding}
    (queue : entries.map Outstanding.placed =
      layout TCPSegment.lengthInSequenceSpace position items) :
    queuedLength entries = span TCPSegment.lengthInSequenceSpace items := by
  induction items generalizing position entries with
  | nil =>
      obtain rfl := List.map_eq_nil_iff.mp queue
      rfl
  | cons item rest ih =>
      obtain ⟨entry, entries, rfl, atHead, inRest⟩ := List.map_eq_cons_iff.mp queue
      cases atHead
      rw [queuedLength, span, ih inRest]

/-- The queue is a contiguous run that ends at the next sequence number. -/
theorem Accounted.contiguous (accounted : Accounted isn written firsts s) :
    ∃ start rest,
      s.segmentsOutstanding.map Outstanding.placed =
        layout TCPSegment.lengthInSequenceSpace start rest ∧
      start + s.bytesInFlight = s.nextSeqno ∧
      s.bytesInFlight = span TCPSegment.lengthInSequenceSpace rest := by
  obtain ⟨done, rest, split, kept, _⟩ := exists_pending accounted.nonempty 0 s.lastAckno
  have queue := accounted.outstanding.trans kept
  have total := accounted.span_eq
  have inFlight : s.bytesInFlight = span TCPSegment.lengthInSequenceSpace rest :=
    queuedLength_layout queue
  rw [split, span_append] at total
  exact ⟨_, rest, queue, by omega, inFlight⟩

/-- Whatever has been sent and not acknowledged lies in an outstanding segment. -/
theorem Accounted.exists_outstanding (accounted : Accounted isn written firsts s) {position : Nat}
    (unacked : s.lastAckno ≤ position) (sent : position < s.nextSeqno) :
    ∃ entry ∈ s.segmentsOutstanding, entry.absSeqno ≤ position ∧
      position < entry.absSeqno + entry.segment.lengthInSequenceSpace := by
  rw [← accounted.span_eq] at sent
  obtain ⟨placed, member, starts, stops⟩ :=
    exists_covering (Nat.zero_le position) (by rwa [Nat.zero_add])
  have isPending : placed ∈ s.segmentsOutstanding.map Outstanding.placed := by
    rw [accounted.outstanding, pending, List.mem_filter, decide_eq_true_iff]
    exact ⟨member, Nat.lt_of_le_of_lt unacked stops⟩
  obtain ⟨entry, inQueue, rfl⟩ := List.mem_map.mp isPending
  exact ⟨entry, inQueue, starts, stops⟩

theorem Accounted.bytesInFlight_eq_zero_iff_nil (accounted : Accounted isn written firsts s) :
    s.bytesInFlight = 0 ↔ s.segmentsOutstanding = [] := by
  obtain ⟨done, rest, split, kept, _⟩ := exists_pending accounted.nonempty 0 s.lastAckno
  have queue := accounted.outstanding.trans kept
  have nonempty : ∀ segment ∈ rest, 0 < segment.lengthInSequenceSpace := fun segment member =>
    accounted.nonempty segment (by rw [split]; exact List.mem_append_right _ member)
  rw [bytesInFlight, queuedLength_layout queue, span_eq_zero_iff nonempty,
    ← List.map_eq_nil_iff (f := Outstanding.placed), queue]
  cases rest <;> simp [layout]

/-- Nothing is in flight exactly when everything sent is acknowledged. -/
theorem Accounted.bytesInFlight_eq_zero_iff (accounted : Accounted isn written firsts s) :
    s.bytesInFlight = 0 ↔ s.lastAckno = s.nextSeqno := by
  have bounded := accounted.acked
  rw [← accounted.span_eq] at bounded
  rw [accounted.bytesInFlight_eq_zero_iff_nil, ← List.map_eq_nil_iff (f := Outstanding.placed),
    accounted.outstanding,
    pending_eq_nil_iff 0 accounted.nonempty (by omega) (Nat.zero_le s.lastAckno), Nat.zero_add,
    accounted.span_eq]

end TCPSender

end Sponge
