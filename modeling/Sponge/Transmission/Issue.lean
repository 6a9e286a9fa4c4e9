import Sponge.Transmission.Rest

/-!
# What a sender has sent

A sender puts the bytes of its stream into segments one after the other, and a FIN
into the last of them.  What it has queued is made of what it has sent so far, and
what it has sent only grows, until the FIN.
-/

namespace Sponge.TCPSender

open Tiling

/-- The bytes of `written` that the sender has put into segments. -/
def sentPart (s : TCPSender) (written : Bytes) : Bytes := written.take s.stream.bytesRead

/-- The segment is made of what has been sent. -/
structure Issued (isn : WrappingInt32) (written : Bytes) (s : TCPSender) (segment : TCPSegment) :
    Prop where
  genuine : Genuine isn (s.sentPart written) (s.finSent = true) segment
  started : segment.header.syn = true → s.nextSeqno ≠ 0

/-- More has been written and sent, nothing is written after the end, nothing sent after the FIN. -/
structure Furthers (written : Bytes) (s : TCPSender) (written' : Bytes) (s' : TCPSender) :
    Prop where
  grown : written <+: written'
  closed : s.stream.inputEnded = true → s'.stream.inputEnded = true ∧ written' = written
  part : s.sentPart written <+: s'.sentPart written'
  frozen : s.finSent = true → s'.finSent = true ∧ s'.sentPart written' = s.sentPart written
  started : s.nextSeqno ≠ 0 → s'.nextSeqno ≠ 0

variable {isn : WrappingInt32} {written written' : Bytes} {firsts : List TCPSegment}
  {s s' s'' : TCPSender} {segment : TCPSegment}

theorem Furthers.refl (written : Bytes) (s : TCPSender) : Furthers written s written s :=
  ⟨List.prefix_refl _, fun ended => ⟨ended, rfl⟩, List.prefix_refl _, fun sent => ⟨sent, rfl⟩, id⟩

theorem Furthers.trans {written'' : Bytes} (first : Furthers written s written' s')
    (second : Furthers written' s' written'' s'') : Furthers written s written'' s'' where
  grown := first.grown.trans second.grown
  closed ended := by
    obtain ⟨ended', same⟩ := first.closed ended
    obtain ⟨ended'', same'⟩ := second.closed ended'
    exact ⟨ended'', same'.trans same⟩
  part := first.part.trans second.part
  frozen sent := by
    obtain ⟨sent', same⟩ := first.frozen sent
    obtain ⟨sent'', same'⟩ := second.frozen sent'
    exact ⟨sent'', same'.trans same⟩
  started := second.started ∘ first.started

theorem Issued.grow (issued : Issued isn written s segment)
    (furthers : Furthers written s written' s') : Issued isn written' s' segment :=
  ⟨issued.genuine.grow furthers.part furthers.frozen,
    fun isSyn => furthers.started (issued.started isSyn)⟩

/-- Nothing has been written or sent in between. -/
theorem furthers_of_eq (ended : s.stream.inputEnded = true → s'.stream.inputEnded = true)
    (bytesRead : s'.stream.bytesRead = s.stream.bytesRead) (finSent : s'.finSent = s.finSent)
    (nextSeqno : s'.nextSeqno = s.nextSeqno) : Furthers written s written s' := by
  have part : s'.sentPart written = s.sentPart written := by rw [sentPart, sentPart, bytesRead]
  exact ⟨List.prefix_refl _, fun isEnded => ⟨ended isEnded, rfl⟩,
    ⟨[], (List.append_nil _).trans part.symm⟩, fun sent => ⟨finSent.trans sent, part⟩,
    fun started => by rwa [nextSeqno]⟩

theorem SameCore.furthers (same : SameCore s s') (written : Bytes) :
    Furthers written s written s' :=
  furthers_of_eq (by rw [same.stream]; exact id) (by rw [same.stream]) same.finSent same.nextSeqno

theorem Accounted.furthers_fillWindow (accounted : Accounted isn written firsts s) :
    Furthers written s written s.fillWindow := by
  obtain ⟨_, _, sends⟩ := accounted.fillWindow
  obtain ⟨taken, stream_eq⟩ := sends.stream
  refine ⟨List.prefix_refl _, fun ended => ⟨?_, rfl⟩, ?_, fun sent => ?_,
    fun _ => accounted.started_fillWindow⟩
  · rw [stream_eq]
    exact ended
  · rw [sentPart, sentPart, stream_eq, ByteStream.popOutput_bytesRead]
    exact List.take_prefix_take_left (Nat.le_add_right _ _)
  · rw [fillWindow_of_finSent sent]
    exact ⟨sent, rfl⟩

/-- What the application writes is not sent yet, and nothing of it is taken after the end. -/
theorem Accounted.furthers_write (accounted : Accounted isn written firsts s) (data : Bytes) :
    Furthers written s (written ++ data.take (s.stream.write data).2)
      { s with stream := (s.stream.write data).1 } := by
  have total := accounted.length_eq
  have part : sentPart { s with stream := (s.stream.write data).1 }
      (written ++ data.take (s.stream.write data).2) = s.sentPart written := by
    rw [sentPart, sentPart, ByteStream.write_bytesRead, List.take_append_of_le_length (by omega)]
  refine ⟨List.prefix_append _ _, fun ended => ⟨?_, ?_⟩,
    ⟨[], (List.append_nil _).trans part.symm⟩, fun sent => ⟨sent, part⟩, id⟩
  · exact (ByteStream.write_inputEnded _ _).trans ended
  · rw [s.stream.write_of_ended data ended, List.take_zero, List.append_nil]

theorem Accounted.sentPart_length (accounted : Accounted isn written firsts s) :
    (s.sentPart written).length = s.stream.bytesRead := by
  have total := accounted.length_eq
  rw [sentPart, List.length_take, Nat.min_eq_left (by omega)]

/-- The next sequence number counts the SYN, the bytes sent and the FIN. -/
theorem Accounted.nextSeqno_eq (accounted : Accounted isn written firsts s)
    (started : s.nextSeqno ≠ 0) :
    s.nextSeqno = (s.sentPart written).length + 1 + s.finSent.toNat := by
  rw [accounted.position started, accounted.sentPart_length]

/-- Every segment ends within what has been sent. -/
theorem Accounted.stop_le {position : Nat} (accounted : Accounted isn written firsts s)
    (placed : (position, segment) ∈ placements firsts) :
    position + segment.lengthInSequenceSpace ≤ s.nextSeqno := by
  rw [← accounted.span_eq, ← Nat.zero_add (span _ firsts)]
  exact (bounds_of_mem_layout placed).2.1

/-- A segment that has been sent for the first time is made of what has been sent. -/
theorem Accounted.transmits_sent {position : Nat} (accounted : Accounted isn written firsts s)
    (placed : (position, segment) ∈ placements firsts) :
    Transmits isn (s.sentPart written) (s.finSent = true) position segment := by
  have bounded := accounted.stop_le placed
  have transmits : Transmits isn written (s.stream.inputEnded = true) position segment :=
    accounted.transmits _ placed
  cases transmits with
  | syn noAck isSyn => exact .syn noAck isSyn
  | slice noAck index isSlice short =>
      have next := accounted.nextSeqno_eq (s := s) (by omega)
      have total := accounted.length_eq
      have length := accounted.sentPart_length
      have size := isSlice.length_eq
      have inWritten := isSlice.bounded
      -- the FIN comes with the last byte only
      have inside : index + segment.payload.length ≤ s.stream.bytesRead := by
        cases sent : s.finSent with
        | false =>
            rw [sent, Bool.toNat_false] at next
            omega
        | true =>
            have drained := congrArg List.length (accounted.finished sent).2
            rw [List.length_nil] at drained
            omega
      refine .slice noAck index ⟨by omega, isSlice.noSyn, ?_, isSlice.placed, fun isFin => ?_⟩ short
      · rw [sentPart, List.drop_take, List.take_take, Nat.min_eq_left (by omega)]
        exact isSlice.genuine
      · obtain ⟨_, atEnd⟩ := isSlice.final isFin
        rw [isFin, Bool.toNat_true] at size
        cases sent : s.finSent with
        | false =>
            rw [sent, Bool.toNat_false] at next
            omega
        | true => exact ⟨rfl, by omega⟩

/-- What is made of what has been sent is made of the stream. -/
theorem Accounted.genuine_of_issued (accounted : Accounted isn written firsts s)
    (issued : Issued isn written s segment) :
    Genuine isn written (s.stream.inputEnded = true) segment := by
  refine issued.genuine.grow (List.take_prefix _ _) fun sent => ?_
  obtain ⟨ended, drained⟩ := accounted.finished sent
  have total := accounted.length_eq
  rw [drained, List.length_nil] at total
  exact ⟨ended, (List.take_of_length_le (by omega)).symm⟩

/-! ## What a sender has queued -/

/-- A segment as the sender leaves it: of what it has sent, and not acknowledging anything yet. -/
structure Clean (isn : WrappingInt32) (written : Bytes) (s : TCPSender) (segment : TCPSegment) :
    Prop extends Issued isn written s segment where
  noAck : segment.header.ack = false

theorem Clean.grow (clean : Clean isn written s segment)
    (furthers : Furthers written s written' s') : Clean isn written' s' segment :=
  ⟨clean.toIssued.grow furthers, clean.noAck⟩

theorem Accounted.clean_of_mem (accounted : Accounted isn written firsts s)
    (member : segment ∈ firsts) : Clean isn written s segment := by
  obtain ⟨position, placed⟩ := layout_of_mem TCPSegment.lengthInSequenceSpace member 0
  have transmits := accounted.transmits_sent placed
  have bounded := accounted.stop_le placed
  have positive := accounted.nonempty segment member
  exact ⟨⟨transmits.genuine, fun _ => by omega⟩, transmits.noAck⟩

/-- An empty segment is numbered by the next sequence number. -/
theorem Accounted.clean_of_empty (accounted : Accounted isn written firsts s)
    {header : TCPHeader} (noSyn : header.syn = false) (noFin : header.fin = false)
    (noAck : header.ack = false) : Clean isn written s (s.numbered { header := header }) := by
  have bounded : s.nextSeqno ≤ (s.sentPart written).length + 2 := by
    by_cases unsent : s.nextSeqno = 0
    · omega
    · have next := accounted.nextSeqno_eq unsent
      have flag := Bool.toNat_le s.finSent
      omega
  refine ⟨⟨.empty s.nextSeqno bounded noSyn noFin rfl (by rw [← accounted.isn_eq]; rfl), ?_⟩, noAck⟩
  exact fun isSyn => absurd (noSyn.symm.trans isSyn) Bool.false_ne_true

/-- The sender is settled, and what it has queued is made of what it has sent. -/
structure Sending (isn : WrappingInt32) (written : Bytes) (s : TCPSender) : Prop where
  settled : ∃ firsts, Settled isn written firsts s
  clean : ∀ segment ∈ s.segmentsOut, Clean isn written s segment

/-- Sending more, for the first time or again. -/
theorem Sending.sends (sending : Sending isn written s) (settled : Settled isn written' firsts s')
    (furthers : Furthers written s written' s') {segments : List TCPSegment}
    (sent : ∀ segment ∈ segments, segment ∈ firsts)
    (queue : s'.segmentsOut = s.segmentsOut ++ segments) :
    Sending isn written' s' ∧ Furthers written s written' s' := by
  refine ⟨⟨⟨_, settled⟩, fun segment member => ?_⟩, furthers⟩
  rw [queue] at member
  rcases List.mem_append.mp member with old | new
  · exact (sending.clean segment old).grow furthers
  · exact settled.toAccounted.clean_of_mem (sent segment new)

theorem Sending.fillWindow (sending : Sending isn written s) :
    Sending isn written s.fillWindow ∧ Furthers written s written s.fillWindow := by
  obtain ⟨firsts, settled⟩ := sending.settled
  obtain ⟨segments, settled', sends⟩ := settled.fillWindow
  exact sending.sends settled' settled.furthers_fillWindow (fun _ => List.mem_append_right _)
    sends.segmentsOut

theorem Sending.ackReceived (sending : Sending isn written s) (ackno : WrappingInt32)
    (windowSize : UInt16) :
    Sending isn written (s.ackReceived ackno windowSize) ∧
      Furthers written s written (s.ackReceived ackno windowSize) := by
  obtain ⟨firsts, settled⟩ := sending.settled
  have furthers : Furthers written s written (s.ackReceived ackno windowSize) := by
    rcases settled.toAccounted.ackReceived_cases ackno windowSize with
      ignored | ⟨_, accepted, accounted'⟩
    · rw [ignored]
      exact .refl written s
    · rw [accepted]
      have core := s.acknowledge_core (unwrap ackno s.isn s.lastAckno) windowSize.toNat
      refine Furthers.trans (furthers_of_eq ?_ ?_ core.finSent core.nextSeqno)
        accounted'.furthers_fillWindow
      · rw [core.stream]
        exact id
      · rw [core.stream]
  obtain ⟨segments, settled', queue, _⟩ := settled.ackReceived ackno windowSize
  exact sending.sends settled' furthers (fun _ => List.mem_append_right _) queue

theorem Sending.sendEmptySegment (sending : Sending isn written s) :
    Sending isn written s.sendEmptySegment ∧ Furthers written s written s.sendEmptySegment := by
  obtain ⟨firsts, settled⟩ := sending.settled
  obtain ⟨same, queue⟩ := s.sendEmptySegment_spec
  have furthers := same.furthers written
  refine ⟨⟨⟨firsts, settled.sendEmptySegmentWithThisHeader rfl rfl⟩, fun segment member => ?_⟩,
    furthers⟩
  rw [queue] at member
  rcases List.mem_append.mp member with old | new
  · exact (sending.clean segment old).grow furthers
  · obtain rfl := List.mem_singleton.mp new
    exact (settled.toAccounted.clean_of_empty rfl rfl rfl).grow furthers

/-- A tick repeats a segment that was sent before. -/
theorem Sending.tick (sending : Sending isn written s) (msSinceLastTick : Nat) :
    Sending isn written (s.tick msSinceLastTick) ∧
      Furthers written s written (s.tick msSinceLastTick) := by
  obtain ⟨firsts, settled⟩ := sending.settled
  have ticked := settled.tick msSinceLastTick
  obtain ⟨same, queue | ⟨oldest, rest, outstanding, queue⟩⟩ := s.tick_spec msSinceLastTick
  · exact sending.sends ticked (same.furthers written)
      (fun _ none => absurd none List.not_mem_nil) (queue.trans (List.append_nil _).symm)
  · have placed := settled.toAccounted.mem_placements oldest
      (by rw [outstanding]; exact List.mem_cons_self)
    refine sending.sends ticked (same.furthers written) (fun segment member => ?_) queue
    obtain rfl := List.mem_singleton.mp member
    exact (bounds_of_mem_layout placed).2.2

/-- The application writes, and what the window allows is sent. -/
theorem Sending.write (sending : Sending isn written s) (data : Bytes) :
    Sending isn (written ++ data.take (s.stream.write data).2)
        { s with stream := (s.stream.write data).1 }.fillWindow ∧
      Furthers written s (written ++ data.take (s.stream.write data).2)
        { s with stream := (s.stream.write data).1 }.fillWindow := by
  obtain ⟨firsts, settled⟩ := sending.settled
  have furthers := (settled.toAccounted.furthers_write data).trans
    (settled.toAccounted.write data).furthers_fillWindow
  obtain ⟨segments, settled', sends⟩ := settled.write data
  exact sending.sends settled' furthers (fun _ => List.mem_append_right _) sends.segmentsOut

theorem Sending.endInput (sending : Sending isn written s) :
    Sending isn written { s with stream := s.stream.endInput }.fillWindow ∧
      Furthers written s written { s with stream := s.stream.endInput }.fillWindow := by
  obtain ⟨firsts, settled⟩ := sending.settled
  have kept : Furthers written s written { s with stream := s.stream.endInput } :=
    furthers_of_eq (fun _ => rfl) rfl rfl rfl
  have furthers := kept.trans settled.toAccounted.endInput.furthers_fillWindow
  obtain ⟨segments, settled', sends⟩ := settled.endInput
  exact sending.sends settled' furthers (fun _ => List.mem_append_right _) sends.segmentsOut

theorem Sending.setError (sending : Sending isn written s) :
    Sending isn written { s with stream := s.stream.setError } ∧
      Furthers written s written { s with stream := s.stream.setError } := by
  obtain ⟨firsts, settled⟩ := sending.settled
  exact sending.sends settled.setError (furthers_of_eq id rfl rfl rfl)
    (fun _ none => absurd none List.not_mem_nil) (List.append_nil _).symm

/-- The queue is emptied, or replaced by an empty segment such as a RST. -/
theorem Sending.requeue (sending : Sending isn written s) {queue : List TCPSegment}
    (clean : ∀ segment ∈ queue, Clean isn written s segment) :
    Sending isn written { s with segmentsOut := queue } ∧
      Furthers written s written { s with segmentsOut := queue } := by
  obtain ⟨firsts, settled⟩ := sending.settled
  have furthers : Furthers written s written { s with segmentsOut := queue } :=
    furthers_of_eq id rfl rfl rfl
  exact ⟨⟨⟨firsts, settled.requeue queue⟩, fun segment member =>
    (clean segment member).grow furthers⟩, furthers⟩

end Sponge.TCPSender
