import Sponge.Connection.Runs

/-!
# A clean close

`active()` takes an outbound stream at its end with nothing in flight for one
whose FIN was sent and acknowledged.  That holds as long as the stream is not
closed into a zero window whose probe was spent: there the FIN is not sent, and
nothing is in flight.
-/

namespace Sponge

namespace TCPSender

/-- A stream at its end whose FIN is still to be sent has something in flight. -/
def FinDue (s : TCPSender) : Prop :=
  s.stream.eof = true → s.finSent = false → 0 < s.bytesInFlight

variable {isn : WrappingInt32} {written : Bytes} {firsts : List TCPSegment} {s : TCPSender}

/-- `fill_window` leaves the FIN behind only if nothing is allowed and nothing is in flight. -/
theorem Accounted.finDue_fillWindow (accounted : Accounted isn written firsts s)
    (notStuck : ¬ (s.nextSeqno ≠ 0 ∧ s.finSent = false ∧ s.lastAckno = s.nextSeqno ∧
      s.allowance = 0 ∧ s.stream.eof = true)) : FinDue s.fillWindow := by
  intro atEnd notSent
  by_contra idle
  have isEnded := ((ByteStream.eof_iff _).mp atEnd).2
  -- a FIN left behind is something that waits
  have stuck : ¬ Unstuck s.fillWindow := by
    intro unstuck
    have sent := (unstuck accounted.started_fillWindow (by omega)).2 isEnded
    rw [notSent] at sent
    cases sent
  rw [accounted.unstuck_fillWindow_iff, not_not] at stuck
  obtain ⟨started, finSent, caught, nothing, _⟩ := stuck
  rw [accounted.fillWindow_of_allowance started nothing] at atEnd
  exact notStuck ⟨started, finSent, caught, nothing, atEnd⟩

theorem FinDue.fillWindow (finDue : FinDue s) (accounted : Accounted isn written firsts s) :
    FinDue s.fillWindow := by
  refine accounted.finDue_fillWindow ?_
  rintro ⟨_, notSent, caught, _, atEnd⟩
  have inFlight := finDue atEnd notSent
  rw [accounted.bytesInFlight_eq_zero_iff.mpr caught] at inFlight
  exact Nat.lt_irrefl 0 inFlight

/-- An acknowledgment that leaves nothing in flight allows at least one sequence number. -/
theorem FinDue.ackReceived (finDue : FinDue s) (accounted : Accounted isn written firsts s)
    (ackno : WrappingInt32) (windowSize : UInt16) : FinDue (s.ackReceived ackno windowSize) := by
  rcases accounted.ackReceived_cases ackno windowSize with ignored | ⟨_, accepted, accounted'⟩
  · rwa [ignored]
  · rw [accepted]
    refine accounted'.finDue_fillWindow ?_
    rintro ⟨_, _, caught, nothing, _⟩
    exact s.allowance_acknowledge_ne_zero caught nothing

theorem FinDue.congr {s' : TCPSender} (finDue : FinDue s) (same : SameCore s s') : FinDue s' := by
  rw [FinDue, bytesInFlight, same.stream, same.finSent, same.segmentsOutstanding]
  exact finDue

/-- Closing the stream of a settled sender sends the FIN, unless the sender is stalled. -/
theorem Settled.finDue_endInput (settled : Settled isn written firsts s)
    (notStalled : ¬ (s.Stalled ∧ s.stream.buffer = [])) :
    FinDue { s with stream := s.stream.endInput }.fillWindow := by
  refine settled.toAccounted.endInput.finDue_fillWindow ?_
  rintro ⟨started, notSent, caught, nothing, atEnd⟩
  change s.lastAckno = s.nextSeqno at caught
  change s.allowance = 0 at nothing
  rw [allowance_of_acked caught] at nothing
  refine notStalled ⟨⟨started, notSent, ?_, by omega⟩, ((ByteStream.eof_iff _).mp atEnd).1⟩
  exact settled.toAccounted.bytesInFlight_eq_zero_iff.mpr caught

end TCPSender

namespace TCPConnection

open TCPSender

/-- The stream is closed into a zero window with nothing in flight and nothing buffered. -/
def StrandsFin (c : TCPConnection) : Event → Prop
  | .endInputStream => c.sender.Stalled ∧ c.sender.stream.buffer = []
  | _ => False

/-- The sender is settled and has something in flight while its FIN is due. -/
def Closing (isn : WrappingInt32) (s : TCPSender) : Prop :=
  (∃ written firsts, Settled isn written firsts s) ∧ FinDue s

theorem steady_closing (isn : WrappingInt32) : Steady (Closing isn) where
  fillWindow := by
    rintro s ⟨⟨written, firsts, settled⟩, finDue⟩
    exact ⟨(steady_settled isn).fillWindow _ ⟨_, _, settled⟩,
      finDue.fillWindow settled.toAccounted⟩
  ackReceived := by
    rintro s ackno windowSize ⟨⟨written, firsts, settled⟩, finDue⟩
    exact ⟨(steady_settled isn).ackReceived _ ackno windowSize ⟨_, _, settled⟩,
      finDue.ackReceived settled.toAccounted ackno windowSize⟩
  sendEmptySegment := by
    rintro s ⟨settled, finDue⟩
    exact ⟨(steady_settled isn).sendEmptySegment _ settled,
      finDue.congr s.sendEmptySegment_spec.1⟩
  write := by
    rintro s data ⟨⟨written, firsts, settled⟩, finDue⟩
    refine ⟨(steady_settled isn).write _ data ⟨_, _, settled⟩,
      FinDue.fillWindow ?_ (settled.toAccounted.write data)⟩
    intro atEnd notSent
    -- a stream at its end accepts nothing
    have isEnded := ((ByteStream.eof_iff _).mp atEnd).2
    rw [ByteStream.write_inputEnded] at isEnded
    simp only [s.stream.write_of_ended data isEnded] at atEnd ⊢
    exact finDue atEnd notSent
  tick := by
    rintro s msSinceLastTick ⟨settled, finDue⟩
    exact ⟨(steady_settled isn).tick _ msSinceLastTick settled,
      finDue.congr (s.tick_spec msSinceLastTick).1⟩
  requeue := by
    rintro s queue ⟨settled, finDue⟩
    exact ⟨(steady_settled isn).requeue _ queue settled, finDue⟩
  setError := by
    rintro s ⟨settled, finDue⟩
    exact ⟨(steady_settled isn).setError _ settled, finDue⟩

theorem Closing.step {isn : WrappingInt32} {c c' : TCPConnection} {event : Event}
    (closing : Closing isn c.sender) (permitted : ¬ c.StrandsFin event)
    (next : c.step event = some c') : Closing isn c'.sender := by
  refine (steady_closing isn).step closing (fun isClose => ?_) next
  obtain ⟨⟨written, firsts, settled⟩, _⟩ := closing
  obtain ⟨_, settled', _⟩ := settled.endInput
  subst isClose
  exact ⟨⟨_, _, settled'⟩, settled.finDue_endInput permitted⟩

/--
In every run in which no stalled sender with an empty buffer is closed, a
connection that is no longer active and has no error has sent its FIN, has had
everything acknowledged, and has received the end of the inbound stream.
-/
theorem clean_close_is_real {cfg : TCPConfig} {random : UInt32} {c : TCPConnection}
    (reached : Reaches step (fun c event => ¬ c.StrandsFin event) (new cfg random) c)
    (inactive : c.active = false) (noOutboundError : c.outboundStream.error = false)
    (noInboundError : c.inboundStream.error = false) :
    c.sender.finSent = true ∧
      c.sender.nextSeqnoAbsolute = c.outboundStream.bytesWritten + 2 ∧
      c.bytesInFlight = 0 ∧ c.inboundStream.inputEnded = true := by
  obtain ⟨⟨written, firsts, settled⟩, finDue⟩ := reached.invariant
    (fun c => Closing (cfg.fixedIsn.getD ⟨random⟩) c.sender)
    ⟨⟨_, _, settled_new _ _ _ _⟩, fun atEnd => by cases atEnd⟩
    (fun _ _ _ closing permitted next => closing.step permitted next)
  have notActive : ¬ c.active = true := by simp [inactive]
  have finished : c.outboundStream.eof = true ∧ c.inboundStream.eof = true := by
    by_contra unfinished
    exact notActive ((active_of_not_eof unfinished).mpr ⟨noOutboundError, noInboundError⟩)
  have idle : c.bytesInFlight = 0 := by
    by_contra inFlight
    exact notActive ((active_of_eof finished.1 finished.2).mpr (Or.inl inFlight))
  have sent : c.sender.finSent = true := by
    by_contra notSent
    have inFlight := finDue finished.1 (by simpa using notSent)
    rw [← bytesInFlight, idle] at inFlight
    exact Nat.lt_irrefl 0 inFlight
  refine ⟨sent, ?_, idle, ((ByteStream.eof_iff _).mp finished.2).2⟩
  have started : c.sender.nextSeqno ≠ 0 := fun unsent => by
    have notSent := (settled.fresh unsent).finSent
    rw [sent] at notSent
    cases notSent
  have position := settled.position started
  have total := c.sender.stream.accounted
  have drained := (settled.finished sent).2
  rw [drained, List.length_nil] at total
  rw [sent, Bool.toNat_true] at position
  rw [nextSeqnoAbsolute, outboundStream]
  omega

/-- Both sides close, the peer first, and the last FIN is acknowledged. -/
theorem clean_close_is_real_passive :
    ∃ c, Reaches step (fun c event => ¬ c.StrandsFin event)
        (new { fixedIsn := some ⟨5⟩ } 0) c ∧ c.active = false ∧ c.sender.finSent = true := by
  have start : Reaches step (fun c event => ¬ c.StrandsFin event)
    (new { fixedIsn := some ⟨5⟩ } 0) (new { fixedIsn := some ⟨5⟩ } 0) := .refl
  have one := start.tail Event.connect not_false rfl
  have two := one.tail (Event.segmentReceived
    { header := { syn := true, ack := true, seqno := ⟨100⟩, ackno := ⟨6⟩, win := 8 } })
    not_false rfl
  have three := two.tail (Event.segmentReceived
    { header := { fin := true, ack := true, seqno := ⟨101⟩, ackno := ⟨6⟩, win := 8 } })
    not_false rfl
  have four := three.tail Event.endInputStream
    (fun stranded => absurd stranded.1.2.2.2 (by decide)) rfl
  have five := four.tail (Event.segmentReceived
    { header := { ack := true, seqno := ⟨102⟩, ackno := ⟨7⟩, win := 8 } }) not_false rfl
  exact ⟨_, five, by decide,
    (clean_close_is_real five (by decide) (by decide) (by decide)).1⟩

/-- The peer closes with a zero window; the stream is closed and the FIN never sent. -/
theorem close_into_zero_window :
    ¬ ∀ (cfg : TCPConfig) (random : UInt32) (c : TCPConnection),
      Reaches step Always (new cfg random) c → c.active = false →
      c.outboundStream.error = false → c.inboundStream.error = false →
        c.sender.finSent = true ∧
          c.sender.nextSeqnoAbsolute = c.outboundStream.bytesWritten + 2 ∧
          c.bytesInFlight = 0 ∧ c.inboundStream.inputEnded = true := by
  intro isReal
  have start : Reaches step Always (new { fixedIsn := some ⟨5⟩ } 0)
    (new { fixedIsn := some ⟨5⟩ } 0) := .refl
  have one := start.tail Event.connect trivial rfl
  have two := one.tail (Event.segmentReceived
    { header := { syn := true, ack := true, seqno := ⟨100⟩, ackno := ⟨6⟩ } }) trivial rfl
  have three := two.tail (Event.segmentReceived
    { header := { fin := true, ack := true, seqno := ⟨101⟩, ackno := ⟨6⟩ } }) trivial rfl
  have four := three.tail Event.endInputStream trivial rfl
  exact absurd (isReal _ _ _ four (by decide) (by decide) (by decide)).1 (by decide)

end TCPConnection

end Sponge
