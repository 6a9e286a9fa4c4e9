import Sponge.Transmission.ZeroWindow

/-!
# A sender between calls

Every call on a connection's sender ends with the window filled.  What holds of
a sender then: no probe is left before the FIN, something waits only if nothing
more is allowed, and the retransmission counter runs only while something is
outstanding.
-/

namespace Sponge.TCPSender

open Tiling

/-- The sender between two calls. -/
structure Settled (isn : WrappingInt32) (written : Bytes) (firsts : List TCPSegment)
    (s : TCPSender) : Prop extends Accounted isn written firsts s where
  spent : Spent s
  filled : s.finSent = false → s.Waiting → s.allowance = 0
  counted : 0 < s.consecutiveRetransmissionsCount → s.segmentsOutstanding ≠ []

variable {isn : WrappingInt32} {written : Bytes} {firsts : List TCPSegment} {s s' : TCPSender}

theorem settled_new (capacity : Nat) (retxTimeout : UInt16) (fixedIsn : Option WrappingInt32)
    (random : UInt32) :
    Settled (fixedIsn.getD ⟨random⟩) [] [] (new capacity retxTimeout fixedIsn random) where
  toAccounted := accounted_new capacity retxTimeout fixedIsn random
  spent := fun armed => by cases armed
  filled := fun _ waiting => by rcases waiting with unread | isEnded <;> contradiction
  counted := fun running => by cases running

theorem Settled.congr (settled : Settled isn written firsts s) (same : SameCore s s')
    (counted : 0 < s'.consecutiveRetransmissionsCount → s'.segmentsOutstanding ≠ []) :
    Settled isn written firsts s' := by
  refine ⟨settled.toAccounted.congr same, settled.spent.congr same, ?_, counted⟩
  simp only [Waiting, allowance, probes, same.finSent, same.stream, same.lastAckno,
    same.windowSize, same.nextSeqno, same.windowZeroValid]
  exact settled.filled

/-- Once the window is filled, something waits only if nothing more is allowed. -/
theorem Accounted.filled_fillWindow (accounted : Accounted isn written firsts s)
    (closed : s.windowZeroValid = true → s.windowSize = 0 ∨ s.finSent = true)
    (notSent : s.fillWindow.finSent = false) (waiting : s.fillWindow.Waiting) :
    s.fillWindow.allowance = 0 := by
  have spent := accounted.spent_fillWindow closed
  have noProbe : s.fillWindow.probes = false := spent.noProbe notSent
  rw [allowance, noProbe, Bool.toNat_false, Nat.add_zero]
  cases accounted.filled with
  | ended finSent ran =>
      rw [ran, finSent] at notSent
      cases notSent
  | opened _ unsent fresh ran =>
      rw [ran]
      simp [TCPSender.transmitted, span, TCPSegment.lengthInSequenceSpace, numbered, unsent,
        fresh.lastAckno, fresh.windowSize]
  | sent wasNotSent _ _ segments ran fills =>
      have total := fills.span_eq
      rw [ran] at notSent waiting ⊢
      simp only [TCPSender.transmitted, wasNotSent, Bool.false_or] at notSent
      simp only [Waiting, TCPSender.transmitted, ByteStream.popOutput_buffer, ne_eq,
        List.drop_eq_nil_iff, ByteStream.popOutput_inputEnded] at waiting
      -- whatever waits, the whole allowance was used
      have used : s.allowance ≤ s.stream.buffer.length := by
        rcases waiting with unread | isEnded
        · omega
        · simpa [finFits, isEnded] using notSent
      rw [notSent, Bool.toNat_false, Nat.add_zero] at total
      rw [allowance] at total used
      simp only [TCPSender.transmitted]
      omega

/-- Something that waits and is allowed takes up sequence numbers. -/
theorem Accounted.nextSeqno_lt_fillWindow (accounted : Accounted isn written firsts s)
    (notSent : s.finSent = false) (waiting : s.Waiting) (allowed : s.allowance ≠ 0) :
    s.nextSeqno < s.fillWindow.nextSeqno := by
  cases accounted.filled with
  | ended finSent _ =>
      rw [notSent] at finSent
      cases finSent
  | opened _ unsent _ _ =>
      rw [unsent]
      exact Nat.pos_of_ne_zero accounted.started_fillWindow
  | sent _ _ _ segments ran fills =>
      have some : span TCPSegment.lengthInSequenceSpace segments ≠ 0 := by
        rw [ne_eq, fills.span_eq_zero_iff]
        exact not_or.mpr ⟨allowed, not_not.mpr waiting⟩
      rw [ran]
      simp only [TCPSender.transmitted]
      omega

/-- Something that waits and is allowed puts something in flight. -/
theorem Accounted.inFlight_fillWindow (accounted : Accounted isn written firsts s)
    (notSent : s.finSent = false) (waiting : s.Waiting) (allowed : s.allowance ≠ 0) :
    s.fillWindow.bytesInFlight ≠ 0 := by
  have acked := accounted.acked
  have sent := accounted.nextSeqno_lt_fillWindow notSent waiting allowed
  obtain ⟨_, accounted', sends⟩ := accounted.fillWindow
  rw [ne_eq, accounted'.bytesInFlight_eq_zero_iff, sends.lastAckno]
  omega

/-- Sending does not take back what is in flight. -/
theorem Accounted.inFlight_fillWindow_of_inFlight (accounted : Accounted isn written firsts s)
    (flying : s.bytesInFlight ≠ 0) : s.fillWindow.bytesInFlight ≠ 0 := by
  have acked := accounted.acked
  obtain ⟨_, accounted', sends⟩ := accounted.fillWindow
  rw [ne_eq, accounted.bytesInFlight_eq_zero_iff] at flying
  rw [ne_eq, accounted'.bytesInFlight_eq_zero_iff, sends.lastAckno, sends.nextSeqno]
  omega

/-- Nothing happens when nothing is allowed. -/
theorem Accounted.fillWindow_of_allowance (accounted : Accounted isn written firsts s)
    (started : s.nextSeqno ≠ 0) (nothing : s.allowance = 0) : s.fillWindow = s := by
  cases accounted.filled with
  | ended _ ran => exact ran
  | opened _ unsent _ _ => exact absurd unsent started
  | sent _ _ _ segments ran fills =>
      have noProbe : s.probes = false := by
        rw [allowance, Nat.add_eq_zero_iff, Bool.toNat_eq_zero] at nothing
        exact nothing.2
      have noFin : s.finFits 0 = false := by simp [finFits]
      obtain rfl :=
        (span_eq_zero_iff fills.nonempty).mp (fills.span_eq_zero_iff.mpr (Or.inl nothing))
      rw [ran, noProbe, nothing, noFin, s.transmitted_nil _ (Nat.zero_min _), Bool.not_false,
        Bool.and_true]

/-- When `fill_window` sends nothing. -/
def HasNothingToSend (s : TCPSender) : Prop :=
  s.finSent = true ∨ s.nextSeqno ≠ 0 ∧ (s.allowance = 0 ∨ ¬ s.Waiting)

theorem Accounted.fillWindow_queue_iff (accounted : Accounted isn written firsts s) :
    s.fillWindow.segmentsOut = s.segmentsOut ↔ s.HasNothingToSend := by
  rw [HasNothingToSend]
  cases accounted.filled with
  | ended finSent ran => simp [ran, finSent]
  | opened notSent unsent _ ran =>
      rw [ran]
      simp [TCPSender.transmitted, notSent, unsent]
  | sent notSent started _ segments ran fills =>
      rw [← fills.span_eq_zero_iff, span_eq_zero_iff fills.nonempty, ran]
      simp [TCPSender.transmitted, notSent, started]

/-- A call that ends by filling the window leaves the sender settled. -/
theorem Accounted.settle (accounted : Accounted isn written firsts s)
    (closed : s.windowZeroValid = true → s.windowSize = 0 ∨ s.finSent = true)
    (counted : 0 < s.consecutiveRetransmissionsCount → s.segmentsOutstanding ≠ []) :
    ∃ segments, Settled isn written (firsts ++ segments) s.fillWindow ∧
      Sends s s.fillWindow segments := by
  obtain ⟨segments, accounted', sends⟩ := accounted.fillWindow
  exact ⟨segments, ⟨accounted', accounted.spent_fillWindow closed,
    accounted.filled_fillWindow closed, sends.counted counted⟩, sends⟩

theorem counted_acknowledge
    (counted : 0 < s.consecutiveRetransmissionsCount → s.segmentsOutstanding ≠ [])
    (newAckno newWindowSize : Nat) :
    0 < (s.acknowledge newAckno newWindowSize).consecutiveRetransmissionsCount →
      (s.acknowledge newAckno newWindowSize).segmentsOutstanding ≠ [] := by
  cases s.acknowledged newAckno newWindowSize with
  | kept _ _ _ ran =>
      rw [ran]
      exact counted
  | popped _ _ _ _ _ ran =>
      rw [ran]
      exact fun running => absurd running (Nat.lt_irrefl 0)

theorem counted_tick
    (counted : 0 < s.consecutiveRetransmissionsCount → s.segmentsOutstanding ≠ [])
    (msSinceLastTick : Nat) :
    0 < (s.tick msSinceLastTick).consecutiveRetransmissionsCount →
      (s.tick msSinceLastTick).segmentsOutstanding ≠ [] := by
  cases s.ticked msSinceLastTick with
  | stopped _ ran | early _ _ ran =>
      rw [ran]
      exact counted
  | drained _ _ ran =>
      rw [ran]
      exact fun running => absurd running (Nat.lt_irrefl 0)
  | resent _ _ oldest rest queue ran =>
      rw [ran]
      exact fun _ none => absurd (queue.symm.trans none) (List.cons_ne_nil _ _)

section Calls

variable (settled : Settled isn written firsts s)

include settled

theorem Settled.fillWindow :
    ∃ segments, Settled isn written (firsts ++ segments) s.fillWindow ∧
      Sends s s.fillWindow segments :=
  settled.toAccounted.settle (fun armed => Or.inr (settled.spent armed)) settled.counted

theorem Settled.write (data : Bytes) :
    ∃ segments, Settled isn (written ++ data.take (s.stream.write data).2) (firsts ++ segments)
        { s with stream := (s.stream.write data).1 }.fillWindow ∧
      Sends { s with stream := (s.stream.write data).1 }
        { s with stream := (s.stream.write data).1 }.fillWindow segments :=
  (settled.toAccounted.write data).settle (fun armed => Or.inr (settled.spent armed))
    settled.counted

theorem Settled.endInput :
    ∃ segments, Settled isn written (firsts ++ segments)
        { s with stream := s.stream.endInput }.fillWindow ∧
      Sends { s with stream := s.stream.endInput }
        { s with stream := s.stream.endInput }.fillWindow segments :=
  settled.toAccounted.endInput.settle (fun armed => Or.inr (settled.spent armed)) settled.counted

theorem Settled.ackReceived (ackno : WrappingInt32) (windowSize : UInt16) :
    ∃ segments, Settled isn written (firsts ++ segments) (s.ackReceived ackno windowSize) ∧
      (s.ackReceived ackno windowSize).segmentsOut = s.segmentsOut ++ segments ∧
      (s.ackReceived ackno windowSize).stream.inputEnded = s.stream.inputEnded := by
  rcases settled.toAccounted.ackReceived_cases ackno windowSize with
    ignored | ⟨_, accepted, accounted'⟩
  · rw [ignored]
    exact ⟨[], by rwa [List.append_nil], (List.append_nil _).symm, rfl⟩
  · rw [accepted]
    obtain ⟨segments, settled', sends⟩ := accounted'.settle (settled.spent.acknowledge _ _)
      (counted_acknowledge settled.counted _ _)
    obtain ⟨taken, stream_eq⟩ := sends.stream
    refine ⟨segments, settled', by rw [sends.segmentsOut, acknowledge_segmentsOut], ?_⟩
    rw [stream_eq, (s.acknowledge_core _ _).stream]
    rfl

theorem Settled.tick (msSinceLastTick : Nat) :
    Settled isn written firsts (s.tick msSinceLastTick) :=
  settled.congr (s.tick_spec msSinceLastTick).1 (counted_tick settled.counted msSinceLastTick)

theorem Settled.sendEmptySegmentWithThisHeader {header : TCPHeader} (noSyn : header.syn = false)
    (noFin : header.fin = false) :
    Settled isn written firsts (s.sendEmptySegmentWithThisHeader header) := by
  rw [TCPSender.sendEmptySegmentWithThisHeader, sendSegment_of_empty]
  · exact settled.congr ⟨rfl, rfl, rfl, rfl, rfl, rfl, rfl, rfl⟩ settled.counted
  · simp [TCPSegment.lengthInSequenceSpace, noSyn, noFin]

/-- The output queue is no part of the account. -/
theorem Settled.requeue (queue : List TCPSegment) :
    Settled isn written firsts { s with segmentsOut := queue } :=
  settled.congr ⟨rfl, rfl, rfl, rfl, rfl, rfl, rfl, rfl⟩ settled.counted

theorem Settled.setError : Settled isn written firsts { s with stream := s.stream.setError } :=
  ⟨settled.toAccounted.setError, settled.spent, settled.filled, settled.counted⟩

end Calls

end Sponge.TCPSender
