import Sponge.Model.TCPState
import Sponge.Transmission.History

/-!
# What the sender's summary says

`state_summary` classifies a sender by the next sequence number, the bytes in
flight and two counters of its stream.  On an accounted sender those determine
how far the stream has been sent and acknowledged.
-/

namespace Sponge.TCPSender

open Tiling

/-- The summary of a sender by what it has sent and what was acknowledged. -/
def progress (nextSeqno lastAckno : Nat) (finSent : Bool) : TCPSenderStateSummary :=
  if nextSeqno = 0 then .closed
  else if lastAckno = 0 then .synSent
  else if finSent = false then .synAcked
  else if lastAckno = nextSeqno then .finAcked
  else .finSent

section Progress

variable {nextSeqno lastAckno : Nat} {finSent : Bool}

theorem progress_eq_closed_iff :
    progress nextSeqno lastAckno finSent = .closed ↔ nextSeqno = 0 := by
  unfold progress
  split_ifs with unsent <;> simp [unsent]

theorem progress_eq_synSent_iff :
    progress nextSeqno lastAckno finSent = .synSent ↔ nextSeqno ≠ 0 ∧ lastAckno = 0 := by
  unfold progress
  split_ifs with unsent unacked <;> simp [*]

theorem progress_eq_synAcked_iff (acked : lastAckno ≤ nextSeqno) :
    progress nextSeqno lastAckno finSent = .synAcked ↔ 1 ≤ lastAckno ∧ finSent = false := by
  unfold progress
  split_ifs with unsent unacked noFin <;> simp [*] <;> omega

theorem progress_eq_finSent_iff (acked : lastAckno ≤ nextSeqno) :
    progress nextSeqno lastAckno finSent = .finSent ↔
      finSent = true ∧ 1 ≤ lastAckno ∧ lastAckno < nextSeqno := by
  unfold progress
  split_ifs with unsent unacked noFin caught <;> simp [*]
  omega

/-- A FIN takes up a sequence number, so that one that is acknowledged leaves its mark. -/
theorem progress_eq_finAcked_iff (started : finSent = true → nextSeqno ≠ 0) :
    progress nextSeqno lastAckno finSent = .finAcked ↔
      finSent = true ∧ lastAckno = nextSeqno := by
  unfold progress
  split_ifs with unsent unacked noFin caught <;> simp_all
  omega

end Progress

variable {isn : WrappingInt32} {written : Bytes} {firsts : List TCPSegment} {s : TCPSender}

/-- The first segment ever sent is the bare SYN. -/
theorem Accounted.first_isSyn {first : TCPSegment} {rest : List TCPSegment}
    (accounted : Accounted isn written (first :: rest) s) : IsSyn isn first := by
  cases accounted.transmits (0, first) List.mem_cons_self with
  | syn _ isSyn => exact isSyn

/-- The next number has moved exactly if the SYN was sent. -/
theorem Accounted.syn_sent_iff (accounted : Accounted isn written firsts s) :
    s.nextSeqno ≠ 0 ↔ ∃ segment ∈ firsts, segment.header.syn = true := by
  rw [← accounted.span_eq, ne_eq, span_eq_zero_iff accounted.nonempty]
  cases firsts with
  | nil => simp
  | cons first rest =>
      exact ⟨fun _ => ⟨first, List.mem_cons_self, accounted.first_isSyn.isSyn⟩,
        fun _ => List.cons_ne_nil _ _⟩

/-- The flag `_fin_sent` is set exactly if a FIN was sent. -/
theorem Accounted.fin_sent_iff (accounted : Accounted isn written firsts s) :
    s.finSent = true ↔ ∃ segment ∈ firsts, segment.header.fin = true := by
  have total := accounted.length_eq
  have sentSpan := accounted.span_eq
  constructor
  · -- the segment that covers the last sequence number carries more than bytes
    intro sent
    obtain ⟨_, drained⟩ := accounted.finished sent
    have started : s.nextSeqno ≠ 0 := fun unsent => by
      rw [(accounted.fresh unsent).finSent] at sent
      cases sent
    have position := accounted.position started
    rw [drained, List.length_nil] at total
    rw [sent, Bool.toNat_true] at position
    have sentLast : written.length + 1 < 0 + span TCPSegment.lengthInSequenceSpace firsts := by
      omega
    obtain ⟨⟨start, segment⟩, member, starts, stops⟩ := exists_covering (Nat.zero_le _) sentLast
    refine ⟨segment, (bounds_of_mem_layout member).2.2, ?_⟩
    cases accounted.transmits _ member with
    | syn _ isSyn =>
        simp only [stop, isSyn.length_eq] at stops
        omega
    | slice _ index isSlice _ =>
        have bounded := isSlice.bounded
        change written.length + 1 < index + 1 + segment.lengthInSequenceSpace at stops
        rw [isSlice.length_eq] at stops
        cases isFin : segment.header.fin with
        | true => rfl
        | false =>
            rw [isFin, Bool.toNat_false] at stops
            omega
  · rintro ⟨segment, member, isFin⟩
    obtain ⟨start, placed⟩ := layout_of_mem TCPSegment.lengthInSequenceSpace member 0
    have stops := accounted.stop_of_fin placed isFin
    have bounds := (bounds_of_mem_layout placed).2.1
    have position := accounted.position (by omega)
    cases sent : s.finSent with
    | true => rfl
    | false =>
        rw [sent, Bool.toNat_false] at position
        omega

/-- Everything sent is in flight exactly as long as the SYN is not acknowledged. -/
theorem Accounted.nextSeqno_eq_bytesInFlight_iff (accounted : Accounted isn written firsts s)
    (started : s.nextSeqno ≠ 0) : s.nextSeqno = s.bytesInFlight ↔ s.lastAckno = 0 := by
  obtain ⟨done, rest, rfl, kept, below, front⟩ :=
    exists_pending accounted.nonempty 0 s.lastAckno
  have inFlight : s.bytesInFlight = span TCPSegment.lengthInSequenceSpace rest :=
    queuedLength_layout (accounted.outstanding.trans kept)
  have total := accounted.span_eq
  rw [span_append] at total
  cases done with
  | nil =>
      -- nothing is acknowledged, so the SYN is still pending
      cases rest with
      | nil => exact absurd total.symm started
      | cons first rest =>
          have unacked := front first rfl
          rw [accounted.first_isSyn.length_eq] at unacked
          simp only [span] at total unacked inFlight
          omega
  | cons first done =>
      have width := accounted.nonempty first List.mem_cons_self
      have acked := below.resolve_left (List.cons_ne_nil _ _)
      simp only [span] at total acked
      omega

/-- The summary of a sender, in terms of what it has sent and what was acknowledged. -/
theorem Accounted.stateSummary_eq (accounted : Accounted isn written firsts s)
    (noError : s.stream.error = false) :
    s.stateSummary = progress s.nextSeqno s.lastAckno s.finSent := by
  have next : s.nextSeqnoAbsolute = s.nextSeqno := rfl
  rw [stateSummary, noError, if_neg Bool.false_ne_true, next, progress]
  by_cases unsent : s.nextSeqno = 0
  · rw [if_pos unsent, if_pos unsent]
  rw [if_neg unsent, if_neg unsent]
  simp only [accounted.nextSeqno_eq_bytesInFlight_iff unsent]
  by_cases unacked : s.lastAckno = 0
  · rw [if_pos unacked, if_pos unacked]
  rw [if_neg unacked, if_neg unacked]
  have position := accounted.position unsent
  have total := s.stream.accounted
  cases sent : s.finSent with
  | false =>
      rw [sent, Bool.toNat_false] at position
      rw [if_pos rfl, if_pos (show s.nextSeqno < s.stream.bytesWritten + 2 by omega), ite_self]
  | true =>
      obtain ⟨isEnded, drained⟩ := accounted.finished sent
      have eof : s.stream.eof = true := (s.stream.eof_iff).mpr ⟨drained, isEnded⟩
      rw [sent, Bool.toNat_true] at position
      rw [drained, List.length_nil] at total
      rw [if_neg (by simp [eof]), if_neg (by omega)]
      simp only [ne_eq, accounted.bytesInFlight_eq_zero_iff, ite_not, Bool.true_eq_false, if_false]

/--
The summary of a sender without error is its progress: whether the SYN and the
FIN have been sent, and how much of what was sent is acknowledged.
-/
theorem state_summary_exact {capacity : Nat} {retxTimeout : UInt16}
    {fixedIsn : Option WrappingInt32} {random : UInt32} {o : Logged}
    (reached : Run capacity retxTimeout fixedIsn random o)
    (noError : o.sender.stream.error = false) :
    (o.sender.stateSummary = .closed ↔ ¬ ∃ segment ∈ o.firsts, segment.header.syn = true) ∧
      (o.sender.stateSummary = .synSent ↔
        (∃ segment ∈ o.firsts, segment.header.syn = true) ∧ o.sender.lastAckno = 0) ∧
      (o.sender.stateSummary = .synAcked ↔ 1 ≤ o.sender.lastAckno ∧
        ¬ ∃ segment ∈ o.firsts, segment.header.fin = true) ∧
      (o.sender.stateSummary = .finSent ↔ (∃ segment ∈ o.firsts, segment.header.fin = true) ∧
        1 ≤ o.sender.lastAckno ∧ o.sender.lastAckno < o.sender.nextSeqnoAbsolute) ∧
      (o.sender.stateSummary = .finAcked ↔ (∃ segment ∈ o.firsts, segment.header.fin = true) ∧
        o.sender.lastAckno = o.sender.nextSeqnoAbsolute) := by
  obtain ⟨accounted, _⟩ := accounted_of_run reached
  have acked := accounted.acked
  have started : o.sender.finSent = true → o.sender.nextSeqno ≠ 0 := by
    intro sent unsent
    rw [(accounted.fresh unsent).finSent] at sent
    cases sent
  rw [accounted.stateSummary_eq noError, ← accounted.syn_sent_iff, ← accounted.fin_sent_iff,
    nextSeqnoAbsolute]
  refine ⟨?_, progress_eq_synSent_iff, ?_, progress_eq_finSent_iff acked,
    progress_eq_finAcked_iff started⟩
  · rw [progress_eq_closed_iff, not_ne_iff]
  · rw [progress_eq_synAcked_iff acked, Bool.not_eq_true]

/-- A sender whose FIN is in flight after its SYN was acknowledged. -/
theorem state_summary_exact_fin_in_flight :
    ∃ o, Run 10 1000 (some ⟨5⟩) 0 o ∧ o.sender.stream.error = false ∧
      o.sender.lastAckno = 1 ∧ o.sender.stateSummary = .finSent ∧
      ∃ segment ∈ o.firsts, segment.header.fin = true := by
  have start : Run 10 1000 (some ⟨5⟩) 0 (Logged.fresh (new 10 1000 (some ⟨5⟩) 0)) := .refl
  have one := start.tail Call.fillWindow trivial rfl
  have two := one.tail (Call.ackReceived ⟨6⟩ 4) trivial rfl
  have three := two.tail Call.endInput trivial rfl
  have four := three.tail Call.fillWindow trivial rfl
  refine ⟨_, four, rfl, by decide, by decide, ?_⟩
  exact ((state_summary_exact four rfl).2.2.2.1.mp (by decide)).1

end Sponge.TCPSender
