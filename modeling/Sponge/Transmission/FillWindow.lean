import Sponge.Library.Tiling
import Sponge.Model.TCPSender
import Sponge.Segmentation

/-!
# What `fill_window` sends

The loop of `fill_window` reads as many bytes as the allowance and the stream
have, cuts them into segments and adds the FIN when the stream is drained and
one more sequence number is allowed.  `transmitted` is the state after sending a
list of segments; the loop is one `transmitted`.
-/

namespace Sponge.TCPSender

open Tiling

/-- The queue entries for segments sent from `position` on. -/
def enqueue (windowZeroFlag : Bool) (position : Nat) (segments : List TCPSegment) :
    List Outstanding :=
  (layout TCPSegment.lengthInSequenceSpace position segments).map
    fun placed => ⟨placed.1, windowZeroFlag, placed.2⟩

/-- The sender after reading `taken` bytes and sending them, perhaps with the FIN, as `segments`. -/
def transmitted (s : TCPSender) (windowZeroFlag : Bool) (segments : List TCPSegment)
    (taken : Nat) (fin : Bool) : TCPSender :=
  { s with
    stream := s.stream.popOutput taken
    finSent := s.finSent || fin
    nextSeqno := s.nextSeqno + span TCPSegment.lengthInSequenceSpace segments
    segmentsOut := s.segmentsOut ++ segments
    segmentsOutstanding := s.segmentsOutstanding ++ enqueue windowZeroFlag s.nextSeqno segments
    timerEnable := s.timerEnable || !segments.isEmpty }

/-- Up to the probe flag, `s'` is `s` after sending `segments`. -/
def Sends (s s' : TCPSender) (segments : List TCPSegment) : Prop :=
  ∃ windowZeroFlag taken fin windowZeroValid, s' =
    { s.transmitted windowZeroFlag segments taken fin with windowZeroValid := windowZeroValid }

/-- The stream is drained and the FIN fits when `num` sequence numbers are allowed. -/
def finFits (s : TCPSender) (num : Nat) : Bool :=
  s.stream.inputEnded && decide (s.stream.buffer.length < num)

/-- The bytes written so far are those read so far followed by the buffer. -/
structure Aligned (written : Bytes) (s : TCPSender) : Prop where
  accepted : written.length = s.stream.bytesWritten
  unread : written.drop s.stream.bytesRead = s.stream.buffer

theorem Aligned.length_eq {written : Bytes} {s : TCPSender} (aligned : Aligned written s) :
    written.length = s.stream.bytesRead + s.stream.buffer.length :=
  aligned.accepted.trans s.stream.accounted

/-- `segments` use up the allowance `num` as far as the stream has something to send. -/
structure Fills (written : Bytes) (s : TCPSender) (num : Nat) (segments : List TCPSegment) :
    Prop where
  span_eq : span TCPSegment.lengthInSequenceSpace segments =
    min num s.stream.buffer.length + (s.finFits num).toNat
  nonempty : ∀ segment ∈ segments, 0 < segment.lengthInSequenceSpace
  transmits : ∀ placed ∈ layout TCPSegment.lengthInSequenceSpace s.nextSeqno segments,
    Transmits s.isn written (s.stream.inputEnded = true) placed.1 placed.2

section Transmitted

variable (s : TCPSender) (windowZeroFlag : Bool)

theorem Sends.segmentsOut {s s' : TCPSender} {segments : List TCPSegment}
    (sends : Sends s s' segments) : s'.segmentsOut = s.segmentsOut ++ segments := by
  obtain ⟨_, _, _, _, rfl⟩ := sends
  rfl

theorem Sends.lastAckno {s s' : TCPSender} {segments : List TCPSegment}
    (sends : Sends s s' segments) : s'.lastAckno = s.lastAckno := by
  obtain ⟨_, _, _, _, rfl⟩ := sends
  rfl

theorem Sends.nextSeqno {s s' : TCPSender} {segments : List TCPSegment}
    (sends : Sends s s' segments) :
    s'.nextSeqno = s.nextSeqno + span TCPSegment.lengthInSequenceSpace segments := by
  obtain ⟨_, _, _, _, rfl⟩ := sends
  rfl

theorem Sends.stream {s s' : TCPSender} {segments : List TCPSegment}
    (sends : Sends s s' segments) : ∃ taken, s'.stream = s.stream.popOutput taken := by
  obtain ⟨_, taken, _, _, rfl⟩ := sends
  exact ⟨taken, rfl⟩

/-- Sending keeps the retransmission counter and what is outstanding. -/
theorem Sends.counted {s s' : TCPSender} {segments : List TCPSegment} (sends : Sends s s' segments)
    (counted : 0 < s.consecutiveRetransmissionsCount → s.segmentsOutstanding ≠ []) :
    0 < s'.consecutiveRetransmissionsCount → s'.segmentsOutstanding ≠ [] := by
  obtain ⟨_, _, _, _, rfl⟩ := sends
  exact fun running => List.append_ne_nil_of_left_ne_nil (counted running) _

/-- Sending nothing and reading nothing changes nothing. -/
theorem transmitted_nil {taken : Nat} (nothing : min taken s.stream.buffer.length = 0) :
    s.transmitted windowZeroFlag [] taken false = s := by
  simp [transmitted, enqueue, layout, span, s.stream.popOutput_of_min_eq_zero taken nothing]

theorem sends_refl : Sends s s [] :=
  ⟨false, 0, false, s.windowZeroValid, by rw [s.transmitted_nil false (Nat.zero_min _)]⟩

theorem transmitted_transmitted (first second : List TCPSegment) (taken more : Nat)
    (fin later : Bool) :
    (s.transmitted windowZeroFlag first taken fin).transmitted windowZeroFlag second more later =
      s.transmitted windowZeroFlag (first ++ second) (taken + more) (fin || later) := by
  have queued : (first ++ second).isEmpty = (first.isEmpty && second.isEmpty) := by
    cases first <;> rfl
  simp [transmitted, enqueue, ByteStream.popOutput_popOutput, Nat.add_assoc, Bool.or_assoc,
    queued]

/-- The segment as `send_segment` numbers it. -/
def numbered (segment : TCPSegment) : TCPSegment :=
  { segment with header := { segment.header with seqno := wrap s.nextSeqno s.isn } }

@[simp] theorem numbered_length (segment : TCPSegment) :
    (s.numbered segment).lengthInSequenceSpace = segment.lengthInSequenceSpace := rfl

theorem sendSegment_of_nonempty {segment : TCPSegment}
    (nonempty : segment.lengthInSequenceSpace ≠ 0) :
    s.sendSegment segment windowZeroFlag =
      s.transmitted windowZeroFlag [s.numbered segment] 0 false := by
  have numberedNonempty : (s.numbered segment).lengthInSequenceSpace ≠ 0 := nonempty
  have unchanged := s.stream.popOutput_of_min_eq_zero 0 (Nat.zero_min _)
  refine (if_pos numberedNonempty).trans ?_
  simp [transmitted, enqueue, layout, span, numbered, nextSeqnoAbsolute, unchanged]

/-- An empty segment is queued and not remembered. -/
theorem sendSegment_of_empty {segment : TCPSegment} (isEmpty : segment.lengthInSequenceSpace = 0) :
    s.sendSegment segment windowZeroFlag =
      { s with segmentsOut := s.segmentsOut ++ [s.numbered segment] } := by
  have numberedEmpty : (s.numbered segment).lengthInSequenceSpace = 0 := isEmpty
  refine (if_neg (not_not.mpr numberedEmpty)).trans ?_
  simp only [numbered] at numberedEmpty
  simp only [numbered, numberedEmpty, Nat.add_zero]

end Transmitted

/-- After the FIN the loop sends nothing more. -/
theorem fillLoop_of_finSent (windowZeroFlag : Bool) (fuel num : Nat) {s : TCPSender}
    (finSent : s.finSent = true) (drained : s.stream.buffer = []) :
    fillLoop windowZeroFlag fuel num s = s := by
  cases fuel with
  | zero => rfl
  | succ fuel =>
      have unchanged : ∀ len, s.stream.popOutput len = s.stream :=
        fun len => s.stream.popOutput_of_min_eq_zero len (by simp [drained])
      have nothing : ∀ len, s.stream.peekOutput len = [] := fun len => by
        simp [ByteStream.peekOutput, drained]
      rw [fillLoop]
      split
      · rfl
      · simp [ByteStream.read, unchanged, nothing, TCPSegment.lengthInSequenceSpace, finSent]
        rw [← finSent]

/-- The bytes read next are the slice of the written bytes that starts at `bytesRead`. -/
theorem Aligned.isSlice {written : Bytes} {s : TCPSender} (aligned : Aligned written s)
    (position : s.nextSeqno = s.stream.bytesRead + 1) (len : Nat) {fin : Bool}
    (final : fin = true → s.stream.buffer.length ≤ len ∧ s.stream.inputEnded = true) :
    IsSlice s.isn written (s.stream.inputEnded = true) s.stream.bytesRead
      (s.numbered { header := { fin := fin }, payload := s.stream.peekOutput len }) := by
  have total := aligned.length_eq
  have length := s.stream.peekOutput_length len
  refine ⟨?_, rfl, ?_, by rw [← position]; rfl, fun isFin => ⟨(final isFin).2, ?_⟩⟩
  · simp only [numbered]
    omega
  · simp only [numbered]
    rw [aligned.unread, length]
    rfl
  · have drained := (final isFin).1
    simp only [numbered]
    omega

theorem Aligned.transmitted {written : Bytes} {s : TCPSender} (aligned : Aligned written s)
    (windowZeroFlag : Bool) (segments : List TCPSegment) (taken : Nat) (fin : Bool) :
    Aligned written (s.transmitted windowZeroFlag segments taken fin) := by
  refine ⟨aligned.accepted, ?_⟩
  simp only [TCPSender.transmitted, ByteStream.popOutput_bytesRead, ByteStream.popOutput_buffer]
  rw [← aligned.unread, List.drop_drop]

/-- The segment one round of the loop builds when `num` sequence numbers are allowed. -/
def roundSegment (s : TCPSender) (num : Nat) : TCPSegment :=
  let len := min num TCPConfig.maxPayloadSize
  let fin := (s.stream.popOutput len).eof && decide (0 < num - (s.stream.peekOutput len).length)
  { header := { fin := fin }, payload := s.stream.peekOutput len }

/-- The round adds the FIN when it fits and the payload limit does not stop it. -/
theorem roundSegment_fin (s : TCPSender) (num : Nat) : (s.roundSegment num).header.fin =
    (s.finFits num && decide (s.stream.buffer.length ≤ TCPConfig.maxPayloadSize)) := by
  have length := s.stream.peekOutput_length (min num TCPConfig.maxPayloadSize)
  rw [Bool.eq_iff_iff]
  simp only [roundSegment, finFits, Bool.and_eq_true, ByteStream.popOutput_eof_iff,
    decide_eq_true_iff, length]
  constructor
  · rintro ⟨⟨drained, isEnded⟩, room⟩
    exact ⟨⟨isEnded, by omega⟩, by omega⟩
  · rintro ⟨⟨isEnded, room⟩, short⟩
    exact ⟨⟨by omega, isEnded⟩, by omega⟩

theorem roundSegment_length (s : TCPSender) (num : Nat) :
    (s.roundSegment num).lengthInSequenceSpace =
      min (min num TCPConfig.maxPayloadSize) s.stream.buffer.length +
        (s.roundSegment num).header.fin.toNat := by
  rw [← s.stream.peekOutput_length]
  unfold TCPSegment.lengthInSequenceSpace
  cases (s.roundSegment num).header.fin <;> rfl

/-- One round: leave the loop if there is nothing to send, and otherwise send and go on. -/
theorem fillLoop_succ (windowZeroFlag : Bool) (fuel : Nat) {num : Nat} {s : TCPSender}
    (positive : num ≠ 0) (notSent : s.finSent = false) :
    fillLoop windowZeroFlag (fuel + 1) num s =
      if (s.roundSegment num).lengthInSequenceSpace = 0 then
        s.transmitted windowZeroFlag [] (min num TCPConfig.maxPayloadSize)
          (s.roundSegment num).header.fin
      else
        fillLoop windowZeroFlag fuel (num - (s.roundSegment num).lengthInSequenceSpace)
          (s.transmitted windowZeroFlag [s.numbered (s.roundSegment num)]
            (min num TCPConfig.maxPayloadSize) (s.roundSegment num).header.fin) := by
  have remaining : num - (s.roundSegment num).lengthInSequenceSpace =
      if (s.roundSegment num).header.fin then num - (s.roundSegment num).payload.length - 1
      else num - (s.roundSegment num).payload.length := by
    have noSyn : (s.roundSegment num).header.syn = false := rfl
    simp only [TCPSegment.lengthInSequenceSpace, noSyn, Bool.false_eq_true, if_false]
    split <;> omega
  rw [fillLoop, if_neg positive, remaining]
  dsimp only [ByteStream.read]
  simp only [notSent, Bool.not_false, Bool.and_true, Bool.false_or]
  change (if (s.roundSegment num).lengthInSequenceSpace = 0 then _
    else fillLoop windowZeroFlag fuel _ (sendSegment _ (s.roundSegment num) _)) = _
  split
  · simp [transmitted, enqueue, layout, span, roundSegment, notSent]
  · rename_i nonempty
    rw [sendSegment_of_nonempty _ _ nonempty]
    congr 1
    simp [transmitted, ByteStream.popOutput_popOutput, roundSegment, notSent, numbered, enqueue,
      layout]

/-- The segment of a round, numbered, is a slice of the written bytes. -/
theorem Aligned.transmits_round {written : Bytes} {s : TCPSender} (aligned : Aligned written s)
    (position : s.nextSeqno = s.stream.bytesRead + 1) (num : Nat) :
    Transmits s.isn written (s.stream.inputEnded = true) s.nextSeqno
      (s.numbered (s.roundSegment num)) := by
  rw [position]
  refine .slice rfl _ (aligned.isSlice position _ fun isFin => ?_) ?_
  · exact (ByteStream.popOutput_eof_iff _ _).mp (Bool.and_eq_true_iff.mp isFin).1
  · have length := s.stream.peekOutput_length (min num TCPConfig.maxPayloadSize)
    simp only [numbered, roundSegment]
    omega

section Round

variable (s : TCPSender) {windowZeroFlag : Bool} {num : Nat}

/-- The sender after a round that sent no FIN. -/
def afterRound (windowZeroFlag : Bool) (num : Nat) : TCPSender :=
  s.transmitted windowZeroFlag [s.numbered (s.roundSegment num)]
    (min num TCPConfig.maxPayloadSize) false

theorem afterRound_position
    (length : (s.roundSegment num).lengthInSequenceSpace =
      min (min num TCPConfig.maxPayloadSize) s.stream.buffer.length)
    (position : s.nextSeqno = s.stream.bytesRead + 1) :
    (s.afterRound windowZeroFlag num).nextSeqno =
      (s.afterRound windowZeroFlag num).stream.bytesRead + 1 := by
  simp only [afterRound, transmitted, span, numbered_length, ByteStream.popOutput_bytesRead]
  omega

/-- The FIN fits the remaining allowance when it fitted before the round. -/
theorem finFits_afterRound
    (length : (s.roundSegment num).lengthInSequenceSpace =
      min (min num TCPConfig.maxPayloadSize) s.stream.buffer.length) :
    (s.afterRound windowZeroFlag num).finFits
      (num - (s.roundSegment num).lengthInSequenceSpace) = s.finFits num := by
  simp only [finFits, afterRound, transmitted, ByteStream.popOutput_inputEnded,
    ByteStream.popOutput_buffer, List.length_drop, ← length]
  congr 2
  exact propext (by omega)

variable {s}

/-- The segment of a round and what fills the remaining allowance fill the allowance. -/
theorem Fills.cons {written : Bytes} {rest : List TCPSegment}
    (fills : Fills written (s.afterRound windowZeroFlag num)
      (num - (s.roundSegment num).lengthInSequenceSpace) rest)
    (length : (s.roundSegment num).lengthInSequenceSpace =
      min (min num TCPConfig.maxPayloadSize) s.stream.buffer.length)
    (nonempty : (s.roundSegment num).lengthInSequenceSpace ≠ 0)
    (transmits : Transmits s.isn written (s.stream.inputEnded = true) s.nextSeqno
      (s.numbered (s.roundSegment num))) :
    Fills written s num (s.numbered (s.roundSegment num) :: rest) := by
  refine ⟨?_, fun segment member => ?_, fun placed member => ?_⟩
  · have spanRest := fills.span_eq
    rw [s.finFits_afterRound length] at spanRest
    simp only [afterRound, transmitted, ByteStream.popOutput_buffer, List.length_drop] at spanRest
    rw [span, spanRest, numbered_length]
    omega
  · rcases List.mem_cons.mp member with rfl | later
    · exact Nat.pos_of_ne_zero nonempty
    · exact fills.nonempty segment later
  · rcases List.mem_cons.mp member with rfl | later
    · exact transmits
    · exact fills.transmits placed later

end Round

/-! ## Runs of the loop -/

/--
A run of the loop from an allowance and a sender to the sender it leaves, with the
segments it sends.  The loop ends without an allowance, with nothing to send, or
after the FIN.
-/
inductive Loops (windowZeroFlag : Bool) :
    Nat → TCPSender → TCPSender → List TCPSegment → Prop where
  | exhausted (s : TCPSender) : Loops windowZeroFlag 0 s s []
  | drained {num : Nat} {s : TCPSender} (positive : num ≠ 0) (unread : s.stream.buffer = [])
      (isOpen : s.stream.inputEnded = false) : Loops windowZeroFlag num s s []
  | closing {num : Nat} {s : TCPSender} (isFin : (s.roundSegment num).header.fin = true) :
      Loops windowZeroFlag num s
        (s.transmitted windowZeroFlag [s.numbered (s.roundSegment num)]
          (min num TCPConfig.maxPayloadSize) true)
        [s.numbered (s.roundSegment num)]
  | round {num : Nat} {s final : TCPSender} {rest : List TCPSegment}
      (noFin : (s.roundSegment num).header.fin = false)
      (nonempty : (s.roundSegment num).lengthInSequenceSpace ≠ 0)
      (later : Loops windowZeroFlag (num - (s.roundSegment num).lengthInSequenceSpace)
        (s.afterRound windowZeroFlag num) final rest) :
      Loops windowZeroFlag num s final (s.numbered (s.roundSegment num) :: rest)

/-- A round that sends nothing found the stream drained and open. -/
theorem drained_of_empty {s : TCPSender} {num : Nat} (positive : num ≠ 0)
    (isEmpty : (s.roundSegment num).lengthInSequenceSpace = 0) :
    s.stream.buffer = [] ∧ s.stream.inputEnded = false ∧
      (s.roundSegment num).header.fin = false := by
  have limit : 0 < TCPConfig.maxPayloadSize := by decide
  have isFin := s.roundSegment_fin num
  rw [s.roundSegment_length num, Nat.add_eq_zero_iff, Bool.toNat_eq_zero] at isEmpty
  obtain ⟨noBytes, noFin⟩ := isEmpty
  have unread : s.stream.buffer.length = 0 := by omega
  refine ⟨List.length_eq_zero_iff.mp unread, ?_, noFin⟩
  simpa [finFits, unread, noFin, Nat.pos_of_ne_zero positive] using isFin.symm

/-- With the FIN a round takes all that is left of the stream. -/
theorem fits_of_fin {s : TCPSender} {num : Nat} (isFin : (s.roundSegment num).header.fin = true) :
    s.finFits num = true ∧ s.stream.buffer.length < num ∧
      s.stream.buffer.length ≤ TCPConfig.maxPayloadSize := by
  obtain ⟨fits, short⟩ := Bool.and_eq_true_iff.mp ((s.roundSegment_fin num).symm.trans isFin)
  exact ⟨fits, of_decide_eq_true (Bool.and_eq_true_iff.mp fits).2, of_decide_eq_true short⟩

theorem fillLoop_loops (windowZeroFlag : Bool) (fuel num : Nat) (s : TCPSender)
    (enough : num ≤ fuel) (notSent : s.finSent = false) :
    ∃ segments, Loops windowZeroFlag num s (fillLoop windowZeroFlag fuel num s) segments := by
  induction fuel generalizing num s with
  | zero =>
      obtain rfl : num = 0 := by omega
      exact ⟨[], .exhausted s⟩
  | succ fuel ih =>
      by_cases exhausted : num = 0
      · subst exhausted
        rw [fillLoop, if_pos rfl]
        exact ⟨[], .exhausted s⟩
      rw [fillLoop_succ _ _ exhausted notSent]
      split
      · rename_i isEmpty
        obtain ⟨unread, isOpen, noFin⟩ := drained_of_empty exhausted isEmpty
        rw [noFin, s.transmitted_nil _ (by simp [unread])]
        exact ⟨[], .drained exhausted unread isOpen⟩
      · rename_i nonempty
        cases withFin : (s.roundSegment num).header.fin with
        | true =>
            -- the FIN is sent now, and the loop ends in its next round
            obtain ⟨_, room, short⟩ := fits_of_fin withFin
            rw [fillLoop_of_finSent _ _ _ (by simp [TCPSender.transmitted])
              (by simp [TCPSender.transmitted]; omega)]
            exact ⟨_, .closing withFin⟩
        | false =>
            obtain ⟨rest, later⟩ := ih (num - (s.roundSegment num).lengthInSequenceSpace)
              (s.afterRound windowZeroFlag num) (by omega)
              (by rw [afterRound, TCPSender.transmitted, notSent]; rfl)
            exact ⟨_, .round withFin nonempty later⟩

theorem finFits_zero (s : TCPSender) : s.finFits 0 = false := by simp [finFits]

theorem roundSegment_length_of_noFin {s : TCPSender} {num : Nat}
    (noFin : (s.roundSegment num).header.fin = false) :
    (s.roundSegment num).lengthInSequenceSpace =
      min (min num TCPConfig.maxPayloadSize) s.stream.buffer.length := by
  rw [s.roundSegment_length num, noFin, Bool.toNat_false, Nat.add_zero]

/-- A run of the loop reads what is allowed, and sends it with the FIN if that fits. -/
theorem Loops.transmitted_eq {windowZeroFlag : Bool} {num : Nat} {s final : TCPSender}
    {segments : List TCPSegment} (loops : Loops windowZeroFlag num s final segments) :
    final = s.transmitted windowZeroFlag segments num (s.finFits num) := by
  induction loops with
  | exhausted s => rw [s.finFits_zero, s.transmitted_nil _ (Nat.zero_min _)]
  | @drained num s positive unread isOpen =>
      have notFits : s.finFits num = false := by simp [finFits, isOpen]
      rw [notFits, s.transmitted_nil _ (by simp [unread])]
  | @closing num s isFin =>
      obtain ⟨fits, room, short⟩ := fits_of_fin isFin
      have read : min (min num TCPConfig.maxPayloadSize) s.stream.buffer.length =
        min num s.stream.buffer.length := by omega
      rw [fits]
      simp only [TCPSender.transmitted, s.stream.popOutput_congr read]
  | @round num s final rest noFin nonempty later ih =>
      have length := roundSegment_length_of_noFin noFin
      have read : min (min num TCPConfig.maxPayloadSize +
          (num - (s.roundSegment num).lengthInSequenceSpace)) s.stream.buffer.length =
        min num s.stream.buffer.length := by omega
      rw [s.finFits_afterRound length] at ih
      rw [ih, afterRound, transmitted_transmitted, Bool.false_or, List.singleton_append]
      simp only [TCPSender.transmitted, s.stream.popOutput_congr read]

theorem Loops.fills {windowZeroFlag : Bool} {written : Bytes} {num : Nat} {s final : TCPSender}
    {segments : List TCPSegment} (loops : Loops windowZeroFlag num s final segments)
    (aligned : Aligned written s) (position : s.nextSeqno = s.stream.bytesRead + 1) :
    Fills written s num segments := by
  induction loops with
  | exhausted s => exact ⟨by simp [s.finFits_zero, span], by simp, by simp [layout]⟩
  | drained positive unread isOpen =>
      exact ⟨by simp [finFits, isOpen, unread, span], by simp, by simp [layout]⟩
  | @closing num s isFin =>
      obtain ⟨fits, room, short⟩ := fits_of_fin isFin
      have length := s.roundSegment_length num
      rw [isFin, Bool.toNat_true] at length
      refine ⟨?_, ?_, ?_⟩
      · rw [span, span, numbered_length, length, fits, Bool.toNat_true]
        omega
      · simp [length]
      · simpa [layout] using aligned.transmits_round position num
  | @round num s final rest noFin nonempty later ih =>
      have length := roundSegment_length_of_noFin noFin
      exact (ih (aligned.transmitted _ _ _ _) (s.afterRound_position length position)).cons length
        nonempty (aligned.transmits_round position num)

/-- The loop reads what is allowed, sends it in order, and adds the FIN when it fits. -/
theorem fillLoop_spec (windowZeroFlag : Bool) {written : Bytes} (fuel num : Nat) (s : TCPSender)
    (enough : num ≤ fuel) (notSent : s.finSent = false) (aligned : Aligned written s)
    (position : s.nextSeqno = s.stream.bytesRead + 1) :
    ∃ segments, fillLoop windowZeroFlag fuel num s =
        s.transmitted windowZeroFlag segments num (s.finFits num) ∧
      Fills written s num segments := by
  obtain ⟨segments, loops⟩ := fillLoop_loops windowZeroFlag fuel num s enough notSent
  exact ⟨segments, loops.transmitted_eq, loops.fills aligned position⟩

/-! ## The whole call -/

/-- A zero window is about to be answered by a probe. -/
def probes (s : TCPSender) : Bool := decide (s.windowSize = 0) && s.windowZeroValid

/-- How many sequence numbers `fill_window` may use. -/
def allowance (s : TCPSender) : Nat :=
  s.lastAckno + s.windowSize - s.nextSeqno + s.probes.toNat

theorem fillWindow_of_finSent {s : TCPSender} (finSent : s.finSent = true) : s.fillWindow = s := by
  rw [fillWindow, if_pos finSent]

/-- Once the SYN is sent, `fill_window` fills the allowance and spends the probe. -/
theorem fillWindow_spec {written : Bytes} {s : TCPSender} (notSent : s.finSent = false)
    (started : s.nextSeqno ≠ 0) (aligned : Aligned written s)
    (position : s.nextSeqno = s.stream.bytesRead + 1) :
    ∃ segments, s.fillWindow =
        { s.transmitted s.probes segments s.allowance (s.finFits s.allowance) with
          windowZeroValid := s.windowZeroValid && !s.probes } ∧
      Fills written s s.allowance segments := by
  have room : (if s.lastAckno + s.windowSize ≥ s.nextSeqno
      then s.lastAckno + s.windowSize - s.nextSeqno else 0) =
      s.lastAckno + s.windowSize - s.nextSeqno := by
    split <;> omega
  rw [fillWindow, if_neg (by simp [notSent]), nextSeqnoAbsolute, if_neg started, fillAllowance,
    room]
  dsimp only
  split
  · rename_i zeroWindow
    have isProbe : s.probes = true := by simp [probes, zeroWindow]
    obtain ⟨segments, ran, fills⟩ := fillLoop_spec true
      (s.lastAckno + s.windowSize - s.nextSeqno + 1) (s.lastAckno + s.windowSize - s.nextSeqno + 1)
      { s with windowZeroValid := false } (Nat.le_refl _) notSent
      ⟨aligned.accepted, aligned.unread⟩ position
    refine ⟨segments, ?_, ?_⟩
    · rw [ran, allowance, isProbe]
      simp [transmitted, finFits]
    · rw [allowance, isProbe]
      exact ⟨fills.span_eq, fills.nonempty, fills.transmits⟩
  · rename_i noProbe
    have isProbe : s.probes = false := by simpa [probes] using noProbe
    obtain ⟨segments, ran, fills⟩ := fillLoop_spec false _ _ s (Nat.le_refl _) notSent aligned
      position
    refine ⟨segments, ?_, ?_⟩
    · rw [ran, allowance, isProbe]
      simp [transmitted]
    · rwa [allowance, isProbe]

/-- Nothing has been sent or acknowledged, and the window is the initial one. -/
structure Fresh (s : TCPSender) : Prop where
  lastAckno : s.lastAckno = 0
  windowSize : s.windowSize = 1
  windowZeroValid : s.windowZeroValid = false
  finSent : s.finSent = false
  bytesRead : s.stream.bytesRead = 0

/-- The first call sends the SYN, which takes up the initial window. -/
theorem fillWindow_of_fresh {s : TCPSender} (unsent : s.nextSeqno = 0) (fresh : Fresh s) :
    s.fillWindow = s.transmitted false [s.numbered { header := { syn := true } }] 0 false := by
  have one : span TCPSegment.lengthInSequenceSpace [s.numbered { header := { syn := true } }] = 1 :=
    rfl
  rw [fillWindow, if_neg (by simp [fresh.finSent]), nextSeqnoAbsolute, if_pos unsent,
    sendSegment_of_nonempty _ _ (by simp [TCPSegment.lengthInSequenceSpace]), fillAllowance]
  simp only [transmitted, one, unsent, fresh.lastAckno, fresh.windowSize]
  rfl

/-! ## What the whole call keeps -/

/-- A segment as the sender builds it, without acknowledgment and window. -/
def Unstamped (segment : TCPSegment) : Prop :=
  segment.header.ack = false ∧ segment.header.win = ({} : TCPHeader).win

/-- What a sender keeps through the steps of one round of the loop. -/
structure KeptByRounds (Holds : TCPSender → Prop) : Prop where
  send : ∀ s segment windowZeroFlag, Unstamped segment → Holds s →
    Holds (s.sendSegment segment windowZeroFlag)
  read : ∀ s len finSent, Holds s →
    Holds { s with stream := s.stream.popOutput len, finSent := finSent }
  spend : ∀ s, Holds s → Holds { s with windowZeroValid := false }

namespace KeptByRounds

variable {Holds : TCPSender → Prop}

theorem fillLoop (kept : KeptByRounds Holds) (windowZeroFlag : Bool) (fuel num : Nat)
    {s : TCPSender} (holds : Holds s) : Holds (TCPSender.fillLoop windowZeroFlag fuel num s) := by
  induction fuel generalizing num s with
  | zero => exact holds
  | succ fuel ih =>
      rw [TCPSender.fillLoop]
      split
      · exact holds
      · dsimp only
        split
        · exact kept.read _ _ _ holds
        · exact ih _ (kept.send _ _ _ ⟨rfl, rfl⟩ (kept.read _ _ _ holds))

theorem fillAllowance (kept : KeptByRounds Holds) {s : TCPSender} (holds : Holds s) :
    Holds s.fillAllowance := by
  unfold TCPSender.fillAllowance
  dsimp only
  split
  · exact kept.fillLoop _ _ _ (kept.spend _ holds)
  · exact kept.fillLoop _ _ _ holds

theorem fillWindow (kept : KeptByRounds Holds) {s : TCPSender} (holds : Holds s) :
    Holds s.fillWindow := by
  unfold TCPSender.fillWindow
  split
  · exact holds
  · split
    · exact kept.fillAllowance (kept.send _ _ _ ⟨rfl, rfl⟩ holds)
    · exact kept.fillAllowance holds

end KeptByRounds

end Sponge.TCPSender
