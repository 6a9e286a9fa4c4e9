import Sponge.Library.Loop
import Sponge.Transmission.StaleAck

/-!
# `fill_window` is greedy

The `while` loop of `fill_window` is run here without a bound on its rounds.
Every round that goes on uses up part of the allowance, so the loop ends; and it
ends because the window is full or because nothing is left to send.  All
segments it sends but the last carry a full payload, and the FIN is on the last.
-/

namespace Sponge.TCPSender

open Tiling Loop

/-! ## The loop -/

/-- One round of the `while` loop of `fill_window`. -/
def fillRound (windowZeroFlag : Bool) (state : Nat × TCPSender) : Round (Nat × TCPSender) :=
  let numBytesToSend := state.1
  let s := state.2
  if numBytesToSend = 0 then .leave (numBytesToSend, s)
  else
    let maxReadLength := min numBytesToSend TCPConfig.maxPayloadSize
    let payload := (s.stream.read maxReadLength).1
    let stream := (s.stream.read maxReadLength).2
    let numBytesToSend := numBytesToSend - payload.length
    let fin := stream.eof && decide (0 < numBytesToSend) && !s.finSent
    let numBytesToSend := if fin then numBytesToSend - 1 else numBytesToSend
    let segment : TCPSegment := { header := { fin := fin }, payload := payload }
    let s := { s with stream := stream, finSent := s.finSent || fin }
    if segment.lengthInSequenceSpace = 0 then .leave (numBytesToSend, s)
    else .again (numBytesToSend, s.sendSegment segment windowZeroFlag)

/-- The flag, the allowance and the sender with which the loop is entered. -/
def loopEntry (s : TCPSender) : Bool × Nat × TCPSender :=
  let numBytesToSend :=
    if s.lastAckno + s.windowSize ≥ s.nextSeqno then s.lastAckno + s.windowSize - s.nextSeqno
    else 0
  if s.windowSize = 0 ∧ s.windowZeroValid = true then
    (true, numBytesToSend + 1, { s with windowZeroValid := false })
  else (false, numBytesToSend, s)

/-- `fill_window` up to the computation of the allowance: the SYN is sent first. -/
def sendSyn (s : TCPSender) : TCPSender :=
  if s.nextSeqnoAbsolute = 0 then s.sendSegment { header := { syn := true } } false else s

/-- A call of `fill_window` returns, and leaves the sender `final`. -/
inductive FillReturns (s final : TCPSender) : Prop where
  | ended (finSent : s.finSent = true) (same : final = s)
  | looped (notSent : s.finSent = false) (left : Nat)
      (completes : Completes (fillRound s.sendSyn.loopEntry.1) s.sendSyn.loopEntry.2 (left, final))

/-- A segment that is not empty uses up part of the allowance. -/
theorem remaining_lt {num : Nat} (positive : num ≠ 0) (payload : Bytes) (fin : Bool)
    (nonempty : ({ header := { fin := fin }, payload := payload } :
      TCPSegment).lengthInSequenceSpace ≠ 0) :
    (if fin = true then num - payload.length - 1 else num - payload.length) < num := by
  cases fin with
  | false =>
      simp only [TCPSegment.lengthInSequenceSpace, Bool.false_eq_true, if_false] at nonempty ⊢
      omega
  | true =>
      simp only [if_true]
      omega

/-- A round that goes on uses up part of the allowance. -/
theorem fillRound_lowers (windowZeroFlag : Bool) (state next : Nat × TCPSender)
    (went : fillRound windowZeroFlag state = .again next) : next.1 < state.1 := by
  unfold fillRound at went
  dsimp only at went
  split at went
  · cases went
  · rename_i positive
    split at went
    · cases went
    · rename_i nonempty
      cases went
      exact remaining_lt positive _ _ nonempty

theorem fillLoop_eq_iterate (windowZeroFlag : Bool) (fuel num : Nat) (s : TCPSender) :
    fillLoop windowZeroFlag fuel num s = (iterate (fillRound windowZeroFlag) fuel (num, s)).2 := by
  induction fuel generalizing num s with
  | zero => rfl
  | succ fuel ih =>
      rw [fillLoop, iterate, fillRound]
      dsimp only
      split
      · rfl
      · split
        · rfl
        · exact ih _ _

/-- The loop ends, and in the state that `fillLoop` computes. -/
theorem completes_fillLoop_iff (windowZeroFlag : Bool) (num : Nat) (s final : TCPSender) :
    (∃ left, Completes (fillRound windowZeroFlag) (num, s) (left, final)) ↔
      final = fillLoop windowZeroFlag num num s := by
  have idle (state : Nat × TCPSender) (none : state.1 = 0) :
      fillRound windowZeroFlag state = .leave state := if_pos none
  have ends (ended : Nat × TCPSender) :
      Completes (fillRound windowZeroFlag) (num, s) ended ↔
        ended = iterate (fillRound windowZeroFlag) num (num, s) :=
    completes_iff Prod.fst idle (fillRound_lowers windowZeroFlag) (Nat.le_refl num)
  rw [fillLoop_eq_iterate]
  constructor
  · rintro ⟨left, completes⟩
    rw [← (ends _).mp completes]
  · rintro rfl
    exact ⟨_, (ends _).mpr rfl⟩

/-- A call of `fill_window` returns, and in no other state than the one computed. -/
theorem fillReturns_iff (s final : TCPSender) : FillReturns s final ↔ final = s.fillWindow := by
  have looped : s.finSent = false →
      s.fillWindow = fillLoop s.sendSyn.loopEntry.1 s.sendSyn.loopEntry.2.1
        s.sendSyn.loopEntry.2.1 s.sendSyn.loopEntry.2.2 := by
    intro notSent
    have entered (s : TCPSender) : s.fillAllowance =
        fillLoop s.loopEntry.1 s.loopEntry.2.1 s.loopEntry.2.1 s.loopEntry.2.2 := by
      unfold fillAllowance loopEntry
      dsimp only
      split <;> rfl
    rw [fillWindow, if_neg (by simp [notSent]), ← entered, sendSyn]
    split <;> rfl
  constructor
  · rintro (⟨finSent, rfl⟩ | ⟨notSent, left, completes⟩)
    · exact (fillWindow_of_finSent finSent).symm
    · rw [looped notSent]
      exact (completes_fillLoop_iff _ _ _ _).mp ⟨left, completes⟩
  · rintro rfl
    cases finSent : s.finSent with
    | true => exact .ended finSent (fillWindow_of_finSent finSent)
    | false =>
        obtain ⟨left, completes⟩ := (completes_fillLoop_iff _ _ _ _).mpr (looped finSent)
        exact .looped finSent left completes

/-! ## What the loop sends -/

/--
Segments that carry a stretch of the stream: each but the last has a full payload
and no FIN, and the last has the FIN if the stretch ends with it.
-/
inductive Packed (fin : Bool) : List TCPSegment → Prop where
  | nil (noFin : fin = false) : Packed fin []
  | last (segment : TCPSegment) (isLast : segment.header.fin = fin) : Packed fin [segment]
  | cons (segment : TCPSegment) {rest : List TCPSegment}
      (full : segment.payload.length = TCPConfig.maxPayloadSize)
      (more : rest ≠ []) (packed : Packed fin rest) : Packed fin (segment :: rest)

theorem Packed.full {fin : Bool} {segments : List TCPSegment} (packed : Packed fin segments)
    {initial : List TCPSegment} {last : TCPSegment} (split : segments = initial ++ [last]) :
    ∀ segment ∈ initial, segment.payload.length = TCPConfig.maxPayloadSize := by
  induction packed generalizing initial with
  | nil => exact absurd split.symm (by simp)
  | last segment =>
      cases initial with
      | nil => exact fun _ member => absurd member List.not_mem_nil
      | cons first initial => exact absurd (List.cons.inj split).2 (by simp)
  | cons segment full more packed ih =>
      cases initial with
      | nil => exact absurd (List.cons.inj split).2 more
      | cons first initial =>
          obtain ⟨rfl, later⟩ := List.cons.inj split
          intro other member
          rcases List.mem_cons.mp member with rfl | inRest
          · exact full
          · exact ih later other inRest

theorem Packed.fin_of_last {fin : Bool} {segments : List TCPSegment}
    (packed : Packed fin segments) {initial : List TCPSegment} {last : TCPSegment}
    (split : segments = initial ++ [last]) : last.header.fin = fin := by
  induction packed generalizing initial with
  | nil => exact absurd split.symm (by simp)
  | last segment isLast =>
      cases initial with
      | nil =>
          obtain ⟨rfl, _⟩ := List.cons.inj split
          exact isLast
      | cons first initial => exact absurd (List.cons.inj split).2 (by simp)
  | cons segment full more packed ih =>
      cases initial with
      | nil => exact absurd (List.cons.inj split).2 more
      | cons first initial => exact ih (List.cons.inj split).2

theorem Packed.fin_iff {fin : Bool} {segments : List TCPSegment} (packed : Packed fin segments) :
    fin = true ↔
      ∃ initial last, segments = initial ++ [last] ∧ last.header.fin = true := by
  constructor
  · intro isFin
    rcases List.eq_nil_or_concat segments with none | ⟨initial, last, split⟩
    · subst none
      cases packed with
      | nil noFin =>
          rw [isFin] at noFin
          cases noFin
    · rw [List.concat_eq_append] at split
      exact ⟨initial, last, split, (packed.fin_of_last split).trans isFin⟩
  · rintro ⟨initial, last, split, isFin⟩
    exact (packed.fin_of_last split).symm.trans isFin

/-- A round that sends no FIN and leaves something to send had a full payload. -/
theorem roundSegment_full {s : TCPSender} {num : Nat} (windowZeroFlag : Bool)
    (noFin : (s.roundSegment num).header.fin = false)
    (room : num - (s.roundSegment num).lengthInSequenceSpace ≠ 0)
    (waiting : (s.afterRound windowZeroFlag num).Waiting) :
    (s.roundSegment num).payload.length = TCPConfig.maxPayloadSize := by
  have length := s.roundSegment_length num
  have isFin := s.roundSegment_fin num
  have payload : (s.roundSegment num).payload.length =
      min (min num TCPConfig.maxPayloadSize) s.stream.buffer.length :=
    s.stream.peekOutput_length _
  rw [noFin, Bool.toNat_false, Nat.add_zero] at length
  rw [noFin] at isFin
  -- were it short of a full payload, the round would have drained the stream
  by_contra short
  have drained : s.stream.buffer.length ≤ min num TCPConfig.maxPayloadSize := by omega
  have isEnded : s.stream.inputEnded = true := by
    rcases waiting with unread | isEnded
    · refine absurd ?_ unread
      simp only [afterRound, transmitted, ByteStream.popOutput_buffer]
      exact List.drop_eq_nil_of_le (Nat.le_min.mpr ⟨drained, Nat.le_refl _⟩)
    · exact isEnded
  have fits : s.finFits num = true := by
    rw [finFits, isEnded, Bool.true_and, decide_eq_true_iff]
    omega
  have small : s.stream.buffer.length ≤ TCPConfig.maxPayloadSize := by omega
  rw [fits, decide_eq_true small] at isFin
  cases isFin

/-- A round that sends something found something waiting. -/
theorem waiting_of_nonempty {s : TCPSender} {num : Nat}
    (nonempty : (s.roundSegment num).lengthInSequenceSpace ≠ 0) : s.Waiting := by
  by_contra idle
  obtain ⟨drained, notEnded⟩ := not_or.mp idle
  refine nonempty ?_
  rw [s.roundSegment_length num, s.roundSegment_fin num, not_not.mp drained, finFits,
    (Bool.not_eq_true _).mp notEnded]
  simp

/-- A run of the loop sends nothing only if nothing is allowed or waits. -/
theorem Loops.eq_nil_iff {windowZeroFlag : Bool} {num : Nat} {s final : TCPSender}
    {segments : List TCPSegment} (loops : Loops windowZeroFlag num s final segments) :
    segments = [] ↔ num = 0 ∨ ¬ s.Waiting := by
  cases loops with
  | exhausted => simp
  | drained positive unread isOpen => simp [Waiting, unread, isOpen]
  | closing isFin =>
      obtain ⟨_, room, _⟩ := fits_of_fin isFin
      have waiting := waiting_of_nonempty
        (show (s.roundSegment num).lengthInSequenceSpace ≠ 0 by simp [s.roundSegment_length, isFin])
      refine iff_of_false (List.cons_ne_nil _ _) (not_or.mpr ⟨?_, not_not.mpr waiting⟩)
      omega
  | round noFin nonempty later =>
      have waiting := waiting_of_nonempty nonempty
      have length := roundSegment_length_of_noFin noFin
      refine iff_of_false (List.cons_ne_nil _ _) (not_or.mpr ⟨?_, not_not.mpr waiting⟩)
      omega

/-- What a run of the loop sends is packed. -/
theorem Loops.packed {windowZeroFlag : Bool} {num : Nat} {s final : TCPSender}
    {segments : List TCPSegment} (loops : Loops windowZeroFlag num s final segments) :
    Packed (s.finFits num) segments := by
  induction loops with
  | exhausted s => exact .nil s.finFits_zero
  | drained positive unread isOpen => exact .nil (by simp [finFits, isOpen])
  | closing isFin => exact .last _ (isFin.trans (fits_of_fin isFin).1.symm)
  | @round num s final rest noFin nonempty later ih =>
      rw [s.finFits_afterRound (roundSegment_length_of_noFin noFin)] at ih
      by_cases more : rest = []
      · subst more
        cases ih with
        | nil notFits => exact .last _ (noFin.trans notFits.symm)
      · obtain ⟨room, waiting⟩ := not_or.mp (mt later.eq_nil_iff.mpr more)
        exact .cons _ (roundSegment_full windowZeroFlag noFin room (not_not.mp waiting)) more ih

/-- What the loop sends is packed. -/
theorem fillLoop_packed (windowZeroFlag : Bool) (fuel num : Nat) (s : TCPSender)
    (enough : num ≤ fuel) (notSent : s.finSent = false) :
    ∃ segments, (fillLoop windowZeroFlag fuel num s).segmentsOut = s.segmentsOut ++ segments ∧
      Packed (s.finFits num) segments := by
  obtain ⟨segments, loops⟩ := fillLoop_loops windowZeroFlag fuel num s enough notSent
  exact ⟨segments, by rw [loops.transmitted_eq]; rfl, loops.packed⟩

/-! ## The property -/

variable {isn : WrappingInt32} {written : Bytes} {firsts : List TCPSegment} {s : TCPSender}

/-- The segments a call of `fill_window` creates besides the SYN. -/
def dataSegments (s : TCPSender) : List TCPSegment :=
  (s.queuedBy .fillWindow).filter fun segment => !segment.header.syn

/--
The stream has ended and the FIN is still to be sent; after the SYN and all that
is buffered, one more sequence number fits in the window.
-/
def FinInWindow (s : TCPSender) : Prop :=
  s.finSent = false ∧ s.stream.inputEnded = true ∧
    max 1 s.nextSeqno + s.stream.buffer.length < s.lastAckno + s.windowSize

instance (s : TCPSender) : Decidable s.FinInWindow := by
  unfold FinInWindow
  infer_instance

/-- What is expected of a call of `fill_window`. -/
structure FillsGreedily (s : TCPSender) : Prop where
  returns : ∀ final, FillReturns s final ↔ final = s.fillWindow
  filled : s.fillWindow.lastAckno + s.fillWindow.windowSize ≤ s.fillWindow.nextSeqnoAbsolute ∨
    s.fillWindow.stream.buffer = [] ∧
      (s.fillWindow.stream.inputEnded = false ∨ s.fillWindow.finSent = true)
  full : ∀ initial last, s.dataSegments = initial ++ [last] →
    ∀ segment ∈ initial, segment.payload.length = TCPConfig.maxPayloadSize
  fin : s.FinInWindow ↔ ∃ initial last, s.dataSegments = initial ++ [last] ∧ last.header.fin = true

/-- Whatever the loop sends carries no SYN. -/
theorem Fills.noSyn {num : Nat} {segments : List TCPSegment}
    (fills : Fills written s num segments) (started : s.nextSeqno ≠ 0) :
    ∀ segment ∈ segments, segment.header.syn = false := by
  intro segment member
  obtain ⟨start, inLayout⟩ := layout_of_mem TCPSegment.lengthInSequenceSpace member s.nextSeqno
  have lower := (bounds_of_mem_layout inLayout).1
  generalize placed : (start, segment) = entry at inLayout lower
  cases placed
  cases start with
  | zero => exact absurd (Nat.le_zero.mp lower) started
  | succ start =>
      cases fills.transmits _ inLayout with
      | slice _ _ isSlice _ => exact isSlice.noSyn

theorem dataSegments_of_append {segments : List TCPSegment}
    (appended : s.fillWindow.segmentsOut = s.segmentsOut ++ segments)
    (noSyn : ∀ segment ∈ segments, segment.header.syn = false) : s.dataSegments = segments := by
  rw [dataSegments, queuedBy_of_append .fillWindow appended, List.filter_eq_self]
  intro segment member
  rw [noSyn segment member, Bool.not_false]

/-- Through an open window no probe is sent. -/
theorem allowance_of_open (isOpen : 0 < s.windowSize) :
    s.allowance = s.lastAckno + s.windowSize - s.nextSeqno := by
  rw [allowance, probes, decide_eq_false (by omega), Bool.false_and, Bool.toNat_false,
    Nat.add_zero]

/-- With an open window the loop is entered without a probe. -/
theorem fillWindow_of_open (isOpen : 0 < s.windowSize) (notSent : s.finSent = false)
    (started : s.nextSeqno ≠ 0) : s.fillWindow = fillLoop false s.allowance s.allowance s := by
  rw [fillWindow, if_neg (by simp [notSent]), nextSeqnoAbsolute, if_neg started, fillAllowance,
    allowance_of_open isOpen, if_neg (by omega)]
  split
  · rfl
  · rw [Nat.sub_eq_zero_of_le (by omega)]

/-- With an open window the FIN fits what is allowed exactly when it is due. -/
theorem finFits_iff_finInWindow (isOpen : 0 < s.windowSize) (notSent : s.finSent = false)
    (started : s.nextSeqno ≠ 0) : s.finFits s.allowance = true ↔ s.FinInWindow := by
  rw [finFits, Bool.and_eq_true, decide_eq_true_iff, FinInWindow, allowance_of_open isOpen,
    and_iff_right notSent]
  refine and_congr_right fun _ => ?_
  omega

/-- With an open window the data segments are packed, with the FIN if it is due. -/
theorem Accounted.packed_dataSegments (accounted : Accounted isn written firsts s)
    (isOpen : 0 < s.windowSize) :
    ∃ fin, Packed fin s.dataSegments ∧ (fin = true ↔ s.FinInWindow) := by
  cases accounted.filled with
  | ended finSent ran =>
      have none : s.dataSegments = [] := by
        simp [dataSegments, queuedBy, handle, ran]
      refine ⟨false, none ▸ .nil rfl, iff_of_false Bool.false_ne_true fun due => ?_⟩
      exact Bool.false_ne_true (due.1.symm.trans finSent)
  | opened _ unsent fresh ran =>
      have onlySyn : s.queuedBy .fillWindow = [s.numbered { header := { syn := true } }] :=
        queuedBy_of_append .fillWindow (by rw [handle, ran]; rfl)
      have none : s.dataSegments = [] := by
        rw [dataSegments, onlySyn]
        rfl
      refine ⟨false, none ▸ .nil rfl, iff_of_false Bool.false_ne_true fun due => ?_⟩
      have inside := due.2.2
      rw [fresh.lastAckno, fresh.windowSize] at inside
      omega
  | sent notSent started _ sent ran fills =>
      obtain ⟨segments, queued, packed⟩ := fillLoop_packed false s.allowance s.allowance s
        (Nat.le_refl _) notSent
      rw [← fillWindow_of_open isOpen notSent started] at queued
      have appended : s.fillWindow.segmentsOut = s.segmentsOut ++ sent := by rw [ran]; rfl
      obtain rfl := List.append_cancel_left (queued.symm.trans appended)
      refine ⟨_, ?_, finFits_iff_finInWindow isOpen notSent started⟩
      rwa [dataSegments_of_append queued (fills.noSyn started)]

/-- An open window is filled, or everything is sent. -/
theorem Accounted.window_filled (accounted : Accounted isn written firsts s)
    (isOpen : 0 < s.windowSize) :
    s.lastAckno + s.windowSize ≤ s.fillWindow.nextSeqno ∨
      s.fillWindow.stream.buffer = [] ∧
        (s.fillWindow.stream.inputEnded = false ∨ s.fillWindow.finSent = true) := by
  cases accounted.filled with
  | ended finSent ran =>
      rw [ran]
      exact Or.inr ⟨(accounted.finished finSent).2, Or.inr finSent⟩
  | opened _ unsent fresh ran =>
      left
      rw [ran, fresh.lastAckno, fresh.windowSize]
      exact Nat.le_add_left _ _
  | sent notSent _ _ segments ran fills =>
      have total := fills.span_eq
      rw [ran]
      simp only [TCPSender.transmitted, notSent, Bool.false_or, ByteStream.popOutput_buffer,
        ByteStream.popOutput_inputEnded, List.drop_eq_nil_iff]
      by_cases used : s.allowance ≤ s.stream.buffer.length
      · left
        rw [allowance_of_open isOpen] at used total
        omega
      · refine Or.inr ⟨by omega, ?_⟩
        cases isEnded : s.stream.inputEnded with
        | false => exact Or.inl rfl
        | true =>
            right
            rw [finFits, isEnded, Bool.true_and, decide_eq_true_iff]
            omega

/--
With an open window `fill_window` returns, and then the window is full or
everything is sent; its data segments but the last are full, and the last has
the FIN exactly if it is due.
-/
theorem fill_window_greedy {capacity : Nat} {retxTimeout : UInt16}
    {fixedIsn : Option WrappingInt32} {random : UInt32}
    (called : FillCall capacity retxTimeout fixedIsn random s) (isOpen : 0 < s.windowSize) :
    FillsGreedily s := by
  obtain ⟨firsts, written, accounted⟩ : ∃ firsts written,
      Accounted (fixedIsn.getD ⟨random⟩) written firsts s := by
    cases called with
    | direct reached => exact ⟨_, _, (accounted_of_run reached).1⟩
    | nested reached ackno windowSize started possible =>
        exact ⟨_, _, (accounted_of_run reached).1.acknowledge started possible _⟩
  obtain ⟨fin, packed, due⟩ := accounted.packed_dataSegments isOpen
  refine ⟨fillReturns_iff s, ?_, fun _ _ split => packed.full split, due.symm.trans packed.fin_iff⟩
  rw [accounted.fillWindow_frame.1, accounted.fillWindow_windowSize]
  exact accounted.window_filled isOpen

/-- Two bytes and the FIN go out in one segment when the window has room for them. -/
theorem fill_window_greedy_fin :
    ∃ s, FillCall 10 1000 (some ⟨5⟩) 0 s ∧ s.windowSize = 4 ∧ s.FinInWindow ∧
      ∃ initial last, s.dataSegments = initial ++ [last] ∧ last.header.fin = true := by
  have start : Run 10 1000 (some ⟨5⟩) 0 (Logged.fresh (new 10 1000 (some ⟨5⟩) 0)) := .refl
  have one := start.tail Call.fillWindow trivial rfl
  have two := one.tail (Call.ackReceived ⟨6⟩ 4) trivial rfl
  have three := two.tail (Call.write [97, 98]) trivial rfl
  have four := three.tail Call.endInput trivial rfl
  have called := FillCall.direct four
  have greedy := fill_window_greedy called (by decide)
  exact ⟨_, called, by decide, by decide, greedy.fin.mp (by decide)⟩

end Sponge.TCPSender
