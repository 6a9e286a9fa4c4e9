import Sponge.Transmission.History

/-!
# Zero windows

A zero window is answered by a probe of one sequence number, once for each
acknowledgment that reports it.  Two things follow.  The probe is sent on top of
what is already in flight, so it overshoots the window unless everything has
been acknowledged.  And a probe is spent even when there is nothing to send, so
bytes written later, or a close, wait without a probe.
-/

namespace Sponge.TCPSender

open Tiling

/-- The stream holds bytes that were not sent, or its end was not. -/
def Waiting (s : TCPSender) : Prop := s.stream.buffer ≠ [] ∨ s.stream.inputEnded = true

section Fills

variable {written : Bytes} {s : TCPSender} {num : Nat} {segments : List TCPSegment}

theorem Fills.span_le (fills : Fills written s num segments) :
    span TCPSegment.lengthInSequenceSpace segments ≤ num := by
  have total := fills.span_eq
  cases fits : s.finFits num with
  | false =>
      rw [fits, Bool.toNat_false] at total
      omega
  | true =>
      have shorter := (Bool.and_eq_true_iff.mp fits).2
      rw [decide_eq_true_iff] at shorter
      rw [fits, Bool.toNat_true] at total
      omega

/-- Nothing is sent when nothing is allowed or nothing waits. -/
theorem Fills.span_eq_zero_iff (fills : Fills written s num segments) :
    span TCPSegment.lengthInSequenceSpace segments = 0 ↔ num = 0 ∨ ¬ s.Waiting := by
  have empty : s.stream.buffer = [] ↔ s.stream.buffer.length = 0 := List.length_eq_zero_iff.symm
  have fits : s.finFits num = true ↔
      s.stream.inputEnded = true ∧ s.stream.buffer.length < num := by
    rw [finFits, Bool.and_eq_true, decide_eq_true_iff]
  rw [fills.span_eq, Waiting, not_or, not_not, empty, Nat.add_eq_zero_iff, Bool.toNat_eq_zero,
    ← Bool.not_eq_true, fits]
  constructor
  · rintro ⟨none, notBoth⟩
    by_cases allowed : num = 0
    · exact Or.inl allowed
    · have drained : s.stream.buffer.length = 0 := by omega
      exact Or.inr ⟨drained, fun isEnded => notBoth ⟨isEnded, by omega⟩⟩
  · rintro (nothing | ⟨drained, notEnded⟩)
    · exact ⟨by omega, fun both => by omega⟩
    · exact ⟨by omega, fun both => notEnded both.1⟩

end Fills

variable {isn : WrappingInt32} {written : Bytes} {firsts : List TCPSegment} {s : TCPSender}

/-! ## The window -/

/-- The queue entries a call of `fill_window` adds. -/
def newSegments (s : TCPSender) : List Outstanding :=
  s.fillWindow.segmentsOutstanding.drop s.segmentsOutstanding.length

/-- Everything `fill_window` sends stays inside the window, or inside one number past the last
acknowledged one. -/
def WithinWindow (s : TCPSender) : Prop :=
  ∀ entry ∈ s.newSegments, entry.stop ≤ s.lastAckno + max s.windowSize 1

/-- A probe is about to be sent on top of what is in flight. -/
def Overshoots (s : TCPSender) : Prop :=
  s.windowSize = 0 ∧ s.windowZeroValid = true ∧ s.finSent = false ∧
    s.lastAckno < s.nextSeqno ∧ s.Waiting

instance (s : TCPSender) : Decidable s.WithinWindow := by
  unfold WithinWindow
  infer_instance

instance (s : TCPSender) : Decidable s.Overshoots := by
  unfold Overshoots Waiting
  infer_instance

/-- The states in which `fill_window` is called: by the owner, or inside `ack_received`. -/
inductive FillCall (capacity : Nat) (retxTimeout : UInt16) (fixedIsn : Option WrappingInt32)
    (random : UInt32) : TCPSender → Prop where
  | direct {o : Logged} (reached : Run capacity retxTimeout fixedIsn random o) :
      FillCall capacity retxTimeout fixedIsn random o.sender
  | nested {o : Logged} (reached : Run capacity retxTimeout fixedIsn random o)
      (ackno : WrappingInt32) (windowSize : UInt16) (started : o.sender.nextSeqno ≠ 0)
      (possible : unwrap ackno o.sender.isn o.sender.lastAckno ≤ o.sender.nextSeqno) :
      FillCall capacity retxTimeout fixedIsn random
        (o.sender.acknowledge (unwrap ackno o.sender.isn o.sender.lastAckno) windowSize.toNat)

/-- The entries added for `segments` all stop by `bound` when the last of them does. -/
theorem forall_enqueue_stop_le_iff (windowZeroFlag : Bool) (position bound : Nat)
    {segments : List TCPSegment}
    (nonempty : ∀ segment ∈ segments, 0 < segment.lengthInSequenceSpace) :
    (∀ entry ∈ enqueue windowZeroFlag position segments, entry.stop ≤ bound) ↔
      span TCPSegment.lengthInSequenceSpace segments = 0 ∨
        position + span TCPSegment.lengthInSequenceSpace segments ≤ bound := by
  rw [enqueue, List.forall_mem_map, span_eq_zero_iff nonempty]
  exact forall_stop_le_iff

theorem Accounted.withinWindow_iff (accounted : Accounted isn written firsts s) :
    s.WithinWindow ↔ ¬ s.Overshoots := by
  have acked := accounted.acked
  cases accounted.filled with
  | ended finSent ran =>
      have nothing : s.newSegments = [] := by rw [newSegments, ran, List.drop_length]
      simp [WithinWindow, nothing, Overshoots, finSent]
  | opened _ unsent fresh ran =>
      have onlySyn : s.newSegments =
          enqueue false s.nextSeqno [s.numbered { header := { syn := true } }] := by
        rw [newSegments, ran]
        exact List.drop_left
      simp [WithinWindow, onlySyn, Overshoots, enqueue, layout, unsent, Outstanding.stop,
        TCPSegment.lengthInSequenceSpace, numbered, fresh.windowSize, fresh.lastAckno]
  | sent notSent _ _ segments ran fills =>
      have added : s.newSegments = enqueue s.probes s.nextSeqno segments := by
        rw [newSegments, ran]
        exact List.drop_left
      have most := fills.span_le
      have none := fills.span_eq_zero_iff
      rw [WithinWindow, added, forall_enqueue_stop_le_iff _ _ _ fills.nonempty]
      rw [allowance, probes] at most none
      by_cases zero : s.windowSize = 0
      · cases armed : s.windowZeroValid with
        | false =>
            simp only [zero, armed, decide_true, Bool.and_false, Bool.toNat_false] at most
            simp only [Overshoots, armed, Bool.false_eq_true, false_and, and_false,
              not_false_eq_true, iff_true]
            omega
        | true =>
            -- the allowance is exactly the probe
            simp only [zero, armed, decide_true, Bool.and_self, Bool.toNat_true] at most none
            simp only [Overshoots, zero, armed, notSent, none, true_and]
            by_cases waiting : s.Waiting
            · have one : span TCPSegment.lengthInSequenceSpace segments ≠ 0 := by
                rw [ne_eq, none]
                exact not_or.mpr ⟨by omega, not_not.mpr waiting⟩
              simp only [waiting, and_true, not_true_eq_false, or_false]
              omega
            · simp [waiting]
      · simp only [zero, decide_false, Bool.false_and, Bool.toNat_false] at most
        simp only [Overshoots, zero, false_and, not_false_eq_true, iff_true]
        omega

/--
A call of `fill_window` stays inside the window exactly when it does not send a
probe on top of unacknowledged segments.
-/
theorem fill_window_within_window_iff {capacity : Nat} {retxTimeout : UInt16}
    {fixedIsn : Option WrappingInt32} {random : UInt32}
    (called : FillCall capacity retxTimeout fixedIsn random s) :
    s.WithinWindow ↔ ¬ s.Overshoots := by
  cases called with
  | direct reached => exact (accounted_of_run reached).1.withinWindow_iff
  | nested reached ackno windowSize started possible =>
      exact ((accounted_of_run reached).1.acknowledge started possible _).withinWindow_iff

/-- A probe sent when everything is acknowledged stays within one number past it. -/
theorem fill_window_within_window_iff_probe :
    ∃ s, FillCall 10 1000 (some ⟨5⟩) 0 s ∧ s.windowSize = 0 ∧ s.newSegments.length = 1 ∧
      s.WithinWindow := by
  have start : Run 10 1000 (some ⟨5⟩) 0 (Logged.fresh (new 10 1000 (some ⟨5⟩) 0)) := .refl
  have one := start.tail Call.fillWindow trivial rfl
  have two := one.tail (Call.write [97]) trivial rfl
  have called := FillCall.nested two ⟨6⟩ 0 (by decide) (by decide)
  exact ⟨_, called, by decide, by decide, (fill_window_within_window_iff called).mpr (by decide)⟩

/-- Two bytes are in flight when the window closes: the probe goes beyond them. -/
theorem probe_overshoots_window :
    ¬ ∀ (capacity : Nat) (retxTimeout : UInt16) (fixedIsn : Option WrappingInt32)
      (random : UInt32) (s : TCPSender), FillCall capacity retxTimeout fixedIsn random s →
        s.WithinWindow := by
  intro respected
  have start : Run 10 1000 (some ⟨5⟩) 0 (Logged.fresh (new 10 1000 (some ⟨5⟩) 0)) := .refl
  have one := start.tail Call.fillWindow trivial rfl
  have two := one.tail (Call.ackReceived ⟨6⟩ 2) trivial rfl
  have three := two.tail (Call.write [97, 98, 99]) trivial rfl
  have four := three.tail Call.fillWindow trivial rfl
  have called := FillCall.nested four ⟨6⟩ 0 (by decide) (by decide)
  exact absurd (respected _ _ _ _ _ called) (by decide)

/-! ## Waiting without a probe -/

/-- A call of the owner: write or end the input and fill the window, or report an event. -/
inductive Action where
  | write (data : Bytes)
  | endInput
  | ackReceived (ackno : WrappingInt32) (windowSize : UInt16)
  | tick (msSinceLastTick : Nat)

def act (s : TCPSender) : Action → TCPSender
  | .write data => { s with stream := (s.stream.write data).1 }.fillWindow
  | .endInput => { s with stream := s.stream.endInput }.fillWindow
  | .ackReceived ackno windowSize => s.ackReceived ackno windowSize
  | .tick msSinceLastTick => s.tick msSinceLastTick

/-- After the SYN, nothing waits to be sent unless something is in flight. -/
def Unstuck (s : TCPSender) : Prop :=
  s.nextSeqno ≠ 0 → s.bytesInFlight = 0 →
    s.stream.buffer = [] ∧ (s.stream.inputEnded = true → s.finSent = true)

/-- The window is closed, nothing is in flight, and the FIN is still to come. -/
def Stalled (s : TCPSender) : Prop :=
  s.nextSeqno ≠ 0 ∧ s.finSent = false ∧ s.bytesInFlight = 0 ∧ s.windowSize = 0

/-- A stalled sender is given bytes to send, or its stream is closed. -/
def Strands (s : TCPSender) : Action → Prop
  | .write data => s.Stalled ∧ 0 < (s.stream.write data).2
  | .endInput => s.Stalled
  | _ => False

/-- Between calls a probe is only left over once the FIN is sent. -/
def Spent (s : TCPSender) : Prop := s.windowZeroValid = true → s.finSent = true

theorem Spent.congr {s' : TCPSender} (spent : Spent s) (same : SameCore s s') : Spent s' := by
  unfold Spent
  rw [same.windowZeroValid, same.finSent]
  exact spent

theorem Spent.noProbe (spent : Spent s) (notSent : s.finSent = false) : s.probes = false := by
  have unarmed : s.windowZeroValid = false := by
    rw [← Bool.not_eq_true]
    exact fun armed => Bool.false_ne_true (notSent.symm.trans (spent armed))
  rw [probes, unarmed, Bool.and_false]

/-- `fill_window` spends the probe of a zero window. -/
theorem Accounted.spent_fillWindow (accounted : Accounted isn written firsts s)
    (closed : s.windowZeroValid = true → s.windowSize = 0 ∨ s.finSent = true) :
    Spent s.fillWindow := by
  cases accounted.filled with
  | ended finSent ran =>
      rw [ran]
      exact fun _ => finSent
  | opened _ _ fresh ran =>
      rw [ran]
      intro armed
      rw [TCPSender.transmitted, fresh.windowZeroValid] at armed
      cases armed
  | sent notSent _ _ segments ran _ =>
      rw [ran]
      intro armed
      obtain ⟨wasArmed, noProbe⟩ := Bool.and_eq_true_iff.mp armed
      rcases closed wasArmed with zero | finSent
      · simp [probes, zero, wasArmed] at noProbe
      · rw [notSent] at finSent
        cases finSent

/-- An acknowledgment sets the probe flag only with a zero window. -/
theorem Spent.acknowledge (spent : Spent s) (newAckno newWindowSize : Nat)
    (armed : (s.acknowledge newAckno newWindowSize).windowZeroValid = true) :
    (s.acknowledge newAckno newWindowSize).windowSize = 0 ∨
      (s.acknowledge newAckno newWindowSize).finSent = true := by
  have core := s.acknowledge_core newAckno newWindowSize
  rw [core.windowZeroValid, Bool.or_eq_true, decide_eq_true_iff] at armed
  rw [core.windowSize, core.finSent]
  rcases armed with leftOver | isZero
  · exact Or.inr (spent leftOver)
  · exact Or.inl (Nat.sub_eq_zero_of_le isZero)

theorem Accounted.spent_ackReceived (accounted : Accounted isn written firsts s) (spent : Spent s)
    (ackno : WrappingInt32) (windowSize : UInt16) : Spent (s.ackReceived ackno windowSize) := by
  rcases accounted.ackReceived_cases ackno windowSize with ignored | ⟨_, accepted, accounted'⟩
  · rwa [ignored]
  · rw [accepted]
    exact accounted'.spent_fillWindow (spent.acknowledge _ _)

/-- After `fill_window` something waits without a reason only if nothing was allowed. -/
theorem Accounted.unstuck_fillWindow_iff (accounted : Accounted isn written firsts s) :
    Unstuck s.fillWindow ↔ ¬ (s.nextSeqno ≠ 0 ∧ s.finSent = false ∧ s.lastAckno = s.nextSeqno ∧
      s.allowance = 0 ∧ s.Waiting) := by
  obtain ⟨_, accounted', sends⟩ := accounted.fillWindow
  have acked := accounted.acked
  rw [Unstuck, accounted'.bytesInFlight_eq_zero_iff, sends.lastAckno]
  cases accounted.filled with
  | ended finSent ran =>
      rw [ran]
      simp [(accounted.finished finSent).2, finSent]
  | opened _ unsent fresh ran =>
      rw [ran]
      simp [TCPSender.transmitted, span, TCPSegment.lengthInSequenceSpace, numbered, unsent,
        fresh.lastAckno]
  | sent notSent started _ segments ran fills =>
      have none := fills.span_eq_zero_iff
      rw [ran]
      simp only [TCPSender.transmitted]
      by_cases sentNothing : span TCPSegment.lengthInSequenceSpace segments = 0
      · by_cases waiting : s.Waiting
        · have nothing : s.allowance = 0 :=
            (none.mp sentNothing).resolve_right (not_not.mpr waiting)
          rw [nothing, sentNothing, Nat.add_zero]
          constructor
          · rintro unstuck ⟨_, _, caught, _⟩
            obtain ⟨drained, closed⟩ := unstuck started caught
            rcases waiting with unread | isEnded
            · exact unread (by simpa using drained)
            · simpa [notSent, finFits] using closed isEnded
          · exact fun notStuck _ caught =>
              (notStuck ⟨started, notSent, caught, rfl, waiting⟩).elim
        · have idle := not_or.mp waiting
          simp [not_not.mp idle.1, idle.2, waiting]
      · -- something was sent, so something is in flight
        have allowed : s.allowance ≠ 0 := fun nothing => sentNothing (none.mpr (Or.inl nothing))
        simp only [allowed, false_and, and_false, not_false_eq_true, iff_true]
        intro _ caught
        omega

/-- With nothing in flight, what is allowed is the window, and a probe if it is closed. -/
theorem allowance_of_acked (caught : s.lastAckno = s.nextSeqno) :
    s.allowance = s.windowSize + s.probes.toNat := by
  rw [allowance, caught, Nat.add_sub_cancel_left]

/-- After an acknowledgment nothing is allowed exactly if its window is open but used up. -/
theorem allowance_acknowledge_eq_zero_iff (s : TCPSender) (newAckno newWindowSize : Nat) :
    (s.acknowledge newAckno newWindowSize).allowance = 0 ↔
      max s.lastAckno newAckno < newAckno + newWindowSize ∧
        newAckno + newWindowSize ≤ s.nextSeqno := by
  have core := s.acknowledge_core newAckno newWindowSize
  rw [allowance, Nat.add_eq_zero_iff, Bool.toNat_eq_zero, probes, core.lastAckno, core.windowSize,
    core.nextSeqno, core.windowZeroValid]
  dsimp only
  by_cases closed : newAckno + newWindowSize ≤ max s.lastAckno newAckno
  · -- a closed window always allows the probe
    refine iff_of_false (fun none => ?_) (by omega)
    exact absurd none.2 (by simp [closed])
  · have isOpen : ¬ newAckno + newWindowSize - max s.lastAckno newAckno = 0 := by omega
    rw [decide_eq_false isOpen, Bool.false_and, and_iff_left rfl]
    omega

/-- An acknowledgment that leaves nothing in flight allows something: a closed window, a probe. -/
theorem allowance_acknowledge_ne_zero (s : TCPSender) {newAckno newWindowSize : Nat}
    (caught : (s.acknowledge newAckno newWindowSize).lastAckno =
      (s.acknowledge newAckno newWindowSize).nextSeqno) :
    (s.acknowledge newAckno newWindowSize).allowance ≠ 0 := by
  intro nothing
  obtain ⟨isOpen, used⟩ := (s.allowance_acknowledge_eq_zero_iff ..).mp nothing
  have core := s.acknowledge_core newAckno newWindowSize
  rw [core.lastAckno, core.nextSeqno] at caught
  dsimp only at caught
  omega

theorem Accounted.unstuck_ackReceived (accounted : Accounted isn written firsts s)
    (unstuck : Unstuck s) (ackno : WrappingInt32) (windowSize : UInt16) :
    Unstuck (s.ackReceived ackno windowSize) := by
  rcases accounted.ackReceived_cases ackno windowSize with ignored | ⟨_, accepted, accounted'⟩
  · rwa [ignored]
  · rw [accepted, accounted'.unstuck_fillWindow_iff]
    rintro ⟨_, _, caught, nothing, _⟩
    exact s.allowance_acknowledge_ne_zero caught nothing

/-- Giving a sender something to send leaves it stuck exactly when it is stalled. -/
theorem Accounted.unstuck_iff_of_stream {written' : Bytes} {stream : ByteStream}
    (accounted : Accounted isn written firsts s) (spent : Spent s)
    (accounted' : Accounted isn written' firsts { s with stream := stream }) :
    Unstuck { s with stream := stream }.fillWindow ↔
      ¬ (s.Stalled ∧ (stream.buffer ≠ [] ∨ stream.inputEnded = true)) := by
  rw [accounted'.unstuck_fillWindow_iff, Stalled, accounted.bytesInFlight_eq_zero_iff]
  refine not_congr ⟨?_, ?_⟩
  · rintro ⟨started, notSent, caught, nothing, waiting⟩
    change s.lastAckno = s.nextSeqno at caught
    change s.allowance = 0 at nothing
    rw [allowance_of_acked caught] at nothing
    exact ⟨⟨started, notSent, caught, by omega⟩, waiting⟩
  · rintro ⟨⟨started, notSent, caught, zero⟩, waiting⟩
    refine ⟨started, notSent, caught, ?_, waiting⟩
    change s.allowance = 0
    rw [allowance_of_acked caught, zero, spent.noProbe notSent, Bool.toNat_false]

/-- An action of a sender that is not stuck leaves it stuck exactly when it strands something. -/
theorem Accounted.unstuck_act_iff (accounted : Accounted isn written firsts s) (spent : Spent s)
    (unstuck : Unstuck s) (action : Action) : Unstuck (s.act action) ↔ ¬ s.Strands action := by
  cases action with
  | write data =>
      have count := s.stream.write_count_le data
      rw [act, accounted.unstuck_iff_of_stream spent (accounted.write data), Strands]
      refine not_congr (and_congr_right fun stalled => ?_)
      obtain ⟨started, notSent, caught, _⟩ := stalled
      obtain ⟨drained, whenEnded⟩ := unstuck started caught
      have isOpen : ¬ s.stream.inputEnded = true := fun isEnded =>
        Bool.false_ne_true (notSent.symm.trans (whenEnded isEnded))
      rw [ByteStream.write_buffer, drained, List.nil_append, ByteStream.write_inputEnded,
        or_iff_left isOpen, ne_eq, List.take_eq_nil_iff, ← List.length_eq_zero_iff]
      omega
  | endInput =>
      rw [act, accounted.unstuck_iff_of_stream spent accounted.endInput, Strands]
      exact not_congr (and_iff_left (Or.inr rfl))
  | ackReceived ackno windowSize =>
      exact iff_of_true (accounted.unstuck_ackReceived unstuck ackno windowSize) not_false
  | tick msSinceLastTick =>
      have same := (s.tick_spec msSinceLastTick).1
      refine iff_of_true ?_ not_false
      rw [act, Unstuck, bytesInFlight, same.nextSeqno, same.segmentsOutstanding, same.stream,
        same.finSent]
      exact unstuck

/-- Every action keeps the account, and a probe is left over only once the FIN is sent. -/
theorem Accounted.act (accounted : Accounted isn written firsts s) (spent : Spent s)
    (action : Action) :
    ∃ written' firsts', Accounted isn written' firsts' (s.act action) ∧ Spent (s.act action) := by
  cases action with
  | write data =>
      obtain ⟨_, accounted', _⟩ := (accounted.write data).fillWindow
      exact ⟨_, _, accounted',
        (accounted.write data).spent_fillWindow fun armed => Or.inr (spent armed)⟩
  | endInput =>
      obtain ⟨_, accounted', _⟩ := accounted.endInput.fillWindow
      exact ⟨_, _, accounted',
        accounted.endInput.spent_fillWindow fun armed => Or.inr (spent armed)⟩
  | ackReceived ackno windowSize =>
      obtain ⟨_, accounted', _⟩ := accounted.ackReceived ackno windowSize
      exact ⟨_, _, accounted', accounted.spent_ackReceived spent ackno windowSize⟩
  | tick msSinceLastTick =>
      have same := (s.tick_spec msSinceLastTick).1
      exact ⟨_, _, accounted.congr same, spent.congr same⟩

section Runs

variable {capacity : Nat} {retxTimeout : UInt16} {fixedIsn : Option WrappingInt32}
  {random : UInt32}

/--
In every run in which a stalled sender is neither given bytes nor closed, nothing
waits to be sent unless something is in flight; and the first action that breaks
this condition leaves something waiting.
-/
theorem sender_never_stuck
    (reached : Reaches (fun s action => some (act s action)) (fun s action => ¬ s.Strands action)
      (new capacity retxTimeout fixedIsn random) s) :
    s.Unstuck ∧ ∀ action, Unstuck (s.act action) ↔ ¬ s.Strands action := by
  obtain ⟨written, firsts, accounted, spent, unstuck⟩ := reached.invariant
    (fun s => ∃ written firsts, Accounted (fixedIsn.getD ⟨random⟩) written firsts s ∧ Spent s ∧
      Unstuck s)
    ⟨_, _, accounted_new capacity retxTimeout fixedIsn random, (fun armed => by cases armed),
      fun started => absurd rfl started⟩ (by
    rintro state action final ⟨written, firsts, accounted, spent, unstuck⟩ permitted next
    cases next
    obtain ⟨written', firsts', accounted', spent'⟩ := accounted.act spent action
    exact ⟨written', firsts', accounted', spent',
      (accounted.unstuck_act_iff spent unstuck action).mpr permitted⟩)
  exact ⟨unstuck, accounted.unstuck_act_iff spent unstuck⟩

end Runs

/-- A byte written while the SYN is in flight is sent as a probe into a zero window. -/
theorem sender_never_stuck_early_write :
    ∃ s, Reaches (fun s action => some (act s action)) (fun s action => ¬ s.Strands action)
        (new 10 1000 (some ⟨5⟩) 0) s ∧
      s.windowSize = 0 ∧ s.bytesInFlight = 1 ∧ s.Unstuck := by
  have start : Reaches (fun s action => some (act s action))
    (fun s action => ¬ s.Strands action) (new 10 1000 (some ⟨5⟩) 0) (new 10 1000 (some ⟨5⟩) 0) :=
      .refl
  have one := start.tail (Action.write [97]) (fun stranded => absurd rfl stranded.1.1) rfl
  have two := one.tail (Action.ackReceived ⟨6⟩ 0) not_false rfl
  exact ⟨_, two, by decide, by decide, (sender_never_stuck two).1⟩

/-- The SYN is acknowledged with a zero window, and only then a byte is written. -/
theorem late_write_stranded :
    ¬ ∀ (capacity : Nat) (retxTimeout : UInt16) (fixedIsn : Option WrappingInt32)
      (random : UInt32) (s : TCPSender),
      Reaches (fun s action => some (act s action)) Always
        (new capacity retxTimeout fixedIsn random) s → s.Unstuck := by
  intro never
  have start : Reaches (fun s action => some (act s action)) Always
    (new 10 1000 (some ⟨5⟩) 0) (new 10 1000 (some ⟨5⟩) 0) := .refl
  have one := start.tail (Action.write []) trivial rfl
  have two := one.tail (Action.ackReceived ⟨6⟩ 0) trivial rfl
  have three := two.tail (Action.write [97]) trivial rfl
  exact absurd (never _ _ _ _ _ three (by decide) (by decide)).1 (by decide)

end Sponge.TCPSender
