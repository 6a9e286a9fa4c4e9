import Sponge.Transmission.Rest
import Sponge.Transmission.Timer

/-!
# Acknowledgments that carry no news

`ack_received` recomputes the window from every acknowledgment that is not
beyond what was sent.  An outdated one therefore moves the window, and one for
the initial sequence number can open it before the SYN is acknowledged.
-/

namespace Sponge.TCPSender

open Tiling

variable {isn : WrappingInt32} {written : Bytes} {firsts : List TCPSegment} {s s' : TCPSender}

/-! ## Outdated acknowledgments -/

/-- No segment was sent, and neither the numbers, the queue nor the timer moved. -/
structure Untouched (s s' : TCPSender) : Prop where
  segmentsOut : s'.segmentsOut = s.segmentsOut
  nextSeqno : s'.nextSeqnoAbsolute = s.nextSeqnoAbsolute
  lastAckno : s'.lastAckno = s.lastAckno
  windowSize : s'.windowSize = s.windowSize
  segmentsOutstanding : s'.segmentsOutstanding = s.segmentsOutstanding
  timerEnable : s'.timerEnable = s.timerEnable
  elapsed : s'.retransmissionTimeout = s.retransmissionTimeout
  timeout : s'.initialRetransmissionTimeout = s.initialRetransmissionTimeout
  count : s'.consecutiveRetransmissions = s.consecutiveRetransmissions

/--
The acknowledgment repeats the right edge of an open window; or the window is
zero, it does not reach past the last acknowledgment either, and nothing waits
that the probe it allows would send.
-/
def RepeatsWindow (s : TCPSender) (newAckno newWindowSize : Nat) : Prop :=
  s.windowSize ≠ 0 ∧ newAckno + newWindowSize = s.lastAckno + s.windowSize ∨
    s.windowSize = 0 ∧ newAckno + newWindowSize ≤ s.lastAckno ∧
      (s.finSent = true ∨ ¬ s.Waiting)

theorem popAcknowledged_of_lt {lastAckno : Nat} {entries : List Outstanding}
    (pending : ∀ entry ∈ entries, lastAckno < entry.stop) :
    popAcknowledged lastAckno entries = entries := by
  cases entries with
  | nil => rfl
  | cons entry rest =>
      rw [popAcknowledged, if_neg]
      exact Nat.not_le.mpr (pending entry List.mem_cons_self)

/-- An outdated acknowledgment replaces the window and removes nothing. -/
theorem Accounted.acknowledge_of_outdated (accounted : Accounted isn written firsts s)
    {newAckno : Nat} (outdated : newAckno < s.lastAckno) (newWindowSize : Nat) :
    s.acknowledge newAckno newWindowSize =
      { s with
        windowSize := newAckno + newWindowSize - s.lastAckno
        windowZeroValid := s.windowZeroValid ||
          decide (newAckno + newWindowSize ≤ s.lastAckno) } := by
  have kept := popAcknowledged_of_lt fun _ member => accounted.lastAckno_lt_stop member
  rw [TCPSender.acknowledge, acceptAck_eq, removeOutstandingSegments, Nat.max_eq_left outdated.le]
  dsimp only
  rw [kept, if_neg (by simp)]

theorem Sends.untouched (sends : Sends s s' []) : Untouched s s' := by
  obtain ⟨_, _, _, _, rfl⟩ := sends
  refine ⟨List.append_nil _, rfl, rfl, rfl, List.append_nil _, Bool.or_false _, rfl, rfl, rfl⟩

/-- `fill_window` touches nothing exactly when it has nothing to send. -/
theorem Accounted.untouched_fillWindow_iff (accounted : Accounted isn written firsts s) :
    Untouched s s.fillWindow ↔ s.HasNothingToSend := by
  rw [← accounted.fillWindow_queue_iff]
  constructor
  · exact fun untouched => untouched.segmentsOut
  · intro same
    obtain ⟨segments, _, sends⟩ := accounted.fillWindow
    have none : segments = [] := List.self_eq_append_right.mp (same.symm.trans sends.segmentsOut)
    exact (none ▸ sends).untouched

/-- Filling the window does not change it. -/
theorem Accounted.fillWindow_windowSize (accounted : Accounted isn written firsts s) :
    s.fillWindow.windowSize = s.windowSize := by
  obtain ⟨_, _, _, _, _, _, ran⟩ := accounted.fillWindow
  rw [ran]
  rfl

/-- An outdated acknowledgment touches nothing if its window is the current one. -/
theorem Accounted.untouched_outdated_iff (accounted : Accounted isn written firsts s)
    (idle : s.HasNothingToSend) {newAckno : Nat} (outdated : newAckno < s.lastAckno)
    (newWindowSize : Nat) :
    Untouched s (s.acknowledge newAckno newWindowSize).fillWindow ↔
      s.RepeatsWindow newAckno newWindowSize := by
  have acked := accounted.acked
  have started : s.nextSeqno ≠ 0 := by omega
  have possible : newAckno ≤ s.nextSeqno := by omega
  have accounted' := accounted.acknowledge started possible newWindowSize
  have filled := accounted'.untouched_fillWindow_iff
  have window := accounted'.fillWindow_windowSize
  rw [accounted.acknowledge_of_outdated outdated] at filled window ⊢
  constructor
  · intro untouched
    have same : newAckno + newWindowSize - s.lastAckno = s.windowSize :=
      window.symm.trans untouched.windowSize
    by_cases zero : s.windowSize = 0
    · have closed : newAckno + newWindowSize ≤ s.lastAckno := by omega
      -- the acknowledgment allows a probe, so nothing waits
      have nothing := filled.mp ⟨untouched.segmentsOut, untouched.nextSeqno, untouched.lastAckno,
        window, untouched.segmentsOutstanding, untouched.timerEnable, untouched.elapsed,
        untouched.timeout, untouched.count⟩
      refine Or.inr ⟨zero, closed, nothing.imp_right ?_⟩
      rintro ⟨_, notAllowed | notWaiting⟩
      · simp [allowance, probes, closed, Nat.sub_eq_zero_of_le closed] at notAllowed
      · exact notWaiting
    · exact Or.inl ⟨zero, by omega⟩
  · rintro (⟨isOpen, edge⟩ | ⟨zero, closed, nothing⟩)
    · have same : newAckno + newWindowSize - s.lastAckno = s.windowSize := by omega
      have notClosed : ¬ newAckno + newWindowSize ≤ s.lastAckno := by omega
      rw [same, decide_eq_false notClosed, Bool.or_false]
      exact accounted.untouched_fillWindow_iff.mpr idle
    · have same : newAckno + newWindowSize - s.lastAckno = s.windowSize := by omega
      have untouched := filled.mpr (nothing.imp_right fun idle => ⟨started, Or.inr idle⟩)
      exact ⟨untouched.segmentsOut, untouched.nextSeqno, untouched.lastAckno,
        window.trans same, untouched.segmentsOutstanding, untouched.timerEnable,
        untouched.elapsed, untouched.timeout, untouched.count⟩

section Runs

variable {capacity : Nat} {retxTimeout : UInt16} {fixedIsn : Option WrappingInt32}
  {random : UInt32} {o : Logged}

/--
When `fill_window` would send nothing, an outdated acknowledgment is harmless
exactly if it repeats the current window.
-/
theorem outdated_ack_harmless_iff (reached : Run capacity retxTimeout fixedIsn random o)
    (idle : o.sender.fillWindow.segmentsOut = o.sender.segmentsOut) {ackno : WrappingInt32}
    (outdated : unwrap ackno o.sender.isn o.sender.lastAckno < o.sender.lastAckno)
    (windowSize : UInt16) :
    Untouched o.sender (o.sender.ackReceived ackno windowSize) ↔
      o.sender.RepeatsWindow (unwrap ackno o.sender.isn o.sender.lastAckno)
        windowSize.toNat := by
  obtain ⟨accounted, _⟩ := accounted_of_run reached
  have acked := accounted.acked
  rw [ackReceived_eq, if_neg (by omega)]
  exact accounted.untouched_outdated_iff (accounted.fillWindow_queue_iff.mp idle) outdated _

/-- The old acknowledgment of the SYN promised just what is promised now. -/
theorem outdated_ack_harmless_iff_same_edge :
    ∃ o, Run 10 1000 (some ⟨5⟩) 0 o ∧ o.sender.lastAckno = 2 ∧
      Untouched o.sender (o.sender.ackReceived ⟨6⟩ 4) := by
  have start : Run 10 1000 (some ⟨5⟩) 0 (Logged.fresh (new 10 1000 (some ⟨5⟩) 0)) := .refl
  have one := start.tail Call.fillWindow trivial rfl
  have two := one.tail (Call.write [97]) trivial rfl
  have three := two.tail (Call.ackReceived ⟨6⟩ 4) trivial rfl
  have four := three.tail (Call.ackReceived ⟨7⟩ 3) trivial rfl
  exact ⟨_, four, by decide, (outdated_ack_harmless_iff four (by decide) (by decide) 4).mpr
    (Or.inl (by decide))⟩

/-- An old acknowledgment of the SYN with a larger window releases a byte that had to wait. -/
theorem outdated_ack_releases_byte :
    ¬ ∀ (capacity : Nat) (retxTimeout : UInt16) (fixedIsn : Option WrappingInt32)
      (random : UInt32) (o : Logged), Run capacity retxTimeout fixedIsn random o →
        o.sender.fillWindow.segmentsOut = o.sender.segmentsOut →
        ∀ ackno, unwrap ackno o.sender.isn o.sender.lastAckno < o.sender.lastAckno →
          ∀ windowSize, Untouched o.sender (o.sender.ackReceived ackno windowSize) := by
  intro harmless
  have start : Run 10 1000 (some ⟨5⟩) 0 (Logged.fresh (new 10 1000 (some ⟨5⟩) 0)) := .refl
  have one := start.tail Call.fillWindow trivial rfl
  have two := one.tail (Call.write [97, 98, 99]) trivial rfl
  have three := two.tail (Call.ackReceived ⟨6⟩ 1) trivial rfl
  have four := three.tail (Call.ackReceived ⟨7⟩ 1) trivial rfl
  have untouched := harmless _ _ _ _ _ four (by decide) ⟨6⟩ (by decide) 5
  exact absurd untouched.nextSeqno (by decide)

end Runs

/-! ## The acknowledgment of the initial sequence number -/

/-- Nothing but the SYN is sent before an acknowledgment covers it. -/
def OnlySynUnacked (s : TCPSender) : Prop := s.lastAckno = 0 → s.nextSeqnoAbsolute ≤ 1

/--
An acknowledgment of the initial sequence number itself, while the SYN is
outstanding, that opens the window beyond the SYN, or that closes it while
something waits for a probe.
-/
def UnlocksEarly (s : TCPSender) : Call → Prop
  | .ackReceived ackno windowSize =>
      s.lastAckno = 0 ∧ s.nextSeqno ≠ 0 ∧ ackno = s.isn ∧
        (2 ≤ windowSize.toNat ∨ windowSize.toNat = 0 ∧ s.Waiting)
  | _ => False

/-- Until the SYN is acknowledged the window holds no more than the SYN. -/
def SynFillsWindow (s : TCPSender) : Prop :=
  s.lastAckno = 0 → s.nextSeqno ≠ 0 →
    s.nextSeqno = 1 ∧ s.windowSize ≤ 1 ∧ s.windowZeroValid = false

theorem SynFillsWindow.onlySynUnacked (fillsWindow : SynFillsWindow s) : OnlySynUnacked s := by
  intro unacked
  change s.nextSeqno ≤ 1
  by_cases unsent : s.nextSeqno = 0
  · omega
  · exact Nat.le_of_eq (fillsWindow unacked unsent).1

theorem SynFillsWindow.congr (fillsWindow : SynFillsWindow s)
    (lastAckno : s'.lastAckno = s.lastAckno) (nextSeqno : s'.nextSeqno = s.nextSeqno)
    (windowSize : s'.windowSize = s.windowSize)
    (windowZeroValid : s'.windowZeroValid = s.windowZeroValid) : SynFillsWindow s' := by
  unfold SynFillsWindow
  rw [lastAckno, nextSeqno, windowSize, windowZeroValid]
  exact fillsWindow

theorem SynFillsWindow.fillWindow (fillsWindow : SynFillsWindow s)
    (accounted : Accounted isn written firsts s) : SynFillsWindow s.fillWindow := by
  intro unacked _
  rw [accounted.fillWindow_frame.1] at unacked
  by_cases unsent : s.nextSeqno = 0
  · have fresh := accounted.fresh unsent
    rw [fillWindow_of_fresh unsent fresh]
    refine ⟨?_, Nat.le_of_eq fresh.windowSize, fresh.windowZeroValid⟩
    change s.nextSeqno + 1 = 1
    rw [unsent]
  · obtain ⟨one, small, unarmed⟩ := fillsWindow unacked unsent
    have nothing : s.allowance = 0 := by
      rw [allowance, probes, unarmed, Bool.and_false, Bool.toNat_false]
      omega
    rw [accounted.fillWindow_of_allowance unsent nothing]
    exact ⟨one, small, unarmed⟩

/-- From the start, a number unwraps to zero exactly if it is the initial one. -/
theorem unwrap_start_eq_zero_iff (ackno isn : WrappingInt32) :
    unwrap ackno isn 0 = 0 ↔ ackno = isn := by
  rw [unwrap_of_le _ _ (Nat.zero_le _), offset_eq_zero_iff]

/-- A window that is closed when nothing waits is not opened by its probe. -/
theorem Accounted.synFillsWindow_of_closed (accounted : Accounted isn written firsts s)
    (one : s.nextSeqno = 1) (closed : s.windowSize = 0) (idle : ¬ s.Waiting) :
    SynFillsWindow s.fillWindow := by
  intro _ _
  cases accounted.filled with
  | ended finSent ran =>
      exact absurd (Or.inr (accounted.finished finSent).1) idle
  | opened _ unsent _ _ => omega
  | sent _ _ _ segments ran fills =>
      have none := fills.span_eq_zero_iff.mpr (Or.inr idle)
      rw [ran]
      refine ⟨?_, ?_, ?_⟩
      · change s.nextSeqno + span TCPSegment.lengthInSequenceSpace segments = 1
        omega
      · change s.windowSize ≤ 1
        omega
      · change (s.windowZeroValid && !s.probes) = false
        rw [probes, decide_eq_true closed, Bool.true_and, Bool.and_not_self]

/-- The acknowledgment of the initial sequence number replaces the window by its own. -/
theorem acknowledge_isn_core (unacked : s.lastAckno = 0) (windowSize : Nat) :
    SameCore
      { s with
        windowSize := windowSize
        windowZeroValid := s.windowZeroValid || decide (windowSize = 0)
        segmentsOutstanding := popAcknowledged 0 s.segmentsOutstanding }
      (s.acknowledge 0 windowSize) := by
  have core := s.acknowledge_core 0 windowSize
  simp only [unacked, Nat.max_self, Nat.zero_add, Nat.sub_zero, Nat.le_zero] at core
  obtain ⟨isn', stream, queue, next, last, window, zero, fin⟩ := core
  exact ⟨isn', stream, queue, next, last.trans unacked.symm, window, zero, fin⟩

theorem Accounted.ackReceived_isn (accounted : Accounted isn written firsts s)
    (unacked : s.lastAckno = 0) (started : s.nextSeqno ≠ 0) (windowSize : UInt16) :
    s.ackReceived s.isn windowSize = (s.acknowledge 0 windowSize.toNat).fillWindow ∧
      Accounted isn written firsts (s.acknowledge 0 windowSize.toNat) := by
  have zero : unwrap s.isn s.isn s.lastAckno = 0 := by
    rw [unacked]
    exact (unwrap_start_eq_zero_iff _ _).mpr rfl
  refine ⟨?_, accounted.acknowledge started (Nat.zero_le _) _⟩
  rw [ackReceived_eq, zero, if_neg (by omega)]

/-- Only the initial sequence number leaves the SYN unacknowledged. -/
theorem Accounted.isn_of_unacked (accounted : Accounted isn written firsts s)
    {ackno : WrappingInt32} {windowSize : UInt16}
    (unacked : (s.ackReceived ackno windowSize).lastAckno = 0) :
    s.lastAckno = 0 ∧ (s.ackReceived ackno windowSize = s ∨ ackno = s.isn) := by
  rcases accounted.ackReceived_cases ackno windowSize with ignored | ⟨_, accepted, accounted'⟩
  · rw [ignored] at unacked ⊢
    exact ⟨unacked, Or.inl rfl⟩
  · rw [accepted, accounted'.fillWindow_frame.1, (s.acknowledge_core _ _).lastAckno] at unacked
    dsimp only at unacked
    have initially : s.lastAckno = 0 := by omega
    have zero : unwrap ackno s.isn s.lastAckno = 0 := by omega
    rw [initially, unwrap_start_eq_zero_iff] at zero
    exact ⟨initially, Or.inr zero⟩

theorem SynFillsWindow.ackReceived (fillsWindow : SynFillsWindow s)
    (accounted : Accounted isn written firsts s) {ackno : WrappingInt32} {windowSize : UInt16}
    (late : ¬ s.UnlocksEarly (.ackReceived ackno windowSize)) :
    SynFillsWindow (s.ackReceived ackno windowSize) := by
  intro unacked started'
  obtain ⟨initially, ignored | isIsn⟩ := accounted.isn_of_unacked unacked
  · rw [ignored] at unacked started' ⊢
    exact fillsWindow unacked started'
  · subst isIsn
    by_cases unsent : s.nextSeqno = 0
    · rw [ackReceived_eq, if_pos (Or.inl unsent)] at started'
      exact absurd unsent started'
    · obtain ⟨ran, accounted'⟩ := accounted.ackReceived_isn initially unsent windowSize
      have core := acknowledge_isn_core initially windowSize.toNat
      obtain ⟨one, _, unarmed⟩ := fillsWindow initially unsent
      have notOpened : ¬ (2 ≤ windowSize.toNat ∨ windowSize.toNat = 0 ∧ s.Waiting) :=
        fun unlocks => late ⟨initially, unsent, rfl, unlocks⟩
      rw [ran] at unacked started' ⊢
      by_cases closed : windowSize.toNat = 0
      · refine accounted'.synFillsWindow_of_closed (core.nextSeqno.trans one)
          (core.windowSize.trans closed) ?_ unacked started'
        rw [Waiting, core.stream]
        exact fun waiting => notOpened (Or.inr ⟨closed, waiting⟩)
      · refine SynFillsWindow.fillWindow ?_ accounted' unacked started'
        intro _ _
        rw [core.nextSeqno, core.windowSize, core.windowZeroValid]
        refine ⟨one, ?_, ?_⟩
        · dsimp only
          omega
        · simp [unarmed, closed]

theorem SynFillsWindow.handle {o : Logged} (fillsWindow : SynFillsWindow o.sender)
    (accounted : Accounted isn written firsts o.sender) (call : Call)
    (late : ¬ o.sender.UnlocksEarly call) : SynFillsWindow (o.sender.handle call) := by
  cases call with
  | fillWindow => exact fillsWindow.fillWindow accounted
  | ackReceived ackno windowSize => exact fillsWindow.ackReceived accounted late
  | tick msSinceLastTick =>
      have same := (o.sender.tick_spec msSinceLastTick).1
      exact fillsWindow.congr same.lastAckno same.nextSeqno same.windowSize same.windowZeroValid
  | sendEmptySegment =>
      have same := o.sender.sendEmptySegment_spec.1
      exact fillsWindow.congr same.lastAckno same.nextSeqno same.windowSize same.windowZeroValid
  | _ => exact fillsWindow.congr rfl rfl rfl rfl

/-- A window that the acknowledgment of the initial sequence number opens lets what waits out. -/
theorem SynFillsWindow.sent_of_waiting (fillsWindow : SynFillsWindow s)
    (accounted : Accounted isn written firsts s) {windowSize : UInt16}
    (unlocks : s.UnlocksEarly (.ackReceived s.isn windowSize)) (waiting : s.Waiting) :
    ¬ OnlySynUnacked (s.ackReceived s.isn windowSize) := by
  obtain ⟨unacked, started, _, opens⟩ := unlocks
  obtain ⟨one, _, _⟩ := fillsWindow unacked started
  obtain ⟨ran, accounted'⟩ := accounted.ackReceived_isn unacked started windowSize
  have core := acknowledge_isn_core unacked windowSize.toNat
  have notSent : s.finSent = false := by
    have position := accounted.position started
    cases flag : s.finSent with
    | false => rfl
    | true =>
        rw [flag, Bool.toNat_true] at position
        omega
  have allowed : (s.acknowledge 0 windowSize.toNat).allowance ≠ 0 := by
    rw [ne_eq, allowance_acknowledge_eq_zero_iff]
    omega
  have sent := accounted'.nextSeqno_lt_fillWindow (core.finSent.trans notSent)
    (by rw [Waiting, core.stream]; exact waiting) allowed
  have frame := accounted'.fillWindow_frame.1
  rw [core.lastAckno] at frame
  rw [core.nextSeqno] at sent
  rw [ran]
  intro onlySyn
  have small : (s.acknowledge 0 windowSize.toNat).fillWindow.nextSeqno ≤ 1 :=
    onlySyn (frame.trans unacked)
  dsimp only at sent
  omega

/-- When nothing waits the window stays open, and the end of the stream is sent at once. -/
theorem SynFillsWindow.sent_of_endInput (fillsWindow : SynFillsWindow s)
    (accounted : Accounted isn written firsts s) {windowSize : UInt16}
    (unlocks : s.UnlocksEarly (.ackReceived s.isn windowSize)) (idle : ¬ s.Waiting) :
    ¬ OnlySynUnacked (((s.ackReceived s.isn windowSize).handle .endInput).handle .fillWindow) := by
  obtain ⟨unacked, started, _, opens⟩ := unlocks
  obtain ⟨one, _, _⟩ := fillsWindow unacked started
  obtain ⟨ran, accounted'⟩ := accounted.ackReceived_isn unacked started windowSize
  have core := acknowledge_isn_core unacked windowSize.toNat
  have large : 2 ≤ windowSize.toNat := opens.resolve_right fun closed => idle closed.2
  have untouched := accounted'.untouched_fillWindow_iff.mpr (Or.inr
    ⟨by rw [core.nextSeqno]; exact started, Or.inr (by rw [Waiting, core.stream]; exact idle)⟩)
  obtain ⟨segments, accounted'', _⟩ := accounted'.fillWindow
  have isEnded := accounted'.fillWindow_frame.2
  rw [core.stream] at isEnded
  rw [← ran] at untouched accounted'' isEnded
  have next : (s.ackReceived s.isn windowSize).nextSeqno = 1 :=
    untouched.nextSeqno.trans (core.nextSeqno.trans one)
  have last : (s.ackReceived s.isn windowSize).lastAckno = 0 :=
    untouched.lastAckno.trans (core.lastAckno.trans unacked)
  have window : (s.ackReceived s.isn windowSize).windowSize = windowSize.toNat :=
    untouched.windowSize.trans core.windowSize
  have notSent : (s.ackReceived s.isn windowSize).finSent = false := by
    rw [← Bool.not_eq_true]
    exact fun flag => idle (Or.inr (isEnded.symm.trans (accounted''.finished flag).1))
  have allowed : (s.ackReceived s.isn windowSize).allowance ≠ 0 := by
    rw [allowance]
    omega
  have sent : 1 <
      (((s.ackReceived s.isn windowSize).handle .endInput).handle .fillWindow).nextSeqno := by
    rw [← next]
    exact accounted''.endInput.nextSeqno_lt_fillWindow notSent (Or.inr rfl) allowed
  have frame := accounted''.endInput.fillWindow_frame.1
  exact fun onlySyn => absurd (onlySyn (frame.trans last)) (Nat.not_le.mpr sent)

section Runs

variable {capacity : Nat} {retxTimeout : UInt16} {fixedIsn : Option WrappingInt32}
  {random : UInt32} {o : Logged}

/-- The calls but those that unlock the window early. -/
def AwaitsSyn (o : Logged) (call : Call) : Prop := ¬ o.sender.UnlocksEarly call

/-- Once the window is unlocked early, more than the SYN is sent, at the latest on closing. -/
theorem SynFillsWindow.exists_early {o o' : Logged} (fillsWindow : SynFillsWindow o.sender)
    (accounted : Accounted isn written firsts o.sender) {call : Call}
    (unlocks : o.sender.UnlocksEarly call) (next : o.call call = some o') :
    ∃ later, Reaches Logged.call AwaitsSyn o' later ∧ ¬ OnlySynUnacked later.sender := by
  cases call with
  | ackReceived ackno windowSize =>
      obtain rfl : ackno = o.sender.isn := unlocks.2.2.1
      cases next
      by_cases waiting : o.sender.Waiting
      · exact ⟨_, .refl, fillsWindow.sent_of_waiting accounted unlocks waiting⟩
      · exact ⟨_, .tail Call.fillWindow (.tail Call.endInput .refl not_false rfl) not_false rfl,
          fillsWindow.sent_of_endInput accounted unlocks waiting⟩
  | _ => cases unlocks

/--
In every run without an acknowledgment of the initial sequence number that
unlocks the window, only the SYN is sent before an acknowledgment covers it; and
the first such acknowledgment lets more out, at once or when the stream is closed.
-/
theorem only_syn_before_ack
    (reached : Reaches Logged.call AwaitsSyn
      (Logged.fresh (new capacity retxTimeout fixedIsn random)) o) :
    OnlySynUnacked o.sender ∧ ∀ call o', o.call call = some o' → o.sender.UnlocksEarly call →
      ∃ later, Reaches Logged.call AwaitsSyn o' later ∧ ¬ OnlySynUnacked later.sender := by
  have fillsWindow : SynFillsWindow o.sender := by
    refine (reached.invariant (fun o => SynFillsWindow o.sender ∧
      Accounted (fixedIsn.getD ⟨random⟩) o.accepted o.firsts o.sender)
      ⟨fun _ started => absurd rfl started,
        accounted_new capacity retxTimeout fixedIsn random⟩ ?_).1
    rintro state call final ⟨fillsWindow, accounted⟩ late next
    cases next
    exact ⟨fillsWindow.handle accounted call late, accounted.call call⟩
  obtain ⟨accounted, _⟩ := accounted_of_run (reached.weaken fun _ _ _ => trivial)
  exact ⟨fillsWindow.onlySynUnacked,
    fun _ _ next unlocks => fillsWindow.exists_early accounted unlocks next⟩

/-- An acknowledgment of the initial sequence number that repeats the window of one is harmless. -/
theorem only_syn_before_ack_repeated_window :
    ∃ o, Reaches Logged.call AwaitsSyn (Logged.fresh (new 10 1000 (some ⟨5⟩) 0)) o ∧
      o.sender.lastAckno = 0 ∧ o.sender.stream.buffer.length = 1 ∧ OnlySynUnacked o.sender := by
  have start : Reaches Logged.call AwaitsSyn (Logged.fresh (new 10 1000 (some ⟨5⟩) 0))
    (Logged.fresh (new 10 1000 (some ⟨5⟩) 0)) := .refl
  have one := start.tail Call.fillWindow not_false rfl
  have two := one.tail (Call.write [97]) not_false rfl
  have three := two.tail (Call.ackReceived ⟨5⟩ 1) (fun unlocks =>
    unlocks.2.2.2.elim (by decide) fun closed => absurd closed.1 (by decide)) rfl
  exact ⟨_, three, by decide, by decide, (only_syn_before_ack three).1⟩

/-- A byte is sent although only the initial sequence number was acknowledged. -/
theorem byte_sent_before_ack :
    ¬ ∀ (capacity : Nat) (retxTimeout : UInt16) (fixedIsn : Option WrappingInt32)
      (random : UInt32) (o : Logged), Run capacity retxTimeout fixedIsn random o →
        OnlySynUnacked o.sender := by
  intro always
  have start : Run 10 1000 (some ⟨5⟩) 0 (Logged.fresh (new 10 1000 (some ⟨5⟩) 0)) := .refl
  have one := start.tail Call.fillWindow trivial rfl
  have two := one.tail (Call.write [97]) trivial rfl
  have three := two.tail (Call.ackReceived ⟨5⟩ 2) trivial rfl
  exact absurd (always _ _ _ _ _ three (by decide)) (by decide)

end Runs

end Sponge.TCPSender
