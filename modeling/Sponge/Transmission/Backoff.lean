import Sponge.Transmission.Timer
import Sponge.Transmission.ZeroWindow

/-!
# When the sender backs off

`timeout_retransmission` decides by a flag of the oldest outstanding segment,
which was set when that segment was first sent.  The history of a sender is
recorded from outside, as the window under which each sequence number was first
sent; the flag says whether that window was zero.
-/

namespace Sponge.TCPSender

open MachineInt Tiling

/-! ## The history -/

/-- A sender with the window size under which each sequence number was first sent. -/
structure Observed where
  sender : TCPSender
  sentUnder : Nat → Nat

namespace Observed

def fresh (sender : TCPSender) : Observed := ⟨sender, fun _ => 0⟩

/-- A call is made, and what it sends is recorded with the window it was sent under. -/
def call (o : Observed) (call : Call) : Option Observed :=
  some {
    sender := o.sender.handle call
    sentUnder := fun seqno =>
      if o.sender.nextSeqno ≤ seqno then (o.sender.handle call).windowSize
      else o.sentUnder seqno }

end Observed

variable {isn : WrappingInt32} {written : Bytes} {firsts : List TCPSegment} {s : TCPSender}

/-- Every queue entry of `s'` is one of `s`, or was sent after `s` and marks a zero window. -/
def MarksWindow (s s' : TCPSender) : Prop :=
  ∀ entry ∈ s'.segmentsOutstanding, entry ∈ s.segmentsOutstanding ∨
    s.nextSeqno ≤ entry.absSeqno ∧ entry.windowZeroFlag = decide (s'.windowSize = 0)

theorem marksWindow_of_queue {s' : TCPSender}
    (queue : s'.segmentsOutstanding = s.segmentsOutstanding) : MarksWindow s s' := by
  intro entry member
  rw [queue] at member
  exact Or.inl member

/-- Whatever is allowed to be sent under a zero window is the probe. -/
theorem Accounted.probes_of_allowance (accounted : Accounted isn written firsts s)
    (allowed : s.allowance ≠ 0) : s.probes = decide (s.windowSize = 0) := by
  have acked := accounted.acked
  by_cases zero : s.windowSize = 0
  · rw [decide_eq_true zero]
    by_contra noProbe
    rw [Bool.not_eq_true] at noProbe
    exact allowed (by rw [allowance, zero, noProbe, Bool.toNat_false]; omega)
  · rw [probes, decide_eq_false zero, Bool.false_and]

theorem Accounted.marksWindow_fillWindow (accounted : Accounted isn written firsts s) :
    MarksWindow s s.fillWindow := by
  cases accounted.filled with
  | ended _ ran => exact marksWindow_of_queue (by rw [ran])
  | opened _ _ fresh ran =>
      rw [ran]
      intro entry member
      rcases List.mem_append.mp member with old | new
      · exact Or.inl old
      · obtain rfl : entry = _ := List.mem_singleton.mp new
        refine Or.inr ⟨Nat.le_refl _, ?_⟩
        change false = decide (s.windowSize = 0)
        rw [fresh.windowSize]
        rfl
  | sent _ _ _ segments ran fills =>
      rw [ran]
      intro entry member
      rcases List.mem_append.mp member with old | new
      · exact Or.inl old
      · obtain ⟨placed, inLayout, rfl⟩ := List.mem_map.mp new
        obtain ⟨lower, _, sent⟩ := bounds_of_mem_layout inLayout
        have allowed : s.allowance ≠ 0 := by
          intro nothing
          have none : segments = [] := (span_eq_zero_iff fills.nonempty).mp
            (fills.span_eq_zero_iff.mpr (Or.inl nothing))
          rw [none] at sent
          cases sent
        exact Or.inr ⟨lower, accounted.probes_of_allowance allowed⟩

theorem Accounted.marksWindow_ackReceived (accounted : Accounted isn written firsts s)
    (ackno : WrappingInt32) (windowSize : UInt16) :
    MarksWindow s (s.ackReceived ackno windowSize) := by
  rcases accounted.ackReceived_cases ackno windowSize with ignored | ⟨_, accepted, accounted'⟩
  · exact marksWindow_of_queue (by rw [ignored])
  · rw [accepted]
    have core := s.acknowledge_core (unwrap ackno s.isn s.lastAckno) windowSize.toNat
    intro entry member
    rcases accounted'.marksWindow_fillWindow entry member with old | ⟨later, flag⟩
    · rw [core.segmentsOutstanding] at old
      exact Or.inl ((popAcknowledged_suffix _ _).subset old)
    · rw [core.nextSeqno] at later
      exact Or.inr ⟨later, flag⟩

theorem Accounted.marksWindow (accounted : Accounted isn written firsts s) (call : Call) :
    MarksWindow s (s.handle call) := by
  cases call with
  | fillWindow => exact accounted.marksWindow_fillWindow
  | ackReceived ackno windowSize => exact accounted.marksWindow_ackReceived ackno windowSize
  | tick msSinceLastTick =>
      exact marksWindow_of_queue (s.tick_spec msSinceLastTick).1.segmentsOutstanding
  | sendEmptySegment => exact marksWindow_of_queue s.sendEmptySegment_spec.1.segmentsOutstanding
  | _ => exact marksWindow_of_queue rfl

/-- What is outstanding has been sent. -/
theorem Accounted.absSeqno_lt (accounted : Accounted isn written firsts s) {entry : Outstanding}
    (member : entry ∈ s.segmentsOutstanding) : entry.absSeqno < s.nextSeqno := by
  obtain ⟨_, upper, inFirsts⟩ := bounds_of_mem_layout (accounted.mem_placements entry member)
  have positive := accounted.nonempty _ inFirsts
  rw [accounted.span_eq, stop] at upper
  change entry.absSeqno + entry.segment.lengthInSequenceSpace ≤ _ at upper
  change 0 < entry.segment.lengthInSequenceSpace at positive
  omega

/-- The flag of every outstanding segment says whether it was first sent under a zero window. -/
def Recorded (o : Observed) : Prop :=
  ∀ entry ∈ o.sender.segmentsOutstanding,
    entry.windowZeroFlag = decide (o.sentUnder entry.absSeqno = 0)

theorem Recorded.call {o o' : Observed} (recorded : Recorded o)
    (accounted : Accounted isn written firsts o.sender) {call : Call}
    (next : o.call call = some o') : Recorded o' := by
  cases next
  intro entry member
  dsimp only at member ⊢
  rcases accounted.marksWindow call entry member with old | ⟨later, flag⟩
  · have earlier := Nat.not_le.mpr (accounted.absSeqno_lt old)
    simpa only [if_neg earlier] using recorded entry old
  · simpa only [if_pos later] using flag

/-! ## The property -/

/-- A retransmission backs off if the window is open, and else leaves timeout and count alone. -/
def BacksOffByWindow (s : TCPSender) (msSinceLastTick : Nat) : Prop :=
  if s.windowSize ≠ 0 then
    (s.tick msSinceLastTick).initialRetransmissionTimeout =
        mul32 s.initialRetransmissionTimeout 2 ∧
      (s.tick msSinceLastTick).consecutiveRetransmissions =
        add32 s.consecutiveRetransmissions 1
  else
    (s.tick msSinceLastTick).initialRetransmissionTimeout = s.initialRetransmissionTimeout ∧
      (s.tick msSinceLastTick).consecutiveRetransmissions = s.consecutiveRetransmissions

/-- The window is zero now exactly if the oldest outstanding segment was sent under a zero one. -/
def WindowAsWhenSent (o : Observed) : Prop :=
  ∀ oldest ∈ o.sender.segmentsOutstanding.head?,
    o.sentUnder oldest.absSeqno = 0 ↔ o.sender.windowSize = 0

theorem add32_one_ne (count : Nat) : add32 count 1 ≠ count := by
  unfold add32
  omega

/-- A tick that retransmits backs off by the flag of the segment it retransmits. -/
theorem backsOffByWindow_iff_flag {msSinceLastTick : Nat}
    (resends : s.queuedBy (.tick msSinceLastTick) ≠ []) :
    ∃ oldest rest, s.segmentsOutstanding = oldest :: rest ∧
      (s.BacksOffByWindow msSinceLastTick ↔
        oldest.windowZeroFlag = decide (s.windowSize = 0)) := by
  have silent : ∀ {s' : TCPSender}, s.tick msSinceLastTick = s' →
      s'.segmentsOut = s.segmentsOut → s.queuedBy (.tick msSinceLastTick) = [] :=
    fun ran same => queuedBy_of_append _ (by rw [handle, ran, same, List.append_nil])
  cases s.ticked msSinceLastTick with
  | stopped _ ran => exact absurd (silent ran rfl) resends
  | early _ _ ran => exact absurd (silent ran rfl) resends
  | drained _ _ ran => exact absurd (silent ran rfl) resends
  | resent _ _ oldest rest queue ran =>
      refine ⟨oldest, rest, queue, ?_⟩
      have counted := add32_one_ne s.consecutiveRetransmissionsCount
      rw [BacksOffByWindow, ran]
      by_cases zero : s.windowSize = 0 <;> cases oldest.windowZeroFlag <;>
        simp [zero, consecutiveRetransmissions, counted, counted.symm]

section Runs

variable {capacity : Nat} {retxTimeout : UInt16} {fixedIsn : Option WrappingInt32}
  {random : UInt32} {o : Observed}

/-- The runs of a fresh sender, with their history. -/
abbrev ObservedRun (capacity : Nat) (retxTimeout : UInt16) (fixedIsn : Option WrappingInt32)
    (random : UInt32) (o : Observed) : Prop :=
  Reaches Observed.call Always (Observed.fresh (new capacity retxTimeout fixedIsn random)) o

theorem recorded_of_run (reached : ObservedRun capacity retxTimeout fixedIsn random o) :
    Recorded o := by
  refine (reached.invariant (fun o => Recorded o ∧ ∃ written firsts,
    Accounted (fixedIsn.getD ⟨random⟩) written firsts o.sender)
    ⟨fun _ member => absurd member List.not_mem_nil, _, _,
      accounted_new capacity retxTimeout fixedIsn random⟩ ?_).1
  rintro state call final ⟨recorded, written, firsts, accounted⟩ _ next
  refine ⟨recorded.call accounted next, ?_⟩
  cases next
  exact ⟨_, _, Accounted.call (o := ⟨state.sender, written, firsts, []⟩) accounted call⟩

/--
A retransmission backs off by the current window exactly when the window is as
it was when the retransmitted segment was first sent: zero, or open.
-/
theorem backoff_follows_window_iff (reached : ObservedRun capacity retxTimeout fixedIsn random o)
    {msSinceLastTick : Nat} (resends : o.sender.queuedBy (.tick msSinceLastTick) ≠ []) :
    o.sender.BacksOffByWindow msSinceLastTick ↔ WindowAsWhenSent o := by
  obtain ⟨oldest, rest, queue, byFlag⟩ := backsOffByWindow_iff_flag resends
  have member : oldest ∈ o.sender.segmentsOutstanding := by
    rw [queue]
    exact List.mem_cons_self
  rw [byFlag, recorded_of_run reached oldest member, WindowAsWhenSent, queue]
  simp

/-- A byte sent as a probe is sent again while the window is zero: nothing backs off. -/
theorem backoff_follows_window_iff_probe :
    ∃ o, ObservedRun 10 1000 (some ⟨5⟩) 0 o ∧ o.sender.windowSize = 0 ∧
      o.sender.queuedBy (.tick 1000) ≠ [] ∧ o.sender.BacksOffByWindow 1000 := by
  have start : ObservedRun 10 1000 (some ⟨5⟩) 0 (Observed.fresh (new 10 1000 (some ⟨5⟩) 0)) :=
    .refl
  have one := start.tail Call.fillWindow trivial rfl
  have two := one.tail (Call.write [97]) trivial rfl
  have three := two.tail (Call.ackReceived ⟨6⟩ 0) trivial rfl
  refine ⟨_, three, by decide, by decide,
    (backoff_follows_window_iff three (by decide)).mpr ?_⟩
  unfold WindowAsWhenSent
  decide

/-- A byte is sent into an open window, which is then closed: its retransmission backs off. -/
theorem backs_off_under_zero_window :
    ¬ ∀ (capacity : Nat) (retxTimeout : UInt16) (fixedIsn : Option WrappingInt32)
      (random : UInt32) (o : Observed), ObservedRun capacity retxTimeout fixedIsn random o →
        ∀ msSinceLastTick, o.sender.queuedBy (.tick msSinceLastTick) ≠ [] →
          o.sender.BacksOffByWindow msSinceLastTick := by
  intro follows
  have start : ObservedRun 10 1000 (some ⟨5⟩) 0 (Observed.fresh (new 10 1000 (some ⟨5⟩) 0)) :=
    .refl
  have one := start.tail Call.fillWindow trivial rfl
  have two := one.tail (Call.write [97]) trivial rfl
  have three := two.tail (Call.ackReceived ⟨6⟩ 1) trivial rfl
  have four := three.tail (Call.ackReceived ⟨6⟩ 0) trivial rfl
  have alone := follows _ _ _ _ _ four 1000 (by decide)
  unfold BacksOffByWindow at alone
  exact absurd alone (by decide)

end Runs

end Sponge.TCPSender
