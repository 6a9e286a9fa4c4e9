import Sponge.Transmission.History

/-!
# The retransmission timer

The timer is five fields of the sender: whether it runs, the time it shows, the
current timeout, the initial one, and the number of consecutive retransmissions.
`Timed` says how they hang together, and every call keeps it as long as the
counter of retransmissions does not wrap.
-/

namespace Sponge.TCPSender

open MachineInt Tiling

/-! ## The invariant -/

/-- How the fields of the timer hang together for the initial timeout `retxTimeout`. -/
structure Timed (retxTimeout : Nat) (s : TCPSender) : Prop where
  backup : s.initTimerBackup = retxTimeout
  limit : s.initialRetransmissionTimeout =
    retxTimeout * 2 ^ s.consecutiveRetransmissionsCount % 2 ^ 32
  elapsed : s.retransmissionTimeout < s.initialRetransmissionTimeout ∨ s.retransmissionTimeout = 0
  running : s.timerEnable = true ↔ s.segmentsOutstanding ≠ []
  idle : s.timerEnable = false →
    s.retransmissionTimeout = 0 ∧ s.consecutiveRetransmissionsCount = 0

variable {isn : WrappingInt32} {written : Bytes} {firsts : List TCPSegment} {s : TCPSender}
  {timeout : Nat}

theorem timed_new (capacity : Nat) (retxTimeout : UInt16) (fixedIsn : Option WrappingInt32)
    (random : UInt32) :
    Timed retxTimeout.toNat (new capacity retxTimeout fixedIsn random) := by
  have small := retxTimeout.toNat_lt
  refine ⟨rfl, ?_, Or.inr rfl, iff_of_false Bool.false_ne_true (not_not.mpr rfl),
    fun _ => ⟨rfl, rfl⟩⟩
  change retxTimeout.toNat = retxTimeout.toNat * 2 ^ 0 % 2 ^ 32
  omega

/-- Sending starts the timer and leaves the rest of it alone. -/
theorem timed_rounds (timeout : Nat) : KeptByRounds (Timed timeout) where
  send := by
    intro s segment windowZeroFlag _ timed
    by_cases isEmpty : segment.lengthInSequenceSpace = 0
    · rw [sendSegment_of_empty _ _ isEmpty]
      exact ⟨timed.backup, timed.limit, timed.elapsed, timed.running, timed.idle⟩
    · rw [sendSegment_of_nonempty _ _ isEmpty]
      refine ⟨timed.backup, timed.limit, timed.elapsed, ?_, fun off => ?_⟩
      · simp [TCPSender.transmitted, enqueue, layout]
      · simp [TCPSender.transmitted] at off
  read := fun _ _ _ timed =>
    ⟨timed.backup, timed.limit, timed.elapsed, timed.running, timed.idle⟩
  spend := fun _ timed =>
    ⟨timed.backup, timed.limit, timed.elapsed, timed.running, timed.idle⟩

/-- An acknowledgment leaves the timer alone, or sets it back. -/
theorem Timed.acknowledge (timed : Timed timeout s) (small : timeout < 2 ^ 32)
    (newAckno newWindowSize : Nat) : Timed timeout (s.acknowledge newAckno newWindowSize) := by
  cases s.acknowledged newAckno newWindowSize with
  | kept _ _ _ ran =>
      rw [ran]
      exact ⟨timed.backup, timed.limit, timed.elapsed, timed.running, timed.idle⟩
  | popped _ _ _ remaining _ ran =>
      rw [ran]
      refine ⟨timed.backup, ?_, Or.inr rfl, by simp, fun _ => ⟨rfl, rfl⟩⟩
      dsimp only
      rw [timed.backup, pow_zero, Nat.mul_one, Nat.mod_eq_of_lt small]

theorem Timed.ackReceived (timed : Timed timeout s) (small : timeout < 2 ^ 32)
    (ackno : WrappingInt32) (windowSize : UInt16) :
    Timed timeout (s.ackReceived ackno windowSize) := by
  rw [ackReceived_eq]
  split
  · exact timed
  · exact (timed_rounds timeout).fillWindow (timed.acknowledge small _ _)

/-- Doubling the timeout and counting the retransmission go together. -/
theorem mul32_two_of_mod (timeout count : Nat) :
    mul32 (timeout * 2 ^ count % 2 ^ 32) 2 = timeout * 2 ^ (count + 1) % 2 ^ 32 := by
  rw [mul32, Nat.mod_mul_mod, Nat.mul_assoc, Nat.pow_succ 2 count]

theorem Timed.tick (timed : Timed timeout s)
    (counts : s.consecutiveRetransmissionsCount + 1 < 2 ^ 32) (msSinceLastTick : Nat) :
    Timed timeout (s.tick msSinceLastTick) := by
  cases s.ticked msSinceLastTick with
  | stopped _ ran => rwa [ran]
  | early running below ran =>
      rw [ran]
      refine ⟨timed.backup, timed.limit, Or.inl below, timed.running, fun off => ?_⟩
      exact absurd (running.symm.trans off) (by decide)
  | drained running queue => exact absurd queue (timed.running.mp running)
  | resent running _ oldest rest _ ran =>
      rw [ran]
      refine ⟨timed.backup, ?_, Or.inr rfl, iff_of_true rfl (timed.running.mp running),
        fun off => ?_⟩
      · dsimp only
        split
        · rw [add32, Nat.mod_eq_of_lt counts, timed.limit, mul32_two_of_mod]
        · exact timed.limit
      · cases off

/-- The counter of retransmissions does not wrap when a tick counts one more. -/
def CounterFits (o : Logged) : Call → Prop
  | .tick _ => o.sender.consecutiveRetransmissionsCount + 1 < 2 ^ 32
  | _ => True

theorem Timed.handle {o : Logged} (timed : Timed timeout o.sender) (small : timeout < 2 ^ 32)
    (call : Call) (fits : CounterFits o call) : Timed timeout (o.sender.handle call) := by
  cases call with
  | fillWindow => exact (timed_rounds timeout).fillWindow timed
  | ackReceived ackno windowSize => exact timed.ackReceived small ackno windowSize
  | tick msSinceLastTick => exact timed.tick fits msSinceLastTick
  | sendEmptySegment => exact (timed_rounds timeout).send _ {} false ⟨rfl, rfl⟩ timed
  | _ => exact ⟨timed.backup, timed.limit, timed.elapsed, timed.running, timed.idle⟩

/-! ## The property -/

/-- The timer while the doubled timeout still fits its 32 bits. -/
structure TimerConsistent (retxTimeout : Nat) (s : TCPSender) : Prop where
  running : s.timerEnable = true ↔ s.segmentsOutstanding ≠ []
  timeout : s.initialRetransmissionTimeout = retxTimeout * 2 ^ s.consecutiveRetransmissions
  elapsed : s.retransmissionTimeout < s.initialRetransmissionTimeout
  idle : s.timerEnable = false → s.retransmissionTimeout = 0 ∧ s.consecutiveRetransmissions = 0

/-- The time the timer shows with a tick added to it; a stopped timer does not move. -/
def elapsedWith (s : TCPSender) (msSinceLastTick : Nat) : Nat :=
  if s.timerEnable = true then s.retransmissionTimeout + msSinceLastTick
  else s.retransmissionTimeout

/--
A tick sends the oldest outstanding segment and starts the timer again when it
expires; otherwise it sends nothing and the timer shows the time with the tick added.
-/
inductive TickEmits (s : TCPSender) (msSinceLastTick : Nat) : Prop where
  | nothing (below : s.elapsedWith msSinceLastTick < s.initialRetransmissionTimeout)
      (queued : s.queuedBy (.tick msSinceLastTick) = [])
      (shows : (s.tick msSinceLastTick).retransmissionTimeout = s.elapsedWith msSinceLastTick)
  | oldest (entry : Outstanding) (rest : List Outstanding)
      (expired : s.initialRetransmissionTimeout ≤ s.elapsedWith msSinceLastTick)
      (queue : s.segmentsOutstanding = entry :: rest)
      (queued : s.queuedBy (.tick msSinceLastTick) = [entry.segment])
      (shows : (s.tick msSinceLastTick).retransmissionTimeout = 0)

/-- Some outstanding segment is no longer outstanding after the acknowledgment. -/
def Removes (s : TCPSender) (ackno : WrappingInt32) (windowSize : UInt16) : Prop :=
  ∃ entry ∈ s.segmentsOutstanding,
    entry ∉ (s.ackReceived ackno windowSize).segmentsOutstanding

/-- An acknowledgment sets the timer back if it removes something, and else leaves it alone. -/
structure AckSetsBack (retxTimeout : Nat) (s : TCPSender) (ackno : WrappingInt32)
    (windowSize : UInt16) : Prop where
  removed : s.Removes ackno windowSize →
    (s.ackReceived ackno windowSize).retransmissionTimeout = 0 ∧
      (s.ackReceived ackno windowSize).consecutiveRetransmissions = 0 ∧
      (s.ackReceived ackno windowSize).initialRetransmissionTimeout = retxTimeout
  kept : ¬ s.Removes ackno windowSize →
    (s.ackReceived ackno windowSize).retransmissionTimeout = s.retransmissionTimeout ∧
      (s.ackReceived ackno windowSize).consecutiveRetransmissions =
        s.consecutiveRetransmissions ∧
      (s.ackReceived ackno windowSize).initialRetransmissionTimeout =
        s.initialRetransmissionTimeout

theorem Timed.consistent (timed : Timed timeout s) (positive : 0 < timeout)
    (bounded : timeout * 2 ^ s.consecutiveRetransmissions < 2 ^ 32) :
    TimerConsistent timeout s := by
  have limit : s.initialRetransmissionTimeout = timeout * 2 ^ s.consecutiveRetransmissions :=
    timed.limit.trans (Nat.mod_eq_of_lt bounded)
  have started : 0 < timeout * 2 ^ s.consecutiveRetransmissions :=
    Nat.mul_pos positive (Nat.two_pow_pos _)
  refine ⟨timed.running, limit, ?_, timed.idle⟩
  rcases timed.elapsed with below | zero
  · exact below
  · omega

theorem TimerConsistent.tickEmits (consistent : TimerConsistent timeout s) {msSinceLastTick : Nat}
    (fits : s.retransmissionTimeout + msSinceLastTick < 2 ^ 32) : TickEmits s msSinceLastTick := by
  have sum : add32 s.retransmissionTimeout msSinceLastTick =
    s.retransmissionTimeout + msSinceLastTick := Nat.mod_eq_of_lt fits
  cases s.ticked msSinceLastTick with
  | stopped off ran =>
      have still : s.elapsedWith msSinceLastTick = s.retransmissionTimeout :=
        if_neg (by simp [off])
      refine .nothing ?_ (queuedBy_of_append _ ?_) ?_
      · rw [still]
        exact consistent.elapsed
      · rw [handle, ran, List.append_nil]
      · rw [ran, still]
  | early running below ran =>
      have elapsed : s.elapsedWith msSinceLastTick = _ := (if_pos running).trans sum.symm
      refine .nothing ?_ (queuedBy_of_append _ ?_) ?_
      · rwa [elapsed]
      · rw [handle, ran, List.append_nil]
      · rw [ran, elapsed]
  | drained running queue => exact absurd queue (consistent.running.mp running)
  | resent running expired oldest rest queue ran =>
      refine .oldest oldest rest ?_ queue (queuedBy_of_append _ ?_) (by rw [ran])
      · rwa [elapsedWith, if_pos running, ← sum]
      · rw [handle, ran]

/-- What is still outstanding is not acknowledged. -/
theorem Accounted.lastAckno_lt_stop (accounted : Accounted isn written firsts s)
    {entry : Outstanding} (member : entry ∈ s.segmentsOutstanding) : s.lastAckno < entry.stop := by
  have placed := List.mem_map_of_mem (f := Outstanding.placed) member
  rw [accounted.outstanding, pending, List.mem_filter, decide_eq_true_iff] at placed
  exact placed.2

theorem Accounted.ackSetsBack (accounted : Accounted isn written firsts s)
    (timed : Timed timeout s) (ackno : WrappingInt32) (windowSize : UInt16) :
    AckSetsBack timeout s ackno windowSize := by
  rcases accounted.ackReceived_cases ackno windowSize with ignored | ⟨_, accepted, accounted'⟩
  · refine ⟨fun removes => ?_, fun _ => by rw [ignored]; exact ⟨rfl, rfl, rfl⟩⟩
    obtain ⟨entry, member, gone⟩ := removes
    exact absurd member (by rwa [ignored] at gone)
  · obtain ⟨segments, accounted'', sends⟩ := accounted'.fillWindow
    cases s.acknowledged (unwrap ackno s.isn s.lastAckno) windowSize.toNat with
    | kept lastAckno window windowZeroValid ran =>
        rw [ran] at sends
        obtain ⟨_, _, _, _, filled⟩ := sends
        have result := accepted.trans ((congrArg _ ran).trans filled)
        refine ⟨fun removes => ?_, fun _ => by rw [result]; exact ⟨rfl, rfl, rfl⟩⟩
        obtain ⟨entry, member, gone⟩ := removes
        rw [result] at gone
        exact absurd (List.mem_append_left _ member) gone
    | popped lastAckno window windowZeroValid remaining gone ran =>
        have acked : (s.acknowledge (unwrap ackno s.isn s.lastAckno)
          windowSize.toNat).lastAckno = lastAckno := by rw [ran]
        rw [← accepted] at accounted'' sends
        obtain ⟨entry, member, done⟩ := gone
        have removes : s.Removes ackno windowSize := by
          refine ⟨entry, member, fun inQueue => ?_⟩
          have pending := accounted''.lastAckno_lt_stop inQueue
          rw [sends.lastAckno, acked] at pending
          omega
        refine ⟨fun _ => ?_, fun keeps => absurd removes keeps⟩
        rw [ran] at sends
        obtain ⟨_, _, _, _, filled⟩ := sends
        rw [filled]
        exact ⟨rfl, rfl, timed.backup⟩

section Runs

variable {capacity : Nat} {retxTimeout : UInt16} {fixedIsn : Option WrappingInt32}
  {random : UInt32} {o : Logged}

theorem timed_of_reaches
    (reached : Reaches Logged.call CounterFits
      (Logged.fresh (new capacity retxTimeout fixedIsn random)) o) :
    Timed retxTimeout.toNat o.sender := by
  have small : retxTimeout.toNat < 2 ^ 32 := retxTimeout.toNat_lt.trans (by decide)
  refine reached.invariant (fun o => Timed retxTimeout.toNat o.sender)
    (timed_new capacity retxTimeout fixedIsn random) ?_
  intro state call final timed fits next
  cases next
  exact timed.handle small call fits

/--
The timer runs exactly while something is outstanding, shows less than the
current timeout, and the timeout is the initial one doubled once for each
counted retransmission.  A tick is added to the time a running timer shows; when
that makes it expire the oldest outstanding segment is sent and the time is set to
zero, and otherwise nothing is sent.  An acknowledgment sets the timer back when it
removes a segment and leaves it alone otherwise.
-/
theorem retransmission_timer_exact (positive : 0 < retxTimeout.toNat)
    (reached : Reaches Logged.call CounterFits
      (Logged.fresh (new capacity retxTimeout fixedIsn random)) o)
    (bounded : retxTimeout.toNat * 2 ^ o.sender.consecutiveRetransmissions < 2 ^ 32) :
    TimerConsistent retxTimeout.toNat o.sender ∧
      (∀ msSinceLastTick, o.sender.retransmissionTimeout + msSinceLastTick < 2 ^ 32 →
        TickEmits o.sender msSinceLastTick) ∧
      ∀ ackno windowSize, AckSetsBack retxTimeout.toNat o.sender ackno windowSize := by
  have timed := timed_of_reaches reached
  have consistent := timed.consistent positive bounded
  obtain ⟨accounted, _⟩ := accounted_of_run (reached.weaken fun _ _ _ => trivial)
  exact ⟨consistent, fun _ fits => consistent.tickEmits fits,
    fun ackno windowSize => accounted.ackSetsBack timed ackno windowSize⟩

/-- The SYN has been sent twice: the timeout is doubled and the next tick is not long enough. -/
theorem retransmission_timer_exact_second_syn :
    ∃ o, Reaches Logged.call CounterFits (Logged.fresh (new 10 1000 (some ⟨5⟩) 0)) o ∧
      o.sender.consecutiveRetransmissions = 1 ∧ TimerConsistent 1000 o.sender ∧
      TickEmits o.sender 1999 := by
  have start : Reaches Logged.call CounterFits (Logged.fresh (new 10 1000 (some ⟨5⟩) 0))
    (Logged.fresh (new 10 1000 (some ⟨5⟩) 0)) := .refl
  have one := start.tail Call.fillWindow trivial rfl
  have two := one.tail (Call.tick 1000) (by unfold CounterFits; decide) rfl
  have holds := retransmission_timer_exact (by decide) two (by decide)
  exact ⟨_, two, by decide, holds.1, holds.2.1 1999 (by decide)⟩

end Runs

end Sponge.TCPSender
