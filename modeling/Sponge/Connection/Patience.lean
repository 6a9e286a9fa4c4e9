import Sponge.Connection.Abort
import Sponge.Transmission.Timer

/-!
# How long a connection tries

The timer belongs to the oldest outstanding segment.  It is started with that segment,
set back when the segment is acknowledged, and doubled each time the segment is sent
again.  So the number of attempts measures how long the segment has been waiting, and a
connection gives up neither before nor long after all its timeouts have passed.
-/

namespace Sponge

open TCPSender MachineInt

namespace TCPSender

/-- The outstanding segment that is sent again when the timer expires. -/
def oldest (s : TCPSender) : Option Outstanding := s.segmentsOutstanding.head?

/-! ## The timer between two ticks -/

/-- The oldest segment waits as it did, or it is acknowledged and the timer is set back. -/
inductive Tracks (start s : TCPSender) : Prop where
  | kept (same : s.oldest = start.oldest)
      (timeout : s.retransmissionTimeout = start.retransmissionTimeout)
      (count : s.consecutiveRetransmissionsCount = start.consecutiveRetransmissionsCount)
  | setBack (timeout : s.retransmissionTimeout = 0)
      (count : s.consecutiveRetransmissionsCount = 0)
      (acked : ∀ entry ∈ start.oldest, entry.stop ≤ s.lastAckno)

/-- The timer hangs together, and tracks the oldest segment of `start`. -/
structure Tracked (retxTimeout : Nat) (start s : TCPSender) : Prop where
  timed : Timed retxTimeout s
  tracks : Tracks start s

variable {timeout : Nat} {start s s' : TCPSender}

/-- Only the queue, the timer and what is acknowledged matter. -/
theorem Tracks.congr (tracks : Tracks start s)
    (queue : s'.segmentsOutstanding = s.segmentsOutstanding)
    (sameTimeout : s'.retransmissionTimeout = s.retransmissionTimeout)
    (sameCount : s'.consecutiveRetransmissionsCount = s.consecutiveRetransmissionsCount)
    (sameAckno : s'.lastAckno = s.lastAckno) : Tracks start s' := by
  cases tracks with
  | kept same timeout count =>
      refine .kept ?_ (sameTimeout.trans timeout) (sameCount.trans count)
      rw [oldest, queue]
      exact same
  | setBack timeout count acked =>
      refine .setBack (sameTimeout.trans timeout) (sameCount.trans count) ?_
      rw [sameAckno]
      exact acked

/-- A segment joins the queue at its end; the timer of an empty queue is set back. -/
theorem Tracks.enqueue (tracks : Tracks start s) (timed : Timed timeout s)
    {entries : List Outstanding}
    (queue : s'.segmentsOutstanding = s.segmentsOutstanding ++ entries)
    (sameTimeout : s'.retransmissionTimeout = s.retransmissionTimeout)
    (sameCount : s'.consecutiveRetransmissionsCount = s.consecutiveRetransmissionsCount)
    (sameAckno : s'.lastAckno = s.lastAckno) : Tracks start s' := by
  cases tracks with
  | setBack timeout count acked =>
      refine .setBack (sameTimeout.trans timeout) (sameCount.trans count) ?_
      rw [sameAckno]
      exact acked
  | kept same timeout count =>
      cases waiting : s.segmentsOutstanding with
      | nil =>
          have off : s.timerEnable = false := by
            rw [← Bool.not_eq_true, timed.running, not_not]
            exact waiting
          obtain ⟨stopped, none⟩ := timed.idle off
          refine .setBack (sameTimeout.trans stopped) (sameCount.trans none) fun entry first => ?_
          rw [← same, oldest, waiting] at first
          cases first
      | cons first rest =>
          refine .kept ?_ (sameTimeout.trans timeout) (sameCount.trans count)
          rw [← same, oldest, oldest, queue, waiting]
          rfl

theorem tracked_rounds (timeout : Nat) (start : TCPSender) :
    KeptByRounds (Tracked timeout start) where
  send := by
    intro s segment windowZeroFlag unstamped tracked
    refine ⟨(timed_rounds timeout).send s segment windowZeroFlag unstamped tracked.timed, ?_⟩
    by_cases isEmpty : segment.lengthInSequenceSpace = 0
    · rw [sendSegment_of_empty _ _ isEmpty]
      exact tracked.tracks.congr rfl rfl rfl rfl
    · rw [sendSegment_of_nonempty _ _ isEmpty]
      exact tracked.tracks.enqueue tracked.timed rfl rfl rfl rfl
  read := fun s len finSent tracked =>
    ⟨(timed_rounds timeout).read s len finSent tracked.timed,
      tracked.tracks.congr rfl rfl rfl rfl⟩
  spend := fun s tracked =>
    ⟨(timed_rounds timeout).spend s tracked.timed, tracked.tracks.congr rfl rfl rfl rfl⟩

/-- As long as the oldest segment is not acknowledged, nothing is removed. -/
theorem acknowledge_of_waiting (s : TCPSender) (newAckno newWindowSize : Nat)
    (waiting : ∀ entry ∈ s.oldest, max s.lastAckno newAckno < entry.stop) :
    (s.acknowledge newAckno newWindowSize).segmentsOutstanding = s.segmentsOutstanding ∧
      (s.acknowledge newAckno newWindowSize).retransmissionTimeout = s.retransmissionTimeout ∧
      (s.acknowledge newAckno newWindowSize).consecutiveRetransmissionsCount =
        s.consecutiveRetransmissionsCount := by
  have stays : popAcknowledged (max s.lastAckno newAckno) s.segmentsOutstanding =
      s.segmentsOutstanding := by
    cases queue : s.segmentsOutstanding with
    | nil => rfl
    | cons entry rest =>
        have first : entry ∈ s.oldest := by
          rw [oldest, queue]
          exact rfl
        exact if_neg (Nat.not_le.mpr (waiting entry first))
  rw [acknowledge, acceptAck_eq, removeOutstandingSegments]
  simp only [stays, Nat.lt_irrefl, decide_false, Bool.false_eq_true, if_false, and_self]

/-- The acknowledgment of the oldest segment sets the timer back. -/
theorem acknowledge_of_acked (s : TCPSender) (newAckno newWindowSize : Nat) {entry : Outstanding}
    (first : entry ∈ s.oldest) (done : entry.stop ≤ max s.lastAckno newAckno) :
    (s.acknowledge newAckno newWindowSize).retransmissionTimeout = 0 ∧
      (s.acknowledge newAckno newWindowSize).consecutiveRetransmissionsCount = 0 := by
  obtain ⟨rest, queue⟩ := List.head?_eq_some_iff.mp first
  have removed : popAcknowledged (max s.lastAckno newAckno) s.segmentsOutstanding =
      popAcknowledged (max s.lastAckno newAckno) rest := by
    rw [queue]
    exact if_pos done
  have shorter : (popAcknowledged (max s.lastAckno newAckno) s.segmentsOutstanding).length <
      s.segmentsOutstanding.length := by
    rw [removed, queue]
    exact Nat.lt_succ_of_le (popAcknowledged_suffix _ rest).length_le
  rw [acknowledge, acceptAck_eq, removeOutstandingSegments]
  simp only [shorter, decide_true, if_true, and_self]

theorem acknowledge_lastAckno (s : TCPSender) (newAckno newWindowSize : Nat) :
    (s.acknowledge newAckno newWindowSize).lastAckno = max s.lastAckno newAckno := by
  rw [acknowledge, acceptAck_eq, removeOutstandingSegments]
  dsimp only
  split <;> rfl

theorem Tracks.acknowledge (tracks : Tracks start s) (newAckno newWindowSize : Nat) :
    Tracks start (s.acknowledge newAckno newWindowSize) := by
  have ackno := s.acknowledge_lastAckno newAckno newWindowSize
  have covered : (∀ entry ∈ start.oldest, entry.stop ≤ s.lastAckno) →
      ∀ entry ∈ start.oldest, entry.stop ≤ (s.acknowledge newAckno newWindowSize).lastAckno :=
    fun acked entry first => (acked entry first).trans (ackno ▸ Nat.le_max_left _ _)
  by_cases waiting : ∀ entry ∈ s.oldest, max s.lastAckno newAckno < entry.stop
  · obtain ⟨queue, sameTimeout, sameCount⟩ :=
      s.acknowledge_of_waiting newAckno newWindowSize waiting
    cases tracks with
    | kept same timeout count =>
        refine .kept ?_ (sameTimeout.trans timeout) (sameCount.trans count)
        rw [oldest, queue]
        exact same
    | setBack timeout count acked =>
        exact .setBack (sameTimeout.trans timeout) (sameCount.trans count) (covered acked)
  · simp only [not_forall, Nat.not_lt] at waiting
    obtain ⟨entry, first, done⟩ := waiting
    obtain ⟨stopped, none⟩ := s.acknowledge_of_acked newAckno newWindowSize first done
    cases tracks with
    | setBack _ _ acked => exact .setBack stopped none (covered acked)
    | kept same _ _ =>
        refine .setBack stopped none fun other mem => ?_
        have isFirst : other = entry := Option.mem_unique mem (same ▸ first)
        rw [ackno, isFirst]
        exact done

theorem Tracked.ackReceived (tracked : Tracked timeout start s) (small : timeout < 2 ^ 32)
    (ackno : WrappingInt32) (windowSize : UInt16) :
    Tracked timeout start (s.ackReceived ackno windowSize) := by
  rw [ackReceived_eq]
  split
  · exact tracked
  · exact (tracked_rounds timeout start).fillWindow
      ⟨tracked.timed.acknowledge small _ _, tracked.tracks.acknowledge _ _⟩

/-- The streams and the output queue have no part in it. -/
theorem Tracked.restream (tracked : Tracked timeout start s) (stream : ByteStream)
    (queue : List TCPSegment) :
    Tracked timeout start { s with stream := stream, segmentsOut := queue } :=
  ⟨⟨tracked.timed.backup, tracked.timed.limit, tracked.timed.elapsed, tracked.timed.running,
    tracked.timed.idle⟩, tracked.tracks.congr rfl rfl rfl rfl⟩

/-! ## The time the oldest segment has been waiting -/

/--
The oldest segment has been waiting for `clock`, with ticks of at most `granularity`: as
long as all timeouts that have passed, and no longer than these and a tick for each.
-/
structure Waited (retxTimeout granularity clock : Nat) (s : TCPSender) : Prop where
  timed : Timed retxTimeout s
  atLeast : (2 ^ s.consecutiveRetransmissionsCount - 1) * retxTimeout + s.retransmissionTimeout ≤
    clock
  atMost : ∀ entry ∈ s.oldest, entry.windowZeroFlag = false →
    clock ≤ (2 ^ s.consecutiveRetransmissionsCount - 1) * retxTimeout + s.retransmissionTimeout +
      s.consecutiveRetransmissionsCount * granularity
  probe : (∀ entry ∈ s.oldest, entry.windowZeroFlag = true) →
    s.consecutiveRetransmissionsCount = 0

/-- The timer of an empty queue shows nothing. -/
theorem Timed.of_none (timed : Timed timeout s) (none : s.oldest = none) :
    s.retransmissionTimeout = 0 ∧ s.consecutiveRetransmissionsCount = 0 := by
  refine timed.idle ?_
  rw [← Bool.not_eq_true, timed.running, not_not]
  exact List.head?_eq_none_iff.mp none

/-- The time the oldest segment has been waiting after `elapsed` more have passed. -/
def waitingTime (start s : TCPSender) (clock elapsed : Nat) : Nat :=
  if s.oldest = start.oldest ∧ s.oldest.isSome then clock + elapsed else 0

variable {granularity clock : Nat}

/-- A new oldest segment, or none, has not been waiting. -/
theorem waited_zero (timed : Timed timeout s) (stopped : s.retransmissionTimeout = 0)
    (none : s.consecutiveRetransmissionsCount = 0) : Waited timeout granularity 0 s := by
  refine ⟨timed, ?_, fun _ _ _ => Nat.zero_le _, fun _ => none⟩
  rw [stopped, none]
  simp

/-- Between two ticks. -/
theorem Waited.tracked (waited : Waited timeout granularity clock start)
    (tracked : Tracked timeout start s)
    (pending : ∀ entry ∈ s.segmentsOutstanding, s.lastAckno < entry.stop) :
    Waited timeout granularity (waitingTime start s clock 0) s := by
  unfold waitingTime
  cases tracked.tracks with
  | kept same sameTimeout sameCount =>
      split
      · refine ⟨tracked.timed, ?_, ?_, ?_⟩
        · rw [sameTimeout, sameCount]
          exact waited.atLeast
        · rw [sameTimeout, sameCount, same]
          exact waited.atMost
        · rw [sameCount, same]
          exact waited.probe
      · rename_i changed
        have none : s.oldest = none := by
          rw [← Option.not_isSome_iff_eq_none]
          exact fun isSome => changed ⟨same, isSome⟩
        exact waited_zero tracked.timed (tracked.timed.of_none none).1
          (tracked.timed.of_none none).2
  | setBack stopped none acked =>
      have changed : ¬ (s.oldest = start.oldest ∧ s.oldest.isSome = true) := by
        rintro ⟨same, isSome⟩
        obtain ⟨entry, first⟩ := Option.isSome_iff_exists.mp isSome
        have member : entry ∈ s.segmentsOutstanding := List.mem_of_mem_head? first
        exact absurd (acked entry (same ▸ first)) (Nat.not_le.mpr (pending entry member))
      rw [if_neg changed]
      exact waited_zero tracked.timed stopped none

/-- All timeouts up to the next one. -/
theorem doubled_sub_one (count timeout : Nat) :
    (2 ^ (count + 1) - 1) * timeout = (2 ^ count - 1) * timeout + timeout * 2 ^ count := by
  have positive := Nat.two_pow_pos count
  rw [Nat.mul_comm timeout, ← Nat.add_mul]
  congr 1
  omega

/-- The timeouts of all attempts fit the timer. -/
theorem timeout_fits {count : Nat} (small : timeout < 2 ^ 16)
    (few : count ≤ TCPConfig.maxRetxAttempts) : timeout * 2 ^ count < 2 ^ 24 := by
  calc timeout * 2 ^ count
      ≤ timeout * 2 ^ TCPConfig.maxRetxAttempts :=
        Nat.mul_le_mul_left _ (Nat.pow_le_pow_right (by decide) few)
    _ < 2 ^ 16 * 2 ^ TCPConfig.maxRetxAttempts :=
        Nat.mul_lt_mul_of_pos_right small (Nat.two_pow_pos _)
    _ = 2 ^ 24 := by decide

/-- A tick acknowledges nothing. -/
theorem oldest_tick (s : TCPSender) (msSinceLastTick : Nat) :
    (s.tick msSinceLastTick).oldest = s.oldest :=
  congrArg List.head? (s.tick_spec msSinceLastTick).1.segmentsOutstanding

theorem Waited.tick (waited : Waited timeout granularity clock s) (positive : 0 < timeout)
    (small : timeout < 2 ^ 16) (few : s.consecutiveRetransmissionsCount ≤ TCPConfig.maxRetxAttempts)
    (fine : granularity < 2 ^ 31) {msSinceLastTick : Nat} (short : msSinceLastTick ≤ granularity) :
    Waited timeout granularity
      (waitingTime s (s.tick msSinceLastTick) clock msSinceLastTick) (s.tick msSinceLastTick) := by
  have bounded := timeout_fits small few
  have consistent := waited.timed.consistent positive (bounded.trans (by decide))
  have limit : s.initialRetransmissionTimeout =
    timeout * 2 ^ s.consecutiveRetransmissionsCount := consistent.timeout
  have elapsed := consistent.elapsed
  have sum : add32 s.retransmissionTimeout msSinceLastTick =
    s.retransmissionTimeout + msSinceLastTick := Nat.mod_eq_of_lt (by omega)
  have counts : add32 s.consecutiveRetransmissionsCount 1 =
      s.consecutiveRetransmissionsCount + 1 := by
    rw [TCPConfig.maxRetxAttempts] at few
    exact Nat.mod_eq_of_lt (by omega)
  have timed := waited.timed.tick
    (Nat.lt_of_le_of_lt (Nat.succ_le_succ few) (by decide)) msSinceLastTick
  have same := s.oldest_tick msSinceLastTick
  have runs : s.timerEnable = true →
      waitingTime s (s.tick msSinceLastTick) clock msSinceLastTick = clock + msSinceLastTick := by
    intro running
    refine if_pos ⟨same, ?_⟩
    rw [same, oldest, List.isSome_head?]
    exact waited.timed.running.mp running
  have atLeast := waited.atLeast
  have atMost := waited.atMost
  cases s.ticked msSinceLastTick with
  | stopped off ran =>
      have none : s.oldest = none := by
        rw [oldest, List.head?_eq_none_iff]
        by_contra waiting
        exact absurd (off.symm.trans (waited.timed.running.mpr waiting)) Bool.false_ne_true
      have idle := waited.timed.idle off
      rw [ran, waitingTime, if_neg (by rw [none]; exact fun both => Bool.false_ne_true both.2)]
      exact waited_zero waited.timed idle.1 idle.2
  | early running below ran =>
      rw [runs running]
      rw [ran, sum] at timed ⊢
      refine ⟨timed, ?_, fun entry first plain => ?_, waited.probe⟩
      · dsimp only
        omega
      · have bound := atMost entry first plain
        dsimp only
        omega
  | drained running queue => exact absurd queue (waited.timed.running.mp running)
  | resent running expired first rest queue ran =>
      have isOldest : first ∈ s.oldest := by
        rw [oldest, queue]
        rfl
      have stopped : (s.tick msSinceLastTick).retransmissionTimeout = 0 := by rw [ran]
      have counted : (s.tick msSinceLastTick).consecutiveRetransmissionsCount =
          if first.windowZeroFlag = false then s.consecutiveRetransmissionsCount + 1
          else s.consecutiveRetransmissionsCount := by
        rw [ran, ← counts]
      rw [sum, limit] at expired
      rw [limit] at elapsed
      rw [runs running]
      cases flag : first.windowZeroFlag with
      | false =>
          have bound := atMost first isOldest flag
          have next := doubled_sub_one s.consecutiveRetransmissionsCount timeout
          rw [if_pos flag] at counted
          refine ⟨timed, ?_, fun _ _ _ => ?_, fun probes => ?_⟩
          · rw [stopped, counted]
            omega
          · rw [stopped, counted, Nat.succ_mul]
            omega
          · rw [same] at probes
            exact absurd (flag.symm.trans (probes first isOldest)) Bool.false_ne_true
      | true =>
          -- a probe is sent again after the same timeout, and is not counted
          have isProbe : ∀ entry ∈ s.oldest, entry.windowZeroFlag = true := fun entry mem => by
            rw [Option.mem_unique mem isOldest]
            exact flag
          rw [if_neg (by rw [flag]; exact Bool.noConfusion), waited.probe isProbe] at counted
          refine ⟨timed, ?_, fun entry mem plain => ?_, fun _ => counted⟩
          · rw [stopped, counted]
            simp
          · rw [same] at mem
            exact absurd (plain.symm.trans (isProbe entry mem)) Bool.false_ne_true

end TCPSender

namespace TCPConnection

variable {cfg : TCPConfig} {random : UInt32} {c c' : TCPConnection} {event : Event}

/-- The time that passes during a call. -/
def Event.duration : Event → Nat
  | .tick msSinceLastTick => msSinceLastTick
  | _ => 0

/-- Between two ticks the connection's calls leave the timer to the oldest segment. -/
theorem tracked_of_step {timeout : Nat} (timed : Timed timeout c.sender)
    (small : timeout < 2 ^ 32) (next : c.step event = some c')
    (between : ∀ msSinceLastTick, event ≠ .tick msSinceLastTick) :
    Tracked timeout c.sender c'.sender := by
  have start : Tracked timeout c.sender c.sender := ⟨timed, .kept rfl rfl rfl⟩
  have rounds := tracked_rounds timeout c.sender
  cases event with
  | segmentReceived segment =>
      cases received_of_segmentReceived next with
      | ignored _ => exact start
      | reset _ _ => exact start.restream _ _
      | handled _ _ _ _ _ _ kept =>
          have resilient : Resilient segment (Tracked timeout c.sender) :=
            ⟨fun _ => rounds.fillWindow, fun _ _ tracked => tracked.ackReceived small _ _,
              fun s => rounds.send s {} false ⟨rfl, rfl⟩⟩
          exact (kept _ resilient start).restream _ []
  | write data =>
      cases next
      exact (rounds.fillWindow (start.restream _ _)).restream _ []
  | endInputStream =>
      cases next
      exact (rounds.fillWindow (start.restream _ _)).restream _ []
  | connect =>
      cases next
      exact (rounds.fillWindow start).restream _ []
  | tick msSinceLastTick => exact absurd rfl (between msSinceLastTick)
  | read _ | dequeue =>
      cases next
      exact start

/-- A connection, and the time for which its oldest outstanding segment has been waiting. -/
structure Clocked where
  conn : TCPConnection
  clock : Nat

namespace Clocked

def fresh (cfg : TCPConfig) (random : UInt32) : Clocked := ⟨TCPConnection.new cfg random, 0⟩

def step (w : Clocked) (event : Event) : Option Clocked :=
  (w.conn.step event).map fun conn =>
    ⟨conn, waitingTime w.conn.sender conn.sender w.clock event.duration⟩

/-- The connection has not given up, and time passes in steps of at most `granularity`. -/
def Timely (granularity : Nat) (w : Clocked) (event : Event) : Prop :=
  w.conn.sender.consecutiveRetransmissions ≤ TCPConfig.maxRetxAttempts ∧
    event.duration ≤ granularity

instance (granularity : Nat) (w : Clocked) (event : Event) :
    Decidable (Timely granularity w event) :=
  inferInstanceAs (Decidable (_ ∧ _))

variable {granularity : Nat} {w : Clocked}

/-- Giving up changes nothing about the outstanding segments and the timer. -/
theorem oldest_of_tick (c : TCPConnection) (msSinceLastTick : Nat) :
    (c.tick msSinceLastTick).sender.oldest = c.sender.oldest := by
  cases c.elapsed msSinceLastTick with
  | waited _ ran =>
      rw [ran]
      exact c.sender.oldest_tick msSinceLastTick
  | gaveUp _ ran =>
      rw [ran]
      exact c.sender.oldest_tick msSinceLastTick

theorem waited_of_tick {timeout clock msSinceLastTick : Nat}
    (ticked : Waited timeout granularity clock (c.sender.tick msSinceLastTick)) :
    Waited timeout granularity clock (c.tick msSinceLastTick).sender := by
  have timed := ticked.timed
  cases c.elapsed msSinceLastTick with
  | waited _ ran =>
      rw [ran]
      exact ⟨⟨timed.backup, timed.limit, timed.elapsed, timed.running, timed.idle⟩,
        ticked.atLeast, ticked.atMost, ticked.probe⟩
  | gaveUp _ ran =>
      rw [ran]
      exact ⟨⟨timed.backup, timed.limit, timed.elapsed, timed.running, timed.idle⟩,
        ticked.atLeast, ticked.atMost, ticked.probe⟩

theorem waited_of_reaches (positive : 0 < cfg.rtTimeout.toNat) (fine : granularity < 2 ^ 31)
    (reached : Reaches step (Timely granularity) (fresh cfg random) w) :
    Reaches TCPConnection.step Always (TCPConnection.new cfg random) w.conn ∧
      Waited cfg.rtTimeout.toNat granularity w.clock w.conn.sender := by
  have small := cfg.rtTimeout.toNat_lt
  refine reached.invariant (fun w =>
    Reaches TCPConnection.step Always (TCPConnection.new cfg random) w.conn ∧
      Waited cfg.rtTimeout.toNat granularity w.clock w.conn.sender)
    ⟨.refl, waited_zero (timed_new _ _ _ _) rfl rfl⟩ ?_
  rintro w event w' ⟨runs, waited⟩ ⟨few, short⟩ next
  obtain ⟨conn, called, rfl⟩ := Option.map_eq_some_iff.mp next
  have later := runs.tail event trivial called
  refine ⟨later, ?_⟩
  cases event with
  | tick msSinceLastTick =>
      cases called
      have ticked := waited_of_tick (waited.tick positive small few fine short)
      rw [waitingTime, oldest_tick] at ticked
      dsimp only
      rwa [waitingTime, oldest_of_tick]
  | segmentReceived | write | endInputStream | connect | read | dequeue =>
      obtain ⟨_, _, settled⟩ := settled_of_reaches later
      have tracked := tracked_of_step waited.timed (small.trans (by decide)) called nofun
      exact waited.tracked tracked fun entry member => settled.toAccounted.lastAckno_lt_stop member

/--
In every run of a connection whose clock ticks in steps of at most `granularity`, which
is less than `2 ^ 31`: as long as it has not given up, the oldest outstanding segment,
unless it is a probe, has been waiting for less than all the timeouts, `511` times the
initial one, and a step for each attempt; and a tick gives the connection up only when
a segment that is no probe has been waiting for all the timeouts.
-/
theorem gives_up_in_time (positive : 0 < cfg.rtTimeout.toNat) (fine : granularity < 2 ^ 31)
    (reached : Reaches step (Timely granularity) (fresh cfg random) w)
    (trying : w.conn.sender.consecutiveRetransmissions ≤ TCPConfig.maxRetxAttempts) :
    (∀ entry ∈ w.conn.sender.oldest, entry.windowZeroFlag = false →
      w.clock < (2 ^ (TCPConfig.maxRetxAttempts + 1) - 1) * cfg.rtTimeout.toNat +
        TCPConfig.maxRetxAttempts * granularity) ∧
    ∀ msSinceLastTick ≤ granularity, w.conn.Aborts (.tick msSinceLastTick) →
      (∃ entry ∈ w.conn.sender.oldest, entry.windowZeroFlag = false) ∧
        (2 ^ (TCPConfig.maxRetxAttempts + 1) - 1) * cfg.rtTimeout.toNat ≤
          w.clock + msSinceLastTick := by
  obtain ⟨runs, waited⟩ := waited_of_reaches positive fine reached
  have small := cfg.rtTimeout.toNat_lt
  have grows : ∀ {fewer more : Nat}, fewer ≤ more →
      (2 ^ fewer - 1) * cfg.rtTimeout.toNat ≤ (2 ^ more - 1) * cfg.rtTimeout.toNat := fun le =>
    Nat.mul_le_mul_right _ (Nat.sub_le_sub_right (Nat.pow_le_pow_right (by decide) le) 1)
  constructor
  · intro entry first plain
    have bound := waited.atMost entry first plain
    have consistent := waited.timed.consistent positive
      ((timeout_fits small trying).trans (by decide))
    have elapsed : w.conn.sender.retransmissionTimeout <
        cfg.rtTimeout.toNat * 2 ^ w.conn.sender.consecutiveRetransmissionsCount :=
      consistent.timeout ▸ consistent.elapsed
    have next := doubled_sub_one w.conn.sender.consecutiveRetransmissionsCount cfg.rtTimeout.toNat
    have all := grows (Nat.succ_le_succ trying)
    have steps : w.conn.sender.consecutiveRetransmissionsCount * granularity ≤
        TCPConfig.maxRetxAttempts * granularity := Nat.mul_le_mul_right _ trying
    calc w.clock
        < (2 ^ (w.conn.sender.consecutiveRetransmissionsCount + 1) - 1) * cfg.rtTimeout.toNat +
          w.conn.sender.consecutiveRetransmissionsCount * granularity := by omega
      _ ≤ _ := Nat.add_le_add all steps
  · intro msSinceLastTick short aborts
    have many : TCPConfig.maxRetxAttempts + 1 ≤
        (w.conn.sender.tick msSinceLastTick).consecutiveRetransmissionsCount := by
      rw [← tick_count]
      exact aborts
    have ticked := waited.tick positive small trying fine short
    constructor
    · by_contra probes
      simp only [not_exists, not_and, Bool.not_eq_false] at probes
      have none := ticked.probe (by rwa [oldest_tick])
      omega
    · calc (2 ^ (TCPConfig.maxRetxAttempts + 1) - 1) * cfg.rtTimeout.toNat
          ≤ (2 ^ (w.conn.sender.tick msSinceLastTick).consecutiveRetransmissionsCount - 1) *
              cfg.rtTimeout.toNat := grows many
        _ ≤ waitingTime w.conn.sender (w.conn.sender.tick msSinceLastTick) w.clock
              msSinceLastTick := (Nat.le_add_right _ _).trans ticked.atLeast
        _ ≤ w.clock + msSinceLastTick := by
            unfold waitingTime
            split
            · exact Nat.le_refl _
            · exact Nat.zero_le _

/-- Nobody answers the SYN: the tenth attempt is not made. -/
theorem gives_up_in_time_unanswered :
    ∃ w, Reaches step (Timely 256) (fresh { rtTimeout := 1 } 7) w ∧ w.clock = 255 ∧
      w.conn.Aborts (.tick 256) ∧ 511 ≤ w.clock + 256 := by
  have ran : (execute step (Timely 256) (fresh { rtTimeout := 1 } 7)
      ((fun _ => .connect) :: (List.range 8).map fun attempt _ => .tick (2 ^ attempt))).any
      (fun w => decide (w.conn.sender.consecutiveRetransmissions ≤ TCPConfig.maxRetxAttempts ∧
        w.clock = 255 ∧ (w.conn.tick 256).sender.consecutiveRetransmissions >
          TCPConfig.maxRetxAttempts)) = true := by decide +kernel
  obtain ⟨w, reached, trying, clock, aborts⟩ := exists_reaches ran
  exact ⟨w, reached, clock, aborts,
    ((gives_up_in_time (by decide) (by decide) reached trying).2 256 (by decide) aborts).2⟩

end Clocked

end TCPConnection

end Sponge
