import Sponge.Library.MachineInt
import Sponge.Model.TCPSender

/-!
# What a tick and an acknowledgment do

A tick finds the timer stopped, advances it, or restarts it after an expiry.  An
acknowledgment keeps the retransmission queue or removes something from its
front, and only then sets the timer back.  The cases carry the whole state after
the call, so that an invariant is checked by a split over them.
-/

namespace Sponge.TCPSender

open MachineInt

/-! ## One tick -/

/-- What a tick does. -/
inductive Ticked (s : TCPSender) (msSinceLastTick : Nat) : Prop where
  | stopped (off : s.timerEnable = false) (ran : s.tick msSinceLastTick = s)
  | early (running : s.timerEnable = true)
      (below : add32 s.retransmissionTimeout msSinceLastTick < s.initialRetransmissionTimeout)
      (ran : s.tick msSinceLastTick =
        { s with retransmissionTimeout := add32 s.retransmissionTimeout msSinceLastTick })
  | drained (running : s.timerEnable = true) (queue : s.segmentsOutstanding = [])
      (ran : s.tick msSinceLastTick =
        { s with
          timerEnable := true
          retransmissionTimeout := 0
          initialRetransmissionTimeout := s.initTimerBackup
          consecutiveRetransmissionsCount := 0 })
  | resent (running : s.timerEnable = true)
      (expired : s.initialRetransmissionTimeout ≤ add32 s.retransmissionTimeout msSinceLastTick)
      (oldest : Outstanding) (rest : List Outstanding)
      (queue : s.segmentsOutstanding = oldest :: rest)
      (ran : s.tick msSinceLastTick =
        { s with
          segmentsOut := s.segmentsOut ++ [oldest.segment]
          timerEnable := true
          retransmissionTimeout := 0
          initialRetransmissionTimeout :=
            if oldest.windowZeroFlag = false then mul32 s.initialRetransmissionTimeout 2
            else s.initialRetransmissionTimeout
          consecutiveRetransmissionsCount :=
            if oldest.windowZeroFlag = false then add32 s.consecutiveRetransmissionsCount 1
            else s.consecutiveRetransmissionsCount })

theorem ticked (s : TCPSender) (msSinceLastTick : Nat) : Ticked s msSinceLastTick := by
  cases running : s.timerEnable with
  | false => exact .stopped running (by rw [tick, if_pos running])
  | true =>
      have isOn : ¬ s.timerEnable = false := by simp [running]
      by_cases below : add32 s.retransmissionTimeout msSinceLastTick <
          s.initialRetransmissionTimeout
      · refine .early running below ?_
        rw [tick, if_neg isOn]
        exact if_neg (Nat.not_le.mpr below)
      · have expired := Nat.not_lt.mp below
        have ran : s.tick msSinceLastTick =
            { { s with
                retransmissionTimeout := add32 s.retransmissionTimeout msSinceLastTick
              }.timeoutRetransmission with timerEnable := true, retransmissionTimeout := 0 } := by
          rw [tick, if_neg isOn]
          exact if_pos expired
        unfold timeoutRetransmission at ran
        cases queue : s.segmentsOutstanding with
        | nil =>
            rw [queue] at ran
            exact .drained running queue (by rw [ran, queue])
        | cons oldest rest =>
            rw [queue] at ran
            refine .resent running expired oldest rest queue ?_
            cases flag : oldest.windowZeroFlag <;> simpa [flag, queue] using ran

/-! ## One acknowledgment -/

/-- `ack_received` up to the nested call of `fill_window`. -/
def acknowledge (s : TCPSender) (newAckno newWindowSize : Nat) : TCPSender :=
  (s.acceptAck newAckno newWindowSize).removeOutstandingSegments

theorem acceptAck_eq (s : TCPSender) (newAckno newWindowSize : Nat) :
    s.acceptAck newAckno newWindowSize =
      { s with
        lastAckno := max s.lastAckno newAckno
        windowSize := newAckno + newWindowSize - max s.lastAckno newAckno
        windowZeroValid := s.windowZeroValid ||
          decide (newAckno + newWindowSize ≤ max s.lastAckno newAckno) } := by
  unfold acceptAck
  dsimp only
  split
  · rename_i isOpen
    have notZero : decide (newAckno + newWindowSize ≤ max s.lastAckno newAckno) = false :=
      decide_eq_false (Nat.not_le.mpr isOpen)
    rw [notZero, Bool.or_false]
  · rename_i isZero
    have closed : newAckno + newWindowSize ≤ max s.lastAckno newAckno := Nat.not_lt.mp isZero
    rw [decide_eq_true closed, Bool.or_true, Nat.sub_eq_zero_of_le closed]

theorem popAcknowledged_suffix (lastAckno : Nat) (entries : List Outstanding) :
    popAcknowledged lastAckno entries <:+ entries := by
  induction entries with
  | nil => exact List.suffix_refl _
  | cons entry rest ih =>
      rw [popAcknowledged]
      split
      · exact ih.trans (List.suffix_cons entry rest)
      · exact List.suffix_refl _

/-- If anything is removed from the queue, its front is. -/
theorem exists_stop_le_of_popped {lastAckno : Nat} {entries : List Outstanding}
    (shorter : (popAcknowledged lastAckno entries).length < entries.length) :
    ∃ entry ∈ entries, entry.stop ≤ lastAckno := by
  cases entries with
  | nil => exact absurd shorter (Nat.lt_irrefl _)
  | cons entry rest =>
      rw [popAcknowledged] at shorter
      split at shorter
      · rename_i done
        exact ⟨entry, List.mem_cons_self, done⟩
      · exact absurd shorter (Nat.lt_irrefl _)

/-- What an accepted acknowledgment does to the queue and the timer. -/
inductive Acknowledged (s : TCPSender) (newAckno newWindowSize : Nat) : Prop where
  | kept (lastAckno windowSize : Nat) (windowZeroValid : Bool)
      (ran : s.acknowledge newAckno newWindowSize =
        { s with
          lastAckno := lastAckno
          windowSize := windowSize
          windowZeroValid := windowZeroValid })
  | popped (lastAckno windowSize : Nat) (windowZeroValid : Bool) (remaining : List Outstanding)
      (gone : ∃ entry ∈ s.segmentsOutstanding, entry.stop ≤ lastAckno)
      (ran : s.acknowledge newAckno newWindowSize =
        { s with
          lastAckno := lastAckno
          windowSize := windowSize
          windowZeroValid := windowZeroValid
          segmentsOutstanding := remaining
          retransmissionTimeout := 0
          initialRetransmissionTimeout := s.initTimerBackup
          timerEnable := !remaining.isEmpty
          consecutiveRetransmissionsCount := 0 })

theorem acknowledged (s : TCPSender) (newAckno newWindowSize : Nat) :
    Acknowledged s newAckno newWindowSize := by
  have ran : s.acknowledge newAckno newWindowSize =
      (s.acceptAck newAckno newWindowSize).removeOutstandingSegments := rfl
  rw [acceptAck_eq, removeOutstandingSegments] at ran
  dsimp only at ran
  have suffix := popAcknowledged_suffix (max s.lastAckno newAckno) s.segmentsOutstanding
  by_cases shorter : (popAcknowledged (max s.lastAckno newAckno) s.segmentsOutstanding).length <
      s.segmentsOutstanding.length
  · rw [if_pos (decide_eq_true shorter)] at ran
    exact .popped _ _ _ _ (exists_stop_le_of_popped shorter) ran
  · have same : popAcknowledged (max s.lastAckno newAckno) s.segmentsOutstanding =
        s.segmentsOutstanding :=
      suffix.eq_of_length (Nat.le_antisymm suffix.length_le (Nat.not_lt.mp shorter))
    rw [if_neg (by simp [shorter]), same] at ran
    exact .kept _ _ _ ran

end Sponge.TCPSender
