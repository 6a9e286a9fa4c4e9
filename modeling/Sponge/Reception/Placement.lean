import Sponge.Reception.Safety
import Mathlib.Order.Bounds.Defs
import Mathlib.Tactic.IntervalCases

/-!
# When a receiver places every segment at its true index

As long as the checkpoint stays inside the stream, or one below its start, the
nearest sequence number is the true one and the receiver acknowledges the
longest prefix that arrived inside the window.  A repeated SYN is harmless while
the checkpoint stands at the start of the stream.  Later it moves the checkpoint
to the end of the first sequence-number cycle, and what follows is placed one
cycle too high.
-/

namespace Sponge.TCPReceiver

open MachineInt Fragments FirstWrite StreamReassembler

/-- A segment of the peer's stream arrives, or the application reads. -/
inductive Arrival where
  | syn (segment : TCPSegment)
  | slice (index : Nat) (segment : TCPSegment)
  | read (len : Nat)

/-- A receiver with the bytes read and the indices whose byte arrived inside the window. -/
structure Tracked where
  receiver : TCPReceiver
  readBytes : Bytes
  arrived : Nat → Prop

def Tracked.fresh (capacity : Nat) : Tracked := ⟨new capacity, [], fun _ => False⟩

/-- The bytes of `payload` at `index` arrive; those inside the window count. -/
def Tracked.arrivedAfter (o : Tracked) (index : Nat) (payload : Bytes) : Nat → Prop := fun j =>
  o.arrived j ∨ (index ≤ j ∧ j < index + payload.length) ∧
    o.receiver.reassembler.nextIndex ≤ j ∧
      j < o.receiver.reassembler.nextIndex + o.receiver.windowSize

def Tracked.handle (o : Tracked) : Arrival → Option Tracked
  | .syn segment => do
      let receiver ← o.receiver.segmentReceived segment
      some { o with receiver := receiver }
  | .slice index segment => do
      let receiver ← o.receiver.segmentReceived segment
      some { o with receiver := receiver, arrived := o.arrivedAfter index segment.payload }
  | .read len =>
      some { o with
        receiver := o.receiver.popStreamOut len
        readBytes := o.readBytes ++ o.receiver.streamOut.peekOutput len }

/-- The SYN and slices of one stream arrive, the SYN first. -/
def OfStream (isn : WrappingInt32) (stream : Bytes) (o : Tracked) : Arrival → Prop
  | .syn segment => IsSyn isn segment
  | .slice index segment =>
      o.receiver.synRecived = true ∧ IsSlice isn stream True index segment
  | .read _ => True

/-- A SYN is repeated only while the checkpoint is at the start of the stream or one below it. -/
def CheckpointAtStart (o : Tracked) : Arrival → Prop
  | .syn _ =>
      o.receiver.synRecived = true →
        o.receiver.lastStreamNo = 0 ∨ o.receiver.lastStreamNo = 2 ^ 64 - 1
  | _ => True

/-- The acknowledgment number counts the longest prefix that arrived inside the window. -/
def AcknowledgesArrived (isn : WrappingInt32) (stream : Bytes) (o : Tracked) : Prop :=
  ∃ n, IsGreatest {k | k ≤ stream.length ∧ ∀ j < k, o.arrived j} n ∧
    o.receiver.ackno =
      some (wrap (1 + n + (if o.receiver.streamOut.inputEnded then 1 else 0)) isn)

/-- The receiver hands the payload of `segment` to the reassembler at `index`. -/
def PushesAt (r : TCPReceiver) (segment : TCPSegment) (index : Nat) : Prop :=
  r.segmentReceived segment =
    (r.reassembler.pushSubstring segment.payload index segment.header.fin).map
      fun reassembler => { r with lastStreamNo := index, reassembler := reassembler }

/-- Near the checkpoint, and from one below zero, a position of the stream unwraps to itself. -/
theorem unwrap_of_near (isn : WrappingInt32) {position checkpoint : Nat} (positive : 0 < position)
    (small : position ≤ 2 ^ 31) (near : checkpoint < 2 ^ 31 ∨ checkpoint = 2 ^ 64 - 1) :
    unwrap (wrap position isn) isn checkpoint = position := by
  have at_offset : offset (wrap position isn) isn = position := by
    rw [offset_wrap]
    omega
  rcases near with inside | below
  · by_cases ahead : checkpoint ≤ position
    · rw [unwrap_of_le _ _ (by rw [at_offset]; exact ahead), at_offset]
    · rw [unwrap_of_lt _ _ (by omega) (by omega), at_offset, if_neg (by omega)]
  · rw [below, unwrap_of_max _ _ (by omega), at_offset]

/-- The SYN unwraps to zero from a checkpoint at the start of the stream. -/
theorem unwrap_syn (isn : WrappingInt32) {checkpoint : Nat}
    (atStart : checkpoint = 0 ∨ checkpoint = 2 ^ 64 - 1) : unwrap isn isn checkpoint = 0 := by
  have zero := offset_self isn
  rcases atStart with rfl | rfl
  · rw [unwrap_of_le _ _ (Nat.zero_le _), zero]
  · rw [unwrap_of_max _ _ (by omega), zero]

theorem segmentReceived_of_recived {r : TCPReceiver} (recived : r.synRecived = true)
    (segment : TCPSegment) : r.segmentReceived segment = r.place segment (2 ^ 64 - 1) := by
  rw [segmentReceived, if_neg (by simp [recived])]

section Invariant

variable {isn : WrappingInt32} {stream : Bytes} {capacity : Nat}

/-- The checkpoint is inside the stream, or one below its start. -/
def Near (stream : Bytes) (r : TCPReceiver) : Prop :=
  r.lastStreamNo ≤ stream.length ∨ r.lastStreamNo = 2 ^ 64 - 1

/-- The computed index of a slice is its true index. -/
theorem Near.streamNo_slice {closed : Prop} {r : TCPReceiver} (near : Near stream r)
    (half : stream.length < 2 ^ 31) {index : Nat} {segment : TCPSegment}
    (isSlice : IsSlice isn stream closed index segment) :
    add64 (unwrap segment.header.seqno isn r.lastStreamNo) (2 ^ 64 - 1) = index := by
  have bounded := isSlice.bounded
  have checkpoint : r.lastStreamNo < 2 ^ 31 ∨ r.lastStreamNo = 2 ^ 64 - 1 := by
    rcases near with inside | below
    · exact .inl (by omega)
    · exact .inr below
  rw [isSlice.placed, unwrap_of_near isn (by omega) (by omega) checkpoint]
  unfold add64
  omega

/-- The receiver is sound, holds what arrived, and its checkpoint is near the stream. -/
structure Tracking (isn : WrappingInt32) (stream : Bytes) (capacity : Nat) (o : Tracked)
    (held : Nat → Option UInt8) : Prop where
  sound : Sound isn stream True capacity o.receiver o.readBytes held
  arrivals : ∀ j, held j ≠ none ↔ o.arrived j
  unstarted : o.receiver.synRecived = false → o.receiver.lastStreamNo = 0
  near : Near stream o.receiver

theorem tracking_fresh (isn : WrappingInt32) (stream : Bytes) (capacity : Nat) :
    Tracking isn stream capacity (Tracked.fresh capacity) (fun _ => none) where
  sound := sound_new isn stream True capacity
  arrivals := fun _ => by simp [Tracked.fresh]
  unstarted := fun _ => rfl
  near := Or.inl (Nat.zero_le _)

variable {o : Tracked} {held : Nat → Option UInt8}

theorem Tracking.pushesAt (tracking : Tracking isn stream capacity o held)
    (small : stream.length + capacity < 2 ^ 31) (recived : o.receiver.synRecived = true)
    {index : Nat} {segment : TCPSegment} (isSlice : IsSlice isn stream True index segment) :
    PushesAt o.receiver segment index := by
  have streamNo := tracking.near.streamNo_slice (by omega) isSlice
  rw [← tracking.sound.started recived] at streamNo
  simp only [PushesAt, segmentReceived, recived, place, streamNo]
  cases o.receiver.reassembler.pushSubstring segment.payload index segment.header.fin <;> rfl

/-- A repeated SYN leaves the checkpoint one below the start. -/
theorem Tracking.synAgain (tracking : Tracking isn stream capacity o held)
    (machine : stream.length + capacity < 2 ^ 64) {segment : TCPSegment}
    (isSyn : IsSyn isn segment) (recived : o.receiver.synRecived = true)
    (atStart : o.receiver.lastStreamNo = 0 ∨ o.receiver.lastStreamNo = 2 ^ 64 - 1) :
    ∃ o', o.handle (.syn segment) = some o' ∧ Tracking isn stream capacity o' held := by
  obtain ⟨r', placed, lastStreamNo, recived', _, sound'⟩ :=
    tracking.sound.place_bare machine (tracking.sound.started recived) isSyn.bare isSyn.noFin
      (2 ^ 64 - 1)
  rw [isSyn.first, unwrap_syn isn atStart] at lastStreamNo
  refine ⟨{ o with receiver := r' }, ?_, sound', tracking.arrivals, ?_, Or.inr lastStreamNo⟩
  · simp only [Tracked.handle, segmentReceived_of_recived recived, placed]
    rfl
  · intro notYet
    rw [recived', recived] at notYet
    cases notYet

/-- The first SYN leaves it at the start. -/
theorem Tracking.synFirst (tracking : Tracking isn stream capacity o held)
    (machine : stream.length + capacity < 2 ^ 64) {segment : TCPSegment}
    (isSyn : IsSyn isn segment) (notYet : o.receiver.synRecived = false) :
    ∃ o', o.handle (.syn segment) = some o' ∧ Tracking isn stream capacity o' held := by
  obtain ⟨r', placed, lastStreamNo, recived', _, sound'⟩ :=
    tracking.sound.start.place_bare machine rfl isSyn.bare isSyn.noFin 0
  rw [isSyn.first, unwrap_syn isn (Or.inl (tracking.unstarted notYet))] at lastStreamNo
  refine ⟨{ o with receiver := r' }, ?_, sound', tracking.arrivals, ?_, Or.inl ?_⟩
  · simp [Tracked.handle, segmentReceived, notYet, isSyn.isSyn, isSyn.first, placed]
  · intro absurd
    rw [recived'] at absurd
    cases absurd
  · exact Nat.le_trans (Nat.le_of_eq lastStreamNo) (Nat.zero_le _)

/-- A slice moves it to the index of the slice. -/
theorem Tracking.slice (tracking : Tracking isn stream capacity o held)
    (small : stream.length + capacity < 2 ^ 31) {index : Nat} {segment : TCPSegment}
    (isSlice : IsSlice isn stream True index segment) (recived : o.receiver.synRecived = true) :
    ∃ o' held', o.handle (.slice index segment) = some o' ∧
      Tracking isn stream capacity o' held' := by
  have streamNo := tracking.near.streamNo_slice (by omega) isSlice
  obtain ⟨r', placed, lastStreamNo, recived', _, sound'⟩ :=
    tracking.sound.place_slice (by omega) (tracking.sound.started recived) isSlice
      (Nat.two_pow_pos 32) (by rw [Nat.zero_mul, Nat.add_zero]; exact streamNo)
  rw [Nat.zero_mul, Nat.add_zero] at lastStreamNo sound'
  refine ⟨⟨r', o.readBytes, o.arrivedAfter index segment.payload⟩, _, ?_, sound', ?_, ?_,
    Or.inl ?_⟩
  · simp only [Tracked.handle, segmentReceived_of_recived recived, placed]
    rfl
  · intro j
    have window := tracking.sound.refines.window
    rw [heldAfter, assign_ne_none_iff, tracking.arrivals, ← window]
    rfl
  · intro notYet
    rw [recived', recived] at notYet
    cases notYet
  · have bounded := isSlice.bounded
    dsimp only
    omega

theorem Tracking.handle (tracking : Tracking isn stream capacity o held)
    (small : stream.length + capacity < 2 ^ 31) {arrival : Arrival}
    (ofStream : OfStream isn stream o arrival) (atStart : CheckpointAtStart o arrival) :
    ∃ o' held', o.handle arrival = some o' ∧ Tracking isn stream capacity o' held' := by
  cases arrival with
  | syn segment =>
      cases recived : o.receiver.synRecived with
      | true =>
          obtain ⟨o', handled, tracking'⟩ :=
            tracking.synAgain (by omega) ofStream recived (atStart recived)
          exact ⟨o', held, handled, tracking'⟩
      | false =>
          obtain ⟨o', handled, tracking'⟩ := tracking.synFirst (by omega) ofStream recived
          exact ⟨o', held, handled, tracking'⟩
  | slice index segment => exact tracking.slice small ofStream.2 ofStream.1
  | read len =>
      exact ⟨_, held, rfl, tracking.sound.popStreamOut len, tracking.arrivals, tracking.unstarted,
        tracking.near⟩

theorem tracking_of_reaches (small : stream.length + capacity < 2 ^ 31)
    (reached : Reaches Tracked.handle
      (fun o arrival => OfStream isn stream o arrival ∧ CheckpointAtStart o arrival)
      (Tracked.fresh capacity) o) :
    ∃ held, Tracking isn stream capacity o held := by
  refine reached.invariant (fun o => ∃ held, Tracking isn stream capacity o held)
    ⟨_, tracking_fresh isn stream capacity⟩ ?_
  rintro state arrival final ⟨held, tracking⟩ ⟨ofStream, atStart⟩ next
  obtain ⟨o', held', handled, tracking'⟩ := tracking.handle small ofStream atStart
  rw [handled] at next
  cases next
  exact ⟨held', tracking'⟩

/-- The next index is the length of the longest prefix that arrived. -/
theorem Tracking.isGreatest (tracking : Tracking isn stream capacity o held) :
    IsGreatest {k | k ≤ stream.length ∧ ∀ j < k, o.arrived j}
      o.receiver.reassembler.nextIndex := by
  have refines := tracking.sound.refines
  refine ⟨⟨(assembled_le refines tracking.sound.agrees).1, fun j below => ?_⟩, ?_⟩
  · rw [← tracking.arrivals, refines.history j below,
      List.getElem?_eq_getElem (by rw [refines.delivered_length]; exact below)]
    exact Option.some_ne_none _
  · rintro k ⟨_, allArrived⟩
    by_contra beyond
    have arrived := allArrived _ (Nat.not_le.mp beyond)
    rw [← tracking.arrivals, refines.pending _ (Nat.le_refl _), refines.gap] at arrived
    exact arrived rfl

end Invariant

/--
In every run in which a SYN is repeated only while the checkpoint is at the start
of the stream, the acknowledgment number counts the longest prefix that arrived,
and every slice is pushed at its true index.
-/
theorem receiver_recovers_stream (isn : WrappingInt32) (stream : Bytes) (capacity : Nat)
    (small : stream.length + capacity < 2 ^ 31) {o : Tracked}
    (reached : Reaches Tracked.handle
      (fun o arrival => OfStream isn stream o arrival ∧ CheckpointAtStart o arrival)
      (Tracked.fresh capacity) o)
    (recived : o.receiver.synRecived = true) :
    AcknowledgesArrived isn stream o ∧
      ∀ index segment, IsSlice isn stream True index segment →
        PushesAt o.receiver segment index := by
  obtain ⟨held, tracking⟩ := tracking_of_reaches small reached
  refine ⟨⟨_, tracking.isGreatest, ?_⟩, fun index segment => tracking.pushesAt small recived⟩
  rw [tracking.sound.ackno_eq (by omega) recived, absAckno, if_neg (by simp [recived])]

/-- A SYN repeated before any data arrived is harmless. -/
theorem receiver_recovers_stream_repeated_syn :
    ∃ o, Reaches Tracked.handle
        (fun o arrival => OfStream ⟨7⟩ [97] o arrival ∧ CheckpointAtStart o arrival)
        (Tracked.fresh 4) o ∧
      o.receiver.ackno = some ⟨9⟩ ∧ AcknowledgesArrived ⟨7⟩ [97] o := by
  have start : Reaches Tracked.handle
    (fun o arrival => OfStream ⟨7⟩ [97] o arrival ∧ CheckpointAtStart o arrival)
    (Tracked.fresh 4) (Tracked.fresh 4) := .refl
  have one := start.tail (Arrival.syn { header := { syn := true, seqno := ⟨7⟩ } })
    ⟨⟨rfl, rfl, rfl, rfl⟩, fun _ => Or.inl rfl⟩ rfl
  have two := one.tail (Arrival.syn { header := { syn := true, seqno := ⟨7⟩ } })
    ⟨⟨rfl, rfl, rfl, rfl⟩, fun _ => Or.inl rfl⟩ rfl
  have three := two.tail (Arrival.slice 0 { header := { seqno := ⟨8⟩ }, payload := [97] })
    ⟨⟨rfl, by decide, rfl, rfl, rfl, by decide⟩, trivial⟩ rfl
  exact ⟨_, three, rfl, (receiver_recovers_stream ⟨7⟩ [97] 4 (by decide) three rfl).1⟩

/-- A SYN repeated after two data segments: the last byte arrives and is not acknowledged. -/
theorem late_syn_misplaces_slice :
    ¬ ∀ (isn : WrappingInt32) (stream : Bytes) (capacity : Nat),
      stream.length + capacity < 2 ^ 31 →
      ∀ o, Reaches Tracked.handle (OfStream isn stream) (Tracked.fresh capacity) o →
        o.receiver.synRecived = true → AcknowledgesArrived isn stream o ∧
          ∀ index segment, IsSlice isn stream True index segment →
            PushesAt o.receiver segment index := by
  intro recovers
  have start : Reaches Tracked.handle (OfStream ⟨7⟩ [97, 98, 99]) (Tracked.fresh 10)
    (Tracked.fresh 10) := .refl
  have one := start.tail (Arrival.syn { header := { syn := true, seqno := ⟨7⟩ } })
    ⟨rfl, rfl, rfl, rfl⟩ rfl
  have two := one.tail (Arrival.slice 0 { header := { seqno := ⟨8⟩ }, payload := [97] })
    ⟨rfl, by decide, rfl, rfl, rfl, by decide⟩ rfl
  have three := two.tail (Arrival.slice 1 { header := { seqno := ⟨9⟩ }, payload := [98] })
    ⟨rfl, by decide, rfl, rfl, rfl, by decide⟩ rfl
  have four := three.tail (Arrival.syn { header := { syn := true, seqno := ⟨7⟩ } })
    ⟨rfl, rfl, rfl, rfl⟩ rfl
  have five := four.tail (Arrival.slice 2 { header := { seqno := ⟨10⟩ }, payload := [99] })
    ⟨rfl, by decide, rfl, rfl, rfl, by decide⟩ rfl
  obtain ⟨n, ⟨⟨bounded, _⟩, greatest⟩, acknowledged⟩ :=
    (recovers ⟨7⟩ [97, 98, 99] 10 (by decide) _ five rfl).1
  have all : 3 ≤ n := by
    apply greatest
    refine ⟨by decide, fun j below => ?_⟩
    interval_cases j
    · exact Or.inl (Or.inl (Or.inr (by decide)))
    · exact Or.inl (Or.inr (by decide))
    · exact Or.inr (by decide)
  obtain rfl : n = 3 := Nat.le_antisymm bounded all
  exact absurd acknowledged (by decide)

end Sponge.TCPReceiver
