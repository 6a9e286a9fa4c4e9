import Sponge.Reception.Arrival
import Sponge.Reception.Placement

/-!
# A SYN that carries data

The first SYN is pushed at index 0.  Every later segment is pushed one below its
absolute sequence number, and a repeated SYN with it: its payload then starts at
`2 ^ 64 - 1`, or one below a later cycle, its bytes are dropped, and a FIN on it
names an end one before the true one.  `RepeatsData` is that step; a repeated
SYN without payload and FIN does no harm.
-/

namespace Sponge.TCPReceiver

open MachineInt Fragments FirstWrite StreamReassembler

/-- A SYN with a prefix of the stream, and with the FIN only if that is all of it. -/
structure IsSynData (isn : WrappingInt32) (stream : Bytes) (segment : TCPSegment) : Prop where
  isSyn : segment.header.syn = true
  first : segment.header.seqno = isn
  bounded : segment.payload.length ≤ stream.length
  genuine : segment.payload = stream.take segment.payload.length
  final : segment.header.fin = true → segment.payload.length = stream.length

/-- Segments of the peer's stream arrive, the SYN with or without data. -/
def FromPeerWithData (isn : WrappingInt32) (stream : Bytes) (_ : Observed) : Call → Prop
  | .segment segment => IsSynData isn stream segment ∨ Genuine isn stream True segment
  | .read _ => True

/-- A SYN is repeated and carries payload or the FIN. -/
def RepeatsData (r : TCPReceiver) (segment : TCPSegment) : Prop :=
  r.synRecived = true ∧ segment.header.syn = true ∧
    (segment.payload ≠ [] ∨ segment.header.fin = true)

/-- No SYN is repeated with data. -/
def SynDataOnce (o : Observed) : Call → Prop
  | .segment segment => ¬ o.receiver.RepeatsData segment
  | .read _ => True

/-- What the segment carries is taken to start at the beginning of the stream. -/
def TakenAtStart (r : TCPReceiver) (segment : TCPSegment) : Prop :=
  (segment.payload = [] ∧ segment.header.fin = false) ∨ r.streamNo segment = 0

/-- Every byte the segment offers inside the window is stored or written. -/
def TakesWindow (r r' : TCPReceiver) (segment : TCPSegment) : Prop :=
  ∀ j < segment.payload.length, j < r.reassembler.nextIndex + r.windowSize →
    j < r'.reassembler.nextIndex ∨ lookup r'.reassembler.reassembler j ≠ none

/-- The receiver is sound, and its checkpoint has not moved before the SYN. -/
structure SoundFromStart (isn : WrappingInt32) (stream : Bytes) (capacity : Nat)
    (o : Observed) (held : Nat → Option UInt8) : Prop where
  sound : Sound isn stream True capacity o.receiver o.readBytes held
  unstarted : o.receiver.synRecived = false → o.receiver.lastStreamNo = 0

variable {isn : WrappingInt32} {stream : Bytes} {capacity : Nat} {o : Observed}
  {held : Nat → Option UInt8} {segment : TCPSegment}

/-- A SYN is pushed at index 0 if it is the first and never otherwise. -/
theorem streamNo_of_syn (checkpoint : o.receiver.lastStreamNo < 2 ^ 64)
    (started : o.receiver.synRecived = true → o.receiver.isn = isn)
    (unstarted : o.receiver.synRecived = false → o.receiver.lastStreamNo = 0)
    (first : segment.header.seqno = isn) :
    o.receiver.streamNo segment = 0 ↔ o.receiver.synRecived = false := by
  unfold streamNo
  cases recived : o.receiver.synRecived with
  | false =>
      rw [if_pos rfl, unstarted recived, unwrap_syn _ (Or.inl rfl)]
      exact ⟨fun _ => rfl, fun _ => rfl⟩
  | true =>
      obtain ⟨residue, _⟩ := unwrap_mod isn isn checkpoint
      rw [offset_self] at residue
      rw [if_neg Bool.noConfusion, started recived, first]
      refine ⟨fun zero => ?_, fun absurd => by cases absurd⟩
      unfold add64 at zero
      omega

theorem SoundFromStart.takenAtStart_iff (invariant : SoundFromStart isn stream capacity o held)
    (isSynData : IsSynData isn stream segment) :
    TakenAtStart o.receiver segment ↔ ¬ o.receiver.RepeatsData segment := by
  rw [TakenAtStart, RepeatsData, streamNo_of_syn invariant.sound.checkpoint
    invariant.sound.started invariant.unstarted isSynData.first, and_iff_right isSynData.isSyn]
  cases o.receiver.synRecived <;> cases segment.header.fin <;> simp [Decidable.not_not]

/-- The first SYN puts its payload at the start of the stream. -/
theorem SoundFromStart.firstSyn (invariant : SoundFromStart isn stream capacity o held)
    (small : stream.length + capacity < 2 ^ 31) (isSynData : IsSynData isn stream segment)
    (unstarted : o.receiver.synRecived = false) :
    ∃ r' held', o.receiver.segmentReceived segment = some r' ∧
      Sound isn stream True capacity r' o.readBytes held' := by
  have atStart : unwrap segment.header.seqno isn o.receiver.lastStreamNo = 0 := by
    rw [isSynData.first, invariant.unstarted unstarted, unwrap_syn _ (Or.inl rfl)]
  have bounded := isSynData.bounded
  obtain ⟨r', placed, _, _, _, sound⟩ :=
    invariant.sound.start.place (by omega) rfl segment 0
      (show 0 = _ by rw [atStart]; rfl) (by omega)
      (fun j value _ offer => by
        rw [valueAt, if_pos (Nat.zero_le _), isSynData.genuine, Nat.sub_zero] at offer
        obtain ⟨inside, _⟩ := List.getElem?_eq_some_iff.mp offer
        rw [List.length_take] at inside
        rwa [List.getElem?_take_of_lt (by omega)] at offer)
      (fun isFin => ⟨trivial, 0, by have stop := isSynData.final isFin; omega⟩)
  refine ⟨r', _, ?_, sound⟩
  rw [segmentReceived, if_pos unstarted, if_pos isSynData.isSyn, isSynData.first]
  exact placed

theorem SoundFromStart.call (invariant : SoundFromStart isn stream capacity o held)
    (small : stream.length + capacity < 2 ^ 31) {call : Call}
    (fromPeer : FromPeerWithData isn stream o call) (once : SynDataOnce o call) :
    ∃ o' held', o.call call = some o' ∧ SoundFromStart isn stream capacity o' held' := by
  cases call with
  | read len => exact ⟨_, held, rfl, invariant.sound.popStreamOut len, invariant.unstarted⟩
  | segment segment =>
      have received : ∃ r' held', o.receiver.segmentReceived segment = some r' ∧
          Sound isn stream True capacity r' o.readBytes held' := by
        rcases fromPeer with isSynData | genuine
        · cases recived : o.receiver.synRecived with
          | false => exact invariant.firstSyn small isSynData recived
          | true =>
              have empty : segment.payload = [] ∧ segment.header.fin = false := by
                have bare := not_or.mp fun data => once ⟨recived, isSynData.isSyn, data⟩
                exact ⟨not_not.mp bare.1, by simpa using bare.2⟩
              obtain ⟨r', placed, _, _, _, sound⟩ := invariant.sound.place_bare (by omega)
                (invariant.sound.started recived) empty.1 empty.2 (2 ^ 64 - 1)
              refine ⟨r', held, ?_, sound⟩
              rw [segmentReceived, if_neg (by simp [recived])]
              exact placed
        · obtain ⟨r', held', received, _, sound⟩ :=
            invariant.sound.segmentReceived (by omega) genuine
          exact ⟨r', held', received, sound⟩
      obtain ⟨r', held', received, sound⟩ := received
      refine ⟨⟨r', o.readBytes⟩, held', by simp [Observed.call, received], sound, ?_⟩
      intro unstarted
      obtain rfl := segmentReceived_unstarted received unstarted
      exact invariant.unstarted unstarted

theorem soundFromStart_of_reaches (small : stream.length + capacity < 2 ^ 31)
    (reached : Reaches Observed.call
      (fun o call => FromPeerWithData isn stream o call ∧ SynDataOnce o call)
      (Observed.fresh capacity) o) : ∃ held, SoundFromStart isn stream capacity o held := by
  refine reached.invariant (fun o => ∃ held, SoundFromStart isn stream capacity o held)
    ⟨_, sound_new isn stream True capacity, fun _ => rfl⟩ ?_
  rintro state call final ⟨held, invariant⟩ ⟨fromPeer, once⟩ next
  obtain ⟨o', held', called, invariant'⟩ := invariant.call small fromPeer once
  rw [called] at next
  cases next
  exact ⟨held', invariant'⟩

/-- A segment pushed at the start of the stream has its bytes in the window taken. -/
theorem takesWindow {r r' : TCPReceiver}
    (arrived : Arrived r segment r') (handled : ¬ r.Ignores segment)
    (atStart : TakenAtStart r segment)
    (inRange : segment.payload.length < 2 ^ 64 ∧
      r.reassembler.nextIndex + r.windowSize < 2 ^ 64) : TakesWindow r r' segment := by
  intro j inPayload inWindow
  rcases atStart with ⟨empty, _⟩ | atStart
  · rw [empty] at inPayload
    exact absurd inPayload (Nat.not_lt_zero j)
  cases arrived with
  | ignored ignored => exact absurd ignored handled
  | pushed _ reassembler out pushed =>
      by_cases before : j < r.reassembler.nextIndex
      · left
        change j < reassembler.nextIndex
        rw [pushed.next_eq]
        omega
      · have taken : r.reassembler.accepted segment.payload (r.streamNo segment) j ≠ none := by
          have windowSize : r.windowSize = r.reassembler.output.remainingCapacity := rfl
          rw [atStart, accepted, if_pos (by omega), assign_ne_none_iff]
          right
          omega
        exact ((pushed.accepted_ne_none_iff j).mp taken).imp_left And.right

/--
In every run in which no SYN is repeated with data, the input ends only when all
of the stream is written; and in each state a SYN is taken to start at the
beginning of the stream, with its bytes in the window accepted, exactly if it
does not repeat data.
-/
theorem syn_data_starts_stream (isn : WrappingInt32) (stream : Bytes) (capacity : Nat)
    (small : stream.length + capacity < 2 ^ 31) {o : Observed}
    (reached : Reaches Observed.call
      (fun o call => FromPeerWithData isn stream o call ∧ SynDataOnce o call)
      (Observed.fresh capacity) o) :
    (o.receiver.streamOut.inputEnded = true →
        o.receiver.streamOut.bytesWritten = stream.length) ∧
      ∀ segment, IsSynData isn stream segment →
        (TakenAtStart o.receiver segment ↔ ¬ o.receiver.RepeatsData segment) ∧
        (¬ o.receiver.RepeatsData segment → ∃ r',
          o.receiver.segmentReceived segment = some r' ∧ TakesWindow o.receiver r' segment) := by
  obtain ⟨held, invariant⟩ := soundFromStart_of_reaches small reached
  have refines := invariant.sound.refines
  have window := refines.window
  have readLe : o.readBytes.length ≤ stream.length := by
    have delivered := (invariant.sound.delivered).1.length_le
    rw [List.length_append] at delivered
    omega
  refine ⟨fun ended => ?_, fun segment isSynData => ?_⟩
  · rw [← (invariant.sound.ended ended).2, refines.next_eq]
    rfl
  · have exactly := invariant.takenAtStart_iff isSynData
    refine ⟨exactly, fun once => ?_⟩
    have stored := refines.stored (by omega)
    have short := isSynData.bounded
    have windowSize : o.receiver.windowSize = o.receiver.reassembler.output.remainingCapacity :=
      rfl
    obtain ⟨r', received, arrived⟩ := exists_arrived stored
      (show segment.payload.length < 2 ^ 64 by omega)
    refine ⟨r', received, takesWindow arrived (fun ignored => ?_) (exactly.mpr once) (by omega)⟩
    exact Bool.noConfusion (ignored.2.symm.trans isSynData.isSyn)

/-- A SYN with the whole stream, then the rest of it again as a slice once there is room. -/
theorem syn_data_starts_stream_reopened :
    ∃ o, Reaches Observed.call
        (fun o call => FromPeerWithData ⟨7⟩ [97, 98] o call ∧ SynDataOnce o call)
        (Observed.fresh 1) o ∧
      o.receiver.streamOut.inputEnded = true ∧ o.receiver.streamOut.bytesWritten = 2 := by
  have start : Reaches Observed.call
    (fun o call => FromPeerWithData ⟨7⟩ [97, 98] o call ∧ SynDataOnce o call)
    (Observed.fresh 1) (Observed.fresh 1) := .refl
  have one := start.tail (Call.segment
    { header := { syn := true, fin := true, seqno := ⟨7⟩ }, payload := [97, 98] })
    ⟨Or.inl ⟨rfl, rfl, by decide, rfl, fun _ => rfl⟩, fun repeated => absurd repeated.1 (by decide)⟩
    rfl
  have two := one.tail (Call.read 1) ⟨trivial, trivial⟩ rfl
  have three := two.tail (Call.segment
    { header := { fin := true, seqno := ⟨9⟩ }, payload := [98] })
    ⟨Or.inr (.slice 1 ⟨by decide, rfl, rfl, rfl, fun _ => ⟨trivial, rfl⟩⟩),
      fun repeated => absurd repeated.2.1 (by decide)⟩ rfl
  exact ⟨_, three, rfl, (syn_data_starts_stream ⟨7⟩ [97, 98] 1 (by decide) three).1 rfl⟩

/-- The same SYN again, once the window has reopened, ends the input one byte early. -/
theorem repeated_syn_data_ends_early :
    ¬ ∀ (isn : WrappingInt32) (stream : Bytes) (capacity : Nat),
      stream.length + capacity < 2 ^ 31 →
      ∀ o, Reaches Observed.call (FromPeerWithData isn stream) (Observed.fresh capacity) o →
        o.receiver.streamOut.inputEnded = true →
          o.receiver.streamOut.bytesWritten = stream.length := by
  intro complete
  have start : Reaches Observed.call (FromPeerWithData ⟨7⟩ [97, 98]) (Observed.fresh 1)
    (Observed.fresh 1) := .refl
  have one := start.tail (Call.segment
    { header := { syn := true, fin := true, seqno := ⟨7⟩ }, payload := [97, 98] })
    (Or.inl ⟨rfl, rfl, by decide, rfl, fun _ => rfl⟩) rfl
  have two := one.tail (Call.read 1) trivial rfl
  have three := two.tail (Call.segment
    { header := { syn := true, fin := true, seqno := ⟨7⟩ }, payload := [97, 98] })
    (Or.inl ⟨rfl, rfl, by decide, rfl, fun _ => rfl⟩) rfl
  exact absurd (complete ⟨7⟩ [97, 98] 1 (by decide) _ three rfl) (by decide)

end Sponge.TCPReceiver
