import Sponge.Model.TCPReceiver
import Sponge.Reassembly.Refinement
import Sponge.Segmentation

/-!
# A receiver never delivers wrong bytes

The receiver unwraps each sequence number against a checkpoint that every
segment overwrites, so the index it computes may be off.  It is off by a
multiple of one sequence-number cycle only: with the stream and the window
inside one cycle, a misplaced byte is outside the window and a misplaced end is
never reached.
-/

namespace Sponge

open MachineInt Fragments FirstWrite StreamReassembler

namespace TCPReceiver

/-- Everything the receiver holds comes from `stream`, and it only ends where `stream` does. -/
structure Sound (isn : WrappingInt32) (stream : Bytes) (closed : Prop) (capacity : Nat)
    (r : TCPReceiver) (readBytes : Bytes) (held : Nat → Option UInt8) : Prop where
  checkpoint : r.lastStreamNo < 2 ^ 64
  started : r.synRecived = true → r.isn = isn
  refines : Refines capacity r.reassembler readBytes held
  agrees : ∀ j value, held j = some value → stream[j]? = some value
  eof : r.reassembler.eof = true → closed ∧
    ∃ cycles, r.reassembler.eofIndex = stream.length + cycles * 2 ^ 32
  ended : r.streamOut.inputEnded = true → closed ∧ r.reassembler.nextIndex = stream.length

variable {isn : WrappingInt32} {stream : Bytes} {closed : Prop} {capacity : Nat}
  {r : TCPReceiver} {readBytes : Bytes} {held : Nat → Option UInt8}

theorem sound_new (isn : WrappingInt32) (stream : Bytes) (closed : Prop) (capacity : Nat) :
    Sound isn stream closed capacity (new capacity) [] (fun _ => none) where
  checkpoint := Nat.two_pow_pos 64
  started := fun absurd => by cases absurd
  refines := refines_new capacity
  agrees := fun _ _ absent => by cases absent
  eof := fun absurd => by cases absurd
  ended := fun absurd => by cases absurd

/-- Values that agree with `stream` on everything assembled make it a prefix. -/
theorem assembled_le {reassembler : StreamReassembler}
    (refines : Refines capacity reassembler readBytes held)
    (agrees : ∀ j value, held j = some value → stream[j]? = some value) :
    reassembler.nextIndex ≤ stream.length ∧
      readBytes ++ reassembler.output.buffer = stream.take reassembler.nextIndex := by
  have length := refines.delivered_length
  have same : ∀ j, j < reassembler.nextIndex →
      (readBytes ++ reassembler.output.buffer)[j]? = stream[j]? := by
    intro j below
    have present := refines.history j below
    rw [List.getElem?_eq_getElem (by omega)] at present ⊢
    exact (agrees j _ present).symm
  have bounded : reassembler.nextIndex ≤ stream.length := by
    by_contra beyond
    have past := same stream.length (by omega)
    rw [List.getElem?_eq_none (Nat.le_refl _), List.getElem?_eq_none_iff] at past
    omega
  refine ⟨bounded, List.ext_getElem? fun j => ?_⟩
  by_cases below : j < reassembler.nextIndex
  · rw [same j below, List.getElem?_take_of_lt below]
  · rw [List.getElem?_eq_none (by omega), List.getElem?_eq_none (by simp; omega)]

/-- The acknowledgment number as an absolute sequence number, 0 before the SYN. -/
def absAckno (r : TCPReceiver) : Nat :=
  if r.synRecived = false then 0
  else 1 + r.reassembler.nextIndex + (if r.streamOut.inputEnded then 1 else 0)

/-- What is held is never given up, so the acknowledgment number never goes back. -/
theorem Sound.absAckno_le {r' : TCPReceiver} {readBytes' : Bytes} {held' : Nat → Option UInt8}
    (sound : Sound isn stream closed capacity r readBytes held)
    (sound' : Sound isn stream closed capacity r' readBytes' held')
    (keeps : ∀ j value, held j = some value → held' j = some value)
    (recived : r.synRecived = true → r'.synRecived = true)
    (stays : r.streamOut.inputEnded = true → r'.streamOut.inputEnded = true) :
    r.absAckno ≤ r'.absAckno := by
  have forward := sound.refines.nextIndex_le sound'.refines keeps
  cases wasRecived : r.synRecived with
  | false => simp [absAckno, wasRecived]
  | true =>
      simp only [absAckno, wasRecived, recived wasRecived]
      cases wasEnded : r.streamOut.inputEnded with
      | false => simp; omega
      | true => simp [stays wasEnded, forward]

/-- The map after a push of `payload` at `streamNo` in the receiver's current window. -/
def heldAfter (r : TCPReceiver) (held : Nat → Option UInt8) (windowEnd : Nat) (payload : Bytes)
    (streamNo : Nat) : Nat → Option UInt8 :=
  assign held r.reassembler.nextIndex windowEnd payload streamNo

/-- Data that offers only bytes of the stream leaves only such bytes held. -/
theorem Sound.agrees_heldAfter (sound : Sound isn stream closed capacity r readBytes held)
    {payload : Bytes} {streamNo : Nat}
    (offers : ∀ j value, j < stream.length + capacity →
      valueAt payload streamNo j = some value → stream[j]? = some value) (j : Nat) (value : UInt8)
    (taken : r.heldAfter held (readBytes.length + capacity) payload streamNo j = some value) :
    stream[j]? = some value := by
  have length := sound.refines.delivered_length
  have nextLe := (assembled_le sound.refines sound.agrees).1
  rw [List.length_append] at length
  exact assign_agrees sound.agrees
    (fun j value _ below offer => offers j value (by omega) offer) taken

/-- An ended stream is complete: no byte of it stands at the next index. -/
theorem Sound.writable (sound : Sound isn stream closed capacity r readBytes held)
    {held' : Nat → Option UInt8}
    (agrees' : ∀ j value, held' j = some value → stream[j]? = some value) :
    r.reassembler.output.inputEnded = false ∨ held' r.reassembler.nextIndex = none := by
  cases isEnded : r.reassembler.output.inputEnded with
  | false => exact .inl rfl
  | true =>
      right
      rw [Option.eq_none_iff_forall_ne_some]
      intro value taken
      have past := agrees' _ value taken
      rw [(sound.ended isEnded).2, List.getElem?_eq_none (Nat.le_refl _)] at past
      cases past

/-- The end that a FIN makes known is the end of the stream, up to whole cycles. -/
theorem Sound.eof_noted (sound : Sound isn stream closed capacity r readBytes held)
    {reassembler : StreamReassembler} {payload : Bytes} {streamNo : Nat} {fin : Bool}
    (bound : streamNo + payload.length < 2 ^ 64)
    (noted : EndNoted r.reassembler reassembler payload streamNo fin)
    (final : fin = true → closed ∧
      ∃ cycles, streamNo + payload.length = stream.length + cycles * 2 ^ 32)
    (known : reassembler.eof = true) :
    closed ∧ ∃ cycles, reassembler.eofIndex = stream.length + cycles * 2 ^ 32 := by
  rw [noted.eof_eq, Bool.or_eq_true] at known
  rw [noted.eofIndex_eq]
  by_cases isFin : fin = true
  · rw [if_pos isFin, add64_of_lt bound]
    exact final isFin
  · rw [if_neg isFin]
    exact sound.eof (known.resolve_right isFin)

/-- Pushing data that offers only bytes of the stream keeps the receiver sound. -/
theorem Sound.place (sound : Sound isn stream closed capacity r readBytes held)
    (machine : stream.length + capacity < 2 ^ 64) (started : r.isn = isn)
    (segment : TCPSegment) (offsetStreamNo : Nat)
    {streamNo : Nat}
    (streamNo_eq : streamNo = add64 (unwrap segment.header.seqno isn r.lastStreamNo) offsetStreamNo)
    (bound : streamNo + segment.payload.length < 2 ^ 64)
    (offers : ∀ j value, j < stream.length + capacity →
      valueAt segment.payload streamNo j = some value → stream[j]? = some value)
    (final : segment.header.fin = true → closed ∧
      ∃ cycles, streamNo + segment.payload.length = stream.length + cycles * 2 ^ 32) :
    ∃ r', r.place segment offsetStreamNo = some r' ∧ r'.lastStreamNo = streamNo ∧
      r'.synRecived = r.synRecived ∧ r.absAckno ≤ r'.absAckno ∧
      Sound isn stream closed capacity r' readBytes
        (r.heldAfter held (readBytes.length + capacity) segment.payload streamNo) := by
  have refines := sound.refines
  have nextLe := (assembled_le refines sound.agrees).1
  have length := refines.delivered_length
  rw [List.length_append] at length
  have newAgrees := sound.agrees_heldAfter offers
  obtain ⟨reassembler, pushed, refines', noted⟩ :=
    refines.push (by omega) segment.payload streamNo segment.header.fin bound
      (sound.writable newAgrees)
  have nextLe' := (assembled_le refines' newAgrees).1
  have newEof := sound.eof_noted bound noted final
  have sound' : Sound isn stream closed capacity
      { r with lastStreamNo := streamNo, reassembler := reassembler } readBytes
      (r.heldAfter held (readBytes.length + capacity) segment.payload streamNo) := by
    refine ⟨by dsimp only; omega, fun _ => started, refines', newAgrees, newEof, ?_⟩
    intro isEnded
    rcases noted.ended_iff.mp isEnded with already | ⟨_, _, known, reachedEnd⟩
    · obtain ⟨isClosed, complete⟩ := sound.ended already
      refine ⟨isClosed, Nat.le_antisymm nextLe' ?_⟩
      rw [← complete]
      exact refines.nextIndex_le refines' fun j value => assign_of_some _ _ _ _
    · obtain ⟨isClosed, cycles, atIndex⟩ := newEof known
      exact ⟨isClosed, by dsimp only; omega⟩
  refine ⟨{ r with lastStreamNo := streamNo, reassembler := reassembler }, ?_, rfl, rfl,
    sound.absAckno_le sound' (fun j value => assign_of_some _ _ _ _) id
      fun wasEnded => noted.ended_iff.mpr (Or.inl wasEnded), sound'⟩
  simp only [TCPReceiver.place, started, ← streamNo_eq, pushed]
  rfl

/-- The computed index of a slice is its true index, up to whole cycles. -/
theorem streamNo_of_slice (isn : WrappingInt32) {checkpoint index : Nat}
    (bound : checkpoint < 2 ^ 64) (small : index + 1 < 2 ^ 32) :
    ∃ cycles < 2 ^ 32,
      add64 (unwrap (wrap (index + 1) isn) isn checkpoint) (2 ^ 64 - 1) =
        index + cycles * 2 ^ 32 := by
  obtain ⟨residue, large⟩ := unwrap_mod (wrap (index + 1) isn) isn bound
  rw [offset_wrap] at residue
  refine ⟨(unwrap (wrap (index + 1) isn) isn checkpoint) / 2 ^ 32, by omega, ?_⟩
  unfold add64
  omega

/-- A segment without payload and FIN offers nothing, wherever it is placed. -/
theorem Sound.place_bare (sound : Sound isn stream closed capacity r readBytes held)
    (machine : stream.length + capacity < 2 ^ 64) (started : r.isn = isn)
    {segment : TCPSegment} (bare : segment.payload = []) (noFin : segment.header.fin = false)
    (offsetStreamNo : Nat) :
    ∃ r', r.place segment offsetStreamNo = some r' ∧
      r'.lastStreamNo = add64 (unwrap segment.header.seqno isn r.lastStreamNo) offsetStreamNo ∧
      r'.synRecived = r.synRecived ∧ r.absAckno ≤ r'.absAckno ∧
      Sound isn stream closed capacity r' readBytes held := by
  obtain ⟨r', placed, lastStreamNo, recived, forward, sound'⟩ :=
    sound.place machine started segment offsetStreamNo rfl (by simpa [bare] using add64_lt _ _)
      (by simp [bare]) (by simp [noFin])
  rw [heldAfter, bare, assign_of_no_offer held fun j _ _ => by simp] at sound'
  exact ⟨r', placed, lastStreamNo, recived, forward, sound'⟩

/-- The first SYN fixes the initial sequence number. -/
theorem Sound.start (sound : Sound isn stream closed capacity r readBytes held) :
    Sound isn stream closed capacity { r with synRecived := true, isn := isn } readBytes held :=
  ⟨sound.checkpoint, fun _ => rfl, sound.refines, sound.agrees, sound.eof, sound.ended⟩

/-- A slice placed at its index, up to whole cycles, keeps the receiver sound. -/
theorem Sound.place_slice (sound : Sound isn stream closed capacity r readBytes held)
    (cycle : stream.length + capacity + 2 < 2 ^ 32) (started : r.isn = isn)
    {segment : TCPSegment} {index cycles : Nat} (isSlice : IsSlice isn stream closed index segment)
    (few : cycles < 2 ^ 32)
    (streamNo : add64 (unwrap segment.header.seqno isn r.lastStreamNo) (2 ^ 64 - 1) =
      index + cycles * 2 ^ 32) :
    ∃ r', r.place segment (2 ^ 64 - 1) = some r' ∧ r'.lastStreamNo = index + cycles * 2 ^ 32 ∧
      r'.synRecived = r.synRecived ∧ r.absAckno ≤ r'.absAckno ∧
      Sound isn stream closed capacity r' readBytes
        (r.heldAfter held (readBytes.length + capacity) segment.payload
          (index + cycles * 2 ^ 32)) := by
  have bounded := isSlice.bounded
  -- an offer inside the window is an offer at the true index
  have offers : ∀ j value, j < stream.length + capacity →
      valueAt segment.payload (index + cycles * 2 ^ 32) j = some value →
      stream[j]? = some value := by
    intro j value below offer
    have offered : valueAt segment.payload (index + cycles * 2 ^ 32) j ≠ none := by
      rw [offer]
      exact Option.some_ne_none _
    rw [ne_eq, valueAt_eq_none_iff] at offered
    obtain rfl : cycles = 0 := by omega
    rw [Nat.zero_mul, Nat.add_zero, valueAt, if_pos (by omega), isSlice.genuine,
      List.getElem?_take_of_lt (by omega), List.getElem?_drop] at offer
    rwa [Nat.add_sub_cancel' (by omega)] at offer
  exact sound.place (by omega) started segment (2 ^ 64 - 1) streamNo.symm (by omega) offers
    fun isFin => ⟨(isSlice.final isFin).1, cycles, by have stop := (isSlice.final isFin).2; omega⟩

/-- A genuine segment is handled without an exception and keeps the receiver sound. -/
theorem Sound.segmentReceived (sound : Sound isn stream closed capacity r readBytes held)
    (cycle : stream.length + capacity + 2 < 2 ^ 32) {segment : TCPSegment}
    (genuine : Genuine isn stream closed segment) :
    ∃ r' held', r.segmentReceived segment = some r' ∧ r.absAckno ≤ r'.absAckno ∧
      Sound isn stream closed capacity r' readBytes held' := by
  have machine : stream.length + capacity < 2 ^ 64 := by omega
  by_cases recived : r.synRecived = true
  · have started := sound.started recived
    rw [TCPReceiver.segmentReceived, if_neg (by simp [recived])]
    cases genuine with
    | syn isSyn =>
        obtain ⟨r', placed, _, _, forward, sound'⟩ :=
          sound.place_bare machine started isSyn.bare isSyn.noFin (2 ^ 64 - 1)
        exact ⟨r', held, placed, forward, sound'⟩
    | empty _ _ _ noFin bare _ =>
        obtain ⟨r', placed, _, _, forward, sound'⟩ :=
          sound.place_bare machine started bare noFin (2 ^ 64 - 1)
        exact ⟨r', held, placed, forward, sound'⟩
    | slice index isSlice =>
        have bounded := isSlice.bounded
        obtain ⟨cycles, few, streamNo⟩ :=
          streamNo_of_slice isn sound.checkpoint (show index + 1 < 2 ^ 32 by omega)
        rw [← isSlice.placed] at streamNo
        obtain ⟨r', placed, _, _, forward, sound'⟩ :=
          sound.place_slice cycle started isSlice few streamNo
        exact ⟨r', _, placed, forward, sound'⟩
  · have notYet : r.synRecived = false := by simpa using recived
    have first : r.absAckno = 0 := if_pos notYet
    rw [TCPReceiver.segmentReceived, if_pos notYet]
    cases genuine with
    | syn isSyn =>
        obtain ⟨r', placed, _, _, _, sound'⟩ :=
          sound.start.place_bare machine rfl isSyn.bare isSyn.noFin 0
        refine ⟨r', held, ?_, by rw [first]; exact Nat.zero_le _, sound'⟩
        rw [if_pos isSyn.isSyn, isSyn.first]
        exact placed
    | empty _ _ noSyn _ _ _ => exact ⟨r, held, by simp [noSyn], Nat.le_refl _, sound⟩
    | slice _ isSlice => exact ⟨r, held, by simp [isSlice.noSyn], Nat.le_refl _, sound⟩

theorem Sound.popStreamOut (sound : Sound isn stream closed capacity r readBytes held)
    (len : Nat) :
    Sound isn stream closed capacity (r.popStreamOut len)
      (readBytes ++ r.streamOut.peekOutput len) held :=
  ⟨sound.checkpoint, sound.started, sound.refines.read len, sound.agrees, sound.eof, sound.ended⟩

/-- The error flag is no part of what the receiver holds. -/
theorem Sound.setError (sound : Sound isn stream closed capacity r readBytes held) :
    Sound isn stream closed capacity
      { r with reassembler := { r.reassembler with output := r.reassembler.output.setError } }
      readBytes held := by
  have refines := sound.refines
  exact ⟨sound.checkpoint, sound.started, ⟨⟨refines.capacity_eq, refines.next_eq, refines.read_eq,
    refines.history, refines.pending, refines.separated⟩, refines.gap⟩, sound.agrees, sound.eof,
    sound.ended⟩

/-- What the receiver holds of a stream it holds of every longer one. -/
theorem Sound.grow {longer : Bytes} {closed' : Prop}
    (sound : Sound isn stream closed capacity r readBytes held) (isPart : stream <+: longer)
    (frozen : closed → closed' ∧ longer = stream) :
    Sound isn longer closed' capacity r readBytes held := by
  refine ⟨sound.checkpoint, sound.started, sound.refines, fun j value present => ?_,
    fun known => ?_, fun isEnded => ?_⟩
  · obtain ⟨extra, rfl⟩ := isPart
    have inStream := sound.agrees j value present
    obtain ⟨inside, _⟩ := List.getElem?_eq_some_iff.mp inStream
    rw [List.getElem?_append_left inside, inStream]
  · obtain ⟨isClosed, atEnd⟩ := sound.eof known
    rw [(frozen isClosed).2]
    exact ⟨(frozen isClosed).1, atEnd⟩
  · obtain ⟨isClosed, complete⟩ := sound.ended isEnded
    rw [(frozen isClosed).2]
    exact ⟨(frozen isClosed).1, complete⟩

/-- What a sound receiver has delivered is a prefix of the stream, and all of it at the end. -/
theorem Sound.delivered (sound : Sound isn stream closed capacity r readBytes held) :
    (readBytes ++ r.streamOut.buffer) <+: stream ∧
      (r.streamOut.inputEnded = true → closed ∧ readBytes ++ r.streamOut.buffer = stream) := by
  obtain ⟨bounded, taken⟩ := assembled_le sound.refines sound.agrees
  rw [streamOut, taken]
  refine ⟨List.take_prefix _ _, fun isEnded => ?_⟩
  obtain ⟨isClosed, complete⟩ := sound.ended isEnded
  exact ⟨isClosed, by rw [complete, List.take_length]⟩

/-- The acknowledgment number, once there is one, is the absolute one wrapped. -/
theorem Sound.ackno_eq (sound : Sound isn stream closed capacity r readBytes held)
    (machine : stream.length + 2 < 2 ^ 64) (recived : r.synRecived = true) :
    r.ackno = some (wrap r.absAckno isn) := by
  have bounded := (assembled_le sound.refines sound.agrees).1
  have flag : (if r.streamOut.inputEnded then 1 else 0) ≤ 1 := by split <;> decide
  rw [absAckno, if_neg (by simp [recived]), ackno, if_neg (by simp [recived]),
    sound.started recived, if_pos recived, getNextIndex]
  dsimp only
  rw [add64_of_lt (by omega), ← Nat.add_assoc, Nat.add_comm 1]

theorem Sound.absAckno_bound (sound : Sound isn stream closed capacity r readBytes held) :
    r.absAckno ≤ stream.length + 2 := by
  have bounded := (assembled_le sound.refines sound.agrees).1
  unfold absAckno
  split
  · omega
  · split <;> omega

/-! ## Runs -/

/-- A segment arrives, or the application reads. -/
inductive Call where
  | segment (segment : TCPSegment)
  | read (len : Nat)

/-- A receiver with the bytes that have been read from it. -/
structure Observed where
  receiver : TCPReceiver
  readBytes : Bytes

def Observed.fresh (capacity : Nat) : Observed := ⟨new capacity, []⟩

def Observed.call (o : Observed) : Call → Option Observed
  | .segment segment => do
      let receiver ← o.receiver.segmentReceived segment
      some ⟨receiver, o.readBytes⟩
  | .read len =>
      some ⟨o.receiver.popStreamOut len, o.readBytes ++ o.receiver.streamOut.peekOutput len⟩

/-- Only segments of the peer's stream arrive, in any order and any number of times. -/
def FromPeer (isn : WrappingInt32) (stream : Bytes) (_ : Observed) : Call → Prop
  | .segment segment => Genuine isn stream True segment
  | .read _ => True

theorem Sound.call {o : Observed}
    (sound : Sound isn stream True capacity o.receiver o.readBytes held)
    (cycle : stream.length + capacity + 2 < 2 ^ 32) {call : Call}
    (fromPeer : FromPeer isn stream o call) :
    ∃ o' held', o.call call = some o' ∧
      Sound isn stream True capacity o'.receiver o'.readBytes held' := by
  cases call with
  | segment segment =>
      obtain ⟨r', held', received, _, sound'⟩ := sound.segmentReceived cycle fromPeer
      exact ⟨⟨r', o.readBytes⟩, held', by simp [Observed.call, received], sound'⟩
  | read len => exact ⟨_, held, rfl, sound.popStreamOut len⟩

theorem sound_of_reaches {o : Observed} (cycle : stream.length + capacity + 2 < 2 ^ 32)
    (reached : Reaches Observed.call (FromPeer isn stream) (Observed.fresh capacity) o) :
    ∃ held, Sound isn stream True capacity o.receiver o.readBytes held := by
  refine reached.invariant
    (fun o => ∃ held, Sound isn stream True capacity o.receiver o.readBytes held)
    ⟨_, sound_new isn stream True capacity⟩ ?_
  rintro state call final ⟨held, sound⟩ fromPeer next
  obtain ⟨o', held', called, sound'⟩ := sound.call cycle fromPeer
  rw [called] at next
  cases next
  exact ⟨held', sound'⟩

/--
However the peer's stream is cut, reordered, repeated or lost, the bytes read and
buffered are a prefix of it, the input ends only when all of it has been
written, and no further segment makes the receiver throw.
-/
theorem receiver_delivers_only_stream (isn : WrappingInt32) (stream : Bytes) (capacity : Nat)
    (cycle : stream.length + capacity + 2 < 2 ^ 32) {o : Observed}
    (reached : Reaches Observed.call (FromPeer isn stream) (Observed.fresh capacity) o) :
    (o.readBytes ++ o.receiver.streamOut.buffer) <+: stream ∧
      (o.receiver.streamOut.inputEnded = true →
        o.receiver.streamOut.bytesWritten = stream.length ∧
          o.readBytes ++ o.receiver.streamOut.buffer = stream) ∧
      ∀ call, FromPeer isn stream o call → ∃ o', o.call call = some o' := by
  obtain ⟨held, sound⟩ := sound_of_reaches cycle reached
  obtain ⟨isPart, whenEnded⟩ := sound.delivered
  refine ⟨isPart, fun isEnded => ⟨?_, (whenEnded isEnded).2⟩, ?_⟩
  · rw [← (sound.ended isEnded).2, sound.refines.next_eq]
    rfl
  · intro call fromPeer
    obtain ⟨o', _, called, _⟩ := sound.call cycle fromPeer
    exact ⟨o', called⟩

/-- The two bytes of a stream arriving in the wrong order are delivered in the right one. -/
theorem receiver_delivers_only_stream_reordered :
    ∃ o, Reaches Observed.call (FromPeer ⟨7⟩ [97, 98]) (Observed.fresh 4) o ∧
      o.receiver.streamOut.buffer = [97, 98] ∧
      (o.readBytes ++ o.receiver.streamOut.buffer) <+: [97, 98] := by
  have start : Reaches Observed.call (FromPeer ⟨7⟩ [97, 98]) (Observed.fresh 4)
    (Observed.fresh 4) := .refl
  have one := start.tail (Call.segment { header := { syn := true, seqno := ⟨7⟩ } })
    (.syn ⟨rfl, rfl, rfl, rfl⟩) rfl
  have two := one.tail (Call.segment { header := { seqno := ⟨9⟩ }, payload := [98] })
    (.slice 1 ⟨by decide, rfl, rfl, rfl, by decide⟩) rfl
  have three := two.tail (Call.segment { header := { seqno := ⟨8⟩ }, payload := [97] })
    (.slice 0 ⟨by decide, rfl, rfl, rfl, by decide⟩) rfl
  exact ⟨_, three, rfl, (receiver_delivers_only_stream ⟨7⟩ [97, 98] 4 (by decide) three).1⟩

end TCPReceiver

end Sponge
