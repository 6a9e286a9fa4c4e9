import Sponge.Reception.Placement

/-!
# What comes next is taken

A receiver with room in its window that is given a segment which starts no later than
its next index has either more assembled after it, or all of the segment.
-/

namespace Sponge.TCPReceiver

open MachineInt Fragments FirstWrite StreamReassembler

variable {isn : WrappingInt32} {stream : Bytes} {closed : Prop} {capacity : Nat}
  {r r' : TCPReceiver} {readBytes : Bytes} {held : Nat → Option UInt8}

theorem Near.grow {longer : Bytes} (near : Near stream r) (isPart : stream <+: longer) :
    Near longer r := by
  have length := isPart.length_le
  rcases near with inside | below
  · exact .inl (by omega)
  · exact .inr below

/-- Once the SYN is there, it is counted, and so is the end of the stream. -/
theorem absAckno_of_recived (recived : r.synRecived = true) :
    r.absAckno = 1 + r.reassembler.nextIndex + (if r.streamOut.inputEnded then 1 else 0) :=
  if_neg (by simp [recived])

/-- What a placed segment does to the reassembler. -/
theorem push_of_place {segment : TCPSegment} {offsetStreamNo : Nat}
    (placed : r.place segment offsetStreamNo = some r') :
    r.reassembler.pushSubstring segment.payload
      (add64 (unwrap segment.header.seqno r.isn r.lastStreamNo) offsetStreamNo)
      segment.header.fin = some r'.reassembler := by
  obtain ⟨reassembler, pushed, rest⟩ := Option.bind_eq_some_iff.mp placed
  cases rest
  exact pushed

/-- The last byte is there: the FIN ends the stream if there is room. -/
theorem Sound.ended_of_fin (sound : Sound isn stream closed capacity r readBytes held)
    (half : stream.length + capacity + 2 < 2 ^ 31) (room : 0 < r.windowSize) {index : Nat}
    {segment : TCPSegment} (isSlice : IsSlice isn stream closed index segment)
    (isFin : segment.header.fin = true) (all : stream.length ≤ r.reassembler.nextIndex)
    {reassembler : StreamReassembler}
    (ran : r.reassembler.pushSubstring segment.payload index segment.header.fin =
      some reassembler) : reassembler.output.inputEnded = true := by
  have atEnd := (isSlice.final isFin).2
  have refines := sound.refines
  have length := refines.delivered_length
  have assembled := (assembled_le refines sound.agrees).1
  rw [List.length_append] at length
  -- nothing is offered beyond what is assembled
  have nothing : assign held r.reassembler.nextIndex (readBytes.length + capacity)
      segment.payload index = held :=
    assign_of_no_offer held fun j above _ => (valueAt_eq_none_iff _ _ _).mpr (.inr (by omega))
  obtain ⟨result, pushed, refines', noted⟩ := refines.push (by omega) segment.payload index
    segment.header.fin (by omega) (sound.writable (by rw [nothing]; exact sound.agrees))
  rw [ran] at pushed
  cases pushed
  rw [nothing] at refines'
  have stays : reassembler.nextIndex = stream.length := by
    rw [← refines'.next_held, refines.next_held]
    omega
  have none : {j | next held ≤ j ∧ held j ≠ none} = ∅ := by
    refine Set.eq_empty_iff_forall_notMem.mpr ?_
    rintro j ⟨above, present⟩
    obtain ⟨value, taken⟩ := Option.ne_none_iff_exists'.mp present
    obtain ⟨inside, _⟩ := List.getElem?_eq_some_iff.mp (sound.agrees j value taken)
    rw [refines'.next_held] at above
    omega
  have drained : reassembler.unassembledBytes = 0 := by
    rw [refines'.unassembled_eq, none, Set.ncard_empty]
  refine noted.ended_iff.mpr (.inr ⟨room, drained, ?_, ?_⟩)
  · rw [noted.eof_eq, isFin, Bool.or_true]
  · rw [noted.eofIndex_eq, if_pos isFin, add64_of_lt (by omega), atEnd, stays]

/-- A slice that starts no later than the next index. -/
theorem Sound.takes_slice (sound : Sound isn stream closed capacity r readBytes held)
    (half : stream.length + capacity + 2 < 2 ^ 31) (near : Near stream r)
    (recived : r.synRecived = true) (room : 0 < r.windowSize) {index : Nat} {segment : TCPSegment}
    (isSlice : IsSlice isn stream closed index segment)
    (reached : index ≤ r.reassembler.nextIndex) :
    ∃ r' held', r.segmentReceived segment = some r' ∧
      Sound isn stream closed capacity r' readBytes held' ∧ Near stream r' ∧
      r.absAckno ≤ r'.absAckno ∧
      (r.absAckno < r'.absAckno ∨
        index + 1 + segment.lengthInSequenceSpace ≤ r'.absAckno) := by
  have streamNo := near.streamNo_slice (by omega) isSlice
  have bounded := isSlice.bounded
  obtain ⟨r', placed, lastStreamNo, recived', forward, sound'⟩ :=
    sound.place_slice (by omega) (sound.started recived) isSlice (Nat.two_pow_pos 32)
      (by rw [Nat.zero_mul, Nat.add_zero]; exact streamNo)
  rw [Nat.zero_mul, Nat.add_zero] at lastStreamNo sound'
  have recivedAfter : r'.synRecived = true := recived'.trans recived
  refine ⟨r', _, (segmentReceived_of_recived recived segment).trans placed, sound',
    .inl (by omega), forward, ?_⟩
  have window := sound.refines.window
  have roomLeft : 0 < r.reassembler.output.remainingCapacity := room
  have ahead := sound.refines.nextIndex_le sound'.refines fun j value => assign_of_some _ _ _ _
  by_cases new : r.reassembler.nextIndex < index + segment.payload.length
  · -- the byte at the next index is offered, and the window has room for it
    left
    have taken : r.heldAfter held (readBytes.length + capacity) segment.payload index
        r.reassembler.nextIndex ≠ none :=
      (assign_ne_none_iff ..).mpr (.inr ⟨⟨reached, new⟩, Nat.le_refl _, by omega⟩)
    have moved : r.reassembler.nextIndex ≠ r'.reassembler.nextIndex := by
      intro same
      rw [same, sound'.refines.pending _ (Nat.le_refl _), sound'.refines.gap] at taken
      exact taken rfl
    have notEnded : r.streamOut.inputEnded = false := by
      rw [← Bool.not_eq_true]
      intro ended
      have complete := (sound.ended ended).2
      omega
    rw [absAckno_of_recived recived, absAckno_of_recived recivedAfter, notEnded,
      if_neg Bool.false_ne_true]
    omega
  · right
    rw [isSlice.length_eq, absAckno_of_recived recivedAfter]
    cases isFin : segment.header.fin with
    | false =>
        rw [Bool.toNat_false]
        omega
    | true =>
        have atEnd := (isSlice.final isFin).2
        have pushed := push_of_place placed
        rw [sound.started recived, streamNo] at pushed
        have ended : r'.streamOut.inputEnded = true :=
          sound.ended_of_fin half room isSlice isFin (by omega) pushed
        rw [ended, if_pos rfl, Bool.toNat_true]
        omega

/-- The SYN, for the first time or again, while the checkpoint is at the start. -/
theorem Sound.takes_syn (sound : Sound isn stream closed capacity r readBytes held)
    (machine : stream.length + capacity < 2 ^ 64) {segment : TCPSegment}
    (isSyn : IsSyn isn segment)
    (atStart : r.lastStreamNo = 0 ∨ r.lastStreamNo = 2 ^ 64 - 1) :
    ∃ r' held', r.segmentReceived segment = some r' ∧
      Sound isn stream closed capacity r' readBytes held' ∧ Near stream r' ∧
      r.absAckno ≤ r'.absAckno ∧ 1 ≤ r'.absAckno := by
  have counted : ∀ {r' : TCPReceiver}, r'.synRecived = true → 1 ≤ r'.absAckno := by
    intro r' recived
    rw [absAckno_of_recived recived]
    omega
  cases recived : r.synRecived with
  | true =>
      obtain ⟨r', placed, lastStreamNo, recived', forward, sound'⟩ :=
        sound.place_bare machine (sound.started recived) isSyn.bare isSyn.noFin (2 ^ 64 - 1)
      rw [isSyn.first, unwrap_syn isn atStart] at lastStreamNo
      exact ⟨r', held, (segmentReceived_of_recived recived segment).trans placed, sound',
        .inr lastStreamNo, forward, counted (recived'.trans recived)⟩
  | false =>
      obtain ⟨r', placed, lastStreamNo, recived', _, sound'⟩ :=
        sound.start.place_bare machine rfl isSyn.bare isSyn.noFin 0
      rw [isSyn.first, unwrap_syn isn atStart] at lastStreamNo
      refine ⟨r', held, ?_, sound', .inl ?_, ?_, counted recived'⟩
      · rw [TCPReceiver.segmentReceived, if_pos recived, if_pos isSyn.isSyn, isSyn.first]
        exact placed
      · exact Nat.le_trans (Nat.le_of_eq lastStreamNo) (Nat.zero_le _)
      · rw [absAckno, if_pos recived]
        exact Nat.zero_le _

end Sponge.TCPReceiver
