import Sponge.Reassembly.Fit

/-!
# One push of the reassembler, whatever its arguments

`Stored` is the representation invariant between calls.  `Pushed` says all that
one call of `push_substring` does from such a state: which offers are taken,
which bytes leave the fragments in order, and when the output is ended.  Nothing
is assumed of the index, the data or the output, so that an index sum may pass
`2 ^ 64`, contents may conflict, and bytes may come after the end of the stream;
the output then refuses them, and the next index moves all the same.
-/

namespace Sponge.StreamReassembler

open MachineInt Fragments FirstWrite

/-- The fragments lie behind a gap at the next index, in the window and below `2 ^ 64`. -/
structure Stored (r : StreamReassembler) : Prop where
  capacity_lt : r.output.capacity < 2 ^ 64
  separated : Separated (min (r.nextIndex + r.output.remainingCapacity) (2 ^ 64 - 1))
    r.nextIndex r.reassembler
  gap : lookup r.reassembler r.nextIndex = none

theorem stored_new {capacity : Nat} (bounded : capacity < 2 ^ 64) : Stored (new capacity) where
  capacity_lt := bounded
  separated := Nat.zero_le _
  gap := rfl

/-- What is stored once the offers of a substring are taken; past `2 ^ 64` none of them is. -/
def accepted (r : StreamReassembler) (data : Bytes) (index : Nat) : Nat → Option UInt8 :=
  if index + data.length < 2 ^ 64 ∧ r.nextIndex + r.output.remainingCapacity < 2 ^ 64 then
    assign (lookup r.reassembler) r.nextIndex (r.nextIndex + r.output.remainingCapacity) data index
  else lookup r.reassembler

/-- What a push does to the end of the stream. -/
structure EndNoted (r r' : StreamReassembler) (data : Bytes) (index : Nat) (eof : Bool) :
    Prop where
  eof_eq : r'.eof = (r.eof || eof)
  eofIndex_eq : r'.eofIndex = if eof then add64 index data.length else r.eofIndex
  error_eq : r'.output.error = r.output.error
  ended_iff : r'.output.inputEnded = true ↔ r.output.inputEnded = true ∨
    (0 < r.output.remainingCapacity ∧ r'.unassembledBytes = 0 ∧ r'.eof = true ∧
      r'.nextIndex = r'.eofIndex)

/-- One push moves past `out`, the contiguous front of what is then stored. -/
structure Pushed (r r' : StreamReassembler) (data : Bytes) (index : Nat) (eof : Bool)
    (out : Bytes) : Prop extends EndNoted r r' data index eof where
  stored : Stored r'
  next_eq : r'.nextIndex = r.nextIndex + out.length
  output_eq : r'.output = { (r.output.write out).1 with inputEnded := r'.output.inputEnded }
  fits : r.output.inputEnded = false → out.length ≤ r.output.remainingCapacity
  front : ∀ j, r.accepted data index j =
    (valueAt out r.nextIndex j).or (lookup r'.reassembler j)

theorem noteEof_eof (r : StreamReassembler) (data : Bytes) (index : Nat) (eof : Bool) :
    (r.noteEof data index eof).eof = (r.eof || eof) ∧
      (r.noteEof data index eof).eofIndex =
        if eof then add64 index data.length else r.eofIndex := by
  unfold noteEof
  cases eof <;> simp

namespace Stored

variable {r : StreamReassembler}

theorem inWindow (stored : Stored r) :
    Separated (r.nextIndex + r.output.remainingCapacity) r.nextIndex r.reassembler :=
  stored.separated.extend (Nat.min_le_left _ _)

theorem next_lt (stored : Stored r) : r.nextIndex < 2 ^ 64 := by
  have below := stored.separated.le
  omega

theorem remaining_lt (stored : Stored r) : r.output.remainingCapacity < 2 ^ 64 :=
  Nat.lt_of_le_of_lt (Nat.sub_le _ _) stored.capacity_lt

/-- Fragments behind a gap never fill a window that is not empty. -/
theorem unassembled_lt (stored : Stored r) (room : 0 < r.output.remainingCapacity) :
    r.unassembledBytes < r.output.remainingCapacity := by
  by_contra full
  refine stored.inWindow.lookup_of_full ?_ (Nat.le_refl _) (Nat.lt_add_of_pos_right room) stored.gap
  exact Nat.add_le_add_left (Nat.not_lt.mp full) _

theorem unassembled_le (stored : Stored r) :
    r.unassembledBytes ≤ r.output.remainingCapacity := by
  have bounded := stored.inWindow.size_le
  exact Nat.le_of_add_le_add_left bounded

/-- Noting the end index changes nothing that is stored. -/
theorem note (stored : Stored r) (data : Bytes) (index : Nat) (eof : Bool) :
    Stored (r.noteEof data index eof) where
  capacity_lt := by simpa using stored.capacity_lt
  separated := by simpa using stored.separated
  gap := by simpa using stored.gap

theorem count (stored : Stored r) : Stored r.updateFreeSpace :=
  ⟨stored.capacity_lt, stored.separated, stored.gap⟩

/-- Reading makes the window wider. -/
theorem read (stored : Stored r) (len : Nat) : Stored (r.popStreamOut len) where
  capacity_lt := stored.capacity_lt
  separated := by
    refine stored.separated.extend ?_
    have wider := r.output.remainingCapacity_le_popOutput len
    simp only [popStreamOut]
    omega
  gap := stored.gap

/-- The count of free bytes is exact. -/
theorem free_eq (stored : Stored r) :
    r.updateFreeSpace.numBytesFree = r.output.remainingCapacity - r.unassembledBytes :=
  sub64_of_le stored.unassembled_le stored.remaining_lt

theorem windowed (stored : Stored r) :
    Windowed r.nextIndex (r.nextIndex + r.output.remainingCapacity) r.updateFreeSpace := by
  refine ⟨stored.inWindow, ?_⟩
  have bounded := stored.unassembled_le
  rw [stored.free_eq]
  simp only [updateFreeSpace, unassembledBytes] at bounded ⊢
  omega

/-- Fitting a substring in takes the offers that are accepted. -/
theorem fit (stored : Stored r) (data : Bytes) {index : Nat} (small : index < 2 ^ 64)
    (short : data.length < 2 ^ 64) :
    ∃ fragments free,
      r.updateFreeSpace.fitChecked data index = some (r.updateFreeSpace.store fragments free) ∧
        Separated (min (r.nextIndex + r.output.remainingCapacity) (2 ^ 64 - 1)) r.nextIndex
          fragments ∧
        lookup fragments = r.accepted data index := by
  by_cases inRange : index + data.length < 2 ^ 64 ∧
      r.nextIndex + r.output.remainingCapacity < 2 ^ 64
  · obtain ⟨fragments, free, fitted, windowed', taken⟩ :=
      fitChecked_spec (r := r.updateFreeSpace) data index rfl rfl inRange.2 inRange.1
        stored.windowed
    refine ⟨fragments, free, fitted, windowed'.separated.extend ?_, ?_⟩
    · simp only [updateFreeSpace]
      omega
    · rw [accepted, if_pos inRange]
      exact taken
  · refine ⟨r.reassembler, r.updateFreeSpace.numBytesFree, ?_, stored.separated, ?_⟩
    · exact fitChecked_of_overflow data index stored.next_lt stored.remaining_lt small short
        (by simp only [updateFreeSpace]; omega)
    · rw [accepted, if_neg inRange]

end Stored

/-- The state after `push_into_output` has moved past `out` and kept `rest`. -/
def settled (r : StreamReassembler) (out : Bytes) (rest : List (Nat × Bytes)) (free : Nat)
    (ended : Bool) : StreamReassembler :=
  { r with
    reassembler := rest
    nextIndex := r.nextIndex + out.length
    numBytesFree := free
    output := { (r.output.write out).1 with inputEnded := ended } }

/-- `push_into_output` drains the fragments and ends the output exactly at the end index. -/
theorem pushIntoOutput_spec {r : StreamReassembler} {hi : Nat} (machine : hi < 2 ^ 64)
    (separated : Separated hi r.nextIndex r.reassembler)
    (width : r.output.inputEnded = false → hi ≤ r.nextIndex + r.output.remainingCapacity) :
    ∃ out rest free ended,
      r.pushIntoOutput = r.settled out rest free ended ∧
        (ended = true ↔ r.output.inputEnded = true ∨
          (size rest = 0 ∧ r.eof = true ∧ r.nextIndex + out.length = r.eofIndex)) ∧
        Separated hi (r.nextIndex + out.length) rest ∧
        lookup rest (r.nextIndex + out.length) = none ∧
        ∀ j, lookup r.reassembler j = (valueAt out r.nextIndex j).or (lookup rest j) := by
  obtain ⟨out, rest, free, ran, kept⟩ := drain_spec machine r.reassembler r separated width
  have drainedTo : r.pushIntoOutput =
      if size rest = 0 ∧ r.eof = true ∧ r.nextIndex + out.length = r.eofIndex then
        r.settled out rest free true
      else r.drained out rest free := by
    rw [pushIntoOutput, ran]
    rfl
  by_cases finished : size rest = 0 ∧ r.eof = true ∧ r.nextIndex + out.length = r.eofIndex
  · rw [if_pos finished] at drainedTo
    exact ⟨out, rest, free, true, drainedTo, ⟨fun _ => Or.inr finished, fun _ => rfl⟩, kept⟩
  · rw [if_neg finished] at drainedTo
    refine ⟨out, rest, free, (r.output.write out).1.inputEnded, drainedTo, ?_, kept⟩
    rw [r.output.write_inputEnded out, or_iff_left finished]

/-- A push without the eof flag, when the output buffer is full. -/
theorem Stored.push_full {r : StreamReassembler} (stored : Stored r) (data : Bytes) (index : Nat)
    (noRoom : r.output.remainingCapacity = 0) :
    Pushed r r.updateFreeSpace data index false [] where
  eof_eq := (Bool.or_false _).symm
  eofIndex_eq := rfl
  error_eq := rfl
  ended_iff := by
    rw [noRoom]
    exact (or_iff_left fun ending => Nat.lt_irrefl 0 ending.1).symm
  stored := stored.count
  next_eq := rfl
  output_eq := by
    rw [ByteStream.write_nil]
    rfl
  fits := fun _ => Nat.zero_le _
  front := by
    intro j
    have nothing : r.accepted data index = lookup r.reassembler := by
      unfold accepted
      split
      · exact assign_of_no_offer _ fun j lower upper => by omega
      · rfl
    rw [nothing, valueAt_nil, Option.none_or]
    rfl

/-- A push without the eof flag, when there is room. -/
theorem Stored.push_room {r : StreamReassembler} (stored : Stored r) (data : Bytes) {index : Nat}
    (small : index < 2 ^ 64) (short : data.length < 2 ^ 64)
    (room : 0 < r.output.remainingCapacity) :
    ∃ r' out fitted, r.updateFreeSpace.fitChecked data index = some fitted ∧
      fitted.pushIntoOutput = r' ∧ Pushed r r' data index false out := by
  obtain ⟨taken, free, fitted, separated, lookups⟩ := stored.fit data small short
  obtain ⟨out, rest, free', ended, ran, endedIff, separated', gap, front⟩ :=
    pushIntoOutput_spec (r := r.updateFreeSpace.store taken free) (by omega) separated
      fun _ => Nat.min_le_left _ _
  have stops := separated'.le
  change r.nextIndex + out.length ≤ _ at stops
  have fits : r.output.inputEnded = false → out.length ≤ r.output.remainingCapacity := by omega
  refine ⟨_, out, _, fitted, ran, ⟨(Bool.or_false _).symm, rfl, ?_, ?_⟩, ⟨?_, ?_, gap⟩, rfl, rfl,
    fits, ?_⟩
  · exact r.output.write_error out
  · rw [and_iff_right room]
    exact endedIff
  · exact (r.output.write_capacity out).trans_lt stored.capacity_lt
  · refine separated'.extend ?_
    change _ ≤ min (r.nextIndex + out.length + (r.output.write out).1.remainingCapacity) _
    cases isEnded : r.output.inputEnded with
    | true =>
        rw [r.output.write_of_ended out isEnded]
        dsimp only
        omega
    | false =>
        have within := fits isEnded
        rw [r.output.remainingCapacity_write out isEnded within]
        omega
  · intro j
    rw [← lookups]
    exact front j

/-- One push from a stored state passes every check and keeps the invariant. -/
theorem Stored.push {r : StreamReassembler} (stored : Stored r) (data : Bytes) (index : Nat)
    (eof : Bool) (small : index < 2 ^ 64) (short : data.length < 2 ^ 64) :
    ∃ r' out, r.pushSubstringChecked data index eof = some r' ∧
      Pushed r r' data index eof out := by
  have noted := stored.note data index eof
  have bounded := noted.unassembled_le
  have free := noted.free_eq
  have pushed : ∃ r' out, r.pushSubstringChecked data index eof = some r' ∧
      Pushed (r.noteEof data index eof) r' data index false out := by
    unfold pushSubstringChecked updateFreeSpaceChecked
    rw [if_pos bounded]
    simp only [Option.bind_eq_bind, Option.bind_some]
    by_cases full : (r.noteEof data index eof).output.remainingCapacity = 0
    · rw [if_pos (by omega)]
      exact ⟨_, [], rfl, noted.push_full data index full⟩
    · have partly := noted.unassembled_lt (Nat.pos_of_ne_zero full)
      obtain ⟨r', out, fitted, fits, ran, pushed⟩ :=
        noted.push_room data small short (Nat.pos_of_ne_zero full)
      rw [if_neg (by omega), fits, Option.bind_some, ran]
      exact ⟨r', out, rfl, pushed⟩
  obtain ⟨r', out, ran, pushed⟩ := pushed
  obtain ⟨eofEq, eofIndexEq⟩ := noteEof_eof r data index eof
  have output : (r.noteEof data index eof).output = r.output := noteEof_output ..
  have nextIndex : (r.noteEof data index eof).nextIndex = r.nextIndex := noteEof_nextIndex ..
  have fragments : (r.noteEof data index eof).reassembler = r.reassembler :=
    noteEof_reassembler ..
  refine ⟨r', out, ran, ⟨?_, ?_, ?_, ?_⟩, pushed.stored, ?_, ?_, ?_, ?_⟩
  · rw [pushed.eof_eq, Bool.or_false, eofEq]
  · rw [pushed.eofIndex_eq, if_neg Bool.false_ne_true, eofIndexEq]
  · rw [pushed.error_eq, output]
  · rw [pushed.ended_iff, output]
  · rw [pushed.next_eq, nextIndex]
  · rw [← output]
    exact pushed.output_eq
  · rw [← output]
    exact pushed.fits
  · intro j
    rw [← nextIndex, ← pushed.front j, accepted, accepted, output, nextIndex, fragments]

/-- The count of stored bytes depends on the contents only. -/
theorem Stored.unassembled_congr {r s : StreamReassembler} (stored : Stored r) (stored' : Stored s)
    (lookups : lookup s.reassembler = lookup r.reassembler) :
    s.unassembledBytes = r.unassembledBytes := by
  rw [unassembledBytes, unassembledBytes, ← ncard_held stored.separated,
    ← ncard_held stored'.separated, lookups]

theorem Stored.unassembled_eq_zero_iff {r : StreamReassembler} (stored : Stored r) :
    r.unassembledBytes = 0 ↔ ∀ j, lookup r.reassembler j = none := by
  rw [unassembledBytes, ← ncard_held stored.separated,
    Set.ncard_eq_zero stored.separated.finite_held, Set.eq_empty_iff_forall_notMem]
  exact forall_congr' fun j => not_not

/-- The next index becomes held exactly if a byte for it is offered into an open window. -/
theorem Stored.accepted_next_iff {r : StreamReassembler} (stored : Stored r) (data : Bytes)
    (index : Nat) : r.accepted data index r.nextIndex ≠ none ↔
      (index ≤ r.nextIndex ∧ r.nextIndex < index + data.length) ∧ index + data.length < 2 ^ 64 ∧
        0 < r.output.remainingCapacity ∧ r.nextIndex + r.output.remainingCapacity < 2 ^ 64 := by
  unfold accepted
  split
  · rename_i inRange
    rw [assign_ne_none_iff, or_iff_right (not_not.mpr stored.gap)]
    omega
  · rename_i outOfRange
    rw [ne_eq, not_iff_comm]
    exact ⟨fun _ => stored.gap, fun _ => by omega⟩

namespace Pushed

variable {r r' : StreamReassembler} {data out : Bytes} {index : Nat} {eof : Bool}

theorem capacity_eq (pushed : Pushed r r' data index eof out) :
    r'.output.capacity = r.output.capacity := by
  rw [pushed.output_eq]
  exact r.output.write_capacity out

theorem bytesRead_eq (pushed : Pushed r r' data index eof out) :
    r'.output.bytesRead = r.output.bytesRead := by
  rw [pushed.output_eq]
  exact r.output.write_bytesRead out

theorem ended_of_ended (pushed : Pushed r r' data index eof out)
    (ended : r.output.inputEnded = true) : r'.output.inputEnded = true :=
  pushed.ended_iff.mpr (Or.inl ended)

/-- What was accepted has been passed or is still stored. -/
theorem accepted_ne_none_iff (pushed : Pushed r r' data index eof out) (j : Nat) :
    r.accepted data index j ≠ none ↔
      (r.nextIndex ≤ j ∧ j < r'.nextIndex) ∨ lookup r'.reassembler j ≠ none := by
  rw [pushed.front, ne_eq, Option.or_eq_none_iff, valueAt_eq_none_iff, not_and_or, pushed.next_eq,
    not_or, Nat.not_lt, Nat.not_le]

/-- Nothing is passed unless the next index becomes held. -/
theorem out_eq_nil_iff (pushed : Pushed r r' data index eof out) :
    out = [] ↔ r.accepted data index r.nextIndex = none := by
  have next := pushed.next_eq
  rw [← List.length_eq_zero_iff, ← not_ne_iff (b := none), pushed.accepted_ne_none_iff]
  constructor
  · rintro nothing (moved | kept)
    · omega
    · refine kept ?_
      rw [← pushed.stored.gap, next, nothing, Nat.add_zero]
  · intro unheld
    omega

/-- An open output takes all that is passed. -/
theorem buffer_eq (pushed : Pushed r r' data index eof out)
    (isOpen : r.output.inputEnded = false) : r'.output.buffer = r.output.buffer ++ out := by
  rw [pushed.output_eq]
  dsimp only
  rw [r.output.write_buffer, r.output.write_count_of_fits out isOpen (pushed.fits isOpen),
    List.take_length]

theorem bytesWritten_eq (pushed : Pushed r r' data index eof out)
    (isOpen : r.output.inputEnded = false) :
    r'.output.bytesWritten = r.output.bytesWritten + out.length := by
  rw [pushed.output_eq]
  dsimp only
  rw [r.output.write_bytesWritten, r.output.write_count_of_fits out isOpen (pushed.fits isOpen)]

/-- An output that has ended stays as it is. -/
theorem output_of_ended (pushed : Pushed r r' data index eof out)
    (ended : r.output.inputEnded = true) : r'.output = r.output := by
  rw [pushed.output_eq, r.output.write_of_ended out ended, pushed.ended_of_ended ended, ← ended]

/-- What the fragments give up goes into the output: an ended output is given nothing. -/
theorem written (pushed : Pushed r r' data index eof out)
    (writable : r.output.inputEnded = false ∨ r.accepted data index r.nextIndex = none) :
    r'.output.buffer = r.output.buffer ++ out ∧
      r'.output.bytesWritten = r.output.bytesWritten + out.length := by
  cases ended : r.output.inputEnded with
  | false => exact ⟨pushed.buffer_eq ended, pushed.bytesWritten_eq ended⟩
  | true =>
      have unheld := writable.resolve_left (by simp [ended])
      rw [pushed.output_of_ended ended, pushed.out_eq_nil_iff.mpr unheld]
      simp

/-- What is passed was in the window. -/
theorem out_length_le (stored : Stored r) (pushed : Pushed r r' data index eof out) :
    out.length ≤ r.output.remainingCapacity := by
  by_contra long
  have next := pushed.next_eq
  have last : r.accepted data index (r.nextIndex + out.length - 1) ≠ none :=
    (pushed.accepted_ne_none_iff _).mpr (Or.inl (by omega))
  have outside := stored.inWindow.lookup_above
    (show r.nextIndex + r.output.remainingCapacity ≤ r.nextIndex + out.length - 1 by omega)
  unfold accepted at last
  split at last
  · rw [assign_of_outside data index (Or.inr (by omega))] at last
    exact last outside
  · exact last outside

/-- A push with the end ends an open output if the bytes then stored are those up to the end. -/
theorem ended_iff_of_eof (pushed : Pushed r r' data index true out)
    (isOpen : r.output.inputEnded = false) :
    r'.output.inputEnded = true ↔ 0 < r.output.remainingCapacity ∧
      r.nextIndex ≤ add64 index data.length ∧
      ∀ j, r.accepted data index j ≠ none ↔ r.nextIndex ≤ j ∧ j < add64 index data.length := by
  have eof := pushed.eof_eq
  have eofIndex := pushed.eofIndex_eq
  have next := pushed.next_eq
  have held := pushed.stored.separated
  rw [Bool.or_true] at eof
  rw [if_pos rfl] at eofIndex
  rw [pushed.ended_iff, isOpen, eof, eofIndex]
  simp only [Bool.false_eq_true, false_or, true_and]
  refine and_congr_right fun _ => ?_
  rw [pushed.stored.unassembled_eq_zero_iff]
  constructor
  · rintro ⟨nothing, atEnd⟩
    refine ⟨by omega, fun j => ?_⟩
    rw [pushed.accepted_ne_none_iff, or_iff_left (not_not.mpr (nothing j)), atEnd]
  · rintro ⟨ahead, exactly⟩
    -- the run of accepted bytes stops at the first index that is not held
    have within : ∀ j, (r.nextIndex ≤ j ∧ j < r'.nextIndex) ∨ lookup r'.reassembler j ≠ none ↔
        r.nextIndex ≤ j ∧ j < add64 index data.length :=
      fun j => (pushed.accepted_ne_none_iff j).symm.trans (exactly j)
    have stop : ¬ r'.nextIndex < add64 index data.length := by
      intro inside
      rcases (within r'.nextIndex).mpr ⟨by omega, inside⟩ with passed | kept
      · omega
      · exact kept pushed.stored.gap
    have atEnd : r'.nextIndex = add64 index data.length := by
      by_contra beyond
      have last := (within (r'.nextIndex - 1)).mp (Or.inl (by omega))
      omega
    refine ⟨fun j => ?_, atEnd⟩
    by_contra present
    have above : ¬ j < r'.nextIndex := fun below => present (held.lookup_below below)
    have inside := (within j).mp (Or.inr present)
    omega

/-- The end of the window never moves back. -/
theorem windowEnd_le (pushed : Pushed r r' data index eof out) :
    r.nextIndex + r.output.remainingCapacity ≤ r'.nextIndex + r'.output.remainingCapacity := by
  rw [pushed.next_eq]
  cases ended : r.output.inputEnded with
  | true =>
      rw [pushed.output_of_ended ended]
      omega
  | false =>
      have fits := pushed.fits ended
      simp only [ByteStream.remainingCapacity, pushed.capacity_eq, pushed.buffer_eq ended,
        List.length_append] at fits ⊢
      omega

end Pushed

/-- The end is known, everything is written and there is room, but the output is still open. -/
def EndPending (r : StreamReassembler) : Prop :=
  r.output.inputEnded = false ∧ 0 < r.output.remainingCapacity ∧ r.unassembledBytes = 0 ∧
    r.eof = true ∧ r.nextIndex = r.eofIndex

/-! ## A push depends on the contents only -/

/-- The same contents, however the stored bytes are cut into fragments. -/
structure SameContents (r s : StreamReassembler) : Prop where
  next_eq : s.nextIndex = r.nextIndex
  output_eq : s.output = r.output
  eof_eq : s.eof = r.eof
  eofIndex_eq : s.eofIndex = r.eofIndex
  lookup_eq : lookup s.reassembler = lookup r.reassembler

namespace SameContents

variable {r r' s s' : StreamReassembler}

theorem symm (same : SameContents r s) : SameContents s r :=
  ⟨same.next_eq.symm, same.output_eq.symm, same.eof_eq.symm, same.eofIndex_eq.symm,
    same.lookup_eq.symm⟩

theorem trans {t : StreamReassembler} (first : SameContents r s) (second : SameContents s t) :
    SameContents r t :=
  ⟨second.next_eq.trans first.next_eq, second.output_eq.trans first.output_eq,
    second.eof_eq.trans first.eof_eq, second.eofIndex_eq.trans first.eofIndex_eq,
    second.lookup_eq.trans first.lookup_eq⟩

theorem read (same : SameContents r s) (len : Nat) :
    SameContents (r.popStreamOut len) (s.popStreamOut len) :=
  ⟨same.next_eq, by rw [popStreamOut, popStreamOut, same.output_eq], same.eof_eq,
    same.eofIndex_eq, same.lookup_eq⟩

theorem unassembled_eq (same : SameContents r s) (stored : Stored r) (stored' : Stored s) :
    s.unassembledBytes = r.unassembledBytes :=
  stored.unassembled_congr stored' same.lookup_eq

theorem accepted_eq (same : SameContents r s) (data : Bytes) (index : Nat) :
    s.accepted data index = r.accepted data index := by
  rw [accepted, accepted, same.next_eq, same.output_eq, same.lookup_eq]

variable {data out out' : Bytes} {index : Nat} {eof : Bool}

/-- What leaves the fragments is the longest run of accepted bytes from the next index on. -/
theorem next_le (same : SameContents r s) (pushed : Pushed r r' data index eof out)
    (pushed' : Pushed s s' data index eof out') : s'.nextIndex ≤ r'.nextIndex := by
  by_contra further
  have next := pushed.next_eq
  have sameNext := same.next_eq
  have passed := (pushed'.accepted_ne_none_iff r'.nextIndex).mpr (Or.inl (by omega))
  rw [same.accepted_eq, pushed.accepted_ne_none_iff] at passed
  rcases passed with before | kept
  · omega
  · exact kept pushed.stored.gap

theorem fronts (same : SameContents r s) (pushed : Pushed r r' data index eof out)
    (pushed' : Pushed s s' data index eof out') (j : Nat) :
    (valueAt out' r.nextIndex j).or (lookup s'.reassembler j) =
      (valueAt out r.nextIndex j).or (lookup r'.reassembler j) := by
  rw [← pushed.front j, ← same.accepted_eq, pushed'.front j, same.next_eq]

/-- The same bytes leave the fragments. -/
theorem out_eq (same : SameContents r s) (pushed : Pushed r r' data index eof out)
    (pushed' : Pushed s s' data index eof out') : out' = out := by
  have sameLength : out'.length = out.length := by
    have here := same.next_le pushed pushed'
    have there := same.symm.next_le pushed' pushed
    rw [pushed.next_eq, pushed'.next_eq, same.next_eq] at here there
    omega
  refine List.ext_getElem? fun i => ?_
  by_cases inside : i < out.length
  · have atIndex := same.fronts pushed pushed' (r.nextIndex + i)
    rw [valueAt, valueAt, if_pos (by omega), if_pos (by omega), Nat.add_sub_cancel_left,
      List.getElem?_eq_getElem inside, List.getElem?_eq_getElem (by omega), Option.some_or,
      Option.some_or] at atIndex
    rw [List.getElem?_eq_getElem inside, List.getElem?_eq_getElem (by omega), atIndex]
  · rw [List.getElem?_eq_none (by omega), List.getElem?_eq_none (by omega)]

/-- Pushing the same substring keeps the contents the same. -/
theorem push (same : SameContents r s) (pushed : Pushed r r' data index eof out)
    (pushed' : Pushed s s' data index eof out') : SameContents r' s' := by
  have sameOut := same.out_eq pushed pushed'
  have next : s'.nextIndex = r'.nextIndex := by
    rw [pushed'.next_eq, pushed.next_eq, same.next_eq, sameOut]
  have lookups : lookup s'.reassembler = lookup r'.reassembler := by
    funext j
    by_cases before : j < r'.nextIndex
    · rw [pushed.stored.separated.lookup_below before,
        pushed'.stored.separated.lookup_below (by omega)]
    · have outside : valueAt out r.nextIndex j = none :=
        (valueAt_eq_none_iff _ _ _).mpr (Or.inr (by rw [← pushed.next_eq]; omega))
      have atIndex := same.fronts pushed pushed' j
      rwa [sameOut, outside, Option.none_or, Option.none_or] at atIndex
  have eof' : s'.eof = r'.eof := by rw [pushed'.eof_eq, pushed.eof_eq, same.eof_eq]
  have eofIndex' : s'.eofIndex = r'.eofIndex := by
    rw [pushed'.eofIndex_eq, pushed.eofIndex_eq, same.eofIndex_eq]
  have sizes := pushed.stored.unassembled_congr pushed'.stored lookups
  have ended : s'.output.inputEnded = r'.output.inputEnded := by
    rw [Bool.eq_iff_iff, pushed'.ended_iff, pushed.ended_iff, same.output_eq, sizes, eof', next,
      eofIndex']
  refine ⟨next, ?_, eof', eofIndex', lookups⟩
  rw [pushed'.output_eq, pushed.output_eq]
  simp only [same.output_eq, sameOut, ended]

theorem endPending_iff (same : SameContents r s) (stored : Stored r) (stored' : Stored s) :
    EndPending s ↔ EndPending r := by
  rw [EndPending, EndPending, same.output_eq, same.unassembled_eq stored stored', same.eof_eq,
    same.next_eq, same.eofIndex_eq]

end SameContents

/-- A push that brings nothing new keeps the contents, except that it may end the output. -/
theorem Pushed.nothing_new {r r' : StreamReassembler} {data out : Bytes} {index : Nat}
    (stored : Stored r) (pushed : Pushed r r' data index false out)
    (nothing : r.accepted data index = lookup r.reassembler) :
    out = [] ∧ lookup r'.reassembler = lookup r.reassembler ∧
      r'.unassembledBytes = r.unassembledBytes := by
  have passed : out = [] := pushed.out_eq_nil_iff.mpr (by rw [nothing]; exact stored.gap)
  have lookups : lookup r'.reassembler = lookup r.reassembler := by
    funext j
    rw [← nothing, pushed.front j, passed, valueAt_nil, Option.none_or]
  exact ⟨passed, lookups, stored.unassembled_congr pushed.stored lookups⟩

theorem Pushed.sameContents {r r' : StreamReassembler} {data out : Bytes} {index : Nat}
    (stored : Stored r) (pushed : Pushed r r' data index false out)
    (nothing : r.accepted data index = lookup r.reassembler) (settled : ¬ EndPending r) :
    SameContents r r' := by
  obtain ⟨rfl, lookups, sizes⟩ := pushed.nothing_new stored nothing
  have next := pushed.next_eq
  have eof' := pushed.eof_eq
  have eofIndex' := pushed.eofIndex_eq
  rw [List.length_nil, Nat.add_zero] at next
  rw [Bool.or_false] at eof'
  rw [if_neg Bool.false_ne_true] at eofIndex'
  have ended : r'.output.inputEnded = r.output.inputEnded := by
    rw [Bool.eq_iff_iff, pushed.ended_iff, sizes, eof', next, eofIndex']
    refine or_iff_left_of_imp fun ending => ?_
    by_contra isOpen
    exact settled ⟨by simpa using isOpen, ending⟩
  refine ⟨next, ?_, eof', eofIndex', lookups⟩
  rw [pushed.output_eq, ended, ByteStream.write_nil]

end Sponge.StreamReassembler
