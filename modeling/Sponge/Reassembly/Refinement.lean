import Sponge.Library.Run
import Sponge.Reassembly.Push

/-!
# The reassembler refines a first-write-wins map

`Refines` relates a reassembler to the abstract map of every index accepted so
far: below the next index the map is what the output was given, from there on it
is what the fragments hold.  One push is one `assign` in the window that starts
at the first unheld index and ends `capacity` past the bytes already read.
-/

namespace Sponge.StreamReassembler

open MachineInt Fragments FirstWrite

/-- The output of `r`, of which `readBytes` have been read, and its fragments hold `held`. -/
structure Holding (capacity : Nat) (r : StreamReassembler) (readBytes : Bytes)
    (held : Nat → Option UInt8) : Prop where
  capacity_eq : r.output.capacity = capacity
  next_eq : r.nextIndex = r.output.bytesWritten
  read_eq : readBytes.length = r.output.bytesRead
  history : ∀ j, j < r.nextIndex → held j = (readBytes ++ r.output.buffer)[j]?
  pending : ∀ j, r.nextIndex ≤ j → held j = lookup r.reassembler j
  separated : Separated (readBytes.length + capacity) r.nextIndex r.reassembler

/-- Between calls, moreover, nothing that is stored could be written out. -/
structure Refines (capacity : Nat) (r : StreamReassembler) (readBytes : Bytes)
    (held : Nat → Option UInt8) : Prop extends Holding capacity r readBytes held where
  gap : lookup r.reassembler r.nextIndex = none

theorem refines_new (capacity : Nat) : Refines capacity (new capacity) [] (fun _ => none) where
  capacity_eq := rfl
  next_eq := rfl
  read_eq := rfl
  history := fun j below => absurd below (Nat.not_lt_zero j)
  pending := fun _ _ => rfl
  separated := Nat.zero_le _
  gap := rfl

variable {capacity : Nat} {r : StreamReassembler} {readBytes : Bytes}
  {held : Nat → Option UInt8}

namespace Holding

/-- The window ends `capacity` past the bytes read. -/
theorem window (holding : Holding capacity r readBytes held) :
    r.nextIndex + r.output.remainingCapacity = readBytes.length + capacity := by
  have fits := r.output.fits
  have accounted := r.output.accounted
  have next := holding.next_eq
  have read := holding.read_eq
  rw [holding.capacity_eq] at fits
  rw [ByteStream.remainingCapacity, holding.capacity_eq]
  omega

theorem delivered_length (holding : Holding capacity r readBytes held) :
    (readBytes ++ r.output.buffer).length = r.nextIndex := by
  have accounted := r.output.accounted
  have next := holding.next_eq
  have read := holding.read_eq
  rw [List.length_append]
  omega

end Holding

namespace Refines

/-- The abstract next index is the concrete one. -/
theorem next_held (refines : Refines capacity r readBytes held) : next held = r.nextIndex := by
  apply FirstWrite.next_eq
  · intro j below
    rw [refines.history j below,
      List.getElem?_eq_getElem (by rw [refines.delivered_length]; exact below)]
    exact Option.some_ne_none _
  · rw [refines.pending _ (Nat.le_refl _), refines.gap]

theorem delivered_eq (refines : Refines capacity r readBytes held) :
    (readBytes ++ r.output.buffer).map some = (List.range (next held)).map held := by
  apply List.ext_getElem?
  intro j
  rw [refines.next_held, List.getElem?_map, List.getElem?_map]
  by_cases below : j < r.nextIndex
  · rw [List.getElem?_range below, Option.map_some, refines.history j below,
      List.getElem?_eq_getElem (by rw [refines.delivered_length]; exact below), Option.map_some]
  · rw [List.getElem?_eq_none (by rw [refines.delivered_length]; omega),
      List.getElem?_eq_none (by simpa using below)]
    rfl

/-- The stored bytes are the held indices that are not yet contiguous. -/
theorem unassembled_eq (refines : Refines capacity r readBytes held) :
    r.unassembledBytes = {j | next held ≤ j ∧ held j ≠ none}.ncard := by
  rw [unassembledBytes, ← ncard_held refines.separated, refines.next_held]
  congr 1
  ext j
  constructor
  · intro stored
    have above : r.nextIndex ≤ j := by
      by_contra below
      exact stored (refines.separated.lookup_below (Nat.not_le.mp below))
    exact ⟨above, by rw [refines.pending j above]; exact stored⟩
  · rintro ⟨above, present⟩
    rw [refines.pending j above] at present
    exact present

/-- Reading moves bytes from the buffer to the bytes read and changes nothing else. -/
theorem read (refines : Refines capacity r readBytes held) (len : Nat) :
    Refines capacity (r.popStreamOut len) (readBytes ++ r.output.peekOutput len) held where
  capacity_eq := refines.capacity_eq
  next_eq := refines.next_eq
  read_eq := by simp [popStreamOut, refines.read_eq]
  history := by
    intro j below
    rw [popStreamOut, List.append_assoc, ByteStream.peekOutput_append_buffer]
    exact refines.history j below
  pending := refines.pending
  separated := refines.separated.extend (by simp)
  gap := refines.gap

/-- A map that holds more has its first gap no earlier. -/
theorem nextIndex_le {r' : StreamReassembler} {readBytes' : Bytes} {held' : Nat → Option UInt8}
    (refines : Refines capacity r readBytes held) (refines' : Refines capacity r' readBytes' held')
    (keeps : ∀ j value, held j = some value → held' j = some value) :
    r.nextIndex ≤ r'.nextIndex := by
  by_contra back
  have present := refines.history r'.nextIndex (by omega)
  rw [List.getElem?_eq_getElem (by rw [refines.delivered_length]; omega)] at present
  have absent := refines'.pending _ (Nat.le_refl _)
  rw [refines'.gap, keeps _ _ present] at absent
  cases absent

theorem stored (refines : Refines capacity r readBytes held)
    (machine : readBytes.length + capacity < 2 ^ 64) : Stored r where
  capacity_lt := by
    rw [refines.capacity_eq]
    omega
  separated := by
    refine refines.separated.extend ?_
    rw [refines.window]
    omega
  gap := refines.gap

/-- From the next index on, one assignment to the map takes the offers that are accepted. -/
theorem assign_eq_accepted (refines : Refines capacity r readBytes held)
    (machine : readBytes.length + capacity < 2 ^ 64) {data : Bytes} {index : Nat}
    (bound : index + data.length < 2 ^ 64) {j : Nat} (above : r.nextIndex ≤ j) :
    assign held r.nextIndex (readBytes.length + capacity) data index j =
      r.accepted data index j := by
  have window := refines.window
  rw [accepted, if_pos ⟨bound, by omega⟩, window]
  simp only [assign, refines.pending j above]

section Push

variable {r' : StreamReassembler} {data out : Bytes} {index : Nat} {eof : Bool}

/-- After a push whose bytes are all written, the output and the fragments hold the new map. -/
theorem holding (refines : Refines capacity r readBytes held)
    (pushed : Pushed r r' data index eof out)
    (written : r'.output.buffer = r.output.buffer ++ out ∧
      r'.output.bytesWritten = r.output.bytesWritten + out.length)
    {held' : Nat → Option UInt8} (kept : ∀ j < r.nextIndex, held' j = held j)
    (taken : ∀ j, r.nextIndex ≤ j → held' j = r.accepted data index j) :
    Holding capacity r' readBytes held' := by
  have length := refines.delivered_length
  refine ⟨?_, ?_, ?_, ?_, ?_, ?_⟩
  · rw [pushed.capacity_eq, refines.capacity_eq]
  · rw [pushed.next_eq, written.2, refines.next_eq]
  · rw [pushed.bytesRead_eq, refines.read_eq]
  · intro j below
    rw [pushed.next_eq] at below
    rw [written.1, ← List.append_assoc]
    by_cases old : j < r.nextIndex
    · rw [List.getElem?_append_left (by omega), kept j old, refines.history j old]
    · have passed : valueAt out r.nextIndex j = some out[j - r.nextIndex] := by
        rw [valueAt, if_pos (by omega), List.getElem?_eq_getElem]
      rw [List.getElem?_append_right (by omega), length, taken j (by omega), pushed.front, passed,
        Option.some_or, List.getElem?_eq_getElem]
  · intro j above
    rw [pushed.next_eq] at above
    have notPassed : valueAt out r.nextIndex j = none :=
      (valueAt_eq_none_iff _ _ _).mpr (Or.inr above)
    rw [taken j (by omega), pushed.front, notPassed, Option.none_or]
  · have stays : r'.nextIndex + r'.output.remainingCapacity = readBytes.length + capacity := by
      have fits := r'.output.fits
      have accounted := r'.output.accounted
      have before := r.output.accounted
      simp only [ByteStream.remainingCapacity, pushed.capacity_eq, refines.capacity_eq,
        pushed.next_eq, pushed.bytesRead_eq, written, refines.next_eq, refines.read_eq,
        List.length_append] at fits accounted ⊢
      omega
    rw [← stays]
    exact pushed.stored.inWindow

end Push

/-- One push is one assignment in the current window, and never throws. -/
theorem push (refines : Refines capacity r readBytes held)
    (machine : readBytes.length + capacity < 2 ^ 64) (data : Bytes) (index : Nat) (eof : Bool)
    (bound : index + data.length < 2 ^ 64)
    (writable : r.output.inputEnded = false ∨
      assign held r.nextIndex (readBytes.length + capacity) data index r.nextIndex = none) :
    ∃ r', r.pushSubstring data index eof = some r' ∧
      Refines capacity r' readBytes
        (assign held r.nextIndex (readBytes.length + capacity) data index) ∧
      EndNoted r r' data index eof := by
  obtain ⟨r', out, ran, pushed⟩ :=
    (refines.stored machine).push data index eof (by omega) (by omega)
  rw [refines.assign_eq_accepted machine bound (Nat.le_refl _)] at writable
  have holding := refines.holding pushed (pushed.written writable)
    (fun j old => assign_of_outside data index (Or.inl old))
    fun j above => refines.assign_eq_accepted machine bound above
  exact ⟨r', (pushSubstringChecked_agrees ..).returns _ ran, ⟨holding, pushed.stored.gap⟩,
    pushed.toEndNoted⟩

end Refines

/-! ## Runs -/

/-- A call on the reassembler, or a read of its output stream. -/
inductive Call where
  | push (data : Bytes) (index : Nat) (eof : Bool)
  | read (len : Nat)

/-- A reassembler with the bytes read from it and the map of what it was given. -/
structure Observed where
  reassembler : StreamReassembler
  readBytes : Bytes
  held : Nat → Option UInt8

def Observed.fresh (capacity : Nat) : Observed := ⟨new capacity, [], fun _ => none⟩

/-- One call.  The map is advanced by its own rule, from its own first unheld index. -/
noncomputable def Observed.call (capacity : Nat) (o : Observed) : Call → Option Observed
  | .push data index eof => do
      let r ← o.reassembler.pushSubstring data index eof
      let held := assign o.held (next o.held) (o.readBytes.length + capacity) data index
      some ⟨r, o.readBytes, held⟩
  | .read len =>
      some ⟨o.reassembler.popStreamOut len,
        o.readBytes ++ o.reassembler.output.peekOutput len, o.held⟩

/-- Pushes are made while the output is open, with indices that 64 bits can count. -/
def Observed.InRange (capacity : Nat) (o : Observed) : Call → Prop
  | .push data index _ =>
      o.reassembler.output.inputEnded = false ∧ index + data.length < 2 ^ 64 ∧
        o.readBytes.length + capacity < 2 ^ 64
  | .read _ => True

theorem Refines.call {capacity : Nat} {o : Observed}
    (refines : Refines capacity o.reassembler o.readBytes o.held) (call : Call)
    (inRange : o.InRange capacity call) :
    ∃ o', o.call capacity call = some o' ∧
      Refines capacity o'.reassembler o'.readBytes o'.held := by
  cases call with
  | push data index eof =>
      obtain ⟨isOpen, bound, machine⟩ := inRange
      obtain ⟨r', pushed, refines', _⟩ :=
        refines.push machine data index eof bound (Or.inl isOpen)
      rw [← refines.next_held] at refines'
      exact ⟨_, by simp only [Observed.call, pushed]; rfl, refines'⟩
  | read len => exact ⟨_, rfl, refines.read len⟩

theorem refines_of_reaches {capacity : Nat} {o : Observed}
    (reached : Reaches (Observed.call capacity) (Observed.InRange capacity)
      (Observed.fresh capacity) o) : Refines capacity o.reassembler o.readBytes o.held := by
  refine reached.invariant (fun o => Refines capacity o.reassembler o.readBytes o.held)
    (refines_new capacity) ?_
  intro state call final refines inRange next
  obtain ⟨o', called, refines'⟩ := refines.call call inRange
  rw [called] at next
  cases next
  exact refines'

/--
In every run the reassembler has assembled exactly the held prefix and stores
exactly the other held indices, and the next call in range does not throw.
-/
theorem reassembler_refines_firstWrite {capacity : Nat} {o : Observed}
    (reached : Reaches (Observed.call capacity) (Observed.InRange capacity)
      (Observed.fresh capacity) o) :
    o.reassembler.getNextIndex = next o.held ∧
      o.reassembler.output.bytesWritten = next o.held ∧
      (o.readBytes ++ o.reassembler.output.buffer).map some =
        (List.range (next o.held)).map o.held ∧
      o.reassembler.unassembledBytes = {j | next o.held ≤ j ∧ o.held j ≠ none}.ncard ∧
      ∀ call, o.InRange capacity call → ∃ o', o.call capacity call = some o' := by
  have refines := refines_of_reaches reached
  refine ⟨refines.next_held.symm, ?_, refines.delivered_eq, refines.unassembled_eq, ?_⟩
  · rw [refines.next_held, refines.next_eq]
  · intro call inRange
    obtain ⟨o', called, _⟩ := refines.call call inRange
    exact ⟨o', called⟩

/-- Two bytes pushed in the wrong order with room for three come out in the right one. -/
theorem reassembler_refines_firstWrite_two_pushes :
    ∃ o, Reaches (Observed.call 3) (Observed.InRange 3) (Observed.fresh 3) o ∧
      o.reassembler.output.buffer = [97, 98] ∧ o.reassembler.getNextIndex = next o.held := by
  have none : Reaches (Observed.call 3) (Observed.InRange 3) (Observed.fresh 3)
    (Observed.fresh 3) := .refl
  have later := none.tail (Call.push [98] 1 false) ⟨rfl, by decide, by decide⟩ rfl
  have both := later.tail (Call.push [97] 0 false) ⟨rfl, by decide, by decide⟩ rfl
  exact ⟨_, both, rfl, (reassembler_refines_firstWrite both).1⟩

end Sponge.StreamReassembler
