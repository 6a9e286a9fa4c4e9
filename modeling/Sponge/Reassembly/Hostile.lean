import Sponge.Reassembly.Refinement

/-!
# The reassembler under arbitrary input

Runs of pushes with any 64-bit index, any data and any eof flags, interleaved
with reads.  `Stored` holds throughout, and with it every check of
`pushSubstringChecked` passes: no count underflows, no insertion meets a key and
no substring position is out of range.
-/

namespace Sponge.StreamReassembler

open Fragments FirstWrite

/-- One call on a reassembler. -/
def call (r : StreamReassembler) : Call → Option StreamReassembler
  | .push data index eof => r.pushSubstring data index eof
  | .read len => some (r.popStreamOut len)

/-- The arguments of a call are values of their types: 64-bit indices and lengths. -/
def Representable (_ : StreamReassembler) : Call → Prop
  | .push data index _ => index < 2 ^ 64 ∧ data.length < 2 ^ 64
  | .read _ => True

variable {capacity : Nat} {r : StreamReassembler}

theorem Stored.call (stored : Stored r) (call : Call) (inRange : r.Representable call) :
    ∃ r', r.call call = some r' ∧ Stored r' ∧ r'.output.capacity = r.output.capacity := by
  cases call with
  | push data index eof =>
      obtain ⟨r', out, ran, pushed⟩ := stored.push data index eof inRange.1 inRange.2
      exact ⟨r', (pushSubstringChecked_agrees ..).returns _ ran, pushed.stored,
        pushed.capacity_eq⟩
  | read len => exact ⟨_, rfl, stored.read len, rfl⟩

theorem stored_of_reaches (bounded : capacity < 2 ^ 64)
    (reached : Reaches StreamReassembler.call Representable (new capacity) r) :
    Stored r ∧ r.output.capacity = capacity := by
  refine reached.invariant (fun r => Stored r ∧ r.output.capacity = capacity)
    ⟨stored_new bounded, rfl⟩ ?_
  rintro state call final ⟨stored, same⟩ inRange next
  obtain ⟨r', called, stored', same'⟩ := stored.call call inRange
  rw [called] at next
  cases next
  exact ⟨stored', same'.trans same⟩

/--
In every run the fragments are non-empty, do not overlap and lie strictly inside
the window; stored and buffered bytes fit the capacity; and the next push, of
anything, passes every check and does not throw.
-/
theorem fragments_fit_window (bounded : capacity < 2 ^ 64)
    (reached : Reaches StreamReassembler.call Representable (new capacity) r) :
    (∀ entry ∈ r.reassembler, entry.2 ≠ [] ∧ r.nextIndex < entry.1 ∧
        entry.1 + entry.2.length ≤ r.nextIndex + r.output.remainingCapacity) ∧
      r.reassembler.Pairwise (fun earlier later => earlier.1 + earlier.2.length ≤ later.1) ∧
      r.unassembledBytes + r.output.bufferSize ≤ capacity ∧
      ∀ data index eof, r.Representable (.push data index eof) →
        ∃ r', r.pushSubstringChecked data index eof = some r' ∧
          r.pushSubstring data index eof = some r' := by
  obtain ⟨stored, same⟩ := stored_of_reaches bounded reached
  refine ⟨?_, stored.inWindow.pairwise, ?_, ?_⟩
  · intro entry member
    obtain ⟨_, nonempty, upper⟩ := stored.inWindow.mem member
    exact ⟨nonempty, stored.inWindow.lt_key stored.gap member, upper⟩
  · have within := stored.unassembled_le
    have fits := r.output.fits
    simp only [ByteStream.remainingCapacity, ByteStream.bufferSize, same] at within fits ⊢
    omega
  · intro data index eof inRange
    obtain ⟨r', out, ran, _⟩ := stored.push data index eof inRange.1 inRange.2
    exact ⟨r', ran, (pushSubstringChecked_agrees ..).returns _ ran⟩

/--
A fragment behind a gap, then two bytes at the last index that claim to end the
stream, then conflicting bytes: the fragment stays where it is.
-/
theorem fragments_fit_window_overflow :
    ∃ r, Reaches StreamReassembler.call Representable (new 4) r ∧
      r.reassembler = [(2, [99]), (3, [120])] ∧ r.eof = true ∧
      r.unassembledBytes + r.output.bufferSize ≤ 4 := by
  have start : Reaches StreamReassembler.call Representable (new 4) (new 4) := .refl
  have one := start.tail (Call.push [99] 2 false) ⟨by decide, by decide⟩ rfl
  have two := one.tail (Call.push [97, 98] 18446744073709551615 true)
    ⟨by decide, by decide⟩ rfl
  have three := two.tail (Call.push [120, 120, 120] 2 false) ⟨by decide, by decide⟩ rfl
  exact ⟨_, three, by decide, by decide, (fragments_fit_window (by decide) three).2.2.1⟩

end Sponge.StreamReassembler
