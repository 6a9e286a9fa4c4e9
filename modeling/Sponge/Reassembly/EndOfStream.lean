import Sponge.Reassembly.Hostile

/-!
# When the end of the stream is signalled

Pushes of substrings of one stream, with the eof flag on some that end where the
stream does.  The test for the end stands behind the early return of
`push_substring`, so an eof push that finds the output buffer full records the
end without testing for it; `EndLost` is that step.  In every run without it the
output ends exactly when the end is known and every byte is written.
-/

namespace Sponge.StreamReassembler

open Fragments FirstWrite MachineInt

/-- A reassembler with a note of whether any push so far had the eof flag. -/
structure Marked where
  reassembler : StreamReassembler
  eofSeen : Bool

namespace Marked

def fresh (capacity : Nat) : Marked := ⟨new capacity, false⟩

/-- One call, with the note brought up to date. -/
def call (o : Marked) : Call → Option Marked
  | .push data index eof => do
      let r ← o.reassembler.pushSubstring data index eof
      some ⟨r, o.eofSeen || eof⟩
  | .read len => some ⟨o.reassembler.popStreamOut len, o.eofSeen⟩

/-- A push gives a substring of the stream, flagged only if it ends where the stream does. -/
def OfStream (stream : Bytes) (_ : Marked) : Call → Prop
  | .push data index eof => index + data.length ≤ stream.length ∧
      data = (stream.drop index).take data.length ∧
      (eof = true → index + data.length = stream.length)
  | .read _ => True

/-- The output has ended exactly if the end is known and every byte is written. -/
def SignalsEnd (stream : Bytes) (o : Marked) : Prop :=
  o.reassembler.output.inputEnded = true ↔
    o.eofSeen = true ∧ o.reassembler.getNextIndex = stream.length

/-- The first eof push comes when every byte is written and the output buffer is full. -/
def EndLost (stream : Bytes) (o : Marked) : Call → Prop
  | .push _ _ eof => eof = true ∧ o.eofSeen = false ∧
      o.reassembler.getNextIndex = stream.length ∧
      o.reassembler.output.remainingCapacity = 0
  | .read _ => False

/-- What is stored lies before the end of the stream, and a noted end is its end. -/
structure Bounded (stream : Bytes) (o : Marked) : Prop where
  stored : Stored o.reassembler
  below : Separated stream.length o.reassembler.nextIndex o.reassembler.reassembler
  eof_eq : o.reassembler.eof = o.eofSeen
  eofIndex_eq : o.reassembler.eof = true → o.reassembler.eofIndex = stream.length

variable {stream : Bytes} {capacity : Nat} {o : Marked}

/-- What a push of a substring of the stream stores lies before the end of the stream. -/
theorem Bounded.accepted_lt (bounded : Bounded stream o) {data : Bytes} {index : Nat}
    (ends : index + data.length ≤ stream.length) {j : Nat}
    (taken : o.reassembler.accepted data index j ≠ none) : j < stream.length := by
  have old : lookup o.reassembler.reassembler j ≠ none → j < stream.length := by
    intro held
    by_contra beyond
    exact held (bounded.below.lookup_above (Nat.not_lt.mp beyond))
  unfold accepted at taken
  split at taken
  · rcases (assign_ne_none_iff ..).mp taken with held | offered
    · exact old held
    · omega
  · exact old taken

section Push

variable {data out : Bytes} {index : Nat} {eof : Bool} {r' : StreamReassembler}

/-- A push of a substring of the stream keeps the bounds. -/
theorem Bounded.pushed (bounded : Bounded stream o) (long : stream.length < 2 ^ 64)
    (ofStream : OfStream stream o (.push data index eof))
    (pushed : Pushed o.reassembler r' data index eof out) :
    Bounded stream ⟨r', o.eofSeen || eof⟩ := by
  obtain ⟨ends, _, flagged⟩ := ofStream
  have next := pushed.next_eq
  have nextLe : r'.nextIndex ≤ stream.length := by
    by_cases moved : o.reassembler.nextIndex < r'.nextIndex
    · have last := bounded.accepted_lt ends
        ((pushed.accepted_ne_none_iff (r'.nextIndex - 1)).mpr (Or.inl (by omega)))
      omega
    · have before := bounded.below.le
      omega
  refine ⟨pushed.stored, pushed.stored.separated.restrict nextLe fun j held => ?_, ?_, ?_⟩
  · exact bounded.accepted_lt ends ((pushed.accepted_ne_none_iff j).mpr (Or.inr held))
  · rw [pushed.eof_eq, bounded.eof_eq]
  · rw [pushed.eof_eq, pushed.eofIndex_eq]
    cases eof with
    | true =>
        intro _
        rw [if_pos rfl, add64_of_lt (by omega), flagged rfl]
    | false =>
        rw [Bool.or_false, if_neg Bool.false_ne_true]
        exact bounded.eofIndex_eq

/-- The buffer is full: nothing moves, and only the flag can be new. -/
theorem Bounded.signals_full (bounded : Bounded stream o) (signals : SignalsEnd stream o)
    (pushed : Pushed o.reassembler r' data index eof out)
    (full : o.reassembler.output.remainingCapacity = 0) :
    SignalsEnd stream ⟨r', o.eofSeen || eof⟩ ↔ ¬ EndLost stream o (.push data index eof) := by
  have unheld : o.reassembler.accepted data index o.reassembler.nextIndex = none := by
    by_contra held
    have room := ((bounded.stored.accepted_next_iff data index).mp held).2.2.1
    omega
  have stays : r'.nextIndex = o.reassembler.nextIndex := by
    rw [pushed.next_eq, pushed.out_eq_nil_iff.mpr unheld, List.length_nil, Nat.add_zero]
  unfold SignalsEnd at signals ⊢
  dsimp only [EndLost, getNextIndex] at signals ⊢
  rw [pushed.ended_iff, signals, or_iff_left (fun ending => by omega), stays, full]
  cases o.eofSeen <;> cases eof <;> simp

/-- There is room: the test for the end is made. -/
theorem Bounded.signals_room (bounded : Bounded stream ⟨r', o.eofSeen || eof⟩)
    (signals : SignalsEnd stream o) (pushed : Pushed o.reassembler r' data index eof out)
    (room : 0 < o.reassembler.output.remainingCapacity) :
    SignalsEnd stream ⟨r', o.eofSeen || eof⟩ := by
  have eofEq : r'.eof = (o.eofSeen || eof) := bounded.eof_eq
  have bytes := bounded.below.size_le
  have next := pushed.next_eq
  have before := bounded.below.le
  unfold SignalsEnd at signals ⊢
  dsimp only [getNextIndex] at signals bytes before ⊢
  rw [pushed.ended_iff, signals, ← eofEq, unassembledBytes]
  constructor
  · rintro (⟨seen, all⟩ | ⟨_, _, noted, atEnd⟩)
    · exact ⟨by rw [eofEq, seen, Bool.true_or], by omega⟩
    · exact ⟨noted, atEnd.trans (bounded.eofIndex_eq noted)⟩
  · rintro ⟨noted, all⟩
    exact Or.inr ⟨room, by omega, noted, all.trans (bounded.eofIndex_eq noted).symm⟩

/-- A push keeps the bounds, and signals the end unless it is the step that loses it. -/
theorem Bounded.push (bounded : Bounded stream o) (long : stream.length < 2 ^ 64)
    (signals : SignalsEnd stream o) (ofStream : OfStream stream o (.push data index eof)) :
    ∃ o', o.call (.push data index eof) = some o' ∧ Bounded stream o' ∧
      (SignalsEnd stream o' ↔ ¬ EndLost stream o (.push data index eof)) := by
  have ends := ofStream.1
  obtain ⟨r', out, ran, pushed⟩ :=
    bounded.stored.push data index eof (by omega) (by omega)
  have returned := (pushSubstringChecked_agrees ..).returns _ ran
  have bounded' := bounded.pushed long ofStream pushed
  refine ⟨⟨r', o.eofSeen || eof⟩, by rw [Marked.call, returned]; rfl, bounded', ?_⟩
  rcases Nat.eq_zero_or_pos o.reassembler.output.remainingCapacity with full | room
  · exact bounded.signals_full signals pushed full
  · exact ⟨fun _ lost => room.ne' lost.2.2.2,
      fun _ => bounded'.signals_room signals pushed room⟩

end Push

/-- So does a read, which cannot lose the end. -/
theorem Bounded.read (bounded : Bounded stream o) (len : Nat) :
    Bounded stream ⟨o.reassembler.popStreamOut len, o.eofSeen⟩ :=
  ⟨bounded.stored.read len, bounded.below, bounded.eof_eq, bounded.eofIndex_eq⟩

theorem Bounded.call (bounded : Bounded stream o) (long : stream.length < 2 ^ 64)
    (signals : SignalsEnd stream o) {call : Call} (ofStream : OfStream stream o call) :
    ∃ o', o.call call = some o' ∧ Bounded stream o' ∧
      (SignalsEnd stream o' ↔ ¬ EndLost stream o call) := by
  cases call with
  | push data index eof => exact bounded.push long signals ofStream
  | read len => exact ⟨_, rfl, bounded.read len, fun _ lost => lost, fun _ => signals⟩

theorem bounded_of_reaches (long : stream.length < 2 ^ 64) (wide : capacity < 2 ^ 64)
    (reached : Reaches Marked.call
      (fun o call => OfStream stream o call ∧ ¬ EndLost stream o call) (fresh capacity) o) :
    Bounded stream o ∧ SignalsEnd stream o := by
  refine reached.invariant (fun o => Bounded stream o ∧ SignalsEnd stream o) ⟨?_, ?_⟩ ?_
  · exact ⟨stored_new wide, Nat.zero_le _, rfl, fun noted => absurd noted Bool.false_ne_true⟩
  · exact ⟨fun ended => absurd ended Bool.false_ne_true,
      fun known => absurd known.1 Bool.false_ne_true⟩
  · rintro state call final ⟨bounded, signals⟩ ⟨ofStream, kept⟩ next
    obtain ⟨o', called, bounded', exactly⟩ := bounded.call long signals ofStream
    rw [called] at next
    cases next
    exact ⟨bounded', exactly.mpr kept⟩

/--
In every run in which no end is lost to a full buffer, the output has ended
exactly if some push had the eof flag and every byte is written; and from there
the next push of a substring keeps that so exactly if it does not lose the end.
-/
theorem ends_when_known (long : stream.length < 2 ^ 64) (wide : capacity < 2 ^ 64)
    (reached : Reaches Marked.call
      (fun o call => OfStream stream o call ∧ ¬ EndLost stream o call) (fresh capacity) o) :
    SignalsEnd stream o ∧
      ∀ call, OfStream stream o call → ∃ o', o.call call = some o' ∧
        (SignalsEnd stream o' ↔ ¬ EndLost stream o call) := by
  obtain ⟨bounded, signals⟩ := bounded_of_reaches long wide reached
  refine ⟨signals, fun call ofStream => ?_⟩
  obtain ⟨o', called, _, exactly⟩ := bounded.call long signals ofStream
  exact ⟨o', called, exactly⟩

/-- The end arrives first, out of order, and is signalled with the byte before it. -/
theorem ends_when_known_out_of_order :
    ∃ o, Reaches Marked.call
        (fun o call => OfStream [97, 98] o call ∧ ¬ EndLost [97, 98] o call) (fresh 2) o ∧
      o.reassembler.output.inputEnded = true ∧ SignalsEnd [97, 98] o := by
  have start : Reaches Marked.call
    (fun o call => OfStream [97, 98] o call ∧ ¬ EndLost [97, 98] o call) (fresh 2)
    (fresh 2) := .refl
  have one := start.tail (Call.push [98] 1 true)
    ⟨⟨by decide, by decide, fun _ => rfl⟩, fun lost => absurd lost.2.2.1 (by decide)⟩ rfl
  have two := one.tail (Call.push [97] 0 false)
    ⟨⟨by decide, by decide, fun flag => absurd flag (by decide)⟩,
      fun lost => absurd lost.1 (by decide)⟩ rfl
  exact ⟨_, two, rfl, (ends_when_known (by decide) (by decide) two).1⟩

/-- Both bytes fill the buffer, and the empty eof push that follows is not acted on. -/
theorem full_buffer_loses_end :
    ¬ ∀ (stream : Bytes) (capacity : Nat), stream.length < 2 ^ 64 → capacity < 2 ^ 64 →
      ∀ o, Reaches Marked.call (OfStream stream) (fresh capacity) o → SignalsEnd stream o := by
  intro signals
  have start : Reaches Marked.call (OfStream [97, 98]) (fresh 2) (fresh 2) := .refl
  have one := start.tail (Call.push [97, 98] 0 false)
    ⟨by decide, by decide, fun flag => absurd flag (by decide)⟩ rfl
  have two := one.tail (Call.push [] 2 true) ⟨by decide, by decide, fun _ => rfl⟩ rfl
  have ended := (signals [97, 98] 2 (by decide) (by decide) _ two).mpr ⟨rfl, rfl⟩
  exact absurd ended (by decide)

end Marked

end Sponge.StreamReassembler
