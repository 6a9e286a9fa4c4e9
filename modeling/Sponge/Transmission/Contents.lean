import Sponge.Transmission.Accounting

/-!
# What holds of every segment a sender makes

A sender makes its SYN, segments of at most `MAX_PAYLOAD_SIZE` bytes and empty ones,
numbers them, and keeps the non-empty ones to send them again.  What holds of these
however they are numbered holds of everything the sender has queued and remembers.
-/

namespace Sponge.TCPSender

/-- A property of every segment a sender makes, however it is numbered. -/
structure Made (P : TCPSegment → Prop) : Prop where
  numbered : ∀ (s : TCPSender) segment, P segment → P (s.numbered segment)
  syn : P { header := { syn := true } }
  empty : P {}
  round : ∀ (fin : Bool) (payload : Bytes), payload.length ≤ TCPConfig.maxPayloadSize →
    P { header := { fin := fin }, payload := payload }

/-- Every segment that the sender has queued or remembers has the property. -/
structure Contains (P : TCPSegment → Prop) (s : TCPSender) : Prop where
  queued : ∀ segment ∈ s.segmentsOut, P segment
  outstanding : ∀ entry ∈ s.segmentsOutstanding, P entry.segment

variable {P : TCPSegment → Prop} {s : TCPSender}

theorem Contains.enqueue (contains : Contains P s) {segment : TCPSegment} (holds : P segment) :
    ∀ queued ∈ s.segmentsOut ++ [segment], P queued := by
  intro queued member
  rcases List.mem_append.mp member with old | new
  · exact contains.queued queued old
  · exact List.mem_singleton.mp new ▸ holds

theorem Contains.sendSegment (contains : Contains P s) (made : Made P) {segment : TCPSegment}
    (windowZeroFlag : Bool) (holds : P segment) :
    Contains P (s.sendSegment segment windowZeroFlag) := by
  have numbered := made.numbered s segment holds
  by_cases nonempty : segment.lengthInSequenceSpace = 0
  · rw [sendSegment_of_empty _ _ nonempty]
    exact ⟨contains.enqueue numbered, contains.outstanding⟩
  · rw [sendSegment_of_nonempty _ _ nonempty]
    refine ⟨contains.enqueue numbered, fun entry member => ?_⟩
    rcases List.mem_append.mp member with old | new
    · exact contains.outstanding entry old
    · exact List.mem_singleton.mp new ▸ numbered

/-- A round reads at most one payload. -/
theorem Contains.fillLoop (made : Made P) (windowZeroFlag : Bool) (fuel num : Nat)
    (contains : Contains P s) : Contains P (TCPSender.fillLoop windowZeroFlag fuel num s) := by
  induction fuel generalizing num s with
  | zero => exact contains
  | succ fuel ih =>
      rw [TCPSender.fillLoop]
      split
      · exact contains
      · dsimp only
        split
        · exact ⟨contains.queued, contains.outstanding⟩
        · apply ih
          apply Contains.sendSegment _ made
          · have length := s.stream.peekOutput_length (min num TCPConfig.maxPayloadSize)
            refine made.round _ _ ?_
            simp only [ByteStream.read]
            omega
          · exact ⟨contains.queued, contains.outstanding⟩

theorem Contains.fillWindow (made : Made P) (contains : Contains P s) :
    Contains P s.fillWindow := by
  have filled : ∀ {s : TCPSender}, Contains P s → Contains P s.fillAllowance := by
    intro s contains
    unfold TCPSender.fillAllowance
    dsimp only
    split
    · exact Contains.fillLoop made _ _ _ ⟨contains.queued, contains.outstanding⟩
    · exact contains.fillLoop made _ _ _
  unfold TCPSender.fillWindow
  split
  · exact contains
  · split
    · exact filled (contains.sendSegment made false made.syn)
    · exact filled contains

theorem Contains.ackReceived (made : Made P) (contains : Contains P s) (ackno : WrappingInt32)
    (windowSize : UInt16) : Contains P (s.ackReceived ackno windowSize) := by
  rw [ackReceived_eq]
  split
  · exact contains
  · refine Contains.fillWindow made ⟨?_, fun entry member => ?_⟩
    · rw [acknowledge_segmentsOut]
      exact contains.queued
    · rw [(s.acknowledge_core _ _).segmentsOutstanding] at member
      exact contains.outstanding entry ((popAcknowledged_suffix _ _).subset member)

theorem Contains.tick (contains : Contains P s) (msSinceLastTick : Nat) :
    Contains P (s.tick msSinceLastTick) := by
  obtain ⟨same, queue | ⟨oldest, rest, outstanding, queue⟩⟩ := s.tick_spec msSinceLastTick
  · exact ⟨by rw [queue]; exact contains.queued,
      by rw [same.segmentsOutstanding]; exact contains.outstanding⟩
  · refine ⟨?_, by rw [same.segmentsOutstanding]; exact contains.outstanding⟩
    rw [queue]
    exact contains.enqueue
      (contains.outstanding oldest (by rw [outstanding]; exact List.mem_cons_self))

theorem contains_new (P : TCPSegment → Prop) (capacity : Nat) (retxTimeout : UInt16)
    (fixedIsn : Option WrappingInt32) (random : UInt32) :
    Contains P (new capacity retxTimeout fixedIsn random) :=
  ⟨fun _ none => absurd none List.not_mem_nil, fun _ none => absurd none List.not_mem_nil⟩

/-- The sender has queued, and remembers, unstamped segments only. -/
abbrev Plain : TCPSender → Prop := Contains Unstamped

theorem made_unstamped : Made Unstamped where
  numbered := fun _ _ unstamped => unstamped
  syn := ⟨rfl, rfl⟩
  empty := ⟨rfl, rfl⟩
  round := fun _ _ _ => ⟨rfl, rfl⟩

end Sponge.TCPSender
