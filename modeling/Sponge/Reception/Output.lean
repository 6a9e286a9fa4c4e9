import Sponge.Connection.Runs

/-!
# What happens to the inbound stream

Whatever is pushed into a reassembler, its output only sees writes and the end of
its input.  So what a stream keeps through its own calls, the inbound stream keeps
through every call on its connection.
-/

namespace Sponge

/-- What a stream keeps when it is written to and ended. -/
structure ByteStream.Keeps (Holds : ByteStream → Prop) : Prop where
  write : ∀ stream data, Holds stream → Holds (stream.write data).1
  endInput : ∀ stream, Holds stream → Holds stream.endInput

/-- The stream is at its end or has failed. -/
def ByteStream.Finished (stream : ByteStream) : Prop := stream.eof = true ∨ stream.error = true

namespace StreamReassembler

variable {r r' : StreamReassembler}

theorem insertInReassembler_output (r : StreamReassembler) (data : Bytes) (index : Nat) :
    (r.insertInReassembler data index).1.output = r.output := by
  unfold insertInReassembler
  split <;> rfl

/-- The fragments are stored before anything is written. -/
theorem fitLoop_output (data : Bytes) (index indexDataEnd fuel : Nat) (iter : Option (Nat × Bytes))
    (nextIndex : Nat) (ran : fitLoop data index indexDataEnd fuel iter nextIndex r = some r') :
    r'.output = r.output := by
  induction fuel generalizing iter nextIndex r with
  | zero =>
      cases ran
      rfl
  | succ fuel ih =>
      cases iter with
      | none =>
          cases ran
          rfl
      | some entry =>
          rw [fitLoop] at ran
          split at ran
          · cases ran
            rfl
          obtain ⟨slot, _, rest⟩ := Option.bind_eq_some_iff.mp ran
          dsimp only at rest
          split at rest
          · cases rest
            exact insertInReassembler_output _ _ _
          · exact (ih _ _ rest).trans (insertInReassembler_output _ _ _)

theorem fitTail_output {data : Bytes} {index : Nat} (ran : r.fitTail data index = some r') :
    r'.output = r.output := by
  unfold fitTail at ran
  split at ran
  · cases ran
    rfl
  split at ran
  · cases ran
    rfl
  · obtain ⟨tail, _, rest⟩ := Option.bind_eq_some_iff.mp ran
    cases rest
    exact insertInReassembler_output _ _ _

theorem fitInReassembler_output {data : Bytes} {index : Nat}
    (ran : r.fitInReassembler data index = some r') : r'.output = r.output := by
  unfold fitInReassembler at ran
  split at ran
  · cases ran
    rfl
  obtain ⟨pre, _, rest⟩ := Option.bind_eq_some_iff.mp ran
  dsimp only at rest
  split at rest
  · cases rest
    rfl
  split at rest
  · cases rest
    exact insertInReassembler_output _ _ _
  · obtain ⟨middle, looped, ended⟩ := Option.bind_eq_some_iff.mp rest
    exact (fitTail_output ended).trans (fitLoop_output _ _ _ _ _ _ looped)

variable {Holds : ByteStream → Prop}

theorem drain_output (keeps : ByteStream.Keeps Holds) (entries : List (Nat × Bytes))
    (holds : Holds r.output) : Holds (drain entries r).output := by
  induction entries generalizing r with
  | nil => exact holds
  | cons entry rest ih =>
      rw [drain]
      split
      · exact ih (keeps.write _ _ holds)
      · exact holds

theorem pushSubstring_output (keeps : ByteStream.Keeps Holds) {data : Bytes} {index : Nat}
    {eof : Bool} (ran : r.pushSubstring data index eof = some r') (holds : Holds r.output) :
    Holds r'.output := by
  unfold pushSubstring at ran
  dsimp only at ran
  have noted : Holds (r.noteEof data index eof).updateFreeSpace.output := by
    rw [updateFreeSpace, noteEof_output]
    exact holds
  split at ran
  · cases ran
    exact noted
  · obtain ⟨fitted, fit, rest⟩ := Option.bind_eq_some_iff.mp ran
    cases rest
    rw [← fitInReassembler_output fit] at noted
    unfold pushIntoOutput
    dsimp only
    split
    · exact keeps.endInput _ (drain_output keeps _ noted)
    · exact drain_output keeps _ noted

end StreamReassembler

theorem TCPReceiver.segmentReceived_output {Holds : ByteStream → Prop}
    (keeps : ByteStream.Keeps Holds) {r r' : TCPReceiver} {segment : TCPSegment}
    (received : r.segmentReceived segment = some r') (holds : Holds r.streamOut) :
    Holds r'.streamOut := by
  have placed : ∀ {r : TCPReceiver} {offset : Nat}, r.place segment offset = some r' →
      Holds r.streamOut → Holds r'.streamOut := by
    intro r offset ran before
    obtain ⟨reassembler, pushed, rest⟩ := Option.bind_eq_some_iff.mp ran
    cases rest
    exact StreamReassembler.pushSubstring_output keeps pushed before
  unfold segmentReceived at received
  split at received
  · split at received
    · exact placed received holds
    · cases received
      exact holds
  · exact placed received holds

namespace TCPConnection

/-- What the inbound stream keeps through every call on its connection. -/
structure InboundKept (Holds : ByteStream → Prop) : Prop extends ByteStream.Keeps Holds where
  popOutput : ∀ stream len, Holds stream → Holds (stream.popOutput len)
  setError : ∀ stream, Holds stream → Holds stream.setError

theorem InboundKept.step {Holds : ByteStream → Prop} (kept : InboundKept Holds)
    {c c' : TCPConnection} {event : Event} (next : c.step event = some c')
    (holds : Holds c.inboundStream) : Holds c'.inboundStream := by
  have moves := moves_of_step next
  rw [inboundStream] at holds ⊢
  generalize c'.receiver = r' at moves ⊢
  cases moves with
  | stay _ => exact holds
  | error _ => exact kept.setError _ holds
  | read len => exact kept.popOutput _ len holds
  | arrive _ _ received => exact TCPReceiver.segmentReceived_output kept.toKeeps received holds

/-- A stream that is at its end, or has failed, stays so. -/
theorem inboundKept_finished : InboundKept ByteStream.Finished where
  write stream data := by
    rintro (atEnd | failed)
    · rw [stream.write_of_ended data ((ByteStream.eof_iff _).mp atEnd).2]
      exact .inl atEnd
    · exact .inr ((stream.write_error data).trans failed)
  endInput stream := by
    rintro (atEnd | failed)
    · exact .inl ((ByteStream.eof_iff _).mpr ⟨((ByteStream.eof_iff _).mp atEnd).1, rfl⟩)
    · exact .inr failed
  popOutput stream len := by
    rintro (atEnd | failed)
    · obtain ⟨drained, ended⟩ := (ByteStream.eof_iff _).mp atEnd
      exact .inl ((stream.popOutput_eof_iff len).mpr ⟨by rw [drained]; exact Nat.zero_le _, ended⟩)
    · exact .inr failed
  setError stream _ := .inr rfl

end TCPConnection

end Sponge
