import Sponge.Reassembly.Push
import Sponge.Reception.Safety

/-!
# One segment arrives, whatever it is

Where the receiver takes a segment to belong, and what it does with it, for any
segment at all.  From there the acknowledgment number is followed through runs
of arbitrary segments: it is computed from the next index, which agrees with the
bytes written as long as the output takes what is passed to it.
-/

namespace Sponge.TCPReceiver

open MachineInt Fragments FirstWrite StreamReassembler

/-- Before the SYN a segment without SYN is dropped. -/
def Ignores (r : TCPReceiver) (segment : TCPSegment) : Prop :=
  r.synRecived = false ∧ segment.header.syn = false

/-- The receiver with the SYN noted, if it is the first. -/
def noteSyn (r : TCPReceiver) (segment : TCPSegment) : TCPReceiver :=
  if r.synRecived = false then { r with synRecived := true, isn := segment.header.seqno } else r

/-- The stream index at which the payload of a segment is pushed. -/
def streamNo (r : TCPReceiver) (segment : TCPSegment) : Nat :=
  if r.synRecived = false then
    add64 (unwrap segment.header.seqno segment.header.seqno r.lastStreamNo) 0
  else add64 (unwrap segment.header.seqno r.isn r.lastStreamNo) (2 ^ 64 - 1)

variable {r r' : TCPReceiver} {segment : TCPSegment}

theorem segmentReceived_of_ignored (ignored : r.Ignores segment) :
    r.segmentReceived segment = some r := by
  simp [segmentReceived, ignored.1, ignored.2]

/-- Any other segment is pushed at its index, which becomes the checkpoint. -/
theorem segmentReceived_eq (handled : ¬ r.Ignores segment) :
    r.segmentReceived segment =
      (r.reassembler.pushSubstring segment.payload (r.streamNo segment) segment.header.fin).map
        fun reassembler => { r.noteSyn segment with
          lastStreamNo := r.streamNo segment
          reassembler := reassembler } := by
  unfold segmentReceived streamNo noteSyn
  cases recived : r.synRecived with
  | true =>
      simp only [place, Bool.true_eq_false, if_false]
      cases r.reassembler.pushSubstring _ _ _ <;> rfl
  | false =>
      have isSyn : segment.header.syn = true := by
        by_contra noSyn
        exact handled ⟨recived, by simpa using noSyn⟩
      simp only [place, isSyn, if_true]
      cases r.reassembler.pushSubstring _ _ _ <;> rfl

/-- What the arrival of a segment does: nothing before the SYN, and otherwise one push. -/
inductive Arrived (r : TCPReceiver) (segment : TCPSegment) : TCPReceiver → Prop where
  | ignored (ignored : r.Ignores segment) : Arrived r segment r
  | pushed (handled : ¬ r.Ignores segment) (reassembler : StreamReassembler) (out : Bytes)
      (pushed : Pushed r.reassembler reassembler segment.payload (r.streamNo segment)
        segment.header.fin out) :
      Arrived r segment { r.noteSyn segment with
        lastStreamNo := r.streamNo segment
        reassembler := reassembler }

theorem streamNo_lt (r : TCPReceiver) (segment : TCPSegment) : r.streamNo segment < 2 ^ 64 := by
  unfold streamNo
  split <;> exact add64_lt _ _

/-- The arrival of a segment never makes the receiver throw. -/
theorem exists_arrived (stored : Stored r.reassembler) (short : segment.payload.length < 2 ^ 64) :
    ∃ r', r.segmentReceived segment = some r' ∧ Arrived r segment r' := by
  by_cases ignored : r.Ignores segment
  · exact ⟨r, segmentReceived_of_ignored ignored, .ignored ignored⟩
  · obtain ⟨reassembler, out, ran, pushed⟩ :=
      stored.push segment.payload _ segment.header.fin (r.streamNo_lt segment) short
    refine ⟨_, ?_, .pushed ignored reassembler out pushed⟩
    rw [segmentReceived_eq ignored, (pushSubstringChecked_agrees ..).returns _ ran]
    rfl

theorem arrived_of_received (stored : Stored r.reassembler)
    (short : segment.payload.length < 2 ^ 64) (received : r.segmentReceived segment = some r') :
    Arrived r segment r' := by
  obtain ⟨final, received', arrived⟩ := exists_arrived stored short
  obtain rfl : final = r' := Option.some.inj (received'.symm.trans received)
  exact arrived

theorem noteSyn_synRecived (r : TCPReceiver) (segment : TCPSegment) :
    (r.noteSyn segment).synRecived = true := by
  unfold noteSyn
  split
  · rfl
  · rename_i recived
    simpa using recived

theorem noteSyn_of_recived (recived : r.synRecived = true) (segment : TCPSegment) :
    r.noteSyn segment = r := by
  simp [noteSyn, recived]

/-- A receiver that still waits for the SYN has not changed. -/
theorem segmentReceived_unstarted (received : r.segmentReceived segment = some r')
    (unstarted : r'.synRecived = false) : r' = r := by
  by_cases ignored : r.Ignores segment
  · rw [segmentReceived_of_ignored ignored] at received
    exact (Option.some.inj received).symm
  · rw [segmentReceived_eq ignored] at received
    obtain ⟨reassembler, _, rfl⟩ := Option.map_eq_some_iff.mp received
    rw [noteSyn_synRecived] at unstarted
    cases unstarted

theorem Arrived.stored (stored : Stored r.reassembler) (arrived : Arrived r segment r') :
    Stored r'.reassembler := by
  cases arrived with
  | ignored _ => exact stored
  | pushed _ _ _ pushed => exact pushed.stored

/-! ## The acknowledgment number -/

/-- Wrapping forgets what 64 bits cannot hold. -/
theorem wrap_add64 (a b : Nat) (isn : WrappingInt32) : wrap (add64 a b) isn = wrap (a + b) isn := by
  apply wrap_congr
  unfold add64
  omega

/-- The acknowledgment number counts the bytes written, and the end once it is known. -/
def CountsWritten (r : TCPReceiver) : Prop :=
  r.ackno = some (wrap (1 + r.streamOut.bytesWritten +
    (if r.streamOut.inputEnded then 1 else 0)) r.isn)

instance (r : TCPReceiver) : Decidable r.CountsWritten := inferInstanceAs (Decidable (_ = _))

theorem countsWritten (recived : r.synRecived = true)
    (counted : r.reassembler.nextIndex = r.streamOut.bytesWritten) : r.CountsWritten := by
  rw [CountsWritten, ackno, if_neg (by simp [recived]), if_pos recived, getNextIndex, counted]
  dsimp only
  rw [wrap_add64]
  congr 2
  omega

/-- After the end of the stream a segment brings a byte for the next index into the window. -/
def OffersPastEnd (r : TCPReceiver) (segment : TCPSegment) : Prop :=
  r.streamOut.inputEnded = true ∧ ¬ r.Ignores segment ∧
    r.streamNo segment ≤ r.reassembler.nextIndex ∧
    r.reassembler.nextIndex < r.streamNo segment + segment.payload.length ∧
    r.streamNo segment + segment.payload.length < 2 ^ 64 ∧
    0 < r.windowSize ∧ r.reassembler.nextIndex + r.windowSize < 2 ^ 64

/-- The next index counts the bytes written. -/
structure Counted (r : TCPReceiver) : Prop where
  stored : Stored r.reassembler
  counted : r.reassembler.nextIndex = r.streamOut.bytesWritten

/-- A byte is passed exactly if the segment brings one for the next index into the window. -/
theorem accepted_next_iff (stored : Stored r.reassembler) (handled : ¬ r.Ignores segment)
    (ended : r.streamOut.inputEnded = true) :
    r.reassembler.accepted segment.payload (r.streamNo segment) r.reassembler.nextIndex ≠ none ↔
      r.OffersPastEnd segment := by
  rw [OffersPastEnd, and_iff_right ended, and_iff_right handled, stored.accepted_next_iff,
    windowSize, streamOut, and_assoc]

/-- A segment keeps the next index in step with the output unless it offers past the end. -/
theorem Counted.arrived (counted : Counted r) (arrived : Arrived r segment r') :
    r'.reassembler.nextIndex = r'.streamOut.bytesWritten ↔ ¬ r.OffersPastEnd segment := by
  have inStep := counted.counted
  cases arrived with
  | ignored ignored => exact ⟨fun _ offers => offers.2.1 ignored, fun _ => inStep⟩
  | pushed handled reassembler out pushed =>
      change reassembler.nextIndex = reassembler.output.bytesWritten ↔ _
      rw [streamOut] at inStep
      rw [pushed.next_eq]
      cases ended : r.reassembler.output.inputEnded with
      | false =>
          rw [pushed.bytesWritten_eq ended, inStep]
          refine ⟨fun _ offers => ?_, fun _ => rfl⟩
          rw [OffersPastEnd, streamOut, ended] at offers
          cases offers.1
      | true =>
          -- an ended output takes nothing, so the two agree if nothing is passed
          rw [← accepted_next_iff counted.stored handled ended, not_not,
            pushed.output_of_ended ended, inStep]
          rw [← inStep, ← pushed.out_eq_nil_iff, ← List.length_eq_zero_iff]
          omega

/-- Neither the acknowledgment number nor the window depends on more than the reassembler. -/
theorem ackno_congr (recived : r'.synRecived = r.synRecived) (isn : r'.isn = r.isn)
    (next : r'.reassembler.nextIndex = r.reassembler.nextIndex)
    (ended : r'.streamOut.inputEnded = r.streamOut.inputEnded) : r'.ackno = r.ackno := by
  rw [ackno, ackno, recived, isn, ended, getNextIndex, getNextIndex, next]

/-- One call on a receiver. -/
def call (r : TCPReceiver) : Call → Option TCPReceiver
  | .segment segment => r.segmentReceived segment
  | .read len => some (r.popStreamOut len)

/-- The payload of a segment is a string, whose length 64 bits can count. -/
def Representable (_ : TCPReceiver) : Call → Prop
  | .segment segment => segment.payload.length < 2 ^ 64
  | .read _ => True

instance (r : TCPReceiver) : ∀ call, Decidable (r.Representable call)
  | .segment _ => inferInstanceAs (Decidable (_ < _))
  | .read _ => isTrue trivial

/-- The call does not offer a byte past the end of the stream. -/
def KeepsToEnd (r : TCPReceiver) : Call → Prop
  | .segment segment => ¬ r.OffersPastEnd segment
  | .read _ => True

theorem Counted.call {call : Call} (counted : Counted r) (inRange : r.Representable call)
    (keeps : r.KeepsToEnd call) : ∃ r', r.call call = some r' ∧ Counted r' := by
  cases call with
  | segment segment =>
      obtain ⟨r', received, arrived⟩ := exists_arrived counted.stored inRange
      exact ⟨r', received, arrived.stored counted.stored, (counted.arrived arrived).mpr keeps⟩
  | read len => exact ⟨_, rfl, counted.stored.read len, counted.counted⟩

theorem counted_of_reaches {capacity : Nat} (bounded : capacity < 2 ^ 64)
    (reached : Reaches TCPReceiver.call (fun r call => r.Representable call ∧ r.KeepsToEnd call)
      (new capacity) r) : Counted r := by
  refine reached.invariant Counted ⟨stored_new bounded, rfl⟩ ?_
  rintro state call final counted ⟨inRange, keeps⟩ next
  obtain ⟨r', called, counted'⟩ := counted.call inRange keeps
  rw [called] at next
  cases next
  exact counted'

/--
In every run without an offer past the end, the acknowledgment number counts the
bytes written and the end, and once the stream has ended no further segment
changes it; and a segment keeps the count exactly if it does not offer past the
end.
-/
theorem ackno_counts_written {capacity : Nat} (bounded : capacity < 2 ^ 64)
    (reached : Reaches TCPReceiver.call (fun r call => r.Representable call ∧ r.KeepsToEnd call)
      (new capacity) r) (recived : r.synRecived = true) :
    r.CountsWritten ∧
      ∀ segment, r.Representable (.segment segment) →
        ∃ r', r.segmentReceived segment = some r' ∧
          (r'.reassembler.getNextIndex = r'.streamOut.bytesWritten ↔
            ¬ r.OffersPastEnd segment) ∧
          (r.streamOut.inputEnded = true → ¬ r.OffersPastEnd segment → r'.ackno = r.ackno) := by
  have counted := counted_of_reaches bounded reached
  refine ⟨countsWritten recived counted.counted, fun segment inRange => ?_⟩
  obtain ⟨r', received, arrived⟩ := exists_arrived counted.stored inRange
  refine ⟨r', received, counted.arrived arrived, fun ended keeps => ?_⟩
  have inStep := (counted.arrived arrived).mpr keeps
  cases arrived with
  | ignored _ => rfl
  | pushed _ reassembler out pushed =>
      have same := pushed.output_of_ended ended
      have before := counted.counted
      refine ackno_congr ?_ ?_ ?_ ?_
      · rw [noteSyn_of_recived recived]
      · rw [noteSyn_of_recived recived]
      · change reassembler.nextIndex = _
        change reassembler.nextIndex = reassembler.output.bytesWritten at inStep
        rw [inStep, same, before, streamOut]
      · change reassembler.output.inputEnded = _
        rw [same, streamOut]

/-- The FIN of an empty stream repeated after it ended: the number stays. -/
theorem ackno_counts_written_repeated_fin :
    ∃ r, Reaches TCPReceiver.call (fun r call => r.Representable call ∧ r.KeepsToEnd call)
        (new 4) r ∧ r.synRecived = true ∧ r.streamOut.inputEnded = true ∧
      r.ackno = some ⟨9⟩ ∧ r.CountsWritten := by
  have start : Reaches TCPReceiver.call
    (fun r call => r.Representable call ∧ r.KeepsToEnd call) (new 4) (new 4) := .refl
  have one := start.tail (Call.segment { header := { syn := true, seqno := ⟨7⟩ } })
    ⟨by decide, fun offers => absurd offers.1 (by decide)⟩ rfl
  have two := one.tail (Call.segment { header := { fin := true, seqno := ⟨8⟩ } })
    ⟨by decide, fun offers => absurd offers.1 (by decide)⟩ rfl
  have three := two.tail (Call.segment { header := { fin := true, seqno := ⟨8⟩ } })
    ⟨by decide, fun offers => absurd offers.2.2.2.1 (by decide)⟩ rfl
  exact ⟨_, three, rfl, rfl, rfl, (ackno_counts_written (by decide) three rfl).1⟩

/-- A byte sent again for the place of the FIN moves the acknowledgment number past the end. -/
theorem byte_past_end_acknowledged :
    ¬ ∀ (capacity : Nat) (r : TCPReceiver), capacity < 2 ^ 64 →
      Reaches TCPReceiver.call Representable (new capacity) r → r.synRecived = true →
        r.CountsWritten := by
  intro counts
  have start : Reaches TCPReceiver.call Representable (new 4) (new 4) := .refl
  have one := start.tail (Call.segment { header := { syn := true, seqno := ⟨7⟩ } })
    (by decide) rfl
  have two := one.tail (Call.segment { header := { fin := true, seqno := ⟨8⟩ } }) (by decide) rfl
  have three := two.tail (Call.segment { header := { seqno := ⟨8⟩ }, payload := [97] })
    (by decide) rfl
  exact absurd (counts 4 _ (by decide) three rfl) (by decide)

end Sponge.TCPReceiver
