import Sponge.Connection.Window

/-!
# What the segments of a connection contain

What holds of every segment a sender makes is kept by whatever arrives.  A RST is one
of those segments, but it occupies no sequence number, so that none is sent again.
-/

namespace Sponge

namespace TCPConnection

open TCPSender

variable {P : TCPSegment → Prop}

/-- Whatever the arrival of a segment makes the sender do. -/
theorem resilient_contains (made : Made P) (segment : TCPSegment) :
    Resilient segment (Contains P) where
  fillWindow := fun _ contains => contains.fillWindow made
  ackReceived := fun _ _ contains => contains.ackReceived made _ _
  sendEmptySegment := fun _ contains => contains.sendSegment made false made.empty

/-! ## Resets -/

/-- A RST occupies no sequence number. -/
def BareRst (segment : TCPSegment) : Prop :=
  segment.header.rst = true → segment.lengthInSequenceSpace = 0

theorem made_bareRst : Made BareRst where
  numbered := fun _ _ bare => bare
  syn := fun isRst => absurd isRst Bool.false_ne_true
  empty := fun isRst => absurd isRst Bool.false_ne_true
  round := fun _ _ _ isRst => absurd isRst Bool.false_ne_true

theorem contains_bareRst_of_reaches {cfg : TCPConfig} {random : UInt32} {c : TCPConnection}
    (reached : Reaches step Always (new cfg random) c) : Contains BareRst c.sender := by
  refine reached.invariant (fun c => Contains BareRst c.sender) (contains_new _ _ _ _ _) ?_
  intro c event c' contains _ next
  by_cases dequeues : event = .dequeue
  · subst dequeues
    cases next
    exact contains
  · exact ((queueing_contains made_bareRst fun _ => rfl).step contains dequeues next).sender

/-- What is kept to be sent again is no RST. -/
theorem noRst_of_reaches {cfg : TCPConfig} {random : UInt32} {c : TCPConnection}
    (reached : Reaches step Always (new cfg random) c) :
    ∀ entry ∈ c.sender.segmentsOutstanding, entry.segment.header.rst = false := by
  intro entry member
  obtain ⟨written, firsts, settled⟩ := settled_of_reaches reached
  have placed := settled.toAccounted.mem_placements entry member
  have positive := settled.nonempty _ (Tiling.bounds_of_mem_layout placed).2.2
  rw [← Bool.not_eq_true]
  intro isRst
  have bare := (contains_bareRst_of_reaches reached).outstanding entry member isRst
  exact absurd bare (Nat.ne_of_gt positive)

end TCPConnection

end Sponge
