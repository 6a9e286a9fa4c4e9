import Sponge.Connection.Contents
import Sponge.Network.Runs

/-!
# What is emitted fits a datagram

Every segment a connection emits, for the first time or again, has a header without
options and a payload of at most `MAX_PAYLOAD_SIZE`, so that an adapter can wrap it.
-/

namespace Sponge

/-- The segment has a header without options, and its payload is short. -/
structure Sendable (segment : TCPSegment) : Prop where
  doff : segment.header.doff = 5
  short : segment.payload.length ≤ TCPConfig.maxPayloadSize

namespace TCPConnection

open TCPSender

theorem made_sendable : Made Sendable where
  numbered := fun _ _ sendable => ⟨sendable.doff, sendable.short⟩
  syn := ⟨rfl, Nat.zero_le _⟩
  empty := ⟨rfl, Nat.zero_le _⟩
  round := fun _ _ short => ⟨rfl, short⟩

theorem queueing_sendable : Queueing (Contains Sendable) :=
  queueing_contains made_sendable ⟨rfl, Nat.zero_le _⟩

/-- A stamp changes neither the length of the header nor the payload. -/
theorem sendable_stamp {segment : TCPSegment} (sendable : Sendable segment)
    (ackno : Option WrappingInt32) (winSize : Nat) : Sendable (stamp ackno winSize segment) := by
  rw [stamp_eq]
  exact ⟨sendable.doff, sendable.short⟩

end TCPConnection

open TCPSender

namespace Endpoint

/-- Everything sent and to be sent fits a datagram. -/
structure Packaged (e : Endpoint) : Prop where
  contains : Contains Sendable e.conn.sender
  sendable : ∀ segment ∈ e.emitted, Sendable segment

variable {e : Endpoint}

/-- A call adds stamped segments of the sender to what has been emitted. -/
theorem Packaged.flushed (packaged : Packaged e) {e' : Endpoint} (wire : e'.wire = e.wire)
    (flushed : TCPConnection.Flushed (Contains Sendable) e.conn e'.conn) : Packaged e' := by
  obtain ⟨contains, s, queued, queue⟩ := flushed
  refine ⟨contains, fun segment member => ?_⟩
  rw [emitted, wire, queue, List.append_assoc] at member
  rcases List.mem_append.mp member with old | later
  · exact packaged.sendable segment (List.mem_append_left _ old)
  rcases List.mem_append.mp later with new | onWire
  · obtain ⟨original, inQueue, rfl⟩ := List.mem_map.mp new
    exact TCPConnection.sendable_stamp (queued.queued original inQueue) _ _
  · exact packaged.sendable segment (List.mem_append_right _ onWire)

theorem Packaged.act (packaged : Packaged e) (action : Act) : Packaged (e.act action) := by
  by_cases transmits : action = .transmit
  · subst transmits
    exact ⟨packaged.contains, fun segment member =>
      packaged.sendable segment (mem_emitted_of_transmit member)⟩
  · refine packaged.flushed ?_
      (TCPConnection.queueing_sendable.step packaged.contains ?_ (e.step_act action))
    · cases action with
      | transmit => exact absurd rfl transmits
      | _ => rfl
    · intro dequeues
      cases action with
      | transmit => exact transmits rfl
      | _ => cases dequeues

theorem Packaged.receive (packaged : Packaged e) {e' : Endpoint} {segment : TCPSegment}
    (received : e.receive segment = some e') : Packaged e' := by
  obtain ⟨conn, called, rest⟩ := Option.bind_eq_some_iff.mp received
  cases rest
  have next : e.conn.step (.segmentReceived segment) = some conn := called
  exact packaged.flushed rfl
    (TCPConnection.queueing_sendable.step packaged.contains TCPConnection.Event.noConfusion next)

end Endpoint

namespace Network

open Endpoint

theorem packaged_of_reaches {cfg : Side → TCPConfig} {random : Side → UInt32} {n : Network}
    (reached : Reaches step Carried (fresh cfg random) n) (side : Side) : Packaged (n side) := by
  refine reached.invariant (fun n => ∀ side, Packaged (n side)) (fun side => ?_) ?_ side
  · exact ⟨contains_new _ _ _ _ _, fun _ member => absurd member List.not_mem_nil⟩
  · intro n move n' packaged _ next
    exact forall_of_step packaged (fun side action => (packaged side).act action)
      (fun side _ _ received => (packaged side).receive received) next

end Network

end Sponge
