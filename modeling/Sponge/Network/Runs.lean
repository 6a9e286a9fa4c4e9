import Sponge.Network.EndToEnd

/-!
# Runs of one endpoint of a network

What happens to one endpoint while its peer stays as it is happens to the network; and
every run of the network is, for each side, a run of its connection.
-/

namespace Sponge

namespace Endpoint

/-- Something that happens to an endpoint. -/
inductive Doing where
  | act (action : Act)
  | receive (segment : TCPSegment)

def step (e : Endpoint) : Doing → Option Endpoint
  | .act action => some (e.act action)
  | .receive segment => e.receive segment

/-- What is received is one of the segments supplied. -/
def Supplied (wire : List TCPSegment) (_ : Endpoint) : Doing → Prop
  | .act _ => True
  | .receive segment => segment ∈ wire

/-- The endpoints reached from `e` when the segments of `wire` may arrive. -/
def RunsOn (wire : List TCPSegment) (e : Endpoint) : Endpoint → Prop :=
  Reaches step (Supplied wire) e

/-- The endpoints reached from `e` while `peer` stays as it is. -/
abbrev Runs (peer e : Endpoint) : Endpoint → Prop := RunsOn peer.wire e

variable {wire : List TCPSegment} {e e' : Endpoint}

theorem RunsOn.act (runs : RunsOn wire e e') (action : Act) : RunsOn wire e (e'.act action) :=
  runs.tail (.act action) trivial rfl

theorem RunsOn.receive (runs : RunsOn wire e e') {e'' : Endpoint} {segment : TCPSegment}
    (onWire : segment ∈ wire) (received : e'.receive segment = some e'') : RunsOn wire e e'' :=
  runs.tail (.receive segment) onWire received

/-- The endpoint with everything that was queued on the wire. -/
def transmitAll (e : Endpoint) : Endpoint :=
  { e with
    conn := { e.conn with segmentsOut := [] }
    wire := e.wire ++ e.conn.segmentsOut }

theorem RunsOn.transmitAll (runs : RunsOn wire e e') : RunsOn wire e e'.transmitAll := by
  generalize queue_eq : e'.conn.segmentsOut = queue
  induction queue generalizing e' with
  | nil =>
      have nothing : e'.transmitAll = e' := by
        obtain ⟨⟨cfg, receiver, sender, queue, linger, time⟩, accepted, readBytes, wire⟩ := e'
        cases queue_eq
        simp only [Endpoint.transmitAll, List.append_nil]
      rwa [nothing]
  | cons first rest ih =>
      have later := ih (runs.act .transmit) (by simp only [Endpoint.act, queue_eq, List.tail_cons])
      have same : (e'.act .transmit).transmitAll = e'.transmitAll := by
        simp only [Endpoint.act, Endpoint.transmitAll, queue_eq, List.tail_cons,
          List.take_succ_cons, List.take_zero, List.append_assoc, List.singleton_append]
      rwa [same] at later

/-- The call on the connection that an act makes. -/
def Act.event : Act → TCPConnection.Event
  | .connect => .connect
  | .write data => .write data
  | .endInputStream => .endInputStream
  | .tick msSinceLastTick => .tick msSinceLastTick
  | .read len => .read len
  | .transmit => .dequeue

theorem step_act (e : Endpoint) (action : Act) :
    e.conn.step action.event = some (e.act action).conn := by
  cases action <;> rfl

end Endpoint

open Endpoint

namespace Network

variable {n : Network} {side : Side} {e : Endpoint}

/-- What happens to one endpoint happens to the network, if the network allows it. -/
theorem reaches_of_runsOn {allowed : Network → Move → Prop} {wire : List TCPSegment}
    (acts : ∀ n action, allowed n (.act side action))
    (delivers : ∀ e', ∀ segment ∈ wire,
      allowed (Function.update n side e') (.deliver side segment))
    (runs : RunsOn wire (n side) e) : Reaches step allowed n (Function.update n side e) := by
  induction runs with
  | refl =>
      rw [Function.update_eq_self]
      exact .refl
  | tail doing earlier supplied next ih =>
      cases doing with
      | act action =>
          cases next
          refine ih.tail (.act side action) (acts _ action) ?_
          rw [step, Function.update_self, Function.update_idem]
      | receive segment =>
          refine ih.tail (.deliver side segment) (delivers _ segment supplied) ?_
          rw [step, Function.update_self]
          refine (congrArg (Option.bind · _) next).trans ?_
          rw [Option.bind_some, Function.update_idem]

theorem reaches_update (runs : Runs (n side.peer) (n side) e) :
    Reaches step Carried n (Function.update n side e) := by
  refine reaches_of_runsOn (fun _ _ => trivial) (fun e' segment onWire => ?_) runs
  rw [Carried, Function.update_of_ne side.peer_ne]
  exact onWire

/-- Every run of the network is a run of each of its connections. -/
theorem connection_of_reaches {cfg : Side → TCPConfig} {random : Side → UInt32}
    (reached : Reaches step Carried (fresh cfg random) n) (side : Side) :
    Reaches TCPConnection.step Always (TCPConnection.new (cfg side) (random side))
      (n side).conn := by
  induction reached generalizing side with
  | refl => exact .refl
  | tail move _ _ next ih =>
      refine forall_of_step (P := fun side e => Reaches TCPConnection.step Always
        (TCPConnection.new (cfg side) (random side)) e.conn) ih (fun side action => ?_)
        (fun side segment e received => ?_) next side
      · exact (ih side).tail action.event trivial (step_act _ action)
      · obtain ⟨conn, called, rest⟩ := Option.bind_eq_some_iff.mp received
        cases rest
        exact (ih side).tail (.segmentReceived segment) trivial called

end Network

end Sponge
