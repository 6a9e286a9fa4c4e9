import Sponge.Model.Benchmark
import Sponge.Network.Runs

/-!
# The benchmark never throws

A round of the benchmark is a run of the network of two endpoints: every write, delivery,
read and tick is a move of it, and nothing is delivered that was not sent.  What holds of
all runs of the network therefore holds of the benchmark: no delivery throws, and what has
been read is the front of what has been written.
-/

namespace Sponge

open Loop Endpoint

/-! ## Moves that leave the application's part alone -/

namespace Endpoint

/-- Nothing has been written, read or closed in between. -/
structure Quiet (e e' : Endpoint) : Prop where
  accepted : e'.accepted = e.accepted
  readBytes : e'.readBytes = e.readBytes
  ended : e'.conn.outboundStream.inputEnded = e.conn.outboundStream.inputEnded

variable {e e' e'' : Endpoint} {wire : List TCPSegment}

theorem Quiet.refl (e : Endpoint) : Quiet e e := ⟨rfl, rfl, rfl⟩

theorem Quiet.trans (first : Quiet e e') (second : Quiet e' e'') : Quiet e e'' :=
  ⟨second.accepted.trans first.accepted, second.readBytes.trans first.readBytes,
    second.ended.trans first.ended⟩

theorem quiet_receive {segment : TCPSegment} (received : e.receive segment = some e') :
    Quiet e e' := by
  obtain ⟨conn, called, rest⟩ := Option.bind_eq_some_iff.mp received
  cases rest
  have next : e.conn.step (.segmentReceived segment) = some conn := called
  exact ⟨rfl, rfl, TCPConnection.outboundEnded_of_step next nofun⟩

theorem quiet_tick (e : Endpoint) (msSinceLastTick : Nat) :
    Quiet e (e.act (.tick msSinceLastTick)) :=
  ⟨rfl, rfl, TCPConnection.outboundEnded_of_step (step_act e (.tick msSinceLastTick)) nofun⟩

theorem quiet_transmitAll (e : Endpoint) : Quiet e e.transmitAll := ⟨rfl, rfl, rfl⟩

end Endpoint

namespace Network

variable {cfg : Side → TCPConfig} {random : Side → UInt32} {n : Network} {side : Side}

/-- One side moves on by itself. -/
theorem exists_update (reached : Reaches step Carried (fresh cfg random) n) {e : Endpoint}
    (runs : Runs (n side.peer) (n side) e) :
    ∃ n', Reaches step Carried (fresh cfg random) n' ∧ n' side = e ∧
      n' side.peer = n side.peer :=
  ⟨_, reached.trans (reaches_update runs), Function.update_self ..,
    Function.update_of_ne side.peer_ne ..⟩

/-- What has been put on the wire is received without an exception. -/
theorem exists_receive_of_wire (reached : Reaches step Carried (fresh cfg random) n)
    (cycle : OneCycle cfg n side.peer) {segment : TCPSegment}
    (onWire : segment ∈ (n side.peer).wire) : ∃ e, (n side).receive segment = some e := by
  have consistent := consistent_of_reaches reached
  have conveying := consistent.conveying side.peer cycle
  rw [OneCycle] at cycle
  rw [Side.peer_peer] at conveying cycle
  obtain ⟨held, sound⟩ := conveying.sound
  exact exists_receive sound cycle
    ((consistent.emitting side.peer).genuine (List.mem_append_right _ onWire))

/-- Segments on the wire are received one after the other, in any order and number. -/
theorem exists_deliveries (reached : Reaches step Carried (fresh cfg random) n)
    (cycle : OneCycle cfg n side.peer) {segments : List TCPSegment}
    (onWire : ∀ segment ∈ segments, segment ∈ (n side.peer).wire) :
    ∃ n', Reaches step Carried (fresh cfg random) n' ∧
      segments.foldlM TCPConnection.segmentReceived (n side).conn = some (n' side).conn ∧
      Quiet (n side) (n' side) ∧ n' side.peer = n side.peer := by
  induction segments generalizing n with
  | nil => exact ⟨n, reached, rfl, .refl _, rfl⟩
  | cons segment rest ih =>
      obtain ⟨e, received⟩ :=
        exists_receive_of_wire reached cycle (onWire segment List.mem_cons_self)
      have runs : Runs (n side.peer) (n side) e :=
        RunsOn.receive .refl (onWire segment List.mem_cons_self) received
      obtain ⟨n₁, reached₁, self₁, peer₁⟩ := exists_update reached runs
      obtain ⟨n₂, reached₂, folded, quiet, peer₂⟩ := ih reached₁
        (by rwa [OneCycle, peer₁]) (fun later member => by
          rw [peer₁]
          exact onWire later (List.mem_cons_of_mem _ member))
      rw [self₁] at folded quiet
      refine ⟨n₂, reached₂, ?_, (quiet_receive received).trans quiet, peer₂.trans peer₁⟩
      obtain ⟨conn, called, made⟩ := Option.bind_eq_some_iff.mp received
      cases made
      rw [List.foldlM_cons, called]
      exact folded

/-- Everything that the other side has queued reaches `side`. -/
theorem exists_moveSegments (reached : Reaches step Carried (fresh cfg random) n)
    (cycle : OneCycle cfg n side.peer) (reorder : Bool) :
    ∃ n', Reaches step Carried (fresh cfg random) n' ∧
      Benchmark.moveSegments (n side.peer).conn (n side).conn reorder =
        .ok ((n' side.peer).conn, (n' side).conn) ∧
      Quiet (n side) (n' side) ∧ Quiet (n side.peer) (n' side.peer) := by
  have runs : Runs (n side.peer.peer) (n side.peer) (n side.peer).transmitAll :=
    RunsOn.transmitAll .refl
  obtain ⟨n₁, reached₁, source, destination⟩ := exists_update reached runs
  rw [Side.peer_peer] at destination
  obtain ⟨order, order_eq⟩ : ∃ order, order = if reorder then
      (n side.peer).conn.segmentsOut.reverse else (n side.peer).conn.segmentsOut := ⟨_, rfl⟩
  have onWire : ∀ segment ∈ order, segment ∈ (n₁ side.peer).wire := by
    intro segment member
    rw [source]
    refine List.mem_append_right _ ?_
    rw [order_eq] at member
    split at member
    · exact List.mem_reverse.mp member
    · exact member
  have within : OneCycle cfg n₁ side.peer := by
    rw [OneCycle, source]
    exact cycle
  obtain ⟨n₂, reached₂, folded, quiet, stays⟩ := exists_deliveries reached₁ within onWire
  rw [destination] at folded quiet
  rw [source] at stays
  refine ⟨n₂, reached₂, ?_, quiet, ?_⟩
  · simp only [Benchmark.moveSegments]
    rw [← order_eq, folded, stays]
    rfl
  · rw [stays]
    exact quiet_transmitAll _

end Network

namespace Benchmark

variable {wire : List TCPSegment}

/-! ## The parts of a round -/

/-- The loop that writes ends by its own condition, with nothing lost of what it is to write. -/
theorem exists_writeInput (fuel : Nat) (bytesToSend : Bytes) (enough : bytesToSend.length < fuel)
    (e : Endpoint) (isOpen : bytesToSend ≠ [] → e.conn.outboundStream.inputEnded = false) :
    ∃ e' rest, RunsOn wire e e' ∧ writeInput fuel e.conn bytesToSend = .ok (e'.conn, rest) ∧
      e'.accepted ++ rest = e.accepted ++ bytesToSend ∧ rest <:+ bytesToSend ∧
      e'.conn.outboundStream.inputEnded = e.conn.outboundStream.inputEnded ∧
      ¬ (rest.length ≠ 0 ∧ e'.conn.remainingOutboundCapacity ≠ 0) := by
  induction fuel generalizing bytesToSend e with
  | zero => exact absurd enough (Nat.not_lt_zero _)
  | succ fuel ih =>
      rw [writeInput]
      by_cases more : bytesToSend.length ≠ 0 ∧ e.conn.remainingOutboundCapacity ≠ 0
      · rw [if_pos more]
        obtain ⟨want, want_eq⟩ : ∃ want, want =
            min e.conn.remainingOutboundCapacity bytesToSend.length := ⟨_, rfl⟩
        have opened := isOpen (List.ne_nil_of_length_pos (Nat.pos_of_ne_zero more.1))
        have written : (e.conn.write (bytesToSend.take want)).2 = want := by
          refine (ByteStream.write_count_of_fits _ _ opened ?_).trans ?_
          · rw [List.length_take]
            exact (Nat.min_le_left _ _).trans (want_eq.trans_le (Nat.min_le_left _ _))
          · rw [List.length_take]
            omega
        have stays := TCPConnection.outboundEnded_of_step
          (step_act e (.write (bytesToSend.take want))) nofun
        obtain ⟨e', rest, runs, ran, whole, part, ended, left⟩ :=
          ih (bytesToSend.drop want) (by rw [List.length_drop]; omega)
            (e.act (.write (bytesToSend.take want))) (fun _ => stays.trans opened)
        refine ⟨e', rest, ?_, ?_, ?_, part.trans (List.drop_suffix _ _), ended.trans stays, left⟩
        · exact (RunsOn.act .refl (.write (bytesToSend.take want))).trans runs
        · dsimp only
          rw [← want_eq, written, if_neg (not_not.mpr rfl)]
          exact ran
        · rw [whole, Endpoint.act, written, List.take_take, Nat.min_self, List.append_assoc,
            List.take_append_drop]
      · rw [if_neg more]
        exact ⟨e, bytesToSend, .refl, rfl, rfl, List.suffix_refl _, rfl, more⟩

theorem exists_readOutput (e : Endpoint) :
    ∃ e', RunsOn wire e e' ∧ readOutput e.conn e.readBytes = (e'.conn, e'.readBytes) ∧
      e'.accepted = e.accepted ∧ e.readBytes <+: e'.readBytes := by
  rw [readOutput]
  split
  · exact ⟨_, RunsOn.act .refl (.read e.conn.inboundStream.bufferSize), rfl, rfl,
      List.prefix_append _ _⟩
  · exact ⟨e, .refl, rfl, rfl, List.prefix_refl _⟩

theorem exists_closeInput (e : Endpoint) (bytesToSend : Bytes) (xClosed : Bool)
    (ended : e.conn.outboundStream.inputEnded = xClosed) :
    ∃ e' xClosed', RunsOn wire e e' ∧
      closeInput e.conn bytesToSend xClosed = (e'.conn, xClosed') ∧
      e'.accepted = e.accepted ∧ e'.conn.outboundStream.inputEnded = xClosed' ∧
      (xClosed' = true → xClosed = true ∨ bytesToSend = []) := by
  rw [closeInput]
  split
  · rename_i finished
    refine ⟨_, true, RunsOn.act .refl .endInputStream, rfl, rfl, ?_, fun _ => ?_⟩
    · exact (TCPConnection.steady_inputEnded true).fillWindow _ rfl
    · exact .inr (List.length_eq_zero_iff.mp finished.1)
  · exact ⟨e, xClosed, .refl, rfl, rfl, ended, .inl⟩

/-! ## Rounds -/

/-- The values drawn for the initial sequence numbers. -/
def draws (randomX randomY : UInt32) : Side → UInt32
  | .a => randomX
  | .b => randomY

/-- The benchmark and a network in which the same has happened. -/
structure Represents (stringToSend : Bytes) (randomX randomY : UInt32) (b : Benchmark)
    (n : Network) : Prop where
  reached : Reaches Network.step Network.Carried
    (Network.fresh (fun _ => {}) (draws randomX randomY)) n
  x : (n .a).conn = b.x
  y : (n .b).conn = b.y
  input : (n .a).accepted ++ b.bytesToSend = stringToSend
  output : (n .b).readBytes = b.stringReceived
  silent : (n .b).accepted = []
  ended : (n .a).conn.outboundStream.inputEnded = b.xClosed
  done : b.xClosed = true → b.bytesToSend = []

variable {stringToSend : Bytes} {randomX randomY : UInt32} {b : Benchmark} {n : Network}

theorem represents_start (stringToSend : Bytes) (randomX randomY : UInt32) :
    ∃ n, Represents stringToSend randomX randomY (start stringToSend randomX randomY) n := by
  have reached : Reaches Network.step Network.Carried
      (Network.fresh (fun _ => {}) (draws randomX randomY))
      (Network.fresh (fun _ => {}) (draws randomX randomY)) := .refl
  have connected := reached.tail (Move.act .a .connect) trivial rfl
  have ended := connected.tail (Move.act .b .endInputStream) trivial rfl
  refine ⟨_, ended, rfl, rfl, rfl, rfl, rfl, ?_, nofun⟩
  exact (TCPConnection.steady_inputEnded false).fillWindow _ rfl

theorem Represents.cycle (represents : Represents stringToSend randomX randomY b n)
    (cycle : stringToSend.length + 64000 + 2 < 2 ^ 32) :
    Network.OneCycle (fun _ => {}) n .a := by
  have length := congrArg List.length represents.input
  rw [List.length_append] at length
  have capacity : ({} : TCPConfig).recvCapacity = 64000 := rfl
  rw [Network.OneCycle, capacity]
  omega

/-- The network moves on without the applications. -/
theorem Represents.quiet (represents : Represents stringToSend randomX randomY b n)
    {n' : Network} (reached : Reaches Network.step Network.Carried
      (Network.fresh (fun _ => {}) (draws randomX randomY)) n')
    (quietX : Quiet (n .a) (n' .a)) (quietY : Quiet (n .b) (n' .b)) :
    Represents stringToSend randomX randomY
      { b with x := (n' .a).conn, y := (n' .b).conn } n' where
  reached := reached
  x := rfl
  y := rfl
  input := (congrArg (· ++ b.bytesToSend) quietX.accepted).trans represents.input
  output := quietY.readBytes.trans represents.output
  silent := quietY.accepted.trans represents.silent
  ended := quietX.ended.trans represents.ended
  done := represents.done

/-- Writing, and closing once everything has been written. -/
theorem Represents.exists_input (represents : Represents stringToSend randomX randomY b n) :
    ∃ x₁ x bytesToSend xClosed n',
      writeInput (b.bytesToSend.length + 1) b.x b.bytesToSend = .ok (x₁, bytesToSend) ∧
      closeInput x₁ bytesToSend b.xClosed = (x, xClosed) ∧
      Represents stringToSend randomX randomY { b with x, bytesToSend, xClosed } n' := by
  have isOpen : b.bytesToSend ≠ [] → (n .a).conn.outboundStream.inputEnded = false := by
    intro unsent
    rw [represents.ended, ← Bool.not_eq_true]
    exact fun closed => unsent (represents.done closed)
  obtain ⟨e₁, rest, runs₁, wrote, whole, part, ended₁, _⟩ :=
    exists_writeInput _ b.bytesToSend (Nat.lt_succ_self _) (n .a) isOpen
  obtain ⟨e₂, xClosed, runs₂, shut, accepted₂, ended₂, done₂⟩ :=
    exists_closeInput e₁ rest b.xClosed (ended₁.trans represents.ended)
  obtain ⟨n', reached, self, peer⟩ := Network.exists_update represents.reached
    (runs₁.trans runs₂ : Runs (n (Side.peer .a)) (n .a) e₂)
  rw [represents.x] at wrote
  refine ⟨e₁.conn, e₂.conn, rest, xClosed, n', wrote, shut, reached, by rw [self], ?_, ?_, ?_, ?_,
    by rw [self]; exact ended₂, fun isClosed => ?_⟩
  · exact (congrArg Endpoint.conn peer).trans represents.y
  · rw [self, accepted₂, whole, represents.input]
  · exact (congrArg Endpoint.readBytes peer).trans represents.output
  · exact (congrArg Endpoint.accepted peer).trans represents.silent
  · rcases done₂ isClosed with before | nothing
    · rw [represents.done before] at part
      exact List.suffix_nil.mp part
    · exact nothing

/-- The segments of `x` are handed to `y`. -/
theorem Represents.exists_forth (represents : Represents stringToSend randomX randomY b n)
    (cycle : stringToSend.length + 64000 + 2 < 2 ^ 32) (reorder : Bool) :
    ∃ x y n', moveSegments b.x b.y reorder = .ok (x, y) ∧
      Represents stringToSend randomX randomY { b with x, y } n' := by
  have within : Network.OneCycle (fun _ => {}) n (Side.peer .b) := represents.cycle cycle
  obtain ⟨n', reached, moved, quietY, quietX⟩ :=
    Network.exists_moveSegments represents.reached within reorder
  rw [← represents.x, ← represents.y]
  exact ⟨_, _, n', moved, represents.quiet reached quietX quietY⟩

/-- And those of `y` to `x`. -/
theorem Represents.exists_back (represents : Represents stringToSend randomX randomY b n) :
    ∃ y x n', moveSegments b.y b.x false = .ok (y, x) ∧
      Represents stringToSend randomX randomY { b with x, y } n' := by
  have within : Network.OneCycle (fun _ => {}) n (Side.peer .a) := by
    rw [Network.OneCycle]
    refine Nat.lt_of_le_of_lt (Nat.le_of_eq ?_) (by decide : 0 + 64000 + 2 < 2 ^ 32)
    exact congrArg (fun accepted : Bytes => accepted.length + 64000 + 2) represents.silent
  obtain ⟨n', reached, moved, quietX, quietY⟩ :=
    Network.exists_moveSegments represents.reached within false
  rw [← represents.x, ← represents.y]
  exact ⟨_, _, n', moved, represents.quiet reached quietX quietY⟩

theorem Represents.exists_output (represents : Represents stringToSend randomX randomY b n) :
    ∃ y stringReceived n', readOutput b.y b.stringReceived = (y, stringReceived) ∧
      Represents stringToSend randomX randomY { b with y, stringReceived } n' ∧
      b.stringReceived <+: stringReceived := by
  obtain ⟨e, runs, read, accepted, part⟩ := exists_readOutput (n .b)
  obtain ⟨n', reached, self, peer⟩ := Network.exists_update represents.reached
    (runs : Runs (n (Side.peer .b)) (n .b) e)
  have stays : n' .a = n .a := peer
  rw [represents.y, represents.output] at read
  rw [represents.output] at part
  exact ⟨e.conn, e.readBytes, n', read, ⟨reached, by rw [stays]; exact represents.x, by rw [self],
    by rw [stays]; exact represents.input, by rw [self],
    by rw [self]; exact accepted.trans represents.silent,
    by rw [stays]; exact represents.ended, represents.done⟩, part⟩

theorem Represents.tick (represents : Represents stringToSend randomX randomY b n) :
    ∃ n', Represents stringToSend randomX randomY
      { b with x := b.x.tick 1000, y := b.y.tick 1000 } n' := by
  have ticked := (represents.reached.tail (Move.act .a (.tick 1000)) trivial rfl).tail
    (Move.act .b (.tick 1000)) trivial rfl
  have moved := represents.quiet ticked (quiet_tick (n .a) 1000) (quiet_tick (n .b) 1000)
  rw [← represents.x, ← represents.y]
  exact ⟨_, moved⟩

/-- A round does not throw, and it is one of the network. -/
theorem Represents.exists_loop (represents : Represents stringToSend randomX randomY b n)
    (cycle : stringToSend.length + 64000 + 2 < 2 ^ 32) (reorder : Bool) :
    ∃ b' n', loop reorder b = .ok b' ∧ Represents stringToSend randomX randomY b' n' ∧
      b.stringReceived <+: b'.stringReceived := by
  obtain ⟨_, _, _, _, _, wrote, closed, represents₁⟩ := represents.exists_input
  obtain ⟨_, _, _, forth, represents₂⟩ := represents₁.exists_forth cycle reorder
  obtain ⟨_, _, _, back, represents₃⟩ := represents₂.exists_back
  obtain ⟨_, _, _, read, represents₄, part⟩ := represents₃.exists_output
  obtain ⟨n', represents₅⟩ := represents₄.tick
  refine ⟨_, n', ?_, represents₅, part⟩
  rw [loop, wrote]
  simp only [bind, Except.bind, closed, forth, back, read]

/-- What has been read is the front of the string, and all of it when `y` has reached its end. -/
theorem Represents.received (represents : Represents stringToSend randomX randomY b n)
    (cycle : stringToSend.length + 64000 + 2 < 2 ^ 32) :
    b.stringReceived <+: stringToSend ∧
      (b.y.inboundStream.eof = true → b.stringReceived = stringToSend) := by
  have consistent := Network.consistent_of_reaches represents.reached
  obtain ⟨held, sound⟩ := (consistent.conveying .a (represents.cycle cycle)).sound
  obtain ⟨part, whenEnded⟩ := sound.delivered
  have written : (n .a).accepted <+: stringToSend := ⟨_, represents.input⟩
  have front := ((List.prefix_append _ _).trans part).trans written
  rw [← represents.output, ← represents.y]
  refine ⟨front, fun atEnd => ?_⟩
  obtain ⟨empty, ended⟩ := (ByteStream.eof_iff _).mp atEnd
  obtain ⟨closed, all⟩ := whenEnded ended
  have nothing := represents.done (represents.ended.symm.trans closed)
  have input := represents.input
  rw [nothing, List.append_nil] at input
  have buffer : (n (Side.peer .a)).conn.receiver.streamOut.buffer = [] := empty
  rw [buffer, List.append_nil] at all
  exact all.trans input

/-! ## The loops -/

/-- The benchmark goes on, and has received `string` or more. -/
def Proceeds (stringToSend : Bytes) (randomX randomY : UInt32) (string : Bytes)
    (outcome : Except Fault Benchmark) : Prop :=
  ∃ b n, outcome = .ok b ∧ Represents stringToSend randomX randomY b n ∧
    string <+: b.stringReceived

theorem proceeds_loop {string : Bytes}
    (cycle : stringToSend.length + 64000 + 2 < 2 ^ 32) {reorder : Bool}
    (represents : Represents stringToSend randomX randomY b n)
    (part : string <+: b.stringReceived) :
    Proceeds stringToSend randomX randomY string (loop reorder b) := by
  obtain ⟨b', n', ran, represents', more⟩ := represents.exists_loop cycle reorder
  exact ⟨b', n', ran, represents', part.trans more⟩

/-- It never receives more than the string. -/
theorem Proceeds.all {outcome : Except Fault Benchmark}
    (proceeds : Proceeds stringToSend randomX randomY stringToSend outcome)
    (cycle : stringToSend.length + 64000 + 2 < 2 ^ 32) :
    ∃ b, outcome = .ok b ∧ b.stringReceived = stringToSend := by
  obtain ⟨b, n, same, represents, all⟩ := proceeds
  have part := (represents.received cycle).1
  exact ⟨b, same, part.eq_of_length_le all.length_le⟩

theorem proceeds_receiving (cycle : stringToSend.length + 64000 + 2 < 2 ^ 32) {reorder : Bool}
    {outcome : Except Fault Benchmark}
    (visits : Visits (receiving reorder) (.ok (start stringToSend randomX randomY)) outcome) :
    Proceeds stringToSend randomX randomY [] outcome := by
  refine visits.invariant _ ?_ ?_
  · obtain ⟨n, represents⟩ := represents_start stringToSend randomX randomY
    exact ⟨_, n, rfl, represents, List.nil_prefix⟩
  · rintro _ next ⟨b, n, rfl, represents, part⟩ went
    rw [receiving] at went
    split at went
    · cases went
    · cases went
      exact proceeds_loop cycle represents part

theorem proceeds_closing (cycle : stringToSend.length + 64000 + 2 < 2 ^ 32) {reorder : Bool}
    {received outcome : Except Fault Benchmark}
    (first : Completes (receiving reorder) (.ok (start stringToSend randomX randomY)) received)
    (visits : Visits (closing reorder) (compare stringToSend received) outcome) :
    Proceeds stringToSend randomX randomY stringToSend outcome := by
  refine visits.invariant _ ?_ ?_
  · obtain ⟨last, before, left⟩ := first.exists_visits
    obtain ⟨b, n, rfl, represents, _⟩ := proceeds_receiving cycle before
    rw [receiving] at left
    split at left
    · rename_i atEnd
      cases left
      have all := (represents.received cycle).2 atEnd
      refine ⟨b, n, ?_, represents, by rw [all]⟩
      rw [compare, if_neg (not_not.mpr all)]
    · cases left
  · rintro _ next ⟨b, n, rfl, represents, part⟩ went
    rw [closing] at went
    split at went
    · cases went
      exact proceeds_loop cycle represents part
    · cases went

/--
Whatever the string, as long as it fits in one cycle of sequence numbers, whatever the
initial sequence numbers, and in order or not: no round of the benchmark throws, what has
been received is always the front of the string, it is all of it when the first loop is
left, so that the comparison does not throw either, and when the second loop is left both
connections are inactive.
-/
theorem main_loop_never_throws (stringToSend : Bytes)
    (cycle : stringToSend.length + 64000 + 2 < 2 ^ 32) (reorder : Bool)
    (randomX randomY : UInt32) :
    (∀ outcome,
      Visits (receiving reorder) (.ok (start stringToSend randomX randomY)) outcome →
        ∃ b, outcome = .ok b ∧ b.stringReceived <+: stringToSend) ∧
      (∀ received,
        Completes (receiving reorder) (.ok (start stringToSend randomX randomY)) received →
          ∀ outcome, Visits (closing reorder) (compare stringToSend received) outcome →
            ∃ b, outcome = .ok b ∧ b.stringReceived = stringToSend) ∧
      ∀ outcome, MainLoop reorder stringToSend randomX randomY outcome →
        ∃ b, outcome = .ok b ∧ b.stringReceived = stringToSend ∧ b.x.active = false ∧
          b.y.active = false := by
  refine ⟨fun outcome visits => ?_, fun received first outcome visits => ?_, fun outcome ran => ?_⟩
  · obtain ⟨b, n, same, represents, _⟩ := proceeds_receiving cycle visits
    exact ⟨b, same, (represents.received cycle).1⟩
  · exact (proceeds_closing cycle first visits).all cycle
  · obtain ⟨received, first, rest⟩ := ran
    obtain ⟨last, visits, left⟩ := rest.exists_visits
    obtain ⟨b, rfl, all⟩ := (proceeds_closing cycle first visits).all cycle
    rw [closing] at left
    split at left
    · cases left
    · rename_i inactive
      cases left
      rw [Bool.or_eq_true, not_or, Bool.not_eq_true, Bool.not_eq_true] at inactive
      exact ⟨b, rfl, all, inactive⟩

/-- Two bytes, handed over in reverse. -/
theorem main_loop_never_throws_reordered :
    ∃ b, MainLoop true [104, 105] 7 9 (.ok b) ∧ b.stringReceived = [104, 105] ∧
      b.x.active = false ∧ b.y.active = false := by
  have ran : ((run (receiving true) 20 (.ok (start [104, 105] 7 9))).bind fun received =>
      run (closing true) 20 (compare [104, 105] received)).isSome = true := by
    decide +kernel
  obtain ⟨outcome, ended⟩ := Option.isSome_iff_exists.mp ran
  obtain ⟨received, first, rest⟩ := Option.bind_eq_some_iff.mp ended
  have completes : MainLoop true [104, 105] 7 9 outcome :=
    ⟨received, completes_of_run first, completes_of_run rest⟩
  obtain ⟨b, rfl, facts⟩ :=
    (main_loop_never_throws [104, 105] (by decide) true 7 9).2.2 outcome completes
  exact ⟨b, completes, facts⟩

end Benchmark

end Sponge
