import Sponge.Runtime.Socket

/-!
# Two sockets over an unreliable network

Each application writes to its pipe, ends its stream or gives up at any time; each
socket goes round its loop whenever it likes, and a datagram that one of them has
sent may reach the other late, often, out of order or never.  Two sockets do what
two endpoints do, so what is true of every run of the endpoints is true of what the
applications see.
-/

namespace Sponge

open Endpoint EventLoop SpongeSocket Network

variable {α π ω : Type} {adapter : FdAdapter α π ω} {cfg : Side → TCPConfig}
  {random : Side → UInt32} {adapters : Side → α}

/-- A socket on each side. -/
abbrev Stack (α π : Type) := Side → Socket α π

/-- A sender that has reached the end of its stream with nothing in flight has conveyed it all. -/
theorem Network.Consistent.received_all {n : Network} (consistent : Consistent cfg random n)
    {side : Side} (cycle : OneCycle cfg n side) (atEnd : (n side).conn.outboundStream.eof = true)
    (idle : (n side).conn.bytesInFlight = 0) :
    (n side.peer).readBytes ++ (n side.peer).conn.inboundStream.buffer = (n side).accepted := by
  have conveying := consistent.conveying side cycle
  obtain ⟨held, sound⟩ := conveying.sound
  obtain ⟨firsts, settled⟩ := (consistent.emitting side).sending.settled
  obtain ⟨bounded, assembled⟩ := TCPReceiver.assembled_le sound.refines sound.agrees
  have acked := conveying.acked
  rw [settled.bytesInFlight_eq_zero_iff.mp idle] at acked
  have total := settled.length_eq
  have empty : (n side).conn.sender.stream.buffer = [] := ((ByteStream.eof_iff _).mp atEnd).1
  rw [empty, List.length_nil] at total
  suffices (n side).accepted.length ≤ (n side.peer).conn.receiver.reassembler.nextIndex by
    exact assembled.trans (List.take_of_length_le this)
  by_cases started : (n side).conn.sender.nextSeqno = 0
  · have unread := (settled.fresh started).bytesRead
    omega
  · have position := settled.position started
    unfold TCPReceiver.absAckno at acked
    split at acked
    · omega
    · split at acked
      · rename_i isEnded
        rw [(sound.ended isEnded).2]
      · omega

namespace Stack

/-- What the applications do, and a round of the loop of a socket. -/
inductive Move (π ω : Type) where
  | connect (side : Side)
  | listenAndAccept (side : Side)
  | write (side : Side) (data : Bytes)
  | close (side : Side)
  | abort (side : Side)
  | round (side : Side) (poll : Poll SocketRule) (answer : SocketRule → Answer π ω)
      (elapsed : Nat)

def fresh (cfg : Side → TCPConfig) (random : Side → UInt32) (adapters : Side → α) : Stack α π :=
  fun side =>
    { host := {
        tcp := TCPConnection.new (cfg side) (random side)
        datagramAdapter := adapters side } }

/-- The application writes to its end of the pipe. -/
def writeTo (socket : Socket α π) (data : Bytes) : Socket α π :=
  { socket with
    host := { socket.host with
      pipe := { socket.host.pipe with unread := socket.host.pipe.unread ++ data } } }

/-- The application ends its stream. -/
def closeOf (socket : Socket α π) : Socket α π :=
  { socket with host := { socket.host with pipe := { socket.host.pipe with closed := true } } }

/-- The destructor of the socket sets its flag. -/
def abortOf (socket : Socket α π) : Socket α π :=
  { socket with host := { socket.host with abort := true } }

/-- What becomes of the socket that moves; an exception ends the run. -/
def moved (adapter : FdAdapter α π ω) (cfg : Side → TCPConfig) (random : Side → UInt32)
    (stack : Stack α π) : Move π ω → Option (Side × Socket α π)
  | .connect side => (connect (cfg side) (random side) (stack side)).map (side, ·)
  | .listenAndAccept side => (listenAndAccept (cfg side) (random side) (stack side)).map (side, ·)
  | .write side data => some (side, writeTo (stack side) data)
  | .close side => some (side, closeOf (stack side))
  | .abort side => some (side, abortOf (stack side))
  | .round side poll answer elapsed =>
      (round adapter (stack side) poll answer elapsed).toOption.map (side, ·)

def step (adapter : FdAdapter α π ω) (cfg : Side → TCPConfig) (random : Side → UInt32)
    (stack : Stack α π) (move : Move π ω) : Option (Stack α π) :=
  (moved adapter cfg random stack move).map fun (side, socket) => Function.update stack side socket

/--
An application does not write after the end of its stream, and cannot once its end has
been shut down.  A datagram that is delivered was sent by the other side, and a pipe
hangs up with nothing to read when its other end is closed and it is empty.
-/
def Possible (stack : Stack α π) : Move π ω → Prop
  | .write side _ =>
      (stack side).host.pipe.closed = false ∧ (stack side).host.pipe.cutOff = false
  | .round side poll answer _ =>
      (∀ datagram ∈ (answer .datagramIn).datagram, datagram ∈ (stack side.peer).host.sent) ∧
        (HungUp poll → (stack side).host.pipe.Drained)
  | _ => True

instance [DecidableEq π] (stack : Stack α π) :
    (move : Move π ω) → Decidable (Possible stack move)
  | .connect _ | .listenAndAccept _ | .close _ | .abort _ => inferInstanceAs (Decidable True)
  | .write _ _ => inferInstanceAs (Decidable (_ = false ∧ _ = false))
  | .round _ _ _ _ => inferInstanceAs (Decidable ((∀ _ ∈ _, _) ∧ (HungUp _ → _)))

/-- The stacks reached from the start. -/
def Runs (adapter : FdAdapter α π ω) (cfg : Side → TCPConfig) (random : Side → UInt32)
    (adapters : Side → α) : Stack α π → Prop :=
  Reaches (step adapter cfg random) Possible (fresh cfg random adapters)

/-! ## Refinement -/

/-- The socket stands for the endpoint. -/
structure Realizes (adapter : FdAdapter α π ω) (cfg : TCPConfig) (random : UInt32)
    (socket : Socket α π) (e : Endpoint) : Prop where
  intact : Intact socket.host
  mirrors : Mirrors adapter socket.host e
  ordered : socket.rules.Sublist allRules
  unused : socket.phase = .unused →
    socket.rules = [] ∧ socket.host.tcp = TCPConnection.new cfg random
  /-- The end of the application is shut down after the last loop. -/
  cutOff : socket.host.pipe.cutOff = true → socket.phase = .finished

section Moves

variable {cfg : TCPConfig} {random : UInt32} {socket socket' : Socket α π} {e peer : Endpoint}

theorem realizes_fresh (adapter : FdAdapter α π ω) (cfg : TCPConfig) (random : UInt32)
    (datagramAdapter : α) :
    Realizes adapter cfg random
      { host := { tcp := TCPConnection.new cfg random, datagramAdapter } }
      (Endpoint.fresh cfg random) where
  intact := ⟨rfl, Bool.noConfusion, Bool.noConfusion, rfl, Bool.noConfusion, rfl⟩
  mirrors := ⟨rfl, rfl, rfl, fun _ member => absurd member List.not_mem_nil⟩
  ordered := List.nil_sublist _
  unused _ := ⟨rfl, rfl⟩
  cutOff := Bool.noConfusion

/-- What the application does to its end of the pipe does not show yet. -/
theorem Realizes.pipe (realizes : Realizes adapter cfg random socket e) {pipe : Pipe} {abort : Bool}
    (taken : pipe.taken = socket.host.pipe.taken)
    (delivered : pipe.delivered = socket.host.pipe.delivered)
    (shut : pipe.shut = socket.host.pipe.shut) (cutOff : pipe.cutOff = socket.host.pipe.cutOff)
    (drained : socket.host.pipe.Drained → pipe.Drained) :
    Realizes adapter cfg random { socket with host := { socket.host with pipe, abort } } e where
  intact := {
    ended := realizes.intact.ended
    drained := drained ∘ realizes.intact.drained
    atEnd := realizes.intact.atEnd
    isOpen := realizes.intact.isOpen
    finished := realizes.intact.finished
    shut := by
      rw [shut, cutOff]
      exact realizes.intact.shut }
  mirrors := ⟨realizes.mirrors.conn, realizes.mirrors.accepted.trans taken.symm,
    realizes.mirrors.readBytes.trans delivered.symm, realizes.mirrors.sent⟩
  ordered := realizes.ordered
  unused := realizes.unused
  cutOff := fun isCut => realizes.cutOff (cutOff.symm.trans isCut)

theorem Realizes.initializeTCP (realizes : Realizes adapter cfg random socket e)
    (unused : socket.phase = .unused) :
    SpongeSocket.initializeTCP cfg random socket = { socket with rules := allRules } := by
  obtain ⟨none, new⟩ := realizes.unused unused
  rw [SpongeSocket.initializeTCP, none, ← new]
  rfl

/-- The end of the application is not shut down before the last loop is over. -/
theorem Realizes.uncut {phase : Phase} (realizes : Realizes adapter cfg random socket e)
    (going : socket.phase ≠ .finished) (isCut : socket.host.pipe.cutOff = true) :
    phase = .finished :=
  absurd (realizes.cutOff isCut) going

theorem Realizes.connect (realizes : Realizes adapter cfg random socket e)
    (ran : SpongeSocket.connect cfg random socket = some socket') :
    Realizes adapter cfg random socket' (e.act .connect) := by
  rw [SpongeSocket.connect] at ran
  split at ran
  · cases ran
  · rename_i unused
    rw [realizes.initializeTCP (not_not.mp unused)] at ran
    dsimp only at ran
    split at ran
    · cases ran
    · cases ran
      have next : socket.host.tcp.step .connect = some socket.host.tcp.connect := rfl
      exact ⟨realizes.intact.call (fun closes => by cases closes) next,
        ⟨congrArg TCPConnection.connect realizes.mirrors.conn, realizes.mirrors.accepted,
          realizes.mirrors.readBytes, realizes.mirrors.sent⟩, .refl _, nofun,
        realizes.uncut (by rw [not_not.mp unused]; decide)⟩

theorem Realizes.listenAndAccept (realizes : Realizes adapter cfg random socket e)
    (ran : SpongeSocket.listenAndAccept cfg random socket = some socket') :
    Realizes adapter cfg random socket' e := by
  rw [SpongeSocket.listenAndAccept] at ran
  split at ran
  · cases ran
  · rename_i unused
    rw [realizes.initializeTCP (not_not.mp unused)] at ran
    cases ran
    exact ⟨realizes.intact, realizes.mirrors, .refl _, nofun,
      realizes.uncut (by rw [not_not.mp unused]; decide)⟩

/-- Leaving a loop touches nothing but the end of the application. -/
theorem Realizes.leave (realizes : Realizes adapter cfg random socket e) :
    Realizes adapter cfg random (SpongeSocket.leave socket) e := by
  obtain ⟨intact, mirrors, ordered, unused, cutOff⟩ := id realizes
  unfold SpongeSocket.leave
  cases phase : socket.phase with
  | connecting | listening =>
      exact ⟨intact, mirrors, ordered, nofun, realizes.uncut (by rw [phase]; decide)⟩
  | main =>
      refine ⟨⟨intact.ended, intact.drained, intact.atEnd, intact.isOpen, intact.finished, ?_⟩,
        ⟨mirrors.conn, mirrors.accepted, mirrors.readBytes, mirrors.sent⟩, ordered, nofun,
        fun _ => rfl⟩
      exact (Bool.or_true _).symm
  | unused | finished => exact realizes

/-- A loop that goes round has begun and has not ended. -/
theorem running_of_condition (looping : condition socket = true) :
    socket.phase ≠ .unused ∧ socket.phase ≠ .finished := by
  rw [condition] at looping
  constructor
  all_goals
    intro phase
    rw [phase] at looping
    cases looping

theorem Realizes.nodup (realizes : Realizes adapter cfg random socket e) : socket.rules.Nodup :=
  (by decide : allRules.Nodup).sublist realizes.ordered

/-- A round is a run of the endpoint. -/
theorem Realizes.round (faithful : adapter.Faithful) (packaged : Packaged e)
    (realizes : Realizes adapter cfg random socket e) {poll : Poll SocketRule}
    {answers : SocketRule → Answer π ω} {elapsed : Nat}
    (admissible : Admissible adapter peer socket.host poll answers)
    (ran : SpongeSocket.round adapter socket poll answers elapsed = .ok socket') :
    ∃ e', Endpoint.Runs peer e e' ∧ Realizes adapter cfg random socket' e' := by
  rw [SpongeSocket.round] at ran
  split at ran
  · rename_i looping
    cases outcome : tcpLoop adapter socket.rules socket.host poll answers elapsed with
    | error error =>
        rw [outcome] at ran
        cases ran
    | ok final =>
        obtain ⟨again, rules, host⟩ := final
        rw [outcome] at ran
        cases ran
        obtain ⟨⟨intact, e', runs, mirrors⟩, fewer, same⟩ := follows_tcpLoop faithful packaged
          admissible ⟨realizes.intact, e, .refl, realizes.mirrors⟩ realizes.nodup outcome
        have served : Realizes adapter cfg random { socket with rules, host } e' :=
          ⟨intact, mirrors, fewer.trans realizes.ordered,
            fun unused => absurd unused (running_of_condition looping).1,
            fun isCut => realizes.cutOff (same.symm.trans isCut)⟩
        refine ⟨e', runs, ?_⟩
        split
        · exact served
        · exact served.leave
  · cases ran
    exact ⟨e, .refl, realizes.leave⟩

end Moves

variable {stack : Stack α π} {n : Network}

/-- Each socket stands for the endpoint of its side. -/
def Refines (adapter : FdAdapter α π ω) (cfg : Side → TCPConfig) (random : Side → UInt32)
    (stack : Stack α π) (n : Network) : Prop :=
  ∀ side, Realizes adapter (cfg side) (random side) (stack side) (n side)

theorem Refines.update (refines : Refines adapter cfg random stack n) {side : Side}
    {socket : Socket α π} {e : Endpoint}
    (realizes : Realizes adapter (cfg side) (random side) socket e) :
    Refines adapter cfg random (Function.update stack side socket) (Function.update n side e) := by
  refine (Function.forall_update_iff stack fun other socket => Realizes adapter (cfg other)
    (random other) socket (Function.update n side e other)).mpr ⟨?_, fun other different => ?_⟩
  · rwa [Function.update_self]
  · rw [Function.update_of_ne different]
    exact refines other

theorem Refines.admissible (refines : Refines adapter cfg random stack n) {side : Side}
    {poll : Poll SocketRule} {answers : SocketRule → Answer π ω} {elapsed : Nat}
    (possible : Possible stack (.round side poll answers elapsed)) :
    Admissible adapter (n side.peer) (stack side).host poll answers where
  known datagram delivered :=
    (refines side.peer).mirrors.sent datagram (possible.1 datagram delivered)
  hungUp := possible.2

/-- A move of the sockets is a run of one of the endpoints. -/
theorem Refines.moved (faithful : adapter.Faithful) (packaged : ∀ side, Packaged (n side))
    (refines : Refines adapter cfg random stack n) {move : Move π ω} {side : Side}
    {socket : Socket α π} (possible : Possible stack move)
    (next : moved adapter cfg random stack move = some (side, socket)) :
    ∃ e, Endpoint.Runs (n side.peer) (n side) e ∧
      Realizes adapter (cfg side) (random side) socket e := by
  cases move with
  | connect mover =>
      obtain ⟨_, ran, same⟩ := Option.map_eq_some_iff.mp next
      cases same
      exact ⟨_, Reaches.refl.tail (.act .connect) trivial rfl, (refines side).connect ran⟩
  | listenAndAccept mover =>
      obtain ⟨_, ran, same⟩ := Option.map_eq_some_iff.mp next
      cases same
      exact ⟨_, .refl, (refines side).listenAndAccept ran⟩
  | write mover data =>
      cases next
      refine ⟨_, .refl, (refines side).pipe rfl rfl rfl rfl fun drained => ?_⟩
      exact absurd (possible.1.symm.trans drained.2) Bool.false_ne_true
  | close mover =>
      cases next
      exact ⟨_, .refl, (refines side).pipe rfl rfl rfl rfl fun drained => ⟨drained.1, rfl⟩⟩
  | abort mover =>
      cases next
      exact ⟨_, .refl, (refines side).pipe rfl rfl rfl rfl id⟩
  | round mover poll answers elapsed =>
      obtain ⟨final, ran, same⟩ := Option.map_eq_some_iff.mp next
      cases same
      exact (refines side).round faithful (packaged side) (refines.admissible possible)
        (ok_of_toOption ran)

/-- Whatever two sockets do, two endpoints can do. -/
theorem exists_refines (faithful : adapter.Faithful)
    (reached : Runs adapter cfg random adapters stack) :
    ∃ n, Reaches Network.step Network.Carried (Network.fresh cfg random) n ∧
      Refines adapter cfg random stack n := by
  refine reached.invariant (fun stack => ∃ n,
    Reaches Network.step Network.Carried (Network.fresh cfg random) n ∧
      Refines adapter cfg random stack n) ⟨_, .refl, fun side => realizes_fresh adapter _ _ _⟩ ?_
  rintro stack move final ⟨n, reached, refines⟩ possible next
  obtain ⟨⟨side, socket⟩, happened, rfl⟩ := Option.map_eq_some_iff.mp next
  obtain ⟨e, runs, realizes⟩ :=
    refines.moved faithful (Network.packaged_of_reaches reached) possible happened
  exact ⟨_, reached.trans (Network.reaches_update runs), refines.update realizes⟩

/-! ## What the applications see -/

section Exchange

/-- A round in which one rule is served. -/
def serving (side : Side) (name : SocketRule) (datagram : Option π) (count : Nat) : Move π Unit :=
  .round side
    (.ready fun other => { readable := decide (other = name), writable := decide (other = name) })
    (fun _ => { datagram, count, taken := some count, draws := fun _ => () }) 10

/-- One side connects to the other, writes a byte and ends its stream. -/
def exchange : List (Stack α π → Move π Unit) :=
  [fun _ => .connect .a,
    fun _ => .listenAndAccept .b,
    fun _ => .write .a [104],
    fun _ => .close .a,
    fun _ => serving .a .datagramOut none 0,
    fun stack => serving .b .datagramIn (stack .a).host.sent[0]? 0,
    fun _ => serving .b .datagramOut none 0,
    fun stack => serving .a .datagramIn (stack .b).host.sent[0]? 0,
    -- the loop of `connect` ends
    fun _ => serving .a .pipeIn none 0,
    fun _ => serving .a .pipeIn none 1,
    fun _ => serving .a .pipeIn none 0,
    fun _ => serving .a .datagramOut none 0,
    fun stack => serving .b .datagramIn (stack .a).host.sent[2]? 0,
    -- the loop of `listen_and_accept` ends
    fun stack => serving .b .datagramIn (stack .a).host.sent[3]? 0,
    fun stack => serving .b .datagramIn (stack .a).host.sent[3]? 0,
    fun _ => serving .b .pipeOut none 1]

/-- The other side ends its stream, too. -/
def farewell : List (Stack α π → Move π Unit) :=
  [fun _ => .close .b,
    fun _ => serving .b .pipeIn none 0,
    fun _ => serving .b .datagramOut none 0,
    fun stack => serving .a .datagramIn (stack .b).host.sent.getLast? 0,
    fun _ => serving .a .datagramOut none 0,
    fun stack => serving .b .datagramIn (stack .a).host.sent.getLast? 0]

/-- Two adapters of TUN devices; one of them listens. -/
def tunAdapters : Side → TCPOverIPv4OverTunFdAdapter
  | .a => { cfg := { source := ⟨1, 10⟩, destination := ⟨2, 20⟩ } }
  | .b => { cfg := { source := ⟨2, 20⟩ }, listen := true }

/-- The system has nothing to offer. -/
def silence (_ : SocketRule) : Answer Bytes Unit :=
  { datagram := none, count := 0, taken := none, draws := fun _ => () }

def smallConfig (_ : Side) : TCPConfig := { recvCapacity := 4, sendCapacity := 4 }

/-- What two sockets over TUN devices do. -/
abbrev overTun (moves : List (Stack TCPOverIPv4OverTunFdAdapter Bytes → Move Bytes Unit)) :
    Option (Stack TCPOverIPv4OverTunFdAdapter Bytes) :=
  execute (step TCPOverIPv4OverTunFdAdapter.fdAdapter smallConfig fun _ => 7) Possible
    (fresh smallConfig (fun _ => 7) tunAdapters) moves

end Exchange

/--
In every run of two sockets over an adapter that carries what is emitted, the
connections, the bytes taken from each application and the bytes given to it are
those of two endpoints in a run over a network that may lose, repeat, delay and
reorder segments, and each datagram carries a segment that its endpoint has sent.
-/
theorem sockets_refine_endpoints (faithful : adapter.Faithful)
    (reached : Runs adapter cfg random adapters stack) :
    ∃ n, Reaches Network.step Network.Carried (Network.fresh cfg random) n ∧
      ∀ side, (n side).conn = (stack side).host.tcp ∧
        (n side).accepted = (stack side).host.pipe.taken ∧
        (n side).readBytes = (stack side).host.pipe.delivered ∧
        ∀ datagram ∈ (stack side).host.sent, ∃ segment ∈ (n side).wire, Sendable segment ∧
          ∃ state draw datagrams state',
            adapter.write state segment draw = some (datagrams, state') ∧
              datagram ∈ datagrams := by
  obtain ⟨n, runs, refines⟩ := exists_refines faithful reached
  refine ⟨n, runs, fun side => ?_⟩
  have mirrors := (refines side).mirrors
  exact ⟨mirrors.conn, mirrors.accepted, mirrors.readBytes, mirrors.sent⟩

/-- A byte crosses two TUN devices. -/
theorem sockets_refine_endpoints_tun :
    ∃ n, Reaches Network.step Network.Carried (Network.fresh smallConfig fun _ => 7) n ∧
      (n .a).accepted = [104] ∧ (n .b).readBytes = [104] := by
  have ran : (overTun exchange).any (fun stack => decide ((stack .a).host.pipe.taken = [104] ∧
      (stack .b).host.pipe.delivered = [104])) = true := by decide +kernel
  obtain ⟨stack, reached, taken, delivered⟩ := exists_reaches ran
  obtain ⟨n, runs, same⟩ :=
    sockets_refine_endpoints TCPOverIPv4OverTunFdAdapter.faithful reached
  exact ⟨n, runs, (same .a).2.1.trans taken, (same .b).2.2.1.trans delivered⟩

/-- What the network assembles of a stream is a part of it, and all of it at its end. -/
theorem Refines.conveys (refines : Refines adapter cfg random stack n)
    (consistent : Consistent cfg random n) {side : Side}
    (cycle : (stack side).host.pipe.taken.length + (cfg side.peer).recvCapacity + 2 < 2 ^ 32) :
    (stack side.peer).host.pipe.delivered <+: (stack side).host.pipe.taken ∧
      ((stack side.peer).host.tcp.inboundStream.eof = true →
        (stack side).host.pipe.Drained ∧
          (stack side.peer).host.pipe.delivered = (stack side).host.pipe.taken) := by
  have source := (refines side).mirrors
  have destination := (refines side.peer).mirrors
  rw [← source.accepted] at cycle ⊢
  rw [← destination.readBytes, ← destination.conn]
  obtain ⟨held, sound⟩ := (consistent.conveying side cycle).sound
  obtain ⟨isPart, whenEnded⟩ := sound.delivered
  refine ⟨(List.prefix_append _ _).trans isPart, fun atEnd => ?_⟩
  obtain ⟨empty, ended⟩ := (ByteStream.eof_iff _).mp atEnd
  obtain ⟨closed, all⟩ := whenEnded ended
  have intact := (refines side).intact
  refine ⟨intact.drained (intact.ended.trans ?_), ?_⟩
  · rw [← source.conn]
    exact closed
  · rw [← all]
    exact (List.append_nil _).symm.trans (congrArg _ empty.symm)

/--
In every run of two sockets, while the stream of `side` fits in one cycle of sequence
numbers, what its peer's application has been given is a prefix of what has been
taken from the application of `side`; and if the peer's socket has ended the stream to
its application without an error, then `side`'s has ended its own and all of it has
arrived.  Nothing else ends that stream but the shutdown after the last loop.
-/
theorem sockets_deliver_in_order (faithful : adapter.Faithful)
    (reached : Runs adapter cfg random adapters stack) (side : Side)
    (cycle : (stack side).host.pipe.taken.length + (cfg side.peer).recvCapacity + 2 < 2 ^ 32) :
    (stack side.peer).host.pipe.delivered <+: (stack side).host.pipe.taken ∧
      ((stack side.peer).host.inboundShutdown = true →
        (stack side.peer).host.tcp.inboundStream.error = false →
        (stack side).host.pipe.closed = true ∧ (stack side).host.pipe.unread = [] ∧
          (stack side.peer).host.pipe.delivered = (stack side).host.pipe.taken) ∧
      ((stack side.peer).host.pipe.shut = true →
        (stack side.peer).host.inboundShutdown = true ∨
          (stack side.peer).phase = .finished) := by
  obtain ⟨n, runs, refines⟩ := exists_refines faithful reached
  obtain ⟨isPart, whenEnded⟩ := refines.conveys (consistent_of_reaches runs) cycle
  have realizes := refines side.peer
  refine ⟨isPart, fun ended noError => ?_, fun shut => ?_⟩
  · have atEnd : (stack side.peer).host.tcp.inboundStream.eof = true := by
      refine (realizes.intact.finished ended).resolve_right fun failed => ?_
      exact absurd (noError.symm.trans failed) Bool.false_ne_true
    obtain ⟨drained, all⟩ := whenEnded atEnd
    exact ⟨drained.2, drained.1, all⟩
  · rw [realizes.intact.shut, Bool.or_eq_true_iff] at shut
    exact shut.imp_right realizes.cutOff

/-- The stream that crosses two TUN devices ends. -/
theorem sockets_deliver_in_order_tun :
    ∃ stack, Runs TCPOverIPv4OverTunFdAdapter.fdAdapter smallConfig (fun _ => 7) tunAdapters stack ∧
      (stack .b).host.inboundShutdown = true ∧ (stack .a).host.pipe.closed = true ∧
      (stack .b).host.pipe.delivered = (stack .a).host.pipe.taken := by
  have ran : (overTun exchange).any (fun stack => decide (
      (stack .a).host.pipe.taken.length + 4 + 2 < 2 ^ 32 ∧
        (stack .b).host.inboundShutdown = true ∧
        (stack .b).host.tcp.inboundStream.error = false)) = true := by decide +kernel
  obtain ⟨stack, reached, cycle, ended, noError⟩ := exists_reaches ran
  obtain ⟨_, arrives, _⟩ :=
    sockets_deliver_in_order TCPOverIPv4OverTunFdAdapter.faithful reached .a cycle
  obtain ⟨closed, _, all⟩ := arrives ended noError
  exact ⟨stack, reached, ended, closed, all⟩

/--
In every run of two sockets a round throws nothing of the program's own while the
stream of the peer fits in one cycle: no busy wait is detected, the connection
accepts what it has advertised, the adapter and the connection take every datagram
of the peer, every segment can be wrapped and no access is out of range.
-/
theorem rounds_throw_for_the_system (faithful : adapter.Faithful)
    (reached : Runs adapter cfg random adapters stack) (side : Side)
    (cycle : (stack side.peer).host.pipe.taken.length + (cfg side).recvCapacity + 2 < 2 ^ 32)
    {poll : Poll SocketRule} {answers : SocketRule → Answer π ω} {elapsed : Nat}
    (possible : Possible stack (.round side poll answers elapsed)) {error : Error Fault}
    (threw : SpongeSocket.round adapter (stack side) poll answers elapsed = .error error) :
    FromSystem error := by
  obtain ⟨n, runs, refines⟩ := exists_refines faithful reached
  rw [← (refines side.peer).mirrors.accepted] at cycle
  have receives : ∀ e, Endpoint.Runs (n side.peer) (n side) e → ∀ segment ∈ (n side.peer).wire,
      ∃ e', e.receive segment = some e' := by
    intro e reaches segment onWire
    have consistent := consistent_of_reaches (runs.trans (reaches_update reaches))
    have emitting := consistent.emitting side.peer
    have conveying := consistent.conveying side.peer
    rw [OneCycle, Function.update_of_ne side.peer_ne, Side.peer_peer, Function.update_self]
      at conveying
    rw [Function.update_of_ne side.peer_ne] at emitting
    obtain ⟨held, sound⟩ := (conveying cycle).sound
    exact exists_receive sound cycle (emitting.genuine (List.mem_append_right _ onWire))
  have realizes := refines side
  rw [SpongeSocket.round] at threw
  split at threw
  · cases outcome : tcpLoop adapter (stack side).rules (stack side).host poll answers elapsed with
    | error other =>
        rw [outcome] at threw
        cases threw
        exact fromSystem_of_tcpLoop faithful (packaged_of_reaches runs side)
          (refines.admissible possible) receives
          ⟨realizes.intact, n side, .refl, realizes.mirrors⟩ realizes.nodup outcome
    | ok final =>
        rw [outcome] at threw
        cases threw
  · cases threw

/-- A device fails while a socket is connecting. -/
theorem rounds_throw_for_the_system_polled :
    ∃ (stack : Stack TCPOverIPv4OverTunFdAdapter Bytes) (error : Error Fault),
      (stack .a).phase = .connecting ∧
      SpongeSocket.round TCPOverIPv4OverTunFdAdapter.fdAdapter (stack .a)
        (.ready fun _ => { err := true }) silence 0 = .error error ∧ FromSystem error := by
  have ran : (overTun [fun _ => .connect .a]).any (fun stack => decide (
      (stack .a).phase = .connecting ∧ (stack .b).host.pipe.taken.length + 4 + 2 < 2 ^ 32 ∧
        (SpongeSocket.round TCPOverIPv4OverTunFdAdapter.fdAdapter (stack .a)
          (.ready fun _ => { err := true }) silence 0).isOk = false)) = true := by decide +kernel
  obtain ⟨stack, reached, connecting, cycle, failed⟩ := exists_reaches ran
  cases threw : SpongeSocket.round TCPOverIPv4OverTunFdAdapter.fdAdapter (stack .a)
      (.ready fun _ => { err := true }) silence 0 with
  | ok socket =>
      rw [threw] at failed
      cases failed
  | error error =>
      refine ⟨stack, error, connecting, threw, ?_⟩
      exact rounds_throw_for_the_system TCPOverIPv4OverTunFdAdapter.faithful reached .a cycle
        ⟨fun _ none => (by cases none), fun hungUp => (by cases hungUp.1)⟩ threw

/-! ## The end of a socket -/

/-- The loop ends, unless it is told to, when the event loop exits. -/
theorem exit_of_tcpLoop {names names' : List SocketRule} {host host' : Host α π}
    {poll : Poll SocketRule} {answers : SocketRule → Answer π ω} {elapsed : Nat}
    (ran : tcpLoop adapter names host poll answers elapsed = .ok (false, names', host'))
    (notAborted : host'.abort = false) :
    waitNextEvent (rule adapter) names host poll answers = .ok (.exit, names', host') := by
  unfold tcpLoop at ran
  cases outcome : waitNextEvent (rule adapter) names host poll answers with
  | error error =>
      rw [outcome] at ran
      cases ran
  | ok final =>
      obtain ⟨result, names₁, host₁⟩ := final
      rw [outcome] at ran
      dsimp only at ran
      split at ran
      · rename_i ends
        cases ran
        rw [ends.resolve_right fun aborted => ?_]
        exact absurd (notAborted.symm.trans aborted) Bool.false_ne_true
      split at ran <;> cases ran

/-- The main loop ends when the event loop exits, and the application's end is shut down. -/
theorem exit_of_finished {socket socket' : Socket α π} {poll : Poll SocketRule}
    {answers : SocketRule → Answer π ω} {elapsed : Nat} (isMain : socket.phase = .main)
    (ran : SpongeSocket.round adapter socket poll answers elapsed = .ok socket')
    (finished : socket'.phase = .finished) (notAborted : socket'.host.abort = false) :
    ∃ host, waitNextEvent (rule adapter) socket.rules socket.host poll answers =
        .ok (.exit, socket'.rules, host) ∧
      socket'.host = { host with pipe := host.pipe.shutdown } := by
  rw [SpongeSocket.round, if_pos (by rw [condition, isMain])] at ran
  cases outcome : tcpLoop adapter socket.rules socket.host poll answers elapsed with
  | error error =>
      rw [outcome] at ran
      cases ran
  | ok final =>
      obtain ⟨again, rules, host⟩ := final
      rw [outcome] at ran
      cases ran
      cases again with
      | true => cases isMain.symm.trans finished
      | false =>
          have left : leave { socket with rules, host } =
              { phase := .finished, rules, host := { host with pipe := host.pipe.shutdown } } := by
            rw [leave, isMain]
          rw [if_neg Bool.false_ne_true, left] at notAborted ⊢
          exact ⟨host, exit_of_tcpLoop outcome notAborted, rfl⟩

/-- The rule for datagrams is the first one, if it is there. -/
theorem datagramIn_first {names : List SocketRule} (ordered : names.Sublist allRules)
    (member : SocketRule.datagramIn ∈ names) : ∃ rest, names = .datagramIn :: rest := by
  rcases List.sublist_cons_iff.mp ordered with others | ⟨rest, rfl, _⟩
  · exact absurd (others.subset member) (by decide)
  · exact ⟨rest, rfl⟩

/-- Cancelling a rule does not touch the pipe. -/
theorem pipe_setUp (adapter : FdAdapter α π ω) (names : List SocketRule) (host : Host α π) :
    (setUp (rule adapter) names host).world.pipe = host.pipe ∧
      (setUp (rule adapter) names host).world.inboundShutdown = host.inboundShutdown := by
  have kept : ∀ name (host' : Host α π),
      (host'.pipe = host.pipe ∧ host'.inboundShutdown = host.inboundShutdown) →
      ((rule adapter name).cancel host').pipe = host.pipe ∧
        ((rule adapter name).cancel host').inboundShutdown = host.inboundShutdown := by
    intro name host' same
    cases name <;> exact same
  exact kept_setUp kept names host ⟨rfl, rfl⟩

section Exit

variable {names : List SocketRule} {host : Host α π}

/-- The rule for datagrams is asked before any rule is cancelled. -/
theorem inactive_of_quiet (ordered : names.Sublist allRules)
    (quiet : ∀ entry ∈ (setUp (rule adapter) names host).pollfds, entry.events = none)
    (stays : .datagramIn ∈ (setUp (rule adapter) names host).rules) :
    host.tcp.active = false := by
  obtain ⟨rest, rfl⟩ := datagramIn_first ordered ((sublist_setUp _ _).subset stays)
  have nodup := ordered.nodup (by decide)
  exact uninterested_of_quiet (List.nodup_cons.mp nodup).1 quiet stays
    fun _ none => absurd none List.not_mem_nil

/-- The rule for the pipe waits for nothing that cancelling a rule could bring about. -/
theorem handedOver_of_quiet (ordered : names.Sublist allRules)
    (quiet : ∀ entry ∈ (setUp (rule adapter) names host).pollfds, entry.events = none)
    (stays : .pipeOut ∈ (setUp (rule adapter) names host).rules)
    (inboundEof : host.tcp.inboundStream.eof = true) : host.inboundShutdown = true := by
  obtain ⟨before, rest, rfl⟩ := List.append_of_mem ((sublist_setUp _ _).subset stays)
  have nodup := ordered.nodup (by decide)
  have once := (List.nodup_cons.mp (List.nodup_append.mp nodup).2.1).1
  have uninterested : (rule adapter .pipeOut).interest host = false := by
    refine uninterested_of_quiet once quiet stays fun other _ host => ?_
    cases other <;> rfl
  change (_ || _) = false at uninterested
  simpa [inboundEof] using (Bool.or_eq_false_iff.mp uninterested).2

end Exit

/--
A socket that leaves its main loop, neither aborted nor interrupted, with its rules
installed and without an error of its streams, has done its work as long as each stream
fits in one cycle of sequence numbers: its application has ended its stream and the
peer's connection has received all of it, the peer's application has ended its own, and
all of that has been handed to the application, which has been told by the rule for the
pipe that the stream is over.
-/
theorem finished_socket_has_delivered (faithful : adapter.Faithful)
    (reached : Runs adapter cfg random adapters stack) {side : Side}
    (cycle : ∀ side,
      (stack side).host.pipe.taken.length + (cfg side.peer).recvCapacity + 2 < 2 ^ 32)
    {poll : Poll SocketRule} {answers : SocketRule → Answer π ω} {elapsed : Nat}
    {socket : Socket α π} (isMain : (stack side).phase = .main)
    (ran : SpongeSocket.round adapter (stack side) poll answers elapsed = .ok socket)
    (finished : socket.phase = .finished) (notAborted : socket.host.abort = false)
    (uninterrupted : poll ≠ .interrupted)
    (installed : ∀ name ∈ [SocketRule.datagramIn, .pipeOut], name ∈ socket.rules)
    (noErrors : (stack side).host.tcp.outboundStream.error = false ∧
      (stack side).host.tcp.inboundStream.error = false) :
    (socket.host.pipe.closed = true ∧ socket.host.pipe.unread = [] ∧
      (stack side.peer).host.pipe.delivered ++ (stack side.peer).host.tcp.inboundStream.buffer =
        socket.host.pipe.taken) ∧
      (stack side.peer).host.pipe.closed = true ∧ (stack side.peer).host.pipe.unread = [] ∧
        socket.host.pipe.delivered = (stack side.peer).host.pipe.taken ∧
        socket.host.inboundShutdown = true ∧ socket.host.pipe.shut = true := by
  obtain ⟨n, runs, refines⟩ := exists_refines faithful reached
  have consistent := consistent_of_reaches runs
  have intact := (refines side).intact
  have mirrors := (refines side).mirrors
  obtain ⟨host, exits, shutDown⟩ := exit_of_finished isMain ran finished notAborted
  obtain ⟨sameRules, sameWorld, quiet⟩ := setUp_of_exit exits uninterrupted
  obtain ⟨samePipe, sameFlag⟩ := pipe_setUp adapter (stack side).rules (stack side).host
  rw [← sameWorld] at samePipe sameFlag
  rw [sameRules] at installed
  obtain ⟨datagramStays, others⟩ := List.forall_mem_cons.mp installed
  have pipeStays := others _ List.mem_cons_self
  have ordered := (refines side).ordered
  obtain ⟨outboundEof, inboundEof, idle⟩ := TCPConnection.eof_of_inactive
    (inactive_of_quiet ordered quiet datagramStays) noErrors.1 noErrors.2
  have ended := handedOver_of_quiet ordered quiet pipeStays inboundEof
  have drained : (stack side).host.pipe.Drained :=
    intact.drained (intact.ended.trans ((ByteStream.eof_iff _).mp outboundEof).2)
  have inbound := (refines.conveys consistent (cycle side.peer)).2
  rw [Side.peer_peer] at inbound
  obtain ⟨peerDrained, all⟩ := inbound inboundEof
  rw [shutDown, samePipe]
  refine ⟨⟨drained.2, drained.1, ?_⟩, peerDrained.2, peerDrained.1, all, sameFlag.trans ended, rfl⟩
  change _ = (stack side).host.pipe.taken
  have peerMirrors := (refines side.peer).mirrors
  rw [← mirrors.conn] at outboundEof idle
  have within := cycle side
  rw [← mirrors.accepted] at within ⊢
  rw [← peerMirrors.readBytes, ← peerMirrors.conn]
  exact consistent.received_all within outboundEof idle

/-- The side that closes last leaves its loop. -/
theorem finished_socket_has_delivered_passive :
    ∃ (stack : Stack TCPOverIPv4OverTunFdAdapter Bytes) (socket : Socket _ Bytes),
      SpongeSocket.round TCPOverIPv4OverTunFdAdapter.fdAdapter (stack .b) .timeout silence 0 =
        .ok socket ∧ socket.phase = .finished ∧
      socket.host.pipe.delivered = (stack .a).host.pipe.taken ∧
      socket.host.inboundShutdown = true ∧ socket.host.pipe.shut = true := by
  have ran : (overTun (exchange ++ farewell)).any (fun stack => decide (
      ((∀ side ∈ [Side.a, .b], (stack side).host.pipe.taken.length + 4 + 2 < 2 ^ 32) ∧
        (stack .b).phase = .main ∧ (stack .b).host.tcp.outboundStream.error = false ∧
          (stack .b).host.tcp.inboundStream.error = false) ∧
      ∃ socket ∈ (SpongeSocket.round TCPOverIPv4OverTunFdAdapter.fdAdapter (stack .b) .timeout
          silence 0).toOption.toList,
        socket.phase = .finished ∧ socket.host.abort = false ∧
          ∀ name ∈ [SocketRule.datagramIn, .pipeOut], name ∈ socket.rules)) = true := by
    decide +kernel
  obtain ⟨stack, reached, ⟨cycle, isMain, noErrors⟩, socket, returned, finished, notAborted,
    installed⟩ := exists_reaches ran
  have returned := ok_of_toOption (Option.mem_toList.mp returned)
  have within : ∀ side, (stack side).host.pipe.taken.length + 4 + 2 < 2 ^ 32 := fun side =>
    cycle side (by cases side <;> decide)
  have delivered := finished_socket_has_delivered TCPOverIPv4OverTunFdAdapter.faithful reached
    within isMain returned finished notAborted (fun same => by cases same) installed noErrors
  exact ⟨stack, socket, returned, finished, delivered.2.2.2⟩

end Stack

end Sponge
