import Sponge.Model.SpongeSocket
import Sponge.Network.Runs
import Sponge.Reception.Output
import Sponge.Runtime.Adapters
import Sponge.Runtime.EventLoop
import Sponge.Wire.Buffers

/-!
# A socket does what its endpoint does

What a rule of a socket does when it has its turn is a run of the endpoint it
mirrors: the bytes taken from the pipe are those the endpoint has accepted, the
bytes written to the pipe are those it has read, and each datagram sent is one of a
segment it has put on the wire.
-/

namespace Sponge

open Endpoint

theorem Endpoint.Runs.packaged {peer e e' : Endpoint} (runs : Runs peer e e')
    (packaged : Packaged e) : Packaged e' := by
  refine runs.invariant Packaged packaged ?_
  intro e doing e' packaged _ next
  cases doing with
  | act action =>
      cases next
      exact packaged.act action
  | receive segment => exact packaged.receive next

namespace Pipe

/-- The application has ended its stream, and all of it has been read. -/
def Drained (pipe : Pipe) : Prop := pipe.unread = [] ∧ pipe.closed = true

instance (pipe : Pipe) : Decidable pipe.Drained :=
  inferInstanceAs (Decidable (pipe.unread = [] ∧ pipe.closed = true))

/-- Reading moves bytes from what is unread to what is taken. -/
structure Took (pipe pipe' : Pipe) (size : Nat) (bytes : Bytes) : Prop where
  bounded : bytes.length ≤ size
  split : bytes ++ pipe'.unread = pipe.unread
  taken : pipe'.taken = pipe.taken ++ bytes
  /-- Nothing is read only if nothing may be read or nothing is left. -/
  nothing : bytes = [] → size = 0 ∨ pipe.Drained
  closed : pipe'.closed = pipe.closed
  delivered : pipe'.delivered = pipe.delivered
  shut : pipe'.shut = pipe.shut
  cutOff : pipe'.cutOff = pipe.cutOff

theorem took_of_read {pipe pipe' : Pipe} {size count : Nat} {bytes : Bytes}
    (ran : pipe.read size count = some (bytes, pipe')) : Took pipe pipe' size bytes := by
  unfold read at ran
  split at ran
  · rename_i possible
    obtain ⟨fits, available, nothing⟩ := possible
    cases ran
    have length : (pipe.unread.take count).length = count := List.length_take_of_le available
    refine ⟨by rwa [length], List.take_append_drop _ _, rfl, fun empty => ?_, rfl, rfl, rfl, rfl⟩
    rw [empty] at length
    exact nothing length.symm
  · cases ran

theorem Took.drained {pipe pipe' : Pipe} {size : Nat} {bytes : Bytes}
    (took : Took pipe pipe' size bytes) (drained : pipe.Drained) : pipe'.Drained := by
  have split := took.split
  rw [drained.1] at split
  exact ⟨(List.append_eq_nil_iff.mp split).2, took.closed.trans drained.2⟩

/-- The rules leave a pipe at its end where it is, and do not shut it down. -/
structure Onward (pipe pipe' : Pipe) : Prop where
  drained : pipe.Drained → pipe'.Drained
  cutOff : pipe'.cutOff = pipe.cutOff

theorem Onward.refl (pipe : Pipe) : Onward pipe pipe := ⟨id, rfl⟩

theorem Onward.trans {pipe pipe' pipe'' : Pipe} (first : Onward pipe pipe')
    (second : Onward pipe' pipe'') : Onward pipe pipe'' :=
  ⟨second.drained ∘ first.drained, second.cutOff.trans first.cutOff⟩

end Pipe

namespace FileDescriptor

theorem accounts_start (buffer : Bytes) :
    Accounts buffer { buffer := { views := [buffer] } } := ⟨List.append_nil buffer, rfl⟩

/-- A partial write takes a prefix of the buffer, as long as it says. -/
theorem taken_of_write {buffer : Bytes} {reply : Option Nat} {state : Writing}
    (ran : write false { buffer := { views := [buffer] } } [reply] = .returned state) :
    state.totalBytesWritten ≤ buffer.length ∧
      state.taken = buffer.take state.totalBytesWritten := by
  have conserves := conserves_write false [reply] (accounts_start buffer)
  rw [ran] at conserves
  obtain ⟨⟨bytes, total⟩, _⟩ := conserves
  rw [total, ← bytes]
  exact ⟨by rw [List.length_append]; exact Nat.le_add_right _ _, List.take_left.symm⟩

theorem ne_outOfRange_of_write {buffer : Bytes} {reply : Option Nat} {error : WriteError}
    (ran : write false { buffer := { views := [buffer] } } [reply] = .threw error) :
    error ≠ .outOfRange := by
  have conserves := conserves_write false [reply] (accounts_start buffer)
  rwa [ran] at conserves

end FileDescriptor

namespace SpongeSocket

variable {α π ω : Type} {adapter : FdAdapter α π ω}

/-- The datagram is one that the adapter wrote for a segment on the wire of the endpoint. -/
def Sent (adapter : FdAdapter α π ω) (e : Endpoint) (datagram : π) : Prop :=
  ∃ segment ∈ e.wire, Sendable segment ∧ ∃ state draw datagrams state',
    adapter.write state segment draw = some (datagrams, state') ∧ datagram ∈ datagrams

/-- The socket has done for the application and the network what the endpoint has done. -/
structure Mirrors (adapter : FdAdapter α π ω) (host : Host α π) (e : Endpoint) : Prop where
  conn : e.conn = host.tcp
  accepted : e.accepted = host.pipe.taken
  readBytes : e.readBytes = host.pipe.delivered
  sent : ∀ datagram ∈ host.sent, Sent adapter e datagram

/-- The flags of a socket say what has happened to its streams. -/
structure Intact (host : Host α π) : Prop where
  /-- The outbound stream has been ended exactly if the flag says so. -/
  ended : host.outboundShutdown = host.tcp.outboundStream.inputEnded
  /-- It is ended when everything of the application has been read. -/
  drained : host.outboundShutdown = true → host.pipe.Drained
  atEnd : host.threadData.eof = true → host.outboundShutdown = true
  isOpen : host.threadData.closed = false
  /-- The stream to the application is ended when nothing more will come. -/
  finished : host.inboundShutdown = true → host.tcp.inboundStream.Finished
  /-- Nothing else ends it but the shutdown after the loop. -/
  shut : host.pipe.shut = (host.inboundShutdown || host.pipe.cutOff)

variable {host host' : Host α π} {answer : Answer π ω} {peer start : Endpoint}

/-- A call on the connection that does not end its outbound stream. -/
theorem Intact.call (intact : Intact host) {event : TCPConnection.Event} {tcp : TCPConnection}
    (stays : event ≠ .endInputStream) (next : host.tcp.step event = some tcp) :
    Intact { host with tcp := tcp } where
  ended := intact.ended.trans (TCPConnection.outboundEnded_of_step next stays).symm
  drained := intact.drained
  atEnd := intact.atEnd
  isOpen := intact.isOpen
  finished shut := TCPConnection.inboundKept_finished.step next (intact.finished shut)
  shut := intact.shut

theorem intact_endOutbound (drained : host.pipe.Drained) (isOpen : host.threadData.closed = false)
    (finished : host.inboundShutdown = true → host.tcp.inboundStream.Finished)
    (shut : host.pipe.shut = (host.inboundShutdown || host.pipe.cutOff)) :
    Intact (endOutbound host) where
  ended := ((TCPConnection.steady_inputEnded true).fillWindow _ rfl).symm
  drained _ := drained
  atEnd _ := rfl
  isOpen := isOpen
  finished := finished
  shut := shut

/-- The socket is intact and mirrors an endpoint reached from `start`. -/
def Follows (adapter : FdAdapter α π ω) (peer start : Endpoint) (host : Host α π) : Prop :=
  Intact host ∧ ∃ e, Runs peer start e ∧ Mirrors adapter host e

/-- Rule 1: the endpoint receives the segment of the datagram, if there is one. -/
theorem follows_readDatagram (faithful : adapter.Faithful)
    (known : ∀ datagram ∈ answer.datagram, Sent adapter peer datagram)
    (follows : Follows adapter peer start host)
    (ran : readDatagram adapter host answer = .ok host') :
    Follows adapter peer start host' ∧ host.pipe.Onward host'.pipe := by
  obtain ⟨intact, e, runs, mirrors⟩ := follows
  unfold readDatagram at ran
  cases answered : answer.datagram with
  | none =>
      rw [answered] at ran
      cases ran
  | some datagram =>
      rw [answered] at ran
      obtain ⟨segment, onWire, sendable, state, draw, datagrams, state', written, mem⟩ :=
        known datagram answered
      obtain ⟨got, reader, read, same⟩ := faithful.reads state segment draw datagrams state'
        sendable written datagram mem host.datagramAdapter (answer.draws 0)
      simp only [read] at ran
      cases got with
      | none =>
          cases ran
          exact ⟨⟨{ intact with }, e, runs,
            ⟨mirrors.conn, mirrors.accepted, mirrors.readBytes, mirrors.sent⟩⟩, .refl _⟩
      | some seg =>
          simp only [(same seg rfl).segmentReceived] at ran
          cases received : host.tcp.segmentReceived segment with
          | none =>
              rw [received] at ran
              cases ran
          | some tcp =>
              rw [received] at ran
              cases ran
              have next : host.tcp.step (.segmentReceived segment) = some tcp := received
              have called : Intact { host with tcp := tcp } :=
                intact.call (fun closes => by cases closes) next
              refine ⟨⟨{ called with }, { e with conn := tcp },
                runs.tail (.receive segment) onWire ?_,
                ⟨rfl, mirrors.accepted, mirrors.readBytes, mirrors.sent⟩⟩, .refl _⟩
              rw [← mirrors.conn] at received
              exact congrArg (Option.bind · _) received

theorem Mirrors.endOutbound {e : Endpoint} (mirrors : Mirrors adapter host e) :
    Mirrors adapter (endOutbound host) (e.act .endInputStream) :=
  ⟨congrArg TCPConnection.endInputStream mirrors.conn, mirrors.accepted, mirrors.readBytes,
    mirrors.sent⟩

/-- The outbound stream ends with the stream of the application. -/
theorem follows_endOutbound (drained : host.pipe.Drained)
    (follows : Follows adapter peer start host) :
    Follows adapter peer start (endOutbound host) := by
  obtain ⟨intact, e, runs, mirrors⟩ := follows
  exact ⟨intact_endOutbound drained intact.isOpen intact.finished intact.shut, _,
    runs.act .endInputStream, mirrors.endOutbound⟩

/-- The connection takes whole what is read from the pipe. -/
theorem Intact.write_count (intact : Intact host) {size count : Nat} {bytes : Bytes} {pipe : Pipe}
    (read : host.pipe.read size count = some (bytes, pipe))
    (fits : size ≤ host.tcp.remainingOutboundCapacity) :
    (host.tcp.write bytes).2 = bytes.length := by
  have took := Pipe.took_of_read read
  cases ended : host.outboundShutdown with
  | false =>
      exact ByteStream.write_count_of_fits _ _ (intact.ended.symm.trans ended)
        (took.bounded.trans fits)
  | true =>
      have split := took.split
      rw [(intact.drained ended).1] at split
      rw [(List.append_eq_nil_iff.mp split).1]
      exact Nat.le_zero.mp (ByteStream.write_count_le _ _)

/-- The socket after some bytes have been read from the pipe and written to the connection. -/
def afterRead (host : Host α π) (bytes : Bytes) (pipe : Pipe) : Host α π :=
  { host with
    tcp := (host.tcp.write bytes).1
    threadData :=
      FileDescriptor.afterRead host.threadData host.tcp.remainingOutboundCapacity bytes
    pipe := pipe }

/-- Rule 2 fails only if the pipe cannot be read. -/
theorem Intact.readPipe_eq (intact : Intact host) (answer : Answer π ω) :
    readPipe host answer = .error .systemCall ∨ ∃ bytes pipe,
      host.pipe.read (min FileDescriptor.bufferSize host.tcp.remainingOutboundCapacity)
        answer.count = some (bytes, pipe) ∧
      readPipe host answer =
        .ok (if (afterRead host bytes pipe).threadData.eof then
          endOutbound (afterRead host bytes pipe) else afterRead host bytes pipe) := by
  unfold readPipe
  dsimp only
  cases read : host.pipe.read (min FileDescriptor.bufferSize host.tcp.remainingOutboundCapacity)
      answer.count with
  | none => exact .inl rfl
  | some result =>
      obtain ⟨bytes, pipe⟩ := result
      have accepts := intact.write_count read (Nat.min_le_right _ _)
      have bounded := (Pipe.took_of_read read).bounded
      refine .inr ⟨bytes, pipe, rfl, ?_⟩
      dsimp only
      rw [FileDescriptor.read_eq_some_iff.mpr ⟨bounded, rfl, rfl⟩]
      dsimp only
      rw [if_neg (not_not.mpr accepts), apply_ite Except.ok]
      rfl

/-- Rule 2: the endpoint accepts what is read from the pipe, and closes at its end. -/
theorem follows_readPipe (follows : Follows adapter peer start host)
    (ran : readPipe host answer = .ok host') :
    Follows adapter peer start host' ∧ host.pipe.Onward host'.pipe := by
  obtain ⟨intact, e, runs, mirrors⟩ := follows
  rcases intact.readPipe_eq answer with failed | ⟨bytes, pipe, read, returned⟩
  · cases failed.symm.trans ran
  cases returned.symm.trans ran
  have accepts := intact.write_count read (Nat.min_le_right _ _)
  have took := Pipe.took_of_read read
  have next : host.tcp.step (.write bytes) = some (afterRead host bytes pipe).tcp := rfl
  have called : Intact { host with tcp := (afterRead host bytes pipe).tcp } :=
    intact.call (fun closes => by cases closes) next
  have shut : pipe.shut = (host.inboundShutdown || pipe.cutOff) := by
    rw [took.shut, took.cutOff]
    exact intact.shut
  have mirrored : Mirrors adapter (afterRead host bytes pipe) (e.act (.write bytes)) := by
    refine ⟨?_, ?_, ?_, mirrors.sent⟩
    · rw [Endpoint.act, mirrors.conn]
      rfl
    · rw [Endpoint.act, mirrors.conn, accepts, List.take_length, mirrors.accepted]
      exact took.taken.symm
    · exact mirrors.readBytes.trans took.delivered.symm
  cases atEnd : (afterRead host bytes pipe).threadData.eof with
  | false =>
      refine ⟨⟨⟨called.ended, fun shut => took.drained (called.drained shut), ?_,
        called.isOpen, called.finished, shut⟩, _, runs.act (.write bytes), mirrored⟩,
        ⟨took.drained, took.cutOff⟩⟩
      exact fun ended => absurd (atEnd.symm.trans ended) Bool.false_ne_true
  | true =>
      -- the flag is set now, or it was set when the pipe had been drained
      have drained : host.pipe.Drained := by
        rcases Bool.or_eq_true_iff.mp atEnd with before | now
        · exact intact.drained (intact.atEnd before)
        · obtain ⟨positive, empty⟩ := of_decide_eq_true now
          rcases took.nothing (List.length_eq_zero_iff.mp empty) with zero | drained
          · rw [FileDescriptor.bufferSize] at zero
            omega
          · exact drained
      exact ⟨⟨intact_endOutbound (took.drained drained) called.isOpen called.finished shut, _,
        (runs.act (.write bytes)).act .endInputStream, mirrored.endOutbound⟩,
        ⟨took.drained, took.cutOff⟩⟩

/-- The socket after some bytes of the inbound stream have been written to the pipe. -/
def afterWrite (host : Host α π) (count : Nat) : Host α π :=
  { host with
    tcp := host.tcp.popInbound count
    pipe := { host.pipe with
      delivered := host.pipe.delivered ++ host.tcp.inboundStream.peekOutput count }
    threadData := host.threadData.registerWrite }

/-- The socket after it has ended the stream to the application. -/
def endInbound (host : Host α π) : Host α π :=
  { host with
    pipe := { host.pipe with shut := true }
    threadData := host.threadData.registerWrite
    inboundShutdown := true }

/-- What is peeked and then written in part is what is popped. -/
theorem take_peekOutput (stream : ByteStream) {count len : Nat}
    (written : count ≤ (stream.peekOutput len).length) :
    (stream.peekOutput len).take count = stream.peekOutput count := by
  have length := stream.peekOutput_length len
  simp only [ByteStream.peekOutput, List.take_take]
  congr 1
  omega

/-- Rule 3 fails only if the pipe cannot be written to. -/
theorem writePipe_eq (host : Host α π) (answer : Answer π ω) :
    (∃ fault, writePipe host answer = .error fault ∧
      (fault = .systemCall ∨ ∃ error, error ≠ .outOfRange ∧ fault = .write error)) ∨
      host.pipe.shut = false ∧ ∃ count,
      writePipe host answer =
        .ok (if (afterWrite host count).tcp.inboundStream.eof ||
            (afterWrite host count).tcp.inboundStream.error then
          endInbound (afterWrite host count) else afterWrite host count) := by
  unfold writePipe
  dsimp only
  cases ran : FileDescriptor.write false
      { buffer := { views :=
        [host.tcp.inboundStream.peekOutput (min 65536 host.tcp.inboundStream.bufferSize)] } }
      [answer.taken] with
  | pending _ => exact .inl ⟨_, rfl, .inl rfl⟩
  | threw error =>
      exact .inl ⟨_, rfl, .inr ⟨error, FileDescriptor.ne_outOfRange_of_write ran, rfl⟩⟩
  | returned state =>
      dsimp only
      cases shut : host.pipe.shut with
      | true =>
          rw [Pipe.write, if_pos shut]
          exact .inl ⟨_, rfl, .inl rfl⟩
      | false =>
          obtain ⟨fits, taken⟩ := FileDescriptor.taken_of_write ran
          rw [Pipe.write, if_neg (by rw [shut]; decide), taken, take_peekOutput _ fits]
          refine .inr ⟨rfl, state.totalBytesWritten, ?_⟩
          rw [apply_ite Except.ok]
          rfl

/-- Rule 3: the endpoint reads what is written to the pipe. -/
theorem follows_writePipe (follows : Follows adapter peer start host)
    (ran : writePipe host answer = .ok host') :
    Follows adapter peer start host' ∧ host.pipe.Onward host'.pipe := by
  obtain ⟨intact, e, runs, mirrors⟩ := follows
  rcases writePipe_eq host answer with ⟨fault, failed, _⟩ | ⟨_, count, returned⟩
  · cases failed.symm.trans ran
  cases returned.symm.trans ran
  have next : host.tcp.step (.read count) = some (afterWrite host count).tcp := rfl
  have called : Intact { host with tcp := (afterWrite host count).tcp } :=
    intact.call (fun closes => by cases closes) next
  have mirrored : Mirrors adapter (afterWrite host count) (e.act (.read count)) := by
    refine ⟨?_, mirrors.accepted, ?_, mirrors.sent⟩
    · rw [Endpoint.act, mirrors.conn]
      rfl
    · rw [Endpoint.act, mirrors.conn, mirrors.readBytes]
      rfl
  split
  · rename_i done
    exact ⟨⟨⟨called.ended, called.drained, called.atEnd, called.isOpen,
      fun _ => Bool.or_eq_true_iff.mp done, rfl⟩, _, runs.act (.read count),
      ⟨mirrored.conn, mirrored.accepted, mirrored.readBytes, mirrored.sent⟩⟩, ⟨id, rfl⟩⟩
  · exact ⟨⟨⟨called.ended, called.drained, called.atEnd, called.isOpen, called.finished,
      called.shut⟩, _, runs.act (.read count), mirrored⟩, ⟨id, rfl⟩⟩

/-- What the loop of rule 4 sends are datagrams of the queued segments. -/
theorem mem_writeSegments (draws : Nat → ω) (call : Nat) (segments : List TCPSegment) (state : α)
    {datagrams : List π} {state' : α}
    (ran : writeSegments adapter draws call segments state = some (datagrams, state')) :
    ∀ datagram ∈ datagrams, ∃ segment ∈ segments, ∃ state draw written state',
      adapter.write state segment draw = some (written, state') ∧ datagram ∈ written := by
  induction segments generalizing call state datagrams with
  | nil =>
      cases ran
      exact fun _ mem => absurd mem List.not_mem_nil
  | cons segment segments ih =>
      rw [writeSegments] at ran
      cases written : adapter.write state segment (draws call) with
      | none =>
          rw [written] at ran
          cases ran
      | some result =>
          rw [written] at ran
          obtain ⟨rest, later, both⟩ := Option.map_eq_some_iff.mp ran
          cases both
          intro datagram mem
          rcases List.mem_append.mp mem with first | others
          · exact ⟨segment, List.mem_cons_self, _, _, _, _, written, first⟩
          · obtain ⟨other, found, sent⟩ := ih _ _ later datagram others
            exact ⟨other, List.mem_cons_of_mem _ found, sent⟩

/-- The loop of rule 4 sends every segment that fits a datagram. -/
theorem exists_writeSegments (faithful : adapter.Faithful) (draws : Nat → ω) (call : Nat)
    (segments : List TCPSegment) (state : α) (sendable : ∀ segment ∈ segments, Sendable segment) :
    ∃ datagrams state', writeSegments adapter draws call segments state =
      some (datagrams, state') := by
  induction segments generalizing call state with
  | nil => exact ⟨[], state, rfl⟩
  | cons segment segments ih =>
      obtain ⟨first, rest⟩ := List.forall_mem_cons.mp sendable
      obtain ⟨datagrams, state', written⟩ := faithful.writes state segment (draws call) first
      obtain ⟨others, final, later⟩ := ih (call + 1) state' rest
      exact ⟨_, _, by rw [writeSegments, written]; exact congrArg (Option.map _) later⟩

/-- Rule 4: the endpoint transmits everything it has queued. -/
theorem follows_writeDatagrams (packaged : Packaged start)
    (follows : Follows adapter peer start host)
    (ran : writeDatagrams adapter host answer = .ok host') :
    Follows adapter peer start host' ∧ host.pipe.Onward host'.pipe := by
  obtain ⟨intact, e, runs, mirrors⟩ := follows
  unfold writeDatagrams at ran
  cases written : writeSegments adapter answer.draws 0 host.tcp.segmentsOut
      host.datagramAdapter with
  | none =>
      rw [written] at ran
      cases ran
  | some result =>
      rw [written] at ran
      cases ran
      have sized := runs.packaged packaged
      refine ⟨⟨{ intact with }, e.transmitAll, runs.transmitAll,
        ⟨?_, mirrors.accepted, mirrors.readBytes, ?_⟩⟩, .refl _⟩
      · rw [transmitAll, mirrors.conn]
      · intro datagram mem
        rcases List.mem_append.mp mem with old | new
        · obtain ⟨segment, onWire, sent⟩ := mirrors.sent datagram old
          exact ⟨segment, List.mem_append_left _ onWire, sent⟩
        · obtain ⟨segment, queued, sent⟩ := mem_writeSegments _ _ _ _ written datagram new
          rw [← mirrors.conn] at queued
          exact ⟨segment, List.mem_append_right _ queued,
            sized.sendable segment (List.mem_append_left _ queued), sent⟩

/-! ## A round of the loop -/

open EventLoop

/-- The descriptor of the pipe has hung up, with nothing to read. -/
def HungUp (poll : Poll SocketRule) : Prop :=
  (poll.reported .pipeIn).hup = true ∧ (poll.reported .pipeIn).readable = false

instance (poll : Poll SocketRule) : Decidable (HungUp poll) :=
  inferInstanceAs (Decidable (_ ∧ _))

/-- What may be assumed of the system in one round. -/
structure Admissible (adapter : FdAdapter α π ω) (peer : Endpoint) (host : Host α π)
    (poll : Poll SocketRule) (answer : SocketRule → Answer π ω) : Prop where
  /-- A datagram that is delivered was sent by the peer. -/
  known : ∀ datagram ∈ (answer .datagramIn).datagram, Sent adapter peer datagram
  /-- A pipe hangs up with nothing to read when its other end is closed and it is empty. -/
  hungUp : HungUp poll → host.pipe.Drained

variable {poll : Poll SocketRule} {asking : List (PollFd SocketRule)}
  {answers : SocketRule → Answer π ω} {names : List SocketRule}

theorem follows_of_passes (faithful : adapter.Faithful) (packaged : Packaged start)
    (admissible : Admissible adapter peer host poll answers)
    (follows : Follows adapter peer start host) {state : State SocketRule (Host α π)}
    (passes : Passes (rule adapter) poll asking answers ⟨names, names, host⟩ state) :
    Follows adapter peer start state.world ∧ host.pipe.Onward state.world.pipe := by
  refine passes.invariant (fun state => Follows adapter peer start state.world ∧
    host.pipe.Onward state.world.pipe) ⟨follows, .refl _⟩ ?_
  rintro state op final ⟨follows, onward⟩ due next
  cases op with
  | cancel name =>
      cases next
      cases name with
      | pipeIn =>
          have drained : state.world.pipe.Drained := by
            have intact := follows.1
            rcases due.2.2 with (atEnd | closed) | hungUp
            · exact intact.drained (intact.atEnd atEnd.2)
            · exact absurd (intact.isOpen.symm.trans closed) Bool.false_ne_true
            · exact onward.drained (admissible.hungUp hungUp.2)
          exact ⟨follows_endOutbound drained follows, onward⟩
      | datagramIn | pipeOut | datagramOut => exact ⟨follows, onward⟩
  | call name reply =>
      obtain ⟨world, called, rfl⟩ := Option.map_eq_some_iff.mp next
      obtain ⟨_, _, rfl, _⟩ := due
      have ran : (rule adapter name).callback state.world (answers name) = .ok world :=
        ok_of_toOption called
      have stepped : Follows adapter peer start world ∧
          state.world.pipe.Onward world.pipe := by
        cases name with
        | datagramIn => exact follows_readDatagram faithful admissible.known follows ran
        | pipeIn => exact follows_readPipe follows ran
        | pipeOut => exact follows_writePipe follows ran
        | datagramOut => exact follows_writeDatagrams packaged follows ran
      exact ⟨stepped.1, onward.trans stepped.2⟩

/-- A round of the loop serves the rules and lets the clock of the endpoint run. -/
theorem follows_tcpLoop (faithful : adapter.Faithful) (packaged : Packaged start)
    (admissible : Admissible adapter peer host poll answers)
    (follows : Follows adapter peer start host) (nodup : names.Nodup) {elapsed : Nat} {again : Bool}
    {names' : List SocketRule}
    (ran : tcpLoop adapter names host poll answers elapsed = .ok (again, names', host')) :
    Follows adapter peer start host' ∧ names'.Sublist names ∧
      host'.pipe.cutOff = host.pipe.cutOff := by
  have contract := contract_waitNextEvent (rule adapter) poll answers names host nodup
  unfold tcpLoop at ran
  cases outcome : waitNextEvent (rule adapter) names host poll answers with
  | error error =>
      rw [outcome] at ran
      cases ran
  | ok final =>
      obtain ⟨result, names₁, host₁⟩ := final
      rw [outcome] at ran contract
      obtain ⟨waiting, passes, _⟩ := contract
      obtain ⟨served, onward⟩ := follows_of_passes faithful packaged admissible follows passes
      have kept : names₁.Sublist names := sublist_of_passes passes
      dsimp only at ran
      split at ran
      · cases ran
        exact ⟨served, kept, onward.cutOff⟩
      split at ran
      · cases ran
        obtain ⟨intact, e, runs, mirrors⟩ := served
        have next : host₁.tcp.step (.tick elapsed) = some (host₁.tcp.tick elapsed) := rfl
        refine ⟨⟨intact.call (fun closes => by cases closes) next, _, runs.act (.tick elapsed),
          ⟨?_, mirrors.accepted, mirrors.readBytes, mirrors.sent⟩⟩, kept, onward.cutOff⟩
        rw [Endpoint.act, mirrors.conn]
      · cases ran
        exact ⟨served, kept, onward.cutOff⟩

/-! ## Exceptions -/

/-- The exception comes from the system, and not from a check of the program. -/
def FromSystem : Error Fault → Prop
  | .polled => True
  | .callback .systemCall => True
  | .callback (.write error) => error ≠ .outOfRange
  | _ => False

/-- A callback throws only if a system call has failed. -/
theorem fromSystem_of_callback (faithful : adapter.Faithful) (packaged : Packaged start)
    (known : ∀ datagram ∈ (answers .datagramIn).datagram, Sent adapter peer datagram)
    (receives : ∀ e, Runs peer start e → ∀ segment ∈ peer.wire, ∃ e', e.receive segment = some e')
    (follows : Follows adapter peer start host) {name : SocketRule} {fault : Fault}
    (threw : (rule adapter name).callback host (answers name) = .error fault) :
    FromSystem (.callback fault) := by
  obtain ⟨intact, e, runs, mirrors⟩ := follows
  cases name with
  | datagramIn =>
      change readDatagram adapter host _ = _ at threw
      unfold readDatagram at threw
      cases answered : (answers .datagramIn).datagram with
      | none =>
          rw [answered] at threw
          cases threw
          trivial
      | some datagram =>
          rw [answered] at threw
          obtain ⟨segment, onWire, sendable, state, draw, datagrams, state', written, mem⟩ :=
            known datagram answered
          obtain ⟨got, reader, read, same⟩ := faithful.reads state segment draw datagrams state'
            sendable written datagram mem host.datagramAdapter ((answers .datagramIn).draws 0)
          simp only [read] at threw
          cases got with
          | none => cases threw
          | some seg =>
              obtain ⟨e', received⟩ := receives e runs segment onWire
              obtain ⟨tcp, called, _⟩ := Option.bind_eq_some_iff.mp received
              rw [mirrors.conn] at called
              simp only [(same seg rfl).segmentReceived, called] at threw
              cases threw
  | pipeIn =>
      rcases intact.readPipe_eq (answers .pipeIn) with failed | ⟨_, _, _, returned⟩
      · cases failed.symm.trans threw
        trivial
      · cases returned.symm.trans threw
  | pipeOut =>
      rcases writePipe_eq host (answers .pipeOut) with ⟨_, failed, reason⟩ | ⟨_, _, returned⟩
      · cases failed.symm.trans threw
        rcases reason with rfl | ⟨error, inRange, rfl⟩
        · trivial
        · exact inRange
      · cases returned.symm.trans threw
  | datagramOut =>
      have sendable : ∀ segment ∈ host.tcp.segmentsOut, Sendable segment := by
        rw [← mirrors.conn]
        exact fun segment queued =>
          (runs.packaged packaged).sendable segment (List.mem_append_left _ queued)
      obtain ⟨datagrams, state', written⟩ := exists_writeSegments faithful
        (answers .datagramOut).draws 0 host.tcp.segmentsOut host.datagramAdapter sendable
      change writeDatagrams adapter host _ = _ at threw
      rw [writeDatagrams, written] at threw
      cases threw

/-- A count that goes up by one, or by two, modulo `2 ^ 32`, changes. -/
theorem ne_add_one (count : UInt32) : count ≠ count + 1 :=
  fun same => absurd (UInt32.left_eq_add.mp same) (by decide)

theorem ne_add_two (count : UInt32) : count ≠ count + 1 + 1 := by
  rw [UInt32.add_assoc]
  exact fun same => absurd (UInt32.left_eq_add.mp same) (by decide)

/-- A datagram that has been read is counted. -/
theorem readCount_of_readDatagram (faithful : adapter.Faithful)
    (returned : readDatagram adapter host answer = .ok host') :
    (adapter.fd host'.datagramAdapter).readCount =
      (adapter.fd host.datagramAdapter).readCount + 1 := by
  unfold readDatagram at returned
  split at returned
  · cases returned
  split at returned
  · cases returned
  · rename_i read
    cases returned
    exact faithful.counts _ _ _ _ _ read
  · rename_i read
    split at returned
    · cases returned
    · cases returned
      exact faithful.counts _ _ _ _ _ read

/-- A callback that returns has used its descriptor, or has nothing left to do. -/
theorem not_busy (faithful : adapter.Faithful) (intact : Intact host) {name : SocketRule}
    (returned : (rule adapter name).callback host (answers name) = .ok host')
    (unused : (rule adapter name).serviceCount host = (rule adapter name).serviceCount host') :
    (rule adapter name).interest host' = false := by
  cases name with
  | datagramIn =>
      have counted := readCount_of_readDatagram faithful returned
      exact absurd (unused.trans counted) (ne_add_one _)
  | pipeIn =>
      rcases intact.readPipe_eq (answers .pipeIn) with failed | ⟨bytes, pipe, _, ran⟩
      · cases failed.symm.trans returned
      · have counted : host'.threadData.readCount = host.threadData.readCount + 1 := by
          cases ran.symm.trans returned
          split <;> rfl
        exact absurd (unused.trans counted) (ne_add_one _)
  | pipeOut =>
      rcases writePipe_eq host (answers .pipeOut) with ⟨_, failed, _⟩ | ⟨_, count, ran⟩
      · cases failed.symm.trans returned
      · cases ran.symm.trans returned
        split at unused
        · exact absurd unused (ne_add_two _)
        · exact absurd unused (ne_add_one _)
  | datagramOut =>
      change writeDatagrams adapter host _ = _ at returned
      unfold writeDatagrams at returned
      split at returned
      · cases returned
      · cases returned
        rfl

/-- A round throws only if the system has failed. -/
theorem fromSystem_of_tcpLoop (faithful : adapter.Faithful) (packaged : Packaged start)
    (admissible : Admissible adapter peer host poll answers)
    (receives : ∀ e, Runs peer start e → ∀ segment ∈ peer.wire, ∃ e', e.receive segment = some e')
    (follows : Follows adapter peer start host) (nodup : names.Nodup) {elapsed : Nat}
    {error : Error Fault}
    (threw : tcpLoop adapter names host poll answers elapsed = .error error) :
    FromSystem error := by
  have contract := contract_waitNextEvent (rule adapter) poll answers names host nodup
  unfold tcpLoop at threw
  cases outcome : waitNextEvent (rule adapter) names host poll answers with
  | ok final =>
      rw [outcome] at threw
      dsimp only at threw
      split at threw
      · cases threw
      split at threw <;> cases threw
  | error error =>
      rw [outcome] at threw contract
      cases threw
      obtain ⟨state, passes, fails⟩ := contract
      have served := (follows_of_passes faithful packaged admissible follows passes).1
      cases error with
      | polled => trivial
      | busyWait =>
          obtain ⟨name, _, world, returned, unused, interested⟩ := fails
          have idle := not_busy faithful served.1 returned unused
          exact absurd (idle.symm.trans interested) Bool.false_ne_true
      | callback fault =>
          obtain ⟨name, _, threw⟩ := fails
          exact fromSystem_of_callback faithful packaged admissible.known receives served threw
      | outOfRange => exact fails

end SpongeSocket

end Sponge
