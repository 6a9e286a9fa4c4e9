import Sponge.Model.FdAdapter
import Sponge.Model.TCPState

/-!
# The socket

`tcp_helpers/tcp_sponge_socket.cc`: the rules that connect an adapter, a connection
and the pipe to the application, and the loop that serves them.  The pipe is a part
of the world; what a system call answers is an argument, and an answer that the
system cannot give is a failure of the call.  Messages for debugging are left out.
-/

namespace Sponge

/-- A pair of connected sockets between the application and the thread of the connection. -/
structure Pipe where
  /-- The bytes of the application that have been read. -/
  taken : Bytes := []
  /-- The bytes of the application that have not. -/
  unread : Bytes := []
  /-- The application has ended its stream. -/
  closed : Bool := false
  /-- The bytes written for the application. -/
  delivered : Bytes := []
  /-- The stream to the application has been ended. -/
  shut : Bool := false
  /-- The end of the application has been shut down for it. -/
  cutOff : Bool := false
  deriving DecidableEq

namespace Pipe

/-- `read` returns nothing only if it may not read or there is nothing left to read. -/
def read (pipe : Pipe) (size count : Nat) : Option (Bytes × Pipe) :=
  if count ≤ size ∧ count ≤ pipe.unread.length ∧
      (count = 0 → size = 0 ∨ pipe.unread = [] ∧ pipe.closed = true) then
    some (pipe.unread.take count,
      { pipe with
        taken := pipe.taken ++ pipe.unread.take count
        unread := pipe.unread.drop count })
  else none

/-- Nothing can be written once the stream has been ended. -/
def write (pipe : Pipe) (bytes : Bytes) : Option Pipe :=
  if pipe.shut then none else some { pipe with delivered := pipe.delivered ++ bytes }

/-- `shutdown(SHUT_RDWR)` on the end of the application. -/
def shutdown (pipe : Pipe) : Pipe := { pipe with shut := true, cutOff := true }

end Pipe

/-- The state of a socket, its end of the pipe, and the datagrams it has sent. -/
structure Host (α π : Type) where
  tcp : TCPConnection
  datagramAdapter : α
  threadData : FDWrapper := {}
  outboundShutdown : Bool := false
  inboundShutdown : Bool := false
  abort : Bool := false
  pipe : Pipe := {}
  sent : List π := []

/-- What the system answers to a callback: each of the rules makes one kind of call. -/
structure Answer (π ω : Type) where
  /-- The datagram that the device delivers. -/
  datagram : Option π
  /-- The number of bytes read from the pipe. -/
  count : Nat
  /-- The number of bytes written to the pipe. -/
  taken : Option Nat
  /-- The random draws of the adapter, call by call. -/
  draws : Nat → ω

/-- The exceptions of the callbacks. -/
inductive Fault where
  /-- A system call has failed. -/
  | systemCall
  /-- `read() read more than requested`. -/
  | readTooMuch
  /-- `FileDescriptor::write`. -/
  | write (error : FileDescriptor.WriteError)
  /-- `TCPConnection::write() accepted less than advertised length`. -/
  | acceptedLess
  /-- The adapter cannot read the datagram. -/
  | adapterRead
  /-- The adapter cannot write the segment. -/
  | adapterWrite
  /-- `TCPConnection::segment_received`. -/
  | segmentReceived
  deriving DecidableEq

/-- The rules of `_initialize_TCP`. -/
inductive SocketRule where
  | datagramIn
  | pipeIn
  | pipeOut
  | datagramOut
  deriving DecidableEq

namespace SpongeSocket

variable {α π ω : Type} (adapter : FdAdapter α π ω)

/-- Rule 1: read from the filtered packet stream and give it to the connection. -/
def readDatagram (host : Host α π) (answer : Answer π ω) : Except Fault (Host α π) :=
  match answer.datagram with
  | none => .error .systemCall
  | some datagram =>
      match adapter.read host.datagramAdapter datagram (answer.draws 0) with
      | none => .error .adapterRead
      | some (none, datagramAdapter) => .ok { host with datagramAdapter }
      | some (some seg, datagramAdapter) =>
          match host.tcp.segmentReceived seg with
          | none => .error .segmentReceived
          | some tcp => .ok { host with tcp, datagramAdapter }

/-- The outbound stream ends. -/
def endOutbound (host : Host α π) : Host α π :=
  { host with tcp := host.tcp.endInputStream, outboundShutdown := true }

/-- Rule 2: read from the pipe into the outbound buffer. -/
def readPipe (host : Host α π) (answer : Answer π ω) : Except Fault (Host α π) :=
  let limit := host.tcp.remainingOutboundCapacity
  match host.pipe.read (min FileDescriptor.bufferSize limit) answer.count with
  | none => .error .systemCall
  | some (bytes, pipe) =>
      match FileDescriptor.read host.threadData limit bytes with
      | none => .error .readTooMuch
      | some (data, threadData) =>
          let written := host.tcp.write data
          if written.2 ≠ data.length then .error .acceptedLess
          else
            let host := { host with tcp := written.1, threadData, pipe }
            if threadData.eof then .ok (endOutbound host) else .ok host

/-- Rule 3: write from the inbound buffer into the pipe. -/
def writePipe (host : Host α π) (answer : Answer π ω) : Except Fault (Host α π) :=
  let inbound := host.tcp.inboundStream
  let amountToWrite := min 65536 inbound.bufferSize
  let buffer := inbound.peekOutput amountToWrite
  match FileDescriptor.write false { buffer := { views := [buffer] } } [answer.taken] with
  | .pending _ => .error .systemCall
  | .threw error => .error (.write error)
  | .returned state =>
      match host.pipe.write state.taken with
      | none => .error .systemCall
      | some pipe =>
          let tcp := host.tcp.popInbound state.totalBytesWritten
          let host := { host with tcp, pipe, threadData := host.threadData.registerWrite }
          if tcp.inboundStream.eof || tcp.inboundStream.error then
            .ok { host with
              pipe := { host.pipe with shut := true }
              threadData := host.threadData.registerWrite
              inboundShutdown := true }
          else .ok host

/-- The loop of rule 4. -/
def writeSegments (draws : Nat → ω) : Nat → List TCPSegment → α → Option (List π × α)
  | _, [], state => some ([], state)
  | call, segment :: segments, state =>
      match adapter.write state segment (draws call) with
      | none => none
      | some (datagrams, state) =>
          (writeSegments draws (call + 1) segments state).map fun rest =>
            (datagrams ++ rest.1, rest.2)

/-- Rule 4: send the segments of the connection as datagrams. -/
def writeDatagrams (host : Host α π) (answer : Answer π ω) : Except Fault (Host α π) :=
  match writeSegments adapter answer.draws 0 host.tcp.segmentsOut host.datagramAdapter with
  | none => .error .adapterWrite
  | some (datagrams, datagramAdapter) =>
      .ok { host with
        tcp := { host.tcp with segmentsOut := [] }
        datagramAdapter
        sent := host.sent ++ datagrams }

open EventLoop

/-- The rules of a socket. -/
def rule : SocketRule → Rule (Host α π) (Answer π ω) Fault
  | .datagramIn => {
      fd := fun host => adapter.fd host.datagramAdapter
      direction := .In
      callback := readDatagram adapter
      interest := fun host => host.tcp.active }
  | .pipeIn => {
      fd := Host.threadData
      direction := .In
      callback := readPipe
      interest := fun host =>
        host.tcp.active && !host.outboundShutdown &&
          decide (host.tcp.remainingOutboundCapacity > 0)
      cancel := endOutbound }
  | .pipeOut => {
      fd := Host.threadData
      direction := .Out
      callback := writePipe
      interest := fun host =>
        !host.tcp.inboundStream.bufferEmpty ||
          (host.tcp.inboundStream.eof || host.tcp.inboundStream.error) && !host.inboundShutdown }
  | .datagramOut => {
      fd := fun host => adapter.fd host.datagramAdapter
      direction := .Out
      callback := writeDatagrams adapter
      interest := fun host => !host.tcp.segmentsOut.isEmpty }

/-- One round of `_tcp_loop`, and whether there is another. -/
def tcpLoop (names : List SocketRule) (host : Host α π) (poll : Poll SocketRule)
    (answer : SocketRule → Answer π ω) (elapsed : Nat) :
    Except (Error Fault) (Bool × List SocketRule × Host α π) :=
  match waitNextEvent (rule adapter) names host poll answer with
  | .error error => .error error
  | .ok (result, names, host) =>
      if result = .exit ∨ host.abort then .ok (false, names, host)
      else if host.tcp.active then
        -- the adapters here ignore the time
        .ok (true, names, { host with tcp := host.tcp.tick elapsed })
      else .ok (true, names, host)

/-- The rules in the order in which `_initialize_TCP` adds them. -/
def allRules : List SocketRule := [.datagramIn, .pipeIn, .pipeOut, .datagramOut]

/-- How far a socket is: which of its loops it is in. -/
inductive Phase where
  | unused
  /-- The loop of `connect`. -/
  | connecting
  /-- The loop of `listen_and_accept`. -/
  | listening
  /-- The loop of `_tcp_main`. -/
  | main
  | finished
  deriving DecidableEq

/-- A socket: the rules of its event loop and the world they act on. -/
structure Socket (α π : Type) where
  phase : Phase := .unused
  rules : List SocketRule := []
  /-- The connection of an unused socket is the one it is going to have. -/
  host : Host α π

/-- `_initialize_TCP`. -/
def initializeTCP (cfg : TCPConfig) (random : UInt32) (socket : Socket α π) : Socket α π :=
  { socket with
    rules := socket.rules ++ allRules
    host := { socket.host with tcp := TCPConnection.new cfg random } }

/-- `connect` up to its loop; it throws if it has been called, or if the state is not SYN_SENT. -/
def connect (cfg : TCPConfig) (random : UInt32) (socket : Socket α π) : Option (Socket α π) :=
  if socket.phase ≠ .unused then none
  else
    let socket := initializeTCP cfg random socket
    let tcp := socket.host.tcp.connect
    if tcp.state ≠ .ofState .synSent then none
    else some { socket with phase := .connecting, host := { socket.host with tcp } }

/-- `listen_and_accept` up to its loop. -/
def listenAndAccept (cfg : TCPConfig) (random : UInt32) (socket : Socket α π) :
    Option (Socket α π) :=
  if socket.phase ≠ .unused then none
  else some { initializeTCP cfg random socket with phase := .listening }

/-- The condition of the loop a socket is in. -/
def condition (socket : Socket α π) : Bool :=
  match socket.phase with
  | .connecting => socket.host.tcp.state = .ofState .synSent
  | .listening =>
      socket.host.tcp.state = .ofState .listen || socket.host.tcp.state = .ofState .synRcvd ||
        socket.host.tcp.state = .ofState .synSent
  | .main => true
  | .unused | .finished => false

/-- Where a socket goes on when its loop ends; `_tcp_main` shuts down the application's end. -/
def leave (socket : Socket α π) : Socket α π :=
  match socket.phase with
  | .connecting | .listening => { socket with phase := .main }
  | .main =>
      { socket with
        phase := .finished
        host := { socket.host with pipe := socket.host.pipe.shutdown } }
  | .unused | .finished => socket

/-- The condition of the loop, and the body if it is met. -/
def round (socket : Socket α π) (poll : Poll SocketRule) (answer : SocketRule → Answer π ω)
    (elapsed : Nat) : Except (Error Fault) (Socket α π) :=
  if condition socket then
    match tcpLoop adapter socket.rules socket.host poll answer elapsed with
    | .error error => .error error
    | .ok (again, rules, host) =>
        let socket := { socket with rules, host }
        .ok (if again then socket else leave socket)
  else .ok (leave socket)

end SpongeSocket

end Sponge
