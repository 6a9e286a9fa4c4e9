import Sponge.Model.SpongeSocket

/-!
# Copying between a socket and the standard streams

`apps/bidirectional_stream_copy.cc`: two byte streams between the standard input, a
socket and the standard output, and the four rules that fill and drain them.  The other
ends of the three descriptors are parts of the world; of the pipe of the standard input
only the bytes to read matter, and of that of the standard output only those written.
-/

namespace Sponge

/-- The rules of `bidirectional_stream_copy`. -/
inductive CopyRule where
  | inputIn
  | socketOut
  | socketIn
  | outputOut
  deriving DecidableEq

namespace StreamCopy

def maxCopyLength : Nat := 65536

def bufferSize : Nat := 1048576

/-- What the system answers to a callback. -/
structure Answer where
  /-- The number of bytes read. -/
  count : Nat := 0
  /-- The number of bytes written. -/
  taken : Option Nat := none
  /-- Whether the descriptor could be shut down or closed. -/
  ended : Bool := true

end StreamCopy

/-- The three descriptors, and the streams between them. -/
structure StreamCopy where
  input : Pipe := {}
  socket : Pipe := {}
  output : Pipe := {}
  inputFd : FDWrapper := {}
  socketFd : FDWrapper := {}
  outputFd : FDWrapper := {}
  outbound : ByteStream := ByteStream.new StreamCopy.bufferSize
  inbound : ByteStream := ByteStream.new StreamCopy.bufferSize
  outboundShutdown : Bool := false
  inboundShutdown : Bool := false

namespace StreamCopy

/-- Read from a descriptor into a stream, and end the stream with the descriptor. -/
def fill (stream : ByteStream) (fd : FDWrapper) (pipe : Pipe) (answer : Answer) :
    Except Fault (ByteStream × FDWrapper × Pipe) :=
  let limit := stream.remainingCapacity
  match pipe.read (min FileDescriptor.bufferSize limit) answer.count with
  | none => .error .systemCall
  | some (bytes, pipe) =>
      match FileDescriptor.read fd limit bytes with
      | none => .error .readTooMuch
      | some (data, fd) =>
          let stream := (stream.write data).1
          .ok (if fd.eof then stream.endInput else stream, fd, pipe)

/-- Write from a stream to a descriptor. -/
def drain (stream : ByteStream) (fd : FDWrapper) (pipe : Pipe) (answer : Answer) :
    Except Fault (ByteStream × FDWrapper × Pipe) :=
  let bytesToWrite := min maxCopyLength stream.bufferSize
  let buffer := stream.peekOutput bytesToWrite
  match FileDescriptor.write false { buffer := { views := [buffer] } } [answer.taken] with
  | .pending _ => .error .systemCall
  | .threw error => .error (.write error)
  | .returned state =>
      match pipe.write state.taken with
      | none => .error .systemCall
      | some pipe => .ok (stream.popOutput state.totalBytesWritten, fd.registerWrite, pipe)

/-- Rule 1: read from stdin into the outbound byte stream. -/
def readInput (copy : StreamCopy) (answer : Answer) : Except Fault StreamCopy :=
  match fill copy.outbound copy.inputFd copy.input answer with
  | .error fault => .error fault
  | .ok (outbound, inputFd, input) => .ok { copy with outbound, inputFd, input }

/-- Rule 2: read from the outbound byte stream into the socket. -/
def writeSocket (copy : StreamCopy) (answer : Answer) : Except Fault StreamCopy :=
  match drain copy.outbound copy.socketFd copy.socket answer with
  | .error fault => .error fault
  | .ok (outbound, socketFd, socket) =>
      if outbound.eof then
        if answer.ended then
          .ok { copy with
            outbound
            socketFd := socketFd.registerWrite
            socket := { socket with shut := true }
            outboundShutdown := true }
        else .error .systemCall
      else .ok { copy with outbound, socketFd, socket }

/-- Rule 3: read from the socket into the inbound byte stream. -/
def readSocket (copy : StreamCopy) (answer : Answer) : Except Fault StreamCopy :=
  match fill copy.inbound copy.socketFd copy.socket answer with
  | .error fault => .error fault
  | .ok (inbound, socketFd, socket) => .ok { copy with inbound, socketFd, socket }

/-- Rule 4: read from the inbound byte stream into stdout, which is closed at its end. -/
def writeOutput (copy : StreamCopy) (answer : Answer) : Except Fault StreamCopy :=
  match drain copy.inbound copy.outputFd copy.output answer with
  | .error fault => .error fault
  | .ok (inbound, outputFd, output) =>
      if inbound.eof then
        if answer.ended then
          .ok { copy with
            inbound
            outputFd := { outputFd with eof := true, closed := true }
            output := { output with shut := true }
            inboundShutdown := true }
        else .error .systemCall
      else .ok { copy with inbound, outputFd, output }

def endOutbound (copy : StreamCopy) : StreamCopy := { copy with outbound := copy.outbound.endInput }

def endInbound (copy : StreamCopy) : StreamCopy := { copy with inbound := copy.inbound.endInput }

open EventLoop

def rule : CopyRule → Rule StreamCopy Answer Fault
  | .inputIn => {
      fd := inputFd
      direction := .In
      callback := readInput
      interest := fun copy =>
        !copy.outbound.error && decide (copy.outbound.remainingCapacity > 0) &&
          !copy.inbound.error
      cancel := endOutbound }
  | .socketOut => {
      fd := socketFd
      direction := .Out
      callback := writeSocket
      interest := fun copy =>
        !copy.outbound.bufferEmpty || (copy.outbound.eof && !copy.outboundShutdown)
      cancel := endOutbound }
  | .socketIn => {
      fd := socketFd
      direction := .In
      callback := readSocket
      interest := fun copy =>
        !copy.inbound.error && decide (copy.inbound.remainingCapacity > 0) &&
          !copy.outbound.error
      cancel := endInbound }
  | .outputOut => {
      fd := outputFd
      direction := .Out
      callback := writeOutput
      interest := fun copy =>
        !copy.inbound.bufferEmpty || (copy.inbound.eof && !copy.inboundShutdown)
      cancel := endInbound }

/-- The rules in the order in which they are added. -/
def allRules : List CopyRule := [.inputIn, .socketOut, .socketIn, .outputOut]

end StreamCopy

end Sponge
