import Sponge.Model.TCPConnection

/-!
# Summaries of a connection's state

`tcp_helpers/tcp_state.hh` and `tcp_helpers/tcp_state.cc`.  The source names each
summary by a text of its own and compares the texts; here the summaries are the
constructors of two types.
-/

namespace Sponge

/-- The constants of `TCPReceiverStateSummary`. -/
inductive TCPReceiverStateSummary where
  | error | listen | synRecv | finRecv
  deriving DecidableEq

/-- The constants of `TCPSenderStateSummary`. -/
inductive TCPSenderStateSummary where
  | error | closed | synSent | synAcked | finSent | finAcked
  deriving DecidableEq

/-- `TCPState::state_summary(const TCPReceiver &)`. -/
def TCPReceiver.stateSummary (r : TCPReceiver) : TCPReceiverStateSummary :=
  if r.streamOut.error then .error
  else if r.ackno = none then .listen
  else if r.streamOut.inputEnded then .finRecv
  else .synRecv

/-- `TCPState::state_summary(const TCPSender &)`. -/
def TCPSender.stateSummary (s : TCPSender) : TCPSenderStateSummary :=
  if s.stream.error then .error
  else if s.nextSeqnoAbsolute = 0 then .closed
  else if s.nextSeqnoAbsolute = s.bytesInFlight then .synSent
  else if !s.stream.eof then .synAcked
  else if s.nextSeqnoAbsolute < s.stream.bytesWritten + 2 then .synAcked
  else if s.bytesInFlight ≠ 0 then .finSent
  else .finAcked

/-- A summary of a connection's internal state. -/
structure TCPState where
  sender : TCPSenderStateSummary
  receiver : TCPReceiverStateSummary
  active : Bool
  lingerAfterStreamsFinish : Bool
  deriving DecidableEq

/-- The constructor from a sender, a receiver and the connection's active and linger bits. -/
def TCPState.new (sender : TCPSender) (receiver : TCPReceiver) (active linger : Bool) :
    TCPState where
  sender := sender.stateSummary
  receiver := receiver.stateSummary
  active := active
  lingerAfterStreamsFinish := if active then linger else false

namespace TCPState

/-- The official names of the states. -/
inductive State where
  | listen | synRcvd | synSent | established | closeWait | lastAck | finWait1 | finWait2 | closing
  | timeWait | closed | reset
  deriving DecidableEq

/-- The constructor from the official name of a state. -/
def ofState : State → TCPState
  | .listen => ⟨.closed, .listen, true, true⟩
  | .synRcvd => ⟨.synSent, .synRecv, true, true⟩
  | .synSent => ⟨.synSent, .listen, true, true⟩
  | .established => ⟨.synAcked, .synRecv, true, true⟩
  | .closeWait => ⟨.synAcked, .finRecv, true, false⟩
  | .lastAck => ⟨.finSent, .finRecv, true, false⟩
  | .closing => ⟨.finSent, .finRecv, true, true⟩
  | .finWait1 => ⟨.finSent, .synRecv, true, true⟩
  | .finWait2 => ⟨.finAcked, .synRecv, true, true⟩
  | .timeWait => ⟨.finAcked, .finRecv, true, true⟩
  | .reset => ⟨.error, .error, false, false⟩
  | .closed => ⟨.finAcked, .finRecv, false, false⟩

end TCPState

/-- `TCPConnection::state`. -/
def TCPConnection.state (c : TCPConnection) : TCPState :=
  TCPState.new c.sender c.receiver c.active c.lingerAfterStreamsFinish

end Sponge
