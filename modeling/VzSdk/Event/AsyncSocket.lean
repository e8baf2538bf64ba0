/-!
# The asynchronous socket

`PhysicalSocket` and its `SocketDispatcher` as far as a session sees them: the
connection state, the events the dispatcher is asked to wait for, and whether
the session's slots are still connected to the socket's signals. What the
operating system answers is an argument of each operation.
-/

namespace VzSdk.Event

/-- `Socket::ConnState`. -/
inductive ConnState where
  | closed
  | connecting
  | connected
deriving DecidableEq, Repr

/-- A set of `DE_*` bits. -/
structure DispatcherEvents where
  read : Bool
  write : Bool
  connect : Bool
  close : Bool
deriving DecidableEq, Repr

/-- No event. -/
def DispatcherEvents.none : DispatcherEvents := ⟨false, false, false, false⟩

/-- What a call of the socket returns when it fails. -/
def socketError : Int := -1

/-- What `::connect` answers: success at once, a blocking error, or another error. -/
inductive ConnectOutcome where
  | succeeded
  | inProgress
  | failed
deriving DecidableEq, Repr

/-- What `::send` answers: its return value, and whether an error is a blocking one. -/
structure SendResult where
  sent : Int
  blocking : Bool
deriving DecidableEq, Repr

/-- The answers a stream socket can give to an offer of `offered` bytes. -/
def SendResult.Admissible (result : SendResult) (offered : Nat) : Prop :=
  result.sent = socketError ∨ (0 ≤ result.sent ∧ result.sent ≤ offered)

instance (result : SendResult) (offered : Nat) : Decidable (result.Admissible offered) :=
  inferInstanceAs (Decidable (_ ∨ _))

/-- The call failed with an error that is not a blocking one. -/
def SendResult.broken (result : SendResult) : Bool :=
  result.sent == socketError && !result.blocking

/-- The call took less than it was offered. -/
def SendResult.isPartial (result : SendResult) (offered : Nat) : Bool :=
  decide (0 ≤ result.sent) && decide (result.sent < offered)

/-- How a reading loop ends: end of stream, or an error that is blocking or not. -/
inductive RecvEnd where
  | endOfStream
  | error (blocking : Bool)
deriving DecidableEq, Repr

/-- A socket with its state and the events it waits for. -/
structure AsyncSocket where
  state : ConnState
  enabledEvents : DispatcherEvents
  /-- The session's four slots are connected. -/
  slots : Bool
deriving DecidableEq, Repr

namespace AsyncSocket

/-- A stream socket from `CreateAsyncSocket`, with the session's slots connected. -/
def create : AsyncSocket := ⟨.closed, .none, true⟩

/-- `PhysicalSocket::DoConnect`, with its return value. -/
def doConnect (socket : AsyncSocket) : ConnectOutcome → AsyncSocket × Int
  | .succeeded =>
      ({ socket with
          state := .connected
          enabledEvents := { socket.enabledEvents with read := true, write := true } }, 0)
  | .inProgress =>
      ({ socket with
          state := .connecting
          enabledEvents :=
            { socket.enabledEvents with read := true, write := true, connect := true } }, 0)
  | .failed => (socket, socketError)

/-- `PhysicalSocket::Connect`: a host name is first handed to a resolver. -/
def connect (socket : AsyncSocket) (unresolved : Bool) (outcome : ConnectOutcome) :
    AsyncSocket × Int :=
  if socket.state ≠ .closed then (socket, socketError)
  else if unresolved then ({ socket with state := .connecting }, 0)
  else socket.doConnect outcome

/-- `PhysicalSocket::Close`. -/
def close (socket : AsyncSocket) : AsyncSocket :=
  { socket with state := .closed, enabledEvents := .none }

/-- `PhysicalSocket::Send`: only a blocking error asks for the next writable event. -/
def send (socket : AsyncSocket) (result : SendResult) : AsyncSocket :=
  if result.sent < 0 ∧ result.blocking then
    { socket with enabledEvents := { socket.enabledEvents with write := true } }
  else socket

/-- The effect of the last `PhysicalSocket::Recv` of a reading loop. -/
def recvEnd (socket : AsyncSocket) : RecvEnd → AsyncSocket
  | .endOfStream => { socket with enabledEvents := { socket.enabledEvents with read := true } }
  | .error true => { socket with enabledEvents := { socket.enabledEvents with read := true } }
  | .error false => socket

/-- The effect of a `PhysicalSocket::Recv` that returns bytes. -/
def recvSome (socket : AsyncSocket) : AsyncSocket :=
  { socket with enabledEvents := { socket.enabledEvents with read := true } }

/-- `SocketDispatcher::OnPreEvent`. -/
def onPreEvent (socket : AsyncSocket) (ff : DispatcherEvents) : AsyncSocket :=
  let socket := if ff.connect then { socket with state := .connected } else socket
  if ff.close then { socket with state := .closed } else socket

end AsyncSocket

end VzSdk.Event
