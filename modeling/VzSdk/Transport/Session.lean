import VzSdk.Std.Machine
import VzSdk.Base.Time
import VzSdk.Event.AsyncSocket
import VzSdk.Transport.Framing

/-!
# Session

One TCP connection to a device, as it runs on the asynchronous thread. Each
member function maps the session and what its environment answers to the
session after it and the `Output`s it causes. `sessionMachine` lets the
functions run in any order the event loop can call them in.
-/

namespace VzSdk.Transport

open VzSdk.Base VzSdk.Event VzSdk.Std

/-- A session with its socket and its buffers. -/
structure Session where
  sessionId : UInt32
  connectId : UInt32
  asyncSocket : Option AsyncSocket
  readBuffer : NetworkBuffer
  writeBuffer : NetworkBuffer
  msStart : UInt32

/-- What a session does to the rest of the program and to its peer. -/
inductive Output where
  /-- A call of `OnHandleInputPacket`. -/
  | handled (packet : Packet)
  /-- `SignalSessionConnectedEvent`. -/
  | connectedEvent (connectId : UInt32)
  /-- `SignalSessionCloseEvent`. -/
  | closeEvent (code : Int) (connectId : UInt32)
  /-- `PostDelayed` of the heartbeat timer. -/
  | postDelayed (cmsDelay : Nat)
  /-- Bytes the socket took. -/
  | accepted (bytes : List UInt8)
deriving DecidableEq, Repr

/-- The time between two heartbeats, in milliseconds. -/
def defaultHeadbeatTimeout : Nat := 2 * 1000

/-- A piece of a member function: the session after it and its outputs, or
nothing when the environment cannot answer as assumed. -/
abbrev Effect := Session → Option (Session × List Output)

/-- One effect after the other. -/
def Effect.andThen (first second : Effect) : Effect := fun session =>
  match first session with
  | none => none
  | some (session, outputs) =>
      match second session with
      | none => none
      | some (session, rest) => some (session, outputs ++ rest)

namespace Session

/-- `Session::GetState`. -/
def getState (session : Session) : ConnState :=
  match session.asyncSocket with
  | some socket => socket.state
  | none => .closed

/-- A fresh session. `new Session` without an id takes the next one from the counter,
which the session manager passes in. -/
def new (sessionId : UInt32) : Session :=
  ⟨sessionId, 0, none, .new, .new, 0⟩

/-- `Session::Start`: the result of `Connect` is ignored. -/
def start (session : Session) (connectId : UInt32) (unresolved : Bool) (outcome : ConnectOutcome) :
    Session :=
  let session := { session with connectId := connectId }
  match session.asyncSocket with
  | some _ => session
  | none => { session with asyncSocket := some (AsyncSocket.create.connect unresolved outcome).1 }

/-- `Session::UinitSocket`: an open socket's signals are cut off. -/
def uinitSocket (session : Session) : Session :=
  match session.asyncSocket with
  | some socket =>
      if socket.state ≠ .closed then
        { session with asyncSocket := some { socket with slots := false } }
      else session
  | none => session

/-- `Stop`: give up the socket, and close it. -/
def stop (session : Session) : Session :=
  let session := session.uinitSocket
  match session.asyncSocket with
  | some socket =>
      if socket.state ≠ .closed then { session with asyncSocket := some socket.close }
      else session
  | none => session

/-- `Session::TryToWriteData`. -/
def tryToWriteData (result : SendResult) : Effect := fun session =>
  match session.asyncSocket with
  | none => some (session, [])
  | some socket =>
      if socket.state ≠ .connected ∨ session.writeBuffer.length = 0 then some (session, [])
      else if result.Admissible session.writeBuffer.length then
        let session := { session with asyncSocket := some (socket.send result) }
        if result.sent ≠ socketError then
          some ({ session with writeBuffer := session.writeBuffer.consume result.sent.toNat },
            [.accepted (session.writeBuffer.data.take result.sent.toNat)])
        else some (session, [])
      else none

/-- The writes of `AsyncWrite`; `data` is `none` for a null pointer. -/
def appendPacket (host : HostOrder) (writeBuffer : NetworkBuffer) (data : Option (List UInt8))
    (dataSize : UInt32) (packetType : UInt8) : NetworkBuffer :=
  let writeBuffer := writeBuffer.writeUInt8 headerV
  let writeBuffer := writeBuffer.writeUInt8 headerZ
  let writeBuffer := writeBuffer.writeUInt8 packetType
  let writeBuffer := writeBuffer.writeUInt8 0
  let writeBuffer := writeBuffer.writeUInt32 host dataSize
  match data with
  | some bytes => writeBuffer.writeBytes (bytes.take dataSize.toNat)
  | none => writeBuffer

/-- `AsyncWrite`: append a packet and write what can be written. -/
def asyncWrite (host : HostOrder) (data : Option (List UInt8)) (dataSize : UInt32)
    (packetType : UInt8) (result : SendResult) : Effect := fun session =>
  tryToWriteData result
    { session with
      writeBuffer := appendPacket host session.writeBuffer data dataSize packetType }

/-- Write a heartbeat. -/
def writeHeartbeat (host : HostOrder) (result : SendResult) : Effect :=
  asyncWrite host none 0 packetTypeHeartbeat result

/-- The connection is closed. -/
def onCloseEvent (code : Int) : Effect := fun session =>
  some (session.uinitSocket, [.closeEvent code session.connectId])

/-- `Session::AsyncWaitNextHeadrtbeatEvent` at clock reading `now`. -/
def asyncWaitNextHeadrtbeatEvent (now : UInt32) : Effect := fun session =>
  if session.msStart = 0 then
    some ({ session with msStart := now }, [.postDelayed defaultHeadbeatTimeout])
  else if timeDiff now session.msStart > (defaultHeadbeatTimeout * 3 : Nat) then
    onCloseEvent 0 session
  else some (session, [.postDelayed defaultHeadbeatTimeout])

/-- `Session::OnMessage`: the heartbeat timer. -/
def onMessage (host : HostOrder) (now : UInt32) (result : SendResult) : Effect :=
  (writeHeartbeat host result).andThen (asyncWaitNextHeadrtbeatEvent now)

/-- The connection is made; the heartbeats begin. -/
def onConnectEvent (now : UInt32) : Effect :=
  Effect.andThen (fun session => some (session, [.connectedEvent session.connectId]))
    (asyncWaitNextHeadrtbeatEvent now)

/-- The socket can be written to. -/
def onWriteEvent (result : SendResult) : Effect := tryToWriteData result

/-- The state change of `Session::OnHandleInputPacket`; JSON and binary packets
are only signalled on. -/
def onHandleInputPacket (now : UInt32) (session : Session) (packet : Packet) : Session :=
  if packet.packetType = packetTypeHeartbeat then { session with msStart := now } else session

/-- The bytes of one `Recv`, written to `read_buffer_` and parsed. -/
def receive (host : HostOrder) (bytes : List UInt8) (now : UInt32) : Effect := fun session =>
  match processInput host (session.readBuffer.writeBytes bytes) with
  | none => none
  | some (readBuffer, packets) =>
      some (packets.foldl (onHandleInputPacket now) { session with readBuffer := readBuffer },
        packets.map .handled)

/-- The bytes of consecutive `Recv`s, each at its clock reading. -/
def receiveAll (host : HostOrder) : List (List UInt8 × UInt32) → Effect
  | [] => fun session => some (session, [])
  | (bytes, now) :: chunks => (receive host bytes now).andThen (receiveAll host chunks)

/-- Apply a socket operation to the session's socket. -/
def mapSocket (session : Session) (operation : AsyncSocket → AsyncSocket) : Session :=
  { session with asyncSocket := session.asyncSocket.map operation }

/-- `Session::OnReadEvent`: receive until the socket reports an error. -/
def onReadEvent (host : HostOrder) (chunks : List (List UInt8 × UInt32)) (ending : RecvEnd) :
    Effect :=
  (receiveAll host chunks).andThen fun session =>
    let session := if chunks = [] then session else session.mapSocket .recvSome
    some (session.mapSocket (·.recvEnd ending), [])

/-- The session's slots still receive the socket's signals. -/
def hears (session : Session) : Bool := (session.asyncSocket.map (·.slots)).getD false

/-- `SocketDispatcher::OnEvent` for one bit: disable it, then signal the slot. -/
def signal (bit : Bool) (disable : DispatcherEvents → DispatcherEvents) (slot : Effect) : Effect :=
  fun session =>
    if bit then
      let session := session.mapSocket fun socket =>
        { socket with enabledEvents := disable socket.enabledEvents }
      if session.hears then slot session else some (session, [])
    else some (session, [])

/-- `PhysicalSocket::OnResolveResult`: connect to the address found, or give up. -/
def onResolveResult (error : Int) (outcome : ConnectOutcome) : Effect := fun session =>
  match session.asyncSocket with
  | none => some (session, [])
  | some socket =>
      let (socket, error) :=
        if error = 0 then socket.doConnect outcome else (socket.close, error)
      let session := { session with asyncSocket := some socket }
      if error ≠ 0 ∧ session.hears then onCloseEvent error session else some (session, [])

end Session

/-- What the event loop can do to a session, with what the environment answers. -/
inductive Event where
  | start (connectId : UInt32) (unresolved : Bool) (outcome : ConnectOutcome)
  | stop
  | asyncWrite (data : Option (List UInt8)) (dataSize : UInt32) (packetType : UInt8)
      (result : SendResult)
  | timer (now : UInt32) (result : SendResult)
  /-- `OnPreEvent` and `OnEvent` of the dispatcher; the later arguments answer
  the slots of the bits that are set. -/
  | dispatch (ff : DispatcherEvents) (err : Int) (now : UInt32)
      (chunks : List (List UInt8 × UInt32)) (ending : RecvEnd) (result : SendResult)
  | resolved (error : Int) (outcome : ConnectOutcome)

namespace Session

open Effect in
/-- The four signals of `SocketDispatcher::OnEvent`, in the order of the source. -/
def onEvent (host : HostOrder) (ff : DispatcherEvents) (err : Int) (now : UInt32)
    (chunks : List (List UInt8 × UInt32)) (ending : RecvEnd) (result : SendResult) : Effect :=
  andThen (signal ff.connect (fun enabled => { enabled with connect := false })
      (onConnectEvent now)) <|
  andThen (signal ff.read (fun enabled => { enabled with read := false })
      (onReadEvent host chunks ending)) <|
  andThen (signal ff.write (fun enabled => { enabled with write := false })
      (onWriteEvent result)) <|
  signal ff.close (fun _ => .none) (onCloseEvent err)

/-- What happens to a session in a step. -/
def step (host : HostOrder) (session : Session) : Event → Option (Session × List Output)
  | .start connectId unresolved outcome => some (session.start connectId unresolved outcome, [])
  | .stop => some (session.stop, [])
  | .asyncWrite data dataSize packetType result =>
      asyncWrite host data dataSize packetType result session
  | .timer now result => onMessage host now result session
  | .dispatch ff err now chunks ending result =>
      onEvent host ff err now chunks ending result (session.mapSocket (·.onPreEvent ff))
  | .resolved error outcome => onResolveResult error outcome session

end Session

/-- The machine of one session. -/
def sessionMachine (host : HostOrder) : Machine Session Event Output := ⟨Session.step host⟩

end VzSdk.Transport
