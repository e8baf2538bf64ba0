import VzSdk.Std.OrderedMap
import VzSdk.Event.AsyncSocket
import VzSdk.Sdk.PushManager
import VzSdk.Sdk.Task
import VzSdk.Sdk.TaskWait

/-!
# The state of the SDK

The queue thread with its tasks, the asynchronous thread with its sessions, the
application's threads, and the connections to the devices. A connection is a
pair of packet queues: `Session.receiveAll_asyncWrites` and
`Session.run_conserves_writes` say that this is what its byte streams amount to.
Names of requests on the connections and in the payloads are for the proofs only.
-/

namespace VzSdk.Sdk

open VzSdk.Base VzSdk.Event VzSdk.Std

/-- A request on its way to a device, with the task it is from. -/
structure Request where
  tag : UInt32
  reqJson : Json

/-- A packet of a device: what the JSON reader makes of it, its bytes, and the
request it answers, if any. -/
structure Answer where
  resJson : Option Json
  resData : List UInt8
  origin : Option UInt32

/-- A session object and its connection. -/
structure SessionObject where
  serial : Nat
  sessionId : UInt32
  connectId : UInt32
  asyncSocket : Option AsyncSocket
  /-- The session's three signals are bound to the manager. -/
  bound : Bool
  msStart : UInt32
  /-- Requests written and not yet received by the device. -/
  outgoing : List Request
  /-- Requests the device has received and not yet answered. -/
  unanswered : List Request
  /-- Packets of the device not yet read. -/
  incoming : List Answer

/-- What a thread of the application is doing. -/
inductive Activity where
  | idle
  /-- Inside `SyncProcessTask`. -/
  | waiting (task : Task)
  /-- Inside `ConnectServer`, after `SyncProcessTask` has returned `msg`. -/
  | connecting (address : SocketAddress) (msg : SdkMessage)

/-- A thread that calls the SDK. -/
structure ThreadState where
  activity : Activity
  /-- The thread's queue, and the variables of `WaitTaskDone` while it waits. -/
  wait : WaitState Component Stanza

/-- The state of the SDK: its counters, sessions, tasks, queues and threads. -/
structure System where
  /-- `Task::unequal_task_id_`. -/
  taskCounter : UInt32
  /-- `Session::unequal_session_id_`. -/
  sessionCounter : UInt32
  /-- The number of session objects made so far. -/
  serials : Nat
  queueThread : SdkQueue
  asyncThread : SdkQueue
  tasks : OrderedMap UInt32 Task
  pushManager : PushManagerTask
  /-- `push_task_` is set. -/
  pushRegistered : Bool
  /-- The thread of the push task. -/
  pushThread : Nat
  asyncSessions : OrderedMap UInt32 SessionObject
  threads : Nat → ThreadState
  /-- For the proofs only: the sessions whose disconnection was answered with success. -/
  closed : List UInt32
  /-- A Json failure has ended the program. -/
  failed : Bool

/-- What is seen of a step. -/
inductive SystemOutput where
  /-- `async_sessions_.insert`. -/
  | inserted (sessionId : UInt32)
  /-- `OnDisconnectMessage` answers `RES_DISCONNECTED_EVENT_SUCCEED`. -/
  | disconnectSucceeded (sessionId : UInt32)
  /-- `SyncProcessTask` returns. -/
  | returned (task : Task) (msg : SdkMessage)
  /-- An action of a push handle. -/
  | pushed (output : PushOutput)

/-- What the socket answers to a `Connect`. -/
structure ConnectAnswer where
  unresolved : Bool
  outcome : ConnectOutcome
deriving DecidableEq, Repr

/-- The connection is made later. -/
def ConnectAnswer.pending : ConnectAnswer := ⟨false, .inProgress⟩

namespace SessionObject

/-- `Session::GetState`. -/
def getState (session : SessionObject) : ConnState :=
  match session.asyncSocket with
  | some socket => socket.state
  | none => .closed

/-- The session's slots still receive the socket's signals. -/
def hears (session : SessionObject) : Bool := (session.asyncSocket.map (·.slots)).getD false

/-- The session with its socket changed. -/
def mapSocket (session : SessionObject) (operation : AsyncSocket → AsyncSocket) : SessionObject :=
  { session with asyncSocket := session.asyncSocket.map operation }

/-- A new session object. -/
def new (serial : Nat) (sessionId : UInt32) : SessionObject :=
  ⟨serial, sessionId, 0, none, false, 0, [], [], []⟩

/-- `Session::Start`. -/
def start (session : SessionObject) (connectId : UInt32) (answer : ConnectAnswer) : SessionObject :=
  { session with
    connectId := connectId
    asyncSocket := some (AsyncSocket.create.connect answer.unresolved answer.outcome).1 }

/-- `Session::UinitSocket`. -/
def uinitSocket (session : SessionObject) : SessionObject :=
  session.mapSocket fun socket =>
    if socket.state ≠ .closed then { socket with slots := false } else socket

end SessionObject

namespace System

/-- The SDK after `VzTcpDeviceManage::Start`: the push task has been posted. -/
def start (pushThread : Nat) : System where
  taskCounter := 2
  sessionCounter := 1
  serials := 0
  queueThread := MessageQueue.new.post
    ⟨some .queueLayer, 2, some (.reqTask ⟨2, pushThread, 50000, .pushManager⟩)⟩
  asyncThread := .new
  tasks := .empty
  pushManager := .new 2
  pushRegistered := false
  pushThread := pushThread
  asyncSessions := .empty
  threads := fun _ => ⟨.idle, ⟨.new, .zero, 0, 0, .done⟩⟩
  closed := []
  failed := false

/-- `QueueLayer::Post`. -/
def postQueue (system : System) (id : UInt32) (stanza : Stanza) : System :=
  { system with queueThread := system.queueThread.post ⟨some .queueLayer, id, some stanza⟩ }

/-- `SessionManager::Post`. -/
def postAsync (system : System) (id : UInt32) (pdata : Option Stanza) : System :=
  { system with asyncThread := system.asyncThread.post ⟨some .sessionManager, id, pdata⟩ }

/-- One thread changes. -/
def setThread (system : System) (thread : Nat) (state : ThreadState) : System :=
  { system with threads := fun other => if other = thread then state else system.threads other }

/-- `task_thread_->Post` of a task. -/
def postThread (system : System) (thread : Nat) (message : SdkMessage) : System :=
  let state := system.threads thread
  system.setThread thread
    { state with wait := { state.wait with queue := state.wait.queue.post message } }

end System

end VzSdk.Sdk
