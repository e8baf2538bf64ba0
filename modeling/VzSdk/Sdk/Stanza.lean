import VzSdk.Event.MessageQueue
import VzSdk.Sdk.Json

/-!
# Tasks and stanzas

The payloads of the SDK's messages. Every payload is read through a pointer to
its base class `Stanza`, which has the type and the session; `Stanza` here keeps
the class it was created as, so that a read of another class's fields can be
told apart. A task is what a thread waits for; it carries the payload of its
request.
-/

namespace VzSdk.Sdk

open VzSdk.Event

/-- The types of the messages between the threads. -/
inductive StanzaType where
  | reqDisconnectServer
  | reqConnectServer
  | reqSendRequestion
  | reqAddPushTask
  | reqRemoveTaskEvent
  | reqRemoveSessionEvent
  | resDisconnectedEventFailure
  | resDisconnectedEventSucceed
  | resSessionNotFound
  | resPushSucceed
  | resConnectedEvent
  | resStanzaEvent
  | resReconnectEvent
  | resResumeTaskEvent
deriving DecidableEq, Repr

/-- The number of a stanza type; the requests are below `0xFF`, the replies above. -/
def StanzaType.code : StanzaType → UInt32
  | reqDisconnectServer => 0
  | reqConnectServer => 1
  | reqSendRequestion => 2
  | reqAddPushTask => 3
  | reqRemoveTaskEvent => 4
  | reqRemoveSessionEvent => 5
  | resDisconnectedEventFailure => 0x100
  | resDisconnectedEventSucceed => 0x101
  | resSessionNotFound => 0x102
  | resPushSucceed => 0x103
  | resConnectedEvent => 0x104
  | resStanzaEvent => 0x105
  | resReconnectEvent => 0x106
  | resResumeTaskEvent => 0x107

/-- The types that objects of class `Stanza` itself are created with. -/
inductive PlainType where
  | removeSession
  | disconnectedFailure
  | disconnectedSucceed
  | sessionNotFound
  | pushSucceed
  | connected
  | resumeTask
deriving DecidableEq, Repr

/-- The type of a message that holds only a session id. -/
def PlainType.stanzaType : PlainType → StanzaType
  | removeSession => .reqRemoveSessionEvent
  | disconnectedFailure => .resDisconnectedEventFailure
  | disconnectedSucceed => .resDisconnectedEventSucceed
  | sessionNotFound => .resSessionNotFound
  | pushSucceed => .resPushSucceed
  | connected => .resConnectedEvent
  | resumeTask => .resResumeTaskEvent

/-- The address of a device. -/
structure SocketAddress where
  host : String
  port : UInt16
deriving DecidableEq, Repr

/-- The kinds of request a `RequestData` is sent for: by a `ReqTask`, a
`ReqRecordTask` or a `ReqPushTask`. -/
inductive RequestKind where
  | req
  | record
  | push
deriving DecidableEq, Repr

/-- What a task asks for. -/
inductive TaskData where
  | connect (address : SocketAddress)
  | disconnect (sessionId : UInt32)
  | request (kind : RequestKind) (sessionId : UInt32) (reqJson : Json)
  | pushManager

/-- A task; `thread` is the thread whose queue its replies are posted to. -/
structure Task where
  taskId : UInt32
  thread : Nat
  timeout : UInt32
  data : TaskData

/-- A payload, by the class it was created as. -/
inductive Stanza where
  | plain (type : PlainType) (session : UInt32)
  /-- `ReqConnectData`; `reconnect` tells that its type was set to `RES_RECONNECT_EVENT`. -/
  | connectData (reconnect : Bool) (session : UInt32) (address : SocketAddress)
  | disconnectData (session : UInt32)
  /-- `RequestData`; `tag` is not data of the program: it names the task the request is from. -/
  | requestData (session : UInt32) (reqJson : Json) (isPush : Bool) (tag : UInt32)
  /-- `ResponseData`; `origin` is not data of the program: it names the task whose
  request the device answers with it, if it answers one. -/
  | responseData (session : UInt32) (resJson : Json) (resData : List UInt8)
      (origin : Option UInt32)
  | reqTask (task : Task)
  | removeTask (task : Task)

namespace Task

/-- `Task::message_type`. -/
def messageType (task : Task) : StanzaType :=
  match task.data with
  | .connect _ => .reqConnectServer
  | .disconnect _ => .reqDisconnectServer
  | .request _ _ _ => .reqSendRequestion
  | .pushManager => .reqAddPushTask

/-- `Task::message_data`. -/
def messageData (task : Task) : Option Stanza :=
  match task.data with
  | .connect address => some (.connectData false 0 address)
  | .disconnect sessionId => some (.disconnectData sessionId)
  | .request kind sessionId reqJson =>
      some (.requestData sessionId reqJson (kind = .push) task.taskId)
  | .pushManager => none

end Task

namespace Stanza

/-- The type of a message. -/
def stanzaType : Stanza → StanzaType
  | plain type _ => type.stanzaType
  | connectData reconnect _ _ => if reconnect then .resReconnectEvent else .reqConnectServer
  | disconnectData _ => .reqDisconnectServer
  | requestData _ _ _ _ => .reqSendRequestion
  | responseData _ _ _ _ => .resStanzaEvent
  | reqTask task => task.messageType
  | removeTask _ => .reqRemoveTaskEvent

/-- `NULL_SESSION_ID` for the payloads that carry a task. -/
def sessionId : Stanza → UInt32
  | plain _ session => session
  | connectData _ session _ => session
  | disconnectData session => session
  | requestData session _ _ _ => session
  | responseData session _ _ _ => session
  | reqTask _ => 0
  | removeTask _ => 0

/-- The payload was created as a `ResponseData`. -/
def isResponse : Stanza → Bool
  | responseData _ _ _ _ => true
  | _ => false

/-- A response is a message of its type. -/
theorem isResponse_iff (stanza : Stanza) :
    stanza.isResponse = true ↔ stanza.stanzaType = .resStanzaEvent := by
  cases stanza with
  | plain type session => cases type <;> simp [isResponse, stanzaType, PlainType.stanzaType]
  | connectData reconnect session address => cases reconnect <;> simp [isResponse, stanzaType]
  | disconnectData | requestData | removeTask => simp [isResponse, stanzaType]
  | responseData => simp [isResponse, stanzaType]
  | reqTask task =>
      obtain ⟨taskId, thread, timeout, data⟩ := task
      cases data <;> simp [isResponse, stanzaType, Task.messageType]

end Stanza

/-- The objects messages are addressed to. -/
inductive Component where
  | queueLayer
  | sessionManager
  /-- A session object, by its place in the order of creation. -/
  | session (serial : Nat)
  | task (taskId : UInt32)
deriving DecidableEq, Repr

/-- A message of the SDK. -/
abbrev SdkMessage := Message Component Stanza
/-- A queue of such messages. -/
abbrev SdkQueue := MessageQueue Component Stanza

end VzSdk.Sdk
