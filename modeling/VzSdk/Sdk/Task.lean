import VzSdk.Sdk.Stanza

/-!
# How tasks recognise their replies

`HandleMessage` of the task classes. A reply of the session manager carries the
task's id; an answer of the device carries none and is recognised by its session
and its command.
-/

namespace VzSdk.Sdk

/-- The command that asks for a record. -/
def getRecord : String := "get_record"

/-- The command of a plate. -/
def ivsResult : String := "ivs_result"

/-- A device answers a request under the request's own command, or a
`get_record` under `ivs_result`. -/
def answersTo (reqCmd resCmd : String) : Bool :=
  resCmd = reqCmd || (reqCmd = getRecord && resCmd = ivsResult)

/-- `ReqTask::HandleResponse` and `ReqRecordTask::HandleResponse` for the command of a response. -/
def RequestKind.handleResponse (kind : RequestKind) (reqCmd resCmd : String) : Bool :=
  match kind with
  | .req => resCmd = reqCmd
  | .record => resCmd = ivsResult && reqCmd = getRecord
  | .push => false

namespace Task

/-- `Task::HandleMessage`: whether the task takes the message, nothing on a Json
failure. A task that takes a message posts it to its own thread. -/
def handleMessage (task : Task) (messageId : UInt32) (stanza : Stanza) : Option Bool :=
  match task.data with
  | .connect _ => some (messageId = task.taskId)
  | .disconnect sessionId =>
      some (messageId = task.taskId &&
        (stanza.stanzaType = .resDisconnectedEventSucceed ||
          stanza.stanzaType = .resDisconnectedEventFailure) &&
        stanza.sessionId = sessionId)
  | .request .push sessionId _ =>
      some (messageId = task.taskId && stanza.sessionId = sessionId)
  | .request kind sessionId reqJson =>
      match stanza with
      | .responseData session resJson _ _ =>
          if messageId = 0 ∧ session = sessionId then
            match resJson.cmd with
            | none => none
            | some resCmd => some (kind.handleResponse (reqJson.cmd.getD "") resCmd)
          else some (messageId = task.taskId && session = sessionId)
      | stanza => some (messageId = task.taskId && stanza.sessionId = sessionId)
  | .pushManager => some false

end Task

end VzSdk.Sdk
