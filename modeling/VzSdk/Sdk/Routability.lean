import VzSdk.Sdk.QueueLayer

/-!
# Device messages that routing survives

Every packet whose text the JSON reader accepts is routed: the queue thread asks
the tasks and then the push task whose command it carries, and the push thread
asks each handle. The handles look whether they have an object before they read
its command; the tasks do not. `routesSafely_iff` says which packets no task, no
push task and no handle fails on.
-/

namespace VzSdk.Sdk

open VzSdk.Event VzSdk.Std

/-- Neither an array nor an object: what `asString` has a text for. -/
def Json.isScalar : Json → Bool
  | .array _ => false
  | .object _ => false
  | _ => true

/-- Null, or an object whose command is a scalar, or null, or missing. -/
def Json.Routable : Json → Prop
  | .null => True
  | .object members => ((members.lookup jsonReqCmd).getD .null).isScalar = true
  | _ => False

namespace Json

/-- A scalar is what can be read as a text. -/
theorem asString_isSome_iff (json : Json) :
    (∃ text, json.asString = some text) ↔ json.isScalar := by
  cases json with
  | boolean value => cases value <;> simp [asString, isScalar]
  | null | int | uint | real | string | array | object => simp [asString, isScalar]

/-- A value with a command is one that can be routed. -/
theorem exists_cmd_iff (json : Json) : (∃ resCmd, json.cmd = some resCmd) ↔ json.Routable := by
  cases json with
  | null => simp [cmd, member, asString, Routable]
  | object members => simp only [cmd, member, Option.bind_some, asString_isSome_iff, Routable]
  | int | uint | real | string | boolean | array => simp [cmd, member, Routable]

end Json

/-- Routing a packet with this JSON ends in no Json failure: neither on the queue thread,
whatever tasks and keys are registered there, nor on the push thread, whatever handles are. -/
structure RoutesSafely (resJson : Json) : Prop where
  onQueueThread : ∀ (system : System) (session : SessionObject) (resData : List UInt8)
    (origin : Option UInt32), system.failed = false →
      (System.onTranslateToSyncLayer
        (system.onSessionPacketEvent session ⟨some resJson, resData, origin⟩) 0
        (.responseData session.sessionId resJson resData origin)).failed = false
  onPushThread : ∀ (handles : List PushHandle) (session : UInt32) (resData : List UInt8)
    (origin : Option UInt32) (memory : Json),
      (PushManagerTask.offer (.responseData session resJson resData origin) memory handles).2 =
        false

section

variable {resJson : Json} {resCmd : String} (read : resJson.cmd = some resCmd)
  (session : UInt32) (resData : List UInt8) (origin : Option UInt32)

include read

/-- Every task answers a response. -/
theorem Task.exists_handleMessage (task : Task) (messageId : UInt32) :
    ∃ taken, task.handleMessage messageId (.responseData session resJson resData origin) =
      some taken := by
  obtain ⟨taskId, thread, timeout, data⟩ := task
  cases data with
  | connect | disconnect | pushManager => exact ⟨_, rfl⟩
  | request kind sessionId reqJson =>
      cases kind with
      | push => exact ⟨_, rfl⟩
      | req | record =>
          simp only [handleMessage, read]
          split <;> exact ⟨_, rfl⟩

/-- No task fails at a response. -/
theorem taker_ne_failure (messageId : UInt32) (tasks : List (UInt32 × Task)) :
    taker messageId (.responseData session resJson resData origin) tasks ≠ .failure := by
  induction tasks with
  | nil => simp [taker]
  | cons entry tasks ih =>
      obtain ⟨taken, handled⟩ :=
        Task.exists_handleMessage read session resData origin entry.2 messageId
      cases taken with
      | true => simp [taker, handled]
      | false => simpa [taker, handled] using ih

/-- Routing a response does not fail. -/
theorem System.failed_onTranslateToSyncLayer {system : System} (messageId : UInt32)
    (running : system.failed = false) :
    (system.onTranslateToSyncLayer messageId
      (.responseData session resJson resData origin)).failed = false := by
  unfold onTranslateToSyncLayer
  split
  · exact running
  · next failure => exact absurd failure (taker_ne_failure read session resData origin _ _)
  · split
    · unfold pushHandleMessage
      split
      · next refused =>
          -- The push task fails only where it reads the command.
          simp only [PushManagerTask.handleMessage, Stanza.resJson, read] at refused
          repeat' split at refused
          all_goals cases refused
      · split
        · exact running
        · exact running
    · exact running

/-- The command a handle finds has a text. -/
theorem PushHandle.asString_of_objectCmd {memory cmd : Json}
    (found : objectCmd (.responseData session resJson resData origin) memory = some cmd) :
    cmd.asString = some resCmd := by
  simp only [objectCmd, Stanza.resJson] at found
  cases member : resJson.member jsonReqCmd with
  | none => simp [member] at found
  | some value =>
      have same : value = cmd := by
        simp only [member, Option.bind_some, Option.ite_none_right_eq_some,
          Option.ite_none_left_eq_some] at found
        exact Option.some.inj found.2.2
      subst same
      simpa only [Json.cmd, member, Option.bind_some] using read

/-- No handle fails at a response. -/
theorem PushHandle.handleMessageData_ne_failed (handle : PushHandle) (memory : Json) :
    (handle.handleMessageData (.responseData session resJson resData origin) memory).2 ≠
      .failed := by
  unfold handleMessageData
  cases handle.kind with
  | ivs =>
      simp only [ivsHandleMessageData]
      split
      · simp
      · next cmd found =>
          rw [asString_of_objectCmd read session resData origin found]
          simp only
          split <;> simp
  | serial =>
      simp only [serialHandleMessageData]
      split
      · simp
      · next cmd found =>
          rw [asString_of_objectCmd read session resData origin found]
          simp only
          split <;> simp
  | changeConn =>
      simp only [changeConnHandleMessageData]
      repeat' split
      all_goals simp
  | resume =>
      simp only [resumeHandleMessageData]
      split <;> simp

/-- Offering a response to the handles does not fail. -/
theorem PushManagerTask.offer_not_failed (memory : Json) (handles : List PushHandle) :
    (offer (.responseData session resJson resData origin) memory handles).2 = false := by
  induction handles with
  | nil => rfl
  | cons handle handles ih =>
      have fine := handle.handleMessageData_ne_failed read session resData origin memory
      simp only [offer]
      split
      · rfl
      · next verdict => exact absurd verdict fine
      · exact ih

end

/-- The queue thread when the push task is registered and nobody else waits. -/
theorem System.failed_onTranslateToSyncLayer_of_unreadable {resJson : Json}
    (unread : resJson.cmd = none) {system : System} (idle : system.tasks.entries = [])
    (registered : system.pushRegistered = true) (session : UInt32) (resData : List UInt8)
    (origin : Option UInt32) :
    (system.onTranslateToSyncLayer 0 (.responseData session resJson resData origin)).failed =
      true := by
  simp [onTranslateToSyncLayer, idle, taker, registered, pushHandleMessage,
    PushManagerTask.handleMessage, Stanza.resJson, Stanza.stanzaType, unread]

/-- Routing survives exactly the packets that are null, or objects whose command is neither an
array nor an object. -/
theorem routesSafely_iff (resJson : Json) : RoutesSafely resJson ↔ resJson.Routable := by
  rw [← Json.exists_cmd_iff]
  constructor
  · intro safe
    cases read : resJson.cmd with
    | some resCmd => exact ⟨resCmd, rfl⟩
    | none =>
        have survived := safe.onQueueThread { System.start 0 with pushRegistered := true }
          (.new 0 1) [] none rfl
        rw [System.failed_onTranslateToSyncLayer_of_unreadable read rfl rfl] at survived
        cases survived
  · rintro ⟨resCmd, read⟩
    refine ⟨?_, ?_⟩
    · intro system session resData origin running
      refine System.failed_onTranslateToSyncLayer read _ resData origin 0 ?_
      simp only [System.onSessionPacketEvent]
      split <;> exact running
    · intro handles session resData origin memory
      exact PushManagerTask.offer_not_failed read session resData origin memory handles

/-- A device sends the array `[1]`. -/
theorem array_breaks_routing : ¬RoutesSafely (.array [.int 1]) := by
  intro safe
  have survived := safe.onQueueThread { System.start 0 with pushRegistered := true } (.new 0 1)
    [0x5b, 0x31, 0x5d] none rfl
  exact absurd survived (by decide)

end VzSdk.Sdk
