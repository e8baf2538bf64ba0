import Mathlib.Data.List.Induction
import VzSdk.Std.Machine
import VzSdk.Sdk.Stanza

/-!
# Push messages

`PushManagerTask` posts what no request claimed to the push thread, and there
offers it to the registered handles until one accepts it. Handles receive every
payload as a `ResponseData`; what they read from a payload of another class is
whatever the memory behind it holds. The code that a handle calls out to may
register further handles, and these are offered the payload as well.
`dispatch_typeSafe_iff` says in exactly which runs no handle reads such memory.
-/

namespace VzSdk.Sdk

open VzSdk.Event VzSdk.Std

/-- The classes of the push handles. -/
inductive PushKind where
  | ivs
  | serial
  | changeConn
  | resume
deriving DecidableEq, Repr

/-- A push handle; `object` tells two handle objects apart. -/
structure PushHandle where
  object : Nat
  kind : PushKind
  cmdKey : String
  sessionId : UInt32
deriving DecidableEq, Repr

/-- What a device is reported as. -/
inductive Notify where
  | online
  | offline
deriving DecidableEq, Repr

/-- What a handle does with a payload. -/
inductive HandleAction where
  /-- Read `res_json_`. -/
  | readJson
  /-- Read `res_data_`. -/
  | readData
  | plateCallback
  | serialCallback
  | changeConnStatus (notify : Notify)
  | disableGetrecord
  /-- `ResumePushHandle::HandleResponse`. -/
  | resumeRecords
deriving DecidableEq, Repr

/-- The action runs code outside the push manager, which may register handles: the slots of
`SignalChangeConnStatus` (`SlotRecvChangeConnStatus` does) and the callbacks of the user. -/
def HandleAction.callsOut : HandleAction → Bool
  | .plateCallback | .serialCallback | .changeConnStatus _ | .resumeRecords => true
  | .readJson | .readData | .disableGetrecord => false

/-- How `HandleMessageData` ends; a Json failure ends the thread. -/
inductive Verdict where
  | accepted
  | refused
  | failed
deriving DecidableEq, Repr

/-- `res_json()` of a payload taken for a `ResponseData`; `memory` is what stands
in its place when the payload is of another class. -/
def Stanza.resJson (memory : Json) : Stanza → Json
  | .responseData _ json _ _ => json
  | _ => memory

namespace PushHandle

/-- The first test of `IvsPushHandle` and `SerialPushHandle`: the payload's JSON is an
object with a command. -/
def objectCmd (response : Stanza) (memory : Json) : Option Json :=
  let resJson := response.resJson memory
  if resJson.isObject then
    (resJson.member jsonReqCmd).bind fun cmd => if cmd.isNull then none else some cmd
  else none

/-- `IvsPushHandle::HandleMessageData`. -/
def ivsHandleMessageData (handle : PushHandle) (response : Stanza) (memory : Json) :
    List HandleAction × Verdict :=
  match objectCmd response memory with
  | none => ([.readJson], .refused)
  | some cmd =>
      match cmd.asString with
      | none => ([.readJson], .failed)
      | some resCmd =>
          if response.sessionId = handle.sessionId ∧ response.stanzaType = .resStanzaEvent ∧
              resCmd = handle.cmdKey then
            ([.readJson, .readJson, .readJson, .readData, .plateCallback], .accepted)
          else ([.readJson], .refused)

/-- `SerialPushHandle::HandleMessageData`: any session's data is accepted. -/
def serialHandleMessageData (handle : PushHandle) (response : Stanza) (memory : Json) :
    List HandleAction × Verdict :=
  match objectCmd response memory with
  | none => ([.readJson], .refused)
  | some cmd =>
      match cmd.asString with
      | none => ([.readJson, .readJson], .failed)
      | some resCmd =>
          if response.stanzaType = .resStanzaEvent ∧ resCmd = handle.cmdKey then
            ([.readJson, .readJson, .readJson, .readJson, .serialCallback], .accepted)
          else ([.readJson, .readJson], .refused)

/-- `ChangeConnPushHandle::HandleMessageData` accepts nothing. -/
def changeConnHandleMessageData (handle : PushHandle) (response : Stanza) :
    List HandleAction × Verdict :=
  if response.sessionId = handle.sessionId then
    if response.stanzaType = .resConnectedEvent then ([.changeConnStatus .online], .refused)
    else if response.stanzaType = .resDisconnectedEventFailure then
      ([.changeConnStatus .offline], .refused)
    else ([], .refused)
  else ([], .refused)

/-- The stanza is a resume event of the handle's session. -/
def ownResume (handle : PushHandle) (response : Stanza) : Bool :=
  response.sessionId = handle.sessionId && response.stanzaType = .resResumeTaskEvent

/-- `HandleMessageData` of a `ResumeHandle`. -/
def resumeHandleMessageData (handle : PushHandle) (response : Stanza) :
    List HandleAction × Verdict :=
  let disconnected :=
    if response.stanzaType = .resDisconnectedEventSucceed ∨
        response.stanzaType = .resDisconnectedEventFailure then
      [HandleAction.disableGetrecord]
    else []
  if handle.ownResume response then (disconnected ++ [.resumeRecords], .accepted)
  else (disconnected, .refused)

/-- `HandleMessageData`, by the class of the handle. -/
def handleMessageData (handle : PushHandle) (response : Stanza) (memory : Json) :
    List HandleAction × Verdict :=
  match handle.kind with
  | .ivs => handle.ivsHandleMessageData response memory
  | .serial => handle.serialHandleMessageData response memory
  | .changeConn => handle.changeConnHandleMessageData response
  | .resume => handle.resumeHandleMessageData response

end PushHandle

/-- An action on a payload. -/
structure PushOutput where
  payload : Stanza
  action : HandleAction

/-- The push task: its handles in the order of their registration, and their keys. -/
structure PushManagerTask where
  taskId : UInt32
  pushHandles : List PushHandle
  pushHandleKeys : List String

namespace PushManagerTask

/-- The push task without handles. -/
def new (taskId : UInt32) : PushManagerTask := ⟨taskId, [], []⟩

/-- Register a handle behind the others. -/
def addPushHandle (manager : PushManagerTask) (handle : PushHandle) : PushManagerTask :=
  { manager with
    pushHandles := manager.pushHandles ++ [handle]
    pushHandleKeys :=
      if manager.pushHandleKeys.contains handle.cmdKey then manager.pushHandleKeys
      else manager.pushHandleKeys ++ [handle.cmdKey] }

/-- Handles registered one after the other. -/
def addPushHandles (manager : PushManagerTask) (handles : List PushHandle) : PushManagerTask :=
  handles.foldl addPushHandle manager

/-- They stand behind the others, in the order in which they were registered. -/
@[simp] theorem pushHandles_addPushHandles (manager : PushManagerTask) (handles : List PushHandle) :
    (manager.addPushHandles handles).pushHandles = manager.pushHandles ++ handles := by
  unfold addPushHandles
  induction handles generalizing manager with
  | nil => simp
  | cons handle handles inductionHypothesis =>
      rw [List.foldl_cons, inductionHypothesis]
      simp [addPushHandle]

/-- The key goes even when another handle still has it. -/
def removePushHandle (manager : PushManagerTask) (handle : PushHandle) : PushManagerTask :=
  { manager with
    pushHandles := manager.pushHandles.eraseP fun other => other.object = handle.object
    pushHandleKeys := manager.pushHandleKeys.filter fun key => key ≠ handle.cmdKey }

/-- The key of the handles that take the status of a connection. -/
def changeConnStatusKey : String := "change_conn_status"

/-- What `HandleMessage` does: whether it posts the payload to the push thread,
and its result. A change of connection is posted and yet not accepted. -/
structure Handled where
  posts : Bool
  accepted : Bool

/-- `PushManagerTask::HandleMessage`, nothing on a Json failure. -/
def handleMessage (manager : PushManagerTask) (messageId : UInt32) (stanza : Stanza) :
    Option Handled :=
  if messageId = 0 ∧ stanza.stanzaType = .resStanzaEvent then
    match (stanza.resJson .null).cmd with
    | none => none
    | some resCmd =>
        let known := manager.pushHandleKeys.contains resCmd
        some ⟨known, known⟩
  else if stanza.stanzaType = .resDisconnectedEventFailure ∨
      stanza.stanzaType = .resConnectedEvent then
    some ⟨manager.pushHandleKeys.contains changeConnStatusKey, false⟩
  else if stanza.stanzaType = .resResumeTaskEvent then some ⟨true, true⟩
  else some ⟨false, false⟩

/-- The loop of `ProcessPushEvent` over the handles, and whether it ended in a Json failure.
The size of `push_handles_` is read at every turn, so the handles are those that are
registered when the loop ends. -/
def offer (response : Stanza) (memory : Json) : List PushHandle → List PushOutput × Bool
  | [] => ([], false)
  | handle :: handles =>
      let (actions, verdict) := handle.handleMessageData response memory
      let outputs := actions.map fun action => ⟨response, action⟩
      match verdict with
      | .accepted => (outputs, false)
      | .failed => (outputs, true)
      | .refused =>
          let (rest, failed) := offer response memory handles
          (outputs ++ rest, failed)

/-- `ProcessPushEvent`, of a manager that has all the handles registered before the loop ends. -/
def processPushEvent (manager : PushManagerTask) (pdata : Option Stanza) (memory : Json) :
    List PushOutput × Bool :=
  match pdata with
  | none => ([], false)
  | some response => offer response memory manager.pushHandles

end PushManagerTask

/-- The push task and the queue of its thread. -/
structure PushState where
  manager : PushManagerTask
  taskThread : SdkQueue
  /-- A Json failure has ended the program. -/
  failed : Bool

/-- What happens to the push task. -/
inductive PushLabel where
  | addPushHandle (handle : PushHandle)
  | removePushHandle (handle : PushHandle)
  /-- The queue layer offers a message to the push task. -/
  | handleMessage (messageId : UInt32) (stanza : Stanza)
  /-- The push thread takes its next message at `now` and dispatches it. Meanwhile the code
  that a handle calls out to registers further handles; `crit_` keeps other threads out. -/
  | dispatch (now : UInt32) (memory : Json) (registered : List PushHandle)
  /-- A wait nested in a handle takes the next message and drops it. -/
  | drop (now : UInt32)

namespace PushState

/-- Nothing is registered at the start. -/
def start (taskId : UInt32) : PushState := ⟨.new taskId, .new, false⟩

/-- `PushManagerTask::HandleMessage`, called by the queue layer. -/
def handleMessage (state : PushState) (messageId : UInt32) (stanza : Stanza) : PushState :=
  match state.manager.handleMessage messageId stanza with
  | none => { state with failed := true }
  | some handled =>
      if handled.posts then
        { state with
          taskThread := state.taskThread.post
            ⟨some (.task state.manager.taskId), state.manager.taskId, some stanza⟩ }
      else state

/-- The next message of the push thread, if there is one. -/
def nextPayload (state : PushState) (now : UInt32) : Option Stanza :=
  let pass := state.taskThread.getPass now .zero
  if pass.found then pass.pmsg.pdata else none

/-- In the loop handles are registered only by code that a handle has called out to. -/
def mayRegister (state : PushState) (now : UInt32) (memory : Json) (registered : List PushHandle) :
    Bool :=
  registered.isEmpty ||
    (state.manager.processPushEvent (state.nextPayload now) memory).1.any (·.action.callsOut)

/-- What happens in a step of the push task. -/
def step (state : PushState) (label : PushLabel) : Option (PushState × List PushOutput) :=
  if state.failed then none
  else
    match label with
    | .addPushHandle handle =>
        some ({ state with manager := state.manager.addPushHandle handle }, [])
    | .removePushHandle handle =>
        some ({ state with manager := state.manager.removePushHandle handle }, [])
    | .handleMessage messageId stanza => some (state.handleMessage messageId stanza, [])
    | .dispatch now memory registered =>
        if state.mayRegister now memory registered then
          let manager := state.manager.addPushHandles registered
          let (outputs, failed) := manager.processPushEvent (state.nextPayload now) memory
          some ({ manager := manager
                  taskThread := (state.taskThread.getPass now .zero).queue
                  failed := failed }, outputs)
        else none
    | .drop now =>
        some ({ state with taskThread := (state.taskThread.getPass now .zero).queue }, [])

end PushState

/-- The machine of the push task and its thread. -/
def pushMachine : Machine PushState PushLabel PushOutput := ⟨PushState.step⟩

namespace PushState

variable {state : PushState}

/-- Registering a handle from outside the loop. -/
theorem step_addPushHandle (running : state.failed = false) (handle : PushHandle) :
    state.step (.addPushHandle handle) =
      some ({ state with manager := state.manager.addPushHandle handle }, []) := by
  simp [step, running]

/-- A dispatch in which nothing is registered. -/
theorem step_dispatch_nil (running : state.failed = false) (now : UInt32) (memory : Json) :
    state.step (.dispatch now memory []) =
      some ({ state with
          taskThread := (state.taskThread.getPass now .zero).queue
          failed := (state.manager.processPushEvent (state.nextPayload now) memory).2 },
        (state.manager.processPushEvent (state.nextPayload now) memory).1) := by
  simp [step, running, mayRegister, PushManagerTask.addPushHandles]

/-- What is registered in the loop of a dispatch might as well have been registered just before
it: the runs in which nothing is registered in the loop show every other one. -/
theorem step_dispatch_registered {next : PushState} {now : UInt32} {memory : Json}
    {registered : List PushHandle} {outputs : List PushOutput}
    (transition : state.step (.dispatch now memory registered) = some (next, outputs)) :
    pushMachine.Run state (registered.map .addPushHandle ++ [.dispatch now memory []]) next
      outputs := by
  have running : state.failed = false := by
    cases failed : state.failed with
    | false => rfl
    | true => simp [step, failed] at transition
  have registering : pushMachine.Run state (registered.map .addPushHandle)
      { state with manager := state.manager.addPushHandles registered } [] := by
    clear transition
    -- the last registration of the loop is the last one of the run
    induction registered using List.reverseRecOn with
    | nil => exact .nil
    | append_singleton earlier handle inductionHypothesis =>
        rw [List.map_append, PushManagerTask.addPushHandles, List.foldl_append]
        have goesOn :
            { state with manager := state.manager.addPushHandles earlier }.failed = false := running
        have registers := step_addPushHandle goesOn handle
        exact .snoc inductionHypothesis trivial registers
  refine .snoc registering trivial ?_
  have goesOn :
      { state with manager := state.manager.addPushHandles registered }.failed = false := running
  have loop := step_dispatch_nil goesOn now memory
  refine loop.trans ?_
  simp only [step, running, Bool.false_eq_true, if_false] at transition
  split at transition
  · cases transition
    rfl
  · cases transition

end PushState

/-! ## Payload types -/

/-- The action reads what the message holds. -/
def HandleAction.reads : HandleAction → Bool
  | .readJson => true
  | .readData => true
  | _ => false

/-- A payload's JSON or data is read only if it was created as a `ResponseData`. -/
def PushOutput.TypeSafe (output : PushOutput) : Prop :=
  output.action.reads = true → output.payload.isResponse = true

/-- A handle that reads the JSON before it looks at the stanza's type. -/
def PushHandle.readsFirst (handle : PushHandle) : Bool :=
  handle.kind = .ivs || handle.kind = .serial

/-- A handle that accepts a stanza without reading it. -/
def PushHandle.takesUnread (handle : PushHandle) (stanza : Stanza) : Bool :=
  handle.kind = .resume && handle.ownResume stanza

/-- No Ivs or Serial handle stands before the first handle that takes the stanza unread. -/
def Shielded (handles : List PushHandle) (stanza : Stanza) : Prop :=
  ∀ handle ∈ handles.takeWhile (fun handle => !handle.takesUnread stanza),
    handle.readsFirst = false

/-- A stanza of another class than `ResponseData` is dispatched only when shielded, from the
handles that are registered meanwhile as well. -/
def ReadersShielded (state : PushState) : PushLabel → Prop
  | .dispatch now _ registered => ∀ stanza, state.nextPayload now = some stanza →
      stanza.isResponse = true ∨ Shielded (state.manager.pushHandles ++ registered) stanza
  | _ => True

namespace PushHandle

variable {handle : PushHandle} {stanza : Stanza}

/-- On a stanza of another class the Ivs and Serial handles read and do not accept. -/
theorem handleMessageData_reader (reader : handle.readsFirst = true)
    (other : stanza.isResponse = false) (memory : Json) :
    .readJson ∈ (handle.handleMessageData stanza memory).1 := by
  have noResponse : stanza.stanzaType ≠ .resStanzaEvent := by
    rw [ne_eq, ← stanza.isResponse_iff, other]
    simp
  simp only [readsFirst, Bool.or_eq_true, decide_eq_true_eq] at reader
  rcases reader with kind | kind
  all_goals
    simp only [handleMessageData, kind, ivsHandleMessageData, serialHandleMessageData, noResponse,
      false_and, and_false, if_false]
    split
    · simp
    · split <;> simp

/-- The other handles read nothing, and accept exactly what they take unread. -/
theorem handleMessageData_other (handle : PushHandle) (stanza : Stanza)
    (noReader : handle.readsFirst = false) (memory : Json) :
    (∀ action ∈ (handle.handleMessageData stanza memory).1, action.reads = false) ∧
      (handle.handleMessageData stanza memory).2 =
        if handle.takesUnread stanza then .accepted else .refused := by
  obtain ⟨object, kind, cmdKey, sessionId⟩ := handle
  cases kind with
  | ivs | serial => simp [readsFirst] at noReader
  | changeConn =>
      simp only [handleMessageData, takesUnread, changeConnHandleMessageData]
      split
      · split
        · simp [HandleAction.reads]
        · split <;> simp [HandleAction.reads]
      · simp
  | resume =>
      simp only [handleMessageData, takesUnread, resumeHandleMessageData]
      split
      · next own =>
          refine ⟨?_, by simp [own]⟩
          split <;> simp [HandleAction.reads]
      · next notOwn =>
          refine ⟨?_, by simp [notOwn]⟩
          split <;> simp [HandleAction.reads]

end PushHandle

namespace PushManagerTask

/-- The actions of the first handle, and those of the others only when it refuses. -/
theorem outputs_offer_cons (stanza : Stanza) (memory : Json) (handle : PushHandle)
    (handles : List PushHandle) :
    (offer stanza memory (handle :: handles)).1 =
      (handle.handleMessageData stanza memory).1.map (fun action => ⟨stanza, action⟩) ++
        if (handle.handleMessageData stanza memory).2 = .refused then
          (offer stanza memory handles).1
        else [] := by
  rw [offer]
  generalize handle.handleMessageData stanza memory = result
  obtain ⟨actions, verdict⟩ := result
  cases verdict <;> simp

/-- A message is offered to the first handle and then to the others. -/
theorem failed_offer_cons (stanza : Stanza) (memory : Json) (handle : PushHandle)
    (handles : List PushHandle) :
    (offer stanza memory (handle :: handles)).2 =
      match (handle.handleMessageData stanza memory).2 with
      | .accepted => false
      | .failed => true
      | .refused => (offer stanza memory handles).2 := by
  rw [offer]
  generalize handle.handleMessageData stanza memory = result
  obtain ⟨actions, verdict⟩ := result
  cases verdict <;> rfl

/-- What the handles do, they do with the message. -/
theorem payload_offer (stanza : Stanza) (memory : Json) (handles : List PushHandle) :
    ∀ output ∈ (offer stanza memory handles).1, output.payload = stanza := by
  induction handles with
  | nil => simp [offer]
  | cons handle handles inductionHypothesis =>
      intro output member
      rw [outputs_offer_cons] at member
      rcases List.mem_append.mp member with member | member
      · obtain ⟨action, _, rfl⟩ := List.mem_map.mp member
        rfl
      · split at member
        · exact inductionHypothesis output member
        · cases member

/-- The handles are shielded by the first one, or by the others. -/
theorem shielded_cons (handle : PushHandle) (handles : List PushHandle) (stanza : Stanza) :
    Shielded (handle :: handles) stanza ↔ handle.takesUnread stanza = true ∨
      (handle.readsFirst = false ∧ Shielded handles stanza) := by
  unfold Shielded
  cases takes : handle.takesUnread stanza <;> simp [takes]

/-- A whole `ProcessPushEvent` is type safe exactly for responses and shielded stanzas. -/
theorem offer_typeSafe_iff (stanza : Stanza) (memory : Json) (handles : List PushHandle) :
    (∀ output ∈ (offer stanza memory handles).1, output.TypeSafe) ↔
      stanza.isResponse = true ∨ Shielded handles stanza := by
  cases other : stanza.isResponse with
  | true =>
      refine iff_of_true (fun output member _ => ?_) (.inl rfl)
      rw [payload_offer stanza memory handles output member, other]
  | false =>
      simp only [Bool.false_eq_true, false_or]
      induction handles with
      | nil => simp [offer, Shielded]
      | cons handle handles inductionHypothesis =>
          cases reader : handle.readsFirst with
          | true =>
              have takes : handle.takesUnread stanza = false := by
                simp only [PushHandle.readsFirst, Bool.or_eq_true, decide_eq_true_eq] at reader
                rcases reader with kind | kind <;> simp [PushHandle.takesUnread, kind]
              have reads := PushHandle.handleMessageData_reader reader other memory
              rw [shielded_cons, takes, reader, outputs_offer_cons]
              refine iff_of_false (fun safe => ?_) (by simp)
              have response := safe ⟨stanza, .readJson⟩
                (List.mem_append_left _ (List.mem_map.mpr ⟨_, reads, rfl⟩)) rfl
              rw [other] at response
              cases response
          | false =>
              obtain ⟨silent, verdict⟩ := handle.handleMessageData_other stanza reader memory
              have quiet : ∀ output ∈ (handle.handleMessageData stanza memory).1.map
                  (fun action => (⟨stanza, action⟩ : PushOutput)), output.TypeSafe := by
                intro output member reads
                obtain ⟨action, acts, rfl⟩ := List.mem_map.mp member
                rw [silent action acts] at reads
                cases reads
              rw [shielded_cons, reader, outputs_offer_cons, verdict]
              cases takes : handle.takesUnread stanza with
              | true => simpa using quiet
              | false =>
                  simp only [Bool.false_eq_true, if_false, if_true, false_or, true_and,
                    List.mem_append]
                  rw [← inductionHypothesis]
                  constructor
                  · intro safe output member
                    exact safe output (.inr member)
                  · rintro safe output (member | member)
                    · exact quiet output member
                    · exact safe output member

end PushManagerTask

/-- A step reads no message for what it is not, when the readers are shielded. -/
theorem step_typeSafe_iff {state next : PushState} {label : PushLabel}
    {emitted : List PushOutput} (transition : pushMachine.step state label = some (next, emitted)) :
    (∀ output ∈ emitted, output.TypeSafe) ↔ ReadersShielded state label := by
  have running : state.failed = false := by
    cases failed : state.failed with
    | false => rfl
    | true => simp [pushMachine, PushState.step, failed] at transition
  simp only [pushMachine, PushState.step, running, Bool.false_eq_true, if_false] at transition
  cases label with
  | addPushHandle | removePushHandle | handleMessage | drop =>
      cases transition
      simp [ReadersShielded]
  | dispatch now memory registered =>
      simp only at transition
      split at transition
      · cases transition
        simp only [ReadersShielded, PushManagerTask.processPushEvent,
          PushManagerTask.pushHandles_addPushHandles]
        generalize state.nextPayload now = payload
        cases payload with
        | none => simp
        | some stanza =>
            simpa using PushManagerTask.offer_typeSafe_iff stanza memory
              (state.manager.pushHandles ++ registered)
      · cases transition

/-- Push dispatch is payload-type safe in a run exactly when every stanza that is
not a `ResponseData` is shielded from the Ivs and Serial handles when it is dispatched. -/
theorem dispatch_typeSafe_iff (taskId : UInt32) {labels : List PushLabel} {final : PushState}
    {outputs : List PushOutput} (run : pushMachine.Run (.start taskId) labels final outputs) :
    (∀ output ∈ outputs, output.TypeSafe) ↔
      pushMachine.RunWhere ReadersShielded (.start taskId) labels final outputs :=
  Machine.RunWhere.clean_iff step_typeSafe_iff run

/-- A connection handle and, behind it, a plate handle of session 2. -/
def plateSubscribed : List PushLabel :=
  [.addPushHandle ⟨1, .changeConn, "change_conn_status", 2⟩,
    .addPushHandle ⟨2, .ivs, "ivs_result", 2⟩]

/-- A plate result of session 2. -/
def plateResult : Stanza := .responseData 2 (.object [("cmd", .string "ivs_result")]) [] none

/-- A plate result reaches the plate handle, which reads it and calls the user, who registers
another plate handle. -/
theorem dispatch_typeSafe_plate :
    ∃ labels final outputs, pushMachine.Run (.start 2) labels final outputs ∧
      ⟨plateResult, .readJson⟩ ∈ outputs ∧ (∀ output ∈ outputs, output.TypeSafe) ∧
      pushMachine.RunWhere ReadersShielded (.start 2) labels final outputs := by
  have evaluated : pushMachine.exec (.start 2) (plateSubscribed ++
      [.handleMessage 0 plateResult, .dispatch 10 .null [⟨3, .ivs, "ivs_result", 3⟩]]) = some (_,
      [⟨plateResult, .readJson⟩, ⟨plateResult, .readJson⟩, ⟨plateResult, .readJson⟩,
        ⟨plateResult, .readData⟩, ⟨plateResult, .plateCallback⟩]) := rfl
  have run := Machine.run_of_exec evaluated
  have safe : ∀ output ∈ [(⟨plateResult, .readJson⟩ : PushOutput), ⟨plateResult, .readJson⟩,
      ⟨plateResult, .readJson⟩, ⟨plateResult, .readData⟩, ⟨plateResult, .plateCallback⟩],
      output.TypeSafe := by
    simp [PushOutput.TypeSafe, plateResult, Stanza.isResponse]
  exact ⟨_, _, _, run, by simp, safe, (dispatch_typeSafe_iff 2 run).mp safe⟩

/-- A lost connection is offered to the plate handle behind the connection handle,
which reads the JSON of a plain stanza. -/
theorem dispatch_reads_plain :
    ∃ labels final outputs, pushMachine.Run (.start 2) labels final outputs ∧
      ¬∀ output ∈ outputs, output.TypeSafe := by
  have evaluated : pushMachine.exec (.start 2) (plateSubscribed ++
      [.handleMessage 7 (.plain .disconnectedFailure 2), .dispatch 10 .null []]) = some (_,
      [⟨.plain .disconnectedFailure 2, .changeConnStatus .offline⟩,
        ⟨.plain .disconnectedFailure 2, .readJson⟩]) := rfl
  refine ⟨_, _, _, Machine.run_of_exec evaluated, fun safe => ?_⟩
  have response := safe ⟨.plain .disconnectedFailure 2, .readJson⟩ (by simp) rfl
  cases response

end VzSdk.Sdk
