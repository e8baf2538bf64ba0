import VzSdk.Sdk.SessionManager

/-!
# The queue layer and the machine of the SDK

The functions of `QueueLayer` run on the queue thread: they register tasks, hand
their requests to the session manager, and offer every reply to the registered
tasks in the order of their ids, then to the push task. `sdkMachine` lets all
threads, sockets and devices take their steps in any order.
-/

namespace VzSdk.Sdk

open VzSdk.Base VzSdk.Event VzSdk.Std

/-- Who takes a message. -/
inductive Taker where
  | task (task : Task)
  | nobody
  /-- A Json failure while a task looked at it. -/
  | failure

/-- The loop of `OntranslateToSyncLayer` over `tasks_`. -/
def taker (messageId : UInt32) (stanza : Stanza) : List (UInt32 × Task) → Taker
  | [] => .nobody
  | (_, task) :: tasks =>
      match task.handleMessage messageId stanza with
      | none => .failure
      | some true => .task task
      | some false => taker messageId stanza tasks

namespace System

variable (system : System)

/-- Post a stanza to a task's thread, as the task's message. -/
def postTo (task : Task) (stanza : Stanza) : System :=
  system.postThread task.thread ⟨some (.task task.taskId), task.taskId, some stanza⟩

/-- `push_task_->HandleMessage`. -/
def pushHandleMessage (messageId : UInt32) (stanza : Stanza) : System :=
  match system.pushManager.handleMessage messageId stanza with
  | none => { system with failed := true }
  | some handled =>
      if handled.posts then
        system.postThread system.pushThread
          ⟨some (.task system.pushManager.taskId), system.pushManager.taskId, some stanza⟩
      else system

/-- `QueueLayer::OntranslateToSyncLayer`. -/
def onTranslateToSyncLayer (messageId : UInt32) (stanza : Stanza) : System :=
  match taker messageId stanza system.tasks.entries with
  | .task task => system.postTo task stanza
  | .failure => { system with failed := true }
  | .nobody => if system.pushRegistered then system.pushHandleMessage messageId stanza else system

/-- `QueueLayer::OnTranslateToAsyncLayer`: the result of `AddTask` is only asserted. -/
def onTranslateToAsyncLayer (task : Task) : System :=
  let system := { system with tasks := system.tasks.insert task.taskId task }
  system.postAsync task.taskId task.messageData

/-- `QueueLayer::ReConnect`. -/
def reConnect (sessionId : UInt32) (address : SocketAddress) : System :=
  { system with
    queueThread := system.queueThread.post ⟨some .sessionManager, StanzaType.resReconnectEvent.code,
      some (.connectData true sessionId address)⟩ }

/-- `QueueLayer::OnMessage`, with `OnReqMessage` and `OnResMessage`. -/
def queueLayerOnMessage (message : SdkMessage) : System :=
  match message.pdata with
  | some (.reqTask task) =>
      match task.data with
      | .pushManager => { system with pushRegistered := true }
      | _ => system.onTranslateToAsyncLayer task
  | some (.removeTask task) => { system with tasks := system.tasks.erase task.taskId }
  | some (.plain .removeSession sessionId) => system.removeSession sessionId
  | some (.connectData true sessionId address) => system.reConnect sessionId address
  -- `RES_SESSION_NOT_FOUND` is in no case of `OnResMessage`.
  | some (.plain .sessionNotFound _) => system
  | some (.plain type sessionId) =>
      system.onTranslateToSyncLayer message.messageId (.plain type sessionId)
  | some (.responseData sessionId resJson resData origin) =>
      system.onTranslateToSyncLayer message.messageId
        (.responseData sessionId resJson resData origin)
  | _ => system

/-- A thread of the SDK dispatches a message. -/
def dispatch (now : UInt32) (answer : ConnectAnswer) (message : SdkMessage) :
    System × List SystemOutput :=
  match message.phandler with
  | some .queueLayer => (system.queueLayerOnMessage message, [])
  | some .sessionManager => system.sessionManagerOnMessage now answer message
  | some (.session serial) => (system.sessionOnMessage serial now, [])
  | _ => (system, [])

/-- One turn of the queue thread's message loop. -/
def queueThreadTurn (now : UInt32) (answer : ConnectAnswer) : System × List SystemOutput :=
  let pass := system.queueThread.getPass now .zero
  let system := { system with queueThread := pass.queue }
  if pass.found then system.dispatch now answer pass.pmsg else (system, [])

/-- One turn of the asynchronous thread's message loop. -/
def asyncThreadTurn (now : UInt32) (answer : ConnectAnswer) : System × List SystemOutput :=
  let pass := system.asyncThread.getPass now .zero
  let system := { system with asyncThread := pass.queue }
  if pass.found then system.dispatch now answer pass.pmsg else (system, [])

/-! ## Threads of the application -/

/-- The constructor of `Task` takes the next id, on the calling thread. -/
def newTask (thread : Nat) (timeout : UInt32) (data : TaskData) : System × Task :=
  ({ system with taskCounter := system.taskCounter + 1 },
    ⟨system.taskCounter + 1, thread, timeout, data⟩)

/-- The waiter of a task. -/
def waiter (task : Task) : Waiter Component := ⟨.task task.taskId, task.taskId, task.timeout⟩

/-- The start of `SyncProcessTask`: `PostTask`, then `WaitTaskDone`. -/
def syncProcessTask (thread : Nat) (timeout : UInt32) (data : TaskData) (now : UInt32) :
    Option System :=
  match (system.threads thread).activity with
  | .idle =>
      let (system, task) := system.newTask thread timeout data
      let system := system.postQueue task.taskId (.reqTask task)
      some (system.setThread thread
        ⟨.waiting task, .start (waiter task) (system.threads thread).wait.queue now⟩)
  | _ => none

/-- A request of `SyncProcessReqTask`, `PostReqTask`, `GetRecord` or a waiting `ReciveIvsResult`,
refused without a session. `PostReqTask` asks the device first whether it is connected; where it
is not, there is no step. -/
def requestTask (thread : Nat) (kind : RequestKind) (sessionId : UInt32) (reqJson : Json)
    (timeout : UInt32) (now : UInt32) : Option System :=
  if sessionId = 0 ∨ reqJson.cmd = none then none
  else system.syncProcessTask thread timeout (.request kind sessionId reqJson) now

/-- `ReciveIvsResult` of a device that is back: the push thread posts the `ReqPushTask` and
does not wait for it, so that nothing removes it. -/
def postTask (sessionId : UInt32) (reqJson : Json) (timeout : UInt32) : Option System :=
  match (system.threads system.pushThread).activity with
  | .idle =>
      if sessionId = 0 then none
      else
        let (system, task) :=
          system.newTask system.pushThread timeout (.request .push sessionId reqJson)
        some (system.postQueue task.taskId (.reqTask task))
  | _ => none

/-- A step of `WaitTaskDone`. When it is done, `SyncProcessTask` posts the removal
of the task and returns; `ConnectServer` goes on with the message. -/
def waitStep (thread : Nat) (label : WaitLabel Component Stanza) :
    Option (System × List SystemOutput) :=
  let state := system.threads thread
  match state.activity with
  | .waiting task =>
      match state.wait.step (waiter task) label with
      | none => none
      | some (wait, _) =>
          if wait.phase = .done then
            let activity :=
              match task.data with
              | .connect address => .connecting address wait.msg
              | _ => .idle
            some ((system.setThread thread ⟨activity, wait⟩).postQueue task.taskId
              (.removeTask task), [.returned task wait.msg])
          else some (system.setThread thread ⟨.waiting task, wait⟩, [])
  | _ => none

/-- The rest of `ConnectServer`: a session that is connected is given its reconnect message. -/
def connectServer (thread : Nat) : Option System :=
  let state := system.threads thread
  match state.activity with
  | .connecting address msg =>
      let system := system.setThread thread { state with activity := .idle }
      match msg.phandler, msg.pdata with
      | some _, some stanza =>
          if (system.findSession stanza.sessionId).map (·.getState) = some .connected then
            some (system.postQueue StanzaType.resReconnectEvent.code
              (.connectData true stanza.sessionId address))
          else some system
      | _, _ => some system
  | _ => none

/-- `RES_RESUME_TASK_EVENT` is posted by `ResumeRecord` and again by each resume. -/
def postResume (sessionId : UInt32) (now : UInt32) (cmsDelay : Int) : System :=
  { system with
    queueThread := system.queueThread.postDelayed now cmsDelay
      ⟨some .queueLayer, sessionId, some (.plain .resumeTask sessionId)⟩ }

/-- One turn of the push thread's message loop. A late reply to a request of this
thread is dispatched to `Task::OnMessage`, which does nothing. What is registered in the loop
over the handles counts as registered before it, as in `PushState.step_dispatch_registered`. -/
def pushThreadTurn (now : UInt32) (memory : Json) : Option (System × List SystemOutput) :=
  let state := system.threads system.pushThread
  match state.activity with
  | .idle =>
      let pass := state.wait.queue.getPass now .zero
      let system := system.setThread system.pushThread
        { state with wait := { state.wait with queue := pass.queue } }
      let pdata :=
        if pass.found ∧ pass.pmsg.phandler = some (.task system.pushManager.taskId) then
          pass.pmsg.pdata
        else none
      let (outputs, failed) := system.pushManager.processPushEvent pdata memory
      some ({ system with failed := failed }, outputs.map .pushed)
  | _ => none

/-- The payload refers to a task with this id. -/
def refersTo (taskId : UInt32) (message : SdkMessage) : Bool :=
  match message.pdata with
  | some (.reqTask task) => task.taskId = taskId
  | some (.removeTask task) => task.taskId = taskId
  | _ => false

/-- The last reference to a task goes, and with it the task's messages. `push_task_`
keeps the push task. -/
def destroyTask (taskId : UInt32) : Option System :=
  if (system.tasks.find? taskId).isSome || system.queueThread.contents.any (refersTo taskId) ||
      taskId = system.pushManager.taskId then
    none
  else
    some { system with
      threads := fun thread =>
        let state := system.threads thread
        let queue := (state.wait.queue.clear (some (.task taskId)) mqidAny).1
        { state with wait := { state.wait with queue := queue } } }

end System

/-- What happens in the SDK: turns of its threads, calls of it, and events of the devices. -/
inductive SystemLabel where
  | queueThread (now : UInt32) (answer : ConnectAnswer)
  | asyncThread (now : UInt32) (answer : ConnectAnswer)
  | pushThread (now : UInt32) (memory : Json)
  -- Calls of the application, each on a thread.
  | connect (thread : Nat) (address : SocketAddress) (timeout now : UInt32)
  | disconnect (thread : Nat) (sessionId timeout now : UInt32)
  | request (thread : Nat) (kind : RequestKind) (sessionId : UInt32) (reqJson : Json)
      (timeout now : UInt32)
  | wait (thread : Nat) (label : WaitLabel Component Stanza)
  | connectServer (thread : Nat)
  | postTask (sessionId : UInt32) (reqJson : Json) (timeout : UInt32)
  | resume (sessionId now : UInt32) (cmsDelay : Int)
  | addPushHandle (handle : PushHandle)
  | removePushHandle (handle : PushHandle)
  | destroyTask (taskId : UInt32)
  -- Sockets.
  | connectEvent (serial : Nat) (now : UInt32)
  | closeEvent (serial : Nat)
  | resolveEvent (serial : Nat) (error : Int) (outcome : ConnectOutcome)
  | readEvent (serial : Nat)
  | heartbeatEvent (serial : Nat) (now : UInt32)
  -- Devices.
  | deviceReceive (serial : Nat)
  | deviceAnswer (serial : Nat) (resJson : Json) (resData : List UInt8)
  | devicePush (serial : Nat) (resJson : Option Json) (resData : List UInt8)

/-- The labels of `WaitTaskDone` that are its own steps, not posts of other threads. -/
def WaitLabel.own {Handler Data : Type} : WaitLabel Handler Data → Bool
  | .call _ => true
  | .wake _ _ => true
  | .check _ => true
  | _ => false

namespace System

/-- A step without outputs. -/
def silent (system : Option System) : Option (System × List SystemOutput) :=
  system.map fun system => (system, [])

/-- What happens in a step; nothing does after a failure. -/
def step (system : System) (label : SystemLabel) : Option (System × List SystemOutput) :=
  if system.failed then none
  else
    match label with
    | .queueThread now answer => some (system.queueThreadTurn now answer)
    | .asyncThread now answer => some (system.asyncThreadTurn now answer)
    | .pushThread now memory => system.pushThreadTurn now memory
    | .connect thread address timeout now =>
        silent (system.syncProcessTask thread timeout (.connect address) now)
    | .disconnect thread sessionId timeout now =>
        silent (system.syncProcessTask thread timeout (.disconnect sessionId) now)
    | .request thread kind sessionId reqJson timeout now =>
        silent (system.requestTask thread kind sessionId reqJson timeout now)
    | .wait thread label => if label.own then system.waitStep thread label else none
    | .connectServer thread => silent (system.connectServer thread)
    | .postTask sessionId reqJson timeout => silent (system.postTask sessionId reqJson timeout)
    | .resume sessionId now cmsDelay => some (system.postResume sessionId now cmsDelay, [])
    | .addPushHandle handle =>
        some ({ system with pushManager := system.pushManager.addPushHandle handle }, [])
    | .removePushHandle handle =>
        some ({ system with pushManager := system.pushManager.removePushHandle handle }, [])
    | .destroyTask taskId => silent (system.destroyTask taskId)
    | .connectEvent serial now => silent (system.connectEvent serial now)
    | .closeEvent serial => silent (system.closeEvent serial)
    | .resolveEvent serial error outcome => silent (system.resolveEvent serial error outcome)
    | .readEvent serial => silent (system.readEvent serial)
    | .heartbeatEvent serial now => silent (system.heartbeatEvent serial now)
    | .deviceReceive serial => silent (system.deviceReceive serial)
    | .deviceAnswer serial resJson resData => silent (system.deviceAnswer serial resJson resData)
    | .devicePush serial resJson resData => silent (system.devicePush serial resJson resData)

end System

/-- The machine of the SDK. -/
def sdkMachine : Machine System SystemLabel SystemOutput := ⟨System.step⟩

end VzSdk.Sdk
