import VzSdk.Sdk.QueueLayer

/-!
# What calls do

The steps that threads of the application and the push thread take: a call
posts its task and waits for it, goes on waiting or returns, and `ConnectServer`
goes on after it; a task is posted without a wait, or destroyed; the push thread
takes its turn, and its handles change. `callKind_of_step` says so once, with the
system after each of these steps.
-/

namespace VzSdk.Sdk

open VzSdk.Base VzSdk.Event VzSdk.Std

/-- The label is neither a turn of a thread of the SDK nor an event of a socket or a device. -/
def SystemLabel.isCall : SystemLabel → Bool
  | .pushThread _ _ => true
  | .connect _ _ _ _ => true
  | .disconnect _ _ _ _ => true
  | .request _ _ _ _ _ _ => true
  | .wait _ _ => true
  | .connectServer _ => true
  | .postTask _ _ _ => true
  | .resume _ _ _ => true
  | .addPushHandle _ => true
  | .removePushHandle _ => true
  | .destroyTask _ => true
  | _ => false

/-- The call of the label waits for the task it posts: all but `ReciveIvsResult` of a device that
is back do. -/
def SystemLabel.waits : SystemLabel → Bool
  | .postTask _ _ _ => false
  | _ => true

/-- The thread on which the label starts a wait. -/
def SystemLabel.starts : SystemLabel → Option Nat
  | .connect thread _ _ _ => some thread
  | .disconnect thread _ _ _ => some thread
  | .request thread _ _ _ _ _ => some thread
  | _ => none

namespace System

/-- The task that a call makes. -/
def issue (system : System) : SystemLabel → Option Task
  | .connect thread address timeout _ =>
      some ⟨system.taskCounter + 1, thread, timeout, .connect address⟩
  | .disconnect thread sessionId timeout _ =>
      some ⟨system.taskCounter + 1, thread, timeout, .disconnect sessionId⟩
  | .request thread kind sessionId reqJson timeout _ =>
      some ⟨system.taskCounter + 1, thread, timeout, .request kind sessionId reqJson⟩
  | .postTask sessionId reqJson timeout =>
      some ⟨system.taskCounter + 1, system.pushThread, timeout, .request .push sessionId reqJson⟩
  | _ => none

/-- The system after a new task is posted. -/
def issuing (system : System) (task : Task) : System :=
  ({ system with taskCounter := task.taskId } : System).postQueue task.taskId (.reqTask task)

/-- The system after a thread's queue and the message of its wait are cleared of a task. -/
def cleared (system : System) (taskId : UInt32) : System :=
  { system with
    threads := fun thread =>
      let state := system.threads thread
      let queue := (state.wait.queue.clear (some (.task taskId)) mqidAny).1
      { state with wait := { state.wait with queue := queue } } }

/-- What a call does. -/
inductive CallKind (system : System) : SystemLabel → System → List SystemOutput → Prop where
  | sync {label task} (now : UInt32) (isIssue : system.issue label = some task)
      (isWaited : label.waits = true) (idle : (system.threads task.thread).activity = .idle) :
      CallKind system label ((system.issuing task).setThread task.thread
        ⟨.waiting task, .start (waiter task) (system.threads task.thread).wait.queue now⟩) []
  | post {label task} (isIssue : system.issue label = some task) (unwaited : label.waits = false)
      (own : task.thread = system.pushThread) : CallKind system label (system.issuing task) []
  | goesOn {thread step task wait taken} (own : step.own = true)
      (waits : (system.threads thread).activity = .waiting task)
      (waited : (system.threads thread).wait.step (waiter task) step = some (wait, taken))
      (notDone : wait.phase ≠ .done) :
      CallKind system (.wait thread step) (system.setThread thread ⟨.waiting task, wait⟩) []
  | returns {thread step task wait taken activity} (own : step.own = true)
      (waits : (system.threads thread).activity = .waiting task)
      (waited : (system.threads thread).wait.step (waiter task) step = some (wait, taken))
      (isDone : wait.phase = .done) (notWaiting : ∀ other, activity ≠ .waiting other) :
      CallKind system (.wait thread step)
        ((system.setThread thread ⟨activity, wait⟩).postQueue task.taskId (.removeTask task))
        [.returned task wait.msg]
  | connected {thread address msg}
      (connecting : (system.threads thread).activity = .connecting address msg) :
      CallKind system (.connectServer thread)
        (system.setThread thread { system.threads thread with activity := .idle }) []
  | reconnects {thread address msg sessionId session}
      (connecting : (system.threads thread).activity = .connecting address msg)
      (found : system.findSession sessionId = some session) :
      CallKind system (.connectServer thread)
        ((system.setThread thread { system.threads thread with activity := .idle }).postQueue
          StanzaType.resReconnectEvent.code (.connectData true sessionId address)) []
  | push {now memory failed} {outputs : List PushOutput}
      (idle : (system.threads system.pushThread).activity = .idle) :
      CallKind system (.pushThread now memory)
        { system.setThread system.pushThread { system.threads system.pushThread with
            wait := { (system.threads system.pushThread).wait with
              queue := ((system.threads system.pushThread).wait.queue.getPass now .zero).queue } }
          with failed := failed }
        (outputs.map .pushed)
  | handles {label handle manager}
      (isHandle : label = .addPushHandle handle ∨ label = .removePushHandle handle)
      (sameId : manager.taskId = system.pushManager.taskId) :
      CallKind system label { system with pushManager := manager } []
  | resume {sessionId now cmsDelay} :
      CallKind system (.resume sessionId now cmsDelay) (system.postResume sessionId now cmsDelay) []
  | destroy {taskId} (notPush : taskId ≠ system.pushManager.taskId) :
      CallKind system (.destroyTask taskId) (system.cleared taskId) []

variable {system next : System} {label : SystemLabel} {emitted : List SystemOutput}

/-- An issued task has the next id. -/
theorem taskId_of_issue {task : Task} (isIssue : system.issue label = some task) :
    task.taskId = system.taskCounter + 1 ∧ task.data ≠ .pushManager := by
  cases label <;> cases isIssue <;> exact ⟨rfl, by simp⟩

/-- A task that is waited for starts a wait on its thread. -/
theorem starts_of_issue {task : Task} (isIssue : system.issue label = some task)
    (isWaited : label.waits = true) : label.starts = some task.thread := by
  cases label with
  | connect | disconnect | request =>
      cases isIssue
      rfl
  | postTask => cases isWaited
  | _ => cases isIssue

/-- Only an issued task starts a wait. -/
theorem issue_of_starts (system : System) {thread : Nat} (starts : label.starts = some thread) :
    ∃ task, system.issue label = some task ∧ label.waits = true ∧ task.thread = thread := by
  cases label with
  | connect | disconnect | request =>
      cases starts
      exact ⟨_, rfl, rfl, rfl⟩
  | _ => cases starts

/-- A task is issued by a call. -/
theorem isCall_of_issue {task : Task} (isIssue : system.issue label = some task) :
    label.isCall = true := by
  cases label <;> first | rfl | cases isIssue

/-- A request that is not refused is a task like any other. -/
theorem syncProcessTask_of_requestTask {thread : Nat} {kind : RequestKind}
    {sessionId timeout now : UInt32} {reqJson : Json}
    (transition : system.requestTask thread kind sessionId reqJson timeout now = some next) :
    system.syncProcessTask thread timeout (.request kind sessionId reqJson) now = some next := by
  unfold requestTask at transition
  split at transition
  · cases transition
  · exact transition

/-- `SyncProcessTask` is a call that issues its task. -/
theorem callKind_syncProcessTask {thread : Nat} {timeout now : UInt32} {data : TaskData}
    (isIssue : system.issue label = some ⟨system.taskCounter + 1, thread, timeout, data⟩)
    (isWaited : label.waits = true)
    (transition : system.syncProcessTask thread timeout data now = some next) :
    CallKind system label next [] := by
  unfold syncProcessTask newTask at transition
  split at transition
  · next idle =>
      cases transition
      exact .sync now isIssue isWaited idle
  · cases transition

/-- `PostTask` is a call that issues its task. -/
theorem callKind_postTask {sessionId timeout : UInt32} {reqJson : Json}
    (transition : system.postTask sessionId reqJson timeout = some next) :
    CallKind system (.postTask sessionId reqJson timeout) next [] := by
  unfold postTask newTask at transition
  split at transition
  · split at transition
    · cases transition
    · cases transition
      have isIssue : system.issue (.postTask sessionId reqJson timeout) = some _ := rfl
      exact .post isIssue rfl rfl
  · cases transition

/-- A step of a wait is a call. -/
theorem callKind_waitStep {thread : Nat} {step : WaitLabel Component Stanza}
    (own : step.own = true) (transition : system.waitStep thread step = some (next, emitted)) :
    CallKind system (.wait thread step) next emitted := by
  unfold waitStep at transition
  simp only at transition
  split at transition
  · next task waits =>
      split at transition
      · cases transition
      · next wait taken waited =>
          split at transition
          · next isDone =>
              cases transition
              refine .returns own waits waited isDone fun other => ?_
              split <;> simp
          · next notDone =>
              cases transition
              exact .goesOn own waits waited notDone
  · cases transition

/-- `ConnectServer` is a call. -/
theorem callKind_connectServer {thread : Nat}
    (transition : system.connectServer thread = some next) :
    CallKind system (.connectServer thread) next [] := by
  unfold connectServer at transition
  simp only at transition
  split at transition
  · next connecting =>
      split at transition
      · split at transition
        · next connected =>
            obtain ⟨session, found, _⟩ := Option.map_eq_some_iff.mp connected
            cases transition
            exact .reconnects connecting found
        · cases transition
          exact .connected connecting
      · cases transition
        exact .connected connecting
  · cases transition

/-- A turn of the push thread is like a call. -/
theorem callKind_pushThreadTurn {now : UInt32} {memory : Json}
    (transition : system.pushThreadTurn now memory = some (next, emitted)) :
    CallKind system (.pushThread now memory) next emitted := by
  unfold pushThreadTurn at transition
  simp only at transition
  split at transition
  · next idle =>
      cases transition
      exact .push idle
  · cases transition

/-- The destruction of a task is a call. -/
theorem callKind_destroyTask {taskId : UInt32}
    (transition : system.destroyTask taskId = some next) :
    CallKind system (.destroyTask taskId) next [] := by
  unfold destroyTask at transition
  split at transition
  · cases transition
  · next unreferenced =>
      cases transition
      refine .destroy fun isPush => unreferenced ?_
      simp [isPush]

/-- Every step that is a call. -/
theorem callKind_of_step (isCall : label.isCall = true)
    (transition : system.step label = some (next, emitted)) : CallKind system label next emitted := by
  have ofSilent {result : Option System}
      (called : ∀ {final}, result = some final → CallKind system label final [])
      (done : silent result = some (next, emitted)) : CallKind system label next emitted := by
    obtain ⟨final, isFinal, same⟩ := Option.map_eq_some_iff.mp done
    cases same
    exact called isFinal
  unfold step at transition
  split at transition
  · cases transition
  · cases label with
    | pushThread => exact callKind_pushThreadTurn transition
    | connect | disconnect => exact ofSilent (callKind_syncProcessTask rfl rfl) transition
    | request =>
        exact ofSilent (fun isFinal => callKind_syncProcessTask rfl rfl
          (syncProcessTask_of_requestTask isFinal)) transition
    | wait thread step =>
        simp only at transition
        split at transition
        · next own => exact callKind_waitStep own transition
        · cases transition
    | connectServer => exact ofSilent callKind_connectServer transition
    | postTask => exact ofSilent callKind_postTask transition
    | resume =>
        cases transition
        exact .resume
    | addPushHandle =>
        cases transition
        exact .handles (.inl rfl) rfl
    | removePushHandle =>
        cases transition
        exact .handles (.inr rfl) rfl
    | destroyTask => exact ofSilent callKind_destroyTask transition
    | _ => cases isCall

end System

end VzSdk.Sdk
