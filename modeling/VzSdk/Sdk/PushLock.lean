import VzSdk.Sdk.Steps

/-!
# The lock of the push task

`ProcessPushEvent` holds `crit_` on the push thread while the handles do their
work, and a handle may issue a request and wait for its answer. The queue thread
takes the same lock in `PushManagerTask::HandleResponse`, for every answer of a
device that no task claims. `lockMachine` is the machine of the SDK with the
lock as a resource of these two threads, and `never_stalled_iff` says in exactly
which runs neither thread comes to wait for the other.
-/

namespace VzSdk.Sdk

open VzSdk.Base VzSdk.Event VzSdk.Std

/-- The SDK and the state of `crit_`. -/
structure PushLock where
  system : System
  /-- The push thread is inside `ProcessPushEvent` and owns `crit_`. -/
  processing : Bool
  /-- The answer for which the queue thread is blocked on `crit_`. -/
  blocked : Option Stanza

/-- A step of the SDK, or one that concerns the lock alone. -/
inductive LockLabel where
  | system (label : SystemLabel)
  /-- The push thread returns from `ProcessPushEvent`. -/
  | leave
  /-- The queue thread, blocked so far, is given `crit_`. -/
  | acquire

namespace ThreadState

/-- The message is the reply to the task; a dispose message is not handed out. -/
def isReply (task : Task) (message : SdkMessage) : Bool :=
  message.phandler = some (.task task.taskId) && message.messageId = task.taskId &&
    message.messageId ≠ mqidDispose

/-- The reply to the task is in the thread's queue, or `Get` has just returned it. -/
def Delivered (state : ThreadState) (task : Task) : Prop :=
  ∃ message, isReply task message = true ∧
    (message ∈ state.wait.queue.contents ∨
      (state.wait.phase = .returned ∧ message = state.wait.msg))

/-- The thread is inside `WaitTaskDone`, waiting for a reply that is still to be delivered. -/
def Awaits (state : ThreadState) : Prop :=
  ∃ task, state.activity = .waiting task ∧ ¬state.Delivered task

end ThreadState

namespace System

variable (system : System)

/-- The answer that the queue thread's next turn takes `crit_` for: no task claims it, and
`PushManagerTask::HandleMessage` hands it to `HandleResponse`. -/
def unclaimed (now : UInt32) : Option Stanza :=
  let pass := system.queueThread.getPass now .zero
  if pass.found ∧ pass.pmsg.phandler = some .queueLayer ∧ pass.pmsg.messageId = 0 ∧
      system.pushRegistered then
    match pass.pmsg.pdata with
    | some (.responseData session resJson resData origin) =>
        match taker 0 (.responseData session resJson resData origin) system.tasks.entries with
        | .nobody => some (.responseData session resJson resData origin)
        | _ => none
    | _ => none
  else none

/-- A message that the push thread's next turn dispatches to `ProcessPushEvent`. -/
def dispatchesPush (now : UInt32) : Bool :=
  let pass := (system.threads system.pushThread).wait.queue.getPass now .zero
  pass.found && pass.pmsg.phandler = some (.task system.pushManager.taskId)

/-- The label is code that the push thread can run only inside a handle. -/
def nested : SystemLabel → Bool
  | .postTask _ _ _ => true
  | label => label.starts = some system.pushThread

/-- A reply to the next task is in the push thread's queue already: task ids have wrapped around. -/
def Foreseen : Prop :=
  ∃ message ∈ (system.threads system.pushThread).wait.queue.contents,
    message.phandler = some (.task (system.taskCounter + 1)) ∧
      message.messageId = system.taskCounter + 1 ∧ message.messageId ≠ mqidDispose

/-- The push thread waits for the task, and so has a reference to it. -/
def pushWaitsFor (taskId : UInt32) : Bool :=
  match (system.threads system.pushThread).activity with
  | .waiting task => task.taskId = taskId
  | _ => false

end System

namespace PushLock

/-- At the start nobody holds the lock. -/
def start (pushThread : Nat) : PushLock := ⟨.start pushThread, false, none⟩

/-- A step that does not touch the lock. -/
def proceed (lock : PushLock) (label : SystemLabel) : Option (PushLock × List SystemOutput) :=
  (lock.system.step label).map fun result => ({ lock with system := result.1 }, result.2)

/-- A step of the SDK's machine, where it is not for the lock to forbid it. -/
def systemStep (lock : PushLock) (label : SystemLabel) : Option (PushLock × List SystemOutput) :=
  match label with
  | .queueThread now _ =>
      if lock.blocked.isSome then none
      else
        match lock.processing, lock.system.unclaimed now with
        | true, some stanza =>
            if lock.system.failed then none
            else
              some ({ lock with
                system := { lock.system with
                  queueThread := (lock.system.queueThread.getPass now .zero).queue }
                blocked := some stanza }, [])
        | _, _ => lock.proceed label
  | .pushThread now _ =>
      if lock.processing then none
      else
        (lock.proceed label).map fun result =>
          ({ result.1 with processing := lock.system.dispatchesPush now }, result.2)
  | .destroyTask taskId => if lock.system.pushWaitsFor taskId then none else lock.proceed label
  | label =>
      if lock.system.nested label ∧ lock.processing = false then none else lock.proceed label

/-- What happens, with the lock in its place. -/
def step (lock : PushLock) (label : LockLabel) : Option (PushLock × List SystemOutput) :=
  match label with
  | .system label => lock.systemStep label
  | .leave =>
      match lock.processing, (lock.system.threads lock.system.pushThread).activity with
      | true, .idle => some ({ lock with processing := false }, [])
      | _, _ => none
  | .acquire =>
      match lock.processing, lock.blocked with
      -- `HandleResponse` goes on with the lock.
      | false, some stanza =>
          some ({ lock with system := lock.system.pushHandleMessage 0 stanza, blocked := none }, [])
      | _, _ => none

/-- The queue thread is blocked on `crit_`, and its owner waits for what only the queue
thread can deliver. -/
def Stalled (lock : PushLock) : Prop :=
  lock.blocked.isSome = true ∧ lock.processing = true ∧
    (lock.system.threads lock.system.pushThread).Awaits

/-- The queue thread takes no unclaimed answer while a handle waits for the reply to its
request, and no handle issues a request while the queue thread is blocked. -/
def Uncrossed (lock : PushLock) : LockLabel → Prop
  | .system (.queueThread now _) => lock.processing = true →
      (lock.system.unclaimed now).isSome = true →
        ¬(lock.system.threads lock.system.pushThread).Awaits
  | .system label => label.starts = some lock.system.pushThread →
      lock.blocked = none ∨ lock.system.Foreseen
  | _ => True

end PushLock

/-- The machine of the SDK with the lock of the push task. -/
def lockMachine : Machine PushLock LockLabel SystemOutput := ⟨PushLock.step⟩

/-! ## Who begins to wait -/

namespace ThreadState

variable {state next : ThreadState}

/-- A thread whose queue only grows begins no wait. -/
theorem awaits_of_kept (sameActivity : next.activity = state.activity)
    (samePhase : next.wait.phase = state.wait.phase) (sameMsg : next.wait.msg = state.wait.msg)
    (kept : ∀ message ∈ state.wait.queue.contents, message ∈ next.wait.queue.contents)
    (awaits : next.Awaits) : state.Awaits := by
  obtain ⟨task, waiting, undelivered⟩ := awaits
  refine ⟨task, sameActivity ▸ waiting, fun ⟨message, reply, place⟩ => undelivered ?_⟩
  refine ⟨message, reply, place.imp (kept message) fun ⟨returned, isMsg⟩ => ⟨?_, ?_⟩⟩
  · rw [samePhase, returned]
  · rw [sameMsg, isMsg]

/-- A thread that does not wait awaits nothing. -/
theorem not_awaits_of_activity (busy : ∀ task, state.activity ≠ .waiting task) : ¬state.Awaits :=
  fun ⟨task, waiting, _⟩ => busy task waiting

/-- A reply to a task is a message of its own. -/
theorem isOwn_of_isReply {task : Task} {message : SdkMessage} (reply : isReply task message = true) :
    WaitState.isOwn (System.waiter task) message = true := by
  simp only [isReply, Bool.and_eq_true, decide_eq_true_eq] at reply
  simp [WaitState.isOwn, System.waiter, reply.1.1, reply.1.2]

/-- A pass over the queue leaves the reply there or returns it. -/
theorem delivered_pass {task : Task} {message : SdkMessage} (wait : WaitState Component Stanza)
    (activity : Activity) (msStart now : UInt32) (reply : isReply task message = true)
    (queued : message ∈ wait.queue.contents) :
    ThreadState.Delivered ⟨activity, (wait.pass msStart now).1⟩ task := by
  have lasting : message.messageId ≠ mqidDispose := by
    simp only [isReply, Bool.and_eq_true, decide_eq_true_eq] at reply
    exact reply.2
  refine ⟨message, reply, ?_⟩
  rcases MessageQueue.getPass_keeps now wait.msg queued lasting with ⟨found, isMsg⟩ | stays
  · exact .inr ⟨by simp [WaitState.pass, found], isMsg.symm⟩
  · exact .inl stays

/-- A step of `WaitTaskDone` that does not end it loses no reply. -/
theorem delivered_wait {task : Task} {activity : Activity} {wait wait' : WaitState Component Stanza}
    {label : WaitLabel Component Stanza} {taken : List (WaitOutput Component Stanza)}
    (own : label.own = true)
    (transition : wait.step (System.waiter task) label = some (wait', taken))
    (goesOn : wait'.phase ≠ .done) (delivered : ThreadState.Delivered ⟨activity, wait⟩ task) :
    ThreadState.Delivered ⟨activity, wait'⟩ task := by
  obtain ⟨message, reply, place⟩ := delivered
  cases label with
  | post | postDelayed | quit => cases own
  | call now =>
      simp only [WaitState.step] at transition
      split at transition
      · next calling =>
          cases transition
          rcases place with queued | ⟨returned, _⟩
          · exact delivered_pass wait activity now now reply queued
          · exact absurd (calling.symm.trans returned) (by simp)
      · cases transition
  | wake ok now =>
      simp only [WaitState.step] at transition
      split at transition
      · next msStart waiting =>
          rcases place with queued | ⟨returned, _⟩
          · split at transition
            · cases transition
              exact ⟨message, reply, .inl queued⟩
            · cases transition
              exact delivered_pass wait activity msStart now reply queued
          · exact absurd (waiting.symm.trans returned) (by simp)
      · cases transition
  | check now =>
      simp only [WaitState.step] at transition
      split at transition
      · cases transition
        unfold WaitState.check at goesOn ⊢
        split at goesOn
        · exact absurd rfl goesOn
        · next foreign =>
            rw [if_neg foreign]
            rcases place with queued | ⟨_, rfl⟩
            · exact ⟨message, reply, .inl queued⟩
            · exact absurd (isOwn_of_isReply reply) foreign
      · cases transition

end ThreadState

namespace System

/-- The push thread begins no wait. -/
structure NoNewWait (system next : System) : Prop where
  pushThread : next.pushThread = system.pushThread
  awaits : (next.threads system.pushThread).Awaits → (system.threads system.pushThread).Awaits

variable {system next : System}

/-- No wait begins while the threads stay as they are. -/
theorem noNewWait_of_threads (pushThread : next.pushThread = system.pushThread)
    (threads : next.threads = system.threads) : NoNewWait system next :=
  ⟨pushThread, fun awaits => threads ▸ awaits⟩

/-- What happens at the sessions begins no wait. -/
theorem SessionSide.noNewWait (side : SessionSide system next) : NoNewWait system next :=
  noNewWait_of_threads side.pushThread side.threads

/-- A thread that comes to wait for nothing begins no wait. -/
theorem noNewWait_setThread (system : System) (thread : Nat) (state : ThreadState)
    (awaits : state.Awaits → (system.threads thread).Awaits) :
    NoNewWait system (system.setThread thread state) := by
  refine ⟨rfl, fun later => ?_⟩
  simp only [setThread] at later
  split at later
  · next isPush =>
      rw [isPush]
      exact awaits later
  · exact later

/-- A message in a thread's queue begins no wait. -/
theorem noNewWait_postThread (thread : Nat) (message : SdkMessage) :
    NoNewWait system (system.postThread thread message) :=
  noNewWait_setThread system thread _ (ThreadState.awaits_of_kept rfl rfl rfl
    fun _ member => MessageQueue.mem_post_of_mem member)

/-- The queue layer begins no wait. -/
theorem noNewWait_queueLayerOnMessage (system : System) (message : SdkMessage) :
    NoNewWait system (system.queueLayerOnMessage message) := by
  have routed (messageId : UInt32) (stanza : Stanza) :
      NoNewWait system (system.onTranslateToSyncLayer messageId stanza) := by
    unfold onTranslateToSyncLayer
    split
    · exact noNewWait_postThread _ _
    · exact noNewWait_of_threads rfl rfl
    · unfold pushHandleMessage
      split
      · split
        · exact noNewWait_of_threads rfl rfl
        · split
          · exact noNewWait_postThread _ _
          · exact noNewWait_of_threads rfl rfl
      · exact noNewWait_of_threads rfl rfl
  unfold queueLayerOnMessage
  split
  · split
    · exact noNewWait_of_threads rfl rfl
    · exact noNewWait_of_threads rfl rfl
  · exact noNewWait_of_threads rfl rfl
  · exact (sessionSide_removeSession system _).noNewWait
  · exact noNewWait_of_threads rfl rfl
  · exact noNewWait_of_threads rfl rfl
  · exact routed _ _
  · exact routed _ _
  · exact noNewWait_of_threads rfl rfl

/-- The dispatch of a message begins no wait. -/
theorem noNewWait_dispatch (system : System) (now : UInt32) (answer : ConnectAnswer)
    (message : SdkMessage) : NoNewWait system (system.dispatch now answer message).1 := by
  by_cases toQueueLayer : message.phandler = some .queueLayer
  · unfold dispatch
    rw [toQueueLayer]
    exact noNewWait_queueLayerOnMessage system message
  · exact (sessionSide_dispatch system now answer toQueueLayer).noNewWait

/-- A task that goes takes nothing from a wait for another one. -/
theorem noNewWait_cleared {taskId : UInt32} (unawaited : system.pushWaitsFor taskId = false) :
    NoNewWait system (system.cleared taskId) := by
  refine ⟨rfl, ?_⟩
  rintro ⟨task, waiting, undelivered⟩
  refine ⟨task, waiting, ?_⟩
  rintro ⟨message, reply, place⟩
  refine undelivered ⟨message, reply, place.imp_left fun queued => ?_⟩
  have other : task.taskId ≠ taskId := by
    have waiting : (system.threads system.pushThread).activity = .waiting task := waiting
    simpa [pushWaitsFor, waiting] using unawaited
  refine MessageQueue.mem_clear_of_mem queued ?_
  simp only [ThreadState.isReply, Bool.and_eq_true, decide_eq_true_eq] at reply
  simp [Message.matches, reply.1.1, other.symm]

/-- Every call, but for one that starts a wait on the push thread. -/
theorem noNewWait_call {label : SystemLabel} {emitted : List SystemOutput}
    (noStart : label.starts ≠ some system.pushThread)
    (keeps : ∀ taskId, label = .destroyTask taskId → system.pushWaitsFor taskId = false)
    (call : CallKind system label next emitted) : NoNewWait system next := by
  have stops {final : System} {thread : Nat} {state : ThreadState}
      (pushThread : final.pushThread = system.pushThread)
      (threads : final.threads = (system.setThread thread state).threads)
      (notWaiting : ∀ task, state.activity ≠ .waiting task) : NoNewWait system final := by
    have begun := noNewWait_setThread system thread state fun awaits =>
      absurd awaits (ThreadState.not_awaits_of_activity notWaiting)
    exact ⟨pushThread, fun awaits => begun.awaits (threads ▸ awaits)⟩
  cases call with
  | @sync _ task now isIssue isWaited idle =>
      have elsewhere : system.pushThread ≠ task.thread := fun same =>
        noStart (same ▸ starts_of_issue isIssue isWaited)
      refine ⟨rfl, fun awaits => ?_⟩
      simpa [setThread, elsewhere, issuing, postQueue] using awaits
  | @goesOn thread step task wait taken own waits waited notDone =>
      refine noNewWait_setThread system thread _ fun awaits => ?_
      obtain ⟨other, isOther, undelivered⟩ := awaits
      cases isOther
      exact ⟨task, waits, fun delivered => undelivered
        (ThreadState.delivered_wait own waited notDone delivered)⟩
  | returns own waits waited isDone notWaiting => exact stops rfl rfl notWaiting
  | connected | reconnects => exact stops rfl rfl (by simp)
  | push idle => exact stops rfl rfl (by simp [idle])
  | destroy => exact noNewWait_cleared (keeps _ rfl)
  | post | handles | resume => exact noNewWait_of_threads rfl rfl

/-- A step begins no wait of the push thread when it starts no call of it. -/
theorem noNewWait_step {label : SystemLabel} {emitted : List SystemOutput}
    (noStart : label.starts ≠ some system.pushThread)
    (keeps : ∀ taskId, label = .destroyTask taskId → system.pushWaitsFor taskId = false)
    (transition : system.step label = some (next, emitted)) : NoNewWait system next := by
  have taken : (system.taken label).threads = system.threads ∧
      (system.taken label).pushThread = system.pushThread := by
    rw [taken_eq]
    exact ⟨rfl, rfl⟩
  cases kind_of_step transition with
  | event isEvent found signals => exact signals.sessionSide.noNewWait
  | resume => exact noNewWait_of_threads rfl rfl
  | idle => exact noNewWait_of_threads taken.2 taken.1
  | @dispatch _ message now answer =>
      have turn := noNewWait_dispatch (system.taken label) now answer message
      have awaits := turn.awaits
      rw [taken.1, taken.2] at awaits
      exact ⟨turn.pushThread.trans taken.2, awaits⟩
  | call noTurn noEvent side =>
      exact noNewWait_call noStart keeps
        (callKind_of_step (isCall_of_kind noTurn noEvent) transition)

end System

/-! ## Steps of the lock -/

namespace System

variable {system next : System}

/-- A wait that the push thread starts is for a reply still to come, but for one foreseen. -/
theorem awaits_of_starts {label : SystemLabel} {emitted : List SystemOutput}
    (starts : label.starts = some system.pushThread)
    (transition : system.step label = some (next, emitted)) :
    next.pushThread = system.pushThread ∧
      ((next.threads system.pushThread).Awaits ↔ ¬system.Foreseen) := by
  obtain ⟨task, isIssue, isWaited, isThread⟩ := issue_of_starts system starts
  have isId := (taskId_of_issue isIssue).1
  cases callKind_of_step (isCall_of_issue isIssue) transition with
  | sync now isOther =>
      rw [isIssue] at isOther
      cases isOther
      rw [isThread]
      refine ⟨rfl, ?_⟩
      simp only [issuing, postQueue, setThread, if_true]
      constructor
      · rintro ⟨task, isTask, undelivered⟩ ⟨message, queued, toTask, sameId, lasting⟩
        cases isTask
        refine undelivered ⟨message, ?_, .inl queued⟩
        simp [ThreadState.isReply, isId, toTask, sameId]
        exact fun dispose => lasting (sameId.trans dispose)
      · intro unforeseen
        refine ⟨_, rfl, ?_⟩
        rintro ⟨message, reply, queued | ⟨returned, _⟩⟩
        · simp only [ThreadState.isReply, isId, Bool.and_eq_true, decide_eq_true_eq] at reply
          exact unforeseen ⟨message, queued, reply.1.1, reply.1.2, reply.2⟩
        · cases returned
  | post isOther unwaited =>
      rw [isWaited] at unwaited
      cases unwaited
  | handles isHandle => rcases isHandle with rfl | rfl <;> cases isIssue
  | _ => cases isIssue

/-- The push thread's own turn begins and ends outside a wait. -/
theorem not_awaits_of_pushThread {now : UInt32} {memory : Json} {emitted : List SystemOutput}
    (transition : system.step (.pushThread now memory) = some (next, emitted)) :
    ¬(next.threads next.pushThread).Awaits := by
  cases callKind_of_step rfl transition with
  | push idle =>
      refine ThreadState.not_awaits_of_activity ?_
      simp [setThread, idle]
  | sync now isIssue => cases isIssue
  | post isIssue => cases isIssue
  | handles isHandle => rcases isHandle with isAdd | isRemove <;> contradiction

end System

namespace PushLock

variable {lock next : PushLock}

/-- A step that leaves the lock alone and begins no wait does not stall. -/
theorem not_stalled_of_noNewWait (fine : ¬lock.Stalled) (sameBlocked : next.blocked = lock.blocked)
    (processing : next.processing = true → lock.processing = true)
    (wait : System.NoNewWait lock.system next.system) : ¬next.Stalled := by
  rintro ⟨blocked, owned, awaits⟩
  rw [wait.pushThread] at awaits
  exact fine ⟨sameBlocked ▸ blocked, processing owned, wait.awaits awaits⟩

/-- To proceed is to take a step of the SDK. -/
theorem proceed_eq_some {label : SystemLabel} {emitted : List SystemOutput}
    (transition : lock.proceed label = some (next, emitted)) :
    lock.system.step label = some (next.system, emitted) ∧ next.blocked = lock.blocked ∧
      next.processing = lock.processing := by
  obtain ⟨result, stepped, same⟩ := Option.map_eq_some_iff.mp transition
  cases same
  exact ⟨stepped, rfl, rfl⟩

/-- The labels whose steps the lock has a part in. -/
def locksOn : SystemLabel → Bool
  | .queueThread _ _ => true
  | .pushThread _ _ => true
  | .destroyTask _ => true
  | _ => false

/-- A step that does not need the lock proceeds, when the lock lets its thread run. -/
theorem systemStep_of_not_locksOn {label : SystemLabel} (free : locksOn label = false) :
    lock.systemStep label =
      if lock.system.nested label ∧ lock.processing = false then none else lock.proceed label := by
  cases label <;> first | rfl | cases free

/-- A step of another thread crosses only by starting a call that waits. -/
theorem uncrossed_of_not_queueThread {label : SystemLabel}
    (noTurn : ∀ now answer, label ≠ .queueThread now answer) :
    lock.Uncrossed (.system label) ↔
      (label.starts = some lock.system.pushThread → lock.blocked = none ∨ lock.system.Foreseen) := by
  cases label with
  | queueThread now answer => exact absurd rfl (noTurn now answer)
  | _ => rfl

/-- The queue thread's turn stalls exactly when it takes an unclaimed answer while a handle
waits for its reply. -/
theorem queueThread_stalled_iff {now : UInt32} {answer : ConnectAnswer}
    {emitted : List SystemOutput}
    (transition : lock.systemStep (.queueThread now answer) = some (next, emitted)) :
    ¬next.Stalled ↔ lock.Uncrossed (.system (.queueThread now answer)) := by
  simp only [systemStep] at transition
  split at transition
  · cases transition
  · next unblocked =>
      have unblocked : lock.blocked = none := by simpa using unblocked
      split at transition
      · next stanza owned unclaimed =>
          split at transition
          · cases transition
          · cases transition
            simp [Stalled, Uncrossed, owned, unclaimed]
      · next free =>
          obtain ⟨_, sameBlocked, _⟩ := proceed_eq_some transition
          refine iff_of_true ?_ ?_
          · rintro ⟨blocked, _⟩
            rw [sameBlocked, unblocked] at blocked
            cases blocked
          · intro owned isUnclaimed
            obtain ⟨stanza, unclaimed⟩ := Option.isSome_iff_exists.mp isUnclaimed
            exact absurd unclaimed (free stanza owned)

/-- A wait that a handle starts stalls exactly when the queue thread is blocked. -/
theorem start_stalled_iff {label : SystemLabel} {emitted : List SystemOutput}
    (starts : label.starts = some lock.system.pushThread)
    (transition : lock.systemStep label = some (next, emitted)) :
    ¬next.Stalled ↔ lock.Uncrossed (.system label) := by
  have free : locksOn label = false := by
    cases label <;> first | rfl | cases starts
  rw [systemStep_of_not_locksOn free] at transition
  split at transition
  · cases transition
  · next permitted =>
      have nested : lock.system.nested label = true := by
        cases label <;> first | exact decide_eq_true starts | cases starts
      have owned : lock.processing = true := by simpa [nested] using permitted
      obtain ⟨stepped, sameBlocked, sameOwner⟩ := proceed_eq_some transition
      obtain ⟨samePush, awaits⟩ := System.awaits_of_starts starts stepped
      rw [uncrossed_of_not_queueThread (by rintro now answer rfl; cases free)]
      simp only [Stalled, sameBlocked, sameOwner, owned, samePush, awaits, starts, true_implies,
        true_and]
      cases lock.blocked <;> simp

/-- A step comes to a stall exactly when it crosses the two threads. -/
theorem stalled_step_iff {label : LockLabel} {emitted : List SystemOutput} (fine : ¬lock.Stalled)
    (transition : lock.step label = some (next, emitted)) :
    ¬next.Stalled ↔ lock.Uncrossed label := by
  cases label with
  | leave =>
      simp only [step] at transition
      split at transition
      · cases transition
        simp [Stalled, Uncrossed]
      · cases transition
  | acquire =>
      simp only [step] at transition
      split at transition
      · cases transition
        simp [Stalled, Uncrossed]
      · cases transition
  | system label =>
      by_cases starts : label.starts = some lock.system.pushThread
      · exact start_stalled_iff starts transition
      by_cases isTurn : ∃ now answer, label = .queueThread now answer
      · obtain ⟨now, answer, rfl⟩ := isTurn
        exact queueThread_stalled_iff transition
      have noTurn : ∀ now answer, label ≠ .queueThread now answer :=
        fun now answer same => isTurn ⟨now, answer, same⟩
      rw [uncrossed_of_not_queueThread noTurn]
      refine iff_of_true ?_ (fun started => absurd started starts)
      have ofProceed (keeps : ∀ taskId, label = .destroyTask taskId →
            lock.system.pushWaitsFor taskId = false)
          (proceeds : lock.proceed label = some (next, emitted)) : ¬next.Stalled := by
        obtain ⟨stepped, sameBlocked, sameOwner⟩ := proceed_eq_some proceeds
        exact not_stalled_of_noNewWait fine sameBlocked (fun owned => sameOwner ▸ owned)
          (System.noNewWait_step starts keeps stepped)
      simp only [step] at transition
      cases isLock : locksOn label with
      | false =>
          rw [systemStep_of_not_locksOn isLock] at transition
          split at transition
          · cases transition
          · refine ofProceed ?_ transition
            rintro taskId rfl
            cases isLock
      | true =>
          cases label with
          | queueThread now answer => exact absurd rfl (noTurn now answer)
          | pushThread now memory =>
              simp only [systemStep] at transition
              split at transition
              · cases transition
              · obtain ⟨result, proceeds, same⟩ := Option.map_eq_some_iff.mp transition
                cases same
                obtain ⟨stepped, _, _⟩ := proceed_eq_some proceeds
                rintro ⟨_, _, awaits⟩
                exact System.not_awaits_of_pushThread stepped awaits
          | destroyTask taskId =>
              simp only [systemStep] at transition
              split at transition
              · cases transition
              · next unawaited =>
                  refine ofProceed ?_ transition
                  rintro _ ⟨⟩
                  simpa using unawaited
          | _ => cases isLock

end PushLock

/-- No state of a run has the push lock stall the routing exactly when the queue thread
takes no unclaimed answer while a handle waits for a reply, and no handle issues a request
while the queue thread is blocked. -/
theorem never_stalled_iff {pushThread : Nat} {labels : List LockLabel} {final : PushLock}
    {outputs : List SystemOutput}
    (run : lockMachine.Run (.start pushThread) labels final outputs) :
    lockMachine.Throughout (fun lock => ¬lock.Stalled) (.start pushThread) labels final outputs ↔
      lockMachine.RunWhere PushLock.Uncrossed (.start pushThread) labels final outputs := by
  refine Machine.RunWhere.throughout_iff (fun lock => ¬lock.Stalled) ?_ ?_ run
    (fun _ _ => trivial : ∀ label ∈ labels, True)
  · simp [PushLock.Stalled, PushLock.start]
  · exact fun _ fine _ transition => PushLock.stalled_step_iff fine transition

/-- A check that is enough for a step to be uncrossed. -/
def PushLock.uncrossedCheck (lock : PushLock) : LockLabel → Bool
  | .system (.queueThread now _) => !(lock.processing && (lock.system.unclaimed now).isSome)
  | _ => lock.blocked.isNone

/-- The check finds the step uncrossed. -/
theorem PushLock.uncrossed_of_check (lock : PushLock) (label : LockLabel)
    (checked : lock.uncrossedCheck label = true) : lock.Uncrossed label := by
  cases label with
  | leave | acquire => trivial
  | system label =>
      by_cases isTurn : ∃ now answer, label = .queueThread now answer
      · obtain ⟨now, answer, rfl⟩ := isTurn
        intro owned unclaimed
        simp [uncrossedCheck, owned, unclaimed] at checked
      · have noTurn : ∀ now answer, label ≠ .queueThread now answer :=
          fun now answer same => isTurn ⟨now, answer, same⟩
        rw [uncrossed_of_not_queueThread noTurn]
        refine fun _ => .inl ?_
        cases label with
        | queueThread now answer => exact absurd rfl (noTurn now answer)
        | _ => exact Option.isNone_iff_eq_none.mp checked

/-- The request for the greatest record id. -/
def getMaxRecordId : Json := .object [("cmd", .string "get_max_rec_id")]

/-- Thread 1 opens session 2, a resume handle is registered for it, and its resume event is
dispatched on the push thread 0, where the handle asks for the greatest record id. -/
def resumeAsks : List LockLabel :=
  [.system (.queueThread 1000 .pending), .system (.connect 1 ⟨"192.168.0.2", 8131⟩ 5000 1000),
    .system (.queueThread 1000 .pending), .system (.asyncThread 1000 .pending),
    .system (.connectEvent 0 1000), .system (.queueThread 1000 .pending),
    .system (.addPushHandle ⟨1, .resume, "resume_rec", 2⟩), .system (.resume 2 1000 0),
    .system (.queueThread 1000 .pending), .system (.pushThread 1000 .null),
    .system (.request 0 .req 2 getMaxRecordId 5000 1000), .system (.queueThread 1000 .pending),
    .system (.asyncThread 1000 .pending), .system (.deviceReceive 0)]

/-- The device answers, the handle goes on with the answer, and the push thread leaves the lock. -/
theorem never_stalled_answered :
    ∃ labels final outputs, lockMachine.Run (.start 0) labels final outputs ∧
      ((outputs.filterMap fun
        | .returned task msg => some (task.taskId, msg.pdata.isSome)
        | _ => none) = [(4, true)]) ∧
      lockMachine.Throughout (fun lock => ¬lock.Stalled) (.start 0) labels final outputs := by
  have checked : (lockMachine.exec (.start 0) (resumeAsks ++
      [.system (.deviceAnswer 0 getMaxRecordId []), .system (.readEvent 0),
        .system (.queueThread 1000 .pending), .system (.wait 0 (.call 1000)),
        .system (.wait 0 (.check 1000)), .leave])).any (fun result =>
      (result.2.filterMap fun
        | .returned task msg => some (task.taskId, msg.pdata.isSome)
        | _ => none) = [(4, true)]) = true := by decide +kernel
  have permitted : lockMachine.permits PushLock.uncrossedCheck (.start 0) (resumeAsks ++
      [.system (.deviceAnswer 0 getMaxRecordId []), .system (.readEvent 0),
        .system (.queueThread 1000 .pending), .system (.wait 0 (.call 1000)),
        .system (.wait 0 (.check 1000)), .leave]) = true := by decide +kernel
  obtain ⟨final, outputs, run, returned⟩ :=
    Machine.exists_runWhere_of_exec PushLock.uncrossed_of_check permitted checked
  exact ⟨_, final, outputs, run.run, by simpa using returned,
    (never_stalled_iff run.run).mpr run⟩

/-- A check for a stalled lock: the queue thread is blocked, and the push thread waits with
an empty queue. -/
def PushLock.stalledCheck (lock : PushLock) : Bool :=
  let state := lock.system.threads lock.system.pushThread
  lock.blocked.isSome && lock.processing && state.wait.queue.contents.isEmpty &&
    state.wait.phase = .calling &&
    match state.activity with
    | .waiting _ => true
    | _ => false

/-- The check finds the two threads waiting for each other. -/
theorem PushLock.stalled_of_check {lock : PushLock} (checked : lock.stalledCheck = true) :
    lock.Stalled := by
  simp only [stalledCheck, Bool.and_eq_true, List.isEmpty_iff, decide_eq_true_eq] at checked
  obtain ⟨⟨⟨⟨blocked, owned⟩, empty⟩, calling⟩, waiting⟩ := checked
  refine ⟨blocked, owned, ?_⟩
  split at waiting
  · next task isTask =>
      refine ⟨task, isTask, ?_⟩
      rintro ⟨message, _, queued | ⟨returned, _⟩⟩
      · rw [empty] at queued
        cases queued
      · exact absurd (calling.symm.trans returned) (by simp)
  · cases waiting

/-- A plate comes in while the handle waits for the greatest record id: no task claims it,
and the queue thread waits for the lock that the handle's thread owns. -/
theorem plate_stalls_push_lock :
    ∃ labels final outputs, lockMachine.Run (.start 0) labels final outputs ∧ final.Stalled := by
  have checked : (lockMachine.exec (.start 0) (resumeAsks ++
      [.system (.devicePush 0 (some (.object [("cmd", .string "ivs_result")])) []),
        .system (.readEvent 0), .system (.queueThread 1000 .pending)])).any
      (fun result => result.1.stalledCheck) = true := by decide +kernel
  obtain ⟨final, outputs, run, stalled⟩ := Machine.exists_run_of_exec checked
  exact ⟨_, final, outputs, run, PushLock.stalled_of_check stalled⟩

end VzSdk.Sdk
