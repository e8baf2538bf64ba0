import VzSdk.Sdk.Steps

/-!
# What threads hold

A thread of the application has messages on its queue, and the last one that its
wait took; `Has` is both. New messages come from the queue layer only, which
hands a reply to the task that takes it or to the push task: `Routes`.
`threads_step` says for every step of the machine what becomes of the threads, so
that an invariant about what they hold looks at the messages that are routed.
-/

namespace VzSdk.Sdk

open VzSdk.Base VzSdk.Event VzSdk.Std

/-- The queue layer offers the stanza to the tasks. -/
def Stanza.routed : Stanza → Bool
  | .plain .removeSession _ => false
  | .plain .sessionNotFound _ => false
  | .plain _ _ => true
  | .responseData _ _ _ _ => true
  | _ => false

namespace System

/-- The message is on the thread's queue, or is the last one that its wait took. -/
def Has (system : System) (thread : Nat) (message : SdkMessage) : Prop :=
  message ∈ (system.threads thread).wait.queue.contents ∨
    message = (system.threads thread).wait.msg

/-- The queue layer hands the message to the thread: as the message of the task that takes
the stanza, or as one of the push task. -/
inductive Routes (system : System) (label : SystemLabel) : Nat → SdkMessage → Prop where
  | toTask {message stanza task} (isNext : system.nextMessage label = some message)
      (toLayer : message.phandler = some .queueLayer) (payload : message.pdata = some stanza)
      (routed : stanza.routed = true)
      (takes : taker message.messageId stanza system.tasks.entries = .task task) :
      Routes system label task.thread ⟨some (.task task.taskId), task.taskId, some stanza⟩
  | toPush {message stanza} (isNext : system.nextMessage label = some message)
      (toLayer : message.phandler = some .queueLayer) (payload : message.pdata = some stanza)
      (routed : stanza.routed = true)
      (nobody : taker message.messageId stanza system.tasks.entries = .nobody) :
      Routes system label system.pushThread
        ⟨some (.task system.pushManager.taskId), system.pushManager.taskId, some stanza⟩

/-- What becomes of the threads in a step. -/
structure ThreadsStep (system : System) (label : SystemLabel) (next : System) : Prop where
  has : ∀ {thread message}, next.Has thread message →
    system.Has thread message ∨ message = .zero ∨ system.Routes label thread message
  running : ∀ thread, (next.threads thread).wait.queue.fStop =
    (system.threads thread).wait.queue.fStop
  waiting : ∀ {thread task}, (next.threads thread).activity = .waiting task →
    (system.threads thread).activity = .waiting task ∨
      (system.issue label = some task ∧ task.thread = thread)

variable {system next : System} {label : SystemLabel} {emitted : List SystemOutput}

/-- A step that leaves the threads alone. -/
theorem threadsStep_of_eq (same : next.threads = system.threads) :
    ThreadsStep system label next where
  has held := .inl (by rwa [Has, same] at held)
  running thread := by rw [same]
  waiting waits := .inl (by rwa [same] at waits)

/-- One thread goes on, with nothing new. -/
theorem threadsStep_setThread {thread : Nat} {state : ThreadState}
    (threads : next.threads = (system.setThread thread state).threads)
    (has : ∀ message, message ∈ state.wait.queue.contents ∨ message = state.wait.msg →
      system.Has thread message ∨ message = .zero)
    (running : state.wait.queue.fStop = (system.threads thread).wait.queue.fStop)
    (waiting : ∀ task, state.activity = .waiting task →
      (system.threads thread).activity = .waiting task ∨
        (system.issue label = some task ∧ task.thread = thread)) :
    ThreadsStep system label next where
  has {other message} held := by
    unfold Has at held
    simp only [threads, setThread] at held
    split at held
    · next same => exact same ▸ (has message held).imp_right .inl
    · exact .inl held
  running other := by
    simp only [threads, setThread]
    split
    · next same => rw [same, running]
    · rfl
  waiting {other task} waits := by
    simp only [threads, setThread] at waits
    split at waits
    · next same => exact same ▸ waiting task waits
    · exact .inl waits

end System

/-- A step of `WaitTaskDone` takes its messages from the thread's queue. -/
theorem wait_subset {task : Waiter Component} {wait wait' : WaitState Component Stanza}
    {label : WaitLabel Component Stanza} {taken : List (WaitOutput Component Stanza)}
    (own : label.own = true) (transition : wait.step task label = some (wait', taken)) :
    (∀ message ∈ wait'.queue.contents, message ∈ wait.queue.contents) ∧
      (wait'.msg ∈ wait.queue.contents ∨ wait'.msg = wait.msg ∨ wait'.msg = .zero) := by
  have ofPass (msStart now : UInt32) :
      (∀ message ∈ (wait.pass msStart now).1.queue.contents, message ∈ wait.queue.contents) ∧
        ((wait.pass msStart now).1.msg ∈ wait.queue.contents ∨
          (wait.pass msStart now).1.msg = wait.msg ∨ (wait.pass msStart now).1.msg = .zero) :=
    ⟨(MessageQueue.getPass_subset _ _ _).1, MessageQueue.getPass_pmsg _ _ _⟩
  cases label with
  | post | postDelayed | quit => cases own
  | call now =>
      simp only [WaitState.step] at transition
      split at transition
      · cases transition
        exact ofPass now now
      · cases transition
  | wake ok now =>
      simp only [WaitState.step] at transition
      split at transition
      · next msStart _ =>
          split at transition
          · cases transition
            exact ⟨fun _ queued => queued, .inr (.inl rfl)⟩
          · cases transition
            exact ofPass msStart now
      · cases transition
  | check now =>
      simp only [WaitState.step] at transition
      split at transition
      · cases transition
        simp only [WaitState.check]
        split
        · exact ⟨fun _ queued => queued, .inr (.inl rfl)⟩
        · exact ⟨fun _ queued => queued, .inr (.inl rfl)⟩
      · cases transition

/-- The task that takes a message is registered. -/
theorem mem_of_taker {messageId : UInt32} {stanza : Stanza} {task : Task}
    {tasks : List (UInt32 × Task)} (taken : taker messageId stanza tasks = .task task) :
    ∃ id, (id, task) ∈ tasks ∧ task.handleMessage messageId stanza = some true := by
  induction tasks with
  | nil => cases taken
  | cons entry tasks inductionHypothesis =>
      unfold taker at taken
      split at taken
      · cases taken
      · next handled =>
          cases taken
          exact ⟨entry.1, List.mem_cons_self, handled⟩
      · obtain ⟨id, member, handled⟩ := inductionHypothesis taken
        exact ⟨id, List.mem_cons_of_mem _ member, handled⟩

/-- A step of a wait does not stop the queue. -/
theorem fStop_wait {task : Waiter Component} {wait next : WaitState Component Stanza}
    {label : WaitLabel Component Stanza} {taken : List (WaitOutput Component Stanza)}
    (own : label.own = true) (transition : wait.step task label = some (next, taken)) :
    next.queue.fStop = wait.queue.fStop := by
  cases label with
  | post | postDelayed | quit => cases own
  | call now =>
      simp only [WaitState.step] at transition
      split at transition
      · cases transition
        exact MessageQueue.fStop_getPass _ _ _
      · cases transition
  | wake ok now =>
      simp only [WaitState.step] at transition
      split at transition
      · split at transition
        · cases transition
          rfl
        · cases transition
          exact MessageQueue.fStop_getPass _ _ _
      · cases transition
  | check now =>
      simp only [WaitState.step] at transition
      split at transition
      · cases transition
        unfold WaitState.check
        split <;> rfl
      · cases transition

namespace System

variable {system next : System} {label : SystemLabel} {emitted : List SystemOutput}

/-- Every call, for the threads. -/
theorem threads_call (call : CallKind system label next emitted) :
    ThreadsStep system label next := by
  have wait {thread : Nat} {step : WaitLabel Component Stanza} {task : Task}
      {wait : WaitState Component Stanza} {taken : List (WaitOutput Component Stanza)}
      (own : step.own = true)
      (waited : (system.threads thread).wait.step (waiter task) step = some (wait, taken)) :
      ∀ message, message ∈ wait.queue.contents ∨ message = wait.msg →
        system.Has thread message ∨ message = .zero := by
    obtain ⟨queue, msg⟩ := wait_subset own waited
    rintro message (queued | rfl)
    · exact .inl (.inl (queue message queued))
    · exact or_assoc.mpr msg
  cases call with
  | @sync _ task now isIssue isWaited idle =>
      refine threadsStep_setThread rfl ?_ rfl ?_
      · rintro message (queued | last)
        · exact .inl (.inl queued)
        · exact .inr last
      · rintro other ⟨⟩
        exact .inr ⟨isIssue, rfl⟩
  | goesOn own waits waited =>
      refine threadsStep_setThread rfl (wait own waited) (fStop_wait own waited) ?_
      intro other waitsOn
      rw [waits]
      exact .inl waitsOn
  | returns own waits waited isDone notWaiting =>
      refine threadsStep_setThread rfl (wait own waited) (fStop_wait own waited) ?_
      exact fun other waitsOn => absurd waitsOn (notWaiting other)
  | connected | reconnects =>
      exact threadsStep_setThread rfl (fun _ held => .inl held) rfl nofun
  | push =>
      refine threadsStep_setThread rfl ?_ (MessageQueue.fStop_getPass _ _ _)
        fun _ waits => .inl waits
      rintro message (queued | last)
      · exact .inl (.inl ((MessageQueue.getPass_subset _ _ _).1 message queued))
      · exact .inl (.inr last)
  | destroy =>
      refine ⟨?_, fun _ => rfl, fun waits => .inl waits⟩
      rintro thread message (queued | last)
      · exact .inl (.inl (MessageQueue.mem_contents_clear queued))
      · exact .inl (.inr last)
  | post | handles | resume => exact threadsStep_of_eq rfl

/-- A thread has what is posted to it. -/
theorem has_postThread {thread other : Nat} {message posted : SdkMessage}
    (held : (system.postThread thread posted).Has other message) :
    system.Has other message ∨ (other = thread ∧ message = posted) := by
  unfold Has at held
  simp only [postThread, setThread] at held
  split at held
  · next same =>
      subst same
      rcases held with queued | last
      · rcases MessageQueue.mem_contents_post queued with rfl | queued
        · exact .inr ⟨rfl, rfl⟩
        · exact .inl (.inl queued)
      · exact .inl (.inr last)
  · exact .inl held

/-- A message goes to a thread that it is routed to. -/
theorem threads_postThread {thread : Nat} {posted : SdkMessage} (base : System)
    (same : base.threads = system.threads) (routes : system.Routes label thread posted) :
    ThreadsStep system label (base.postThread thread posted) where
  has {other message} held := by
    rcases has_postThread held with old | ⟨rfl, rfl⟩
    · exact .inl (by rwa [Has, same] at old)
    · exact .inr (.inr routes)
  running other := by
    simp only [postThread, setThread]
    split
    · next isThread => rw [MessageQueue.fStop_post, same, isThread]
    · rw [same]
  waiting {other task} waits := by
    simp only [postThread, setThread] at waits
    split at waits
    · next isThread => exact .inl (by rwa [same, ← isThread] at waits)
    · exact .inl (by rwa [same] at waits)

/-- A message of a session goes to the thread of its task. -/
theorem threads_onTranslateToSyncLayer {message : SdkMessage} {stanza : Stanza} (base : System)
    (threads : base.threads = system.threads) (tasks : base.tasks = system.tasks)
    (pushThread : base.pushThread = system.pushThread)
    (pushManager : base.pushManager = system.pushManager)
    (isNext : system.nextMessage label = some message)
    (toLayer : message.phandler = some .queueLayer) (payload : message.pdata = some stanza)
    (routed : stanza.routed = true) :
    ThreadsStep system label (base.onTranslateToSyncLayer message.messageId stanza) := by
  unfold onTranslateToSyncLayer
  rw [tasks]
  split
  · next task takes =>
      exact threads_postThread base threads (.toTask isNext toLayer payload routed takes)
  · exact threadsStep_of_eq threads
  · next nobody =>
      split
      · unfold pushHandleMessage
        split
        · exact threadsStep_of_eq threads
        · split
          · rw [pushThread, pushManager]
            exact threads_postThread base threads (.toPush isNext toLayer payload routed nobody)
          · exact threadsStep_of_eq threads
      · exact threadsStep_of_eq threads

/-- What the queue layer sends to threads it routes to them. -/
theorem threads_queueLayerOnMessage {message : SdkMessage}
    (isNext : system.nextMessage label = some message)
    (toLayer : message.phandler = some .queueLayer) :
    ThreadsStep system label ((system.taken label).queueLayerOnMessage message) := by
  have threads : (system.taken label).threads = system.threads := by rw [taken_eq]
  have routes {stanza : Stanza} (payload : message.pdata = some stanza)
      (routed : stanza.routed = true) : ThreadsStep system label
        ((system.taken label).onTranslateToSyncLayer message.messageId stanza) :=
    threads_onTranslateToSyncLayer _ threads (by rw [taken_eq]) (by rw [taken_eq])
      (by rw [taken_eq]) isNext toLayer payload routed
  unfold queueLayerOnMessage
  split
  · split
    · exact threadsStep_of_eq threads
    · exact threadsStep_of_eq threads
  · exact threadsStep_of_eq threads
  · exact threadsStep_of_eq ((sessionSide_removeSession _ _).threads.trans threads)
  · exact threadsStep_of_eq threads
  · exact threadsStep_of_eq threads
  · next type sessionId notRemoved found payload =>
      refine routes payload ?_
      cases type with
      | removeSession => exact (notRemoved rfl).elim
      | sessionNotFound => exact (found rfl).elim
      | _ => rfl
  · next payload => exact routes payload rfl
  · exact threadsStep_of_eq threads

/-- Every step of the machine, for the threads. -/
theorem threads_step (transition : system.step label = some (next, emitted)) :
    ThreadsStep system label next := by
  cases kind_of_step transition with
  | event isEvent found signals => exact threadsStep_of_eq signals.sessionSide.threads
  | resume => exact threadsStep_of_eq rfl
  | idle isTurn nothing => exact threadsStep_of_eq (by rw [taken_eq])
  | @dispatch _ message now answer isTurn isNext =>
      by_cases toLayer : message.phandler = some .queueLayer
      · have layer := threads_queueLayerOnMessage isNext toLayer
        unfold dispatch
        rw [toLayer]
        exact layer
      · refine threadsStep_of_eq ((sessionSide_dispatch _ now answer toLayer).threads.trans ?_)
        rw [taken_eq]
  | call noTurn noEvent side =>
      exact threads_call (callKind_of_step (isCall_of_kind noTurn noEvent) transition)

/-! ## The queues of threads -/

/-- What becomes of a thread's queue in a step. -/
inductive QueueStep (system : System) (label : SystemLabel) (thread : Nat) : SdkQueue → Prop where
  | same : QueueStep system label thread (system.threads thread).wait.queue
  | turn {now memory} (isTurn : label = .pushThread now memory) (own : thread = system.pushThread) :
      QueueStep system label thread ((system.threads thread).wait.queue.getPass now .zero).queue
  | wait {step pass} (isWait : label = .wait thread step)
      (passes : (system.threads thread).wait.nextPass step = some pass) :
      QueueStep system label thread pass.queue
  | routed {message} (routes : system.Routes label thread message) :
      QueueStep system label thread ((system.threads thread).wait.queue.post message)
  | cleared {taskId} (isDestroy : label = .destroyTask taskId)
      (foreign : taskId ≠ system.pushManager.taskId) :
      QueueStep system label thread
        ((system.threads thread).wait.queue.clear (some (.task taskId)) mqidAny).1

section Queues

variable {thread : Nat}

/-- The queue of a thread that is left alone. -/
theorem queueStep_of_eq (same : next.threads = system.threads) :
    QueueStep system label thread (next.threads thread).wait.queue := by
  rw [same]
  exact .same

/-- The queue of a thread when one thread changes. -/
theorem queueStep_setThread {caller : Nat} {state : ThreadState}
    (threads : next.threads = (system.setThread caller state).threads)
    (queue : thread = caller → QueueStep system label thread state.wait.queue) :
    QueueStep system label thread (next.threads thread).wait.queue := by
  simp only [threads, setThread]
  split
  · next own => exact queue own
  · exact .same

/-- A step of a wait passes over the queue, or leaves it. -/
theorem queue_of_wait {task : Waiter Component} {wait after : WaitState Component Stanza}
    {step : WaitLabel Component Stanza} {taken : List (WaitOutput Component Stanza)}
    (own : step.own = true) (transition : wait.step task step = some (after, taken)) :
    after.queue = wait.queue ∨ ∃ pass, wait.nextPass step = some pass ∧ after.queue = pass.queue := by
  cases step with
  | post | postDelayed | quit => cases own
  | call now =>
      simp only [WaitState.step] at transition
      split at transition
      · cases transition
        exact .inr ⟨_, rfl, rfl⟩
      · cases transition
  | wake ok now =>
      simp only [WaitState.step] at transition
      split at transition
      · next msStart isPhase =>
          split at transition
          · cases transition
            exact .inl rfl
          · next goesOn =>
              cases transition
              refine .inr ⟨wait.queue.getPass now wait.msg, ?_, rfl⟩
              simp only [WaitState.nextPass, isPhase, if_neg goesOn]
      · cases transition
  | check now =>
      simp only [WaitState.step] at transition
      split at transition
      · cases transition
        refine .inl ?_
        unfold WaitState.check
        split <;> rfl
      · cases transition

/-- Every call, for the queue of a thread. -/
theorem queueStep_call (call : CallKind system label next emitted) :
    QueueStep system label thread (next.threads thread).wait.queue := by
  have wait {caller : Nat} {step : WaitLabel Component Stanza} {task : Task}
      {wait : WaitState Component Stanza} {taken : List (WaitOutput Component Stanza)}
      (own : step.own = true)
      (waited : (system.threads caller).wait.step (waiter task) step = some (wait, taken)) :
      thread = caller → QueueStep system (.wait caller step) thread wait.queue := by
    rintro rfl
    rcases queue_of_wait own waited with same | ⟨pass, passes, isPass⟩
    · rw [same]
      exact .same
    · rw [isPass]
      exact .wait rfl passes
  cases call with
  | sync => exact queueStep_setThread rfl fun own => own ▸ .same
  | goesOn own waits waited => exact queueStep_setThread rfl (wait own waited)
  | returns own waits waited => exact queueStep_setThread rfl (wait own waited)
  | connected | reconnects => exact queueStep_setThread rfl fun own => own ▸ .same
  | push =>
      refine queueStep_setThread rfl fun own => ?_
      rw [← own]
      exact .turn rfl own
  | destroy notPush => exact .cleared rfl notPush
  | post | handles | resume => exact queueStep_of_eq rfl

/-- The queue of a thread when one is sent a message. -/
theorem queueStep_postThread {other : Nat} {message : SdkMessage} {base : System}
    (same : base.threads = system.threads) (routes : system.Routes label other message) :
    QueueStep system label thread ((base.postThread other message).threads thread).wait.queue := by
  simp only [postThread, setThread]
  split
  · next own =>
      subst own
      rw [same]
      exact .routed routes
  · rw [same]
    exact .same

/-- The queue of a thread when the queue layer handles a message. -/
theorem queueStep_queueLayerOnMessage (thread : Nat) {message : SdkMessage}
    (isNext : system.nextMessage label = some message)
    (toLayer : message.phandler = some .queueLayer) :
    QueueStep system label thread
      (((system.taken label).queueLayerOnMessage message).threads thread).wait.queue := by
  have threads : (system.taken label).threads = system.threads := by rw [taken_eq]
  have tasks : (system.taken label).tasks = system.tasks := by rw [taken_eq]
  have pushThread : (system.taken label).pushThread = system.pushThread := by rw [taken_eq]
  have pushManager : (system.taken label).pushManager = system.pushManager := by rw [taken_eq]
  have routes {stanza : Stanza} (payload : message.pdata = some stanza)
      (routed : stanza.routed = true) : QueueStep system label thread
        (((system.taken label).onTranslateToSyncLayer message.messageId stanza).threads
          thread).wait.queue := by
    unfold onTranslateToSyncLayer
    rw [tasks]
    split
    · next takes =>
        exact queueStep_postThread threads (.toTask isNext toLayer payload routed takes)
    · exact queueStep_of_eq threads
    · next nobody =>
        split
        · unfold pushHandleMessage
          split
          · exact queueStep_of_eq threads
          · split
            · rw [pushThread, pushManager]
              exact queueStep_postThread threads (.toPush isNext toLayer payload routed nobody)
            · exact queueStep_of_eq threads
        · exact queueStep_of_eq threads
  unfold queueLayerOnMessage
  split
  · split
    · exact queueStep_of_eq threads
    · exact queueStep_of_eq threads
  · exact queueStep_of_eq threads
  · exact queueStep_of_eq ((sessionSide_removeSession _ _).threads.trans threads)
  · exact queueStep_of_eq threads
  · exact queueStep_of_eq threads
  · next type sessionId notRemoved found payload =>
      refine routes payload ?_
      cases type with
      | removeSession => exact (notRemoved rfl).elim
      | sessionNotFound => exact (found rfl).elim
      | _ => rfl
  · next payload => exact routes payload rfl
  · exact queueStep_of_eq threads

/-- Every step of the machine, for the queue of a thread. -/
theorem queue_step (transition : system.step label = some (next, emitted)) (thread : Nat) :
    QueueStep system label thread (next.threads thread).wait.queue := by
  cases kind_of_step transition with
  | event isEvent found signals => exact queueStep_of_eq signals.sessionSide.threads
  | resume => exact queueStep_of_eq rfl
  | idle isTurn nothing => exact queueStep_of_eq (by rw [taken_eq])
  | @dispatch _ message now answer isTurn isNext =>
      by_cases toLayer : message.phandler = some .queueLayer
      · have layer := queueStep_queueLayerOnMessage thread isNext toLayer
        unfold dispatch
        rw [toLayer]
        exact layer
      · refine queueStep_of_eq ((sessionSide_dispatch _ now answer toLayer).threads.trans ?_)
        rw [taken_eq]
  | call noTurn noEvent side =>
      exact queueStep_call (callKind_of_step (isCall_of_kind noTurn noEvent) transition)

end Queues

/-! ## What threads do -/

/-- A message in its queue leaves a thread at what it does. -/
theorem activity_postThread (system : System) (thread other : Nat) (message : SdkMessage) :
    ((system.postThread thread message).threads other).activity =
      (system.threads other).activity := by
  simp only [postThread, setThread]
  split
  · next same => rw [same]
  · rfl

/-- The queue layer posts to threads and leaves what they do alone. -/
theorem activity_queueLayerOnMessage (system : System) (message : SdkMessage) (thread : Nat) :
    ((system.queueLayerOnMessage message).threads thread).activity =
      (system.threads thread).activity := by
  have routed (messageId : UInt32) (stanza : Stanza) :
      ((system.onTranslateToSyncLayer messageId stanza).threads thread).activity =
        (system.threads thread).activity := by
    unfold onTranslateToSyncLayer pushHandleMessage
    split
    · exact activity_postThread _ _ _ _
    · rfl
    · split
      · split
        · rfl
        · split
          · exact activity_postThread _ _ _ _
          · rfl
      · rfl
  unfold queueLayerOnMessage
  split
  · split <;> rfl
  · rfl
  · rw [(sessionSide_removeSession _ _).threads]
  · rfl
  · rfl
  · exact routed _ _
  · exact routed _ _
  · rfl

/-- A waiting thread goes on waiting when another one changes. -/
theorem waiting_setThread {thread other : Nat} {state : ThreadState} {task : Task}
    (waits : (system.threads other).activity = .waiting task)
    (differ : (system.threads thread).activity ≠ .waiting task) :
    ((system.setThread thread state).threads other).activity = .waiting task := by
  simp only [setThread]
  split
  · next same => exact absurd (same ▸ waits) differ
  · exact waits

/-- Every call, for a thread that waits. -/
theorem waiting_call (tidy : system.Tidy) (call : CallKind system label next emitted)
    {thread : Nat} {task : Task} (waits : (system.threads thread).activity = .waiting task) :
    (next.threads thread).activity = .waiting task ∨
      next.queueThread = { system.queueThread with
        msgq := system.queueThread.msgq ++
          [⟨some .queueLayer, task.taskId, some (.removeTask task)⟩] } := by
  have differs {caller : Nat} {other : Task} (differ : other ≠ task)
      (isOther : (system.threads caller).activity = .waiting other) :
      (system.threads caller).activity ≠ .waiting task := by
    rw [isOther]
    exact fun same => differ (Activity.waiting.inj same)
  cases call with
  | sync now isIssue isWaited idle =>
      exact .inl (waiting_setThread (by exact waits) (by simp [issuing, postQueue, idle]))
  | @goesOn caller step other wait taken own isOther =>
      refine .inl ?_
      by_cases same : other = task
      · subst same
        simp only [setThread]
        split
        · rfl
        · exact waits
      · exact waiting_setThread waits (differs same isOther)
  | @returns caller step other wait taken activity own isOther =>
      by_cases same : other = task
      · subst same
        exact .inr (by simp [postQueue, setThread, MessageQueue.post, tidy.queue.running])
      · exact .inl (waiting_setThread waits (differs same isOther))
  | connected connecting | reconnects connecting =>
      exact .inl (waiting_setThread waits (by simp [connecting]))
  | push idle => exact .inl (waiting_setThread waits (by simp [idle]))
  | post | handles | resume | destroy => exact .inl waits

/-- A thread waits until its call returns, which has the task removed. -/
theorem waiting_step (tidy : system.Tidy) (transition : system.step label = some (next, emitted))
    {thread : Nat} {task : Task} (waits : (system.threads thread).activity = .waiting task) :
    (next.threads thread).activity = .waiting task ∨
      next.queueThread = { system.queueThread with
        msgq := system.queueThread.msgq ++
          [⟨some .queueLayer, task.taskId, some (.removeTask task)⟩] } := by
  have same (threads : next.threads = system.threads) :
      (next.threads thread).activity = .waiting task := by rw [threads, waits]
  cases kind_of_step transition with
  | event isEvent found signals => exact .inl (same signals.sessionSide.threads)
  | resume => exact .inl waits
  | idle isTurn nothing => exact .inl (same (by rw [taken_eq]))
  | @dispatch _ message now answer isTurn isNext =>
      have threads : (system.taken label).threads = system.threads := by rw [taken_eq]
      refine .inl ?_
      by_cases toLayer : message.phandler = some .queueLayer
      · unfold dispatch
        rw [toLayer]
        simp only
        rw [activity_queueLayerOnMessage, threads, waits]
      · rw [(sessionSide_dispatch _ now answer toLayer).threads, threads, waits]
  | call noTurn noEvent side =>
      exact waiting_call tidy (callKind_of_step (isCall_of_kind noTurn noEvent) transition) waits

/-! ## What calls return -/

/-- What the SDK's own threads tell of: sessions that are inserted or disconnected. -/
def ofManager : SystemOutput → Bool
  | .inserted _ => true
  | .disconnectSucceeded _ => true
  | _ => false

/-- Opening a session puts out what a manager does. -/
theorem outputs_openSession (system : System) (requested connectId : UInt32)
    (answer : ConnectAnswer) :
    ∀ output ∈ (system.openSession requested connectId answer).2, ofManager output = true := by
  unfold openSession
  simp only
  split <;> simp [ofManager]

/-- Dispatching a message puts out what a manager does. -/
theorem outputs_dispatch (system : System) (now : UInt32) (answer : ConnectAnswer)
    (message : SdkMessage) :
    ∀ output ∈ (system.dispatch now answer message).2, ofManager output = true := by
  unfold dispatch
  split
  · simp
  · unfold sessionManagerOnMessage
    split
    · unfold onReconnectMessage
      simp only
      split
      · exact outputs_openSession _ _ _ _
      · simp
    · exact outputs_openSession _ _ _ _
    · unfold onDisconnectMessage
      split <;> simp [ofManager]
    · simp
    · simp
    · simp
  · simp
  · simp

/-- The SDK's own threads return from no `SyncProcessTask`. -/
theorem not_returned_dispatch (system : System) (now : UInt32) (answer : ConnectAnswer)
    (message : SdkMessage) (task : Task) (msg : SdkMessage) :
    .returned task msg ∉ (system.dispatch now answer message).2 :=
  fun returned => nomatch outputs_dispatch system now answer message _ returned

/-- A wait is over when it looks at a message of its task, or when its time is over. -/
theorem done_wait {task : Waiter Component} {wait after : WaitState Component Stanza}
    {step : WaitLabel Component Stanza} {taken : List (WaitOutput Component Stanza)}
    (own : step.own = true) (transition : wait.step task step = some (after, taken))
    (isDone : after.phase = .done) :
    ∃ now, step = .check now ∧ after.msg = wait.msg ∧
      (WaitState.isOwn task wait.msg = true ∨ timeUntil now wait.msEnd < 0) := by
  have notDone (msStart now : UInt32) : (wait.pass msStart now).1.phase ≠ .done := by
    simp only [WaitState.pass]
    split <;> simp
  cases step with
  | post | postDelayed | quit => cases own
  | call now =>
      simp only [WaitState.step] at transition
      split at transition
      · cases transition
        exact absurd isDone (notDone _ _)
      · cases transition
  | wake ok now =>
      simp only [WaitState.step] at transition
      split at transition
      · split at transition
        · cases transition
          cases isDone
        · cases transition
          exact absurd isDone (notDone _ _)
      · cases transition
  | check now =>
      simp only [WaitState.step] at transition
      split at transition
      · cases transition
        refine ⟨now, rfl, ?_⟩
        unfold WaitState.check at isDone ⊢
        split at isDone
        · next isOwn =>
            rw [if_pos isOwn]
            exact ⟨rfl, .inl isOwn⟩
        · next foreign =>
            rw [if_neg foreign]
            refine ⟨rfl, .inr ?_⟩
            simp only at isDone
            split at isDone
            · next late => exact late
            · cases isDone
      · cases transition

/-- A call returns the last message that its wait took. -/
theorem returned_of_step (transition : system.step label = some (next, emitted)) {task : Task}
    {msg : SdkMessage} (returned : .returned task msg ∈ emitted) :
    ∃ thread now, label = .wait thread (.check now) ∧
      (system.threads thread).activity = .waiting task ∧
      msg = (system.threads thread).wait.msg ∧
      (WaitState.isOwn (waiter task) msg = true ∨
        timeUntil now (system.threads thread).wait.msEnd < 0) := by
  cases kind_of_step transition with
  | event | resume | idle => cases returned
  | dispatch => exact absurd returned (not_returned_dispatch _ _ _ _ _ _)
  | call noTurn noEvent side =>
      cases callKind_of_step (isCall_of_kind noTurn noEvent) transition with
      | @returns thread step other wait taken activity own waits waited isDone =>
          obtain ⟨rfl, rfl⟩ : task = other ∧ msg = wait.msg := by simpa using returned
          obtain ⟨now, rfl, same, late⟩ := done_wait own waited isDone
          rw [same]
          exact ⟨thread, now, rfl, waits, rfl, late⟩
      | push => simp at returned
      | _ => cases returned

/-- A call whose time is over returns what its wait took last. -/
theorem returned_of_over {thread : Nat} {now : UInt32}
    (transition : system.step (.wait thread (.check now)) = some (next, emitted)) {task : Task}
    (waits : (system.threads thread).activity = .waiting task)
    (late : timeUntil now (system.threads thread).wait.msEnd < 0) :
    emitted = [.returned task (system.threads thread).wait.msg] := by
  have waitMsg {wait : WaitState Component Stanza} {taken : List (WaitOutput Component Stanza)}
      (waited : (system.threads thread).wait.step (waiter task) (.check now) = some (wait, taken)) :
      wait.phase = .done ∧ wait.msg = (system.threads thread).wait.msg := by
    simp only [WaitState.step] at waited
    split at waited
    · cases waited
      unfold WaitState.check
      split
      · exact ⟨rfl, rfl⟩
      · simp [late]
    · cases waited
  cases callKind_of_step rfl transition with
  | returns own isOther waited =>
      rw [waits] at isOther
      cases isOther
      rw [(waitMsg waited).2]
  | goesOn own isOther waited notDone =>
      rw [waits] at isOther
      cases isOther
      exact absurd (waitMsg waited).1 notDone
  | sync now isIssue => cases isIssue
  | post isIssue => cases isIssue
  | handles isHandle => rcases isHandle with isAdd | isRemove <;> contradiction

end System

end VzSdk.Sdk
