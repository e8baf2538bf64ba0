import VzSdk.Sdk.Threads

/-!
# Replies of the session manager

The session manager answers a task under the task's id. On its way to the task's
thread the answer passes three filters: the split into requests and replies, the
cases of `OnResMessage`, and the task's own `HandleMessage`.
`reply_handed_iff` says which replies come through.
-/

namespace VzSdk.Sdk

open VzSdk.Base VzSdk.Event VzSdk.Std

/-- The stanza is one that the task waits for: of its session, for a task that has one, and a
disconnection, for a task that disconnects. -/
def Task.Awaits (task : Task) (stanza : Stanza) : Prop :=
  match task.data with
  | .connect _ => True
  | .disconnect sessionId => stanza.sessionId = sessionId ∧
      (stanza.stanzaType = .resDisconnectedEventSucceed ∨
        stanza.stanzaType = .resDisconnectedEventFailure)
  | .request _ sessionId _ => stanza.sessionId = sessionId
  | .pushManager => False

namespace Task

variable {task : Task} {messageId : UInt32} {type : PlainType} {sessionId : UInt32}

/-- A task with another id refuses. -/
theorem handleMessage_other (differ : messageId ≠ task.taskId) :
    task.handleMessage messageId (.plain type sessionId) = some false := by
  unfold handleMessage
  split <;> simp [differ]

/-- A task takes a reply to its own id when it awaits that type. -/
theorem handleMessage_own (type : PlainType) (sessionId : UInt32) :
    task.handleMessage task.taskId (.plain type sessionId) = some true ↔
        task.Awaits (.plain type sessionId) := by
  unfold handleMessage Awaits
  cases task.data with
  | request kind session reqJson => cases kind <;> simp
  | disconnect session => simp [and_comm]
  | _ => simp

/-- Every task answers a message that holds only a session id. -/
theorem handleMessage_plain (task : Task) (messageId : UInt32) (type : PlainType)
    (sessionId : UInt32) :
    ∃ accepted, task.handleMessage messageId (.plain type sessionId) = some accepted := by
  unfold handleMessage
  split <;> exact ⟨_, rfl⟩

end Task

/-- Nobody takes what every task refuses. -/
theorem taker_nobody {messageId : UInt32} {stanza : Stanza} {tasks : List (UInt32 × Task)}
    (refuse : ∀ entry ∈ tasks, entry.2.handleMessage messageId stanza = some false) :
    taker messageId stanza tasks = .nobody := by
  induction tasks with
  | nil => rfl
  | cons entry tasks inductionHypothesis =>
      have first := refuse entry List.mem_cons_self
      unfold taker
      simp only [first]
      exact inductionHypothesis fun other member => refuse other (List.mem_cons_of_mem _ member)

/-- A task takes what it claims and the others refuse. -/
theorem taker_task {messageId : UInt32} {stanza : Stanza} {task : Task}
    {tasks : List (UInt32 × Task)} {key : UInt32} (member : (key, task) ∈ tasks)
    (takes : task.handleMessage messageId stanza = some true)
    (others : ∀ entry ∈ tasks, entry.2 = task ∨
      entry.2.handleMessage messageId stanza = some false) :
    taker messageId stanza tasks = .task task := by
  induction tasks with
  | nil => cases member
  | cons entry tasks inductionHypothesis =>
      have first := others entry List.mem_cons_self
      unfold taker
      rcases first with isTask | refuses
      · simp only [isTask, takes]
      · have later : (key, task) ∈ tasks := by
          rcases List.mem_cons.mp member with rfl | later
          · rw [takes] at refuses
            cases refuses
          · exact later
        simp only [refuses]
        exact inductionHypothesis later fun other member =>
          others other (List.mem_cons_of_mem _ member)

namespace System

variable {system next : System} {label : SystemLabel} {emitted : List SystemOutput}

/-- Among the registered tasks only the one with the message's id can take it. -/
theorem taker_plain (tidy : system.Tidy) {messageId : UInt32} {task : Task}
    (registered : system.tasks.find? messageId = some task) (type : PlainType)
    (sessionId : UInt32) :
    (task.Awaits (.plain type sessionId) ∧
        taker messageId (.plain type sessionId) system.tasks.entries = .task task) ∨
      (¬task.Awaits (.plain type sessionId) ∧
        taker messageId (.plain type sessionId) system.tasks.entries = .nobody) := by
  have member := OrderedMap.mem_of_find? registered
  have isId : task.taskId = messageId := tidy.named _ member
  have own : task.handleMessage messageId (.plain type sessionId) = some true ↔
      task.Awaits (.plain type sessionId) := by
    rw [← isId]
    exact Task.handleMessage_own type sessionId
  have others : ∀ entry ∈ system.tasks.entries, entry.2 = task ∨
      entry.2.handleMessage messageId (.plain type sessionId) = some false := by
    intro entry isEntry
    by_cases same : entry.1 = messageId
    · have found : system.tasks.find? messageId = some entry.2 :=
        OrderedMap.find?_of_mem (same ▸ isEntry)
      rw [registered] at found
      exact .inl (Option.some.inj found).symm
    · exact .inr (Task.handleMessage_other fun isOwn =>
        same ((tidy.named entry isEntry).symm.trans isOwn.symm))
  by_cases awaits : task.Awaits (.plain type sessionId)
  · exact .inl ⟨awaits, taker_task member (own.mpr awaits) others⟩
  · refine .inr ⟨awaits, taker_nobody fun entry isEntry => ?_⟩
    rcases others entry isEntry with isTask | refuses
    · obtain ⟨accepted, handled⟩ := task.handleMessage_plain messageId type sessionId
      rw [isTask, handled]
      cases accepted with
      | false => rfl
      | true => exact absurd (own.mp handled) awaits
    · exact refuses

/-- The threads' queues run in every reachable state. -/
theorem running_of_run {allowed : System → SystemLabel → Prop} {pushThread : Nat}
    {labels : List SystemLabel} {outputs : List SystemOutput}
    (run : sdkMachine.RunWhere allowed (System.start pushThread) labels system outputs) :
    ∀ thread, (system.threads thread).wait.queue.fStop = false := by
  refine run.invariant (fun _ system _ => ∀ thread,
    (system.threads thread).wait.queue.fStop = false) (fun _ => rfl) ?_
  intro labels system outputs label next emitted running _ transition thread
  rw [(threads_step transition).running, running]

/-- The stanza is at the end of the queue of the task's thread, as the task's message. -/
def Handed (system next : System) (task : Task) (stanza : Stanza) : Prop :=
  (next.threads task.thread).wait.queue.msgq =
    (system.threads task.thread).wait.queue.msgq ++
      [⟨some (.task task.taskId), task.taskId, some stanza⟩]

/-- A message that is posted to a task's thread is handed to it. -/
theorem handed_postTo (running : ∀ thread, (system.threads thread).wait.queue.fStop = false)
    (base : System) (same : base.threads = system.threads) (task : Task) (stanza : Stanza) :
    Handed system (base.postTo task stanza) task stanza := by
  have runs := running task.thread
  simp only [Handed, postTo, postThread, setThread, if_true, same]
  simp [MessageQueue.post, runs]

/-- Nothing is handed over while the threads stay as they are. -/
theorem not_handed_of_eq (same : next.threads = system.threads) (task : Task) (stanza : Stanza) :
    ¬Handed system next task stanza := by
  intro handed
  unfold Handed at handed
  rw [same] at handed
  simp at handed

/-- What is handed to the push thread is no task's but the push task's. -/
theorem push_of_handed (running : ∀ thread, (system.threads thread).wait.queue.fStop = false)
    (base : System) (same : base.threads = system.threads) {task : Task} {stanza : Stanza}
    {messageId : UInt32}
    (handed : Handed system (base.pushHandleMessage messageId stanza) task stanza) :
    task.taskId = base.pushManager.taskId := by
  unfold pushHandleMessage at handed
  split at handed
  · exact absurd handed (not_handed_of_eq same task stanza)
  · split at handed
    · by_cases isPush : task.thread = base.pushThread
      · unfold Handed at handed
        have runs := running base.pushThread
        simp only [postThread, setThread, isPush, if_true, same] at handed
        simp only [MessageQueue.post, runs, Bool.false_eq_true, if_false,
          List.append_cancel_left_eq, List.cons.injEq, Message.mk.injEq, and_true] at handed
        exact handed.2.symm
      · unfold Handed at handed
        simp only [postThread, setThread, isPush, if_false, same] at handed
        simp at handed
    · exact absurd handed (not_handed_of_eq same task stanza)

/-- The queue layer's part, after it has taken the message. -/
theorem handed_queueLayerOnMessage (tidy : system.Tidy)
    (running : ∀ thread, (system.threads thread).wait.queue.fStop = false)
    {message : SdkMessage} {type : PlainType} {sessionId : UInt32} {task : Task}
    (payload : message.pdata = some (.plain type sessionId))
    (registered : system.tasks.find? message.messageId = some task) :
    let stanza := Stanza.plain type sessionId
    (type ≠ .sessionNotFound → type ≠ .removeSession → task.Awaits stanza →
        Handed system (system.queueLayerOnMessage message) task stanza) ∧
      (Handed system (system.queueLayerOnMessage message) task stanza →
        (type ≠ .sessionNotFound ∧ type ≠ .removeSession ∧ task.Awaits stanza) ∨
          task.taskId = system.pushManager.taskId) := by
  have routes (isRouted : system.queueLayerOnMessage message =
        system.onTranslateToSyncLayer message.messageId (.plain type sessionId)) :
      (task.Awaits (.plain type sessionId) →
        Handed system (system.queueLayerOnMessage message) task (.plain type sessionId)) ∧
      (Handed system (system.queueLayerOnMessage message) task (.plain type sessionId) →
        task.Awaits (.plain type sessionId) ∨ task.taskId = system.pushManager.taskId) := by
    rw [isRouted]
    unfold onTranslateToSyncLayer
    rcases taker_plain tidy registered type sessionId with ⟨awaits, takes⟩ | ⟨refuses, nobody⟩
    · rw [takes]
      exact ⟨fun _ => handed_postTo running system rfl task _, fun _ => .inl awaits⟩
    · rw [nobody]
      refine ⟨fun awaits => absurd awaits refuses, fun handed => .inr ?_⟩
      simp only at handed
      split at handed
      · exact push_of_handed running system rfl handed
      · exact absurd handed (not_handed_of_eq rfl task _)
  intro stanza
  cases type with
  | sessionNotFound =>
      have same : (system.queueLayerOnMessage message).threads = system.threads := by
        simp only [queueLayerOnMessage, payload]
      exact ⟨fun differ => absurd rfl differ, fun handed => absurd handed (not_handed_of_eq same _ _)⟩
  | removeSession =>
      have same : (system.queueLayerOnMessage message).threads = system.threads := by
        simp only [queueLayerOnMessage, payload]
        exact (sessionSide_removeSession system sessionId).threads
      exact ⟨fun _ differ => absurd rfl differ,
        fun handed => absurd handed (not_handed_of_eq same _ _)⟩
  | _ =>
      have routed := routes (by simp only [queueLayerOnMessage, payload])
      exact ⟨fun _ _ => routed.1, fun handed => (routed.2 handed).imp_left
        fun awaits => ⟨by simp, by simp, awaits⟩⟩

/-- A turn of the queue thread that takes a message of the queue layer. -/
theorem step_queueLayer {now : UInt32} {answer : ConnectAnswer} {message : SdkMessage}
    (transition : system.step (.queueThread now answer) = some (next, emitted))
    (isNext : system.nextMessage (.queueThread now answer) = some message)
    (toLayer : message.phandler = some .queueLayer) :
    next = (system.taken (.queueThread now answer)).queueLayerOnMessage message := by
  cases kind_of_step transition with
  | event isEvent => cases isEvent
  | call isCall => cases isCall
  | idle _ nothing =>
      rw [isNext] at nothing
      cases nothing
  | dispatch isTurn found =>
      rw [isNext] at found
      cases found
      simp only [dispatch, toLayer]

end System

/-- In every reachable state, a reply of the session manager under the id of a registered
task is handed to the task's thread exactly when it is neither `RES_SESSION_NOT_FOUND` nor the
removal of a session, and is one that the task waits for. (A task whose id has come round to
that of the push task may be handed what the push task is.) -/
theorem reply_handed_iff {pushThread : Nat} {labels : List SystemLabel} {system next : System}
    {outputs emitted : List SystemOutput}
    (run : sdkMachine.Run (System.start pushThread) labels system outputs) {now : UInt32}
    {answer : ConnectAnswer}
    (transition : system.step (.queueThread now answer) = some (next, emitted))
    {message : SdkMessage} {type : PlainType} {sessionId : UInt32} {task : Task}
    (isNext : system.nextMessage (.queueThread now answer) = some message)
    (toLayer : message.phandler = some .queueLayer)
    (payload : message.pdata = some (.plain type sessionId))
    (registered : system.tasks.find? message.messageId = some task) :
    let stanza := Stanza.plain type sessionId
    (type ≠ .sessionNotFound → type ≠ .removeSession → task.Awaits stanza →
        system.Handed next task stanza) ∧
      (system.Handed next task stanza →
        (type ≠ .sessionNotFound ∧ type ≠ .removeSession ∧ task.Awaits stanza) ∨
          task.taskId = system.pushManager.taskId) := by
  have tidy : (system.taken (.queueThread now answer)).Tidy :=
    System.tidy_takeQueue (tidy_of_run run) now
  have running : ∀ thread, ((system.taken (.queueThread now answer)).threads
      thread).wait.queue.fStop = false := fun thread =>
    (System.running_of_run run thread : (system.threads thread).wait.queue.fStop = false)
  have result := System.step_queueLayer transition isNext toLayer
  have handed := System.handed_queueLayerOnMessage tidy running payload registered
  rw [← result] at handed
  exact handed

/-- A request to a session that does not exist, and a disconnection of it. -/
def requestRefused : List SystemLabel :=
  [.request 1 .req 9 (.object [("cmd", .string "get_device_info")]) 5000 1000,
    .queueThread 1000 .pending, .queueThread 1000 .pending, .asyncThread 1000 .pending]

/-- A disconnection of a session that is not there. -/
def disconnectRefused : List SystemLabel :=
  [.disconnect 1 9 5000 1000, .queueThread 1000 .pending, .queueThread 1000 .pending,
    .asyncThread 1000 .pending]

/-- The queue thread is about to take a reply for task 3, which waits on its thread. -/
def repliesToThree (type : PlainType) (system : System) : Bool :=
  (system.nextMessage (.queueThread 1000 .pending)).any (fun message =>
    message.phandler = some .queueLayer && message.messageId = 3 &&
      match message.pdata with
      | some (.plain posted sessionId) => posted = type && sessionId = 9
      | _ => false) &&
    (system.tasks.find? 3).any (fun task =>
      match (system.threads task.thread).activity with
      | .waiting other => other.taskId = 3
      | _ => false) &&
    (system.step (.queueThread 1000 .pending)).isSome

/-- What `repliesToThree` checks of a step. -/
theorem repliesToThree_spec {type : PlainType} {system : System}
    (replies : repliesToThree type system = true) :
    ∃ message task other next emitted,
      system.nextMessage (.queueThread 1000 .pending) = some message ∧
      message.phandler = some .queueLayer ∧ message.pdata = some (.plain type 9) ∧
      system.tasks.find? message.messageId = some task ∧
      (system.threads task.thread).activity = .waiting other ∧ other.taskId = message.messageId ∧
      message.messageId = 3 ∧
      system.step (.queueThread 1000 .pending) = some (next, emitted) := by
  simp only [repliesToThree, Bool.and_eq_true, Option.any_eq_true, decide_eq_true_eq] at replies
  obtain ⟨⟨⟨message, isNext, ⟨toLayer, isThree⟩, isReply⟩, task, registered, waits⟩, steps⟩ := replies
  obtain ⟨⟨next, emitted⟩, transition⟩ := Option.isSome_iff_exists.mp steps
  split at isReply
  · next posted sessionId payload =>
      split at waits
      · next other isWaiting =>
          simp only [Bool.and_eq_true, decide_eq_true_eq] at isReply waits
          obtain ⟨rfl, rfl⟩ := isReply
          exact ⟨message, task, other, next, emitted, isNext, toLayer, payload,
            isThree ▸ registered, isWaiting, waits.trans isThree.symm, isThree, transition⟩
      · cases waits
  · cases isReply

/-- The task disconnects the session. -/
def Task.disconnects (task : Task) (sessionId : UInt32) : Bool :=
  match task.data with
  | .disconnect session => session = sessionId
  | _ => false

/-- A disconnection that fails is answered. -/
theorem reply_handed_disconnect :
    ∃ labels system outputs next emitted message task,
      sdkMachine.Run (System.start 0) labels system outputs ∧
      system.nextMessage (.queueThread 1000 .pending) = some message ∧
      message.pdata = some (.plain .disconnectedFailure 9) ∧
      system.tasks.find? message.messageId = some task ∧
      system.step (.queueThread 1000 .pending) = some (next, emitted) ∧
      system.Handed next task (.plain .disconnectedFailure 9) := by
  have checked : (sdkMachine.exec (System.start 0) disconnectRefused).any (fun result =>
      repliesToThree .disconnectedFailure result.1 &&
        (result.1.tasks.find? 3).all (·.disconnects 9)) = true := by decide +kernel
  obtain ⟨system, outputs, run, isFinal⟩ := Machine.exists_run_of_exec checked
  simp only [Bool.and_eq_true] at isFinal
  obtain ⟨message, task, other, next, emitted, isNext, toLayer, payload, registered, _, _, isThree,
    transition⟩ := repliesToThree_spec isFinal.1
  have awaits : task.Awaits (.plain .disconnectedFailure 9) := by
    have isData := isFinal.2
    rw [← isThree, registered, Option.all_some] at isData
    unfold Task.disconnects at isData
    unfold Task.Awaits
    split at isData
    · next sessionId isDisconnect =>
        rw [isDisconnect]
        exact ⟨(of_decide_eq_true isData).symm, .inr rfl⟩
    · cases isData
  exact ⟨_, system, outputs, next, emitted, message, task, run, isNext, payload, registered,
    transition, (reply_handed_iff run transition isNext toLayer payload registered).1 (by simp) (by simp)
      awaits⟩

/-- A request that is refused is not: the caller waits for its timeout. -/
theorem refusal_not_handed :
    ∃ labels system outputs next emitted message task other,
      sdkMachine.Run (System.start 0) labels system outputs ∧
      system.nextMessage (.queueThread 1000 .pending) = some message ∧
      message.phandler = some .queueLayer ∧
      message.pdata = some (.plain .sessionNotFound 9) ∧
      system.tasks.find? message.messageId = some task ∧
      (system.threads task.thread).activity = .waiting other ∧ other.taskId = message.messageId ∧
      system.step (.queueThread 1000 .pending) = some (next, emitted) ∧
      ¬system.Handed next task (.plain .sessionNotFound 9) := by
  have checked : (sdkMachine.exec (System.start 0) requestRefused).any (fun result =>
      repliesToThree .sessionNotFound result.1) = true := by decide +kernel
  obtain ⟨system, outputs, run, replies⟩ := Machine.exists_run_of_exec checked
  obtain ⟨message, task, other, next, emitted, isNext, toLayer, payload, registered, waits, isOwn, _,
    transition⟩ := repliesToThree_spec replies
  refine ⟨_, system, outputs, next, emitted, message, task, other, run, isNext, toLayer, payload,
    registered, waits, isOwn, transition, System.not_handed_of_eq ?_ _ _⟩
  rw [System.step_queueLayer transition isNext toLayer]
  simp only [System.queueLayerOnMessage, payload]
  rfl

end VzSdk.Sdk
