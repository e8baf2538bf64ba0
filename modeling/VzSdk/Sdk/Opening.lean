import VzSdk.Sdk.Numbering

/-!
# Devices are opened one at a time

A connect task is asked for on the queue thread, sent to the asynchronous thread
and answered there by a new session. Where devices are opened one at a time, no
other connect task is asked for until the removal of the first one is on the
queue thread. The number of sessions made and on their way to be made therefore
stays below the id of every connect task that is registered: `Opening`.
-/

namespace VzSdk.Sdk

open VzSdk.Base VzSdk.Event VzSdk.Std

/-- The task's id, if the task opens a device. -/
def Task.connectId (task : Task) : Option UInt32 :=
  match task.data with
  | .connect _ => some task.taskId
  | _ => none

/-- A task that connects has its own id as the id to connect with. -/
theorem Task.connectId_of_isConnect {task : Task} (isConnect : task.isConnect) :
    task.connectId = some task.taskId := by
  obtain ⟨address, isData⟩ := isConnect
  simp [connectId, isData]

/-- Only a task that connects has an id to connect with. -/
theorem Task.isConnect_of_connectId {task : Task} {id : UInt32}
    (isId : task.connectId = some id) : task.isConnect ∧ id = task.taskId := by
  unfold connectId at isId
  split at isId
  · next address isData => exact ⟨⟨address, isData⟩, (Option.some.inj isId).symm⟩
  · cases isId

/-- The device that a notice asks to be opened. -/
def askedConnect : Notice Task UInt32 Topic → Option UInt32
  | .ask task => task.connectId
  | _ => none

/-- A connect message for the manager that is handed out. -/
def sentConnect (message : SdkMessage) : Option UInt32 :=
  if message.messageId = mqidDispose then none else System.connectMessage message

/-- Every id is above the counter that it meets: the counter goes up by one for each. -/
def Ahead : Nat → List UInt32 → Prop
  | _, [] => True
  | counter, id :: ids => counter + 1 < id.toNat ∧ Ahead (counter + 1) ids

/-- Ids ahead of the counter come part by part. -/
theorem ahead_append {counter : Nat} {first second : List UInt32} :
    Ahead counter (first ++ second) ↔ Ahead counter first ∧ Ahead (counter + first.length) second := by
  induction first generalizing counter with
  | nil => simp [Ahead]
  | cons id ids inductionHypothesis =>
      simp only [List.cons_append, Ahead, inductionHypothesis, List.length_cons, and_assoc]
      rw [Nat.add_assoc, Nat.add_comm 1]

namespace System

/-- Connect messages that wait for the manager. -/
def sent (system : System) : List UInt32 := system.asyncThread.msgq.filterMap sentConnect

/-- Connect tasks that the queue layer is asked for. -/
def asked (system : System) : List UInt32 := system.notices.filterMap askedConnect

/-- A connect task with this id is registered. -/
def IsOpen (system : System) (id : UInt32) : Prop :=
  ∃ task, (id, task) ∈ system.tasks.entries ∧ task.isConnect

/-- A connect task with this id will be registered once the queue thread is through. -/
def LeftOpen (system : System) : UInt32 → Prop :=
  Notice.leftOpen Task.isConnect (·.taskId) system.IsOpen system.notices

/-- Sessions are made in the order of their connect tasks, and one at a time. -/
structure Opening (system : System) : Prop where
  async : TidyAsync system.asyncThread
  onQueue : ∀ message ∈ system.queueThread.contents, message.phandler = some .sessionManager →
    Reconnects message
  ahead : Ahead (system.sessionCounter.toNat + system.sent.length) system.asked
  total : system.sessionCounter.toNat + system.sent.length + system.asked.length <
    system.taskCounter.toNat
  registered : ∀ entry ∈ system.tasks.entries, entry.2.isConnect →
    system.sessionCounter.toNat + system.sent.length < entry.2.taskId.toNat
  serialised : Notice.Serialised Task.isConnect (·.taskId) system.IsOpen system.notices
  waited : ∀ id, system.LeftOpen id → ∃ thread task,
    (system.threads thread).activity = .waiting task ∧ task.isConnect ∧ task.taskId = id

/-! ## The two queues -/

variable {system next : System} {label : SystemLabel} {emitted : List SystemOutput}

/-- A message to another handler than the manager opens no session. -/
theorem sentConnect_of_elsewhere {message : SdkMessage}
    (elsewhere : message.phandler ≠ some .sessionManager) : sentConnect message = none := by
  unfold sentConnect connectMessage
  split
  · rfl
  · split
    · next toManager _ => exact absurd toManager elsewhere
    · rfl

/-- A reconnect message is not a request to connect. -/
theorem sentConnect_of_reconnects {message : SdkMessage} (reconnects : Reconnects message) :
    sentConnect message = none := by
  obtain ⟨sessionId, address, payload⟩ := reconnects
  unfold sentConnect connectMessage
  split
  · rfl
  · rw [payload]
    split
    · next isConnect => cases isConnect
    · rfl

/-- A turn takes the first connect message, or none. -/
theorem sent_taken (opening : system.Opening) (label : SystemLabel) :
    system.sent = ((system.nextMessage label).bind sentConnect).toList ++ (system.taken label).sent := by
  have undelayed : ∀ delayed ∈ system.asyncThread.dmsgq, sentConnect delayed.msg = none := by
    intro delayed member
    rcases opening.async.delayed delayed member with ⟨serial, isTimer⟩ | reconnects
    · rw [isTimer]
      exact sentConnect_of_elsewhere (by simp [timerMessage])
    · exact sentConnect_of_reconnects reconnects
  have lasting : ∀ message : SdkMessage, message.messageId = mqidDispose →
      sentConnect message = none := fun message dispose => if_pos dispose
  cases label with
  | asyncThread now answer =>
      obtain ⟨first, _, _⟩ := MessageQueue.filterMap_getPass lasting system.asyncThread now .zero
        opening.async.unpeeked undelayed
      simp only [sent, nextMessage, taken]
      rw [first]
      split <;> simp
  | queueThread now answer =>
      simp only [sent, nextMessage, taken]
      split
      · next found =>
          have onQueue := (MessageQueue.getPass_subset system.queueThread now .zero).2 found
          have none : sentConnect (system.queueThread.getPass now .zero).pmsg = none := by
            by_cases toManager : (system.queueThread.getPass now .zero).pmsg.phandler =
                some .sessionManager
            · exact sentConnect_of_reconnects (opening.onQueue _ onQueue toManager)
            · exact sentConnect_of_elsewhere toManager
          simp [none]
      · simp
  | _ => simp [sent, nextMessage, taken]

/-- The notice of the message that the label's turn takes. -/
def told (system : System) (label : SystemLabel) : List (Notice Task UInt32 Topic) :=
  ((system.nextMessage label).bind notice).toList

/-- The ids of tasks that are asked for are ids of messages that are handed out. -/
def AsksLast (system : System) : Prop :=
  ∀ message ∈ system.queueThread.contents, ∀ task, message.pdata = some (.reqTask task) →
    task.isConnect → task.taskId ≠ mqidDispose

/-- A message for the queue layer tells the tables what it holds. -/
theorem told_of_next (tidy : system.Tidy) {message : SdkMessage}
    (isNext : system.nextMessage label = some message)
    (toLayer : message.phandler = some .queueLayer) :
    system.told label = (payloadNotice message.pdata).toList := by
  have lasting := lasting_of_next tidy isNext toLayer
  simp [told, isNext, notice, toLayer, lasting]

/-- A message for another handler tells the tables nothing. -/
theorem told_of_elsewhere {message : SdkMessage} (isNext : system.nextMessage label = some message)
    (elsewhere : message.phandler ≠ some .queueLayer) : system.told label = [] := by
  simp [told, isNext, notice, elsewhere]

/-- A step that dispatches nothing tells the tables nothing. -/
theorem told_of_none (isNext : system.nextMessage label = none) : system.told label = [] := by
  simp [told, isNext]

/-- The message of a task is a connect message exactly for a connect task. -/
theorem sentConnect_messageData {task : Task}
    (lasting : task.isConnect → task.taskId ≠ mqidDispose) :
    sentConnect ⟨some .sessionManager, task.taskId, task.messageData⟩ = task.connectId := by
  cases isData : task.data with
  | connect address =>
      have lasts := lasting ⟨address, isData⟩
      simp [sentConnect, connectMessage, Task.messageData, Task.connectId, isData, lasts]
  | disconnect | request | pushManager =>
      simp [sentConnect, connectMessage, Task.messageData, Task.connectId, isData]

/-- The queue layer sends the connect messages that it is asked for. -/
theorem sent_forwards (tidy : system.Tidy) (lasting : system.AsksLast) :
    (system.forwards label).filterMap sentConnect =
      (system.told label).filterMap askedConnect := by
  unfold forwards
  split
  · next message isNext =>
      split
      · next toLayer =>
          rw [told_of_next tidy isNext toLayer]
          unfold forwarded
          split
          · next task payload =>
              have lasts := lasting message (mem_queue_of_next tidy isNext toLayer) task payload
              have sends := sentConnect_messageData lasts
              rw [payload]
              cases isData : task.data with
              | pushManager => simp [payloadNotice, askedConnect, Task.connectId, isData]
              | connect | disconnect | request =>
                  simp only [payloadNotice, Option.toList_some, List.filterMap_cons, askedConnect,
                    sends, List.filterMap_nil]
          · next noAsk =>
              have nobody : ∀ notice ∈ (payloadNotice message.pdata).toList,
                  askedConnect notice = none := by
                unfold payloadNotice
                split
                · next payload => exact absurd payload (noAsk _)
                all_goals simp [askedConnect]
              exact (List.filterMap_eq_nil_iff.mpr nobody).symm
      · next elsewhere => rw [told_of_elsewhere isNext elsewhere]; rfl
  · next none => rw [told_of_none none]; rfl

/-- Connect messages come in as they are asked for and go out as they are handled. -/
theorem sent_step (opening : system.Opening) (tidy : system.Tidy) (lasting : system.AsksLast)
    (transition : system.step label = some (next, emitted)) :
    ((system.nextMessage label).bind sentConnect).toList ++ next.sent =
      system.sent ++ (system.told label).filterMap askedConnect := by
  have running : (system.taken label).asyncThread.fStop = false := by
    unfold taken
    split
    · exact opening.async.running
    · exact (MessageQueue.fStop_getPass _ _ _).trans opening.async.running
    · exact opening.async.running
  have grows := (async_step transition).ready running sentConnect
    fun message elsewhere => sentConnect_of_elsewhere elsewhere
  rw [sent_forwards tidy lasting] at grows
  have grown : next.sent = (system.taken label).sent ++ (system.told label).filterMap askedConnect :=
    grows
  rw [sent_taken opening label, grown, List.append_assoc]

/-- What asks for a task holds it. -/
theorem payload_of_ask {pdata : Option Stanza} {task : Task}
    (isAsk : payloadNotice pdata = some (.ask task)) : pdata = some (.reqTask task) := by
  unfold payloadNotice at isAsk
  split at isAsk
  · cases isAsk
    rfl
  all_goals cases isAsk

/-- What drops a task holds a task of that id. -/
theorem payload_of_drop {pdata : Option Stanza} {id : UInt32}
    (isDrop : payloadNotice pdata = some (.drop id)) :
    ∃ task, pdata = some (.removeTask task) ∧ task.taskId = id := by
  unfold payloadNotice at isDrop
  split at isDrop
  · cases isDrop
  · next task =>
      cases isDrop
      exact ⟨task, rfl, rfl⟩
  all_goals cases isDrop

/-- Notices come in as they are posted and go out as they are handled. -/
theorem notices_step (tidy : system.Tidy) (transition : system.step label = some (next, emitted)) :
    ∃ posted : List (Notice Task UInt32 Topic),
      system.notices ++ posted = system.told label ++ next.notices ∧
      (∀ task, .ask task ∈ posted →
        system.issue label = some task ∧ task.taskId ≠ mqidDispose) ∧
      ∀ id, .drop id ∈ posted → ∃ thread task,
        (system.threads thread).activity = .waiting task ∧ task.taskId = id := by
  obtain ⟨messages, isPosted, same, _⟩ :=
    ready_step tidy layerKind_notice tidy.queue.delayed transition
  have isNotice {told : Notice Task UInt32 Topic} (member : told ∈ messages.filterMap notice) :
      ∃ message ∈ messages, message.messageId ≠ mqidDispose ∧
        payloadNotice message.pdata = some told := by
    obtain ⟨message, stands, isTold⟩ := List.mem_filterMap.mp member
    unfold notice at isTold
    split at isTold
    · next isLasting => exact ⟨message, stands, isLasting.2, isTold⟩
    · cases isTold
  refine ⟨messages.filterMap notice, same, fun task asks => ?_, fun id drops => ?_⟩
  · obtain ⟨message, member, lasting, isAsk⟩ := isNotice asks
    have payload := payload_of_ask isAsk
    refine ⟨(isPosted message member).task.1 payload, ?_⟩
    rwa [← (isPosted message member).messageId_of_reqTask payload]
  · obtain ⟨message, member, _, isDrop⟩ := isNotice drops
    obtain ⟨task, payload, rfl⟩ := payload_of_drop isDrop
    obtain ⟨thread, _, _, waits⟩ := (isPosted message member).task.2 payload
    exact ⟨thread, task, waits, rfl⟩

/-! ## One at a time -/

/-- A task of the kind is registered under this id. -/
def Registered (system : System) (kind : Task → Prop) (id : UInt32) : Prop :=
  ∃ task, (id, task) ∈ system.tasks.entries ∧ kind task

/-- What is registered after a step was registered before, or is what the step's notice asks
for; what the notice drops is gone. -/
theorem registered_step (tidy : system.Tidy)
    (transition : system.step label = some (next, emitted)) {kind alone : Task → Prop}
    (asks : ∀ task, kind task → task.data ≠ .pushManager → alone task)
    {id : UInt32} (registered : next.Registered kind id) :
    Notice.leftOpen alone (·.taskId) (system.Registered kind) (system.told label) id := by
  obtain ⟨task, member, isKind⟩ := registered
  rcases tasks_step transition (id, task) member with ⟨old, stays⟩ |
      ⟨message, asked, isNext, toLayer, payload, isTask, isNew⟩
  · have wasOpen : system.Registered kind id := ⟨task, old, isKind⟩
    cases isNext : system.nextMessage label with
    | none =>
        rw [told_of_none isNext]
        exact wasOpen
    | some message =>
        by_cases toLayer : message.phandler = some .queueLayer
        · rw [told_of_next tidy isNext toLayer]
          unfold payloadNotice
          split
          · exact .inl wasOpen
          · next gone payload => exact ⟨wasOpen, stays message gone isNext toLayer payload⟩
          · exact wasOpen
          · exact wasOpen
        · rw [told_of_elsewhere isNext toLayer]
          exact wasOpen
  · cases isNew
    rw [told_of_next tidy isNext toLayer, payload]
    exact .inr ⟨asks task isKind isTask, rfl⟩

/-- What is open after a step is what was told. -/
theorem isOpen_step (tidy : system.Tidy) (transition : system.step label = some (next, emitted))
    {id : UInt32} (isOpen : next.IsOpen id) :
    Notice.leftOpen Task.isConnect (·.taskId) system.IsOpen (system.told label) id :=
  registered_step tidy transition (fun _ isConnect _ => isConnect) isOpen

/-- A request for a task as a notice. -/
theorem notice_ask {task : Task} (lasting : task.taskId ≠ mqidDispose) :
    notice ⟨some .queueLayer, task.taskId, some (.reqTask task)⟩ = some (.ask task) := by
  simp [notice, payloadNotice, lasting]

/-- The removal of a task as a notice. -/
theorem notice_drop {task : Task} (lasting : task.taskId ≠ mqidDispose) :
    notice ⟨some .queueLayer, task.taskId, some (.removeTask task)⟩ = some (.drop task.taskId) := by
  simp [notice, payloadNotice, lasting]

/-- A notice comes behind those in the queue. -/
theorem notices_of_queue {message : SdkMessage} {told : Notice Task UInt32 Topic}
    (isNotice : notice message = some told)
    (queue : next.queueThread =
      { system.queueThread with msgq := system.queueThread.msgq ++ [message] }) :
    next.notices = system.notices ++ [told] := by
  simp [notices, queue, isNotice]

/-- A step that issues a task dispatches nothing. -/
theorem nextMessage_of_issue {task : Task} (isIssue : system.issue label = some task) :
    system.nextMessage label = none := by
  cases label <;> first | rfl | cases isIssue

/-- A call that waits for its task does so on its own thread. -/
theorem waiting_of_issue {task : Task} (isIssue : system.issue label = some task)
    (isWaited : label.waits = true) (transition : system.step label = some (next, emitted)) :
    (next.threads task.thread).activity = .waiting task := by
  cases callKind_of_step (isCall_of_issue isIssue) transition with
  | sync now isOther =>
      rw [isIssue] at isOther
      cases isOther
      simp [setThread]
  | post isOther unwaited =>
      rw [isWaited] at unwaited
      cases unwaited
  | handles isHandle => rcases isHandle with rfl | rfl <;> cases isIssue
  | _ => cases isIssue

/-- A task that connects is waited for. -/
theorem waits_of_isConnect {task : Task} (isIssue : system.issue label = some task)
    (isConnect : task.isConnect) : label.waits = true := by
  obtain ⟨address, isData⟩ := isConnect
  cases label with
  | postTask =>
      cases isIssue
      cases isData
  | _ => rfl

/-- While a connect task is open or will be, its thread waits for it. -/
theorem waited_step (opening : system.Opening) (tidy : system.Tidy)
    (lasting : ∀ thread task, (system.threads thread).activity = .waiting task →
      task.taskId ≠ mqidDispose)
    (transition : system.step label = some (next, emitted))
    {id : UInt32} (left : next.LeftOpen id) :
    (∃ task, system.issue label = some task ∧ task.isConnect ∧ task.taskId = id) ∨
      ∃ thread task, (next.threads thread).activity = .waiting task ∧ task.isConnect ∧
        task.taskId = id := by
  obtain ⟨posted, same, asks, _⟩ := notices_step tidy transition
  have leftBefore : Notice.leftOpen Task.isConnect (·.taskId) system.LeftOpen posted id := by
    have leftAfter := Notice.leftOpen_mono (fun _ => isOpen_step tidy transition) left
    rw [← Notice.leftOpen_append, ← same, Notice.leftOpen_append] at leftAfter
    exact leftAfter
  rcases Notice.open_of_leftOpen leftBefore with wasLeft | ⟨task, asked, isConnect, rfl⟩
  · refine .inr ?_
    obtain ⟨thread, task, waits, isConnect, rfl⟩ := opening.waited id wasLeft
    rcases waiting_step tidy transition waits with goesOn | removed
    · exact ⟨thread, task, goesOn, isConnect, rfl⟩
    · have notices := notices_of_queue (notice_drop (lasting thread task waits)) removed
      unfold LeftOpen at left
      rw [notices, Notice.leftOpen_append] at left
      exact absurd rfl left.2
  · exact .inl ⟨task, (asks task asked).1, isConnect, rfl⟩

/-- Connect tasks are asked for one at a time. -/
theorem serialised_step (opening : system.Opening) (tidy : system.Tidy)
    (alone : ∀ task, system.issue label = some task → task.isConnect →
      task.taskId ≠ mqidDispose ∧ ∀ id, ¬system.LeftOpen id)
    (transition : system.step label = some (next, emitted)) :
    Notice.Serialised Task.isConnect (·.taskId) system.IsOpen
      (system.told label ++ next.notices) := by
  by_cases isNew : ∃ task, system.issue label = some task ∧ task.isConnect
  · obtain ⟨task, isIssue, isConnect⟩ := isNew
    obtain ⟨lasting, nothing⟩ := alone task isIssue isConnect
    have notices := notices_of_queue (notice_ask lasting) (queue_issue tidy isIssue transition)
    rw [told_of_none (nextMessage_of_issue isIssue), notices, List.nil_append]
    exact (Notice.serialised_append _ _).mpr ⟨opening.serialised, fun _ => nothing, trivial⟩
  · obtain ⟨posted, same, asks, _⟩ := notices_step tidy transition
    rw [← same]
    refine (Notice.serialised_append _ _).mpr ⟨opening.serialised, ?_⟩
    exact Notice.serialised_of_noAsk fun task asked isConnect =>
      isNew ⟨task, (asks task asked).1, isConnect⟩

/-! ## The counters -/

/-- Connect tasks come in as they are issued and go out as they are handled. -/
theorem asked_step (tidy : system.Tidy)
    (lasting : ∀ task, system.issue label = some task → task.taskId ≠ mqidDispose)
    (transition : system.step label = some (next, emitted)) :
    (system.told label).filterMap askedConnect ++ next.asked =
      system.asked ++ ((system.issue label).bind Task.connectId).toList := by
  cases isIssue : system.issue label with
  | some task =>
      have notices := notices_of_queue (notice_ask (lasting task isIssue))
        (queue_issue tidy isIssue transition)
      rw [told_of_none (nextMessage_of_issue isIssue)]
      simp only [asked, notices, List.filterMap_append, List.filterMap_nil, List.nil_append,
        Option.bind_some, List.filterMap_cons, askedConnect]
      cases task.connectId <;> rfl
  | none =>
      obtain ⟨posted, same, asks, _⟩ := notices_step tidy transition
      have none : posted.filterMap askedConnect = [] := by
        refine List.filterMap_eq_nil_iff.mpr fun notice member => ?_
        cases notice with
        | ask task =>
            have isNew := (asks task member).1
            rw [isIssue] at isNew
            cases isNew
        | drop | reply => rfl
      have filtered := congrArg (List.filterMap askedConnect) same
      simp only [List.filterMap_append, none, List.append_nil] at filtered
      simp only [asked, Option.bind_none, Option.toList_none, List.append_nil]
      exact filtered.symm

/-- The asynchronous thread keeps nothing delayed but timers and reconnect messages. -/
theorem async_opening (opening : system.Opening)
    (transition : system.step label = some (next, emitted)) : TidyAsync next.asyncThread := by
  have taken : TidyAsync (system.taken label).asyncThread := by
    unfold System.taken
    split
    · exact opening.async
    · next now _ =>
        obtain ⟨ready, left, perm, after, _⟩ := MessageQueue.getPass_unpeeked system.asyncThread
          now .zero opening.async.unpeeked
        refine ⟨(MessageQueue.fStop_getPass _ _ _).trans opening.async.running, ?_, ?_⟩
        · rw [after]
          exact opening.async.unpeeked
        · rw [after]
          exact fun delayed member =>
            opening.async.delayed delayed (perm.subset (List.mem_append_right _ member))
    · exact opening.async
  refine (async_step transition).tidy ?_ taken
  intro message member
  obtain ⟨handled, sessionId, address, _, _, payload, same⟩ := mem_reposts member
  exact ⟨sessionId, address, same.trans payload⟩

/-- Nothing but reconnect messages waits for the manager on the queue thread. -/
theorem onQueue_opening (opening : system.Opening) (tidy : system.Tidy)
    (transition : system.step label = some (next, emitted)) :
    ∀ message ∈ next.queueThread.contents, message.phandler = some .sessionManager →
      Reconnects message := by
  intro message member toManager
  rcases mem_queue_step tidy transition member with old | posted | ⟨_, _, _, _, rfl⟩
  · exact opening.onQueue message old toManager
  · cases posted with
    | handOver => exact ⟨_, _, rfl⟩
    | _ => cases toManager
  · cases toManager

end System

/-! ## Every step -/

section Step

variable {watched next : System × IdRecord} {label : SystemLabel} {emitted : List SystemOutput}

/-- No issued task has the id that asks for a disposal. -/
theorem TaskIds.lasting (ids : TaskIds watched) {task : Task} (issued : task ∈ watched.2.issued) :
    task.taskId ≠ mqidDispose := by
  have upper := (ids.ids task issued).2
  have counter := ids.counter
  have bound := ids.bound
  intro dispose
  rw [dispose] at upper
  have value : mqidDispose.toNat = 2 ^ 32 - 2 := by decide
  omega

/-- Nor has the task that is issued next. -/
theorem TaskIds.lasting_issue (ids : TaskIds watched) (serialised : OpensSerialised watched label)
    {task : Task} (isIssue : watched.1.issue label = some task) : task.taskId ≠ mqidDispose := by
  have few := serialised.1 (by simp [isIssue])
  have isAbove := (ids.of_issued (ids.noWrap serialised) isIssue).1
  have counter := ids.counter
  intro dispose
  rw [dispose] at isAbove
  have value : mqidDispose.toNat = 2 ^ 32 - 2 := by decide
  omega

/-- A connect call is made only when no connect task is open or will be. -/
theorem alone_of_serialised (ids : TaskIds watched) (opening : watched.1.Opening)
    (serialised : OpensSerialised watched label) {task : Task}
    (isIssue : watched.1.issue label = some task) (isConnect : task.isConnect) :
    task.taskId ≠ mqidDispose ∧ ∀ id, ¬watched.1.LeftOpen id := by
  refine ⟨ids.lasting_issue serialised isIssue, fun id left => ?_⟩
  obtain ⟨thread, other, waits, isOther, _⟩ := opening.waited id left
  have noneOpening : watched.1.NoneOpening := by
    have given := serialised.2
    obtain ⟨address, isData⟩ := isConnect
    cases label with
    | connect => exact given
    | disconnect | request | postTask =>
        cases isIssue
        cases isData
    | _ => cases isIssue
  exact (noneOpening thread).1 other waits isOther

/-- The session that a turn makes is made for a connect message that was sent. -/
theorem connects_eq (ids : TaskIds watched) (sessions : SessionIds watched) :
    (watched.1.nextMessage label).bind sentConnect = watched.1.connects label := by
  cases isNext : watched.1.nextMessage label with
  | none => simp [System.connects, isNext]
  | some message =>
      simp only [System.connects, isNext, Option.bind_some, sentConnect]
      split
      · next dispose =>
          cases isConnect : System.connectMessage message with
          | none => rfl
          | some id =>
              have connects : watched.1.connects label = some id := by
                simp [System.connects, isNext, isConnect]
              obtain ⟨other, _, _, isOther, toManager, payload, _⟩ :=
                SessionIds.connects_eq_some connects
              rw [isNext] at isOther
              cases isOther
              obtain ⟨task, issued, _, isId⟩ :=
                connect_of_fit (sessions.fit_of_next isNext toManager) payload
              exact absurd (isId.trans dispose) (ids.lasting issued)
      · rfl

/-- The sessions made and to be made, with the ids of the tasks they are made for. -/
theorem pipeline_step (ids : TaskIds watched) (sessions : SessionIds watched)
    (opening : watched.1.Opening) (tidy : watched.1.Tidy)
    (serialised : OpensSerialised watched label)
    (stepped : watched.1.step label = some (next.1, emitted)) :
    next.1.sessionCounter.toNat + next.1.sent.length =
        watched.1.sessionCounter.toNat + watched.1.sent.length +
          ((watched.1.told label).filterMap askedConnect).length ∧
      (watched.1.told label).filterMap askedConnect ++ next.1.asked =
        watched.1.asked ++ ((watched.1.issue label).bind Task.connectId).toList := by
  have asksLast : watched.1.AsksLast := by
    intro message member task payload isConnect
    refine ids.lasting ((ids.asked message member task).1 payload ?_)
    obtain ⟨address, isData⟩ := isConnect
    simp [isData]
  refine ⟨?_, System.asked_step tidy (fun _ => ids.lasting_issue serialised) stepped⟩
  have lengths := congrArg List.length (System.sent_step opening tidy asksLast stepped)
  rw [connects_eq ids sessions, List.length_append, List.length_append] at lengths
  have counter := System.sessionCounter_step stepped fun message sessionId address isNext toManager
    payload => sessions.nonzero (knows_of_fit (sessions.fit_of_next isNext toManager) payload)
  have room : watched.1.sessionCounter.toNat + 1 < 2 ^ 32 := by
    have total := opening.total
    have tasks := ids.counter
    have bound := ids.bound
    omega
  cases isConnect : watched.1.connects label with
  | none =>
      simp only [isConnect, Option.toList_none, List.length_nil, Option.isSome_none,
        Bool.false_eq_true, if_false, UInt32.add_zero] at lengths counter
      rw [counter]
      omega
  | some id =>
      simp only [isConnect, Option.toList_some, List.length_singleton, Option.isSome_some,
        if_true] at lengths counter
      rw [counter, toNat_succ room]
      omega

/-- A task that a call asks for is above all sessions made and to be made. -/
theorem ahead_issue (ids : TaskIds watched) (opening : watched.1.Opening)
    (serialised : OpensSerialised watched label)
    (stepped : watched.1.step label = some (next.1, emitted)) :
    let issued := ((watched.1.issue label).bind Task.connectId).toList
    Ahead (watched.1.sessionCounter.toNat + watched.1.sent.length + watched.1.asked.length) issued ∧
      watched.1.taskCounter.toNat + issued.length ≤ next.1.taskCounter.toNat := by
  have counter := (System.taskCounter_step stepped).1
  have total := opening.total
  cases isIssue : watched.1.issue label with
  | none =>
      simp only [isIssue, Option.isSome_none, Bool.false_eq_true, if_false, UInt32.add_zero] at counter
      rw [counter]
      exact ⟨trivial, Nat.le_refl _⟩
  | some task =>
      have isId := (System.taskId_of_issue isIssue).1
      have isAbove := (ids.of_issued (ids.noWrap serialised) isIssue).1
      simp only [isIssue, Option.isSome_some, if_true, ← isId] at counter
      simp only [Option.bind_some]
      rw [counter]
      cases isConnect : task.connectId with
      | none => exact ⟨trivial, by simp only [Option.toList_none, List.length_nil]; omega⟩
      | some id =>
          rw [(Task.isConnect_of_connectId isConnect).2]
          simp only [Option.toList_some, List.length_singleton]
          exact ⟨⟨by omega, trivial⟩, by omega⟩

/-- Connect tasks that are registered are above all sessions made and to be made: while one
is registered, no other one is. -/
theorem registered_opening (opening : watched.1.Opening) (tidy : watched.1.Tidy)
    (stepped : watched.1.step label = some (next.1, emitted))
    (made : next.1.sessionCounter.toNat + next.1.sent.length =
      watched.1.sessionCounter.toNat + watched.1.sent.length +
        ((watched.1.told label).filterMap askedConnect).length)
    (ahead : Ahead (watched.1.sessionCounter.toNat + watched.1.sent.length)
      ((watched.1.told label).filterMap askedConnect))
    (alone : Notice.Serialised Task.isConnect (·.taskId) watched.1.IsOpen (watched.1.told label)) :
    ∀ entry ∈ next.1.tasks.entries, entry.2.isConnect →
      next.1.sessionCounter.toNat + next.1.sent.length < entry.2.taskId.toNat := by
  intro entry member isConnect
  rw [made]
  rcases System.tasks_step stepped entry member with ⟨old, _⟩ |
      ⟨message, task, isNext, toLayer, payload, _, rfl⟩
  · have before := opening.registered entry old isConnect
    have none : (watched.1.told label).filterMap askedConnect = [] := by
      cases isNext : watched.1.nextMessage label with
      | none => rw [System.told_of_none isNext]; rfl
      | some message =>
          by_cases toLayer : message.phandler = some .queueLayer
          · rw [System.told_of_next tidy isNext toLayer] at alone ⊢
            cases isNotice : payloadNotice message.pdata with
            | none => rfl
            | some told =>
                cases told with
                | drop | reply => rfl
                | ask task =>
                    rw [isNotice] at alone
                    have isOther : ¬task.isConnect := fun isTask =>
                      alone.1 isTask entry.1 ⟨entry.2, old, isConnect⟩
                    cases isId : task.connectId with
                    | none => simp [askedConnect, isId]
                    | some id => exact absurd (Task.isConnect_of_connectId isId).1 isOther
          · rw [System.told_of_elsewhere isNext toLayer]; rfl
    rw [none]
    exact before
  · have told : (watched.1.told label).filterMap askedConnect = [task.taskId] := by
      rw [System.told_of_next tidy isNext toLayer, payload]
      simp [payloadNotice, askedConnect, Task.connectId_of_isConnect isConnect]
    rw [told] at ahead ⊢
    exact ahead.1

/-- Every step keeps the sessions in the order of their connect tasks. -/
theorem Opening.step (ids : TaskIds watched) (sessions : SessionIds watched)
    (opening : watched.1.Opening) (tidy : watched.1.Tidy)
    (serialised : OpensSerialised watched label)
    (stepped : watched.1.step label = some (next.1, emitted)) : next.1.Opening := by
  obtain ⟨made, asked⟩ := pipeline_step ids sessions opening tidy serialised stepped
  obtain ⟨aheadNew, counter⟩ := ahead_issue ids opening serialised stepped
  have ahead : Ahead (watched.1.sessionCounter.toNat + watched.1.sent.length)
      ((watched.1.told label).filterMap askedConnect ++ next.1.asked) := by
    rw [asked]
    exact ahead_append.mpr ⟨opening.ahead, aheadNew⟩
  have aheadLeft := (ahead_append.mp ahead).2
  rw [← made] at aheadLeft
  have alone := (Notice.serialised_append _ _).mp (System.serialised_step opening tidy
    (fun _ => alone_of_serialised ids opening serialised) stepped)
  refine ⟨System.async_opening opening stepped, System.onQueue_opening opening tidy stepped,
    aheadLeft, ?_, ?_, ?_, ?_⟩
  · have total := opening.total
    have lengths := congrArg List.length asked
    rw [List.length_append, List.length_append] at lengths
    omega
  · exact registered_opening opening tidy stepped made (ahead_append.mp ahead).1 alone.1
  · exact Notice.serialised_mono (fun _ => System.isOpen_step tidy stepped) alone.2
  · intro id left
    rcases System.waited_step opening tidy (fun thread task waits =>
      ids.lasting (ids.waiting thread task waits)) stepped left with
        ⟨task, isIssue, isConnect, isId⟩ | waits
    · have waits := System.waiting_of_issue isIssue
        (System.waits_of_isConnect isIssue isConnect) stepped
      exact ⟨task.thread, task, waits, isConnect, isId⟩
    · exact waits

end Step

end VzSdk.Sdk
