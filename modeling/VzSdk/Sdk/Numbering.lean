import VzSdk.Sdk.Posts

/-!
# Task ids, session ids and message ids

Task ids and session ids come from two counters and meet as ids of messages on
the queue thread: the manager answers a task under the task's id, a session made
for a connect message signals under the id of the message, and a session that was
reconnected, and the resume timer, under the session's id. What keeps them apart
is that a session's id is below the id of every task that could take its messages.
`ids_sound` says so for every run in which devices are opened one at a time.
-/

namespace VzSdk.Sdk

open VzSdk.Base VzSdk.Event VzSdk.Std

/-! ## The record of a run -/

/-- A session that the manager made for a connect message. -/
structure MadeSession where
  serial : Nat
  sessionId : UInt32
  messageId : UInt32
deriving DecidableEq

/-- Why the manager posted a stanza. -/
inductive Cause where
  /-- It handled the message. -/
  | handled (message : SdkMessage)
  /-- The session object signalled. -/
  | signalled (serial : Nat)

/-- The manager's stanza in a message of the queue thread, with its id. -/
def managerPost (message : SdkMessage) : Option (UInt32 × Stanza) :=
  match message.pdata with
  | some (.plain type sessionId) =>
      if message.phandler = some .queueLayer ∧ message.messageId ≠ mqidDispose ∧
          type ≠ .resumeTask then
        some (message.messageId, .plain type sessionId)
      else none
  | _ => none

/-- For the proofs only: the tasks and sessions made so far, and the cause of every stanza of
the manager that waits on the queue thread, in their order. -/
structure IdRecord where
  issued : List Task
  made : List MadeSession
  causes : List Cause

namespace System

/-- The manager's stanzas on the queue thread's ready list. -/
def managerPosts (system : System) : List (UInt32 × Stanza) :=
  system.queueThread.msgq.filterMap managerPost

/-- The session that the label has the manager make. -/
def makes (system : System) (label : SystemLabel) : Option MadeSession :=
  (system.connects label).map fun messageId =>
    ⟨system.serials, system.sessionCounter + 1, messageId⟩

/-- Why the label has the manager post. -/
def cause (system : System) (label : SystemLabel) : Cause :=
  match system.nextMessage label, label.eventSerial with
  | some message, _ =>
      match message.phandler with
      | some (.session serial) => .signalled serial
      | _ => .handled message
  | none, some serial => .signalled serial
  | none, none => .handled .zero

end System

namespace IdRecord

/-- Nothing was issued or made. -/
def start : IdRecord := ⟨[], [], []⟩

/-- What a step adds to the record. -/
def note (record : IdRecord) (system : System) (label : SystemLabel) (next : System) : IdRecord :=
  let left := record.causes.drop ((system.nextMessage label).bind managerPost).toList.length
  { issued := (system.issue label).toList ++ record.issued
    made := (system.makes label).toList ++ record.made
    causes := left ++ List.replicate (next.managerPosts.length - left.length) (system.cause label) }

/-- The session was made. -/
def Knows (record : IdRecord) (sessionId : UInt32) : Prop :=
  ∃ made ∈ record.made, made.sessionId = sessionId

end IdRecord

/-- `sdkMachine` with the record of ids. -/
def numberedMachine : Machine (System × IdRecord) SystemLabel SystemOutput :=
  sdkMachine.watch IdRecord.note

namespace Task

/-- The task is a connect. -/
def isConnect (task : Task) : Prop := ∃ address, task.data = .connect address

/-- The caller of the task reads a `ResponseData`. -/
def readsResponse (task : Task) : Prop :=
  ∃ kind sessionId reqJson, task.data = .request kind sessionId reqJson ∧ kind ≠ .push

/-- The session of the task, if it is about one. -/
def session (task : Task) : Option UInt32 :=
  match task.data with
  | .disconnect sessionId => some sessionId
  | .request _ sessionId _ => some sessionId
  | _ => none

end Task

/-! ## The conditions and the properties -/

/-- No device is being opened: `scoped_lock` is free. -/
def System.NoneOpening (system : System) : Prop :=
  ∀ thread, (∀ task, (system.threads thread).activity = .waiting task → ¬task.isConnect) ∧
    ∀ address msg, (system.threads thread).activity ≠ .connecting address msg

/-- Devices are opened one at a time, requests are made on sessions that were opened, and
there are fewer than `2 ^ 31` tasks. -/
def OpensSerialised (watched : System × IdRecord) (label : SystemLabel) : Prop :=
  ((watched.1.issue label).isSome = true → watched.2.issued.length + 1 < 2 ^ 31) ∧
    match label with
    | .connect _ _ _ _ => watched.1.NoneOpening
    | .disconnect _ sessionId _ _ => watched.2.Knows sessionId
    | .request _ _ sessionId _ _ _ => watched.2.Knows sessionId
    | .postTask sessionId _ _ => watched.2.Knows sessionId
    | .resume sessionId _ _ => watched.2.Knows sessionId
    | _ => True

/-- A request that gives up was not left with a message that is no answer. -/
def GivesUpClean (system : System) : SystemLabel → Prop
  | .wait thread (.check now) => ∀ task, (system.threads thread).activity = .waiting task →
      task.readsResponse → timeUntil now (system.threads thread).wait.msEnd < 0 →
        let msg := (system.threads thread).wait.msg
        msg.phandler = none ∨ msg.messageId = task.taskId ∨
          ∃ stanza, msg.pdata = some stanza ∧ stanza.isResponse = true
  | _ => True

/-- The manager posted the next of its stanzas for the task: because of a signal of the
session that was made for a connect task, or in reply to the message of another one. -/
def PostedFor (record : IdRecord) (task : Task) (stanza : Stanza) : Prop :=
  (task.isConnect ∧ ∃ serial, record.causes.head? = some (.signalled serial) ∧
      ⟨serial, stanza.sessionId, task.taskId⟩ ∈ record.made) ∨
    (¬task.isConnect ∧ ∃ message, record.causes.head? = some (.handled message) ∧
      message.messageId = task.taskId ∧ message.pdata = task.messageData)

/-! ## Tasks -/

/-- The next number, while there is room. -/
theorem toNat_succ {counter : UInt32} (room : counter.toNat + 1 < 2 ^ 32) :
    (counter + 1).toNat = counter.toNat + 1 := by
  rw [UInt32.toNat_add]
  exact Nat.mod_eq_of_lt room

/-- The tasks in the system are those that were issued, and their ids tell them apart. -/
structure IssuedIds (watched : System × IdRecord) : Prop where
  counter : watched.1.taskCounter.toNat = 2 + watched.2.issued.length
  pushId : watched.1.pushManager.taskId = 2
  ids : ∀ task ∈ watched.2.issued,
    2 < task.taskId.toNat ∧ task.taskId.toNat ≤ watched.1.taskCounter.toNat
  distinct : ∀ first ∈ watched.2.issued, ∀ second ∈ watched.2.issued,
    first.taskId = second.taskId → first = second
  kinds : ∀ task ∈ watched.2.issued, task.data ≠ .pushManager
  registered : ∀ entry ∈ watched.1.tasks.entries, entry.2 ∈ watched.2.issued
  waiting : ∀ thread task, (watched.1.threads thread).activity = .waiting task →
    task ∈ watched.2.issued
  asked : ∀ message ∈ watched.1.queueThread.contents, ∀ task,
    (message.pdata = some (.reqTask task) → task.data ≠ .pushManager → task ∈ watched.2.issued) ∧
      (message.pdata = some (.removeTask task) → task ∈ watched.2.issued)

/-- There are few tasks, and a task about a session is younger than the session. -/
structure TaskIds (watched : System × IdRecord) : Prop extends IssuedIds watched where
  bound : watched.2.issued.length < 2 ^ 31
  aboveSession : ∀ task ∈ watched.2.issued, ∀ sessionId, task.session = some sessionId →
    sessionId.toNat < task.taskId.toNat

/-- The task counter does not wrap. -/
def NoWrap (system : System) (label : SystemLabel) : Prop :=
  (system.issue label).isSome = true → system.taskCounter.toNat + 1 < 2 ^ 32

section Step

variable {watched next : System × IdRecord} {label : SystemLabel} {emitted : List SystemOutput}

/-- A task about a session knows its id. -/
theorem issue_session {system : System} {task : Task} (isIssue : system.issue label = some task)
    {sessionId : UInt32} (about : task.session = some sessionId) {record : IdRecord}
    (serialised : OpensSerialised (system, record) label) : record.Knows sessionId := by
  have given := serialised.2
  cases label with
  | connect =>
      cases isIssue
      cases about
  | disconnect | request | postTask =>
      cases isIssue
      cases about
      exact given
  | _ => cases isIssue

/-- A task that is issued has an id above all others. -/
theorem IssuedIds.of_issued (ids : IssuedIds watched) (room : NoWrap watched.1 label) {task : Task}
    (isIssue : watched.1.issue label = some task) :
    task.taskId.toNat = watched.1.taskCounter.toNat + 1 ∧
      ∀ other ∈ watched.2.issued, other.taskId ≠ task.taskId := by
  have isAbove : task.taskId.toNat = watched.1.taskCounter.toNat + 1 := by
    rw [(System.taskId_of_issue isIssue).1]
    exact toNat_succ (room (by simp [isIssue]))
  refine ⟨isAbove, fun other member same => ?_⟩
  have old : other.taskId.toNat ≤ watched.1.taskCounter.toNat := (ids.ids other member).2
  rw [same, isAbove] at old
  omega

/-- The record notes the task that was issued. -/
theorem issued_eq (noted : next.2 = watched.2.note watched.1 label next.1) :
    next.2.issued = (watched.1.issue label).toList ++ watched.2.issued := by
  rw [noted]
  rfl

/-- Every task that the system names after a step was issued, before it or by it. -/
theorem IssuedIds.named_step (ids : IssuedIds watched) (tidy : watched.1.Tidy)
    (transition : numberedMachine.step watched label = some (next, emitted)) :
    (∀ entry ∈ next.1.tasks.entries, entry.2 ∈ next.2.issued) ∧
      (∀ thread task, (next.1.threads thread).activity = .waiting task →
        task ∈ next.2.issued) ∧
      ∀ message ∈ next.1.queueThread.contents, ∀ task,
        (message.pdata = some (.reqTask task) → task.data ≠ .pushManager →
          task ∈ next.2.issued) ∧
        (message.pdata = some (.removeTask task) → task ∈ next.2.issued) := by
  obtain ⟨stepped, noted⟩ := Machine.step_of_watch transition
  have issued := issued_eq noted
  have stays {task : Task} (member : task ∈ watched.2.issued) : task ∈ next.2.issued := by
    rw [issued]
    exact List.mem_append_right _ member
  have isNew {task : Task} (isIssue : watched.1.issue label = some task) :
      task ∈ next.2.issued := by
    rw [issued, isIssue]
    exact List.mem_cons_self
  refine ⟨fun entry member => ?_, fun thread task waits => ?_, fun message member task => ?_⟩
  · rcases System.tasks_step stepped entry member with ⟨old, _⟩ |
        ⟨message, task, isNext, toLayer, payload, isTask, rfl⟩
    · exact stays (ids.registered entry old)
    · exact stays ((ids.asked message (System.mem_queue_of_next tidy isNext toLayer) task).1
        payload isTask)
  · rcases (System.threads_step stepped).waiting waits with old | ⟨isIssue, _⟩
    · exact stays (ids.waiting thread task old)
    · exact isNew isIssue
  · rcases System.mem_queue_step tidy stepped member with old | posted | ⟨_, _, _, _, rfl⟩
    · exact ⟨fun payload isTask => stays ((ids.asked message old task).1 payload isTask),
        fun payload => stays ((ids.asked message old task).2 payload)⟩
    · refine ⟨fun payload _ => isNew (posted.task.1 payload), fun payload => ?_⟩
      obtain ⟨thread, _, _, waits⟩ := posted.task.2 payload
      exact stays (ids.waiting thread task waits)
    · exact ⟨fun payload => (by cases payload), fun payload => by cases payload⟩

/-- A task with an id of its own can join the issued ones. -/
theorem IssuedIds.distinct_cons (ids : IssuedIds watched) {task : Task}
    (fresh : ∀ other ∈ watched.2.issued, other.taskId ≠ task.taskId) :
    ∀ first ∈ task :: watched.2.issued, ∀ second ∈ task :: watched.2.issued,
      first.taskId = second.taskId → first = second := by
  intro first isFirst second isSecond same
  rcases List.mem_cons.mp isFirst with rfl | wasFirst
  · rcases List.mem_cons.mp isSecond with rfl | wasSecond
    · rfl
    · exact absurd same.symm (fresh second wasSecond)
  · rcases List.mem_cons.mp isSecond with rfl | wasSecond
    · exact absurd same (fresh first wasFirst)
    · exact ids.distinct first wasFirst second wasSecond same

/-- A step keeps the ids of the issued tasks apart. -/
theorem IssuedIds.step (ids : IssuedIds watched) (tidy : watched.1.Tidy)
    (room : NoWrap watched.1 label)
    (transition : numberedMachine.step watched label = some (next, emitted)) : IssuedIds next := by
  obtain ⟨stepped, noted⟩ := Machine.step_of_watch transition
  obtain ⟨registered, waiting, asked⟩ := ids.named_step tidy transition
  obtain ⟨counter, pushId⟩ := System.taskCounter_step stepped
  have issued := issued_eq noted
  have old := ids.counter
  cases isIssue : watched.1.issue label with
  | none =>
      have same : next.2.issued = watched.2.issued := by simp [issued, isIssue]
      have sameCounter : next.1.taskCounter = watched.1.taskCounter := by simp [counter, isIssue]
      refine ⟨?_, pushId.trans ids.pushId, ?_, ?_, ?_, registered, waiting, asked⟩
      · rw [same, sameCounter, old]
      · rw [same, sameCounter]
        exact ids.ids
      · rw [same]
        exact ids.distinct
      · rw [same]
        exact ids.kinds
  | some task =>
      obtain ⟨isId, isTask⟩ := System.taskId_of_issue isIssue
      obtain ⟨isAbove, fresh⟩ := ids.of_issued room isIssue
      have grown : next.2.issued = task :: watched.2.issued := by simp [issued, isIssue]
      have newCounter : next.1.taskCounter = task.taskId := by simp [counter, isIssue, isId]
      refine ⟨?_, pushId.trans ids.pushId, ?_, ?_, ?_, registered, waiting, asked⟩
      · rw [newCounter, isAbove, grown, List.length_cons]
        omega
      · rw [grown, newCounter, isAbove]
        intro other member
        rcases List.mem_cons.mp member with rfl | member
        · omega
        · have above := ids.ids other member
          omega
      · rw [grown]
        exact ids.distinct_cons fresh
      · rw [grown]
        exact List.forall_mem_cons.mpr ⟨isTask, ids.kinds⟩

/-- Messages of tasks on threads are about tasks that were made, and fit the task. -/
def Holds (fits : Task → Option Stanza → Prop) (watched : System × IdRecord) : Prop :=
  ∀ thread message, watched.1.Has thread message → message.phandler ≠ none →
    message.messageId.toNat ≤ watched.1.taskCounter.toNat ∧
      ∀ task ∈ watched.2.issued, task.taskId = message.messageId → fits task message.pdata

/-- What threads hold fits, if what tasks take does. -/
theorem Holds.step {fits : Task → Option Stanza → Prop} (holds : Holds fits watched)
    (ids : IssuedIds watched) (idsNext : IssuedIds next) (room : NoWrap watched.1 label)
    (transition : numberedMachine.step watched label = some (next, emitted))
    (takes : ∀ {message stanza task}, watched.1.nextMessage label = some message →
      message.phandler = some .queueLayer → message.pdata = some stanza → stanza.routed = true →
        taker message.messageId stanza watched.1.tasks.entries = .task task →
          fits task (some stanza)) : Holds fits next := by
  obtain ⟨stepped, noted⟩ := Machine.step_of_watch transition
  have issued := issued_eq noted
  have grows : watched.1.taskCounter.toNat ≤ next.1.taskCounter.toNat := by
    have before := ids.counter
    have after := idsNext.counter
    rw [issued, List.length_append] at after
    omega
  intro thread message held isTask
  rcases (System.threads_step stepped).has held with old | rfl | routes
  · obtain ⟨bound, fitting⟩ := holds thread message old isTask
    refine ⟨Nat.le_trans bound grows, fun task member isId => ?_⟩
    rw [issued] at member
    rcases List.mem_append.mp member with isNew | wasIssued
    · have isAbove := (ids.of_issued room (Option.mem_toList.mp isNew)).1
      rw [isId] at isAbove
      omega
    · exact fitting task wasIssued isId
  · exact absurd rfl isTask
  · cases routes with
    | @toTask _ _ task isNext toLayer payload isRouted isTaken =>
        obtain ⟨key, member, _⟩ := mem_of_taker isTaken
        have wasIssued := ids.registered (key, task) member
        refine ⟨Nat.le_trans (ids.ids task wasIssued).2 grows, fun other isOther isId => ?_⟩
        have same : other = task := idsNext.distinct other isOther task
          (issued ▸ List.mem_append_right _ wasIssued) isId
        rw [same]
        exact takes isNext toLayer payload isRouted isTaken
    | toPush =>
        have counter := idsNext.counter
        have isPush : watched.1.pushManager.taskId = 2 := ids.pushId
        refine ⟨?_, fun other isOther isId => ?_⟩
        · rw [isPush, counter]
          exact Nat.le_add_right 2 _
        · have above := (idsNext.ids other isOther).1
          simp only [isId, isPush] at above
          exact absurd above (by decide)

/-- Nothing is waited for at first. -/
theorem holds_start (fits : Task → Option Stanza → Prop) (pushThread : Nat) :
    Holds fits (System.start pushThread, .start) := by
  rintro thread message (queued | isLast) isTask
  · exact absurd queued (by simp [System.start, MessageQueue.new, MessageQueue.contents])
  · rw [isLast] at isTask
    exact absurd rfl isTask

/-- Nothing was issued at first. -/
theorem issuedIds_start (pushThread : Nat) : IssuedIds (System.start pushThread, .start) := by
  refine ⟨rfl, rfl, ?_, ?_, ?_, ?_, ?_, ?_⟩
  · exact fun _ member => absurd member List.not_mem_nil
  · exact fun _ member => absurd member List.not_mem_nil
  · exact fun _ member => absurd member List.not_mem_nil
  · exact fun _ member => absurd member List.not_mem_nil
  · intro thread task waits
    cases waits
  · intro message member task
    obtain rfl : message = _ := by
      simpa [System.start, MessageQueue.post, MessageQueue.new, MessageQueue.contents] using member
    refine ⟨?_, by simp⟩
    rintro ⟨⟩ isTask
    exact absurd rfl isTask

/-- The counter does not wrap while the opens are serialised. -/
theorem TaskIds.noWrap (ids : TaskIds watched) (serialised : OpensSerialised watched label) :
    NoWrap watched.1 label := by
  intro issues
  have counter := ids.counter
  have room := serialised.1 issues
  omega

/-- A step keeps the ids of the tasks apart. -/
theorem TaskIds.step (ids : TaskIds watched) (tidy : watched.1.Tidy)
    (below : ∀ sessionId, watched.2.Knows sessionId →
      sessionId.toNat < watched.1.taskCounter.toNat)
    (serialised : OpensSerialised watched label)
    (transition : numberedMachine.step watched label = some (next, emitted)) : TaskIds next := by
  have room := ids.noWrap serialised
  have issued := issued_eq (Machine.step_of_watch transition).2
  refine ⟨ids.toIssuedIds.step tidy room transition, ?_, ?_⟩
  · have bound := ids.bound
    rw [issued, List.length_append]
    cases isIssue : watched.1.issue label with
    | none => simpa using bound
    | some task =>
        have few := serialised.1 (by simp [isIssue])
        simp only [Option.toList_some, List.length_singleton]
        omega
  · rw [issued]
    intro task member sessionId about
    rcases List.mem_append.mp member with isNew | old
    · have isIssue := Option.mem_toList.mp isNew
      have isAbove := (ids.of_issued room isIssue).1
      have known := below sessionId (issue_session isIssue about serialised)
      omega
    · exact ids.aboveSession task old sessionId about

end Step

/-! ## Sessions -/

/-- A message for the manager: a reconnect message of a session that was made, or the
message of a task. -/
def ManagerFit (record : IdRecord) (message : SdkMessage) : Prop :=
  (∃ sessionId address, message.pdata = some (.connectData true sessionId address) ∧
      record.Knows sessionId) ∨
    ∃ task ∈ record.issued, message.messageId = task.taskId ∧ message.pdata = task.messageData

/-- The stanza was posted for the cause. -/
def Justified (record : IdRecord) (post : UInt32 × Stanza) : Cause → Prop
  | .handled message => System.Replies message post ∧
      ∃ task ∈ record.issued, message.messageId = task.taskId ∧ message.pdata = task.messageData
  | .signalled serial =>
      (∃ type sessionId, post.2 = .plain type sessionId ∧
        (type = .connected ∨ type = .removeSession ∨ type = .disconnectedFailure)) ∧
      (⟨serial, post.2.sessionId, post.1⟩ ∈ record.made ∨
        (post.1 = post.2.sessionId ∧ record.Knows post.2.sessionId))

/-- Sessions and messages name sessions that were made, and the causes are in step with the
manager's stanzas on the queue thread. -/
structure SessionIds (watched : System × IdRecord) : Prop where
  counter : watched.1.sessionCounter.toNat = 1 + watched.2.made.length
  ids : ∀ made ∈ watched.2.made, 2 ≤ made.sessionId.toNat ∧
    made.sessionId.toNat ≤ watched.1.sessionCounter.toNat ∧
      ∃ task ∈ watched.2.issued, task.isConnect ∧ task.taskId = made.messageId
  table : ∀ entry ∈ watched.1.asyncSessions.entries, watched.2.Knows entry.2.sessionId ∧
    (⟨entry.2.serial, entry.2.sessionId, entry.2.connectId⟩ ∈ watched.2.made ∨
      entry.2.connectId = entry.2.sessionId)
  reconnects : ∀ message ∈ watched.1.queueThread.contents, ∀ sessionId address,
    message.pdata = some (.connectData true sessionId address) → watched.2.Knows sessionId
  resumes : ∀ message ∈ watched.1.queueThread.contents, ∀ sessionId,
    message.pdata = some (.plain .resumeTask sessionId) →
      message.messageId = sessionId ∧ watched.2.Knows sessionId
  toManager : ∀ message ∈ watched.1.queueThread.contents ++ watched.1.asyncThread.contents,
    message.phandler = some .sessionManager → ManagerFit watched.2 message
  delayed : ∀ delayed ∈ watched.1.queueThread.dmsgq, managerPost delayed.msg = none
  aligned : watched.2.causes.length = watched.1.managerPosts.length
  causes : ∀ pair ∈ watched.1.managerPosts.zip watched.2.causes, Justified watched.2 pair.1 pair.2

/-- The record goes on growing. -/
structure IdRecord.Extends (record next : IdRecord) : Prop where
  issued : ∀ task ∈ record.issued, task ∈ next.issued
  made : ∀ made ∈ record.made, made ∈ next.made

section Extends

variable {record next : IdRecord}

/-- What was known stays known. -/
theorem IdRecord.Extends.knows (extend : record.Extends next) {sessionId : UInt32}
    (known : record.Knows sessionId) : next.Knows sessionId := by
  obtain ⟨made, member, isId⟩ := known
  exact ⟨made, extend.made made member, isId⟩

/-- A message that fits goes on fitting. -/
theorem ManagerFit.mono {message : SdkMessage} (fit : ManagerFit record message)
    (extend : record.Extends next) : ManagerFit next message := by
  rcases fit with ⟨sessionId, address, payload, known⟩ | ⟨task, member, isId, payload⟩
  · exact .inl ⟨sessionId, address, payload, extend.knows known⟩
  · exact .inr ⟨task, extend.issued task member, isId, payload⟩

/-- A post that is justified stays so. -/
theorem Justified.mono {post : UInt32 × Stanza} {cause : Cause}
    (justified : Justified record post cause) (extend : record.Extends next) :
    Justified next post cause := by
  cases cause with
  | handled message =>
      obtain ⟨replies, task, member, same⟩ := justified
      exact ⟨replies, task, extend.issued task member, same⟩
  | signalled serial =>
      obtain ⟨isPlain, made | ⟨isId, known⟩⟩ := justified
      · exact ⟨isPlain, .inl (extend.made _ made)⟩
      · exact ⟨isPlain, .inr ⟨isId, extend.knows known⟩⟩

/-- Noting a step extends the record. -/
theorem extends_note (record : IdRecord) (system : System) (label : SystemLabel) (after : System) :
    record.Extends (record.note system label after) :=
  ⟨fun _ member => List.mem_append_right _ member, fun _ member => List.mem_append_right _ member⟩

/-- A connect message comes from a connect task. -/
theorem connect_of_fit {message : SdkMessage} {sessionId : UInt32} {address : SocketAddress}
    (fit : ManagerFit record message)
    (payload : message.pdata = some (.connectData false sessionId address)) :
    ∃ task ∈ record.issued, task.isConnect ∧ task.taskId = message.messageId := by
  rcases fit with ⟨_, _, isReconnect, _⟩ | ⟨task, member, isId, isData⟩
  · rw [payload] at isReconnect
    cases isReconnect
  · rw [payload] at isData
    refine ⟨task, member, ?_, isId.symm⟩
    unfold Task.messageData at isData
    split at isData
    · next isConnect => exact ⟨_, isConnect⟩
    all_goals cases isData

/-- A reconnect message that fits is about a known session. -/
theorem knows_of_fit {message : SdkMessage} {sessionId : UInt32} {address : SocketAddress}
    (fit : ManagerFit record message)
    (payload : message.pdata = some (.connectData true sessionId address)) :
    record.Knows sessionId := by
  rcases fit with ⟨_, _, isReconnect, known⟩ | ⟨task, _, _, isData⟩
  · rw [payload] at isReconnect
    cases isReconnect
    exact known
  · rw [payload] at isData
    unfold Task.messageData at isData
    split at isData <;> cases isData

end Extends

namespace SessionIds

variable {watched next : System × IdRecord} {label : SystemLabel} {emitted : List SystemOutput}

/-- The message that is taken fits. -/
theorem fit_of_next (ids : SessionIds watched) {message : SdkMessage}
    (isNext : watched.1.nextMessage label = some message)
    (toManager : message.phandler = some .sessionManager) : ManagerFit watched.2 message :=
  ids.toManager message (System.mem_of_next isNext) toManager

/-- Known sessions have ids. -/
theorem nonzero (ids : SessionIds watched) {sessionId : UInt32}
    (known : watched.2.Knows sessionId) : sessionId ≠ 0 := by
  obtain ⟨made, member, rfl⟩ := known
  have positive := (ids.ids made member).1
  rintro isZero
  rw [isZero] at positive
  exact absurd positive (by decide)

/-- The session that is made, if one is, has the next id. -/
theorem made_eq (noted : next.2 = watched.2.note watched.1 label next.1) :
    next.2.made = ((watched.1.connects label).map fun messageId =>
      (⟨watched.1.serials, watched.1.sessionCounter + 1, messageId⟩ : MadeSession)).toList ++
        watched.2.made := by
  rw [noted]
  rfl

/-- When a step handles a connect. -/
theorem connects_eq_some {system : System} {messageId : UInt32}
    (isConnect : system.connects label = some messageId) :
    ∃ message sessionId address, system.nextMessage label = some message ∧
      message.phandler = some .sessionManager ∧
      message.pdata = some (.connectData false sessionId address) ∧
      message.messageId = messageId := by
  obtain ⟨message, isNext, connects⟩ := Option.bind_eq_some_iff.mp isConnect
  unfold System.connectMessage at connects
  split at connects
  · next toManager payload => exact ⟨message, _, _, isNext, toManager, payload, Option.some.inj connects⟩
  · cases connects

/-- The counter counts the sessions that were made. -/
theorem counter_step (ids : SessionIds watched)
    (room : watched.1.sessionCounter.toNat + 1 < 2 ^ 32)
    (stepped : watched.1.step label = some (next.1, emitted))
    (noted : next.2 = watched.2.note watched.1 label next.1) :
    next.1.sessionCounter.toNat = 1 + next.2.made.length ∧
      watched.1.sessionCounter.toNat ≤ next.1.sessionCounter.toNat := by
  have counter := System.sessionCounter_step stepped fun message sessionId address isNext toManager
    payload => ids.nonzero (knows_of_fit (ids.fit_of_next isNext toManager) payload)
  have before := ids.counter
  rw [made_eq noted]
  cases isConnect : watched.1.connects label with
  | none =>
      simp only [isConnect, Option.isSome_none, Bool.false_eq_true, if_false, UInt32.add_zero] at counter
      rw [counter]
      simp [before]
  | some messageId =>
      simp only [isConnect, Option.isSome_some, if_true] at counter
      rw [counter, toNat_succ room]
      simp only [Option.map_some, Option.toList_some, List.singleton_append, List.length_cons]
      omega

/-- The ids of the sessions are those that the counter gave. -/
theorem ids_step (ids : SessionIds watched)
    (room : watched.1.sessionCounter.toNat + 1 < 2 ^ 32)
    (stepped : watched.1.step label = some (next.1, emitted))
    (noted : next.2 = watched.2.note watched.1 label next.1) :
    ∀ made ∈ next.2.made, 2 ≤ made.sessionId.toNat ∧
      made.sessionId.toNat ≤ next.1.sessionCounter.toNat ∧
        ∃ task ∈ next.2.issued, task.isConnect ∧ task.taskId = made.messageId := by
  have extend := extends_note watched.2 watched.1 label next.1
  rw [← noted] at extend
  obtain ⟨counter, grows⟩ := ids.counter_step room stepped noted
  intro made member
  rw [made_eq noted] at member counter
  rcases List.mem_append.mp member with isNew | old
  · cases isConnect : watched.1.connects label with
    | none =>
        rw [isConnect] at isNew
        cases isNew
    | some messageId =>
        have before := ids.counter
        simp only [isConnect, Option.map_some, Option.toList_some, List.mem_singleton,
          List.singleton_append, List.length_cons] at isNew counter
        obtain ⟨message, sessionId, address, isNext, toManager, payload, rfl⟩ :=
          connects_eq_some isConnect
        obtain ⟨task, issued, isConnectTask, isId⟩ :=
          connect_of_fit (ids.fit_of_next isNext toManager) payload
        rw [isNew]
        refine ⟨?_, ?_, task, extend.issued task issued, isConnectTask, isId⟩
        · rw [toNat_succ room]
          omega
        · rw [toNat_succ room]
          omega
  · obtain ⟨lower, upper, task, issued, same⟩ := ids.ids made old
    exact ⟨lower, Nat.le_trans upper grows, task, extend.issued task issued, same⟩

/-- The sessions in the table were made or reconnected. -/
theorem table_step (ids : SessionIds watched) (tidy : watched.1.Tidy)
    (stepped : watched.1.step label = some (next.1, emitted))
    (noted : next.2 = watched.2.note watched.1 label next.1) :
    ∀ entry ∈ next.1.asyncSessions.entries, next.2.Knows entry.2.sessionId ∧
      (⟨entry.2.serial, entry.2.sessionId, entry.2.connectId⟩ ∈ next.2.made ∨
        entry.2.connectId = entry.2.sessionId) := by
  have extend := extends_note watched.2 watched.1 label next.1
  rw [← noted] at extend
  intro entry member
  rcases System.table_step tidy stepped entry member with ⟨old, was, _, same⟩ |
      ⟨message, requested, connectId, answer, isNext, toManager, opens, _, rfl⟩
  · obtain ⟨known, made | isId⟩ := ids.table old was
    · refine ⟨same.sessionId ▸ extend.knows known, .inl ?_⟩
      rw [same.serial, same.sessionId, same.connectId]
      exact extend.made _ made
    · refine ⟨same.sessionId ▸ extend.knows known, .inr ?_⟩
      rw [same.sessionId, same.connectId, isId]
  · rcases opens with ⟨sessionId, address, payload, _, rfl, rfl⟩ | ⟨_, address, payload, rfl, rfl⟩
    · have known := knows_of_fit (ids.fit_of_next isNext toManager) payload
      have isOwn : watched.1.constructedId connectId = connectId := if_neg (ids.nonzero known)
      refine ⟨?_, .inr ?_⟩
      · simpa [System.openedSession, SessionObject.start, SessionObject.new, isOwn] using
          extend.knows known
      · simp [System.openedSession, SessionObject.start, SessionObject.new, isOwn]
    · have isMade : ⟨watched.1.serials, watched.1.constructedId 0, message.messageId⟩ ∈
          next.2.made := by
        rw [made_eq noted]
        simp [System.connects, isNext, System.connectMessage, toManager, payload,
          System.constructedId]
      exact ⟨⟨_, isMade, rfl⟩, .inl isMade⟩

/-- The messages on the queue thread that are about sessions. -/
theorem queue_step (ids : SessionIds watched) (tidy : watched.1.Tidy)
    (serialised : OpensSerialised watched label)
    (stepped : watched.1.step label = some (next.1, emitted))
    (extend : watched.2.Extends next.2) : ∀ message ∈ next.1.queueThread.contents,
      (∀ sessionId address, message.pdata = some (.connectData true sessionId address) →
        next.2.Knows sessionId) ∧
      (∀ sessionId, message.pdata = some (.plain .resumeTask sessionId) →
        message.messageId = sessionId ∧ next.2.Knows sessionId) ∧
      (message.phandler = some .sessionManager → ManagerFit next.2 message) := by
  intro message member
  rcases System.mem_queue_step tidy stepped member with old | posted |
      ⟨sessionId, now, cmsDelay, rfl, rfl⟩
  · refine ⟨?_, ?_, ?_⟩
    · exact fun sessionId address payload =>
        extend.knows (ids.reconnects message old sessionId address payload)
    · intro sessionId payload
      obtain ⟨isId, known⟩ := ids.resumes message old sessionId payload
      exact ⟨isId, extend.knows known⟩
    · exact fun toManager =>
        (ids.toManager message (List.mem_append_left _ old) toManager).mono extend
  · cases posted with
    | signal found isEvent isPost =>
        rcases System.stanza_of_signal isPost with ⟨_, type, isPlain, isType⟩ |
            ⟨_, _, _, _, isResponse⟩
        · simp only [isPlain, Option.some.injEq, reduceCtorEq, false_implies, implies_true,
            true_and, and_true, Stanza.plain.injEq]
          rintro sessionId ⟨rfl, _⟩
          rcases isType with isType | isType | isType <;> cases isType
        · simp [isResponse]
    | reply isNext toManager replies =>
        obtain ⟨_, type, sessionId, isPlain, notResume⟩ := System.stanza_of_replies replies
        simp [isPlain, notResume]
    | ask | remove => simp
    | reconnect isConnect found =>
        have inTable := OrderedMap.mem_of_find? found
        have known := (ids.table _ inTable).1
        rw [tidy.sessions.keyed _ inTable] at known
        refine ⟨?_, nofun, nofun⟩
        rintro _ _ ⟨⟩
        exact extend.knows known
    | handOver isNext toLayer payload =>
        have known := ids.reconnects _ (System.mem_queue_of_next tidy isNext toLayer) _ _ payload
        refine ⟨?_, nofun, fun _ => .inl ⟨_, _, rfl, extend.knows known⟩⟩
        rintro _ _ ⟨⟩
        exact extend.knows known
  · refine ⟨nofun, ?_, nofun⟩
    rintro _ ⟨⟩
    exact ⟨rfl, extend.knows serialised.2⟩

/-- The manager's messages on the asynchronous thread. -/
theorem async_step (ids : SessionIds watched) (tasks : TaskIds watched) (tidy : watched.1.Tidy)
    (stepped : watched.1.step label = some (next.1, emitted))
    (extend : watched.2.Extends next.2) : ∀ message ∈ next.1.asyncThread.contents,
      message.phandler = some .sessionManager → ManagerFit next.2 message := by
  intro message member toManager
  rcases System.mem_async_step stepped member with old | posted | ⟨serial, rfl⟩
  · exact (ids.toManager message (List.mem_append_right _ old) toManager).mono extend
  · rcases List.mem_append.mp posted with forwarded | reposted
    · obtain ⟨asking, task, isNext, toLayer, payload, isTask, rfl⟩ := System.mem_forwards forwarded
      have issued := (tasks.asked asking (System.mem_queue_of_next tidy isNext toLayer) task).1
        payload isTask
      exact .inr ⟨task, extend.issued task issued, rfl, rfl⟩
    · obtain ⟨handled, _, _, isNext, isManager, payload, same⟩ := System.mem_reposts reposted
      have known := knows_of_fit (ids.fit_of_next isNext isManager) payload
      exact .inl ⟨_, _, same.trans payload, extend.knows known⟩
  · cases toManager

/-- The manager's posts are messages for the queue layer. -/
theorem layerKind_managerPost : System.LayerKind managerPost where
  lasting message dispose := by
    unfold managerPost
    split
    · simp [dispose]
    · rfl
  toLayer message elsewhere := by
    unfold managerPost
    split
    · simp [elsewhere]
    · rfl
  noResume sessionId := by simp [managerPost]

/-- What the manager posts in a step is posted for the step's cause. -/
theorem justified_posted (ids : SessionIds watched) (tidy : watched.1.Tidy)
    (extend : watched.2.Extends next.2)
    {message : SdkMessage} (posted : watched.1.Posted label message) {post : UInt32 × Stanza}
    (isPost : managerPost message = some post) :
    Justified next.2 post (watched.1.cause label) := by
  have isMessage : message.pdata = some post.2 ∧ message.messageId = post.1 ∧
      ∃ type sessionId, post.2 = .plain type sessionId := by
    unfold managerPost at isPost
    split at isPost
    · next type sessionId payload =>
        split at isPost
        · cases isPost
          exact ⟨payload, rfl, type, sessionId, rfl⟩
        · cases isPost
    · cases isPost
  obtain ⟨payload, isId, plainType, plainSession, isPlain⟩ := isMessage
  rw [isPlain] at payload
  cases posted with
  | @signal serial session signal signalled found isEvent isSignal =>
      obtain ⟨isSerial, inTable, _⟩ := tidy.eq_of_findSerial found
      have isCause : watched.1.cause label = .signalled serial := by
        rcases isEvent with ⟨isEvent, _⟩ | ⟨message, _, isNext, toSession, _⟩
        · simp [System.cause, isEvent,
            (System.taken_of_call watched.1 (System.turns_of_event isEvent)).2]
        · simp [System.cause, isNext, toSession]
      rw [isCause]
      rcases System.stanza_of_signal isSignal with ⟨isConnectId, type, isStanza, isType⟩ |
          ⟨_, _, _, _, isResponse⟩
      · simp only at isId payload
        rw [isStanza] at payload
        cases payload
        refine ⟨⟨_, session.sessionId, isPlain, isType⟩, ?_⟩
        obtain ⟨known, made | isOwn⟩ := ids.table _ inTable
        · refine .inl ?_
          rw [isPlain, ← isId, isConnectId, ← isSerial]
          exact extend.made _ made
        · refine .inr ?_
          rw [isPlain, ← isId, isConnectId]
          exact ⟨isOwn, extend.knows known⟩
      · simp only at payload
        rw [isResponse] at payload
        cases payload
  | @reply handled reply isNext toManager replies =>
      have isCause : watched.1.cause label = .handled handled := by
        simp [System.cause, isNext, toManager]
      have same : reply = post := by
        obtain ⟨replyId, replyStanza⟩ := reply
        obtain ⟨postId, postStanza⟩ := post
        simp only at isId payload isPlain
        cases payload
        rw [isId, isPlain]
      rw [isCause, ← same]
      refine ⟨replies, ?_⟩
      rcases ids.fit_of_next isNext toManager with ⟨sessionId, address, isReconnect, _⟩ |
          ⟨task, member, isTask⟩
      · obtain ⟨_, ⟨_, isDisconnect, _⟩ | ⟨_, _, _, _, isRequest, _⟩⟩ := replies
        · rw [isReconnect] at isDisconnect
          cases isDisconnect
        · rw [isReconnect] at isRequest
          cases isRequest
      · exact ⟨task, extend.issued task member, isTask⟩
  | ask | remove | reconnect | handOver => cases payload

/-- Replicated causes, for the stanzas of one step. -/
theorem mem_zip_replicate {posts : List (UInt32 × Stanza)} {cause : Cause} {length : Nat}
    {pair : (UInt32 × Stanza) × Cause} (member : pair ∈ posts.zip (List.replicate length cause)) :
    pair.1 ∈ posts ∧ pair.2 = cause := by
  obtain ⟨post, other⟩ := pair
  obtain ⟨isPost, isCause⟩ := List.of_mem_zip member
  exact ⟨isPost, List.eq_of_mem_replicate isCause⟩

/-- Every post of the manager goes on having its cause. -/
theorem causes_step (ids : SessionIds watched) (tidy : watched.1.Tidy)
    (stepped : watched.1.step label = some (next.1, emitted))
    (noted : next.2 = watched.2.note watched.1 label next.1) :
    (∀ delayed ∈ next.1.queueThread.dmsgq, managerPost delayed.msg = none) ∧
      next.2.causes.length = next.1.managerPosts.length ∧
      ∀ pair ∈ next.1.managerPosts.zip next.2.causes, Justified next.2 pair.1 pair.2 := by
  have extend := extends_note watched.2 watched.1 label next.1
  rw [← noted] at extend
  obtain ⟨messages, posted, ready, delayed⟩ :=
    System.ready_step tidy layerKind_managerPost ids.delayed stepped
  obtain ⟨first, _⟩ := System.ready_taken tidy layerKind_managerPost ids.delayed label
  generalize isTaken : ((watched.1.nextMessage label).bind managerPost).toList = taken
    at ready first
  generalize (watched.1.taken label).queueThread.msgq.filterMap managerPost = left at first
  have posts : next.1.managerPosts = left ++ messages.filterMap managerPost := by
    rw [first, List.append_assoc] at ready
    exact (List.append_cancel_left ready).symm
  have before : watched.1.managerPosts = taken ++ left := first
  have aligned : watched.2.causes.length = taken.length + left.length := by
    rw [ids.aligned, before, List.length_append]
  have kept : (watched.2.causes.drop taken.length).length = left.length := by
    rw [List.length_drop, aligned, Nat.add_sub_cancel_left]
  have causes : next.2.causes = watched.2.causes.drop taken.length ++
      List.replicate (messages.filterMap managerPost).length (watched.1.cause label) := by
    rw [noted]
    simp only [IdRecord.note, isTaken, kept, posts, List.length_append, Nat.add_sub_cancel_left]
  refine ⟨delayed, ?_, ?_⟩
  · rw [causes, posts, List.length_append, List.length_append, kept, List.length_replicate]
  · intro pair member
    rw [posts, causes, List.zip_append kept.symm] at member
    rcases List.mem_append.mp member with old | new
    · refine (ids.causes pair ?_).mono extend
      rw [before, ← List.take_append_drop taken.length watched.2.causes, List.zip_append]
      · exact List.mem_append_right _ old
      · rw [List.length_take, aligned]
        omega
    · obtain ⟨isPost, isCause⟩ := mem_zip_replicate new
      obtain ⟨message, isMessage, isPost⟩ := List.mem_filterMap.mp isPost
      rw [isCause]
      exact ids.justified_posted tidy extend (posted message isMessage) isPost

/-- Every step keeps the ids of sessions. -/
theorem step (ids : SessionIds watched) (tasks : TaskIds watched) (tidy : watched.1.Tidy)
    (room : watched.1.sessionCounter.toNat + 1 < 2 ^ 32)
    (serialised : OpensSerialised watched label)
    (transition : numberedMachine.step watched label = some (next, emitted)) :
    SessionIds next := by
  obtain ⟨stepped, noted⟩ := Machine.step_of_watch transition
  have extend := extends_note watched.2 watched.1 label next.1
  rw [← noted] at extend
  have queue := ids.queue_step tidy serialised stepped extend
  obtain ⟨delayed, aligned, causes⟩ := ids.causes_step tidy stepped noted
  refine ⟨(ids.counter_step room stepped noted).1, ids.ids_step room stepped noted,
    ids.table_step tidy stepped noted, ?_, ?_, ?_, delayed, aligned, causes⟩
  · exact fun message member => (queue message member).1
  · exact fun message member => (queue message member).2.1
  · intro message member
    rcases List.mem_append.mp member with onQueue | onAsync
    · exact (queue message onQueue).2.2
    · exact ids.async_step tasks tidy stepped extend message onAsync

end SessionIds

end VzSdk.Sdk
