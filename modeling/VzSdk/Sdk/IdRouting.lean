import VzSdk.Sdk.Opening
import VzSdk.Sdk.Reconnect
import VzSdk.Sdk.Routing

/-!
# Routing by message id

A task takes a stanza of the manager when the stanza's message id is its own.
`Numbered` collects what holds of ids in every run in which devices are opened
one at a time; `ids_sound` draws the consequences: such a stanza was posted for
the task, every connect message opens its session, and a caller that reads a
`ResponseData` is given one exactly when it does not give up holding something
else.
-/

namespace VzSdk.Sdk

open VzSdk.Base VzSdk.Event VzSdk.Std

/-- What a request that reads a `ResponseData` was sent is one. -/
def HoldsResponses : System × IdRecord → Prop :=
  Holds fun task pdata => task.readsResponse → ∃ stanza, pdata = some stanza ∧ stanza.isResponse = true

/-- What holds of ids in every state. -/
structure Numbered (watched : System × IdRecord) : Prop where
  tidy : watched.1.Tidy
  tasks : TaskIds watched
  sessions : SessionIds watched
  opening : watched.1.Opening
  held : HoldsResponses watched

section Step

variable {watched next : System × IdRecord} {label : SystemLabel} {emitted : List SystemOutput}

/-- The ids that are known are not above the counter. -/
theorem Numbered.known (numbered : Numbered watched) {sessionId : UInt32}
    (known : watched.2.Knows sessionId) :
    sessionId.toNat ≤ watched.1.sessionCounter.toNat := by
  obtain ⟨made, member, rfl⟩ := known
  exact (numbered.sessions.ids made member).2.1

/-- The manager's stanza that is routed next has the first of the causes. -/
theorem Numbered.cause (numbered : Numbered watched) {message : SdkMessage} {type : PlainType}
    {sessionId : UInt32} (isNext : watched.1.nextMessage label = some message)
    (toLayer : message.phandler = some .queueLayer)
    (payload : message.pdata = some (.plain type sessionId)) (notResume : type ≠ .resumeTask) :
    ∃ cause, watched.2.causes.head? = some cause ∧
      Justified watched.2 (message.messageId, .plain type sessionId) cause := by
  have isPost : managerPost message = some (message.messageId, .plain type sessionId) := by
    have lasting := System.lasting_of_next numbered.tidy isNext toLayer
    simp [managerPost, payload, toLayer, lasting, notResume]
  have first := (System.ready_taken numbered.tidy SessionIds.layerKind_managerPost
    numbered.sessions.delayed label).1
  simp only [isNext, Option.bind_some, isPost, Option.toList_some, List.singleton_append] at first
  have posts : watched.1.managerPosts = (message.messageId, .plain type sessionId) ::
      (watched.1.taken label).queueThread.msgq.filterMap managerPost := first
  cases isCauses : watched.2.causes with
  | nil =>
      have aligned := numbered.sessions.aligned
      rw [isCauses, posts] at aligned
      cases aligned
  | cons cause causes =>
      refine ⟨cause, rfl, numbered.sessions.causes (_, cause) ?_⟩
      rw [posts, isCauses]
      exact List.mem_cons_self

/-- A session signals under the id of a registered task only if it was made for the task. -/
theorem Numbered.made_of_signal (numbered : Numbered watched) {entry : UInt32 × Task}
    (registered : entry ∈ watched.1.tasks.entries) {messageId sessionId : UInt32}
    (isId : messageId = entry.2.taskId) (isOwn : messageId = sessionId)
    (known : watched.2.Knows sessionId)
    (accepts : entry.2.isConnect ∨ entry.2.session = some sessionId) : False := by
  have below := numbered.known known
  have isIssued := numbered.tasks.registered entry registered
  rcases accepts with isConnect | about
  · have above := numbered.opening.registered entry registered isConnect
    rw [← isId, isOwn] at above
    omega
  · have above := numbered.tasks.aboveSession entry.2 isIssued sessionId about
    rw [← isId, isOwn] at above
    omega

/-- What a task accepts under its id: anything if it opens a device, else stanzas of
its session. -/
theorem session_of_handleMessage {task : Task} {messageId : UInt32} {stanza : Stanza}
    (handled : task.handleMessage messageId stanza = some true)
    (notManager : task.data ≠ .pushManager) (nonzero : messageId ≠ 0) :
    task.isConnect ∨ task.session = some stanza.sessionId := by
  unfold Task.handleMessage at handled
  split at handled
  · next address isData => exact .inl ⟨address, isData⟩
  · next sessionId isData =>
      simp only [Option.some.injEq, Bool.and_eq_true, decide_eq_true_eq] at handled
      simp [Task.session, isData, handled.2]
  · next isData =>
      simp only [Option.some.injEq, Bool.and_eq_true, decide_eq_true_eq] at handled
      simp [Task.session, isData, handled.2]
  · next sessionId _ _ isData =>
      split at handled
      · next session _ _ _ =>
          rw [if_neg fun both => nonzero both.1] at handled
          simp only [Option.some.injEq, Bool.and_eq_true, decide_eq_true_eq] at handled
          simp [Task.session, isData, Stanza.sessionId, handled.2]
      · simp only [Option.some.injEq, Bool.and_eq_true, decide_eq_true_eq] at handled
        simp [Task.session, isData, handled.2]
  · next isData => exact absurd isData notManager

/-- What a task takes under its id is the manager's reply to the task's own message, or
a signal of the session made for it. -/
theorem Numbered.source (numbered : Numbered watched) {message : SdkMessage} {stanza : Stanza}
    (isNext : watched.1.nextMessage label = some message)
    (toLayer : message.phandler = some .queueLayer) (payload : message.pdata = some stanza)
    (routed : stanza.routed = true) {entry : UInt32 × Task}
    (registered : entry ∈ watched.1.tasks.entries)
    (handled : entry.2.handleMessage message.messageId stanza = some true)
    (isId : message.messageId = entry.2.taskId) :
    (∃ asking, watched.2.causes.head? = some (.handled asking) ∧
        System.Replies asking (message.messageId, stanza) ∧
        asking.messageId = entry.2.taskId ∧ asking.pdata = entry.2.messageData) ∨
      ∃ serial, watched.2.causes.head? = some (.signalled serial) ∧ entry.2.isConnect ∧
        ⟨serial, stanza.sessionId, entry.2.taskId⟩ ∈ watched.2.made := by
  have isIssued := numbered.tasks.registered entry registered
  have onQueue := System.mem_queue_of_next numbered.tidy isNext toLayer
  have nonzero : message.messageId ≠ 0 := by
    have positive := (numbered.tasks.ids entry.2 isIssued).1
    intro isZero
    rw [← isId, isZero] at positive
    exact absurd positive (by decide)
  have accepts := session_of_handleMessage handled (numbered.tasks.kinds entry.2 isIssued) nonzero
  cases stanza with
  | responseData =>
      have proper := numbered.tidy.queue.proper message onQueue
      unfold Proper at proper
      rw [payload] at proper
      exact absurd proper nonzero
  | plain type sessionId =>
      by_cases isResume : type = .resumeTask
      · subst isResume
        obtain ⟨isOwn, known⟩ := numbered.sessions.resumes message onQueue sessionId payload
        exact (numbered.made_of_signal registered isId isOwn known accepts).elim
      · obtain ⟨cause, isFirst, justified⟩ := numbered.cause isNext toLayer payload isResume
        cases cause with
        | handled asking =>
            obtain ⟨replies, task, issued, isTask, isData⟩ := justified
            have isAsking : message.messageId = asking.messageId := replies.1
            have same : task = entry.2 := numbered.tasks.distinct task issued entry.2 isIssued
              (by rw [← isTask, ← isAsking, isId])
            exact .inl ⟨asking, isFirst, replies, by rw [isTask, same], by rw [isData, same]⟩
        | signalled serial =>
            obtain ⟨_, made | ⟨isOwn, known⟩⟩ := justified
            · obtain ⟨_, _, task, issued, isConnect, isTask⟩ := numbered.sessions.ids _ made
              have same : task = entry.2 := numbered.tasks.distinct task issued entry.2 isIssued
                (isTask.trans isId)
              exact .inr ⟨serial, isFirst, same ▸ isConnect, isId ▸ made⟩
            · exact (numbered.made_of_signal registered isId isOwn known accepts).elim
  | _ => cases routed

/-- A reply goes to a task that does not connect. -/
theorem not_connect_of_replies {task : Task} {asking : SdkMessage} {post : UInt32 × Stanza}
    (replies : System.Replies asking post) (isData : asking.pdata = task.messageData) :
    ¬task.isConnect := by
  rintro ⟨address, isConnect⟩
  rw [Task.messageData, isConnect] at isData
  obtain ⟨_, ⟨_, isDisconnect, _⟩ | ⟨_, _, _, _, isRequest, _⟩⟩ := replies
  · rw [isData] at isDisconnect
    cases isDisconnect
  · rw [isData] at isRequest
    cases isRequest

/-- The manager posted what a task takes under its id for this task. -/
theorem Numbered.postedFor (numbered : Numbered watched) {message : SdkMessage} {stanza : Stanza}
    (isNext : watched.1.nextMessage label = some message)
    (toLayer : message.phandler = some .queueLayer) (payload : message.pdata = some stanza)
    (routed : stanza.routed = true) {entry : UInt32 × Task}
    (registered : entry ∈ watched.1.tasks.entries)
    (handled : entry.2.handleMessage message.messageId stanza = some true)
    (isId : message.messageId = entry.2.taskId) :
    PostedFor watched.2 entry.2 stanza := by
  rcases numbered.source isNext toLayer payload routed registered handled isId with
    ⟨asking, isFirst, replies, isAsking, isData⟩ | ⟨serial, isFirst, isConnect, made⟩
  · exact .inr ⟨not_connect_of_replies replies isData, asking, isFirst, isAsking, isData⟩
  · exact .inl ⟨isConnect, serial, isFirst, made⟩

/-- A request that reads a `ResponseData` takes nothing else. -/
theorem Numbered.takes_response (numbered : Numbered watched) {message : SdkMessage}
    {stanza : Stanza} (isNext : watched.1.nextMessage label = some message)
    (toLayer : message.phandler = some .queueLayer) (payload : message.pdata = some stanza)
    (routed : stanza.routed = true) {entry : UInt32 × Task}
    (registered : entry ∈ watched.1.tasks.entries)
    (handled : entry.2.handleMessage message.messageId stanza = some true)
    (reads : entry.2.readsResponse) : stanza.isResponse = true := by
  obtain ⟨kind, sessionId, reqJson, isData, notPush⟩ := reads
  cases stanza with
  | responseData => rfl
  | plain type session =>
      have isId : message.messageId = entry.2.taskId := by
        cases kind with
        | push => exact absurd rfl notPush
        | req | record =>
            simp only [Task.handleMessage, isData, Option.some.injEq, Bool.and_eq_true,
              decide_eq_true_eq] at handled
            exact handled.1
      rcases numbered.source isNext toLayer payload routed registered handled isId with
        ⟨asking, _, replies, _, isRequest⟩ | ⟨_, _, ⟨address, isConnect⟩, _⟩
      · rw [Task.messageData, isData] at isRequest
        obtain ⟨_, ⟨_, isDisconnect, _⟩ | ⟨_, _, isPush, _, isOther, result⟩⟩ := replies
        · rw [isRequest] at isDisconnect
          cases isDisconnect
        · rw [isRequest] at isOther
          cases isOther
          rcases result with notFound | ⟨isPush, _⟩
          · cases notFound
            cases routed
          · exact absurd (of_decide_eq_true isPush) notPush
      · rw [isData] at isConnect
        cases isConnect
  | _ => cases routed

/-- Every step of a run in which devices are opened one at a time keeps the ids apart. -/
theorem Numbered.step (numbered : Numbered watched) (serialised : OpensSerialised watched label)
    (transition : numberedMachine.step watched label = some (next, emitted)) : Numbered next := by
  have stepped := (Machine.step_of_watch transition).1
  have total := numbered.opening.total
  have counter := numbered.tasks.counter
  have bound := numbered.tasks.bound
  have tasks : TaskIds next := by
    refine numbered.tasks.step numbered.tidy (fun sessionId known => ?_) serialised transition
    have below := numbered.known known
    omega
  refine ⟨System.tidy_step numbered.tidy stepped, tasks, ?_, ?_, ?_⟩
  · exact numbered.sessions.step numbered.tasks numbered.tidy (by omega) serialised transition
  · exact Opening.step numbered.tasks numbered.sessions numbered.opening numbered.tidy serialised
      stepped
  · refine numbered.held.step numbered.tasks.toIssuedIds tasks.toIssuedIds
      (numbered.tasks.noWrap serialised) transition ?_
    intro message stanza task isNext toLayer payload routed takes reads
    obtain ⟨key, member, handled⟩ := mem_of_taker takes
    exact ⟨stanza, rfl, numbered.takes_response isNext toLayer payload routed member handled reads⟩

end Step

/-- No id is known at the start. -/
theorem numbered_start (pushThread : Nat) : Numbered (System.start pushThread, .start) := by
  have nothing {message : SdkMessage} (member : message ∈ (System.start pushThread).asyncThread.contents) :
      False := by
    simp [System.start, MessageQueue.new, MessageQueue.contents] at member
  have onQueue {message : SdkMessage}
      (member : message ∈ (System.start pushThread).queueThread.contents) :
      message = ⟨some .queueLayer, 2, some (.reqTask ⟨2, pushThread, 50000, .pushManager⟩)⟩ := by
    simpa [System.start, MessageQueue.post, MessageQueue.new, MessageQueue.contents] using member
  have notices : (System.start pushThread).notices =
      [.ask ⟨2, pushThread, 50000, .pushManager⟩] := rfl
  have unopened (id : UInt32) : ¬(System.start pushThread).IsOpen id := by
    rintro ⟨_, member, _⟩
    cases member
  refine ⟨System.tidy_start pushThread, ?_, ?_, ?_, ?_⟩
  · refine ⟨issuedIds_start pushThread, ?_, ?_⟩
    · simp [IdRecord.start]
    · exact fun _ member => absurd member List.not_mem_nil
  · refine ⟨rfl, ?_, ?_, ?_, ?_, ?_, ?_, rfl, ?_⟩
    · exact fun _ member => absurd member List.not_mem_nil
    · exact fun _ member => absurd member List.not_mem_nil
    · intro message member
      rw [onQueue member]
      intro sessionId address payload
      cases payload
    · intro message member
      rw [onQueue member]
      intro sessionId payload
      cases payload
    · intro message member toManager
      rcases List.mem_append.mp member with isQueue | isAsync
      · rw [onQueue isQueue] at toManager
        cases toManager
      · exact (nothing isAsync).elim
    · exact fun _ member => absurd member List.not_mem_nil
    · exact fun _ member => absurd member List.not_mem_nil
  · refine ⟨⟨rfl, rfl, fun _ member => absurd member List.not_mem_nil⟩, ?_, ?_, ?_, ?_, ?_, ?_⟩
    · intro message member toManager
      rw [onQueue member] at toManager
      cases toManager
    · simp only [System.asked, notices]
      trivial
    · exact (by decide : 1 < 2)
    · exact fun _ member => absurd member List.not_mem_nil
    · rw [notices]
      exact ⟨fun _ id => unopened id, trivial⟩
    · intro id left
      unfold System.LeftOpen at left
      rw [notices] at left
      rcases left with isOpen | ⟨⟨_, isConnect⟩, _⟩
      · exact (unopened id isOpen).elim
      · cases isConnect
  · exact holds_start _ pushThread

/-! ## Every run -/

/-- Every registered task that takes the stanza under its id is the one it was posted for. -/
def RoutesById (watched : System × IdRecord) (label : SystemLabel) : Prop :=
  ∀ message stanza, watched.1.nextMessage label = some message →
    message.phandler = some .queueLayer → message.pdata = some stanza → stanza.routed = true →
      ∀ entry ∈ watched.1.tasks.entries,
        entry.2.handleMessage message.messageId stanza = some true →
          message.messageId = entry.2.taskId → PostedFor watched.2 entry.2 stanza

/-- Where the manager handles a connect message, `AddSession` adds the session. -/
def AddsSession (system : System) (label : SystemLabel) : Prop :=
  ∀ id next emitted, system.connects label = some id →
    system.step label = some (next, emitted) → .inserted (system.sessionCounter + 1) ∈ emitted

/-- A caller that reads a `ResponseData` is given one, or nothing. -/
def HandsResponses (outputs : List SystemOutput) : Prop :=
  ∀ task msg, .returned task msg ∈ outputs → task.readsResponse → msg.phandler ≠ none →
    ∃ stanza, msg.pdata = some stanza ∧ stanza.isResponse = true

section Step

variable {watched next : System × IdRecord} {label : SystemLabel} {emitted : List SystemOutput}

/-- The id of a new session is the id of no session in the table. -/
theorem Numbered.addsSession (numbered : Numbered watched) : AddsSession watched.1 label := by
  intro id next emitted isConnect transition
  obtain ⟨message, sessionId, address, isNext, toManager, payload, _⟩ :=
    SessionIds.connects_eq_some isConnect
  have total := numbered.opening.total
  have counter := numbered.tasks.counter
  have bound := numbered.tasks.bound
  have absent : watched.1.findSession (watched.1.sessionCounter + 1) = none := by
    cases found : watched.1.findSession (watched.1.sessionCounter + 1) with
    | none => rfl
    | some session =>
        have inTable := OrderedMap.mem_of_find? found
        have below := numbered.known (numbered.sessions.table _ inTable).1
        rw [numbered.tidy.sessions.keyed _ inTable, toNat_succ (by omega)] at below
        omega
  obtain ⟨now, answer, -, rfl⟩ := System.dispatch_of_next isNext transition
  unfold System.dispatch System.sessionManagerOnMessage System.onConnectMessage
  simp only [toManager, payload]
  rw [System.openSession_report]
  have taken : (watched.1.taken label).findSession
      ((watched.1.taken label).constructedId 0) = none := by
    rw [System.taken_eq]
    exact absent
  rw [if_pos taken, System.taken_eq]
  exact List.mem_cons_self

/-- A step hands out responses exactly when no request gives up holding something else. -/
theorem Numbered.hands_iff (numbered : Numbered watched)
    (stepped : watched.1.step label = some (next.1, emitted)) :
    HandsResponses emitted ↔ GivesUpClean watched.1 label := by
  constructor
  · intro hands
    unfold GivesUpClean
    split
    · next thread now =>
        intro task waits reads late
        have returned := System.returned_of_over stepped waits late
        by_cases none : (watched.1.threads thread).wait.msg.phandler = none
        · exact .inl none
        · exact .inr (.inr (hands task _ (by simp [returned]) reads none))
    · trivial
  · intro clean task msg returned reads isTask
    obtain ⟨thread, now, rfl, waits, rfl, late⟩ := System.returned_of_step stepped returned
    have isIssued := numbered.tasks.waiting thread task waits
    have held := numbered.held thread _ (.inr rfl) isTask
    have ofOwn (isId : (watched.1.threads thread).wait.msg.messageId = task.taskId) :=
      held.2 task isIssued isId.symm reads
    rcases late with isOwn | late
    · simp only [WaitState.isOwn, System.waiter, Bool.and_eq_true, beq_iff_eq] at isOwn
      exact ofOwn isOwn.2
    · rcases clean task waits reads late with none | isId | isResponse
      · exact absurd none isTask
      · exact ofOwn isId
      · exact isResponse

end Step

/-- Responses are handed on part by part. -/
theorem hands_append {outputs emitted : List SystemOutput} :
    HandsResponses (outputs ++ emitted) ↔ HandsResponses outputs ∧ HandsResponses emitted := by
  constructor
  · intro hands
    exact ⟨fun task msg returned => hands task msg (List.mem_append_left _ returned),
      fun task msg returned => hands task msg (List.mem_append_right _ returned)⟩
  · rintro ⟨before, now⟩ task msg returned
    rcases List.mem_append.mp returned with earlier | later
    · exact before task msg earlier
    · exact now task msg later

/-- In every run in which devices are opened one at a time, what a task takes under its id
was posted for it and every connect message opens its session; and every caller that reads
a `ResponseData` is given one exactly when no request gives up holding something else. -/
theorem ids_sound {pushThread : Nat} {labels : List SystemLabel} {final : System × IdRecord}
    {outputs : List SystemOutput}
    (run : numberedMachine.RunWhere OpensSerialised (System.start pushThread, .start) labels final
      outputs) :
    numberedMachine.RunWhere (fun watched label =>
        RoutesById watched label ∧ AddsSession watched.1 label)
        (System.start pushThread, .start) labels final outputs ∧
      (HandsResponses outputs ↔
        numberedMachine.RunWhere (fun watched label =>
            OpensSerialised watched label ∧ GivesUpClean watched.1 label)
          (System.start pushThread, .start) labels final outputs) := by
  constructor
  · refine (run.upgrade Numbered (numbered_start pushThread) ?_).1
    intro watched label next emitted numbered serialised transition
    refine ⟨⟨?_, numbered.addsSession⟩, numbered.step serialised transition⟩
    intro message stanza isNext toLayer payload routed entry registered handled isId
    exact numbered.postedFor isNext toLayer payload routed registered handled isId
  · have initial : HandsResponses [] := fun _ _ returned => absurd returned List.not_mem_nil
    refine Machine.RunWhere.good_iff_within HandsResponses initial ?_ run
    intro labels watched outputs label next emitted prior transition
    have numbered : Numbered watched :=
      prior.invariant (fun _ watched _ => Numbered watched) (numbered_start pushThread)
        fun numbered serialised transition => numbered.step serialised transition
    rw [hands_append, numbered.hands_iff (Machine.step_of_watch transition).1]

/-- A check that is enough for a step other than a connect call. -/
def serialisedCheck (watched : System × IdRecord) (label : SystemLabel) : Bool :=
  let known sessionId := watched.2.made.any fun made => made.sessionId = sessionId
  ((watched.1.issue label).isNone || watched.2.issued.length + 1 < 2 ^ 31) &&
    match label with
    | .connect _ _ _ _ => false
    | .disconnect _ sessionId _ _ => known sessionId
    | .request _ _ sessionId _ _ _ => known sessionId
    | .postTask sessionId _ _ => known sessionId
    | .resume sessionId _ _ => known sessionId
    | _ => true

/-- The check finds the opens one at a time. -/
theorem serialised_of_check (watched : System × IdRecord) (label : SystemLabel)
    (checked : serialisedCheck watched label = true) : OpensSerialised watched label := by
  have knows {sessionId : UInt32}
      (known : (watched.2.made.any fun made => made.sessionId = sessionId) = true) :
      watched.2.Knows sessionId := by
    obtain ⟨made, member, isId⟩ := List.any_eq_true.mp known
    exact ⟨made, member, of_decide_eq_true isId⟩
  simp only [serialisedCheck, Bool.and_eq_true, Bool.or_eq_true, Option.isNone_iff_eq_none,
    decide_eq_true_eq] at checked
  refine ⟨fun issues => checked.1.resolve_left fun none => by simp [none] at issues, ?_⟩
  have given := checked.2
  cases label with
  | connect => cases given
  | disconnect | request | postTask | resume => exact knows given
  | _ => trivial

/-- The first call of a run opens a device on thread 1. -/
def firstOpen : SystemLabel := .connect 1 ⟨"192.168.0.2", 8131⟩ 5000 1000

/-- The device is opened as session 2. -/
def opensTwo : List SystemLabel :=
  [.queueThread 1000 .pending, .queueThread 1000 .pending, .asyncThread 1000 .pending,
    .connectEvent 0 1000, .queueThread 1000 .pending]

/-- A run that opens a device first and passes the check afterwards. -/
theorem run_after_firstOpen {labels : List SystemLabel}
    {check : (System × IdRecord) × List SystemOutput → Bool}
    (checked : (numberedMachine.step (System.start 0, .start) firstOpen).any (fun result =>
      numberedMachine.permits serialisedCheck result.1 labels &&
        (numberedMachine.exec result.1 labels).any check) = true) :
    ∃ final emitted outputs, numberedMachine.RunWhere OpensSerialised (System.start 0, .start)
        ([firstOpen] ++ labels) final (emitted ++ outputs) ∧ check (final, outputs) = true := by
  obtain ⟨⟨opened, emitted⟩, stepped, permitted⟩ := (Option.any_eq_true _ _).mp checked
  simp only [Bool.and_eq_true] at permitted
  obtain ⟨final, outputs, run, isFinal⟩ := Machine.exists_runWhere_of_exec
    (fun watched label => serialised_of_check watched label) permitted.1 permitted.2
  have first : OpensSerialised (System.start 0, .start) firstOpen :=
    ⟨fun _ => by simp [IdRecord.start], fun _ => ⟨nofun, nofun⟩⟩
  exact ⟨final, emitted, outputs, (Machine.RunWhere.single first stepped).append run, isFinal⟩

/-- The ids of the requests that returned a message to a caller that reads a `ResponseData`,
and whether it was one. -/
def SystemOutput.handsResponse : SystemOutput → Option (UInt32 × Bool)
  | .returned task msg =>
      match task.data, msg.phandler with
      | .request kind _ _, some _ =>
          if kind = .push then none else some (task.taskId, msg.pdata.any Stanza.isResponse)
      | _, _ => none
  | _ => none

/-- A response was handed to a task that did not ask for it. -/
theorem not_hands_of_mem {outputs : List SystemOutput} {taskId : UInt32}
    (member : (taskId, false) ∈ outputs.filterMap SystemOutput.handsResponse) :
    ¬HandsResponses outputs := by
  intro hands
  obtain ⟨output, isOutput, isPair⟩ := List.mem_filterMap.mp member
  unfold SystemOutput.handsResponse at isPair
  split at isPair
  · next task msg =>
      split at isPair
      · next kind sessionId reqJson handler isData isHandler =>
          split at isPair
          · cases isPair
          · next notPush =>
              obtain ⟨stanza, payload, isResponse⟩ := hands task msg isOutput
                ⟨kind, sessionId, reqJson, isData, notPush⟩ (by simp [isHandler])
              simp [payload, isResponse] at isPair
      · cases isPair
  · cases isPair

/-- A request is made and answered while the device is open. -/
theorem ids_sound_answered :
    ∃ final outputs, numberedMachine.RunWhere OpensSerialised (System.start 0, .start)
        ([firstOpen] ++ (opensTwo ++ asks 2 1000 ++ answers 2 1000)) final outputs ∧
      numberedMachine.RunWhere (fun watched label =>
          RoutesById watched label ∧ AddsSession watched.1 label)
        (System.start 0, .start) ([firstOpen] ++ (opensTwo ++ asks 2 1000 ++ answers 2 1000)) final
        outputs ∧
      (4, true) ∈ outputs.filterMap SystemOutput.handsResponse := by
  have checked : (numberedMachine.step (System.start 0, .start) firstOpen).any (fun result =>
      numberedMachine.permits serialisedCheck result.1 (opensTwo ++ asks 2 1000 ++ answers 2 1000) &&
        (numberedMachine.exec result.1 (opensTwo ++ asks 2 1000 ++ answers 2 1000)).any fun result =>
          result.2.filterMap SystemOutput.handsResponse = [(4, true)]) = true := by decide +kernel
  obtain ⟨final, emitted, outputs, run, hands⟩ := run_after_firstOpen checked
  refine ⟨final, _, run, (ids_sound run).1, ?_⟩
  rw [List.filterMap_append, of_decide_eq_true hands]
  simp

/-- The disconnection of session 2 gives up; its reply comes late, and is all that the next
request of the thread has when it gives up too. -/
def lateReply : List SystemLabel :=
  [.wait 1 (.call 1000), .wait 1 (.check 1000), .queueThread 1000 .pending, .connectServer 1,
    .queueThread 1000 .pending, .queueThread 1000 .pending, .disconnect 1 2 5000 1000,
    .queueThread 1000 .pending, .wait 1 (.call 1000), .asyncThread 1000 .pending,
    .queueThread 1000 .pending, .wait 1 (.wake true 7000), .wait 1 (.check 7000),
    .request 1 .req 2 deviceInfo 5000 7000, .wait 1 (.call 7000), .wait 1 (.check 7000),
    .wait 1 (.call 7000), .wait 1 (.wake true 13000), .wait 1 (.check 13000)]

/-- A request returns the late reply of a disconnection, which is no `ResponseData`. -/
theorem late_reply_handed :
    ∃ final outputs, numberedMachine.RunWhere OpensSerialised (System.start 0, .start)
        ([firstOpen] ++ (opensTwo ++ lateReply)) final outputs ∧ ¬HandsResponses outputs := by
  have checked : (numberedMachine.step (System.start 0, .start) firstOpen).any (fun result =>
      numberedMachine.permits serialisedCheck result.1 (opensTwo ++ lateReply) &&
        (numberedMachine.exec result.1 (opensTwo ++ lateReply)).any fun result =>
          result.2.filterMap SystemOutput.handsResponse = [(5, false)]) = true := by decide +kernel
  obtain ⟨final, emitted, outputs, run, hands⟩ := run_after_firstOpen checked
  have handed : (5, false) ∈ (emitted ++ outputs).filterMap SystemOutput.handsResponse := by
    rw [List.filterMap_append, of_decide_eq_true hands]
    simp
  exact ⟨final, _, run, not_hands_of_mem handed⟩

end VzSdk.Sdk
