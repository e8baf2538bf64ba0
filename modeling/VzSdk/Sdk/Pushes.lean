import VzSdk.Sdk.IdRouting
import VzSdk.Sdk.Tables
import VzSdk.Sdk.Handles

/-!
# Pushes of a device and the requests they look like

A device sends plates and serial data unasked, under the commands under which it
also answers requests, and every registered task is offered a message before the
push task. `pushes_not_swallowed` says in exactly which runs every push gets to
the push task, and when `GetRecord` returns the record it asked for.
-/

namespace VzSdk.Sdk

open VzSdk.Base VzSdk.Event VzSdk.Std

/-- `GeneratGetRecordByIdCmd`. -/
def generatGetRecordByIdCmd (id : Int) (needImg : Bool) : Json :=
  .object [("cmd", .string getRecord), ("id", .int id), ("format", .string "json"),
    ("image", .boolean needImg)]

/-- `ParsePlateResultResponse` sets `uId` to this id, whatever it was. -/
def Json.IsRecord (json : Json) (id : Int) : Prop := ∀ uId, json.recordId uId = id

/-- The contents of a push: a plate, or data of a serial port. -/
def Json.isPush (json : Json) : Bool :=
  json.cmd = some ivsResult || (json.cmd = some "ttransmission" && json.isSend)

/-- The task claims a response of the session under the command. (A task whose id has
wrapped round to 0 takes responses for replies of the manager.) -/
def Task.Claims (task : Task) (session : UInt32) (resCmd : String) : Prop :=
  match task.data with
  | .connect _ => task.taskId = 0
  | .request .push sessionId _ => task.taskId = 0 ∧ sessionId = session
  | .request kind sessionId reqJson =>
      sessionId = session ∧ kind.handleResponse (reqJson.cmd.getD "") resCmd = true
  | _ => False

namespace System

/-- The label's turn takes a push of a device from the queue thread. -/
structure TakesPush (system : System) (label : SystemLabel) (message : SdkMessage)
    (session : UInt32) (json : Json) (data : List UInt8) : Prop where
  isNext : system.nextMessage label = some message
  toLayer : message.phandler = some .queueLayer
  payload : message.pdata = some (.responseData session json data none)
  isPush : json.isPush = true

/-- A push is given to the push task, and no other task takes it. -/
def PushRouted (system : System) (label : SystemLabel) : Prop :=
  ∀ message session json data, system.TakesPush label message session json data →
    let stanza := Stanza.responseData session json data none
    taker message.messageId stanza system.tasks.entries = .nobody ∧
      ∀ next emitted, system.step label = some (next, emitted) →
        next = (system.taken label).pushHandleMessage message.messageId stanza

/-- No registered task claims the push. -/
def PushUnclaimed (system : System) (label : SystemLabel) : Prop :=
  ∀ message session json data, system.TakesPush label message session json data →
    ∀ entry ∈ system.tasks.entries, ¬entry.2.Claims session (json.cmd.getD "")

/-! ## Where pushes go -/

variable {system next : System} {label : SystemLabel} {emitted : List SystemOutput}

/-- A task answers every response that has a command, and takes the ones it claims. -/
theorem handleMessage_response {task : Task} {session : UInt32} {json : Json} {data : List UInt8}
    {origin : Option UInt32} {resCmd : String} (isCmd : json.cmd = some resCmd) :
    ∃ taken, task.handleMessage 0 (.responseData session json data origin) = some taken ∧
      (taken = true ↔ task.Claims session resCmd) := by
  unfold Task.handleMessage Task.Claims
  cases task.data with
  | connect address => exact ⟨_, rfl, decide_eq_true_iff.trans eq_comm⟩
  | disconnect sessionId => exact ⟨_, rfl, by simp [Stanza.stanzaType]⟩
  | pushManager => exact ⟨_, rfl, by simp⟩
  | request kind sessionId reqJson =>
      cases kind with
      | push =>
          refine ⟨_, rfl, ?_⟩
          rw [Bool.and_eq_true]
          exact and_congr (decide_eq_true_iff.trans eq_comm) (decide_eq_true_iff.trans eq_comm)
      | req | record =>
          by_cases own : session = sessionId
          · simp [own, isCmd]
          · simp [own, Ne.symm own]

/-- Nobody takes a message that every task refuses. -/
theorem taker_response {messageId : UInt32} {stanza : Stanza} {tasks : List (UInt32 × Task)}
    (answers : ∀ entry ∈ tasks, ∃ taken, entry.2.handleMessage messageId stanza = some taken) :
    taker messageId stanza tasks = .nobody ↔
      ∀ entry ∈ tasks, entry.2.handleMessage messageId stanza = some false := by
  induction tasks with
  | nil => simp [taker]
  | cons entry tasks inductionHypothesis =>
      obtain ⟨taken, handled⟩ := answers entry List.mem_cons_self
      have rest := inductionHypothesis fun other member =>
        answers other (List.mem_cons_of_mem _ member)
      unfold taker
      cases taken with
      | true => simp [handled]
      | false => simp [handled, rest]

/-- The ask for the push task, which `VzTcpDeviceManage::Start` posts before anything else. -/
def pushAsk (pushThread : Nat) : SdkMessage :=
  ⟨some .queueLayer, 2, some (.reqTask ⟨2, pushThread, 50000, .pushManager⟩)⟩

/-- The push task is registered, or will be with the next message. -/
def PushFirst (pushThread : Nat) (system : System) : Prop :=
  system.pushRegistered = true ∨ system.queueThread.msgq.head? = some (pushAsk pushThread)

/-- The message at the front stays there. -/
theorem head_append {message : SdkMessage} {msgq : List SdkMessage}
    (isHead : msgq.head? = some message) (more : List SdkMessage) :
    (msgq ++ more).head? = some message := by
  rw [List.head?_append, isHead]
  rfl

/-- A turn of the queue thread takes the first message. -/
theorem nextMessage_of_head (tidy : system.Tidy) {message : SdkMessage}
    (isHead : system.queueThread.msgq.head? = some message)
    (lasting : message.messageId ≠ mqidDispose) (now : UInt32) (answer : ConnectAnswer) :
    system.nextMessage (.queueThread now answer) = some message := by
  obtain ⟨ready, left, _, _, taken, found⟩ :=
    MessageQueue.getPass_unpeeked system.queueThread now .zero tidy.queue.unpeeked
  have first : ∃ rest, system.queueThread.msgq ++ ready.map (·.msg) = message :: rest := by
    obtain ⟨rest, isRest⟩ := List.head?_eq_some_iff.mp isHead
    exact ⟨rest ++ ready.map (·.msg), by rw [isRest]; rfl⟩
  obtain ⟨rest, isRest⟩ := first
  simp only [nextMessage]
  rw [found, taken, isRest]
  simp [MessageQueue.pull, lasting]

/-- The queue layer leaves the push task registered. -/
theorem pushRegistered_queueLayerOnMessage {base : System} {message : SdkMessage}
    (registered : base.pushRegistered = true) :
    (base.queueLayerOnMessage message).pushRegistered = true := by
  unfold queueLayerOnMessage
  split
  · split
    · rfl
    · exact registered
  · exact registered
  · rw [(sessionSide_removeSession _ _).pushRegistered, registered]
  · exact registered
  · exact registered
  · rw [frame_onTranslateToSyncLayer]
    exact registered
  · rw [frame_onTranslateToSyncLayer]
    exact registered
  · exact registered

/-- A registered push task stays registered. -/
theorem pushRegistered_step (registered : system.pushRegistered = true)
    (transition : system.step label = some (next, emitted)) : next.pushRegistered = true := by
  have taken : (system.taken label).pushRegistered = true := by
    rw [taken_eq]
    exact registered
  cases kind_of_step transition with
  | event isEvent found signals => rw [signals.sessionSide.pushRegistered, registered]
  | resume => exact registered
  | idle => exact taken
  | call isCall noEvent side =>
      rw [side.frame]
      exact registered
  | @dispatch _ message now answer isTurn isNext =>
      by_cases toLayer : message.phandler = some .queueLayer
      · unfold dispatch
        rw [toLayer]
        exact pushRegistered_queueLayerOnMessage taken
      · rw [(sessionSide_dispatch _ now answer toLayer).pushRegistered, taken]

/-- The push task keeps the first id. -/
theorem pushFirst_step {pushThread : Nat} (first : system.PushFirst pushThread)
    (tidy : system.Tidy) (transition : system.step label = some (next, emitted)) :
    next.PushFirst pushThread := by
  rcases first with registered | isHead
  · exact .inl (pushRegistered_step registered transition)
  · by_cases isTurn : ∃ now answer, label = .queueThread now answer
    · obtain ⟨now, answer, rfl⟩ := isTurn
      have isNext := nextMessage_of_head tidy isHead (by decide : (2 : UInt32) ≠ mqidDispose) now
        answer
      refine .inl ?_
      cases kind_of_step transition with
      | @dispatch _ message _ _ _ isMessage =>
          rw [isNext] at isMessage
          cases isMessage
          rfl
      | idle _ nothing =>
          rw [isNext] at nothing
          cases nothing
      | event isEvent => cases isEvent
      | call isCall => cases isCall
    · have same : (system.taken label).queueThread = system.queueThread := by
        unfold taken
        split
        · exact absurd ⟨_, _, rfl⟩ isTurn
        · rfl
        · rfl
      refine .inr ?_
      rcases posted_step tidy transition with ⟨sessionId, now, cmsDelay, _, rfl⟩ |
          ⟨messages, gets, _⟩
      · obtain ⟨_, ready, _⟩ := MessageQueue.postDelayed_eq system.queueThread now cmsDelay
          ⟨some .queueLayer, sessionId, some (.plain .resumeTask sessionId)⟩
        simpa [postResume, ready] using isHead
      · rw [gets, same]
        exact head_append isHead messages

/-- Everything that is routed is taken after the push task was registered. -/
theorem pushRegistered_of_next {pushThread : Nat} (first : system.PushFirst pushThread)
    (tidy : system.Tidy) {message : SdkMessage} (isNext : system.nextMessage label = some message)
    (toLayer : message.phandler = some .queueLayer) {stanza : Stanza}
    (payload : message.pdata = some stanza) (routed : stanza.routed = true) :
    system.pushRegistered = true := by
  rcases first with registered | isHead
  · exact registered
  · cases label with
    | queueThread now answer =>
        have isAsk := nextMessage_of_head tidy isHead (by decide : (2 : UInt32) ≠ mqidDispose) now
          answer
        rw [isAsk] at isNext
        cases isNext
        cases payload
        cases routed
    | asyncThread now answer =>
        simp only [nextMessage] at isNext
        split at isNext
        · next found =>
            cases isNext
            exact absurd toLayer (tidy.elsewhere _ ((MessageQueue.getPass_subset _ _ _).2 found))
        · cases isNext
    | _ => cases isNext

/-- A push gets to the push task exactly when no registered task claims it. -/
theorem pushRouted_iff {pushThread : Nat} (first : system.PushFirst pushThread)
    (tidy : system.Tidy) : system.PushRouted label ↔ system.PushUnclaimed label := by
  have spec {message : SdkMessage} {session : UInt32} {json : Json} {data : List UInt8}
      (takes : system.TakesPush label message session json data) :
      message.messageId = 0 ∧ ∀ entry ∈ system.tasks.entries, ∃ taken,
        entry.2.handleMessage 0 (.responseData session json data none) = some taken ∧
          (taken = true ↔ entry.2.Claims session (json.cmd.getD "")) := by
    have proper := tidy.queue.proper message (mem_queue_of_next tidy takes.isNext takes.toLayer)
    have isCmd : ∃ resCmd, json.cmd = some resCmd := by
      have isPush := takes.isPush
      simp only [Json.isPush, Bool.or_eq_true, decide_eq_true_eq, Bool.and_eq_true] at isPush
      rcases isPush with isPlate | ⟨isSerial, _⟩
      · exact ⟨_, isPlate⟩
      · exact ⟨_, isSerial⟩
    obtain ⟨resCmd, isCmd⟩ := isCmd
    unfold Proper at proper
    rw [takes.payload] at proper
    refine ⟨proper, fun entry _ => ?_⟩
    rw [isCmd]
    exact handleMessage_response isCmd
  constructor
  · intro routed message session json data takes entry member claims
    obtain ⟨isZero, handles⟩ := spec takes
    have nobody := (routed message session json data takes).1
    rw [isZero, taker_response fun entry member => (handles entry member).imp fun _ => And.left]
      at nobody
    obtain ⟨taken, handled, isTaken⟩ := handles entry member
    rw [nobody entry member] at handled
    cases handled
    exact absurd (isTaken.mpr claims) (by decide)
  · intro unclaimed message session json data takes
    obtain ⟨isZero, handles⟩ := spec takes
    have nobody : taker message.messageId (.responseData session json data none)
        system.tasks.entries = .nobody := by
      rw [isZero, taker_response fun entry member => (handles entry member).imp fun _ => And.left]
      intro entry member
      obtain ⟨taken, handled, isTaken⟩ := handles entry member
      cases taken with
      | true => exact absurd (isTaken.mp rfl) (unclaimed message session json data takes entry member)
      | false => exact handled
    refine ⟨nobody, fun next emitted transition => ?_⟩
    have registered := pushRegistered_of_next first tidy takes.isNext takes.toLayer takes.payload
      rfl
    obtain ⟨now, answer, rfl, -⟩ := dispatch_of_next takes.isNext transition
    unfold dispatch
    rw [takes.toLayer]
    simp only [queueLayerOnMessage, takes.payload, onTranslateToSyncLayer]
    have sameTasks : (system.taken label).tasks = system.tasks := by rw [taken_eq]
    have samePush : (system.taken label).pushRegistered = true := by
      rw [taken_eq]
      exact registered
    rw [sameTasks, nobody]
    simp only [samePush, if_true]

end System

/-! ## Records that were asked for -/

/-- The task is that of `GetRecord(id)`. -/
def Task.GetsRecord (task : Task) (id : Int) : Prop :=
  ∃ sessionId needImg, task.data = .request .record sessionId (generatGetRecordByIdCmd id needImg)

/-- `GetRecord` returns `REQ_SUCCEED` with the record it asked for only. -/
def ReturnsRecords (outputs : List SystemOutput) : Prop :=
  ∀ task msg id, .returned task msg ∈ outputs → task.GetsRecord id → msg.phandler ≠ none →
    ∃ session json data origin, msg.pdata = some (.responseData session json data origin) ∧
      json.IsRecord id

namespace System

/-- The device answers `get_record` with the record of that id. -/
def AnswersAsked (system : System) : SystemLabel → Prop
  | .deviceAnswer serial resJson _ => ∀ session request rest,
      system.findSerial serial = some session → session.unanswered = request :: rest →
        ∀ id needImg, request.reqJson = generatGetRecordByIdCmd id needImg →
          resJson.cmd = some ivsResult → resJson.IsRecord id
  | _ => True

/-- What a `GetRecord` takes is the device's answer to it. -/
def TakesOwnRecord (system : System) (label : SystemLabel) : Prop :=
  ∀ message stanza task id, system.nextMessage label = some message →
    message.phandler = some .queueLayer → message.pdata = some stanza → stanza.routed = true →
      taker message.messageId stanza system.tasks.entries = .task task → task.GetsRecord id →
        ∃ session json data, stanza = .responseData session json data (some task.taskId)

/-- A `GetRecord` that gives up was not left with a message of another task. -/
def GivesUpEmpty (system : System) : SystemLabel → Prop
  | .wait thread (.check now) => ∀ task id, (system.threads thread).activity = .waiting task →
      task.GetsRecord id → timeUntil now (system.threads thread).wait.msEnd < 0 →
        (system.threads thread).wait.msg.phandler = none ∨
          (system.threads thread).wait.msg.messageId = task.taskId
  | _ => True

/-- Nothing is taken for a record that it is not. -/
structure KeepsRecordsApart (system : System) (label : SystemLabel) : Prop where
  noWrap : NoWrap system label
  answersAsked : system.AnswersAsked label
  takesOwn : system.TakesOwnRecord label
  givesUpEmpty : system.GivesUpEmpty label

end System

namespace IdRecord

/-- The request is that of a task that was issued. -/
def Asked (record : IdRecord) (tag : UInt32) (reqJson : Json) : Prop :=
  ∃ task ∈ record.issued, task.taskId = tag ∧
    ∃ kind sessionId, task.data = .request kind sessionId reqJson

/-- What answers a `GetRecord` is the record it asked for. -/
def Fits (record : IdRecord) (origin : Option UInt32) (json : Json) : Prop :=
  ∀ tag, origin = some tag → json.cmd = some ivsResult →
    ∃ task ∈ record.issued, task.taskId = tag ∧ ∀ id, task.GetsRecord id → json.IsRecord id

variable {record next : IdRecord}

/-- What was asked stays asked. -/
theorem Asked.mono {tag : UInt32} {reqJson : Json} (asked : record.Asked tag reqJson)
    (extend : record.Extends next) : next.Asked tag reqJson := by
  obtain ⟨task, member, isTask⟩ := asked
  exact ⟨task, extend.issued task member, isTask⟩

/-- An answer that fits what was asked still fits. -/
theorem Fits.mono {origin : Option UInt32} {json : Json} (fits : record.Fits origin json)
    (extend : record.Extends next) : next.Fits origin json := by
  intro tag isOrigin isCmd
  obtain ⟨task, member, isTask⟩ := fits tag isOrigin isCmd
  exact ⟨task, extend.issued task member, isTask⟩

end IdRecord

/-- What a `GetRecord` was sent is the record it asked for. -/
def HoldsRecord (task : Task) (pdata : Option Stanza) : Prop :=
  ∀ id, task.GetsRecord id → ∃ session json data origin,
    pdata = some (.responseData session json data origin) ∧ json.IsRecord id

/-- Requests and answers on their way, and what threads hold. -/
structure RecordsFit (watched : System × IdRecord) : Prop where
  ids : IssuedIds watched
  sending : ∀ message ∈ watched.1.asyncThread.contents, ∀ session reqJson isPush tag,
    message.pdata = some (.requestData session reqJson isPush tag) → watched.2.Asked tag reqJson
  requests : ∀ entry ∈ watched.1.asyncSessions.entries,
    ∀ request ∈ entry.2.outgoing ++ entry.2.unanswered, watched.2.Asked request.tag request.reqJson
  incoming : ∀ entry ∈ watched.1.asyncSessions.entries, ∀ answer ∈ entry.2.incoming,
    ∀ json, answer.resJson = some json → watched.2.Fits answer.origin json
  queued : ∀ message ∈ watched.1.queueThread.contents, ∀ session json data origin,
    message.pdata = some (.responseData session json data origin) → watched.2.Fits origin json
  held : Holds HoldsRecord watched

namespace RecordsFit

variable {watched next : System × IdRecord} {label : SystemLabel} {emitted : List SystemOutput}

/-- Requests for the manager are those of tasks. -/
theorem sending_step (fit : RecordsFit watched) (tidy : watched.1.Tidy)
    (stepped : watched.1.step label = some (next.1, emitted)) (extend : watched.2.Extends next.2) :
    ∀ message ∈ next.1.asyncThread.contents, ∀ session reqJson isPush tag,
      message.pdata = some (.requestData session reqJson isPush tag) → next.2.Asked tag reqJson := by
  intro message member session reqJson isPush tag payload
  rcases System.mem_async_step stepped member with old | posted | ⟨serial, rfl⟩
  · exact (fit.sending message old session reqJson isPush tag payload).mono extend
  · rcases List.mem_append.mp posted with forwarded | reposted
    · obtain ⟨asking, task, isNext, toLayer, isAsk, isTask, rfl⟩ := System.mem_forwards forwarded
      have issued := (fit.ids.asked asking (System.mem_queue_of_next tidy isNext toLayer) task).1
        isAsk isTask
      refine ⟨task, extend.issued task issued, ?_⟩
      unfold Task.messageData at payload
      split at payload
      · cases payload
      · cases payload
      · next isData =>
          cases payload
          exact ⟨rfl, _, _, isData⟩
      · cases payload
    · obtain ⟨handled, _, _, _, _, isReconnect, same⟩ := System.mem_reposts reposted
      rw [same, isReconnect] at payload
      cases payload
  · cases payload

/-- A response that a session has posted is a packet it has read. -/
theorem answer_of_stanzas {object : SessionObject} {signal : Signal} {id session : UInt32}
    {json : Json} {data : List UInt8} {origin : Option UInt32}
    (isPost : (id, Stanza.responseData session json data origin) ∈ object.stanzas signal) :
    ∃ answer : Answer, answer.resJson = some json ∧ origin = answer.origin ∧
      signal = .packet answer := by
  cases signal with
  | connected => simp [SessionObject.stanzas] at isPost
  | closed => simp [SessionObject.stanzas] at isPost
  | packet answer =>
      simp only [SessionObject.stanzas] at isPost
      split at isPost
      · next resJson isJson =>
          cases List.mem_singleton.mp isPost
          exact ⟨answer, isJson, rfl, rfl⟩
      · cases isPost

/-- An answer that is signalled was incoming. -/
theorem mem_incoming_of_signal {object : SessionObject} {answer : Answer}
    (isSignal : .packet answer ∈ object.signals label) : answer ∈ object.incoming := by
  unfold SessionObject.signals at isSignal
  split at isSignal
  · split at isSignal
    · simp [SessionObject.timeouts] at isSignal
    · cases isSignal
  · split at isSignal
    · simp at isSignal
    · cases isSignal
  · split at isSignal
    · simp at isSignal
    · cases isSignal
  · cases isIncoming : object.incoming with
    | nil =>
        rw [isIncoming] at isSignal
        cases isSignal
    | cons first rest =>
        rw [isIncoming] at isSignal
        obtain rfl : answer = first := by simpa using isSignal
        exact List.mem_cons_self
  · cases isSignal

/-- What is posted for the queue layer fits, if it answers anything. -/
theorem queued_step (fit : RecordsFit watched) (tidy : watched.1.Tidy)
    (stepped : watched.1.step label = some (next.1, emitted)) (extend : watched.2.Extends next.2) :
    ∀ message ∈ next.1.queueThread.contents, ∀ session json data origin,
      message.pdata = some (.responseData session json data origin) → next.2.Fits origin json := by
  intro message member session json data origin payload
  rcases System.mem_queue_step tidy stepped member with old | posted | ⟨_, _, _, _, rfl⟩
  · exact (fit.queued message old session json data origin payload).mono extend
  · cases posted with
    | @signal serial object signal post found isEvent isPost =>
        have inTable := (tidy.eq_of_findSerial found).2.1
        obtain ⟨id, stanza⟩ := post
        cases payload
        obtain ⟨answer, isJson, isOrigin, isPacket⟩ := answer_of_stanzas isPost
        have waiting : answer ∈ object.incoming := by
          rw [isPacket] at isEvent
          rcases isEvent with ⟨_, isSignal⟩ | ⟨_, now, _, _, isSignal⟩
          · exact mem_incoming_of_signal isSignal
          · simp [SessionObject.timeouts] at isSignal
        rw [isOrigin]
        exact (fit.incoming _ inTable answer waiting json isJson).mono extend
    | reply isNext toManager replies =>
        obtain ⟨_, type, sessionId, isPlain, _⟩ := System.stanza_of_replies replies
        rw [isPlain] at payload
        cases payload
    | ask | remove | reconnect | handOver => cases payload
  · cases payload

/-- Packets of the devices fit. -/
theorem incoming_step (fit : RecordsFit watched) (tidy : watched.1.Tidy)
    (honest : watched.1.AnswersAsked label)
    (stepped : watched.1.step label = some (next.1, emitted)) (extend : watched.2.Extends next.2) :
    ∀ entry ∈ next.1.asyncSessions.entries, ∀ answer ∈ entry.2.incoming, ∀ json,
      answer.resJson = some json → next.2.Fits answer.origin json := by
  intro entry member answer waiting json isJson
  rcases System.incoming_step tidy stepped member waiting with ⟨old, was, waited⟩ | unasked |
      ⟨serial, resJson, resData, session, request, rest, rfl, found, isUnanswered, rfl⟩
  · exact (fit.incoming old was answer waited json isJson).mono extend
  · intro tag isOrigin
    rw [unasked] at isOrigin
    cases isOrigin
  · cases isJson
    rintro _ ⟨⟩ isCmd
    have inTable := (tidy.eq_of_findSerial found).2.1
    obtain ⟨task, issued, isTask, kind, sessionId, isData⟩ := fit.requests _ inTable request
      (List.mem_append_right _ (by simp [isUnanswered]))
    refine ⟨task, extend.issued task issued, isTask, ?_⟩
    rintro id ⟨_, needImg, isRecord⟩
    rw [isData] at isRecord
    have isRequest : request.reqJson = generatGetRecordByIdCmd id needImg := by
      injection isRecord
    exact honest session request rest found isUnanswered id needImg isRequest isCmd

/-- What a session sends or waits for was asked. -/
theorem requests_step (fit : RecordsFit watched) (tidy : watched.1.Tidy)
    (stepped : watched.1.step label = some (next.1, emitted)) (extend : watched.2.Extends next.2) :
    ∀ entry ∈ next.1.asyncSessions.entries, ∀ request ∈ entry.2.outgoing ++ entry.2.unanswered,
      next.2.Asked request.tag request.reqJson := by
  intro entry member request sent
  rcases System.requests_step tidy stepped member sent with ⟨old, was, wasSent⟩ |
      ⟨message, sessionId, isPush, isNext, toManager, payload⟩
  · exact (fit.requests old was request wasSent).mono extend
  · have onAsync : message ∈ watched.1.asyncThread.contents := by
      rcases List.mem_append.mp (System.mem_of_next isNext) with onQueue | onAsync
      · have proper := tidy.queue.proper message onQueue
        unfold Proper at proper
        rw [payload] at proper
        exact proper.elim
      · exact onAsync
    exact (fit.sending message onAsync _ _ _ _ payload).mono extend

/-- The response that a record task takes is under `ivs_result`. -/
theorem cmd_of_handled {task : Task} {id : Int} (gets : task.GetsRecord id) {messageId : UInt32}
    (isZero : messageId = 0) {session : UInt32} {json : Json} {data : List UInt8}
    {origin : Option UInt32}
    (handled : task.handleMessage messageId (.responseData session json data origin) = some true) :
    json.cmd = some ivsResult := by
  obtain ⟨sessionId, needImg, isData⟩ := gets
  simp only [Task.handleMessage, isData] at handled
  split at handled
  · split at handled
    · cases handled
    · next resCmd isCmd =>
        simp only [RequestKind.handleResponse, Option.some.injEq, Bool.and_eq_true,
          decide_eq_true_eq] at handled
        rw [isCmd, handled.1]
  · next foreign =>
      simp only [Option.some.injEq, Bool.and_eq_true, decide_eq_true_eq] at handled
      exact absurd ⟨isZero, handled.2⟩ foreign

/-- What a `GetRecord` takes is the record it asked for. -/
theorem takes_record (fit : RecordsFit watched) (tidy : watched.1.Tidy)
    (apart : watched.1.KeepsRecordsApart label) {message : SdkMessage} {stanza : Stanza} {task : Task}
    (isNext : watched.1.nextMessage label = some message)
    (toLayer : message.phandler = some .queueLayer) (payload : message.pdata = some stanza)
    (routed : stanza.routed = true)
    (takes : taker message.messageId stanza watched.1.tasks.entries = .task task) :
    HoldsRecord task (some stanza) := by
  intro id gets
  obtain ⟨key, member, handled⟩ := mem_of_taker takes
  obtain ⟨session, json, data, rfl⟩ := apart.takesOwn message stanza task id isNext toLayer payload
    routed takes gets
  have onQueue := System.mem_queue_of_next tidy isNext toLayer
  have proper := tidy.queue.proper message onQueue
  unfold Proper at proper
  rw [payload] at proper
  obtain ⟨asker, isAsker, sameId, fits⟩ := fit.queued message onQueue session json data _ payload
    _ rfl (cmd_of_handled gets proper handled)
  have isSame := fit.ids.distinct asker isAsker task (fit.ids.registered (key, task) member) sameId
  exact ⟨session, json, data, _, rfl, fits id (isSame ▸ gets)⟩

/-- Every step that keeps records apart keeps requests and answers in order. -/
theorem step (fit : RecordsFit watched) (tidy : watched.1.Tidy)
    (apart : watched.1.KeepsRecordsApart label)
    (transition : numberedMachine.step watched label = some (next, emitted)) : RecordsFit next := by
  obtain ⟨stepped, noted⟩ := Machine.step_of_watch transition
  have extend := extends_note watched.2 watched.1 label next.1
  rw [← noted] at extend
  have ids := fit.ids.step tidy apart.noWrap transition
  exact ⟨ids, fit.sending_step tidy stepped extend, fit.requests_step tidy stepped extend,
    fit.incoming_step tidy apart.answersAsked stepped extend, fit.queued_step tidy stepped extend,
    fit.held.step fit.ids ids apart.noWrap transition (fit.takes_record tidy apart)⟩

/-- What a step returns to a `GetRecord` is what it asked for. -/
theorem returns (fit : RecordsFit watched) (apart : watched.1.KeepsRecordsApart label)
    (stepped : watched.1.step label = some (next.1, emitted)) : ReturnsRecords emitted := by
  intro task msg id returned gets isTask
  obtain ⟨thread, now, rfl, waits, rfl, late⟩ := System.returned_of_step stepped returned
  have isIssued := fit.ids.waiting thread task waits
  have held := fit.held thread _ (.inr rfl) isTask
  have isOwn : (watched.1.threads thread).wait.msg.messageId = task.taskId := by
    rcases late with isOwn | late
    · simp only [WaitState.isOwn, System.waiter, Bool.and_eq_true, beq_iff_eq] at isOwn
      exact isOwn.2
    · exact (apart.givesUpEmpty task id waits gets late).resolve_left isTask
  exact held.2 task isIssued isOwn.symm id gets

end RecordsFit

/-- Nothing was asked at the start. -/
theorem recordsFit_start (pushThread : Nat) : RecordsFit (System.start pushThread, .start) where
  ids := issuedIds_start pushThread
  sending message member := by
    simp [System.start, MessageQueue.new, MessageQueue.contents] at member
  requests _ member := absurd member List.not_mem_nil
  incoming _ member := absurd member List.not_mem_nil
  queued message member := by
    obtain rfl : message = _ := by
      simpa [System.start, MessageQueue.post, MessageQueue.new, MessageQueue.contents] using member
    intro _ _ _ _ payload
    cases payload
  held := holds_start _ pushThread

/-! ## Every run -/

/-- The push task is registered before anything else is routed. -/
theorem pushFirst_of_run {allowed : System → SystemLabel → Prop} {pushThread : Nat}
    {labels : List SystemLabel} {system : System} {outputs : List SystemOutput}
    (run : sdkMachine.RunWhere allowed (System.start pushThread) labels system outputs) :
    system.PushFirst pushThread ∧ system.Tidy :=
  run.invariant (fun _ system _ => system.PushFirst pushThread ∧ system.Tidy)
    ⟨.inr rfl, System.tidy_start pushThread⟩
    fun ⟨first, tidy⟩ _ transition =>
      ⟨System.pushFirst_step first tidy transition, System.tidy_step tidy transition⟩

/-- Part by part the records returned are those asked for. -/
theorem returnsRecords_append {outputs emitted : List SystemOutput}
    (before : ReturnsRecords outputs) (now : ReturnsRecords emitted) :
    ReturnsRecords (outputs ++ emitted) := by
  intro task msg id returned
  rcases List.mem_append.mp returned with earlier | later
  · exact before task msg id earlier
  · exact now task msg id later

/-- Every push of a device is given to the push task and to no other one exactly when no
step takes a push that a registered task claims; and `GetRecord` returns the record it asked
for when no step takes anything else for it. -/
theorem pushes_not_swallowed {pushThread : Nat} {labels : List SystemLabel} {final : System}
    {outputs : List SystemOutput} :
    (sdkMachine.RunWhere System.PushRouted (System.start pushThread) labels final outputs ↔
        sdkMachine.RunWhere System.PushUnclaimed (System.start pushThread) labels final outputs) ∧
      (sdkMachine.RunWhere System.KeepsRecordsApart (System.start pushThread) labels final outputs →
        ReturnsRecords outputs) := by
  constructor
  · refine Machine.RunWhere.congr fun run _ => ?_
    obtain ⟨first, tidy⟩ := pushFirst_of_run run
    exact System.pushRouted_iff first tidy
  · intro run
    obtain ⟨record, watchedRun⟩ := run.watched IdRecord.start
    have sound : (RecordsFit (final, record) ∧ final.Tidy) ∧ ReturnsRecords outputs := by
      refine watchedRun.invariant (fun _ watched outputs =>
        (RecordsFit watched ∧ watched.1.Tidy) ∧ ReturnsRecords outputs)
        ⟨⟨recordsFit_start pushThread, System.tidy_start pushThread⟩, ?_⟩ ?_
      · exact fun _ _ _ returned => absurd returned List.not_mem_nil
      · intro labels watched outputs label next emitted inv apart transition
        obtain ⟨⟨fit, tidy⟩, before⟩ := inv
        have stepped := (Machine.step_of_watch transition).1
        exact ⟨⟨fit.step tidy apart transition, System.tidy_step tidy stepped⟩,
          returnsRecords_append before (fit.returns apart stepped)⟩
    exact sound.2

/-! ## Two runs -/

/-- The id of the record that the request asks for. -/
def Json.askedRecord : Json → Option Int
  | .object [("cmd", .string cmd), ("id", .int id), ("format", .string format),
      ("image", .boolean _)] => if cmd = getRecord ∧ format = "json" then some id else none
  | _ => none

/-- What `GetRecord` asked for, and the id of the record it returns. -/
def SystemOutput.record : SystemOutput → Option (Int × Int)
  | .returned ⟨_, _, _, .request .record _ reqJson⟩
      ⟨some _, _, some (.responseData _ resJson _ _)⟩ =>
      reqJson.askedRecord.map fun id => (id, resJson.recordId 0)
  | _ => none

/-- Another record was returned than the one asked for. -/
theorem not_returnsRecords_of_mem {outputs : List SystemOutput} {asked id : Int}
    (member : (asked, id) ∈ outputs.filterMap SystemOutput.record) (other : id ≠ asked) :
    ¬ReturnsRecords outputs := by
  intro returns
  obtain ⟨output, isOutput, isPair⟩ := List.mem_filterMap.mp member
  unfold SystemOutput.record at isPair
  split at isPair
  · next sessionId reqJson _ _ session resJson resData origin =>
      obtain ⟨_, isAsked, isPair⟩ := Option.map_eq_some_iff.mp isPair
      cases isPair
      unfold Json.askedRecord at isAsked
      split at isAsked
      · next needImg =>
          split at isAsked
          · next isCmd =>
              cases isAsked
              obtain ⟨_, json, _, _, payload, isRecord⟩ := returns _ _ asked isOutput
                ⟨sessionId, needImg, by rw [isCmd.1, isCmd.2]; rfl⟩ nofun
              cases payload
              exact other (isRecord 0)
          · cases isAsked
      · cases isAsked
  · cases isPair

/-- The device's plate with this id. -/
def plate (id : Int) : Json := .object [("cmd", .string ivsResult), ("id", .int id)]

/-- The device pushes the plate, and the session reads it. -/
def pushes (id : Int) : List SystemLabel := [.devicePush 0 (some (plate id)) [], .readEvent 0]

/-- Thread 2 asks for record 7, and the device receives the request. -/
def asksRecord : List SystemLabel :=
  [.request 2 .record 2 (generatGetRecordByIdCmd 7 false) 5000 1000, .queueThread 1000 .pending,
    .asyncThread 1000 .pending, .deviceReceive 0]

/-- Thread 2 takes what was routed to it. -/
def takes : List SystemLabel := [.wait 2 (.call 1000), .wait 2 (.check 1000)]

/-- The task claims no push, whatever its command. -/
def Task.aloof (task : Task) : Bool :=
  match task.data with
  | .connect _ => task.taskId ≠ 0
  | .request _ _ _ => false
  | _ => true

/-- An aloof task claims no response. -/
theorem Task.not_claims_of_aloof {task : Task} (isAloof : task.aloof = true) (session : UInt32)
    (resCmd : String) : ¬task.Claims session resCmd := by
  unfold aloof at isAloof
  unfold Claims
  split at isAloof
  · next isConnect => simpa [isConnect] using isAloof
  · cases isAloof
  · next notConnect notRequest =>
      split
      · next isConnect => exact absurd isConnect (notConnect _)
      · next isRequest => exact absurd isRequest (notRequest _ _ _)
      · next isRequest => exact absurd isRequest (notRequest _ _ _)
      · exact id

namespace System

/-- A check that is enough for a step to route a push well and a record to the one that
asked for it. -/
def routesApart (system : System) : SdkMessage → Bool
  | ⟨some .queueLayer, messageId, some (.responseData session json data origin)⟩ =>
      match taker messageId (.responseData session json data origin) system.tasks.entries with
      | .task task => origin = some task.taskId
      | _ => origin.isSome || system.tasks.entries.all fun entry => entry.2.aloof
  | ⟨some .queueLayer, messageId, some stanza⟩ =>
      match taker messageId stanza system.tasks.entries with
      | .task ⟨_, _, _, .request .record _ _⟩ => false
      | _ => true
  | _ => true

/-- A check that is enough for a step to leave pushes unclaimed and to keep records apart. -/
def apartCheck (system : System) (label : SystemLabel) : Bool :=
  ((system.issue label).isNone || system.taskCounter.toNat + 1 < 2 ^ 32) &&
    (system.nextMessage label).all system.routesApart &&
      match label with
      | .deviceAnswer serial resJson _ =>
          (system.findSerial serial).all fun session => session.unanswered.head?.all fun request =>
            match request.reqJson.askedRecord, resJson with
            | some asked, .object [("cmd", _), ("id", .int id)] =>
                asked = id && decide (-2 ^ 31 ≤ id ∧ id < 2 ^ 31)
            | _, _ => false
      | .wait thread (.check now) => 0 ≤ timeUntil now (system.threads thread).wait.msEnd
      | _ => true

/-- No task claims a push that is routed apart. -/
theorem unclaimed_of_routesApart {system : System} {label : SystemLabel}
    (apart : (system.nextMessage label).all system.routesApart = true) :
    system.PushUnclaimed label := by
  intro message session json data takes entry member
  obtain ⟨phandler, messageId, pdata⟩ := message
  obtain ⟨isNext, toLayer, payload, _⟩ := takes
  cases toLayer
  cases payload
  rw [isNext] at apart
  simp only [Option.all_some, routesApart] at apart
  split at apart
  · cases of_decide_eq_true apart
  · have aloof : (system.tasks.entries.all fun entry => entry.2.aloof) = true := by
      simpa using apart
    exact Task.not_claims_of_aloof (List.all_eq_true.mp aloof entry member) _ _

/-- A record that is routed apart goes to the task that asked for it. -/
theorem takesOwn_of_routesApart {system : System} {label : SystemLabel}
    (apart : (system.nextMessage label).all system.routesApart = true) :
    system.TakesOwnRecord label := by
  intro message stanza task id isNext toLayer payload _ takes gets
  obtain ⟨phandler, messageId, pdata⟩ := message
  obtain ⟨taskId, thread, timeout, taskData⟩ := task
  obtain ⟨sessionId, needImg, rfl⟩ := gets
  cases toLayer
  cases payload
  rw [isNext] at apart
  simp only [Option.all_some] at apart
  cases stanza with
  | responseData session json data origin =>
      simp only [routesApart, takes] at apart
      exact ⟨session, json, data, by rw [of_decide_eq_true apart]⟩
  | plain | connectData | disconnectData | requestData | reqTask | removeTask =>
      simp only [routesApart, takes] at apart
      cases apart

/-- A step that is checked answers a `get_record` with the record of that id. -/
theorem answersAsked_of_check {system : System} {label : SystemLabel}
    (checked : system.apartCheck label = true) : system.AnswersAsked label := by
  simp only [apartCheck, Bool.and_eq_true] at checked
  unfold AnswersAsked
  split
  · next serial resJson resData =>
      intro session request rest found isUnanswered id needImg isRequest isPlate
      clear isPlate
      have answers := checked.2
      simp only [found, Option.all_some, isUnanswered, List.head?_cons, isRequest,
        generatGetRecordByIdCmd, Json.askedRecord] at answers
      split at answers
      · next isAsked =>
          cases isAsked
          simp only [Bool.and_eq_true, decide_eq_true_eq] at answers
          obtain ⟨rfl, inRange⟩ := answers
          exact fun uId => if_pos inRange
      · cases answers
  · trivial

/-- A step that is checked gives up no `GetRecord` that holds a message of another task. -/
theorem givesUpEmpty_of_check {system : System} {label : SystemLabel}
    (checked : system.apartCheck label = true) : system.GivesUpEmpty label := by
  simp only [apartCheck, Bool.and_eq_true] at checked
  unfold GivesUpEmpty
  split
  · next thread now =>
      intro task id _ _ late
      have before := of_decide_eq_true checked.2
      omega
  · trivial

/-- The check keeps pushes and records apart. -/
theorem apart_of_check (system : System) (label : SystemLabel)
    (checked : system.apartCheck label = true) :
    system.PushUnclaimed label ∧ system.KeepsRecordsApart label := by
  have parts := checked
  simp only [apartCheck, Bool.and_eq_true, Bool.or_eq_true, Option.isNone_iff_eq_none,
    decide_eq_true_eq] at parts
  obtain ⟨⟨counts, apart⟩, _⟩ := parts
  refine ⟨unclaimed_of_routesApart apart, ⟨?_, answersAsked_of_check checked,
    takesOwn_of_routesApart apart, givesUpEmpty_of_check checked⟩⟩
  exact fun issues => counts.resolve_left fun none => by simp [none] at issues

end System

/-- Plate 9 is pushed while nothing is asked for, and record 7 is asked for and returned. -/
theorem pushes_not_swallowed_answered :
    ∃ labels final outputs,
      sdkMachine.RunWhere System.PushRouted (System.start 0) labels final outputs ∧
        ReturnsRecords outputs ∧ (7, 7) ∈ outputs.filterMap SystemOutput.record := by
  let labels := sessionOpened ++ pushes 9 ++ [.queueThread 1000 .pending] ++ asksRecord ++
    [.deviceAnswer 0 (plate 7) [], .readEvent 0, .queueThread 1000 .pending] ++ takes
  have checked : (sdkMachine.exec (System.start 0) labels).any fun result =>
      (7, 7) ∈ result.2.filterMap SystemOutput.record := by decide +kernel
  have permitted : sdkMachine.permits System.apartCheck (System.start 0) labels = true := by
    decide +kernel
  obtain ⟨final, outputs, run, isReturned⟩ :=
    Machine.exists_runWhere_of_exec System.apart_of_check permitted checked
  exact ⟨labels, final, outputs, pushes_not_swallowed.1.mpr (run.mono fun _ _ both => both.1),
    pushes_not_swallowed.2 (run.mono fun _ _ both => both.2), of_decide_eq_true isReturned⟩

/-- The label's turn gives a push to a request. -/
def System.swallows (system : System) (label : SystemLabel) : Bool :=
  match system.nextMessage label with
  | some ⟨some .queueLayer, messageId, some (.responseData session json data none)⟩ =>
      match taker messageId (.responseData session json data none) system.tasks.entries with
      | .task _ => json.isPush
      | _ => false
  | _ => false

/-- A push that is swallowed does not reach the push task. -/
theorem System.not_pushRouted_of_swallows {system : System} {label : SystemLabel}
    (swallowed : system.swallows label = true) : ¬system.PushRouted label := by
  intro routed
  unfold swallows at swallowed
  split at swallowed
  · next messageId session json data isNext =>
      split at swallowed
      · next task isTaken =>
          have nobody := (routed _ session json data ⟨isNext, rfl, rfl, swallowed⟩).1
          rw [isTaken] at nobody
          cases nobody
      · cases swallowed
  · cases swallowed

/-- Plate 9 is pushed while record 7 is asked for: it is given to the request and not to the
push task, and `GetRecord(7)` returns it. -/
theorem plate_swallowed_by_getRecord :
    ∃ before middle earlier, sdkMachine.Run (System.start 0) before middle earlier ∧
      ¬middle.PushRouted (.queueThread 1000 .pending) ∧
        ∃ final outputs,
          sdkMachine.Run middle (.queueThread 1000 .pending :: takes) final outputs ∧
            (7, 9) ∈ outputs.filterMap SystemOutput.record ∧ ¬ReturnsRecords outputs := by
  let before := sessionOpened ++ asksRecord ++ pushes 9
  have checked : (sdkMachine.exec (System.start 0) before).any fun result =>
      result.1.swallows (.queueThread 1000 .pending) &&
        (sdkMachine.exec result.1 (.queueThread 1000 .pending :: takes)).any fun result =>
          (7, 9) ∈ result.2.filterMap SystemOutput.record := by decide +kernel
  obtain ⟨middle, earlier, run, isMiddle⟩ := Machine.exists_run_of_exec checked
  simp only [Bool.and_eq_true] at isMiddle
  obtain ⟨final, outputs, later, isReturned⟩ := Machine.exists_run_of_exec isMiddle.2
  have returned : (7, 9) ∈ outputs.filterMap SystemOutput.record := of_decide_eq_true isReturned
  exact ⟨before, middle, earlier, run, System.not_pushRouted_of_swallows isMiddle.1, final, outputs,
    later, returned, not_returnsRecords_of_mem returned (by decide)⟩

end VzSdk.Sdk
