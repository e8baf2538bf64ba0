import VzSdk.Sdk.Reports
import VzSdk.Sdk.Pushes

/-!
# Notifications of a connection

The reports of a session go through the queue thread, where the first one is the
connect task's, to the push thread, where the device's `ChangeConnPushHandle`
notifies the user. The notifications so far, the reports on the push thread and
those on the queue thread stand one behind the other;
`notifications_alternate` says in which runs they are changes.
-/

namespace VzSdk.Sdk

open VzSdk.Base VzSdk.Event VzSdk.Std

/-- What the user is notified of for a report. -/
def notifyOf : Bool → Notify
  | true => .online
  | false => .offline

/-- The handle notifies of the session's connection. -/
def PushHandle.watches (handle : PushHandle) (sessionId : UInt32) : Bool :=
  handle.kind = .changeConn && handle.sessionId = sessionId

/-- What a push handle notifies about the session. -/
def PushOutput.notification (sessionId : UInt32) (output : PushOutput) : Option Notify :=
  match output.action with
  | .changeConnStatus notify => if output.payload.sessionId = sessionId then some notify else none
  | _ => none

/-- The notifications about the session that the user was given. -/
def notifications (sessionId : UInt32) (outputs : List SystemOutput) : List Notify :=
  outputs.filterMap fun
    | .pushed output => output.notification sessionId
    | _ => none

/-- The notifications come part by part. -/
theorem notifications_append (sessionId : UInt32) (outputs emitted : List SystemOutput) :
    notifications sessionId (outputs ++ emitted) =
      notifications sessionId outputs ++ notifications sessionId emitted := List.filterMap_append

/-! ## What handles notify of -/

section Offer

variable {stanza : Stanza} {sessionId : UInt32} {memory : Json}

/-- What a message must be to report a device. -/
theorem stanza_of_reports {online : Bool} (reports : stanza.reports sessionId = some online) :
    stanza = .plain (if online then .connected else .disconnectedFailure) sessionId := by
  unfold Stanza.reports at reports
  split at reports
  · split at reports
    · next own =>
        cases reports
        rw [own]
        rfl
    · cases reports
  · split at reports
    · next own =>
        cases reports
        rw [own]
        rfl
    · cases reports
  · cases reports

/-- A handle takes no report for its own, and notifies of it if it watches the session. -/
theorem handles_report (memory : Json) {online : Bool}
    (reports : stanza.reports sessionId = some online) (handle : PushHandle) :
    (handle.handleMessageData stanza memory).2 ≠ .accepted ∧
      ((handle.handleMessageData stanza memory).1.map fun action =>
          (⟨stanza, action⟩ : PushOutput)).filterMap (·.notification sessionId) =
        if handle.watches sessionId then [notifyOf online] else [] := by
  have isStanza := stanza_of_reports reports
  have noResponse : stanza.stanzaType ≠ .resStanzaEvent := by
    rw [isStanza]
    cases online <;> exact nofun
  have ofReader {result : List HandleAction × Verdict} (unwatched : handle.kind ≠ .changeConn)
      (refuses : result.2 ≠ .accepted) (reads : ∀ action ∈ result.1, action = .readJson) :
      result.2 ≠ .accepted ∧ ((result.1.map fun action =>
          (⟨stanza, action⟩ : PushOutput)).filterMap (·.notification sessionId) =
        if handle.watches sessionId then [notifyOf online] else []) := by
    refine ⟨refuses, ?_⟩
    rw [PushHandle.watches, decide_eq_false unwatched, Bool.false_and, if_neg Bool.false_ne_true,
      List.filterMap_eq_nil_iff]
    intro output member
    obtain ⟨action, isAction, rfl⟩ := List.mem_map.mp member
    rw [PushOutput.notification, reads action isAction]
  unfold PushHandle.handleMessageData
  split
  · next isIvs =>
      refine ofReader (by simp [isIvs]) ?_ ?_
      all_goals
        unfold PushHandle.ivsHandleMessageData
        split
        · simp
        · split
          · simp
          · simp [noResponse]
  · next isSerial =>
      refine ofReader (by simp [isSerial]) ?_ ?_
      all_goals
        unfold PushHandle.serialHandleMessageData
        split
        · simp
        · split
          · simp
          · simp [noResponse]
  · next isChange =>
      unfold PushHandle.changeConnHandleMessageData PushHandle.watches
      rw [isStanza]
      by_cases own : handle.sessionId = sessionId
      · cases online <;>
          simp [own, isChange, Stanza.sessionId, Stanza.stanzaType, PlainType.stanzaType,
            PushOutput.notification, notifyOf]
      · cases online <;> simp [own, Ne.symm own, isChange, Stanza.sessionId]
  · next isResume =>
      unfold PushHandle.resumeHandleMessageData PushHandle.ownResume PushHandle.watches
      rw [isStanza]
      cases online <;>
        simp [isResume, Stanza.sessionId, Stanza.stanzaType, PlainType.stanzaType,
          PushOutput.notification]

/-- Every handle that watches the session notifies of the report, unless the program ends. -/
theorem notifications_offer (memory : Json) {online : Bool}
    (reports : stanza.reports sessionId = some online) (handles : List PushHandle) :
    ∃ missed, (PushManagerTask.offer stanza memory handles).1.filterMap
        (·.notification sessionId) ++ missed =
          List.replicate (handles.countP (·.watches sessionId)) (notifyOf online) ∧
      ((PushManagerTask.offer stanza memory handles).2 = false → missed = []) := by
  induction handles with
  | nil => exact ⟨[], rfl, fun _ => rfl⟩
  | cons handle handles inductionHypothesis =>
      obtain ⟨notAccepted, notifies⟩ := handles_report memory reports handle
      obtain ⟨missed, whole, complete⟩ := inductionHypothesis
      have own : (if handle.watches sessionId then [notifyOf online] else []) ++
          List.replicate (handles.countP (·.watches sessionId)) (notifyOf online) =
            List.replicate ((handle :: handles).countP (·.watches sessionId)) (notifyOf online) := by
        rw [List.countP_cons]
        split
        · rw [List.replicate_succ]
          rfl
        · rfl
      rw [PushManagerTask.outputs_offer_cons, PushManagerTask.failed_offer_cons,
        List.filterMap_append, notifies]
      cases verdict : (handle.handleMessageData stanza memory).2 with
      | accepted => exact absurd verdict notAccepted
      | failed =>
          refine ⟨List.replicate (handles.countP (·.watches sessionId)) (notifyOf online), ?_, nofun⟩
          simpa using own
      | refused =>
          refine ⟨missed, ?_, complete⟩
          rw [if_pos rfl, List.append_assoc, whole, own]

/-- A handle notifies of nothing else. -/
theorem type_of_changeConnStatus {handle : PushHandle} {notify : Notify}
    (notifies : .changeConnStatus notify ∈ (handle.handleMessageData stanza memory).1) :
    stanza.stanzaType = .resConnectedEvent ∨ stanza.stanzaType = .resDisconnectedEventFailure := by
  unfold PushHandle.handleMessageData at notifies
  split at notifies
  · unfold PushHandle.ivsHandleMessageData at notifies
    split at notifies
    · simp at notifies
    · split at notifies
      · simp at notifies
      · split at notifies <;> simp at notifies
  · unfold PushHandle.serialHandleMessageData at notifies
    split at notifies
    · simp at notifies
    · split at notifies
      · simp at notifies
      · split at notifies <;> simp at notifies
  · unfold PushHandle.changeConnHandleMessageData at notifies
    split at notifies
    · split at notifies
      · next isConnected => exact .inl isConnected
      · split at notifies
        · next isClosed => exact .inr isClosed
        · cases notifies
    · cases notifies
  · unfold PushHandle.resumeHandleMessageData at notifies
    simp only at notifies
    split at notifies
    · split at notifies <;> simp at notifies
    · split at notifies <;> simp at notifies

/-- A message of one of the two types reports its device. -/
theorem reports_of_type (isReport : stanza.stanzaType = .resConnectedEvent ∨
    stanza.stanzaType = .resDisconnectedEventFailure) : stanza.reports stanza.sessionId ≠ none := by
  cases stanza with
  | plain type session =>
      cases type <;>
        simp [Stanza.stanzaType, PlainType.stanzaType, Stanza.reports, Stanza.sessionId] at isReport ⊢
  | connectData reconnect => cases reconnect <;> simp [Stanza.stanzaType] at isReport
  | reqTask task =>
      obtain ⟨taskId, thread, timeout, data⟩ := task
      cases data <;> simp [Stanza.stanzaType, Task.messageType] at isReport
  | _ => simp [Stanza.stanzaType] at isReport

/-- Nobody is notified for other payloads. -/
theorem notifications_offer_none (unrelated : stanza.reports sessionId = none)
    (handles : List PushHandle) :
    (PushManagerTask.offer stanza memory handles).1.filterMap (·.notification sessionId) = [] := by
  rw [List.filterMap_eq_nil_iff]
  intro output member
  rw [PushManagerTask.offer_eq_acts] at member
  obtain ⟨act, acts, rfl⟩ := List.mem_map.mp member
  unfold PushOutput.notification
  split
  · next isNotify =>
      have notifies := (PushManagerTask.mem_acts.mp acts).2
      rw [show act.2 = _ from isNotify] at notifies
      split
      · next own => exact absurd (own ▸ unrelated) (reports_of_type (type_of_changeConnStatus notifies))
      · rfl
  · rfl

end Offer

/-! ## The push thread's queue -/

/-- What the message reports to the push task about the session. -/
def pushReport (taskId sessionId : UInt32) (message : SdkMessage) : Option Bool :=
  if message.phandler = some (.task taskId) ∧ message.messageId ≠ mqidDispose then
    message.pdata.bind (·.reports sessionId)
  else none

/-- A message that disposes of data reports no device. -/
theorem pushReport_of_dispose (taskId sessionId : UInt32) (message : SdkMessage)
    (dispose : message.messageId = mqidDispose) : pushReport taskId sessionId message = none := by
  simp [pushReport, dispose]

namespace System

/-- The queue of the push thread. -/
def pushQueue (system : System) : SdkQueue := (system.threads system.pushThread).wait.queue

/-- The reports on the push thread, in order. -/
def pushReports (sessionId : UInt32) (system : System) : List Bool :=
  system.pushQueue.msgq.filterMap (pushReport system.pushManager.taskId sessionId)

/-- The reports on the queue thread, in order. -/
def queueReports (sessionId : UInt32) (system : System) : List Bool :=
  system.queueThread.msgq.filterMap (report sessionId)

end System

/-- A report of the session has been routed. -/
def noteBegun (sessionId : UInt32) (begun : Bool) (system : System) (label : SystemLabel)
    (_ : System) : Bool :=
  begun || ((system.nextMessage label).bind (report sessionId)).isSome

/-- The machine of the SDK with a note of whether the session's first report was routed. -/
def notificationMachine (sessionId : UInt32) : Machine (System × Bool) SystemLabel SystemOutput :=
  sdkMachine.watch (noteBegun sessionId)

/-- The step passes the session's reports on: a task takes the first one and no other, and
each other one finds one handle of the session. -/
structure PassesOn (sessionId : UInt32) (watched : System × Bool) (label : SystemLabel) :
    Prop where
  first : watched.2 = false → ∀ message stanza, watched.1.nextMessage label = some message →
    report sessionId message ≠ none → message.pdata = some stanza →
      ∃ task, taker message.messageId stanza watched.1.tasks.entries = .task task ∧
        task.taskId ≠ watched.1.pushManager.taskId
  later : watched.2 = true → ∀ message stanza, watched.1.nextMessage label = some message →
    report sessionId message ≠ none → message.pdata = some stanza →
      taker message.messageId stanza watched.1.tasks.entries = .nobody ∧
        PushManagerTask.changeConnStatusKey ∈ watched.1.pushManager.pushHandleKeys
  handled : ∀ now memory, label = .pushThread now memory →
    (watched.1.pushQueue.getPass now .zero).found = true →
      pushReport watched.1.pushManager.taskId sessionId
          (watched.1.pushQueue.getPass now .zero).pmsg ≠ none →
        watched.1.pushManager.pushHandles.countP (·.watches sessionId) = 1
  kept : ∀ step pass, label = .wait watched.1.pushThread step →
    (watched.1.threads watched.1.pushThread).wait.nextPass step = some pass → pass.found = true →
      pushReport watched.1.pushManager.taskId sessionId pass.pmsg = none

/-- The session's objects report changes, and the step passes their reports on. -/
def NotifiesChanges (sessionId : UInt32) (watched : System × Bool) (label : SystemLabel) : Prop :=
  watched.1.ReportsChanges sessionId label ∧ PassesOn sessionId watched label

/-! ## Every step -/

/-- What holds of the push thread's queue in every reachable state. -/
structure TidyPush (sessionId : UInt32) (system : System) : Prop where
  running : system.pushQueue.fStop = false
  unpeeked : system.pushQueue.msgPeek = none
  undelayed : ∀ delayed ∈ system.pushQueue.dmsgq,
    pushReport system.pushManager.taskId sessionId delayed.msg = none
  isPush : system.pushManager.taskId = 2

section Step

variable {sessionId : UInt32} {system next : System} {label : SystemLabel}
  {emitted : List SystemOutput}

/-- The push thread stays the same. -/
theorem pushThread_step (transition : system.step label = some (next, emitted)) :
    next.pushThread = system.pushThread := by
  have taken : (system.taken label).pushThread = system.pushThread := by rw [System.taken_eq]
  cases System.kind_of_step transition with
  | event isEvent found signals => exact signals.sessionSide.pushThread
  | resume => rfl
  | idle => exact taken
  | call isCall noEvent side => rw [side.frame]
  | @dispatch _ message now answer isTurn isNext =>
      by_cases toLayer : message.phandler = some .queueLayer
      · unfold System.dispatch
        rw [toLayer]
        simp only
        rw [System.frame_queueLayerOnMessage]
        exact taken
      · exact (System.sessionSide_dispatch _ now answer toLayer).pushThread.trans taken

/-- A pass over the push thread's queue takes the first report, or none. -/
theorem pushReports_getPass (tidy : TidyPush sessionId system) (now : UInt32) (pmsg : SdkMessage) :
    system.pushReports sessionId =
        (if (system.pushQueue.getPass now pmsg).found then
          (pushReport system.pushManager.taskId sessionId
            (system.pushQueue.getPass now pmsg).pmsg).toList
        else []) ++ (system.pushQueue.getPass now pmsg).queue.msgq.filterMap
          (pushReport system.pushManager.taskId sessionId) ∧
      (system.pushQueue.getPass now pmsg).queue.msgPeek = none ∧
      ∀ delayed ∈ (system.pushQueue.getPass now pmsg).queue.dmsgq,
        pushReport system.pushManager.taskId sessionId delayed.msg = none :=
  MessageQueue.filterMap_getPass (pushReport_of_dispose _ _) system.pushQueue now pmsg
    tidy.unpeeked tidy.undelayed

/-- A pass of a wait is one of its queue. -/
theorem pass_of_nextPass {wait : WaitState Component Stanza} {step : WaitLabel Component Stanza}
    {pass : GetPass Component Stanza} (passes : wait.nextPass step = some pass) :
    ∃ now pmsg, pass = wait.queue.getPass now pmsg := by
  unfold WaitState.nextPass at passes
  split at passes
  · cases passes
    exact ⟨_, _, rfl⟩
  · split at passes
    · split at passes
      · cases passes
      · cases passes
        exact ⟨_, _, rfl⟩
    · cases passes
  · cases passes

/-- What a step leaves on the push thread, for all but the turns of that thread. -/
theorem pushQueue_step (tidy : TidyPush sessionId system)
    (transition : system.step label = some (next, emitted)) :
    TidyPush sessionId next ∧
      ((∀ now memory, label ≠ .pushThread now memory) →
        (∀ step pass, label = .wait system.pushThread step →
          (system.threads system.pushThread).wait.nextPass step = some pass → pass.found = true →
            pushReport system.pushManager.taskId sessionId pass.pmsg = none) →
        (∀ message, system.Routes label system.pushThread message →
          pushReport system.pushManager.taskId sessionId message = none) →
        next.pushReports sessionId = system.pushReports sessionId) := by
  have sameId := (System.taskCounter_step transition).2
  have isPush : next.pushManager.taskId = 2 := sameId.trans tidy.isPush
  have isQueue : next.pushQueue = (next.threads system.pushThread).wait.queue := by
    rw [System.pushQueue, pushThread_step transition]
  have queue := System.queue_step transition system.pushThread
  rw [← isQueue] at queue
  have ofPass {now : UInt32} {pmsg : SdkMessage}
      (isPass : next.pushQueue = (system.pushQueue.getPass now pmsg).queue) :
      TidyPush sessionId next := by
    obtain ⟨_, unpeeked, undelayed⟩ := pushReports_getPass tidy now pmsg
    refine ⟨?_, isPass ▸ unpeeked, ?_, isPush⟩
    · rw [isPass, MessageQueue.fStop_getPass, tidy.running]
    · rw [isPass, sameId]
      exact undelayed
  unfold System.pushReports
  rw [sameId]
  generalize isNext : next.pushQueue = after at queue
  -- A queue that was not passed over still runs and has nothing peeked at.
  have ofQueue (running : after.fStop = false) (unpeeked : after.msgPeek = none)
      (fewer : ∀ delayed ∈ after.dmsgq, delayed ∈ system.pushQueue.dmsgq) :
      TidyPush sessionId next := by
    subst isNext
    refine ⟨running, unpeeked, ?_, isPush⟩
    rw [sameId]
    exact fun delayed member => tidy.undelayed delayed (fewer delayed member)
  cases queue with
  | same => exact ⟨ofQueue tidy.running tidy.unpeeked fun _ => id, fun _ _ _ => rfl⟩
  | turn isTurn => exact ⟨ofPass isNext, fun noTurn => absurd isTurn (noTurn _ _)⟩
  | wait isWait passes =>
      obtain ⟨now, pmsg, rfl⟩ := pass_of_nextPass passes
      refine ⟨ofPass isNext, fun _ kept _ => ?_⟩
      obtain ⟨first, _, _⟩ := pushReports_getPass tidy now pmsg
      unfold System.pushReports at first
      rw [first]
      split
      · next found =>
          rw [show pushReport _ _ (system.pushQueue.getPass now pmsg).pmsg = none from
            kept _ _ isWait passes found]
          rfl
      · rfl
  | @routed message routes =>
      have posted : (system.threads system.pushThread).wait.queue.post message =
          { system.pushQueue with msgq := system.pushQueue.msgq ++ [message] } := by
        simp only [MessageQueue.post, System.pushQueue,
          show (system.threads system.pushThread).wait.queue.fStop = false from tidy.running]
        rfl
      rw [posted] at ofQueue ⊢
      refine ⟨ofQueue tidy.running tidy.unpeeked fun _ => id, fun _ _ unrouted => ?_⟩
      simp [unrouted message routes]
  | @cleared taskId isDestroy foreign =>
      refine ⟨ofQueue tidy.running ?_ fun _ member => (List.mem_filter.mp member).1,
        fun _ _ _ => ?_⟩
      · simp [MessageQueue.clear, show (system.threads system.pushThread).wait.queue.msgPeek = none
          from tidy.unpeeked]
      · simp only [MessageQueue.clear, List.filterMap_filter]
        congr 1
        funext message
        by_cases own : message.phandler = some (.task system.pushManager.taskId)
        · simp [Message.matches, own, foreign]
        · simp [pushReport, own]

/-- Only the push thread notifies. -/
theorem notifications_of_step (transition : system.step label = some (next, emitted))
    (noTurn : ∀ now memory, label ≠ .pushThread now memory) :
    notifications sessionId emitted = [] := by
  cases System.kind_of_step transition with
  | event | resume | idle => rfl
  | dispatch =>
      rw [notifications, List.filterMap_eq_nil_iff]
      intro output member
      have isManager := System.outputs_dispatch _ _ _ _ output member
      cases output with
      | pushed => cases isManager
      | _ => rfl
  | call isCall noEvent side =>
      cases System.callKind_of_step (System.isCall_of_kind isCall noEvent) transition with
      | push => exact absurd rfl (noTurn _ _)
      | _ => rfl

/-- The notifications among what the push task puts out. -/
theorem notifications_pushed (outputs : List PushOutput) :
    notifications sessionId (outputs.map .pushed) =
      outputs.filterMap (·.notification sessionId) := by
  rw [notifications, List.filterMap_map]
  rfl

/-- The payload that a turn of the push thread dispatches. -/
def System.pushPayload (system : System) (now : UInt32) : Option Stanza :=
  let pass := system.pushQueue.getPass now .zero
  if pass.found ∧ pass.pmsg.phandler = some (.task system.pushManager.taskId) then pass.pmsg.pdata
  else none

/-- What a turn of the push thread does. -/
theorem pushThreadTurn_eq {now : UInt32} {memory : Json}
    (transition : system.step (.pushThread now memory) = some (next, emitted)) :
    next.pushQueue = (system.pushQueue.getPass now .zero).queue ∧
      next.pushManager = system.pushManager ∧
      next.failed = (system.pushManager.processPushEvent (system.pushPayload now) memory).2 ∧
      emitted =
        (system.pushManager.processPushEvent (system.pushPayload now) memory).1.map .pushed := by
  unfold System.step at transition
  split at transition
  · cases transition
  · simp only [System.pushThreadTurn] at transition
    split at transition
    · cases transition
      refine ⟨?_, rfl, rfl, rfl⟩
      simp [System.pushQueue, System.setThread]
    · cases transition

/-- What a turn of the push thread reports is what it takes from its queue. -/
theorem pushPayload_reports (tidy : TidyPush sessionId system) (now : UInt32) :
    (system.pushPayload now).bind (·.reports sessionId) =
      if (system.pushQueue.getPass now .zero).found then
        pushReport system.pushManager.taskId sessionId (system.pushQueue.getPass now .zero).pmsg
      else none := by
  unfold System.pushPayload pushReport
  simp only
  by_cases found : (system.pushQueue.getPass now .zero).found = true
  · obtain ⟨_, _, _, _, taken, isFound⟩ :=
      MessageQueue.getPass_unpeeked system.pushQueue now .zero tidy.unpeeked
    have lasting : (system.pushQueue.getPass now .zero).pmsg.messageId ≠ mqidDispose := by
      rw [taken]
      exact MessageQueue.pull_lasting (isFound ▸ found)
    by_cases own : (system.pushQueue.getPass now .zero).pmsg.phandler =
        some (.task system.pushManager.taskId)
    · simp [found, own, lasting]
    · simp [own]
  · simp [found]

/-- A turn of the push thread takes the first report and notifies of it, once. -/
theorem notifications_turn (tidy : TidyPush sessionId system) {now : UInt32} {memory : Json}
    (one : (system.pushQueue.getPass now .zero).found = true →
      pushReport system.pushManager.taskId sessionId
          (system.pushQueue.getPass now .zero).pmsg ≠ none →
        system.pushManager.pushHandles.countP (·.watches sessionId) = 1)
    (transition : system.step (.pushThread now memory) = some (next, emitted)) :
    ∃ taken missed, system.pushReports sessionId = taken ++ next.pushReports sessionId ∧
      notifications sessionId emitted ++ missed = taken.map notifyOf ∧
      (next.failed = false → missed = []) := by
  obtain ⟨isQueue, sameManager, isFailed, rfl⟩ := pushThreadTurn_eq transition
  obtain ⟨first, _, _⟩ := pushReports_getPass tidy now .zero
  have payload := pushPayload_reports tidy now
  have taken : system.pushReports sessionId =
      ((system.pushPayload now).bind (·.reports sessionId)).toList ++
        next.pushReports sessionId := by
    rw [payload, first, System.pushReports, isQueue, sameManager]
    split <;> rfl
  rw [notifications_pushed, isFailed]
  cases isPayload : system.pushPayload now with
  | none =>
      rw [isPayload] at taken
      exact ⟨[], [], taken, rfl, fun _ => rfl⟩
  | some stanza =>
      rw [isPayload] at taken payload
      simp only [Option.bind_some] at taken payload
      cases reports : stanza.reports sessionId with
      | none =>
          rw [reports] at taken
          refine ⟨[], [], taken, ?_, fun _ => rfl⟩
          rw [PushManagerTask.processPushEvent, notifications_offer_none reports]
          rfl
      | some online =>
          rw [reports] at taken payload
          obtain ⟨missed, whole, complete⟩ := notifications_offer memory reports
            system.pushManager.pushHandles
          have isOne : system.pushManager.pushHandles.countP (·.watches sessionId) = 1 := by
            split at payload
            · next found => exact one found (by simp [← payload])
            · cases payload
          rw [isOne] at whole
          exact ⟨[online], missed, taken, whole, complete⟩

/-- What a message for the queue layer must be to report a device. -/
theorem report_eq_some {message : SdkMessage} {online : Bool}
    (isReport : report sessionId message = some online) :
    message.phandler = some .queueLayer ∧ ∃ stanza, message.pdata = some stanza ∧
      stanza.reports sessionId = some online := by
  unfold report at isReport
  split at isReport
  · next handed =>
      obtain ⟨stanza, payload, reports⟩ := Option.bind_eq_some_iff.mp isReport
      exact ⟨handed.1, stanza, payload, reports⟩
  · cases isReport

/-- The push task posts a report to its thread, if it has the key of notifications. -/
theorem pushHandleMessage_report {base : System} {stanza : Stanza} {online : Bool}
    (reports : stanza.reports sessionId = some online) (messageId : UInt32)
    (known : PushManagerTask.changeConnStatusKey ∈ base.pushManager.pushHandleKeys) :
    base.pushHandleMessage messageId stanza = base.postThread base.pushThread
      ⟨some (.task base.pushManager.taskId), base.pushManager.taskId, some stanza⟩ := by
  have isStanza := stanza_of_reports reports
  have handled : base.pushManager.handleMessage messageId stanza = some ⟨true, false⟩ := by
    rw [isStanza]
    cases online <;>
      simp [PushManagerTask.handleMessage, Stanza.stanzaType, PlainType.stanzaType, known]
  simp [System.pushHandleMessage, handled]

/-- What is handed to the push thread is no report for the push task, when no report is taken
from the queue thread or when another task takes it. -/
theorem pushReport_of_routes (tidy : system.Tidy) {message : SdkMessage}
    (routes : system.Routes label system.pushThread message)
    (elsewhere : (system.nextMessage label).bind (report sessionId) = none ∨
      ∀ other stanza, system.nextMessage label = some other → other.pdata = some stanza →
        ∃ task, taker other.messageId stanza system.tasks.entries = .task task ∧
          task.taskId ≠ system.pushManager.taskId) :
    pushReport system.pushManager.taskId sessionId message = none := by
  have unreported {other : SdkMessage} {stanza : Stanza}
      (isNext : system.nextMessage label = some other)
      (toLayer : other.phandler = some .queueLayer) (payload : other.pdata = some stanza)
      (nothing : (system.nextMessage label).bind (report sessionId) = none) :
      stanza.reports sessionId = none := by
    have lasting := System.lasting_of_next tidy isNext toLayer
    simpa [isNext, report, toLayer, lasting, payload] using nothing
  generalize isThread : system.pushThread = thread at routes
  cases routes with
  | @toTask other stanza task isNext toLayer payload routed takes =>
      rcases elsewhere with nothing | taken
      · simp [pushReport, unreported isNext toLayer payload nothing]
      · obtain ⟨taker, isTaker, differ⟩ := taken other stanza isNext payload
        rw [takes] at isTaker
        cases isTaker
        simp [pushReport, differ]
  | @toPush other stanza isNext toLayer payload routed nobody =>
      rcases elsewhere with nothing | taken
      · simp [pushReport, unreported isNext toLayer payload nothing]
      · obtain ⟨taker, isTaker, _⟩ := taken other stanza isNext payload
        rw [nobody] at isTaker
        cases isTaker

/-- A report that no task takes gets to the end of the push thread's queue. -/
theorem pushReports_routed {pushThread : Nat} (tidy : system.Tidy)
    (push : TidyPush sessionId system) (first : system.PushFirst pushThread)
    {message : SdkMessage} {online : Bool} (isNext : system.nextMessage label = some message)
    (isReport : report sessionId message = some online)
    (nobody : ∀ stanza, message.pdata = some stanza →
      taker message.messageId stanza system.tasks.entries = .nobody ∧
        PushManagerTask.changeConnStatusKey ∈ system.pushManager.pushHandleKeys)
    (transition : system.step label = some (next, emitted)) :
    next.pushReports sessionId = system.pushReports sessionId ++ [online] := by
  obtain ⟨toLayer, stanza, payload, reports⟩ := report_eq_some isReport
  obtain ⟨isNobody, known⟩ := nobody stanza payload
  have isStanza := stanza_of_reports reports
  have registered : system.pushRegistered = true := by
    refine System.pushRegistered_of_next first tidy isNext toLayer payload ?_
    rw [isStanza]
    cases online <;> rfl
  have lasting : system.pushManager.taskId ≠ mqidDispose := by
    rw [push.isPush]
    decide
  have isFinal : next = (system.taken label).postThread system.pushThread
      ⟨some (.task system.pushManager.taskId), system.pushManager.taskId, some stanza⟩ := by
    obtain ⟨now, answer, isDispatch, -⟩ := System.dispatch_of_next isNext transition
    have routed : (system.taken label).queueLayerOnMessage message =
        (system.taken label).onTranslateToSyncLayer message.messageId stanza := by
      unfold System.queueLayerOnMessage
      rw [payload, isStanza]
      cases online <;> rfl
    have sameTasks : (system.taken label).tasks = system.tasks := by rw [System.taken_eq]
    have samePush : (system.taken label).pushRegistered = true := by
      rw [System.taken_eq]
      exact registered
    have sameManager : (system.taken label).pushManager = system.pushManager := by
      rw [System.taken_eq]
    have sameThread : (system.taken label).pushThread = system.pushThread := by
      rw [System.taken_eq]
    rw [isDispatch]
    unfold System.dispatch
    rw [toLayer]
    simp only [routed, System.onTranslateToSyncLayer]
    rw [sameTasks, isNobody]
    simp only [samePush, if_true]
    rw [pushHandleMessage_report reports _ (sameManager ▸ known), sameManager, sameThread]
  have threads : (system.taken label).threads = system.threads := by rw [System.taken_eq]
  have isQueue : next.pushQueue = system.pushQueue.post
      ⟨some (.task system.pushManager.taskId), system.pushManager.taskId, some stanza⟩ := by
    unfold System.pushQueue
    rw [pushThread_step transition, isFinal]
    simp [System.postThread, System.setThread, threads]
  have sameId := (System.taskCounter_step transition).2
  unfold System.pushReports
  rw [isQueue, sameId]
  simp [MessageQueue.post, push.running, pushReport, lasting, reports]

end Step

/-- The notifications, the reports on the push thread and those on the queue thread. -/
structure Relayed (pushThread : Nat) (sessionId : UInt32) (watched : System × Bool)
    (outputs : List SystemOutput) : Prop where
  tidy : watched.1.Tidy
  first : watched.1.PushFirst pushThread
  heard : watched.1.Heard sessionId
  undelayed : ∀ delayed ∈ watched.1.queueThread.dmsgq, report sessionId delayed.msg = none
  push : TidyPush sessionId watched.1
  relayed : ∃ notified : List Bool, notifications sessionId outputs = notified.map notifyOf ∧
    Alternates watched.2
      (notified ++ watched.1.pushReports sessionId ++ watched.1.queueReports sessionId)
      (System.isUp watched.1.asyncSessions sessionId) ∧
    (watched.2 = false → notified = [] ∧ watched.1.pushReports sessionId = [])

/-- The notifications are changes, from a device that is online. -/
def NotifiedChanges (sessionId : UInt32) (outputs : List SystemOutput) : Prop :=
  ∃ current, Alternates .online (notifications sessionId outputs) current

/-- Online and offline are two notifications. -/
theorem notifyOf_inj {first second : Bool} (same : notifyOf first = notifyOf second) :
    first = second := by
  cases first <;> cases second <;> first | rfl | cases same

section Run

variable {pushThread : Nat} {sessionId : UInt32} {watched next : System × Bool}
  {label : SystemLabel} {outputs emitted : List SystemOutput}

/-- The pipeline after a step, up to the reports that the queue thread still holds. -/
def Relays (sessionId : UInt32) (next : System × Bool) (outputs : List SystemOutput)
    (queued : List Bool) (current : Bool) : Prop :=
  ∃ notified missed, notifications sessionId outputs ++ missed = notified.map notifyOf ∧
    (next.1.failed = false → missed = []) ∧
    Alternates next.2 (notified ++ next.1.pushReports sessionId ++ queued) current ∧
    (next.2 = false → notified = [] ∧ next.1.pushReports sessionId = [])

/-- A turn of the push thread notifies of its first report. -/
theorem Relayed.turn (relayed : Relayed pushThread sessionId watched outputs) {now : UInt32}
    {memory : Json} (passes : PassesOn sessionId watched (.pushThread now memory))
    (transition : watched.1.step (.pushThread now memory) = some (next.1, emitted))
    (same : next.2 = watched.2) :
    Relays sessionId next (outputs ++ emitted) (watched.1.queueReports sessionId)
      (System.isUp watched.1.asyncSessions sessionId) := by
  obtain ⟨notified, isNotified, alternates, unbegun⟩ := relayed.relayed
  obtain ⟨taken, missed, isTaken, notifies, complete⟩ := notifications_turn relayed.push
    (passes.handled now memory rfl) transition
  unfold Relays
  rw [same]
  refine ⟨notified ++ taken, missed, ?_, complete, ?_, fun notBegun => ?_⟩
  · rw [notifications_append, isNotified, List.append_assoc, notifies, List.map_append]
  · rw [isTaken] at alternates
    simpa only [List.append_assoc] using alternates
  · obtain ⟨none, empty⟩ := unbegun notBegun
    rw [isTaken] at empty
    obtain ⟨noneTaken, noneLeft⟩ := List.append_eq_nil_iff.mp empty
    exact ⟨by rw [none, noneTaken]; rfl, noneLeft⟩

/-- The connect task takes the first report. -/
theorem Relayed.first_taken (relayed : Relayed pushThread sessionId watched outputs)
    {message : SdkMessage} {online : Bool} {queued : List Bool}
    (passes : PassesOn sessionId watched label)
    (transition : watched.1.step label = some (next.1, emitted))
    (isNext : watched.1.nextMessage label = some message)
    (reports : report sessionId message = some online)
    (isFront : watched.1.queueReports sessionId = online :: queued)
    (notBegun : watched.2 = false) (begun : next.2 = true) :
    Relays sessionId next (outputs ++ emitted) queued
      (System.isUp watched.1.asyncSessions sessionId) := by
  obtain ⟨notified, isNotified, alternates, unbegun⟩ := relayed.relayed
  obtain ⟨rfl, empty⟩ := unbegun notBegun
  have noTurn : ∀ now memory, label ≠ .pushThread now memory := by
    rintro now memory rfl
    cases isNext
  have samePush : next.1.pushReports sessionId = [] := by
    rw [← empty]
    refine (pushQueue_step relayed.push transition).2 noTurn passes.kept fun other routes => ?_
    refine pushReport_of_routes relayed.tidy routes (.inr fun other stanza isOther payload => ?_)
    rw [isNext] at isOther
    cases isOther
    exact passes.first notBegun message stanza isNext (by simp [reports]) payload
  rw [isFront, notBegun, empty] at alternates
  unfold Relays
  rw [begun]
  refine ⟨[], [], ?_, fun _ => rfl, ?_, by simp⟩
  · rw [notifications_append, isNotified, notifications_of_step transition noTurn]
    rfl
  · rw [samePush]
    cases alternates with
    | cons differ rest =>
        have isOnline : online = true := by simpa using differ
        rw [isOnline] at rest
        exact rest

/-- A later report goes to the push thread. -/
theorem Relayed.later_routed (relayed : Relayed pushThread sessionId watched outputs)
    {message : SdkMessage} {online : Bool} {queued : List Bool}
    (passes : PassesOn sessionId watched label)
    (transition : watched.1.step label = some (next.1, emitted))
    (isNext : watched.1.nextMessage label = some message)
    (reports : report sessionId message = some online)
    (isFront : watched.1.queueReports sessionId = online :: queued)
    (isBegun : watched.2 = true) (begun : next.2 = true) :
    Relays sessionId next (outputs ++ emitted) queued
      (System.isUp watched.1.asyncSessions sessionId) := by
  obtain ⟨notified, isNotified, alternates, -⟩ := relayed.relayed
  have noTurn : ∀ now memory, label ≠ .pushThread now memory := by
    rintro now memory rfl
    cases isNext
  have routed := pushReports_routed relayed.tidy relayed.push relayed.first isNext reports
    (fun stanza payload => passes.later isBegun message stanza isNext (by simp [reports]) payload)
    transition
  rw [isFront, isBegun] at alternates
  unfold Relays
  rw [begun]
  refine ⟨notified, [], ?_, fun _ => rfl, ?_, by simp⟩
  · rw [notifications_append, isNotified, notifications_of_step transition noTurn]
    simp
  · rw [routed]
    simpa only [List.append_assoc, List.singleton_append] using alternates

/-- The reports that are ahead of those on the queue thread, after a step. -/
theorem Relayed.passesOn (relayed : Relayed pushThread sessionId watched outputs)
    (passes : PassesOn sessionId watched label)
    (transition : (notificationMachine sessionId).step watched label = some (next, emitted)) :
    Relays sessionId next (outputs ++ emitted) ((watched.1.taken label).queueReports sessionId)
      (System.isUp watched.1.asyncSessions sessionId) := by
  obtain ⟨stepped, noted⟩ := Machine.step_of_watch transition
  obtain ⟨front, _⟩ := System.ready_taken relayed.tidy (layerKind_report sessionId)
    relayed.undelayed label
  cases isReport : (watched.1.nextMessage label).bind (report sessionId) with
  | none =>
      have same : next.2 = watched.2 := by simp [noted, noteBegun, isReport]
      rw [isReport] at front
      have sameQueue : watched.1.queueReports sessionId =
          (watched.1.taken label).queueReports sessionId := front
      rw [← sameQueue]
      by_cases isTurn : ∃ now memory, label = .pushThread now memory
      · obtain ⟨now, memory, rfl⟩ := isTurn
        exact relayed.turn passes stepped same
      · have noTurn : ∀ now memory, label ≠ .pushThread now memory :=
          fun now memory isLabel => isTurn ⟨now, memory, isLabel⟩
        have samePush : next.1.pushReports sessionId = watched.1.pushReports sessionId := by
          refine (pushQueue_step relayed.push stepped).2 noTurn passes.kept fun message routes => ?_
          exact pushReport_of_routes relayed.tidy routes (.inl isReport)
        obtain ⟨notified, isNotified, alternates, unbegun⟩ := relayed.relayed
        unfold Relays
        rw [same, samePush]
        refine ⟨notified, [], ?_, fun _ => rfl, alternates, unbegun⟩
        rw [notifications_append, isNotified, notifications_of_step stepped noTurn]
        simp
  | some online =>
      obtain ⟨message, isNext, reports⟩ := Option.bind_eq_some_iff.mp isReport
      have begun : next.2 = true := by simp [noted, noteBegun, isReport]
      rw [isReport] at front
      have isFront : watched.1.queueReports sessionId =
          online :: (watched.1.taken label).queueReports sessionId := front
      cases isBegun : watched.2 with
      | false => exact relayed.first_taken passes stepped isNext reports isFront isBegun begun
      | true => exact relayed.later_routed passes stepped isNext reports isFront isBegun begun

/-- Notifications that the pipeline starts with are changes. -/
theorem notifiedChanges_of_alternates {begun current : Bool} {notified more : List Bool}
    {missed : List Notify} (alternates : Alternates begun (notified ++ more) current)
    (unbegun : begun = false → notified = [])
    (whole : notifications sessionId outputs ++ missed = notified.map notifyOf) :
    NotifiedChanges sessionId outputs := by
  obtain ⟨middle, first, _⟩ := alternates.split
  cases begun with
  | false =>
      rw [unbegun rfl] at whole
      rw [NotifiedChanges, (List.append_eq_nil_iff.mp whole).1]
      exact ⟨_, .nil⟩
  | true =>
      have renamed : Alternates .online (notified.map notifyOf) (notifyOf middle) :=
        first.map notifyOf_inj
      rw [← whole] at renamed
      obtain ⟨last, changes, _⟩ := renamed.split
      exact ⟨last, changes⟩

/-- A step relays the reports when it notifies of changes only. -/
theorem Relayed.step (relayed : Relayed pushThread sessionId watched outputs)
    (changes : NotifiesChanges sessionId watched label)
    (transition : (notificationMachine sessionId).step watched label = some (next, emitted)) :
    NotifiedChanges sessionId (outputs ++ emitted) ∧
      (next.1.failed = false → Relayed pushThread sessionId next (outputs ++ emitted)) := by
  obtain ⟨notified, missed, whole, complete, alternates, unbegun⟩ :=
    relayed.passesOn changes.2 transition
  have stepped := (Machine.step_of_watch transition).1
  refine ⟨?_, fun goesOn => ?_⟩
  · refine notifiedChanges_of_alternates (List.append_assoc _ _ _ ▸ alternates) ?_ whole
    exact fun notBegun => (unbegun notBegun).1
  · obtain ⟨reports, isReports, alternatesNext⟩ :=
      System.reports_step relayed.tidy relayed.heard changes.1 stepped
    obtain ⟨_, _, _, undelayed⟩ := System.ready_step relayed.tidy (layerKind_report sessionId)
      relayed.undelayed stepped
    refine ⟨System.tidy_step relayed.tidy stepped, System.pushFirst_step relayed.first relayed.tidy
      stepped, System.heard_step relayed.tidy relayed.heard changes.1 stepped, undelayed,
      (pushQueue_step relayed.push stepped).1, notified, ?_, ?_, unbegun⟩
    · rw [complete goesOn, List.append_nil] at whole
      exact whole
    · rw [System.queueReports, isReports, ← List.append_assoc]
      exact alternates.append alternatesNext

end Run

/-- Nothing is to be relayed at the start. -/
theorem relayed_start (pushThread : Nat) (sessionId : UInt32) :
    Relayed pushThread sessionId (System.start pushThread, false) [] where
  tidy := System.tidy_start pushThread
  first := .inr rfl
  heard _ found := nomatch found
  undelayed _ member := absurd member List.not_mem_nil
  push := ⟨rfl, rfl, fun _ member => absurd member List.not_mem_nil, rfl⟩
  relayed := ⟨[], rfl, .nil, fun _ => ⟨rfl, rfl⟩⟩

/-- In every run in which the session's objects report changes of its connection and the
reports are passed on, what the user is notified of alternates, from OFFLINE on. -/
theorem notifications_alternate {pushThread : Nat} {sessionId : UInt32} {labels : List SystemLabel}
    {final : System × Bool} {outputs : List SystemOutput}
    (run : (notificationMachine sessionId).RunWhere (NotifiesChanges sessionId)
      (System.start pushThread, false) labels final outputs) :
    ∃ current, Alternates .online (notifications sessionId outputs) current := by
  have sound : NotifiedChanges sessionId outputs ∧
      (final.1.failed = false → Relayed pushThread sessionId final outputs) := by
    refine run.invariant (fun _ watched outputs => NotifiedChanges sessionId outputs ∧
      (watched.1.failed = false → Relayed pushThread sessionId watched outputs))
      ⟨⟨_, .nil⟩, fun _ => relayed_start pushThread sessionId⟩ ?_
    intro labels watched outputs label next emitted inv changes transition
    have alive : watched.1.failed = false := by
      have stepped := (Machine.step_of_watch transition).1
      cases isFailed : watched.1.failed with
      | false => rfl
      | true => simp [sdkMachine, System.step, isFailed] at stepped
    exact (inv.2 alive).step changes transition
  exact sound.1

/-! ## Two runs -/

/-- A check that is enough for a message that a thread of the SDK takes. -/
def System.messageCheck (sessionId : UInt32) (system : System) (now : UInt32)
    (answer : ConnectAnswer) (message : SdkMessage) : Bool :=
  match message.phandler, message.pdata with
  | some (.session serial), _ =>
      (system.findSerial serial).all fun session => !session.timedOut now
  | _, some (.connectData _ other _) =>
      other ≠ mqidDispose && message.messageId ≠ mqidDispose && answer.outcome ≠ .succeeded
  | _, some (.disconnectData _) => false
  | _, some (.plain .removeSession _) => !System.isUp system.asyncSessions sessionId
  | _, _ => true

/-- A check that is enough for a report that the queue layer routes. -/
def passCheck (watched : System × Bool) (message : SdkMessage) : Bool :=
  message.pdata.all fun stanza =>
    match watched.2, taker message.messageId stanza watched.1.tasks.entries with
    | false, .task task => task.taskId ≠ watched.1.pushManager.taskId
    | true, .nobody =>
        watched.1.pushManager.pushHandleKeys.contains PushManagerTask.changeConnStatusKey
    | _, _ => false

/-- A check that is enough for a step to notify of changes. -/
def changesCheck (sessionId : UInt32) (watched : System × Bool) (label : SystemLabel) : Bool :=
  (watched.1.nextMessage label).all (fun message =>
      (report sessionId message).isNone || passCheck watched message) &&
    match label with
    | .queueThread now answer =>
        (watched.1.nextMessage label).all (watched.1.messageCheck sessionId now answer)
    | .asyncThread now answer =>
        (watched.1.nextMessage label).all (watched.1.messageCheck sessionId now answer)
    | .closeEvent serial => (watched.1.findSerial serial).all (·.up)
    | .resolveEvent _ _ _ => false
    | .pushThread _ _ => watched.1.pushManager.pushHandles.countP (·.watches sessionId) = 1
    | .wait thread _ => thread ≠ watched.1.pushThread
    | _ => true

/-- The check finds that the step reports changes only. -/
theorem System.reportsChanges_of_check {sessionId : UInt32} {watched : System × Bool}
    {label : SystemLabel} (checked : changesCheck sessionId watched label = true) :
    watched.1.ReportsChanges sessionId label := by
  obtain ⟨system, begun⟩ := watched
  simp only [changesCheck, Bool.and_eq_true] at checked
  have ofTurn {now : UInt32} {answer : ConnectAnswer} {message : SdkMessage}
      (isTurn : label = .queueThread now answer ∨ label = .asyncThread now answer)
      (isNext : system.nextMessage label = some message) :
      system.messageCheck sessionId now answer message = true := by
    rcases isTurn with rfl | rfl
    · simpa [isNext] using checked.2
    · simpa [isNext] using checked.2
  have ofNext {message : SdkMessage} (isNext : system.nextMessage label = some message) :
      ∃ now answer, label = .queueThread now answer ∨ label = .asyncThread now answer := by
    cases label with
    | queueThread now answer => exact ⟨now, answer, .inl rfl⟩
    | asyncThread now answer => exact ⟨now, answer, .inr rfl⟩
    | _ => cases isNext
  refine ⟨?_, ?_, ?_, ?_, ?_⟩
  · intro serial session isEvent found _
    cases label with
    | closeEvent other =>
        cases isEvent
        exact fun _ => by simpa [found] using checked.2
    | resolveEvent => cases checked.2
    | _ => trivial
  · intro message serial session now answer isTurn isNext toSession found _ late
    have early := ofTurn isTurn isNext
    simp [messageCheck, toSession, found, late] at early
  · intro message requested connectId now answer isTurn isNext toManager opens _
    have pending := ofTurn isTurn isNext
    rcases opens with ⟨other, _, payload, _, _, rfl⟩ | ⟨other, _, payload, _, rfl⟩
    all_goals
      simp only [messageCheck, toManager, payload, Bool.and_eq_true, decide_eq_true_eq] at pending
    · exact ⟨pending.1.1, .inr pending.2⟩
    · exact ⟨pending.1.2, .inr pending.2⟩
  · intro message isNext removes
    obtain ⟨now, answer, isTurn⟩ := ofNext isNext
    have down := ofTurn isTurn isNext
    rcases removes with ⟨toManager, payload | payload⟩ | ⟨toLayer, payload⟩
    · simp [messageCheck, toManager, payload] at down
    · simpa [messageCheck, toManager, payload] using down
    · simpa [messageCheck, toLayer, payload] using down
  · intro message isNext toManager payload
    obtain ⟨now, answer, isTurn⟩ := ofNext isNext
    have kept := ofTurn isTurn isNext
    simp [messageCheck, toManager, payload] at kept

/-- The check finds that the step notifies of changes only. -/
theorem notifiesChanges_of_check {sessionId : UInt32} (watched : System × Bool)
    (label : SystemLabel) (checked : changesCheck sessionId watched label = true) :
    NotifiesChanges sessionId watched label := by
  refine ⟨System.reportsChanges_of_check checked, ?_⟩
  simp only [changesCheck, Bool.and_eq_true] at checked
  have passes {message : SdkMessage} {stanza : Stanza}
      (isNext : watched.1.nextMessage label = some message)
      (isReport : report sessionId message ≠ none) (payload : message.pdata = some stanza) :
      (match watched.2, taker message.messageId stanza watched.1.tasks.entries with
        | false, .task task => decide (task.taskId ≠ watched.1.pushManager.taskId)
        | true, .nobody =>
            watched.1.pushManager.pushHandleKeys.contains PushManagerTask.changeConnStatusKey
        | _, _ => false) = true := by
    have isSome : (report sessionId message).isNone = false := by
      simpa [← Option.not_isSome, Option.isSome_iff_ne_none] using isReport
    have passed := checked.1
    rw [isNext] at passed
    simp only [Option.all_some, isSome, Bool.false_or, passCheck, payload] at passed
    exact passed
  refine ⟨?_, ?_, ?_, ?_⟩
  · intro begun message stanza isNext isReport payload
    have passed := passes isNext isReport payload
    split at passed
    · next task _ takes => exact ⟨task, takes, of_decide_eq_true passed⟩
    · next isBegun _ =>
        rw [begun] at isBegun
        cases isBegun
    · cases passed
  · intro begun message stanza isNext isReport payload
    have passed := passes isNext isReport payload
    split at passed
    · next isBegun _ =>
        rw [begun] at isBegun
        cases isBegun
    · next takes => exact ⟨takes, by simpa using passed⟩
    · cases passed
  · rintro now memory rfl _ _
    exact of_decide_eq_true checked.2
  · rintro step pass rfl _ _
    exact absurd rfl (of_decide_eq_true checked.2)

/-- Thread 1 opens session 2, which is given its reconnect message, and the connection handle
is registered. -/
def watchesTwo : List SystemLabel :=
  sessionOpened ++ [.wait 1 (.call 1000), .wait 1 (.check 1000), .queueThread 1000 .pending,
    .connectServer 1, .addPushHandle ⟨1, .changeConn, "change_conn_status", 2⟩,
    .queueThread 1000 .pending, .queueThread 1000 .pending]

/-- The device closes the connection, and the user is notified. -/
def closes (serial : Nat) : List SystemLabel :=
  [.closeEvent serial, .queueThread 1000 .pending, .queueThread 1000 .pending,
    .pushThread 1000 .null]

/-- The device is back. -/
def comesBack : List SystemLabel :=
  [.asyncThread 4000 .pending, .connectEvent 1 4000, .queueThread 4000 .pending,
    .pushThread 4000 .null]

/-- A device goes and comes back. -/
theorem notifications_alternate_back :
    ∃ labels final outputs,
      (notificationMachine 2).RunWhere (NotifiesChanges 2) (System.start 0, false) labels final
        outputs ∧
      notifications 2 outputs = [.offline, .online] ∧
      ∃ current, Alternates .online (notifications 2 outputs) current := by
  let labels := watchesTwo ++ closes 0 ++ comesBack
  have checked : ((notificationMachine 2).exec (System.start 0, false) labels).any fun result =>
      notifications 2 result.2 = [.offline, .online] := by decide +kernel
  have permitted : (notificationMachine 2).permits (changesCheck 2) (System.start 0, false) labels =
      true := by decide +kernel
  obtain ⟨final, outputs, run, isNotified⟩ :=
    Machine.exists_runWhere_of_exec notifiesChanges_of_check permitted checked
  exact ⟨labels, final, outputs, run, of_decide_eq_true isNotified, notifications_alternate run⟩

/-- The device closes the connection and refuses the next one: the user is notified of its
being offline twice. -/
theorem offline_twice :
    ∃ labels final outputs, sdkMachine.Run (System.start 0) labels final outputs ∧
      notifications 2 outputs = [.offline, .offline] ∧
      ¬∃ current, Alternates .online (notifications 2 outputs) current := by
  have checked : (sdkMachine.exec (System.start 0)
      (watchesTwo ++ closes 0 ++ [.asyncThread 4000 .pending] ++ closes 1)).any fun result =>
        notifications 2 result.2 = [.offline, .offline] := by decide +kernel
  obtain ⟨final, outputs, run, isNotified⟩ := Machine.exists_run_of_exec checked
  have notified : notifications 2 outputs = [.offline, .offline] := of_decide_eq_true isNotified
  refine ⟨_, final, outputs, run, notified, ?_⟩
  rw [notified]
  rintro ⟨current, alternates⟩
  cases alternates with
  | cons _ rest =>
      cases rest with
      | cons differ => exact absurd rfl differ

end VzSdk.Sdk
