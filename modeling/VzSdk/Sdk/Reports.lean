import VzSdk.Std.Alternation
import VzSdk.Sdk.Tables

/-!
# Reports of a connection

A session reports to the queue layer when its connection is made and when it is
closed. Nothing in the manager or the session remembers what was reported last.
`ReportsChanges` says when the reports of a step are changes of the connection,
and `reports_step` that they then alternate with what is in the table.
-/

namespace VzSdk.Sdk

open VzSdk.Base VzSdk.Event VzSdk.Std

/-- The payload reports that the session is connected, or that it is not. -/
def Stanza.reports (stanza : Stanza) (sessionId : UInt32) : Option Bool :=
  match stanza with
  | .plain .connected session => if session = sessionId then some true else none
  | .plain .disconnectedFailure session => if session = sessionId then some false else none
  | _ => none

/-- What the message reports to the queue layer about the session. -/
def report (sessionId : UInt32) (message : SdkMessage) : Option Bool :=
  if message.phandler = some .queueLayer ∧ message.messageId ≠ mqidDispose then
    message.pdata.bind (·.reports sessionId)
  else none

/-- A report is a message of the queue layer's kind. -/
theorem layerKind_report (sessionId : UInt32) : System.LayerKind (report sessionId) where
  lasting message dispose := by simp [report, dispose]
  toLayer message elsewhere := by simp [report, elsewhere]
  noResume _ := by simp [report, Stanza.reports]

namespace SessionObject

/-- The session has reported its connection and not yet its end: its socket is connected, no
connect event is to come, and the session hears of it. -/
def up (session : SessionObject) : Bool :=
  session.asyncSocket.any fun socket =>
    socket.slots && socket.state = .connected && !socket.enabledEvents.connect

/-- What signals report. -/
def reported : List Signal → List Bool :=
  List.filterMap fun
    | .connected => some true
    | .closed => some false
    | .packet _ => none

/-- The event is a change that the session reports: only a session that is up closes, and a
resolver answers for a connection that is then waited for. -/
def Changes (session : SessionObject) : SystemLabel → Prop
  | .closeEvent _ => session.hears = true → session.up = true
  | .resolveEvent _ error outcome =>
      session.hears = true → session.up = false ∧ error = 0 ∧ outcome = .inProgress
  | _ => True

variable {session : SessionObject} {label : SystemLabel}

/-- A session that does not hear its socket is not up. -/
theorem up_of_deaf (deaf : session.hears = false) : session.up = false := by
  unfold hears at deaf
  unfold up
  cases isSocket : session.asyncSocket with
  | none => rfl
  | some socket =>
      rw [isSocket] at deaf
      simp only [Option.map_some, Option.getD_some] at deaf
      simp [deaf]

/-- What the manager posts for a signal. -/
theorem report_stanzas (lasting : session.connectId ≠ mqidDispose) (signal : Signal)
    (sessionId : UInt32) :
    (stanzaMessages (session.stanzas signal)).filterMap (report sessionId) =
      if session.sessionId = sessionId then reported [signal] else [] := by
  cases signal with
  | connected | closed =>
      by_cases own : session.sessionId = sessionId
      · simp [stanzaMessages, stanzas, report, lasting, Stanza.reports, own, reported]
      · simp [stanzaMessages, stanzas, report, Stanza.reports, own]
  | packet answer =>
      cases isJson : answer.resJson with
      | none => simp [stanzaMessages, stanzas, isJson, reported]
      | some resJson => simp [stanzaMessages, stanzas, isJson, report, Stanza.reports, reported]

/-- The manager posts what the signals report. -/
theorem report_posts (bound : session.bound = true) (lasting : session.connectId ≠ mqidDispose)
    (signals : List Signal) (sessionId : UInt32) :
    (stanzaMessages (session.posts signals)).filterMap (report sessionId) =
      if session.sessionId = sessionId then reported signals else [] := by
  unfold posts
  rw [if_pos bound]
  induction signals with
  | nil => simp [stanzaMessages, reported]
  | cons signal signals inductionHypothesis =>
      have first := report_stanzas lasting signal sessionId
      unfold stanzaMessages at first inductionHypothesis ⊢
      rw [List.flatMap_cons, List.map_append, List.filterMap_append, first, inductionHypothesis]
      by_cases own : session.sessionId = sessionId
      · simp only [if_pos own, reported, ← List.filterMap_append, List.singleton_append]
      · simp [own]

/-- The timer reports a change if it closes only a session that is up. -/
theorem alternates_afterTimer {now : UInt32}
    (changes : session.timedOut now = true → session.up = true) :
    Alternates session.up (reported (session.timeouts now)) (session.afterTimer now).up := by
  by_cases late : session.timedOut now = true
  · have isSet : session.msStart ≠ 0 := by
      simp only [timedOut, Bool.and_eq_true, decide_eq_true_eq] at late
      exact late.1
    have down : (session.afterTimer now).up = false := by
      simp only [afterTimer, isSet, if_false, late, if_true]
      have isUp := changes late
      unfold up at isUp ⊢
      obtain ⟨socket, isSocket, isConnected⟩ := (Option.any_eq_true _ _).mp isUp
      simp only [Bool.and_eq_true, decide_eq_true_eq] at isConnected
      simp [uinitSocket, mapSocket, isSocket, isConnected.1.2]
    rw [changes late, down]
    simp only [timeouts, late, if_true, reported]
    exact .cons (by decide) .nil
  · have same : (session.afterTimer now).up = session.up := by
      unfold afterTimer
      split
      · rfl
      · rfl
    rw [same]
    simp only [timeouts, late, Bool.false_eq_true, if_false, reported, List.filterMap_nil]
    exact .nil

/-- A connect event reports a change: it is waited for only before the session is up. -/
theorem alternates_afterConnect {serial : Nat} {now : UInt32}
    (awaited : (session.asyncSocket.map (·.enabledEvents.connect)).getD false = true) :
    Alternates session.up (reported (session.signals (.connectEvent serial now)))
      (session.afterEvent (.connectEvent serial now)).up := by
  cases isSocket : session.asyncSocket with
  | none => simp [isSocket] at awaited
  | some socket =>
      rw [isSocket] at awaited
      have isAwaited : socket.enabledEvents.connect = true := by simpa using awaited
      have down : session.up = false := by simp [up, isSocket, isAwaited]
      rw [down]
      by_cases hears : session.hears = true
      · have slots : socket.slots = true := by simpa [SessionObject.hears, isSocket] using hears
        simp only [signals, afterEvent, hears, if_true]
        let connected := session.mapSocket fun socket =>
          { socket with
            state := .connected
            enabledEvents := { socket.enabledEvents with connect := false } }
        have isUp : connected.up = true := by simp [connected, up, mapSocket, isSocket, slots]
        have rest := connected.alternates_afterTimer fun _ : connected.timedOut now = true => isUp
        rw [isUp] at rest
        exact .cons (by decide) rest
      · have deaf : session.hears = false := by simpa using hears
        have slots : socket.slots = false := by simpa [SessionObject.hears, isSocket] using deaf
        have still : (session.afterEvent (.connectEvent serial now)).up = false := by
          simp [afterEvent, deaf, up, mapSocket, isSocket, slots]
        rw [still]
        simp only [signals, deaf, Bool.false_eq_true, if_false]
        exact .nil

/-- A closed connection is reported once. -/
theorem alternates_afterClose {serial : Nat} (changes : session.Changes (.closeEvent serial)) :
    Alternates session.up (reported (session.signals (.closeEvent serial)))
      (session.afterEvent (.closeEvent serial)).up := by
  have down : (session.afterEvent (.closeEvent serial)).up = false := by
    simp only [afterEvent]
    cases isSocket : session.asyncSocket with
    | none => split <;> simp [up, uinitSocket, mapSocket, isSocket]
    | some socket => split <;> simp [up, uinitSocket, mapSocket, isSocket, AsyncSocket.close]
  rw [down]
  by_cases hears : session.hears = true
  · rw [changes hears]
    simp only [signals, hears, if_true]
    exact .cons (by decide) .nil
  · rw [up_of_deaf (by simpa using hears)]
    simp only [signals, hears]
    exact .nil

/-- A resolved address is reported alternately. -/
theorem alternates_afterResolve {serial : Nat} {error : Int} {outcome : ConnectOutcome}
    (changes : session.Changes (.resolveEvent serial error outcome)) :
    Alternates session.up (reported (session.signals (.resolveEvent serial error outcome)))
      (session.afterEvent (.resolveEvent serial error outcome)).up := by
  by_cases hears : session.hears = true
  · obtain ⟨down, rfl, rfl⟩ := changes hears
    have still : (session.afterEvent (.resolveEvent serial 0 .inProgress)).up = false := by
      simp only [afterEvent, afterResolve]
      split
      · exact down
      · simp [up, mapSocket, AsyncSocket.doConnect, *]
    rw [down, still]
    simp only [signals, ne_eq, not_true_eq_false, reduceCtorEq, or_self, false_and, if_false]
    exact .nil
  · have deaf : session.hears = false := by simpa using hears
    have still : (session.afterEvent (.resolveEvent serial error outcome)).up = false := by
      simp only [afterEvent, afterResolve]
      split
      · exact up_of_deaf deaf
      · next socket isSocket =>
          have slots : socket.slots = false := by simpa [SessionObject.hears, isSocket] using deaf
          simp only [deaf, Bool.false_eq_true, and_false, if_false]
          by_cases noError : error = 0
          · cases outcome <;> simp [up, mapSocket, isSocket, noError, AsyncSocket.doConnect, slots]
          · simp [up, mapSocket, isSocket, noError, AsyncSocket.close]
    rw [up_of_deaf deaf, still]
    simp only [signals, deaf, Bool.false_eq_true, and_false, if_false]
    exact .nil

/-- Every event of a session that reports changes only. -/
theorem alternates_afterEvent {serial : Nat} (isEvent : label.eventSerial = some serial)
    (awaited : ∀ serial now, label = .connectEvent serial now →
      (session.asyncSocket.map (·.enabledEvents.connect)).getD false = true)
    (changes : session.Changes label) :
    Alternates session.up (reported (session.signals label)) (session.afterEvent label).up := by
  cases label with
  | connectEvent serial now => exact alternates_afterConnect (awaited serial now rfl)
  | closeEvent serial => exact alternates_afterClose changes
  | resolveEvent serial error outcome => exact alternates_afterResolve changes
  | readEvent serial =>
      cases isIncoming : session.incoming with
      | nil =>
          simp only [signals, isIncoming]
          exact .nil
      | cons answer incoming =>
          simp only [signals, isIncoming]
          exact .nil
  | heartbeatEvent | deviceReceive | deviceAnswer | devicePush => exact .nil
  | _ => cases isEvent

end SessionObject

namespace System

/-- The session under the id is up. -/
def isUp (sessions : OrderedMap UInt32 SessionObject) (sessionId : UInt32) : Bool :=
  (sessions.find? sessionId).any (·.up)

/-- The objects of the session report changes of the connection only, and every change: a
session closes only when it is up, it is not connected already when it is opened, and it is
not removed while it is up. -/
structure ReportsChanges (sessionId : UInt32) (system : System) (label : SystemLabel) : Prop where
  event : ∀ serial session, label.eventSerial = some serial →
    system.findSerial serial = some session → session.sessionId = sessionId →
      session.Changes label
  timer : ∀ message serial session now answer,
    (label = .queueThread now answer ∨ label = .asyncThread now answer) →
      system.nextMessage label = some message → message.phandler = some (.session serial) →
        system.findSerial serial = some session → session.sessionId = sessionId →
          session.timedOut now = true → session.up = true
  opened : ∀ message requested connectId now answer,
    (label = .queueThread now answer ∨ label = .asyncThread now answer) →
      system.nextMessage label = some message → message.phandler = some .sessionManager →
        system.Opens message requested connectId → system.constructedId requested = sessionId →
          connectId ≠ mqidDispose ∧ (answer.unresolved = true ∨ answer.outcome ≠ .succeeded)
  removed : ∀ message, system.nextMessage label = some message → Removes message sessionId →
    isUp system.asyncSessions sessionId = false
  noDisconnect : ∀ message, system.nextMessage label = some message →
    message.phandler = some .sessionManager → message.pdata ≠ some (.disconnectData sessionId)

/-- The manager hears the session's signals, and posts them under an id that lasts. -/
def Heard (sessionId : UInt32) (system : System) : Prop :=
  ∀ session, system.findSession sessionId = some session →
    session.bound = true ∧ session.connectId ≠ mqidDispose

variable {system next : System} {label : SystemLabel} {emitted : List SystemOutput}
  {sessionId : UInt32}

/-- The reports of a device are heard after a step. -/
theorem heard_step (tidy : system.Tidy) (heard : system.Heard sessionId)
    (changes : system.ReportsChanges sessionId label)
    (transition : system.step label = some (next, emitted)) : next.Heard sessionId := by
  intro session found
  have table := objects_step tidy transition
  unfold findSession at found
  generalize next.asyncSessions = sessions at found table
  have ofChanged {serial : Nat} {change : SessionObject → SessionObject}
      (same : ∀ session : SessionObject, session.Same (change session))
      (found : (system.changed serial change).find? sessionId = some session) :
      session.bound = true ∧ session.connectId ≠ mqidDispose := by
    unfold changed at found
    rw [OrderedMap.find?_mapValues] at found
    obtain ⟨old, isOld, rfl⟩ := Option.map_eq_some_iff.mp found
    obtain ⟨bound, lasting⟩ := heard old isOld
    split
    · rw [(same old).bound, (same old).connectId]
      exact ⟨bound, lasting⟩
    · exact ⟨bound, lasting⟩
  cases table with
  | same => exact heard session found
  | event => exact ofChanged (fun session => session.same_afterEvent label) found
  | timer => exact ofChanged (fun session => session.same_afterTimer _) found
  | request => exact ofChanged (fun session => session.same_written _ _) found
  | @removed _ removed =>
      by_cases own : sessionId = removed
      · rw [own, OrderedMap.find?_erase_self] at found
        cases found
      · rw [OrderedMap.find?_erase_of_ne _ own] at found
        exact heard session found
  | @opened _ requested connectId now answer isTurn isNext toManager opens absent =>
      by_cases own : sessionId = system.constructedId requested
      · rw [own, OrderedMap.find?_insert_self absent] at found
        cases found
        exact ⟨rfl, (changes.opened _ requested connectId now answer isTurn isNext toManager opens
          own.symm).1⟩
      · rw [OrderedMap.find?_insert_of_ne own] at found
        exact heard session found

/-! ## What becomes of the session -/

/-- A registered session is found by its serial. -/
theorem findSerial_of_findSession (tidy : system.Tidy) {session : SessionObject}
    (found : system.findSession sessionId = some session) :
    system.findSerial session.serial = some session := by
  have registered := OrderedMap.mem_of_find? found
  unfold findSerial
  cases isFirst : system.asyncSessions.entries.find? fun entry =>
      entry.2.serial = session.serial with
  | none =>
      have differ := List.find?_eq_none.mp isFirst _ registered
      simp at differ
  | some entry =>
      have sameSerial : entry.2.serial = session.serial := by simpa using List.find?_some isFirst
      rw [tidy.sessions.distinct entry (List.mem_of_find?_eq_some isFirst) _ registered sameSerial]
      rfl

/-- Which devices are up when one session is changed. -/
theorem isUp_changed (tidy : system.Tidy) {serial : Nat} {session : SessionObject}
    (found : system.findSerial serial = some session) (change : SessionObject → SessionObject)
    (sessionId : UInt32) :
    isUp (system.changed serial change) sessionId =
      if session.sessionId = sessionId then (change session).up
      else isUp system.asyncSessions sessionId := by
  obtain ⟨isSerial, registered, unique⟩ := tidy.eq_of_findSerial found
  have isFound := OrderedMap.find?_of_mem registered
  unfold isUp changed
  rw [OrderedMap.find?_mapValues]
  by_cases own : session.sessionId = sessionId
  · rw [own] at isFound
    simp [isFound, own, isSerial]
  · rw [if_neg own]
    cases isOther : system.asyncSessions.find? sessionId with
    | none => rfl
    | some other =>
        have inTable := OrderedMap.mem_of_find? isOther
        have differ : other.serial ≠ serial := by
          intro same
          have isKey := tidy.sessions.keyed _ inTable
          rw [unique _ inTable same] at isKey
          exact own isKey
        simp [differ]

/-- A session whose connection is not made is not up. -/
theorem up_openedSession (system : System) (requested connectId : UInt32) {answer : ConnectAnswer}
    (pending : answer.unresolved = true ∨ answer.outcome ≠ .succeeded) :
    (system.openedSession requested connectId answer).up = false := by
  simp only [openedSession, SessionObject.start, SessionObject.up, AsyncSocket.connect,
    AsyncSocket.create, Option.any_some]
  cases resolved : answer.unresolved with
  | true => simp
  | false =>
      cases isOutcome : answer.outcome with
      | succeeded => simp [resolved, isOutcome] at pending
      | inProgress | failed => simp [AsyncSocket.doConnect]

/-- Messages other than timers leave the session as it was. -/
theorem isUp_of_table (tidy : system.Tidy) (changes : system.ReportsChanges sessionId label)
    {message : SdkMessage} (isTurn : label.turns = true)
    (isNext : system.nextMessage label = some message)
    (noTimer : ∀ serial, message.phandler ≠ some (.session serial))
    {sessions : OrderedMap UInt32 SessionObject} (table : system.TableStep label sessions) :
    isUp sessions sessionId = isUp system.asyncSessions sessionId := by
  cases table with
  | same => rfl
  | event isEvent =>
      rw [turns_of_event isEvent] at isTurn
      cases isTurn
  | timer _ isTimer toSession =>
      rw [isNext] at isTimer
      cases isTimer
      exact absurd toSession (noTimer _)
  | @request _ _ reqJson _ tag session _ _ _ found =>
      have bySerial := findSerial_of_findSession tidy found
      rw [isUp_changed tidy bySerial]
      split
      · next own =>
          have isFound := OrderedMap.find?_of_mem (tidy.eq_of_findSerial bySerial).2.1
          rw [own] at isFound
          simp only [isUp, isFound, Option.any_some]
          rfl
      · rfl
  | @removed other removed session isRemoval removes found =>
      by_cases own : sessionId = removed
      · subst own
        rw [changes.removed _ isRemoval removes]
        unfold isUp
        rw [OrderedMap.find?_erase_self]
        rfl
      · unfold isUp
        rw [OrderedMap.find?_erase_of_ne _ own]
  | @opened _ requested connectId now answer isTurn isOpen toManager opens absent =>
      by_cases own : sessionId = system.constructedId requested
      · have pending := (changes.opened _ requested connectId now answer isTurn isOpen toManager
          opens own.symm).2
        unfold isUp
        rw [own, OrderedMap.find?_insert_self absent]
        unfold findSession at absent
        rw [absent]
        exact up_openedSession system requested connectId pending
      · unfold isUp
        rw [OrderedMap.find?_insert_of_ne own]

/-! ## Every step -/

/-- A connect event is one that the socket waits for. -/
theorem awaited_of_step {serial : Nat} {session : SessionObject}
    (found : system.findSerial serial = some session) (isEvent : label.eventSerial = some serial)
    (transition : system.step label = some (next, emitted)) :
    ∀ other now, label = .connectEvent other now →
      (session.asyncSocket.map (·.enabledEvents.connect)).getD false = true := by
  rintro other now rfl
  cases isEvent
  unfold step at transition
  split at transition
  · cases transition
  · simp only [connectEvent, found] at transition
    by_cases awaited : (session.asyncSocket.map (·.enabledEvents.connect)).getD false = true
    · exact awaited
    · simp [awaited, silent] at transition

/-- A session of the device that is found is bound, and its reports are heard. -/
theorem heard_of_findSerial (tidy : system.Tidy) (heard : system.Heard sessionId) {serial : Nat}
    {session : SessionObject} (found : system.findSerial serial = some session)
    (own : session.sessionId = sessionId) :
    session.bound = true ∧ session.connectId ≠ mqidDispose :=
  heard session (own ▸ OrderedMap.find?_of_mem (tidy.eq_of_findSerial found).2.1)

/-- What a session posts for its signals is what they report. -/
theorem report_signals (tidy : system.Tidy) (heard : system.Heard sessionId) {serial : Nat}
    {session : SessionObject} (found : system.findSerial serial = some session)
    (signals : List Signal) :
    (stanzaMessages (session.posts signals)).filterMap (report sessionId) =
      if session.sessionId = sessionId then SessionObject.reported signals else [] := by
  by_cases own : session.sessionId = sessionId
  · obtain ⟨bound, lasting⟩ := heard_of_findSerial tidy heard found own
    exact SessionObject.report_posts bound lasting signals sessionId
  · rw [if_neg own, List.filterMap_eq_nil_iff]
    intro message member
    obtain ⟨post, isPost, rfl⟩ := List.mem_map.mp member
    obtain ⟨signal, _, isStanza⟩ := mem_posts isPost
    rcases stanza_of_signal isStanza with ⟨_, type, isPlain, _⟩ | ⟨_, _, _, _, isResponse⟩
    · cases type <;> simp [report, Stanza.reports, isPlain, own]
    · simp [report, Stanza.reports, isResponse]

/-- The reports that a step posts alternate with what becomes of the session. -/
def Reporting (sessionId : UInt32) (system : System) (label : SystemLabel) (next : System) : Prop :=
  ∃ reports, next.queueThread.msgq.filterMap (report sessionId) =
      (system.taken label).queueThread.msgq.filterMap (report sessionId) ++ reports ∧
    Alternates (isUp system.asyncSessions sessionId) reports (isUp next.asyncSessions sessionId)

/-- Unrelated messages report nothing. -/
theorem reporting_nothing (messages : List SdkMessage)
    (queue : next.queueThread.msgq = (system.taken label).queueThread.msgq ++ messages)
    (unrelated : ∀ message ∈ messages, report sessionId message = none)
    (same : isUp next.asyncSessions sessionId = isUp system.asyncSessions sessionId) :
    Reporting sessionId system label next := by
  refine ⟨[], ?_, same ▸ .nil⟩
  rw [queue, List.filterMap_append, List.filterMap_eq_nil_iff.mpr unrelated]

/-- The signals of a session report its changes. -/
theorem reporting_signals (tidy : system.Tidy) (heard : system.Heard sessionId) {serial : Nat}
    {session : SessionObject} (found : system.findSerial serial = some session)
    (signals : List Signal) (change : SessionObject → SessionObject)
    (queue : next.queueThread.msgq = (system.taken label).queueThread.msgq ++
      stanzaMessages (session.posts signals))
    (table : next.asyncSessions = system.changed serial change)
    (alternates : session.sessionId = sessionId →
      Alternates session.up (SessionObject.reported signals) (change session).up) :
    Reporting sessionId system label next := by
  refine ⟨_, by rw [queue, List.filterMap_append], ?_⟩
  rw [report_signals tidy heard found, table, isUp_changed tidy found]
  by_cases own : session.sessionId = sessionId
  · rw [if_pos own, if_pos own]
    have isFound := OrderedMap.find?_of_mem (tidy.eq_of_findSerial found).2.1
    rw [own] at isFound
    simpa only [isUp, isFound, Option.any_some] using alternates own
  · rw [if_neg own, if_neg own]
    exact .nil

/-- What a turn dispatches. -/
theorem reporting_dispatch (tidy : system.Tidy) (heard : system.Heard sessionId)
    (changes : system.ReportsChanges sessionId label) {message : SdkMessage} {now : UInt32}
    {answer : ConnectAnswer} (isTurn : label = .queueThread now answer ∨ label = .asyncThread now answer)
    (isNext : system.nextMessage label = some message)
    (table : system.TableStep label
      ((system.taken label).dispatch now answer message).1.asyncSessions) :
    Reporting sessionId system label ((system.taken label).dispatch now answer message).1 := by
  have turns : label.turns = true := by rcases isTurn with rfl | rfl <;> rfl
  have tidyTaken : (system.taken label).Tidy := by
    rcases isTurn with rfl | rfl
    · exact tidy_takeQueue tidy now
    · exact tidy_takeAsync tidy now
  have sessions : (system.taken label).asyncSessions = system.asyncSessions := by rw [taken_eq]
  have stays (noTimer : ∀ serial, message.phandler ≠ some (.session serial)) :=
    isUp_of_table tidy changes turns isNext noTimer table
  unfold dispatch at stays ⊢
  split at stays
  · obtain ⟨messages, queue, reconnects, _⟩ := queue_queueLayerOnMessage tidyTaken message
    refine reporting_nothing _ (congrArg MessageQueue.msgq queue) ?_ (stays (by simp [*]))
    intro posted member
    obtain ⟨_, _, _, rfl⟩ := reconnects posted member
    rfl
  · next toManager =>
      obtain ⟨posts, queue, replies⟩ := posts_sessionManagerOnMessage tidyTaken now answer message
      rw [postStanzas_running tidyTaken.queue.running] at queue
      refine reporting_nothing _ (congrArg MessageQueue.msgq queue) ?_ (stays (by simp [*]))
      intro posted member
      obtain ⟨post, isPost, rfl⟩ := List.mem_map.mp member
      obtain ⟨_, ⟨other, isDisconnect, isReply | isReply⟩ | ⟨_, _, _, _, _, isReply |
        ⟨_, isReply⟩⟩⟩ := replies post isPost
      · simp [report, Stanza.reports, isReply]
      · have differ : other ≠ sessionId := by
          rintro rfl
          exact changes.noDisconnect message isNext toManager isDisconnect
        simp [report, Stanza.reports, isReply, differ]
      · simp [report, Stanza.reports, isReply]
      · simp [report, Stanza.reports, isReply]
  · next serial toSession =>
      rcases signals_sessionOnMessage (system.taken label) serial now with
        ⟨_, same⟩ | ⟨session, found, event⟩
      · refine reporting_nothing [] ?_ (List.forall_mem_nil _) ?_
        · simp [same]
        · simp [same, sessions]
      · have isFound : system.findSerial serial = some session := by
          unfold findSerial at found ⊢
          rw [← sessions]
          exact found
        have queue := congrArg System.queueThread event.frame
        simp only [postStanzas_running tidyTaken.queue.running] at queue
        refine reporting_signals tidy heard isFound (session.timeouts now) (·.afterTimer now)
          (congrArg MessageQueue.msgq queue) (table_timer tidy sessions isFound) fun own => ?_
        exact SessionObject.alternates_afterTimer
          (changes.timer message serial session now answer isTurn isNext toSession isFound own)
  · exact reporting_nothing [] (List.append_nil _).symm (List.forall_mem_nil _) (by rw [sessions])

/-- A step reports the changes of a device. -/
theorem reports_step (tidy : system.Tidy) (heard : system.Heard sessionId)
    (changes : system.ReportsChanges sessionId label)
    (transition : system.step label = some (next, emitted)) :
    Reporting sessionId system label next := by
  have table := objects_step tidy transition
  cases kind_of_step transition with
  | @event _ _ serial session isEvent found signals =>
      obtain ⟨_, _, table⟩ := table_event tidy isEvent transition
      have queue := congrArg System.queueThread signals.frame
      simp only [postStanzas_running tidy.queue.running] at queue
      refine reporting_signals tidy heard found (session.signals label) (·.afterEvent label) ?_ table
        fun own => ?_
      · rw [(taken_of_call system (turns_of_event isEvent)).1, queue]
      · exact SessionObject.alternates_afterEvent isEvent
          (awaited_of_step found isEvent transition)
          (changes.event serial session isEvent found own)
  | @resume other now cmsDelay =>
      obtain ⟨_, ready, _⟩ := MessageQueue.postDelayed_eq system.queueThread now cmsDelay
        ⟨some .queueLayer, other, some (.plain .resumeTask other)⟩
      refine reporting_nothing [] ?_ (List.forall_mem_nil _) rfl
      rw [List.append_nil]
      exact ready
  | idle =>
      exact reporting_nothing [] (List.append_nil _).symm (List.forall_mem_nil _) (by rw [taken_eq])
  | @call _ _ _ posts isCall noEvent side =>
      have queue := congrArg System.queueThread side.frame
      simp only [postStanzas_running tidy.queue.running] at queue
      refine reporting_nothing (stanzaMessages posts) ?_ ?_ (by rw [side.frame])
      · rw [(taken_of_call system isCall).1, queue]
      · intro message member
        obtain ⟨post, isPost, rfl⟩ := List.mem_map.mp member
        have fromCall := side.fromCall post isPost
        obtain ⟨id, stanza⟩ := post
        cases stanza with
        | plain => cases fromCall
        | _ => simp [report, Stanza.reports]
  | dispatch isTurn isNext => exact reporting_dispatch tidy heard changes isTurn isNext table

end System

end VzSdk.Sdk
