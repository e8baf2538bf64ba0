import VzSdk.Sdk.Routine
import VzSdk.Sdk.Signals

/-!
# The kinds of steps

A step of the SDK's machine is an event of a session, a call of the application
or of a push handle, the posting of a resume event, or a turn of one of the two
threads of the SDK. `kind_of_step` says so with what each kind leaves alone, so
that an invariant about the queues or the sessions looks at these five cases and
at the messages that the turns dispatch.
-/

namespace VzSdk.Sdk

open VzSdk.Base VzSdk.Event VzSdk.Std

/-- The label lets one of the SDK's threads take its next message. -/
def SystemLabel.turns : SystemLabel → Bool
  | .queueThread _ _ => true
  | .asyncThread _ _ => true
  | _ => false

/-- The payloads that calls post to the queue layer. -/
def Stanza.fromCall : Stanza → Bool
  | .reqTask _ => true
  | .removeTask _ => true
  | .connectData reconnect _ _ => reconnect
  | _ => false

namespace System

/-- The message that the label lets one of the SDK's threads dispatch. -/
def nextMessage (system : System) : SystemLabel → Option SdkMessage
  | .queueThread now _ =>
      let pass := system.queueThread.getPass now .zero
      if pass.found then some pass.pmsg else none
  | .asyncThread now _ =>
      let pass := system.asyncThread.getPass now .zero
      if pass.found then some pass.pmsg else none
  | _ => none

/-- The system after the label's thread has taken its next message. -/
def taken (system : System) : SystemLabel → System
  | .queueThread now _ =>
      { system with queueThread := (system.queueThread.getPass now .zero).queue }
  | .asyncThread now _ =>
      { system with asyncThread := (system.asyncThread.getPass now .zero).queue }
  | _ => system

/-- What taking a message from a queue changes. -/
theorem taken_eq (system : System) (label : SystemLabel) :
    system.taken label = { system with
      queueThread := (system.taken label).queueThread
      asyncThread := (system.taken label).asyncThread } := by
  unfold taken
  split <;> rfl

/-- A call posts stanzas to the queue layer and leaves the sessions and the tasks alone. -/
structure CallSide (system next : System) (posts : List (UInt32 × Stanza)) : Prop where
  frame : next = { system with
    taskCounter := next.taskCounter
    queueThread := postStanzas system.queueThread posts
    pushManager := next.pushManager
    threads := next.threads
    failed := next.failed }
  fromCall : ∀ post ∈ posts, post.2.fromCall = true

/-- What a step is. -/
inductive StepKind (system : System) : SystemLabel → System → List SystemOutput → Prop where
  | event {label next serial session} (isEvent : label.eventSerial = some serial)
      (found : system.findSerial serial = some session)
      (signals : Signals system next session (session.signals label)) :
      StepKind system label next []
  | call {label next emitted posts} (isCall : label.turns = false)
      (noEvent : label.eventSerial = none)
      (side : CallSide system next posts) : StepKind system label next emitted
  | resume {sessionId now cmsDelay} :
      StepKind system (.resume sessionId now cmsDelay) (system.postResume sessionId now cmsDelay) []
  | idle {label} (isTurn : label.turns = true) (nothing : system.nextMessage label = none) :
      StepKind system label (system.taken label) []
  | dispatch {label message now answer}
      (isTurn : label = .queueThread now answer ∨ label = .asyncThread now answer)
      (isNext : system.nextMessage label = some message) :
      StepKind system label ((system.taken label).dispatch now answer message).1
        ((system.taken label).dispatch now answer message).2

variable {system next : System}

/-- A call that posts nothing. -/
theorem callSide_nil (frame : next = { system with
    taskCounter := next.taskCounter
    pushManager := next.pushManager
    threads := next.threads
    failed := next.failed }) : CallSide system next [] :=
  ⟨frame, List.forall_mem_nil _⟩

/-- A call that is not the posting of a resume event. -/
theorem callSide_of_call {label : SystemLabel} {emitted : List SystemOutput}
    (call : CallKind system label next emitted) :
    (∃ sessionId now cmsDelay, label = .resume sessionId now cmsDelay ∧ emitted = [] ∧
        next = system.postResume sessionId now cmsDelay) ∨
      ∃ posts, CallSide system next posts := by
  cases call with
  | sync | post => exact .inr ⟨[(_, .reqTask _)], rfl, by simp [Stanza.fromCall]⟩
  | returns => exact .inr ⟨[(_, .removeTask _)], rfl, by simp [Stanza.fromCall]⟩
  | reconnects => exact .inr ⟨[(_, .connectData true _ _)], rfl, by simp [Stanza.fromCall]⟩
  | goesOn | connected | push | handles | destroy => exact .inr ⟨[], callSide_nil rfl⟩
  | resume => exact .inl ⟨_, _, _, rfl, rfl, rfl⟩

/-- A step that dispatches nothing and is no event of a socket is a call. -/
theorem isCall_of_kind {label : SystemLabel} (noTurn : label.turns = false)
    (noEvent : label.eventSerial = none) : label.isCall = true := by
  cases label with
  | queueThread | asyncThread => cases noTurn
  | connectEvent | closeEvent | resolveEvent | readEvent | heartbeatEvent | deviceReceive |
    deviceAnswer | devicePush => cases noEvent
  | _ => rfl

/-- A turn of the queue thread. -/
theorem kind_of_queueThreadTurn (system : System) (now : UInt32) (answer : ConnectAnswer) :
    StepKind system (.queueThread now answer) (system.queueThreadTurn now answer).1
      (system.queueThreadTurn now answer).2 := by
  unfold queueThreadTurn
  simp only
  split
  · next found =>
      refine .dispatch (.inl rfl) ?_
      simp only [nextMessage, found, if_true]
  · next nothing =>
      refine .idle rfl ?_
      simp [nextMessage, nothing]

/-- A turn of the asynchronous thread. -/
theorem kind_of_asyncThreadTurn (system : System) (now : UInt32) (answer : ConnectAnswer) :
    StepKind system (.asyncThread now answer) (system.asyncThreadTurn now answer).1
      (system.asyncThreadTurn now answer).2 := by
  unfold asyncThreadTurn
  simp only
  split
  · next found =>
      refine .dispatch (.inr rfl) ?_
      simp only [nextMessage, found, if_true]
  · next nothing =>
      refine .idle rfl ?_
      simp [nextMessage, nothing]

/-- What kind of step it was. -/
theorem kind_of_step {label : SystemLabel} {emitted : List SystemOutput}
    (transition : system.step label = some (next, emitted)) :
    StepKind system label next emitted := by
  cases isEvent : label.eventSerial with
  | some serial =>
      obtain ⟨session, found, signals, rfl⟩ := signals_step isEvent transition
      exact .event isEvent found signals
  | none =>
      cases isTurn : label.turns with
      | false =>
          have call := callKind_of_step (isCall_of_kind isTurn isEvent) transition
          rcases callSide_of_call call with ⟨sessionId, now, cmsDelay, rfl, rfl, rfl⟩ | ⟨posts, side⟩
          · exact .resume
          · exact .call isTurn isEvent side
      | true =>
          unfold step at transition
          split at transition
          · cases transition
          · cases label with
            | queueThread now answer =>
                have kind := kind_of_queueThreadTurn system now answer
                rw [Option.some.inj transition] at kind
                exact kind
            | asyncThread now answer =>
                have kind := kind_of_asyncThreadTurn system now answer
                rw [Option.some.inj transition] at kind
                exact kind
            | _ => cases isTurn

/-! ## What the manager does with a message -/

/-- The message has the manager open a session: a reconnect message of an absent or closed
session, under the session's id, or a connect message, under the task's. -/
def Opens (system : System) (message : SdkMessage) (requested connectId : UInt32) : Prop :=
  (∃ sessionId address, message.pdata = some (.connectData true sessionId address) ∧
      system.canReconnect sessionId = true ∧ requested = sessionId ∧ connectId = sessionId) ∨
    ∃ sessionId address, message.pdata = some (.connectData false sessionId address) ∧
      requested = 0 ∧ connectId = message.messageId

/-- The session object that is inserted. -/
def openedSession (system : System) (requested connectId : UInt32) (answer : ConnectAnswer) :
    SessionObject :=
  { SessionObject.new system.serials (system.constructedId requested) with
    bound := true }.start connectId answer

/-- The stanza is the manager's reply to the message. -/
def Replies (message : SdkMessage) (post : UInt32 × Stanza) : Prop :=
  post.1 = message.messageId ∧
    ((∃ sessionId, message.pdata = some (.disconnectData sessionId) ∧
        (post.2 = .plain .disconnectedSucceed sessionId ∨
          post.2 = .plain .disconnectedFailure sessionId)) ∨
      ∃ sessionId reqJson isPush tag,
        message.pdata = some (.requestData sessionId reqJson isPush tag) ∧
          (post.2 = .plain .sessionNotFound sessionId ∨
            (isPush = true ∧ post.2 = .plain .pushSucceed sessionId)))

/-- A new session is inserted exactly when its id is free. -/
theorem asyncSessions_openSession (tidy : system.Tidy) (requested connectId : UInt32)
    (answer : ConnectAnswer) :
    (system.openSession requested connectId answer).1.asyncSessions =
      match system.findSession (system.constructedId requested) with
      | some _ => system.asyncSessions
      | none => system.asyncSessions.insert (system.constructedId requested)
          (system.openedSession requested connectId answer) := by
  obtain ⟨sameTable, _⟩ := newSession_frame system requested
  let starts := fun session : SessionObject =>
    if session.serial = system.serials then session.start connectId answer else session
  have others : ∀ entry ∈ system.asyncSessions.entries, starts entry.2 = entry.2 := by
    intro entry member
    exact if_neg (Nat.ne_of_lt (tidy.sessions.counted entry member))
  unfold openSession addSession
  simp only [newSession_object, SessionObject.new, findSession, sameTable, updateSession]
  cases found : system.asyncSessions.find? (system.constructedId requested) with
  | some session =>
      simp only [sameTable]
      exact OrderedMap.mapValues_eq_self starts others
  | none =>
    have inserted := OrderedMap.mapValues_insert starts (system.constructedId requested)
      { SessionObject.new system.serials (system.constructedId requested) with bound := true } others
    simpa [starts, openedSession, SessionObject.new] using inserted

/-- The manager answers on the queue thread and in no other way. -/
theorem posts_sessionManagerOnMessage (tidy : system.Tidy) (now : UInt32) (answer : ConnectAnswer)
    (message : SdkMessage) :
    ∃ posts, (system.sessionManagerOnMessage now answer message).1.queueThread =
        postStanzas system.queueThread posts ∧ ∀ post ∈ posts, Replies message post := by
  have opens (base : System) (requested connectId : UInt32) :
      (base.openSession requested connectId answer).1.queueThread = base.queueThread := by
    unfold openSession newSession addSession updateSession
    by_cases fresh : requested = 0
    · simp only [fresh, if_true]
      split <;> rfl
    · simp only [fresh, if_false]
      split <;> rfl
  have removes (sessionId : UInt32) :
      (system.removeSession sessionId).queueThread = system.queueThread := by
    unfold removeSession
    split <;> rfl
  unfold sessionManagerOnMessage
  split
  · unfold onReconnectMessage
    simp only
    split
    · exact ⟨[], opens _ _ _, List.forall_mem_nil _⟩
    · exact ⟨[], rfl, List.forall_mem_nil _⟩
  · exact ⟨[], opens _ _ _, List.forall_mem_nil _⟩
  · next sessionId payload =>
      unfold onDisconnectMessage
      split
      · next session found =>
          have same : session.sessionId = sessionId :=
            tidy.sessions.keyed _ (OrderedMap.mem_of_find? found)
          refine ⟨[(message.messageId, .plain .disconnectedSucceed sessionId)], ?_, ?_⟩
          · simp only [postQueue, removes, same]
            rfl
          · simpa using ⟨rfl, .inl ⟨sessionId, payload, .inl rfl⟩⟩
      · refine ⟨[(message.messageId, .plain .disconnectedFailure sessionId)], rfl, ?_⟩
        simpa using ⟨rfl, .inl ⟨sessionId, payload, .inr rfl⟩⟩
  · next sessionId reqJson isPush tag payload =>
      unfold onRequestMessage
      split
      · simp only
        split
        · next push =>
            refine ⟨[(message.messageId, .plain .pushSucceed sessionId)], rfl, ?_⟩
            simpa using ⟨rfl, .inr ⟨sessionId, reqJson, isPush, tag, payload, .inr ⟨push, rfl⟩⟩⟩
        · exact ⟨[], rfl, List.forall_mem_nil _⟩
      · refine ⟨[(message.messageId, .plain .sessionNotFound sessionId)], rfl, ?_⟩
        simpa using ⟨rfl, .inr ⟨sessionId, reqJson, isPush, tag, payload, .inl rfl⟩⟩
  · exact ⟨[], removes _, List.forall_mem_nil _⟩
  · exact ⟨[], rfl, List.forall_mem_nil _⟩

/-- The entry was in the table, as the same object. -/
def Stays (system : System) (entry : UInt32 × SessionObject) : Prop :=
  ∃ old ∈ system.asyncSessions.entries, old.1 = entry.1 ∧ old.2.Same entry.2

/-- What is in the table stays in it. -/
theorem stays_of_mem {entry : UInt32 × SessionObject}
    (member : entry ∈ system.asyncSessions.entries) : system.Stays entry :=
  ⟨entry, member, rfl, .refl _⟩

/-- What is in a retouched table stays in it. -/
theorem stays_of_retouched {serial : Nat} {entry : UInt32 × SessionObject}
    (retouched : Retouched serial system.asyncSessions next.asyncSessions)
    (member : entry ∈ next.asyncSessions.entries) : system.Stays entry := by
  obtain ⟨change, same, _, table⟩ := retouched
  rw [table] at member
  obtain ⟨old, was, rfl⟩ := OrderedMap.mem_mapValues.mp member
  exact ⟨old, was, rfl, same old.2⟩

/-- What is left when a session is removed was there. -/
theorem mem_of_mem_removeSession {sessionId : UInt32} {entry : UInt32 × SessionObject}
    (member : entry ∈ (system.removeSession sessionId).asyncSessions.entries) :
    entry ∈ system.asyncSessions.entries := by
  unfold removeSession at member
  split at member
  · exact member
  · exact (OrderedMap.mem_erase.mp member).1

/-- What is in the table when a session is opened was there, or is the new session. -/
theorem stays_openSession (tidy : system.Tidy) {requested connectId : UInt32}
    {answer : ConnectAnswer} {entry : UInt32 × SessionObject}
    (member : entry ∈ (system.openSession requested connectId answer).1.asyncSessions.entries) :
    system.Stays entry ∨ (system.findSession (system.constructedId requested) = none ∧
      entry = (system.constructedId requested, system.openedSession requested connectId answer)) := by
  rw [asyncSessions_openSession tidy] at member
  split at member
  · exact .inl (stays_of_mem member)
  · next absent =>
      rcases OrderedMap.mem_insertEntry member with rfl | old
      · exact .inr ⟨absent, rfl⟩
      · exact .inl (stays_of_mem old)

/-- The table after a message of the manager: the same objects, and the one it opens. -/
theorem stays_sessionManagerOnMessage (tidy : system.Tidy) {now : UInt32} {answer : ConnectAnswer}
    {message : SdkMessage} {entry : UInt32 × SessionObject}
    (member : entry ∈
      (system.sessionManagerOnMessage now answer message).1.asyncSessions.entries) :
    system.Stays entry ∨ ∃ requested connectId, system.Opens message requested connectId ∧
      system.findSession (system.constructedId requested) = none ∧
        entry = (system.constructedId requested, system.openedSession requested connectId answer) := by
  unfold sessionManagerOnMessage at member
  split at member
  · next sessionId address payload =>
      unfold onReconnectMessage at member
      simp only at member
      split at member
      · next can =>
          have reposted : ({ system with
              asyncThread := system.asyncThread.postDelayed now reconnectDelay
                ⟨some .sessionManager, message.messageId, message.pdata⟩ } : System).Tidy :=
            (routine_postDelayedAsync tidy now _ (by simp) (by simp [payload])).tidy
          exact (stays_openSession reposted member).imp_right fun ⟨absent, isNew⟩ =>
            ⟨sessionId, sessionId, .inl ⟨sessionId, address, payload, can, rfl, rfl⟩, absent, isNew⟩
      · exact .inl (stays_of_mem member)
  · next sessionId address payload =>
      exact (stays_openSession tidy member).imp_right fun ⟨absent, isNew⟩ =>
        ⟨0, message.messageId, .inr ⟨sessionId, address, payload, rfl, rfl⟩, absent, isNew⟩
  · unfold onDisconnectMessage at member
    split at member
    · exact .inl (stays_of_mem (mem_of_mem_removeSession member))
    · exact .inl (stays_of_mem member)
  · next sessionId reqJson isPush tag payload =>
      unfold onRequestMessage at member
      split at member
      · next session _ =>
          have written := (signals_updateSession system (rfl : session.serial = session.serial)
            (fun session => { session with outgoing := session.outgoing ++ [⟨tag, reqJson⟩] })
            fun _ => ⟨rfl, rfl, rfl, rfl⟩).sessions
          simp only at member
          split at member
          · exact .inl (stays_of_retouched written member)
          · exact .inl (stays_of_retouched written member)
      · exact .inl (stays_of_mem member)
  · exact .inl (stays_of_mem (mem_of_mem_removeSession member))
  · exact .inl (stays_of_mem member)

/-! ## What the queue layer does with a message -/

/-- Routing changes the threads of the application and nothing else. -/
theorem frame_onTranslateToSyncLayer (system : System) (messageId : UInt32) (stanza : Stanza) :
    system.onTranslateToSyncLayer messageId stanza =
      { system with
        threads := (system.onTranslateToSyncLayer messageId stanza).threads
        failed := (system.onTranslateToSyncLayer messageId stanza).failed } := by
  unfold onTranslateToSyncLayer pushHandleMessage
  split
  · rfl
  · rfl
  · split
    · split
      · rfl
      · split <;> rfl
    · rfl

/-- The queue layer removes sessions, and posts nothing but reconnect messages to itself. -/
theorem queue_queueLayerOnMessage (tidy : system.Tidy) (message : SdkMessage) :
    ∃ messages, (system.queueLayerOnMessage message).queueThread =
        { system.queueThread with msgq := system.queueThread.msgq ++ messages } ∧
      (∀ posted ∈ messages, ∃ sessionId address,
        message.pdata = some (.connectData true sessionId address) ∧
          posted = ⟨some .sessionManager, StanzaType.resReconnectEvent.code,
            some (.connectData true sessionId address)⟩) ∧
      ∀ entry ∈ (system.queueLayerOnMessage message).asyncSessions.entries,
        entry ∈ system.asyncSessions.entries := by
  have same {other : System} (queue : other.queueThread = system.queueThread)
      (table : ∀ entry ∈ other.asyncSessions.entries, entry ∈ system.asyncSessions.entries) :
      ∃ messages, other.queueThread =
          { system.queueThread with msgq := system.queueThread.msgq ++ messages } ∧
        (∀ posted ∈ messages, ∃ sessionId address,
          message.pdata = some (.connectData true sessionId address) ∧
            posted = ⟨some .sessionManager, StanzaType.resReconnectEvent.code,
              some (.connectData true sessionId address)⟩) ∧
        ∀ entry ∈ other.asyncSessions.entries, entry ∈ system.asyncSessions.entries := by
    refine ⟨[], ?_, List.forall_mem_nil _, table⟩
    rw [queue, List.append_nil]
  unfold queueLayerOnMessage
  split
  · split
    · exact same rfl fun _ member => member
    · exact same rfl fun _ member => member
  · exact same rfl fun _ member => member
  · refine same ?_ fun _ => mem_of_mem_removeSession
    unfold removeSession
    split <;> rfl
  · next sessionId address payload =>
      refine ⟨[⟨some .sessionManager, StanzaType.resReconnectEvent.code,
        some (.connectData true sessionId address)⟩], ?_, ?_, fun _ member => member⟩
      · simp only [reConnect, MessageQueue.post, tidy.queue.running]
        rfl
      · intro posted member
        exact ⟨sessionId, address, payload, List.mem_singleton.mp member⟩
  · exact same rfl fun _ member => member
  · rw [frame_onTranslateToSyncLayer]
    exact same rfl fun _ member => member
  · rw [frame_onTranslateToSyncLayer]
    exact same rfl fun _ member => member
  · exact same rfl fun _ member => member

end System

end VzSdk.Sdk
