import VzSdk.Sdk.Steps

/-!
# Reconnecting

A connected device is given a reconnect message, which `OnReconnectMessage`
posts again at every tick: `reconnectPending_of_run` says that no later step takes
it away, the closing of the device included. `neverReinserted_iff` says in exactly
which runs a closed session does not come back. Nothing takes a closed session out
of the table before a new one is added either: `reconnect_progress_iff` says exactly
when a tick makes progress.
-/

namespace VzSdk.Sdk

open VzSdk.Base VzSdk.Event VzSdk.Std

/-- A session id is not inserted after its disconnection was answered with success. -/
def NeverReinserted (outputs : List SystemOutput) : Prop :=
  outputs.Pairwise fun earlier later => ∀ sessionId,
    earlier = .disconnectSucceeded sessionId → later ≠ .inserted sessionId

namespace System

/-- A new session for `requested` would come back under the id of a closed session. -/
def Reopens (system : System) (requested : UInt32) : Prop :=
  system.constructedId requested ∈ system.closed ∧
    system.findSession (system.constructedId requested) = none

/-- The message makes the manager open a session under the id of a closed one: it is
a reconnect message of a closed session, or a connect once the counter has come round. -/
def ReopensClosed (system : System) (message : SdkMessage) : Prop :=
  message.phandler = some .sessionManager ∧
    ((∃ sessionId address, message.pdata = some (.connectData true sessionId address) ∧
        system.canReconnect sessionId = true ∧ system.Reopens sessionId) ∨
      ∃ sessionId address, message.pdata = some (.connectData false sessionId address) ∧
        system.Reopens 0)

/-- No reconnect message of a closed session is handled. -/
def NoClosedReconnect (system : System) (label : SystemLabel) : Prop :=
  ∀ message, system.nextMessage label = some message → ¬system.ReopensClosed message

/-! ## What a dispatched message reports -/

/-- A new session is inserted, and reported, exactly when its id is free. -/
theorem openSession_report (system : System) (requested connectId : UInt32)
    (answer : ConnectAnswer) :
    (system.openSession requested connectId answer).2 =
      if system.findSession (system.constructedId requested) = none then
        [.inserted (system.constructedId requested)]
      else [] := by
  obtain ⟨sameTable, _⟩ := newSession_frame system requested
  unfold openSession addSession
  simp only [newSession_object, SessionObject.new, findSession, sameTable]
  split
  · next existing found => simp [found]
  · next absent => simp [absent]

/-- A signal of a session leaves the closed sessions and the queue of the thread as they are. -/
theorem untouched_onTranslateToSyncLayer (system : System) (messageId : UInt32) (stanza : Stanza) :
    (system.onTranslateToSyncLayer messageId stanza).closed = system.closed ∧
      (system.onTranslateToSyncLayer messageId stanza).asyncThread = system.asyncThread := by
  unfold onTranslateToSyncLayer
  split
  · exact ⟨rfl, rfl⟩
  · exact ⟨rfl, rfl⟩
  · split
    · unfold pushHandleMessage
      split
      · exact ⟨rfl, rfl⟩
      · split <;> exact ⟨rfl, rfl⟩
    · exact ⟨rfl, rfl⟩

/-- The queue layer closes no session. -/
theorem closed_queueLayerOnMessage {system : System} (tidy : system.Tidy) (message : SdkMessage) :
    (system.queueLayerOnMessage message).closed = system.closed := by
  unfold queueLayerOnMessage
  split
  · split <;> rfl
  · rfl
  · exact (routine_removeSession tidy _).closed
  · rfl
  · rfl
  · exact (untouched_onTranslateToSyncLayer _ _ _).1
  · exact (untouched_onTranslateToSyncLayer _ _ _).1
  · rfl

/-- A request closes no session. -/
theorem closed_onRequestMessage (system : System) (messageId sessionId : UInt32) (reqJson : Json)
    (isPush : Bool) (tag : UInt32) :
    (system.onRequestMessage messageId sessionId reqJson isPush tag).closed = system.closed := by
  unfold onRequestMessage
  split
  · simp only
    split <;> rfl
  · rfl

/-- What a step from `system` does to the record of closed sessions: it inserts
one of them exactly when `reopens` holds. -/
structure Report (system : System) (reopens : Prop) (closed : List UInt32)
    (emitted : List SystemOutput) : Prop where
  grows : ∀ id, id ∈ closed ↔ id ∈ system.closed ∨ .disconnectSucceeded id ∈ emitted
  inserts : (∃ id ∈ system.closed, .inserted id ∈ emitted) ↔ reopens
  orderly : NeverReinserted emitted

variable {system next : System} {message : SdkMessage} {reopens : Prop}

/-- A step whose outputs are about no session. -/
theorem report_of_quiet {emitted : List SystemOutput} (harmless : ¬reopens)
    (quiet : ∀ output ∈ emitted, ∀ sessionId, output ≠ .inserted sessionId ∧
      output ≠ .disconnectSucceeded sessionId) :
    Report system reopens system.closed emitted where
  grows := by
    intro id
    constructor
    · exact Or.inl
    · rintro (known | answered)
      · exact known
      · exact absurd rfl (quiet _ answered id).2
  inserts := by
    constructor
    · rintro ⟨id, _, inserted⟩
      exact absurd rfl (quiet _ inserted id).1
    · exact fun holds => absurd holds harmless
  orderly := by
    refine List.pairwise_iff_forall_sublist.mpr ?_
    intro earlier later both id _ inserted
    exact absurd inserted (quiet later (both.subset (by simp)) id).1

/-- Opening a session inserts the id it is constructed with, and no other. -/
theorem report_openSession {requested connectId : UInt32} {answer : ConnectAnswer}
    {base : System} (tidy : base.Tidy) (sameClosed : base.closed = system.closed)
    (sameTable : base.asyncSessions = system.asyncSessions)
    (sameCounter : base.sessionCounter = system.sessionCounter)
    (exact : system.Reopens requested ↔ reopens) :
    Report system reopens (base.openSession requested connectId answer).1.closed
      (base.openSession requested connectId answer).2 := by
  have closed := (routine_openSession tidy requested connectId answer).closed
  have emitted := base.openSession_report requested connectId answer
  have sameId : base.constructedId requested = system.constructedId requested := by
    simp only [constructedId, sameCounter]
  rw [closed, emitted, sameClosed, sameId, findSession, sameTable]
  refine ⟨?_, ?_, ?_⟩
  · intro id
    split <;> simp
  · rw [← exact, Reopens]
    split
    · next free => simp [findSession, free]
    · next taken => simp [findSession, taken]
  · split <;> simp [NeverReinserted]

/-- What the manager reports when it handles a message. -/
theorem report_sessionManagerOnMessage (tidy : system.Tidy) (toManager : message.phandler = some .sessionManager)
    (now : UInt32) (answer : ConnectAnswer) :
    Report system (system.ReopensClosed message)
      (system.sessionManagerOnMessage now answer message).1.closed
      (system.sessionManagerOnMessage now answer message).2 := by
  obtain ⟨phandler, messageId, pdata⟩ := message
  simp only at toManager
  subst toManager
  unfold sessionManagerOnMessage
  split
  · next sessionId address payload =>
      simp only at payload
      subst payload
      unfold onReconnectMessage
      simp only
      split
      · next can =>
          have reposted := routine_postDelayedAsync tidy now reconnectDelay
            (by simp : (⟨some .sessionManager, messageId, some (.connectData true sessionId address)⟩ :
              SdkMessage).phandler ≠ some .queueLayer) (by simp)
          refine report_openSession reposted.tidy rfl rfl rfl ?_
          simp [ReopensClosed, can]
      · next cannot =>
          refine report_of_quiet ?_ (by simp)
          simp [ReopensClosed, cannot]
  · next sessionId address payload =>
      simp only at payload
      subst payload
      refine report_openSession tidy rfl rfl rfl ?_
      simp [ReopensClosed]
  · next sessionId payload =>
      simp only at payload
      subst payload
      unfold onDisconnectMessage
      split
      · refine ⟨?_, ?_, ?_⟩
        · intro id
          simp [postQueue, (routine_removeSession tidy sessionId).closed, or_comm, eq_comm]
        · simp [ReopensClosed]
        · simp [NeverReinserted]
      · refine report_of_quiet ?_ (by simp)
        simp [ReopensClosed]
  · next payload =>
      simp only at payload
      subst payload
      simp only [closed_onRequestMessage]
      exact report_of_quiet (by simp [ReopensClosed]) (by simp)
  · next payload =>
      simp only at payload
      subst payload
      rw [(routine_removeSession tidy _).closed]
      exact report_of_quiet (by simp [ReopensClosed]) (by simp)
  · next noReconnect noConnect _ _ _ =>
      refine report_of_quiet ?_ (by simp)
      rintro ⟨_, ⟨sessionId, address, payload, _⟩ | ⟨sessionId, address, payload, _⟩⟩
      · exact noReconnect sessionId address payload
      · exact noConnect sessionId address payload

/-- What the dispatch of a message reports. -/
theorem report_dispatch (tidy : system.Tidy) (now : UInt32) (answer : ConnectAnswer) (message : SdkMessage) :
    Report system (system.ReopensClosed message) (system.dispatch now answer message).1.closed
      (system.dispatch now answer message).2 := by
  have elsewhere {handler : Option Component} (toOther : message.phandler = handler)
      (other : handler ≠ some .sessionManager) : ¬system.ReopensClosed message := by
    rintro ⟨toManager, _⟩
    exact other (toOther.symm.trans toManager)
  unfold dispatch
  split
  · next toQueueLayer =>
      rw [closed_queueLayerOnMessage tidy]
      exact report_of_quiet (elsewhere toQueueLayer (by simp)) (by simp)
  · next toManager => exact report_sessionManagerOnMessage tidy toManager now answer
  · next serial toSession =>
      rw [(routine_sessionOnMessage tidy serial now).closed]
      exact report_of_quiet (elsewhere toSession (by simp)) (by simp)
  · next _ notManager _ =>
      exact report_of_quiet (elsewhere rfl notManager) (by simp)

/-! ## What a step reports -/

/-- A call of the SDK neither inserts a session nor answers a disconnection. -/
theorem untouched_call {label : SystemLabel} {emitted : List SystemOutput}
    (call : CallKind system label next emitted) :
    (next.closed = system.closed ∧ next.asyncThread = system.asyncThread) ∧
      ∀ output ∈ emitted, ∀ sessionId, output ≠ .inserted sessionId ∧
        output ≠ .disconnectSucceeded sessionId := by
  cases call with
  | push => exact ⟨⟨rfl, rfl⟩, by simp⟩
  | _ => exact ⟨⟨rfl, rfl⟩, by simp⟩

/-- Reading from a socket closes no session. -/
theorem untouched_readEvent {serial : Nat} (transition : system.readEvent serial = some next) :
    next.closed = system.closed ∧ next.asyncThread = system.asyncThread := by
  unfold readEvent onSessionPacketEvent updateSession postQueue at transition
  grind

/-- What a device sends closes no session. -/
theorem untouched_devicePush {serial : Nat} {resJson : Option Json} {resData : List UInt8}
    (transition : system.devicePush serial resJson resData = some next) :
    next.closed = system.closed ∧ next.asyncThread = system.asyncThread := by
  unfold devicePush updateSession at transition
  grind

/-- The steps of the other threads, and the packets that come in, are about no session. -/
theorem untouched_step {label : SystemLabel} {emitted : List SystemOutput}
    (notRoutine : label.routine = false) (noTurn : label.turns = false)
    (transition : system.step label = some (next, emitted)) :
    (next.closed = system.closed ∧ next.asyncThread = system.asyncThread) ∧
      ∀ output ∈ emitted, ∀ sessionId, output ≠ .inserted sessionId ∧
        output ≠ .disconnectSucceeded sessionId := by
  have ofSilent {result : Option System}
      (kept : ∀ {final}, result = some final →
        final.closed = system.closed ∧ final.asyncThread = system.asyncThread)
      (done : silent result = some (next, emitted)) :
      (next.closed = system.closed ∧ next.asyncThread = system.asyncThread) ∧
        ∀ output ∈ emitted, ∀ sessionId, output ≠ .inserted sessionId ∧
          output ≠ .disconnectSucceeded sessionId := by
    obtain ⟨final, isFinal, same⟩ := Option.map_eq_some_iff.mp done
    cases same
    exact ⟨kept isFinal, by simp⟩
  cases isCall : label.isCall with
  | true => exact untouched_call (callKind_of_step isCall transition)
  | false =>
      unfold step at transition
      split at transition
      · cases transition
      · cases label with
        | readEvent => exact ofSilent untouched_readEvent transition
        | devicePush => exact ofSilent untouched_devicePush transition
        | queueThread | asyncThread => cases noTurn
        | connectEvent | closeEvent | resolveEvent | heartbeatEvent | deviceReceive |
          deviceAnswer => cases notRoutine
        | _ => cases isCall

/-- A turn of either thread reports what its message does. -/
theorem report_turn {taken : System} {label : SystemLabel} (now : UInt32) (answer : ConnectAnswer)
    {pass : GetPass Component Stanza} (tidy : taken.Tidy)
    (isNext : system.nextMessage label = if pass.found then some pass.pmsg else none)
    (sameClosed : taken.closed = system.closed)
    (sameTable : taken.asyncSessions = system.asyncSessions)
    (sameCounter : taken.sessionCounter = system.sessionCounter) :
    Report system (¬system.NoClosedReconnect label)
      (if pass.found then taken.dispatch now answer pass.pmsg else (taken, [])).1.closed
      (if pass.found then taken.dispatch now answer pass.pmsg else (taken, [])).2 := by
  have sameReopens (message : SdkMessage) :
      taken.ReopensClosed message ↔ system.ReopensClosed message := by
    simp only [ReopensClosed, Reopens, canReconnect, findSession, constructedId, sameClosed,
      sameTable, sameCounter]
  split
  · next found =>
      obtain ⟨grows, inserts, orderly⟩ := report_dispatch tidy now answer pass.pmsg
      rw [sameClosed] at grows inserts
      refine ⟨grows, inserts.trans ((sameReopens _).trans ?_), orderly⟩
      simp [NoClosedReconnect, isNext, found]
  · next unfound =>
      rw [sameClosed]
      refine report_of_quiet ?_ (by simp)
      simp [NoClosedReconnect, isNext, unfound]

/-- What a step reports. -/
theorem report_step {label : SystemLabel} {emitted : List SystemOutput} (tidy : system.Tidy)
    (transition : system.step label = some (next, emitted)) :
    Report system (¬system.NoClosedReconnect label) next.closed emitted := by
  have elsewhere (noTurn : label.turns = false) (closed : next.closed = system.closed)
      (quiet : ∀ output ∈ emitted, ∀ sessionId, output ≠ .inserted sessionId ∧
        output ≠ .disconnectSucceeded sessionId) :
      Report system (¬system.NoClosedReconnect label) next.closed emitted := by
    have noMessage : system.nextMessage label = none := by
      cases label <;> first | rfl | cases noTurn
    rw [closed]
    refine report_of_quiet ?_ quiet
    simp [NoClosedReconnect, noMessage]
  cases isRoutine : label.routine with
  | true =>
      obtain ⟨routine, rfl⟩ := routine_step tidy isRoutine transition
      refine elsewhere ?_ routine.closed (by simp)
      cases label <;> first | rfl | cases isRoutine
  | false =>
      cases isTurn : label.turns with
      | false =>
          obtain ⟨⟨closed, _⟩, quiet⟩ := untouched_step isRoutine isTurn transition
          exact elsewhere isTurn closed quiet
      | true =>
          unfold step at transition
          split at transition
          · cases transition
          · cases label with
            | queueThread now answer =>
                have turn := report_turn now answer (tidy_takeQueue tidy now)
                  (rfl : system.nextMessage (.queueThread now answer) = _) rfl rfl rfl
                simp only [queueThreadTurn, Option.some.injEq] at transition
                rw [transition] at turn
                exact turn
            | asyncThread now answer =>
                have turn := report_turn now answer (tidy_takeAsync tidy now)
                  (rfl : system.nextMessage (.asyncThread now answer) = _) rfl rfl rfl
                simp only [asyncThreadTurn, Option.some.injEq] at transition
                rw [transition] at turn
                exact turn
            | _ => cases isTurn

/-! ## The reconnect message stays -/

/-- A reconnect message of the session is on the asynchronous thread, which runs. -/
def ReconnectPending (system : System) (sessionId : UInt32) : Prop :=
  system.asyncThread.fStop = false ∧ ∃ message ∈ system.asyncThread.contents,
    message.phandler = some .sessionManager ∧ message.messageId ≠ mqidDispose ∧
      ∃ address, message.pdata = some (.connectData true sessionId address)

/-- A message is a reconnect message of the session. -/
def isReconnect (sessionId : UInt32) (message : SdkMessage) : Bool :=
  message.phandler == some .sessionManager && message.messageId != mqidDispose &&
    match message.pdata with
    | some (.connectData true reconnected _) => reconnected == sessionId
    | _ => false

/-- Whether a reconnect message is there can be looked up. -/
theorem reconnectPending_iff {sessionId : UInt32} :
    system.ReconnectPending sessionId ↔ system.asyncThread.fStop = false ∧
      system.asyncThread.contents.any (isReconnect sessionId) = true := by
  have recognised (message : SdkMessage) : isReconnect sessionId message = true ↔
      message.phandler = some .sessionManager ∧ message.messageId ≠ mqidDispose ∧
        ∃ address, message.pdata = some (.connectData true sessionId address) := by
    obtain ⟨phandler, messageId, pdata⟩ := message
    unfold isReconnect
    split
    · next reconnected address payload =>
        simp only at payload
        subst payload
        simp [and_assoc]
    · next other =>
        simp only [Bool.and_false, Bool.false_eq_true, false_iff]
        rintro ⟨_, _, address, payload⟩
        exact other _ _ payload
  rw [ReconnectPending, List.any_eq_true]
  exact and_congr_right' (exists_congr fun message => and_congr_right' (recognised message).symm)

/-- A step that keeps the manager's messages keeps the reconnect message. -/
theorem ReconnectPending.of_keeps {sessionId : UInt32} (pending : system.ReconnectPending sessionId)
    (keeps : KeepsManager system.asyncThread next.asyncThread) :
    next.ReconnectPending sessionId := by
  obtain ⟨running, message, member, toManager, rest⟩ := pending
  exact ⟨keeps.running.trans running, message, keeps.kept message member toManager, toManager, rest⟩

/-- The queue layer leaves the manager's messages in the queue. -/
theorem keeps_queueLayerOnMessage (tidy : system.Tidy) (message : SdkMessage) :
    KeepsManager system.asyncThread (system.queueLayerOnMessage message).asyncThread := by
  unfold queueLayerOnMessage
  split
  · split
    · exact .refl
    · exact ⟨MessageQueue.fStop_post _ _, fun _ member _ => MessageQueue.mem_post_of_mem member⟩
  · exact .refl
  · exact (routine_removeSession tidy _).manager
  · exact .refl
  · exact .refl
  · rw [(untouched_onTranslateToSyncLayer _ _ _).2]
    exact .refl
  · rw [(untouched_onTranslateToSyncLayer _ _ _).2]
    exact .refl
  · exact .refl

/-- The manager leaves its other messages in the queue. -/
theorem keeps_sessionManagerOnMessage (tidy : system.Tidy) (now : UInt32) (answer : ConnectAnswer)
    (message : SdkMessage) :
    KeepsManager system.asyncThread
      (system.sessionManagerOnMessage now answer message).1.asyncThread := by
  obtain ⟨phandler, messageId, pdata⟩ := message
  unfold sessionManagerOnMessage
  split
  · next sessionId address payload =>
      simp only at payload
      subst payload
      exact (routine_onReconnectMessage tidy now answer messageId sessionId address).manager
  · exact (routine_openSession tidy _ _ _).manager
  · unfold onDisconnectMessage
    split
    · exact (routine_removeSession tidy _).manager
    · exact .refl
  · unfold onRequestMessage
    split
    · simp only
      split <;> exact .refl
    · exact .refl
  · exact (routine_removeSession tidy _).manager
  · exact .refl

/-- Dispatching a message leaves the manager's other messages in the queue. -/
theorem keeps_dispatch (tidy : system.Tidy) (now : UInt32) (answer : ConnectAnswer)
    (message : SdkMessage) :
    KeepsManager system.asyncThread (system.dispatch now answer message).1.asyncThread := by
  unfold dispatch
  split
  · exact keeps_queueLayerOnMessage tidy message
  · exact keeps_sessionManagerOnMessage tidy now answer message
  · exact (routine_sessionOnMessage tidy _ now).manager
  · exact .refl

/-- Handling a reconnect message leaves one behind. -/
theorem reconnectPending_dispatch (tidy : system.Tidy) (now : UInt32) (answer : ConnectAnswer)
    {message : SdkMessage} {sessionId : UInt32} {address : SocketAddress}
    (running : system.asyncThread.fStop = false)
    (toManager : message.phandler = some .sessionManager)
    (lasting : message.messageId ≠ mqidDispose)
    (reconnects : message.pdata = some (.connectData true sessionId address)) :
    (system.dispatch now answer message).1.ReconnectPending sessionId := by
  have reposted := routine_postDelayedAsync tidy now reconnectDelay
    (by simp : (⟨some .sessionManager, message.messageId, message.pdata⟩ : SdkMessage).phandler ≠
      some .queueLayer) (by simp [reconnects])
  have pending : ({ system with
      asyncThread := system.asyncThread.postDelayed now reconnectDelay
        ⟨some .sessionManager, message.messageId, message.pdata⟩ } : System).ReconnectPending
          sessionId :=
    ⟨reposted.manager.running.trans running, _,
      MessageQueue.mem_postDelayed (.inr ⟨rfl, running⟩), rfl, lasting, address, reconnects⟩
  simp only [dispatch, toManager, sessionManagerOnMessage, reconnects, onReconnectMessage]
  rw [reconnects] at pending reposted
  split
  · exact pending.of_keeps (routine_openSession reposted.tidy _ _ _).manager
  · exact pending

/-- A step leaves a reconnect message pending. -/
theorem reconnectPending_step {label : SystemLabel} {emitted : List SystemOutput}
    {sessionId : UInt32} (tidy : system.Tidy) (pending : system.ReconnectPending sessionId)
    (transition : system.step label = some (next, emitted)) : next.ReconnectPending sessionId := by
  cases isRoutine : label.routine with
  | true => exact pending.of_keeps (routine_step tidy isRoutine transition).1.manager
  | false =>
      cases isTurn : label.turns with
      | false =>
          obtain ⟨⟨_, same⟩, _⟩ := untouched_step isRoutine isTurn transition
          refine pending.of_keeps ?_
          rw [same]
          exact .refl
      | true =>
          unfold step at transition
          split at transition
          · cases transition
          · cases label with
            | queueThread now answer =>
                simp only [queueThreadTurn, Option.some.injEq] at transition
                split at transition
                · have keeps := keeps_dispatch (tidy_takeQueue tidy now) now answer
                    (system.queueThread.getPass now .zero).pmsg
                  rw [transition] at keeps
                  exact pending.of_keeps keeps
                · cases transition
                  exact pending
            | asyncThread now answer =>
                have tidyTaken := tidy_takeAsync tidy now
                obtain ⟨running, message, member, toManager, lasting, address, reconnects⟩ := pending
                simp only [asyncThreadTurn, Option.some.injEq] at transition
                rcases MessageQueue.getPass_keeps now .zero member lasting with ⟨found, rfl⟩ | stays
                · rw [if_pos found] at transition
                  have handled := reconnectPending_dispatch tidyTaken now answer
                    ((MessageQueue.fStop_getPass _ _ _).trans running) toManager lasting reconnects
                  rw [transition] at handled
                  exact handled
                · have taken : ({ system with
                      asyncThread := (system.asyncThread.getPass now .zero).queue } :
                        System).ReconnectPending sessionId :=
                    ⟨(MessageQueue.fStop_getPass _ _ _).trans running, message, stays, toManager,
                      lasting, address, reconnects⟩
                  split at transition
                  · have keeps := keeps_dispatch tidyTaken now answer
                      (system.asyncThread.getPass now .zero).pmsg
                    rw [transition] at keeps
                    exact taken.of_keeps keeps
                  · cases transition
                    exact taken
            | _ => cases isTurn

end System

/-! ## Closed devices -/

/-- `closed` lists the sessions whose disconnection was answered with success. -/
theorem closed_of_run {allowed : System → SystemLabel → Prop} {pushThread : Nat}
    {labels : List SystemLabel} {system : System} {outputs : List SystemOutput}
    (run : sdkMachine.RunWhere allowed (System.start pushThread) labels system outputs)
    (sessionId : UInt32) :
    sessionId ∈ system.closed ↔ .disconnectSucceeded sessionId ∈ outputs := by
  induction run with
  | nil => simp [System.start]
  | snoc prior permitted transition inductionHypothesis =>
      have report := System.report_step (tidy_of_run prior) transition
      rw [report.grows, inductionHypothesis, List.mem_append]

/-- A closed session comes back in exactly the runs in which, after its disconnection
was answered with success, the manager handles a reconnect message of the session (or
gives its id to a new connection). -/
theorem neverReinserted_iff {pushThread : Nat} {labels : List SystemLabel} {final : System}
    {outputs : List SystemOutput}
    (run : sdkMachine.Run (System.start pushThread) labels final outputs) :
    NeverReinserted outputs ↔
      sdkMachine.RunWhere System.NoClosedReconnect (System.start pushThread) labels final outputs := by
  refine Machine.RunWhere.good_iff NeverReinserted .nil ?_ run
  intro labels system outputs label next emitted prior transition
  obtain ⟨_, inserts, orderly⟩ := System.report_step (tidy_of_run prior) transition
  unfold NeverReinserted
  rw [List.pairwise_append]
  constructor
  · rintro ⟨before, _, across⟩
    refine ⟨before, Classical.byContradiction fun reopens => ?_⟩
    obtain ⟨sessionId, closed, inserted⟩ := inserts.mpr reopens
    exact across _ ((closed_of_run prior sessionId).mp closed) _ inserted sessionId rfl rfl
  · rintro ⟨before, permitted⟩
    refine ⟨before, orderly, ?_⟩
    rintro earlier earlierOutput later laterOutput sessionId rfl rfl
    have closed := (closed_of_run prior sessionId).mpr earlierOutput
    exact inserts.mp ⟨sessionId, closed, laterOutput⟩ permitted

/-- What an output says about a session: whether it is inserted, and which one. -/
def SystemOutput.session : SystemOutput → Option (Bool × UInt32)
  | .inserted sessionId => some (true, sessionId)
  | .disconnectSucceeded sessionId => some (false, sessionId)
  | _ => none

/-- No session comes back in terms of the sessions that the outputs name. -/
theorem neverReinserted_session (outputs : List SystemOutput) :
    NeverReinserted outputs ↔ (outputs.filterMap SystemOutput.session).Pairwise
      fun earlier later => earlier.1 = false → later ≠ (true, earlier.2) := by
  rw [List.pairwise_filterMap, NeverReinserted]
  apply iff_of_eq
  congr
  funext earlier later
  cases earlier <;> cases later <;> simp [SystemOutput.session]

/-- A device is connected, as session 2, and its reconnect message has been handled once. -/
def deviceConnected : List SystemLabel :=
  [.connect 1 ⟨"192.168.0.2", 8131⟩ 5000 1000, .queueThread 1000 .pending,
    .queueThread 1000 .pending, .asyncThread 1000 .pending, .connectEvent 0 1000,
    .queueThread 1000 .pending, .wait 1 (.call 1000), .wait 1 (.check 1000),
    .connectServer 1, .queueThread 1000 .pending, .queueThread 1000 .pending,
    .queueThread 1000 .pending]


/-- The application closes session 2. -/
def closing : List SystemLabel :=
  [.disconnect 1 2 5000 1000, .queueThread 1000 .pending, .asyncThread 1000 .pending]

/-- The application closes the device. -/
def deviceClosed : List SystemLabel :=
  deviceConnected ++ closing

/-- Nothing ever takes a reconnect message away: whatever happens after it was posted to
the asynchronous thread, also the disconnection of its session, one stays there. -/
theorem reconnectPending_of_run {pushThread : Nat} {sessionId : UInt32}
    {earlier later : List SystemLabel} {system final : System}
    {outputs emitted : List SystemOutput}
    (run : sdkMachine.Run (System.start pushThread) earlier system outputs)
    (pending : system.ReconnectPending sessionId)
    (goesOn : sdkMachine.Run system later final emitted) : final.ReconnectPending sessionId := by
  have kept := goesOn.invariant (fun _ system _ => system.Tidy ∧ system.ReconnectPending sessionId)
    ⟨tidy_of_run run, pending⟩ fun ⟨tidy, pending⟩ _ transition =>
      ⟨System.tidy_step tidy transition, System.reconnectPending_step tidy pending transition⟩
  exact kept.2

/-- The device of session 2 was closed, and its reconnect message is still there. -/
theorem reconnectPending_of_run_closed :
    ∃ system outputs final emitted,
      sdkMachine.Run (System.start 0) deviceConnected system outputs ∧
      sdkMachine.Run system closing final emitted ∧
      emitted.filterMap SystemOutput.session = [(false, 2)] ∧ final.ReconnectPending 2 := by
  have checked : (sdkMachine.exec (System.start 0) deviceConnected).any (fun result =>
      !result.1.asyncThread.fStop && result.1.asyncThread.contents.any (System.isReconnect 2) &&
        (sdkMachine.exec result.1 closing).any fun after =>
          after.2.filterMap SystemOutput.session = [(false, 2)]) := by decide +kernel
  obtain ⟨system, outputs, run, connected⟩ := Machine.exists_run_of_exec checked
  simp only [Bool.and_eq_true, Bool.not_eq_true'] at connected
  obtain ⟨⟨running, posted⟩, closes⟩ := connected
  obtain ⟨final, emitted, goesOn, events⟩ := Machine.exists_run_of_exec closes
  have pending : system.ReconnectPending 2 := System.reconnectPending_iff.mpr ⟨running, posted⟩
  exact ⟨system, outputs, final, emitted, run, goesOn, by simpa using events,
    reconnectPending_of_run run pending goesOn⟩

/-- Until the next tick of the reconnect message the device stays closed. -/
theorem neverReinserted_until_tick :
    ∃ final outputs, sdkMachine.Run (System.start 0) deviceClosed final outputs ∧
      outputs.filterMap SystemOutput.session = [(true, 2), (false, 2)] ∧
      sdkMachine.RunWhere System.NoClosedReconnect (System.start 0) deviceClosed final outputs := by
  have checked : (sdkMachine.exec (System.start 0) deviceClosed).any fun result =>
      result.2.filterMap SystemOutput.session = [(true, 2), (false, 2)] := by decide +kernel
  obtain ⟨final, outputs, run, events⟩ := Machine.exists_run_of_exec checked
  have events : outputs.filterMap SystemOutput.session = [(true, 2), (false, 2)] := by
    simpa using events
  refine ⟨final, outputs, run, events, (neverReinserted_iff run).mp ?_⟩
  rw [neverReinserted_session, events]
  decide

/-- At the next tick the closed device is connected again. -/
theorem reinserted_at_tick :
    ∃ final outputs,
      sdkMachine.Run (System.start 0) (deviceClosed ++ [.asyncThread 4000 .pending])
        final outputs ∧
      outputs.filterMap SystemOutput.session = [(true, 2), (false, 2), (true, 2)] ∧
      ¬NeverReinserted outputs := by
  have checked : (sdkMachine.exec (System.start 0)
      (deviceClosed ++ [.asyncThread 4000 .pending])).any fun result =>
        result.2.filterMap SystemOutput.session = [(true, 2), (false, 2), (true, 2)] := by
    decide +kernel
  obtain ⟨final, outputs, run, events⟩ := Machine.exists_run_of_exec checked
  have events : outputs.filterMap SystemOutput.session = [(true, 2), (false, 2), (true, 2)] := by
    simpa using events
  refine ⟨final, outputs, run, events, ?_⟩
  rw [neverReinserted_session, events]
  decide

/-! ## Progress -/

namespace System

variable {system next : System}

/-- After the step, the session `sessionId` is an object that was not there before, bound to
the manager's signals and started. -/
def Progressed (system next : System) (sessionId : UInt32) : Prop :=
  ∃ serial answer, (∀ entry ∈ system.asyncSessions.entries, entry.2.serial ≠ serial) ∧
    next.findSession sessionId =
      some ({ SessionObject.new serial sessionId with bound := true }.start sessionId answer)

/-- A session is found as it was changed. -/
theorem findSession_updateSession (system : System) (serial : Nat)
    (change : SessionObject → SessionObject) (sessionId : UInt32) :
    (system.updateSession serial change).findSession sessionId =
      (system.findSession sessionId).map fun session =>
        if session.serial = serial then change session else session :=
  OrderedMap.find?_mapValues _

/-- An added session is found under its id, unless that id was taken. -/
theorem findSession_addSession (system : System) (session : SessionObject) (sessionId : UInt32) :
    (system.addSession session).1.findSession sessionId =
      if sessionId = session.sessionId ∧ system.findSession sessionId = none then
        some { session with bound := true }
      else system.findSession sessionId := by
  unfold addSession
  split
  · next existing present =>
      rw [if_neg]
      rintro ⟨rfl, absent⟩
      rw [present] at absent
      cases absent
  · next absent =>
      split
      · next both =>
          rw [both.1]
          exact OrderedMap.find?_insert_self absent _
      · next other =>
          refine OrderedMap.find?_insert_of_ne ?_ _
          rintro rfl
          exact other ⟨rfl, absent⟩

/-- Only the session under the new object's id changes, and only if there was none. -/
theorem findSession_openSession (tidy : system.Tidy) (requested connectId : UInt32)
    (answer : ConnectAnswer) (sessionId : UInt32) :
    (system.openSession requested connectId answer).1.findSession sessionId =
      if sessionId = system.constructedId requested ∧ system.findSession sessionId = none then
        some ({ SessionObject.new system.serials sessionId with bound := true }.start connectId answer)
      else system.findSession sessionId := by
  have sameTable : (system.newSession requested).1.findSession sessionId =
      system.findSession sessionId := by
    rw [findSession, (newSession_frame system requested).1, findSession]
  unfold openSession
  simp only [findSession_updateSession, findSession_addSession, newSession_object, sameTable,
    SessionObject.new]
  split
  · next both => simp [both.1]
  · next other =>
      -- The objects of the table are older than the new one.
      cases found : system.findSession sessionId with
      | none => rfl
      | some session =>
          have counted : session.serial < system.serials :=
            tidy.sessions.counted _ (OrderedMap.mem_of_find? found)
          rw [Option.map_some, if_neg (Nat.ne_of_lt counted)]

/-- A reconnect message makes progress when the new session finds its id free. -/
theorem progressed_iff (tidy : system.Tidy) (now : UInt32) (answer : ConnectAnswer)
    {message : SdkMessage} {sessionId : UInt32} {address : SocketAddress}
    (toManager : message.phandler = some .sessionManager)
    (reconnects : message.pdata = some (.connectData true sessionId address))
    (can : system.canReconnect sessionId = true) :
    system.Progressed (system.dispatch now answer message).1 sessionId ↔
      system.findSession sessionId = none ∧ system.constructedId sessionId = sessionId := by
  have reposted := routine_postDelayedAsync tidy now reconnectDelay
    (by simp : (⟨some .sessionManager, message.messageId, message.pdata⟩ : SdkMessage).phandler ≠
      some .queueLayer) (by simp [reconnects])
  have found := findSession_openSession reposted.tidy sessionId sessionId answer sessionId
  have dispatched : (system.dispatch now answer message).1.findSession sessionId =
      if sessionId = system.constructedId sessionId ∧ system.findSession sessionId = none then
        some ({ SessionObject.new system.serials sessionId with bound := true }.start sessionId answer)
      else system.findSession sessionId := by
    simp only [dispatch, toManager, sessionManagerOnMessage, reconnects, onReconnectMessage, can,
      if_true]
    rw [reconnects] at found
    exact found
  unfold Progressed
  rw [dispatched]
  constructor
  · rintro ⟨serial, answer, new, progressed⟩
    split at progressed
    · next both => exact ⟨both.2, both.1.symm⟩
    · -- An object that was there before is not new.
      have member := OrderedMap.mem_of_find? progressed
      exact absurd rfl (new _ member)
  · rintro ⟨absent, sameId⟩
    refine ⟨system.serials, answer, ?_, if_pos ⟨sameId.symm, absent⟩⟩
    exact fun entry member => Nat.ne_of_lt (tidy.sessions.counted entry member)

/-- A step of either thread dispatches its next message. -/
theorem step_dispatches {label : SystemLabel} {message : SdkMessage} {emitted : List SystemOutput}
    (tidy : system.Tidy) (isNext : system.nextMessage label = some message)
    (transition : system.step label = some (next, emitted)) :
    ∃ (taken : System) (now : UInt32) (answer : ConnectAnswer), taken.Tidy ∧
      taken.asyncSessions = system.asyncSessions ∧
      taken.sessionCounter = system.sessionCounter ∧
      taken.dispatch now answer message = (next, emitted) := by
  unfold step at transition
  split at transition
  · cases transition
  · cases label with
    | queueThread now answer =>
        refine ⟨_, now, answer, tidy_takeQueue tidy now, rfl, rfl, ?_⟩
        simp only [nextMessage, Option.ite_none_right_eq_some, Option.some.injEq] at isNext
        obtain ⟨found, rfl⟩ := isNext
        simpa [queueThreadTurn, found] using transition
    | asyncThread now answer =>
        refine ⟨_, now, answer, tidy_takeAsync tidy now, rfl, rfl, ?_⟩
        simp only [nextMessage, Option.ite_none_right_eq_some, Option.some.injEq] at isNext
        obtain ⟨found, rfl⟩ := isNext
        simpa [asyncThreadTurn, found] using transition
    | _ => cases isNext

end System

/-- A reconnect message whose session is absent or closed leads to a new session,
bound and started, exactly when the session is absent: a closed one that is still
in the table blocks every attempt. (The id zero makes the constructor take the next id.) -/
theorem reconnect_progress_iff {pushThread : Nat} {labels : List SystemLabel}
    {system next : System} {outputs emitted : List SystemOutput} {label : SystemLabel}
    {message : SdkMessage} {sessionId : UInt32} {address : SocketAddress}
    (run : sdkMachine.Run (System.start pushThread) labels system outputs)
    (isNext : system.nextMessage label = some message)
    (toManager : message.phandler = some .sessionManager)
    (reconnects : message.pdata = some (.connectData true sessionId address))
    (can : system.canReconnect sessionId = true)
    (transition : system.step label = some (next, emitted)) :
    system.Progressed next sessionId ↔
      system.findSession sessionId = none ∧ system.constructedId sessionId = sessionId := by
  obtain ⟨taken, now, answer, tidy, sameTable, sameCounter, dispatched⟩ :=
    System.step_dispatches (tidy_of_run run) isNext transition
  have can : taken.canReconnect sessionId = true := by
    simpa only [System.canReconnect, System.findSession, sameTable] using can
  have progressed := System.progressed_iff tidy now answer toManager reconnects can
  rw [dispatched] at progressed
  simpa only [System.Progressed, System.findSession, System.constructedId, sameTable, sameCounter]
    using progressed

/-- The device goes away and its session is removed. -/
def deviceLost : List SystemLabel :=
  deviceConnected ++ [.closeEvent 0, .queueThread 1000 .pending,
    .queueThread 1000 .pending]

/-- The next tick finds no session, and its `Connect` fails at once. -/
def connectFailed : List SystemLabel := deviceLost ++ [.asyncThread 4000 ⟨false, .failed⟩]

/-- The message is a reconnect message of session 2 for the manager. -/
def reconnectsTwo (message : SdkMessage) : Bool :=
  match message.phandler, message.pdata with
  | some .sessionManager, some (.connectData true sessionId _) => sessionId = 2
  | _, _ => false

/-- What `reconnectsTwo` checks of a message. -/
theorem reconnectsTwo_spec {message : SdkMessage} (reconnects : reconnectsTwo message = true) :
    message.phandler = some .sessionManager ∧
      ∃ address, message.pdata = some (.connectData true 2 address) := by
  unfold reconnectsTwo at reconnects
  split at reconnects
  · next sessionId address toManager payload =>
      have isTwo : sessionId = 2 := by simpa using reconnects
      exact ⟨toManager, address, isTwo ▸ payload⟩
  · cases reconnects

/-- A state after which the label handles a reconnect message of session 2, which may
reconnect; `absent` tells whether the table has no such session. -/
def ticksTwo (label : SystemLabel) (absent : Bool) (system : System) : Bool :=
  (system.nextMessage label).any reconnectsTwo && system.canReconnect 2 &&
    (system.step label).isSome && (system.findSession 2).isNone == absent

/-- What `ticksTwo` checks of a step. -/
theorem ticksTwo_spec {label : SystemLabel} {absent : Bool} {system : System}
    (ticks : ticksTwo label absent system = true) :
    ∃ message address next emitted, system.nextMessage label = some message ∧
      message.phandler = some .sessionManager ∧
      message.pdata = some (.connectData true 2 address) ∧ system.canReconnect 2 = true ∧
      system.step label = some (next, emitted) ∧ (system.findSession 2).isNone = absent := by
  simp only [ticksTwo, Bool.and_eq_true, beq_iff_eq, Option.any_eq_true] at ticks
  obtain ⟨⟨⟨⟨message, isNext, reconnects⟩, can⟩, steps⟩, isAbsent⟩ := ticks
  obtain ⟨toManager, address, payload⟩ := reconnectsTwo_spec reconnects
  obtain ⟨⟨next, emitted⟩, transition⟩ := Option.isSome_iff_exists.mp steps
  exact ⟨message, address, next, emitted, isNext, toManager, payload, can, transition, isAbsent⟩

/-- With the session gone, the tick makes a new one. -/
theorem reconnect_progress_lost :
    ∃ system next outputs emitted, sdkMachine.Run (System.start 0) deviceLost system outputs ∧
      system.step (.asyncThread 4000 .pending) = some (next, emitted) ∧
      system.Progressed next 2 := by
  have checked : (sdkMachine.exec (System.start 0) deviceLost).any fun result =>
      ticksTwo (.asyncThread 4000 .pending) true result.1 := by decide +kernel
  obtain ⟨system, outputs, run, ticks⟩ := Machine.exists_run_of_exec checked
  obtain ⟨message, address, next, emitted, isNext, toManager, reconnects, can, transition, absent⟩ :=
    ticksTwo_spec ticks
  refine ⟨system, next, outputs, emitted, run, transition, ?_⟩
  exact (reconnect_progress_iff run isNext toManager reconnects can transition).mpr
    ⟨Option.isNone_iff_eq_none.mp absent, rfl⟩

/-- After a `Connect` that failed at once, the closed session stays in the table, and the
next tick makes no progress. -/
theorem reconnect_blocked_by_failure :
    ∃ system next outputs emitted message address,
      sdkMachine.Run (System.start 0) connectFailed system outputs ∧
      system.nextMessage (.asyncThread 7000 .pending) = some message ∧
      message.phandler = some .sessionManager ∧
      message.pdata = some (.connectData true 2 address) ∧
      system.canReconnect 2 = true ∧
      system.step (.asyncThread 7000 .pending) = some (next, emitted) ∧
      ¬system.Progressed next 2 := by
  have checked : (sdkMachine.exec (System.start 0) connectFailed).any fun result =>
      ticksTwo (.asyncThread 7000 .pending) false result.1 := by decide +kernel
  obtain ⟨system, outputs, run, ticks⟩ := Machine.exists_run_of_exec checked
  obtain ⟨message, address, next, emitted, isNext, toManager, reconnects, can, transition, present⟩ :=
    ticksTwo_spec ticks
  refine ⟨system, next, outputs, emitted, message, address, run, isNext, toManager, reconnects, can,
    transition, ?_⟩
  obtain ⟨taken, now, answer, tidy, sameTable, _, dispatched⟩ :=
    System.step_dispatches (tidy_of_run run) isNext transition
  have canTaken : taken.canReconnect 2 = true := by
    simpa only [System.canReconnect, System.findSession, sameTable] using can
  have blocked := System.progressed_iff tidy now answer toManager reconnects canTaken
  rw [dispatched] at blocked
  simp only [System.Progressed, System.findSession, sameTable] at blocked present ⊢
  rw [blocked]
  rintro ⟨absent, _⟩
  rw [absent] at present
  cases present

end VzSdk.Sdk
