import VzSdk.Sdk.Posts

/-!
# The table of sessions, step by step

`table_step` says which objects are in the table after a step. This module says
what the objects are then: `afterEvent` and `afterTimer` are what an event and
the timer make of a session object, and `objects_step` gives the table after
every step of the machine.
-/

namespace VzSdk.Sdk

open VzSdk.Base VzSdk.Event VzSdk.Std

/-- The event is about packets of the connection. -/
def SystemLabel.movesPackets : SystemLabel → Bool
  | .readEvent _ => true
  | .deviceReceive _ => true
  | .deviceAnswer _ _ _ => true
  | .devicePush _ _ _ => true
  | _ => false

namespace SessionObject

/-- The object after its timer. -/
def afterTimer (session : SessionObject) (now : UInt32) : SessionObject :=
  if session.msStart = 0 then { session with msStart := now }
  else if session.timedOut now then session.uinitSocket
  else session

/-- The object after the answer of a resolver. -/
def afterResolve (session : SessionObject) (error : Int) (outcome : ConnectOutcome) :
    SessionObject :=
  match session.asyncSocket with
  | none => session
  | some socket =>
      let resolved := session.mapSocket fun _ =>
        if error = 0 then (socket.doConnect outcome).1 else socket.close
      if (error ≠ 0 ∨ outcome = .failed) ∧ session.hears then resolved.uinitSocket else resolved

/-- The object after an event of its own. -/
def afterEvent (session : SessionObject) : SystemLabel → SessionObject
  | .connectEvent _ now =>
      let connected := session.mapSocket fun socket =>
        { socket with
          state := .connected
          enabledEvents := { socket.enabledEvents with connect := false } }
      if session.hears then connected.afterTimer now else connected
  | .closeEvent _ =>
      let closed := session.mapSocket (·.close)
      if session.hears then closed.uinitSocket else closed
  | .resolveEvent _ error outcome => session.afterResolve error outcome
  | .readEvent _ => { session with incoming := session.incoming.tail }
  | .heartbeatEvent _ now => { session with msStart := now }
  | .deviceReceive _ =>
      { session with
        outgoing := session.outgoing.tail
        unanswered := session.unanswered ++ session.outgoing.head?.toList }
  | .deviceAnswer _ resJson resData =>
      { session with
        unanswered := session.unanswered.tail
        incoming := session.incoming ++
          (session.unanswered.head?.map fun request =>
            ⟨some resJson, resData, some request.tag⟩).toList }
  | .devicePush _ resJson resData =>
      { session with incoming := session.incoming ++ [⟨resJson, resData, none⟩] }
  | _ => session

/-- The object after a request was written to it. -/
def written (session : SessionObject) (tag : UInt32) (reqJson : Json) : SessionObject :=
  { session with outgoing := session.outgoing ++ [⟨tag, reqJson⟩] }

/-! ### The object itself -/

/-- A heartbeat changes nothing of what a session is. -/
theorem same_afterTimer (session : SessionObject) (now : UInt32) :
    session.Same (session.afterTimer now) := by
  unfold afterTimer
  split
  · exact ⟨rfl, rfl, rfl, rfl⟩
  · split <;> exact ⟨rfl, rfl, rfl, rfl⟩

/-- An event changes nothing of what a session is. -/
theorem same_afterEvent (session : SessionObject) (label : SystemLabel) :
    session.Same (session.afterEvent label) := by
  cases label with
  | connectEvent serial now =>
      simp only [afterEvent]
      split
      · obtain ⟨serial, sessionId, connectId, bound⟩ := same_afterTimer (session.mapSocket _) now
        exact ⟨serial, sessionId, connectId, bound⟩
      · exact ⟨rfl, rfl, rfl, rfl⟩
  | closeEvent serial =>
      simp only [afterEvent]
      split <;> exact ⟨rfl, rfl, rfl, rfl⟩
  | resolveEvent serial error outcome =>
      simp only [afterEvent, afterResolve]
      split
      · exact .refl _
      · split <;> exact ⟨rfl, rfl, rfl, rfl⟩
  | _ => exact ⟨rfl, rfl, rfl, rfl⟩

/-- A request changes nothing of what a session is. -/
theorem same_written (session : SessionObject) (tag : UInt32) (reqJson : Json) :
    session.Same (session.written tag reqJson) :=
  ⟨rfl, rfl, rfl, rfl⟩

/-! ### Packets -/

/-- The packets of the connection are the same ones. -/
structure SamePackets (session next : SessionObject) : Prop where
  outgoing : next.outgoing = session.outgoing
  unanswered : next.unanswered = session.unanswered
  incoming : next.incoming = session.incoming

variable {session : SessionObject} {label : SystemLabel}

/-- A heartbeat reads no packets. -/
theorem packets_afterTimer (session : SessionObject) (now : UInt32) :
    session.SamePackets (session.afterTimer now) := by
  unfold afterTimer
  split
  · exact ⟨rfl, rfl, rfl⟩
  · split
    · exact ⟨rfl, rfl, rfl⟩
    · exact ⟨rfl, rfl, rfl⟩

/-- The end of a resolution reads no packets. -/
theorem packets_afterResolve (session : SessionObject) (error : Int) (outcome : ConnectOutcome) :
    session.SamePackets (session.afterResolve error outcome) := by
  unfold afterResolve
  split
  · exact ⟨rfl, rfl, rfl⟩
  · simp only
    split
    · exact ⟨rfl, rfl, rfl⟩
    · exact ⟨rfl, rfl, rfl⟩

/-- Events of the socket leave the packets alone. -/
theorem packets_afterEvent (still : label.movesPackets = false) :
    session.SamePackets (session.afterEvent label) := by
  cases label with
  | readEvent | deviceReceive | deviceAnswer | devicePush => cases still
  | connectEvent serial now =>
      simp only [afterEvent]
      split
      · obtain ⟨outgoing, unanswered, incoming⟩ := packets_afterTimer (session.mapSocket _) now
        exact ⟨outgoing, unanswered, incoming⟩
      · exact ⟨rfl, rfl, rfl⟩
  | closeEvent serial =>
      simp only [afterEvent]
      split
      · exact ⟨rfl, rfl, rfl⟩
      · exact ⟨rfl, rfl, rfl⟩
  | resolveEvent serial error outcome => exact packets_afterResolve session error outcome
  | _ => exact ⟨rfl, rfl, rfl⟩

/-- An event makes no requests. -/
theorem mem_requests_afterEvent {request : Request}
    (member : request ∈ (session.afterEvent label).outgoing ++
      (session.afterEvent label).unanswered) : request ∈ session.outgoing ++ session.unanswered := by
  by_cases still : label.movesPackets = false
  · have same : session.SamePackets (session.afterEvent label) := packets_afterEvent still
    rwa [same.outgoing, same.unanswered] at member
  · cases label with
    | deviceReceive serial =>
        simp only [afterEvent, List.mem_append] at member ⊢
        rcases member with queued | old | first
        · exact .inl (List.mem_of_mem_tail queued)
        · exact .inr old
        · exact .inl (List.mem_of_mem_head? (Option.mem_toList.mp first))
    | deviceAnswer serial resJson resData =>
        simp only [afterEvent, List.mem_append] at member ⊢
        exact member.imp_right List.mem_of_mem_tail
    | readEvent | devicePush => exact member
    | _ => exact absurd rfl still

/-- Packets that come in answer a request, or were sent unasked. -/
theorem mem_incoming_afterEvent {answer : Answer}
    (member : answer ∈ (session.afterEvent label).incoming) :
    answer ∈ session.incoming ∨ answer.origin = none ∨
      ∃ serial resJson resData request rest, label = .deviceAnswer serial resJson resData ∧
        session.unanswered = request :: rest ∧
        answer = ⟨some resJson, resData, some request.tag⟩ := by
  by_cases still : label.movesPackets = false
  · have same : session.SamePackets (session.afterEvent label) := packets_afterEvent still
    exact .inl (same.incoming ▸ member)
  · cases label with
    | readEvent => exact .inl (List.mem_of_mem_tail member)
    | deviceReceive => exact .inl member
    | deviceAnswer serial resJson resData =>
        simp only [afterEvent, List.mem_append] at member
        rcases member with old | isNew
        · exact .inl old
        · cases isUnanswered : session.unanswered with
          | nil =>
              rw [isUnanswered] at isNew
              cases isNew
          | cons request rest =>
              simp only [isUnanswered, List.head?_cons, Option.map_some, Option.toList_some,
                List.mem_singleton] at isNew
              exact .inr (.inr ⟨serial, resJson, resData, request, rest, rfl, rfl, isNew⟩)
    | devicePush serial resJson resData =>
        simp only [afterEvent, List.mem_append, List.mem_singleton] at member
        rcases member with old | isNew
        · exact .inl old
        · exact .inr (.inl (by rw [isNew]))
    | _ => exact absurd rfl still

end SessionObject

namespace System

variable {system next : System} {label : SystemLabel} {emitted : List SystemOutput}

/-- The table with one object changed. -/
def changed (system : System) (serial : Nat) (change : SessionObject → SessionObject) :
    OrderedMap UInt32 SessionObject :=
  system.asyncSessions.mapValues fun session =>
    if session.serial = serial then change session else session

/-- What is done to the object under a serial is done to the one that is found. -/
theorem changed_congr (tidy : system.Tidy) {serial : Nat} {session : SessionObject}
    (found : system.findSerial serial = some session) {change other : SessionObject → SessionObject}
    (same : change session = other session) :
    system.changed serial change = system.changed serial other := by
  refine OrderedMap.mapValues_congr fun entry member => ?_
  split
  · next isSerial => rw [(tidy.eq_of_findSerial found).2.2 entry member isSerial, same]
  · rfl

/-- Two changes of a session are one. -/
theorem changed_of_changed {base : System} {serial : Nat}
    {first second : SessionObject → SessionObject}
    (isFirst : base.asyncSessions = system.changed serial first)
    (keeps : ∀ session, (first session).serial = session.serial) :
    base.changed serial second = system.changed serial fun session => second (first session) := by
  simp only [changed, isFirst, OrderedMap.mapValues_mapValues]
  refine OrderedMap.mapValues_congr fun entry _ => ?_
  by_cases isSerial : entry.2.serial = serial
  · simp [isSerial, keeps]
  · simp [isSerial]

/-- Changing a session changes the table there. -/
theorem sessions_updateSession (system : System) (serial : Nat)
    (change : SessionObject → SessionObject) :
    (system.updateSession serial change).asyncSessions = system.changed serial change :=
  rfl

/-- Reporting a connected session leaves the table alone. -/
theorem sessions_onSessionConnectedEvent (system : System) (session : SessionObject) :
    (system.onSessionConnectedEvent session).asyncSessions = system.asyncSessions := by
  unfold onSessionConnectedEvent
  split <;> rfl

/-- Reporting a closed session leaves the table alone. -/
theorem sessions_onSessionCloseEvent (system : System) (session : SessionObject) :
    (system.onSessionCloseEvent session).asyncSessions = system.asyncSessions := by
  unfold onSessionCloseEvent
  split <;> rfl

/-- Reporting a packet leaves the table alone. -/
theorem sessions_onSessionPacketEvent (system : System) (session : SessionObject)
    (answer : Answer) :
    (system.onSessionPacketEvent session answer).asyncSessions = system.asyncSessions := by
  unfold onSessionPacketEvent
  split
  · split <;> rfl
  · rfl

section After

variable {base : System} {serial : Nat} {first : SessionObject → SessionObject}
  {session : SessionObject}

/-- A close, after what an event has done to the object. -/
theorem sessions_onCloseEvent (isFirst : base.asyncSessions = system.changed serial first)
    (keeps : ∀ session, (first session).serial = session.serial)
    (isSerial : session.serial = serial) :
    (base.onCloseEvent session).asyncSessions =
      system.changed serial fun other => (first other).uinitSocket := by
  unfold onCloseEvent
  rw [sessions_onSessionCloseEvent, sessions_updateSession, isSerial]
  exact changed_of_changed isFirst keeps

/-- The timer, after what an event has done to the object. -/
theorem sessions_asyncWaitNextHeadrtbeatEvent
    (isFirst : base.asyncSessions = system.changed serial first)
    (keeps : ∀ session, (first session).serial = session.serial)
    (isSerial : session.serial = serial) (now : UInt32) :
    (base.asyncWaitNextHeadrtbeatEvent session now).asyncSessions =
      system.changed serial fun other =>
        if session.msStart = 0 then { first other with msStart := now }
        else if session.timedOut now then (first other).uinitSocket
        else first other := by
  unfold asyncWaitNextHeadrtbeatEvent
  simp only
  split
  · rw [sessions_updateSession, isSerial]
    exact changed_of_changed isFirst keeps
  · next isSet =>
      have isTimedOut : session.timedOut now =
          decide (timeDiff now session.msStart > (defaultHeadbeatTimeout * 3 : Nat)) := by
        simp [SessionObject.timedOut, isSet]
      split
      · next late =>
          simp only [isTimedOut, late, decide_true, if_true]
          exact sessions_onCloseEvent isFirst keeps isSerial
      · next early =>
          simp only [isTimedOut, early, decide_false, Bool.false_eq_true, if_false]
          exact isFirst

end After

/-- What an event does to the object that is found is what it does to the table. -/
theorem table_of_found (tidy : system.Tidy) {serial : Nat} {session : SessionObject}
    (found : system.findSerial serial = some session) {change : SessionObject → SessionObject}
    (table : next.asyncSessions = system.changed serial change)
    (same : change session = session.afterEvent label) :
    ∃ session, system.findSerial serial = some session ∧
      next.asyncSessions = system.changed serial (·.afterEvent label) :=
  ⟨session, found, table.trans (changed_congr tidy found same)⟩

/-- What a connect event does to the table. -/
theorem table_connectEvent (tidy : system.Tidy) {serial : Nat} {now : UInt32}
    (transition : system.connectEvent serial now = some next) :
    ∃ session, system.findSerial serial = some session ∧
      next.asyncSessions = system.changed serial (·.afterEvent (.connectEvent serial now)) := by
  unfold connectEvent at transition
  split at transition
  · cases transition
  · next session found =>
      split at transition
      · split at transition
        · next hears =>
            cases transition
            have connected := (sessions_onSessionConnectedEvent _ session).trans
              (sessions_updateSession system serial (·.mapSocket fun socket =>
                { socket with
                  state := .connected
                  enabledEvents := { socket.enabledEvents with connect := false } }))
            refine table_of_found tidy found (sessions_asyncWaitNextHeadrtbeatEvent connected
              (fun _ => rfl) (serial_of_findSerial found) now) ?_
            simp only [SessionObject.afterEvent, hears, if_true]
            rfl
        · next deaf =>
            cases transition
            exact table_of_found tidy found (sessions_updateSession _ _ _)
              (by simp [SessionObject.afterEvent, deaf])
      · cases transition

/-- What a close event does to the table. -/
theorem table_closeEvent (tidy : system.Tidy) {serial : Nat}
    (transition : system.closeEvent serial = some next) :
    ∃ session, system.findSerial serial = some session ∧
      next.asyncSessions = system.changed serial (·.afterEvent (.closeEvent serial)) := by
  unfold closeEvent at transition
  split at transition
  · cases transition
  · next session found =>
      split at transition
      · split at transition
        · next hears =>
            cases transition
            exact table_of_found tidy found (sessions_onCloseEvent (sessions_updateSession _ _ _)
              (fun _ => rfl) (serial_of_findSerial found)) (by simp [SessionObject.afterEvent, hears])
        · next deaf =>
            cases transition
            exact table_of_found tidy found (sessions_updateSession _ _ _)
              (by simp [SessionObject.afterEvent, deaf])
      · cases transition

/-- What a resolve event does to the table. -/
theorem table_resolveEvent (tidy : system.Tidy) {serial : Nat} {error : Int}
    {outcome : ConnectOutcome} (transition : system.resolveEvent serial error outcome = some next) :
    ∃ session, system.findSerial serial = some session ∧
      next.asyncSessions =
        system.changed serial (·.afterEvent (.resolveEvent serial error outcome)) := by
  unfold resolveEvent at transition
  split at transition
  · cases transition
  · next session found =>
      split at transition
      · cases transition
      · next socket isSocket =>
          have fails : (if error = 0 then socket.doConnect outcome else (socket.close, error)).2 ≠ 0 ↔
              error ≠ 0 ∨ outcome = .failed := by
            by_cases noError : error = 0
            · cases outcome <;> simp [noError, AsyncSocket.doConnect, socketError]
            · simp [noError]
          have result : (if error = 0 then socket.doConnect outcome else (socket.close, error)).1 =
              if error = 0 then (socket.doConnect outcome).1 else socket.close := by
            split <;> rfl
          generalize (if error = 0 then socket.doConnect outcome else (socket.close, error)) =
            resolved at transition fails result
          obtain ⟨after, error'⟩ := resolved
          simp only at transition fails result
          subst result
          split at transition
          · next closes =>
              cases transition
              refine table_of_found tidy found (sessions_onCloseEvent (sessions_updateSession _ _ _)
                (fun _ => rfl) (serial_of_findSerial found)) ?_
              rw [fails] at closes
              simp [SessionObject.afterEvent, SessionObject.afterResolve, isSocket, closes]
          · next stays =>
              cases transition
              refine table_of_found tidy found (sessions_updateSession _ _ _) ?_
              rw [fails] at stays
              simp [SessionObject.afterEvent, SessionObject.afterResolve, isSocket, stays]

/-- What a read event does to the table. -/
theorem table_readEvent (tidy : system.Tidy) {serial : Nat}
    (transition : system.readEvent serial = some next) :
    ∃ session, system.findSerial serial = some session ∧
      next.asyncSessions = system.changed serial (·.afterEvent (.readEvent serial)) := by
  unfold readEvent at transition
  split at transition
  · cases transition
  · next session found =>
      split at transition
      · cases transition
      · next isIncoming =>
          split at transition
          · cases transition
            exact table_of_found tidy found ((sessions_onSessionPacketEvent _ _ _).trans
              (sessions_updateSession _ _ _)) (by simp [SessionObject.afterEvent, isIncoming])
          · cases transition

/-- What a heartbeat event does to the table. -/
theorem table_heartbeatEvent (tidy : system.Tidy) {serial : Nat} {now : UInt32}
    (transition : system.heartbeatEvent serial now = some next) :
    ∃ session, system.findSerial serial = some session ∧
      next.asyncSessions = system.changed serial (·.afterEvent (.heartbeatEvent serial now)) := by
  unfold heartbeatEvent at transition
  split at transition
  · cases transition
  · next session found =>
      split at transition
      · cases transition
        exact table_of_found tidy found (sessions_updateSession _ _ _) rfl
      · cases transition

/-- What reading a request does to the device of a session. -/
theorem table_deviceReceive (tidy : system.Tidy) {serial : Nat}
    (transition : system.deviceReceive serial = some next) :
    ∃ session, system.findSerial serial = some session ∧
      next.asyncSessions = system.changed serial (·.afterEvent (.deviceReceive serial)) := by
  unfold deviceReceive at transition
  split at transition
  · cases transition
  · next session found =>
      split at transition
      · cases transition
      · next isOutgoing =>
          split at transition
          · cases transition
            exact table_of_found tidy found (sessions_updateSession _ _ _)
              (by simp [SessionObject.afterEvent, isOutgoing])
          · cases transition

/-- What answering does to the device of a session. -/
theorem table_deviceAnswer (tidy : system.Tidy) {serial : Nat} {resJson : Json}
    {resData : List UInt8} (transition : system.deviceAnswer serial resJson resData = some next) :
    ∃ session, system.findSerial serial = some session ∧
      next.asyncSessions =
        system.changed serial (·.afterEvent (.deviceAnswer serial resJson resData)) := by
  unfold deviceAnswer at transition
  split at transition
  · cases transition
  · next session found =>
      split at transition
      · cases transition
      · next isUnanswered =>
          split at transition
          · cases transition
          · split at transition
            · cases transition
              exact table_of_found tidy found (sessions_updateSession _ _ _)
                (by simp [SessionObject.afterEvent, isUnanswered])
            · cases transition

/-- What a push does to the device of a session. -/
theorem table_devicePush (tidy : system.Tidy) {serial : Nat} {resJson : Option Json}
    {resData : List UInt8} (transition : system.devicePush serial resJson resData = some next) :
    ∃ session, system.findSerial serial = some session ∧
      next.asyncSessions =
        system.changed serial (·.afterEvent (.devicePush serial resJson resData)) := by
  unfold devicePush at transition
  split at transition
  · cases transition
  · next session found =>
      cases transition
      exact table_of_found tidy found (sessions_updateSession _ _ _) rfl

/-- Every event of a session, for the table. -/
theorem table_event (tidy : system.Tidy) {serial : Nat} (isEvent : label.eventSerial = some serial)
    (transition : system.step label = some (next, emitted)) :
    ∃ session, system.findSerial serial = some session ∧
      next.asyncSessions = system.changed serial (·.afterEvent label) := by
  have ofSilent {result : Option System}
      (kept : ∀ {final}, result = some final → ∃ session, system.findSerial serial = some session ∧
        final.asyncSessions = system.changed serial (·.afterEvent label))
      (done : silent result = some (next, emitted)) :
      ∃ session, system.findSerial serial = some session ∧
        next.asyncSessions = system.changed serial (·.afterEvent label) := by
    obtain ⟨final, isFinal, same⟩ := Option.map_eq_some_iff.mp done
    cases same
    exact kept isFinal
  unfold step at transition
  split at transition
  · cases transition
  · cases label with
    | connectEvent =>
        cases isEvent
        exact ofSilent (table_connectEvent tidy) transition
    | closeEvent =>
        cases isEvent
        exact ofSilent (table_closeEvent tidy) transition
    | resolveEvent =>
        cases isEvent
        exact ofSilent (table_resolveEvent tidy) transition
    | readEvent =>
        cases isEvent
        exact ofSilent (table_readEvent tidy) transition
    | heartbeatEvent =>
        cases isEvent
        exact ofSilent (table_heartbeatEvent tidy) transition
    | deviceReceive =>
        cases isEvent
        exact ofSilent (table_deviceReceive tidy) transition
    | deviceAnswer =>
        cases isEvent
        exact ofSilent (table_deviceAnswer tidy) transition
    | devicePush =>
        cases isEvent
        exact ofSilent (table_devicePush tidy) transition
    | _ => cases isEvent

/-! ## Every step -/

/-- The message has the session removed. -/
def Removes (message : SdkMessage) (sessionId : UInt32) : Prop :=
  (message.phandler = some .sessionManager ∧
      (message.pdata = some (.disconnectData sessionId) ∨
        message.pdata = some (.plain .removeSession sessionId))) ∨
    (message.phandler = some .queueLayer ∧
      message.pdata = some (.plain .removeSession sessionId))

/-- The table of sessions after a step. -/
inductive TableStep (system : System) (label : SystemLabel) :
    OrderedMap UInt32 SessionObject → Prop where
  | same : TableStep system label system.asyncSessions
  | event {serial session} (isEvent : label.eventSerial = some serial)
      (found : system.findSerial serial = some session) :
      TableStep system label (system.changed serial (·.afterEvent label))
  | timer {message serial session now answer}
      (isTurn : label = .queueThread now answer ∨ label = .asyncThread now answer)
      (isNext : system.nextMessage label = some message)
      (toSession : message.phandler = some (.session serial))
      (found : system.findSerial serial = some session) :
      TableStep system label (system.changed serial (·.afterTimer now))
  | request {message sessionId reqJson isPush tag session}
      (isNext : system.nextMessage label = some message)
      (toManager : message.phandler = some .sessionManager)
      (payload : message.pdata = some (.requestData sessionId reqJson isPush tag))
      (found : system.findSession sessionId = some session) :
      TableStep system label (system.changed session.serial (·.written tag reqJson))
  | removed {message sessionId session} (isNext : system.nextMessage label = some message)
      (removes : Removes message sessionId) (found : system.findSession sessionId = some session) :
      TableStep system label (system.asyncSessions.erase sessionId)
  | opened {message requested connectId now answer}
      (isTurn : label = .queueThread now answer ∨ label = .asyncThread now answer)
      (isNext : system.nextMessage label = some message)
      (toManager : message.phandler = some .sessionManager)
      (opens : system.Opens message requested connectId)
      (absent : system.findSession (system.constructedId requested) = none) :
      TableStep system label (system.asyncSessions.insert (system.constructedId requested)
        (system.openedSession requested connectId answer))

/-- Removing a session is a step of the table. -/
theorem objects_removeSession {base : System} (sessions : base.asyncSessions = system.asyncSessions)
    {message : SdkMessage} {sessionId : UInt32} (isNext : system.nextMessage label = some message)
    (removes : Removes message sessionId) :
    TableStep system label (base.removeSession sessionId).asyncSessions := by
  unfold removeSession
  split
  · rw [sessions]
    exact .same
  · next session found =>
      simp only [sessions]
      unfold findSession at found
      rw [sessions] at found
      exact .removed isNext removes found

/-- Opening a session is a step of the table. -/
theorem objects_openSession {base : System} (tidy : base.Tidy)
    (sessions : base.asyncSessions = system.asyncSessions) (serials : base.serials = system.serials)
    (counter : base.sessionCounter = system.sessionCounter) {message : SdkMessage}
    {requested connectId now : UInt32} {answer : ConnectAnswer}
    (isTurn : label = .queueThread now answer ∨ label = .asyncThread now answer)
    (isNext : system.nextMessage label = some message)
    (toManager : message.phandler = some .sessionManager)
    (opens : system.Opens message requested connectId) :
    TableStep system label (base.openSession requested connectId answer).1.asyncSessions := by
  have constructed : base.constructedId requested = system.constructedId requested := by
    unfold constructedId
    rw [counter]
  have opened : base.openedSession requested connectId answer =
      system.openedSession requested connectId answer := by
    unfold openedSession
    rw [constructed, serials]
  rw [asyncSessions_openSession tidy, constructed, opened, sessions]
  unfold findSession
  rw [sessions]
  split
  · exact .same
  · next absent => exact .opened isTurn isNext toManager opens absent

/-- Each of the manager's messages is a step of the table. -/
theorem objects_sessionManagerOnMessage (tidy : (system.taken label).Tidy) {message : SdkMessage}
    {now : UInt32} {answer : ConnectAnswer}
    (isTurn : label = .queueThread now answer ∨ label = .asyncThread now answer)
    (isNext : system.nextMessage label = some message)
    (toManager : message.phandler = some .sessionManager) :
    TableStep system label
      ((system.taken label).sessionManagerOnMessage now answer message).1.asyncSessions := by
  have sessions : (system.taken label).asyncSessions = system.asyncSessions := by rw [taken_eq]
  have serials : (system.taken label).serials = system.serials := by rw [taken_eq]
  have counter : (system.taken label).sessionCounter = system.sessionCounter := by rw [taken_eq]
  have finds (sessionId : UInt32) :
      (system.taken label).findSession sessionId = system.findSession sessionId := by
    unfold findSession
    rw [sessions]
  have untouched : TableStep system label (system.taken label).asyncSessions := by
    rw [sessions]
    exact .same
  unfold sessionManagerOnMessage
  split
  · next sessionId address payload =>
      unfold onReconnectMessage
      simp only
      split
      · next can =>
          have canReconnect : system.canReconnect sessionId = true := by
            unfold System.canReconnect at can ⊢
            rw [← finds]
            exact can
          exact objects_openSession
            (routine_postDelayedAsync tidy now _ (by simp) (by simp [payload])).tidy sessions serials
            counter isTurn isNext toManager
            (.inl ⟨sessionId, address, payload, canReconnect, rfl, rfl⟩)
      · exact untouched
  · next sessionId address payload =>
      exact objects_openSession tidy sessions serials counter isTurn isNext toManager
        (.inr ⟨sessionId, address, payload, rfl, rfl⟩)
  · next sessionId payload =>
      have removed := objects_removeSession sessions isNext (.inl ⟨toManager, .inl payload⟩)
      unfold onDisconnectMessage
      split
      · exact removed
      · exact untouched
  · next sessionId reqJson isPush tag payload =>
      unfold onRequestMessage
      split
      · next session found =>
          rw [finds] at found
          have written : TableStep system label
              ((system.taken label).changed session.serial (·.written tag reqJson)) := by
            unfold changed
            rw [sessions]
            exact .request isNext toManager payload found
          simp only
          split
          · exact written
          · exact written
      · exact untouched
  · next sessionId payload =>
      exact objects_removeSession sessions isNext (.inl ⟨toManager, .inr payload⟩)
  · exact untouched

/-- The timer of a registered object. -/
theorem table_timer (tidy : system.Tidy) {base : System}
    (sessions : base.asyncSessions = system.asyncSessions) {serial : Nat} {session : SessionObject}
    (found : system.findSerial serial = some session) {now : UInt32} :
    (base.sessionOnMessage serial now).asyncSessions =
      system.changed serial (·.afterTimer now) := by
  have foundBase : base.findSerial serial = some session := by
    unfold findSerial
    rw [sessions]
    exact found
  have unchanged : base.asyncSessions = system.changed serial id :=
    sessions.trans (OrderedMap.mapValues_eq_self _ fun entry _ => by simp).symm
  unfold sessionOnMessage
  rw [foundBase]
  exact (sessions_asyncWaitNextHeadrtbeatEvent unchanged (fun _ => rfl)
    (serial_of_findSerial found) now).trans (changed_congr tidy found rfl)

/-- A heartbeat message of a session that is gone does nothing. -/
theorem table_timer_none {base : System} (sessions : base.asyncSessions = system.asyncSessions)
    {serial : Nat} (absent : system.findSerial serial = none) {now : UInt32} :
    (base.sessionOnMessage serial now).asyncSessions = system.asyncSessions := by
  have absentBase : base.findSerial serial = none := by
    unfold findSerial
    rw [sessions]
    exact absent
  unfold sessionOnMessage
  rw [absentBase]
  exact sessions

/-- Every step of the machine, for the objects in the table. -/
theorem objects_step (tidy : system.Tidy) (transition : system.step label = some (next, emitted)) :
    TableStep system label next.asyncSessions := by
  have sessions : (system.taken label).asyncSessions = system.asyncSessions := by rw [taken_eq]
  have untouched : TableStep system label (system.taken label).asyncSessions := by
    rw [sessions]
    exact .same
  cases kind_of_step transition with
  | event isEvent =>
      obtain ⟨session, found, table⟩ := table_event tidy isEvent transition
      rw [table]
      exact .event isEvent found
  | resume => exact .same
  | idle => exact untouched
  | call isCall noEvent side =>
      rw [side.frame]
      exact .same
  | @dispatch _ message now answer isTurn isNext =>
      have tidyTaken : (system.taken label).Tidy := by
        rcases isTurn with rfl | rfl
        · exact tidy_takeQueue tidy now
        · exact tidy_takeAsync tidy now
      unfold dispatch
      split
      · next toLayer =>
          simp only
          unfold queueLayerOnMessage
          split
          · split <;> exact untouched
          · exact untouched
          · next payload =>
              exact objects_removeSession sessions isNext (.inr ⟨toLayer, payload⟩)
          · exact untouched
          · exact untouched
          · rw [frame_onTranslateToSyncLayer]
            exact untouched
          · rw [frame_onTranslateToSyncLayer]
            exact untouched
          · exact untouched
      · next toManager => exact objects_sessionManagerOnMessage tidyTaken isTurn isNext toManager
      · next serial toSession =>
          cases found : system.findSerial serial with
          | none =>
              rw [table_timer_none sessions found]
              exact .same
          | some session =>
              rw [table_timer tidy sessions found]
              exact .timer isTurn isNext toSession found
      · exact untouched

/-! ## Packets, step by step -/

/-- An entry of a changed table is an old one, changed or not. -/
theorem mem_changed {serial : Nat} {change : SessionObject → SessionObject}
    {entry : UInt32 × SessionObject} (member : entry ∈ (system.changed serial change).entries) :
    ∃ old ∈ system.asyncSessions.entries, old.1 = entry.1 ∧
      ((old.2.serial = serial ∧ entry.2 = change old.2) ∨ entry.2 = old.2) := by
  obtain ⟨old, was, rfl⟩ := OrderedMap.mem_mapValues.mp member
  refine ⟨old, was, rfl, ?_⟩
  simp only
  split
  · next isSerial => exact .inl ⟨isSerial, rfl⟩
  · exact .inr rfl

/-- A request on a connection was there, or is written to it by the manager. -/
theorem requests_step (tidy : system.Tidy) (transition : system.step label = some (next, emitted))
    {entry : UInt32 × SessionObject} (member : entry ∈ next.asyncSessions.entries)
    {request : Request} (sent : request ∈ entry.2.outgoing ++ entry.2.unanswered) :
    (∃ old ∈ system.asyncSessions.entries, request ∈ old.2.outgoing ++ old.2.unanswered) ∨
      ∃ message sessionId isPush, system.nextMessage label = some message ∧
        message.phandler = some .sessionManager ∧
        message.pdata = some (.requestData sessionId request.reqJson isPush request.tag) := by
  have table := objects_step tidy transition
  generalize next.asyncSessions = sessions at member table
  cases table with
  | same => exact .inl ⟨entry, member, sent⟩
  | event isEvent found =>
      obtain ⟨old, was, _, ⟨_, isAfter⟩ | isOld⟩ := mem_changed member
      · rw [isAfter] at sent
        exact .inl ⟨old, was, SessionObject.mem_requests_afterEvent sent⟩
      · exact .inl ⟨old, was, isOld ▸ sent⟩
  | @timer _ _ _ now _ isTurn isNext toSession found =>
      obtain ⟨old, was, _, ⟨_, isAfter⟩ | isOld⟩ := mem_changed member
      · have same := SessionObject.packets_afterTimer old.2 now
        rw [isAfter, same.outgoing, same.unanswered] at sent
        exact .inl ⟨old, was, sent⟩
      · exact .inl ⟨old, was, isOld ▸ sent⟩
  | request isNext toManager payload found =>
      obtain ⟨old, was, _, ⟨_, isAfter⟩ | isOld⟩ := mem_changed member
      · rw [isAfter] at sent
        simp only [SessionObject.written, List.mem_append, List.mem_singleton] at sent
        rcases sent with (queued | rfl) | received
        · exact .inl ⟨old, was, List.mem_append_left _ queued⟩
        · exact .inr ⟨_, _, _, isNext, toManager, payload⟩
        · exact .inl ⟨old, was, List.mem_append_right _ received⟩
      · exact .inl ⟨old, was, isOld ▸ sent⟩
  | removed => exact .inl ⟨entry, (OrderedMap.mem_erase.mp member).1, sent⟩
  | opened =>
      rcases OrderedMap.mem_insertEntry member with rfl | old
      · cases sent
      · exact .inl ⟨entry, old, sent⟩

/-- A packet of a device was there, was sent unasked, or answers the oldest request. -/
theorem incoming_step (tidy : system.Tidy) (transition : system.step label = some (next, emitted))
    {entry : UInt32 × SessionObject} (member : entry ∈ next.asyncSessions.entries)
    {answer : Answer} (waiting : answer ∈ entry.2.incoming) :
    (∃ old ∈ system.asyncSessions.entries, answer ∈ old.2.incoming) ∨ answer.origin = none ∨
      ∃ serial resJson resData session request rest, label = .deviceAnswer serial resJson resData ∧
        system.findSerial serial = some session ∧ session.unanswered = request :: rest ∧
        answer = ⟨some resJson, resData, some request.tag⟩ := by
  have table := objects_step tidy transition
  generalize next.asyncSessions = sessions at member table
  cases table with
  | same => exact .inl ⟨entry, member, waiting⟩
  | @event serial session isEvent found =>
      obtain ⟨old, was, _, ⟨isSerial, isAfter⟩ | isOld⟩ := mem_changed member
      · rw [isAfter] at waiting
        rcases SessionObject.mem_incoming_afterEvent waiting with old' | unasked |
            ⟨_, resJson, resData, request, rest, rfl, isUnanswered, isAnswer⟩
        · exact .inl ⟨old, was, old'⟩
        · exact .inr (.inl unasked)
        · cases isEvent
          have isSession := (tidy.eq_of_findSerial found).2.2 old was isSerial
          exact .inr (.inr ⟨serial, resJson, resData, session, request, rest, rfl, found,
            isSession ▸ isUnanswered, isAnswer⟩)
      · exact .inl ⟨old, was, isOld ▸ waiting⟩
  | @timer _ _ _ now _ isTurn isNext toSession found =>
      obtain ⟨old, was, _, ⟨_, isAfter⟩ | isOld⟩ := mem_changed member
      · rw [isAfter, (SessionObject.packets_afterTimer old.2 now).incoming] at waiting
        exact .inl ⟨old, was, waiting⟩
      · exact .inl ⟨old, was, isOld ▸ waiting⟩
  | request isNext toManager payload found =>
      obtain ⟨old, was, _, ⟨_, isAfter⟩ | isOld⟩ := mem_changed member
      · rw [isAfter] at waiting
        exact .inl ⟨old, was, waiting⟩
      · exact .inl ⟨old, was, isOld ▸ waiting⟩
  | removed => exact .inl ⟨entry, (OrderedMap.mem_erase.mp member).1, waiting⟩
  | opened =>
      rcases OrderedMap.mem_insertEntry member with rfl | old
      · cases waiting
      · exact .inl ⟨entry, old, waiting⟩

end System

end VzSdk.Sdk
