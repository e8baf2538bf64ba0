import VzSdk.Sdk.QueueLayer

/-!
# What the events of a session do

Every event of a session's socket, its device or its timer changes the session
object, may arm the timer again, and has the manager post stanzas to the queue
layer. `Signals` says so once, with the signals that were emitted, and
`signals_step` gives it for every such step of the machine.
-/

namespace VzSdk.Sdk

open VzSdk.Base VzSdk.Event VzSdk.Std

/-- What a session tells its manager. -/
inductive Signal where
  | connected
  | closed
  | packet (answer : Answer)

/-- Post stanzas to the queue layer, each under its id. -/
def postStanzas (queue : SdkQueue) (posts : List (UInt32 × Stanza)) : SdkQueue :=
  posts.foldl (fun queue post => queue.post ⟨some .queueLayer, post.1, some post.2⟩) queue

/-- No messages are posted. -/
@[simp] theorem postStanzas_nil (queue : SdkQueue) : postStanzas queue [] = queue := rfl

/-- Stanzas are posted one list behind the other. -/
theorem postStanzas_append (queue : SdkQueue) (first second : List (UInt32 × Stanza)) :
    postStanzas queue (first ++ second) = postStanzas (postStanzas queue first) second :=
  List.foldl_append

/-- The messages of stanzas that are posted to the queue layer. -/
def stanzaMessages (posts : List (UInt32 × Stanza)) : List SdkMessage :=
  posts.map fun post => ⟨some .queueLayer, post.1, some post.2⟩

/-- A queue that runs has the stanzas at the end of its ready list. -/
theorem postStanzas_running {queue : SdkQueue} (running : queue.fStop = false)
    (posts : List (UInt32 × Stanza)) :
    postStanzas queue posts = { queue with msgq := queue.msgq ++ stanzaMessages posts } := by
  induction posts generalizing queue with
  | nil => simp [stanzaMessages]
  | cons post posts inductionHypothesis =>
      have stillRunning : (queue.post ⟨some .queueLayer, post.1, some post.2⟩).fStop = false := by
        rw [MessageQueue.fStop_post, running]
      have rest := inductionHypothesis stillRunning
      unfold postStanzas at rest ⊢
      rw [List.foldl_cons, rest]
      simp [MessageQueue.post, running, stanzaMessages]

namespace SessionObject

/-- The stanzas that the manager posts for a signal, with their ids. -/
def stanzas (session : SessionObject) : Signal → List (UInt32 × Stanza)
  | .connected => [(session.connectId, .plain .connected session.sessionId)]
  | .closed =>
      [(session.connectId, .plain .removeSession session.sessionId),
        (session.connectId, .plain .disconnectedFailure session.sessionId)]
  | .packet answer =>
      match answer.resJson with
      | some resJson =>
          [(0, .responseData session.sessionId resJson answer.resData answer.origin)]
      | none => []

/-- What the manager posts for the signals of a session that it is bound to. -/
def posts (session : SessionObject) (signals : List Signal) : List (UInt32 × Stanza) :=
  if session.bound then signals.flatMap session.stanzas else []

/-- A signal after another posts its stanzas behind those of the other. -/
theorem posts_append (session : SessionObject) (first second : List Signal) :
    session.posts (first ++ second) = session.posts first ++ session.posts second := by
  unfold posts
  split <;> simp

/-- No signals are posted as nothing. -/
@[simp] theorem posts_nil (session : SessionObject) : session.posts [] = [] := by
  unfold posts
  split <;> rfl

/-- The timer finds that no heartbeat has come for too long. -/
def timedOut (session : SessionObject) (now : UInt32) : Bool :=
  session.msStart ≠ 0 && timeDiff now session.msStart > (defaultHeadbeatTimeout * 3 : Nat)

/-- The signals of the session's timer. -/
def timeouts (session : SessionObject) (now : UInt32) : List Signal :=
  if session.timedOut now then [.closed] else []

/-- The same object, whatever became of its connection. -/
structure Same (session next : SessionObject) : Prop where
  serial : next.serial = session.serial
  sessionId : next.sessionId = session.sessionId
  connectId : next.connectId = session.connectId
  bound : next.bound = session.bound

/-- A session is the same as itself. -/
theorem Same.refl (session : SessionObject) : session.Same session := ⟨rfl, rfl, rfl, rfl⟩

/-- What stays the same twice stays the same. -/
theorem Same.trans {first second third : SessionObject} (before : first.Same second)
    (after : second.Same third) : first.Same third where
  serial := after.serial.trans before.serial
  sessionId := after.sessionId.trans before.sessionId
  connectId := after.connectId.trans before.connectId
  bound := after.bound.trans before.bound

end SessionObject

/-- The queue has got timer messages of a session and nothing else. -/
structure Rearmed (serial : Nat) (queue next : SdkQueue) : Prop where
  running : next.fStop = queue.fStop
  unpeeked : next.msgPeek = queue.msgPeek
  ready : next.msgq = queue.msgq
  delayed : ∀ delayed ∈ next.dmsgq, delayed ∈ queue.dmsgq ∨
    delayed.msg = ⟨some (.session serial), 0, none⟩
  kept : ∀ message ∈ queue.contents, message ∈ next.contents
  timers : ∀ message ∈ next.contents, message ∈ queue.contents ∨
    message = ⟨some (.session serial), 0, none⟩

/-- A queue in which no timer was set again. -/
theorem Rearmed.refl (serial : Nat) (queue : SdkQueue) : Rearmed serial queue queue :=
  ⟨rfl, rfl, rfl, fun _ member => .inl member, fun _ member => member, fun _ member => .inl member⟩

/-- A queue that is rearmed twice is rearmed. -/
theorem Rearmed.trans {serial : Nat} {first second third : SdkQueue}
    (before : Rearmed serial first second) (after : Rearmed serial second third) :
    Rearmed serial first third where
  running := after.running.trans before.running
  unpeeked := after.unpeeked.trans before.unpeeked
  ready := after.ready.trans before.ready
  delayed message member := by
    rcases after.delayed message member with old | timer
    · exact before.delayed message old
    · exact .inr timer
  kept message member := after.kept message (before.kept message member)
  timers message member := by
    rcases after.timers message member with old | timer
    · exact before.timers message old
    · exact .inr timer

/-- The table differs in one object, which is the same one. -/
def Retouched (serial : Nat) (sessions next : OrderedMap UInt32 SessionObject) : Prop :=
  ∃ change : SessionObject → SessionObject, (∀ session : SessionObject, session.Same (change session)) ∧
    (∀ session, session.serial ≠ serial → change session = session) ∧
    next = sessions.mapValues change

/-- A table that was not touched. -/
theorem Retouched.refl (serial : Nat) (sessions : OrderedMap UInt32 SessionObject) :
    Retouched serial sessions sessions := by
  exact ⟨id, SessionObject.Same.refl, fun _ _ => rfl, by simp [OrderedMap.mapValues]⟩

/-- A table that is retouched twice is retouched. -/
theorem Retouched.trans {serial : Nat} {first second third : OrderedMap UInt32 SessionObject}
    (before : Retouched serial first second) (after : Retouched serial second third) :
    Retouched serial first third := by
  obtain ⟨change, same, others, rfl⟩ := before
  obtain ⟨change', same', others', rfl⟩ := after
  refine ⟨fun session => change' (change session),
    fun session => (same session).trans (same' _), ?_, ?_⟩
  · intro session differ
    simp only [others session differ, others' session differ]
  · simp [OrderedMap.mapValues, Function.comp_def]

namespace System

/-- The step is an event of the session: it emits the signals, and changes nothing but the
session object and the timers of the asynchronous thread. -/
structure Signals (system next : System) (session : SessionObject) (signals : List Signal) :
    Prop where
  frame : next = { system with
    queueThread := postStanzas system.queueThread (session.posts signals)
    asyncThread := next.asyncThread
    asyncSessions := next.asyncSessions }
  sessions : Retouched session.serial system.asyncSessions next.asyncSessions
  async : Rearmed session.serial system.asyncThread next.asyncThread

variable {system next final : System} {session : SessionObject}

/-- Two parts of an event emit their signals one behind the other. -/
theorem Signals.trans {first second : List Signal} (before : Signals system next session first)
    (after : Signals next final session second) :
    Signals system final session (first ++ second) where
  frame := by
    obtain ⟨frame, _, _⟩ := after
    rw [frame, before.frame]
    simp only [session.posts_append, postStanzas_append]
  sessions := before.sessions.trans after.sessions
  async := before.async.trans after.async

/-- Changing what a session keeps for itself emits nothing. -/
theorem signals_updateSession (system : System) {serial : Nat} {session : SessionObject}
    (isSerial : session.serial = serial) (change : SessionObject → SessionObject)
    (same : ∀ session : SessionObject, session.Same (change session)) :
    Signals system (system.updateSession serial change) session [] := by
  refine ⟨?_, ⟨fun session => if session.serial = serial then change session else session,
    ?_, ?_, rfl⟩, .refl _ _⟩
  · rw [session.posts_nil, postStanzas_nil]
    rfl
  · intro session
    simp only
    split
    · exact same session
    · exact .refl session
  · intro other differ
    rw [isSerial] at differ
    simp [differ]

/-- Posts that a signal has the manager make. -/
theorem signals_of_posts {signals : List Signal} (posted : next = { system with
      queueThread := postStanzas system.queueThread (session.posts signals) }) :
    Signals system next session signals := by
  subst posted
  exact ⟨rfl, .refl _ _, .refl _ _⟩

/-- The manager hears that the session is connected. -/
theorem signals_onSessionConnectedEvent (system : System) (session : SessionObject) :
    Signals system (system.onSessionConnectedEvent session) session [.connected] := by
  refine signals_of_posts ?_
  unfold onSessionConnectedEvent SessionObject.posts
  split <;> rfl

/-- The manager hears that the session is closed. -/
theorem signals_onSessionCloseEvent (system : System) (session : SessionObject) :
    Signals system (system.onSessionCloseEvent session) session [.closed] := by
  refine signals_of_posts ?_
  unfold onSessionCloseEvent SessionObject.posts
  split <;> rfl

/-- The manager hears of a packet. -/
theorem signals_onSessionPacketEvent (system : System) (session : SessionObject)
    (answer : Answer) :
    Signals system (system.onSessionPacketEvent session answer) session [.packet answer] := by
  refine signals_of_posts ?_
  unfold onSessionPacketEvent SessionObject.posts
  cases isJson : answer.resJson with
  | none => simp [SessionObject.stanzas, isJson]
  | some resJson =>
      simp only [List.flatMap_singleton, SessionObject.stanzas, isJson]
      split <;> rfl

/-- A close event is signalled as a close. -/
theorem signals_onCloseEvent (system : System) (session : SessionObject) :
    Signals system (system.onCloseEvent session) session [.closed] :=
  (signals_updateSession system rfl (·.uinitSocket) fun _ => ⟨rfl, rfl, rfl, rfl⟩).trans
    (signals_onSessionCloseEvent _ session)

/-- The next heartbeat is asked for, or the session is closed because the last one is too old. -/
theorem signals_asyncWaitNextHeadrtbeatEvent (system : System) (session : SessionObject)
    (now : UInt32) :
    Signals system (system.asyncWaitNextHeadrtbeatEvent session now) session
      (session.timeouts now) := by
  have rearm (base : System) : Signals base
      { base with
        asyncThread := base.asyncThread.postDelayed now defaultHeadbeatTimeout
          ⟨some (.session session.serial), 0, none⟩ } session [] := by
    obtain ⟨unpeeked, ready, delayed⟩ := MessageQueue.postDelayed_eq base.asyncThread now
      defaultHeadbeatTimeout ⟨some (.session session.serial), 0, none⟩
    refine ⟨?_, .refl _ _, MessageQueue.fStop_postDelayed _ _ _ _, unpeeked, ready, delayed,
      fun _ member => MessageQueue.mem_postDelayed (.inl member), ?_⟩
    · rw [session.posts_nil, postStanzas_nil]
    · exact fun message member => (MessageQueue.mem_contents_postDelayed member).symm
  unfold asyncWaitNextHeadrtbeatEvent SessionObject.timeouts SessionObject.timedOut
  simp only
  split
  · next unset =>
      simp only [unset, ne_eq, not_true_eq_false, decide_false, Bool.false_and, Bool.false_eq_true,
        if_false]
      have started := signals_updateSession system (rfl : session.serial = session.serial)
        (fun session => { session with msStart := now }) fun _ => ⟨rfl, rfl, rfl, rfl⟩
      exact started.trans (rearm _)
  · next isSet =>
      split
      · next late =>
          simp only [ne_eq, isSet, not_false_eq_true, decide_true, Bool.true_and,
            decide_eq_true late, if_true]
          exact signals_onCloseEvent system session
      · next early =>
          simp only [ne_eq, isSet, not_false_eq_true, decide_true, Bool.true_and,
            decide_eq_false early, Bool.false_eq_true, if_false]
          exact rearm system

/-- A session that is found by its serial has it. -/
theorem serial_of_findSerial {serial : Nat} (found : system.findSerial serial = some session) :
    session.serial = serial := by
  obtain ⟨entry, hit, rfl⟩ := Option.map_eq_some_iff.mp found
  simpa using List.find?_some hit

end System

/-! ## Steps -/

/-- The session whose event the label is, by its serial. -/
def SystemLabel.eventSerial : SystemLabel → Option Nat
  | .connectEvent serial _ => some serial
  | .closeEvent serial => some serial
  | .resolveEvent serial _ _ => some serial
  | .readEvent serial => some serial
  | .heartbeatEvent serial _ => some serial
  | .deviceReceive serial => some serial
  | .deviceAnswer serial _ _ => some serial
  | .devicePush serial _ _ => some serial
  | _ => none

/-- The signals that an event of the session emits. -/
def SessionObject.signals (session : SessionObject) : SystemLabel → List Signal
  | .connectEvent _ now => if session.hears then .connected :: session.timeouts now else []
  | .closeEvent _ => if session.hears then [.closed] else []
  | .resolveEvent _ error outcome =>
      if (error ≠ 0 ∨ outcome = .failed) ∧ session.hears then [.closed] else []
  | .readEvent _ => (session.incoming.head?.map .packet).toList
  | _ => []

namespace System

variable {system next : System}

/-- A change of the session that keeps its ids emits nothing. -/
theorem signals_retouch {serial : Nat} {session : SessionObject}
    (found : system.findSerial serial = some session) (change : SessionObject → SessionObject)
    (same : ∀ session : SessionObject, session.Same (change session)) :
    Signals system (system.updateSession serial change) session [] :=
  signals_updateSession system (serial_of_findSerial found) change same

/-- The signals of a connect event. -/
theorem signals_connectEvent {serial : Nat} {now : UInt32}
    (transition : system.connectEvent serial now = some next) :
    ∃ session, system.findSerial serial = some session ∧
      Signals system next session (session.signals (.connectEvent serial now)) := by
  unfold connectEvent at transition
  split at transition
  · cases transition
  · next session found =>
      refine ⟨session, found, ?_⟩
      have connected := signals_retouch found (·.mapSocket fun socket =>
          { socket with
            state := .connected
            enabledEvents := { socket.enabledEvents with connect := false } })
        fun _ => ⟨rfl, rfl, rfl, rfl⟩
      simp only [SessionObject.signals]
      split at transition
      · split at transition
        · next hears =>
            cases transition
            rw [if_pos hears]
            exact (connected.trans (signals_onSessionConnectedEvent _ session)).trans
              (signals_asyncWaitNextHeadrtbeatEvent _ session now)
        · next deaf =>
            cases transition
            rw [if_neg deaf]
            exact connected
      · cases transition

/-- The signals of a close event. -/
theorem signals_closeEvent {serial : Nat}
    (transition : system.closeEvent serial = some next) :
    ∃ session, system.findSerial serial = some session ∧
      Signals system next session (session.signals (.closeEvent serial)) := by
  unfold closeEvent at transition
  split at transition
  · cases transition
  · next session found =>
      refine ⟨session, found, ?_⟩
      have closed := signals_retouch found (·.mapSocket (·.close)) fun _ => ⟨rfl, rfl, rfl, rfl⟩
      simp only [SessionObject.signals]
      split at transition
      · split at transition
        · next hears =>
            cases transition
            rw [if_pos hears]
            exact closed.trans (signals_onCloseEvent _ session)
        · next deaf =>
            cases transition
            rw [if_neg deaf]
            exact closed
      · cases transition

/-- The signals of a resolve event. -/
theorem signals_resolveEvent {serial : Nat} {error : Int} {outcome : ConnectOutcome}
    (transition : system.resolveEvent serial error outcome = some next) :
    ∃ session, system.findSerial serial = some session ∧
      Signals system next session (session.signals (.resolveEvent serial error outcome)) := by
  unfold resolveEvent at transition
  split at transition
  · cases transition
  · next session found =>
      refine ⟨session, found, ?_⟩
      split at transition
      · cases transition
      · next socket _ =>
          have fails : (if error = 0 then socket.doConnect outcome
              else (socket.close, error)).2 ≠ 0 ↔ error ≠ 0 ∨ outcome = .failed := by
            by_cases noError : error = 0
            · cases outcome <;> simp [noError, AsyncSocket.doConnect, socketError]
            · simp [noError]
          generalize (if error = 0 then socket.doConnect outcome else (socket.close, error)) =
            resolved at transition fails
          obtain ⟨socket, error'⟩ := resolved
          have resolved := signals_retouch found (·.mapSocket fun _ => socket)
            fun _ => ⟨rfl, rfl, rfl, rfl⟩
          simp only [SessionObject.signals, ← fails]
          simp only at transition
          split at transition
          · next closes =>
              cases transition
              rw [if_pos closes]
              exact resolved.trans (signals_onCloseEvent _ session)
          · next stays =>
              cases transition
              rw [if_neg stays]
              exact resolved

/-- The signals of a read event. -/
theorem signals_readEvent {serial : Nat}
    (transition : system.readEvent serial = some next) :
    ∃ session, system.findSerial serial = some session ∧
      Signals system next session (session.signals (.readEvent serial)) := by
  unfold readEvent at transition
  split at transition
  · cases transition
  · next session found =>
      refine ⟨session, found, ?_⟩
      split at transition
      · cases transition
      · next answer incoming waiting =>
          split at transition
          · cases transition
            have read := signals_retouch found (fun session => { session with incoming := incoming })
              fun _ => ⟨rfl, rfl, rfl, rfl⟩
            simp only [SessionObject.signals, waiting, List.head?_cons, Option.map_some,
              Option.toList_some]
            exact read.trans (signals_onSessionPacketEvent _ session answer)
          · cases transition

/-- The signals of a heartbeat event. -/
theorem signals_heartbeatEvent {serial : Nat} {now : UInt32}
    (transition : system.heartbeatEvent serial now = some next) :
    ∃ session, system.findSerial serial = some session ∧
      Signals system next session (session.signals (.heartbeatEvent serial now)) := by
  unfold heartbeatEvent at transition
  split at transition
  · cases transition
  · next session found =>
      refine ⟨session, found, ?_⟩
      split at transition
      · cases transition
        exact signals_retouch found _ fun _ => ⟨rfl, rfl, rfl, rfl⟩
      · cases transition

/-- The device reads a request: no signals. -/
theorem signals_deviceReceive {serial : Nat}
    (transition : system.deviceReceive serial = some next) :
    ∃ session, system.findSerial serial = some session ∧
      Signals system next session (session.signals (.deviceReceive serial)) := by
  unfold deviceReceive at transition
  split at transition
  · cases transition
  · next session found =>
      refine ⟨session, found, ?_⟩
      split at transition
      · cases transition
      · split at transition
        · cases transition
          exact signals_retouch found _ fun _ => ⟨rfl, rfl, rfl, rfl⟩
        · cases transition

/-- The device answers: no signals yet. -/
theorem signals_deviceAnswer {serial : Nat} {resJson : Json} {resData : List UInt8}
    (transition : system.deviceAnswer serial resJson resData = some next) :
    ∃ session, system.findSerial serial = some session ∧
      Signals system next session (session.signals (.deviceAnswer serial resJson resData)) := by
  unfold deviceAnswer at transition
  split at transition
  · cases transition
  · next session found =>
      refine ⟨session, found, ?_⟩
      split at transition
      · cases transition
      · split at transition
        · cases transition
        · split at transition
          · cases transition
            exact signals_retouch found _ fun _ => ⟨rfl, rfl, rfl, rfl⟩
          · cases transition

/-- The signals of a push. -/
theorem signals_devicePush {serial : Nat} {resJson : Option Json} {resData : List UInt8}
    (transition : system.devicePush serial resJson resData = some next) :
    ∃ session, system.findSerial serial = some session ∧
      Signals system next session (session.signals (.devicePush serial resJson resData)) := by
  unfold devicePush at transition
  split at transition
  · cases transition
  · next session found =>
      cases transition
      exact ⟨session, found, signals_retouch found _ fun _ => ⟨rfl, rfl, rfl, rfl⟩⟩

/-- An event of a session emits its signals. -/
theorem signals_step {label : SystemLabel} {serial : Nat} {emitted : List SystemOutput}
    (isEvent : label.eventSerial = some serial)
    (transition : system.step label = some (next, emitted)) :
    ∃ session, system.findSerial serial = some session ∧
      Signals system next session (session.signals label) ∧ emitted = [] := by
  have ofSilent {result : Option System}
      (kept : ∀ {final}, result = some final → ∃ session, system.findSerial serial = some session ∧
        Signals system final session (session.signals label))
      (done : silent result = some (next, emitted)) :
      ∃ session, system.findSerial serial = some session ∧
        Signals system next session (session.signals label) ∧ emitted = [] := by
    obtain ⟨final, isFinal, same⟩ := Option.map_eq_some_iff.mp done
    cases same
    obtain ⟨session, found, signals⟩ := kept isFinal
    exact ⟨session, found, signals, rfl⟩
  unfold step at transition
  split at transition
  · cases transition
  · cases label with
    | connectEvent =>
        cases isEvent
        exact ofSilent signals_connectEvent transition
    | closeEvent =>
        cases isEvent
        exact ofSilent signals_closeEvent transition
    | resolveEvent =>
        cases isEvent
        exact ofSilent signals_resolveEvent transition
    | readEvent =>
        cases isEvent
        exact ofSilent signals_readEvent transition
    | heartbeatEvent =>
        cases isEvent
        exact ofSilent signals_heartbeatEvent transition
    | deviceReceive =>
        cases isEvent
        exact ofSilent signals_deviceReceive transition
    | deviceAnswer =>
        cases isEvent
        exact ofSilent signals_deviceAnswer transition
    | devicePush =>
        cases isEvent
        exact ofSilent signals_devicePush transition
    | _ => cases isEvent

/-- The message of a session's timer. -/
theorem signals_sessionOnMessage (system : System) (serial : Nat) (now : UInt32) :
    (system.findSerial serial = none ∧ system.sessionOnMessage serial now = system) ∨
      ∃ session, system.findSerial serial = some session ∧
        Signals system (system.sessionOnMessage serial now) session (session.timeouts now) := by
  unfold sessionOnMessage
  split
  · next absent => exact .inl ⟨absent, rfl⟩
  · next session found =>
      exact .inr ⟨session, found, signals_asyncWaitNextHeadrtbeatEvent system session now⟩

/-! ## The side of the sessions -/

/-- The sessions and their manager leave the tasks, the threads and the push task alone. -/
def SessionSide (system next : System) : Prop :=
  next = { system with
    sessionCounter := next.sessionCounter
    serials := next.serials
    queueThread := next.queueThread
    asyncThread := next.asyncThread
    asyncSessions := next.asyncSessions
    closed := next.closed }

/-- Two steps on the side of the sessions are one. -/
theorem SessionSide.trans {final : System} (first : SessionSide system next)
    (second : SessionSide next final) : SessionSide system final := by
  unfold SessionSide at first second ⊢
  rw [second, first]

/-- The side of the sessions numbers no tasks. -/
theorem SessionSide.taskCounter (side : SessionSide system next) :
    next.taskCounter = system.taskCounter := by
  unfold SessionSide at side
  rw [side]

/-- The side of the sessions leaves the tasks alone. -/
theorem SessionSide.tasks (side : SessionSide system next) :
    next.tasks = system.tasks := by
  unfold SessionSide at side
  rw [side]

/-- The side of the sessions leaves the push manager alone. -/
theorem SessionSide.pushManager (side : SessionSide system next) :
    next.pushManager = system.pushManager := by
  unfold SessionSide at side
  rw [side]

/-- The side of the sessions registers no push task. -/
theorem SessionSide.pushRegistered (side : SessionSide system next) :
    next.pushRegistered = system.pushRegistered := by
  unfold SessionSide at side
  rw [side]

/-- The side of the sessions leaves the push thread alone. -/
theorem SessionSide.pushThread (side : SessionSide system next) :
    next.pushThread = system.pushThread := by
  unfold SessionSide at side
  rw [side]

/-- The side of the sessions leaves the application's threads alone. -/
theorem SessionSide.threads (side : SessionSide system next) :
    next.threads = system.threads := by
  unfold SessionSide at side
  rw [side]

/-- An event of a session is on the side of the sessions. -/
theorem Signals.sessionSide {session : SessionObject} {signals : List Signal}
    (event : Signals system next session signals) : SessionSide system next := by
  obtain ⟨frame, _, _⟩ := event
  unfold SessionSide
  rw [frame]

/-- Removing a session is on the side of the sessions. -/
theorem sessionSide_removeSession (system : System) (sessionId : UInt32) :
    SessionSide system (system.removeSession sessionId) := by
  unfold removeSession
  split <;> rfl

/-- Constructing a session is on the side of the sessions. -/
theorem sessionSide_newSession (system : System) (requested : UInt32) :
    SessionSide system (system.newSession requested).1 := by
  unfold newSession
  split <;> rfl

/-- Adding a session is on the side of the sessions. -/
theorem sessionSide_addSession (system : System) (session : SessionObject) :
    SessionSide system (system.addSession session).1 := by
  unfold addSession
  split <;> rfl

/-- Opening a session is on the side of the sessions. -/
theorem sessionSide_openSession (system : System) (requested connectId : UInt32)
    (answer : ConnectAnswer) :
    SessionSide system (system.openSession requested connectId answer).1 :=
  (sessionSide_newSession system requested).trans
    ((sessionSide_addSession (system.newSession requested).1 (system.newSession requested).2).trans
      rfl)

/-- All the manager's messages are on the side of the sessions. -/
theorem sessionSide_sessionManagerOnMessage (system : System) (now : UInt32)
    (answer : ConnectAnswer) (message : SdkMessage) :
    SessionSide system (system.sessionManagerOnMessage now answer message).1 := by
  unfold sessionManagerOnMessage
  split
  · unfold onReconnectMessage
    simp only
    split
    · have reposted : SessionSide system
          { system with
            asyncThread := system.asyncThread.postDelayed now reconnectDelay
              ⟨some .sessionManager, message.messageId, message.pdata⟩ } := rfl
      exact reposted.trans (sessionSide_openSession _ _ _ _)
    · rfl
  · exact sessionSide_openSession _ _ _ _
  · unfold onDisconnectMessage
    split
    · exact (sessionSide_removeSession system _).trans rfl
    · rfl
  · unfold onRequestMessage
    split
    · simp only
      split <;> rfl
    · rfl
  · exact sessionSide_removeSession system _
  · rfl

/-- A message of the asynchronous thread stays on the side of the sessions. -/
theorem sessionSide_dispatch (system : System) (now : UInt32) (answer : ConnectAnswer)
    {message : SdkMessage} (elsewhere : message.phandler ≠ some .queueLayer) :
    SessionSide system (system.dispatch now answer message).1 := by
  unfold dispatch
  split
  · next toQueueLayer => exact absurd toQueueLayer elsewhere
  · exact sessionSide_sessionManagerOnMessage system now answer message
  · next serial _ =>
      rcases signals_sessionOnMessage system serial now with ⟨_, same⟩ | ⟨session, _, event⟩
      · rw [same]
        rfl
      · exact event.sessionSide
  · rfl

end System

end VzSdk.Sdk
