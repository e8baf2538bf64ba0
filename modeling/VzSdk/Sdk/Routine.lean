import VzSdk.Std.Correlation
import VzSdk.Sdk.Calls

/-!
# Routine steps

Most steps of the SDK neither register or remove a task, nor route a reply, nor
close a session for good. `Routine` says what such a step leaves alone, and each
handler of the sessions and their manager has one lemma that it is routine. The
results about reconnecting and about replies use these lemmas and look only at
the steps that are not routine.
-/

namespace VzSdk.Sdk

open VzSdk.Base VzSdk.Event VzSdk.Std

/-- What an answer of a device is recognised by: its session and its command. -/
abbrev Topic := UInt32 × Option String

/-- A device may answer the request under this command. -/
def Json.AnsweredUnder (reqJson : Json) (cmd : Option String) : Prop :=
  ∃ resCmd, cmd = some resCmd ∧ answersTo (reqJson.cmd.getD "") resCmd = true

/-- What a payload tells the queue layer about tasks and their replies. -/
def payloadNotice : Option Stanza → Option (Notice Task UInt32 Topic)
  | some (.reqTask task) => some (.ask task)
  | some (.removeTask task) => some (.drop task.taskId)
  | some (.responseData session resJson _ origin) => some (.reply (session, resJson.cmd) origin)
  | _ => none

/-- The notice of a message; dispose messages are not handed out. -/
def notice (message : SdkMessage) : Option (Notice Task UInt32 Topic) :=
  if message.phandler = some .queueLayer ∧ message.messageId ≠ mqidDispose then
    payloadNotice message.pdata
  else none

/-- Dispose messages are no notices. -/
theorem notice_of_dispose (message : SdkMessage) (dispose : message.messageId = mqidDispose) :
    notice message = none := by
  simp [notice, dispose]

/-- The payload is about no task, no request and no reply. -/
def Stanza.dull : Stanza → Bool
  | .plain _ _ => true
  | .connectData _ _ _ => true
  | .disconnectData _ => true
  | _ => false

/-- Dull stanzas are no notices. -/
theorem notice_of_dull {phandler : Option Component} {id : UInt32} {stanza : Stanza}
    (dull : stanza.dull = true) : notice ⟨phandler, id, some stanza⟩ = none := by
  unfold notice
  split
  · cases stanza <;> first | rfl | cases dull
  · rfl

/-- A message as it may stand on the queue thread: replies have no id, and requests
go to the other thread. -/
def Proper (message : SdkMessage) : Prop :=
  match message.pdata with
  | some (.responseData _ _ _ _) => message.messageId = 0
  | some (.requestData _ _ _ _) => False
  | _ => True

/-- A dull stanza may be posted to anybody. -/
theorem proper_of_dull {phandler : Option Component} {id : UInt32} {stanza : Stanza}
    (dull : stanza.dull = true) : Proper ⟨phandler, id, some stanza⟩ := by
  cases stanza <;> trivial

namespace SessionObject

/-- An answer under `cmd` to the request `origin` may still come in on this connection. -/
def Flying (session : SessionObject) (cmd : Option String) (origin : Option UInt32) : Prop :=
  (∃ request ∈ session.outgoing ++ session.unanswered,
      origin = some request.tag ∧ request.reqJson.AnsweredUnder cmd) ∨
    ∃ answer ∈ session.incoming, origin = answer.origin ∧
      ∃ resJson, answer.resJson = some resJson ∧ resJson.cmd = cmd

/-- The session is the same one, and no new answer may come in. -/
structure Slims (session next : SessionObject) : Prop where
  sessionId : next.sessionId = session.sessionId
  serial : next.serial = session.serial
  flying : ∀ {cmd origin}, next.Flying cmd origin → session.Flying cmd origin

end SessionObject

/-- The labels all of whose steps are routine. -/
def SystemLabel.routine : SystemLabel → Bool
  | .resume _ _ _ => true
  | .connectEvent _ _ => true
  | .closeEvent _ => true
  | .resolveEvent _ _ _ => true
  | .heartbeatEvent _ _ => true
  | .deviceReceive _ => true
  | .deviceAnswer _ _ _ => true
  | _ => false

namespace System

/-- The notices on the queue thread's ready list, in order. -/
def notices (system : System) : List (Notice Task UInt32 Topic) :=
  system.queueThread.msgq.filterMap notice

/-- A request is on its way to the connection of its session. -/
def Asking (queue : SdkQueue) (topic : Topic) (origin : Option UInt32) : Prop :=
  ∃ message ∈ queue.contents, ∃ reqJson isPush tag,
    message.pdata = some (.requestData topic.1 reqJson isPush tag) ∧
      origin = some tag ∧ reqJson.AnsweredUnder topic.2

/-- An answer to the request `origin` may still come in, or wait to be read. -/
def Flying (system : System) (topic : Topic) (origin : Option UInt32) : Prop :=
  Asking system.asyncThread topic origin ∨
    ∃ entry ∈ system.asyncSessions.entries,
      entry.2.sessionId = topic.1 ∧ entry.2.Flying topic.2 origin

/-- What holds of the queue thread's queue in every reachable state. -/
structure TidyQueue (queue : SdkQueue) : Prop where
  running : queue.fStop = false
  unpeeked : queue.msgPeek = none
  delayed : ∀ delayed ∈ queue.dmsgq, notice delayed.msg = none
  proper : ∀ message ∈ queue.contents, Proper message

/-- What holds of the table of sessions in every reachable state. -/
structure TidySessions (sessions : OrderedMap UInt32 SessionObject) (serials : Nat) : Prop where
  keyed : ∀ entry ∈ sessions.entries, entry.2.sessionId = entry.1
  counted : ∀ entry ∈ sessions.entries, entry.2.serial < serials
  distinct : ∀ first ∈ sessions.entries, ∀ second ∈ sessions.entries,
    first.2.serial = second.2.serial → first = second

/-- The invariant of the system behind all its results: every queue holds messages for handlers of
its thread, and sessions and tasks are under their own ids. -/
structure Tidy (system : System) : Prop where
  queue : TidyQueue system.queueThread
  sessions : TidySessions system.asyncSessions system.serials
  /-- The queue layer's messages are on the queue thread. -/
  elsewhere : ∀ message ∈ system.asyncThread.contents, message.phandler ≠ some .queueLayer
  named : ∀ entry ∈ system.tasks.entries, entry.2.taskId = entry.1

/-- The step registers and removes no task, routes no reply and sends no request. -/
structure Calm (system next : System) : Prop where
  tidy : next.Tidy
  tasks : next.tasks = system.tasks
  threads : next.threads = system.threads
  notices : next.notices = system.notices
  flying : ∀ {topic origin}, next.Flying topic origin → system.Flying topic origin

/-- No message for the session manager is lost. -/
structure KeepsManager (queue next : SdkQueue) : Prop where
  running : next.fStop = queue.fStop
  kept : ∀ message ∈ queue.contents, message.phandler = some .sessionManager →
    message ∈ next.contents

/-- The step is calm, closes no session for good and leaves the manager its messages. -/
structure Routine (system next : System) : Prop extends Calm system next where
  closed : next.closed = system.closed
  manager : KeepsManager system.asyncThread next.asyncThread

variable {system next final : System}

/-- Two calm steps are calm together. -/
theorem Calm.trans (first : Calm system next) (second : Calm next final) : Calm system final where
  tidy := second.tidy
  tasks := second.tasks.trans first.tasks
  threads := second.threads.trans first.threads
  notices := second.notices.trans first.notices
  flying flies := first.flying (second.flying flies)

/-- A queue keeps its own messages. -/
theorem KeepsManager.refl {queue : SdkQueue} : KeepsManager queue queue :=
  ⟨rfl, fun _ member _ => member⟩

/-- What is kept twice is kept. -/
theorem KeepsManager.trans {first second third : SdkQueue} (before : KeepsManager first second)
    (after : KeepsManager second third) : KeepsManager first third where
  running := after.running.trans before.running
  kept message member toManager := after.kept message (before.kept message member toManager) toManager

/-- Two routine steps are routine together. -/
theorem Routine.trans (first : Routine system next) (second : Routine next final) :
    Routine system final :=
  ⟨first.toCalm.trans second.toCalm, second.closed.trans first.closed,
    first.manager.trans second.manager⟩

/-- Doing nothing is routine. -/
theorem Routine.refl (tidy : system.Tidy) : Routine system system :=
  ⟨⟨tidy, rfl, rfl, rfl, fun flies => flies⟩, rfl, .refl⟩

/-! ## Queues -/

/-- Posting a proper message keeps the queue tidy. -/
theorem TidyQueue.post {queue : SdkQueue} (tidy : TidyQueue queue) {message : SdkMessage}
    (proper : Proper message) : TidyQueue (queue.post message) := by
  have same : queue.post message = { queue with msgq := queue.msgq ++ [message] } := by
    simp [MessageQueue.post, tidy.running]
  refine ⟨?_, ?_, ?_, ?_⟩
  · rw [same, tidy.running]
  · rw [same, tidy.unpeeked]
  · rw [same]
    exact tidy.delayed
  · intro other member
    rcases MessageQueue.mem_contents_post member with rfl | member
    · exact proper
    · exact tidy.proper other member

/-- A message posted to the queue thread is the last of its notices. -/
theorem notices_post (tidy : system.Tidy) (message : SdkMessage) :
    ({ system with queueThread := system.queueThread.post message } : System).notices =
      system.notices ++ (notice message).toList := by
  simp [notices, MessageQueue.post, tidy.queue.running, List.filterMap_append, List.filterMap_cons]
  cases notice message <;> rfl

/-- Posting a dull stanza to the queue thread is routine. -/
theorem routine_post (tidy : system.Tidy) {phandler : Option Component} {id : UInt32}
    {stanza : Stanza} (dull : stanza.dull = true) :
    Routine system
      { system with queueThread := system.queueThread.post ⟨phandler, id, some stanza⟩ } where
  tidy := ⟨tidy.queue.post (proper_of_dull dull), tidy.sessions, tidy.elsewhere, tidy.named⟩
  tasks := rfl
  threads := rfl
  notices := by
    rw [notices_post tidy, notice_of_dull dull]
    exact List.append_nil _
  flying flies := flies
  closed := rfl
  manager := .refl

/-- A dull stanza for the queue layer is routine. -/
theorem routine_postQueue (tidy : system.Tidy) (id : UInt32) {stanza : Stanza}
    (dull : stanza.dull = true) : Routine system (system.postQueue id stanza) :=
  routine_post tidy dull

/-- Messages that are not for the queue layer and carry no request may go to the
asynchronous thread. -/
theorem routine_postDelayedAsync (tidy : system.Tidy) (now : UInt32) (cmsDelay : Int)
    {message : SdkMessage} (elsewhere : message.phandler ≠ some .queueLayer)
    (noRequest : ∀ session reqJson isPush tag,
      message.pdata ≠ some (.requestData session reqJson isPush tag)) :
    Routine system
      { system with asyncThread := system.asyncThread.postDelayed now cmsDelay message } where
  tidy := by
    refine ⟨tidy.queue, tidy.sessions, ?_, tidy.named⟩
    intro other member
    rcases MessageQueue.mem_contents_postDelayed member with rfl | member
    · exact elsewhere
    · exact tidy.elsewhere other member
  tasks := rfl
  threads := rfl
  notices := rfl
  flying := by
    rintro topic origin (⟨other, member, reqJson, isPush, tag, payload, rest⟩ | session)
    · rcases MessageQueue.mem_contents_postDelayed member with rfl | member
      · exact absurd payload (noRequest _ _ _ _)
      · exact .inl ⟨other, member, reqJson, isPush, tag, payload, rest⟩
    · exact .inr session
  closed := rfl
  manager := ⟨MessageQueue.fStop_postDelayed _ _ _ _,
    fun _ member _ => MessageQueue.mem_postDelayed (.inl member)⟩

/-- `RES_RESUME_TASK_EVENT` is no notice, also when it is due. -/
theorem routine_postResume (tidy : system.Tidy) (sessionId now : UInt32) (cmsDelay : Int) :
    Routine system (system.postResume sessionId now cmsDelay) where
  tidy := by
    refine ⟨⟨?_, ?_, ?_, ?_⟩, tidy.sessions, tidy.elsewhere, tidy.named⟩
    · simp [postResume, MessageQueue.postDelayed, MessageQueue.doDelayPost, tidy.queue.running]
    · simp [postResume, MessageQueue.postDelayed, MessageQueue.doDelayPost, tidy.queue.running,
        tidy.queue.unpeeked]
    · simp only [postResume, MessageQueue.postDelayed, MessageQueue.doDelayPost, tidy.queue.running]
      intro delayed member
      rcases List.mem_append.mp member with member | member
      · exact tidy.queue.delayed delayed member
      · rw [List.mem_singleton.mp member]
        exact notice_of_dull rfl
    · intro message member
      rcases MessageQueue.mem_contents_postDelayed member with rfl | member
      · exact proper_of_dull rfl
      · exact tidy.queue.proper message member
  tasks := rfl
  threads := rfl
  notices := by
    simp [postResume, notices, MessageQueue.postDelayed, MessageQueue.doDelayPost,
      tidy.queue.running]
  flying flies := flies
  closed := rfl
  manager := .refl

/-! ## Sessions -/

/-- Changing sessions without touching their ids keeps the table tidy. -/
theorem TidySessions.mapValues {sessions : OrderedMap UInt32 SessionObject} {serials : Nat}
    (tidy : TidySessions sessions serials) (change : SessionObject → SessionObject)
    (same : ∀ entry ∈ sessions.entries, (change entry.2).sessionId = entry.2.sessionId ∧
      (change entry.2).serial = entry.2.serial) :
    TidySessions (sessions.mapValues change) serials := by
  refine ⟨?_, ?_, ?_⟩
  · intro entry member
    obtain ⟨old, was, rfl⟩ := OrderedMap.mem_mapValues.mp member
    exact (same old was).1.trans (tidy.keyed old was)
  · intro entry member
    obtain ⟨old, was, rfl⟩ := OrderedMap.mem_mapValues.mp member
    have counted := tidy.counted old was
    rwa [← (same old was).2] at counted
  · intro first memberFirst second memberSecond sameSerial
    obtain ⟨first, wasFirst, rfl⟩ := OrderedMap.mem_mapValues.mp memberFirst
    obtain ⟨second, wasSecond, rfl⟩ := OrderedMap.mem_mapValues.mp memberSecond
    simp only [(same first wasFirst).2, (same second wasSecond).2] at sameSerial
    rw [tidy.distinct first wasFirst second wasSecond sameSerial]

/-- Changing a session object is routine when no new answer may come in. -/
theorem routine_updateSession (tidy : system.Tidy) {serial : Nat}
    {change : SessionObject → SessionObject}
    (slims : ∀ entry ∈ system.asyncSessions.entries, entry.2.serial = serial →
      entry.2.Slims (change entry.2)) : Routine system (system.updateSession serial change) := by
  have all : ∀ entry ∈ system.asyncSessions.entries,
      entry.2.Slims (if entry.2.serial = serial then change entry.2 else entry.2) := by
    intro entry member
    split
    · next same => exact slims entry member same
    · exact ⟨rfl, rfl, fun flies => flies⟩
  refine ⟨⟨?_, rfl, rfl, rfl, ?_⟩, rfl, .refl⟩
  · refine ⟨tidy.queue, ?_, tidy.elsewhere, tidy.named⟩
    exact tidy.sessions.mapValues
      (fun session => if session.serial = serial then change session else session)
      fun entry member => ⟨(all entry member).sessionId, (all entry member).serial⟩
  · rintro topic origin (asking | ⟨entry, member, sameId, flies⟩)
    · exact .inl asking
    · obtain ⟨old, was, rfl⟩ := OrderedMap.mem_mapValues.mp member
      exact .inr ⟨old, was, (all old was).sessionId.symm.trans sameId, (all old was).flying flies⟩

/-- Removing a session is routine. -/
theorem routine_removeSession (tidy : system.Tidy) (sessionId : UInt32) :
    Routine system (system.removeSession sessionId) := by
  unfold removeSession
  split
  · exact .refl tidy
  · refine ⟨⟨⟨tidy.queue, ⟨?_, ?_, ?_⟩, ?_, tidy.named⟩, rfl, rfl, rfl, ?_⟩, rfl, rfl, ?_⟩
    · exact fun entry member => tidy.sessions.keyed entry (OrderedMap.mem_erase.mp member).1
    · exact fun entry member => tidy.sessions.counted entry (OrderedMap.mem_erase.mp member).1
    · exact fun first memberFirst second memberSecond => tidy.sessions.distinct
        first (OrderedMap.mem_erase.mp memberFirst).1 second (OrderedMap.mem_erase.mp memberSecond).1
    · exact fun message member =>
        tidy.elsewhere message (MessageQueue.mem_contents_clear member)
    · rintro topic origin (⟨message, member, rest⟩ | ⟨entry, member, rest⟩)
      · exact .inl ⟨message, MessageQueue.mem_contents_clear member, rest⟩
      · exact .inr ⟨entry, (OrderedMap.mem_erase.mp member).1, rest⟩
    · intro message member toManager
      exact MessageQueue.mem_clear_of_mem member (by simp [Message.matches, toManager])

/-- The object under a serial is the only one. -/
theorem Tidy.eq_of_findSerial (tidy : system.Tidy) {serial : Nat} {session : SessionObject}
    (found : system.findSerial serial = some session) :
    session.serial = serial ∧ (session.sessionId, session) ∈ system.asyncSessions.entries ∧
      ∀ entry ∈ system.asyncSessions.entries, entry.2.serial = serial → entry.2 = session := by
  obtain ⟨entry, hit, rfl⟩ := Option.map_eq_some_iff.mp found
  have member := List.mem_of_find?_eq_some hit
  have isSerial : entry.2.serial = serial := by simpa using List.find?_some hit
  refine ⟨isSerial, ?_, ?_⟩
  · rw [tidy.sessions.keyed entry member]
    exact member
  · intro other memberOther same
    rw [tidy.sessions.distinct other memberOther entry member (same.trans isSerial.symm)]

/-- Changing fields other than the connection's queues. -/
theorem routine_updateFields (tidy : system.Tidy) (serial : Nat)
    (change : SessionObject → SessionObject)
    (slims : ∀ session : SessionObject, session.Slims (change session)) :
    Routine system (system.updateSession serial change) :=
  routine_updateSession tidy fun entry _ _ => slims entry.2

/-- Changing the object found under a serial. -/
theorem routine_updateFound (tidy : system.Tidy) {serial : Nat} {session : SessionObject}
    (found : system.findSerial serial = some session) {change : SessionObject → SessionObject}
    (slims : session.Slims (change session)) :
    Routine system (system.updateSession serial change) := by
  refine routine_updateSession tidy ?_
  intro entry member same
  rw [(tidy.eq_of_findSerial found).2.2 entry member same]
  exact slims

/-! ## Signals of a session -/

/-- Reporting a connected session is routine. -/
theorem routine_onSessionConnectedEvent (tidy : system.Tidy) (session : SessionObject) :
    Routine system (system.onSessionConnectedEvent session) := by
  unfold onSessionConnectedEvent
  split
  · exact routine_postQueue tidy _ rfl
  · exact .refl tidy

/-- Reporting a closed session is routine. -/
theorem routine_onSessionCloseEvent (tidy : system.Tidy) (session : SessionObject) :
    Routine system (system.onSessionCloseEvent session) := by
  unfold onSessionCloseEvent
  split
  · have removed := routine_postQueue tidy session.connectId
      (rfl : (Stanza.plain .removeSession session.sessionId).dull = true)
    exact removed.trans (routine_postQueue removed.tidy _ rfl)
  · exact .refl tidy

/-- Closing the socket of a session is routine. -/
theorem routine_onCloseEvent (tidy : system.Tidy) (session : SessionObject) :
    Routine system (system.onCloseEvent session) := by
  have closed := routine_updateFields tidy session.serial (·.uinitSocket)
    fun session => ⟨rfl, rfl, fun flies => flies⟩
  exact closed.trans (routine_onSessionCloseEvent closed.tidy session)

/-- Waiting for the next heartbeat is routine. -/
theorem routine_asyncWaitNextHeadrtbeatEvent (tidy : system.Tidy) (session : SessionObject)
    (now : UInt32) : Routine system (system.asyncWaitNextHeadrtbeatEvent session now) := by
  have rearm {base : System} (tidy : base.Tidy) : Routine base
      { base with
        asyncThread := base.asyncThread.postDelayed now defaultHeadbeatTimeout
          ⟨some (.session session.serial), 0, none⟩ } :=
    routine_postDelayedAsync tidy now _ (by simp) (by simp)
  unfold asyncWaitNextHeadrtbeatEvent
  simp only
  split
  · have started := routine_updateFields tidy session.serial
      (fun session => { session with msStart := now }) fun session => ⟨rfl, rfl, fun flies => flies⟩
    exact started.trans (rearm started.tidy)
  · split
    · exact routine_onCloseEvent tidy session
    · exact rearm tidy

/-- A heartbeat message is routine. -/
theorem routine_sessionOnMessage (tidy : system.Tidy) (serial : Nat) (now : UInt32) :
    Routine system (system.sessionOnMessage serial now) := by
  unfold sessionOnMessage
  split
  · exact .refl tidy
  · exact routine_asyncWaitNextHeadrtbeatEvent tidy _ now

/-- The connecting of a socket is routine. -/
theorem routine_connectEvent (tidy : system.Tidy) {serial : Nat} {now : UInt32}
    (transition : system.connectEvent serial now = some next) : Routine system next := by
  unfold connectEvent at transition
  split at transition
  · cases transition
  · next session found =>
      split at transition
      · have connected := routine_updateFields tidy serial (·.mapSocket fun socket =>
          { socket with
            state := .connected
            enabledEvents := { socket.enabledEvents with connect := false } })
          fun session => ⟨rfl, rfl, fun flies => flies⟩
        simp only at transition
        split at transition
        · cases transition
          have told := routine_onSessionConnectedEvent connected.tidy session
          exact (connected.trans told).trans
            (routine_asyncWaitNextHeadrtbeatEvent told.tidy session now)
        · cases transition
          exact connected
      · cases transition

/-- The closing of a socket is routine. -/
theorem routine_closeEvent (tidy : system.Tidy) {serial : Nat}
    (transition : system.closeEvent serial = some next) : Routine system next := by
  unfold closeEvent at transition
  split at transition
  · cases transition
  · next session found =>
      split at transition
      · have closed := routine_updateFields tidy serial (·.mapSocket (·.close))
          fun session => ⟨rfl, rfl, fun flies => flies⟩
        simp only at transition
        split at transition
        · cases transition
          exact closed.trans (routine_onCloseEvent closed.tidy session)
        · cases transition
          exact closed
      · cases transition

/-- The end of a resolution is routine. -/
theorem routine_resolveEvent (tidy : system.Tidy) {serial : Nat} {error : Int}
    {outcome : ConnectOutcome}
    (transition : system.resolveEvent serial error outcome = some next) : Routine system next := by
  unfold resolveEvent at transition
  split at transition
  · cases transition
  · next session found =>
      split at transition
      · cases transition
      · next socket _ =>
          generalize (if error = 0 then socket.doConnect outcome else (socket.close, error)) =
            resolved at transition
          obtain ⟨socket, error⟩ := resolved
          have resolved := routine_updateFields tidy serial (·.mapSocket fun _ => socket)
            fun session => ⟨rfl, rfl, fun flies => flies⟩
          simp only at transition
          split at transition
          · cases transition
            exact resolved.trans (routine_onCloseEvent resolved.tidy session)
          · cases transition
            exact resolved

/-- A heartbeat of the device is routine. -/
theorem routine_heartbeatEvent (tidy : system.Tidy) {serial : Nat} {now : UInt32}
    (transition : system.heartbeatEvent serial now = some next) : Routine system next := by
  unfold heartbeatEvent at transition
  split at transition
  · cases transition
  · split at transition
    · cases transition
      exact routine_updateFields tidy serial _ fun session => ⟨rfl, rfl, fun flies => flies⟩
    · cases transition

/-! ## The device -/

/-- What the device reads is no matter of the threads. -/
theorem routine_deviceReceive (tidy : system.Tidy) {serial : Nat}
    (transition : system.deviceReceive serial = some next) : Routine system next := by
  unfold deviceReceive at transition
  split at transition
  · cases transition
  · next session found =>
      split at transition
      · cases transition
      · next request outgoing pending =>
          split at transition
          · cases transition
            refine routine_updateFound tidy found ⟨rfl, rfl, ?_⟩
            rintro cmd origin (⟨asked, member, rest⟩ | read)
            · refine .inl ⟨asked, ?_, rest⟩
              simp only [List.mem_append, pending, List.mem_cons] at member ⊢
              grind
            · exact .inr read
          · cases transition

/-- What the device sends is no matter of the threads before it is read. -/
theorem routine_deviceAnswer (tidy : system.Tidy) {serial : Nat} {resJson : Json}
    {resData : List UInt8} (transition : system.deviceAnswer serial resJson resData = some next) :
    Routine system next := by
  unfold deviceAnswer at transition
  split at transition
  · cases transition
  · next session found =>
      split at transition
      · cases transition
      · next request unanswered pending =>
          split at transition
          · cases transition
          · next resCmd isCmd =>
              split at transition
              · next answers =>
                  cases transition
                  refine routine_updateFound tidy found ⟨rfl, rfl, ?_⟩
                  rintro cmd origin (⟨asked, member, rest⟩ | ⟨answer, member, fromRequest, json, isJson, under⟩)
                  · refine .inl ⟨asked, ?_, rest⟩
                    simp only [List.mem_append, pending, List.mem_cons] at member ⊢
                    grind
                  · rcases List.mem_append.mp member with old | new
                    · exact .inr ⟨answer, old, fromRequest, json, isJson, under⟩
                    · obtain rfl := List.mem_singleton.mp new
                      cases isJson
                      refine .inl ⟨request, ?_, fromRequest, resCmd, under.symm.trans isCmd, answers⟩
                      simp [pending]
              · cases transition

/-! ## New sessions -/

/-- The id that the constructor of `Session` takes. -/
def constructedId (system : System) (requested : UInt32) : UInt32 :=
  if requested = 0 then system.sessionCounter + 1 else requested

/-- The session that is constructed. -/
theorem newSession_object (system : System) (requested : UInt32) :
    (system.newSession requested).2 =
      .new system.serials (system.constructedId requested) := by
  unfold newSession constructedId
  split <;> rfl

/-- Constructing a session adds nothing to the table. -/
theorem newSession_frame (system : System) (requested : UInt32) :
    (system.newSession requested).1.asyncSessions = system.asyncSessions ∧
      (system.newSession requested).1.serials = system.serials + 1 := by
  unfold newSession
  split <;> exact ⟨rfl, rfl⟩

/-- Constructing a session is routine. -/
theorem routine_newSession (tidy : system.Tidy) (requested : UInt32) :
    Routine system (system.newSession requested).1 := by
  have counted : TidySessions system.asyncSessions (system.serials + 1) :=
    ⟨tidy.sessions.keyed,
      fun entry member => Nat.lt_succ_of_lt (tidy.sessions.counted entry member),
      tidy.sessions.distinct⟩
  unfold newSession
  split <;>
    exact ⟨⟨⟨tidy.queue, counted, tidy.elsewhere, tidy.named⟩, rfl, rfl, rfl, fun flies => flies⟩,
      rfl, .refl⟩

/-- A session object that is not in the table yet may be added. -/
theorem routine_addSession (tidy : system.Tidy) {serial : Nat} (sessionId : UInt32)
    (counted : serial < system.serials)
    (new : ∀ entry ∈ system.asyncSessions.entries, entry.2.serial ≠ serial) :
    Routine system (system.addSession (.new serial sessionId)).1 := by
  unfold addSession
  split
  · exact .refl tidy
  · refine ⟨⟨⟨tidy.queue, ⟨?_, ?_, ?_⟩, tidy.elsewhere, tidy.named⟩, rfl, rfl, rfl, ?_⟩, rfl, .refl⟩
    · intro entry member
      rcases OrderedMap.mem_insertEntry member with rfl | old
      · rfl
      · exact tidy.sessions.keyed entry old
    · intro entry member
      rcases OrderedMap.mem_insertEntry member with rfl | old
      · exact counted
      · exact tidy.sessions.counted entry old
    · intro first memberFirst second memberSecond same
      rcases OrderedMap.mem_insertEntry memberFirst with rfl | oldFirst
      · rcases OrderedMap.mem_insertEntry memberSecond with rfl | oldSecond
        · rfl
        · exact absurd same.symm (new second oldSecond)
      · rcases OrderedMap.mem_insertEntry memberSecond with rfl | oldSecond
        · exact absurd same (new first oldFirst)
        · exact tidy.sessions.distinct first oldFirst second oldSecond same
    · rintro topic origin (asking | ⟨entry, member, sameId, flies⟩)
      · exact .inl asking
      · rcases OrderedMap.mem_insertEntry member with rfl | old
        · rcases flies with ⟨request, nothing, _⟩ | ⟨answer, nothing, _⟩
          · exact absurd nothing List.not_mem_nil
          · exact absurd nothing List.not_mem_nil
        · exact .inr ⟨entry, old, sameId, flies⟩

/-- Opening a session is routine. -/
theorem routine_openSession (tidy : system.Tidy) (requested connectId : UInt32)
    (answer : ConnectAnswer) : Routine system (system.openSession requested connectId answer).1 := by
  have made := routine_newSession tidy requested
  obtain ⟨sameTable, counted⟩ := newSession_frame system requested
  have added : Routine (system.newSession requested).1
      ((system.newSession requested).1.addSession (system.newSession requested).2).1 := by
    rw [newSession_object]
    refine routine_addSession made.tidy _ ?_ ?_
    · rw [counted]
      exact Nat.lt_succ_self _
    · intro entry member
      rw [sameTable] at member
      exact Nat.ne_of_lt (tidy.sessions.counted entry member)
  exact (made.trans added).trans (routine_updateFields added.tidy _ _
    fun session => ⟨rfl, rfl, fun flies => flies⟩)

/-- Handling a reconnect message is routine. -/
theorem routine_onReconnectMessage (tidy : system.Tidy) (now : UInt32) (answer : ConnectAnswer)
    (messageId sessionId : UInt32) (address : SocketAddress) :
    Routine system (system.onReconnectMessage now answer messageId sessionId
      (some (.connectData true sessionId address))).1 := by
  have reposted : Routine system
      { system with
        asyncThread := system.asyncThread.postDelayed now reconnectDelay
          ⟨some .sessionManager, messageId, some (.connectData true sessionId address)⟩ } :=
    routine_postDelayedAsync tidy now _ (by simp) (by simp)
  unfold onReconnectMessage
  simp only
  split
  · exact reposted.trans (routine_openSession reposted.tidy sessionId sessionId answer)
  · exact reposted

/-- Closing a session for good is calm. -/
theorem calm_onDisconnectMessage (tidy : system.Tidy) (messageId sessionId : UInt32) :
    Calm system (system.onDisconnectMessage messageId sessionId).1 := by
  unfold onDisconnectMessage
  split
  · have removed := routine_removeSession tidy sessionId
    have recorded : Calm (system.removeSession sessionId)
        { system.removeSession sessionId with
          closed := sessionId :: (system.removeSession sessionId).closed } :=
      ⟨⟨removed.tidy.queue, removed.tidy.sessions, removed.tidy.elsewhere, removed.tidy.named⟩,
        rfl, rfl, rfl, fun flies => flies⟩
    exact (removed.toCalm.trans recorded).trans (routine_postQueue recorded.tidy _ rfl).toCalm
  · exact (routine_postQueue tidy _ rfl).toCalm

/-! ## Every step keeps the system tidy -/

/-- A pass over the queue thread's queue takes its first notice, if it takes one. -/
theorem TidyQueue.getPass {queue : SdkQueue} (tidy : TidyQueue queue) (now : UInt32)
    (pmsg : SdkMessage) :
    TidyQueue (queue.getPass now pmsg).queue ∧
      queue.msgq.filterMap notice =
        (if (queue.getPass now pmsg).found then (notice (queue.getPass now pmsg).pmsg).toList
          else []) ++ (queue.getPass now pmsg).queue.msgq.filterMap notice := by
  obtain ⟨subset, _⟩ := MessageQueue.getPass_subset queue now pmsg
  obtain ⟨first, unpeeked, delayed⟩ :=
    MessageQueue.filterMap_getPass notice_of_dispose queue now pmsg tidy.unpeeked tidy.delayed
  refine ⟨⟨?_, unpeeked, delayed, ?_⟩, first⟩
  · rw [MessageQueue.fStop_getPass, tidy.running]
  · exact fun message member => tidy.proper message (subset message member)

/-- Handing a message to a thread, and failing, leave everything else alone. -/
theorem tidy_onTranslateToSyncLayer (tidy : system.Tidy) (messageId : UInt32) (stanza : Stanza) :
    (system.onTranslateToSyncLayer messageId stanza).Tidy := by
  have untouched {other : System} (queue : other.queueThread = system.queueThread)
      (sessions : other.asyncSessions = system.asyncSessions)
      (serials : other.serials = system.serials) (async : other.asyncThread = system.asyncThread)
      (tasks : other.tasks = system.tasks) : other.Tidy := by
    refine ⟨queue ▸ tidy.queue, ?_, async ▸ tidy.elsewhere, tasks ▸ tidy.named⟩
    rw [sessions, serials]
    exact tidy.sessions
  unfold onTranslateToSyncLayer
  split
  · exact untouched rfl rfl rfl rfl rfl
  · exact untouched rfl rfl rfl rfl rfl
  · split
    · unfold pushHandleMessage
      split
      · exact untouched rfl rfl rfl rfl rfl
      · split <;> exact untouched rfl rfl rfl rfl rfl
    · exact tidy

/-- Handing a task to the asynchronous thread keeps the system tidy. -/
theorem tidy_onTranslateToAsyncLayer (tidy : system.Tidy) (task : Task) :
    (system.onTranslateToAsyncLayer task).Tidy := by
  refine ⟨tidy.queue, tidy.sessions, ?_, ?_⟩
  · intro message member
    rcases MessageQueue.mem_contents_post member with rfl | member
    · simp
    · exact tidy.elsewhere message member
  · intro entry member
    rcases OrderedMap.mem_insertEntry member with rfl | old
    · rfl
    · exact tidy.named entry old

/-- The queue layer's messages keep the system tidy. -/
theorem tidy_queueLayerOnMessage (tidy : system.Tidy) (message : SdkMessage) :
    (system.queueLayerOnMessage message).Tidy := by
  unfold queueLayerOnMessage
  split
  · split
    · exact ⟨tidy.queue, tidy.sessions, tidy.elsewhere, tidy.named⟩
    · exact tidy_onTranslateToAsyncLayer tidy _
  · refine ⟨tidy.queue, tidy.sessions, tidy.elsewhere, ?_⟩
    exact fun entry member => tidy.named entry (OrderedMap.mem_erase.mp member).1
  · exact (routine_removeSession tidy _).tidy
  · exact (routine_post tidy rfl).tidy
  · exact tidy
  · exact tidy_onTranslateToSyncLayer tidy _ _
  · exact tidy_onTranslateToSyncLayer tidy _ _
  · exact tidy

/-- Whatever its connection holds, a session object keeps its place in the table. -/
theorem tidy_updateSession (tidy : system.Tidy) (serial : Nat)
    (change : SessionObject → SessionObject)
    (same : ∀ session : SessionObject,
      (change session).sessionId = session.sessionId ∧ (change session).serial = session.serial) :
    (system.updateSession serial change).Tidy := by
  refine ⟨tidy.queue, ?_, tidy.elsewhere, tidy.named⟩
  refine tidy.sessions.mapValues
    (fun session => if session.serial = serial then change session else session) ?_
  intro entry _
  split
  · exact same entry.2
  · exact ⟨rfl, rfl⟩

/-- A request keeps the system tidy. -/
theorem tidy_onRequestMessage (tidy : system.Tidy) (messageId sessionId : UInt32) (reqJson : Json)
    (isPush : Bool) (tag : UInt32) :
    (system.onRequestMessage messageId sessionId reqJson isPush tag).Tidy := by
  unfold onRequestMessage
  split
  · next session _ =>
      have written := tidy_updateSession tidy session.serial (fun session =>
        { session with outgoing := session.outgoing ++ [⟨tag, reqJson⟩] }) fun _ => ⟨rfl, rfl⟩
      simp only
      split
      · exact (routine_postQueue written _ rfl).tidy
      · exact written
  · exact (routine_postQueue tidy _ rfl).tidy

/-- The session manager's messages keep the system tidy. -/
theorem tidy_sessionManagerOnMessage (tidy : system.Tidy) (now : UInt32) (answer : ConnectAnswer)
    (message : SdkMessage) : (system.sessionManagerOnMessage now answer message).1.Tidy := by
  obtain ⟨phandler, messageId, pdata⟩ := message
  unfold sessionManagerOnMessage
  split
  · next sessionId address payload =>
      simp only at payload
      subst payload
      exact (routine_onReconnectMessage tidy now answer messageId sessionId address).tidy
  · exact (routine_openSession tidy _ _ _).tidy
  · exact (calm_onDisconnectMessage tidy _ _).tidy
  · exact tidy_onRequestMessage tidy _ _ _ _ _
  · exact (routine_removeSession tidy _).tidy
  · exact tidy

/-- Every dispatched message keeps the system tidy. -/
theorem tidy_dispatch (tidy : system.Tidy) (now : UInt32) (answer : ConnectAnswer)
    (message : SdkMessage) : (system.dispatch now answer message).1.Tidy := by
  unfold dispatch
  split
  · exact tidy_queueLayerOnMessage tidy message
  · exact tidy_sessionManagerOnMessage tidy now answer message
  · exact (routine_sessionOnMessage tidy _ now).tidy
  · exact tidy

/-- A pass of the queue thread keeps the system tidy. -/
theorem tidy_takeQueue (tidy : system.Tidy) (now : UInt32) :
    ({ system with queueThread := (system.queueThread.getPass now .zero).queue } : System).Tidy :=
  ⟨(tidy.queue.getPass now .zero).1, tidy.sessions, tidy.elsewhere, tidy.named⟩

/-- A pass of the asynchronous thread keeps the system tidy. -/
theorem tidy_takeAsync (tidy : system.Tidy) (now : UInt32) :
    ({ system with asyncThread := (system.asyncThread.getPass now .zero).queue } : System).Tidy := by
  refine ⟨tidy.queue, tidy.sessions, ?_, tidy.named⟩
  intro message member
  exact tidy.elsewhere message ((MessageQueue.getPass_subset _ _ _).1 message member)

/-- A turn of the queue thread keeps the system tidy. -/
theorem tidy_queueThreadTurn (tidy : system.Tidy) (now : UInt32) (answer : ConnectAnswer) :
    (system.queueThreadTurn now answer).1.Tidy := by
  have taken := tidy_takeQueue tidy now
  unfold queueThreadTurn
  simp only
  split
  · exact tidy_dispatch taken now answer _
  · exact taken

/-- A turn of the asynchronous thread keeps the system tidy. -/
theorem tidy_asyncThreadTurn (tidy : system.Tidy) (now : UInt32) (answer : ConnectAnswer) :
    (system.asyncThreadTurn now answer).1.Tidy := by
  have taken := tidy_takeAsync tidy now
  unfold asyncThreadTurn
  simp only
  split
  · exact tidy_dispatch taken now answer _
  · exact taken

/-! ### Threads of the application -/

/-- Changing a thread only. -/
theorem tidy_setThread (tidy : system.Tidy) (thread : Nat) (state : ThreadState) :
    (system.setThread thread state).Tidy :=
  ⟨tidy.queue, tidy.sessions, tidy.elsewhere, tidy.named⟩

/-- Posting to the queue layer about a task. -/
theorem tidy_postQueue (tidy : system.Tidy) {id : UInt32} {stanza : Stanza}
    (proper : Proper ⟨some .queueLayer, id, some stanza⟩) : (system.postQueue id stanza).Tidy :=
  ⟨tidy.queue.post proper, tidy.sessions, tidy.elsewhere, tidy.named⟩

/-- Every call. -/
theorem tidy_call {label : SystemLabel} {emitted : List SystemOutput} (tidy : system.Tidy)
    (call : CallKind system label next emitted) : next.Tidy := by
  have issuing (task : Task) : (system.issuing task).Tidy := by
    have counted : ({ system with taskCounter := task.taskId } : System).Tidy :=
      ⟨tidy.queue, tidy.sessions, tidy.elsewhere, tidy.named⟩
    exact tidy_postQueue counted trivial
  cases call with
  | sync => exact tidy_setThread (issuing _) _ _
  | post => exact issuing _
  | goesOn | connected => exact tidy_setThread tidy _ _
  | returns | reconnects => exact tidy_postQueue (tidy_setThread tidy _ _) trivial
  | push | handles | destroy => exact ⟨tidy.queue, tidy.sessions, tidy.elsewhere, tidy.named⟩
  | resume => exact (routine_postResume tidy _ _ _).tidy

/-- Reading an answer keeps the system tidy. -/
theorem tidy_readEvent (tidy : system.Tidy) {serial : Nat}
    (transition : system.readEvent serial = some next) : next.Tidy := by
  unfold readEvent at transition
  split at transition
  · cases transition
  · split at transition
    · cases transition
    · next incoming _ =>
        split at transition
        · cases transition
          have read := tidy_updateSession tidy serial (fun session =>
            { session with incoming := incoming }) fun _ => ⟨rfl, rfl⟩
          unfold onSessionPacketEvent
          split
          · split
            · exact tidy_postQueue read rfl
            · exact read
          · exact read
        · cases transition

/-- A push of the device keeps the system tidy. -/
theorem tidy_devicePush (tidy : system.Tidy) {serial : Nat} {resJson : Option Json}
    {resData : List UInt8} (transition : system.devicePush serial resJson resData = some next) :
    next.Tidy := by
  unfold devicePush at transition
  split at transition
  · cases transition
  · cases transition
    exact tidy_updateSession tidy serial _ fun _ => ⟨rfl, rfl⟩

/-- The events of sockets and devices all of whose steps are routine, and resuming. -/
theorem routine_step {label : SystemLabel} {emitted : List SystemOutput} (tidy : system.Tidy)
    (isRoutine : label.routine = true) (transition : system.step label = some (next, emitted)) :
    Routine system next ∧ emitted = [] := by
  have ofSilent {result : Option System}
      (kept : ∀ {final}, result = some final → Routine system final)
      (done : silent result = some (next, emitted)) : Routine system next ∧ emitted = [] := by
    obtain ⟨final, isFinal, same⟩ := Option.map_eq_some_iff.mp done
    cases same
    exact ⟨kept isFinal, rfl⟩
  unfold step at transition
  split at transition
  · cases transition
  · cases label with
    | resume sessionId now cmsDelay =>
        simp only [Option.some.injEq, Prod.mk.injEq] at transition
        obtain ⟨rfl, rfl⟩ := transition
        exact ⟨routine_postResume tidy sessionId now cmsDelay, rfl⟩
    | connectEvent => exact ofSilent (routine_connectEvent tidy) transition
    | closeEvent => exact ofSilent (routine_closeEvent tidy) transition
    | resolveEvent => exact ofSilent (routine_resolveEvent tidy) transition
    | heartbeatEvent => exact ofSilent (routine_heartbeatEvent tidy) transition
    | deviceReceive => exact ofSilent (routine_deviceReceive tidy) transition
    | deviceAnswer => exact ofSilent (routine_deviceAnswer tidy) transition
    | _ => cases isRoutine

/-- Every step keeps the system tidy. -/
theorem tidy_step {label : SystemLabel} {emitted : List SystemOutput} (tidy : system.Tidy)
    (transition : system.step label = some (next, emitted)) : next.Tidy := by
  have ofSilent {result : Option System} (kept : ∀ {final}, result = some final → final.Tidy)
      (done : silent result = some (next, emitted)) : next.Tidy := by
    obtain ⟨final, isFinal, same⟩ := Option.map_eq_some_iff.mp done
    cases same
    exact kept isFinal
  cases isCall : label.isCall with
  | true => exact tidy_call tidy (callKind_of_step isCall transition)
  | false =>
      cases isRoutine : label.routine with
      | true => exact (routine_step tidy isRoutine transition).1.tidy
      | false =>
          unfold step at transition
          split at transition
          · cases transition
          · cases label with
            | queueThread now answer =>
                have turn := tidy_queueThreadTurn tidy now answer
                simp only [Option.some.injEq] at transition
                rw [transition] at turn
                exact turn
            | asyncThread now answer =>
                have turn := tidy_asyncThreadTurn tidy now answer
                simp only [Option.some.injEq] at transition
                rw [transition] at turn
                exact turn
            | readEvent => exact ofSilent (tidy_readEvent tidy) transition
            | devicePush => exact ofSilent (tidy_devicePush tidy) transition
            | connectEvent | closeEvent | resolveEvent | heartbeatEvent | deviceReceive |
              deviceAnswer => cases isRoutine
            | _ => cases isCall

/-- The SDK starts tidy. -/
theorem tidy_start (pushThread : Nat) : (System.start pushThread).Tidy where
  queue := ⟨rfl, rfl, by simp [start, MessageQueue.post, MessageQueue.new], by
    intro message member
    obtain rfl : message = _ := by
      simpa [start, MessageQueue.post, MessageQueue.new, MessageQueue.contents] using member
    trivial⟩
  sessions :=
    ⟨fun _ member => absurd member List.not_mem_nil, fun _ member => absurd member List.not_mem_nil,
      fun _ member => absurd member List.not_mem_nil⟩
  elsewhere _ member := absurd member List.not_mem_nil
  named _ member := absurd member List.not_mem_nil

end System

/-- The system is tidy in every reachable state. -/
theorem tidy_of_run {allowed : System → SystemLabel → Prop} {pushThread : Nat}
    {labels : List SystemLabel} {system : System} {outputs : List SystemOutput}
    (run : sdkMachine.RunWhere allowed (System.start pushThread) labels system outputs) :
    system.Tidy :=
  run.invariant (fun _ system _ => system.Tidy) (System.tidy_start pushThread)
    fun tidy _ transition => System.tidy_step tidy transition

end VzSdk.Sdk
