import VzSdk.Sdk.Threads

/-!
# Who posts what

The queue thread and the asynchronous thread get their messages from few places.
`Posted` lists those of the queue thread and `posted_step` says that a step posts
no others; `async_step` does the same for the asynchronous thread, with the order
of the manager's messages.
-/

namespace VzSdk.Sdk

open VzSdk.Base VzSdk.Event VzSdk.Std

/-! ## The asynchronous thread -/

/-- The timer message of a session object. -/
def timerMessage (serial : Nat) : SdkMessage := ⟨some (.session serial), 0, none⟩

/-- The payload is that of a reconnect message. -/
def Reconnects (message : SdkMessage) : Prop :=
  ∃ sessionId address, message.pdata = some (.connectData true sessionId address)

/-- What holds of the asynchronous thread's queue in every reachable state. -/
structure TidyAsync (queue : SdkQueue) : Prop where
  running : queue.fStop = false
  unpeeked : queue.msgPeek = none
  delayed : ∀ delayed ∈ queue.dmsgq,
    (∃ serial, delayed.msg = timerMessage serial) ∨ Reconnects delayed.msg

/-- The queue has got the messages `posted`, and later gets `reposted`, besides timer
messages; it may have lost messages of sessions. -/
structure AsyncGrows (queue next : SdkQueue) (posted reposted : List SdkMessage) : Prop where
  running : next.fStop = queue.fStop
  unpeeked : queue.msgPeek = none → next.msgPeek = none
  ready : queue.fStop = false → ∀ {Kind : Type} (kind : SdkMessage → Option Kind),
    (∀ message, message.phandler ≠ some .sessionManager → kind message = none) →
      next.msgq.filterMap kind = queue.msgq.filterMap kind ++ posted.filterMap kind
  delayed : ∀ delayed ∈ next.dmsgq, delayed ∈ queue.dmsgq ∨ delayed.msg ∈ reposted ∨
    ∃ serial, delayed.msg = timerMessage serial
  contents : ∀ message ∈ next.contents, message ∈ queue.contents ∨ message ∈ posted ++ reposted ∨
    ∃ serial, message = timerMessage serial

namespace AsyncGrows

/-- Nothing is posted. -/
theorem refl (queue : SdkQueue) : AsyncGrows queue queue [] [] where
  running := rfl
  unpeeked := id
  ready := by simp
  delayed _ member := .inl member
  contents _ member := .inl member

/-- Reconnect messages keep the thread tidy. -/
theorem tidy {queue next : SdkQueue} {posted reposted : List SdkMessage}
    (grows : AsyncGrows queue next posted reposted)
    (reconnects : ∀ message ∈ reposted, Reconnects message) (tidy : TidyAsync queue) :
    TidyAsync next where
  running := grows.running.trans tidy.running
  unpeeked := grows.unpeeked tidy.unpeeked
  delayed message member := by
    rcases grows.delayed message member with old | again | timer
    · exact tidy.delayed message old
    · exact .inr (reconnects _ again)
    · exact .inl timer

/-- A message is posted. -/
theorem post (queue : SdkQueue) (message : SdkMessage) :
    AsyncGrows queue (queue.post message) [message] [] where
  running := MessageQueue.fStop_post _ _
  unpeeked none := by
    unfold MessageQueue.post
    split <;> exact none
  ready running Kind kind _ := by
    simp [MessageQueue.post, running]
  delayed message member := by
    unfold MessageQueue.post at member
    split at member <;> exact .inl member
  contents message member := by
    rcases MessageQueue.mem_contents_post member with rfl | old
    · exact .inr (.inl (by simp))
    · exact .inl old

/-- A message is posted again. -/
theorem postDelayed (queue : SdkQueue) (now : UInt32) (cmsDelay : Int) (message : SdkMessage) :
    AsyncGrows queue (queue.postDelayed now cmsDelay message) [] [message] where
  running := MessageQueue.fStop_postDelayed _ _ _ _
  unpeeked none := (MessageQueue.postDelayed_eq queue now cmsDelay message).1.trans none
  ready _ Kind kind _ := by
    simp [(MessageQueue.postDelayed_eq queue now cmsDelay message).2.1]
  delayed other member := by
    rcases (MessageQueue.postDelayed_eq queue now cmsDelay message).2.2 other member with old | new
    · exact .inl old
    · exact .inr (.inl (by simp [new]))
  contents other member := by
    rcases MessageQueue.mem_contents_postDelayed member with rfl | old
    · exact .inr (.inl (by simp))
    · exact .inl old

/-- A heartbeat that is asked for again is no post. -/
theorem of_rearmed {serial : Nat} {queue next : SdkQueue} (rearmed : Rearmed serial queue next) :
    AsyncGrows queue next [] [] where
  running := rearmed.running
  unpeeked none := rearmed.unpeeked.trans none
  ready _ Kind kind _ := by simp [rearmed.ready]
  delayed message member := by
    rcases rearmed.delayed message member with old | timer
    · exact .inl old
    · exact .inr (.inr ⟨serial, timer⟩)
  contents message member := by
    rcases rearmed.timers message member with old | timer
    · exact .inl old
    · exact .inr (.inr ⟨serial, timer⟩)

/-- The messages of a session go with it. -/
theorem clear (queue : SdkQueue) (serial : Nat) :
    AsyncGrows queue (queue.clear (some (.session serial)) mqidAny).1 [] [] where
  running := rfl
  unpeeked none := by simp [MessageQueue.clear, none]
  ready _ Kind kind managerOnly := by
    simp only [MessageQueue.clear, List.filterMap_nil, List.append_nil]
    rw [List.filterMap_filter]
    congr 1
    funext message
    by_cases toManager : message.phandler = some .sessionManager
    · simp [Message.matches, toManager]
    · rw [managerOnly message toManager]
      split <;> rfl
  delayed _ member := .inl (List.mem_filter.mp member).1
  contents _ member := .inl (MessageQueue.mem_contents_clear member)

end AsyncGrows

namespace System

variable {system next : System} {label : SystemLabel} {emitted : List SystemOutput}

/-- Removing a session posts nothing. -/
theorem async_removeSession (system : System) (sessionId : UInt32) :
    AsyncGrows system.asyncThread (system.removeSession sessionId).asyncThread [] [] := by
  unfold removeSession
  split
  · exact .refl _
  · exact .clear _ _

/-- Opening a session posts nothing. -/
theorem async_openSession (system : System) (requested connectId : UInt32)
    (answer : ConnectAnswer) :
    (system.openSession requested connectId answer).1.asyncThread = system.asyncThread := by
  unfold openSession newSession addSession updateSession
  by_cases fresh : requested = 0
  · simp only [fresh, if_true]
    split <;> rfl
  · simp only [fresh, if_false]
    split <;> rfl

/-- The messages that the manager posts to itself while it handles a message. -/
def reposted (message : SdkMessage) : List SdkMessage :=
  match message.pdata with
  | some (.connectData true _ _) => [⟨some .sessionManager, message.messageId, message.pdata⟩]
  | _ => []

/-- The manager posts reconnect messages again, and nothing else. -/
theorem async_sessionManagerOnMessage (system : System) (now : UInt32) (answer : ConnectAnswer)
    (message : SdkMessage) :
    AsyncGrows system.asyncThread (system.sessionManagerOnMessage now answer message).1.asyncThread
      [] (reposted message) := by
  unfold sessionManagerOnMessage reposted
  split
  · next sessionId address payload =>
      have repost := AsyncGrows.postDelayed system.asyncThread now reconnectDelay
        ⟨some .sessionManager, message.messageId, message.pdata⟩
      rw [payload] at repost
      simp only [payload]
      unfold onReconnectMessage
      simp only
      split
      · rw [async_openSession]
        exact repost
      · exact repost
  · next payload =>
      simp only [payload]
      unfold onConnectMessage
      rw [async_openSession]
      exact .refl _
  · next payload =>
      simp only [payload]
      unfold onDisconnectMessage
      split
      · exact async_removeSession system _
      · exact .refl _
  · next payload =>
      simp only [payload]
      unfold onRequestMessage
      split
      · simp only
        split <;> exact .refl _
      · exact .refl _
  · next payload =>
      simp only [payload]
      exact async_removeSession system _
  · next noReconnect _ _ _ _ =>
      split
      · next payload => exact absurd payload (noReconnect _ _)
      · exact .refl _

/-- The message that the queue layer forwards to the manager. -/
def forwarded (message : SdkMessage) : List SdkMessage :=
  match message.pdata with
  | some (.reqTask task) =>
      match task.data with
      | .pushManager => []
      | _ => [⟨some .sessionManager, task.taskId, task.messageData⟩]
  | _ => []

/-- The queue layer forwards tasks and events to the manager. -/
theorem async_queueLayerOnMessage (system : System) (message : SdkMessage) :
    AsyncGrows system.asyncThread (system.queueLayerOnMessage message).asyncThread
      (forwarded message) [] := by
  unfold queueLayerOnMessage forwarded
  split
  · next task payload =>
      simp only [payload]
      cases task.data with
      | pushManager => exact .refl _
      | _ => exact .post _ _
  · next payload =>
      simp only [payload]
      exact .refl _
  · next payload =>
      simp only [payload]
      exact async_removeSession system _
  · next payload =>
      simp only [payload]
      exact .refl _
  · next payload =>
      simp only [payload]
      exact .refl _
  · next payload =>
      simp only [payload]
      rw [frame_onTranslateToSyncLayer]
      exact .refl _
  · next payload =>
      simp only [payload]
      rw [frame_onTranslateToSyncLayer]
      exact .refl _
  · next noAsk _ _ _ _ _ _ =>
      split
      · next payload => exact absurd payload (noAsk _)
      · exact .refl _

/-- The messages that the label's turn has the queue layer forward. -/
def forwards (system : System) (label : SystemLabel) : List SdkMessage :=
  match system.nextMessage label with
  | some message => if message.phandler = some .queueLayer then forwarded message else []
  | none => []

/-- The messages that the label's turn has the manager post to itself. -/
def reposts (system : System) (label : SystemLabel) : List SdkMessage :=
  match system.nextMessage label with
  | some message => if message.phandler = some .sessionManager then reposted message else []
  | none => []

/-- What a dispatched message posts to the asynchronous thread. -/
theorem async_dispatch (base : System) (now : UInt32) (answer : ConnectAnswer)
    {message : SdkMessage} (isNext : system.nextMessage label = some message) :
    AsyncGrows base.asyncThread (base.dispatch now answer message).1.asyncThread
      (system.forwards label) (system.reposts label) := by
  unfold dispatch forwards reposts
  simp only [isNext]
  split
  · next toLayer => simpa [toLayer] using async_queueLayerOnMessage base message
  · next toManager => simpa [toManager] using async_sessionManagerOnMessage base now answer message
  · next serial toSession =>
      simp only [toSession]
      rcases signals_sessionOnMessage base serial now with ⟨_, same⟩ | ⟨session, _, event⟩
      · rw [same]
        exact .refl _
      · exact .of_rearmed event.async
  · next noLayer noManager _ =>
      rw [if_neg noLayer, if_neg noManager]
      exact .refl _

/-- Events of sockets are no turns of the threads. -/
theorem turns_of_event {serial : Nat} (isEvent : label.eventSerial = some serial) :
    label.turns = false := by
  cases label <;> first | rfl | cases isEvent

/-- A call takes no message. -/
theorem taken_of_call (system : System) (isCall : label.turns = false) :
    system.taken label = system ∧ system.nextMessage label = none := by
  cases label <;> first | exact ⟨rfl, rfl⟩ | cases isCall

/-- A step that takes a message out of a queue dispatches it. -/
theorem dispatch_of_next {message : SdkMessage} (isNext : system.nextMessage label = some message)
    (transition : system.step label = some (next, emitted)) :
    ∃ now answer, next = ((system.taken label).dispatch now answer message).1 ∧
      emitted = ((system.taken label).dispatch now answer message).2 := by
  cases kind_of_step transition with
  | @dispatch _ _ now answer _ isMessage =>
      rw [isNext] at isMessage
      cases isMessage
      exact ⟨now, answer, rfl, rfl⟩
  | event isEvent =>
      rw [(taken_of_call system (turns_of_event isEvent)).2] at isNext
      cases isNext
  | call isCall =>
      rw [(taken_of_call system isCall).2] at isNext
      cases isNext
  | resume => cases isNext
  | idle _ nothing =>
      rw [nothing] at isNext
      cases isNext

/-- Every step of the machine, for the asynchronous thread. -/
theorem async_step (transition : system.step label = some (next, emitted)) :
    AsyncGrows (system.taken label).asyncThread next.asyncThread (system.forwards label)
      (system.reposts label) := by
  have nothing (none : system.nextMessage label = none) :
      system.forwards label = [] ∧ system.reposts label = [] := by
    simp [forwards, reposts, none]
  have called (isCall : label.turns = false)
      (grows : AsyncGrows system.asyncThread next.asyncThread [] []) :
      AsyncGrows (system.taken label).asyncThread next.asyncThread (system.forwards label)
        (system.reposts label) := by
    obtain ⟨same, none⟩ := taken_of_call system isCall
    rw [same, (nothing none).1, (nothing none).2]
    exact grows
  cases kind_of_step transition with
  | event isEvent found signals =>
      exact called (turns_of_event isEvent) (.of_rearmed signals.async)
  | call isCall noEvent side =>
      refine called isCall ?_
      rw [side.frame]
      exact .refl _
  | resume => exact called rfl (.refl _)
  | idle isTurn none =>
      rw [(nothing none).1, (nothing none).2]
      exact .refl _
  | dispatch isTurn isNext => exact async_dispatch _ _ _ isNext

/-- What the queue layer forwards is the message of the task it is asked for. -/
theorem mem_forwards {message : SdkMessage} (forwarded : message ∈ system.forwards label) :
    ∃ asking task, system.nextMessage label = some asking ∧
      asking.phandler = some .queueLayer ∧ asking.pdata = some (.reqTask task) ∧
      task.data ≠ .pushManager ∧ message = ⟨some .sessionManager, task.taskId, task.messageData⟩ := by
  unfold forwards at forwarded
  split at forwarded
  · next asking isNext =>
      split at forwarded
      · next toLayer =>
          unfold System.forwarded at forwarded
          split at forwarded
          · next task payload =>
              split at forwarded
              · cases forwarded
              · next isTask =>
                  exact ⟨asking, task, isNext, toLayer, payload, isTask,
                    List.mem_singleton.mp forwarded⟩
          · cases forwarded
      · cases forwarded
  · cases forwarded

/-- What the manager posts to itself is the reconnect message that it handles. -/
theorem mem_reposts {message : SdkMessage} (reposted : message ∈ system.reposts label) :
    ∃ handled sessionId address, system.nextMessage label = some handled ∧
      handled.phandler = some .sessionManager ∧
      handled.pdata = some (.connectData true sessionId address) ∧ message.pdata = handled.pdata := by
  unfold reposts at reposted
  split at reposted
  · next handled isNext =>
      split at reposted
      · next toManager =>
          unfold System.reposted at reposted
          split at reposted
          · next payload =>
              refine ⟨handled, _, _, isNext, toManager, payload, ?_⟩
              rw [List.mem_singleton.mp reposted]
          · cases reposted
      · cases reposted
  · cases reposted

/-! ## The queue thread -/

/-- The messages that a step may post to the queue thread at once, by what posts them. -/
inductive Posted (system : System) (label : SystemLabel) : SdkMessage → Prop where
  /-- The manager, for a signal of a session. -/
  | signal {serial session signal post} (found : system.findSerial serial = some session)
      (isEvent : (label.eventSerial = some serial ∧ signal ∈ session.signals label) ∨
        ∃ message now, system.nextMessage label = some message ∧
          message.phandler = some (.session serial) ∧ signal ∈ session.timeouts now)
      (isPost : post ∈ session.stanzas signal) :
      Posted system label ⟨some .queueLayer, post.1, some post.2⟩
  /-- The manager, in reply to a message. -/
  | reply {message post} (isNext : system.nextMessage label = some message)
      (toManager : message.phandler = some .sessionManager) (replies : Replies message post) :
      Posted system label ⟨some .queueLayer, post.1, some post.2⟩
  /-- A call, for its task. -/
  | ask {task} (isIssue : system.issue label = some task) :
      Posted system label ⟨some .queueLayer, task.taskId, some (.reqTask task)⟩
  /-- A call that returns. -/
  | remove {thread step task} (isWait : label = .wait thread step)
      (waits : (system.threads thread).activity = .waiting task) :
      Posted system label ⟨some .queueLayer, task.taskId, some (.removeTask task)⟩
  /-- `ConnectServer`, for a connected session. -/
  | reconnect {thread sessionId address session} (isConnect : label = .connectServer thread)
      (found : system.findSession sessionId = some session) :
      Posted system label ⟨some .queueLayer, StanzaType.resReconnectEvent.code,
        some (.connectData true sessionId address)⟩
  /-- The queue layer, for the manager. -/
  | handOver {message sessionId address} (isNext : system.nextMessage label = some message)
      (toLayer : message.phandler = some .queueLayer)
      (payload : message.pdata = some (.connectData true sessionId address)) :
      Posted system label ⟨some .sessionManager, StanzaType.resReconnectEvent.code,
        some (.connectData true sessionId address)⟩

/-- The queue has got messages that satisfy `posted` and nothing else. -/
def Gets (queue next : SdkQueue) (posted : SdkMessage → Prop) : Prop :=
  ∃ messages, next = { queue with msgq := queue.msgq ++ messages } ∧
    ∀ message ∈ messages, posted message

/-- Nothing is posted. -/
theorem gets_nothing (queue : SdkQueue) (posted : SdkMessage → Prop) : Gets queue queue posted :=
  ⟨[], by simp, List.forall_mem_nil _⟩

/-- A message is posted. -/
theorem gets_post {queue : SdkQueue} (running : queue.fStop = false) {message : SdkMessage}
    {posted : SdkMessage → Prop} (isPosted : posted message) :
    Gets queue (queue.post message) posted :=
  ⟨[message], by simp [MessageQueue.post, running], by simpa using isPosted⟩

/-- Stanzas for the queue layer are posted. -/
theorem gets_postStanzas {queue : SdkQueue} (running : queue.fStop = false)
    {posts : List (UInt32 × Stanza)} {posted : SdkMessage → Prop}
    (isPosted : ∀ post ∈ posts, posted ⟨some .queueLayer, post.1, some post.2⟩) :
    Gets queue (postStanzas queue posts) posted := by
  refine ⟨stanzaMessages posts, postStanzas_running running posts, ?_⟩
  intro message member
  obtain ⟨post, isPost, rfl⟩ := List.mem_map.mp member
  exact isPosted post isPost

/-- What is posted belongs to one of the signals. -/
theorem mem_posts {session : SessionObject} {signals : List Signal} {post : UInt32 × Stanza}
    (member : post ∈ session.posts signals) :
    ∃ signal ∈ signals, post ∈ session.stanzas signal := by
  unfold SessionObject.posts at member
  split at member
  · exact List.mem_flatMap.mp member
  · cases member

/-- Every call, for the queue thread. -/
theorem gets_call (tidy : system.Tidy) (call : CallKind system label next emitted) :
    (∃ sessionId now cmsDelay, label = .resume sessionId now cmsDelay ∧
        next = system.postResume sessionId now cmsDelay) ∨
      Gets system.queueThread next.queueThread (system.Posted label) := by
  have running := tidy.queue.running
  cases call with
  | sync now isIssue => exact .inr (gets_post running (.ask isIssue))
  | post isIssue => exact .inr (gets_post running (.ask isIssue))
  | returns own waits => exact .inr (gets_post running (.remove rfl waits))
  | reconnects connecting found => exact .inr (gets_post running (.reconnect rfl found))
  | goesOn | connected | push | handles | destroy => exact .inr (gets_nothing _ _)
  | resume => exact .inl ⟨_, _, _, rfl, rfl⟩

/-- What the queue layer posts to its own thread. -/
theorem gets_queueLayerOnMessage {base : System} (tidy : base.Tidy) {message : SdkMessage}
    (isNext : system.nextMessage label = some message)
    (toLayer : message.phandler = some .queueLayer) :
    Gets base.queueThread (base.queueLayerOnMessage message).queueThread (system.Posted label) := by
  obtain ⟨messages, gets, reconnects, _⟩ := queue_queueLayerOnMessage tidy message
  refine ⟨messages, gets, fun posted member => ?_⟩
  obtain ⟨sessionId, address, payload, rfl⟩ := reconnects posted member
  exact .handOver isNext toLayer payload

/-- A turn that takes a message. -/
theorem gets_dispatch {base : System} (tidy : base.Tidy)
    (sessions : base.asyncSessions = system.asyncSessions) (now : UInt32) (answer : ConnectAnswer)
    {message : SdkMessage} (isNext : system.nextMessage label = some message) :
    Gets base.queueThread (base.dispatch now answer message).1.queueThread
      (system.Posted label) := by
  unfold dispatch
  split
  · next toLayer => exact gets_queueLayerOnMessage tidy isNext toLayer
  · next toManager =>
      obtain ⟨posts, gets, replies⟩ := posts_sessionManagerOnMessage tidy now answer message
      simp only [gets]
      exact gets_postStanzas tidy.queue.running fun post member =>
        .reply isNext toManager (replies post member)
  · next serial toSession =>
      rcases signals_sessionOnMessage base serial now with ⟨_, same⟩ | ⟨session, found, event⟩
      · simp only [same]
        exact gets_nothing _ _
      · have queue := congrArg System.queueThread event.frame
        simp only at queue ⊢
        rw [queue]
        refine gets_postStanzas tidy.queue.running fun post member => ?_
        obtain ⟨signal, isSignal, isPost⟩ := mem_posts member
        refine .signal ?_ (.inr ⟨message, now, isNext, toSession, isSignal⟩) isPost
        unfold findSerial at found ⊢
        rw [← sessions]
        exact found
  · exact gets_nothing _ _

/-- Every step of the machine, for the queue thread. -/
theorem posted_step (tidy : system.Tidy) (transition : system.step label = some (next, emitted)) :
    (∃ sessionId now cmsDelay, label = .resume sessionId now cmsDelay ∧
        next = system.postResume sessionId now cmsDelay) ∨
      Gets (system.taken label).queueThread next.queueThread (system.Posted label) := by
  have called (isCall : label.turns = false)
      (gets : Gets system.queueThread next.queueThread (system.Posted label)) :
      Gets (system.taken label).queueThread next.queueThread (system.Posted label) := by
    rw [(taken_of_call system isCall).1]
    exact gets
  cases kind_of_step transition with
  | event isEvent found signals =>
      refine .inr (called (turns_of_event isEvent) ?_)
      have queue := congrArg System.queueThread signals.frame
      simp only at queue
      rw [queue]
      refine gets_postStanzas tidy.queue.running fun post member => ?_
      obtain ⟨signal, isSignal, isPost⟩ := mem_posts member
      exact .signal found (.inl ⟨isEvent, isSignal⟩) isPost
  | resume => exact .inl ⟨_, _, _, rfl, rfl⟩
  | idle => exact .inr (gets_nothing _ _)
  | @dispatch _ message now answer isTurn isNext =>
      refine .inr (gets_dispatch ?_ (by rw [taken_eq]) now answer isNext)
      rcases isTurn with rfl | rfl
      · exact tidy_takeQueue tidy now
      · exact tidy_takeAsync tidy now
  | call noTurn noEvent side =>
      have call := callKind_of_step (isCall_of_kind noTurn noEvent) transition
      exact (gets_call tidy call).imp_right (called noTurn)

/-- What is on the queue thread was there, or is posted at once, or is a resume event. -/
theorem mem_queue_step (tidy : system.Tidy)
    (transition : system.step label = some (next, emitted)) {message : SdkMessage}
    (member : message ∈ next.queueThread.contents) :
    message ∈ system.queueThread.contents ∨ system.Posted label message ∨
      ∃ sessionId now cmsDelay, label = .resume sessionId now cmsDelay ∧
        message = ⟨some .queueLayer, sessionId, some (.plain .resumeTask sessionId)⟩ := by
  rcases posted_step tidy transition with ⟨sessionId, now, cmsDelay, isResume, rfl⟩ |
      ⟨messages, gets, posted⟩
  · rcases MessageQueue.mem_contents_postDelayed member with rfl | old
    · exact .inr (.inr ⟨sessionId, now, cmsDelay, isResume, rfl⟩)
    · exact .inl old
  · have inTaken : message ∈ (system.taken label).queueThread.contents →
        message ∈ system.queueThread.contents := by
      unfold taken
      split
      · exact (MessageQueue.getPass_subset _ _ _).1 message
      · exact id
      · exact id
    rw [gets] at member
    simp only [MessageQueue.contents, List.mem_append] at member inTaken ⊢
    rcases member with (peeked | ready | new) | delayed
    · exact .inl (inTaken (.inl (.inl peeked)))
    · exact .inl (inTaken (.inl (.inr ready)))
    · exact .inr (.inl (posted message new))
    · exact .inl (inTaken (.inr delayed))

/-- The message that is taken was on one of the threads. -/
theorem mem_of_next {message : SdkMessage} (isNext : system.nextMessage label = some message) :
    message ∈ system.queueThread.contents ++ system.asyncThread.contents := by
  unfold nextMessage at isNext
  split at isNext
  · simp only at isNext
    split at isNext
    · next found =>
        cases isNext
        exact List.mem_append_left _ ((MessageQueue.getPass_subset _ _ _).2 found)
    · cases isNext
  · simp only at isNext
    split at isNext
    · next found =>
        cases isNext
        exact List.mem_append_right _ ((MessageQueue.getPass_subset _ _ _).2 found)
    · cases isNext
  · cases isNext

/-- A message of the queue layer comes from the queue thread. -/
theorem mem_queue_of_next (tidy : system.Tidy) {message : SdkMessage}
    (isNext : system.nextMessage label = some message)
    (toLayer : message.phandler = some .queueLayer) :
    message ∈ system.queueThread.contents := by
  rcases List.mem_append.mp (mem_of_next isNext) with onQueue | onAsync
  · exact onQueue
  · exact absurd toLayer (tidy.elsewhere message onAsync)

/-- The stanzas of signals and replies are about sessions. -/
theorem stanza_of_signal {session : SessionObject} {signal : Signal} {post : UInt32 × Stanza}
    (isPost : post ∈ session.stanzas signal) :
    (post.1 = session.connectId ∧ ∃ type, post.2 = .plain type session.sessionId ∧
        (type = .connected ∨ type = .removeSession ∨ type = .disconnectedFailure)) ∨
      (post.1 = 0 ∧ ∃ resJson resData origin,
        post.2 = .responseData session.sessionId resJson resData origin) := by
  unfold SessionObject.stanzas at isPost
  split at isPost
  · rw [List.mem_singleton.mp isPost]
    exact .inl ⟨rfl, _, rfl, .inl rfl⟩
  · rcases List.mem_cons.mp isPost with rfl | isLast
    · exact .inl ⟨rfl, _, rfl, .inr (.inl rfl)⟩
    · rw [List.mem_singleton.mp isLast]
      exact .inl ⟨rfl, _, rfl, .inr (.inr rfl)⟩
  · split at isPost
    · rw [List.mem_singleton.mp isPost]
      exact .inr ⟨rfl, _, _, _, rfl⟩
    · cases isPost

/-- What a reply looks like. -/
theorem stanza_of_replies {message : SdkMessage} {post : UInt32 × Stanza}
    (replies : Replies message post) :
    post.1 = message.messageId ∧ ∃ type sessionId, post.2 = .plain type sessionId ∧
      type ≠ .resumeTask := by
  obtain ⟨isId, ⟨sessionId, _, isStanza | isStanza⟩ | ⟨sessionId, _, _, _, _, isStanza |
    ⟨_, isStanza⟩⟩⟩ := replies
  all_goals exact ⟨isId, _, sessionId, isStanza, nofun⟩

/-- Tasks are named by the calls that make them, and by those that return. -/
theorem Posted.task {message : SdkMessage} (posted : system.Posted label message) {task : Task} :
    (message.pdata = some (.reqTask task) → system.issue label = some task) ∧
      (message.pdata = some (.removeTask task) → ∃ thread step, label = .wait thread step ∧
        (system.threads thread).activity = .waiting task) := by
  cases posted with
  | signal found isEvent isPost =>
      rcases stanza_of_signal isPost with ⟨_, _, isPlain, _⟩ | ⟨_, _, _, _, isResponse⟩
      · simp [isPlain]
      · simp [isResponse]
  | reply isNext toManager replies =>
      obtain ⟨_, _, _, isPlain, _⟩ := stanza_of_replies replies
      simp [isPlain]
  | ask isIssue =>
      refine ⟨?_, nofun⟩
      rintro ⟨⟩
      exact isIssue
  | remove isWait waits =>
      refine ⟨nofun, ?_⟩
      rintro ⟨⟩
      exact ⟨_, _, isWait, waits⟩
  | reconnect | handOver => exact ⟨nofun, nofun⟩

/-- The message that asks for a task has the task's id. -/
theorem Posted.messageId_of_reqTask {message : SdkMessage} (posted : system.Posted label message)
    {task : Task} (payload : message.pdata = some (.reqTask task)) :
    message.messageId = task.taskId := by
  cases posted with
  | signal found isEvent isPost =>
      rcases stanza_of_signal isPost with ⟨_, _, isPlain, _⟩ | ⟨_, _, _, _, isResponse⟩
      · simp [isPlain] at payload
      · simp [isResponse] at payload
  | reply isNext toManager replies =>
      obtain ⟨_, _, _, isPlain, _⟩ := stanza_of_replies replies
      simp [isPlain] at payload
  | ask isIssue =>
      cases payload
      rfl
  | remove | reconnect | handOver => cases payload

/-! ## Messages of a kind, in order -/

/-- A kind of messages of the queue layer that are never delayed. -/
structure LayerKind {Kind : Type} (kind : SdkMessage → Option Kind) : Prop where
  lasting : ∀ message, message.messageId = mqidDispose → kind message = none
  toLayer : ∀ message, message.phandler ≠ some .queueLayer → kind message = none
  noResume : ∀ sessionId,
    kind ⟨some .queueLayer, sessionId, some (.plain .resumeTask sessionId)⟩ = none

section LayerKind

variable {Kind : Type} {kind : SdkMessage → Option Kind}

/-- A turn of the queue thread takes the first message of the kind, or none. -/
theorem ready_taken (tidy : system.Tidy) (isKind : LayerKind kind)
    (undelayed : ∀ delayed ∈ system.queueThread.dmsgq, kind delayed.msg = none)
    (label : SystemLabel) :
    system.queueThread.msgq.filterMap kind = ((system.nextMessage label).bind kind).toList ++
        (system.taken label).queueThread.msgq.filterMap kind ∧
      ∀ delayed ∈ (system.taken label).queueThread.dmsgq, kind delayed.msg = none := by
  cases label with
  | queueThread now answer =>
      obtain ⟨first, _, delayed⟩ := MessageQueue.filterMap_getPass isKind.lasting
        system.queueThread now .zero tidy.queue.unpeeked undelayed
      refine ⟨?_, delayed⟩
      simp only [nextMessage, taken]
      rw [first]
      split <;> simp
  | asyncThread now answer =>
      refine ⟨?_, undelayed⟩
      simp only [nextMessage, taken]
      split
      · next found =>
          have elsewhere := tidy.elsewhere _ ((MessageQueue.getPass_subset _ _ _).2 found)
          simp [isKind.toLayer _ elsewhere]
      · simp
  | _ => exact ⟨by simp [nextMessage, taken], undelayed⟩

/-- Every step of the machine, for the messages of the kind: the first one may be taken, and
those that are posted come last. -/
theorem ready_step (tidy : system.Tidy) (isKind : LayerKind kind)
    (undelayed : ∀ delayed ∈ system.queueThread.dmsgq, kind delayed.msg = none)
    (transition : system.step label = some (next, emitted)) :
    ∃ messages : List SdkMessage, (∀ message ∈ messages, system.Posted label message) ∧
      system.queueThread.msgq.filterMap kind ++ messages.filterMap kind =
        ((system.nextMessage label).bind kind).toList ++ next.queueThread.msgq.filterMap kind ∧
      ∀ delayed ∈ next.queueThread.dmsgq, kind delayed.msg = none := by
  obtain ⟨first, left⟩ := ready_taken tidy isKind undelayed label
  rcases posted_step tidy transition with ⟨sessionId, now, cmsDelay, rfl, rfl⟩ |
      ⟨messages, gets, posted⟩
  · obtain ⟨_, ready, delayed⟩ := MessageQueue.postDelayed_eq system.queueThread now cmsDelay
      ⟨some .queueLayer, sessionId, some (.plain .resumeTask sessionId)⟩
    refine ⟨[], List.forall_mem_nil _, ?_, ?_⟩
    · simp [postResume, ready, nextMessage]
    · intro message member
      rcases delayed message member with old | isResume
      · exact undelayed message old
      · rw [isResume]
        exact isKind.noResume sessionId
  · refine ⟨messages, posted, ?_, ?_⟩
    · rw [gets, first, List.filterMap_append, List.append_assoc]
    · rw [gets]
      exact left

end LayerKind

/-- The notices are messages for the queue layer. -/
theorem layerKind_notice : LayerKind notice where
  lasting := notice_of_dispose
  toLayer message elsewhere := by simp [notice, elsewhere]
  noResume sessionId := notice_of_dull rfl

/-- A dispose message is not handed out. -/
theorem lasting_of_next (tidy : system.Tidy) {message : SdkMessage}
    (isNext : system.nextMessage label = some message)
    (toLayer : message.phandler = some .queueLayer) : message.messageId ≠ mqidDispose := by
  cases label with
  | queueThread now answer =>
      simp only [nextMessage] at isNext
      split at isNext
      · next found =>
          cases isNext
          obtain ⟨ready, left, _, _, taken, isFound⟩ :=
            MessageQueue.getPass_unpeeked system.queueThread now .zero tidy.queue.unpeeked
          rw [isFound] at found
          rw [taken]
          exact MessageQueue.pull_lasting found
      · cases isNext
  | asyncThread now answer =>
      simp only [nextMessage] at isNext
      split at isNext
      · next found =>
          cases isNext
          exact absurd toLayer (tidy.elsewhere _ ((MessageQueue.getPass_subset _ _ _).2 found))
      · cases isNext
  | _ => cases isNext

/-- The call puts its task on the queue thread. -/
theorem queue_issue (tidy : system.Tidy) {task : Task} (isIssue : system.issue label = some task)
    (transition : system.step label = some (next, emitted)) :
    next.queueThread = { system.queueThread with
      msgq := system.queueThread.msgq ++
        [⟨some .queueLayer, task.taskId, some (.reqTask task)⟩] } := by
  have asks (other : Task) (isOther : system.issue label = some other) :
      (system.issuing other).queueThread = { system.queueThread with
        msgq := system.queueThread.msgq ++
          [⟨some .queueLayer, task.taskId, some (.reqTask task)⟩] } := by
    rw [isIssue] at isOther
    cases isOther
    simp [issuing, postQueue, MessageQueue.post, tidy.queue.running]
  cases callKind_of_step (isCall_of_issue isIssue) transition with
  | sync now isOther => exact asks _ isOther
  | post isOther => exact asks _ isOther
  | handles isHandle => rcases isHandle with rfl | rfl <;> cases isIssue
  | _ => cases isIssue

/-- What is on the asynchronous thread was there, or is posted by one of the layers, or is
a timer. -/
theorem mem_async_step (transition : system.step label = some (next, emitted))
    {message : SdkMessage} (member : message ∈ next.asyncThread.contents) :
    message ∈ system.asyncThread.contents ∨
      message ∈ system.forwards label ++ system.reposts label ∨
        ∃ serial, message = timerMessage serial := by
  refine ((async_step transition).contents message member).imp_left ?_
  unfold taken
  split
  · exact id
  · exact (MessageQueue.getPass_subset _ _ _).1 message
  · exact id

/-! ## Counters and tables -/

/-- The queue layer changes the tasks and the threads, and has sessions removed. -/
theorem frame_queueLayerOnMessage (system : System) (message : SdkMessage) :
    (system.queueLayerOnMessage message) = { system with
      queueThread := (system.queueLayerOnMessage message).queueThread
      asyncThread := (system.queueLayerOnMessage message).asyncThread
      tasks := (system.queueLayerOnMessage message).tasks
      pushRegistered := (system.queueLayerOnMessage message).pushRegistered
      asyncSessions := (system.queueLayerOnMessage message).asyncSessions
      threads := (system.queueLayerOnMessage message).threads
      failed := (system.queueLayerOnMessage message).failed } := by
  unfold queueLayerOnMessage
  split
  · split <;> rfl
  · rfl
  · unfold removeSession
    split <;> rfl
  · rfl
  · rfl
  · rw [frame_onTranslateToSyncLayer]
  · rw [frame_onTranslateToSyncLayer]
  · rfl

/-- A turn neither makes tasks nor changes the push task. -/
theorem taskCounter_dispatch (base : System) (now : UInt32) (answer : ConnectAnswer)
    (message : SdkMessage) :
    (base.dispatch now answer message).1.taskCounter = base.taskCounter ∧
      (base.dispatch now answer message).1.pushManager = base.pushManager := by
  by_cases toLayer : message.phandler = some .queueLayer
  · unfold dispatch
    rw [toLayer]
    simp only
    rw [frame_queueLayerOnMessage]
    exact ⟨rfl, rfl⟩
  · have side := sessionSide_dispatch base now answer toLayer
    exact ⟨side.taskCounter, side.pushManager⟩

/-- The threads of the SDK issue no tasks. -/
theorem issue_of_turns (isTurn : label.turns = true) : system.issue label = none := by
  cases label <;> first | rfl | cases isTurn

/-- Events of sockets issue no tasks. -/
theorem issue_of_event {serial : Nat} (isEvent : label.eventSerial = some serial) :
    system.issue label = none := by
  cases label <;> first | rfl | cases isEvent

/-- Every call, for the counter of tasks. -/
theorem taskCounter_call (call : CallKind system label next emitted) :
    next.taskCounter = system.taskCounter + (if (system.issue label).isSome then 1 else 0) ∧
      next.pushManager.taskId = system.pushManager.taskId := by
  have issuing {task : Task} (isIssue : system.issue label = some task) :
      task.taskId = system.taskCounter + (if (system.issue label).isSome then 1 else 0) := by
    rw [isIssue]
    exact (taskId_of_issue isIssue).1
  cases call with
  | sync now isIssue => exact ⟨issuing isIssue, rfl⟩
  | post isIssue => exact ⟨issuing isIssue, rfl⟩
  | handles isHandle sameId =>
      rcases isHandle with rfl | rfl
      · exact ⟨(UInt32.add_zero _).symm, sameId⟩
      · exact ⟨(UInt32.add_zero _).symm, sameId⟩
  | goesOn | returns | connected | reconnects | push | resume | destroy =>
      exact ⟨(UInt32.add_zero _).symm, rfl⟩

/-- Task ids are given out one by one, and the push task keeps its own. -/
theorem taskCounter_step (transition : system.step label = some (next, emitted)) :
    next.taskCounter = system.taskCounter + (if (system.issue label).isSome then 1 else 0) ∧
      next.pushManager.taskId = system.pushManager.taskId := by
  have same (noIssue : system.issue label = none) (counter : next.taskCounter = system.taskCounter)
      (manager : next.pushManager = system.pushManager) :
      next.taskCounter = system.taskCounter + (if (system.issue label).isSome then 1 else 0) ∧
        next.pushManager.taskId = system.pushManager.taskId := by
    simp [noIssue, counter, manager]
  have turn (taken : System) (isTaken : taken = system.taken label) :
      taken.taskCounter = system.taskCounter ∧ taken.pushManager = system.pushManager := by
    rw [isTaken, taken_eq]
    exact ⟨rfl, rfl⟩
  cases kind_of_step transition with
  | event isEvent found signals =>
      exact same (issue_of_event isEvent) signals.sessionSide.taskCounter
        signals.sessionSide.pushManager
  | resume => exact same rfl rfl rfl
  | idle isTurn nothing =>
      exact same (issue_of_turns isTurn) (turn _ rfl).1 (turn _ rfl).2
  | @dispatch _ message now answer isTurn isNext =>
      have kept := taskCounter_dispatch (system.taken label) now answer message
      have noIssue : system.issue label = none := by rcases isTurn with rfl | rfl <;> rfl
      exact same noIssue (kept.1.trans (turn _ rfl).1) (kept.2.trans (turn _ rfl).2)
  | call noTurn noEvent side =>
      exact taskCounter_call (callKind_of_step (isCall_of_kind noTurn noEvent) transition)

/-- The queue layer registers the task it is asked for, and removes the one it is told to. -/
theorem tasks_queueLayerOnMessage {message : SdkMessage} {entry : UInt32 × Task}
    (member : entry ∈ (system.queueLayerOnMessage message).tasks.entries) :
    (entry ∈ system.tasks.entries ∧
        ∀ task, message.pdata = some (.removeTask task) → entry.1 ≠ task.taskId) ∨
      ∃ task, message.pdata = some (.reqTask task) ∧ task.data ≠ .pushManager ∧
        entry = (task.taskId, task) := by
  unfold queueLayerOnMessage at member
  split at member
  · next task payload =>
      split at member
      · exact .inl ⟨member, by simp [payload]⟩
      · next isTask =>
          rcases OrderedMap.mem_insertEntry member with rfl | old
          · exact .inr ⟨task, payload, isTask, rfl⟩
          · exact .inl ⟨old, by simp [payload]⟩
  · next task payload =>
      obtain ⟨old, differ⟩ := OrderedMap.mem_erase.mp member
      refine .inl ⟨old, fun other isOther => ?_⟩
      rw [payload] at isOther
      cases isOther
      exact differ
  · next payload =>
      rw [(sessionSide_removeSession system _).tasks] at member
      exact .inl ⟨member, by simp [payload]⟩
  · next payload => exact .inl ⟨member, by simp [payload]⟩
  · next payload => exact .inl ⟨member, by simp [payload]⟩
  · next payload =>
      rw [frame_onTranslateToSyncLayer] at member
      exact .inl ⟨member, by simp [payload]⟩
  · next payload =>
      rw [frame_onTranslateToSyncLayer] at member
      exact .inl ⟨member, by simp [payload]⟩
  · next noRemove _ _ _ _ _ =>
      exact .inl ⟨member, fun task payload => absurd payload (noRemove task)⟩

/-- Every step of the machine, for the registered tasks. -/
theorem tasks_step (transition : system.step label = some (next, emitted)) :
    ∀ entry ∈ next.tasks.entries,
      (entry ∈ system.tasks.entries ∧ ∀ message task, system.nextMessage label = some message →
        message.phandler = some .queueLayer → message.pdata = some (.removeTask task) →
          entry.1 ≠ task.taskId) ∨
      ∃ message task, system.nextMessage label = some message ∧
        message.phandler = some .queueLayer ∧ message.pdata = some (.reqTask task) ∧
          task.data ≠ .pushManager ∧ entry = (task.taskId, task) := by
  intro entry member
  have called (isCall : label.turns = false) (tasks : next.tasks = system.tasks) :
      entry ∈ system.tasks.entries ∧ ∀ message task, system.nextMessage label = some message →
        message.phandler = some .queueLayer → message.pdata = some (.removeTask task) →
          entry.1 ≠ task.taskId := by
    refine ⟨tasks ▸ member, fun message task isNext => ?_⟩
    rw [(taken_of_call system isCall).2] at isNext
    cases isNext
  cases kind_of_step transition with
  | event isEvent found signals =>
      exact .inl (called (turns_of_event isEvent) signals.sessionSide.tasks)
  | resume => exact .inl (called rfl rfl)
  | idle isTurn nothing =>
      rw [taken_eq] at member
      exact .inl ⟨member, fun message task isNext => by rw [nothing] at isNext; cases isNext⟩
  | call isCall noEvent side =>
      refine .inl (called isCall ?_)
      rw [side.frame]
  | @dispatch _ message now answer isTurn isNext =>
      have tasks : (system.taken label).tasks = system.tasks := by rw [taken_eq]
      by_cases toLayer : message.phandler = some .queueLayer
      · unfold dispatch at member
        rw [toLayer] at member
        rcases tasks_queueLayerOnMessage member with ⟨old, differ⟩ | ⟨task, payload, isTask, rfl⟩
        · refine .inl ⟨tasks ▸ old, fun other task isOther _ payload => ?_⟩
          rw [isNext] at isOther
          cases isOther
          exact differ task payload
        · exact .inr ⟨message, task, isNext, toLayer, payload, isTask, rfl⟩
      · rw [(sessionSide_dispatch _ now answer toLayer).tasks, tasks] at member
        refine .inl ⟨member, fun other task isOther isLayer => ?_⟩
        rw [isNext] at isOther
        cases isOther
        exact absurd isLayer toLayer

/-- A session the label's turn opens. -/
def Opened (system : System) (label : SystemLabel) (entry : UInt32 × SessionObject) : Prop :=
  ∃ message requested connectId answer, system.nextMessage label = some message ∧
    message.phandler = some .sessionManager ∧ system.Opens message requested connectId ∧
    system.findSession (system.constructedId requested) = none ∧
    entry = (system.constructedId requested, system.openedSession requested connectId answer)

/-- Every step of the machine, for the table of sessions. -/
theorem table_step (tidy : system.Tidy) (transition : system.step label = some (next, emitted)) :
    ∀ entry ∈ next.asyncSessions.entries, system.Stays entry ∨ system.Opened label entry := by
  intro entry member
  cases kind_of_step transition with
  | event isEvent found signals => exact .inl (stays_of_retouched signals.sessions member)
  | resume => exact .inl (stays_of_mem member)
  | idle =>
      rw [taken_eq] at member
      exact .inl (stays_of_mem member)
  | call isCall noEvent side =>
      rw [side.frame] at member
      exact .inl (stays_of_mem member)
  | @dispatch _ message now answer isTurn isNext =>
      have tidyTaken : (system.taken label).Tidy := by
        rcases isTurn with rfl | rfl
        · exact tidy_takeQueue tidy now
        · exact tidy_takeAsync tidy now
      have sessions : (system.taken label).asyncSessions = system.asyncSessions := by rw [taken_eq]
      have stays (stays : (system.taken label).Stays entry) : system.Stays entry := by
        rwa [Stays, sessions] at stays
      unfold dispatch at member
      split at member
      · exact .inl (stays (stays_of_mem
          ((queue_queueLayerOnMessage tidyTaken message).choose_spec.2.2 entry member)))
      · next toManager =>
          rcases stays_sessionManagerOnMessage tidyTaken member with old | ⟨requested, connectId,
            opens, absent, isNew⟩
          · exact .inl (stays old)
          · refine .inr ⟨message, requested, connectId, answer, isNext, toManager, ?_⟩
            rw [taken_eq] at opens absent isNew
            exact ⟨opens, absent, isNew⟩
      · next serial _ =>
          rcases signals_sessionOnMessage (system.taken label) serial now with
            ⟨_, same⟩ | ⟨session, _, event⟩
          · simp only [same] at member
            exact .inl (stays (stays_of_mem member))
          · exact .inl (stays (stays_of_retouched event.sessions member))
      · exact .inl (stays (stays_of_mem member))

/-- The id of a connect message for the manager. -/
def connectMessage (message : SdkMessage) : Option UInt32 :=
  match message.phandler, message.pdata with
  | some .sessionManager, some (.connectData false _ _) => some message.messageId
  | _, _ => none

/-- The id of the connect message that the label's turn has the manager handle. -/
def connects (system : System) (label : SystemLabel) : Option UInt32 :=
  (system.nextMessage label).bind connectMessage

/-- A session without an id takes the next one. -/
theorem sessionCounter_openSession (system : System) (requested connectId : UInt32)
    (answer : ConnectAnswer) :
    (system.openSession requested connectId answer).1.sessionCounter =
      system.sessionCounter + (if requested = 0 then 1 else 0) := by
  unfold openSession newSession addSession updateSession
  by_cases fresh : requested = 0
  · simp only [fresh, if_true]
    split <;> rfl
  · simp only [fresh, if_false]
    split <;> simp

/-- Removing a session numbers none. -/
theorem sessionCounter_removeSession (system : System) (sessionId : UInt32) :
    (system.removeSession sessionId).sessionCounter = system.sessionCounter := by
  unfold removeSession
  split <;> rfl

/-- The manager numbers the session of a connect and no other. -/
theorem sessionCounter_sessionManagerOnMessage (system : System) (now : UInt32)
    (answer : ConnectAnswer) {message : SdkMessage}
    (toManager : message.phandler = some .sessionManager)
    (noZero : ∀ sessionId address, message.pdata = some (.connectData true sessionId address) →
      sessionId ≠ 0) :
    (system.sessionManagerOnMessage now answer message).1.sessionCounter =
      system.sessionCounter + (if (connectMessage message).isSome then 1 else 0) := by
  unfold sessionManagerOnMessage connectMessage
  simp only [toManager]
  split
  · next sessionId address payload =>
      simp only [payload, Option.isSome_none, Bool.false_eq_true, if_false]
      unfold onReconnectMessage
      simp only
      split
      · rw [sessionCounter_openSession, if_neg (noZero sessionId address payload)]
      · simp
  · next payload =>
      simp only [payload, Option.isSome_some, if_true]
      exact sessionCounter_openSession _ _ _ _
  · next payload =>
      simp only [payload, Option.isSome_none, Bool.false_eq_true, if_false, UInt32.add_zero]
      unfold onDisconnectMessage
      split
      · exact sessionCounter_removeSession _ _
      · rfl
  · next payload =>
      simp only [payload, Option.isSome_none, Bool.false_eq_true, if_false, UInt32.add_zero]
      unfold onRequestMessage
      split
      · simp only
        split <;> rfl
      · rfl
  · next payload =>
      simp only [payload, Option.isSome_none, Bool.false_eq_true, if_false, UInt32.add_zero]
      exact sessionCounter_removeSession _ _
  · next noConnect _ _ _ =>
      split
      · next payload => exact absurd payload (noConnect _ _)
      · simp

/-- Session ids are given out one by one, to connect messages. -/
theorem sessionCounter_step (transition : system.step label = some (next, emitted))
    (noZero : ∀ message sessionId address, system.nextMessage label = some message →
      message.phandler = some .sessionManager →
        message.pdata = some (.connectData true sessionId address) → sessionId ≠ 0) :
    next.sessionCounter =
      system.sessionCounter + (if (system.connects label).isSome then 1 else 0) := by
  have called (isCall : label.turns = false) (same : next.sessionCounter = system.sessionCounter) :
      next.sessionCounter =
        system.sessionCounter + (if (system.connects label).isSome then 1 else 0) := by
    simp [connects, (taken_of_call system isCall).2, same]
  cases kind_of_step transition with
  | event isEvent found signals =>
      refine called (turns_of_event isEvent) ?_
      rw [signals.frame]
  | resume => exact called rfl rfl
  | idle isTurn nothing =>
      rw [taken_eq]
      simp [connects, nothing]
  | call isCall noEvent side =>
      refine called isCall ?_
      rw [side.frame]
  | @dispatch _ message now answer isTurn isNext =>
      have counter : (system.taken label).sessionCounter = system.sessionCounter := by rw [taken_eq]
      simp only [connects, isNext, Option.bind_some]
      unfold dispatch
      split
      · next toLayer =>
          simp only
          rw [frame_queueLayerOnMessage]
          simp [connectMessage, toLayer, counter]
      · next toManager =>
          rw [sessionCounter_sessionManagerOnMessage _ now answer toManager
            fun sessionId address => noZero message sessionId address isNext toManager, counter]
      · next serial toSession =>
          simp only [connectMessage, toSession, Option.isSome_none, Bool.false_eq_true, if_false,
            UInt32.add_zero]
          rcases signals_sessionOnMessage (system.taken label) serial now with
            ⟨_, same⟩ | ⟨session, _, event⟩
          · rw [same, counter]
          · rw [event.frame, counter]
      · next noManager _ =>
          have none : connectMessage message = none := by
            unfold connectMessage
            split
            · next toManager _ => exact absurd toManager noManager
            · rfl
          simp [none, counter]

end System

end VzSdk.Sdk
