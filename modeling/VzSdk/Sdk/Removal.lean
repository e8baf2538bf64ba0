import VzSdk.Sdk.Steps

/-!
# Removals and the objects they are for

When a connection closes, its session posts a removal to the queue thread. The
removal names the session's id and not the object, and a reconnect registers a
new object under the same id. `noteClosers` records beside the run which object
each queued removal is for, and `removal_spares_others` says in which runs no
removal takes an object other than that one.
-/

namespace VzSdk.Sdk

open VzSdk.Base VzSdk.Event VzSdk.Std

/-- The session that a message asks the queue layer to remove. -/
def removal (message : SdkMessage) : Option UInt32 :=
  match message.pdata with
  | some (.plain .removeSession sessionId) =>
      if message.phandler = some .queueLayer ∧ message.messageId ≠ mqidDispose then some sessionId
      else none
  | _ => none

/-- A message that disposes of data removes no session. -/
theorem removal_of_dispose (message : SdkMessage) (dispose : message.messageId = mqidDispose) :
    removal message = none := by
  unfold removal
  split
  · simp [dispose]
  · rfl

/-- What a message must be to remove a session. -/
theorem removal_eq_some {message : SdkMessage} {sessionId : UInt32}
    (isRemoval : removal message = some sessionId) :
    message.phandler = some .queueLayer ∧
      message.pdata = some (.plain .removeSession sessionId) := by
  unfold removal at isRemoval
  split at isRemoval
  · next payload =>
      split at isRemoval
      · next handed =>
          cases isRemoval
          exact ⟨handed.1, payload⟩
      · cases isRemoval
  · cases isRemoval

/-- A session object and the id it is registered under. -/
structure Closer where
  serial : Nat
  sessionId : UInt32
deriving DecidableEq, Repr

/-- The removals that signals of the session post, each for this object. -/
def SessionObject.closers (session : SessionObject) (signals : List Signal) : List Closer :=
  ((stanzaMessages (session.posts signals)).filterMap removal).map (⟨session.serial, ·⟩)

/-- The messages of a session are for the queue layer. -/
theorem phandler_of_mem_stanzaMessages {posts : List (UInt32 × Stanza)} {message : SdkMessage}
    (member : message ∈ stanzaMessages posts) : message.phandler = some .queueLayer := by
  obtain ⟨post, _, rfl⟩ := List.mem_map.mp member
  rfl

/-- A session posts removals of itself only. -/
theorem SessionObject.eq_of_mem_closers {session : SessionObject} {signals : List Signal}
    {closer : Closer} (member : closer ∈ session.closers signals) :
    closer = ⟨session.serial, session.sessionId⟩ := by
  obtain ⟨sessionId, isRemoval, rfl⟩ := List.mem_map.mp member
  obtain ⟨message, isMessage, isRemoval⟩ := List.mem_filterMap.mp isRemoval
  obtain ⟨post, isPost, rfl⟩ := List.mem_map.mp isMessage
  have payload := (removal_eq_some isRemoval).2
  rw [posts] at isPost
  split at isPost
  · obtain ⟨signal, _, isPost⟩ := List.mem_flatMap.mp isPost
    cases signal with
    | connected =>
        cases List.mem_singleton.mp isPost
        cases payload
    | closed =>
        rcases List.mem_cons.mp isPost with rfl | isPost
        · cases payload
          rfl
        · cases List.mem_singleton.mp isPost
          cases payload
    | packet answer =>
        unfold stanzas at isPost
        simp only at isPost
        split at isPost
        · cases List.mem_singleton.mp isPost
          cases payload
        · cases isPost
  · cases isPost

namespace System

/-- The removals on the queue thread's ready list, in order. -/
def removals (system : System) : List UInt32 := system.queueThread.msgq.filterMap removal

/-- The session whose timer the label dispatches. -/
def timerSession (system : System) (label : SystemLabel) : Option SessionObject :=
  match system.nextMessage label with
  | some ⟨some (.session serial), _, _⟩ => system.findSerial serial
  | _ => none

/-- The removals that a step posts. -/
def newClosers (system : System) : SystemLabel → List Closer
  | .asyncThread now answer =>
      match system.timerSession (.asyncThread now answer) with
      | some session => session.closers (session.timeouts now)
      | none => []
  | label =>
      match label.eventSerial.bind system.findSerial with
      | some session => session.closers (session.signals label)
      | none => []

/-- The label lets the queue thread take a removal of the session. -/
def removes (system : System) : SystemLabel → Option UInt32
  | .queueThread now answer => (system.nextMessage (.queueThread now answer)).bind removal
  | _ => none

end System

/-- The objects that the queued removals are for, in the order of the queue. -/
def noteClosers (closers : List Closer) (system : System) (label : SystemLabel) (_ : System) :
    List Closer :=
  (if (system.removes label).isSome then closers.tail else closers) ++ system.newClosers label

/-- The machine of the SDK with a record of the objects that have closed. -/
def removalMachine : Machine (System × List Closer) SystemLabel SystemOutput :=
  sdkMachine.watch noteClosers

namespace System

/-- If the step executes a removal, the removal was posted for an object whose record is
next, and every other object stays in the table. -/
def RemovesOwn (watched : System × List Closer) (label : SystemLabel) : Prop :=
  ∀ sessionId next emitted, watched.1.removes label = some sessionId →
    watched.1.step label = some (next, emitted) →
      ∃ closer ∈ watched.2.head?, closer.sessionId = sessionId ∧
        ∀ entry ∈ watched.1.asyncSessions.entries, entry.2.serial ≠ closer.serial →
          entry ∈ next.asyncSessions.entries

/-- The step inserts no session under an id whose removal is queued. -/
def NoneInsertedAhead (system : System) (label : SystemLabel) : Prop :=
  ∀ message requested connectId, system.nextMessage label = some message →
    message.phandler = some .sessionManager → system.Opens message requested connectId →
      system.findSession (system.constructedId requested) = none →
        system.constructedId requested ∉ system.removals

/-- The record is the queue's, and nobody but the closed object is registered under the id
of a queued removal. -/
structure Attributed (system : System) (closers : List Closer) : Prop where
  tidy : system.Tidy
  queued : system.removals = closers.map (·.sessionId)
  undelayed : ∀ delayed ∈ system.queueThread.dmsgq, removal delayed.msg = none
  timerless : ∀ message ∈ system.queueThread.contents, ∀ serial,
    message.phandler ≠ some (.session serial)
  own : ∀ closer ∈ closers, ∀ entry ∈ system.asyncSessions.entries,
    entry.1 = closer.sessionId → entry.2.serial = closer.serial

variable {system next : System} {closers : List Closer}

/-- What every change keeps: messages are put at the end of the queue, removals among them
come with their objects, and objects stay, go, or come under ids that no removal names. -/
theorem Attributed.transfer (attributed : system.Attributed closers) (tidy : next.Tidy)
    {messages : List SdkMessage} {new : List Closer}
    (queue : next.queueThread =
      { system.queueThread with msgq := system.queueThread.msgq ++ messages })
    (timerless : ∀ message ∈ messages, ∀ serial, message.phandler ≠ some (.session serial))
    (posted : messages.filterMap removal = new.map (·.sessionId))
    (table : ∀ entry ∈ next.asyncSessions.entries,
      system.Stays entry ∨ entry.1 ∉ system.removals)
    (own : ∀ closer ∈ new, ∀ entry ∈ next.asyncSessions.entries,
      entry.1 = closer.sessionId → entry.2.serial = closer.serial) :
    next.Attributed (closers ++ new) where
  tidy := tidy
  queued := by
    rw [removals, queue, List.filterMap_append, posted, List.map_append, ← attributed.queued]
    rfl
  undelayed := by
    rw [queue]
    exact attributed.undelayed
  timerless := by
    intro message member
    simp only [MessageQueue.contents, queue, List.mem_append] at member
    rcases member with (peeked | ready | posted) | delayed
    · exact attributed.timerless message (by simp [MessageQueue.contents, peeked])
    · exact attributed.timerless message (by simp [MessageQueue.contents, ready])
    · exact timerless message posted
    · exact attributed.timerless message (List.mem_append_right _ delayed)
  own := by
    intro closer member entry inTable sameId
    rcases List.mem_append.mp member with before | isNew
    · rcases table entry inTable with ⟨old, was, sameKey, same⟩ | unnamed
      · rw [same.serial]
        exact attributed.own closer before old was (sameKey.trans sameId)
      · refine absurd ?_ unnamed
        rw [attributed.queued, sameId]
        exact List.mem_map_of_mem before
    · exact own closer isNew entry inTable sameId

/-- A change that posts no removal. -/
theorem Attributed.keep (attributed : system.Attributed closers) (tidy : next.Tidy)
    {messages : List SdkMessage}
    (queue : next.queueThread =
      { system.queueThread with msgq := system.queueThread.msgq ++ messages })
    (timerless : ∀ message ∈ messages, ∀ serial, message.phandler ≠ some (.session serial))
    (posted : ∀ message ∈ messages, removal message = none)
    (table : ∀ entry ∈ next.asyncSessions.entries,
      system.Stays entry ∨ entry.1 ∉ system.removals) : next.Attributed closers := by
  have nothing : messages.filterMap removal = ([] : List Closer).map (·.sessionId) :=
    List.filterMap_eq_nil_iff.mpr posted
  have kept := attributed.transfer tidy queue timerless nothing table (List.forall_mem_nil _)
  rwa [List.append_nil] at kept

/-- A session that closes is the one registered under its id. -/
theorem attributed_signals (attributed : system.Attributed closers) (tidy : next.Tidy)
    {serial : Nat} {session : SessionObject} {signals : List Signal}
    (found : system.findSerial serial = some session)
    (event : Signals system next session signals) :
    next.Attributed (closers ++ session.closers signals) := by
  have posted := congrArg System.queueThread event.frame
  simp only [postStanzas_running attributed.tidy.queue.running] at posted
  obtain ⟨isSerial, registered, _⟩ := attributed.tidy.eq_of_findSerial found
  refine attributed.transfer tidy posted ?_ ?_ ?_ ?_
  · intro message member serial
    rw [phandler_of_mem_stanzaMessages member]
    exact nofun
  · simp [SessionObject.closers, Function.comp_def]
  · exact fun entry member => .inl (stays_of_retouched event.sessions member)
  · intro closer isNew entry member sameId
    cases SessionObject.eq_of_mem_closers isNew
    obtain ⟨old, was, sameKey, same⟩ := stays_of_retouched event.sessions member
    have isSession : old.2 = session := by
      have first := OrderedMap.find?_of_mem registered
      have second := OrderedMap.find?_of_mem (show (old.1, old.2) ∈ _ from was)
      rw [sameKey, sameId, first] at second
      exact (Option.some.inj second).symm
    rw [same.serial, isSession]

/-- What the manager does can be attributed when no id is inserted ahead. -/
theorem attributed_sessionManagerOnMessage (attributed : system.Attributed closers) {now : UInt32}
    {answer : ConnectAnswer} {message : SdkMessage}
    (fresh : ∀ requested connectId, system.Opens message requested connectId →
      system.findSession (system.constructedId requested) = none →
        system.constructedId requested ∉ system.removals) :
    (system.sessionManagerOnMessage now answer message).1.Attributed closers := by
  obtain ⟨posts, queue, replies⟩ :=
    posts_sessionManagerOnMessage attributed.tidy now answer message
  rw [postStanzas_running attributed.tidy.queue.running] at queue
  refine attributed.keep (tidy_sessionManagerOnMessage attributed.tidy now answer message) queue
    ?_ ?_ ?_
  · intro message member serial
    rw [phandler_of_mem_stanzaMessages member]
    exact nofun
  · intro message member
    obtain ⟨post, isPost, rfl⟩ := List.mem_map.mp member
    obtain ⟨_, ⟨_, _, isReply | isReply⟩ | ⟨_, _, _, _, _, isReply | ⟨_, isReply⟩⟩⟩ :=
      replies post isPost
    all_goals simp [removal, isReply]
  · intro entry member
    rcases stays_sessionManagerOnMessage attributed.tidy member with
      stays | ⟨requested, connectId, opens, absent, rfl⟩
    · exact .inl stays
    · exact .inr (fresh requested connectId opens absent)

/-- The queue layer removes sessions and puts reconnect messages on its queue. -/
theorem attributed_queueLayerOnMessage (attributed : system.Attributed closers)
    (message : SdkMessage) : (system.queueLayerOnMessage message).Attributed closers := by
  obtain ⟨messages, queue, reconnects, table⟩ :=
    queue_queueLayerOnMessage attributed.tidy message
  refine attributed.keep (tidy_queueLayerOnMessage attributed.tidy message) queue ?_ ?_
    fun entry member => .inl (stays_of_mem (table entry member))
  · intro posted member serial
    obtain ⟨_, _, _, rfl⟩ := reconnects posted member
    exact nofun
  · intro posted member
    obtain ⟨_, _, _, rfl⟩ := reconnects posted member
    rfl

/-- Taking a message takes the record of a removal with it. -/
theorem attributed_takeQueue (attributed : system.Attributed closers) (now : UInt32)
    (answer : ConnectAnswer) :
    (∀ sessionId, system.removes (.queueThread now answer) = some sessionId →
        ∃ closer ∈ closers.head?, closer.sessionId = sessionId) ∧
      (system.taken (.queueThread now answer)).Attributed
        (if (system.removes (.queueThread now answer)).isSome then closers.tail else closers) := by
  obtain ⟨first, _, undelayed⟩ := MessageQueue.filterMap_getPass removal_of_dispose
    system.queueThread now .zero attributed.tidy.queue.unpeeked attributed.undelayed
  have first : closers.map (·.sessionId) =
      (system.removes (.queueThread now answer)).toList ++
        (system.taken (.queueThread now answer)).removals := by
    rw [← attributed.queued, removals, first]
    simp only [removes, nextMessage, taken, removals]
    split <;> simp
  have base {rest : List Closer} (queued : (system.taken (.queueThread now answer)).removals =
        rest.map (·.sessionId)) (subset : ∀ closer ∈ rest, closer ∈ closers) :
      (system.taken (.queueThread now answer)).Attributed rest := by
    refine ⟨tidy_takeQueue attributed.tidy now, queued, undelayed, ?_, ?_⟩
    · intro message member
      exact attributed.timerless message ((MessageQueue.getPass_subset _ _ _).1 message member)
    · exact fun closer member => attributed.own closer (subset closer member)
  cases isRemoval : system.removes (.queueThread now answer) with
  | none =>
      rw [isRemoval] at first
      exact ⟨by simp, base first.symm fun _ member => member⟩
  | some sessionId =>
      rw [isRemoval] at first
      cases closers with
      | nil => cases first
      | cons closer rest =>
          obtain ⟨same, others⟩ := List.cons.inj first
          refine ⟨?_, base others.symm fun _ member => List.mem_cons_of_mem _ member⟩
          rintro _ ⟨⟩
          exact ⟨closer, rfl, same⟩

/-- Taking a message from the queue can be attributed. -/
theorem attributed_takeAsync (attributed : system.Attributed closers) (now : UInt32)
    (answer : ConnectAnswer) : (system.taken (.asyncThread now answer)).Attributed closers where
  tidy := tidy_takeAsync attributed.tidy now
  queued := attributed.queued
  undelayed := attributed.undelayed
  timerless := attributed.timerless
  own := attributed.own

/-- What a turn dispatches after taking its message. -/
theorem attributed_dispatch (attributed : system.Attributed closers) {now : UInt32}
    {answer : ConnectAnswer} (message : SdkMessage)
    (fresh : message.phandler = some .sessionManager → ∀ requested connectId,
      system.Opens message requested connectId →
        system.findSession (system.constructedId requested) = none →
          system.constructedId requested ∉ system.removals)
    {new : List Closer}
    (timer : ∀ serial, message.phandler = some (.session serial) →
      new = match system.findSerial serial with
        | some session => session.closers (session.timeouts now)
        | none => [])
    (noTimer : (∀ serial, message.phandler ≠ some (.session serial)) → new = []) :
    (system.dispatch now answer message).1.Attributed (closers ++ new) := by
  have tidy := tidy_dispatch attributed.tidy now answer message
  unfold dispatch at tidy ⊢
  split
  · next toQueueLayer =>
      rw [noTimer (by simp [toQueueLayer]), List.append_nil]
      exact attributed_queueLayerOnMessage attributed message
  · next toManager =>
      rw [noTimer (by simp [toManager]), List.append_nil]
      exact attributed_sessionManagerOnMessage attributed (fresh toManager)
  · next serial toSession =>
      rw [timer serial toSession]
      simp only [toSession] at tidy
      rcases signals_sessionOnMessage system serial now with ⟨absent, same⟩ | ⟨session, found, event⟩
      · simp only [absent, same, List.append_nil]
        exact attributed
      · simp only [found]
        exact attributed_signals attributed tidy found event
  · next _ _ noSession =>
      rw [noTimer (fun serial => noSession serial), List.append_nil]
      exact attributed

/-- A step that dispatches nothing removes no session. -/
theorem removes_of_not_turns {label : SystemLabel} (noTurn : label.turns = false) :
    system.removes label = none := by
  cases label <;> first | rfl | cases noTurn

/-- The sessions that close in a step of a socket are those that signal it. -/
theorem newClosers_of_not_turns {label : SystemLabel} (noTurn : label.turns = false) :
    system.newClosers label =
      match label.eventSerial.bind system.findSerial with
      | some session => session.closers (session.signals label)
      | none => [] := by
  cases label <;> first | rfl | cases noTurn

/-- A delayed resumption can be attributed. -/
theorem attributed_postResume (attributed : system.Attributed closers) (sessionId now : UInt32)
    (cmsDelay : Int) : (system.postResume sessionId now cmsDelay).Attributed closers := by
  have running := attributed.tidy.queue.running
  refine ⟨(routine_postResume attributed.tidy sessionId now cmsDelay).tidy, ?_, ?_, ?_,
    attributed.own⟩
  · simpa [removals, postResume, MessageQueue.postDelayed, MessageQueue.doDelayPost, running]
      using attributed.queued
  · simp only [postResume, MessageQueue.postDelayed, MessageQueue.doDelayPost, running]
    intro delayed member
    rcases List.mem_append.mp member with old | new
    · exact attributed.undelayed delayed old
    · cases List.mem_singleton.mp new
      rfl
  · intro message member serial
    rcases MessageQueue.mem_contents_postDelayed member with rfl | old
    · simp
    · exact attributed.timerless message old serial

/-- A call of the SDK can be attributed. -/
theorem attributed_call (attributed : system.Attributed closers) {posts : List (UInt32 × Stanza)}
    (tidy : next.Tidy) (side : CallSide system next posts) : next.Attributed closers := by
  have queue := congrArg System.queueThread side.frame
  have table := congrArg System.asyncSessions side.frame
  simp only [postStanzas_running attributed.tidy.queue.running] at queue
  refine attributed.keep tidy queue ?_ ?_ ?_
  · intro message member serial
    rw [phandler_of_mem_stanzaMessages member]
    exact nofun
  · intro message member
    obtain ⟨post, isPost, rfl⟩ := List.mem_map.mp member
    have fromCall := side.fromCall post isPost
    unfold removal
    split
    · next payload =>
        rw [Option.some.inj payload] at fromCall
        cases fromCall
    · rfl
  · intro entry member
    rw [table] at member
    exact .inl (stays_of_mem member)

/-- Every step can be attributed when no id is inserted ahead. -/
theorem attributed_step {label : SystemLabel} {emitted : List SystemOutput}
    (attributed : system.Attributed closers) (fresh : system.NoneInsertedAhead label)
    (transition : system.step label = some (next, emitted)) :
    next.Attributed (noteClosers closers system label next) := by
  have tidy := tidy_step attributed.tidy transition
  unfold noteClosers
  cases kind_of_step transition with
  | event isEvent found signals =>
      have noTurn : label.turns = false := by
        cases label <;> first | rfl | cases isEvent
      simp only [removes_of_not_turns noTurn, newClosers_of_not_turns noTurn, isEvent,
        Option.bind_some, found]
      exact attributed_signals attributed tidy found signals
  | call noTurn noEvent side =>
      rw [removes_of_not_turns noTurn, newClosers_of_not_turns noTurn, noEvent]
      simpa using attributed_call attributed tidy side
  | @resume sessionId now cmsDelay =>
      have kept := attributed_postResume attributed sessionId now cmsDelay
      rw [← List.append_nil closers] at kept
      exact kept
  | idle isTurn nothing =>
      cases label with
      | queueThread now answer =>
          simpa [newClosers, SystemLabel.eventSerial] using (attributed_takeQueue attributed now answer).2
      | asyncThread now answer =>
          simpa [newClosers, timerSession, nothing, removes] using
            attributed_takeAsync attributed now answer
      | _ => cases isTurn
  | @dispatch label message now answer isTurn isNext =>
      rcases isTurn with rfl | rfl
      · obtain ⟨_, taken⟩ := attributed_takeQueue attributed now answer
        have found : message ∈ system.queueThread.contents := by
          simp only [nextMessage] at isNext
          split at isNext
          · next found =>
              cases isNext
              exact (MessageQueue.getPass_subset _ _ _).2 found
          · cases isNext
        refine attributed_dispatch taken message ?_ ?_ ?_
        · intro toManager requested connectId opens absent named
          refine fresh message requested connectId isNext toManager opens absent ?_
          rw [attributed.queued]
          rw [taken.queued] at named
          split at named
          · exact List.mem_map.mpr ((List.mem_map.mp named).imp fun _ inTail =>
              ⟨List.mem_of_mem_tail inTail.1, inTail.2⟩)
          · exact named
        · intro serial toSession
          exact absurd toSession (attributed.timerless message found serial)
        · exact fun _ => rfl
      · have taken := attributed_takeAsync attributed now answer
        refine attributed_dispatch taken message ?_ ?_ ?_
        · exact fun toManager requested connectId => fresh message requested connectId isNext toManager
        · intro serial toSession
          obtain ⟨phandler, messageId, pdata⟩ := message
          cases toSession
          simp only [newClosers, timerSession, isNext]
          rfl
        · intro noSession
          simp only [newClosers, timerSession, isNext]
          obtain ⟨phandler, messageId, pdata⟩ := message
          split
          · next session isTimer =>
              split at isTimer
              · next serial _ _ same =>
                  cases same
                  exact absurd rfl (noSession serial)
              · cases isTimer
          · rfl

/-- A removal takes the object it is for. -/
theorem removesOwn_of_attributed {label : SystemLabel} (attributed : system.Attributed closers) :
    RemovesOwn (system, closers) label := by
  intro sessionId next emitted isRemoval transition
  cases label with
  | queueThread now answer =>
      obtain ⟨closer, isFirst, sameId⟩ := (attributed_takeQueue attributed now answer).1 _ isRemoval
      refine ⟨closer, isFirst, sameId, ?_⟩
      intro entry member differ
      have otherKey : entry.1 ≠ sessionId := by
        intro sameKey
        exact differ (attributed.own closer (List.mem_of_mem_head? isFirst) entry member
          (sameKey.trans sameId.symm))
      obtain ⟨message, isNext, payload⟩ := Option.bind_eq_some_iff.mp isRemoval
      obtain ⟨toQueueLayer, payload⟩ := removal_eq_some payload
      unfold step at transition
      split at transition
      · cases transition
      · simp only [nextMessage] at isNext
        split at isNext
        · next found =>
            cases isNext
            simp only [queueThreadTurn, found, if_true, dispatch, toQueueLayer, queueLayerOnMessage,
              payload, Option.some.injEq, Prod.mk.injEq] at transition
            obtain ⟨rfl, _⟩ := transition
            unfold removeSession
            split
            · exact member
            · exact OrderedMap.mem_erase.mpr ⟨member, otherKey⟩
        · cases isNext
  | _ => cases isRemoval

/-- At the start there is nothing to attribute. -/
theorem attributed_start (pushThread : Nat) : (System.start pushThread).Attributed [] where
  tidy := tidy_start pushThread
  queued := rfl
  undelayed := by simp [start, MessageQueue.post, MessageQueue.new]
  timerless := by
    intro message member serial
    obtain rfl : message = _ := by
      simpa [start, MessageQueue.post, MessageQueue.new, MessageQueue.contents] using member
    simp
  own := fun _ member => absurd member List.not_mem_nil

end System

/-- In every run in which no session is inserted under an id while a removal of that id is
queued, each executed removal was posted for the object next in the record, and leaves
every other object in the table. -/
theorem removal_spares_others {pushThread : Nat} {labels : List SystemLabel}
    {final : System × List Closer} {outputs : List SystemOutput}
    (run : removalMachine.RunWhere (fun watched label => watched.1.NoneInsertedAhead label)
      (System.start pushThread, []) labels final outputs) :
    removalMachine.RunWhere System.RemovesOwn (System.start pushThread, []) labels final outputs := by
  refine (Machine.RunWhere.upgrade (fun watched => watched.1.Attributed watched.2)
    (System.attributed_start pushThread) ?_ run).1
  intro watched label next emitted attributed fresh transition
  obtain ⟨stepped, noted⟩ := Machine.step_of_watch transition
  refine ⟨System.removesOwn_of_attributed attributed, ?_⟩
  rw [noted]
  exact System.attributed_step attributed fresh stepped

/-- A check that is enough for no session to be inserted ahead of a removal. -/
def System.noneInsertedCheck (system : System) (label : SystemLabel) : Bool :=
  system.removals.isEmpty ||
    (system.nextMessage label).all fun message => message.phandler ≠ some .sessionManager

/-- The check finds no id inserted ahead. -/
theorem System.noneInserted_of_check (watched : System × List Closer) (label : SystemLabel)
    (checked : watched.1.noneInsertedCheck label = true) : watched.1.NoneInsertedAhead label := by
  intro message requested connectId isNext toManager _ _ named
  simp only [noneInsertedCheck, Bool.or_eq_true, List.isEmpty_iff] at checked
  rcases checked with nothing | elsewhere
  · rw [nothing] at named
    cases named
  · simp [isNext, toManager] at elsewhere

/-- Thread 1 opens session 2, whose reconnect message is handled once. -/
def reconnectArmed : List SystemLabel :=
  [.queueThread 1000 .pending, .connect 1 ⟨"192.168.0.2", 8131⟩ 5000 1000,
    .queueThread 1000 .pending, .asyncThread 1000 .pending, .connectEvent 0 1000,
    .queueThread 1000 .pending, .wait 1 (.call 1000), .wait 1 (.check 1000), .connectServer 1,
    .queueThread 1000 .pending, .queueThread 1000 .pending, .queueThread 1000 .pending]

/-- The session id that an output inserts. -/
def SystemOutput.insertedId : SystemOutput → Option UInt32
  | .inserted sessionId => some sessionId
  | _ => none

/-- The device closes, its object is removed, and only then the reconnect tick comes. -/
theorem removal_spares_reconnected :
    ∃ labels final outputs,
      removalMachine.RunWhere (fun watched label => watched.1.NoneInsertedAhead label)
        (System.start 0, []) labels final outputs ∧
      outputs.filterMap SystemOutput.insertedId = [2, 2] ∧
      removalMachine.RunWhere System.RemovesOwn (System.start 0, []) labels final outputs := by
  have checked : (removalMachine.exec (System.start 0, []) (reconnectArmed ++
      [.closeEvent 0, .queueThread 8000 .pending, .queueThread 8000 .pending,
        .asyncThread 8000 .pending])).any (fun result =>
      result.2.filterMap SystemOutput.insertedId = [2, 2]) = true := by decide +kernel
  have permitted : removalMachine.permits (fun watched label => watched.1.noneInsertedCheck label)
      (System.start 0, []) (reconnectArmed ++ [.closeEvent 0, .queueThread 8000 .pending,
        .queueThread 8000 .pending, .asyncThread 8000 .pending]) = true := by decide +kernel
  obtain ⟨final, outputs, run, inserted⟩ :=
    Machine.exists_runWhere_of_exec System.noneInserted_of_check permitted checked
  exact ⟨_, final, outputs, run, by simpa using inserted, removal_spares_others run⟩

/-- A check for a removal that takes another object than the one it is for. -/
def System.removesOtherCheck (watched : System × List Closer) (label : SystemLabel) : Bool :=
  match watched.1.removes label, watched.2.head?, watched.1.step label with
  | some _, some closer, some (next, _) => watched.1.asyncSessions.entries.any fun entry =>
      entry.2.serial ≠ closer.serial &&
        next.asyncSessions.entries.all fun other => other.2.serial ≠ entry.2.serial
  | _, _, _ => false

/-- The check finds the step removing another session. -/
theorem System.not_removesOwn_of_check {watched : System × List Closer} {label : SystemLabel}
    (checked : removesOtherCheck watched label = true) : ¬RemovesOwn watched label := by
  intro own
  unfold removesOtherCheck at checked
  split at checked
  · next sessionId closer next emitted isRemoval isFirst transition =>
      obtain ⟨entry, member, removed⟩ := List.any_eq_true.mp checked
      simp only [Bool.and_eq_true, decide_eq_true_eq, List.all_eq_true] at removed
      obtain ⟨differ, gone⟩ := removed
      obtain ⟨closer', isFirst', _, spares⟩ := own sessionId next emitted isRemoval transition
      have same : closer' = closer := Option.some.inj ((Option.mem_def.mp isFirst').symm.trans isFirst)
      rw [same] at spares
      exact gone entry (spares entry member differ) rfl
  · cases checked

/-- The device closes, the timer finds the object silent and closes it again, the first
removal is executed, the tick registers a new object, and the second removal takes it. -/
theorem second_removal_takes_reconnected :
    ∃ labels watched outputs label,
      removalMachine.Run (System.start 0, []) labels watched outputs ∧
      ¬System.RemovesOwn watched label := by
  have checked : (removalMachine.exec (System.start 0, []) (reconnectArmed ++
      [.closeEvent 0, .asyncThread 8000 .pending, .queueThread 8000 .pending,
        .asyncThread 8000 .pending, .queueThread 8000 .pending])).any (fun result =>
      System.removesOtherCheck result.1 (.queueThread 8000 .pending)) = true := by decide +kernel
  obtain ⟨watched, outputs, run, other⟩ := Machine.exists_run_of_exec checked
  exact ⟨_, watched, outputs, .queueThread 8000 .pending, run, System.not_removesOwn_of_check other⟩

end VzSdk.Sdk
