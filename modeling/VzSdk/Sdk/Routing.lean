import VzSdk.Sdk.Threads

/-!
# Replies and the requests they answer

A device's answer carries no task id: the queue layer gives it to the first
registered task of its session whose command it answers. `board` reads the
system as a `Board`, every step of the machine is one change of the board, and
`Quiet` is the condition on the steps under which a request is given the answer
to itself: `response_answers_request` says so for every quiet run.
-/

namespace VzSdk.Sdk

open VzSdk.Base VzSdk.Event VzSdk.Std

/-- How tasks relate to the answers of devices. -/
def desk : Desk Task UInt32 Nat Topic where
  id := Task.taskId
  thread := Task.thread
  before := (· < ·)
  accepts task topic := ∃ resJson : Json, resJson.cmd = topic.2 ∧
    task.handleMessage 0 (.responseData topic.1 resJson [] none) = some true
  expects task topic := ∃ kind reqJson, task.data = .request kind topic.1 reqJson ∧
    reqJson.AnsweredUnder topic.2

/-- The task, if it is a request. -/
def Task.request (task : Task) : Option Task :=
  match task.data with
  | .request _ _ _ => some task
  | _ => none

/-- The message carries an answer of a device, to the request `origin`. -/
def CarriesResponse (message : SdkMessage) (origin : Option UInt32) : Prop :=
  ∃ session resJson resData, message.pdata = some (.responseData session resJson resData origin)

/-- Every response a request returns is the device's answer to it. -/
def AnswersOwn (outputs : List SystemOutput) : Prop :=
  ∀ task kind sessionId reqJson msg session resJson resData origin,
    .returned task msg ∈ outputs → task.data = .request kind sessionId reqJson →
      msg.pdata = some (.responseData session resJson resData origin) → origin = some task.taskId

/-- Outputs in which every response is its own, one list behind the other. -/
theorem AnswersOwn.append {first second : List SystemOutput} (before : AnswersOwn first)
    (after : AnswersOwn second) : AnswersOwn (first ++ second) := by
  intro task kind sessionId reqJson msg session resJson resData origin returned
  rcases List.mem_append.mp returned with earlier | later
  · exact before task kind sessionId reqJson msg session resJson resData origin earlier
  · exact after task kind sessionId reqJson msg session resJson resData origin later

/-- Outputs that return from no call. -/
theorem answersOwn_of_not_returned {outputs : List SystemOutput}
    (noReturn : ∀ task msg, .returned task msg ∉ outputs) : AnswersOwn outputs :=
  fun task _ _ _ msg _ _ _ _ returned => absurd returned (noReturn task msg)

namespace ThreadState

/-- The request that the thread waits for. -/
def waitingRequest (state : ThreadState) : Option Task :=
  match state.activity with
  | .waiting task => task.request
  | _ => none

/-- The message is in the thread's queue, or is the last one taken while it waits for a request.
The next wait starts with a blank one. -/
def Holds (state : ThreadState) (message : SdkMessage) : Prop :=
  message ∈ state.wait.queue.contents ∨
    (state.waitingRequest.isSome = true ∧ message = state.wait.msg)

/-- The thread holds an answer to `origin`. -/
def Given (state : ThreadState) (origin : Option UInt32) : Prop :=
  ∃ message, state.Holds message ∧ CarriesResponse message origin

end ThreadState

namespace System

/-- The system as a board. -/
def board (system : System) : Board Task UInt32 Nat Topic where
  registered task := ∃ id, (id, task) ∈ system.tasks.entries
  notices := system.notices
  flying := system.Flying
  waiting thread := (system.threads thread).waitingRequest
  inbox thread := (system.threads thread).Given

/-- A step is quiet unless it
- creates a task whose id is still in use;
- issues a request on a thread to which the answer to an earlier one may still be given, or that
  has an answer left in its queue;
- reads a packet of the device while the first task that would take it, of those that stay until
  it is routed, is not the one it answers;
- hands an answer that no task takes to the push thread while that thread waits for a request. -/
def Quiet (system : System) : SystemLabel → Prop
  | .connect thread address timeout _ =>
      system.board.Unused desk (system.newTask thread timeout (.connect address)).2
  | .disconnect thread sessionId timeout _ =>
      system.board.Unused desk (system.newTask thread timeout (.disconnect sessionId)).2
  | .request thread kind sessionId reqJson timeout _ =>
      system.board.Unused desk (system.newTask thread timeout (.request kind sessionId reqJson)).2 ∧
        system.board.Settled desk thread
  | .postTask sessionId reqJson timeout =>
      system.board.Unused desk
        (system.newTask system.pushThread timeout (.request .push sessionId reqJson)).2
  | .readEvent serial => ∀ session answer incoming resJson,
      system.findSerial serial = some session → session.incoming = answer :: incoming →
        answer.resJson = some resJson →
          system.board.Answers desk (session.sessionId, resJson.cmd) answer.origin
  | .queueThread now _ =>
      let pass := system.queueThread.getPass now .zero
      ∀ session resJson resData origin, pass.found = true →
        pass.pmsg.pdata = some (.responseData session resJson resData origin) →
        taker 0 (.responseData session resJson resData origin) system.tasks.entries = .nobody →
          (system.threads system.pushThread).waitingRequest = none
  | _ => True

variable {system next : System}

/-- A calm step shows nothing new on the board. -/
theorem Calm.covers (calm : Calm system next) : Board.Covers system.board next.board where
  registered := by
    intro task
    simp only [board, calm.tasks]
  notices := calm.notices
  flying := calm.flying
  waiting := by
    intro thread task waits
    simpa only [board, calm.threads] using waits
  inbox := by
    intro thread origin given
    simpa only [board, calm.threads] using given

/-! ## Threads of the application -/

/-- The thread's state lost nothing but its request and its messages. -/
structure Eases (state next : ThreadState) : Prop where
  waiting : ∀ {task}, next.waitingRequest = some task → state.waitingRequest = some task
  given : ∀ {origin}, next.Given origin → state.Given origin

/-- Easing a thread is covered. -/
theorem covers_setThread {thread : Nat} {state : ThreadState}
    (eases : Eases (system.threads thread) state) :
    Board.Covers system.board (system.setThread thread state).board where
  registered := .rfl
  notices := rfl
  flying flies := flies
  waiting := by
    intro other task waits
    simp only [board, setThread] at waits ⊢
    split at waits
    · next same => exact same ▸ eases.waiting waits
    · exact waits
  inbox := by
    intro other origin given
    simp only [board, setThread] at given ⊢
    split at given
    · next same => exact same ▸ eases.given given
    · exact given

/-- What the thread holds is from `state`, but for messages without a payload. -/
theorem given_of_subset {state other : ThreadState} {origin : Option UInt32}
    (subset : ∀ message, other.Holds message → state.Holds message ∨ message = .zero)
    (given : other.Given origin) : state.Given origin := by
  obtain ⟨message, held, response⟩ := given
  rcases subset message held with before | rfl
  · exact ⟨message, before, response⟩
  · obtain ⟨_, _, _, nothing⟩ := response
    cases nothing

/-- A thread that waits for no request holds its queue. -/
theorem queued_of_holds {state : ThreadState} {message : SdkMessage}
    (idle : state.waitingRequest = none) (held : state.Holds message) :
    message ∈ state.wait.queue.contents := by
  rcases held with queued | ⟨waits, _⟩
  · exact queued
  · rw [idle] at waits
    cases waits

/-- A thread that waits for no request any more has at most the queue it had. -/
theorem eases_of_idle {state next : ThreadState} (idle : next.waitingRequest = none)
    (queue : ∀ message ∈ next.wait.queue.contents, message ∈ state.wait.queue.contents) :
    Eases state next where
  waiting waits := by
    rw [idle] at waits
    cases waits
  given := given_of_subset fun message held =>
    .inl (.inl (queue message (queued_of_holds idle held)))

/-- Posting to the queue layer puts the message's notice on the board. -/
theorem board_postQueue (tidy : system.Tidy) (id : UInt32) (stanza : Stanza) :
    (system.postQueue id stanza).board =
      match notice ⟨some .queueLayer, id, some stanza⟩ with
      | some posted => system.board.post posted
      | none => system.board := by
  have posted := notices_post tidy ⟨some .queueLayer, id, some stanza⟩
  cases told : notice ⟨some .queueLayer, id, some stanza⟩ with
  | none =>
      rw [told, Option.toList_none, List.append_nil] at posted
      simp only [board, postQueue, posted]
      rfl
  | some posted' =>
      rw [told] at posted
      simp only [board, postQueue, posted, Board.post]
      rfl

/-- A task that is done is taken off the list. -/
theorem sound_removeTask (tidy : system.Tidy) (sound : system.board.Sound desk) (task : Task) :
    (system.postQueue task.taskId (.removeTask task)).board.Sound desk := by
  rw [board_postQueue tidy]
  unfold notice
  split
  · next told =>
      split at told
      · cases told
        exact sound.post (by simp) (by simp) (by simp)
      · cases told
  · exact sound

/-- A waiting thread returns its own answer. -/
theorem sound_waitStep (tidy : system.Tidy) (sound : system.board.Sound desk) {thread : Nat}
    {label : WaitLabel Component Stanza} {emitted : List SystemOutput} (own : label.own = true)
    (transition : system.waitStep thread label = some (next, emitted)) :
    next.board.Sound desk ∧ AnswersOwn emitted := by
  unfold waitStep at transition
  simp only at transition
  split at transition
  · next task waiting =>
      split at transition
      · cases transition
      · next wait taken waited =>
          obtain ⟨queue, last⟩ := wait_subset own waited
          -- what a thread takes while it waits for a request, it held before
          have taken (waits : (system.threads thread).waitingRequest.isSome = true) :
              (system.threads thread).Holds wait.msg ∨ wait.msg = .zero := by
            rcases last with queued | same | blank
            · exact .inl (.inl queued)
            · exact .inl (.inr ⟨waits, same⟩)
            · exact .inr blank
          split at transition
          · simp only [Option.some.injEq, Prod.mk.injEq] at transition
            obtain ⟨rfl, rfl⟩ := transition
            constructor
            · refine sound_removeTask (tidy_setThread tidy _ _) (sound.of_covers (covers_setThread ?_)) task
              refine eases_of_idle ?_ queue
              -- the thread is idle now, or goes on to connect
              simp only [ThreadState.waitingRequest]
              split
              · next nothing =>
                  split at nothing
                  · cases nothing
                  · cases nothing
              · rfl
            · intro other kind sessionId reqJson msg session resJson resData origin returned isRequest
                response
              obtain ⟨rfl, rfl⟩ : other = task ∧ msg = wait.msg := by simpa using returned
              have waits : (system.threads thread).waitingRequest = some other := by
                simp only [ThreadState.waitingRequest, waiting, Task.request, isRequest]
              have given : (system.threads thread).Given origin := by
                rcases taken (by rw [waits]; rfl) with held | blank
                · exact ⟨_, held, session, resJson, resData, response⟩
                · rw [blank] at response
                  cases response
              exact sound.delivered waits given
          · simp only [Option.some.injEq, Prod.mk.injEq] at transition
            obtain ⟨rfl, rfl⟩ := transition
            have same : (⟨.waiting task, wait⟩ : ThreadState).waitingRequest =
                (system.threads thread).waitingRequest := by
              simp only [ThreadState.waitingRequest, waiting]
            refine ⟨sound.of_covers (covers_setThread ⟨fun waits => same ▸ waits,
              given_of_subset ?_⟩), answersOwn_of_not_returned (by simp)⟩
            rintro message (queued | ⟨waits, rfl⟩)
            · exact .inl (.inl (queue message queued))
            · exact taken (same ▸ waits)
  · cases transition

/-- A connect keeps the board sound. -/
theorem sound_connectServer (tidy : system.Tidy) (sound : system.board.Sound desk) {thread : Nat}
    (transition : system.connectServer thread = some next) : next.board.Sound desk := by
  unfold connectServer at transition
  simp only at transition
  split at transition
  · have idle : (system.setThread thread
        { system.threads thread with activity := .idle }).board.Sound desk :=
      sound.of_covers (covers_setThread (eases_of_idle rfl fun _ queued => queued))
    split at transition
    · split at transition
      · cases transition
        exact idle.of_covers (routine_postQueue (tidy_setThread tidy _ _) _ rfl).covers
      · cases transition
        exact idle
    · cases transition
      exact idle
  · cases transition

/-- A turn of the push thread keeps the board sound. -/
theorem sound_pushThreadTurn (sound : system.board.Sound desk) {now : UInt32} {memory : Json}
    {emitted : List SystemOutput}
    (transition : system.pushThreadTurn now memory = some (next, emitted)) :
    next.board.Sound desk := by
  unfold pushThreadTurn at transition
  simp only at transition
  split at transition
  · next idle =>
      simp only [Option.some.injEq, Prod.mk.injEq] at transition
      obtain ⟨rfl, rfl⟩ := transition
      refine sound.of_covers (covers_setThread ⟨fun waits => waits, given_of_subset ?_⟩)
      rintro message (queued | taken)
      · exact .inl (.inl ((MessageQueue.getPass_subset _ _ _).1 message queued))
      · exact .inl (.inr taken)
  · cases transition

/-- The end of a task keeps the board sound. -/
theorem sound_destroyTask (sound : system.board.Sound desk) {taskId : UInt32}
    (transition : system.destroyTask taskId = some next) : next.board.Sound desk := by
  unfold destroyTask at transition
  split at transition
  · cases transition
  · cases transition
    refine sound.of_covers ⟨.rfl, rfl, fun flies => flies, fun waits => waits, ?_⟩
    intro thread origin given
    refine given_of_subset ?_ given
    rintro message (queued | taken)
    · exact .inl (.inl (MessageQueue.mem_contents_clear queued))
    · exact .inl (.inr taken)

/-- A thread that waits for no request posts its task. -/
theorem sound_reqTask (tidy : system.Tidy) (sound : system.board.Sound desk) {task : Task}
    (idle : (system.threads task.thread).waitingRequest = none)
    (unused : system.board.Unused desk task) :
    (system.postQueue task.taskId (.reqTask task)).board.Sound desk := by
  rw [board_postQueue tidy]
  unfold notice
  split
  · next told =>
      split at told
      · cases told
        exact sound.ask unused idle
      · cases told
  · exact sound

/-- A thread that waits for no request posts its task and waits for it. -/
theorem sound_startTask (tidy : system.Tidy) (sound : system.board.Sound desk) {task : Task}
    (now : UInt32) (idle : (system.threads task.thread).waitingRequest = none)
    (unused : system.board.Unused desk task)
    (settled : task.request.isSome = true → system.board.Settled desk task.thread) :
    ((system.postQueue task.taskId (.reqTask task)).setThread task.thread
      ⟨.waiting task, .start (waiter task) (system.threads task.thread).wait.queue now⟩).board.Sound
        desk := by
  have subset : ∀ message, (⟨.waiting task, .start (waiter task)
      (system.threads task.thread).wait.queue now⟩ : ThreadState).Holds message →
        (system.threads task.thread).Holds message ∨ message = .zero := by
    rintro message (queued | ⟨_, rfl⟩)
    · exact .inl (.inl queued)
    · exact .inr rfl
  have posted := board_postQueue tidy task.taskId (.reqTask task)
  cases isRequest : task.request with
  | none =>
      refine (sound_reqTask tidy sound idle unused).of_covers (covers_setThread ⟨?_, given_of_subset subset⟩)
      intro other waits
      simp only [ThreadState.waitingRequest, isRequest] at waits
      cases waits
  | some request =>
      have isTask : request = task := by
        unfold Task.request at isRequest
        split at isRequest
        · exact (Option.some.inj isRequest).symm
        · cases isRequest
      have settled := settled (by simp [isRequest])
      have waits : ((system.postQueue task.taskId (.reqTask task)).board.wait task.thread task).Sound
          desk := by
        rw [posted]
        unfold notice
        split
        · next told =>
            split at told
            · cases told
              exact sound.askAndWait unused idle settled
            · cases told
        · refine sound.wait ?_ settled.emptied
          intro ahead topic origin way other known fromThread isOrigin
          exact .inr (settled.undelivered ahead topic origin way other known fromThread isOrigin)
      refine waits.of_covers ⟨.rfl, rfl, fun flies => flies, ?_, ?_⟩
      · intro other waiting isWaiting
        simp only [board, setThread, Board.wait] at isWaiting ⊢
        split
        · next same =>
            simp only [same, if_true, ThreadState.waitingRequest, isRequest, isTask] at isWaiting
            exact isWaiting
        · next differ =>
            rw [if_neg differ] at isWaiting
            exact isWaiting
      · intro other origin given
        simp only [board, setThread] at given
        split at given
        · next same =>
            subst same
            exact given_of_subset subset given
        · exact given

/-- A new task keeps the board sound when nothing else waits under its id. -/
theorem sound_syncProcessTask (tidy : system.Tidy) (sound : system.board.Sound desk) {thread : Nat}
    {timeout now : UInt32} {data : TaskData}
    (unused : system.board.Unused desk (system.newTask thread timeout data).2)
    (settled : (system.newTask thread timeout data).2.request.isSome = true →
      system.board.Settled desk thread)
    (transition : system.syncProcessTask thread timeout data now = some next) :
    next.board.Sound desk := by
  unfold syncProcessTask at transition
  split at transition
  · next idle =>
      cases transition
      have counted : (system.newTask thread timeout data).1.Tidy :=
        ⟨tidy.queue, tidy.sessions, tidy.elsewhere, tidy.named⟩
      have notWaiting : (system.threads thread).waitingRequest = none := by
        simp only [ThreadState.waitingRequest, idle]
      exact sound_startTask counted sound now notWaiting unused settled
  · cases transition

/-- A posted task keeps the board sound when nothing else waits under its id. -/
theorem sound_postTask (tidy : system.Tidy) (sound : system.board.Sound desk)
    {sessionId timeout : UInt32} {reqJson : Json}
    (unused : system.board.Unused desk
      (system.newTask system.pushThread timeout (.request .push sessionId reqJson)).2)
    (transition : system.postTask sessionId reqJson timeout = some next) :
    next.board.Sound desk := by
  unfold postTask at transition
  split at transition
  · next idle =>
      split at transition
      · cases transition
      · cases transition
        have counted :
            (system.newTask system.pushThread timeout (.request .push sessionId reqJson)).1.Tidy :=
          ⟨tidy.queue, tidy.sessions, tidy.elsewhere, tidy.named⟩
        have notWaiting : (system.threads system.pushThread).waitingRequest = none := by
          simp only [ThreadState.waitingRequest, idle]
        exact sound_reqTask counted sound notWaiting unused
  · cases transition

/-! ## Connections -/

/-- A packet that is read is queued for the queue layer. -/
theorem sound_readEvent (tidy : system.Tidy) (sound : system.board.Sound desk) {serial : Nat}
    (quiet : system.Quiet (.readEvent serial))
    (transition : system.readEvent serial = some next) : next.board.Sound desk := by
  unfold readEvent at transition
  split at transition
  · cases transition
  · next session found =>
      split at transition
      · cases transition
      · next answer incoming pending =>
          split at transition
          · cases transition
            obtain ⟨_, member, _⟩ := tidy.eq_of_findSerial found
            have read : Routine system (system.updateSession serial fun session =>
                { session with incoming := incoming }) := by
              refine routine_updateFound tidy found ⟨rfl, rfl, ?_⟩
              rintro cmd origin (asked | ⟨other, member, rest⟩)
              · exact .inl asked
              · exact .inr ⟨other, pending ▸ List.mem_cons_of_mem _ member, rest⟩
            unfold onSessionPacketEvent
            split
            · next resJson isJson =>
                split
                · have flies : system.board.flying (session.sessionId, resJson.cmd) answer.origin := by
                    refine .inr ⟨_, member, rfl, .inr ⟨answer, ?_, rfl, resJson, isJson, rfl⟩⟩
                    rw [pending]
                    exact List.mem_cons_self
                  have queued : (system.board.post
                      (.reply (session.sessionId, resJson.cmd) answer.origin)).Sound desk := by
                    refine sound.post (by simp) ?_ ?_
                    · intro topic origin isReply
                      cases isReply
                      exact flies
                    · intro topic origin isReply
                      cases isReply
                      exact quiet session answer incoming resJson found pending isJson
                  rw [board_postQueue read.tidy]
                  exact queued.of_covers (read.covers.post _)
                · exact sound.of_covers read.covers
            · exact sound.of_covers read.covers
          · cases transition

/-- What the device sends unasked is on its way to nobody yet. -/
theorem sound_devicePush (tidy : system.Tidy) (sound : system.board.Sound desk) {serial : Nat}
    {resJson : Option Json} {resData : List UInt8}
    (transition : system.devicePush serial resJson resData = some next) :
    next.board.Sound desk := by
  unfold devicePush at transition
  split at transition
  · cases transition
  · next session found =>
      cases transition
      have flying {topic : Topic} {origin : Option UInt32}
          (flies : (system.updateSession serial fun session =>
            { session with incoming := session.incoming ++ [⟨resJson, resData, none⟩] }).Flying
              topic origin) :
          system.Flying topic origin ∨ ∃ json, resJson = some json ∧
            topic = (session.sessionId, json.cmd) ∧ origin = none := by
        rcases flies with asking | ⟨entry, member, sameId, flies⟩
        · exact .inl (.inl asking)
        · obtain ⟨old, was, rfl⟩ := OrderedMap.mem_mapValues.mp member
          simp only at sameId flies
          split at flies
          · next same =>
              obtain rfl := (tidy.eq_of_findSerial found).2.2 old was same
              rw [if_pos same] at sameId
              rcases flies with asked | ⟨answer, member, fromRequest, json, isJson, under⟩
              · exact .inl (.inr ⟨old, was, sameId, .inl asked⟩)
              · rcases List.mem_append.mp member with earlier | new
                · exact .inl (.inr ⟨old, was, sameId, .inr ⟨answer, earlier, fromRequest, json, isJson, under⟩⟩)
                · obtain rfl := List.mem_singleton.mp new
                  refine .inr ⟨json, isJson, ?_, fromRequest⟩
                  exact Prod.ext sameId.symm under.symm
          · next differ =>
              rw [if_neg differ] at sameId
              exact .inl (.inr ⟨old, was, sameId, flies⟩)
      cases resJson with
      | none =>
          refine sound.of_covers ⟨.rfl, rfl, ?_, fun waits => waits, fun given => given⟩
          intro topic origin flies
          rcases flying flies with old | ⟨_, nothing, _⟩
          · exact old
          · cases nothing
      | some json =>
          refine (sound.launch (session.sessionId, json.cmd)).of_covers
            ⟨.rfl, rfl, ?_, fun waits => waits, fun given => given⟩
          intro topic origin flies
          rcases flying flies with old | ⟨_, isJson, same, none⟩
          · exact .inl old
          · cases isJson
            exact .inr ⟨same, none⟩

/-! ## The session manager -/

/-- A request handed to its connection is still on its way. -/
theorem covers_onRequestMessage {taken : System} (calm : Calm system taken)
    {messageId sessionId : UInt32} {reqJson : Json} {isPush : Bool} {tag : UInt32}
    (asking : ∀ cmd, reqJson.AnsweredUnder cmd → system.Flying (sessionId, cmd) (some tag)) :
    Board.Covers system.board
      (taken.onRequestMessage messageId sessionId reqJson isPush tag).board := by
  unfold onRequestMessage
  split
  · next session found =>
      have member := OrderedMap.mem_of_find? found
      have sameId : session.sessionId = sessionId := calm.tidy.sessions.keyed _ member
      have tidyWritten := tidy_updateSession calm.tidy session.serial (fun session =>
        { session with outgoing := session.outgoing ++ [⟨tag, reqJson⟩] }) fun _ => ⟨rfl, rfl⟩
      have written : Board.Covers system.board (taken.updateSession session.serial fun session =>
          { session with outgoing := session.outgoing ++ [⟨tag, reqJson⟩] }).board := by
        refine ⟨calm.covers.registered, calm.covers.notices, ?_, calm.covers.waiting,
          calm.covers.inbox⟩
        rintro topic origin (asked | ⟨entry, changed, isTopic, flies⟩)
        · exact calm.flying (.inl asked)
        · obtain ⟨old, was, rfl⟩ := OrderedMap.mem_mapValues.mp changed
          simp only at isTopic flies
          split at flies
          · next same =>
              have isSession := congrArg Prod.snd
                (calm.tidy.sessions.distinct old was _ member same)
              simp only at isSession
              rw [if_pos same] at isTopic
              rcases flies with ⟨request, sent, isTag, answered⟩ | read
              · simp only [List.mem_append, List.mem_singleton] at sent
                rcases sent with (sent | rfl) | sent
                · exact calm.flying (.inr ⟨old, was, isTopic,
                    .inl ⟨request, List.mem_append_left _ sent, isTag, answered⟩⟩)
                · have isTopic : sessionId = topic.1 := by
                    rw [← sameId, ← isSession]
                    exact isTopic
                  rw [isTag, show topic = (sessionId, topic.2) from Prod.ext isTopic.symm rfl]
                  exact asking topic.2 answered
                · exact calm.flying (.inr ⟨old, was, isTopic,
                    .inl ⟨request, List.mem_append_right _ sent, isTag, answered⟩⟩)
              · exact calm.flying (.inr ⟨old, was, isTopic, .inr read⟩)
          · next differ =>
              rw [if_neg differ] at isTopic
              exact calm.flying (.inr ⟨old, was, isTopic, flies⟩)
      simp only
      split
      · exact written.trans (routine_postQueue tidyWritten _ rfl).covers
      · exact written
  · exact calm.covers.trans (routine_postQueue calm.tidy _ rfl).covers

/-- The manager's messages show nothing new on the board. -/
theorem covers_sessionManagerOnMessage {taken : System} (calm : Calm system taken) (now : UInt32)
    (answer : ConnectAnswer) {message : SdkMessage}
    (asking : ∀ sessionId reqJson isPush tag,
      message.pdata = some (.requestData sessionId reqJson isPush tag) →
        ∀ cmd, reqJson.AnsweredUnder cmd → system.Flying (sessionId, cmd) (some tag)) :
    Board.Covers system.board (taken.sessionManagerOnMessage now answer message).1.board := by
  obtain ⟨phandler, messageId, pdata⟩ := message
  unfold sessionManagerOnMessage
  split
  · next sessionId address payload =>
      simp only at payload
      subst payload
      exact calm.covers.trans
        (routine_onReconnectMessage calm.tidy now answer messageId sessionId address).covers
  · exact calm.covers.trans (routine_openSession calm.tidy _ _ _).covers
  · exact calm.covers.trans (calm_onDisconnectMessage calm.tidy _ _).covers
  · next sessionId reqJson isPush tag payload =>
      exact covers_onRequestMessage calm (asking sessionId reqJson isPush tag payload)
  · exact calm.covers.trans (routine_removeSession calm.tidy _).covers
  · exact calm.covers

/-- A turn of the asynchronous thread keeps the board sound. -/
theorem sound_asyncThreadTurn (tidy : system.Tidy) (sound : system.board.Sound desk) (now : UInt32)
    (answer : ConnectAnswer) : (system.asyncThreadTurn now answer).1.board.Sound desk := by
  obtain ⟨leaves, takes⟩ := MessageQueue.getPass_subset system.asyncThread now .zero
  have taken : Calm system
      { system with asyncThread := (system.asyncThread.getPass now .zero).queue } := by
    refine ⟨tidy_takeAsync tidy now, rfl, rfl, rfl, ?_⟩
    rintro topic origin (⟨message, member, rest⟩ | session)
    · exact .inl ⟨message, leaves message member, rest⟩
    · exact .inr session
  unfold asyncThreadTurn
  simp only
  split
  · next found =>
      have member := takes found
      unfold dispatch
      split
      · next toQueueLayer => exact absurd toQueueLayer (tidy.elsewhere _ member)
      · refine sound.of_covers (covers_sessionManagerOnMessage taken now answer ?_)
        intro sessionId reqJson isPush tag payload cmd answered
        exact .inl ⟨_, member, reqJson, isPush, tag, payload, rfl, answered⟩
      · exact sound.of_covers (taken.covers.trans (routine_sessionOnMessage taken.tidy _ now).covers)
      · exact sound.of_covers taken.covers
  · exact sound.of_covers taken.covers

/-! ## The queue layer -/

/-- Posting to a thread changes nothing of what it waits for. -/
theorem waitingRequest_postThread (system : System) (thread other : Nat) (message : SdkMessage) :
    ((system.postThread thread message).threads other).waitingRequest =
      (system.threads other).waitingRequest := by
  simp only [postThread, setThread]
  split
  · next same => rw [same]; rfl
  · rfl

/-- A thread is given what is posted to it. -/
theorem given_postThread {thread other : Nat} {message : SdkMessage} {origin : Option UInt32}
    (given : ((system.postThread thread message).threads other).Given origin) :
    (system.threads other).Given origin ∨ (other = thread ∧ CarriesResponse message origin) := by
  simp only [postThread, setThread] at given
  split at given
  · next same =>
      subst same
      obtain ⟨message', queued | taken, response⟩ := given
      · rcases MessageQueue.mem_contents_post queued with rfl | queued
        · exact .inr ⟨rfl, response⟩
        · exact .inl ⟨message', .inl queued, response⟩
      · exact .inl ⟨message', .inr taken, response⟩
  · exact .inl given

/-- A task looks at the session and the command of an answer only. -/
theorem accepts_of_handleMessage {task : Task} {session : UInt32} {resJson : Json}
    {resData : List UInt8} {origin : Option UInt32}
    (handled : task.handleMessage 0 (.responseData session resJson resData origin) = some true) :
    desk.accepts task (session, resJson.cmd) := by
  refine ⟨resJson, rfl, ?_⟩
  unfold Task.handleMessage at handled ⊢
  split at handled <;> exact handled

/-- Replies of the session manager are no answers of devices. -/
theorem covers_onTranslateToSyncLayer (messageId : UInt32) (type : PlainType) (sessionId : UInt32) :
    Board.Covers system.board
      (system.onTranslateToSyncLayer messageId (.plain type sessionId)).board := by
  have posted (thread : Nat) (handler : Component) (id : UInt32) : Board.Covers system.board
      (system.postThread thread ⟨some handler, id, some (.plain type sessionId)⟩).board := by
    refine ⟨.rfl, rfl, fun flies => flies, ?_, ?_⟩
    · intro other task waits
      exact (waitingRequest_postThread system thread other _).symm.trans waits
    · intro other origin given
      rcases given_postThread given with old | ⟨_, _, _, _, response⟩
      · exact old
      · cases response
  unfold onTranslateToSyncLayer
  split
  · exact posted _ _ _
  · exact .refl
  · split
    · unfold pushHandleMessage
      split
      · exact .refl
      · split
        · exact posted _ _ _
        · exact .refl
    · exact .refl

/-- A task that accepts the answers of a session under a command takes each of them. -/
theorem handleMessage_of_accepts {task : Task} {session : UInt32} {resJson : Json}
    {resData : List UInt8} {origin : Option UInt32}
    (accepts : desk.accepts task (session, resJson.cmd)) :
    task.handleMessage 0 (.responseData session resJson resData origin) = some true := by
  obtain ⟨other, sameCmd, handled⟩ := accepts
  -- a request looks at the command of the answer, the other tasks at nothing of it
  simp only [Task.handleMessage, sameCmd] at handled ⊢
  exact handled

/-- The push task takes no answer: it is never in the table. -/
theorem not_accepts_of_pushManager {task : Task} (isPush : task.data = .pushManager)
    (topic : Topic) : ¬desk.accepts task topic := by
  rintro ⟨resJson, _, handled⟩
  unfold Task.handleMessage at handled
  rw [isPush] at handled
  cases handled

/-- The task that takes a message is the first one that would. -/
theorem first_of_taker {messageId : UInt32} {stanza : Stanza} {task : Task}
    {tasks : List (UInt32 × Task)}
    (ascending : tasks.Pairwise fun first second => compare first.1 second.1 = .lt)
    (taken : taker messageId stanza tasks = .task task) :
    ∃ id, (id, task) ∈ tasks ∧ ∀ entry ∈ tasks,
      entry.2.handleMessage messageId stanza = some true → ¬entry.1 < id := by
  induction tasks with
  | nil => cases taken
  | cons head tasks inductionHypothesis =>
      obtain ⟨least, rest⟩ := List.pairwise_cons.mp ascending
      unfold taker at taken
      split at taken
      · cases taken
      · cases taken
        refine ⟨head.1, List.mem_cons_self, fun entry member _ => ?_⟩
        rcases List.mem_cons.mp member with rfl | later
        · exact UInt32.lt_irrefl _
        · have above : head.1 < entry.1 := Std.compare_eq_lt.mp (least entry later)
          exact fun below => UInt32.lt_irrefl _ (UInt32.lt_trans above below)
      · next refused =>
          obtain ⟨id, member, first⟩ := inductionHypothesis rest taken
          refine ⟨id, List.mem_cons_of_mem _ member, fun entry inTable handled => ?_⟩
          rcases List.mem_cons.mp inTable with rfl | later
          · rw [refused] at handled
            cases handled
          · exact first entry later handled

/-- The task that takes an answer is the one that the board gives it to. -/
theorem takes_of_taker (tidy : system.Tidy) {session : UInt32} {resJson : Json}
    {resData : List UInt8} {origin : Option UInt32} {task : Task}
    (taken : taker 0 (.responseData session resJson resData origin) system.tasks.entries =
      .task task) : system.board.Takes desk [] (session, resJson.cmd) task := by
  obtain ⟨_, _, handled⟩ := mem_of_taker taken
  obtain ⟨id, member, first⟩ := first_of_taker system.tasks.ascending taken
  refine ⟨⟨.inl ⟨id, member⟩, accepts_of_handleMessage handled, List.not_mem_nil⟩, ?_⟩
  rintro other ⟨⟨otherId, inTable⟩ | asked, accepts, _⟩
  · have isOther : other.taskId = otherId := tidy.named _ inTable
    have isTask : task.taskId = id := tidy.named _ member
    have notBelow : ¬otherId < id := first _ inTable (handleMessage_of_accepts accepts)
    rwa [← isOther, ← isTask] at notBelow
  · cases asked

/-- An answer is given to a task that accepts it, or to nobody, or to the push thread. -/
theorem sound_response (tidy : system.Tidy) (sound : system.board.Sound desk) {queue : SdkQueue}
    {session : UInt32} {resJson : Json} {resData : List UInt8} {origin : Option UInt32}
    (first : system.notices = .reply (session, resJson.cmd) origin :: queue.msgq.filterMap notice)
    (quiet : taker 0 (.responseData session resJson resData origin) system.tasks.entries = .nobody →
      (system.threads system.pushThread).waitingRequest = none) :
    (({ system with queueThread := queue } : System).onTranslateToSyncLayer 0
      (.responseData session resJson resData origin)).board.Sound desk := by
  have discarded : ({ system with queueThread := queue } : System).board.Sound desk :=
    sound.discard first (by simp) (by simp)
  have delivered {thread : Nat} {handler : Component} {id : UInt32}
      (taken : (∃ task, system.board.Takes desk [] (session, resJson.cmd) task ∧
        desk.thread task = thread) ∨ system.board.waiting thread = none) :
      (({ system with queueThread := queue } : System).postThread thread
        ⟨some handler, id, some (.responseData session resJson resData origin)⟩).board.Sound desk := by
    refine (sound.deliver first taken).of_covers
      ⟨.rfl, rfl, fun flies => flies, ?_, ?_⟩
    · intro other task waits
      exact (waitingRequest_postThread { system with queueThread := queue } thread other _).symm.trans
        waits
    · intro other source given
      rcases given_postThread given with old | ⟨same, _, _, _, response⟩
      · exact .inl old
      · cases response
        exact .inr ⟨same, rfl⟩
  unfold onTranslateToSyncLayer
  split
  · next task taken => exact delivered (.inl ⟨task, takes_of_taker tidy taken, rfl⟩)
  · exact discarded
  · next nobody =>
      split
      · unfold pushHandleMessage
        split
        · exact discarded
        · split
          · exact delivered (.inr (quiet nobody))
          · exact discarded
      · exact discarded

/-- No other task has the id of one that is asked for, so it is in the table in the end. -/
theorem mem_insert_of_asked (tidy : system.Tidy) (sound : system.board.Sound desk) {task : Task}
    (asked : .ask task ∈ system.board.notices) :
    (task.taskId, task) ∈ (system.tasks.insert task.taskId task).entries := by
  cases found : system.tasks.find? task.taskId with
  | none => exact OrderedMap.mem_insert_self found task
  | some other =>
      have member := OrderedMap.mem_of_find? found
      have same : other = task :=
        sound.distinct (.inl ⟨_, member⟩) (.inr asked) (tidy.named _ member)
      exact OrderedMap.mem_insertEntry_of_mem (same ▸ member)

/-- A task that is asked for is registered, and its request is on its way. -/
theorem sound_onTranslateToAsyncLayer (tidy : system.Tidy) (sound : system.board.Sound desk)
    {queue : SdkQueue} {task : Task} (first : system.notices = .ask task :: queue.msgq.filterMap notice) :
    (({ system with queueThread := queue } : System).onTranslateToAsyncLayer task).board.Sound
      desk := by
  refine (sound.register first).of_covers
    ⟨?_, rfl, ?_, fun waits => waits, fun given => given⟩
  · intro other
    constructor
    · rintro ⟨id, member⟩
      rcases OrderedMap.mem_insertEntry member with same | old
      · exact .inl (congrArg Prod.snd same)
      · exact .inr ⟨id, old⟩
    · rintro (rfl | ⟨id, old⟩)
      · have asked : .ask other ∈ system.notices := by
          rw [first]
          exact List.mem_cons_self
        exact ⟨other.taskId, mem_insert_of_asked tidy sound asked⟩
      · exact ⟨id, OrderedMap.mem_insertEntry_of_mem old⟩
  · rintro topic origin (⟨message, member, reqJson, isPush, tag, payload, isTag, answered⟩ | session)
    · rcases MessageQueue.mem_contents_post member with rfl | old
      · simp only [Task.messageData] at payload
        split at payload
        · cases payload
        · cases payload
        · next kind sessionId reqJson isRequest =>
            cases payload
            exact .inr ⟨⟨kind, reqJson, isRequest, answered⟩, isTag⟩
        · cases payload
      · exact .inl (.inl ⟨message, old, reqJson, isPush, tag, payload, isTag, answered⟩)
    · exact .inl (.inr session)

/-- Removing an id from the table removes the task of that id. -/
theorem mem_erase_task (tidy : system.Tidy) {taskId : UInt32} (task : Task) :
    (∃ id, (id, task) ∈ (system.tasks.erase taskId).entries) ↔
      (∃ id, (id, task) ∈ system.tasks.entries) ∧ task.taskId ≠ taskId := by
  constructor
  · rintro ⟨id, member⟩
    obtain ⟨old, differ⟩ := OrderedMap.mem_erase.mp member
    exact ⟨⟨id, old⟩, fun same => differ ((tidy.named _ old).symm.trans same)⟩
  · rintro ⟨⟨id, old⟩, differ⟩
    exact ⟨id, OrderedMap.mem_erase.mpr ⟨old, fun same => differ ((tidy.named _ old).trans same)⟩⟩

/-- A message of the queue layer keeps the board sound. -/
theorem sound_queueLayerOnMessage (sound : system.board.Sound desk) {queue : SdkQueue}
    {message : SdkMessage} (whole : system.Tidy)
    (tidy : ({ system with queueThread := queue } : System).Tidy)
    (lasting : message.messageId ≠ mqidDispose) (proper : Proper message)
    (toQueueLayer : message.phandler = some .queueLayer)
    (first : system.notices = (notice message).toList ++ queue.msgq.filterMap notice)
    (quiet : ∀ session resJson resData origin,
      message.pdata = some (.responseData session resJson resData origin) →
      taker 0 (.responseData session resJson resData origin) system.tasks.entries = .nobody →
        (system.threads system.pushThread).waitingRequest = none) :
    (({ system with queueThread := queue } : System).queueLayerOnMessage message).board.Sound
      desk := by
  obtain ⟨phandler, messageId, pdata⟩ := message
  simp only at toQueueLayer lasting quiet
  subst toQueueLayer
  have told : notice ⟨some .queueLayer, messageId, pdata⟩ = payloadNotice pdata :=
    if_pos ⟨rfl, lasting⟩
  rw [told] at first
  -- Where the message is no notice, nothing on the board is taken with it.
  have calm (dull : system.notices = queue.msgq.filterMap notice) :
      Calm system { system with queueThread := queue } :=
    ⟨tidy, rfl, rfl, dull.symm, fun flies => flies⟩
  unfold queueLayerOnMessage
  split
  · next task payload =>
      simp only at payload
      subst payload
      split
      · next isPush =>
          refine sound.discard first (by simp) ?_
          rintro _ topic ⟨⟩
          exact not_accepts_of_pushManager isPush topic
      · exact sound_onTranslateToAsyncLayer whole sound first
  · next task payload =>
      simp only at payload
      subst payload
      refine (sound.unregister first).of_covers
        ⟨?_, rfl, fun flies => flies, fun waits => waits, fun given => given⟩
      exact mem_erase_task tidy _
  · next sessionId payload =>
      simp only at payload
      subst payload
      exact sound.of_covers ((calm first).covers.trans (routine_removeSession tidy _).covers)
  · next sessionId address payload =>
      simp only at payload
      subst payload
      exact sound.of_covers ((calm first).covers.trans (routine_post tidy rfl).covers)
  · next payload =>
      simp only at payload
      subst payload
      exact sound.of_covers (calm first).covers
  · next type sessionId _ _ payload =>
      simp only at payload
      subst payload
      exact sound.of_covers ((calm first).covers.trans (covers_onTranslateToSyncLayer _ _ _))
  · next session resJson resData origin payload =>
      simp only at payload
      subst payload
      have numberless : messageId = 0 := proper
      subst numberless
      exact sound_response whole sound first (quiet session resJson resData origin rfl)
  · next noAsk noDrop _ _ _ _ noReply =>
      have nothing : payloadNotice pdata = none := by
        unfold payloadNotice
        split
        · exact absurd rfl (noAsk _)
        · exact absurd rfl (noDrop _)
        · exact absurd rfl (noReply _ _ _ _)
        · rfl
      rw [nothing] at first
      exact sound.of_covers (calm first).covers

/-- A turn of the queue thread keeps the board sound. -/
theorem sound_queueThreadTurn (tidy : system.Tidy) (sound : system.board.Sound desk) {now : UInt32}
    {answer : ConnectAnswer} (quiet : system.Quiet (.queueThread now answer)) :
    (system.queueThreadTurn now answer).1.board.Sound desk := by
  obtain ⟨leaves, takes⟩ := MessageQueue.getPass_subset system.queueThread now .zero
  obtain ⟨_, first⟩ := tidy.queue.getPass now .zero
  have tidyTaken := tidy_takeQueue tidy now
  unfold queueThreadTurn
  simp only
  split
  · next found =>
      rw [if_pos found] at first
      have lasting : (system.queueThread.getPass now .zero).pmsg.messageId ≠ mqidDispose := by
        obtain ⟨ready, left, _, _, taken, isFound⟩ :=
          MessageQueue.getPass_unpeeked system.queueThread now .zero tidy.queue.unpeeked
        rw [taken]
        exact MessageQueue.pull_lasting (isFound ▸ found)
      have proper := tidy.queue.proper _ (takes found)
      have calm (elsewhere : (system.queueThread.getPass now .zero).pmsg.phandler ≠ some .queueLayer) :
          Calm system
            { system with queueThread := (system.queueThread.getPass now .zero).queue } := by
        refine ⟨tidyTaken, rfl, rfl, ?_, fun flies => flies⟩
        have nothing : notice (system.queueThread.getPass now .zero).pmsg = none := by
          simp [notice, elsewhere]
        rw [nothing] at first
        exact first.symm
      unfold dispatch
      split
      · next toQueueLayer =>
          exact sound_queueLayerOnMessage sound tidy tidyTaken lasting proper toQueueLayer first
            fun session resJson resData origin payload =>
              quiet session resJson resData origin found payload
      · next toManager =>
          refine sound.of_covers (covers_sessionManagerOnMessage (calm ?_) now answer ?_)
          · rw [toManager]
            simp
          · intro sessionId reqJson isPush tag payload
            unfold Proper at proper
            rw [payload] at proper
            exact proper.elim
      · next serial toSession =>
          have taken := calm (by rw [toSession]; simp)
          exact sound.of_covers (taken.covers.trans (routine_sessionOnMessage tidyTaken _ now).covers)
      · next notQueueLayer _ _ => exact sound.of_covers (calm notQueueLayer).covers
  · next unfound =>
      rw [if_neg unfound] at first
      exact sound.of_covers (Calm.covers ⟨tidyTaken, rfl, rfl, first.symm, fun flies => flies⟩)

/-! ## Every quiet step -/

/-- A turn of the queue thread returns from no request. -/
theorem answersOwn_queueThreadTurn (system : System) (now : UInt32) (answer : ConnectAnswer) :
    AnswersOwn (system.queueThreadTurn now answer).2 := by
  refine answersOwn_of_not_returned fun task msg => ?_
  unfold queueThreadTurn
  simp only
  split
  · exact not_returned_dispatch _ _ _ _ _ _
  · simp

/-- A turn of the asynchronous thread returns from no request. -/
theorem answersOwn_asyncThreadTurn (system : System) (now : UInt32) (answer : ConnectAnswer) :
    AnswersOwn (system.asyncThreadTurn now answer).2 := by
  refine answersOwn_of_not_returned fun task msg => ?_
  unfold asyncThreadTurn
  simp only
  split
  · exact not_returned_dispatch _ _ _ _ _ _
  · simp

/-- A turn of the push thread returns from no request. -/
theorem answersOwn_pushThreadTurn {now : UInt32} {memory : Json} {emitted : List SystemOutput}
    (transition : system.pushThreadTurn now memory = some (next, emitted)) :
    AnswersOwn emitted := by
  refine answersOwn_of_not_returned fun task msg returned => ?_
  unfold pushThreadTurn at transition
  simp only at transition
  split at transition
  · simp only [Option.some.injEq, Prod.mk.injEq] at transition
    obtain ⟨_, rfl⟩ := transition
    simp at returned
  · cases transition

/-- A quiet step keeps the board sound, and what it returns to a request is the answer to it. -/
theorem sound_step {label : SystemLabel} {emitted : List SystemOutput} (tidy : system.Tidy)
    (sound : system.board.Sound desk) (quiet : system.Quiet label)
    (transition : system.step label = some (next, emitted)) :
    next.board.Sound desk ∧ AnswersOwn emitted := by
  have ofSilent {result : Option System}
      (kept : ∀ {final}, result = some final → final.board.Sound desk)
      (done : silent result = some (next, emitted)) : next.board.Sound desk ∧ AnswersOwn emitted := by
    obtain ⟨final, isFinal, same⟩ := Option.map_eq_some_iff.mp done
    cases same
    exact ⟨kept isFinal, answersOwn_of_not_returned (by simp)⟩
  by_cases isRoutine : label.routine = true
  · obtain ⟨routine, rfl⟩ := routine_step tidy isRoutine transition
    exact ⟨sound.of_covers routine.covers, answersOwn_of_not_returned (by simp)⟩
  · unfold step at transition
    split at transition
    · cases transition
    · cases label with
      | queueThread now answer =>
          have turn := sound_queueThreadTurn tidy sound quiet
          have returns := answersOwn_queueThreadTurn system now answer
          rw [Option.some.inj transition] at turn returns
          exact ⟨turn, returns⟩
      | asyncThread now answer =>
          have turn := sound_asyncThreadTurn tidy sound now answer
          have returns := answersOwn_asyncThreadTurn system now answer
          rw [Option.some.inj transition] at turn returns
          exact ⟨turn, returns⟩
      | pushThread now memory =>
          exact ⟨sound_pushThreadTurn sound transition, answersOwn_pushThreadTurn transition⟩
      | connect thread address timeout now =>
          exact ofSilent (sound_syncProcessTask tidy sound quiet (by simp [newTask, Task.request]))
            transition
      | disconnect thread sessionId timeout now =>
          exact ofSilent (sound_syncProcessTask tidy sound quiet (by simp [newTask, Task.request]))
            transition
      | request thread kind sessionId reqJson timeout now =>
          exact ofSilent (fun isFinal => sound_syncProcessTask tidy sound quiet.1 (fun _ => quiet.2)
            (syncProcessTask_of_requestTask isFinal)) transition
      | wait thread label =>
          simp only at transition
          split at transition
          · next own => exact sound_waitStep tidy sound own transition
          · cases transition
      | connectServer => exact ofSilent (sound_connectServer tidy sound) transition
      | postTask => exact ofSilent (sound_postTask tidy sound quiet) transition
      | addPushHandle | removePushHandle =>
          simp only [Option.some.injEq, Prod.mk.injEq] at transition
          obtain ⟨rfl, rfl⟩ := transition
          exact ⟨sound, answersOwn_of_not_returned (by simp)⟩
      | destroyTask => exact ofSilent (sound_destroyTask sound) transition
      | readEvent => exact ofSilent (sound_readEvent tidy sound quiet) transition
      | devicePush => exact ofSilent (sound_devicePush tidy sound) transition
      | _ => exact absurd rfl isRoutine

/-- Nothing is on the board at first. -/
theorem sound_start (pushThread : Nat) : (System.start pushThread).board.Sound desk := by
  have notices : (System.start pushThread).board.notices =
    [.ask ⟨2, pushThread, 50000, .pushManager⟩] := rfl
  have nothing {ahead topic origin} :
      ¬(System.start pushThread).board.OnItsWay desk ahead topic origin := by
    refine Board.not_onItsWay ?_ ?_ ?_
    · intro task topic queued expected
      rw [notices] at queued
      cases List.mem_singleton.mp queued
      obtain ⟨_, _, isRequest, _⟩ := expected
      cases isRequest
    · intro topic origin queued
      rw [notices] at queued
      cases List.mem_singleton.mp queued
    · rintro topic origin (⟨_, member, _⟩ | ⟨_, member, _⟩)
      · exact absurd member List.not_mem_nil
      · exact absurd member List.not_mem_nil
  have known {task : Task} (known : (System.start pushThread).board.Known task) :
      task = ⟨2, pushThread, 50000, .pushManager⟩ := by
    rcases known with ⟨_, member⟩ | queued
    · exact absurd member List.not_mem_nil
    · rw [notices] at queued
      exact Notice.ask.inj (List.mem_singleton.mp queued)
  refine ⟨?_, ?_, ?_, fun _ _ _ _ way => absurd way nothing, ?_⟩
  · rw [notices]
    exact List.pairwise_singleton _ _
  · exact fun first second _ => (known first).trans (known second).symm
  · exact fun queued => absurd (.posted queued) nothing
  · intro thread request waits
    cases waits

end System

/-- In every run of quiet steps a request is given the answer to itself: not the answer to
an earlier request of the same command that has timed out, nor to a concurrent one. -/
theorem response_answers_request {pushThread : Nat} {labels : List SystemLabel} {final : System}
    {outputs : List SystemOutput}
    (run : sdkMachine.RunWhere System.Quiet (System.start pushThread) labels final outputs) :
    AnswersOwn outputs := by
  have invariant := run.invariant
    (fun _ system outputs => (system.Tidy ∧ system.board.Sound desk) ∧ AnswersOwn outputs)
    ⟨⟨System.tidy_start pushThread, System.sound_start pushThread⟩,
      answersOwn_of_not_returned (by simp)⟩ ?_
  · exact invariant.2
  · rintro labels system outputs label next emitted ⟨⟨tidy, sound⟩, answered⟩ quiet transition
    obtain ⟨kept, returns⟩ := System.sound_step tidy sound quiet transition
    exact ⟨⟨System.tidy_step tidy transition, kept⟩, answered.append returns⟩

/-! ## A check of the condition -/

namespace System

/-- The tasks that are registered, and those queued for it. -/
def knownTasks (system : System) : List Task :=
  system.tasks.entries.map Prod.snd ++ system.notices.filterMap fun
    | .ask task => some task
    | _ => none

/-- The removal of the task with this id is queued. -/
def dropQueued (system : System) (id : UInt32) : Bool :=
  system.notices.any fun
    | .drop gone => gone = id
    | _ => false

/-- The task stays registered until an answer that is queued now is routed, and takes it. -/
def heedsAnswer (system : System) (sessionId : UInt32) (resJson : Json) (task : Task) : Bool :=
  task.handleMessage 0 (.responseData sessionId resJson [] none) = some true &&
    !system.dropQueued task.taskId

/-- No task has the next id, and no removal of it is queued. -/
def nextUnused (system : System) : Bool :=
  system.knownTasks.all (fun task => task.taskId ≠ system.taskCounter + 1) &&
    !system.dropQueued (system.taskCounter + 1)

/-- No task of the thread is left, and nothing on its queue. -/
def unburdened (system : System) (thread : Nat) : Bool :=
  system.knownTasks.all (fun task => task.thread ≠ thread) &&
    (system.threads thread).waitingRequest.isNone &&
    (system.threads thread).wait.queue.contents.isEmpty

/-- A check that is enough for a step to be quiet. -/
def quietCheck (system : System) : SystemLabel → Bool
  | .connect _ _ _ _ => system.nextUnused
  | .disconnect _ _ _ _ => system.nextUnused
  | .request thread _ _ _ _ _ => system.nextUnused && system.unburdened thread
  | .postTask _ _ _ => system.nextUnused
  | .readEvent serial =>
      (system.findSerial serial).all fun session => session.incoming.head?.all fun answer =>
        answer.resJson.all fun resJson =>
          let heeds := system.heedsAnswer session.sessionId resJson
          system.knownTasks.all fun task => heeds task →
            some task.taskId = answer.origin ∨
              system.knownTasks.any fun other => heeds other && other.taskId < task.taskId
  | .queueThread _ _ => (system.threads system.pushThread).waitingRequest.isNone
  | _ => true

variable {system : System} {thread : Nat}

/-- The known tasks are those of the board. -/
theorem mem_knownTasks {task : Task} : task ∈ system.knownTasks ↔ system.board.Known task := by
  unfold knownTasks Board.Known
  rw [List.mem_append]
  refine or_congr ?_ ?_
  · constructor
    · intro member
      obtain ⟨⟨id, _⟩, inTable, rfl⟩ := List.mem_map.mp member
      exact ⟨id, inTable⟩
    · rintro ⟨id, inTable⟩
      exact List.mem_map_of_mem inTable
  · constructor
    · intro member
      obtain ⟨notice, queued, isTask⟩ := List.mem_filterMap.mp member
      cases notice with
      | ask other =>
          cases isTask
          exact queued
      | drop | reply => cases isTask
    · intro queued
      exact List.mem_filterMap.mpr ⟨_, queued, rfl⟩

/-- Whether a task is about to be dropped can be looked up. -/
theorem dropQueued_iff {id : UInt32} :
    system.dropQueued id = true ↔ .drop id ∈ system.board.notices := by
  unfold dropQueued
  rw [List.any_eq_true]
  constructor
  · rintro ⟨notice, queued, isDrop⟩
    cases notice with
    | drop gone => exact of_decide_eq_true isDrop ▸ queued
    | ask | reply => cases isDrop
  · intro queued
    exact ⟨_, queued, decide_eq_true rfl⟩

/-- The task takes an answer that is queued now, unless a task before it does. -/
theorem heedsAnswer_iff {sessionId : UInt32} {resJson : Json} {task : Task}
    (known : system.board.Known task) :
    system.heedsAnswer sessionId resJson task = true ↔
      system.board.Heeds desk system.board.notices (sessionId, resJson.cmd) task := by
  have isDropped : system.dropQueued task.taskId = false ↔
      .drop (desk.id task) ∉ system.board.notices := by
    rw [← Bool.not_eq_true, dropQueued_iff]
    rfl
  unfold heedsAnswer
  rw [Bool.and_eq_true, decide_eq_true_eq, Bool.not_eq_true', isDropped]
  constructor
  · rintro ⟨handled, stays⟩
    exact ⟨known, accepts_of_handleMessage handled, stays⟩
  · rintro ⟨_, accepts, stays⟩
    exact ⟨handleMessage_of_accepts accepts, stays⟩

/-- The check for a new task is enough. -/
theorem unused_of_nextUnused (free : system.nextUnused = true) (timeout : UInt32)
    (data : TaskData) : system.board.Unused desk (system.newTask thread timeout data).2 := by
  obtain ⟨tasks, noDrop⟩ := Bool.and_eq_true_iff.mp free
  constructor
  · intro other known
    exact of_decide_eq_true (List.all_eq_true.mp tasks other (mem_knownTasks.mpr known))
  · intro dropped
    rw [Bool.not_eq_true'] at noDrop
    exact Bool.false_ne_true (noDrop.symm.trans (dropQueued_iff.mpr dropped))

/-- The check for a request is enough. -/
theorem settled_of_unburdened (free : system.unburdened thread = true) :
    system.board.Settled desk thread := by
  simp only [unburdened, Bool.and_eq_true, Option.isNone_iff_eq_none, List.isEmpty_iff] at free
  obtain ⟨⟨tasks, idle⟩, emptyQueue⟩ := free
  constructor
  · intro ahead topic origin way other known fromThread
    have elsewhere := List.all_eq_true.mp tasks other (mem_knownTasks.mpr known)
    exact absurd fromThread (of_decide_eq_true elsewhere)
  · rintro origin ⟨message, held, _⟩
    have queued := queued_of_holds idle held
    rw [emptyQueue] at queued
    cases queued

/-- The check is enough for the condition. -/
theorem quiet_of_check (system : System) (label : SystemLabel)
    (checked : system.quietCheck label = true) : system.Quiet label := by
  cases label with
  | connect | disconnect | postTask => exact unused_of_nextUnused checked _ _
  | request thread kind sessionId reqJson timeout now =>
      obtain ⟨free, alone⟩ := Bool.and_eq_true_iff.mp checked
      exact ⟨unused_of_nextUnused free _ _, settled_of_unburdened alone⟩
  | readEvent serial =>
      intro session answer incoming resJson found pending isJson task takes
      have known : system.board.Known task := takes.heeds.registered
      simp only [quietCheck, found, pending, isJson, Option.all_some, List.head?_cons] at checked
      have claims := of_decide_eq_true
        (List.all_eq_true.mp checked task (mem_knownTasks.mpr known)) ((heedsAnswer_iff known).mpr takes.heeds)
      rcases claims with own | rival
      · exact own
      · obtain ⟨other, member, isRival⟩ := List.any_eq_true.mp rival
        obtain ⟨heeds, below⟩ := Bool.and_eq_true_iff.mp isRival
        have heeds := (heedsAnswer_iff (mem_knownTasks.mp member)).mp heeds
        exact absurd (of_decide_eq_true below) (takes.first other heeds)
  | queueThread now answer =>
      intro session resJson resData origin _ _ _
      exact Option.isNone_iff_eq_none.mp checked
  | _ => trivial

end System

/-- The origins of the responses that requests have returned, with the requests' ids. -/
def SystemOutput.response : SystemOutput → Option (UInt32 × Option UInt32)
  | .returned task msg =>
      match task.data, msg.pdata with
      | .request _ _ _, some (.responseData _ _ _ origin) => some (task.taskId, origin)
      | _, _ => none
  | _ => none

/-- Every response is its own exactly when the origins say so. -/
theorem answersOwn_iff (outputs : List SystemOutput) :
    AnswersOwn outputs ↔
      ∀ pair ∈ outputs.filterMap SystemOutput.response, pair.2 = some pair.1 := by
  constructor
  · intro own pair member
    obtain ⟨output, emitted, isPair⟩ := List.mem_filterMap.mp member
    unfold SystemOutput.response at isPair
    split at isPair
    · split at isPair
      · next task msg _ _ kind sessionId reqJson session resJson resData origin isRequest response =>
          cases isPair
          exact own _ _ _ _ _ _ _ _ _ emitted isRequest response
      · cases isPair
    · cases isPair
  · intro all task kind sessionId reqJson msg session resJson resData origin returned isRequest response
    refine all (task.taskId, origin) (List.mem_filterMap.mpr ⟨_, returned, ?_⟩)
    simp [SystemOutput.response, isRequest, response]

/-- Thread 1 opens session 2. -/
def sessionOpened : List SystemLabel :=
  [.queueThread 1000 .pending, .connect 1 ⟨"192.168.0.2", 8131⟩ 5000 1000,
    .queueThread 1000 .pending, .asyncThread 1000 .pending, .connectEvent 0 1000,
    .queueThread 1000 .pending]

/-- A request for the device's data. -/
def deviceInfo : Json := .object [("cmd", .string "get_device_info")]

/-- The thread asks for the device information, and the device receives the request. The queue
thread may have the removal of an earlier task to do first. -/
def asks (thread : Nat) (now : UInt32) : List SystemLabel :=
  [.request thread .req 2 deviceInfo 5000 now, .queueThread now .pending,
    .queueThread now .pending, .asyncThread now .pending, .deviceReceive 0]

/-- The device answers the oldest request, and the thread takes what it is given. The queue
thread may have the removal of an earlier task to do first. -/
def answers (thread : Nat) (now : UInt32) : List SystemLabel :=
  [.deviceAnswer 0 deviceInfo [], .readEvent 0, .queueThread now .pending,
    .queueThread now .pending, .wait thread (.call now), .wait thread (.check now)]

/-- Thread 2 stops waiting, and its task is removed. -/
def timesOut : List SystemLabel :=
  [.wait 2 (.call 1000), .wait 2 (.wake false 7000), .wait 2 (.check 7000),
    .queueThread 7000 .pending]

/-- Threads 2 and 3 ask for the same thing at once, and thread 2 asks again. -/
def asksTwice : List SystemLabel :=
  sessionOpened ++ asks 2 1000 ++ asks 3 1000 ++ answers 2 1000 ++ answers 3 1000 ++
    asks 2 2000 ++ answers 2 2000

/-- Each of the three requests returns the answer to itself. -/
theorem response_answers_single :
    ∃ final outputs,
      sdkMachine.RunWhere System.Quiet (System.start 0) asksTwice final outputs ∧
      outputs.filterMap SystemOutput.response = [(4, some 4), (5, some 5), (6, some 6)] ∧
      AnswersOwn outputs := by
  have checked : (sdkMachine.exec (System.start 0) asksTwice).any fun result =>
      result.2.filterMap SystemOutput.response = [(4, some 4), (5, some 5), (6, some 6)] := by
    decide +kernel
  have permitted : sdkMachine.permits System.quietCheck (System.start 0) asksTwice = true := by
    decide +kernel
  obtain ⟨final, outputs, run, responses⟩ :=
    Machine.exists_runWhere_of_exec System.quiet_of_check permitted checked
  exact ⟨final, outputs, run, by simpa using responses, response_answers_request run⟩

/-- The request 4 times out; the request 5 of the same command returns the answer to 4. -/
theorem late_answer_misrouted :
    ∃ final outputs,
      sdkMachine.Run (System.start 0)
        (sessionOpened ++ asks 2 1000 ++ timesOut ++ asks 2 7000 ++ answers 2 7000) final outputs ∧
      outputs.filterMap SystemOutput.response = [(5, some 4)] ∧ ¬AnswersOwn outputs := by
  have checked : (sdkMachine.exec (System.start 0)
      (sessionOpened ++ asks 2 1000 ++ timesOut ++ asks 2 7000 ++ answers 2 7000)).any fun result =>
        result.2.filterMap SystemOutput.response = [(5, some 4)] := by decide +kernel
  obtain ⟨final, outputs, run, responses⟩ := Machine.exists_run_of_exec checked
  have responses : outputs.filterMap SystemOutput.response = [(5, some 4)] := by
    simpa using responses
  refine ⟨final, outputs, run, responses, ?_⟩
  rw [answersOwn_iff, responses]
  simp

end VzSdk.Sdk
