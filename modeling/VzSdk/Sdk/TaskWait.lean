import VzSdk.Std.Machine
import VzSdk.Event.MessageQueue

/-!
# Waiting for a task

`Task::WaitTaskDone` pumps the queue of the thread it is called on until a
message for its own task arrives or its time is over. Other threads post to the
same queue at any moment. A message for any other handler is taken from the
queue and dropped: the call of `Dispatch` is commented out in the source.
`waitTaskDone_lossless_iff` says in exactly which runs nothing is lost.
-/

namespace VzSdk.Sdk

open VzSdk.Base VzSdk.Event VzSdk.Std
open scoped List

variable {Handler Data : Type}

/-- What `WaitTaskDone` reads of its task. -/
structure Waiter (Handler : Type) where
  /-- The task object as a message handler. -/
  self : Handler
  taskId : UInt32
  timeout : UInt32

/-- Where `WaitTaskDone` stands. -/
inductive WaitPhase where
  /-- Before the next call of `Get`. -/
  | calling
  /-- Inside `Get`, in `SocketServer::Wait`. -/
  | waiting (msStart : UInt32)
  /-- `Get` has returned. -/
  | returned
  /-- The loop is left. -/
  | done
deriving DecidableEq, Repr

/-- The thread that waits: its queue and the variables of the loop. -/
structure WaitState (Handler Data : Type) where
  queue : MessageQueue Handler Data
  /-- The one message object that every `Get` of the loop writes to. -/
  msg : Message Handler Data
  msEnd : UInt32
  cmsNext : Int
  phase : WaitPhase
deriving DecidableEq, Repr

/-- The start of `WaitTaskDone` at clock reading `now`. -/
def WaitState.start (task : Waiter Handler) (queue : MessageQueue Handler Data) (now : UInt32) :
    WaitState Handler Data :=
  ⟨queue, .zero, timeAfter now (intOfUInt32 task.timeout), intOfUInt32 task.timeout, .calling⟩

/-- What happens while a thread waits. -/
inductive WaitLabel (Handler Data : Type) where
  /-- Another thread posts to the queue, at once or delayed, or stops it. -/
  | post (message : Message Handler Data)
  | postDelayed (now : UInt32) (cmsDelay : Int) (message : Message Handler Data)
  | quit
  /-- Call `Get`, which reads the clock and makes its first pass. -/
  | call (now : UInt32)
  /-- `SocketServer::Wait` returns, at clock reading `now`. -/
  | wake (ok : Bool) (now : UInt32)
  /-- Look at the message after `Get`. -/
  | check (now : UInt32)

/-- What comes into the queue and what leaves it. -/
inductive WaitOutput (Handler Data : Type) where
  | queued (message : Message Handler Data)
  | taken (message : Message Handler Data)
  | dispatched (message : Message Handler Data)

namespace WaitState

/-- A pass of `Get`, started with `cmsWait = cmsNext` at `msStart`. -/
def pass (state : WaitState Handler Data) (msStart msCurrent : UInt32) :
    WaitState Handler Data × List (WaitOutput Handler Data) :=
  let pass := state.queue.getPass msCurrent state.msg
  let phase := if pass.found || state.queue.fStop then .returned else .waiting msStart
  ({ state with queue := pass.queue, msg := pass.pmsg, phase := phase }, pass.taken.map .taken)

/-- The message is the one the task waits for. -/
def isOwn (task : Waiter Handler) (message : Message Handler Data) : Bool :=
  message.phandler.isSome && message.messageId == task.taskId

/-- The test after `Get`. A message for another handler is dropped here. -/
def check (task : Waiter Handler) (state : WaitState Handler Data) (now : UInt32) :
    WaitState Handler Data :=
  if isOwn task state.msg then { state with phase := .done }
  else
    let cmsNext := timeUntil now state.msEnd
    { state with cmsNext := cmsNext, phase := if cmsNext < 0 then .done else .calling }

/-- What happens in a wait, and what becomes of the messages of the queue. -/
def step (task : Waiter Handler) (state : WaitState Handler Data) :
    WaitLabel Handler Data → Option (WaitState Handler Data × List (WaitOutput Handler Data))
  | .post message =>
      some ({ state with queue := state.queue.post message },
        if state.queue.fStop then [] else [.queued message])
  | .postDelayed now cmsDelay message =>
      some ({ state with queue := state.queue.postDelayed now cmsDelay message },
        if state.queue.fStop then [] else [.queued message])
  | .quit => some ({ state with queue := state.queue.quit }, [])
  | .call now => if state.phase = .calling then some (state.pass now now) else none
  | .wake ok now =>
      match state.phase with
      | .waiting msStart =>
          if ok = false ∨ (state.cmsNext ≠ kForever ∧ timeDiff now msStart ≥ state.cmsNext) then
            some ({ state with phase := .returned }, [])
          else some (state.pass msStart now)
      | _ => none
  | .check now => if state.phase = .returned then some (state.check task now, []) else none

end WaitState

/-- `WaitTaskDone` among the other threads that post to its queue. -/
def waitMachine (task : Waiter Handler) :
    Machine (WaitState Handler Data) (WaitLabel Handler Data) (WaitOutput Handler Data) :=
  ⟨WaitState.step task⟩

/-! ## What is lost -/

/-- The messages that came into the queue. -/
def queuedMessages (outputs : List (WaitOutput Handler Data)) : List (Message Handler Data) :=
  outputs.filterMap fun
    | .queued message => some message
    | _ => none

/-- The messages that were taken from the queue. -/
def takenMessages (outputs : List (WaitOutput Handler Data)) : List (Message Handler Data) :=
  outputs.filterMap fun
    | .taken message => some message
    | _ => none

/-- The messages whose handler was called. -/
def dispatchedMessages (outputs : List (WaitOutput Handler Data)) : List (Message Handler Data) :=
  outputs.filterMap fun
    | .dispatched message => some message
    | _ => none

/-- What came in comes in part by part. -/
@[simp] theorem queuedMessages_append (first second : List (WaitOutput Handler Data)) :
    queuedMessages (first ++ second) = queuedMessages first ++ queuedMessages second :=
  List.filterMap_append

/-- What was taken is taken part by part. -/
@[simp] theorem takenMessages_append (first second : List (WaitOutput Handler Data)) :
    takenMessages (first ++ second) = takenMessages first ++ takenMessages second :=
  List.filterMap_append

/-- What was dispatched is dispatched part by part. -/
@[simp] theorem dispatchedMessages_append (first second : List (WaitOutput Handler Data)) :
    dispatchedMessages (first ++ second) = dispatchedMessages first ++ dispatchedMessages second :=
  List.filterMap_append

/-- All of these messages were taken. -/
@[simp] theorem takenMessages_map (messages : List (Message Handler Data)) :
    takenMessages (messages.map .taken) = messages := by
  induction messages with
  | nil => rfl
  | cons message messages inductionHypothesis =>
      exact congrArg (List.cons message) inductionHypothesis

/-- None of the messages that were taken came in. -/
@[simp] theorem queuedMessages_map (messages : List (Message Handler Data)) :
    queuedMessages (messages.map .taken) = [] := by
  induction messages with
  | nil => rfl
  | cons message messages inductionHypothesis => exact inductionHypothesis

/-- None of the messages that were taken was dispatched. -/
@[simp] theorem dispatchedMessages_map (messages : List (Message Handler Data)) :
    dispatchedMessages (messages.map .taken) = [] := by
  induction messages with
  | nil => rfl
  | cons message messages inductionHypothesis => exact inductionHypothesis

section Loss

variable [DecidableEq Handler]

/-- A message that is not addressed to the task and that `Get` hands out. -/
def foreign (task : Waiter Handler) (message : Message Handler Data) : Bool :=
  message.phandler != some task.self && message.messageId != mqidDispose

/-- Every message for somebody else that was queued at the start or since is
still queued or has been dispatched. -/
def Lossless (task : Waiter Handler) (start final : WaitState Handler Data)
    (outputs : List (WaitOutput Handler Data)) : Prop :=
  ((start.queue.contents ++ queuedMessages outputs).filter (foreign task)).Perm
    ((final.queue.contents ++ dispatchedMessages outputs).filter (foreign task))

/-- The pass this label makes over the queue, if it makes one. -/
def WaitState.nextPass (state : WaitState Handler Data) :
    WaitLabel Handler Data → Option (GetPass Handler Data)
  | .call now => some (state.queue.getPass now state.msg)
  | .wake ok now =>
      match state.phase with
      | .waiting msStart =>
          if ok = false ∨ (state.cmsNext ≠ kForever ∧ timeDiff now msStart ≥ state.cmsNext) then none
          else some (state.queue.getPass now state.msg)
      | _ => none
  | _ => none

/-- No message for somebody else stands first when the queue is read. -/
def NoForeignFirst (task : Waiter Handler) (state : WaitState Handler Data)
    (label : WaitLabel Handler Data) : Prop :=
  ∀ pass, state.nextPass label = some pass → ∀ message ∈ pass.taken, foreign task message = false

/-- A foreign message is not one that asks for a disposal. -/
theorem foreign_lasting (task : Waiter Handler) (message : Message Handler Data)
    (isForeign : foreign task message = true) : message.messageId ≠ mqidDispose := by
  simp only [foreign, Bool.and_eq_true, bne_iff_ne] at isForeign
  exact isForeign.2

/-- What one step does to the queue and reports about it. -/
structure StepAccount (task : Waiter Handler) (state : WaitState Handler Data)
    (label : WaitLabel Handler Data) (next : WaitState Handler Data)
    (emitted : List (WaitOutput Handler Data)) : Prop where
  /-- What was there or came is there or was taken. -/
  conserves : ((takenMessages emitted ++ next.queue.contents).filter (foreign task)).Perm
    ((queuedMessages emitted ++ state.queue.contents).filter (foreign task))
  /-- Messages are taken by passes only. -/
  takes : takenMessages emitted = ((state.nextPass label).map (·.taken)).getD []
  /-- Nothing is dispatched. -/
  silent : dispatchedMessages emitted = []

/-- A pass of `Get` takes from the queue what it returns and what it deletes. -/
theorem pass_account (task : Waiter Handler) {state : WaitState Handler Data}
    {label : WaitLabel Handler Data} (msStart msCurrent : UInt32)
    (passes : state.nextPass label = some (state.queue.getPass msCurrent state.msg)) :
    StepAccount task state label (state.pass msStart msCurrent).1
      (state.pass msStart msCurrent).2 where
  conserves := by
    have account := MessageQueue.getPass_conserves (foreign_lasting task) state.queue msCurrent
      state.msg
    simpa [WaitState.pass] using account
  takes := by simp [WaitState.pass, passes]
  silent := by simp [WaitState.pass]

/-- A message arrives, and nothing is taken. -/
theorem arrival_account (task : Waiter Handler) {state next : WaitState Handler Data}
    {label : WaitLabel Handler Data} {message : Message Handler Data}
    (noPass : state.nextPass label = none)
    (arrives : next.queue.contents.Perm
      ((if state.queue.fStop then [] else [message]) ++ state.queue.contents)) :
    StepAccount task state label next (if state.queue.fStop then [] else [.queued message]) where
  conserves := by
    have account := arrives.filter (foreign task)
    cases stopped : state.queue.fStop <;>
      simpa [stopped, takenMessages, queuedMessages] using account
  takes := by
    cases stopped : state.queue.fStop <;> simp [noPass, takenMessages]
  silent := by
    cases stopped : state.queue.fStop <;> simp [dispatchedMessages]

/-- Nothing arrives and nothing is taken. -/
theorem idle_account (task : Waiter Handler) {state next : WaitState Handler Data}
    {label : WaitLabel Handler Data} (noPass : state.nextPass label = none)
    (same : next.queue.contents = state.queue.contents) :
    StepAccount task state label next [] where
  conserves := by simp [same, takenMessages, queuedMessages]
  takes := by simp [noPass, takenMessages]
  silent := rfl

/-- Every step accounts for the messages of the queue. -/
theorem step_account (task : Waiter Handler) {state next : WaitState Handler Data}
    {label : WaitLabel Handler Data} {emitted : List (WaitOutput Handler Data)}
    (transition : state.step task label = some (next, emitted)) :
    StepAccount task state label next emitted := by
  cases label with
  | post message =>
      cases transition
      exact arrival_account task rfl (MessageQueue.contents_post _ _)
  | postDelayed now cmsDelay message =>
      cases transition
      exact arrival_account task rfl (MessageQueue.contents_doDelayPost _ _ _ _)
  | quit =>
      cases transition
      exact idle_account task rfl rfl
  | call now =>
      simp only [WaitState.step] at transition
      split at transition
      · cases transition
        exact pass_account task now now rfl
      · cases transition
  | wake ok now =>
      simp only [WaitState.step] at transition
      split at transition
      · next msStart waiting =>
          split at transition
          · next timedOut =>
              cases transition
              exact idle_account task (by simp only [WaitState.nextPass, waiting, timedOut, if_true]) rfl
          · next more =>
              cases transition
              exact pass_account task msStart now
                (by simp only [WaitState.nextPass, waiting, more, if_false])
      · cases transition
  | check now =>
      simp only [WaitState.step] at transition
      split at transition
      · cases transition
        refine idle_account task rfl ?_
        unfold WaitState.check
        split <;> rfl
      · cases transition

/-- Over a run, what was queued at the start or since is still queued or was taken. -/
theorem run_account (task : Waiter Handler) {start final : WaitState Handler Data}
    {labels : List (WaitLabel Handler Data)} {outputs : List (WaitOutput Handler Data)}
    (run : (waitMachine task).Run start labels final outputs) :
    ((takenMessages outputs ++ final.queue.contents).filter (foreign task)).Perm
        ((queuedMessages outputs ++ start.queue.contents).filter (foreign task)) ∧
      dispatchedMessages outputs = [] := by
  refine run.invariant (fun _ state outputs =>
    ((takenMessages outputs ++ state.queue.contents).filter (foreign task)).Perm
        ((queuedMessages outputs ++ start.queue.contents).filter (foreign task)) ∧
      dispatchedMessages outputs = []) ⟨.refl _, rfl⟩ ?_
  intro labels state outputs label next emitted sofar _ transition
  obtain ⟨balance, silentBefore⟩ := sofar
  have account := step_account task transition
  refine ⟨?_, by rw [dispatchedMessages_append, silentBefore, account.silent, List.append_nil]⟩
  have conserves := account.conserves
  simp only [takenMessages_append, queuedMessages_append, List.filter_append, List.append_assoc]
    at balance conserves ⊢
  have stepped := (conserves.append_left ((takenMessages outputs).filter (foreign task))).trans
    (List.perm_append_comm_assoc _ _ _)
  have before := (balance.append_left ((queuedMessages emitted).filter (foreign task))).trans
    (List.perm_append_comm_assoc _ _ _)
  exact stepped.trans before

/-- The output is not a message taken from somebody else. -/
def harmless (task : Waiter Handler) : WaitOutput Handler Data → Prop
  | .taken message => foreign task message = false
  | _ => True

/-- The outputs are harmless when no foreign message was taken. -/
theorem harmless_iff (task : Waiter Handler) (outputs : List (WaitOutput Handler Data)) :
    (∀ output ∈ outputs, harmless task output) ↔
      ∀ message ∈ takenMessages outputs, foreign task message = false := by
  constructor
  · intro clean message member
    obtain ⟨output, emitted, isTaken⟩ := List.mem_filterMap.mp member
    cases output with
    | taken taken =>
        cases isTaken
        exact clean _ emitted
    | queued | dispatched => cases isTaken
  · intro clean output member
    cases output with
    | taken message => exact clean message (List.mem_filterMap.mpr ⟨_, member, rfl⟩)
    | queued | dispatched => trivial

/-- A step is harmless when it does not take a foreign message from the front. -/
theorem step_harmless_iff (task : Waiter Handler) {state next : WaitState Handler Data}
    {label : WaitLabel Handler Data} {emitted : List (WaitOutput Handler Data)}
    (transition : (waitMachine task).step state label = some (next, emitted)) :
    (∀ output ∈ emitted, harmless task output) ↔ NoForeignFirst task state label := by
  rw [harmless_iff, (step_account task transition).takes, NoForeignFirst]
  cases state.nextPass label <;> simp

/-- A synchronous wait loses nothing of its thread's other messages exactly when
no other message ever stands first in the queue while it reads it. -/
theorem waitTaskDone_lossless_iff (task : Waiter Handler) (queue : MessageQueue Handler Data)
    (now : UInt32) {labels : List (WaitLabel Handler Data)} {final : WaitState Handler Data}
    {outputs : List (WaitOutput Handler Data)}
    (run : (waitMachine task).Run (.start task queue now) labels final outputs) :
    Lossless task (.start task queue now) final outputs ↔
      (waitMachine task).RunWhere (NoForeignFirst task) (.start task queue now) labels final
        outputs := by
  rw [← Machine.RunWhere.clean_iff (step_harmless_iff task) run, harmless_iff]
  obtain ⟨balance, silent⟩ := run_account task run
  rw [List.filter_append] at balance
  have held : ((WaitState.start task queue now).queue.contents ++ queuedMessages outputs).filter
      (foreign task) ~ (takenMessages outputs).filter (foreign task) ++
        final.queue.contents.filter (foreign task) :=
    (List.perm_append_comm.filter _).trans balance.symm
  unfold Lossless
  rw [silent, List.append_nil]
  constructor
  · intro lossless message member
    have sizes := (held.symm.trans lossless).length_eq
    rw [List.length_append] at sizes
    have nothing : (takenMessages outputs).filter (foreign task) = [] :=
      List.length_eq_zero_iff.mp (by omega)
    simpa using List.filter_eq_nil_iff.mp nothing message member
  · intro none
    have nothing : (takenMessages outputs).filter (foreign task) = [] :=
      List.filter_eq_nil_iff.mpr fun message member => by simp [none message member]
    rw [nothing, List.nil_append] at held
    exact held

end Loss

/-- A request with id 7 that waits 1000 ms. -/
def request : Waiter Nat := ⟨7, 7, 1000⟩

/-- The reply arrives while `Get` waits. -/
def replyArrives : List (WaitLabel Nat Nat) :=
  [.call 100, .post ⟨some 7, 7, some 70⟩, .wake true 120, .check 120]

/-- The reply arrives while `Get` waits, and a plate push for handler 3 behind it. -/
def pushBehindReply : List (WaitLabel Nat Nat) :=
  [.call 100, .post ⟨some 7, 7, some 70⟩, .post ⟨some 3, 3, some 30⟩, .wake true 120, .check 120]

/-- The reply stands first and is taken, and the push behind it is still queued. -/
theorem waitTaskDone_lossless_alone :
    ∃ final outputs,
      (waitMachine request).Run (.start request .new 100) pushBehindReply final outputs ∧
      final.phase = .done ∧ final.queue.msgq = [⟨some 3, 3, some 30⟩] ∧
      Lossless request (.start request .new 100) final outputs := by
  have evaluated : (waitMachine request).exec (.start request .new 100) pushBehindReply =
      some (⟨MessageQueue.new.post ⟨some 3, 3, some 30⟩, ⟨some 7, 7, some 70⟩, 1100, 1000, .done⟩,
        [.queued ⟨some 7, 7, some 70⟩, .queued ⟨some 3, 3, some 30⟩,
          .taken ⟨some 7, 7, some 70⟩]) := by
    rfl
  have run := Machine.run_of_exec evaluated
  refine ⟨_, _, run, rfl, rfl, (waitTaskDone_lossless_iff request .new 100 run).mpr ?_⟩
  refine (Machine.RunWhere.clean_iff (step_harmless_iff request) run).mp ?_
  simp [harmless, foreign, request]

/-- A plate push for the push manager, handler 3, is queued when the wait starts. -/
def pushQueued : MessageQueue Nat Nat := MessageQueue.new.post ⟨some 3, 3, some 30⟩

/-- The push is taken before the reply arrives, and is neither queued nor dispatched after. -/
theorem waitTaskDone_loses_push :
    ∃ labels final outputs,
      (waitMachine request).Run (.start request pushQueued 100) labels final outputs ∧
      final.phase = .done ∧ ¬Lossless request (.start request pushQueued 100) final outputs := by
  have evaluated : (waitMachine request).exec (.start request pushQueued 100)
      (.call 100 :: .check 100 :: replyArrives) =
      some (⟨.new, ⟨some 7, 7, some 70⟩, 1100, 1000, .done⟩,
        [.taken ⟨some 3, 3, some 30⟩, .queued ⟨some 7, 7, some 70⟩,
          .taken ⟨some 7, 7, some 70⟩]) := by
    rfl
  refine ⟨_, _, _, Machine.run_of_exec evaluated, rfl, fun lossless => ?_⟩
  have sizes := lossless.length_eq
  revert sizes
  decide

/-! ## Whose message is returned -/

end VzSdk.Sdk
