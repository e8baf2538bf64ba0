import VzSdk.Std.Machine

/-!
# Worker threads of an object

A `SignalThread` belongs to its main thread and does its work in a thread of its
own. `EnterExit` counts the calls that are in the object and deletes it when the
last one leaves; the count of an object at rest is one, for its owner. The main
thread has a stack of the members it is in, each with its `EnterExit`, and the
subclass and the handlers of `SignalWorkDone` may call the members again. The
subclass may also post messages to the worker, which `ContinueWork` dispatches. A
label is one step of either thread, so a run is any interleaving.

`Kept` is what the members keep of an object that is there. It rests on one
account: each member the main thread is in is counted once, and so is a round of
work that is in hand.
-/

namespace VzSdk.Base

open VzSdk.Std

/-- `State` of a `SignalThread`. -/
inductive SignalState where
  | init
  | running
  | releasing
  | complete
  | stopping
deriving DecidableEq, Repr

/-- The thread of `worker_`: not there, in `DoWork`, in `Run` before its lock, or behind it. -/
inductive WorkerPhase where
  | none
  | doWork
  | run
  | ended
deriving DecidableEq, Repr

/-- What the main thread is in, a member of the object or what that has called. -/
inductive SignalFrame where
  | onWorkStart
  /-- `OnWorkStop`, in `Destroy`. -/
  | onWorkStop (wait : Bool)
  /-- `worker_.Stop()` of `Destroy`, which has left the lock. -/
  | destroyStop
  | onWorkDone
  /-- `worker_.Stop()` of `OnMessage`. -/
  | doneStop (doDelete : Bool)
  | signalWorkDone (doDelete : Bool)
deriving DecidableEq, Repr

/-- The object, and what its two threads are at. -/
structure SignalThread where
  state : SignalState
  refcount : Int
  /-- `main_` is not `NULL`. -/
  main : Bool
  worker : WorkerPhase
  /-- `fStop_` of `worker_`. -/
  fStop : Bool
  /-- The messages in the queue of `worker_`. -/
  queued : Nat
  /-- The stack of the main thread. -/
  frames : List SignalFrame
  /-- The messages `ST_MSG_WORKER_DONE` in the queue of the main thread. -/
  posted : Nat
  /-- `fStop_` of the main thread. -/
  mainStop : Bool
  deleted : Bool
deriving DecidableEq, Repr

/-- A step of the main thread, of the worker, or of who posts to the worker. -/
inductive SignalAction where
  | start
  | destroy (wait : Bool)
  | release
  /-- The message comes off the queue of the main thread. -/
  | dispatch
  /-- The virtual member, the signal or `worker_.Stop()` on top of the stack returns. -/
  | goOn
  /-- `OnWorkStart` returns, and the system makes no thread. -/
  | refuse
  /-- A message is posted to `worker_`. -/
  | postWorker
  /-- The subclass asks whether to go on. So many messages are dispatched, and the last of them
  may have taken longer than the time there is. -/
  | continueWork (dispatched : Nat) (late : Bool)
  /-- `DoWork` returns. -/
  | endWork
  /-- `Run` behind `DoWork`. -/
  | post
  | quitMain
  | destroyMain
deriving DecidableEq, Repr

/-- What the subclass, the handlers of the signal and who posts to the worker see. -/
inductive SignalEvent where
  | onWorkStart
  /-- The message is in the queue of `worker_`. -/
  | workerPosted
  | continueWork (dispatched : Nat) (late result : Bool)
  /-- `DoWork` has returned. -/
  | doWork
  | onWorkStop
  | onWorkDone
  | signalWorkDone
  /-- There is no thread. -/
  | refused
  | delete
deriving DecidableEq, Repr

namespace SignalFrame

/-- The subclass, or a handler of the signal, runs. -/
def isUserCode : SignalFrame → Bool
  | onWorkStart | onWorkStop _ | onWorkDone | signalWorkDone _ => true
  | destroyStop | doneStop _ => false

end SignalFrame

namespace SignalThread

/-- The constructor. -/
def new : SignalThread := ⟨.init, 1, true, .none, false, 0, [], 0, false, false⟩

variable (thread : SignalThread)

/-- The constructor of `EnterExit`. -/
def enter : SignalThread :=
  { thread with refcount := thread.refcount + 1 }

/-- The destructor of `EnterExit`. The destructor of the object takes its messages off the
queues. -/
def exit : SignalThread × List SignalEvent :=
  if thread.refcount - 1 = 0 then
    ({ thread with refcount := thread.refcount - 1, deleted := true, posted := 0 }, [.delete])
  else
    ({ thread with refcount := thread.refcount - 1 }, [])

/-- The main thread has `cs_`. -/
def holdsLock : Bool := thread.frames.any (· ≠ .destroyStop)

/-- The main thread is outside the library, or in a call from it. -/
def isUserCode : Bool := thread.frames.head?.all SignalFrame.isUserCode

/-- The main thread can call a member. -/
def canCall : Bool := thread.main && thread.isUserCode && !thread.deleted

/-- `worker_.Stop()` need not wait, or need no longer. -/
def isStopped : Bool := thread.worker = .none || thread.worker = .ended

/-- `Start` up to `OnWorkStart`. -/
def start : SignalThread × List SignalEvent :=
  if thread.state = .init ∨ thread.state = .complete then
    ({ thread.enter with state := .running, frames := .onWorkStart :: thread.frames }, [.onWorkStart])
  else
    thread.enter.exit

/-- `Destroy` up to `OnWorkStop`. -/
def destroy (wait : Bool) : SignalThread × List SignalEvent :=
  if thread.state = .init ∨ thread.state = .complete then
    exit { thread.enter with refcount := thread.enter.refcount - 1 }
  else if thread.state = .running ∨ thread.state = .releasing then
    ({ thread.enter with
        state := .stopping, fStop := true, frames := .onWorkStop wait :: thread.frames },
      [.onWorkStop])
  else
    thread.enter.exit

/-- `Release`. -/
def release : SignalThread × List SignalEvent :=
  if thread.state = .complete then
    exit { thread.enter with refcount := thread.enter.refcount - 1 }
  else if thread.state = .running then
    exit { thread.enter with state := .releasing }
  else
    thread.enter.exit

/-- `OnMessage` up to `OnWorkDone`. -/
def onMessage : SignalThread × List SignalEvent :=
  ({ thread.enter with posted := thread.posted - 1, frames := .onWorkDone :: thread.frames },
    [.onWorkDone])

/-- The end of `OnMessage`. -/
def finishMessage (doDelete : Bool) (below : List SignalFrame) : SignalThread × List SignalEvent :=
  exit { thread with
    refcount := if doDelete then thread.refcount - 1 else thread.refcount, frames := below }

/-- `OnMessage` behind `OnWorkDone`. -/
def workIsDone (below : List SignalFrame) : SignalThread × List SignalEvent :=
  let doDelete : Bool := thread.state ≠ .running
  let state := if thread.state = .running then .complete else thread.state
  if state = .stopping then
    finishMessage { thread with state } doDelete below
  else
    ({ thread with state, fStop := true, frames := .doneStop doDelete :: below }, [])

/-- What is on top of the stack returns. -/
def goOn : SignalFrame → List SignalFrame → Option (SignalThread × List SignalEvent)
  | .onWorkStart, below =>
      -- a thread that is there stays the one
      some (exit { thread with
        worker := if thread.worker = .none then .doWork else thread.worker, frames := below })
  | .onWorkStop wait, below =>
      if wait then
        some ({ thread with frames := .destroyStop :: below }, [])
      else
        some (exit { thread with frames := below })
  | .destroyStop, below =>
      if thread.isStopped then
        some (exit { thread with
          worker := .none, refcount := thread.refcount - 1, frames := below })
      else
        none
  | .onWorkDone, below => some (thread.workIsDone below)
  | .doneStop doDelete, below =>
      if thread.isStopped then
        some ({ thread with worker := .none, frames := .signalWorkDone doDelete :: below },
          [.signalWorkDone])
      else
        none
  | .signalWorkDone doDelete, below => some (thread.finishMessage doDelete below)

/-- `Post` of `worker_`, which does nothing when the worker is to stop. -/
def postWorker : SignalThread × List SignalEvent :=
  if thread.fStop then (thread, [])
  else ({ thread with queued := thread.queued + 1 }, [.workerPosted])

/-- `worker_.ProcessMessages(0)`. Messages that are in the queue are dispatched also when the
worker is to stop, and a dispatch that takes too long answers `true` at once. -/
def processMessages (dispatched : Nat) (late : Bool) :
    Option (SignalThread × List SignalEvent) :=
  if dispatched ≤ thread.queued ∧ (late = true → 0 < dispatched) then
    some ({ thread with queued := thread.queued - dispatched },
      [.continueWork dispatched late (late || !thread.fStop)])
  else
    none

/-- `Run` behind `DoWork`; `Post` to a thread that has quit does nothing. -/
def post : SignalThread × List SignalEvent :=
  exit { thread.enter with
    worker := .ended
    posted := if thread.main && !thread.mainStop then thread.posted + 1 else thread.posted }

/-- `OnMainThreadDestroyed`, which a deleted object no longer gets, and the end of the queue. -/
def destroyMain : SignalThread × List SignalEvent :=
  if thread.deleted then
    ({ thread with main := false, posted := 0 }, [])
  else
    exit { thread.enter with main := false, posted := 0 }

/-- A step of the machine. -/
def step : SignalAction → Option (SignalThread × List SignalEvent)
  | .start => if thread.canCall then some thread.start else none
  | .destroy wait => if thread.canCall then some (thread.destroy wait) else none
  | .release => if thread.canCall then some thread.release else none
  | .dispatch =>
      if thread.main && thread.isUserCode && 0 < thread.posted then some thread.onMessage else none
  | .goOn =>
      match thread.frames with
      | [] => none
      | frame :: below => thread.goOn frame below
  | .refuse =>
      match thread.frames with
      | .onWorkStart :: below =>
          let (next, events) := exit { thread with frames := below }
          some (next, .refused :: events)
      | _ => none
  | .postWorker => if thread.deleted then none else some thread.postWorker
  | .continueWork dispatched late =>
      if thread.worker = .doWork ∧ thread.holdsLock = false then
        thread.processMessages dispatched late
      else
        none
  | .endWork =>
      if thread.worker = .doWork then some ({ thread with worker := .run }, [.doWork]) else none
  | .post =>
      if thread.worker = .run ∧ thread.holdsLock = false then some thread.post else none
  | .quitMain => some ({ thread with mainStop := true }, [])
  | .destroyMain => if thread.main && thread.frames.isEmpty then some thread.destroyMain else none

/-- Any interleaving of the two threads, and of who posts to the worker. -/
def machine : Machine SignalThread SignalAction SignalEvent := ⟨step⟩

/-- What a call relies on: an object that is not at work is not used by who has given it up, the
main thread waits for the worker only from outside, and it takes no message meanwhile. -/
def Proper : SignalAction → Prop
  | .start | .release =>
      thread.state = .init ∨ thread.state = .complete → thread.frames.length < thread.refcount
  | .destroy wait =>
      (thread.state = .init ∨ thread.state = .complete → thread.frames.length < thread.refcount) ∧
        (wait = true → thread.frames = [])
  | .dispatch => .onWorkStop true ∉ thread.frames
  | _ => True

instance (action : SignalAction) : Decidable (thread.Proper action) :=
  match action with
  | .start | .release =>
      inferInstanceAs (Decidable (thread.state = .init ∨ thread.state = .complete →
        (thread.frames.length : Int) < thread.refcount))
  | .destroy wait =>
      inferInstanceAs (Decidable ((thread.state = .init ∨ thread.state = .complete →
        (thread.frames.length : Int) < thread.refcount) ∧ (wait = true → thread.frames = [])))
  | .dispatch => inferInstanceAs (Decidable (.onWorkStop true ∉ thread.frames))
  | .goOn | .refuse | .postWorker | .continueWork _ _ | .endWork | .post | .quitMain
  | .destroyMain =>
      inferInstanceAs (Decidable True)

end SignalThread

/-- How far a round of work is. -/
inductive LifePhase where
  | idle
  /-- Between `OnWorkStart` and the end of `DoWork`. -/
  | working
  | worked
  /-- Behind `OnWorkDone`. -/
  | done
  /-- The system made no thread. -/
  | refused
deriving DecidableEq, Repr

/-- The phase of the round that the main thread is busy with in the frame. -/
def SignalFrame.phase : SignalFrame → Option LifePhase
  | onWorkStart => some .working
  | onWorkDone | doneStop _ => some .done
  | signalWorkDone true => some .idle
  | onWorkStop _ | destroyStop | signalWorkDone false => none

/-- The phase of the round that the worker is busy with. -/
def WorkerPhase.phase : WorkerPhase → Option LifePhase
  | doWork => some .working
  | run => some .worked
  | none | ended => Option.none

namespace SignalThread

variable (thread : SignalThread)

/-- The rounds of work from `Start` to the end of their message, and how far they are. -/
def inHand : List LifePhase :=
  thread.frames.filterMap SignalFrame.phase ++
    (thread.worker.phase.toList ++ List.replicate thread.posted .worked)

/-- What the members keep. -/
structure Kept : Prop where
  /-- Each call that the main thread is in is counted, and so is a round of work. -/
  account : thread.frames.length + thread.inHand.length ≤ thread.refcount ∧
    thread.refcount ≤ thread.frames.length + 1
  /-- Only the last call may be in `worker_.Stop()`. -/
  calls : ∀ frame ∈ thread.frames.tail, frame.isUserCode = true
  idle : thread.state = .init ∨ thread.state = .complete →
    (thread.inHand = [] ∧ thread.worker = .none) ∨ .doneStop false ∈ thread.frames
  waits : .onWorkStop true ∈ thread.frames ∨ .destroyStop ∈ thread.frames →
    thread.state = .stopping ∧ thread.frames.length = 1 ∧ thread.refcount = 2
  starts : .onWorkStart ∈ thread.frames → thread.worker = .none
  ends : ∀ doDelete, .doneStop doDelete ∈ thread.frames →
    thread.state = if doDelete then .releasing else .complete

/-- An object that is there keeps what its members keep, and nothing can reach one that is not. -/
inductive Sound : Prop where
  | here (here : thread.deleted = false) (held : 0 < thread.refcount) (kept : thread.Kept)
  | gone (gone : thread.deleted = true) (frames : thread.frames = []) (posted : thread.posted = 0)
      (worker : thread.isStopped = true)

/-- The steps, with what each of them tests. -/
inductive Stepped : SignalAction → SignalThread × List SignalEvent → Prop where
  | start (can : thread.canCall = true) : Stepped .start thread.start
  | destroy (can : thread.canCall = true) {wait} : Stepped (.destroy wait) (thread.destroy wait)
  | release (can : thread.canCall = true) : Stepped .release thread.release
  | dispatch (user : thread.isUserCode = true) (posted : 0 < thread.posted) :
      Stepped .dispatch thread.onMessage
  | goOn {frame below result} (frames : thread.frames = frame :: below)
      (success : thread.goOn frame below = some result) : Stepped .goOn result
  | refuse {below} (frames : thread.frames = .onWorkStart :: below) :
      Stepped .refuse ((exit { thread with frames := below }).1,
        .refused :: (exit { thread with frames := below }).2)
  | postWorker (here : thread.deleted = false) : Stepped .postWorker thread.postWorker
  | continueWork {dispatched late} (worker : thread.worker = .doWork)
      (inQueue : dispatched ≤ thread.queued) (some : late = true → 0 < dispatched) :
      Stepped (.continueWork dispatched late)
        ({ thread with queued := thread.queued - dispatched },
          [.continueWork dispatched late (late || !thread.fStop)])
  | endWork (worker : thread.worker = .doWork) :
      Stepped .endWork ({ thread with worker := .run }, [.doWork])
  | post (worker : thread.worker = .run) : Stepped .post thread.post
  | quitMain : Stepped .quitMain ({ thread with mainStop := true }, [])
  | destroyMain : Stepped .destroyMain thread.destroyMain

variable {thread} {next : SignalThread} {events : List SignalEvent}

/-- Every step is one of these. -/
theorem stepped_of_step {action : SignalAction} {result : SignalThread × List SignalEvent}
    (success : thread.step action = some result) : thread.Stepped action result := by
  cases action with
  | start =>
    obtain ⟨can, same⟩ := Option.ite_none_right_eq_some.mp success
    cases same
    exact .start can
  | destroy wait =>
    obtain ⟨can, same⟩ := Option.ite_none_right_eq_some.mp success
    cases same
    exact .destroy can
  | release =>
    obtain ⟨can, same⟩ := Option.ite_none_right_eq_some.mp success
    cases same
    exact .release can
  | dispatch =>
    obtain ⟨can, same⟩ := Option.ite_none_right_eq_some.mp success
    cases same
    simp only [Bool.and_eq_true, decide_eq_true_eq] at can
    exact .dispatch can.1.2 can.2
  | goOn =>
    rw [step] at success
    split at success
    · cases success
    · next frame below frames => exact .goOn frames success
  | refuse =>
    rw [step] at success
    split at success
    · next below frames =>
      cases success
      exact .refuse frames
    · cases success
  | postWorker =>
    obtain ⟨here, same⟩ := Option.ite_none_left_eq_some.mp success
    cases same
    exact .postWorker (eq_false_of_ne_true here)
  | continueWork dispatched late =>
    obtain ⟨can, success⟩ := Option.ite_none_right_eq_some.mp success
    obtain ⟨⟨inQueue, isLate⟩, same⟩ := Option.ite_none_right_eq_some.mp success
    cases same
    exact .continueWork can.1 inQueue isLate
  | endWork =>
    obtain ⟨can, same⟩ := Option.ite_none_right_eq_some.mp success
    cases same
    exact .endWork can
  | post =>
    obtain ⟨can, same⟩ := Option.ite_none_right_eq_some.mp success
    cases same
    exact .post can.1
  | quitMain =>
    cases success
    exact .quitMain
  | destroyMain =>
    obtain ⟨_, same⟩ := Option.ite_none_right_eq_some.mp success
    cases same
    exact .destroyMain

/-! ## The work in hand -/

/-- A worker that is busy with nothing need not be waited for. -/
theorem isStopped_iff_phase : thread.isStopped = true ↔ thread.worker.phase = none := by
  rw [isStopped]
  cases thread.worker <;> decide

/-- A call that does nothing leaves the object as it was. -/
theorem leave_enter : { thread.enter with refcount := thread.enter.refcount - 1 } = thread := by
  simp only [enter, Int.add_sub_cancel]

/-- The work in hand counts the frames, the worker and what is posted. -/
theorem length_inHand : thread.inHand.length =
    (thread.frames.filterMap SignalFrame.phase).length + (thread.worker.phase.toList.length +
      thread.posted) := by
  rw [inHand, List.length_append, List.length_append, List.length_replicate]

/-- Nothing is in hand when no frame, no worker and no message is at work. -/
theorem inHand_eq_nil : thread.inHand = [] ↔
    thread.frames.filterMap SignalFrame.phase = [] ∧ thread.worker.phase = none ∧
      thread.posted = 0 := by
  rw [inHand, List.append_eq_nil_iff, List.append_eq_nil_iff, Option.toList_eq_nil_iff,
    List.replicate_eq_nil_iff]

/-- The frame on top comes first. -/
theorem inHand_of_frames {frame : SignalFrame} {below : List SignalFrame}
    (frames : thread.frames = frame :: below) :
    thread.inHand = frame.phase.toList ++ inHand { thread with frames := below } := by
  rw [inHand, frames]
  cases isPhase : frame.phase with
  | none => exact congrArg (· ++ _) (List.filterMap_cons_none isPhase)
  | some phase => exact congrArg (· ++ _) (List.filterMap_cons_some isPhase)

/-- A frame at work is work in hand. -/
theorem phase_mem_inHand {frame : SignalFrame} {phase : LifePhase} (isIn : frame ∈ thread.frames)
    (isPhase : frame.phase = some phase) : phase ∈ thread.inHand :=
  List.mem_append_left _ (List.mem_filterMap.mpr ⟨frame, isIn, isPhase⟩)

/-- A worker at work is work in hand. -/
theorem worker_mem_inHand {phase : LifePhase} (isPhase : thread.worker.phase = some phase) :
    phase ∈ thread.inHand :=
  List.mem_append_right _ (List.mem_append_left _ (Option.mem_toList.mpr isPhase))

/-- What is in hand besides the messages of the worker. -/
theorem mem_inHand {phase : LifePhase} : phase ∈ thread.inHand ↔
    phase ∈ inHand { thread with posted := 0 } ∨ (0 < thread.posted ∧ phase = .worked) := by
  simp only [inHand, List.mem_append, List.mem_replicate, or_assoc, ne_eq, not_true_eq_false,
    false_and, or_false, Nat.pos_iff_ne_zero]

/-- No frame at work is on an idle stack. -/
theorem not_mem_of_idle {frames : List SignalFrame} {frame : SignalFrame} {phase : LifePhase}
    (idle : frames.filterMap SignalFrame.phase = []) (isPhase : frame.phase = some phase) :
    frame ∉ frames := by
  intro isIn
  have isWork : phase ∈ frames.filterMap SignalFrame.phase :=
    List.mem_filterMap.mpr ⟨frame, isIn, isPhase⟩
  rw [idle] at isWork
  cases isWork

/-- The main thread runs the user's code when its last frame does. -/
theorem user_of_frames {frame : SignalFrame} {below : List SignalFrame}
    (frames : thread.frames = frame :: below) (isUser : frame.isUserCode = true) :
    thread.isUserCode = true := by
  rw [isUserCode, frames]
  exact isUser

namespace Kept

variable (kept : thread.Kept)

include kept

/-- There is one round of work at most. -/
theorem length_inHand_le : thread.inHand.length ≤ 1 := by
  obtain ⟨counted, one⟩ := kept.account
  omega

/-- What a frame on top is busy with is all there is. -/
theorem below_idle {frame : SignalFrame} {below : List SignalFrame} {phase : LifePhase}
    (frames : thread.frames = frame :: below) (isPhase : frame.phase = some phase) :
    inHand { thread with frames := below } = [] := by
  have few := kept.length_inHand_le
  rw [inHand_of_frames frames, isPhase, List.length_append, Option.toList_some,
    List.length_singleton] at few
  exact List.eq_nil_of_length_eq_zero (by omega)

/-- While a frame is at work, nothing else is. -/
theorem below_parts {frame : SignalFrame} {below : List SignalFrame} {phase : LifePhase}
    (frames : thread.frames = frame :: below) (isPhase : frame.phase = some phase) :
    below.filterMap SignalFrame.phase = [] ∧ thread.worker.phase = none ∧ thread.posted = 0 :=
  inHand_eq_nil.mp (kept.below_idle frames isPhase)

/-- What the worker is busy with is all there is. -/
theorem main_idle {phase : LifePhase} (isPhase : thread.worker.phase = some phase) :
    thread.frames.filterMap SignalFrame.phase = [] ∧ thread.posted = 0 := by
  have few := kept.length_inHand_le
  rw [length_inHand, isPhase, Option.toList_some, List.length_singleton] at few
  exact ⟨List.eq_nil_of_length_eq_zero (by omega), by omega⟩

/-- A message of the worker is all there is, before it is taken and without it. -/
theorem of_posted (posted : 0 < thread.posted) :
    thread.inHand = [.worked] ∧ inHand { thread with posted := thread.posted - 1 } = [] := by
  have few := kept.length_inHand_le
  rw [length_inHand] at few
  have noFrames : thread.frames.filterMap SignalFrame.phase = [] :=
    List.eq_nil_of_length_eq_zero (by omega)
  have noWorker : thread.worker.phase = none :=
    Option.toList_eq_nil_iff.mp (List.eq_nil_of_length_eq_zero (by omega))
  have one : thread.posted = 1 := by omega
  refine ⟨?_, inHand_eq_nil.mpr ⟨noFrames, noWorker, by rw [one]⟩⟩
  rw [inHand, noFrames, noWorker, one]
  rfl

/-- Where user code runs, so it does everywhere on the stack. -/
theorem allUser (user : thread.isUserCode = true) :
    ∀ frame ∈ thread.frames, frame.isUserCode = true := by
  have calls := kept.calls
  rw [isUserCode] at user
  cases frames : thread.frames with
  | nil => exact List.forall_mem_nil _
  | cons frame below =>
      rw [frames] at user calls
      exact List.forall_mem_cons.mpr ⟨user, calls⟩

/-- Where user code runs, the main thread waits for no worker. -/
theorem not_doneStop (user : thread.isUserCode = true) {doDelete : Bool} :
    .doneStop doDelete ∉ thread.frames :=
  fun isIn => absurd (kept.allUser user _ isIn) Bool.false_ne_true

/-- User code runs in an object that is at rest. -/
theorem atRest (user : thread.isUserCode = true)
    (rest : thread.state = .init ∨ thread.state = .complete) :
    thread.inHand = [] ∧ thread.worker = .none :=
  (kept.idle rest).resolve_right (kept.not_doneStop user)

end Kept
namespace Kept

variable (kept : thread.Kept) {after : SignalThread} (rounds : List LifePhase)

include kept

/-- The stack and the state stay. -/
theorem same (frames : after.frames = thread.frames) (state : after.state = thread.state)
    (inHand : after.inHand = rounds)
    (account : thread.frames.length + rounds.length ≤ after.refcount ∧
      after.refcount ≤ thread.frames.length + 1)
    (idle : thread.state = .init ∨ thread.state = .complete →
      (rounds = [] ∧ after.worker = .none) ∨ .doneStop false ∈ thread.frames)
    (waits : thread.state = .stopping → after.refcount = thread.refcount)
    (starts : .onWorkStart ∈ thread.frames → after.worker = .none) : after.Kept := by
  subst inHand
  obtain ⟨_, calls, _, waitsOld, _, ends⟩ := kept
  rw [← frames, ← state] at *
  refine ⟨account, calls, idle, ?_, starts, ends⟩
  intro isIn
  obtain ⟨stopping, alone, two⟩ := waitsOld isIn
  exact ⟨stopping, alone, (waits stopping).trans two⟩

/-- User code calls a member, which calls user code. -/
theorem push {frame : SignalFrame} (user : thread.isUserCode = true)
    (frames : after.frames = frame :: thread.frames) (isUser : frame.isUserCode = true)
    (inHand : after.inHand = rounds)
    (account : thread.frames.length + 1 + rounds.length ≤ after.refcount ∧
      after.refcount ≤ thread.frames.length + 1 + 1)
    (works : ¬(after.state = .init ∨ after.state = .complete))
    (waits : .onWorkStop true ∈ frame :: thread.frames →
      after.state = .stopping ∧ thread.frames.length = 0 ∧ after.refcount = 2)
    (starts : .onWorkStart ∈ frame :: thread.frames → after.worker = .none) : after.Kept := by
  subst inHand
  have all : ∀ other ∈ after.frames, other.isUserCode = true := by
    rw [frames]
    exact List.forall_mem_cons.mpr ⟨isUser, kept.allUser user⟩
  refine ⟨?_, fun other isIn => all other (List.mem_of_mem_tail isIn),
    fun rest => absurd rest works, ?_, frames ▸ starts, ?_⟩
  · rw [frames, List.length_cons]
    exact account
  · rintro (isIn | isIn)
    · rw [frames, List.length_cons, Nat.add_eq_right]
      exact waits (frames ▸ isIn)
    · cases all _ isIn
  · intro doDelete isIn
    cases all _ isIn

/-- What the main thread is in on top ends. -/
theorem pop {frame : SignalFrame} {below : List SignalFrame}
    (frames : thread.frames = frame :: below) (left : after.frames = below)
    (state : after.state = thread.state) (inHand : after.inHand = rounds)
    (account : below.length + rounds.length ≤ after.refcount ∧
      after.refcount ≤ below.length + 1)
    (idle : thread.state = .init ∨ thread.state = .complete →
      (rounds = [] ∧ after.worker = .none) ∨ .doneStop false ∈ below)
    (starts : .onWorkStart ∈ below → after.worker = .none) : after.Kept := by
  subst inHand
  subst left
  have isOld {other : SignalFrame} (isIn : other ∈ after.frames) : other ∈ thread.frames :=
    frames ▸ List.mem_cons_of_mem _ isIn
  refine ⟨account, ?_, state ▸ idle, ?_, starts, ?_⟩
  · intro other isIn
    exact kept.calls other (frames ▸ List.mem_of_mem_tail isIn)
  · intro isIn
    obtain ⟨_, alone, _⟩ := kept.waits (isIn.imp isOld isOld)
    rw [frames, List.length_cons, Nat.add_eq_right, List.length_eq_zero_iff] at alone
    rw [alone] at isIn
    rcases isIn with isIn | isIn <;> cases isIn
  · exact fun doDelete isIn => state.trans (kept.ends doDelete (isOld isIn))

/-- What the main thread is in on top goes on with another call. -/
theorem replace {frame other : SignalFrame} {below : List SignalFrame}
    (frames : thread.frames = frame :: below) (changed : after.frames = other :: below)
    (inHand : after.inHand = rounds)
    (account : below.length + 1 + rounds.length ≤ after.refcount ∧
      after.refcount ≤ below.length + 1 + 1)
    (idle : after.state = .init ∨ after.state = .complete →
      (rounds = [] ∧ after.worker = .none) ∨ other = .doneStop false)
    (waits : other = .onWorkStop true ∨ other = .destroyStop ∨ .onWorkStop true ∈ below →
      after.state = .stopping ∧ below.length = 0 ∧ after.refcount = 2)
    (starts : .onWorkStart ∈ other :: below → after.worker = .none)
    (ends : ∀ doDelete, other = .doneStop doDelete →
      after.state = if doDelete then .releasing else .complete) : after.Kept := by
  subst inHand
  have calls : ∀ frame ∈ below, frame.isUserCode = true := by
    have calls := kept.calls
    rwa [frames] at calls
  refine ⟨?_, ?_, ?_, ?_, changed ▸ starts, ?_⟩
  · rw [changed, List.length_cons]
    exact account
  · rw [changed]
    exact calls
  · intro rest
    refine (idle rest).imp_right fun isTop => ?_
    rw [changed, isTop]
    exact List.mem_cons_self
  · rw [changed, List.length_cons, Nat.add_eq_right]
    rintro (isIn | isIn)
    · rcases List.mem_cons.mp isIn with isTop | isIn
      · exact waits (.inl isTop.symm)
      · exact waits (.inr (.inr isIn))
    · rcases List.mem_cons.mp isIn with isTop | isIn
      · exact waits (.inr (.inl isTop.symm))
      · cases calls _ isIn
  · rw [changed]
    intro doDelete isIn
    rcases List.mem_cons.mp isIn with isTop | isIn
    · exact ends doDelete isTop.symm
    · cases calls _ isIn

/-- Where there is work, the object is not at rest. -/
theorem not_rest (user : thread.isUserCode = true) (work : thread.inHand ≠ []) :
    ¬(thread.state = .init ∨ thread.state = .complete) :=
  fun rest => work (kept.atRest user rest).1

/-- Nor while user code has work in hand. -/
theorem not_rest_of_frames {frame : SignalFrame} {below : List SignalFrame} {phase : LifePhase}
    (frames : thread.frames = frame :: below) (isUser : frame.isUserCode = true)
    (isPhase : frame.phase = some phase) : ¬(thread.state = .init ∨ thread.state = .complete) := by
  have isWork : phase ∈ thread.inHand := phase_mem_inHand (frames ▸ List.mem_cons_self) isPhase
  exact kept.not_rest (user_of_frames frames isUser) (List.ne_nil_of_mem isWork)

/-- Below another call there is no `Destroy` that waits. -/
theorem not_waiting {frame : SignalFrame} {below : List SignalFrame}
    (frames : thread.frames = frame :: below) : .onWorkStop true ∉ below := by
  intro isIn
  have alone := (kept.waits (.inl (frames ▸ List.mem_cons_of_mem _ isIn))).2.1
  rw [frames, List.length_cons, Nat.add_eq_right, List.length_eq_zero_iff] at alone
  rw [alone] at isIn
  cases isIn

/-- There is no worker while `OnWorkStart` is called. -/
theorem starts_below {frame : SignalFrame} {below : List SignalFrame}
    (frames : thread.frames = frame :: below) (isIn : .onWorkStart ∈ below) :
    thread.worker = .none :=
  kept.starts (frames ▸ List.mem_cons_of_mem _ isIn)

/-- The round goes from the main thread to the worker. -/
theorem begun {below : List SignalFrame} (frames : thread.frames = .onWorkStart :: below) :
    inHand { thread with worker := .doWork, frames := below } = [.working] := by
  obtain ⟨noFrames, _, noMessage⟩ := kept.below_parts frames rfl
  simp only [inHand, noFrames, noMessage]
  rfl

/-- The round is over for the owner, and for the object if it is to be deleted. -/
theorem reported {below : List SignalFrame} {doDelete : Bool}
    (frames : thread.frames = .doneStop doDelete :: below) :
    inHand { thread with worker := .none, frames := .signalWorkDone doDelete :: below } =
      if doDelete then [.idle] else [] := by
  obtain ⟨noFrames, _, noMessage⟩ := kept.below_parts frames rfl
  have left : inHand { thread with worker := .none, frames := below } = [] :=
    inHand_eq_nil.mpr ⟨noFrames, rfl, noMessage⟩
  cases doDelete with
  | true => exact congrArg (List.cons LifePhase.idle) left
  | false => exact left

/-- The account of an object with a frame on top that has work in hand. -/
theorem account_of_frames {frame : SignalFrame} {below : List SignalFrame} {phase : LifePhase}
    (frames : thread.frames = frame :: below) (isPhase : frame.phase = some phase) :
    thread.refcount = below.length + 1 + 1 := by
  have account := kept.account
  rw [inHand_of_frames frames, kept.below_idle frames isPhase, isPhase, frames] at account
  simp only [Option.toList_some, List.append_nil, List.length_cons, List.length_nil] at account
  omega

end Kept

/-- An object that the last call leaves has no work in hand. -/
theorem sound_exit (here : thread.deleted = false)
    (kept : Kept { thread with refcount := thread.refcount - 1 }) : Sound thread.exit.1 := by
  have counted : thread.frames.length + thread.inHand.length ≤ thread.refcount - 1 :=
    kept.account.1
  rw [exit]
  split
  · next last =>
    have frames : thread.frames = [] := List.eq_nil_of_length_eq_zero (by omega)
    have noWork : thread.inHand = [] := List.eq_nil_of_length_eq_zero (by omega)
    exact .gone rfl frames rfl (isStopped_iff_phase.mpr (inHand_eq_nil.mp noWork).2.1)
  · next more => exact .here here (by simp only; omega) kept

/-- Behind `OnWorkDone`, an object that is being destroyed is left. -/
theorem workIsDone_stopping {below : List SignalFrame} (stopping : thread.state = .stopping) :
    thread.workIsDone below = thread.finishMessage true below := by
  simp [workIsDone, stopping, finishMessage]

/-- The work of a running thread is complete. -/
theorem workIsDone_running {below : List SignalFrame} (running : thread.state = .running) :
    thread.workIsDone below =
      ({ thread with state := .complete, fStop := true, frames := .doneStop false :: below }, []) := by
  simp [workIsDone, running]

/-- The work is over for a thread that was released. -/
theorem workIsDone_released {below : List SignalFrame} (notRunning : thread.state ≠ .running)
    (notStopping : thread.state ≠ .stopping) :
    thread.workIsDone below = ({ thread with fStop := true, frames := .doneStop true :: below }, []) := by
  simp [workIsDone, notRunning, notStopping]

section Here

variable (here : thread.deleted = false) (held : 0 < thread.refcount) (kept : thread.Kept)

include kept

/-- Entering and leaving keeps the count. -/
theorem kept_still : Kept { thread.enter with refcount := thread.enter.refcount - 1 } :=
  leave_enter.symm ▸ kept

include here

/-- Entering and leaving is sound. -/
theorem sound_still : Sound thread.enter.exit.1 := sound_exit here (kept_still kept)

/-- Who is done with an object at rest gives its count back. -/
theorem sound_letGo (user : thread.isUserCode = true)
    (rest : thread.state = .init ∨ thread.state = .complete)
    (own : thread.frames.length < thread.refcount) :
    Sound (exit { thread.enter with refcount := thread.enter.refcount - 1 }).1 := by
  obtain ⟨noWork, noWorker⟩ := kept.atRest user rest
  have few := kept.account.2
  refine sound_exit here (kept.same [] rfl rfl noWork ?_ (fun _ => .inl ⟨rfl, noWorker⟩)
    ?_ kept.starts)
  · simp only [enter, List.length_nil]
    omega
  · intro stopping
    rcases rest with is | is <;> cases is.symm.trans stopping

include held

/-- `Start` keeps the object sound. -/
theorem sound_start (user : thread.isUserCode = true) (proper : thread.Proper .start) :
    Sound thread.start.1 := by
  rw [start]
  split
  · next rest =>
    obtain ⟨noWork, noWorker⟩ := kept.atRest user rest
    have own : thread.frames.length < thread.refcount := proper rest
    have few := kept.account.2
    have begun : inHand { thread.enter with
        state := .running, frames := .onWorkStart :: thread.frames } = [.working] :=
      congrArg (List.cons LifePhase.working) noWork
    refine .here here (Int.add_pos held Int.one_pos)
      (kept.push _ user rfl rfl begun ?_ (by simp) ?_ fun _ => noWorker)
    · simp only [enter, List.length_singleton]
      omega
    · intro isIn
      have isOld := (List.mem_cons.mp isIn).resolve_left nofun
      have stopping := (kept.waits (.inl isOld)).1
      rcases rest with is | is <;> cases is.symm.trans stopping
  · exact sound_still here kept

/-- `Destroy` keeps the object sound. -/
theorem sound_destroy (user : thread.isUserCode = true) {wait : Bool}
    (proper : thread.Proper (.destroy wait)) : Sound (thread.destroy wait).1 := by
  obtain ⟨own, outside⟩ := proper
  rw [destroy]
  split
  · next rest => exact sound_letGo here kept user rest (own rest)
  split
  · next works =>
    have account := kept.account
    refine .here here (Int.add_pos held Int.one_pos)
      (kept.push thread.inHand user rfl rfl rfl ?_ (by simp) ?_ ?_)
    · simp only [enter]
      omega
    · intro isIn
      rcases List.mem_cons.mp isIn with isTop | isOld
      · cases isTop
        -- the main thread is in no call, and the object is there
        rw [outside rfl] at account ⊢
        refine ⟨rfl, rfl, ?_⟩
        simp only [enter, List.length_nil] at account ⊢
        omega
      · have stopping := (kept.waits (.inl isOld)).1
        rcases works with is | is <;> cases is.symm.trans stopping
    · exact fun isIn => kept.starts ((List.mem_cons.mp isIn).resolve_left nofun)
  · exact sound_still here kept

omit held in

/-- `Release` keeps the object sound. -/
theorem sound_release (user : thread.isUserCode = true) (proper : thread.Proper .release) :
    Sound thread.release.1 := by
  rw [release]
  split
  · next rest => exact sound_letGo here kept user (.inr rest) (proper (.inr rest))
  split
  · next running =>
    obtain ⟨account, calls, idle, waits, starts, ends⟩ := kept_still kept
    refine sound_exit here ⟨account, calls, nofun, fun isIn => ?_, starts, fun _ isIn => ?_⟩
    · cases running.symm.trans (waits isIn).1
    · exact absurd isIn (kept.not_doneStop user)
  · exact sound_still here kept

/-- The dispatch of a message of the object keeps it sound. -/
theorem sound_onMessage (user : thread.isUserCode = true) (posted : 0 < thread.posted)
    (proper : thread.Proper .dispatch) : Sound thread.onMessage.1 := by
  obtain ⟨before, without⟩ := kept.of_posted posted
  have account := kept.account
  have taken : thread.onMessage.1.inHand = [.done] :=
    congrArg (List.cons LifePhase.done) without
  refine .here here (Int.add_pos held Int.one_pos) (kept.push _ user rfl rfl taken ?_ ?_ ?_ ?_)
  · rw [before] at account
    simp only [onMessage, enter, List.length_singleton] at account ⊢
    omega
  · exact kept.not_rest user (by simp [before])
  · exact fun isIn => absurd ((List.mem_cons.mp isIn).resolve_left nofun) proper
  · exact fun isIn => kept.starts ((List.mem_cons.mp isIn).resolve_left nofun)

/-- The work is done: the object is left, or the main thread waits for the worker's end. -/
theorem sound_workIsDone {below : List SignalFrame} (frames : thread.frames = .onWorkDone :: below) :
    Sound (thread.workIsDone below).1 := by
  have noWork := kept.below_idle frames rfl
  have counted := kept.account_of_frames frames rfl
  have works := kept.not_rest_of_frames frames rfl rfl
  have waits {state : SignalState} {count : Int} {doDelete : Bool} :
      SignalFrame.doneStop doDelete = .onWorkStop true ∨ SignalFrame.doneStop doDelete = .destroyStop ∨
        .onWorkStop true ∈ below → state = .stopping ∧ below.length = 0 ∧ count = 2 := by
    rintro (is | is | isIn)
    · cases is
    · cases is
    · exact absurd isIn (kept.not_waiting frames)
  have starts {doDelete : Bool} (isIn : .onWorkStart ∈ .doneStop doDelete :: below) :
      thread.worker = .none :=
    kept.starts_below frames ((List.mem_cons.mp isIn).resolve_left nofun)
  have isDone : LifePhase.done :: inHand { thread with frames := below } = [.done] :=
    congrArg (List.cons LifePhase.done) noWork
  by_cases stopping : thread.state = .stopping
  · rw [workIsDone_stopping stopping]
    refine sound_exit here (kept.pop _ frames rfl rfl noWork ?_ ?_ (kept.starts_below frames))
    · simp only [if_true, List.length_nil]
      omega
    · exact fun rest => absurd rest works
  by_cases running : thread.state = .running
  · rw [workIsDone_running running]
    refine .here here held (kept.replace _ frames rfl isDone ?_ (fun _ => .inr rfl) waits starts ?_)
    · simp only [List.length_singleton]
      omega
    · rintro doDelete ⟨⟩
      rfl
  · rw [workIsDone_released running stopping]
    have releasing : thread.state = .releasing := by
      cases state : thread.state with
      | releasing => rfl
      | init => exact absurd (.inl state) works
      | complete => exact absurd (.inr state) works
      | running => exact absurd state running
      | stopping => exact absurd state stopping
    refine .here here held (kept.replace _ frames rfl isDone ?_ (fun rest => absurd rest works) waits
      starts ?_)
    · simp only [List.length_singleton]
      omega
    · rintro doDelete ⟨⟩
      exact releasing

omit held in
/-- A call that is not at work is left, and its count with it. -/
theorem sound_leave {frame : SignalFrame} {below : List SignalFrame}
    (frames : thread.frames = frame :: below) (isUser : frame.isUserCode = true)
    (resting : frame.phase = none) : Sound (exit { thread with frames := below }).1 := by
  have sameWork : thread.inHand = inHand { thread with frames := below } := by
    rw [inHand_of_frames frames, resting]
    rfl
  have account := kept.account
  rw [frames, List.length_cons, sameWork] at account
  refine sound_exit here (kept.pop (inHand { thread with frames := below }) frames
    rfl rfl rfl ?_ ?_ (kept.starts_below frames))
  · simp only
    omega
  · intro rest
    obtain ⟨noWork, noWorker⟩ := kept.atRest (user_of_frames frames isUser) rest
    exact .inl ⟨sameWork ▸ noWork, noWorker⟩

/-- The stopped worker is gone, and the owner is told that the work is done. -/
theorem sound_report {doDelete : Bool} {below : List SignalFrame}
    (frames : thread.frames = .doneStop doDelete :: below) :
    Sound { thread with worker := .none, frames := .signalWorkDone doDelete :: below } := by
  have counted := kept.account_of_frames frames rfl
  have state := kept.ends doDelete (frames ▸ List.mem_cons_self)
  refine .here here held (kept.replace _ frames rfl (kept.reported frames) ?_ ?_ ?_
    (fun _ => rfl) nofun)
  · cases doDelete with
    | true =>
      simp only [if_true, List.length_singleton]
      omega
    | false =>
      simp only [Bool.false_eq_true, if_false, List.length_nil]
      omega
  · intro rest
    cases doDelete with
    | true => rcases rest with is | is <;> cases is.symm.trans state
    | false => exact .inl ⟨rfl, rfl⟩
  · rintro (is | is | isIn)
    · cases is
    · cases is
    · exact absurd isIn (kept.not_waiting frames)

/-- What is on top of the stack returns. -/
theorem sound_goOn {frame : SignalFrame} {below : List SignalFrame}
    {result : SignalThread × List SignalEvent} (frames : thread.frames = frame :: below)
    (success : thread.goOn frame below = some result) : Sound result.1 := by
  cases frame with
  | onWorkStart =>
    cases success
    have counted := kept.account_of_frames frames rfl
    have noWorker : thread.worker = .none := kept.starts (frames ▸ List.mem_cons_self)
    have once : .onWorkStart ∉ below := not_mem_of_idle (kept.below_parts frames rfl).1 rfl
    rw [if_pos noWorker]
    refine sound_exit here (kept.pop _ frames rfl rfl (kept.begun frames) ?_ ?_ fun isIn => absurd isIn once)
    · simp only [List.length_singleton]
      omega
    · exact fun rest => absurd rest (kept.not_rest_of_frames frames rfl rfl)
  | onWorkStop wait =>
    cases wait with
    | true =>
      cases success
      have account := kept.account
      rw [frames, List.length_cons, inHand_of_frames frames] at account
      obtain ⟨stopping, alone, two⟩ := kept.waits (.inl (frames ▸ List.mem_cons_self))
      rw [frames, List.length_cons, Nat.add_eq_right] at alone
      refine .here here held (kept.replace (inHand { thread with frames := below }) frames
        rfl rfl account ?_ ?_ ?_ nofun)
      · rintro (is | is) <;> cases is.symm.trans stopping
      · exact fun _ => ⟨stopping, alone, two⟩
      · exact fun isIn => kept.starts_below frames ((List.mem_cons.mp isIn).resolve_left nofun)
    | false =>
      cases success
      exact sound_leave here kept frames rfl rfl
  | destroyStop =>
    rw [goOn] at success
    split at success
    · next stopped =>
      obtain ⟨_, alone, two⟩ := kept.waits (.inr (frames ▸ List.mem_cons_self))
      rw [frames, List.length_cons, Nat.add_eq_right, List.length_eq_zero_iff] at alone
      have last : thread.refcount - 1 - 1 = 0 := by omega
      cases success
      rw [exit, if_pos last]
      exact .gone rfl alone rfl rfl
    · cases success
  | onWorkDone =>
    cases success
    exact sound_workIsDone here held kept frames
  | doneStop doDelete =>
    rw [goOn] at success
    split at success
    · cases success
      exact sound_report here held kept frames
    · cases success
  | signalWorkDone doDelete =>
    cases success
    cases doDelete with
    | true =>
      have noWork := kept.below_idle frames rfl
      have counted := kept.account_of_frames frames rfl
      refine sound_exit here (kept.pop _ frames rfl rfl noWork ?_ ?_ (kept.starts_below frames))
      · simp only [if_true, List.length_nil]
        omega
      · exact fun rest => absurd rest (kept.not_rest_of_frames frames rfl rfl)
    | false => exact sound_leave here kept frames rfl rfl

omit held here

/-- While the worker is busy, the main thread is in no other work of the object. -/
theorem Kept.of_worker {phase : LifePhase} (isPhase : thread.worker.phase = some phase) :
    thread.refcount = thread.frames.length + 1 ∧ .onWorkStart ∉ thread.frames ∧
      ¬(thread.state = .init ∨ thread.state = .complete) := by
  obtain ⟨noFrames, noMessage⟩ := kept.main_idle isPhase
  refine ⟨?_, not_mem_of_idle noFrames rfl, fun rest => ?_⟩
  · have account := kept.account
    rw [length_inHand, noFrames, isPhase, noMessage] at account
    simp only [Option.toList_some, List.length_singleton, List.length_nil] at account
    omega
  · rcases kept.idle rest with ⟨_, noWorker⟩ | isIn
    · rw [noWorker] at isPhase
      cases isPhase
    · exact not_mem_of_idle noFrames rfl isIn

include here

/-- The message that `Run` posts, if it does, is the work in hand. -/
theorem sound_post (worker : thread.worker = .run) : Sound thread.post.1 := by
  have isPhase : thread.worker.phase = some .worked := congrArg WorkerPhase.phase worker
  obtain ⟨counted, notStarting, works⟩ := kept.of_worker isPhase
  obtain ⟨noFrames, noMessage⟩ := kept.main_idle isPhase
  refine sound_exit here (kept.same _ rfl rfl rfl ?_ (fun rest => absurd rest works) ?_
    fun isIn => absurd isIn notStarting)
  · have few : (if thread.main && !thread.mainStop then thread.posted + 1 else thread.posted) ≤ 1 := by
      split <;> omega
    rw [length_inHand]
    simp only [enter, noFrames, WorkerPhase.phase, Option.toList_none, List.length_nil]
    omega
  · intro _
    simp only [enter]
    omega

include held

/-- The end of `DoWork` keeps the object sound. -/
theorem sound_endWork (worker : thread.worker = .doWork) : Sound { thread with worker := .run } := by
  have isPhase : thread.worker.phase = some .working := congrArg WorkerPhase.phase worker
  obtain ⟨counted, notStarting, works⟩ := kept.of_worker isPhase
  obtain ⟨noFrames, noMessage⟩ := kept.main_idle isPhase
  refine .here here held (kept.same _ rfl rfl rfl ?_ (fun rest => absurd rest works) (fun _ => rfl)
    fun isIn => absurd isIn notStarting)
  rw [length_inHand]
  simp only [noFrames, noMessage, WorkerPhase.phase, Option.toList_some, List.length_singleton,
    List.length_nil]
  omega

omit held

/-- Without a thread there is no work. -/
theorem sound_refuse {below : List SignalFrame} (frames : thread.frames = .onWorkStart :: below) :
    Sound (exit { thread with frames := below }).1 := by
  have counted := kept.account_of_frames frames rfl
  refine sound_exit here (kept.pop _ frames rfl rfl (kept.below_idle frames rfl) ?_ ?_
    (kept.starts_below frames))
  · simp only [List.length_nil]
    omega
  · exact fun rest => absurd rest (kept.not_rest_of_frames frames rfl rfl)

/-- With the queue of the main thread goes the message of the worker. -/
theorem sound_destroyMain : Sound thread.destroyMain.1 := by
  rw [destroyMain, if_neg (ne_true_of_eq_false here)]
  have account := kept.account
  have fewer : (inHand { thread with posted := 0 }).length ≤ thread.inHand.length := by
    rw [length_inHand, length_inHand]
    simp only
    omega
  refine sound_exit here (kept.same (inHand { thread with posted := 0 })
    rfl rfl rfl ?_ ?_ ?_ kept.starts)
  · simp only [enter]
    omega
  · intro rest
    rcases kept.idle rest with ⟨noWork, noWorker⟩ | isIn
    · obtain ⟨noFrames, noPhase, _⟩ := inHand_eq_nil.mp noWork
      exact .inl ⟨inHand_eq_nil.mpr ⟨noFrames, noPhase, rfl⟩, noWorker⟩
    · exact .inr isIn
  · intro _
    simp only [enter]
    omega

end Here

/-- Who can call the object runs the user's code. -/
theorem user_of_canCall (can : thread.canCall = true) : thread.isUserCode = true := by
  simp only [canCall, Bool.and_eq_true] at can
  exact can.1.2

/-- Of an object that is not there, nothing but the main thread can go on. -/
theorem stepped_of_gone {action : SignalAction} {result : SignalThread × List SignalEvent}
    (gone : thread.deleted = true) (frames : thread.frames = []) (posted : thread.posted = 0)
    (worker : thread.isStopped = true) (stepped : thread.Stepped action result) :
    (action = .quitMain ∧ result = ({ thread with mainStop := true }, [])) ∨
      (action = .destroyMain ∧ result = ({ thread with main := false, posted := 0 }, [])) := by
  have cannot : ¬ thread.canCall = true := by simp [canCall, gone]
  cases stepped with
  | start can | destroy can | release can => exact absurd can cannot
  | dispatch _ some => exact absurd posted (Nat.ne_of_gt some)
  | goOn some | refuse some => exact absurd (frames.symm.trans some) (List.cons_ne_nil _ _).symm
  | postWorker here => cases gone.symm.trans here
  | continueWork is | endWork is | post is => simp [isStopped, is] at worker
  | quitMain => exact .inl ⟨rfl, rfl⟩
  | destroyMain => exact .inr ⟨rfl, if_pos gone⟩

/-- What the members keep is not about the queue of the worker. -/
theorem kept_queued (kept : thread.Kept) (queued : Nat) : Kept { thread with queued } :=
  ⟨kept.account, kept.calls, kept.idle, kept.waits, kept.starts, kept.ends⟩

/-- A message for the worker keeps the object sound. -/
theorem sound_postWorker (here : thread.deleted = false) (held : 0 < thread.refcount)
    (kept : thread.Kept) : Sound thread.postWorker.1 := by
  rw [postWorker]
  split
  · exact .here here held kept
  · exact .here here held (kept_queued kept _)

/-- Proper steps keep an object sound. -/
theorem sound_stepped {action : SignalAction} {result : SignalThread × List SignalEvent}
    (sound : thread.Sound) (proper : thread.Proper action) (stepped : thread.Stepped action result) :
    Sound result.1 := by
  cases sound with
  | here here held kept =>
    cases stepped with
    | start can => exact sound_start here held kept (user_of_canCall can) proper
    | destroy can => exact sound_destroy here held kept (user_of_canCall can) proper
    | release can => exact sound_release here kept (user_of_canCall can) proper
    | dispatch user posted => exact sound_onMessage here held kept user posted proper
    | goOn frames goes => exact sound_goOn here held kept frames goes
    | refuse frames => exact sound_refuse here kept frames
    | postWorker => exact sound_postWorker here held kept
    | continueWork => exact .here here held (kept_queued kept _)
    | endWork worker => exact sound_endWork here held kept worker
    | post worker => exact sound_post here kept worker
    | quitMain =>
      exact .here here held
        ⟨kept.account, kept.calls, kept.idle, kept.waits, kept.starts, kept.ends⟩
    | destroyMain => exact sound_destroyMain here kept
  | gone gone frames posted worker =>
    obtain ⟨_, same⟩ | ⟨_, same⟩ := stepped_of_gone gone frames posted worker stepped
    · cases same
      exact .gone gone frames posted worker
    · cases same
      exact .gone gone frames rfl worker

/-- A new object is sound. -/
theorem sound_new : Sound new :=
  .here rfl Int.one_pos
    { account := by decide
      calls := List.forall_mem_nil _
      idle := fun _ => .inl ⟨rfl, rfl⟩
      waits := by rintro (is | is) <;> exact absurd is List.not_mem_nil
      starts := fun _ => rfl
      ends := fun _ is => absurd is List.not_mem_nil }

end SignalThread

end VzSdk.Base
