import Mathlib.Logic.Function.Basic
import VzSdk.Event.MessageQueue
import VzSdk.Std.Machine

/-!
# Sends between threads

`Thread::Send` runs a handler in another thread and waits until it has returned,
while `ReceiveSends` runs what others send to the waiting thread. Every thread
has a stack of the library's functions and of the handlers it is in; a step is one
access to what threads share, or what a function does under its lock. A label
names the thread that goes on, so a run is any interleaving.
-/

namespace VzSdk.Event

open VzSdk.Std

/-- `_SendMessage`; the number of the call stands for the address of `ready`. -/
structure SendMessage (Handler Data : Type) where
  thread : Nat
  msg : Message Handler Data
  call : Nat
deriving DecidableEq, Repr

/-- Where `Send` is: before the test of `ready`, before `ReceiveSends`, before `Wait`, or in it. -/
inductive SendPhase where
  | test
  | sends
  | enter
  | wait
deriving DecidableEq, Repr

/-- Where `Get` is: before `ReceiveSends`, before its pass under the lock, before the test of
`fStop_`, before `Wait`, or in it. -/
inductive GetPhase where
  | sends
  | pass
  | stop
  | enter
  | wait
deriving DecidableEq, Repr

/-- What a thread is in. -/
inductive Frame (Handler Data : Type) where
  /-- The handler of an I/O event, in `Wait`. -/
  | event
  /-- `OnMessage` of what another thread sends. -/
  | onMessage (message : SendMessage Handler Data)
  /-- `Send`, `Post` and `DoDelayPost` behind the test of `fStop_`, before the lock. -/
  | lockSend (target : Nat) (message : Message Handler Data)
  | lockPost (target : Nat) (message : Message Handler Data)
  | lockDelayPost (target : Nat) (cmsDelay : Int) (tstamp : UInt32) (message : Message Handler Data)
  | wakeUp (target : Nat)
  | send (call : Nat) (waited : Bool) (phase : SendPhase)
  | receiveSends
  | get (phase : GetPhase)
  /-- `Clear` behind the removal; the senders it has yet to answer. -/
  | clear (rest : List (SendMessage Handler Data))
deriving DecidableEq, Repr

/-- How far a call of `Send` is. -/
inductive Progress where
  | listed
  | handling
  | answered
  | cleared
deriving DecidableEq, Repr

/-- Ghost: a call of `Send` that was put on a list. -/
structure SendCall (Handler Data : Type) where
  sender : Nat
  target : Nat
  msg : Message Handler Data
  progress : Progress
  returned : Bool
deriving DecidableEq, Repr

/-- The members of all threads. -/
structure Threads (Handler Data : Type) where
  stack : Nat → List (Frame Handler Data)
  sendlist : Nat → List (SendMessage Handler Data)
  hasSends : Nat → Bool
  queue : Nat → MessageQueue Handler Data
  /-- `fSignaled_` of the thread's socket server. -/
  signaled : Nat → Bool
  fWait : Nat → Bool
  /-- The variable `ready` of a call. -/
  ready : Nat → Bool
  /-- Ghost: the number of calls so far. -/
  next : Nat
  /-- Ghost. -/
  call : Nat → Option (SendCall Handler Data)

/-- What a thread does. -/
inductive ThreadAction (Handler Data : Type) where
  | send (target : Nat) (message : Message Handler Data)
  | post (target : Nat) (message : Message Handler Data)
  | doDelayPost (target : Nat) (cmsDelay : Int) (tstamp : UInt32) (message : Message Handler Data)
  | quit (target : Nat)
  | clear (target : Nat) (phandler : Option Handler) (id : UInt32)
  | get
  /-- A handler returns. -/
  | finish
  /-- The library goes on, at a reading of the clock. -/
  | proceed (now : UInt32)
  /-- An I/O event in `Wait`. -/
  | event
  /-- `Wait` comes back for its time or an error. -/
  | lapse
  /-- The time of `Get` is over behind `Wait`. -/
  | expire
deriving DecidableEq, Repr

/-- What is seen of the threads. -/
inductive ThreadEvent (Handler Data : Type) where
  /-- `Send` to the own thread: the handler is called on the spot. -/
  | direct (thread : Nat) (message : Message Handler Data)
  | sent (call sender target : Nat) (message : Message Handler Data)
  /-- `OnMessage` begins. -/
  | handled (call thread : Nat) (message : Message Handler Data)
  /-- `OnMessage` has returned. -/
  | answered (call : Nat)
  | cleared (call : Nat)
  /-- `Send` returns. -/
  | returned (call : Nat)
  /-- `Get` returns. -/
  | got (thread : Nat) (message : Option (Message Handler Data))
deriving DecidableEq, Repr

namespace Threads

variable {Handler Data : Type}

/-- No thread runs anything, and nothing was sent. -/
def new : Threads Handler Data :=
  ⟨fun _ => [], fun _ => [], fun _ => false, fun _ => .new, fun _ => false, fun _ => false,
    fun _ => false, 0, fun _ => none⟩

variable (state : Threads Handler Data)

/-- The thread runs another stack of frames. -/
def setStack (thread : Nat) (stack : List (Frame Handler Data)) : Threads Handler Data :=
  { state with stack := Function.update state.stack thread stack }

/-- Ghost: a call is further. -/
def advance (call : Nat) (change : SendCall Handler Data → SendCall Handler Data) :
    Threads Handler Data :=
  { state with call := Function.update state.call call ((state.call call).map change) }

/-- `Send` under its lock. -/
def send (thread target : Nat) (message : Message Handler Data)
    (below : List (Frame Handler Data)) : Threads Handler Data :=
  { state with
    sendlist := Function.update state.sendlist target
      (state.sendlist target ++ [⟨thread, message, state.next⟩])
    hasSends := Function.update state.hasSends target true
    next := state.next + 1
    call := Function.update state.call state.next (some ⟨thread, target, message, .listed, false⟩)
    stack := Function.update state.stack thread
      (.wakeUp target :: .send state.next false .test :: below) }

/-- A queue is changed, and its thread has yet to be woken. -/
def withQueue (thread target : Nat) (queue : MessageQueue Handler Data)
    (below : List (Frame Handler Data)) : Threads Handler Data :=
  { state with
    queue := Function.update state.queue target queue
    stack := Function.update state.stack thread (.wakeUp target :: below) }

/-- `Clear` under its lock. The senders of what it takes from the list are answered one by one. -/
def clear [DecidableEq Handler] (thread target : Nat) (phandler : Option Handler) (id : UInt32) :
    Threads Handler Data :=
  let hit := fun message : SendMessage Handler Data => message.msg.matches phandler id
  let removed := (state.sendlist target).filter hit
  { state with
    sendlist := Function.update state.sendlist target
      ((state.sendlist target).filter fun message => !hit message)
    queue := Function.update state.queue target ((state.queue target).clear phandler id).1
    call := fun call =>
      if removed.any (·.call == call) then
        (state.call call).map fun sent => { sent with progress := .cleared }
      else state.call call
    stack := Function.update state.stack thread (.clear removed :: state.stack thread) }

/-- A call has been answered. -/
def setReady (call : Nat) : Threads Handler Data :=
  { state with ready := Function.update state.ready call true }

/-- `Send`, `Post` and `DoDelayPost` do nothing when the thread is stopped. -/
def unlessStopped (thread target : Nat) (frame : Frame Handler Data) : Threads Handler Data :=
  if (state.queue target).fStop then state
  else state.setStack thread (frame :: state.stack thread)

/-- What code of the program calls. -/
def userStep [DecidableEq Handler] (thread : Nat) :
    ThreadAction Handler Data → Option (Threads Handler Data × List (ThreadEvent Handler Data))
  | .send target message =>
      if target = thread then
        some (state, if (state.queue target).fStop then [] else [.direct thread message])
      else some (state.unlessStopped thread target (.lockSend target message), [])
  | .post target message =>
      some (state.unlessStopped thread target (.lockPost target message), [])
  | .doDelayPost target cmsDelay tstamp message =>
      some (state.unlessStopped thread target (.lockDelayPost target cmsDelay tstamp message), [])
  | .quit target =>
      some (state.withQueue thread target (state.queue target).quit (state.stack thread), [])
  | .clear target phandler id =>
      some (state.clear thread target phandler id,
        ((state.sendlist target).filter fun message => message.msg.matches phandler id).map
          fun message => .cleared message.call)
  | .get => some (state.setStack thread (.get .sends :: state.stack thread), [])
  | _ => none

/-- A handler returns; `ReceiveSends` sets `ready` and wakes the sender. -/
def finish (thread : Nat) : Frame Handler Data → List (Frame Handler Data) →
    Option (Threads Handler Data × List (ThreadEvent Handler Data))
  | .event, below => some (state.setStack thread below, [])
  | .onMessage message, below =>
      some (((state.setReady message.call).advance message.call
        fun sent => { sent with progress := .answered }).setStack thread
          (.wakeUp message.thread :: below), [.answered message.call])
  | _, _ => none

/-- `ReceiveSends` as its callers call it, before they go on. -/
def receiveSends (thread : Nat) (stack : List (Frame Handler Data)) : Threads Handler Data :=
  state.setStack thread (if state.hasSends thread then .receiveSends :: stack else stack)

/-- `Wait` begins. -/
def enterWait (thread : Nat) (stack : List (Frame Handler Data)) : Threads Handler Data :=
  { state.setStack thread stack with fWait := Function.update state.fWait thread true }

/-- `OnPreEvent` and `OnEvent` of the socket server's own dispatcher. -/
def onWakeUp (thread : Nat) : Threads Handler Data :=
  { state with
    signaled := Function.update state.signaled thread false
    fWait := Function.update state.fWait thread false }

/-- The loop of `Wait` ends, or takes the signal. -/
def waitStep (thread : Nat) (behind : List (Frame Handler Data)) :
    Option (Threads Handler Data × List (ThreadEvent Handler Data)) :=
  if state.fWait thread = false then some (state.setStack thread behind, [])
  else if state.signaled thread then some (state.onWakeUp thread, [])
  else none

/-- The library goes on. -/
def proceed (thread : Nat) (now : UInt32) : Frame Handler Data → List (Frame Handler Data) →
    Option (Threads Handler Data × List (ThreadEvent Handler Data))
  | .lockSend target message, below =>
      some (state.send thread target message below, [.sent state.next thread target message])
  | .lockPost target message, below =>
      let queue := state.queue target
      some (state.withQueue thread target { queue with msgq := queue.msgq ++ [message] } below, [])
  | .lockDelayPost target cmsDelay tstamp message, below =>
      let queue := state.queue target
      some (state.withQueue thread target
        { queue with
          dmsgq := queue.dmsgq ++ [⟨cmsDelay, tstamp, queue.dmsgqNextNum, message⟩]
          dmsgqNextNum := queue.dmsgqNextNum + 1 } below, [])
  | .wakeUp target, below =>
      some ({ state.setStack thread below with
        signaled := Function.update state.signaled target true }, [])
  | .send call waited .test, below =>
      if state.ready call then
        some ((state.advance call fun sent => { sent with returned := true }).setStack thread
          (if waited then .wakeUp thread :: below else below), [.returned call])
      else some (state.setStack thread (.send call waited .sends :: below), [])
  | .send call waited .sends, below =>
      some (state.receiveSends thread (.send call waited .enter :: below), [])
  | .send call waited .enter, below =>
      some (state.enterWait thread (.send call waited .wait :: below), [])
  | .send call _ .wait, below => state.waitStep thread (.send call true .test :: below)
  | .receiveSends, below =>
      match state.sendlist thread with
      | [] =>
          some ({ state.setStack thread below with
            hasSends := Function.update state.hasSends thread false }, [])
      | message :: rest =>
          some ({ (state.advance message.call fun sent => { sent with progress := .handling }).setStack
              thread (.onMessage message :: .receiveSends :: below) with
            sendlist := Function.update state.sendlist thread rest },
            [.handled message.call thread message.msg])
  | .get .sends, below => some (state.receiveSends thread (.get .pass :: below), [])
  | .get .pass, below =>
      let pass := (state.queue thread).getPass now .zero
      let passed := { state with queue := Function.update state.queue thread pass.queue }
      if pass.found then some (passed.setStack thread below, [.got thread (some pass.pmsg)])
      else some (passed.setStack thread (.get .stop :: below), [])
  | .get .stop, below =>
      if (state.queue thread).fStop then some (state.setStack thread below, [.got thread none])
      else some (state.setStack thread (.get .enter :: below), [])
  | .get .enter, below => some (state.enterWait thread (.get .wait :: below), [])
  | .get .wait, below => state.waitStep thread (.get .sends :: below)
  | .clear [], below => some (state.setStack thread below, [])
  | .clear (message :: rest), below =>
      some ((state.setReady message.call).setStack thread
        (.wakeUp message.thread :: .clear rest :: below), [])
  | .event, _ | .onMessage _, _ => none

/-- Code of the program runs: at the bottom, or in a handler. -/
def isUserCode : List (Frame Handler Data) → Bool
  | [] | .event :: _ | .onMessage _ :: _ => true
  | _ => false

/-- What a thread does in a step. -/
def step [DecidableEq Handler] (label : Nat × ThreadAction Handler Data) :
    Option (Threads Handler Data × List (ThreadEvent Handler Data)) :=
  let thread := label.1
  match label.2, state.stack thread with
  | .finish, frame :: below => state.finish thread frame below
  | .proceed now, frame :: below => state.proceed thread now frame below
  | .event, .get .wait :: below => some (state.setStack thread (.event :: .get .wait :: below), [])
  | .lapse, .get .wait :: below => some (state.setStack thread (.get .sends :: below), [])
  | .lapse, .send call _ .wait :: below =>
      some (state.setStack thread (.send call true .test :: below), [])
  | .expire, .get .wait :: below => some (state.setStack thread below, [.got thread none])
  | action, stack => if isUserCode stack then state.userStep thread action else none

end Threads

/-- All threads, in any interleaving. -/
def threadMachine {Handler Data : Type} [DecidableEq Handler] :
    Machine (Threads Handler Data) (Nat × ThreadAction Handler Data) (ThreadEvent Handler Data) :=
  ⟨fun state label => state.step label⟩

/-! ## The steps -/

namespace MessageQueue

variable {Handler Data : Type}

/-- A pull that finds nothing leaves nothing. -/
theorem pull_empty {pmsg : Message Handler Data} {msgq : List (Message Handler Data)}
    (unfound : (pull pmsg msgq).2.2 = false) : (pull pmsg msgq).2.1 = [] := by
  induction msgq generalizing pmsg with
  | nil => rfl
  | cons message msgq inductionHypothesis =>
      unfold pull at unfound ⊢
      split at unfound
      · next dispose =>
          rw [if_pos dispose]
          exact inductionHypothesis unfound
      · cases unfound

/-- A pass that finds nothing leaves nothing posted. -/
theorem msgq_getPass_unfound {queue : MessageQueue Handler Data} {now : UInt32}
    {pmsg : Message Handler Data} (unfound : (queue.getPass now pmsg).found = false) :
    (queue.getPass now pmsg).queue.msgq = [] := by
  cases kept : queue.msgPeek with
  | some peeked => simp [getPass, kept] at unfound
  | none =>
      obtain ⟨ready, left, _, after, _, isFound⟩ := getPass_unpeeked queue now pmsg kept
      rw [after]
      exact pull_empty (isFound ▸ unfound)

end MessageQueue

namespace Threads

variable {Handler Data : Type}

/-- The steps that change only the top of the own stack. `Get` is called in a handler only if it
may be nested. -/
inductive Move (state : Threads Handler Data) (nested : Prop) (thread : Nat) :
    List (Frame Handler Data) → List (Frame Handler Data) → List (ThreadEvent Handler Data) →
      Prop where
  | lockSend (target : Nat) (message : Message Handler Data)
      (user : isUserCode (state.stack thread) = true) :
      Move state nested thread [] [.lockSend target message] []
  | lockPost (target : Nat) (message : Message Handler Data)
      (user : isUserCode (state.stack thread) = true) :
      Move state nested thread [] [.lockPost target message] []
  | lockDelayPost (target : Nat) (cmsDelay : Int) (tstamp : UInt32)
      (message : Message Handler Data) (user : isUserCode (state.stack thread) = true) :
      Move state nested thread [] [.lockDelayPost target cmsDelay tstamp message] []
  | get (user : isUserCode (state.stack thread) = true)
      (bottom : nested ∨ state.stack thread = []) : Move state nested thread [] [.get .sends] []
  | direct (message : Message Handler Data) :
      Move state nested thread [] [] [.direct thread message]
  | stopped : Move state nested thread [] [] []
  | eventDone : Move state nested thread [.event] [] []
  | tested {call : Nat} {waited : Bool} (notReady : state.ready call = false) :
      Move state nested thread [.send call waited .test] [.send call waited .sends] []
  | noSends {call : Nat} {waited : Bool} (none : state.hasSends thread = false) :
      Move state nested thread [.send call waited .sends] [.send call waited .enter] []
  | hasSends {call : Nat} {waited : Bool} :
      Move state nested thread [.send call waited .sends] [.receiveSends, .send call waited .enter] []
  | waited {call : Nat} {waited : Bool} :
      Move state nested thread [.send call waited .wait] [.send call true .test] []
  | getNoSends (none : state.hasSends thread = false) :
      Move state nested thread [.get .sends] [.get .pass] []
  | getHasSends : Move state nested thread [.get .sends] [.receiveSends, .get .pass] []
  | getStopped : Move state nested thread [.get .stop] [] [.got thread none]
  | getRuns (runs : (state.queue thread).fStop = false) :
      Move state nested thread [.get .stop] [.get .enter] []
  | getWaited : Move state nested thread [.get .wait] [.get .sends] []
  | getExpired : Move state nested thread [.get .wait] [] [.got thread none]
  | event : Move state nested thread [.get .wait] [.event, .get .wait] []
  | clearDone : Move state nested thread [.clear []] [] []

/-- Everything that a step can do. -/
inductive Transition [DecidableEq Handler] (state : Threads Handler Data) (nested : Prop)
    (thread : Nat) :
    Threads Handler Data → List (ThreadEvent Handler Data) → Prop where
  | move {old new below : List (Frame Handler Data)} {events : List (ThreadEvent Handler Data)}
      (stack : state.stack thread = old ++ below) (move : Move state nested thread old new events) :
      Transition state nested thread (state.setStack thread (new ++ below)) events
  | quit (target : Nat) (queue : MessageQueue Handler Data)
      (user : isUserCode (state.stack thread) = true) :
      Transition state nested thread (state.withQueue thread target queue (state.stack thread)) []
  | post (target : Nat) (queue : MessageQueue Handler Data) {frame : Frame Handler Data}
      {below : List (Frame Handler Data)} (stack : state.stack thread = frame :: below)
      (isLock : (∃ message, frame = .lockPost target message) ∨
        ∃ cmsDelay tstamp message, frame = .lockDelayPost target cmsDelay tstamp message) :
      Transition state nested thread (state.withQueue thread target queue below) []
  | send {target : Nat} {message : Message Handler Data} {below : List (Frame Handler Data)}
      (stack : state.stack thread = .lockSend target message :: below) :
      Transition state nested thread (state.send thread target message below)
        [.sent state.next thread target message]
  | clear (target : Nat) (phandler : Option Handler) (id : UInt32)
      (user : isUserCode (state.stack thread) = true) :
      Transition state nested thread (state.clear thread target phandler id)
        (((state.sendlist target).filter fun message => message.msg.matches phandler id).map
          fun message => .cleared message.call)
  | answered {message : SendMessage Handler Data} {below : List (Frame Handler Data)}
      (stack : state.stack thread = .onMessage message :: below) :
      Transition state nested thread
        (((state.setReady message.call).advance message.call
          fun sent => { sent with progress := .answered }).setStack thread
            (.wakeUp message.thread :: below)) [.answered message.call]
  | wakeUp {target : Nat} {below : List (Frame Handler Data)}
      (stack : state.stack thread = .wakeUp target :: below) :
      Transition state nested thread { state.setStack thread below with
        signaled := Function.update state.signaled target true } []
  | returned {call : Nat} {waited : Bool} {below : List (Frame Handler Data)}
      (stack : state.stack thread = .send call waited .test :: below)
      (ready : state.ready call = true) :
      Transition state nested thread
        ((state.advance call fun sent => { sent with returned := true }).setStack thread
          (if waited then .wakeUp thread :: below else below)) [.returned call]
  | enter {call : Nat} {waited : Bool} {below : List (Frame Handler Data)}
      (stack : state.stack thread = .send call waited .enter :: below) :
      Transition state nested thread (state.enterWait thread (.send call waited .wait :: below)) []
  | getEnter {below : List (Frame Handler Data)}
      (stack : state.stack thread = .get .enter :: below) :
      Transition state nested thread (state.enterWait thread (.get .wait :: below)) []
  | onWakeUp {frame : Frame Handler Data} {below : List (Frame Handler Data)}
      (stack : state.stack thread = frame :: below)
      (waits : (∃ call waited, frame = .send call waited .wait) ∨ frame = .get .wait) :
      Transition state nested thread (state.onWakeUp thread) []
  | drained {below : List (Frame Handler Data)}
      (stack : state.stack thread = .receiveSends :: below) (empty : state.sendlist thread = []) :
      Transition state nested thread { state.setStack thread below with
        hasSends := Function.update state.hasSends thread false } []
  | received {message : SendMessage Handler Data} {rest : List (SendMessage Handler Data)}
      {below : List (Frame Handler Data)} (stack : state.stack thread = .receiveSends :: below)
      (first : state.sendlist thread = message :: rest) :
      Transition state nested thread
        { (state.advance message.call fun sent => { sent with progress := .handling }).setStack thread
            (.onMessage message :: .receiveSends :: below) with
          sendlist := Function.update state.sendlist thread rest }
        [.handled message.call thread message.msg]
  | found {queue : MessageQueue Handler Data} {below : List (Frame Handler Data)}
      (message : Message Handler Data) (stack : state.stack thread = .get .pass :: below) :
      Transition state nested thread
        ({ state with queue := Function.update state.queue thread queue }.setStack thread below)
        [.got thread (some message)]
  | notFound {queue : MessageQueue Handler Data} {below : List (Frame Handler Data)}
      (stack : state.stack thread = .get .pass :: below) (empty : queue.msgq = []) :
      Transition state nested thread
        ({ state with queue := Function.update state.queue thread queue }.setStack thread
          (.get .stop :: below)) []
  | answering {message : SendMessage Handler Data} {rest : List (SendMessage Handler Data)}
      {below : List (Frame Handler Data)}
      (stack : state.stack thread = .clear (message :: rest) :: below) :
      Transition state nested thread ((state.setReady message.call).setStack thread
        (.wakeUp message.thread :: .clear rest :: below)) []

variable [DecidableEq Handler] {state next : Threads Handler Data} {nested : Prop} {thread : Nat}
  {events : List (ThreadEvent Handler Data)}

omit [DecidableEq Handler] in

/-- A thread that runs the same stack changes nothing. -/
theorem setStack_self : state.setStack thread (state.stack thread) = state := by
  rw [setStack, Function.update_eq_self]

/-- A thread stops waiting. -/
theorem transition_waitStep {frame : Frame Handler Data} {behind below : List (Frame Handler Data)}
    (stack : state.stack thread = frame :: below)
    (waits : (∃ call waited, frame = .send call waited .wait) ∨ frame = .get .wait)
    (moves : Transition state nested thread (state.setStack thread behind) [])
    (success : state.waitStep thread behind = some (next, events)) :
    Transition state nested thread next events := by
  rw [waitStep] at success
  split at success
  · cases success
    exact moves
  · split at success
    · cases success
      exact .onWakeUp stack waits
    · cases success

/-- A thread turns to the sends it has received, if there are any. -/
theorem transition_receiveSends {old frame : Frame Handler Data} {below : List (Frame Handler Data)}
    (stack : state.stack thread = old :: below)
    (has : Move state nested thread [old] [.receiveSends, frame] [])
    (none : state.hasSends thread = false → Move state nested thread [old] [frame] []) :
    Transition state nested thread (state.receiveSends thread (frame :: below)) [] := by
  rw [receiveSends]
  split
  · exact .move (show state.stack thread = [old] ++ below from stack) has
  · next none' =>
    exact .move (show state.stack thread = [old] ++ below from stack)
      (none (eq_false_of_ne_true none'))

/-- A thread begins a call, unless its target is stopped. -/
theorem transition_unlessStopped {target : Nat} {frame : Frame Handler Data}
    (moves : Move state nested thread [] [frame] []) :
    Transition state nested thread (state.unlessStopped thread target frame) [] := by
  rw [unlessStopped]
  split
  · have still : Transition state nested thread (state.setStack thread ([] ++ state.stack thread)) [] :=
      .move rfl .stopped
    rwa [List.nil_append, setStack_self] at still
  · exact .move rfl moves

/-- What the user's code does is a transition. -/
theorem transition_userStep {action : ThreadAction Handler Data}
    (user : isUserCode (state.stack thread) = true)
    (bottom : action = .get → nested ∨ state.stack thread = [])
    (success : state.userStep thread action = some (next, events)) :
    Transition state nested thread next events := by
  cases action with
  | send target message =>
      rw [userStep] at success
      split at success
      · cases success
        have still {events : List (ThreadEvent Handler Data)} (moves : Move state nested thread [] [] events) :
            Transition state nested thread (state.setStack thread ([] ++ state.stack thread)) events :=
          .move rfl moves
        rw [List.nil_append, setStack_self] at still
        split
        · exact still .stopped
        · exact still (.direct message)
      · cases success
        exact transition_unlessStopped (.lockSend target message user)
  | post target message =>
      cases success
      exact transition_unlessStopped (.lockPost target message user)
  | doDelayPost target cmsDelay tstamp message =>
      cases success
      exact transition_unlessStopped (.lockDelayPost target cmsDelay tstamp message user)
  | quit target =>
      cases success
      exact .quit target _ user
  | clear target phandler id =>
      cases success
      exact .clear target phandler id user
  | get =>
      cases success
      exact .move rfl (.get user (bottom rfl))
  | finish | proceed | event | lapse | expire => cases success

/-- The end of a handler is a transition. -/
theorem transition_finish {frame : Frame Handler Data} {below : List (Frame Handler Data)}
    (stack : state.stack thread = frame :: below)
    (success : state.finish thread frame below = some (next, events)) :
    Transition state nested thread next events := by
  cases frame with
  | event =>
      cases success
      exact .move stack .eventDone
  | onMessage message =>
      cases success
      exact .answered stack
  | lockSend | lockPost | lockDelayPost | wakeUp | send | receiveSends | get | clear => cases success

/-- A step of `Send` is a transition. -/
theorem transition_send {call : Nat} {waited : Bool} {phase : SendPhase} {now : UInt32}
    {below : List (Frame Handler Data)} (stack : state.stack thread = .send call waited phase :: below)
    (success : state.proceed thread now (.send call waited phase) below = some (next, events)) :
    Transition state nested thread next events := by
  cases phase with
  | test =>
      rw [proceed] at success
      split at success
      · next ready =>
          cases success
          exact .returned stack ready
      · next notReady =>
          cases success
          exact .move stack (.tested (eq_false_of_ne_true notReady))
  | sends =>
      cases success
      exact transition_receiveSends stack .hasSends .noSends
  | enter =>
      cases success
      exact .enter stack
  | wait => exact transition_waitStep stack (.inl ⟨call, waited, rfl⟩) (.move stack .waited) success

/-- A step of `Get` is a transition. -/
theorem transition_get {phase : GetPhase} {now : UInt32} {below : List (Frame Handler Data)}
    (stack : state.stack thread = .get phase :: below)
    (success : state.proceed thread now (.get phase) below = some (next, events)) :
    Transition state nested thread next events := by
  cases phase with
  | sends =>
      cases success
      exact transition_receiveSends stack .getHasSends .getNoSends
  | pass =>
      rw [proceed] at success
      split at success
      · cases success
        exact .found _ stack
      · next notFound =>
          cases success
          exact .notFound stack (MessageQueue.msgq_getPass_unfound (eq_false_of_ne_true notFound))
  | stop =>
      rw [proceed] at success
      split at success
      · cases success
        exact .move stack .getStopped
      · next runs =>
          cases success
          exact .move stack (.getRuns (eq_false_of_ne_true runs))
  | enter =>
      cases success
      exact .getEnter stack
  | wait => exact transition_waitStep stack (.inr rfl) (.move stack .getWaited) success

/-- A step of the library's code is a transition. -/
theorem transition_proceed {frame : Frame Handler Data} {now : UInt32}
    {below : List (Frame Handler Data)} (stack : state.stack thread = frame :: below)
    (success : state.proceed thread now frame below = some (next, events)) :
    Transition state nested thread next events := by
  cases frame with
  | event | onMessage => cases success
  | lockSend target message =>
      cases success
      exact .send stack
  | lockPost target message =>
      cases success
      exact .post target _ stack (.inl ⟨message, rfl⟩)
  | lockDelayPost target cmsDelay tstamp message =>
      cases success
      exact .post target _ stack (.inr ⟨cmsDelay, tstamp, message, rfl⟩)
  | wakeUp target =>
      cases success
      exact .wakeUp stack
  | send call waited phase => exact transition_send stack success
  | receiveSends =>
      rw [proceed] at success
      cases isList : state.sendlist thread with
      | nil =>
          rw [isList] at success
          cases success
          exact .drained stack isList
      | cons message rest =>
          rw [isList] at success
          cases success
          exact .received stack isList
  | get phase => exact transition_get stack success
  | clear rest =>
      cases rest with
      | nil =>
          cases success
          exact .move stack .clearDone
      | cons message rest =>
          cases success
          exact .answering stack

/-- Each step is one of the transitions. -/
theorem transition_of_step {label : Nat × ThreadAction Handler Data}
    (bottom : label.2 = .get → nested ∨ state.stack label.1 = [])
    (success : state.step label = some (next, events)) :
    Transition state nested label.1 next events := by
  obtain ⟨thread, action⟩ := label
  unfold step at success
  dsimp only at success bottom
  split at success
  · next frame below stack => exact transition_finish stack success
  · next now frame below stack => exact transition_proceed stack success
  · next below stack =>
      cases success
      exact .move stack .event
  · next below stack =>
      cases success
      exact .move stack .getWaited
  · next call waited below stack =>
      cases success
      exact .move stack .waited
  · next below stack =>
      cases success
      exact .move stack .getExpired
  · split at success
    · next user => exact transition_userStep user bottom success
    · cases success

end Threads

end VzSdk.Event
