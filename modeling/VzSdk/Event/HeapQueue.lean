import Mathlib.Algebra.Group.Nat.Defs
import Mathlib.Data.List.Nodup
import VzSdk.Std.Heap
import VzSdk.Std.Machine
import VzSdk.Event.MessageQueue

/-!
# Message queues with their heap

`HeapQueue` is `MessageQueue` with the container that its priority queue keeps,
in whatever arrangement the library's heap algorithms leave it. The machine of
a queue lets `Post`, `PostDelayed`, `Clear` and `Quit` come at any time, also
while a `Get` or `Peek` waits. `queue_keeps_messages` says that every message it
accepts stays in one place until it is delivered or removed, and in its order.
`listed_of_run` says that whatever the heap does, the queue answers every call
as `MessageQueue` does, whose delayed messages are a sorted list.
-/

namespace VzSdk.Event

open VzSdk.Base VzSdk.Std

/-- The algorithms that the priority queue of delayed messages is made with. -/
abbrev DelayHeap (Handler Data : Type) :=
  Heap.Algorithms (@DelayedMessage.less Handler Data)

/-- `MessageQueue`, with the container of `dmsgq_`. -/
structure HeapQueue (Handler Data : Type) where
  fStop : Bool
  /-- `msgPeek_` while `fPeekKeep_` is set. -/
  msgPeek : Option (Message Handler Data)
  msgq : List (Message Handler Data)
  container : List (DelayedMessage Handler Data)
  dmsgqNextNum : UInt32
deriving DecidableEq, Repr

namespace HeapQueue

variable {Handler Data : Type} (heap : DelayHeap Handler Data) (queue : HeapQueue Handler Data)

/-- A new queue, empty and not stopped. -/
def new : HeapQueue Handler Data := ⟨false, none, [], [], 0⟩

/-- Stop the queue; what is in it stays. -/
def quit : HeapQueue Handler Data := { queue with fStop := true }

/-- A message goes behind those that are posted, unless the queue is stopped. -/
def post (message : Message Handler Data) : HeapQueue Handler Data :=
  if queue.fStop then queue else { queue with msgq := queue.msgq ++ [message] }

/-- A message goes into the heap with its trigger and the next number. -/
def doDelayPost (cmsDelay : Int) (tstamp : UInt32) (message : Message Handler Data) :
    HeapQueue Handler Data :=
  if queue.fStop then queue
  else
    { queue with
      container := heap.pushHeap queue.container ⟨cmsDelay, tstamp, queue.dmsgqNextNum, message⟩
      dmsgqNextNum := queue.dmsgqNextNum + 1 }

/-- Post a message after a delay. -/
def postDelayed (now : UInt32) (cmsDelay : Int) (message : Message Handler Data) :
    HeapQueue Handler Data :=
  queue.doDelayPost heap cmsDelay (timeAfter now cmsDelay) message

/-- Post a message for a time. -/
def postAt (now tstamp : UInt32) (message : Message Handler Data) : HeapQueue Handler Data :=
  queue.doDelayPost heap (timeUntil now tstamp) tstamp message

/-- Remove the messages for a handler and id, and list them: the container is compacted and made a
heap again. -/
def clear [DecidableEq Handler] (phandler : Option Handler) (id : UInt32) :
    HeapQueue Handler Data × List (Message Handler Data) :=
  let hit := fun message : Message Handler Data => message.matches phandler id
  ({ queue with
      msgPeek := queue.msgPeek.filter fun message => !hit message
      msgq := queue.msgq.filter fun message => !hit message
      container := heap.makeHeap (queue.container.filter fun delayed => !hit delayed.msg) },
    (queue.msgPeek.filter hit).toList ++ queue.msgq.filter hit ++
      (queue.container.filter fun delayed => hit delayed.msg).map (·.msg))

/-- One pass of the loop of `Get` at clock reading `msCurrent`: the queue, `*pmsg`, and whether
`Get` returns it. -/
def pass (msCurrent : UInt32) (pmsg : Message Handler Data) :
    HeapQueue Handler Data × Message Handler Data × Bool :=
  let later := fun delayed : DelayedMessage Handler Data => timeIsLater msCurrent delayed.msTrigger
  let (ready, left) := heap.drain later queue.container
  let (pmsg, msgq, found) := MessageQueue.pull pmsg (queue.msgq ++ ready.map (·.msg))
  ({ queue with msgq := msgq, container := left }, pmsg, found)

/-- All messages of a queue, peeked, ready and delayed. -/
def contents : List (Message Handler Data) :=
  queue.msgPeek.toList ++ queue.msgq ++ queue.container.map (·.msg)

/-- The messages in the order in which they are delivered when the delayed ones come due. -/
def deliveryOrder : List (Message Handler Data) :=
  queue.msgPeek.toList ++ queue.msgq ++ (heap.popAll queue.container).map (·.msg)

end HeapQueue

/-! ## The machine of a queue -/

/-- A payload with, for the proofs only, the number of its message among those accepted and
whether it was posted without a delay. -/
structure Stamped (Data : Type) where
  pdata : Option Data
  serial : Nat
  posted : Bool
deriving DecidableEq, Repr

/-- A `Get` that waits; `keeps` when it was called by `Peek`. -/
structure GetCall where
  keeps : Bool
  cmsWait : Int
  msStart : UInt32
deriving DecidableEq, Repr

/-- A queue, the call that waits on it, and the record of its messages. -/
structure QueueState (Handler Data : Type) where
  queue : HeapQueue Handler (Stamped Data)
  call : Option GetCall
  accepted : List (Message Handler (Stamped Data))
  delivered : List (Message Handler (Stamped Data))
  removed : List (Message Handler (Stamped Data))
deriving DecidableEq, Repr

/-- A call of the queue, or a turn of a `Get` or `Peek` that waits. -/
inductive QueueLabel (Handler Data : Type) where
  | post (message : Message Handler Data)
  | postDelayed (now : UInt32) (cmsDelay : Int) (message : Message Handler Data)
  | clear (phandler : Option Handler) (id : UInt32)
  | quit
  | get (cmsWait : Int) (now : UInt32)
  | peek (cmsWait : Int) (now : UInt32)
  /-- `ss_->Wait` of the waiting call returns `waited`, and the clock reads `now`. -/
  | wake (waited : Bool) (now : UInt32)
deriving DecidableEq, Repr

/-- What a call of the queue brings. -/
inductive QueueOutput (Handler Data : Type) where
  | delivered (message : Message Handler (Stamped Data))
  | peeked (message : Message Handler (Stamped Data))
  | removed (messages : List (Message Handler (Stamped Data)))
  /-- `Get` returns false because `fStop_` is set, after a pass at `msCurrent`. -/
  | stopped (msCurrent : UInt32)
  /-- `Get` returns false for another reason. -/
  | gaveUp
deriving DecidableEq, Repr

namespace QueueState

variable {Handler Data : Type} (heap : DelayHeap Handler (Stamped Data))
  (state : QueueState Handler Data)

/-- A new queue, for which nothing was posted. -/
def new : QueueState Handler Data := ⟨.new, none, [], [], []⟩

/-- The message with a number that no other message has, and whether it was posted without delay.
-/
def stamp (posted : Bool) (message : Message Handler Data) : Message Handler (Stamped Data) :=
  ⟨message.phandler, message.messageId, some ⟨message.pdata, state.accepted.length, posted⟩⟩

/-- The record of a message that `Post` or `PostDelayed` is called with. -/
def accept (message : Message Handler (Stamped Data)) : QueueState Handler Data :=
  if state.queue.fStop then state else { state with accepted := state.accepted ++ [message] }

/-- A call returns a message. -/
def return_ (keeps : Bool) (message : Message Handler (Stamped Data)) :
    QueueState Handler Data × List (QueueOutput Handler Data) :=
  if keeps then
    ({ state with queue := { state.queue with msgPeek := some message }, call := none },
      [.peeked message])
  else
    ({ state with
        queue := { state.queue with msgPeek := none }
        call := none
        delivered := state.delivered ++ [message] }, [.delivered message])

/-- One turn of the loop of `Get`, up to its wait. -/
def turn (call : GetCall) (now : UInt32) :
    QueueState Handler Data × List (QueueOutput Handler Data) :=
  let (queue, pmsg, found) := state.queue.pass heap now .zero
  let state := { state with queue := queue }
  if found then state.return_ call.keeps pmsg
  else if queue.fStop then ({ state with call := none }, [.stopped now])
  else ({ state with call := some call }, [])

/-- `Get`, or `Peek` when it keeps the message. -/
def get (keeps : Bool) (cmsWait : Int) (now : UInt32) :
    QueueState Handler Data × List (QueueOutput Handler Data) :=
  match state.queue.msgPeek with
  | some message => state.return_ keeps message
  | none => state.turn heap ⟨keeps, cmsWait, now⟩ now

/-- What one call does; a message that is posted is stamped before. -/
def step [DecidableEq Handler] (label : QueueLabel Handler Data) :
    Option (QueueState Handler Data × List (QueueOutput Handler Data)) :=
  match label with
  | .post message =>
      let message := state.stamp true message
      some ({ state.accept message with queue := state.queue.post message }, [])
  | .postDelayed now cmsDelay message =>
      let message := state.stamp false message
      some ({ state.accept message with
                queue := state.queue.postDelayed heap now cmsDelay message }, [])
  | .clear phandler id =>
      let (queue, removed) := state.queue.clear heap phandler id
      some ({ state with queue := queue, removed := state.removed ++ removed }, [.removed removed])
  | .quit => some ({ state with queue := state.queue.quit }, [])
  | .get cmsWait now =>
      if state.call.isSome then none else some (state.get heap false cmsWait now)
  | .peek cmsWait now =>
      if state.call.isSome then none else some (state.get heap true cmsWait now)
  | .wake waited now =>
      match state.call with
      | none => none
      | some call =>
          if !waited || (call.cmsWait != kForever && timeDiff now call.msStart ≥ call.cmsWait) then
            some ({ state with call := none }, [.gaveUp])
          else some (state.turn heap call now)

end QueueState

/-- The machine of one queue and those who call it. -/
def queueMachine {Handler Data : Type} [DecidableEq Handler]
    (heap : DelayHeap Handler (Stamped Data)) :
    Machine (QueueState Handler Data) (QueueLabel Handler Data) (QueueOutput Handler Data) :=
  ⟨fun state label => state.step heap label⟩

/-! ## What the operations of a queue do -/

namespace HeapQueue

variable {Handler Data : Type} {queue : HeapQueue Handler Data}

/-- The container is a heap, and its messages are numbered below the next number. -/
structure WellFormed (queue : HeapQueue Handler Data) : Prop where
  isHeap : Heap.IsHeap DelayedMessage.less queue.container
  numbered : (queue.container.map (·.num)).Nodup
  below : ∀ delayed ∈ queue.container, delayed.num < queue.dmsgqNextNum

/-- A new queue is well formed. -/
theorem wellFormed_new : WellFormed (new : HeapQueue Handler Data) :=
  ⟨Heap.isHeap_nil, List.nodup_nil, by simp [new]⟩

/-- Messages with different numbers are not equal in the order of the heap. -/
theorem WellFormed.distinct (formed : queue.WellFormed) :
    Heap.Distinct DelayedMessage.less queue.container := by
  intro first inFirst second inSecond notLess notGreater
  rw [DelayedMessage.less_eq_false] at notLess notGreater
  have same : first.num = second.num := by
    simp only [UInt32.lt_iff_toNat_lt, UInt32.le_iff_toNat_le, ← UInt32.toNat_inj] at *
    omega
  exact List.inj_on_of_nodup_map formed.numbered inFirst inSecond same

/-- Posting leaves the kept message alone. -/
theorem msgPeek_post (queue : HeapQueue Handler Data) (message : Message Handler Data) :
    (queue.post message).msgPeek = queue.msgPeek := by
  unfold HeapQueue.post
  split <;> rfl

/-- Posting with a delay leaves the kept message alone. -/
theorem msgPeek_doDelayPost (queue : HeapQueue Handler Data) (heap : DelayHeap Handler Data)
    (cmsDelay : Int) (tstamp : UInt32) (message : Message Handler Data) :
    (queue.doDelayPost heap cmsDelay tstamp message).msgPeek = queue.msgPeek := by
  unfold HeapQueue.doDelayPost
  split <;> rfl

/-- Posting keeps a queue well formed. -/
theorem WellFormed.post (formed : queue.WellFormed) (message : Message Handler Data) :
    (queue.post message).WellFormed := by
  unfold HeapQueue.post
  split
  · exact formed
  · exact ⟨formed.isHeap, formed.numbered, formed.below⟩

/-- Posting with a delay keeps a queue well formed while its numbers do not wrap. -/
theorem WellFormed.doDelayPost (formed : queue.WellFormed) (heap : DelayHeap Handler Data)
    (cmsDelay : Int) (tstamp : UInt32) (message : Message Handler Data)
    (counted : queue.fStop = false → queue.dmsgqNextNum.toNat + 1 < 2 ^ 32) :
    (queue.doDelayPost heap cmsDelay tstamp message).WellFormed := by
  unfold HeapQueue.doDelayPost
  split
  · exact formed
  · next running =>
      have next : (queue.dmsgqNextNum + 1).toNat = queue.dmsgqNextNum.toNat + 1 := by
        rw [UInt32.toNat_add]
        exact Nat.mod_eq_of_lt (counted (by simpa using running))
      have pushed := heap.perm_pushHeap ⟨cmsDelay, tstamp, queue.dmsgqNextNum, message⟩ formed.isHeap
      refine ⟨heap.isHeap_pushHeap _ formed.isHeap, ?_, ?_⟩
      · rw [(pushed.map _).nodup_iff, List.map_cons, List.nodup_cons]
        refine ⟨?_, formed.numbered⟩
        intro member
        obtain ⟨delayed, stands, same⟩ := List.mem_map.mp member
        have below := formed.below delayed stands
        rw [same] at below
        exact UInt32.lt_irrefl _ below
      · intro delayed member
        rw [UInt32.lt_iff_toNat_lt, next]
        rcases List.mem_cons.mp (pushed.subset member) with rfl | stands
        · exact Nat.lt_succ_self _
        · have below := formed.below delayed stands
          rw [UInt32.lt_iff_toNat_lt] at below
          omega

/-- `Clear` keeps a queue well formed. -/
theorem WellFormed.clear [DecidableEq Handler] (formed : queue.WellFormed)
    (heap : DelayHeap Handler Data) (phandler : Option Handler) (id : UInt32) :
    (queue.clear heap phandler id).1.WellFormed := by
  have made := heap.perm_makeHeap
    (queue.container.filter fun delayed => !delayed.msg.matches phandler id)
  refine ⟨heap.isHeap_makeHeap _, ?_, ?_⟩
  · exact (made.map _).nodup_iff.mpr (formed.numbered.sublist (List.filter_sublist.map _))
  · intro delayed member
    exact formed.below delayed (List.mem_filter.mp (made.subset member)).1

/-- Filtering an optional message is filtering the list of it. -/
theorem toList_filter (kept : Option (Message Handler Data)) (hit : Message Handler Data → Bool) :
    (kept.filter hit).toList = kept.toList.filter hit := by
  cases kept with
  | none => rfl
  | some message => cases isHit : hit message <;> simp [isHit]

/-- The messages that match are removed and listed, the others stay. -/
theorem contents_clear [DecidableEq Handler] (heap : DelayHeap Handler Data)
    (queue : HeapQueue Handler Data) (phandler : Option Handler) (id : UInt32) :
    (queue.clear heap phandler id).2.Perm
        (queue.contents.filter fun message => message.matches phandler id) ∧
      (queue.clear heap phandler id).1.contents.Perm
        (queue.contents.filter fun message => !message.matches phandler id) := by
  have made := (heap.perm_makeHeap
    (queue.container.filter fun delayed => !delayed.msg.matches phandler id)).map (·.msg)
  simp only [clear, contents, toList_filter, List.filter_append, List.filter_map]
  exact ⟨.refl _, made.append_left _⟩

/-- Clearing leaves the order of the messages that stay. -/
theorem deliveryOrder_clear [DecidableEq Handler] (heap : DelayHeap Handler Data)
    (formed : queue.WellFormed) (phandler : Option Handler) (id : UInt32) :
    (queue.clear heap phandler id).1.deliveryOrder heap =
      (queue.deliveryOrder heap).filter fun message => !message.matches phandler id := by
  have compacted := Heap.popAll_makeHeap_filter DelayedMessage.less_strictWeak heap formed.isHeap
    formed.distinct fun delayed => !delayed.msg.matches phandler id
  simp only [clear, deliveryOrder, toList_filter, List.filter_append, List.filter_map]
  rw [compacted]
  rfl

/-- Posting adds the message, unless the queue is stopped. -/
theorem contents_post (queue : HeapQueue Handler Data) (message : Message Handler Data) :
    (queue.post message).contents.Perm
      ((if queue.fStop then [] else [message]) ++ queue.contents) := by
  unfold post
  split
  · exact .refl _
  · simp only [contents]
    rw [← List.append_assoc, List.append_assoc _ [message]]
    exact List.perm_middle

/-- Posting with a delay adds the message, unless the queue is stopped. -/
theorem contents_doDelayPost (heap : DelayHeap Handler Data) (formed : queue.WellFormed)
    (cmsDelay : Int) (tstamp : UInt32) (message : Message Handler Data) :
    (queue.doDelayPost heap cmsDelay tstamp message).contents.Perm
      ((if queue.fStop then [] else [message]) ++ queue.contents) := by
  unfold doDelayPost
  split
  · exact .refl _
  · have pushed := (heap.perm_pushHeap ⟨cmsDelay, tstamp, queue.dmsgqNextNum, message⟩
      formed.isHeap).map (·.msg)
    exact (pushed.append_left _).trans List.perm_middle

/-- What is left of a drained container, with any ready list. -/
theorem WellFormed.left (formed : queue.WellFormed) {stop : DelayedMessage Handler Data → Bool}
    {ready left : List (DelayedMessage Handler Data)}
    (drained : Heap.Drained DelayedMessage.less stop queue.container ready left)
    (msgq : List (Message Handler Data)) :
    WellFormed { queue with msgq := msgq, container := left } := by
  refine ⟨drained.isHeap, ?_, ?_⟩
  · have numbered := (drained.perm.map (·.num)).nodup_iff.mpr formed.numbered
    rw [List.map_append] at numbered
    exact (List.nodup_append.mp numbered).2.1
  · intro delayed member
    exact formed.below delayed (drained.perm.subset (List.mem_append_right _ member))

/-- What a pass does: the due messages become ready, and the first ready one is taken. -/
theorem pass_cases (heap : DelayHeap Handler Data) (formed : queue.WellFormed)
    (lasting : ∀ message ∈ queue.contents, message.messageId ≠ mqidDispose) (now : UInt32)
    (pmsg : Message Handler Data) :
    ∃ ready left, Heap.Drained DelayedMessage.less
        (fun delayed => timeIsLater now delayed.msTrigger) queue.container ready left ∧
      ((queue.msgq ++ ready.map (·.msg) = [] ∧
          queue.pass heap now pmsg = ({ queue with msgq := [], container := left }, pmsg, false)) ∨
        ∃ message rest, queue.msgq ++ ready.map (·.msg) = message :: rest ∧
          queue.pass heap now pmsg =
            ({ queue with msgq := rest, container := left }, message, true)) := by
  have drained := Heap.drain_drained DelayedMessage.less_strictWeak heap
    (fun delayed => timeIsLater now delayed.msTrigger) formed.isHeap
  have lastingReady : ∀ message ∈ queue.msgq ++ (heap.drain
      (fun delayed => timeIsLater now delayed.msTrigger) queue.container).1.map (·.msg),
      message.messageId ≠ mqidDispose := by
    intro message member
    refine lasting message ?_
    rcases List.mem_append.mp member with waiting | ready
    · exact List.mem_append_left _ (List.mem_append_right _ waiting)
    · obtain ⟨delayed, isReady, rfl⟩ := List.mem_map.mp ready
      exact List.mem_append_right _
        (List.mem_map_of_mem (drained.perm.subset (List.mem_append_left _ isReady)))
  refine ⟨_, _, drained, ?_⟩
  cases all : queue.msgq ++ (heap.drain (fun delayed => timeIsLater now delayed.msTrigger)
      queue.container).1.map (·.msg) with
  | nil => exact .inl ⟨rfl, by simp only [pass, all, MessageQueue.pull]⟩
  | cons message rest =>
      have lastingFirst := lastingReady message (by simp [all])
      exact .inr ⟨message, rest, rfl, by
        simp only [pass, all, MessageQueue.pull, lastingFirst, if_false]⟩

/-! ## The heap as the queue of delayed messages -/

/-- The queue holds the messages of `model`, the delayed ones in some arrangement. -/
structure Refines (queue : HeapQueue Handler Data) (model : MessageQueue Handler Data) : Prop where
  fStop : queue.fStop = model.fStop
  msgPeek : queue.msgPeek = model.msgPeek
  msgq : queue.msgq = model.msgq
  container : queue.container.Perm model.dmsgq
  dmsgqNextNum : queue.dmsgqNextNum = model.dmsgqNextNum

variable {model : MessageQueue Handler Data}

/-- A new queue is the new queue with a list. -/
theorem refines_new : Refines (new : HeapQueue Handler Data) MessageQueue.new :=
  ⟨rfl, rfl, rfl, .refl _, rfl⟩

/-- Stopped alike. -/
theorem Refines.quit (refines : queue.Refines model) : queue.quit.Refines model.quit :=
  ⟨rfl, refines.msgPeek, refines.msgq, refines.container, refines.dmsgqNextNum⟩

/-- Posted alike. -/
theorem Refines.post (refines : queue.Refines model) (message : Message Handler Data) :
    (queue.post message).Refines (model.post message) := by
  unfold HeapQueue.post MessageQueue.post
  rw [refines.fStop]
  split
  · exact refines
  · exact ⟨rfl, refines.msgPeek, by rw [refines.msgq], refines.container, refines.dmsgqNextNum⟩

/-- Posted with a delay alike: the heap's contents are those of the list. -/
theorem Refines.doDelayPost (refines : queue.Refines model) (heap : DelayHeap Handler Data)
    (formed : queue.WellFormed) (cmsDelay : Int) (tstamp : UInt32)
    (message : Message Handler Data) :
    (queue.doDelayPost heap cmsDelay tstamp message).Refines
      (model.doDelayPost cmsDelay tstamp message) := by
  unfold HeapQueue.doDelayPost MessageQueue.doDelayPost
  rw [refines.fStop]
  split
  · exact refines
  · have pushed := heap.perm_pushHeap ⟨cmsDelay, tstamp, queue.dmsgqNextNum, message⟩ formed.isHeap
    refine ⟨rfl, refines.msgPeek, refines.msgq, ?_, by rw [refines.dmsgqNextNum]⟩
    calc heap.pushHeap queue.container ⟨cmsDelay, tstamp, queue.dmsgqNextNum, message⟩
        |>.Perm (⟨cmsDelay, tstamp, queue.dmsgqNextNum, message⟩ :: queue.container) := pushed
      _ |>.Perm (⟨cmsDelay, tstamp, model.dmsgqNextNum, message⟩ :: model.dmsgq) := by
          rw [refines.dmsgqNextNum]
          exact refines.container.cons _
      _ |>.Perm (model.dmsgq ++ [⟨cmsDelay, tstamp, model.dmsgqNextNum, message⟩]) :=
          (List.perm_append_singleton _ _).symm

/-- Both remove the same messages; the delayed ones may be listed in another order. -/
theorem Refines.clear [DecidableEq Handler] (refines : queue.Refines model)
    (heap : DelayHeap Handler Data) (phandler : Option Handler) (id : UInt32) :
    (queue.clear heap phandler id).1.Refines (model.clear phandler id).1 ∧
      (queue.clear heap phandler id).2.Perm (model.clear phandler id).2 := by
  have made := heap.perm_makeHeap
    (queue.container.filter fun delayed => !delayed.msg.matches phandler id)
  simp only [HeapQueue.clear, MessageQueue.clear, refines.msgPeek, refines.msgq]
  refine ⟨⟨refines.fStop, rfl, rfl, made.trans (refines.container.filter _),
    refines.dmsgqNextNum⟩, ?_⟩
  exact ((refines.container.filter _).map _).append_left _

/-- A pass takes the same message from both. -/
theorem Refines.pass (refines : queue.Refines model) (heap : DelayHeap Handler Data)
    (formed : queue.WellFormed) (unpeeked : queue.msgPeek = none) (now : UInt32)
    (pmsg : Message Handler Data) :
    (queue.pass heap now pmsg).1.Refines (model.getPass now pmsg).queue ∧
      (queue.pass heap now pmsg).2 =
        ((model.getPass now pmsg).pmsg, (model.getPass now pmsg).found) := by
  obtain ⟨same, left⟩ := Heap.drain_agrees DelayedMessage.less_strictWeak heap
    (fun delayed => timeIsLater now delayed.msTrigger) formed.isHeap formed.distinct
    refines.container
  have modelUnpeeked : model.msgPeek = none := refines.msgPeek ▸ unpeeked
  simp only [HeapQueue.pass, MessageQueue.getPass, modelUnpeeked, refines.msgq, same]
  exact ⟨⟨refines.fStop, unpeeked, rfl, left, refines.dmsgqNextNum⟩, trivial⟩

/-- A pass leaves a heap. -/
theorem WellFormed.pass (formed : queue.WellFormed) (heap : DelayHeap Handler Data) (now : UInt32)
    (pmsg : Message Handler Data) : (queue.pass heap now pmsg).1.WellFormed :=
  formed.left (Heap.drain_drained DelayedMessage.less_strictWeak heap
    (fun delayed => timeIsLater now delayed.msTrigger) formed.isHeap) _

end HeapQueue

/-! ## The same calls of both queues -/

/-- A call of a queue that nobody peeks at; `pass` is one pass of the loop of `Get`. -/
inductive QueueCall (Handler Data : Type) where
  | post (message : Message Handler Data)
  | postDelayed (now : UInt32) (cmsDelay : Int) (message : Message Handler Data)
  | postAt (now tstamp : UInt32) (message : Message Handler Data)
  | clear (phandler : Option Handler) (id : UInt32)
  | quit
  | pass (msCurrent : UInt32)
deriving DecidableEq, Repr

section Calls

variable {Handler Data : Type} [DecidableEq Handler]

/-- The queue with its heap after a call, and the messages that the call takes or removes. -/
def HeapQueue.call (heap : DelayHeap Handler Data) (queue : HeapQueue Handler Data) :
    QueueCall Handler Data → HeapQueue Handler Data × List (Message Handler Data)
  | .post message => (queue.post message, [])
  | .postDelayed now cmsDelay message => (queue.postDelayed heap now cmsDelay message, [])
  | .postAt now tstamp message => (queue.postAt heap now tstamp message, [])
  | .clear phandler id => queue.clear heap phandler id
  | .quit => (queue.quit, [])
  | .pass msCurrent =>
      let (next, pmsg, found) := queue.pass heap msCurrent .zero
      (next, if found then [pmsg] else [])

/-- The queue of the model after a call, and the messages that the call takes or removes. -/
def MessageQueue.call (queue : MessageQueue Handler Data) :
    QueueCall Handler Data → MessageQueue Handler Data × List (Message Handler Data)
  | .post message => (queue.post message, [])
  | .postDelayed now cmsDelay message => (queue.postDelayed now cmsDelay message, [])
  | .postAt now tstamp message => (queue.postAt now tstamp message, [])
  | .clear phandler id => queue.clear phandler id
  | .quit => (queue.quit, [])
  | .pass msCurrent =>
      let taken := queue.getPass msCurrent .zero
      (taken.queue, if taken.found then [taken.pmsg] else [])

/-- The queue with a heap under a sequence of calls. -/
def heapCalls (heap : DelayHeap Handler Data) :
    Machine (HeapQueue Handler Data) (QueueCall Handler Data) (List (Message Handler Data)) :=
  ⟨fun queue call => some ((queue.call heap call).1, [(queue.call heap call).2])⟩

/-- The queue with a sorted list under a sequence of calls. -/
def listCalls :
    Machine (MessageQueue Handler Data) (QueueCall Handler Data) (List (Message Handler Data)) :=
  ⟨fun queue call => some ((queue.call call).1, [(queue.call call).2])⟩

/-- The number of a delayed message does not wrap. -/
def Numbers (queue : HeapQueue Handler Data) : QueueCall Handler Data → Prop
  | .postDelayed _ _ _ | .postAt _ _ _ =>
      queue.fStop = false → queue.dmsgqNextNum.toNat + 1 < 2 ^ 32
  | _ => True

instance (queue : HeapQueue Handler Data) (call : QueueCall Handler Data) :
    Decidable (Numbers queue call) :=
  match call with
  | .postDelayed _ _ _ | .postAt _ _ _ => inferInstanceAs (Decidable
      (queue.fStop = false → queue.dmsgqNextNum.toNat + 1 < 2 ^ 32))
  | .post _ | .clear _ _ | .quit | .pass _ => .isTrue trivial

/-- The queue is a heap of what the model holds, and nothing is peeked. -/
structure HeapQueue.Follows (queue : HeapQueue Handler Data)
    (model : MessageQueue Handler Data) : Prop where
  formed : queue.WellFormed
  refines : queue.Refines model
  unpeeked : queue.msgPeek = none

/-- A call does the same to both, and takes or removes the same messages. -/
theorem HeapQueue.Follows.call {queue : HeapQueue Handler Data}
    {model : MessageQueue Handler Data} (follows : queue.Follows model)
    (heap : DelayHeap Handler Data) {call : QueueCall Handler Data} (numbers : Numbers queue call) :
    (queue.call heap call).1.Follows (model.call call).1 ∧
      (queue.call heap call).2.Perm (model.call call).2 := by
  obtain ⟨formed, refines, unpeeked⟩ := follows
  cases call with
  | post message =>
      exact ⟨⟨formed.post message, refines.post message,
        (queue.msgPeek_post message).trans unpeeked⟩, .refl _⟩
  | postDelayed now cmsDelay message =>
      exact ⟨⟨formed.doDelayPost heap _ _ message numbers,
        refines.doDelayPost heap formed _ _ message,
        (queue.msgPeek_doDelayPost heap _ _ message).trans unpeeked⟩, .refl _⟩
  | postAt now tstamp message =>
      exact ⟨⟨formed.doDelayPost heap _ _ message numbers,
        refines.doDelayPost heap formed _ _ message,
        (queue.msgPeek_doDelayPost heap _ _ message).trans unpeeked⟩, .refl _⟩
  | clear phandler id =>
      obtain ⟨cleared, same⟩ := refines.clear heap phandler id
      refine ⟨⟨formed.clear heap phandler id, cleared, ?_⟩, same⟩
      simp [HeapQueue.call, HeapQueue.clear, unpeeked]
  | quit =>
      exact ⟨⟨⟨formed.isHeap, formed.numbered, formed.below⟩, refines.quit, unpeeked⟩, .refl _⟩
  | pass msCurrent =>
      obtain ⟨passed, same⟩ := refines.pass heap formed unpeeked msCurrent .zero
      refine ⟨⟨formed.pass heap msCurrent .zero, passed, unpeeked⟩, ?_⟩
      simp only [HeapQueue.call, MessageQueue.call, same]
      exact .refl _

/-- Whatever heap functions the library has, the queue with its heap goes through every
sequence of calls as the list of the model does: each call takes or removes the same messages
(a pass the same one), until as many delayed messages were posted as there are numbers. -/
theorem listed_of_run (heap : DelayHeap Handler Data) {calls : List (QueueCall Handler Data)}
    {final : HeapQueue Handler Data} {outputs : List (List (Message Handler Data))}
    (run : (heapCalls heap).RunWhere Numbers .new calls final outputs) :
    ∃ model listed, listCalls.Run .new calls model listed ∧ final.Refines model ∧
      List.Forall₂ List.Perm outputs listed := by
  have simulated : ∃ model listed, listCalls.Run .new calls model listed ∧ final.Follows model ∧
      List.Forall₂ List.Perm outputs listed := by
    induction run with
    | nil =>
        exact ⟨_, _, .nil, ⟨HeapQueue.wellFormed_new, HeapQueue.refines_new, rfl⟩, .nil⟩
    | @snoc _ _ _ call _ _ _ numbers transition inductionHypothesis =>
        obtain ⟨model, listed, modelRun, follows, same⟩ := inductionHypothesis
        obtain ⟨next, answered⟩ := follows.call heap numbers
        cases transition
        exact ⟨_, _, .snoc modelRun trivial rfl, next, List.rel_append same (.cons answered .nil)⟩
  obtain ⟨model, listed, modelRun, follows, same⟩ := simulated
  exact ⟨model, listed, modelRun, follows.refines, same⟩

end Calls

/-- Two delayed messages are posted; the one that is due first is taken first, whichever was
posted first, and the other is removed. -/
def delayedCalls : List (QueueCall Nat Nat) :=
  [.postDelayed 1000 300 ⟨some 1, 5, none⟩, .postAt 1000 1200 ⟨some 2, 6, none⟩, .pass 1100,
    .pass 1250, .clear (some 1) mqidAny]

/-- A container of delayed messages that is kept sorted. -/
def sortedDelays : DelayHeap Nat Nat := Heap.sorting DelayedMessage.less_strictWeak

/-- The message with the earlier trigger comes out first, and the other one is cleared. -/
theorem listed_of_run_delayed :
    ∃ final outputs, (heapCalls sortedDelays).RunWhere Numbers .new delayedCalls final outputs ∧
      outputs = [[], [], [], [⟨some 2, 6, none⟩], [⟨some 1, 5, none⟩]] ∧
      ∃ model listed, listCalls.Run .new delayedCalls model listed ∧ final.Refines model ∧
        List.Forall₂ List.Perm outputs listed := by
  have permitted : (heapCalls sortedDelays).permits
      (fun queue call => decide (Numbers queue call)) .new delayedCalls = true := by decide
  have checked : ((heapCalls sortedDelays).exec .new delayedCalls).any (fun result =>
      result.2 = [[], [], [], [⟨some 2, 6, none⟩], [⟨some 1, 5, none⟩]]) = true := by decide
  obtain ⟨final, outputs, run, taken⟩ :=
    Machine.exists_runWhere_of_exec (fun _ _ => of_decide_eq_true) permitted checked
  exact ⟨final, outputs, run, by simpa using taken, listed_of_run sortedDelays run⟩

/-! ## Every message in one place, and in its order -/

section

variable {Handler Data : Type}

/-- The number that a message was given. -/
def serialOf (message : Message Handler (Stamped Data)) : Nat :=
  (message.pdata.map (·.serial)).getD 0

/-- The message was posted without a delay. -/
def isPosted (message : Message Handler (Stamped Data)) : Bool :=
  (message.pdata.map (·.posted)).getD false

/-- What holds in every state of a queue. -/
structure QueueInv (state : QueueState Handler Data) : Prop where
  formed : state.queue.WellFormed
  conserved : (state.delivered ++ state.queue.contents ++ state.removed).Perm state.accepted
  numbered : state.accepted.map serialOf = List.range state.accepted.length
  lasting : ∀ message ∈ state.accepted, message.messageId ≠ mqidDispose
  undelayed : ∀ delayed ∈ state.queue.container, isPosted delayed.msg = false
  unpeeked : state.call.isSome → state.queue.msgPeek = none
  inOrder : ((state.delivered ++ state.queue.msgPeek.toList ++ state.queue.msgq).filter
    isPosted).Pairwise fun first second => serialOf first < serialOf second

namespace QueueInv

variable {state : QueueState Handler Data}

/-- What was delivered or is waiting was accepted. -/
theorem mem_accepted (inv : QueueInv state) {message : Message Handler (Stamped Data)}
    (member : message ∈ state.delivered ∨ message ∈ state.queue.contents) :
    message ∈ state.accepted := by
  refine inv.conserved.subset (List.mem_append_left _ ?_)
  exact List.mem_append.mpr member

/-- A message's number is less than how many were accepted. -/
theorem serial_lt (inv : QueueInv state) {message : Message Handler (Stamped Data)}
    (member : message ∈ state.accepted) : serialOf message < state.accepted.length := by
  have inRange := List.mem_map_of_mem (f := serialOf) member
  rw [inv.numbered] at inRange
  exact List.mem_range.mp inRange

/-- The accepted messages are told apart by their serial numbers. -/
theorem nodup (inv : QueueInv state) : state.accepted.Nodup := by
  refine List.Nodup.of_map serialOf ?_
  rw [inv.numbered]
  exact List.nodup_range

/-- Nothing is in a new queue. -/
theorem new : QueueInv (QueueState.new : QueueState Handler Data) where
  formed := HeapQueue.wellFormed_new
  conserved := .refl _
  numbered := rfl
  lasting := by simp [QueueState.new]
  undelayed := by simp [QueueState.new, HeapQueue.new]
  unpeeked := by simp [QueueState.new]
  inOrder := by simp [QueueState.new, HeapQueue.new]

/-- A message that `Post` or `PostDelayed` has put somewhere in the queue. -/
theorem conserved_accept (inv : QueueInv state) {message : Message Handler (Stamped Data)}
    {queue : HeapQueue Handler (Stamped Data)}
    (put : queue.contents.Perm (message :: state.queue.contents)) :
    (state.delivered ++ queue.contents ++ state.removed).Perm (state.accepted ++ [message]) := by
  have placed : (state.delivered ++ queue.contents ++ state.removed).Perm
      (message :: (state.delivered ++ state.queue.contents ++ state.removed)) :=
    ((put.append_left _).trans List.perm_middle).append_right _
  exact placed.trans ((inv.conserved.cons message).trans (List.perm_append_singleton _ _).symm)

/-- The record of a new message. -/
theorem numbered_accept (inv : QueueInv state) (posted : Bool) (message : Message Handler Data) :
    (state.accepted ++ [state.stamp posted message]).map serialOf =
      List.range (state.accepted ++ [state.stamp posted message]).length := by
  rw [List.map_append, inv.numbered, List.length_append, List.length_singleton, List.range_succ]
  rfl

/-- Posting adds the message behind all others of its kind. -/
theorem post (inv : QueueInv state) {message : Message Handler Data}
    (lasting : message.messageId ≠ mqidDispose) :
    QueueInv { state.accept (state.stamp true message) with
      queue := state.queue.post (state.stamp true message) } := by
  have formed := inv.formed.post (state.stamp true message)
  have put := HeapQueue.contents_post state.queue (state.stamp true message)
  cases stopped : state.queue.fStop with
  | true =>
      simp only [QueueState.accept, HeapQueue.post, stopped, if_true]
      exact inv
  | false =>
      simp only [HeapQueue.post, stopped, Bool.false_eq_true, if_false] at formed put
      simp only [QueueState.accept, HeapQueue.post, stopped, Bool.false_eq_true, if_false]
      refine ⟨formed, inv.conserved_accept put, inv.numbered_accept true message, ?_,
        inv.undelayed, inv.unpeeked, ?_⟩
      · rw [List.forall_mem_append]
        exact ⟨inv.lasting, by simpa [QueueState.stamp] using lasting⟩
      · rw [← List.append_assoc, List.filter_append, List.pairwise_append]
        refine ⟨inv.inOrder, List.Pairwise.filter _ (List.pairwise_singleton _ _), ?_⟩
        -- The new message has the greatest number.
        intro first isFirst second isSecond
        obtain rfl := List.mem_singleton.mp (List.mem_filter.mp isSecond).1
        refine inv.serial_lt (inv.mem_accepted ?_)
        have member := (List.mem_filter.mp isFirst).1
        rw [List.append_assoc, List.mem_append] at member
        rcases member with delivered | waiting
        · exact .inl delivered
        · exact .inr (List.mem_append_left _ waiting)

/-- Posting with a delay adds the message to the delayed ones. -/
theorem postDelayed {heap : DelayHeap Handler (Stamped Data)} (inv : QueueInv state)
    {message : Message Handler Data} (lasting : message.messageId ≠ mqidDispose) (now : UInt32)
    (cmsDelay : Int)
    (counted : state.queue.fStop = false → state.queue.dmsgqNextNum.toNat + 1 < 2 ^ 32) :
    QueueInv { state.accept (state.stamp false message) with
      queue := state.queue.postDelayed heap now cmsDelay (state.stamp false message) } := by
  have formed := inv.formed.doDelayPost heap cmsDelay (timeAfter now cmsDelay)
    (state.stamp false message) counted
  have put := HeapQueue.contents_doDelayPost heap inv.formed cmsDelay
    (timeAfter now cmsDelay) (state.stamp false message)
  cases stopped : state.queue.fStop with
  | true =>
      simp only [QueueState.accept, HeapQueue.postDelayed, HeapQueue.doDelayPost, stopped, if_true]
      exact inv
  | false =>
      simp only [HeapQueue.doDelayPost, stopped, Bool.false_eq_true, if_false] at formed put
      simp only [QueueState.accept, HeapQueue.postDelayed, HeapQueue.doDelayPost, stopped,
        Bool.false_eq_true, if_false]
      refine ⟨formed, inv.conserved_accept put, inv.numbered_accept false message, ?_, ?_,
        inv.unpeeked, inv.inOrder⟩
      · rw [List.forall_mem_append]
        exact ⟨inv.lasting, by simpa [QueueState.stamp] using lasting⟩
      · intro delayed member
        rcases List.mem_cons.mp ((heap.perm_pushHeap _ inv.formed.isHeap).subset member) with
          rfl | stands
        · rfl
        · exact inv.undelayed delayed stands

/-- What `Clear` removes leaves its place and is noted. -/
theorem clear [DecidableEq Handler] (inv : QueueInv state)
    (heap : DelayHeap Handler (Stamped Data)) (phandler : Option Handler) (id : UInt32) :
    QueueInv { state with
      queue := (state.queue.clear heap phandler id).1
      removed := state.removed ++ (state.queue.clear heap phandler id).2 } := by
  obtain ⟨gone, stays⟩ := HeapQueue.contents_clear heap state.queue phandler id
  refine ⟨inv.formed.clear heap phandler id, ?_, inv.numbered, inv.lasting, ?_, ?_, ?_⟩
  · -- The contents are split by the match.
    refine List.Perm.trans ?_ inv.conserved
    have split : ((state.queue.clear heap phandler id).1.contents ++
        (state.queue.clear heap phandler id).2).Perm state.queue.contents :=
      (stays.append gone).trans (List.perm_append_comm.trans (List.filter_append_perm _ _))
    have moved := (split.append_left state.delivered).append_right state.removed
    refine List.Perm.trans ?_ moved
    simp only [List.append_assoc]
    exact ((List.perm_append_comm.append_left _).append_left _)
  · intro delayed member
    have stood := (heap.perm_makeHeap _).subset member
    exact inv.undelayed delayed (List.mem_filter.mp stood).1
  · intro waiting
    simp [HeapQueue.clear, inv.unpeeked waiting]
  · refine inv.inOrder.sublist (List.Sublist.filter _ ?_)
    refine ((List.Sublist.refl _).append ?_).append List.filter_sublist
    simp only [HeapQueue.clear, HeapQueue.toList_filter]
    exact List.filter_sublist

/-- Stopping moves no message. -/
theorem quit (inv : QueueInv state) : QueueInv { state with queue := state.queue.quit } :=
  ⟨⟨inv.formed.isHeap, inv.formed.numbered, inv.formed.below⟩, inv.conserved, inv.numbered,
    inv.lasting, inv.undelayed, inv.unpeeked, inv.inOrder⟩

end QueueInv

/-- A message has been taken from the queue and is about to be returned. -/
structure QueueHolds (state : QueueState Handler Data) (message : Message Handler (Stamped Data)) :
    Prop where
  formed : state.queue.WellFormed
  conserved : (state.delivered ++ (message :: (state.queue.msgq ++
    state.queue.container.map (·.msg))) ++ state.removed).Perm state.accepted
  numbered : state.accepted.map serialOf = List.range state.accepted.length
  lasting : ∀ message ∈ state.accepted, message.messageId ≠ mqidDispose
  undelayed : ∀ delayed ∈ state.queue.container, isPosted delayed.msg = false
  inOrder : ((state.delivered ++ message :: state.queue.msgq).filter isPosted).Pairwise
    fun first second => serialOf first < serialOf second

namespace QueueInv

variable {state : QueueState Handler Data}

/-- What `Get` returns is delivered, or kept when it was peeked at. -/
theorem return_ {message : Message Handler (Stamped Data)} (holds : QueueHolds state message)
    (keeps : Bool) : QueueInv (state.return_ keeps message).1 := by
  cases keeps with
  | true =>
      refine ⟨⟨holds.formed.isHeap, holds.formed.numbered, holds.formed.below⟩, holds.conserved,
        holds.numbered, holds.lasting, holds.undelayed, nofun, ?_⟩
      simpa [QueueState.return_] using holds.inOrder
  | false =>
      refine ⟨⟨holds.formed.isHeap, holds.formed.numbered, holds.formed.below⟩, ?_, holds.numbered,
        holds.lasting, holds.undelayed, nofun, ?_⟩
      · simpa [QueueState.return_, HeapQueue.contents] using holds.conserved
      · simpa [QueueState.return_] using holds.inOrder

/-- No message in the queue asks for a disposal. -/
theorem lasting_contents (inv : QueueInv state) :
    ∀ message ∈ state.queue.contents, message.messageId ≠ mqidDispose := by
  intro message member
  exact inv.lasting message (inv.mem_accepted (.inr member))

section Pass

variable {stop : DelayedMessage Handler (Stamped Data) → Bool}
  {ready left : List (DelayedMessage Handler (Stamped Data))}

/-- The messages are conserved when the due ones become ready. -/
theorem conserved_ready (inv : QueueInv state) (unpeeked : state.queue.msgPeek = none)
    (drained : Heap.Drained DelayedMessage.less stop state.queue.container ready left) :
    (state.delivered ++ (state.queue.msgq ++ ready.map (·.msg) ++ left.map (·.msg)) ++
      state.removed).Perm state.accepted := by
  refine List.Perm.trans ?_ inv.conserved
  have moved := drained.perm.map (·.msg)
  rw [List.map_append] at moved
  simp only [HeapQueue.contents, unpeeked, Option.toList_none, List.nil_append, List.append_assoc]
  rw [← List.append_assoc (ready.map _)]
  exact ((moved.append_right _).append_left _).append_left _

/-- A delayed message has no place in the order of the posted ones. -/
theorem inOrder_ready (inv : QueueInv state) (unpeeked : state.queue.msgPeek = none)
    (drained : Heap.Drained DelayedMessage.less stop state.queue.container ready left) :
    ((state.delivered ++ (state.queue.msgq ++ ready.map (·.msg))).filter isPosted).Pairwise
      fun first second => serialOf first < serialOf second := by
  have none : (ready.map (·.msg)).filter isPosted = [] := by
    rw [List.filter_eq_nil_iff]
    intro message member
    obtain ⟨delayed, isReady, rfl⟩ := List.mem_map.mp member
    simp [inv.undelayed delayed (drained.perm.subset (List.mem_append_left _ isReady))]
  have inOrder := inv.inOrder
  rw [unpeeked, Option.toList_none, List.append_nil] at inOrder
  rw [← List.append_assoc, List.filter_append, none, List.append_nil]
  exact inOrder

end Pass

/-- A turn of a `Get` or `Peek` that waits keeps every message in one place. -/
theorem turn (inv : QueueInv state) (heap : DelayHeap Handler (Stamped Data)) (call : GetCall)
    (now : UInt32) (unpeeked : state.queue.msgPeek = none) :
    QueueInv (state.turn heap call now).1 := by
  obtain ⟨ready, left, drained, taken⟩ :=
    HeapQueue.pass_cases heap inv.formed inv.lasting_contents now .zero
  have conserved := inv.conserved_ready unpeeked drained
  have inOrder := inv.inOrder_ready unpeeked drained
  have undelayed : ∀ delayed ∈ left, isPosted delayed.msg = false := by
    intro delayed member
    exact inv.undelayed delayed (drained.perm.subset (List.mem_append_right _ member))
  rcases taken with ⟨nothing, passed⟩ | ⟨message, rest, all, passed⟩
  · have formed := inv.formed.left drained []
    rw [nothing, List.nil_append] at conserved
    rw [nothing] at inOrder
    have kept (waiting : Option GetCall) : QueueInv { state with
        queue := { state.queue with msgq := [], container := left }
        call := waiting } := by
      refine ⟨formed, ?_, inv.numbered, inv.lasting, undelayed, fun _ => unpeeked, ?_⟩
      · simpa [HeapQueue.contents, unpeeked] using conserved
      · simpa [unpeeked] using inOrder
    simp only [QueueState.turn, passed, Bool.false_eq_true, if_false]
    split
    · exact kept none
    · exact kept (some call)
  · rw [all] at conserved inOrder
    have holds : QueueHolds { state with
        queue := { state.queue with msgq := rest, container := left } } message :=
      ⟨inv.formed.left drained rest, conserved, inv.numbered, inv.lasting, undelayed, inOrder⟩
    simp only [QueueState.turn, passed, if_true]
    exact return_ holds call.keeps

/-- `Get` keeps every message in one place. -/
theorem get (inv : QueueInv state) (heap : DelayHeap Handler (Stamped Data)) (keeps : Bool)
    (cmsWait : Int) (now : UInt32) : QueueInv (state.get heap keeps cmsWait now).1 := by
  unfold QueueState.get
  split
  · next message peeked =>
      refine return_ ⟨inv.formed, ?_, inv.numbered, inv.lasting, inv.undelayed, ?_⟩ keeps
      · simpa [HeapQueue.contents, peeked] using inv.conserved
      · simpa [peeked] using inv.inOrder
  · next unpeeked => exact inv.turn heap _ now unpeeked

end QueueInv

/-- The messages posted are no dispose messages, and the numbers of delayed ones do not wrap. -/
def Counted (state : QueueState Handler Data) : QueueLabel Handler Data → Prop
  | .post message => message.messageId ≠ mqidDispose
  | .postDelayed _ _ message => message.messageId ≠ mqidDispose ∧
      (state.queue.fStop = false → state.queue.dmsgqNextNum.toNat + 1 < 2 ^ 32)
  | _ => True

instance (state : QueueState Handler Data) (label : QueueLabel Handler Data) :
    Decidable (Counted state label) :=
  match label with
  | .post message => inferInstanceAs (Decidable (message.messageId ≠ mqidDispose))
  | .postDelayed _ _ message => inferInstanceAs (Decidable (message.messageId ≠ mqidDispose ∧
      (state.queue.fStop = false → state.queue.dmsgqNextNum.toNat + 1 < 2 ^ 32)))
  | .clear _ _ | .quit | .get _ _ | .peek _ _ | .wake _ _ => .isTrue trivial

/-- Every step keeps every message in one place. -/
theorem queueInv_step [DecidableEq Handler] {heap : DelayHeap Handler (Stamped Data)}
    {state next : QueueState Handler Data} {label : QueueLabel Handler Data}
    {emitted : List (QueueOutput Handler Data)} (inv : QueueInv state)
    (counted : Counted state label)
    (transition : (queueMachine heap).step state label = some (next, emitted)) :
    QueueInv next := by
  cases label with
  | post message =>
      cases transition
      exact inv.post counted
  | postDelayed now cmsDelay message =>
      cases transition
      exact inv.postDelayed counted.1 now cmsDelay counted.2
  | clear phandler id =>
      cases transition
      exact inv.clear heap phandler id
  | quit =>
      cases transition
      exact inv.quit
  | get cmsWait now =>
      simp only [queueMachine, QueueState.step] at transition
      split at transition
      · cases transition
      · have after := inv.get heap false cmsWait now
        rw [Option.some.inj transition] at after
        exact after
  | peek cmsWait now =>
      simp only [queueMachine, QueueState.step] at transition
      split at transition
      · cases transition
      · have after := inv.get heap true cmsWait now
        rw [Option.some.inj transition] at after
        exact after
  | wake waited now =>
      simp only [queueMachine, QueueState.step] at transition
      split at transition
      · cases transition
      · next call waiting =>
          have unpeeked := inv.unpeeked (by simp [waiting])
          split at transition
          · cases transition
            exact ⟨inv.formed, inv.conserved, inv.numbered, inv.lasting, inv.undelayed, nofun,
              inv.inOrder⟩
          · have after := inv.turn heap call now unpeeked
            rw [Option.some.inj transition] at after
            exact after

/-! ## Stopping -/

/-- The reading lies less than `half` behind the base, with no wrap between them. -/
def Near (base reading : UInt32) : Prop :=
  base.toNat ≤ reading.toNat ∧ reading.toNat < base.toNat + half

/-- Near a base, the clock's order is the order of its readings. -/
theorem timeIsLater_iff_of_near {base earlier later : UInt32} (nearEarlier : Near base earlier)
    (nearLater : Near base later) : timeIsLater earlier later = true ↔ earlier < later := by
  have offset {reading : UInt32} (near : Near base reading) :
      (reading - base).toNat = reading.toNat - base.toNat :=
    UInt32.toNat_sub_of_le _ _ (UInt32.le_iff_toNat_le.mpr near.1)
  have window {reading : UInt32} (near : Near base reading) : InWindow base reading := by
    unfold InWindow
    rw [offset near]
    obtain ⟨low, high⟩ := near
    omega
  rw [timeIsLater_iff_lt (window nearEarlier) (window nearLater), offset nearEarlier,
    offset nearLater, UInt32.lt_iff_toNat_lt]
  have low := nearEarlier.1
  omega

/-- The clock readings and the trigger time of a label are near the base. -/
def QueueLabel.Near (base : UInt32) : QueueLabel Handler Data → Prop
  | .postDelayed now cmsDelay _ => Event.Near base now ∧ Event.Near base (timeAfter now cmsDelay)
  | .get _ now => Event.Near base now
  | .peek _ now => Event.Near base now
  | .wake _ now => Event.Near base now
  | _ => True

/-- Nothing is peeked, ready or due. -/
def StoppedClean (state : QueueState Handler Data) (msCurrent : UInt32) : Prop :=
  state.queue.msgPeek = none ∧ state.queue.msgq = [] ∧
    ∀ delayed ∈ state.queue.container, msCurrent < delayed.msTrigger

/-- All trigger times of the queue are near the base. -/
def TriggersNear (base : UInt32) (queue : HeapQueue Handler (Stamped Data)) : Prop :=
  ∀ delayed ∈ queue.container, Near base delayed.msTrigger

/-- What a turn does: it leaves delayed messages only where they are, and stops clean. -/
theorem turn_stops (heap : DelayHeap Handler (Stamped Data)) {state : QueueState Handler Data}
    (inv : QueueInv state) (unpeeked : state.queue.msgPeek = none) {base now : UInt32}
    (near : Near base now) (triggers : TriggersNear base state.queue) (call : GetCall) :
    TriggersNear base (state.turn heap call now).1.queue ∧
      ∀ msCurrent, .stopped msCurrent ∈ (state.turn heap call now).2 →
        StoppedClean (state.turn heap call now).1 msCurrent := by
  obtain ⟨ready, left, drained, taken⟩ :=
    HeapQueue.pass_cases heap inv.formed inv.lasting_contents now .zero
  have nearLeft : ∀ delayed ∈ left, Near base delayed.msTrigger := by
    intro delayed member
    exact triggers delayed (drained.perm.subset (List.mem_append_right _ member))
  rcases taken with ⟨nothing, passed⟩ | ⟨message, rest, all, passed⟩
  · simp only [QueueState.turn, passed, Bool.false_eq_true, if_false]
    split
    · refine ⟨nearLeft, ?_⟩
      intro msCurrent isStopped
      obtain rfl : msCurrent = now := by simpa using isStopped
      refine ⟨unpeeked, rfl, ?_⟩
      intro delayed member
      -- The top is not due, and nothing in the heap is due before it.
      cases left with
      | nil => cases member
      | cons top others =>
          have topLater := (timeIsLater_iff_of_near near (nearLeft top (by simp))).mp
            (drained.halts top others rfl)
          have notGreater := drained.isHeap.top DelayedMessage.less_strictWeak delayed member
          rw [DelayedMessage.less_eq_false] at notGreater
          simp only [UInt32.lt_iff_toNat_lt, ← UInt32.toNat_inj] at topLater notGreater ⊢
          omega
    · exact ⟨nearLeft, by simp⟩
  · simp only [QueueState.turn, passed, if_true, QueueState.return_]
    split <;> exact ⟨nearLeft, by simp⟩

/-- A `Get` keeps the triggers near, and returns false at a stop with nothing ready left. -/
theorem get_stops (heap : DelayHeap Handler (Stamped Data)) {state : QueueState Handler Data}
    (inv : QueueInv state) {base now : UInt32} (near : Near base now)
    (triggers : TriggersNear base state.queue) (keeps : Bool) (cmsWait : Int) :
    TriggersNear base (state.get heap keeps cmsWait now).1.queue ∧
      ∀ msCurrent, .stopped msCurrent ∈ (state.get heap keeps cmsWait now).2 →
        StoppedClean (state.get heap keeps cmsWait now).1 msCurrent := by
  unfold QueueState.get
  split
  · simp only [QueueState.return_]
    split <;> exact ⟨triggers, by simp⟩
  · next unpeeked => exact turn_stops heap inv unpeeked near triggers _

/-- Every step keeps the triggers near, and stops clean. -/
theorem stops_step [DecidableEq Handler] {heap : DelayHeap Handler (Stamped Data)}
    {state next : QueueState Handler Data} {label : QueueLabel Handler Data}
    {emitted : List (QueueOutput Handler Data)} {base : UInt32} (inv : QueueInv state)
    (triggers : TriggersNear base state.queue) (near : label.Near base)
    (transition : (queueMachine heap).step state label = some (next, emitted)) :
    TriggersNear base next.queue ∧
      ∀ msCurrent, .stopped msCurrent ∈ emitted → StoppedClean next msCurrent := by
  cases label with
  | post message =>
      cases transition
      refine ⟨?_, by simp⟩
      simp only [HeapQueue.post]
      split <;> exact triggers
  | postDelayed now cmsDelay message =>
      cases transition
      refine ⟨?_, by simp⟩
      simp only [HeapQueue.postDelayed, HeapQueue.doDelayPost]
      split
      · exact triggers
      · intro delayed member
        rcases List.mem_cons.mp ((heap.perm_pushHeap _ inv.formed.isHeap).subset member) with
          rfl | stands
        · exact near.2
        · exact triggers delayed stands
  | clear phandler id =>
      cases transition
      refine ⟨?_, by simp⟩
      intro delayed member
      have stood := (heap.perm_makeHeap _).subset member
      exact triggers delayed (List.mem_filter.mp stood).1
  | quit =>
      cases transition
      exact ⟨triggers, by simp⟩
  | get cmsWait now =>
      simp only [queueMachine, QueueState.step] at transition
      split at transition
      · cases transition
      · have after := get_stops heap inv near triggers false cmsWait
        rw [Option.some.inj transition] at after
        exact after
  | peek cmsWait now =>
      simp only [queueMachine, QueueState.step] at transition
      split at transition
      · cases transition
      · have after := get_stops heap inv near triggers true cmsWait
        rw [Option.some.inj transition] at after
        exact after
  | wake waited now =>
      simp only [queueMachine, QueueState.step] at transition
      split at transition
      · cases transition
      · next call waiting =>
          have unpeeked := inv.unpeeked (by simp [waiting])
          split at transition
          · cases transition
            exact ⟨triggers, by simp⟩
          · have after := turn_stops heap inv unpeeked near triggers call
            rw [Option.some.inj transition] at after
            exact after

/-- The queue has lost, duplicated and reordered nothing, and `Clear` would not. -/
structure QueueSound [DecidableEq Handler] (heap : DelayHeap Handler (Stamped Data))
    (state : QueueState Handler Data) : Prop where
  /-- The places of a message, one for each that was accepted. -/
  inOnePlace : (state.delivered ++ state.queue.msgPeek.toList ++ state.queue.msgq ++
    state.queue.container.map (·.msg) ++ state.removed).Perm state.accepted
  toldApart : state.accepted.Nodup
  clears : ∀ phandler id,
    (state.queue.clear heap phandler id).2.Perm
        (state.queue.contents.filter fun message => message.matches phandler id) ∧
      (state.queue.clear heap phandler id).1.deliveryOrder heap =
        (state.queue.deliveryOrder heap).filter fun message => !message.matches phandler id
  postedInOrder : (state.delivered.filter isPosted).Pairwise
    fun first second => serialOf first < serialOf second

/-- In every run of a queue no message is lost, duplicated or reordered; and while the clock and
the trigger times stay within `half` of each other, a `Get` that returns false because the queue
is stopped leaves nothing behind that is peeked, ready or due. -/
theorem queue_keeps_messages [DecidableEq Handler] (heap : DelayHeap Handler (Stamped Data))
    {labels : List (QueueLabel Handler Data)} {final : QueueState Handler Data}
    {outputs : List (QueueOutput Handler Data)}
    (run : (queueMachine heap).RunWhere Counted .new labels final outputs) :
    QueueSound heap final ∧
      ∀ base, (∀ label ∈ labels, label.Near base) → ∀ label next emitted msCurrent,
        label.Near base → (queueMachine heap).step final label = some (next, emitted) →
          .stopped msCurrent ∈ emitted → StoppedClean next msCurrent := by
  have inv : QueueInv final := by
    refine run.invariant (fun _ state _ => QueueInv state) QueueInv.new ?_
    intro labels state outputs label next emitted inv counted transition
    exact queueInv_step inv counted transition
  refine ⟨⟨?_, inv.nodup, ?_, ?_⟩, ?_⟩
  · simpa [HeapQueue.contents] using inv.conserved
  · intro phandler id
    exact ⟨(HeapQueue.contents_clear heap final.queue phandler id).1,
      HeapQueue.deliveryOrder_clear heap inv.formed phandler id⟩
  · refine inv.inOrder.sublist (List.Sublist.filter _ ?_)
    rw [List.append_assoc]
    exact List.sublist_append_left _ _
  · intro base nearAll label next emitted msCurrent near transition isStopped
    have both : QueueInv final ∧ ((∀ label ∈ labels, label.Near base) →
        TriggersNear base final.queue) := by
      refine run.invariant (fun labels state _ => QueueInv state ∧
        ((∀ label ∈ labels, label.Near base) → TriggersNear base state.queue)) ?_ ?_
      · exact ⟨QueueInv.new, fun _ => List.forall_mem_nil _⟩
      · intro labels state outputs label next emitted before counted transition
        refine ⟨queueInv_step before.1 counted transition, ?_⟩
        intro nearLabels
        rw [List.forall_mem_append] at nearLabels
        exact (stops_step before.1 (before.2 nearLabels.1) (nearLabels.2 label (by simp))
          transition).1
    exact (stops_step inv (both.2 nearAll) near transition).2 msCurrent isStopped

end

/-- A queue whose container is kept sorted. -/
def sortedHeap : DelayHeap Nat (Stamped Nat) := Heap.sorting DelayedMessage.less_strictWeak

/-- A message is posted and got, another one is due in 200 ms when the queue is stopped. -/
def stoppedLabels : List (QueueLabel Nat Nat) :=
  [.post ⟨some 1, 5, none⟩, .postDelayed 1000 200 ⟨some 1, 6, none⟩, .get kForever 1100, .quit]

/-- A `Get` that is called next stops. -/
def stopsNext (result : QueueState Nat Nat × List (QueueOutput Nat Nat)) : Bool :=
  ((queueMachine sortedHeap).step result.1 (.get kForever 1150)).any fun after =>
    after.2 = [.stopped 1150]

/-- A queue is stopped before its delayed message is due, and the next `Get` returns false. -/
theorem queue_keeps_messages_stopped :
    ∃ final outputs,
      (queueMachine sortedHeap).RunWhere Counted .new stoppedLabels final outputs ∧
        QueueSound sortedHeap final ∧ ∃ next,
          (queueMachine sortedHeap).step final (.get kForever 1150) = some (next, [.stopped 1150]) ∧
            StoppedClean next 1150 := by
  have evaluated : ∃ final outputs,
      (queueMachine sortedHeap).RunWhere Counted .new stoppedLabels final outputs ∧
        stopsNext (final, outputs) = true :=
    Machine.exists_runWhere_of_exec (fun _ _ => of_decide_eq_true) (by decide) (by decide)
  obtain ⟨final, outputs, run, stops⟩ := evaluated
  obtain ⟨⟨next, emitted⟩, transition, isStopped⟩ := (Option.any_eq_true _ _).mp stops
  obtain rfl : emitted = [.stopped 1150] := by simpa using isStopped
  obtain ⟨sound, clean⟩ := queue_keeps_messages sortedHeap run
  have near : ∀ label ∈ stoppedLabels, label.Near 1000 := by
    simp only [stoppedLabels, List.forall_mem_cons]
    exact ⟨trivial, ⟨⟨by decide, by decide⟩, by decide, by decide⟩, ⟨by decide, by decide⟩, trivial,
      List.forall_mem_nil _⟩
  exact ⟨final, outputs, run, sound, next, transition,
    clean 1000 near (.get kForever 1150) next [.stopped 1150] 1150 ⟨by decide, by decide⟩ transition
      (by simp)⟩

/-! A clock that does not wrap is not enough: a message that is overdue by more than `half` is
taken for one that is not due yet. -/

/-- The reading of the clock in a call. -/
def QueueLabel.clock {Handler Data : Type} : QueueLabel Handler Data → Option UInt32
  | .postDelayed now _ _ => some now
  | .get _ now => some now
  | .peek _ now => some now
  | .wake _ now => some now
  | _ => none

/-- The trigger time of a delayed message is the sum of the clock reading and the delay. -/
def QueueLabel.triggerFits {Handler Data : Type} : QueueLabel Handler Data → Bool
  | .postDelayed now cmsDelay _ => ((timeAfter now cmsDelay).toNat : Int) = now.toNat + cmsDelay
  | _ => true

/-- A message is due at 10, the queue is stopped, and the next `Get` comes 25 days later. -/
def overdueLabels : List (QueueLabel Nat Nat) :=
  [.postDelayed 0 10 ⟨some 1, 6, none⟩, .quit, .get kForever 0x80000014]

/-- A `Get` of the run stopped although a message was due. -/
def leavesOverdue (result : QueueState Nat Nat × List (QueueOutput Nat Nat)) : Bool :=
  decide (.stopped 0x80000014 ∈ result.2 ∧
    ∃ delayed ∈ result.1.queue.container, delayed.msTrigger ≤ 0x80000014)

/-- The clock only goes up, and a message that is due for more than `half` is left at a stop. -/
theorem overdue_left_at_stop :
    (overdueLabels.filterMap QueueLabel.clock).Pairwise (· ≤ ·) ∧
      overdueLabels.all QueueLabel.triggerFits = true ∧
      ∃ final outputs,
        (queueMachine sortedHeap).RunWhere Counted .new overdueLabels final outputs ∧
          .stopped 0x80000014 ∈ outputs ∧
          ∃ delayed ∈ final.queue.container, delayed.msTrigger ≤ 0x80000014 := by
  have evaluated : ∃ final outputs,
      (queueMachine sortedHeap).RunWhere Counted .new overdueLabels final outputs ∧
        leavesOverdue (final, outputs) = true :=
    Machine.exists_runWhere_of_exec (fun _ _ => of_decide_eq_true) (by decide) (by decide)
  obtain ⟨final, outputs, run, left⟩ := evaluated
  exact ⟨by decide, by decide, final, outputs, run, of_decide_eq_true left⟩

end VzSdk.Event
