import VzSdk.Base.Time
import VzSdk.Std.PriorityQueue

/-!
# Message queues

`MessageQueue` with its ready list and its heap of delayed messages. The heap
orders trigger times as plain unsigned numbers, while the test whether one is
due goes round the wrap of the clock. `getPass_firesInOrder_iff` says for which
queues the two orders together still fire messages in time order.
-/

namespace VzSdk.Event

open VzSdk.Base VzSdk.Std

/-- `kForever`. -/
def kForever : Int := -1

/-- `MQID_ANY`. -/
def mqidAny : UInt32 := 0xFFFFFFFF

/-- `MQID_DISPOSE`. -/
def mqidDispose : UInt32 := 0xFFFFFFFE

/-- `Message`, over the handlers and payloads of the program. -/
structure Message (Handler Data : Type) where
  phandler : Option Handler
  messageId : UInt32
  pdata : Option Data
deriving DecidableEq, Repr

/-- `Message()`: all fields zero. -/
def Message.zero {Handler Data : Type} : Message Handler Data := ⟨none, 0, none⟩

/-- `Message::Match`. -/
def Message.matches {Handler Data : Type} [DecidableEq Handler] (message : Message Handler Data)
    (handler : Option Handler) (id : UInt32) : Bool :=
  (handler == none || handler == message.phandler) && (id == mqidAny || id == message.messageId)

/-- `DelayedMessage`. -/
structure DelayedMessage (Handler Data : Type) where
  cmsDelay : Int
  msTrigger : UInt32
  num : UInt32
  msg : Message Handler Data
deriving DecidableEq, Repr

/-- `DelayedMessage::operator<`. -/
def DelayedMessage.less {Handler Data : Type} (left right : DelayedMessage Handler Data) : Bool :=
  decide (right.msTrigger < left.msTrigger) ||
    (decide (right.msTrigger = left.msTrigger) && decide (right.num < left.num))

/-- `MessageQueue`; `dmsgq` lists the delayed messages in posting order, and the
heap is what `PriorityQueue.pop` takes from it. -/
structure MessageQueue (Handler Data : Type) where
  fStop : Bool
  /-- `msgPeek_` while `fPeekKeep_` is set. -/
  msgPeek : Option (Message Handler Data)
  msgq : List (Message Handler Data)
  dmsgq : List (DelayedMessage Handler Data)
  dmsgqNextNum : UInt32
deriving DecidableEq, Repr

/-- One pass of `Get` under the lock. -/
structure GetPass (Handler Data : Type) where
  /-- The delayed messages this pass put on the ready list, in order. -/
  ready : List (DelayedMessage Handler Data)
  queue : MessageQueue Handler Data
  /-- `*pmsg` after the pass, and whether `Get` returns it. -/
  pmsg : Message Handler Data
  found : Bool
  cmsDelayNext : Int

namespace MessageQueue

variable {Handler Data : Type}

/-- A queue that was just constructed. -/
def new : MessageQueue Handler Data := ⟨false, none, [], [], 0⟩

/-- `Quit`. -/
def quit (queue : MessageQueue Handler Data) : MessageQueue Handler Data :=
  { queue with fStop := true }

/-- `Post`; a stopped queue takes nothing. -/
def post (queue : MessageQueue Handler Data) (message : Message Handler Data) :
    MessageQueue Handler Data :=
  if queue.fStop then queue else { queue with msgq := queue.msgq ++ [message] }

/-- `DoDelayPost`. -/
def doDelayPost (queue : MessageQueue Handler Data) (cmsDelay : Int) (tstamp : UInt32)
    (message : Message Handler Data) : MessageQueue Handler Data :=
  if queue.fStop then queue
  else
    { queue with
      dmsgq := queue.dmsgq ++ [⟨cmsDelay, tstamp, queue.dmsgqNextNum, message⟩]
      dmsgqNextNum := queue.dmsgqNextNum + 1 }

/-- `PostDelayed`. -/
def postDelayed (queue : MessageQueue Handler Data) (now : UInt32) (cmsDelay : Int)
    (message : Message Handler Data) : MessageQueue Handler Data :=
  queue.doDelayPost cmsDelay (timeAfter now cmsDelay) message

/-- `PostAt`. -/
def postAt (queue : MessageQueue Handler Data) (now tstamp : UInt32)
    (message : Message Handler Data) : MessageQueue Handler Data :=
  queue.doDelayPost (timeUntil now tstamp) tstamp message

/-- Remove the messages for a handler and id, and list them. -/
def clear [DecidableEq Handler] (queue : MessageQueue Handler Data) (phandler : Option Handler)
    (id : UInt32) : MessageQueue Handler Data × List (Message Handler Data) :=
  let hit := fun message : Message Handler Data => message.matches phandler id
  ({ queue with
      msgPeek := queue.msgPeek.filter fun message => !hit message
      msgq := queue.msgq.filter fun message => !hit message
      dmsgq := queue.dmsgq.filter fun delayed => !hit delayed.msg },
    (queue.msgPeek.filter hit).toList ++ queue.msgq.filter hit ++
      (queue.dmsgq.filter fun delayed => hit delayed.msg).map (·.msg))

/-- Take the next message that is not a dispose message; `*pmsg` keeps its old
value when there is none, unless a dispose message zeroed it. -/
def pull (pmsg : Message Handler Data) :
    List (Message Handler Data) → Message Handler Data × List (Message Handler Data) × Bool
  | [] => (pmsg, [], false)
  | message :: msgq =>
      if message.messageId = mqidDispose then pull .zero msgq else (message, msgq, true)

/-- Move the due messages to the ready list and pull from it, at clock reading
`msCurrent`. A peeked message is returned without looking at the queue. -/
def getPass (queue : MessageQueue Handler Data) (msCurrent : UInt32) (pmsg : Message Handler Data) :
    GetPass Handler Data :=
  match queue.msgPeek with
  | some peeked => ⟨[], { queue with msgPeek := none }, peeked, true, kForever⟩
  | none =>
      let later := fun delayed : DelayedMessage Handler Data => timeIsLater msCurrent delayed.msTrigger
      let (ready, left) := PriorityQueue.drain DelayedMessage.less later queue.dmsgq
      let cmsDelayNext :=
        match PriorityQueue.pop DelayedMessage.less left with
        | some (top, _) => timeDiff top.msTrigger msCurrent
        | none => kForever
      let (pmsg, msgq, found) := pull pmsg (queue.msgq ++ ready.map (·.msg))
      ⟨ready, { queue with msgq := msgq, dmsgq := left }, pmsg, found, cmsDelayNext⟩

end MessageQueue

/-! ## What a queue holds -/

variable {Handler Data : Type}

/-- The message a pass returns, if it returns one. -/
def GetPass.taken (pass : GetPass Handler Data) : List (Message Handler Data) :=
  if pass.found then [pass.pmsg] else []

namespace MessageQueue

/-- All messages of a queue, peeked, ready and delayed. -/
def contents (queue : MessageQueue Handler Data) : List (Message Handler Data) :=
  queue.msgPeek.toList ++ queue.msgq ++ queue.dmsgq.map (·.msg)

/-- Posting adds the message, unless the queue is stopped. -/
theorem contents_post (queue : MessageQueue Handler Data) (message : Message Handler Data) :
    (queue.post message).contents.Perm
      ((if queue.fStop then [] else [message]) ++ queue.contents) := by
  unfold post
  split
  · exact .refl _
  · simp only [contents, Bool.not_eq_true] at *
    rw [← List.append_assoc, List.append_assoc _ [message]]
    exact List.perm_middle

/-- Posting with a delay adds the message, unless the queue is stopped. -/
theorem contents_doDelayPost (queue : MessageQueue Handler Data) (cmsDelay : Int)
    (tstamp : UInt32) (message : Message Handler Data) :
    (queue.doDelayPost cmsDelay tstamp message).contents.Perm
      ((if queue.fStop then [] else [message]) ++ queue.contents) := by
  unfold doDelayPost
  split
  · exact .refl _
  · simp [contents, ← List.append_assoc]

/-- A pull loses dispose messages only. -/
theorem filter_pull {kind : Message Handler Data → Bool}
    (lasting : ∀ message, kind message = true → message.messageId ≠ mqidDispose)
    (pmsg : Message Handler Data) (msgq : List (Message Handler Data)) :
    ((if (pull pmsg msgq).2.2 then [(pull pmsg msgq).1] else []) ++ (pull pmsg msgq).2.1).filter
      kind = msgq.filter kind := by
  induction msgq generalizing pmsg with
  | nil => rfl
  | cons message msgq inductionHypothesis =>
      unfold pull
      split
      · next dispose =>
          rw [inductionHypothesis, List.filter_cons_of_neg]
          intro isKind
          exact lasting message isKind dispose
      · rfl

/-- Nothing but the message comes in. -/
theorem mem_contents_post {queue : MessageQueue Handler Data} {posted message : Message Handler Data}
    (member : message ∈ (queue.post posted).contents) : message = posted ∨ message ∈ queue.contents := by
  have member := (contents_post queue posted).subset member
  split at member
  · exact .inr member
  · exact List.mem_cons.mp member

/-- Nothing but the message comes in. -/
theorem mem_contents_postDelayed {queue : MessageQueue Handler Data} {now : UInt32} {cmsDelay : Int}
    {posted message : Message Handler Data}
    (member : message ∈ (queue.postDelayed now cmsDelay posted).contents) :
    message = posted ∨ message ∈ queue.contents := by
  have member := (contents_doDelayPost queue cmsDelay (timeAfter now cmsDelay) posted).subset member
  split at member
  · exact .inr member
  · exact List.mem_cons.mp member

/-- Posting takes nothing out. -/
theorem mem_post_of_mem {queue : MessageQueue Handler Data} {posted message : Message Handler Data}
    (member : message ∈ queue.contents) : message ∈ (queue.post posted).contents :=
  (contents_post queue posted).symm.subset (List.mem_append_right _ member)

/-- A message posted to a running queue is in it, and so is all that was. -/
theorem mem_postDelayed {queue : MessageQueue Handler Data} {now : UInt32} {cmsDelay : Int}
    {posted message : Message Handler Data}
    (member : message ∈ queue.contents ∨ (message = posted ∧ queue.fStop = false)) :
    message ∈ (queue.postDelayed now cmsDelay posted).contents := by
  refine (contents_doDelayPost queue cmsDelay (timeAfter now cmsDelay) posted).symm.subset ?_
  rcases member with old | ⟨rfl, running⟩
  · exact List.mem_append_right _ old
  · simp [running]

/-- A delayed message is put in no other place. -/
theorem postDelayed_eq (queue : MessageQueue Handler Data) (now : UInt32) (cmsDelay : Int)
    (posted : Message Handler Data) :
    (queue.postDelayed now cmsDelay posted).msgPeek = queue.msgPeek ∧
      (queue.postDelayed now cmsDelay posted).msgq = queue.msgq ∧
      ∀ delayed ∈ (queue.postDelayed now cmsDelay posted).dmsgq,
        delayed ∈ queue.dmsgq ∨ delayed.msg = posted := by
  unfold postDelayed doDelayPost
  split
  · exact ⟨rfl, rfl, fun _ member => .inl member⟩
  · refine ⟨rfl, rfl, fun delayed member => ?_⟩
    rcases List.mem_append.mp member with old | new
    · exact .inl old
    · exact .inr (by rw [List.mem_singleton.mp new])

/-- What does not match stays. -/
theorem mem_clear_of_mem [DecidableEq Handler] {queue : MessageQueue Handler Data}
    {phandler : Option Handler} {id : UInt32} {message : Message Handler Data}
    (member : message ∈ queue.contents) (other : message.matches phandler id = false) :
    message ∈ (queue.clear phandler id).1.contents := by
  simp only [contents, clear, List.mem_append, Option.mem_toList, Option.filter_eq_some_iff,
    List.mem_filter, List.mem_map] at member ⊢
  rcases member with (peeked | ready) | ⟨delayed, member, rfl⟩
  · exact .inl (.inl ⟨peeked, by simp [other]⟩)
  · exact .inl (.inr ⟨ready, by simp [other]⟩)
  · exact .inr ⟨delayed, ⟨member, by simp [other]⟩, rfl⟩

/-- Posting does not stop the queue. -/
@[simp] theorem fStop_post (queue : MessageQueue Handler Data) (message : Message Handler Data) :
    (queue.post message).fStop = queue.fStop := by
  unfold post
  split <;> rfl

/-- Posting does not stop the queue. -/
@[simp] theorem fStop_postDelayed (queue : MessageQueue Handler Data) (now : UInt32)
    (cmsDelay : Int) (message : Message Handler Data) :
    (queue.postDelayed now cmsDelay message).fStop = queue.fStop := by
  unfold postDelayed doDelayPost
  split <;> rfl

/-- A pass does not stop the queue. -/
@[simp] theorem fStop_getPass (queue : MessageQueue Handler Data) (now : UInt32)
    (pmsg : Message Handler Data) : (queue.getPass now pmsg).queue.fStop = queue.fStop := by
  unfold getPass
  split <;> rfl

/-- Clearing brings nothing in. -/
theorem mem_contents_clear [DecidableEq Handler] {queue : MessageQueue Handler Data}
    {phandler : Option Handler} {id : UInt32} {message : Message Handler Data}
    (member : message ∈ (queue.clear phandler id).1.contents) : message ∈ queue.contents := by
  simp only [contents, clear, List.mem_append, Option.mem_toList, Option.filter_eq_some_iff,
    List.mem_filter, List.mem_map] at member ⊢
  rcases member with (⟨peeked, _⟩ | ⟨ready, _⟩) | ⟨delayed, ⟨member, _⟩, rfl⟩
  · exact .inl (.inl peeked)
  · exact .inl (.inr ready)
  · exact .inr ⟨delayed, member, rfl⟩

/-- A pull takes its message, and leaves what it leaves, from the ready list. -/
theorem pull_subset (pmsg : Message Handler Data) (msgq : List (Message Handler Data)) :
    (∀ message ∈ (pull pmsg msgq).2.1, message ∈ msgq) ∧
      ((pull pmsg msgq).2.2 = true → (pull pmsg msgq).1 ∈ msgq) := by
  induction msgq generalizing pmsg with
  | nil => simp [pull]
  | cons message msgq inductionHypothesis =>
      unfold pull
      split
      · obtain ⟨left, taken⟩ := inductionHypothesis .zero
        exact ⟨fun other member => List.mem_cons_of_mem _ (left other member),
          fun found => List.mem_cons_of_mem _ (taken found)⟩
      · exact ⟨fun other member => List.mem_cons_of_mem _ member, fun _ => List.mem_cons_self⟩

/-- Without a new message, `*pmsg` keeps its value or is zeroed. -/
theorem pull_unfound {pmsg : Message Handler Data} {msgq : List (Message Handler Data)}
    (unfound : (pull pmsg msgq).2.2 = false) :
    (pull pmsg msgq).1 = pmsg ∨ (pull pmsg msgq).1 = .zero := by
  induction msgq generalizing pmsg with
  | nil => exact .inl rfl
  | cons message msgq inductionHypothesis =>
      unfold pull at unfound ⊢
      split at unfound
      · next dispose =>
          rw [if_pos dispose]
          exact .inr ((inductionHypothesis unfound).elim id id)
      · cases unfound

/-- A dispose message is never returned. -/
theorem pull_lasting {pmsg : Message Handler Data} {msgq : List (Message Handler Data)}
    (found : (pull pmsg msgq).2.2 = true) : (pull pmsg msgq).1.messageId ≠ mqidDispose := by
  induction msgq generalizing pmsg with
  | nil => cases found
  | cons message msgq inductionHypothesis =>
      unfold pull at found ⊢
      split at found
      · next dispose =>
          rw [if_pos dispose]
          exact inductionHypothesis found
      · next lasting =>
          rw [if_neg lasting]
          exact lasting

/-- A pull takes the first message of any kind that a dispose message is not of. -/
theorem filterMap_pull {Kind : Type} {kind : Message Handler Data → Option Kind}
    (lasting : ∀ message, message.messageId = mqidDispose → kind message = none)
    (pmsg : Message Handler Data) (msgq : List (Message Handler Data)) :
    msgq.filterMap kind =
      (if (pull pmsg msgq).2.2 then (kind (pull pmsg msgq).1).toList else []) ++
        (pull pmsg msgq).2.1.filterMap kind := by
  induction msgq generalizing pmsg with
  | nil => rfl
  | cons message msgq inductionHypothesis =>
      unfold pull
      split
      · next dispose =>
          rw [List.filterMap_cons_none (lasting message dispose)]
          exact inductionHypothesis .zero
      · cases isKind : kind message <;> simp [isKind]

end MessageQueue

/-! ## The order of the heap -/

/-- When a message does not come after another. -/
theorem DelayedMessage.less_eq_false {left right : DelayedMessage Handler Data} :
    left.less right = false ↔ left.msTrigger < right.msTrigger ∨
      (left.msTrigger = right.msTrigger ∧ left.num ≤ right.num) := by
  simp only [less, Bool.or_eq_false_iff, decide_eq_false_iff_not, Bool.and_eq_false_imp,
    decide_eq_true_eq, UInt32.lt_iff_toNat_lt, UInt32.le_iff_toNat_le, ← UInt32.toNat_inj]
  omega

/-- The messages are in a strict weak order. -/
theorem DelayedMessage.less_strictWeak :
    PriorityQueue.StrictWeak (@DelayedMessage.less Handler Data) where
  asymm := by
    intro a b smaller
    simp only [less, Bool.or_eq_true, decide_eq_true_eq, Bool.and_eq_true] at smaller
    rw [less_eq_false]
    simp only [UInt32.lt_iff_toNat_lt, UInt32.le_iff_toNat_le, ← UInt32.toNat_inj] at smaller ⊢
    omega
  trans_false := by
    intro a b c first second
    rw [less_eq_false] at first second ⊢
    simp only [UInt32.lt_iff_toNat_lt, UInt32.le_iff_toNat_le, ← UInt32.toNat_inj] at first second ⊢
    omega

/-! ## Firing in time order -/

namespace MessageQueue

/-- The delayed message is due at `now`. -/
def due (now : UInt32) (delayed : DelayedMessage Handler Data) : Bool :=
  !timeIsLater now delayed.msTrigger

/-- All trigger times and the clock lie less than `half` behind one reading. -/
def InOneWindow (queue : MessageQueue Handler Data) (now : UInt32) : Prop :=
  ∃ base, InWindow base now ∧ ∀ delayed ∈ queue.dmsgq, InWindow base delayed.msTrigger

/-- What a pass at `now` should do: make every due message ready and no other,
in the order of `TimeIsLater`, equal triggers in posting order. -/
structure FiresInOrder (queue : MessageQueue Handler Data) (now : UInt32)
    (pass : GetPass Handler Data) : Prop where
  prompt : pass.queue.dmsgq = queue.dmsgq.filter fun delayed => !due now delayed
  inOrder : pass.ready.Pairwise fun first second =>
    timeIsLater second.msTrigger first.msTrigger = false
  fifo : ∀ msTrigger, pass.ready.filter (fun delayed => delayed.msTrigger == msTrigger) =
    queue.dmsgq.filter fun delayed => delayed.msTrigger == msTrigger && due now delayed

/-- The heap's order of a due message and the messages behind it is the order in time:
no message due later has a trigger that is smaller as an unsigned number, and
equal triggers have numbers in posting order. A peeked message hides the queue,
so nothing may be due behind one. -/
structure HeapAgrees (queue : MessageQueue Handler Data) (now : UInt32) : Prop where
  unpeeked : queue.msgPeek = none ∨ ∀ delayed ∈ queue.dmsgq, due now delayed = false
  triggers : ∀ first ∈ queue.dmsgq, ∀ second ∈ queue.dmsgq, due now first = true →
    timeIsLater first.msTrigger second.msTrigger = true → first.msTrigger < second.msTrigger
  numbers : queue.dmsgq.Pairwise fun first second =>
    due now first = true → first.msTrigger = second.msTrigger → first.num ≤ second.num

section Pass

variable {queue : MessageQueue Handler Data} {now : UInt32} {pmsg : Message Handler Data}

/-- Without a peeked message a pass drains the heap up to the first message not due. -/
theorem getPass_drains (now : UInt32) (pmsg : Message Handler Data)
    (unpeeked : queue.msgPeek = none) :
    PriorityQueue.Drains DelayedMessage.less (fun delayed => !due now delayed) queue.dmsgq
      (queue.getPass now pmsg).ready (queue.getPass now pmsg).queue.dmsgq := by
  have drains := PriorityQueue.drain_drains DelayedMessage.less_strictWeak
    (fun delayed => timeIsLater now delayed.msTrigger) queue.dmsgq
  simpa [getPass, unpeeked, due] using drains

/-- A peeked message is taken and leaves the rest alone. -/
theorem getPass_peeked (now : UInt32) (pmsg : Message Handler Data)
    {peeked : Message Handler Data} (kept : queue.msgPeek = some peeked) :
    (queue.getPass now pmsg).ready = [] ∧ (queue.getPass now pmsg).queue.dmsgq = queue.dmsgq := by
  simp [getPass, kept]

/-- A pass takes at most one message and loses dispose messages only. -/
theorem getPass_conserves {kind : Message Handler Data → Bool}
    (lasting : ∀ message, kind message = true → message.messageId ≠ mqidDispose)
    (queue : MessageQueue Handler Data) (now : UInt32) (pmsg : Message Handler Data) :
    (((queue.getPass now pmsg).taken ++ (queue.getPass now pmsg).queue.contents).filter kind).Perm
      (queue.contents.filter kind) := by
  cases kept : queue.msgPeek with
  | some peeked => simp [getPass, kept, GetPass.taken, contents]
  | none =>
      have drained := (PriorityQueue.drain_drains DelayedMessage.less_strictWeak
        (fun delayed => timeIsLater now delayed.msTrigger) queue.dmsgq).perm
          DelayedMessage.less_strictWeak
      have pulled := filter_pull lasting pmsg (queue.msgq ++ (PriorityQueue.drain
        DelayedMessage.less (fun delayed => timeIsLater now delayed.msTrigger) queue.dmsgq).1.map
          (·.msg))
      have moved := ((drained.map (·.msg)).filter kind).append_left (queue.msgq.filter kind)
      simp only [getPass, kept, GetPass.taken, contents, Option.toList_none, List.nil_append,
        List.filter_append, List.map_append] at pulled moved ⊢
      rw [← List.append_assoc, pulled, List.append_assoc]
      exact moved

/-- The ready list after a pass comes from the delayed messages that were due. -/
theorem getPass_unpeeked (queue : MessageQueue Handler Data) (now : UInt32)
    (pmsg : Message Handler Data) (unpeeked : queue.msgPeek = none) :
    ∃ ready left, (ready ++ left).Perm queue.dmsgq ∧
      (queue.getPass now pmsg).queue =
        { queue with msgq := (pull pmsg (queue.msgq ++ ready.map (·.msg))).2.1, dmsgq := left } ∧
      (queue.getPass now pmsg).pmsg = (pull pmsg (queue.msgq ++ ready.map (·.msg))).1 ∧
      (queue.getPass now pmsg).found = (pull pmsg (queue.msgq ++ ready.map (·.msg))).2.2 := by
  have drained := (PriorityQueue.drain_drains DelayedMessage.less_strictWeak
    (fun delayed => timeIsLater now delayed.msTrigger) queue.dmsgq).perm
      DelayedMessage.less_strictWeak
  refine ⟨_, _, drained, ?_, ?_, ?_⟩ <;> simp [getPass, unpeeked]

/-- Messages of a kind that is never delayed, peeked or a dispose message are taken in their order. -/
theorem filterMap_getPass {Kind : Type} {kind : Message Handler Data → Option Kind}
    (lasting : ∀ message, message.messageId = mqidDispose → kind message = none)
    (queue : MessageQueue Handler Data) (now : UInt32) (pmsg : Message Handler Data)
    (unpeeked : queue.msgPeek = none) (undelayed : ∀ delayed ∈ queue.dmsgq, kind delayed.msg = none) :
    queue.msgq.filterMap kind =
        (if (queue.getPass now pmsg).found then (kind (queue.getPass now pmsg).pmsg).toList
          else []) ++ (queue.getPass now pmsg).queue.msgq.filterMap kind ∧
      (queue.getPass now pmsg).queue.msgPeek = none ∧
      ∀ delayed ∈ (queue.getPass now pmsg).queue.dmsgq, kind delayed.msg = none := by
  obtain ⟨ready, left, perm, after, taken, found⟩ := getPass_unpeeked queue now pmsg unpeeked
  have noneReady : (ready.map (·.msg)).filterMap kind = [] := by
    rw [List.filterMap_map, List.filterMap_eq_nil_iff]
    exact fun delayed member => undelayed delayed (perm.subset (List.mem_append_left _ member))
  refine ⟨?_, ?_, ?_⟩
  · rw [after, taken, found, ← filterMap_pull lasting, List.filterMap_append, noneReady,
      List.append_nil]
  · rw [after]
    exact unpeeked
  · rw [after]
    exact fun delayed member => undelayed delayed (perm.subset (List.mem_append_right _ member))

/-- A pass leaves and takes only what the queue holds. -/
theorem getPass_subset (queue : MessageQueue Handler Data) (now : UInt32)
    (pmsg : Message Handler Data) :
    (∀ message ∈ (queue.getPass now pmsg).queue.contents, message ∈ queue.contents) ∧
      ((queue.getPass now pmsg).found = true →
        (queue.getPass now pmsg).pmsg ∈ queue.contents) := by
  cases kept : queue.msgPeek with
  | some peeked => simp +contextual [getPass, kept, contents]
  | none =>
      obtain ⟨ready, left, perm, left', taken, found⟩ := getPass_unpeeked queue now pmsg kept
      obtain ⟨leaves, takes⟩ := pull_subset pmsg (queue.msgq ++ ready.map (·.msg))
      have inQueue : ∀ message, message ∈ queue.msgq ++ ready.map (·.msg) →
          message ∈ queue.contents := by
        intro message member
        rcases List.mem_append.mp member with waiting | due
        · exact List.mem_append_left _ (List.mem_append_right _ waiting)
        · obtain ⟨delayed, isReady, rfl⟩ := List.mem_map.mp due
          exact List.mem_append_right _
            (List.mem_map_of_mem (perm.subset (List.mem_append_left _ isReady)))
      constructor
      · intro message member
        rw [left'] at member
        rcases List.mem_append.mp member with member | member
        · rcases List.mem_append.mp member with peeked | ready
          · rw [kept] at peeked
            cases peeked
          · exact inQueue message (leaves message ready)
        · obtain ⟨delayed, stays, rfl⟩ := List.mem_map.mp member
          exact List.mem_append_right _
            (List.mem_map_of_mem (perm.subset (List.mem_append_right _ stays)))
      · intro isFound
        rw [taken]
        exact inQueue _ (takes (found ▸ isFound))

/-- A pass keeps or returns every message but the dispose messages. -/
theorem getPass_keeps {queue : MessageQueue Handler Data} {message : Message Handler Data}
    (now : UInt32) (pmsg : Message Handler Data) (member : message ∈ queue.contents)
    (lasting : message.messageId ≠ mqidDispose) :
    ((queue.getPass now pmsg).found = true ∧ (queue.getPass now pmsg).pmsg = message) ∨
      message ∈ (queue.getPass now pmsg).queue.contents := by
  have lastingKind : ∀ message : Message Handler Data,
      (message.messageId != mqidDispose) = true → message.messageId ≠ mqidDispose := by simp
  have conserved := getPass_conserves lastingKind queue now pmsg
  have kept := conserved.symm.subset (List.mem_filter.mpr ⟨member, by simpa using lasting⟩)
  rcases List.mem_append.mp (List.mem_filter.mp kept).1 with taken | stays
  · unfold GetPass.taken at taken
    split at taken
    · next found => exact .inl ⟨found, (List.mem_singleton.mp taken).symm⟩
    · cases taken
  · exact .inr stays

/-- `*pmsg` after a pass: a message of the queue, its old value, or zero. -/
theorem getPass_pmsg (queue : MessageQueue Handler Data) (now : UInt32)
    (pmsg : Message Handler Data) :
    (queue.getPass now pmsg).pmsg ∈ queue.contents ∨ (queue.getPass now pmsg).pmsg = pmsg ∨
      (queue.getPass now pmsg).pmsg = .zero := by
  cases found : (queue.getPass now pmsg).found with
  | true => exact .inl ((getPass_subset queue now pmsg).2 found)
  | false =>
      cases kept : queue.msgPeek with
      | some peeked => simp [getPass, kept] at found
      | none =>
          obtain ⟨ready, left, _, _, taken, isFound⟩ := getPass_unpeeked queue now pmsg kept
          rw [taken]
          exact .inr (pull_unfound (isFound ▸ found))

/-- In a window, a message not yet due is later than every due one. -/
theorem timeIsLater_of_due {first second : DelayedMessage Handler Data}
    (window : queue.InOneWindow now) (memberFirst : first ∈ queue.dmsgq)
    (memberSecond : second ∈ queue.dmsgq) (isDue : due now first = true)
    (notDue : due now second = false) :
    timeIsLater first.msTrigger second.msTrigger = true := by
  obtain ⟨base, windowNow, windows⟩ := window
  simp only [due, Bool.not_eq_true', Bool.not_eq_false'] at isDue notDue
  have early : ¬(now - base).toNat < (first.msTrigger - base).toNat := by
    rw [← timeIsLater_iff_lt windowNow (windows first memberFirst), isDue]
    simp
  have late := (timeIsLater_iff_lt windowNow (windows second memberSecond)).mp notDue
  rw [timeIsLater_iff_lt (windows first memberFirst) (windows second memberSecond)]
  omega

/-- Where the heap agrees with time, no due message stays behind. -/
theorem left_not_due (window : queue.InOneWindow now) (agrees : queue.HeapAgrees now)
    {moved left : List (DelayedMessage Handler Data)}
    (drains : PriorityQueue.Drains DelayedMessage.less (fun delayed => !due now delayed)
      queue.dmsgq moved left) : ∀ delayed ∈ left, due now delayed = false := by
  have members := (drains.left_sublist DelayedMessage.less_strictWeak).subset
  rcases drains.left_top DelayedMessage.less_strictWeak with nothing | ⟨top, atTop, halts, greatest⟩
  · simp [nothing]
  · intro delayed member
    have notDue : due now top = false := by simpa using halts
    cases isDue : due now delayed with
    | false => rfl
    | true =>
        have later := timeIsLater_of_due window (members member) (members atTop) isDue notDue
        have smaller := agrees.triggers delayed (members member) top (members atTop) isDue later
        have notGreater := DelayedMessage.less_eq_false.mp (greatest delayed member)
        simp only [UInt32.lt_iff_toNat_lt, ← UInt32.toNat_inj] at smaller notGreater
        omega

/-- In one window the heap's order is that of time. -/
theorem firesInOrder_of_heapAgrees (window : queue.InOneWindow now)
    (agrees : queue.HeapAgrees now) (unpeeked : queue.msgPeek = none) :
    queue.FiresInOrder now (queue.getPass now pmsg) := by
  have drains := getPass_drains now pmsg unpeeked
  generalize queue.getPass now pmsg = pass at drains ⊢
  have members := drains.perm DelayedMessage.less_strictWeak
  have notDue := left_not_due window agrees drains
  have wasDue : ∀ delayed ∈ pass.ready, due now delayed = true := fun delayed member => by
    simpa using drains.moved_passes delayed member
  have inQueue : ∀ delayed ∈ pass.ready, delayed ∈ queue.dmsgq := fun delayed member =>
    members.subset (List.mem_append_left _ member)
  refine ⟨?_, ?_, ?_⟩
  · exact drains.left_eq_filter DelayedMessage.less_strictWeak fun delayed member => by
      simp [notDue delayed member]
  · have descending := (drains.sorted DelayedMessage.less_strictWeak).1
    refine descending.imp_of_mem fun {first second} memberFirst memberSecond notLess => ?_
    cases later : timeIsLater second.msTrigger first.msTrigger with
    | false => rfl
    | true =>
        have smaller := agrees.triggers second (inQueue second memberSecond) first
          (inQueue first memberFirst) (wasDue second memberSecond) later
        have notGreater := DelayedMessage.less_eq_false.mp notLess
        simp only [UInt32.lt_iff_toNat_lt, ← UInt32.toNat_inj] at smaller notGreater
        omega
  · intro msTrigger
    have ofKind : (queue.dmsgq.filter fun delayed =>
        delayed.msTrigger == msTrigger && due now delayed).Pairwise
          fun first second => first.less second = false := by
      refine List.pairwise_filter.mpr (agrees.numbers.imp ?_)
      intro first second numbered firstKind secondKind
      simp only [Bool.and_eq_true, beq_iff_eq] at firstKind secondKind
      have same := firstKind.1.trans secondKind.1.symm
      exact DelayedMessage.less_eq_false.mpr (.inr ⟨same, numbered firstKind.2 same⟩)
    have stable := drains.stable DelayedMessage.less_strictWeak _ ofKind
    have nothingLeft : pass.queue.dmsgq.filter
        (fun delayed => delayed.msTrigger == msTrigger && due now delayed) = [] :=
      List.filter_eq_nil_iff.mpr fun delayed member => by simp [notDue delayed member]
    rw [nothingLeft, List.append_nil] at stable
    rw [← stable]
    exact List.filter_congr fun delayed member => by simp [wasDue delayed member]

/-- Messages that fire in the order of time are so in the heap. -/
theorem heapAgrees_of_firesInOrder (unpeeked : queue.msgPeek = none)
    (fires : queue.FiresInOrder now (queue.getPass now pmsg)) : queue.HeapAgrees now := by
  have drains := getPass_drains now pmsg unpeeked
  generalize queue.getPass now pmsg = pass at drains fires
  have members := drains.perm DelayedMessage.less_strictWeak
  obtain ⟨descending, above⟩ := drains.sorted DelayedMessage.less_strictWeak
  have moved : ∀ delayed ∈ queue.dmsgq, due now delayed = true → delayed ∈ pass.ready := by
    intro delayed member isDue
    rcases List.mem_append.mp (members.mem_iff.mpr member) with ready | stays
    · exact ready
    · rw [fires.prompt] at stays
      simp [isDue] at stays
  refine ⟨.inl unpeeked, ?_, ?_⟩
  · intro first memberFirst second memberSecond isDue later
    have ready := moved first memberFirst isDue
    apply Classical.byContradiction
    intro notSmaller
    have greater : first.less second = true := by
      have differ := ne_of_timeIsLater later
      simp only [DelayedMessage.less, Bool.or_eq_true, decide_eq_true_eq]
      simp only [UInt32.lt_iff_toNat_lt, ← UInt32.toNat_inj, ne_eq] at notSmaller differ ⊢
      omega
    -- The heap gives the second message out before the first, or keeps both.
    rcases List.mem_append.mp (members.mem_iff.mpr memberSecond) with readySecond | stays
    · have never : ∀ ⦃x⦄, x ∈ pass.ready → ∀ ⦃y⦄, y ∈ pass.ready →
          ¬(x.less y = true ∧ timeIsLater x.msTrigger y.msTrigger = true) := by
        apply List.Pairwise.forall_of_forall_of_flip
        · intro x _ both
          exact ne_of_timeIsLater both.2 rfl
        · exact descending.imp fun notLess both => by simp [notLess] at both
        · exact fires.inOrder.imp fun notLater both => by simp [notLater] at both
      exact never ready readySecond ⟨greater, later⟩
    · rw [above first ready second stays] at greater
      cases greater
  · refine List.pairwise_iff_forall_sublist.mpr fun {first second} sublist isDue same => ?_
    have isDueSecond : due now second = true := by
      simpa only [due, same] using isDue
    have both := sublist.filter fun delayed =>
      delayed.msTrigger == second.msTrigger && due now delayed
    rw [← fires.fifo, List.filter_cons_of_pos (by simp [same, isDue]),
      List.filter_cons_of_pos (by simp [isDueSecond]), List.filter_nil] at both
    have popped := (descending.sublist List.filter_sublist).forall_sublist both
    rcases DelayedMessage.less_eq_false.mp popped with smaller | ⟨_, numbered⟩
    · rw [same] at smaller
      exact absurd smaller (UInt32.lt_irrefl _)
    · exact numbered

/-- A pass behind a peeked message fires in order exactly when nothing is due. -/
theorem firesInOrder_of_peeked {peeked : Message Handler Data}
    (kept : queue.msgPeek = some peeked) :
    queue.FiresInOrder now (queue.getPass now pmsg) ↔
      ∀ delayed ∈ queue.dmsgq, due now delayed = false := by
  obtain ⟨nothing, same⟩ := getPass_peeked now pmsg kept
  constructor
  · intro fires delayed member
    rw [← same, fires.prompt] at member
    simpa using (List.mem_filter.mp member).2
  · intro notDue
    refine ⟨?_, by simp [nothing], ?_⟩
    · rw [same]
      exact (List.filter_eq_self.mpr fun delayed member => by simp [notDue delayed member]).symm
    · intro msTrigger
      rw [nothing]
      exact (List.filter_eq_nil_iff.mpr fun delayed member => by simp [notDue delayed member]).symm

end Pass

/-- Delayed messages fire in time order across the wrap of the clock exactly when
the heap's plain order of the triggers agrees with time. -/
theorem getPass_firesInOrder_iff (queue : MessageQueue Handler Data) (now : UInt32)
    (pmsg : Message Handler Data) (window : queue.InOneWindow now) :
    queue.FiresInOrder now (queue.getPass now pmsg) ↔ queue.HeapAgrees now := by
  cases kept : queue.msgPeek with
  | none =>
      exact ⟨heapAgrees_of_firesInOrder kept,
        fun agrees => firesInOrder_of_heapAgrees window agrees kept⟩
  | some peeked =>
      rw [firesInOrder_of_peeked kept]
      constructor
      · intro notDue
        refine ⟨.inr notDue, ?_, ?_⟩
        · intro first memberFirst second memberSecond isDue
          rw [notDue first memberFirst] at isDue
          cases isDue
        · refine List.pairwise_of_forall_mem_list fun first memberFirst second _ isDue => ?_
          rw [notDue first memberFirst] at isDue
          cases isDue
      · intro agrees
        rcases agrees.unpeeked with none | notDue
        · rw [kept] at none
          cases none
        · exact notDue

/-- Two timers of 200 and 300 ms, set at one moment. -/
def twoTimers (now : UInt32) : MessageQueue Nat Nat :=
  (new.postDelayed now 200 ⟨some 1, 0, none⟩).postDelayed now 300 ⟨some 2, 0, none⟩

/-- Far from the wrap both timers fire, the first one first. -/
theorem getPass_firesInOrder_unwrapped :
    (twoTimers 1000).InOneWindow 1400 ∧
      (twoTimers 1000).FiresInOrder 1400 ((twoTimers 1000).getPass 1400 .zero) := by
  have window : (twoTimers 1000).InOneWindow 1400 :=
    ⟨1000, by unfold InWindow half; decide, by unfold InWindow half; decide⟩
  refine ⟨window, (getPass_firesInOrder_iff (twoTimers 1000) 1400 .zero window).mpr ⟨.inl rfl, ?_, ?_⟩⟩
  · decide
  · decide

/-- Set 256 ms before the wrap, the timer that is due at 5 ms past it waits
behind the one that is due at 44 ms past it. -/
theorem getPass_blocked_across_wrap :
    (twoTimers 0xFFFFFF00).InOneWindow 5 ∧
      (∃ delayed ∈ (twoTimers 0xFFFFFF00).dmsgq, due 5 delayed = true) ∧
      ((twoTimers 0xFFFFFF00).getPass 5 .zero).ready = [] ∧
      ¬(twoTimers 0xFFFFFF00).FiresInOrder 5 ((twoTimers 0xFFFFFF00).getPass 5 .zero) := by
  refine ⟨⟨0xFFFFFF00, by unfold InWindow half; decide, by unfold InWindow half; decide⟩,
    by decide, by decide, fun fires => ?_⟩
  have stays := fires.prompt
  revert stays
  decide

end MessageQueue

end VzSdk.Event
