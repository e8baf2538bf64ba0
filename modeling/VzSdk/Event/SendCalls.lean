import Mathlib.Data.List.Nodup
import VzSdk.Event.Sends

/-!
# The calls of `Send`

Each call is in one place at a time: on a list, in a handler, or answered. What
happens to it is therefore always a part of one of two histories, whatever the
threads do in between.
-/

namespace VzSdk.Event

open VzSdk.Std

/-! ## What becomes of a call -/

namespace Frame

variable {Handler Data : Type}

/-- The message whose handler runs. -/
def handled? : Frame Handler Data → Option (SendMessage Handler Data)
  | .onMessage message => some message
  | _ => none

/-- The call that waits. -/
def sending? : Frame Handler Data → Option Nat
  | .send call _ _ => some call
  | _ => none

/-- The calls that a frame of `Clear` has still to answer. -/
def clearing : Frame Handler Data → List (SendMessage Handler Data)
  | .clear rest => rest
  | _ => []

end Frame

/-- The call that an event belongs to. -/
def ThreadEvent.call? {Handler Data : Type} : ThreadEvent Handler Data → Option Nat
  | .direct .. | .got .. => none
  | .sent call .. | .handled call .. | .answered call | .cleared call | .returned call => some call

/-- The events of one call. -/
def ofCall {Handler Data : Type} (call : Nat) (events : List (ThreadEvent Handler Data)) :
    List (ThreadEvent Handler Data) :=
  events.filter fun event => event.call? == some call

/-- What happens to a call of `Send`, in the order it happens. -/
def SendCall.history {Handler Data : Type} (sent : SendCall Handler Data) (call : Nat) :
    List (ThreadEvent Handler Data) :=
  .sent call sent.sender sent.target sent.msg ::
    ((match sent.progress with
      | .listed => []
      | .handling => [.handled call sent.target sent.msg]
      | .answered => [.handled call sent.target sent.msg, .answered call]
      | .cleared => [.cleared call]) ++ if sent.returned then [.returned call] else [])

namespace Threads

variable {Handler Data : Type}

section

variable (state : Threads Handler Data) (thread : Nat)

/-- The calls whose messages the thread handles. -/
def handled : List (SendMessage Handler Data) := (state.stack thread).filterMap Frame.handled?

/-- The calls the thread waits for. -/
def sending : List Nat := (state.stack thread).filterMap Frame.sending?

/-- The calls the thread has taken off its list and not answered yet. -/
def clearing : List (SendMessage Handler Data) := (state.stack thread).flatMap Frame.clearing

/-- The call needs no answer any more. -/
def settled (progress : Progress) : Prop := progress = .answered ∨ progress = .cleared

/-- Every call is where its progress says it is, and nowhere twice. -/
structure Tracked : Prop where
  fresh : ∀ call, state.next ≤ call → state.call call = none
  listed : ∀ target message, message ∈ state.sendlist target ↔
    state.call message.call = some ⟨message.thread, target, message.msg, .listed, false⟩
  listedOnce : ∀ target, ((state.sendlist target).map (·.call)).Nodup
  handling : ∀ target message, message ∈ state.handled target ↔
    state.call message.call = some ⟨message.thread, target, message.msg, .handling, false⟩
  handlingOnce : ∀ target, ((state.handled target).map (·.call)).Nodup
  sending : ∀ sender, ∀ call ∈ state.sending sender, ∃ target message progress,
    state.call call = some ⟨sender, target, message, progress, false⟩
  sendingOnce : ∀ sender, (state.sending sender).Nodup
  ready : ∀ call, state.ready call = true → ∃ sent, state.call call = some sent ∧
    settled sent.progress
  clearing : ∀ thread, ∀ message ∈ state.clearing thread, ∃ sent,
    state.call message.call = some sent ∧ sent.progress = .cleared ∧ sent.sender = message.thread
  /-- A call that is answered is ready, or will be. -/
  answers : ∀ call sent, state.call call = some sent → settled sent.progress →
    state.ready call = true ∨ ∃ thread, ∃ message ∈ state.clearing thread,
      message.call = call ∧ message.thread = sent.sender
  returned : ∀ call sent, state.call call = some sent → sent.returned = true →
    settled sent.progress

end

/-- No call was made yet. -/
theorem tracked_new : Tracked (new : Threads Handler Data) where
  fresh _ _ := rfl
  listed target message := by simp [new]
  listedOnce _ := List.nodup_nil
  handling target message := by simp [handled, new]
  handlingOnce _ := List.nodup_nil
  sending _ := List.forall_mem_nil _
  sendingOnce _ := List.nodup_nil
  ready _ isReady := by cases isReady
  clearing _ := List.forall_mem_nil _
  answers _ _ isCall := by cases isCall
  returned _ _ isCall := by cases isCall

section

variable {state next : Threads Handler Data} {thread : Nat} {below : List (Frame Handler Data)}

/-- Nothing changes for the calls. -/
theorem Tracked.congr (tracked : state.Tracked) (sendlist : next.sendlist = state.sendlist)
    (call : next.call = state.call) (count : next.next = state.next)
    (ready : next.ready = state.ready) (handled : ∀ thread, next.handled thread = state.handled thread)
    (sending : ∀ thread, next.sending thread = state.sending thread)
    (clearing : ∀ thread, next.clearing thread = state.clearing thread) : next.Tracked where
  fresh := by rw [call, count]; exact tracked.fresh
  listed := by rw [call, sendlist]; exact tracked.listed
  listedOnce := by rw [sendlist]; exact tracked.listedOnce
  handling := by simpa only [call, handled] using tracked.handling
  handlingOnce := by simpa only [handled] using tracked.handlingOnce
  sending := by simpa only [call, sending] using tracked.sending
  sendingOnce := by simpa only [sending] using tracked.sendingOnce
  ready := by rw [call, ready]; exact tracked.ready
  clearing := by simpa only [call, clearing] using tracked.clearing
  answers := by simpa only [call, ready, clearing] using tracked.answers
  returned := by rw [call]; exact tracked.returned

/-- What a thread is in, where its stack is replaced. -/
theorem view_update {View : Type} (view : List (Frame Handler Data) → View)
    {old new : List (Frame Handler Data)} (stack : state.stack thread = old)
    (replaced : next.stack = Function.update state.stack thread new) (same : view new = view old)
    (other : Nat) : view (next.stack other) = view (state.stack other) := by
  rw [replaced, Function.update_apply]
  split
  · next isThread => rw [isThread, stack, same]
  · rfl

/-- A step on frames that are in no call. -/
theorem Tracked.restack (tracked : state.Tracked) (old new : List (Frame Handler Data))
    (stack : state.stack thread = old ++ below)
    (replaced : next.stack = Function.update state.stack thread (new ++ below))
    (handled : new.filterMap Frame.handled? = old.filterMap Frame.handled?)
    (sending : new.filterMap Frame.sending? = old.filterMap Frame.sending?)
    (clearing : new.flatMap Frame.clearing = old.flatMap Frame.clearing)
    (sendlist : next.sendlist = state.sendlist) (call : next.call = state.call)
    (count : next.next = state.next) (ready : next.ready = state.ready) : next.Tracked := by
  refine tracked.congr sendlist call count ready ?_ ?_ ?_
  · exact view_update _ stack replaced (by rw [List.filterMap_append, List.filterMap_append, handled])
  · exact view_update _ stack replaced (by rw [List.filterMap_append, List.filterMap_append, sending])
  · exact view_update _ stack replaced (by rw [List.flatMap_append, List.flatMap_append, clearing])

/-- Moves within a thread keep track of all calls. -/
theorem Tracked.move {nested : Prop} (tracked : state.Tracked) {old new : List (Frame Handler Data)}
    {events : List (ThreadEvent Handler Data)} (stack : state.stack thread = old ++ below)
    (move : Move state nested thread old new events) : (state.setStack thread (new ++ below)).Tracked := by
  refine tracked.restack old new stack rfl ?_ ?_ ?_ rfl rfl rfl rfl <;> cases move <;> rfl

/-- Calls are numbered below the next number. -/
theorem Tracked.lt_next (tracked : state.Tracked) {call : Nat} {sent : SendCall Handler Data}
    (isCall : state.call call = some sent) : call < state.next := by
  refine Nat.lt_of_not_le fun fresh => ?_
  rw [tracked.fresh call fresh] at isCall
  cases isCall

/-- A message is on one list, and in no handler while it is there. -/
theorem Tracked.eq_of_call (tracked : state.Tracked) {target other : Nat}
    {message second : SendMessage Handler Data} (member : message ∈ state.sendlist target)
    (also : second ∈ state.sendlist other) (same : second.call = message.call) :
    other = target ∧ second = message := by
  have first := (tracked.listed target message).mp member
  have again := (tracked.listed other second).mp also
  rw [same, first] at again
  obtain ⟨thread, msg, call⟩ := message
  obtain ⟨thread', msg', call'⟩ := second
  cases same
  cases again
  exact ⟨rfl, rfl⟩

/-- One call, old or new, is as `sent` says, and so are the lists; everything else is as it was. -/
structure Changes (state next : Threads Handler Data) (number : Nat)
    (sent : SendCall Handler Data) : Prop where
  call : ∀ other, next.call other = if other = number then some sent else state.call other
  count : state.next ≤ next.next ∧ number < next.next
  listed : ∀ target message, message ∈ next.sendlist target ↔
    if message.call = number then sent = ⟨message.thread, target, message.msg, .listed, false⟩
    else message ∈ state.sendlist target
  listedOnce : ∀ target, ((next.sendlist target).map (·.call)).Nodup
  handling : ∀ target message, message ∈ next.handled target ↔
    if message.call = number then sent = ⟨message.thread, target, message.msg, .handling, false⟩
    else message ∈ state.handled target
  handlingOnce : ∀ target, ((next.handled target).map (·.call)).Nodup
  sending : ∀ sender, ∀ other ∈ next.sending sender,
    if other = number then sent.sender = sender ∧ sent.returned = false
    else other ∈ state.sending sender
  sendingOnce : ∀ sender, (next.sending sender).Nodup
  ready : ∀ other, next.ready other = true ↔
    if other = number then settled sent.progress else state.ready other = true
  clearing : ∀ thread, next.clearing thread = state.clearing thread
  cleared : ∀ thread, ∀ message ∈ state.clearing thread, message.call = number →
    sent.progress = .cleared ∧ sent.sender = message.thread
  returned : sent.returned = true → settled sent.progress

/-- A change of one call keeps track of the others. -/
theorem Tracked.changed (tracked : state.Tracked) {number : Nat} {sent : SendCall Handler Data}
    (changes : Changes state next number sent) : next.Tracked where
  fresh other fresh := by
    rw [changes.call, if_neg (Nat.ne_of_gt (Nat.lt_of_lt_of_le changes.count.2 fresh))]
    exact tracked.fresh other (Nat.le_trans changes.count.1 fresh)
  listed target message := by
    rw [changes.listed, changes.call]
    split
    · exact (Option.some_inj).symm
    · exact tracked.listed target message
  listedOnce := changes.listedOnce
  handling target message := by
    rw [changes.handling, changes.call]
    split
    · exact (Option.some_inj).symm
    · exact tracked.handling target message
  handlingOnce := changes.handlingOnce
  sending sender other member := by
    have inside := changes.sending sender other member
    rw [changes.call]
    split at inside
    · next isNumber =>
        rw [if_pos isNumber, ← inside.1, ← inside.2]
        exact ⟨_, _, _, rfl⟩
    · next isOther =>
        rw [if_neg isOther]
        exact tracked.sending sender other inside
  sendingOnce := changes.sendingOnce
  ready other isReady := by
    have was := (changes.ready other).mp isReady
    rw [changes.call]
    split at was
    · next isNumber => exact ⟨sent, if_pos isNumber, was⟩
    · next isOther =>
        rw [if_neg isOther]
        exact tracked.ready other was
  clearing thread message member := by
    rw [changes.clearing] at member
    rw [changes.call]
    by_cases isNumber : message.call = number
    · exact ⟨sent, if_pos isNumber, changes.cleared thread message member isNumber⟩
    · rw [if_neg isNumber]
      exact tracked.clearing thread message member
  answers other was isCall isSettled := by
    rw [changes.call] at isCall
    rw [changes.ready]
    split at isCall
    · next isNumber =>
        cases isCall
        exact .inl (by rwa [if_pos isNumber])
    · next isOther =>
        obtain isReady | ⟨thread, message, member, answer⟩ :=
          tracked.answers other was isCall isSettled
        · exact .inl (by rwa [if_neg isOther])
        · exact .inr ⟨thread, message, by rwa [changes.clearing], answer⟩
  returned other was isCall := by
    rw [changes.call] at isCall
    split at isCall
    · cases isCall
      exact changes.returned
    · exact tracked.returned other was isCall

/-- A listed call is not settled. -/
theorem not_settled_listed : ¬settled .listed := by
  rintro (isAnswered | isCleared)
  · cases isAnswered
  · cases isCleared

/-- A call that is handled is not settled. -/
theorem not_settled_handling : ¬settled .handling := by
  rintro (isAnswered | isCleared)
  · cases isAnswered
  · cases isCleared

/-- A call that `Clear` took is cleared. -/
theorem Tracked.not_cleared (tracked : state.Tracked) {number : Nat} {sent : SendCall Handler Data}
    (isCall : state.call number = some sent) (notCleared : sent.progress ≠ .cleared) (other : Nat) :
    ∀ message ∈ state.clearing other, message.call ≠ number := by
  intro message member same
  obtain ⟨was, wasCall, isCleared, _⟩ := tracked.clearing other message member
  rw [same, isCall] at wasCall
  cases wasCall
  exact notCleared isCleared

/-- A call that is not answered is not ready. -/
theorem Tracked.not_ready (tracked : state.Tracked) {number : Nat} {sent : SendCall Handler Data}
    (isCall : state.call number = some sent) (unsettled : ¬settled sent.progress) :
    ¬state.ready number = true := by
  intro isReady
  obtain ⟨was, wasCall, isSettled⟩ := tracked.ready number isReady
  rw [isCall] at wasCall
  cases wasCall
  exact unsettled isSettled

/-- A new call is listed at its target and waited for by its sender. -/
theorem Tracked.send (tracked : state.Tracked) {target : Nat} {message : Message Handler Data}
    (stack : state.stack thread = .lockSend target message :: below) :
    (state.send thread target message below).Tracked := by
  have none : state.call state.next = none := tracked.fresh _ (Nat.le_refl _)
  have lists (other : Nat) : (state.send thread target message below).sendlist other =
      if other = target then state.sendlist target ++ [⟨thread, message, state.next⟩]
      else state.sendlist other := Function.update_apply ..
  have replaced : (state.send thread target message below).stack = Function.update state.stack
      thread (.wakeUp target :: .send state.next false .test :: below) := rfl
  have handled (other : Nat) : (state.send thread target message below).handled other =
      state.handled other :=
    view_update (List.filterMap Frame.handled?) stack replaced rfl other
  have sending (other : Nat) : (state.send thread target message below).sending other =
      if other = thread then state.next :: state.sending thread else state.sending other := by
    rw [Threads.sending, replaced, Function.update_apply]
    split
    · rw [Threads.sending, stack]
      rfl
    · rfl
  have old {call : Nat} {sent : SendCall Handler Data} (isCall : state.call call = some sent) :
      call ≠ state.next := Nat.ne_of_lt (tracked.lt_next isCall)
  have notListed (other : Nat) {second : SendMessage Handler Data}
      (member : second ∈ state.sendlist other) : second.call ≠ state.next :=
    old ((tracked.listed other second).mp member)
  have notSending (other : Nat) : state.next ∉ state.sending other := fun member => by
    obtain ⟨_, _, _, isCall⟩ := tracked.sending other _ member
    exact old isCall rfl
  suffices changes : Changes state (state.send thread target message below) state.next
      ⟨thread, target, message, .listed, false⟩ from tracked.changed changes
  refine
    { call := fun other => Function.update_apply .., count := ⟨Nat.le_succ _, Nat.lt_succ_self _⟩,
      listed := ?_, listedOnce := ?_, handling := ?_, handlingOnce := ?_, sending := ?_,
      sendingOnce := ?_, ready := ?_, clearing := ?_, cleared := ?_, returned := ?_ }
  · intro other second
    rw [lists]
    by_cases isNew : second.call = state.next
    · rw [if_pos isNew]
      have notOld (list : Nat) : second ∉ state.sendlist list := fun member =>
        notListed list member isNew
      obtain ⟨thread', msg', call'⟩ := second
      cases isNew
      by_cases same : other = target
      · rw [if_pos same, List.mem_append, List.mem_singleton, same]
        simp [notOld, eq_comm]
      · rw [if_neg same]
        simp [notOld, Ne.symm same]
    · rw [if_neg isNew]
      split
      · next same =>
          rw [List.mem_append, List.mem_singleton, same]
          refine or_iff_left fun isLast => isNew ?_
          rw [isLast]
      · rfl
  · intro other
    rw [lists]
    split
    · rw [List.map_append, List.nodup_append]
      refine ⟨tracked.listedOnce target, List.nodup_singleton _, ?_⟩
      intro call member second isNew same
      obtain ⟨message, inside, rfl⟩ := List.mem_map.mp member
      rw [List.map_singleton, List.mem_singleton] at isNew
      exact notListed target inside (same.trans isNew)
    · exact tracked.listedOnce other
  · intro other second
    rw [handled]
    split
    · next isNew =>
        refine iff_of_false (fun member => ?_) fun same => by cases same
        exact old ((tracked.handling other second).mp member) isNew
    · rfl
  · intro other
    rw [handled]
    exact tracked.handlingOnce other
  · intro sender call member
    rw [sending] at member
    split at member
    · next same =>
        split
        · exact ⟨same.symm, rfl⟩
        · next isOld =>
            rw [same]
            exact (List.mem_cons.mp member).resolve_left isOld
    · split
      · next isNew => exact absurd (isNew ▸ member) (notSending sender)
      · exact member
  · intro sender
    rw [sending]
    split
    · exact List.nodup_cons.mpr ⟨notSending thread, tracked.sendingOnce thread⟩
    · exact tracked.sendingOnce sender
  · intro other
    split
    · next isNew =>
        refine iff_of_false (fun isReady => ?_) not_settled_listed
        obtain ⟨_, isCall, _⟩ := tracked.ready other isReady
        exact old isCall isNew
    · rfl
  · exact view_update (List.flatMap Frame.clearing) stack replaced rfl
  · intro other second member isNew
    obtain ⟨_, isCall, _⟩ := tracked.clearing other second member
    exact absurd isNew (old isCall)
  · intro returned
    cases returned

/-- A message that is handled is handled in one thread, and is on no list. -/
theorem Tracked.eq_of_handled (tracked : state.Tracked) {target other : Nat}
    {message second : SendMessage Handler Data} (member : message ∈ state.handled target)
    (also : second ∈ state.handled other) (same : second.call = message.call) :
    other = target ∧ second = message := by
  have first := (tracked.handling target message).mp member
  have again := (tracked.handling other second).mp also
  rw [same, first] at again
  obtain ⟨thread, msg, call⟩ := message
  obtain ⟨thread', msg', call'⟩ := second
  cases same
  cases again
  exact ⟨rfl, rfl⟩

/-- A call that is taken from the list is handled. -/
theorem Tracked.received (tracked : state.Tracked) {message : SendMessage Handler Data}
    {rest : List (SendMessage Handler Data)} (stack : state.stack thread = .receiveSends :: below)
    (first : state.sendlist thread = message :: rest)
    (replaced : next.stack = Function.update state.stack thread
      (.onMessage message :: .receiveSends :: below))
    (list : next.sendlist = Function.update state.sendlist thread rest)
    (call : next.call = Function.update state.call message.call
      ((state.call message.call).map fun sent => { sent with progress := .handling }))
    (count : next.next = state.next) (ready : next.ready = state.ready) : next.Tracked := by
  have inside : message ∈ state.sendlist thread := by
    rw [first]
    exact List.mem_cons_self
  have isCall := (tracked.listed thread message).mp inside
  have lists (other : Nat) : next.sendlist other =
      if other = thread then rest else state.sendlist other := by
    rw [list, Function.update_apply]
  have handled (other : Nat) : next.handled other =
      if other = thread then message :: state.handled thread else state.handled other := by
    rw [Threads.handled, replaced, Function.update_apply]
    split
    · rw [Threads.handled, stack]
      rfl
    · rfl
  have sending (other : Nat) : next.sending other = state.sending other :=
    view_update (List.filterMap Frame.sending?) stack replaced rfl other
  have onceLeft := tracked.listedOnce thread
  rw [first, List.map_cons, List.nodup_cons] at onceLeft
  have notHandled (other : Nat) : message.call ∉ (state.handled other).map (·.call) := by
    intro member
    obtain ⟨second, also, same⟩ := List.mem_map.mp member
    have handling := (tracked.handling other second).mp also
    rw [same, isCall] at handling
    simp at handling
  suffices changes : Changes state next message.call
      ⟨message.thread, thread, message.msg, .handling, false⟩ from tracked.changed changes
  refine
    { call := ?_, count := ?_, listed := ?_, listedOnce := ?_, handling := ?_, handlingOnce := ?_,
      sending := ?_, sendingOnce := ?_, ready := ?_, clearing := ?_, cleared := ?_, returned := ?_ }
  · intro number
    rw [call, isCall, Function.update_apply]
    rfl
  · rw [count]
    exact ⟨Nat.le_refl _, tracked.lt_next isCall⟩
  · intro target second
    rw [lists]
    by_cases same : second.call = message.call
    · rw [if_pos same]
      refine iff_of_false (fun member => ?_) (fun isListed => by simp at isListed)
      split at member
      · exact onceLeft.1 (List.mem_map.mpr ⟨second, member, same⟩)
      · next other => exact other (tracked.eq_of_call inside member same).1
    · rw [if_neg same]
      split
      · next isThread =>
          rw [isThread, first, List.mem_cons]
          exact (or_iff_right fun isFirst => same (by rw [isFirst])).symm
      · rfl
  · intro target
    rw [lists]
    split
    · exact onceLeft.2
    · exact tracked.listedOnce target
  · intro target second
    rw [handled]
    by_cases same : second.call = message.call
    · rw [if_pos same]
      have notOld (other : Nat) : second ∉ state.handled other := fun member =>
        notHandled other (List.mem_map.mpr ⟨second, member, same⟩)
      obtain ⟨thread', msg', call'⟩ := second
      obtain ⟨sender, msg, number⟩ := message
      cases same
      by_cases isThread : target = thread
      · rw [if_pos isThread, List.mem_cons, isThread]
        simp [notOld, eq_comm]
      · rw [if_neg isThread]
        simp [notOld, Ne.symm isThread]
    · rw [if_neg same]
      split
      · next isThread =>
          rw [isThread, List.mem_cons]
          exact or_iff_right fun isFirst => same (by rw [isFirst])
      · rfl
  · intro target
    rw [handled]
    split
    · exact List.nodup_cons.mpr ⟨notHandled thread, tracked.handlingOnce thread⟩
    · exact tracked.handlingOnce target
  · intro sender number member
    rw [sending] at member
    split
    · next same =>
        obtain ⟨_, _, _, isSent⟩ := tracked.sending sender number member
        rw [same, isCall] at isSent
        cases isSent
        exact ⟨rfl, rfl⟩
    · exact member
  · intro sender
    rw [sending]
    exact tracked.sendingOnce sender
  · intro number
    rw [ready]
    split
    · next same =>
        rw [same]
        exact iff_of_false (tracked.not_ready isCall not_settled_listed) not_settled_handling
    · rfl
  · exact view_update (List.flatMap Frame.clearing) stack replaced rfl
  · intro other second member same
    exact absurd same (tracked.not_cleared isCall (fun isCleared => by cases isCleared) other second
      member)
  · intro returned
    cases returned

/-- A call whose handler returns is answered. -/
theorem Tracked.answered (tracked : state.Tracked) {message : SendMessage Handler Data}
    (stack : state.stack thread = .onMessage message :: below)
    (replaced : next.stack = Function.update state.stack thread
      (.wakeUp message.thread :: below))
    (list : next.sendlist = state.sendlist)
    (call : next.call = Function.update state.call message.call
      ((state.call message.call).map fun sent => { sent with progress := .answered }))
    (count : next.next = state.next)
    (ready : next.ready = Function.update state.ready message.call true) : next.Tracked := by
  have wasHandled : state.handled thread = message :: below.filterMap Frame.handled? := by
    rw [Threads.handled, stack]
    rfl
  have inside : message ∈ state.handled thread := by
    rw [wasHandled]
    exact List.mem_cons_self
  have isCall := (tracked.handling thread message).mp inside
  have handled (other : Nat) : next.handled other =
      if other = thread then below.filterMap Frame.handled? else state.handled other := by
    rw [Threads.handled, replaced, Function.update_apply]
    split
    · rfl
    · rfl
  have sending (other : Nat) : next.sending other = state.sending other :=
    view_update (List.filterMap Frame.sending?) stack replaced rfl other
  have onceLeft := tracked.handlingOnce thread
  rw [wasHandled, List.map_cons, List.nodup_cons] at onceLeft
  suffices changes : Changes state next message.call
      ⟨message.thread, thread, message.msg, .answered, false⟩ from tracked.changed changes
  refine
    { call := ?_, count := ?_, listed := ?_, listedOnce := ?_, handling := ?_, handlingOnce := ?_,
      sending := ?_, sendingOnce := ?_, ready := ?_, clearing := ?_, cleared := ?_, returned := ?_ }
  · intro number
    rw [call, isCall, Function.update_apply]
    rfl
  · rw [count]
    exact ⟨Nat.le_refl _, tracked.lt_next isCall⟩
  · intro target second
    rw [list]
    split
    · next same =>
        refine iff_of_false (fun member => ?_) (fun isListed => by simp at isListed)
        have listed := (tracked.listed target second).mp member
        rw [same, isCall] at listed
        simp at listed
    · rfl
  · rw [list]
    exact tracked.listedOnce
  · intro target second
    rw [handled]
    by_cases same : second.call = message.call
    · rw [if_pos same]
      refine iff_of_false (fun member => ?_) (fun isHandled => by simp at isHandled)
      split at member
      · exact onceLeft.1 (List.mem_map.mpr ⟨second, member, same⟩)
      · next other => exact other (tracked.eq_of_handled inside member same).1
    · rw [if_neg same]
      split
      · next isThread =>
          rw [isThread, wasHandled, List.mem_cons]
          exact (or_iff_right fun isFirst => same (by rw [isFirst])).symm
      · rfl
  · intro target
    rw [handled]
    split
    · exact onceLeft.2
    · exact tracked.handlingOnce target
  · intro sender number member
    rw [sending] at member
    split
    · next same =>
        obtain ⟨_, _, _, isSent⟩ := tracked.sending sender number member
        rw [same, isCall] at isSent
        cases isSent
        exact ⟨rfl, rfl⟩
    · exact member
  · intro sender
    rw [sending]
    exact tracked.sendingOnce sender
  · intro number
    rw [ready, Function.update_apply]
    split
    · exact iff_of_true rfl (.inl rfl)
    · rfl
  · exact view_update (List.flatMap Frame.clearing) stack replaced rfl
  · intro other second member same
    exact absurd same (tracked.not_cleared isCall (fun isCleared => by cases isCleared) other second
      member)
  · intro returned
    cases returned

/-- A call that is answered returns. -/
theorem Tracked.return_ (tracked : state.Tracked) {call : Nat} {waited : Bool}
    {new : List (Frame Handler Data)} (stack : state.stack thread = .send call waited .test :: below)
    (isReady : state.ready call = true)
    (replaced : next.stack = Function.update state.stack thread new)
    (views : new.filterMap Frame.handled? = below.filterMap Frame.handled? ∧
      new.filterMap Frame.sending? = below.filterMap Frame.sending? ∧
      new.flatMap Frame.clearing = below.flatMap Frame.clearing)
    (list : next.sendlist = state.sendlist)
    (calls : next.call = Function.update state.call call
      ((state.call call).map fun sent => { sent with returned := true }))
    (count : next.next = state.next) (ready : next.ready = state.ready) : next.Tracked := by
  obtain ⟨sameHandled, sameSending, sameClearing⟩ := views
  have wasSending : state.sending thread = call :: below.filterMap Frame.sending? := by
    rw [Threads.sending, stack]
    rfl
  have inside : call ∈ state.sending thread := by
    rw [wasSending]
    exact List.mem_cons_self
  obtain ⟨target, msg, progress, isCall⟩ := tracked.sending thread call inside
  have isSettled : settled progress := by
    obtain ⟨sent, isSent, isSettled⟩ := tracked.ready call isReady
    rw [isCall] at isSent
    cases isSent
    exact isSettled
  have handled (other : Nat) : next.handled other = state.handled other :=
    view_update (List.filterMap Frame.handled?) stack replaced sameHandled other
  have sending (other : Nat) : next.sending other =
      if other = thread then below.filterMap Frame.sending? else state.sending other := by
    rw [Threads.sending, replaced, Function.update_apply]
    split
    · exact sameSending
    · rfl
  have onceLeft := tracked.sendingOnce thread
  rw [wasSending, List.nodup_cons] at onceLeft
  suffices changes : Changes state next call ⟨thread, target, msg, progress, true⟩ from
    tracked.changed changes
  refine
    { call := ?_, count := ?_, listed := ?_, listedOnce := ?_, handling := ?_, handlingOnce := ?_,
      sending := ?_, sendingOnce := ?_, ready := ?_, clearing := ?_, cleared := ?_,
      returned := fun _ => isSettled }
  · intro number
    rw [calls, isCall, Function.update_apply]
    rfl
  · rw [count]
    exact ⟨Nat.le_refl _, tracked.lt_next isCall⟩
  · intro other second
    rw [list]
    split
    · next same =>
        refine iff_of_false (fun member => ?_) (fun isListed => by simp at isListed)
        have listed := (tracked.listed other second).mp member
        rw [same, isCall] at listed
        cases listed
        exact not_settled_listed isSettled
    · rfl
  · rw [list]
    exact tracked.listedOnce
  · intro other second
    rw [handled]
    split
    · next same =>
        refine iff_of_false (fun member => ?_) (fun isHandled => by simp at isHandled)
        have handling := (tracked.handling other second).mp member
        rw [same, isCall] at handling
        cases handling
        exact not_settled_handling isSettled
    · rfl
  · intro other
    rw [handled]
    exact tracked.handlingOnce other
  · intro sender number member
    rw [sending] at member
    split
    · next same =>
        rw [same] at member
        split at member
        · exact absurd member onceLeft.1
        · next other =>
            obtain ⟨_, _, _, isSent⟩ := tracked.sending sender call member
            rw [isCall] at isSent
            cases isSent
            exact absurd rfl other
    · split at member
      · next isThread =>
          rw [isThread, wasSending]
          exact List.mem_cons_of_mem _ member
      · exact member
  · intro sender
    rw [sending]
    split
    · exact onceLeft.2
    · exact tracked.sendingOnce sender
  · intro number
    rw [ready]
    split
    · next same =>
        rw [same]
        exact iff_of_true isReady isSettled
    · rfl
  · exact view_update (List.flatMap Frame.clearing) stack replaced sameClearing
  · intro other second member same
    obtain ⟨was, wasCall, isCleared, isSender⟩ := tracked.clearing other second member
    rw [same, isCall] at wasCall
    cases wasCall
    exact ⟨isCleared, isSender⟩

/-- A cleared call is answered. -/
theorem Tracked.answering (tracked : state.Tracked) {message : SendMessage Handler Data}
    {rest : List (SendMessage Handler Data)}
    (stack : state.stack thread = .clear (message :: rest) :: below)
    (replaced : next.stack = Function.update state.stack thread
      (.wakeUp message.thread :: .clear rest :: below))
    (list : next.sendlist = state.sendlist) (call : next.call = state.call)
    (count : next.next = state.next)
    (ready : next.ready = Function.update state.ready message.call true) : next.Tracked := by
  have wasClearing : state.clearing thread = message :: (rest ++ below.flatMap Frame.clearing) := by
    rw [Threads.clearing, stack]
    rfl
  have handled (other : Nat) : next.handled other = state.handled other :=
    view_update (List.filterMap Frame.handled?) stack replaced rfl other
  have sending (other : Nat) : next.sending other = state.sending other :=
    view_update (List.filterMap Frame.sending?) stack replaced rfl other
  have clearing (other : Nat) : next.clearing other =
      if other = thread then rest ++ below.flatMap Frame.clearing else state.clearing other := by
    rw [Threads.clearing, replaced, Function.update_apply]
    split
    · rfl
    · rfl
  have more (other : Nat) (second : SendMessage Handler Data) (member : second ∈ next.clearing other) :
      second ∈ state.clearing other := by
    rw [clearing] at member
    split at member
    · next isThread =>
        rw [isThread, wasClearing]
        exact List.mem_cons_of_mem _ member
    · exact member
  refine
    { fresh := ?_, listed := ?_, listedOnce := ?_, handling := ?_, handlingOnce := ?_, sending := ?_,
      sendingOnce := ?_, ready := ?_, clearing := ?_, answers := ?_, returned := ?_ }
  · rw [count, call]
    exact tracked.fresh
  · rw [list, call]
    exact tracked.listed
  · rw [list]
    exact tracked.listedOnce
  · simpa only [call, handled] using tracked.handling
  · simpa only [handled] using tracked.handlingOnce
  · simpa only [call, sending] using tracked.sending
  · simpa only [sending] using tracked.sendingOnce
  · intro number nowReady
    rw [ready, Function.update_apply] at nowReady
    rw [call]
    split at nowReady
    · next same =>
        obtain ⟨sent, isSent, isCleared, _⟩ := tracked.clearing thread message (by
          rw [wasClearing]
          exact List.mem_cons_self)
        exact ⟨sent, by rw [same, isSent], .inr isCleared⟩
    · exact tracked.ready number nowReady
  · intro other second member
    rw [call]
    exact tracked.clearing other second (more other second member)
  · intro number sent isSent settled
    rw [call] at isSent
    rw [ready, Function.update_apply]
    split
    · exact .inl rfl
    · next notFirst =>
        obtain wasReady | ⟨other, second, member, same, isSender⟩ :=
          tracked.answers number sent isSent settled
        · exact .inl wasReady
        · refine .inr ⟨other, second, ?_, same, isSender⟩
          rw [clearing]
          split
          · next isThread =>
              rw [isThread, wasClearing] at member
              refine (List.mem_cons.mp member).resolve_left fun isFirst => notFirst ?_
              rw [← same, isFirst]
          · exact member
  · rw [call]
    exact tracked.returned

section

variable [DecidableEq Handler] {target : Nat} {phandler : Option Handler} {id : UInt32}

/-- `Clear` takes a call from the list, or leaves it as it was. -/
theorem Tracked.call_clear (tracked : state.Tracked) (thread target : Nat)
    (phandler : Option Handler) (id : UInt32) (number : Nat) :
    (∃ message ∈ state.sendlist target, message.msg.matches phandler id = true ∧
        message.call = number ∧ (state.clear thread target phandler id).call number =
          some ⟨message.thread, target, message.msg, .cleared, false⟩) ∨
      (∀ message ∈ state.sendlist target, message.msg.matches phandler id = true →
          message.call ≠ number) ∧
        (state.clear thread target phandler id).call number = state.call number := by
  by_cases inside : ∃ message ∈ state.sendlist target, message.msg.matches phandler id = true ∧
      message.call = number
  · obtain ⟨message, member, hit, rfl⟩ := inside
    refine .inl ⟨message, member, hit, rfl, ?_⟩
    have isCall := (tracked.listed target message).mp member
    have removed : (((state.sendlist target).filter fun message =>
        message.msg.matches phandler id).any (·.call == message.call)) = true :=
      List.any_eq_true.mpr ⟨message, List.mem_filter.mpr ⟨member, hit⟩, beq_self_eq_true _⟩
    simp only [clear, removed, if_true, isCall]
    rfl
  · have kept : ∀ message ∈ state.sendlist target, message.msg.matches phandler id = true →
        message.call ≠ number := fun message member hit same =>
      inside ⟨message, member, hit, same⟩
    refine .inr ⟨kept, ?_⟩
    have notRemoved : (((state.sendlist target).filter fun message =>
        message.msg.matches phandler id).any (·.call == number)) = false := by
      refine List.any_eq_false.mpr fun message member => ?_
      obtain ⟨isListed, hit⟩ := List.mem_filter.mp member
      simpa using kept message isListed hit
    simp only [clear, notRemoved, Bool.false_eq_true, if_false]

/-- The calls that are cleared are answered one by one. -/
theorem Tracked.clear (tracked : state.Tracked) :
    (state.clear thread target phandler id).Tracked := by
  have calls := tracked.call_clear thread target phandler id
  have replaced : (state.clear thread target phandler id).stack = Function.update state.stack thread
      (.clear ((state.sendlist target).filter fun message => message.msg.matches phandler id) ::
        state.stack thread) := rfl
  have lists (other : Nat) : (state.clear thread target phandler id).sendlist other =
      if other = target then
        (state.sendlist target).filter fun message => !message.msg.matches phandler id
      else state.sendlist other := Function.update_apply ..
  have handled (other : Nat) : (state.clear thread target phandler id).handled other =
      state.handled other :=
    view_update (List.filterMap Frame.handled?) rfl replaced rfl other
  have sending (other : Nat) : (state.clear thread target phandler id).sending other =
      state.sending other :=
    view_update (List.filterMap Frame.sending?) rfl replaced rfl other
  have clearing (other : Nat) : (state.clear thread target phandler id).clearing other =
      if other = thread then
        ((state.sendlist target).filter fun message => message.msg.matches phandler id) ++
          state.clearing thread
      else state.clearing other := by
    rw [Threads.clearing, replaced, Function.update_apply]
    split
    · rfl
    · rfl
  have inList (other : Nat) (message : SendMessage Handler Data)
      (member : message ∈ (state.clear thread target phandler id).sendlist other) :
      message ∈ state.sendlist other ∧
        (other = target → message.msg.matches phandler id = false) := by
    rw [lists] at member
    split at member
    · next isTarget =>
        obtain ⟨isListed, missed⟩ := List.mem_filter.mp member
        rw [isTarget]
        exact ⟨isListed, fun _ => by simpa using missed⟩
    · next notTarget => exact ⟨member, fun isTarget => absurd isTarget notTarget⟩
  refine
    { fresh := ?_, listed := ?_, listedOnce := ?_, handling := ?_, handlingOnce := ?_, sending := ?_,
      sendingOnce := ?_, ready := ?_, clearing := ?_, answers := ?_, returned := ?_ }
  · intro number fresh
    obtain ⟨message, member, _, rfl, _⟩ | ⟨_, same⟩ := calls number
    · exact absurd (tracked.lt_next ((tracked.listed _ _).mp member)) (Nat.not_lt.mpr fresh)
    · rw [same]
      exact tracked.fresh number fresh
  · intro other second
    constructor
    · intro member
      obtain ⟨isListed, missed⟩ := inList other second member
      obtain ⟨message, inside, hit, same, _⟩ | ⟨_, same⟩ := calls second.call
      · obtain ⟨rfl, rfl⟩ := tracked.eq_of_call isListed inside same
        rw [missed rfl] at hit
        cases hit
      · rw [same]
        exact (tracked.listed other second).mp isListed
    · intro isCall
      obtain ⟨message, inside, hit, _, same⟩ | ⟨kept, same⟩ := calls second.call
      · rw [same] at isCall
        simp at isCall
      · rw [same] at isCall
        have isListed := (tracked.listed other second).mpr isCall
        rw [lists]
        split
        · next isTarget =>
            rw [isTarget] at isListed
            refine List.mem_filter.mpr ⟨isListed, ?_⟩
            cases hit : second.msg.matches phandler id with
            | false => rfl
            | true => exact absurd rfl (kept second isListed hit)
        · exact isListed
  · intro other
    rw [lists]
    split
    · exact (tracked.listedOnce target).sublist (List.filter_sublist.map _)
    · exact tracked.listedOnce other
  · intro other second
    rw [handled, tracked.handling]
    obtain ⟨message, inside, _, isNumber, same⟩ | ⟨_, same⟩ := calls second.call
    · rw [same, ← isNumber, (tracked.listed target message).mp inside]
      simp
    · rw [same]
  · simpa only [handled] using tracked.handlingOnce
  · intro sender number member
    rw [sending] at member
    obtain ⟨target', msg, progress, isSent⟩ := tracked.sending sender number member
    obtain ⟨message, inside, _, rfl, same⟩ | ⟨_, same⟩ := calls number
    · rw [(tracked.listed target message).mp inside] at isSent
      cases isSent
      exact ⟨_, _, _, same⟩
    · exact ⟨target', msg, progress, same.trans isSent⟩
  · simpa only [sending] using tracked.sendingOnce
  · intro number isReady
    obtain ⟨message, inside, _, _, same⟩ | ⟨_, same⟩ := calls number
    · exact ⟨_, same, .inr rfl⟩
    · rw [same]
      exact tracked.ready number isReady
  · intro other second member
    obtain ⟨message, inside, _, isNumber, same⟩ | ⟨kept, same⟩ := calls second.call
    · rw [clearing] at member
      refine ⟨_, same, rfl, ?_⟩
      split at member
      · rcases List.mem_append.mp member with isRemoved | wasClearing
        · rw [(tracked.eq_of_call inside (List.mem_filter.mp isRemoved).1 isNumber.symm).2]
        · obtain ⟨sent, isSent, isCleared, _⟩ := tracked.clearing thread second wasClearing
          rw [← isNumber, (tracked.listed target message).mp inside] at isSent
          cases isSent
          cases isCleared
      · obtain ⟨sent, isSent, isCleared, _⟩ := tracked.clearing other second member
        rw [← isNumber, (tracked.listed target message).mp inside] at isSent
        cases isSent
        cases isCleared
    · rw [clearing] at member
      rw [same]
      split at member
      · rcases List.mem_append.mp member with isRemoved | wasClearing
        · obtain ⟨isListed, hit⟩ := List.mem_filter.mp isRemoved
          exact absurd rfl (kept second isListed hit)
        · exact tracked.clearing thread second wasClearing
      · exact tracked.clearing other second member
  · intro number sent isSent settled
    obtain ⟨message, inside, hit, isNumber, same⟩ | ⟨_, same⟩ := calls number
    · rw [same] at isSent
      cases isSent
      refine .inr ⟨thread, message, ?_, isNumber, rfl⟩
      rw [clearing, if_pos rfl]
      exact List.mem_append_left _ (List.mem_filter.mpr ⟨inside, hit⟩)
    · rw [same] at isSent
      obtain isReady | ⟨other, second, member, answer⟩ := tracked.answers number sent isSent settled
      · exact .inl isReady
      · refine .inr ⟨other, second, ?_, answer⟩
        rw [clearing]
        split
        · next isThread =>
            rw [isThread] at member
            exact List.mem_append_right _ member
        · exact member
  · intro number sent isSent returned
    obtain ⟨message, _, _, _, same⟩ | ⟨_, same⟩ := calls number
    · rw [same] at isSent
      cases isSent
      cases returned
    · rw [same] at isSent
      exact tracked.returned number sent isSent returned

/-- Every transition keeps track of all calls. -/
theorem Tracked.transition {nested : Prop} {events : List (ThreadEvent Handler Data)}
    (tracked : state.Tracked) (transition : Transition state nested thread next events) :
    next.Tracked := by
  cases transition with
  | move stack move => exact tracked.move stack move
  | quit target queue user => exact tracked.restack [] [.wakeUp target] rfl rfl rfl rfl rfl rfl rfl rfl rfl
  | post target queue stack isLock =>
      obtain ⟨message, rfl⟩ | ⟨cmsDelay, tstamp, message, rfl⟩ := isLock
      · exact tracked.restack [_] [.wakeUp target] stack rfl rfl rfl rfl rfl rfl rfl rfl
      · exact tracked.restack [_] [.wakeUp target] stack rfl rfl rfl rfl rfl rfl rfl rfl
  | send stack => exact tracked.send stack
  | clear target phandler id user => exact tracked.clear
  | answered stack => exact tracked.answered stack rfl rfl rfl rfl rfl
  | wakeUp stack => exact tracked.restack [_] [] stack rfl rfl rfl rfl rfl rfl rfl rfl
  | @returned call waited below stack ready =>
      refine tracked.return_ stack ready rfl ?_ rfl rfl rfl rfl
      cases waited <;> exact ⟨rfl, rfl, rfl⟩
  | enter stack => exact tracked.restack [_] [_] stack rfl rfl rfl rfl rfl rfl rfl rfl
  | getEnter stack => exact tracked.restack [_] [_] stack rfl rfl rfl rfl rfl rfl rfl rfl
  | onWakeUp stack waits => exact tracked.congr rfl rfl rfl rfl (fun _ => rfl) (fun _ => rfl) fun _ => rfl
  | drained stack empty => exact tracked.restack [_] [] stack rfl rfl rfl rfl rfl rfl rfl rfl
  | received stack first => exact tracked.received stack first rfl rfl rfl rfl rfl
  | found message stack => exact tracked.restack [_] [] stack rfl rfl rfl rfl rfl rfl rfl rfl
  | notFound stack empty => exact tracked.restack [_] [_] stack rfl rfl rfl rfl rfl rfl rfl rfl
  | answering stack => exact tracked.answering stack rfl rfl rfl rfl rfl

end

end

/-! ## The history of a call -/

section

variable {state next : Threads Handler Data} {thread : Nat}

/-- What has happened to a call. -/
def history (state : Threads Handler Data) (call : Nat) : List (ThreadEvent Handler Data) :=
  (state.call call).elim [] (·.history call)

/-- A step without events of the call adds nothing to its history. -/
theorem history_of_eq {events : List (ThreadEvent Handler Data)} {call : Nat}
    (same : next.call call = state.call call) (noEvent : ofCall call events = []) :
    next.history call = state.history call ++ ofCall call events := by
  rw [history, same, noEvent, List.append_nil, history]

/-- What belongs to no call. -/
theorem ofCall_eq_nil {events : List (ThreadEvent Handler Data)}
    (noCall : ∀ event ∈ events, event.call? = none) (call : Nat) : ofCall call events = [] := by
  refine List.filter_eq_nil_iff.mpr fun event member => ?_
  rw [noCall event member]
  exact Bool.false_ne_true

/-- Moves within a thread happen to no call. -/
theorem Move.noCall {nested : Prop} {old new : List (Frame Handler Data)}
    {events : List (ThreadEvent Handler Data)} (move : Move state nested thread old new events) :
    ∀ event ∈ events, event.call? = none := by
  cases move with
  | direct | getStopped | getExpired => exact List.forall_mem_singleton.mpr rfl
  | _ => exact List.forall_mem_nil _

/-- One event of one call. -/
theorem history_of_event {number : Nat} {event : ThreadEvent Handler Data}
    (isEvent : event.call? = some number) (call : Nat)
    (others : call ≠ number → next.call call = state.call call)
    (grows : next.history number = state.history number ++ [event]) :
    next.history call = state.history call ++ ofCall call [event] := by
  by_cases same : call = number
  · rw [same, grows, ofCall, List.filter_cons_of_pos (by rw [isEvent]; exact beq_self_eq_true _)]
    rfl
  · refine history_of_eq (others same) ?_
    rw [ofCall, List.filter_cons_of_neg]
    · rfl
    · rw [isEvent]
      simpa using Ne.symm same

/-- Progress of one call is none of the others. -/
theorem call_advance (number : Nat) (change : SendCall Handler Data → SendCall Handler Data)
    {call : Nat} (other : call ≠ number) : (state.advance number change).call call = state.call call :=
  Function.update_of_ne other ..

/-- The stacks are no part of the history. -/
theorem history_setStack (stack : List (Frame Handler Data)) (call : Nat) :
    (state.setStack thread stack).history call = state.history call := rfl

/-- The history of a call follows its progress. -/
theorem history_advance {call : Nat} {sent : SendCall Handler Data}
    (isCall : state.call call = some sent)
    (change : SendCall Handler Data → SendCall Handler Data) :
    (state.advance call change).history call = (change sent).history call := by
  have now : (state.advance call change).call call = (state.call call).map change :=
    Function.update_self ..
  rw [history, now, isCall]
  rfl

/-- Clearing happens exactly to the calls that match. -/
theorem history_clear [DecidableEq Handler] (tracked : state.Tracked) (target : Nat)
    (phandler : Option Handler) (id : UInt32) (call : Nat) :
    (state.clear thread target phandler id).history call = state.history call ++
      ofCall call (((state.sendlist target).filter fun message =>
        message.msg.matches phandler id).map fun message => .cleared message.call) := by
  have once : (((state.sendlist target).filter fun message =>
      message.msg.matches phandler id).map (·.call)).Nodup :=
    (tracked.listedOnce target).sublist (List.filter_sublist.map _)
  have events : ofCall call (((state.sendlist target).filter fun message =>
      message.msg.matches phandler id).map fun message => (.cleared message.call : ThreadEvent Handler Data)) =
        ((((state.sendlist target).filter fun message =>
          message.msg.matches phandler id).map (·.call)).filter (· == call)).map .cleared := by
    rw [ofCall, List.filter_map, List.filter_map, List.map_map]
    rfl
  obtain ⟨message, member, hit, rfl, isCall⟩ | ⟨kept, same⟩ :=
    tracked.call_clear thread target phandler id call
  · have inside : message.call ∈ ((state.sendlist target).filter fun message =>
        message.msg.matches phandler id).map (·.call) :=
      List.mem_map.mpr ⟨message, List.mem_filter.mpr ⟨member, hit⟩, rfl⟩
    rw [events, List.filter_beq, List.count_eq_one_of_mem once inside, history, isCall, history,
      (tracked.listed target message).mp member]
    rfl
  · refine history_of_eq same ?_
    rw [events, List.filter_beq, List.count_eq_zero_of_not_mem]
    · rfl
    · intro inside
      obtain ⟨message, isRemoved, isCall⟩ := List.mem_map.mp inside
      obtain ⟨member, hit⟩ := List.mem_filter.mp isRemoved
      exact kept message member hit isCall

/-- Returning happens to the call of the frame. -/
theorem history_returned (tracked : state.Tracked) {call : Nat} {waited : Bool}
    {below : List (Frame Handler Data)}
    (stack : state.stack thread = .send call waited .test :: below)
    (isReady : state.ready call = true) (behind : List (Frame Handler Data)) :
    ((state.advance call fun sent => { sent with returned := true }).setStack thread behind).history
        call = state.history call ++ [.returned call] := by
  have inside : call ∈ state.sending thread := by
    rw [sending, stack]
    exact List.mem_cons_self
  obtain ⟨target, msg, progress, isCall⟩ := tracked.sending thread call inside
  obtain ⟨sent, isSent, isSettled⟩ := tracked.ready call isReady
  rw [isCall] at isSent
  cases isSent
  rw [history_setStack, history_advance isCall, history, isCall]
  rcases isSettled with rfl | rfl <;> rfl

/-- A step adds its events to the histories. -/
theorem history_transition [DecidableEq Handler] {nested : Prop}
    {events : List (ThreadEvent Handler Data)} (tracked : state.Tracked)
    (transition : Transition state nested thread next events) (call : Nat) :
    next.history call = state.history call ++ ofCall call events := by
  cases transition with
  | move stack move => exact history_of_eq rfl (ofCall_eq_nil move.noCall call)
  | quit | post | wakeUp | enter | getEnter | onWakeUp | drained | notFound | answering =>
      exact history_of_eq rfl rfl
  | found => exact history_of_eq rfl rfl
  | @send target message below stack =>
      have none : state.call state.next = none := tracked.fresh _ (Nat.le_refl _)
      have now : (state.send thread target message below).call state.next =
          some ⟨thread, target, message, .listed, false⟩ := Function.update_self ..
      refine history_of_event rfl call (Function.update_of_ne · ..) ?_
      rw [history, history, none, now]
      rfl
  | clear target phandler id user => exact history_clear tracked target phandler id call
  | @answered message below stack =>
      have inside : message ∈ state.handled thread := by
        rw [handled, stack]
        exact List.mem_cons_self
      have isCall := (tracked.handling thread message).mp inside
      have now : ((state.setReady message.call).advance message.call
          fun sent => { sent with progress := .answered }).history message.call = _ :=
        history_advance isCall _
      refine history_of_event rfl call (call_advance _ _) (now.trans ?_)
      rw [history, isCall]
      rfl
  | returned stack ready =>
      exact history_of_event rfl call (call_advance _ _) (history_returned tracked stack ready _)
  | @received message rest below stack first =>
      have inside : message ∈ state.sendlist thread := by
        rw [first]
        exact List.mem_cons_self
      have isCall := (tracked.listed thread message).mp inside
      have now : (state.advance message.call fun sent => { sent with progress := .handling }).history
          message.call = _ := history_advance isCall _
      refine history_of_event rfl call (call_advance _ _) (now.trans ?_)
      rw [history, isCall]
      rfl

end

end Threads

/-! ## Runs -/

section

variable {Handler Data : Type} [DecidableEq Handler]
  {allowed : Threads Handler Data → Nat × ThreadAction Handler Data → Prop}
  {labels : List (Nat × ThreadAction Handler Data)} {final : Threads Handler Data}
  {outputs : List (ThreadEvent Handler Data)}

/-- In every run all calls are tracked, and their histories are what was reported. -/
theorem tracked_of_run (run : threadMachine.RunWhere allowed Threads.new labels final outputs) :
    final.Tracked ∧ ∀ call, final.history call = ofCall call outputs := by
  refine run.invariant (fun _ state outputs => state.Tracked ∧ ∀ call, state.history call =
    ofCall call outputs) ⟨Threads.tracked_new, fun call => rfl⟩ ?_
  intro labels state outputs label next emitted ⟨tracked, same⟩ _ step
  have transition : Threads.Transition state True label.1 next emitted :=
    Threads.transition_of_step (fun _ => .inl trivial) step
  refine ⟨tracked.transition transition, fun call => ?_⟩
  rw [Threads.history_transition tracked transition, same, ofCall, ofCall, ofCall, List.filter_append]

/-- Whatever the interleaving: what happens to a call of `Send` is, so far as it has happened, that its
message is put on a list, that the thread it was sent to runs its handler with this message, once,
that the handler returns, and that `Send` returns after that; or that a `Clear` takes the message
from the list, no handler runs, and `Send` returns after that. -/
theorem send_history (run : threadMachine.Run Threads.new labels final outputs) (call : Nat) :
    ∃ sender target message,
      ofCall call outputs <+: [.sent call sender target message, .handled call target message,
        .answered call, .returned call] ∨
      ofCall call outputs <+: [.sent call sender target message, .cleared call, .returned call] := by
  obtain ⟨tracked, same⟩ := tracked_of_run run
  rw [← same, Threads.history]
  cases isCall : final.call call with
  | none => exact ⟨0, 0, .zero, .inl List.nil_prefix⟩
  | some sent =>
      obtain ⟨sender, target, message, progress, returned⟩ := sent
      refine ⟨sender, target, message, ?_⟩
      have done := tracked.returned call _ isCall
      cases progress with
      | listed =>
          cases returned with
          | true => rcases done rfl with isAnswered | isCleared <;> contradiction
          | false => exact .inl ⟨_, rfl⟩
      | handling =>
          cases returned with
          | true => rcases done rfl with isAnswered | isCleared <;> contradiction
          | false => exact .inl ⟨_, rfl⟩
      | answered => cases returned <;> exact .inl ⟨_, rfl⟩
      | cleared => cases returned <;> exact .inr ⟨_, rfl⟩

end

/-- A call from the first thread to the second, up to its return. -/
def answeredCall : List (Nat × ThreadAction Nat Nat) :=
  [(0, .send 1 ⟨some 7, 3, none⟩), (0, .proceed 5), (0, .proceed 5), (1, .get), (1, .proceed 5),
    (1, .proceed 5), (1, .finish), (1, .proceed 5), (0, .proceed 5)]

/-- A call that is answered and returns. -/
theorem send_history_answered : ∃ final outputs,
    threadMachine.Run Threads.new answeredCall final outputs ∧ .returned 0 ∈ outputs ∧
      ∃ sender target message,
        ofCall 0 outputs <+: [.sent 0 sender target message, .handled 0 target message,
          .answered 0, .returned 0] ∨
        ofCall 0 outputs <+: [.sent 0 sender target message, .cleared 0, .returned 0] := by
  have checked : (threadMachine.exec Threads.new answeredCall).any (fun result =>
      decide (.returned 0 ∈ result.2)) = true := by
    decide +kernel
  obtain ⟨final, outputs, run, returned⟩ := Machine.exists_run_of_exec checked
  exact ⟨final, outputs, run, of_decide_eq_true returned, send_history run 0⟩

end VzSdk.Event
