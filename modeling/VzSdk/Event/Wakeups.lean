import Mathlib.Logic.Relation
import VzSdk.Event.SendCalls

/-!
# No lost wake-up

A thread sleeps in `Wait` while there is something for it to do only if another
thread is just about to wake it. `Send` takes wake-ups that are not meant for it
and gives one back when it returns; what a thread sleeps for may therefore be
covered by a `Send` above it on the stack. Chains of threads that wait for each
other's handlers end in a thread that is awake.
-/

namespace VzSdk.Event

open VzSdk.Std

/-- What a thread may have to do. -/
inductive Work where
  /-- Its call has been answered. -/
  | ready (call : Nat)
  | sends
  | posted
  | stop
deriving DecidableEq, Repr

namespace Frame

variable {Handler Data : Type}

/-- The thread sleeps in the frame. -/
def waits : Frame Handler Data → Bool
  | .send _ _ .wait | .get .wait => true
  | _ => false

/-- What a function has found not to be there, and is to be woken for. -/
def Needs : Frame Handler Data → Work → Prop
  | .send call _ .sends, work => work = .ready call
  | .send call _ .enter, work | .send call _ .wait, work => work = .ready call ∨ work = .sends
  | .get .pass, work => work = .sends
  | .get .stop, work => work = .sends ∨ work = .posted
  | .get .enter, work | .get .wait, work => work = .sends ∨ work = .posted ∨ work = .stop
  | _, _ => False

/-- What a function will do, or wake its own thread for. -/
def Covers : Frame Handler Data → Work → Prop
  | .send _ waited phase, _ => waited = true ∨ phase = .wait
  | .receiveSends, work => work = .sends
  | _, _ => False

/-- In `Wait`, sends are always waited for. -/
theorem needs_sends {frame : Frame Handler Data} (waits : frame.waits = true) :
    frame.Needs .sends := by
  cases frame with
  | send call waited phase =>
      cases phase with
      | wait => exact .inr rfl
      | test | sends | enter => cases waits
  | get phase =>
      cases phase with
      | wait => exact .inl rfl
      | sends | pass | stop | enter => cases waits
  | event | onMessage | lockSend | lockPost | lockDelayPost | wakeUp | receiveSends | clear =>
      cases waits

/-- A frame that handles a call does not sleep. -/
theorem waits_of_handled {frame : Frame Handler Data} {message : SendMessage Handler Data}
    (isHandled : frame.handled? = some message) : frame.waits = false := by
  cases frame with
  | onMessage => rfl
  | event | lockSend | lockPost | lockDelayPost | wakeUp | send | receiveSends | get | clear =>
      cases isHandled

/-- A stack whose top does not wake others. -/
def Free : List (Frame Handler Data) → Prop
  | .wakeUp _ :: _ | .clear _ :: _ => False
  | _ => True

/-- The message loop is at the bottom, and what wakes others at the top. -/
def SitsOn : Frame Handler Data → List (Frame Handler Data) → Prop
  | .get _, below => below = []
  | .wakeUp _, .wakeUp _ :: _ => False
  | .wakeUp _, _ => True
  | _, below => Free below

/-- Every frame stands on frames that can be below it. -/
def Seated : List (Frame Handler Data) → Prop
  | [] => True
  | frame :: below => frame.SitsOn below ∧ Seated below

/-- User code runs on handlers only. -/
theorem free_of_isUserCode {stack : List (Frame Handler Data)}
    (user : Threads.isUserCode stack = true) : Free stack := by
  cases stack with
  | nil => trivial
  | cons frame below =>
      cases frame with
      | event | onMessage => trivial
      | lockSend | lockPost | lockDelayPost | wakeUp | send | receiveSends | get | clear =>
          cases user

/-- Any frame but a pass of `Get` may stand on handlers. -/
theorem sitsOn_of_free {frame : Frame Handler Data} {below : List (Frame Handler Data)}
    (free : Free below) (notGet : ∀ phase, frame ≠ .get phase) : frame.SitsOn below := by
  cases frame with
  | get phase => exact absurd rfl (notGet phase)
  | wakeUp target =>
      cases below with
      | nil => trivial
      | cons lower below =>
          cases lower with
          | wakeUp => exact free
          | event | onMessage | lockSend | lockPost | lockDelayPost | send | receiveSends | get |
              clear => trivial
  | event | onMessage | lockSend | lockPost | lockDelayPost | send | receiveSends | clear =>
      exact free

end Frame

namespace Threads

variable {Handler Data : Type}

section

variable (state : Threads Handler Data) (thread : Nat)

/-- There is such work for the thread. -/
def Pending : Work → Prop
  | .ready call => state.ready call = true ∧ ∃ sent, state.call call = some sent ∧ sent.sender = thread
  | .sends => state.sendlist thread ≠ []
  | .posted => (state.queue thread).msgq ≠ []
  | .stop => (state.queue thread).fStop = true

/-- A thread is signalled, or another one is about to signal it. -/
def Due : Prop := state.signaled thread = true ∨ ∃ waker, .wakeUp thread ∈ state.stack waker

/-- For pending work that a frame needs, the thread is due to be woken or does not sleep, or a
frame above sees to the work. -/
def Covered : Prop := ∀ above frame below, state.stack thread = above ++ frame :: below →
  ∀ work, frame.Needs work → state.Pending thread work →
    state.Due thread ∨ (frame.waits = true ∧ state.fWait thread = false) ∨
      ∃ upper ∈ above, upper.Covers work

/-- The invariant of the wake-ups. -/
structure Alert : Prop where
  seated : ∀ thread, Frame.Seated (state.stack thread)
  hasSends : ∀ thread, state.sendlist thread ≠ [] → state.hasSends thread = true
  covered : ∀ thread, state.Covered thread

end

/-- Nothing is pending at first. -/
theorem alert_new : Alert (new : Threads Handler Data) where
  seated _ := trivial
  hasSends _ some := absurd rfl some
  covered _ above frame below stack := by simp [new] at stack

variable {state next : Threads Handler Data} {thread : Nat} {old new below : List (Frame Handler Data)}

/-- An element of two lists is in the one or in the other. -/
theorem append_eq_append_cons {Element : Type} {first second above rest : List Element}
    {element : Element} (same : first ++ second = above ++ element :: rest) :
    (∃ between, above = first ++ between ∧ second = between ++ element :: rest) ∨
      ∃ between, first = above ++ element :: between := by
  obtain ⟨between, isAbove, isSecond⟩ | ⟨between, isFirst, isRest⟩ :=
    List.append_eq_append_iff.mp same
  · exact .inl ⟨between, isAbove, isSecond⟩
  · cases between with
    | nil => exact .inl ⟨[], by rw [isFirst]; simp, isRest.symm⟩
    | cons head between =>
        obtain ⟨rfl, _⟩ := List.cons.inj isRest
        exact .inr ⟨between, isFirst⟩

/-- What stays covered in a thread that does not go on. -/
theorem Covered.other (covered : state.Covered thread) (stack : next.stack thread = state.stack thread)
    (fWait : next.fWait thread = state.fWait thread) (due : state.Due thread → next.Due thread)
    (pending : ∀ work, next.Pending thread work → state.Pending thread work ∨ next.Due thread) :
    next.Covered thread := by
  intro above frame below isStack work needs isPending
  rw [stack] at isStack
  obtain wasPending | isDue := pending work isPending
  · rw [fWait]
    exact (covered above frame below isStack work needs wasPending).imp_left due
  · exact .inl isDue

/-- What stays covered in the thread that goes on. -/
theorem Covered.self (covered : state.Covered thread) (stack : state.stack thread = old ++ below)
    (replaced : next.stack thread = new ++ below)
    (pending : below ≠ [] → ∀ work, next.Pending thread work →
      state.Pending thread work ∨ next.Due thread)
    (lower : ∀ work, next.Pending thread work → below ≠ [] →
      (state.Due thread ∨ ∃ frame ∈ old, frame.Covers work) →
        next.Due thread ∨ ∃ frame ∈ new, frame.Covers work)
    (fWait : below ≠ [] → state.fWait thread = false →
      next.fWait thread = false ∨ ∃ frame ∈ new, ∀ work, frame.Covers work)
    (top : ∀ above frame rest, new = above ++ frame :: rest → ∀ work, frame.Needs work →
      next.Pending thread work → next.Due thread ∨
        (frame.waits = true ∧ next.fWait thread = false) ∨ ∃ upper ∈ above, upper.Covers work) :
    next.Covered thread := by
  intro above frame rest isStack work needs isPending
  rw [replaced] at isStack
  obtain ⟨between, rfl, rfl⟩ | ⟨between, isNew⟩ := append_eq_append_cons isStack
  · have inside : between ++ frame :: rest ≠ [] :=
      List.append_ne_nil_of_right_ne_nil _ (List.cons_ne_nil _ _)
    rw [← List.append_assoc] at stack
    obtain wasPending | isDue := pending inside work isPending
    · obtain wasDue | ⟨waits, noWait⟩ | ⟨upper, member, covers⟩ :=
        covered _ frame rest stack work needs wasPending
      · exact (lower work isPending inside (.inl wasDue)).imp_right fun ⟨upper, isNew, covers⟩ =>
          .inr ⟨upper, List.mem_append_left _ isNew, covers⟩
      · obtain stillNoWait | ⟨upper, isNew, covers⟩ := fWait inside noWait
        · exact .inr (.inl ⟨waits, stillNoWait⟩)
        · exact .inr (.inr ⟨upper, List.mem_append_left _ isNew, covers work⟩)
      · obtain isOld | isBetween := List.mem_append.mp member
        · exact (lower work isPending inside (.inr ⟨upper, isOld, covers⟩)).imp_right
            fun ⟨upper, isNew, covers⟩ => .inr ⟨upper, List.mem_append_left _ isNew, covers⟩
        · exact .inr (.inr ⟨upper, List.mem_append_right _ isBetween, covers⟩)
    · exact .inl isDue
  · exact top above frame between isNew work needs isPending

/-- A thread stays due if the wake-ups that leave the stack are made good. -/
theorem Due.restack {other : Nat} (due : state.Due other) (new : List (Frame Handler Data))
    (stack : state.stack thread = old ++ below)
    (replaced : next.stack = Function.update state.stack thread (new ++ below))
    (signaled : state.signaled other = true → next.Due other)
    (wakers : .wakeUp other ∈ old → next.Due other) : next.Due other := by
  obtain wasSignaled | ⟨waker, member⟩ := due
  · exact signaled wasSignaled
  · by_cases isThread : waker = thread
    · rw [isThread, stack] at member
      obtain isOld | isBelow := List.mem_append.mp member
      · exact wakers isOld
      · refine .inr ⟨thread, ?_⟩
        rw [replaced, Function.update_self]
        exact List.mem_append_right _ isBelow
    · refine .inr ⟨waker, ?_⟩
      rwa [replaced, Function.update_of_ne isThread]

/-- A thread that is about to be woken is due. -/
theorem due_of_new {other : Nat}
    (replaced : next.stack = Function.update state.stack thread (new ++ below))
    (member : .wakeUp other ∈ new) : next.Due other := by
  refine .inr ⟨thread, ?_⟩
  rw [replaced, Function.update_self]
  exact List.mem_append_left _ member

/-- A step on the top of one stack. -/
theorem Alert.restack (alert : state.Alert) (new : List (Frame Handler Data))
    (stack : state.stack thread = old ++ below)
    (replaced : next.stack = Function.update state.stack thread (new ++ below))
    (seated : Frame.Seated (new ++ below))
    (hasSends : ∀ other, next.sendlist other ≠ [] → next.hasSends other = true)
    (due : ∀ other, state.Due other → next.Due other)
    (fWait : ∀ other, other ≠ thread → next.fWait other = state.fWait other)
    (pending : ∀ other work, (other = thread → below ≠ []) → next.Pending other work →
      state.Pending other work ∨ next.Due other)
    (lower : ∀ work, next.Pending thread work → below ≠ [] → (∃ frame ∈ old, frame.Covers work) →
      next.Due thread ∨ ∃ frame ∈ new, frame.Covers work)
    (waits : below ≠ [] → state.fWait thread = false →
      next.fWait thread = false ∨ ∃ frame ∈ new, ∀ work, frame.Covers work)
    (top : ∀ above frame rest, new = above ++ frame :: rest → ∀ work, frame.Needs work →
      next.Pending thread work → next.Due thread ∨
        (frame.waits = true ∧ next.fWait thread = false) ∨ ∃ upper ∈ above, upper.Covers work) :
    next.Alert where
  seated other := by
    rw [replaced, Function.update_apply]
    split
    · exact seated
    · exact alert.seated other
  hasSends := hasSends
  covered other := by
    by_cases isThread : other = thread
    · rw [isThread]
      refine (alert.covered thread).self stack (by rw [replaced, Function.update_self])
        (fun inside work => pending thread work fun _ => inside) (fun work isPending inside covers => ?_) waits top
      obtain wasDue | covers := covers
      · exact .inl (due thread wasDue)
      · exact lower work isPending inside covers
    · exact (alert.covered other).other (by rw [replaced, Function.update_of_ne isThread])
        (fWait other isThread) (due other) fun work =>
          pending other work fun same => absurd same isThread

/-- Nothing stands above the top frame. -/
theorem Covered.top (covered : state.Covered thread) {frame : Frame Handler Data}
    (stack : state.stack thread = frame :: below) {work : Work} (needs : frame.Needs work)
    (isPending : state.Pending thread work) :
    state.Due thread ∨ (frame.waits = true ∧ state.fWait thread = false) := by
  obtain isDue | noWait | ⟨upper, member, _⟩ := covered [] frame below stack work needs isPending
  · exact .inl isDue
  · exact .inr noWait
  · cases member

/-- A function that is not in `Wait` is covered by a wake-up alone. -/
theorem Covered.due (covered : state.Covered thread) {frame : Frame Handler Data}
    (stack : state.stack thread = frame :: below) (awake : frame.waits = false) {work : Work}
    (needs : frame.Needs work) (isPending : state.Pending thread work) : state.Due thread := by
  obtain isDue | ⟨waits, _⟩ := covered.top stack needs isPending
  · exact isDue
  · rw [awake] at waits
    cases waits

/-- What one new function has to satisfy. -/
theorem top_of_one {frame : Frame Handler Data} (good : ∀ work, frame.Needs work →
      next.Pending thread work → next.Due thread ∨ (frame.waits = true ∧ next.fWait thread = false)) :
    ∀ above other rest, [frame] = above ++ other :: rest → ∀ work, other.Needs work →
      next.Pending thread work → next.Due thread ∨
        (other.waits = true ∧ next.fWait thread = false) ∨ ∃ upper ∈ above, upper.Covers work := by
  intro above other rest same work needs isPending
  obtain ⟨rfl, isRest⟩ | ⟨head, rfl, isRest⟩ := List.cons_eq_append_iff.mp same
  · obtain ⟨rfl, _⟩ := List.cons.inj isRest
    exact (good work needs isPending).imp_right .inl
  · simp at isRest

/-- What two new functions have to satisfy. -/
theorem top_of_two {upper frame : Frame Handler Data} (needless : ∀ work, ¬upper.Needs work)
    (good : ∀ work, frame.Needs work → next.Pending thread work → next.Due thread ∨
      (frame.waits = true ∧ next.fWait thread = false) ∨ upper.Covers work) :
    ∀ above other rest, [upper, frame] = above ++ other :: rest → ∀ work, other.Needs work →
      next.Pending thread work → next.Due thread ∨
        (other.waits = true ∧ next.fWait thread = false) ∨ ∃ upper ∈ above, upper.Covers work := by
  intro above other rest same work needs isPending
  obtain ⟨rfl, isRest⟩ | ⟨head, rfl, isRest⟩ := List.cons_eq_append_iff.mp same
  · obtain ⟨rfl, _⟩ := List.cons.inj isRest
    exact absurd needs (needless work)
  · obtain ⟨rfl, isRest⟩ | ⟨head, rfl, isRest⟩ := List.cons_eq_append_iff.mp isRest
    · obtain ⟨rfl, _⟩ := List.cons.inj isRest
      exact (good work needs isPending).imp_right (.imp_right fun covers =>
        ⟨upper, List.mem_singleton_self _, covers⟩)
    · simp at isRest

/-- A stack of an alert state is seated. -/
theorem Alert.seated_of_stack (alert : state.Alert) (stack : state.stack thread = old) :
    Frame.Seated old := stack ▸ alert.seated thread

/-- The message loop has nothing below it. -/
theorem Alert.below_get (alert : state.Alert) {phase : GetPhase}
    (stack : state.stack thread = .get phase :: below) : below = [] :=
  (alert.seated_of_stack stack).1

/-- Calls of the library. -/
theorem Alert.call (alert : state.Alert) {frame : Frame Handler Data}
    (sits : frame.SitsOn (state.stack thread)) (needless : ∀ work, ¬frame.Needs work) :
    (state.setStack thread ([frame] ++ state.stack thread)).Alert := by
  have stack : state.stack thread = [] ++ state.stack thread := rfl
  refine alert.restack _ stack rfl ⟨sits, alert.seated thread⟩ alert.hasSends ?_ (fun _ _ => rfl)
    (fun _ _ _ => .inl) ?_ (fun _ => .inl) (top_of_one fun work needs => absurd needs (needless work))
  · intro other isDue
    exact isDue.restack _ stack rfl .inl fun isOld => by cases isOld
  · rintro work _ _ ⟨upper, member, _⟩
    cases member

/-- Another function in the place of one. -/
theorem Alert.replace (alert : state.Alert) {upper lower : Frame Handler Data}
    (stack : state.stack thread = [upper] ++ below) (notWaker : ∀ target, upper ≠ .wakeUp target)
    (seated : Frame.Seated ([lower] ++ below))
    (covers : below ≠ [] → ∀ work, upper.Covers work → lower.Covers work)
    (good : ∀ work, lower.Needs work → state.Pending thread work →
      state.Due thread ∨ (lower.waits = true ∧ state.fWait thread = false)) :
    (state.setStack thread ([lower] ++ below)).Alert := by
  have due (other : Nat) (isDue : state.Due other) :
      (state.setStack thread ([lower] ++ below)).Due other :=
    isDue.restack _ stack rfl .inl fun isOld =>
      absurd (List.mem_singleton.mp isOld).symm (notWaker other)
  refine alert.restack _ stack rfl seated alert.hasSends due (fun _ _ => rfl) (fun _ _ _ => .inl) ?_
    (fun _ => .inl) (top_of_one fun work needs isPending => ?_)
  · rintro work _ inside ⟨frame, member, isCovered⟩
    rw [List.mem_singleton.mp member] at isCovered
    exact .inr ⟨lower, List.mem_singleton_self _, covers inside work isCovered⟩
  · exact (good work needs isPending).imp_left (due thread)

/-- A function that is left, and covered nothing. -/
theorem Alert.pop (alert : state.Alert) {upper : Frame Handler Data}
    (stack : state.stack thread = [upper] ++ below) (notWaker : ∀ target, upper ≠ .wakeUp target)
    (coverless : ∀ work, ¬upper.Covers work) : (state.setStack thread ([] ++ below)).Alert := by
  refine alert.restack _ stack rfl (alert.seated_of_stack stack).2 alert.hasSends ?_ (fun _ _ => rfl)
    (fun _ _ _ => .inl) ?_ (fun _ => .inl) ?_
  · intro other isDue
    exact isDue.restack _ stack rfl .inl fun isOld =>
      absurd (List.mem_singleton.mp isOld).symm (notWaker other)
  · rintro work _ _ ⟨frame, member, covers⟩
    rw [List.mem_singleton.mp member] at covers
    exact absurd covers (coverless work)
  · intro above frame rest same
    simp at same

/-- `ReceiveSends` is called, or something that needs nothing. -/
theorem Alert.push (alert : state.Alert) {upper middle lower : Frame Handler Data}
    (stack : state.stack thread = [upper] ++ below) (notWaker : ∀ target, upper ≠ .wakeUp target)
    (seated : Frame.Seated ([middle, lower] ++ below)) (needless : ∀ work, ¬middle.Needs work)
    (covers : below ≠ [] → ∀ work, upper.Covers work → lower.Covers work)
    (good : ∀ work, lower.Needs work → state.Pending thread work → state.Due thread ∨
      (lower.waits = true ∧ state.fWait thread = false) ∨ middle.Covers work) :
    (state.setStack thread ([middle, lower] ++ below)).Alert := by
  have due (other : Nat) (isDue : state.Due other) :
      (state.setStack thread ([middle, lower] ++ below)).Due other :=
    isDue.restack _ stack rfl .inl fun isOld =>
      absurd (List.mem_singleton.mp isOld).symm (notWaker other)
  refine alert.restack _ stack rfl seated alert.hasSends due (fun _ _ => rfl) (fun _ _ _ => .inl) ?_
    (fun _ => .inl) (top_of_two needless fun work needs isPending => ?_)
  · rintro work _ inside ⟨frame, member, isCovered⟩
    rw [List.mem_singleton.mp member] at isCovered
    exact .inr ⟨lower, List.mem_cons_of_mem _ (List.mem_singleton_self _),
      covers inside work isCovered⟩
  · exact (good work needs isPending).imp_left (due thread)

/-- Without the flag there are no sends. -/
theorem Alert.no_sends (alert : state.Alert) (none : state.hasSends thread = false) :
    ¬state.Pending thread .sends := fun some => by
  rw [alert.hasSends thread some] at none
  cases none

/-- Moves within a thread keep the state alert. -/
theorem Alert.move (alert : state.Alert) {events : List (ThreadEvent Handler Data)}
    (stack : state.stack thread = old ++ below) (move : Move state False thread old new events) :
    (state.setStack thread (new ++ below)).Alert := by
  have covered := alert.covered thread
  have seated := alert.seated_of_stack stack
  cases move with
  | lockSend target message user =>
      subst stack
      exact alert.call (Frame.sitsOn_of_free (Frame.free_of_isUserCode user) fun _ h => by cases h)
        fun _ needs => needs
  | lockPost target message user =>
      subst stack
      exact alert.call (Frame.sitsOn_of_free (Frame.free_of_isUserCode user) fun _ h => by cases h)
        fun _ needs => needs
  | lockDelayPost target cmsDelay tstamp message user =>
      subst stack
      exact alert.call (Frame.sitsOn_of_free (Frame.free_of_isUserCode user) fun _ h => by cases h)
        fun _ needs => needs
  | get user bottom =>
      subst stack
      exact alert.call (bottom.resolve_left id) fun _ needs => needs
  | direct | stopped =>
      subst stack
      rw [List.nil_append, setStack_self]
      exact alert
  | eventDone => exact alert.pop stack (fun _ h => by cases h) fun _ covers => covers
  | getStopped => exact alert.pop stack (fun _ h => by cases h) fun _ covers => covers
  | getExpired => exact alert.pop stack (fun _ h => by cases h) fun _ covers => covers
  | clearDone => exact alert.pop stack (fun _ h => by cases h) fun _ covers => covers
  | tested notReady =>
      refine alert.replace stack (fun _ h => by cases h) seated
        (fun _ _ covers => ?_) ?_
      · obtain waited | isWait := covers
        · exact .inl waited
        · cases isWait
      · rintro work rfl isPending
        rw [isPending.1] at notReady
        cases notReady
  | noSends none =>
      refine alert.replace stack (fun _ h => by cases h) seated
        (fun _ _ covers => ?_) ?_
      · obtain waited | isWait := covers
        · exact .inl waited
        · cases isWait
      · rintro work (rfl | rfl) isPending
        · exact .inl (covered.due stack rfl rfl isPending)
        · exact absurd isPending (alert.no_sends none)
  | hasSends =>
      refine alert.push stack (fun _ h => by cases h) ⟨trivial, seated⟩ (fun _ needs => needs)
        (fun _ _ covers => ?_) ?_
      · obtain waited | isWait := covers
        · exact .inl waited
        · cases isWait
      · rintro work (rfl | rfl) isPending
        · exact .inl (covered.due stack rfl rfl isPending)
        · exact .inr (.inr rfl)
  | waited =>
      exact alert.replace stack (fun _ h => by cases h) seated
        (fun _ _ _ => .inl rfl) fun _ needs => needs.elim
  | getNoSends none =>
      refine alert.replace stack (fun _ h => by cases h) seated
        (fun _ _ covers => covers) ?_
      rintro work rfl isPending
      exact absurd isPending (alert.no_sends none)
  | getHasSends =>
      refine alert.push stack (fun _ h => by cases h) ⟨trivial, seated⟩
        (fun _ needs => needs) (fun _ _ covers => covers) ?_
      rintro work rfl isPending
      exact .inr (.inr rfl)
  | getRuns runs =>
      refine alert.replace stack (fun _ h => by cases h) seated
        (fun _ _ covers => covers) ?_
      rintro work (rfl | rfl | rfl) isPending
      · exact .inl (covered.due stack rfl (.inl rfl) isPending)
      · exact .inl (covered.due stack rfl (.inr rfl) isPending)
      · rw [Pending, runs] at isPending
        cases isPending
  | getWaited =>
      exact alert.replace stack (fun _ h => by cases h) seated
        (fun _ _ covers => covers) fun _ needs => needs.elim
  | event =>
      refine alert.push stack (fun _ h => by cases h) ⟨trivial, seated⟩
        (fun _ needs => needs) (fun _ _ covers => covers) ?_
      intro work needs isPending
      exact (covered.top stack needs isPending).imp_right .inl

/-- Who has something new to do is about to be woken. -/
theorem Alert.wake (alert : state.Alert) {target : Nat} {frames : List (Frame Handler Data)}
    (stack : state.stack thread = old ++ below)
    (replaced : next.stack = Function.update state.stack thread
      ((.wakeUp target :: frames) ++ below))
    (seated : Frame.Seated ((.wakeUp target :: frames) ++ below))
    (hasSends : ∀ other, next.sendlist other ≠ [] → next.hasSends other = true)
    (signaled : next.signaled = state.signaled) (fWait : next.fWait = state.fWait)
    (pending : ∀ other work, other ≠ target → next.Pending other work → state.Pending other work)
    (noWaker : ∀ other, .wakeUp other ∉ old) (coverless : ∀ frame ∈ old, ∀ work, ¬frame.Covers work)
    (needless : ∀ frame ∈ frames, ∀ work, ¬frame.Needs work) : next.Alert := by
  have dueTarget : next.Due target := due_of_new replaced List.mem_cons_self
  refine alert.restack _ stack replaced seated hasSends ?_ (fun other _ => by rw [fWait]) ?_ ?_ ?_ ?_
  · intro other isDue
    refine isDue.restack _ stack replaced (fun isSignaled => .inl ?_) fun isOld =>
      absurd isOld (noWaker other)
    rwa [signaled]
  · intro other work _ isPending
    by_cases isTarget : other = target
    · rw [isTarget]
      exact .inr dueTarget
    · exact .inl (pending other work isTarget isPending)
  · rintro work _ _ ⟨frame, member, covers⟩
    exact absurd covers (coverless frame member work)
  · intro _ noWait
    exact .inl (by rwa [fWait])
  · intro above frame rest same work needs _
    have inside : frame ∈ (.wakeUp target :: frames) := by
      rw [same]
      exact List.mem_append_right _ List.mem_cons_self
    obtain rfl | isFrame := List.mem_cons.mp inside
    · cases needs
    · exact absurd needs (needless frame isFrame work)

/-- Posting or stopping keeps the state alert, for the waker is pushed with it. -/
theorem Alert.withQueue (alert : state.Alert) {target : Nat} {queue : MessageQueue Handler Data}
    (stack : state.stack thread = old ++ below) (free : Frame.Free below)
    (seated : Frame.Seated below) (noWaker : ∀ other, .wakeUp other ∉ old)
    (coverless : ∀ frame ∈ old, ∀ work, ¬frame.Covers work) :
    (state.withQueue thread target queue below).Alert := by
  have replaced : (state.withQueue thread target queue below).stack =
      Function.update state.stack thread ([.wakeUp target] ++ below) := rfl
  refine alert.wake stack replaced ⟨Frame.sitsOn_of_free free (fun _ h => by cases h), seated⟩
    alert.hasSends rfl rfl ?_ noWaker coverless fun frame member => by cases member
  intro other work notTarget isPending
  have same : (state.withQueue thread target queue below).queue other = state.queue other :=
    Function.update_of_ne notTarget ..
  cases work with
  | ready | sends => exact isPending
  | posted | stop =>
      rw [Pending, same] at isPending
      exact isPending

/-- Sending keeps the state alert, for the waker is pushed with it. -/
theorem Alert.send (alert : state.Alert) (tracked : state.Tracked) {target : Nat}
    {message : Message Handler Data}
    (stack : state.stack thread = .lockSend target message :: below) :
    (state.send thread target message below).Alert := by
  have seated := alert.seated_of_stack stack
  have free : Frame.Free below := seated.1
  have replaced : (state.send thread target message below).stack = Function.update state.stack thread
      ([.wakeUp target, .send state.next false .test] ++ below) := rfl
  have stack : state.stack thread = [.lockSend target message] ++ below := stack
  refine alert.wake stack replaced ⟨trivial, free, seated.2⟩ ?_ rfl rfl ?_ ?_ ?_ ?_
  · intro other some
    change Function.update state.sendlist target _ other ≠ [] at some
    change Function.update state.hasSends target true other = true
    rw [Function.update_apply] at some ⊢
    split
    · rfl
    · next notTarget =>
        rw [if_neg notTarget] at some
        exact alert.hasSends other some
  · intro other work notTarget isPending
    cases work with
    | ready call =>
        obtain ⟨isReady, sent, isCall, isSender⟩ := isPending
        refine ⟨isReady, ?_⟩
        obtain ⟨wasSent, wasCall, _⟩ := tracked.ready call isReady
        have same : (state.send thread target message below).call call = state.call call :=
          Function.update_of_ne (Nat.ne_of_lt (tracked.lt_next wasCall)) ..
        exact ⟨sent, same.symm.trans isCall, isSender⟩
    | sends =>
        have same : (state.send thread target message below).sendlist other =
          state.sendlist other := Function.update_of_ne notTarget ..
        rw [Pending, same] at isPending
        exact isPending
    | posted | stop => exact isPending
  · intro other isOld
    cases List.mem_singleton.mp isOld
  · intro frame member work covers
    rw [List.mem_singleton.mp member] at covers
    exact covers
  · intro frame member work needs
    rw [List.mem_singleton.mp member] at needs
    exact needs

/-- Progress of a call leaves its sender. -/
theorem pending_ready {other call : Nat} (ready : next.ready call = state.ready call)
    (sender : ∀ sent, next.call call = some sent → ∃ was, state.call call = some was ∧
      was.sender = sent.sender) (isPending : next.Pending other (.ready call)) :
    state.Pending other (.ready call) := by
  obtain ⟨isReady, sent, isCall, isSender⟩ := isPending
  obtain ⟨was, wasCall, sameSender⟩ := sender sent isCall
  exact ⟨ready.symm.trans isReady, was, wasCall, sameSender.trans isSender⟩

/-- The progress of a call does not change its sender. -/
theorem sender_advance (number : Nat) (change : SendCall Handler Data → SendCall Handler Data)
    (same : ∀ sent, (change sent).sender = sent.sender) (call : Nat)
    (sent : SendCall Handler Data) (isCall : (state.advance number change).call call = some sent) :
    ∃ was, state.call call = some was ∧ was.sender = sent.sender := by
  rw [advance] at isCall
  by_cases isNumber : call = number
  · subst isNumber
    have now : Function.update state.call call ((state.call call).map change) call =
        (state.call call).map change := Function.update_self ..
    obtain ⟨was, wasCall, rfl⟩ := Option.map_eq_some_iff.mp (now.symm.trans isCall)
    exact ⟨was, wasCall, (same was).symm⟩
  · have now : Function.update state.call number ((state.call number).map change) call =
        state.call call := Function.update_of_ne isNumber ..
    exact ⟨sent, now.symm.trans isCall, rfl⟩

/-- Clearing keeps the state alert. -/
theorem Alert.clear [DecidableEq Handler] (alert : state.Alert) (tracked : state.Tracked)
    {target : Nat} {phandler : Option Handler} {id : UInt32}
    (user : isUserCode (state.stack thread) = true) :
    (state.clear thread target phandler id).Alert := by
  have stack : state.stack thread = [] ++ state.stack thread := rfl
  have replaced : (state.clear thread target phandler id).stack = Function.update state.stack thread
      ([.clear ((state.sendlist target).filter fun message => message.msg.matches phandler id)] ++
        state.stack thread) := rfl
  have inList (other : Nat) (some : (state.clear thread target phandler id).sendlist other ≠ []) :
      state.sendlist other ≠ [] := by
    change Function.update state.sendlist target _ other ≠ [] at some
    rw [Function.update_apply] at some
    split at some
    · next isTarget =>
        intro none
        rw [isTarget] at none
        rw [none] at some
        exact some rfl
    · exact some
  refine alert.restack _ stack replaced ⟨Frame.free_of_isUserCode user, alert.seated thread⟩
    (fun other some => alert.hasSends other (inList other some)) ?_ (fun _ _ => rfl) ?_ ?_
    (fun _ => .inl) (top_of_one fun work needs => needs.elim)
  · intro other isDue
    exact isDue.restack _ stack replaced .inl fun isOld => by cases isOld
  · intro other work _ isPending
    refine .inl ?_
    cases work with
    | ready call =>
        have ready : (state.clear thread target phandler id).ready call = state.ready call := rfl
        refine pending_ready ready (fun sent isCall => ?_) isPending
        obtain ⟨message, member, _, rfl, same⟩ | ⟨_, same⟩ :=
          tracked.call_clear thread target phandler id call
        · rw [same] at isCall
          cases isCall
          exact ⟨_, (tracked.listed target message).mp member, rfl⟩
        · exact ⟨sent, same.symm.trans isCall, rfl⟩
    | sends => exact inList other isPending
    | posted =>
        change (Function.update state.queue target _ other).msgq ≠ [] at isPending
        rw [Function.update_apply] at isPending
        split at isPending
        · next isTarget =>
            intro none
            rw [isTarget] at none
            simp only [MessageQueue.clear, none] at isPending
            exact isPending rfl
        · exact isPending
    | stop =>
        change (Function.update state.queue target _ other).fStop = true at isPending
        rw [Function.update_apply] at isPending
        split at isPending
        · next isTarget =>
            rw [isTarget]
            exact isPending
        · exact isPending
  · rintro work _ _ ⟨frame, member, _⟩
    cases member

/-- A call is answered, and its sender is about to be woken. -/
theorem Alert.answer (alert : state.Alert) {message : SendMessage Handler Data}
    (frames : List (Frame Handler Data)) (stack : state.stack thread = old ++ below)
    (replaced : next.stack = Function.update state.stack thread
      ((.wakeUp message.thread :: frames) ++ below))
    (seated : Frame.Seated ((.wakeUp message.thread :: frames) ++ below))
    (sendlist : next.sendlist = state.sendlist) (hasSends : next.hasSends = state.hasSends)
    (queue : next.queue = state.queue) (signaled : next.signaled = state.signaled)
    (fWait : next.fWait = state.fWait)
    (ready : next.ready = Function.update state.ready message.call true)
    (sender : ∀ call sent, next.call call = some sent → ∃ was, state.call call = some was ∧
      was.sender = sent.sender)
    (isSender : ∃ sent, state.call message.call = some sent ∧ sent.sender = message.thread)
    (noWaker : ∀ other, .wakeUp other ∉ old) (coverless : ∀ frame ∈ old, ∀ work, ¬frame.Covers work)
    (needless : ∀ frame ∈ frames, ∀ work, ¬frame.Needs work) : next.Alert := by
  refine alert.wake stack replaced seated (by rw [sendlist, hasSends]; exact alert.hasSends) signaled
    fWait ?_ noWaker coverless needless
  intro other work notTarget isPending
  cases work with
  | ready call =>
      by_cases isCall : call = message.call
      · obtain ⟨_, sent, isSent, isOther⟩ := isPending
        obtain ⟨was, wasCall, sameSender⟩ := sender call sent isSent
        obtain ⟨first, isFirst, isThread⟩ := isSender
        rw [isCall, isFirst] at wasCall
        cases wasCall
        exact absurd (isOther.symm.trans (sameSender.symm.trans isThread)) notTarget
      · refine pending_ready ?_ (sender call) isPending
        rw [ready, Function.update_of_ne isCall]
  | sends => rwa [Pending, sendlist] at isPending
  | posted | stop => rwa [Pending, queue] at isPending

/-- Work that is pending after a step was pending before it, when nothing was added. -/
theorem pending_mono {other : Nat} {work : Work} (isPending : next.Pending other work)
    (ready : next.ready = state.ready)
    (sendlist : next.sendlist other ≠ [] → state.sendlist other ≠ [])
    (queue : next.queue = state.queue)
    (sender : ∀ call sent, next.call call = some sent → ∃ was, state.call call = some was ∧
      was.sender = sent.sender) : state.Pending other work := by
  cases work with
  | ready call => exact pending_ready (by rw [ready]) (sender call) isPending
  | sends => exact sendlist isPending
  | posted | stop => rwa [Pending, queue] at isPending

/-- `Send` returns; it gives the wake-up back that it may have taken. -/
theorem Alert.return_ (alert : state.Alert) {call : Nat} {waited : Bool}
    (stack : state.stack thread = .send call waited .test :: below) :
    ((state.advance call fun sent => { sent with returned := true }).setStack thread
      (if waited then .wakeUp thread :: below else below)).Alert := by
  have seated := alert.seated_of_stack stack
  have free : Frame.Free below := seated.1
  have stack : state.stack thread = [.send call waited .test] ++ below := stack
  have replaced : ((state.advance call fun sent => { sent with returned := true }).setStack thread
      (if waited then .wakeUp thread :: below else below)).stack =
        Function.update state.stack thread ((if waited then [.wakeUp thread] else []) ++ below) := by
    cases waited <;> rfl
  refine alert.restack _ stack replaced ?_ alert.hasSends ?_ (fun _ _ => rfl) ?_ ?_ (fun _ => .inl) ?_
  · cases waited with
    | true => exact ⟨Frame.sitsOn_of_free free (fun _ h => by cases h), seated.2⟩
    | false => exact seated.2
  · intro other isDue
    refine isDue.restack _ stack replaced .inl fun isOld => ?_
    cases List.mem_singleton.mp isOld
  · intro other work _ isPending
    exact .inl (pending_mono isPending rfl id rfl (sender_advance call _ fun _ => rfl))
  · rintro work _ _ ⟨frame, member, covers⟩
    rw [List.mem_singleton.mp member] at covers
    obtain rfl | isWait := covers
    · exact .inl (due_of_new replaced (List.mem_singleton_self _))
    · cases isWait
  · intro above frame rest same work needs
    cases waited with
    | true =>
        change [Frame.wakeUp thread] = _ at same
        have inside : frame ∈ [Frame.wakeUp thread] := by
          rw [same]
          exact List.mem_append_right _ List.mem_cons_self
        rw [List.mem_singleton.mp inside] at needs
        exact needs.elim
    | false => simp at same

/-- `Wait` begins. -/
theorem Alert.enterWait (alert : state.Alert) {upper lower : Frame Handler Data}
    (stack : state.stack thread = upper :: below) (seated : Frame.Seated (lower :: below))
    (notWaker : ∀ target, upper ≠ .wakeUp target) (awake : upper.waits = false)
    (needs : ∀ work, lower.Needs work → upper.Needs work)
    (covers : below ≠ [] → ∀ work, lower.Covers work) :
    (state.enterWait thread (lower :: below)).Alert := by
  have wasStack := stack
  have stack : state.stack thread = [upper] ++ below := stack
  have replaced : (state.enterWait thread (lower :: below)).stack =
      Function.update state.stack thread ([lower] ++ below) := rfl
  have due (other : Nat) (isDue : state.Due other) :
      (state.enterWait thread (lower :: below)).Due other :=
    isDue.restack _ stack replaced .inl fun isOld =>
      absurd (List.mem_singleton.mp isOld).symm (notWaker other)
  refine alert.restack _ stack replaced seated alert.hasSends due
    (fun _ other => Function.update_of_ne other ..) (fun _ _ _ => .inl) ?_ ?_
    (top_of_one fun work isNeeded isPending => ?_)
  · intro work _ inside _
    exact .inr ⟨lower, List.mem_singleton_self _, covers inside work⟩
  · intro inside _
    exact .inr ⟨lower, List.mem_singleton_self _, covers inside⟩
  · exact .inl (due thread ((alert.covered thread).due wasStack awake (needs work isNeeded) isPending))

/-- A wake-up is taken in `Wait`. -/
theorem Alert.onWakeUp (alert : state.Alert) {frame : Frame Handler Data}
    (stack : state.stack thread = frame :: below)
    (waits : (∃ call waited, frame = .send call waited .wait) ∨ frame = .get .wait) :
    (state.onWakeUp thread).Alert where
  seated := alert.seated
  hasSends := alert.hasSends
  covered other := by
    by_cases isThread : other = thread
    · subst isThread
      intro above lower rest isStack work needs _
      change state.stack other = _ at isStack
      rw [stack] at isStack
      have noWait : (state.onWakeUp other).fWait other = false := Function.update_self ..
      obtain ⟨rfl, isRest⟩ | ⟨head, rfl, isRest⟩ := List.cons_eq_append_iff.mp isStack
      · obtain ⟨rfl, _⟩ := List.cons.inj isRest
        refine .inr (.inl ⟨?_, noWait⟩)
        obtain ⟨call, waited, rfl⟩ | rfl := waits
        · rfl
        · rfl
      · obtain ⟨call, waited, rfl⟩ | rfl := waits
        · exact .inr (.inr ⟨_, List.mem_cons_self, .inr rfl⟩)
        · rw [alert.below_get stack] at isRest
          simp at isRest
    · have signaled : (state.onWakeUp thread).signaled other = state.signaled other :=
        Function.update_of_ne isThread ..
      refine (alert.covered other).other rfl (Function.update_of_ne isThread ..) ?_ fun _ => .inl
      rintro (isSignaled | waker)
      · exact .inl (signaled.trans isSignaled)
      · exact .inr waker

/-- Waking up a thread keeps the state alert. -/
theorem Alert.wakeUp (alert : state.Alert) {target : Nat}
    (stack : state.stack thread = .wakeUp target :: below) :
    Alert { state.setStack thread below with
      signaled := Function.update state.signaled target true } := by
  have seated := alert.seated_of_stack stack
  have stack : state.stack thread = [.wakeUp target] ++ below := stack
  have signal (other : Nat) (isSignaled : state.signaled other = true) :
      Function.update state.signaled target true other = true := by
    rw [Function.update_apply]
    split
    · rfl
    · exact isSignaled
  refine alert.restack [] stack rfl seated.2 alert.hasSends ?_ (fun _ _ => rfl) (fun _ _ _ => .inl) ?_
    (fun _ => .inl) ?_
  · intro other isDue
    refine isDue.restack [] stack rfl (fun isSignaled => .inl (signal other isSignaled)) fun isOld => ?_
    cases List.mem_singleton.mp isOld
    exact .inl (Function.update_self ..)
  · rintro work _ _ ⟨frame, member, covers⟩
    rw [List.mem_singleton.mp member] at covers
    exact covers.elim
  · intro above frame rest same
    simp at same

/-- A thread without sends left keeps the state alert. -/
theorem Alert.drained (alert : state.Alert) (stack : state.stack thread = .receiveSends :: below)
    (empty : state.sendlist thread = []) :
    Alert { state.setStack thread below with
      hasSends := Function.update state.hasSends thread false } := by
  have seated := alert.seated_of_stack stack
  have stack : state.stack thread = [.receiveSends] ++ below := stack
  refine alert.restack [] stack rfl seated.2 ?_ ?_ (fun _ _ => rfl) (fun _ _ _ => .inl) ?_
    (fun _ => .inl) ?_
  · intro other some
    change Function.update state.hasSends thread false other = true
    rw [Function.update_apply, if_neg]
    · exact alert.hasSends other some
    · rintro rfl
      exact some empty
  · intro other isDue
    refine isDue.restack [] stack rfl .inl fun isOld => ?_
    cases List.mem_singleton.mp isOld
  · rintro work isPending _ ⟨frame, member, covers⟩
    rw [List.mem_singleton.mp member] at covers
    cases covers
    exact absurd empty isPending
  · intro above frame rest same
    simp at same

/-- Taking a call from the list keeps the state alert. -/
theorem Alert.received (alert : state.Alert) {message : SendMessage Handler Data}
    {rest : List (SendMessage Handler Data)} (stack : state.stack thread = .receiveSends :: below)
    (first : state.sendlist thread = message :: rest) :
    Alert { (state.advance message.call fun sent => { sent with progress := .handling }).setStack thread
        (.onMessage message :: .receiveSends :: below) with
      sendlist := Function.update state.sendlist thread rest } := by
  have seated := alert.seated_of_stack stack
  have stack : state.stack thread = [.receiveSends] ++ below := stack
  have inList (other : Nat) (some : Function.update state.sendlist thread rest other ≠ []) :
      state.sendlist other ≠ [] := by
    rw [Function.update_apply] at some
    split at some
    · next isThread =>
        rw [isThread, first]
        exact List.cons_ne_nil _ _
    · exact some
  refine alert.restack [.onMessage message, .receiveSends] stack rfl ⟨trivial, seated⟩
    (fun other some => alert.hasSends other (inList other some)) ?_ (fun _ _ => rfl) ?_ ?_
    (fun _ => .inl) (top_of_two (fun _ needs => needs) fun work needs => needs.elim)
  · intro other isDue
    refine isDue.restack [.onMessage message, .receiveSends] stack rfl .inl fun isOld => ?_
    cases List.mem_singleton.mp isOld
  · intro other work _ isPending
    exact .inl (pending_mono isPending rfl (inList other) rfl
      (sender_advance message.call _ fun _ => rfl))
  · rintro work _ _ ⟨frame, member, covers⟩
    rw [List.mem_singleton.mp member] at covers
    exact .inr ⟨.receiveSends, List.mem_cons_of_mem _ (List.mem_singleton_self _), covers⟩

/-- A pass of `Get` keeps the state alert: it goes on only when the ready list is empty. -/
theorem Alert.pass (alert : state.Alert) {queue : MessageQueue Handler Data}
    (stack : state.stack thread = .get .pass :: below) (new : List (Frame Handler Data))
    (seated : Frame.Seated (new ++ below))
    (top : ∀ above frame rest, new = above ++ frame :: rest → above = [] ∧ frame = .get .stop ∧
      queue.msgq = []) :
    ({ state with queue := Function.update state.queue thread queue }.setStack thread
      (new ++ below)).Alert := by
  have atBottom : below = [] := alert.below_get stack
  have wasStack := stack
  have stack : state.stack thread = [.get .pass] ++ below := stack
  have due (other : Nat) (isDue : state.Due other) :
      ({ state with queue := Function.update state.queue thread queue }.setStack thread
        (new ++ below)).Due other := by
    refine isDue.restack new stack rfl .inl fun isOld => ?_
    cases List.mem_singleton.mp isOld
  refine alert.restack new stack rfl seated alert.hasSends due (fun _ _ => rfl) ?_
    (fun _ _ inside => absurd atBottom inside) (fun inside => absurd atBottom inside) ?_
  · intro other work inside isPending
    have same : Function.update state.queue thread queue other = state.queue other :=
      Function.update_of_ne (fun isThread => inside isThread atBottom) ..
    refine .inl ?_
    cases work with
    | ready | sends => exact isPending
    | posted =>
        change (Function.update state.queue thread queue other).msgq ≠ [] at isPending
        rwa [same] at isPending
    | stop =>
        change (Function.update state.queue thread queue other).fStop = true at isPending
        rwa [same] at isPending
  · intro above frame rest same work needs isPending
    obtain ⟨rfl, rfl, empty⟩ := top above frame rest same
    rcases needs with rfl | rfl
    · exact .inl (due thread ((alert.covered thread).due wasStack rfl rfl isPending))
    · refine absurd ?_ isPending
      change (Function.update state.queue thread queue thread).msgq = []
      rw [Function.update_self, empty]

/-- Every transition keeps the state alert. -/
theorem Alert.transition [DecidableEq Handler] {events : List (ThreadEvent Handler Data)}
    (alert : state.Alert) (tracked : state.Tracked)
    (transition : Transition state False thread next events) : next.Alert := by
  have one {frame : Frame Handler Data} (noWaker : ∀ target, frame ≠ .wakeUp target) (other : Nat) :
      .wakeUp other ∉ [frame] := fun isOld => absurd (List.mem_singleton.mp isOld).symm (noWaker other)
  have nothing {property : Frame Handler Data → Work → Prop} {frame : Frame Handler Data}
      (never : ∀ work, ¬property frame work) : ∀ other ∈ [frame], ∀ work, ¬property other work := by
    intro other member work holds
    rw [List.mem_singleton.mp member] at holds
    exact never work holds
  cases transition with
  | move stack move => exact alert.move stack move
  | quit target queue user =>
      have stack : state.stack thread = [] ++ state.stack thread := rfl
      exact alert.withQueue stack (Frame.free_of_isUserCode user) (alert.seated thread)
        (fun _ isOld => by cases isOld) fun _ member => by cases member
  | @post target queue frame below stack isLock =>
      have seated := alert.seated_of_stack stack
      have stack : state.stack thread = [frame] ++ below := stack
      obtain ⟨message, rfl⟩ | ⟨cmsDelay, tstamp, message, rfl⟩ := isLock
      · exact alert.withQueue stack seated.1 seated.2 (one fun _ h => by cases h)
          (nothing fun _ covers => covers)
      · exact alert.withQueue stack seated.1 seated.2 (one fun _ h => by cases h)
          (nothing fun _ covers => covers)
  | send stack => exact alert.send tracked stack
  | clear target phandler id user => exact alert.clear tracked user
  | @answered message below stack =>
      have seated := alert.seated_of_stack stack
      have inside : message ∈ state.handled thread := by
        rw [handled, stack]
        exact List.mem_cons_self
      have isCall := (tracked.handling thread message).mp inside
      have stack : state.stack thread = [.onMessage message] ++ below := stack
      exact alert.answer [] stack rfl
        ⟨Frame.sitsOn_of_free seated.1 (fun _ h => by cases h), seated.2⟩ rfl rfl rfl rfl rfl rfl
        (sender_advance message.call _ fun _ => rfl) ⟨_, isCall, rfl⟩ (one fun _ h => by cases h)
        (nothing fun _ covers => covers) fun _ member => by cases member
  | wakeUp stack => exact alert.wakeUp stack
  | returned stack ready => exact alert.return_ stack
  | enter stack =>
      have seated := alert.seated_of_stack stack
      exact alert.enterWait stack seated (fun _ h => by cases h) rfl (fun _ needs => needs)
        fun _ _ => .inr rfl
  | getEnter stack =>
      have seated := alert.seated_of_stack stack
      exact alert.enterWait stack seated (fun _ h => by cases h) rfl (fun _ needs => needs)
        fun inside => absurd (alert.below_get stack) inside
  | onWakeUp stack waits => exact alert.onWakeUp stack waits
  | drained stack empty => exact alert.drained stack empty
  | received stack first => exact alert.received stack first
  | found message stack =>
      exact alert.pass stack [] (alert.seated_of_stack stack).2 fun above frame rest same => by
        simp at same
  | @notFound queue below stack empty =>
      have seated := alert.seated_of_stack stack
      refine alert.pass stack [.get .stop] seated ?_
      intro above frame rest same
      obtain ⟨rfl, isRest⟩ | ⟨head, rfl, isRest⟩ := List.cons_eq_append_iff.mp same
      · obtain ⟨rfl, _⟩ := List.cons.inj isRest
        exact ⟨rfl, rfl, empty⟩
      · simp at isRest
  | @answering message rest below stack =>
      have seated := alert.seated_of_stack stack
      have inside : message ∈ state.clearing thread := by
        rw [clearing, stack]
        exact List.mem_cons_self
      obtain ⟨sent, isCall, _, isSender⟩ := tracked.clearing thread message inside
      have stack : state.stack thread = [.clear (message :: rest)] ++ below := stack
      exact alert.answer [.clear rest] stack rfl ⟨trivial, seated⟩ rfl rfl rfl rfl rfl rfl
        (fun _ sent isSent => ⟨sent, isSent, rfl⟩) ⟨sent, isCall, isSender⟩
        (one fun _ h => by cases h) (nothing fun _ covers => covers) (nothing fun _ needs => needs)

/-! ## Who waits for whom -/

/-- A call in a handler is newer than the call that the handler is run for. -/
def Newer (upper lower : Frame Handler Data) : Prop :=
  ∀ call, upper.sending? = some call → ∀ message, lower.handled? = some message → message.call < call

/-- On every stack the inner calls are newer than the outer ones. -/
def Ordered (state : Threads Handler Data) : Prop := ∀ thread, (state.stack thread).Pairwise Newer

/-- A frame that sends nothing stands anywhere. -/
theorem newer_of_not_sending {upper : Frame Handler Data} (none : upper.sending? = none)
    (lower : Frame Handler Data) : Newer upper lower := by
  intro call isCall
  rw [none] at isCall
  cases isCall

/-- New functions on the top, with no new calls. -/
theorem pairwise_restack (was : (old ++ below).Pairwise Newer) (inner : new.Pairwise Newer)
    (calls : ∀ frame ∈ new, ∀ call, frame.sending? = some call →
      ∃ upper ∈ old, upper.sending? = some call) : (new ++ below).Pairwise Newer := by
  obtain ⟨_, lower, across⟩ := List.pairwise_append.mp was
  refine List.pairwise_append.mpr ⟨inner, lower, ?_⟩
  intro frame isNew other isBelow call isCall
  obtain ⟨upper, isOld, isUpper⟩ := calls frame isNew call isCall
  exact across upper isOld other isBelow call isUpper

/-- Frames that send nothing new keep the stacks ordered. -/
theorem Ordered.restack (ordered : state.Ordered) (new : List (Frame Handler Data))
    (stack : state.stack thread = old ++ below)
    (replaced : next.stack = Function.update state.stack thread (new ++ below))
    (inner : new.Pairwise Newer)
    (calls : ∀ frame ∈ new, ∀ call, frame.sending? = some call →
      ∃ upper ∈ old, upper.sending? = some call) : next.Ordered := by
  intro other
  rw [replaced, Function.update_apply]
  split
  · have was := ordered thread
    rw [stack] at was
    exact pairwise_restack was inner calls
  · exact ordered other

/-- The one new function is in no call, or in the same one. -/
theorem Ordered.one (ordered : state.Ordered) {upper lower : Frame Handler Data}
    (stack : state.stack thread = upper :: below)
    (replaced : next.stack = Function.update state.stack thread (lower :: below))
    (same : ∀ call, lower.sending? = some call → upper.sending? = some call) : next.Ordered := by
  have stack : state.stack thread = [upper] ++ below := stack
  refine ordered.restack [lower] stack replaced (List.pairwise_singleton _ _) ?_
  intro frame member call isCall
  rw [List.mem_singleton.mp member] at isCall
  exact ⟨upper, List.mem_singleton_self _, same call isCall⟩

/-- A frame may be split into two. -/
theorem Ordered.two (ordered : state.Ordered) {upper middle lower : Frame Handler Data}
    (stack : state.stack thread = upper :: below)
    (replaced : next.stack = Function.update state.stack thread (middle :: lower :: below))
    (none : middle.sending? = none)
    (same : ∀ call, lower.sending? = some call → upper.sending? = some call) : next.Ordered := by
  have stack : state.stack thread = [upper] ++ below := stack
  refine ordered.restack [middle, lower] stack replaced ?_ ?_
  · exact List.pairwise_pair.mpr (newer_of_not_sending none lower)
  · intro frame member call isCall
    obtain rfl | isLower := List.mem_cons.mp member
    · rw [none] at isCall
      cases isCall
    · rw [List.mem_singleton.mp isLower] at isCall
      exact ⟨upper, List.mem_singleton_self _, same call isCall⟩

/-- Popping a frame keeps the stacks ordered. -/
theorem Ordered.pop (ordered : state.Ordered) {upper : Frame Handler Data}
    (stack : state.stack thread = upper :: below)
    (replaced : next.stack = Function.update state.stack thread below) : next.Ordered := by
  have stack : state.stack thread = [upper] ++ below := stack
  exact ordered.restack [] stack replaced .nil fun _ member => by cases member

/-- Pushing a frame that sends nothing keeps the stacks ordered. -/
theorem Ordered.push (ordered : state.Ordered) {frame : Frame Handler Data}
    (replaced : next.stack = Function.update state.stack thread (frame :: state.stack thread))
    (none : frame.sending? = none) : next.Ordered := by
  have stack : state.stack thread = [] ++ state.stack thread := rfl
  refine ordered.restack [frame] stack replaced (List.pairwise_singleton _ _) ?_
  intro other member call isCall
  rw [List.mem_singleton.mp member, none] at isCall
  cases isCall

/-- Moves within a thread keep the stacks ordered. -/
theorem Ordered.move {nested : Prop} (ordered : state.Ordered)
    {events : List (ThreadEvent Handler Data)} (stack : state.stack thread = old ++ below)
    (move : Move state nested thread old new events) : (state.setStack thread (new ++ below)).Ordered := by
  cases move with
  | lockSend | lockPost | lockDelayPost | get =>
      subst stack
      exact ordered.push rfl rfl
  | direct | stopped =>
      subst stack
      rw [List.nil_append, setStack_self]
      exact ordered
  | eventDone | getStopped | getExpired | clearDone => exact ordered.pop stack rfl
  | tested | noSends | waited => exact ordered.one stack rfl fun _ same => same
  | getNoSends | getRuns | getWaited => exact ordered.one stack rfl fun _ same => same
  | hasSends | getHasSends | event => exact ordered.two stack rfl rfl fun _ same => same

/-- A new call is newer than those below it. -/
theorem Ordered.send (ordered : state.Ordered) (tracked : state.Tracked) {target : Nat}
    {message : Message Handler Data} (stack : state.stack thread = .lockSend target message :: below) :
    (state.send thread target message below).Ordered := by
  intro other
  change (Function.update state.stack thread _ other).Pairwise Newer
  rw [Function.update_apply]
  split
  · have was := ordered thread
    rw [stack, List.pairwise_cons] at was
    refine List.pairwise_cons.mpr ⟨fun lower _ => newer_of_not_sending rfl lower, ?_⟩
    refine List.pairwise_cons.mpr ⟨?_, was.2⟩
    intro lower member call isCall message isHandled
    cases isCall
    have inside : message ∈ state.handled thread := by
      rw [handled, stack]
      exact List.mem_filterMap.mpr ⟨lower, List.mem_cons_of_mem _ member, isHandled⟩
    exact tracked.lt_next ((tracked.handling thread message).mp inside)
  · exact ordered other

/-- Every transition keeps the stacks ordered. -/
theorem Ordered.transition [DecidableEq Handler] {nested : Prop}
    {events : List (ThreadEvent Handler Data)} (ordered : state.Ordered) (tracked : state.Tracked)
    (transition : Transition state nested thread next events) : next.Ordered := by
  cases transition with
  | move stack move => exact ordered.move stack move
  | quit | clear => exact ordered.push rfl rfl
  | post target queue stack => exact ordered.one stack rfl fun _ none => by cases none
  | send stack => exact ordered.send tracked stack
  | answered stack => exact ordered.one stack rfl fun _ none => by cases none
  | wakeUp stack | drained stack | found _ stack => exact ordered.pop stack rfl
  | @returned call waited below stack ready =>
      cases waited with
      | true => exact ordered.one stack rfl fun _ none => by cases none
      | false => exact ordered.pop stack rfl
  | enter stack | getEnter stack => exact ordered.one stack rfl fun _ same => same
  | onWakeUp => exact ordered
  | received stack | answering stack => exact ordered.two stack rfl rfl fun _ none => by cases none
  | notFound stack => exact ordered.one stack rfl fun _ none => by cases none

/-! ## Sleeping threads -/

section

variable (state : Threads Handler Data)

/-- In `Wait`, and nothing will end it. -/
def Asleep (thread : Nat) : Prop := ∃ frame below, state.stack thread = frame :: below ∧
  frame.waits = true ∧ state.fWait thread = true ∧ state.signaled thread = false

/-- The next thing that a thread does is to wake another one. -/
def Waking (waker thread : Nat) : Prop := ∃ below, state.stack waker = .wakeUp thread :: below

/-- A thread waits for the handler of its call. -/
def WaitsFor (thread target : Nat) : Prop := ∃ call waited below msg progress,
  state.stack thread = .send call waited .wait :: below ∧
    state.call call = some ⟨thread, target, msg, progress, false⟩

/-- A thread is at work for another: it wakes it, or it answers what `Clear` took from a list. -/
def WorksFor (waker thread : Nat) : Prop := ¬state.Asleep waker ∧ (state.Waking waker thread ∨
  ∃ message ∈ state.clearing waker, message.thread = thread)

end

/-- Nothing is above what wakes others. -/
theorem not_sitsOn_wakeUp (frame : Frame Handler Data) (target : Nat) :
    ¬frame.SitsOn (.wakeUp target :: below) := by
  intro sits
  cases frame with
  | get phase => cases sits
  | event | onMessage | lockSend | lockPost | lockDelayPost | wakeUp | send | receiveSends | clear =>
      exact sits

/-- A waker is on top of its stack. -/
theorem eq_of_wakeUp_mem {target : Nat} {stack : List (Frame Handler Data)}
    (seated : Frame.Seated stack) (member : .wakeUp target ∈ stack) :
    ∃ below, stack = .wakeUp target :: below := by
  induction stack with
  | nil => cases member
  | cons frame below inductionHypothesis =>
      obtain rfl | inside := List.mem_cons.mp member
      · exact ⟨below, rfl⟩
      · obtain ⟨rest, rfl⟩ := inductionHypothesis seated.2 inside
        exact absurd seated.1 (not_sitsOn_wakeUp frame target)

/-- Above a thread that clears there is a waker at most. -/
theorem waits_of_clear_mem {rest : List (SendMessage Handler Data)}
    {stack : List (Frame Handler Data)} (seated : Frame.Seated stack) (member : .clear rest ∈ stack) :
    ∃ frame below, stack = frame :: below ∧ frame.waits = false ∧
      ((∃ target, frame = .wakeUp target) ∨ frame = .clear rest) := by
  induction stack with
  | nil => cases member
  | cons frame below inductionHypothesis =>
      obtain rfl | inside := List.mem_cons.mp member
      · exact ⟨_, below, rfl, rfl, .inr rfl⟩
      · obtain ⟨lower, behind, rfl, _, ⟨target, rfl⟩ | rfl⟩ := inductionHypothesis seated.2 inside
        · exact absurd seated.1 (not_sitsOn_wakeUp frame target)
        · cases frame with
          | wakeUp target => exact ⟨_, _, rfl, rfl, .inl ⟨target, rfl⟩⟩
          | get phase => cases seated.1
          | event | onMessage | lockSend | lockPost | lockDelayPost | send | receiveSends | clear =>
              exact seated.1.elim

/-- A thread that is due and not signaled has a waker. -/
theorem Alert.waking (alert : state.Alert) (due : state.Due thread)
    (notSignaled : state.signaled thread = false) : ∃ waker, state.Waking waker thread := by
  obtain isSignaled | ⟨waker, member⟩ := due
  · rw [notSignaled] at isSignaled
    cases isSignaled
  · exact ⟨waker, eq_of_wakeUp_mem (alert.seated waker) member⟩

/-- A waker is awake. -/
theorem not_asleep_of_waking {waker : Nat} (waking : state.Waking waker thread) :
    ¬state.Asleep waker := by
  rintro ⟨frame, below, stack, waits, _⟩
  obtain ⟨rest, top⟩ := waking
  rw [top] at stack
  obtain ⟨rfl, _⟩ := List.cons.inj stack
  cases waits

/-- Who sleeps with something to do is being woken. -/
theorem Alert.waking_of_pending (alert : state.Alert) (asleep : state.Asleep thread)
    {frame : Frame Handler Data} (stack : state.stack thread = frame :: below) {work : Work}
    (needs : frame.Needs work) (isPending : state.Pending thread work) :
    ∃ waker, state.Waking waker thread := by
  obtain ⟨_, _, _, _, wait, notSignaled⟩ := asleep
  obtain isDue | ⟨_, noWait⟩ := (alert.covered thread).top stack needs isPending
  · exact alert.waking isDue notSignaled
  · rw [wait] at noWait
    cases noWait

/-- Who answers is awake. -/
theorem Alert.not_asleep_of_clearing (alert : state.Alert) {waker : Nat}
    {message : SendMessage Handler Data} (member : message ∈ state.clearing waker) :
    ¬state.Asleep waker := by
  rintro ⟨frame, below, stack, waits, _⟩
  obtain ⟨lower, inside, isRest⟩ := List.mem_flatMap.mp member
  cases lower with
  | clear rest =>
      obtain ⟨top, behind, same, awake, _⟩ := waits_of_clear_mem (alert.seated waker) inside
      rw [stack] at same
      obtain ⟨rfl, _⟩ := List.cons.inj same
      rw [awake] at waits
      cases waits
  | event | onMessage | lockSend | lockPost | lockDelayPost | wakeUp | send | receiveSends | get =>
      cases isRest

/-- A thread whose `Send` sleeps waits for one that is awake or that is worked for, or for one whose
`Send` sleeps in a newer call. -/
theorem Alert.send_cases (alert : state.Alert) (tracked : state.Tracked) (ordered : state.Ordered)
    {call : Nat} {waited : Bool} (stack : state.stack thread = .send call waited .wait :: below)
    (asleep : state.Asleep thread) :
    (∃ waker, state.WorksFor waker thread) ∨
      ∃ target, state.WaitsFor thread target ∧ (¬state.Asleep target ∨
        (∃ waker, state.WorksFor waker target) ∨ ∃ newer waited below,
          state.stack target = .send newer waited .wait :: below ∧ call < newer) := by
  have inside : call ∈ state.sending thread := by
    rw [sending, stack]
    exact List.mem_cons_self
  obtain ⟨target, msg, progress, isCall⟩ := tracked.sending thread call inside
  have waitsFor : state.WaitsFor thread target := ⟨call, waited, below, msg, progress, stack, isCall⟩
  have works {other waker : Nat} (waking : state.Waking waker other) : state.WorksFor waker other :=
    ⟨not_asleep_of_waking waking, .inl waking⟩
  have answered (isSettled : settled progress) : ∃ waker, state.WorksFor waker thread := by
    obtain isReady | ⟨waker, message, member, _, isSender⟩ :=
      tracked.answers call _ isCall isSettled
    · obtain ⟨waker, waking⟩ := alert.waking_of_pending asleep stack (.inl rfl)
        (⟨isReady, _, isCall, rfl⟩ : state.Pending thread (.ready call))
      exact ⟨waker, works waking⟩
    · exact ⟨waker, alert.not_asleep_of_clearing member, .inr ⟨message, member, isSender⟩⟩
  cases progress with
  | answered => exact .inl (answered (.inl rfl))
  | cleared => exact .inl (answered (.inr rfl))
  | listed =>
      refine .inr ⟨target, waitsFor, ?_⟩
      have isListed : (⟨thread, msg, call⟩ : SendMessage Handler Data) ∈ state.sendlist target :=
        (tracked.listed target ⟨thread, msg, call⟩).mpr isCall
      have some : state.Pending target .sends := List.ne_nil_of_mem isListed
      by_cases isAsleep : state.Asleep target
      · obtain ⟨frame, behind, top, waits, _⟩ := id isAsleep
        obtain ⟨waker, waking⟩ :=
          alert.waking_of_pending isAsleep top (Frame.needs_sends waits) some
        exact .inr (.inl ⟨waker, works waking⟩)
      · exact .inl isAsleep
  | handling =>
      refine .inr ⟨target, waitsFor, ?_⟩
      have isHandled : (⟨thread, msg, call⟩ : SendMessage Handler Data) ∈ state.handled target :=
        (tracked.handling target ⟨thread, msg, call⟩).mpr isCall
      obtain ⟨handler, member, isHandler⟩ := List.mem_filterMap.mp isHandled
      by_cases isAsleep : state.Asleep target
      · obtain ⟨frame, behind, top, waits, _⟩ := id isAsleep
        rw [top] at member
        refine .inr (.inr ?_)
        have isBelow : handler ∈ behind := by
          refine (List.mem_cons.mp member).resolve_left fun isTop => ?_
          rw [isTop] at isHandler
          rw [Frame.waits_of_handled isHandler] at waits
          cases waits
        cases frame with
        | get phase =>
            rw [alert.below_get top] at isBelow
            cases isBelow
        | send newer again phase =>
            have pairs := ordered target
            rw [top, List.pairwise_cons] at pairs
            cases phase with
            | wait => exact ⟨newer, again, behind, top, pairs.1 handler isBelow newer rfl _ isHandler⟩
            | test | sends | enter => cases waits
        | event | onMessage | lockSend | lockPost | lockDelayPost | wakeUp | receiveSends | clear =>
            cases waits
      · exact .inl isAsleep

/-- Chains of calls end. -/
theorem Alert.exists_awake (alert : state.Alert) (tracked : state.Tracked) (ordered : state.Ordered)
    {call : Nat} {waited : Bool} (stack : state.stack thread = .send call waited .wait :: below) :
    ∃ last, Relation.ReflTransGen state.WaitsFor thread last ∧
      (¬state.Asleep last ∨ ∃ waker, state.WorksFor waker last) := by
  induction left : state.next - call using Nat.strongRecOn generalizing thread call waited below with
  | ind left inductionHypothesis =>
      by_cases asleep : state.Asleep thread
      · obtain works | ⟨target, waitsFor, awake | works | ⟨newer, again, behind, top, isNewer⟩⟩ :=
          alert.send_cases tracked ordered stack asleep
        · exact ⟨thread, .refl, .inr works⟩
        · exact ⟨target, .single waitsFor, .inl awake⟩
        · exact ⟨target, .single waitsFor, .inr works⟩
        · have inside : newer ∈ state.sending target := by
            rw [sending, top]
            exact List.mem_cons_self
          obtain ⟨_, _, _, isCall⟩ := tracked.sending target newer inside
          have known := tracked.lt_next isCall
          obtain ⟨last, chain, ends⟩ :=
            inductionHypothesis (state.next - newer) (by omega) top rfl
          exact ⟨last, .head waitsFor chain, ends⟩
      · exact ⟨thread, .refl, .inl asleep⟩

end Threads

/-! ## Runs -/

section

variable {Handler Data : Type} [DecidableEq Handler]

/-- The message loop is not entered in a handler. -/
def NotNested (state : Threads Handler Data) (label : Nat × ThreadAction Handler Data) : Prop :=
  label.2 = .get → state.stack label.1 = []

instance [DecidableEq Data] (state : Threads Handler Data)
    (label : Nat × ThreadAction Handler Data) : Decidable (NotNested state label) :=
  inferInstanceAs (Decidable (label.2 = .get → state.stack label.1 = []))

variable {labels : List (Nat × ThreadAction Handler Data)} {final : Threads Handler Data}
  {outputs : List (ThreadEvent Handler Data)} {thread : Nat}

/-- Every reachable state is alert, and its stacks are ordered. -/
theorem alert_of_run (run : threadMachine.RunWhere NotNested Threads.new labels final outputs) :
    final.Tracked ∧ final.Alert ∧ final.Ordered := by
  refine run.invariant (fun _ state _ => state.Tracked ∧ state.Alert ∧ state.Ordered)
    ⟨Threads.tracked_new, Threads.alert_new, fun _ => .nil⟩ ?_
  intro labels state outputs label next emitted ⟨tracked, alert, ordered⟩ notNested step
  have transition : Threads.Transition state False label.1 next emitted :=
    Threads.transition_of_step (fun isGet => .inr (notNested isGet)) step
  exact ⟨tracked.transition transition, alert.transition tracked transition,
    ordered.transition tracked transition⟩

/-- In every interleaving of any number of threads, a thread sleeps in `Send` with its call answered or
with sends to receive, or in `Get` with sends, posted messages or a `Quit` to see to, only while
another thread is at its call of `WakeUp` for it, unless some handler runs a message loop. -/
theorem woken_of_pending
    (run : threadMachine.RunWhere NotNested Threads.new labels final outputs)
    (asleep : final.Asleep thread) :
    (∀ call waited below, final.stack thread = .send call waited .wait :: below →
      final.ready call = true ∨ final.sendlist thread ≠ [] → ∃ waker, final.Waking waker thread) ∧
    ∀ below, final.stack thread = .get .wait :: below →
      final.sendlist thread ≠ [] ∨ (final.queue thread).msgq ≠ [] ∨
        (final.queue thread).fStop = true → ∃ waker, final.Waking waker thread := by
  obtain ⟨tracked, alert, _⟩ := alert_of_run run
  constructor
  · rintro call waited below stack (isReady | some)
    · have inside : call ∈ final.sending thread := by
        rw [Threads.sending, stack]
        exact List.mem_cons_self
      obtain ⟨_, _, _, isCall⟩ := tracked.sending thread call inside
      exact alert.waking_of_pending asleep stack (.inl rfl)
        (⟨isReady, _, isCall, rfl⟩ : final.Pending thread (.ready call))
    · exact alert.waking_of_pending asleep stack (.inr rfl) some
  · rintro below stack (some | posted | stopped)
    · exact alert.waking_of_pending asleep stack (.inl rfl) some
    · exact alert.waking_of_pending asleep stack (.inr (.inl rfl)) posted
    · exact alert.waking_of_pending asleep stack (.inr (.inr rfl)) stopped

/-- Sends never deadlock, in a circle or otherwise: whoever waits in `Send` waits, through the calls of
the handlers it waits for, for a thread that is awake or that an awake thread is waking. -/
theorem send_reaches_awake
    (run : threadMachine.RunWhere NotNested Threads.new labels final outputs) {call : Nat}
    {waited : Bool} {below : List (Frame Handler Data)}
    (stack : final.stack thread = .send call waited .wait :: below) :
    ∃ last, Relation.ReflTransGen final.WaitsFor thread last ∧
      (¬final.Asleep last ∨ ∃ waker, final.WorksFor waker last) := by
  obtain ⟨tracked, alert, ordered⟩ := alert_of_run run
  exact alert.exists_awake tracked ordered stack

end

/-- A thread sleeps in `Get`, and another one has put a message in its queue. -/
def postToSleeper : List (Nat × ThreadAction Nat Nat) :=
  [(0, .get), (0, .proceed 5), (0, .proceed 5), (0, .proceed 5), (0, .proceed 5),
    (1, .post 0 ⟨some 7, 3, none⟩), (1, .proceed 5)]

/-- A message is posted to a sleeping thread, whose waker is there. -/
theorem woken_of_pending_post : ∃ final outputs,
    threadMachine.RunWhere NotNested Threads.new postToSleeper final outputs ∧
      ∃ waker, final.Waking waker 0 := by
  have permitted : threadMachine.permits (fun state label => decide (NotNested state label))
      Threads.new postToSleeper = true := by
    decide +kernel
  have checked : (threadMachine.exec Threads.new postToSleeper).any (fun result =>
      decide (result.1.stack 0 = [.get .wait]) && result.1.fWait 0 && !result.1.signaled 0 &&
        decide ((result.1.queue 0).msgq ≠ [])) = true := by
    decide +kernel
  obtain ⟨final, outputs, run, isFinal⟩ :=
    Machine.exists_runWhere_of_exec (fun _ _ => of_decide_eq_true) permitted checked
  simp only [Bool.and_eq_true, Bool.not_eq_true', decide_eq_true_eq] at isFinal
  obtain ⟨⟨⟨stack, wait⟩, notSignaled⟩, posted⟩ := isFinal
  exact ⟨final, outputs, run, (woken_of_pending run ⟨_, _, stack, rfl, wait, notSignaled⟩).2 _ stack
    (.inr (.inl posted))⟩

/-- Two threads send to each other. -/
def crossing : List (Nat × ThreadAction Nat Nat) :=
  [(0, .send 1 ⟨some 7, 3, none⟩), (1, .send 0 ⟨some 8, 4, none⟩), (0, .proceed 5), (0, .proceed 5),
    (0, .proceed 5), (0, .proceed 5), (0, .proceed 5), (1, .proceed 5)]

/-- Two threads send to each other and wait; one of them is about to be woken. -/
theorem send_reaches_awake_crossing : ∃ final outputs,
    threadMachine.RunWhere NotNested Threads.new crossing final outputs ∧
      ∃ last, Relation.ReflTransGen final.WaitsFor 0 last ∧
        (¬final.Asleep last ∨ ∃ waker, final.WorksFor waker last) := by
  have permitted : threadMachine.permits (fun state label => decide (NotNested state label))
      Threads.new crossing = true := by
    decide +kernel
  have checked : (threadMachine.exec Threads.new crossing).any (fun result =>
      decide (result.1.stack 0 = [.send 0 false .wait])) = true := by
    decide +kernel
  obtain ⟨final, outputs, run, isFinal⟩ :=
    Machine.exists_runWhere_of_exec (fun _ _ => of_decide_eq_true) permitted checked
  exact ⟨final, outputs, run, send_reaches_awake run (of_decide_eq_true isFinal)⟩

end VzSdk.Event
