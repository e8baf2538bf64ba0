import VzSdk.Base.SignalThread

/-!
# The life of a worker object

`Lifecycle` is what the header promises of a `SignalThread`: rounds of work, each
reported once, until it is destroyed or given up, and nothing after the object is
deleted. Every proper run keeps to it. An object that has been released or
destroyed is deleted as soon as the worker and the main thread have gone on far
enough, in whatever order they do.
-/

namespace VzSdk.Base

open VzSdk.Std

/-- What has happened to an object so far. -/
structure Lifecycle where
  phase : LifePhase
  /-- `Destroy` has come during a round. -/
  stopped : Bool
  /-- A round has been reported. -/
  again : Bool
  /-- The messages that the worker has not dispatched. -/
  waiting : Nat
  deleted : Bool
deriving DecidableEq, Repr

namespace Lifecycle

/-- The life of a new object. -/
def new : Lifecycle := ⟨.idle, false, false, 0, false⟩

/-- What may happen next. -/
def next (life : Lifecycle) (event : SignalEvent) : Option Lifecycle :=
  if life.deleted then none else
  match event with
  | .onWorkStart =>
      if life.phase = .idle ∧ life.stopped = false then some { life with phase := .working } else none
  | .workerPosted =>
      if life.stopped = false ∧ life.again = false then
        some { life with waiting := life.waiting + 1 }
      else
        none
  | .continueWork dispatched late result =>
      if life.phase = .working ∧ dispatched ≤ life.waiting ∧ (late = true → 0 < dispatched) ∧
          result = (late || (!life.stopped && !life.again)) then
        some { life with waiting := life.waiting - dispatched }
      else
        none
  | .doWork => if life.phase = .working then some { life with phase := .worked } else none
  | .onWorkStop => if life.stopped = false then some { life with stopped := true } else none
  | .onWorkDone => if life.phase = .worked then some { life with phase := .done } else none
  | .signalWorkDone =>
      if life.phase = .done ∧ life.stopped = false then
        some { life with phase := .idle, again := true }
      else
        none
  | .refused => if life.phase = .working then some { life with phase := .refused } else none
  | .delete =>
      if life.phase = .idle ∨ life.stopped = true ∧ life.phase ≠ .working then
        some { life with deleted := true }
      else
        none

/-- The events may follow each other. -/
def follow (life : Lifecycle) (events : List SignalEvent) : Option Lifecycle :=
  events.foldlM next life

end Lifecycle

namespace SignalThread

/-- The life knows whether the worker is to stop, and what it still has to dispatch. -/
structure Flags (thread : SignalThread) (life : Lifecycle) : Prop where
  stopped : life.stopped = true ↔ thread.state = .stopping
  fStop : thread.fStop = true ↔
    life.stopped = true ∨ life.again = true ∨ ∃ doDelete, .doneStop doDelete ∈ thread.frames
  waiting : life.waiting = thread.queued

/-- The life is as far as the round of work that is in hand. -/
structure Rounds (thread : SignalThread) (life : Lifecycle) : Prop where
  idle : thread.state = .init ∨ thread.state = .complete →
    life.phase = .idle ∨ .doneStop false ∈ thread.frames
  inHand : ∀ phase ∈ thread.inHand, life.phase = phase
  working : life.phase = .working → .working ∈ thread.inHand
  /-- An object that only calls keep is between two rounds, or was stopped. -/
  left : thread.refcount = thread.frames.length → life.phase = .idle ∨ thread.state = .stopping

/-- The life that the object is in. -/
structure Lives (thread : SignalThread) (life : Lifecycle) : Prop where
  here : life.deleted = false
  flags : thread.Flags life
  rounds : thread.Rounds life

/-- The life of an object that may be deleted. -/
inductive Told (thread : SignalThread) (life : Lifecycle) : Prop where
  | here (here : thread.deleted = false) (lives : thread.Lives life)
  | gone (gone : thread.deleted = true) (ended : life.deleted = true)

/-- A step whose events go on with the life. -/
def Goes (life : Lifecycle) (result : SignalThread × List SignalEvent) : Prop :=
  ∃ after, life.follow result.2 = some after ∧ Told result.1 after

variable {thread after : SignalThread} {life later : Lifecycle}

/-- The flags stay where the state and the main thread's waiting do. -/
theorem Flags.congr (flags : thread.Flags life) (state : after.state = .stopping ↔ thread.state = .stopping)
    (fStop : after.fStop = thread.fStop) (queued : after.queued = thread.queued)
    (stops : ∀ doDelete, .doneStop doDelete ∈ after.frames ↔ .doneStop doDelete ∈ thread.frames)
    (stopped : later.stopped = life.stopped) (again : later.again = life.again)
    (waiting : later.waiting = life.waiting) : after.Flags later where
  stopped := by rw [stopped, state, flags.stopped]
  fStop := by
    rw [fStop, stopped, again, flags.fStop]
    simp only [stops]
  waiting := by rw [waiting, queued, flags.waiting]

/-- They also stay where user code returns. -/
theorem Flags.pop (flags : thread.Flags life) {frame : SignalFrame} {below : List SignalFrame}
    (frames : thread.frames = frame :: below) (isUser : frame.isUserCode = true)
    (left : after.frames = below) (state : after.state = thread.state)
    (fStop : after.fStop = thread.fStop) (queued : after.queued = thread.queued)
    (stopped : later.stopped = life.stopped) (again : later.again = life.again)
    (waiting : later.waiting = life.waiting) : after.Flags later := by
  refine flags.congr (by rw [state]) fStop queued (fun doDelete => ?_) stopped again waiting
  rw [frames, left, List.mem_cons]
  exact (or_iff_right fun is => by rw [← is] at isUser; cases isUser).symm

/-- Without a call that ends in `worker_.Stop()`, the worker is to stop once it was told. -/
theorem Flags.fStop_of_user (flags : thread.Flags life)
    (noStop : ∀ doDelete, .doneStop doDelete ∉ thread.frames) :
    thread.fStop = (life.stopped || life.again) := by
  rw [Bool.eq_iff_iff, flags.fStop, Bool.or_eq_true]
  simp only [noStop, exists_false, or_false]

/-- The work in hand stays. -/
theorem Rounds.congr (rounds : thread.Rounds life) (work : after.inHand = thread.inHand)
    (phase : later.phase = life.phase)
    (idle : after.state = .init ∨ after.state = .complete →
      (thread.state = .init ∨ thread.state = .complete) ∧
        (.doneStop false ∈ thread.frames → .doneStop false ∈ after.frames))
    (left : after.refcount = after.frames.length →
      (thread.refcount = thread.frames.length ∧ (thread.state = .stopping → after.state = .stopping)) ∨
        later.phase = .idle ∨ after.state = .stopping) : after.Rounds later where
  idle rest := by
    obtain ⟨rest, stays⟩ := idle rest
    rw [phase]
    exact (rounds.idle rest).imp_right stays
  inHand := by
    rw [work, phase]
    exact rounds.inHand
  working := by
    rw [work, phase]
    exact rounds.working
  left last := by
    rcases left last with ⟨last, stays⟩ | isLeft
    · rw [phase]
      exact (rounds.left last).imp_right stays
    · exact isLeft

/-- The round in hand is as far as the life. -/
theorem rounds_single {phase : LifePhase} (work : thread.inHand = [phase])
    (isPhase : life.phase = phase)
    (idle : thread.state = .init ∨ thread.state = .complete → .doneStop false ∈ thread.frames)
    (counted : thread.refcount = thread.frames.length + 1) : thread.Rounds life where
  idle rest := .inr (idle rest)
  inHand other isIn := by
    rw [work] at isIn
    rw [List.mem_singleton.mp isIn, isPhase]
  working isWorking := by
    rw [work, ← isPhase, isWorking]
    exact List.mem_singleton_self _
  left last := by omega

/-- Nothing is in hand. -/
theorem rounds_nil (work : thread.inHand = []) (notWorking : life.phase ≠ .working)
    (idle : thread.state = .init ∨ thread.state = .complete → life.phase = .idle)
    (left : thread.refcount = thread.frames.length →
      life.phase = .idle ∨ thread.state = .stopping) : thread.Rounds life where
  idle rest := .inl (idle rest)
  inHand other isIn := by
    rw [work] at isIn
    cases isIn
  working isWorking := absurd isWorking notWorking
  left := left

/-- A step without events goes on with the same life. -/
theorem goes_silent (here : thread.deleted = false) (lives : thread.Lives life) :
    Goes life (thread, []) :=
  ⟨life, rfl, .here here lives⟩

/-- A step with one event goes on with the life behind it. -/
theorem goes_single {event : SignalEvent} (next : life.next event = some later)
    (here : thread.deleted = false) (lives : thread.Lives later) : Goes life (thread, [event]) :=
  ⟨later, by rw [Lifecycle.follow, List.foldlM_cons, next]; rfl, .here here lives⟩

/-- The last call leaves an object whose round is over, or was stopped. -/
theorem goes_exit (here : thread.deleted = false) (sound : Sound thread.exit.1)
    (lives : Lives { thread with refcount := thread.refcount - 1 } life) :
    Goes life thread.exit := by
  rw [exit] at sound ⊢
  split at sound
  · next last =>
    rw [if_pos last]
    cases sound with
    | here here => cases here
    | gone _ frames _ worker =>
      have frames : thread.frames = [] := frames
      have notWorking : life.phase ≠ .working := by
        intro isWorking
        have isIn : LifePhase.working ∈ thread.inHand := lives.rounds.working isWorking
        have noPhase : thread.worker.phase = none := isStopped_iff_phase.mp worker
        rw [inHand, frames, noPhase] at isIn
        cases List.eq_of_mem_replicate isIn
      have mayEnd : life.phase = .idle ∨ life.stopped = true ∧ life.phase ≠ .working := by
        rcases lives.rounds.left (by simp only [last, frames, List.length_nil]; rfl) with
          isIdle | stopping
        · exact .inl isIdle
        · exact .inr ⟨lives.flags.stopped.mpr stopping, notWorking⟩
      have next : life.next .delete = some { life with deleted := true } := by
        simp only [Lifecycle.next, lives.here, Bool.false_eq_true, if_false, if_pos mayEnd]
      exact ⟨_, by rw [Lifecycle.follow, List.foldlM_cons, next]; rfl, .gone rfl rfl⟩
  · next more =>
    rw [if_neg more]
    exact goes_silent here lives

section Here

variable (here : thread.deleted = false) (kept : thread.Kept) (lives : thread.Lives life)

include here lives

/-- A member that does nothing goes on with the life. -/
theorem goes_still (sound : Sound thread.enter.exit.1) : Goes life thread.enter.exit :=
  goes_exit here sound (leave_enter.symm ▸ lives)

include kept

/-- Who gives back the count of an object at rest leaves it idle. -/
theorem goes_letGo (user : thread.isUserCode = true)
    (rest : thread.state = .init ∨ thread.state = .complete)
    (sound : Sound (exit { thread.enter with refcount := thread.enter.refcount - 1 }).1) :
    Goes life (exit { thread.enter with refcount := thread.enter.refcount - 1 }) := by
  have isIdle := (lives.rounds.idle rest).resolve_right (kept.not_doneStop user)
  refine goes_exit here sound ⟨lives.here, ?_, ?_⟩
  · exact lives.flags.congr .rfl rfl rfl (fun _ => .rfl) rfl rfl rfl
  · exact lives.rounds.congr rfl rfl (fun rest => ⟨rest, id⟩) fun _ => .inr (.inl isIdle)

/-- `Start` begins a round. -/
theorem goes_start (user : thread.isUserCode = true) (proper : thread.Proper .start)
    (sound : Sound thread.start.1) : Goes life thread.start := by
  rw [start] at sound ⊢
  split at sound
  · next rest =>
    rw [if_pos rest]
    have noWork := (kept.atRest user rest).1
    have few := kept.account.2
    have own : thread.frames.length < thread.refcount := proper rest
    have isIdle := (lives.rounds.idle rest).resolve_right (kept.not_doneStop user)
    have notStopping : thread.state ≠ .stopping := by
      rintro stopping
      rcases rest with is | is <;> cases is.symm.trans stopping
    have notStopped : life.stopped = false :=
      eq_false_of_ne_true (mt lives.flags.stopped.mp notStopping)
    have next : life.next .onWorkStart = some { life with phase := .working } := by
      simp only [Lifecycle.next, lives.here, Bool.false_eq_true, if_false,
        if_pos (And.intro isIdle notStopped)]
    refine goes_single next here ⟨lives.here, ?_, ?_⟩
    · refine lives.flags.congr ?_ rfl rfl ?_ rfl rfl rfl
      · simp [notStopping]
      · simp
    · refine rounds_single (congrArg (List.cons LifePhase.working) noWork) rfl (by simp) ?_
      simp only [enter, List.length_cons]
      omega
  · next work =>
    rw [if_neg work]
    exact goes_still here lives sound

/-- `Destroy` stops the round, or ends the object between two rounds. -/
theorem goes_destroy (user : thread.isUserCode = true) {wait : Bool}
    (sound : Sound (thread.destroy wait).1) : Goes life (thread.destroy wait) := by
  rw [destroy] at sound ⊢
  split at sound
  · next rest =>
    rw [if_pos rest]
    exact goes_letGo here kept lives user rest sound
  next work =>
  rw [if_neg work]
  split at sound
  · next works =>
    rw [if_pos works]
    have notStopping : thread.state ≠ .stopping := by
      rintro stopping
      rcases works with is | is <;> cases is.symm.trans stopping
    have notStopped : life.stopped = false :=
      eq_false_of_ne_true (mt lives.flags.stopped.mp notStopping)
    have next : life.next .onWorkStop = some { life with stopped := true } := by
      simp only [Lifecycle.next, lives.here, Bool.false_eq_true, if_false, if_pos notStopped]
    refine goes_single next here ⟨lives.here, ⟨?_, ?_, lives.flags.waiting⟩, ?_⟩
    · exact iff_of_true rfl rfl
    · exact iff_of_true rfl (.inl rfl)
    · exact lives.rounds.congr rfl rfl (by simp) fun _ => .inr (.inr rfl)
  · next stops =>
    rw [if_neg stops]
    exact goes_still here lives sound

/-- `Release` lets the object go, between two rounds at once. -/
theorem goes_release (user : thread.isUserCode = true) (sound : Sound thread.release.1) :
    Goes life thread.release := by
  rw [release] at sound ⊢
  split at sound
  · next rest =>
    rw [if_pos rest]
    exact goes_letGo here kept lives user (.inr rest) sound
  next work =>
  rw [if_neg work]
  split at sound
  · next running =>
    rw [if_pos running]
    have notStopping : thread.state ≠ .stopping := by simp [running]
    refine goes_exit here sound ⟨lives.here, ?_, ?_⟩
    · exact lives.flags.congr (by simp [notStopping]) rfl rfl (fun _ => .rfl) rfl rfl rfl
    · refine lives.rounds.congr rfl rfl (by simp) fun last => .inl ⟨?_, fun is => absurd is notStopping⟩
      simp only [enter] at last
      omega
  · next stops =>
    rw [if_neg stops]
    exact goes_still here lives sound

/-- The worker's message reports its round. -/
theorem goes_onMessage (posted : 0 < thread.posted) : Goes life thread.onMessage := by
  obtain ⟨before, without⟩ := kept.of_posted posted
  have account := kept.account
  have isWorked : life.phase = .worked := lives.rounds.inHand _ (before ▸ List.mem_singleton_self _)
  have next : life.next .onWorkDone = some { life with phase := .done } := by
    simp only [Lifecycle.next, lives.here, Bool.false_eq_true, if_false, if_pos isWorked]
  rw [before, List.length_singleton] at account
  refine goes_single next here ⟨lives.here, ?_, ?_⟩
  · exact lives.flags.congr .rfl rfl rfl (by simp) rfl rfl rfl
  · refine rounds_single (congrArg (List.cons LifePhase.done) without) rfl ?_ ?_
    · intro rest
      rcases kept.idle rest with ⟨noWork, _⟩ | isIn
      · cases before.symm.trans noWork
      · exact List.mem_cons_of_mem _ isIn
    · simp only [enter, List.length_cons]
      omega

/-- The end of `OnWorkDone` ends the round. -/
theorem goes_workIsDone {below : List SignalFrame} (frames : thread.frames = .onWorkDone :: below)
    (sound : Sound (thread.workIsDone below).1) : Goes life (thread.workIsDone below) := by
  have counted := kept.account_of_frames frames rfl
  have noWork := kept.below_idle frames rfl
  have isDone : life.phase = .done :=
    lives.rounds.inHand _ (phase_mem_inHand (frames ▸ List.mem_cons_self) rfl)
  have works := kept.not_rest_of_frames frames rfl rfl
  by_cases stopping : thread.state = .stopping
  · rw [workIsDone_stopping stopping] at sound ⊢
    refine goes_exit here sound ⟨lives.here, ?_, ?_⟩
    · exact lives.flags.pop frames rfl rfl rfl rfl rfl rfl rfl rfl
    · refine rounds_nil noWork (by simp [isDone]) (fun rest => absurd rest works)
        fun _ => .inr stopping
  have stopped : life.stopped = true ↔ thread.state = .stopping := lives.flags.stopped
  by_cases running : thread.state = .running
  · rw [workIsDone_running running]
    refine goes_silent here ⟨lives.here, ⟨?_, ?_, lives.flags.waiting⟩, ?_⟩
    · simp [stopped, stopping]
    · exact iff_of_true rfl (.inr (.inr ⟨false, List.mem_cons_self⟩))
    · refine rounds_single (congrArg (List.cons LifePhase.done) noWork) isDone
        (fun _ => List.mem_cons_self) ?_
      simp only [List.length_cons]
      omega
  · rw [workIsDone_released running stopping]
    refine goes_silent here ⟨lives.here, ⟨stopped, ?_, lives.flags.waiting⟩, ?_⟩
    · exact iff_of_true rfl (.inr (.inr ⟨true, List.mem_cons_self⟩))
    · refine rounds_single (congrArg (List.cons LifePhase.done) noWork) isDone
        (fun rest => absurd rest works) ?_
      simp only [List.length_cons]
      omega

omit kept in
/-- A call that is not at work is left, and the life goes on as it was. -/
theorem goes_leave {frame : SignalFrame} {below : List SignalFrame}
    (frames : thread.frames = frame :: below) (isUser : frame.isUserCode = true)
    (resting : frame.phase = none) (sound : Sound (exit { thread with frames := below }).1) :
    Goes life (exit { thread with frames := below }) := by
  have length : thread.frames.length = below.length + 1 := congrArg List.length frames
  have sameWork : inHand { thread with frames := below } = thread.inHand := by
    rw [inHand_of_frames frames, resting]
    rfl
  refine goes_exit here sound ⟨lives.here, ?_, ?_⟩
  · exact lives.flags.pop frames isUser rfl rfl rfl rfl rfl rfl rfl
  · refine lives.rounds.congr sameWork rfl (fun rest => ⟨rest, fun isIn => ?_⟩)
      fun last => .inl ⟨?_, id⟩
    · rw [frames] at isIn
      refine (List.mem_cons.mp isIn).resolve_left fun isTop => ?_
      rw [← isTop] at isUser
      cases isUser
    · simp only at last
      omega

/-- The owner is told once that the work of the round is done. -/
theorem goes_report {doDelete : Bool} {below : List SignalFrame}
    (frames : thread.frames = .doneStop doDelete :: below) :
    Goes life ({ thread with worker := .none, frames := .signalWorkDone doDelete :: below },
      [.signalWorkDone]) := by
  have isDone : life.phase = .done :=
    lives.rounds.inHand _ (phase_mem_inHand (frames ▸ List.mem_cons_self) rfl)
  have state := kept.ends doDelete (frames ▸ List.mem_cons_self)
  have notStopping : thread.state ≠ .stopping := by
    rw [state]
    cases doDelete <;> simp
  have notStopped : life.stopped = false :=
    eq_false_of_ne_true (mt lives.flags.stopped.mp notStopping)
  have toStop : thread.fStop = true :=
    lives.flags.fStop.mpr (.inr (.inr ⟨doDelete, frames ▸ List.mem_cons_self⟩))
  have next : life.next .signalWorkDone = some { life with phase := .idle, again := true } := by
    simp only [Lifecycle.next, lives.here, Bool.false_eq_true, if_false,
      if_pos (And.intro isDone notStopped)]
  refine goes_single next here ⟨lives.here, ⟨?_, ?_, lives.flags.waiting⟩, ⟨?_, ?_, ?_, ?_⟩⟩
  · exact lives.flags.stopped
  · exact iff_of_true toStop (.inr (.inl rfl))
  · exact fun _ => .inl rfl
  · intro phase isIn
    rw [kept.reported frames] at isIn
    cases doDelete with
    | true => exact (List.mem_singleton.mp isIn).symm
    | false => cases isIn
  · intro isWorking
    cases isWorking
  · exact fun _ => .inl rfl

/-- Going on within a member goes on with the life. -/
theorem goes_goOn {frame : SignalFrame} {below : List SignalFrame}
    {result : SignalThread × List SignalEvent} (frames : thread.frames = frame :: below)
    (success : thread.goOn frame below = some result) (sound : Sound result.1) : Goes life result := by
  cases frame with
  | onWorkStart =>
    cases success
    have counted := kept.account_of_frames frames rfl
    have noWorker : thread.worker = .none := kept.starts (frames ▸ List.mem_cons_self)
    have isWorking : life.phase = .working :=
      lives.rounds.inHand _ (phase_mem_inHand (frames ▸ List.mem_cons_self) rfl)
    rw [if_pos noWorker] at sound ⊢
    refine goes_exit here sound ⟨lives.here, ?_, ?_⟩
    · exact lives.flags.pop frames rfl rfl rfl rfl rfl rfl rfl rfl
    · refine rounds_single (kept.begun frames) isWorking
        (fun rest => absurd rest (kept.not_rest_of_frames frames rfl rfl)) ?_
      simp only
      omega
  | onWorkStop wait =>
    cases wait with
    | true =>
      cases success
      have sameWork : inHand { thread with frames := below } = thread.inHand :=
        (inHand_of_frames frames).symm
      obtain ⟨stopping, _⟩ := kept.waits (.inl (frames ▸ List.mem_cons_self))
      refine goes_silent here ⟨lives.here, ?_, ?_⟩
      · exact lives.flags.congr .rfl rfl rfl (by simp [frames]) rfl rfl rfl
      · exact lives.rounds.congr sameWork rfl (by simp [stopping]) fun _ => .inr (.inr stopping)
    | false =>
      cases success
      exact goes_leave here lives frames rfl rfl sound
  | destroyStop =>
    rw [goOn] at success
    split at success
    · next stopped =>
      cases success
      obtain ⟨stopping, _⟩ := kept.waits (.inr (frames ▸ List.mem_cons_self))
      have noPhase : thread.worker.phase = none := isStopped_iff_phase.mp stopped
      have sameWork : inHand { thread with worker := .none, frames := below } = thread.inHand := by
        rw [inHand_of_frames frames, inHand, inHand, noPhase]
        rfl
      refine goes_exit here sound ⟨lives.here, ?_, ?_⟩
      · exact lives.flags.congr .rfl rfl rfl (by simp [frames]) rfl rfl rfl
      · exact lives.rounds.congr sameWork rfl (by simp [stopping]) fun _ => .inr (.inr stopping)
    · cases success
  | onWorkDone =>
    cases success
    exact goes_workIsDone here kept lives frames sound
  | doneStop doDelete =>
    rw [goOn] at success
    split at success
    · cases success
      exact goes_report here kept lives frames
    · cases success
  | signalWorkDone doDelete =>
    cases success
    cases doDelete with
    | true =>
      have isIdle : life.phase = .idle :=
        lives.rounds.inHand _ (phase_mem_inHand (frames ▸ List.mem_cons_self) rfl)
      refine goes_exit here sound ⟨lives.here, ?_, ?_⟩
      · exact lives.flags.pop frames rfl rfl rfl rfl rfl rfl rfl rfl
      · exact rounds_nil (kept.below_idle frames rfl) (by simp [isIdle]) (fun _ => isIdle)
          fun _ => .inl isIdle
    | false => exact goes_leave here lives frames rfl rfl sound

/-- A worker that cannot start leaves the round begun. -/
theorem goes_refuse {below : List SignalFrame} (frames : thread.frames = .onWorkStart :: below)
    (sound : Sound (exit { thread with frames := below }).1) :
    Goes life ((exit { thread with frames := below }).1,
      .refused :: (exit { thread with frames := below }).2) := by
  have counted := kept.account_of_frames frames rfl
  have isWorking : life.phase = .working :=
    lives.rounds.inHand _ (phase_mem_inHand (frames ▸ List.mem_cons_self) rfl)
  have next : life.next .refused = some { life with phase := .refused } := by
    simp only [Lifecycle.next, lives.here, Bool.false_eq_true, if_false, if_pos isWorking]
  have goes : Goes { life with phase := .refused } (exit { thread with frames := below }) := by
    refine goes_exit here sound ⟨lives.here, ?_, ?_⟩
    · exact lives.flags.pop frames rfl rfl rfl rfl rfl rfl rfl rfl
    · refine rounds_nil (kept.below_idle frames rfl) (by simp)
        (fun rest => absurd rest (kept.not_rest_of_frames frames rfl rfl)) fun last => ?_
      simp only at last
      omega
  obtain ⟨after, follows, told⟩ := goes
  refine ⟨after, ?_, told⟩
  rw [Lifecycle.follow, List.foldlM_cons, next]
  exact follows

omit kept in
/-- A message for the worker waits. -/
theorem goes_postWorker : Goes life thread.postWorker := by
  rw [postWorker]
  split
  · exact goes_silent here lives
  · next goesOn =>
    have noStop : ¬(life.stopped = true ∨ life.again = true ∨
        ∃ doDelete, .doneStop doDelete ∈ thread.frames) := mt lives.flags.fStop.mpr goesOn
    have free : life.stopped = false ∧ life.again = false :=
      ⟨eq_false_of_ne_true fun is => noStop (.inl is),
        eq_false_of_ne_true fun is => noStop (.inr (.inl is))⟩
    have next : life.next .workerPosted = some { life with waiting := life.waiting + 1 } := by
      simp only [Lifecycle.next, lives.here, Bool.false_eq_true, if_false, if_pos free]
    refine goes_single next here ⟨lives.here, ?_, ?_⟩
    · exact ⟨lives.flags.stopped, lives.flags.fStop, congrArg (· + 1) lives.flags.waiting⟩
    · exact ⟨lives.rounds.idle, lives.rounds.inHand, lives.rounds.working, lives.rounds.left⟩

/-- The worker is told to go on as long as it was not told to stop, or when a dispatch was late. -/
theorem goes_continueWork {dispatched : Nat} {late : Bool} (worker : thread.worker = .doWork)
    (inQueue : dispatched ≤ thread.queued) (some : late = true → 0 < dispatched) :
    Goes life ({ thread with queued := thread.queued - dispatched },
      [.continueWork dispatched late (late || !thread.fStop)]) := by
  have isPhase : thread.worker.phase = .some .working := congrArg WorkerPhase.phase worker
  obtain ⟨noFrames, _⟩ := kept.main_idle isPhase
  have isWorking : life.phase = .working :=
    lives.rounds.inHand _ (worker_mem_inHand isPhase)
  have toStop : thread.fStop = (life.stopped || life.again) :=
    lives.flags.fStop_of_user fun _ => not_mem_of_idle noFrames rfl
  have next : life.next (.continueWork dispatched late (late || !thread.fStop)) =
      .some { life with waiting := life.waiting - dispatched } := by
    have may : life.phase = .working ∧ dispatched ≤ life.waiting ∧ (late = true → 0 < dispatched) ∧
        (late || !thread.fStop) = (late || (!life.stopped && !life.again)) := by
      refine ⟨isWorking, lives.flags.waiting ▸ inQueue, some, ?_⟩
      rw [toStop, Bool.not_or]
    simp only [Lifecycle.next, lives.here, Bool.false_eq_true, if_false, if_pos may]
  refine goes_single next here ⟨lives.here, ?_, ?_⟩
  · exact ⟨lives.flags.stopped, lives.flags.fStop, congrArg (· - dispatched) lives.flags.waiting⟩
  · exact ⟨lives.rounds.idle, lives.rounds.inHand, lives.rounds.working, lives.rounds.left⟩

/-- The work is done in the round that was begun. -/
theorem goes_endWork (worker : thread.worker = .doWork) :
    Goes life ({ thread with worker := .run }, [.doWork]) := by
  have isPhase : thread.worker.phase = some .working := congrArg WorkerPhase.phase worker
  obtain ⟨counted, _, works⟩ := kept.of_worker isPhase
  obtain ⟨noFrames, noMessage⟩ := kept.main_idle isPhase
  have isWorking : life.phase = .working :=
    lives.rounds.inHand _ (worker_mem_inHand isPhase)
  have next : life.next .doWork = some { life with phase := .worked } := by
    simp only [Lifecycle.next, lives.here, Bool.false_eq_true, if_false, if_pos isWorking]
  have worked : inHand { thread with worker := .run } = [.worked] := by
    simp only [inHand, noFrames, noMessage]
    rfl
  refine goes_single next here ⟨lives.here, ?_, ?_⟩
  · exact ⟨lives.flags.stopped, lives.flags.fStop, lives.flags.waiting⟩
  · exact rounds_single worked rfl (fun rest => absurd rest works) counted

/-- The message is posted, or is lost with the main thread. -/
theorem goes_post (worker : thread.worker = .run) (sound : Sound thread.post.1) :
    Goes life thread.post := by
  have isPhase : thread.worker.phase = some .worked := congrArg WorkerPhase.phase worker
  obtain ⟨counted, _, works⟩ := kept.of_worker isPhase
  obtain ⟨noFrames, noMessage⟩ := kept.main_idle isPhase
  have isWorked : life.phase = .worked :=
    lives.rounds.inHand _ (worker_mem_inHand isPhase)
  refine goes_exit here sound ⟨lives.here, ?_, ⟨?_, ?_, ?_, ?_⟩⟩
  · exact ⟨lives.flags.stopped, lives.flags.fStop, lives.flags.waiting⟩
  · exact fun rest => absurd rest works
  · intro phase isIn
    have noFrames : (enter thread).frames.filterMap SignalFrame.phase = [] := noFrames
    simp only [inHand, noFrames] at isIn
    rw [List.eq_of_mem_replicate isIn, isWorked]
  · intro isWorking
    cases isWorked.symm.trans isWorking
  · intro last
    simp only [enter] at last
    omega

omit kept in
/-- The end of the main thread destroys the object. -/
theorem goes_destroyMain (sound : Sound thread.destroyMain.1) : Goes life thread.destroyMain := by
  rw [destroyMain, if_neg (ne_true_of_eq_false here)] at sound ⊢
  refine goes_exit here sound ⟨lives.here, ?_, ⟨?_, ?_, ?_, ?_⟩⟩
  · exact ⟨lives.flags.stopped, lives.flags.fStop, lives.flags.waiting⟩
  · exact lives.rounds.idle
  · exact fun phase isIn => lives.rounds.inHand phase (mem_inHand.mpr (.inl isIn))
  · intro isWorking
    have isIn := lives.rounds.working isWorking
    rcases mem_inHand.mp isIn with isIn | ⟨_, isWorked⟩
    · exact isIn
    · cases isWorked
  · intro last
    simp only [enter] at last
    exact lives.rounds.left (by omega)

end Here

/-- A proper step goes on with the life of the object. -/
theorem goes_stepped {action : SignalAction} {result : SignalThread × List SignalEvent}
    (sound : thread.Sound) (told : thread.Told life) (proper : thread.Proper action)
    (stepped : thread.Stepped action result) : Goes life result := by
  have soundNext := sound_stepped sound proper stepped
  cases sound with
  | here here held kept =>
    have lives : thread.Lives life := by
      cases told with
      | here _ lives => exact lives
      | gone gone _ => exact absurd (here.symm.trans gone) Bool.false_ne_true
    cases stepped with
    | start can => exact goes_start here kept lives (user_of_canCall can) proper soundNext
    | destroy can => exact goes_destroy here kept lives (user_of_canCall can) soundNext
    | release can => exact goes_release here kept lives (user_of_canCall can) soundNext
    | dispatch _ posted => exact goes_onMessage here kept lives posted
    | goOn frames success => exact goes_goOn here kept lives frames success soundNext
    | refuse frames =>
      exact goes_refuse here kept lives frames (sound_refuse here kept frames)
    | postWorker => exact goes_postWorker here lives
    | continueWork worker inQueue some => exact goes_continueWork here kept lives worker inQueue some
    | endWork worker => exact goes_endWork here kept lives worker
    | post worker => exact goes_post here kept lives worker soundNext
    | quitMain =>
      obtain ⟨lifeHere, ⟨stopped, fStop, waiting⟩, ⟨idle, inHand, working, left⟩⟩ := lives
      exact goes_silent here ⟨lifeHere, ⟨stopped, fStop, waiting⟩, ⟨idle, inHand, working, left⟩⟩
    | destroyMain => exact goes_destroyMain here lives soundNext
  | gone gone frames posted worker =>
    have ended : life.deleted = true := by
      cases told with
      | here here _ => exact absurd (here.symm.trans gone) Bool.false_ne_true
      | gone _ ended => exact ended
    obtain ⟨_, same⟩ | ⟨_, same⟩ := stepped_of_gone gone frames posted worker stepped
    · cases same
      exact ⟨life, rfl, .gone gone ended⟩
    · cases same
      exact ⟨life, rfl, .gone gone ended⟩

/-- Nothing has happened to a new object. -/
theorem told_new : Told new .new := by
  refine .here rfl ⟨rfl, ⟨?_, ?_, rfl⟩, rounds_nil rfl ?_ (fun _ => rfl) fun _ => .inl rfl⟩
  · exact iff_of_false Bool.false_ne_true nofun
  · refine iff_of_false Bool.false_ne_true ?_
    rintro (is | is | ⟨_, isIn⟩)
    · cases is
    · cases is
    · cases isIn
  · exact nofun

/-- Every proper run is a life as the header promises it. -/
theorem lifecycle_of_run {actions : List SignalAction} {events : List SignalEvent}
    (run : machine.RunWhere Proper new actions thread events) :
    ∃ life, Lifecycle.new.follow events = some life ∧ life.deleted = thread.deleted := by
  have tells : Sound thread ∧ ∃ life, Lifecycle.new.follow events = some life ∧ Told thread life := by
    refine run.invariant (fun _ thread events =>
      Sound thread ∧ ∃ life, Lifecycle.new.follow events = some life ∧ Told thread life)
      ⟨sound_new, .new, rfl, told_new⟩ ?_
    rintro _ thread events action next emitted ⟨sound, life, follows, told⟩ proper success
    have stepped := stepped_of_step success
    obtain ⟨after, goesOn, toldNext⟩ := goes_stepped sound told proper stepped
    refine ⟨sound_stepped sound proper stepped, after, ?_, toldNext⟩
    rw [Lifecycle.follow, List.foldlM_append]
    rw [Lifecycle.follow] at follows goesOn
    rw [follows]
    exact goesOn
  obtain ⟨_, life, follows, told⟩ := tells
  refine ⟨life, follows, ?_⟩
  cases told with
  | here here lives => exact lives.here.trans here.symm
  | gone gone ended => exact ended.trans gone.symm

/-- The subclass is asked to stop in its second round, which nobody has stopped; a message that
was left takes so long that it is told to go on once more. -/
theorem lifecycle_of_run_again :
    ∃ life, Lifecycle.new.follow [.onWorkStart, .workerPosted, .workerPosted,
      .continueWork 1 false true, .doWork, .onWorkDone, .signalWorkDone, .onWorkStart,
      .continueWork 1 true true, .continueWork 0 false false, .doWork, .onWorkDone,
      .signalWorkDone, .delete] = some life ∧ life.deleted = true := by
  have run : machine.RunWhere Proper new
      [.start, .goOn, .postWorker, .postWorker, .continueWork 1 false, .endWork, .post, .dispatch,
        .goOn, .goOn, .start, .goOn, .release, .goOn, .continueWork 1 true, .continueWork 0 false,
        .postWorker, .endWork, .post, .dispatch, .goOn, .goOn, .goOn]
      ⟨.releasing, 0, true, .none, true, 0, [], 0, false, true⟩
      [.onWorkStart, .workerPosted, .workerPosted, .continueWork 1 false true, .doWork,
        .onWorkDone, .signalWorkDone, .onWorkStart, .continueWork 1 true true,
        .continueWork 0 false false, .doWork, .onWorkDone, .signalWorkDone, .delete] :=
    .of_permits (fun _ _ => of_decide_eq_true) (by decide) (by decide)
  exact lifecycle_of_run run

/-- Nothing of the worker or of the queue reaches an object that is deleted. -/
theorem untouched_of_deleted {actions : List SignalAction} {events : List SignalEvent}
    (run : machine.RunWhere Proper new actions thread events) (deleted : thread.deleted = true)
    {action : SignalAction} (touches : (thread.step action).isSome = true) :
    thread.isStopped = true ∧ (action = .quitMain ∨ action = .destroyMain) := by
  have sound : thread.Sound := by
    refine run.invariant (fun _ thread _ => thread.Sound) sound_new ?_
    intro _ thread _ action next emitted sound proper success
    exact sound_stepped sound proper (stepped_of_step success)
  obtain ⟨result, success⟩ := Option.isSome_iff_exists.mp touches
  have stepped := stepped_of_step success
  cases sound with
  | here here => exact absurd (here.symm.trans deleted) Bool.false_ne_true
  | gone gone frames posted worker =>
    refine ⟨worker, ?_⟩
    obtain ⟨quits, _⟩ | ⟨destroys, _⟩ := stepped_of_gone gone frames posted worker stepped
    · exact .inl quits
    · exact .inr destroys

/-- `Destroy` waits for the worker, whose message is then in the queue. -/
theorem untouched_of_deleted_wait :
    ∃ thread : SignalThread, thread.deleted = true ∧ thread.isStopped = true := by
  have run : machine.RunWhere Proper new
      [.start, .goOn, .destroy true, .goOn, .endWork, .post, .goOn]
      ⟨.stopping, 0, true, .none, true, 0, [], 0, false, true⟩
      [.onWorkStart, .onWorkStop, .doWork, .delete] :=
    .of_permits (fun _ _ => of_decide_eq_true) (by decide) (by decide)
  have untouched := @untouched_of_deleted _ _ _ run rfl .quitMain rfl
  exact ⟨_, rfl, untouched.1⟩

/-! ## The end of an object -/

/-- What the worker and the main thread do without a call from outside. -/
def isInternal : SignalAction → Bool
  | .dispatch | .goOn | .endWork | .post => true
  | _ => false

/-- What loses the message of the worker. -/
def loses : SignalAction → Bool
  | .refuse | .quitMain | .destroyMain => true
  | _ => false

end SignalThread

/-- The steps that a frame takes at most. -/
def SignalFrame.remaining : SignalFrame → Nat
  | onWorkStart => 7
  | onWorkDone => 3
  | onWorkStop _ | doneStop _ => 2
  | destroyStop | signalWorkDone _ => 1

/-- The weight of a stack. -/
def SignalFrame.total (weight : SignalFrame → Nat) : List SignalFrame → Nat
  | [] => 0
  | frame :: below => weight frame + total weight below

/-- The steps that the worker takes at most, and the main thread for its message. -/
def WorkerPhase.remaining : WorkerPhase → Nat
  | doWork => 6
  | run => 5
  | none | ended => 0

namespace SignalThread

/-- The steps that are left at most when nobody calls. -/
def remaining (thread : SignalThread) : Nat :=
  4 * thread.posted + thread.worker.remaining + SignalFrame.total SignalFrame.remaining thread.frames

/-- No work has been lost. -/
structure Lossless (thread : SignalThread) : Prop where
  main : thread.main = true
  mainStop : thread.mainStop = false
  busy : thread.deleted = false → thread.state ≠ .init → thread.state ≠ .complete →
    thread.refcount = thread.frames.length + 1 → thread.inHand ≠ []

variable {thread after : SignalThread} {action : SignalAction}
  {result : SignalThread × List SignalEvent}

/-- Leaving a member leaves no more to do. -/
theorem remaining_exit : thread.exit.1.remaining ≤ thread.remaining := by
  rw [exit]
  split
  · simp only [remaining]
    omega
  · exact Nat.le_refl _

/-- What is left to do is the frame on top and what is below it. -/
theorem remaining_of_frames {frame : SignalFrame} {below : List SignalFrame}
    (frames : thread.frames = frame :: below) :
    thread.remaining = 4 * thread.posted + thread.worker.remaining +
      (frame.remaining + SignalFrame.total SignalFrame.remaining below) := by
  rw [remaining, frames]
  rfl

/-- Going on within a member leaves less to do. -/
theorem remaining_goOn {frame : SignalFrame} {below : List SignalFrame}
    (frames : thread.frames = frame :: below) (success : thread.goOn frame below = some result) :
    result.1.remaining < thread.remaining := by
  have before := remaining_of_frames frames
  cases frame with
  | onWorkStart =>
    cases success
    refine Nat.lt_of_le_of_lt remaining_exit ?_
    simp only [remaining, SignalFrame.remaining] at before ⊢
    split
    · simp only [WorkerPhase.remaining]
      omega
    · omega
  | onWorkStop wait =>
    cases wait with
    | true =>
      cases success
      simp only [remaining, SignalFrame.total, SignalFrame.remaining] at before ⊢
      omega
    | false =>
      cases success
      refine Nat.lt_of_le_of_lt remaining_exit ?_
      simp only [remaining, SignalFrame.remaining] at before ⊢
      omega
  | destroyStop =>
    rw [goOn] at success
    split at success
    · cases success
      refine Nat.lt_of_le_of_lt remaining_exit ?_
      simp only [remaining, SignalFrame.remaining, WorkerPhase.remaining] at before ⊢
      omega
    · cases success
  | onWorkDone =>
    cases success
    simp only [SignalFrame.remaining] at before
    by_cases stopping : thread.state = .stopping
    · rw [workIsDone_stopping stopping]
      refine Nat.lt_of_le_of_lt remaining_exit ?_
      simp only [remaining] at before ⊢
      omega
    by_cases running : thread.state = .running
    · rw [workIsDone_running running]
      simp only [remaining, SignalFrame.total, SignalFrame.remaining] at before ⊢
      omega
    · rw [workIsDone_released running stopping]
      simp only [remaining, SignalFrame.total, SignalFrame.remaining] at before ⊢
      omega
  | doneStop doDelete =>
    rw [goOn] at success
    split at success
    · cases success
      simp only [remaining, SignalFrame.total, SignalFrame.remaining, WorkerPhase.remaining] at before ⊢
      omega
    · cases success
  | signalWorkDone doDelete =>
    cases success
    refine Nat.lt_of_le_of_lt remaining_exit ?_
    simp only [remaining, SignalFrame.remaining] at before ⊢
    omega

/-- Whatever goes on by itself comes nearer to its end. -/
theorem remaining_stepped (isInternal : isInternal action = true)
    (stepped : thread.Stepped action result) : result.1.remaining < thread.remaining := by
  cases stepped with
  | dispatch _ posted =>
    simp only [onMessage, enter, remaining, SignalFrame.total, SignalFrame.remaining]
    omega
  | goOn frames success => exact remaining_goOn frames success
  | endWork worker =>
    simp only [remaining, worker, WorkerPhase.remaining]
    omega
  | post worker =>
    refine Nat.lt_of_le_of_lt remaining_exit ?_
    simp only [enter, remaining, worker, WorkerPhase.remaining]
    split <;> omega
  | _ => cases isInternal

namespace Lossless

variable (lossless : thread.Lossless)

include lossless

/-- What has work in hand has lost none. -/
theorem of_work (main : after.main = thread.main) (mainStop : after.mainStop = thread.mainStop)
    (work : after.inHand ≠ []) : after.Lossless :=
  ⟨main.trans lossless.main, mainStop.trans lossless.mainStop, fun _ _ _ _ => work⟩

/-- The work in hand stays, and the count beside the calls. -/
theorem congr (main : after.main = thread.main) (mainStop : after.mainStop = thread.mainStop)
    (deleted : after.deleted = thread.deleted)
    (works : after.state ≠ .init → after.state ≠ .complete →
      thread.state ≠ .init ∧ thread.state ≠ .complete)
    (count : after.refcount = after.frames.length + 1 →
      thread.refcount = thread.frames.length + 1)
    (work : after.inHand = thread.inHand) : after.Lossless where
  main := main.trans lossless.main
  mainStop := mainStop.trans lossless.mainStop
  busy here notInit notComplete counted := by
    obtain ⟨wasNotInit, wasNotComplete⟩ := works notInit notComplete
    rw [work]
    exact lossless.busy (deleted.symm.trans here) wasNotInit wasNotComplete (count counted)

/-- What is at rest, or is kept by calls only, has nothing to lose. -/
theorem of_none (main : after.main = thread.main) (mainStop : after.mainStop = thread.mainStop)
    (none : after.state = .init ∨ after.state = .complete ∨
      after.refcount ≠ after.frames.length + 1) : after.Lossless where
  main := main.trans lossless.main
  mainStop := mainStop.trans lossless.mainStop
  busy _ notInit notComplete counted := by
    rcases none with is | is | uncounted
    · exact absurd is notInit
    · exact absurd is notComplete
    · exact absurd counted uncounted

end Lossless

/-- Leaving a member loses nothing. -/
theorem lossless_exit (lossless : Lossless { thread with refcount := thread.refcount - 1 }) :
    Lossless thread.exit.1 := by
  rw [exit]
  split
  · exact ⟨lossless.main, lossless.mainStop, fun gone => by cases gone⟩
  · exact lossless

section Lossless

variable (kept : thread.Kept) (lossless : thread.Lossless)

include lossless

/-- A member that does nothing loses nothing. -/
theorem lossless_still : Lossless thread.enter.exit.1 :=
  lossless_exit (leave_enter.symm ▸ lossless)

/-- Giving a resting object up loses nothing. -/
theorem lossless_letGo (rest : thread.state = .init ∨ thread.state = .complete) :
    Lossless (exit { thread.enter with refcount := thread.enter.refcount - 1 }).1 :=
  lossless_exit (lossless.of_none rfl rfl (rest.imp_right .inl))

/-- `Start` loses nothing. -/
theorem lossless_start : Lossless thread.start.1 := by
  rw [start]
  split
  · exact lossless.of_work rfl rfl (List.cons_ne_nil _ _)
  · exact lossless_still lossless

/-- `Destroy` loses nothing. -/
theorem lossless_destroy {wait : Bool} : Lossless (thread.destroy wait).1 := by
  rw [destroy]
  split
  · next rest => exact lossless_letGo lossless rest
  next work =>
  split
  · refine lossless.congr rfl rfl rfl (fun _ _ => not_or.mp work) (fun counted => ?_) rfl
    simp only [enter, List.length_cons] at counted
    omega
  · exact lossless_still lossless

/-- `Release` loses nothing. -/
theorem lossless_release : Lossless thread.release.1 := by
  rw [release]
  split
  · next rest => exact lossless_letGo lossless (.inr rest)
  split
  · next running =>
    refine lossless_exit (lossless.congr rfl rfl rfl (fun _ _ => by simp [running]) ?_ rfl)
    simp only [enter]
    omega
  · exact lossless_still lossless

include kept

/-- The end of `OnWorkDone` loses nothing. -/
theorem lossless_workIsDone {below : List SignalFrame} (frames : thread.frames = .onWorkDone :: below) :
    Lossless (thread.workIsDone below).1 := by
  by_cases stopping : thread.state = .stopping
  · have counted := kept.account_of_frames frames rfl
    rw [workIsDone_stopping stopping]
    refine lossless_exit (lossless.of_none rfl rfl (.inr (.inr ?_)))
    simp only [if_true]
    omega
  by_cases running : thread.state = .running
  · rw [workIsDone_running running]
    exact lossless.of_none rfl rfl (.inr (.inl rfl))
  · rw [workIsDone_released running stopping]
    exact lossless.of_work rfl rfl (List.cons_ne_nil _ _)

omit kept in
/-- A call that is not at work is left with its count. -/
theorem lossless_leave {frame : SignalFrame} {below : List SignalFrame}
    (frames : thread.frames = frame :: below) (resting : frame.phase = none) :
    Lossless (exit { thread with frames := below }).1 := by
  have length : thread.frames.length = below.length + 1 := congrArg List.length frames
  have sameWork : inHand { thread with frames := below } = thread.inHand := by
    rw [inHand_of_frames frames, resting]
    rfl
  refine lossless_exit (lossless.congr rfl rfl rfl
    (fun notInit notComplete => ⟨notInit, notComplete⟩) ?_ sameWork)
  simp only
  omega

/-- Going on within a member loses nothing. -/
theorem lossless_goOn {frame : SignalFrame} {below : List SignalFrame}
    (frames : thread.frames = frame :: below) (success : thread.goOn frame below = some result) :
    Lossless result.1 := by
  cases frame with
  | onWorkStart =>
    cases success
    have noWorker : thread.worker = .none := kept.starts (frames ▸ List.mem_cons_self)
    rw [if_pos noWorker]
    exact lossless_exit (lossless.of_work rfl rfl (List.ne_nil_of_mem (worker_mem_inHand rfl)))
  | onWorkStop wait =>
    cases wait with
    | true =>
      cases success
      have length : thread.frames.length = below.length + 1 := congrArg List.length frames
      have sameWork : inHand { thread with frames := below } = thread.inHand :=
        (inHand_of_frames frames).symm
      refine lossless.congr rfl rfl rfl (fun notInit notComplete => ⟨notInit, notComplete⟩) ?_ sameWork
      simp only [List.length_cons]
      omega
    | false =>
      cases success
      exact lossless_leave lossless frames rfl
  | destroyStop =>
    rw [goOn] at success
    split at success
    · cases success
      obtain ⟨_, _, two⟩ := kept.waits (.inr (frames ▸ List.mem_cons_self))
      refine lossless_exit (lossless.of_none rfl rfl (.inr (.inr ?_)))
      simp only
      omega
    · cases success
  | onWorkDone =>
    cases success
    exact lossless_workIsDone kept lossless frames
  | doneStop doDelete =>
    rw [goOn] at success
    split at success
    · cases success
      cases doDelete with
      | true => exact lossless.of_work rfl rfl (List.cons_ne_nil _ _)
      | false =>
        have complete := kept.ends false (frames ▸ List.mem_cons_self)
        exact lossless.of_none rfl rfl (.inr (.inl complete))
    · cases success
  | signalWorkDone doDelete =>
    cases success
    cases doDelete with
    | true =>
      have counted := kept.account_of_frames frames rfl
      refine lossless_exit (lossless.of_none rfl rfl (.inr (.inr ?_)))
      simp only [if_true]
      omega
    | false => exact lossless_leave lossless frames rfl

omit kept in
/-- A main thread that runs its queue gets the message. -/
theorem lossless_post : Lossless thread.post.1 := by
  have posts : (thread.main && !thread.mainStop) = true := by
    rw [lossless.main, lossless.mainStop]
    rfl
  refine lossless_exit (lossless.of_work rfl rfl ?_)
  refine List.ne_nil_of_mem (mem_inHand.mpr (.inr ⟨?_, rfl⟩))
  simp only [if_pos posts]
  exact Nat.succ_pos _

end Lossless

/-- A step that loses no message keeps every round under way. -/
theorem lossless_stepped (sound : thread.Sound) (lossless : thread.Lossless)
    (keeps : loses action = false) (stepped : thread.Stepped action result) :
    Lossless result.1 := by
  cases sound with
  | here here held kept =>
    cases stepped with
    | start => exact lossless_start lossless
    | destroy => exact lossless_destroy lossless
    | release => exact lossless_release lossless
    | dispatch => exact lossless.of_work rfl rfl (List.cons_ne_nil _ _)
    | goOn frames success => exact lossless_goOn kept lossless frames success
    | postWorker =>
      rw [postWorker]
      split
      · exact lossless
      · exact ⟨lossless.main, lossless.mainStop, lossless.busy⟩
    | continueWork => exact ⟨lossless.main, lossless.mainStop, lossless.busy⟩
    | endWork => exact lossless.of_work rfl rfl (List.ne_nil_of_mem (worker_mem_inHand rfl))
    | post => exact lossless_post lossless
    | refuse | quitMain | destroyMain => cases keeps
  | gone gone frames posted worker =>
    obtain ⟨rfl, _⟩ | ⟨rfl, _⟩ := stepped_of_gone gone frames posted worker stepped
    · cases keeps
    · cases keeps

/-- `Release` or `Destroy` has come, or only running calls keep the object. -/
def IsGivenUp (thread : SignalThread) : Prop :=
  thread.state = .releasing ∨ thread.state = .stopping ∨ thread.refcount ≤ thread.frames.length

/-- The state stays, and no count is added beside those of the calls. -/
theorem IsGivenUp.congr (givenUp : thread.IsGivenUp) (state : after.state = thread.state)
    (count : after.refcount - after.frames.length ≤ thread.refcount - thread.frames.length) :
    after.IsGivenUp := by
  rw [IsGivenUp, state]
  refine givenUp.imp_right (.imp_right fun few => ?_)
  omega

/-- Leaving a member does not take an object back. -/
theorem givenUp_exit (givenUp : IsGivenUp { thread with refcount := thread.refcount - 1 }) :
    IsGivenUp thread.exit.1 := by
  rw [exit]
  split <;> exact givenUp

/-- The end of `OnWorkDone` does not take an object back. -/
theorem givenUp_workIsDone {below : List SignalFrame} (frames : thread.frames = .onWorkDone :: below)
    (givenUp : thread.IsGivenUp) : (thread.workIsDone below).1.IsGivenUp := by
  have length : thread.frames.length = below.length + 1 := congrArg List.length frames
  by_cases stopping : thread.state = .stopping
  · rw [workIsDone_stopping stopping]
    exact givenUp_exit (.inr (.inl stopping))
  by_cases running : thread.state = .running
  · have few : thread.refcount ≤ thread.frames.length := by
      rcases givenUp with is | is | few
      · cases running.symm.trans is
      · cases running.symm.trans is
      · exact few
    rw [workIsDone_running running]
    refine .inr (.inr ?_)
    simp only [List.length_cons]
    omega
  · rw [workIsDone_released running stopping]
    refine givenUp.congr rfl ?_
    simp only [List.length_cons]
    omega

/-- What goes on by itself does not take an object back. -/
theorem givenUp_stepped (isInternal : isInternal action = true) (givenUp : thread.IsGivenUp)
    (stepped : thread.Stepped action result) : result.1.IsGivenUp := by
  cases stepped with
  | dispatch =>
    refine givenUp.congr rfl ?_
    simp only [onMessage, enter, List.length_cons]
    omega
  | @goOn frame below _ frames success =>
    have length : thread.frames.length = below.length + 1 := congrArg List.length frames
    cases frame with
    | onWorkStart =>
      cases success
      refine givenUp_exit (givenUp.congr rfl ?_)
      simp only
      omega
    | signalWorkDone doDelete =>
      cases success
      refine givenUp_exit (givenUp.congr rfl ?_)
      simp only
      split <;> omega
    | onWorkStop wait =>
      cases wait with
      | true =>
        cases success
        refine givenUp.congr rfl ?_
        simp only [List.length_cons]
        omega
      | false =>
        cases success
        refine givenUp_exit (givenUp.congr rfl ?_)
        simp only
        omega
    | destroyStop =>
      rw [goOn] at success
      split at success
      · cases success
        refine givenUp_exit (givenUp.congr rfl ?_)
        simp only
        omega
      · cases success
    | onWorkDone =>
      cases success
      exact givenUp_workIsDone frames givenUp
    | doneStop =>
      rw [goOn] at success
      split at success
      · cases success
        refine givenUp.congr rfl ?_
        simp only [List.length_cons]
        omega
      · cases success
  | endWork => exact givenUp
  | post =>
    refine givenUp_exit (givenUp.congr rfl ?_)
    simp only [enter]
    omega
  | _ => cases isInternal

/-- With the main thread in no call and the worker in no work, the message is in the queue. -/
theorem posted_of_givenUp (here : thread.deleted = false) (held : 0 < thread.refcount)
    (kept : thread.Kept) (lossless : thread.Lossless) (givenUp : thread.IsGivenUp)
    (frames : thread.frames = []) (noPhase : thread.worker.phase = none) : 0 < thread.posted := by
  have account := kept.account
  rw [IsGivenUp, frames] at givenUp
  rw [frames] at account
  simp only [List.length_nil] at account givenUp
  have works : thread.state ≠ .init ∧ thread.state ≠ .complete := by
    rcases givenUp with is | is | few
    · simp [is]
    · simp [is]
    · omega
  -- the owner's count is there, so its work is
  have counted : thread.refcount = thread.frames.length + 1 := by
    rw [frames, List.length_nil]
    omega
  refine Nat.pos_of_ne_zero fun noMessage => ?_
  refine lossless.busy here works.1 works.2 counted (inHand_eq_nil.mpr ⟨?_, noPhase, noMessage⟩)
  rw [frames]
  rfl

/-- An object that is given up is never stuck: while it is there, something goes on. -/
theorem goesOn_of_givenUp (here : thread.deleted = false) (held : 0 < thread.refcount)
    (kept : thread.Kept) (lossless : thread.Lossless) (givenUp : thread.IsGivenUp) :
    ∃ action, isInternal action = true ∧ thread.Proper action ∧ (thread.step action).isSome = true := by
  by_cases working : thread.worker = .doWork
  · exact ⟨.endWork, rfl, trivial, by simp [step, working]⟩
  have noPhase (notRun : thread.worker ≠ .run) : thread.worker.phase = none := by
    cases worker : thread.worker with
    | none | ended => rfl
    | doWork => exact absurd worker working
    | run => exact absurd worker notRun
  cases frames : thread.frames with
  | nil =>
    by_cases run : thread.worker = .run
    · exact ⟨.post, rfl, trivial, by simp [step, run, holdsLock, frames]⟩
    · have posted := posted_of_givenUp here held kept lossless givenUp frames (noPhase run)
      refine ⟨.dispatch, rfl, by simp [Proper, frames], ?_⟩
      simp [step, lossless.main, isUserCode, frames, posted]
  | cons frame below =>
    cases frame with
    | onWorkStart | onWorkDone | signalWorkDone =>
      exact ⟨.goOn, rfl, trivial, by simp [step, frames, goOn]⟩
    | onWorkStop wait => exact ⟨.goOn, rfl, trivial, by cases wait <;> simp [step, frames, goOn]⟩
    | destroyStop =>
      by_cases run : thread.worker = .run
      · have alone : below = [] := by
          obtain ⟨_, alone, _⟩ := kept.waits (.inr (frames ▸ List.mem_cons_self))
          simpa [frames] using alone
        exact ⟨.post, rfl, trivial, by simp [step, run, holdsLock, frames, alone]⟩
      · have stopped : thread.isStopped = true := isStopped_iff_phase.mpr (noPhase run)
        exact ⟨.goOn, rfl, trivial, by simp [step, frames, goOn, stopped]⟩
    | doneStop doDelete =>
      have stopped : thread.isStopped = true :=
        isStopped_iff_phase.mpr (kept.below_parts frames rfl).2.1
      exact ⟨.goOn, rfl, trivial, by simp [step, frames, goOn, stopped]⟩

/-- As long as no message is lost, every round is under way. -/
theorem lossless_of_run {actions : List SignalAction} {events : List SignalEvent}
    (run : machine.RunWhere (fun thread action => thread.Proper action ∧ loses action = false) new
      actions thread events) : thread.Sound ∧ thread.Lossless := by
  refine run.invariant (fun _ thread _ => thread.Sound ∧ thread.Lossless) ⟨sound_new, ?_⟩ ?_
  · exact ⟨rfl, rfl, fun _ isNot => absurd rfl isNot⟩
  · rintro _ thread _ action next emitted ⟨sound, lossless⟩ ⟨proper, keeps⟩ success
    have stepped := stepped_of_step success
    exact ⟨sound_stepped sound proper stepped, lossless_stepped sound lossless keeps stepped⟩

/-- What the worker and the main thread do by themselves loses nothing. -/
theorem loses_of_isInternal (isInternal : isInternal action = true) : loses action = false := by
  cases action with
  | refuse | quitMain | destroyMain => cases isInternal
  | _ => rfl

/-- So each run of such steps comes nearer to the end, or has come to it. -/
theorem ends_of_givenUp {more : List SignalAction} {final : SignalThread} {rest : List SignalEvent}
    (sound : thread.Sound) (lossless : thread.Lossless) (givenUp : thread.IsGivenUp)
    (going : machine.RunWhere (fun thread action => thread.Proper action ∧ isInternal action = true)
      thread more final rest) :
    more.length + final.remaining ≤ thread.remaining ∧
      (final.deleted = true ∨ ∃ action, isInternal action = true ∧ final.Proper action ∧
        (final.step action).isSome = true) := by
  have goes : (final.Sound ∧ final.Lossless ∧ final.IsGivenUp) ∧
      more.length + final.remaining ≤ thread.remaining := by
    refine going.invariant (fun more final _ =>
      (final.Sound ∧ final.Lossless ∧ final.IsGivenUp) ∧
        more.length + final.remaining ≤ thread.remaining)
      ⟨⟨sound, lossless, givenUp⟩, Nat.le_of_eq (Nat.zero_add _)⟩ ?_
    rintro more final _ action next emitted ⟨⟨sound, lossless, givenUp⟩, bound⟩ ⟨proper, isInternal⟩
      success
    have stepped := stepped_of_step success
    have fewer : next.remaining < final.remaining := remaining_stepped isInternal stepped
    refine ⟨⟨sound_stepped sound proper stepped,
      lossless_stepped sound lossless (loses_of_isInternal isInternal) stepped,
      givenUp_stepped isInternal givenUp stepped⟩, ?_⟩
    rw [List.length_append, List.length_singleton]
    omega
  obtain ⟨⟨soundLast, losslessLast, givenUpLast⟩, bound⟩ := goes
  refine ⟨bound, ?_⟩
  cases soundLast with
  | here here held kept => exact .inr (goesOn_of_givenUp here held kept losslessLast givenUpLast)
  | gone gone => exact .inl gone

/-- An object that has been given up comes to its end in a bounded number of steps of the worker
and the main thread, in any order: each of them comes nearer to it, and as long as the object is
there one of them can go on. -/
theorem deleted_of_givenUp {actions more : List SignalAction} {final : SignalThread}
    {events rest : List SignalEvent}
    (run : machine.RunWhere (fun thread action => thread.Proper action ∧ loses action = false) new
      actions thread events)
    (givenUp : thread.IsGivenUp)
    (going : machine.RunWhere (fun thread action => thread.Proper action ∧ isInternal action = true)
      thread more final rest) :
    more.length + final.remaining ≤ thread.remaining ∧
      (final.deleted = true ∨ ∃ action, isInternal action = true ∧ final.Proper action ∧
        (final.step action).isSome = true) := by
  obtain ⟨sound, lossless⟩ := lossless_of_run run
  exact ends_of_givenUp sound lossless givenUp going

/-- The owner lets go while the subclass works. -/
theorem deleted_of_givenUp_release :
    ∃ thread : SignalThread, thread.state = .releasing ∧
      (thread.deleted = true ∨ ∃ action, isInternal action = true ∧ thread.Proper action ∧
        (thread.step action).isSome = true) := by
  have run : machine.RunWhere (fun thread action => thread.Proper action ∧ loses action = false) new
      [.start, .goOn, .release] ⟨.releasing, 1, true, .doWork, false, 0, [], 0, false, false⟩
      [.onWorkStart] :=
    .of_permits (fun _ _ => of_decide_eq_true) (by decide) (by decide)
  exact ⟨_, rfl, (deleted_of_givenUp run (.inl rfl) .nil).2⟩

end SignalThread
end VzSdk.Base
