import VzSdk.Sdk.Notifications
import VzSdk.Sdk.Opening

/-!
# The life of a task

A task is put on the table of the queue layer by one message and taken off it
by another. `SyncProcessTask` posts both, the second one when it returns; the
task of `ReciveIvsResult` is posted on a reconnect without a wait, and nothing
takes it off. `no_task_outlives_its_request` says when the table is empty once the queue
thread has nothing to do and nobody waits.
-/

namespace VzSdk.Sdk

open VzSdk.Base VzSdk.Event VzSdk.Std

/-- The queue layer puts the task on its table. -/
def Task.isListed (task : Task) : Prop := task.data ≠ .pushManager

namespace System

/-- A task is on the table under this id. -/
def Listed (system : System) : UInt32 → Prop := system.Registered fun _ => True

/-- A task will be on the table under this id once the queue thread is through. -/
def LeftListed (system : System) : UInt32 → Prop :=
  Notice.leftOpen Task.isListed (·.taskId) system.Listed system.notices

/-- The queue of the queue thread is empty, and no thread is inside `SyncProcessTask`. -/
def AtRest (system : System) : Prop :=
  system.queueThread.contents = [] ∧
    ∀ thread task, (system.threads thread).activity ≠ .waiting task

/-- Every task that is left on the table has a thread that waits for it. -/
def Waited (system : System) : Prop :=
  ∀ id, system.LeftListed id → id ≠ mqidDispose ∧
    ∃ thread task, (system.threads thread).activity = .waiting task ∧ task.taskId = id

variable {system next : System} {label : SystemLabel} {emitted : List SystemOutput}

/-- At rest nothing is left to be told. -/
theorem notices_of_atRest (rests : system.AtRest) : system.notices = [] := by
  have nothing := rests.1
  simp only [MessageQueue.contents, List.append_eq_nil_iff] at nothing
  simp [notices, nothing.1.2]

/-! ## The table over a step -/

/-- What is listed after a step is what was told. -/
theorem listed_step (tidy : system.Tidy) (transition : system.step label = some (next, emitted))
    {id : UInt32} (listed : next.Listed id) :
    Notice.leftOpen Task.isListed (·.taskId) system.Listed (system.told label) id :=
  registered_step tidy transition (fun _ _ isTask => isTask) listed

/-- The queue layer lists what it is asked for, and takes off only what it is told to. -/
theorem listed_queueLayerOnMessage {message : SdkMessage} {id : UInt32}
    (left : Notice.leftOpen Task.isListed (·.taskId) system.Listed
      (payloadNotice message.pdata).toList id) :
    (system.queueLayerOnMessage message).Listed id := by
  unfold queueLayerOnMessage
  split
  · next task payload =>
      rw [payload] at left
      have asked : system.Listed id ∨ (task.isListed ∧ id = task.taskId) := left
      split
      · next isPush =>
          rcases asked with listed | ⟨isListed, _⟩
          · exact listed
          · exact absurd isPush isListed
      · rcases asked with ⟨other, member, _⟩ | ⟨_, rfl⟩
        · exact ⟨other, OrderedMap.mem_insertEntry_of_mem member, trivial⟩
        · cases found : system.tasks.find? task.taskId with
          | none => exact ⟨task, OrderedMap.mem_insert_self found task, trivial⟩
          | some kept =>
              exact ⟨kept, OrderedMap.mem_insertEntry_of_mem (OrderedMap.mem_of_find? found),
                trivial⟩
  · next task payload =>
      rw [payload] at left
      obtain ⟨⟨other, member, _⟩, differ⟩ : system.Listed id ∧ id ≠ task.taskId := left
      exact ⟨other, OrderedMap.mem_erase.mpr ⟨member, differ⟩, trivial⟩
  · next payload =>
      rw [payload] at left
      unfold Listed Registered
      rw [(sessionSide_removeSession system _).tasks]
      exact left
  · next payload =>
      rw [payload] at left
      exact left
  · next payload =>
      rw [payload] at left
      exact left
  · next payload =>
      rw [payload] at left
      unfold Listed Registered
      rw [frame_onTranslateToSyncLayer]
      exact left
  · next payload =>
      rw [payload] at left
      unfold Listed Registered
      rw [frame_onTranslateToSyncLayer]
      exact left
  · next noTask noRemove _ _ _ _ noResponse =>
      have silent : payloadNotice message.pdata = none := by
        unfold payloadNotice
        split
        · next payload => exact absurd payload (noTask _)
        · next payload => exact absurd payload (noRemove _)
        · next payload => exact absurd payload (noResponse _ _ _ _)
        · rfl
      rw [silent] at left
      exact left

/-- What a step's notice leaves on the table is there after the step. -/
theorem listed_of_told (tidy : system.Tidy) (transition : system.step label = some (next, emitted))
    {id : UInt32}
    (left : Notice.leftOpen Task.isListed (·.taskId) system.Listed (system.told label) id) :
    next.Listed id := by
  have called (isCall : label.turns = false) (tasks : next.tasks = system.tasks) :
      next.Listed id := by
    rw [told_of_none (taken_of_call system isCall).2] at left
    unfold Listed Registered
    rw [tasks]
    exact left
  have tasks : (system.taken label).tasks = system.tasks := by rw [taken_eq]
  cases kind_of_step transition with
  | event isEvent found signals =>
      exact called (turns_of_event isEvent) signals.sessionSide.tasks
  | resume => exact called rfl rfl
  | idle isTurn nothing =>
      rw [told_of_none nothing] at left
      unfold Listed Registered
      rw [tasks]
      exact left
  | call isCall noEvent side =>
      refine called isCall ?_
      rw [side.frame]
  | @dispatch _ message now answer isTurn isNext =>
      by_cases toLayer : message.phandler = some .queueLayer
      · rw [told_of_next tidy isNext toLayer] at left
        unfold dispatch
        rw [toLayer]
        refine listed_queueLayerOnMessage ?_
        unfold Listed Registered at left ⊢
        rw [tasks]
        exact left
      · rw [told_of_elsewhere isNext toLayer] at left
        unfold Listed Registered
        rw [(sessionSide_dispatch _ now answer toLayer).tasks, tasks]
        exact left

/-- What will be on the table after a step, in terms of what the step posts. -/
theorem leftListed_step (tidy : system.Tidy)
    (transition : system.step label = some (next, emitted)) :
    ∃ posted : List (Notice Task UInt32 Topic),
      (∀ id, next.LeftListed id ↔
        Notice.leftOpen Task.isListed (·.taskId) system.LeftListed posted id) ∧
      (∀ task, .ask task ∈ posted →
        system.issue label = some task ∧ task.taskId ≠ mqidDispose) ∧
      ∀ id, .drop id ∈ posted → ∃ thread task,
        (system.threads thread).activity = .waiting task ∧ task.taskId = id := by
  obtain ⟨posted, same, asks, drops⟩ := notices_step tidy transition
  refine ⟨posted, fun id => ?_, asks, drops⟩
  unfold LeftListed
  rw [← Notice.leftOpen_append, same, Notice.leftOpen_append]
  constructor
  · exact Notice.leftOpen_mono fun _ => listed_step tidy transition
  · exact Notice.leftOpen_mono fun _ => listed_of_told tidy transition

/-! ## Runs whose calls wait -/

/-- A task that is left on the table was so before, or has just been asked for; and a thread that
stops waiting for it has it taken off. -/
theorem waited_step_of_waits (waited : system.Waited) (tidy : system.Tidy)
    (isWaited : label.waits = true) (transition : system.step label = some (next, emitted)) :
    next.Waited := by
  intro id left
  obtain ⟨posted, isLeft, asks, _⟩ := leftListed_step tidy transition
  rcases Notice.open_of_leftOpen ((isLeft id).mp left) with wasLeft | ⟨task, asked, _, rfl⟩
  · obtain ⟨lasting, thread, task, waits, rfl⟩ := waited id wasLeft
    refine ⟨lasting, ?_⟩
    rcases waiting_step tidy transition waits with goesOn | removed
    · exact ⟨thread, task, goesOn, rfl⟩
    · have notices := notices_of_queue (notice_drop lasting) removed
      unfold LeftListed at left
      rw [notices, Notice.leftOpen_append] at left
      exact absurd rfl left.2
  · obtain ⟨isIssue, lasting⟩ := asks task asked
    exact ⟨lasting, task.thread, task, waiting_of_issue isIssue isWaited transition, rfl⟩

/-- At the start every task is waited for. -/
theorem waited_start (pushThread : Nat) : (start pushThread).Waited := by
  intro id left
  rcases Notice.open_of_leftOpen left with ⟨task, member, _⟩ | ⟨task, asked, isListed, _⟩
  · simp [start, OrderedMap.empty] at member
  · obtain ⟨message, member, isNotice⟩ := List.mem_filterMap.mp asked
    obtain rfl : message = _ := by simpa [start, MessageQueue.post, MessageQueue.new] using member
    cases isNotice
    exact absurd rfl isListed

/-- At rest everything that is left on the table is on it. -/
theorem leftListed_of_atRest (rests : system.AtRest) (id : UInt32) :
    system.LeftListed id ↔ system.Listed id := by
  unfold LeftListed
  rw [notices_of_atRest rests]
  rfl

/-- At rest no task is left when every task was waited for. -/
theorem empty_of_waited (waited : system.Waited) (rests : system.AtRest) :
    system.tasks.entries = [] := by
  refine List.eq_nil_iff_forall_not_mem.mpr fun ⟨id, task⟩ member => ?_
  have listed : system.Listed id := ⟨task, member, trivial⟩
  obtain ⟨_, thread, other, waits, _⟩ := waited id ((leftListed_of_atRest rests id).mpr listed)
  exact rests.2 thread other waits

/-! ## A task nobody waits for -/

/-- The task will be on the table, and no thread waits for it. -/
def Stranded (system : System) (task : Task) : Prop :=
  system.LeftListed task.taskId ∧ ∀ thread, (system.threads thread).activity ≠ .waiting task

end System

/-- The ids of tasks stay below `MQID_DISPOSE`. -/
def KeepsBelowDispose (system : System) (label : SystemLabel) : Prop :=
  (system.issue label).isSome = true → system.taskCounter.toNat + 1 < mqidDispose.toNat

/-- A call that does not wait only posts its task. -/
theorem System.issuing_of_unwaited {system next : System} {label : SystemLabel}
    {emitted : List SystemOutput} (unwaited : label.waits = false)
    (transition : system.step label = some (next, emitted)) :
    ∃ task, system.issue label = some task ∧ next = system.issuing task := by
  cases label with
  | postTask =>
      cases callKind_of_step rfl transition with
      | sync now isIssue isWaited => cases isWaited
      | post isIssue => exact ⟨_, isIssue, rfl⟩
      | handles isHandle => rcases isHandle with isAdd | isRemove <;> contradiction
  | _ => cases unwaited

/-- Ids that stay below the greatest do not wrap. -/
theorem noWrap_of_keepsBelowDispose {system : System} {label : SystemLabel}
    (room : KeepsBelowDispose system label) : NoWrap system label := by
  intro issues
  have below := room issues
  have isDispose : mqidDispose.toNat = 2 ^ 32 - 2 := rfl
  omega

section Step

variable {watched next : System × IdRecord} {label : SystemLabel} {emitted : List SystemOutput}

/-- Nothing takes the task off the table. -/
theorem stranded_step (ids : IssuedIds watched) (tidy : watched.1.Tidy)
    (room : NoWrap watched.1 label)
    (transition : numberedMachine.step watched label = some (next, emitted)) {task : Task}
    (issued : task ∈ watched.2.issued) (stranded : watched.1.Stranded task) :
    next.1.Stranded task := by
  obtain ⟨stepped, _⟩ := Machine.step_of_watch transition
  obtain ⟨left, unwaited⟩ := stranded
  obtain ⟨posted, isLeft, _, drops⟩ := System.leftListed_step tidy stepped
  constructor
  · refine (isLeft task.taskId).mpr (Notice.leftOpen_of_noDrop left fun dropped => ?_)
    obtain ⟨thread, other, waits, same⟩ := drops task.taskId dropped
    have isTask := ids.distinct other (ids.waiting thread other waits) task issued same
    exact unwaited thread (isTask ▸ waits)
  · intro thread waits
    rcases (System.threads_step stepped).waiting waits with old | ⟨isIssue, _⟩
    · exact unwaited thread old
    · exact (ids.of_issued room isIssue).2 task issued rfl

/-- A task that is posted without a wait is stranded. -/
theorem stranded_of_unwaited (ids : IssuedIds watched) (tidy : watched.1.Tidy)
    (room : KeepsBelowDispose watched.1 label) (unwaited : label.waits = false)
    (transition : numberedMachine.step watched label = some (next, emitted)) :
    ∃ task, watched.1.issue label = some task ∧ next.1.Stranded task := by
  obtain ⟨stepped, _⟩ := Machine.step_of_watch transition
  obtain ⟨task, isIssue, same⟩ := System.issuing_of_unwaited unwaited stepped
  have below := room (by simp [isIssue])
  obtain ⟨isId, fresh⟩ := ids.of_issued (noWrap_of_keepsBelowDispose room) isIssue
  have lasting : task.taskId ≠ mqidDispose := by
    intro same
    rw [same] at isId
    omega
  refine ⟨task, isIssue, ?_, fun thread waits => ?_⟩
  · have notices := System.notices_of_queue (System.notice_ask lasting)
      (System.queue_issue tidy isIssue stepped)
    unfold System.LeftListed
    rw [notices, Notice.leftOpen_append]
    exact .inr ⟨(System.taskId_of_issue isIssue).2, rfl⟩
  · rw [same] at waits
    exact fresh task (ids.waiting thread task waits) rfl

end Step

/-! ## Every run -/

/-- Where all calls wait, whatever is left on the table is waited for. -/
theorem waited_of_run {pushThread : Nat} {labels : List SystemLabel} {final : System}
    {outputs : List SystemOutput}
    (run : sdkMachine.Run (System.start pushThread) labels final outputs)
    (allWait : ∀ label ∈ labels, label.waits = true) : final.Waited := by
  have both : final.Tidy ∧ ((∀ label ∈ labels, label.waits = true) → final.Waited) := by
    refine run.invariant (fun labels system _ =>
      system.Tidy ∧ ((∀ label ∈ labels, label.waits = true) → system.Waited)) ?_ ?_
    · exact ⟨System.tidy_start pushThread, fun _ => System.waited_start pushThread⟩
    · intro labels system outputs label next emitted before _ transition
      obtain ⟨tidy, waited⟩ := before
      refine ⟨System.tidy_step tidy transition, fun waits => ?_⟩
      rw [List.forall_mem_append] at waits
      exact System.waited_step_of_waits (waited waits.1) tidy (waits.2 label (by simp)) transition
  exact both.2 allWait

/-- Where one call does not wait, its task stays on the table for ever. -/
theorem stranded_of_run {pushThread : Nat} {labels : List SystemLabel} {final : System}
    {outputs : List SystemOutput}
    (run : sdkMachine.RunWhere KeepsBelowDispose (System.start pushThread) labels final outputs) :
    (∀ label ∈ labels, label.waits = true) ∨ ∃ task, final.Stranded task := by
  obtain ⟨record, watchedRun⟩ := run.watched IdRecord.start
  have sound : (IssuedIds (final, record) ∧ final.Tidy) ∧
      ((∀ label ∈ labels, label.waits = true) ∨ ∃ task ∈ record.issued, final.Stranded task) := by
    refine watchedRun.invariant (fun labels watched _ =>
      (IssuedIds watched ∧ watched.1.Tidy) ∧ ((∀ label ∈ labels, label.waits = true) ∨
        ∃ task ∈ watched.2.issued, watched.1.Stranded task)) ?_ ?_
    · exact ⟨⟨issuedIds_start pushThread, System.tidy_start pushThread⟩, .inl fun _ member => by cases member⟩
    · intro labels watched outputs label next emitted before room transition
      obtain ⟨⟨ids, tidy⟩, sofar⟩ := before
      have noWrap := noWrap_of_keepsBelowDispose room
      obtain ⟨stepped, noted⟩ := Machine.step_of_watch transition
      have issued := issued_eq noted
      refine ⟨⟨ids.step tidy noWrap transition, System.tidy_step tidy stepped⟩, ?_⟩
      rcases sofar with allWait | ⟨task, isIssued, stranded⟩
      · cases isWaited : label.waits with
        | true =>
            refine .inl ?_
            rw [List.forall_mem_append]
            exact ⟨allWait, by simpa using isWaited⟩
        | false =>
            obtain ⟨task, isIssue, stranded⟩ := stranded_of_unwaited ids tidy room isWaited transition
            exact .inr ⟨task, by simp [issued, isIssue], stranded⟩
      · exact .inr ⟨task, by simp [issued, isIssued],
          stranded_step ids tidy noWrap transition isIssued stranded⟩
  exact sound.2.imp_right fun ⟨task, _, stranded⟩ => ⟨task, stranded⟩

/-- When the queue thread has nothing to do and nobody waits, no task is on the table if all
calls that posted one waited for it; and, unless task ids have gone up to `MQID_DISPOSE`, only
then. -/
theorem no_task_outlives_its_request {pushThread : Nat} {labels : List SystemLabel}
    {final : System} {outputs : List SystemOutput}
    (run : sdkMachine.Run (System.start pushThread) labels final outputs) (rests : final.AtRest) :
    ((∀ label ∈ labels, label.waits = true) → final.tasks.entries = []) ∧
      (sdkMachine.RunWhere KeepsBelowDispose (System.start pushThread) labels final outputs →
        final.tasks.entries = [] → ∀ label ∈ labels, label.waits = true) := by
  constructor
  · intro allWait
    exact System.empty_of_waited (waited_of_run run allWait) rests
  · intro below nothing
    rcases stranded_of_run below with allWait | ⟨task, left, _⟩
    · exact allWait
    · obtain ⟨other, member, _⟩ := (System.leftListed_of_atRest rests task.taskId).mp left
      rw [nothing] at member
      cases member

/-! ## Two runs -/

/-- A thread that waits is the push thread or has made a call. -/
theorem called_of_waiting {pushThread : Nat} {labels : List SystemLabel} {final : System}
    {outputs : List SystemOutput}
    (run : sdkMachine.Run (System.start pushThread) labels final outputs) {thread : Nat}
    {task : Task} (waits : (final.threads thread).activity = .waiting task) :
    thread = pushThread ∨ ∃ label ∈ labels, label.starts = some thread := by
  have both : final.pushThread = pushThread ∧ ∀ thread task,
      (final.threads thread).activity = .waiting task →
        thread = pushThread ∨ ∃ label ∈ labels, label.starts = some thread := by
    refine run.invariant (fun labels system _ => system.pushThread = pushThread ∧
      ∀ thread task, (system.threads thread).activity = .waiting task →
        thread = pushThread ∨ ∃ label ∈ labels, label.starts = some thread) ⟨rfl, nofun⟩ ?_
    intro labels system outputs label next emitted before _ transition
    refine ⟨(pushThread_step transition).trans before.1, fun thread task waits => ?_⟩
    rcases (System.threads_step transition).waiting waits with old | ⟨isIssue, rfl⟩
    · refine (before.2 thread task old).imp_right fun ⟨call, member, isStart⟩ => ?_
      exact ⟨call, List.mem_append_left _ member, isStart⟩
    · cases label with
      | connect | disconnect | request =>
          cases isIssue
          exact .inr ⟨_, List.mem_append_right _ List.mem_cons_self, rfl⟩
      | postTask =>
          cases isIssue
          exact .inl before.1
      | _ => cases isIssue
  exact both.2 thread task waits

/-- The thread is inside `SyncProcessTask`. -/
def ThreadState.waits (state : ThreadState) : Bool :=
  match state.activity with
  | .waiting _ => true
  | _ => false

/-- The queue is empty, and neither the push thread nor thread 1 waits. -/
def System.restCheck (system : System) : Bool :=
  system.queueThread.contents.isEmpty && !(system.threads 0).waits && !(system.threads 1).waits

/-- The check finds the system at rest after a run with one caller. -/
theorem atRest_of_check {labels : List SystemLabel} {final : System} {outputs : List SystemOutput}
    (run : sdkMachine.Run (System.start 0) labels final outputs)
    (callers : labels.all fun label => label.starts = none || label.starts = some 1)
    (checked : final.restCheck = true) : final.AtRest := by
  simp only [System.restCheck, Bool.and_eq_true, Bool.not_eq_true', List.isEmpty_iff] at checked
  refine ⟨checked.1.1, fun thread task waits => ?_⟩
  have isWaiting : (final.threads thread).waits = true := by simp [ThreadState.waits, waits]
  rcases called_of_waiting run waits with rfl | ⟨label, member, isStart⟩
  · rw [checked.1.2] at isWaiting
    cases isWaiting
  · have isFirst := List.all_eq_true.mp callers label member
    obtain rfl : thread = 1 := by simpa [isStart] using isFirst
    rw [checked.2] at isWaiting
    cases isWaiting

/-- The device of session 2 goes and comes back. -/
def goesAndComesBack : List SystemLabel := watchesTwo ++ closes 0 ++ comesBack

/-- Nothing but the push task is left when a device has gone and come back. -/
theorem no_task_outlives_its_request_back :
    ∃ final outputs, sdkMachine.Run (System.start 0) goesAndComesBack final outputs ∧
      final.AtRest ∧ final.tasks.entries = [] := by
  have checked : (sdkMachine.exec (System.start 0) goesAndComesBack).any fun result =>
      result.1.restCheck := by decide +kernel
  obtain ⟨final, outputs, run, isChecked⟩ := Machine.exists_run_of_exec checked
  have rests := atRest_of_check run (by decide) isChecked
  exact ⟨final, outputs, run, rests, (no_task_outlives_its_request run rests).1 (by decide)⟩

/-- What `ReciveIvsResult` asks for. -/
def plateRequest : Json :=
  .object [("cmd", .string "ivsresult"), ("enable", .boolean true), ("format", .string "json"),
    ("image", .boolean true), ("image_type", .int 2)]

/-- The device is back, so that the push thread posts the task of `ReciveIvsResult`. The request
is sent, and the queue thread does all there is to do. -/
def asksAgain : List SystemLabel :=
  goesAndComesBack ++ [.postTask 2 plateRequest 5000, .queueThread 4000 .pending,
    .asyncThread 4000 .pending, .queueThread 4000 .pending, .pushThread 4000 .null]

/-- A task that is posted and not waited for stays in the table. -/
theorem task_outlives_request :
    ∃ final outputs, sdkMachine.Run (System.start 0) asksAgain final outputs ∧
      final.AtRest ∧ final.tasks.entries ≠ [] := by
  have checked : (sdkMachine.exec (System.start 0) asksAgain).any fun result =>
      result.1.restCheck && !result.1.tasks.entries.isEmpty := by decide +kernel
  obtain ⟨final, outputs, run, isChecked⟩ := Machine.exists_run_of_exec checked
  simp only [Bool.and_eq_true, Bool.not_eq_true', List.isEmpty_eq_false_iff] at isChecked
  exact ⟨final, outputs, run, atRest_of_check run (by decide) isChecked.1, isChecked.2⟩

end VzSdk.Sdk
