import VzSdk.Sdk.Handles

/-!
# Resuming and the connection

While a device is offline its plates are missed; `ResumePushHandle` fetches them
later. It must not do so while its device is away. The handle hears of the
disconnections of every session and of no connection: `resume_follows_iff` says
in exactly which runs the flag that allows the fetching follows the connection of
the handle's own device.
-/

namespace VzSdk.Sdk

open VzSdk.Base VzSdk.Event VzSdk.Std

/-- `RES_DISCONNECTED_EVENT_*`. -/
def Stanza.isDisconnection (stanza : Stanza) : Bool :=
  stanza.stanzaType = .resDisconnectedEventSucceed ||
    stanza.stanzaType = .resDisconnectedEventFailure

/-- The message reports that a device was connected or disconnected. -/
def Stanza.isConnectionEvent (stanza : Stanza) : Bool :=
  stanza.isDisconnection || stanza.stanzaType = .resConnectedEvent

namespace PushManagerTask

variable {response : Stanza} {memory : Json}

/-- Connection events are accepted by no handle. -/
theorem handleMessageData_connectionEvent (handle : PushHandle)
    (isEvent : response.isConnectionEvent = true) :
    (handle.handleMessageData response memory).2 ≠ .accepted := by
  have others : response.stanzaType ≠ .resStanzaEvent ∧
      response.stanzaType ≠ .resResumeTaskEvent := by
    unfold Stanza.isConnectionEvent Stanza.isDisconnection at isEvent
    grind
  unfold PushHandle.handleMessageData
  cases handle.kind with
  | ivs =>
      simp only [PushHandle.ivsHandleMessageData, others.1, false_and, and_false, if_false]
      split
      · simp
      · split <;> simp
  | serial =>
      simp only [PushHandle.serialHandleMessageData, others.1, false_and, if_false]
      split
      · simp
      · split <;> simp
  | changeConn =>
      simp only [PushHandle.changeConnHandleMessageData]
      split
      · split
        · simp
        · split <;> simp
      · simp
  | resume =>
      simp [PushHandle.resumeHandleMessageData, PushHandle.ownResume, others.2]

/-- So that they come to every handle, unless one of them fails. -/
theorem offered_connectionEvent (isEvent : response.isConnectionEvent = true)
    {handles : List PushHandle} (succeeds : (offer response memory handles).2 = false) :
    offered response memory handles = handles := by
  induction handles with
  | nil => rfl
  | cons handle handles inductionHypothesis =>
      have notAccepted : (handle.handleMessageData response memory).2 ≠ .accepted :=
        handleMessageData_connectionEvent handle isEvent
      unfold offer at succeeds
      unfold offered
      generalize handle.handleMessageData response memory = result at notAccepted succeeds
      obtain ⟨actions, verdict⟩ := result
      cases verdict with
      | accepted => exact absurd rfl notAccepted
      | failed => cases succeeds
      | refused =>
          simp only [if_true, List.cons.injEq, true_and]
          exact inductionHypothesis succeeds

/-- Only resume handles switch fetching off, at any disconnection. -/
theorem disables_iff {handle : PushHandle} (isResume : handle.kind = .resume) :
    .disableGetrecord ∈ (handle.handleMessageData response memory).1 ↔
      response.isDisconnection = true := by
  simp only [PushHandle.handleMessageData, isResume, PushHandle.resumeHandleMessageData,
    Stanza.isDisconnection, Bool.or_eq_true, decide_eq_true_eq]
  split <;> split <;> simp_all

end PushManagerTask

namespace HandleState

variable {state next : HandleState} {label : HandleLabel} {emitted : List HandleOutput}

/-- The step switches fetching off for a handle. -/
def disables (state : HandleState) (handle : PushHandle) : HandleLabel → Bool
  | .disConnecting other => handle = other
  | .dispatch now memory _ => (state.nextActs now memory).contains (handle, .disableGetrecord)
  | _ => false

/-- The registered handles after a step. -/
def handlesAfter (state : HandleState) : HandleLabel → List PushHandle
  | .addPushHandle handle => state.push.manager.pushHandles ++ [handle]
  | .removePushHandle handle =>
      state.push.manager.pushHandles.eraseP fun other => other.object = handle.object
  | _ => state.push.manager.pushHandles

/-- The next dispatch ends in a Json failure. -/
def dispatchFails (state : HandleState) (now : UInt32) (memory : Json) : Bool :=
  (state.push.manager.processPushEvent (state.push.nextPayload now) memory).2

/-- Going on to the next record leaves the resumption enabled or disabled. -/
theorem enableGetrecord_nextFetch (object : HandleObject) (id : Int) (rounds : Nat) :
    (object.nextFetch id rounds).1.enableGetrecord = object.enableGetrecord := by
  induction rounds generalizing object id with
  | zero => rfl
  | succ rounds inductionHypothesis =>
      unfold HandleObject.nextFetch
      split
      · split
        · rw [inductionHypothesis]
        · rfl
      · rfl

/-- So does going on for one handle. -/
theorem enableGetrecord_advance (handle other : PushHandle) (object : HandleObject) (id : Int)
    (same : object.enableGetrecord = (state.objects handle).enableGetrecord) :
    ((state.advance handle object id).objects other).enableGetrecord =
      (state.objects other).enableGetrecord := by
  simp only [advance, setObject]
  split
  · next isHandle => rw [enableGetrecord_nextFetch, same, isHandle]
  · rfl

/-- So does another object that is enabled alike. -/
theorem enableGetrecord_setObject (handle other : PushHandle) (object : HandleObject)
    (same : object.enableGetrecord = (state.objects handle).enableGetrecord) :
    ((state.setObject handle object).objects other).enableGetrecord =
      (state.objects other).enableGetrecord := by
  simp only [setObject]
  split
  · next isHandle => rw [same, isHandle]
  · rfl

/-- So does asking for what is to be resumed. -/
theorem enableGetrecord_resumeInfo {info : Option (Bool × Int)}
    (transition : state.resumeInfo info = some next) (handle : PushHandle) :
    (next.objects handle).enableGetrecord = (state.objects handle).enableGetrecord := by
  unfold resumeInfo at transition
  split at transition
  · next asked _ =>
      have kept : (slotRecvGetResumeInfo (state.objects asked) info).enableGetrecord =
          (state.objects asked).enableGetrecord := by
        unfold slotRecvGetResumeInfo
        split <;> rfl
      simp only at transition
      split at transition
      · cases transition
        exact enableGetrecord_advance asked handle _ _ kept
      · cases transition
        exact enableGetrecord_setObject asked handle _ kept
  · cases transition

/-- A step of the push task, by its label. -/
theorem pushHandles_pushStep {label : PushLabel} {push : PushState} {outputs : List PushOutput}
    (transition : state.push.step label = some (push, outputs)) :
    push.manager.pushHandles = match label with
      | .addPushHandle handle => state.push.manager.pushHandles ++ [handle]
      | .removePushHandle handle =>
          state.push.manager.pushHandles.eraseP fun other => other.object = handle.object
      | .dispatch _ _ registered => state.push.manager.pushHandles ++ registered
      | _ => state.push.manager.pushHandles := by
  unfold PushState.step at transition
  split at transition
  · cases transition
  · cases label with
    | handleMessage messageId stanza =>
        cases transition
        simp only [PushState.handleMessage]
        split
        · rfl
        · split <;> rfl
    | dispatch now memory registered =>
        simp only at transition
        split at transition
        · cases transition
          exact PushManagerTask.pushHandles_addPushHandles _ _
        · cases transition
    | _ =>
        cases transition
        rfl

/-- Fetching is never switched on again. -/
theorem enableGetrecord_step (transition : handleMachine.step state label = some (next, emitted))
    (handle : PushHandle) :
    (next.objects handle).enableGetrecord =
      ((state.objects handle).enableGetrecord && !state.disables handle label) := by
  unfold handleMachine step at transition
  simp only at transition
  split at transition
  · cases transition
  · cases label with
    | addPushHandle | removePushHandle | handleMessage =>
        obtain ⟨push, _, _, rfl, _⟩ := pushStep_eq_some transition
        simp [disables]
    | setCallBack | setStartMaxRecordId =>
        cases transition
        refine (enableGetrecord_setObject _ _ _ ?_).trans (by simp [disables])
        rfl
    | disConnecting other =>
        cases transition
        by_cases same : handle = other <;> simp [setObject, disables, same]
    | close =>
        cases transition
        simp [disables]
    | dispatch now memory uId =>
        obtain ⟨_, push, _, _, rfl, _⟩ := dispatch_eq_some transition
        rfl
    | drop now =>
        simp only at transition
        split at transition
        · obtain ⟨push, _, _, rfl, _⟩ := pushStep_eq_some transition
          simp [disables]
        · cases transition
    | resumeInfo info =>
        obtain ⟨final, isFinal, same⟩ := Option.map_eq_some_iff.mp transition
        cases same
        simp [disables, enableGetrecord_resumeInfo isFinal]
    | getRecord uId =>
        simp only [getRecord] at transition
        split at transition
        · cases transition
          refine (enableGetrecord_advance _ _ _ _ ?_).trans (by simp [disables])
          rfl
        · cases transition

/-- Which handles are registered after a step. -/
theorem pushHandles_step (transition : handleMachine.step state label = some (next, emitted)) :
    next.push.manager.pushHandles = state.handlesAfter label := by
  unfold handleMachine step at transition
  simp only at transition
  split at transition
  · cases transition
  · cases label with
    | addPushHandle | removePushHandle | handleMessage =>
        obtain ⟨push, _, stepped, rfl, _⟩ := pushStep_eq_some transition
        exact pushHandles_pushStep stepped
    | setCallBack | setStartMaxRecordId | disConnecting | close =>
        cases transition
        rfl
    | dispatch now memory uId =>
        obtain ⟨_, push, _, stepped, rfl, _⟩ := dispatch_eq_some transition
        exact (pushHandles_pushStep stepped).trans (List.append_nil _)
    | drop now =>
        simp only at transition
        split at transition
        · obtain ⟨push, _, stepped, rfl, _⟩ := pushStep_eq_some transition
          exact pushHandles_pushStep stepped
        · cases transition
    | resumeInfo info =>
        obtain ⟨final, isFinal, same⟩ := Option.map_eq_some_iff.mp transition
        cases same
        unfold resumeInfo at isFinal
        split at isFinal
        · simp only at isFinal
          split at isFinal <;> cases isFinal <;> rfl
        · cases isFinal
    | getRecord uId =>
        simp only [getRecord] at transition
        split at transition
        · cases transition
          rfl
        · cases transition

/-- Registering a handle never fails, and a dispatch fails when a handle does. -/
theorem failed_step (transition : handleMachine.step state label = some (next, emitted)) :
    state.push.failed = false ∧
      (∀ handle, label = .addPushHandle handle → next.push.failed = false) ∧
      ∀ now memory uId, label = .dispatch now memory uId →
        next.push.failed = state.dispatchFails now memory := by
  unfold handleMachine step at transition
  simp only at transition
  split at transition
  · cases transition
  · next running =>
      have running : state.push.failed = false := by simpa using running
      refine ⟨running, ?_, ?_⟩
      · rintro handle rfl
        obtain ⟨push, _, stepped, rfl, _⟩ := pushStep_eq_some transition
        simp only [PushState.step, running, Bool.false_eq_true, if_false, Option.some.injEq,
          Prod.mk.injEq] at stepped
        rw [← stepped.1]
      · rintro now memory uId rfl
        obtain ⟨_, push, _, stepped, rfl, _⟩ := dispatch_eq_some transition
        rw [PushState.step_dispatch_nil running, Option.some.injEq, Prod.mk.injEq] at stepped
        rw [← stepped.1]
        rfl

end HandleState

/-! ## The connection of the handle's device -/

/-- For the proofs only: what the push task has processed and the application has done. -/
structure ConnectionRecord where
  /-- The connection events that the push task has processed, the latest first. -/
  processed : List Stanza
  /-- The resume handles of the devices on which `DisconnectServer` was called. -/
  disconnecting : List PushHandle

namespace ConnectionRecord

/-- Nothing was recorded at the start. -/
def start : ConnectionRecord := ⟨[], []⟩

/-- The last connection event of the session is a disconnection. -/
def isDown (record : ConnectionRecord) (sessionId : UInt32) : Bool :=
  (record.processed.find? (·.sessionId = sessionId)).any Stanza.isDisconnection

/-- What is recorded of a step. -/
def note (record : ConnectionRecord) (state : HandleState) (label : HandleLabel)
    (_ : HandleState) : ConnectionRecord :=
  match label with
  | .dispatch now _ _ =>
      { record with
        processed :=
          ((state.push.nextPayload now).filter Stanza.isConnectionEvent).toList ++
            record.processed }
  | .disConnecting handle => { record with disconnecting := handle :: record.disconnecting }
  | _ => record

end ConnectionRecord

/-- `handleMachine` with the record of the connection events. -/
def connectionMachine : Machine (HandleState × ConnectionRecord) HandleLabel HandleOutput :=
  handleMachine.watch ConnectionRecord.note

/-- The resume handle of an open device on which `DisconnectServer` was not called. -/
def Resumes (watched : HandleState × ConnectionRecord) (handle : PushHandle) : Prop :=
  handle.kind = .resume ∧ handle.sessionId ∉ watched.1.closed ∧
    handle ∉ watched.2.disconnecting

/-- Fetching is on exactly when the device's last connection event is no disconnection. -/
def FollowsOwn (watched : HandleState × ConnectionRecord) (handle : PushHandle) : Prop :=
  (watched.1.objects handle).enableGetrecord = !watched.2.isDown handle.sessionId

/-- Unless the program has ended, every registered resume handle follows its own device. -/
def ResumeFollows (watched : HandleState × ConnectionRecord) : Prop :=
  watched.1.push.failed = false → ∀ handle ∈ watched.1.push.manager.pushHandles,
    Resumes watched handle → FollowsOwn watched handle

/-- The step keeps the resume handles with their devices: one is registered only if it
follows its device; a disconnection is dispatched only if every device with a resume handle
is the one it is about or is down as well; and a connection only if its device's resume
handle was not down. -/
def KeepsFollowing (watched : HandleState × ConnectionRecord) : HandleLabel → Prop
  | .addPushHandle handle => Resumes watched handle → FollowsOwn watched handle
  | .dispatch now memory _ => ∀ response, watched.1.push.nextPayload now = some response →
      (PushManagerTask.offer response memory watched.1.push.manager.pushHandles).2 = false →
      ∀ handle ∈ watched.1.push.manager.pushHandles, Resumes watched handle →
        (response.isDisconnection = true → response.sessionId = handle.sessionId ∨
          watched.2.isDown handle.sessionId = true) ∧
        (response.stanzaType = .resConnectedEvent → response.sessionId = handle.sessionId →
          watched.2.isDown handle.sessionId = false)
  | _ => True

section ConnectionRecord

variable {watched next : HandleState × ConnectionRecord} {label : HandleLabel}
  {emitted : List HandleOutput}

/-- A device is down by the last message that reports it. -/
theorem isDown_cons (record : ConnectionRecord) (stanza : Stanza) (sessionId : UInt32) :
    ({ record with processed := stanza :: record.processed } : ConnectionRecord).isDown sessionId =
      if stanza.sessionId = sessionId then stanza.isDisconnection else record.isDown sessionId := by
  unfold ConnectionRecord.isDown
  rw [List.find?_cons]
  by_cases own : stanza.sessionId = sessionId <;> simp [own]

/-- What resumes after a step resumed before it. -/
theorem resumes_of_next (transition : connectionMachine.step watched label = some (next, emitted))
    {handle : PushHandle} (resumes : Resumes next handle) : Resumes watched handle := by
  obtain ⟨transition, noted⟩ := Machine.step_of_watch transition
  obtain ⟨isResume, isOpen, connected⟩ := resumes
  rw [(HandleState.outputs_step transition).2, List.mem_append, not_or] at isOpen
  refine ⟨isResume, isOpen.2, ?_⟩
  intro disconnecting
  refine connected ?_
  rw [noted]
  unfold ConnectionRecord.note
  split
  · exact disconnecting
  · exact List.mem_cons_of_mem _ disconnecting
  · exact disconnecting

/-- The same devices resume after a step that closes none. -/
theorem resumes_next_iff (transition : connectionMachine.step watched label = some (next, emitted))
    (noClose : HandleState.closes label = [])
    (noDisconnect : ∀ other, label ≠ .disConnecting other) (handle : PushHandle) :
    Resumes next handle ↔ Resumes watched handle := by
  refine ⟨resumes_of_next transition, ?_⟩
  obtain ⟨transition, noted⟩ := Machine.step_of_watch transition
  rintro ⟨isResume, isOpen, connected⟩
  refine ⟨isResume, ?_, ?_⟩
  · rw [(HandleState.outputs_step transition).2, noClose]
    exact isOpen
  · rw [noted]
    unfold ConnectionRecord.note
    split
    · exact connected
    · exact absurd rfl (noDisconnect _)
    · exact connected

/-- What is no dispatch leaves the handle with its device, or away from it. -/
theorem followsOwn_next_iff
    (transition : connectionMachine.step watched label = some (next, emitted))
    (noDispatch : ∀ now memory uId, label ≠ .dispatch now memory uId) {handle : PushHandle}
    (resumes : Resumes next handle) : FollowsOwn next handle ↔ FollowsOwn watched handle := by
  obtain ⟨transition, noted⟩ := Machine.step_of_watch transition
  have enabled : watched.1.disables handle label = false := by
    cases label with
    | disConnecting other =>
        simp only [HandleState.disables, decide_eq_false_iff_not]
        rintro rfl
        exact resumes.2.2 (by simp [noted, ConnectionRecord.note])
    | dispatch now memory uId => exact absurd rfl (noDispatch now memory uId)
    | _ => rfl
  have sameEvents : next.2.isDown handle.sessionId = watched.2.isDown handle.sessionId := by
    rw [noted]
    cases label with
    | dispatch now memory uId => exact absurd rfl (noDispatch now memory uId)
    | _ => rfl
  unfold FollowsOwn
  rw [HandleState.enableGetrecord_step transition, enabled, sameEvents]
  simp

/-- A dispatched payload switches fetching off for a registered resume handle exactly when it
is a disconnection, of whatever session. -/
theorem disables_dispatch_iff {state : HandleState} {now : UInt32} {memory : Json} {uId : Int}
    {response : Stanza} {handle : PushHandle}
    (payload : state.push.nextPayload now = some response)
    (succeeds : (PushManagerTask.offer response memory state.push.manager.pushHandles).2 = false)
    (member : handle ∈ state.push.manager.pushHandles) (isResume : handle.kind = .resume) :
    state.disables handle (.dispatch now memory uId) = response.isDisconnection := by
  simp only [HandleState.disables, HandleState.nextActs, payload]
  rw [Bool.eq_iff_iff, List.contains_iff_mem, PushManagerTask.mem_acts,
    PushManagerTask.disables_iff isResume]
  refine and_iff_right_of_imp fun isDisconnection => ?_
  rw [PushManagerTask.offered_connectionEvent (by simp [Stanza.isConnectionEvent, isDisconnection])
    succeeds]
  exact member

/-- A dispatch keeps a handle with its device exactly under the condition. -/
theorem followsOwn_dispatch_iff {now : UInt32} {memory : Json} {uId : Int}
    (transition : connectionMachine.step watched (.dispatch now memory uId) = some (next, emitted))
    {response : Stanza} (payload : watched.1.push.nextPayload now = some response)
    (succeeds : (PushManagerTask.offer response memory watched.1.push.manager.pushHandles).2 = false)
    {handle : PushHandle} (member : handle ∈ watched.1.push.manager.pushHandles)
    (isResume : handle.kind = .resume) (follows : FollowsOwn watched handle) :
    FollowsOwn next handle ↔
      (response.isDisconnection = true → response.sessionId = handle.sessionId ∨
        watched.2.isDown handle.sessionId = true) ∧
      (response.stanzaType = .resConnectedEvent → response.sessionId = handle.sessionId →
        watched.2.isDown handle.sessionId = false) := by
  obtain ⟨transition, noted⟩ := Machine.step_of_watch transition
  have down : next.2.isDown handle.sessionId =
      if response.isConnectionEvent = true ∧ response.sessionId = handle.sessionId then
        response.isDisconnection
      else watched.2.isDown handle.sessionId := by
    rw [noted]
    simp only [ConnectionRecord.note, payload]
    cases isEvent : response.isConnectionEvent with
    | false => simp [Option.filter, isEvent]
    | true =>
        simp only [Option.filter, isEvent, if_true, Option.toList_some, List.singleton_append,
          true_and]
        exact isDown_cons _ _ _
  have exclusive : response.isDisconnection = true → response.stanzaType ≠ .resConnectedEvent := by
    unfold Stanza.isDisconnection
    grind
  have flag := HandleState.enableGetrecord_step transition handle
  unfold FollowsOwn at follows ⊢
  rw [flag, follows, down,
    disables_dispatch_iff payload succeeds member isResume]
  unfold Stanza.isConnectionEvent
  cases isDisconnection : response.isDisconnection with
  | true => by_cases own : response.sessionId = handle.sessionId <;> simp [own, exclusive isDisconnection]
  | false =>
      by_cases own : response.sessionId = handle.sessionId <;>
        by_cases connected : response.stanzaType = .resConnectedEvent <;> simp [own, connected]

/-- From a state with every resume handle at its device, a step leads to one exactly under
the condition. -/
theorem resumeFollows_step_iff
    (transition : connectionMachine.step watched label = some (next, emitted))
    (follows : ResumeFollows watched) : ResumeFollows next ↔ KeepsFollowing watched label := by
  have stepped := (Machine.step_of_watch transition).1
  have handles := HandleState.pushHandles_step stepped
  obtain ⟨running, adds, failing⟩ := HandleState.failed_step stepped
  have before := follows running
  have quiet (noDispatch : ∀ now memory uId, label ≠ .dispatch now memory uId) :
      ∀ handle ∈ watched.1.push.manager.pushHandles, Resumes next handle →
        FollowsOwn next handle := fun handle member resumes =>
    (followsOwn_next_iff transition noDispatch resumes).mpr
      (before handle member (resumes_of_next transition resumes))
  unfold ResumeFollows
  cases label with
  | addPushHandle handle =>
      have resumes := resumes_next_iff transition rfl (by simp)
      have same {other : PushHandle} (isResume : Resumes watched other) :=
        followsOwn_next_iff transition (by simp) ((resumes other).mpr isResume)
      rw [handles]
      simp only [HandleState.handlesAfter, KeepsFollowing, resumes, List.mem_append,
        List.mem_singleton]
      constructor
      · intro follow isResume
        exact (same isResume).mp (follow (adds handle rfl) handle (.inr rfl) isResume)
      · rintro follow _ other (member | rfl) isResume
        · exact quiet (by simp) other member ((resumes other).mpr isResume)
        · exact (same isResume).mpr (follow isResume)
  | removePushHandle handle =>
      refine iff_of_true (fun _ other member => ?_) trivial
      rw [handles] at member
      exact quiet (by simp) other (List.mem_of_mem_eraseP member)
  | dispatch now memory uId =>
      have resumes := resumes_next_iff transition rfl (by simp)
      rw [failing now memory uId rfl, handles]
      simp only [HandleState.dispatchFails, HandleState.handlesAfter, KeepsFollowing, resumes]
      cases payload : watched.1.push.nextPayload now with
      | none =>
          refine iff_of_true (fun _ handle member isResume => ?_) (by simp)
          have flag := HandleState.enableGetrecord_step stepped handle
          have noted := (Machine.step_of_watch transition).2
          have own := before handle member isResume
          unfold FollowsOwn at own ⊢
          rw [flag, noted]
          simpa [HandleState.disables, HandleState.nextActs, payload, ConnectionRecord.note]
            using own
      | some response =>
          simp only [Option.some.injEq, forall_eq']
          refine imp_congr_right fun succeeds => forall₂_congr fun handle member => ?_
          refine imp_congr_right fun isResume => ?_
          exact followsOwn_dispatch_iff transition payload succeeds member isResume.1
            (before handle member isResume)
  | _ =>
      refine iff_of_true (fun _ other member => ?_) trivial
      rw [handles] at member
      exact quiet (by simp) other member

end ConnectionRecord

/-- Every registered resume handle follows its own device in every state of a run exactly
when every step of the run keeps it so. -/
theorem resume_follows_iff {taskId : UInt32} {labels : List HandleLabel}
    {final : HandleState × ConnectionRecord} {outputs : List HandleOutput}
    (run : connectionMachine.Run (.start taskId, .start) labels final outputs) :
    connectionMachine.Throughout ResumeFollows (.start taskId, .start) labels final outputs ↔
      connectionMachine.RunWhere KeepsFollowing (.start taskId, .start) labels final outputs := by
  refine Machine.RunWhere.throughout_iff ResumeFollows ?_ ?_ run
    (fun _ _ => trivial : ∀ label ∈ labels, True)
  · exact fun _ handle member => absurd member List.not_mem_nil
  · exact fun _ follows _ transition => resumeFollows_step_iff transition follows

/-- The resume handle of session 2. -/
def resumeHandle : PushHandle := ⟨2, .resume, "resume_rec", 2⟩

/-- The connection and the resume handle are registered; the greatest record id is 6. -/
def resumeSubscribed : List HandleLabel :=
  [.addPushHandle ⟨3, .changeConn, "change_conn_status", 2⟩, .setCallBack resumeHandle true,
    .setStartMaxRecordId resumeHandle 6, .addPushHandle resumeHandle]

/-- A device is lost and comes back. -/
def lostAndFound : List HandleLabel :=
  [.handleMessage 2 (.plain .disconnectedFailure 2), .dispatch 10 .null 0,
    .handleMessage 2 (.plain .connected 2), .dispatch 10 .null 0]

/-- A check that is enough for the resume handle of session 2 to follow its device. -/
def resumeFollowsCheck (watched : HandleState × ConnectionRecord) : Bool :=
  watched.1.push.manager.pushHandles.all fun handle => handle.kind ≠ .resume ||
    (watched.1.objects handle).enableGetrecord = !watched.2.isDown handle.sessionId

/-- The check finds that the resumption follows the connection. -/
theorem resumeFollows_of_check {watched : HandleState × ConnectionRecord}
    (checked : resumeFollowsCheck watched = true) : ResumeFollows watched := by
  intro _ handle member resumes
  have one := List.all_eq_true.mp checked handle member
  simpa [resumes.1, FollowsOwn] using one

/-- While the device is away its resume handle does not fetch. -/
theorem resume_follows_lost :
    ∃ labels final outputs, connectionMachine.Run (.start 2, .start) labels final outputs ∧
      final.2.isDown 2 = true ∧ (final.1.objects resumeHandle).enableGetrecord = false ∧
      connectionMachine.Throughout ResumeFollows (.start 2, .start) labels final outputs ∧
      connectionMachine.RunWhere KeepsFollowing (.start 2, .start) labels final outputs := by
  have permitted : connectionMachine.permits (fun watched _ => resumeFollowsCheck watched)
      (.start 2, .start) (resumeSubscribed ++ lostAndFound.take 2) = true := by decide +kernel
  have checked : (connectionMachine.exec (.start 2, .start)
      (resumeSubscribed ++ lostAndFound.take 2)).any (fun result =>
        result.1.2.isDown 2 && !(result.1.1.objects resumeHandle).enableGetrecord &&
          resumeFollowsCheck result.1) = true := by decide +kernel
  obtain ⟨final, outputs, follow, isFinal⟩ := Machine.exists_runWhere_of_exec
    (fun watched _ checked => resumeFollows_of_check checked) permitted checked
  simp only [Bool.and_eq_true, Bool.not_eq_true'] at isFinal
  have throughout := And.intro follow (resumeFollows_of_check isFinal.2)
  exact ⟨_, final, outputs, follow.run, isFinal.1.1, isFinal.1.2, throughout,
    (resume_follows_iff follow.run).mp throughout⟩

/-- When the device is back its resume handle does not know. -/
theorem resume_lags_reconnected :
    ∃ labels final outputs, connectionMachine.Run (.start 2, .start) labels final outputs ∧
      ¬ResumeFollows final := by
  have checked : (connectionMachine.exec (.start 2, .start)
      (resumeSubscribed ++ lostAndFound)).any (fun result =>
        !result.1.1.push.failed && decide (resumeHandle ∈ result.1.1.push.manager.pushHandles) &&
          result.1.1.closed.isEmpty && result.1.2.disconnecting.isEmpty &&
          !(result.1.1.objects resumeHandle).enableGetrecord && !result.1.2.isDown 2) = true := by
    decide +kernel
  obtain ⟨final, outputs, run, isFinal⟩ := Machine.exists_run_of_exec checked
  simp only [Bool.and_eq_true, Bool.not_eq_true', decide_eq_true_eq, List.isEmpty_iff] at isFinal
  obtain ⟨⟨⟨⟨⟨running, member⟩, isOpen⟩, connected⟩, disabled⟩, isUp⟩ := isFinal
  refine ⟨_, final, outputs, run, fun follows => ?_⟩
  have own := follows running resumeHandle member ⟨rfl, by simp [isOpen], by simp [connected]⟩
  unfold FollowsOwn at own
  rw [disabled] at own
  simp [resumeHandle, isUp] at own

end VzSdk.Sdk
