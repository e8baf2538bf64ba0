import VzSdk.Sdk.PushManager

/-!
# Push handles and the user's callbacks

The objects behind the push handles: the user's callbacks, and the progress of
`ResumePushHandle`, which on its timer asks the device for the greatest record
id and then fetches record by record, on the push thread, waiting for every
answer. `handleMachine` runs the push thread among the calls of the application
and any messages of the queue layer. What is registered inside a dispatch counts as
registered before it (`PushState.step_dispatch_registered`). Closing a device takes none of its handles
away: `silent_after_close_iff` says in exactly which runs no callback of a closed
device is called.
-/

namespace VzSdk.Sdk

open VzSdk.Base VzSdk.Event VzSdk.Std

/-- What a push handle object holds besides its key and its session. -/
structure HandleObject where
  /-- `result_callback_`, `func_`, `conn_callback_` or `plate_func_` is set. -/
  callback : Bool
  /-- `IvsPushHandle::recongnition_`, by the resume handle of the object it points to.
  `SetRecongnition` has no callers, so that it stays null. -/
  recongnition : Option PushHandle
  -- The fields of `ResumePushHandle`.
  enableGetrecord : Bool
  maxRecordId : Int
  curMaxRecordId : Int
  recvRecordIdSet : List Int
deriving DecidableEq

/-- Where the push thread is inside `ResumePushHandle::HandleResponse`. -/
inductive ResumePhase where
  /-- In `SlotRecvGetResumeInfo`, waiting for the greatest record id. -/
  | asking (handle : PushHandle)
  /-- In `GetRecord`, waiting for the record. -/
  | fetching (handle : PushHandle) (id : Int)
deriving DecidableEq

/-- The push task with the objects of its handles. -/
structure HandleState where
  push : PushState
  objects : PushHandle → HandleObject
  phase : Option ResumePhase
  /-- For the proofs only: the devices whose closing has returned success. -/
  closed : List UInt32

/-- What happens to the push task, its handles and those who use them. -/
inductive HandleLabel where
  -- Calls of the application and of the queue layer.
  | addPushHandle (handle : PushHandle)
  | removePushHandle (handle : PushHandle)
  | handleMessage (messageId : UInt32) (stanza : Stanza)
  | setCallBack (handle : PushHandle) (callback : Bool)
  | setStartMaxRecordId (handle : PushHandle) (maxRecordId : Int)
  /-- `DisconnectServer` has begun on the device of a resume handle. -/
  | disConnecting (handle : PushHandle)
  /-- `VzLPRTcp_Close` returns success. -/
  | close (sessionId : UInt32)
  -- The push thread. `uId` is what the record id of a plate holds when the JSON has none.
  | dispatch (now : UInt32) (memory : Json) (uId : Int)
  /-- A nested wait takes a message and drops it. -/
  | drop (now : UInt32)
  /-- `SlotRecvGetResumeInfo` has set the callback and the greatest record id, or nobody
  is connected to the signal any more. -/
  | resumeInfo (info : Option (Bool × Int))
  /-- `GetRecord` has filled in a record, or left what was there. -/
  | getRecord (uId : Int)

/-- What a user callback is called with. -/
inductive CallEvent where
  | plate (uId : Int)
  | resumedPlate (uId : Int)
  | serialData
  | notify (notify : Notify)
deriving DecidableEq, Repr

/-- What is seen of it: calls of callbacks, and closed devices. -/
inductive HandleOutput where
  | called (handle : PushHandle) (event : CallEvent)
  | closed (sessionId : UInt32)
deriving DecidableEq, Repr

/-- `uId` after `ParsePlateResultResponse`: the member `id`, if it is an `int`. What a real
number amounts to is left to `uId`, like the value that was there. -/
def Json.recordId (json : Json) (uId : Int) : Int :=
  match json.member "id" with
  | some (.int value) => if -2 ^ 31 ≤ value ∧ value < 2 ^ 31 then value else uId
  | some (.uint value) => if value < 2 ^ 31 then value else uId
  | _ => uId

/-- `strcmp(value.subcmd, "send") == 0`. -/
def Json.isSend (json : Json) : Bool :=
  match json.member "subcmd" with
  | some (.string subcmd) => subcmd = "send"
  | _ => false

namespace PushManagerTask

/-- The loop of `ProcessPushEvent`, with the handle of each action. -/
def acts (response : Stanza) (memory : Json) : List PushHandle → List (PushHandle × HandleAction)
  | [] => []
  | handle :: handles =>
      (handle.handleMessageData response memory).1.map (handle, ·) ++
        if (handle.handleMessageData response memory).2 = .refused then acts response memory handles
        else []

/-- The handles that the loop of `ProcessPushEvent` comes to. -/
def offered (response : Stanza) (memory : Json) : List PushHandle → List PushHandle
  | [] => []
  | handle :: handles =>
      handle :: if (handle.handleMessageData response memory).2 = .refused then
        offered response memory handles
      else []

/-- What a handle does, it does when it is offered the message. -/
theorem mem_acts {response : Stanza} {memory : Json} {handles : List PushHandle}
    {act : PushHandle × HandleAction} :
    act ∈ acts response memory handles ↔ act.1 ∈ offered response memory handles ∧
      act.2 ∈ (act.1.handleMessageData response memory).1 := by
  induction handles with
  | nil => simp [acts, offered]
  | cons handle handles inductionHypothesis =>
      obtain ⟨actor, action⟩ := act
      have own : (∃ done ∈ (handle.handleMessageData response memory).1,
          (handle, done) = (actor, action)) ↔
            actor = handle ∧ action ∈ (actor.handleMessageData response memory).1 := by
        constructor
        · rintro ⟨_, did, ⟨⟩⟩
          exact ⟨rfl, did⟩
        · rintro ⟨rfl, did⟩
          exact ⟨action, did, rfl⟩
      simp only [acts, offered, List.mem_append, List.mem_map, List.mem_cons, own]
      by_cases refused : (handle.handleMessageData response memory).2 = .refused
      · rw [if_pos refused, if_pos refused, inductionHypothesis, or_and_right]
      · rw [if_neg refused, if_neg refused]
        simp

/-- The actions are those of `offer`. -/
theorem offer_eq_acts (response : Stanza) (memory : Json) (handles : List PushHandle) :
    (offer response memory handles).1 =
      (acts response memory handles).map fun act => ⟨response, act.2⟩ := by
  induction handles with
  | nil => rfl
  | cons handle handles inductionHypothesis =>
      rw [outputs_offer_cons, acts, List.map_append, List.map_map]
      split
      · rw [inductionHypothesis]
        rfl
      · rfl

end PushManagerTask

/-- The payload is one that the handle calls the user for: a plate of its session, serial
data of any session, or a change of its connection. -/
def PushHandle.wants (handle : PushHandle) (response : Stanza) (memory : Json) : Bool :=
  match handle.kind with
  | .ivs =>
      response.sessionId = handle.sessionId && response.stanzaType = .resStanzaEvent &&
        (objectCmd response memory).bind (·.asString) = some handle.cmdKey
  | .serial =>
      response.stanzaType = .resStanzaEvent &&
        (objectCmd response memory).bind (·.asString) = some handle.cmdKey &&
        (response.resJson memory).isSend
  | .changeConn =>
      response.sessionId = handle.sessionId && (response.stanzaType = .resConnectedEvent ||
        response.stanzaType = .resDisconnectedEventFailure)
  | .resume => false

namespace HandleObject

/-- After the constructor; `max_record_id_` is set when the handle is registered. -/
def new : HandleObject := ⟨false, none, true, 0, 0, []⟩

/-- The loop of `HandleResponse` from `id` on, up to the next record to fetch. Records that
were received live are passed over. -/
def nextFetch (object : HandleObject) (id : Int) : Nat → HandleObject × Option Int
  | 0 => (object, none)
  | rounds + 1 =>
      if id ≤ object.curMaxRecordId then
        if id ∈ object.recvRecordIdSet then
          nextFetch
            { object with
              maxRecordId := id
              recvRecordIdSet := object.recvRecordIdSet.filter (· ≠ id) } (id + 1) rounds
        else (object, some id)
      else (object, none)

end HandleObject

namespace HandleState

/-- Nothing is registered or closed at the start. -/
def start (taskId : UInt32) : HandleState := ⟨.start taskId, fun _ => .new, none, []⟩

/-- The object of a handle becomes another one. -/
def setObject (state : HandleState) (handle : PushHandle) (object : HandleObject) : HandleState :=
  { state with objects := fun other => if other = handle then object else state.objects other }

/-- The actions of the next dispatch. -/
def nextActs (state : HandleState) (now : UInt32) (memory : Json) :
    List (PushHandle × HandleAction) :=
  match state.push.nextPayload now with
  | none => []
  | some response => PushManagerTask.acts response memory state.push.manager.pushHandles

/-- The record id of the next dispatched plate. -/
def nextRecordId (state : HandleState) (now : UInt32) (memory : Json) (uId : Int) : Int :=
  match state.push.nextPayload now with
  | none => uId
  | some response => (response.resJson memory).recordId uId

/-- The callback that an action calls. -/
def call (state : HandleState) (now : UInt32) (memory : Json) (uId : Int)
    (act : PushHandle × HandleAction) : Option HandleOutput :=
  if (state.objects act.1).callback then
    match act.2 with
    | .plateCallback => some (.called act.1 (.plate (state.nextRecordId now memory uId)))
    | .serialCallback =>
        if (state.push.nextPayload now).any fun response => (response.resJson memory).isSend then
          some (.called act.1 .serialData)
        else none
    | .changeConnStatus notify => some (.called act.1 (.notify notify))
    | _ => none
  else none

/-- A handle object after a dispatch. -/
def actedOn (state : HandleState) (now : UInt32) (memory : Json) (uId : Int)
    (handle : PushHandle) : HandleObject :=
  let acts := state.nextActs now memory
  let object := state.objects handle
  { object with
    enableGetrecord := object.enableGetrecord && !acts.contains (handle, .disableGetrecord)
    recvRecordIdSet :=
      (if acts.any fun act =>
          act.2 = .plateCallback && (state.objects act.1).recongnition = some handle then
        [state.nextRecordId now memory uId]
      else []) ++ object.recvRecordIdSet }

/-- `ProcessPushEvent` of the next message. A handle that takes its own resume event goes on
in `HandleResponse`. -/
def dispatch (state : HandleState) (now : UInt32) (memory : Json) (uId : Int) :
    Option (HandleState × List HandleOutput) :=
  match state.phase, state.push.step (.dispatch now memory []) with
  | none, some (push, _) =>
      let acts := state.nextActs now memory
      some ({ state with
          push := push
          objects := state.actedOn now memory uId
          phase := acts.findSome? fun act =>
            if act.2 = .resumeRecords then some (.asking act.1) else none },
        acts.filterMap (state.call now memory uId))
  | _, _ => none

/-- Go on in the loop of `HandleResponse` from `id`. At its end `PostResumeReq` is called. -/
def advance (state : HandleState) (handle : PushHandle) (object : HandleObject) (id : Int) :
    HandleState :=
  let (object, next) := object.nextFetch id (object.curMaxRecordId + 1 - id).toNat
  { state.setObject handle object with phase := next.map (.fetching handle) }

/-- `SlotRecvGetResumeInfo`. -/
def slotRecvGetResumeInfo (object : HandleObject) : Option (Bool × Int) → HandleObject
  | none => object
  | some (callback, curMaxRecordId) =>
      { object with callback := callback, curMaxRecordId := curMaxRecordId }

/-- `HandleResponse` after its signal. -/
def resumeInfo (state : HandleState) (info : Option (Bool × Int)) : Option HandleState :=
  match state.phase with
  | some (.asking handle) =>
      let object := slotRecvGetResumeInfo (state.objects handle) info
      if object.callback ∧ object.enableGetrecord ∧ 0 < object.curMaxRecordId then
        some (state.advance handle object (object.maxRecordId + 1))
      else some { state.setObject handle object with phase := none }
  | _ => none

/-- The loop of `HandleResponse` after `GetRecord`: whatever the call has left is reported. -/
def getRecord (state : HandleState) (uId : Int) : Option (HandleState × List HandleOutput) :=
  match state.phase with
  | some (.fetching handle id) =>
      let object := { state.objects handle with maxRecordId := id }
      some (state.advance handle object (id + 1), [.called handle (.resumedPlate uId)])
  | _ => none

/-- A step of the push task that is no dispatch. -/
def pushStep (state : HandleState) (label : PushLabel) : Option (HandleState × List HandleOutput) :=
  (state.push.step label).map fun result => ({ state with push := result.1 }, [])

/-- What happens in a step. -/
def step (state : HandleState) (label : HandleLabel) : Option (HandleState × List HandleOutput) :=
  if state.push.failed then none
  else
    match label with
    | .addPushHandle handle => state.pushStep (.addPushHandle handle)
    | .removePushHandle handle => state.pushStep (.removePushHandle handle)
    | .handleMessage messageId stanza => state.pushStep (.handleMessage messageId stanza)
    | .setCallBack handle callback =>
        some (state.setObject handle { state.objects handle with callback := callback }, [])
    | .setStartMaxRecordId handle maxRecordId =>
        some (state.setObject handle { state.objects handle with maxRecordId := maxRecordId }, [])
    | .disConnecting handle =>
        some (state.setObject handle { state.objects handle with enableGetrecord := false }, [])
    | .close sessionId =>
        some ({ state with closed := sessionId :: state.closed }, [.closed sessionId])
    | .dispatch now memory uId => state.dispatch now memory uId
    | .drop now => if state.phase.isSome then state.pushStep (.drop now) else none
    | .resumeInfo info => (state.resumeInfo info).map fun next => (next, [])
    | .getRecord uId => state.getRecord uId

end HandleState

/-- The machine of the push task and the objects of its handles. -/
def handleMachine : Machine HandleState HandleLabel HandleOutput := ⟨HandleState.step⟩

/-! ## What a step does -/

namespace HandleState

variable {state next : HandleState} {label : HandleLabel} {emitted : List HandleOutput}

/-- The callbacks that a step calls. -/
def calls (state : HandleState) : HandleLabel → List HandleOutput
  | .dispatch now memory uId =>
      (state.nextActs now memory).filterMap (state.call now memory uId)
  | .getRecord uId =>
      match state.phase with
      | some (.fetching handle _) => [.called handle (.resumedPlate uId)]
      | _ => []
  | _ => []

/-- The devices that a step closes. -/
def closes : HandleLabel → List UInt32
  | .close sessionId => [sessionId]
  | _ => []

/-- A step of the push task leaves the objects as they are. -/
theorem pushStep_eq_some {label : PushLabel} (transition : state.pushStep label = some (next, emitted)) :
    ∃ push outputs, state.push.step label = some (push, outputs) ∧
      next = { state with push := push } ∧ emitted = [] := by
  obtain ⟨⟨push, outputs⟩, stepped, same⟩ := Option.map_eq_some_iff.mp transition
  cases same
  exact ⟨push, outputs, stepped, rfl, rfl⟩

/-- What a dispatch does to the push task and to the objects. -/
theorem dispatch_eq_some {now : UInt32} {memory : Json} {uId : Int}
    (transition : state.dispatch now memory uId = some (next, emitted)) :
    state.phase = none ∧ ∃ push outputs, state.push.step (.dispatch now memory []) = some (push, outputs) ∧
      next = { state with
        push := push
        objects := state.actedOn now memory uId
        phase := (state.nextActs now memory).findSome? fun act =>
          if act.2 = .resumeRecords then some (.asking act.1) else none } ∧
      emitted = (state.nextActs now memory).filterMap (state.call now memory uId) := by
  unfold dispatch at transition
  split at transition
  · next push outputs idle stepped =>
      cases transition
      exact ⟨idle, push, outputs, stepped, rfl, rfl⟩
  · cases transition

/-- A resumption closes no device. -/
theorem resumeInfo_closed {info : Option (Bool × Int)} (transition : state.resumeInfo info = some next) :
    next.closed = state.closed := by
  unfold resumeInfo at transition
  split at transition
  · simp only at transition
    split at transition <;> cases transition <;> rfl
  · cases transition

/-- A step reports what it closes and what it calls, and remembers what it closes. -/
theorem outputs_step (transition : state.step label = some (next, emitted)) :
    emitted = (closes label).map .closed ++ state.calls label ∧
      next.closed = closes label ++ state.closed := by
  unfold step at transition
  split at transition
  · cases transition
  · cases label with
    | addPushHandle | removePushHandle | handleMessage =>
        obtain ⟨push, _, _, rfl, rfl⟩ := pushStep_eq_some transition
        exact ⟨rfl, rfl⟩
    | setCallBack | setStartMaxRecordId | disConnecting | close =>
        cases transition
        exact ⟨rfl, rfl⟩
    | dispatch now memory uId =>
        obtain ⟨_, push, _, _, rfl, rfl⟩ := dispatch_eq_some transition
        exact ⟨rfl, rfl⟩
    | drop now =>
        simp only at transition
        split at transition
        · obtain ⟨push, _, _, rfl, rfl⟩ := pushStep_eq_some transition
          exact ⟨rfl, rfl⟩
        · cases transition
    | resumeInfo info =>
        obtain ⟨final, isFinal, same⟩ := Option.map_eq_some_iff.mp transition
        cases same
        exact ⟨rfl, resumeInfo_closed isFinal⟩
    | getRecord uId =>
        simp only [getRecord] at transition
        split at transition
        · next handle id fetching =>
            cases transition
            exact ⟨by simp [closes, calls, fetching], rfl⟩
        · cases transition

end HandleState

/-! ## After a device is closed -/

/-- No callback of a device is called after its closing has returned. -/
def SilentAfterClose (outputs : List HandleOutput) : Prop :=
  outputs.Pairwise fun earlier later => ∀ handle event, later = .called handle event →
    earlier ≠ .closed handle.sessionId

/-- The step calls no callback of a closed device: no handle of it is offered a payload that
it calls back for, and its resume handle fetches no record any more. -/
def HandleState.SparesClosed (state : HandleState) : HandleLabel → Prop
  | .dispatch now memory _ => ∀ response, state.push.nextPayload now = some response →
      ∀ handle ∈ PushManagerTask.offered response memory state.push.manager.pushHandles,
        handle.sessionId ∈ state.closed → (state.objects handle).callback = true →
          handle.wants response memory = false
  | .getRecord _ => ∀ handle id, state.phase = some (.fetching handle id) →
      handle.sessionId ∉ state.closed
  | _ => True

namespace HandleState

variable {state next : HandleState} {label : HandleLabel} {emitted : List HandleOutput}

/-- What an action calls is a callback of its handle. -/
theorem call_eq_some {now : UInt32} {memory : Json} {uId : Int}
    {act : PushHandle × HandleAction} {output : HandleOutput}
    (isCall : state.call now memory uId act = some output) :
    ∃ event, output = .called act.1 event := by
  unfold call at isCall
  split at isCall
  · split at isCall
    · exact ⟨_, (Option.some.inj isCall).symm⟩
    · split at isCall
      · exact ⟨_, (Option.some.inj isCall).symm⟩
      · cases isCall
    · exact ⟨_, (Option.some.inj isCall).symm⟩
    · cases isCall
  · cases isCall

/-- A handle with a callback calls it exactly for the payloads it wants. -/
theorem call_of_wants {now : UInt32} {memory : Json} (uId : Int) {response : Stanza}
    {handle : PushHandle} (payload : state.push.nextPayload now = some response)
    (callback : (state.objects handle).callback = true) (wants : handle.wants response memory = true) :
    ∃ action ∈ (handle.handleMessageData response memory).1,
      (state.call now memory uId (handle, action)).isSome = true := by
  cases kind : handle.kind with
  | ivs =>
      simp only [PushHandle.wants, kind, Bool.and_eq_true, decide_eq_true_eq] at wants
      obtain ⟨⟨own, isResponse⟩, isCmd⟩ := wants
      obtain ⟨cmd, isObject, isText⟩ := Option.bind_eq_some_iff.mp isCmd
      refine ⟨.plateCallback, ?_, by simp [call, callback]⟩
      simp [PushHandle.handleMessageData, kind, PushHandle.ivsHandleMessageData, isObject, isText,
        own, isResponse]
  | serial =>
      simp only [PushHandle.wants, kind, Bool.and_eq_true, decide_eq_true_eq] at wants
      obtain ⟨⟨isResponse, isCmd⟩, isSend⟩ := wants
      obtain ⟨cmd, isObject, isText⟩ := Option.bind_eq_some_iff.mp isCmd
      refine ⟨.serialCallback, ?_, by simp [call, callback, payload, isSend]⟩
      simp [PushHandle.handleMessageData, kind, PushHandle.serialHandleMessageData, isObject,
        isText, isResponse]
  | changeConn =>
      simp only [PushHandle.wants, kind, Bool.and_eq_true, Bool.or_eq_true,
        decide_eq_true_eq] at wants
      obtain ⟨own, isConnected | isLost⟩ := wants
      · refine ⟨.changeConnStatus .online, ?_, by simp [call, callback]⟩
        simp [PushHandle.handleMessageData, kind, PushHandle.changeConnHandleMessageData, own,
          isConnected]
      · refine ⟨.changeConnStatus .offline, ?_, by simp [call, callback]⟩
        simp [PushHandle.handleMessageData, kind, PushHandle.changeConnHandleMessageData, own,
          isLost]
  | resume =>
      simp only [PushHandle.wants, kind] at wants
      cases wants

/-- A callback is called when it is registered and its handle wants the message. -/
theorem wants_of_call {now : UInt32} {memory : Json} {uId : Int} {response : Stanza}
    {act : PushHandle × HandleAction} {output : HandleOutput}
    (payload : state.push.nextPayload now = some response)
    (acts : act.2 ∈ (act.1.handleMessageData response memory).1)
    (isCall : state.call now memory uId act = some output) :
    (state.objects act.1).callback = true ∧ act.1.wants response memory = true := by
  obtain ⟨handle, action⟩ := act
  unfold call at isCall
  split at isCall
  · next callback =>
      refine ⟨callback, ?_⟩
      have silent (nothing : action = .readJson ∨ action = .disableGetrecord ∨
          action = .resumeRecords) : handle.wants response memory = true := by
        rcases nothing with rfl | rfl | rfl <;> cases isCall
      cases kind : handle.kind with
      | ivs =>
          simp only [PushHandle.handleMessageData, kind, PushHandle.ivsHandleMessageData] at acts
          split at acts
          · exact silent (.inl (List.mem_singleton.mp acts))
          · next cmd isObject =>
              split at acts
              · exact silent (.inl (List.mem_singleton.mp acts))
              · next resCmd isText =>
                  split at acts
                  · next own => simp [PushHandle.wants, kind, isObject, isText, own]
                  · exact silent (.inl (List.mem_singleton.mp acts))
      | serial =>
          simp only [PushHandle.handleMessageData, kind, PushHandle.serialHandleMessageData] at acts
          split at acts
          · exact silent (.inl (List.mem_singleton.mp acts))
          · next cmd isObject =>
              split at acts
              · exact silent (.inl (by simpa using acts))
              · next resCmd isText =>
                  split at acts
                  · next own =>
                      rcases (by simpa using acts :
                          action = .readJson ∨ action = .serialCallback) with reads | isSerial
                      · exact silent (.inl reads)
                      · subst isSerial
                        simp only [payload, Option.any_some] at isCall
                        split at isCall
                        · next isSend =>
                            simp [PushHandle.wants, kind, isObject, isText, own, isSend]
                        · cases isCall
                  · exact silent (.inl (by simpa using acts))
      | changeConn =>
          simp only [PushHandle.handleMessageData, kind,
            PushHandle.changeConnHandleMessageData] at acts
          split at acts
          · next own =>
              split at acts
              · next isConnected => simp [PushHandle.wants, kind, own, isConnected]
              · split at acts
                · next isLost => simp [PushHandle.wants, kind, own, isLost]
                · cases acts
          · cases acts
      | resume =>
          have resumes : action = .disableGetrecord ∨ action = .resumeRecords := by
            simp only [PushHandle.handleMessageData, kind, PushHandle.resumeHandleMessageData] at acts
            grind
          exact silent (.inr resumes)
  · cases isCall

/-- The calls of a step spare the closed devices when the step does. -/
theorem sparesClosed_iff (state : HandleState) (label : HandleLabel) :
    (∀ output ∈ state.calls label, ∀ handle event, output = .called handle event →
      handle.sessionId ∉ state.closed) ↔ state.SparesClosed label := by
  cases label with
  | dispatch now memory uId =>
      simp only [calls, SparesClosed, nextActs]
      cases payload : state.push.nextPayload now with
      | none => simp
      | some response =>
          simp only [Option.some.injEq, forall_eq']
          constructor
          · intro silent handle member isClosed callback
            cases wants : handle.wants response memory with
            | false => rfl
            | true =>
                obtain ⟨action, did, isSome⟩ := call_of_wants uId payload callback wants
                obtain ⟨output, isCall⟩ := Option.isSome_iff_exists.mp isSome
                obtain ⟨event, rfl⟩ := call_eq_some isCall
                exact absurd isClosed (silent _ (List.mem_filterMap.mpr
                  ⟨_, PushManagerTask.mem_acts.mpr ⟨member, did⟩, isCall⟩) handle event rfl)
          · rintro spares _ emitted handle event rfl isClosed
            obtain ⟨act, did, isCall⟩ := List.mem_filterMap.mp emitted
            obtain ⟨member, did⟩ := PushManagerTask.mem_acts.mp did
            obtain ⟨event', same⟩ := call_eq_some isCall
            cases same
            obtain ⟨callback, wants⟩ := wants_of_call payload did isCall
            rw [spares act.1 member isClosed callback] at wants
            cases wants
  | getRecord uId =>
      simp only [calls, SparesClosed]
      split
      · next handle id fetching => simp [fetching]
      · next idle =>
          exact iff_of_true (List.forall_mem_nil _) fun handle id fetching =>
            absurd fetching (idle handle id)
  | _ => simp [calls, SparesClosed]

/-- A call is one of a callback. -/
theorem called_of_mem_calls {output : HandleOutput} (isCall : output ∈ state.calls label) :
    ∃ handle event, output = .called handle event := by
  cases label with
  | dispatch now memory uId =>
      obtain ⟨act, _, isCall⟩ := List.mem_filterMap.mp isCall
      obtain ⟨event, same⟩ := call_eq_some isCall
      exact ⟨act.1, event, same⟩
  | getRecord uId =>
      simp only [calls] at isCall
      split at isCall
      · exact ⟨_, _, List.mem_singleton.mp isCall⟩
      · cases isCall
  | _ => cases isCall

/-- The state remembers exactly the devices that were reported closed. -/
theorem closed_iff {labels : List HandleLabel} {outputs : List HandleOutput} {taskId : UInt32}
    (run : handleMachine.Run (.start taskId) labels state outputs) :
    ∀ sessionId, .closed sessionId ∈ outputs ↔ sessionId ∈ state.closed := by
  refine run.invariant
    (fun _ state outputs => ∀ sessionId, .closed sessionId ∈ outputs ↔ sessionId ∈ state.closed)
    (by simp [start]) ?_
  intro labels state outputs label next emitted recorded _ transition sessionId
  obtain ⟨rfl, closed⟩ := outputs_step transition
  have noCall : .closed sessionId ∉ state.calls label := by
    intro isCall
    obtain ⟨handle, event, same⟩ := called_of_mem_calls isCall
    cases same
  simp [closed, recorded, noCall, or_comm]

/-- One step reports nothing out of order by itself. -/
theorem silent_outputs (state : HandleState) (label : HandleLabel) :
    SilentAfterClose ((closes label).map .closed ++ state.calls label) := by
  refine List.pairwise_append.mpr ⟨?_, ?_, ?_⟩
  · rw [List.pairwise_map]
    exact List.pairwise_of_forall fun _ _ _ _ => nofun
  · refine List.pairwise_of_forall_mem_list ?_
    rintro earlier isCall later _ handle event _ rfl
    obtain ⟨_, _, same⟩ := called_of_mem_calls isCall
    cases same
  · intro earlier isClosed later isCall
    cases label with
    | close => cases isCall
    | _ => cases isClosed

/-- A step stays silent about closed devices when it spares them. -/
theorem silent_step_iff {labels : List HandleLabel} {outputs : List HandleOutput} {taskId : UInt32}
    (run : handleMachine.Run (.start taskId) labels state outputs)
    (transition : handleMachine.step state label = some (next, emitted)) :
    SilentAfterClose (outputs ++ emitted) ↔ SilentAfterClose outputs ∧ state.SparesClosed label := by
  obtain ⟨rfl, _⟩ := outputs_step transition
  rw [← state.sparesClosed_iff label]
  unfold SilentAfterClose
  rw [List.pairwise_append]
  constructor
  · rintro ⟨before, _, across⟩
    refine ⟨before, ?_⟩
    intro output isCall handle event same isClosed
    exact across _ ((closed_iff run _).mpr isClosed) output (List.mem_append_right _ isCall)
      handle event same rfl
  · rintro ⟨before, spares⟩
    refine ⟨before, state.silent_outputs label, ?_⟩
    rintro earlier was later emitted handle event same rfl
    rcases List.mem_append.mp emitted with isClosed | isCall
    · obtain ⟨_, _, rfl⟩ := List.mem_map.mp isClosed
      cases same
    · exact spares later isCall handle event same ((closed_iff run _).mp was)

end HandleState

/-- No callback of a closed device is called in a run exactly when every step of it spares
the devices closed so far. -/
theorem silent_after_close_iff {taskId : UInt32} {labels : List HandleLabel} {final : HandleState}
    {outputs : List HandleOutput}
    (run : handleMachine.Run (.start taskId) labels final outputs) :
    SilentAfterClose outputs ↔
      handleMachine.RunWhere HandleState.SparesClosed (.start taskId) labels final outputs :=
  Machine.RunWhere.good_iff SilentAfterClose .nil HandleState.silent_step_iff run

/-- The plate handle of session 2, registered with a callback. -/
def plateHandle : PushHandle := ⟨1, .ivs, "ivs_result", 2⟩

/-- An application subscribes to the plates of a device. -/
def platesSubscribed : List HandleLabel :=
  [.setCallBack plateHandle true, .addPushHandle plateHandle]

/-- A plate with the record id 7. -/
def plateSeven : Stanza :=
  .responseData 2 (.object [("cmd", .string "ivs_result"), ("id", .int 7)]) [] none

/-- The plate handle of session 3, registered with a callback. -/
def otherHandle : PushHandle := ⟨2, .ivs, "ivs_result", 3⟩

/-- A plate of session 3 with the record id 9. -/
def plateNine : Stanza :=
  .responseData 3 (.object [("cmd", .string "ivs_result"), ("id", .int 9)]) [] none

/-- A plate is dispatched before its device is closed, and a plate of another device after it. -/
def closedBetween : List HandleLabel :=
  platesSubscribed ++ [.setCallBack otherHandle true, .addPushHandle otherHandle,
    .handleMessage 0 plateSeven, .dispatch 10 .null 0, .close 2, .handleMessage 0 plateNine,
    .dispatch 30 .null 0]

/-- Both plates are reported, and no callback of the closed device is called. -/
theorem silent_after_close_dispatched :
    ∃ final outputs, handleMachine.Run (.start 2) closedBetween final outputs ∧
      outputs = [.called plateHandle (.plate 7), .closed 2, .called otherHandle (.plate 9)] ∧
      SilentAfterClose outputs ∧
      handleMachine.RunWhere HandleState.SparesClosed (.start 2) closedBetween final outputs := by
  have checked : (handleMachine.exec (.start 2) closedBetween).any (fun result =>
      result.2 = [.called plateHandle (.plate 7), .closed 2, .called otherHandle (.plate 9)]) =
        true := by decide +kernel
  obtain ⟨final, outputs, run, isOutputs⟩ := Machine.exists_run_of_exec checked
  have isOutputs : outputs =
      [.called plateHandle (.plate 7), .closed 2, .called otherHandle (.plate 9)] := by
    simpa using isOutputs
  have silent : SilentAfterClose outputs := by
    rw [isOutputs]
    simp [SilentAfterClose, otherHandle]
  exact ⟨final, outputs, run, isOutputs, silent, (silent_after_close_iff run).mp silent⟩

/-- A plate that waits on the push thread while the device is closed is still reported. -/
theorem plate_called_after_close :
    ∃ labels final outputs, handleMachine.Run (.start 2) labels final outputs ∧
      ¬SilentAfterClose outputs := by
  have checked : (handleMachine.exec (.start 2) (platesSubscribed ++
      [.handleMessage 0 plateSeven, .close 2, .dispatch 10 .null 0])).any (fun result =>
      result.2 = [.closed 2, .called plateHandle (.plate 7)]) = true := by decide +kernel
  obtain ⟨final, outputs, run, isOutputs⟩ := Machine.exists_run_of_exec checked
  have isOutputs : outputs = [.closed 2, .called plateHandle (.plate 7)] := by
    simpa using isOutputs
  refine ⟨_, final, outputs, run, ?_⟩
  rw [isOutputs]
  simp [SilentAfterClose, plateHandle]

end VzSdk.Sdk
