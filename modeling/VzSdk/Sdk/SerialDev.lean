import VzSdk.Sdk.Registry

/-!
# Serial data and its subscribers

Every `VzLPRTcp_SerialStart` registers one more serial handle, all of them under
one key, and a handle takes serial data of any device: the first one in
`push_handles_` takes all of it. `serial_delivered_iff` says in which runs every
"send" reaches the callback that was registered last for its own device.
-/

namespace VzSdk.Sdk

open VzSdk.Base VzSdk.Event VzSdk.Std

/-- The key that a handle of the kind is constructed with. -/
def PushKind.cmdKey : PushKind → String
  | ivs => "ivs_result"
  | serial => "ttransmission"
  | changeConn => "change_conn_status"
  | resume => "resume_rec"

/-- A call of a serial callback; `data` is the text that is decoded for it. -/
structure SerialCall where
  func : Nat
  comm : UInt32
  data : List UInt8
deriving DecidableEq, Repr

/-- What happens to the serial handles of the push task. -/
inductive SerialLabel where
  /-- `VzLPRTcp_SerialStart` on an open device. -/
  | serialStart (sessionId : UInt32) (func : Option Nat)
  /-- A handle of another kind is registered. -/
  | addPushHandle (handle : PushHandle)
  /-- A message that no request claimed comes to the push task, and its thread takes it. -/
  | push (response : Stanza)

/-- What became of a "send" of a device whose last registered callback is `expected`. -/
structure SerialOutput where
  root : Json
  expected : Option Nat
  outcome : Except Fault (List SerialCall)

/-- The push task with its serial handles and their callbacks. -/
structure SerialState where
  manager : PushManagerTask
  nextObject : Nat
  /-- `func_` of each serial handle object. -/
  funcs : Nat → Option Nat
  /-- A fault has ended the program. -/
  failed : Bool
  /-- For the proofs only: the callback last registered for each device. -/
  latest : UInt32 → Option Nat

/-- The payload is a "ttransmission" message with the subcommand "send". -/
def Stanza.isSerialSend (response : Stanza) : Bool :=
  response.stanzaType = .resStanzaEvent &&
    (response.resJson .null).cmd = some PushKind.serial.cmdKey &&
    ((response.resJson .null).get "subcmd").isText "send"

namespace SerialState

/-- No handle is registered at the start. -/
def start (taskId : UInt32) : SerialState := ⟨.new taskId, 0, fun _ => none, false, fun _ => none⟩

/-- `SetSerialRecvCallBack`: a new handle for every call. -/
def setSerialRecvCallBack (state : SerialState) (sessionId : UInt32) (func : Option Nat) :
    SerialState :=
  { state with
    manager := state.manager.addPushHandle
      ⟨state.nextObject, .serial, PushKind.serial.cmdKey, 0⟩
    nextObject := state.nextObject + 1
    funcs := fun object => if object = state.nextObject then func else state.funcs object
    latest := fun other => if other = sessionId then func else state.latest other }

variable (reals : Json.Reals)

/-- `SerialPushHandle::HandleMessageData` behind its command test. -/
def serialCallback (state : SerialState) (root : Json) (handle : PushHandle) :
    Except Fault (List SerialCall) := do
  match ← serialPush reals root with
  | none => return []
  | some (comm, data) => return (state.funcs handle.object).toList.map (⟨·, comm, data⟩)

/-- What the loop of `ProcessPushEvent` calls back. -/
def callbacks (state : SerialState) (root : Json) :
    List (PushHandle × HandleAction) → Except Fault (List SerialCall)
  | [] => .ok []
  | act :: acts => do
      let calls ← if act.2 = .serialCallback then state.serialCallback reals root act.1 else .ok []
      return calls ++ (← callbacks state root acts)

/-- `HandleMessage` and, if it posts the payload, `ProcessPushEvent`. -/
def processPush (state : SerialState) (response : Stanza) : Except Fault (List SerialCall) :=
  match state.manager.handleMessage 0 response with
  | none => .error .json
  | some handled =>
      if handled.posts then
        if (PushManagerTask.offer response .null state.manager.pushHandles).2 then .error .json
        else
          state.callbacks reals (response.resJson .null)
            (PushManagerTask.acts response .null state.manager.pushHandles)
      else .ok []

/-- What happens in a step. -/
def step (state : SerialState) (label : SerialLabel) : Option (SerialState × List SerialOutput) :=
  if state.failed then none
  else
    match label with
    | .serialStart sessionId func => some (state.setSerialRecvCallBack sessionId func, [])
    | .addPushHandle handle =>
        if handle.kind ≠ .serial ∧ handle.cmdKey = handle.kind.cmdKey then
          some ({ state with manager := state.manager.addPushHandle handle }, [])
        else none
    | .push response =>
        let outcome := state.processPush reals response
        some ({ state with failed := !outcome.isOk },
          if response.isSerialSend then
            [⟨response.resJson .null, state.latest response.sessionId, outcome⟩]
          else [])

end SerialState

/-- The machine of the serial handles. -/
def serialMachine (reals : Json.Reals) : Machine SerialState SerialLabel SerialOutput :=
  ⟨SerialState.step reals⟩

/-- The data went to the expected callback and to no other. -/
def SerialOutput.Delivered (reals : Json.Reals) (output : SerialOutput) : Prop :=
  ∃ calls, output.outcome = .ok calls ∧ calls.map (·.func) = output.expected.toList ∧
    ∀ call ∈ calls, (output.root.get "data").asCString = some call.data ∧
      ((output.root.get "comm").asUInt reals).getD 0 = call.comm

/-- The first serial handle of the registry, if there is one, has the callback that was last
registered for the device of a "send", and the message has its data and members of the
right types. -/
def SerialState.FirstIsOwn (reals : Json.Reals) (state : SerialState) : SerialLabel → Prop
  | .push response => response.isSerialSend = true →
      ∀ first, state.manager.pushHandles.find? (·.kind = .serial) = some first →
        TTransmissionShape reals (response.resJson .null) ∧
        ((response.resJson .null).get "data").isString = true ∧
        state.funcs first.object = state.latest response.sessionId
  | _ => True

instance (reals : Json.Reals) (root : Json) : Decidable (TTransmissionShape reals root) :=
  inferInstanceAs (Decidable ((root.get "subcmd").isTextOrNull ∧
    (root.get "response").isTextOrNull ∧ (root.get "datalen").isUIntOrNull reals ∧
    (root.get "comm").isUIntOrNull reals ∧ (root.get "data").isTextOrNull))

instance (reals : Json.Reals) (state : SerialState) (label : SerialLabel) :
    Decidable (state.FirstIsOwn reals label) :=
  match label with
  | .push response =>
      inferInstanceAs (Decidable (response.isSerialSend = true →
        ∀ first ∈ state.manager.pushHandles.find? (·.kind = .serial),
          TTransmissionShape reals (response.resJson .null) ∧
          ((response.resJson .null).get "data").isString = true ∧
          state.funcs first.object = state.latest response.sessionId))
  | .serialStart _ _ => .isTrue trivial
  | .addPushHandle _ => .isTrue trivial

/-! ## Who takes a "send" -/

section

variable {response : Stanza}

/-- A value that holds a command is an object. -/
theorem Json.isObject_of_cmd {root : Json} {text : String} (notEmpty : text ≠ "")
    (isCmd : root.cmd = some text) : root.isObject = true := by
  obtain ⟨cmd, isMember, isText⟩ := Option.bind_eq_some_iff.mp isCmd
  cases root with
  | object => rfl
  | null =>
      cases isMember
      cases isText
      exact absurd rfl notEmpty
  | _ => cases isMember

/-- The handles read the command that the queue layer reads. -/
theorem PushHandle.objectCmd_of_cmd {text : String} (notEmpty : text ≠ "")
    (isCmd : (response.resJson .null).cmd = some text) :
    ∃ cmd, objectCmd response .null = some cmd ∧ cmd.asString = some text := by
  have isObject := Json.isObject_of_cmd notEmpty isCmd
  obtain ⟨cmd, isMember, isText⟩ := Option.bind_eq_some_iff.mp isCmd
  have notNull : cmd.isNull = false := by
    cases cmd with
    | null =>
        cases isText
        exact absurd rfl notEmpty
    | _ => rfl
  refine ⟨cmd, ?_, isText⟩
  simp [objectCmd, isObject, isMember, notNull]

/-- When a message is one that a serial port sends. -/
theorem Stanza.isSerialSend_iff :
    response.isSerialSend = true ↔ response.stanzaType = .resStanzaEvent ∧
      (response.resJson .null).cmd = some PushKind.serial.cmdKey ∧
      ((response.resJson .null).get "subcmd").isText "send" = true := by
  simp only [Stanza.isSerialSend, Bool.and_eq_true, decide_eq_true_eq, and_assoc]

/-- What a handle does with data of a serial port. -/
theorem handleMessageData_serialSend (isSend : response.isSerialSend = true) {handle : PushHandle}
    (keyed : handle.cmdKey = handle.kind.cmdKey) :
    handle.handleMessageData response .null =
      match handle.kind with
      | .ivs => ([.readJson], .refused)
      | .serial => ([.readJson, .readJson, .readJson, .readJson, .serialCallback], .accepted)
      | .changeConn => ([], .refused)
      | .resume => ([], .refused) := by
  obtain ⟨isResponse, isCmd, _⟩ := Stanza.isSerialSend_iff.mp isSend
  obtain ⟨cmd, isObject, isText⟩ := PushHandle.objectCmd_of_cmd (by decide) isCmd
  unfold PushHandle.handleMessageData
  cases kind : handle.kind with
  | ivs =>
      rw [kind] at keyed
      simp [PushHandle.ivsHandleMessageData, isObject, isText, keyed, PushKind.cmdKey]
  | serial =>
      rw [kind] at keyed
      simp [PushHandle.serialHandleMessageData, isObject, isText, keyed, isResponse]
  | changeConn => simp [PushHandle.changeConnHandleMessageData, isResponse]
  | resume => simp [PushHandle.resumeHandleMessageData, PushHandle.ownResume, isResponse]

/-- The first serial handle takes it, whose ever it is. -/
theorem acts_serialSend (isSend : response.isSerialSend = true) {handles : List PushHandle}
    (keyed : ∀ handle ∈ handles, handle.cmdKey = handle.kind.cmdKey) :
    (PushManagerTask.offer response .null handles).2 = false ∧
    (PushManagerTask.acts response .null handles).filter (·.2 = .serialCallback) =
      ((handles.find? (·.kind = .serial)).map (·, .serialCallback)).toList := by
  induction handles with
  | nil => exact ⟨rfl, rfl⟩
  | cons handle handles inductionHypothesis =>
      obtain ⟨noFailure, first⟩ :=
        inductionHypothesis fun other member => keyed other (List.mem_cons_of_mem _ member)
      have data := handleMessageData_serialSend isSend (keyed handle List.mem_cons_self)
      cases kind : handle.kind with
      | serial =>
          simp [PushManagerTask.offer, PushManagerTask.acts, data, kind]
      | ivs | changeConn | resume =>
          simp [PushManagerTask.offer, PushManagerTask.acts, data, kind, noFailure, first]

/-- The data is handed on when its members have the types that are read. -/
theorem serialPush_send {reals : Json.Reals} {root : Json} (isObject : root.isObject = true)
    (isSend : (root.get "subcmd").isText "send" = true) (outcome : Option (UInt32 × List UInt8)) :
    serialPush reals root = .ok outcome ↔
      TTransmissionShape reals root ∧ ∃ data, (root.get "data").asCString = some data ∧
        outcome = some (((root.get "comm").asUInt reals).getD 0, data) := by
  rw [serialPush, bind_eq_ok_iff]
  simp only [parsed_eq_ok_iff,
    parseTTransmissionResponse_eq_some_iff (Json.isKeyed_of_isObject isObject)]
  constructor
  · rintro ⟨_, ⟨shape, rfl⟩, read⟩
    rw [(asCString_eq_some_iff _ _).mpr isSend, ifEqual_self, bind_eq_ok_iff] at read
    obtain ⟨data, isData, same⟩ := read
    cases same
    exact ⟨shape, data, (deref_eq_ok_iff _ _).mp isData, rfl⟩
  · rintro ⟨shape, data, isData, rfl⟩
    refine ⟨_, ⟨shape, rfl⟩, ?_⟩
    rw [(asCString_eq_some_iff _ _).mpr isSend, ifEqual_self, bind_eq_ok_iff]
    exact ⟨data, (deref_eq_ok_iff _ _).mpr isData, rfl⟩

end

namespace SerialState

variable {reals : Json.Reals} {state : SerialState}

/-- Every handle has the key of its kind, the serial key is there with the first serial handle,
and without one no callback is registered. -/
structure Inv (state : SerialState) : Prop where
  keyed : ∀ handle ∈ state.manager.pushHandles, handle.cmdKey = handle.kind.cmdKey
  known : PushKind.serial.cmdKey ∈ state.manager.pushHandleKeys ↔
    (state.manager.pushHandles.find? (·.kind = .serial)).isSome = true
  unregistered : state.manager.pushHandles.find? (·.kind = .serial) = none →
    ∀ sessionId, state.latest sessionId = none

/-- Only the actions that call a callback count. -/
theorem callbacks_filter (root : Json) (acts : List (PushHandle × HandleAction)) :
    state.callbacks reals root acts =
      state.callbacks reals root (acts.filter (·.2 = .serialCallback)) := by
  induction acts with
  | nil => rfl
  | cons act acts inductionHypothesis =>
      by_cases isSerial : act.2 = .serialCallback
      · rw [List.filter_cons_of_pos (by simpa using isSerial), callbacks, callbacks,
          inductionHypothesis]
      · rw [List.filter_cons_of_neg (by simpa using isSerial), callbacks, if_neg isSerial,
          inductionHypothesis]
        cases state.callbacks reals root (acts.filter (·.2 = .serialCallback)) <;> rfl

/-- Data of a serial port goes to the first serial handle. -/
theorem processPush_send (inv : state.Inv) {response : Stanza}
    (isSend : response.isSerialSend = true) :
    state.processPush reals response =
      match state.manager.pushHandles.find? (·.kind = .serial) with
      | none => .ok []
      | some first => state.serialCallback reals (response.resJson .null) first := by
  obtain ⟨isResponse, isCmd, _⟩ := Stanza.isSerialSend_iff.mp isSend
  obtain ⟨noFailure, isFirst⟩ := acts_serialSend isSend inv.keyed
  have handled : state.manager.handleMessage 0 response =
      some ⟨(state.manager.pushHandles.find? (·.kind = .serial)).isSome,
        (state.manager.pushHandles.find? (·.kind = .serial)).isSome⟩ := by
    have contains : state.manager.pushHandleKeys.contains PushKind.serial.cmdKey =
        (state.manager.pushHandles.find? (·.kind = .serial)).isSome := by
      rw [Bool.eq_iff_iff, List.contains_iff_mem]
      exact inv.known
    simp only [PushManagerTask.handleMessage, isResponse, isCmd, contains, and_self, if_true]
  simp only [processPush, handled, noFailure]
  rw [callbacks_filter, isFirst]
  cases state.manager.pushHandles.find? (·.kind = .serial) with
  | none => rfl
  | some first =>
      simp only [Option.isSome_some, if_true, Option.map_some, Option.toList_some, callbacks,
        Bool.false_eq_true, if_false]
      cases state.serialCallback reals (response.resJson .null) first with
      | error fault => rfl
      | ok calls => simp [bind, Except.bind, pure, Except.pure]

/-- What the first serial handle does with a "send" is what was expected exactly when the
message is complete and the callback is the expected one. -/
theorem delivered_serialCallback_iff {root : Json} (isObject : root.isObject = true)
    (isSend : (root.get "subcmd").isText "send" = true) (first : PushHandle)
    (expected : Option Nat) :
    SerialOutput.Delivered reals ⟨root, expected, state.serialCallback reals root first⟩ ↔
      TTransmissionShape reals root ∧ (root.get "data").isString = true ∧
        state.funcs first.object = expected := by
  have outcome (calls : List SerialCall) : state.serialCallback reals root first = .ok calls ↔
      TTransmissionShape reals root ∧ ∃ data, (root.get "data").asCString = some data ∧
        calls = (state.funcs first.object).toList.map
          (⟨·, ((root.get "comm").asUInt reals).getD 0, data⟩) := by
    rw [serialCallback, bind_eq_ok_iff]
    simp only [serialPush_send isObject isSend]
    constructor
    · rintro ⟨_, ⟨shape, data, isData, rfl⟩, same⟩
      cases same
      exact ⟨shape, data, isData, rfl⟩
    · rintro ⟨shape, data, isData, rfl⟩
      exact ⟨_, ⟨shape, data, isData, rfl⟩, rfl⟩
  have funcs (data : List UInt8) : ((state.funcs first.object).toList.map fun func =>
      SerialCall.mk func (((root.get "comm").asUInt reals).getD 0) data).map (·.func) =
        (state.funcs first.object).toList := by
    simp [Function.comp_def]
  simp only [SerialOutput.Delivered, outcome, ← Json.isSome_asCString, Option.isSome_iff_exists]
  constructor
  · rintro ⟨_, ⟨shape, data, isData, rfl⟩, isExpected, _⟩
    rw [funcs] at isExpected
    refine ⟨shape, ⟨data, isData⟩, Option.ext fun func => ?_⟩
    rw [← Option.mem_toList, isExpected, Option.mem_toList]
  · rintro ⟨shape, ⟨data, isData⟩, rfl⟩
    refine ⟨_, ⟨shape, data, isData, rfl⟩, funcs data, ?_⟩
    intro call member
    obtain ⟨func, _, rfl⟩ := List.mem_map.mp member
    exact ⟨isData, rfl⟩

/-- A "send" is delivered exactly when the first serial handle is its own. -/
theorem delivered_push_iff (inv : state.Inv) {response : Stanza}
    (isSend : response.isSerialSend = true) :
    SerialOutput.Delivered reals ⟨response.resJson .null, state.latest response.sessionId,
        state.processPush reals response⟩ ↔ state.FirstIsOwn reals (.push response) := by
  rw [processPush_send inv isSend]
  simp only [FirstIsOwn, isSend, true_imp_iff]
  cases found : state.manager.pushHandles.find? (·.kind = .serial) with
  | none =>
      rw [inv.unregistered found response.sessionId]
      exact iff_of_true ⟨[], rfl, rfl, nofun⟩ nofun
  | some first =>
      obtain ⟨_, isCmd, isSubcmd⟩ := Stanza.isSerialSend_iff.mp isSend
      have isObject := Json.isObject_of_cmd (by decide) isCmd
      simp only [delivered_serialCallback_iff isObject isSubcmd, Option.some.injEq, forall_eq']

/-- The invariant holds at the start. -/
theorem Inv.start (taskId : UInt32) : (SerialState.start taskId).Inv where
  keyed := by simp [SerialState.start, PushManagerTask.new]
  known := by simp [SerialState.start, PushManagerTask.new]
  unregistered _ _ := rfl

/-- A serial start keeps the invariant. -/
theorem Inv.serialStart (inv : state.Inv) (sessionId : UInt32) (func : Option Nat) :
    (state.setSerialRecvCallBack sessionId func).Inv where
  keyed handle member := by
    rcases List.mem_append.mp member with known | new
    · exact inv.keyed handle known
    · rw [List.mem_singleton.mp new]
  known := by
    simp only [setSerialRecvCallBack, PushManagerTask.mem_keys_addPushHandle, or_true, true_iff]
    simp [PushManagerTask.addPushHandle]
  unregistered none := by
    simp [setSerialRecvCallBack, PushManagerTask.addPushHandle] at none

/-- A handle of another class keeps the invariant. -/
theorem Inv.addPushHandle (inv : state.Inv) {handle : PushHandle} (other : handle.kind ≠ .serial)
    (keyed : handle.cmdKey = handle.kind.cmdKey) :
    Inv { state with manager := state.manager.addPushHandle handle } where
  keyed held member := by
    rcases List.mem_append.mp member with known | new
    · exact inv.keyed held known
    · rw [List.mem_singleton.mp new]
      exact keyed
  known := by
    have differs : PushKind.serial.cmdKey ≠ handle.cmdKey := by
      rw [keyed]
      cases kind : handle.kind with
      | serial => exact absurd kind other
      | ivs | changeConn | resume => decide
    rw [PushManagerTask.mem_keys_addPushHandle, or_iff_left differs, inv.known]
    simp [PushManagerTask.addPushHandle, other]
  unregistered none := by
    refine inv.unregistered ?_
    simp [PushManagerTask.addPushHandle, other] at none
    simpa using none

/-- Every step keeps the invariant. -/
theorem Inv.step {label : SerialLabel} {next : SerialState} {emitted : List SerialOutput}
    (inv : state.Inv) (transition : state.step reals label = some (next, emitted)) : next.Inv := by
  unfold SerialState.step at transition
  split at transition
  · cases transition
  · cases label with
    | serialStart sessionId func =>
        cases transition
        exact inv.serialStart sessionId func
    | addPushHandle handle =>
        simp only at transition
        split at transition
        · next other =>
            cases transition
            exact inv.addPushHandle other.1 other.2
        · cases transition
    | push response =>
        cases transition
        exact ⟨inv.keyed, inv.known, inv.unregistered⟩

/-- A step delivers exactly when it meets the condition. -/
theorem delivered_step_iff {label : SerialLabel} {next : SerialState} {emitted : List SerialOutput}
    (inv : state.Inv) (transition : state.step reals label = some (next, emitted)) :
    (∀ output ∈ emitted, output.Delivered reals) ↔ state.FirstIsOwn reals label := by
  unfold SerialState.step at transition
  split at transition
  · cases transition
  · cases label with
    | serialStart sessionId func =>
        cases transition
        exact iff_of_true nofun trivial
    | addPushHandle handle =>
        simp only at transition
        split at transition
        · cases transition
          exact iff_of_true nofun trivial
        · cases transition
    | push response =>
        cases transition
        by_cases isSend : response.isSerialSend = true
        · rw [if_pos isSend, List.forall_mem_singleton]
          exact delivered_push_iff inv isSend
        · rw [if_neg isSend]
          exact iff_of_true nofun fun sends => absurd sends isSend

end SerialState

/-- Every "send" of a run reaches the callback last registered for its device, and no other,
exactly when the first serial handle of the registry is the right one each time. -/
theorem serial_delivered_iff (reals : Json.Reals) {taskId : UInt32} {labels : List SerialLabel}
    {final : SerialState} {outputs : List SerialOutput}
    (run : (serialMachine reals).Run (.start taskId) labels final outputs) :
    (∀ output ∈ outputs, output.Delivered reals) ↔
      (serialMachine reals).RunWhere (SerialState.FirstIsOwn reals) (.start taskId) labels final
        outputs := by
  refine Machine.RunWhere.good_iff (fun outputs => ∀ output ∈ outputs, output.Delivered reals)
    nofun ?_ run
  intro _ state _ label next emitted prior transition
  have inv : state.Inv := prior.invariant (fun _ state _ => state.Inv) (.start taskId)
    fun inv _ stepped => inv.step stepped
  rw [List.forall_mem_append, SerialState.delivered_step_iff inv transition]

/-- Serial data of a session, with the text `AA==` in it. -/
def serialSend (sessionId : UInt32) : Stanza :=
  .responseData sessionId (.object [("cmd", .string "ttransmission"), ("subcmd", .string "send"),
    ("comm", .uint 1), ("data", .string "AA==")]) [] none

/-- One device has a serial callback. -/
def oneSerialDevice : List SerialLabel :=
  [.addPushHandle plateHandle, .serialStart 2 (some 7), .push (serialSend 2)]

/-- The data of the only serial device is delivered to it. -/
theorem serial_delivered_alone :
    ∃ final outputs, (serialMachine ⟨fun _ => none, fun _ => none⟩).Run (.start 2)
        oneSerialDevice final outputs ∧ outputs.length = 1 ∧
      ∀ output ∈ outputs, output.Delivered ⟨fun _ => none, fun _ => none⟩ := by
  have permitted : (serialMachine ⟨fun _ => none, fun _ => none⟩).permits
      (fun state label => decide (state.FirstIsOwn ⟨fun _ => none, fun _ => none⟩ label))
      (.start 2) oneSerialDevice = true := by decide +kernel
  have checked : ((serialMachine ⟨fun _ => none, fun _ => none⟩).exec (.start 2)
      oneSerialDevice).any (fun result => result.2.length = 1) = true := by decide +kernel
  obtain ⟨final, outputs, run, isOne⟩ :=
    Machine.exists_runWhere_of_exec (fun _ _ => of_decide_eq_true) permitted checked
  exact ⟨final, outputs, run.run, by simpa using isOne, (serial_delivered_iff _ run.run).mpr run⟩

/-- A second device has a serial callback, and its data goes to the callback of the first. -/
theorem serial_data_of_second_device :
    ∃ final outputs, (serialMachine ⟨fun _ => none, fun _ => none⟩).Run (.start 2)
        [.serialStart 2 (some 7), .serialStart 3 (some 8), .push (serialSend 3)] final outputs ∧
      ∃ output ∈ outputs, output.expected = some 8 ∧
        output.outcome.toOption.map (·.map (·.func)) = some [7] ∧
        ¬output.Delivered ⟨fun _ => none, fun _ => none⟩ := by
  have checked : ((serialMachine ⟨fun _ => none, fun _ => none⟩).exec (.start 2)
      [.serialStart 2 (some 7), .serialStart 3 (some 8), .push (serialSend 3)]).any
      (fun result => result.2.any fun output => output.expected = some 8 ∧
        output.outcome.toOption.map (·.map (·.func)) = some [7]) = true := by decide +kernel
  obtain ⟨final, outputs, run, wrong⟩ := Machine.exists_run_of_exec checked
  obtain ⟨output, member, wrong⟩ := List.any_eq_true.mp wrong
  obtain ⟨isExpected, called⟩ := of_decide_eq_true wrong
  refine ⟨final, outputs, run, output, member, isExpected, called, ?_⟩
  rintro ⟨calls, isCalls, sameFuncs, _⟩
  rw [isCalls] at called
  simp [Except.toOption, sameFuncs, isExpected] at called

end VzSdk.Sdk
