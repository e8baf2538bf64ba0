import VzSdk.Sdk.Payload
import VzSdk.Sdk.PlateFields
import VzSdk.Sdk.Subscribing

/-!
# Uninitialised storage

The structures that answers are parsed into are locals that nothing initialises,
and the handles of connections and of missed records have fields that their
constructors do not set; one of them, the object that records are fetched
through, is never set. `Storage` is what stands in all of these.
`results_determined` says in which runs it makes no difference: to the plates and
sizes that callbacks get, to what the calls return, to what is copied and to the
object that is used.
-/

namespace VzSdk.Sdk

open VzSdk.Base VzSdk.Event VzSdk.Std

/-- The locals of a call, before anything is written to them. -/
structure Locals where
  plateResult : Memory
  fullSize : Int32
  clipSize : Int32
  maxRec : UInt32
  responese : RecordResponse

/-- The fields of a `ResumePushHandle` that its constructor does not set. -/
structure ResumeFields where
  sessionId : UInt32
  maxRecordId : Int
  /-- `recognition_`, by its address. -/
  recognition : Nat

/-- The fields of a `ChangeConnPushHandle`; its constructor sets none. -/
structure ChangeConnFields where
  sessionId : UInt32
  connCallback : Option Nat

/-- What stands in storage that nothing has initialised: the locals of each call, by the number of
steps before it and the record it is about, and the fields of each handle. -/
structure Storage where
  locals : Nat → Int → Locals
  resume : Nat → ResumeFields
  changeConn : Nat → ChangeConnFields

/-- A plate as a callback gets it. -/
structure PlateReport where
  handle : UInt32
  func : Nat
  fields : PlateFields
  resultType : ResultType
  full : ImageArgument
  clip : ImageArgument
deriving DecidableEq, Repr

/-- What a call of the plate callback reports. -/
def PlateCall.report (call : PlateCall) : PlateReport :=
  ⟨call.handle, call.func, plateFields call.result, call.resultType, call.full, call.clip⟩

/-- A record as the callback of a resume handle gets it, and the lengths of the two copies that
`GetRecord` made of its images. -/
structure RecordReport where
  fields : PlateFields
  resultType : ResultType
  fullSize : Int32
  clipSize : Int32
  copied : List Nat
deriving DecidableEq, Repr

/-- What `GetImage` returns, with the size and the range that it copied, if it did. -/
structure ImageResult where
  code : Int
  image : Option (UInt32 × Slice)
deriving DecidableEq, Repr

section

variable (reals : Json.Reals) (order : HostOrder)

/-- `GetImage`. -/
def getImage (responese : RecordResponse) (imageId : Int32) :
    Option (Json × List UInt8) → Except Fault ImageResult
  | none => .ok ⟨reqFailed, none⟩
  | some (root, resData) => do
      let responese ← parsed (parseRecordResponse reals root responese)
      if responese.id ≠ imageId.toUInt32 then return ⟨reqFailed, none⟩
      else
        return ⟨reqSucceed, some (responese.size,
          ⟨imageStart resData, responese.size.toNat⟩)⟩

/-- The body of the loop of `HandleResponse`: `GetRecord`, whose result is not looked at, and the
arguments of the callback. -/
def fetchRecord (locals : Locals) (answer : Option (Json × List UInt8)) :
    Except Fault RecordReport :=
  let report (output : PlateOutput) (copied : List Nat) : RecordReport :=
    ⟨plateFields output.result,
      getResultTypeFromTrigBits (order.load32 (output.result.bytes PlateResult.uBitsTrigType 4)),
      output.fullImgSize, output.clipImgSize, copied⟩
  let output : PlateOutput := ⟨locals.plateResult, locals.fullSize, locals.clipSize⟩
  match answer with
  | none => .ok (report output [])
  | some (root, _) =>
      match parsePlateResultResponse reals order root output with
      | (_, false) => .error .json
      | (output, true) =>
          .ok (report output [sizeT output.fullImgSize, sizeT output.clipImgSize])

end

/-- The next statement of `ResumeRecord`. -/
inductive ResumeStage where
  | addPushHandle (maxRecId : Int)
  | setStartMaxRecordID (maxRecId : Int)
  | setSessionID
  | connect
deriving DecidableEq, Repr

/-- A `ResumePushHandle`; the fields that are not set are none. -/
structure ResumeHandle where
  sessionId : Option UInt32
  maxRecordId : Option Int
  /-- The other fields. -/
  object : HandleObject
  /-- `SignalGetResumeInfo` is connected, and the queue layer is set. -/
  connected : Bool
  stage : Option ResumeStage
deriving DecidableEq

/-- A `ChangeConnPushHandle`; the fields that are not set are none. -/
structure ChangeConnHandle where
  sessionId : Option UInt32
  connCallback : Option (Option Nat)
deriving DecidableEq, Repr

namespace ChangeConnHandle

/-- A handle whose members are not initialised yet. -/
def new : ChangeConnHandle := ⟨none, none⟩

/-- `VzConnectDev::ChangeConn`, before the handle is registered. -/
def changeConn (sessionId : UInt32) (connCallback : Option Nat) : ChangeConnHandle :=
  let handle := { new with sessionId := some sessionId }
  { handle with connCallback := some connCallback }

/-- `ChangeConnPushHandle::HandleMessageData` for a change of a connection. -/
def handleMessageData (fields : ChangeConnFields) (handle : ChangeConnHandle) (session : UInt32) :
    List Nat :=
  if handle.sessionId.getD fields.sessionId = session then
    (handle.connCallback.getD fields.connCallback).toList
  else []

end ChangeConnHandle

/-- What the device and the application do, the same for all contents of the storage. -/
inductive ResultLabel where
  /-- A plate is taken by a handle with this callback. -/
  | plate (handle : UInt32) (resultCallback : Option Nat) (root : Json) (resData : List UInt8)
  | getMaxRecordID (answer : Option Json)
  | getImage (imageId : Int32) (answer : Option (Json × List UInt8))
  /-- A device is opened: the handle of its missed records is constructed. -/
  | newResumeHandle
  /-- `ResumeRecord` begins: the device is asked for its greatest record id. -/
  | resumeRecord (handle : Nat) (answer : Option Json)
  /-- `ResumeRecord` on the device `session` executes its next statement. -/
  | proceed (handle : Nat) (session : UInt32)
  /-- Fetching is enabled or disabled, as the connection changes. -/
  | setEnableGetrecord (handle : Nat) (enable : Bool)
  /-- The push thread takes a resume event; the handle that takes it gets this callback, this answer
  with the greatest record id, and these records. -/
  | resumeEvent (session : UInt32) (callback : Bool) (answer : Option Json)
      (records : Int → Option (Json × List UInt8))
  | changeConn (session : UInt32) (connCallback : Option Nat)
  /-- The push thread takes a change of a connection. -/
  | connEvent (session : UInt32) (notify : Notify)

/-- What the SDK reports. -/
inductive ResultOutput where
  | plate (outcome : Except Fault (List PlateReport))
  | maxRecordID (outcome : Except Fault Int)
  | image (outcome : Except Fault ImageResult)
  /-- `recognition_->GetRecord(id, ...)`. -/
  | getRecord (recognition : Nat) (id : Int)
  | record (outcome : Except Fault RecordReport)
  /-- `PostResumeReq`. -/
  | postResumeReq (session : UInt32)
  | notified (connCallback : Nat) (notify : Notify)

/-- The resume handles and the notification handles. -/
structure ResultState where
  /-- The steps so far. -/
  count : Nat
  resumeHandles : List ResumeHandle
  /-- The resume handles in `push_handles_`. -/
  registered : List Nat
  /-- The connection handles in `push_handles_`. -/
  changeConns : List ChangeConnHandle
  /-- A fault has ended the program. -/
  failed : Bool

namespace ResumeHandle

/-- A new handle, without a session or a record. -/
def new : ResumeHandle := ⟨none, none, .new, false, none⟩

/-- The fields as they are read. -/
def read (fields : ResumeFields) (handle : ResumeHandle) : HandleObject :=
  { handle.object with maxRecordId := handle.maxRecordId.getD fields.maxRecordId }

/-- The fields after a call that left the object so. -/
def write (fields : ResumeFields) (handle : ResumeHandle) (object : HandleObject) : ResumeHandle :=
  { handle with
    object := object
    maxRecordId :=
      if object.maxRecordId = (handle.read fields).maxRecordId then handle.maxRecordId
      else some object.maxRecordId }

/-- What `SlotRecvGetResumeInfo` sets, if it is connected. -/
def resumeInfo (reals : Json.Reals) (handle : ResumeHandle) (maxRec : UInt32) (callback : Bool)
    (answer : Option Json) : Except Fault (Option (Bool × Int)) :=
  if handle.connected then do
    let curMaxId ← getMaxRecordID reals maxRec answer
    return some (callback, curMaxId)
  else .ok none

end ResumeHandle

namespace ResultState

/-- No handle is registered yet. -/
def start : ResultState := ⟨0, [], [], [], false⟩

variable (reals : Json.Reals) (order : HostOrder) (storage : Storage) (state : ResultState)

/-- What the local variables of the step hold before they are assigned. -/
def locals (id : Int) : Locals := storage.locals state.count id

/-- The outputs of the loop of `HandleResponse`, and whether it came to its end. -/
def fetchOutputs (recognition : Nat) (records : Int → Option (Json × List UInt8)) :
    List FetchEvent → List ResultOutput × Bool
  | [] => ([], true)
  | .fetched id _ :: events =>
      let (outputs, ended) := fetchOutputs recognition records events
      (.getRecord recognition id :: outputs, ended)
  | .reported id :: events =>
      match fetchRecord reals order (state.locals storage id) (records id) with
      | .error fault => ([.record (.error fault)], false)
      | .ok report =>
          let (outputs, ended) := fetchOutputs recognition records events
          (.record (.ok report) :: outputs, ended)

/-- `ResumePushHandle::HandleResponse`; nothing when an `int` of its loop overflows. -/
def handleResponse (index : Nat) (handle : ResumeHandle) (callback : Bool) (answer : Option Json)
    (records : Int → Option (Json × List UInt8)) : Option (ResultState × List ResultOutput) :=
  let fields := storage.resume index
  match handle.resumeInfo reals (state.locals storage 0).maxRec callback answer with
  | .error fault => some ({ state with failed := true }, [.maxRecordID (.error fault)])
  | .ok info =>
      let code (id : Int) : Int := if (records id).isSome then reqSucceed else reqFailed
      match (handle.read fields).handleResponse info code with
      | none => none
      | some (object, events) =>
          let (outputs, ended) := state.fetchOutputs reals order storage fields.recognition records
            events
          if ended then
            some ({ state with
                resumeHandles := state.resumeHandles.set index (handle.write fields object) },
              outputs ++ if handle.connected then
                [.postResumeReq (handle.sessionId.getD fields.sessionId)] else [])
          else some ({ state with failed := true }, outputs)

/-- The loop over `push_handles_` for a resume event: the first handle of the session takes it. -/
def resumeEvent (session : UInt32) (callback : Bool) (answer : Option Json)
    (records : Int → Option (Json × List UInt8)) :
    List Nat → Option (ResultState × List ResultOutput)
  | [] => some (state, [])
  | index :: indices =>
      match state.resumeHandles[index]? with
      | none => none
      | some handle =>
          if handle.sessionId.getD (storage.resume index).sessionId = session then
            state.handleResponse reals order storage index handle callback answer records
          else resumeEvent session callback answer records indices

/-- The next statement of `ResumeRecord`. -/
def proceed (index : Nat) (handle : ResumeHandle) (session : UInt32) : Option ResultState :=
  match handle.stage with
  | none => none
  | some (.addPushHandle maxRecId) =>
      some { state with
        registered := state.registered ++ [index]
        resumeHandles := state.resumeHandles.set index
          { handle with stage := some (.setStartMaxRecordID maxRecId) } }
  | some (.setStartMaxRecordID maxRecId) =>
      some { state with
        resumeHandles := state.resumeHandles.set index
          { handle with maxRecordId := some maxRecId, stage := some .setSessionID } }
  | some .setSessionID =>
      some { state with
        resumeHandles := state.resumeHandles.set index
          { handle with sessionId := some session, stage := some .connect } }
  | some .connect =>
      some { state with
        resumeHandles := state.resumeHandles.set index
          { handle with connected := true, stage := none } }

/-- A step, without the count of steps. -/
def stepBody (state : ResultState) : ResultLabel → Option (ResultState × List ResultOutput)
  | .plate handle resultCallback root resData =>
      let outcome := plateCallback reals order (state.locals storage 0).plateResult root resData
        handle resultCallback
      some ({ state with failed := !outcome.isOk },
        [.plate (outcome.map (·.map PlateCall.report))])
  | .getMaxRecordID answer =>
      let outcome := getMaxRecordID reals (state.locals storage 0).maxRec answer
      some ({ state with failed := !outcome.isOk }, [.maxRecordID outcome])
  | .getImage imageId answer =>
      let outcome := getImage reals (state.locals storage 0).responese imageId answer
      some ({ state with failed := !outcome.isOk }, [.image outcome])
  | .newResumeHandle => some ({ state with resumeHandles := state.resumeHandles ++ [.new] }, [])
  | .resumeRecord index answer =>
      match state.resumeHandles[index]? with
      | none => none
      | some handle =>
          match getMaxRecordID reals (state.locals storage 0).maxRec answer with
          | .error fault => some ({ state with failed := true }, [.maxRecordID (.error fault)])
          | .ok maxRecId =>
              some ({ state with
                resumeHandles := state.resumeHandles.set index
                  { handle with stage := some (.addPushHandle maxRecId) } }, [])
  | .proceed index session => do
      let handle ← state.resumeHandles[index]?
      let next ← state.proceed index handle session
      return (next, [])
  | .setEnableGetrecord index enable =>
      match state.resumeHandles[index]? with
      | none => none
      | some handle =>
          some ({ state with
            resumeHandles := state.resumeHandles.set index
              { handle with object := { handle.object with enableGetrecord := enable } } }, [])
  | .resumeEvent session callback answer records =>
      state.resumeEvent reals order storage session callback answer records state.registered
  | .changeConn session connCallback =>
      some ({ state with
        changeConns := state.changeConns ++ [.changeConn session connCallback] }, [])
  | .connEvent session notify =>
      some (state, (state.changeConns.mapIdx fun index handle =>
        (handle.handleMessageData (storage.changeConn index) session).map (.notified · notify)).flatten)

/-- A step; after a Json failure there is none. -/
def step (state : ResultState) (label : ResultLabel) :
    Option (ResultState × List ResultOutput) :=
  if state.failed then none
  else
    (state.stepBody reals order storage label).map fun result =>
      ({ result.1 with count := state.count + 1 }, result.2)

end ResultState

/-- The machine of the results. -/
def resultMachine (reals : Json.Reals) (order : HostOrder) (storage : Storage) :
    Machine ResultState ResultLabel ResultOutput := ⟨ResultState.step reals order storage⟩

/-! ## What determines the results -/

/-- An answer has a `max_id`. -/
def MaxIdSent : Option Json → Prop
  | none => True
  | some root => root.isKeyed = true → (root.get "max_id").isNull = false

/-- An answer that can be parsed has the id of an image and, if it is the one that was asked for,
its size. -/
def ImageSent (reals : Json.Reals) (imageId : Int32) : Option (Json × List UInt8) → Prop
  | none => True
  | some (root, _) =>
      root.isKeyed = true → (root.get "id").isUIntOrNull reals = true →
        (root.get "size").isUIntOrNull reals = true →
          (root.get "id").isNull = false ∧
            ((root.get "id").asUInt reals = some imageId.toUInt32 →
              (root.get "size").isNull = false)

/-- No record is missing that the loop of `HandleResponse` would fetch. -/
def HandleObject.NothingMissing (object : HandleObject) : Prop :=
  object.callback = true → object.enableGetrecord = true → 0 < object.curMaxRecordId →
    object.missing (object.maxRecordId + 1)
      (object.curMaxRecordId - object.maxRecordId).toNat = []

/-- The handle gets an answer with a `max_id`, if it asks, and has nothing to fetch. -/
def ResumeHandle.Settled (reals : Json.Reals) (handle : ResumeHandle) (callback : Bool)
    (answer : Option Json) : Prop :=
  (handle.connected = true → MaxIdSent answer) ∧
    match handle.resumeInfo reals 0 callback answer with
    | .error _ => True
    | .ok info =>
        (HandleState.slotRecvGetResumeInfo (handle.read ⟨0, 0, 0⟩) info).NothingMissing

namespace ResultState

/-- The session of a handle, if there is such a handle. -/
def sessionId (state : ResultState) (index : Nat) : Option UInt32 :=
  state.resumeHandles[index]?.bind (·.sessionId)

/-- A plate for a callback has all members, unless it cannot be parsed; every answer with the
greatest record id has one, an image comes with its id and size; and a resume event comes to no
handle whose session is not set, before one that has nothing to fetch takes it. -/
def Determined (reals : Json.Reals) (state : ResultState) : ResultLabel → Prop
  | .plate _ resultCallback root _ =>
      resultCallback.isSome = true → PlateShape root → PlateComplete reals root
  | .getMaxRecordID answer => MaxIdSent answer
  | .getImage imageId answer => ImageSent reals imageId answer
  | .resumeRecord _ answer => MaxIdSent answer
  | .resumeEvent session callback answer _ =>
      (∀ index ∈ state.registered.takeWhile (fun index => state.sessionId index ≠ some session),
        (state.sessionId index).isSome = true) ∧
      ∀ index ∈ state.registered.find? (fun index => state.sessionId index = some session),
        ∀ handle ∈ state.resumeHandles[index]?, handle.Settled reals callback answer
  | _ => True

/-- A handle has a start before it has a session, and the connection handles have all fields. -/
structure Inv (state : ResultState) : Prop where
  started : ∀ handle ∈ state.resumeHandles,
    handle.sessionId.isSome = true ∨ handle.stage = some .setSessionID →
      handle.maxRecordId.isSome = true
  set : ∀ handle ∈ state.changeConns,
    handle.sessionId.isSome = true ∧ handle.connCallback.isSome = true

end ResultState

section

variable {reals : Json.Reals} {order : HostOrder}

/-- A function of the value changes no failure. -/
theorem isOk_map {Value Next : Type} (outcome : Except Fault Value) (change : Value → Next) :
    (outcome.map change).isOk = outcome.isOk := by
  cases outcome <;> rfl

/-- An answer that was sent determines the greatest id. -/
theorem getMaxRecordID_congr {answer : Option Json} (sent : MaxIdSent answer)
    (first second : UInt32) :
    getMaxRecordID reals first answer = getMaxRecordID reals second answer := by
  cases answer with
  | none => rfl
  | some root =>
      have same : parseMaxRecResponse reals root ⟨first⟩ =
          parseMaxRecResponse reals root ⟨second⟩ := by
        cases keyed : root.isKeyed with
        | false => simp [parseMaxRecResponse, (Json.member_eq_none_iff root _).mpr keyed]
        | true =>
            have present := sent keyed
            simp only [parseMaxRecResponse, Json.member_eq_some keyed, Option.bind_eq_bind,
              Option.bind_some, Json.unlessNull, present, Bool.false_eq_true, if_false]
            cases (root.get "max_id").asUInt reals <;> rfl
      simp only [getMaxRecordID, same]

/-- An answer that was sent determines the image. -/
theorem getImage_congr {imageId : Int32} {answer : Option (Json × List UInt8)}
    (sent : ImageSent reals imageId answer) (first second : RecordResponse) :
    getImage reals first imageId answer = getImage reals second imageId answer := by
  cases answer with
  | none => rfl
  | some pair =>
      obtain ⟨root, resData⟩ := pair
      by_cases unread : root.isKeyed = false ∨ (root.get "id").asUInt reals = none ∨
          (root.get "size").asUInt reals = none
      · simp only [getImage, parseRecordResponse_eq_none unread]
      · simp only [not_or, Bool.not_eq_false] at unread
        obtain ⟨keyed, idFine, sizeFine⟩ := unread
        obtain ⟨id, idRead⟩ := Option.ne_none_iff_exists'.mp idFine
        obtain ⟨size, sizeRead⟩ := Option.ne_none_iff_exists'.mp sizeFine
        obtain ⟨idSent, sizeSent⟩ := sent keyed (by simp [Json.isUIntOrNull, idRead])
          (by simp [Json.isUIntOrNull, sizeRead])
        simp only [getImage, parseRecordResponse_eq keyed idRead sizeRead, parsed, idSent,
          Bool.false_eq_true, if_false]
        by_cases asked : id = imageId.toUInt32
        · simp only [sizeSent (idRead.trans (congrArg some asked)), Bool.false_eq_true, if_false]
        · simp [bind, Except.bind, asked]

/-- A complete plate determines what the callback is called with. -/
theorem plateCallback_congr (order : HostOrder) {root : Json} {resultCallback : Option Nat}
    (complete : resultCallback.isSome = true → PlateShape root → PlateComplete reals root)
    (first second : Memory) (resData : List UInt8) (handle : UInt32) :
    (plateCallback reals order first root resData handle resultCallback).map
        (·.map PlateCall.report) =
      (plateCallback reals order second root resData handle resultCallback).map
        (·.map PlateCall.report) := by
  by_cases shape : PlateShape root
  · obtain ⟨firstResult, isFirst⟩ : ∃ result, parsePlateResultResponse reals order root
        ⟨first, 0, 0⟩ = (⟨result, _, _⟩, true) := parsePlateResultResponse_of_shape shape _
    obtain ⟨secondResult, isSecond⟩ : ∃ result, parsePlateResultResponse reals order root
        ⟨second, 0, 0⟩ = (⟨result, _, _⟩, true) := parsePlateResultResponse_of_shape shape _
    simp only [plateCallback, isFirst, isSecond]
    cases resultCallback with
    | none => rfl
    | some func =>
        have isComplete := complete rfl shape
        have fields := isComplete.plateFields_congr order ⟨first, 0, 0⟩ ⟨second, 0, 0⟩
        have trigType := isComplete.trigType_congr order ⟨first, 0, 0⟩ ⟨second, 0, 0⟩
        rw [isFirst, isSecond] at fields trigType
        simp [Except.map, PlateCall.report, fields, trigType]
  · obtain ⟨firstRest, isFirst⟩ : ∃ rest, parsePlateResultResponse reals order root
        ⟨first, 0, 0⟩ = (rest, false) := parsePlateResultResponse_of_not_shape shape _
    obtain ⟨secondRest, isSecond⟩ : ∃ rest, parsePlateResultResponse reals order root
        ⟨second, 0, 0⟩ = (rest, false) := parsePlateResultResponse_of_not_shape shape _
    simp only [plateCallback, isFirst, isSecond]

namespace HandleObject

/-- Where nothing is missing, nothing is fetched. -/
theorem fetchFrom_nothing {code : Int → Int} {object final : HandleObject} {id : Int}
    {rounds : Nat} {events : List FetchEvent} (nothing : object.missing id rounds = [])
    (result : object.fetchFrom code id rounds = some (final, events)) : events = [] := by
  induction rounds generalizing object id with
  | zero =>
      cases result
      rfl
  | succ rounds inductionHypothesis =>
      rw [missing_succ, List.append_eq_nil_iff] at nothing
      obtain ⟨came, rest⟩ := nothing
      have came : id ∈ object.recvRecordIdSet := by
        refine Decidable.byContradiction fun new => ?_
        rw [if_neg new] at came
        cases came
      simp only [fetchFrom, came, if_true] at result
      split at result
      · split at result
        · cases result
        · refine inductionHypothesis (Eq.trans (missing_congr fun record later => ?_) rest) result
          simp only [List.mem_filter, decide_eq_true_eq]
          exact ⟨And.left, fun member => ⟨member, by omega⟩⟩
      · cases result
        rfl

/-- Where nothing is missing, the handle fetches nothing. -/
theorem handleResponse_nothing {code : Int → Int} {object final : HandleObject}
    {info : Option (Bool × Int)} {events : List FetchEvent}
    (nothing : (HandleState.slotRecvGetResumeInfo object info).NothingMissing)
    (result : object.handleResponse info code = some (final, events)) : events = [] := by
  simp only [handleResponse] at result
  split at result
  · next works =>
      split at result
      · cases result
      · exact fetchFrom_nothing (nothing works.1 works.2.1 works.2.2) result
  · cases result
    rfl

end HandleObject

namespace ResumeHandle

variable {handle : ResumeHandle}

/-- A handle that was started has its members. -/
theorem read_congr (started : handle.maxRecordId.isSome = true) (first second : ResumeFields) :
    handle.read first = handle.read second := by
  obtain ⟨start, isStart⟩ := Option.isSome_iff_exists.mp started
  simp only [read, isStart, Option.getD_some]

/-- The answers determine the resume information. -/
theorem resumeInfo_congr {callback : Bool} {answer : Option Json}
    (sent : handle.connected = true → MaxIdSent answer) (first second : UInt32) :
    handle.resumeInfo reals first callback answer =
      handle.resumeInfo reals second callback answer := by
  cases connected : handle.connected with
  | false => simp [resumeInfo, connected]
  | true => simp only [resumeInfo, connected, getMaxRecordID_congr (sent connected) first second]

end ResumeHandle

namespace ResultState

variable {state : ResultState}

/-- A settled handle does not depend on the storage. -/
theorem handleResponse_congr {handle : ResumeHandle} {callback : Bool} {answer : Option Json}
    (hasSession : handle.sessionId.isSome = true) (started : handle.maxRecordId.isSome = true)
    (settled : handle.Settled reals callback answer) (storage other : Storage) (index : Nat)
    (records : Int → Option (Json × List UInt8)) :
    state.handleResponse reals order storage index handle callback answer records =
      state.handleResponse reals order other index handle callback answer records := by
  obtain ⟨session, isSession⟩ := Option.isSome_iff_exists.mp hasSession
  obtain ⟨sent, nothing⟩ := settled
  have sameRead := handle.read_congr started
  have sameInfo (first second : UInt32) : handle.resumeInfo reals first callback answer =
      handle.resumeInfo reals second callback answer := handle.resumeInfo_congr sent first second
  unfold handleResponse
  rw [sameInfo _ 0, sameInfo (state.locals other 0).maxRec 0]
  cases informed : handle.resumeInfo reals 0 callback answer with
  | error fault => rfl
  | ok info =>
      rw [informed] at nothing
      simp only [sameRead (storage.resume index) ⟨0, 0, 0⟩, sameRead (other.resume index) ⟨0, 0, 0⟩,
        ResumeHandle.write, isSession, Option.getD_some]
      cases handled : (handle.read ⟨0, 0, 0⟩).handleResponse info fun id =>
          if (records id).isSome = true then reqSucceed else reqFailed with
      | none => rfl
      | some result =>
          obtain ⟨object, events⟩ := result
          have noEvents := HandleObject.handleResponse_nothing nothing handled
          simp only [noEvents, fetchOutputs]

/-- A resume event does not depend on the storage when its handle is settled. -/
theorem resumeEvent_congr (inv : state.Inv) {session : UInt32} {callback : Bool}
    {answer : Option Json} (storage other : Storage)
    (records : Int → Option (Json × List UInt8)) {indices : List Nat}
    (hasSessions : ∀ index ∈ indices.takeWhile (fun index => state.sessionId index ≠ some session),
      (state.sessionId index).isSome = true)
    (settled : ∀ index ∈ indices.find? (fun index => state.sessionId index = some session),
      ∀ handle ∈ state.resumeHandles[index]?, handle.Settled reals callback answer) :
    state.resumeEvent reals order storage session callback answer records indices =
      state.resumeEvent reals order other session callback answer records indices := by
  induction indices with
  | nil => rfl
  | cons index indices inductionHypothesis =>
      unfold resumeEvent
      cases found : state.resumeHandles[index]? with
      | none => rfl
      | some handle =>
          have isSession : state.sessionId index = handle.sessionId := by simp [sessionId, found]
          by_cases own : handle.sessionId = some session
          · have takes : state.sessionId index = some session := isSession.trans own
            have started := inv.started handle (List.mem_of_getElem? found) (.inl (by simp [own]))
            have isSettled := settled index (by simp [takes]) handle found
            simp only [own, Option.getD_some, if_true]
            exact handleResponse_congr (by simp [own]) started isSettled storage other index records
          · have passes : state.sessionId index ≠ some session := fun same =>
              own (isSession.symm.trans same)
            rw [List.takeWhile_cons_of_pos (by simpa using passes), List.forall_mem_cons]
              at hasSessions
            rw [List.find?_cons_of_neg (by simpa using passes)] at settled
            obtain ⟨hasSession, rest⟩ := hasSessions
            obtain ⟨otherSession, isOther⟩ := Option.isSome_iff_exists.mp hasSession
            have differs : ¬otherSession = session := fun same =>
              passes (isOther.trans (congrArg some same))
            simp only [← isSession, isOther, Option.getD_some, if_neg differs]
            exact inductionHypothesis rest settled

/-- A notification handle that has its members does not depend on the storage. -/
theorem notified_congr (inv : state.Inv) (storage other : Storage) (session : UInt32)
    (notify : Notify) :
    state.changeConns.mapIdx (fun index handle =>
        (handle.handleMessageData (storage.changeConn index) session).map
          (ResultOutput.notified · notify)) =
      state.changeConns.mapIdx fun index handle =>
        (handle.handleMessageData (other.changeConn index) session).map
          (.notified · notify) := by
  refine List.ext_getElem (by simp) fun index low high => ?_
  rw [List.getElem_mapIdx, List.getElem_mapIdx]
  obtain ⟨hasSession, hasCallback⟩ := inv.set _ (List.getElem_mem (by simpa using low))
  obtain ⟨own, isOwn⟩ := Option.isSome_iff_exists.mp hasSession
  obtain ⟨callback, isCallback⟩ := Option.isSome_iff_exists.mp hasCallback
  simp only [ChangeConnHandle.handleMessageData, isOwn, isCallback, Option.getD_some]

/-- In a step that is determined the storage makes no difference. -/
theorem step_congr (inv : state.Inv) {label : ResultLabel} (determined : state.Determined reals label)
    (storage other : Storage) :
    state.step reals order storage label = state.step reals order other label := by
  have body : state.stepBody reals order storage label =
      state.stepBody reals order other label := by
    cases label with
    | plate handle resultCallback root resData =>
        have same := plateCallback_congr order determined
          (state.locals storage 0).plateResult (state.locals other 0).plateResult resData handle
        have isOk := congrArg Except.isOk same
        simp only [isOk_map] at isOk
        simp only [stepBody, same, isOk]
    | getMaxRecordID answer =>
        simp only [stepBody, getMaxRecordID_congr determined (state.locals storage 0).maxRec
          (state.locals other 0).maxRec]
    | getImage imageId answer =>
        simp only [stepBody, getImage_congr determined (state.locals storage 0).responese
          (state.locals other 0).responese]
    | resumeRecord index answer =>
        simp only [stepBody, getMaxRecordID_congr determined (state.locals storage 0).maxRec
          (state.locals other 0).maxRec]
    | resumeEvent session callback answer records =>
        exact resumeEvent_congr inv storage other records determined.1 determined.2
    | connEvent session notify => simp only [stepBody, notified_congr inv storage other]
    | newResumeHandle | proceed | setEnableGetrecord | changeConn => rfl
  simp only [step, body]

/-! ## What a step keeps -/

/-- Nothing is registered at first. -/
theorem Inv.start : ResultState.start.Inv where
  started handle member := by cases member
  set handle member := by cases member

/-- A resume handle that is changed keeps its start before its session. -/
theorem Inv.setHandle (inv : state.Inv) (index : Nat) {handle : ResumeHandle}
    (started : handle.sessionId.isSome = true ∨ handle.stage = some .setSessionID →
      handle.maxRecordId.isSome = true) :
    Inv { state with resumeHandles := state.resumeHandles.set index handle } := by
  refine ⟨fun changed member => ?_, inv.set⟩
  rcases List.mem_or_eq_of_mem_set member with old | rfl
  · exact inv.started changed old
  · exact started

/-- A handle that goes on to a statement before its session is set. -/
theorem Inv.restaged (inv : state.Inv) {handle : ResumeHandle}
    (member : handle ∈ state.resumeHandles) (stage : ResumeStage)
    (differs : stage ≠ .setSessionID) :
    ({ handle with stage := some stage } : ResumeHandle).sessionId.isSome = true ∨
        some stage = some .setSessionID → handle.maxRecordId.isSome = true := by
  rintro (hasSession | isNext)
  · exact inv.started handle member (.inl hasSession)
  · exact absurd (Option.some.inj isNext) differs

/-- Going on with the records keeps the invariant. -/
theorem Inv.proceed (inv : state.Inv) {index : Nat} {handle : ResumeHandle}
    (member : handle ∈ state.resumeHandles) {session : UInt32} {next : ResultState}
    (proceeded : state.proceed index handle session = some next) : next.Inv := by
  have started := inv.started handle member
  unfold ResultState.proceed at proceeded
  cases isStage : handle.stage with
  | none =>
      rw [isStage] at proceeded
      cases proceeded
  | some stage =>
      rw [isStage] at proceeded
      cases stage with
      | addPushHandle maxRecId =>
          cases proceeded
          have kept := inv.setHandle index (inv.restaged member (.setStartMaxRecordID maxRecId)
            (by simp))
          exact ⟨kept.started, kept.set⟩
      | setStartMaxRecordID maxRecId =>
          cases proceeded
          exact inv.setHandle index fun _ => rfl
      | setSessionID =>
          cases proceeded
          exact inv.setHandle index fun _ => started (.inr isStage)
      | connect =>
          cases proceeded
          refine inv.setHandle index ?_
          rintro (hasSession | isNext)
          · exact started (.inl hasSession)
          · cases isNext

/-- Handling a resume event keeps the invariant. -/
theorem Inv.handleResponse (inv : state.Inv) {storage : Storage} {index : Nat}
    {handle : ResumeHandle} (member : handle ∈ state.resumeHandles) {callback : Bool}
    {answer : Option Json} {records : Int → Option (Json × List UInt8)} {next : ResultState}
    {emitted : List ResultOutput}
    (handled : state.handleResponse reals order storage index handle callback answer records =
      some (next, emitted)) : next.Inv := by
  have started := inv.started handle member
  unfold ResultState.handleResponse at handled
  split at handled
  · cases handled
    exact ⟨inv.started, inv.set⟩
  · simp only at handled
    split at handled
    · cases handled
    · split at handled
      · cases handled
        refine inv.setHandle index fun early => ?_
        simp only [ResumeHandle.write]
        split
        · exact started early
        · rfl
      · cases handled
        exact ⟨inv.started, inv.set⟩

/-- A resume event keeps the invariant. -/
theorem Inv.resumeEvent (inv : state.Inv) {storage : Storage} {session : UInt32} {callback : Bool}
    {answer : Option Json} {records : Int → Option (Json × List UInt8)} {indices : List Nat}
    {next : ResultState} {emitted : List ResultOutput}
    (taken : state.resumeEvent reals order storage session callback answer records indices =
      some (next, emitted)) : next.Inv := by
  induction indices with
  | nil =>
      cases taken
      exact inv
  | cons index indices inductionHypothesis =>
      unfold ResultState.resumeEvent at taken
      split at taken
      · cases taken
      · next handle found =>
          split at taken
          · exact inv.handleResponse (List.mem_of_getElem? found) taken
          · exact inductionHypothesis taken

/-- The body of a step keeps the invariant. -/
theorem Inv.stepBody (inv : state.Inv) {storage : Storage} {label : ResultLabel}
    {next : ResultState} {emitted : List ResultOutput}
    (taken : state.stepBody reals order storage label = some (next, emitted)) : next.Inv := by
  cases label with
  | plate | getMaxRecordID | getImage =>
      cases taken
      exact ⟨inv.started, inv.set⟩
  | connEvent session notify =>
      cases taken
      exact inv
  | newResumeHandle =>
      cases taken
      refine ⟨fun handle member => ?_, inv.set⟩
      rcases List.mem_append.mp member with old | new
      · exact inv.started handle old
      · rw [List.mem_singleton.mp new]
        exact nofun
  | changeConn session connCallback =>
      cases taken
      refine ⟨inv.started, fun handle member => ?_⟩
      rcases List.mem_append.mp member with old | new
      · exact inv.set handle old
      · rw [List.mem_singleton.mp new]
        exact ⟨rfl, rfl⟩
  | resumeRecord index answer =>
      simp only [ResultState.stepBody] at taken
      split at taken
      · cases taken
      · next handle found =>
          split at taken
          · cases taken
            exact ⟨inv.started, inv.set⟩
          · next maxRecId _ =>
              cases taken
              exact inv.setHandle index (inv.restaged (List.mem_of_getElem? found)
                (.addPushHandle maxRecId) (by simp))
  | setEnableGetrecord index enable =>
      simp only [ResultState.stepBody] at taken
      split at taken
      · cases taken
      · next handle found =>
          cases taken
          exact inv.setHandle index (inv.started handle (List.mem_of_getElem? found))
  | proceed index session =>
      obtain ⟨handle, found, taken⟩ := Option.bind_eq_some_iff.mp taken
      obtain ⟨state', proceeded, same⟩ := Option.bind_eq_some_iff.mp taken
      cases same
      exact inv.proceed (List.mem_of_getElem? found) proceeded
  | resumeEvent session callback answer records => exact inv.resumeEvent taken

/-- A step keeps the invariant. -/
theorem Inv.step (inv : state.Inv) {storage : Storage} {label : ResultLabel} {next : ResultState}
    {emitted : List ResultOutput}
    (transition : state.step reals order storage label = some (next, emitted)) : next.Inv := by
  unfold ResultState.step at transition
  split at transition
  · cases transition
  · obtain ⟨result, taken, same⟩ := Option.map_eq_some_iff.mp transition
    cases same
    have kept : result.1.Inv := inv.stepBody taken
    exact ⟨kept.started, kept.set⟩

end ResultState

end

/-- A run whose steps are all determined is, with the same outputs, a run for any other contents of
the uninitialised storage. -/
theorem results_determined (reals : Json.Reals) (order : HostOrder) (storage other : Storage)
    {labels : List ResultLabel} {final : ResultState} {outputs : List ResultOutput}
    (run : (resultMachine reals order storage).RunWhere (ResultState.Determined reals) .start labels
      final outputs) :
    (resultMachine reals order other).Run .start labels final outputs := by
  refine (run.transfer ?_).run
  intro _ state _ label prior determined
  have inv : state.Inv := prior.invariant (fun _ state _ => state.Inv) .start
    fun inv _ transition => inv.step transition
  exact ResultState.step_congr inv determined storage other

instance (root : Json) : Decidable (PlateShape root) :=
  decidable_of_iff (root.isKeyed ∧ (root.get "PlateResult").isKeyed ∧
      ((root.get "PlateResult").get "location").isKeyed ∧
      (((root.get "PlateResult").get "location").get "RECT").isKeyed ∧
      ((root.get "PlateResult").get "timeStamp").isKeyed ∧
      (((root.get "PlateResult").get "timeStamp").get "Timeval").isKeyed)
    ⟨fun ⟨own, plate, location, rect, timeStamp, timeval⟩ =>
        ⟨own, plate, location, rect, timeStamp, timeval⟩,
      fun shape => ⟨shape.own, shape.plate, shape.location, shape.rect, shape.timeStamp,
        shape.timeval⟩⟩

instance (reals : Json.Reals) (root : Json) : Decidable (PlateComplete reals root) :=
  decidable_of_iff ((plateText root "license").any (·.length < PlateResult.lpLen) = true ∧
      (plateText root "colorValue").any (·.length < PlateResult.colorLen) = true ∧
      (plateNumbers root).all (·.typed reals) = true)
    ⟨fun ⟨license, color, numbers⟩ => ⟨license, color, numbers⟩,
      fun complete => ⟨complete.license, complete.color, complete.numbers⟩⟩

instance : DecidablePred MaxIdSent
  | none => .isTrue trivial
  | some root => inferInstanceAs
      (Decidable (root.isKeyed = true → (root.get "max_id").isNull = false))

instance (reals : Json.Reals) (imageId : Int32) : DecidablePred (ImageSent reals imageId)
  | none => .isTrue trivial
  | some (root, _) => inferInstanceAs (Decidable (root.isKeyed = true →
      (root.get "id").isUIntOrNull reals = true → (root.get "size").isUIntOrNull reals = true →
        (root.get "id").isNull = false ∧
          ((root.get "id").asUInt reals = some imageId.toUInt32 →
            (root.get "size").isNull = false)))

instance (object : HandleObject) : Decidable object.NothingMissing :=
  inferInstanceAs (Decidable (object.callback = true → object.enableGetrecord = true →
    0 < object.curMaxRecordId → object.missing (object.maxRecordId + 1)
      (object.curMaxRecordId - object.maxRecordId).toNat = []))

instance (reals : Json.Reals) (handle : ResumeHandle) (callback : Bool) (answer : Option Json) :
    Decidable (handle.Settled reals callback answer) :=
  @instDecidableAnd _ _ _ <|
    match handle.resumeInfo reals 0 callback answer with
    | .error _ => .isTrue trivial
    | .ok info => inferInstanceAs (Decidable
        (HandleState.slotRecvGetResumeInfo (handle.read ⟨0, 0, 0⟩) info).NothingMissing)

instance (reals : Json.Reals) (state : ResultState) : DecidablePred (state.Determined reals)
  | .plate _ resultCallback root _ => inferInstanceAs
      (Decidable (resultCallback.isSome = true → PlateShape root → PlateComplete reals root))
  | .getMaxRecordID answer => inferInstanceAs (Decidable (MaxIdSent answer))
  | .getImage imageId answer => inferInstanceAs (Decidable (ImageSent reals imageId answer))
  | .resumeRecord _ answer => inferInstanceAs (Decidable (MaxIdSent answer))
  | .resumeEvent session callback answer _ => inferInstanceAs (Decidable
      ((∀ index ∈ state.registered.takeWhile (fun index => state.sessionId index ≠ some session),
        (state.sessionId index).isSome = true) ∧
      ∀ index ∈ state.registered.find? (fun index => state.sessionId index = some session),
        ∀ handle ∈ state.resumeHandles[index]?, handle.Settled reals callback answer))
  | .newResumeHandle => .isTrue trivial
  | .proceed _ _ => .isTrue trivial
  | .setEnableGetrecord _ _ => .isTrue trivial
  | .changeConn _ _ => .isTrue trivial
  | .connEvent _ _ => .isTrue trivial

/-- Storage with one byte all over. -/
def filledStorage (byte : UInt8) : Storage where
  locals _ _ := ⟨fun _ => byte, .ofNat byte.toNat, .ofNat byte.toNat, .ofNat byte.toNat,
    ⟨.ofNat byte.toNat, .ofNat byte.toNat⟩⟩
  resume _ := ⟨.ofNat byte.toNat, byte.toNat, byte.toNat⟩
  changeConn _ := ⟨.ofNat byte.toNat, some byte.toNat⟩

/-- A plate with all its members. -/
def completePlate : Json :=
  .object [
    ("PlateResult", .object [
      ("license", .string "A12345"), ("colorValue", .string "blue"), ("colorType", .int 1),
      ("type", .int 1), ("confidence", .int 96), ("bright", .int 90), ("direction", .int 4),
      ("location", .object [("RECT", .object [
        ("left", .int 10), ("top", .int 20), ("right", .int 110), ("bottom", .int 50)])]),
      ("timeUsed", .int 30), ("carBright", .int 80), ("carColor", .int 2),
      ("timeStamp", .object [("Timeval", .object [("sec", .int 1400000000), ("usec", .int 5)])]),
      ("triggerType", .int 1)]),
    ("clipImgSize", .int 0), ("cmd", .string ivsResult), ("fullImgSize", .int 2), ("id", .int 5),
    ("timeString", .string "2014-05-14 10:53:20")]

/-- An answer with the greatest id 5. -/
def maxIdFive : Json := .object [("max_id", .uint 5)]

/-- A plate, the greatest record id, an image, a subscription with its first event, and a lost
connection. -/
def determinedLabels : List ResultLabel :=
  [.plate 2 (some 7) completePlate [123, 125, 0, 255, 216], .getMaxRecordID (some maxIdFive),
    .getImage 3 (some (.object [("id", .uint 3), ("size", .uint 1)], [123, 125, 0, 255])),
    .newResumeHandle, .resumeRecord 0 (some maxIdFive), .proceed 0 2, .proceed 0 2, .proceed 0 2,
    .proceed 0 2, .resumeEvent 2 true (some maxIdFive) (fun _ => none), .changeConn 2 (some 9),
    .connEvent 2 .offline]

/-- The same results with two contents of the storage. -/
theorem results_determined_subscribed :
    ∃ final outputs, outputs.length = 5 ∧
      (resultMachine ⟨fun _ => none, fun _ => none⟩ .littleEndian (filledStorage 0)).Run .start
        determinedLabels final outputs ∧
      (resultMachine ⟨fun _ => none, fun _ => none⟩ .littleEndian (filledStorage 255)).Run .start
        determinedLabels final outputs := by
  have permitted : (resultMachine ⟨fun _ => none, fun _ => none⟩ .littleEndian
      (filledStorage 0)).permits (fun state label =>
        decide (state.Determined ⟨fun _ => none, fun _ => none⟩ label)) .start determinedLabels =
          true := by decide +kernel
  have checked : ((resultMachine ⟨fun _ => none, fun _ => none⟩ .littleEndian
      (filledStorage 0)).exec .start determinedLabels).any
        (fun result => result.2.length = 5) = true := by decide +kernel
  obtain ⟨final, outputs, run, isFive⟩ :=
    Machine.exists_runWhere_of_exec (fun _ _ => of_decide_eq_true) permitted checked
  exact ⟨final, outputs, by simpa using isFive, run.run,
    results_determined _ _ _ (filledStorage 255) run⟩

/-- The record id that a query returned. -/
def ResultOutput.maxId? : ResultOutput → Option Int
  | .maxRecordID (.ok maxId) => some maxId
  | _ => none

/-- An answer without a `max_id` is taken for the record id that stood in `max_rec`. -/
theorem max_id_of_storage :
    ∃ first firstOutputs second secondOutputs,
      (resultMachine ⟨fun _ => none, fun _ => none⟩ .littleEndian (filledStorage 0)).Run .start
        [.getMaxRecordID (some (.object []))] first firstOutputs ∧
      (resultMachine ⟨fun _ => none, fun _ => none⟩ .littleEndian (filledStorage 255)).Run .start
        [.getMaxRecordID (some (.object []))] second secondOutputs ∧
      firstOutputs.map ResultOutput.maxId? = [some 0] ∧
      secondOutputs.map ResultOutput.maxId? = [some 255] ∧ firstOutputs ≠ secondOutputs := by
  have checked (byte : UInt8) (isByte : byte = 0 ∨ byte = 255) :
      ((resultMachine ⟨fun _ => none, fun _ => none⟩ .littleEndian (filledStorage byte)).exec .start
        [.getMaxRecordID (some (.object []))]).any
          (fun result => result.2.map ResultOutput.maxId? = [some (byte.toNat : Int)]) = true := by
    rcases isByte with rfl | rfl <;> decide +kernel
  obtain ⟨first, firstOutputs, firstRun, isFirst⟩ :=
    Machine.exists_run_of_exec (checked 0 (.inl rfl))
  obtain ⟨second, secondOutputs, secondRun, isSecond⟩ :=
    Machine.exists_run_of_exec (checked 255 (.inr rfl))
  have firstId : firstOutputs.map ResultOutput.maxId? = [some 0] := of_decide_eq_true isFirst
  have secondId : secondOutputs.map ResultOutput.maxId? = [some 255] := of_decide_eq_true isSecond
  refine ⟨first, firstOutputs, second, secondOutputs, firstRun, secondRun, firstId, secondId, ?_⟩
  rintro rfl
  rw [firstId] at secondId
  exact absurd secondId (by decide)

end VzSdk.Sdk
