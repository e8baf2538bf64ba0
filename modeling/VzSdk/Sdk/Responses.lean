import VzSdk.Sdk.CommandAnalysis

/-!
# What the callers do with a response

Each call that waits for an answer, and each push handle, parses the response
and then compares the texts in it, which stay `NULL` when they are not there.
`reads_without_fault_iff` says for every one of them which objects it reads
without a Json failure and without a `NULL` given to a string function.
-/

namespace VzSdk.Sdk

open VzSdk.Base VzSdk.Std

/-- What ends the program while a response is read. -/
inductive Fault where
  | json
  | nullPointer
deriving DecidableEq, Repr

/-- No fault. -/
def Fine {Value : Type} (outcome : Except Fault Value) : Prop := ∃ value, outcome = .ok value

section

variable {Value Next : Type}

/-- A value is fine. -/
@[simp] theorem fine_ok (value : Value) : Fine (.ok value : Except Fault Value) := ⟨value, rfl⟩

/-- A value is fine. -/
@[simp] theorem fine_pure (value : Value) : Fine (pure value : Except Fault Value) := ⟨value, rfl⟩

/-- A fault is not. -/
@[simp] theorem not_fine_error (fault : Fault) : ¬Fine (.error fault : Except Fault Value) := by
  rintro ⟨value, same⟩
  cases same

/-- Two computations in a row are fine when the first gives a value for which the second is. -/
@[simp] theorem fine_bind_iff (outcome : Except Fault Value) (next : Value → Except Fault Next) :
    Fine (outcome >>= next) ↔ ∃ value, outcome = .ok value ∧ Fine (next value) := by
  cases outcome with
  | error fault => simp [bind, Except.bind]
  | ok value => simp [bind, Except.bind]

/-- Two computations in a row give what the second gives for the value of the first. -/
theorem bind_eq_ok_iff (outcome : Except Fault Value) (next : Value → Except Fault Next)
    (result : Next) :
    outcome >>= next = .ok result ↔ ∃ value, outcome = .ok value ∧ next value = .ok result := by
  cases outcome with
  | error fault => simp [bind, Except.bind]
  | ok value => simp [bind, Except.bind]

/-- A function of the value changes no fault. -/
@[simp] theorem fine_map_iff (outcome : Except Fault Value) (next : Value → Next) :
    Fine (next <$> outcome) ↔ Fine outcome := by
  cases outcome <;> simp [Functor.map, Except.map]

/-- Dropping the value changes no fault. -/
@[simp] theorem fine_discard_iff (outcome : Except Fault Value) :
    Fine (discard outcome) ↔ Fine outcome := fine_map_iff outcome _

/-- What a parser returned. -/
def parsed : Option Value → Except Fault Value
  | some value => .ok value
  | none => .error .json

/-- What was parsed is returned. -/
@[simp] theorem parsed_eq_ok_iff (value : Option Value) (result : Value) :
    parsed value = .ok result ↔ value = some result := by
  cases value <;> simp [parsed]

end

/-- A string function is given a pointer. -/
def deref : Option (List UInt8) → Except Fault (List UInt8)
  | some text => .ok text
  | none => .error .nullPointer

/-- `strcmp(pointer, literal) == 0`. -/
def strcmp (pointer : Option (List UInt8)) (literal : String) : Except Fault Bool := do
  let text ← deref pointer
  return text = Json.cString literal

/-- `if (strcmp(pointer, literal) == 0)`, with what is done then and the value otherwise. -/
def ifEqual {Value : Type} (pointer : Option (List UInt8)) (literal : String)
    (next : Except Fault Value) (otherwise : Value) : Except Fault Value := do
  if ← strcmp pointer literal then next else return otherwise

/-- A pointer that is not NULL is read. -/
@[simp] theorem deref_eq_ok_iff (pointer : Option (List UInt8)) (text : List UInt8) :
    deref pointer = .ok text ↔ pointer = some text := by
  cases pointer <;> simp [deref]

/-- A text that is there is compared. -/
@[simp] theorem strcmp_eq_ok_iff (pointer : Option (List UInt8)) (literal : String) (same : Bool) :
    strcmp pointer literal = .ok same ↔
      ∃ text, pointer = some text ∧ (text = Json.cString literal : Bool) = same := by
  cases pointer with
  | none => simp [strcmp, deref, bind, Except.bind]
  | some text => simp [strcmp, deref, bind, Except.bind, pure, Except.pure]

/-- `strcmp` is fine exactly when the pointer is not NULL. -/
theorem fine_strcmp_iff (pointer : Option (List UInt8)) (literal : String) :
    Fine (strcmp pointer literal) ↔ pointer.isSome := by
  cases pointer <;> simp [strcmp, deref]

/-- A comparison is fine when the pointer is not NULL and the branch it takes is. -/
theorem fine_ifEqual_iff {Value : Type} (pointer : Option (List UInt8)) (literal : String)
    (next : Except Fault Value) (otherwise : Value) :
    Fine (ifEqual pointer literal next otherwise) ↔
      pointer.isSome ∧ (pointer = some (Json.cString literal) → Fine next) := by
  cases pointer with
  | none => simp [ifEqual]
  | some text => by_cases same : text = Json.cString literal <;> simp [ifEqual, same]

/-- The branch is taken for the text itself. -/
theorem ifEqual_self {Value : Type} (literal : String) (next : Except Fault Value)
    (otherwise : Value) :
    ifEqual (some (Json.cString literal)) literal next otherwise = next := by
  simp [ifEqual, strcmp, deref, bind, Except.bind, pure, Except.pure]

/-- Reading a pointer is fine exactly when it is not NULL. -/
theorem fine_deref_iff (pointer : Option (List UInt8)) : Fine (deref pointer) ↔ pointer.isSome := by
  cases pointer <;> simp [deref]

/-- `REQ_SUCCEED`. -/
def reqSucceed : Int := 0

/-- `REQ_FAILED`. -/
def reqFailed : Int := -4

section

variable (reals : Json.Reals) (order : HostOrder) (root : Json)

/-- What `SerialStart` and `SerialStop` make of the answer to their subcommand. -/
def serialAnswer (subcmd : String) : Except Fault Int := do
  let value ← parsed (parseTTransmissionResponse reals root .zero)
  let ok ← ifEqual value.subcmd subcmd (strcmp value.response "ok") false
  return if ok then reqSucceed else reqFailed

/-- `SerialStart`, behind the answer. -/
def serialStart : Except Fault Int := serialAnswer reals root "init"

/-- `SerialStop`, behind the answer. -/
def serialStop : Except Fault Int := serialAnswer reals root "uninit"

/-- `SerialPushHandle::HandleMessageData` behind its command test: the port and the text that is
decoded for the callback. -/
def serialPush : Except Fault (Option (UInt32 × List UInt8)) := do
  let value ← parsed (parseTTransmissionResponse reals root .zero)
  ifEqual value.subcmd "send" (do return some (value.comm, ← deref value.data)) none

/-- `SetOfflineCheck`, behind the answer. -/
def setOfflineCheck : Except Fault Int := do
  let offline ← parsed (parseOfflineResponse root .zero)
  return if ← strcmp offline.response "ok" then reqSucceed else reqFailed

/-- What `ImportWlistVehicle` and `DeleteWlistVehicle` make of the answer. -/
def wlistAnswer (operatorType : String) : Except Fault Int := do
  let value ← parsed (parseWhiteListOperatorResponse root .zero)
  let ok ← ifEqual value.operatorType operatorType (strcmp value.state "succeed") false
  return if ok then reqSucceed else reqFailed

/-- `ImportWlistVehicle`, behind the answer. -/
def importWlistVehicle : Except Fault Int := wlistAnswer root "update_or_add"

/-- `DeleteWlistVehicle`, behind the answer. -/
def deleteWlistVehicle : Except Fault Int := wlistAnswer root "delete"

/-- One turn of the loop of `QueryWlistVehicle`: the vehicle given to the callback. -/
def queryRecord (index : Nat) : Except Fault Memory := do
  let records ← parsed (root.member "dldb_rec")
  let item ← parsed (records.element index)
  match parseWhiteListRecordResponse reals order item .zero with
  | (wlist, true) => return wlist
  | (_, false) => .error .json

/-- The vehicles of the records at the indices, one after the other. -/
def queryRecords : List Nat → Except Fault (List Memory)
  | [] => return []
  | index :: indices => do
      let wlist ← queryRecord reals order root index
      return wlist :: (← queryRecords indices)

/-- `int nSize = record_count`, as far as the loop counts. -/
def nSize (recordCount : UInt32) : Nat := recordCount.toInt32.toInt.toNat

/-- `QueryWlistVehicle`, with the vehicles given to the callback if there is one. -/
def queryWlistVehicle (callback : Bool) : Except Fault (Int × List Memory) := do
  let value ← parsed (parseWhiteListOperatorResponse root .zero)
  let indices := if callback then List.range (nSize value.recordCount) else []
  ifEqual value.operatorType "select"
    (do return (reqSucceed, ← queryRecords reals order root indices)) (reqFailed, [])

end

/-- Who reads a response. -/
inductive Reader where
  | serialStart
  | serialStop
  | serialPush
  | setOfflineCheck
  | importWlistVehicle
  | deleteWlistVehicle
  | queryWlistVehicle (callback : Bool)
  /-- `GetImage`, with what stands in its `RECORD_RESPONSE` before. -/
  | getImage (value : RecordResponse)
  /-- `GetRecord` and `IvsPushHandle`, with what stands in their variables before. -/
  | plate (output : PlateOutput)

/-- The reader parses the response and does with the result what it does. -/
def Reader.read (reals : Json.Reals) (order : HostOrder) (root : Json) : Reader → Except Fault Unit
  | .serialStart => discard (Sdk.serialStart reals root)
  | .serialStop => discard (Sdk.serialStop reals root)
  | .serialPush => discard (Sdk.serialPush reals root)
  | .setOfflineCheck => discard (Sdk.setOfflineCheck root)
  | .importWlistVehicle => discard (Sdk.importWlistVehicle root)
  | .deleteWlistVehicle => discard (Sdk.deleteWlistVehicle root)
  | .queryWlistVehicle callback => discard (Sdk.queryWlistVehicle reals order root callback)
  | .getImage value => discard (parsed (parseRecordResponse reals root value))
  | .plate output =>
      if (parsePlateResultResponse reals order root output).2 then .ok () else .error .json

/-! ## What each reader needs -/

namespace Json

/-- The value is the text. -/
def isText (json : Json) (literal : String) : Bool := json.asCString = some (cString literal)

/-- The records of a query: the elements counted are null or objects, and an object in place of
the array is empty. -/
def isRecordList : Json → Bool
  | array elements => (elements.take (nSize (array elements).size)).all isKeyed
  | object members => nSize (object members).size = 0
  | _ => true

end Json

/-- The members of a serial response have their types. -/
def TTransmissionShape (reals : Json.Reals) (root : Json) : Prop :=
  (root.get "subcmd").isTextOrNull ∧ (root.get "response").isTextOrNull ∧
    (root.get "datalen").isUIntOrNull reals ∧ (root.get "comm").isUIntOrNull reals ∧
    (root.get "data").isTextOrNull

/-- The members of a whitelist answer that are compared are texts or null. -/
def WlistShape (root : Json) : Prop :=
  (root.get "operator_type").isTextOrNull ∧ (root.get "state").isTextOrNull

/-- What the reader needs of an object. -/
def Reader.Needs (reals : Json.Reals) (root : Json) : Reader → Prop
  | .serialStart =>
      TTransmissionShape reals root ∧ (root.get "subcmd").isString ∧
        ((root.get "subcmd").isText "init" → (root.get "response").isString)
  | .serialStop =>
      TTransmissionShape reals root ∧ (root.get "subcmd").isString ∧
        ((root.get "subcmd").isText "uninit" → (root.get "response").isString)
  | .serialPush =>
      TTransmissionShape reals root ∧ (root.get "subcmd").isString ∧
        ((root.get "subcmd").isText "send" → (root.get "data").isString)
  | .setOfflineCheck => (root.get "subcmd").isTextOrNull ∧ (root.get "response").isString
  | .importWlistVehicle =>
      WlistShape root ∧ (root.get "operator_type").isString ∧
        ((root.get "operator_type").isText "update_or_add" → (root.get "state").isString)
  | .deleteWlistVehicle =>
      WlistShape root ∧ (root.get "operator_type").isString ∧
        ((root.get "operator_type").isText "delete" → (root.get "state").isString)
  | .queryWlistVehicle callback =>
      WlistShape root ∧ (root.get "operator_type").isString ∧
        ((root.get "operator_type").isText "select" → callback →
          (root.get "dldb_rec").isRecordList)
  | .getImage _ => (root.get "id").isUIntOrNull reals ∧ (root.get "size").isUIntOrNull reals
  | .plate _ => PlateShape root

/-! ## What the parsers return for an object -/

section

variable {reals : Json.Reals} {root : Json}

/-- An object has members. -/
theorem Json.isKeyed_of_isObject {root : Json} (object : root.isObject = true) :
    root.isKeyed = true := by
  simp [isKeyed, object]

/-- A null counts as zero, as it does for a member that is left out. -/
theorem Json.getD_asUInt_unlessNull (json : Json) :
    (if json.isNull then none else json.asUInt reals).getD 0 = (json.asUInt reals).getD 0 := by
  cases json <;> simp [isNull, asUInt]

/-- What is read of an answer of the serial port. -/
theorem parseTTransmissionResponse_eq_some_iff (keyed : root.isKeyed = true)
    (value : TTransmissionResponse) :
    parseTTransmissionResponse reals root .zero = some value ↔
      TTransmissionShape reals root ∧
        ⟨(root.get "subcmd").asCString, (root.get "response").asCString,
          ((root.get "datalen").asUInt reals).getD 0, ((root.get "comm").asUInt reals).getD 0,
          (root.get "data").asCString⟩ = value := by
  simp [parseTTransmissionResponse, Json.member_eq_some keyed, Json.unlessNull_asCString,
    Json.unlessNull_asUInt, Option.bind_eq_some_iff, TTransmissionShape,
    TTransmissionResponse.zero, and_assoc, Json.getD_asUInt_unlessNull]

/-- What is read of an answer about the offline check. -/
theorem parseOfflineResponse_eq_some_iff (keyed : root.isKeyed = true) (value : OfflineResponse) :
    parseOfflineResponse root .zero = some value ↔
      ((root.get "subcmd").isTextOrNull ∧ (root.get "response").isTextOrNull) ∧
        ⟨(root.get "subcmd").asCString, (root.get "response").asCString⟩ = value := by
  simp [parseOfflineResponse, Json.member_eq_some keyed, Json.unlessNull_asCString,
    Option.bind_eq_some_iff, OfflineResponse.zero, and_assoc]

/-- What is read of an answer about the whitelist. -/
theorem parseWhiteListOperatorResponse_eq_some_iff (keyed : root.isKeyed = true)
    (value : WhiteListOperatorResponse) :
    parseWhiteListOperatorResponse root .zero = some value ↔
      WlistShape root ∧
        ⟨(root.get "operator_type").asCString, (root.get "state").asCString,
          (root.get "dldb_rec").size⟩ = value := by
  have size : ((root.get "dldb_rec").unlessNull fun records => some records.size).map
      (·.getD 0) = some (root.get "dldb_rec").size := by
    cases root.get "dldb_rec" <;> simp [Json.unlessNull, Json.isNull, Json.size]
  obtain ⟨count, read, counted⟩ := Option.map_eq_some_iff.mp size
  simp [parseWhiteListOperatorResponse, Json.member_eq_some keyed, Json.unlessNull_asCString,
    Option.bind_eq_some_iff, WhiteListOperatorResponse.zero, WlistShape, and_assoc, read,
    counted]

/-- When a record's numbers can be read. -/
theorem fine_parseRecordResponse_iff (keyed : root.isKeyed = true) (value : RecordResponse) :
    Fine (parsed (parseRecordResponse reals root value)) ↔
      (root.get "id").isUIntOrNull reals ∧ (root.get "size").isUIntOrNull reals := by
  simp [Fine, parseRecordResponse, Json.member_eq_some keyed, Json.unlessNull_asUInt,
    Option.bind_eq_some_iff, and_assoc]

/-- A value is read as the literal exactly when it is that text. -/
theorem asCString_eq_some_iff (json : Json) (literal : String) :
    json.asCString = some (Json.cString literal) ↔ json.isText literal := by
  simp [Json.isText]

/-! ## What the readers do with it -/

/-- When an answer of the serial port is read without a fault. -/
theorem fine_serialAnswer_iff (keyed : root.isKeyed = true) (subcmd : String) :
    Fine (serialAnswer reals root subcmd) ↔
      TTransmissionShape reals root ∧ (root.get "subcmd").isString ∧
        ((root.get "subcmd").isText subcmd → (root.get "response").isString) := by
  simp [serialAnswer, parseTTransmissionResponse_eq_some_iff keyed, fine_ifEqual_iff,
    fine_strcmp_iff, asCString_eq_some_iff, Json.isSome_asCString, and_assoc]

/-- When an answer about the whitelist is read without a fault. -/
theorem fine_wlistAnswer_iff (keyed : root.isKeyed = true) (operatorType : String) :
    Fine (wlistAnswer root operatorType) ↔
      WlistShape root ∧ (root.get "operator_type").isString ∧
        ((root.get "operator_type").isText operatorType → (root.get "state").isString) := by
  simp [wlistAnswer, parseWhiteListOperatorResponse_eq_some_iff keyed, fine_ifEqual_iff,
    fine_strcmp_iff, asCString_eq_some_iff, Json.isSome_asCString, and_assoc]

/-- When a push of the serial port is read without a fault. -/
theorem fine_serialPush_iff (keyed : root.isKeyed = true) :
    Fine (serialPush reals root) ↔
      TTransmissionShape reals root ∧ (root.get "subcmd").isString ∧
        ((root.get "subcmd").isText "send" → (root.get "data").isString) := by
  simp [serialPush, parseTTransmissionResponse_eq_some_iff keyed, fine_ifEqual_iff,
    fine_deref_iff, asCString_eq_some_iff, Json.isSome_asCString, and_assoc]

/-- When an answer about the offline check is read without a fault. -/
theorem fine_setOfflineCheck_iff (keyed : root.isKeyed = true) :
    Fine (setOfflineCheck root) ↔
      (root.get "subcmd").isTextOrNull ∧ (root.get "response").isString := by
  have text : (root.get "response").isString = true →
      (root.get "response").isTextOrNull = true := by
    intro string
    simp [Json.isTextOrNull, string]
  simp [setOfflineCheck, parseOfflineResponse_eq_some_iff keyed, fine_strcmp_iff,
    Json.isSome_asCString, and_assoc]
  exact fun _ => text

/-- When one record of a query is read without a fault. -/
theorem fine_queryRecord_iff (keyed : root.isKeyed = true) (order : HostOrder) (index : Nat) :
    Fine (queryRecord reals order root index) ↔
      ∃ item, (root.get "dldb_rec").element index = some item ∧ item.isKeyed := by
  have turn (item : Json) :
      Fine (match parseWhiteListRecordResponse reals order item .zero with
        | (wlist, true) => pure wlist
        | (_, false) => .error .json) ↔ item.isKeyed := by
    rw [← parseWhiteListRecordResponse_returns_iff reals order item .zero]
    split <;> simp [*]
  simp [queryRecord, Json.member_eq_some keyed, turn]

/-- When all records of a query are read without a fault. -/
theorem fine_queryRecords_iff (order : HostOrder) (indices : List Nat) :
    Fine (queryRecords reals order root indices) ↔
      ∀ index ∈ indices, Fine (queryRecord reals order root index) := by
  induction indices with
  | nil => simp [queryRecords]
  | cons index indices ih =>
      rw [queryRecords, fine_bind_iff, List.forall_mem_cons, ← ih]
      simp only [fine_bind_iff, fine_pure, and_true]
      constructor
      · rintro ⟨wlist, first, rest⟩
        exact ⟨⟨wlist, first⟩, rest⟩
      · rintro ⟨⟨wlist, first⟩, rest⟩
        exact ⟨wlist, first, rest⟩

/-- The loop reads every record it counts. -/
theorem isRecordList_iff (records : Json) :
    (∀ index, index < nSize records.size →
      ∃ item, records.element index = some item ∧ item.isKeyed) ↔ records.isRecordList := by
  cases records with
  | array elements =>
      simp only [Json.element, Json.isRecordList, List.all_eq_true, Option.some.injEq,
        exists_eq_left']
      constructor
      · intro read item member
        obtain ⟨index, below, rfl⟩ := List.mem_iff_getElem.mp member
        simp only [List.length_take] at below
        have keyed := read index (by omega)
        rwa [List.getElem?_eq_getElem (by omega), Option.getD_some, ← List.getElem_take] at keyed
      · intro all index below
        cases found : elements[index]? with
        | none => rfl
        | some item =>
            refine all item (List.mem_of_getElem? (i := index) ?_)
            rw [List.getElem?_take, if_pos below, found]
  | object members =>
      simp only [Json.element, Json.isRecordList, reduceCtorEq, false_and, exists_false,
        decide_eq_true_eq]
      constructor
      · intro none
        exact Decidable.byContradiction fun some => none 0 (by omega)
      · intro none index below
        omega
  | null | int | uint | real | string | boolean =>
      simp [Json.size, Json.isRecordList, nSize]

/-- When an answer to a query is read without a fault. -/
theorem fine_queryWlistVehicle_iff (keyed : root.isKeyed = true) (order : HostOrder)
    (callback : Bool) :
    Fine (queryWlistVehicle reals order root callback) ↔
      WlistShape root ∧ (root.get "operator_type").isString ∧
        ((root.get "operator_type").isText "select" → callback →
          (root.get "dldb_rec").isRecordList) := by
  rw [← isRecordList_iff]
  simp [queryWlistVehicle, parseWhiteListOperatorResponse_eq_some_iff keyed, fine_ifEqual_iff,
    fine_queryRecords_iff, fine_queryRecord_iff keyed, asCString_eq_some_iff,
    Json.isSome_asCString, and_assoc]
  intro _ _
  constructor
  · intro read select called index below
    exact read select index called below
  · intro read select index called below
    exact read select called index below

end

/-- Every reader reads an object without a fault exactly when the object has what it needs. -/
theorem reads_without_fault_iff (reals : Json.Reals) (order : HostOrder) (reader : Reader)
    (root : Json) (object : root.isObject = true) :
    Fine (reader.read reals order root) ↔ reader.Needs reals root := by
  have keyed := Json.isKeyed_of_isObject object
  cases reader with
  | serialStart => exact (fine_discard_iff _).trans (fine_serialAnswer_iff keyed _)
  | serialStop => exact (fine_discard_iff _).trans (fine_serialAnswer_iff keyed _)
  | serialPush => exact (fine_discard_iff _).trans (fine_serialPush_iff keyed)
  | setOfflineCheck => exact (fine_discard_iff _).trans (fine_setOfflineCheck_iff keyed)
  | importWlistVehicle => exact (fine_discard_iff _).trans (fine_wlistAnswer_iff keyed _)
  | deleteWlistVehicle => exact (fine_discard_iff _).trans (fine_wlistAnswer_iff keyed _)
  | queryWlistVehicle callback =>
      exact (fine_discard_iff _).trans (fine_queryWlistVehicle_iff keyed order callback)
  | getImage value => exact (fine_discard_iff _).trans (fine_parseRecordResponse_iff keyed value)
  | plate output =>
      rw [Reader.Needs, ← parsePlateResultResponse_returns_iff reals order root output,
        Reader.read]
      split <;> simp [*]

/-- `SerialStart` is answered with its subcommand and "ok". -/
theorem reads_without_fault_started :
    Fine (Reader.serialStart.read ⟨fun _ => none, fun _ => none⟩ .littleEndian
      (.object [("subcmd", .string "init"), ("response", .string "ok")])) :=
  (reads_without_fault_iff _ _ .serialStart _ rfl).mpr
    ⟨⟨rfl, rfl, rfl, rfl, rfl⟩, rfl, fun _ => rfl⟩

/-- `SerialStart` is answered with the command only: `subcmd` stays `NULL` and is given to
`strcmp`. -/
theorem missing_subcmd_faults :
    ¬∀ (reader : Reader) (root : Json), root.isObject = true →
      Fine (reader.read ⟨fun _ => none, fun _ => none⟩ .littleEndian root) := by
  intro total
  obtain ⟨value, fine⟩ := total .serialStart (.object [("cmd", .string "ttransmission")]) rfl
  have fault : Reader.serialStart.read ⟨fun _ => none, fun _ => none⟩ .littleEndian
      (.object [("cmd", .string "ttransmission")]) = .error .nullPointer := rfl
  rw [fault] at fine
  cases fine

end VzSdk.Sdk
