import VzSdk.Base.ByteOrder
import VzSdk.Std.Memory
import VzSdk.Sdk.Json

/-!
# Parsing of answers and pushes

The `Parse...Response` functions of `commandanalysis`. The small ones fill a
record; nothing is returned on a Json failure. The two that fill a structure the
application sees, a plate or a vehicle of the white list, are lists of
assignments to its memory, made in order until one fails; a string or a time
that is longer than its member is written over the members behind it.
-/

namespace VzSdk.Sdk

open VzSdk.Base VzSdk.Std

namespace Json

/-- `json[key₁][key₂]…`. -/
def path (json : Json) : List String → Option Json
  | [] => some json
  | key :: keys => (json.member key).bind fun value => value.path keys

/-- `if (!json.isNull()) field = read(json)`: what is assigned, if anything is. -/
def unlessNull {Value : Type} (read : Json → Option Value) (json : Json) :
    Option (Option Value) :=
  if json.isNull then some none else (read json).map some

end Json

/-- `TTRANSMISSION_RESPONSE`; a pointer to a text is the text, or nothing when it is `NULL`. -/
structure TTransmissionResponse where
  subcmd : Option (List UInt8)
  response : Option (List UInt8)
  datalen : UInt32
  comm : UInt32
  data : Option (List UInt8)
deriving DecidableEq, Repr

/-- `OfflineResponse`, as `ParseOfflineResponse` fills it in. -/
structure OfflineResponse where
  subcmd : Option (List UInt8)
  response : Option (List UInt8)
deriving DecidableEq, Repr

/-- `RecordResponse`, as `ParseRecordResponse` fills it in. -/
structure RecordResponse where
  id : UInt32
  size : UInt32
deriving DecidableEq, Repr

/-- `MaxRecResponse`, as `ParseMaxRecResponse` fills it in. -/
structure MaxRecResponse where
  maxId : UInt32
deriving DecidableEq, Repr

/-- `WhiteListOperatorResponse`, as `ParseWhiteListOperatorResponse` fills it in. -/
structure WhiteListOperatorResponse where
  operatorType : Option (List UInt8)
  state : Option (List UInt8)
  recordCount : UInt32
deriving DecidableEq, Repr

/-- `{ 0 }`. -/
def TTransmissionResponse.zero : TTransmissionResponse := ⟨none, none, 0, 0, none⟩

/-- What `memset` leaves. -/
def OfflineResponse.zero : OfflineResponse := ⟨none, none⟩

/-- What `memset` leaves. -/
def WhiteListOperatorResponse.zero : WhiteListOperatorResponse := ⟨none, none, 0⟩

section

variable (reals : Json.Reals) (root : Json)

/-- `ParseTTransmissionResponse`; a null member leaves what was there. -/
def parseTTransmissionResponse (value : TTransmissionResponse) : Option TTransmissionResponse := do
  let subcmd ← (← root.member "subcmd").unlessNull Json.asCString
  let response ← (← root.member "response").unlessNull Json.asCString
  let datalen ← (← root.member "datalen").unlessNull (Json.asUInt reals)
  let comm ← (← root.member "comm").unlessNull (Json.asUInt reals)
  let data ← (← root.member "data").unlessNull Json.asCString
  return ⟨subcmd <|> value.subcmd, response <|> value.response, datalen.getD value.datalen,
    comm.getD value.comm, data <|> value.data⟩

/-- `ParseOfflineResponse`. -/
def parseOfflineResponse (value : OfflineResponse) : Option OfflineResponse := do
  let subcmd ← (← root.member "subcmd").unlessNull Json.asCString
  let response ← (← root.member "response").unlessNull Json.asCString
  return ⟨subcmd <|> value.subcmd, response <|> value.response⟩

/-- `ParseRecordResponse`. -/
def parseRecordResponse (value : RecordResponse) : Option RecordResponse := do
  let id ← (← root.member "id").unlessNull (Json.asUInt reals)
  let size ← (← root.member "size").unlessNull (Json.asUInt reals)
  return ⟨id.getD value.id, size.getD value.size⟩

/-- `ParseMaxRecResponse`. -/
def parseMaxRecResponse (value : MaxRecResponse) : Option MaxRecResponse := do
  let maxId ← (← root.member "max_id").unlessNull (Json.asUInt reals)
  return ⟨maxId.getD value.maxId⟩

/-- `ParseWhiteListOperatorResponse`, up to the records. -/
def parseWhiteListOperatorResponse (value : WhiteListOperatorResponse) :
    Option WhiteListOperatorResponse := do
  let operatorType ← (← root.member "operator_type").unlessNull Json.asCString
  let state ← (← root.member "state").unlessNull Json.asCString
  let recordCount ← (← root.member "dldb_rec").unlessNull fun records => some records.size
  return ⟨operatorType <|> value.operatorType, state <|> value.state,
    recordCount.getD value.recordCount⟩

end

/-! ## Reading a time -/

/-- What a format of `sscanf` asks for. -/
inductive Directive where
  | number
  | literal (byte : UInt8)
  | space

/-- `isspace` in the C locale. -/
def isSpace (byte : UInt8) : Bool := byte = 32 || (9 ≤ byte && byte ≤ 13)

/-- `isdigit`. -/
def isDigit (byte : UInt8) : Bool := 48 ≤ byte && byte ≤ 57

/-- `%d`: the number and the rest of the text. -/
def scanNumber (text : List UInt8) : Option (Int32 × List UInt8) :=
  let text := text.dropWhile isSpace
  let negative := text.head? = some 45
  let text := if negative ∨ text.head? = some 43 then text.tail else text
  let digits := text.takeWhile isDigit
  if digits.isEmpty then none
  else
    let value : Int := digits.foldl (fun value digit => 10 * value + (digit.toNat - 48 : Nat)) 0
    some (.ofInt (if negative then -value else value), text.dropWhile isDigit)

/-- The numbers that `sscanf` converts before the text no longer matches. -/
def sscanf : List Directive → List UInt8 → List Int32
  | [], _ => []
  | .number :: format, text =>
      match scanNumber text with
      | none => []
      | some (value, text) => value :: sscanf format text
  | .literal byte :: format, text =>
      if text.head? = some byte then sscanf format text.tail else []
  | .space :: format, text => sscanf format (text.dropWhile isSpace)

/-- `"%d-%d-%d %d:%d:%d"`. -/
def timeFormat : List Directive :=
  [.number, .literal 45, .number, .literal 45, .number, .space, .number, .literal 58, .number,
    .literal 58, .number]

/-! ## Structures in memory -/

/-- An assignment to members of a structure, which are given by their offsets, from a member of
the response; no such member when reading it is a Json failure. -/
inductive Assignment where
  /-- An `int` or an `unsigned`, from a value for which `isInt` holds. -/
  | int (offset : Nat) (value : Option Json)
  /-- An `unsigned char`, from a value for which `isInt` holds. -/
  | byte (offset : Nat) (value : Option Json)
  /-- A `char` array of `size` bytes, from a string. -/
  | text (offset size : Nat) (value : Option Json)
  /-- The numbers of a time string, each written as an `int` where a member starts, and the
  flag that is set to 1 afterwards. -/
  | time (members : List Nat) (flag : Nat) (value : Option Json)
  /-- A `VzBDTime`, from a time string. -/
  | brokenDownTime (offset : Nat) (value : Option Json)

/-- How a string is copied to an array: memory, offset, size of the array, text. -/
abbrev Copy := Memory → Nat → Nat → List UInt8 → Memory

/-- `strcpy(array, text)`. -/
def copyUnbounded : Copy := fun memory offset _ text => memory.strcpy offset text

/-- `strncpy(array, text, size - 1)`. -/
def copyBounded : Copy := fun memory offset size text => memory.strncpy offset text (size - 1)

namespace Assignment

variable (reals : Json.Reals) (order : HostOrder) (copy : Copy)

/-- The value that is assigned, if it can be read. -/
def value : Assignment → Option Json
  | int _ value => value
  | byte _ value => value
  | text _ _ value => value
  | time _ _ value => value
  | brokenDownTime _ value => value

/-- An `int` member is assigned. -/
def storeInt (memory : Memory) (offset : Nat) (value : Int32) : Memory :=
  memory.write offset (order.store32 value.toUInt32)

/-- A `char` member is assigned: the low byte of the value. -/
def storeByte (memory : Memory) (offset : Nat) (value : Int32) : Memory :=
  memory.write offset [value.toUInt32.toUInt8]

/-- `sscanf` into the members, one after the other. -/
def storeTime (memory : Memory) : List Nat → List Int32 → Memory
  | offset :: members, value :: values =>
      storeTime (storeInt order memory offset value) members values
  | _, _ => memory

/-- The members of a `VzBDTime` are assigned. -/
def storeBrokenDown (memory : Memory) (offset : Nat) (values : List Int32) : Memory :=
  let year := storeInt order memory (offset + 8) (values[0]?.getD 0)
  let mon := storeByte year (offset + 4) (values[1]?.getD 0)
  let mday := storeByte mon (offset + 3) (values[2]?.getD 0)
  let hour := storeByte mday (offset + 2) (values[3]?.getD 0)
  let min := storeByte hour (offset + 1) (values[4]?.getD 0)
  storeByte min offset (values[5]?.getD 0)

/-- The assignment from a value that was read; nothing is written for a value of another type. -/
def store (memory : Memory) (json : Json) : Assignment → Memory
  | int offset _ =>
      match json.int? reals with
      | some number => storeInt order memory offset number
      | none => memory
  | byte offset _ =>
      match json.int? reals with
      | some number => storeByte memory offset number
      | none => memory
  | text offset size _ =>
      match json.asCString with
      | some string => copy memory offset size string
      | none => memory
  | time members flag _ =>
      match json.asCString with
      | some string =>
          storeInt order (storeTime order memory members (sscanf timeFormat string)) flag 1
      | none => memory
  | brokenDownTime offset _ =>
      match json.asCString with
      | some string => storeBrokenDown order memory offset (sscanf timeFormat string)
      | none => memory

/-- The assignments in order, and whether all of them were made. -/
def execute : List Assignment → Memory → Memory × Bool
  | [], memory => (memory, true)
  | assignment :: rest, memory =>
      match assignment.value with
      | none => (memory, false)
      | some json => execute rest (assignment.store reals order copy memory json)

end Assignment

/-! The members of `TH_PlateResult`, by their offsets. -/

namespace PlateResult

/-- `char license[TH_LP_LEN]`. -/
abbrev license : Nat := 0
/-- `char color[8]`. -/
abbrev color : Nat := 16
/-- `int nColor`. -/
abbrev nColor : Nat := 24
/-- `int nType`. -/
abbrev nType : Nat := 28
/-- `int nConfidence`. -/
abbrev nConfidence : Nat := 32
/-- `int nBright`. -/
abbrev nBright : Nat := 36
/-- `int nDirection`. -/
abbrev nDirection : Nat := 40
/-- `TH_RECT rcLocation`. -/
abbrev rcLocation : Nat := 44
/-- `int nTime`. -/
abbrev nTime : Nat := 60
/-- `VZ_TIMEVAL tvPTS`. -/
abbrev tvPTS : Nat := 64
/-- `unsigned uBitsTrigType`. -/
abbrev uBitsTrigType : Nat := 72
/-- `unsigned char nCarBright`. -/
abbrev nCarBright : Nat := 76
/-- `unsigned char nCarColor`. -/
abbrev nCarColor : Nat := 77
/-- `unsigned uId`. -/
abbrev uId : Nat := 80
/-- `VzBDTime struBDTime`. -/
abbrev struBDTime : Nat := 84

/-- `TH_LP_LEN`. -/
abbrev lpLen : Nat := 16
/-- The size of `color`. -/
abbrev colorLen : Nat := 8

end PlateResult

/-! The members of `VZ_LPR_WLIST_VEHICLE`, by their offsets. -/

namespace WlistVehicle

/-- `unsigned uVehicleID`. -/
abbrev uVehicleID : Nat := 0
/-- `char strPlateID[VZ_LPR_WLIST_LP_MAX_LEN]`. -/
abbrev strPlateID : Nat := 4
/-- `unsigned uCustomerID`. -/
abbrev uCustomerID : Nat := 36
/-- `unsigned bEnable`. -/
abbrev bEnable : Nat := 40
/-- `unsigned bEnableTMEnable`. -/
abbrev bEnableTMEnable : Nat := 44
/-- `unsigned bEnableTMOverdule`. -/
abbrev bEnableTMOverdule : Nat := 48
/-- `VZ_TM struTMEnable`. -/
abbrev struTMEnable : Nat := 52
/-- `VZ_TM struTMOverdule`. -/
abbrev struTMOverdule : Nat := 64
/-- `unsigned bUsingTimeSeg`. -/
abbrev bUsingTimeSeg : Nat := 76
/-- `unsigned bAlarm`. -/
abbrev bAlarm : Nat := 80
/-- `char strCode[VZ_LPR_WLIST_VEHICLE_CODE_LEN]`. -/
abbrev strCode : Nat := 92
/-- `char strComment[VZ_LPR_WLIST_VEHICLE_COMMENT_LEN]`. -/
abbrev strComment : Nat := 124

/-- `VZ_LPR_WLIST_LP_MAX_LEN`. -/
abbrev lpMaxLen : Nat := 32
/-- `VZ_LPR_WLIST_VEHICLE_CODE_LEN`. -/
abbrev vehicleCodeLen : Nat := 32
/-- `VZ_LPR_WLIST_VEHICLE_COMMENT_LEN`. -/
abbrev vehicleCommentLen : Nat := 64

/-- The six members of a `VZ_TM`, which are of two bytes each. -/
def tmMembers (offset : Nat) : List Nat :=
  [offset, offset + 2, offset + 4, offset + 6, offset + 8, offset + 10]

end WlistVehicle

section

open WlistVehicle in
/-- The assignments of `ParseWhiteListRecordResponse`. -/
def wlistAssignments (item : Json) : List Assignment :=
  [.int uVehicleID (item.member "index"),
    .text strPlateID lpMaxLen (item.member "plate"),
    .int uCustomerID (item.member "ustomer_id"),
    .int bEnable (item.member "enable"),
    .time (tmMembers struTMEnable) bEnableTMEnable (item.member "enable_time"),
    .time (tmMembers struTMOverdule) bEnableTMOverdule (item.member "overdue_time"),
    .int bUsingTimeSeg (item.member "time_seg_enable"),
    .int bAlarm (item.member "need_alarm"),
    .text strCode vehicleCodeLen (item.member "vehicle_code"),
    .text strComment vehicleCommentLen (item.member "vehicle_comment")]

open PlateResult in
/-- The assignments of `ParsePlateResultResponse` to the structure. -/
def plateAssignments (root : Json) : List Assignment :=
  [.text license lpLen (root.path ["PlateResult", "license"]),
    .text color colorLen (root.path ["PlateResult", "colorValue"]),
    .int nColor (root.path ["PlateResult", "colorType"]),
    .int nType (root.path ["PlateResult", "type"]),
    .int nConfidence (root.path ["PlateResult", "confidence"]),
    .int nBright (root.path ["PlateResult", "bright"]),
    .int nDirection (root.path ["PlateResult", "direction"]),
    .int rcLocation (root.path ["PlateResult", "location", "RECT", "left"]),
    .int (rcLocation + 4) (root.path ["PlateResult", "location", "RECT", "top"]),
    .int (rcLocation + 8) (root.path ["PlateResult", "location", "RECT", "right"]),
    .int (rcLocation + 12) (root.path ["PlateResult", "location", "RECT", "bottom"]),
    .int nTime (root.path ["PlateResult", "timeUsed"]),
    .byte nCarBright (root.path ["PlateResult", "carBright"]),
    .byte nCarColor (root.path ["PlateResult", "carColor"]),
    .int tvPTS (root.path ["PlateResult", "timeStamp", "Timeval", "sec"]),
    .int (tvPTS + 4) (root.path ["PlateResult", "timeStamp", "Timeval", "usec"]),
    .int uBitsTrigType (root.path ["PlateResult", "triggerType"]),
    .int uId (root.path ["id"]),
    .brokenDownTime struBDTime (root.path ["timeString"])]

end

/-- What `ParsePlateResultResponse` fills: the structure and the sizes of the two images. -/
structure PlateOutput where
  result : Memory
  fullImgSize : Int32
  clipImgSize : Int32

section

variable (reals : Json.Reals) (order : HostOrder)

/-- The structure, and whether the function returned without a Json failure. -/
def parseWhiteListRecordResponse (item : Json) (wlist : Memory) : Memory × Bool :=
  Assignment.execute reals order copyBounded (wlistAssignments item) wlist

/-- `ParsePlateResultResponse`, and whether it returned without a Json failure. -/
def parsePlateResultResponse (root : Json) (output : PlateOutput) : PlateOutput × Bool :=
  match Assignment.execute reals order copyUnbounded (plateAssignments root) output.result with
  | (result, false) => ({ output with result := result }, false)
  | (result, true) =>
      -- The members of the root can be read, since "id" and "timeString" were.
      (⟨result, ((root.get "fullImgSize").int? reals).getD output.fullImgSize,
        ((root.get "clipImgSize").int? reals).getD output.clipImgSize⟩, true)

end

/-! ## When parsing succeeds -/

namespace Json

/-- Null or a string. -/
def isTextOrNull (json : Json) : Bool := json.isNull || json.isString

/-- Null or a number that `asUInt` takes. -/
def isUIntOrNull (reals : Reals) (json : Json) : Bool := (json.asUInt reals).isSome

/-- A member that is not null has to be readable. -/
theorem unlessNull_eq {Value : Type} (read : Json → Option Value) (json : Json) :
    json.unlessNull read =
      if json.isNull || (read json).isSome then some (if json.isNull then none else read json)
      else none := by
  cases null : json.isNull <;> cases got : read json <;> simp [unlessNull, null, got]

/-- A text or null is read. -/
theorem unlessNull_asCString (json : Json) :
    json.unlessNull asCString = if json.isTextOrNull then some json.asCString else none := by
  rw [unlessNull_eq, isSome_asCString, isTextOrNull]
  cases json <;> simp [isNull, isString, asCString]

/-- An unsigned number or null is read. -/
theorem unlessNull_asUInt (reals : Reals) (json : Json) :
    json.unlessNull (asUInt reals) =
      if json.isUIntOrNull reals then some (if json.isNull then none else json.asUInt reals)
      else none := by
  have null : (json.isNull || (json.asUInt reals).isSome) = json.isUIntOrNull reals := by
    cases json <;> simp [isNull, asUInt, isUIntOrNull]
  rw [unlessNull_eq, null]

/-- The value itself can always be read. -/
theorem isSome_path_nil (json : Json) : (json.path []).isSome = true := by
  rw [path, Option.isSome_some]

/-- A path can be read when every value on it has members. -/
theorem isSome_path_cons (json : Json) (key : String) (keys : List String) :
    (json.path (key :: keys)).isSome = (json.isKeyed && ((json.get key).path keys).isSome) := by
  cases keyed : json.isKeyed with
  | false => simp [path, (member_eq_none_iff json key).mpr keyed]
  | true => simp [path, member_eq_some keyed]

end Json

/-- All assignments are carried out exactly when all their values can be read. -/
theorem Assignment.execute_snd (reals : Json.Reals) (order : HostOrder) (copy : Copy)
    (assignments : List Assignment) (memory : Memory) :
    (execute reals order copy assignments memory).2 =
      assignments.all fun assignment => assignment.value.isSome := by
  induction assignments generalizing memory with
  | nil => rfl
  | cons assignment rest ih =>
      cases read : assignment.value with
      | none => simp [execute, read]
      | some json => simp [execute, read, ih]

/-- The values on the way to the members of a plate have members, as far as they are there. -/
structure PlateShape (root : Json) : Prop where
  own : root.isKeyed
  plate : (root.get "PlateResult").isKeyed
  location : ((root.get "PlateResult").get "location").isKeyed
  rect : (((root.get "PlateResult").get "location").get "RECT").isKeyed
  timeStamp : ((root.get "PlateResult").get "timeStamp").isKeyed
  timeval : (((root.get "PlateResult").get "timeStamp").get "Timeval").isKeyed

section

variable (reals : Json.Reals) (order : HostOrder)

/-- `ParsePlateResultResponse` returns exactly for the plates whose nested values can be read. -/
theorem parsePlateResultResponse_returns_iff (root : Json) (output : PlateOutput) :
    (parsePlateResultResponse reals order root output).2 = true ↔ PlateShape root := by
  have returned : (parsePlateResultResponse reals order root output).2 =
      (plateAssignments root).all fun assignment => assignment.value.isSome := by
    rw [← Assignment.execute_snd reals order copyUnbounded _ output.result,
      parsePlateResultResponse]
    split <;> simp [*]
  rw [returned]
  simp only [plateAssignments, List.all_cons, List.all_nil, Assignment.value,
    Json.isSome_path_cons, Json.isSome_path_nil, Bool.and_true, Bool.and_eq_true]
  constructor
  · intro read
    exact ⟨by simp [read], by simp [read], by simp [read], by simp [read], by simp [read],
      by simp [read]⟩
  · intro shape
    simp [shape.own, shape.plate, shape.location, shape.rect, shape.timeStamp, shape.timeval]

/-- `ParseWhiteListRecordResponse` returns exactly for values with members. -/
theorem parseWhiteListRecordResponse_returns_iff (item : Json) (wlist : Memory) :
    (parseWhiteListRecordResponse reals order item wlist).2 = true ↔ item.isKeyed := by
  rw [parseWhiteListRecordResponse, Assignment.execute_snd]
  cases keyed : item.isKeyed with
  | false => simp [wlistAssignments, Assignment.value, (Json.member_eq_none_iff item _).mpr keyed]
  | true => simp [wlistAssignments, Assignment.value, Json.member_eq_some keyed]

end

end VzSdk.Sdk
