import Mathlib.Data.List.DropRight
import VzSdk.Std.Decimal
import VzSdk.Sdk.Copies

/-!
# Vehicles of the white list, sent and read back

`ImportWlistVehicle` sends a vehicle as a record, and `QueryWlistVehicle` reads
such records back. The times go through `sprintf` and `sscanf`, which stores an
`int` where each `short` of a `VZ_TM` starts: the next store takes back what the
one before wrote too much. `wlist_roundTrip_iff` says which vehicles come back as
they were sent.
-/

namespace VzSdk.Sdk

open VzSdk.Base VzSdk.Std

/-- `VZ_TM`: a time in parts. -/
structure VzTm where
  nYear : Int16
  nMonth : Int16
  nMDay : Int16
  nHour : Int16
  nMin : Int16
  nSec : Int16
deriving DecidableEq, Repr

section

variable (order : HostOrder) (memory : Memory) (offset : Nat)

/-- The `unsigned int` at an offset. -/
def loadUnsigned : UInt32 := order.load32 (memory.bytes offset 4)

/-- The `short` at an offset. -/
def loadShort : Int16 := (order.load16 (memory.bytes offset 2)).toInt16

/-- The time at an offset. -/
def loadTm : VzTm where
  nYear := loadShort order memory offset
  nMonth := loadShort order memory (offset + 2)
  nMDay := loadShort order memory (offset + 4)
  nHour := loadShort order memory (offset + 6)
  nMin := loadShort order memory (offset + 8)
  nSec := loadShort order memory (offset + 10)

end

/-! ## The request -/

/-- `%0*d`, and `%d` for a width of 0. -/
def printNumber (width : Nat) (number : Int) : List UInt8 :=
  let sign := if number < 0 then [45] else []
  let digits := Decimal.text number.natAbs
  sign ++ List.replicate (width - (sign.length + digits.length)) 48 ++ digits

/-- `"%d-%02d-%02d %02d:%02d:%02d"`. -/
def printTime (tm : VzTm) : List UInt8 :=
  printNumber 0 tm.nYear.toInt ++ 45 :: (printNumber 2 tm.nMonth.toInt ++ 45 ::
    (printNumber 2 tm.nMDay.toInt ++ 32 :: (printNumber 2 tm.nHour.toInt ++ 58 ::
      (printNumber 2 tm.nMin.toInt ++ 58 :: printNumber 2 tm.nSec.toInt))))

/-- A JSON string of a C string. -/
def Json.ofCString (text : List UInt8) : Json :=
  .string (String.ofList (text.map fun byte => Char.ofNat byte.toNat))

open WlistVehicle in
/-- `record` in `GeneratImportWlistVehicleCmd`; nothing when a string goes on behind its array. -/
def wlistRecord (order : HostOrder) (item : Memory) : Option Json := do
  let plate ← item.text? strPlateID lpMaxLen
  let code ← item.text? strCode vehicleCodeLen
  let comment ← item.text? strComment vehicleCommentLen
  return .object
    [("index", .uint (loadUnsigned order item uVehicleID).toNat),
      ("plate", .ofCString plate),
      ("customer_id", .uint (loadUnsigned order item uCustomerID).toNat),
      ("enable", .uint (loadUnsigned order item bEnable).toNat),
      ("enable_time", .ofCString (printTime (loadTm order item struTMEnable))),
      ("overdue_time", .ofCString (printTime (loadTm order item struTMOverdule))),
      ("time_seg_enable", .uint (loadUnsigned order item bUsingTimeSeg).toNat),
      ("need_alarm", .uint (loadUnsigned order item bAlarm).toNat),
      ("vehicle_code", .ofCString code),
      ("vehicle_comment", .ofCString comment)]

/-- The request that adds a vehicle to the list. -/
def generatImportWlistVehicleCmd (order : HostOrder) (item : Memory) : Option Json :=
  (wlistRecord order item).map fun record => .object
    [("cmd", .string "white_list_operator"), ("operator_type", .string "update_or_add"),
      ("dldb_rec", record)]

/-- The strings of the vehicle are terminated inside their arrays. -/
def StringsTerminated (vehicle : Memory) : Prop :=
  (vehicle.text? WlistVehicle.strPlateID WlistVehicle.lpMaxLen).isSome ∧
    (vehicle.text? WlistVehicle.strCode WlistVehicle.vehicleCodeLen).isSome ∧
    (vehicle.text? WlistVehicle.strComment WlistVehicle.vehicleCommentLen).isSome

open WlistVehicle in
/-- The members that are sent are the same in both vehicles. -/
structure SameVehicle (order : HostOrder) (vehicle other : Memory) : Prop where
  vehicleID : loadUnsigned order vehicle uVehicleID = loadUnsigned order other uVehicleID
  plateID : vehicle.text? strPlateID lpMaxLen = other.text? strPlateID lpMaxLen
  customerID : loadUnsigned order vehicle uCustomerID = loadUnsigned order other uCustomerID
  enable : loadUnsigned order vehicle bEnable = loadUnsigned order other bEnable
  tmEnable : loadTm order vehicle struTMEnable = loadTm order other struTMEnable
  tmOverdule : loadTm order vehicle struTMOverdule = loadTm order other struTMOverdule
  usingTimeSeg : loadUnsigned order vehicle bUsingTimeSeg = loadUnsigned order other bUsingTimeSeg
  alarm : loadUnsigned order vehicle bAlarm = loadUnsigned order other bAlarm
  code : vehicle.text? strCode vehicleCodeLen = other.text? strCode vehicleCodeLen
  comment : vehicle.text? strComment vehicleCommentLen = other.text? strComment vehicleCommentLen

/-- The record of the request for the vehicle is parsed into a zeroed structure as the vehicle. -/
def RoundTrips (reals : Json.Reals) (order : HostOrder) (vehicle : Memory) : Prop :=
  ∃ request record, generatImportWlistVehicleCmd order vehicle = some request ∧
    request.member "dldb_rec" = some record ∧
    SameVehicle order (parseWhiteListRecordResponse reals order record .zero).1 vehicle

/-! ## Printing and scanning a number -/

/-- A digit is no space. -/
theorem isSpace_of_isDigit {byte : UInt8} (digit : Decimal.isDigit byte = true) :
    isSpace byte = false := by
  have range := Decimal.isDigit_iff.mp digit
  simp only [isSpace, Bool.or_eq_false_iff, Bool.and_eq_false_iff, decide_eq_false_iff_not,
    ← UInt8.toNat_inj, UInt8.le_iff_toNat_le]
  change ¬byte.toNat = 32 ∧ (¬9 ≤ byte.toNat ∨ ¬byte.toNat ≤ 13)
  omega

/-- Digits are read as the number they stand for. -/
theorem foldl_digits (digits : List UInt8) :
    digits.foldl (fun value digit => 10 * value + ((digit.toNat - 48 : Nat) : Int)) 0 =
      (Decimal.value digits : Int) := by
  have general (start : Nat) :
      digits.foldl (fun value digit => 10 * value + ((digit.toNat - 48 : Nat) : Int)) (start : Int) =
        ((digits.foldl (fun value digit => 10 * value + (digit.toNat - 48)) start : Nat) : Int) := by
    induction digits generalizing start with
    | nil => rfl
    | cons digit digits inductionHypothesis =>
        rw [List.foldl_cons, List.foldl_cons, ← inductionHypothesis]
        simp
  exact general 0

/-- `%d` reads a sign and digits, up to the width of an `int`. -/
theorem scanNumber_digits (negative : Bool) {digits rest : List UInt8} (some : digits ≠ [])
    (areDigits : ∀ byte ∈ digits, Decimal.isDigit byte = true)
    (stops : ∀ byte ∈ rest.head?, Decimal.isDigit byte = false) :
    scanNumber ((if negative then [45] else []) ++ (digits ++ rest)) =
      .some (.ofInt (if negative then -(Decimal.value digits : Int) else Decimal.value digits),
        rest) := by
  have taken : (digits ++ rest).takeWhile isDigit = digits :=
    Decimal.takeWhile_digits areDigits stops
  have dropped : (digits ++ rest).dropWhile isDigit = rest :=
    Decimal.dropWhile_digits areDigits stops
  have filled : digits.isEmpty = false := by simpa using some
  cases negative with
  | true =>
      have noSpace : isSpace 45 = false := rfl
      simp only [scanNumber, if_true, List.cons_append, List.nil_append, List.dropWhile_cons, noSpace,
        Bool.false_eq_true, if_false, List.head?_cons, true_or, List.tail_cons, taken,
        dropped, filled, foldl_digits]
  | false =>
      obtain ⟨first, others, rfl⟩ := List.exists_cons_of_ne_nil some
      have firstDigit := areDigits first (by simp)
      have noSign : first ≠ 45 ∧ first ≠ 43 := by
        constructor
        · rintro rfl
          exact absurd firstDigit (by decide)
        · rintro rfl
          exact absurd firstDigit (by decide)
      have unspaced : (first :: others ++ rest).dropWhile isSpace = first :: others ++ rest := by
        simp [isSpace_of_isDigit firstDigit]
      have head : (first :: others ++ rest).head? = .some first := rfl
      simp only [scanNumber, Bool.false_eq_true, if_false, List.nil_append, unspaced, head,
        Option.some.injEq, noSign, or_self, taken, dropped, filled, foldl_digits]

/-- A printed number is read back. -/
theorem scanNumber_printNumber (width : Nat) (number : Int) (rest : List UInt8)
    (stops : ∀ byte ∈ rest.head?, Decimal.isDigit byte = false) :
    scanNumber (printNumber width number ++ rest) = some (.ofInt number, rest) := by
  generalize isZeros : List.replicate (width - ((if number < 0 then [(45 : UInt8)] else []).length +
    (Decimal.text number.natAbs).length)) (48 : UInt8) = zeros
  have areDigits : ∀ byte ∈ zeros ++ Decimal.text number.natAbs, Decimal.isDigit byte = true := by
    intro byte member
    rcases List.mem_append.mp member with zero | digit
    · rw [← isZeros] at zero
      rw [(List.mem_replicate.mp zero).2]
      rfl
    · exact Decimal.isDigit_of_mem_text digit
  have printed : printNumber width number ++ rest =
      (if decide (number < 0) then [45] else []) ++ (zeros ++ Decimal.text number.natAbs ++ rest) := by
    rw [← isZeros, printNumber]
    simp only [List.append_assoc, decide_eq_true_eq]
  have value : Decimal.value (zeros ++ Decimal.text number.natAbs) = number.natAbs := by
    rw [← isZeros, Decimal.value_zeros_append, Decimal.value_text]
  rw [printed, scanNumber_digits _ (by simp [Decimal.text_ne_nil]) areDigits stops, value]
  congr 3
  by_cases negative : number < 0
  · simp only [negative, decide_true, if_true]
    omega
  · simp only [negative, decide_false, Bool.false_eq_true, if_false]
    omega

/-- White space in front of a number does not count. -/
theorem scanNumber_dropWhile (text : List UInt8) :
    scanNumber (text.dropWhile isSpace) = scanNumber text := by
  simp only [scanNumber, List.dropWhile_idempotent]

/-- A printed time is read back. -/
theorem sscanf_printTime (tm : VzTm) :
    sscanf timeFormat (printTime tm) =
      [.ofInt tm.nYear.toInt, .ofInt tm.nMonth.toInt, .ofInt tm.nMDay.toInt, .ofInt tm.nHour.toInt,
        .ofInt tm.nMin.toInt, .ofInt tm.nSec.toInt] := by
  have last := scanNumber_printNumber 2 tm.nSec.toInt [] (by simp)
  rw [List.append_nil] at last
  have isBlank : isSpace 32 = true := rfl
  simp only [timeFormat, printTime, sscanf]
  rw [scanNumber_printNumber 0 _ _ (by simp; rfl)]
  simp only [List.head?_cons, if_true, List.tail_cons]
  rw [scanNumber_printNumber 2 _ _ (by simp; rfl)]
  simp only [List.head?_cons, if_true, List.tail_cons]
  rw [scanNumber_printNumber 2 _ _ (by simp; rfl)]
  simp only [List.dropWhile_cons, isBlank, if_true, scanNumber_dropWhile]
  rw [scanNumber_printNumber 2 _ _ (by simp; rfl)]
  simp only [List.head?_cons, if_true, List.tail_cons]
  rw [scanNumber_printNumber 2 _ _ (by simp; rfl)]
  simp only [List.head?_cons, if_true, List.tail_cons, last]

/-! ## Texts -/

/-- A printed number holds no NUL. -/
theorem zero_not_mem_printNumber (width : Nat) (number : Int) :
    ∀ byte ∈ printNumber width number, byte ≠ 0 := by
  rintro byte member rfl
  simp only [printNumber, List.mem_append, List.mem_replicate] at member
  rcases member with (sign | zero) | digit
  · split at sign <;> simp at sign
  · exact absurd zero.2 (by decide)
  · exact absurd (Decimal.isDigit_of_mem_text digit) (by decide)

/-- A printed time holds no NUL. -/
theorem zero_not_mem_printTime (tm : VzTm) : ∀ byte ∈ printTime tm, byte ≠ 0 := by
  intro byte member
  simp only [printTime, List.mem_append, List.mem_cons] at member
  rcases member with year | rfl | month | rfl | day | rfl | hour | rfl | minute | rfl | second
  · exact zero_not_mem_printNumber _ _ byte year
  · decide
  · exact zero_not_mem_printNumber _ _ byte month
  · decide
  · exact zero_not_mem_printNumber _ _ byte day
  · decide
  · exact zero_not_mem_printNumber _ _ byte hour
  · decide
  · exact zero_not_mem_printNumber _ _ byte minute
  · decide
  · exact zero_not_mem_printNumber _ _ byte second

/-- A text without NULs comes back from its value. -/
theorem Json.asCString_ofCString {text : List UInt8} (noNul : ∀ byte ∈ text, byte ≠ 0) :
    (Json.ofCString text).asCString = some text := by
  have back : (text.map fun byte => Char.ofNat byte.toNat).map
      (fun character => UInt8.ofNat character.toNat) = text := by
    rw [List.map_map]
    conv_rhs => rw [← List.map_id text]
    refine List.map_congr_left fun byte _ => ?_
    have small : byte.toNat < 256 := byte.toNat_lt
    have valid : byte.toNat.isValidChar := Or.inl (by omega)
    rw [Function.comp_apply, Char.ofNat, dif_pos valid]
    exact UInt8.ofNat_toNat
  simp only [Json.ofCString, Json.asCString, Json.cString, String.toList_ofList, back,
    Option.some.injEq]
  exact List.takeWhile_eq_self_iff.mpr fun byte member => by simpa using noNul byte member

/-! ## What is stored -/

section

variable {reals : Json.Reals}

open Assignment

/-- The bytes that one assignment writes and no later one reaches. -/
theorem execute_at {order : HostOrder} {before after : List Assignment} {assignment : Assignment}
    {json : Json} {offset size : Nat} (read : ∀ assignment ∈ before, assignment.value.isSome)
    (isValue : assignment.value = some json) (apart : after.all (spares offset size) = true)
    (memory : Memory) (index : Nat) (below : index < size) :
    (execute reals order copyBounded (before ++ assignment :: after) memory).1 (offset + index) =
      assignment.store reals order copyBounded
        (execute reals order copyBounded before memory).1 json (offset + index) := by
  rw [execute_append read]
  simp only [execute, isValue]
  refine execute_outside (fun other member => ⟨bounded_copyBounded other, ?_⟩) _
  exact not_reaches_of_spares (List.all_eq_true.mp apart other member) (Nat.le_add_right offset index)
    (Nat.add_lt_add_left below offset)

/-- Bytes of a zeroed structure that no assignment reaches. -/
theorem execute_spared {order : HostOrder} {assignments : List Assignment} {offset size : Nat}
    (spared : assignments.all (spares offset size) = true) (index : Nat) (below : index < size) :
    (execute reals order copyBounded assignments .zero).1 (offset + index) = 0 := by
  refine execute_outside (fun other member => ⟨bounded_copyBounded other, ?_⟩) _
  exact not_reaches_of_spares (List.all_eq_true.mp spared other member)
    (Nat.le_add_right offset index) (Nat.add_lt_add_left below offset)

/-- A number is the same where its bytes are. -/
theorem loadUnsigned_congr {order : HostOrder} {memory other : Memory} {offset : Nat}
    (agree : ∀ index, index < 4 → memory (offset + index) = other (offset + index)) :
    loadUnsigned order memory offset = loadUnsigned order other offset := by
  rw [loadUnsigned, loadUnsigned, Memory.bytes_congr agree]

/-- A stored number is loaded again. -/
theorem loadUnsigned_storeInt (order : HostOrder) (memory : Memory) (offset : Nat) (value : Int32) :
    loadUnsigned order (storeInt order memory offset value) offset = value.toUInt32 := by
  have written := Memory.bytes_write memory offset (order.store32 value.toUInt32)
  rw [HostOrder.length_store32] at written
  rw [loadUnsigned, storeInt, written, HostOrder.load32_store32]

/-- A little-endian integer whose last byte is zero has no sign bit. -/
theorem loadUnsigned_lt {memory : Memory} {offset : Nat} (zero : memory (offset + 3) = 0) :
    (loadUnsigned .littleEndian memory offset).toNat < 2 ^ 31 := by
  have bytes : memory.bytes offset 4 =
      [memory offset, memory (offset + 1), memory (offset + 2), memory (offset + 3)] := by
    simp [Memory.bytes, List.range, List.range.loop]
  have below := Positional.ofBigEndian_lt [memory (offset + 2), memory (offset + 1), memory offset]
  simp only [loadUnsigned, HostOrder.load32, getLE32, Positional.ofLittleEndian, bytes, zero,
    List.take, List.reverse_cons, List.reverse_nil, List.nil_append, List.cons_append,
    Positional.ofBigEndian_cons 0]
  simp only [List.length_cons, List.length_nil] at below
  rw [UInt32.toNat_ofNat', UInt8.toNat_zero]
  omega

/-- An unsigned member comes back exactly when it is an `int` too. -/
theorem loadUnsigned_execute_iff (before after : List Assignment) {offset : Nat} {value : UInt32}
    (read : ∀ assignment ∈ before, assignment.value.isSome)
    (apart : after.all (spares offset 4) = true)
    (clear : before.all (spares (offset + 3) 1) = true) :
    loadUnsigned .littleEndian (execute reals .littleEndian copyBounded
      (before ++ .int offset (some (.uint value.toNat)) :: after) .zero).1 offset = value ↔
        value.toNat < 2 ^ 31 := by
  rw [loadUnsigned_congr (execute_at read rfl apart .zero)]
  by_cases fits : value.toNat < 2 ^ 31
  · simp only [store, Json.int?, fits, if_true, iff_true]
    rw [loadUnsigned_storeInt]
    exact UInt32.toNat_inj.mp (by simp [Int32.ofNat])
  · simp only [store, Json.int?, fits, if_false, iff_false]
    intro back
    have zero : (execute reals .littleEndian copyBounded before .zero).1 (offset + 3) = 0 :=
      execute_spared clear 0 Nat.one_pos
    have below := loadUnsigned_lt zero
    rw [back] at below
    exact fits below

/-- A member whose value is null stays zero. -/
theorem loadUnsigned_execute_null (before after : List Assignment) {order : HostOrder} {offset : Nat}
    (read : ∀ assignment ∈ before, assignment.value.isSome)
    (apart : after.all (spares offset 4) = true) (clear : before.all (spares offset 4) = true) :
    loadUnsigned order (execute reals order copyBounded
      (before ++ .int offset (some .null) :: after) .zero).1 offset =
        loadUnsigned order .zero offset := by
  refine loadUnsigned_congr fun index below => ?_
  rw [execute_at read rfl apart .zero index below]
  simp only [store, Json.int?]
  exact execute_spared clear index below

/-- Where `sscanf` stores `count` numbers from `offset` on, two bytes apart. -/
def ladder (offset : Nat) : Nat → List Nat
  | 0 => []
  | count + 1 => offset :: ladder (offset + 2) count

/-- The ladder of members begins at its offset. -/
theorem le_of_mem_ladder {offset count member : Nat} (isMember : member ∈ ladder offset count) :
    offset ≤ member := by
  induction count generalizing offset with
  | zero => cases isMember
  | succ count inductionHypothesis =>
      rcases List.mem_cons.mp isMember with rfl | later
      · exact Nat.le_refl _
      · exact Nat.le_of_add_right_le (inductionHypothesis later)

/-- Each number keeps its two low bytes: the next store begins behind them. -/
theorem storeTime_ladder (memory : Memory) (offset : Nat) (values : List Int32) {index : Nat}
    (below : index < values.length) {low : Nat} (isLow : low < 2) :
    storeTime .littleEndian memory (ladder offset values.length) values (offset + 2 * index + low) =
      (setLE32 values[index].toUInt32)[low]?.getD 0 := by
  induction values generalizing memory offset index with
  | nil => cases below
  | cons value values inductionHypothesis =>
      rw [List.length_cons, ladder, storeTime]
      cases index with
      | zero =>
          have outside : ¬∃ member ∈ ladder (offset + 2) values.length,
              member ≤ offset + 2 * 0 + low ∧ offset + 2 * 0 + low < member + 4 := by
            rintro ⟨member, isMember, starts, _⟩
            have behind := le_of_mem_ladder isMember
            omega
          have inside : low < (HostOrder.littleEndian.store32 value.toUInt32).length := by
            rw [HostOrder.length_store32]
            omega
          rw [storeTime_outside outside, storeInt, Nat.mul_zero, Nat.add_zero,
            Memory.write_inside memory offset inside]
          simp only [HostOrder.store32] at inside
          simp [HostOrder.store32, List.getElem?_eq_getElem inside]
      | succ index =>
          have shift : offset + 2 * (index + 1) + low = offset + 2 + 2 * index + low := by omega
          rw [shift, List.getElem_cons_succ]
          exact inductionHypothesis _ _ (Nat.lt_of_succ_lt_succ below)

/-- The two low bytes of a number that fits a `short` are the `short`. -/
theorem loadShort_of_low {memory : Memory} {offset : Nat} (number : Int16)
    (low : ∀ index, index < 2 → memory (offset + index) =
      (setLE32 (Int32.ofInt number.toInt).toUInt32)[index]?.getD 0) :
    loadShort .littleEndian memory offset = number := by
  have value : (Int32.ofInt number.toInt).toUInt32.toNat = (number.toInt % 2 ^ 32).toNat :=
    BitVec.toNat_ofInt _
  have signed : number.toInt = number.toUInt16.toNat ∨ number.toInt = number.toUInt16.toNat - 2 ^ 16 := by
    have cond := BitVec.toInt_eq_toNat_cond number.toBitVec
    change number.toInt = _ at cond
    change number.toInt = number.toBitVec.toNat ∨ number.toInt = number.toBitVec.toNat - 2 ^ 16
    split at cond
    · exact Or.inl cond
    · exact Or.inr cond
  have small : number.toUInt16.toNat < 2 ^ 16 := number.toUInt16.toNat_lt
  have bytes : memory.bytes offset 2 = [memory (offset + 0), memory (offset + 1)] := rfl
  have image (word : UInt32) : setLE32 word =
      [.ofNat (word.toNat >>> 0), .ofNat (word.toNat >>> 8), .ofNat (word.toNat >>> 16),
        .ofNat (word.toNat >>> 24)] := rfl
  suffices same : HostOrder.littleEndian.load16 (memory.bytes offset 2) = number.toUInt16 by
    rw [loadShort, same, Int16.toInt16_toUInt16]
  apply UInt16.toNat_inj.mp
  rw [bytes, low 0 (by decide), low 1 (by decide), image, HostOrder.load16, Positional.ofLittleEndian]
  simp only [List.getElem?_cons_zero, List.getElem?_cons_succ, Option.getD_some, List.take,
    List.reverse_cons, List.reverse_nil, List.nil_append, List.cons_append,
    Positional.ofBigEndian_cons, UInt16.toNat_ofNat', UInt8.toNat_ofNat', value,
    Nat.shiftRight_eq_div_pow]
  simp only [Positional.ofBigEndian, List.foldl_nil, List.length_cons, List.length_nil]
  omega

/-- A time comes back, whatever the assignments before it left. -/
theorem loadTm_execute (before after : List Assignment) {offset flag : Nat} {tm : VzTm}
    (read : ∀ assignment ∈ before, assignment.value.isSome)
    (apart : after.all (spares offset 12) = true)
    (flagApart : flag + 4 ≤ offset ∨ offset + 12 ≤ flag) :
    loadTm .littleEndian (execute reals .littleEndian copyBounded
      (before ++ .time (WlistVehicle.tmMembers offset) flag (some (.ofCString (printTime tm))) ::
        after) .zero).1 offset = tm := by
  have member (index : Nat) (below : index < 6) (number : Int16)
      (isNumber : (sscanf timeFormat (printTime tm))[index]? = some (.ofInt number.toInt)) :
      loadShort .littleEndian (execute reals .littleEndian copyBounded
        (before ++ .time (WlistVehicle.tmMembers offset) flag (some (.ofCString (printTime tm))) ::
          after) .zero).1 (offset + 2 * index) = number := by
    refine loadShort_of_low number fun low isLow => ?_
    have six : (sscanf timeFormat (printTime tm)).length = 6 := by rw [sscanf_printTime]; rfl
    rw [Nat.add_assoc, execute_at read rfl apart .zero (2 * index + low) (by omega)]
    simp only [store, Json.asCString_ofCString (zero_not_mem_printTime tm)]
    rw [storeInt_outside (by omega), ← Nat.add_assoc]
    have members : WlistVehicle.tmMembers offset =
        ladder offset (sscanf timeFormat (printTime tm)).length := by rw [six]; rfl
    have inside : index < (sscanf timeFormat (printTime tm)).length := by omega
    rw [List.getElem?_eq_getElem inside, Option.some.injEq] at isNumber
    rw [members, storeTime_ladder _ offset _ inside isLow, isNumber]
  rw [sscanf_printTime] at member
  obtain ⟨nYear, nMonth, nMDay, nHour, nMin, nSec⟩ := tm
  rw [loadTm, VzTm.mk.injEq]
  exact ⟨member 0 (by decide) _ rfl, member 1 (by decide) _ rfl, member 2 (by decide) _ rfl,
    member 3 (by decide) _ rfl, member 4 (by decide) _ rfl, member 5 (by decide) _ rfl⟩

end

/-! ## Vehicles that come back -/

open WlistVehicle in
/-- The unsigned members are `int`s, and there is no customer: the parser asks for a member
`ustomer_id`, which no record has. -/
structure FitsInt (vehicle : Memory) : Prop where
  vehicleID : (loadUnsigned .littleEndian vehicle uVehicleID).toNat < 2 ^ 31
  customerID : loadUnsigned .littleEndian vehicle uCustomerID = 0
  enable : (loadUnsigned .littleEndian vehicle bEnable).toNat < 2 ^ 31
  usingTimeSeg : (loadUnsigned .littleEndian vehicle bUsingTimeSeg).toNat < 2 ^ 31
  alarm : (loadUnsigned .littleEndian vehicle bAlarm).toNat < 2 ^ 31

section

variable {vehicle : Memory} {plate code comment : List UInt8}
  (isPlate : vehicle.text? WlistVehicle.strPlateID WlistVehicle.lpMaxLen = some plate)
  (isCode : vehicle.text? WlistVehicle.strCode WlistVehicle.vehicleCodeLen = some code)
  (isComment : vehicle.text? WlistVehicle.strComment WlistVehicle.vehicleCommentLen = some comment)

open WlistVehicle in
/-- The assignments that the record of a vehicle leads to. -/
def wlistEffects (vehicle : Memory) (plate code comment : List UInt8) : List Assignment :=
  [.int uVehicleID (some (.uint (loadUnsigned .littleEndian vehicle uVehicleID).toNat)),
    .text strPlateID lpMaxLen (some (.ofCString plate)),
    .int uCustomerID (some .null),
    .int bEnable (some (.uint (loadUnsigned .littleEndian vehicle bEnable).toNat)),
    .time (tmMembers struTMEnable) bEnableTMEnable
      (some (.ofCString (printTime (loadTm .littleEndian vehicle struTMEnable)))),
    .time (tmMembers struTMOverdule) bEnableTMOverdule
      (some (.ofCString (printTime (loadTm .littleEndian vehicle struTMOverdule)))),
    .int bUsingTimeSeg (some (.uint (loadUnsigned .littleEndian vehicle bUsingTimeSeg).toNat)),
    .int bAlarm (some (.uint (loadUnsigned .littleEndian vehicle bAlarm).toNat)),
    .text strCode vehicleCodeLen (some (.ofCString code)),
    .text strComment vehicleCommentLen (some (.ofCString comment))]

include isPlate isCode isComment

/-- The vehicle can be written as a record. -/
theorem exists_wlistRecord : ∃ record, wlistRecord .littleEndian vehicle = some record := by
  simp [wlistRecord, isPlate, isCode, isComment]

variable {record : Json} (isRecord : wlistRecord .littleEndian vehicle = some record)

include isRecord

/-- What is read from the record are the parts of the vehicle. -/
theorem wlistAssignments_record :
    wlistAssignments record = wlistEffects vehicle plate code comment := by
  simp only [wlistRecord, isPlate, isCode, isComment, Option.bind_eq_bind, Option.bind_some,
    Option.pure_def, Option.some.injEq] at isRecord
  subst isRecord
  rfl

/-- The three strings come back. -/
theorem texts_come_back (reals : Json.Reals) (order : HostOrder) :
    (parseWhiteListRecordResponse reals order record .zero).1.text? WlistVehicle.strPlateID
        WlistVehicle.lpMaxLen = some plate ∧
      (parseWhiteListRecordResponse reals order record .zero).1.text? WlistVehicle.strCode
        WlistVehicle.vehicleCodeLen = some code ∧
      (parseWhiteListRecordResponse reals order record .zero).1.text? WlistVehicle.strComment
        WlistVehicle.vehicleCommentLen = some comment := by
  have copies := wlistCopies reals order record
  simp only [wlistRecord, isPlate, isCode, isComment, Option.bind_eq_bind, Option.bind_some,
    Option.pure_def, Option.some.injEq] at isRecord
  have whole {offset size : Nat} {text : List UInt8} (held : vehicle.text? offset size = some text)
      {json : Option Json} (sent : json = some (.ofCString text)) :
      ((json.bind Json.asCString).getD []).take (size - 1) = text := by
    obtain ⟨short, clean⟩ := Memory.text?_sound held
    rw [sent, Option.bind_some, Json.asCString_ofCString clean, Option.getD_some,
      List.take_of_length_le (by omega)]
  refine ⟨?_, ?_, ?_⟩
  · rw [copies.plate]
    exact congrArg some (whole isPlate (by rw [← isRecord]; rfl))
  · rw [copies.vehicleCode]
    exact congrArg some (whole isCode (by rw [← isRecord]; rfl))
  · rw [copies.vehicleComment]
    exact congrArg some (whole isComment (by rw [← isRecord]; rfl))

open WlistVehicle in
/-- What comes back of the other members. -/
theorem members_come_back (reals : Json.Reals) :
    let back := (parseWhiteListRecordResponse reals .littleEndian record .zero).1
    (loadUnsigned .littleEndian back uVehicleID = loadUnsigned .littleEndian vehicle uVehicleID ↔
        (loadUnsigned .littleEndian vehicle uVehicleID).toNat < 2 ^ 31) ∧
      loadUnsigned .littleEndian back uCustomerID = 0 ∧
      (loadUnsigned .littleEndian back bEnable = loadUnsigned .littleEndian vehicle bEnable ↔
        (loadUnsigned .littleEndian vehicle bEnable).toNat < 2 ^ 31) ∧
      loadTm .littleEndian back struTMEnable = loadTm .littleEndian vehicle struTMEnable ∧
      loadTm .littleEndian back struTMOverdule = loadTm .littleEndian vehicle struTMOverdule ∧
      (loadUnsigned .littleEndian back bUsingTimeSeg =
          loadUnsigned .littleEndian vehicle bUsingTimeSeg ↔
        (loadUnsigned .littleEndian vehicle bUsingTimeSeg).toNat < 2 ^ 31) ∧
      (loadUnsigned .littleEndian back bAlarm = loadUnsigned .littleEndian vehicle bAlarm ↔
        (loadUnsigned .littleEndian vehicle bAlarm).toNat < 2 ^ 31) := by
  simp only [parseWhiteListRecordResponse, wlistAssignments_record isPlate isCode isComment isRecord]
  refine ⟨?_, ?_, ?_, ?_, ?_, ?_, ?_⟩
  · exact loadUnsigned_execute_iff [] [_, _, _, _, _, _, _, _, _] (by simp) rfl rfl
  · exact loadUnsigned_execute_null [_, _] [_, _, _, _, _, _, _] (by simp [Assignment.value]) rfl rfl
  · exact loadUnsigned_execute_iff [_, _, _] [_, _, _, _, _, _] (by simp [Assignment.value]) rfl rfl
  · exact loadTm_execute [_, _, _, _] [_, _, _, _, _] (by simp [Assignment.value]) rfl (by decide)
  · exact loadTm_execute [_, _, _, _, _] [_, _, _, _] (by simp [Assignment.value]) rfl (by decide)
  · exact loadUnsigned_execute_iff [_, _, _, _, _, _] [_, _, _] (by simp [Assignment.value]) rfl rfl
  · exact loadUnsigned_execute_iff [_, _, _, _, _, _, _] [_, _] (by simp [Assignment.value]) rfl rfl

end

/-- On a little-endian host a vehicle comes back as it was sent exactly when its unsigned members
are `int`s and it has no customer. -/
theorem wlist_roundTrip_iff (reals : Json.Reals) {vehicle : Memory}
    (terminated : StringsTerminated vehicle) :
    RoundTrips reals .littleEndian vehicle ↔ FitsInt vehicle := by
  obtain ⟨plateEnds, codeEnds, commentEnds⟩ := terminated
  obtain ⟨plate, isPlate⟩ := Option.isSome_iff_exists.mp plateEnds
  obtain ⟨code, isCode⟩ := Option.isSome_iff_exists.mp codeEnds
  obtain ⟨comment, isComment⟩ := Option.isSome_iff_exists.mp commentEnds
  obtain ⟨record, isRecord⟩ := exists_wlistRecord isPlate isCode isComment
  obtain ⟨plateBack, codeBack, commentBack⟩ :=
    texts_come_back isPlate isCode isComment isRecord reals .littleEndian
  obtain ⟨vehicleID, customerID, enable, tmEnable, tmOverdule, usingTimeSeg, alarm⟩ :=
    members_come_back isPlate isCode isComment isRecord reals
  have sent : RoundTrips reals .littleEndian vehicle ↔ SameVehicle .littleEndian
      (parseWhiteListRecordResponse reals .littleEndian record .zero).1 vehicle := by
    simp only [RoundTrips, generatImportWlistVehicleCmd, isRecord, Option.map_some,
      Option.some.injEq]
    constructor
    · rintro ⟨_, _, rfl, isMember, same⟩
      cases isMember
      exact same
    · exact fun same => ⟨_, _, rfl, rfl, same⟩
  rw [sent]
  constructor
  · intro same
    exact ⟨vehicleID.mp same.vehicleID, same.customerID.symm.trans customerID,
      enable.mp same.enable, usingTimeSeg.mp same.usingTimeSeg, alarm.mp same.alarm⟩
  · intro fits
    exact ⟨vehicleID.mpr fits.vehicleID, plateBack.trans isPlate.symm,
      customerID.trans fits.customerID.symm, enable.mpr fits.enable, tmEnable, tmOverdule,
      usingTimeSeg.mpr fits.usingTimeSeg, alarm.mpr fits.alarm, codeBack.trans isCode.symm,
      commentBack.trans isComment.symm⟩

/-- A vehicle with the plate `A`, enabled, from the year 2016 on. -/
def plainVehicle : Memory :=
  ((Memory.zero.write WlistVehicle.strPlateID [65]).write WlistVehicle.bEnable [1]).write
    WlistVehicle.struTMEnable [224, 7]

/-- A vehicle without customer fields comes back as it was sent. -/
theorem wlist_roundTrip_plain :
    StringsTerminated plainVehicle ∧
      RoundTrips ⟨fun _ => none, fun _ => none⟩ .littleEndian plainVehicle := by
  have terminated : StringsTerminated plainVehicle := ⟨by decide, by decide, by decide⟩
  refine ⟨terminated, (wlist_roundTrip_iff _ terminated).mpr ?_⟩
  constructor <;> decide

/-- The same vehicle of the customer 5. -/
def customerVehicle : Memory := plainVehicle.write WlistVehicle.uCustomerID [5]

/-- It comes back without its customer. -/
theorem wlist_customer_lost :
    StringsTerminated customerVehicle ∧
      ¬RoundTrips ⟨fun _ => none, fun _ => none⟩ .littleEndian customerVehicle := by
  refine ⟨⟨by decide, by decide, by decide⟩, ?_⟩
  rintro ⟨request, record, isRequest, isMember, same⟩
  obtain ⟨sent, isRecord, rfl⟩ := Option.map_eq_some_iff.mp isRequest
  obtain rfl : sent = record := Option.some.inj isMember
  have plate : customerVehicle.text? WlistVehicle.strPlateID WlistVehicle.lpMaxLen = some [65] := by
    decide
  have code : customerVehicle.text? WlistVehicle.strCode WlistVehicle.vehicleCodeLen = some [] := by
    decide
  have comment : customerVehicle.text? WlistVehicle.strComment WlistVehicle.vehicleCommentLen =
      some [] := by decide
  have lost := (members_come_back plate code comment isRecord ⟨fun _ => none, fun _ => none⟩).2.1
  have back := same.customerID
  rw [lost] at back
  exact absurd back (by decide)

end VzSdk.Sdk
