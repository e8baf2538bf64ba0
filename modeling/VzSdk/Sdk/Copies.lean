import VzSdk.Sdk.CommandAnalysis

/-!
# Strings copied into structures

A plate's texts are copied with `strcpy`, those of a vehicle of the white list
with `strncpy` of one byte less than the array has. `stringCopies_bounded_iff`
says when all copies stay in their arrays: for the white list always, for a
plate when its texts are short enough.
-/

namespace VzSdk.Sdk

open VzSdk.Base VzSdk.Std

/-- No copy at all. -/
def copyNothing : Copy := fun memory _ _ _ => memory

namespace Assignment

/-- The spans of bytes, by start and size, that the assignment may write when its string copy is
bounded. -/
def spans : Assignment → List (Nat × Nat)
  | int offset _ => [(offset, 4)]
  | byte offset _ => [(offset, 1)]
  | text offset size _ => [(offset, size)]
  | time members flag _ => members.map (fun offset => (offset, 4)) ++ [(flag, 4)]
  | brokenDownTime offset _ => [(offset, 12)]

/-- The assignment may change the byte. -/
def Reaches (address : Nat) (assignment : Assignment) : Prop :=
  ∃ span ∈ assignment.spans, span.1 ≤ address ∧ address < span.1 + span.2

/-- The assignment writes none of the `size` bytes from `offset` on. -/
def spares (offset size : Nat) (assignment : Assignment) : Bool :=
  assignment.spans.all fun span => span.1 + span.2 ≤ offset || offset + size ≤ span.1

/-- What an assignment spares it does not reach. -/
theorem not_reaches_of_spares {assignment : Assignment} {offset size address : Nat}
    (spared : assignment.spares offset size = true) (low : offset ≤ address)
    (high : address < offset + size) : ¬assignment.Reaches address := by
  rintro ⟨span, member, start, stop⟩
  have apart := List.all_eq_true.mp spared span member
  simp only [Bool.or_eq_true, decide_eq_true_eq] at apart
  omega

/-- A string that the assignment copies stays inside the array. -/
def Bounded (copy : Copy) : Assignment → Prop
  | text offset size value => ∀ json string, value = some json → json.asCString = some string →
      ∀ (memory : Memory) (address : Nat), (address < offset ∨ offset + size ≤ address) →
        copy memory offset size string address = memory address
  | _ => True

section

variable {reals : Json.Reals} {order : HostOrder} {copy : Copy}

/-- An `int` changes its four bytes. -/
theorem storeInt_outside {memory : Memory} {offset address : Nat} {value : Int32}
    (outside : ¬(offset ≤ address ∧ address < offset + 4)) :
    storeInt order memory offset value address = memory address := by
  refine Memory.write_outside ?_
  rw [HostOrder.length_store32]
  omega

/-- A `char` changes its byte. -/
theorem storeByte_outside {memory : Memory} {offset address : Nat} {value : Int32}
    (outside : address ≠ offset) : storeByte memory offset value address = memory address := by
  refine Memory.write_outside ?_
  simp only [List.length_singleton]
  omega

/-- A time changes the bytes of its members. -/
theorem storeTime_outside {memory : Memory} {address : Nat} {members : List Nat}
    {values : List Int32}
    (outside : ¬∃ offset ∈ members, offset ≤ address ∧ address < offset + 4) :
    storeTime order memory members values address = memory address := by
  induction members generalizing memory values with
  | nil => simp [storeTime]
  | cons offset members ih =>
      cases values with
      | nil => rfl
      | cons value values =>
          simp only [List.mem_cons, exists_eq_or_imp, not_or] at outside
          rw [storeTime, ih outside.2, storeInt_outside outside.1]

/-- A broken-down time changes its twelve bytes. -/
theorem storeBrokenDown_outside {memory : Memory} {offset address : Nat} {values : List Int32}
    (outside : ¬(offset ≤ address ∧ address < offset + 12)) :
    storeBrokenDown order memory offset values address = memory address := by
  rw [storeBrokenDown, storeByte_outside (by omega), storeByte_outside (by omega),
    storeByte_outside (by omega), storeByte_outside (by omega), storeByte_outside (by omega),
    storeInt_outside (by omega)]

/-- An assignment leaves the bytes alone that it does not reach. -/
theorem store_outside {assignment : Assignment} (bounded : assignment.Bounded copy) {json : Json}
    (read : assignment.value = some json) {address : Nat} (outside : ¬assignment.Reaches address)
    (memory : Memory) : assignment.store reals order copy memory json address = memory address := by
  cases assignment with
  | int offset value =>
      simp only [Reaches, spans, List.mem_singleton, exists_eq_left] at outside
      cases number : json.int? reals with
      | some number => simpa only [store, number] using storeInt_outside outside
      | none => simp only [store, number]
  | byte offset value =>
      simp only [Reaches, spans, List.mem_singleton, exists_eq_left] at outside
      cases number : json.int? reals with
      | some number => simpa only [store, number] using storeByte_outside (by omega)
      | none => simp only [store, number]
  | text offset size value =>
      cases isString : json.asCString with
      | some string =>
          simp only [Reaches, spans, List.mem_singleton, exists_eq_left] at outside
          simpa only [store, isString] using
            bounded json string read isString memory address (by omega)
      | none => simp only [store, isString]
  | time members flag value =>
      simp only [Reaches, spans, List.mem_append, List.mem_map, List.mem_singleton, or_and_right,
        exists_or, exists_eq_left, not_or] at outside
      cases isString : json.asCString with
      | some string =>
          have noMember : ¬∃ offset ∈ members, offset ≤ address ∧ address < offset + 4 := by
            rintro ⟨offset, member, inside⟩
            exact outside.1 ⟨(offset, 4), ⟨offset, member, rfl⟩, inside⟩
          simp only [store, isString]
          rw [storeInt_outside outside.2, storeTime_outside noMember]
      | none => simp only [store, isString]
  | brokenDownTime offset value =>
      simp only [Reaches, spans, List.mem_singleton, exists_eq_left] at outside
      cases isString : json.asCString with
      | some string => simpa only [store, isString] using storeBrokenDown_outside outside
      | none => simp only [store, isString]

/-- Assignments change what they reach. -/
theorem execute_outside {assignments : List Assignment} {address : Nat}
    (apart : ∀ assignment ∈ assignments, assignment.Bounded copy ∧ ¬assignment.Reaches address)
    (memory : Memory) :
    (execute reals order copy assignments memory).1 address = memory address := by
  induction assignments generalizing memory with
  | nil => rfl
  | cons assignment rest ih =>
      obtain ⟨⟨bounded, outside⟩, others⟩ := List.forall_mem_cons.mp apart
      rw [execute]
      split
      · rfl
      · next json read => rw [ih others, store_outside bounded read outside]

/-- The region holds the array of the string copy. -/
def Covered (region : Nat → Prop) : Assignment → Prop
  | text offset size _ => ∀ address, offset ≤ address → address < offset + size → region address
  | _ => True

/-- A time is stored the same into memories that agree. -/
theorem storeTime_agreeOff {region : Nat → Prop} {memory other : Memory}
    (agree : memory.AgreeOff region other) (members : List Nat) (values : List Int32) :
    (storeTime order memory members values).AgreeOff region
      (storeTime order other members values) := by
  induction members generalizing memory other values with
  | nil => simpa [storeTime] using agree
  | cons offset members ih =>
      cases values with
      | nil => exact agree
      | cons value values => exact ih (agree.write offset _) values

/-- The same assignment in two memories, with and without the string copy. -/
theorem store_agreeOff {region : Nat → Prop} {assignment : Assignment}
    (bounded : assignment.Bounded copy) (covered : assignment.Covered region) {json : Json}
    (read : assignment.value = some json) {memory other : Memory}
    (agree : memory.AgreeOff region other) :
    (assignment.store reals order copy memory json).AgreeOff region
      (assignment.store reals order copyNothing other json) := by
  cases assignment with
  | int offset value =>
      cases number : json.int? reals with
      | some number =>
          simp only [store, number]
          exact agree.write offset _
      | none => simpa only [store, number] using agree
  | byte offset value =>
      cases number : json.int? reals with
      | some number =>
          simp only [store, number]
          exact agree.write offset _
      | none => simpa only [store, number] using agree
  | text offset size value =>
      cases isString : json.asCString with
      | some string =>
          intro address off
          simp only [store, isString, copyNothing]
          rw [← agree address off]
          refine bounded json string read isString memory address ?_
          refine Decidable.byContradiction fun inside => ?_
          exact off (covered address (by omega) (by omega))
      | none => simpa only [store, isString] using agree
  | time members flag value =>
      cases isString : json.asCString with
      | some string =>
          simp only [store, isString]
          exact (storeTime_agreeOff agree members _).write flag _
      | none => simpa only [store, isString] using agree
  | brokenDownTime offset value =>
      cases isString : json.asCString with
      | some string =>
          simp only [store, isString]
          exact (((((agree.write _ _).write _ _).write _ _).write _ _).write _ _).write _ _
      | none => simpa only [store, isString] using agree

/-- Assignments do the same outside a region to memories that agree there. -/
theorem execute_agreeOff {region : Nat → Prop} {assignments : List Assignment}
    (kept : ∀ assignment ∈ assignments, assignment.Bounded copy ∧ assignment.Covered region)
    {memory other : Memory} (agree : memory.AgreeOff region other) :
    (execute reals order copy assignments memory).1.AgreeOff region
      (execute reals order copyNothing assignments other).1 := by
  induction assignments generalizing memory other with
  | nil => exact agree
  | cons assignment rest ih =>
      obtain ⟨⟨bounded, covered⟩, others⟩ := List.forall_mem_cons.mp kept
      cases read : assignment.value with
      | none => simpa only [execute, read] using agree
      | some json =>
          simp only [execute, read]
          exact ih others (store_agreeOff bounded covered read agree)

/-- Bounded copies stay within their arrays. -/
theorem bounded_copyBounded (assignment : Assignment) : assignment.Bounded copyBounded := by
  cases assignment with
  | text offset size value =>
      intro json string read isString memory address outside
      refine Memory.strncpy_outside ?_
      omega
  | int | byte | time | brokenDownTime => trivial

/-- Assignments are carried out one list after the other. -/
theorem execute_append {before after : List Assignment} {memory : Memory}
    (read : ∀ assignment ∈ before, assignment.value.isSome) :
    execute reals order copy (before ++ after) memory =
      execute reals order copy after (execute reals order copy before memory).1 := by
  induction before generalizing memory with
  | nil => rfl
  | cons assignment rest ih =>
      obtain ⟨some, others⟩ := List.forall_mem_cons.mp read
      obtain ⟨json, value⟩ := Option.isSome_iff_exists.mp some
      simp only [List.cons_append, execute, value]
      exact ih others

/-- A bounded copy leaves the array with the text, cut to the array, when the array was zero
before and the other assignments do not reach it. -/
theorem text?_execute_bounded {before after : List Assignment} {offset count : Nat}
    {value : Option Json} {memory : Memory}
    (read : ∀ assignment ∈ before, assignment.value.isSome)
    (apart : ∀ assignment ∈ before ++ after, assignment.spares offset (count + 1) = true)
    (zero : ∀ index, index ≤ count → memory (offset + index) = 0) :
    (execute reals order copyBounded (before ++ .text offset (count + 1) value :: after)
      memory).1.text? offset (count + 1) =
        some (((value.bind Json.asCString).getD []).take count) := by
  have blank : ∀ index, index ≤ count →
      (execute reals order copyBounded before memory).1 (offset + index) = 0 := by
    intro index below
    rw [execute_outside (fun assignment member => ⟨bounded_copyBounded assignment,
      not_reaches_of_spares (apart assignment (by simp [member])) (by omega) (by omega)⟩),
      zero index below]
  have emptied {array : Memory} (blank : ∀ index, index ≤ count → array (offset + index) = 0) :
      array.text? offset (count + 1) = some [] := by
    simpa [Memory.text?] using blank 0 (Nat.zero_le _)
  rw [execute_append read]
  cases value with
  | none => simpa [execute, Assignment.value] using emptied blank
  | some json =>
      simp only [execute, Assignment.value]
      rw [Memory.text?_congr (fun index below => execute_outside (fun assignment member =>
        ⟨bounded_copyBounded assignment, not_reaches_of_spares
          (apart assignment (by simp [member])) (by omega) (by omega)⟩) _)]
      cases isString : json.asCString with
      | none => simpa [store, isString] using emptied blank
      | some string =>
          simp only [store, isString, copyBounded, Option.bind_some, Option.getD_some]
          exact Memory.text?_strncpy _ offset (Json.zero_not_mem_of_asCString isString)
            (blank count (Nat.le_refl _))

end

end Assignment

/-! ## The vehicles of the white list -/

/-- The bytes of the three arrays of a vehicle. -/
def WlistVehicle.inArrays (address : Nat) : Prop :=
  (strPlateID ≤ address ∧ address < strPlateID + lpMaxLen) ∨
    (strCode ≤ address ∧ address < strCode + vehicleCodeLen) ∨
    (strComment ≤ address ∧ address < strComment + vehicleCommentLen)

/-- The text of a member of a record, empty when it has none. -/
def itemText (item : Json) (key : String) : List UInt8 :=
  ((item.member key).bind Json.asCString).getD []

open WlistVehicle in
/-- A vehicle parsed into a zeroed structure: its arrays hold the texts, cut to their size, and
the other members are as they are when no text is copied. -/
structure WlistCopies (reals : Json.Reals) (order : HostOrder) (item : Json) : Prop where
  plate : (parseWhiteListRecordResponse reals order item .zero).1.text? strPlateID lpMaxLen =
    some ((itemText item "plate").take (lpMaxLen - 1))
  vehicleCode : (parseWhiteListRecordResponse reals order item .zero).1.text? strCode vehicleCodeLen =
    some ((itemText item "vehicle_code").take (vehicleCodeLen - 1))
  vehicleComment :
    (parseWhiteListRecordResponse reals order item .zero).1.text? strComment vehicleCommentLen =
      some ((itemText item "vehicle_comment").take (vehicleCommentLen - 1))
  neighbours : (parseWhiteListRecordResponse reals order item .zero).1.AgreeOff inArrays
    (Assignment.execute reals order copyNothing (wlistAssignments item) .zero).1

section

variable {reals : Json.Reals} {order : HostOrder} {item : Json}

/-- An array of a vehicle, between the assignments before and after its own. -/
theorem text?_parseWhiteListRecordResponse (before after : List Assignment) {offset count : Nat}
    {key : String}
    (parts : wlistAssignments item =
      before ++ .text offset (count + 1) (item.member key) :: after)
    (apart : (before ++ after).all (Assignment.spares offset (count + 1)) = true) :
    (parseWhiteListRecordResponse reals order item .zero).1.text? offset (count + 1) =
      some ((itemText item key).take count) := by
  cases keyed : item.isKeyed with
  | false =>
      have unread (key : String) := (Json.member_eq_none_iff item key).mpr keyed
      simp [parseWhiteListRecordResponse, wlistAssignments, Assignment.execute, Assignment.value,
        unread, itemText, Memory.text?, Memory.zero]
  | true =>
      have read : ∀ assignment ∈ wlistAssignments item, assignment.value.isSome := by
        rw [← List.all_eq_true, ← Assignment.execute_snd reals order copyBounded _ .zero]
        exact (parseWhiteListRecordResponse_returns_iff reals order item .zero).mpr keyed
      rw [parts] at read
      rw [parseWhiteListRecordResponse, parts]
      refine Assignment.text?_execute_bounded ?_ (List.all_eq_true.mp apart) fun _ _ => rfl
      intro assignment member
      exact read assignment (by simp [member])

/-- The texts of a vehicle are copied, cut to their arrays. -/
theorem wlistCopies (reals : Json.Reals) (order : HostOrder) (item : Json) :
    WlistCopies reals order item where
  plate := text?_parseWhiteListRecordResponse [_] [_, _, _, _, _, _, _, _] rfl rfl
  vehicleCode := text?_parseWhiteListRecordResponse [_, _, _, _, _, _, _, _] [_] rfl rfl
  vehicleComment := text?_parseWhiteListRecordResponse [_, _, _, _, _, _, _, _, _] [] rfl rfl
  neighbours := by
    refine Assignment.execute_agreeOff ?_ fun _ _ => rfl
    intro assignment member
    refine ⟨Assignment.bounded_copyBounded assignment, ?_⟩
    simp only [wlistAssignments, List.mem_cons, List.not_mem_nil, or_false] at member
    rcases member with rfl | rfl | rfl | rfl | rfl | rfl | rfl | rfl | rfl | rfl
    all_goals simp only [Assignment.Covered, WlistVehicle.inArrays]
    all_goals omega

end

/-! ## Plates -/

/-- The text of a member of the plate. -/
def plateText (root : Json) (key : String) : Option (List UInt8) :=
  (root.path ["PlateResult", key]).bind Json.asCString

/-- The byte belongs to the plate's texts. -/
def PlateResult.inArrays (address : Nat) : Prop :=
  (license ≤ address ∧ address < license + lpLen) ∨ (color ≤ address ∧ address < color + colorLen)

/-- The array holds the text, cut to its size, or is as it was when there is no text. -/
def Copied (before after : Memory) (offset size : Nat) : Option (List UInt8) → Prop
  | some text => after.text? offset size = some (text.take (size - 1))
  | none => ∀ index, index < size → after (offset + index) = before (offset + index)

open PlateResult in
/-- A plate parsed into a structure with any contents: its arrays hold the texts, cut to their
size, and the other members are as they are when no text is copied. -/
structure PlateCopies (reals : Json.Reals) (order : HostOrder) (root : Json)
    (output : PlateOutput) : Prop where
  license : Copied output.result (parsePlateResultResponse reals order root output).1.result
    license lpLen (plateText root "license")
  color : Copied output.result (parsePlateResultResponse reals order root output).1.result
    color colorLen (plateText root "colorValue")
  neighbours : (parsePlateResultResponse reals order root output).1.result.AgreeOff inArrays
    (Assignment.execute reals order copyNothing (plateAssignments root) output.result).1

/-- The texts of the plate are shorter than their arrays. -/
def PlateTextsFit (root : Json) : Prop :=
  (∀ text, plateText root "license" = some text → text.length < PlateResult.lpLen) ∧
    ∀ text, plateText root "colorValue" = some text → text.length < PlateResult.colorLen

section

variable {reals : Json.Reals} {order : HostOrder} {root : Json}

/-- The parser leaves what its assignments do. -/
theorem result_parsePlateResultResponse (output : PlateOutput) :
    (parsePlateResultResponse reals order root output).1.result =
      (Assignment.execute reals order copyUnbounded (plateAssignments root) output.result).1 := by
  rw [parsePlateResultResponse]
  split <;> simp [*]

/-- `strcpy`, if there is a text. -/
def copyText (memory : Memory) (offset : Nat) : Option (List UInt8) → Memory
  | some text => memory.strcpy offset text
  | none => memory

/-- A text is copied upwards. -/
theorem copyText_below {memory : Memory} {offset address : Nat} {text : Option (List UInt8)}
    (below : address < offset) : copyText memory offset text address = memory address := by
  cases text with
  | none => rfl
  | some text => exact Memory.strcpy_outside (Or.inl below)

/-- A text of a plate is copied whole. -/
theorem store_text_unbounded (memory : Memory) (offset size : Nat) (json : Json) :
    (Assignment.text offset size (some json)).store reals order copyUnbounded memory json =
      copyText memory offset json.asCString := by
  cases isString : json.asCString <;> simp [Assignment.store, isString, copyText, copyUnbounded]

/-- The assignments behind the two copies. -/
def plateNumbers (root : Json) : List Assignment := (plateAssignments root).drop 2

/-- The texts of a plate are assigned first. -/
theorem plateAssignments_eq (root : Json) :
    plateAssignments root =
      .text PlateResult.license PlateResult.lpLen (root.path ["PlateResult", "license"]) ::
        .text PlateResult.color PlateResult.colorLen (root.path ["PlateResult", "colorValue"]) ::
          plateNumbers root := rfl

/-- The numbers of a plate stay out of its texts. -/
theorem plateNumbers_bounded {assignment : Assignment} (member : assignment ∈ plateNumbers root) :
    assignment.Bounded copyUnbounded ∧ assignment.Covered PlateResult.inArrays ∧
      assignment.spares 0 PlateResult.nColor = true := by
  simp only [plateNumbers, plateAssignments, List.drop_succ_cons, List.drop_zero, List.mem_cons,
    List.not_mem_nil, or_false] at member
  rcases member with rfl | rfl | rfl | rfl | rfl | rfl | rfl | rfl | rfl | rfl | rfl | rfl | rfl |
    rfl | rfl | rfl | rfl
  all_goals exact ⟨trivial, trivial, rfl⟩

section

variable {memory : Memory} {licenseJson colorJson : Json}
  (licenseRead : root.path ["PlateResult", "license"] = some licenseJson)
  (colorRead : root.path ["PlateResult", "colorValue"] = some colorJson)

include licenseRead colorRead

/-- The two arrays after the whole function are those after the two copies. -/
theorem execute_plateAssignments {address : Nat} (inside : address < PlateResult.nColor) :
    (Assignment.execute reals order copyUnbounded (plateAssignments root) memory).1 address =
      copyText (copyText memory PlateResult.license licenseJson.asCString) PlateResult.color
        colorJson.asCString address := by
  have behind (memory : Memory) :
      (Assignment.execute reals order copyUnbounded (plateNumbers root) memory).1 address =
        memory address := by
    refine Assignment.execute_outside ?_ memory
    intro assignment member
    obtain ⟨bounded, -, spared⟩ := plateNumbers_bounded member
    exact ⟨bounded, Assignment.not_reaches_of_spares spared (Nat.zero_le _) (by omega)⟩
  rw [plateAssignments_eq, licenseRead, colorRead]
  simp only [Assignment.execute, Assignment.value, store_text_unbounded]
  exact behind _

/-- The license reads as it was copied. -/
theorem text?_license :
    (Assignment.execute reals order copyUnbounded (plateAssignments root) memory).1.text?
        PlateResult.license PlateResult.lpLen =
      (copyText memory PlateResult.license licenseJson.asCString).text? PlateResult.license
        PlateResult.lpLen := by
  refine Memory.text?_congr fun index (below : index < 16) => ?_
  rw [execute_plateAssignments licenseRead colorRead (show 0 + index < 24 by omega),
    copyText_below (show 0 + index < 16 by omega)]

/-- The colour reads as it was copied. -/
theorem text?_color :
    (Assignment.execute reals order copyUnbounded (plateAssignments root) memory).1.text?
        PlateResult.color PlateResult.colorLen =
      (copyText (copyText memory PlateResult.license licenseJson.asCString) PlateResult.color
        colorJson.asCString).text? PlateResult.color PlateResult.colorLen := by
  refine Memory.text?_congr fun index (below : index < 8) => ?_
  rw [execute_plateAssignments licenseRead colorRead (show 16 + index < 24 by omega)]

end

/-- An array holds a copied text, cut to its size, exactly when the text fits. -/
theorem text?_copyText_iff {json : Json} {text : List UInt8} (isString : json.asCString = some text)
    (memory : Memory) (offset size : Nat) :
    (copyText memory offset json.asCString).text? offset size = some (text.take (size - 1)) ↔
      text.length < size := by
  have noNul := Json.zero_not_mem_of_asCString isString
  rw [isString, copyText]
  by_cases fits : text.length < size
  · rw [Memory.text?_strcpy memory offset noNul fits, List.take_of_length_le (by omega)]
    simp [fits]
  · rw [Memory.text?_strcpy_eq_none memory offset noNul (by omega)]
    simp [fits]

/-- A text that fits its array is copied inside it. -/
theorem bounded_copyUnbounded {offset size : Nat} {value : Option Json}
    (fits : ∀ text, value.bind Json.asCString = some text → text.length < size) :
    (Assignment.text offset size value).Bounded copyUnbounded := by
  intro json string read isString memory address outside
  have short := fits string (by simp [read, isString])
  exact Memory.strcpy_outside (by omega)

/-- Both texts can be read, or neither. -/
theorem isSome_platePath (root : Json) (key : String) :
    (root.path ["PlateResult", key]).isSome =
      (root.isKeyed && (root.get "PlateResult").isKeyed) := by
  simp [Json.isSome_path_cons, Json.isSome_path_nil]

/-- A plate that cannot be read is not written at all. -/
theorem plateCopies_of_unread (reals : Json.Reals) (order : HostOrder) (output : PlateOutput)
    (unread : (root.isKeyed && (root.get "PlateResult").isKeyed) = false) :
    PlateCopies reals order root output ∧ PlateTextsFit root := by
  have none (key : String) : root.path ["PlateResult", key] = none := by
    rw [← Option.not_isSome_iff_eq_none, isSome_platePath, unread]
    simp
  have kept (copy : Copy) :
      (Assignment.execute reals order copy (plateAssignments root) output.result).1 =
        output.result := by
    simp [plateAssignments_eq, Assignment.execute, Assignment.value, none]
  refine ⟨⟨?_, ?_, ?_⟩, ?_, ?_⟩
  · simp [result_parsePlateResultResponse, kept, plateText, none, Copied]
  · simp [result_parsePlateResultResponse, kept, plateText, none, Copied]
  · intro address off
    rw [result_parsePlateResultResponse, kept, kept]
  · simp [plateText, none]
  · simp [plateText, none]

section

variable {licenseJson colorJson : Json}
  (licenseRead : root.path ["PlateResult", "license"] = some licenseJson)
  (colorRead : root.path ["PlateResult", "colorValue"] = some colorJson)

include licenseRead colorRead

/-- An array that holds its text, cut to its size, is long enough for it. -/
theorem textsFit_of_copies {output : PlateOutput}
    (copies : PlateCopies reals order root output) : PlateTextsFit root := by
  have licenseText : plateText root "license" = licenseJson.asCString := by
    simp [plateText, licenseRead]
  have colorText : plateText root "colorValue" = colorJson.asCString := by
    simp [plateText, colorRead]
  refine ⟨?_, ?_⟩
  · intro text isString
    have held := copies.license
    rw [isString, Copied, result_parsePlateResultResponse,
      text?_license licenseRead colorRead] at held
    exact (text?_copyText_iff (licenseText.symm.trans isString) _ _ _).mp held
  · intro text isString
    have held := copies.color
    rw [isString, Copied, result_parsePlateResultResponse,
      text?_color licenseRead colorRead] at held
    exact (text?_copyText_iff (colorText.symm.trans isString) _ _ _).mp held

/-- A license that fits is copied. -/
theorem license_copied (output : PlateOutput) (fit : PlateTextsFit root) :
    Copied output.result (parsePlateResultResponse reals order root output).1.result
      PlateResult.license PlateResult.lpLen (plateText root "license") := by
  have licenseText : plateText root "license" = licenseJson.asCString := by
    simp [plateText, licenseRead]
  rw [licenseText, result_parsePlateResultResponse]
  cases isString : licenseJson.asCString with
  | some text =>
      rw [Copied, text?_license licenseRead colorRead, text?_copyText_iff isString]
      exact fit.1 text (licenseText.trans isString)
  | none =>
      intro index (below : index < 16)
      rw [execute_plateAssignments licenseRead colorRead (show 0 + index < 24 by omega),
        copyText_below (show 0 + index < 16 by omega), isString, copyText]

/-- The color array comes right after the license, which a text that fits leaves alone. -/
theorem color_copied (output : PlateOutput) (fit : PlateTextsFit root) :
    Copied output.result (parsePlateResultResponse reals order root output).1.result
      PlateResult.color PlateResult.colorLen (plateText root "colorValue") := by
  have licenseText : plateText root "license" = licenseJson.asCString := by
    simp [plateText, licenseRead]
  have colorText : plateText root "colorValue" = colorJson.asCString := by
    simp [plateText, colorRead]
  rw [colorText, result_parsePlateResultResponse]
  cases isString : colorJson.asCString with
  | some text =>
      rw [Copied, text?_color licenseRead colorRead, text?_copyText_iff isString]
      exact fit.2 text (colorText.trans isString)
  | none =>
      intro index (below : index < 8)
      rw [execute_plateAssignments licenseRead colorRead (show 16 + index < 24 by omega),
        isString, copyText]
      cases license : licenseJson.asCString with
      | none => rfl
      | some text =>
          have short : text.length < 16 := fit.1 text (licenseText.trans license)
          exact Memory.strcpy_outside (Or.inr (show 0 + text.length < 16 + index by omega))

end

/-- Texts that fit leave the other members as they are without them. -/
theorem neighbours_of_textsFit (output : PlateOutput) (fit : PlateTextsFit root) :
    (parsePlateResultResponse reals order root output).1.result.AgreeOff PlateResult.inArrays
      (Assignment.execute reals order copyNothing (plateAssignments root) output.result).1 := by
  rw [result_parsePlateResultResponse]
  refine Assignment.execute_agreeOff ?_ fun _ _ => rfl
  rw [plateAssignments_eq]
  simp only [List.forall_mem_cons]
  refine ⟨⟨bounded_copyUnbounded fit.1, ?_⟩, ⟨bounded_copyUnbounded fit.2, ?_⟩, ?_⟩
  · intro address low high
    exact Or.inl ⟨low, high⟩
  · intro address low high
    exact Or.inr ⟨low, high⟩
  · intro assignment member
    exact ⟨(plateNumbers_bounded member).1, (plateNumbers_bounded member).2.1⟩

/-- The copies of a plate stay in their arrays exactly when its texts fit. -/
theorem plateCopies_iff (reals : Json.Reals) (order : HostOrder) (root : Json)
    (output : PlateOutput) : PlateCopies reals order root output ↔ PlateTextsFit root := by
  cases readable : root.isKeyed && (root.get "PlateResult").isKeyed with
  | false =>
      obtain ⟨copies, fit⟩ := plateCopies_of_unread reals order output readable
      exact ⟨fun _ => fit, fun _ => copies⟩
  | true =>
      obtain ⟨licenseJson, licenseRead⟩ := Option.isSome_iff_exists.mp
        ((isSome_platePath root "license").trans readable)
      obtain ⟨colorJson, colorRead⟩ := Option.isSome_iff_exists.mp
        ((isSome_platePath root "colorValue").trans readable)
      constructor
      · exact textsFit_of_copies licenseRead colorRead
      · intro fit
        exact ⟨license_copied licenseRead colorRead output fit,
          color_copied licenseRead colorRead output fit, neighbours_of_textsFit output fit⟩

end

/-- All string copies of a record and of a plate stay in their arrays, cut to them, exactly when
the texts of the plate fit. -/
theorem stringCopies_bounded_iff (reals : Json.Reals) (order : HostOrder) (root item : Json)
    (output : PlateOutput) :
    (PlateCopies reals order root output ∧ WlistCopies reals order item) ↔ PlateTextsFit root := by
  rw [plateCopies_iff]
  exact and_iff_left (wlistCopies reals order item)

/-- A plate with a license of sixteen letters. -/
def longLicense : Json :=
  .object [("PlateResult", .object [("license", .string "AAAAAAAAAAAAAAAA")])]

/-- It leaves `license` without its NUL, which is written to `color`. -/
theorem long_license_overflows :
    ¬PlateCopies ⟨fun _ => none, fun _ => none⟩ .littleEndian longLicense ⟨.zero, 0, 0⟩ := by
  intro copies
  have unended : (parsePlateResultResponse ⟨fun _ => none, fun _ => none⟩ .littleEndian longLicense
      ⟨.zero, 0, 0⟩).1.result.text? PlateResult.license PlateResult.lpLen = none := by
    decide
  have truncated := copies.license
  rw [show plateText longLicense "license" = some (List.replicate 16 65) by decide, Copied,
    unended] at truncated
  cases truncated

end VzSdk.Sdk
