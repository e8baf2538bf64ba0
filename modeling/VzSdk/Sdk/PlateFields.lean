import VzSdk.Sdk.Copies

/-!
# The members of a plate

A plate is parsed into a structure that nothing has initialised, and a member
that the response has no value for, or one of another type, is left as it is.
`PlateComplete.plateFields_congr` says that a response with all members leaves
nothing of what stood in the structure. Reserved bytes are no members: nothing
ever writes them.
-/

namespace VzSdk.Sdk

open VzSdk.Base VzSdk.Std

namespace Assignment

/-- The bytes of the member that the assignment fills, without its reserved ones. -/
def held (memory : Memory) : Assignment → List UInt8
  | int offset _ => memory.bytes offset 4
  | byte offset _ => memory.bytes offset 1
  | text offset size _ => (memory.text? offset size).getD []
  | time members flag _ => members.flatMap (memory.bytes · 2) ++ memory.bytes flag 4
  | brokenDownTime offset _ => memory.bytes offset 5 ++ memory.bytes (offset + 8) 4

/-- The member of the response has the type that the assignment needs. -/
def typed (reals : Json.Reals) : Assignment → Bool
  | int _ value => (value.bind (Json.int? reals)).isSome
  | byte _ value => (value.bind (Json.int? reals)).isSome
  | text _ _ value => (value.bind Json.asCString).isSome
  | time _ _ value => (value.bind Json.asCString).isSome
  | brokenDownTime _ value => (value.bind Json.asCString).isSome

/-- The bytes of a number or a time that the assignment writes. -/
def Writes (address : Nat) : Assignment → Prop
  | int offset _ => offset ≤ address ∧ address < offset + 4
  | byte offset _ => address = offset
  | text _ _ _ => False
  | time _ _ _ => False
  | brokenDownTime offset _ =>
      (offset ≤ address ∧ address < offset + 5) ∨ (offset + 8 ≤ address ∧ address < offset + 12)

end Assignment

/-- The members of a plate: its two texts, and the bytes of the others. -/
structure PlateFields where
  license : Option (List UInt8)
  color : Option (List UInt8)
  numbers : List (List UInt8)
deriving DecidableEq, Repr

open PlateResult in

/-- The fields of a result that a plate fills. -/
def plateFields (result : Memory) : PlateFields :=
  ⟨result.text? license lpLen, result.text? color colorLen,
    (plateNumbers .null).map (·.held result)⟩

/-- Every member of the plate is there, with its type, and the texts fit into their arrays. -/
structure PlateComplete (reals : Json.Reals) (root : Json) : Prop where
  license : (plateText root "license").any (·.length < PlateResult.lpLen) = true
  color : (plateText root "colorValue").any (·.length < PlateResult.colorLen) = true
  numbers : (plateNumbers root).all (·.typed reals) = true

section

variable {reals : Json.Reals} {order : HostOrder} {root : Json}

namespace Assignment

variable {memory other : Memory} {offset address : Nat}

/-- Storing a number agrees where the memories do, and where it is stored. -/
theorem storeInt_congr {value : Int32}
    (settled : memory address = other address ∨ (offset ≤ address ∧ address < offset + 4)) :
    storeInt order memory offset value address = storeInt order other offset value address := by
  refine Memory.write_congr ?_
  rw [HostOrder.length_store32]
  exact settled

/-- Storing a byte agrees where the memories do, and where it is stored. -/
theorem storeByte_congr {value : Int32}
    (settled : memory address = other address ∨ address = offset) :
    storeByte memory offset value address = storeByte other offset value address := by
  refine Memory.write_congr (settled.imp_right fun same => ?_)
  rw [List.length_singleton]
  omega

/-- Storing a time agrees where the memories do, and where it is stored. -/
theorem storeBrokenDown_congr {values : List Int32}
    (settled : memory address = other address ∨
      Writes address (.brokenDownTime offset none)) :
    storeBrokenDown order memory offset values address =
      storeBrokenDown order other offset values address := by
  unfold storeBrokenDown
  by_cases sec : address = offset
  · exact storeByte_congr (.inr sec)
  refine storeByte_congr (.inl ?_)
  by_cases min : address = offset + 1
  · exact storeByte_congr (.inr min)
  refine storeByte_congr (.inl ?_)
  by_cases hour : address = offset + 2
  · exact storeByte_congr (.inr hour)
  refine storeByte_congr (.inl ?_)
  by_cases mday : address = offset + 3
  · exact storeByte_congr (.inr mday)
  refine storeByte_congr (.inl ?_)
  by_cases mon : address = offset + 4
  · exact storeByte_congr (.inr mon)
  refine storeByte_congr (.inl ?_)
  refine storeInt_congr (settled.imp_right fun writes => ?_)
  rcases writes with low | year <;> omega

/-- Storing members of a time agrees where the memories do. -/
theorem storeTime_congr {members : List Nat} {values : List Int32}
    (same : memory address = other address) :
    storeTime order memory members values address =
      storeTime order other members values address := by
  induction members generalizing memory other values with
  | nil => exact same
  | cons offset members inductionHypothesis =>
      cases values with
      | nil => exact same
      | cons value values => exact inductionHypothesis (storeInt_congr (.inl same))

/-- The same assignment in two memories. -/
theorem store_congr {assignment : Assignment} {json : Json} (read : assignment.value = some json)
    (settled : memory address = other address ∨
      (assignment.typed reals = true ∧ assignment.Writes address)) :
    assignment.store reals order copyUnbounded memory json address =
      assignment.store reals order copyUnbounded other json address := by
  cases assignment with
  | int offset value =>
      cases read
      cases number : json.int? reals with
      | none => simpa [store, typed, number] using settled
      | some number =>
          simp only [store, number]
          exact storeInt_congr (settled.imp_right And.right)
  | byte offset value =>
      cases read
      cases number : json.int? reals with
      | none => simpa [store, typed, number] using settled
      | some number =>
          simp only [store, number]
          exact storeByte_congr (settled.imp_right And.right)
  | text offset size value =>
      have same : memory address = other address := settled.resolve_right fun writes => writes.2
      cases isString : json.asCString with
      | none => simpa only [store, isString] using same
      | some string =>
          simp only [store, isString, copyUnbounded]
          exact Memory.write_congr (.inl same)
  | time members flag value =>
      have same : memory address = other address := settled.resolve_right fun writes => writes.2
      cases isString : json.asCString with
      | none => simpa only [store, isString] using same
      | some string =>
          simp only [store, isString]
          exact storeInt_congr (.inl (storeTime_congr same))
  | brokenDownTime offset value =>
      cases read
      cases isString : json.asCString with
      | none => simpa [store, typed, isString] using settled
      | some string =>
          simp only [store, isString]
          exact storeBrokenDown_congr (settled.imp_right And.right)

/-- Two memories agree, after the same assignments, on every byte that one of them writes. -/
theorem execute_congr {assignments : List Assignment}
    (readable : ∀ assignment ∈ assignments, assignment.value.isSome = true)
    (settled : memory address = other address ∨ ∃ assignment ∈ assignments,
      assignment.typed reals = true ∧ assignment.Writes address) :
    (execute reals order copyUnbounded assignments memory).1 address =
      (execute reals order copyUnbounded assignments other).1 address := by
  induction assignments generalizing memory other with
  | nil => simpa [execute] using settled
  | cons assignment rest inductionHypothesis =>
      obtain ⟨json, read⟩ := Option.isSome_iff_exists.mp (readable assignment List.mem_cons_self)
      simp only [execute, read]
      refine inductionHypothesis
        (fun other member => readable other (List.mem_cons_of_mem _ member)) ?_
      rcases settled with same | ⟨writer, member, writes⟩
      · exact .inl (store_congr read (.inl same))
      · rcases List.mem_cons.mp member with rfl | later
        · exact .inl (store_congr read (.inr writes))
        · exact .inr ⟨writer, later, writes⟩

/-- Neither a text nor a time of the white list. -/
def isNumber : Assignment → Bool
  | text _ _ _ => false
  | time _ _ _ => false
  | _ => true

/-- What a number's field holds is what its addresses hold. -/
theorem held_congr {assignment : Assignment} (isNumber : assignment.isNumber = true)
    (agree : ∀ address, assignment.Writes address → memory address = other address) :
    assignment.held memory = assignment.held other := by
  cases assignment with
  | int offset value =>
      exact Memory.bytes_congr fun index below => agree _ ⟨by omega, by omega⟩
  | byte offset value =>
      refine Memory.bytes_congr fun index below => agree _ ?_
      change offset + index = offset
      omega
  | text | time => cases isNumber
  | brokenDownTime offset value =>
      have day : memory.bytes offset 5 = other.bytes offset 5 :=
        Memory.bytes_congr fun index below => agree _ (.inl ⟨by omega, by omega⟩)
      have year : memory.bytes (offset + 8) 4 = other.bytes (offset + 8) 4 :=
        Memory.bytes_congr fun index below => agree _ (.inr ⟨by omega, by omega⟩)
      simp only [held, day, year]

/-- A typed assignment has a value. -/
theorem isSome_value_of_typed {assignment : Assignment}
    (isTyped : assignment.typed reals = true) : assignment.value.isSome = true := by
  cases assignment with
  | int offset value | byte offset value | text offset size value | time members flag value
  | brokenDownTime offset value =>
      cases value with
      | none => cases isTyped
      | some json => rfl

end Assignment

/-- The numbers of a plate are numbers. -/
theorem isNumber_plateNumbers {assignment : Assignment}
    (member : assignment ∈ plateNumbers root) : assignment.isNumber = true := by
  have all : (plateNumbers root).all Assignment.isNumber = true := rfl
  exact List.all_eq_true.mp all assignment member

/-- A text that was copied into two structures. -/
theorem Copied.text_congr {offset size : Nat} {text : Option (List UInt8)}
    (isText : text.isSome = true) {first second after other : Memory}
    (copied : Copied first after offset size text)
    (copiedOther : Copied second other offset size text) :
    after.text? offset size = other.text? offset size := by
  obtain ⟨text, rfl⟩ := Option.isSome_iff_exists.mp isText
  exact (show _ = _ from copied).trans (show _ = _ from copiedOther).symm

/-- A value that is checked is there. -/
theorem isSome_of_any {Value : Type} {value : Option Value} {check : Value → Bool}
    (checked : value.any check = true) : value.isSome = true := by
  cases value with
  | none => cases checked
  | some value => rfl

/-- A text of a plate stands in its value. -/
theorem isSome_path_of_plateText {key : String} (isText : (plateText root key).isSome = true) :
    (root.path ["PlateResult", key]).isSome = true := by
  unfold plateText at isText
  cases read : root.path ["PlateResult", key] with
  | none =>
      rw [read] at isText
      cases isText
  | some json => rfl

namespace PlateComplete

variable (complete : PlateComplete reals root)

include complete

/-- The texts of the plate fit their fields. -/
theorem textsFit : PlateTextsFit root := by
  constructor
  · intro text isText
    have short := complete.license
    rw [isText] at short
    simpa using short
  · intro text isText
    have short := complete.color
    rw [isText] at short
    simpa using short

/-- Everything that is assigned can be read. -/
theorem readable {assignment : Assignment} (member : assignment ∈ plateAssignments root) :
    assignment.value.isSome = true := by
  rw [plateAssignments_eq] at member
  rcases List.mem_cons.mp member with rfl | member
  · exact isSome_path_of_plateText (isSome_of_any complete.license)
  rcases List.mem_cons.mp member with rfl | member
  · exact isSome_path_of_plateText (isSome_of_any complete.color)
  exact Assignment.isSome_value_of_typed (List.all_eq_true.mp complete.numbers assignment member)

/-- What stood in the structure makes no difference to the numbers of the plate. -/
theorem result_congr (first second : PlateOutput) {assignment : Assignment}
    (member : assignment ∈ plateNumbers root) {address : Nat} (writes : assignment.Writes address) :
    (parsePlateResultResponse reals order root first).1.result address =
      (parsePlateResultResponse reals order root second).1.result address := by
  rw [result_parsePlateResultResponse, result_parsePlateResultResponse]
  refine Assignment.execute_congr (fun _ inPlate => complete.readable inPlate) (.inr ?_)
  refine ⟨assignment, ?_, List.all_eq_true.mp complete.numbers assignment member, writes⟩
  rw [plateAssignments_eq]
  exact List.mem_cons_of_mem _ (List.mem_cons_of_mem _ member)

/-- What stood in the structure makes no difference to the plate. -/
theorem plateFields_congr (order : HostOrder) (first second : PlateOutput) :
    plateFields (parsePlateResultResponse reals order root first).1.result =
      plateFields (parsePlateResultResponse reals order root second).1.result := by
  have copies (output : PlateOutput) : PlateCopies reals order root output :=
    (plateCopies_iff reals order root output).mpr complete.textsFit
  have numbers (result : Memory) : (plateNumbers .null).map (·.held result) =
      (plateNumbers root).map (·.held result) := rfl
  have sameNumbers : (plateNumbers root).map
        (·.held (parsePlateResultResponse reals order root first).1.result) =
      (plateNumbers root).map
        (·.held (parsePlateResultResponse reals order root second).1.result) := by
    refine List.map_congr_left fun assignment member => ?_
    refine Assignment.held_congr (isNumber_plateNumbers member) fun address writes => ?_
    exact complete.result_congr first second member writes
  unfold plateFields
  rw [Copied.text_congr (isSome_of_any complete.license) (copies first).license
      (copies second).license,
    Copied.text_congr (isSome_of_any complete.color) (copies first).color (copies second).color,
    numbers, numbers, sameNumbers]

/-- What stood in the structure makes no difference to the kind of the trigger. -/
theorem trigType_congr (order : HostOrder) (first second : PlateOutput) :
    (parsePlateResultResponse reals order root first).1.result.bytes
        PlateResult.uBitsTrigType 4 =
      (parsePlateResultResponse reals order root second).1.result.bytes
        PlateResult.uBitsTrigType 4 := by
  have member : .int PlateResult.uBitsTrigType (root.path ["PlateResult", "triggerType"]) ∈
      plateNumbers root := by
    simp [plateNumbers, plateAssignments]
  refine Memory.bytes_congr fun index below => ?_
  exact complete.result_congr first second member ⟨by omega, by omega⟩

end PlateComplete

end

end VzSdk.Sdk
