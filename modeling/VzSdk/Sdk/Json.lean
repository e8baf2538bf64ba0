import Mathlib.Algebra.Group.Int.Defs
import Mathlib.Algebra.Group.Nat.Defs

/-!
# JSON values

The values of the JSON library as far as the SDK reads them. An access the
library answers with a failure is `none`: a member of a value that is neither an
object nor null, an element of one that is neither an array nor null, the text of
an array or an object, a number that does not fit. A text is the sequence of its
bytes, one for each character.
-/

namespace VzSdk.Sdk

/-- A value of the JSON library. -/
inductive Json where
  | null
  | int (value : Int)
  | uint (value : Nat)
  /-- A real number, by the text the library prints for it. -/
  | real (text : String)
  | string (value : String)
  | boolean (value : Bool)
  | array (elements : List Json)
  | object (members : List (String × Json))

namespace Json

/-- The value is null. -/
def isNull : Json → Bool
  | null => true
  | _ => false

/-- The value is an object. -/
def isObject : Json → Bool
  | object _ => true
  | _ => false

/-- The value is a string. -/
def isString : Json → Bool
  | string _ => true
  | _ => false

/-- The key `operator[]`: a missing member reads as null. -/
def member (json : Json) (key : String) : Option Json :=
  match json with
  | null => some null
  | object members => some ((members.lookup key).getD null)
  | _ => none

/-- The member, and null for a value without members. -/
def get (json : Json) (key : String) : Json := (json.member key).getD null

/-- The index `operator[]`: a missing element reads as null. -/
def element (json : Json) (index : Nat) : Option Json :=
  match json with
  | null => some null
  | array elements => some (elements[index]?.getD null)
  | _ => none

/-- How many elements or members the value has. -/
def size : Json → UInt32
  | array elements => .ofNat elements.length
  | object members => .ofNat members.length
  | _ => 0

/-- The value as a text; an array or an object has none. -/
def asString : Json → Option String
  | null => some ""
  | int value => some (toString value)
  | uint value => some (toString value)
  | real text => some text
  | string value => some value
  | boolean true => some "true"
  | boolean false => some "false"
  | array _ => none
  | object _ => none

/-- The bytes of a text up to its first NUL. -/
def cString (text : String) : List UInt8 :=
  (text.toList.map fun character => UInt8.ofNat character.toNat).takeWhile (· ≠ 0)

/-- `asCString`, which only a string has. -/
def asCString : Json → Option (List UInt8)
  | string value => some (cString value)
  | _ => none

/-- What the library converts real numbers to, by the texts it prints for them. -/
structure Reals where
  /-- `asInt` of a number for which `isInt` holds. -/
  int? : String → Option Int32
  /-- `asUInt`. -/
  uint? : String → Option UInt32

/-- `asInt` of a value for which `isInt` holds. -/
def int? (reals : Reals) : Json → Option Int32
  | int value => if -2 ^ 31 ≤ value ∧ value < 2 ^ 31 then some (.ofInt value) else none
  | uint value => if value < 2 ^ 31 then some (.ofNat value) else none
  | real text => reals.int? text
  | _ => none

/-- The value as an unsigned number, where it can be read as one. -/
def asUInt (reals : Reals) : Json → Option UInt32
  | null => some 0
  | int value => if 0 ≤ value ∧ value < 2 ^ 32 then some (.ofNat value.toNat) else none
  | uint value => if value < 2 ^ 32 then some (.ofNat value) else none
  | real text => reals.uint? text
  | boolean value => some (if value then 1 else 0)
  | string _ => none
  | array _ => none
  | object _ => none

/-- Only a string has a C string. -/
theorem isSome_asCString (json : Json) : json.asCString.isSome = json.isString := by
  cases json <;> rfl

/-- The value is one whose members can be asked for. -/
def isKeyed (json : Json) : Bool := json.isNull || json.isObject

/-- A member is read of an object or of null. -/
theorem member_eq_none_iff (json : Json) (key : String) :
    json.member key = none ↔ json.isKeyed = false := by
  cases json <;> simp [member, isKeyed, isNull, isObject]

/-- The member of a value that has members. -/
theorem member_eq_some {json : Json} (keyed : json.isKeyed = true) (key : String) :
    json.member key = some (json.get key) := by
  cases found : json.member key with
  | some value => simp [get, found]
  | none => simp [(member_eq_none_iff json key).mp found] at keyed

/-- A C string holds no NUL. -/
theorem zero_not_mem_cString (text : String) : ∀ byte ∈ cString text, byte ≠ 0 := by
  intro byte member
  simpa using List.all_eq_true.mp List.all_takeWhile byte member

/-- Nor does the C string of a value. -/
theorem zero_not_mem_of_asCString {json : Json} {text : List UInt8}
    (read : json.asCString = some text) : ∀ byte ∈ text, byte ≠ 0 := by
  cases json with
  | string value =>
      cases read
      exact zero_not_mem_cString value
  | null | int | uint | real | boolean | array | object => cases read

end Json

/-- `JSON_REQ_CMD`. -/
def jsonReqCmd : String := "cmd"

/-- `json[JSON_REQ_CMD].asString()`. -/
def Json.cmd (json : Json) : Option String := (json.member jsonReqCmd).bind asString

end VzSdk.Sdk
