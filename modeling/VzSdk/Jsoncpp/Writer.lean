import VzSdk.Jsoncpp.Scanning

/-!
# The JSON writer

`Json::FastWriter` as its constructor leaves it. The members of an object come in
the order of the map. The text a value is written as is that of a phrase, and the
phrase means the value with its numbers as the reader has them (`normal`).
-/

namespace VzSdk.Jsoncpp

open VzSdk.Sdk (Json)
open VzSdk.Std VzSdk.Std.JsonSyntax

/-- The loop of `uintToString`: the digits before those that are written. -/
def uintToString (value : Nat) (current : List UInt8) : List UInt8 :=
  if value / 10 = 0 then .ofNat (value % 10 + 48) :: current
  else uintToString (value / 10) (.ofNat (value % 10 + 48) :: current)
termination_by value
decreasing_by omega

/-- `valueToString` of a signed number. -/
def valueToString (value : Int) : List UInt8 :=
  if value < 0 then 45 :: uintToString value.natAbs [] else uintToString value.natAbs []

/-- The character must be written as an escape. -/
def isControlCharacter (ch : UInt8) : Bool := 0 < ch && ch ≤ 0x1F

/-- A digit as `std::hex` and `std::uppercase` print it. -/
def hexUpper (digit : Nat) : UInt8 := .ofNat (if digit < 10 then 48 + digit else 55 + digit)

/-- What the loop of `valueToQuotedString` appends for a character. -/
def quotedCharacter (c : UInt8) : List UInt8 :=
  if c = 34 then [92, 34]
  else if c = 92 then [92, 92]
  else if c = 8 then [92, 98]
  else if c = 12 then [92, 102]
  else if c = 10 then [92, 110]
  else if c = 13 then [92, 114]
  else if c = 9 then [92, 116]
  else if isControlCharacter c then
    [92, 117, 48, 48, hexUpper (c.toNat / 16), hexUpper (c.toNat % 16)]
  else [c]

/-- `strpbrk` finds one of the characters with an escape of their own. -/
def hasEscape (value : List UInt8) : Bool :=
  value.any fun c => c = 34 || c = 92 || c = 8 || c = 12 || c = 10 || c = 13 || c = 9

/-- `valueToQuotedString` of a C string. -/
def valueToQuotedString (value : List UInt8) : List UInt8 :=
  if !hasEscape value && !value.any isControlCharacter then 34 :: (value ++ [34])
  else 34 :: (value.flatMap quotedCharacter ++ [34])

/-- The bytes of a text. -/
def bytesOf (text : String) : List UInt8 := text.toList.map fun character => .ofNat character.toNat

mutual

/-- What `FastWriter::writeValue` appends to `document_`. -/
def writeValue : Json → List UInt8
  | .null => [110, 117, 108, 108]
  | .int value => valueToString value
  | .uint value => uintToString value []
  | .real text => bytesOf text
  | .string value => valueToQuotedString (Json.cString value)
  | .boolean true => [116, 114, 117, 101]
  | .boolean false => [102, 97, 108, 115, 101]
  | .array elements => 91 :: (writeElements [] elements ++ [93])
  | .object members => 123 :: (writeMembers [] members ++ [125])

/-- The loop over an array; `separator` stands before the first element. -/
def writeElements (separator : List UInt8) : List Json → List UInt8
  | [] => []
  | element :: elements => separator ++ (writeValue element ++ writeElements [44] elements)

/-- The loop over the members in the order of the map. -/
def writeMembers (separator : List UInt8) : List (String × Json) → List UInt8
  | [] => []
  | (name, value) :: members =>
      separator ++ (valueToQuotedString (Json.cString name) ++
        58 :: (writeValue value ++ writeMembers [44] members))

end

/-- `FastWriter::write`. -/
def write (root : Json) : List UInt8 := writeValue root ++ [10]

/-! ## Numbers -/

/-- The loop writes the digits in front of what was written. -/
theorem uintToString_eq (value : Nat) (current : List UInt8) :
    uintToString value current = Decimal.text value ++ current := by
  induction value using Nat.strongRecOn generalizing current with
  | ind value inductionHypothesis =>
      have digit : UInt8.ofNat (value % 10 + 48) = Decimal.digit (value % 10) := by
        rw [Decimal.digit, Nat.add_comm]
      rw [uintToString, digit]
      split
      · next last =>
          have small : value < 10 := by omega
          rw [Nat.mod_eq_of_lt small]
          by_cases zero : value = 0
          · subst zero
            rfl
          · rw [Decimal.text, if_neg zero, Nat.digits_of_lt 10 value zero small]
            rfl
      · next more =>
          rw [inductionHypothesis (value / 10) (by omega), Decimal.text, Decimal.text, if_neg more,
            if_neg (by omega), Nat.digits_def' (by decide) (by omega : 0 < value)]
          simp

/-- The number an integer is written as. -/
def integerNumber (negative : Bool) (magnitude : Nat) : Number :=
  ⟨negative, ⟨Decimal.text magnitude, Decimal.text_ne_nil magnitude,
    fun _ => Decimal.isDigit_of_mem_text⟩, none, none⟩

/-- A number that is written as an integer. -/
theorem text_integerNumber (negative : Bool) (magnitude : Nat) :
    (integerNumber negative magnitude).text =
      (if negative then [45] else []) ++ Decimal.text magnitude :=
  List.append_nil _

/-- That number is read as the integer. -/
theorem integer?_integerNumber (negative : Bool) (magnitude : Nat) :
    (integerNumber negative magnitude).integer? =
      some (if negative then -(magnitude : Int) else magnitude) := by
  simp [integerNumber, Number.integer?, Decimal.value_text]

/-- What an integer comes back as: signed as long as an `int` can hold it. -/
def normalInteger (value : Int) : Json := if value < 2 ^ 31 then .int value else .uint value.toNat

/-- A signed integer is written as a number that means it. -/
theorem exists_number_int (scanDouble : List UInt8 → Option String) {value : Int}
    (low : -2 ^ 63 ≤ value) (high : value < 2 ^ 64) :
    ∃ number : Number, number.text = valueToString value ∧
      numberMeaning scanDouble number = normalInteger value := by
  refine ⟨integerNumber (value < 0) value.natAbs, ?_, ?_⟩
  · rw [text_integerNumber, valueToString]
    by_cases negative : value < 0
    · simp [negative, uintToString_eq]
    · simp [negative, uintToString_eq]
  · have isValue : (if (decide (value < 0)) = true then -(value.natAbs : Int)
        else value.natAbs) = value := by
      split
      · next negative =>
          have := of_decide_eq_true negative
          omega
      · next positive =>
          have : ¬value < 0 := fun negative => positive (decide_eq_true negative)
          omega
    rw [numberMeaning, integer?_integerNumber, isValue]
    exact if_neg (by omega)

/-- An unsigned integer is written as a number that means it. -/
theorem exists_number_uint (scanDouble : List UInt8 → Option String) {value : Nat}
    (high : value < 2 ^ 64) : ∃ number : Number, number.text = uintToString value [] ∧
      numberMeaning scanDouble number = normalInteger value := by
  have low : -2 ^ 63 ≤ (value : Int) := by omega
  obtain ⟨number, isText, isMeaning⟩ := exists_number_int scanDouble low (by omega)
  refine ⟨number, isText.trans ?_, isMeaning⟩
  exact if_neg (by omega)

/-! ## Strings -/

/-- The plain path and the one with escapes agree. -/
theorem valueToQuotedString_eq (value : List UInt8) :
    valueToQuotedString value = 34 :: (value.flatMap quotedCharacter ++ [34]) := by
  unfold valueToQuotedString
  split
  · next plain =>
      rw [Bool.and_eq_true, Bool.not_eq_true', Bool.not_eq_true'] at plain
      have same : value.flatMap quotedCharacter = value := by
        refine (List.flatMap_congr fun c member => ?_).trans (List.flatMap_singleton' value)
        have noEscape := List.any_eq_false.mp plain.1 c member
        have noControl := List.any_eq_false.mp plain.2 c member
        simp only [Bool.or_eq_true, decide_eq_true_eq, not_or] at noEscape
        simp [quotedCharacter, noEscape, noControl]
      rw [same]
  · rfl

/-- Four digits for a control character. -/
theorem hex_control : ∀ n < 32,
    (([48, 48, hexUpper (n / 16), hexUpper (n % 16)] : List UInt8).mapM hexValue).map
        (·.foldl (fun value digit => value * 16 + digit) 0) = some n ∧
      String.utf8EncodeChar (Char.ofNat n) = [UInt8.ofNat n] := by
  decide +kernel

/-- A character is written as a piece of a string that stands for it. -/
theorem exists_piece {c : UInt8} (nonzero : c ≠ 0) :
    ∃ piece : Piece, piece.text = quotedCharacter c ∧ piece.bytes = [c] := by
  by_cases escaped : ∃ letter, (letter, c) ∈ escapes ∧ quotedCharacter c = [92, letter]
  · obtain ⟨letter, known, isText⟩ := escaped
    exact ⟨.escape letter c known, isText.symm, rfl⟩
  · have other : ∀ letter byte : UInt8, (letter, byte) ∈ escapes →
        quotedCharacter byte = [92, letter] → ¬c = byte := by
      rintro letter byte known isText rfl
      exact escaped ⟨letter, known, isText⟩
    have rest : quotedCharacter c = if isControlCharacter c then
        [92, 117, 48, 48, hexUpper (c.toNat / 16), hexUpper (c.toNat % 16)] else [c] := by
      rw [quotedCharacter, if_neg (other 34 34 (by decide) rfl),
        if_neg (other 92 92 (by decide) rfl), if_neg (other 98 8 (by decide) rfl),
        if_neg (other 102 12 (by decide) rfl), if_neg (other 110 10 (by decide) rfl),
        if_neg (other 114 13 (by decide) rfl), if_neg (other 116 9 (by decide) rfl)]
    by_cases control : isControlCharacter c
    · have small : c.toNat < 32 := by
        simp only [isControlCharacter, Bool.and_eq_true, decide_eq_true_eq,
          UInt8.le_iff_toNat_le, UInt8.reduceToNat] at control
        omega
      obtain ⟨reads, encoded⟩ := hex_control c.toNat small
      refine ⟨.unicode ⟨_, rfl, c.toNat, reads⟩ (.inl (Nat.lt_trans small (by decide))), ?_, ?_⟩
      · rw [rest, if_pos control]
        rfl
      · rw [Piece.bytes, encoded, UInt8.ofNat_toNat]
    · have printable : 32 ≤ c := by
        have positive : c.toNat ≠ 0 := fun zero => nonzero (UInt8.toNat_inj.mp zero)
        simp only [isControlCharacter, Bool.and_eq_true, decide_eq_true_eq, UInt8.lt_iff_toNat_lt,
          UInt8.le_iff_toNat_le, UInt8.reduceToNat, not_and] at control ⊢
        omega
      refine ⟨.plain c printable ⟨other 34 34 (by decide) rfl, other 92 92 (by decide) rfl⟩, ?_, rfl⟩
      rw [rest, if_neg control]
      rfl

/-- A C string is written as a text that stands for it. -/
theorem exists_text {value : List UInt8} (nonzero : ∀ byte ∈ value, byte ≠ 0) :
    ∃ text : Text, Text.text text = valueToQuotedString value ∧ Text.bytes text = value := by
  rw [valueToQuotedString_eq]
  induction value with
  | nil => exact ⟨[], rfl, rfl⟩
  | cons c value inductionHypothesis =>
      obtain ⟨first, later⟩ := List.forall_mem_cons.mp nonzero
      obtain ⟨piece, isText, isByte⟩ := exists_piece first
      obtain ⟨text, isRest, areBytes⟩ := inductionHypothesis later
      refine ⟨piece :: text, ?_, ?_⟩
      · simp only [Text.text, Text.inner, List.flatMap_cons, isText, List.append_assoc,
          List.cons.injEq, true_and] at isRest ⊢
        rw [isRest]
      · simp only [Text.bytes, List.flatMap_cons, isByte] at areBytes ⊢
        rw [areBytes]
        rfl

end VzSdk.Jsoncpp
