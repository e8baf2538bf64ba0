import VzSdk.Std.Decimal

/-!
# JSON texts

The grammar of JSON as syntax trees. A phrase holds everything a text can choose:
the white space, the escapes of a string, the form of a number. `Phrase.text` is
its text and `Phrase.eval` what it says, for any meaning of the kinds of values.
Beyond the standard a gap may hold comments, and a number may have zeros in front:
the phrases without them have the standard texts.
-/

namespace VzSdk.Std.JsonSyntax

open VzSdk.Std

universe u

/-! ## Between the tokens -/

/-- The white space of JSON. -/
def isSpace (byte : UInt8) : Bool := byte == 32 || byte == 9 || byte == 13 || byte == 10

/-- A line feed or a carriage return. -/
def isBreak (byte : UInt8) : Bool := byte == 13 || byte == 10

/-- A run of white space. -/
structure Spaces where
  text : List UInt8
  areSpaces : ∀ byte ∈ text, isSpace byte = true

/-- No space. -/
def Spaces.none : Spaces := ⟨[], List.forall_mem_nil _⟩

/-- One space. -/
def Spaces.one (byte : UInt8) (isSpace : isSpace byte = true) : Spaces :=
  ⟨[byte], List.forall_mem_singleton.mpr isSpace⟩

/-- White space or a comment. -/
inductive Blank where
  | spaces (spaces : Spaces)
  /-- Between `/*` and the first `*/` behind it. -/
  | block (body : List UInt8) (first : ¬[42, 47] <:+: body ++ [42])
  /-- From `//` to the end of the line. -/
  | line (body : List UInt8) (ending : UInt8) (inLine : ∀ byte ∈ body, isBreak byte = false)
      (ends : isBreak ending = true)

/-- A comment is between its marks. -/
def Blank.text : Blank → List UInt8
  | .spaces blank => blank.text
  | .block body _ => 47 :: 42 :: (body ++ [42, 47])
  | .line body ending _ _ => 47 :: 47 :: (body ++ [ending])

/-- What may stand between two tokens. -/
abbrev Gap := List Blank

/-- The text of a gap is that of its blanks. -/
def Gap.text (gap : Gap) : List UInt8 := gap.flatMap Blank.text

/-- An empty gap has no text. -/
@[simp] theorem Gap.text_nil : Gap.text [] = [] := rfl

/-- A gap begins with its first blank. -/
@[simp] theorem Gap.text_cons (blank : Blank) (gap : Gap) :
    Gap.text (blank :: gap) = blank.text ++ Gap.text gap := by
  simp [Gap.text]

/-- Two gaps in a row are one. -/
@[simp] theorem Gap.text_append (first second : Gap) :
    Gap.text (first ++ second) = first.text ++ second.text := by
  simp [Gap.text]

/-- A gap begins with white space or a slash. -/
theorem Gap.head_text {gap : Gap} {byte : UInt8} {rest : List UInt8}
    (first : gap.text = byte :: rest) : isSpace byte = true ∨ byte = 47 := by
  induction gap with
  | nil => cases first
  | cons blank gap inductionHypothesis =>
      rw [text_cons] at first
      cases blank with
      | spaces blank =>
          obtain ⟨text, areSpaces⟩ := blank
          cases text with
          | nil => exact inductionHypothesis first
          | cons head tail =>
              cases first
              exact .inl (areSpaces _ List.mem_cons_self)
      | block | line =>
          cases first
          exact .inr rfl

/-! ## Strings -/

/-- What a letter behind a backslash stands for. -/
def escapes : List (UInt8 × UInt8) :=
  [(34, 34), (92, 92), (47, 47), (98, 8), (102, 12), (110, 10), (114, 13), (116, 9)]

/-- The value of a hexadecimal digit, in either case. -/
def hexValue (byte : UInt8) : Option Nat :=
  if 48 ≤ byte ∧ byte ≤ 57 then some (byte.toNat - 48)
  else if 97 ≤ byte ∧ byte ≤ 102 then some (byte.toNat - 87)
  else if 65 ≤ byte ∧ byte ≤ 70 then some (byte.toNat - 55)
  else none

/-- A hexadecimal digit is below sixteen. -/
theorem hexValue_lt {byte : UInt8} {value : Nat} (hex : hexValue byte = some value) :
    value < 16 := by
  unfold hexValue at hex
  simp only [UInt8.le_iff_toNat_le, UInt8.reduceToNat] at hex
  split at hex
  · cases hex
    omega
  · split at hex
    · cases hex
      omega
    · split at hex
      · cases hex
        omega
      · cases hex

/-- Four hexadecimal digits. -/
structure Hex4 where
  digits : List UInt8
  four : digits.length = 4
  value : Nat
  reads : (digits.mapM hexValue).map (·.foldl (fun value digit => value * 16 + digit) 0) =
    some value

namespace Hex4

/-- Four hexadecimal digits make a 16-bit number. -/
theorem value_lt (hex : Hex4) : hex.value < 0x10000 := by
  obtain ⟨digits, four, value, reads⟩ := hex
  obtain ⟨first, second, third, fourth, rfl⟩ := List.length_eq_four.mp four
  obtain ⟨values, areValues, isValue⟩ := Option.map_eq_some_iff.mp reads
  simp only [List.mapM_cons, List.mapM_nil, Option.pure_def, Option.bind_eq_bind,
    Option.bind_eq_some_iff, Option.some.injEq] at areValues
  obtain ⟨_, first, _, ⟨_, second, _, ⟨_, third, _, ⟨_, fourth, _, rfl, rfl⟩, rfl⟩, rfl⟩, rfl⟩ :=
    areValues
  have bounds := And.intro (And.intro (hexValue_lt first) (hexValue_lt second))
    (And.intro (hexValue_lt third) (hexValue_lt fourth))
  simp only [List.foldl_cons, List.foldl_nil] at isValue
  change value < 0x10000
  omega

end Hex4

/-- A part of a string. -/
inductive Piece where
  | plain (byte : UInt8) (printable : 32 ≤ byte) (free : byte ≠ 34 ∧ byte ≠ 92)
  | escape (letter byte : UInt8) (known : (letter, byte) ∈ escapes)
  /-- A character by its number. -/
  | unicode (hex : Hex4) (scalar : hex.value < 0xD800 ∨ 0xDFFF < hex.value)
  /-- A character by two surrogates. -/
  | pair (high low : Hex4) (isHigh : 0xD800 ≤ high.value ∧ high.value ≤ 0xDBFF)
      (isLow : 0xDC00 ≤ low.value ∧ low.value ≤ 0xDFFF)

namespace Piece

/-- A piece of a string in its own form. -/
def text : Piece → List UInt8
  | plain byte _ _ => [byte]
  | escape letter _ _ => [92, letter]
  | unicode hex _ => 92 :: 117 :: hex.digits
  | pair high low _ _ => 92 :: 117 :: (high.digits ++ 92 :: 117 :: low.digits)

/-- The bytes it stands for, a character in UTF-8. -/
def bytes : Piece → List UInt8
  | plain byte _ _ => [byte]
  | escape _ byte _ => [byte]
  | unicode hex _ => String.utf8EncodeChar (Char.ofNat hex.value)
  | pair high low _ _ => String.utf8EncodeChar
      (Char.ofNat (0x10000 + (high.value - 0xD800) * 0x400 + (low.value - 0xDC00)))

end Piece

/-- A string is written piece by piece. -/
abbrev Text := List Piece

namespace Text

/-- What stands between the quotes. -/
def inner (text : Text) : List UInt8 := text.flatMap Piece.text

/-- A string between its quotes. -/
def text (text : Text) : List UInt8 := 34 :: (text.inner ++ [34])

/-- The bytes that the string stands for. -/
def bytes (text : Text) : List UInt8 := text.flatMap Piece.bytes

end Text

/-! ## Numbers -/

/-- One or more digits. -/
structure Digits where
  text : List UInt8
  some : text ≠ []
  areDigits : ∀ byte ∈ text, Decimal.isDigit byte = true

/-- A single digit. -/
def Digits.one (byte : UInt8) (isDigit : Decimal.isDigit byte = true) : Digits :=
  ⟨[byte], List.cons_ne_nil _ _, List.forall_mem_singleton.mpr isDigit⟩

/-- The exponent of a number. -/
structure Exponent where
  mark : UInt8
  isMark : mark = 101 ∨ mark = 69
  sign : List UInt8
  isSign : sign = [] ∨ sign = [43] ∨ sign = [45]
  digits : Digits

/-- A number. JSON allows no zeros in front of other digits, and readers mostly take them. -/
structure Number where
  negative : Bool
  whole : Digits
  fraction : Option Digits
  exponent : Option Exponent

namespace Number

/-- A fraction is behind its point. -/
def fractionText : Option Digits → List UInt8
  | none => []
  | some digits => 46 :: digits.text

/-- An exponent is behind its mark. -/
def exponentText : Option Exponent → List UInt8
  | none => []
  | some exponent => exponent.mark :: (exponent.sign ++ exponent.digits.text)

/-- The text of a number. -/
def text (number : Number) : List UInt8 :=
  (if number.negative then [45] else []) ++ number.whole.text ++
    (fractionText number.fraction ++ exponentText number.exponent)

/-- The number of a text without a fraction and an exponent. -/
def integer? (number : Number) : Option Int :=
  if number.fraction.isNone ∧ number.exponent.isNone then
    some (if number.negative then -Decimal.value number.whole.text
      else Decimal.value number.whole.text)
  else none

end Number

/-! ## Values -/

mutual

/-- The syntax trees of values, with everything that the text of a value can choose. -/
inductive Phrase where
  | null
  | boolean (value : Bool)
  | number (number : Number)
  | string (text : Text)
  | array (blank : Spaces) (elements : Elements)
  | object (blank : Gap) (members : Members)

/-- The elements of an array, with the gaps around them. -/
inductive Elements where
  | nil
  | cons (before : Gap) (element : Phrase) (after : Gap) (rest : Elements)

/-- The members of an object, with the gaps around them. -/
inductive Members where
  | nil
  | cons (before : Gap) (name : Text) (between : Spaces) (gap : Gap) (value : Phrase) (after : Gap)
      (rest : Members)

end

mutual

/-- The text of a value. -/
def Phrase.text : Phrase → List UInt8
  | .null => [110, 117, 108, 108]
  | .boolean true => [116, 114, 117, 101]
  | .boolean false => [102, 97, 108, 115, 101]
  | .number number => number.text
  | .string text => text.text
  | .array blank elements => 91 :: (blank.text ++ (elements.text [] ++ [93]))
  | .object blank members => 123 :: (blank.text ++ (members.text [] ++ [125]))

/-- The elements, `lead` before the first and a comma before every other. -/
def Elements.text (lead : List UInt8) : Elements → List UInt8
  | .nil => []
  | .cons before element after rest =>
      lead ++ (before.text ++ (element.text ++ (after.text ++ rest.text [44])))

/-- The members are behind `lead`, and then behind commas. -/
def Members.text (lead : List UInt8) : Members → List UInt8
  | .nil => []
  | .cons before name between gap value after rest =>
      lead ++ (before.text ++ (name.text ++ (between.text ++
        58 :: (gap.text ++ (value.text ++ (after.text ++ rest.text [44]))))))

end

/-- The elements themselves. -/
def Elements.parts : Elements → List Phrase
  | .nil => []
  | .cons _ element _ rest => element :: rest.parts

/-- The values of the members. -/
def Members.parts : Members → List Phrase
  | .nil => []
  | .cons _ _ _ _ value _ rest => value :: rest.parts

/-- The cases of an induction over phrases: an array or an object from all its parts. -/
structure Hereditary (motive : Phrase → Prop) : Prop where
  null : motive .null
  boolean : ∀ value, motive (.boolean value)
  number : ∀ number, motive (.number number)
  string : ∀ text, motive (.string text)
  array : ∀ blank elements, (∀ phrase ∈ elements.parts, motive phrase) →
    motive (.array blank elements)
  object : ∀ blank members, (∀ phrase ∈ members.parts, motive phrase) →
    motive (.object blank members)

namespace Hereditary

variable {motive : Phrase → Prop}

mutual

/-- What is hereditary holds of every value. -/
theorem phrase (hereditary : Hereditary motive) : ∀ phrase, motive phrase
  | .null => hereditary.null
  | .boolean value => hereditary.boolean value
  | .number number => hereditary.number number
  | .string text => hereditary.string text
  | .array blank elements => hereditary.array blank elements (hereditary.elements_parts elements)
  | .object blank members => hereditary.object blank members (hereditary.members_parts members)

/-- What is hereditary holds of every element. -/
theorem elements_parts (hereditary : Hereditary motive) :
    ∀ elements : Elements, ∀ phrase ∈ elements.parts, motive phrase
  | .nil => List.forall_mem_nil _
  | .cons _ element _ rest =>
      List.forall_mem_cons.mpr ⟨hereditary.phrase element, hereditary.elements_parts rest⟩

/-- What is hereditary holds of every member. -/
theorem members_parts (hereditary : Hereditary motive) :
    ∀ members : Members, ∀ phrase ∈ members.parts, motive phrase
  | .nil => List.forall_mem_nil _
  | .cons _ _ _ _ value _ rest =>
      List.forall_mem_cons.mpr ⟨hereditary.phrase value, hereditary.members_parts rest⟩

end

end Hereditary

/-- What to make of each kind of value. -/
structure Meaning (α : Type u) where
  null : α
  boolean : Bool → α
  number : Number → α
  string : List UInt8 → α
  array : List α → α
  object : List (List UInt8 × α) → α

mutual

/-- What a value says. -/
def Phrase.eval {α : Type u} (meaning : Meaning α) : Phrase → α
  | .null => meaning.null
  | .boolean value => meaning.boolean value
  | .number number => meaning.number number
  | .string text => meaning.string text.bytes
  | .array _ elements => meaning.array (elements.eval meaning)
  | .object _ members => meaning.object (members.eval meaning)

/-- What the elements say, in order. -/
def Elements.eval {α : Type u} (meaning : Meaning α) : Elements → List α
  | .nil => []
  | .cons _ element _ rest => element.eval meaning :: rest.eval meaning

/-- The members in the order of the text. -/
def Members.eval {α : Type u} (meaning : Meaning α) : Members → List (List UInt8 × α)
  | .nil => []
  | .cons _ name _ _ value _ rest => (name.bytes, value.eval meaning) :: rest.eval meaning

end

end VzSdk.Std.JsonSyntax
