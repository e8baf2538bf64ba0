import VzSdk.Sdk.Json

/-!
# The tokens of the JSON reader

What `Json::Reader` takes for a token, and what it decodes a number and a string
to. A location is what stands from it to the end of the document. A real number
is the text the library prints for it, and what `sscanf` reads is a parameter.
-/

namespace VzSdk.Jsoncpp

open VzSdk.Sdk (Json)

/-- A place in the document, by what is behind it. -/
abbrev Location := List UInt8

/-- `TokenType`. -/
inductive TokenType where
  | tokenEndOfStream
  | tokenObjectBegin
  | tokenObjectEnd
  | tokenArrayBegin
  | tokenArrayEnd
  | tokenString
  | tokenNumber
  | tokenTrue
  | tokenFalse
  | tokenNull
  | tokenArraySeparator
  | tokenMemberSeparator
  | tokenComment
  | tokenError
deriving DecidableEq, Repr

/-- `Token`. -/
structure Token where
  type : TokenType
  /-- `start_`. -/
  start : Location
  /-- `end_`. -/
  stop : Location

/-- `std::string(token.start_, token.end_)`. -/
def Token.text (token : Token) : List UInt8 :=
  token.start.take (token.start.length - token.stop.length)

/-- `ErrorInfo`. -/
structure ErrorInfo where
  token : Token
  message : String
  extra : Option Location

/-- A text from its bytes. -/
def textOf (bytes : List UInt8) : String := .ofList (bytes.map fun byte => .ofNat byte.toNat)

/-- `std::string::c_str` of a text that is used up to its first NUL. -/
def cText (bytes : List UInt8) : String := textOf (bytes.takeWhile (· ≠ 0))

/-! ## Tokens -/

/-- The white space that `skipSpaces` skips. -/
def isSpace (c : UInt8) : Bool := c = 32 || c = 9 || c = 13 || c = 10

/-- `skipSpaces`. -/
def skipSpaces (current : Location) : Location := current.dropWhile isSpace

/-- `match`. -/
def matchPattern (pattern : List UInt8) (current : Location) : Bool × Location :=
  if pattern.isPrefixOf current then (true, current.drop pattern.length) else (false, current)

/-- At the end the last `getNextChar` answers 0, whatever the dereference before it found. -/
def readCStyleComment : Location → Bool × Location
  | [] => (false, [])
  | 42 :: 47 :: rest => (true, rest)
  | _ :: rest => readCStyleComment rest

/-- `readCppStyleComment`. -/
def readCppStyleComment : Location → Location
  | [] => []
  | c :: rest => if c = 13 ∨ c = 10 then rest else readCppStyleComment rest

/-- `readComment`. -/
def readComment : Location → Bool × Location
  | [] => (false, [])
  | c :: rest =>
      if c = 42 then readCStyleComment rest
      else if c = 47 then (true, readCppStyleComment rest)
      else (false, rest)

/-- The characters that `readNumber` takes. -/
def isNumberChar (c : UInt8) : Bool :=
  (48 ≤ c && c ≤ 57) || c = 46 || c = 101 || c = 69 || c = 43 || c = 45

/-- `readNumber`. -/
def readNumber (current : Location) : Location := current.dropWhile isNumberChar

/-- Behind a backslash one more character is taken, whatever it is. -/
def readString : Location → Bool × Location
  | [] => (false, [])
  | 92 :: [] => (false, [])
  | 92 :: _ :: rest => readString rest
  | c :: rest => if c = 34 then (true, rest) else readString rest

/-- A token that was not read to its end is an error. -/
def checked (type : TokenType) (answer : Bool × Location) : TokenType × Location :=
  (if answer.1 then type else .tokenError, answer.2)

/-- The `switch` of `readToken` on the character at the start of the token. -/
def scanToken : Location → TokenType × Location
  | [] => (.tokenEndOfStream, [])
  | c :: rest =>
      if c = 123 then (.tokenObjectBegin, rest)
      else if c = 125 then (.tokenObjectEnd, rest)
      else if c = 91 then (.tokenArrayBegin, rest)
      else if c = 93 then (.tokenArrayEnd, rest)
      else if c = 34 then checked .tokenString (readString rest)
      else if c = 47 then checked .tokenComment (readComment rest)
      else if (48 ≤ c ∧ c ≤ 57) ∨ c = 45 then (.tokenNumber, readNumber rest)
      else if c = 116 then checked .tokenTrue (matchPattern [114, 117, 101] rest)
      else if c = 102 then checked .tokenFalse (matchPattern [97, 108, 115, 101] rest)
      else if c = 110 then checked .tokenNull (matchPattern [117, 108, 108] rest)
      else if c = 44 then (.tokenArraySeparator, rest)
      else if c = 58 then (.tokenMemberSeparator, rest)
      else if c = 0 then (.tokenEndOfStream, rest)
      else (.tokenError, rest)

/-- `readToken`, which always answers true. -/
def readToken (current : Location) : Token :=
  let start := skipSpaces current
  let scanned := scanToken start
  ⟨scanned.1, start, scanned.2⟩

/-! ### What a token takes -/

/-- Skipping goes forwards. -/
theorem length_skipSpaces (current : Location) : (skipSpaces current).length ≤ current.length :=
  (List.dropWhile_suffix isSpace).length_le

/-- Matching goes forwards. -/
theorem matchPattern_suffix (pattern : List UInt8) (current : Location) :
    (matchPattern pattern current).2 <:+ current := by
  unfold matchPattern
  split
  · exact List.drop_suffix _ _
  · exact List.suffix_refl _

/-- Reading a block comment goes forwards. -/
theorem readCStyleComment_suffix (current : Location) :
    (readCStyleComment current).2 <:+ current := by
  fun_induction readCStyleComment current with
  | case1 => exact List.suffix_refl _
  | case2 rest => exact ⟨[42, 47], rfl⟩
  | case3 c rest _ inductionHypothesis => exact inductionHypothesis.trans (List.suffix_cons c rest)

/-- Reading a line comment goes forwards. -/
theorem readCppStyleComment_suffix (current : Location) :
    readCppStyleComment current <:+ current := by
  induction current with
  | nil => exact List.suffix_refl _
  | cons c rest inductionHypothesis =>
      unfold readCppStyleComment
      split
      · exact List.suffix_cons c rest
      · exact inductionHypothesis.trans (List.suffix_cons c rest)

/-- Reading a comment goes forwards. -/
theorem readComment_suffix (current : Location) : (readComment current).2 <:+ current := by
  cases current with
  | nil => exact List.suffix_refl _
  | cons c rest =>
      refine List.IsSuffix.trans ?_ (List.suffix_cons c rest)
      rw [readComment]
      split
      · exact readCStyleComment_suffix rest
      · split
        · exact readCppStyleComment_suffix rest
        · exact List.suffix_refl rest

/-- Reading a string goes forwards. -/
theorem readString_suffix (current : Location) : (readString current).2 <:+ current := by
  fun_induction readString current with
  | case1 => exact List.suffix_refl _
  | case2 => exact List.nil_suffix
  | case3 c rest inductionHypothesis =>
      exact inductionHypothesis.trans ⟨[92, c], rfl⟩
  | case4 c rest => exact List.suffix_cons _ _
  | case5 c rest _ _ _ inductionHypothesis =>
      exact inductionHypothesis.trans (List.suffix_cons c rest)

/-- Both branches go forwards. -/
theorem suffix_ite {condition : Prop} [Decidable condition] {first second : TokenType × Location}
    {current : Location} (inFirst : first.2 <:+ current) (inSecond : second.2 <:+ current) :
    (if condition then first else second).2 <:+ current := by
  split
  · exact inFirst
  · exact inSecond

/-- A token takes at least its first character. -/
theorem scanToken_suffix (c : UInt8) (rest : Location) : (scanToken (c :: rest)).2 <:+ rest := by
  rw [scanToken]
  repeat' apply suffix_ite
  all_goals first
    | exact List.suffix_refl rest
    | exact readString_suffix rest
    | exact readComment_suffix rest
    | exact List.dropWhile_suffix isNumberChar
    | exact matchPattern_suffix _ rest

/-- Spaces are skipped forwards. -/
theorem skipSpaces_suffix (current : Location) : skipSpaces current <:+ current :=
  List.dropWhile_suffix isSpace

/-- A token starts in what is left. -/
theorem readToken_start_suffix (current : Location) : (readToken current).start <:+ current :=
  skipSpaces_suffix current

/-- A token ends behind its start. -/
theorem readToken_stop_suffix (current : Location) :
    (readToken current).stop <:+ (readToken current).start := by
  change (scanToken (skipSpaces current)).2 <:+ skipSpaces current
  cases skipSpaces current with
  | nil => exact List.suffix_refl _
  | cons c rest => exact (scanToken_suffix c rest).trans (List.suffix_cons c rest)

/-- Only the end of the stream takes nothing. -/
theorem length_stop_lt {current : Location}
    (more : (readToken current).type ≠ .tokenEndOfStream) :
    (readToken current).stop.length < current.length := by
  have whole := length_skipSpaces current
  change (scanToken (skipSpaces current)).1 ≠ _ at more
  change (scanToken (skipSpaces current)).2.length < _
  cases start : skipSpaces current with
  | nil =>
      rw [start] at more
      exact absurd rfl more
  | cons c rest =>
      rw [start, List.length_cons] at whole
      exact Nat.lt_of_lt_of_le (Nat.lt_succ_of_le (scanToken_suffix c rest).length_le) whole

/-! ## Passing over tokens -/

/-- `skipCommentTokens`, and the loops of `readObject` and `readArray` over comments. -/
def skipCommentTokens (current : Location) : Token :=
  let token := readToken current
  if _comment : token.type = .tokenComment then skipCommentTokens token.stop else token
termination_by current.length
decreasing_by exact length_stop_lt (by rw [_comment]; decide)

/-- The loop of `recoverFromError`. -/
def skipUntil (skipUntilToken : TokenType) (current : Location) : Location :=
  let skip := readToken current
  if _stopped : skip.type = skipUntilToken ∨ skip.type = .tokenEndOfStream then skip.stop
  else skipUntil skipUntilToken skip.stop
termination_by current.length
decreasing_by exact length_stop_lt fun ended => _stopped (.inr ended)

/-! ## Numbers -/

/-- `maxIntegerValue`: the bound of the magnitude. -/
def maxIntegerValue (isNegative : Bool) : Nat := if isNegative then 2 ^ 63 else 2 ^ 64 - 1

/-- `Value::maxInt`. -/
def maxInt : Nat := 2 ^ 31 - 1

/-- What the digits of a number amount to. -/
inductive Digits where
  | integer (value : Nat)
  /-- Too many for an integer. -/
  | double
  | notANumber
deriving DecidableEq, Repr

/-- The loop of `decodeNumber` from `current` to the end of the token. -/
def decodeDigits (maxIntegerValue : Nat) (value : Nat) : List UInt8 → Digits
  | [] => .integer value
  | c :: current =>
      if c < 48 ∨ 57 < c then .notANumber
      else
        let threshold := maxIntegerValue / 10
        let digit := c.toNat - 48
        if threshold ≤ value ∧
            (threshold < value ∨ current ≠ [] ∨ maxIntegerValue % 10 < digit) then .double
        else decodeDigits maxIntegerValue (value * 10 + digit) current

/-- Whether `decodeNumber` takes the token for a double. -/
def isDouble : List UInt8 → Bool
  | [] => false
  | first :: rest =>
      (first = 46 || first = 101 || first = 69 || first = 43) ||
        rest.any fun c => c = 46 || c = 101 || c = 69 || c = 43 || c = 45

/-- The error of `decodeNumber` and `decodeDouble`. -/
def notANumber (token : Token) : ErrorInfo :=
  ⟨token, "'" ++ textOf token.text ++ "' is not a number.", none⟩

/-- `decodeDouble`. The length is an `int`. -/
def decodeDouble (scanDouble : List UInt8 → Option String) (token : Token) :
    Except ErrorInfo Json :=
  if (BitVec.ofNat 32 (token.start.length - token.stop.length)).toInt < 0 then
    .error ⟨token, "Unable to parse token length", none⟩
  else
    match scanDouble token.text with
    | none => .error (notANumber token)
    | some value => .ok (.real value)

/-- The value of the digits, where `LargestInt` wraps at its least number. -/
def integerValue (isNegative : Bool) (value : Nat) : Json :=
  if isNegative then .int (-value)
  else if value ≤ maxInt then .int value
  else .uint value

/-- `decodeNumber`. -/
def decodeNumber (scanDouble : List UInt8 → Option String) (token : Token) :
    Except ErrorInfo Json :=
  if isDouble token.text then decodeDouble scanDouble token
  else
    let isNegative := token.text.head? == some 45
    let digits := if isNegative then token.text.tail else token.text
    match decodeDigits (maxIntegerValue isNegative) 0 digits with
    | .integer value => .ok (integerValue isNegative value)
    | .double => decodeDouble scanDouble token
    | .notANumber => .error (notANumber token)

/-! ## Strings -/

/-- `codePointToUTF8`. -/
def codePointToUTF8 (cp : Nat) : List UInt8 :=
  if cp ≤ 0x7f then [.ofNat cp]
  else if cp ≤ 0x7FF then [.ofNat (0xC0 ||| (0x1f &&& (cp >>> 6))), .ofNat (0x80 ||| (0x3f &&& cp))]
  else if cp ≤ 0xFFFF then
    [.ofNat (0xE0 ||| (0xf &&& (cp >>> 12))), .ofNat (0x80 ||| (0x3f &&& (cp >>> 6))),
      .ofNat (0x80 ||| (0x3f &&& cp))]
  else if cp ≤ 0x10FFFF then
    [.ofNat (0xF0 ||| (0x7 &&& (cp >>> 18))), .ofNat (0x80 ||| (0x3f &&& (cp >>> 12))),
      .ofNat (0x80 ||| (0x3f &&& (cp >>> 6))), .ofNat (0x80 ||| (0x3f &&& cp))]
  else []

/-- The location in a string token behind which `current` and the closing quote stand. -/
def Token.inside (token : Token) (current : List UInt8) : Location :=
  token.start.drop (token.start.length - (current.length + 1 + token.stop.length))

/-- The error of a string token, at what is left of the string. -/
def Token.failure (token : Token) (message : String) (current : List UInt8) : ErrorInfo :=
  ⟨token, message, some (token.inside current)⟩

/-- The value of a hexadecimal digit. -/
def hexDigit (c : UInt8) : Option Nat :=
  if 48 ≤ c ∧ c ≤ 57 then some (c.toNat - 48)
  else if 97 ≤ c ∧ c ≤ 102 then some (c.toNat - 97 + 10)
  else if 65 ≤ c ∧ c ≤ 70 then some (c.toNat - 65 + 10)
  else none

/-- The loop of `decodeUnicodeEscapeSequence` over the digits that are left. -/
def decodeHexDigits (token : Token) :
    Nat → Nat → List UInt8 → Except ErrorInfo (Nat × List UInt8)
  | 0, unicode, current => .ok (unicode, current)
  | _ + 1, _, [] => .error (token.failure
      "Bad unicode escape sequence in string: hexadecimal digit expected." [])
  | count + 1, unicode, c :: current =>
      match hexDigit c with
      | some digit => decodeHexDigits token count (unicode * 16 + digit) current
      | none => .error (token.failure
          "Bad unicode escape sequence in string: hexadecimal digit expected." current)

/-- `decodeUnicodeEscapeSequence`, with the location it leaves in `current`. -/
def decodeUnicodeEscapeSequence (token : Token) (current : List UInt8) :
    Except ErrorInfo (Nat × List UInt8) :=
  if current.length < 4 then
    .error (token.failure "Bad unicode escape sequence in string: four digits expected." current)
  else decodeHexDigits token 4 0 current

/-- The second half of a surrogate pair, whatever number it is. -/
def decodeSurrogate (token : Token) (unicode : Nat) (current : List UInt8) :
    Except ErrorInfo (Nat × List UInt8) :=
  if current.length < 6 then
    .error (token.failure
      "additional six characters expected to parse unicode surrogate pair." current)
  else
    match current with
    | 92 :: 117 :: current =>
        match decodeUnicodeEscapeSequence token current with
        | .error error => .error error
        | .ok (surrogatePair, current) =>
            .ok (0x10000 + ((unicode &&& 0x3FF) <<< 10) + (surrogatePair &&& 0x3FF), current)
    | 92 :: _ :: current => .error (token.failure
        "expecting another \\u token to begin the second half of a unicode surrogate pair" current)
    | current => .error (token.failure
        "expecting another \\u token to begin the second half of a unicode surrogate pair"
        current.tail)

/-- `decodeUnicodeCodePoint`. -/
def decodeUnicodeCodePoint (token : Token) (current : List UInt8) :
    Except ErrorInfo (Nat × List UInt8) :=
  match decodeUnicodeEscapeSequence token current with
  | .error error => .error error
  | .ok (unicode, current) =>
      if 0xD800 ≤ unicode ∧ unicode ≤ 0xDBFF then decodeSurrogate token unicode current
      else .ok (unicode, current)

/-- The escapes of one letter. -/
def decodeEscape (escape : UInt8) : Option UInt8 :=
  if escape = 34 then some 34
  else if escape = 47 then some 47
  else if escape = 92 then some 92
  else if escape = 98 then some 8
  else if escape = 102 then some 12
  else if escape = 110 then some 10
  else if escape = 114 then some 13
  else if escape = 116 then some 9
  else none

/-- Each digit takes a character. -/
theorem length_decodeHexDigits {token : Token} {count unicode result : Nat}
    {current rest : List UInt8}
    (decoded : decodeHexDigits token count unicode current = .ok (result, rest)) :
    rest.length + count = current.length := by
  fun_induction decodeHexDigits token count unicode current with
  | case1 unicode current =>
      cases decoded
      rfl
  | case2 | case4 => cases decoded
  | case3 unicode count c current digit _ inductionHypothesis =>
      have shorter := inductionHypothesis decoded
      simp only [List.length_cons]
      omega

/-- An escape takes four digits. -/
theorem length_decodeUnicodeEscapeSequence {token : Token} {result : Nat}
    {current rest : List UInt8}
    (decoded : decodeUnicodeEscapeSequence token current = .ok (result, rest)) :
    rest.length + 4 = current.length := by
  unfold decodeUnicodeEscapeSequence at decoded
  split at decoded
  · cases decoded
  · exact length_decodeHexDigits decoded

/-- The second half of a pair takes six characters. -/
theorem length_decodeSurrogate {token : Token} {unicode result : Nat} {current rest : List UInt8}
    (decoded : decodeSurrogate token unicode current = .ok (result, rest)) :
    rest.length + 6 = current.length := by
  unfold decodeSurrogate at decoded
  split at decoded
  · cases decoded
  · split at decoded
    · split at decoded
      · cases decoded
      · next read =>
          cases decoded
          have shorter := length_decodeUnicodeEscapeSequence read
          simp only [List.length_cons]
          omega
    · cases decoded
    · cases decoded

/-- A code point takes at least one character. -/
theorem length_decodeUnicodeCodePoint {token : Token} {result : Nat} {current rest : List UInt8}
    (decoded : decodeUnicodeCodePoint token current = .ok (result, rest)) :
    rest.length < current.length := by
  unfold decodeUnicodeCodePoint at decoded
  split at decoded
  · cases decoded
  · next read =>
      have shorter := length_decodeUnicodeEscapeSequence read
      split at decoded
      · have second := length_decodeSurrogate decoded
        omega
      · cases decoded
        omega

/-- The loop of `decodeString` from `current` to the closing quote. -/
def decodeChars (token : Token) (decoded : List UInt8) (current : List UInt8) :
    Except ErrorInfo (List UInt8) :=
  match current with
  | [] => .ok decoded
  | c :: current =>
      if c = 34 then .ok decoded
      else if c = 92 then
        match current with
        | [] => .error (token.failure "Empty escape sequence in string" [])
        | escape :: current =>
            match decodeEscape escape with
            | some byte => decodeChars token (decoded ++ [byte]) current
            | none =>
                if escape = 117 then
                  match _read : decodeUnicodeCodePoint token current with
                  | .error error => .error error
                  | .ok (unicode, rest) => decodeChars token (decoded ++ codePointToUTF8 unicode) rest
                else .error (token.failure "Bad escape sequence in string" current)
      else decodeChars token (decoded ++ [c]) current
termination_by current.length
decreasing_by
  · simp only [List.length_cons]
    omega
  · have shorter := length_decodeUnicodeCodePoint _read
    simp only [List.length_cons]
    omega
  · simp only [List.length_cons]
    omega

/-- `decodeString`: what stands between the quotes. -/
def decodeString (token : Token) : Except ErrorInfo (List UInt8) :=
  decodeChars token [] (token.text.drop 1).dropLast

end VzSdk.Jsoncpp
