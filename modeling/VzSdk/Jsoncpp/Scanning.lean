import VzSdk.Jsoncpp.Tokens
import VzSdk.Std.JsonSyntax

/-!
# The tokens of a JSON text

What the reader takes for a token where the text of a syntax tree stands: gaps are
passed over with their comments, a string goes to its closing quote and a number
as far as the grammar lets it. Then what a string and a number are decoded to:
characters given by number come out in UTF-8, and an integer is exact whenever it
fits.
-/

namespace VzSdk.Jsoncpp

open VzSdk.Sdk (Json)
open VzSdk.Std VzSdk.Std.JsonSyntax

/-- The text at the start of a location is the token there. -/
def Scans (type : TokenType) (text rest : List UInt8) : Prop :=
  readToken (text ++ rest) = ⟨type, text ++ rest, rest⟩

/-! ## Gaps -/

/-- Spaces in front are skipped. -/
theorem skipSpaces_append {text : List UInt8}
    (areSpaces : ∀ byte ∈ text, JsonSyntax.isSpace byte = true) (rest : List UInt8) :
    skipSpaces (text ++ rest) = skipSpaces rest := by
  refine List.dropWhile_append_of_pos fun byte member => ?_
  simpa [JsonSyntax.isSpace, isSpace] using areSpaces byte member

/-- Spaces in front change no token. -/
theorem readToken_spaces (blank : Spaces) (rest : List UInt8) :
    readToken (blank.text ++ rest) = readToken rest := by
  simp only [readToken, skipSpaces_append blank.areSpaces]

/-- A comment is skipped. -/
theorem skipCommentTokens_of_comment {current : Location}
    (comment : (readToken current).type = .tokenComment) :
    skipCommentTokens current = skipCommentTokens (readToken current).stop := by
  rw [skipCommentTokens]
  exact dif_pos comment

/-- Any other token is kept. -/
theorem skipCommentTokens_of_token {current : Location}
    (other : (readToken current).type ≠ .tokenComment) :
    skipCommentTokens current = readToken current := by
  rw [skipCommentTokens]
  exact dif_neg other

/-- Only the first token matters to what is skipped. -/
theorem skipCommentTokens_congr {first second : Location}
    (same : readToken first = readToken second) :
    skipCommentTokens first = skipCommentTokens second := by
  by_cases comment : (readToken second).type = .tokenComment
  · exact (skipCommentTokens_of_comment (same ▸ comment)).trans
      ((congrArg _ (congrArg _ same)).trans (skipCommentTokens_of_comment comment).symm)
  · exact (skipCommentTokens_of_token (same ▸ comment)).trans
      (same.trans (skipCommentTokens_of_token comment).symm)

/-- A block comment ends at the first `*/`. -/
theorem readCStyleComment_body {body : List UInt8} (first : ¬[42, 47] <:+: body ++ [42])
    (rest : List UInt8) : readCStyleComment (body ++ 42 :: 47 :: rest) = (true, rest) := by
  induction body with
  | nil => rfl
  | cons c body inductionHypothesis =>
      have later : ¬[42, 47] <:+: body ++ [42] := fun inside =>
        first (inside.trans (List.suffix_cons c _).isInfix)
      rw [List.cons_append, readCStyleComment]
      · exact inductionHypothesis later
      · intro tail isStar isSlash
        cases body with
        | nil => cases isSlash
        | cons second body =>
            cases isStar
            cases isSlash
            exact first ⟨[], body ++ [42], rfl⟩

/-- A line comment ends at the first line break. -/
theorem readCppStyleComment_body {body : List UInt8} {ending : UInt8}
    (inLine : ∀ byte ∈ body, isBreak byte = false) (ends : isBreak ending = true)
    (rest : List UInt8) : readCppStyleComment (body ++ ending :: rest) = rest := by
  induction body with
  | nil =>
      have isEnd : ending = 13 ∨ ending = 10 := by simpa [isBreak] using ends
      simp [readCppStyleComment, isEnd]
  | cons c body inductionHypothesis =>
      obtain ⟨inside, later⟩ := List.forall_mem_cons.mp inLine
      have goesOn : ¬(c = 13 ∨ c = 10) := by simpa [isBreak] using inside
      rw [List.cons_append, readCppStyleComment, if_neg goesOn]
      exact inductionHypothesis later

/-- A block comment is scanned as one token. -/
theorem scans_block {body : List UInt8} (first : ¬[42, 47] <:+: body ++ [42])
    (rest : List UInt8) : Scans .tokenComment (Blank.block body first).text rest := by
  simp [Scans, Blank.text, readToken, skipSpaces, isSpace, scanToken, checked, readComment,
    readCStyleComment_body first]

/-- A line comment is scanned as one token. -/
theorem scans_line {body : List UInt8} {ending : UInt8}
    (inLine : ∀ byte ∈ body, isBreak byte = false) (ends : isBreak ending = true)
    (rest : List UInt8) :
    Scans .tokenComment (Blank.line body ending inLine ends).text rest := by
  simp [Scans, Blank.text, readToken, skipSpaces, isSpace, scanToken, checked, readComment,
    readCppStyleComment_body inLine ends]

/-- A gap is passed over before a token. -/
theorem skipCommentTokens_gap (gap : Gap) (rest : List UInt8) :
    skipCommentTokens (gap.text ++ rest) = skipCommentTokens rest := by
  induction gap with
  | nil => rfl
  | cons blank gap inductionHypothesis =>
      rw [Gap.text_cons, List.append_assoc, ← inductionHypothesis]
      cases blank with
      | spaces blank => exact skipCommentTokens_congr (readToken_spaces blank _)
      | block body first =>
          have scanned := scans_block first (Gap.text gap ++ rest)
          rw [skipCommentTokens_of_comment (by rw [scanned]), scanned]
      | line body ending inLine ends =>
          have scanned := scans_line inLine ends (Gap.text gap ++ rest)
          rw [skipCommentTokens_of_comment (by rw [scanned]), scanned]

/-! ## Tokens -/

namespace Scans

variable {type : TokenType} {text rest : List UInt8}

/-- The text of the token. -/
theorem text_token (type : TokenType) (text rest : List UInt8) :
    (Token.mk type (text ++ rest) rest).text = text := by
  simp [Token.text]

/-- A token behind any gap is found. -/
theorem skipCommentTokens (scans : Scans type text rest) (other : type ≠ .tokenComment)
    (gap : Gap) : Jsoncpp.skipCommentTokens (gap.text ++ (text ++ rest)) =
      ⟨type, text ++ rest, rest⟩ := by
  have token : readToken (text ++ rest) = ⟨type, text ++ rest, rest⟩ := scans
  rw [skipCommentTokens_gap, skipCommentTokens_of_token (by rw [token]; exact other), token]

/-- A token behind spaces is found. -/
theorem spaces (scans : Scans type text rest) (blank : Spaces) :
    readToken (blank.text ++ (text ++ rest)) = ⟨type, text ++ rest, rest⟩ :=
  (readToken_spaces blank _).trans scans

end Scans

theorem scans_objectBegin (rest : List UInt8) : Scans .tokenObjectBegin [123] rest := rfl

theorem scans_objectEnd (rest : List UInt8) : Scans .tokenObjectEnd [125] rest := rfl

theorem scans_arrayBegin (rest : List UInt8) : Scans .tokenArrayBegin [91] rest := rfl

theorem scans_arrayEnd (rest : List UInt8) : Scans .tokenArrayEnd [93] rest := rfl

theorem scans_separator (rest : List UInt8) : Scans .tokenArraySeparator [44] rest := rfl

theorem scans_memberSeparator (rest : List UInt8) : Scans .tokenMemberSeparator [58] rest := rfl

theorem scans_null (rest : List UInt8) : Scans .tokenNull [110, 117, 108, 108] rest := rfl

theorem scans_true (rest : List UInt8) : Scans .tokenTrue [116, 114, 117, 101] rest := rfl

theorem scans_false (rest : List UInt8) : Scans .tokenFalse [102, 97, 108, 115, 101] rest := rfl

/-! ## Strings -/

/-- The reader's hexadecimal digits are those of the grammar. -/
theorem hexDigit_eq (byte : UInt8) : hexDigit byte = hexValue byte := by
  unfold hexDigit hexValue
  simp only [UInt8.le_iff_toNat_le, UInt8.reduceToNat]
  split
  · rfl
  · split
    · congr 1
      omega
    · split
      · congr 1
        omega
      · rfl

/-- Hexadecimal digits are read as the number they stand for. -/
theorem decodeHexDigits_append {token : Token} {digits : List UInt8} {values : List Nat}
    (reads : digits.mapM hexValue = some values) (start : Nat) (rest : List UInt8) :
    decodeHexDigits token digits.length start (digits ++ rest) =
      .ok (values.foldl (fun value digit => value * 16 + digit) start, rest) := by
  induction digits generalizing values start with
  | nil =>
      cases reads
      rfl
  | cons byte digits inductionHypothesis =>
      simp only [List.mapM_cons, Option.bind_eq_bind, Option.bind_eq_some_iff, Option.pure_def,
        Option.some.injEq] at reads
      obtain ⟨digit, isDigit, others, areDigits, rfl⟩ := reads
      rw [List.length_cons, List.cons_append, decodeHexDigits, hexDigit_eq, isDigit]
      exact inductionHypothesis areDigits _

/-- Four hexadecimal digits are read as their value. -/
theorem decodeUnicodeEscapeSequence_hex (token : Token) (hex : Hex4) (rest : List UInt8) :
    decodeUnicodeEscapeSequence token (hex.digits ++ rest) = .ok (hex.value, rest) := by
  obtain ⟨digits, four, value, reads⟩ := hex
  obtain ⟨values, areValues, isValue⟩ := Option.map_eq_some_iff.mp reads
  have long : ¬(digits ++ rest).length < 4 := by
    rw [List.length_append]
    omega
  rw [decodeUnicodeEscapeSequence, if_neg long]
  have read : decodeHexDigits token digits.length 0 (digits ++ rest) = _ :=
    decodeHexDigits_append areValues 0 rest
  rw [four, isValue] at read
  exact read

/-- An escape outside the surrogates is read as its code point. -/
theorem decodeUnicodeCodePoint_unicode (token : Token) (hex : Hex4)
    (scalar : hex.value < 0xD800 ∨ 0xDFFF < hex.value) (rest : List UInt8) :
    decodeUnicodeCodePoint token (hex.digits ++ rest) = .ok (hex.value, rest) := by
  rw [decodeUnicodeCodePoint, decodeUnicodeEscapeSequence_hex]
  exact if_neg (by omega)

/-- A surrogate pair is read as the code point it stands for. -/
theorem decodeUnicodeCodePoint_pair (token : Token) (high low : Hex4)
    (isHigh : 0xD800 ≤ high.value ∧ high.value ≤ 0xDBFF)
    (isLow : 0xDC00 ≤ low.value ∧ low.value ≤ 0xDFFF) (rest : List UInt8) :
    decodeUnicodeCodePoint token (high.digits ++ 92 :: 117 :: (low.digits ++ rest)) =
      .ok (0x10000 + (high.value - 0xD800) * 0x400 + (low.value - 0xDC00), rest) := by
  have long : ¬(92 :: 117 :: (low.digits ++ rest)).length < 6 := by
    simp only [List.length_cons, List.length_append, low.four]
    omega
  rw [decodeUnicodeCodePoint, decodeUnicodeEscapeSequence_hex]
  dsimp only
  rw [if_pos isHigh, decodeSurrogate, if_neg long, decodeUnicodeEscapeSequence_hex]
  have highPart : high.value &&& 0x3FF = high.value - 0xD800 := by
    rw [Nat.and_two_pow_sub_one_eq_mod _ 10]
    omega
  have lowPart : low.value &&& 0x3FF = low.value - 0xDC00 := by
    rw [Nat.and_two_pow_sub_one_eq_mod _ 10]
    omega
  simp only [highPart, lowPart, Nat.shiftLeft_eq]

/-- A valid code point makes the character of that number. -/
theorem toNat_ofNat {n : Nat} (valid : n.isValidChar) : (Char.ofNat n).toNat = n := by
  rw [Char.ofNat, dif_pos valid]
  rfl

/-- A character is encoded as UTF-8 has it. -/
theorem codePointToUTF8_toNat (c : Char) : codePointToUTF8 c.toNat = String.utf8EncodeChar c := by
  have valid : c.val.toNat ≤ 0x10FFFF := by
    rcases c.valid with low | ⟨_, high⟩
    · exact Nat.le_trans (Nat.le_of_lt low) (by decide)
    · exact Nat.le_of_lt_succ high
  have same : c.toNat = c.val.toNat := rfl
  rw [String.utf8EncodeChar_eq_utf8EncodeCharFast, String.utf8EncodeCharFast, codePointToUTF8]
  simp only [UInt32.le_iff_toNat_le, ← UInt8.ofNat_uInt32ToNat, UInt32.reduceToNat,
    UInt8.ofNat_or, UInt8.ofNat_and, same, if_pos valid, UInt8.and_comm, UInt8.or_comm]
  rfl

/-- A valid code point is encoded as `String` encodes its character. -/
theorem codePointToUTF8_of_valid {n : Nat} (valid : n.isValidChar) :
    codePointToUTF8 n = String.utf8EncodeChar (Char.ofNat n) := by
  rw [← codePointToUTF8_toNat, toNat_ofNat valid]

/-- A hexadecimal digit is neither a quote nor a backslash. -/
theorem hexValue_free {byte : UInt8} {digit : Nat} (hex : hexValue byte = some digit) :
    byte ≠ 34 ∧ byte ≠ 92 := by
  constructor
  all_goals
    rintro rfl
    cases hex

/-- Hexadecimal digits hold neither quotes nor backslashes. -/
theorem hexDigits_free {digits : List UInt8} {values : List Nat}
    (reads : digits.mapM hexValue = some values) :
    ∀ byte ∈ digits, byte ≠ 34 ∧ byte ≠ 92 := by
  induction digits generalizing values with
  | nil => exact List.forall_mem_nil _
  | cons byte digits inductionHypothesis =>
      simp only [List.mapM_cons, Option.bind_eq_bind, Option.bind_eq_some_iff] at reads
      obtain ⟨digit, isDigit, others, areDigits, _⟩ := reads
      exact List.forall_mem_cons.mpr ⟨hexValue_free isDigit, inductionHypothesis areDigits⟩

/-- The digits of an escape hold neither quotes nor backslashes. -/
theorem hex4_free (hex : Hex4) : ∀ byte ∈ hex.digits, byte ≠ 34 ∧ byte ≠ 92 := by
  obtain ⟨values, areValues, _⟩ := Option.map_eq_some_iff.mp hex.reads
  exact hexDigits_free areValues

/-- What holds neither quotes nor backslashes does not end a string. -/
theorem readString_free {bytes : List UInt8} (free : ∀ byte ∈ bytes, byte ≠ 34 ∧ byte ≠ 92)
    (rest : List UInt8) : readString (bytes ++ rest) = readString rest := by
  induction bytes with
  | nil => rfl
  | cons byte bytes inductionHypothesis =>
      obtain ⟨⟨noQuote, noBackslash⟩, later⟩ := List.forall_mem_cons.mp free
      rw [List.cons_append, readString, if_neg noQuote]
      · exact inductionHypothesis later
      · intro isBackslash
        exact absurd isBackslash noBackslash
      · intro _ _ isBackslash
        exact absurd isBackslash noBackslash

/-- No piece of a text ends the string. -/
theorem readString_piece (piece : Piece) (rest : List UInt8) :
    readString (piece.text ++ rest) = readString rest := by
  cases piece with
  | plain byte printable free =>
      exact readString_free (List.forall_mem_singleton.mpr free) rest
  | escape letter byte known => exact readString.eq_3 letter rest
  | unicode hex scalar =>
      exact (readString.eq_3 117 _).trans (readString_free (hex4_free hex) rest)
  | pair high low isHigh isLow =>
      have inner := (readString.eq_3 117 _).trans (readString_free (hex4_free low) rest)
      simp only [Piece.text, List.cons_append, List.append_assoc]
      rw [readString.eq_3, readString_free (hex4_free high)]
      exact inner

/-- A string ends at its closing quote. -/
theorem readString_inner (text : Text) (rest : List UInt8) :
    readString (Text.inner text ++ 34 :: rest) = (true, rest) := by
  induction text with
  | nil => rfl
  | cons piece text inductionHypothesis =>
      rw [Text.inner, List.flatMap_cons, List.append_assoc, readString_piece]
      exact inductionHypothesis

/-- A text is scanned as one string token. -/
theorem scans_string (text : Text) (rest : List UInt8) :
    Scans .tokenString (Text.text text) rest := by
  have read := readString_inner text rest
  simp [Scans, Text.text, readToken, skipSpaces, isSpace, scanToken, checked, read]

/-- The escapes of the grammar are those of the reader. -/
theorem decodeEscape_of_known {letter byte : UInt8} (known : (letter, byte) ∈ escapes) :
    decodeEscape letter = some byte := by
  simp only [escapes, List.mem_cons, Prod.mk.injEq, List.not_mem_nil, or_false] at known
  rcases known with known | known | known | known | known | known | known | known
  all_goals
    obtain ⟨rfl, rfl⟩ := known
    rfl

/-- A plain byte is decoded as it is. -/
theorem decodeChars_plain (token : Token) (decoded : List UInt8) {c : UInt8}
    (free : c ≠ 34 ∧ c ≠ 92) (rest : List UInt8) :
    decodeChars token decoded (c :: rest) = decodeChars token (decoded ++ [c]) rest := by
  rw [decodeChars.eq_def]
  dsimp only
  rw [if_neg free.1, if_neg free.2]

/-- A short escape is decoded as the byte it stands for. -/
theorem decodeChars_escape (token : Token) (decoded : List UInt8) {escape byte : UInt8}
    (known : decodeEscape escape = some byte) (rest : List UInt8) :
    decodeChars token decoded (92 :: escape :: rest) =
      decodeChars token (decoded ++ [byte]) rest := by
  rw [decodeChars.eq_def]
  simp [known]

/-- A Unicode escape is decoded as the encoding of its code point. -/
theorem decodeChars_unicode {token : Token} {current rest : List UInt8} {unicode : Nat}
    (read : decodeUnicodeCodePoint token current = .ok (unicode, rest)) (decoded : List UInt8) :
    decodeChars token decoded (92 :: 117 :: current) =
      decodeChars token (decoded ++ codePointToUTF8 unicode) rest := by
  have letter : decodeEscape 117 = none := rfl
  rw [decodeChars.eq_def]
  simp only [letter, if_true, if_neg (show ¬(92 : UInt8) = 34 by decide)]
  split
  · next error =>
      rw [read] at error
      cases error
  · next same =>
      rw [read] at same
      cases same
      rfl

/-- Every piece of a text is decoded as its bytes. -/
theorem decodeChars_piece (token : Token) (decoded : List UInt8) (piece : Piece)
    (rest : List UInt8) : decodeChars token decoded (piece.text ++ rest) =
      decodeChars token (decoded ++ piece.bytes) rest := by
  cases piece with
  | plain byte printable free => exact decodeChars_plain token decoded free rest
  | escape letter byte known =>
      exact decodeChars_escape token decoded (decodeEscape_of_known known) rest
  | unicode hex scalar =>
      have valid : hex.value.isValidChar := by
        have small := hex.value_lt
        unfold Nat.isValidChar
        omega
      rw [Piece.bytes, ← codePointToUTF8_of_valid valid]
      exact decodeChars_unicode (decodeUnicodeCodePoint_unicode token hex scalar rest) decoded
  | pair high low isHigh isLow =>
      have valid :
          (0x10000 + (high.value - 0xD800) * 0x400 + (low.value - 0xDC00)).isValidChar := by
        unfold Nat.isValidChar
        omega
      rw [Piece.bytes, ← codePointToUTF8_of_valid valid]
      simp only [Piece.text, List.cons_append, List.append_assoc]
      exact decodeChars_unicode
        (decodeUnicodeCodePoint_pair token high low isHigh isLow rest) decoded

/-- A text is decoded as its bytes. -/
theorem decodeChars_inner (token : Token) (decoded : List UInt8) (text : Text) :
    decodeChars token decoded (Text.inner text) = .ok (decoded ++ Text.bytes text) := by
  induction text generalizing decoded with
  | nil =>
      rw [Text.inner, List.flatMap_nil, decodeChars]
      simp [Text.bytes]
  | cons piece text inductionHypothesis =>
      rw [Text.inner, List.flatMap_cons, decodeChars_piece]
      refine (inductionHypothesis _).trans ?_
      simp [Text.bytes]

/-- A string is decoded to its characters. -/
theorem decodeString_text (text : Text) (rest : List UInt8) :
    decodeString ⟨.tokenString, Text.text text ++ rest, rest⟩ = .ok (Text.bytes text) := by
  rw [decodeString, Scans.text_token, Text.text, List.drop_one, List.tail_cons,
    List.dropLast_concat, decodeChars_inner]
  rfl

/-! ## Numbers -/

/-- What a number is read as: an integer if it is one that fits, and else a real number. -/
def numberMeaning (scanDouble : List UInt8 → Option String) (number : Number) : Json :=
  let real := .real ((scanDouble number.text).getD "")
  match number.integer? with
  | some value =>
      if value < -2 ^ 63 ∨ 2 ^ 64 ≤ value then real
      else if value < 2 ^ 31 then .int value
      else .uint value.toNat
  | none => real

/-- Digits belong to numbers. -/
theorem isNumberChar_of_isDigit {byte : UInt8} (isDigit : Decimal.isDigit byte = true) :
    isNumberChar byte = true := by
  have range : 48 ≤ byte ∧ byte ≤ 57 := by simpa [Decimal.isDigit] using isDigit
  simp [isNumberChar, range]

/-- All bytes of a number belong to numbers. -/
theorem isNumberChar_text (number : Number) : ∀ byte ∈ number.text, isNumberChar byte = true := by
  obtain ⟨negative, whole, fraction, exponent⟩ := number
  have inWhole : ∀ byte ∈ whole.text, isNumberChar byte = true := fun byte member =>
    isNumberChar_of_isDigit (whole.areDigits byte member)
  have inFraction : ∀ byte ∈ Number.fractionText fraction, isNumberChar byte = true := by
    cases fraction with
    | none => exact List.forall_mem_nil _
    | some digits =>
        exact List.forall_mem_cons.mpr ⟨rfl, fun byte member =>
          isNumberChar_of_isDigit (digits.areDigits byte member)⟩
  have inExponent : ∀ byte ∈ Number.exponentText exponent, isNumberChar byte = true := by
    cases exponent with
    | none => exact List.forall_mem_nil _
    | some exponent =>
        obtain ⟨mark, isMark, sign, isSign, digits⟩ := exponent
        refine List.forall_mem_cons.mpr ⟨?_, List.forall_mem_append.mpr ⟨?_, fun byte member =>
          isNumberChar_of_isDigit (digits.areDigits byte member)⟩⟩
        · rcases isMark with rfl | rfl
          · rfl
          · rfl
        · rcases isSign with rfl | rfl | rfl
          · exact List.forall_mem_nil _
          · exact List.forall_mem_singleton.mpr rfl
          · exact List.forall_mem_singleton.mpr rfl
  refine List.forall_mem_append.mpr ⟨List.forall_mem_append.mpr ⟨?_, inWhole⟩,
    List.forall_mem_append.mpr ⟨inFraction, inExponent⟩⟩
  cases negative with
  | false => exact List.forall_mem_nil _
  | true => exact List.forall_mem_singleton.mpr rfl

/-- A number begins with a digit or a sign, and goes on with digits. -/
theorem exists_head_number (number : Number) :
    ∃ c front, number.text = c :: (front ++
        (Number.fractionText number.fraction ++ Number.exponentText number.exponent)) ∧
      ((48 ≤ c ∧ c ≤ 57) ∨ c = 45) ∧ ∀ byte ∈ front, Decimal.isDigit byte = true := by
  obtain ⟨negative, ⟨whole, some, areDigits⟩, fraction, exponent⟩ := number
  cases negative with
  | true => exact ⟨45, whole, rfl, .inr rfl, areDigits⟩
  | false =>
      cases whole with
      | nil => exact absurd rfl some
      | cons c whole =>
          obtain ⟨first, areDigits⟩ := List.forall_mem_cons.mp areDigits
          have range : 48 ≤ c ∧ c ≤ 57 := by simpa [Decimal.isDigit] using first
          exact ⟨c, whole, rfl, .inl range, areDigits⟩

/-- A digit or a minus sign begins a number token. -/
theorem scanToken_number {c : UInt8} (starts : (48 ≤ c ∧ c ≤ 57) ∨ c = 45)
    (rest : List UInt8) : scanToken (c :: rest) = (.tokenNumber, readNumber rest) := by
  have other : ∀ byte : UInt8, ¬((48 ≤ byte ∧ byte ≤ 57) ∨ byte = 45) → ¬c = byte :=
    fun byte refused same => refused (same ▸ starts)
  rw [scanToken, if_neg (other 123 (by decide)), if_neg (other 125 (by decide)),
    if_neg (other 91 (by decide)), if_neg (other 93 (by decide)), if_neg (other 34 (by decide)),
    if_neg (other 47 (by decide)), if_pos starts]

/-- What follows does not go on with the number. -/
def Delimits (rest : List UInt8) : Prop := ∀ byte ∈ rest.head?, isNumberChar byte = false

/-- Nothing of what delimits a number belongs to it. -/
theorem dropWhile_delimits {rest : List UInt8} (delimits : Delimits rest) :
    rest.dropWhile isNumberChar = rest := by
  cases rest with
  | nil => rfl
  | cons byte rest =>
      have stops : isNumberChar byte = false := delimits byte rfl
      rw [List.dropWhile_cons_of_neg (by simp [stops])]

/-- A number that is delimited is scanned as one token. -/
theorem scans_number (number : Number) {rest : List UInt8} (delimits : Delimits rest) :
    Scans .tokenNumber number.text rest := by
  obtain ⟨c, front, isText, starts, _⟩ := exists_head_number number
  generalize front ++ _ = text at isText
  have inText := isNumberChar_text number
  rw [isText] at inText ⊢
  have noSpace : isSpace c = false := by
    rcases starts with ⟨low, _⟩ | rfl
    · rw [UInt8.le_iff_toNat_le] at low
      simp only [isSpace, Bool.or_eq_false_iff, decide_eq_false_iff_not]
      refine ⟨⟨⟨?_, ?_⟩, ?_⟩, ?_⟩
      all_goals
        rintro rfl
        revert low
        decide
    · rfl
  have start : skipSpaces (c :: (text ++ rest)) = c :: (text ++ rest) :=
    List.dropWhile_cons_of_neg (by simp [noSpace])
  have stop : readNumber (text ++ rest) = rest :=
    (List.dropWhile_append_of_pos (List.forall_mem_cons.mp inText).2).trans
      (dropWhile_delimits delimits)
  simp only [Scans, List.cons_append, readToken, start, scanToken_number starts, stop]

/-! ### Integers -/

/-- A fraction and an exponent show by their marks. -/
theorem any_isMark_fraction (fraction : Option JsonSyntax.Digits) (exponent : Option Exponent) :
    (Number.fractionText fraction ++ Number.exponentText exponent).any
      (fun c => c = 46 || c = 101 || c = 69 || c = 43 || c = 45) =
        (fraction.isSome || exponent.isSome) := by
  cases fraction with
  | some digits => simp [Number.fractionText]
  | none =>
      cases exponent with
      | none => rfl
      | some exponent =>
          rcases exponent.isMark with isMark | isMark
          all_goals simp [Number.fractionText, Number.exponentText, isMark]

/-- A number is decoded as a real one exactly when it has a fraction or an exponent. -/
theorem isDouble_text (number : Number) :
    isDouble number.text = (number.fraction.isSome || number.exponent.isSome) := by
  obtain ⟨c, front, isText, starts, areDigits⟩ := exists_head_number number
  have noMark : ∀ {byte : UInt8}, 48 ≤ byte ∧ byte ≤ 57 →
      (byte = 46 || byte = 101 || byte = 69 || byte = 43 || byte = 45) = false := by
    rintro byte ⟨low, high⟩
    rw [UInt8.le_iff_toNat_le] at low high
    simp only [Bool.or_eq_false_iff, decide_eq_false_iff_not]
    refine ⟨⟨⟨⟨?_, ?_⟩, ?_⟩, ?_⟩, ?_⟩
    all_goals
      rintro rfl
      revert low high
      decide
  have first : (c = 46 || c = 101 || c = 69 || c = 43) = false := by
    rcases starts with range | rfl
    · exact (Bool.or_eq_false_iff.mp (noMark range)).1
    · rfl
  have inFront : front.any (fun c => c = 46 || c = 101 || c = 69 || c = 43 || c = 45) = false := by
    refine List.any_eq_false.mpr fun byte member => ?_
    have range : 48 ≤ byte ∧ byte ≤ 57 := by simpa [Decimal.isDigit] using areDigits byte member
    rw [noMark range]
    exact Bool.false_ne_true
  rw [isText, isDouble, first, List.any_append, inFront, any_isMark_fraction]
  rfl

/-- The number that digits stand for behind those of a value. -/
def valueFrom (value : Nat) (digits : List UInt8) : Nat :=
  digits.foldl (fun value digit => 10 * value + (digit.toNat - 48)) value

/-- More digits make no number smaller. -/
theorem le_valueFrom (value : Nat) (digits : List UInt8) : value ≤ valueFrom value digits := by
  induction digits generalizing value with
  | nil => exact Nat.le_refl _
  | cons digit digits inductionHypothesis =>
      exact Nat.le_trans (by omega) (inductionHypothesis (10 * value + (digit.toNat - 48)))

/-- Digits are read as an integer exactly when it is within the bound. -/
theorem decodeDigits_eq {bound : Nat} (large : 10 ≤ bound) {value : Nat} (fits : value ≤ bound)
    {digits : List UInt8} (areDigits : ∀ byte ∈ digits, Decimal.isDigit byte = true) :
    decodeDigits bound value digits =
      if valueFrom value digits ≤ bound then .integer (valueFrom value digits) else .double := by
  induction digits generalizing value with
  | nil => exact (if_pos fits).symm
  | cons c current inductionHypothesis =>
      obtain ⟨isDigit, later⟩ := List.forall_mem_cons.mp areDigits
      have range := Decimal.isDigit_iff.mp isDigit
      have inRange : ¬(c < 48 ∨ 57 < c) := by
        simp only [UInt8.lt_iff_toNat_lt, UInt8.reduceToNat]
        omega
      have next : valueFrom value (c :: current) =
          valueFrom (value * 10 + (c.toNat - 48)) current := by
        rw [Nat.mul_comm]
        rfl
      rw [decodeDigits, if_neg inRange]
      dsimp only
      split
      · next tooGreat =>
          -- The value is past the bound, and stays so.
          obtain ⟨reached, beyond⟩ := tooGreat
          refine (if_neg ?_).symm
          rw [next]
          cases current with
          | nil =>
              have past : bound / 10 < value ∨ bound % 10 < c.toNat - 48 := by
                simpa using beyond
              change ¬value * 10 + (c.toNat - 48) ≤ bound
              omega
          | cons second current =>
              have further := le_valueFrom (10 * (value * 10 + (c.toNat - 48)) + (second.toNat - 48))
                current
              change ¬valueFrom (10 * (value * 10 + (c.toNat - 48)) + (second.toNat - 48)) current ≤
                bound
              omega
      · next inside =>
          have fitsNext : value * 10 + (c.toNat - 48) ≤ bound := by
            by_cases reached : bound / 10 ≤ value
            · have last := not_or.mp fun beyond => inside ⟨reached, beyond⟩
              have small := not_or.mp last.2
              omega
            · omega
          rw [next]
          exact inductionHypothesis fitsNext later

/-- A number is decoded as the real that the library reads in its text. -/
theorem decodeDouble_text {scanDouble : List UInt8 → Option String} {number : Number}
    {real : String} (reads : scanDouble number.text = some real)
    (small : number.text.length < 2 ^ 31) (rest : List UInt8) :
    decodeDouble scanDouble ⟨.tokenNumber, number.text ++ rest, rest⟩ = .ok (.real real) := by
  have length : (number.text ++ rest).length - rest.length = number.text.length := by
    rw [List.length_append]
    omega
  have positive : ¬(BitVec.ofNat 32 number.text.length).toInt < 0 := by
    have bits : (BitVec.ofNat 32 number.text.length).toNat = number.text.length := by
      rw [BitVec.toNat_ofNat]
      omega
    rw [BitVec.toInt_eq_toNat_of_lt (by omega), bits]
    omega
  rw [decodeDouble, Scans.text_token]
  dsimp only
  rw [length, if_neg positive, reads]

/-- A number is decoded to what it means. -/
theorem decodeNumber_text {scanDouble : List UInt8 → Option String} {number : Number}
    (reads : (scanDouble number.text).isSome) (small : number.text.length < 2 ^ 31)
    (rest : List UInt8) :
    decodeNumber scanDouble ⟨.tokenNumber, number.text ++ rest, rest⟩ =
      .ok (numberMeaning scanDouble number) := by
  obtain ⟨real, isReal⟩ := Option.isSome_iff_exists.mp reads
  have double := decodeDouble_text isReal small rest
  rw [decodeNumber, Scans.text_token, isDouble_text]
  by_cases marked : number.fraction.isSome || number.exponent.isSome
  · have noInteger : number.integer? = none := by
      refine if_neg fun none => ?_
      simp [Option.isNone_iff_eq_none.mp none.1, Option.isNone_iff_eq_none.mp none.2] at marked
    rw [if_pos marked, double, numberMeaning, noInteger, isReal]
    rfl
  · rw [if_neg marked]
    obtain ⟨negative, whole, fraction, exponent⟩ := number
    obtain ⟨rfl, rfl⟩ : fraction = none ∧ exponent = none := by simpa using marked
    have digits : valueFrom 0 whole.text = Decimal.value whole.text := rfl
    cases negative with
    | true =>
        have text : Number.text ⟨true, whole, none, none⟩ = 45 :: whole.text := by
          simp [Number.text, Number.fractionText, Number.exponentText]
        have isInteger : Number.integer? ⟨true, whole, none, none⟩ =
            some (-(Decimal.value whole.text : Int)) := rfl
        have read : decodeDigits (2 ^ 63) 0 whole.text = _ :=
          decodeDigits_eq (by decide) (Nat.zero_le _) whole.areDigits
        have sign : ((45 :: whole.text).head? == some 45) = true := rfl
        have bound : maxIntegerValue true = 2 ^ 63 := rfl
        rw [numberMeaning, isInteger, isReal, double, text, sign]
        dsimp only
        rw [if_pos rfl, List.tail_cons, bound, read, digits]
        by_cases fits : Decimal.value whole.text ≤ 2 ^ 63
        · rw [if_pos fits, if_neg (by omega), if_pos (by omega)]
          rfl
        · rw [if_neg fits, if_pos (by omega)]
          rfl
    | false =>
        have text : Number.text ⟨false, whole, none, none⟩ = whole.text := by
          simp [Number.text, Number.fractionText, Number.exponentText]
        have isInteger : Number.integer? ⟨false, whole, none, none⟩ =
            some (Decimal.value whole.text : Int) := rfl
        have noSign : (whole.text.head? == some 45) = false := by
          refine beq_eq_false_iff_ne.mpr fun isSign => ?_
          exact absurd (whole.areDigits 45 (List.mem_of_mem_head? isSign)) (by decide)
        have read : decodeDigits (2 ^ 64 - 1) 0 whole.text = _ :=
          decodeDigits_eq (by decide) (Nat.zero_le _) whole.areDigits
        have bound : maxIntegerValue false = 2 ^ 64 - 1 := rfl
        rw [numberMeaning, isInteger, isReal, double, text, noSign]
        dsimp only
        rw [if_neg Bool.false_ne_true, bound, read, digits]
        by_cases fits : Decimal.value whole.text ≤ 2 ^ 64 - 1
        · have bound : maxInt = 2 ^ 31 - 1 := rfl
          rw [if_pos fits, if_neg (by omega)]
          dsimp only
          rw [integerValue, if_neg Bool.false_ne_true]
          by_cases small : Decimal.value whole.text ≤ maxInt
          · rw [if_pos small, if_pos (by omega)]
          · rw [if_neg small, if_neg (by omega), Int.toNat_natCast]
        · rw [if_neg fits, if_pos (by omega)]
          rfl

end VzSdk.Jsoncpp
