import Mathlib.Data.List.DropRight
import VzSdk.Jsoncpp.Reader
import VzSdk.Jsoncpp.Scanning

/-!
# Every JSON text is read as what it means

The value a phrase means to the library, and that `parse` accepts the text of
every phrase and gives that value, whatever white space, comments and escapes were
chosen. The induction is on the phrase; the fuel falls with what is left of the
document.
-/

namespace VzSdk.Jsoncpp

open VzSdk.Sdk (Json)
open VzSdk.Std VzSdk.Std.JsonSyntax

/-- The members of an object as they come in: of two with one name the later holds. -/
def objectOf (members : List (List UInt8 × Json)) (map : List (String × Json)) :
    List (String × Json) :=
  members.foldl (fun map member => setMember (cText member.1) member.2 map) map

/-- What the library holds for a text. A string ends at its first NUL. -/
def meaning (scanDouble : List UInt8 → Option String) : Meaning Json where
  null := .null
  boolean := .boolean
  number := numberMeaning scanDouble
  string bytes := .string (cText bytes)
  array := .array
  object members := .object (objectOf members [])

/-- A byte that belongs to no number delimits one. -/
theorem delimits_cons (byte : UInt8) (rest : List UInt8) (other : isNumberChar byte = false) :
    Delimits (byte :: rest) := fun first isFirst => by
  cases isFirst
  exact other

/-- Spaces and comments delimit a number. -/
theorem delimits_of_head {text rest : List UInt8}
    (head : ∀ byte ∈ text.head?, JsonSyntax.isSpace byte = true ∨ byte = 47)
    (delimits : Delimits rest) : Delimits (text ++ rest) := by
  cases text with
  | nil => exact delimits
  | cons byte text =>
      intro first isFirst
      cases isFirst
      rcases head byte rfl with isSpace | rfl
      · simp only [JsonSyntax.isSpace, Bool.or_eq_true, beq_iff_eq] at isSpace
        rcases isSpace with ((rfl | rfl) | rfl) | rfl
        all_goals rfl
      · rfl

/-- A gap ends a number, as what may stand behind it does. -/
theorem delimits_gap (gap : Gap) {rest : List UInt8} (delimits : Delimits rest) :
    Delimits (gap.text ++ rest) := by
  refine delimits_of_head (fun byte first => ?_) delimits
  obtain ⟨rest, isText⟩ := List.head?_eq_some_iff.mp first
  exact Gap.head_text isText

section

variable {scanDouble : List UInt8 → Option String} {past : UInt8}

/-- A call before a gap and a text succeeds with a value and leaves what is behind the text. -/
def Reads (scanDouble : List UInt8 → Option String) (past : UInt8) (text rest : List UInt8)
    (value : Json) : Prop :=
  ∀ (fuel : Nat) (errors : List ErrorInfo) (old : Json) (gap : Gap),
    (gap.text ++ (text ++ rest)).length < 2 ^ 31 →
    3 * (gap.text ++ (text ++ rest)).length < fuel →
      readValue scanDouble past fuel ⟨gap.text ++ (text ++ rest), errors⟩ old =
        ⟨true, value, ⟨rest, errors⟩⟩

/-- A value that is one token. -/
theorem reads_token {type : TokenType} {text rest : List UInt8} {value : Json}
    (scans : Scans type text rest) (other : type ≠ .tokenComment)
    (decodes : text.length < 2 ^ 31 → ∀ fuel reader old,
      skipCommentTokens reader.current = ⟨type, text ++ rest, rest⟩ →
        readValue scanDouble past (fuel + 1) reader old =
          ⟨true, value, { reader with current := rest }⟩) :
    Reads scanDouble past text rest value := by
  intro fuel errors old gap small enough
  obtain ⟨fuel, rfl⟩ : ∃ less, fuel = less + 1 := ⟨fuel - 1, by omega⟩
  refine decodes ?_ fuel ⟨_, errors⟩ old (scans.skipCommentTokens other gap)
  simp only [List.length_append] at small
  omega

/-- `null` is read. -/
theorem reads_null (rest : List UInt8) : Reads scanDouble past [110, 117, 108, 108] rest .null :=
  reads_token (scans_null rest) (by decide) fun _ fuel reader old token => by
    rw [readValue, token]
    rfl

/-- `true` and `false` are read. -/
theorem reads_boolean (value : Bool) (rest : List UInt8) :
    Reads scanDouble past (Phrase.boolean value).text rest (.boolean value) := by
  cases value with
  | true =>
      refine reads_token (scans_true rest) (by decide) fun _ fuel reader old token => ?_
      rw [readValue, token]
      rfl
  | false =>
      refine reads_token (scans_false rest) (by decide) fun _ fuel reader old token => ?_
      rw [readValue, token]
      rfl

/-- A number is read as what it means. -/
theorem reads_number {number : Number} (reads : (scanDouble number.text).isSome)
    {rest : List UInt8} (delimits : Delimits rest) :
    Reads scanDouble past number.text rest (numberMeaning scanDouble number) := by
  refine reads_token (scans_number number delimits) (by decide) fun small fuel reader old token => ?_
  rw [readValue, token]
  dsimp only
  rw [decodeNumber_text reads small]
  rfl

/-- A string is read up to its first NUL. -/
theorem reads_string (text : Text) (rest : List UInt8) :
    Reads scanDouble past (Text.text text) rest (.string (cText (Text.bytes text))) := by
  refine reads_token (scans_string text rest) (by decide) fun _ fuel reader old token => ?_
  rw [readValue, token]
  dsimp only
  rw [decodeString_text]
  rfl

/-! ## Arrays -/

/-- Spaces in front change no token. -/
theorem readToken_skipSpaces (current : Location) :
    readToken (skipSpaces current) = readToken current := by
  have twice : skipSpaces (skipSpaces current) = skipSpaces current :=
    List.dropWhile_idempotent isSpace current
  simp only [readToken, twice]

/-- Only the first token matters to the value. -/
theorem readValue_congr {first second : Location} (same : readToken first = readToken second)
    (fuel : Nat) (errors : List ErrorInfo) (old : Json) :
    readValue scanDouble past (fuel + 1) ⟨first, errors⟩ old =
      readValue scanDouble past (fuel + 1) ⟨second, errors⟩ old := by
  rw [readValue, readValue, skipCommentTokens_congr same]
  rfl

/-- Only the first token matters to the elements. -/
theorem readElements_congr {first second : Location} (same : readToken first = readToken second)
    (fuel : Nat) (errors : List ErrorInfo) (elements : List Json) :
    readElements scanDouble past (fuel + 2) ⟨first, errors⟩ elements =
      readElements scanDouble past (fuel + 2) ⟨second, errors⟩ elements := by
  rw [readElements, readElements, readValue_congr same]

/-- Where a value can be read no array ends. -/
theorem head_of_readValue {current : Location} {fuel : Nat} {errors : List ErrorInfo} {old : Json}
    (reads : (readValue scanDouble past (fuel + 1) ⟨current, errors⟩ old).successful = true) :
    ∃ c rest, skipSpaces current = c :: rest ∧ c ≠ 93 := by
  cases start : skipSpaces current with
  | nil =>
      have token : readToken current = ⟨.tokenEndOfStream, [], []⟩ := by
        rw [readToken, start]
        rfl
      rw [readValue, skipCommentTokens_of_token (by rw [token]; simp), token] at reads
      cases reads
  | cons c rest =>
      refine ⟨c, rest, rfl, ?_⟩
      rintro rfl
      have token : readToken current = ⟨.tokenArrayEnd, 93 :: rest, rest⟩ := by
        rw [readToken, start]
        rfl
      rw [readValue, skipCommentTokens_of_token (by rw [token]; simp), token] at reads
      cases reads

/-- An empty array is read. -/
theorem readArray_empty (blank : Spaces) (rest : List UInt8) (fuel : Nat)
    (errors : List ErrorInfo) :
    readArray scanDouble past (fuel + 1) ⟨blank.text ++ 93 :: rest, errors⟩ =
      ⟨true, .array [], ⟨rest, errors⟩⟩ := by
  have start : skipSpaces (blank.text ++ 93 :: rest) = 93 :: rest :=
    skipSpaces_append blank.areSpaces _
  rw [readArray, start]
  rfl

/-- Elements are read only where a value is. -/
theorem readValue_of_readElements {fuel : Nat} {reader : Reader} {elements : List Json}
    (reads : (readElements scanDouble past (fuel + 1) reader elements).successful = true) :
    (readValue scanDouble past fuel reader .null).successful = true := by
  rw [readElements] at reads
  dsimp only at reads
  split at reads
  · next successful => exact successful
  · cases reads

/-- An array is read by its elements. -/
theorem readArray_elements {blank : Spaces} {text : List UInt8} {fuel : Nat}
    {errors : List ErrorInfo} {value : Json} {reader : Reader}
    (reads : readElements scanDouble past (fuel + 2) ⟨text, errors⟩ [] = ⟨true, value, reader⟩) :
    readArray scanDouble past (fuel + 3) ⟨blank.text ++ text, errors⟩ =
      ⟨true, value, reader⟩ := by
  have first := readValue_of_readElements (congrArg Reading.successful reads)
  obtain ⟨c, more, start, noEnd⟩ := head_of_readValue first
  have same : readToken (c :: more) = readToken text := start ▸ readToken_skipSpaces text
  rw [readArray, skipSpaces_append blank.areSpaces, start]
  exact (if_neg noEnd).trans ((readElements_congr same fuel errors []).trans reads)

section

variable {fuel : Nat} {reader : Reader} {elements : List Json} {value : Json} {gap : Gap}
  {rest : List UInt8} {errors : List ErrorInfo}

/-- The last element ends the array. -/
theorem readElements_end
    (reads : readValue scanDouble past fuel reader .null =
      ⟨true, value, ⟨gap.text ++ 93 :: rest, errors⟩⟩) :
    readElements scanDouble past (fuel + 1) reader elements =
      ⟨true, .array (elements ++ [value]), ⟨rest, errors⟩⟩ := by
  have token := (scans_arrayEnd rest).skipCommentTokens (by decide) gap
  rw [List.singleton_append] at token
  rw [readElements, reads]
  simp only [if_true, token]
  rfl

/-- Another element is read behind a comma. -/
theorem readElements_next
    (reads : readValue scanDouble past fuel reader .null =
      ⟨true, value, ⟨gap.text ++ 44 :: rest, errors⟩⟩) :
    readElements scanDouble past (fuel + 1) reader elements =
      readElements scanDouble past fuel ⟨rest, errors⟩ (elements ++ [value]) := by
  have token := (scans_separator rest).skipCommentTokens (by decide) gap
  rw [List.singleton_append] at token
  rw [readElements, reads]
  simp only [if_true, token]
  rfl

/-! ## Objects -/

variable {name : List UInt8} {members : List (String × Json)} {before : Gap} {text : Text}
  {between : Spaces} {more : List UInt8}

/-- An empty object is read. -/
theorem readObject_empty :
    readObject scanDouble past (fuel + 1) ⟨gap.text ++ 125 :: rest, errors⟩ [] [] =
      ⟨true, .object [], ⟨rest, errors⟩⟩ := by
  have token := (scans_objectEnd rest).skipCommentTokens (by decide) gap
  rw [List.singleton_append] at token
  rw [readObject, token]
  rfl

/-- The tokens up to the value of a member. -/
theorem scans_member (before : Gap) (text : Text) (between : Spaces) (more : List UInt8) :
    skipCommentTokens (before.text ++ (Text.text text ++ (between.text ++ 58 :: more))) =
        ⟨.tokenString, Text.text text ++ (between.text ++ 58 :: more),
          between.text ++ 58 :: more⟩ ∧
      readToken (between.text ++ 58 :: more) = ⟨.tokenMemberSeparator, 58 :: more, more⟩ :=
  ⟨(scans_string text _).skipCommentTokens (by decide) before,
    (scans_memberSeparator more).spaces between⟩

/-- The last member ends the object. -/
theorem readObject_end
    (reads : readValue scanDouble past fuel ⟨more, errors⟩
        ((members.lookup (cText (Text.bytes text))).getD .null) =
      ⟨true, value, ⟨gap.text ++ 125 :: rest, errors⟩⟩) :
    readObject scanDouble past (fuel + 1)
        ⟨before.text ++ (Text.text text ++ (between.text ++ 58 :: more)), errors⟩ name members =
      ⟨true, .object (setMember (cText (Text.bytes text)) value members), ⟨rest, errors⟩⟩ := by
  obtain ⟨nameToken, colonToken⟩ := scans_member before text between more
  have token := (scans_objectEnd rest).skipCommentTokens (by decide) gap
  rw [List.singleton_append] at token
  rw [readObject]
  simp only [nameToken, decodeString_text, Reader.took, colonToken, reads, if_true, reduceCtorEq,
    false_and, if_false, Reading.endMember]
  by_cases comment : (readToken (gap.text ++ 125 :: rest)).type = .tokenComment
  · have passed := (skipCommentTokens_of_comment comment).symm.trans token
    simp [comment, passed]
  · have passed := (skipCommentTokens_of_token comment).symm.trans token
    simp [passed]

/-- Another member is read behind a comma. -/
theorem readObject_next
    (reads : readValue scanDouble past fuel ⟨more, errors⟩
        ((members.lookup (cText (Text.bytes text))).getD .null) =
      ⟨true, value, ⟨gap.text ++ 44 :: rest, errors⟩⟩) :
    readObject scanDouble past (fuel + 1)
        ⟨before.text ++ (Text.text text ++ (between.text ++ 58 :: more)), errors⟩ name members =
      readObject scanDouble past fuel ⟨rest, errors⟩ (Text.bytes text)
        (setMember (cText (Text.bytes text)) value members) := by
  obtain ⟨nameToken, colonToken⟩ := scans_member before text between more
  have token := (scans_separator rest).skipCommentTokens (by decide) gap
  rw [List.singleton_append] at token
  rw [readObject]
  simp only [nameToken, decodeString_text, Reader.took, colonToken, reads, if_true, reduceCtorEq,
    false_and, if_false, Reading.endMember]
  by_cases comment : (readToken (gap.text ++ 44 :: rest)).type = .tokenComment
  · have passed := (skipCommentTokens_of_comment comment).symm.trans token
    simp [comment, passed]
  · have passed := (skipCommentTokens_of_token comment).symm.trans token
    simp [passed]

end

/-! ## Phrases -/

/-- A bracket begins an array. -/
theorem readValue_array (gap : Gap) (more : List UInt8) (fuel : Nat) (errors : List ErrorInfo)
    (old : Json) : readValue scanDouble past (fuel + 1) ⟨gap.text ++ 91 :: more, errors⟩ old =
      readArray scanDouble past fuel ⟨more, errors⟩ := by
  have token := (scans_arrayBegin more).skipCommentTokens (by decide) gap
  rw [List.singleton_append] at token
  rw [readValue, token]
  rfl

/-- A brace begins an object. -/
theorem readValue_object (gap : Gap) (more : List UInt8) (fuel : Nat) (errors : List ErrorInfo)
    (old : Json) : readValue scanDouble past (fuel + 1) ⟨gap.text ++ 123 :: more, errors⟩ old =
      readObject scanDouble past fuel ⟨more, errors⟩ [] [] := by
  have token := (scans_objectBegin more).skipCommentTokens (by decide) gap
  rw [List.singleton_append] at token
  rw [readValue, token]
  rfl

/-- The text of a phrase is read as what the phrase means. -/
def ReadsPhrase (scanDouble : List UInt8 → Option String) (past : UInt8) (phrase : Phrase) : Prop :=
  ∀ rest, Delimits rest →
    Reads scanDouble past phrase.text rest (phrase.eval (meaning scanDouble))

/-- The loop over an array that begins with an element, by induction on the others. -/
theorem reads_elements : ∀ (tail : Elements) (before : Gap) (element : Phrase) (after : Gap)
    (_ : ∀ phrase ∈ (Elements.cons before element after tail).parts, ReadsPhrase scanDouble past phrase)
    (rest : List UInt8) (fuel : Nat) (errors : List ErrorInfo) (elements : List Json)
    (text : List UInt8) (_ : text = (Elements.cons before element after tail).text [] ++ 93 :: rest)
    (_ : text.length < 2 ^ 31) (_ : 3 * text.length + 1 < fuel),
    readElements scanDouble past fuel ⟨text, errors⟩ elements =
      ⟨true, .array (elements ++
        (Elements.cons before element after tail).eval (meaning scanDouble)), ⟨rest, errors⟩⟩
  | .nil, before, element, after, each, rest, fuel, errors, elements, text, isText, small,
      enough => by
      obtain ⟨fuel, rfl⟩ : ∃ less, fuel = less + 1 := ⟨fuel - 1, by omega⟩
      have shape : text = before.text ++ (element.text ++ (after.text ++ 93 :: rest)) := by
        simp [isText, Elements.text]
      subst shape
      have first := (List.forall_mem_cons.mp each).1 _ (delimits_gap after (delimits_cons 93 rest rfl))
        fuel errors .null before small (by omega)
      rw [readElements_end first]
      simp [Elements.eval]
  | .cons before' element' after' tail, before, element, after, each, rest, fuel, errors, elements,
      text, isText, small, enough => by
      obtain ⟨fuel, rfl⟩ : ∃ less, fuel = less + 1 := ⟨fuel - 1, by omega⟩
      have shape : text = before.text ++ (element.text ++ (after.text ++ 44 ::
          ((Elements.cons before' element' after' tail).text [] ++ 93 :: rest))) := by
        simp [isText, Elements.text]
      subst shape
      obtain ⟨one, others⟩ := List.forall_mem_cons.mp each
      have first := one _ (delimits_gap after (delimits_cons 44 _ rfl)) fuel errors .null before small
        (by omega)
      simp only [List.length_append, List.length_cons] at small enough
      rw [readElements_next first, reads_elements tail before' element' after' others rest fuel
        errors _ _ rfl (by simp only [List.length_append, List.length_cons]; omega)
        (by simp only [List.length_append, List.length_cons]; omega)]
      simp [Elements.eval]

/-- The loop over an object that begins with a member, by induction on the others. -/
theorem reads_members : ∀ (tail : Members) (before : Gap) (name : Text) (between : Spaces)
    (gap : Gap) (value : Phrase) (after : Gap)
    (_ : ∀ phrase ∈ (Members.cons before name between gap value after tail).parts,
      ReadsPhrase scanDouble past phrase)
    (rest : List UInt8) (fuel : Nat) (errors : List ErrorInfo) (previous : List UInt8)
    (members : List (String × Json)) (lead : Gap) (text : List UInt8)
    (_ : text = lead.text ++
      ((Members.cons before name between gap value after tail).text [] ++ 125 :: rest))
    (_ : text.length < 2 ^ 31) (_ : 3 * text.length < fuel),
    readObject scanDouble past fuel ⟨text, errors⟩ previous members =
      ⟨true, .object (objectOf ((Members.cons before name between gap value after tail).eval
        (meaning scanDouble)) members), ⟨rest, errors⟩⟩
  | .nil, before, name, between, gap, value, after, each, rest, fuel, errors, previous, members,
      lead, text, isText, small, enough => by
      obtain ⟨fuel, rfl⟩ : ∃ less, fuel = less + 1 := ⟨fuel - 1, by omega⟩
      have shape : text = Gap.text (lead ++ before) ++ (name.text ++ (between.text ++
          58 :: (gap.text ++ (value.text ++ (after.text ++ 125 :: rest))))) := by
        simp [isText, Members.text]
      subst shape
      simp only [List.length_append, List.length_cons] at small enough
      have first := (List.forall_mem_cons.mp each).1 _
        (delimits_gap after (delimits_cons 125 rest rfl)) fuel errors
        ((members.lookup (cText (Text.bytes name))).getD .null) gap
        (by simp only [List.length_append, List.length_cons]; omega)
        (by simp only [List.length_append, List.length_cons]; omega)
      rw [readObject_end first]
      simp [Members.eval, objectOf]
  | .cons before' name' between' gap' value' after' tail, before, name, between, gap, value,
      after, each, rest, fuel, errors, previous, members, lead, text, isText, small, enough => by
      obtain ⟨fuel, rfl⟩ : ∃ less, fuel = less + 1 := ⟨fuel - 1, by omega⟩
      have shape : text = Gap.text (lead ++ before) ++ (name.text ++ (between.text ++
          58 :: (gap.text ++ (value.text ++ (after.text ++ 44 ::
            ((Members.cons before' name' between' gap' value' after' tail).text [] ++
              125 :: rest)))))) := by
        simp [isText, Members.text]
      subst shape
      obtain ⟨one, others⟩ := List.forall_mem_cons.mp each
      simp only [List.length_append, List.length_cons] at small enough
      have first := one _ (delimits_gap after (delimits_cons 44
          ((Members.cons before' name' between' gap' value' after' tail).text [] ++ 125 :: rest) rfl))
        fuel errors ((members.lookup (cText (Text.bytes name))).getD .null) gap
        (by simp only [List.length_append, List.length_cons]; omega)
        (by simp only [List.length_append, List.length_cons]; omega)
      rw [readObject_next first, reads_members tail before' name' between' gap' value' after' others
        rest fuel errors _ _ []
        ((Members.cons before' name' between' gap' value' after' tail).text [] ++ 125 :: rest) rfl
        (by simp only [List.length_append, List.length_cons]; omega)
        (by simp only [List.length_append, List.length_cons]; omega)]
      simp [Members.eval, objectOf]

/-- A phrase is read as what it says when its parts are. -/
theorem readsPhrase_hereditary (total : ∀ number : Number, (scanDouble number.text).isSome) :
    Hereditary (ReadsPhrase scanDouble past) where
  null rest _ := by
    rw [Phrase.text, Phrase.eval]
    exact reads_null rest
  boolean value rest _ := by
    rw [Phrase.eval]
    exact reads_boolean value rest
  number number rest delimits := by
    rw [Phrase.text, Phrase.eval]
    exact reads_number (total number) delimits
  string text rest _ := by
    rw [Phrase.text, Phrase.eval]
    exact reads_string text rest
  array blank elements each rest _ := by
    intro fuel errors old gap small enough
    have shape : gap.text ++ ((Phrase.array blank elements).text ++ rest) =
        gap.text ++ 91 :: (blank.text ++ (elements.text [] ++ 93 :: rest)) := by
      simp [Phrase.text]
    simp only [shape, List.length_append, List.length_cons] at enough small ⊢
    obtain ⟨fuel, rfl⟩ : ∃ less, fuel = less + 4 := ⟨fuel - 4, by omega⟩
    rw [readValue_array]
    cases elements with
    | nil => exact readArray_empty blank rest (fuel + 2) errors
    | cons before element after tail =>
        refine readArray_elements (reads_elements tail before element after each rest _ errors []
          _ rfl ?_ ?_)
        · simp only [List.length_append, List.length_cons]
          omega
        · simp only [List.length_append, List.length_cons]
          omega
  object blank members each rest _ := by
    intro fuel errors old gap small enough
    have shape : gap.text ++ ((Phrase.object blank members).text ++ rest) =
        gap.text ++ 123 :: (blank.text ++ (members.text [] ++ 125 :: rest)) := by
      simp [Phrase.text]
    simp only [shape, List.length_append, List.length_cons] at enough small ⊢
    obtain ⟨fuel, rfl⟩ : ∃ less, fuel = less + 2 := ⟨fuel - 2, by omega⟩
    rw [readValue_object]
    cases members with
    | nil => exact readObject_empty
    | cons before name between gapBefore value after tail =>
        refine reads_members tail before name between gapBefore value after each rest _ errors []
          [] blank _ rfl ?_ ?_
        · simp only [List.length_append, List.length_cons]
          omega
        · simp only [List.length_append, List.length_cons]
          omega

/-- Every phrase is read as what it says. -/
theorem readsPhrase (total : ∀ number : Number, (scanDouble number.text).isSome)
    (phrase : Phrase) : ReadsPhrase scanDouble past phrase :=
  (readsPhrase_hereditary total).phrase phrase

/-- The fuel of `parse` is enough for any text. -/
theorem ReadsPhrase.parse_eq {phrase : Phrase} (reads : ReadsPhrase scanDouble past phrase)
    (gap : Gap) {rest : List UInt8} (delimits : Delimits rest)
    (small : (gap.text ++ (phrase.text ++ rest)).length < 2 ^ 31) :
    parse scanDouble past (gap.text ++ (phrase.text ++ rest)) =
      ⟨true, phrase.eval (meaning scanDouble), []⟩ := by
  rw [parse, reads rest delimits _ [] .null gap small (Nat.lt_succ_self _)]

/-- A document that begins with the text of a phrase is accepted without an error, and the root is
what the phrase means. -/
theorem parse_text (total : ∀ number : Number, (scanDouble number.text).isSome) (gap : Gap)
    (phrase : Phrase) {rest : List UInt8} (delimits : Delimits rest)
    (small : (gap.text ++ (phrase.text ++ rest)).length < 2 ^ 31) :
    parse scanDouble past (gap.text ++ (phrase.text ++ rest)) =
      ⟨true, phrase.eval (meaning scanDouble), []⟩ :=
  (readsPhrase total phrase).parse_eq gap delimits small

end

/-- `sscanf` of numbers that are printed as they stand. -/
def scanPlain (text : List UInt8) : Option String := some (textOf text)

/-- The plain scanner reads every number. -/
theorem scanPlain_total (number : Number) : (scanPlain number.text).isSome := rfl

/-- `"plate"` with a letter given by its number. -/
def plateName : Text :=
  [.plain 112 (by decide) (by decide), .unicode ⟨[48, 48, 54, 67], rfl, 108, rfl⟩ (by decide),
    .plain 97 (by decide) (by decide), .plain 116 (by decide) (by decide),
    .plain 101 (by decide) (by decide)]

/-- A member with comments around it and an array with a real number in it. -/
def platePhrase : Phrase :=
  .object [.line [118] 10 (List.forall_mem_singleton.mpr rfl) rfl]
    (.cons [] plateName (.one 32 rfl) [.spaces (.one 32 rfl)]
      (.array .none
        (.cons [] (.number ⟨true, .one 49 rfl, none, none⟩) []
          (.cons [] (.number ⟨false, .one 50 rfl, some (.one 53 rfl), none⟩)
            [.block [42] (by decide)] .nil))) [] .nil)

/-- A text of the phrase, and something behind it. -/
theorem parse_text_plate :
    parse scanPlain 93 "\x7b//v\n\"p\\u006Cate\" : [-1,2.5/***/]\x7d!".toUTF8.toList =
      ⟨true, .object [("plate", .array [.int (-1), .real "2.5"])], []⟩ := by
  have isText : "\x7b//v\n\"p\\u006Cate\" : [-1,2.5/***/]\x7d!".toUTF8.toList =
      Gap.text [] ++ (platePhrase.text ++ [33]) := by
    decide +kernel
  rw [isText]
  exact (parse_text scanPlain_total [] platePhrase (delimits_cons 33 [] rfl) (by decide +kernel)).trans
    (by rfl)

end VzSdk.Jsoncpp
