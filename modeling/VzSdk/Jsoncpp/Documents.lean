import VzSdk.Jsoncpp.RoundTrip

/-!
# Every document

What holds of `parse` whatever the document is: it ends, it reports one error if it
fails and none if it succeeds, and the root it leaves is a value the library can
hold, with its integers in the reader's form, so that it comes back from its own
text.
-/

namespace VzSdk.Jsoncpp

open VzSdk.Sdk (Json)
open VzSdk.Std VzSdk.Std.JsonSyntax

variable {scanDouble : List UInt8 → Option String} {past : UInt8}

/-! ## Errors -/

/-- Passing over comments goes forwards. -/
theorem skipCommentTokens_suffix (current : Location) :
    (skipCommentTokens current).start <:+ current ∧
      (skipCommentTokens current).stop <:+ (skipCommentTokens current).start := by
  fun_induction skipCommentTokens current with
  | case1 current token comment inductionHypothesis =>
      obtain ⟨start, stop⟩ := inductionHypothesis
      exact ⟨start.trans ((readToken_stop_suffix current).trans (readToken_start_suffix current)),
        stop⟩
  | case2 current => exact ⟨readToken_start_suffix current, readToken_stop_suffix current⟩

/-- Reading a token goes forwards. -/
theorem readToken_suffix (current : Location) : (readToken current).start <:+ current ∧
    (readToken current).stop <:+ (readToken current).start :=
  ⟨readToken_start_suffix current, readToken_stop_suffix current⟩

/-- A token before the end takes something. -/
theorem length_skipCommentTokens_lt {current : Location}
    (more : (skipCommentTokens current).type ≠ .tokenEndOfStream) :
    (skipCommentTokens current).stop.length < current.length := by
  fun_induction skipCommentTokens current with
  | case1 current token comment inductionHypothesis =>
      exact Nat.lt_trans (inductionHypothesis more) (length_stop_lt (by rw [comment]; decide))
  | case2 current => exact length_stop_lt more

/-- An error at a token of what was left. -/
structure ErrorInfo.Within (error : ErrorInfo) (current : Location) : Prop where
  start : error.token.start <:+ current
  stop : error.token.stop <:+ error.token.start

/-- An error in a part of a document is in the document. -/
theorem ErrorInfo.Within.mono {error : ErrorInfo} {current whole : Location}
    (within : error.Within current) (suffix : current <:+ whole) : error.Within whole :=
  ⟨within.start.trans suffix, within.stop⟩

/-- What a call answers: success reports nothing, failure reports one error. -/
structure Reading.Answers (reading : Reading) (reader : Reader) : Prop where
  accepted : reading.successful = true →
    reading.reader.errors = reader.errors ∧ reading.reader.current <:+ reader.current
  refused : reading.successful = false → ∃ error : ErrorInfo,
    reading.reader.errors = reader.errors ++ [error] ∧ error.Within reader.current

/-- And success has taken something. -/
structure Reading.Takes (reading : Reading) (reader : Reader) : Prop
    extends Reading.Answers reading reader where
  shorter : reading.successful = true →
    reading.reader.current.length < reader.current.length

namespace Reading.Answers

/-- What is accepted adds no error. -/
theorem accept {value : Json} {reader next : Reader} (errors : next.errors = reader.errors)
    (suffix : next.current <:+ reader.current) : Answers ⟨true, value, next⟩ reader where
  accepted _ := ⟨errors, suffix⟩
  refused := fun failed => by cases failed

/-- What is refused adds one error, in the document. -/
theorem refuse {value : Json} {reader next : Reader} {error : ErrorInfo}
    (errors : next.errors = reader.errors ++ [error]) (within : error.Within reader.current) :
    Answers ⟨false, value, next⟩ reader where
  accepted := fun accepted => by cases accepted
  refused _ := ⟨error, errors, within⟩

/-- What a call further on answers. -/
theorem later {reading : Reading} {next reader : Reader} (answers : reading.Answers next)
    (errors : next.errors = reader.errors) (suffix : next.current <:+ reader.current) :
    reading.Answers reader where
  accepted successful := by
    obtain ⟨same, further⟩ := answers.accepted successful
    exact ⟨same.trans errors, further.trans suffix⟩
  refused failed := by
    obtain ⟨error, added, within⟩ := answers.refused failed
    exact ⟨error, errors ▸ added, within.mono suffix⟩

/-- A call behind a token that was taken. -/
theorem behind {reading : Reading} {next reader : Reader} (answers : reading.Answers next)
    (errors : next.errors = reader.errors) (suffix : next.current <:+ reader.current)
    (shorter : next.current.length < reader.current.length) : reading.Takes reader where
  toAnswers := answers.later errors suffix
  shorter successful :=
    Nat.lt_of_le_of_lt (answers.accepted successful).2.length_le shorter

end Reading.Answers

/-- A turn of `readObject` answers if the next one does, with less left. -/
theorem Reading.Takes.endMember {value : Reading} {before reader : Reader}
    (takes : value.Takes before) (errors : before.errors = reader.errors)
    (suffix : before.current <:+ reader.current) {members : List (String × Json)}
    {next : Reader → Reading}
    (answers : ∀ reader : Reader, reader.current <:+ before.current →
      reader.current.length < before.current.length → (next reader).Answers reader) :
    (value.endMember members next).Answers reader := by
  unfold Reading.endMember
  split
  · next successful =>
      obtain ⟨same, further⟩ := takes.accepted successful
      have shorter := takes.shorter successful
      have noErrors := same.trans errors
      obtain ⟨start, stop⟩ := readToken_suffix value.reader.current
      have commaSuffix := stop.trans (start.trans further)
      have commaShorter := Nat.lt_of_le_of_lt (stop.trans start).length_le shorter
      dsimp only
      split
      · exact .accept noErrors (commaSuffix.trans suffix)
      · split
        · exact (answers (value.reader.took (readToken value.reader.current)) commaSuffix
            commaShorter).later noErrors (commaSuffix.trans suffix)
        · split
          · obtain ⟨nextStart, nextStop⟩ :=
              skipCommentTokens_suffix (readToken value.reader.current).stop
            have behind := (nextStop.trans nextStart).trans commaSuffix
            have behindShorter := Nat.lt_of_le_of_lt (nextStop.trans nextStart).length_le
              commaShorter
            split
            · exact .accept noErrors (behind.trans suffix)
            · exact (answers (value.reader.took
                (skipCommentTokens (readToken value.reader.current).stop)) behind
                behindShorter).later noErrors (behind.trans suffix)
          · exact .refuse (congrArg (· ++ _) noErrors)
              ⟨(start.trans further).trans suffix, stop⟩
  · next failed =>
      obtain ⟨error, added, within⟩ := takes.refused (Bool.eq_false_iff.mpr failed)
      exact .refuse (errors ▸ added) (within.mono suffix)

/-- A number that is refused is the token of the error. -/
theorem decodeNumber_within {token : Token} {error : ErrorInfo}
    (failed : decodeNumber scanDouble token = .error error) : error.token = token := by
  have double : ∀ {error}, decodeDouble scanDouble token = .error error → error.token = token := by
    intro error failed
    unfold decodeDouble at failed
    split at failed
    · cases failed
      rfl
    · split at failed
      · cases failed
        rfl
      · cases failed
  unfold decodeNumber at failed
  split at failed
  · exact double failed
  · dsimp only at failed
    split at failed
    · cases failed
    · exact double failed
    · cases failed
      rfl

/-- An escape that is refused names its string. -/
theorem decodeUnicodeCodePoint_within {token : Token} {current : List UInt8} {error : ErrorInfo}
    (failed : decodeUnicodeCodePoint token current = .error error) : error.token = token := by
  have digits : ∀ {count unicode : Nat} {current : List UInt8} {error : ErrorInfo},
      decodeHexDigits token count unicode current = .error error → error.token = token := by
    intro count unicode current error failed
    fun_induction decodeHexDigits token count unicode current with
    | case1 => cases failed
    | case2 | case4 =>
        cases failed
        rfl
    | case3 _ _ _ _ _ _ inductionHypothesis => exact inductionHypothesis failed
  have escape : ∀ {current : List UInt8} {error : ErrorInfo},
      decodeUnicodeEscapeSequence token current = .error error → error.token = token := by
    intro current error failed
    unfold decodeUnicodeEscapeSequence at failed
    split at failed
    · cases failed
      rfl
    · exact digits failed
  unfold decodeUnicodeCodePoint at failed
  split at failed
  · next read =>
      cases failed
      exact escape read
  · split at failed
    · unfold decodeSurrogate at failed
      split at failed
      · cases failed
        rfl
      · split at failed
        · split at failed
          · next read =>
              cases failed
              exact escape read
          · cases failed
        · cases failed
          rfl
        · cases failed
          rfl
    · cases failed

/-- A string that is refused is the token of the error. -/
theorem decodeString_within {token : Token} {error : ErrorInfo}
    (failed : decodeString token = .error error) : error.token = token := by
  have chars : ∀ (decoded current : List UInt8), decodeChars token decoded current = .error error →
      error.token = token := by
    intro decoded current failed
    fun_induction decodeChars token decoded current with
    | case1 | case2 => cases failed
    | case3 =>
        cases failed
        rfl
    | case4 _ _ _ _ _ _ inductionHypothesis => exact inductionHypothesis failed
    | case5 _ _ _ read =>
        cases failed
        exact decodeUnicodeCodePoint_within read
    | case6 _ _ _ _ _ _ _ inductionHypothesis => exact inductionHypothesis failed
    | case7 =>
        cases failed
        rfl
    | case8 _ _ _ _ _ inductionHypothesis => exact inductionHypothesis failed
  exact chars _ _ failed

/-- A decoded token is taken, or refused at itself. -/
theorem Reader.takes_decoded {reader : Reader} {token : Token} (start : token.start <:+ reader.current)
    (stop : token.stop <:+ token.start) (shorter : token.stop.length < reader.current.length)
    (value : Json) {decoded : Except ErrorInfo Json}
    (within : ∀ error, decoded = .error error → error.token = token) :
    ((reader.took token).decoded value decoded).Takes reader := by
  cases decoded with
  | ok decoded => exact ⟨.accept rfl (stop.trans start), fun _ => shorter⟩
  | error error =>
      have isToken := within error rfl
      exact ⟨.refuse rfl ⟨isToken ▸ start, isToken ▸ stop⟩, fun failed => by cases failed⟩

/-- What the calls with some fuel answer: three for each byte that is left are enough. -/
structure Answering (scanDouble : List UInt8 → Option String) (past : UInt8) (fuel : Nat) :
    Prop where
  value : ∀ (reader : Reader) (value : Json), 3 * reader.current.length < fuel →
    (readValue scanDouble past fuel reader value).Takes reader
  array : ∀ reader : Reader, 3 * reader.current.length + 2 < fuel →
    (readArray scanDouble past fuel reader).Answers reader
  elements : ∀ (reader : Reader) (elements : List Json), 3 * reader.current.length + 1 < fuel →
    (readElements scanDouble past fuel reader elements).Answers reader
  object : ∀ (reader : Reader) (name : List UInt8) (members : List (String × Json)),
    3 * reader.current.length < fuel →
    (readObject scanDouble past fuel reader name members).Answers reader

namespace Answering

variable {fuel : Nat} (answering : Answering scanDouble past fuel)

include answering

/-- Reading a value answers, and takes something. -/
theorem takes_value (reader : Reader) (value : Json)
    (enough : 3 * reader.current.length < fuel + 1) :
    (readValue scanDouble past (fuel + 1) reader value).Takes reader := by
  obtain ⟨start, stop⟩ := skipCommentTokens_suffix reader.current
  have taken : (skipCommentTokens reader.current).type ≠ .tokenEndOfStream →
      (skipCommentTokens reader.current).stop.length < reader.current.length :=
    length_skipCommentTokens_lt
  rw [readValue]
  split
  · next begins =>
      have shorter := taken (by rw [begins]; decide)
      refine (answering.object (reader.took _) [] [] ?_).behind rfl (stop.trans start) shorter
      change 3 * (skipCommentTokens reader.current).stop.length < fuel
      omega
  · next begins =>
      have shorter := taken (by rw [begins]; decide)
      refine (answering.array (reader.took _) ?_).behind rfl (stop.trans start) shorter
      change 3 * (skipCommentTokens reader.current).stop.length + 2 < fuel
      omega
  · next isNumber =>
      exact Reader.takes_decoded start stop (taken (by rw [isNumber]; decide)) value
        fun error failed => decodeNumber_within failed
  · next isString =>
      refine Reader.takes_decoded start stop (taken (by rw [isString]; decide)) value ?_
      intro error failed
      cases decoded : decodeString (skipCommentTokens reader.current) with
      | ok text =>
          rw [decoded] at failed
          cases failed
      | error =>
          rw [decoded] at failed
          cases failed
          exact decodeString_within decoded
  · next isTrue =>
      exact ⟨.accept rfl (stop.trans start), fun _ => taken (by rw [isTrue]; decide)⟩
  · next isFalse =>
      exact ⟨.accept rfl (stop.trans start), fun _ => taken (by rw [isFalse]; decide)⟩
  · next isNull =>
      exact ⟨.accept rfl (stop.trans start), fun _ => taken (by rw [isNull]; decide)⟩
  · exact ⟨.refuse rfl ⟨start, stop⟩, fun failed => by cases failed⟩

/-- Reading an array answers. -/
theorem answers_array (reader : Reader) (enough : 3 * reader.current.length + 2 < fuel + 1) :
    (readArray scanDouble past (fuel + 1) reader).Answers reader := by
  have suffix := skipSpaces_suffix reader.current
  have shorter := suffix.length_le
  rw [readArray]
  split
  · exact .accept rfl ((readToken_stop_suffix _).trans ((readToken_start_suffix _).trans suffix))
  · refine (answering.elements { reader with current := skipSpaces reader.current } [] ?_).later rfl
      suffix
    change 3 * (skipSpaces reader.current).length + 1 < fuel
    omega

/-- Reading the rest of an array answers. -/
theorem answers_elements (reader : Reader) (elements : List Json)
    (enough : 3 * reader.current.length + 1 < fuel + 1) :
    (readElements scanDouble past (fuel + 1) reader elements).Answers reader := by
  have element := answering.value reader .null (by omega)
  rw [readElements]
  generalize readValue scanDouble past fuel reader .null = reading at element
  dsimp only
  split
  · next successful =>
      obtain ⟨errors, suffix⟩ := element.accepted successful
      have shorter := element.shorter successful
      obtain ⟨start, stop⟩ := skipCommentTokens_suffix reading.reader.current
      have length := (stop.trans start).length_le
      split
      · exact .accept errors ((stop.trans start).trans suffix)
      · split
        · refine (answering.elements (reading.reader.took _) _ ?_).later errors
            ((stop.trans start).trans suffix)
          change 3 * (skipCommentTokens reading.reader.current).stop.length + 1 < fuel
          omega
        · exact .refuse (congrArg (· ++ _) errors) ⟨start.trans suffix, stop⟩
  · next failed =>
      obtain ⟨error, errors, within⟩ := element.refused (Bool.eq_false_iff.mpr failed)
      exact .refuse errors within

/-- Reading the rest of an object answers. -/
theorem answers_object (reader : Reader) (name : List UInt8) (members : List (String × Json))
    (enough : 3 * reader.current.length < fuel + 1) :
    (readObject scanDouble past (fuel + 1) reader name members).Answers reader := by
  obtain ⟨start, stop⟩ := skipCommentTokens_suffix reader.current
  have taken : (skipCommentTokens reader.current).type ≠ .tokenEndOfStream →
      (skipCommentTokens reader.current).stop.length < reader.current.length :=
    length_skipCommentTokens_lt
  rw [readObject]
  generalize skipCommentTokens reader.current = tokenName at start stop taken
  dsimp only
  split
  · exact .accept rfl (stop.trans start)
  · split
    · next isString =>
        have shorter := taken (by rw [isString]; decide)
        split
        · next failed =>
            have isToken := decodeString_within failed
            exact .refuse rfl ⟨isToken ▸ start, isToken ▸ stop⟩
        · next text _ =>
            obtain ⟨colonStart, colonStop⟩ := readToken_suffix (reader.took tokenName).current
            generalize readToken (reader.took tokenName).current = colon at colonStart colonStop
            have before : colon.start <:+ reader.current := colonStart.trans (stop.trans start)
            have left := (colonStop.trans colonStart).length_le
            change colon.stop.length ≤ tokenName.stop.length at left
            split
            · have errors : ((reader.took tokenName).took colon).errors = reader.errors := rfl
              refine (answering.value ((reader.took tokenName).took colon) _ ?_).endMember errors
                (colonStop.trans before) fun next suffix shorter => ?_
              · change 3 * colon.stop.length < fuel
                omega
              · change next.current.length < colon.stop.length at shorter
                exact answering.object next _ _ (by omega)
            · exact .refuse rfl ⟨before, colonStop⟩
    · exact .refuse rfl ⟨start, stop⟩

end Answering

/-- Every call answers, by induction on the fuel. -/
theorem answering (fuel : Nat) : Answering scanDouble past fuel := by
  induction fuel with
  | zero =>
      exact ⟨fun _ _ enough => absurd enough (Nat.not_lt_zero _),
        fun _ enough => absurd enough (Nat.not_lt_zero _),
        fun _ _ enough => absurd enough (Nat.not_lt_zero _),
        fun _ _ _ enough => absurd enough (Nat.not_lt_zero _)⟩
  | succ fuel inductionHypothesis =>
      exact ⟨inductionHypothesis.takes_value, inductionHypothesis.answers_array,
        inductionHypothesis.answers_elements, inductionHypothesis.answers_object⟩

/-- A document that is refused is refused with one error, at a token of it; one that is accepted
has none. -/
theorem parse_reports (scanDouble : List UInt8 → Option String) (past : UInt8)
    (document : List UInt8) :
    let parsed := parse scanDouble past document
    if parsed.successful then parsed.errors = []
    else ∃ error : ErrorInfo, parsed.errors = [error] ∧ error.Within document := by
  have answers : (readValue scanDouble past _ ⟨document, []⟩ .null).Takes ⟨document, []⟩ :=
    (answering _).value ⟨document, []⟩ .null (Nat.lt_succ_self (3 * document.length))
  dsimp only
  split
  · next successful => exact (answers.accepted successful).1
  · next failed => exact answers.refused (Bool.eq_false_iff.mpr failed)

/-! ## Values -/

/-- The numbers that are read. -/
def readNumbers (scanDouble : List UInt8 → Option String) : Numbers where
  int value := -2 ^ 63 ≤ value ∧ value < 2 ^ 31
  uint value := 2 ^ 31 ≤ value ∧ value < 2 ^ 64
  real text := ∃ bytes, scanDouble bytes = some text

/-- An integer that is read is within the bound. -/
theorem decodeDigits_le {bound : Nat} {digits : List UInt8} {value result : Nat}
    (decoded : decodeDigits bound value digits = .integer result) (fits : value ≤ bound) :
    result ≤ bound := by
  induction digits generalizing value with
  | nil =>
      cases decoded
      exact fits
  | cons c digits inductionHypothesis =>
      rw [decodeDigits] at decoded
      split at decoded
      · cases decoded
      · dsimp only at decoded
        split at decoded
        · cases decoded
        · next inside =>
            refine inductionHypothesis decoded ?_
            by_cases reached : bound / 10 ≤ value
            · have last := not_or.mp fun beyond => inside ⟨reached, beyond⟩
              have small := not_or.mp last.2
              omega
            · have range : c.toNat ≤ 57 := by
                have notDigit : ¬(c < 48 ∨ 57 < c) := by assumption
                rw [not_or, UInt8.lt_iff_toNat_lt, UInt8.lt_iff_toNat_lt] at notDigit
                exact Nat.le_of_not_lt notDigit.2
              omega

/-- An integer within the bound can be held. -/
theorem holds_integerValue {isNegative : Bool} {value : Nat}
    (fits : value ≤ maxIntegerValue isNegative) :
    Held (readNumbers scanDouble) (integerValue isNegative value) := by
  have bound : maxInt = 2 ^ 31 - 1 := rfl
  cases isNegative with
  | true =>
      change value ≤ 2 ^ 63 at fits
      exact .int ⟨by omega, by omega⟩
  | false =>
      change value ≤ 2 ^ 64 - 1 at fits
      rw [integerValue, if_neg Bool.false_ne_true]
      split
      · exact .int ⟨by omega, by omega⟩
      · exact .uint ⟨by omega, by omega⟩

/-- A number that is decoded can be held. -/
theorem holds_decodeNumber {token : Token} {value : Json}
    (decoded : decodeNumber scanDouble token = .ok value) :
    Held (readNumbers scanDouble) value := by
  have double : decodeDouble scanDouble token = .ok value →
      Held (readNumbers scanDouble) value := by
    intro decoded
    unfold decodeDouble at decoded
    split at decoded
    · cases decoded
    · split at decoded
      · cases decoded
      · next real =>
          cases decoded
          exact .real ⟨token.text, real⟩
  unfold decodeNumber at decoded
  split at decoded
  · exact double decoded
  · dsimp only at decoded
    split at decoded
    · next isInteger =>
        cases decoded
        exact holds_integerValue (decodeDigits_le isInteger (Nat.zero_le _))
    · exact double decoded
    · cases decoded

/-- A map stays one. -/
theorem mem_setMember {name : String} {value : Json} {members : List (String × Json)}
    {member : String × Json} (inside : member ∈ setMember name value members) :
    member = (name, value) ∨ member ∈ members := by
  induction members with
  | nil => exact .inl (List.mem_singleton.mp inside)
  | cons entry members inductionHypothesis =>
      rw [setMember] at inside
      split at inside
      · exact List.mem_cons.mp inside
      · next same =>
          rcases List.mem_cons.mp inside with rfl | inside
          · rw [Std.LawfulEqCmp.eq_of_compare same]
            exact .inl rfl
          · exact .inr (List.mem_cons_of_mem _ inside)
      · rcases List.mem_cons.mp inside with rfl | inside
        · exact .inr List.mem_cons_self
        · exact (inductionHypothesis inside).imp_right (List.mem_cons_of_mem _)

/-- Setting a member keeps the names ascending. -/
theorem ascending_setMember {name : String} {value : Json} {members : List (String × Json)}
    (ascending : members.Pairwise fun first second => compare first.1 second.1 = .lt) :
    (setMember name value members).Pairwise
      fun first second => compare first.1 second.1 = .lt := by
  induction members with
  | nil => exact List.pairwise_singleton _ _
  | cons entry members inductionHypothesis =>
      obtain ⟨smaller, rest⟩ := List.pairwise_cons.mp ascending
      rw [setMember]
      split
      · next below =>
          refine List.pairwise_cons.mpr ⟨List.forall_mem_cons.mpr ⟨below, ?_⟩, ascending⟩
          exact fun member inside => Std.TransCmp.lt_trans below (smaller member inside)
      · exact List.pairwise_cons.mpr ⟨smaller, rest⟩
      · next above =>
          refine List.pairwise_cons.mpr ⟨fun member inside => ?_, inductionHypothesis rest⟩
          rcases mem_setMember inside with rfl | inside
          · exact Std.OrientedCmp.lt_of_gt above
          · exact smaller member inside

/-- Members that can be held. -/
structure HeldMembers (numbers : Numbers) (members : List (String × Json)) : Prop where
  isMap : IsMap members
  each : ∀ member ∈ members, Held numbers member.2

namespace HeldMembers

variable {numbers : Numbers} {members : List (String × Json)}

/-- No members can be held. -/
theorem nil : HeldMembers numbers [] := ⟨.nil, List.forall_mem_nil _⟩

/-- An object of such members can be held. -/
theorem object (holds : HeldMembers numbers members) : Held numbers (.object members) :=
  .object holds.isMap holds.each

/-- A member that can be held can be set. -/
theorem set (holds : HeldMembers numbers members) (bytes : List UInt8) {value : Json}
    (isValue : Held numbers value) : HeldMembers numbers (setMember (cText bytes) value members) where
  isMap := by
    refine ⟨fun member inside => ?_, ascending_setMember holds.isMap.ascending⟩
    rcases mem_setMember inside with rfl | inside
    · exact isCText_cText bytes
    · exact holds.isMap.names member inside
  each member inside := by
    rcases mem_setMember inside with rfl | inside
    · exact isValue
    · exact holds.each member inside

/-- The member under a name, null if there is none. -/
theorem lookup (holds : HeldMembers numbers members) (name : String) :
    Held numbers ((members.lookup name).getD .null) := by
  cases found : members.lookup name with
  | none => exact .null
  | some value =>
      obtain ⟨before, behind, rfl, _⟩ := List.lookup_eq_some_iff.mp found
      exact holds.each (name, value) (List.mem_append_right _ List.mem_cons_self)

end HeldMembers

/-- The calls with some fuel leave values that can be held, also when they fail. -/
structure Holding (scanDouble : List UInt8 → Option String) (past : UInt8) (fuel : Nat) :
    Prop where
  value : ∀ (reader : Reader) (value : Json), Held (readNumbers scanDouble) value →
    Held (readNumbers scanDouble) (readValue scanDouble past fuel reader value).value
  array : ∀ reader : Reader,
    Held (readNumbers scanDouble) (readArray scanDouble past fuel reader).value
  elements : ∀ (reader : Reader) (elements : List Json),
    (∀ element ∈ elements, Held (readNumbers scanDouble) element) →
      Held (readNumbers scanDouble) (readElements scanDouble past fuel reader elements).value
  object : ∀ (reader : Reader) (name : List UInt8) (members : List (String × Json)),
    HeldMembers (readNumbers scanDouble) members →
      Held (readNumbers scanDouble) (readObject scanDouble past fuel reader name members).value

namespace Holding

variable {fuel : Nat} (holding : Holding scanDouble past fuel)

include holding

/-- What is read as a value can be held. -/
theorem holds_value (reader : Reader) (value : Json) (holds : Held (readNumbers scanDouble) value) :
    Held (readNumbers scanDouble) (readValue scanDouble past (fuel + 1) reader value).value := by
  rw [readValue]
  split
  · exact holding.object _ [] [] .nil
  · exact holding.array _
  · cases decoded : decodeNumber scanDouble (skipCommentTokens reader.current) with
    | ok number =>
        exact holds_decodeNumber decoded
    | error error => exact holds
  · cases decoded : decodeString (skipCommentTokens reader.current) with
    | ok text => exact .string (isCText_cText text)
    | error error => exact holds
  · exact .boolean true
  · exact .boolean false
  · exact .null
  · exact holds

/-- What is read as an array can be held. -/
theorem holds_array (reader : Reader) :
    Held (readNumbers scanDouble) (readArray scanDouble past (fuel + 1) reader).value := by
  rw [readArray]
  split
  · exact .array (List.forall_mem_nil _)
  · exact holding.elements _ [] (List.forall_mem_nil _)

/-- What is read as the rest of an array can be held. -/
theorem holds_elements (reader : Reader) (elements : List Json)
    (each : ∀ element ∈ elements, Held (readNumbers scanDouble) element) :
    Held (readNumbers scanDouble)
      (readElements scanDouble past (fuel + 1) reader elements).value := by
  have element := holding.value reader .null .null
  have more : ∀ value ∈ elements ++ [(readValue scanDouble past fuel reader .null).value],
      Held (readNumbers scanDouble) value :=
    List.forall_mem_append.mpr ⟨each, List.forall_mem_singleton.mpr element⟩
  rw [readElements]
  dsimp only
  split
  · split
    · exact .array more
    · split
      · exact holding.elements _ _ more
      · exact .array more
  · exact .array more

omit holding in
/-- What is read behind a member can be held. -/
theorem holds_endMember {value : Reading} {members : List (String × Json)}
    {next : Reader → Reading} (holds : HeldMembers (readNumbers scanDouble) members)
    (later : ∀ reader, Held (readNumbers scanDouble) (next reader).value) :
    Held (readNumbers scanDouble) (value.endMember members next).value := by
  unfold Reading.endMember
  split
  · dsimp only
    split
    · exact holds.object
    · split
      · exact later _
      · split
        · split
          · exact holds.object
          · exact later _
        · exact holds.object
  · exact holds.object

/-- What is read as the rest of an object can be held. -/
theorem holds_object (reader : Reader) (name : List UInt8) (members : List (String × Json))
    (holds : HeldMembers (readNumbers scanDouble) members) :
    Held (readNumbers scanDouble)
      (readObject scanDouble past (fuel + 1) reader name members).value := by
  rw [readObject]
  dsimp only
  split
  · exact holds.object
  · split
    · split
      · exact holds.object
      · next text _ =>
          split
          · have more := holds.set text (holding.value
              ((reader.took (skipCommentTokens reader.current)).took
                (readToken (reader.took (skipCommentTokens reader.current)).current))
              _ (holds.lookup (cText text)))
            exact holds_endMember more fun next => holding.object next text _ more
          · exact holds.object
    · exact holds.object

end Holding

/-- The calls with any fuel leave values that can be held. -/
theorem holding (fuel : Nat) : Holding scanDouble past fuel := by
  induction fuel with
  | zero =>
      exact ⟨fun _ _ holds => holds, fun _ => .array (List.forall_mem_nil _),
        fun _ _ each => .array each, fun _ _ _ holds => holds.object⟩
  | succ fuel inductionHypothesis =>
      exact ⟨inductionHypothesis.holds_value, inductionHypothesis.holds_array,
        inductionHypothesis.holds_elements, inductionHypothesis.holds_object⟩

/-- Whatever the document is, the root can be held, and its integers are in the reader's form. -/
theorem holds_parse (document : List UInt8) :
    Held (readNumbers scanDouble) (parse scanDouble past document).root :=
  (holding _).value _ .null .null

/-- A value without real numbers. -/
def WithoutReals : Json → Prop := Held ⟨fun _ => True, fun _ => True, fun _ => False⟩

/-- A value without real numbers, with its integers in the reader's form. -/
theorem Held.withoutReals {numbers : Numbers} {json : Json} (holds : Held numbers json)
    (withoutReals : WithoutReals json) : Held { numbers with real := fun _ => False } json := by
  induction holds with
  | null => exact .null
  | boolean value => exact .boolean value
  | int holds => exact .int holds
  | uint holds => exact .uint holds
  | real =>
      cases withoutReals with
      | real impossible => cases impossible
  | string isText => exact .string isText
  | array _ inductionHypothesis =>
      cases withoutReals with
      | array each => exact .array fun element member =>
          inductionHypothesis element member (each element member)
  | object isMap _ inductionHypothesis =>
      cases withoutReals with
      | object _ each => exact .object isMap fun member inside =>
          inductionHypothesis member inside (each member inside)

/-- Nothing of such a value changes when it is read again. -/
theorem normal_eq_self {json : Json}
    (holds : Held { readNumbers scanDouble with real := fun _ => False } json) :
    normal scanDouble json = json := by
  induction holds with
  | null | boolean | string => rw [normal]
  | int range =>
      rw [normal, normalInteger]
      exact if_pos range.2
  | uint range =>
      obtain ⟨low, _⟩ := range
      rw [normal, normalInteger, if_neg (by omega), Int.toNat_natCast]
  | real impossible => cases impossible
  | array _ inductionHypothesis =>
      rw [normal, normalElements_eq]
      exact congrArg Json.array ((List.map_congr_left inductionHypothesis).trans (List.map_id _))
  | object _ _ inductionHypothesis =>
      rw [normal, normalMembers_eq]
      refine congrArg Json.object ((List.map_congr_left fun member inside => ?_).trans
        (List.map_id _))
      rw [inductionHypothesis member inside]
      rfl

/-- What was read comes back from the text that is written of it, unless it has real numbers,
whatever the document was and whether it was accepted or not. -/
theorem parse_write_parse (total : ∀ number : Number, (scanDouble number.text).isSome)
    {document : List UInt8} (withoutReals : WithoutReals (parse scanDouble past document).root)
    (small : (write (parse scanDouble past document).root).length < 2 ^ 31) (next : UInt8) :
    parse scanDouble next (write (parse scanDouble past document).root) =
      ⟨true, (parse scanDouble past document).root, []⟩ := by
  have read : Held (readNumbers scanDouble) (parse scanDouble past document).root :=
    holds_parse document
  have holds := read.withoutReals withoutReals
  have stored : Held storedNumbers (parse scanDouble past document).root := by
    refine holds.imp ?_ ?_ ?_
    · exact fun value range => ⟨range.1, Int.lt_trans range.2 (by decide)⟩
    · exact fun value range => range.2
    · exact fun text impossible => impossible.elim
  rw [(isPhrase_of_holds total stored).reads_back total small, normal_eq_self holds]

/-- An array of one number. -/
def onePhrase : Phrase :=
  .array .none
    (.cons [] (.number ⟨true, .one 55 rfl, none, none⟩) [] .nil)

/-- A document with a comment, read, written and read again. -/
theorem parse_write_parse_comment :
    let root := (parse scanPlain 93 "/*n*/[-7]".toUTF8.toList).root
    parse scanPlain 0 (write root) = ⟨true, root, []⟩ := by
  have read : parse scanPlain 93 "/*n*/[-7]".toUTF8.toList = ⟨true, .array [.int (-7)], []⟩ := by
    have isText : "/*n*/[-7]".toUTF8.toList =
        Gap.text [.block [110] (by decide)] ++ (onePhrase.text ++ []) := by
      decide +kernel
    have means : onePhrase.eval (meaning scanPlain) = .array [.int (-7)] := by rfl
    rw [isText, ← means]
    exact (readsPhrase scanPlain_total onePhrase).parse_eq _ (fun _ h => by cases h)
      (by decide +kernel)
  have withoutReals : WithoutReals (parse scanPlain 93 "/*n*/[-7]".toUTF8.toList).root := by
    rw [read]
    exact .array (List.forall_mem_singleton.mpr (.int trivial))
  have small : (write (parse scanPlain 93 "/*n*/[-7]".toUTF8.toList).root).length < 2 ^ 31 := by
    rw [read]
    simp [write, writeValue, writeElements, valueToString, uintToString]
  exact parse_write_parse scanPlain_total withoutReals small 0

end VzSdk.Jsoncpp
