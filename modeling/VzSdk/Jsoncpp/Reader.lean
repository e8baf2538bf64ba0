import VzSdk.Jsoncpp.Tokens

/-!
# The JSON reader

`Json::Reader::parse` with the features of the default constructor. What a
dereference of the end of the document finds there is a parameter, since the
document need not end with a NUL. The value of a call is what `currentValue()`
holds when it returns, also when it failed. Comments are passed over and not
collected.
-/

namespace VzSdk.Jsoncpp

open VzSdk.Sdk (Json)

/-- The members of a reader that reading changes. -/
structure Reader where
  /-- `current_`. -/
  current : Location
  /-- `errors_`. -/
  errors : List ErrorInfo

/-- What a call leaves: its answer, the value at `currentValue()` and the reader. -/
structure Reading where
  successful : Bool
  value : Json
  reader : Reader

namespace Reader

variable (reader : Reader)

/-- Note an error. -/
def addError (error : ErrorInfo) : Reader := { reader with errors := reader.errors ++ [error] }

/-- The errors are cut back to those before, but skipping tokens adds none. -/
def recoverFromError (skipUntilToken : TokenType) : Reader :=
  { reader with current := skipUntil skipUntilToken reader.current }

/-- Note an error, and skip to a token. -/
def addErrorAndRecover (message : String) (token : Token) (skipUntilToken : TokenType) : Reader :=
  (reader.addError ⟨token, message, none⟩).recoverFromError skipUntilToken

/-- Take a token. -/
def took (token : Token) : Reader := { reader with current := token.stop }

/-- The value is what was decoded, and stays as it was at an error. -/
def decoded (value : Json) : Except ErrorInfo Json → Reading
  | .ok decoded => ⟨true, decoded, reader⟩
  | .error error => ⟨false, value, reader.addError error⟩

end Reader

/-- `std::map::operator[]` with an assignment. -/
def setMember (name : String) (value : Json) : List (String × Json) → List (String × Json)
  | [] => [(name, value)]
  | entry :: members =>
      match compare name entry.1 with
      | .lt => (name, value) :: entry :: members
      | .eq => (entry.1, value) :: members
      | .gt => entry :: setMember name value members

/-- A turn of `readObject` from the value of a member on; `next` is the next turn. Behind a comment
every token is taken for a comma. -/
def Reading.endMember (value : Reading) (members : List (String × Json))
    (next : Reader → Reading) : Reading :=
  if value.successful then
    let comma := readToken value.reader.current
    if comma.type = .tokenObjectEnd then ⟨true, .object members, value.reader.took comma⟩
    else if comma.type = .tokenArraySeparator then next (value.reader.took comma)
    else if comma.type = .tokenComment then
      let comma := skipCommentTokens comma.stop
      if comma.type = .tokenObjectEnd then ⟨true, .object members, value.reader.took comma⟩
      else next (value.reader.took comma)
    else
      ⟨false, .object members,
        (value.reader.took comma).addErrorAndRecover "Missing ',' or '\x7d' in object declaration" comma
          .tokenObjectEnd⟩
  else ⟨false, .object members, value.reader.recoverFromError .tokenObjectEnd⟩

section

variable (scanDouble : List UInt8 → Option String) (past : UInt8)

mutual

/-- `readValue`, with a bound on the depth of the calls. -/
def readValue : Nat → Reader → Json → Reading
  | 0, reader, value => ⟨false, value, reader⟩
  | fuel + 1, reader, value =>
      let token := skipCommentTokens reader.current
      let reader := reader.took token
      match token.type with
      | .tokenObjectBegin => readObject fuel reader [] []
      | .tokenArrayBegin => readArray fuel reader
      | .tokenNumber => reader.decoded value (decodeNumber scanDouble token)
      | .tokenString =>
          reader.decoded value ((decodeString token).map fun decoded => .string (cText decoded))
      | .tokenTrue => ⟨true, .boolean true, reader⟩
      | .tokenFalse => ⟨true, .boolean false, reader⟩
      | .tokenNull => ⟨true, .null, reader⟩
      | _ =>
          ⟨false, value,
            reader.addError ⟨token, "Syntax error: value, object or array expected.", none⟩⟩

/-- `readArray`, from behind the opening bracket. -/
def readArray : Nat → Reader → Reading
  | 0, reader => ⟨false, .array [], reader⟩
  | fuel + 1, reader =>
      let current := skipSpaces reader.current
      if current.head?.getD past = 93 then
        ⟨true, .array [], reader.took (readToken current)⟩
      else readElements fuel { reader with current := current } []

/-- The loop of `readArray`. -/
def readElements : Nat → Reader → List Json → Reading
  | 0, reader, elements => ⟨false, .array elements, reader⟩
  | fuel + 1, reader, elements =>
      let element := readValue fuel reader .null
      let elements := elements ++ [element.value]
      if element.successful then
        let token := skipCommentTokens element.reader.current
        let reader := element.reader.took token
        if token.type = .tokenArrayEnd then ⟨true, .array elements, reader⟩
        else if token.type = .tokenArraySeparator then readElements fuel reader elements
        else
          ⟨false, .array elements,
            reader.addErrorAndRecover "Missing ',' or ']' in array declaration" token
              .tokenArrayEnd⟩
      else ⟨false, .array elements, element.reader.recoverFromError .tokenArrayEnd⟩

/-- The loop of `readObject`; `name` is the name before, empty at first. -/
def readObject : Nat → Reader → List UInt8 → List (String × Json) → Reading
  | 0, reader, _, members => ⟨false, .object members, reader⟩
  | fuel + 1, reader, name, members =>
      let tokenName := skipCommentTokens reader.current
      let reader := reader.took tokenName
      if tokenName.type = .tokenObjectEnd ∧ name = [] then ⟨true, .object members, reader⟩
      else if tokenName.type = .tokenString then
        match decodeString tokenName with
        | .error error =>
            ⟨false, .object members, (reader.addError error).recoverFromError .tokenObjectEnd⟩
        | .ok name =>
            let colon := readToken reader.current
            let reader := reader.took colon
            if colon.type = .tokenMemberSeparator then
              let value := readValue fuel reader ((members.lookup (cText name)).getD .null)
              let members := setMember (cText name) value.value members
              value.endMember members fun reader => readObject fuel reader name members
            else
              ⟨false, .object members,
                reader.addErrorAndRecover "Missing ':' after object member name" colon
                  .tokenObjectEnd⟩
      else
        ⟨false, .object members,
          reader.addErrorAndRecover "Missing '\x7d' or object member name" tokenName .tokenObjectEnd⟩

end

/-- What `parse` answers and leaves in `root` and `errors_`. -/
structure Parsed where
  successful : Bool
  root : Json
  errors : List ErrorInfo

/-- `parse`; the calls take three steps for each byte at most (`parse_reports`). -/
def parse (document : List UInt8) : Parsed :=
  let reading := readValue scanDouble past (3 * document.length + 1) ⟨document, []⟩ .null
  ⟨reading.successful, reading.value, reading.reader.errors⟩

end

end VzSdk.Jsoncpp
