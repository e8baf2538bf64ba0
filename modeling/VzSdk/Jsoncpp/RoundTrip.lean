import VzSdk.Jsoncpp.Acceptance
import VzSdk.Jsoncpp.Writer

/-!
# Written and read again

A value the library can hold (`Held`) comes back from its text with its integers
in the form the reader gives them (`normal`). Whatever the reader takes, a value
without real numbers that it gave comes back as it is.
-/

namespace VzSdk.Jsoncpp

open VzSdk.Sdk (Json)
open VzSdk.Std VzSdk.Std.JsonSyntax

/-! ## Values -/

/-- A text without NULs, one character for each byte. -/
def IsCText (text : String) : Prop :=
  ∀ character ∈ text.toList, character.toNat ≠ 0 ∧ character.toNat < 256

instance (text : String) : Decidable (IsCText text) :=
  decidable_of_iff (text.toList.all fun character =>
    character.toNat != 0 && decide (character.toNat < 256)) (by simp [IsCText])

/-- What holds of the numbers of a value. -/
structure Numbers where
  int : Int → Prop
  uint : Nat → Prop
  real : String → Prop

/-- The entries of a map of members: C strings in the order of `strcmp`. -/
structure IsMap (members : List (String × Json)) : Prop where
  names : ∀ member ∈ members, IsCText member.1
  ascending : members.Pairwise fun first second => compare first.1 second.1 = .lt

/-- A value the library can hold, with such numbers. -/
inductive Held (numbers : Numbers) : Json → Prop where
  | null : Held numbers .null
  | boolean (value : Bool) : Held numbers (.boolean value)
  | int {value : Int} (holds : numbers.int value) : Held numbers (.int value)
  | uint {value : Nat} (holds : numbers.uint value) : Held numbers (.uint value)
  | real {text : String} (holds : numbers.real text) : Held numbers (.real text)
  | string {text : String} (isText : IsCText text) : Held numbers (.string text)
  | array {elements : List Json} (each : ∀ element ∈ elements, Held numbers element) :
      Held numbers (.array elements)
  | object {members : List (String × Json)} (isMap : IsMap members)
      (each : ∀ member ∈ members, Held numbers member.2) : Held numbers (.object members)

/-- Values whose numbers can be held otherwise can be held otherwise. -/
theorem Held.imp {numbers other : Numbers} (int : ∀ value, numbers.int value → other.int value)
    (uint : ∀ value, numbers.uint value → other.uint value)
    (real : ∀ text, numbers.real text → other.real text) {json : Json}
    (holds : Held numbers json) : Held other json := by
  induction holds with
  | null => exact .null
  | boolean value => exact .boolean value
  | int holds => exact .int (int _ holds)
  | uint holds => exact .uint (uint _ holds)
  | real holds => exact .real (real _ holds)
  | string isText => exact .string isText
  | array _ inductionHypothesis => exact .array inductionHypothesis
  | object isMap _ inductionHypothesis => exact .object isMap inductionHypothesis

/-- What the types hold, and real numbers by what a buffer of 32 characters prints of them. -/
def storedNumbers : Numbers where
  int value := -2 ^ 63 ≤ value ∧ value < 2 ^ 63
  uint value := value < 2 ^ 64
  real text := ∃ number : Number, number.text = bytesOf text ∧ number.text.length < 32

mutual

/-- A value as the reader has its text: integers signed if an `int` holds them, and a real number
as its text is decoded. -/
def normal (scanDouble : List UInt8 → Option String) : Json → Json
  | .null => .null
  | .int value => normalInteger value
  | .uint value => normalInteger value
  | .real text =>
      match decodeNumber scanDouble ⟨.tokenNumber, bytesOf text, []⟩ with
      | .ok value => value
      | .error _ => .null
  | .string value => .string value
  | .boolean value => .boolean value
  | .array elements => .array (normalElements scanDouble elements)
  | .object members => .object (normalMembers scanDouble members)

/-- The elements as they come back. -/
def normalElements (scanDouble : List UInt8 → Option String) : List Json → List Json
  | [] => []
  | element :: elements => normal scanDouble element :: normalElements scanDouble elements

/-- The members as they come back. -/
def normalMembers (scanDouble : List UInt8 → Option String) :
    List (String × Json) → List (String × Json)
  | [] => []
  | (name, value) :: members => (name, normal scanDouble value) :: normalMembers scanDouble members

end

/-! ## Texts -/

/-- A text without NUL is written whole. -/
theorem cString_eq {text : String} (isText : IsCText text) : Json.cString text = bytesOf text := by
  refine List.takeWhile_eq_self_iff.mpr fun byte member => ?_
  obtain ⟨character, inText, rfl⟩ := List.mem_map.mp member
  obtain ⟨nonzero, small⟩ := isText character inText
  rw [decide_eq_true_eq]
  intro zero
  have same := congrArg UInt8.toNat zero
  rw [UInt8.toNat_ofNat', Nat.mod_eq_of_lt small] at same
  exact nonzero same

/-- A text without NUL comes back. -/
theorem textOf_bytesOf {text : String} (isText : IsCText text) : textOf (bytesOf text) = text := by
  have back : (bytesOf text).map (fun byte => Char.ofNat byte.toNat) = text.toList := by
    rw [bytesOf, List.map_map]
    refine (List.map_congr_left fun character member => ?_).trans (List.map_id _)
    obtain ⟨_, small⟩ := isText character member
    rw [Function.comp_apply, UInt8.toNat_ofNat', Nat.mod_eq_of_lt small]
    exact Char.ofNat_toNat character
  rw [textOf, back, String.ofList_toList]

/-- A C string comes back from its bytes. -/
theorem cText_cString {text : String} (isText : IsCText text) :
    cText (Json.cString text) = text := by
  have whole : (Json.cString text).takeWhile (· ≠ 0) = Json.cString text :=
    List.takeWhile_eq_self_iff.mpr fun byte member =>
      decide_eq_true (Json.zero_not_mem_cString text byte member)
  rw [cText, whole, cString_eq isText, textOf_bytesOf isText]

/-- A text that is cut at the first NUL has none. -/
theorem isCText_cText (bytes : List UInt8) : IsCText (cText bytes) := by
  intro character member
  rw [cText, textOf, String.toList_ofList] at member
  obtain ⟨byte, inBytes, rfl⟩ := List.mem_map.mp member
  have nonzero : byte ≠ 0 := by simpa using List.all_eq_true.mp List.all_takeWhile byte inBytes
  have small := byte.toNat_lt
  rw [toNat_ofNat (.inl (Nat.lt_trans small (by decide)))]
  exact ⟨fun zero => nonzero (UInt8.toNat_inj.mp zero), small⟩

/-! ## Maps -/

/-- No members are a map. -/
theorem IsMap.nil : IsMap [] := ⟨List.forall_mem_nil _, .nil⟩

/-- A name behind all others is put at the end. -/
theorem setMember_last {name : String} {value : Json} {members : List (String × Json)}
    (last : ∀ member ∈ members, compare member.1 name = .lt) :
    setMember name value members = members ++ [(name, value)] := by
  induction members with
  | nil => rfl
  | cons member members inductionHypothesis =>
      obtain ⟨first, later⟩ := List.forall_mem_cons.mp last
      rw [setMember, Std.OrientedCmp.gt_of_lt first]
      dsimp only
      rw [inductionHypothesis later]
      rfl

/-- Ascending members are put one behind the other. -/
theorem objectOf_append (change : Json → Json) {members front : List (String × Json)}
    (names : ∀ member ∈ members, IsCText member.1)
    (ascending : (front.map (·.1) ++ members.map (·.1)).Pairwise
      fun first second => compare first second = .lt) :
    objectOf (members.map fun member => (Json.cString member.1, change member.2)) front =
      front ++ members.map fun member => (member.1, change member.2) := by
  induction members generalizing front with
  | nil => exact (List.append_nil front).symm
  | cons member members inductionHypothesis =>
      obtain ⟨isName, names⟩ := List.forall_mem_cons.mp names
      have last : ∀ entry ∈ front, compare entry.1 member.1 = .lt := fun entry inFront =>
        (List.pairwise_append.mp ascending).2.2 entry.1 (List.mem_map_of_mem inFront) member.1
          List.mem_cons_self
      have later : ((front ++ [(member.1, change member.2)]).map (·.1) ++
          members.map (·.1)).Pairwise (fun first second => compare first second = .lt) := by
        simpa using ascending
      rw [List.map_cons, objectOf, List.foldl_cons]
      dsimp only
      rw [cText_cString isName, setMember_last last]
      refine (inductionHypothesis names later).trans ?_
      rw [List.append_assoc, List.map_cons]
      rfl

/-- The members of a map are held as they come in. -/
theorem objectOf_members (change : Json → Json) {members : List (String × Json)}
    (isMap : IsMap members) :
    objectOf (members.map fun member => (Json.cString member.1, change member.2)) [] =
      members.map fun member => (member.1, change member.2) :=
  objectOf_append change isMap.names (List.pairwise_map.mpr isMap.ascending)

/-! ## Writing -/

variable {scanDouble : List UInt8 → Option String}

/-- Each element comes back for itself. -/
theorem normalElements_eq (elements : List Json) :
    normalElements scanDouble elements = elements.map (normal scanDouble) := by
  induction elements with
  | nil => rfl
  | cons element elements inductionHypothesis => rw [normalElements, inductionHypothesis, List.map_cons]

/-- Each member comes back for itself. -/
theorem normalMembers_eq (members : List (String × Json)) :
    normalMembers scanDouble members =
      members.map fun member => (member.1, normal scanDouble member.2) := by
  induction members with
  | nil => rfl
  | cons member members inductionHypothesis => rw [normalMembers, inductionHypothesis, List.map_cons]

/-- The value is written as a phrase that means it. -/
def IsPhrase (scanDouble : List UInt8 → Option String) (json : Json) : Prop :=
  ∃ phrase : Phrase, phrase.text = writeValue json ∧
    phrase.eval (meaning scanDouble) = normal scanDouble json

/-- What is written of elements is the text of elements. -/
theorem exists_elements {elements : List Json}
    (each : ∀ element ∈ elements, IsPhrase scanDouble element) (separator : List UInt8) :
    ∃ phrases : Elements, phrases.text separator = writeElements separator elements ∧
      phrases.eval (meaning scanDouble) = elements.map (normal scanDouble) := by
  induction elements generalizing separator with
  | nil => exact ⟨.nil, rfl, rfl⟩
  | cons element elements inductionHypothesis =>
      obtain ⟨⟨phrase, isText, isValue⟩, others⟩ := List.forall_mem_cons.mp each
      obtain ⟨phrases, areTexts, areValues⟩ := inductionHypothesis others [44]
      refine ⟨.cons [] phrase [] phrases, ?_, ?_⟩
      · simp [Elements.text, writeElements, isText, areTexts]
      · simp [Elements.eval, isValue, areValues]

/-- What is written of members is the text of members. -/
theorem exists_members {members : List (String × Json)}
    (each : ∀ member ∈ members, IsPhrase scanDouble member.2) (separator : List UInt8) :
    ∃ phrases : Members, phrases.text separator = writeMembers separator members ∧
      phrases.eval (meaning scanDouble) =
        members.map fun member => (Json.cString member.1, normal scanDouble member.2) := by
  induction members generalizing separator with
  | nil => exact ⟨.nil, rfl, rfl⟩
  | cons member members inductionHypothesis =>
      obtain ⟨⟨phrase, isText, isValue⟩, others⟩ := List.forall_mem_cons.mp each
      obtain ⟨phrases, areTexts, areValues⟩ := inductionHypothesis others [44]
      obtain ⟨name, isName, areBytes⟩ := exists_text (Json.zero_not_mem_cString member.1)
      refine ⟨.cons [] name .none [] phrase [] phrases, ?_, ?_⟩
      · simp [Members.text, writeMembers, isName, isText, areTexts, Spaces.none]
      · simp [Members.eval, isValue, areValues, areBytes]

/-- What is written of a value that can be held is the text of a value. -/
theorem isPhrase_of_holds (total : ∀ number : Number, (scanDouble number.text).isSome)
    {json : Json} (holds : Held storedNumbers json) : IsPhrase scanDouble json := by
  induction holds with
  | null => exact ⟨.null, rfl, rfl⟩
  | boolean value => exact ⟨.boolean value, by cases value <;> rfl, rfl⟩
  | int range =>
      obtain ⟨low, high⟩ := range
      obtain ⟨number, isText, isValue⟩ :=
        exists_number_int scanDouble low (Int.lt_trans high (by decide))
      exact ⟨.number number, isText, isValue⟩
  | uint high =>
      obtain ⟨number, isText, isValue⟩ := exists_number_uint scanDouble high
      exact ⟨.number number, isText, isValue⟩
  | real isNumber =>
      obtain ⟨number, isText, short⟩ := isNumber
      have decoded := decodeNumber_text (total number) (Nat.lt_trans short (by decide)) []
      rw [List.append_nil, isText] at decoded
      refine ⟨.number number, isText, ?_⟩
      rw [normal, decoded]
      rfl
  | @string text isText =>
      obtain ⟨phrase, isWritten, areBytes⟩ := exists_text (Json.zero_not_mem_cString text)
      refine ⟨.string phrase, isWritten, ?_⟩
      rw [Phrase.eval, areBytes, normal]
      exact congrArg Json.string (cText_cString isText)
  | array _ inductionHypothesis =>
      obtain ⟨phrases, areTexts, areValues⟩ := exists_elements inductionHypothesis []
      refine ⟨.array .none phrases, ?_, ?_⟩
      · rw [Phrase.text, writeValue, areTexts]
        rfl
      · rw [Phrase.eval, areValues, normal, normalElements_eq]
        rfl
  | @object members isMap _ inductionHypothesis =>
      obtain ⟨phrases, areTexts, areValues⟩ := exists_members inductionHypothesis []
      refine ⟨.object [] phrases, ?_, ?_⟩
      · rw [Phrase.text, writeValue, areTexts]
        rfl
      · rw [Phrase.eval, areValues, normal, normalMembers_eq]
        exact congrArg Json.object
          (objectOf_members (normal scanDouble) isMap)

/-! ### No NULs -/

/-- No NUL is written for a character. -/
theorem quotedCharacter_nonzero {c : UInt8} (nonzero : c ≠ 0) :
    ∀ byte ∈ quotedCharacter c, byte ≠ 0 := by
  have digit : ∀ n < 16, hexUpper n ≠ 0 := by decide
  have range := c.toNat_lt
  unfold quotedCharacter
  repeat' split
  all_goals
    simp only [List.forall_mem_cons, ne_eq, List.not_mem_nil, false_implies, implies_true, and_true]
  all_goals first
    | exact nonzero
    | decide
    | exact ⟨by decide, by decide, by decide, by decide, digit _ (by omega), digit _ (by omega)⟩

/-- A text without NUL, by evaluation. -/
theorem nonzero_of_all {text : List UInt8} (all : text.all (· != 0) = true) :
    ∀ byte ∈ text, byte ≠ 0 := by
  simpa using all

/-- No NUL is written for a string. -/
theorem valueToQuotedString_nonzero {value : List UInt8} (nonzero : ∀ byte ∈ value, byte ≠ 0) :
    ∀ byte ∈ valueToQuotedString value, byte ≠ 0 := by
  rw [valueToQuotedString_eq]
  refine List.forall_mem_cons.mpr ⟨by decide, List.forall_mem_append.mpr
    ⟨?_, nonzero_of_all rfl⟩⟩
  intro byte member
  obtain ⟨c, inside, isByte⟩ := List.mem_flatMap.mp member
  exact quotedCharacter_nonzero (nonzero c inside) byte isByte

/-- No number has a NUL. -/
theorem isNumberChar_ne_zero {byte : UInt8} (isChar : isNumberChar byte = true) : byte ≠ 0 := by
  rintro rfl
  cases isChar

/-- No number has a NUL. -/
theorem number_nonzero (number : Number) : ∀ byte ∈ number.text, byte ≠ 0 := fun byte member =>
  isNumberChar_ne_zero (isNumberChar_text number byte member)

/-- No NUL is written for elements. -/
theorem writeElements_nonzero {elements : List Json}
    (each : ∀ element ∈ elements, ∀ byte ∈ writeValue element, byte ≠ 0) {separator : List UInt8}
    (nonzero : ∀ byte ∈ separator, byte ≠ 0) :
    ∀ byte ∈ writeElements separator elements, byte ≠ 0 := by
  induction elements generalizing separator with
  | nil => exact List.forall_mem_nil _
  | cons element elements inductionHypothesis =>
      obtain ⟨first, later⟩ := List.forall_mem_cons.mp each
      exact List.forall_mem_append.mpr ⟨nonzero, List.forall_mem_append.mpr ⟨first,
        inductionHypothesis later (List.forall_mem_singleton.mpr (by decide))⟩⟩

/-- No NUL is written for members. -/
theorem writeMembers_nonzero {members : List (String × Json)}
    (each : ∀ member ∈ members, ∀ byte ∈ writeValue member.2, byte ≠ 0) {separator : List UInt8}
    (nonzero : ∀ byte ∈ separator, byte ≠ 0) :
    ∀ byte ∈ writeMembers separator members, byte ≠ 0 := by
  induction members generalizing separator with
  | nil => exact List.forall_mem_nil _
  | cons member members inductionHypothesis =>
      obtain ⟨first, later⟩ := List.forall_mem_cons.mp each
      refine List.forall_mem_append.mpr ⟨nonzero, List.forall_mem_append.mpr
        ⟨valueToQuotedString_nonzero (Json.zero_not_mem_cString member.1), ?_⟩⟩
      exact List.forall_mem_cons.mpr ⟨by decide, List.forall_mem_append.mpr ⟨first,
        inductionHypothesis later (List.forall_mem_singleton.mpr (by decide))⟩⟩

/-- No byte of a text that is written is zero. -/
theorem writeValue_nonzero {json : Json} (held : Held storedNumbers json) :
    ∀ byte ∈ writeValue json, byte ≠ 0 := by
  induction held with
  | null => exact nonzero_of_all rfl
  | boolean value => cases value <;> exact nonzero_of_all rfl
  | int range =>
      obtain ⟨number, isText, _⟩ := exists_number_int (fun _ => none) range.1
        (Int.lt_trans range.2 (by decide))
      rw [writeValue, ← isText]
      exact number_nonzero number
  | uint high =>
      obtain ⟨number, isText, _⟩ := exists_number_uint (fun _ => none) high
      rw [writeValue, ← isText]
      exact number_nonzero number
  | real isNumber =>
      obtain ⟨number, isText, _⟩ := isNumber
      rw [writeValue, ← isText]
      exact number_nonzero number
  | @string text _ => exact valueToQuotedString_nonzero (Json.zero_not_mem_cString text)
  | array _ inductionHypothesis =>
      exact List.forall_mem_cons.mpr ⟨by decide, List.forall_mem_append.mpr
        ⟨writeElements_nonzero inductionHypothesis (List.forall_mem_nil _), nonzero_of_all rfl⟩⟩
  | object _ _ inductionHypothesis =>
      exact List.forall_mem_cons.mpr ⟨by decide, List.forall_mem_append.mpr
        ⟨writeMembers_nonzero inductionHypothesis (List.forall_mem_nil _), nonzero_of_all rfl⟩⟩

/-- What is written is read back as it is to come back. -/
theorem IsPhrase.reads_back (total : ∀ number : Number, (scanDouble number.text).isSome)
    {json : Json} (isPhrase : IsPhrase scanDouble json) (small : (write json).length < 2 ^ 31)
    (past : UInt8) : parse scanDouble past (write json) = ⟨true, normal scanDouble json, []⟩ := by
  obtain ⟨phrase, isText, isValue⟩ := isPhrase
  rw [write, ← isText] at small ⊢
  have reads : parse scanDouble past ([] ++ (phrase.text ++ [10])) = _ :=
    (readsPhrase total phrase).parse_eq [] (delimits_cons 10 [] rfl) small
  rwa [isValue] at reads

/-- What is written is read back, with its numbers as the reader has them. -/
theorem parse_write (total : ∀ number : Number, (scanDouble number.text).isSome) {json : Json}
    (holds : Held storedNumbers json) (small : (write json).length < 2 ^ 31) (past : UInt8) :
    parse scanDouble past (write json) = ⟨true, normal scanDouble json, []⟩ :=
  (isPhrase_of_holds total holds).reads_back total small past

/-- A number that comes back signed, one that does not, and an escape. -/
def statusJson : Json := .object [("a\n", .array [.uint 7, .int 2147483648, .real "2.5"])]

/-- The value can be held. -/
theorem statusJson_held : Held storedNumbers statusJson := by
  refine .object ⟨List.forall_mem_singleton.mpr (by decide +kernel), List.pairwise_singleton _ _⟩
    (List.forall_mem_singleton.mpr (.array (List.forall_mem_cons.mpr ⟨.uint ?_,
      List.forall_mem_cons.mpr ⟨.int ⟨by decide, by decide⟩,
        List.forall_mem_singleton.mpr (.real ?_)⟩⟩)))
  · exact (by decide : 7 < 2 ^ 64)
  · exact ⟨⟨false, .one 50 rfl, some (.one 53 rfl),
      none⟩, by decide +kernel, by decide⟩

/-- The value comes back with its small number signed. -/
theorem parse_write_status :
    parse scanPlain 0 (write statusJson) =
      ⟨true, .object [("a\n", .array [.int 7, .uint 2147483648, .real "2.5"])], []⟩ := by
  have small : (write statusJson).length < 2 ^ 31 := by
    simp [write, statusJson, writeValue, writeMembers, writeElements, valueToString, uintToString]
    decide +kernel
  exact (parse_write scanPlain_total statusJson_held small 0).trans (by rfl)

end VzSdk.Jsoncpp
