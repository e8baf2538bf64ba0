import VzSdk.Std.Loop
import VzSdk.Std.Sextets

/-!
# Base64

`EncodeFromArray` writes three bytes as four characters and pads the last group;
`DecodeFromArray` reads a text quantum by quantum, under flags that say what is
ignored, whether pads are needed and where the text may end.
`decodeFromArray_of_encoded` says that an encoded text is decoded whatever
ignored characters stand in it.
-/

namespace VzSdk.Base.Base64

open VzSdk.Std

/-- `kPad`: the padding character. -/
def kPad : UInt8 := 61

/-- The table's mark of padding. -/
def pd : UInt8 := 0xFD

/-- The table's mark of white space. -/
def sp : UInt8 := 0xFE

/-- The table's mark of illegal characters. -/
def il : UInt8 := 0xFF

/-- The characters by their codes. -/
def base64Table : List UInt8 := [
  65, 66, 67, 68, 69, 70, 71, 72, 73, 74, 75, 76, 77,                 -- ABCDEFGHIJKLM
  78, 79, 80, 81, 82, 83, 84, 85, 86, 87, 88, 89, 90,                 -- NOPQRSTUVWXYZ
  97, 98, 99, 100, 101, 102, 103, 104, 105, 106, 107, 108, 109,       -- abcdefghijklm
  110, 111, 112, 113, 114, 115, 116, 117, 118, 119, 120, 121, 122,    -- nopqrstuvwxyz
  48, 49, 50, 51, 52, 53, 54, 55, 56, 57, 43, 47]                     -- 0123456789+/

/-- `DecodeTable`. -/
def decodeTable : List UInt8 := [
  il, il, il, il, il, il, il, il, il, sp,  --   0 -   9
  sp, sp, sp, sp, il, il, il, il, il, il,  --  10 -  19
  il, il, il, il, il, il, il, il, il, il,  --  20 -  29
  il, il, sp, il, il, il, il, il, il, il,  --  30 -  39
  il, il, il, 62, il, il, il, 63, 52, 53,  --  40 -  49
  54, 55, 56, 57, 58, 59, 60, 61, il, il,  --  50 -  59
  il, pd, il, il, il, 0, 1, 2, 3, 4,       --  60 -  69
  5, 6, 7, 8, 9, 10, 11, 12, 13, 14,       --  70 -  79
  15, 16, 17, 18, 19, 20, 21, 22, 23, 24,  --  80 -  89
  25, il, il, il, il, il, il, 26, 27, 28,  --  90 -  99
  29, 30, 31, 32, 33, 34, 35, 36, 37, 38,  -- 100 - 109
  39, 40, 41, 42, 43, 44, 45, 46, 47, 48,  -- 110 - 119
  49, 50, 51, il, il, il, il, il, il, il,  -- 120 - 129
  il, il, il, il, il, il, il, il, il, il,  -- 130 - 139
  il, il, il, il, il, il, il, il, il, il,  -- 140 - 149
  il, il, il, il, il, il, il, il, il, il,  -- 150 - 159
  il, il, il, il, il, il, il, il, il, il,  -- 160 - 169
  il, il, il, il, il, il, il, il, il, il,  -- 170 - 179
  il, il, il, il, il, il, il, il, il, il,  -- 180 - 189
  il, il, il, il, il, il, il, il, il, il,  -- 190 - 199
  il, il, il, il, il, il, il, il, il, il,  -- 200 - 209
  il, il, il, il, il, il, il, il, il, il,  -- 210 - 219
  il, il, il, il, il, il, il, il, il, il,  -- 220 - 229
  il, il, il, il, il, il, il, il, il, il,  -- 230 - 239
  il, il, il, il, il, il, il, il, il, il,  -- 240 - 249
  il, il, il, il, il, il]                  -- 250 - 255

/-- `Base64Table[c]`. -/
def base64Char (c : UInt8) : UInt8 := base64Table.getD c.toNat 0

/-- `DecodeTable[ch]`. -/
def decoded (ch : UInt8) : UInt8 := decodeTable.getD ch.toNat il

/-- `IsBase64Char`. -/
def isBase64Char (ch : UInt8) : Bool :=
  (65 ≤ ch && ch ≤ 90) || (97 ≤ ch && ch ≤ 122) || (48 ≤ ch && ch ≤ 57) || ch = 43 || ch = 47

/-- One turn of the loop for each line: the bytes that `i` has not reached decide which of the
branches are taken. -/
def encodeFromArray : List UInt8 → List UInt8
  | [] => []
  | [high] =>
      [base64Char ((high >>> 2) &&& (0x3f : UInt8)), base64Char ((high <<< 4) &&& (0x3f : UInt8)),
        kPad, kPad]
  | [high, middle] =>
      [base64Char ((high >>> 2) &&& (0x3f : UInt8)),
        base64Char (((high <<< 4) &&& (0x3f : UInt8)) ||| ((middle >>> 4) &&& (0x0f : UInt8))),
        base64Char ((middle <<< 2) &&& (0x3f : UInt8)), kPad]
  | high :: middle :: low :: rest =>
      [base64Char ((high >>> 2) &&& (0x3f : UInt8)),
        base64Char (((high <<< 4) &&& (0x3f : UInt8)) ||| ((middle >>> 4) &&& (0x0f : UInt8))),
        base64Char (((middle <<< 2) &&& (0x3f : UInt8)) ||| ((low >>> 6) &&& (0x03 : UInt8))),
        base64Char (low &&& (0x3f : UInt8))] ++ encodeFromArray rest

/-! ## Decoding -/

/-- `DO_PARSE_STRICT`, `DO_PARSE_WHITE` and `DO_PARSE_ANY`. -/
inductive ParseFlags where
  | strict
  | white
  | any
deriving DecidableEq, Repr

/-- `DO_PAD_YES`, `DO_PAD_ANY` and `DO_PAD_NO`. -/
inductive PadFlags where
  | yes
  | any
  | no
deriving DecidableEq, Repr

/-- `DO_TERM_BUFFER`, `DO_TERM_CHAR` and `DO_TERM_ANY`. -/
inductive TermFlags where
  | buffer
  | char
  | any
deriving DecidableEq, Repr

/-- What is asked of the characters, of the padding and of the end. -/
structure DecodeFlags where
  parse : ParseFlags
  pad : PadFlags
  term : TermFlags
deriving DecidableEq, Repr

/-- `DO_STRICT`. -/
def doStrict : DecodeFlags := ⟨.strict, .yes, .buffer⟩

/-- `DO_LAX`. -/
def doLax : DecodeFlags := ⟨.any, .any, .char⟩

/-- The locals of `GetNextQuantum` with `*dpos` and `qbuf`, of which four places are used. -/
structure Quantum where
  byteLen : Nat
  padLen : Nat
  padStart : Nat
  dpos : Nat
  qbuf : Nat → UInt8

namespace Quantum

/-- The next digit is put into the buffer. -/
def store (quantum : Quantum) (value : UInt8) : Quantum :=
  { quantum with
    qbuf := fun slot => if slot = quantum.byteLen then value else quantum.qbuf slot }

/-- One character. Leaving is the `break`. -/
def accept (parse : ParseFlags) (illegalPads : Bool) (quantum : Quantum) (ch : UInt8) :
    Turn Quantum Quantum :=
  let value := decoded ch
  let quantum := quantum.store value
  if value = il ∨ (illegalPads = true ∧ value = pd) then
    if parse ≠ .any then .leave quantum
    else .again quantum
  else if value = sp then
    if parse = .strict then .leave quantum
    else .again quantum
  else if value = pd then
    if quantum.byteLen < 2 then
      if parse ≠ .any then .leave quantum
      else .again quantum
    else if quantum.byteLen + quantum.padLen ≥ 4 then
      if parse ≠ .any then .leave quantum
      else .again quantum
    else
      .again
        { quantum with
          padLen := quantum.padLen + 1
          padStart := if quantum.padLen + 1 = 1 then quantum.dpos else quantum.padStart }
  else if quantum.padLen > 0 then
    if parse ≠ .any then .leave quantum
    -- Pads that are followed by data are ignored.
    else .again { quantum with padLen := 0, byteLen := quantum.byteLen + 1 }
  else .again { quantum with byteLen := quantum.byteLen + 1 }

/-- The loop of `GetNextQuantum` on the characters from `*dpos` on. -/
def scan (parse : ParseFlags) (illegalPads : Bool) : List UInt8 → Quantum → Quantum
  | [], quantum => quantum
  | ch :: rest, quantum =>
      if quantum.byteLen < 4 then
        match quantum.accept parse illegalPads ch with
        | .leave quantum => quantum
        | .again quantum => scan parse illegalPads rest { quantum with dpos := quantum.dpos + 1 }
      else quantum

/-- The places that no value was stored in. -/
def clear (quantum : Quantum) : Nat → UInt8 := fun slot =>
  if quantum.byteLen ≤ slot ∧ slot < 4 then 0 else quantum.qbuf slot

end Quantum

/-- What `GetNextQuantum` returns and writes through its pointers. -/
structure NextQuantum where
  byteLen : Nat
  dpos : Nat
  qbuf : Nat → UInt8
  padded : Bool

/-- `GetNextQuantum`. -/
def getNextQuantum (parse : ParseFlags) (illegalPads : Bool) (data : List UInt8) (dpos : Nat)
    (qbuf : Nat → UInt8) : NextQuantum :=
  let quantum := Quantum.scan parse illegalPads (data.drop dpos) ⟨0, 0, 0, dpos, qbuf⟩
  if 4 = quantum.byteLen + quantum.padLen then ⟨quantum.byteLen, quantum.dpos, quantum.clear, true⟩
  else
    -- Illegal padding is rolled back.
    ⟨quantum.byteLen, if quantum.padLen = 0 then quantum.dpos else quantum.padStart,
      quantum.clear, false⟩

/-- The locals of `DecodeFromArray` that last from turn to turn. -/
structure Decoding where
  dpos : Nat
  success : Bool
  result : List UInt8
  qbuf : Nat → UInt8

/-- What `DecodeFromArray` returns and leaves in its out-parameters. -/
structure DecodeResult where
  success : Bool
  result : List UInt8
  dataUsed : Nat
deriving DecidableEq, Repr

/-- What a quantum of `qlen` values appends to the result, and the bits that are left in `c`. -/
def unpack (qlen : Nat) (qbuf : Nat → UInt8) : List UInt8 × UInt8 :=
  let c := (qbuf 0 <<< 2) ||| ((qbuf 1 >>> 4) &&& (0x3 : UInt8))
  if qlen ≥ 2 then
    let second := ((qbuf 1 <<< 4) &&& (0xf0 : UInt8)) ||| ((qbuf 2 >>> 2) &&& (0xf : UInt8))
    if qlen ≥ 3 then
      let third := ((qbuf 2 <<< 6) &&& (0xc0 : UInt8)) ||| qbuf 3
      if qlen ≥ 4 then ([c, second, third], 0)
      else ([c, second], third)
    else ([c], second)
  else ([], c)

/-- One turn of the loop of `DecodeFromArray`. -/
def decodeTurn (flags : DecodeFlags) (data : List UInt8) (decoding : Decoding) :
    Option (Turn Decoding Decoding) :=
  if decoding.dpos < data.length then
    let quantum := getNextQuantum flags.parse (flags.pad = .no) data decoding.dpos decoding.qbuf
    let (bytes, c) := unpack quantum.byteLen quantum.qbuf
    let next := ⟨quantum.dpos, decoding.success, decoding.result ++ bytes, quantum.qbuf⟩
    if quantum.byteLen < 4 then
      -- There are unused bits, or padding was expected.
      let failed := (flags.term ≠ .any ∧ c ≠ 0) ∨ (flags.pad = .yes ∧ quantum.padded = false)
      some (.leave { next with success := if failed then false else decoding.success })
    else some (.again next)
  else some (.leave decoding)

/-- `qbuf` is what stands in the buffer before it is written. -/
def decodeFromArray (flags : DecodeFlags) (qbuf : Nat → UInt8) (data : List UInt8) :
    Option DecodeResult :=
  (Loop.run (decodeTurn flags data) (data.length + 1) ⟨0, true, [], qbuf⟩).map fun decoding =>
    { success :=
        if flags.term = .buffer ∧ decoding.dpos ≠ data.length then false else decoding.success
      result := decoding.result
      dataUsed := decoding.dpos }

/-! ## The tables -/

/-- A character stands for a sextet, or is illegal or white space, or is the pad. -/
def Decodes (ch value : UInt8) : Prop :=
  (isBase64Char ch = true ∧ Sextets.IsSextet value ∧ base64Char value = ch) ∨
    (isBase64Char ch = false ∧ ch ≠ kPad ∧ (value = il ∨ value = sp)) ∨ (ch = kPad ∧ value = pd)

instance (ch value : UInt8) : Decidable (Decodes ch value) := inferInstanceAs (Decidable (_ ∨ _))

/-- The table says of every character what it is. -/
theorem decodes_decoded (ch : UInt8) : Decodes ch (decoded ch) := by
  have table : decodeTable.zipIdx.all (fun entry => decide (Decodes (.ofNat entry.2) entry.1)) =
      true := by decide +kernel
  have isLength : decodeTable.length = 256 := by decide +kernel
  have inside : ch.toNat < decodeTable.length := by
    rw [isLength]
    exact ch.toNat_lt
  have isEntry : (decoded ch, ch.toNat) ∈ decodeTable.zipIdx := by
    rw [List.mk_mem_zipIdx_iff_getElem?, List.getElem?_eq_getElem inside, decoded,
      List.getD_eq_getElem?_getD, List.getElem?_eq_getElem inside, Option.getD_some]
  have checked := of_decide_eq_true (List.all_eq_true.mp table _ isEntry)
  rwa [UInt8.ofNat_toNat] at checked

/-- The character of a sextet is decoded as the sextet. -/
theorem decoded_base64Char {sextet : UInt8} (small : Sextets.IsSextet sextet) :
    isBase64Char (base64Char sextet) = true ∧ decoded (base64Char sextet) = sextet := by
  have table : ∀ code, code < 64 → isBase64Char (base64Char (.ofNat code)) = true ∧
      decoded (base64Char (.ofNat code)) = .ofNat code := by decide +kernel
  have checked := table sextet.toNat small
  rwa [UInt8.ofNat_toNat] at checked

/-- The marks of the table are no sextets. -/
theorem ne_marks_of_isSextet {value : UInt8} (small : Sextets.IsSextet value) :
    value ≠ il ∧ value ≠ sp ∧ value ≠ pd := by
  unfold Sextets.IsSextet at small
  refine ⟨?_, ?_, ?_⟩ <;> rintro rfl <;> exact absurd small (by decide)

/-- A character of the alphabet is decoded as the sextet it stands for. -/
theorem sextet_of_isBase64Char {ch : UInt8} (isChar : isBase64Char ch = true) :
    Sextets.IsSextet (decoded ch) ∧ base64Char (decoded ch) = ch := by
  rcases decodes_decoded ch with ⟨_, isSextet⟩ | ⟨noChar, _⟩ | ⟨rfl, _⟩
  · exact isSextet
  · rw [isChar] at noChar
    cases noChar
  · cases isChar

/-- The characters that are passed over under the flags. -/
def ignores (parse : ParseFlags) (ch : UInt8) : Bool :=
  (decoded ch = il && parse = .any) || (decoded ch = sp && parse ≠ .strict)

/-! ## One quantum -/

namespace Quantum

/-- The values that have been stored so far. -/
structure Holds (quantum : Quantum) (values : List UInt8) : Prop where
  byteLen : quantum.byteLen = values.length
  stored : ∀ slot, slot < values.length → quantum.qbuf slot = values.getD slot 0

variable {parse : ParseFlags} {quantum : Quantum} {values : List UInt8} {ch : UInt8}

/-- The slot behind the digits is free. -/
theorem Holds.store (holds : quantum.Holds values) (value : UInt8) :
    (quantum.store value).Holds values := by
  refine ⟨holds.byteLen, fun slot below => ?_⟩
  have other : slot ≠ quantum.byteLen := by
    rw [holds.byteLen]
    omega
  simp only [Quantum.store, if_neg other]
  exact holds.stored slot below

/-- A digit that is stored and counted is held. -/
theorem Holds.push (holds : quantum.Holds values) (value : UInt8) :
    Holds { quantum.store value with byteLen := quantum.byteLen + 1 } (values ++ [value]) := by
  refine ⟨by simp [holds.byteLen], fun slot below => ?_⟩
  rw [List.length_append, List.length_singleton] at below
  simp only [Quantum.store, holds.byteLen]
  by_cases last : slot = values.length
  · rw [if_pos last, last]
    simp
  · have inside : slot < values.length := by omega
    rw [if_neg last, holds.stored slot inside]
    simp [List.getElem?_append_left inside]

/-- The places after the values are cleared. -/
theorem Holds.clear_eq (holds : quantum.Holds values) {slot : Nat} (below : slot < 4) :
    quantum.clear slot = values.getD slot 0 := by
  by_cases inside : slot < values.length
  · rw [clear, if_neg (by rw [holds.byteLen]; omega)]
    exact holds.stored slot inside
  · rw [clear, if_pos (by rw [holds.byteLen]; omega)]
    simp [List.getElem?_eq_none (Nat.le_of_not_lt inside)]

/-- The quantum that goes on after a character, at the same position. -/
structure Goes (quantum next : Quantum) (values : List UInt8) (padLen : Nat) : Prop where
  holds : next.Holds values
  isPadLen : next.padLen = padLen
  samePosition : next.dpos = quantum.dpos

/-- An ignored character changes nothing. -/
theorem accept_ignored (holds : quantum.Holds values) (ignored : ignores parse ch = true) :
    ∃ next, quantum.accept parse false ch = .again next ∧
      quantum.Goes next values quantum.padLen := by
  refine ⟨quantum.store (decoded ch), ?_, holds.store _, rfl, rfl⟩
  simp only [ignores, Bool.or_eq_true, Bool.and_eq_true, decide_eq_true_eq] at ignored
  rcases ignored with ⟨illegal, any⟩ | ⟨space, loose⟩
  · simp [accept, illegal, any]
  · simp [accept, space, loose, show sp ≠ il by decide]

/-- A digit is added as long as there is no padding. -/
theorem accept_digit (holds : quantum.Holds values) (isChar : isBase64Char ch = true)
    (noPads : quantum.padLen = 0) :
    ∃ next, quantum.accept parse false ch = .again next ∧
      quantum.Goes next (values ++ [decoded ch]) 0 := by
  obtain ⟨notIllegal, notSpace, notPad⟩ := ne_marks_of_isSextet (sextet_of_isBase64Char isChar).1
  refine ⟨{ quantum.store (decoded ch) with byteLen := quantum.byteLen + 1 }, ?_,
    holds.push _, noPads, rfl⟩
  simp [accept, notIllegal, notSpace, notPad, store, noPads]

/-- Padding is counted behind two digits at least. -/
theorem accept_pad (holds : quantum.Holds values) (two : 2 ≤ values.length)
    (room : values.length + quantum.padLen < 4) :
    ∃ next, quantum.accept parse false kPad = .again next ∧
      quantum.Goes next values (quantum.padLen + 1) := by
  have isPad : decoded kPad = pd := by decide
  refine ⟨{ quantum.store pd with
    padLen := quantum.padLen + 1
    padStart := if quantum.padLen + 1 = 1 then quantum.dpos else quantum.padStart }, ?_,
    ⟨(holds.store pd).byteLen, (holds.store pd).stored⟩, rfl, rfl⟩
  have enough : ¬quantum.byteLen < 2 := by
    rw [holds.byteLen]
    omega
  have few : ¬4 ≤ quantum.byteLen + quantum.padLen := by
    rw [holds.byteLen]
    omega
  simp [accept, isPad, show pd ≠ il by decide, show pd ≠ sp by decide, store, enough, few]

/-- The scan goes on behind an accepted character. -/
theorem scan_again {rest : List UInt8} {next : Quantum} (short : quantum.byteLen < 4)
    (again : quantum.accept parse false ch = .again next) :
    scan parse false (ch :: rest) quantum =
      scan parse false rest { next with dpos := next.dpos + 1 } := by
  rw [scan, if_pos short, again]

/-- The digits stay where they are while the scan moves on. -/
theorem Goes.advance {next : Quantum} {padLen : Nat} (goes : quantum.Goes next values padLen) :
    Holds { next with dpos := next.dpos + 1 } values :=
  ⟨goes.holds.byteLen, goes.holds.stored⟩

/-- The loop takes the characters that are not ignored one by one. -/
theorem scan_digits {text chars after : List UInt8}
    (isText : text.filter (!ignores parse ·) = chars ++ after)
    (areChars : ∀ ch ∈ chars, isBase64Char ch = true) (holds : quantum.Holds values)
    (noPads : quantum.padLen = 0) (fits : values.length + chars.length ≤ 4) :
    ∃ front rest next, text = front ++ rest ∧ rest.filter (!ignores parse ·) = after ∧
      scan parse false text quantum = scan parse false rest next ∧
      next.Holds (values ++ chars.map decoded) ∧ next.padLen = 0 ∧
      next.dpos = quantum.dpos + front.length := by
  induction text generalizing quantum values chars with
  | nil =>
      rw [List.filter_nil] at isText
      obtain ⟨rfl, rfl⟩ := List.append_eq_nil_iff.mp isText.symm
      exact ⟨[], [], quantum, rfl, rfl, rfl, by simpa using holds, noPads, rfl⟩
  | cons ch text inductionHypothesis =>
      cases chars with
      | nil => exact ⟨[], ch :: text, quantum, rfl, isText, rfl, by simpa using holds, noPads, rfl⟩
      | cons first chars =>
          rw [List.length_cons] at fits
          have short : quantum.byteLen < 4 := by
            rw [holds.byteLen]
            omega
          cases ignored : ignores parse ch with
          | true =>
              rw [List.filter_cons_of_neg (by simp [ignored])] at isText
              obtain ⟨next, again, goes⟩ := accept_ignored holds ignored
              obtain ⟨front, rest, final, rfl, isAfter, isScan, holdsFinal, noFinalPads, isFinal⟩ :=
                inductionHypothesis isText areChars goes.advance (goes.isPadLen.trans noPads)
                  (by simpa using fits)
              refine ⟨ch :: front, rest, final, rfl, isAfter, ?_, holdsFinal, noFinalPads, ?_⟩
              · rw [scan_again short again, isScan]
              · simp only [isFinal, goes.samePosition, List.length_cons]
                omega
          | false =>
              rw [List.filter_cons_of_pos (by simp [ignored])] at isText
              obtain ⟨rfl, isRest⟩ := List.cons.inj isText
              obtain ⟨isChar, areChars⟩ := List.forall_mem_cons.mp areChars
              obtain ⟨next, again, goes⟩ := accept_digit holds isChar noPads
              obtain ⟨front, rest, final, rfl, isAfter, isScan, holdsFinal, noFinalPads, isFinal⟩ :=
                inductionHypothesis isRest areChars goes.advance goes.isPadLen
                  (by simp only [List.length_append, List.length_singleton]; omega)
              refine ⟨ch :: front, rest, final, rfl, isAfter, ?_, ?_, noFinalPads, ?_⟩
              · rw [scan_again short again, isScan]
              · simpa using holdsFinal
              · simp only [isFinal, goes.samePosition, List.length_cons]
                omega

/-- The loop takes the pads that complete a quantum, and all ignored characters behind it. -/
theorem scan_pads {text : List UInt8} {count : Nat}
    (isText : text.filter (!ignores parse ·) = List.replicate count kPad)
    (holds : quantum.Holds values) (short : values.length < 4) (few : 0 < count → 2 ≤ values.length)
    (fits : values.length + quantum.padLen + count ≤ 4) :
    (scan parse false text quantum).Holds values ∧
      (scan parse false text quantum).padLen = quantum.padLen + count ∧
      (scan parse false text quantum).dpos = quantum.dpos + text.length := by
  induction text generalizing quantum count with
  | nil =>
      have none : count = 0 := by simpa using isText.symm
      subst none
      exact ⟨holds, rfl, rfl⟩
  | cons ch text inductionHypothesis =>
      have shortNow : quantum.byteLen < 4 := by
        rw [holds.byteLen]
        exact short
      cases ignored : ignores parse ch with
      | true =>
          rw [List.filter_cons_of_neg (by simp [ignored])] at isText
          obtain ⟨next, again, goes⟩ := accept_ignored holds ignored
          obtain ⟨holdsFinal, isPadLen, isFinal⟩ := inductionHypothesis isText goes.advance few
            (by simp only [goes.isPadLen]; omega)
          rw [scan_again shortNow again]
          refine ⟨holdsFinal, isPadLen.trans (by rw [goes.isPadLen]), isFinal.trans ?_⟩
          simp only [goes.samePosition, List.length_cons]
          omega
      | false =>
          rw [List.filter_cons_of_pos (by simp [ignored])] at isText
          obtain ⟨count, rfl⟩ : ∃ rest, count = rest + 1 := by
            cases count with
            | zero => cases isText
            | succ count => exact ⟨count, rfl⟩
          rw [List.replicate_succ] at isText
          obtain ⟨rfl, isRest⟩ := List.cons.inj isText
          obtain ⟨next, again, goes⟩ := accept_pad holds (few (by omega)) (by omega)
          obtain ⟨holdsFinal, isPadLen, isFinal⟩ := inductionHypothesis isRest goes.advance
            (fun _ => few (by omega)) (by simp only [goes.isPadLen]; omega)
          rw [scan_again shortNow again]
          refine ⟨holdsFinal, isPadLen.trans ?_, isFinal.trans ?_⟩
          · simp only [goes.isPadLen]
            omega
          · simp only [goes.samePosition, List.length_cons]
            omega

end Quantum

/-- A full quantum reads no further. -/
theorem Quantum.scan_full {parse : ParseFlags} {illegalPads : Bool} {quantum : Quantum}
    (full : quantum.byteLen = 4) (text : List UInt8) :
    scan parse illegalPads text quantum = quantum := by
  cases text with
  | nil => rfl
  | cons ch text => rw [scan, if_neg (by omega)]

/-- A quantum starts with no digits. -/
theorem Quantum.holds_start (dpos : Nat) (qbuf : Nat → UInt8) :
    Holds ⟨0, 0, 0, dpos, qbuf⟩ [] :=
  ⟨rfl, fun _ below => absurd below (Nat.not_lt_zero _)⟩

/-- The values of a quantum stand in the buffer, and zeros behind them. -/
def NextQuantum.Has (quantum : NextQuantum) (values : List UInt8) : Prop :=
  quantum.byteLen = values.length ∧ ∀ slot, slot < 4 → quantum.qbuf slot = values.getD slot 0

section

variable {parse : ParseFlags} {data chars : List UInt8} {dpos : Nat} {qbuf : Nat → UInt8}

/-- What the quantum is, by where the loop ends: without pads or with all of them it goes up to
there. -/
theorem getNextQuantum_of_scan {final : Quantum} {values : List UInt8}
    (isFinal : Quantum.scan parse false (data.drop dpos) ⟨0, 0, 0, dpos, qbuf⟩ = final)
    (holds : final.Holds values) :
    (getNextQuantum parse false data dpos qbuf).Has values ∧
      (getNextQuantum parse false data dpos qbuf).padded =
        decide (values.length + final.padLen = 4) ∧
      (final.padLen = 0 ∨ values.length + final.padLen = 4 →
        (getNextQuantum parse false data dpos qbuf).dpos = final.dpos) := by
  simp only [getNextQuantum, isFinal, holds.byteLen]
  by_cases complete : values.length + final.padLen = 4
  · rw [if_pos complete.symm]
    exact ⟨⟨rfl, fun slot below => holds.clear_eq below⟩, (decide_eq_true complete).symm,
      fun _ => rfl⟩
  · rw [if_neg (fun same => complete same.symm)]
    refine ⟨⟨rfl, fun slot below => holds.clear_eq below⟩, (decide_eq_false complete).symm, ?_⟩
    exact fun settled => if_pos (settled.resolve_right complete)

/-- Four characters that are not ignored are one quantum. -/
theorem getNextQuantum_full {after : List UInt8} (qbuf : Nat → UInt8)
    (isText : (data.drop dpos).filter (!ignores parse ·) = chars ++ after)
    (areChars : ∀ ch ∈ chars, isBase64Char ch = true) (four : chars.length = 4) :
    ∃ front rest, data.drop dpos = front ++ rest ∧ 0 < front.length ∧
      rest.filter (!ignores parse ·) = after ∧
      (getNextQuantum parse false data dpos qbuf).Has (chars.map decoded) ∧
      (getNextQuantum parse false data dpos qbuf).dpos = dpos + front.length := by
  obtain ⟨front, rest, next, isSplit, isAfter, isScan, holds, noPads, isNext⟩ :=
    Quantum.scan_digits isText areChars (Quantum.holds_start dpos qbuf) rfl (by simp [four])
  have full : next.byteLen = 4 := by simpa [four] using holds.byteLen
  rw [Quantum.scan_full full] at isScan
  obtain ⟨has, _, isPosition⟩ := getNextQuantum_of_scan isScan holds
  have moves : 0 < front.length := by
    rw [isSplit, List.filter_append, isAfter] at isText
    have longer := List.length_filter_le (!ignores parse ·) front
    rw [List.append_cancel_right isText, four] at longer
    omega
  exact ⟨front, rest, isSplit, moves, isAfter, has, (isPosition (.inl noPads)).trans isNext⟩

/-- Fewer characters are the last quantum, with all pads or none. -/
theorem getNextQuantum_last {count : Nat} (qbuf : Nat → UInt8)
    (isText : (data.drop dpos).filter (!ignores parse ·) = chars ++ List.replicate count kPad)
    (areChars : ∀ ch ∈ chars, isBase64Char ch = true) (short : chars.length < 4)
    (whole : count = 0 ∨ 2 ≤ chars.length ∧ chars.length + count = 4) :
    (getNextQuantum parse false data dpos qbuf).Has (chars.map decoded) ∧
      (getNextQuantum parse false data dpos qbuf).padded = decide (chars.length + count = 4) ∧
      (getNextQuantum parse false data dpos qbuf).dpos = dpos + (data.drop dpos).length := by
  obtain ⟨front, rest, next, isSplit, isAfter, isScan, holds, noPads, isNext⟩ :=
    Quantum.scan_digits isText areChars (Quantum.holds_start dpos qbuf) rfl (by simp; omega)
  rw [List.nil_append] at holds
  obtain ⟨holdsLast, isPadLen, isLast⟩ := Quantum.scan_pads isAfter holds (by simpa using short)
    (by simp only [List.length_map]; omega) (by simp only [noPads, List.length_map]; omega)
  rw [← isScan] at holdsLast isPadLen isLast
  obtain ⟨has, isPadded, isPosition⟩ := getNextQuantum_of_scan rfl holdsLast
  rw [isPadLen, noPads, Nat.zero_add, List.length_map] at isPadded isPosition
  refine ⟨has, isPadded, (isPosition (whole.imp_right And.right)).trans ?_⟩
  rw [isLast, isNext, isSplit, List.length_append]
  simp only
  omega

end

/-! ## The bytes of a quantum -/

namespace NextQuantum.Has

open Sextets

variable {quantum : NextQuantum} {first second third fourth : UInt8}

/-- No digits make no bytes. -/
theorem unpack_none (has : quantum.Has []) : unpack quantum.byteLen quantum.qbuf = ([], 0) := by
  simp only [unpack, has.1, has.2 0 (by decide), has.2 1 (by decide)]
  rfl

/-- Two digits make a byte. -/
theorem unpack_two (has : quantum.Has [first, second]) :
    unpack quantum.byteLen quantum.qbuf = ([high first second], middle second 0) := by
  simp only [unpack, has.1, has.2 0 (by decide), has.2 1 (by decide), has.2 2 (by decide)]
  rfl

/-- Three digits make two bytes. -/
theorem unpack_three (has : quantum.Has [first, second, third]) :
    unpack quantum.byteLen quantum.qbuf =
      ([high first second, middle second third], low third 0) := by
  simp only [unpack, has.1, has.2 0 (by decide), has.2 1 (by decide), has.2 2 (by decide),
    has.2 3 (by decide)]
  rfl

/-- Four digits make three bytes. -/
theorem unpack_four (has : quantum.Has [first, second, third, fourth]) :
    unpack quantum.byteLen quantum.qbuf =
      ([high first second, middle second third, low third fourth], 0) := by
  simp only [unpack, has.1, has.2 0 (by decide), has.2 1 (by decide), has.2 2 (by decide),
    has.2 3 (by decide)]
  rfl

end NextQuantum.Has

section

open Sextets

/-- The last byte alone is padded twice. -/
theorem encodeFromArray_one (byte : UInt8) :
    encodeFromArray [byte] =
      [first byte, second byte 0].map base64Char ++ List.replicate 2 kPad := by
  simp [encodeFromArray, first, second, List.replicate]

/-- The last two bytes are padded once. -/
theorem encodeFromArray_two (byte next : UInt8) :
    encodeFromArray [byte, next] =
      [first byte, second byte next, third next 0].map base64Char ++ List.replicate 1 kPad := by
  simp [encodeFromArray, first, second, third, List.replicate]

/-- Three bytes make four digits. -/
theorem encodeFromArray_three (byte next last : UInt8) (rest : List UInt8) :
    encodeFromArray (byte :: next :: last :: rest) =
      [first byte, second byte next, third next last, fourth last].map base64Char ++
        encodeFromArray rest := rfl

/-- The characters of sextets stand for them. -/
theorem decoded_chars {sextets : List UInt8} (small : ∀ sextet ∈ sextets, IsSextet sextet) :
    (∀ ch ∈ sextets.map base64Char, isBase64Char ch = true) ∧
      (sextets.map base64Char).map decoded = sextets := by
  constructor
  · intro ch member
    obtain ⟨sextet, held, rfl⟩ := List.mem_map.mp member
    exact (decoded_base64Char (small sextet held)).1
  · rw [List.map_map]
    conv => rhs; rw [← List.map_id sextets]
    exact List.map_congr_left fun sextet held => (decoded_base64Char (small sextet held)).2

/-- Characters of the table are those of the sextets that they stand for. -/
theorem sextets_of_chars {chars : List UInt8} (areChars : ∀ ch ∈ chars, isBase64Char ch = true) :
    (∀ sextet ∈ chars.map decoded, IsSextet sextet) ∧
      (chars.map decoded).map base64Char = chars := by
  constructor
  · intro sextet member
    obtain ⟨ch, held, rfl⟩ := List.mem_map.mp member
    exact (sextet_of_isBase64Char (areChars ch held)).1
  · rw [List.map_map]
    conv => rhs; rw [← List.map_id chars]
    exact List.map_congr_left fun ch held => (sextet_of_isBase64Char (areChars ch held)).2

end

/-- An encoded text has characters of the table and pads only. -/
theorem chars_encodeFromArray (data : List UInt8) :
    ∀ ch ∈ encodeFromArray data, isBase64Char ch = true ∨ ch = kPad := by
  have isChar {sextets : List UInt8} (small : ∀ sextet ∈ sextets, Sextets.IsSextet sextet)
      {ch : UInt8} (member : ch ∈ sextets.map base64Char) : isBase64Char ch = true :=
    (decoded_chars small).1 ch member
  induction data using encodeFromArray.induct with
  | case1 => exact List.forall_mem_nil _
  | case2 high =>
      intro ch member
      rw [encodeFromArray_one, List.mem_append] at member
      refine member.imp (isChar ?_) List.eq_of_mem_replicate
      simp [Sextets.isSextet_first, Sextets.isSextet_second]
  | case3 high middle =>
      intro ch member
      rw [encodeFromArray_two, List.mem_append] at member
      refine member.imp (isChar ?_) List.eq_of_mem_replicate
      simp [Sextets.isSextet_first, Sextets.isSextet_second, Sextets.isSextet_third]
  | case4 high middle low rest inductionHypothesis =>
      intro ch member
      rw [encodeFromArray_three, List.mem_append] at member
      refine member.elim (fun held => .inl (isChar ?_ held)) (inductionHypothesis ch)
      simp [Sextets.isSextet_first, Sextets.isSextet_second, Sextets.isSextet_third,
        Sextets.isSextet_fourth]

section

variable {flags : DecodeFlags} {data : List UInt8} {decoding : Decoding}

/-- What a turn makes of its quantum. -/
theorem decodeTurn_eq {quantum : NextQuantum} {bytes : List UInt8} {c : UInt8}
    (inside : decoding.dpos < data.length) (padding : flags.pad ≠ .no)
    (isQuantum : getNextQuantum flags.parse false data decoding.dpos decoding.qbuf = quantum)
    (isUnpacked : unpack quantum.byteLen quantum.qbuf = (bytes, c)) :
    decodeTurn flags data decoding =
      if quantum.byteLen < 4 then
        some (.leave ⟨quantum.dpos,
          if (flags.term ≠ .any ∧ c ≠ 0) ∨ (flags.pad = .yes ∧ quantum.padded = false) then false
          else decoding.success, decoding.result ++ bytes, quantum.qbuf⟩)
      else some (.again ⟨quantum.dpos, decoding.success, decoding.result ++ bytes, quantum.qbuf⟩) := by
  simp only [decodeTurn, if_pos inside, padding, decide_false, isQuantum, isUnpacked]

end

/-! ## Decoding what was encoded -/

section

open Sextets

variable {flags : DecodeFlags} {text data : List UInt8}

/-- What is still to be decoded is encoded in the characters from `dpos` on. -/
structure Remains (flags : DecodeFlags) (text data : List UInt8) (decoding : Decoding)
    (rest : List UInt8) : Prop where
  inside : decoding.dpos ≤ text.length
  succeeds : decoding.success = true
  isText : (text.drop decoding.dpos).filter (!ignores flags.parse ·) = encodeFromArray rest
  isData : decoding.result ++ rest = data

/-- Everything has been decoded. -/
def Done (text data : List UInt8) (decoding : Decoding) : Prop :=
  decoding.dpos = text.length ∧ decoding.success = true ∧ decoding.result = data

/-- Flags under which encodings decode allow padding. -/
theorem padding_of_fits (fits : flags.pad = .any ∨ flags.pad = .yes ∧ flags.parse = .strict) :
    flags.pad ≠ .no := by
  rcases fits with any | ⟨yes, _⟩
  · simp [any]
  · simp [yes]

/-- The turn with the last quantum, which has all pads or no character. -/
theorem Remains.last {decoding : Decoding} {rest sextets : List UInt8} (count : Nat)
    (remains : Remains flags text data decoding rest) (inside : decoding.dpos < text.length)
    (fits : flags.pad = .any ∨ flags.pad = .yes ∧ flags.parse = .strict)
    (isRest : encodeFromArray rest = sextets.map base64Char ++ List.replicate count kPad)
    (small : ∀ sextet ∈ sextets, IsSextet sextet) (short : sextets.length < 4)
    (whole : sextets = [] ∧ count = 0 ∨ 2 ≤ sextets.length ∧ sextets.length + count = 4)
    (isUnpacked : ∀ quantum : NextQuantum, quantum.Has sextets →
      unpack quantum.byteLen quantum.qbuf = (rest, 0)) :
    ∃ result, decodeTurn flags text decoding = some (.leave result) ∧ Done text data result := by
  obtain ⟨areChars, areSextets⟩ := decoded_chars small
  obtain ⟨has, isPadded, isEnd⟩ := getNextQuantum_last decoding.qbuf (remains.isText.trans isRest)
    areChars (by simpa using short) (by simp only [List.length_map]; grind)
  rw [areSextets] at has
  have isTurn := decodeTurn_eq inside (padding_of_fits fits) rfl (isUnpacked _ has)
  rw [if_pos (by rw [has.1]; exact short)] at isTurn
  refine ⟨_, isTurn, ?_, ?_, remains.isData⟩
  · simp only [isEnd, List.length_drop]
    omega
  · rw [if_neg ?_, remains.succeeds]
    rintro (⟨_, unused⟩ | ⟨yes, unpadded⟩)
    · exact unused rfl
    · rw [isPadded, decide_eq_false_iff_not, List.length_map] at unpadded
      rcases whole with ⟨rfl, rfl⟩ | ⟨_, complete⟩
      · -- Strictly nothing is ignored, so that something of the encoded text would be left.
        have strict : flags.parse = .strict := by
          rcases fits with any | ⟨_, strict⟩
          · rw [any] at yes
            cases yes
          · exact strict
        have isText := remains.isText.trans isRest
        rw [List.filter_eq_self.mpr fun ch _ => by simp [ignores, strict]] at isText
        have nothing : text.length ≤ decoding.dpos := by simpa using isText
        omega
      · exact unpadded complete

/-- The turn with a full quantum. -/
theorem Remains.next {decoding : Decoding} {byte next last : UInt8} {rest : List UInt8}
    (remains : Remains flags text data decoding (byte :: next :: last :: rest))
    (inside : decoding.dpos < text.length)
    (fits : flags.pad = .any ∨ flags.pad = .yes ∧ flags.parse = .strict) :
    ∃ result, decodeTurn flags text decoding = some (.again result) ∧
      Remains flags text data result rest ∧
      text.length - result.dpos < text.length - decoding.dpos := by
  have isText := remains.isText
  rw [encodeFromArray_three] at isText
  obtain ⟨areChars, areSextets⟩ := decoded_chars
    (show ∀ sextet ∈ [first byte, second byte next, third next last, fourth last],
      IsSextet sextet by
      simp [isSextet_first, isSextet_second, isSextet_third, isSextet_fourth])
  obtain ⟨front, behind, isSplit, moves, isBehind, has, isNext⟩ :=
    getNextQuantum_full decoding.qbuf isText areChars rfl
  rw [areSextets] at has
  have isUnpacked := has.unpack_four
  rw [high_first_second, middle_second_third, low_third_fourth] at isUnpacked
  have isTurn := decodeTurn_eq inside (padding_of_fits fits) rfl isUnpacked
  rw [if_neg (by rw [has.1]; simp)] at isTurn
  have isLength := congrArg List.length isSplit
  rw [List.length_drop, List.length_append] at isLength
  refine ⟨_, isTurn, ⟨?_, remains.succeeds, ?_, ?_⟩, ?_⟩
  · simp only [isNext]
    omega
  · simp only [isNext]
    rw [← List.drop_drop, isSplit, List.drop_left, isBehind]
  · rw [← remains.isData]
    simp
  · simp only [isNext]
    omega

/-- One turn of decoding an encoded text. -/
theorem Remains.turn {decoding : Decoding} {rest : List UInt8}
    (remains : Remains flags text data decoding rest)
    (fits : flags.pad = .any ∨ flags.pad = .yes ∧ flags.parse = .strict) :
    (∃ result, decodeTurn flags text decoding = some (.leave result) ∧ Done text data result) ∨
      ∃ next, decodeTurn flags text decoding = some (.again next) ∧
        (∃ rest, Remains flags text data next rest) ∧
        text.length - next.dpos < text.length - decoding.dpos := by
  by_cases inside : decoding.dpos < text.length
  · rcases rest with _ | ⟨byte, _ | ⟨next, _ | ⟨last, rest⟩⟩⟩
    · refine .inl (remains.last 0 inside fits rfl ?_ ?_ (.inl ⟨rfl, rfl⟩) ?_)
      · exact List.forall_mem_nil _
      · simp
      · exact fun _ has => has.unpack_none
    · refine .inl (remains.last 2 inside fits (encodeFromArray_one byte) ?_ ?_ (.inr ?_) ?_)
      · simp [isSextet_first, isSextet_second]
      · simp
      · simp
      · intro quantum has
        rw [has.unpack_two, high_first_second, middle_second_zero]
    · refine .inl (remains.last 1 inside fits (encodeFromArray_two byte next) ?_ ?_ (.inr ?_) ?_)
      · simp [isSextet_first, isSextet_second, isSextet_third]
      · simp
      · simp
      · intro quantum has
        rw [has.unpack_three, high_first_second, middle_second_third, low_third_zero]
    · obtain ⟨result, isTurn, remains, moves⟩ := remains.next inside fits
      exact .inr ⟨result, isTurn, ⟨rest, remains⟩, moves⟩
  · have isEnd : decoding.dpos = text.length := Nat.le_antisymm remains.inside (by omega)
    have isText := remains.isText
    rw [List.drop_of_length_le (by omega), List.filter_nil] at isText
    have nothing : rest = [] := by
      rcases rest with _ | ⟨byte, _ | ⟨next, _ | ⟨last, rest⟩⟩⟩
      · rfl
      all_goals cases isText
    refine .inl ⟨decoding, by rw [decodeTurn, if_neg inside], isEnd, remains.succeeds, ?_⟩
    rw [← remains.isData, nothing, List.append_nil]

/-- An encoded text is decoded, with anything in it that the flags ignore. -/
theorem decodeFromArray_of_encoded (qbuf : Nat → UInt8)
    (fits : flags.pad = .any ∨ flags.pad = .yes ∧ flags.parse = .strict)
    (isText : text.filter (!ignores flags.parse ·) = encodeFromArray data) :
    decodeFromArray flags qbuf text = some ⟨true, data, text.length⟩ := by
  have start : Remains flags text data ⟨0, true, [], qbuf⟩ data :=
    ⟨Nat.zero_le _, rfl, isText, rfl⟩
  obtain ⟨result, isResult, isEnd, succeeds, isData⟩ :=
    Loop.total (fun decoding => ∃ rest, Remains flags text data decoding rest) (Done text data)
      (fun decoding => text.length - decoding.dpos)
      (fun _ holds => holds.elim fun _ remains => remains.turn fits) ⟨data, start⟩
      (Nat.lt_succ_of_le (Nat.sub_le _ _))
  rw [decodeFromArray, isResult, Option.map_some]
  simp [isEnd, succeeds, isData]

end

end VzSdk.Base.Base64
