import VzSdk.Base.Base64
import VzSdk.Sdk.WhiteList

/-!
# Serial data, sent and received

`GeneratSerialSendCmd` sends bytes for a serial port as a base64 text, and
`SerialPushHandle` decodes such a text with the lax flags. `serialData_roundTrip`
says that the bytes come back whatever foreign characters stand in the text.
-/

namespace VzSdk.Sdk

open VzSdk.Base VzSdk.Base.Base64

/-- Nothing where the call returns false. The first `datalen` of the bytes behind `data` are
sent; a negative length, which would be read as a huge one, is sent as none. -/
def generatSerialSendCmd (serialPort : UInt32) (data : List UInt8) (datalen : Int32) :
    Option Json :=
  if serialPort = 0 ∨ serialPort = 1 then
    some (.object
      [("cmd", .string "ttransmission"), ("subcmd", .string "send"),
        ("comm", .string (if serialPort = 0 then "rs485-1" else "rs485-2")),
        ("data", .ofCString (encodeFromArray (data.take datalen.toInt.toNat))),
        ("datalen", .int datalen.toInt)])
  else none

/-- What `SerialPushHandle::HandleMessageData` decodes: `value.data` up to its NUL. -/
def decodeSerialData (qbuf : Nat → UInt8) (pdata : List UInt8) : Option DecodeResult :=
  decodeFromArray doLax qbuf (pdata.takeWhile (· ≠ 0))

/-- Characters that may be inserted: no NUL, no character of base64 and no pad. -/
def Foreign (ch : UInt8) : Prop := ch ≠ 0 ∧ isBase64Char ch = false ∧ ch ≠ kPad

instance (ch : UInt8) : Decidable (Foreign ch) := inferInstanceAs (Decidable (_ ∧ _))

/-- The second text is the first one with foreign characters inserted anywhere. -/
inductive Inserted : List UInt8 → List UInt8 → Prop where
  | nil : Inserted [] []
  | keep (ch : UInt8) {sent text : List UInt8} : Inserted sent text →
      Inserted (ch :: sent) (ch :: text)
  | insert {ch : UInt8} {sent text : List UInt8} : Foreign ch → Inserted sent text →
      Inserted sent (ch :: text)

/-- A foreign character is ignored. -/
theorem ignores_of_foreign {ch : UInt8} (foreign : Foreign ch) :
    ignores .any ch = true := by
  obtain ⟨_, noChar, noPad⟩ := foreign
  rcases decodes_decoded ch with ⟨isChar, _⟩ | ⟨_, _, illegal | space⟩ | ⟨isPad, _⟩
  · rw [noChar] at isChar
    cases isChar
  · simp [ignores, illegal]
  · simp [ignores, space]
  · exact absurd isPad noPad

/-- A character of the alphabet, or a pad, is not. -/
theorem not_ignores {ch : UInt8} (own : isBase64Char ch = true ∨ ch = kPad) :
    ignores .any ch = false ∧ ch ≠ 0 := by
  rcases own with isChar | rfl
  · obtain ⟨notIllegal, notSpace, _⟩ := ne_marks_of_isSextet (sextet_of_isBase64Char isChar).1
    refine ⟨by simp [ignores, notIllegal, notSpace], ?_⟩
    rintro rfl
    cases isChar
  · exact ⟨by decide, by decide⟩

/-- The inserted characters are ignored, and none of them ends the text. -/
theorem Inserted.filter_eq {sent text : List UInt8} (inserted : Inserted sent text)
    (own : ∀ ch ∈ sent, isBase64Char ch = true ∨ ch = kPad) :
    text.filter (!ignores .any ·) = sent ∧ ∀ ch ∈ text, ch ≠ 0 := by
  induction inserted with
  | nil => exact ⟨rfl, List.forall_mem_nil _⟩
  | keep ch _ inductionHypothesis =>
      obtain ⟨isOwn, own⟩ := List.forall_mem_cons.mp own
      obtain ⟨isSent, noNul⟩ := inductionHypothesis own
      obtain ⟨taken, notNul⟩ := not_ignores isOwn
      rw [List.filter_cons_of_pos (by simp [taken]), isSent]
      exact ⟨rfl, List.forall_mem_cons.mpr ⟨notNul, noNul⟩⟩
  | insert foreign _ inductionHypothesis =>
      obtain ⟨isSent, noNul⟩ := inductionHypothesis own
      rw [List.filter_cons_of_neg (by simp [ignores_of_foreign foreign]), isSent]
      exact ⟨rfl, List.forall_mem_cons.mpr ⟨foreign.1, noNul⟩⟩

/-- Bytes for a serial port are decoded from the text that is sent for them, with any foreign
characters inserted. -/
theorem serialData_roundTrip (qbuf : Nat → UInt8) {serialPort : UInt32}
    (isPort : serialPort = 0 ∨ serialPort = 1) {data : List UInt8} (short : data.length < 2 ^ 31) :
    ∃ request sent, generatSerialSendCmd serialPort data (.ofNat data.length) = some request ∧
      (request.get "data").asCString = some sent ∧
      ∀ text behind, Inserted sent text →
        decodeSerialData qbuf (text ++ 0 :: behind) = some ⟨true, data, text.length⟩ := by
  have isLength : (Int32.ofNat data.length).toInt.toNat = data.length := by
    rw [Int32.toInt_ofNat_of_lt short]
    rfl
  have own := chars_encodeFromArray data
  refine ⟨_, encodeFromArray data, if_pos isPort, ?_, fun text behind inserted => ?_⟩
  · rw [isLength, List.take_length]
    exact Json.asCString_ofCString fun ch member => (not_ignores (own ch member)).2
  · obtain ⟨isSent, noNul⟩ := inserted.filter_eq own
    have isText : (text ++ 0 :: behind).takeWhile (· ≠ 0) = text := by
      rw [List.takeWhile_append_of_pos (by simpa using noNul)]
      simp
    rw [decodeSerialData, isText]
    exact decodeFromArray_of_encoded qbuf (.inl rfl) isSent

/-- The two bytes 255 and 0 are sent as "/wA="; a space, a line break and a dash come in. -/
theorem serialData_roundTrip_spaced :
    ∃ request sent, generatSerialSendCmd 1 [255, 0] 2 = some request ∧
      (request.get "data").asCString = some sent ∧ sent = [47, 119, 65, 61] ∧
      decodeSerialData (fun _ => 7) [47, 32, 119, 65, 10, 61, 45, 0] =
        some ⟨true, [255, 0], 7⟩ := by
  obtain ⟨request, sent, isRequest, isSent, decodes⟩ :=
    serialData_roundTrip (fun _ => 7) (.inr rfl) (show [(255 : UInt8), 0].length < 2 ^ 31 by decide)
  cases isRequest
  have isText : sent = [47, 119, 65, 61] := Option.some.inj (isSent.symm.trans (by decide))
  subst isText
  refine ⟨_, _, rfl, isSent, rfl, decodes [47, 32, 119, 65, 10, 61, 45] [] ?_⟩
  refine .keep 47 (.insert (by decide) (.keep 119 (.keep 65 (.insert (by decide)
    (.keep 61 (.insert (by decide) .nil))))))

end VzSdk.Sdk
