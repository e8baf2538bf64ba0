import VzSdk.Base.Base64

/-!
# Strict base64

Under the strict flags a quantum is digits and then pads, and the loop goes on
after a full one only. `strict_accepts_encodings` says that the encoded texts are
accepted and no others.
-/

namespace VzSdk.Base.Base64

open VzSdk.Std

namespace Quantum

variable {quantum : Quantum} {values : List UInt8}

/-- Strictly, a character is the next digit or the next pad, or ends the quantum. -/
theorem accept_strict (holds : quantum.Holds values) (ch : UInt8) :
    (∃ next, quantum.accept .strict false ch = .leave next ∧
        quantum.Goes next values quantum.padLen) ∨
      (isBase64Char ch = true ∧ quantum.padLen = 0) ∨
      (ch = kPad ∧ 2 ≤ values.length ∧ values.length + quantum.padLen < 4) := by
  have ends (leaves : quantum.accept .strict false ch = .leave (quantum.store (decoded ch))) :
      ∃ next, quantum.accept .strict false ch = .leave next ∧
        quantum.Goes next values quantum.padLen :=
    ⟨_, leaves, holds.store _, rfl, rfl⟩
  rcases decodes_decoded ch with ⟨isChar, isSextet, _⟩ | ⟨_, _, illegal | space⟩ | ⟨rfl, isPad⟩
  · by_cases noPads : quantum.padLen = 0
    · exact .inr (.inl ⟨isChar, noPads⟩)
    · obtain ⟨notIllegal, notSpace, notPad⟩ := ne_marks_of_isSextet isSextet
      refine .inl (ends ?_)
      simp [accept, notIllegal, notSpace, notPad, store, Nat.pos_of_ne_zero noPads]
  · refine .inl (ends ?_)
    simp [accept, illegal]
  · refine .inl (ends ?_)
    simp [accept, space, show sp ≠ il by decide]
  · by_cases early : values.length < 2
    · refine .inl (ends ?_)
      simp [accept, isPad, show pd ≠ il by decide, show pd ≠ sp by decide, store, holds.byteLen,
        early]
    · by_cases extra : 4 ≤ values.length + quantum.padLen
      · refine .inl (ends ?_)
        simp [accept, isPad, show pd ≠ il by decide, show pd ≠ sp by decide, store,
          holds.byteLen, early, extra]
      · exact .inr (.inr ⟨rfl, by omega, by omega⟩)

/-- The loop reads characters and then pads from the text, and ends with `final`. -/
structure Reads (quantum : Quantum) (values text chars : List UInt8) (count : Nat)
    (final : Quantum) : Prop where
  isText : ∃ rest, text = chars ++ List.replicate count kPad ++ rest
  areChars : ∀ ch ∈ chars, isBase64Char ch = true
  noChars : 0 < quantum.padLen → chars = []
  holds : final.Holds (values ++ chars.map decoded)
  isPadLen : final.padLen = quantum.padLen + count
  isPosition : final.dpos = quantum.dpos + chars.length + count
  few : values.length + chars.length ≤ 4
  pads : 0 < final.padLen → 2 ≤ values.length + chars.length ∧
    values.length + chars.length + final.padLen ≤ 4

variable {text chars : List UInt8} {count : Nat} {next final : Quantum} {ch : UInt8}

/-- Nothing is read where the loop ends at once. -/
theorem Goes.reads (goes : quantum.Goes next values quantum.padLen) (text : List UInt8)
    (few : values.length ≤ 4)
    (padded : 0 < quantum.padLen → 2 ≤ values.length ∧ values.length + quantum.padLen ≤ 4) :
    quantum.Reads values text [] 0 next := by
  refine ⟨⟨text, rfl⟩, List.forall_mem_nil _, fun _ => rfl, ?_, goes.isPadLen, goes.samePosition,
    few, ?_⟩
  · rw [List.map_nil, List.append_nil]
    exact goes.holds
  · rw [goes.isPadLen]
    exact padded

/-- One digit more is read in front. -/
theorem Reads.digit (isChar : isBase64Char ch = true) (noPads : quantum.padLen = 0)
    (goes : quantum.Goes next (values ++ [decoded ch]) 0)
    (reads : Reads { next with dpos := next.dpos + 1 } (values ++ [decoded ch]) text chars count
      final) :
    quantum.Reads values (ch :: text) (ch :: chars) count final := by
  obtain ⟨rest, isText⟩ := reads.isText
  have few := reads.few
  have pads := reads.pads
  simp only [List.length_append, List.length_singleton] at few pads
  refine ⟨⟨rest, ?_⟩, List.forall_mem_cons.mpr ⟨isChar, reads.areChars⟩, fun some => ?_, ?_, ?_, ?_,
    ?_, ?_⟩
  · rw [isText]
    rfl
  · omega
  · simpa using reads.holds
  · rw [reads.isPadLen, goes.isPadLen, noPads]
  · rw [reads.isPosition, List.length_cons]
    simp only [goes.samePosition]
    omega
  · rw [List.length_cons]
    omega
  · rw [List.length_cons]
    omega

/-- One pad more is read in front; no digit follows it. -/
theorem Reads.pad (goes : quantum.Goes next values (quantum.padLen + 1))
    (reads : Reads { next with dpos := next.dpos + 1 } values text chars count final) :
    quantum.Reads values (kPad :: text) [] (count + 1) final := by
  obtain ⟨rest, isText⟩ := reads.isText
  have nothing : chars = [] := reads.noChars (by simp only [goes.isPadLen]; omega)
  subst nothing
  refine ⟨⟨rest, ?_⟩, List.forall_mem_nil _, fun _ => rfl, reads.holds, ?_, ?_, reads.few,
    reads.pads⟩
  · rw [isText]
    rfl
  · rw [reads.isPadLen]
    simp only [goes.isPadLen]
    omega
  · rw [reads.isPosition]
    simp only [goes.samePosition]
    omega

/-- Strictly, the loop takes digits and then pads, and never more than four characters. -/
theorem scan_strict (text : List UInt8) (holds : quantum.Holds values) (few : values.length ≤ 4)
    (padded : 0 < quantum.padLen → 2 ≤ values.length ∧ values.length + quantum.padLen ≤ 4) :
    ∃ chars count, quantum.Reads values text chars count (scan .strict false text quantum) := by
  have stays : quantum.Goes quantum values quantum.padLen := ⟨holds, rfl, rfl⟩
  induction text generalizing quantum values with
  | nil => exact ⟨[], 0, stays.reads [] few padded⟩
  | cons ch text inductionHypothesis =>
      by_cases full : quantum.byteLen < 4
      · rcases accept_strict holds ch with ⟨next, leaves, goes⟩ | ⟨isChar, noPads⟩ |
          ⟨rfl, two, room⟩
        · rw [scan, if_pos full, leaves]
          exact ⟨[], 0, goes.reads _ few padded⟩
        · obtain ⟨next, again, goes⟩ := accept_digit holds isChar noPads
          have fewer : (values ++ [decoded ch]).length ≤ 4 := by
            rw [holds.byteLen] at full
            rw [List.length_append, List.length_singleton]
            omega
          obtain ⟨chars, count, reads⟩ := inductionHypothesis goes.advance fewer
            (fun some => by simp [goes.isPadLen] at some) ⟨goes.advance, rfl, rfl⟩
          rw [scan_again full again]
          exact ⟨ch :: chars, count, .digit isChar noPads goes reads⟩
        · obtain ⟨next, again, goes⟩ := accept_pad holds two room
          obtain ⟨chars, count, reads⟩ := inductionHypothesis goes.advance few
            (by simp only [goes.isPadLen]; omega) ⟨goes.advance, rfl, rfl⟩
          rw [scan_again full again]
          exact ⟨[], count + 1, .pad goes reads⟩
      · rw [scan, if_neg full]
        exact ⟨[], 0, stays.reads _ few padded⟩

end Quantum

/-- What a strict quantum was read from. -/
theorem getNextQuantum_strict (data : List UInt8) (dpos : Nat) (qbuf : Nat → UInt8) :
    ∃ chars count rest, data.drop dpos = chars ++ List.replicate count kPad ++ rest ∧
      (∀ ch ∈ chars, isBase64Char ch = true) ∧ chars.length ≤ 4 ∧
      (0 < count → 2 ≤ chars.length ∧ chars.length + count ≤ 4) ∧
      (getNextQuantum .strict false data dpos qbuf).Has (chars.map decoded) ∧
      (getNextQuantum .strict false data dpos qbuf).padded = decide (chars.length + count = 4) ∧
      (chars.length + count = 4 →
        (getNextQuantum .strict false data dpos qbuf).dpos = dpos + chars.length + count) := by
  obtain ⟨chars, count, reads⟩ := Quantum.scan_strict (data.drop dpos)
    (Quantum.holds_start dpos qbuf) (Nat.zero_le 4) (fun some => absurd some (Nat.lt_irrefl 0))
  obtain ⟨rest, isText⟩ := reads.isText
  obtain ⟨has, isPadded, isPosition⟩ := getNextQuantum_of_scan rfl reads.holds
  have few := reads.few
  have pads := reads.pads
  have isPadLen := reads.isPadLen
  simp only [Nat.zero_add, List.nil_append, List.length_nil] at isPadLen few pads has
  rw [isPadLen] at pads
  rw [isPadLen, List.nil_append, List.length_map] at isPadded isPosition
  exact ⟨chars, count, rest, isText, reads.areChars, few, pads, has, isPadded,
    fun complete => (isPosition (.inr complete)).trans reads.isPosition⟩

section

open Sextets

variable {first second third fourth : UInt8}

/-- Four characters are the encoding of the bytes they stand for. -/
theorem encodeFromArray_chars (areChars : ∀ ch ∈ [first, second, third, fourth],
      isBase64Char ch = true) :
    encodeFromArray [high (decoded first) (decoded second), middle (decoded second) (decoded third),
      low (decoded third) (decoded fourth)] = [first, second, third, fourth] := by
  obtain ⟨small, areBack⟩ := sextets_of_chars areChars
  simp only [List.map_cons, List.map_nil, List.forall_mem_cons] at small areBack
  obtain ⟨smallFirst, smallSecond, smallThird, smallFourth, _⟩ := small
  rw [encodeFromArray_three, first_high smallFirst, second_high_middle smallSecond,
    third_middle_low smallThird smallFourth, fourth_low smallFourth]
  simp only [List.map_cons, List.map_nil, areBack, encodeFromArray, List.append_nil]

/-- Three characters are the encoding of what they decode to. -/
theorem encodeFromArray_three_chars (areChars : ∀ ch ∈ [first, second, third],
      isBase64Char ch = true) (clear : low (decoded third) 0 = 0) :
    encodeFromArray [high (decoded first) (decoded second),
      middle (decoded second) (decoded third)] = [first, second, third, kPad] := by
  obtain ⟨small, areBack⟩ := sextets_of_chars areChars
  simp only [List.map_cons, List.map_nil, List.forall_mem_cons] at small areBack
  obtain ⟨smallFirst, smallSecond, smallThird, _⟩ := small
  have isLast : Sextets.third (middle (decoded second) (decoded third)) 0 = decoded third := by
    conv => lhs; arg 2; rw [← clear]
    exact third_middle_low smallThird (by decide)
  rw [encodeFromArray_two, first_high smallFirst, second_high_middle smallSecond, isLast]
  simp only [List.map_cons, List.map_nil, areBack]
  rfl

/-- Two characters are the encoding of what they decode to. -/
theorem encodeFromArray_two_chars (areChars : ∀ ch ∈ [first, second], isBase64Char ch = true)
    (clear : middle (decoded second) 0 = 0) :
    encodeFromArray [high (decoded first) (decoded second)] = [first, second, kPad, kPad] := by
  obtain ⟨small, areBack⟩ := sextets_of_chars areChars
  simp only [List.map_cons, List.map_nil, List.forall_mem_cons] at small areBack
  obtain ⟨smallFirst, smallSecond, _⟩ := small
  have isLast : Sextets.second (high (decoded first) (decoded second)) 0 = decoded second := by
    conv => lhs; arg 2; rw [← clear]
    exact second_high_middle smallSecond
  rw [encodeFromArray_one, first_high smallFirst, isLast]
  simp only [List.map_cons, List.map_nil, areBack]
  rfl

end

/-- Whole groups of three are encoded one after another. -/
theorem encodeFromArray_append {data : List UInt8} (whole : data.length % 3 = 0)
    (rest : List UInt8) :
    encodeFromArray (data ++ rest) = encodeFromArray data ++ encodeFromArray rest := by
  induction data using encodeFromArray.induct with
  | case1 => rfl
  | case2 => simp at whole
  | case3 => simp at whole
  | case4 high middle low data inductionHypothesis =>
      have wholeRest : data.length % 3 = 0 := by
        simp only [List.length_cons] at whole
        omega
      simp only [List.cons_append, encodeFromArray_three, inductionHypothesis wholeRest,
        List.append_assoc]

section

open Sextets

variable {text : List UInt8}

/-- The text up to `dpos` is the encoding of the result, in whole groups. -/
structure Whole (text : List UInt8) (decoding : Decoding) : Prop where
  inside : decoding.dpos ≤ text.length
  whole : decoding.result.length % 3 = 0
  isText : text = encodeFromArray decoding.result ++ text.drop decoding.dpos

/-- A text that is left with success at its end is the encoding of the result. -/
def Exact (text : List UInt8) (decoding : Decoding) : Prop :=
  decoding.success = true → decoding.dpos = text.length → text = encodeFromArray decoding.result

/-- The turn with the last quantum. -/
theorem Whole.last {decoding : Decoding} (whole : Whole text decoding) {chars rest : List UInt8}
    {count : Nat} {c : UInt8} {bytes : List UInt8} {quantum : NextQuantum}
    (isSplit : text.drop decoding.dpos = chars ++ List.replicate count kPad ++ rest)
    (complete : chars.length + count = 4)
    (isPosition : quantum.dpos = decoding.dpos + chars.length + count)
    (isBytes : c = 0 → encodeFromArray bytes = chars ++ List.replicate count kPad)
    {success : Bool} (clear : success = true → c = 0) :
    Exact text ⟨quantum.dpos, success, decoding.result ++ bytes, quantum.qbuf⟩ := by
  intro succeeds isEnd
  have isLength := congrArg List.length isSplit
  simp only [List.length_drop, List.length_append, List.length_replicate] at isLength
  simp only [isPosition] at isEnd
  have nothing : rest = [] := by
    apply List.eq_nil_of_length_eq_zero
    have := whole.inside
    omega
  rw [nothing, List.append_nil] at isSplit
  rw [encodeFromArray_append whole.whole, isBytes (clear succeeds), ← isSplit]
  exact whole.isText

/-- The turn with a full quantum. -/
theorem Whole.next {decoding : Decoding} (whole : Whole text decoding)
    {first second third fourth : UInt8} {rest : List UInt8} {quantum : NextQuantum}
    (isSplit : text.drop decoding.dpos = [first, second, third, fourth] ++ rest)
    (areChars : ∀ ch ∈ [first, second, third, fourth], isBase64Char ch = true)
    (isPosition : quantum.dpos = decoding.dpos + 4) (success : Bool) :
    Whole text ⟨quantum.dpos, success, decoding.result ++
        [high (decoded first) (decoded second), middle (decoded second) (decoded third),
          low (decoded third) (decoded fourth)], quantum.qbuf⟩ ∧
      text.length - quantum.dpos < text.length - decoding.dpos := by
  have isLength := congrArg List.length isSplit
  simp only [List.length_drop, List.length_append, List.length_cons, List.length_nil] at isLength
  have isRest : text.drop (decoding.dpos + 4) = rest := by
    rw [← List.drop_drop, isSplit]
    rfl
  rw [isPosition]
  refine ⟨⟨?_, ?_, ?_⟩, by omega⟩
  · simp only
    omega
  · have := whole.whole
    simp only [List.length_append, List.length_cons, List.length_nil]
    omega
  · rw [encodeFromArray_append whole.whole, encodeFromArray_chars areChars, isRest,
      List.append_assoc]
    exact whole.isText.trans (congrArg (encodeFromArray decoding.result ++ ·) isSplit)

/-- One turn of strict decoding. -/
theorem Whole.turn {decoding : Decoding} (whole : Whole text decoding) :
    (∃ result, decodeTurn doStrict text decoding = some (.leave result) ∧ Exact text result) ∨
      ∃ next, decodeTurn doStrict text decoding = some (.again next) ∧ Whole text next ∧
        text.length - next.dpos < text.length - decoding.dpos := by
  by_cases inside : decoding.dpos < text.length
  · obtain ⟨chars, count, rest, isSplit, areChars, few, pads, has, isPadded, isPosition⟩ :=
      getNextQuantum_strict text decoding.dpos decoding.qbuf
    generalize isQuantum : getNextQuantum .strict false text decoding.dpos decoding.qbuf =
      quantum at has isPadded isPosition
    have isTurn {bytes : List UInt8} {c : UInt8}
        (isUnpacked : unpack quantum.byteLen quantum.qbuf = (bytes, c)) :=
      decodeTurn_eq inside (show doStrict.pad ≠ .no by decide) isQuantum isUnpacked
    have isByteLen : quantum.byteLen = chars.length := by simpa using has.1
    -- Without all pads the quantum is refused, and so is one with unused bits.
    have refused (short : chars.length < 4) (incomplete : chars.length + count ≠ 4) :
        ∃ result, decodeTurn doStrict text decoding = some (.leave result) ∧ Exact text result := by
      refine ⟨_, (isTurn rfl).trans (if_pos (by omega)), fun succeeds => ?_⟩
      rw [isPadded, decide_eq_false incomplete, if_pos (.inr ⟨rfl, rfl⟩)] at succeeds
      cases succeeds
    have clear {c : UInt8} {padding : Prop} [Decidable padding]
        (succeeds : (if (doStrict.term ≠ .any ∧ c ≠ 0) ∨ padding then false
          else decoding.success) = true) : c = 0 := by
      by_cases unused : c = 0
      · exact unused
      · rw [if_pos (.inl ⟨by decide, unused⟩)] at succeeds
        cases succeeds
    rcases chars with _ | ⟨first, _ | ⟨second, _ | ⟨third, _ | ⟨fourth, chars⟩⟩⟩⟩
    · exact .inl (refused (by simp) (by simp at pads ⊢; omega))
    · exact .inl (refused (by simp) (by simp at pads ⊢; omega))
    · by_cases complete : count = 2
      · subst complete
        refine .inl ⟨_, (isTurn has.unpack_two).trans (if_pos (by simp [isByteLen])), ?_⟩
        exact whole.last isSplit rfl (isPosition rfl) (encodeFromArray_two_chars areChars) clear
      · exact .inl (refused (by simp) (by simp only [List.length_cons, List.length_nil]; omega))
    · by_cases complete : count = 1
      · subst complete
        refine .inl ⟨_, (isTurn has.unpack_three).trans (if_pos (by simp [isByteLen])), ?_⟩
        exact whole.last isSplit rfl (isPosition rfl) (encodeFromArray_three_chars areChars) clear
      · exact .inl (refused (by simp) (by simp only [List.length_cons, List.length_nil]; omega))
    · simp only [List.length_cons] at few pads
      have noMore : chars = [] := List.eq_nil_of_length_eq_zero (by omega)
      have noPads : count = 0 := by omega
      subst noMore noPads
      exact .inr ⟨_, (isTurn has.unpack_four).trans (if_neg (by simp [isByteLen])),
        whole.next isSplit areChars (isPosition rfl) decoding.success⟩
  · refine .inl ⟨decoding, by rw [decodeTurn, if_neg inside], fun _ _ => ?_⟩
    have isText := whole.isText
    rw [List.drop_of_length_le (by omega), List.append_nil] at isText
    exact isText

/-- Strict decoding ends, and what it accepts is the encoding of the result. -/
theorem encoded_of_strict (qbuf : Nat → UInt8) (text : List UInt8) :
    ∃ outcome, decodeFromArray doStrict qbuf text = some outcome ∧
      (outcome.success = true → text = encodeFromArray outcome.result) := by
  have start : Whole text ⟨0, true, [], qbuf⟩ := ⟨Nat.zero_le _, rfl, rfl⟩
  obtain ⟨decoding, isDecoding, exact⟩ :=
    Loop.total (Whole text) (Exact text) (fun decoding => text.length - decoding.dpos)
      (fun _ whole => whole.turn) start (Nat.lt_succ_of_le (Nat.sub_le _ _))
  rw [decodeFromArray, isDecoding, Option.map_some]
  refine ⟨_, rfl, fun succeeds => ?_⟩
  by_cases isEnd : decoding.dpos = text.length
  · rw [if_neg (fun unused => unused.2 isEnd)] at succeeds
    exact exact succeeds isEnd
  · rw [if_pos ⟨rfl, isEnd⟩] at succeeds
    cases succeeds

/-- The strict flags accept the encoded texts and no others, and return what was encoded; so no
two texts stand for the same bytes. -/
theorem strict_accepts_encodings (qbuf : Nat → UInt8) :
    (∀ text, ∃ outcome, decodeFromArray doStrict qbuf text = some outcome ∧
      (outcome.success = true ↔ ∃ data, text = encodeFromArray data) ∧
      ∀ data, text = encodeFromArray data → outcome.result = data) ∧
    ∀ text other outcome same, decodeFromArray doStrict qbuf text = some outcome →
      decodeFromArray doStrict qbuf other = some same → outcome.success = true →
      same.success = true → outcome.result = same.result → text = other := by
  have complete {text data : List UInt8} (isText : text = encodeFromArray data) :
      decodeFromArray doStrict qbuf text = some ⟨true, data, text.length⟩ := by
    refine decodeFromArray_of_encoded qbuf (.inr ⟨rfl, rfl⟩) ?_
    rw [List.filter_eq_self.mpr fun ch _ => by simp [ignores, doStrict], isText]
  constructor
  · intro text
    obtain ⟨outcome, isOutcome, sound⟩ := encoded_of_strict qbuf text
    refine ⟨outcome, isOutcome, ⟨fun succeeds => ⟨_, sound succeeds⟩, ?_⟩, ?_⟩
    · rintro ⟨data, isText⟩
      rw [complete isText] at isOutcome
      cases isOutcome
      rfl
    · intro data isText
      rw [complete isText] at isOutcome
      cases isOutcome
      rfl
  · intro text other outcome same isOutcome isSame succeeds succeedsSame agree
    obtain ⟨_, isFirst, sound⟩ := encoded_of_strict qbuf text
    obtain ⟨_, isSecond, soundSame⟩ := encoded_of_strict qbuf other
    cases isOutcome.symm.trans isFirst
    cases isSame.symm.trans isSecond
    rw [sound succeeds, soundSame succeedsSame, agree]

end

end VzSdk.Base.Base64
