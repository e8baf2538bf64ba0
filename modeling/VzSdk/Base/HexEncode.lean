/-!
# Bytes as pairs of hexadecimal digits

`hex_encode_with_delimiter` and `hex_decode_with_delimiter` of
`base/stringencode.cpp`. Every letter passes for a digit, up to `z` and not only
up to `f`: `hexDecode_accepts_hex_iff` says which sources are decoded for that
reason that are not hexadecimal, and that what is encoded is decoded again.
-/

namespace VzSdk.Base.Hex

/-! ## The functions -/

/-- The digits from 0 to f. -/
def hex : List UInt8 := [48, 49, 50, 51, 52, 53, 54, 55, 56, 57, 97, 98, 99, 100, 101, 102]

/-- The digit, or `!`. -/
def hexEncode (val : UInt8) : UInt8 :=
  if val < 16 then hex.getD val.toNat 0 else 33

/-- The value of a character, if it has one. -/
def hexDecode (ch : UInt8) : Option UInt8 :=
  if ch ≥ 48 ∧ ch ≤ 57 then some (ch - 48)             -- 0 to 9
  else if ch ≥ 65 ∧ ch ≤ 90 then some (ch - 65 + 10)   -- A to Z
  else if ch ≥ 97 ∧ ch ≤ 122 then some (ch - 97 + 10)  -- a to z
  else none

/-- How large the buffer must be that is encoded to. -/
def encodeNeeded (srclen : Nat) (delimiter : UInt8) : Nat :=
  if delimiter ≠ 0 then srclen * 3 else srclen * 2 + 1

/-- The loop: what is not read yet, and what the buffer holds. -/
def encodeLoop (delimiter : UInt8) : List UInt8 → List UInt8 → List UInt8
  | [], written => written
  | ch :: rest, written =>
      let written := written ++
        [hexEncode ((ch >>> 4) &&& (0xF : UInt8)), hexEncode (ch &&& (0xF : UInt8))]
      -- No delimiter is written after the last byte.
      if delimiter ≠ 0 ∧ 0 < rest.length then encodeLoop delimiter rest (written ++ [delimiter])
      else encodeLoop delimiter rest written

/-- The length that is returned, and what is written to the buffer. -/
def hexEncodeWithDelimiter (buflen : Nat) (source : List UInt8) (delimiter : UInt8) :
    Nat × List UInt8 :=
  if buflen = 0 then (0, [])
  else if buflen < encodeNeeded source.length delimiter then (0, [])
  else
    let written := encodeLoop delimiter source []
    (written.length, written ++ [0])

/-- How large the buffer must be that is decoded to. -/
def decodeNeeded (srclen : Nat) (delimiter : UInt8) : Nat :=
  if delimiter ≠ 0 then (srclen + 1) / 3 else srclen / 2

/-- The loop of `hex_decode_with_delimiter`, which gives up at the first pair that fails. -/
def decodeLoop (delimiter : UInt8) : List UInt8 → List UInt8 → Nat × List UInt8
  | [], written => (written.length, written)
  | [_], written => (0, written)
  | first :: second :: rest, written =>
      match hexDecode first, hexDecode second with
      | some high, some low =>
          let written := written ++ [(high <<< 4) ||| low]
          -- A delimiter is removed where more than one character is left.
          if delimiter ≠ 0 ∧ 1 < rest.length then
            match rest with
            | [] => (0, written)
            | ch :: rest =>
                if ch ≠ delimiter then (0, written) else decodeLoop delimiter rest written
          else decodeLoop delimiter rest written
      | _, _ => (0, written)

/-- The number of bytes that is returned, and what is written to the buffer. -/
def hexDecodeWithDelimiter (buflen : Nat) (source : List UInt8) (delimiter : UInt8) :
    Nat × List UInt8 :=
  if buflen = 0 then (0, [])
  else if buflen < decodeNeeded source.length delimiter then (0, [])
  else decodeLoop delimiter source []

/-! ## Sources -/

/-- A hexadecimal digit, in either case. -/
def IsHexDigit (ch : UInt8) : Prop :=
  (48 ≤ ch ∧ ch ≤ 57) ∨ (65 ≤ ch ∧ ch ≤ 70) ∨ (97 ≤ ch ∧ ch ≤ 102)

/-- What `hex_decode` takes: a digit or a letter. -/
def IsLetterOrDigit (ch : UInt8) : Prop :=
  (48 ≤ ch ∧ ch ≤ 57) ∨ (65 ≤ ch ∧ ch ≤ 90) ∨ (97 ≤ ch ∧ ch ≤ 122)

instance (ch : UInt8) : Decidable (IsHexDigit ch) := inferInstanceAs (Decidable (_ ∨ _))

instance (ch : UInt8) : Decidable (IsLetterOrDigit ch) := inferInstanceAs (Decidable (_ ∨ _))

/-- `tolower` of an ASCII character. -/
def toLower (ch : UInt8) : UInt8 :=
  if 65 ≤ ch ∧ ch ≤ 90 then ch + 32 else ch

/-- Pairs of characters, separated by the delimiter if there is one. -/
def joined (delimiter : UInt8) : List (UInt8 × UInt8) → List UInt8
  | [] => []
  | [pair] => [pair.1, pair.2]
  | pair :: next :: rest =>
      [pair.1, pair.2] ++ (if delimiter ≠ 0 then [delimiter] else []) ++
        joined delimiter (next :: rest)

/-- The text that is encoded in a buffer of the size. -/
def encoded (buflen : Nat) (source : List UInt8) (delimiter : UInt8) : List UInt8 :=
  (hexEncodeWithDelimiter buflen source delimiter).2.take
    (hexEncodeWithDelimiter buflen source delimiter).1

section Joined

variable {delimiter : UInt8}

/-- The first pair stands in front of the delimiter and the rest. -/
theorem joined_cons (pair : UInt8 × UInt8) {rest : List (UInt8 × UInt8)} (more : rest ≠ []) :
    joined delimiter (pair :: rest) =
      [pair.1, pair.2] ++ (if delimiter ≠ 0 then [delimiter] else []) ++
        joined delimiter rest := by
  obtain ⟨next, rest, rfl⟩ := List.exists_cons_of_ne_nil more
  rfl

/-- How long the joined pairs are. -/
theorem length_joined (pairs : List (UInt8 × UInt8)) :
    (joined delimiter pairs).length =
      if delimiter ≠ 0 then pairs.length * 3 - 1 else pairs.length * 2 := by
  fun_induction joined delimiter pairs with
  | case1 => simp
  | case2 pair => simp
  | case3 pair next rest ih =>
      rw [List.length_append, List.length_append, ih]
      split
      · simp only [List.length_cons, List.length_nil]
        omega
      · simp only [List.length_cons, List.length_nil]
        omega

/-- The pairs can be read back from their text. -/
theorem joined_injective {pairs others : List (UInt8 × UInt8)}
    (same : joined delimiter pairs = joined delimiter others) : pairs = others := by
  have length : pairs.length = others.length := by
    have lengths := congrArg List.length same
    rw [length_joined, length_joined] at lengths
    split at lengths <;> omega
  fun_induction joined delimiter pairs generalizing others with
  | case1 => exact (List.length_eq_zero_iff.mp length.symm).symm
  | case2 pair =>
      obtain ⟨other, rfl⟩ := List.length_eq_one_iff.mp length.symm
      simp only [joined, List.cons.injEq, and_true] at same
      rw [Prod.ext same.1 same.2]
  | case3 pair next rest ih =>
      obtain ⟨other, others, rfl⟩ := List.exists_cons_of_length_eq_add_one length.symm
      have more : others ≠ [] := by
        rintro rfl
        simp at length
      rw [joined_cons other more, List.append_assoc, List.append_assoc] at same
      obtain ⟨first, behind⟩ := List.append_inj same rfl
      rw [ih (List.append_cancel_left behind) (by simpa using length)]
      simp only [List.cons.injEq, and_true] at first
      rw [Prod.ext first.1 first.2]

end Joined

/-! ## Digits -/

/-- What holds of the codes holds of the bytes. -/
theorem forall_of_codes {holds : UInt8 → Prop} (codes : ∀ code, code < 256 → holds (.ofNat code))
    (byte : UInt8) : holds byte := by
  have atByte := codes byte.toNat byte.toNat_lt
  rwa [UInt8.ofNat_toNat] at atByte

/-- `hex_decode` takes exactly the digits and the letters. -/
theorem isSome_hexDecode_iff (ch : UInt8) : (hexDecode ch).isSome ↔ IsLetterOrDigit ch := by
  unfold hexDecode IsLetterOrDigit
  split
  · simp [*]
  · split
    · simp [*]
    · split <;> simp [*]

/-- A hexadecimal digit is a digit or a letter. -/
theorem IsHexDigit.isLetterOrDigit {ch : UInt8} (isDigit : IsHexDigit ch) :
    IsLetterOrDigit ch := by
  rcases isDigit with number | upper | lower
  · exact .inl number
  · exact .inr (.inl ⟨upper.1, UInt8.le_trans upper.2 (by decide)⟩)
  · exact .inr (.inr ⟨lower.1, UInt8.le_trans lower.2 (by decide)⟩)

/-- A character in lower case stays as it is. -/
theorem toLower_toLower (ch : UInt8) : toLower (toLower ch) = toLower ch := by
  revert ch
  exact forall_of_codes (by decide +kernel)

/-- The value of a hexadecimal digit is encoded as this digit, in lower case. -/
theorem hexDecode_of_isHexDigit {ch : UInt8} (isDigit : IsHexDigit ch) :
    ∃ val, hexDecode ch = some val ∧ val < 16 ∧ hexEncode val = toLower ch := by
  have checked : ∀ ch, IsHexDigit ch →
      (hexDecode ch).any (fun val => val < 16 ∧ hexEncode val = toLower ch) = true :=
    forall_of_codes (by decide +kernel)
  obtain ⟨val, isVal, valid⟩ := (Option.any_eq_true _ _).mp (checked ch isDigit)
  exact ⟨val, isVal, of_decide_eq_true valid⟩

/-- A value below 16 is encoded as a hexadecimal digit, and decoded from it. -/
theorem hexDecode_hexEncode {val : UInt8} (small : val < 16) :
    hexDecode (hexEncode val) = some val ∧ IsHexDigit (hexEncode val) := by
  have checked : ∀ code, code < 16 → hexDecode (hexEncode (.ofNat code)) = some (.ofNat code) ∧
      IsHexDigit (hexEncode (.ofNat code)) := by decide +kernel
  have atVal := checked val.toNat (UInt8.lt_iff_toNat_lt.mp small)
  rwa [UInt8.ofNat_toNat] at atVal

/-- The byte of two characters that have values. -/
def pairValue (pair : UInt8 × UInt8) : UInt8 :=
  ((hexDecode pair.1).getD 0 <<< 4) ||| (hexDecode pair.2).getD 0

/-- The two characters of a byte. -/
def encodedPair (ch : UInt8) : UInt8 × UInt8 :=
  (hexEncode ((ch >>> 4) &&& (0xF : UInt8)), hexEncode (ch &&& (0xF : UInt8)))

/-- The two halves of a byte come back from it. -/
theorem halves_of_digits {high low : UInt8} (highSmall : high < 16) (lowSmall : low < 16) :
    (((high <<< 4) ||| low) >>> 4) &&& (0xF : UInt8) = high ∧
      ((high <<< 4) ||| low) &&& (0xF : UInt8) = low := by
  have checked : ∀ code, code < 16 → ∀ other, other < 16 →
      (((UInt8.ofNat code <<< 4) ||| .ofNat other) >>> 4) &&& (0xF : UInt8) = .ofNat code ∧
        ((UInt8.ofNat code <<< 4) ||| .ofNat other) &&& (0xF : UInt8) = .ofNat other := by
    decide +kernel
  have atDigits := checked high.toNat (UInt8.lt_iff_toNat_lt.mp highSmall) low.toNat
    (UInt8.lt_iff_toNat_lt.mp lowSmall)
  rwa [UInt8.ofNat_toNat, UInt8.ofNat_toNat] at atDigits

/-- Encoding the value of a pair of digits writes them in lower case. -/
theorem encodedPair_pairValue {pair : UInt8 × UInt8}
    (isHex : IsHexDigit pair.1 ∧ IsHexDigit pair.2) :
    encodedPair (pairValue pair) = (toLower pair.1, toLower pair.2) := by
  obtain ⟨high, isHigh, highSmall, highDigit⟩ := hexDecode_of_isHexDigit isHex.1
  obtain ⟨low, isLow, lowSmall, lowDigit⟩ := hexDecode_of_isHexDigit isHex.2
  obtain ⟨upper, lower⟩ := halves_of_digits highSmall lowSmall
  simp only [pairValue, isHigh, isLow, Option.getD_some, encodedPair, upper, lower, highDigit,
    lowDigit]

/-- A byte is encoded as two digits, and comes back from them. -/
theorem pairValue_encodedPair (byte : UInt8) :
    pairValue (encodedPair byte) = byte ∧
      IsHexDigit (encodedPair byte).1 ∧ IsHexDigit (encodedPair byte).2 := by
  have halves : ∀ byte : UInt8, (byte >>> 4) &&& (0xF : UInt8) < 16 ∧
      byte &&& (0xF : UInt8) < 16 ∧
      (((byte >>> 4) &&& (0xF : UInt8)) <<< 4) ||| (byte &&& (0xF : UInt8)) = byte :=
    forall_of_codes (by decide +kernel)
  obtain ⟨highSmall, lowSmall, whole⟩ := halves byte
  obtain ⟨isHigh, highDigit⟩ := hexDecode_hexEncode highSmall
  obtain ⟨isLow, lowDigit⟩ := hexDecode_hexEncode lowSmall
  refine ⟨?_, highDigit, lowDigit⟩
  simp only [pairValue, encodedPair, isHigh, isLow, Option.getD_some, whole]

/-! ## Texts -/

section Loops

variable (delimiter : UInt8)

/-- Where the letter case is lost, it makes no difference if it is lost before. -/
theorem map_toLower_joined (pairs : List (UInt8 × UInt8)) :
    (joined delimiter (pairs.map fun pair => (toLower pair.1, toLower pair.2))).map toLower =
      (joined delimiter pairs).map toLower := by
  fun_induction joined delimiter pairs with
  | case1 => rfl
  | case2 pair =>
      simp only [joined, List.map_cons, List.map_nil, toLower_toLower]
  | case3 pair next rest ih =>
      simp only [List.map_cons, joined, List.map_append, toLower_toLower] at ih ⊢
      rw [ih]

/-- The loop appends the joined pairs of the bytes. -/
theorem encodeLoop_eq (source written : List UInt8) :
    encodeLoop delimiter source written =
      written ++ joined delimiter (source.map encodedPair) := by
  fun_induction encodeLoop delimiter source written with
  | case1 written => simp [joined]
  | case2 ch rest written next separated ih =>
      have more : rest.map encodedPair ≠ [] :=
        mt List.map_eq_nil_iff.mp (List.ne_nil_of_length_pos separated.2)
      rw [ih, List.map_cons, joined_cons _ more, if_pos separated.1]
      simp only [next, encodedPair, List.append_assoc]
  | case3 ch rest written next joint ih =>
      rw [ih]
      by_cases last : rest = []
      · subst last
        simp only [next, List.map_cons, List.map_nil, joined, List.append_nil, encodedPair]
      · have more : rest.map encodedPair ≠ [] := mt List.map_eq_nil_iff.mp last
        have isZero : ¬delimiter ≠ 0 := fun separated =>
          joint ⟨separated, List.length_pos_iff.mpr last⟩
        rw [List.map_cons, joined_cons _ more, if_neg isZero]
        simp only [next, encodedPair, List.append_assoc, List.nil_append]

/-- Pairs that have values are decoded. -/
theorem decodeLoop_joined {pairs : List (UInt8 × UInt8)} (written : List UInt8)
    (valued : ∀ pair ∈ pairs, IsLetterOrDigit pair.1 ∧ IsLetterOrDigit pair.2) :
    decodeLoop delimiter (joined delimiter pairs) written =
      (written.length + pairs.length, written ++ pairs.map pairValue) := by
  induction pairs generalizing written with
  | nil => simp [joined, decodeLoop]
  | cons pair rest ih =>
      obtain ⟨isPair, restValued⟩ := List.forall_mem_cons.mp valued
      obtain ⟨high, isHigh⟩ := Option.isSome_iff_exists.mp ((isSome_hexDecode_iff _).mpr isPair.1)
      obtain ⟨low, isLow⟩ := Option.isSome_iff_exists.mp ((isSome_hexDecode_iff _).mpr isPair.2)
      have isValue : (high <<< 4) ||| low = pairValue pair := by
        simp only [pairValue, isHigh, isLow, Option.getD_some]
      by_cases last : rest = []
      · subst last
        simp [joined, decodeLoop, isHigh, isLow, isValue]
      · have more : 1 < (joined delimiter rest).length := by
          have := List.length_pos_iff.mpr last
          rw [length_joined]
          split <;> omega
        have counted (written : List UInt8) :
            (written ++ [pairValue pair]).length + rest.length =
              written.length + (pair :: rest).length := by
          simp only [List.length_append, List.length_cons, List.length_nil]
          omega
        by_cases separated : delimiter ≠ 0
        · rw [joined_cons pair last, if_pos separated]
          simp only [List.cons_append, List.nil_append, decodeLoop, isHigh, isLow, isValue]
          rw [if_pos ⟨separated, by simp only [List.length_cons]; omega⟩, if_neg (fun other => other rfl),
            ih _ restValued, counted, List.map_cons, List.append_assoc]
          rfl
        · rw [joined_cons pair last, if_neg separated]
          simp only [List.cons_append, List.nil_append, decodeLoop, isHigh, isLow, isValue]
          rw [if_neg (fun both => separated both.1), ih _ restValued, counted, List.map_cons,
            List.append_assoc]
          rfl

/-- What is decoded, are pairs that have values. -/
theorem decodeLoop_sound (source written : List UInt8) :
    (decodeLoop delimiter source written).1 = 0 ∨
      ∃ pairs, source = joined delimiter pairs ∧
        ∀ pair ∈ pairs, IsLetterOrDigit pair.1 ∧ IsLetterOrDigit pair.2 := by
  have isPair {first second high low : UInt8} (isLow : hexDecode second = some low)
      (isHigh : hexDecode first = some high) : IsLetterOrDigit first ∧ IsLetterOrDigit second :=
    ⟨(isSome_hexDecode_iff _).mp (Option.isSome_of_eq_some isHigh),
      (isSome_hexDecode_iff _).mp (Option.isSome_of_eq_some isLow)⟩
  fun_induction decodeLoop delimiter source written with
  | case1 written => exact .inr ⟨[], rfl, List.forall_mem_nil _⟩
  | case2 | case3 | case4 | case7 => exact .inl rfl
  | case5 first second written high low isLow isHigh next ch rest same longer ih =>
      refine ih.imp_right ?_
      rintro ⟨pairs, isRest, valued⟩
      have isDelimiter : ch = delimiter := Decidable.not_not.mp same
      have more : pairs ≠ [] := by
        rintro rfl
        simp [isRest, joined] at longer
      refine ⟨(first, second) :: pairs, ?_, List.forall_mem_cons.mpr ⟨isPair isLow isHigh, valued⟩⟩
      rw [joined_cons _ more, if_pos longer.1, isDelimiter, isRest]
      rfl
  | case6 first second rest written high low isLow isHigh next joint ih =>
      refine ih.imp_right ?_
      rintro ⟨pairs, isRest, valued⟩
      refine ⟨(first, second) :: pairs, ?_, List.forall_mem_cons.mpr ⟨isPair isLow isHigh, valued⟩⟩
      by_cases last : pairs = []
      · subst last
        rw [isRest]
        rfl
      · have isZero : ¬delimiter ≠ 0 := by
          intro separated
          have := List.length_pos_iff.mpr last
          refine joint ⟨separated, ?_⟩
          rw [isRest, length_joined, if_pos separated]
          omega
        rw [joined_cons _ last, if_neg isZero, isRest]
        rfl

end Loops

section Buffers

variable {buflen : Nat} {source : List UInt8} {delimiter : UInt8}

/-- With a buffer that is large enough every byte is encoded. -/
theorem encoded_eq (large : encodeNeeded source.length delimiter ≤ buflen) :
    encoded buflen source delimiter = joined delimiter (source.map encodedPair) := by
  unfold encoded hexEncodeWithDelimiter
  by_cases isEmpty : buflen = 0
  · have noSource : source = [] := by
      rw [isEmpty, encodeNeeded] at large
      split at large
      · exact List.length_eq_zero_iff.mp (by omega)
      · omega
    simp only [if_pos isEmpty, noSource, List.map_nil, joined, List.take_nil]
  · simp only [if_neg isEmpty, if_neg (Nat.not_lt.mpr large), encodeLoop_eq, List.nil_append]
    exact List.take_left

/-- With a buffer that is large enough decoding is its loop. -/
theorem hexDecodeWithDelimiter_eq (large : decodeNeeded source.length delimiter ≤ buflen) :
    hexDecodeWithDelimiter buflen source delimiter = decodeLoop delimiter source [] := by
  unfold hexDecodeWithDelimiter
  rw [if_neg (Nat.not_lt.mpr large)]
  split
  · next isEmpty =>
      rw [isEmpty, decodeNeeded] at large
      rcases source with _ | ⟨first, _ | ⟨second, rest⟩⟩
      · rfl
      · rfl
      · simp only [List.length_cons] at large
        split at large <;> omega
  · rfl

/-- Joined pairs of letters and digits are decoded to their values. -/
theorem hexDecode_joined {pairs : List (UInt8 × UInt8)}
    (large : decodeNeeded (joined delimiter pairs).length delimiter ≤ buflen)
    (valued : ∀ pair ∈ pairs, IsLetterOrDigit pair.1 ∧ IsLetterOrDigit pair.2) :
    hexDecodeWithDelimiter buflen (joined delimiter pairs) delimiter =
      (pairs.length, pairs.map pairValue) := by
  rw [hexDecodeWithDelimiter_eq large, decodeLoop_joined delimiter [] valued, List.length_nil,
    Nat.zero_add, List.nil_append]

/-- The bytes of hexadecimal pairs are encoded as these pairs, in lower case. -/
theorem map_toLower_encoded {pairs : List (UInt8 × UInt8)}
    (roomy : encodeNeeded pairs.length delimiter ≤ buflen)
    (allHex : ∀ pair ∈ pairs, IsHexDigit pair.1 ∧ IsHexDigit pair.2) :
    (encoded buflen (pairs.map pairValue) delimiter).map toLower =
      (joined delimiter pairs).map toLower := by
  have lower : (pairs.map pairValue).map encodedPair =
      pairs.map fun pair => (toLower pair.1, toLower pair.2) := by
    rw [List.map_map]
    exact List.map_congr_left fun pair member => encodedPair_pairValue (allHex pair member)
  rw [encoded_eq (by rwa [List.length_map]), lower, map_toLower_joined]

/-- What is encoded is decoded again. -/
theorem hexDecode_encoded {input : List UInt8} {room : Nat}
    (roomy : encodeNeeded input.length delimiter ≤ room)
    (large : decodeNeeded (encoded room input delimiter).length delimiter ≤ buflen) :
    hexDecodeWithDelimiter buflen (encoded room input delimiter) delimiter =
      (input.length, input) := by
  have valued : ∀ pair ∈ input.map encodedPair,
      IsLetterOrDigit pair.1 ∧ IsLetterOrDigit pair.2 := by
    intro pair member
    obtain ⟨byte, -, rfl⟩ := List.mem_map.mp member
    obtain ⟨-, isHigh, isLow⟩ := pairValue_encodedPair byte
    exact ⟨isHigh.isLetterOrDigit, isLow.isLetterOrDigit⟩
  have same : (input.map encodedPair).map pairValue = input := by
    rw [List.map_map]
    conv => rhs; rw [← List.map_id input]
    exact List.map_congr_left fun byte _ => (pairValue_encodedPair byte).1
  rw [encoded_eq roomy] at large ⊢
  rw [hexDecode_joined large valued, List.length_map, same]

end Buffers

/-- What is decoded is hexadecimal, and is encoded again as it was, up to letter case. -/
def AcceptsHexOnly (buflen : Nat) (source : List UInt8) (delimiter : UInt8) : Prop :=
  ∀ n written, hexDecodeWithDelimiter buflen source delimiter = (n, written) → 0 < n →
    (∃ pairs, pairs.length = n ∧ source = joined delimiter pairs ∧
      ∀ pair ∈ pairs, IsHexDigit pair.1 ∧ IsHexDigit pair.2) ∧
    ∀ room, encodeNeeded n delimiter ≤ room →
      (encoded room (written.take n) delimiter).map toLower = source.map toLower

/-- Pairs of letters and digits, some of which are letters beyond `f`. -/
def BeyondHex (source : List UInt8) (delimiter : UInt8) : Prop :=
  ∃ pairs, source = joined delimiter pairs ∧
    (∀ pair ∈ pairs, IsLetterOrDigit pair.1 ∧ IsLetterOrDigit pair.2) ∧
    ∃ pair ∈ pairs, ¬(IsHexDigit pair.1 ∧ IsHexDigit pair.2)

/-- Only hexadecimal sources are decoded, exactly but for the sources with letters beyond `f`
in the place of digits. Whatever is encoded is decoded again. -/
theorem hexDecode_accepts_hex_iff {buflen : Nat} {source : List UInt8} {delimiter : UInt8}
    (large : decodeNeeded source.length delimiter ≤ buflen) :
    (AcceptsHexOnly buflen source delimiter ↔ ¬BeyondHex source delimiter) ∧
      ∀ input room size, encodeNeeded input.length delimiter ≤ room →
        decodeNeeded (encoded room input delimiter).length delimiter ≤ size →
        hexDecodeWithDelimiter size (encoded room input delimiter) delimiter =
          (input.length, input) := by
  refine ⟨⟨?_, ?_⟩, fun input room size => hexDecode_encoded⟩
  · rintro accepts ⟨pairs, rfl, valued, pair, member, beyond⟩
    obtain ⟨⟨others, -, isOther, allHex⟩, -⟩ :=
      accepts _ _ (hexDecode_joined large valued) (List.length_pos_of_mem member)
    have same : pairs = others := joined_injective isOther
    exact beyond (allHex pair (same ▸ member))
  · intro notBeyond n written decoded positive
    rcases decodeLoop_sound delimiter source [] with isZero | ⟨pairs, rfl, valued⟩
    · rw [← hexDecodeWithDelimiter_eq large, decoded] at isZero
      exact absurd isZero (Nat.ne_of_gt positive)
    · have allHex : ∀ pair ∈ pairs, IsHexDigit pair.1 ∧ IsHexDigit pair.2 := by
        intro pair member
        refine Decidable.not_not.mp fun beyond => notBeyond ?_
        exact ⟨pairs, rfl, valued, pair, member, beyond⟩
      rw [hexDecode_joined large valued] at decoded
      cases decoded
      refine ⟨⟨pairs, rfl, rfl, allHex⟩, fun room roomy => ?_⟩
      rw [List.take_of_length_le (Nat.le_of_eq (List.length_map _))]
      exact map_toLower_encoded roomy allHex

/-- A colon between the pairs, and letters of both cases. -/
theorem hexDecode_accepts_hex_iff_colon :
    AcceptsHexOnly 2 [49, 50, 58, 97, 66] 58 ∧
      hexDecodeWithDelimiter 2 (encoded 6 [18, 171] 58) 58 = (2, [18, 171]) := by
  obtain ⟨accepts, roundTrip⟩ :=
    @hexDecode_accepts_hex_iff 2 [49, 50, 58, 97, 66] 58 (by decide)
  refine ⟨accepts.mpr ?_, roundTrip [18, 171] 6 2 (by decide) (by decide)⟩
  rintro ⟨pairs, isSource, -, pair, member, beyond⟩
  have isPairs : [(49, 50), (97, 66)] = pairs := @joined_injective 58 _ _ isSource
  have allHex : ∀ pair ∈ [((49 : UInt8), (50 : UInt8)), (97, 66)],
      IsHexDigit pair.1 ∧ IsHexDigit pair.2 :=
    List.forall_mem_cons.mpr ⟨by decide, List.forall_mem_singleton.mpr (by decide)⟩
  exact beyond (allHex pair (isPairs ▸ member))

/-- `gg` is decoded as the byte 0x10. -/
theorem not_acceptsHexOnly_gg : ¬AcceptsHexOnly 1 [103, 103] 0 := by
  intro accepts
  obtain ⟨⟨pairs, single, isSource, allHex⟩, -⟩ := accepts 1 [0x10] (by decide) (by decide)
  obtain ⟨pair, rfl⟩ := List.length_eq_one_iff.mp single
  obtain ⟨isHigh, -⟩ := allHex pair (List.mem_singleton_self pair)
  obtain ⟨isFirst, -⟩ := List.cons.inj isSource
  rw [← isFirst] at isHigh
  exact absurd isHigh (by decide)

end VzSdk.Base.Hex
