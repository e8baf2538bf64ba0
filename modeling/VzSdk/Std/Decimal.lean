import Mathlib.Data.Nat.Digits.Lemmas

/-!
# Decimal numbers in byte strings

The digits of a natural, as a text: `text` is what is printed and `value` what is
read. Reading gives back what was printed, whatever zeros stand before it, and
`text_value` says which digits are those of a printed number.
-/

namespace VzSdk.Std.Decimal

/-- The byte is a decimal digit. -/
def isDigit (byte : UInt8) : Bool := 48 ≤ byte && byte ≤ 57

/-- The digit of a number below ten. -/
def digit (value : Nat) : UInt8 := .ofNat (48 + value)

/-- The number that digits stand for. -/
def value (digits : List UInt8) : Nat :=
  digits.foldl (fun value digit => 10 * value + (digit.toNat - 48)) 0

/-- The shortest digits of a number. -/
def text (number : Nat) : List UInt8 :=
  if number = 0 then [48] else ((Nat.digits 10 number).map digit).reverse

section

variable {number : Nat} {byte : UInt8} {digits : List UInt8}

/-- The code of a digit. -/
theorem toNat_digit (small : number < 10) : (digit number).toNat = 48 + number := by
  rw [digit, UInt8.toNat_ofNat']
  omega

/-- The codes of the digits. -/
theorem isDigit_iff : isDigit byte = true ↔ 48 ≤ byte.toNat ∧ byte.toNat ≤ 57 := by
  simp only [isDigit, Bool.and_eq_true, decide_eq_true_eq, UInt8.le_iff_toNat_le]
  rfl

/-- A digit is one. -/
theorem isDigit_digit (small : number < 10) : isDigit (digit number) = true := by
  rw [isDigit_iff, toNat_digit small]
  omega

/-- A byte that is a digit is the digit of its number. -/
theorem digit_of_isDigit (isDigit : isDigit byte = true) : digit (byte.toNat - 48) = byte := by
  have range := isDigit_iff.mp isDigit
  apply UInt8.toNat_inj.mp
  rw [toNat_digit (by omega)]
  omega

/-- A number is not written as nothing. -/
theorem text_ne_nil (number : Nat) : text number ≠ [] := by
  unfold text
  split
  · simp
  · next positive => simpa [Nat.digits_eq_nil_iff_eq_zero] using positive

/-- A number is written in digits. -/
theorem isDigit_of_mem_text (member : byte ∈ text number) : isDigit byte = true := by
  unfold text at member
  split at member
  · rw [List.mem_singleton] at member
    rw [member]
    rfl
  · obtain ⟨value, inDigits, rfl⟩ := List.mem_map.mp (List.mem_reverse.mp member)
    exact isDigit_digit (Nat.digits_lt_base (by decide) inDigits)

/-! ## Values -/

/-- One more digit at the end. -/
theorem value_append_singleton (digits : List UInt8) (byte : UInt8) :
    value (digits ++ [byte]) = 10 * value digits + (byte.toNat - 48) := by
  simp [value]

/-- The value of digits, as Mathlib has it. -/
theorem value_reverse_digits (values : List Nat) (small : ∀ value ∈ values, value < 10) :
    value ((values.map digit).reverse) = Nat.ofDigits 10 values := by
  induction values with
  | nil => rfl
  | cons first values inductionHypothesis =>
      obtain ⟨smallFirst, smallRest⟩ := List.forall_mem_cons.mp small
      rw [List.map_cons, List.reverse_cons, value_append_singleton, inductionHypothesis smallRest,
        Nat.ofDigits_cons, toNat_digit smallFirst]
      omega

/-- A number comes back from its text. -/
@[simp] theorem value_text (number : Nat) : value (text number) = number := by
  unfold text
  split
  · next zero => exact zero.symm
  · rw [value_reverse_digits _ fun _ member => Nat.digits_lt_base (by decide) member,
      Nat.ofDigits_digits]

/-- Zeros in front do not count. -/
theorem value_zeros_append (count : Nat) (digits : List UInt8) :
    value (List.replicate count 48 ++ digits) = value digits := by
  induction count with
  | zero => rfl
  | succ count inductionHypothesis => simpa [value, List.replicate_succ] using inductionHypothesis

/-- A printed number has no zero in front. -/
theorem text_shortest (number : Nat) : text number = [48] ∨ (text number).head? ≠ some 48 := by
  by_cases zero : number = 0
  · exact Or.inl (if_pos zero)
  · refine Or.inr fun isZero => ?_
    rw [text, if_neg zero, List.head?_reverse, List.getLast?_map] at isZero
    obtain ⟨highest, isLast, isDigit⟩ := Option.map_eq_some_iff.mp isZero
    have nonempty : Nat.digits 10 number ≠ [] := Nat.digits_ne_nil_iff_ne_zero.mpr zero
    rw [List.getLast?_eq_some_getLast nonempty, Option.some.injEq] at isLast
    have nonzero : highest ≠ 0 := isLast ▸ Nat.getLast_digit_ne_zero 10 zero
    have small : highest < 10 :=
      Nat.digits_lt_base (by decide) (isLast ▸ List.getLast_mem nonempty)
    have same : 48 + highest = 48 := (toNat_digit small).symm.trans (by rw [isDigit]; rfl)
    omega

/-- Digits without a zero in front are those of their number. -/
theorem text_value (some : digits ≠ []) (areDigits : ∀ byte ∈ digits, isDigit byte = true)
    (shortest : digits = [48] ∨ digits.head? ≠ .some 48) : text (value digits) = digits := by
  rcases shortest with rfl | noZero
  · rfl
  · have small : ∀ number ∈ digits.reverse.map (fun byte => byte.toNat - 48), number < 10 := by
      intro number member
      obtain ⟨byte, inDigits, rfl⟩ := List.mem_map.mp member
      have range := isDigit_iff.mp (areDigits byte (List.mem_reverse.mp inDigits))
      omega
    have back : (digits.reverse.map fun byte => byte.toNat - 48).map digit = digits.reverse := by
      rw [List.map_map]
      conv_rhs => rw [← List.map_id digits.reverse]
      refine List.map_congr_left fun byte member => ?_
      exact digit_of_isDigit (areDigits byte (List.mem_reverse.mp member))
    have isValue : value digits =
        Nat.ofDigits 10 (digits.reverse.map fun byte => byte.toNat - 48) := by
      rw [← value_reverse_digits _ small, back, List.reverse_reverse]
    have highest : ∀ nonempty, (digits.reverse.map fun byte => byte.toNat - 48).getLast nonempty ≠ 0 := by
      intro nonempty
      cases digits with
      | nil => exact absurd rfl some
      | cons first rest =>
          have range := isDigit_iff.mp (areDigits first (by simp))
          intro zero
          have noMore : first.toNat - 48 = 0 := by simpa using zero
          have isZero : first = 48 := UInt8.toNat_inj.mp (by change first.toNat = 48; omega)
          exact noZero (by simp [isZero])
    have printed : Nat.digits 10 (value digits) = digits.reverse.map fun byte => byte.toNat - 48 := by
      rw [isValue, Nat.digits_ofDigits 10 (by decide) _ small highest]
    have positive : value digits ≠ 0 := by
      intro zero
      rw [zero, Nat.digits_zero] at printed
      exact some (List.reverse_eq_nil_iff.mp (List.map_eq_nil_iff.mp printed.symm))
    rw [text, if_neg positive, printed, back, List.reverse_reverse]

end

/-! ## Reading on from a number -/

section

variable {digits rest : List UInt8} (areDigits : ∀ byte ∈ digits, isDigit byte = true)
  (stops : ∀ byte ∈ rest.head?, isDigit byte = false)

include areDigits stops

/-- The digits in front of the rest. -/
theorem takeWhile_digits : (digits ++ rest).takeWhile isDigit = digits := by
  rw [List.takeWhile_append_of_pos areDigits]
  cases rest with
  | nil => simp
  | cons byte rest => simp [stops byte (by simp)]

/-- The rest behind the digits. -/
theorem dropWhile_digits : (digits ++ rest).dropWhile isDigit = rest := by
  rw [List.dropWhile_append_of_pos areDigits]
  cases rest with
  | nil => simp
  | cons byte rest => simp [stops byte (by simp)]

end

end VzSdk.Std.Decimal
