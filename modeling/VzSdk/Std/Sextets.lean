/-!
# Three bytes as four sextets

The digits to base 64 of three bytes, each in a byte of its own: `first` to
`fourth` cut them out, and `high`, `middle` and `low` put the bytes together
again. The two are inverse, where a sextet has no bit beyond its six.
-/

namespace VzSdk.Std.Sextets

/-- The first sextet of three bytes. -/
def first (high : UInt8) : UInt8 := (high >>> 2) &&& (0x3f : UInt8)

/-- The second sextet of three bytes. -/
def second (high middle : UInt8) : UInt8 :=
  ((high <<< 4) &&& (0x3f : UInt8)) ||| ((middle >>> 4) &&& (0x0f : UInt8))

/-- The third sextet of three bytes. -/
def third (middle low : UInt8) : UInt8 :=
  ((middle <<< 2) &&& (0x3f : UInt8)) ||| ((low >>> 6) &&& (0x03 : UInt8))

/-- The fourth sextet of three bytes. -/
def fourth (low : UInt8) : UInt8 := low &&& (0x3f : UInt8)

/-- The first byte of four sextets. -/
def high (first second : UInt8) : UInt8 := (first <<< 2) ||| ((second >>> 4) &&& (0x3 : UInt8))

/-- The second byte of four sextets. -/
def middle (second third : UInt8) : UInt8 :=
  ((second <<< 4) &&& (0xf0 : UInt8)) ||| ((third >>> 2) &&& (0xf : UInt8))

/-- The third byte of four sextets. -/
def low (third fourth : UInt8) : UInt8 := ((third <<< 6) &&& (0xc0 : UInt8)) ||| fourth

/-- A digit to base 64. -/
def IsSextet (byte : UInt8) : Prop := byte.toNat < 64

instance (byte : UInt8) : Decidable (IsSextet byte) := inferInstanceAs (Decidable (_ < _))

/-- The two bits above the six are clear. -/
theorem IsSextet.bits {byte : UInt8} (small : IsSextet byte) :
    byte.toBitVec.getLsbD 6 = false ∧ byte.toBitVec.getLsbD 7 = false := by
  unfold IsSextet at small
  constructor
  · exact Nat.testBit_lt_two_pow small
  · exact Nat.testBit_lt_two_pow (Nat.lt_trans small (by decide))

/-- A byte that six bits make is a sextet. -/
theorem isSextet_of_and {byte : UInt8} (same : byte &&& (0x3f : UInt8) = byte) :
    IsSextet byte := by
  rw [IsSextet, ← same, UInt8.toNat_and]
  exact Nat.lt_of_le_of_lt Nat.and_le_right (by decide)

/-- Bytes are compared bit by bit. -/
theorem eq_of_bits {byte other : UInt8}
    (same : ∀ index, index = 0 ∨ index = 1 ∨ index = 2 ∨ index = 3 ∨ index = 4 ∨ index = 5 ∨
      index = 6 ∨ index = 7 → byte.toBitVec.getLsbD index = other.toBitVec.getLsbD index) :
    byte = other := by
  apply UInt8.toBitVec_inj.mp
  exact BitVec.eq_of_getLsbD_eq fun index below => same index (by omega)

/-- The first sextet has six bits. -/
theorem isSextet_first (byte : UInt8) : IsSextet (first byte) := by
  apply isSextet_of_and
  apply eq_of_bits
  rintro _ (rfl | rfl | rfl | rfl | rfl | rfl | rfl | rfl) <;> simp [first]

/-- The second sextet has six bits. -/
theorem isSextet_second (byte next : UInt8) : IsSextet (second byte next) := by
  apply isSextet_of_and
  apply eq_of_bits
  rintro _ (rfl | rfl | rfl | rfl | rfl | rfl | rfl | rfl) <;> simp [second]

/-- The third sextet has six bits. -/
theorem isSextet_third (byte next : UInt8) : IsSextet (third byte next) := by
  apply isSextet_of_and
  apply eq_of_bits
  rintro _ (rfl | rfl | rfl | rfl | rfl | rfl | rfl | rfl) <;> simp [third]

/-- The fourth sextet has six bits. -/
theorem isSextet_fourth (byte : UInt8) : IsSextet (fourth byte) := by
  apply isSextet_of_and
  apply eq_of_bits
  rintro _ (rfl | rfl | rfl | rfl | rfl | rfl | rfl | rfl) <;> simp [fourth]

/-- The first byte comes back. -/
@[simp] theorem high_first_second (byte next : UInt8) :
    high (first byte) (second byte next) = byte := by
  apply eq_of_bits
  rintro _ (rfl | rfl | rfl | rfl | rfl | rfl | rfl | rfl) <;> simp [high, first, second]

/-- The second byte comes back. -/
@[simp] theorem middle_second_third (previous byte next : UInt8) :
    middle (second previous byte) (third byte next) = byte := by
  apply eq_of_bits
  rintro _ (rfl | rfl | rfl | rfl | rfl | rfl | rfl | rfl) <;> simp [middle, second, third]

/-- The third byte comes back. -/
@[simp] theorem low_third_fourth (previous byte : UInt8) :
    low (third previous byte) (fourth byte) = byte := by
  apply eq_of_bits
  rintro _ (rfl | rfl | rfl | rfl | rfl | rfl | rfl | rfl) <;> simp [low, third, fourth]

/-- No bit is left behind the last byte. -/
theorem middle_second_zero (byte : UInt8) : middle (second byte 0) 0 = 0 :=
  middle_second_third byte 0 0

/-- Two bytes leave no bits for a third. -/
theorem low_third_zero (byte : UInt8) : low (third byte 0) 0 = 0 :=
  low_third_fourth byte 0

variable {sextet next previous : UInt8}

/-- The first sextet comes back. -/
theorem first_high (small : IsSextet sextet) : first (high sextet next) = sextet := by
  obtain ⟨sixth, seventh⟩ := small.bits
  apply eq_of_bits
  rintro _ (rfl | rfl | rfl | rfl | rfl | rfl | rfl | rfl) <;> simp_all [first, high]

/-- The second sextet comes back. -/
theorem second_high_middle (small : IsSextet sextet) :
    second (high previous sextet) (middle sextet next) = sextet := by
  obtain ⟨sixth, seventh⟩ := small.bits
  apply eq_of_bits
  rintro _ (rfl | rfl | rfl | rfl | rfl | rfl | rfl | rfl) <;> simp_all [second, high, middle]

/-- The third sextet comes back. -/
theorem third_middle_low (small : IsSextet sextet) (smallNext : IsSextet next) :
    third (middle previous sextet) (low sextet next) = sextet := by
  obtain ⟨sixth, seventh⟩ := small.bits
  obtain ⟨sixthNext, seventhNext⟩ := smallNext.bits
  apply eq_of_bits
  rintro _ (rfl | rfl | rfl | rfl | rfl | rfl | rfl | rfl) <;> simp_all [third, middle, low]

/-- The fourth sextet comes back. -/
theorem fourth_low (small : IsSextet sextet) : fourth (low previous sextet) = sextet := by
  obtain ⟨sixth, seventh⟩ := small.bits
  apply eq_of_bits
  rintro _ (rfl | rfl | rfl | rfl | rfl | rfl | rfl | rfl) <;> simp_all [fourth, low]

end VzSdk.Std.Sextets
