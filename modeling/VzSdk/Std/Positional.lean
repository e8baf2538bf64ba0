import Mathlib.Algebra.Group.Nat.Defs

/-!
# Positional byte representation

Naturals as fixed-width byte strings, most significant byte first (`bigEndian`)
or last (`littleEndian`). Writing and reading are inverse up to the width:
`ofBigEndian_bigEndian` in one direction, `bigEndian_ofBigEndian` in the other.
-/

namespace VzSdk.Std.Positional

/-- The `width` low bytes of a natural, most significant first. -/
def bigEndian : Nat → Nat → List UInt8
  | 0, _ => []
  | width + 1, value => UInt8.ofNat (value >>> (8 * width)) :: bigEndian width value

/-- One more byte below those read so far. -/
def shiftIn (high : Nat) (byte : UInt8) : Nat := (high <<< 8) ||| byte.toNat

/-- The natural a byte string stands for, most significant byte first. -/
def ofBigEndian (bytes : List UInt8) : Nat := bytes.foldl shiftIn 0

/-- The `width` low bytes of a natural, least significant first. -/
def littleEndian (width value : Nat) : List UInt8 := (bigEndian width value).reverse

/-- The natural a byte string stands for, least significant byte first. -/
def ofLittleEndian (bytes : List UInt8) : Nat := ofBigEndian bytes.reverse

/-- The width is the length. -/
@[simp] theorem length_bigEndian (width value : Nat) :
    (bigEndian width value).length = width := by
  induction width with
  | zero => rfl
  | succ width inductionHypothesis => simp [bigEndian, inductionHypothesis]

/-- The width is the length. -/
@[simp] theorem length_littleEndian (width value : Nat) :
    (littleEndian width value).length = width := by
  simp [littleEndian]

/-- Shifting in a byte, in terms of numbers. -/
theorem shiftIn_eq (high : Nat) (byte : UInt8) : shiftIn high byte = high * 256 + byte.toNat := by
  have small : byte.toNat < 2 ^ 8 := byte.toNat_lt
  rw [shiftIn, ← Nat.shiftLeft_add_eq_or_of_lt small, Nat.shiftLeft_eq]

/-- Shifting in several bytes. -/
theorem foldl_shiftIn (high : Nat) (bytes : List UInt8) :
    bytes.foldl shiftIn high = high * 256 ^ bytes.length + ofBigEndian bytes := by
  induction bytes generalizing high with
  | nil => simp [ofBigEndian]
  | cons byte bytes inductionHypothesis =>
      have tail := inductionHypothesis (shiftIn 0 byte)
      simp only [ofBigEndian, List.foldl_cons, List.length_cons] at tail ⊢
      rw [inductionHypothesis, tail, shiftIn_eq, shiftIn_eq, Nat.pow_succ]
      simp only [ofBigEndian, Nat.add_mul, Nat.zero_mul, Nat.zero_add, Nat.mul_assoc,
        Nat.mul_comm 256, Nat.add_assoc]

/-- The value of the first byte and of the others. -/
theorem ofBigEndian_cons (byte : UInt8) (bytes : List UInt8) :
    ofBigEndian (byte :: bytes) = byte.toNat * 256 ^ bytes.length + ofBigEndian bytes := by
  rw [ofBigEndian, List.foldl_cons, foldl_shiftIn, shiftIn_eq]
  simp

/-- A byte string stands for less than the next power of its width. -/
theorem ofBigEndian_lt (bytes : List UInt8) : ofBigEndian bytes < 256 ^ bytes.length := by
  induction bytes with
  | nil => simp [ofBigEndian]
  | cons byte bytes inductionHypothesis =>
      have small : byte.toNat < 256 := byte.toNat_lt
      rw [ofBigEndian_cons, List.length_cons, Nat.pow_succ]
      calc byte.toNat * 256 ^ bytes.length + ofBigEndian bytes
          < byte.toNat * 256 ^ bytes.length + 256 ^ bytes.length := by omega
        _ = (byte.toNat + 1) * 256 ^ bytes.length := by rw [Nat.add_mul, Nat.one_mul]
        _ ≤ 256 * 256 ^ bytes.length := Nat.mul_le_mul_right _ (by omega)
        _ = 256 ^ bytes.length * 256 := Nat.mul_comm _ _

/-- Reading back what was written keeps the bytes that fit. -/
theorem ofBigEndian_bigEndian (width value : Nat) :
    ofBigEndian (bigEndian width value) = value % 256 ^ width := by
  induction width with
  | zero => simp [bigEndian, ofBigEndian, Nat.mod_one]
  | succ width inductionHypothesis =>
      rw [bigEndian, ofBigEndian_cons, length_bigEndian, inductionHypothesis, Nat.mod_pow_succ,
        UInt8.toNat_ofNat', Nat.shiftRight_eq_div_pow, Nat.pow_mul]
      change value / 256 ^ width % 256 * 256 ^ width + value % 256 ^ width = _
      rw [Nat.mul_comm, Nat.add_comm]

/-- What is above the width is not written. -/
theorem bigEndian_add_mul (width value high : Nat) :
    bigEndian width (high * 256 ^ width + value) = bigEndian width value := by
  have step : ∀ low, low ≤ width →
      bigEndian low (high * 256 ^ width + value) = bigEndian low value := by
    intro low
    induction low with
    | zero => intro _; rfl
    | succ low inductionHypothesis =>
        intro bounded
        rw [bigEndian, bigEndian, inductionHypothesis (by omega)]
        congr 1
        apply UInt8.toNat_inj.mp
        rw [UInt8.toNat_ofNat', UInt8.toNat_ofNat', Nat.shiftRight_eq_div_pow,
          Nat.shiftRight_eq_div_pow, Nat.pow_mul]
        change (high * 256 ^ width + value) / 256 ^ low % 256 = value / 256 ^ low % 256
        obtain ⟨gap, rfl⟩ : ∃ gap, width = low + (gap + 1) := ⟨width - low - 1, by omega⟩
        have positive : 0 < 256 ^ low := Nat.pow_pos (by decide)
        rw [Nat.pow_add, Nat.mul_left_comm, Nat.mul_add_div positive, Nat.pow_succ,
          ← Nat.mul_assoc, Nat.mul_add_mod_self_right]
  exact step width (Nat.le_refl width)

/-- Writing back what was read restores every byte string of that width. -/
theorem bigEndian_ofBigEndian (bytes : List UInt8) :
    bigEndian bytes.length (ofBigEndian bytes) = bytes := by
  induction bytes with
  | nil => rfl
  | cons byte bytes inductionHypothesis =>
      have positive : 0 < 256 ^ bytes.length := Nat.pow_pos (by decide)
      have below := ofBigEndian_lt bytes
      have small : byte.toNat < 256 := byte.toNat_lt
      rw [ofBigEndian_cons, List.length_cons, bigEndian, bigEndian_add_mul, inductionHypothesis]
      congr 1
      apply UInt8.toNat_inj.mp
      rw [UInt8.toNat_ofNat', Nat.shiftRight_eq_div_pow, Nat.pow_mul]
      change (byte.toNat * 256 ^ bytes.length + ofBigEndian bytes) / 256 ^ bytes.length % 256 = _
      rw [Nat.mul_comm, Nat.mul_add_div positive, Nat.div_eq_of_lt below, Nat.add_zero,
        Nat.mod_eq_of_lt small]

end VzSdk.Std.Positional
