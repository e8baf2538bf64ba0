import Mathlib.Algebra.Group.Nat.Defs
import VzSdk.Std.Decimal

/-!
# Socket addresses

An address is given as a text, which is an IP address or a host name, and is
printed from its IP address. `Inet` holds the functions that read the texts of
both families and print IPv6 addresses, which differ from one platform to the
other; the results are for all of them. `inetPton` reads dotted IPv4 addresses as
the C library does: there every text that is read is the printed one.
-/

namespace VzSdk.Base

open VzSdk.Std

/-- `in_addr`, by its bytes in network order. -/
structure InAddr where
  first : UInt8
  second : UInt8
  third : UInt8
  fourth : UInt8
deriving DecidableEq, Repr

/-- `inet_ntop(AF_INET, ...)`. -/
def inetNtop (address : InAddr) : List UInt8 :=
  [46].intercalate ([address.first, address.second, address.third, address.fourth].map
    fun byte => Decimal.text byte.toNat)

/-- `in6_addr`, by its bytes in network order. -/
abbrev In6Addr := Vector UInt8 16

/-- `inet_pton` for both families, and `inet_ntop` for IPv6. -/
structure Inet where
  /-- `inet_pton(AF_INET, ...)`. -/
  pton : List UInt8 → Option InAddr
  /-- `inet_pton(AF_INET6, ...)`. -/
  pton6 : List UInt8 → Option In6Addr
  /-- `inet_ntop(AF_INET6, ...)`. -/
  ntop6 : In6Addr → List UInt8

/-- `IPAddress`, with the address of its family. -/
inductive IPAddress where
  | unspec
  | v4 (address : InAddr)
  | v6 (address : In6Addr)
deriving DecidableEq, Repr

/-- `IPFromString`; a text that is no IP address leaves an unspecified one. -/
def ipFromString (inet : Inet) (text : List UInt8) : IPAddress :=
  match inet.pton text with
  | some address => .v4 address
  | none =>
      match inet.pton6 text with
      | some address => .v6 address
      | none => .unspec

/-- `IPAddress::ToString`. -/
def IPAddress.toText (inet : Inet) : IPAddress → List UInt8
  | unspec => []
  | v4 address => inetNtop address
  | v6 address => inet.ntop6 address

/-- `SocketAddress`, as far as the lookups read it. -/
structure SocketAddress where
  hostname : List UInt8
  ip : IPAddress
  port : UInt16
deriving DecidableEq, Repr

/-- `SocketAddress(hostname, port)`, with `SetIP` and `SetPort`. -/
def SocketAddress.new (inet : Inet) (hostname : List UInt8) (port : UInt16) : SocketAddress :=
  ⟨hostname, ipFromString inet hostname, port⟩

/-- What is printed of the address that a text is read as. -/
def reprinted (inet : Inet) (text : List UInt8) : List UInt8 := (ipFromString inet text).toText inet

/-- The address that the text is read as is printed as the text again. -/
def IsPrinted (inet : Inet) (text : List UInt8) : Prop := reprinted inet text = text

instance (inet : Inet) (text : List UInt8) : Decidable (IsPrinted inet text) :=
  inferInstanceAs (Decidable (reprinted inet text = text))

/-! ## Dotted addresses of the C library -/

/-- A number up to 255 without zeros in front. -/
def octet? (digits : List UInt8) : Option UInt8 :=
  if digits ≠ [] ∧ digits.all Decimal.isDigit ∧ (digits = [48] ∨ digits.head? ≠ some 48) ∧
      Decimal.value digits < 256 then
    some (.ofNat (Decimal.value digits))
  else none

/-- `inet_pton(AF_INET, ...)` of the C library. -/
def inetPton (text : List UInt8) : Option InAddr :=
  match text.splitOn 46 with
  | [first, second, third, fourth] => do
      return ⟨← octet? first, ← octet? second, ← octet? third, ← octet? fourth⟩
  | _ => none

/-- An octet is read from what it is written as. -/
theorem octet?_eq_some {digits : List UInt8} {byte : UInt8} :
    octet? digits = some byte ↔ digits = Decimal.text byte.toNat := by
  unfold octet?
  constructor
  · intro read
    split at read
    · next isOctet =>
        obtain ⟨nonempty, areDigits, shortest, small⟩ := isOctet
        cases read
        rw [UInt8.toNat_ofNat', Nat.mod_eq_of_lt small,
          Decimal.text_value nonempty (List.all_eq_true.mp areDigits) shortest]
    · cases read
  · rintro rfl
    have below := byte.toNat_lt
    rw [if_pos, Decimal.value_text, UInt8.ofNat_toNat]
    refine ⟨Decimal.text_ne_nil _, List.all_eq_true.mpr ?_, Decimal.text_shortest _, ?_⟩
    · exact fun digit member => Decimal.isDigit_of_mem_text member
    · rw [Decimal.value_text]
      exact below

/-- The texts that the C library reads are those that it prints. -/
theorem inetPton_eq_some {text : List UInt8} {address : InAddr} :
    inetPton text = some address ↔ text = inetNtop address := by
  unfold inetPton inetNtop
  constructor
  · intro read
    split at read
    · next first second third fourth parts =>
        simp only [Option.bind_eq_bind, Option.bind_eq_some_iff, Option.pure_def,
          Option.some.injEq, octet?_eq_some] at read
        obtain ⟨firstByte, isFirst, secondByte, isSecond, thirdByte, isThird, fourthByte,
          isFourth, rfl⟩ := read
        have whole : [46].intercalate (text.splitOn 46) = text := List.intercalate_splitOn 46
        rw [← whole, parts, isFirst, isSecond, isThird, isFourth]
        rfl
    · cases read
  · rintro rfl
    have noDot (byte : UInt8) : 46 ∉ Decimal.text byte.toNat := fun member =>
      absurd (Decimal.isDigit_of_mem_text member) (by decide)
    have read (byte : UInt8) : octet? (Decimal.text byte.toNat) = some byte :=
      octet?_eq_some.mpr rfl
    rw [List.splitOn_intercalate 46 (by simp [noDot]) (by simp)]
    simp [read]

/-- Where IPv4 addresses are read as the C library reads them, every dotted address that is
read is printed as it was given. -/
theorem isPrinted_of_dotted {inet : Inet} (posix : inet.pton = inetPton) {text : List UInt8}
    (dotted : (inetPton text).isSome = true) : IsPrinted inet text := by
  obtain ⟨address, read⟩ := Option.isSome_iff_exists.mp dotted
  unfold IsPrinted reprinted ipFromString
  rw [posix, read]
  exact (inetPton_eq_some.mp read).symm

end VzSdk.Base
