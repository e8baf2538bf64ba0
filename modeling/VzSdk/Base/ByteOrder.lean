import VzSdk.Std.Positional

/-!
# Byte order

The memory image of a 32-bit integer depends on the host. `HostOrder.store32`
and `HostOrder.load32` are that image; everything the wire sees goes through
`setBE32` and `getBE32`, so `ntohl_load32` holds on either kind of host.
-/

namespace VzSdk.Base

open VzSdk.Std

/-- The order in which the host lays out the bytes of an integer. -/
inductive HostOrder where
  | littleEndian
  | bigEndian
deriving DecidableEq, Repr

/-- `SetBE32`. -/
def setBE32 (value : UInt32) : List UInt8 := Positional.bigEndian 4 value.toNat

/-- `GetBE32`. -/
def getBE32 (memory : List UInt8) : UInt32 :=
  UInt32.ofNat (Positional.ofBigEndian (memory.take 4))

/-- `SetLE32`. -/
def setLE32 (value : UInt32) : List UInt8 := Positional.littleEndian 4 value.toNat

/-- `GetLE32`. -/
def getLE32 (memory : List UInt8) : UInt32 :=
  UInt32.ofNat (Positional.ofLittleEndian (memory.take 4))

/-- `SetBE32` writes four bytes. -/
@[simp] theorem length_setBE32 (value : UInt32) : (setBE32 value).length = 4 := by
  simp [setBE32]

/-- A number that was set is got. -/
@[simp] theorem getBE32_setBE32 (value : UInt32) : getBE32 (setBE32 value) = value := by
  have fits : value.toNat < 256 ^ 4 := value.toNat_lt
  rw [getBE32, List.take_of_length_le (by simp), setBE32, Positional.ofBigEndian_bigEndian,
    Nat.mod_eq_of_lt fits, UInt32.ofNat_toNat]

/-- The number is the one that the bytes stand for. -/
theorem toNat_getBE32 {memory : List UInt8} (full : memory.length = 4) :
    (getBE32 memory).toNat = Positional.ofBigEndian memory := by
  have below := Positional.ofBigEndian_lt memory
  rw [full] at below
  rw [getBE32, List.take_of_length_le (by omega), UInt32.toNat_ofNat_of_lt' below]

/-- Bytes that were got are set again. -/
theorem setBE32_getBE32 {memory : List UInt8} (full : memory.length = 4) :
    setBE32 (getBE32 memory) = memory := by
  rw [setBE32, toNat_getBE32 full, ← full]
  exact Positional.bigEndian_ofBigEndian memory

/-- The two orders read each other's bytes backwards. -/
theorem getLE32_eq {memory : List UInt8} (full : memory.length = 4) :
    getLE32 memory = getBE32 memory.reverse := by
  rw [getLE32, getBE32, Positional.ofLittleEndian, List.take_of_length_le (by omega),
    List.take_of_length_le (by simp [full])]

namespace HostOrder

/-- The four bytes a 32-bit integer occupies in memory. -/
def store32 : HostOrder → UInt32 → List UInt8
  | .littleEndian, value => setLE32 value
  | .bigEndian, value => setBE32 value

/-- A number of 32 bits takes four bytes. -/
theorem length_store32 (order : HostOrder) (value : UInt32) : (order.store32 value).length = 4 := by
  cases order <;> simp [store32, setLE32]

/-- The 32-bit integer that four bytes of memory stand for. -/
def load32 : HostOrder → List UInt8 → UInt32
  | .littleEndian, memory => getLE32 memory
  | .bigEndian, memory => getBE32 memory

/-- What is loaded is stored again. -/
@[simp] theorem store32_load32 (host : HostOrder) {memory : List UInt8}
    (full : memory.length = 4) : host.store32 (host.load32 memory) = memory := by
  cases host with
  | littleEndian =>
      have back : setBE32 (getBE32 memory.reverse) = memory.reverse :=
        setBE32_getBE32 (by simp [full])
      rw [setBE32] at back
      rw [load32, store32, getLE32_eq full, setLE32, Positional.littleEndian, back,
        List.reverse_reverse]
  | bigEndian => exact setBE32_getBE32 full

/-- The bytes an integer of the width occupies in memory. -/
def bytes : HostOrder → Nat → Nat → List UInt8
  | .littleEndian, width, value => Positional.littleEndian width value
  | .bigEndian, width, value => Positional.bigEndian width value

/-- The integer that bytes of memory stand for. -/
def value : HostOrder → List UInt8 → Nat
  | .littleEndian, memory => Positional.ofLittleEndian memory
  | .bigEndian, memory => Positional.ofBigEndian memory

/-- A number takes as many bytes as it has room for. -/
@[simp] theorem length_bytes (host : HostOrder) (width value : Nat) :
    (host.bytes width value).length = width := by
  cases host <;> simp [bytes]

/-- Bytes stand for a number that fits into them. -/
theorem value_lt (host : HostOrder) (memory : List UInt8) :
    host.value memory < 256 ^ memory.length := by
  cases host with
  | littleEndian => simpa [value, Positional.ofLittleEndian] using
      Positional.ofBigEndian_lt memory.reverse
  | bigEndian => exact Positional.ofBigEndian_lt memory

/-- The bytes of the number that bytes stand for are those bytes. -/
theorem bytes_value (host : HostOrder) {width : Nat} {memory : List UInt8}
    (full : memory.length = width) : host.bytes width (host.value memory) = memory := by
  subst full
  cases host with
  | littleEndian =>
      have back := Positional.bigEndian_ofBigEndian memory.reverse
      rw [List.length_reverse] at back
      rw [bytes, value, Positional.littleEndian, Positional.ofLittleEndian, back,
        List.reverse_reverse]
  | bigEndian => exact Positional.bigEndian_ofBigEndian memory

/-- The 16-bit integer that two bytes of memory stand for. -/
def load16 : HostOrder → List UInt8 → UInt16
  | .littleEndian, memory => .ofNat (Positional.ofLittleEndian (memory.take 2))
  | .bigEndian, memory => .ofNat (Positional.ofBigEndian (memory.take 2))

/-- What is stored is loaded again. -/
@[simp] theorem load32_store32 (host : HostOrder) (value : UInt32) :
    host.load32 (host.store32 value) = value := by
  cases host with
  | littleEndian =>
      have full : (setLE32 value).length = 4 := by simp [setLE32]
      rw [store32, load32, getLE32_eq full, setLE32, Positional.littleEndian, List.reverse_reverse]
      exact getBE32_setBE32 value
  | bigEndian => exact getBE32_setBE32 value

/-- The bytes of a `uint16` in memory. -/
def store16 (host : HostOrder) (value : UInt16) : List UInt8 := host.bytes 2 value.toNat

/-- The bytes of a `uint64` in memory. -/
def store64 (host : HostOrder) (value : UInt64) : List UInt8 := host.bytes 8 value.toNat

/-- The `uint64` of bytes in memory. -/
def load64 (host : HostOrder) (memory : List UInt8) : UInt64 := .ofNat (host.value (memory.take 8))

/-- A `uint32` is stored as the other widths are. -/
theorem store32_eq (host : HostOrder) (value : UInt32) :
    host.store32 value = host.bytes 4 value.toNat := by
  cases host <;> rfl

/-- A `uint16` is loaded as the other widths are. -/
theorem load16_eq (host : HostOrder) (memory : List UInt8) :
    host.load16 memory = .ofNat (host.value (memory.take 2)) := by
  cases host <;> rfl

/-- A `uint32` is loaded as the other widths are. -/
theorem load32_eq (host : HostOrder) (memory : List UInt8) :
    host.load32 memory = .ofNat (host.value (memory.take 4)) := by
  cases host <;> rfl

/-- Two bytes are loaded as the number they stand for. -/
theorem toNat_load16 (host : HostOrder) {memory : List UInt8} (full : memory.length = 2) :
    (host.load16 memory).toNat = host.value memory := by
  have below := host.value_lt memory
  rw [full] at below
  rw [load16_eq, List.take_of_length_le (by omega), UInt16.toNat_ofNat_of_lt' below]

/-- Four bytes are loaded as the number they stand for. -/
theorem toNat_load32 (host : HostOrder) {memory : List UInt8} (full : memory.length = 4) :
    (host.load32 memory).toNat = host.value memory := by
  have below := host.value_lt memory
  rw [full] at below
  rw [load32_eq, List.take_of_length_le (by omega), UInt32.toNat_ofNat_of_lt' below]

/-- Eight bytes are loaded as the number they stand for. -/
theorem toNat_load64 (host : HostOrder) {memory : List UInt8} (full : memory.length = 8) :
    (host.load64 memory).toNat = host.value memory := by
  have below := host.value_lt memory
  rw [full] at below
  rw [load64, List.take_of_length_le (by omega), UInt64.toNat_ofNat_of_lt' below]

end HostOrder

/-- `HostToNetwork16`. -/
def hostToNetwork16 (host : HostOrder) (value : UInt16) : UInt16 :=
  host.load16 (Positional.bigEndian 2 value.toNat)

/-- `HostToNetwork64`. -/
def hostToNetwork64 (host : HostOrder) (value : UInt64) : UInt64 :=
  host.load64 (Positional.bigEndian 8 value.toNat)

/-- `NetworkToHost16`. -/
def networkToHost16 (host : HostOrder) (value : UInt16) : UInt16 :=
  .ofNat (Positional.ofBigEndian (host.store16 value))

/-- `NetworkToHost32`. -/
def networkToHost32 (host : HostOrder) (value : UInt32) : UInt32 := getBE32 (host.store32 value)

/-- `NetworkToHost64`. -/
def networkToHost64 (host : HostOrder) (value : UInt64) : UInt64 :=
  .ofNat (Positional.ofBigEndian (host.store64 value))

/-- `HostToNetwork32`. -/
def hostToNetwork32 (host : HostOrder) (value : UInt32) : UInt32 := host.load32 (setBE32 value)

/-- The socket library's conversion of a received integer. -/
def ntohl (host : HostOrder) (netLong : UInt32) : UInt32 := getBE32 (host.store32 netLong)

/-- A converted integer lies in memory in network order on every host. -/
theorem store16_hostToNetwork16 (host : HostOrder) (value : UInt16) :
    host.store16 (hostToNetwork16 host value) = Positional.bigEndian 2 value.toNat := by
  have full : (Positional.bigEndian 2 value.toNat).length = 2 := Positional.length_bigEndian _ _
  rw [HostOrder.store16, hostToNetwork16, host.toNat_load16 full]
  exact host.bytes_value full

/-- A number in network order is big-endian in memory. -/
theorem store64_hostToNetwork64 (host : HostOrder) (value : UInt64) :
    host.store64 (hostToNetwork64 host value) = Positional.bigEndian 8 value.toNat := by
  have full : (Positional.bigEndian 8 value.toNat).length = 8 := Positional.length_bigEndian _ _
  rw [HostOrder.store64, hostToNetwork64, host.toNat_load64 full]
  exact host.bytes_value full

/-- A number in network order is big-endian in memory. -/
@[simp] theorem store32_hostToNetwork32 (host : HostOrder) (value : UInt32) :
    host.store32 (hostToNetwork32 host value) = setBE32 value :=
  host.store32_load32 (length_setBE32 value)

/-- Copying four received bytes into an integer and converting it reads them in
network order on every host. -/
theorem ntohl_load32 (host : HostOrder) {memory : List UInt8} (full : memory.length = 4) :
    ntohl host (host.load32 memory) = getBE32 memory := by
  rw [ntohl, host.store32_load32 full]

/-- A received integer is converted to what its bytes say in network order. -/
theorem toNat_networkToHost16 (host : HostOrder) {memory : List UInt8} (full : memory.length = 2) :
    (networkToHost16 host (host.load16 memory)).toNat = Positional.ofBigEndian memory := by
  have below := Positional.ofBigEndian_lt memory
  have stored : host.store16 (host.load16 memory) = memory := by
    rw [HostOrder.store16, host.toNat_load16 full, host.bytes_value full]
  rw [full] at below
  rw [networkToHost16, stored, UInt16.toNat_ofNat_of_lt' below]

/-- A number in network order is read as big-endian. -/
theorem toNat_networkToHost32 (host : HostOrder) {memory : List UInt8} (full : memory.length = 4) :
    (networkToHost32 host (host.load32 memory)).toNat = Positional.ofBigEndian memory := by
  rw [networkToHost32, host.store32_load32 full, toNat_getBE32 full]

/-- A number in network order is read as big-endian. -/
theorem toNat_networkToHost64 (host : HostOrder) {memory : List UInt8} (full : memory.length = 8) :
    (networkToHost64 host (host.load64 memory)).toNat = Positional.ofBigEndian memory := by
  have below := Positional.ofBigEndian_lt memory
  have stored : host.store64 (host.load64 memory) = memory := by
    rw [HostOrder.store64, host.toNat_load64 full, host.bytes_value full]
  rw [full] at below
  rw [networkToHost64, stored, UInt64.toNat_ofNat_of_lt' below]

end VzSdk.Base
