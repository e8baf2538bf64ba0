import VzSdk.Base.ByteOrder

/-!
# ByteBuffer

The growable buffer under both directions of a session. `ByteBuffer.bytes` is
the initialised part `bytes_[0, end_)` of the allocation, so `end_` is its
length; `size` is the allocation. What a reader sees is `data`, and each
operation is described by what it does to `data`: writes append to it,
`consume` drops a front part, `resize` cuts it.

`NetworkBuffer` is a buffer with the invariant `start_ <= end_ <= size_` and
network byte order, which every operation of a session keeps.
-/

namespace VzSdk.Base

/-- Order of the integers in a buffer. -/
inductive ByteOrder where
  | network
  | host
deriving DecidableEq, Repr

/-- `ByteBuffer`: the stored bytes from the front of the allocation, its size, and where the
unread bytes begin. -/
structure ByteBuffer where
  bytes : List UInt8
  size : Nat
  start : Nat
  version : Int
  byteOrder : ByteOrder
deriving DecidableEq, Repr

namespace ByteBuffer

/-- `DEFAULT_SIZE`. -/
def defaultSize : Nat := 4096

/-- The constructors: `contents` is `none` for a buffer that only reserves memory. -/
def construct (contents : Option (List UInt8)) (len : Nat) (byteOrder : ByteOrder) : ByteBuffer where
  bytes := (contents.map (·.take len)).getD []
  size := len
  start := 0
  version := 0
  byteOrder := byteOrder

/-- `end_`: one past the last initialised byte. -/
def end_ (buffer : ByteBuffer) : Nat := buffer.bytes.length

/-- The unread bytes, from `Data()` on. -/
def data (buffer : ByteBuffer) : List UInt8 := buffer.bytes.drop buffer.start

/-- `Length()`: the number of unread bytes. -/
def length (buffer : ByteBuffer) : Nat := buffer.end_ - buffer.start

/-- `Capacity()`. -/
def capacity (buffer : ByteBuffer) : Nat := buffer.size - buffer.start

/-- The unread bytes are as many as `Length` says. -/
@[simp] theorem length_data (buffer : ByteBuffer) : buffer.data.length = buffer.length := by
  simp [data, length, end_]

/-- Move the unread bytes to the front, into a larger allocation when `newSize`
exceeds the present one. -/
def resize (buffer : ByteBuffer) (newSize : Nat) : ByteBuffer :=
  let len := min (buffer.end_ - buffer.start) newSize
  { buffer with
    bytes := buffer.data.take len
    size := if newSize ≤ buffer.size then buffer.size else max newSize (3 * buffer.size / 2)
    start := 0
    version := buffer.version + 1 }

/-- `stored` is what the caller copies through the returned pointer. -/
def reserveWriteBuffer (buffer : ByteBuffer) (stored : List UInt8) : ByteBuffer :=
  let roomy :=
    if buffer.length + stored.length > buffer.capacity then
      buffer.resize (buffer.length + stored.length)
    else buffer
  { roomy with bytes := roomy.bytes ++ stored }

/-- `WriteBytes`. -/
def writeBytes (buffer : ByteBuffer) (val : List UInt8) : ByteBuffer :=
  buffer.reserveWriteBuffer val

/-- `WriteUInt8`. -/
def writeUInt8 (buffer : ByteBuffer) (val : UInt8) : ByteBuffer := buffer.writeBytes [val]

/-- `WriteUInt32`. -/
def writeUInt32 (host : HostOrder) (buffer : ByteBuffer) (val : UInt32) : ByteBuffer :=
  let v := if buffer.byteOrder = .network then hostToNetwork32 host val else val
  buffer.writeBytes (host.store32 v)

/-- Skip `size` unread bytes; the answer says whether there were that many. -/
def consume (buffer : ByteBuffer) (size : Nat) : ByteBuffer × Bool :=
  if size > buffer.length then (buffer, false)
  else ({ buffer with start := buffer.start + size }, true)

/-- `WriteUInt16`. -/
def writeUInt16 (host : HostOrder) (buffer : ByteBuffer) (val : UInt16) : ByteBuffer :=
  let v := if buffer.byteOrder = .network then hostToNetwork16 host val else val
  buffer.writeBytes (host.store16 v)

/-- The high byte of the 32-bit integer is left out: the first one in memory, or the last. -/
def writeUInt24 (host : HostOrder) (buffer : ByteBuffer) (val : UInt32) : ByteBuffer :=
  let v := if buffer.byteOrder = .network then hostToNetwork32 host val else val
  let start := if buffer.byteOrder = .network ∨ host = .bigEndian then 1 else 0
  buffer.writeBytes (((host.store32 v).drop start).take 3)

/-- `WriteUInt64`. -/
def writeUInt64 (host : HostOrder) (buffer : ByteBuffer) (val : UInt64) : ByteBuffer :=
  let v := if buffer.byteOrder = .network then hostToNetwork64 host val else val
  buffer.writeBytes (host.store64 v)

/-- `WriteString`. -/
def writeString (buffer : ByteBuffer) (val : List UInt8) : ByteBuffer := buffer.writeBytes val

/-- The next `len` unread bytes, or nothing when there are fewer. -/
def readBytes (buffer : ByteBuffer) (len : Nat) : ByteBuffer × Option (List UInt8) :=
  if len > buffer.length then (buffer, none)
  else ({ buffer with start := buffer.start + len }, some (buffer.data.take len))

/-- What is appended to the string; `val` says whether there is one. -/
def readString (buffer : ByteBuffer) (val : Bool) (len : Nat) : ByteBuffer × Option (List UInt8) :=
  if val then buffer.readBytes len else (buffer, none)

/-- The integers are read in one way; `val` says whether there is a place for the value. -/
def readUInt {Value : Type} (buffer : ByteBuffer) (val : Bool) (len : Nat)
    (decode : List UInt8 → Value) : ByteBuffer × Option Value :=
  if val then
    let (buffer, bytes) := buffer.readBytes len
    (buffer, bytes.map decode)
  else (buffer, none)

/-- `ReadUInt8`. -/
def readUInt8 (buffer : ByteBuffer) (val : Bool) : ByteBuffer × Option UInt8 :=
  buffer.readUInt val 1 fun bytes => bytes.headD 0

/-- `ReadUInt16`. -/
def readUInt16 (host : HostOrder) (buffer : ByteBuffer) (val : Bool) : ByteBuffer × Option UInt16 :=
  buffer.readUInt val 2 fun bytes =>
    let v := host.load16 bytes
    if buffer.byteOrder = .network then networkToHost16 host v else v

/-- The three bytes are read into an integer that is zero otherwise. -/
def readUInt24 (host : HostOrder) (buffer : ByteBuffer) (val : Bool) : ByteBuffer × Option UInt32 :=
  buffer.readUInt val 3 fun bytes =>
    let memory :=
      if buffer.byteOrder = .network ∨ host = .bigEndian then 0 :: bytes else bytes ++ [0]
    let v := host.load32 memory
    if buffer.byteOrder = .network then networkToHost32 host v else v

/-- `ReadUInt32`. -/
def readUInt32 (host : HostOrder) (buffer : ByteBuffer) (val : Bool) : ByteBuffer × Option UInt32 :=
  buffer.readUInt val 4 fun bytes =>
    let v := host.load32 bytes
    if buffer.byteOrder = .network then networkToHost32 host v else v

/-- `ReadUInt64`. -/
def readUInt64 (host : HostOrder) (buffer : ByteBuffer) (val : Bool) : ByteBuffer × Option UInt64 :=
  buffer.readUInt val 8 fun bytes =>
    let v := host.load64 bytes
    if buffer.byteOrder = .network then networkToHost64 host v else v

/-- `Clear`. -/
def clear (buffer : ByteBuffer) : ByteBuffer :=
  { buffer with bytes := [], start := 0, version := buffer.version + 1 }

/-- `ReadPosition`: where a reader stood, and in which version of the buffer. -/
structure ReadPosition where
  start : Nat
  version : Int
deriving DecidableEq, Repr

/-- `GetReadPosition`. -/
def getReadPosition (buffer : ByteBuffer) : ReadPosition := ⟨buffer.start, buffer.version⟩

/-- Only a position of the present version can be set. -/
def setReadPosition (buffer : ByteBuffer) (position : ReadPosition) : ByteBuffer × Bool :=
  if position.version ≠ buffer.version then (buffer, false)
  else ({ buffer with start := position.start }, true)

/-- The representation invariant `start_ <= end_ <= size_`. -/
structure WellFormed (buffer : ByteBuffer) : Prop where
  start_le : buffer.start ≤ buffer.end_
  end_le : buffer.end_ ≤ buffer.size

/-- A new buffer is well formed. -/
theorem construct_wellFormed (len : Nat) (byteOrder : ByteOrder) :
    (construct none len byteOrder).WellFormed := by
  constructor <;> simp [construct, end_]

/-- A resized buffer keeps the unread bytes that fit. -/
@[simp] theorem data_resize (buffer : ByteBuffer) (newSize : Nat) :
    (buffer.resize newSize).data = buffer.data.take newSize := by
  change ((buffer.data.take (min buffer.length newSize)).drop 0) = _
  rw [List.drop_zero, ← length_data, Nat.min_comm]
  exact List.take_eq_take_min.symm

/-- A resized buffer has room for the size asked for. -/
theorem le_size_resize (buffer : ByteBuffer) (newSize : Nat) :
    newSize ≤ (buffer.resize newSize).size := by
  change newSize ≤ if newSize ≤ buffer.size then buffer.size else max newSize (3 * buffer.size / 2)
  by_cases small : newSize ≤ buffer.size
  · simp [small]
  · rw [if_neg small]
    exact Nat.le_max_left _ _

/-- A resized buffer is well formed. -/
theorem resize_wellFormed (buffer : ByteBuffer) (newSize : Nat) :
    (buffer.resize newSize).WellFormed := by
  refine ⟨Nat.zero_le _, ?_⟩
  have room := le_size_resize buffer newSize
  have len : (buffer.resize newSize).end_ ≤ newSize := by
    simp only [resize, end_, List.length_take]
    omega
  omega

/-- The two arms of `ReserveWriteBuffer`: there is room behind `end_`, or the
unread bytes are first moved to the front of a large enough allocation. -/
theorem reserveWriteBuffer_cases {buffer : ByteBuffer} (sound : buffer.WellFormed)
    (stored : List UInt8) :
    ∃ roomy : ByteBuffer, roomy.WellFormed ∧ roomy.data = buffer.data ∧
      roomy.bytes.length + stored.length ≤ roomy.size ∧
      roomy.byteOrder = buffer.byteOrder ∧
      buffer.reserveWriteBuffer stored = { roomy with bytes := roomy.bytes ++ stored } := by
  have startLe := sound.start_le
  have endLe := sound.end_le
  unfold reserveWriteBuffer
  by_cases full : buffer.length + stored.length > buffer.capacity
  · refine ⟨buffer.resize (buffer.length + stored.length), resize_wellFormed _ _, ?_, ?_, rfl, ?_⟩
    · rw [data_resize, List.take_of_length_le (by simp)]
    · have room := le_size_resize buffer (buffer.length + stored.length)
      have len : (buffer.resize (buffer.length + stored.length)).bytes.length ≤ buffer.length :=
        Nat.le_trans (List.length_take_le _ _) (Nat.min_le_left _ _)
      omega
    · simp [full]
  · refine ⟨buffer, sound, rfl, ?_, rfl, by simp [full]⟩
    simp only [length, capacity, end_] at full startLe endLe ⊢
    omega

/-- Writing appends to the unread bytes. -/
theorem data_writeBytes {buffer : ByteBuffer} (sound : buffer.WellFormed) (val : List UInt8) :
    (buffer.writeBytes val).data = buffer.data ++ val := by
  obtain ⟨roomy, roomySound, same, -, -, shape⟩ := reserveWriteBuffer_cases sound val
  rw [writeBytes, shape, ← same]
  exact List.drop_append_of_le_length roomySound.start_le

/-- Writing keeps a buffer well formed. -/
theorem writeBytes_wellFormed {buffer : ByteBuffer} (sound : buffer.WellFormed)
    (val : List UInt8) : (buffer.writeBytes val).WellFormed := by
  obtain ⟨roomy, roomySound, -, room, -, shape⟩ := reserveWriteBuffer_cases sound val
  have startLe : roomy.start ≤ roomy.bytes.length := roomySound.start_le
  rw [writeBytes, shape]
  constructor <;> simp only [end_, List.length_append] <;> omega

/-- Writing keeps the byte order. -/
theorem byteOrder_writeBytes {buffer : ByteBuffer} (sound : buffer.WellFormed)
    (val : List UInt8) : (buffer.writeBytes val).byteOrder = buffer.byteOrder := by
  obtain ⟨roomy, -, -, -, order, shape⟩ := reserveWriteBuffer_cases sound val
  rw [writeBytes, shape]
  exact order

/-- Consuming at most the unread bytes succeeds and drops them. -/
theorem consume_of_le {buffer : ByteBuffer} {size : Nat} (enough : size ≤ buffer.length) :
    buffer.consume size = ({ buffer with start := buffer.start + size }, true) := by
  simp [consume, Nat.not_lt.mpr enough]

/-- More than the unread bytes cannot be consumed. -/
theorem consume_of_lt {buffer : ByteBuffer} {size : Nat} (short : buffer.length < size) :
    buffer.consume size = (buffer, false) := by
  simp [consume, short]

/-- Consuming takes bytes from the front. -/
theorem data_consume {buffer : ByteBuffer} {size : Nat} (enough : size ≤ buffer.length) :
    (buffer.consume size).1.data = buffer.data.drop size := by
  rw [consume_of_le enough]
  simp [data, List.drop_drop]

/-- Consuming keeps a buffer well formed. -/
theorem consume_wellFormed {buffer : ByteBuffer} (sound : buffer.WellFormed) (size : Nat) :
    (buffer.consume size).1.WellFormed := by
  have startLe := sound.start_le
  by_cases enough : size ≤ buffer.length
  · rw [consume_of_le enough]
    refine ⟨?_, sound.end_le⟩
    simp only [length, end_] at enough startLe ⊢
    omega
  · rw [consume_of_lt (Nat.lt_of_not_le enough)]
    exact sound

/-- Consuming keeps the byte order. -/
theorem byteOrder_consume (buffer : ByteBuffer) (size : Nat) :
    (buffer.consume size).1.byteOrder = buffer.byteOrder := by
  rw [consume]
  split <;> rfl

end ByteBuffer

/-- A default-constructed buffer after any operations: sound, and in network order. -/
structure NetworkBuffer where
  buffer : ByteBuffer
  sound : buffer.WellFormed
  network : buffer.byteOrder = .network

namespace NetworkBuffer

/-- The default constructor reserves 4096 bytes. -/
def new : NetworkBuffer :=
  ⟨.construct none ByteBuffer.defaultSize .network, ByteBuffer.construct_wellFormed _ _, rfl⟩

/-- The unread bytes. -/
def data (self : NetworkBuffer) : List UInt8 := self.buffer.data

/-- The number of unread bytes. -/
def length (self : NetworkBuffer) : Nat := self.buffer.length

/-- `WriteBytes`. -/
def writeBytes (self : NetworkBuffer) (val : List UInt8) : NetworkBuffer :=
  ⟨self.buffer.writeBytes val, ByteBuffer.writeBytes_wellFormed self.sound val,
    (ByteBuffer.byteOrder_writeBytes self.sound val).trans self.network⟩

/-- `WriteUInt8`. -/
def writeUInt8 (self : NetworkBuffer) (val : UInt8) : NetworkBuffer :=
  ⟨self.buffer.writeUInt8 val, ByteBuffer.writeBytes_wellFormed self.sound _,
    (ByteBuffer.byteOrder_writeBytes self.sound _).trans self.network⟩

/-- `WriteUInt32`. -/
def writeUInt32 (host : HostOrder) (self : NetworkBuffer) (val : UInt32) : NetworkBuffer :=
  ⟨self.buffer.writeUInt32 host val, ByteBuffer.writeBytes_wellFormed self.sound _,
    (ByteBuffer.byteOrder_writeBytes self.sound _).trans self.network⟩

/-- `Consume`. -/
def consume (self : NetworkBuffer) (size : Nat) : NetworkBuffer :=
  ⟨(self.buffer.consume size).1, ByteBuffer.consume_wellFormed self.sound size,
    (ByteBuffer.byteOrder_consume self.buffer size).trans self.network⟩

/-- A new buffer holds nothing. -/
@[simp] theorem data_new : new.data = [] := rfl

/-- The data is as long as the buffer says. -/
@[simp] theorem length_data (self : NetworkBuffer) : self.data.length = self.length :=
  self.buffer.length_data

/-- Bytes are appended. -/
@[simp] theorem data_writeBytes (self : NetworkBuffer) (val : List UInt8) :
    (self.writeBytes val).data = self.data ++ val :=
  ByteBuffer.data_writeBytes self.sound val

/-- A byte is appended. -/
@[simp] theorem data_writeUInt8 (self : NetworkBuffer) (val : UInt8) :
    (self.writeUInt8 val).data = self.data ++ [val] :=
  ByteBuffer.data_writeBytes self.sound [val]

/-- The buffer receives the big-endian bytes on every host. -/
@[simp] theorem data_writeUInt32 (host : HostOrder) (self : NetworkBuffer) (val : UInt32) :
    (self.writeUInt32 host val).data = self.data ++ setBE32 val := by
  change (self.buffer.writeUInt32 host val).data = self.buffer.data ++ setBE32 val
  rw [ByteBuffer.writeUInt32, ByteBuffer.data_writeBytes self.sound]
  simp [self.network]

/-- The bytes in front are consumed. -/
theorem data_consume {self : NetworkBuffer} {size : Nat} (enough : size ≤ self.length) :
    (self.consume size).data = self.data.drop size :=
  ByteBuffer.data_consume enough

end NetworkBuffer

end VzSdk.Base
