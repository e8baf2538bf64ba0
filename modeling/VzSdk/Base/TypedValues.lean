import VzSdk.Base.ByteQueue

/-!
# Values written and read back

A list of integers of five widths and of strings, written by the writers of a
buffer and read by the readers in the same order. `readAll_writeAll` says that
the list comes back in either byte order on either host, 24-bit values without
their high byte, whatever resizing the writes cause.
-/

namespace VzSdk.Base

open VzSdk.Std

/-- What one writer of a buffer is given. -/
inductive TypedValue where
  | uint8 (val : UInt8)
  | uint16 (val : UInt16)
  | uint24 (val : UInt32)
  | uint32 (val : UInt32)
  | uint64 (val : UInt64)
  | string (val : List UInt8)
deriving DecidableEq, Repr

/-- Which reader is called; the one of strings is told the length. -/
inductive ValueType where
  | uint8
  | uint16
  | uint24
  | uint32
  | uint64
  | string (len : Nat)
deriving DecidableEq, Repr

namespace TypedValue

/-- The reader that corresponds to the writer. -/
def type : TypedValue → ValueType
  | .uint8 _ => .uint8
  | .uint16 _ => .uint16
  | .uint24 _ => .uint24
  | .uint32 _ => .uint32
  | .uint64 _ => .uint64
  | .string val => .string val.length

/-- A 24-bit value modulo 2^24, and any other value itself. -/
def truncated : TypedValue → TypedValue
  | .uint24 val => .uint24 (val % 0x1000000)
  | value => value

/-- The bytes of a value in a buffer of the order. -/
def encode (host : HostOrder) (order : ByteOrder) : TypedValue → List UInt8
  | .uint8 val => [val]
  | .uint16 val => order.encode host 2 val.toNat
  | .uint24 val => order.encode host 3 val.toNat
  | .uint32 val => order.encode host 4 val.toNat
  | .uint64 val => order.encode host 8 val.toNat
  | .string val => val

end TypedValue

namespace ByteBuffer

variable (host : HostOrder) (buffer : ByteBuffer)

/-- Write a value as its type. -/
def writeValue : TypedValue → ByteBuffer
  | .uint8 val => buffer.writeUInt8 val
  | .uint16 val => buffer.writeUInt16 host val
  | .uint24 val => buffer.writeUInt24 host val
  | .uint32 val => buffer.writeUInt32 host val
  | .uint64 val => buffer.writeUInt64 host val
  | .string val => buffer.writeString val

/-- What a reader returns, as a typed value; nothing stands for a read that fails. -/
def typed {Value : Type} (wrap : Value → TypedValue) (outcome : ByteBuffer × Option Value) :
    ByteBuffer × Option TypedValue :=
  (outcome.1, outcome.2.map wrap)

/-- The readers with a place for the value. -/
def readValue : ValueType → ByteBuffer × Option TypedValue
  | .uint8 => typed .uint8 (buffer.readUInt8 true)
  | .uint16 => typed .uint16 (buffer.readUInt16 host true)
  | .uint24 => typed .uint24 (buffer.readUInt24 host true)
  | .uint32 => typed .uint32 (buffer.readUInt32 host true)
  | .uint64 => typed .uint64 (buffer.readUInt64 host true)
  | .string len => typed .string (buffer.readString true len)

/-- Write values one behind the other. -/
def writeAll (values : List TypedValue) : ByteBuffer := values.foldl (writeValue host) buffer

/-- Read values of these types. -/
def readAll (buffer : ByteBuffer) : List ValueType → ByteBuffer × List (Option TypedValue)
  | [] => (buffer, [])
  | type :: types =>
      let (buffer, value) := buffer.readValue host type
      let (buffer, values) := buffer.readAll types
      (buffer, value :: values)

/-! ## Writing -/

/-- Every writer appends the bytes of its value. -/
theorem writeValue_eq (value : TypedValue) :
    buffer.writeValue host value = buffer.writeBytes (value.encode host buffer.byteOrder) := by
  cases value with
  | uint8 val => rfl
  | uint16 val => exact buffer.writeUInt16_eq host val
  | uint24 val => exact buffer.writeUInt24_eq host val
  | uint32 val => exact buffer.writeUInt32_eq host val
  | uint64 val => exact buffer.writeUInt64_eq host val
  | string val => rfl

variable {buffer}

/-- Writing appends what encodes the values. -/
theorem writeAll_spec (sound : buffer.WellFormed) (values : List TypedValue) :
    (buffer.writeAll host values).WellFormed ∧
      (buffer.writeAll host values).byteOrder = buffer.byteOrder ∧
      (buffer.writeAll host values).data =
        buffer.data ++ values.flatMap (·.encode host buffer.byteOrder) := by
  induction values generalizing buffer with
  | nil => exact ⟨sound, rfl, by simp [writeAll]⟩
  | cons value values inductionHypothesis =>
      have soundNext := writeBytes_wellFormed sound (value.encode host buffer.byteOrder)
      have sameOrder := byteOrder_writeBytes sound (value.encode host buffer.byteOrder)
      obtain ⟨soundAll, order, data⟩ := inductionHypothesis soundNext
      rw [sameOrder] at order data
      rw [writeAll, List.foldl_cons, writeValue_eq]
      refine ⟨soundAll, order, data.trans ?_⟩
      rw [data_writeBytes sound, List.flatMap_cons, List.append_assoc]

/-! ## Reading -/

/-- Reading as many bytes as stand in front takes them away. -/
theorem readBytes_front {front rest : List UInt8} (isData : buffer.data = front ++ rest) :
    ∃ next : ByteBuffer, buffer.readBytes front.length = (next, some front) ∧
      next.data = rest ∧ next.byteOrder = buffer.byteOrder := by
  have enough : ¬front.length > buffer.length := by
    rw [← length_data, isData, List.length_append]
    omega
  refine ⟨{ buffer with start := buffer.start + front.length }, ?_, ?_, rfl⟩
  · rw [readBytes, if_neg enough, isData, List.take_left]
  · rw [data, ← List.drop_drop]
    change buffer.data.drop front.length = rest
    rw [isData, List.drop_left]

end ByteBuffer

/-- The bytes of an integer stand for it, as far as they go. -/
theorem ByteOrder.decode_encode (order : ByteOrder) (host : HostOrder) (width value : Nat) :
    order.decode host (order.encode host width value) = value % 256 ^ width := by
  cases order with
  | network => exact Positional.ofBigEndian_bigEndian width value
  | host =>
      cases host with
      | bigEndian => exact Positional.ofBigEndian_bigEndian width value
      | littleEndian =>
          rw [encode, decode, HostOrder.bytes, HostOrder.value, Positional.littleEndian,
            Positional.ofLittleEndian, List.reverse_reverse, Positional.ofBigEndian_bigEndian]

/-- A value is encoded with its width. -/
@[simp] theorem ByteOrder.length_encode (order : ByteOrder) (host : HostOrder)
    (width value : Nat) : (order.encode host width value).length = width := by
  cases order <;> simp [encode]

namespace ByteBuffer

variable {host : HostOrder} {buffer : ByteBuffer}

/-- A reader of integers returns the one whose bytes stand in front. -/
theorem readUInt_front {width number : Nat} {rest : List UInt8}
    (isData : buffer.data = buffer.byteOrder.encode host width number ++ rest)
    {Value : Type} {toNat : Value → Nat} (injective : ∀ {value other}, toNat value = toNat other →
      value = other) {decode : List UInt8 → Value}
    (exact : ∀ bytes : List UInt8, bytes.length = width →
      toNat (decode bytes) = buffer.byteOrder.decode host bytes)
    {value : Value} (isValue : toNat value = number % 256 ^ width) :
    ∃ next : ByteBuffer, buffer.readUInt true width decode = (next, some value) ∧
      next.data = rest ∧ next.byteOrder = buffer.byteOrder := by
  have full := buffer.byteOrder.length_encode host width number
  have same : decode (buffer.byteOrder.encode host width number) = value := by
    apply injective
    rw [exact _ full, ByteOrder.decode_encode, isValue]
  obtain ⟨next, isRead, isRest, sameOrder⟩ := readBytes_front isData
  rw [full] at isRead
  refine ⟨next, ?_, isRest, sameOrder⟩
  rw [readUInt, if_pos rfl, isRead, ← same]
  rfl

/-- A value that stands in front is read back by its reader. -/
theorem readValue_front {value : TypedValue} {rest : List UInt8}
    (isData : buffer.data = value.encode host buffer.byteOrder ++ rest) :
    ∃ next : ByteBuffer, buffer.readValue host value.type = (next, some value.truncated) ∧
      next.data = rest ∧ next.byteOrder = buffer.byteOrder := by
  cases value with
  | uint8 val =>
      obtain ⟨next, isRead, isRest⟩ := readBytes_front isData
      have isByte : buffer.readBytes 1 = (next, some [val]) := isRead
      refine ⟨next, ?_, isRest⟩
      rw [TypedValue.type, readValue, readUInt8, readUInt, if_pos rfl, isByte]
      rfl
  | uint16 val =>
      obtain ⟨next, isRead, isRest⟩ := readUInt_front isData UInt16.toNat_inj.mp
        (fun _ => toNat_decode16 host buffer.byteOrder) (Nat.mod_eq_of_lt val.toNat_lt).symm
      exact ⟨next, congrArg (typed TypedValue.uint16) isRead, isRest⟩
  | uint24 val =>
      have isLow : (val % 0x1000000).toNat = val.toNat % 256 ^ 3 := UInt32.toNat_mod val 0x1000000
      obtain ⟨next, isRead, isRest⟩ := readUInt_front isData UInt32.toNat_inj.mp
        (fun _ => toNat_decode24 host buffer.byteOrder) isLow
      exact ⟨next, congrArg (typed TypedValue.uint24) isRead, isRest⟩
  | uint32 val =>
      obtain ⟨next, isRead, isRest⟩ := readUInt_front isData UInt32.toNat_inj.mp
        (fun _ => toNat_decode32 host buffer.byteOrder) (Nat.mod_eq_of_lt val.toNat_lt).symm
      exact ⟨next, congrArg (typed TypedValue.uint32) isRead, isRest⟩
  | uint64 val =>
      obtain ⟨next, isRead, isRest⟩ := readUInt_front isData UInt64.toNat_inj.mp
        (fun _ => toNat_decode64 host buffer.byteOrder) (Nat.mod_eq_of_lt val.toNat_lt).symm
      exact ⟨next, congrArg (typed TypedValue.uint64) isRead, isRest⟩
  | string val =>
      obtain ⟨next, isRead, isRest⟩ := readBytes_front isData
      exact ⟨next, congrArg (typed TypedValue.string) isRead, isRest⟩

/-- The readers of a list return it from where its bytes stand. -/
theorem readAll_front {values : List TypedValue} {rest : List UInt8}
    (isData : buffer.data = values.flatMap (·.encode host buffer.byteOrder) ++ rest) :
    ∃ next : ByteBuffer, buffer.readAll host (values.map TypedValue.type) =
        (next, values.map fun value => some value.truncated) ∧ next.data = rest := by
  induction values generalizing buffer with
  | nil => exact ⟨buffer, rfl, isData⟩
  | cons value values inductionHypothesis =>
      rw [List.flatMap_cons, List.append_assoc] at isData
      obtain ⟨middle, isRead, isRest, sameOrder⟩ := readValue_front isData
      rw [← sameOrder] at isRest
      obtain ⟨next, areRead, isEnd⟩ := inductionHypothesis isRest
      refine ⟨next, ?_, isEnd⟩
      simp only [List.map_cons, readAll, isRead, areRead]

/-- A list of values that is written into an empty buffer is read back from it, and leaves it
empty. -/
theorem readAll_writeAll (host : HostOrder) {buffer : ByteBuffer} (sound : buffer.WellFormed)
    (empty : buffer.length = 0) (values : List TypedValue) :
    ∃ next : ByteBuffer,
      (buffer.writeAll host values).readAll host (values.map TypedValue.type) =
        (next, values.map fun value => some value.truncated) ∧ next.length = 0 := by
  obtain ⟨_, sameOrder, isData⟩ := writeAll_spec host sound values
  have nothing : buffer.data = [] := by
    apply List.eq_nil_of_length_eq_zero
    rw [length_data, empty]
  rw [nothing, List.nil_append, ← sameOrder, ← List.append_nil (values.flatMap _)] at isData
  obtain ⟨next, areRead, isEnd⟩ := readAll_front isData
  refine ⟨next, areRead, ?_⟩
  rw [← length_data, isEnd, List.length_nil]

/-- Four bytes are reserved, so that the writes resize the buffer; the 24-bit value loses its
high byte. -/
theorem readAll_writeAll_mixed :
    ∃ next : ByteBuffer,
      ((construct none 4 .host).writeAll .littleEndian
          [.uint24 0x01020304, .string [86, 90], .uint64 5, .uint8 255, .uint16 0xABCD]).readAll
        .littleEndian [.uint24, .string 2, .uint64, .uint8, .uint16] =
        (next, [some (.uint24 0x020304), some (.string [86, 90]), some (.uint64 5),
          some (.uint8 255), some (.uint16 0xABCD)]) ∧ next.length = 0 :=
  readAll_writeAll .littleEndian (construct_wellFormed 4 .host) rfl
    [.uint24 0x01020304, .string [86, 90], .uint64 5, .uint8 255, .uint16 0xABCD]

end ByteBuffer

end VzSdk.Base
