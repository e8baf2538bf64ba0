import VzSdk.Base.ByteBuffer
import VzSdk.Std.Machine
import VzSdk.Std.MarkedQueue

/-!
# ByteBuffer as a queue of bytes

`bufferMachine` is a buffer under any sequence of its public calls, with the read
positions that the caller holds. `queueMachine` says what the calls are for: a
first-in first-out queue whose marks are the read positions, void once the bytes
have been moved. `byteBuffer_refines_queue` shows that every run of the buffer is
a run of the queue with the same results.
-/

namespace VzSdk.Base

open VzSdk.Std

/-- A call of the buffer. -/
inductive BufferCall where
  -- `val` says whether the pointer for the result is not NULL.
  | readUInt8 (val : Bool)
  | readUInt16 (val : Bool)
  | readUInt24 (val : Bool)
  | readUInt32 (val : Bool)
  | readUInt64 (val : Bool)
  | readBytes (len : Nat)
  | readString (val : Bool) (len : Nat)
  | writeUInt8 (val : UInt8)
  | writeUInt16 (val : UInt16)
  | writeUInt24 (val : UInt32)
  | writeUInt32 (val : UInt32)
  | writeUInt64 (val : UInt64)
  | writeBytes (val : List UInt8)
  | writeString (val : List UInt8)
  /-- `stored` is what the caller copies through the returned pointer. -/
  | reserveWriteBuffer (stored : List UInt8)
  | resize (size : Nat)
  | consume (size : Nat)
  | clear
  | getReadPosition
  /-- The position is the one of an earlier `GetReadPosition`, by its number. -/
  | setReadPosition (index : Nat)
deriving DecidableEq, Repr

/-- What a call returns; a reader that returns false has no value. -/
inductive BufferResult where
  | done
  | success (value : Bool)
  | number (value : Option Nat)
  | bytes (value : Option (List UInt8))
deriving DecidableEq, Repr

/-- A buffer and what its caller keeps. -/
structure BufferState where
  buffer : ByteBuffer
  /-- The positions that the caller holds. -/
  positions : List ByteBuffer.ReadPosition
deriving DecidableEq, Repr

namespace BufferState

/-- The constructors: a buffer that reserves memory, or one with a copy of some bytes. -/
def new (contents : Option (List UInt8)) (reserved : Nat) (byteOrder : ByteOrder) : BufferState :=
  match contents with
  | none => ⟨.construct none reserved byteOrder, []⟩
  | some bytes => ⟨.construct (some bytes) bytes.length byteOrder, []⟩

variable (host : HostOrder)

/-- A write returns nothing. -/
def wrote (state : BufferState) (buffer : ByteBuffer) : BufferState × List BufferResult :=
  ({ state with buffer := buffer }, [.done])

/-- A read returns its result. -/
def returned {Value : Type} (state : BufferState) (result : Value → BufferResult)
    (outcome : ByteBuffer × Value) : BufferState × List BufferResult :=
  ({ state with buffer := outcome.1 }, [result outcome.2])

/-- The buffer after a call, and what it returns. -/
def step (state : BufferState) : BufferCall → Option (BufferState × List BufferResult)
  | .readUInt8 val =>
      some (state.returned (.number <| ·.map (·.toNat)) (state.buffer.readUInt8 val))
  | .readUInt16 val =>
      some (state.returned (.number <| ·.map (·.toNat)) (state.buffer.readUInt16 host val))
  | .readUInt24 val =>
      some (state.returned (.number <| ·.map (·.toNat)) (state.buffer.readUInt24 host val))
  | .readUInt32 val =>
      some (state.returned (.number <| ·.map (·.toNat)) (state.buffer.readUInt32 host val))
  | .readUInt64 val =>
      some (state.returned (.number <| ·.map (·.toNat)) (state.buffer.readUInt64 host val))
  | .readBytes len => some (state.returned .bytes (state.buffer.readBytes len))
  | .readString val len => some (state.returned .bytes (state.buffer.readString val len))
  | .writeUInt8 val => some (state.wrote (state.buffer.writeUInt8 val))
  | .writeUInt16 val => some (state.wrote (state.buffer.writeUInt16 host val))
  | .writeUInt24 val => some (state.wrote (state.buffer.writeUInt24 host val))
  | .writeUInt32 val => some (state.wrote (state.buffer.writeUInt32 host val))
  | .writeUInt64 val => some (state.wrote (state.buffer.writeUInt64 host val))
  | .writeBytes val => some (state.wrote (state.buffer.writeBytes val))
  | .writeString val => some (state.wrote (state.buffer.writeString val))
  | .reserveWriteBuffer stored => some (state.wrote (state.buffer.reserveWriteBuffer stored))
  | .resize size => some (state.wrote (state.buffer.resize size))
  | .consume size => some (state.returned .success (state.buffer.consume size))
  | .clear => some (state.wrote state.buffer.clear)
  | .getReadPosition =>
      some ({ state with positions := state.positions ++ [state.buffer.getReadPosition] }, [.done])
  | .setReadPosition index =>
      match state.positions[index]? with
      | none => none
      | some position => some (state.returned .success (state.buffer.setReadPosition position))

end BufferState

/-- The machine of a buffer. -/
def bufferMachine (host : HostOrder) : Machine BufferState BufferCall BufferResult :=
  ⟨BufferState.step host⟩

/-! ## The queue -/

/-- The bytes of an integer in a buffer of the order. -/
def ByteOrder.encode (order : ByteOrder) (host : HostOrder) (width value : Nat) : List UInt8 :=
  match order with
  | .network => Positional.bigEndian width value
  | .host => host.bytes width value

/-- The integer that the bytes stand for. -/
def ByteOrder.decode (order : ByteOrder) (host : HostOrder) (bytes : List UInt8) : Nat :=
  match order with
  | .network => Positional.ofBigEndian bytes
  | .host => host.value bytes

/-- The bytes that a call appends, if it appends any. -/
def BufferCall.appended (host : HostOrder) (order : ByteOrder) : BufferCall → Option (List UInt8)
  | .writeUInt8 val => some [val]
  | .writeUInt16 val => some (order.encode host 2 val.toNat)
  | .writeUInt24 val => some (order.encode host 3 val.toNat)
  | .writeUInt32 val => some (order.encode host 4 val.toNat)
  | .writeUInt64 val => some (order.encode host 8 val.toNat)
  | .writeBytes val => some val
  | .writeString val => some val
  | .reserveWriteBuffer stored => some stored
  | _ => none

/-- A queue of bytes. -/
abbrev ByteQueue := MarkedQueue UInt8

namespace ByteQueue

variable (host : HostOrder) (order : ByteOrder)

/-- Take bytes and return what they stand for; without a place for it nothing is taken. -/
def read (queue : ByteQueue) (val : Bool) (len : Nat)
    (result : Option (List UInt8) → BufferResult) : ByteQueue × List BufferResult :=
  if val then
    let (queue, bytes) := queue.take len
    (queue, [result bytes])
  else (queue, [result none])

/-- What a call does. The second part of the label tells whether it moves the bytes. -/
def step (queue : ByteQueue) (label : BufferCall × Bool) :
    Option (ByteQueue × List BufferResult) :=
  match label.1 with
  | .readUInt8 val => some (queue.read val 1 (.number <| ·.map (order.decode host)))
  | .readUInt16 val => some (queue.read val 2 (.number <| ·.map (order.decode host)))
  | .readUInt24 val => some (queue.read val 3 (.number <| ·.map (order.decode host)))
  | .readUInt32 val => some (queue.read val 4 (.number <| ·.map (order.decode host)))
  | .readUInt64 val => some (queue.read val 8 (.number <| ·.map (order.decode host)))
  | .readBytes len => some (queue.read true len .bytes)
  | .readString val len => some (queue.read val len .bytes)
  | .resize size => some (queue.cut size, [.done])
  | .consume size => some (queue.read true size (.success <| ·.isSome))
  | .clear => some (queue.cut 0, [.done])
  | .getReadPosition => some (queue.mark, [.done])
  | .setReadPosition index =>
      if index < queue.marks.length then
        some ((queue.restore index).1, [.success (queue.restore index).2])
      else none
  | call => (call.appended host order).map fun items => (queue.append items label.2, [.done])

end ByteQueue

/-- The machine of the queue; the second part of a label tells whether the call moves the bytes. -/
def queueMachine (host : HostOrder) (order : ByteOrder) :
    Machine ByteQueue (BufferCall × Bool) BufferResult :=
  ⟨ByteQueue.step host order⟩

/-! ## The refinement -/

namespace BufferState

/-- The call moves the bytes: it resizes the buffer, itself or for want of room, or clears it. -/
def moves (host : HostOrder) (state : BufferState) (call : BufferCall) : Bool :=
  match call with
  | .resize _ => true
  | .clear => true
  | call => (call.appended host state.buffer.byteOrder).any fun items =>
      state.buffer.length + items.length > state.buffer.capacity

/-- The queue that a buffer stands for. -/
def queue (state : BufferState) : ByteQueue where
  unread := state.buffer.data
  marks := state.positions.map fun position =>
    if position.version = state.buffer.version then
      some (state.buffer.bytes.drop position.start)
    else none

/-- The buffer is sound, and the positions that are still valid lie inside it. -/
structure Inv (order : ByteOrder) (state : BufferState) : Prop where
  sound : state.buffer.WellFormed
  isOrder : state.buffer.byteOrder = order
  positions : ∀ position ∈ state.positions, position.version ≤ state.buffer.version ∧
    (position.version = state.buffer.version → position.start ≤ state.buffer.end_)

end BufferState

/-! ## Integers -/

namespace ByteBuffer

variable (host : HostOrder) (buffer : ByteBuffer)

/-- A `uint16` is written as the other widths are. -/
theorem writeUInt16_eq (val : UInt16) :
    buffer.writeUInt16 host val =
      buffer.writeBytes (buffer.byteOrder.encode host 2 val.toNat) := by
  unfold writeUInt16
  cases order : buffer.byteOrder with
  | network => simp [ByteOrder.encode, store16_hostToNetwork16]
  | host => rfl

/-- A `uint32` is written as the other widths are. -/
theorem writeUInt32_eq (val : UInt32) :
    buffer.writeUInt32 host val =
      buffer.writeBytes (buffer.byteOrder.encode host 4 val.toNat) := by
  unfold writeUInt32
  cases order : buffer.byteOrder with
  | network => simp [ByteOrder.encode, setBE32]
  | host => simp [ByteOrder.encode, host.store32_eq]

/-- A `uint64` is written as the other widths are. -/
theorem writeUInt64_eq (val : UInt64) :
    buffer.writeUInt64 host val =
      buffer.writeBytes (buffer.byteOrder.encode host 8 val.toNat) := by
  unfold writeUInt64
  cases order : buffer.byteOrder with
  | network => simp [ByteOrder.encode, store64_hostToNetwork64]
  | host => rfl

/-- A number of 24 bits is written as the other widths are. -/
theorem writeUInt24_eq (val : UInt32) :
    buffer.writeUInt24 host val =
      buffer.writeBytes (buffer.byteOrder.encode host 3 val.toNat) := by
  unfold writeUInt24
  have high (value : Nat) : (Positional.bigEndian 4 value).tail.take 3 =
      Positional.bigEndian 3 value := by
    rw [Positional.bigEndian, List.tail_cons]
    exact List.take_of_length_le (by simp)
  cases order : buffer.byteOrder with
  | network => simp [ByteOrder.encode, setBE32, high]
  | host =>
      cases host with
      | bigEndian => simp [ByteOrder.encode, HostOrder.store32_eq, HostOrder.bytes, high]
      | littleEndian =>
          have low : (Positional.littleEndian 4 val.toNat).take 3 =
              Positional.littleEndian 3 val.toNat := by
            rw [Positional.littleEndian, Positional.bigEndian, List.reverse_cons]
            exact List.take_left' (by simp)
          simp [ByteOrder.encode, HostOrder.store32_eq, HostOrder.bytes, low]

/-- Consuming is reading without looking. -/
theorem consume_eq (size : Nat) :
    buffer.consume size = ((buffer.readBytes size).1, (buffer.readBytes size).2.isSome) := by
  unfold consume readBytes
  split <;> rfl

end ByteBuffer

/-- What the readers of integers make of their bytes is what the bytes stand for. -/
theorem toNat_decode8 (host : HostOrder) (order : ByteOrder) {bytes : List UInt8}
    (full : bytes.length = 1) : (bytes.headD 0).toNat = order.decode host bytes := by
  obtain ⟨byte, rfl⟩ := List.length_eq_one_iff.mp full
  cases order with
  | network => simp [ByteOrder.decode, Positional.ofBigEndian, Positional.shiftIn]
  | host =>
      cases host <;>
        simp [ByteOrder.decode, HostOrder.value, Positional.ofLittleEndian, Positional.ofBigEndian,
          Positional.shiftIn]

/-- A `uint16` is read as the other widths are. -/
theorem toNat_decode16 (host : HostOrder) (order : ByteOrder) {bytes : List UInt8}
    (full : bytes.length = 2) :
    (if order = .network then networkToHost16 host (host.load16 bytes)
      else host.load16 bytes).toNat = order.decode host bytes := by
  cases order with
  | network => exact toNat_networkToHost16 host full
  | host => exact host.toNat_load16 full

/-- A `uint32` is read as the other widths are. -/
theorem toNat_decode32 (host : HostOrder) (order : ByteOrder) {bytes : List UInt8}
    (full : bytes.length = 4) :
    (if order = .network then networkToHost32 host (host.load32 bytes)
      else host.load32 bytes).toNat = order.decode host bytes := by
  cases order with
  | network => exact toNat_networkToHost32 host full
  | host => exact host.toNat_load32 full

/-- A `uint64` is read as the other widths are. -/
theorem toNat_decode64 (host : HostOrder) (order : ByteOrder) {bytes : List UInt8}
    (full : bytes.length = 8) :
    (if order = .network then networkToHost64 host (host.load64 bytes)
      else host.load64 bytes).toNat = order.decode host bytes := by
  cases order with
  | network => exact toNat_networkToHost64 host full
  | host => exact host.toNat_load64 full

/-- A zero in the place of the high byte changes nothing. -/
theorem toNat_decode24 (host : HostOrder) (order : ByteOrder) {bytes : List UInt8}
    (full : bytes.length = 3) :
    (if order = .network then
        networkToHost32 host (host.load32
          (if order = .network ∨ host = .bigEndian then 0 :: bytes else bytes ++ [0]))
      else host.load32
        (if order = .network ∨ host = .bigEndian then 0 :: bytes else bytes ++ [0])).toNat =
      order.decode host bytes := by
  have zero (bytes : List UInt8) : Positional.ofBigEndian (0 :: bytes) =
      Positional.ofBigEndian bytes := by
    simp [Positional.ofBigEndian_cons]
  cases order with
  | network =>
      simp only [if_true, true_or]
      rw [toNat_networkToHost32 host (by simp [full]), zero]
      rfl
  | host =>
      cases host with
      | bigEndian =>
          simp only [reduceCtorEq, if_false, or_true, if_true]
          rw [HostOrder.toNat_load32 _ (by simp [full])]
          exact zero bytes
      | littleEndian =>
          simp only [reduceCtorEq, if_false, or_false]
          rw [HostOrder.toNat_load32 _ (by simp [full])]
          simp [HostOrder.value, Positional.ofLittleEndian, ByteOrder.decode, zero]

namespace BufferState

variable {host : HostOrder} {order : ByteOrder} {state : BufferState}

/-- A new version of the buffer makes every mark void. -/
theorem refines_moved (inv : state.Inv order) {buffer : ByteBuffer} (sound : buffer.WellFormed)
    (sameOrder : buffer.byteOrder = state.buffer.byteOrder)
    (newer : buffer.version = state.buffer.version + 1) :
    Inv order { state with buffer := buffer } ∧
      queue { state with buffer := buffer } =
        ⟨buffer.data, state.queue.marks.map fun _ => none⟩ := by
  have older : ∀ position ∈ state.positions, position.version < buffer.version := by
    intro position member
    have := (inv.positions position member).1
    omega
  refine ⟨⟨sound, sameOrder.trans inv.isOrder, fun position member => ?_⟩, ?_⟩
  · have := older position member
    exact ⟨by simp only; omega, fun same => by simp only at same; omega⟩
  · simp only [queue, List.map_map, MarkedQueue.mk.injEq, true_and]
    refine List.map_congr_left fun position member => if_neg ?_
    have := older position member
    omega

/-- The same version of the buffer with more bytes behind keeps the marks. -/
theorem refines_kept (inv : state.Inv order) {buffer : ByteBuffer} (sound : buffer.WellFormed)
    (sameOrder : buffer.byteOrder = state.buffer.byteOrder)
    (sameVersion : buffer.version = state.buffer.version) (items : List UInt8)
    (appended : buffer.bytes = state.buffer.bytes ++ items) :
    Inv order { state with buffer := buffer } ∧
      queue { state with buffer := buffer } =
        ⟨buffer.data, state.queue.marks.map (·.map (· ++ items))⟩ := by
  refine ⟨⟨sound, sameOrder.trans inv.isOrder, fun position member => ?_⟩, ?_⟩
  · obtain ⟨older, inside⟩ := inv.positions position member
    simp only [sameVersion, ByteBuffer.end_, appended, List.length_append]
    refine ⟨older, fun same => ?_⟩
    have : position.start ≤ state.buffer.bytes.length := inside same
    omega
  · simp only [queue, List.map_map, MarkedQueue.mk.injEq, true_and]
    refine List.map_congr_left fun position member => ?_
    simp only [Function.comp_apply, sameVersion, appended]
    split
    · next same =>
        have inside : position.start ≤ state.buffer.bytes.length :=
          (inv.positions position member).2 same
        rw [List.drop_append_of_le_length inside, Option.map_some]
    · rfl

/-- Writing appends to the queue. -/
theorem refines_append (inv : state.Inv order) (items : List UInt8) :
    Inv order { state with buffer := state.buffer.writeBytes items } ∧
      queue { state with buffer := state.buffer.writeBytes items } =
        state.queue.append items
          (decide (state.buffer.length + items.length > state.buffer.capacity)) := by
  have sound := ByteBuffer.writeBytes_wellFormed inv.sound items
  have data := ByteBuffer.data_writeBytes inv.sound items
  have sameOrder := ByteBuffer.byteOrder_writeBytes inv.sound items
  by_cases full : state.buffer.length + items.length > state.buffer.capacity
  · obtain ⟨kept, isQueue⟩ := refines_moved inv sound sameOrder
      (by simp [ByteBuffer.writeBytes, ByteBuffer.reserveWriteBuffer, full, ByteBuffer.resize])
    refine ⟨kept, isQueue.trans ?_⟩
    simp [MarkedQueue.append, data, full, queue]
  · obtain ⟨kept, isQueue⟩ := refines_kept inv sound sameOrder
      (by simp [ByteBuffer.writeBytes, ByteBuffer.reserveWriteBuffer, full]) items
      (by simp [ByteBuffer.writeBytes, ByteBuffer.reserveWriteBuffer, full])
    refine ⟨kept, isQueue.trans ?_⟩
    simp [MarkedQueue.append, data, full, queue]

/-- Resizing cuts the queue. -/
theorem refines_resize (inv : state.Inv order) (size : Nat) :
    Inv order { state with buffer := state.buffer.resize size } ∧
      queue { state with buffer := state.buffer.resize size } = state.queue.cut size := by
  obtain ⟨kept, isQueue⟩ := refines_moved inv (state.buffer.resize_wellFormed size) rfl rfl
  refine ⟨kept, isQueue.trans ?_⟩
  rw [ByteBuffer.data_resize]
  rfl

/-- `Clear` refines the queue. -/
theorem refines_clear (inv : state.Inv order) :
    Inv order { state with buffer := state.buffer.clear } ∧
      queue { state with buffer := state.buffer.clear } = state.queue.cut 0 :=
  refines_moved inv ⟨Nat.le_refl 0, Nat.zero_le _⟩ rfl rfl

/-- A read position inside the bytes changes what is unread and nothing else. -/
theorem refines_start (inv : state.Inv order) {start : Nat} (inside : start ≤ state.buffer.end_) :
    Inv order { state with buffer := { state.buffer with start := start } } ∧
      queue { state with buffer := { state.buffer with start := start } } =
        { state.queue with unread := state.buffer.bytes.drop start } :=
  ⟨⟨⟨inside, inv.sound.end_le⟩, inv.isOrder, inv.positions⟩, rfl⟩

/-- Reading takes from the queue. -/
theorem refines_take (inv : state.Inv order) (len : Nat) :
    Inv order { state with buffer := (state.buffer.readBytes len).1 } ∧
      queue { state with buffer := (state.buffer.readBytes len).1 } = (state.queue.take len).1 ∧
      (state.buffer.readBytes len).2 = (state.queue.take len).2 := by
  have isLength : state.queue.unread.length = state.buffer.length := state.buffer.length_data
  by_cases short : len > state.buffer.length
  · have none : ¬len ≤ state.queue.unread.length := by omega
    rw [ByteBuffer.readBytes, if_pos short, MarkedQueue.take, if_neg none]
    exact ⟨inv, rfl, rfl⟩
  · have enough : len ≤ state.queue.unread.length := by omega
    have startLe := inv.sound.start_le
    rw [ByteBuffer.readBytes, if_neg short, MarkedQueue.take, if_pos enough]
    have inside : state.buffer.start + len ≤ state.buffer.end_ := by
      unfold ByteBuffer.length at short
      omega
    obtain ⟨kept, isQueue⟩ := refines_start inv inside
    refine ⟨kept, isQueue.trans ?_, rfl⟩
    simp [queue, ByteBuffer.data, List.drop_drop]

/-- A reader that returns what the bytes stand for reads from the queue. -/
theorem refines_readUInt (host : HostOrder) (inv : state.Inv order) (val : Bool) (len : Nat)
    {Value : Type} (decode : List UInt8 → Value) (toNat : Value → Nat)
    (exact : ∀ bytes : List UInt8, bytes.length = len →
      toNat (decode bytes) = order.decode host bytes) :
    Inv order (state.returned (.number <| ·.map toNat) (state.buffer.readUInt val len decode)).1 ∧
      some (state.queue.read val len (.number <| ·.map (order.decode host))) =
        some ((state.returned (.number <| ·.map toNat)
            (state.buffer.readUInt val len decode)).1.queue,
          (state.returned (.number <| ·.map toNat) (state.buffer.readUInt val len decode)).2) := by
  cases val with
  | false => exact ⟨inv, rfl⟩
  | true =>
      obtain ⟨kept, isQueue, isBytes⟩ := refines_take inv len
      refine ⟨kept, congrArg some ?_⟩
      simp only [returned, ByteBuffer.readUInt, ByteQueue.read, if_true, isQueue, isBytes,
        Option.map_map, Prod.mk.injEq, true_and, List.cons.injEq, BufferResult.number.injEq,
        and_true]
      simp only [MarkedQueue.take]
      split
      · next enough =>
          simp only [Option.map_some, Function.comp_apply, Option.some.injEq]
          exact (exact _ (by simp; omega)).symm
      · rfl

/-- `ReadString` and `ReadBytes` refine the queue. -/
theorem refines_readBytes (inv : state.Inv order) (val : Bool) (len : Nat) :
    Inv order (state.returned .bytes (state.buffer.readString val len)).1 ∧
      some (state.queue.read val len .bytes) =
        some ((state.returned .bytes (state.buffer.readString val len)).1.queue,
          (state.returned .bytes (state.buffer.readString val len)).2) := by
  cases val with
  | false => exact ⟨inv, rfl⟩
  | true =>
      obtain ⟨kept, isQueue, isBytes⟩ := refines_take inv len
      refine ⟨kept, ?_⟩
      simp only [returned, ByteBuffer.readString, ByteQueue.read, if_true, isQueue, isBytes]

/-- A call without a result whose buffer stands for `after`. -/
theorem refines_wrote {buffer : ByteBuffer} {after : ByteQueue}
    (refined : Inv order { state with buffer := buffer } ∧
      queue { state with buffer := buffer } = after) :
    Inv order (state.wrote buffer).1 ∧ some (after, [BufferResult.done]) =
      some ((state.wrote buffer).1.queue, (state.wrote buffer).2) := by
  obtain ⟨kept, rfl⟩ := refined
  exact ⟨kept, rfl⟩

/-- Every write refines the queue. -/
theorem refines_write (inv : state.Inv order) (items : List UInt8) :
    Inv order (state.wrote (state.buffer.writeBytes items)).1 ∧
      some (state.queue.append items
          (decide (state.buffer.length + items.length > state.buffer.capacity)),
          [BufferResult.done]) =
        some ((state.wrote (state.buffer.writeBytes items)).1.queue,
          (state.wrote (state.buffer.writeBytes items)).2) :=
  refines_wrote (refines_append inv items)

/-- `GetReadPosition` refines the queue. -/
theorem refines_mark (inv : state.Inv order) :
    Inv order { state with positions := state.positions ++ [state.buffer.getReadPosition] } ∧
      some (state.queue.mark, [BufferResult.done]) =
        some (queue { state with positions := state.positions ++ [state.buffer.getReadPosition] },
          [BufferResult.done]) := by
  constructor
  · refine ⟨inv.sound, inv.isOrder, fun position member => ?_⟩
    rcases List.mem_append.mp member with held | new
    · exact inv.positions position held
    · rw [List.mem_singleton.mp new]
      exact ⟨Int.le_refl _, fun _ => inv.sound.start_le⟩
  · simp [queue, MarkedQueue.mark, ByteBuffer.getReadPosition, ByteBuffer.data]

/-- A position of the present version is a mark, and one of an earlier version a void one. -/
theorem refines_restore (inv : state.Inv order) {index : Nat} {position : ByteBuffer.ReadPosition}
    (isPosition : state.positions[index]? = some position) :
    Inv order (state.returned .success (state.buffer.setReadPosition position)).1 ∧
      (if index < state.queue.marks.length then
          some ((state.queue.restore index).1, [BufferResult.success (state.queue.restore index).2])
        else none) =
        some ((state.returned .success (state.buffer.setReadPosition position)).1.queue,
          (state.returned .success (state.buffer.setReadPosition position)).2) := by
  obtain ⟨inRange, held⟩ := List.getElem?_eq_some_iff.mp isPosition
  have isMark : state.queue.marks[index]? = some (if position.version = state.buffer.version then
      some (state.buffer.bytes.drop position.start) else none) := by
    simp [queue, isPosition]
  rw [if_pos (by simpa [queue] using inRange)]
  simp only [MarkedQueue.restore, isMark, ByteBuffer.setReadPosition]
  by_cases valid : position.version = state.buffer.version
  · have member : position ∈ state.positions := held ▸ List.getElem_mem inRange
    obtain ⟨kept, isQueue⟩ := refines_start inv ((inv.positions position member).2 valid)
    simp only [valid, if_true, ne_eq, not_true, if_false, returned]
    exact ⟨kept, by rw [isQueue]⟩
  · simp only [valid, if_false, ne_eq, not_false_iff, if_true, returned]
    exact ⟨inv, trivial⟩

/-- Every call of the buffer is one of the queue. -/
theorem refines_step (inv : state.Inv order) {call : BufferCall} {next : BufferState}
    {emitted : List BufferResult} (transition : state.step host call = some (next, emitted)) :
    next.Inv order ∧ ByteQueue.step host order state.queue (call, state.moves host call) =
      some (next.queue, emitted) := by
  obtain rfl := inv.isOrder
  cases call with
  | writeBytes items | writeString items | reserveWriteBuffer items | writeUInt8 val =>
      cases transition
      exact refines_write inv _
  | writeUInt16 val =>
      simp only [step, ByteBuffer.writeUInt16_eq] at transition
      cases transition
      exact refines_write inv _
  | writeUInt24 val =>
      simp only [step, ByteBuffer.writeUInt24_eq] at transition
      cases transition
      exact refines_write inv _
  | writeUInt32 val =>
      simp only [step, ByteBuffer.writeUInt32_eq] at transition
      cases transition
      exact refines_write inv _
  | writeUInt64 val =>
      simp only [step, ByteBuffer.writeUInt64_eq] at transition
      cases transition
      exact refines_write inv _
  | readUInt8 val =>
      cases transition
      exact refines_readUInt host inv val 1 (fun bytes => bytes.headD 0) UInt8.toNat
        fun bytes => toNat_decode8 host state.buffer.byteOrder
  | readUInt16 val =>
      cases transition
      exact refines_readUInt host inv val 2 _ UInt16.toNat
        fun bytes => toNat_decode16 host state.buffer.byteOrder
  | readUInt24 val =>
      cases transition
      exact refines_readUInt host inv val 3 _ UInt32.toNat
        fun bytes => toNat_decode24 host state.buffer.byteOrder
  | readUInt32 val =>
      cases transition
      exact refines_readUInt host inv val 4 _ UInt32.toNat
        fun bytes => toNat_decode32 host state.buffer.byteOrder
  | readUInt64 val =>
      cases transition
      exact refines_readUInt host inv val 8 _ UInt64.toNat
        fun bytes => toNat_decode64 host state.buffer.byteOrder
  | readBytes len =>
      cases transition
      exact refines_readBytes inv true len
  | readString val len =>
      cases transition
      exact refines_readBytes inv val len
  | resize size =>
      cases transition
      exact refines_wrote (refines_resize inv size)
  | clear =>
      cases transition
      exact refines_wrote (refines_clear inv)
  | consume size =>
      simp only [step, ByteBuffer.consume_eq] at transition
      cases transition
      obtain ⟨kept, isQueue, isBytes⟩ := refines_take inv size
      refine ⟨kept, ?_⟩
      simp only [ByteQueue.step, ByteQueue.read, if_true, isBytes]
      exact congrArg (fun queue => some (queue, _)) isQueue.symm
  | getReadPosition =>
      cases transition
      exact refines_mark inv
  | setReadPosition index =>
      simp only [step] at transition
      split at transition
      · cases transition
      · next position isPosition =>
          cases transition
          exact refines_restore inv isPosition

/-- A new buffer keeps the invariant. -/
theorem Inv.new (contents : Option (List UInt8)) (reserved : Nat) (order : ByteOrder) :
    (BufferState.new contents reserved order).Inv order := by
  cases contents with
  | none => exact ⟨ByteBuffer.construct_wellFormed reserved order, rfl, fun _ held => by cases held⟩
  | some bytes =>
      refine ⟨⟨Nat.zero_le _, ?_⟩, rfl, fun _ held => by cases held⟩
      simp [BufferState.new, ByteBuffer.construct, ByteBuffer.end_]

/-- The queue of a new buffer holds its contents. -/
theorem queue_new (contents : Option (List UInt8)) (reserved : Nat) (order : ByteOrder) :
    (BufferState.new contents reserved order).queue = ⟨contents.getD [], []⟩ := by
  cases contents <;> simp [BufferState.new, queue, ByteBuffer.data, ByteBuffer.construct]

end BufferState

/-- A buffer, with a record of which of its calls move the bytes. -/
def recordedBuffer (host : HostOrder) :
    Machine (BufferState × List (BufferCall × Bool)) BufferCall BufferResult :=
  (bufferMachine host).watch fun calls state call _ => calls ++ [(call, state.moves host call)]

/-- Under any calls the buffer keeps its invariant, and it does with the same results what a
queue does whose marks become void by the calls that move the bytes. -/
theorem byteBuffer_refines_queue (host : HostOrder) (order : ByteOrder)
    (contents : Option (List UInt8)) (reserved : Nat) {calls : List BufferCall}
    {final : BufferState} {recorded : List (BufferCall × Bool)} {results : List BufferResult}
    (run : (recordedBuffer host).Run (.new contents reserved order, []) calls (final, recorded)
      results) :
    (final.buffer.start ≤ final.buffer.end_ ∧ final.buffer.end_ ≤ final.buffer.size) ∧
      recorded.map (·.1) = calls ∧
      (queueMachine host order).Run ⟨contents.getD [], []⟩ recorded final.queue results := by
  have isCalls : recorded.map (·.1) = calls :=
    run.invariant (fun calls watched _ => watched.2.map (·.1) = calls) rfl (by
      intro calls watched _ call next _ isCalls _ transition
      rw [(Machine.step_of_watch transition).2, List.map_append, isCalls]
      rfl)
  have simulated : final.Inv order ∧
      (queueMachine host order).Run (BufferState.new contents reserved order).queue recorded
        final.queue results :=
    @Machine.RunWhere.refines _ _ _ (bufferMachine host) (fun _ _ => True) _ _ _
      (queueMachine host order) BufferState.queue (fun state call => (call, state.moves host call))
      (BufferState.Inv order) (.new contents reserved order)
      (fun inv _ transition => BufferState.refines_step inv transition) _ _ _ _ run
  obtain ⟨inv, refined⟩ := simulated
  rw [BufferState.queue_new] at refined
  exact ⟨⟨inv.sound.start_le, inv.sound.end_le⟩, isCalls, refined⟩

/-- Six bytes, of which three are read twice; one more byte has no room behind them, and the
position is void then. -/
def readTwice : List BufferCall :=
  [.getReadPosition, .readString true 3, .setReadPosition 0, .readBytes 3, .writeUInt8 71,
    .setReadPosition 0, .consume 5]

/-- The bytes are read twice from one position, which a write then makes stale. -/
theorem byteBuffer_refines_queue_twice :
    ∃ final recorded,
      (recordedBuffer .littleEndian).Run (.new (some [65, 66, 67, 68, 69, 70]) 0 .network, [])
        readTwice (final, recorded)
        [.done, .bytes (some [65, 66, 67]), .success true, .bytes (some [65, 66, 67]), .done,
          .success false, .success false] ∧
      (queueMachine .littleEndian .network).Run ⟨[65, 66, 67, 68, 69, 70], []⟩ recorded final.queue
        [.done, .bytes (some [65, 66, 67]), .success true, .bytes (some [65, 66, 67]), .done,
          .success false, .success false] ∧
      final.queue = ⟨[68, 69, 70, 71], [none]⟩ := by
  have checked : ((recordedBuffer .littleEndian).exec
      (.new (some [65, 66, 67, 68, 69, 70]) 0 .network, []) readTwice).any (fun result =>
      result.2 = [.done, .bytes (some [65, 66, 67]), .success true, .bytes (some [65, 66, 67]),
        .done, .success false, .success false] ∧
      result.1.1.queue = ⟨[68, 69, 70, 71], [none]⟩) = true := by decide +kernel
  obtain ⟨⟨final, recorded⟩, results, run, isResult⟩ := Machine.exists_run_of_exec checked
  obtain ⟨rfl, isQueue⟩ := of_decide_eq_true isResult
  exact ⟨final, recorded, run, (byteBuffer_refines_queue _ _ _ _ run).2.2, isQueue⟩

end VzSdk.Base
