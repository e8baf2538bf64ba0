import VzSdk.Std.Memory

/-!
# FifoBuffer

The circular buffer of `base/stream.cpp`. `new char[size]` leaves the memory as
it is, so what it holds at first is an argument. Sizes are as large as an
allocation can be, and no sum of two of them overflows.
-/

namespace VzSdk.Base

open VzSdk.Std

/-- The states of a stream. -/
inductive StreamState where
  | closed
  | opening
  | open_
deriving DecidableEq, Repr

/-- What a stream answers to a read or a write. -/
inductive StreamResult where
  | error
  | success
  | block
  | eos
deriving DecidableEq, Repr

/-- What a stream signals to its owner, as bits of one number in the source. -/
inductive StreamEvent where
  | open_
  | read
  | write
  | close
deriving DecidableEq, Repr

/-- A circular buffer: `dataLength` bytes of it, from `readPosition` on, are data. -/
structure FifoBuffer where
  state : StreamState
  buffer : Memory
  bufferLength : Nat
  dataLength : Nat
  readPosition : Nat

namespace FifoBuffer

/-- A new buffer, open and empty. -/
def new (size : Nat) (allocated : Memory) : FifoBuffer where
  state := .open_
  buffer := allocated
  bufferLength := size
  dataLength := 0
  readPosition := 0

/-- How many bytes can be read. -/
def getBuffered (fifo : FifoBuffer) : Nat :=
  fifo.dataLength

/-- A smaller or larger buffer, with the data at its start. It must hold the data. -/
def setCapacity (fifo : FifoBuffer) (size : Nat) (allocated : Memory) : FifoBuffer × Bool :=
  if fifo.dataLength > size then (fifo, false)
  else if size ≠ fifo.bufferLength then
    let copy := fifo.dataLength
    let tailCopy := min copy (fifo.bufferLength - fifo.readPosition)
    let buffer := allocated.write 0 (fifo.buffer.bytes fifo.readPosition tailCopy)
    let buffer := buffer.write tailCopy (fifo.buffer.bytes 0 (copy - tailCopy))
    ({ fifo with buffer := buffer, readPosition := 0, bufferLength := size }, true)
  else (fifo, true)

/-- The result, how many bytes are read, and the bytes that are copied to the caller. -/
def readOffsetLocked (fifo : FifoBuffer) (bytes offset : Nat) :
    StreamResult × Nat × List UInt8 :=
  if offset ≥ fifo.dataLength then
    (if fifo.state ≠ .closed then .block else .eos, 0, [])
  else
    let available := fifo.dataLength - offset
    let readPosition := (fifo.readPosition + offset) % fifo.bufferLength
    let copy := min bytes available
    let tailCopy := min copy (fifo.bufferLength - readPosition)
    (.success, copy,
      fifo.buffer.bytes readPosition tailCopy ++ fifo.buffer.bytes 0 (copy - tailCopy))

/-- The result and how many bytes are written. The length of the data stays as it was. -/
def writeOffsetLocked (fifo : FifoBuffer) (data : List UInt8) (offset : Nat) :
    FifoBuffer × StreamResult × Nat :=
  if fifo.state = .closed then (fifo, .eos, 0)
  else if fifo.dataLength + offset ≥ fifo.bufferLength then (fifo, .block, 0)
  else
    let available := fifo.bufferLength - fifo.dataLength - offset
    let writePosition := (fifo.readPosition + fifo.dataLength + offset) % fifo.bufferLength
    let copy := min data.length available
    let tailCopy := min copy (fifo.bufferLength - writePosition)
    let buffer := fifo.buffer.write writePosition (data.take tailCopy)
    let buffer := buffer.write 0 ((data.drop tailCopy).take (copy - tailCopy))
    ({ fifo with buffer := buffer }, .success, copy)

/-- Read some bytes and leave them in the buffer. -/
def readOffset (fifo : FifoBuffer) (bytes offset : Nat) : StreamResult × Nat × List UInt8 :=
  fifo.readOffsetLocked bytes offset

/-- Besides what `Read` returns, the events that it posts to the owner. -/
def read (fifo : FifoBuffer) (bytes : Nat) :
    FifoBuffer × List StreamEvent × StreamResult × Nat × List UInt8 :=
  let wasWritable := fifo.dataLength < fifo.bufferLength
  let (result, copy, copied) := fifo.readOffsetLocked bytes 0
  if result = .success then
    -- A buffer that was full is not full any more.
    let events := if ¬wasWritable ∧ copy > 0 then [StreamEvent.write] else []
    ({ fifo with
        readPosition := (fifo.readPosition + copy) % fifo.bufferLength
        dataLength := fifo.dataLength - copy }, events, result, copy, copied)
  else (fifo, [], result, 0, [])

/-- Write what fits; an empty buffer becomes readable. -/
def write (fifo : FifoBuffer) (data : List UInt8) :
    FifoBuffer × List StreamEvent × StreamResult × Nat :=
  let wasReadable := fifo.dataLength > 0
  let (written, result, copy) := fifo.writeOffsetLocked data 0
  if result = .success then
    let events := if ¬wasReadable ∧ copy > 0 then [StreamEvent.read] else []
    ({ written with dataLength := written.dataLength + copy }, events, result, copy)
  else (written, [], result, 0)

/-- No more is written; what is buffered can still be read. -/
def close (fifo : FifoBuffer) : FifoBuffer :=
  { fifo with state := .closed }

/-- Where the data begin that can be read in one piece, and their size. -/
def getReadData (fifo : FifoBuffer) : Nat × Nat :=
  (fifo.readPosition,
    if fifo.readPosition + fifo.dataLength ≤ fifo.bufferLength then fifo.dataLength
    else fifo.bufferLength - fifo.readPosition)

/-- Bytes were read in place; a full buffer becomes writable. -/
def consumeReadData (fifo : FifoBuffer) (size : Nat) : FifoBuffer × List StreamEvent :=
  let wasWritable := fifo.dataLength < fifo.bufferLength
  ({ fifo with
      readPosition := (fifo.readPosition + size) % fifo.bufferLength
      dataLength := fifo.dataLength - size },
    if ¬wasWritable ∧ size > 0 then [.write] else [])

/-- Where data can be written in one piece, and how much; `none` is NULL. -/
def getWriteBuffer (fifo : FifoBuffer) : FifoBuffer × Option (Nat × Nat) :=
  if fifo.state = .closed then (fifo, none)
  else
    -- An empty buffer starts again at the front, so that the block is as large as it can be.
    let fifo := if fifo.dataLength = 0 then { fifo with readPosition := 0 } else fifo
    let writePosition := (fifo.readPosition + fifo.dataLength) % fifo.bufferLength
    let size :=
      if writePosition > fifo.readPosition ∨ fifo.dataLength = 0 then
        fifo.bufferLength - writePosition
      else fifo.readPosition - writePosition
    (fifo, some (writePosition, size))

/-- Bytes were written in place; an empty buffer becomes readable. -/
def consumeWriteBuffer (fifo : FifoBuffer) (size : Nat) : FifoBuffer × List StreamEvent :=
  let wasReadable := fifo.dataLength > 0
  ({ fifo with dataLength := fifo.dataLength + size },
    if ¬wasReadable ∧ size > 0 then [.read] else [])

/-- How many bytes can be written. -/
def getWriteRemaining (fifo : FifoBuffer) : Nat :=
  fifo.bufferLength - fifo.dataLength

end FifoBuffer

end VzSdk.Base
