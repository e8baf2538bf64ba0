import VzSdk.Base.FifoBuffer
import VzSdk.Std.Machine
import VzSdk.Std.Ring

/-!
# FifoBuffer as a bounded queue of bytes

`fifoMachine` is a buffer under any sequence of its calls, where a caller that
gets a pointer into the buffer goes on to use it. `fifoQueueMachine` says what
the calls are for: a first-in first-out queue of bytes with a bound.
`fifoBuffer_refines_queue` shows that every run of the buffer is a run of the
queue with the same results, so that its bytes come out as they went in.
-/

namespace VzSdk.Base

open VzSdk.Std

/-- A call of the buffer. -/
inductive FifoCall where
  | read (bytes : Nat)
  | readOffset (bytes offset : Nat)
  | write (data : List UInt8)
  /-- `GetReadData`, and `ConsumeReadData` of `used` bytes. -/
  | readData (used : Nat)
  /-- `GetWriteBuffer`, a copy of `stored` through the returned pointer, and
  `ConsumeWriteBuffer` of `used` bytes. -/
  | writeBuffer (stored : List UInt8) (used : Nat)
  | close
  | setCapacity (size : Nat) (allocated : Memory)
  | getBuffered
  | getWriteRemaining

/-- What a call returns, with what it copies out. -/
inductive FifoResult where
  | read (result : StreamResult) (count : Nat) (bytes : List UInt8)
  | wrote (result : StreamResult) (count : Nat)
  /-- The bytes that the pointer of `GetReadData` offers. -/
  | data (offered : List UInt8)
  /-- How many bytes the pointer of `GetWriteBuffer` offers, if it is not NULL. -/
  | room (offered : Option Nat)
  | closed
  | resized (success : Bool)
  | size (value : Nat)
deriving DecidableEq, Repr

/-- The call can do nothing: it returns SR_BLOCK, SR_EOS, NULL or false. -/
def FifoResult.refused : FifoResult → Bool
  | .read result _ _ | .wrote result _ => result = .block ∨ result = .eos
  | .room offered => offered.isNone
  | .resized success => !success
  | _ => false

/-- What a call posts to the owner, and what it returns. -/
structure FifoOutcome where
  events : List StreamEvent
  result : FifoResult
deriving DecidableEq, Repr

namespace FifoBuffer

/-- The buffer after a call, and its outcome. -/
def step (fifo : FifoBuffer) : FifoCall → Option (FifoBuffer × List FifoOutcome)
  | .read bytes =>
      let (next, events, result, count, copied) := fifo.read bytes
      some (next, [⟨events, .read result count copied⟩])
  | .readOffset bytes offset =>
      let (result, count, copied) := fifo.readOffset bytes offset
      some (fifo, [⟨[], .read result count copied⟩])
  | .write data =>
      let (next, events, result, count) := fifo.write data
      some (next, [⟨events, .wrote result count⟩])
  | .readData used =>
      let (position, size) := fifo.getReadData
      let (next, events) := fifo.consumeReadData used
      some (next, [⟨events, .data (fifo.buffer.bytes position size)⟩])
  | .writeBuffer stored used =>
      match fifo.getWriteBuffer with
      | (got, none) => some (got, [⟨[], .room none⟩])
      | (got, some (position, size)) =>
          let filled := { got with buffer := got.buffer.write position stored }
          let (next, events) := filled.consumeWriteBuffer used
          some (next, [⟨events, .room (some size)⟩])
  | .close => some (fifo.close, [⟨[], .closed⟩])
  | .setCapacity size allocated =>
      let (next, success) := fifo.setCapacity size allocated
      some (next, [⟨[], .resized success⟩])
  | .getBuffered => some (fifo, [⟨[], .size fifo.getBuffered⟩])
  | .getWriteRemaining => some (fifo, [⟨[], .size fifo.getWriteRemaining⟩])

/-- What a caller owes: it uses no more than it is offered, of what it has stored, and no
capacity is 0. -/
def Permits (fifo : FifoBuffer) : FifoCall → Prop
  | .readData used => used ≤ fifo.getReadData.2
  | .writeBuffer stored used =>
      ∀ offered ∈ fifo.getWriteBuffer.2, stored.length ≤ offered.2 ∧ used ≤ stored.length
  | .setCapacity size _ => 0 < size
  | _ => True

instance (fifo : FifoBuffer) : (call : FifoCall) → Decidable (fifo.Permits call)
  | .readData used => inferInstanceAs (Decidable (used ≤ fifo.getReadData.2))
  | .writeBuffer _ _ => Option.decidableForallMem fifo.getWriteBuffer.2
  | .setCapacity size _ => inferInstanceAs (Decidable (0 < size))
  | .read _ | .readOffset _ _ | .write _ | .close | .getBuffered | .getWriteRemaining =>
      inferInstanceAs (Decidable True)

end FifoBuffer

/-- The machine of a buffer. -/
def fifoMachine : Machine FifoBuffer FifoCall FifoOutcome :=
  ⟨FifoBuffer.step⟩

/-! ## The queue -/

/-- What a buffer is for: a bounded queue of bytes that can be closed. -/
@[ext]
structure FifoQueue where
  contents : List UInt8
  capacity : Nat
  closed : Bool
deriving DecidableEq, Repr

namespace FifoQueue

/-- The result where there is nothing to read. -/
def nothing (queue : FifoQueue) : StreamResult :=
  if queue.closed then .eos else .block

/-- Bytes leave in front. -/
def remove (queue : FifoQueue) (count : Nat) : FifoQueue :=
  { queue with contents := queue.contents.drop count }

/-- Bytes come in behind. -/
def append (queue : FifoQueue) (bytes : List UInt8) : FifoQueue :=
  { queue with contents := queue.contents ++ bytes }

/-- A full queue from which bytes are taken can be written to again. -/
def freed (queue : FifoQueue) (count : Nat) : List StreamEvent :=
  if queue.capacity ≤ queue.contents.length ∧ 0 < count then [.write] else []

/-- An empty queue to which bytes are given can be read from again. -/
def filled (queue : FifoQueue) (count : Nat) : List StreamEvent :=
  if queue.contents = [] ∧ 0 < count then [.read] else []

/-- What a call does. The second part of the label is what the queue offers in one piece, where
it offers something; it offers something unless it is empty, or full. -/
def step (queue : FifoQueue) (label : FifoCall × Nat) : Option (FifoQueue × List FifoOutcome) :=
  match label.1 with
  | .read bytes =>
      if queue.contents = [] then some (queue, [⟨[], .read queue.nothing 0 []⟩])
      else
        let count := min bytes queue.contents.length
        some (queue.remove count,
          [⟨queue.freed count, .read .success count (queue.contents.take count)⟩])
  | .readOffset bytes offset =>
      if queue.contents.length ≤ offset then some (queue, [⟨[], .read queue.nothing 0 []⟩])
      else
        let count := min bytes (queue.contents.length - offset)
        some (queue, [⟨[], .read .success count ((queue.contents.drop offset).take count)⟩])
  | .write data =>
      if queue.closed then some (queue, [⟨[], .wrote .eos 0⟩])
      else if queue.capacity ≤ queue.contents.length then some (queue, [⟨[], .wrote .block 0⟩])
      else
        let count := min data.length (queue.capacity - queue.contents.length)
        some (queue.append (data.take count), [⟨queue.filled count, .wrote .success count⟩])
  | .readData used =>
      if used ≤ label.2 ∧ label.2 ≤ queue.contents.length ∧
          (queue.contents ≠ [] → 0 < label.2) then
        some (queue.remove used, [⟨queue.freed used, .data (queue.contents.take label.2)⟩])
      else none
  | .writeBuffer stored used =>
      if queue.closed then some (queue, [⟨[], .room none⟩])
      else if used ≤ stored.length ∧ stored.length ≤ label.2 ∧
          label.2 ≤ queue.capacity - queue.contents.length ∧
          (queue.contents.length < queue.capacity → 0 < label.2) then
        some (queue.append (stored.take used), [⟨queue.filled used, .room (some label.2)⟩])
      else none
  | .close => some ({ queue with closed := true }, [⟨[], .closed⟩])
  | .setCapacity size _ =>
      if size < queue.contents.length then some (queue, [⟨[], .resized false⟩])
      else some ({ queue with capacity := size }, [⟨[], .resized true⟩])
  | .getBuffered => some (queue, [⟨[], .size queue.contents.length⟩])
  | .getWriteRemaining =>
      some (queue, [⟨[], .size (queue.capacity - queue.contents.length)⟩])

end FifoQueue

/-- The machine of the queue; the second part of a label is what it offers in one piece. -/
def fifoQueueMachine : Machine FifoQueue (FifoCall × Nat) FifoOutcome :=
  ⟨FifoQueue.step⟩

/-! ## What goes in and what comes out -/

/-- The bytes that a call has brought into the buffer, by what it returned. -/
def FifoCall.accepted : FifoCall → FifoResult → List UInt8
  | .write data, .wrote _ count => data.take count
  | .writeBuffer stored used, .room (some _) => stored.take used
  | _, _ => []

/-- The bytes that a call has taken out of the buffer, as they were returned. -/
def FifoCall.taken : FifoCall → FifoResult → List UInt8
  | .read _, .read _ _ bytes => bytes
  | .readData used, .data offered => offered.take used
  | _, _ => []

/-- What the calls of a run have brought in, or taken out, in this order. -/
def exchanged (part : FifoCall → FifoResult → List UInt8) (calls : List FifoCall)
    (outcomes : List FifoOutcome) : List UInt8 :=
  (calls.zip outcomes).flatMap fun exchange => part exchange.1 exchange.2.result

/-- What one more call moves comes behind the rest. -/
theorem exchanged_snoc (part : FifoCall → FifoResult → List UInt8) {calls : List FifoCall}
    {outcomes : List FifoOutcome} (same : calls.length = outcomes.length) (call : FifoCall)
    (outcome : FifoOutcome) :
    exchanged part (calls ++ [call]) (outcomes ++ [outcome]) =
      exchanged part calls outcomes ++ part call outcome.result := by
  simp [exchanged, List.zip_append same]

namespace FifoQueue

/-- A call loses no byte, and puts none in another place. -/
theorem step_conserves {queue next : FifoQueue} {label : FifoCall × Nat}
    {emitted : List FifoOutcome} (transition : queue.step label = some (next, emitted)) :
    ∃ outcome, emitted = [outcome] ∧
      queue.contents ++ label.1.accepted outcome.result =
        label.1.taken outcome.result ++ next.contents := by
  obtain ⟨call, offered⟩ := label
  cases call with
  | read bytes =>
      simp only [step] at transition
      split at transition
      · cases transition
        exact ⟨_, rfl, List.append_nil _⟩
      · cases transition
        refine ⟨_, rfl, ?_⟩
        exact (List.append_nil _).trans (List.take_append_drop _ _).symm
  | readOffset bytes offset =>
      simp only [step] at transition
      split at transition <;> cases transition <;> exact ⟨_, rfl, List.append_nil _⟩
  | write data =>
      simp only [step] at transition
      split at transition
      · cases transition
        exact ⟨_, rfl, List.append_nil _⟩
      · split at transition
        · cases transition
          exact ⟨_, rfl, List.append_nil _⟩
        · cases transition
          exact ⟨_, rfl, rfl⟩
  | readData used =>
      simp only [step] at transition
      split at transition
      · next asked =>
          cases transition
          refine ⟨_, rfl, ?_⟩
          simp only [FifoCall.accepted, FifoCall.taken, remove, List.take_take, List.append_nil,
            Nat.min_eq_left asked.1, List.take_append_drop]
      · cases transition
  | writeBuffer stored used =>
      simp only [step] at transition
      split at transition
      · cases transition
        exact ⟨_, rfl, List.append_nil _⟩
      · split at transition
        · cases transition
          exact ⟨_, rfl, rfl⟩
        · cases transition
  | setCapacity size allocated =>
      simp only [step] at transition
      split at transition <;> cases transition <;> exact ⟨_, rfl, List.append_nil _⟩
  | close | getBuffered | getWriteRemaining =>
      cases transition
      exact ⟨_, rfl, List.append_nil _⟩

/-- What was in the queue and what came in, is what was taken out and what is left, in this
order. -/
theorem run_conserves {start final : FifoQueue} {labels : List (FifoCall × Nat)}
    {outcomes : List FifoOutcome} (run : fifoQueueMachine.Run start labels final outcomes) :
    labels.length = outcomes.length ∧
      start.contents ++ exchanged FifoCall.accepted (labels.map Prod.fst) outcomes =
        exchanged FifoCall.taken (labels.map Prod.fst) outcomes ++ final.contents := by
  refine run.invariant (fun labels (queue : FifoQueue) outcomes =>
    labels.length = outcomes.length ∧
      start.contents ++ exchanged FifoCall.accepted (labels.map Prod.fst) outcomes =
        exchanged FifoCall.taken (labels.map Prod.fst) outcomes ++ queue.contents)
    ⟨rfl, List.append_nil _⟩ ?_
  rintro labels queue outcomes label next emitted ⟨same, conserved⟩ - transition
  obtain ⟨outcome, rfl, moved⟩ := step_conserves transition
  have aligned : (labels.map Prod.fst).length = outcomes.length := (List.length_map _).trans same
  rw [List.map_append, List.map_singleton, exchanged_snoc _ aligned, exchanged_snoc _ aligned]
  refine ⟨by simp only [List.length_append, same, List.length_singleton], ?_⟩
  calc start.contents ++ (exchanged FifoCall.accepted (labels.map Prod.fst) outcomes ++
          label.1.accepted outcome.result)
      = exchanged FifoCall.taken (labels.map Prod.fst) outcomes ++
          (queue.contents ++ label.1.accepted outcome.result) := by
        rw [← List.append_assoc, conserved, List.append_assoc]
    _ = exchanged FifoCall.taken (labels.map Prod.fst) outcomes ++
          label.1.taken outcome.result ++ next.contents := by
        rw [moved, List.append_assoc]

end FifoQueue

/-! ## The refinement -/

namespace FifoBuffer

/-- The data are no more than the buffer is long, and begin inside it. -/
structure Sound (fifo : FifoBuffer) : Prop where
  data_le : fifo.dataLength ≤ fifo.bufferLength
  read_lt : fifo.readPosition < fifo.bufferLength

/-- The bytes in the buffer, from the read position on. -/
def contents (fifo : FifoBuffer) : List UInt8 :=
  fifo.buffer.window fifo.bufferLength fifo.readPosition fifo.dataLength

/-- The queue that a buffer stands for. -/
def queue (fifo : FifoBuffer) : FifoQueue where
  contents := fifo.contents
  capacity := fifo.bufferLength
  closed := fifo.state = .closed

/-- What a call is offered in one piece. -/
def offer (fifo : FifoBuffer) : FifoCall → Nat
  | .readData _ => fifo.getReadData.2
  | .writeBuffer _ _ => (fifo.getWriteBuffer.2.map (·.2)).getD 0
  | _ => 0

/-- There are as many bytes as `data_length_` says. -/
@[simp] theorem length_contents (fifo : FifoBuffer) : fifo.contents.length = fifo.dataLength :=
  Memory.length_window

/-- The queue of a buffer holds its bytes. -/
@[simp] theorem contents_queue (fifo : FifoBuffer) : fifo.queue.contents = fifo.contents := rfl

/-- The queue has the buffer's capacity. -/
@[simp] theorem capacity_queue (fifo : FifoBuffer) : fifo.queue.capacity = fifo.bufferLength := by
  rw [queue]

variable {fifo : FifoBuffer}

/-- A buffer without data holds nothing. -/
theorem contents_eq_nil_iff : fifo.contents = [] ↔ fifo.dataLength = 0 := by
  rw [← List.length_eq_zero_iff, length_contents]

/-- What a buffer with nothing to read answers. -/
theorem nothing_queue :
    fifo.queue.nothing = if fifo.state ≠ .closed then .block else .eos := by
  simp only [FifoQueue.nothing, queue, decide_eq_true_eq, ne_eq, ite_not]

/-! ### Reading -/

/-- What is read is a part of the contents. -/
theorem readOffsetLocked_eq (sound : fifo.Sound) (bytes offset : Nat) :
    fifo.readOffsetLocked bytes offset =
      if fifo.contents.length ≤ offset then (fifo.queue.nothing, 0, [])
      else
        (.success, min bytes (fifo.contents.length - offset),
          (fifo.contents.drop offset).take (min bytes (fifo.contents.length - offset))) := by
  have small := sound.data_le
  have positive : 0 < fifo.bufferLength := Nat.zero_lt_of_lt sound.read_lt
  simp only [readOffsetLocked, length_contents, nothing_queue, ge_iff_le]
  split
  · rfl
  · next within =>
      rw [Memory.bytes_append_bytes (Nat.mod_lt _ positive) (by omega), Memory.window_mod,
        contents, Memory.drop_window (by omega), Memory.take_window (by omega)]

/-- Consuming read data keeps the buffer sound. -/
theorem consumeReadData_sound (sound : fifo.Sound) (size : Nat) :
    (fifo.consumeReadData size).1.Sound := by
  have small := sound.data_le
  have positive : 0 < fifo.bufferLength := Nat.zero_lt_of_lt sound.read_lt
  exact ⟨by simp only [consumeReadData]; omega, Nat.mod_lt _ positive⟩

/-- Consumed data leaves the queue. -/
theorem queue_consumeReadData {size : Nat} (within : size ≤ fifo.dataLength) :
    (fifo.consumeReadData size).1.queue = fifo.queue.remove size := by
  refine FifoQueue.ext ?_ rfl rfl
  simp only [queue, contents, consumeReadData, FifoQueue.remove, Memory.window_mod,
    Memory.drop_window within]

/-- Consuming from a full buffer is signalled. -/
theorem events_consumeReadData (size : Nat) :
    (fifo.consumeReadData size).2 = fifo.queue.freed size := by
  simp only [consumeReadData, FifoQueue.freed, queue, length_contents, Nat.not_lt, gt_iff_lt]

/-- `Read` is a look at the contents, and what it finds is consumed. -/
theorem read_eq (sound : fifo.Sound) (bytes : Nat) :
    fifo.read bytes =
      if fifo.contents = [] then (fifo, [], fifo.queue.nothing, 0, [])
      else
        ((fifo.consumeReadData (min bytes fifo.dataLength)).1,
          fifo.queue.freed (min bytes fifo.dataLength), .success, min bytes fifo.dataLength,
          fifo.contents.take (min bytes fifo.dataLength)) := by
  have notSuccess : fifo.queue.nothing ≠ .success := by
    unfold FifoQueue.nothing
    split <;> decide
  rw [← events_consumeReadData]
  simp only [read, readOffsetLocked_eq sound, length_contents, Nat.le_zero, contents_eq_nil_iff]
  by_cases empty : fifo.dataLength = 0
  · simp only [if_pos empty, if_neg notSuccess]
  · simp only [if_neg empty, if_true, Nat.sub_zero, List.drop_zero]
    rfl

/-- The data that are offered are the first of the contents. -/
theorem bytes_getReadData (sound : fifo.Sound) :
    fifo.getReadData.2 ≤ fifo.dataLength ∧ (fifo.contents ≠ [] → 0 < fifo.getReadData.2) ∧
      fifo.buffer.bytes fifo.getReadData.1 fifo.getReadData.2 =
        fifo.contents.take fifo.getReadData.2 := by
  have small := sound.data_le
  have inside := sound.read_lt
  have offered : fifo.getReadData.2 =
      min fifo.dataLength (fifo.bufferLength - fifo.readPosition) := by
    simp only [getReadData]
    split <;> omega
  refine ⟨by omega, ?_, ?_⟩
  · rw [ne_eq, contents_eq_nil_iff]
    omega
  · rw [contents, Memory.take_window (by omega)]
    exact Memory.bytes_eq_window _ (by simp only [getReadData] at offered ⊢; omega)

/-! ### Writing -/

/-- Bytes that are stored behind the data, and are counted, are appended. -/
theorem queue_store (sound : fifo.Sound) {data : List UInt8} {used : Nat}
    (fits : fifo.dataLength + data.length ≤ fifo.bufferLength) (within : used ≤ data.length) :
    let stored := fifo.buffer.store fifo.bufferLength
      ((fifo.readPosition + fifo.dataLength) % fifo.bufferLength) data
    ({ fifo with buffer := stored }.consumeWriteBuffer used).1.Sound ∧
      ({ fifo with buffer := stored }.consumeWriteBuffer used).1.queue =
        fifo.queue.append (data.take used) := by
  intro stored
  have positive : 0 < fifo.bufferLength := Nat.zero_lt_of_lt sound.read_lt
  refine ⟨⟨by simp only [consumeWriteBuffer]; omega, sound.read_lt⟩, FifoQueue.ext ?_ rfl rfl⟩
  have whole : stored.window fifo.bufferLength fifo.readPosition
      (fifo.dataLength + data.length) = fifo.contents ++ data :=
    Memory.window_store positive fits
  have cut : stored.window fifo.bufferLength fifo.readPosition (fifo.dataLength + used) =
      (fifo.contents ++ data).take (fifo.dataLength + used) := by
    rw [← whole, Memory.take_window (by omega)]
  have front : (fifo.contents ++ data).take (fifo.dataLength + used) =
      fifo.contents ++ data.take used := by
    rw [← length_contents, List.take_length_add_append]
  exact cut.trans front

/-- Writing to an empty buffer is signalled. -/
theorem events_consumeWriteBuffer (size : Nat) :
    (fifo.consumeWriteBuffer size).2 = fifo.queue.filled size := by
  simp only [consumeWriteBuffer, FifoQueue.filled, queue, contents_eq_nil_iff, Nat.not_lt,
    gt_iff_lt, Nat.le_zero]

/-- What is written is stored behind the data, as far as there is room. -/
theorem writeOffsetLocked_eq (data : List UInt8) :
    fifo.writeOffsetLocked data 0 =
      if fifo.queue.closed then (fifo, .eos, 0)
      else if fifo.bufferLength ≤ fifo.dataLength then (fifo, .block, 0)
      else
        ({ fifo with
            buffer := fifo.buffer.store fifo.bufferLength
              ((fifo.readPosition + fifo.dataLength) % fifo.bufferLength)
              (data.take (min data.length (fifo.bufferLength - fifo.dataLength))) },
          .success, min data.length (fifo.bufferLength - fifo.dataLength)) := by
  simp only [writeOffsetLocked, queue, decide_eq_true_eq, Nat.add_zero, Nat.sub_zero, ge_iff_le]
  rw [Memory.write_write_eq_store (Nat.min_le_left _ _)]

/-- `Write` stores what there is room for, and counts it. -/
theorem write_eq (data : List UInt8) :
    fifo.write data =
      if fifo.queue.closed then (fifo, [], .eos, 0)
      else if fifo.bufferLength ≤ fifo.dataLength then (fifo, [], .block, 0)
      else
        let count := min data.length (fifo.bufferLength - fifo.dataLength)
        let stored := fifo.buffer.store fifo.bufferLength
          ((fifo.readPosition + fifo.dataLength) % fifo.bufferLength) (data.take count)
        (({ fifo with buffer := stored }.consumeWriteBuffer count).1, fifo.queue.filled count,
          .success, count) := by
  simp only [write, writeOffsetLocked_eq, ← events_consumeWriteBuffer]
  by_cases closed : fifo.queue.closed
  · simp only [if_pos closed, reduceCtorEq, if_false]
  · by_cases full : fifo.bufferLength ≤ fifo.dataLength
    · simp only [if_neg closed, if_pos full, reduceCtorEq, if_false]
    · simp only [if_neg closed, if_neg full, if_true]
      rfl

/-- The room behind the data, up to the end of the buffer or to where the data begin. -/
theorem room_behind (sound : fifo.Sound) :
    let writePosition := (fifo.readPosition + fifo.dataLength) % fifo.bufferLength
    let size :=
      if writePosition > fifo.readPosition ∨ fifo.dataLength = 0 then
        fifo.bufferLength - writePosition
      else fifo.readPosition - writePosition
    writePosition + size ≤ fifo.bufferLength ∧ size ≤ fifo.bufferLength - fifo.dataLength ∧
      (fifo.dataLength < fifo.bufferLength → 0 < size) := by
  have small := sound.data_le
  have inside := sound.read_lt
  intro writePosition size
  by_cases straight : fifo.readPosition + fifo.dataLength < fifo.bufferLength
  · have isPosition : writePosition = fifo.readPosition + fifo.dataLength :=
      Nat.mod_eq_of_lt straight
    have isSize : size = fifo.bufferLength - writePosition := if_pos (by omega)
    omega
  · have isPosition : writePosition =
        fifo.readPosition + fifo.dataLength - fifo.bufferLength := by
      simp only [writePosition]
      rw [Nat.mod_eq_sub_mod (by omega), Nat.mod_eq_of_lt (by omega)]
    have isSize : size = fifo.readPosition - writePosition := if_neg (by omega)
    omega

/-- A closed buffer offers no room. -/
theorem getWriteBuffer_closed (closed : fifo.state = .closed) :
    fifo.getWriteBuffer = (fifo, none) :=
  if_pos closed

/-- An open buffer offers room behind its data. Where an empty one begins makes no difference. -/
theorem getWriteBuffer_eq (sound : fifo.Sound) (isOpen : fifo.state ≠ .closed) :
    ∃ got size,
      fifo.getWriteBuffer =
        (got, some ((got.readPosition + got.dataLength) % got.bufferLength, size)) ∧
      got.Sound ∧ got.queue = fifo.queue ∧
      (got.readPosition + got.dataLength) % got.bufferLength + size ≤ got.bufferLength ∧
      size ≤ got.bufferLength - got.dataLength ∧
      (got.dataLength < got.bufferLength → 0 < size) := by
  obtain ⟨got, isGot, soundGot, sameQueue⟩ : ∃ got,
      got = (if fifo.dataLength = 0 then { fifo with readPosition := 0 } else fifo) ∧
      got.Sound ∧ got.queue = fifo.queue := by
    by_cases empty : fifo.dataLength = 0
    · refine ⟨_, (if_pos empty).symm, ⟨sound.data_le, Nat.zero_lt_of_lt sound.read_lt⟩,
        FifoQueue.ext ?_ rfl rfl⟩
      simp only [queue, contents, empty, Memory.window, List.range_zero, List.map_nil]
    · exact ⟨_, (if_neg empty).symm, sound, rfl⟩
  refine ⟨got, _, ?_, soundGot, sameQueue, room_behind soundGot⟩
  rw [getWriteBuffer, if_neg isOpen, ← isGot]

/-- A new capacity moves the data to the front of the new memory. -/
theorem setCapacity_eq (sound : fifo.Sound) {size : Nat} (positive : 0 < size)
    (fits : fifo.dataLength ≤ size) (allocated : Memory) :
    (fifo.setCapacity size allocated).1.Sound ∧
      (fifo.setCapacity size allocated).1.queue = ⟨fifo.contents, size, fifo.queue.closed⟩ ∧
      (fifo.setCapacity size allocated).2 = true := by
  unfold setCapacity
  rw [if_neg (by omega)]
  split
  · refine ⟨⟨fits, positive⟩, FifoQueue.ext ?_ rfl rfl, rfl⟩
    have copied := @Memory.bytes_append_bytes fifo.buffer _ _ _ sound.read_lt sound.data_le
    have placed := Memory.write_append allocated 0
      (fifo.buffer.bytes fifo.readPosition
        (min fifo.dataLength (fifo.bufferLength - fifo.readPosition)))
      (fifo.buffer.bytes 0 (fifo.dataLength -
        min fifo.dataLength (fifo.bufferLength - fifo.readPosition)))
    rw [copied, Memory.length_bytes, Nat.zero_add] at placed
    have front := Memory.bytes_write allocated 0 fifo.contents
    rw [length_contents, Memory.bytes_eq_window size (by omega)] at front
    simp only [queue, contents, placed]
    exact front
  · next same =>
      have isSize : size = fifo.bufferLength := by simpa using same
      exact ⟨sound, FifoQueue.ext rfl isSize.symm rfl, rfl⟩

/-! ### Every call -/

/-- The step of a buffer is one of the queue that it stands for, and keeps it sound. -/
structure Refined (fifo : FifoBuffer) (call : FifoCall) (next : FifoBuffer)
    (emitted : List FifoOutcome) : Prop where
  sound : next.Sound
  isStep : fifo.queue.step (call, fifo.offer call) = some (next.queue, emitted)

section Calls

variable {next : FifoBuffer} {emitted : List FifoOutcome}

/-- `Read` refines the queue. -/
theorem refines_read (sound : fifo.Sound) {bytes : Nat}
    (transition : fifo.step (.read bytes) = some (next, emitted)) :
    fifo.Refined (.read bytes) next emitted := by
  simp only [step, read_eq sound] at transition
  by_cases empty : fifo.contents = []
  · simp only [if_pos empty] at transition
    cases transition
    exact ⟨sound, if_pos empty⟩
  · simp only [if_neg empty] at transition
    cases transition
    refine ⟨consumeReadData_sound sound _, (if_neg empty).trans ?_⟩
    rw [queue_consumeReadData (Nat.min_le_right _ _)]
    simp only [contents_queue, length_contents]

/-- `ReadOffset` refines the queue. -/
theorem refines_readOffset (sound : fifo.Sound) {bytes offset : Nat}
    (transition : fifo.step (.readOffset bytes offset) = some (next, emitted)) :
    fifo.Refined (.readOffset bytes offset) next emitted := by
  simp only [step, readOffset, readOffsetLocked_eq sound] at transition
  by_cases past : fifo.contents.length ≤ offset
  · simp only [if_pos past] at transition
    cases transition
    exact ⟨sound, if_pos past⟩
  · simp only [if_neg past] at transition
    cases transition
    exact ⟨sound, if_neg past⟩

/-- `GetReadData` with `ConsumeReadData` refines the queue. -/
theorem refines_readData (sound : fifo.Sound) {used : Nat}
    (permitted : fifo.Permits (.readData used))
    (transition : fifo.step (.readData used) = some (next, emitted)) :
    fifo.Refined (.readData used) next emitted := by
  obtain ⟨offered, some, front⟩ := bytes_getReadData sound
  simp only [step, front] at transition
  cases transition
  refine ⟨consumeReadData_sound sound _, ?_⟩
  have asked : used ≤ fifo.getReadData.2 ∧ fifo.getReadData.2 ≤ fifo.queue.contents.length ∧
      (fifo.queue.contents ≠ [] → 0 < fifo.getReadData.2) := by
    rw [contents_queue, length_contents]
    exact ⟨permitted, offered, some⟩
  rw [queue_consumeReadData (Nat.le_trans permitted offered), events_consumeReadData]
  exact if_pos asked

/-- `Write` refines the queue. -/
theorem refines_write (sound : fifo.Sound) {data : List UInt8}
    (transition : fifo.step (.write data) = some (next, emitted)) :
    fifo.Refined (.write data) next emitted := by
  simp only [step, write_eq] at transition
  by_cases closed : fifo.queue.closed
  · simp only [if_pos closed] at transition
    cases transition
    exact ⟨sound, if_pos closed⟩
  · simp only [if_neg closed] at transition
    by_cases full : fifo.bufferLength ≤ fifo.dataLength
    · have isFull : fifo.queue.capacity ≤ fifo.queue.contents.length := by simpa using full
      simp only [if_pos full] at transition
      cases transition
      exact ⟨sound, (if_neg closed).trans (if_pos isFull)⟩
    · have notFull : ¬fifo.queue.capacity ≤ fifo.queue.contents.length := by simpa using full
      simp only [if_neg full] at transition
      cases transition
      have length : (data.take (min data.length (fifo.bufferLength - fifo.dataLength))).length =
          min data.length (fifo.bufferLength - fifo.dataLength) :=
        List.length_take_of_le (Nat.min_le_left _ _)
      obtain ⟨kept, appended⟩ := @queue_store fifo sound
        (data.take (min data.length (fifo.bufferLength - fifo.dataLength)))
        (min data.length (fifo.bufferLength - fifo.dataLength)) (by omega) (by omega)
      refine ⟨kept, (if_neg closed).trans ((if_neg notFull).trans ?_)⟩
      rw [appended, List.take_take, Nat.min_self]
      simp only [contents_queue, capacity_queue, length_contents]

/-- `GetWriteBuffer` with `ConsumeWriteBuffer` refines the queue. -/
theorem refines_writeBuffer (sound : fifo.Sound) {stored : List UInt8} {used : Nat}
    (permitted : fifo.Permits (.writeBuffer stored used))
    (transition : fifo.step (.writeBuffer stored used) = some (next, emitted)) :
    fifo.Refined (.writeBuffer stored used) next emitted := by
  by_cases closed : fifo.state = .closed
  · have isClosed : fifo.queue.closed := decide_eq_true closed
    simp only [step, getWriteBuffer_closed closed] at transition
    cases transition
    exact ⟨sound, if_pos isClosed⟩
  · obtain ⟨got, size, isGot, soundGot, sameQueue, inside, fits, room⟩ :=
      getWriteBuffer_eq sound closed
    have isOpen : ¬fifo.queue.closed := by simpa [queue] using closed
    obtain ⟨within, counted⟩ := permitted (_, size) (by rw [isGot]; rfl)
    have offered : fifo.offer (.writeBuffer stored used) = size := by
      simp only [offer, isGot, Option.map_some, Option.getD_some]
    have copied := @Memory.write_eq_store got.buffer _ _ stored
      (Nat.le_trans (Nat.add_le_add_left within _) inside)
    have small := soundGot.data_le
    obtain ⟨kept, appended⟩ := @queue_store got soundGot stored used (by omega) counted
    simp only [step, isGot, copied] at transition
    cases transition
    have asked : used ≤ stored.length ∧ stored.length ≤ size ∧
        size ≤ fifo.queue.capacity - fifo.queue.contents.length ∧
        (fifo.queue.contents.length < fifo.queue.capacity → 0 < size) := by
      rw [← sameQueue, contents_queue, length_contents]
      exact ⟨counted, within, fits, room⟩
    have events : (got.consumeWriteBuffer used).2 = fifo.queue.filled used := by
      rw [events_consumeWriteBuffer, sameQueue]
    refine ⟨kept, ?_⟩
    rw [offered, appended, sameQueue]
    refine (if_neg isOpen).trans ((if_pos asked).trans ?_)
    rw [← events]
    rfl

/-- `SetCapacity` refines the queue. -/
theorem refines_setCapacity (sound : fifo.Sound) {size : Nat} {allocated : Memory}
    (permitted : fifo.Permits (.setCapacity size allocated))
    (transition : fifo.step (.setCapacity size allocated) = some (next, emitted)) :
    fifo.Refined (.setCapacity size allocated) next emitted := by
  by_cases small : fifo.dataLength > size
  · have isSmall : size < fifo.queue.contents.length := by simpa using small
    simp only [step, setCapacity, if_pos small] at transition
    cases transition
    exact ⟨sound, if_pos isSmall⟩
  · have notSmall : ¬size < fifo.queue.contents.length := by simpa using small
    obtain ⟨kept, resized, succeeds⟩ :=
      setCapacity_eq sound permitted (Nat.le_of_not_lt small) allocated
    simp only [step, succeeds] at transition
    cases transition
    refine ⟨kept, ?_⟩
    rw [resized]
    exact if_neg notSmall

end Calls

/-- Every permitted call does to the queue what it is for. -/
theorem refines_step (sound : fifo.Sound) {call : FifoCall} (permitted : fifo.Permits call)
    {next : FifoBuffer} {emitted : List FifoOutcome}
    (transition : fifo.step call = some (next, emitted)) : fifo.Refined call next emitted := by
  cases call with
  | read bytes => exact refines_read sound transition
  | readOffset bytes offset => exact refines_readOffset sound transition
  | write data => exact refines_write sound transition
  | readData used => exact refines_readData sound permitted transition
  | writeBuffer stored used => exact refines_writeBuffer sound permitted transition
  | close =>
      cases transition
      exact ⟨⟨sound.data_le, sound.read_lt⟩, rfl⟩
  | setCapacity size allocated => exact refines_setCapacity sound permitted transition
  | getBuffered =>
      cases transition
      refine ⟨sound, ?_⟩
      simp only [FifoQueue.step, contents_queue, length_contents, getBuffered]
  | getWriteRemaining =>
      cases transition
      refine ⟨sound, ?_⟩
      simp only [FifoQueue.step, contents_queue, capacity_queue, length_contents,
        getWriteRemaining]

/-- A call that can do nothing leaves the buffer as it is. -/
theorem step_refused (sound : fifo.Sound) (call : FifoCall) :
    ∃ next outcome, fifo.step call = some (next, [outcome]) ∧
      (outcome.result.refused → next = fifo ∧ outcome.events = []) := by
  cases call with
  | read bytes =>
      simp only [step, read_eq sound]
      split
      · exact ⟨_, _, rfl, fun _ => ⟨rfl, rfl⟩⟩
      · exact ⟨_, _, rfl, fun refused => by cases refused⟩
  | readOffset bytes offset => exact ⟨_, _, rfl, fun _ => ⟨rfl, rfl⟩⟩
  | write data =>
      simp only [step, write_eq]
      split
      · exact ⟨_, _, rfl, fun _ => ⟨rfl, rfl⟩⟩
      · split
        · exact ⟨_, _, rfl, fun _ => ⟨rfl, rfl⟩⟩
        · exact ⟨_, _, rfl, fun refused => by cases refused⟩
  | readData used => exact ⟨_, _, rfl, fun refused => by cases refused⟩
  | writeBuffer stored used =>
      simp only [step]
      by_cases closed : fifo.state = .closed
      · rw [getWriteBuffer_closed closed]
        exact ⟨_, _, rfl, fun _ => ⟨rfl, rfl⟩⟩
      · obtain ⟨got, size, isGot, -⟩ := getWriteBuffer_eq sound closed
        rw [isGot]
        exact ⟨_, _, rfl, fun refused => by cases refused⟩
  | setCapacity size allocated =>
      simp only [step, setCapacity]
      split
      · exact ⟨_, _, rfl, fun _ => ⟨rfl, rfl⟩⟩
      · split <;> exact ⟨_, _, rfl, fun refused => by cases refused⟩
  | close | getBuffered | getWriteRemaining =>
      exact ⟨_, _, rfl, fun refused => by cases refused⟩

/-- A new buffer is sound. -/
theorem Sound.new {size : Nat} (positive : 0 < size) (allocated : Memory) :
    (FifoBuffer.new size allocated).Sound :=
  ⟨Nat.zero_le _, positive⟩

end FifoBuffer

/-- A buffer, with a record of what its calls are offered in one piece. -/
def recordedFifo : Machine (FifoBuffer × List (FifoCall × Nat)) FifoCall FifoOutcome :=
  fifoMachine.watch fun calls fifo call _ => calls ++ [(call, fifo.offer call)]

/-- Under any calls whose callers use no more than they are offered, and that set no capacity
of 0, the buffer does with the same results what a bounded queue does. What it has accepted is
what was taken out and then what it holds, and a call that it refuses changes nothing. -/
theorem fifoBuffer_refines_queue {size : Nat} (positive : 0 < size) (allocated : Memory)
    {calls : List FifoCall} {final : FifoBuffer} {recorded : List (FifoCall × Nat)}
    {outcomes : List FifoOutcome}
    (run : recordedFifo.RunWhere (fun watched call => watched.1.Permits call)
      (.new size allocated, []) calls (final, recorded) outcomes) :
    recorded.map (·.1) = calls ∧
      fifoQueueMachine.Run ⟨[], size, false⟩ recorded final.queue outcomes ∧
      final.contents.length ≤ final.bufferLength ∧
      exchanged FifoCall.accepted calls outcomes =
        exchanged FifoCall.taken calls outcomes ++ final.contents ∧
      ∀ call, ∃ next outcome, fifoMachine.step final call = some (next, [outcome]) ∧
        (outcome.result.refused → next = final ∧ outcome.events = []) := by
  have isCalls : recorded.map (·.1) = calls :=
    run.invariant (fun calls watched _ => watched.2.map (·.1) = calls) rfl (by
      intro calls watched _ call next _ isCalls _ transition
      rw [(Machine.step_of_watch transition).2, List.map_append, isCalls]
      rfl)
  have simulated : final.Sound ∧
      fifoQueueMachine.Run (FifoBuffer.new size allocated).queue recorded final.queue outcomes :=
    @Machine.RunWhere.refines _ _ _ fifoMachine FifoBuffer.Permits _ _ _ fifoQueueMachine
      FifoBuffer.queue (fun fifo call => (call, fifo.offer call)) FifoBuffer.Sound
      (.new positive allocated)
      (fun sound permitted transition => by
        obtain ⟨kept, isStep⟩ := FifoBuffer.refines_step sound permitted transition
        exact ⟨kept, isStep⟩)
      _ _ _ _ run
  obtain ⟨sound, refined⟩ := simulated
  obtain ⟨-, conserved⟩ := FifoQueue.run_conserves refined
  rw [isCalls] at conserved
  refine ⟨isCalls, refined, ?_, conserved, FifoBuffer.step_refused sound⟩
  rw [FifoBuffer.length_contents]
  exact sound.data_le

/-- Four bytes of room: the data come round to the front, are moved by a new capacity, and are
read to the end after the buffer is closed. -/
def wrapAround : List FifoCall :=
  [.write [1, 2, 3], .read 2, .write [4, 5, 6, 7], .write [8], .readOffset 2 1, .readData 1,
    .setCapacity 2 .zero, .setCapacity 5 .zero, .writeBuffer [9, 10] 2, .close, .write [11],
    .read 8, .read 1]

/-- The outcomes of the calls. -/
def wrapAroundOutcomes : List FifoOutcome :=
  [⟨[.read], .wrote .success 3⟩, ⟨[], .read .success 2 [1, 2]⟩, ⟨[], .wrote .success 3⟩,
    ⟨[], .wrote .block 0⟩, ⟨[], .read .success 2 [4, 5]⟩, ⟨[.write], .data [3, 4]⟩,
    ⟨[], .resized false⟩, ⟨[], .resized true⟩, ⟨[], .room (some 2)⟩, ⟨[], .closed⟩,
    ⟨[], .wrote .eos 0⟩, ⟨[.write], .read .success 5 [4, 5, 6, 9, 10]⟩, ⟨[], .read .eos 0 []⟩]

/-- A buffer of four bytes, with data that wraps round. -/
theorem fifoBuffer_refines_queue_wrapped :
    ∃ final recorded,
      recordedFifo.RunWhere (fun watched call => watched.1.Permits call) (.new 4 .zero, [])
        wrapAround (final, recorded) wrapAroundOutcomes ∧
      fifoQueueMachine.Run ⟨[], 4, false⟩ recorded final.queue wrapAroundOutcomes ∧
      exchanged FifoCall.accepted wrapAround wrapAroundOutcomes =
        [1, 2, 3, 4, 5, 6, 9, 10] ++ final.contents ∧
      final.queue = ⟨[], 5, true⟩ := by
  have permitted : recordedFifo.permits (fun watched call => decide (watched.1.Permits call))
      (.new 4 .zero, []) wrapAround = true := by decide +kernel
  have checked : (recordedFifo.exec (.new 4 .zero, []) wrapAround).any (fun result =>
      result.2 = wrapAroundOutcomes ∧ result.1.1.queue = ⟨[], 5, true⟩) = true := by
    decide +kernel
  obtain ⟨⟨final, recorded⟩, outcomes, run, isResult⟩ :=
    Machine.exists_runWhere_of_exec (fun _ _ => of_decide_eq_true) permitted checked
  obtain ⟨rfl, isQueue⟩ := of_decide_eq_true isResult
  obtain ⟨-, refined, -, conserved, -⟩ := fifoBuffer_refines_queue (by decide) .zero run
  exact ⟨final, recorded, run, refined, conserved, isQueue⟩

end VzSdk.Base
