import VzSdk.Std.Loop
import VzSdk.Base.ByteBuffer
import VzSdk.Transport.Frame

/-!
# The parser of `Session`

`processPacketProtocol` and `processInput` are the two nested loops of
`session.cpp`, with their hand-kept offsets. `processInput_eq` connects them to
the format: whatever is unread, the loops leave, hand over exactly the frames
that `frameCode` reads, and keep exactly the rest.
-/

namespace VzSdk.Transport

open VzSdk.Base VzSdk.Std

/-- What `ProcessPacketProtocol` returns when there is no whole packet. -/
def parsePacketNeedMoreData : Int := 0

/-- `offset`, `*read_size` and the calls of `OnHandleInputPacket` so far. -/
structure ParseState where
  offset : Nat
  readSize : Nat
  handled : List Packet

/-- The return value of `ProcessPacketProtocol` with its out-parameter and calls. -/
structure Parsed where
  processSize : Int
  readSize : Nat
  handled : List Packet

/-- A `size_t` returned as `int`. -/
def intOfSize (size : Nat) : Int := (BitVec.ofNat 32 size).toInt

/-- One turn of `while (offset < data_size)`. -/
def parseTurn (host : HostOrder) (data : List UInt8) (state : ParseState) :
    Option (Turn ParseState Parsed) :=
  let needMoreData := Turn.leave ⟨parsePacketNeedMoreData, state.readSize, state.handled⟩
  if state.offset < data.length then
    if data.length - state.offset < headerSize then
      some needMoreData
    else if data.getD state.offset 0 = headerV ∧ data.getD (state.offset + 1) 0 = headerZ then
      let packetType := data.getD (state.offset + 2) 0
      -- The packet number, one byte further, is read and never used.
      let packetSize := (ntohl host (host.load32 ((data.drop (state.offset + 4)).take 4))).toNat
      let offset := state.offset + 8
      if data.length - offset ≥ packetSize then
        some (.again ⟨offset + packetSize, offset + packetSize,
          state.handled ++ [⟨packetType, (data.drop offset).take packetSize⟩]⟩)
      else some needMoreData
    else some needMoreData
  else some (.leave ⟨intOfSize state.offset, state.readSize, state.handled⟩)

/-- `ProcessPacketProtocol`: the packets in the data, one after the other. -/
def processPacketProtocol (host : HostOrder) (data : List UInt8) : Option Parsed :=
  Loop.run (parseTurn host data) (data.length + 1) ⟨0, 0, []⟩

/-- One turn of the `while (1)` of `ProcessInput`; the state is `read_buffer_`
and the calls of `OnHandleInputPacket` so far. -/
def inputTurn (host : HostOrder) (state : NetworkBuffer × List Packet) :
    Option (Turn (NetworkBuffer × List Packet) (NetworkBuffer × List Packet)) :=
  let (readBuffer, handled) := state
  if readBuffer.length = 0 then some (.leave (readBuffer, handled))
  else
    match processPacketProtocol host readBuffer.data with
    | none => none
    | some parsed =>
        let readBuffer :=
          if parsed.readSize ≠ 0 then readBuffer.consume parsed.readSize else readBuffer
        let state := (readBuffer, handled ++ parsed.handled)
        if parsed.processSize = parsePacketNeedMoreData then some (.leave state)
        else some (.again state)

/-- `ProcessInput`: the buffer it leaves and the packets it hands over. -/
def processInput (host : HostOrder) (readBuffer : NetworkBuffer) :
    Option (NetworkBuffer × List Packet) :=
  Loop.run (inputTurn host) (readBuffer.length + 1) (readBuffer, [])

/-! ## What the inner loop does -/

/-- At a position that starts no frame, the loop leaves and keeps its counters. -/
theorem parseTurn_of_read_none (host : HostOrder) {data : List UInt8} {state : ParseState}
    (bounded : state.offset ≤ data.length)
    (stuck : frameCode.read (data.drop state.offset) = none) :
    ∃ processSize, parseTurn host data state =
        some (.leave ⟨processSize, state.readSize, state.handled⟩) ∧
      (processSize ≠ parsePacketNeedMoreData → state.offset = data.length) := by
  by_cases inside : state.offset < data.length
  · refine ⟨parsePacketNeedMoreData, ?_, fun differs => absurd rfl differs⟩
    by_cases short : data.length - state.offset < headerSize
    · simp [parseTurn, inside, short]
    · have long : headerSize ≤ (data.drop state.offset).length := by
        rw [List.length_drop]
        omega
      obtain ⟨v, z, packetType, packetNumber, a, b, c, d, body, shape⟩ := eq_header_of_length long
      have sizes := congrArg List.length shape
      simp only [List.length_drop, List.length_cons] at sizes
      have first : data.getD state.offset 0 = v := by
        simpa [List.getD_eq_getElem?_getD] using congrArg (·.getD 0 0) shape
      have second : data.getD (state.offset + 1) 0 = z := by
        simpa [List.getD_eq_getElem?_getD] using congrArg (·.getD 1 0) shape
      have size : (data.drop (state.offset + 4)).take 4 = [a, b, c, d] := by
        rw [← List.drop_drop, shape]
        rfl
      have refused : ¬(v = headerV ∧ z = headerZ ∧ (getBE32 [a, b, c, d]).toNat ≤ body.length) := by
        intro accepted
        rw [shape] at stuck
        simp [frameCode, Frame.read, accepted] at stuck
      by_cases magic : v = headerV ∧ z = headerZ
      · have tooShort : ¬data.length - (state.offset + 8) ≥
            (ntohl host (host.load32 [a, b, c, d])).toNat := by
          rw [ntohl_load32 host rfl]
          intro enough
          exact refused ⟨magic.1, magic.2, by omega⟩
        simp only [parseTurn, inside, short, first, second, size, magic, if_true, if_false,
          and_self, tooShort]
      · simp only [parseTurn, inside, short, first, second, magic, if_true, if_false]
  · have ended : state.offset = data.length := by omega
    exact ⟨intOfSize state.offset, by simp [parseTurn, inside], fun _ => ended⟩

/-- At a position that starts a frame, the loop hands it over and steps behind it. -/
theorem parseTurn_of_read_some (host : HostOrder) {data rest : List UInt8} {state : ParseState}
    {frame : Frame} (success : frameCode.read (data.drop state.offset) = some (frame, rest)) :
    parseTurn host data state =
        some (.again ⟨state.offset + frame.encode.length, state.offset + frame.encode.length,
          state.handled ++ [frame.packet]⟩) := by
  have shape : data.drop state.offset = frame.encode ++ rest := frameCode.encode_of_read success
  have sizes := congrArg List.length shape
  have encoded : frame.encode.length = 8 + frame.payload.length := by
    rw [Frame.encode, List.length_append, Frame.length_header, headerSize]
  rw [List.length_drop, List.length_append, encoded] at sizes
  have inside : state.offset < data.length := by omega
  have long : ¬data.length - state.offset < headerSize := by
    rw [headerSize]
    omega
  have spelled : data.drop state.offset =
      [headerV, headerZ, frame.packetType, frame.packetNumber] ++
        (setBE32 (UInt32.ofNat frame.payload.length) ++ (frame.payload ++ rest)) := by
    rw [shape, Frame.encode, Frame.header]
    simp only [List.append_assoc]
  have first : data.getD state.offset 0 = headerV := by
    simpa [List.getD_eq_getElem?_getD] using congrArg (·.getD 0 0) spelled
  have second : data.getD (state.offset + 1) 0 = headerZ := by
    simpa [List.getD_eq_getElem?_getD] using congrArg (·.getD 1 0) spelled
  have third : data.getD (state.offset + 2) 0 = frame.packetType := by
    simpa [List.getD_eq_getElem?_getD] using congrArg (·.getD 2 0) spelled
  have size : (ntohl host (host.load32 ((data.drop (state.offset + 4)).take 4))).toNat =
      frame.payload.length := by
    have field : (data.drop (state.offset + 4)).take 4 =
        setBE32 (UInt32.ofNat frame.payload.length) := by
      rw [← List.drop_drop, spelled]
      exact List.take_left' (length_setBE32 _)
    rw [field, ntohl_load32 host (length_setBE32 _), getBE32_setBE32, Frame.toNat_size]
  have payload : (data.drop (state.offset + 8)).take frame.payload.length = frame.payload := by
    have behind : data.drop (state.offset + 8) = frame.payload ++ rest := by
      rw [← List.drop_drop, shape, Frame.encode, List.append_assoc]
      exact List.drop_left' (Frame.length_header frame)
    rw [behind]
    exact List.take_left' rfl
  have enough : data.length - (state.offset + 8) ≥ frame.payload.length := by omega
  simp only [parseTurn, inside, long, first, second, third, size, payload, enough, if_true,
    if_false, and_self, encoded, Frame.packet, Nat.add_assoc]

/-- Frame boundaries are the loop invariant: everything before `offset` is the
frames handed over so far, and `*read_size` is `offset`. -/
structure ParseInvariant (data : List UInt8) (state : ParseState) (frames : List Frame) : Prop where
  bounded : state.offset ≤ data.length
  readSize : state.readSize = state.offset
  boundary : frameCode.encodeAll frames ++ data.drop state.offset = data
  handled : state.handled = frames.map Frame.packet

/-- What `ProcessPacketProtocol` leaves: it has handed over the frames of `data`
and counted exactly their bytes. -/
structure ParseResult (data : List UInt8) (parsed : Parsed) : Prop where
  handled : parsed.handled = (frameCode.readAll data).1.map Frame.packet
  rest : data.drop parsed.readSize = (frameCode.readAll data).2
  bounded : parsed.readSize ≤ data.length
  consumed : parsed.processSize ≠ parsePacketNeedMoreData → parsed.readSize = data.length

/-- `ProcessPacketProtocol` returns, with the packets that the data begins with. -/
theorem processPacketProtocol_result (host : HostOrder) (data : List UInt8) :
    ∃ parsed, processPacketProtocol host data = some parsed ∧ ParseResult data parsed := by
  refine Loop.total (fun state => ∃ frames, ParseInvariant data state frames) (ParseResult data)
    (fun state => data.length - state.offset) ?_ ⟨[], ⟨by simp, rfl, by simp, rfl⟩⟩ (by simp)
  rintro state ⟨frames, invariant⟩
  cases success : frameCode.read (data.drop state.offset) with
  | none =>
      left
      obtain ⟨processSize, turn, ended⟩ := parseTurn_of_read_none host invariant.bounded success
      have all : frameCode.readAll data = (frames, data.drop state.offset) := by
        have read := frameCode.readAll_encodeAll frames success
        rwa [invariant.boundary] at read
      refine ⟨_, turn, ?_, ?_, ?_, ?_⟩
      · rw [all, invariant.handled]
      · rw [all, invariant.readSize]
      · rw [invariant.readSize]
        exact invariant.bounded
      · rw [invariant.readSize]
        exact ended
  | some pair =>
      right
      obtain ⟨frame, rest⟩ := pair
      have shape : data.drop state.offset = frame.encode ++ rest := frameCode.encode_of_read success
      have sizes := congrArg List.length shape
      have positive : 0 < frame.encode.length := List.length_pos_iff.mpr frame.encode_ne_nil
      rw [List.length_drop, List.length_append] at sizes
      refine ⟨_, parseTurn_of_read_some host success, ⟨frames ++ [frame], ⟨?_, rfl, ?_, ?_⟩⟩, ?_⟩
      · simp only
        omega
      · have behind : data.drop (state.offset + frame.encode.length) = rest := by
          rw [← List.drop_drop, shape]
          exact List.drop_left' rfl
        have whole := invariant.boundary
        rw [shape] at whole
        rw [behind, frameCode.encodeAll_append]
        simpa [frameCode, PrefixCode.encodeAll] using whole
      · simp [invariant.handled]
      · simp only
        omega

/-! ## What the outer loop does -/

/-- `ProcessInput` leaves on every buffer, hands over the frames the unread
bytes start with, and keeps the rest unread. -/
theorem processInput_eq (host : HostOrder) (readBuffer : NetworkBuffer) :
    ∃ left, processInput host readBuffer =
        some (left, (frameCode.readAll readBuffer.data).1.map Frame.packet) ∧
      left.data = (frameCode.readAll readBuffer.data).2 := by
  -- The second turn, if there is one, finds nothing unread.
  obtain ⟨parsed, success, result⟩ := processPacketProtocol_result host readBuffer.data
  by_cases empty : readBuffer.length = 0
  · have none : readBuffer.data = [] := List.length_eq_zero_iff.mp (by simpa using empty)
    have turn : inputTurn host (readBuffer, []) = some (.leave (readBuffer, [])) := by
      simp [inputTurn, empty]
    have nothing : frameCode.readAll readBuffer.data = ([], []) := by
      rw [none]
      exact frameCode.readAll_none (frameCode_read_none_of_short (by simp [headerSize]))
    refine ⟨readBuffer, ?_, by rw [nothing, none]⟩
    rw [processInput, Loop.run_leave turn, nothing]
    rfl
  · let left := if parsed.readSize ≠ 0 then readBuffer.consume parsed.readSize else readBuffer
    have leftData : left.data = (frameCode.readAll readBuffer.data).2 := by
      rw [← result.rest]
      by_cases some : parsed.readSize ≠ 0
      · simp only [left, some, ne_eq, not_false_eq_true, if_true]
        exact NetworkBuffer.data_consume (by simpa using result.bounded)
      · have zero : parsed.readSize = 0 := by omega
        simp [left, zero]
    refine ⟨left, ?_, leftData⟩
    by_cases needMore : parsed.processSize = parsePacketNeedMoreData
    · have turn : inputTurn host (readBuffer, []) = some (.leave (left, parsed.handled)) := by
        simp [inputTurn, empty, success, needMore, left]
      rw [processInput, Loop.run_leave turn, result.handled]
    · have turn : inputTurn host (readBuffer, []) = some (.again (left, parsed.handled)) := by
        simp [inputTurn, empty, success, needMore, left]
      obtain ⟨spare, fuel⟩ : ∃ spare, readBuffer.length = spare + 1 :=
        ⟨readBuffer.length - 1, by omega⟩
      have nothing : left.length = 0 := by
        rw [← NetworkBuffer.length_data, leftData, ← result.rest, result.consumed needMore]
        simp
      have last : inputTurn host (left, parsed.handled) = some (.leave (left, parsed.handled)) := by
        simp [inputTurn, nothing]
      rw [processInput, Loop.run_again turn, fuel, Loop.run_leave last, result.handled]

/-! ## What waiting for more data can bring -/

/-- When the unread bytes start no frame, the next frame is decided by what comes. -/
theorem processInput_continued (host : HostOrder) (readBuffer : NetworkBuffer)
    (continuation : List UInt8) :
    ∃ left, processInput host (readBuffer.writeBytes continuation) =
        some (left, (frameCode.readAll (readBuffer.data ++ continuation)).1.map Frame.packet) ∧
      left.data = (frameCode.readAll (readBuffer.data ++ continuation)).2 := by
  simpa using processInput_eq host (readBuffer.writeBytes continuation)

/-- `PARSE_PACKET_NEED_MORE_DATA` is only answered where some continuation of the bytes
left unconsumed makes `ProcessInput` hand over another packet. -/
def NeedMoreDataHonest (host : HostOrder) (readBuffer : NetworkBuffer) : Prop :=
  ∀ parsed, processPacketProtocol host readBuffer.data = some parsed →
    parsed.processSize = parsePacketNeedMoreData →
      ∃ continuation left packets,
        processInput host ((readBuffer.consume parsed.readSize).writeBytes continuation) =
          some (left, packets) ∧ packets ≠ []

/-- Behind bytes that do not start like a frame every continuation is only stored: no
packet is handed over and no byte is given up. -/
theorem processInput_of_not_startsLikeFrame (host : HostOrder) {readBuffer : NetworkBuffer}
    (bad : ¬StartsLikeFrame readBuffer.data) (continuation : List UInt8) :
    ∃ left, processInput host (readBuffer.writeBytes continuation) = some (left, []) ∧
      left.data = readBuffer.data ++ continuation := by
  have stuck : frameCode.read (readBuffer.data ++ continuation) = none := by
    cases success : frameCode.read (readBuffer.data ++ continuation) with
    | none => rfl
    | some pair => exact absurd ((exists_read_append_iff _).mp ⟨continuation, by simp [success]⟩) bad
  obtain ⟨left, success, rest⟩ := processInput_continued host readBuffer continuation
  rw [frameCode.readAll_none stuck] at success rest
  exact ⟨left, success, rest⟩

/-- Bytes that start like a frame can be continued to one. -/
theorem exists_processInput_of_startsLikeFrame (host : HostOrder) {readBuffer : NetworkBuffer}
    (starts : StartsLikeFrame readBuffer.data) :
    ∃ continuation left packets,
      processInput host (readBuffer.writeBytes continuation) = some (left, packets) ∧
        packets ≠ [] := by
  obtain ⟨continuation, success⟩ := (exists_read_append_iff _).mpr starts
  obtain ⟨⟨frame, rest⟩, success⟩ := Option.isSome_iff_exists.mp success
  obtain ⟨left, delivered, _⟩ := processInput_continued host readBuffer continuation
  rw [frameCode.readAll_some success] at delivered
  exact ⟨continuation, left, _, delivered, by simp⟩

/-- What `ProcessPacketProtocol` leaves unconsumed is what is left behind the leading frames. -/
theorem ParseResult.data_consume {readBuffer : NetworkBuffer} {parsed : Parsed}
    (result : ParseResult readBuffer.data parsed) :
    (readBuffer.consume parsed.readSize).data = (frameCode.readAll readBuffer.data).2 := by
  rw [NetworkBuffer.data_consume (by simpa using result.bounded), result.rest]

/-- An unconsumed rest is always answered with `PARSE_PACKET_NEED_MORE_DATA`. -/
theorem ParseResult.needMoreData {data : List UInt8} {parsed : Parsed}
    (result : ParseResult data parsed) (rest : (frameCode.readAll data).2 ≠ []) :
    parsed.processSize = parsePacketNeedMoreData := by
  refine Decidable.byContradiction fun differs => ?_
  have whole := result.rest
  rw [result.consumed differs, List.drop_length] at whole
  exact rest whole.symm

/-- The bytes behind the last complete leading frame decide. If, as far as they are there,
their first two are the magic bytes, waiting is honest; if not, the parser asks for more
data although every continuation only grows the buffer. -/
theorem needMoreDataHonest_iff (host : HostOrder) (readBuffer : NetworkBuffer) :
    (NeedMoreDataHonest host readBuffer ↔
      StartsLikeFrame (frameCode.readAll readBuffer.data).2) ∧
    (¬StartsLikeFrame (frameCode.readAll readBuffer.data).2 →
      ∃ parsed, processPacketProtocol host readBuffer.data = some parsed ∧
        parsed.processSize = parsePacketNeedMoreData ∧
        ∀ continuation, ∃ left,
          processInput host ((readBuffer.consume parsed.readSize).writeBytes continuation) =
              some (left, []) ∧
            left.data = (frameCode.readAll readBuffer.data).2 ++ continuation) := by
  obtain ⟨parsed, success, result⟩ := processPacketProtocol_result host readBuffer.data
  have rest := result.data_consume
  have stored (bad : ¬StartsLikeFrame (frameCode.readAll readBuffer.data).2) :
      parsed.processSize = parsePacketNeedMoreData ∧
        ∀ continuation, ∃ left,
          processInput host ((readBuffer.consume parsed.readSize).writeBytes continuation) =
              some (left, []) ∧
            left.data = (frameCode.readAll readBuffer.data).2 ++ continuation := by
    refine ⟨result.needMoreData ?_, fun continuation => ?_⟩
    · intro empty
      rw [empty] at bad
      exact bad (by decide)
    · rw [← rest] at bad ⊢
      exact processInput_of_not_startsLikeFrame host bad continuation
  refine ⟨⟨fun honest => ?_, fun starts => ?_⟩, fun bad => ⟨parsed, success, stored bad⟩⟩
  · refine Decidable.byContradiction fun bad => ?_
    obtain ⟨needMore, grows⟩ := stored bad
    obtain ⟨continuation, left, packets, delivered, some⟩ := honest parsed success needMore
    obtain ⟨grown, nothing, _⟩ := grows continuation
    rw [nothing] at delivered
    cases delivered
    exact some rfl
  · intro answered evaluated _
    rw [success] at evaluated
    cases evaluated
    rw [← rest] at starts
    exact exists_processInput_of_startsLikeFrame host starts

/-- A peer that answers with a line of text instead of a frame. -/
def strayLine : NetworkBuffer := NetworkBuffer.new.writeBytes [72, 84, 84, 80, 47, 49, 46, 49]

/-- `"HTTP/1.1"` is answered with `PARSE_PACKET_NEED_MORE_DATA` and no continuation helps. -/
theorem needMoreData_for_stray_line : ¬NeedMoreDataHonest .littleEndian strayLine := by
  intro honest
  have bytes : strayLine.data = [72, 84, 84, 80, 47, 49, 46, 49] := by simp [strayLine]
  have stuck : frameCode.readAll strayLine.data = ([], strayLine.data) := by
    refine frameCode.readAll_none ?_
    rw [bytes]
    rfl
  obtain ⟨parsed, success, result⟩ := processPacketProtocol_result .littleEndian strayLine.data
  have needMore := result.needMoreData (by rw [stuck, bytes]; decide)
  obtain ⟨continuation, left, packets, delivered, some⟩ := honest parsed success needMore
  have bad : ¬StartsLikeFrame (strayLine.consume parsed.readSize).data := by
    rw [result.data_consume, stuck, bytes]
    decide
  obtain ⟨grown, nothing, _⟩ := processInput_of_not_startsLikeFrame .littleEndian bad continuation
  rw [nothing] at delivered
  cases delivered
  exact some rfl

end VzSdk.Transport
