import VzSdk.Std.PrefixCode
import VzSdk.Base.ByteOrder

/-!
# The frame format

A frame is `'V' 'Z'`, a packet type, a packet number, a big-endian 32-bit
length and that many payload bytes. `frameCode` is the format as a
self-delimiting code: it says which byte strings are frames, independently of
the parser of `Session`.
-/

namespace VzSdk.Transport

open VzSdk.Base VzSdk.Std

/-- The type of a heartbeat. -/
def packetTypeHeartbeat : UInt8 := 0x01

/-- The type of a binary packet. -/
def packetTypeBinary : UInt8 := 0x02

/-- The type of a packet of JSON text. -/
def packetTypeJson : UInt8 := 0x00

/-- The first byte of a header, a `V`. -/
def headerV : UInt8 := 86

/-- The second byte of a header, a `Z`. -/
def headerZ : UInt8 := 90

/-- The size of a header. -/
def headerSize : Nat := 8

/-- What `OnHandleInputPacket` receives. -/
structure Packet where
  packetType : UInt8
  payload : List UInt8
deriving DecidableEq, Repr

/-- A complete frame; its length field can express the payload. -/
structure Frame where
  packetType : UInt8
  packetNumber : UInt8
  payload : List UInt8
  fits : payload.length < 2 ^ 32

namespace Frame

/-- The packet that a frame holds. -/
def packet (frame : Frame) : Packet := ⟨frame.packetType, frame.payload⟩

/-- Frames are equal when their parts are. -/
@[ext] theorem ext {left right : Frame} (packetType : left.packetType = right.packetType)
    (packetNumber : left.packetNumber = right.packetNumber)
    (payload : left.payload = right.payload) : left = right := by
  cases left
  cases right
  cases packetType
  cases packetNumber
  cases payload
  rfl

/-- The header of a frame. -/
def header (frame : Frame) : List UInt8 :=
  [headerV, headerZ, frame.packetType, frame.packetNumber] ++
    setBE32 (UInt32.ofNat frame.payload.length)

/-- The bytes of a frame. -/
def encode (frame : Frame) : List UInt8 := frame.header ++ frame.payload

/-- Every header has the same size. -/
@[simp] theorem length_header (frame : Frame) : frame.header.length = headerSize := by
  simp [header, headerSize]

/-- The frame an input starts with, and the input behind it. -/
def read : List UInt8 → Option (Frame × List UInt8)
  | v :: z :: packetType :: packetNumber :: a :: b :: c :: d :: body =>
      let size := (getBE32 [a, b, c, d]).toNat
      if v = headerV ∧ z = headerZ ∧ size ≤ body.length then
        some (⟨packetType, packetNumber, body.take size, by
          have small := (getBE32 [a, b, c, d]).toNat_lt
          rw [List.length_take]
          omega⟩, body.drop size)
      else none
  | _ => none

/-- The size of the payload fits the header. -/
theorem toNat_size (frame : Frame) :
    (UInt32.ofNat frame.payload.length).toNat = frame.payload.length :=
  UInt32.toNat_ofNat_of_lt' frame.fits

/-- A number of four bytes. -/
private theorem setBE32_shape (value : UInt32) : ∃ a b c d, setBE32 value = [a, b, c, d] :=
  ⟨_, _, _, _, rfl⟩

/-- A frame is read back, and what is behind it is left. -/
theorem read_encode (frame : Frame) (rest : List UInt8) :
    read (frame.encode ++ rest) = some (frame, rest) := by
  obtain ⟨a, b, c, d, bytes⟩ := setBE32_shape (UInt32.ofNat frame.payload.length)
  have size : getBE32 [a, b, c, d] = UInt32.ofNat frame.payload.length := by
    rw [← bytes, getBE32_setBE32]
  have shape : frame.encode ++ rest =
      headerV :: headerZ :: frame.packetType :: frame.packetNumber :: a :: b :: c :: d ::
        (frame.payload ++ rest) := by
    simp [encode, header, bytes]
  rw [shape]
  simp only [read, size, toNat_size, List.length_append, Nat.le_add_right, and_self, if_true,
    Option.some.injEq, Prod.mk.injEq]
  exact ⟨by ext <;> simp, by simp⟩

/-- What is read as a frame is the bytes of that frame. -/
theorem encode_of_read {input rest : List UInt8} {frame : Frame}
    (success : read input = some (frame, rest)) : input = frame.encode ++ rest := by
  unfold read at success
  split at success
  · next v z packetType packetNumber a b c d body =>
      simp only at success
      split at success
      · next accepted =>
          obtain ⟨rfl, rfl, enough⟩ := accepted
          cases success
          have len : (body.take (getBE32 [a, b, c, d]).toNat).length =
              (getBE32 [a, b, c, d]).toNat := by
            rw [List.length_take]
            omega
          have bytes : setBE32 (getBE32 [a, b, c, d]) = [a, b, c, d] := setBE32_getBE32 rfl
          simp [encode, header, Nat.min_eq_left enough, bytes]
      · cases success
  · cases success

/-- A frame is not empty. -/
theorem encode_ne_nil (frame : Frame) : frame.encode ≠ [] := by
  simp [encode, header]

end Frame

/-- Frames as a self-delimiting code over bytes. -/
def frameCode : PrefixCode Frame UInt8 where
  encode := Frame.encode
  read := Frame.read
  encode_ne_nil := Frame.encode_ne_nil
  read_encode := Frame.read_encode
  encode_of_read := Frame.encode_of_read

/-- An input too short for a header starts with no frame. -/
theorem frameCode_read_none_of_short {input : List UInt8} (short : input.length < headerSize) :
    frameCode.read input = none := by
  change Frame.read input = none
  unfold Frame.read
  split
  · next v z packetType packetNumber a b c d body =>
      simp only [headerSize, List.length_cons] at short
      omega
  · rfl

/-- The eight header bytes of an input that has them. -/
theorem eq_header_of_length {input : List UInt8} (long : headerSize ≤ input.length) :
    ∃ v z packetType packetNumber a b c d body,
      input = v :: z :: packetType :: packetNumber :: a :: b :: c :: d :: body := by
  match input with
  | v :: z :: packetType :: packetNumber :: a :: b :: c :: d :: body =>
      exact ⟨v, z, packetType, packetNumber, a, b, c, d, body, rfl⟩
  | [] | [_] | [_, _] | [_, _, _] | [_, _, _, _] | [_, _, _, _, _] | [_, _, _, _, _, _]
  | [_, _, _, _, _, _, _] => simp [headerSize] at long

/-! ## Inputs that can still become a frame -/

/-- As far as they are there, the first two bytes are the magic bytes. -/
def StartsLikeFrame (input : List UInt8) : Prop := input.take 2 <+: [headerV, headerZ]

instance (input : List UInt8) : Decidable (StartsLikeFrame input) :=
  inferInstanceAs (Decidable (_ <+: _))

/-- What is read as a frame starts like one. -/
theorem startsLikeFrame_of_read {input rest : List UInt8} {frame : Frame}
    (success : frameCode.read input = some (frame, rest)) : StartsLikeFrame input := by
  have shape : input = frame.encode ++ rest := frameCode.encode_of_read success
  rw [shape, StartsLikeFrame, Frame.encode, Frame.header]
  exact List.prefix_rfl

/-- Whatever the length field of a header with the right magic bytes says, enough
further bytes make a frame. -/
theorem exists_read_of_header {input : List UInt8} (long : headerSize ≤ input.length)
    (starts : StartsLikeFrame input) :
    ∃ continuation, (frameCode.read (input ++ continuation)).isSome := by
  obtain ⟨v, z, packetType, packetNumber, a, b, c, d, body, rfl⟩ := eq_header_of_length long
  obtain ⟨rfl, rfl⟩ : v = headerV ∧ z = headerZ := by simpa [StartsLikeFrame] using starts
  refine ⟨List.replicate (getBE32 [a, b, c, d]).toNat 0, ?_⟩
  simp [frameCode, Frame.read]

/-- Exactly the inputs that start like a frame can be continued to one. -/
theorem exists_read_append_iff (input : List UInt8) :
    (∃ continuation, (frameCode.read (input ++ continuation)).isSome) ↔ StartsLikeFrame input := by
  constructor
  · rintro ⟨continuation, success⟩
    obtain ⟨⟨frame, rest⟩, success⟩ := Option.isSome_iff_exists.mp success
    have starts := startsLikeFrame_of_read success
    rw [StartsLikeFrame, List.take_append] at starts
    exact (List.prefix_append _ _).trans starts
  · intro starts
    -- First fill the header up, then let its length field decide.
    obtain ⟨padding, long, filled⟩ : ∃ padding, headerSize ≤ (input ++ padding).length ∧
        StartsLikeFrame (input ++ padding) := by
      match input, starts with
      | [], _ => exact ⟨[headerV, headerZ, 0, 0, 0, 0, 0, 0], by decide, by decide⟩
      | [v], starts =>
          obtain rfl : v = headerV := by simpa [StartsLikeFrame] using starts
          exact ⟨[headerZ, 0, 0, 0, 0, 0, 0], by decide, by decide⟩
      | v :: z :: rest, starts =>
          refine ⟨[0, 0, 0, 0, 0, 0], by simp [headerSize], starts⟩
    obtain ⟨continuation, success⟩ := exists_read_of_header long filled
    exact ⟨padding ++ continuation, by rwa [← List.append_assoc]⟩

end VzSdk.Transport
