import VzSdk.Jsoncpp.Documents
import VzSdk.Sdk.Payload
import VzSdk.Transport.Stream

/-!
# JSON over a session

The way of a JSON value from one end to the other: `OnRequestMessage` writes it to
the session, the bytes go out as the socket takes them and come in as they are
received, and `OnSessionPacketEvent` gives each packet up to its first NUL to the
reader.
-/

namespace VzSdk.Sdk

open VzSdk.Base VzSdk.Event VzSdk.Transport VzSdk.Std VzSdk.Jsoncpp
open VzSdk.Std.JsonSyntax

/-- `SignalSessionPacketEvent`: the packets that `OnHandleInputPacket` signals. -/
def signalled (packets : List Packet) : List Packet :=
  packets.filter fun packet =>
    packet.packetType = packetTypeJson || packet.packetType = packetTypeBinary

/-- What the reader of `OnSessionPacketEvent` makes of a text, if it accepts it. -/
def readJson (scanDouble : List UInt8 → Option String) (past : UInt8) (text : List UInt8) :
    Option Json :=
  let parsed := parse scanDouble past text
  if parsed.successful then some parsed.root else none

section

variable {scanDouble : List UInt8 → Option String}

/-- Up to the first NUL. -/
theorem take_findEndString {text : List UInt8} (nonzero : ∀ byte ∈ text, byte ≠ 0)
    (behind : List UInt8) (ends : behind.head? = none ∨ behind.head? = some 0) :
    (text ++ behind).take (findEndString (text ++ behind)) = text := by
  induction text with
  | nil =>
      cases behind with
      | nil => rfl
      | cons byte behind =>
          have isEnd : byte = 0 := by simpa using ends
          simp [findEndString, isEnd, List.findIdx_cons]
  | cons byte text inductionHypothesis =>
      obtain ⟨first, later⟩ := List.forall_mem_cons.mp nonzero
      have next := inductionHypothesis later
      simp only [findEndString] at next ⊢
      simp [List.findIdx_cons, first, next]

/-! ## What the device sends -/

/-- A packet as a device may send it: a JSON text in any form, and binary data behind a NUL. -/
structure TextPacket where
  packetType : UInt8
  packetNumber : UInt8
  signalled : packetType = packetTypeJson ∨ packetType = packetTypeBinary
  before : Gap
  phrase : Phrase
  after : Spaces
  nonzero : ∀ byte ∈ before.text ++ (phrase.text ++ after.text), byte ≠ 0
  /-- Nothing, or a NUL and more. -/
  behind : List UInt8
  ends : behind.head? = none ∨ behind.head? = some 0
  fits : (before.text ++ (phrase.text ++ after.text) ++ behind).length < 2 ^ 31

namespace TextPacket

/-- The payload: the text with what stands before, after and behind it. -/
def payload (packet : TextPacket) : List UInt8 :=
  packet.before.text ++ (packet.phrase.text ++ packet.after.text) ++ packet.behind

/-- The packet as it is sent. -/
def frame (packet : TextPacket) : Frame :=
  ⟨packet.packetType, packet.packetNumber, packet.payload,
    Nat.lt_trans packet.fits (by decide)⟩

/-- A session reads from the payload what the phrase says. -/
theorem packetAnswer_payload (total : ∀ number : Number, (scanDouble number.text).isSome)
    (packet : TextPacket) (past : UInt8) :
    packetAnswer (readJson scanDouble past) packet.payload =
      ⟨some (packet.phrase.eval (meaning scanDouble)), packet.payload, none⟩ := by
  have small := packet.fits
  simp only [List.length_append] at small
  have delimits : Delimits (packet.after.text ++ []) := by
    refine delimits_of_head (fun byte first => .inl ?_) fun _ first => by cases first
    exact packet.after.areSpaces byte (List.mem_of_mem_head? first)
  rw [List.append_nil] at delimits
  have accepted : parse scanDouble past
      (packet.before.text ++ (packet.phrase.text ++ packet.after.text)) = _ :=
    (readsPhrase total packet.phrase).parse_eq packet.before delimits (by
      simp only [List.length_append]
      omega)
  rw [packetAnswer, payload, take_findEndString packet.nonzero _ packet.ends, readJson, accepted]
  rfl

end TextPacket

/-- The answer that is posted for a packet is what a text means, whatever lies behind the packet in
memory. -/
def AnsweredAs (scanDouble : List UInt8 → Option String) (packet : Packet) (text : TextPacket) : Prop :=
  ∀ past, packetAnswer (readJson scanDouble past) packet.payload =
    ⟨some (text.phrase.eval (meaning scanDouble)), text.payload, none⟩

/-- All packets of text are signalled. -/
theorem signalled_texts (texts : List TextPacket) :
    signalled ((texts.map TextPacket.frame).map Frame.packet) =
      (texts.map TextPacket.frame).map Frame.packet := by
  refine List.filter_eq_self.mpr fun packet member => ?_
  obtain ⟨frame, isFrame, rfl⟩ := List.mem_map.mp member
  obtain ⟨text, _, rfl⟩ := List.mem_map.mp isFrame
  rcases text.signalled with isType | isType
  · simp [Frame.packet, TextPacket.frame, isType]
  · simp [Frame.packet, TextPacket.frame, isType]

/-- Whatever the device sends, however it is cut on its way and whatever stands in the texts, the
session manager posts what the texts mean, each once and in the order they were sent. -/
theorem answers_of_texts (total : ∀ number : Number, (scanDouble number.text).isSome)
    (host : HostOrder) (texts : List TextPacket) {session : Session}
    (fresh : session.readBuffer.data = []) (chunks : List (List UInt8 × UInt32))
    (stream : chunks.flatMap (·.1) = frameCode.encodeAll (texts.map TextPacket.frame)) :
    ∃ next packets, Session.receiveAll host chunks session = some (next, packets.map .handled) ∧
      next.readBuffer.data = [] ∧
      List.Forall₂ (AnsweredAs scanDouble) (signalled packets) texts := by
  have nothing : frameCode.read [] = none := frameCode_read_none_of_short (by simp [headerSize])
  have decoded := frameCode.readAll_encodeAll (texts.map TextPacket.frame) nothing
  rw [List.append_nil] at decoded
  obtain ⟨next, received, left⟩ :=
    Session.receiveAll_eq host chunks session (by rw [fresh]; exact nothing)
  rw [fresh, List.nil_append, stream, decoded] at received left
  refine ⟨next, _, received, left, ?_⟩
  rw [signalled_texts, List.map_map, List.forall₂_map_left_iff, List.forall₂_same]
  exact fun text _ => text.packetAnswer_payload total

/-- A packet with an image behind its text. -/
def imageText : TextPacket where
  packetType := packetTypeBinary
  packetNumber := 0
  signalled := .inr rfl
  before := []
  phrase := onePhrase
  after := .one 9 rfl
  nonzero := nonzero_of_all (by decide +kernel)
  behind := [0, 255]
  ends := .inr rfl
  fits := by decide +kernel

/-- A packet with a comment. -/
def commentText : TextPacket where
  packetType := packetTypeJson
  packetNumber := 4
  signalled := .inl rfl
  before := [.block [110] (by decide)]
  phrase := onePhrase
  after := .none
  nonzero := nonzero_of_all (by decide +kernel)
  behind := []
  ends := .inl rfl
  fits := by decide +kernel

/-- Two packets come in two pieces, and are answered as they say. -/
theorem answers_of_texts_two :
    ∃ next packets, Session.receiveAll .littleEndian
        [([86, 90, 2, 0, 0, 0, 0, 7, 91, 45, 55, 93, 9, 0, 255, 86, 90, 0], 1),
          ([4, 0, 0, 0, 9, 47, 42, 110, 42, 47, 91, 45, 55, 93], 2)] (Session.new 3) =
        some (next, packets.map .handled) ∧
      next.readBuffer.data = [] ∧
      List.Forall₂ (AnsweredAs scanPlain) (signalled packets) [imageText, commentText] :=
  answers_of_texts scanPlain_total .littleEndian [imageText, commentText] rfl
    [([86, 90, 2, 0, 0, 0, 0, 7, 91, 45, 55, 93, 9, 0, 255, 86, 90, 0], 1),
      ([4, 0, 0, 0, 9, 47, 42, 110, 42, 47, 91, 45, 55, 93], 2)] (by decide +kernel)

/-! ## What the session manager sends -/

/-- What happens to a session: a request of the session manager, or something that writes no
packet but heartbeats. -/
inductive Sending where
  | request (json : Json) (holds : Held storedNumbers json) (fits : (write json).length < 2 ^ 31)
      (result : SendResult)
  | other (event : Transport.Event) (silent : ∀ data size type result,
      event ≠ .asyncWrite data size type result)

namespace Sending

/-- `OnRequestMessage` writes the text of the value. -/
def event : Sending → Transport.Event
  | request json _ _ result =>
      .asyncWrite (some (write json)) (.ofNat (write json).length) packetTypeJson result
  | other event _ => event

/-- The request that is sent, if it is one. -/
def request? : Sending → Option Json
  | request json _ _ _ => some json
  | other _ _ => none

/-- The frames that are written. -/
def frames : Sending → List Frame
  | request json _ fits _ => [⟨packetTypeJson, 0, write json, Nat.lt_trans fits (by decide)⟩]
  | other (.timer _ _) _ => [⟨packetTypeHeartbeat, 0, [], by decide⟩]
  | other _ _ => []

/-- What is written for a packet is its frames. -/
theorem written_event (sending : Sending) :
    sending.event.written = frameCode.encodeAll sending.frames := by
  cases sending with
  | request json holds fits result =>
      let call : WriteCall := ⟨⟨packetTypeJson, write json⟩, some (write json), result, rfl,
        Nat.lt_trans fits (by decide)⟩
      exact call.written_event.trans (List.append_nil _).symm
  | other event silent =>
      cases event with
      | asyncWrite data size type result => exact absurd rfl (silent data size type result)
      | timer now result =>
          let call : WriteCall := ⟨⟨packetTypeHeartbeat, []⟩, none, result, rfl, by decide⟩
          exact call.written_event.trans (List.append_nil _).symm
      | start | stop | dispatch | resolved => rfl

/-- What is written for several packets is their frames. -/
theorem flatMap_written (sendings : List Sending) :
    (sendings.map event).flatMap Transport.Event.written =
      frameCode.encodeAll (sendings.flatMap frames) := by
  induction sendings with
  | nil => rfl
  | cons sending sendings inductionHypothesis =>
      rw [List.map_cons, List.flatMap_cons, List.flatMap_cons, PrefixCode.encodeAll_append,
        written_event, inductionHypothesis]

/-- A packet is read as a value, with its numbers as the reader has them. -/
def ReadAs (scanDouble : List UInt8 → Option String) (packet : Packet) (json : Json) : Prop :=
  ∀ past, (packetAnswer (readJson scanDouble past) packet.payload).resJson =
    some (normal scanDouble json)

/-- A written value is read back. -/
theorem readAs_write (total : ∀ number : Number, (scanDouble number.text).isSome)
    {json : Json} (holds : Held storedNumbers json) (fits : (write json).length < 2 ^ 31)
    (packetType : UInt8) : ReadAs scanDouble ⟨packetType, write json⟩ json := by
  intro past
  have nonzero : ∀ byte ∈ write json, byte ≠ 0 :=
    List.forall_mem_append.mpr ⟨writeValue_nonzero holds, nonzero_of_all rfl⟩
  have whole := take_findEndString nonzero [] (.inl rfl)
  rw [List.append_nil] at whole
  rw [packetAnswer, whole, readJson, (isPhrase_of_holds total holds).reads_back total fits]
  rfl

/-- Of the packets that are sent the requests are signalled. -/
theorem signalled_frames (total : ∀ number : Number, (scanDouble number.text).isSome)
    (sendings : List Sending) :
    List.Forall₂ (ReadAs scanDouble) (signalled ((sendings.flatMap frames).map Frame.packet))
      (sendings.filterMap request?) := by
  induction sendings with
  | nil => exact .nil
  | cons sending sendings inductionHypothesis =>
      rw [List.flatMap_cons, List.map_append, signalled, List.filter_append]
      cases sending with
      | request json holds fits result =>
          exact .cons (readAs_write total holds fits packetTypeJson) inductionHypothesis
      | other event silent =>
          cases event with
          | asyncWrite data size type result => exact absurd rfl (silent data size type result)
          | start | stop | timer | dispatch | resolved => exact inductionHypothesis

end Sending

/-- Over any run of the sending session, with its heartbeats, partial writes and whatever else
happens to it, the other end reads exactly the requests from what is written, in their order,
however the bytes are cut. -/
theorem requests_of_run (total : ∀ number : Number, (scanDouble number.text).isSome)
    (sender receiver : HostOrder) (sendings : List Sending) {session final : Session}
    {outputs : List Output} (empty : session.writeBuffer.data = [])
    (run : (sessionMachine sender).Run session (sendings.map Sending.event) final outputs)
    {peer : Session} (fresh : peer.readBuffer.data = []) (chunks : List (List UInt8 × UInt32))
    (stream : chunks.flatMap (·.1) = acceptedBytes outputs ++ final.writeBuffer.data) :
    ∃ next packets, Session.receiveAll receiver chunks peer = some (next, packets.map .handled) ∧
      next.readBuffer.data = [] ∧
      List.Forall₂ (Sending.ReadAs scanDouble) (signalled packets)
        (sendings.filterMap Sending.request?) := by
  have sent := Session.run_appends sender run
  rw [empty, List.nil_append, Sending.flatMap_written, ← stream] at sent
  have nothing : frameCode.read [] = none := frameCode_read_none_of_short (by simp [headerSize])
  have decoded := frameCode.readAll_encodeAll (sendings.flatMap Sending.frames) nothing
  rw [List.append_nil] at decoded
  obtain ⟨next, received, left⟩ :=
    Session.receiveAll_eq receiver chunks peer (by rw [fresh]; exact nothing)
  rw [fresh, List.nil_append, sent, decoded] at received left
  exact ⟨next, _, received, left, Sending.signalled_frames total sendings⟩

/-- A request and a heartbeat. -/
def requestAndTimer : List Sending :=
  [.request (.array [.boolean true]) (.array (List.forall_mem_singleton.mpr (.boolean true)))
      (by decide) ⟨0, false⟩,
    .other (.timer 5 ⟨0, false⟩) (fun _ _ _ _ same => by cases same)]

/-- A request and a heartbeat come in two pieces. -/
theorem requests_of_run_timer :
    ∃ next packets, Session.receiveAll .littleEndian
        [([86, 90, 0, 0, 0, 0, 0, 7, 91, 116, 114], 1),
          ([117, 101, 93, 10, 86, 90, 1, 0, 0, 0, 0, 0], 2)] (Session.new 3) =
        some (next, packets.map .handled) ∧
      next.readBuffer.data = [] ∧
      List.Forall₂ (Sending.ReadAs scanPlain) (signalled packets) [.array [.boolean true]] := by
  have present : ((sessionMachine .bigEndian).exec (Session.new 2)
      (requestAndTimer.map Sending.event)).isSome := by
    decide +kernel
  obtain ⟨⟨final, outputs⟩, evaluated⟩ := Option.isSome_iff_exists.mp present
  have stream : [86, 90, 0, 0, 0, 0, 0, 7, 91, 116, 114, 117, 101, 93, 10, 86, 90, 1, 0, 0, 0, 0, 0] =
      acceptedBytes outputs ++ final.writeBuffer.data := by
    have sent : ((sessionMachine .bigEndian).exec (Session.new 2)
        (requestAndTimer.map Sending.event)).map
        (fun result => acceptedBytes result.2 ++ result.1.writeBuffer.data) =
        some [86, 90, 0, 0, 0, 0, 0, 7, 91, 116, 114, 117, 101, 93, 10, 86, 90, 1, 0, 0, 0, 0, 0] := by
      decide +kernel
    rw [evaluated] at sent
    exact (Option.some.inj sent).symm
  exact requests_of_run scanPlain_total .bigEndian .littleEndian requestAndTimer rfl
    (Machine.run_of_exec evaluated) rfl
    [([86, 90, 0, 0, 0, 0, 0, 7, 91, 116, 114], 1),
      ([117, 101, 93, 10, 86, 90, 1, 0, 0, 0, 0, 0], 2)] stream

end

end VzSdk.Sdk
