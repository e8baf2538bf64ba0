import VzSdk.Transport.Session

/-!
# The two byte streams of a session

What a session reads does not depend on how TCP cuts the stream
(`receiveAll_split_independent`), what it writes reaches the socket complete
and in order however little the socket takes at a time (`run_conserves_writes`),
and the two directions are inverse (`receiveAll_asyncWrites`).
-/

namespace VzSdk.Transport

open VzSdk.Base VzSdk.Event VzSdk.Std

/-! ## Reading -/

namespace Session

/-- Handling packets leaves the read buffer alone. -/
@[simp] theorem readBuffer_foldl_handle (now : UInt32) (session : Session)
    (packets : List Packet) :
    (packets.foldl (onHandleInputPacket now) session).readBuffer = session.readBuffer := by
  induction packets generalizing session with
  | nil => rfl
  | cons packet packets inductionHypothesis =>
      rw [List.foldl_cons, inductionHypothesis, onHandleInputPacket]
      split <;> rfl

/-- One `Recv` hands over the frames that the unread bytes now start with. -/
theorem receive_eq (host : HostOrder) (bytes : List UInt8) (now : UInt32) (session : Session) :
    ∃ next, receive host bytes now session = some (next,
        ((frameCode.readAll (session.readBuffer.data ++ bytes)).1.map Frame.packet).map .handled) ∧
      next.readBuffer.data = (frameCode.readAll (session.readBuffer.data ++ bytes)).2 := by
  obtain ⟨left, input, rest⟩ := processInput_eq host (session.readBuffer.writeBytes bytes)
  rw [NetworkBuffer.data_writeBytes] at input rest
  refine ⟨_, by rw [receive, input], ?_⟩
  simpa using rest

/-- Consecutive `Recv`s read their concatenation, from any session that has
already handed over every complete frame. -/
theorem receiveAll_eq (host : HostOrder) (chunks : List (List UInt8 × UInt32)) (session : Session)
    (stuck : frameCode.read session.readBuffer.data = none) :
    ∃ next, receiveAll host chunks session = some (next,
        ((frameCode.readAll (session.readBuffer.data ++ chunks.flatMap (·.1))).1.map
          Frame.packet).map .handled) ∧
      next.readBuffer.data =
        (frameCode.readAll (session.readBuffer.data ++ chunks.flatMap (·.1))).2 := by
  induction chunks generalizing session with
  | nil =>
      refine ⟨session, ?_, ?_⟩
      · simp [receiveAll, frameCode.readAll_none stuck]
      · simp [frameCode.readAll_none stuck]
  | cons chunk chunks inductionHypothesis =>
      obtain ⟨bytes, now⟩ := chunk
      obtain ⟨middle, received, unread⟩ := receive_eq host bytes now session
      have stuckMiddle : frameCode.read middle.readBuffer.data = none := by
        rw [unread]
        exact frameCode.read_rest_none _
      obtain ⟨next, rest, left⟩ := inductionHypothesis middle stuckMiddle
      have whole := frameCode.readAll_append (session.readBuffer.data ++ bytes)
        (chunks.flatMap (·.1))
      rw [← unread, List.append_assoc] at whole
      refine ⟨next, ?_, ?_⟩
      · simp [receiveAll, Effect.andThen, received, rest, whole]
      · simp [left, whole]

/-- `ProcessInput` returns on every buffer. -/
theorem processInput_terminates (host : HostOrder) (readBuffer : NetworkBuffer) :
    (processInput host readBuffer).isSome := by
  obtain ⟨left, input, _⟩ := processInput_eq host readBuffer
  rw [input]
  rfl

/-- Framing does not depend on the split of the stream: fed in any pieces, a
session hands over the same packets and keeps the same bytes unread as fed in
one piece. The packets are those of the longest list of complete frames the
stream starts with, no byte is in neither, and every parse returns. -/
theorem receiveAll_split_independent (host : HostOrder) (session : Session)
    (fresh : session.readBuffer.data = []) (chunks : List (List UInt8 × UInt32)) (now : UInt32) :
    ∃ split whole outputs frames,
      receiveAll host chunks session = some (split, outputs) ∧
      receive host (chunks.flatMap (·.1)) now session = some (whole, outputs) ∧
      split.readBuffer.data = whole.readBuffer.data ∧
      outputs = (frames.map Frame.packet).map .handled ∧
      chunks.flatMap (·.1) = frameCode.encodeAll frames ++ split.readBuffer.data ∧
      (∀ others, frameCode.encodeAll others <+: chunks.flatMap (·.1) → others <+: frames) ∧
      ∀ readBuffer, (processInput host readBuffer).isSome := by
  have stuck : frameCode.read session.readBuffer.data = none := by
    rw [fresh]
    exact frameCode_read_none_of_short (by simp [headerSize])
  obtain ⟨split, pieces, splitLeft⟩ := receiveAll_eq host chunks session stuck
  obtain ⟨whole, atOnce, wholeLeft⟩ := receive_eq host (chunks.flatMap (·.1)) now session
  rw [fresh, List.nil_append] at pieces splitLeft atOnce wholeLeft
  refine ⟨split, whole, _, _, pieces, atOnce, splitLeft.trans wholeLeft.symm, rfl, ?_, ?_,
    processInput_terminates host⟩
  · rw [splitLeft]
    exact (frameCode.encodeAll_readAll _).symm
  · intro others starts
    exact frameCode.readAll_longest starts

/-- A heartbeat frame cut inside its length field. -/
theorem receiveAll_split_independent_heartbeat :
    ∃ split whole outputs frames,
      receiveAll .littleEndian [([86, 90, 1, 0, 0], 7), ([0, 0, 0, 86], 8)] (Session.new 2) =
        some (split, outputs) ∧
      receive .littleEndian [86, 90, 1, 0, 0, 0, 0, 0, 86] 8 (Session.new 2) =
        some (whole, outputs) ∧
      split.readBuffer.data = whole.readBuffer.data ∧
      outputs = (frames.map Frame.packet).map .handled ∧
      [86, 90, 1, 0, 0, 0, 0, 0, 86] = frameCode.encodeAll frames ++ split.readBuffer.data ∧
      (∀ others, frameCode.encodeAll others <+: [86, 90, 1, 0, 0, 0, 0, 0, 86] →
        others <+: frames) ∧
      ∀ readBuffer, (processInput .littleEndian readBuffer).isSome :=
  receiveAll_split_independent .littleEndian (Session.new 2) rfl
    [([86, 90, 1, 0, 0], 7), ([0, 0, 0, 86], 8)] 8

end Session

/-! ## Writing -/

/-- The bytes the socket took, in order. -/
def acceptedBytes (outputs : List Output) : List UInt8 :=
  outputs.flatMap fun
    | .accepted bytes => bytes
    | _ => []

/-- The accepted bytes of two lists of outputs. -/
@[simp] theorem acceptedBytes_append (first second : List Output) :
    acceptedBytes (first ++ second) = acceptedBytes first ++ acceptedBytes second := by
  simp [acceptedBytes]

/-- The frame of one call of `AsyncWrite`. -/
def packetBytes (data : Option (List UInt8)) (dataSize : UInt32) (packetType : UInt8) :
    List UInt8 :=
  [headerV, headerZ, packetType, 0] ++ setBE32 dataSize ++
    (data.map (·.take dataSize.toNat)).getD []

/-- The frames of the calls of `AsyncWrite` in one event. -/
def Event.written : Event → List UInt8
  | .asyncWrite data dataSize packetType _ => packetBytes data dataSize packetType
  | .timer _ _ => packetBytes none 0 packetTypeHeartbeat
  | _ => []

/-- An effect that appends `written` to the stream: nothing else is lost or
added between what the socket took and what still waits. -/
structure Effect.Appends (effect : Effect) (written : List UInt8) : Prop where
  conserves : ∀ {session next outputs}, effect session = some (next, outputs) →
    acceptedBytes outputs ++ next.writeBuffer.data = session.writeBuffer.data ++ written

/-- Two effects append one behind the other. -/
theorem Effect.Appends.andThen {first second : Effect} {before after : List UInt8}
    (appendsFirst : first.Appends before) (appendsSecond : second.Appends after) :
    (first.andThen second).Appends (before ++ after) := by
  refine ⟨fun {session next outputs} success => ?_⟩
  unfold Effect.andThen at success
  split at success
  · cases success
  · next middle early firstSuccess =>
      split at success
      · cases success
      · next final late secondSuccess =>
          cases success
          have stepFirst := appendsFirst.conserves firstSuccess
          have stepSecond := appendsSecond.conserves secondSuccess
          rw [acceptedBytes_append, List.append_assoc, stepSecond, ← List.append_assoc, stepFirst,
            List.append_assoc]

/-- An effect that touches neither the write buffer nor the socket's input appends nothing. -/
theorem Effect.appends_nil {effect : Effect}
    (silent : ∀ session next outputs, effect session = some (next, outputs) →
      next.writeBuffer = session.writeBuffer ∧ acceptedBytes outputs = []) :
    effect.Appends [] := by
  refine ⟨fun {session next outputs} success => ?_⟩
  obtain ⟨same, none⟩ := silent session next outputs success
  rw [same, none, List.nil_append, List.append_nil]

namespace Session

/-- A packet is put behind what is buffered. -/
@[simp] theorem data_appendPacket (host : HostOrder) (writeBuffer : NetworkBuffer)
    (data : Option (List UInt8)) (dataSize : UInt32) (packetType : UInt8) :
    (appendPacket host writeBuffer data dataSize packetType).data =
      writeBuffer.data ++ packetBytes data dataSize packetType := by
  cases data <;> simp [appendPacket, packetBytes]

/-- Dropping the socket leaves the write buffer alone. -/
@[simp] theorem writeBuffer_uinitSocket (session : Session) :
    session.uinitSocket.writeBuffer = session.writeBuffer := by
  unfold uinitSocket
  split
  · split <;> rfl
  · rfl

/-- `Stop` leaves the write buffer alone. -/
@[simp] theorem writeBuffer_stop (session : Session) :
    session.stop.writeBuffer = session.writeBuffer := by
  rw [← writeBuffer_uinitSocket session, stop]
  split
  · split <;> rfl
  · rfl

/-- `Start` leaves the write buffer alone. -/
@[simp] theorem writeBuffer_start (session : Session) (connectId : UInt32) (unresolved : Bool)
    (outcome : ConnectOutcome) :
    (session.start connectId unresolved outcome).writeBuffer = session.writeBuffer := by
  unfold start
  simp only
  split <;> rfl

/-- Handling packets leaves the write buffer alone. -/
@[simp] theorem writeBuffer_foldl_handle (now : UInt32) (session : Session)
    (packets : List Packet) :
    (packets.foldl (onHandleInputPacket now) session).writeBuffer = session.writeBuffer := by
  induction packets generalizing session with
  | nil => rfl
  | cons packet packets inductionHypothesis =>
      rw [List.foldl_cons, inductionHypothesis, onHandleInputPacket]
      split <;> rfl

/-- A partial send moves a front part of the buffer to the socket. -/
theorem tryToWriteData_appends (result : SendResult) : (tryToWriteData result).Appends [] := by
  refine ⟨fun {session next outputs} success => ?_⟩
  unfold tryToWriteData at success
  split at success
  · cases success
    simp [acceptedBytes]
  · next socket present =>
      split at success
      · cases success
        simp [acceptedBytes]
      · split at success
        · next admissible =>
            simp only at success
            split at success
            · next sent =>
                cases success
                have bounded : result.sent.toNat ≤ session.writeBuffer.length := by
                  rcases admissible with failed | ⟨_, upper⟩
                  · exact absurd failed sent
                  · omega
                simp [acceptedBytes, NetworkBuffer.data_consume bounded]
            · cases success
              simp [acceptedBytes]
        · cases success

/-- `AsyncWrite` appends its packet. -/
theorem asyncWrite_appends (host : HostOrder) (data : Option (List UInt8)) (dataSize : UInt32)
    (packetType : UInt8) (result : SendResult) :
    (asyncWrite host data dataSize packetType result).Appends
      (packetBytes data dataSize packetType) := by
  refine ⟨fun {session next outputs} success => ?_⟩
  have moved := (tryToWriteData_appends result).conserves success
  simpa using moved

/-- A close event appends nothing. -/
theorem onCloseEvent_appends (code : Int) : (onCloseEvent code).Appends [] :=
  Effect.appends_nil (by
    intro session next outputs success
    cases success
    simp [acceptedBytes])

/-- Waiting for a heartbeat appends nothing. -/
theorem asyncWaitNextHeadrtbeatEvent_appends (now : UInt32) :
    (asyncWaitNextHeadrtbeatEvent now).Appends [] := by
  refine ⟨fun {session next outputs} success => ?_⟩
  unfold asyncWaitNextHeadrtbeatEvent at success
  split at success
  · cases success
    simp [acceptedBytes]
  · split at success
    · exact (onCloseEvent_appends 0).conserves success
    · cases success
      simp [acceptedBytes]

/-- The timer appends a heartbeat. -/
theorem onMessage_appends (host : HostOrder) (now : UInt32) (result : SendResult) :
    (onMessage host now result).Appends (packetBytes none 0 packetTypeHeartbeat) := by
  have both := (asyncWrite_appends host none 0 packetTypeHeartbeat result).andThen
    (asyncWaitNextHeadrtbeatEvent_appends now)
  rwa [List.append_nil] at both

/-- A connect event appends nothing. -/
theorem onConnectEvent_appends (now : UInt32) : (onConnectEvent now).Appends [] := by
  have signals : Effect.Appends
      (fun session => some (session, [.connectedEvent session.connectId])) [] :=
    Effect.appends_nil (by
      intro session next outputs success
      cases success
      simp [acceptedBytes])
  exact signals.andThen (asyncWaitNextHeadrtbeatEvent_appends now)

/-- Receiving appends nothing. -/
theorem receive_appends (host : HostOrder) (bytes : List UInt8) (now : UInt32) :
    (receive host bytes now).Appends [] :=
  Effect.appends_nil (by
    intro session next outputs success
    unfold receive at success
    split at success
    · cases success
    · next readBuffer packets _ =>
        cases success
        refine ⟨by simp, ?_⟩
        induction packets with
        | nil => rfl
        | cons packet packets inductionHypothesis => simp [acceptedBytes])

/-- Receiving again and again appends nothing. -/
theorem receiveAll_appends (host : HostOrder) (chunks : List (List UInt8 × UInt32)) :
    (receiveAll host chunks).Appends [] := by
  induction chunks with
  | nil =>
      exact Effect.appends_nil (by
        intro session next outputs success
        cases success
        simp [acceptedBytes])
  | cons chunk chunks inductionHypothesis =>
      simpa [receiveAll] using (receive_appends host chunk.1 chunk.2).andThen inductionHypothesis

/-- A read event appends nothing. -/
theorem onReadEvent_appends (host : HostOrder) (chunks : List (List UInt8 × UInt32))
    (ending : RecvEnd) : (onReadEvent host chunks ending).Appends [] := by
  have closing : Effect.Appends (fun session =>
      let session := if chunks = [] then session else session.mapSocket .recvSome
      some (session.mapSocket (·.recvEnd ending), [])) [] :=
    Effect.appends_nil (by
      intro session next outputs success
      cases success
      refine ⟨?_, rfl⟩
      simp only [mapSocket]
      split <;> rfl)
  exact (receiveAll_appends host chunks).andThen closing

/-- An event that is signalled appends what its slot does. -/
theorem signal_appends {bit : Bool} {disable : DispatcherEvents → DispatcherEvents} {slot : Effect}
    (appends : slot.Appends []) : (signal bit disable slot).Appends [] := by
  refine ⟨fun {session next outputs} success => ?_⟩
  unfold signal at success
  split at success
  · simp only at success
    split at success
    · simpa [mapSocket] using appends.conserves success
    · cases success
      simp [acceptedBytes, mapSocket]
  · cases success
    simp [acceptedBytes]

/-- The events of a socket append nothing. -/
theorem onEvent_appends (host : HostOrder) (ff : DispatcherEvents) (err : Int) (now : UInt32)
    (chunks : List (List UInt8 × UInt32)) (ending : RecvEnd) (result : SendResult) :
    (onEvent host ff err now chunks ending result).Appends [] := by
  exact (signal_appends (onConnectEvent_appends now)).andThen
    ((signal_appends (onReadEvent_appends host chunks ending)).andThen
      ((signal_appends (tryToWriteData_appends result)).andThen
        (signal_appends (onCloseEvent_appends err))))

/-- The end of a resolution appends nothing. -/
theorem onResolveResult_appends (error : Int) (outcome : ConnectOutcome) :
    (onResolveResult error outcome).Appends [] := by
  refine ⟨fun {session next outputs} success => ?_⟩
  unfold onResolveResult at success
  split at success
  · cases success
    simp [acceptedBytes]
  · next socket _ =>
      generalize (if error = 0 then socket.doConnect outcome else (socket.close, error)) = answer
        at success
      obtain ⟨reached, failure⟩ := answer
      simp only at success
      split at success
      · simpa using (onCloseEvent_appends failure).conserves success
      · cases success
        simp [acceptedBytes]

/-- Every step appends exactly the frames of its own `AsyncWrite` calls. -/
theorem step_appends (host : HostOrder) (event : Event) :
    Effect.Appends (fun session => session.step host event) event.written := by
  refine ⟨fun {session next outputs} success => ?_⟩
  cases event with
  | start connectId unresolved outcome =>
      cases success
      simp [acceptedBytes, Event.written]
  | stop =>
      cases success
      simp [acceptedBytes, Event.written]
  | asyncWrite data dataSize packetType result =>
      exact (asyncWrite_appends host data dataSize packetType result).conserves success
  | timer now result => exact (onMessage_appends host now result).conserves success
  | dispatch ff err now chunks ending result =>
      have moved := (onEvent_appends host ff err now chunks ending result).conserves success
      simpa [Event.written, mapSocket] using moved
  | resolved error outcome => exact (onResolveResult_appends error outcome).conserves success

/-- Over a whole run the bytes the socket took, followed by those still in the
buffer, are the buffer of the start followed by the frames of all calls. -/
theorem run_appends (host : HostOrder) {session final : Session} {events : List Event}
    {outputs : List Output} (run : (sessionMachine host).Run session events final outputs) :
    acceptedBytes outputs ++ final.writeBuffer.data =
      session.writeBuffer.data ++ events.flatMap Event.written := by
  refine run.invariant (fun events state outputs =>
    acceptedBytes outputs ++ state.writeBuffer.data =
      session.writeBuffer.data ++ events.flatMap Event.written) ?_ ?_
  · simp [acceptedBytes]
  · intro events state outputs event next emitted sofar _ transition
    have moved := (step_appends host event).conserves transition
    rw [acceptedBytes_append, List.append_assoc, moved, ← List.append_assoc, sofar]
    simp

/-- A write of which `Send` takes five bytes, a heartbeat while the socket blocks, and a
writable event that takes the rest. -/
def partialSendEvents : List Event :=
  [.start 1 false .succeeded,
    .asyncWrite (some [123, 125]) 2 packetTypeJson ⟨5, false⟩,
    .timer 2000 ⟨-1, true⟩,
    .dispatch ⟨false, true, false, false⟩ 0 2001 [] (.error true) ⟨13, false⟩]

/-- Write stream integrity: from a new session on, the bytes the socket took so
far followed by `write_buffer_` are the frames of all `AsyncWrite` calls so far,
in call order, whatever `Send` answered each time. -/
theorem run_conserves_writes (host : HostOrder) (sessionId : UInt32) {events : List Event}
    {final : Session} {outputs : List Output}
    (run : (sessionMachine host).Run (Session.new sessionId) events final outputs) :
    acceptedBytes outputs ++ final.writeBuffer.data = events.flatMap Event.written := by
  simpa [Session.new] using run_appends host run

/-- A frame cut by a partial send, a heartbeat while the socket blocks, and the
rest at the next writable event. -/
theorem run_conserves_writes_partial_send :
    ∃ final outputs,
      (sessionMachine .littleEndian).Run (Session.new 2) partialSendEvents final outputs ∧
      acceptedBytes outputs ++ final.writeBuffer.data =
        partialSendEvents.flatMap Event.written := by
  have present : ((sessionMachine .littleEndian).exec (Session.new 2) partialSendEvents).isSome := by
    decide +kernel
  obtain ⟨⟨final, outputs⟩, evaluated⟩ := Option.isSome_iff_exists.mp present
  have run := Machine.run_of_exec evaluated
  exact ⟨final, outputs, run, run_conserves_writes .littleEndian 2 run⟩

end Session

/-! ## Both directions -/

/-- One call of `AsyncWrite` for a packet: the pointer may be null when there is
no payload, and `result` is what `Send` answers inside the call. -/
structure WriteCall where
  packet : Packet
  data : Option (List UInt8)
  result : SendResult
  carries : data.getD [] = packet.payload
  fits : packet.payload.length < 2 ^ 32

namespace WriteCall

/-- The call as an event of the session. -/
def event (call : WriteCall) : Event :=
  .asyncWrite call.data (UInt32.ofNat call.packet.payload.length) call.packet.packetType call.result

/-- The frame the call writes; its packet number is always zero. -/
def frame (call : WriteCall) : Frame :=
  ⟨call.packet.packetType, 0, call.packet.payload, call.fits⟩

/-- The call writes the frame of its packet. -/
theorem written_event (call : WriteCall) : call.event.written = frameCode.encode call.frame := by
  obtain ⟨packet, data, result, carries, fits⟩ := call
  have size : (UInt32.ofNat packet.payload.length).toNat = packet.payload.length :=
    UInt32.toNat_ofNat_of_lt' fits
  have body : (data.map (·.take packet.payload.length)).getD [] = packet.payload := by
    cases data with
    | none => exact carries
    | some bytes =>
        simp only [Option.getD_some] at carries
        simp [carries]
  simp [event, Event.written, packetBytes, frame, frameCode, Frame.encode, Frame.header, size, body]

/-- The calls write their frames one behind the other. -/
theorem flatMap_written (calls : List WriteCall) :
    (calls.map event).flatMap Event.written = frameCode.encodeAll (calls.map frame) := by
  simp [PrefixCode.encodeAll, List.flatMap_map, written_event]

end WriteCall

namespace Session

/-- Encoding and decoding are inverse: what the calls put on the wire and into
the buffer, cut into any chunks, is handed over by the peer as exactly the
packets of the calls, and no byte is left. -/
theorem receiveAll_asyncWrites (sender receiver : HostOrder) (calls : List WriteCall)
    {session final : Session} {outputs : List Output}
    (empty : session.writeBuffer.data = [])
    (run : (sessionMachine sender).Run session (calls.map WriteCall.event) final outputs)
    {peer : Session} (fresh : peer.readBuffer.data = []) (chunks : List (List UInt8 × UInt32))
    (stream : chunks.flatMap (·.1) = acceptedBytes outputs ++ final.writeBuffer.data) :
    ∃ next, receiveAll receiver chunks peer =
        some (next, (calls.map WriteCall.packet).map .handled) ∧
      next.readBuffer.data = [] := by
  have sent := run_appends sender run
  rw [empty, List.nil_append, WriteCall.flatMap_written, ← stream] at sent
  have nothing : frameCode.read [] = none := frameCode_read_none_of_short (by simp [headerSize])
  have decoded := frameCode.readAll_encodeAll (calls.map WriteCall.frame) nothing
  rw [List.append_nil] at decoded
  obtain ⟨next, received, left⟩ := receiveAll_eq receiver chunks peer (by rw [fresh]; exact nothing)
  rw [fresh, List.nil_append, sent, decoded] at received left
  refine ⟨next, ?_, left⟩
  rw [received, List.map_map, List.map_map, List.map_map]
  rfl

/-- A big-endian host writes a packet whose payload starts like a header and a
heartbeat, before its socket is open, and a little-endian peer reads them in two chunks. -/
theorem receiveAll_asyncWrites_two_hosts :
    ∃ next, receiveAll .littleEndian
        [([86, 90, 0, 0, 0, 0, 0, 2, 86], 1), ([90, 86, 90, 1, 0, 0, 0, 0, 0], 2)] (Session.new 3) =
        some (next, [.handled ⟨packetTypeJson, [86, 90]⟩, .handled ⟨packetTypeHeartbeat, []⟩]) ∧
      next.readBuffer.data = [] := by
  let calls : List WriteCall :=
    [⟨⟨packetTypeJson, [86, 90]⟩, some [86, 90], ⟨0, false⟩, rfl, by decide⟩,
      ⟨⟨packetTypeHeartbeat, []⟩, none, ⟨0, false⟩, rfl, by decide⟩]
  have present :
      ((sessionMachine .bigEndian).exec (Session.new 2) (calls.map WriteCall.event)).isSome := by
    decide +kernel
  obtain ⟨⟨final, outputs⟩, evaluated⟩ := Option.isSome_iff_exists.mp present
  have stream : [86, 90, 0, 0, 0, 0, 0, 2, 86, 90, 86, 90, 1, 0, 0, 0, 0, 0] =
      acceptedBytes outputs ++ final.writeBuffer.data := by
    have sent : ((sessionMachine .bigEndian).exec (Session.new 2) (calls.map WriteCall.event)).map
        (fun result => acceptedBytes result.2 ++ result.1.writeBuffer.data) =
        some [86, 90, 0, 0, 0, 0, 0, 2, 86, 90, 86, 90, 1, 0, 0, 0, 0, 0] := by
      decide +kernel
    rw [evaluated] at sent
    exact (Option.some.inj sent).symm
  exact receiveAll_asyncWrites .bigEndian .littleEndian calls rfl (Machine.run_of_exec evaluated)
    rfl [([86, 90, 0, 0, 0, 0, 0, 2, 86], 1), ([90, 86, 90, 1, 0, 0, 0, 0, 0], 2)] stream

end Session

end VzSdk.Transport
