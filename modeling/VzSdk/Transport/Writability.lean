import VzSdk.Event.SocketServer
import VzSdk.Transport.Stream

/-!
# Waiting for writability

A session leaves the rest of its buffer to the next writable event, so that
event has to be waited for whenever something is unsent. Only a `Send` that
would block asks for it: `PhysicalSocket::Send` takes a partial success for a
full one. `waitsForWritable_iff` says in which runs the event is always waited
for when it is needed. The events of a sweep are the ones the socket server
computes from what the socket requests.
-/

namespace VzSdk.Transport

open VzSdk.Base VzSdk.Event VzSdk.Std

/-- What the thread of a session does to it: calls, timers, and events as a sweep of the
socket server finds them. -/
inductive LoopEvent where
  | start (connectId : UInt32) (unresolved : Bool) (outcome : ConnectOutcome)
  | stop
  | asyncWrite (data : Option (List UInt8)) (dataSize : UInt32) (packetType : UInt8)
      (result : SendResult)
  | timer (now : UInt32) (result : SendResult)
  | swept (ready : Readiness) (now : UInt32) (chunks : List (List UInt8 × UInt32))
      (ending : RecvEnd) (result : SendResult)
  | resolved (error : Int) (outcome : ConnectOutcome)

namespace Session

/-- The events a sweep tells the session's socket. -/
def sweptFor (session : Session) (ready : Readiness) : DispatcherEvents :=
  match session.asyncSocket with
  | some socket => (sweptEvents socket.enabledEvents false ready).1
  | none => .none

/-- `TryToWriteData` calls `Send`. -/
def sends (session : Session) : Bool :=
  session.getState == .connected && session.writeBuffer.length != 0

/-- `DE_WRITE` is enabled. -/
def awaitsWrite (session : Session) : Bool :=
  (session.asyncSocket.map (·.enabledEvents.write)).getD false

end Session

namespace LoopEvent

/-- What happens to the session at a turn of the loop. -/
def event (session : Session) : LoopEvent → Event
  | .start connectId unresolved outcome => .start connectId unresolved outcome
  | .stop => .stop
  | .asyncWrite data dataSize packetType result => .asyncWrite data dataSize packetType result
  | .timer now result => .timer now result
  | .swept ready now chunks ending result =>
      .dispatch (session.sweptFor ready) ready.errcode now chunks ending result
  | .resolved error outcome => .resolved error outcome

/-- What `Send` answers in this event, if it is called. -/
def sendMade (session : Session) : LoopEvent → Option SendResult
  | .asyncWrite _ _ _ result | .timer _ result =>
      if session.getState = .connected then some result else none
  | .swept ready _ _ _ result =>
      if (session.sweptFor ready).write && !(session.sweptFor ready).close && session.hears &&
          session.sends then some result
      else none
  | _ => none

end LoopEvent

/-- The machine of a session in its loop. -/
def loopMachine (host : HostOrder) : Machine Session LoopEvent Output :=
  ⟨fun session label => session.step host (label.event session)⟩

/-- Whether the last `Send` failed for good. -/
def lastBroken (broken : Bool) (session : Session) (label : LoopEvent) (_ : Session) : Bool :=
  match label.sendMade session with
  | some result => result.broken
  | none => broken

/-- `loopMachine` with the outcome of the last `Send` beside it. -/
def sendingMachine (host : HostOrder) : Machine (Session × Bool) LoopEvent Output :=
  (loopMachine host).watch lastBroken

/-- Unsent data of a connected session waits for writability, unless the last `Send` failed
for good. -/
def WaitsForWritable (watched : Session × Bool) : Prop :=
  watched.1.sends = true → watched.2 = false → watched.1.awaitsWrite = true

/-- A `Send` takes a part only outside a writable event and while `DE_WRITE` is still
enabled. No writable event with unsent data finds the session's slots cut off. -/
def SendsArmed (host : HostOrder) (watched : Session × Bool) : LoopEvent → Prop
  | .asyncWrite data dataSize packetType result =>
      watched.1.getState = .connected →
        result.isPartial
          (Session.appendPacket host watched.1.writeBuffer data dataSize packetType).length = true →
        watched.1.awaitsWrite = true
  | .timer _ result =>
      watched.1.getState = .connected →
        result.isPartial
          (Session.appendPacket host watched.1.writeBuffer none 0 packetTypeHeartbeat).length = true →
        watched.1.awaitsWrite = true
  | .swept ready _ _ _ result =>
      (watched.1.sweptFor ready).write = true → (watched.1.sweptFor ready).close = false →
        watched.1.sends = true →
        (watched.1.hears = true → result.isPartial watched.1.writeBuffer.length = false) ∧
          (watched.1.hears = false → watched.2 = true)
  | _ => True

instance (host : HostOrder) (watched : Session × Bool) :
    (label : LoopEvent) → Decidable (SendsArmed host watched label)
  | .asyncWrite _ _ _ _ | .timer _ _ => inferInstanceAs (Decidable (_ → _ → _))
  | .swept _ _ _ _ _ => inferInstanceAs (Decidable (_ → _ → _ → _ ∧ _))
  | .start _ _ _ | .stop | .resolved _ _ => .isTrue trivial

/-! ## What decides about writability -/

namespace Session

/-- The state of the socket and the two events of its write side, with the buffer. -/
def writeSide (session : Session) : Option (ConnState × Bool × Bool) × NetworkBuffer :=
  (session.asyncSocket.map fun socket =>
    (socket.state, socket.enabledEvents.write, socket.enabledEvents.connect), session.writeBuffer)

/-- The state is on the side of the writer. -/
theorem getState_eq (session : Session) :
    session.getState = (session.writeSide.1.map (·.1)).getD .closed := by
  cases socket : session.asyncSocket <;> simp [getState, writeSide, socket]

/-- What is waited for is on the side of the writer. -/
theorem awaitsWrite_eq (session : Session) :
    session.awaitsWrite = (session.writeSide.1.map (·.2.1)).getD false := by
  cases socket : session.asyncSocket <;> simp [awaitsWrite, writeSide, socket]

/-- Whether there is something to send is on the side of the writer. -/
theorem sends_eq (session : Session) :
    session.sends = ((session.writeSide.1.map (·.1)).getD .closed == .connected &&
      session.writeSide.2.length != 0) := by
  rw [sends, getState_eq]
  rfl

/-- A socket that waits for its connection also waits for writability. -/
def ConnectArmed (session : Session) : Prop :=
  (session.writeSide.1.map (·.2.2)).getD false = true → session.awaitsWrite = true

end Session

/-- Sessions with one write side wait for writability alike. -/
theorem waitsForWritable_congr {session next : Session} (same : next.writeSide = session.writeSide)
    (broken : Bool) : WaitsForWritable (next, broken) ↔ WaitsForWritable (session, broken) := by
  simp only [WaitsForWritable, Session.sends_eq, Session.awaitsWrite_eq, same]

/-- Only the side of the writer says whether there is something to send. -/
theorem Session.sends_congr {session next : Session} (same : next.writeSide = session.writeSide) :
    next.sends = session.sends := by
  simp only [Session.sends_eq, same]

/-- Only the side of the writer says whether the connect is waited for. -/
theorem Session.connectArmed_congr {session next : Session}
    (same : next.writeSide = session.writeSide) : next.ConnectArmed ↔ session.ConnectArmed := by
  simp only [ConnectArmed, Session.awaitsWrite_eq, same]

/-- The effect leaves the write side alone. -/
structure Effect.Aside (effect : Effect) : Prop where
  same : ∀ {session next outputs}, effect session = some (next, outputs) →
    next.writeSide = session.writeSide

/-- Two effects in a row succeed one after the other. -/
theorem Effect.andThen_eq_some {first second : Effect} {session next : Session}
    {outputs : List Output} (success : first.andThen second session = some (next, outputs)) :
    ∃ middle earlier later, first session = some (middle, earlier) ∧
      second middle = some (next, later) ∧ outputs = earlier ++ later := by
  unfold Effect.andThen at success
  split at success
  · cases success
  · next middle earlier isFirst =>
      split at success
      · cases success
      · next last later isSecond =>
          cases success
          exact ⟨middle, earlier, later, isFirst, isSecond, rfl⟩

/-- Two effects in a row go through a session between them. -/
theorem Effect.exists_of_andThen {first second : Effect} {session next : Session}
    {outputs : List Output} (success : first.andThen second session = some (next, outputs)) :
    ∃ middle earlier later, first session = some (middle, earlier) ∧
      second middle = some (next, later) := by
  obtain ⟨middle, earlier, later, isFirst, isSecond, _⟩ := Effect.andThen_eq_some success
  exact ⟨middle, earlier, later, isFirst, isSecond⟩

/-- Two effects beside the writer are beside it together. -/
theorem Effect.Aside.andThen {first second : Effect} (aside : first.Aside)
    (asideNext : second.Aside) : (first.andThen second).Aside := by
  refine ⟨fun {session next outputs} success => ?_⟩
  obtain ⟨middle, _, _, isFirst, isSecond⟩ := Effect.exists_of_andThen success
  exact (asideNext.same isSecond).trans (aside.same isFirst)

namespace Session

/-- Dropping the signals leaves the side of the writer alone. -/
@[simp] theorem writeSide_uinitSocket (session : Session) :
    session.uinitSocket.writeSide = session.writeSide := by
  unfold uinitSocket
  split
  · next socket present =>
      split
      · simp [writeSide, present]
      · rfl
  · rfl

/-- A close event is beside the writer. -/
theorem onCloseEvent_aside (code : Int) : (onCloseEvent code).Aside :=
  ⟨fun success => by cases success; exact writeSide_uinitSocket _⟩

/-- Waiting for a heartbeat is beside the writer. -/
theorem asyncWaitNextHeadrtbeatEvent_aside (now : UInt32) :
    (asyncWaitNextHeadrtbeatEvent now).Aside := by
  refine ⟨fun {session next outputs} success => ?_⟩
  unfold asyncWaitNextHeadrtbeatEvent at success
  split at success
  · cases success
    rfl
  · split at success
    · exact (onCloseEvent_aside 0).same success
    · cases success
      rfl

/-- A connect event is beside the writer. -/
theorem onConnectEvent_aside (now : UInt32) : (onConnectEvent now).Aside :=
  Effect.Aside.andThen ⟨fun success => by cases success; rfl⟩ (asyncWaitNextHeadrtbeatEvent_aside now)

/-- Handling packets leaves the socket and the buffer alone. -/
theorem frame_foldl_handle (now : UInt32) (session : Session) (packets : List Packet) :
    (packets.foldl (onHandleInputPacket now) session).asyncSocket = session.asyncSocket ∧
      (packets.foldl (onHandleInputPacket now) session).writeBuffer = session.writeBuffer := by
  induction packets generalizing session with
  | nil => exact ⟨rfl, rfl⟩
  | cons packet packets inductionHypothesis =>
      obtain ⟨socket, buffer⟩ := inductionHypothesis (onHandleInputPacket now session packet)
      rw [List.foldl_cons, socket, buffer, onHandleInputPacket]
      split <;> exact ⟨rfl, rfl⟩

/-- Receiving touches neither the socket nor the write buffer. -/
theorem receiveAll_frame (host : HostOrder) (chunks : List (List UInt8 × UInt32))
    {session next : Session} {outputs : List Output}
    (success : receiveAll host chunks session = some (next, outputs)) :
    next.asyncSocket = session.asyncSocket ∧ next.writeBuffer = session.writeBuffer := by
  induction chunks generalizing session next outputs with
  | nil =>
      cases success
      exact ⟨rfl, rfl⟩
  | cons chunk chunks inductionHypothesis =>
      obtain ⟨middle, _, _, first, rest⟩ := Effect.exists_of_andThen success
      obtain ⟨socket, buffer⟩ := inductionHypothesis rest
      rw [socket, buffer]
      unfold receive at first
      split at first
      · cases first
      · cases first
        exact frame_foldl_handle _ _ _

/-- A read event changes only the read side of the socket. -/
theorem onReadEvent_frame (host : HostOrder) (chunks : List (List UInt8 × UInt32)) (ending : RecvEnd)
    {session next : Session} {outputs : List Output}
    (success : onReadEvent host chunks ending session = some (next, outputs)) :
    next.writeSide = session.writeSide ∧ next.hears = session.hears := by
  obtain ⟨middle, _, _, received, ended⟩ := Effect.exists_of_andThen success
  obtain ⟨socket, buffer⟩ := receiveAll_frame host chunks received
  cases ended
  simp only [writeSide, hears, mapSocket]
  rw [← socket, ← buffer]
  cases present : middle.asyncSocket with
  | none => split <;> simp [present]
  | some socket =>
      split <;> cases ending with
        | endOfStream => simp [present, AsyncSocket.recvEnd, AsyncSocket.recvSome]
        | error blocking =>
            cases blocking <;> simp [present, AsyncSocket.recvEnd, AsyncSocket.recvSome]

/-! ## What writing does -/

/-- What an offer of the buffer to a connected socket leaves. -/
theorem tryToWriteData_sent {result : SendResult} {session next : Session} {outputs : List Output}
    (offers : session.sends = true)
    (success : tryToWriteData result session = some (next, outputs)) :
    ∃ socket, session.asyncSocket = some socket ∧ socket.state = .connected ∧
      result.Admissible session.writeBuffer.length ∧
      next.asyncSocket = some (socket.send result) ∧
      next.writeBuffer =
        if result.sent ≠ socketError then session.writeBuffer.consume result.sent.toNat
        else session.writeBuffer := by
  simp only [sends, getState, Bool.and_eq_true, beq_iff_eq, bne_iff_ne] at offers
  unfold tryToWriteData at success
  split at success
  · next absent => simp [absent] at offers
  · next socket present =>
      simp only [present] at offers
      rw [if_neg (by simp [offers])] at success
      split at success
      · next admissible =>
          refine ⟨socket, present, offers.1, admissible, ?_⟩
          simp only at success
          split at success
          · next sent =>
              cases success
              exact ⟨rfl, by rw [if_pos sent]⟩
          · next unsent =>
              cases success
              exact ⟨rfl, by rw [if_neg unsent]⟩
      · cases success

/-- With nothing to send, nothing is written. -/
theorem tryToWriteData_idle {result : SendResult} {session next : Session} {outputs : List Output}
    (idle : session.sends = false)
    (success : tryToWriteData result session = some (next, outputs)) : next = session := by
  unfold tryToWriteData at success
  split at success
  · cases success
    rfl
  · next socket present =>
      rw [if_pos] at success
      · cases success
        rfl
      · simp only [sends, getState, present, Bool.and_eq_false_iff, beq_eq_false_iff_ne,
          bne_eq_false_iff_eq] at idle
        exact idle

/-- After an offer of the buffer, writability is waited for where it has to be, unless a
part was taken while `DE_WRITE` was not enabled. -/
theorem tryToWriteData_waits {result : SendResult} {session next : Session} {outputs : List Output}
    (success : tryToWriteData result session = some (next, outputs)) (broken : Bool) :
    WaitsForWritable (next, if session.sends then result.broken else broken) ↔
      (session.sends = true → result.isPartial session.writeBuffer.length = true →
        session.awaitsWrite = true) := by
  cases sends : session.sends with
  | false =>
      rw [tryToWriteData_idle sends success]
      simp [WaitsForWritable, sends]
  | true =>
      obtain ⟨socket, present, connected, admissible, after, buffer⟩ :=
        tryToWriteData_sent sends success
      have awaits : session.awaitsWrite = socket.enabledEvents.write := by
        simp [awaitsWrite, present]
      have nonempty : session.writeBuffer.length ≠ 0 := by
        simpa [Session.sends, getState, present, connected] using sends
      have state : (socket.send result).state = .connected := by
        unfold AsyncSocket.send
        split <;> exact connected
      have awaitsAfter : next.awaitsWrite = (socket.send result).enabledEvents.write := by
        simp [awaitsWrite, after]
      have sendsAfter : next.sends = (next.writeBuffer.length != 0) := by
        simp [Session.sends, getState, after, state]
      simp only [WaitsForWritable, sendsAfter, awaitsAfter, awaits, if_true, true_imp_iff]
      rcases admissible with failed | ⟨lower, upper⟩
      · -- An error is broken or asks for the event.
        have whole : result.isPartial session.writeBuffer.length = false := by
          simp [SendResult.isPartial, failed, socketError]
        simp only [whole, Bool.false_eq_true, false_imp_iff, iff_true]
        intro _ unbroken
        have blocking : result.blocking = true := by
          simpa [SendResult.broken, failed] using unbroken
        simp [AsyncSocket.send, failed, blocking, socketError]
      · have taken : result.sent ≠ socketError := by
          unfold socketError
          omega
        have same : socket.send result = socket := by
          unfold AsyncSocket.send
          rw [if_neg (by omega)]
        have unbroken : result.broken = false := by simp [SendResult.broken, taken]
        have left : next.writeBuffer.length = session.writeBuffer.length - result.sent.toNat := by
          rw [buffer, if_pos taken, ← NetworkBuffer.length_data,
            NetworkBuffer.data_consume (by omega), List.length_drop, NetworkBuffer.length_data]
        rw [same, unbroken, left]
        simp only [bne_iff_ne, ne_eq, true_imp_iff, SendResult.isPartial, Bool.and_eq_true,
          decide_eq_true_eq]
        constructor
        · exact fun waits partly => waits (by omega)
        · exact fun waits more => waits ⟨lower, by omega⟩

/-- Writing keeps a connect waited for. -/
theorem tryToWriteData_armed {result : SendResult} {session next : Session} {outputs : List Output}
    (success : tryToWriteData result session = some (next, outputs)) (armed : session.ConnectArmed) :
    next.ConnectArmed := by
  cases sends : session.sends with
  | false => rwa [tryToWriteData_idle sends success]
  | true =>
      obtain ⟨socket, present, _, _, after, _⟩ := tryToWriteData_sent sends success
      simp only [ConnectArmed, writeSide, awaitsWrite, present, after, Option.map_some,
        Option.getD_some] at armed ⊢
      unfold AsyncSocket.send
      split
      · exact fun _ => rfl
      · exact armed

/-- When `AsyncWrite` leaves the session waiting for what it needs. -/
theorem asyncWrite_waits {host : HostOrder} {data : Option (List UInt8)} {dataSize : UInt32}
    {packetType : UInt8} {result : SendResult} {session next : Session} {outputs : List Output}
    (success : asyncWrite host data dataSize packetType result session = some (next, outputs))
    (broken : Bool) :
    WaitsForWritable (next, if session.getState = .connected then result.broken else broken) ↔
      (session.getState = .connected →
        result.isPartial (appendPacket host session.writeBuffer data dataSize packetType).length =
          true → session.awaitsWrite = true) := by
  have nonempty : (appendPacket host session.writeBuffer data dataSize packetType).length ≠ 0 := by
    rw [← NetworkBuffer.length_data, data_appendPacket]
    simp [packetBytes]
  let filled : Session :=
    { session with writeBuffer := appendPacket host session.writeBuffer data dataSize packetType }
  have offers : filled.sends = (session.getState == .connected) := by
    rw [sends, bne_iff_ne.mpr nonempty, Bool.and_true]
    rfl
  have waits := tryToWriteData_waits success broken
  rw [offers] at waits
  simp only [beq_iff_eq] at waits
  exact waits

/-- `AsyncWrite` keeps a connect waited for. -/
theorem asyncWrite_armed {host : HostOrder} {data : Option (List UInt8)} {dataSize : UInt32}
    {packetType : UInt8} {result : SendResult} {session next : Session} {outputs : List Output}
    (success : asyncWrite host data dataSize packetType result session = some (next, outputs))
    (armed : session.ConnectArmed) : next.ConnectArmed :=
  tryToWriteData_armed success armed

/-! ## What a sweep does -/

/-- A signal to a slot that keeps the write side only disables its event. -/
theorem signal_aside {bit : Bool} {disable : DispatcherEvents → DispatcherEvents} {slot : Effect}
    (aside : slot.Aside) {session next : Session} {outputs : List Output}
    (success : signal bit disable slot session = some (next, outputs)) :
    next.writeSide = (if bit then session.mapSocket fun socket =>
        { socket with enabledEvents := disable socket.enabledEvents }
      else session).writeSide := by
  unfold signal at success
  split at success
  · next isSet =>
      rw [if_pos isSet]
      simp only at success
      split at success
      · exact aside.same success
      · cases success
        rfl
  · next unset =>
      rw [if_neg unset]
      cases success
      rfl

/-- A read event is a frame for the write side and for the slots. -/
theorem signal_read_frame {host : HostOrder} {bit : Bool} {chunks : List (List UInt8 × UInt32)}
    {ending : RecvEnd} {session next : Session} {outputs : List Output}
    (success : signal bit (fun enabled => { enabled with read := false })
      (onReadEvent host chunks ending) session = some (next, outputs)) :
    next.writeSide = session.writeSide ∧ next.hears = session.hears := by
  unfold signal at success
  split at success
  · have disabled : (session.mapSocket fun socket =>
        { socket with enabledEvents := { socket.enabledEvents with read := false } }).writeSide =
          session.writeSide ∧
        (session.mapSocket fun socket =>
          { socket with enabledEvents := { socket.enabledEvents with read := false } }).hears =
            session.hears := by
      cases present : session.asyncSocket <;> simp [writeSide, hears, mapSocket, present]
    simp only at success
    split at success
    · obtain ⟨side, slots⟩ := onReadEvent_frame host chunks ending success
      exact ⟨side.trans disabled.1, slots.trans disabled.2⟩
    · cases success
      exact disabled
  · cases success
    exact ⟨rfl, rfl⟩

/-- The places between the four signals of an event. -/
theorem onEvent_signals {host : HostOrder} {ff : DispatcherEvents} {err : Int} {now : UInt32}
    {chunks : List (List UInt8 × UInt32)} {ending : RecvEnd} {result : SendResult}
    {session next : Session} {outputs : List Output}
    (success : onEvent host ff err now chunks ending result session = some (next, outputs)) :
    ∃ connected read written beforeWrite afterWrite,
      connected.writeSide = (if ff.connect then session.mapSocket fun socket =>
          { socket with enabledEvents := { socket.enabledEvents with connect := false } }
        else session).writeSide ∧
      (ff.connect = false → connected = session) ∧
      read.writeSide = connected.writeSide ∧ read.hears = connected.hears ∧
      signal ff.write (fun enabled => { enabled with write := false }) (onWriteEvent result) read =
        some (written, beforeWrite) ∧
      signal ff.close (fun _ => .none) (onCloseEvent err) written = some (next, afterWrite) := by
  obtain ⟨connected, _, _, isConnected, success⟩ := Effect.exists_of_andThen success
  obtain ⟨read, _, _, isRead, success⟩ := Effect.exists_of_andThen success
  obtain ⟨written, beforeWrite, afterWrite, isWritten, isClosed⟩ := Effect.exists_of_andThen success
  obtain ⟨side, slots⟩ := signal_read_frame isRead
  refine ⟨connected, read, written, beforeWrite, afterWrite,
    signal_aside (onConnectEvent_aside now) isConnected, ?_, side, slots, isWritten, isClosed⟩
  intro unset
  rw [unset] at isConnected
  cases isConnected
  rfl

/-- The session once its write event is disabled. -/
def writeCleared (session : Session) : Session :=
  session.mapSocket fun socket =>
    { socket with enabledEvents := { socket.enabledEvents with write := false } }

/-- A write event takes off what was waited for. -/
theorem writeSide_writeCleared (session : Session) :
    session.writeCleared.writeSide =
      (session.writeSide.1.map fun side => (side.1, false, side.2.2), session.writeSide.2) := by
  cases present : session.asyncSocket <;> simp [writeCleared, writeSide, mapSocket, present]

/-- A write event changes nothing of what there is to send. -/
theorem writeCleared_view (session : Session) :
    session.writeCleared.sends = session.sends ∧ session.writeCleared.awaitsWrite = false := by
  constructor
  · rw [sends_eq, sends_eq, writeSide_writeCleared]
    cases session.writeSide.1 <;> rfl
  · rw [awaitsWrite_eq, writeSide_writeCleared]
    cases session.writeSide.1 <;> rfl

/-- Where no connection is awaited, the write event may be cleared. -/
theorem writeCleared_armed {session : Session}
    (unawaited : (session.writeSide.1.map (·.2.2)).getD false = false) :
    session.writeCleared.ConnectArmed := by
  intro awaited
  rw [writeSide_writeCleared] at awaited
  cases side : session.writeSide.1 <;> simp_all

/-- The write signal: nothing, a cleared event nobody hears, or an offer of the buffer. -/
theorem signal_write_cases {bit : Bool} {result : SendResult} {session next : Session}
    {outputs : List Output}
    (success : signal bit (fun enabled => { enabled with write := false }) (onWriteEvent result)
      session = some (next, outputs)) :
    (bit = false ∧ next = session) ∨
      (bit = true ∧ session.hears = false ∧ next = session.writeCleared) ∨
      (bit = true ∧ session.hears = true ∧
        tryToWriteData result session.writeCleared = some (next, outputs)) := by
  have slots : session.writeCleared.hears = session.hears := by
    cases present : session.asyncSocket <;> simp [writeCleared, hears, mapSocket, present]
  unfold signal at success
  split at success
  · next isSet =>
      simp only at success
      split at success
      · next heard => exact .inr (.inr ⟨isSet, slots ▸ heard, success⟩)
      · next unheard =>
          cases success
          change ¬session.writeCleared.hears = true at unheard
          rw [slots] at unheard
          exact .inr (.inl ⟨isSet, by simpa using unheard, rfl⟩)
  · next unset =>
      cases success
      exact .inl ⟨by simpa using unset, rfl⟩

/-- A socket whose state is not connected gets no offer. -/
theorem sends_of_state {session : Session} (state : session.getState ≠ .connected) :
    session.sends = false := by
  simp [sends, state]

/-- An event that closes the socket leaves nothing to wait for. -/
theorem swept_close {host : HostOrder} {ff : DispatcherEvents} {err : Int} {now : UInt32}
    {chunks : List (List UInt8 × UInt32)} {ending : RecvEnd} {result : SendResult}
    {session next : Session} {outputs : List Output} (closes : ff.close = true)
    (success : onEvent host ff err now chunks ending result (session.mapSocket (·.onPreEvent ff)) =
      some (next, outputs)) : next.sends = false ∧ next.ConnectArmed := by
  obtain ⟨connected, read, written, _, _, side, _, sameSide, _, isWritten, isClosed⟩ :=
    onEvent_signals success
  have closed : read.getState = .closed := by
    rw [getState_eq, sameSide, side]
    cases present : session.asyncSocket <;>
      cases connects : ff.connect <;>
        simp [writeSide, mapSocket, present, AsyncSocket.onPreEvent, closes, connects]
  have closedWritten : written.getState = .closed := by
    rcases signal_write_cases isWritten with ⟨_, same⟩ | ⟨_, _, same⟩ | ⟨_, _, offered⟩
    · rw [same, closed]
    · rw [same, getState_eq, writeSide_writeCleared]
      rw [getState_eq] at closed
      cases state : read.writeSide.1 <;> simp_all
    · have still : read.writeCleared.getState = .closed := by
        rw [getState_eq, writeSide_writeCleared]
        rw [getState_eq] at closed
        cases state : read.writeSide.1 <;> simp_all
      rw [tryToWriteData_idle (sends_of_state (by simp [still])) offered, still]
  have final := signal_aside (onCloseEvent_aside err) isClosed
  rw [if_pos closes] at final
  constructor
  · refine sends_of_state ?_
    rw [getState_eq, final]
    rw [getState_eq] at closedWritten
    cases present : written.asyncSocket <;>
      simp_all [writeSide, mapSocket]
  · rw [ConnectArmed, final]
    cases present : written.asyncSocket <;>
      simp [writeSide, mapSocket, present, DispatcherEvents.none]

/-- An event that does not close the socket ends at its write signal. -/
theorem swept_open {host : HostOrder} {ff : DispatcherEvents} {err : Int} {now : UInt32}
    {chunks : List (List UInt8 × UInt32)} {ending : RecvEnd} {result : SendResult}
    {session next : Session} {outputs : List Output} (stays : ff.close = false)
    (success : onEvent host ff err now chunks ending result (session.mapSocket (·.onPreEvent ff)) =
      some (next, outputs)) :
    ∃ read offered,
      read.writeSide = (session.writeSide.1.map fun side =>
          (if ff.connect then .connected else side.1, side.2.1, !ff.connect && side.2.2),
        session.writeSide.2) ∧
      (ff.connect = false → read.hears = session.hears) ∧
      signal ff.write (fun enabled => { enabled with write := false }) (onWriteEvent result) read =
        some (next, offered) := by
  obtain ⟨connected, read, written, offered, _, side, unconnected, sameSide, slots, isWritten,
    isClosed⟩ := onEvent_signals success
  rw [stays] at isClosed
  cases isClosed
  refine ⟨read, offered, ?_, fun unset => ?_, isWritten⟩
  · rw [sameSide, side]
    cases present : session.asyncSocket <;>
      cases connects : ff.connect <;>
        simp [writeSide, mapSocket, present, AsyncSocket.onPreEvent, stays, connects]
  · rw [slots, unconnected unset]
    cases present : session.asyncSocket <;>
      simp [hears, mapSocket, present, AsyncSocket.onPreEvent, stays, unset]

/-- A sweep reports a connection or writability, and a connection only where one is awaited. -/
theorem sweptFor_exclusive (session : Session) (ready : Readiness)
    (connects : (session.sweptFor ready).connect = true) :
    (session.sweptFor ready).write = false ∧ (session.writeSide.1.map (·.2.2)).getD false = true := by
  unfold sweptFor at connects ⊢
  cases present : session.asyncSocket with
  | none => simp [present, DispatcherEvents.none] at connects
  | some socket =>
      simp only [present, sweptEvents, Bool.and_eq_true] at connects
      simp [writeSide, present, sweptEvents, connects.1.2]

/-- The bit is set only for descriptors somebody waits for. -/
theorem not_awaited_of_write (session : Session) (ready : Readiness)
    (writes : (session.sweptFor ready).write = true) :
    (session.writeSide.1.map (·.2.2)).getD false = false := by
  unfold sweptFor at writes
  cases present : session.asyncSocket with
  | none => simp [writeSide, present]
  | some socket =>
      simp only [present, sweptEvents, Bool.and_eq_true, Bool.not_eq_true'] at writes
      simp [writeSide, present, writes.2]

end Session

/-- What one sweep means for a session that waits for writability. -/
theorem swept_waits {host : HostOrder} {ready : Readiness} {now : UInt32}
    {chunks : List (List UInt8 × UInt32)} {ending : RecvEnd} {result : SendResult}
    {session next : Session} {outputs : List Output} {broken : Bool}
    (armed : session.ConnectArmed) (waits : WaitsForWritable (session, broken))
    (success : Session.onEvent host (session.sweptFor ready) ready.errcode now chunks ending result
      (session.mapSocket (·.onPreEvent (session.sweptFor ready))) = some (next, outputs)) :
    (WaitsForWritable
        (next, lastBroken broken session (.swept ready now chunks ending result) next) ↔
      SendsArmed host (session, broken) (.swept ready now chunks ending result)) ∧
      next.ConnectArmed := by
  have exclusive := session.sweptFor_exclusive ready
  have unawaited := session.not_awaited_of_write ready
  simp only [SendsArmed, lastBroken, LoopEvent.sendMade]
  generalize session.sweptFor ready = ff at success exclusive unawaited ⊢
  cases closes : ff.close with
  | true =>
      obtain ⟨idle, armedNext⟩ := Session.swept_close closes success
      refine ⟨?_, armedNext⟩
      simp [WaitsForWritable, idle]
  | false =>
      obtain ⟨read, offered, side, slots, written⟩ := Session.swept_open closes success
      cases connects : ff.connect with
      | true =>
          obtain ⟨unwritten, requested⟩ := exclusive connects
          rw [unwritten] at written
          cases written
          have awaits : next.awaitsWrite = true := by
            rw [Session.awaitsWrite_eq, side]
            have before := armed requested
            rw [Session.awaitsWrite_eq] at before
            cases present : session.writeSide.1 <;> simp_all
          refine ⟨?_, fun _ => awaits⟩
          simp [WaitsForWritable, awaits, unwritten]
      | false =>
          have same : read.writeSide = session.writeSide := by
            rw [side]
            cases present : session.writeSide.1 <;>
              simp [connects, ← present]
          have heard := slots connects
          rcases Session.signal_write_cases written with ⟨unset, rfl⟩ | ⟨isSet, unheard, rfl⟩ |
            ⟨isSet, hears, offers⟩
          · refine ⟨?_, (Session.connectArmed_congr same).mpr armed⟩
            simpa [unset] using (waitsForWritable_congr same broken).mpr waits
          · obtain ⟨sends, awaits⟩ := read.writeCleared_view
            refine ⟨?_, Session.writeCleared_armed (by rw [same]; exact unawaited isSet)⟩
            rw [heard] at unheard
            simp [WaitsForWritable, sends, awaits, isSet, unheard, Session.sends_congr same]
          · obtain ⟨sends, awaits⟩ := read.writeCleared_view
            have armedCleared := Session.writeCleared_armed (by rw [same]; exact unawaited isSet)
            refine ⟨?_, Session.tryToWriteData_armed offers armedCleared⟩
            have offered := Session.tryToWriteData_waits offers broken
            rw [heard] at hears
            have buffer : read.writeCleared.writeBuffer = session.writeBuffer :=
              congrArg Prod.snd same
            rw [sends, awaits, buffer, Session.sends_congr same] at offered
            cases isSent : session.sends <;> simp_all

/-! ## Whole runs -/

/-- Both invariants, which no call but a write or an event can break. -/
def Sound (session : Session) (broken : Bool) : Prop :=
  WaitsForWritable (session, broken) ∧ session.ConnectArmed

/-- A session whose write side is that of a socket. -/
theorem sound_of_socket {session : Session} (socket : AsyncSocket)
    (present : session.asyncSocket = some socket) {broken : Bool}
    (sound : (socket.state = .connected → socket.enabledEvents.write = true) ∧
      (socket.enabledEvents.connect = true → socket.enabledEvents.write = true)) :
    Sound session broken := by
  constructor
  · intro sends _
    simp only [Session.sends, Session.getState, present, Bool.and_eq_true, beq_iff_eq] at sends
    simpa [Session.awaitsWrite, present] using sound.1 sends.1
  · simpa [Session.ConnectArmed, Session.writeSide, Session.awaitsWrite, present] using sound.2

/-- Only the side of the writer matters. -/
theorem sound_congr {session next : Session} (same : next.writeSide = session.writeSide)
    {broken : Bool} (sound : Sound session broken) : Sound next broken :=
  ⟨(waitsForWritable_congr same broken).mpr sound.1, (Session.connectArmed_congr same).mpr sound.2⟩

/-- `Start` keeps the session sound. -/
theorem start_sound {session : Session} (connectId : UInt32) (unresolved : Bool)
    (outcome : ConnectOutcome) {broken : Bool} (sound : Sound session broken) :
    Sound (session.start connectId unresolved outcome) broken := by
  cases present : session.asyncSocket with
  | some socket =>
      have same : (session.start connectId unresolved outcome).writeSide = session.writeSide := by
        simp [Session.start, Session.writeSide, present]
      exact sound_congr same sound
  | none =>
      refine sound_of_socket (AsyncSocket.create.connect unresolved outcome).1 ?_ ?_
      · simp [Session.start, present]
      · cases unresolved <;> cases outcome <;> decide

/-- `Stop` keeps the session sound. -/
theorem stop_sound {session : Session} {broken : Bool} (sound : Sound session broken) :
    Sound session.stop broken := by
  have same := sound_congr session.writeSide_uinitSocket sound
  unfold Session.stop
  simp only
  split
  · next socket present =>
      split
      · exact sound_of_socket socket.close rfl (by simp [AsyncSocket.close, DispatcherEvents.none])
      · exact same
  · exact same

/-- The end of a resolution keeps the session sound. -/
theorem resolved_sound {error : Int} {outcome : ConnectOutcome} {session next : Session}
    {outputs : List Output} {broken : Bool} (sound : Sound session broken)
    (success : Session.onResolveResult error outcome session = some (next, outputs)) :
    Sound next broken := by
  unfold Session.onResolveResult at success
  split at success
  · cases success
    exact sound
  · next socket present =>
      have reached : ∀ answer, answer =
            (if error = 0 then socket.doConnect outcome else (socket.close, error)) →
          Sound { session with asyncSocket := some answer.1 } broken := by
        rintro answer rfl
        split
        · cases outcome with
          | succeeded | inProgress => exact sound_of_socket _ rfl (by simp [AsyncSocket.doConnect])
          | failed =>
              exact sound_congr (by simp [Session.writeSide, present, AsyncSocket.doConnect]) sound
        · exact sound_of_socket _ rfl (by simp [AsyncSocket.close, DispatcherEvents.none])
      generalize isAnswer : (if error = 0 then socket.doConnect outcome else (socket.close, error)) =
        answer at success
      have reached := reached answer isAnswer.symm
      obtain ⟨reachedSocket, failure⟩ := answer
      simp only at success
      split at success
      · exact sound_congr ((Session.onCloseEvent_aside failure).same success) reached
      · cases success
        exact reached

/-- A write that was made decides whether the last one was broken. -/
theorem lastBroken_eq (session next : Session) (broken : Bool) (label : LoopEvent)
    (result : SendResult)
    (write : label.sendMade session = if session.getState = .connected then some result else none) :
    lastBroken broken session label next =
      if session.getState = .connected then result.broken else broken := by
  rw [lastBroken, write]
  split <;> simp_all

/-- One step keeps unsent data waiting exactly when its `Send` is armed. -/
theorem sound_step {host : HostOrder} {session next : Session} {broken after : Bool}
    {label : LoopEvent} {outputs : List Output} (sound : Sound session broken)
    (transition : (sendingMachine host).step (session, broken) label =
      some ((next, after), outputs)) :
    (WaitsForWritable (next, after) ↔ SendsArmed host (session, broken) label) ∧
      next.ConnectArmed := by
  obtain ⟨step, noted⟩ := Machine.step_of_watch transition
  simp only at step noted
  subst noted
  cases label with
  | start connectId unresolved outcome =>
      cases step
      have kept := start_sound connectId unresolved outcome sound
      exact ⟨⟨fun _ => trivial, fun _ => kept.1⟩, kept.2⟩
  | stop =>
      cases step
      have kept := stop_sound sound
      exact ⟨⟨fun _ => trivial, fun _ => kept.1⟩, kept.2⟩
  | resolved error outcome =>
      have kept := resolved_sound sound step
      exact ⟨⟨fun _ => trivial, fun _ => kept.1⟩, kept.2⟩
  | asyncWrite data dataSize packetType result =>
      refine ⟨?_, Session.asyncWrite_armed step sound.2⟩
      rw [lastBroken_eq session next broken _ result rfl]
      exact Session.asyncWrite_waits step broken
  | timer now result =>
      obtain ⟨middle, _, _, written, rest⟩ := Effect.exists_of_andThen step
      have same := (Session.asyncWaitNextHeadrtbeatEvent_aside now).same rest
      refine ⟨?_, (Session.connectArmed_congr same).mpr (Session.asyncWrite_armed written sound.2)⟩
      rw [waitsForWritable_congr same, lastBroken_eq session next broken _ result rfl]
      exact Session.asyncWrite_waits written broken
  | swept ready now chunks ending result => exact swept_waits sound.2 sound.1 step

/-- A socket that awaits its connection awaits writability, in every run. -/
theorem connectArmed_of_run {host : HostOrder} {first final : Session × Bool}
    {labels : List LoopEvent} {outputs : List Output} (initial : first.1.ConnectArmed)
    (run : (sendingMachine host).Run first labels final outputs) : final.1.ConnectArmed := by
  refine run.invariant (fun _ watched _ => watched.1.ConnectArmed) initial ?_
  rintro labels ⟨session, broken⟩ outputs label ⟨next, after⟩ emitted armed _ transition
  -- With a broken `Send` behind it nothing has to wait, so the step lemma applies.
  have sound : Sound session true := ⟨fun _ unbroken => (by cases unbroken), armed⟩
  have step := (Machine.step_of_watch transition).1
  have again : (sendingMachine host).step (session, true) label =
      some ((next, lastBroken true session label next), emitted) := by
    simp only [sendingMachine, Machine.watch]
    rw [step]
  exact (sound_step sound again).2

/-- Unsent data always waits for writability exactly when every `Send` that takes a part is
made outside a writable event with `DE_WRITE` still enabled, and no writable event with
unsent data finds the session's slots cut off. -/
theorem waitsForWritable_iff (host : HostOrder) (sessionId : UInt32) {labels : List LoopEvent}
    {final : Session × Bool} {outputs : List Output}
    (run : (sendingMachine host).Run (Session.new sessionId, false) labels final outputs) :
    (sendingMachine host).Throughout WaitsForWritable (Session.new sessionId, false) labels final
        outputs ↔
      (sendingMachine host).RunWhere (SendsArmed host) (Session.new sessionId, false) labels final
        outputs := by
  refine Machine.RunWhere.throughout_iff WaitsForWritable (fun sends => by cases sends) ?_ run
    (fun _ _ => trivial)
  rintro labels ⟨session, broken⟩ outputs label ⟨next, after⟩ emitted prior waits _ transition
  have armed : session.ConnectArmed := connectArmed_of_run (fun awaited => by cases awaited) prior
  exact (sound_step ⟨waits, armed⟩ transition).1

/-- A frame that `Send` refuses twice, and whose rest the third writable event takes. -/
def blockedSend : List LoopEvent :=
  [.start 1 false .succeeded,
    .swept ⟨false, true, 0, false⟩ 10 [] (.error true) ⟨0, false⟩,
    .asyncWrite (some [123, 125]) 2 packetTypeJson ⟨-1, true⟩,
    .swept ⟨false, true, 0, false⟩ 20 [] (.error true) ⟨-1, true⟩,
    .swept ⟨false, true, 0, false⟩ 30 [] (.error true) ⟨10, false⟩]

/-- A blocked frame waits for writability until it is sent. -/
theorem waitsForWritable_blocked_send :
    ∃ final outputs,
      (sendingMachine .littleEndian).Run (Session.new 2, false) blockedSend final outputs ∧
      (sendingMachine .littleEndian).Throughout WaitsForWritable (Session.new 2, false) blockedSend
        final outputs := by
  have checked : ((sendingMachine .littleEndian).exec (Session.new 2, false) blockedSend).any
      fun _ => true := by decide +kernel
  have permitted : (sendingMachine .littleEndian).permits
      (fun watched label => decide (SendsArmed .littleEndian watched label)) (Session.new 2, false)
      blockedSend = true := by decide +kernel
  obtain ⟨final, outputs, run, _⟩ :=
    Machine.exists_runWhere_of_exec (fun _ _ => of_decide_eq_true) permitted checked
  exact ⟨final, outputs, run.run, (waitsForWritable_iff .littleEndian 2 run.run).mpr run⟩

/-- The first writable event after the connection has passed, and `Send` takes five bytes of ten. -/
def cutSend : List LoopEvent :=
  [.start 1 false .succeeded,
    .swept ⟨false, true, 0, false⟩ 10 [] (.error true) ⟨0, false⟩,
    .asyncWrite (some [123, 125]) 2 packetTypeJson ⟨5, false⟩]

/-- The five bytes that are left wait for nothing. -/
theorem cut_send_waits_for_nothing :
    ∃ final outputs,
      (sendingMachine .littleEndian).Run (Session.new 2, false) cutSend final outputs ∧
      final.1.getState = .connected ∧ final.1.writeBuffer.length = 5 ∧ final.2 = false ∧
      ¬WaitsForWritable final := by
  have checked : ((sendingMachine .littleEndian).exec (Session.new 2, false) cutSend).any
      fun result => result.1.1.getState == .connected && result.1.1.writeBuffer.length == 5 &&
        !result.1.2 && !result.1.1.awaitsWrite := by decide +kernel
  obtain ⟨final, outputs, run, checked⟩ := Machine.exists_run_of_exec checked
  simp only [Bool.and_eq_true, beq_iff_eq, Bool.not_eq_true'] at checked
  obtain ⟨⟨⟨connected, left⟩, unbroken⟩, unaware⟩ := checked
  refine ⟨final, outputs, run, connected, left, unbroken, fun waits => ?_⟩
  have awaits := waits (by simp [Session.sends, connected, left]) unbroken
  rw [unaware] at awaits
  cases awaits

end VzSdk.Transport
