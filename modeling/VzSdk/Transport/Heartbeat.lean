import VzSdk.Transport.Writability

/-!
# The heartbeat timeout

A session remembers in `ms_start_` when it last heard from its peer, and its
timer closes it when that was too long ago. Zero stands for "not started", and it
is also a reading of the clock; and the distance of two readings is a signed
number. `heartbeat_timeout_exact` says in which runs every tick decides by the
last heartbeat alone.
-/

namespace VzSdk.Transport

open VzSdk.Base VzSdk.Event VzSdk.Std

/-- What a run has heard: the clock at the last heartbeat, or at the connect event if none was
received, and whether the timer is set. -/
structure Heartbeats where
  last : Option UInt32
  armed : Bool
deriving DecidableEq, Repr

/-- The packet is a heartbeat of the device. -/
def isHeartbeat (packet : Packet) : Bool := packet.packetType = packetTypeHeartbeat

/-- The readings of the clock at which heartbeats are handled. -/
def heartbeatClocks (host : HostOrder) :
    NetworkBuffer → List (List UInt8 × UInt32) → List UInt32
  | _, [] => []
  | readBuffer, (bytes, now) :: chunks =>
      match processInput host (readBuffer.writeBytes bytes) with
      | none => []
      | some (readBuffer, packets) =>
          (if packets.any isHeartbeat then [now] else []) ++ heartbeatClocks host readBuffer chunks

namespace Heartbeats

/-- What the event adds. -/
def note (host : HostOrder) (heard : Heartbeats) (session : Session) (event : Event) : Heartbeats :=
  match event with
  | .timer now result =>
      match Session.onMessage host now result session with
      | none => heard
      | some (_, outputs) =>
          { heard with armed := outputs.contains (.postDelayed defaultHeadbeatTimeout) }
  | .dispatch ff _ now chunks _ _ =>
      let session := session.mapSocket (·.onPreEvent ff)
      let heard := if ff.connect && session.hears then ⟨some now, true⟩ else heard
      if ff.read && session.hears then
        { heard with
          last := (heartbeatClocks host session.readBuffer chunks).getLast? <|> heard.last }
      else heard
  | _ => heard

end Heartbeats

/-- A session with what it has heard. -/
def heartbeatMachine (host : HostOrder) : Machine (Session × Heartbeats) Event Output :=
  (sessionMachine host).watch fun heard session event _ => heard.note host session event

/-- What the event loop can do: the timer fires when it was set, and the connection is made
once, before anything is received. -/
def Scheduled (watched : Session × Heartbeats) : Event → Prop
  | .timer _ _ => watched.2.armed = true
  | .dispatch ff _ _ _ _ _ => ff.connect = true → watched.2.last = none
  | _ => True

/-- Neither the connection nor a heartbeat comes at the reading 0, and a tick comes less than
2^31 ms after the last heartbeat. -/
def ClockFits (host : HostOrder) (watched : Session × Heartbeats) : Event → Prop
  | .timer now _ => ∀ last, watched.2.last = some last → (now - last).toNat < half
  | .dispatch ff _ now chunks _ _ => watched.1.hears = true → (ff.connect = true → now ≠ 0) ∧
      (ff.read = true → 0 ∉ heartbeatClocks host watched.1.readBuffer chunks)
  | _ => True

instance (watched : Session × Heartbeats) (event : Event) : Decidable (Scheduled watched event) :=
  match event with
  | .timer _ _ => inferInstanceAs (Decidable (watched.2.armed = true))
  | .dispatch ff _ _ _ _ _ =>
      inferInstanceAs (Decidable (ff.connect = true → watched.2.last = none))
  | .start _ _ _ => .isTrue trivial
  | .stop => .isTrue trivial
  | .asyncWrite _ _ _ _ => .isTrue trivial
  | .resolved _ _ => .isTrue trivial

instance (host : HostOrder) (watched : Session × Heartbeats) (event : Event) :
    Decidable (ClockFits host watched event) :=
  match event with
  | .timer _ _ => Option.decidableForallMem watched.2.last
  | .dispatch ff _ now chunks _ _ =>
      inferInstanceAs (Decidable (watched.1.hears = true → (ff.connect = true → now ≠ 0) ∧
        (ff.read = true → 0 ∉ heartbeatClocks host watched.1.readBuffer chunks)))
  | .start _ _ _ => .isTrue trivial
  | .stop => .isTrue trivial
  | .asyncWrite _ _ _ _ => .isTrue trivial
  | .resolved _ _ => .isTrue trivial

/-- A tick closes the session if more than three timeouts have passed since the last heartbeat,
and sets the timer again otherwise. -/
def TickExact (host : HostOrder) (watched : Session × Heartbeats) : Event → Prop
  | .timer now result => ∀ last next emitted, watched.2.last = some last →
      Session.onMessage host now result watched.1 = some (next, emitted) →
        ((.closeEvent 0 watched.1.connectId ∈ emitted ↔
            (now - last).toNat > defaultHeadbeatTimeout * 3) ∧
          (.postDelayed defaultHeadbeatTimeout ∈ emitted ↔
            ¬(now - last).toNat > defaultHeadbeatTimeout * 3))
  | _ => True

/-! ## What each effect does to `ms_start_` -/

/-- The effect leaves `ms_start_` alone. -/
structure Effect.KeepsStart (effect : Effect) : Prop where
  same : ∀ {session next outputs}, effect session = some (next, outputs) →
    next.msStart = session.msStart

namespace Session

/-- Closing the socket leaves the clock of the heartbeats. -/
@[simp] theorem msStart_uinitSocket (session : Session) :
    session.uinitSocket.msStart = session.msStart := by
  unfold uinitSocket
  split
  · split <;> rfl
  · rfl

/-- `Stop` leaves the clock of the heartbeats. -/
theorem msStart_stop (session : Session) : session.stop.msStart = session.msStart := by
  unfold stop
  simp only
  split
  · split <;> simp
  · simp

/-- `Start` leaves the clock of the heartbeats. -/
theorem msStart_start (session : Session) (connectId : UInt32) (unresolved : Bool)
    (outcome : ConnectOutcome) :
    (session.start connectId unresolved outcome).msStart = session.msStart := by
  unfold start
  simp only
  split <;> rfl

/-- Writing to the socket leaves the clock of the heartbeats. -/
theorem tryToWriteData_keepsStart (result : SendResult) : (tryToWriteData result).KeepsStart := by
  refine ⟨fun {session next outputs} success => ?_⟩
  unfold tryToWriteData at success
  split at success
  · cases success
    rfl
  · split at success
    · cases success
      rfl
    · split at success
      · simp only at success
        split at success <;> cases success <;> rfl
      · cases success

/-- `AsyncWrite` leaves the clock of the heartbeats. -/
theorem asyncWrite_keepsStart (host : HostOrder) (data : Option (List UInt8)) (dataSize : UInt32)
    (packetType : UInt8) (result : SendResult) :
    (asyncWrite host data dataSize packetType result).KeepsStart :=
  ⟨fun success => ((tryToWriteData_keepsStart result).same success).trans rfl⟩

/-- A closed connection leaves the clock of the heartbeats. -/
theorem onCloseEvent_keepsStart (code : Int) : (onCloseEvent code).KeepsStart :=
  ⟨fun success => by cases success; exact msStart_uinitSocket _⟩

/-- A resolved address leaves the clock of the heartbeats. -/
theorem onResolveResult_keepsStart (error : Int) (outcome : ConnectOutcome) :
    (onResolveResult error outcome).KeepsStart := by
  refine ⟨fun {session next outputs} success => ?_⟩
  unfold onResolveResult at success
  split at success
  · cases success
    rfl
  · split at success
    simp only at success
    split at success
    · exact ((onCloseEvent_keepsStart _).same success).trans rfl
    · cases success
      rfl

/-- A signal leaves the clock of the heartbeats when its slot does. -/
theorem signal_keepsStart (bit : Bool) (disable : DispatcherEvents → DispatcherEvents)
    {slot : Effect} (keeps : slot.KeepsStart) : (signal bit disable slot).KeepsStart := by
  refine ⟨fun {session next outputs} success => ?_⟩
  unfold signal at success
  split at success
  · simp only at success
    split at success
    · exact (keeps.same success).trans rfl
    · cases success
      rfl
  · cases success
    rfl

/-- Writing reports nothing but the bytes the socket took. -/
theorem asyncWrite_outputs {host : HostOrder} {data : Option (List UInt8)} {dataSize : UInt32}
    {packetType : UInt8} {result : SendResult} {session next : Session} {outputs : List Output}
    (success : asyncWrite host data dataSize packetType result session = some (next, outputs)) :
    next.connectId = session.connectId ∧ ∀ output ∈ outputs, ∃ bytes, output = .accepted bytes := by
  unfold asyncWrite tryToWriteData at success
  simp only at success
  split at success
  · cases success
    exact ⟨rfl, List.forall_mem_nil _⟩
  · split at success
    · cases success
      exact ⟨rfl, List.forall_mem_nil _⟩
    · split at success
      · split at success
        · cases success
          exact ⟨rfl, fun output member => ⟨_, List.mem_singleton.mp member⟩⟩
        · cases success
          exact ⟨rfl, List.forall_mem_nil _⟩
      · cases success

/-- Of the packets that are read only a heartbeat sets the clock. -/
theorem msStart_foldl_handle (now : UInt32) (session : Session) (packets : List Packet) :
    (packets.foldl (onHandleInputPacket now) session).msStart =
      if packets.any isHeartbeat then now else session.msStart := by
  induction packets generalizing session with
  | nil => rfl
  | cons packet packets inductionHypothesis =>
      rw [List.foldl_cons, inductionHypothesis, List.any_cons, onHandleInputPacket]
      by_cases heartbeat : packet.packetType = packetTypeHeartbeat
      · simp [isHeartbeat, heartbeat]
      · simp [isHeartbeat, heartbeat]

/-- After receiving, `ms_start_` is the clock at the last heartbeat. -/
theorem msStart_receiveAll (host : HostOrder) (chunks : List (List UInt8 × UInt32))
    {session next : Session} {outputs : List Output}
    (success : receiveAll host chunks session = some (next, outputs)) :
    next.msStart =
      (heartbeatClocks host session.readBuffer chunks).getLast?.getD session.msStart := by
  induction chunks generalizing session next outputs with
  | nil =>
      cases success
      rfl
  | cons chunk chunks inductionHypothesis =>
      obtain ⟨bytes, now⟩ := chunk
      obtain ⟨middle, _, _, first, rest⟩ := Effect.exists_of_andThen success
      rw [inductionHypothesis rest]
      unfold receive at first
      split at first
      · cases first
      · next readBuffer packets parsed =>
          have clocks : heartbeatClocks host session.readBuffer ((bytes, now) :: chunks) =
              (if packets.any isHeartbeat then [now] else []) ++
                heartbeatClocks host readBuffer chunks := by
            simp only [heartbeatClocks, parsed]
          cases first
          rw [clocks, msStart_foldl_handle, readBuffer_foldl_handle]
          simp only [List.getLast?_append]
          split <;> cases (heartbeatClocks host readBuffer chunks).getLast? <;> rfl

/-- A read event sets the clock to the last heartbeat it reads. -/
theorem msStart_onReadEvent (host : HostOrder) (chunks : List (List UInt8 × UInt32))
    (ending : RecvEnd) {session next : Session} {outputs : List Output}
    (success : onReadEvent host chunks ending session = some (next, outputs)) :
    next.msStart =
      (heartbeatClocks host session.readBuffer chunks).getLast?.getD session.msStart := by
  obtain ⟨middle, _, _, received, ended⟩ := Effect.exists_of_andThen success
  rw [← msStart_receiveAll host chunks received]
  cases ended
  simp only [mapSocket]
  split <;> rfl

/-- The session once a signal's event is disabled. -/
def disabled (session : Session) (disable : DispatcherEvents → DispatcherEvents) : Session :=
  session.mapSocket fun socket => { socket with enabledEvents := disable socket.enabledEvents }

/-- Disabling events does not change whether the session hears its socket. -/
@[simp] theorem hears_disabled (session : Session) (disable : DispatcherEvents → DispatcherEvents) :
    (session.disabled disable).hears = session.hears := by
  cases present : session.asyncSocket <;> simp [hears, disabled, mapSocket, present]

/-- A signal calls its slot, or nobody hears it. -/
theorem signal_cases {bit : Bool} {disable : DispatcherEvents → DispatcherEvents} {slot : Effect}
    {session next : Session} {outputs : List Output}
    (success : signal bit disable slot session = some (next, outputs)) :
    ((bit && session.hears) = true ∧ slot (session.disabled disable) = some (next, outputs)) ∨
      ((bit && session.hears) = false ∧ next.msStart = session.msStart ∧
        next.readBuffer = session.readBuffer ∧ next.hears = session.hears) := by
  unfold signal at success
  split at success
  · next set =>
      change (if (session.disabled disable).hears then slot (session.disabled disable)
        else some (session.disabled disable, [])) = _ at success
      rw [hears_disabled] at success
      split at success
      · next heard => exact .inl ⟨by simp [set, heard], success⟩
      · next deaf =>
          cases success
          exact .inr ⟨by simp [deaf], rfl, rfl, session.hears_disabled disable⟩
  · next unset =>
      cases success
      exact .inr ⟨by simp [unset], rfl, rfl, rfl⟩

/-- What the dispatcher does before an event does not change whether the session hears it. -/
theorem hears_onPreEvent (session : Session) (ff : DispatcherEvents) :
    (session.mapSocket (·.onPreEvent ff)).hears = session.hears := by
  cases present : session.asyncSocket with
  | none => simp [hears, mapSocket, present]
  | some socket =>
      simp only [hears, mapSocket, present, Option.map_some, AsyncSocket.onPreEvent]
      split <;> split <;> rfl

/-- A first connect event sets `ms_start_`. -/
theorem signal_connect {bit : Bool} {now : UInt32} {session connected : Session}
    {outputs : List Output} (unstarted : bit = true → session.msStart = 0)
    (success : signal bit (fun enabled => { enabled with connect := false }) (onConnectEvent now)
      session = some (connected, outputs)) :
    connected.msStart = (if bit && session.hears then now else session.msStart) ∧
      connected.readBuffer = session.readBuffer ∧ connected.hears = session.hears := by
  rcases signal_cases success with ⟨heard, connects⟩ | ⟨deaf, isStart, sameBuffer, sameHears⟩
  · obtain ⟨_, _, _, first, waited⟩ := Effect.exists_of_andThen connects
    cases first
    have isUnstarted : (session.disabled fun enabled =>
        { enabled with connect := false }).msStart = 0 :=
      unstarted (Bool.and_eq_true_iff.mp heard).1
    rw [asyncWaitNextHeadrtbeatEvent, if_pos isUnstarted] at waited
    cases waited
    rw [heard]
    refine ⟨rfl, rfl, ?_⟩
    exact session.hears_disabled fun enabled => { enabled with connect := false }
  · rw [deaf]
    exact ⟨isStart, sameBuffer, sameHears⟩

/-- A read event is handled by the slot, with the read event disabled. -/
theorem signal_read {bit : Bool} {host : HostOrder} {chunks : List (List UInt8 × UInt32)}
    {ending : RecvEnd} {session next : Session} {outputs : List Output}
    (success : signal bit (fun enabled => { enabled with read := false })
      (onReadEvent host chunks ending) session = some (next, outputs)) :
    next.msStart =
      if bit && session.hears then
        (heartbeatClocks host session.readBuffer chunks).getLast?.getD session.msStart
      else session.msStart := by
  rcases signal_cases success with ⟨heard, reads⟩ | ⟨deaf, isStart, _, _⟩
  · rw [heard, msStart_onReadEvent host chunks ending reads]
    rfl
  · rw [deaf, isStart]
    rfl

/-- A dispatched event sets `ms_start_` when it connects or hears a heartbeat. -/
theorem msStart_onEvent {host : HostOrder} {ff : DispatcherEvents} {err : Int} {now : UInt32}
    {chunks : List (List UInt8 × UInt32)} {ending : RecvEnd} {result : SendResult}
    {session next : Session} {outputs : List Output}
    (unstarted : ff.connect = true → session.msStart = 0)
    (success : onEvent host ff err now chunks ending result session = some (next, outputs)) :
    next.msStart =
      if ff.read && session.hears then
        (heartbeatClocks host session.readBuffer chunks).getLast?.getD
          (if ff.connect && session.hears then now else session.msStart)
      else if ff.connect && session.hears then now else session.msStart := by
  obtain ⟨connected, _, _, isConnected, success⟩ := Effect.exists_of_andThen success
  obtain ⟨read, _, _, isRead, success⟩ := Effect.exists_of_andThen success
  obtain ⟨written, _, _, isWritten, isClosed⟩ := Effect.exists_of_andThen success
  obtain ⟨isStart, sameBuffer, sameHears⟩ := signal_connect unstarted isConnected
  rw [(signal_keepsStart _ _ (onCloseEvent_keepsStart err)).same isClosed,
    (signal_keepsStart _ _ (tryToWriteData_keepsStart result)).same isWritten,
    signal_read isRead, sameBuffer, sameHears, isStart]

end Session

/-! ## Runs -/

/-- `ms_start_` is the clock at the last heartbeat, and zero before the connect event. -/
structure Heard (msStart : UInt32) (heard : Heartbeats) : Prop where
  unstarted : heard.last = none → msStart = 0 ∧ heard.armed = false
  started : ∀ last, heard.last = some last → msStart = last ∧ last ≠ 0

/-- A connection sets the clock of a session and starts its heartbeats. -/
theorem Heard.connect {msStart now : UInt32} {heard : Heartbeats} (holds : Heard msStart heard)
    {connects : Bool} (notZero : connects = true → now ≠ 0) :
    Heard (if connects then now else msStart) (if connects then ⟨some now, true⟩ else heard) := by
  cases connects with
  | false => exact holds
  | true =>
      refine ⟨(fun isNone => by cases isNone), fun last isLast => ?_⟩
      cases isLast
      exact ⟨rfl, notZero rfl⟩

/-- A read event sets the clock to the last heartbeat heard. -/
theorem Heard.receive {msStart : UInt32} {heard : Heartbeats} (holds : Heard msStart heard)
    {clocks : List UInt32} (noZero : 0 ∉ clocks) :
    Heard (clocks.getLast?.getD msStart)
      { heard with last := clocks.getLast? <|> heard.last } := by
  cases isLast : clocks.getLast? with
  | none => exact holds
  | some clock =>
      refine ⟨(fun isNone => by cases isNone), fun last same => ?_⟩
      cases same
      refine ⟨rfl, ?_⟩
      rintro rfl
      exact noZero (List.mem_of_getLast? isLast)

/-- Less than 2^31 ms apart, the signed distance is the distance. -/
theorem timeDiff_gt_iff {now last : UInt32} (near : (now - last).toNat < half) (delay : Nat) :
    timeDiff now last > delay ↔ (now - last).toNat > delay := by
  have isDistance : timeDiff now last = ((now - last).toNat : Int) := by
    unfold timeDiff intOfUInt32
    unfold half at near
    rw [BitVec.toInt_eq_toNat_of_lt (by simp only [UInt32.toNat_toBitVec]; omega)]
    rfl
  rw [isDistance]
  omega

/-- A tick of a started session, by its distance from the last heartbeat. -/
theorem onMessage_cases {host : HostOrder} {now : UInt32} {result : SendResult}
    {session next : Session} {emitted : List Output} (started : session.msStart ≠ 0)
    (success : Session.onMessage host now result session = some (next, emitted)) :
    next.msStart = session.msStart ∧ ∃ written,
      (∀ output ∈ written, ∃ bytes, output = .accepted bytes) ∧
      emitted = written ++
        if timeDiff now session.msStart > (defaultHeadbeatTimeout * 3 : Nat) then
          [.closeEvent 0 session.connectId]
        else [.postDelayed defaultHeadbeatTimeout] := by
  obtain ⟨middle, written, later, wrote, waited, rfl⟩ := Effect.andThen_eq_some success
  have sameStart : middle.msStart = session.msStart :=
    (Session.asyncWrite_keepsStart host none 0 packetTypeHeartbeat result).same wrote
  obtain ⟨sameId, onlyBytes⟩ := Session.asyncWrite_outputs wrote
  rw [Session.asyncWaitNextHeadrtbeatEvent, sameStart, if_neg started] at waited
  split at waited
  · next late =>
      cases waited
      refine ⟨(Session.msStart_uinitSocket middle).trans sameStart, written, onlyBytes, ?_⟩
      rw [sameId, if_pos late]
  · next early =>
      cases waited
      exact ⟨sameStart, written, onlyBytes, by rw [if_neg early]⟩

/-- A tick is exact when the clock of the heartbeats shows what was heard. -/
theorem tickExact_of_heard {host : HostOrder} {watched : Session × Heartbeats} {event : Event}
    (heard : Heard watched.1.msStart watched.2) (fits : ClockFits host watched event) :
    TickExact host watched event := by
  cases event with
  | timer now result =>
      intro last next emitted isLast success
      obtain ⟨isStart, notZero⟩ := heard.started last isLast
      subst isStart
      obtain ⟨_, written, onlyBytes, rfl⟩ := onMessage_cases notZero success
      have noClose : ∀ output, (∀ bytes, output ≠ .accepted bytes) → output ∉ written := by
        intro output other member
        obtain ⟨bytes, isBytes⟩ := onlyBytes output member
        exact other bytes isBytes
      have distance := timeDiff_gt_iff (fits _ isLast) (defaultHeadbeatTimeout * 3)
      rw [← distance, List.mem_append, List.mem_append,
        or_iff_right (noClose _ (by simp)), or_iff_right (noClose _ (by simp))]
      by_cases late : timeDiff now watched.1.msStart > (defaultHeadbeatTimeout * 3 : Nat)
      · rw [if_pos late]
        simp only [late, List.mem_singleton, not_true, reduceCtorEq, and_self]
      · rw [if_neg late]
        simp only [late, List.mem_singleton, not_false_iff, reduceCtorEq, and_self]
  | _ => trivial

/-- A tick leaves the clock to what was heard. -/
theorem Heard.tick {host : HostOrder} {now : UInt32} {result : SendResult} {session next : Session}
    {heard : Heartbeats} {emitted : List Output} (holds : Heard session.msStart heard)
    (armed : heard.armed = true)
    (success : Session.onMessage host now result session = some (next, emitted)) :
    Heard next.msStart (heard.note host session (.timer now result)) := by
  have started : heard.last ≠ none := by
    intro unheard
    rw [(holds.unstarted unheard).2] at armed
    cases armed
  obtain ⟨last, isLast⟩ := Option.ne_none_iff_exists'.mp started
  obtain ⟨isStart, notZero⟩ := holds.started last isLast
  obtain ⟨sameStart, _⟩ := onMessage_cases (isStart ▸ notZero) success
  simp only [Heartbeats.note, success]
  rw [sameStart]
  exact ⟨fun unheard => absurd unheard started, holds.started⟩

/-- A socket event leaves the clock to what was heard. -/
theorem Heard.dispatch {host : HostOrder} {ff : DispatcherEvents} {err : Int} {now : UInt32}
    {chunks : List (List UInt8 × UInt32)} {ending : RecvEnd} {result : SendResult}
    {session next : Session} {heard : Heartbeats} {emitted : List Output}
    (holds : Heard session.msStart heard) (once : ff.connect = true → heard.last = none)
    (fits : ClockFits host (session, heard) (.dispatch ff err now chunks ending result))
    (success : Session.onEvent host ff err now chunks ending result
      (session.mapSocket (·.onPreEvent ff)) = some (next, emitted)) :
    Heard next.msStart (heard.note host session (.dispatch ff err now chunks ending result)) := by
  have unstarted (connects : ff.connect = true) :
      (session.mapSocket (·.onPreEvent ff)).msStart = 0 :=
    (holds.unstarted (once connects)).1
  rw [Session.msStart_onEvent unstarted success]
  simp only [Heartbeats.note, Session.hears_onPreEvent]
  have notZero (both : (ff.connect && session.hears) = true) : now ≠ 0 := by
    rw [Bool.and_eq_true] at both
    exact (fits both.2).1 both.1
  have connected := holds.connect notZero
  by_cases reads : (ff.read && session.hears) = true
  · rw [if_pos reads, if_pos reads]
    rw [Bool.and_eq_true] at reads
    exact connected.receive ((fits reads.2).2 reads.1)
  · rw [if_neg reads, if_neg reads]
    exact connected

/-- A step keeps track of the last heartbeat. -/
theorem Heard.step {host : HostOrder} {watched next : Session × Heartbeats} {event : Event}
    {emitted : List Output} (heard : Heard watched.1.msStart watched.2)
    (scheduled : Scheduled watched event) (fits : ClockFits host watched event)
    (transition : (heartbeatMachine host).step watched event = some (next, emitted)) :
    Heard next.1.msStart next.2 := by
  obtain ⟨stepped, isHeard⟩ := Machine.step_of_watch transition
  rw [isHeard]
  cases event with
  | start connectId unresolved outcome =>
      rw [← (Prod.mk.inj (Option.some.inj stepped)).1, Session.msStart_start]
      exact heard
  | stop =>
      rw [← (Prod.mk.inj (Option.some.inj stepped)).1, Session.msStart_stop]
      exact heard
  | asyncWrite data dataSize packetType result =>
      rw [(Session.asyncWrite_keepsStart _ _ _ _ _).same stepped]
      exact heard
  | resolved error outcome =>
      rw [(Session.onResolveResult_keepsStart _ _).same stepped]
      exact heard
  | timer now result => exact heard.tick scheduled stepped
  | dispatch ff err now chunks ending result => exact heard.dispatch scheduled fits stepped

/-- In a run that the clock fits, every tick closes the session exactly when the last
heartbeat is too long ago. -/
theorem heartbeat_timeout_exact (host : HostOrder) (sessionId : UInt32) {events : List Event}
    {final : Session × Heartbeats} {outputs : List Output}
    (run : (heartbeatMachine host).RunWhere
      (fun watched event => Scheduled watched event ∧ ClockFits host watched event)
      (.new sessionId, ⟨none, false⟩) events final outputs) :
    (heartbeatMachine host).RunWhere (TickExact host) (.new sessionId, ⟨none, false⟩) events final
      outputs := by
  refine (run.upgrade (fun watched => Heard watched.1.msStart watched.2)
    ⟨fun _ => ⟨rfl, rfl⟩, fun _ isLast => by cases isLast⟩ ?_).1
  rintro watched event next emitted heard ⟨scheduled, fits⟩ transition
  exact ⟨tickExact_of_heard heard fits, heard.step scheduled fits transition⟩

/-- A session connects at `connected` and hears a heartbeat at `heard`. -/
def connectedAt (connected heard : UInt32) : List Event :=
  [.start 1 false .inProgress,
    .dispatch ⟨false, false, true, false⟩ 0 connected [] (.error true) ⟨-1, true⟩,
    .dispatch ⟨true, false, false, false⟩ 0 heard [([86, 90, 1, 0, 0, 0, 0, 0], heard)] (.error true)
      ⟨-1, true⟩]

/-- The heartbeat comes at 3000 ms, and the tick at 9001 ms closes the session. -/
theorem heartbeat_timeout_exact_late :
    ∃ final outputs,
      (heartbeatMachine .littleEndian).RunWhere (TickExact .littleEndian)
        (.new 2, ⟨none, false⟩)
        (connectedAt 1000 3000 ++ [.timer 5000 ⟨-1, true⟩, .timer 7000 ⟨-1, true⟩,
          .timer 9001 ⟨-1, true⟩]) final outputs ∧
      outputs = [.connectedEvent 1, .postDelayed 2000, .handled ⟨1, []⟩, .postDelayed 2000,
        .postDelayed 2000, .closeEvent 0 1] := by
  have permitted : (heartbeatMachine .littleEndian).permits
      (fun watched event =>
        decide (Scheduled watched event ∧ ClockFits .littleEndian watched event))
      (.new 2, ⟨none, false⟩) (connectedAt 1000 3000 ++ [.timer 5000 ⟨-1, true⟩,
        .timer 7000 ⟨-1, true⟩, .timer 9001 ⟨-1, true⟩]) = true := by decide +kernel
  have checked : ((heartbeatMachine .littleEndian).exec (.new 2, ⟨none, false⟩)
      (connectedAt 1000 3000 ++ [.timer 5000 ⟨-1, true⟩, .timer 7000 ⟨-1, true⟩,
        .timer 9001 ⟨-1, true⟩])).any (fun result =>
      result.2 = [.connectedEvent 1, .postDelayed 2000, .handled ⟨1, []⟩, .postDelayed 2000,
        .postDelayed 2000, .closeEvent 0 1]) = true := by decide +kernel
  obtain ⟨final, outputs, run, isOutputs⟩ :=
    Machine.exists_runWhere_of_exec (fun _ _ => of_decide_eq_true) permitted checked
  exact ⟨final, outputs, heartbeat_timeout_exact .littleEndian 2 run, of_decide_eq_true isOutputs⟩

/-- A heartbeat is received when the clock has just wrapped to 0; ticks follow every two
seconds, and the one 7999 ms later sets the timer again. -/
theorem heartbeat_at_zero_forgotten :
    ∃ events final outputs,
      (heartbeatMachine .littleEndian).RunWhere Scheduled (.new 2, ⟨none, false⟩) events final
        outputs ∧
      final.2 = ⟨some 0, true⟩ ∧ ¬TickExact .littleEndian final (.timer 7999 ⟨-1, true⟩) := by
  have permitted : (heartbeatMachine .littleEndian).permits
      (fun watched event => decide (Scheduled watched event)) (.new 2, ⟨none, false⟩)
      (connectedAt 4294967295 0 ++ [.timer 1999 ⟨-1, true⟩, .timer 3999 ⟨-1, true⟩,
        .timer 5999 ⟨-1, true⟩]) = true := by decide +kernel
  have checked : ((heartbeatMachine .littleEndian).exec (.new 2, ⟨none, false⟩)
      (connectedAt 4294967295 0 ++ [.timer 1999 ⟨-1, true⟩, .timer 3999 ⟨-1, true⟩,
        .timer 5999 ⟨-1, true⟩])).any (fun result => result.1.2 = ⟨some 0, true⟩ ∧
      (Session.onMessage .littleEndian 7999 ⟨-1, true⟩ result.1.1).any (fun ticked =>
        ticked.2 = [.postDelayed 2000]) = true) = true := by decide +kernel
  obtain ⟨final, outputs, run, wrong⟩ :=
    Machine.exists_runWhere_of_exec (fun _ _ => of_decide_eq_true) permitted checked
  obtain ⟨isHeard, ticked⟩ := of_decide_eq_true wrong
  refine ⟨_, final, outputs, run, isHeard, fun exact => ?_⟩
  cases success : Session.onMessage .littleEndian 7999 ⟨-1, true⟩ final.1 with
  | none =>
      simp only [success] at ticked
      cases ticked
  | some result =>
      simp only [success, Option.any_some, decide_eq_true_eq] at ticked
      obtain ⟨_, sets⟩ := exact 0 result.1 result.2 (by rw [isHeard]) success
      rw [ticked] at sets
      exact absurd (sets.mp (by decide)) (by decide)

end VzSdk.Transport
