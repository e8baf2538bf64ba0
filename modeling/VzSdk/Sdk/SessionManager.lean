import VzSdk.Sdk.System

/-!
# Sessions and their manager

The functions of `SessionManager`, which run on the asynchronous thread (the
first reconnect and the removal of sessions on the queue thread), and those of
`Session` that tell the manager of a connection's events.
-/

namespace VzSdk.Sdk

open VzSdk.Base VzSdk.Event VzSdk.Std

/-- The time between two heartbeats, in milliseconds. -/
def defaultHeadbeatTimeout : Nat := 2 * 1000

/-- The time before a session is connected again, in milliseconds. -/
def reconnectDelay : Int := 2000

namespace System

variable (system : System)

/-- `SessionManager::FindSession`. -/
def findSession (sessionId : UInt32) : Option SessionObject := system.asyncSessions.find? sessionId

/-- The registered session object with a serial. -/
def findSerial (serial : Nat) : Option SessionObject :=
  (system.asyncSessions.entries.find? fun entry => entry.2.serial = serial).map (·.2)

/-- Change a registered session object. -/
def updateSession (serial : Nat) (change : SessionObject → SessionObject) : System :=
  { system with
    asyncSessions := system.asyncSessions.mapValues fun session =>
      if session.serial = serial then change session else session }

/-- The constructor of `Session`: without an id it takes the next one. -/
def newSession (requested : UInt32) : System × SessionObject :=
  if requested = 0 then
    ({ system with
        sessionCounter := system.sessionCounter + 1
        serials := system.serials + 1 }, .new system.serials (system.sessionCounter + 1))
  else ({ system with serials := system.serials + 1 }, .new system.serials requested)

/-- `SessionManager::AddSession` binds the signals of a session it inserts. -/
def addSession (session : SessionObject) : System × Bool :=
  match system.findSession session.sessionId with
  | some _ => (system, false)
  | none =>
      ({ system with
          asyncSessions :=
            system.asyncSessions.insert session.sessionId { session with bound := true } }, true)

/-- `SessionManager::RemoveSession`. The object goes, and with it its messages. -/
def removeSession (sessionId : UInt32) : System :=
  match system.findSession sessionId with
  | none => system
  | some session =>
      { system with
        asyncSessions := system.asyncSessions.erase sessionId
        asyncThread := (system.asyncThread.clear (some (.session session.serial)) mqidAny).1 }

/-- A new session, added and started. The result of `AddSession` is only asserted:
a session that was not added is started and destroyed. -/
def openSession (requested connectId : UInt32) (answer : ConnectAnswer) :
    System × List SystemOutput :=
  let (system, session) := system.newSession requested
  let (system, added) := system.addSession session
  (system.updateSession session.serial (·.start connectId answer),
    if added then [.inserted session.sessionId] else [])

/-- Open a new session. -/
def onConnectMessage (messageId : UInt32) (answer : ConnectAnswer) : System × List SystemOutput :=
  system.openSession 0 messageId answer

/-- Remove the session and answer that it is disconnected, or that there is none. -/
def onDisconnectMessage (messageId sessionId : UInt32) : System × List SystemOutput :=
  match system.findSession sessionId with
  | some session =>
      let system := system.removeSession sessionId
      let system := { system with closed := sessionId :: system.closed }
      (system.postQueue messageId (.plain .disconnectedSucceed session.sessionId),
        [.disconnectSucceeded sessionId])
  | none => (system.postQueue messageId (.plain .disconnectedFailure sessionId), [])

/-- Hand the request to its session, or answer that there is none. -/
def onRequestMessage (messageId sessionId : UInt32) (reqJson : Json) (isPush : Bool)
    (tag : UInt32) : System :=
  match system.findSession sessionId with
  | some session =>
      let system := system.updateSession session.serial fun session =>
        { session with outgoing := session.outgoing ++ [⟨tag, reqJson⟩] }
      if isPush then system.postQueue messageId (.plain .pushSucceed sessionId) else system
  | none => system.postQueue messageId (.plain .sessionNotFound sessionId)

/-- The session is absent, or its socket is closed. -/
def canReconnect (sessionId : UInt32) : Bool :=
  match system.findSession sessionId with
  | some session => session.getState = .closed
  | none => true

/-- `SessionManager::OnReconnectMessage` posts itself again before anything else. -/
def onReconnectMessage (now : UInt32) (answer : ConnectAnswer) (messageId sessionId : UInt32)
    (pdata : Option Stanza) : System × List SystemOutput :=
  let repost : System :=
    { system with
      asyncThread :=
        system.asyncThread.postDelayed now reconnectDelay ⟨some .sessionManager, messageId, pdata⟩ }
  if system.canReconnect sessionId then repost.openSession sessionId sessionId answer
  else (repost, [])

/-- `SessionManager::OnMessage`. -/
def sessionManagerOnMessage (now : UInt32) (answer : ConnectAnswer) (message : SdkMessage) :
    System × List SystemOutput :=
  match message.pdata with
  | some (.connectData true sessionId _) =>
      system.onReconnectMessage now answer message.messageId sessionId message.pdata
  | some (.connectData false _ _) => system.onConnectMessage message.messageId answer
  | some (.disconnectData sessionId) => system.onDisconnectMessage message.messageId sessionId
  | some (.requestData sessionId reqJson isPush tag) =>
      (system.onRequestMessage message.messageId sessionId reqJson isPush tag, [])
  | some (.plain .removeSession sessionId) => (system.removeSession sessionId, [])
  | _ => (system, [])

/-! ## Signals of a session -/

/-- Report that the session is connected. -/
def onSessionConnectedEvent (session : SessionObject) : System :=
  if session.bound then
    system.postQueue session.connectId (.plain .connected session.sessionId)
  else system

/-- Have the session removed, and report that it is disconnected. -/
def onSessionCloseEvent (session : SessionObject) : System :=
  if session.bound then
    (system.postQueue session.connectId (.plain .removeSession session.sessionId)).postQueue
      session.connectId (.plain .disconnectedFailure session.sessionId)
  else system

/-- `SessionManager::OnSessionPacketEvent`: what the JSON reader refuses is dropped. -/
def onSessionPacketEvent (session : SessionObject) (answer : Answer) : System :=
  match answer.resJson with
  | some resJson =>
      if session.bound then
        system.postQueue 0 (.responseData session.sessionId resJson answer.resData answer.origin)
      else system
  | none => system

/-- `Session::OnCloseEvent`. -/
def onCloseEvent (session : SessionObject) : System :=
  (system.updateSession session.serial (·.uinitSocket)).onSessionCloseEvent session

/-- `Session::AsyncWaitNextHeadrtbeatEvent`. -/
def asyncWaitNextHeadrtbeatEvent (session : SessionObject) (now : UInt32) : System :=
  let rearm (system : System) : System :=
    { system with
      asyncThread := system.asyncThread.postDelayed now defaultHeadbeatTimeout
        ⟨some (.session session.serial), 0, none⟩ }
  if session.msStart = 0 then
    rearm (system.updateSession session.serial fun session => { session with msStart := now })
  else if timeDiff now session.msStart > (defaultHeadbeatTimeout * 3 : Nat) then
    system.onCloseEvent session
  else rearm system

/-- `Session::OnMessage`; a heartbeat is no request, so writing it changes nothing here. -/
def sessionOnMessage (serial : Nat) (now : UInt32) : System :=
  match system.findSerial serial with
  | none => system
  | some session => system.asyncWaitNextHeadrtbeatEvent session now

/-- The socket reports that it is connected. -/
def connectEvent (serial : Nat) (now : UInt32) : Option System :=
  match system.findSerial serial with
  | none => none
  | some session =>
      if ((session.asyncSocket.map (·.enabledEvents.connect)).getD false) then
        let system := system.updateSession serial (·.mapSocket fun socket =>
          { socket with
            state := .connected
            enabledEvents := { socket.enabledEvents with connect := false } })
        if session.hears then
          some ((system.onSessionConnectedEvent session).asyncWaitNextHeadrtbeatEvent session now)
        else some system
      else none

/-- The socket reports that it was closed. -/
def closeEvent (serial : Nat) : Option System :=
  match system.findSerial serial with
  | none => none
  | some session =>
      if session.getState ≠ .closed then
        let system := system.updateSession serial (·.mapSocket (·.close))
        if session.hears then some (system.onCloseEvent session) else some system
      else none

/-- The resolver of a host name answers. -/
def resolveEvent (serial : Nat) (error : Int) (outcome : ConnectOutcome) : Option System :=
  match system.findSerial serial with
  | none => none
  | some session =>
      match session.asyncSocket with
      | none => none
      | some socket =>
          let (socket, error) :=
            if error = 0 then socket.doConnect outcome else (socket.close, error)
          let system := system.updateSession serial (·.mapSocket fun _ => socket)
          if error ≠ 0 ∧ session.hears then some (system.onCloseEvent session) else some system

/-- The session reads the next packet of its device. -/
def readEvent (serial : Nat) : Option System :=
  match system.findSerial serial with
  | none => none
  | some session =>
      match session.incoming with
      | [] => none
      | answer :: incoming =>
          if session.hears then
            let system := system.updateSession serial fun session =>
              { session with incoming := incoming }
            some (system.onSessionPacketEvent session answer)
          else none

/-- The session reads a heartbeat. -/
def heartbeatEvent (serial : Nat) (now : UInt32) : Option System :=
  match system.findSerial serial with
  | none => none
  | some session =>
      if session.hears then
        some (system.updateSession serial fun session => { session with msStart := now })
      else none

/-! ## The device at the other end -/

/-- The device receives the next request. -/
def deviceReceive (serial : Nat) : Option System :=
  match system.findSerial serial with
  | none => none
  | some session =>
      match session.outgoing with
      | [] => none
      | request :: outgoing =>
          if session.getState = .connected then
            some (system.updateSession serial fun session =>
              { session with
                outgoing := outgoing
                unanswered := session.unanswered ++ [request] })
          else none

/-- The device answers the oldest request it has not answered, under a command
that answers the request's. -/
def deviceAnswer (serial : Nat) (resJson : Json) (resData : List UInt8) : Option System :=
  match system.findSerial serial with
  | none => none
  | some session =>
      match session.unanswered with
      | [] => none
      | request :: unanswered =>
          match resJson.cmd with
          | none => none
          | some resCmd =>
              if answersTo (request.reqJson.cmd.getD "") resCmd then
                some (system.updateSession serial fun session =>
                  { session with
                    unanswered := unanswered
                    incoming := session.incoming ++ [⟨some resJson, resData, some request.tag⟩] })
              else none

/-- The device sends something it was not asked for. -/
def devicePush (serial : Nat) (resJson : Option Json) (resData : List UInt8) : Option System :=
  match system.findSerial serial with
  | none => none
  | some _ =>
      some (system.updateSession serial fun session =>
        { session with incoming := session.incoming ++ [⟨resJson, resData, none⟩] })

end System

end VzSdk.Sdk
