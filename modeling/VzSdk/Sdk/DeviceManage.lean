import VzSdk.Std.Machine
import VzSdk.Std.OrderedMap
import VzSdk.Base.Time

/-!
# The device table

`VzTcpDeviceManage` keeps a service for every open device, under the session id
that `ConnectServer` returned. `ConnectServer` reports a timeout as 0 and every
other failure as -1, and `CreateNewService` compares with -1 only.
`deviceTable_sound_iff` says for which outcomes of the connects the table still
holds only open devices. The notification callback is copied to a device's handle
only when it is registered: `callBack_upToDate_iff` says in exactly which runs every
handle has the latest one.
-/

namespace VzSdk.Sdk

open VzSdk.Base VzSdk.Std

/-- What a call returns whose answer does not come in time. -/
def defaultResultTimeout : Int := 0

/-- What `ConnectServer` returns when it fails. -/
def sessionIdInvalue : Int := -1

/-- A notification function, by its address, and its user data. -/
structure NotifyCallBack where
  func : Option Nat
  userData : Nat
deriving DecidableEq, Repr

/-- No callback is set. -/
def NotifyCallBack.null : NotifyCallBack := ⟨none, 0⟩

/-- How `SyncProcessTask` of a connect task ends, and what follows of the session's state. -/
inductive ConnectResult where
  | timedOut
  /-- A reply without a payload. -/
  | noPayload
  /-- A reply of a session that is connected, or not, when it is looked up after it. -/
  | replied (sessionId : UInt32) (connected : Bool)
deriving DecidableEq, Repr

/-- `VzsdkService` with its `VzConnectDev`. -/
structure VzsdkService where
  /-- The session id in `req_connect_data_ptr_`. -/
  sessionId : UInt32
  /-- `change_conn_pushhandle` once it is set, by its callback. -/
  changeConnPushhandle : Option NotifyCallBack
  connCallback : NotifyCallBack
deriving DecidableEq, Repr

namespace VzsdkService

/-- A service without a session. -/
def new : VzsdkService := ⟨0, none, .null⟩

/-- `VzConnectDev::GetSessionID`. -/
def getSessionID (service : VzsdkService) : Int := intOfUInt32 service.sessionId

/-- `VzConnectDev::ChangeConn`: `GetCommonNotifyCallBack` takes its results by
value, so that the handle starts without a callback. -/
def changeConn (service : VzsdkService) : VzsdkService :=
  { service with changeConnPushhandle := some .null }

/-- `VzConnectDev::ConnectServer`. -/
def connectServer (service : VzsdkService) (result : ConnectResult) : VzsdkService × Int :=
  match result with
  | .timedOut => (service, defaultResultTimeout)
  | .noPayload => (service, sessionIdInvalue)
  | .replied sessionId true =>
      (({ service with sessionId := sessionId }).changeConn, intOfUInt32 sessionId)
  | .replied _ false => ({ service with sessionId := 0xFFFFFFFF }, sessionIdInvalue)

/-- Set the callback of the service. -/
def setCommonNotifyCallBack (service : VzsdkService) (callback : NotifyCallBack) : VzsdkService :=
  { service with connCallback := callback }

/-- `VzConnectDev::SetCommonNotifyCallBack`, for a handle that is set. -/
def setConnCallBack (service : VzsdkService) (callback : NotifyCallBack) : VzsdkService :=
  { service with changeConnPushhandle := some callback }

end VzsdkService

/-- The services by their session ids, and the callback for their connections. -/
structure VzTcpDeviceManage where
  serviceMap : OrderedMap Int VzsdkService
  connCallback : NotifyCallBack

/-- A call of the interface. -/
inductive DeviceCall where
  | vzOpen (result : ConnectResult)
  | vzClose (handle : Int)
  | setCommonNotifyCallBack (callback : NotifyCallBack)
  /-- The other callbacks belong to modules of the device's service that the table does not show. -/
  | setDeviceCallBack (handle : Int)

/-- What a call of `VzLPRTcp_Open` returned, and the table before and after it. -/
structure OpenReport where
  handle : Int
  before : OrderedMap Int VzsdkService
  after : OrderedMap Int VzsdkService

namespace VzTcpDeviceManage

/-- No service is in the table. -/
def new : VzTcpDeviceManage := ⟨.empty, .null⟩

/-- Connect a service, and keep it under its session id unless that failed. -/
def createNewService (manage : VzTcpDeviceManage) (result : ConnectResult) :
    VzTcpDeviceManage × Int :=
  let (service, sessionId) := VzsdkService.new.connectServer result
  if sessionId ≠ sessionIdInvalue then
    let service := service.setCommonNotifyCallBack manage.connCallback
    ({ manage with serviceMap := manage.serviceMap.insert sessionId service }, sessionId)
  else (manage, sessionId)

/-- `VzLPRTcp_Open`. -/
def vzOpen (manage : VzTcpDeviceManage) (result : ConnectResult) : VzTcpDeviceManage × Int :=
  let (manage, ret) := manage.createNewService result
  (manage, if ret > 0 then ret else 0)

/-- Take a service out of the table. -/
def closeService (manage : VzTcpDeviceManage) (sessionId : Int) : VzTcpDeviceManage × Bool :=
  match manage.serviceMap.find? sessionId with
  | none => (manage, false)
  | some _ => ({ manage with serviceMap := manage.serviceMap.erase sessionId }, true)

/-- `VzTcpDeviceManage::SetCommonNotifyCallBack`: the program ends when a service
has no connection handle to set the callback on. -/
def setCommonNotifyCallBack (manage : VzTcpDeviceManage) (callback : NotifyCallBack) :
    Option VzTcpDeviceManage :=
  if manage.serviceMap.entries.all fun entry => entry.2.changeConnPushhandle.isSome then
    some ⟨manage.serviceMap.mapValues fun service =>
      (service.setCommonNotifyCallBack callback).setConnCallBack callback, callback⟩
  else none

/-- What a call does to the table. -/
def step (manage : VzTcpDeviceManage) : DeviceCall → Option (VzTcpDeviceManage × List OpenReport)
  | .vzOpen result =>
      let (next, handle) := manage.vzOpen result
      some (next, [⟨handle, manage.serviceMap, next.serviceMap⟩])
  | .vzClose handle => some ((manage.closeService handle).1, [])
  | .setCommonNotifyCallBack callback =>
      match manage.setCommonNotifyCallBack callback with
      | none => none
      | some next => some (next, [])
  | .setDeviceCallBack _ => some (manage, [])

/-- Every entry is an open device: a positive key, its service's session id, and a
connection handle. -/
def Sound (manage : VzTcpDeviceManage) : Prop :=
  ∀ entry ∈ manage.serviceMap.entries, 0 < entry.1 ∧ entry.2.getSessionID = entry.1 ∧
    entry.2.changeConnPushhandle.isSome = true

end VzTcpDeviceManage

/-- The table of the services under the calls of the interface. -/
def deviceMachine : Machine VzTcpDeviceManage DeviceCall OpenReport := ⟨VzTcpDeviceManage.step⟩

/-- A failed open leaves the table as it was. -/
def OpenReport.FailureKeepsTable (report : OpenReport) : Prop :=
  report.handle = 0 → report.after = report.before

/-- The connect does not time out, and a connected session has an id that is positive,
or -1, as an `int`. -/
def DeviceCall.Opens : DeviceCall → Prop
  | .vzOpen .timedOut => False
  | .vzOpen (.replied sessionId true) =>
      0 < intOfUInt32 sessionId ∨ intOfUInt32 sessionId = sessionIdInvalue
  | _ => True

namespace VzTcpDeviceManage

variable {manage next : VzTcpDeviceManage} {call : DeviceCall} {reports : List OpenReport}

/-- What `CreateNewService` does for each result of the connect. -/
theorem createNewService_eq (manage : VzTcpDeviceManage) (result : ConnectResult) :
    manage.createNewService result =
      match result with
      | .timedOut =>
          ({ manage with
              serviceMap := manage.serviceMap.insert 0 ⟨0, none, manage.connCallback⟩ }, 0)
      | .replied sessionId true =>
          if intOfUInt32 sessionId = sessionIdInvalue then (manage, sessionIdInvalue)
          else
            ({ manage with
                serviceMap := manage.serviceMap.insert (intOfUInt32 sessionId)
                  ⟨sessionId, some .null, manage.connCallback⟩ }, intOfUInt32 sessionId)
      | _ => (manage, sessionIdInvalue) := by
  cases result with
  | timedOut => rfl
  | noPayload => rfl
  | replied sessionId connected =>
      cases connected with
      | false => rfl
      | true =>
          simp only [createNewService, VzsdkService.connectServer, VzsdkService.changeConn,
            VzsdkService.setCommonNotifyCallBack, VzsdkService.new]
          split <;> simp_all

/-- Inserting a key that is not positive is seen: the open returns 0 and the table changed. -/
theorem insert_ne_of_sound (sound : manage.Sound) {key : Int} (notPositive : ¬0 < key)
    (service : VzsdkService) : manage.serviceMap.insert key service ≠ manage.serviceMap := by
  intro same
  have absent : manage.serviceMap.find? key = none := by
    rw [OrderedMap.find?_eq_none]
    intro entry member equal
    rw [← equal] at notPositive
    exact notPositive (sound entry member).1
  have present := OrderedMap.find?_insert_self absent service
  rw [same, absent] at present
  cases present

/-- An entry that is an open device keeps the table sound. -/
theorem sound_insert (sound : manage.Sound) {key : Int} {service : VzsdkService}
    (positive : 0 < key) (same : service.getSessionID = key)
    (set : service.changeConnPushhandle.isSome = true) :
    ({ manage with serviceMap := manage.serviceMap.insert key service } :
      VzTcpDeviceManage).Sound := by
  intro entry member
  rcases OrderedMap.mem_insertEntry member with rfl | member
  · exact ⟨positive, same, set⟩
  · exact sound entry member

/-- An open leaves the table sound, and a failed one leaves it unchanged, exactly when its
connect opens. -/
theorem open_sound_iff (sound : manage.Sound) (result : ConnectResult) :
    ((manage.vzOpen result).1.Sound ∧
      ((manage.vzOpen result).2 = 0 →
        (manage.vzOpen result).1.serviceMap = manage.serviceMap)) ↔
      (DeviceCall.vzOpen result).Opens := by
  simp only [vzOpen, createNewService_eq]
  cases result with
  | timedOut =>
      refine iff_of_false (fun both => ?_) (fun opens => opens)
      exact insert_ne_of_sound sound (Int.lt_irrefl 0) _ (both.2 (by simp))
  | noPayload => simp [sound, DeviceCall.Opens]
  | replied sessionId connected =>
      cases connected with
      | false => simp [sound, DeviceCall.Opens]
      | true =>
          simp only [DeviceCall.Opens]
          split
          · next invalid => simp [invalid, sound]
          · next valid =>
              simp only [valid, or_false]
              constructor
              · rintro ⟨_, kept⟩
                apply Classical.byContradiction
                intro notPositive
                exact insert_ne_of_sound sound notPositive _ (kept (by simp [notPositive]))
              · intro positive
                refine ⟨sound_insert sound positive rfl rfl, fun failed => ?_⟩
                rw [if_pos positive] at failed
                omega

/-- A close leaves the table sound. -/
theorem sound_close (sound : manage.Sound) (handle : Int) : (manage.closeService handle).1.Sound := by
  unfold closeService
  split
  · exact sound
  · intro entry member
    exact sound entry (OrderedMap.mem_erase.mp member).1

/-- Setting the callback leaves the table sound. -/
theorem sound_setCommonNotifyCallBack (sound : manage.Sound) {callback : NotifyCallBack}
    (success : manage.setCommonNotifyCallBack callback = some next) : next.Sound := by
  unfold setCommonNotifyCallBack at success
  split at success
  · cases success
    intro entry member
    obtain ⟨old, before, rfl⟩ := List.mem_map.mp member
    obtain ⟨positive, same, _⟩ := sound old before
    exact ⟨positive, same, rfl⟩
  · cases success

/-- From a sound table a call keeps the table sound, and a failed open keeps the
table, exactly when its connect opens. -/
theorem step_sound_iff (sound : manage.Sound)
    (transition : deviceMachine.step manage call = some (next, reports)) :
    (next.Sound ∧ ∀ report ∈ reports, report.FailureKeepsTable) ↔ call.Opens := by
  cases call with
  | vzOpen result =>
      simp only [deviceMachine, step, Option.some.injEq, Prod.mk.injEq] at transition
      obtain ⟨rfl, rfl⟩ := transition
      simpa [OpenReport.FailureKeepsTable] using open_sound_iff sound result
  | vzClose handle =>
      cases transition
      simpa [DeviceCall.Opens] using sound_close sound handle
  | setCommonNotifyCallBack callback =>
      simp only [deviceMachine, step] at transition
      split at transition
      · cases transition
      · next set =>
          cases transition
          simpa [DeviceCall.Opens] using sound_setCommonNotifyCallBack sound set
  | setDeviceCallBack handle =>
      cases transition
      simpa [DeviceCall.Opens] using sound

end VzTcpDeviceManage

/-- Over a run of calls from the empty table, every table holds only open devices
and every failed open keeps the table, exactly when every connect opens. -/
theorem deviceTable_sound_iff {calls : List DeviceCall} {final : VzTcpDeviceManage}
    {reports : List OpenReport} (run : deviceMachine.Run .new calls final reports) :
    (deviceMachine.RunWhere (fun manage _ => manage.Sound) .new calls final reports ∧
        final.Sound ∧ ∀ report ∈ reports, report.FailureKeepsTable) ↔
      ∀ call ∈ calls, call.Opens := by
  constructor
  · rintro ⟨throughout, soundLast, kept⟩
    induction throughout with
    | nil => simp
    | @snoc calls manage reports call next emitted prior sound transition inductionHypothesis =>
        intro other member
        rcases List.mem_append.mp member with earlier | last
        · exact inductionHypothesis prior.run sound
            (fun report before => kept report (List.mem_append_left _ before)) other earlier
        · rw [List.mem_singleton.mp last]
          refine (VzTcpDeviceManage.step_sound_iff sound transition).mp ⟨soundLast, ?_⟩
          exact fun report now => kept report (List.mem_append_right _ now)
  · intro opens
    induction run with
    | nil => exact ⟨.nil, (fun entry member => nomatch member), by simp⟩
    | @snoc calls manage reports call next emitted prior permitted transition inductionHypothesis =>
        obtain ⟨throughout, sound, kept⟩ := inductionHypothesis
          fun call member => opens call (List.mem_append_left _ member)
        obtain ⟨soundNext, keptNow⟩ := (VzTcpDeviceManage.step_sound_iff sound transition).mpr
          (opens call (by simp))
        refine ⟨.snoc throughout sound transition, soundNext, ?_⟩
        intro report member
        rcases List.mem_append.mp member with before | now
        · exact kept report before
        · exact keptNow report now

/-- Open, register, close, and a refused open. -/
def openAndClose : List DeviceCall :=
  [.vzOpen (.replied 2 true), .setCommonNotifyCallBack ⟨some 7, 1⟩, .vzOpen (.replied 3 false),
    .vzClose 2]

/-- A device that refuses the connection leaves the table as it was. -/
theorem deviceTable_sound_refused :
    ∃ final reports, deviceMachine.Run .new openAndClose final reports ∧
      (deviceMachine.RunWhere (fun manage _ => manage.Sound) .new openAndClose final reports ∧
        final.Sound ∧ ∀ report ∈ reports, report.FailureKeepsTable) := by
  have present : (deviceMachine.exec .new openAndClose).isSome := by decide +kernel
  obtain ⟨⟨final, reports⟩, evaluated⟩ := Option.isSome_iff_exists.mp present
  have run := Machine.run_of_exec evaluated
  refine ⟨final, reports, run, (deviceTable_sound_iff run).mpr ?_⟩
  simp only [openAndClose, List.mem_cons, List.not_mem_nil, or_false, forall_eq_or_imp, forall_eq,
    DeviceCall.Opens, and_true]
  decide

/-- An open that times out returns 0 and leaves a service of session 0, without a
connection handle, under key 0. -/
theorem deviceTable_timeout_inserted :
    ∃ final reports, deviceMachine.Run .new [.vzOpen .timedOut] final reports ∧ ¬final.Sound ∧
      final.serviceMap.entries = [(0, ⟨0, none, .null⟩)] ∧
      ∃ report ∈ reports, report.handle = 0 ∧ report.after.entries ≠ report.before.entries := by
  have evaluated : deviceMachine.exec .new [.vzOpen .timedOut] =
      some (⟨OrderedMap.empty.insert 0 ⟨0, none, .null⟩, .null⟩,
        [⟨0, .empty, OrderedMap.empty.insert 0 ⟨0, none, .null⟩⟩]) := rfl
  refine ⟨_, _, Machine.run_of_exec evaluated, fun sound => ?_, rfl, _, List.mem_singleton_self _,
    rfl, by decide⟩
  exact Int.lt_irrefl 0 (sound (0, ⟨0, none, .null⟩) (by decide)).1

/-! ## The notification callback -/

/-- The callback of the latest `SetCommonNotifyCallBack`. -/
def latestCallBack (calls : List DeviceCall) : NotifyCallBack :=
  calls.foldl (fun latest call =>
    match call with
    | .setCommonNotifyCallBack callback => callback
    | _ => latest) .null

/-- An open connects a session with a positive id. -/
def DeviceCall.Successful : DeviceCall → Prop
  | .vzOpen (.replied sessionId true) => 0 < intOfUInt32 sessionId
  | .vzOpen _ => False
  | _ => True

namespace VzTcpDeviceManage

/-- The connection handle of every open device has the callback that the manager has. -/
def UpToDate (manage : VzTcpDeviceManage) : Prop :=
  ∀ entry ∈ manage.serviceMap.entries, entry.2.changeConnPushhandle = some manage.connCallback

/-- No device is added to the table while a callback is registered. -/
def OpensUnregistered (manage : VzTcpDeviceManage) : DeviceCall → Prop
  | .vzOpen (.replied sessionId true) =>
      manage.serviceMap.find? (intOfUInt32 sessionId) = none → manage.connCallback = .null
  | _ => True

instance (manage : VzTcpDeviceManage) : DecidablePred manage.OpensUnregistered
  | .vzOpen (.replied sessionId true) => inferInstanceAs
      (Decidable (manage.serviceMap.find? (intOfUInt32 sessionId) = none →
        manage.connCallback = .null))
  | .vzOpen .timedOut => isTrue trivial
  | .vzOpen .noPayload => isTrue trivial
  | .vzOpen (.replied _ false) => isTrue trivial
  | .vzClose _ => isTrue trivial
  | .setCommonNotifyCallBack _ => isTrue trivial
  | .setDeviceCallBack _ => isTrue trivial

variable {manage next : VzTcpDeviceManage} {call : DeviceCall} {reports : List OpenReport}

/-- The manager's callback is changed by its registration only. -/
theorem connCallback_step (transition : deviceMachine.step manage call = some (next, reports)) :
    next.connCallback =
      match call with
      | .setCommonNotifyCallBack callback => callback
      | _ => manage.connCallback := by
  cases call with
  | vzOpen result =>
      simp only [deviceMachine, step, Option.some.injEq, Prod.mk.injEq] at transition
      obtain ⟨rfl, rfl⟩ := transition
      simp only [vzOpen, createNewService_eq]
      split
      · rfl
      · split <;> rfl
      · rfl
  | vzClose handle =>
      cases transition
      simp only [closeService]
      split <;> rfl
  | setCommonNotifyCallBack callback =>
      simp only [deviceMachine, step, setCommonNotifyCallBack] at transition
      split at transition
      · cases transition
      · next set =>
          cases transition
          split at set
          · cases set
            rfl
          · cases set
  | setDeviceCallBack handle =>
      cases transition
      rfl

/-- A device that is added has a handle without a callback. -/
theorem upToDate_open_iff (current : manage.UpToDate) {sessionId : UInt32}
    (positive : 0 < intOfUInt32 sessionId) :
    (manage.vzOpen (.replied sessionId true)).1.UpToDate ↔
      manage.OpensUnregistered (.vzOpen (.replied sessionId true)) := by
  have valid : ¬intOfUInt32 sessionId = sessionIdInvalue := by
    intro invalid
    rw [invalid] at positive
    exact absurd positive (by decide)
  simp only [vzOpen, createNewService_eq, if_neg valid, OpensUnregistered]
  constructor
  · intro after absent
    have added := OrderedMap.mem_insert_self absent
      (⟨sessionId, some .null, manage.connCallback⟩ : VzsdkService)
    exact (Option.some.inj (after _ added)).symm
  · intro unregistered entry member
    cases found : manage.serviceMap.find? (intOfUInt32 sessionId) with
    | none =>
        rcases OrderedMap.mem_insertEntry member with rfl | old
        · simp only [unregistered found]
        · exact current entry old
    | some service => exact current entry (OrderedMap.mem_of_mem_insert found member)

/-- From an up-to-date table a successful call keeps the table up to date, exactly
when it opens no device while a callback is registered. -/
theorem upToDate_step_iff (current : manage.UpToDate) (successful : call.Successful)
    (transition : deviceMachine.step manage call = some (next, reports)) :
    next.UpToDate ↔ manage.OpensUnregistered call := by
  cases call with
  | vzOpen result =>
      simp only [deviceMachine, step, Option.some.injEq, Prod.mk.injEq] at transition
      obtain ⟨rfl, rfl⟩ := transition
      cases result with
      | timedOut | noPayload => exact successful.elim
      | replied sessionId connected =>
          cases connected with
          | false => exact successful.elim
          | true => exact upToDate_open_iff current successful
  | vzClose handle =>
      cases transition
      refine iff_of_true ?_ trivial
      unfold closeService
      split
      · exact current
      · exact fun entry member => current entry (OrderedMap.mem_erase.mp member).1
  | setCommonNotifyCallBack callback =>
      refine iff_of_true ?_ trivial
      simp only [deviceMachine, step, setCommonNotifyCallBack] at transition
      split at transition
      · cases transition
      · next set =>
          cases transition
          split at set
          · cases set
            intro entry member
            obtain ⟨old, _, rfl⟩ := List.mem_map.mp member
            rfl
          · cases set
  | setDeviceCallBack handle =>
      cases transition
      exact iff_of_true current trivial

end VzTcpDeviceManage

/-- The table keeps the callback that was set last. -/
theorem connCallback_eq_latest {calls : List DeviceCall} {final : VzTcpDeviceManage}
    {reports : List OpenReport} (run : deviceMachine.Run .new calls final reports) :
    final.connCallback = latestCallBack calls := by
  refine run.invariant (fun calls manage _ => manage.connCallback = latestCallBack calls) rfl ?_
  intro calls manage reports call next emitted same _ transition
  rw [VzTcpDeviceManage.connCallback_step transition, latestCallBack, List.foldl_append]
  cases call with
  | setCommonNotifyCallBack callback => rfl
  | vzOpen | vzClose | setDeviceCallBack => exact same

/-- The manager holds the latest callback, and over a run of successful calls the
handle of every open device holds it too, in every state, exactly when no device is
opened while a callback is registered. -/
theorem callBack_upToDate_iff {calls : List DeviceCall} {final : VzTcpDeviceManage}
    {reports : List OpenReport} (run : deviceMachine.Run .new calls final reports)
    (successful : ∀ call ∈ calls, call.Successful) :
    final.connCallback = latestCallBack calls ∧
      (deviceMachine.Throughout VzTcpDeviceManage.UpToDate .new calls final reports ↔
        deviceMachine.RunWhere VzTcpDeviceManage.OpensUnregistered .new calls final reports) := by
  refine ⟨connCallback_eq_latest run, ?_⟩
  refine Machine.RunWhere.throughout_iff VzTcpDeviceManage.UpToDate
    (fun entry member => absurd member List.not_mem_nil) ?_ run successful
  exact fun _ current isSuccessful transition =>
    VzTcpDeviceManage.upToDate_step_iff current isSuccessful transition

/-- Two devices are opened, a callback is registered, and one of them is closed. -/
def openAndRegister : List DeviceCall :=
  [.vzOpen (.replied 2 true), .vzOpen (.replied 3 true), .setCommonNotifyCallBack ⟨some 7, 1⟩,
    .vzClose 2]

/-- A callback that is set behind the open reaches the service. -/
theorem callBack_upToDate_registered_last :
    ∃ final reports, deviceMachine.Run .new openAndRegister final reports ∧
      final.connCallback = ⟨some 7, 1⟩ ∧
      deviceMachine.Throughout VzTcpDeviceManage.UpToDate .new openAndRegister final reports := by
  have permitted : deviceMachine.permits (fun manage call => decide (manage.OpensUnregistered call))
      .new openAndRegister = true := by decide +kernel
  have checked : (deviceMachine.exec .new openAndRegister).any (fun _ => true) = true := by
    decide +kernel
  obtain ⟨final, reports, restricted, _⟩ :=
    Machine.exists_runWhere_of_exec (fun _ _ => of_decide_eq_true) permitted checked
  have successful : ∀ call ∈ openAndRegister, call.Successful := by
    simp only [openAndRegister, List.mem_cons, List.not_mem_nil, or_false, forall_eq_or_imp,
      forall_eq, DeviceCall.Successful, and_true]
    decide
  obtain ⟨latest, upToDate⟩ := callBack_upToDate_iff restricted.run successful
  exact ⟨final, reports, restricted.run, latest, upToDate.mpr restricted⟩

/-- A device opened after the registration has a handle without a callback. -/
theorem callBack_registered_first_lost :
    ∃ final reports,
      deviceMachine.Run .new
        [.setCommonNotifyCallBack ⟨some 7, 1⟩, .vzOpen (.replied 2 true)] final reports ∧
      final.connCallback = ⟨some 7, 1⟩ ∧
      final.serviceMap.entries = [(2, ⟨2, some .null, ⟨some 7, 1⟩⟩)] ∧ ¬final.UpToDate := by
  have checked : (deviceMachine.exec .new
      [.setCommonNotifyCallBack ⟨some 7, 1⟩, .vzOpen (.replied 2 true)]).any fun result =>
        decide (result.1.connCallback = ⟨some 7, 1⟩ ∧
          result.1.serviceMap.entries = [(2, ⟨2, some .null, ⟨some 7, 1⟩⟩)]) := by decide +kernel
  obtain ⟨final, reports, run, facts⟩ := Machine.exists_run_of_exec checked
  obtain ⟨latest, entries⟩ := of_decide_eq_true facts
  refine ⟨final, reports, run, latest, entries, fun upToDate => ?_⟩
  have held := upToDate (2, ⟨2, some .null, ⟨some 7, 1⟩⟩) (by
    rw [entries]
    exact List.mem_singleton_self _)
  rw [latest] at held
  exact absurd held (by decide)

end VzSdk.Sdk
