import VzSdk.Base.SocketAddress
import VzSdk.Sdk.DeviceManage

/-!
# Devices by their addresses

`VzLPRTcp_GetIP` prints the address of a device into a variable that is
initialised by its first call only, and `VzLPRTcp_CloseByIP` closes the first
service of the table whose address is printed as the given text. A host name is
printed as an empty text, and a connect that timed out leaves a service in the
table. `lookups_right_iff` says in exactly which runs both answer for the address
that a device was opened with.
-/

namespace VzSdk.Sdk

open VzSdk.Base VzSdk.Std

/-- `NULL_SESSION_ID`. -/
def nullSessionId : Int := 0

/-- A call of the interface that concerns addresses. -/
inductive LookupLabel where
  /-- `VzLPRTcp_Open`, with the outcome of its connect. -/
  | vzOpen (pStrIP : List UInt8) (wPort : UInt16) (result : ConnectResult)
  | getIP (handle : Int)
  | closeByIP (pStrIP : List UInt8)
  /-- Another call of the interface. -/
  | call (call : DeviceCall)
  /-- `VzLPRTcp_Cleanup` and `VzLPRTcp_Setup`. -/
  | setup

/-- What is seen of such a call. -/
inductive LookupOutput where
  /-- What `VzLPRTcp_GetIP` returned, and the address that the device was opened with, if it is
  open. -/
  | ip (opened : Option (List UInt8)) (returned : Option (List UInt8))
  /-- The device that `VzLPRTcp_CloseByIP` closed, and the devices that were open, with the
  addresses they were opened with. -/
  | closed (pStrIP : List UInt8) (opened : List (Int × List UInt8)) (handle : Option Int)
deriving DecidableEq, Repr

/-- The answer is the one for the address. -/
def LookupOutput.Right : LookupOutput → Prop
  | ip opened returned => ∀ address, opened = some address → returned = some address
  | closed pStrIP opened handle =>
      (handle.isSome = true ↔ ∃ device ∈ opened, device.2 = pStrIP) ∧
        ∀ closing, handle = some closing → (closing, pStrIP) ∈ opened

/-- The table of the services with the addresses of their devices. -/
structure LookupState where
  manage : VzTcpDeviceManage
  /-- The address in `req_connect_data_ptr_` of the service under a key. -/
  address : Int → Base.SocketAddress
  /-- The static variable `_device_ip` of `VzLPRTcp_GetIP`, once it is initialised. -/
  deviceIp : Option (List UInt8)

namespace LookupState

variable (inet : Inet)

/-- No device is open, and `VzLPRTcp_GetIP` was not called. -/
def start : LookupState := ⟨.new, fun _ => .new inet [] 0, none⟩

variable (state : LookupState)

/-- The handle was returned by `VzLPRTcp_Open` and is in the table. -/
def isOpen (handle : Int) : Bool := 0 < handle && (state.manage.serviceMap.find? handle).isSome

/-- The devices that are open, with the addresses they were opened with. -/
def opened : List (Int × List UInt8) :=
  (state.manage.serviceMap.entries.filter fun entry => 0 < entry.1).map fun entry =>
    (entry.1, (state.address entry.1).hostname)

/-- A service that the open adds has the new address; the others keep theirs. -/
def vzOpen (pStrIP : List UInt8) (wPort : UInt16) (result : ConnectResult) : LookupState :=
  { state with
    manage := (state.manage.vzOpen result).1
    address := fun key =>
      if (state.manage.serviceMap.find? key).isSome then state.address key
      else .new inet pStrIP wPort }

/-- `VzConnectDev::GetIP` of the service under a key. -/
def connectDevIP (key : Int) : List UInt8 := (state.address key).ip.toText inet

/-- `VzLPRTcp_GetIP`. -/
def getIP (handle : Int) : LookupState × Option (List UInt8) :=
  match state.manage.serviceMap.find? handle with
  | none => (state, none)
  | some _ =>
      let ip := state.deviceIp.getD (state.connectDevIP inet handle)
      ({ state with deviceIp := some ip }, some ip)

/-- `VzTcpDeviceManage::GetService(ip)`. -/
def getService (pStrIP : List UInt8) : Option (Int × VzsdkService) :=
  state.manage.serviceMap.entries.find? fun entry => state.connectDevIP inet entry.1 = pStrIP

/-- `VzLPRTcp_CloseByIP`, and the device that it closed. -/
def closeByIP (pStrIP : List UInt8) : LookupState × Option Int :=
  match state.getService inet pStrIP with
  | none => (state, none)
  | some entry =>
      if entry.2.getSessionID ≠ nullSessionId then
        let (manage, closed) := state.manage.closeService entry.2.getSessionID
        ({ state with manage := manage }, if closed then some entry.2.getSessionID else none)
      else (state, none)

/-- What a call does. -/
def step (state : LookupState) : LookupLabel → Option (LookupState × List LookupOutput)
  | .vzOpen pStrIP wPort result => some (state.vzOpen inet pStrIP wPort result, [])
  | .getIP handle =>
      let (next, returned) := state.getIP inet handle
      some (next, [.ip
        (if state.isOpen handle then some (state.address handle).hostname else none) returned])
  | .closeByIP pStrIP =>
      let (next, handle) := state.closeByIP inet pStrIP
      some (next, [.closed pStrIP state.opened handle])
  | .call (.vzOpen _) => none
  | .call call => (state.manage.step call).map fun result => ({ state with manage := result.1 }, [])
  | .setup => some ({ state with manage := .new }, [])

/-- What `VzLPRTcp_GetIP` finds in its static variable is right for a device that was opened with
this text: nothing while the text is printed as it was given, or else the text itself. -/
def StoresOwn (hostname : List UInt8) : Option (List UInt8) → Prop
  | none => IsPrinted inet hostname
  | some earlier => earlier = hostname

/-- The first service that was opened with a text printed as the one asked for is right: it is an
open device that was opened with the text itself, or it is left from a timeout, or missing, and no
device is open that was opened with the text. -/
def ClosesOwn (pStrIP : List UInt8) : Option (Int × VzsdkService) → Prop
  | some first =>
      (0 < first.1 ∧ (state.address first.1).hostname = pStrIP) ∨
        (first.1 = 0 ∧ ∀ device ∈ state.opened, device.2 ≠ pStrIP)
  | none => ∀ device ∈ state.opened, device.2 ≠ pStrIP

/-- The first service, in the order of the keys, that was opened with a text that is printed as
the one given. -/
def firstPrintedAs (pStrIP : List UInt8) : Option (Int × VzsdkService) :=
  state.manage.serviceMap.entries.find? fun entry =>
    reprinted inet (state.address entry.1).hostname = pStrIP

/-- A lookup finds its own device. -/
def NamesOwn : LookupLabel → Prop
  | .getIP handle => state.isOpen handle = true →
      StoresOwn inet (state.address handle).hostname state.deviceIp
  | .closeByIP pStrIP => state.ClosesOwn pStrIP (state.firstPrintedAs inet pStrIP)
  | _ => True

end LookupState

/-- The machine of the table and its addresses. -/
def lookupMachine (inet : Inet) : Machine LookupState LookupLabel LookupOutput :=
  ⟨LookupState.step inet⟩

namespace VzTcpDeviceManage

variable {manage : VzTcpDeviceManage}

/-- Every service is under its session id, which is 0 after a timeout. -/
def Keyed (manage : VzTcpDeviceManage) : Prop :=
  ∀ entry ∈ manage.serviceMap.entries, entry.2.getSessionID = entry.1

/-- In an empty table every service has the key of its session. -/
theorem keyed_new : VzTcpDeviceManage.new.Keyed := by
  intro entry member
  cases member

/-- A service that is inserted under its session id has that key. -/
theorem keyed_insert (keyed : manage.Keyed) {key : Int} {service : VzsdkService}
    (same : service.getSessionID = key) :
    Keyed { manage with serviceMap := manage.serviceMap.insert key service } := by
  intro entry member
  rcases OrderedMap.mem_insertEntry member with rfl | old
  · exact same
  · exact keyed entry old

/-- An open leaves every service under the key of its session. -/
theorem keyed_vzOpen (keyed : manage.Keyed) (result : ConnectResult) :
    (manage.vzOpen result).1.Keyed := by
  simp only [vzOpen, createNewService_eq]
  split
  · exact keyed_insert keyed rfl
  · split
    · exact keyed
    · exact keyed_insert keyed rfl
  · exact keyed

/-- So does a close. -/
theorem keyed_closeService (keyed : manage.Keyed) (sessionId : Int) :
    (manage.closeService sessionId).1.Keyed := by
  unfold closeService
  split
  · exact keyed
  · intro entry member
    exact keyed entry (OrderedMap.mem_erase.mp member).1

/-- So does every call. -/
theorem keyed_step (keyed : manage.Keyed) {call : DeviceCall} {next : VzTcpDeviceManage}
    {reports : List OpenReport} (transition : manage.step call = some (next, reports)) :
    next.Keyed := by
  cases call with
  | vzOpen result =>
      cases transition
      exact keyed_vzOpen keyed result
  | vzClose handle =>
      cases transition
      exact keyed_closeService keyed handle
  | setCommonNotifyCallBack callback =>
      simp only [step, setCommonNotifyCallBack] at transition
      split at transition
      · cases transition
      · next set =>
          cases transition
          split at set
          · cases set
            intro entry member
            obtain ⟨old, before, rfl⟩ := List.mem_map.mp member
            exact keyed old before
          · cases set
  | setDeviceCallBack handle =>
      cases transition
      exact keyed

end VzTcpDeviceManage

namespace LookupState

variable {inet : Inet} {state : LookupState}

/-- Services are under their session ids, and the IP addresses are those of the texts. -/
structure Inv (inet : Inet) (state : LookupState) : Prop where
  keyed : state.manage.Keyed
  ips : ∀ key, (state.address key).ip = ipFromString inet (state.address key).hostname

/-- The empty table meets the invariant. -/
theorem Inv.start : Inv inet (.start inet) where
  keyed := VzTcpDeviceManage.keyed_new
  ips _ := rfl

/-- Every call keeps the invariant: only an open writes an address, with its IP address. -/
theorem Inv.step (inv : Inv inet state) {label : LookupLabel} {next : LookupState}
    {emitted : List LookupOutput} (transition : state.step inet label = some (next, emitted)) :
    Inv inet next := by
  cases label with
  | vzOpen pStrIP wPort result =>
      cases transition
      refine ⟨VzTcpDeviceManage.keyed_vzOpen inv.keyed result, fun key => ?_⟩
      simp only [vzOpen]
      split
      · exact inv.ips key
      · rfl
  | getIP handle =>
      cases transition
      split
      · exact inv
      · exact ⟨inv.keyed, inv.ips⟩
  | closeByIP pStrIP =>
      cases transition
      split
      · exact inv
      · split
        · exact ⟨VzTcpDeviceManage.keyed_closeService inv.keyed _, inv.ips⟩
        · exact inv
  | call call =>
      cases call with
      | vzOpen result => cases transition
      | vzClose handle =>
          cases transition
          exact ⟨VzTcpDeviceManage.keyed_closeService inv.keyed handle, inv.ips⟩
      | setCommonNotifyCallBack callback =>
          obtain ⟨result, called, same⟩ := Option.map_eq_some_iff.mp transition
          cases same
          exact ⟨VzTcpDeviceManage.keyed_step inv.keyed called, inv.ips⟩
      | setDeviceCallBack handle =>
          cases transition
          exact inv
  | setup =>
      cases transition
      exact ⟨VzTcpDeviceManage.keyed_new, inv.ips⟩

/-! ## The two lookups -/

/-- Which devices are open, and with which addresses. -/
theorem mem_opened {handle : Int} {text : List UInt8} :
    (handle, text) ∈ state.opened ↔
      0 < handle ∧ (∃ service, (handle, service) ∈ state.manage.serviceMap.entries) ∧
        (state.address handle).hostname = text := by
  simp only [opened, List.mem_map, List.mem_filter, decide_eq_true_eq, Prod.mk.injEq]
  constructor
  · rintro ⟨⟨key, service⟩, ⟨member, positive⟩, rfl, isText⟩
    exact ⟨positive, ⟨service, member⟩, isText⟩
  · rintro ⟨positive, ⟨service, member⟩, isText⟩
    exact ⟨(handle, service), ⟨member, positive⟩, rfl, isText⟩

/-- The address of a service is printed from the text that it was opened with. -/
theorem connectDevIP_eq (inv : Inv inet state) (key : Int) :
    state.connectDevIP inet key = reprinted inet (state.address key).hostname := by
  rw [connectDevIP, inv.ips key, reprinted]

/-- `VzLPRTcp_GetIP` answers right exactly when its static variable is right for the device. -/
theorem getIP_right_iff (inv : Inv inet state) (handle : Int) :
    (LookupOutput.ip (if state.isOpen handle then some (state.address handle).hostname else none)
        (state.getIP inet handle).2).Right ↔
      state.NamesOwn inet (.getIP handle) := by
  simp only [LookupOutput.Right, NamesOwn]
  cases opened : state.isOpen handle with
  | false => simp
  | true =>
      simp only [isOpen, Bool.and_eq_true, Option.isSome_iff_exists] at opened
      obtain ⟨_, service, found⟩ := opened
      simp only [if_true, Option.some.injEq, forall_eq', true_imp_iff, getIP, found]
      cases stored : state.deviceIp with
      | none => rw [Option.getD_none, connectDevIP_eq inv, StoresOwn, IsPrinted]
      | some earlier => rw [Option.getD_some, StoresOwn]

/-- What `VzLPRTcp_CloseByIP` closes: the first service that is found, unless its session id is 0. -/
theorem closeByIP_eq (inv : Inv inet state) (pStrIP : List UInt8) :
    (state.closeByIP inet pStrIP).2 =
      (state.getService inet pStrIP).bind fun entry =>
        if entry.1 = nullSessionId then none else some entry.1 := by
  unfold closeByIP
  cases found : state.getService inet pStrIP with
  | none => rfl
  | some entry =>
      have member : entry ∈ state.manage.serviceMap.entries := List.mem_of_find?_eq_some found
      have present : state.manage.serviceMap.find? entry.1 = some entry.2 :=
        OrderedMap.find?_of_mem member
      simp only [inv.keyed entry member, Option.bind_some]
      by_cases null : entry.1 = nullSessionId
      · simp [null]
      · simp [null, VzTcpDeviceManage.closeService, present]

/-- `GetService` finds the first service that was opened with a text printed as the one given. -/
theorem getService_eq (inv : Inv inet state) (pStrIP : List UInt8) :
    state.getService inet pStrIP = state.firstPrintedAs inet pStrIP := by
  simp only [getService, firstPrintedAs, connectDevIP_eq inv]

/-- Closing nothing is right when no device was opened with the text. -/
theorem right_closed_none_iff {pStrIP : List UInt8} {opened : List (Int × List UInt8)} :
    (LookupOutput.closed pStrIP opened none).Right ↔ ∀ device ∈ opened, device.2 ≠ pStrIP := by
  simp only [LookupOutput.Right, Option.isSome_none, Bool.false_eq_true, false_iff, not_exists,
    not_and, reduceCtorEq, false_implies, implies_true, and_true, ne_eq]

/-- `VzLPRTcp_CloseByIP` closes right exactly when the first service it finds is right. -/
theorem closeByIP_right_iff (inv : Inv inet state) (pStrIP : List UInt8) :
    (LookupOutput.closed pStrIP state.opened (state.closeByIP inet pStrIP).2).Right ↔
      state.NamesOwn inet (.closeByIP pStrIP) := by
  rw [closeByIP_eq inv, getService_eq inv]
  simp only [NamesOwn]
  cases found : state.firstPrintedAs inet pStrIP with
  | none => rw [Option.bind_none, right_closed_none_iff, ClosesOwn]
  | some first =>
      have member : first ∈ state.manage.serviceMap.entries := List.mem_of_find?_eq_some found
      rw [Option.bind_some, ClosesOwn]
      by_cases null : first.1 = nullSessionId
      · -- left from a timeout: it has session id 0, and nothing is closed
        have isZero : first.1 = 0 := null
        rw [if_pos null, right_closed_none_iff]
        simp only [isZero, Int.lt_irrefl, false_and, false_or, true_and]
      · rw [if_neg null]
        have notZero : ¬first.1 = 0 := null
        simp only [LookupOutput.Right, Option.isSome_some, true_iff, Option.some.injEq,
          forall_eq', notZero, false_and, or_false]
        constructor
        · rintro ⟨_, isOpened⟩
          obtain ⟨positive, _, isText⟩ := mem_opened.mp isOpened
          exact ⟨positive, isText⟩
        · rintro ⟨positive, isText⟩
          have isOpened := mem_opened.mpr ⟨positive, ⟨first.2, member⟩, isText⟩
          exact ⟨⟨_, isOpened, rfl⟩, isOpened⟩

/-- A step answers right exactly when it meets the condition. -/
theorem right_step_iff (inv : Inv inet state) {label : LookupLabel} {next : LookupState}
    {emitted : List LookupOutput} (transition : state.step inet label = some (next, emitted)) :
    (∀ output ∈ emitted, output.Right) ↔ state.NamesOwn inet label := by
  cases label with
  | getIP handle =>
      cases transition
      rw [List.forall_mem_singleton]
      exact getIP_right_iff inv handle
  | closeByIP pStrIP =>
      cases transition
      rw [List.forall_mem_singleton]
      exact closeByIP_right_iff inv pStrIP
  | vzOpen pStrIP wPort result =>
      cases transition
      exact iff_of_true nofun trivial
  | setup =>
      cases transition
      exact iff_of_true nofun trivial
  | call call =>
      have silent : emitted = [] := by
        cases call with
        | vzOpen result => cases transition
        | vzClose handle =>
            cases transition
            rfl
        | setDeviceCallBack handle =>
            cases transition
            rfl
        | setCommonNotifyCallBack callback =>
            obtain ⟨result, _, same⟩ := Option.map_eq_some_iff.mp transition
            cases same
            rfl
      rw [silent]
      exact iff_of_true nofun trivial

end LookupState

/-- In a run of calls every lookup answers for the address that a device was opened with, exactly
when each of them names its own. -/
theorem lookups_right_iff (inet : Inet) {labels : List LookupLabel} {final : LookupState}
    {outputs : List LookupOutput}
    (run : (lookupMachine inet).Run (.start inet) labels final outputs) :
    (∀ output ∈ outputs, output.Right) ↔
      (lookupMachine inet).RunWhere (LookupState.NamesOwn inet) (.start inet) labels final
        outputs := by
  refine Machine.RunWhere.good_iff (fun outputs => ∀ output ∈ outputs, output.Right) nofun ?_ run
  intro _ state _ label next emitted prior transition
  have inv : state.Inv inet := prior.invariant (fun _ state _ => state.Inv inet) .start
    fun inv _ stepped => inv.step stepped
  rw [List.forall_mem_append, LookupState.right_step_iff inv transition]

instance (inet : Inet) (hostname : List UInt8) :
    (stored : Option (List UInt8)) → Decidable (LookupState.StoresOwn inet hostname stored)
  | none => inferInstanceAs (Decidable (IsPrinted inet hostname))
  | some earlier => inferInstanceAs (Decidable (earlier = hostname))

instance (state : LookupState) (pStrIP : List UInt8) :
    (found : Option (Int × VzsdkService)) → Decidable (state.ClosesOwn pStrIP found)
  | some first => inferInstanceAs (Decidable (
      (0 < first.1 ∧ (state.address first.1).hostname = pStrIP) ∨
        (first.1 = 0 ∧ ∀ device ∈ state.opened, device.2 ≠ pStrIP)))
  | none => inferInstanceAs (Decidable (∀ device ∈ state.opened, device.2 ≠ pStrIP))

instance (inet : Inet) (state : LookupState) (label : LookupLabel) :
    Decidable (state.NamesOwn inet label) :=
  match label with
  | .getIP handle => inferInstanceAs (Decidable (state.isOpen handle = true →
      LookupState.StoresOwn inet (state.address handle).hostname state.deviceIp))
  | .closeByIP pStrIP =>
      inferInstanceAs (Decidable (state.ClosesOwn pStrIP (state.firstPrintedAs inet pStrIP)))
  | .vzOpen _ _ _ => .isTrue trivial
  | .call _ => .isTrue trivial
  | .setup => .isTrue trivial

/-- The C library on texts that are no IPv6 addresses, such as the dotted ones below. -/
def dottedOnly : Inet := ⟨inetPton, fun _ => none, fun _ => []⟩

/-- `10.0.0.2`. -/
def firstAddress : List UInt8 := [49, 48, 46, 48, 46, 48, 46, 50]

/-- `10.0.0.3`. -/
def secondAddress : List UInt8 := [49, 48, 46, 48, 46, 48, 46, 51]

/-- Two devices are open; the address of one is asked for twice, and the other is closed by its
own. -/
def asksForOne : List LookupLabel :=
  [.vzOpen firstAddress 8131 (.replied 2 true), .vzOpen secondAddress 8131 (.replied 3 true),
    .getIP 2, .getIP 2, .closeByIP secondAddress]

/-- The address asked for is printed as it was given, and every lookup is right. -/
theorem lookups_right_one :
    ∃ final outputs, (lookupMachine dottedOnly).Run (.start dottedOnly) asksForOne final outputs ∧
      outputs.length = 3 ∧ IsPrinted dottedOnly firstAddress ∧
      ∀ output ∈ outputs, output.Right := by
  have permitted : (lookupMachine dottedOnly).permits
      (fun state label => decide (state.NamesOwn dottedOnly label)) (.start dottedOnly) asksForOne =
        true := by decide +kernel
  have checked : ((lookupMachine dottedOnly).exec (.start dottedOnly) asksForOne).any
      (fun result => result.2.length = 3) = true := by decide +kernel
  obtain ⟨final, outputs, run, isThree⟩ :=
    Machine.exists_runWhere_of_exec (fun _ _ => of_decide_eq_true) permitted checked
  have printed : IsPrinted dottedOnly firstAddress := isPrinted_of_dotted rfl (by decide)
  exact ⟨final, outputs, run.run, by simpa using isThree, printed,
    (lookups_right_iff _ run.run).mpr run⟩

/-- The address of the second device is asked for after that of the first. -/
def asksForBoth : List LookupLabel :=
  [.vzOpen firstAddress 8131 (.replied 2 true), .vzOpen secondAddress 8131 (.replied 3 true),
    .getIP 2, .getIP 3]

/-- The first device's address is returned for it. -/
theorem getIP_of_other_device :
    ∃ final outputs, (lookupMachine dottedOnly).Run (.start dottedOnly) asksForBoth final outputs ∧
      .ip (some secondAddress) (some firstAddress) ∈ outputs ∧
      ¬∀ output ∈ outputs, output.Right := by
  have checked : ((lookupMachine dottedOnly).exec (.start dottedOnly) asksForBoth).any
      (fun result => decide (.ip (some secondAddress) (some firstAddress) ∈ result.2)) = true := by
    decide +kernel
  obtain ⟨final, outputs, run, wrong⟩ := Machine.exists_run_of_exec checked
  have member := of_decide_eq_true wrong
  refine ⟨final, outputs, run, member, fun right => ?_⟩
  have same := right _ member secondAddress rfl
  exact absurd same (by decide)

end VzSdk.Sdk
