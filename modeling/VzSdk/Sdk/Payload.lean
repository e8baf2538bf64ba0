import VzSdk.Sdk.Images
import VzSdk.Sdk.Pushes
import VzSdk.Sdk.SerialDev

/-!
# From a plate's packet to its images

The way of a packet with images: the session manager gives the text before the
first NUL to the JSON reader, the queue layer offers the response to its tasks
and then to the push task, and the plate handle of the session looks for the NUL
once more to point at the images. `images_cut_out_iff` says which plates come to
the callback once, with the images that were sent.
-/

namespace VzSdk.Sdk

open VzSdk.Base VzSdk.Event VzSdk.Std

/-- `SessionManager::FindEndString`, as a distance from the start. -/
def findEndString (data : List UInt8) : Nat := data.findIdx (· = 0)

/-- What `SessionManager::OnSessionPacketEvent` makes of a packet. -/
def packetAnswer (parse : List UInt8 → Option Json) (data : List UInt8) : Answer :=
  ⟨parse (data.take (findEndString data)), data, none⟩

/-- `VZ_LPRC_RESULT_TYPE`. -/
inductive ResultType where
  | realtime
  | stable
  | forceTrigger
  | ioTrigger
  | vloopTrigger
  | multiTrigger
deriving DecidableEq, Repr

/-- The kind of a result, by the bits of its trigger. -/
def getResultTypeFromTrigBits (uBitsTrigType : UInt32) : ResultType :=
  if uBitsTrigType = 1 then .stable
  else if uBitsTrigType = 2 then .ioTrigger
  else if uBitsTrigType = 4 then .forceTrigger
  else if uBitsTrigType = 8 then .vloopTrigger
  else .multiTrigger

/-- An image as a callback is given it: a pointer into the packet, null if it was not set, and a
size. -/
structure ImageArgument where
  pointer : Option Int
  size : Int32
deriving DecidableEq, Repr

/-- The argument is the image, and null for an empty one. -/
def ImageArgument.Shows (argument : ImageArgument) (resData image : List UInt8) : Prop :=
  argument.size.toInt = image.length ∧
    match argument.pointer with
    | none => image = []
    | some start => image ≠ [] ∧ 0 ≤ start ∧
        (resData.drop start.toNat).take image.length = image

/-- The full image, which stands behind the text. -/
def fullImage (resData : List UInt8) (fullImgSize : Int32) : ImageArgument :=
  ⟨if 0 < fullImgSize.toInt then some (imageStart resData) else none, fullImgSize⟩

/-- The clip of the plate, which stands behind the full image. -/
def clipImage (resData : List UInt8) (fullImgSize clipImgSize : Int32) : ImageArgument :=
  ⟨if 0 < clipImgSize.toInt then some (imageStart resData + fullImgSize.toInt) else none,
    clipImgSize⟩

/-- A call of a plate callback. -/
structure PlateCall where
  handle : UInt32
  func : Nat
  result : Memory
  resultType : ResultType
  full : ImageArgument
  clip : ImageArgument

/-- `IvsPushHandle::HandleMessageData` behind its tests; `result` is what stands in
`plate_result_` before it is parsed into. -/
def plateCallback (reals : Json.Reals) (order : HostOrder) (result : Memory) (root : Json)
    (resData : List UInt8) (handle : UInt32) (resultCallback : Option Nat) :
    Except Fault (List PlateCall) :=
  match parsePlateResultResponse reals order root ⟨result, 0, 0⟩ with
  | (_, false) => .error .json
  | (output, true) =>
      .ok (resultCallback.toList.map fun func =>
        ⟨handle, func, output.result,
          getResultTypeFromTrigBits
            (order.load32 (output.result.bytes PlateResult.uBitsTrigType 4)),
          fullImage resData output.fullImgSize,
          clipImage resData output.fullImgSize output.clipImgSize⟩)

/-- What a packet finds on its way. -/
structure Receivers where
  /-- `tasks_`, when the queue layer takes the packet. -/
  tasks : List (UInt32 × Task)
  /-- The push task at that time. -/
  routing : PushManagerTask
  /-- The push task when its thread takes the packet. -/
  dispatching : PushManagerTask
  /-- `result_callback_`. -/
  resultCallback : PushHandle → Option Nat

namespace Receivers

variable (receivers : Receivers) (reals : Json.Reals) (order : HostOrder)

/-- The plate callbacks that the loop of `ProcessPushEvent` calls for a response. -/
def processPushEvent (result : Memory) (root : Json) (resData : List UInt8) (stanza : Stanza) :
    Except Fault (List PlateCall) :=
  if (PushManagerTask.offer stanza .null receivers.dispatching.pushHandles).2 then .error .json
  else do
    let calls ← ((PushManagerTask.acts stanza .null receivers.dispatching.pushHandles).filter
      (·.2 = .plateCallback)).mapM fun act =>
        plateCallback reals order result root resData act.1.sessionId
          (receivers.resultCallback act.1)
    return calls.flatten

/-- The plate callbacks for a packet of a session. -/
def packetCalls (result : Memory) (session : UInt32) (answer : Answer) :
    Except Fault (List PlateCall) :=
  match answer.resJson with
  | none => .ok []
  | some root =>
      let stanza := Stanza.responseData session root answer.resData answer.origin
      match taker 0 stanza receivers.tasks with
      | .failure => .error .json
      | .task _ => .ok []
      | .nobody =>
          match receivers.routing.handleMessage 0 stanza with
          | none => .error .json
          | some handled =>
              if handled.posts then
                receivers.processPushEvent reals order result root answer.resData stanza
              else .ok []

/-- The plate handle is the only one of its session, has a callback, and its key is known. -/
structure Single (handle : PushHandle) (func : Nat) : Prop where
  keyed : ∀ other ∈ receivers.dispatching.pushHandles, other.cmdKey = other.kind.cmdKey
  known : PushKind.ivs.cmdKey ∈ receivers.routing.pushHandleKeys
  alone : receivers.dispatching.pushHandles.filter
    (fun other => other.kind = .ivs ∧ other.sessionId = handle.sessionId) = [handle]
  callback : receivers.resultCallback handle = some func

end Receivers

/-- A packet with a plate and its images, whose JSON says how long they are. -/
structure PlatePacket (reals : Json.Reals) (parse : List UInt8 → Option Json) where
  text : List UInt8
  full : List UInt8
  clip : List UInt8
  root : Json
  nulFree : 0 ∉ text
  parsed : parse text = some root
  isObject : root.isObject = true
  isPlate : root.cmd = some ivsResult
  fullImgSize : (root.get "fullImgSize").int? reals = some (.ofNat full.length)
  clipImgSize : (root.get "clipImgSize").int? reals = some (.ofNat clip.length)
  license : ∀ member string, root.path ["PlateResult", "license"] = some member →
    member.asCString = some string → string.length < PlateResult.lpLen
  colorValue : ∀ member string, root.path ["PlateResult", "colorValue"] = some member →
    member.asCString = some string → string.length < PlateResult.colorLen
  short : (text ++ 0 :: (full ++ clip)).length < 2 ^ 31

namespace PlatePacket

variable {reals : Json.Reals} {parse : List UInt8 → Option Json}

/-- The packet as it is sent: the text, a NUL, and the images. -/
def data (packet : PlatePacket reals parse) : List UInt8 :=
  packet.text ++ 0 :: (packet.full ++ packet.clip)

/-- The callback is called once, with the two images of the packet. -/
def CutOut (packet : PlatePacket reals parse) (session : UInt32) (func : Nat)
    (outcome : Except Fault (List PlateCall)) : Prop :=
  ∃ call, outcome = .ok [call] ∧ call.handle = session ∧ call.func = func ∧
    call.full.Shows packet.data packet.full ∧ call.clip.Shows packet.data packet.clip

/-! ## Where the text ends -/

variable (packet : PlatePacket reals parse)

/-- The text goes to the first NUL. -/
theorem takeWhile_data : packet.data.takeWhile (· ≠ 0) = packet.text := by
  have nonzero : ∀ byte ∈ packet.text, (decide (byte ≠ 0)) = true := by
    intro byte member
    have differs : byte ≠ 0 := fun zero => packet.nulFree (zero ▸ member)
    exact decide_eq_true differs
  rw [data, List.takeWhile_append_of_pos nonzero]
  simp

/-- `FindEndString` finds the end of the text. -/
theorem take_findEndString : packet.data.take (findEndString packet.data) = packet.text := by
  have found : packet.data.takeWhile (· ≠ 0) = _ := List.takeWhile_eq_take_findIdx_not
  rw [packet.takeWhile_data] at found
  simpa [findEndString] using found.symm

/-- How long the packet is. -/
theorem length_data :
    packet.data.length = packet.text.length + (1 + (packet.full.length + packet.clip.length)) := by
  simp [data]
  omega

/-- The packet is not longer than its length can say. -/
theorem length_data_lt :
    packet.text.length + (1 + (packet.full.length + packet.clip.length)) < 2 ^ 31 := by
  rw [← packet.length_data]
  exact packet.short

/-- Both searches for the NUL end at the same place. -/
theorem imageStart_data : imageStart packet.data = packet.text.length + 1 := by
  have short := packet.length_data_lt
  rw [imageStart, dataLen, packet.takeWhile_data, Int32.toInt_ofNat_of_lt (by omega)]

/-- The full image is what the packet holds. -/
theorem shows_fullImage :
    (fullImage packet.data (.ofNat packet.full.length)).Shows packet.data packet.full := by
  have short := packet.length_data_lt
  have size : (Int32.ofNat packet.full.length).toInt = packet.full.length :=
    Int32.toInt_ofNat_of_lt (by omega)
  refine ⟨size, ?_⟩
  simp only [fullImage, size, packet.imageStart_data]
  by_cases empty : packet.full = []
  · simp [empty]
  · rw [if_pos (by simpa using List.length_pos_iff.mpr empty)]
    refine ⟨empty, by omega, ?_⟩
    rw [show ((packet.text.length : Int) + 1).toNat = packet.text.length + 1 by omega, data,
      List.drop_length_add_append]
    simp

/-- The clip is what the packet holds. -/
theorem shows_clipImage :
    (clipImage packet.data (.ofNat packet.full.length) (.ofNat packet.clip.length)).Shows
      packet.data packet.clip := by
  have short := packet.length_data_lt
  have fullSize : (Int32.ofNat packet.full.length).toInt = packet.full.length :=
    Int32.toInt_ofNat_of_lt (by omega)
  have size : (Int32.ofNat packet.clip.length).toInt = packet.clip.length :=
    Int32.toInt_ofNat_of_lt (by omega)
  refine ⟨size, ?_⟩
  simp only [clipImage, size, fullSize, packet.imageStart_data]
  by_cases empty : packet.clip = []
  · simp [empty]
  · rw [if_pos (by simpa using List.length_pos_iff.mpr empty)]
    refine ⟨empty, by omega, ?_⟩
    rw [show ((packet.text.length : Int) + 1 + packet.full.length).toNat =
        packet.text.length + (packet.full.length + 1) by omega, data,
      List.drop_length_add_append, List.drop_succ_cons]
    simp

end PlatePacket

/-! ## Who takes a plate -/

section

variable (session : UInt32) (resData : List UInt8) {root : Json}

/-- What a handle does with a plate. -/
theorem handleMessageData_plate (isPlate : root.cmd = some ivsResult) {handle : PushHandle}
    (keyed : handle.cmdKey = handle.kind.cmdKey) :
    handle.handleMessageData (.responseData session root resData none) .null =
      match handle.kind with
      | .ivs =>
          if session = handle.sessionId then
            ([.readJson, .readJson, .readJson, .readData, .plateCallback], .accepted)
          else ([.readJson], .refused)
      | .serial => ([.readJson, .readJson], .refused)
      | .changeConn => ([], .refused)
      | .resume => ([], .refused) := by
  obtain ⟨cmd, isCmd, isText⟩ := PushHandle.objectCmd_of_cmd (by decide)
    (show ((Stanza.responseData session root resData none).resJson .null).cmd = _ from isPlate)
  unfold PushHandle.handleMessageData
  cases kind : handle.kind with
  | ivs =>
      rw [kind] at keyed
      simp [PushHandle.ivsHandleMessageData, isCmd, isText, keyed, PushKind.cmdKey, ivsResult,
        Stanza.sessionId, Stanza.stanzaType]
  | serial =>
      rw [kind] at keyed
      simp [PushHandle.serialHandleMessageData, isCmd, isText, keyed, PushKind.cmdKey, ivsResult]
  | changeConn => simp [PushHandle.changeConnHandleMessageData, Stanza.stanzaType]
  | resume => simp [PushHandle.resumeHandleMessageData, PushHandle.ownResume, Stanza.stanzaType]

/-- The first plate handle of the session takes it. -/
theorem acts_plate (isPlate : root.cmd = some ivsResult) {handles : List PushHandle}
    (keyed : ∀ handle ∈ handles, handle.cmdKey = handle.kind.cmdKey) :
    let stanza := Stanza.responseData session root resData none
    (PushManagerTask.offer stanza .null handles).2 = false ∧
    (PushManagerTask.acts stanza .null handles).filter (·.2 = .plateCallback) =
      ((handles.filter fun handle => handle.kind = .ivs ∧ handle.sessionId = session).head?.map
        (·, .plateCallback)).toList := by
  intro stanza
  induction handles with
  | nil => exact ⟨rfl, rfl⟩
  | cons handle handles inductionHypothesis =>
      obtain ⟨noFailure, first⟩ :=
        inductionHypothesis fun other member => keyed other (List.mem_cons_of_mem _ member)
      have data := handleMessageData_plate session resData isPlate
        (keyed handle List.mem_cons_self)
      cases kind : handle.kind with
      | ivs =>
          rw [kind] at data
          by_cases own : session = handle.sessionId
          · simp only [if_pos own] at data
            simp [PushManagerTask.offer, PushManagerTask.acts, stanza, data, kind, own.symm]
          · simp only [if_neg own] at data
            simp [PushManagerTask.offer, PushManagerTask.acts, stanza, data, kind, noFailure,
              first, Ne.symm own]
      | serial | changeConn | resume =>
          simp [PushManagerTask.offer, PushManagerTask.acts, stanza, data, kind, noFailure, first]

end

namespace Receivers

variable {receivers : Receivers} {reals : Json.Reals} {order : HostOrder}
  {parse : List UInt8 → Option Json} {handle : PushHandle} {func : Nat}

/-- What becomes of a plate that the push task is given. -/
theorem processPushEvent_plate (single : receivers.Single handle func) {root : Json}
    (isPlate : root.cmd = some ivsResult) (result : Memory) (resData : List UInt8) :
    receivers.processPushEvent reals order result root resData
        (.responseData handle.sessionId root resData none) =
      plateCallback reals order result root resData handle.sessionId (some func) := by
  obtain ⟨noFailure, isFirst⟩ := acts_plate handle.sessionId resData isPlate single.keyed
  rw [processPushEvent, noFailure, isFirst, single.alone]
  simp only [List.head?_cons, Option.map_some, Option.toList_some, List.mapM_cons, List.mapM_nil,
    single.callback]
  cases plateCallback reals order result root resData handle.sessionId (some func) with
  | error fault => simp [bind, Except.bind]
  | ok calls => simp [bind, Except.bind, pure, Except.pure]

/-- What becomes of a plate's packet. -/
theorem packetCalls_plate (single : receivers.Single handle func) (packet : PlatePacket reals parse)
    (result : Memory) :
    receivers.packetCalls reals order result handle.sessionId (packetAnswer parse packet.data) =
      match taker 0 (.responseData handle.sessionId packet.root packet.data none)
        receivers.tasks with
      | .failure => .error .json
      | .task _ => .ok []
      | .nobody =>
          plateCallback reals order result packet.root packet.data handle.sessionId
            (some func) := by
  have handled : receivers.routing.handleMessage 0
      (.responseData handle.sessionId packet.root packet.data none) = some ⟨true, true⟩ := by
    have known : ivsResult ∈ receivers.routing.pushHandleKeys := single.known
    simp [PushManagerTask.handleMessage, Stanza.stanzaType, Stanza.resJson, packet.isPlate, known]
  simp only [packetCalls, packetAnswer, packet.take_findEndString, packet.parsed, handled, if_true,
    processPushEvent_plate single packet.isPlate]

/-- The callback has the images exactly when the plate can be parsed. -/
theorem cutOut_plateCallback_iff (packet : PlatePacket reals parse) (result : Memory)
    (session : UInt32) :
    packet.CutOut session func
        (plateCallback reals order result packet.root packet.data session (some func)) ↔
      PlateShape packet.root := by
  by_cases shape : PlateShape packet.root
  · obtain ⟨parsed, same⟩ : ∃ parsed, parsePlateResultResponse reals order packet.root
        ⟨result, 0, 0⟩ = (⟨parsed, _, _⟩, true) := parsePlateResultResponse_of_shape shape _
    rw [packet.fullImgSize, packet.clipImgSize, Option.getD_some, Option.getD_some] at same
    refine iff_of_true ?_ shape
    rw [plateCallback, same]
    exact ⟨_, rfl, rfl, rfl, packet.shows_fullImage, packet.shows_clipImage⟩
  · obtain ⟨rest, same⟩ : ∃ rest, parsePlateResultResponse reals order packet.root
        ⟨result, 0, 0⟩ = (rest, false) := parsePlateResultResponse_of_not_shape shape _
    refine iff_of_false ?_ shape
    rw [plateCallback, same]
    rintro ⟨call, failed, _⟩
    cases failed

end Receivers

/-- The receivers of a packet that the queue layer takes in one state of the system and the push
thread in another. -/
def System.receivers (routing dispatching : System) (resultCallback : PushHandle → Option Nat) :
    Receivers :=
  ⟨routing.tasks.entries, routing.pushManager, dispatching.pushManager, resultCallback⟩

/-- A packet that a callback is called for was posted to the push thread by the queue layer. -/
theorem System.posted_of_packetCalls {routing dispatching : System}
    (registered : routing.pushRegistered = true) {resultCallback : PushHandle → Option Nat}
    {reals : Json.Reals} {order : HostOrder} {result : Memory} {session : UInt32} {answer : Answer}
    {call : PlateCall} {calls : List PlateCall}
    (called : (routing.receivers dispatching resultCallback).packetCalls reals order result session
      answer = .ok (call :: calls)) :
    ∃ root, answer.resJson = some root ∧
      let stanza := Stanza.responseData session root answer.resData answer.origin
      routing.onTranslateToSyncLayer 0 stanza =
        routing.postThread routing.pushThread
          ⟨some (.task routing.pushManager.taskId), routing.pushManager.taskId, some stanza⟩ := by
  unfold Receivers.packetCalls at called
  split at called
  · cases called
  · next root isRoot =>
      refine ⟨root, isRoot, ?_⟩
      intro stanza
      change (match taker 0 stanza routing.tasks.entries with
        | .failure => _
        | .task _ => _
        | .nobody =>
            match routing.pushManager.handleMessage 0 stanza with
            | none => _
            | some handled => _) = _ at called
      unfold System.onTranslateToSyncLayer
      cases taken : taker 0 stanza routing.tasks.entries with
      | failure =>
          rw [taken] at called
          cases called
      | task task =>
          rw [taken] at called
          cases called
      | nobody =>
          simp only [taken, registered, if_true, System.pushHandleMessage] at called ⊢
          cases isHandled : routing.pushManager.handleMessage 0 stanza with
          | none =>
              rw [isHandled] at called
              cases called
          | some handled =>
              simp only [isHandled] at called ⊢
              by_cases posts : handled.posts = true
              · exact if_pos posts
              · rw [if_neg posts] at called
                cases called

/-- A plate comes to the callback of its session once, with the images that were sent, exactly when
no request in flight claims it and its nested values can be read. -/
theorem images_cut_out_iff {reals : Json.Reals} {parse : List UInt8 → Option Json}
    (order : HostOrder) (packet : PlatePacket reals parse) {receivers : Receivers}
    {handle : PushHandle} {func : Nat} (single : receivers.Single handle func) (result : Memory) :
    packet.CutOut handle.sessionId func
        (receivers.packetCalls reals order result handle.sessionId
          (packetAnswer parse packet.data)) ↔
      (∀ entry ∈ receivers.tasks, ¬entry.2.Claims handle.sessionId ivsResult) ∧
        PlateShape packet.root := by
  have answers (entry : UInt32 × Task) : ∃ taken,
      entry.2.handleMessage 0 (.responseData handle.sessionId packet.root packet.data none) =
        some taken ∧ (taken = true ↔ entry.2.Claims handle.sessionId ivsResult) :=
    System.handleMessage_response packet.isPlate
  have unclaimed : taker 0 (.responseData handle.sessionId packet.root packet.data none)
      receivers.tasks = .nobody ↔
        ∀ entry ∈ receivers.tasks, ¬entry.2.Claims handle.sessionId ivsResult := by
    rw [System.taker_response fun entry _ => (answers entry).imp fun _ handled => handled.1]
    refine forall₂_congr fun entry _ => ?_
    obtain ⟨taken, handled, claims⟩ := answers entry
    rw [handled, ← claims]
    simp
  rw [Receivers.packetCalls_plate single, ← unclaimed]
  cases taken : taker 0 (.responseData handle.sessionId packet.root packet.data none)
      receivers.tasks with
  | nobody => simp only [Receivers.cutOut_plateCallback_iff, true_and]
  | task task => simp [PlatePacket.CutOut]
  | failure => simp [PlatePacket.CutOut]

/-- Device 2 has a plate handle behind the serial handle and the plate handle of device 4. -/
def twoDevices : Receivers :=
  let manager : PushManagerTask :=
    ⟨2, [⟨0, .serial, "ttransmission", 0⟩, ⟨1, .ivs, ivsResult, 4⟩, ⟨2, .ivs, ivsResult, 2⟩],
      ["ttransmission", ivsResult]⟩
  ⟨[], manager, manager, fun handle => some handle.object⟩

/-- The plate handle of device 2 is its only one. -/
theorem twoDevices_single : twoDevices.Single ⟨2, .ivs, ivsResult, 2⟩ 2 where
  keyed := by decide
  known := by decide
  alone := by decide
  callback := rfl

/-- A plate with two images, as text. -/
def imagesText : List UInt8 :=
  Json.cString "\x7b\"clipImgSize\":2,\"cmd\":\"ivs_result\",\"fullImgSize\":3\x7d"

/-- A plate with two images, as a value. -/
def imagesRoot : Json :=
  .object [("clipImgSize", .int 2), ("cmd", .string ivsResult), ("fullImgSize", .int 3)]

/-- Images with NULs in them. -/
def imagesPacket : PlatePacket ⟨fun _ => none, fun _ => none⟩
    (fun text => if text = imagesText then some imagesRoot else none) where
  text := imagesText
  full := [0, 255, 0]
  clip := [0, 7]
  root := imagesRoot
  nulFree member := Json.zero_not_mem_cString _ 0 member rfl
  parsed := if_pos rfl
  isObject := rfl
  isPlate := by decide
  fullImgSize := by decide
  clipImgSize := by decide
  license _ _ read text := by
    cases read
    cases text
  colorValue _ _ read text := by
    cases read
    cases text
  short := by decide

/-- The images of a packet are cut out, though they hold NULs. -/
theorem images_cut_out_nuls :
    imagesPacket.CutOut 2 2 (twoDevices.packetCalls ⟨fun _ => none, fun _ => none⟩ .littleEndian
      .zero 2 (packetAnswer (fun text => if text = imagesText then some imagesRoot else none)
        imagesPacket.data)) := by
  refine (images_cut_out_iff .littleEndian imagesPacket twoDevices_single .zero).mpr ⟨?_, ?_⟩
  · intro entry member
    cases member
  · exact ⟨by decide, by decide, by decide, by decide, by decide, by decide⟩

/-- A plate that cannot be read, as text. -/
def unreadableText : List UInt8 :=
  Json.cString ("\x7b\"PlateResult\":\"\",\"clipImgSize\":0,\"cmd\":\"ivs_result\"," ++
    "\"fullImgSize\":1\x7d")

/-- A plate that cannot be read, as a value. -/
def unreadableRoot : Json :=
  .object [("PlateResult", .string ""), ("clipImgSize", .int 0), ("cmd", .string ivsResult),
    ("fullImgSize", .int 1)]

/-- A plate whose "PlateResult" is a string. -/
def unreadablePacket : PlatePacket ⟨fun _ => none, fun _ => none⟩
    (fun text => if text = unreadableText then some unreadableRoot else none) where
  text := unreadableText
  full := [255]
  clip := []
  root := unreadableRoot
  nulFree member := Json.zero_not_mem_cString _ 0 member rfl
  parsed := if_pos rfl
  isObject := rfl
  isPlate := by decide
  fullImgSize := by decide
  clipImgSize := by decide
  license _ _ read _ := by cases read
  colorValue _ _ read _ := by cases read
  short := by decide

/-- It ends in a Json failure, and its image comes to no callback. -/
theorem unreadable_plate_not_cut_out :
    ¬unreadablePacket.CutOut 2 2 (twoDevices.packetCalls ⟨fun _ => none, fun _ => none⟩
      .littleEndian .zero 2
        (packetAnswer (fun text => if text = unreadableText then some unreadableRoot else none)
          unreadablePacket.data)) := by
  have unshaped : ¬PlateShape unreadablePacket.root := fun shape => by
    have keyed := shape.plate
    cases keyed
  rw [Receivers.packetCalls_plate twoDevices_single unreadablePacket]
  exact mt (Receivers.cutOut_plateCallback_iff unreadablePacket _ _).mp unshaped

end VzSdk.Sdk
