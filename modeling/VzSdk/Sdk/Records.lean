import VzSdk.Sdk.Resume

/-!
# Live and resumed plates

`IvsPushHandle` reports a plate when the device sends it, `ResumePushHandle`
fetches the records it has not passed yet. The handles were meant to share the
ids of the plates that came live, but `SetRecongnition` is never called.
`records_reported_once` says under which conditions the two together report every
record once.
-/

namespace VzSdk.Sdk

open VzSdk.Base VzSdk.Event VzSdk.Std

/-- The record that a call reports to the user of the resume handle's device. -/
def reportedId (resumer : PushHandle) : HandleOutput → Option Int
  | .called handle (.plate uId) => if handle.sessionId = resumer.sessionId then some uId else none
  | .called handle (.resumedPlate uId) => if handle = resumer then some uId else none
  | _ => none

/-- The ids of the plates that a step hands live to the plate handles of the device: they are of
its session and wanted, and somebody is there to be called. -/
def HandleState.livePlates (state : HandleState) (resumer : PushHandle) : HandleLabel → List Int
  | .dispatch now memory uId =>
      match state.push.nextPayload now with
      | none => []
      | some response =>
          ((PushManagerTask.offered response memory state.push.manager.pushHandles).filter
            fun handle => handle.kind = .ivs && handle.sessionId = resumer.sessionId &&
              (state.objects handle).callback && handle.wants response memory).map
            fun _ => (response.resJson memory).recordId uId
  | _ => []

/-- For the proofs only: the record id that the last subscription started at, the ids of the
plates that came live, and the record ids reported so far. -/
structure ReportRecord where
  subscribed : Int
  live : List Int
  reports : List Int

namespace ReportRecord

/-- A resume handle starts at 0 until it is told otherwise. -/
def start : ReportRecord := ⟨0, [], []⟩

/-- The record after a step. -/
def note (resumer : PushHandle) (record : ReportRecord) (state : HandleState) (label : HandleLabel)
    (_ : HandleState) : ReportRecord where
  subscribed :=
    match label with
    | .setStartMaxRecordId handle maxRecordId =>
        if handle = resumer then maxRecordId else record.subscribed
    | _ => record.subscribed
  live := record.live ++ state.livePlates resumer label
  reports := record.reports ++ (state.calls label).filterMap (reportedId resumer)

end ReportRecord

/-- `handleMachine` with the record of the reports of one device. -/
def reportMachine (resumer : PushHandle) :
    Machine (HandleState × ReportRecord) HandleLabel HandleOutput :=
  handleMachine.watch (ReportRecord.note resumer)

/-- The step keeps live and resumed plates apart. A subscription does not go back. A plate comes
live only if the resume handle has not passed it, and the handle begins to fetch only a range in
which no plate came live. `GetRecord` gives the record that was asked for. -/
def KeepsApart (resumer : PushHandle) (watched : HandleState × ReportRecord) : HandleLabel → Prop
  | .setStartMaxRecordId handle maxRecordId => handle = resumer →
      watched.2.subscribed ≤ maxRecordId ∧
        (watched.1.objects resumer).maxRecordId ≤ maxRecordId
  | .dispatch now memory uId =>
      ∀ plate ∈ watched.1.livePlates resumer (.dispatch now memory uId),
        plate ≤ watched.2.subscribed ∨ (watched.1.objects resumer).maxRecordId < plate
  | .resumeInfo info => watched.1.phase = some (.asking resumer) →
      let object := HandleState.slotRecvGetResumeInfo (watched.1.objects resumer) info
      object.callback = true → object.enableGetrecord = true →
        ∀ plate ∈ watched.2.live,
          plate ≤ watched.2.subscribed ∨ object.curMaxRecordId < plate
  | .getRecord uId => ∀ id, watched.1.phase = some (.fetching resumer id) → uId = id
  | _ => True

/-- `recongnition_` is null and no record id is remembered, so that the loop of
`HandleResponse` passes over no record. -/
def HandleState.Unremembered (state : HandleState) : Prop :=
  ∀ handle, (state.objects handle).recongnition = none ∧ (state.objects handle).recvRecordIdSet = []

/-- In the loop of `HandleResponse`, where `next` is fetched. -/
structure InLoop (resumer : PushHandle) (watched : HandleState × ReportRecord) (next : Int) :
    Prop where
  /-- The records before it were reported once. -/
  before : ∀ id, watched.2.subscribed < id → id < next → watched.2.reports.count id = 1
  /-- What was not live was fetched in order. -/
  known : ∀ id ∈ watched.2.reports, id ∈ watched.2.live ∨ id < next
  within : next ≤ (watched.1.objects resumer).curMaxRecordId
  /-- No plate of the range came live. -/
  apart : ∀ plate ∈ watched.2.live, plate ≤ watched.2.subscribed ∨
    (watched.1.objects resumer).curMaxRecordId < plate

/-- Every record from the subscription up to the last one processed was reported once. -/
structure Reported (resumer : PushHandle) (watched : HandleState × ReportRecord) : Prop where
  unremembered : watched.1.Unremembered
  processed : ∀ id, watched.2.subscribed < id → id ≤ (watched.1.objects resumer).maxRecordId →
    watched.2.reports.count id = 1
  /-- Outside the loop all that was fetched was processed. -/
  known : (∀ next, watched.1.phase ≠ some (.fetching resumer next)) →
    ∀ id ∈ watched.2.reports, id ∈ watched.2.live ∨ id ≤ (watched.1.objects resumer).maxRecordId
  fetching : ∀ next, watched.1.phase = some (.fetching resumer next) → InLoop resumer watched next

namespace HandleState

variable {state next : HandleState} {label : HandleLabel} {emitted : List HandleOutput}

/-- With nothing remembered the loop goes straight to its first record. -/
theorem advance_unremembered (handle : PushHandle) {object : HandleObject} (id : Int)
    (unremembered : object.recvRecordIdSet = []) :
    state.advance handle object id = { state.setObject handle object with
      phase := if id ≤ object.curMaxRecordId then some (.fetching handle id) else none } := by
  unfold advance
  by_cases more : id ≤ object.curMaxRecordId
  · obtain ⟨rounds, isRounds⟩ : ∃ rounds, (object.curMaxRecordId + 1 - id).toNat = rounds + 1 :=
      ⟨(object.curMaxRecordId - id).toNat, by omega⟩
    simp [isRounds, HandleObject.nextFetch, more, unremembered]
  · have isRounds : (object.curMaxRecordId + 1 - id).toNat = 0 := by omega
    simp [isRounds, HandleObject.nextFetch, more]

/-- An object that remembers nothing keeps the state unremembered. -/
theorem unremembered_setObject (unremembered : state.Unremembered) {handle : PushHandle}
    {object : HandleObject} (noOwner : object.recongnition = none)
    (noId : object.recvRecordIdSet = []) : (state.setObject handle object).Unremembered := by
  intro other
  simp only [setObject]
  split
  · exact ⟨noOwner, noId⟩
  · exact unremembered other

/-- What the loop of a handle leaves: its object, and the record to fetch next if there is one. -/
structure Loops (state : HandleState) (handle : PushHandle) (object : HandleObject)
    (next : HandleState) : Prop where
  unremembered : next.Unremembered
  own : next.objects handle = object
  others : ∀ other, other ≠ handle → next.objects other = state.objects other
  phase : ∀ {other id}, next.phase = some (.fetching other id) →
    other = handle ∧ id = object.maxRecordId + 1 ∧ id ≤ object.curMaxRecordId

/-- The loop of a state that remembers nothing. -/
theorem loops_setObject (unremembered : state.Unremembered) {handle : PushHandle}
    {object : HandleObject} (noOwner : object.recongnition = none)
    (noId : object.recvRecordIdSet = []) {phase : Option ResumePhase}
    (isPhase : ∀ {other id}, phase = some (.fetching other id) →
      other = handle ∧ id = object.maxRecordId + 1 ∧ id ≤ object.curMaxRecordId) :
    state.Loops handle object { state.setObject handle object with phase := phase } where
  unremembered := unremembered_setObject unremembered noOwner noId
  own := if_pos rfl
  others _ isOther := if_neg isOther
  phase := isPhase

/-- With nothing remembered the loop goes on behind the last record processed. -/
theorem loops_advance (unremembered : state.Unremembered) {handle : PushHandle}
    {object : HandleObject} (noOwner : object.recongnition = none)
    (noId : object.recvRecordIdSet = []) :
    state.Loops handle object (state.advance handle object (object.maxRecordId + 1)) := by
  rw [advance_unremembered handle _ noId]
  refine loops_setObject unremembered noOwner noId ?_
  intro other id isFetching
  split at isFetching
  · next within =>
      cases isFetching
      exact ⟨rfl, rfl, within⟩
  · cases isFetching

/-- The answer of the device changes nothing but the callback and the greatest record id. -/
theorem slotRecvGetResumeInfo_keeps (object : HandleObject) (info : Option (Bool × Int)) :
    (slotRecvGetResumeInfo object info).maxRecordId = object.maxRecordId ∧
      (slotRecvGetResumeInfo object info).recongnition = object.recongnition ∧
      (slotRecvGetResumeInfo object info).recvRecordIdSet = object.recvRecordIdSet := by
  unfold slotRecvGetResumeInfo
  split
  · exact ⟨rfl, rfl, rfl⟩
  · exact ⟨rfl, rfl, rfl⟩

/-- The loop begins for the handle that asked, if its records are to be resumed. -/
theorem loops_resumeInfo (unremembered : state.Unremembered) {info : Option (Bool × Int)}
    (transition : state.resumeInfo info = some next) :
    ∃ asked, state.phase = some (.asking asked) ∧
      state.Loops asked (slotRecvGetResumeInfo (state.objects asked) info) next ∧
      ∀ {id}, next.phase = some (.fetching asked id) →
        (slotRecvGetResumeInfo (state.objects asked) info).callback = true ∧
          (slotRecvGetResumeInfo (state.objects asked) info).enableGetrecord = true := by
  unfold HandleState.resumeInfo at transition
  split at transition
  · next asked isAsking =>
      obtain ⟨_, sameOwner, sameIds⟩ := slotRecvGetResumeInfo_keeps (state.objects asked) info
      have noOwner := sameOwner.trans (unremembered asked).1
      have noId := sameIds.trans (unremembered asked).2
      refine ⟨asked, isAsking, ?_⟩
      simp only at transition
      split at transition
      · next fetches =>
          obtain rfl := Option.some.inj transition
          exact ⟨loops_advance unremembered noOwner noId, fun _ => ⟨fetches.1, fetches.2.1⟩⟩
      · obtain rfl := Option.some.inj transition
        refine ⟨loops_setObject unremembered noOwner noId ?_, ?_⟩
        · intro other id isFetching
          cases isFetching
        · intro id isFetching
          cases isFetching
  · cases transition

/-- The loop goes on behind the record that was fetched. -/
theorem loops_getRecord (unremembered : state.Unremembered) {uId : Int}
    (transition : state.getRecord uId = some (next, emitted)) :
    ∃ handle fetched, state.phase = some (.fetching handle fetched) ∧
      state.Loops handle { state.objects handle with maxRecordId := fetched } next := by
  unfold HandleState.getRecord at transition
  split at transition
  · next handle fetched isFetching =>
      obtain ⟨rfl, -⟩ := Prod.mk.inj (Option.some.inj transition)
      have own := unremembered handle
      exact ⟨handle, fetched, isFetching, loops_advance unremembered own.1 own.2⟩
  · cases transition

/-- A dispatch remembers no record id, as no plate handle knows its `VzRecognition`. -/
theorem actedOn_unremembered (unremembered : state.Unremembered) (now : UInt32) (memory : Json)
    (uId : Int) (handle : PushHandle) :
    (state.actedOn now memory uId handle).recongnition = none ∧
      (state.actedOn now memory uId handle).recvRecordIdSet = [] := by
  refine ⟨(unremembered handle).1, ?_⟩
  simp [actedOn, (unremembered _).1, (unremembered handle).2]

end HandleState

namespace InLoop

variable {resumer : PushHandle} {watched : HandleState × ReportRecord}

/-- The record fetched next has not been reported: no plate of the range came live, and the
records were fetched in order. -/
theorem fresh {fetched : Int} (loop : InLoop resumer watched fetched)
    (later : watched.2.subscribed < fetched) : fetched ∉ watched.2.reports := by
  intro reported
  have within := loop.within
  rcases loop.known fetched reported with isLive | isEarlier
  · rcases loop.apart fetched isLive with passed | beyond
    · omega
    · omega
  · omega

/-- So it is reported once, like those before it. -/
theorem count_fetched {fetched : Int} (loop : InLoop resumer watched fetched) (id : Int)
    (later : watched.2.subscribed < id) (upTo : id ≤ fetched) :
    (watched.2.reports ++ [fetched]).count id = 1 := by
  rw [List.count_append]
  by_cases isLast : id = fetched
  · subst isLast
    simp [List.count_eq_zero.mpr (loop.fresh later)]
  · have once := loop.before id later (by omega)
    have other : fetched ≠ id := fun same => isLast same.symm
    simp [once, other]

/-- What was reported with the record fetched was live, or comes before the next record. -/
theorem known_fetched {fetched : Int} (loop : InLoop resumer watched fetched) :
    ∀ id ∈ watched.2.reports ++ [fetched], id ∈ watched.2.live ∨ id ≤ fetched := by
  intro id member
  rcases List.mem_append.mp member with reported | isLast
  · exact (loop.known id reported).imp_right Int.le_of_lt
  · exact .inr (Int.le_of_eq (List.mem_singleton.mp isLast))

end InLoop

namespace Reported

variable {resumer : PushHandle} {watched next : HandleState × ReportRecord} {label : HandleLabel}
  {emitted : List HandleOutput}

/-- Steps that report no record and neither subscribe nor fetch one for the handle. -/
theorem kept (before : Reported resumer watched) (unremembered : next.1.Unremembered)
    (noted : next.2 = watched.2)
    (sameMax : (next.1.objects resumer).maxRecordId = (watched.1.objects resumer).maxRecordId)
    (sameCur : (next.1.objects resumer).curMaxRecordId =
      (watched.1.objects resumer).curMaxRecordId)
    (phase : ∀ id, next.1.phase = some (.fetching resumer id) ↔
      watched.1.phase = some (.fetching resumer id)) : Reported resumer next where
  unremembered := unremembered
  processed := by
    rw [noted, sameMax]
    exact before.processed
  known := by
    intro outside
    rw [noted, sameMax]
    exact before.known fun id isFetching => outside id ((phase id).mpr isFetching)
  fetching := by
    intro id isFetching
    have loop := before.fetching id ((phase id).mp isFetching)
    exact ⟨by rw [noted]; exact loop.before, by rw [noted]; exact loop.known,
      by rw [sameCur]; exact loop.within, by rw [noted, sameCur]; exact loop.apart⟩

/-- Where a handle object is replaced, the resume handle keeps what the new object keeps. -/
theorem objects_setObject {state : HandleState} {handle : PushHandle} {object : HandleObject}
    (sameMax : object.maxRecordId = (state.objects handle).maxRecordId)
    (sameCur : object.curMaxRecordId = (state.objects handle).curMaxRecordId)
    (other : PushHandle) :
    ((state.setObject handle object).objects other).maxRecordId =
        (state.objects other).maxRecordId ∧
      ((state.setObject handle object).objects other).curMaxRecordId =
        (state.objects other).curMaxRecordId := by
  simp only [HandleState.setObject]
  split
  · next isHandle => exact ⟨by rw [sameMax, isHandle], by rw [sameCur, isHandle]⟩
  · exact ⟨rfl, rfl⟩

/-- The loop of another device's handle. -/
theorem otherLoop (before : Reported resumer watched) {handle : PushHandle} {object : HandleObject}
    (loops : watched.1.Loops handle object next.1) (isOther : resumer ≠ handle)
    (outside : ∀ id, watched.1.phase ≠ some (.fetching resumer id))
    (noted : next.2 = watched.2) : Reported resumer next := by
  have isObject := loops.others resumer isOther
  refine before.kept loops.unremembered noted (by rw [isObject]) (by rw [isObject]) fun id => ?_
  exact iff_of_false (fun isFetching => isOther (loops.phase isFetching).1) (outside id)

/-- The loop begins behind the last record processed, with a range in which no plate came live. -/
theorem beginLoop (before : Reported resumer watched) {object : HandleObject}
    (loops : watched.1.Loops resumer object next.1)
    (outside : ∀ id, watched.1.phase ≠ some (.fetching resumer id))
    (sameMax : object.maxRecordId = (watched.1.objects resumer).maxRecordId)
    (noted : next.2 = watched.2)
    (apart : ∀ {id}, next.1.phase = some (.fetching resumer id) →
      ∀ plate ∈ watched.2.live, plate ≤ watched.2.subscribed ∨ object.curMaxRecordId < plate) :
    Reported resumer next where
  unremembered := loops.unremembered
  processed := by
    rw [noted, loops.own, sameMax]
    exact before.processed
  known := by
    intro _
    rw [noted, loops.own, sameMax]
    exact before.known outside
  fetching := by
    intro id isFetching
    obtain ⟨_, isFirst, within⟩ := loops.phase isFetching
    rw [sameMax] at isFirst
    refine ⟨?_, ?_, by rw [loops.own]; exact within,
      by rw [noted, loops.own]; exact apart isFetching⟩
    · rw [noted]
      intro earlier later isEarlier
      exact before.processed earlier later (by omega)
    · rw [noted]
      intro reported isReported
      exact (before.known outside reported isReported).imp_right fun upTo => by omega

/-- The beginning of the loop of `HandleResponse`. -/
theorem resumeInfo (before : Reported resumer watched) {info : Option (Bool × Int)}
    (transition : watched.1.resumeInfo info = some next.1)
    (apart : KeepsApart resumer watched (.resumeInfo info)) (noted : next.2 = watched.2) :
    Reported resumer next := by
  obtain ⟨asked, isAsking, loops, resumes⟩ :=
    HandleState.loops_resumeInfo before.unremembered transition
  have outside : ∀ id, watched.1.phase ≠ some (.fetching resumer id) := by
    intro id isFetching
    rw [isAsking] at isFetching
    cases isFetching
  by_cases isResumer : resumer = asked
  · subst isResumer
    refine before.beginLoop loops outside (HandleState.slotRecvGetResumeInfo_keeps _ info).1
      noted ?_
    intro id isFetching
    obtain ⟨callback, enabled⟩ := resumes isFetching
    exact apart isAsking callback enabled
  · exact before.otherLoop loops isResumer outside noted

/-- The loop goes on behind the record that it fetched and reported. -/
theorem goOn (before : Reported resumer watched) {fetched : Int}
    (isFetching : watched.1.phase = some (.fetching resumer fetched))
    (loops : watched.1.Loops resumer
      { watched.1.objects resumer with maxRecordId := fetched } next.1)
    (noted : next.2 = { watched.2 with reports := watched.2.reports ++ [fetched] }) :
    Reported resumer next := by
  have loop := before.fetching fetched isFetching
  refine ⟨loops.unremembered, ?_, ?_, ?_⟩
  · rw [noted, loops.own]
    exact loop.count_fetched
  · intro _
    rw [noted, loops.own]
    exact loop.known_fetched
  · intro id isNext
    obtain ⟨_, isBehind, within⟩ := loops.phase isNext
    have isBehind : id = fetched + 1 := isBehind
    refine ⟨?_, ?_, by rw [loops.own]; exact within, by rw [noted, loops.own]; exact loop.apart⟩
    · rw [noted]
      exact fun earlier later isEarlier => loop.count_fetched earlier later (by omega)
    · rw [noted]
      exact fun earlier reported =>
        (loop.known_fetched earlier reported).imp_right fun upTo => by omega

/-- One round of the loop of `HandleResponse`. -/
theorem getRecord (before : Reported resumer watched) {uId : Int}
    (transition : watched.1.getRecord uId = some (next.1, emitted))
    (apart : KeepsApart resumer watched (.getRecord uId))
    (noted : next.2 = watched.2.note resumer watched.1 (.getRecord uId) next.1) :
    Reported resumer next := by
  obtain ⟨handle, fetched, isFetching, loops⟩ :=
    HandleState.loops_getRecord before.unremembered transition
  have calls : watched.1.calls (.getRecord uId) = [.called handle (.resumedPlate uId)] := by
    simp [HandleState.calls, isFetching]
  by_cases isResumer : resumer = handle
  · subst isResumer
    obtain rfl := apart fetched isFetching
    refine before.goOn isFetching loops ?_
    rw [noted]
    simp [ReportRecord.note, HandleState.livePlates, calls, reportedId]
  · refine before.otherLoop loops isResumer ?_ ?_
    · intro id isOwn
      rw [isFetching] at isOwn
      cases isOwn
      exact isResumer rfl
    · rw [noted]
      simp [ReportRecord.note, HandleState.livePlates, calls, reportedId, Ne.symm isResumer]

/-- Only plate handles report live plates. -/
theorem ivs_of_plateCallback {handle : PushHandle} {response : Stanza} {memory : Json}
    (acts : .plateCallback ∈ (handle.handleMessageData response memory).1) :
    handle.kind = .ivs := by
  cases kind : handle.kind with
  | ivs => rfl
  | serial =>
      simp only [PushHandle.handleMessageData, kind, PushHandle.serialHandleMessageData] at acts
      split at acts
      · simp at acts
      · split at acts
        · simp at acts
        · split at acts <;> simp at acts
  | changeConn =>
      simp only [PushHandle.handleMessageData, kind, PushHandle.changeConnHandleMessageData] at acts
      grind
  | resume =>
      simp only [PushHandle.handleMessageData, kind, PushHandle.resumeHandleMessageData] at acts
      grind

/-- What a dispatch reports is a live plate of the device. -/
theorem plate_of_reported {state : HandleState} {now : UInt32} {memory : Json} {uId id : Int}
    {act : PushHandle × HandleAction} {output : HandleOutput}
    (isCall : state.call now memory uId act = some output)
    (isReport : reportedId resumer output = some id) :
    act.2 = .plateCallback ∧ id = state.nextRecordId now memory uId ∧
      act.1.sessionId = resumer.sessionId := by
  unfold HandleState.call at isCall
  split at isCall
  · split at isCall
    · next isPlate =>
        cases isCall
        simp only [reportedId] at isReport
        split at isReport
        · next own => exact ⟨isPlate, (Option.some.inj isReport).symm, own⟩
        · cases isReport
    · split at isCall
      · cases isCall
        cases isReport
      · cases isCall
    · cases isCall
      cases isReport
    · cases isCall
  · cases isCall

/-- What a dispatch reports came live. -/
theorem reported_live {state : HandleState} {now : UInt32} {memory : Json} {uId id : Int}
    (reported : id ∈ (state.calls (.dispatch now memory uId)).filterMap (reportedId resumer)) :
    id ∈ state.livePlates resumer (.dispatch now memory uId) := by
  obtain ⟨output, called, isReport⟩ := List.mem_filterMap.mp reported
  obtain ⟨act, did, isCall⟩ := List.mem_filterMap.mp called
  unfold HandleState.nextActs at did
  simp only [HandleState.livePlates]
  cases payload : state.push.nextPayload now with
  | none =>
      rw [payload] at did
      cases did
  | some response =>
      rw [payload] at did
      obtain ⟨isOffered, did⟩ := PushManagerTask.mem_acts.mp did
      obtain ⟨callback, wants⟩ := HandleState.wants_of_call payload did isCall
      obtain ⟨isPlate, isId, ownSession⟩ := plate_of_reported isCall isReport
      rw [isPlate] at did
      have isIvs := ivs_of_plateCallback did
      refine List.mem_map.mpr ⟨act.1, List.mem_filter.mpr ⟨isOffered, ?_⟩, ?_⟩
      · simp [isIvs, ownSession, callback, wants]
      · simp [isId, HandleState.nextRecordId, payload]

/-- A live plate. -/
theorem dispatch (before : Reported resumer watched) {now : UInt32} {memory : Json} {uId : Int}
    (transition : watched.1.dispatch now memory uId = some (next.1, emitted))
    (apart : KeepsApart resumer watched (.dispatch now memory uId))
    (noted : next.2 = watched.2.note resumer watched.1 (.dispatch now memory uId) next.1) :
    Reported resumer next := by
  obtain ⟨idle, push, _, _, same, _⟩ := HandleState.dispatch_eq_some transition
  have sameMax : (next.1.objects resumer).maxRecordId =
      (watched.1.objects resumer).maxRecordId := by
    rw [same]
    rfl
  refine ⟨?_, ?_, ?_, ?_⟩
  · rw [same]
    exact HandleState.actedOn_unremembered before.unremembered now memory uId
  · intro id later upTo
    rw [sameMax] at upTo
    rw [noted] at later ⊢
    simp only [ReportRecord.note, List.count_append]
    have later : watched.2.subscribed < id := later
    have notLive : id ∉ (watched.1.calls (.dispatch now memory uId)).filterMap
        (reportedId resumer) := by
      intro reported
      rcases apart id (reported_live reported) with passed | beyond
      · omega
      · omega
    rw [before.processed id later upTo, List.count_eq_zero.mpr notLive]
  · intro _ id reported
    rw [sameMax]
    rw [noted] at reported ⊢
    simp only [ReportRecord.note, List.mem_append] at reported ⊢
    rcases reported with earlier | isNew
    · have outside : ∀ next, watched.1.phase ≠ some (.fetching resumer next) := by
        simp [idle]
      exact (before.known outside id earlier).imp_left .inl
    · exact .inl (.inr (reported_live isNew))
  · intro id isFetching
    -- a dispatch ends with the question for the greatest record id, or with nothing
    rw [same] at isFetching
    obtain ⟨act, _, isAsking⟩ := List.exists_of_findSome?_eq_some isFetching
    split at isAsking
    · cases isAsking
    · cases isAsking

/-- A subscription of the resume handle starts the count anew, from where it is set. -/
theorem restart (before : Reported resumer watched) {maxRecordId : Int}
    (isNext : next.1 = watched.1.setObject resumer
      { watched.1.objects resumer with maxRecordId := maxRecordId })
    (forward : watched.2.subscribed ≤ maxRecordId)
    (notPassed : (watched.1.objects resumer).maxRecordId ≤ maxRecordId)
    (noted : next.2 = { watched.2 with subscribed := maxRecordId }) : Reported resumer next := by
  have own := before.unremembered resumer
  have samePhase : next.1.phase = watched.1.phase := by
    rw [isNext]
    rfl
  have isObject : next.1.objects resumer =
      { watched.1.objects resumer with maxRecordId := maxRecordId } := by
    rw [isNext]
    exact if_pos rfl
  refine ⟨?_, ?_, ?_, ?_⟩
  · rw [isNext]
    exact HandleState.unremembered_setObject before.unremembered own.1 own.2
  · intro id later upTo
    rw [isObject] at upTo
    rw [noted] at later
    exact absurd upTo (Int.not_le.mpr later)
  · intro outside id reported
    rw [samePhase] at outside
    rw [noted] at reported ⊢
    rw [isObject]
    exact (before.known outside id reported).imp_right fun upTo => Int.le_trans upTo notPassed
  · intro fetched isFetching
    rw [samePhase] at isFetching
    have loop := before.fetching fetched isFetching
    refine ⟨?_, by rw [noted]; exact loop.known, by rw [isObject]; exact loop.within, ?_⟩
    · rw [noted]
      intro id later isEarlier
      have later : maxRecordId < id := later
      exact loop.before id (by omega) isEarlier
    · rw [noted, isObject]
      intro plate isLive
      exact (loop.apart plate isLive).imp_left fun passed => Int.le_trans passed forward

/-- A subscription, of this or of another resume handle. -/
theorem setStartMaxRecordId (before : Reported resumer watched) {handle : PushHandle}
    {maxRecordId : Int}
    (isNext : next.1 = watched.1.setObject handle
      { watched.1.objects handle with maxRecordId := maxRecordId })
    (apart : KeepsApart resumer watched (.setStartMaxRecordId handle maxRecordId))
    (noted : next.2 =
      watched.2.note resumer watched.1 (.setStartMaxRecordId handle maxRecordId) next.1) :
    Reported resumer next := by
  by_cases isResumer : handle = resumer
  · subst isResumer
    obtain ⟨forward, notPassed⟩ := apart rfl
    refine before.restart isNext forward notPassed ?_
    rw [noted]
    simp [ReportRecord.note, HandleState.calls, HandleState.livePlates]
  · have own := before.unremembered handle
    have isObject : next.1.objects resumer = watched.1.objects resumer := by
      rw [isNext]
      exact if_neg (Ne.symm isResumer)
    refine before.kept ?_ ?_ (by rw [isObject]) (by rw [isObject]) ?_
    · rw [isNext]
      exact HandleState.unremembered_setObject before.unremembered own.1 own.2
    · rw [noted]
      simp [ReportRecord.note, HandleState.calls, HandleState.livePlates, isResumer]
    · intro id
      rw [isNext]
      rfl

/-- Every step under the condition keeps the account. -/
theorem step (before : Reported resumer watched) (apart : KeepsApart resumer watched label)
    (transition : (reportMachine resumer).step watched label = some (next, emitted)) :
    Reported resumer next := by
  obtain ⟨stepped, noted⟩ := Machine.step_of_watch transition
  have silent (isSilent : watched.1.calls label = [])
      (noSubscription : ∀ handle maxRecordId, label ≠ .setStartMaxRecordId handle maxRecordId)
      (noDispatch : ∀ now memory uId, label ≠ .dispatch now memory uId) :
      next.2 = watched.2 := by
    rw [noted]
    cases label with
    | setStartMaxRecordId handle maxRecordId => exact absurd rfl (noSubscription handle maxRecordId)
    | dispatch now memory uId => exact absurd rfl (noDispatch now memory uId)
    | _ => simp [ReportRecord.note, HandleState.livePlates, isSilent]
  have pushStep {pushLabel : PushLabel}
      (transition : watched.1.pushStep pushLabel = some (next.1, emitted))
      (noted : next.2 = watched.2) : Reported resumer next := by
    obtain ⟨push, _, _, same, _⟩ := HandleState.pushStep_eq_some transition
    refine before.kept ?_ noted (by rw [same]) (by rw [same]) (fun id => by rw [same])
    rw [same]
    exact before.unremembered
  unfold handleMachine HandleState.step at stepped
  simp only at stepped
  split at stepped
  · cases stepped
  · cases label with
    | addPushHandle | removePushHandle | handleMessage =>
        exact pushStep stepped (silent rfl (by simp) (by simp))
    | setCallBack handle | disConnecting handle =>
        rw [Option.some.injEq, Prod.mk.injEq] at stepped
        have own := before.unremembered handle
        refine before.kept ?_ (silent rfl (by simp) (by simp)) ?_ ?_ fun id => ?_
        · rw [← stepped.1]
          exact HandleState.unremembered_setObject before.unremembered own.1 own.2
        · rw [← stepped.1]
          refine (objects_setObject ?_ ?_ resumer).1
          · rfl
          · rfl
        · rw [← stepped.1]
          refine (objects_setObject ?_ ?_ resumer).2
          · rfl
          · rfl
        · rw [← stepped.1]
          rfl
    | setStartMaxRecordId handle maxRecordId =>
        rw [Option.some.injEq, Prod.mk.injEq] at stepped
        exact before.setStartMaxRecordId stepped.1.symm apart noted
    | close =>
        rw [Option.some.injEq, Prod.mk.injEq] at stepped
        refine before.kept ?_ (silent rfl (by simp) (by simp)) ?_ ?_ fun id => ?_
        · rw [← stepped.1]
          exact before.unremembered
        · rw [← stepped.1]
        · rw [← stepped.1]
        · rw [← stepped.1]
    | dispatch now memory uId => exact before.dispatch stepped apart noted
    | drop now =>
        simp only at stepped
        split at stepped
        · exact pushStep stepped (silent rfl (by simp) (by simp))
        · cases stepped
    | resumeInfo info =>
        obtain ⟨final, isFinal, same⟩ := Option.map_eq_some_iff.mp stepped
        rw [Prod.mk.injEq] at same
        rw [same.1] at isFinal
        exact before.resumeInfo isFinal apart (silent rfl (by simp) (by simp))
    | getRecord uId => exact before.getRecord stepped apart noted

end Reported

/-- The record is kept in step with the outputs. -/
theorem reports_eq {resumer : PushHandle} {taskId : UInt32} {labels : List HandleLabel}
    {final : HandleState × ReportRecord} {outputs : List HandleOutput}
    (run : (reportMachine resumer).Run (.start taskId, .start) labels final outputs) :
    final.2.reports = outputs.filterMap (reportedId resumer) := by
  refine run.invariant (fun _ watched outputs =>
    watched.2.reports = outputs.filterMap (reportedId resumer)) rfl ?_
  intro labels watched outputs label next emitted recorded _ transition
  obtain ⟨stepped, noted⟩ := Machine.step_of_watch transition
  have emits := (HandleState.outputs_step stepped).1
  have noReport : ((HandleState.closes label).map .closed).filterMap (reportedId resumer) = [] := by
    rw [List.filterMap_map]
    exact List.filterMap_eq_nil_iff.mpr fun _ _ => rfl
  rw [noted, emits, List.filterMap_append, List.filterMap_append, noReport, ← recorded]
  rfl

/-- In every run whose steps keep live and resumed plates apart, every record after the
subscription and up to the last one that the resume handle has processed was reported to the
user exactly once. -/
theorem records_reported_once {resumer : PushHandle} {taskId : UInt32} {labels : List HandleLabel}
    {final : HandleState × ReportRecord} {outputs : List HandleOutput}
    (run : (reportMachine resumer).RunWhere (KeepsApart resumer) (.start taskId, .start) labels
      final outputs) :
    ∀ id, final.2.subscribed < id → id ≤ (final.1.objects resumer).maxRecordId →
      (outputs.filterMap (reportedId resumer)).count id = 1 := by
  have reported : Reported resumer final :=
    run.invariant (fun _ watched _ => Reported resumer watched)
      ⟨fun _ => ⟨rfl, rfl⟩, fun id later upTo => absurd upTo (Int.not_le.mpr later),
        fun _ => List.forall_mem_nil _, fun _ isFetching => by cases isFetching⟩
      (fun before apart transition => before.step apart transition)
  rw [← reports_eq run.run]
  exact reported.processed

/-- A plate with the record id 8. -/
def plateEight : Stanza :=
  .responseData 2 (.object [("cmd", .string "ivs_result"), ("id", .int 8)]) [] none

/-- Both callbacks of session 2 are registered; the greatest record id is 6. -/
def bothSubscribed : List HandleLabel := platesSubscribed ++ resumeSubscribed

/-- A resume event is dispatched, and record 7 is the greatest of the device. -/
def resumeSeven : List HandleLabel :=
  [.handleMessage 2 (.plain .resumeTask 2), .dispatch 20 .null 0,
    .resumeInfo (some (true, 7)), .getRecord 7]

instance (resumer : PushHandle) (watched : HandleState × ReportRecord) (label : HandleLabel) :
    Decidable (KeepsApart resumer watched label) :=
  match label with
  | .setStartMaxRecordId handle maxRecordId => inferInstanceAs (Decidable (handle = resumer →
      watched.2.subscribed ≤ maxRecordId ∧ (watched.1.objects resumer).maxRecordId ≤ maxRecordId))
  | .dispatch now memory uId => inferInstanceAs (Decidable (
      ∀ plate ∈ watched.1.livePlates resumer (.dispatch now memory uId),
        plate ≤ watched.2.subscribed ∨ (watched.1.objects resumer).maxRecordId < plate))
  | .resumeInfo info => inferInstanceAs (Decidable (watched.1.phase = some (.asking resumer) →
      (HandleState.slotRecvGetResumeInfo (watched.1.objects resumer) info).callback = true →
      (HandleState.slotRecvGetResumeInfo (watched.1.objects resumer) info).enableGetrecord = true →
      ∀ plate ∈ watched.2.live, plate ≤ watched.2.subscribed ∨
        (HandleState.slotRecvGetResumeInfo (watched.1.objects resumer) info).curMaxRecordId < plate))
  | .getRecord uId =>
      match isPhase : watched.1.phase with
      | some (.fetching handle id) =>
          decidable_of_iff (handle = resumer → uId = id) (by
            simp only [KeepsApart, isPhase, Option.some.injEq, ResumePhase.fetching.injEq]
            exact ⟨fun same other both => both.2 ▸ same both.1, fun same own => same id ⟨own, rfl⟩⟩)
      | none => .isTrue fun id isFetching => by rw [isPhase] at isFetching; cases isFetching
      | some (.asking handle) =>
          .isTrue fun id isFetching => by rw [isPhase] at isFetching; cases isFetching
  | .addPushHandle _ | .removePushHandle _ | .handleMessage _ _ | .setCallBack _ _
  | .disConnecting _ | .close _ | .drop _ => .isTrue trivial

/-- Record 7 is missed and fetched, record 8 is reported live. -/
theorem records_reported_once_missed :
    ∃ labels final outputs, (reportMachine resumeHandle).RunWhere (KeepsApart resumeHandle)
        (.start 2, .start) labels final outputs ∧
      outputs = [.called resumeHandle (.resumedPlate 7), .called plateHandle (.plate 8)] ∧
      final.2.subscribed = 6 ∧ (final.1.objects resumeHandle).maxRecordId = 7 ∧
      ∀ id, final.2.subscribed < id → id ≤ (final.1.objects resumeHandle).maxRecordId →
        (outputs.filterMap (reportedId resumeHandle)).count id = 1 := by
  let labels := bothSubscribed ++ resumeSeven ++ [.handleMessage 0 plateEight, .dispatch 30 .null 0]
  have permitted : (reportMachine resumeHandle).permits
      (fun watched label => decide (KeepsApart resumeHandle watched label)) (.start 2, .start)
      labels = true := by decide +kernel
  have checked : ((reportMachine resumeHandle).exec (.start 2, .start) labels).any (fun result =>
      result.2 = [.called resumeHandle (.resumedPlate 7), .called plateHandle (.plate 8)] &&
        result.1.2.subscribed = 6 && (result.1.1.objects resumeHandle).maxRecordId = 7) = true := by
    decide +kernel
  obtain ⟨final, outputs, run, isFinal⟩ := Machine.exists_runWhere_of_exec
    (fun _ _ => of_decide_eq_true) permitted checked
  simp only [Bool.and_eq_true, decide_eq_true_eq] at isFinal
  exact ⟨_, final, outputs, run, isFinal.1.1, isFinal.1.2, isFinal.2, records_reported_once run⟩

/-- Record 7 is reported live, and again when the resume handle comes to it. -/
theorem record_reported_twice :
    ∃ labels final outputs, (reportMachine resumeHandle).Run (.start 2, .start) labels final outputs ∧
      ¬∀ id, final.2.subscribed < id → id ≤ (final.1.objects resumeHandle).maxRecordId →
        (outputs.filterMap (reportedId resumeHandle)).count id = 1 := by
  have checked : ((reportMachine resumeHandle).exec (.start 2, .start) (bothSubscribed ++
      [.handleMessage 0 plateSeven, .dispatch 10 .null 0] ++ resumeSeven)).any (fun result =>
      result.2 = [.called plateHandle (.plate 7), .called resumeHandle (.resumedPlate 7)] &&
        result.1.2.subscribed = 6 && (result.1.1.objects resumeHandle).maxRecordId = 7) = true := by
    decide +kernel
  obtain ⟨final, outputs, run, isFinal⟩ := Machine.exists_run_of_exec checked
  simp only [Bool.and_eq_true, decide_eq_true_eq] at isFinal
  obtain ⟨⟨isOutputs, subscribed⟩, processed⟩ := isFinal
  refine ⟨_, final, outputs, run, fun once => ?_⟩
  have twice := once 7 (by rw [subscribed]; decide) (Int.le_of_eq processed.symm)
  rw [isOutputs] at twice
  revert twice
  decide

end VzSdk.Sdk
