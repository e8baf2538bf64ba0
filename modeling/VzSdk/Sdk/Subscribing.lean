import VzSdk.Sdk.Fetching

/-!
# Subscribing to missed records

`ResumeRecord` takes what `GetMaxRecordID` returns as the record after which the
handle starts, and the code of a failed query and an answer without a `max_id`
come back in the same `int`. `subscribeMachine` is the push thread with these
queries; it remembers the greatest record id that the device had when a handle
was subscribed. `resume_starts_after_subscription` says in which runs every
record that is requested is a later one.
-/

namespace VzSdk.Sdk

open VzSdk.Base VzSdk.Event VzSdk.Std

/-- The `max_id` of an answer, if it has one. -/
def Json.maxId? (reals : Json.Reals) (root : Json) : Option UInt32 :=
  match root.member "max_id" with
  | none => none
  | some maxId => if maxId.isNull then none else maxId.asUInt reals

/-- `GetMaxRecordID`. Without a `max_id` in the answer it returns what `max_rec` holds. -/
def getMaxRecordID (reals : Json.Reals) (memory : UInt32) : Option Json → Except Fault Int
  | none => .ok reqFailed
  | some root => do
      let maxRec ← parsed (parseMaxRecResponse reals root ⟨memory⟩)
      return maxRec.maxId.toInt32.toInt

/-- What happens to the resumption of records after a subscription. -/
inductive SubscribeLabel where
  /-- `ResumeRecord`, when the greatest record id on the device is `deviceMax`. -/
  | resumeRecord (handle : PushHandle) (deviceMax : UInt32) (answer : Option Json)
      (memory : UInt32)
  /-- `SlotRecvGetResumeInfo`. -/
  | slotRecvGetResumeInfo (callback : Bool) (answer : Option Json) (memory : UInt32)
  | other (label : HandleLabel)

/-- The steps of the push thread that ask the device nothing about its records. -/
def HandleLabel.asksNothing : HandleLabel → Bool
  | .addPushHandle handle => handle.kind ≠ .resume
  | .setStartMaxRecordId _ _ => false
  | .resumeInfo info => info.isNone
  | _ => true

/-- The handles, with what the device had at each subscription. -/
structure SubscribeState where
  handles : HandleState
  /-- For the proofs only: the greatest record id on the device at the subscription. -/
  deviceMax : PushHandle → Option UInt32

namespace SubscribeState

/-- Nothing is subscribed to at the start. -/
def start (taskId : UInt32) : SubscribeState := ⟨.start taskId, fun _ => none⟩

variable (reals : Json.Reals)

/-- `ResumeRecord`. A `max_id` that is sent is the greatest record id. -/
def resumeRecord (state : SubscribeState) (handle : PushHandle) (deviceMax : UInt32)
    (answer : Option Json) (memory : UInt32) : Option (SubscribeState × List HandleOutput) :=
  if handle.kind = .resume ∧ ((answer.bind (Json.maxId? reals)).getD deviceMax = deviceMax) then
    match getMaxRecordID reals memory answer with
    | .error _ => none
    | .ok maxRecId => do
        let (handles, _) ← state.handles.step (.addPushHandle handle)
        let (handles, _) ← handles.step (.setStartMaxRecordId handle maxRecId)
        return (⟨handles, fun other =>
          if other = handle then some deviceMax else state.deviceMax other⟩, [])
  else none

/-- What happens in a step. -/
def step (state : SubscribeState) : SubscribeLabel → Option (SubscribeState × List HandleOutput)
  | .resumeRecord handle deviceMax answer memory =>
      state.resumeRecord reals handle deviceMax answer memory
  | .slotRecvGetResumeInfo callback answer memory =>
      match getMaxRecordID reals memory answer with
      | .error _ => none
      | .ok curMaxId =>
          (state.handles.step (.resumeInfo (some (callback, curMaxId)))).map fun result =>
            ({ state with handles := result.1 }, result.2)
  | .other label =>
      if label.asksNothing then
        (state.handles.step label).map fun result =>
          ({ state with handles := result.1 }, result.2)
      else none

end SubscribeState

/-- The machine of the handles with the answers of the devices. -/
def subscribeMachine (reals : Json.Reals) : Machine SubscribeState SubscribeLabel HandleOutput :=
  ⟨SubscribeState.step reals⟩

namespace SubscribeState

/-- Every record that is requested is one that the device did not have at the subscription,
and no `int` of the loop overflows. -/
structure Sound (state : SubscribeState) : Prop where
  later : ∀ handle id, state.handles.phase = some (.fetching handle id) →
    0 < id ∧ ∀ greatest, state.deviceMax handle = some greatest → (greatest.toNat : Int) < id
  inRange : ∀ handle, (state.handles.objects handle).maxRecordId < intMax ∧
    ∀ id, state.handles.phase = some (.fetching handle id) → id < intMax

/-- A subscription gets the greatest record id, which is an `int` with a successor, and it
does not come into the loop of its own handle. No later query returns the greatest `int`. -/
def Answered (reals : Json.Reals) (state : SubscribeState) : SubscribeLabel → Prop
  | .resumeRecord handle deviceMax answer _ =>
      (answer.bind (Json.maxId? reals)).isSome ∧ (deviceMax.toNat : Int) < intMax ∧
        ∀ id, state.handles.phase ≠ some (.fetching handle id)
  | .slotRecvGetResumeInfo _ answer memory =>
      ∀ root, answer = some root → (((root.maxId? reals).getD memory).toNat : Int) ≠ intMax
  | .other _ => True

end SubscribeState

/-! ## What `GetMaxRecordID` returns -/

section

variable {reals : Json.Reals} {memory : UInt32} {root : Json} {id : Int}

/-- What is returned is the number in the answer, or what was in the memory. -/
theorem getMaxRecordID_answer (returned : getMaxRecordID reals memory (some root) = .ok id) :
    id = ((root.maxId? reals).getD memory).toInt32.toInt := by
  obtain ⟨maxRec, read, rfl⟩ : ∃ maxRec, parseMaxRecResponse reals root ⟨memory⟩ = some maxRec ∧
      maxRec.maxId.toInt32.toInt = id := by
    simp only [getMaxRecordID, parsed] at returned
    split at returned
    · cases returned
      exact ⟨_, by assumption, rfl⟩
    · cases returned
  unfold parseMaxRecResponse at read
  obtain ⟨member, isMember, read⟩ := Option.bind_eq_some_iff.mp read
  obtain ⟨maxId, isMaxId, same⟩ := Option.bind_eq_some_iff.mp read
  cases same
  rw [Json.unlessNull_asUInt] at isMaxId
  simp only [Json.maxId?, isMember]
  split at isMaxId
  · cases isMaxId
    rfl
  · cases isMaxId

/-- A number that is small enough stays itself as a signed one. -/
theorem toInt_toInt32 {value : UInt32} (small : (value.toNat : Int) ≤ intMax) :
    value.toInt32.toInt = value.toNat := by
  unfold intMax at small
  change value.toBitVec.toInt = _
  rw [BitVec.toInt_eq_toNat_of_lt (by simp only [UInt32.toNat_toBitVec]; omega)]
  simp

/-- A signed number is less than the greatest one when it is not that one. -/
theorem toInt_toInt32_lt {value : UInt32} (notGreatest : (value.toNat : Int) ≠ intMax) :
    value.toInt32.toInt < intMax := by
  unfold intMax at notGreatest ⊢
  change value.toBitVec.toInt < _
  have bound := value.toNat_lt
  rw [BitVec.toInt_eq_toNat_cond]
  simp only [UInt32.toNat_toBitVec]
  split <;> omega

end

/-! ## The loop -/

/-- From `id` on the loop goes up, and not beyond the greatest record id. -/
theorem HandleObject.nextFetch_spec (rounds : Nat) {object : HandleObject} {id : Int}
    (after : object.maxRecordId < id) :
    (object.nextFetch id rounds).1.curMaxRecordId = object.curMaxRecordId ∧
    object.maxRecordId ≤ (object.nextFetch id rounds).1.maxRecordId ∧
    ((object.nextFetch id rounds).1.maxRecordId = object.maxRecordId ∨
      (object.nextFetch id rounds).1.maxRecordId ≤ object.curMaxRecordId) ∧
    ∀ next, (object.nextFetch id rounds).2 = some next →
      (object.nextFetch id rounds).1.maxRecordId < next ∧ next ≤ object.curMaxRecordId := by
  induction rounds generalizing object id with
  | zero => exact ⟨rfl, Int.le_refl _, .inl rfl, fun _ fetches => by cases fetches⟩
  | succ rounds inductionHypothesis =>
      rw [nextFetch]
      split
      · next inside =>
          split
          · obtain ⟨sameMax, grown, bounded, fetches⟩ := @inductionHypothesis
              { object with
                maxRecordId := id
                recvRecordIdSet := object.recvRecordIdSet.filter (· ≠ id) } (id + 1)
              (by simp only; omega)
            simp only at sameMax grown bounded fetches
            exact ⟨sameMax, by omega, by omega, fetches⟩
          · refine ⟨rfl, Int.le_refl _, .inl rfl, ?_⟩
            rintro next ⟨⟩
            exact ⟨after, inside⟩
      · exact ⟨rfl, Int.le_refl _, .inl rfl, fun _ fetches => by cases fetches⟩

namespace HandleState

variable {state next : HandleState} {emitted : List HandleOutput}

/-- A step that asks for what is to be resumed does so. -/
theorem resumeInfo_of_step {info : Option (Bool × Int)}
    (transition : state.step (.resumeInfo info) = some (next, emitted)) :
    state.resumeInfo info = some next := by
  unfold step at transition
  split at transition
  · cases transition
  · obtain ⟨_, isNext, same⟩ := Option.map_eq_some_iff.mp transition
    cases same
    exact isNext

/-- Registering a handle leaves the objects as they are. -/
theorem objects_of_addPushHandle {handle : PushHandle}
    (transition : state.step (.addPushHandle handle) = some (next, emitted)) :
    next.objects = state.objects ∧ next.phase = state.phase := by
  unfold step at transition
  split at transition
  · cases transition
  · obtain ⟨_, _, _, rfl, _⟩ := pushStep_eq_some transition
    exact ⟨rfl, rfl⟩

/-- The record to start with is set in the handle's object. -/
theorem eq_of_setStartMaxRecordId {handle : PushHandle} {maxRecordId : Int}
    (transition : state.step (.setStartMaxRecordId handle maxRecordId) = some (next, emitted)) :
    next = state.setObject handle { state.objects handle with maxRecordId := maxRecordId } := by
  unfold step at transition
  split at transition
  · cases transition
  · cases transition
    rfl

end HandleState

namespace SubscribeState

/-- The cursor of every handle is at or after the greatest record of its subscription. -/
structure Inv (state : SubscribeState) : Prop where
  cursor : ∀ handle, 0 ≤ (state.handles.objects handle).maxRecordId ∧
    (state.handles.objects handle).maxRecordId < intMax ∧
    (state.handles.objects handle).curMaxRecordId < intMax ∧
    ∀ greatest, state.deviceMax handle = some greatest →
      (greatest.toNat : Int) ≤ (state.handles.objects handle).maxRecordId
  fetching : ∀ handle id, state.handles.phase = some (.fetching handle id) →
    (state.handles.objects handle).maxRecordId < id ∧
    id ≤ (state.handles.objects handle).curMaxRecordId

/-- The invariant says that the resumption is sound. -/
theorem Inv.sound {state : SubscribeState} (inv : state.Inv) : state.Sound where
  later handle id fetching := by
    obtain ⟨nonneg, _, _, atLeast⟩ := inv.cursor handle
    obtain ⟨after, _⟩ := inv.fetching handle id fetching
    refine ⟨by omega, fun greatest isGreatest => ?_⟩
    have := atLeast greatest isGreatest
    omega
  inRange handle := by
    obtain ⟨_, small, curSmall, _⟩ := inv.cursor handle
    refine ⟨small, fun id fetching => ?_⟩
    obtain ⟨_, bounded⟩ := inv.fetching handle id fetching
    omega

/-- Objects and a phase that agree with earlier ones on what the loop reads. -/
theorem Inv.of_same {state : SubscribeState} {handles : HandleState} (inv : state.Inv)
    (sameMax : ∀ handle, (handles.objects handle).maxRecordId =
      (state.handles.objects handle).maxRecordId)
    (sameCurMax : ∀ handle, (handles.objects handle).curMaxRecordId =
      (state.handles.objects handle).curMaxRecordId)
    (phase : ∀ handle id, handles.phase = some (.fetching handle id) →
      state.handles.phase = some (.fetching handle id)) :
    Inv { state with handles := handles } where
  cursor handle := by
    simp only [sameMax, sameCurMax]
    exact inv.cursor handle
  fetching handle id fetching := by
    simp only [sameMax, sameCurMax]
    exact inv.fetching handle id (phase handle id fetching)

/-- Going on in the loop of one handle. -/
theorem Inv.advance {state : SubscribeState} (inv : state.Inv) {handle : PushHandle}
    {object : HandleObject} {id : Int} (after : object.maxRecordId < id)
    (small : object.maxRecordId < intMax) (curSmall : object.curMaxRecordId < intMax)
    (kept : (state.handles.objects handle).maxRecordId ≤ object.maxRecordId) :
    Inv { state with handles := state.handles.advance handle object id } := by
  obtain ⟨sameMax, grown, bounded, fetches⟩ :=
    HandleObject.nextFetch_spec (object.curMaxRecordId + 1 - id).toNat after
  constructor
  · intro other
    simp only [HandleState.advance, HandleState.setObject]
    by_cases same : other = handle
    · subst same
      obtain ⟨nonneg, _, _, atLeast⟩ := inv.cursor other
      rw [if_pos rfl, sameMax]
      refine ⟨by omega, by omega, curSmall, fun greatest isGreatest => ?_⟩
      have := atLeast greatest isGreatest
      omega
    · rw [if_neg same]
      exact inv.cursor other
  · intro other next fetching
    simp only [HandleState.advance, HandleState.setObject] at fetching ⊢
    obtain ⟨_, isNext, same⟩ := Option.map_eq_some_iff.mp fetching
    cases same
    rw [if_pos rfl, sameMax]
    exact fetches _ isNext

/-- A tick starts the loop after the cursor. -/
theorem Inv.resumeInfo {state : SubscribeState} {info : Option (Bool × Int)}
    {handles : HandleState} (inv : state.Inv)
    (small : ∀ callback curMaxRecordId, info = some (callback, curMaxRecordId) →
      curMaxRecordId < intMax)
    (transition : state.handles.resumeInfo info = some handles) :
    Inv { state with handles := handles } := by
  unfold HandleState.resumeInfo at transition
  split at transition
  · next handle _ =>
      obtain ⟨nonneg, below, curBelow, atLeast⟩ := inv.cursor handle
      have sameMax : (HandleState.slotRecvGetResumeInfo (state.handles.objects handle)
          info).maxRecordId = (state.handles.objects handle).maxRecordId := by
        cases info <;> rfl
      have curSmall : (HandleState.slotRecvGetResumeInfo (state.handles.objects handle)
          info).curMaxRecordId < intMax := by
        cases info with
        | none => exact curBelow
        | some info => exact small info.1 info.2 rfl
      simp only at transition
      split at transition
      · cases transition
        exact inv.advance (by omega) (by omega) curSmall (by omega)
      · cases transition
        constructor
        · intro other
          by_cases same : other = handle
          · subst same
            simp only [HandleState.setObject, if_true, sameMax]
            exact ⟨nonneg, below, curSmall, atLeast⟩
          · simp only [HandleState.setObject, same, if_false]
            exact inv.cursor other
        · rintro _ _ ⟨⟩
  · cases transition

/-- A step that asks for nothing keeps the invariant. -/
theorem Inv.other {state : SubscribeState} {label : HandleLabel} {handles : HandleState}
    {emitted : List HandleOutput} (inv : state.Inv) (nothing : label.asksNothing = true)
    (transition : state.handles.step label = some (handles, emitted)) :
    Inv { state with handles := handles } := by
  unfold HandleState.step at transition
  split at transition
  · cases transition
  · cases label with
    | addPushHandle | removePushHandle | handleMessage =>
        obtain ⟨_, _, _, rfl, _⟩ := HandleState.pushStep_eq_some transition
        exact inv.of_same (fun _ => rfl) (fun _ => rfl) fun _ _ => id
    | setStartMaxRecordId => cases nothing
    | setCallBack handle | disConnecting handle =>
        cases transition
        refine inv.of_same (fun other => ?_) (fun other => ?_) fun _ _ => id <;>
          · by_cases same : other = handle <;> simp [HandleState.setObject, same]
    | close =>
        cases transition
        exact inv.of_same (fun _ => rfl) (fun _ => rfl) fun _ _ => id
    | dispatch now memory uId =>
        obtain ⟨_, _, _, _, rfl, _⟩ := HandleState.dispatch_eq_some transition
        refine inv.of_same (fun _ => rfl) (fun _ => rfl) fun handle id fetching => ?_
        obtain ⟨act, _, asking⟩ := List.exists_of_findSome?_eq_some fetching
        split at asking <;> cases asking
    | drop now =>
        simp only at transition
        split at transition
        · obtain ⟨_, _, _, rfl, _⟩ := HandleState.pushStep_eq_some transition
          exact inv.of_same (fun _ => rfl) (fun _ => rfl) fun _ _ => id
        · cases transition
    | resumeInfo info =>
        obtain ⟨_, isNext, same⟩ := Option.map_eq_some_iff.mp transition
        cases same
        refine inv.resumeInfo (fun callback curMaxRecordId isInfo => ?_) isNext
        subst isInfo
        cases nothing
    | getRecord uId =>
        simp only [HandleState.getRecord] at transition
        split at transition
        · next handle id fetching =>
            cases transition
            obtain ⟨after, bounded⟩ := inv.fetching handle id fetching
            obtain ⟨_, _, curSmall, _⟩ := inv.cursor handle
            exact inv.advance (by simp only; omega) (by simp only; omega) curSmall
              (by simp only; omega)
        · cases transition

/-- A subscription puts the cursor at the greatest record. -/
theorem Inv.subscribe {state : SubscribeState} (inv : state.Inv) {handles : HandleState}
    {handle : PushHandle} {deviceMax : UInt32} {maxRecId : Int}
    (sameObjects : handles.objects = state.handles.objects)
    (samePhase : handles.phase = state.handles.phase) (isStart : maxRecId = deviceMax.toNat)
    (small : (deviceMax.toNat : Int) < intMax)
    (idle : ∀ id, state.handles.phase ≠ some (.fetching handle id)) :
    Inv ⟨handles.setObject handle { handles.objects handle with maxRecordId := maxRecId },
      fun other => if other = handle then some deviceMax else state.deviceMax other⟩ := by
  constructor
  · intro other
    simp only [HandleState.setObject, sameObjects]
    by_cases same : other = handle
    · subst same
      rw [if_pos rfl, if_pos rfl]
      refine ⟨by simp only; omega, by simp only; omega, (inv.cursor other).2.2.1, ?_⟩
      rintro _ ⟨⟩
      simp only
      omega
    · rw [if_neg same, if_neg same]
      exact inv.cursor other
  · intro other id fetching
    have before : state.handles.phase = some (.fetching other id) := by
      rw [← samePhase]
      exact fetching
    have same : other ≠ handle := by
      rintro rfl
      exact idle id before
    simp only [HandleState.setObject, sameObjects, if_neg same]
    exact inv.fetching other id before

/-- A subscription keeps the invariant when the device answers it. -/
theorem Inv.resumeRecord {reals : Json.Reals} {state next : SubscribeState} {handle : PushHandle}
    {deviceMax memory : UInt32} {answer : Option Json} {emitted : List HandleOutput}
    (inv : state.Inv)
    (answered : state.Answered reals (.resumeRecord handle deviceMax answer memory))
    (transition : state.resumeRecord reals handle deviceMax answer memory =
      some (next, emitted)) : next.Inv := by
  obtain ⟨hasMax, small, idle⟩ := answered
  obtain ⟨maxId, isMax⟩ := Option.isSome_iff_exists.mp hasMax
  obtain ⟨root, isRoot, isMaxId⟩ := Option.bind_eq_some_iff.mp isMax
  subst isRoot
  unfold SubscribeState.resumeRecord at transition
  split at transition
  · next honest =>
      obtain rfl : maxId = deviceMax := by simpa [isMax] using honest.2
      split at transition
      · cases transition
      · next maxRecId returned =>
          obtain ⟨⟨added, _⟩, adds, rest⟩ := Option.bind_eq_some_iff.mp transition
          obtain ⟨⟨moved, _⟩, moves, same⟩ := Option.bind_eq_some_iff.mp rest
          cases same
          have isStart : maxRecId = maxId.toNat := by
            rw [getMaxRecordID_answer returned, isMaxId, Option.getD_some]
            exact toInt_toInt32 (by omega)
          obtain ⟨sameObjects, samePhase⟩ := HandleState.objects_of_addPushHandle adds
          obtain rfl := HandleState.eq_of_setStartMaxRecordId moves
          exact inv.subscribe sameObjects samePhase isStart small idle
  · cases transition

/-- The invariant holds at the start. -/
theorem Inv.start (taskId : UInt32) : (SubscribeState.start taskId).Inv where
  cursor handle := by simp [SubscribeState.start, HandleState.start, HandleObject.new, intMax]
  fetching handle id fetching := by cases fetching

/-- An answered step keeps the cursors. -/
theorem Inv.step {reals : Json.Reals} {state next : SubscribeState} {label : SubscribeLabel}
    {emitted : List HandleOutput} (inv : state.Inv) (answered : state.Answered reals label)
    (transition : state.step reals label = some (next, emitted)) : next.Inv := by
  cases label with
  | resumeRecord => exact inv.resumeRecord answered transition
  | slotRecvGetResumeInfo callback answer memory =>
      simp only [SubscribeState.step] at transition
      split at transition
      · cases transition
      · next curMaxId returned =>
          obtain ⟨⟨handles, _⟩, stepped, same⟩ := Option.map_eq_some_iff.mp transition
          cases same
          refine inv.resumeInfo (fun _ curMaxRecordId isInfo => ?_)
            (HandleState.resumeInfo_of_step stepped)
          cases isInfo
          cases answer with
          | none =>
              cases returned
              decide
          | some root =>
              rw [getMaxRecordID_answer returned]
              exact toInt_toInt32_lt (answered root rfl)
  | other label =>
      simp only [SubscribeState.step] at transition
      split at transition
      · next nothing =>
          obtain ⟨⟨handles, _⟩, stepped, same⟩ := Option.map_eq_some_iff.mp transition
          cases same
          exact inv.other nothing stepped
      · cases transition

end SubscribeState

/-- In a run whose subscriptions all get the greatest record id, no record is ever requested
that the device had before. -/
theorem resume_starts_after_subscription (reals : Json.Reals) {taskId : UInt32}
    {labels : List SubscribeLabel} {final : SubscribeState} {outputs : List HandleOutput}
    (run : (subscribeMachine reals).RunWhere (SubscribeState.Answered reals) (.start taskId)
      labels final outputs) : final.Sound := by
  have inv : final.Inv := run.invariant (fun _ state _ => state.Inv) (.start taskId)
    fun inv answered transition => inv.step answered transition
  exact inv.sound

/-- The resume handle of session 2. -/
def subscribedHandle : PushHandle := ⟨1, .resume, "resume_rec", 2⟩

/-- The answer to a query when the greatest record id is `maxId`. -/
def maxRecAnswer (maxId : Nat) : Json := .object [("max_id", .uint maxId)]

/-- A subscription, its first tick and the answer to the query of the tick. -/
def resumed (deviceMax : UInt32) (subscribed ticked : Option Json) : List SubscribeLabel :=
  [.resumeRecord subscribedHandle deviceMax subscribed 0,
    .other (.handleMessage 2 (.plain .resumeTask 2)), .other (.dispatch 10 .null 0),
    .slotRecvGetResumeInfo true ticked 0]

/-- A check of `Answered`. -/
def SubscribeState.answers (reals : Json.Reals) (state : SubscribeState) : SubscribeLabel → Bool
  | .resumeRecord handle deviceMax answer _ =>
      (answer.bind (Json.maxId? reals)).isSome && (deviceMax.toNat : Int) < intMax &&
        match state.handles.phase with
        | some (.fetching other _) => other ≠ handle
        | _ => true
  | .slotRecvGetResumeInfo _ answer memory =>
      answer.all fun root => (((root.maxId? reals).getD memory).toNat : Int) ≠ intMax
  | .other _ => true

/-- The check finds the step answered. -/
theorem SubscribeState.answered_of_answers {reals : Json.Reals} {state : SubscribeState}
    {label : SubscribeLabel} (answers : state.answers reals label = true) :
    state.Answered reals label := by
  cases label with
  | resumeRecord handle deviceMax answer memory =>
      simp only [SubscribeState.answers, Bool.and_eq_true, decide_eq_true_eq] at answers
      obtain ⟨⟨hasMax, small⟩, idle⟩ := answers
      refine ⟨hasMax, small, fun id fetching => ?_⟩
      simp [fetching] at idle
  | slotRecvGetResumeInfo callback answer memory =>
      rintro root rfl
      simpa [SubscribeState.answers] using answers
  | other label => trivial

/-- The device has two records at the subscription and four at the tick. -/
theorem resume_starts_after_second :
    ∃ labels final outputs, (subscribeMachine ⟨fun _ => none, fun _ => none⟩).RunWhere
        (SubscribeState.Answered ⟨fun _ => none, fun _ => none⟩) (.start 2) labels final outputs ∧
      final.handles.phase = some (.fetching subscribedHandle 3) ∧ final.Sound := by
  have permitted : (subscribeMachine ⟨fun _ => none, fun _ => none⟩).permits
      (SubscribeState.answers ⟨fun _ => none, fun _ => none⟩) (.start 2)
      (resumed 2 (some (maxRecAnswer 2)) (some (maxRecAnswer 4))) = true := by decide +kernel
  have checked : ((subscribeMachine ⟨fun _ => none, fun _ => none⟩).exec (.start 2)
      (resumed 2 (some (maxRecAnswer 2)) (some (maxRecAnswer 4)))).any (fun result =>
      result.1.handles.phase = some (.fetching subscribedHandle 3)) = true := by decide +kernel
  obtain ⟨final, outputs, run, fetching⟩ := Machine.exists_runWhere_of_exec
    (fun _ _ => SubscribeState.answered_of_answers) permitted checked
  exact ⟨_, final, outputs, run, by simpa using fetching, resume_starts_after_subscription _ run⟩

/-- The query of the subscription fails, and the next tick requests a record from the code of
the failure on. -/
theorem error_code_requested :
    ∃ labels final outputs, (subscribeMachine ⟨fun _ => none, fun _ => none⟩).Run (.start 2)
        labels final outputs ∧
      final.handles.phase = some (.fetching subscribedHandle (reqFailed + 1)) ∧ ¬final.Sound := by
  have checked : ((subscribeMachine ⟨fun _ => none, fun _ => none⟩).exec (.start 2)
      (resumed 5 none (some (maxRecAnswer 5)))).any (fun result =>
      result.1.handles.phase = some (.fetching subscribedHandle (reqFailed + 1))) = true := by
    decide +kernel
  obtain ⟨final, outputs, run, fetching⟩ := Machine.exists_run_of_exec checked
  have fetching : final.handles.phase = some (.fetching subscribedHandle (reqFailed + 1)) := by
    simpa using fetching
  refine ⟨_, final, outputs, run, fetching, fun sound => ?_⟩
  exact absurd (sound.later _ _ fetching).1 (by decide)

end VzSdk.Sdk
