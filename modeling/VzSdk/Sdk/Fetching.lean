import VzSdk.Sdk.Handles
import VzSdk.Sdk.Responses

/-!
# Fetching missed records

`ResumePushHandle::HandleResponse` as one call: it asks for the greatest record
id and fetches the records up to it one by one, passing over those that came
live. Nothing looks at what `GetRecord` returns. `failed_fetch_retried_iff` says
for which outcomes of the fetches no failure is reported or passed over.
-/

namespace VzSdk.Sdk

open VzSdk.Base VzSdk.Event VzSdk.Std

/-- The greatest `int`. -/
def intMax : Int := 2 ^ 31 - 1

/-- What `HandleResponse` does in its loop. -/
inductive FetchEvent where
  /-- `GetRecord(id)` returned `code`. -/
  | fetched (id code : Int)
  /-- The callback is called with what there is of the record `id`. -/
  | reported (id : Int)
deriving DecidableEq, Repr

/-- The record that is reported. -/
def FetchEvent.reportedId : FetchEvent → Option Int
  | .reported id => some id
  | .fetched _ _ => none

namespace HandleObject

/-- The loop of `HandleResponse` from `id` on; nothing when `++id` overflows. -/
def fetchFrom (getRecord : Int → Int) (object : HandleObject) (id : Int) :
    Nat → Option (HandleObject × List FetchEvent)
  | 0 => some (object, [])
  | rounds + 1 =>
      if id ≤ object.curMaxRecordId then
        if id ∈ object.recvRecordIdSet then
          if id = intMax then none
          else
            fetchFrom getRecord
              { object with
                maxRecordId := id
                recvRecordIdSet := object.recvRecordIdSet.filter (· ≠ id) } (id + 1) rounds
        else if id = intMax then none
        else
          (fetchFrom getRecord { object with maxRecordId := id } (id + 1) rounds).map fun result =>
            (result.1, .fetched id (getRecord id) :: .reported id :: result.2)
      else some (object, [])

/-- `HandleResponse` of the handle's own resume event; nothing when an `int` overflows. -/
def handleResponse (object : HandleObject) (info : Option (Bool × Int)) (getRecord : Int → Int) :
    Option (HandleObject × List FetchEvent) :=
  let object := HandleState.slotRecvGetResumeInfo object info
  if object.callback ∧ object.enableGetrecord ∧ 0 < object.curMaxRecordId then
    if object.maxRecordId = intMax then none
    else
      object.fetchFrom getRecord (object.maxRecordId + 1)
        (object.curMaxRecordId - object.maxRecordId).toNat
  else some (object, [])

/-! ## What the loop does -/

/-- The records from `id` on that have not come live. -/
def missing (object : HandleObject) (id : Int) (rounds : Nat) : List Int :=
  ((List.range rounds).map fun (index : Nat) => id + index).filter (· ∉ object.recvRecordIdSet)

/-- Which records are missing. -/
theorem mem_missing {object : HandleObject} {id other : Int} {rounds : Nat} :
    other ∈ object.missing id rounds ↔
      id ≤ other ∧ other < id + rounds ∧ other ∉ object.recvRecordIdSet := by
  simp only [missing, List.mem_filter, List.mem_map, List.mem_range, decide_eq_true_eq]
  constructor
  · rintro ⟨⟨index, below, rfl⟩, new⟩
    exact ⟨by omega, by omega, new⟩
  · rintro ⟨low, high, new⟩
    exact ⟨⟨(other - id).toNat, by omega, by omega⟩, new⟩

/-- The missing records are in order. -/
theorem missing_pairwise (object : HandleObject) (id : Int) (rounds : Nat) :
    (object.missing id rounds).Pairwise (· < ·) := by
  refine List.Pairwise.filter _ (List.pairwise_map.mpr ?_)
  exact List.pairwise_lt_range.imp fun less => by omega

/-- What is missing from a record on is that record, or not, and what is missing behind it. -/
theorem missing_succ (object : HandleObject) (id : Int) (rounds : Nat) :
    object.missing id (rounds + 1) =
      (if id ∈ object.recvRecordIdSet then [] else [id]) ++ object.missing (id + 1) rounds := by
  have shift : ((fun (index : Nat) => id + index) ∘ Nat.succ) =
      fun (index : Nat) => id + 1 + (index : Int) := by
    funext index
    simp only [Function.comp_apply]
    omega
  simp only [missing, List.range_succ_eq_map, List.map_cons, List.map_map, shift,
    List.filter_cons, decide_eq_true_eq]
  by_cases came : id ∈ object.recvRecordIdSet <;> simp [came]

/-- What is missing depends on what came from the record on. -/
theorem missing_congr {object other : HandleObject} {id : Int} {rounds : Nat}
    (same : ∀ record, id ≤ record →
      (record ∈ object.recvRecordIdSet ↔ record ∈ other.recvRecordIdSet)) :
    object.missing id rounds = other.missing id rounds := by
  refine List.filter_congr fun record member => ?_
  obtain ⟨index, _, rfl⟩ := List.mem_map.mp member
  simp only [same (id + index) (by omega)]

/-- The events of fetching the records in their order. -/
def fetches (getRecord : Int → Int) (ids : List Int) : List FetchEvent :=
  ids.flatMap fun id => [.fetched id (getRecord id), .reported id]

/-- Below the greatest `int` the loop fetches every missing record and ends at the maximum. -/
theorem fetchFrom_eq (getRecord : Int → Int) {object : HandleObject} {id : Int} {rounds : Nat}
    (isRounds : rounds = (object.curMaxRecordId + 1 - id).toNat)
    (small : object.curMaxRecordId < intMax) :
    ∃ final, object.fetchFrom getRecord id rounds =
        some (final, fetches getRecord (object.missing id rounds)) ∧
      final.maxRecordId =
        if id ≤ object.curMaxRecordId then object.curMaxRecordId else object.maxRecordId := by
  induction rounds generalizing object id with
  | zero => exact ⟨object, rfl, by rw [if_neg (by omega)]⟩
  | succ rounds inductionHypothesis =>
      have inside : id ≤ object.curMaxRecordId := by omega
      have noOverflow : id ≠ intMax := by omega
      rw [fetchFrom, if_pos inside, missing_succ, if_pos inside]
      by_cases came : id ∈ object.recvRecordIdSet
      · obtain ⟨final, result, isMax⟩ := @inductionHypothesis
          { object with
            maxRecordId := id
            recvRecordIdSet := object.recvRecordIdSet.filter (· ≠ id) } (id + 1)
          (by simp only; omega) small
        refine ⟨final, ?_, ?_⟩
        · rw [if_pos came, if_neg noOverflow, if_pos came, result, List.nil_append]
          rw [missing_congr fun record later => ?_]
          simp only [List.mem_filter, decide_eq_true_eq]
          exact ⟨And.left, fun member => ⟨member, by omega⟩⟩
        · rw [isMax]
          simp only
          split <;> omega
      · obtain ⟨final, result, isMax⟩ := @inductionHypothesis { object with maxRecordId := id }
          (id + 1) (by simp only; omega) small
        refine ⟨final, ?_, ?_⟩
        · rw [if_neg came, if_neg noOverflow, if_neg came, result]
          rfl
        · rw [isMax]
          simp only
          split <;> omega

/-- A loop that goes up to the greatest `int` overflows. -/
theorem fetchFrom_overflows (getRecord : Int → Int) {object : HandleObject} {id : Int}
    {rounds : Nat} (isRounds : rounds = (object.curMaxRecordId + 1 - id).toNat)
    (greatest : object.curMaxRecordId = intMax) (inside : id ≤ intMax) :
    object.fetchFrom getRecord id rounds = none := by
  induction rounds generalizing object id with
  | zero => omega
  | succ rounds inductionHypothesis =>
      rw [fetchFrom, if_pos (by omega)]
      by_cases isLast : id = intMax
      · simp only [isLast, if_true, ite_self]
      · simp only [isLast, if_false]
        split
        · exact inductionHypothesis (by simp only; omega) greatest (by omega)
        · have overflows := @inductionHypothesis { object with maxRecordId := id } (id + 1)
            (by simp only; omega) greatest (by omega)
          rw [overflows]
          rfl

/-- What happens when records are fetched. -/
theorem mem_fetches {getRecord : Int → Int} {ids : List Int} {event : FetchEvent} :
    event ∈ fetches getRecord ids ↔
      ∃ id ∈ ids, event = .fetched id (getRecord id) ∨ event = .reported id := by
  simp [fetches]

/-- Every record that is fetched is reported. -/
theorem reportedIds_fetches (getRecord : Int → Int) (ids : List Int) :
    (fetches getRecord ids).filterMap FetchEvent.reportedId = ids := by
  induction ids with
  | nil => rfl
  | cons id ids inductionHypothesis =>
      rw [fetches, List.flatMap_cons, List.filterMap_append, ← fetches, inductionHypothesis]
      rfl

end HandleObject

/-- No failed fetch is reported or passed over: the callback gets records that came, in
increasing order of their ids, and the cursor stays below every record that did not. -/
def FailuresRetried (result : HandleObject × List FetchEvent) : Prop :=
  (∀ id, .reported id ∈ result.2 → .fetched id reqSucceed ∈ result.2) ∧
  (result.2.filterMap FetchEvent.reportedId).Pairwise (· < ·) ∧
  ∀ id code, .fetched id code ∈ result.2 → code ≠ reqSucceed → result.1.maxRecordId < id

/-- The loop retries what failed exactly when nothing fails. -/
theorem failuresRetried_fetches_iff (getRecord : Int → Int) (final : HandleObject) {ids : List Int}
    (ordered : ids.Pairwise (· < ·)) :
    FailuresRetried (final, HandleObject.fetches getRecord ids) ↔
      ∀ id ∈ ids, getRecord id = reqSucceed := by
  constructor
  · rintro ⟨reports, _, _⟩ id member
    have fetched := reports id (HandleObject.mem_fetches.mpr ⟨id, member, .inr rfl⟩)
    obtain ⟨_, _, same | same⟩ := HandleObject.mem_fetches.mp fetched
    · injection same with isId isCode
      rw [isId, ← isCode]
    · cases same
  · intro allSucceed
    refine ⟨?_, ?_, ?_⟩
    · intro id reported
      obtain ⟨_, member, same | same⟩ := HandleObject.mem_fetches.mp reported
      · cases same
      · cases same
        exact HandleObject.mem_fetches.mpr ⟨id, member, .inl (by rw [allSucceed id member])⟩
    · rw [HandleObject.reportedIds_fetches]
      exact ordered
    · intro id code fetched failed
      obtain ⟨_, member, same | same⟩ := HandleObject.mem_fetches.mp fetched
      · cases same
        exact absurd (allSucceed id member) failed
      · cases same

/-- The loop from `start` on, which `HandleResponse` enters with `start + 1`. -/
theorem fetchFrom_retried_iff (getRecord : Int → Int) {object : HandleObject} {start : Int}
    (startBound : start ≤ intMax) (currentBound : object.curMaxRecordId ≤ intMax) :
    (∃ result, (if start = intMax then none
          else object.fetchFrom getRecord (start + 1) (object.curMaxRecordId - start).toNat) =
        some result ∧ FailuresRetried result) ↔
      start < intMax ∧ object.curMaxRecordId < intMax ∧
        ∀ id, start < id → id ≤ object.curMaxRecordId → id ∉ object.recvRecordIdSet →
          getRecord id = reqSucceed := by
  by_cases noStart : start = intMax
  · rw [if_pos noStart]
    refine iff_of_false ?_ fun fits => ?_
    · rintro ⟨_, isSome, _⟩
      cases isSome
    · omega
  · rw [if_neg noStart]
    by_cases greatest : object.curMaxRecordId = intMax
    · rw [object.fetchFrom_overflows getRecord (by omega) greatest (by omega)]
      refine iff_of_false ?_ fun fits => ?_
      · rintro ⟨_, isSome, _⟩
        cases isSome
      · omega
    · obtain ⟨final, isFinal, _⟩ := @HandleObject.fetchFrom_eq getRecord object (start + 1)
        (object.curMaxRecordId - start).toNat (by omega) (by omega)
      rw [isFinal]
      have retried := failuresRetried_fetches_iff getRecord final
        (object.missing_pairwise (start + 1) (object.curMaxRecordId - start).toNat)
      constructor
      · rintro ⟨result, same, good⟩
        cases same
        refine ⟨by omega, by omega, fun id low high new => ?_⟩
        exact retried.mp good id (HandleObject.mem_missing.mpr ⟨by omega, by omega, new⟩)
      · rintro ⟨_, _, allSucceed⟩
        refine ⟨_, rfl, retried.mpr fun id member => ?_⟩
        obtain ⟨low, high, new⟩ := HandleObject.mem_missing.mp member
        exact allSucceed id (by omega) (by omega) new

/-- The call is defined and no failed fetch is reported or passed over exactly when there is
nothing to do, or no `int` overflows and every record that is missing can be fetched. -/
theorem failed_fetch_retried_iff (object : HandleObject) (start current : Int32) (callback : Bool)
    (getRecord : Int → Int) :
    (∃ result, HandleObject.handleResponse { object with maxRecordId := start.toInt }
        (some (callback, current.toInt)) getRecord = some result ∧ FailuresRetried result) ↔
      (callback = true → object.enableGetrecord = true → 0 < current.toInt →
        start.toInt < intMax ∧ current.toInt < intMax ∧
        ∀ id, start.toInt < id → id ≤ current.toInt → id ∉ object.recvRecordIdSet →
          getRecord id = reqSucceed) := by
  have startBound : start.toInt ≤ intMax := by have := start.toInt_lt; unfold intMax; omega
  have currentBound : current.toInt ≤ intMax := by have := current.toInt_lt; unfold intMax; omega
  let informed : HandleObject :=
    { object with
      callback := callback
      maxRecordId := start.toInt
      curMaxRecordId := current.toInt }
  by_cases works : callback = true ∧ object.enableGetrecord = true ∧ 0 < current.toInt
  · have handled : HandleObject.handleResponse { object with maxRecordId := start.toInt }
        (some (callback, current.toInt)) getRecord =
          if start.toInt = intMax then none
          else informed.fetchFrom getRecord (start.toInt + 1)
            (informed.curMaxRecordId - start.toInt).toNat := if_pos works
    rw [handled, fetchFrom_retried_iff getRecord startBound currentBound]
    simp only [works, true_imp_iff]
    rfl
  · have handled : HandleObject.handleResponse { object with maxRecordId := start.toInt }
        (some (callback, current.toInt)) getRecord = some (informed, []) := if_neg works
    rw [handled]
    refine iff_of_true ⟨_, rfl, ?_⟩ fun isSet enabled positive =>
      absurd ⟨isSet, enabled, positive⟩ works
    simp [FailuresRetried]

/-- A record that could not be fetched is reported all the same, and never asked for again. -/
theorem failed_fetch_reported :
    ∃ result, HandleObject.handleResponse HandleObject.new (some (true, 1)) (fun _ => reqFailed) =
        some result ∧
      .fetched 1 reqFailed ∈ result.2 ∧ .reported 1 ∈ result.2 ∧ result.1.maxRecordId = 1 ∧
      ¬FailuresRetried result := by
  refine ⟨({ HandleObject.new with callback := true, maxRecordId := 1, curMaxRecordId := 1 },
    [.fetched 1 reqFailed, .reported 1]), by decide, by decide, by decide, rfl, ?_⟩
  rintro ⟨_, _, below⟩
  exact absurd (below 1 reqFailed (by decide) (by decide)) (by decide)

/-! ## The call inside the run of the push thread -/

namespace HandleState

variable {state : HandleState} {handle : PushHandle}

/-- A record that came is passed over. -/
theorem advance_came {object : HandleObject} {id : Int} (inside : id ≤ object.curMaxRecordId)
    (came : id ∈ object.recvRecordIdSet) :
    state.advance handle object id =
      state.advance handle
        { object with
          maxRecordId := id
          recvRecordIdSet := object.recvRecordIdSet.filter (· ≠ id) } (id + 1) := by
  have rounds : (object.curMaxRecordId + 1 - id).toNat =
      (object.curMaxRecordId + 1 - (id + 1)).toNat + 1 := by omega
  rw [advance, rounds, HandleObject.nextFetch, if_pos inside, if_pos came]
  rfl

/-- A record that is missing is fetched next. -/
theorem advance_missing {object : HandleObject} {id : Int} (inside : id ≤ object.curMaxRecordId)
    (new : id ∉ object.recvRecordIdSet) :
    state.advance handle object id =
      { state.setObject handle object with phase := some (.fetching handle id) } := by
  have rounds : (object.curMaxRecordId + 1 - id).toNat =
      (object.curMaxRecordId + 1 - (id + 1)).toNat + 1 := by omega
  rw [advance, rounds, HandleObject.nextFetch, if_pos inside, if_neg new]
  rfl

/-- Where the thread was, and what the object was, makes no difference to the loop. -/
theorem advance_again (object other : HandleObject) (phase : Option ResumePhase) (id : Int) :
    HandleState.advance { state.setObject handle object with phase := phase } handle other id =
      state.advance handle other id := by
  simp only [advance, setObject, mk.injEq, and_true, true_and]
  funext entry
  by_cases same : entry = handle <;> simp [same]

/-- The answer to a fetched record is reported, and the next one is fetched. -/
theorem step_fetching (sound : state.push.failed = false) (object : HandleObject) (id uId : Int) :
    handleMachine.step
        { state.setObject handle object with phase := some (.fetching handle id) }
        (.getRecord uId) =
      some (state.advance handle { object with maxRecordId := id } (id + 1),
        [.called handle (.resumedPlate uId)]) := by
  refine (if_neg (by simp [setObject, sound])).trans ?_
  simp only [getRecord, advance_again]
  simp [setObject]

/-- The loop as steps of `handleMachine`: one for each record that is fetched. -/
theorem run_fetchFrom (sound : state.push.failed = false) (getRecord : Int → Int)
    {object final : HandleObject} {id : Int} {rounds : Nat} {events : List FetchEvent}
    (isRounds : rounds = (object.curMaxRecordId + 1 - id).toNat)
    (loop : object.fetchFrom getRecord id rounds = some (final, events)) :
    handleMachine.Run (state.advance handle object id)
      ((events.filterMap FetchEvent.reportedId).map .getRecord)
      { state.setObject handle final with phase := none }
      ((events.filterMap FetchEvent.reportedId).map fun id =>
        .called handle (.resumedPlate id)) := by
  induction rounds generalizing state object id events with
  | zero =>
      cases loop
      rw [advance, ← isRounds]
      exact .nil
  | succ rounds inductionHypothesis =>
      have inside : id ≤ object.curMaxRecordId := by omega
      rw [HandleObject.fetchFrom, if_pos inside] at loop
      by_cases came : id ∈ object.recvRecordIdSet
      · rw [if_pos came] at loop
        split at loop
        · cases loop
        · rw [advance_came inside came]
          exact inductionHypothesis sound (by simp only; omega) loop
      · rw [if_neg came] at loop
        split at loop
        · cases loop
        · obtain ⟨⟨_, rest⟩, tail, same⟩ := Option.map_eq_some_iff.mp loop
          cases same
          rw [advance_missing inside came]
          exact (Machine.RunWhere.single trivial (step_fetching sound object id id)).append
            (inductionHypothesis sound (by simp only; omega) tail)

/-- `handleResponse` is what the push thread does from its resume event on, if nothing
else comes between. -/
theorem run_handleResponse (sound : state.push.failed = false)
    (asking : state.phase = some (.asking handle)) (info : Option (Bool × Int))
    (getRecord : Int → Int) {final : HandleObject} {events : List FetchEvent}
    (handled : (state.objects handle).handleResponse info getRecord = some (final, events)) :
    handleMachine.Run state
      (.resumeInfo info :: (events.filterMap FetchEvent.reportedId).map .getRecord)
      { state.setObject handle final with phase := none }
      ((events.filterMap FetchEvent.reportedId).map fun id =>
        .called handle (.resumedPlate id)) := by
  have stepped : handleMachine.step state (.resumeInfo info) =
      (state.resumeInfo info).map fun next => (next, []) := if_neg (by simp [sound])
  simp only [resumeInfo, asking] at stepped
  unfold HandleObject.handleResponse at handled
  simp only at handled
  split at handled
  · next works =>
      rw [if_pos works] at stepped
      split at handled
      · cases handled
      · exact (Machine.RunWhere.single trivial stepped).append
          (run_fetchFrom sound getRecord (by omega) handled)
  · next idle =>
      rw [if_neg idle] at stepped
      cases handled
      exact .single trivial stepped

end HandleState

end VzSdk.Sdk
