import VzSdk.Base.SignalLife
import VzSdk.Event.AsyncSocket

/-!
# Sockets and their resolvers

A `PhysicalSocket` that is to connect to a host name makes an `AsyncResolver`, a
`SignalThread`, and destroys it when it closes. The steps of all resolvers are
those of the machine of `SignalThread`, so that a run is any interleaving of the
socket with the threads of its resolvers. What a step does with a resolver is its
output, so that each resolver's own run can be read off. Every resolver is used as
its class relies on; one that the socket no longer knows has been given up, unless
the socket was connected again without having been closed.
-/

namespace VzSdk.Event

open VzSdk.Std VzSdk.Base

/-- A `PhysicalSocket`, with all the resolvers it has made. -/
structure ResolvingSocket where
  socket : AsyncSocket
  /-- `s_` is a socket. -/
  opened : Bool
  /-- `resolver_`. -/
  resolver : Option Nat
  /-- All that were made. -/
  resolvers : List SignalThread
  /-- The object is there. -/
  here : Bool
deriving DecidableEq, Repr

/-- A call of the socket, or a step of a resolver. -/
inductive ResolvingAction where
  /-- What `::socket` answers. -/
  | create (made : Bool)
  | connect (unresolved refused made : Bool) (outcome : ConnectOutcome)
  | close
  | delete
  | onPreEvent (ff : DispatcherEvents)
  /-- A step of a resolver, with what `OnResolveResult` meets if it is called. -/
  | resolver (id : Nat) (action : SignalAction) (error made : Bool) (outcome : ConnectOutcome)
deriving DecidableEq, Repr

/-- A step that a resolver takes, by itself or because the socket calls it. -/
structure ResolverCall where
  id : Nat
  action : SignalAction
deriving DecidableEq, Repr

/-- The steps of one resolver. -/
def callsOf (id : Nat) (calls : List ResolverCall) : List SignalAction :=
  calls.filterMap fun call => if call.id = id then some call.action else none

/-- `Start`, in which the system may make no thread; `OnWorkStart` is empty. -/
def startResolver (refused : Bool) : Option (SignalThread × List SignalAction) :=
  let actions := [.start, if refused then .refuse else .goOn]
  (SignalThread.machine.exec .new actions).map fun result => (result.1, actions)

/-- `Destroy(false)`; `OnWorkStop` is empty. -/
def destroyResolver (thread : SignalThread) : Option (SignalThread × List SignalAction) :=
  match thread.step (.destroy false) with
  | none => none
  | some (next, _) =>
      if next.frames.head? = some (.onWorkStop false) then
        (next.step .goOn).map fun result => (result.1, [.destroy false, .goOn])
      else
        some (next, [.destroy false])

namespace ResolvingSocket

/-- The constructor. -/
def new : ResolvingSocket := ⟨.create, false, none, [], true⟩

variable (physical : ResolvingSocket)

/-- `PhysicalSocket::Close`. -/
def close : Option (ResolvingSocket × List ResolverCall) :=
  if physical.opened = false then some (physical, [])
  else
    let closed := { physical with socket := physical.socket.close, opened := false, resolver := none }
    match physical.resolver with
    | none => some (closed, [])
    | some id =>
        match physical.resolvers[id]? with
        | none => none
        | some thread =>
            (destroyResolver thread).map fun (thread, actions) =>
              ({ closed with resolvers := physical.resolvers.set id thread },
                actions.map (ResolverCall.mk id))

/-- `PhysicalSocket::Create`. -/
def create (made : Bool) : Option (ResolvingSocket × List ResolverCall) :=
  physical.close.map fun (physical, calls) => ({ physical with opened := made }, calls)

/-- `PhysicalSocket::DoConnect`: without a socket it makes one, and there is nothing to close. -/
def doConnect (made : Bool) (outcome : ConnectOutcome) : ResolvingSocket :=
  if physical.opened || made then
    { physical with socket := (physical.socket.doConnect outcome).1, opened := true }
  else
    physical

/-- `PhysicalSocket::Connect`. -/
def connect (unresolved refused made : Bool) (outcome : ConnectOutcome) :
    Option (ResolvingSocket × List ResolverCall) :=
  if physical.socket.state ≠ .closed then some (physical, [])
  else if unresolved then
    (startResolver refused).map fun (thread, actions) =>
      ({ physical with
          socket := { physical.socket with state := .connecting }
          resolver := some physical.resolvers.length
          resolvers := physical.resolvers ++ [thread] },
        actions.map (ResolverCall.mk physical.resolvers.length))
  else
    some (physical.doConnect made outcome, [])

/-- `PhysicalSocket::OnResolveResult`, which an object that is gone no longer gets. -/
def onResolveResult (id : Nat) (error made : Bool) (outcome : ConnectOutcome) :
    Option (ResolvingSocket × List ResolverCall) :=
  if physical.resolver ≠ some id then some (physical, [])
  else if error then physical.close
  else some (physical.doConnect made outcome, [])

/-- What a resolver does by itself, and what becomes of its main thread. -/
def isResolverStep : SignalAction → Bool
  | .start | .destroy _ | .release | .refuse => false
  | _ => true

/-- A resolver takes a step. -/
def stepResolver (id : Nat) (action : SignalAction) (error made : Bool)
    (outcome : ConnectOutcome) : Option (ResolvingSocket × List ResolverCall) :=
  match physical.resolvers[id]? with
  | none => none
  | some thread =>
      match thread.step action with
      | none => none
      | some (next, events) =>
          let physical := { physical with resolvers := physical.resolvers.set id next }
          if .signalWorkDone ∈ events ∧ physical.here then
            (physical.onResolveResult id error made outcome).map fun (physical, calls) =>
              (physical, ⟨id, action⟩ :: calls)
          else
            some (physical, [⟨id, action⟩])

/-- A step of the machine. -/
def step : ResolvingAction → Option (ResolvingSocket × List ResolverCall)
  | .create made => if physical.here then physical.create made else none
  | .connect unresolved refused made outcome =>
      if physical.here then physical.connect unresolved refused made outcome else none
  | .close => if physical.here then physical.close else none
  | .delete =>
      if physical.here then
        physical.close.map fun (physical, calls) =>
          ({ physical with resolver := none, here := false }, calls)
      else
        none
  | .onPreEvent ff =>
      if physical.here then some ({ physical with socket := physical.socket.onPreEvent ff }, [])
      else none
  | .resolver id action error made outcome =>
      if isResolverStep action then physical.stepResolver id action error made outcome else none

/-- The socket and its resolvers, with what they do as outputs. -/
def machine : Machine ResolvingSocket ResolvingAction ResolverCall := ⟨step⟩

/-- A host name is connected to with a socket, and with no resolver. -/
def Tidy : ResolvingAction → Prop
  | .connect unresolved _ _ _ =>
      physical.socket.state = .closed → unresolved = true →
        physical.opened = true ∧ physical.resolver = none
  | _ => True

instance (action : ResolvingAction) : Decidable (physical.Tidy action) :=
  match action with
  | .connect unresolved _ _ _ =>
      inferInstanceAs (Decidable (physical.socket.state = .closed → unresolved = true →
        physical.opened = true ∧ physical.resolver = none))
  | .create _ | .close | .delete | .onPreEvent _ | .resolver _ _ _ _ _ =>
      inferInstanceAs (Decidable True)

end ResolvingSocket

end VzSdk.Event

namespace VzSdk.Base.SignalThread

open VzSdk.Std VzSdk.Event

variable {thread next : SignalThread} {action : SignalAction}
  {result : SignalThread × List SignalEvent}

/-- The owner has not let go. -/
structure Owned (thread : SignalThread) : Prop where
  here : thread.deleted = false
  count : thread.refcount = thread.frames.length + 1
  state : thread.state = .running ∨ thread.state = .complete
  ends : .doneStop true ∉ thread.frames ∧ .signalWorkDone true ∉ thread.frames

section Owned

/-- What the calls count stays, and no deletion comes up. -/
theorem Owned.congr {after : SignalThread} (owned : thread.Owned)
    (deleted : after.deleted = thread.deleted)
    (count : after.refcount - after.frames.length = thread.refcount - thread.frames.length)
    (state : after.state = thread.state)
    (ends : (.doneStop true ∈ after.frames → .doneStop true ∈ thread.frames) ∧
      (.signalWorkDone true ∈ after.frames → .signalWorkDone true ∈ thread.frames)) :
    after.Owned where
  here := deleted.trans owned.here
  count := by
    have counted := owned.count
    omega
  state := state ▸ owned.state
  ends := ⟨mt ends.1 owned.ends.1, mt ends.2 owned.ends.2⟩

/-- Leaving a member keeps the resolver with its socket. -/
theorem owned_exit (owned : Owned { thread with refcount := thread.refcount - 1 }) :
    Owned thread.exit.1 := by
  have count := owned.count
  simp only at count
  rw [exit, if_neg (by omega)]
  exact owned

/-- A call returns to its owner. -/
theorem owned_pop {frame : SignalFrame} {below : List SignalFrame} {worker : WorkerPhase}
    (owned : thread.Owned) (frames : thread.frames = frame :: below) :
    Owned (exit { thread with worker := worker, frames := below }).1 := by
  have isOld {other : SignalFrame} (isIn : other ∈ below) : other ∈ thread.frames :=
    frames ▸ List.mem_cons_of_mem _ isIn
  have length : thread.frames.length = below.length + 1 := congrArg List.length frames
  refine owned_exit (owned.congr rfl ?_ rfl ⟨isOld, isOld⟩)
  simp only
  omega

/-- The end of `OnWorkDone` keeps the resolver with its socket. -/
theorem owned_workIsDone {below : List SignalFrame} (kept : thread.Kept) (owned : thread.Owned)
    (frames : thread.frames = .onWorkDone :: below) : Owned (thread.workIsDone below).1 := by
  have length : thread.frames.length = below.length + 1 := congrArg List.length frames
  have works := kept.not_rest_of_frames frames rfl rfl
  have running : thread.state = .running :=
    owned.state.resolve_right fun complete => works (.inr complete)
  rw [workIsDone_running running]
  refine ⟨owned.here, ?_, .inr rfl, ?_, ?_⟩
  · have count := owned.count
    simp only [List.length_cons]
    omega
  · intro isIn
    have isOld := (List.mem_cons.mp isIn).resolve_left nofun
    exact owned.ends.1 (frames ▸ List.mem_cons_of_mem _ isOld)
  · intro isIn
    have isOld := (List.mem_cons.mp isIn).resolve_left nofun
    exact owned.ends.2 (frames ▸ List.mem_cons_of_mem _ isOld)

/-- Going on within a member keeps the resolver with its socket. -/
theorem owned_goOn {frame : SignalFrame} {below : List SignalFrame} (kept : thread.Kept)
    (owned : thread.Owned) (frames : thread.frames = frame :: below)
    (success : thread.goOn frame below = some result) : Owned result.1 := by
  have notStopping : thread.state ≠ .stopping := by
    rintro stopping
    rcases owned.state with is | is <;> cases is.symm.trans stopping
  cases frame with
  | onWorkStart =>
    cases success
    exact owned_pop owned frames
  | onWorkStop wait =>
    cases wait with
    | true => exact absurd (kept.waits (.inl (frames ▸ List.mem_cons_self))).1 notStopping
    | false =>
      cases success
      exact owned_pop owned frames
  | destroyStop => exact absurd (kept.waits (.inr (frames ▸ List.mem_cons_self))).1 notStopping
  | onWorkDone =>
    cases success
    exact owned_workIsDone kept owned frames
  | doneStop doDelete =>
    rw [goOn] at success
    split at success
    · cases success
      have stays : doDelete = false := by
        cases doDelete with
        | false => rfl
        | true => exact absurd (frames ▸ List.mem_cons_self) owned.ends.1
      subst stays
      refine owned.congr rfl ?_ rfl ?_
      · rw [frames]
        rfl
      · rw [frames]
        simp only [List.mem_cons, reduceCtorEq, SignalFrame.signalWorkDone.injEq,
          Bool.true_eq_false, false_or]
        exact ⟨fun isIn => .inr isIn, id⟩
    · cases success
  | signalWorkDone doDelete =>
    cases success
    have stays : doDelete = false := by
      cases doDelete with
      | false => rfl
      | true => exact absurd (frames ▸ List.mem_cons_self) owned.ends.2
    subst stays
    exact owned_pop owned frames

/-- The object stays with its owner, whatever its threads do. -/
theorem owned_stepped (sound : thread.Sound) (owned : thread.Owned)
    (isStep : ResolvingSocket.isResolverStep action = true)
    (stepped : thread.Stepped action result) : Owned result.1 := by
  cases sound with
  | gone gone => cases owned.here.symm.trans gone
  | here _ _ kept =>
    cases stepped with
    | start | destroy | release | refuse => cases isStep
    | goOn frames success => exact owned_goOn kept owned frames success
    | dispatch =>
      refine owned.congr rfl ?_ rfl ?_
      · simp only [onMessage, enter, List.length_cons]
        omega
      · simp [onMessage]
    | postWorker =>
      rw [postWorker]
      split
      · exact owned
      · exact ⟨owned.here, owned.count, owned.state, owned.ends⟩
    | continueWork | endWork | quitMain =>
      exact ⟨owned.here, owned.count, owned.state, owned.ends⟩
    | post =>
      refine owned_exit (owned.congr rfl ?_ rfl ⟨id, id⟩)
      simp only [enter]
      omega
    | destroyMain =>
      rw [destroyMain, if_neg (ne_true_of_eq_false owned.here)]
      refine owned_exit (owned.congr rfl ?_ rfl ⟨id, id⟩)
      simp only [enter]
      omega

/-- `Destroy` gives the resolver up. -/
theorem givenUp_destroy (owned : thread.Owned) : (thread.destroy false).1.IsGivenUp := by
  obtain ⟨_, count, state, _⟩ := owned
  rw [destroy]
  rcases state with running | complete
  · rw [if_neg (by simp [running]), if_pos (.inl running)]
    exact .inr (.inl rfl)
  · rw [if_pos (.inr complete)]
    refine givenUp_exit (.inr (.inr ?_))
    simp only [enter]
    omega

/-- A resolver's own steps do not take it back. -/
theorem givenUp_of_isResolverStep (isStep : ResolvingSocket.isResolverStep action = true)
    (givenUp : thread.IsGivenUp) (stepped : thread.Stepped action result) :
    result.1.IsGivenUp := by
  cases stepped with
  | start | destroy | release | refuse => cases isStep
  | continueWork | quitMain => exact givenUp
  | postWorker =>
    rw [postWorker]
    split <;> exact givenUp
  | destroyMain =>
    rw [destroyMain]
    split
    · exact givenUp
    · refine givenUp_exit (givenUp.congr rfl ?_)
      simp only [enter]
      omega
  | dispatch user posted => exact givenUp_stepped rfl givenUp (.dispatch user posted)
  | goOn frames success => exact givenUp_stepped rfl givenUp (.goOn frames success)
  | endWork worker => exact givenUp_stepped rfl givenUp (.endWork worker)
  | post worker => exact givenUp_stepped rfl givenUp (.post worker)

end Owned

/-- Leaving a member changes no frame. -/
theorem frames_exit : thread.exit.1.frames = thread.frames := by
  rw [exit]
  split <;> rfl

/-- Behind `OnWorkDone` comes the end of the round, and nothing else. -/
theorem frames_workIsDone {below : List SignalFrame} {frame : SignalFrame}
    (isIn : frame ∈ (thread.workIsDone below).1.frames) :
    frame ∈ below ∨ ∃ doDelete, frame = .doneStop doDelete := by
  by_cases stopping : thread.state = .stopping
  · rw [workIsDone_stopping stopping, finishMessage, frames_exit] at isIn
    exact .inl isIn
  by_cases running : thread.state = .running
  · rw [workIsDone_running running] at isIn
    exact (List.mem_cons.mp isIn).symm.imp_right fun isTop => ⟨_, isTop⟩
  · rw [workIsDone_released running stopping] at isIn
    exact (List.mem_cons.mp isIn).symm.imp_right fun isTop => ⟨_, isTop⟩

section Used

/-- Who does not wait in `Destroy` is not waited for when a call returns. -/
theorem noWait_goOn {frame : SignalFrame} {below : List SignalFrame}
    (free : .onWorkStop true ∉ thread.frames) (frames : thread.frames = frame :: below)
    (success : thread.goOn frame below = some result) : .onWorkStop true ∉ result.1.frames := by
  have freeBelow : .onWorkStop true ∉ below := fun isIn =>
    free (frames ▸ List.mem_cons_of_mem _ isIn)
  cases frame with
  | onWorkStart =>
    cases success
    rwa [frames_exit]
  | onWorkStop wait =>
    cases wait with
    | true => exact absurd (frames ▸ List.mem_cons_self) free
    | false =>
      cases success
      rwa [frames_exit]
  | destroyStop =>
    rw [goOn] at success
    split at success
    · cases success
      rwa [frames_exit]
    · cases success
  | onWorkDone =>
    cases success
    intro isIn
    rcases frames_workIsDone isIn with isIn | ⟨_, is⟩
    · exact freeBelow isIn
    · cases is
  | doneStop doDelete =>
    rw [goOn] at success
    split at success
    · cases success
      simpa using freeBelow
    · cases success
  | signalWorkDone doDelete =>
    cases success
    rwa [finishMessage, frames_exit]

/-- Who does not wait in `Destroy` is not waited for. -/
theorem noWait_stepped (free : .onWorkStop true ∉ thread.frames) (leaves : action ≠ .destroy true)
    (stepped : thread.Stepped action result) : .onWorkStop true ∉ result.1.frames := by
  cases stepped with
  | start =>
    rw [start]
    split
    · simpa using free
    · rwa [frames_exit]
  | @destroy _ wait =>
    have noWait : wait = false := eq_false_of_ne_true fun isWait => leaves (by rw [isWait])
    rw [destroy, noWait]
    split
    · rwa [frames_exit]
    split
    · simpa using free
    · rwa [frames_exit]
  | release =>
    rw [release]
    split
    · rwa [frames_exit]
    split
    · rwa [frames_exit]
    · rwa [frames_exit]
  | dispatch => simpa [onMessage] using free
  | goOn frames success => exact noWait_goOn free frames success
  | refuse frames =>
    rw [frames_exit]
    exact fun isIn => free (frames ▸ List.mem_cons_of_mem _ isIn)
  | postWorker =>
    rw [postWorker]
    split <;> exact free
  | continueWork | endWork | quitMain => exact free
  | post => rwa [post, frames_exit]
  | destroyMain =>
    rw [destroyMain]
    split
    · exact free
    · rwa [frames_exit]

variable {lossless : Prop} {calls : List SignalAction}

/-- Every call of it was proper, none waits for its worker, and its message was not lost. -/
structure Used (lossless : Prop) (thread : SignalThread) (calls : List SignalAction) : Prop where
  run : ∃ events, machine.RunWhere
    (fun thread action => thread.Proper action ∧ (lossless → loses action = false)) new calls
    thread events
  free : .onWorkStop true ∉ thread.frames

/-- A resolver that is used properly is sound. -/
theorem Used.sound (used : thread.Used lossless calls) : thread.Sound := by
  obtain ⟨events, run⟩ := used.run
  refine run.invariant (fun _ thread _ => thread.Sound) sound_new ?_
  intro _ thread _ action next emitted sound proper success
  exact sound_stepped sound proper.1 (stepped_of_step success)

/-- A proper step of a resolver is used properly. -/
theorem Used.step (used : thread.Used lossless calls) {events : List SignalEvent}
    (proper : thread.Proper action) (leaves : action ≠ .destroy true)
    (keeps : lossless → loses action = false) (success : thread.step action = some (next, events)) :
    next.Used lossless (calls ++ [action]) := by
  obtain ⟨⟨before, run⟩, free⟩ := used
  exact ⟨⟨_, run.snoc ⟨proper, keeps⟩ success⟩, noWait_stepped free leaves (stepped_of_step success)⟩

/-- What a resolver does by itself is proper. -/
theorem Used.stepResolver (used : thread.Used lossless calls) {events : List SignalEvent}
    (isStep : ResolvingSocket.isResolverStep action = true)
    (keeps : lossless → loses action = false) (success : thread.step action = some (next, events)) :
    next.Used lossless (calls ++ [action]) := by
  refine used.step ?_ ?_ keeps success
  · cases action with
    | start | destroy | release | refuse => cases isStep
    | dispatch => exact used.free
    | _ => trivial
  · rintro rfl
    cases isStep

/-- What `Start` of a new resolver leaves, and the calls it takes. -/
theorem startResolver_eq (refused : Bool) :
    startResolver refused =
      some (⟨.running, 1, true, if refused then .none else .doWork, false, 0, [], 0, false, false⟩,
        [.start, if refused then .refuse else .goOn]) := by
  cases refused <;> rfl

/-- A resolver that was started belongs to its socket. -/
theorem started {refused : Bool} (keeps : lossless → refused = false)
    (success : startResolver refused = some (thread, calls)) :
    thread.Used lossless calls ∧ thread.Owned := by
  rw [startResolver_eq] at success
  cases success
  refine ⟨⟨?_, List.not_mem_nil⟩, rfl, rfl, .inl rfl, List.not_mem_nil, List.not_mem_nil⟩
  cases refused with
  | false =>
    have run : machine.RunWhere (fun thread action => thread.Proper action ∧ loses action = false)
        new [.start, .goOn] ⟨.running, 1, true, .doWork, false, 0, [], 0, false, false⟩
        [.onWorkStart] :=
      .of_permits (fun _ _ => of_decide_eq_true) (by decide) (by decide)
    exact ⟨_, run.mono fun _ _ allowed => ⟨allowed.1, fun _ => allowed.2⟩⟩
  | true =>
    have run : machine.RunWhere Proper new [.start, .refuse]
        ⟨.running, 1, true, .none, false, 0, [], 0, false, false⟩ [.onWorkStart, .refused] :=
      .of_permits (fun _ _ => of_decide_eq_true) (by decide) (by decide)
    exact ⟨_, run.mono fun _ _ proper =>
      ⟨proper, fun isLossless => absurd (keeps isLossless).symm Bool.false_ne_true⟩⟩

/-- A resolver that is destroyed is used properly, and given up. -/
theorem destroyed {more : List SignalAction} (used : thread.Used lossless calls)
    (owned : thread.Owned) (success : destroyResolver thread = some (next, more)) :
    next.Used lossless (calls ++ more) ∧ next.IsGivenUp := by
  rw [destroyResolver] at success
  split at success
  · cases success
  · next middle events isStep =>
    have count := owned.count
    have proper : thread.Proper (.destroy false) :=
      ⟨fun _ => by omega, fun waits => absurd waits Bool.false_ne_true⟩
    have usedMiddle : middle.Used lossless (calls ++ [.destroy false]) :=
      used.step proper (by simp) (fun _ => rfl) isStep
    have givenUp : middle.IsGivenUp := by
      obtain ⟨_, same⟩ := Option.ite_none_right_eq_some.mp isStep
      have isMiddle : (thread.destroy false).1 = middle := congrArg Prod.fst (Option.some.inj same)
      exact isMiddle ▸ givenUp_destroy owned
    split at success
    · obtain ⟨⟨last, rest⟩, goes, same⟩ := Option.map_eq_some_iff.mp success
      cases same
      have usedLast := usedMiddle.stepResolver rfl (fun _ => rfl) goes
      rw [List.append_assoc] at usedLast
      exact ⟨usedLast, givenUp_of_isResolverStep rfl givenUp (stepped_of_step goes)⟩
    · cases success
      exact ⟨usedMiddle, givenUp⟩

end Used

end VzSdk.Base.SignalThread

namespace VzSdk.Event

open VzSdk.Base

variable {id other : Nat} {calls more : List ResolverCall} {actions : List SignalAction}

/-- The calls of one resolver, one list behind the other. -/
theorem callsOf_append (id : Nat) (calls more : List ResolverCall) :
    callsOf id (calls ++ more) = callsOf id calls ++ callsOf id more :=
  List.filterMap_append

/-- All of a resolver's calls are its own. -/
theorem callsOf_own (id : Nat) (actions : List SignalAction) :
    callsOf id (actions.map (ResolverCall.mk id)) = actions := by
  have each : (fun call : ResolverCall => if call.id = id then some call.action else none) ∘
      ResolverCall.mk id = some := by
    funext action
    exact if_pos rfl
  rw [callsOf, List.filterMap_map, each, List.filterMap_some]

/-- None of another resolver's calls are. -/
theorem callsOf_other (differs : id ≠ other) (actions : List SignalAction) :
    callsOf other (actions.map (ResolverCall.mk id)) = [] := by
  simp [callsOf, differs]

end VzSdk.Event

namespace VzSdk.Event.ResolvingSocket

open VzSdk.Std VzSdk.Base

variable {physical after : ResolvingSocket} {lossless : Prop} {calls more : List ResolverCall}
  {actions : List SignalAction}

/-- The resolvers are used as they rely on, and the one that the socket has is there. -/
structure Tracked (lossless : Prop) (physical : ResolvingSocket) (calls : List ResolverCall) :
    Prop where
  used : ∀ {id} {thread : SignalThread}, physical.resolvers[id]? = some thread →
    thread.Used lossless (callsOf id calls)
  /-- What has not been made has done nothing. -/
  fresh : ∀ {id}, physical.resolvers.length ≤ id → callsOf id calls = []
  owned : ∀ {id}, physical.resolver = some id →
    ∃ thread, physical.resolvers[id]? = some thread ∧ thread.Owned

/-- Only the resolver that the socket has is still to be given up. -/
structure Cleared (physical : ResolvingSocket) : Prop where
  opened : ∀ {id}, physical.resolver = some id → physical.opened = true
  others : ∀ {id thread}, physical.resolvers[id]? = some thread → physical.resolver ≠ some id →
    thread.IsGivenUp

/-- One resolver has gone on. -/
theorem used_set (tracked : physical.Tracked lossless calls) {id : Nat} {next : SignalThread}
    (bound : id < physical.resolvers.length)
    (used : next.Used lossless (callsOf id calls ++ actions)) {other : Nat} {thread : SignalThread}
    (is : (physical.resolvers.set id next)[other]? = some thread) :
    thread.Used lossless (callsOf other (calls ++ actions.map (ResolverCall.mk id))) := by
  rw [callsOf_append]
  by_cases same : id = other
  · subst same
    rw [List.getElem?_set_self bound] at is
    cases is
    rwa [callsOf_own]
  · rw [List.getElem?_set_ne same] at is
    rw [callsOf_other same, List.append_nil]
    exact tracked.used is

/-- A resolver that is not made yet has no calls. -/
theorem fresh_set (tracked : physical.Tracked lossless calls) {id other : Nat}
    (bound : id < physical.resolvers.length) (unmade : physical.resolvers.length ≤ other) :
    callsOf other (calls ++ actions.map (ResolverCall.mk id)) = [] := by
  rw [callsOf_append, tracked.fresh unmade, callsOf_other (by omega), List.append_nil]

/-- A step of one resolver keeps track of all. -/
theorem tracked_set (tracked : physical.Tracked lossless calls) {id : Nat}
    {thread next : SignalThread} (is : physical.resolvers[id]? = some thread)
    (used : next.Used lossless (callsOf id calls ++ actions)) (owned : thread.Owned → next.Owned) :
    Tracked lossless { physical with resolvers := physical.resolvers.set id next }
      (calls ++ actions.map (ResolverCall.mk id)) := by
  have bound := (List.getElem?_eq_some_iff.mp is).1
  refine ⟨used_set tracked bound used, ?_, ?_⟩
  · intro other unmade
    rw [List.length_set] at unmade
    exact fresh_set tracked bound unmade
  · intro whose isOwn
    obtain ⟨other, isOther, own⟩ := tracked.owned isOwn
    by_cases same : id = whose
    · subst same
      rw [is] at isOther
      cases isOther
      exact ⟨next, List.getElem?_set_self bound, owned own⟩
    · exact ⟨other, (List.getElem?_set_ne same).trans isOther, own⟩

/-- A step of one resolver takes none back that was given up. -/
theorem cleared_set (cleared : physical.Cleared) {id : Nat} {thread next : SignalThread}
    (is : physical.resolvers[id]? = some thread) (givenUp : thread.IsGivenUp → next.IsGivenUp) :
    Cleared { physical with resolvers := physical.resolvers.set id next } where
  opened := cleared.opened
  others := by
    intro whose other isOther differs
    by_cases same : id = whose
    · subst same
      rw [List.getElem?_set_self (List.getElem?_eq_some_iff.mp is).1] at isOther
      cases isOther
      exact givenUp (cleared.others is differs)
    · rw [List.getElem?_set_ne same] at isOther
      exact cleared.others isOther differs

/-- `Close` gives up the resolver, or does nothing. -/
theorem close_cases (tracked : physical.Tracked lossless calls)
    (success : physical.close = some (after, more)) :
    (physical.opened = false ∧ after = physical ∧ more = []) ∨
      after.resolver = none ∧ after.opened = false ∧
        ((physical.resolver = none ∧ after.resolvers = physical.resolvers ∧ more = []) ∨
          ∃ id next actions, physical.resolver = some id ∧
            after.resolvers = physical.resolvers.set id next ∧
              more = actions.map (ResolverCall.mk id) ∧
                next.Used lossless (callsOf id calls ++ actions) ∧ next.IsGivenUp) := by
  rw [close] at success
  split at success
  · next notOpened =>
    cases success
    exact .inl ⟨notOpened, rfl, rfl⟩
  · simp only at success
    split at success
    · next isNone =>
      cases success
      exact .inr ⟨rfl, rfl, .inl ⟨isNone, rfl, rfl⟩⟩
    · next id isOwn =>
      obtain ⟨thread, is, owned⟩ := tracked.owned isOwn
      rw [is] at success
      obtain ⟨⟨next, actions⟩, isDestroyed, same⟩ := Option.map_eq_some_iff.mp success
      cases same
      obtain ⟨used, givenUp⟩ := SignalThread.destroyed (tracked.used is) owned isDestroyed
      exact .inr ⟨rfl, rfl, .inr ⟨id, next, actions, isOwn, rfl, rfl, used, givenUp⟩⟩

/-- `Close` keeps track of the resolvers. -/
theorem tracked_close (tracked : physical.Tracked lossless calls)
    (success : physical.close = some (after, more)) : after.Tracked lossless (calls ++ more) := by
  obtain ⟨_, rfl, rfl⟩ | ⟨isNone, _, ⟨_, same, rfl⟩ | ⟨id, next, actions, isOwn, same, rfl, used, _⟩⟩ :=
    close_cases tracked success
  · rwa [List.append_nil]
  · rw [List.append_nil]
    refine ⟨?_, ?_, fun isOwn => absurd (isNone.symm.trans isOwn) (by simp)⟩
    · rw [same]
      exact tracked.used
    · rw [same]
      exact tracked.fresh
  · obtain ⟨thread, is, _⟩ := tracked.owned isOwn
    have bound := (List.getElem?_eq_some_iff.mp is).1
    refine ⟨?_, ?_, fun isOwn => absurd (isNone.symm.trans isOwn) (by simp)⟩
    · rw [same]
      exact used_set tracked bound used
    · intro other unmade
      rw [same, List.length_set] at unmade
      exact fresh_set tracked bound unmade

/-- `Close` leaves no resolver behind that is not given up. -/
theorem cleared_close (tracked : physical.Tracked lossless calls) (cleared : physical.Cleared)
    (success : physical.close = some (after, more)) : after.Cleared ∧ after.resolver = none := by
  obtain ⟨notOpened, rfl, _⟩ |
    ⟨isNone, _, ⟨noOne, same, _⟩ | ⟨id, next, _, isOwn, same, _, _, givenUp⟩⟩ :=
    close_cases tracked success
  · refine ⟨cleared, Option.eq_none_iff_forall_ne_some.mpr fun id isOwn => ?_⟩
    cases notOpened.symm.trans (cleared.opened isOwn)
  · refine ⟨⟨fun isOwn => absurd (isNone.symm.trans isOwn) (by simp), ?_⟩, isNone⟩
    intro whose other isOther _
    rw [same] at isOther
    exact cleared.others isOther (by simp [noOne])
  · refine ⟨⟨fun isOwn => absurd (isNone.symm.trans isOwn) (by simp), ?_⟩, isNone⟩
    intro whose other isOther _
    rw [same] at isOther
    by_cases isSame : id = whose
    · subst isSame
      obtain ⟨thread, is, _⟩ := tracked.owned isOwn
      rw [List.getElem?_set_self (List.getElem?_eq_some_iff.mp is).1] at isOther
      cases isOther
      exact givenUp
    · rw [List.getElem?_set_ne isSame] at isOther
      refine cleared.others isOther fun isWhose => isSame ?_
      exact Option.some.inj (isOwn.symm.trans isWhose)

/-- `DoConnect` leaves the resolver alone. -/
theorem doConnect_resolver {made : Bool} {outcome : ConnectOutcome} :
    (physical.doConnect made outcome).resolver = physical.resolver ∧
      (physical.doConnect made outcome).resolvers = physical.resolvers ∧
        (physical.opened = true → (physical.doConnect made outcome).opened = true) := by
  rw [doConnect]
  split
  · exact ⟨rfl, rfl, fun _ => rfl⟩
  · exact ⟨rfl, rfl, id⟩

/-- The track is of the resolvers only. -/
theorem Tracked.congr (tracked : physical.Tracked lossless calls)
    (resolver : after.resolver = physical.resolver)
    (resolvers : after.resolvers = physical.resolvers) : after.Tracked lossless (calls ++ []) := by
  obtain ⟨used, fresh, owned⟩ := tracked
  rw [List.append_nil]
  refine ⟨?_, ?_, ?_⟩
  · rwa [resolvers]
  · rwa [resolvers]
  · rw [resolver, resolvers]
    exact owned

/-- A closed socket stays without a resolver. -/
theorem Cleared.congr (cleared : physical.Cleared) (resolver : after.resolver = physical.resolver)
    (resolvers : after.resolvers = physical.resolvers)
    (opened : physical.opened = true → after.opened = true) : after.Cleared := by
  obtain ⟨isOpened, others⟩ := cleared
  refine ⟨?_, ?_⟩
  · rw [resolver]
    exact fun isOwn => opened (isOpened isOwn)
  · rw [resolver, resolvers]
    exact others

/-- The socket forgets its resolver when it is deleted. -/
theorem Tracked.forget {here : Bool} (tracked : physical.Tracked lossless calls) :
    Tracked lossless { physical with resolver := none, here := here } calls :=
  ⟨tracked.used, tracked.fresh, fun isOwn => by cases isOwn⟩

/-- `Connect` keeps track of the resolvers. -/
theorem tracked_connect {unresolved refused made : Bool} {outcome : ConnectOutcome}
    (tracked : physical.Tracked lossless calls) (keeps : lossless → refused = false)
    (success : physical.connect unresolved refused made outcome = some (after, more)) :
    after.Tracked lossless (calls ++ more) := by
  rw [connect] at success
  split at success
  · cases success
    exact tracked.congr rfl rfl
  split at success
  · obtain ⟨⟨thread, actions⟩, isStarted, same⟩ := Option.map_eq_some_iff.mp success
    cases same
    obtain ⟨used, owned⟩ := SignalThread.started keeps isStarted
    refine ⟨?_, ?_, ?_⟩
    · intro id other is
      rw [callsOf_append]
      rcases Nat.lt_or_ge id physical.resolvers.length with old | new
      · rw [List.getElem?_append_left old] at is
        rw [callsOf_other (by omega), List.append_nil]
        exact tracked.used is
      · rw [List.getElem?_append_right new, List.getElem?_singleton] at is
        obtain ⟨isFirst, same⟩ := Option.ite_none_right_eq_some.mp is
        obtain rfl : id = physical.resolvers.length := by omega
        cases same
        rwa [tracked.fresh (Nat.le_refl _), List.nil_append, callsOf_own]
    · intro id unmade
      rw [List.length_append, List.length_singleton] at unmade
      rw [callsOf_append, tracked.fresh (by omega), callsOf_other (by omega), List.append_nil]
    · intro id isOwn
      cases isOwn
      exact ⟨thread, List.getElem?_concat_length, owned⟩
  · cases success
    exact tracked.congr doConnect_resolver.1 doConnect_resolver.2.1

/-- `Connect` of an open socket without a resolver leaves none behind. -/
theorem cleared_connect {unresolved refused made : Bool} {outcome : ConnectOutcome}
    (cleared : physical.Cleared) (tidy : physical.Tidy (.connect unresolved refused made outcome))
    (success : physical.connect unresolved refused made outcome = some (after, more)) :
    after.Cleared := by
  rw [connect] at success
  split at success
  · cases success
    exact cleared
  next isClosed =>
  split at success
  · next isUnresolved =>
    obtain ⟨isOpened, noOne⟩ := tidy (Decidable.not_not.mp isClosed) isUnresolved
    obtain ⟨⟨thread, actions⟩, _, same⟩ := Option.map_eq_some_iff.mp success
    cases same
    refine ⟨fun _ => isOpened, ?_⟩
    intro id other isOther differs
    have isOld : id ≠ physical.resolvers.length := fun same => differs (congrArg some same.symm)
    have bound := (List.getElem?_eq_some_iff.mp isOther).1
    rw [List.length_append, List.length_singleton] at bound
    rw [List.getElem?_append_left (by omega)] at isOther
    exact cleared.others isOther (by simp [noOne])
  · cases success
    exact cleared.congr doConnect_resolver.1 doConnect_resolver.2.1 doConnect_resolver.2.2

/-- `OnResolveResult` keeps track of the resolvers. -/
theorem tracked_onResolveResult {id : Nat} {error made : Bool} {outcome : ConnectOutcome}
    (tracked : physical.Tracked lossless calls)
    (success : physical.onResolveResult id error made outcome = some (after, more)) :
    after.Tracked lossless (calls ++ more) := by
  rw [onResolveResult] at success
  split at success
  · cases success
    exact tracked.congr rfl rfl
  split at success
  · exact tracked_close tracked success
  · cases success
    exact tracked.congr doConnect_resolver.1 doConnect_resolver.2.1

/-- `OnResolveResult` gives its resolver up. -/
theorem cleared_onResolveResult {id : Nat} {error made : Bool} {outcome : ConnectOutcome}
    (tracked : physical.Tracked lossless calls) (cleared : physical.Cleared)
    (success : physical.onResolveResult id error made outcome = some (after, more)) :
    after.Cleared := by
  rw [onResolveResult] at success
  split at success
  · cases success
    exact cleared
  split at success
  · exact (cleared_close tracked cleared success).1
  · cases success
    exact cleared.congr doConnect_resolver.1 doConnect_resolver.2.1 doConnect_resolver.2.2

/-- A step of a resolver, and `OnResolveResult` if it ends with the signal. -/
theorem stepResolver_cases {id : Nat} {action : SignalAction} {error made : Bool}
    {outcome : ConnectOutcome}
    (success : physical.stepResolver id action error made outcome = some (after, more)) :
    ∃ thread next events, physical.resolvers[id]? = some thread ∧
      thread.step action = some (next, events) ∧
        ((after = { physical with resolvers := physical.resolvers.set id next } ∧
            more = [⟨id, action⟩]) ∨
          ∃ rest, onResolveResult { physical with resolvers := physical.resolvers.set id next } id
            error made outcome = some (after, rest) ∧ more = ⟨id, action⟩ :: rest) := by
  rw [stepResolver] at success
  split at success
  · cases success
  next thread is =>
  split at success
  · cases success
  next next events isStep =>
  refine ⟨thread, next, events, is, isStep, ?_⟩
  simp only at success
  split at success
  · obtain ⟨⟨last, rest⟩, called, same⟩ := Option.map_eq_some_iff.mp success
    cases same
    exact .inr ⟨rest, called, rfl⟩
  · cases success
    exact .inl ⟨rfl, rfl⟩

/-- A resolver's own step keeps track of the resolvers. -/
theorem tracked_stepped {id : Nat} {thread next : SignalThread} {action : SignalAction}
    {events : List SignalEvent} (tracked : physical.Tracked lossless calls)
    (is : physical.resolvers[id]? = some thread) (isStep : isResolverStep action = true)
    (keeps : lossless → SignalThread.loses action = false)
    (goes : thread.step action = some (next, events)) :
    Tracked lossless { physical with resolvers := physical.resolvers.set id next }
      (calls ++ [⟨id, action⟩]) := by
  have used : thread.Used lossless (callsOf id calls) := tracked.used is
  refine tracked_set tracked is (used.stepResolver isStep keeps goes) fun owned => ?_
  exact SignalThread.owned_stepped used.sound owned isStep (SignalThread.stepped_of_step goes)

/-- No message of a resolver is lost. -/
def keepsMessages : ResolvingAction → Bool
  | .connect _ refused _ _ => !refused
  | .resolver _ action _ _ _ => !SignalThread.loses action
  | _ => true

/-- Every step keeps track of the resolvers. -/
theorem tracked_step {action : ResolvingAction} (tracked : physical.Tracked lossless calls)
    (keeps : lossless → keepsMessages action = true)
    (success : physical.step action = some (after, more)) :
    after.Tracked lossless (calls ++ more) := by
  cases action with
  | create made =>
    obtain ⟨_, success⟩ := Option.ite_none_right_eq_some.mp success
    obtain ⟨⟨closed, closing⟩, isClosed, same⟩ := Option.map_eq_some_iff.mp success
    cases same
    obtain ⟨used, fresh, owned⟩ := tracked_close tracked isClosed
    exact ⟨used, fresh, owned⟩
  | connect unresolved refused made outcome =>
    obtain ⟨_, success⟩ := Option.ite_none_right_eq_some.mp success
    exact tracked_connect tracked (fun is => by simpa [keepsMessages] using keeps is) success
  | close =>
    obtain ⟨_, success⟩ := Option.ite_none_right_eq_some.mp success
    exact tracked_close tracked success
  | delete =>
    obtain ⟨_, success⟩ := Option.ite_none_right_eq_some.mp success
    obtain ⟨⟨closed, closing⟩, isClosed, same⟩ := Option.map_eq_some_iff.mp success
    cases same
    exact (tracked_close tracked isClosed).forget
  | onPreEvent ff =>
    obtain ⟨_, same⟩ := Option.ite_none_right_eq_some.mp success
    cases same
    exact tracked.congr rfl rfl
  | resolver id action error made outcome =>
    obtain ⟨isStep, success⟩ := Option.ite_none_right_eq_some.mp success
    obtain ⟨thread, next, events, is, goes, called⟩ := stepResolver_cases success
    have stepped := tracked_stepped tracked is isStep
      (fun is => by simpa [keepsMessages] using keeps is) goes
    rcases called with ⟨rfl, rfl⟩ | ⟨rest, called, rfl⟩
    · exact stepped
    · have answered := tracked_onResolveResult stepped called
      rwa [List.append_assoc] at answered

/-- Every tidy step leaves no resolver behind that is not given up. -/
theorem cleared_step {action : ResolvingAction} (tracked : physical.Tracked lossless calls)
    (keeps : lossless → keepsMessages action = true) (cleared : physical.Cleared)
    (tidy : physical.Tidy action) (success : physical.step action = some (after, more)) :
    after.Cleared := by
  cases action with
  | create made =>
    obtain ⟨_, success⟩ := Option.ite_none_right_eq_some.mp success
    obtain ⟨⟨closed, closing⟩, isClosed, same⟩ := Option.map_eq_some_iff.mp success
    cases same
    obtain ⟨clearedClosed, noOne⟩ := cleared_close tracked cleared isClosed
    exact ⟨fun isOwn => absurd (noOne.symm.trans isOwn) (by simp), clearedClosed.others⟩
  | connect unresolved refused made outcome =>
    obtain ⟨_, success⟩ := Option.ite_none_right_eq_some.mp success
    exact cleared_connect cleared tidy success
  | close =>
    obtain ⟨_, success⟩ := Option.ite_none_right_eq_some.mp success
    exact (cleared_close tracked cleared success).1
  | delete =>
    obtain ⟨_, success⟩ := Option.ite_none_right_eq_some.mp success
    obtain ⟨⟨closed, closing⟩, isClosed, same⟩ := Option.map_eq_some_iff.mp success
    cases same
    obtain ⟨clearedClosed, noOne⟩ := cleared_close tracked cleared isClosed
    exact clearedClosed.congr noOne.symm rfl id
  | onPreEvent ff =>
    obtain ⟨_, same⟩ := Option.ite_none_right_eq_some.mp success
    cases same
    exact cleared.congr rfl rfl id
  | resolver id action error made outcome =>
    obtain ⟨isStep, success⟩ := Option.ite_none_right_eq_some.mp success
    obtain ⟨thread, next, events, is, goes, called⟩ := stepResolver_cases success
    have stepped := tracked_stepped tracked is isStep
      (fun is => by simpa [keepsMessages] using keeps is) goes
    have clearedStepped := cleared_set cleared is fun givenUp =>
      SignalThread.givenUp_of_isResolverStep isStep givenUp (SignalThread.stepped_of_step goes)
    rcases called with ⟨rfl, _⟩ | ⟨rest, called, _⟩
    · exact clearedStepped
    · exact cleared_onResolveResult stepped clearedStepped called

/-- Without resolvers there is nothing to keep track of. -/
theorem tracked_new : new.Tracked lossless [] where
  used is := by cases is
  fresh _ := rfl
  owned isOwn := by cases isOwn

/-- Without resolvers none is left behind. -/
theorem cleared_new : new.Cleared where
  opened := fun isOwn => by cases isOwn
  others := fun is _ => by cases is

/-- In every run each resolver is used as it relies on: the steps that the run takes with it are
a proper run of its own. The socket's own resolver is there. -/
theorem proper_of_run {actions : List ResolvingAction} {calls : List ResolverCall}
    (run : machine.Run new actions physical calls) :
    (∀ id thread, physical.resolvers[id]? = some thread → ∃ emitted,
      SignalThread.machine.RunWhere SignalThread.Proper .new (callsOf id calls) thread emitted) ∧
    ∀ id, physical.resolver = some id →
      ∃ thread, physical.resolvers[id]? = some thread ∧ thread.deleted = false := by
  have tracked : physical.Tracked False calls := by
    refine run.invariant (fun _ physical calls => physical.Tracked False calls) tracked_new ?_
    intro _ physical calls action after more tracked _ success
    exact tracked_step tracked False.elim success
  refine ⟨fun id thread is => ?_, fun id isOwn => ?_⟩
  · obtain ⟨emitted, run⟩ := (tracked.used is).run
    exact ⟨emitted, run.mono fun _ _ => And.left⟩
  · obtain ⟨thread, is, owned⟩ := tracked.owned isOwn
    exact ⟨thread, is, owned.here⟩

/-- The resolver cannot find the host, and is destroyed while it says so. -/
def unresolvable : List ResolvingAction :=
  [.create true, .connect true false true .inProgress,
    .resolver 0 .endWork true true .failed, .resolver 0 .post true true .failed,
    .resolver 0 .dispatch true true .failed, .resolver 0 .goOn true true .failed,
    .resolver 0 .goOn true true .failed]

/-- The name could not be resolved, and the socket destroys the resolver. -/
theorem proper_of_run_unresolvable :
    ∃ thread emitted, thread.state = .complete ∧ SignalThread.machine.RunWhere SignalThread.Proper
      .new [.start, .goOn, .endWork, .post, .dispatch, .goOn, .goOn, .destroy false] thread
      emitted := by
  have permitted : machine.permits (fun _ _ => true) new unresolvable = true := by decide
  have checked : (machine.exec new unresolvable).any (fun result =>
      decide (result.1.resolvers[0]?.map (·.state) = some .complete ∧
        callsOf 0 result.2 =
          [.start, .goOn, .endWork, .post, .dispatch, .goOn, .goOn, .destroy false])) = true := by
    decide
  obtain ⟨physical, calls, run, check⟩ :=
    Machine.exists_runWhere_of_exec (fun _ _ _ => trivial) permitted checked
  obtain ⟨isComplete, isCalls⟩ := of_decide_eq_true check
  obtain ⟨thread, is, state⟩ := Option.map_eq_some_iff.mp isComplete
  obtain ⟨emitted, calling⟩ := (proper_of_run run).1 0 thread is
  exact ⟨thread, emitted, state, isCalls ▸ calling⟩

/-- A resolver that the socket no longer has comes to its end, if host names are connected to with
a socket and without a resolver. -/
theorem ends_of_run {actions : List ResolvingAction} {calls : List ResolverCall}
    (run : machine.RunWhere (fun physical action =>
      physical.Tidy action ∧ keepsMessages action = true) new actions physical calls)
    {id : Nat} {thread final : SignalThread} (is : physical.resolvers[id]? = some thread)
    (differs : physical.resolver ≠ some id) {more : List SignalAction} {rest : List SignalEvent}
    (going : SignalThread.machine.RunWhere (fun thread action =>
      thread.Proper action ∧ SignalThread.isInternal action = true) thread more final rest) :
    more.length + final.remaining ≤ thread.remaining ∧
      (final.deleted = true ∨ ∃ action, SignalThread.isInternal action = true ∧
        final.Proper action ∧ (final.step action).isSome = true) := by
  have kept : physical.Tracked True calls ∧ physical.Cleared := by
    refine run.invariant (fun _ physical calls => physical.Tracked True calls ∧ physical.Cleared)
      ⟨tracked_new, cleared_new⟩ ?_
    rintro _ physical calls action after more ⟨tracked, cleared⟩ ⟨tidy, keeps⟩ success
    exact ⟨tracked_step tracked (fun _ => keeps) success,
      cleared_step tracked (fun _ => keeps) cleared tidy success⟩
  obtain ⟨tracked, cleared⟩ := kept
  obtain ⟨emitted, calling⟩ := (tracked.used is).run
  obtain ⟨sound, lossless⟩ := SignalThread.lossless_of_run
    (calling.mono fun _ _ allowed => ⟨allowed.1, allowed.2 trivial⟩)
  exact SignalThread.ends_of_givenUp sound lossless (cleared.others is differs) going

/-- The resolver of a name that could not be resolved comes to its end. -/
theorem ends_of_run_unresolvable :
    ∃ thread : SignalThread, thread.state = .complete ∧
      (thread.deleted = true ∨ ∃ action, SignalThread.isInternal action = true ∧
        thread.Proper action ∧ (thread.step action).isSome = true) := by
  have permitted : machine.permits (fun physical action =>
      decide (physical.Tidy action ∧ keepsMessages action = true)) new unresolvable = true := by
    decide
  have checked : (machine.exec new unresolvable).any (fun result =>
      decide (result.1.resolver = none ∧
        result.1.resolvers[0]?.map (·.state) = some .complete)) = true := by decide
  obtain ⟨physical, events, run, check⟩ :=
    Machine.exists_runWhere_of_exec (fun _ _ => of_decide_eq_true) permitted checked
  obtain ⟨noOne, isComplete⟩ := of_decide_eq_true check
  obtain ⟨thread, is, state⟩ := Option.map_eq_some_iff.mp isComplete
  have differs : physical.resolver ≠ some 0 := fun isOwn => by cases noOne.symm.trans isOwn
  exact ⟨thread, state, (ends_of_run run is differs .nil).2⟩

/-- A socket that the other side has closed is connected again: its first resolver is lost. -/
example :
    (machine.exec new [.create true, .connect true false true .inProgress,
      .onPreEvent ⟨false, false, false, true⟩, .connect true false true .inProgress]).any
        (fun result => decide (result.1.resolver = some 1 ∧
          result.1.resolvers[0]?.any (fun thread => decide (¬ thread.state = .stopping)))) = true := by
  decide

end VzSdk.Event.ResolvingSocket
