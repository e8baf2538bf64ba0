import VzSdk.Std.Machine
import VzSdk.Event.AsyncSocket

/-!
# The socket server

`PhysicalSocketServer` on POSIX: the list of dispatchers, and `Wait` with its
two descriptor sets. The steps of `pollMachine` are cut where `crit_` is taken:
between them other threads add and remove dispatchers, and inside a sweep the
event handlers do. The sets are zeroed once for each call of `Wait`. After that
a bit goes only by `select` not reporting it or by the sweep reaching its
dispatcher, which `selectsLive_iff` turns into the exact condition under which
`select` is given no descriptor that nobody asks for.
-/

namespace VzSdk.Event

open VzSdk.Std

/-- `fd_set`. -/
abbrev FdSet := Int → Bool

namespace FdSet

/-- `FD_ZERO`. -/
def zero : FdSet := fun _ => false

/-- `FD_SET`. -/
def set (fds : FdSet) (fd : Int) : FdSet := fun other => other == fd || fds other

/-- `FD_CLR`. -/
def clr (fds : FdSet) (fd : Int) : FdSet := fun other => other != fd && fds other

end FdSet

/-- A `Dispatcher` with what it answers when asked. -/
structure Dispatcher where
  /-- The address of the object. -/
  object : Nat
  /-- `GetDescriptor`. -/
  descriptor : Int
  /-- `GetRequestedEvents`, less the bit `DE_ACCEPT`. -/
  requested : DispatcherEvents
  accept : Bool
deriving DecidableEq, Repr

/-- Requests `DE_READ` or `DE_ACCEPT`. -/
def Dispatcher.reads (dispatcher : Dispatcher) : Bool :=
  dispatcher.requested.read || dispatcher.accept

/-- Requests `DE_WRITE` or `DE_CONNECT`. -/
def Dispatcher.writes (dispatcher : Dispatcher) : Bool :=
  dispatcher.requested.write || dispatcher.requested.connect

/-- What the sweep finds out about one descriptor. -/
structure Readiness where
  readable : Bool
  writable : Bool
  errcode : Int
  /-- `IsDescriptorClosed`. -/
  closed : Bool
deriving DecidableEq, Repr

/-- The events `ff` of the sweep, less `DE_ACCEPT`, and whether that bit is set. -/
def sweptEvents (requested : DispatcherEvents) (accept : Bool) (ready : Readiness) :
    DispatcherEvents × Bool :=
  let failed := ready.errcode != 0
  ({  read := ready.readable && !accept && !(failed || ready.closed)
      write := ready.writable && !requested.connect
      connect := ready.writable && requested.connect && !failed
      close := (ready.readable && !accept && (failed || ready.closed)) ||
        (ready.writable && requested.connect && failed) },
    ready.readable && accept)

/-- What other threads and event handlers do to a socket server. -/
inductive ServerAction where
  | add (dispatcher : Dispatcher)
  | remove (object : Nat)
  /-- A dispatcher answers differently from now on. -/
  | update (dispatcher : Dispatcher)
  /-- `*pf_ = false`. -/
  | stopWaiting
deriving DecidableEq, Repr

/-- What `select` answers; on success the descriptors that are ready. -/
inductive SelectOutcome where
  | interrupted
  | failed
  | timedOut
  | ready (read write : FdSet)

/-- Where the thread stands in `Wait`. -/
inductive PollPhase where
  | outside
  /-- Before the test of `while (fWait_)`. -/
  | turning
  /-- The sets are filled and `select` is called. -/
  | selecting
  /-- In the sweep, before the dispatcher with this index. -/
  | sweeping (index : Nat)
deriving DecidableEq, Repr

/-- `PhysicalSocketServer` with the local variables of `Wait`. -/
structure SocketServer where
  dispatchers : List Dispatcher
  /-- The dispatcher `signal_wakeup_`. -/
  signalWakeup : Nat
  fWait : Bool
  processIo : Bool
  fdsRead : FdSet
  fdsWrite : FdSet
  fdmax : Int
  phase : PollPhase

/-- What happens in a call of `Wait`, and between two calls. -/
inductive PollLabel where
  | call (processIo : Bool)
  /-- Another thread acts. -/
  | elsewhere (action : ServerAction)
  | fill
  | select (outcome : SelectOutcome)
  /-- The sweep reaches a dispatcher, whose handlers act. -/
  | sweep (errcode : Int) (closed : Bool) (handler : List ServerAction)
  /-- The sweep is at its end. -/
  | swept
  /-- `fWait_` is found to be false. -/
  | leave

namespace SocketServer

/-- A server to which only its own signaler has been added. -/
def new (wakeup : Dispatcher) : SocketServer :=
  ⟨[wakeup], wakeup.object, false, false, .zero, .zero, -1, .outside⟩

/-- `PhysicalSocketServer::Add`. -/
def add (server : SocketServer) (dispatcher : Dispatcher) : SocketServer :=
  if server.dispatchers.any (·.object == dispatcher.object) then server
  else { server with dispatchers := server.dispatchers ++ [dispatcher] }

/-- `PhysicalSocketServer::Remove`, for a dispatcher that is there. The index of
a running sweep is not one of `iterators_` and stays as it is. -/
def remove (server : SocketServer) (object : Nat) : Option SocketServer :=
  if server.dispatchers.any (·.object == object) then
    some { server with dispatchers := server.dispatchers.eraseP (·.object == object) }
  else none

/-- An action on the list of dispatchers. -/
def act (server : SocketServer) : ServerAction → Option SocketServer
  | .add dispatcher => some (server.add dispatcher)
  | .remove object => server.remove object
  | .update dispatcher =>
      some { server with
        dispatchers := server.dispatchers.map fun other =>
          if other.object = dispatcher.object then dispatcher else other }
  | .stopWaiting => some { server with fWait := false }

/-- The actions of a handler, one behind the other. -/
def actAll (server : SocketServer) : List ServerAction → Option SocketServer
  | [] => some server
  | action :: actions =>
      match server.act action with
      | none => none
      | some server => server.actAll actions

/-- One turn of the loop that fills the sets. -/
def fillTurn (server : SocketServer) (dispatcher : Dispatcher) : SocketServer :=
  if !server.processIo && dispatcher.object != server.signalWakeup then server
  else
    let fd := dispatcher.descriptor
    { server with
      fdmax := if fd > server.fdmax then fd else server.fdmax
      fdsRead := if dispatcher.reads then server.fdsRead.set fd else server.fdsRead
      fdsWrite := if dispatcher.writes then server.fdsWrite.set fd else server.fdsWrite }

/-- The first loop of a turn, which fills the sets from all dispatchers. -/
def fill (server : SocketServer) : SocketServer :=
  { server.dispatchers.foldl fillTurn { server with fdmax := -1 } with phase := .selecting }

/-- `select`, and the return value of `Wait` where it returns. An interrupted
call leaves the sets as they are, and so does the code behind it. -/
def select (server : SocketServer) : SelectOutcome → SocketServer × List Bool
  | .interrupted => ({ server with phase := .turning }, [])
  | .failed => ({ server with phase := .outside }, [false])
  | .timedOut =>
      ({ server with fdsRead := .zero, fdsWrite := .zero, phase := .outside }, [true])
  | .ready read write =>
      ({ server with
          fdsRead := fun fd => server.fdsRead fd && read fd
          fdsWrite := fun fd => server.fdsWrite fd && write fd
          phase := .sweeping 0 }, [])

/-- One turn of the sweep. Only a dispatcher that is told of an event acts. -/
def sweep (server : SocketServer) (index : Nat) (errcode : Int) (closed : Bool)
    (handler : List ServerAction) : Option SocketServer :=
  match server.dispatchers[index]? with
  | none => none
  | some dispatcher =>
      let fd := dispatcher.descriptor
      let readable := server.fdsRead fd
      let writable := server.fdsWrite fd
      let ff := sweptEvents dispatcher.requested dispatcher.accept
        ⟨readable, writable, errcode, closed⟩
      let server := { server with
        fdsRead := if readable then server.fdsRead.clr fd else server.fdsRead
        fdsWrite := if writable then server.fdsWrite.clr fd else server.fdsWrite
        phase := .sweeping (index + 1) }
      if ff = (.none, false) then if handler = [] then some server else none
      else server.actAll handler

/-- `crit_` is held during a sweep, so others can only change what they answer. -/
def admits (server : SocketServer) : ServerAction → Bool
  | .add _ | .remove _ => match server.phase with
      | .sweeping _ => false
      | _ => true
  | .update _ | .stopWaiting => true

/-- What happens in a step of `Wait`, and what it returns. -/
def step (server : SocketServer) : PollLabel → Option (SocketServer × List Bool)
  | .call processIo =>
      if server.phase = .outside then
        some ({ server with
          processIo := processIo, fdsRead := .zero, fdsWrite := .zero, fWait := true
          phase := .turning }, [])
      else none
  | .elsewhere action =>
      if server.admits action then (server.act action).map fun next => (next, []) else none
  | .fill => if server.phase = .turning ∧ server.fWait = true then some (server.fill, []) else none
  | .select outcome => if server.phase = .selecting then some (server.select outcome) else none
  | .sweep errcode closed handler =>
      match server.phase with
      | .sweeping index => (server.sweep index errcode closed handler).map fun next => (next, [])
      | _ => none
  | .swept =>
      match server.phase with
      | .sweeping index =>
          if server.dispatchers.length ≤ index then some ({ server with phase := .turning }, [])
          else none
      | _ => none
  | .leave =>
      if server.phase = .turning ∧ server.fWait = false then
        some ({ server with phase := .outside }, [true])
      else none

end SocketServer

/-- A thread in and out of `Wait`, among the threads and handlers that change the list.
Its outputs are the return values of `Wait`. -/
def pollMachine : Machine SocketServer PollLabel Bool := ⟨SocketServer.step⟩

/-! ## What the sets hold -/

/-- Descriptors somebody registered reads from, and writes to. -/
def readersOf (dispatchers : List Dispatcher) : FdSet := fun fd =>
  dispatchers.any fun dispatcher => dispatcher.reads && dispatcher.descriptor == fd

/-- The descriptors whose dispatchers wait to write. -/
def writersOf (dispatchers : List Dispatcher) : FdSet := fun fd =>
  dispatchers.any fun dispatcher => dispatcher.writes && dispatcher.descriptor == fd

/-- The dispatchers that a call of `Wait` asks. -/
def SocketServer.asked (server : SocketServer) : List Dispatcher :=
  server.dispatchers.filter fun dispatcher =>
    server.processIo || dispatcher.object == server.signalWakeup

/-- What has been asked of `select` in this call of `Wait`, told by the answers of the
dispatchers and of `select` alone. -/
structure Requests where
  /-- Descriptors that a registered dispatcher requested at the last filling. -/
  filledRead : FdSet
  filledWrite : FdSet
  /-- Descriptors asked for whose dispatcher the sweep has not reached since, and which
  `select`, unless it was interrupted, has reported. -/
  owedRead : FdSet
  owedWrite : FdSet

/-- No descriptor was asked for. -/
def Requests.none : Requests := ⟨.zero, .zero, .zero, .zero⟩

/-- Follow the requests over one step. -/
def Requests.after (requests : Requests) (server : SocketServer) (label : PollLabel)
    (_ : SocketServer) : Requests :=
  match label with
  | .call _ => .none
  | .fill =>
      { filledRead := readersOf server.dispatchers
        filledWrite := writersOf server.dispatchers
        owedRead := fun fd => readersOf server.asked fd || requests.owedRead fd
        owedWrite := fun fd => writersOf server.asked fd || requests.owedWrite fd }
  | .select .timedOut => { requests with owedRead := .zero, owedWrite := .zero }
  | .select (.ready read write) =>
      { requests with
        owedRead := fun fd => requests.owedRead fd && read fd
        owedWrite := fun fd => requests.owedWrite fd && write fd }
  | .sweep _ _ _ =>
      match server.phase with
      | .sweeping index =>
          match server.dispatchers[index]? with
          | some dispatcher =>
              { requests with
                owedRead := requests.owedRead.clr dispatcher.descriptor
                owedWrite := requests.owedWrite.clr dispatcher.descriptor }
          | Option.none => requests
      | _ => requests
  | _ => requests

/-- `pollMachine` with the requests beside it. -/
def requestMachine : Machine (SocketServer × Requests) PollLabel Bool :=
  pollMachine.watch Requests.after

/-- Every descriptor given to `select` was requested by a registered dispatcher when the
sets were filled. -/
def SelectsLive (watched : SocketServer × Requests) : Prop :=
  watched.1.phase = .selecting → ∀ fd,
    (watched.1.fdsRead fd = true → watched.2.filledRead fd = true) ∧
      (watched.1.fdsWrite fd = true → watched.2.filledWrite fd = true)

/-- When the sets are filled again, whatever is still owed is requested again. -/
def StillRequested (watched : SocketServer × Requests) (label : PollLabel) : Prop :=
  label = .fill → ∀ fd,
    (watched.2.owedRead fd = true → readersOf watched.1.dispatchers fd = true) ∧
      (watched.2.owedWrite fd = true → writersOf watched.1.dispatchers fd = true)

/-- The sets hold exactly what is owed. -/
def HoldsOwed (watched : SocketServer × Requests) : Prop :=
  watched.1.fdsRead = watched.2.owedRead ∧ watched.1.fdsWrite = watched.2.owedWrite

namespace SocketServer

/-- An action changes neither the sets nor the place in `Wait`. -/
theorem act_frame {server next : SocketServer} {action : ServerAction}
    (success : server.act action = some next) :
    next.fdsRead = server.fdsRead ∧ next.fdsWrite = server.fdsWrite ∧ next.phase = server.phase := by
  cases action with
  | add dispatcher =>
      cases success
      unfold add
      split <;> exact ⟨rfl, rfl, rfl⟩
  | remove object =>
      simp only [act, remove] at success
      split at success
      · cases success
        exact ⟨rfl, rfl, rfl⟩
      · cases success
  | update dispatcher | stopWaiting =>
      cases success
      exact ⟨rfl, rfl, rfl⟩

/-- What a handler does leaves the sets alone. -/
theorem actAll_frame {server next : SocketServer} {actions : List ServerAction}
    (success : server.actAll actions = some next) :
    next.fdsRead = server.fdsRead ∧ next.fdsWrite = server.fdsWrite ∧ next.phase = server.phase := by
  induction actions generalizing server with
  | nil =>
      cases success
      exact ⟨rfl, rfl, rfl⟩
  | cons action actions inductionHypothesis =>
      unfold actAll at success
      split at success
      · cases success
      · next middle first =>
          obtain ⟨read, write, phase⟩ := act_frame first
          rw [← read, ← write, ← phase]
          exact inductionHypothesis success

/-- The first loop adds to the sets what the dispatchers wait for. -/
theorem foldl_fillTurn (server : SocketServer) (dispatchers : List Dispatcher) :
    (dispatchers.foldl fillTurn server).fdsRead = (fun fd =>
        readersOf (dispatchers.filter fun dispatcher =>
          server.processIo || dispatcher.object == server.signalWakeup) fd || server.fdsRead fd) ∧
      (dispatchers.foldl fillTurn server).fdsWrite = fun fd =>
        writersOf (dispatchers.filter fun dispatcher =>
          server.processIo || dispatcher.object == server.signalWakeup) fd || server.fdsWrite fd := by
  induction dispatchers generalizing server with
  | nil => exact ⟨rfl, rfl⟩
  | cons dispatcher dispatchers inductionHypothesis =>
      obtain ⟨read, write⟩ := inductionHypothesis (server.fillTurn dispatcher)
      rw [List.foldl_cons, read, write]
      unfold fillTurn
      by_cases skipped : (!server.processIo && dispatcher.object != server.signalWakeup) = true
      · rw [if_pos skipped, List.filter_cons_of_neg (by revert skipped; simp +contextual)]
        exact ⟨rfl, rfl⟩
      · rw [if_neg skipped, List.filter_cons_of_pos (by revert skipped; simp; grind)]
        have same (fd : Int) : (fd == dispatcher.descriptor) = (dispatcher.descriptor == fd) :=
          BEq.comm
        constructor <;> funext fd
        · cases reads : dispatcher.reads with
          | false => simp [readersOf, reads]
          | true => simp [readersOf, FdSet.set, reads, same, Bool.or_left_comm, Bool.or_assoc]
        · cases writes : dispatcher.writes with
          | false => simp [writersOf, writes]
          | true => simp [writersOf, FdSet.set, writes, same, Bool.or_left_comm, Bool.or_assoc]

/-- Filling adds what is asked, and clears nothing. -/
theorem fill_sets (server : SocketServer) :
    server.fill.fdsRead = (fun fd => readersOf server.asked fd || server.fdsRead fd) ∧
      server.fill.fdsWrite = fun fd => writersOf server.asked fd || server.fdsWrite fd :=
  foldl_fillTurn { server with fdmax := -1 } server.dispatchers

/-- Clearing a bit that is not set changes nothing. -/
theorem clr_if (fds : FdSet) (fd : Int) : (if fds fd = true then fds.clr fd else fds) = fds.clr fd := by
  split
  · rfl
  · next unset =>
      funext other
      by_cases same : other = fd <;> simp_all [FdSet.clr]

/-- A turn of the sweep clears the bits of its dispatcher, whatever the handlers do. -/
theorem sweep_sets {server next : SocketServer} {index : Nat} {errcode : Int} {closed : Bool}
    {handler : List ServerAction} (success : server.sweep index errcode closed handler = some next) :
    ∃ dispatcher, server.dispatchers[index]? = some dispatcher ∧
      next.fdsRead = server.fdsRead.clr dispatcher.descriptor ∧
      next.fdsWrite = server.fdsWrite.clr dispatcher.descriptor ∧
      next.phase = .sweeping (index + 1) := by
  unfold sweep at success
  split at success
  · cases success
  · next dispatcher present =>
      simp only [clr_if] at success
      refine ⟨dispatcher, present, ?_⟩
      split at success
      · split at success
        · cases success
          exact ⟨rfl, rfl, rfl⟩
        · cases success
      · exact actAll_frame success

end SocketServer

/-- What a step does to the sets and to the place in `Wait`. -/
inductive SetsStep (server : SocketServer) : PollLabel → SocketServer → Prop where
  | called {next : SocketServer} (processIo : Bool) (read : next.fdsRead = .zero)
      (write : next.fdsWrite = .zero) (phase : next.phase = .turning) :
      SetsStep server (.call processIo) next
  | filled : SetsStep server .fill server.fill
  | selected (outcome : SelectOutcome) : SetsStep server (.select outcome) (server.select outcome).1
  | reached {next : SocketServer} (errcode : Int) (closed : Bool) (handler : List ServerAction)
      {index : Nat} (sweeping : server.phase = .sweeping index) {dispatcher : Dispatcher}
      (present : server.dispatchers[index]? = some dispatcher)
      (read : next.fdsRead = server.fdsRead.clr dispatcher.descriptor)
      (write : next.fdsWrite = server.fdsWrite.clr dispatcher.descriptor)
      (phase : next.phase = .sweeping (index + 1)) :
      SetsStep server (.sweep errcode closed handler) next
  | acted {next : SocketServer} (action : ServerAction) (read : next.fdsRead = server.fdsRead)
      (write : next.fdsWrite = server.fdsWrite) (phase : next.phase = server.phase) :
      SetsStep server (.elsewhere action) next
  | swept : SetsStep server .swept { server with phase := .turning }
  | left : SetsStep server .leave { server with phase := .outside }

/-- What a step does to the sets. -/
theorem sets_step {server next : SocketServer} {label : PollLabel} {emitted : List Bool}
    (transition : server.step label = some (next, emitted)) : SetsStep server label next := by
  cases label with
  | call processIo =>
      simp only [SocketServer.step] at transition
      split at transition
      · cases transition
        exact .called processIo rfl rfl rfl
      · cases transition
  | elsewhere action =>
      simp only [SocketServer.step] at transition
      split at transition
      · obtain ⟨acted, success, same⟩ := Option.map_eq_some_iff.mp transition
        cases same
        obtain ⟨sameRead, sameWrite, samePhase⟩ := SocketServer.act_frame success
        exact .acted action sameRead sameWrite samePhase
      · cases transition
  | fill =>
      simp only [SocketServer.step] at transition
      split at transition
      · cases transition
        exact .filled
      · cases transition
  | select outcome =>
      simp only [SocketServer.step] at transition
      split at transition
      · rw [(Prod.mk.inj (Option.some.inj transition)).1.symm]
        exact .selected outcome
      · cases transition
  | sweep errcode closed handler =>
      simp only [SocketServer.step] at transition
      split at transition
      · next index sweeping =>
          obtain ⟨reached, success, same⟩ := Option.map_eq_some_iff.mp transition
          cases same
          obtain ⟨dispatcher, present, read, write, phase⟩ := SocketServer.sweep_sets success
          exact .reached errcode closed handler sweeping present read write phase
      · cases transition
  | swept =>
      simp only [SocketServer.step] at transition
      split at transition
      · split at transition
        · cases transition
          exact .swept
        · cases transition
      · cases transition
  | leave =>
      simp only [SocketServer.step] at transition
      split at transition
      · cases transition
        exact .left
      · cases transition

/-- The sets keep what is owed to them. -/
theorem HoldsOwed.after {server next : SocketServer} {requests : Requests} {label : PollLabel}
    (holds : HoldsOwed (server, requests)) (step : SetsStep server label next) :
    HoldsOwed (next, requests.after server label next) := by
  obtain ⟨read, write⟩ := holds
  simp only at read write
  cases step with
  | called processIo isRead isWrite => exact ⟨isRead, isWrite⟩
  | filled =>
      obtain ⟨filledRead, filledWrite⟩ := SocketServer.fill_sets server
      refine ⟨filledRead.trans ?_, filledWrite.trans ?_⟩
      · rw [read]
        rfl
      · rw [write]
        rfl
  | selected outcome =>
      cases outcome with
      | interrupted | failed => exact ⟨read, write⟩
      | timedOut => exact ⟨rfl, rfl⟩
      | ready readable writable =>
          simp only [HoldsOwed, SocketServer.select, Requests.after, read, write, and_self]
  | reached errcode closed handler sweeping present isRead isWrite =>
      simp only [HoldsOwed, Requests.after, sweeping, present, isRead, isWrite, read, write,
        and_self]
  | acted action isRead isWrite => exact ⟨isRead.trans read, isWrite.trans write⟩
  | swept | left => exact ⟨read, write⟩

/-- Whatever is asked is requested by a registered dispatcher. -/
theorem SocketServer.asked_subset (server : SocketServer) (fd : Int) :
    (readersOf server.asked fd = true → readersOf server.dispatchers fd = true) ∧
      (writersOf server.asked fd = true → writersOf server.dispatchers fd = true) := by
  simp only [readersOf, writersOf, asked, List.any_eq_true]
  exact ⟨fun ⟨dispatcher, member, isReader⟩ =>
      ⟨dispatcher, (List.mem_filter.mp member).1, isReader⟩,
    fun ⟨dispatcher, member, isWriter⟩ =>
      ⟨dispatcher, (List.mem_filter.mp member).1, isWriter⟩⟩

/-- The filled sets ask for live sockets only when what is owed is still requested. -/
theorem selectsLive_fill {server : SocketServer} {requests : Requests}
    (holds : HoldsOwed (server, requests)) :
    SelectsLive (server.fill, requests.after server .fill server.fill) ↔
      StillRequested (server, requests) .fill := by
  obtain ⟨read, write⟩ := holds
  obtain ⟨filledRead, filledWrite⟩ := SocketServer.fill_sets server
  simp only at read write
  simp only [SelectsLive, StillRequested, Requests.after, filledRead, filledWrite, read, write,
    Bool.or_eq_true, true_imp_iff]
  constructor
  · intro live fd
    obtain ⟨liveRead, liveWrite⟩ := live rfl fd
    exact ⟨fun owed => liveRead (.inr owed), fun owed => liveWrite (.inr owed)⟩
  · intro requested _ fd
    obtain ⟨askedRead, askedWrite⟩ := server.asked_subset fd
    exact ⟨fun set => set.elim askedRead (requested fd).1,
      fun set => set.elim askedWrite (requested fd).2⟩

/-- In every run the sets hold what is owed to them. -/
theorem holdsOwed_of_run {first final : SocketServer × Requests} {labels : List PollLabel}
    {outputs : List Bool} (initial : HoldsOwed first)
    (run : requestMachine.Run first labels final outputs) : HoldsOwed final := by
  refine run.invariant (fun _ watched _ => HoldsOwed watched) initial ?_
  rintro labels ⟨server, requests⟩ outputs label ⟨next, after⟩ emitted holds _ transition
  obtain ⟨step, noted⟩ := Machine.step_of_watch transition
  simp only at step noted
  subst noted
  exact holds.after (sets_step step)

/-- Only a refill can give `select` a descriptor that is not requested. -/
theorem selectsLive_step {watched next : SocketServer × Requests} {label : PollLabel}
    {emitted : List Bool} (holds : HoldsOwed watched) (live : SelectsLive watched)
    (transition : requestMachine.step watched label = some (next, emitted)) :
    SelectsLive next ↔ StillRequested watched label := by
  obtain ⟨server, requests⟩ := watched
  obtain ⟨next, after⟩ := next
  obtain ⟨step, noted⟩ := Machine.step_of_watch transition
  simp only at step noted
  subst noted
  cases sets_step step with
  | filled => exact selectsLive_fill holds
  | acted action read write phase =>
      refine ⟨fun _ fill => (by cases fill), fun _ selecting fd => ?_⟩
      have sofar := live (phase ▸ selecting) fd
      rwa [← read, ← write] at sofar
  | called processIo read write phase =>
      refine ⟨fun _ fill => (by cases fill), fun _ selecting => ?_⟩
      rw [phase] at selecting
      cases selecting
  | selected outcome =>
      refine ⟨fun _ fill => (by cases fill), fun _ selecting => ?_⟩
      cases outcome <;> cases selecting
  | reached errcode closed handler sweeping present read write phase =>
      refine ⟨fun _ fill => (by cases fill), fun _ selecting => ?_⟩
      rw [phase] at selecting
      cases selecting
  | swept | left =>
      exact ⟨fun _ fill => (by cases fill), fun _ selecting => by cases selecting⟩

/-- `select` is only given live descriptors exactly when, at every refill of the sets within
a call of `Wait`, each descriptor that an earlier turn asked for, that `select` reported or
was interrupted over, and whose dispatcher the sweep did not reach, is requested again. -/
theorem selectsLive_iff (wakeup : Dispatcher) {labels : List PollLabel}
    {final : SocketServer × Requests} {outputs : List Bool}
    (run : requestMachine.Run (SocketServer.new wakeup, .none) labels final outputs) :
    requestMachine.Throughout SelectsLive (SocketServer.new wakeup, .none) labels final outputs ↔
      requestMachine.RunWhere StillRequested (SocketServer.new wakeup, .none) labels final
        outputs := by
  refine Machine.RunWhere.throughout_iff SelectsLive (fun selecting => by cases selecting) ?_ run
    (fun _ _ => trivial)
  intro labels watched outputs label next emitted prior live _ transition
  have holds : HoldsOwed watched := holdsOwed_of_run ⟨rfl, rfl⟩ prior
  exact selectsLive_step holds live transition

/-! ## A list that only grows during `Wait` -/

/-- The action takes no request back. -/
def ServerAction.grows : ServerAction → Bool
  | .add _ | .stopWaiting => true
  | .remove _ | .update _ => false

/-- While the thread is in `Wait`, no dispatcher is removed and none changes its mind. -/
def undisturbed (watched : SocketServer × Requests) : PollLabel → Bool
  | .elsewhere action => action.grows || watched.1.phase == .outside
  | .sweep _ _ handler => handler.all ServerAction.grows
  | _ => true

/-- Whatever is owed is requested at this moment. -/
def OwedRequested (server : SocketServer) (requests : Requests) : Prop :=
  ∀ fd, (requests.owedRead fd = true → readersOf server.dispatchers fd = true) ∧
    (requests.owedWrite fd = true → writersOf server.dispatchers fd = true)

/-- What is owed stays requested while the list grows. -/
theorem OwedRequested.mono {server next : SocketServer} {requests after : Requests}
    (holds : OwedRequested server requests)
    (grown : server.dispatchers ⊆ next.dispatchers)
    (fewer : ∀ fd, (after.owedRead fd = true → requests.owedRead fd = true) ∧
      (after.owedWrite fd = true → requests.owedWrite fd = true)) : OwedRequested next after := by
  intro fd
  have requested := holds fd
  simp only [readersOf, writersOf, List.any_eq_true] at requested ⊢
  refine ⟨fun owed => ?_, fun owed => ?_⟩
  · obtain ⟨dispatcher, member, isReader⟩ := requested.1 ((fewer fd).1 owed)
    exact ⟨dispatcher, grown member, isReader⟩
  · obtain ⟨dispatcher, member, isWriter⟩ := requested.2 ((fewer fd).2 owed)
    exact ⟨dispatcher, grown member, isWriter⟩

namespace SocketServer

/-- A growing action loses no dispatcher. -/
theorem act_grows {server next : SocketServer} {action : ServerAction} (grows : action.grows = true)
    (success : server.act action = some next) : server.dispatchers ⊆ next.dispatchers := by
  cases action with
  | add dispatcher =>
      cases success
      unfold add
      split
      · exact fun _ member => member
      · exact List.subset_append_left _ _
  | stopWaiting =>
      cases success
      exact fun _ member => member
  | remove | update => cases grows

/-- Growing actions lose no dispatcher. -/
theorem actAll_grows {server next : SocketServer} {actions : List ServerAction}
    (grow : actions.all ServerAction.grows = true) (success : server.actAll actions = some next) :
    server.dispatchers ⊆ next.dispatchers := by
  induction actions generalizing server with
  | nil =>
      cases success
      exact fun _ member => member
  | cons action actions inductionHypothesis =>
      simp only [List.all_cons, Bool.and_eq_true] at grow
      unfold actAll at success
      split at success
      · cases success
      · next middle first =>
          exact List.Subset.trans (act_grows grow.1 first) (inductionHypothesis grow.2 success)

/-- A turn of the second loop whose handler only adds loses no dispatcher. -/
theorem sweep_grows {server next : SocketServer} {index : Nat} {errcode : Int} {closed : Bool}
    {handler : List ServerAction} (grow : handler.all ServerAction.grows = true)
    (success : server.sweep index errcode closed handler = some next) :
    server.dispatchers ⊆ next.dispatchers := by
  unfold sweep at success
  split at success
  · cases success
  · simp only at success
    split at success
    · split at success
      · cases success
        exact fun _ member => member
      · cases success
    · exact fun _ member => actAll_grows grow success member

/-- The first loop leaves the list alone. -/
theorem dispatchers_fill (server : SocketServer) : server.fill.dispatchers = server.dispatchers := by
  have kept : ∀ (dispatchers : List Dispatcher) (server : SocketServer),
      (dispatchers.foldl fillTurn server).dispatchers = server.dispatchers := by
    intro dispatchers
    induction dispatchers with
    | nil => exact fun _ => rfl
    | cons dispatcher dispatchers inductionHypothesis =>
        intro server
        rw [List.foldl_cons, inductionHypothesis]
        unfold fillTurn
        split <;> rfl
  exact kept server.dispatchers { server with fdmax := -1 }

end SocketServer

/-- While a thread waits and nobody takes a request back, whatever is owed stays requested. -/
theorem owedRequested_step {server next : SocketServer} {requests : Requests} {label : PollLabel}
    {emitted : List Bool} (holds : server.phase ≠ .outside → OwedRequested server requests)
    (calm : undisturbed (server, requests) label = true)
    (transition : server.step label = some (next, emitted)) :
    StillRequested (server, requests) label ∧
      (next.phase ≠ .outside → OwedRequested next (requests.after server label next)) := by
  cases label with
  | call processIo =>
      refine ⟨fun fill => (by cases fill), fun _ fd => ⟨?_, ?_⟩⟩ <;> exact fun owed => by cases owed
  | elsewhere action =>
      refine ⟨fun fill => (by cases fill), fun waits => ?_⟩
      simp only [SocketServer.step] at transition
      split at transition
      · obtain ⟨acted, success, same⟩ := Option.map_eq_some_iff.mp transition
        cases same
        rw [(SocketServer.act_frame success).2.2] at waits
        have grows : action.grows = true := by simpa [undisturbed, waits] using calm
        exact (holds waits).mono (SocketServer.act_grows grows success) fun _ => ⟨id, id⟩
      · cases transition
  | fill =>
      simp only [SocketServer.step] at transition
      split at transition
      · next turning =>
          have owed := holds (by simp [turning.1])
          cases transition
          refine ⟨fun _ => owed, fun _ fd => ?_⟩
          obtain ⟨askedRead, askedWrite⟩ := server.asked_subset fd
          rw [SocketServer.dispatchers_fill]
          simp only [Requests.after, Bool.or_eq_true]
          exact ⟨fun set => set.elim askedRead (owed fd).1,
            fun set => set.elim askedWrite (owed fd).2⟩
      · cases transition
  | select outcome =>
      refine ⟨fun fill => (by cases fill), fun _ => ?_⟩
      simp only [SocketServer.step] at transition
      split at transition
      · next selecting =>
          have owed := holds (by simp [selecting])
          rw [(Prod.mk.inj (Option.some.inj transition)).1.symm]
          cases outcome with
          | interrupted | failed => exact owed.mono (fun _ member => member) fun _ => ⟨id, id⟩
          | timedOut =>
              exact owed.mono (fun _ member => member) fun _ =>
                ⟨fun owes => (by cases owes), fun owes => by cases owes⟩
          | ready read write =>
              exact owed.mono (fun _ member => member) fun _ =>
                ⟨fun owes => (Bool.and_eq_true_iff.mp owes).1,
                  fun owes => (Bool.and_eq_true_iff.mp owes).1⟩
      · cases transition
  | sweep errcode closed handler =>
      refine ⟨fun fill => (by cases fill), fun _ => ?_⟩
      simp only [SocketServer.step] at transition
      split at transition
      · next index sweeping =>
          have owed := holds (by simp [sweeping])
          obtain ⟨reached, success, same⟩ := Option.map_eq_some_iff.mp transition
          cases same
          obtain ⟨dispatcher, present, _⟩ := SocketServer.sweep_sets success
          refine owed.mono (SocketServer.sweep_grows calm success) fun fd => ?_
          simp only [Requests.after, sweeping, present, FdSet.clr, Bool.and_eq_true]
          exact ⟨And.right, And.right⟩
      · cases transition
  | swept =>
      refine ⟨fun fill => (by cases fill), fun _ => ?_⟩
      simp only [SocketServer.step] at transition
      split at transition
      · next index sweeping =>
          split at transition
          · cases transition
            exact holds (by simp [sweeping])
          · cases transition
      · cases transition
  | leave =>
      refine ⟨fun fill => (by cases fill), fun waits => ?_⟩
      simp only [SocketServer.step] at transition
      split at transition
      · cases transition
        exact absurd rfl waits
      · cases transition

/-- A list that only grows while the thread is in `Wait` gives `select` no stale descriptor. -/
theorem stillRequested_of_undisturbed (wakeup : Dispatcher) {labels : List PollLabel}
    {final : SocketServer × Requests} {outputs : List Bool}
    (run : requestMachine.RunWhere (fun watched label => undisturbed watched label = true)
      (SocketServer.new wakeup, .none) labels final outputs) :
    requestMachine.RunWhere StillRequested (SocketServer.new wakeup, .none) labels final outputs := by
  refine (run.upgrade (fun watched =>
    watched.1.phase ≠ .outside → OwedRequested watched.1 watched.2)
    (fun waits => absurd rfl waits) ?_).1
  rintro ⟨server, requests⟩ label ⟨next, after⟩ emitted holds calm transition
  obtain ⟨step, noted⟩ := Machine.step_of_watch transition
  simp only at step noted
  subst noted
  exact owedRequested_step holds calm step

/-- The signaler, and two devices' sockets that wait for data. -/
def wakeupPipe : Dispatcher := ⟨0, 3, ⟨true, false, false, false⟩, false⟩

/-- A socket that waits to read. -/
def firstSocket : Dispatcher := ⟨1, 5, ⟨true, false, false, false⟩, false⟩

/-- Another socket that waits to read. -/
def secondSocket : Dispatcher := ⟨2, 6, ⟨true, false, false, false⟩, false⟩

/-- Both sockets are readable, and the handler of the first does `handler`. -/
def twoReadable (handler : List ServerAction) : List PollLabel :=
  [.elsewhere (.add firstSocket), .elsewhere (.add secondSocket), .call true, .fill,
    .select (.ready (fun fd => fd == 5 || fd == 6) .zero), .sweep 0 false [], .sweep 0 false handler]

/-- The handlers leave the list alone, and the next turn asks for the same descriptors. -/
theorem selectsLive_two_readable :
    ∃ final outputs, requestMachine.Run (SocketServer.new wakeupPipe, .none)
        (twoReadable [] ++ [.sweep 0 false [], .swept, .fill]) final outputs ∧
      final.1.phase = .selecting ∧
      requestMachine.Throughout SelectsLive (SocketServer.new wakeupPipe, .none)
        (twoReadable [] ++ [.sweep 0 false [], .swept, .fill]) final outputs := by
  have permitted : requestMachine.permits undisturbed (SocketServer.new wakeupPipe, .none)
      (twoReadable [] ++ [.sweep 0 false [], .swept, .fill]) = true := by decide +kernel
  have checked : (requestMachine.exec (SocketServer.new wakeupPipe, .none)
      (twoReadable [] ++ [.sweep 0 false [], .swept, .fill])).any fun result =>
        result.1.1.phase == .selecting := by decide +kernel
  obtain ⟨final, outputs, run, selecting⟩ :=
    Machine.exists_runWhere_of_exec (fun _ _ calm => calm) permitted checked
  exact ⟨final, outputs, run.run, by simpa using selecting,
    (selectsLive_iff wakeupPipe run.run).mpr (stillRequested_of_undisturbed wakeupPipe run)⟩

/-- The first socket's handler closes the second one before the sweep reaches it. -/
theorem select_given_closed_descriptor :
    ∃ final outputs, requestMachine.Run (SocketServer.new wakeupPipe, .none)
        (twoReadable [.remove 2] ++ [.swept, .fill]) final outputs ∧
      final.1.phase = .selecting ∧ final.1.fdsRead 6 = true ∧
      (final.1.dispatchers.all fun dispatcher => dispatcher.descriptor != 6) = true ∧
      ¬SelectsLive final := by
  have checked : (requestMachine.exec (SocketServer.new wakeupPipe, .none)
      (twoReadable [.remove 2] ++ [.swept, .fill])).any fun result =>
        result.1.1.phase == .selecting && result.1.1.fdsRead 6 &&
          (result.1.1.dispatchers.all fun dispatcher => dispatcher.descriptor != 6) &&
          !result.1.2.filledRead 6 := by decide +kernel
  obtain ⟨final, outputs, run, checked⟩ := Machine.exists_run_of_exec checked
  simp only [Bool.and_eq_true, beq_iff_eq, Bool.not_eq_true'] at checked
  obtain ⟨⟨⟨selecting, stale⟩, closed⟩, unrequested⟩ := checked
  refine ⟨_, _, run, selecting, stale, closed, fun live => ?_⟩
  have requested := (live selecting 6).1 stale
  rw [unrequested] at requested
  cases requested

end VzSdk.Event
