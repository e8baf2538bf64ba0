import VzSdk.Base.SigSlot

/-!
# What signals and slots know of each other

`Linked` says that a signal's connections and its receivers' sets of senders agree,
`Going` what an emission has called so far. Every call of a member keeps both, from
whatever slot it is made, as long as the run is proper; taking links off, on either
side, is one operation, `unlink`.
-/

namespace VzSdk.Base

open VzSdk.Std

namespace SigSlot

variable (state : SigSlot)

/-- Whoever is connected knows of it. `pending` are the pairs that are told later. -/
structure Linked (pending : Nat → Nat → Prop) : Prop where
  fault : state.fault = false
  told : ∀ {signal connections}, state.connected signal = some connections →
    ∀ connection ∈ connections, ∃ senders, state.senders connection.dest = some senders ∧
      (signal ∈ senders ∨ pending signal connection.dest)
  connected : ∀ {dest senders}, state.senders dest = some senders → ∀ signal ∈ senders,
    ∃ connections, state.connected signal = some connections ∧
      ∃ connection ∈ connections, connection.dest = dest
  sorted : ∀ {signal connections}, state.connected signal = some connections →
    connections.Pairwise (·.id < ·.id)
  below : ∀ {signal connections}, state.connected signal = some connections →
    ∀ connection ∈ connections, connection.id < state.next

end SigSlot

/-- What an emission over these connections has done so far. -/
structure Going (connections : List Connection) (next : Nat) (emission : Emission) : Prop where
  itNext : ∀ {id}, emission.itNext = some id → ∃ connection ∈ connections, connection.id = id
  order : emission.called.Pairwise (· < ·)
  ahead : ∀ {id}, emission.itNext = some id → ∀ called ∈ emission.called, called < id
  reached : ∀ connection ∈ connections, connection.id ∈ emission.started →
    (∀ id, emission.itNext = some id → connection.id < id) → connection.id ∈ emission.called
  below : ∀ id ∈ emission.started, id < next

/-- A connection of a list with increasing numbers is found by its number. -/
theorem find?_of_sorted {connections : List Connection} {connection : Connection}
    (sorted : connections.Pairwise (·.id < ·.id)) (isIn : connection ∈ connections) :
    connections.find? (·.id = connection.id) = some connection := by
  obtain ⟨front, back, rfl⟩ := List.append_of_mem isIn
  have apart : ∀ other ∈ front, other.id < connection.id := fun other isOther =>
    (List.pairwise_append.mp sorted).2.2 other isOther connection List.mem_cons_self
  rw [List.find?_append, List.find?_eq_none.mpr, Option.none_or, List.find?_cons_of_pos]
  · exact decide_eq_true rfl
  · intro other isOther same
    exact absurd (of_decide_eq_true same) (Nat.ne_of_lt (apart other isOther))

/-- An emission goes on when connections are taken off that it does not go to next. -/
theorem Going.filter {connections : List Connection} {next : Nat} {emission : Emission}
    {stays : Connection → Bool} (going : Going connections next emission)
    (keeps : ∀ connection ∈ connections, emission.itNext = some connection.id →
      stays connection = true) : Going (connections.filter stays) next emission where
  itNext := by
    intro id isNext
    obtain ⟨connection, isIn, rfl⟩ := going.itNext isNext
    exact ⟨connection, List.mem_filter.mpr ⟨isIn, keeps connection isIn isNext⟩, rfl⟩
  order := going.order
  ahead := going.ahead
  reached := fun connection isIn => going.reached connection (List.mem_filter.mp isIn).1
  below := going.below

/-- A connection that comes later is none that the emission began with. -/
theorem Going.append {connections : List Connection} {next : Nat} {emission : Emission}
    {dest slot : Nat} (going : Going connections next emission) :
    Going (connections ++ [⟨next, dest, slot⟩]) (next + 1) emission where
  itNext := by
    intro id isNext
    obtain ⟨connection, isIn, same⟩ := going.itNext isNext
    exact ⟨connection, List.mem_append_left _ isIn, same⟩
  order := going.order
  ahead := going.ahead
  reached := by
    intro connection isIn isStarted before
    rcases List.mem_append.mp isIn with isIn | isLast
    · exact going.reached connection isIn isStarted before
    · rw [List.mem_singleton.mp isLast] at isStarted
      exact absurd (going.below next isStarted) (Nat.lt_irrefl next)
  below := fun id isIn => Nat.lt_succ_of_lt (going.below id isIn)

/-- A new number disturbs no emission. -/
theorem Going.later {connections : List Connection} {next : Nat} {emission : Emission}
    (going : Going connections next emission) : Going connections (next + 1) emission :=
  ⟨going.itNext, going.order, going.ahead, going.reached, fun id isIn =>
    Nat.lt_succ_of_lt (going.below id isIn)⟩

/-- The call of a connection, all before it being called. -/
theorem Going.advance {front back : List Connection} {connection : Connection} {next : Nat}
    {emission : Emission} (sorted : (front ++ connection :: back).Pairwise (·.id < ·.id))
    (order : emission.called.Pairwise (· < ·)) (ahead : ∀ id ∈ emission.called, id < connection.id)
    (reached : ∀ other ∈ front, other.id ∈ emission.started → other.id ∈ emission.called)
    (below : ∀ id ∈ emission.started, id < next) :
    Going (front ++ connection :: back) next
      { emission with
        itNext := back.head?.map (·.id), called := emission.called ++ [connection.id] } := by
  obtain ⟨_, behind, _⟩ := List.pairwise_append.mp sorted
  obtain ⟨greater, sortedBack⟩ := List.pairwise_cons.mp behind
  have isNext {id : Nat} (is : back.head?.map (·.id) = some id) :
      ∃ other rest, back = other :: rest ∧ other.id = id := by
    cases back with
    | nil => cases is
    | cons other rest => exact ⟨other, rest, rfl, Option.some.inj is⟩
  refine ⟨?_, ?_, ?_, ?_, below⟩
  · intro id is
    obtain ⟨other, rest, rfl, same⟩ := isNext is
    exact ⟨other, List.mem_append_right _ (List.mem_cons_of_mem _ List.mem_cons_self), same⟩
  · refine List.pairwise_append.mpr ⟨order, List.pairwise_singleton .., ?_⟩
    intro id isIn last isLast
    rw [List.mem_singleton.mp isLast]
    exact ahead id isIn
  · intro id is called isCalled
    obtain ⟨other, rest, rfl, rfl⟩ := isNext is
    have greater : connection.id < other.id := greater other List.mem_cons_self
    rcases List.mem_append.mp isCalled with before | isLast
    · exact Nat.lt_trans (ahead called before) greater
    · rwa [List.mem_singleton.mp isLast]
  · intro other isOther isStarted before
    rcases List.mem_append.mp isOther with isFront | isOther
    · exact List.mem_append_left _ (reached other isFront isStarted)
    rcases List.mem_cons.mp isOther with rfl | isBack
    · exact List.mem_append_right _ List.mem_cons_self
    · obtain ⟨first, rest, rfl⟩ := List.exists_cons_of_ne_nil (List.ne_nil_of_mem isBack)
      have less : other.id < first.id := before first.id rfl
      rcases List.mem_cons.mp isBack with rfl | isRest
      · exact absurd less (Nat.lt_irrefl _)
      · have more := (List.pairwise_cons.mp sortedBack).1 other isRest
        omega

/-- The iterator moves on to the connection behind. -/
theorem itNext_append {front back : List Connection} {connection : Connection}
    (sorted : (front ++ connection :: back).Pairwise (·.id < ·.id)) :
    itNext (front ++ connection :: back) connection.id = back.head?.map (·.id) := by
  have apart : ∀ other ∈ front, decide (other.id ≠ connection.id) = true := by
    intro other isOther
    have less := (List.pairwise_append.mp sorted).2.2 other isOther connection List.mem_cons_self
    exact decide_eq_true (Nat.ne_of_lt less)
  rw [itNext, List.dropWhile_append_of_pos apart, List.dropWhile_cons_of_neg (by simp)]
  rfl

/-- Where at most one value is dropped, erasing the first one drops all. -/
theorem eraseP_eq_filter {α : Type} {drops : α → Bool} {values : List α}
    (atMostOne : values.countP drops ≤ 1) :
    values.eraseP drops = values.filter fun value => !drops value := by
  induction values with
  | nil => rfl
  | cons value values inductionHypothesis =>
      cases is : drops value with
      | true =>
        rw [List.countP_cons_of_pos is] at atMostOne
        have none : values.countP drops = 0 := by omega
        rw [List.eraseP_cons_of_pos is, List.filter_cons_of_neg (by simp [is]),
          List.filter_eq_self.mpr]
        intro other isIn
        simp [List.countP_eq_zero.mp none other isIn]
      | false =>
        rw [List.countP_cons_of_neg (by simp [is])] at atMostOne
        rw [List.eraseP_cons_of_neg (by simp [is]), List.filter_cons_of_pos (by simp [is]),
          inductionHypothesis atMostOne]

namespace SigSlot

variable (state : SigSlot)

/-- Every emission is one of a signal that is there. -/
def Emitting : Prop :=
  ∀ emission ∈ state.emissions, ∃ connections,
    state.connected emission.signal = some connections ∧ Going connections state.next emission

/-- Links go on both sides. -/
def unlink (keep : Nat → Nat → Bool) : SigSlot :=
  { state with
    connected := fun signal =>
      (state.connected signal).map (·.filter fun connection => keep signal connection.dest)
    senders := fun dest => (state.senders dest).map (·.filter fun signal => keep signal dest) }

variable {state : SigSlot} {pending : Nat → Nat → Prop} {keep : Nat → Nat → Bool}

/-- Taking connections off on both sides keeps the sides linked. -/
theorem Linked.unlink (linked : state.Linked pending) : (state.unlink keep).Linked pending where
  fault := linked.fault
  told := by
    intro signal connections is connection isIn
    obtain ⟨all, isAll, rfl⟩ := Option.map_eq_some_iff.mp is
    obtain ⟨isIn, keeps⟩ := List.mem_filter.mp isIn
    obtain ⟨senders, isSenders, knows⟩ := linked.told isAll connection isIn
    refine ⟨senders.filter fun signal => keep signal connection.dest, ?_, ?_⟩
    · simp only [SigSlot.unlink, isSenders, Option.map_some]
    · exact knows.imp_left fun isSender => List.mem_filter.mpr ⟨isSender, keeps⟩
  connected := by
    intro dest senders is signal isIn
    obtain ⟨all, isAll, rfl⟩ := Option.map_eq_some_iff.mp is
    obtain ⟨isIn, keeps⟩ := List.mem_filter.mp isIn
    obtain ⟨connections, isConnected, connection, isConnection, rfl⟩ :=
      linked.connected isAll signal isIn
    refine ⟨connections.filter fun connection => keep signal connection.dest, ?_,
      connection, ?_, rfl⟩
    · simp only [SigSlot.unlink, isConnected, Option.map_some]
    · exact List.mem_filter.mpr ⟨isConnection, keeps⟩
  sorted := by
    intro signal connections is
    obtain ⟨all, isAll, rfl⟩ := Option.map_eq_some_iff.mp is
    exact (linked.sorted isAll).filter _
  below := by
    intro signal connections is connection isIn
    obtain ⟨all, isAll, rfl⟩ := Option.map_eq_some_iff.mp is
    exact linked.below isAll connection (List.mem_filter.mp isIn).1

/-- The connection an emission goes to next is the one of that number. -/
theorem upcoming_eq {emission : Emission} {connections : List Connection} {connection : Connection}
    (connected : state.connected emission.signal = some connections)
    (sorted : connections.Pairwise (·.id < ·.id)) (isIn : connection ∈ connections)
    (isNext : emission.itNext = some connection.id) : state.upcoming emission = some connection := by
  simp only [upcoming, connected, isNext, Option.bind_some]
  exact find?_of_sorted sorted isIn

/-- Emissions go on when what they go to next is kept. -/
theorem Emitting.unlink (emitting : state.Emitting) (linked : state.Linked pending)
    (keeps : ∀ emission ∈ state.emissions,
      (state.upcoming emission).all (fun connection => keep emission.signal connection.dest) = true) :
    (state.unlink keep).Emitting := by
  intro emission isIn
  obtain ⟨connections, connected, going⟩ := emitting emission isIn
  refine ⟨connections.filter fun connection => keep emission.signal connection.dest, ?_, ?_⟩
  · simp only [SigSlot.unlink, connected, Option.map_some]
  · refine going.filter fun connection isConnection isNext => ?_
    have is := upcoming_eq connected (linked.sorted connected) isConnection isNext
    have keeps := keeps emission isIn
    rwa [is] at keeps

/-- Updates that may be made twice, one after the other. -/
theorem foldl_update {α β : Type} [DecidableEq α] {change : β → β}
    (again : ∀ value, change (change value) = change value) (keys : List α) (table : α → Option β) :
    keys.foldl (fun table key => Function.update table key ((table key).map change)) table =
      fun key => if key ∈ keys then (table key).map change else table key := by
  induction keys generalizing table with
  | nil => rfl
  | cons first keys inductionHypothesis =>
      rw [List.foldl_cons, inductionHypothesis]
      funext key
      by_cases same : key = first
      · subst same
        rw [Function.update_self, Option.map_map]
        have once : change ∘ change = change := funext again
        rw [once, ite_self, if_pos List.mem_cons_self]
      · rw [Function.update_of_ne same]
        simp only [List.mem_cons, same, false_or]

/-- What an object that is there does when a signal disconnects from it. -/
theorem signalDisconnect_of_there {dest sender : Nat} (there : (state.senders dest).isSome = true) :
    state.signalDisconnect dest sender =
      { state with
        senders := Function.update state.senders dest
          ((state.senders dest).map (·.filter (· ≠ sender))) } := by
  obtain ⟨senders, is⟩ := Option.isSome_iff_exists.mp there
  simp only [signalDisconnect, is, setSenders, Option.map_some]

/-- What a signal that is there does when an object disconnects from it. -/
theorem slotDisconnect_of_there {signal dest : Nat} (there : (state.connected signal).isSome = true) :
    state.slotDisconnect signal dest =
      { state with
        connected := Function.update state.connected signal
          ((state.connected signal).map (·.filter (·.dest ≠ dest))) } := by
  obtain ⟨connections, is⟩ := Option.isSome_iff_exists.mp there
  simp only [slotDisconnect, is, setConnected, Option.map_some]

/-- Changing an entry of a table takes no entry away. -/
theorem isSome_update_map {α β : Type} [DecidableEq α] {table : α → Option β} {key other : α}
    {change : β → β} (there : (table other).isSome = true) :
    (Function.update table key ((table key).map change) other).isSome = true := by
  by_cases same : other = key
  · subst same
    rwa [Function.update_self, Option.isSome_map]
  · rwa [Function.update_of_ne same]

/-- Telling the objects of all its connections takes the signal off each of them. -/
theorem foldl_signalDisconnect {signal : Nat} {connections : List Connection}
    (there : ∀ connection ∈ connections, (state.senders connection.dest).isSome = true) :
    connections.foldl (fun state connection => state.signalDisconnect connection.dest signal) state =
      { state with
        senders := fun dest =>
          if dest ∈ connections.map (·.dest) then (state.senders dest).map (·.filter (· ≠ signal))
          else state.senders dest } := by
  have folds : connections.foldl
      (fun state connection => state.signalDisconnect connection.dest signal) state =
      { state with
        senders := (connections.map (·.dest)).foldl (fun table dest =>
          Function.update table dest ((table dest).map (·.filter (· ≠ signal)))) state.senders } := by
    induction connections generalizing state with
    | nil => rfl
    | cons connection connections inductionHypothesis =>
        have first := there connection List.mem_cons_self
        rw [List.foldl_cons, signalDisconnect_of_there first, inductionHypothesis]
        · rfl
        · intro other isOther
          exact isSome_update_map (there other (List.mem_cons_of_mem _ isOther))
  rw [folds, foldl_update]
  intro senders
  rw [List.filter_filter]
  simp only [Bool.and_self]

/-- Telling all its signals takes an object's connections off each of them. -/
theorem foldl_slotDisconnect {dest : Nat} {signals : List Nat}
    (there : ∀ signal ∈ signals, (state.connected signal).isSome = true) :
    signals.foldl (fun state signal => state.slotDisconnect signal dest) state =
      { state with
        connected := fun signal =>
          if signal ∈ signals then (state.connected signal).map (·.filter (·.dest ≠ dest))
          else state.connected signal } := by
  have folds : signals.foldl (fun state signal => state.slotDisconnect signal dest) state =
      { state with
        connected := signals.foldl (fun table signal =>
          Function.update table signal ((table signal).map (·.filter (·.dest ≠ dest))))
          state.connected } := by
    induction signals generalizing state with
    | nil => rfl
    | cons signal signals inductionHypothesis =>
        have first := there signal List.mem_cons_self
        rw [List.foldl_cons, slotDisconnect_of_there first, inductionHypothesis]
        · rfl
        · intro other isOther
          exact isSome_update_map (there other (List.mem_cons_of_mem _ isOther))
  rw [folds, foldl_update]
  intro connections
  rw [List.filter_filter]
  simp only [Bool.and_self]

variable {signal dest slot : Nat}

/-- The signal's list is the one that was set. -/
theorem setConnected_self (connections : Option (List Connection)) :
    (state.setConnected signal connections).connected signal = connections :=
  Function.update_self ..

/-- The slot object's set is the one that was set. -/
theorem setSenders_self (senders : Option (List Nat)) :
    (state.setSenders dest senders).senders dest = senders :=
  Function.update_self ..

/-- The other signals keep their lists. -/
theorem setConnected_of_ne {other : Nat} {connections : Option (List Connection)}
    (differs : other ≠ signal) :
    (state.setConnected signal connections).connected other = state.connected other :=
  Function.update_of_ne differs ..

/-- The other slot objects keep their sets. -/
theorem setSenders_of_ne {other : Nat} {senders : Option (List Nat)} (differs : other ≠ dest) :
    (state.setSenders dest senders).senders other = state.senders other :=
  Function.update_of_ne differs ..

/-- A list of connections is the one that was set, or is what it was. -/
theorem setConnected_cases {other : Nat} {connections : Option (List Connection)}
    {list : List Connection}
    (is : (state.setConnected signal connections).connected other = some list) :
    (other = signal ∧ connections = some list) ∨
      (other ≠ signal ∧ state.connected other = some list) := by
  by_cases same : other = signal
  · subst same
    rw [setConnected_self] at is
    exact .inl ⟨rfl, is⟩
  · rw [setConnected_of_ne same] at is
    exact .inr ⟨same, is⟩

/-- Who is kept that is connected is all that is known. -/
theorem Linked.filter_senders (linked : state.Linked pending) {senders : List Nat}
    {stays : Nat → Bool} (is : state.senders dest = some senders)
    (keeps : ∀ {signal connections}, state.connected signal = some connections →
      ∀ connection ∈ connections, connection.dest = dest → stays signal = true) :
    senders.filter stays = senders := by
  rw [List.filter_eq_self]
  intro signal isIn
  obtain ⟨connections, connected, connection, isConnection, same⟩ := linked.connected is signal isIn
  exact keeps connected connection isConnection same

/-- Nothing is filtered out of a list all of whose values stay. -/
theorem map_filter_true {α : Type} {values : Option (List α)} {stays : α → Bool}
    (all : ∀ {list}, values = some list → ∀ value ∈ list, stays value = true) :
    values.map (·.filter stays) = values := by
  cases values with
  | none => rfl
  | some list => rw [Option.map_some, List.filter_eq_self.mpr (all rfl)]

/-- `disconnect_all` of a signal takes off exactly its own connections. -/
theorem disconnectSignal_eq (linked : state.Linked fun _ _ => False)
    (there : (state.connected signal).isSome = true) :
    state.disconnectSignal signal = state.unlink fun other _ => other ≠ signal := by
  obtain ⟨connections, is⟩ := Option.isSome_iff_exists.mp there
  have known : ∀ connection ∈ connections, (state.senders connection.dest).isSome = true := by
    intro connection isIn
    obtain ⟨senders, isSenders, _⟩ := linked.told is connection isIn
    rw [isSenders, Option.isSome_some]
  simp only [disconnectSignal, is, foldl_signalDisconnect known, setConnected, unlink]
  congr 1
  · funext other
    by_cases same : other = signal
    · subst same
      rw [Function.update_self, is]
      simp
    · rw [Function.update_of_ne same, map_filter_true fun _ _ _ => decide_eq_true same]
  · funext dest
    split
    · rfl
    · next isNot =>
      cases isSenders : state.senders dest with
      | none => rfl
      | some senders =>
        rw [Option.map_some, linked.filter_senders isSenders]
        intro other others connected connection isIn same
        rw [decide_eq_true_eq]
        rintro rfl
        rw [is] at connected
        cases connected
        exact isNot (List.mem_map.mpr ⟨connection, isIn, same⟩)

/-- `disconnect_all` of an object takes off exactly the connections to it. -/
theorem disconnectSlots_eq (linked : state.Linked fun _ _ => False)
    (there : (state.senders dest).isSome = true) :
    state.disconnectSlots dest = state.unlink fun _ other => other ≠ dest := by
  obtain ⟨senders, is⟩ := Option.isSome_iff_exists.mp there
  have known : ∀ signal ∈ senders, (state.connected signal).isSome = true := by
    intro signal isIn
    obtain ⟨connections, connected, _⟩ := linked.connected is signal isIn
    rw [connected, Option.isSome_some]
  simp only [disconnectSlots, is, foldl_slotDisconnect known, setSenders, unlink]
  congr 1
  · funext signal
    split
    · rfl
    · next isNot =>
      refine (map_filter_true fun connected connection isIn => decide_eq_true ?_).symm
      intro same
      obtain ⟨others, isOthers, knows⟩ := linked.told connected connection isIn
      rw [same, is] at isOthers
      cases isOthers
      exact isNot (knows.resolve_right id)
  · funext other
    by_cases same : other = dest
    · subst same
      rw [Function.update_self, is]
      simp
    · rw [Function.update_of_ne same, map_filter_true fun _ _ _ => decide_eq_true same]

/-- The object is not connected to the signal, and the signal is none of its senders. -/
theorem unlink_of_stranger (linked : state.Linked fun _ _ => False) {connections : List Connection}
    (is : state.connected signal = some connections)
    (noOne : ∀ connection ∈ connections, connection.dest ≠ dest) :
    state.unlink (fun other whom => !(other = signal && whom = dest)) = state := by
  refine SigSlot.ext ?_ ?_ rfl rfl rfl
  · funext other
    refine map_filter_true fun isOther connection isIn => ?_
    by_cases same : other = signal
    · subst same
      rw [is] at isOther
      cases isOther
      simp [noOne connection isIn]
    · simp [same]
  · funext whom
    refine map_filter_true fun isWhom other isIn => ?_
    obtain ⟨others, isOther, connection, isConnection, rfl⟩ := linked.connected isWhom other isIn
    by_cases same : other = signal
    · subst same
      rw [is] at isOther
      cases isOther
      simp [noOne connection isConnection]
    · simp [same]

/-- `disconnect` with its call of `signal_disconnect`, for a signal that is connected to the
object at most once. -/
theorem disconnect_of_connected {connections : List Connection} {senders : List Nat}
    (is : state.connected signal = some connections) (isSenders : state.senders dest = some senders)
    (atMostOne : connections.countP (·.dest = dest) ≤ 1) :
    (state.setConnected signal (some (connections.eraseP (·.dest = dest)))).signalDisconnect dest
        signal =
      state.unlink fun other whom => !(other = signal && whom = dest) := by
  rw [signalDisconnect_of_there (by simp [setConnected, isSenders]), eraseP_eq_filter atMostOne]
  simp only [setConnected, unlink]
  congr 1
  · funext other
    by_cases same : other = signal
    · subst same
      rw [Function.update_self, is]
      simp
    · rw [Function.update_of_ne same, map_filter_true fun _ _ _ => by simp [same]]
  · funext whom
    by_cases same : whom = dest
    · subst same
      rw [Function.update_self, isSenders]
      simp
    · rw [Function.update_of_ne same, map_filter_true fun _ _ _ => by simp [same]]

/-- `disconnect` takes off exactly the connections of the pair, where there is at most one. -/
theorem disconnect_eq (linked : state.Linked fun _ _ => False) {connections : List Connection}
    (is : state.connected signal = some connections)
    (atMostOne : connections.countP (·.dest = dest) ≤ 1) :
    state.disconnect signal dest =
      state.unlink fun other whom => !(other = signal && whom = dest) := by
  simp only [disconnect, is]
  split
  · next found =>
    obtain ⟨connection, isIn, same⟩ := List.any_eq_true.mp found
    obtain ⟨senders, isSenders, _⟩ := linked.told is connection isIn
    rw [of_decide_eq_true same] at isSenders
    exact disconnect_of_connected is isSenders atMostOne
  · next notFound =>
    refine (unlink_of_stranger linked is fun connection isIn same => ?_).symm
    exact notFound (List.any_eq_true.mpr ⟨connection, isIn, decide_eq_true same⟩)

/-- A signal without connections goes, or a new one comes. -/
theorem Linked.setConnected (linked : state.Linked pending) {connections : Option (List Connection)}
    (old : ∀ connections, state.connected signal = some connections → connections = [])
    (new : ∀ list, connections = some list → list = []) :
    (state.setConnected signal connections).Linked pending := by
  have others {other : Nat} {list : List Connection}
      (is : (state.setConnected signal connections).connected other = some list) :
      list = [] ∨ state.connected other = some list :=
    (setConnected_cases is).imp (fun ⟨_, is⟩ => new list is) And.right
  refine ⟨linked.fault, ?_, ?_, ?_, ?_⟩
  · intro other list is connection isIn
    obtain rfl | is := others is
    · cases isIn
    · exact linked.told is connection isIn
  · intro dest senders is other isIn
    obtain ⟨list, isList, connection, isConnection, same⟩ := linked.connected is other isIn
    refine ⟨list, ?_, connection, isConnection, same⟩
    rw [setConnected_of_ne]
    · exact isList
    · rintro rfl
      rw [old list isList] at isConnection
      cases isConnection
  · intro other list is
    obtain rfl | is := others is
    · exact .nil
    · exact linked.sorted is
  · intro other list is connection isIn
    obtain rfl | is := others is
    · cases isIn
    · exact linked.below is connection isIn

/-- An object that is not connected goes, or a new one comes. -/
theorem Linked.setSenders (linked : state.Linked fun _ _ => False) {senders : Option (List Nat)}
    (old : ∀ list, state.senders dest = some list → list = [])
    (new : ∀ list, senders = some list → list = []) :
    (state.setSenders dest senders).Linked fun _ _ => False := by
  refine ⟨linked.fault, ?_, ?_, linked.sorted, linked.below⟩
  · intro signal connections is connection isIn
    obtain ⟨list, isList, knows⟩ := linked.told is connection isIn
    refine ⟨list, ?_, knows⟩
    rw [setSenders_of_ne]
    · exact isList
    · intro same
      rw [same] at isList
      rw [old list isList] at knows
      exact (List.not_mem_nil (knows.resolve_right id))
  · intro other list is signal isIn
    by_cases same : other = dest
    · subst same
      rw [setSenders_self] at is
      rw [new list is] at isIn
      cases isIn
    · rw [setSenders_of_ne same] at is
      exact linked.connected is signal isIn

/-- A connection is put behind the others of its signal. -/
theorem pushBack_of_there {connections : List Connection}
    (is : state.connected signal = some connections) :
    state.pushBack signal dest slot =
      { state.setConnected signal (some (connections ++ [⟨state.next, dest, slot⟩])) with
        next := state.next + 1 } := by
  simp only [pushBack, is]

/-- A new connection tells the object nothing yet. -/
theorem senders_pushBack {connections : List Connection}
    (is : state.connected signal = some connections) :
    (state.pushBack signal dest slot).senders = state.senders := by
  rw [pushBack_of_there is]
  rfl

/-- An object that is there enters the signal among its senders. -/
theorem signalConnect_of_there {senders : List Nat} (is : state.senders dest = some senders) :
    state.signalConnect dest signal = state.setSenders dest (some (senders.insert signal)) := by
  simp only [signalConnect, is]

/-- A new connection keeps the sides linked when its object knows the signal or is about to. -/
theorem Linked.pushBack (linked : state.Linked pending) {connections : List Connection}
    (is : state.connected signal = some connections)
    (knows : ∃ senders, state.senders dest = some senders ∧
      (signal ∈ senders ∨ pending signal dest)) :
    (state.pushBack signal dest slot).Linked pending := by
  rw [pushBack_of_there is]
  have others {other : Nat} {list : List Connection}
      (isList : (state.setConnected signal
        (some (connections ++ [⟨state.next, dest, slot⟩]))).connected other = some list) :
      (other = signal ∧ list = connections ++ [⟨state.next, dest, slot⟩]) ∨
        state.connected other = some list :=
    (setConnected_cases isList).imp
      (fun ⟨isSignal, same⟩ => ⟨isSignal, (Option.some.inj same).symm⟩) And.right
  refine ⟨linked.fault, ?_, ?_, ?_, ?_⟩
  · intro other list isList connection isIn
    obtain ⟨rfl, rfl⟩ | isList := others isList
    · rcases List.mem_append.mp isIn with isIn | isLast
      · exact linked.told is connection isIn
      · rw [List.mem_singleton.mp isLast]
        exact knows
    · exact linked.told isList connection isIn
  · intro whom senders isSenders other isIn
    obtain ⟨list, isList, connection, isConnection, same⟩ := linked.connected isSenders other isIn
    by_cases isSignal : other = signal
    · subst isSignal
      rw [is] at isList
      cases isList
      exact ⟨_, setConnected_self _, connection, List.mem_append_left _ isConnection, same⟩
    · refine ⟨list, ?_, connection, isConnection, same⟩
      exact (Function.update_of_ne isSignal ..).trans isList
  · intro other list isList
    obtain ⟨rfl, rfl⟩ | isList := others isList
    · refine List.pairwise_append.mpr ⟨linked.sorted is, List.pairwise_singleton .., ?_⟩
      intro connection isIn last isLast
      rw [List.mem_singleton.mp isLast]
      exact linked.below is connection isIn
    · exact linked.sorted isList
  · intro other list isList connection isIn
    refine Nat.lt_succ_iff.mpr ?_
    obtain ⟨rfl, rfl⟩ | isList := others isList
    · rcases List.mem_append.mp isIn with isIn | isLast
      · exact Nat.le_of_lt (linked.below is connection isIn)
      · exact Nat.le_of_eq (congrArg Connection.id (List.mem_singleton.mp isLast))
    · exact Nat.le_of_lt (linked.below isList connection isIn)

/-- When the object has entered the signal, the pair is no longer pending. -/
theorem Linked.signalConnect {rest : Nat → Nat → Prop} (linked : state.Linked pending)
    {senders : List Nat} (is : state.senders dest = some senders)
    (connected : ∃ connections, state.connected signal = some connections ∧
      ∃ connection ∈ connections, connection.dest = dest)
    (others : ∀ {other whom}, pending other whom → other = signal ∧ whom = dest ∨ rest other whom) :
    (state.signalConnect dest signal).Linked rest := by
  rw [signalConnect_of_there is]
  refine ⟨linked.fault, ?_, ?_, linked.sorted, linked.below⟩
  · intro other connections isConnected connection isIn
    obtain ⟨list, isList, knows⟩ := linked.told isConnected connection isIn
    by_cases same : connection.dest = dest
    · refine ⟨senders.insert signal, ?_, ?_⟩
      · rw [same, setSenders_self]
      · rw [same, is] at isList
        cases isList
        rcases knows with knows | later
        · exact .inl (List.mem_insert_of_mem knows)
        · obtain ⟨rfl, _⟩ | later := others later
          · exact .inl List.mem_insert_self
          · exact .inr later
    · refine ⟨list, (Function.update_of_ne same ..).trans isList, ?_⟩
      rcases knows with knows | later
      · exact .inl knows
      · obtain ⟨_, isDest⟩ | later := others later
        · exact absurd isDest same
        · exact .inr later
  · intro whom list isList other isIn
    by_cases same : whom = dest
    · subst same
      rw [setSenders_self] at isList
      cases isList
      obtain rfl | isIn := List.mem_insert_iff.mp isIn
      · exact connected
      · exact linked.connected is other isIn
    · rw [setSenders_of_ne same] at isList
      exact linked.connected isList other isIn

/-- More pairs may be pending. -/
theorem Linked.mono {rest : Nat → Nat → Prop} (linked : state.Linked pending)
    (more : ∀ {signal dest}, pending signal dest → rest signal dest) : state.Linked rest := by
  refine ⟨linked.fault, ?_, linked.connected, linked.sorted, linked.below⟩
  intro signal connections is connection isIn
  obtain ⟨senders, isSenders, knows⟩ := linked.told is connection isIn
  exact ⟨senders, isSenders, knows.imp_right more⟩

/-- Emissions go on when a connection is put at the end. -/
theorem Emitting.pushBack (emitting : state.Emitting) {connections : List Connection}
    (is : state.connected signal = some connections) :
    (state.pushBack signal dest slot).Emitting := by
  rw [pushBack_of_there is]
  intro emission isIn
  obtain ⟨list, isList, going⟩ := emitting emission isIn
  by_cases same : emission.signal = signal
  · rw [same, is] at isList
    cases isList
    have isPushed : (state.setConnected signal (some (connections ++
        [⟨state.next, dest, slot⟩]))).connected emission.signal =
        some (connections ++ [⟨state.next, dest, slot⟩]) := by
      rw [same]
      exact setConnected_self _
    exact ⟨_, isPushed, going.append⟩
  · exact ⟨list, (Function.update_of_ne same ..).trans isList, going.later⟩

/-- What holds between two calls from outside. -/
structure Sound (state : SigSlot) : Prop where
  linked : state.Linked fun _ _ => False
  emitting : state.Emitting

/-- `connect` keeps signals and objects sound. -/
theorem Sound.connect (sound : state.Sound) {connections : List Connection} {senders : List Nat}
    (is : state.connected signal = some connections) (there : state.senders dest = some senders) :
    (state.connect signal dest slot).Sound := by
  have pushed : (state.pushBack signal dest slot).Linked fun other whom =>
      other = signal ∧ whom = dest :=
    (sound.linked.mono False.elim).pushBack is ⟨senders, there, .inr ⟨rfl, rfl⟩⟩
  have emitting : (state.pushBack signal dest slot).Emitting := sound.emitting.pushBack is
  have still : (state.pushBack signal dest slot).senders dest = some senders := by
    rwa [senders_pushBack is]
  have isConnected : ∃ connections, (state.pushBack signal dest slot).connected signal =
      some connections ∧ ∃ connection ∈ connections, connection.dest = dest := by
    rw [pushBack_of_there is]
    exact ⟨_, setConnected_self _, _, List.mem_append_right _ List.mem_cons_self, rfl⟩
  refine ⟨pushed.signalConnect still isConnected .inl, ?_⟩
  rw [SigSlot.connect, signalConnect_of_there still]
  exact emitting

/-- Objects stay, and connections are added behind the others. -/
structure Grows (before after : SigSlot) : Prop where
  senders : ∀ {dest}, (before.senders dest).isSome = true → (after.senders dest).isSome = true
  connected : ∀ {signal connections}, before.connected signal = some connections →
    ∃ more, after.connected signal = some (connections ++ more)

/-- A state grows from itself. -/
theorem Grows.refl : Grows state state :=
  ⟨id, fun is => ⟨[], by rwa [List.append_nil]⟩⟩

/-- What has grown twice has grown. -/
theorem Grows.trans {middle after : SigSlot} (first : Grows state middle)
    (second : Grows middle after) : Grows state after := by
  refine ⟨fun there => second.senders (first.senders there), fun is => ?_⟩
  obtain ⟨more, is⟩ := first.connected is
  obtain ⟨last, is⟩ := second.connected is
  exact ⟨more ++ last, by rwa [← List.append_assoc]⟩

/-- A new connection takes nothing away. -/
theorem grows_pushBack {connections : List Connection}
    (is : state.connected signal = some connections) :
    Grows state (state.pushBack signal dest slot) := by
  rw [pushBack_of_there is]
  refine ⟨id, ?_⟩
  intro other list isList
  by_cases same : other = signal
  · subst same
    rw [is] at isList
    cases isList
    exact ⟨_, setConnected_self _⟩
  · exact ⟨[], by rw [List.append_nil]; exact (setConnected_of_ne same).trans isList⟩

/-- A new sender takes nothing away. -/
theorem grows_signalConnect {senders : List Nat} (there : state.senders dest = some senders) :
    Grows state (state.signalConnect dest signal) := by
  rw [signalConnect_of_there there]
  refine ⟨?_, fun is => ⟨[], by rwa [List.append_nil]⟩⟩
  intro other isThere
  by_cases same : other = dest
  · subst same
    rw [setSenders_self, Option.isSome_some]
  · rwa [setSenders_of_ne same]

/-- `connect` takes nothing away. -/
theorem grows_connect {connections : List Connection} {senders : List Nat}
    (is : state.connected signal = some connections) (there : state.senders dest = some senders) :
    Grows state (state.connect signal dest slot) := by
  have still : (state.pushBack signal dest slot).senders dest = some senders := by
    rwa [senders_pushBack is]
  exact (grows_pushBack is).trans (grows_signalConnect still)

/-- Telling the object first is connecting. -/
theorem pushBack_signalConnect {connections : List Connection} {senders : List Nat}
    (is : state.connected signal = some connections) (there : state.senders dest = some senders) :
    (state.signalConnect dest signal).pushBack signal dest slot = state.connect signal dest slot := by
  have still : (state.pushBack signal dest slot).senders dest = some senders := by
    rwa [senders_pushBack is]
  have stillConnected : (state.signalConnect dest signal).connected signal = some connections := by
    rw [signalConnect_of_there there]
    exact is
  rw [connect, signalConnect_of_there still, pushBack_of_there stillConnected, pushBack_of_there is,
    signalConnect_of_there there]
  rfl

/-- Connecting a copy to the objects of any connections keeps signals and objects sound. -/
theorem sound_copies {copy : Nat} (connections : List Connection) (sound : state.Sound)
    (there : (state.connected copy).isSome = true)
    (known : ∀ connection ∈ connections, (state.senders connection.dest).isSome = true) :
    Sound (connections.foldl (fun state connection =>
      (state.signalConnect connection.dest copy).pushBack copy connection.dest connection.slot)
      state) := by
  induction connections generalizing state with
  | nil => exact sound
  | cons connection connections inductionHypothesis =>
      obtain ⟨list, is⟩ := Option.isSome_iff_exists.mp there
      obtain ⟨senders, isSenders⟩ :=
        Option.isSome_iff_exists.mp (known connection List.mem_cons_self)
      rw [List.foldl_cons, pushBack_signalConnect is isSenders]
      have grows : Grows state (state.connect copy connection.dest connection.slot) :=
        grows_connect is isSenders
      refine inductionHypothesis (sound.connect is isSenders) ?_ ?_
      · obtain ⟨more, is⟩ := grows.connected is
        rw [is, Option.isSome_some]
      · intro other isOther
        exact grows.senders (known other (List.mem_cons_of_mem _ isOther))

/-- A new signal keeps signals and objects sound. -/
theorem sound_newSignal (sound : state.Sound) (isNew : state.connected signal = none) :
    (state.setConnected signal (some [])).Sound := by
  refine ⟨sound.linked.setConnected ?_ ?_, ?_⟩
  · intro list is
    rw [isNew] at is
    cases is
  · intro list is
    exact (Option.some.inj is).symm
  · intro emission isIn
    obtain ⟨connections, is, going⟩ := sound.emitting emission isIn
    refine ⟨connections, ?_, going⟩
    rw [setConnected_of_ne]
    · exact is
    · intro same
      rw [same, isNew] at is
      cases is

/-- A new object keeps signals and objects sound. -/
theorem sound_newSlots (sound : state.Sound) (isNew : state.senders dest = none) :
    (state.setSenders dest (some [])).Sound := by
  refine ⟨sound.linked.setSenders ?_ ?_, sound.emitting⟩
  · intro list is
    rw [isNew] at is
    cases is
  · intro list is
    exact (Option.some.inj is).symm

/-- Copying a signal keeps signals and objects sound. -/
theorem sound_copySignal {copy : Nat} (sound : state.Sound)
    (there : (state.connected signal).isSome = true) (isNew : state.connected copy = none) :
    (state.copySignal signal copy).Sound := by
  obtain ⟨connections, is⟩ := Option.isSome_iff_exists.mp there
  simp only [copySignal, is]
  refine sound_copies connections (sound_newSignal sound isNew) ?_ ?_
  · rw [setConnected_self, Option.isSome_some]
  · intro connection isIn
    obtain ⟨senders, isSenders, _⟩ := sound.linked.told is connection isIn
    exact Option.isSome_iff_exists.mpr ⟨senders, isSenders⟩

/-- What the loop of `slot_duplicate` has done. -/
structure Duplicated (pending : Nat → Nat → Prop) (before : SigSlot) (signal copy : Nat)
    (copies : Prop) (after : SigSlot) : Prop where
  linked : after.Linked pending
  emitting : after.Emitting
  grows : Grows before after
  senders : after.senders = before.senders
  connected : copies → ∃ connections, after.connected signal = some connections ∧
    ∃ connection ∈ connections, connection.dest = copy

/-- `slot_duplicate` connects the signal to the copy of an object as it was connected to the
object. -/
theorem duplicated {copy : Nat} (connections : List Connection) (linked : state.Linked pending)
    (emitting : state.Emitting) (there : (state.connected signal).isSome = true)
    (knows : ∃ senders, state.senders copy = some senders ∧
      (signal ∈ senders ∨ pending signal copy)) :
    Duplicated pending state signal copy (∃ connection ∈ connections, connection.dest = dest)
      (connections.foldl (fun state connection =>
        if connection.dest = dest then state.pushBack signal copy connection.slot
        else state) state) := by
  induction connections generalizing state with
  | nil =>
      refine ⟨linked, emitting, .refl, rfl, ?_⟩
      rintro ⟨connection, isIn, _⟩
      cases isIn
  | cons connection connections inductionHypothesis =>
      rw [List.foldl_cons]
      split
      · obtain ⟨list, is⟩ := Option.isSome_iff_exists.mp there
        have sameSenders : (state.pushBack signal copy connection.slot).senders = state.senders :=
          senders_pushBack is
        have grows : Grows state (state.pushBack signal copy connection.slot) := grows_pushBack is
        obtain ⟨more, isMore⟩ := grows.connected is
        have rest := inductionHypothesis (linked.pushBack is knows) (emitting.pushBack is)
          (by rw [isMore, Option.isSome_some]) (by rwa [sameSenders])
        refine ⟨rest.linked, rest.emitting, grows.trans rest.grows,
          rest.senders.trans sameSenders, ?_⟩
        intro _
        have pushed : (state.pushBack signal copy connection.slot).connected signal =
            some (list ++ [⟨state.next, copy, connection.slot⟩]) := by
          rw [pushBack_of_there is]
          exact setConnected_self _
        obtain ⟨last, isLast⟩ := rest.grows.connected pushed
        refine ⟨_, isLast, ⟨state.next, copy, connection.slot⟩, ?_, rfl⟩
        exact List.mem_append_left _ (List.mem_append_right _ List.mem_cons_self)
      · next differs =>
        obtain ⟨linked, emitting, grows, senders, connected⟩ :=
          inductionHypothesis linked emitting there knows
        refine ⟨linked, emitting, grows, senders, ?_⟩
        rintro ⟨other, isIn, same⟩
        rcases List.mem_cons.mp isIn with rfl | isIn
        · exact absurd same differs
        · exact connected ⟨other, isIn, same⟩

/-- Connecting the copy of an object to any of its signals keeps signals and objects sound. -/
theorem sound_duplicates {copy : Nat} (signals : List Nat) (sound : state.Sound)
    (there : (state.senders copy).isSome = true)
    (known : ∀ signal ∈ signals, ∃ connections, state.connected signal = some connections ∧
      ∃ connection ∈ connections, connection.dest = dest) :
    Sound (signals.foldl (fun state signal =>
      (state.slotDuplicate signal dest copy).signalConnect copy signal) state) := by
  induction signals generalizing state with
  | nil => exact sound
  | cons signal signals inductionHypothesis =>
      obtain ⟨senders, isSenders⟩ := Option.isSome_iff_exists.mp there
      obtain ⟨connections, is, isConnected⟩ := known signal List.mem_cons_self
      have copied : Duplicated (fun other whom => other = signal ∧ whom = copy) state signal copy
          (∃ connection ∈ connections, connection.dest = dest)
          (state.slotDuplicate signal dest copy) := by
        simp only [slotDuplicate, is]
        refine duplicated connections (sound.linked.mono False.elim) sound.emitting ?_ ?_
        · rw [is, Option.isSome_some]
        · exact ⟨senders, isSenders, .inr ⟨rfl, rfl⟩⟩
      have still : (state.slotDuplicate signal dest copy).senders copy = some senders := by
        rw [copied.senders]
        exact isSenders
      have grows : Grows state ((state.slotDuplicate signal dest copy).signalConnect copy signal) :=
        copied.grows.trans (grows_signalConnect still)
      rw [List.foldl_cons]
      refine inductionHypothesis ⟨?_, ?_⟩ (grows.senders there) ?_
      · exact copied.linked.signalConnect still (copied.connected isConnected) .inl
      · rw [signalConnect_of_there still]
        exact copied.emitting
      · intro other isOther
        obtain ⟨list, isList, connection, isIn, same⟩ :=
          known other (List.mem_cons_of_mem _ isOther)
        obtain ⟨more, isMore⟩ := grows.connected isList
        exact ⟨_, isMore, connection, List.mem_append_left _ isIn, same⟩

/-- Copying an object keeps signals and objects sound. -/
theorem sound_copySlots {copy : Nat} (sound : state.Sound)
    (there : (state.senders dest).isSome = true) (isNew : state.senders copy = none) :
    (state.copySlots dest copy).Sound := by
  obtain ⟨senders, is⟩ := Option.isSome_iff_exists.mp there
  simp only [copySlots, is]
  refine sound_duplicates senders (sound_newSlots sound isNew) ?_ ?_
  · rw [setSenders_self, Option.isSome_some]
  · exact fun signal isIn => sound.linked.connected is signal isIn

/-- Taking off connections that no emission goes to next keeps signals and objects sound. -/
theorem Sound.unlink (sound : state.Sound)
    (keeps : ∀ emission ∈ state.emissions,
      (state.upcoming emission).all (fun connection => keep emission.signal connection.dest) = true) :
    (state.unlink keep).Sound :=
  ⟨sound.linked.unlink, sound.emitting.unlink sound.linked keeps⟩

/-- `disconnect_all` of a signal keeps signals and objects sound. -/
theorem sound_disconnectSignal (sound : state.Sound)
    (there : (state.connected signal).isSome = true)
    (proper : state.Proper (.disconnectSignal signal)) : (state.disconnectSignal signal).Sound := by
  rw [disconnectSignal_eq sound.linked there]
  refine sound.unlink fun emission isIn => ?_
  by_cases same : emission.signal = signal
  · have isLast := proper emission isIn same
    cases is : state.connected emission.signal <;> simp [upcoming, is, isLast]
  · rw [Option.all_eq_true_iff_get]
    exact fun _ => decide_eq_true same

/-- `disconnect_all` of an object keeps signals and objects sound. -/
theorem sound_disconnectSlots (sound : state.Sound) (there : (state.senders dest).isSome = true)
    (proper : state.Proper (.disconnectSlots dest)) : (state.disconnectSlots dest).Sound := by
  rw [disconnectSlots_eq sound.linked there]
  exact sound.unlink proper

/-- `disconnect` keeps signals and objects sound. -/
theorem sound_disconnect (sound : state.Sound) (there : (state.connected signal).isSome = true)
    (proper : state.Proper (.disconnect signal dest)) : (state.disconnect signal dest).Sound := by
  obtain ⟨connections, is⟩ := Option.isSome_iff_exists.mp there
  obtain ⟨atMostOne, keeps⟩ := proper
  rw [is, Option.all_some, decide_eq_true_eq] at atMostOne
  rw [disconnect_eq sound.linked is atMostOne]
  refine sound.unlink fun emission isIn => ?_
  by_cases same : emission.signal = signal
  · have keeps := keeps emission isIn same
    cases isNext : state.upcoming emission with
    | none => rfl
    | some connection =>
      rw [isNext, Option.all_some] at keeps
      simpa [same] using keeps
  · cases state.upcoming emission <;> simp [same]

/-- Deleting a signal keeps signals and objects sound. -/
theorem sound_deleteSignal (sound : state.Sound) (there : (state.connected signal).isSome = true)
    (proper : state.Proper (.deleteSignal signal)) :
    ((state.disconnectSignal signal).setConnected signal none).Sound := by
  have ended : (state.disconnectSignal signal).Sound :=
    sound_disconnectSignal sound there fun emission isIn same => absurd same (proper emission isIn)
  have empty : (state.disconnectSignal signal).connected signal = some [] := by
    obtain ⟨connections, is⟩ := Option.isSome_iff_exists.mp there
    simp only [disconnectSignal, is]
    exact setConnected_self _
  refine ⟨ended.linked.setConnected ?_ ?_, ?_⟩
  · intro list is
    rw [empty] at is
    exact (Option.some.inj is).symm
  · intro list is
    cases is
  · intro emission isIn
    obtain ⟨connections, is, going⟩ := ended.emitting emission isIn
    refine ⟨connections, ?_, going⟩
    rw [setConnected_of_ne]
    · exact is
    · rw [setConnected, disconnectSignal_eq sound.linked there] at isIn
      exact proper emission isIn

/-- Deleting an object keeps signals and objects sound. -/
theorem sound_deleteSlots (sound : state.Sound) (there : (state.senders dest).isSome = true)
    (proper : state.Proper (.deleteSlots dest)) :
    ((state.disconnectSlots dest).setSenders dest none).Sound := by
  have ended : (state.disconnectSlots dest).Sound := sound_disconnectSlots sound there proper
  have empty : (state.disconnectSlots dest).senders dest = some [] := by
    obtain ⟨senders, is⟩ := Option.isSome_iff_exists.mp there
    simp only [disconnectSlots, is]
    exact setSenders_self _
  refine ⟨ended.linked.setSenders ?_ ?_, ended.emitting⟩
  · intro list is
    rw [empty] at is
    exact (Option.some.inj is).symm
  · intro list is
    cases is

/-- An emission calls in the order in which was connected, nobody twice, and all that were
connected when it began and still are. -/
def Fair : SigSlotEvent → Prop
  | .call _ _ => True
  | .done _ started called left =>
      called.Pairwise (· < ·) ∧ ∀ id ∈ started, id ∈ left → id ∈ called

/-- The object of a connection is there when it is called. -/
theorem call_eq (linked : state.Linked fun _ _ => False) {connections : List Connection}
    {connection : Connection} (is : state.connected signal = some connections)
    (isIn : connection ∈ connections) : state.call connection = state := by
  obtain ⟨senders, isSenders, _⟩ := linked.told is connection isIn
  rw [call, isSenders, Option.isSome_some, if_pos rfl]

/-- The beginning of an emission keeps signals and objects sound and reports nothing unfair. -/
theorem sound_emit (sound : state.Sound) (there : (state.connected signal).isSome = true) :
    (state.emit signal).1.Sound ∧ ∀ event ∈ (state.emit signal).2, Fair event := by
  obtain ⟨connections, is⟩ := Option.isSome_iff_exists.mp there
  cases connections with
  | nil =>
    simp only [emit, is]
    exact ⟨sound, List.forall_mem_singleton.mpr ⟨.nil, List.forall_mem_nil _⟩⟩
  | cons connection rest =>
    simp only [emit, is, call_eq sound.linked is List.mem_cons_self]
    refine ⟨⟨?_, ?_⟩, List.forall_mem_singleton.mpr trivial⟩
    · obtain ⟨fault, told, connected, sorted, below⟩ := sound.linked
      exact ⟨fault, told, connected, sorted, below⟩
    · refine List.forall_mem_cons.mpr ⟨⟨connection :: rest, is, ?_⟩, sound.emitting⟩
      have started : ∀ id ∈ (connection :: rest).map (·.id), id < state.next :=
        List.forall_mem_map.mpr (sound.linked.below is)
      exact @Going.advance [] rest connection state.next
        ⟨signal, none, (connection :: rest).map (·.id), []⟩ (sound.linked.sorted is) .nil
        (List.forall_mem_nil _) (List.forall_mem_nil _) started

/-- The next call of an emission, or its end, keeps signals and objects sound and reports nothing
unfair. -/
theorem sound_goOn {emission : Emission} {below : List Emission} (sound : state.Sound)
    (emissions : state.emissions = emission :: below) :
    (state.goOn emission below).1.Sound ∧
      ∀ event ∈ (state.goOn emission below).2, Fair event := by
  obtain ⟨connections, is, going⟩ := sound.emitting emission (emissions ▸ List.mem_cons_self)
  have others : ∀ other ∈ below, ∃ connections,
      state.connected other.signal = some connections ∧
        Going connections state.next other := fun other isIn =>
    sound.emitting other (emissions ▸ List.mem_cons_of_mem _ isIn)
  have linked {emissions : List Emission} :
      Linked { state with emissions } fun _ _ => False := by
    obtain ⟨fault, told, connected, sorted, below⟩ := sound.linked
    exact ⟨fault, told, connected, sorted, below⟩
  simp only [goOn, is]
  cases isNext : emission.itNext with
  | none =>
    refine ⟨⟨linked, others⟩, List.forall_mem_singleton.mpr ⟨going.order, ?_⟩⟩
    intro id isStarted isLeft
    obtain ⟨connection, isIn, rfl⟩ := List.mem_map.mp isLeft
    refine going.reached connection isIn isStarted fun id is => ?_
    rw [isNext] at is
    cases is
  | some id =>
    obtain ⟨connection, isIn, rfl⟩ := going.itNext isNext
    have sorted := sound.linked.sorted is
    simp only [find?_of_sorted sorted isIn, call_eq sound.linked is isIn]
    refine ⟨⟨linked, ?_⟩, List.forall_mem_singleton.mpr trivial⟩
    refine List.forall_mem_cons.mpr ⟨⟨connections, is, ?_⟩, others⟩
    obtain ⟨front, back, rfl⟩ := List.append_of_mem isIn
    rw [itNext_append sorted]
    refine Going.advance sorted going.order (going.ahead isNext) ?_ going.below
    intro other isFront isStarted
    refine going.reached other (List.mem_append_left _ isFront) isStarted fun id same => ?_
    rw [isNext] at same
    cases same
    exact (List.pairwise_append.mp sorted).2.2 other isFront connection List.mem_cons_self

/-- A proper step keeps signals and objects sound and reports nothing unfair. -/
theorem sound_step {action : SigSlotAction} {next : SigSlot} {events : List SigSlotEvent}
    (sound : state.Sound) (proper : state.Proper action)
    (success : state.step action = some (next, events)) :
    next.Sound ∧ ∀ event ∈ events, Fair event := by
  have silent {after : SigSlot} (same : some (after, []) = some (next, events))
      (isSound : after.Sound) : next.Sound ∧ ∀ event ∈ events, Fair event := by
    cases same
    exact ⟨isSound, List.forall_mem_nil _⟩
  cases action with
  | newSignal signal =>
    obtain ⟨isNew, same⟩ := Option.ite_none_right_eq_some.mp success
    exact silent same (sound_newSignal sound (Option.isNone_iff_eq_none.mp isNew))
  | newSlots dest =>
    obtain ⟨isNew, same⟩ := Option.ite_none_right_eq_some.mp success
    exact silent same (sound_newSlots sound (Option.isNone_iff_eq_none.mp isNew))
  | copySignal signal copy =>
    obtain ⟨can, same⟩ := Option.ite_none_right_eq_some.mp success
    obtain ⟨there, isNew⟩ := Bool.and_eq_true_iff.mp can
    exact silent same (sound_copySignal sound there (Option.isNone_iff_eq_none.mp isNew))
  | copySlots dest copy =>
    obtain ⟨can, same⟩ := Option.ite_none_right_eq_some.mp success
    obtain ⟨there, isNew⟩ := Bool.and_eq_true_iff.mp can
    exact silent same (sound_copySlots sound there (Option.isNone_iff_eq_none.mp isNew))
  | deleteSignal signal =>
    obtain ⟨there, same⟩ := Option.ite_none_right_eq_some.mp success
    exact silent same (sound_deleteSignal sound there proper)
  | deleteSlots dest =>
    obtain ⟨there, same⟩ := Option.ite_none_right_eq_some.mp success
    exact silent same (sound_deleteSlots sound there proper)
  | connect signal dest slot =>
    obtain ⟨can, same⟩ := Option.ite_none_right_eq_some.mp success
    obtain ⟨there, isThere⟩ := Bool.and_eq_true_iff.mp can
    obtain ⟨connections, is⟩ := Option.isSome_iff_exists.mp there
    obtain ⟨senders, isSenders⟩ := Option.isSome_iff_exists.mp isThere
    exact silent same (sound.connect is isSenders)
  | disconnect signal dest =>
    obtain ⟨can, same⟩ := Option.ite_none_right_eq_some.mp success
    exact silent same (sound_disconnect sound (Bool.and_eq_true_iff.mp can).1 proper)
  | disconnectSignal signal =>
    obtain ⟨there, same⟩ := Option.ite_none_right_eq_some.mp success
    exact silent same (sound_disconnectSignal sound there proper)
  | disconnectSlots dest =>
    obtain ⟨there, same⟩ := Option.ite_none_right_eq_some.mp success
    exact silent same (sound_disconnectSlots sound there proper)
  | emit signal =>
    obtain ⟨there, same⟩ := Option.ite_none_right_eq_some.mp success
    have emits := sound_emit sound there
    rw [Option.some.inj same] at emits
    exact emits
  | goOn =>
    rw [step] at success
    split at success
    · cases success
    · next emission below emissions =>
      have goes := sound_goOn sound emissions
      rw [Option.some.inj success] at goes
      exact goes

/-- At the start everything is sound. -/
theorem sound_new : Sound new := by
  refine ⟨⟨rfl, ?_, ?_, ?_, ?_⟩, List.forall_mem_nil _⟩
  · intro _ _ is
    cases is
  · intro _ _ is
    cases is
  · intro _ _ is
    cases is
  · intro _ _ is
    cases is

/-- After proper steps signals and objects are sound and nothing unfair was reported. -/
theorem sound_run {actions : List SigSlotAction} {events : List SigSlotEvent}
    (run : machine.RunWhere Proper new actions state events) :
    state.Sound ∧ ∀ event ∈ events, Fair event := by
  refine run.invariant (fun _ state events => state.Sound ∧ ∀ event ∈ events, Fair event)
    ⟨sound_new, List.forall_mem_nil _⟩ ?_
  rintro _ state events action next emitted ⟨sound, fair⟩ proper success
  obtain ⟨soundNext, fairNext⟩ := sound_step sound proper success
  exact ⟨soundNext, List.forall_mem_append.mpr ⟨fair, fairNext⟩⟩

/-- In a proper run nothing is used that is not there, and an object knows exactly the signals
that are connected to it. -/
theorem connected_iff_of_run {actions : List SigSlotAction} {events : List SigSlotEvent}
    (run : machine.RunWhere Proper new actions state events) :
    state.fault = false ∧ ∀ signal dest,
      (∃ connections, state.connected signal = some connections ∧
        ∃ connection ∈ connections, connection.dest = dest) ↔
      ∃ senders, state.senders dest = some senders ∧ signal ∈ senders := by
  obtain ⟨⟨linked, _⟩, _⟩ := sound_run run
  refine ⟨linked.fault, fun signal dest => ⟨?_, ?_⟩⟩
  · rintro ⟨connections, is, connection, isIn, rfl⟩
    obtain ⟨senders, isSenders, knows⟩ := linked.told is connection isIn
    exact ⟨senders, isSenders, knows.resolve_right id⟩
  · rintro ⟨senders, isSenders, isIn⟩
    exact linked.connected isSenders signal isIn

/-- A slot deletes its object while two are called. -/
def deleteInSlot : List SigSlotAction :=
  [.newSignal 0, .newSlots 1, .newSlots 2, .connect 0 1 7, .connect 0 2 8, .emit 0, .deleteSlots 1,
    .goOn, .goOn]

/-- A slot deletes the first object; the second is still connected, and knows it. -/
theorem connected_iff_of_run_delete :
    ∃ state : SigSlot, state.fault = false ∧ state.senders 2 = some [0] ∧
      ∃ connections, state.connected 0 = some connections ∧
        ∃ connection ∈ connections, connection.dest = 2 := by
  have permitted : machine.permits (fun state action => decide (state.Proper action)) new
      deleteInSlot = true := by decide
  have checked : (machine.exec new deleteInSlot).any
      (fun result => decide (result.1.senders 2 = some [0])) = true := by decide
  obtain ⟨state, events, run, check⟩ :=
    Machine.exists_runWhere_of_exec (fun _ _ => of_decide_eq_true) permitted checked
  obtain ⟨fault, knows⟩ := connected_iff_of_run run
  have senders : state.senders 2 = some [0] := of_decide_eq_true check
  exact ⟨state, fault, senders, (knows 0 2).mpr ⟨[0], senders, List.mem_cons_self⟩⟩

/-- Whatever the slots do in a proper run, an emission calls in the order of connection, nobody
twice, and everybody who stays connected throughout. -/
theorem called_of_run {actions : List SigSlotAction} {events : List SigSlotEvent}
    (run : machine.RunWhere Proper new actions state events) {signal : Nat}
    {started called left : List Nat} (done : .done signal started called left ∈ events) :
    called.Pairwise (· < ·) ∧ ∀ id ∈ started, id ∈ left → id ∈ called :=
  (sound_run run).2 _ done

/-- A slot deletes another object that the emission has not called yet. -/
theorem called_of_run_delete :
    ∃ state events, machine.RunWhere Proper new deleteInSlot state events ∧
      .done 0 [0, 1] [0, 1] [1] ∈ events ∧
      [0, 1].Pairwise (· < ·) ∧ ∀ id ∈ [0, 1], id ∈ [1] → id ∈ [0, 1] := by
  have permitted : machine.permits (fun state action => decide (state.Proper action)) new
      deleteInSlot = true := by decide
  have checked : (machine.exec new deleteInSlot).any
      (fun result => decide (.done 0 [0, 1] [0, 1] [1] ∈ result.2)) = true := by decide
  obtain ⟨state, events, run, check⟩ :=
    Machine.exists_runWhere_of_exec (fun _ _ => of_decide_eq_true) permitted checked
  have done : .done 0 [0, 1] [0, 1] [1] ∈ events := of_decide_eq_true check
  exact ⟨state, events, run, done, called_of_run run done⟩

end SigSlot

end VzSdk.Base
