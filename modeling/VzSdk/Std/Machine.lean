/-!
# Labelled machines

A machine takes a label to its next state and the outputs of the step, or
refuses the label. `RunWhere` is a finite run all of whose steps are allowed by
a condition on the state before the step and its label; `Run` allows every
step. `RunWhere.invariant` is the induction over runs that every result about
reachable states goes through, `good_iff` and `throughout_iff` are the rules for
conditions that are exact, and `run_of_exec` turns an evaluated run into a proof
of it. `watch` keeps a record of the run beside the state; it changes no run.
-/

namespace VzSdk.Std

universe u v w x u' v'

/-- A deterministic labelled transition function with outputs. -/
structure Machine (State : Type u) (Label : Type v) (Output : Type w) where
  step : State → Label → Option (State × List Output)

namespace Machine

variable {State : Type u} {Label : Type v} {Output : Type w}

/-- A finite run whose steps all satisfy `allowed`. -/
inductive RunWhere (machine : Machine State Label Output) (allowed : State → Label → Prop)
    (start : State) : List Label → State → List Output → Prop where
  | nil : RunWhere machine allowed start [] start []
  | snoc {labels state outputs label next emitted}
      (prior : RunWhere machine allowed start labels state outputs)
      (permitted : allowed state label)
      (transition : machine.step state label = some (next, emitted)) :
      RunWhere machine allowed start (labels ++ [label]) next (outputs ++ emitted)

/-- A finite run. -/
abbrev Run (machine : Machine State Label Output) (start : State) :
    List Label → State → List Output → Prop :=
  machine.RunWhere (fun _ _ => True) start

variable {machine : Machine State Label Output} {allowed : State → Label → Prop} {start : State}

/-- What holds at the start and is kept by every allowed step holds of every run. -/
theorem RunWhere.invariant (Inv : List Label → State → List Output → Prop)
    (initial : Inv [] start [])
    (preserved : ∀ {labels state outputs label next emitted}, Inv labels state outputs →
      allowed state label → machine.step state label = some (next, emitted) →
      Inv (labels ++ [label]) next (outputs ++ emitted))
    {labels : List Label} {final : State} {outputs : List Output}
    (run : machine.RunWhere allowed start labels final outputs) : Inv labels final outputs := by
  induction run with
  | nil => exact initial
  | snoc prior permitted transition inductionHypothesis =>
      exact preserved inductionHypothesis permitted transition

/-- A run of allowed steps is a run. -/
theorem RunWhere.run {labels : List Label} {final : State} {outputs : List Output}
    (run : machine.RunWhere allowed start labels final outputs) :
    machine.Run start labels final outputs := by
  induction run with
  | nil => exact .nil
  | snoc prior permitted transition inductionHypothesis =>
      exact .snoc inductionHypothesis trivial transition

/-- Continue a run by another one that starts where it ends. -/
theorem RunWhere.append {labels more : List Label} {middle final : State}
    {outputs rest : List Output} (first : machine.RunWhere allowed start labels middle outputs)
    (second : machine.RunWhere allowed middle more final rest) :
    machine.RunWhere allowed start (labels ++ more) final (outputs ++ rest) := by
  induction second with
  | nil => simpa using first
  | snoc prior permitted transition inductionHypothesis =>
      simpa [List.append_assoc] using RunWhere.snoc inductionHypothesis permitted transition

/-- One permitted step is a run. -/
theorem RunWhere.single {label : Label} {next : State} {emitted : List Output}
    (permitted : allowed start label) (transition : machine.step start label = some (next, emitted)) :
    machine.RunWhere allowed start [label] next emitted := by
  simpa using RunWhere.snoc RunWhere.nil permitted transition

/-- What every allowed step permits, a run of allowed steps permits. -/
theorem RunWhere.mono {permitted : State → Label → Prop}
    (weaker : ∀ state label, allowed state label → permitted state label) {labels : List Label}
    {final : State} {outputs : List Output}
    (run : machine.RunWhere allowed start labels final outputs) :
    machine.RunWhere permitted start labels final outputs := by
  induction run with
  | nil => exact .nil
  | snoc prior allows transition inductionHypothesis =>
      exact .snoc inductionHypothesis (weaker _ _ allows) transition

/-- Conditions that agree on the steps of runs allow the same runs. -/
theorem RunWhere.congr {allowed permitted : State → Label → Prop}
    (exact : ∀ {labels state outputs label next emitted}, machine.Run start labels state outputs →
      machine.step state label = some (next, emitted) →
        (allowed state label ↔ permitted state label))
    {labels : List Label} {final : State} {outputs : List Output} :
    machine.RunWhere allowed start labels final outputs ↔
      machine.RunWhere permitted start labels final outputs := by
  constructor
  · intro run
    induction run with
    | nil => exact .nil
    | snoc prior allows transition inductionHypothesis =>
        exact .snoc inductionHypothesis ((exact prior.run transition).mp allows) transition
  · intro run
    induction run with
    | nil => exact .nil
    | snoc prior permits transition inductionHypothesis =>
        exact .snoc inductionHypothesis ((exact prior.run transition).mpr permits) transition

/-- A run is one of another machine too, if the two take its steps alike. -/
theorem RunWhere.transfer {other : Machine State Label Output}
    (same : ∀ {labels state outputs label}, machine.RunWhere allowed start labels state outputs →
      allowed state label → machine.step state label = other.step state label)
    {labels : List Label} {final : State} {outputs : List Output}
    (run : machine.RunWhere allowed start labels final outputs) :
    other.RunWhere allowed start labels final outputs := by
  induction run with
  | nil => exact .nil
  | snoc prior permitted transition inductionHypothesis =>
      exact .snoc inductionHypothesis permitted ((same prior permitted).symm.trans transition)

/-- Where a step keeps the outputs good exactly when it is allowed, a run's
outputs are good exactly when all its steps are allowed. The run's own condition
stays. -/
theorem RunWhere.good_iff_within (Good : List Output → Prop)
    {within allowed : State → Label → Prop} (initial : Good [])
    (exact : ∀ {labels state outputs label next emitted},
      machine.RunWhere within start labels state outputs →
      machine.step state label = some (next, emitted) →
      (Good (outputs ++ emitted) ↔ Good outputs ∧ allowed state label))
    {labels : List Label} {final : State} {outputs : List Output}
    (run : machine.RunWhere within start labels final outputs) :
    Good outputs ↔
      machine.RunWhere (fun state label => within state label ∧ allowed state label) start labels
        final outputs := by
  constructor
  · induction run with
    | nil => exact fun _ => .nil
    | snoc prior isWithin transition inductionHypothesis =>
        intro good
        obtain ⟨before, permitted⟩ := (exact prior transition).mp good
        exact .snoc (inductionHypothesis before) ⟨isWithin, permitted⟩ transition
  · intro restricted
    induction restricted with
    | nil => exact initial
    | snoc prior permitted transition inductionHypothesis =>
        have isWithin := prior.mono fun _ _ both => both.1
        exact (exact isWithin transition).mpr ⟨inductionHypothesis isWithin, permitted.2⟩

/-- Where the permitted steps are those that keep the outputs good, the runs with good outputs are
those whose steps are permitted. -/
theorem RunWhere.good_iff (Good : List Output → Prop) {allowed : State → Label → Prop}
    (initial : Good [])
    (exact : ∀ {labels state outputs label next emitted}, machine.Run start labels state outputs →
      machine.step state label = some (next, emitted) →
      (Good (outputs ++ emitted) ↔ Good outputs ∧ allowed state label))
    {labels : List Label} {final : State} {outputs : List Output}
    (run : machine.Run start labels final outputs) :
    Good outputs ↔ machine.RunWhere allowed start labels final outputs := by
  rw [RunWhere.good_iff_within Good initial exact run]
  exact ⟨RunWhere.mono fun _ _ both => both.2, RunWhere.mono fun _ _ permitted => ⟨trivial, permitted⟩⟩

/-- Where a step emits only clean outputs exactly when it is allowed, a run
emits only clean outputs exactly when all its steps are allowed. -/
theorem RunWhere.clean_iff {clean : Output → Prop} {allowed : State → Label → Prop}
    (exact : ∀ {state label next emitted}, machine.step state label = some (next, emitted) →
      ((∀ output ∈ emitted, clean output) ↔ allowed state label))
    {labels : List Label} {final : State} {outputs : List Output}
    (run : machine.Run start labels final outputs) :
    (∀ output ∈ outputs, clean output) ↔ machine.RunWhere allowed start labels final outputs := by
  refine RunWhere.good_iff (fun outputs => ∀ output ∈ outputs, clean output)
    (List.forall_mem_nil _) ?_ run
  intro labels state outputs label next emitted _ transition
  rw [List.forall_mem_append, exact transition]

/-- The property holds in every state that the run goes through. -/
def Throughout (machine : Machine State Label Output) (Good : State → Prop) (start : State)
    (labels : List Label) (final : State) (outputs : List Output) : Prop :=
  machine.RunWhere (fun state _ => Good state) start labels final outputs ∧ Good final

/-- Where a step from a good state leads to a good state exactly when it is allowed, a
run goes through good states only exactly when all its steps are allowed. `Only` says
which labels the run is made of. -/
theorem RunWhere.throughout_iff (Good : State → Prop) {allowed : State → Label → Prop}
    {Only : Label → Prop} (initial : Good start)
    (exact : ∀ {labels state outputs label next emitted}, machine.Run start labels state outputs →
      Good state → Only label → machine.step state label = some (next, emitted) →
      (Good next ↔ allowed state label))
    {labels : List Label} {final : State} {outputs : List Output}
    (run : machine.Run start labels final outputs) (only : ∀ label ∈ labels, Only label) :
    machine.Throughout Good start labels final outputs ↔
      machine.RunWhere allowed start labels final outputs := by
  constructor
  · rintro ⟨throughout, goodLast⟩
    induction throughout with
    | nil => exact .nil
    | snoc prior good transition inductionHypothesis =>
        have before := inductionHypothesis prior.run
          (fun label member => only label (List.mem_append_left _ member)) good
        exact .snoc before ((exact prior.run good (only _ (by simp)) transition).mp goodLast)
          transition
  · intro restricted
    induction restricted with
    | nil => exact ⟨.nil, initial⟩
    | snoc prior permitted transition inductionHypothesis =>
        obtain ⟨throughout, good⟩ := inductionHypothesis prior.run
          fun label member => only label (List.mem_append_left _ member)
        exact ⟨.snoc throughout good transition,
          (exact prior.run good (only _ (by simp)) transition).mpr permitted⟩

/-- Under an invariant of the allowed steps, every step of a run is also allowed by
what the invariant gives. -/
theorem RunWhere.upgrade (Inv : State → Prop) {allowed permitted : State → Label → Prop}
    (initial : Inv start)
    (gives : ∀ {state label next emitted}, Inv state → allowed state label →
      machine.step state label = some (next, emitted) → permitted state label ∧ Inv next)
    {labels : List Label} {final : State} {outputs : List Output}
    (run : machine.RunWhere allowed start labels final outputs) :
    machine.RunWhere permitted start labels final outputs ∧ Inv final := by
  induction run with
  | nil => exact ⟨.nil, initial⟩
  | snoc prior allows transition inductionHypothesis =>
      obtain ⟨upgraded, holds⟩ := inductionHypothesis
      obtain ⟨permits, holdsNext⟩ := gives holds allows transition
      exact ⟨.snoc upgraded permits transition, holdsNext⟩

/-- The machine with a record of its run beside the state. -/
def watch {Record : Type x} (machine : Machine State Label Output)
    (note : Record → State → Label → State → Record) : Machine (State × Record) Label Output where
  step watched label :=
    match machine.step watched.1 label with
    | none => none
    | some (next, emitted) => some ((next, note watched.2 watched.1 label next), emitted)

section Watch

variable {Record : Type x} {note : Record → State → Label → State → Record}

/-- A step of a watched machine is one of the machine, and noted. -/
theorem step_of_watch {watched next : State × Record} {label : Label} {emitted : List Output}
    (transition : (machine.watch note).step watched label = some (next, emitted)) :
    machine.step watched.1 label = some (next.1, emitted) ∧
      next.2 = note watched.2 watched.1 label next.1 := by
  unfold watch at transition
  simp only at transition
  split at transition
  · cases transition
  · next isStep =>
      cases transition
      exact ⟨isStep, rfl⟩

/-- Every run can be watched. -/
theorem RunWhere.watched {labels : List Label} {final : State} {outputs : List Output}
    (run : machine.RunWhere allowed start labels final outputs) (record : Record) :
    ∃ last, (machine.watch note).RunWhere (fun watched label => allowed watched.1 label)
      (start, record) labels (final, last) outputs := by
  induction run with
  | nil => exact ⟨record, .nil⟩
  | @snoc labels state outputs label next emitted prior permitted transition inductionHypothesis =>
      obtain ⟨last, run⟩ := inductionHypothesis
      refine ⟨note last state label next, .snoc run permitted ?_⟩
      unfold watch
      simp only [transition]

/-- A mapping of states and labels under which every step is a step of an abstract machine
with the same outputs makes every run one of the abstract machine. -/
theorem RunWhere.refines {Abstract : Type u'} {Call : Type v'} {abstract : Machine Abstract Call Output}
    (mapping : State → Abstract) (relabel : State → Label → Call) (Inv : State → Prop)
    (initial : Inv start)
    (simulates : ∀ {state label next emitted}, Inv state → allowed state label →
      machine.step state label = some (next, emitted) →
        Inv next ∧ abstract.step (mapping state) (relabel state label) = some (mapping next, emitted))
    {labels : List Label} {final : State} {calls : List Call} {outputs : List Output}
    (run : (machine.watch fun calls state label _ => calls ++ [relabel state label]).RunWhere
      (fun watched label => allowed watched.1 label) (start, []) labels (final, calls) outputs) :
    Inv final ∧ abstract.Run (mapping start) calls (mapping final) outputs := by
  refine run.invariant (fun _ watched outputs =>
    Inv watched.1 ∧ abstract.Run (mapping start) watched.2 (mapping watched.1) outputs)
    ⟨initial, .nil⟩ ?_
  rintro _ watched _ label next _ ⟨inv, prior⟩ permitted transition
  obtain ⟨stepped, isCalls⟩ := step_of_watch transition
  obtain ⟨kept, simulated⟩ := simulates inv permitted stepped
  refine ⟨kept, ?_⟩
  rw [isCalls]
  exact .snoc prior trivial simulated

end Watch

/-- Evaluate a list of labels. -/
def exec (machine : Machine State Label Output) :
    State → List Label → Option (State × List Output)
  | state, [] => some (state, [])
  | state, label :: labels =>
      match machine.step state label with
      | none => none
      | some (next, emitted) =>
          match exec machine next labels with
          | none => none
          | some (final, outputs) => some (final, emitted ++ outputs)

/-- An evaluated run is a run. -/
theorem run_of_exec {labels : List Label} {final : State} {outputs : List Output}
    (evaluated : machine.exec start labels = some (final, outputs)) :
    machine.Run start labels final outputs := by
  induction labels generalizing start outputs with
  | nil =>
      cases evaluated
      exact .nil
  | cons label labels inductionHypothesis =>
      unfold exec at evaluated
      split at evaluated
      · cases evaluated
      · next next emitted transition =>
          split at evaluated
          · cases evaluated
          · next final' rest tail =>
              cases evaluated
              exact (RunWhere.single trivial transition).append (inductionHypothesis tail)

/-- A run whose evaluation passes a check. -/
theorem exists_run_of_exec {labels : List Label} {check : State × List Output → Bool}
    (checked : (machine.exec start labels).any check = true) :
    ∃ final outputs, machine.Run start labels final outputs ∧ check (final, outputs) = true := by
  cases evaluated : machine.exec start labels with
  | none =>
      rw [evaluated] at checked
      cases checked
  | some result =>
      rw [evaluated] at checked
      exact ⟨result.1, result.2, run_of_exec evaluated, checked⟩

/-- Every step of the evaluated run passes a check. -/
def permits (machine : Machine State Label Output) (allow : State → Label → Bool) :
    State → List Label → Bool
  | _, [] => true
  | state, label :: labels =>
      allow state label &&
        (machine.step state label).any fun result => permits machine allow result.1 labels

/-- A run whose steps all pass a check that is enough for `allowed`. -/
theorem RunWhere.of_permits {allow : State → Label → Bool} {labels : List Label} {final : State}
    {outputs : List Output} (enough : ∀ state label, allow state label = true → allowed state label)
    (checked : machine.permits allow start labels = true)
    (evaluated : machine.exec start labels = some (final, outputs)) :
    machine.RunWhere allowed start labels final outputs := by
  induction labels generalizing start outputs with
  | nil =>
      cases evaluated
      exact .nil
  | cons label labels inductionHypothesis =>
      unfold exec at evaluated
      simp only [permits, Bool.and_eq_true] at checked
      split at evaluated
      · cases evaluated
      · next next emitted transition =>
          split at evaluated
          · cases evaluated
          · next final' rest tail =>
              cases evaluated
              rw [transition] at checked
              exact (RunWhere.single (enough start label checked.1) transition).append
                (inductionHypothesis checked.2 tail)

/-- A run that is computed, with every step permitted. -/
theorem exists_runWhere_of_exec {allow : State → Label → Bool} {labels : List Label}
    {check : State × List Output → Bool}
    (enough : ∀ state label, allow state label = true → allowed state label)
    (permitted : machine.permits allow start labels = true)
    (checked : (machine.exec start labels).any check = true) :
    ∃ final outputs, machine.RunWhere allowed start labels final outputs ∧
      check (final, outputs) = true := by
  cases evaluated : machine.exec start labels with
  | none =>
      rw [evaluated] at checked
      cases checked
  | some result =>
      rw [evaluated] at checked
      exact ⟨result.1, result.2, .of_permits enough permitted evaluated, checked⟩

end Machine

end VzSdk.Std
