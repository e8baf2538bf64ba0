/-!
# Loops with an exit

`Loop.run` executes a loop body turn by turn and answers nothing when the
allowed number of turns is used up. `Loop.total` is the total-correctness rule:
an invariant, a decreasing measure and a postcondition of every exit give a
result, not only a property of a result that might never come.
-/

namespace VzSdk.Std

universe u v

/-- What one turn of a loop decides: go round again from a new state, or leave
the loop with a result. -/
inductive Turn (σ : Type u) (ρ : Type v) where
  | again (state : σ)
  | leave (result : ρ)

namespace Loop

variable {σ : Type u} {ρ : Type v}

/-- At most `fuel` turns of `body`. A body that does not finish its own turn
answers `none`, and so does the loop around it. -/
def run (body : σ → Option (Turn σ ρ)) : Nat → σ → Option ρ
  | 0, _ => none
  | fuel + 1, state =>
      match body state with
      | none => none
      | some (.leave result) => some result
      | some (.again next) => run body fuel next

/-- A turn that leaves ends the loop. -/
theorem run_leave {body : σ → Option (Turn σ ρ)} {state : σ} {result : ρ} {fuel : Nat}
    (turn : body state = some (.leave result)) : run body (fuel + 1) state = some result := by
  simp [run, turn]

/-- A turn that goes on leaves the rest to the loop. -/
theorem run_again {body : σ → Option (Turn σ ρ)} {state next : σ} {fuel : Nat}
    (turn : body state = some (.again next)) :
    run body (fuel + 1) state = run body fuel next := by
  simp [run, turn]

/-- Total correctness: from a state of the invariant every turn either leaves
with the postcondition or returns to the invariant with a smaller measure, so
a loop with more fuel than its measure leaves, and with the postcondition. -/
theorem total {body : σ → Option (Turn σ ρ)} (Inv : σ → Prop) (Post : ρ → Prop)
    (measure : σ → Nat)
    (turn : ∀ state, Inv state →
      (∃ result, body state = some (.leave result) ∧ Post result) ∨
      ∃ next, body state = some (.again next) ∧ Inv next ∧ measure next < measure state)
    {fuel : Nat} {state : σ} (holds : Inv state) (enough : measure state < fuel) :
    ∃ result, run body fuel state = some result ∧ Post result := by
  induction fuel generalizing state with
  | zero => omega
  | succ fuel inductionHypothesis =>
      rcases turn state holds with ⟨result, left, post⟩ | ⟨next, again, holdsNext, smaller⟩
      · exact ⟨result, run_leave left, post⟩
      · rw [run_again again]
        exact inductionHypothesis holdsNext (by omega)

end Loop

end VzSdk.Std
