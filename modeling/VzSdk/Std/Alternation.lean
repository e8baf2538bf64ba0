/-!
# Alternating sequences

A sequence of values alternates when each one differs from the one before it.
`Alternates last values current` keeps the value before the first and the last
value, so that sequences that stand one behind the other are put together and
taken apart like paths.
-/

namespace VzSdk.Std

universe u v

variable {α : Type u} {β : Type v}

/-- Each value differs from the one before it, from `last` before the first up to `current`. -/
inductive Alternates : α → List α → α → Prop where
  | nil {last} : Alternates last [] last
  | cons {last value values current} (differ : value ≠ last)
      (rest : Alternates value values current) : Alternates last (value :: values) current

namespace Alternates

variable {last middle current : α} {values more : List α}

/-- What alternates in two parts alternates. -/
theorem append (first : Alternates last values middle) (second : Alternates middle more current) :
    Alternates last (values ++ more) current := by
  induction first with
  | nil => exact second
  | cons differ rest inductionHypothesis => exact .cons differ (inductionHypothesis second)

/-- What alternates does so in both parts. -/
theorem split (both : Alternates last (values ++ more) current) :
    ∃ middle, Alternates last values middle ∧ Alternates middle more current := by
  induction values generalizing last with
  | nil => exact ⟨last, .nil, both⟩
  | cons value values inductionHypothesis =>
      cases both with
      | cons differ rest =>
          obtain ⟨middle, first, second⟩ := inductionHypothesis rest
          exact ⟨middle, .cons differ first, second⟩

/-- Values are renamed apart. -/
theorem map {rename : α → β} (apart : ∀ {first second}, rename first = rename second → first = second)
    (alternates : Alternates last values current) :
    Alternates (rename last) (values.map rename) (rename current) := by
  induction alternates with
  | nil => exact .nil
  | cons differ rest inductionHypothesis =>
      exact .cons (fun same => differ (apart same)) inductionHypothesis

end Alternates

end VzSdk.Std
