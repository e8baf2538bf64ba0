/-!
# Priority queues

A queue is the list of its items in the order they were put in. `pop` takes the
greatest item in the order `less`, the earliest of several greatest ones, and
`drain` pops as long as the top does not satisfy `stop`. `Drains` is the same
loop as a relation; its lemmas say what a drained part looks like beside the
part left.
-/

namespace VzSdk.Std.PriorityQueue

universe u

variable {α : Type u} {less : α → α → Bool} {stop : α → Bool}

/-- What a priority queue asks of its comparison. -/
structure StrictWeak (less : α → α → Bool) : Prop where
  asymm : ∀ {a b}, less a b = true → less b a = false
  trans_false : ∀ {a b c}, less a b = false → less b c = false → less a c = false

/-- No element is less than itself. -/
theorem StrictWeak.irrefl (order : StrictWeak less) (item : α) : less item item = false := by
  cases same : less item item with
  | false => rfl
  | true => exact same.symm.trans (order.asymm same)

/-- The greatest item, and the queue without it. -/
def pop (less : α → α → Bool) : List α → Option (α × List α)
  | [] => none
  | item :: queue =>
      match pop less queue with
      | none => some (item, [])
      | some (top, rest) => if less item top then some (top, item :: rest) else some (item, queue)

/-- Pop while the top does not satisfy `stop`: the items popped, in order, and the queue left. -/
def drainFor (less : α → α → Bool) (stop : α → Bool) : Nat → List α → List α × List α
  | 0, queue => ([], queue)
  | fuel + 1, queue =>
      match pop less queue with
      | none => ([], [])
      | some (top, rest) =>
          if stop top then ([], queue)
          else
            let (moved, left) := drainFor less stop fuel rest
            (top :: moved, left)

/-- Pop the elements up to the first at which to stop. -/
def drain (less : α → α → Bool) (stop : α → Bool) (queue : List α) : List α × List α :=
  drainFor less stop queue.length queue

/-- Nothing is popped from an empty queue only. -/
theorem pop_none {queue : List α} (none : pop less queue = none) : queue = [] := by
  cases queue with
  | nil => rfl
  | cons item queue =>
      unfold pop at none
      split at none
      · cases none
      · split at none <;> cases none

/-- Everything that entered before the top is less than it, and nothing behind it is greater. -/
theorem pop_some (order : StrictWeak less) {queue rest : List α} {top : α}
    (popped : pop less queue = some (top, rest)) :
    ∃ before after, queue = before ++ top :: after ∧ rest = before ++ after ∧
      (∀ item ∈ before, less item top = true) ∧ ∀ item ∈ after, less top item = false := by
  induction queue generalizing top rest with
  | nil => cases popped
  | cons item queue inductionHypothesis =>
      unfold pop at popped
      split at popped
      · next none =>
          cases popped
          rw [pop_none none]
          exact ⟨[], [], rfl, rfl, by simp, by simp⟩
      · next top' rest' tail =>
          obtain ⟨before, after, whole, others, above, below⟩ := inductionHypothesis tail
          split at popped
          · next smaller =>
              cases popped
              refine ⟨item :: before, after, by simp [whole], by simp [others], ?_, below⟩
              intro other member
              rcases List.mem_cons.mp member with rfl | member
              · exact smaller
              · exact above other member
          · next notSmaller =>
              cases popped
              have atLeast : less item top' = false := by simpa using notSmaller
              refine ⟨[], queue, rfl, rfl, by simp, ?_⟩
              intro other member
              rw [whole] at member
              rcases List.mem_append.mp member with member | member
              · exact order.trans_false atLeast (order.asymm (above other member))
              · rcases List.mem_cons.mp member with rfl | member
                · exact atLeast
                · exact order.trans_false atLeast (below other member)

/-- A queue has one element less after a pop. -/
theorem length_pop {queue rest : List α} {top : α} (order : StrictWeak less)
    (popped : pop less queue = some (top, rest)) : queue.length = rest.length + 1 := by
  obtain ⟨before, after, whole, others, _⟩ := pop_some order popped
  simp only [whole, others, List.length_append, List.length_cons]
  omega

/-- The loop of `drain` as a relation between the queue, what was popped and what is left. -/
inductive Drains (less : α → α → Bool) (stop : α → Bool) : List α → List α → List α → Prop where
  | empty : Drains less stop [] [] []
  | stopped {queue top rest} (popped : pop less queue = some (top, rest)) (halts : stop top = true) :
      Drains less stop queue [] queue
  | moved {queue top rest moved left} (popped : pop less queue = some (top, rest))
      (passes : stop top = false) (tail : Drains less stop rest moved left) :
      Drains less stop queue (top :: moved) left

/-- A drained queue is drained in order, up to the first element at which to stop. -/
theorem drain_drains (order : StrictWeak less) (stop : α → Bool) (queue : List α) :
    Drains less stop queue (drain less stop queue).1 (drain less stop queue).2 := by
  suffices enough : ∀ fuel queue, queue.length ≤ fuel →
      Drains less stop queue (drainFor less stop fuel queue).1 (drainFor less stop fuel queue).2 from
    enough queue.length queue (Nat.le_refl _)
  intro fuel
  induction fuel with
  | zero =>
      intro queue bounded
      have nothing : queue = [] := List.length_eq_zero_iff.mp (by omega)
      rw [nothing]
      exact .empty
  | succ fuel inductionHypothesis =>
      intro queue bounded
      unfold drainFor
      split
      · next none =>
          rw [pop_none none]
          exact .empty
      · next top rest popped =>
          split
          · next halts => exact .stopped popped halts
          · next passes =>
              have shorter := length_pop order popped
              exact .moved popped (by simpa using passes) (inductionHypothesis rest (by omega))

namespace Drains

variable {queue moved left : List α}

/-- Draining loses nothing. -/
theorem perm (order : StrictWeak less) (drains : Drains less stop queue moved left) :
    (moved ++ left).Perm queue := by
  induction drains with
  | empty => exact .refl _
  | stopped popped halts => exact .refl _
  | moved popped passes tail inductionHypothesis =>
      obtain ⟨before, after, whole, others, _⟩ := pop_some order popped
      rw [whole]
      rw [others] at inductionHypothesis
      exact (inductionHypothesis.cons _).trans List.perm_middle.symm

/-- What is left keeps its order. -/
theorem left_sublist (order : StrictWeak less) (drains : Drains less stop queue moved left) :
    left.Sublist queue := by
  induction drains with
  | empty => exact .refl _
  | stopped popped halts => exact .refl _
  | moved popped passes tail inductionHypothesis =>
      obtain ⟨before, after, whole, others, _⟩ := pop_some order popped
      rw [others] at inductionHypothesis
      rw [whole]
      exact inductionHypothesis.trans (List.Sublist.append_left (List.sublist_cons_self _ _) _)

/-- What is popped is nothing to stop at. -/
theorem moved_passes (drains : Drains less stop queue moved left) :
    ∀ item ∈ moved, stop item = false := by
  induction drains with
  | empty => simp
  | stopped popped halts => simp
  | moved popped passes tail inductionHypothesis =>
      intro item member
      rcases List.mem_cons.mp member with rfl | member
      · exact passes
      · exact inductionHypothesis item member

/-- A popped item is not less than anything popped or left after it. -/
theorem top_of_pop (order : StrictWeak less) {rest : List α} {top : α}
    (popped : pop less queue = some (top, rest)) : ∀ item ∈ rest, less top item = false := by
  obtain ⟨before, after, _, others, above, below⟩ := pop_some order popped
  intro item member
  rw [others] at member
  rcases List.mem_append.mp member with member | member
  · exact order.asymm (above item member)
  · exact below item member

/-- Items are popped in descending order, and nothing left is greater than one of them. -/
theorem sorted (order : StrictWeak less) (drains : Drains less stop queue moved left) :
    moved.Pairwise (fun first second => less first second = false) ∧
      ∀ item ∈ moved, ∀ other ∈ left, less item other = false := by
  induction drains with
  | empty => simp
  | stopped popped halts => simp
  | moved popped passes tail inductionHypothesis =>
      obtain ⟨descending, above⟩ := inductionHypothesis
      have top := top_of_pop order popped
      have members := tail.perm order
      refine ⟨List.pairwise_cons.mpr ⟨?_, descending⟩, ?_⟩
      · intro item member
        exact top item (members.subset (List.mem_append_left _ member))
      · intro item member other stays
        rcases List.mem_cons.mp member with rfl | member
        · exact top other (members.subset (List.mem_append_right _ stays))
        · exact above item member other stays

/-- If anything is left, its top stopped the loop. -/
theorem left_top (order : StrictWeak less) (drains : Drains less stop queue moved left) :
    left = [] ∨ ∃ top ∈ left, stop top = true ∧ ∀ item ∈ left, less top item = false := by
  induction drains with
  | empty => exact .inl rfl
  | stopped popped halts =>
      obtain ⟨before, after, whole, _, above, below⟩ := pop_some order popped
      refine .inr ⟨_, by simp [whole], halts, ?_⟩
      intro item member
      rw [whole] at member
      rcases List.mem_append.mp member with member | member
      · exact order.asymm (above item member)
      · rcases List.mem_cons.mp member with rfl | member
        · exact order.irrefl item
        · exact below item member
  | moved popped passes tail inductionHypothesis => exact inductionHypothesis

/-- Items of one kind that entered in descending order are popped in the order they entered. -/
theorem stable (order : StrictWeak less) (drains : Drains less stop queue moved left)
    (kind : α → Bool)
    (entered : (queue.filter kind).Pairwise fun first second => less first second = false) :
    moved.filter kind ++ left.filter kind = queue.filter kind := by
  induction drains with
  | empty => rfl
  | stopped popped halts => rfl
  | @moved queue top rest moved left popped passes tail inductionHypothesis =>
      obtain ⟨before, after, whole, others, above, _⟩ := pop_some order popped
      have sublist : (rest.filter kind).Sublist (queue.filter kind) := by
        rw [whole, others]
        exact (List.Sublist.append_left (List.sublist_cons_self _ _) _).filter kind
      have remaining := inductionHypothesis (entered.sublist sublist)
      cases same : kind top with
      | false => simpa [same, whole, others] using remaining
      | true =>
          -- An earlier item of the same kind would be less than the top and stand before it.
          have first : before.filter kind = [] := by
            rw [whole, List.filter_append, List.filter_cons_of_pos same] at entered
            refine List.eq_nil_iff_forall_not_mem.mpr fun item member => ?_
            have notLess := (List.pairwise_append.mp entered).2.2 item member top (by simp)
            rw [above item (List.mem_filter.mp member).1] at notLess
            cases notLess
          rw [others, List.filter_append, first, List.nil_append] at remaining
          rw [whole, List.filter_append, first, List.filter_cons_of_pos same,
            List.filter_cons_of_pos same, List.nil_append, List.cons_append, remaining]

/-- If everything left satisfies `stop`, the loop split the queue by it. -/
theorem left_eq_filter (order : StrictWeak less) (drains : Drains less stop queue moved left)
    (halts : ∀ item ∈ left, stop item = true) : left = queue.filter stop := by
  have kept : left.filter stop = left := List.filter_eq_self.mpr halts
  have gone : moved.filter stop = [] := List.filter_eq_nil_iff.mpr fun item member => by
    simp [drains.moved_passes item member]
  have sublist := (drains.left_sublist order).filter stop
  have sizes := ((drains.perm order).filter stop).length_eq
  rw [List.filter_append, gone, List.nil_append] at sizes
  rw [kept] at sublist sizes
  exact sublist.eq_of_length sizes

end Drains

end VzSdk.Std.PriorityQueue
