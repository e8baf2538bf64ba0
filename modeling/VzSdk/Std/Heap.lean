import VzSdk.Std.PriorityQueue

/-!
# Heaps in a container

A container is a heap when no item is greater than its parent; where an item
stands is otherwise left to the library. `Algorithms` is what the library
promises of its three functions, whatever arrangement they choose. `drain` pops
as long as the top does not satisfy `stop`; `drain_drained` says what is popped
and what is left, and `popAll_eq` that the order in which a whole heap is popped
depends on its items only.
-/

namespace VzSdk.Std.Heap

universe u

variable {α : Type u} {less : α → α → Bool} {stop : α → Bool}

/-- No item is greater than its parent. -/
def IsHeap (less : α → α → Bool) (container : List α) : Prop :=
  ∀ index item parent, 0 < index → container[index]? = some item →
    container[(index - 1) / 2]? = some parent → less parent item = false

/-- The empty container is a heap. -/
theorem isHeap_nil : IsHeap less [] := by
  intro index item parent _ atIndex
  simp at atIndex

/-- Nothing in a heap is greater than its first item. -/
theorem IsHeap.top (order : PriorityQueue.StrictWeak less) {top : α} {rest : List α}
    (isHeap : IsHeap less (top :: rest)) : ∀ item ∈ top :: rest, less top item = false := by
  suffices atIndex : ∀ index item, (top :: rest)[index]? = some item → less top item = false by
    intro item member
    obtain ⟨index, found⟩ := List.getElem?_of_mem member
    exact atIndex index item found
  intro index
  induction index using Nat.strongRecOn with
  | ind index inductionHypothesis =>
      intro item found
      by_cases root : index = 0
      · subst root
        cases found
        exact order.irrefl top
      · have inside := (List.getElem?_eq_some_iff.mp found).1
        have parentInside : (index - 1) / 2 < (top :: rest).length := by omega
        have parent := List.getElem?_eq_getElem parentInside
        exact order.trans_false (inductionHypothesis _ (by omega) _ parent)
          (isHeap index item _ (by omega) found parent)

/-- What the standard library promises of `push_heap` behind `push_back`, of `pop_heap` before
`pop_back`, and of `make_heap`. -/
structure Algorithms (less : α → α → Bool) where
  pushHeap : List α → α → List α
  popHeap : List α → List α
  makeHeap : List α → List α
  perm_pushHeap : ∀ {container} item, IsHeap less container →
    (pushHeap container item).Perm (item :: container)
  isHeap_pushHeap : ∀ {container} item, IsHeap less container →
    IsHeap less (pushHeap container item)
  perm_popHeap : ∀ {top rest}, IsHeap less (top :: rest) → (popHeap (top :: rest)).Perm rest
  isHeap_popHeap : ∀ {top rest}, IsHeap less (top :: rest) → IsHeap less (popHeap (top :: rest))
  perm_makeHeap : ∀ container, (makeHeap container).Perm container
  isHeap_makeHeap : ∀ container, IsHeap less (makeHeap container)

namespace Algorithms

variable (algorithms : Algorithms less)

/-- Pop while the top does not satisfy `stop`: the items popped, in order, and the heap left. -/
def drainFor (stop : α → Bool) : Nat → List α → List α × List α
  | 0, container => ([], container)
  | _ + 1, [] => ([], [])
  | fuel + 1, top :: rest =>
      if stop top then ([], top :: rest)
      else
        let (moved, left) := drainFor stop fuel (algorithms.popHeap (top :: rest))
        (top :: moved, left)

/-- Pop the elements up to the first at which to stop. -/
def drain (stop : α → Bool) (container : List α) : List α × List α :=
  algorithms.drainFor stop container.length container

end Algorithms

/-- What a drained heap looks like: the part popped beside the part left. -/
structure Drained (less : α → α → Bool) (stop : α → Bool) (container moved left : List α) :
    Prop where
  perm : (moved ++ left).Perm container
  isHeap : IsHeap less left
  sorted : moved.Pairwise fun first second => less first second = false
  above : ∀ item ∈ moved, ∀ other ∈ left, less item other = false
  passes : ∀ item ∈ moved, stop item = false
  halts : ∀ top rest, left = top :: rest → stop top = true

/-- With enough fuel the heap is drained. -/
theorem drainFor_drained (order : PriorityQueue.StrictWeak less) (algorithms : Algorithms less)
    (stop : α → Bool) (fuel : Nat) {container : List α} (isHeap : IsHeap less container)
    (enough : container.length ≤ fuel) :
    Drained less stop container (algorithms.drainFor stop fuel container).1
      (algorithms.drainFor stop fuel container).2 := by
  induction fuel generalizing container with
  | zero =>
      have nothing : container = [] := List.length_eq_zero_iff.mp (by omega)
      subst nothing
      exact ⟨.refl _, isHeap_nil, .nil, by simp [Algorithms.drainFor],
        by simp [Algorithms.drainFor], by simp [Algorithms.drainFor]⟩
  | succ fuel inductionHypothesis =>
      cases container with
      | nil =>
          exact ⟨.refl _, isHeap_nil, .nil, by simp [Algorithms.drainFor],
            by simp [Algorithms.drainFor], by simp [Algorithms.drainFor]⟩
      | cons top rest =>
          cases stops : stop top with
          | true =>
              simp only [Algorithms.drainFor, stops, if_true]
              refine ⟨.refl _, isHeap, .nil, by simp, by simp, ?_⟩
              rintro _ _ ⟨⟩
              exact stops
          | false =>
              have popped := algorithms.perm_popHeap isHeap
              have drained := inductionHypothesis (algorithms.isHeap_popHeap isHeap) (by
                rw [popped.length_eq]
                simpa using enough)
              simp only [Algorithms.drainFor, stops, Bool.false_eq_true, if_false]
              generalize algorithms.drainFor stop fuel (algorithms.popHeap (top :: rest)) = result
                at drained ⊢
              have members := drained.perm.trans popped
              have greatest := isHeap.top order
              refine ⟨members.cons top, drained.isHeap, ?_, ?_, ?_, drained.halts⟩
              · refine List.pairwise_cons.mpr ⟨?_, drained.sorted⟩
                intro item member
                have stood := members.subset (List.mem_append_left _ member)
                exact greatest item (List.mem_cons_of_mem _ stood)
              · intro item member other stays
                rcases List.mem_cons.mp member with rfl | member
                · have stood := members.subset (List.mem_append_right _ stays)
                  exact greatest other (List.mem_cons_of_mem _ stood)
                · exact drained.above item member other stays
              · intro item member
                rcases List.mem_cons.mp member with rfl | member
                · exact stops
                · exact drained.passes item member

/-- Draining a heap takes the elements in order, up to the first at which to stop. -/
theorem drain_drained (order : PriorityQueue.StrictWeak less) (algorithms : Algorithms less)
    (stop : α → Bool) {container : List α} (isHeap : IsHeap less container) :
    Drained less stop container (algorithms.drain stop container).1
      (algorithms.drain stop container).2 :=
  drainFor_drained order algorithms stop container.length isHeap (Nat.le_refl _)

/-! ## The order of a whole heap -/

/-- The items in the order in which they are popped. -/
def Algorithms.popAll (algorithms : Algorithms less) (container : List α) : List α :=
  (algorithms.drain (fun _ => false) container).1

/-- No two different items are equal in the order. -/
def Distinct (less : α → α → Bool) (items : List α) : Prop :=
  ∀ first ∈ items, ∀ second ∈ items, less first second = false → less second first = false →
    first = second

section

variable (order : PriorityQueue.StrictWeak less) (algorithms : Algorithms less)

include order

/-- Popping everything loses nothing. -/
theorem perm_popAll {container : List α} (isHeap : IsHeap less container) :
    (algorithms.popAll container).Perm container := by
  have drained := drain_drained order algorithms (fun _ => false) isHeap
  have nothing : (algorithms.drain (fun _ => false) container).2 = [] := by
    cases left : (algorithms.drain (fun _ => false) container).2 with
    | nil => rfl
    | cons top rest => exact absurd (drained.halts top rest left) (by simp)
  have perm := drained.perm
  rwa [nothing, List.append_nil] at perm

/-- The elements are popped in order. -/
theorem sorted_popAll {container : List α} (isHeap : IsHeap less container) :
    (algorithms.popAll container).Pairwise fun first second => less first second = false :=
  (drain_drained order algorithms (fun _ => false) isHeap).sorted

/-- The only order in which a heap can be popped is the sorted one. -/
theorem popAll_eq {container sorted : List α} (isHeap : IsHeap less container)
    (distinct : Distinct less container) (perm : sorted.Perm container)
    (inOrder : sorted.Pairwise fun first second => less first second = false) :
    algorithms.popAll container = sorted := by
  have popped := perm_popAll order algorithms isHeap
  refine List.Perm.eq_of_pairwise ?_ (sorted_popAll order algorithms isHeap) inOrder
    (popped.trans perm.symm)
  intro first second inFirst inSecond
  exact distinct first (popped.subset inFirst) second (perm.subset inSecond)

/-- Compacting a heap and making a heap of what stays leaves the order of what stays. -/
theorem popAll_makeHeap_filter {container : List α} (isHeap : IsHeap less container)
    (distinct : Distinct less container) (stays : α → Bool) :
    algorithms.popAll (algorithms.makeHeap (container.filter stays)) =
      (algorithms.popAll container).filter stays := by
  have made := algorithms.perm_makeHeap (container.filter stays)
  refine popAll_eq order algorithms (algorithms.isHeap_makeHeap _) ?_ ?_ ?_
  · intro first inFirst second inSecond
    exact distinct first (List.mem_filter.mp (made.subset inFirst)).1 second
      (List.mem_filter.mp (made.subset inSecond)).1
  · exact ((perm_popAll order algorithms isHeap).filter stays).trans made.symm
  · exact (sorted_popAll order algorithms isHeap).filter stays

end

/-! ## A heap as a priority queue -/

section

variable (order : PriorityQueue.StrictWeak less) (algorithms : Algorithms less)

include order

/-- The first item of a heap is the one that a priority queue of the same items pops. -/
theorem top_eq_pop {top first : α} {rest queue others : List α} (isHeap : IsHeap less (top :: rest))
    (distinct : Distinct less (top :: rest)) (perm : (top :: rest).Perm queue)
    (popped : PriorityQueue.pop less queue = some (first, others)) :
    first = top ∧ others.Perm rest := by
  obtain ⟨before, after, whole, split, above, below⟩ := PriorityQueue.pop_some order popped
  have moved : queue.Perm (first :: others) := by
    rw [whole, split]
    exact List.perm_middle
  have inFirst : first ∈ top :: rest := perm.symm.subset (moved.symm.subset (by simp))
  have greatest : less first top = false := by
    have inTop : top ∈ before ++ first :: after := whole ▸ perm.subset (by simp)
    rcases List.mem_append.mp inTop with stands | stands
    · exact order.asymm (above top stands)
    · rcases List.mem_cons.mp stands with rfl | stands
      · exact order.irrefl top
      · exact below top stands
  have same : first = top :=
    distinct first inFirst top (by simp) greatest (isHeap.top order first inFirst)
  subst same
  exact ⟨rfl, ((perm.trans moved).cons_inv).symm⟩

/-- Draining a heap pops what draining a priority queue of the same items does. -/
theorem drainFor_agrees (stop : α → Bool) (fuel : Nat) {container queue : List α}
    (isHeap : IsHeap less container) (distinct : Distinct less container)
    (perm : container.Perm queue) :
    (algorithms.drainFor stop fuel container).1 =
        (PriorityQueue.drainFor less stop fuel queue).1 ∧
      (algorithms.drainFor stop fuel container).2.Perm
        (PriorityQueue.drainFor less stop fuel queue).2 := by
  induction fuel generalizing container queue with
  | zero => exact ⟨rfl, perm⟩
  | succ fuel inductionHypothesis =>
      cases container with
      | nil =>
          obtain rfl : queue = [] := perm.nil_eq.symm
          exact ⟨rfl, .refl _⟩
      | cons top rest =>
          cases popped : PriorityQueue.pop less queue with
          | none =>
              rw [PriorityQueue.pop_none popped] at perm
              exact absurd perm.eq_nil (by simp)
          | some result =>
              obtain ⟨first, others⟩ := result
              obtain ⟨rfl, left⟩ := top_eq_pop order isHeap distinct perm popped
              have popHeap := algorithms.perm_popHeap isHeap
              obtain ⟨same, stay⟩ := inductionHypothesis (algorithms.isHeap_popHeap isHeap)
                (fun one inOne two inTwo => distinct one (List.mem_cons_of_mem _ (popHeap.subset inOne))
                  two (List.mem_cons_of_mem _ (popHeap.subset inTwo)))
                (popHeap.trans left.symm)
              cases stops : stop first with
              | true => simpa [Algorithms.drainFor, PriorityQueue.drainFor, popped, stops] using perm
              | false =>
                  simp only [Algorithms.drainFor, PriorityQueue.drainFor, popped, stops,
                    Bool.false_eq_true, if_false]
                  exact ⟨by rw [same], stay⟩

/-- Without equal elements a heap is drained as the sorted queue is. -/
theorem drain_agrees (stop : α → Bool) {container queue : List α} (isHeap : IsHeap less container)
    (distinct : Distinct less container) (perm : container.Perm queue) :
    (algorithms.drain stop container).1 = (PriorityQueue.drain less stop queue).1 ∧
      (algorithms.drain stop container).2.Perm (PriorityQueue.drain less stop queue).2 := by
  unfold Algorithms.drain PriorityQueue.drain
  rw [← perm.length_eq]
  exact drainFor_agrees order algorithms stop container.length isHeap distinct perm

end

/-! ## Containers kept sorted -/

/-- A sorted container is a heap. -/
theorem isHeap_of_sorted {container : List α}
    (sorted : container.Pairwise fun first second => less first second = false) :
    IsHeap less container := by
  intro index item parent positive found parentFound
  obtain ⟨inside, rfl⟩ := List.getElem?_eq_some_iff.mp found
  obtain ⟨parentInside, rfl⟩ := List.getElem?_eq_some_iff.mp parentFound
  exact List.pairwise_iff_getElem.mp sorted _ _ parentInside inside (by omega)

/-- Put an item before the first one that it is not less than. -/
def insert (less : α → α → Bool) (item : α) : List α → List α
  | [] => [item]
  | other :: rest => if less item other then other :: insert less item rest else item :: other :: rest

/-- The container in order. -/
def sort (less : α → α → Bool) (container : List α) : List α := container.foldr (insert less) []

/-- An insertion loses nothing. -/
theorem perm_insert (item : α) (container : List α) :
    (insert less item container).Perm (item :: container) := by
  induction container with
  | nil => exact .refl _
  | cons other rest inductionHypothesis =>
      unfold insert
      split
      · exact (inductionHypothesis.cons other).trans (.swap item other rest)
      · exact .refl _

/-- An insertion keeps the order. -/
theorem sorted_insert (order : PriorityQueue.StrictWeak less) {container : List α}
    (sorted : container.Pairwise fun first second => less first second = false) (item : α) :
    (insert less item container).Pairwise fun first second => less first second = false := by
  induction container with
  | nil => simp [insert]
  | cons other rest inductionHypothesis =>
      obtain ⟨below, behind⟩ := List.pairwise_cons.mp sorted
      unfold insert
      split
      · next smaller =>
          refine List.pairwise_cons.mpr ⟨?_, inductionHypothesis behind⟩
          intro second member
          rcases List.mem_cons.mp ((perm_insert item rest).subset member) with rfl | member
          · exact order.asymm smaller
          · exact below second member
      · next notSmaller =>
          have atLeast : less item other = false := by simpa using notSmaller
          refine List.pairwise_cons.mpr ⟨?_, sorted⟩
          intro second member
          rcases List.mem_cons.mp member with rfl | member
          · exact atLeast
          · exact order.trans_false atLeast (below second member)

/-- Sorting loses nothing. -/
theorem perm_sort (container : List α) : (sort less container).Perm container := by
  induction container with
  | nil => exact .refl _
  | cons item rest inductionHypothesis =>
      exact (perm_insert item _).trans (inductionHypothesis.cons item)

/-- A sorted container is a heap. -/
theorem isHeap_sort (order : PriorityQueue.StrictWeak less) (container : List α) :
    IsHeap less (sort less container) := by
  apply isHeap_of_sorted
  induction container with
  | nil => exact .nil
  | cons item rest inductionHypothesis => exact sorted_insert order inductionHypothesis item

/-- One arrangement that keeps the promises. -/
def sorting (order : PriorityQueue.StrictWeak less) : Algorithms less where
  pushHeap container item := sort less (item :: container)
  popHeap container := sort less container.tail
  makeHeap := sort less
  perm_pushHeap _ _ := perm_sort _
  isHeap_pushHeap _ _ := isHeap_sort order _
  perm_popHeap _ := perm_sort _
  isHeap_popHeap _ := isHeap_sort order _
  perm_makeHeap := perm_sort
  isHeap_makeHeap := isHeap_sort order

end VzSdk.Std.Heap
