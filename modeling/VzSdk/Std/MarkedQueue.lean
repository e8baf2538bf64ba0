/-!
# A queue with marks

A first-in first-out queue to whose earlier states one can return. A mark holds
what was unread when it was made and everything that was appended since, until
the elements are moved: from then on it is void.
-/

namespace VzSdk.Std

universe u

/-- A queue in which positions can be marked and returned to. -/
structure MarkedQueue (Element : Type u) where
  unread : List Element
  /-- In the order in which they were made; a void mark holds nothing. -/
  marks : List (Option (List Element))
deriving DecidableEq, Repr

namespace MarkedQueue

variable {Element : Type u}

/-- Put elements at the back. Moving what is there makes the marks void. -/
def append (queue : MarkedQueue Element) (items : List Element) (moved : Bool) :
    MarkedQueue Element where
  unread := queue.unread ++ items
  marks := queue.marks.map fun mark => if moved then none else mark.map (· ++ items)

/-- Take the first elements, if there are that many. -/
def take (queue : MarkedQueue Element) (count : Nat) :
    MarkedQueue Element × Option (List Element) :=
  if count ≤ queue.unread.length then
    ({ queue with unread := queue.unread.drop count }, some (queue.unread.take count))
  else (queue, none)

/-- Keep the first elements only; this moves them. -/
def cut (queue : MarkedQueue Element) (count : Nat) : MarkedQueue Element where
  unread := queue.unread.take count
  marks := queue.marks.map fun _ => none

/-- Mark the present position. -/
def mark (queue : MarkedQueue Element) : MarkedQueue Element :=
  { queue with marks := queue.marks ++ [some queue.unread] }

/-- Return to a mark that is not void. -/
def restore (queue : MarkedQueue Element) (index : Nat) : MarkedQueue Element × Bool :=
  match queue.marks[index]? with
  | some (some unread) => ({ queue with unread := unread }, true)
  | _ => (queue, false)

end MarkedQueue

end VzSdk.Std
