/-!
# Self-delimiting codes

A `PrefixCode` writes an item as a non-empty string from which the item and the
rest of the input can be read back. Reading a stream greedily is then
independent of how the stream is cut (`readAll_append`), inverts writing
(`readAll_encodeAll`), and returns the longest list of items that the stream
starts with (`readAll_longest`).
-/

namespace VzSdk.Std

universe u v

/-- A code whose items announce their own end. -/
structure PrefixCode (α : Type u) (β : Type v) where
  encode : α → List β
  read : List β → Option (α × List β)
  encode_ne_nil : ∀ item, encode item ≠ []
  read_encode : ∀ item rest, read (encode item ++ rest) = some (item, rest)
  encode_of_read : ∀ {input item rest}, read input = some (item, rest) →
    input = encode item ++ rest

namespace PrefixCode

variable {α : Type u} {β : Type v} (code : PrefixCode α β)

/-- The stream that carries a list of items. -/
def encodeAll (items : List α) : List β := items.flatMap code.encode

/-- No items are encoded as nothing. -/
@[simp] theorem encodeAll_nil : code.encodeAll [] = [] := rfl

/-- The first item is encoded in front. -/
@[simp] theorem encodeAll_cons (item : α) (items : List α) :
    code.encodeAll (item :: items) = code.encode item ++ code.encodeAll items := by
  simp [encodeAll]

/-- Items are encoded part by part. -/
@[simp] theorem encodeAll_append (first second : List α) :
    code.encodeAll (first ++ second) = code.encodeAll first ++ code.encodeAll second := by
  simp [encodeAll]

/-- Reading an item shortens the input, because no item is written as nothing. -/
theorem length_of_read {input rest : List β} {item : α}
    (success : code.read input = some (item, rest)) : rest.length < input.length := by
  have shape := code.encode_of_read success
  have positive : 0 < (code.encode item).length :=
    List.length_pos_iff.mpr (code.encode_ne_nil item)
  rw [shape, List.length_append]
  omega

/-- Read items for as long as the input starts with one. -/
def readAll (input : List β) : List α × List β :=
  match _success : code.read input with
  | none => ([], input)
  | some (item, rest) =>
      let tail := readAll rest
      (item :: tail.1, tail.2)
termination_by input.length
decreasing_by exact code.length_of_read _success

/-- Nothing is read where the code is stuck. -/
theorem readAll_none {input : List β} (stuck : code.read input = none) :
    code.readAll input = ([], input) := by
  rw [readAll]
  split
  · rfl
  · next item rest success => rw [stuck] at success; cases success

/-- The first item is read, and then the others. -/
theorem readAll_some {input rest : List β} {item : α}
    (success : code.read input = some (item, rest)) :
    code.readAll input = (item :: (code.readAll rest).1, (code.readAll rest).2) := by
  rw [readAll]
  split
  · next stuck => rw [stuck] at success; cases success
  · next item' rest' success' =>
      rw [success] at success'
      cases success'
      rfl

/-- Greedy reading stops only where no further item can be read. -/
theorem read_rest_none (input : List β) : code.read (code.readAll input).2 = none := by
  induction size : input.length using Nat.strongRecOn generalizing input with
  | _ size inductionHypothesis =>
      cases success : code.read input with
      | none => rw [code.readAll_none success]; exact success
      | some pair =>
          obtain ⟨item, rest⟩ := pair
          rw [code.readAll_some success]
          exact inductionHypothesis rest.length (size ▸ code.length_of_read success) rest rfl

/-- Every symbol of the input is in an item that was read or in the rest. -/
theorem encodeAll_readAll (input : List β) :
    code.encodeAll (code.readAll input).1 ++ (code.readAll input).2 = input := by
  induction size : input.length using Nat.strongRecOn generalizing input with
  | _ size inductionHypothesis =>
      cases success : code.read input with
      | none => rw [code.readAll_none success]; rfl
      | some pair =>
          obtain ⟨item, rest⟩ := pair
          rw [code.readAll_some success, encodeAll_cons, List.append_assoc,
            inductionHypothesis rest.length (size ▸ code.length_of_read success) rest rfl]
          exact (code.encode_of_read success).symm

/-- A stream of items followed by anything reads as these items and then as
the remainder reads. -/
theorem readAll_encodeAll_append (items : List α) (rest : List β) :
    code.readAll (code.encodeAll items ++ rest) =
      (items ++ (code.readAll rest).1, (code.readAll rest).2) := by
  induction items with
  | nil => rfl
  | cons item items inductionHypothesis =>
      have success := code.read_encode item (code.encodeAll items ++ rest)
      rw [encodeAll_cons, List.append_assoc, code.readAll_some success, inductionHypothesis]
      rfl

/-- Reading inverts writing when nothing readable follows. -/
theorem readAll_encodeAll (items : List α) {rest : List β} (stuck : code.read rest = none) :
    code.readAll (code.encodeAll items ++ rest) = (items, rest) := by
  rw [readAll_encodeAll_append, code.readAll_none stuck, List.append_nil]

/-- Reading is independent of where the input is cut: the rest of the first
part is read again in front of the second. -/
theorem readAll_append (first second : List β) :
    code.readAll (first ++ second) =
      ((code.readAll first).1 ++ (code.readAll ((code.readAll first).2 ++ second)).1,
        (code.readAll ((code.readAll first).2 ++ second)).2) := by
  have split := code.encodeAll_readAll first
  calc code.readAll (first ++ second)
      = code.readAll (code.encodeAll (code.readAll first).1 ++
          ((code.readAll first).2 ++ second)) := by rw [← List.append_assoc, split]
    _ = _ := code.readAll_encodeAll_append _ _

/-- The items read are the longest list the input starts with: every other
list of items that the input starts with is an initial part of them. -/
theorem readAll_longest {items : List α} {input : List β}
    (starts : code.encodeAll items <+: input) : items <+: (code.readAll input).1 := by
  obtain ⟨rest, rfl⟩ := starts
  rw [readAll_encodeAll_append]
  exact List.prefix_append _ _

end PrefixCode

end VzSdk.Std
