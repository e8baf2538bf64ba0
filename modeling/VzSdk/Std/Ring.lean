import VzSdk.Std.Memory

/-!
# Rings in memory

The first `capacity` bytes of a memory, taken as a ring. A `window` of the ring
is a run of bytes that goes on at the front when it comes to the end. A copy out
of a window or into it is made in two pieces, of which the second one stands at
the front and is empty unless the window wraps.
-/

namespace VzSdk.Std.Memory

variable {memory : Memory} {capacity start position length count : Nat} {data : List UInt8}

/-- The bytes of the ring from `start` on. -/
def window (memory : Memory) (capacity start count : Nat) : List UInt8 :=
  (List.range count).map fun index => memory ((start + index) % capacity)

/-- A window has as many bytes as are asked for. -/
@[simp] theorem length_window : (memory.window capacity start count).length = count := by
  simp [window]

/-- A window that begins behind the end begins at the start. -/
theorem window_mod :
    memory.window capacity (start % capacity) count = memory.window capacity start count := by
  simp only [window, Nat.mod_add_mod]

/-- A window goes on where its first part ends. -/
theorem window_add (more : Nat) :
    memory.window capacity start (count + more) =
      memory.window capacity start count ++ memory.window capacity (start + count) more := by
  simp only [window, List.range_add, List.map_append, List.map_map, Function.comp_def,
    Nat.add_assoc]

/-- The first bytes of a window. -/
theorem take_window (within : count ≤ length) :
    (memory.window capacity start length).take count = memory.window capacity start count := by
  obtain ⟨more, rfl⟩ := Nat.exists_eq_add_of_le within
  rw [window_add]
  exact List.take_left' length_window

/-- The last bytes of a window. -/
theorem drop_window (within : count ≤ length) :
    (memory.window capacity start length).drop count =
      memory.window capacity (start + count) (length - count) := by
  obtain ⟨more, rfl⟩ := Nat.exists_eq_add_of_le within
  rw [window_add, Nat.add_sub_cancel_left]
  exact List.drop_left' length_window

/-- Windows that agree at every place are the same. -/
theorem window_congr {other : Memory} {begin : Nat}
    (agree : ∀ index, index < count →
      memory ((start + index) % capacity) = other ((begin + index) % capacity)) :
    memory.window capacity start count = other.window capacity begin count := by
  refine List.map_congr_left fun index member => agree index ?_
  exact List.mem_range.mp member

/-- A window that does not wrap stands in one piece. -/
theorem bytes_eq_window (capacity : Nat) (inside : start + count ≤ capacity) :
    memory.bytes start count = memory.window capacity start count := by
  refine List.map_congr_left fun index member => ?_
  have below := List.mem_range.mp member
  rw [Nat.mod_eq_of_lt (by omega)]

/-- What is behind the end of the ring is at its front. -/
theorem bytes_eq_window_front (capacity : Nat) (inside : count ≤ capacity) :
    memory.bytes 0 count = memory.window capacity capacity count := by
  rw [bytes_eq_window capacity (by omega), ← @window_mod memory capacity capacity, Nat.mod_self]

/-- A window is copied out in two pieces. -/
theorem bytes_append_bytes (inside : position < capacity) (fits : count ≤ capacity) :
    memory.bytes position (min count (capacity - position)) ++
        memory.bytes 0 (count - min count (capacity - position)) =
      memory.window capacity position count := by
  by_cases straight : count ≤ capacity - position
  · rw [Nat.min_eq_left straight, Nat.sub_self, bytes_eq_window capacity (by omega)]
    exact List.append_nil _
  · have whole : count = capacity - position + (count - (capacity - position)) := by omega
    have atEnd : position + (capacity - position) = capacity := by omega
    rw [Nat.min_eq_right (by omega), bytes_eq_window capacity (by omega),
      bytes_eq_window_front capacity (by omega)]
    conv => rhs; rw [whole, window_add, atEnd]

/-- A copy into the ring from `position` on, in two pieces. -/
def store (memory : Memory) (capacity position : Nat) (data : List UInt8) : Memory :=
  let tail := min data.length (capacity - position)
  (memory.write position (data.take tail)).write 0 (data.drop tail)

/-- A part of some data is copied in, in two pieces. -/
theorem write_write_eq_store (within : count ≤ data.length) :
    (memory.write position (data.take (min count (capacity - position)))).write 0
        ((data.drop (min count (capacity - position))).take
          (count - min count (capacity - position))) =
      memory.store capacity position (data.take count) := by
  have length : (data.take count).length = count := List.length_take_of_le within
  have low : min (min count (capacity - position)) count = min count (capacity - position) := by
    omega
  simp only [store, length, List.take_take, List.drop_take, low]

/-- Writing nothing changes nothing. -/
@[simp] theorem write_nil (memory : Memory) (offset : Nat) : memory.write offset [] = memory := by
  funext address
  exact write_outside (by simp; omega)

/-- Two copies behind each other are one copy. -/
theorem write_append (memory : Memory) (offset : Nat) (first second : List UInt8) :
    (memory.write offset first).write (offset + first.length) second =
      memory.write offset (first ++ second) := by
  funext address
  unfold write
  by_cases before : address < offset + first.length
  · rw [if_neg (by omega)]
    split
    · rw [List.getElem?_append_left (by omega)]
    · rfl
  · have past : first[address - offset]? = none := List.getElem?_eq_none (by omega)
    rw [if_pos (by omega), if_pos (by omega), if_pos (by omega),
      List.getElem?_append_right (by omega), past, Option.getD_none, Nat.sub_sub]

/-- Data that do not wrap are copied in one piece. -/
theorem write_eq_store (inside : position + data.length ≤ capacity) :
    memory.write position data = memory.store capacity position data := by
  have whole : min data.length (capacity - position) = data.length := by omega
  simp only [store, whole, List.take_length, List.drop_length, write_nil]

/-- The data stand in the ring behind each other. -/
theorem store_inside (inside : position < capacity) (fits : data.length ≤ capacity) {index : Nat}
    (within : index < data.length) :
    memory.store capacity position data ((position + index) % capacity) = data[index] := by
  unfold store
  by_cases straight : index < capacity - position
  · have low : index < min data.length (capacity - position) := by omega
    have inTail : index < (data.take (min data.length (capacity - position))).length := by
      rw [List.length_take]
      omega
    rw [Nat.mod_eq_of_lt (by omega), write_outside (Or.inr (by rw [List.length_drop]; omega)),
      write_inside memory position inTail, List.getElem_take]
  · have low : min data.length (capacity - position) = capacity - position := by omega
    have wrapped : (position + index) % capacity = 0 + (index - (capacity - position)) := by
      rw [Nat.mod_eq_sub_mod (by omega), Nat.mod_eq_of_lt (by omega)]
      omega
    have inFront : index - (capacity - position) < (data.drop (capacity - position)).length := by
      rw [List.length_drop]
      omega
    have behind : capacity - position + (index - (capacity - position)) = index := by omega
    rw [low, wrapped, write_inside _ 0 inFront, List.getElem_drop]
    simp only [behind]

/-- The rest of the ring is left as it was. -/
theorem store_outside (inside : position < capacity) {index : Nat} (behind : data.length ≤ index)
    (below : index < capacity) :
    memory.store capacity position data ((position + index) % capacity) =
      memory ((position + index) % capacity) := by
  unfold store
  by_cases straight : index < capacity - position
  · have low : min data.length (capacity - position) = data.length := by omega
    simp only [low, List.take_length, List.drop_length, write_nil]
    rw [Nat.mod_eq_of_lt (by omega)]
    exact write_outside (Or.inr (by omega))
  · have wrapped : (position + index) % capacity = index - (capacity - position) := by
      rw [Nat.mod_eq_sub_mod (by omega), Nat.mod_eq_of_lt (by omega)]
      omega
    rw [wrapped, write_outside (Or.inr (by rw [List.length_drop]; omega))]
    exact write_outside (Or.inl (by omega))

/-- Data that are stored behind a window, where they do not come round to its start, stand in
the window that is longer by them. -/
theorem window_store (positive : 0 < capacity) (fits : length + data.length ≤ capacity) :
    (memory.store capacity ((start + length) % capacity) data).window capacity start
        (length + data.length) =
      memory.window capacity start length ++ data := by
  have inside : (start + length) % capacity < capacity := Nat.mod_lt _ positive
  rw [window_add]
  congr 1
  · refine window_congr fun index below => ?_
    -- Seen from where the data begin, the window is the last part of the ring.
    have address : (start + index) % capacity =
        ((start + length) % capacity + (capacity - length + index)) % capacity := by
      rw [Nat.mod_add_mod, ← Nat.add_mod_right (start + index)]
      congr 1
      omega
    rw [address]
    exact store_outside inside (by omega) (by omega)
  · rw [← window_mod]
    refine List.ext_getElem length_window fun index _ within => ?_
    simp only [window, List.getElem_map, List.getElem_range]
    exact store_inside inside (by omega) within

end VzSdk.Std.Memory
