/-!
# Byte memory and strings in it

Memory from the start of an object on, and past its end: a write that is longer
than the member it is for goes into the members behind it. `strcpy` and
`strncpy` write there as the C library does; `text?` is the string that an array
of given size holds, if it is terminated inside the array.
-/

namespace VzSdk.Std

/-- Bytes by their distance from the start of an object. -/
def Memory := Nat → UInt8

namespace Memory

/-- The memory that holds zeros. -/
def zero : Memory := fun _ => 0

/-- The memory with these bytes at an offset. -/
def write (memory : Memory) (offset : Nat) (bytes : List UInt8) : Memory := fun address =>
  if offset ≤ address then bytes[address - offset]?.getD (memory address) else memory address

/-- A write leaves what is outside. -/
theorem write_outside {memory : Memory} {offset address : Nat} {bytes : List UInt8}
    (outside : address < offset ∨ offset + bytes.length ≤ address) :
    memory.write offset bytes address = memory address := by
  unfold write
  split
  · rw [List.getElem?_eq_none (by omega), Option.getD_none]
  · rfl

/-- A write puts the bytes inside. -/
theorem write_inside (memory : Memory) (offset : Nat) {bytes : List UInt8} {index : Nat}
    (inside : index < bytes.length) :
    memory.write offset bytes (offset + index) = bytes[index] := by
  unfold write
  rw [if_pos (Nat.le_add_right offset index), Nat.add_sub_cancel_left,
    List.getElem?_eq_getElem inside, Option.getD_some]

/-- The same write in two memories: they agree on what is written, and where they did before. -/
theorem write_congr {memory other : Memory} {offset address : Nat} {bytes : List UInt8}
    (settled : memory address = other address ∨
      (offset ≤ address ∧ address < offset + bytes.length)) :
    memory.write offset bytes address = other.write offset bytes address := by
  rcases settled with same | ⟨low, high⟩
  · simp only [write, same]
  · obtain ⟨index, rfl⟩ := Nat.exists_eq_add_of_le low
    have inside : index < bytes.length := by omega
    rw [write_inside memory offset inside, write_inside other offset inside]

/-- The bytes from `offset` on. -/
def bytes (memory : Memory) (offset count : Nat) : List UInt8 :=
  (List.range count).map fun index => memory (offset + index)

/-- As many bytes are read as are asked for. -/
@[simp] theorem length_bytes (memory : Memory) (offset count : Nat) :
    (memory.bytes offset count).length = count := by
  simp [bytes]

/-- Memories that agree on a range hold the same bytes there. -/
theorem bytes_congr {memory other : Memory} {offset count : Nat}
    (agree : ∀ index, index < count → memory (offset + index) = other (offset + index)) :
    memory.bytes offset count = other.bytes offset count := by
  refine List.map_congr_left fun index member => agree index ?_
  exact List.mem_range.mp member

/-- What was written is read. -/
@[simp] theorem bytes_write (memory : Memory) (offset : Nat) (bytes : List UInt8) :
    (memory.write offset bytes).bytes offset bytes.length = bytes := by
  refine List.ext_getElem (by simp) fun index below inside => ?_
  simp only [Memory.bytes, List.getElem_map, List.getElem_range]
  exact write_inside memory offset inside

/-- The two memories differ inside the region only. -/
def AgreeOff (region : Nat → Prop) (memory other : Memory) : Prop :=
  ∀ address, ¬region address → memory address = other address

/-- Memories that agree outside a region do so after the same write. -/
theorem AgreeOff.write {region : Nat → Prop} {memory other : Memory}
    (agree : AgreeOff region memory other) (offset : Nat) (bytes : List UInt8) :
    AgreeOff region (memory.write offset bytes) (other.write offset bytes) := by
  intro address off
  unfold Memory.write
  rw [agree address off]

/-! ## Strings -/

/-- The string in an array of `size` bytes: up to its first NUL, if it has one. -/
def text? (memory : Memory) : Nat → Nat → Option (List UInt8)
  | _, 0 => none
  | offset, size + 1 =>
      if memory offset = 0 then some []
      else (memory.text? (offset + 1) size).map (memory offset :: ·)

/-- Memories that agree on a range hold the same text there. -/
theorem text?_congr {memory other : Memory} {offset size : Nat}
    (agree : ∀ index, index < size → memory (offset + index) = other (offset + index)) :
    memory.text? offset size = other.text? offset size := by
  induction size generalizing offset with
  | zero => rfl
  | succ size ih =>
      have first := agree 0 (Nat.succ_pos size)
      have rest : memory.text? (offset + 1) size = other.text? (offset + 1) size := by
        refine ih fun index below => ?_
        have shift : offset + 1 + index = offset + (index + 1) := by omega
        rw [shift, agree (index + 1) (by omega)]
      simp only [Nat.add_zero] at first
      simp only [text?, first, rest]

/-- A text that stands in memory with a NUL behind it, all inside the array. -/
theorem text?_eq_some {memory : Memory} {offset size : Nat} {text : List UInt8}
    (fits : text.length < size) (noNul : ∀ byte ∈ text, byte ≠ 0)
    (stands : ∀ (index : Nat) (inside : index < text.length),
      memory (offset + index) = text[index])
    (ended : memory (offset + text.length) = 0) : memory.text? offset size = some text := by
  induction text generalizing offset size with
  | nil =>
      obtain ⟨rest, rfl⟩ : ∃ rest, size = rest + 1 := ⟨size - 1, by simp at fits; omega⟩
      simp only [List.length_nil, Nat.add_zero] at ended
      simp [text?, ended]
  | cons byte text ih =>
      obtain ⟨rest, rfl⟩ : ∃ rest, size = rest + 1 := ⟨size - 1, by omega⟩
      have first : memory offset = byte := stands 0 (by simp)
      have behind : memory.text? (offset + 1) rest = some text := by
        refine ih (by simpa using fits) (fun other member => noNul other (by simp [member])) ?_ ?_
        · intro index inside
          have shift : offset + 1 + index = offset + (index + 1) := by omega
          rw [shift, stands (index + 1) (by simpa using inside), List.getElem_cons_succ]
        · rw [← ended, List.length_cons]
          congr 1
          omega
      simp [text?, first, noNul byte (by simp), behind]

/-- The string of an array is shorter than the array and has no NUL. -/
theorem text?_sound {memory : Memory} {offset size : Nat} {text : List UInt8}
    (held : memory.text? offset size = some text) :
    text.length < size ∧ ∀ byte ∈ text, byte ≠ 0 := by
  induction size generalizing offset text with
  | zero => cases held
  | succ size ih =>
      rw [text?] at held
      split at held
      · cases held
        simp
      · next noNul =>
          obtain ⟨rest, isRest, rfl⟩ := Option.map_eq_some_iff.mp held
          obtain ⟨short, clean⟩ := ih isRest
          refine ⟨by simpa using short, ?_⟩
          exact List.forall_mem_cons.mpr ⟨noNul, clean⟩

/-- An array without a NUL holds no string. -/
theorem text?_eq_none {memory : Memory} {offset size : Nat}
    (full : ∀ index, index < size → memory (offset + index) ≠ 0) :
    memory.text? offset size = none := by
  induction size generalizing offset with
  | zero => rfl
  | succ size ih =>
      have behind : memory.text? (offset + 1) size = none := by
        refine ih fun index below => ?_
        have shift : offset + 1 + index = offset + (index + 1) := by omega
        rw [shift]
        exact full (index + 1) (by omega)
      have first := full 0 (Nat.succ_pos size)
      simp only [Nat.add_zero] at first
      simp [text?, first, behind]

/-- `strcpy`: the text and its NUL, however long it is. -/
def strcpy (memory : Memory) (offset : Nat) (text : List UInt8) : Memory :=
  memory.write offset (text ++ [0])

/-- `strncpy`: exactly `count` bytes, of the text and then of NULs. -/
def strncpy (memory : Memory) (offset : Nat) (text : List UInt8) (count : Nat) : Memory :=
  memory.write offset (text.take count ++ List.replicate (count - text.length) 0)

section

variable (memory : Memory) (offset : Nat) {text : List UInt8} {size count address : Nat}

/-- `strcpy` leaves what is outside. -/
theorem strcpy_outside {memory : Memory} {offset : Nat}
    (outside : address < offset ∨ offset + text.length < address) :
    memory.strcpy offset text address = memory address := by
  refine write_outside ?_
  simp only [List.length_append, List.length_singleton]
  omega

/-- A text without NULs is read back after `strcpy`. -/
theorem text?_strcpy (noNul : ∀ byte ∈ text, byte ≠ 0) (fits : text.length < size) :
    (memory.strcpy offset text).text? offset size = some text := by
  refine text?_eq_some fits noNul ?_ ?_
  · intro index inside
    rw [strcpy, write_inside memory offset (by simp; omega), List.getElem_append_left inside]
  · rw [strcpy, write_inside memory offset (by simp), List.getElem_append_right (Nat.le_refl _)]
    simp

/-- A text that is too long leaves the array without a NUL. -/
theorem text?_strcpy_eq_none (noNul : ∀ byte ∈ text, byte ≠ 0) (long : size ≤ text.length) :
    (memory.strcpy offset text).text? offset size = none := by
  refine text?_eq_none fun index below => ?_
  rw [strcpy, write_inside memory offset (by simp; omega), List.getElem_append_left (by omega)]
  exact noNul _ (List.getElem_mem _)

/-- `strncpy` writes as many bytes as it is told. -/
theorem length_strncpy (text : List UInt8) (count : Nat) :
    (text.take count ++ List.replicate (count - text.length) (0 : UInt8)).length = count := by
  simp only [List.length_append, List.length_take, List.length_replicate]
  omega

/-- `strncpy` leaves what is outside. -/
theorem strncpy_outside {memory : Memory} {offset : Nat}
    (outside : address < offset ∨ offset + count ≤ address) :
    memory.strncpy offset text count address = memory address := by
  refine write_outside ?_
  rwa [length_strncpy]

/-- One byte less than the array has, with a NUL in its last byte: the text is cut. -/
theorem text?_strncpy (noNul : ∀ byte ∈ text, byte ≠ 0) (last : memory (offset + count) = 0) :
    (memory.strncpy offset text count).text? offset (count + 1) = some (text.take count) := by
  have cut : (text.take count).length ≤ count := by
    simp only [List.length_take]
    omega
  refine text?_eq_some (by omega) ?_ ?_ ?_
  · intro byte member
    exact noNul byte (List.mem_of_mem_take member)
  · intro index inside
    rw [strncpy, write_inside memory offset (by rw [length_strncpy]; omega),
      List.getElem_append_left inside]
  · by_cases short : text.length < count
    · have length : (text.take count).length = text.length := by
        simp only [List.length_take]
        omega
      rw [strncpy, write_inside memory offset (by rw [length_strncpy]; omega),
        List.getElem_append_right (Nat.le_refl _), List.getElem_replicate]
    · have length : (text.take count).length = count := by
        simp only [List.length_take]
        omega
      rw [length, strncpy_outside (Or.inr (Nat.le_refl _)), last]

end

end Memory

end VzSdk.Std
