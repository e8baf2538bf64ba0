/-!
# Ordered maps

A finite map as its entries in ascending order of the keys. `insert` keeps an
entry that is already there, as the insertion of an ordered C++ map does.
-/

namespace VzSdk.Std

universe u v

/-- A map whose entries are kept in the order of their keys, so that no key comes twice. -/
structure OrderedMap (κ : Type u) (α : Type v) [Ord κ] where
  entries : List (κ × α)
  ascending : entries.Pairwise fun first second => compare first.1 second.1 = .lt

namespace OrderedMap

variable {κ : Type u} {α : Type v} [Ord κ] [DecidableEq κ]
variable {map : OrderedMap κ α} {key other : κ} {value : α}

/-- The map without entries. -/
def empty : OrderedMap κ α := ⟨[], .nil⟩

/-- `std::map::find`. -/
def find? (map : OrderedMap κ α) (key : κ) : Option α :=
  (map.entries.find? fun entry => entry.1 = key).map (·.2)

/-- `std::map::erase`. -/
def erase (map : OrderedMap κ α) (key : κ) : OrderedMap κ α :=
  ⟨map.entries.filter fun entry => entry.1 ≠ key, map.ascending.sublist List.filter_sublist⟩

/-- Change every value. -/
def mapValues (map : OrderedMap κ α) (change : α → α) : OrderedMap κ α :=
  ⟨map.entries.map fun entry => (entry.1, change entry.2), List.pairwise_map.mpr map.ascending⟩

/-- What is found is an entry. -/
theorem mem_of_find? (found : map.find? key = some value) : (key, value) ∈ map.entries := by
  unfold find? at found
  obtain ⟨entry, hit, rfl⟩ := Option.map_eq_some_iff.mp found
  have same : entry.1 = key := by simpa using List.find?_some hit
  rw [← same]
  exact List.mem_of_find?_eq_some hit

/-- Nothing is found under a key without an entry. -/
theorem find?_eq_none : map.find? key = none ↔ ∀ entry ∈ map.entries, entry.1 ≠ key := by
  simp [find?]

/-- Erasing a key keeps the entries of the others. -/
theorem mem_erase {entry : κ × α} :
    entry ∈ (map.erase key).entries ↔ entry ∈ map.entries ∧ entry.1 ≠ key := by
  simp [erase]

/-- An erased key is not found. -/
theorem find?_erase_self (map : OrderedMap κ α) (key : κ) : (map.erase key).find? key = none :=
  find?_eq_none.mpr fun _ member => (mem_erase.mp member).2

/-- The other keys are found as before an erasure. -/
theorem find?_erase_of_ne (map : OrderedMap κ α) (differ : other ≠ key) :
    (map.erase key).find? other = map.find? other := by
  simp only [find?, erase, List.find?_filter]
  congr 2
  funext entry
  by_cases same : entry.1 = other
  · simp [same, differ]
  · simp [same]

omit [DecidableEq κ] in

/-- The entries whose values are changed are the old ones, changed. -/
theorem mem_mapValues {change : α → α} {entry : κ × α} :
    entry ∈ (map.mapValues change).entries ↔
      ∃ old ∈ map.entries, entry = (old.1, change old.2) := by
  simp only [mapValues, List.mem_map, eq_comm]

/-- What is found is changed. -/
theorem find?_mapValues (change : α → α) :
    (map.mapValues change).find? key = (map.find? key).map change := by
  simp [find?, mapValues, List.find?_map, Function.comp_def]

/-- Put an entry at its place, unless its key is there. -/
def insertEntry (key : κ) (value : α) : List (κ × α) → List (κ × α)
  | [] => [(key, value)]
  | entry :: entries =>
      match compare key entry.1 with
      | .lt => (key, value) :: entry :: entries
      | .eq => entry :: entries
      | .gt => entry :: insertEntry key value entries

omit [DecidableEq κ] in

/-- An entry after an insertion is the new one or an old one. -/
theorem mem_insertEntry {entry : κ × α} {entries : List (κ × α)}
    (member : entry ∈ insertEntry key value entries) : entry = (key, value) ∨ entry ∈ entries := by
  induction entries with
  | nil => simpa [insertEntry] using member
  | cons head entries inductionHypothesis =>
      unfold insertEntry at member
      split at member
      · simpa using member
      · exact .inr member
      · rcases List.mem_cons.mp member with rfl | member
        · exact .inr List.mem_cons_self
        · exact (inductionHypothesis member).imp_right (List.mem_cons_of_mem head)

omit [DecidableEq κ] in

/-- The old entries stay at an insertion. -/
theorem mem_insertEntry_of_mem {entry : κ × α} {entries : List (κ × α)}
    (member : entry ∈ entries) : entry ∈ insertEntry key value entries := by
  induction entries with
  | nil => cases member
  | cons head entries inductionHypothesis =>
      unfold insertEntry
      split
      · exact List.mem_cons_of_mem _ member
      · exact member
      · rcases List.mem_cons.mp member with rfl | member
        · exact List.mem_cons_self
        · exact List.mem_cons_of_mem _ (inductionHypothesis member)

omit [DecidableEq κ] in
/-- Changing a value commutes with putting it at its place. -/
theorem map_insertEntry (change : α → α) (entries : List (κ × α)) :
    (insertEntry key value entries).map (fun entry => (entry.1, change entry.2)) =
      insertEntry key (change value) (entries.map fun entry => (entry.1, change entry.2)) := by
  induction entries with
  | nil => rfl
  | cons head entries inductionHypothesis =>
      simp only [insertEntry, List.map_cons]
      cases compare key head.1 with
      | lt | eq => rfl
      | gt => simp [inductionHypothesis]

omit [DecidableEq κ] in

/-- A change that changes no entry changes nothing. -/
theorem mapValues_eq_self (change : α → α) (same : ∀ entry ∈ map.entries, change entry.2 = entry.2) :
    map.mapValues change = map := by
  obtain ⟨entries, ascending⟩ := map
  have unchanged : entries.map (fun entry => (entry.1, change entry.2)) = entries := by
    refine (List.map_congr_left fun entry member => ?_).trans (List.map_id entries)
    rw [same entry member]
    rfl
  simp [mapValues, unchanged]

omit [DecidableEq κ] in

/-- Two changes that agree on the entries are one. -/
theorem mapValues_congr {change other : α → α}
    (same : ∀ entry ∈ map.entries, change entry.2 = other entry.2) :
    map.mapValues change = map.mapValues other := by
  simp only [mapValues, mk.injEq]
  exact List.map_congr_left fun entry member => by rw [same entry member]

omit [DecidableEq κ] in

/-- Two changes one behind the other are one change. -/
theorem mapValues_mapValues (first second : α → α) :
    (map.mapValues first).mapValues second = map.mapValues fun value => second (first value) := by
  simp [mapValues, Function.comp_def]

variable [Std.TransOrd κ]

omit [DecidableEq κ] in

/-- An insertion keeps the order of the keys. -/
theorem ascending_insertEntry {entries : List (κ × α)}
    (ascending : entries.Pairwise fun first second => compare first.1 second.1 = .lt) :
    (insertEntry key value entries).Pairwise
      fun first second => compare first.1 second.1 = .lt := by
  induction entries with
  | nil => simp [insertEntry]
  | cons head entries inductionHypothesis =>
      obtain ⟨smaller, rest⟩ := List.pairwise_cons.mp ascending
      unfold insertEntry
      split
      · next below =>
          refine List.pairwise_cons.mpr ⟨?_, ascending⟩
          intro entry member
          rcases List.mem_cons.mp member with rfl | member
          · exact below
          · exact Std.TransCmp.lt_trans below (smaller entry member)
      · exact ascending
      · next above =>
          refine List.pairwise_cons.mpr ⟨?_, inductionHypothesis rest⟩
          intro entry member
          rcases mem_insertEntry member with rfl | member
          · exact Std.OrientedCmp.lt_of_gt above
          · exact smaller entry member

/-- `std::map::insert`. -/
def insert (map : OrderedMap κ α) (key : κ) (value : α) : OrderedMap κ α :=
  ⟨insertEntry key value map.entries, ascending_insertEntry map.ascending⟩

omit [DecidableEq κ] in

/-- A change that only concerns the inserted value is made to it before. -/
theorem mapValues_insert (change : α → α) (key : κ) (value : α)
    (same : ∀ entry ∈ map.entries, change entry.2 = entry.2) :
    (map.insert key value).mapValues change = map.insert key (change value) := by
  have unchanged := congrArg OrderedMap.entries (mapValues_eq_self change same)
  simp only [mapValues] at unchanged
  simp [mapValues, insert, map_insertEntry, unchanged]

/-- Keys stand once, so that every entry is found under its key. -/
theorem find?_of_mem (member : (key, value) ∈ map.entries) : map.find? key = some value := by
  obtain ⟨entries, ascending⟩ := map
  unfold find?
  induction entries with
  | nil => cases member
  | cons head entries inductionHypothesis =>
      obtain ⟨smaller, rest⟩ := List.pairwise_cons.mp ascending
      rcases List.mem_cons.mp member with rfl | member
      · simp
      · have differ : head.1 ≠ key := by
          intro same
          have below := smaller (key, value) member
          rw [same, (Std.ReflCmp.compare_self : compare key key = .eq)] at below
          cases below
        simpa [List.find?_cons, differ] using inductionHypothesis rest member

/-- A key that was absent is inserted. -/
theorem mem_insert_self [Std.LawfulEqOrd κ] (absent : map.find? key = none) (value : α) :
    (key, value) ∈ (map.insert key value).entries := by
  obtain ⟨entries, ascending⟩ := map
  rw [find?_eq_none] at absent
  change (key, value) ∈ insertEntry key value entries
  induction entries with
  | nil => simp [insertEntry]
  | cons head entries inductionHypothesis =>
      obtain ⟨_, rest⟩ := List.pairwise_cons.mp ascending
      unfold insertEntry
      split
      · exact List.mem_cons_self
      · next same =>
          exact absurd (Std.LawfulEqCmp.eq_of_compare same).symm (absent head List.mem_cons_self)
      · refine List.mem_cons_of_mem _ (inductionHypothesis rest ?_)
        intro entry member
        exact absent entry (List.mem_cons_of_mem _ member)

/-- A key that was absent is found with its value. -/
theorem find?_insert_self [Std.LawfulEqOrd κ] (absent : map.find? key = none) (value : α) :
    (map.insert key value).find? key = some value :=
  find?_of_mem (mem_insert_self absent value)

/-- A key that is there keeps its value. -/
theorem mem_of_mem_insert {kept : α} (found : map.find? key = some kept) {entry : κ × α}
    (member : entry ∈ (map.insert key value).entries) : entry ∈ map.entries := by
  rcases mem_insertEntry member with rfl | old
  · have new := find?_of_mem member
    have same : (map.insert key value).find? key = some kept :=
      find?_of_mem (mem_insertEntry_of_mem (mem_of_find? found))
    rw [new] at same
    cases same
    exact mem_of_find? found
  · exact old

/-- The other keys are found as before an insertion. -/
theorem find?_insert_of_ne (differ : other ≠ key) (value : α) :
    (map.insert key value).find? other = map.find? other := by
  cases found : map.find? other with
  | none =>
      rw [find?_eq_none] at found ⊢
      intro entry member
      rcases mem_insertEntry member with rfl | member
      · exact differ.symm
      · exact found entry member
  | some kept => exact find?_of_mem (mem_insertEntry_of_mem (mem_of_find? found))

end OrderedMap

end VzSdk.Std
