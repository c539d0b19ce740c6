/-
This file holds tables: values under text keys, in the order of the keys. A
table is a list of entries, and `insert` puts a new entry before the first
larger key or in place of an equal one, so listing a table needs no sorting.
-/

namespace FormulaNet

structure Table (α : Type) where
  entries : List (String × α)
  deriving DecidableEq

namespace Table

variable {α : Type}

def empty : Table α := ⟨[]⟩

/-- The first value under a key in a list of entries. -/
def findIn? (key : String) : List (String × α) → Option α
  | [] => none
  | (k, v) :: rest => if k = key then some v else findIn? key rest

def find? (t : Table α) (key : String) : Option α := findIn? key t.entries

/-- Puts a value under a key into a list of entries. -/
def insertIn (key : String) (value : α) : List (String × α) → List (String × α)
  | [] => [(key, value)]
  | (k, v) :: rest =>
    if key < k then (key, value) :: (k, v) :: rest
    else if k = key then (key, value) :: rest
    else (k, v) :: insertIn key value rest

def insert (t : Table α) (key : String) (value : α) : Table α := ⟨insertIn key value t.entries⟩

def keys (t : Table α) : List String := t.entries.map (·.1)

/-! ### Looking up what was inserted -/

theorem findIn?_insertIn_self (key : String) (value : α) (entries : List (String × α)) :
    findIn? key (insertIn key value entries) = some value := by
  induction entries with
  | nil => simp [insertIn, findIn?]
  | cons entry rest inductionHypothesis =>
    obtain ⟨k, v⟩ := entry
    by_cases less : key < k
    · simp [insertIn, findIn?, less]
    · by_cases equal : k = key
      · simp [insertIn, findIn?, equal]
      · simp [insertIn, findIn?, less, equal, inductionHypothesis]

theorem findIn?_insertIn_other {key other : String} (different : other ≠ key) (value : α)
    (entries : List (String × α)) :
    findIn? other (insertIn key value entries) = findIn? other entries := by
  induction entries with
  | nil => simp [insertIn, findIn?, different.symm]
  | cons entry rest inductionHypothesis =>
    obtain ⟨k, v⟩ := entry
    by_cases less : key < k
    · simp [insertIn, findIn?, less, different.symm]
    · by_cases equal : k = key
      · simp [insertIn, findIn?, equal, different.symm]
      · simp [insertIn, findIn?, less, equal, inductionHypothesis]

/-- A table answers an inserted key with the inserted value. -/
@[simp] theorem find?_insert_self (t : Table α) (key : String) (value : α) :
    (t.insert key value).find? key = some value :=
  findIn?_insertIn_self key value t.entries

/-- Inserting under one key leaves the others alone. -/
theorem find?_insert_other (t : Table α) {key other : String} (different : other ≠ key)
    (value : α) : (t.insert key value).find? other = t.find? other :=
  findIn?_insertIn_other different value t.entries

/-! ### What a table holds -/

theorem mem_of_findIn? {key : String} {value : α} {entries : List (String × α)}
    (found : findIn? key entries = some value) : (key, value) ∈ entries := by
  induction entries with
  | nil => cases found
  | cons entry rest inductionHypothesis =>
    obtain ⟨k, v⟩ := entry
    rw [findIn?] at found
    split at found
    · rename_i equal
      obtain rfl := Option.some.inj found
      exact equal ▸ List.mem_cons_self
    · exact List.mem_cons_of_mem _ (inductionHypothesis found)

/-- What a table answers is one of its entries. -/
theorem mem_entries_of_find? {t : Table α} {key : String} {value : α}
    (found : t.find? key = some value) : (key, value) ∈ t.entries :=
  mem_of_findIn? found

theorem mem_of_mem_insertIn {key : String} {value : α} {entries : List (String × α)}
    {entry : String × α} (member : entry ∈ insertIn key value entries) :
    entry = (key, value) ∨ entry ∈ entries := by
  induction entries with
  | nil => exact Or.inl (List.mem_singleton.mp member)
  | cons head rest inductionHypothesis =>
    rw [insertIn] at member
    split at member
    · exact List.mem_cons.mp member
    · split at member
      · rcases List.mem_cons.mp member with new | old
        · exact Or.inl new
        · exact Or.inr (List.mem_cons_of_mem _ old)
      · rcases List.mem_cons.mp member with first | later
        · exact Or.inr (first ▸ List.mem_cons_self)
        · rcases inductionHypothesis later with new | old
          · exact Or.inl new
          · exact Or.inr (List.mem_cons_of_mem _ old)

/-- Inserting adds no entry but the inserted one. -/
theorem mem_of_mem_insert {t : Table α} {key : String} {value : α} {entry : String × α}
    (member : entry ∈ (t.insert key value).entries) : entry = (key, value) ∨ entry ∈ t.entries :=
  mem_of_mem_insertIn member

/-! ### Order -/

/-- Whether the keys of a list of entries ascend. -/
def Ascends (entries : List (String × α)) : Prop := entries.Pairwise fun a b => a.1 < b.1

theorem ascends_insertIn {entries : List (String × α)} (ascends : Ascends entries) (key : String)
    (value : α) : Ascends (insertIn key value entries) := by
  induction entries with
  | nil => exact List.pairwise_singleton _ _
  | cons entry rest inductionHypothesis =>
    obtain ⟨above, ascendsRest⟩ := List.pairwise_cons.mp ascends
    rw [insertIn]
    split
    · rename_i less
      refine List.pairwise_cons.mpr ⟨?_, ascends⟩
      intro other member
      rcases List.mem_cons.mp member with rfl | later
      · exact less
      · exact String.lt_trans less (above other later)
    · rename_i notLess
      split
      · rename_i equal
        exact List.pairwise_cons.mpr ⟨fun other member => equal ▸ above other member, ascendsRest⟩
      · rename_i different
        refine List.pairwise_cons.mpr ⟨?_, inductionHypothesis ascendsRest⟩
        intro other member
        rcases mem_of_mem_insertIn member with rfl | later
        · exact Decidable.byContradiction fun notGreater =>
            different (String.le_antisymm notLess notGreater)
        · exact above other later

/-- In ascending order every entry is what its key finds. -/
theorem findIn?_of_mem {entries : List (String × α)} (ascends : Ascends entries) {key : String}
    {value : α} (member : (key, value) ∈ entries) : findIn? key entries = some value := by
  induction entries with
  | nil => cases member
  | cons entry rest inductionHypothesis =>
    obtain ⟨above, ascendsRest⟩ := List.pairwise_cons.mp ascends
    rcases List.mem_cons.mp member with rfl | later
    · simp [findIn?]
    · have different : entry.1 ≠ key := by
        intro equal
        have less := above _ later
        rw [equal] at less
        exact String.lt_irrefl key less
      rw [findIn?, if_neg different]
      exact inductionHypothesis ascendsRest later

/-- A table with its keys in ascending order, as inserting leaves them. -/
def Ordered (t : Table α) : Prop := Ascends t.entries

theorem ordered_empty : Ordered (empty : Table α) := List.Pairwise.nil

theorem Ordered.insert {t : Table α} (ordered : t.Ordered) (key : String) (value : α) :
    (t.insert key value).Ordered :=
  ascends_insertIn ordered key value

/-- The entries of an ordered table are what it answers. -/
theorem Ordered.mem_entries_iff {t : Table α} (ordered : t.Ordered) (key : String) (value : α) :
    (key, value) ∈ t.entries ↔ t.find? key = some value :=
  ⟨findIn?_of_mem ordered, mem_entries_of_find?⟩

/-- Tables that agree on a key hold the same entry under it. -/
theorem Ordered.mem_entries_congr {t u : Table α} (ordered : t.Ordered) (orderedOther : u.Ordered)
    {entry : String × α} (same : t.find? entry.1 = u.find? entry.1) :
    entry ∈ t.entries ↔ entry ∈ u.entries := by
  rw [ordered.mem_entries_iff, orderedOther.mem_entries_iff, same]

end Table

end FormulaNet
