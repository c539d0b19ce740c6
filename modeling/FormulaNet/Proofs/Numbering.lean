/-
This file proves that looking for a free name by number comes to an end. A
search tries one number in each round and goes on to the next while the name
with that number is taken; it is not told where to stop. What ends it is that
numbers have different texts, so that among more of them than there are names in
use one is free. The first free one is the least, however the names in use look:
they may end in numbers themselves.
-/

import Mathlib.Order.Bounds.Basic
import FormulaNet.Proofs.Growth

namespace FormulaNet

/-! ### Searches -/

/-- A search through the numbers from a given one on: how many rounds it takes, and the number it
ends with. -/
inductive Search (taken : Nat → Bool) : Nat → Nat → Nat → Prop where
  | found {k : Nat} (free : taken k = false) : Search taken k 1 k
  | onward {k rounds n : Nat} (used : taken k = true) (rest : Search taken (k + 1) rounds n) :
    Search taken k (rounds + 1) n

namespace Search

variable {taken : Nat → Bool} {k rounds n : Nat}

/-- A search ends with the first number that is free. -/
theorem isLeast (search : Search taken k rounds n) : IsLeast {j | k ≤ j ∧ taken j = false} n := by
  induction search with
  | found free => exact ⟨⟨Nat.le_refl _, free⟩, fun _ other => other.1⟩
  | @onward k rounds n used rest inductionHypothesis =>
    obtain ⟨⟨later, free⟩, least⟩ := inductionHypothesis
    refine ⟨⟨Nat.le_of_succ_le later, free⟩, ?_⟩
    rintro j ⟨start, unused⟩
    refine least ⟨Nat.lt_of_le_of_ne start ?_, unused⟩
    rintro rfl
    rw [used] at unused
    cases unused

/-- Once what a search found is taken too, and nothing became free, a search ends further up. -/
theorem lt_of_taken (search : Search taken k rounds n) {later : Nat → Bool}
    (kept : ∀ j, taken j = true → later j = true) (used : later n = true) {roundsLater m : Nat}
    (searchLater : Search later k roundsLater m) : n < m := by
  obtain ⟨⟨start, free⟩, _⟩ := searchLater.isLeast
  have different : m ≠ n := by
    rintro rfl
    rw [used] at free
    cases free
  have unused : taken m = false := by
    by_contra taken
    rw [kept m (Bool.not_eq_false _ ▸ taken)] at free
    cases free
  exact Nat.lt_of_le_of_ne (search.isLeast.2 ⟨start, unused⟩) different.symm

/-- A search that comes by taken numbers only goes on to the first free one, a round for each. -/
theorem of_least (distance : Nat) (free : taken (k + distance) = false)
    (before : ∀ j < distance, taken (k + j) = true) :
    Search taken k (distance + 1) (k + distance) := by
  induction distance generalizing k with
  | zero => exact .found free
  | succ distance inductionHypothesis =>
    have shift (j : Nat) : k + (j + 1) = k + 1 + j := by omega
    rw [shift] at free ⊢
    refine .onward (before 0 distance.succ_pos) (inductionHypothesis free fun j below => ?_)
    rw [← shift]
    exact before (j + 1) (Nat.succ_lt_succ below)

/-- What is found in a list of numbered names is what a search ends with. -/
theorem of_find? {label : Nat → String} {taken : String → Bool} {bound : Nat} {name : String}
    (first : ((List.range bound).map fun k => label (k + 1)).find? (fun name => !taken name) =
      some name) :
    ∃ n ≤ bound, name = label n ∧ Search (fun k => taken (label k)) 1 n n := by
  obtain ⟨free, i, inside, same, before⟩ := List.find?_eq_some_iff_getElem.mp first
  rw [List.length_map, List.length_range] at inside
  rw [List.getElem_map, List.getElem_range] at same
  refine ⟨i + 1, inside, same.symm, ?_⟩
  have search : Search (fun k => taken (label k)) 1 (i + 1) (1 + i) := by
    refine .of_least i ?_ fun j below => ?_
    · rw [Nat.add_comm, same]
      simpa using free
    · have used := before j below
      rw [List.getElem_map, List.getElem_range] at used
      rw [Nat.add_comm]
      simpa using used
  rwa [Nat.add_comm 1 i] at search

end Search

/-! ### Names of nodes -/

namespace Scene

/-- A name in use is followed by the least number that makes it free. -/
theorem search_uniqueName {s : Scene} {name : String} (used : name ∈ s.nodeNames) :
    ∃ k ≤ s.nodes.length, s.uniqueName name = name ++ toString k ∧
      Search (fun j => s.hasNode (name ++ toString j)) 1 k k := by
  have skipped : (!s.hasNode name) = false := by simp [hasNode_iff, used]
  have unique := s.uniqueName_eq name
  rw [candidates, List.find?_cons_of_neg (by simp [skipped])] at unique
  cases first : ((List.range s.nodes.length).map fun k => name ++ toString (k + 1)).find?
      fun candidate => !s.hasNode candidate with
  | none =>
    rw [first] at unique
    exact absurd (unique ▸ used) (s.uniqueName_not_mem name)
  | some candidate =>
    rw [first] at unique
    have searched : ∃ k ≤ s.nodes.length, candidate = name ++ toString k ∧
        Search (fun j => s.hasNode (name ++ toString j)) 1 k k := Search.of_find? first
    obtain ⟨k, bound, rfl, search⟩ := searched
    exact ⟨k, bound, unique, search⟩

/-- A node gets the name it is to have if that is free. Otherwise a search through the numbers from
one on ends after no more rounds than there are nodes, and the node gets the name with the least
number that makes it free. No node has that name. -/
theorem uniqueName_least_number (s : Scene) (name : String) :
    (name ∉ s.nodeNames → s.uniqueName name = name) ∧
      (name ∈ s.nodeNames → ∃ rounds k,
        Search (fun j => s.hasNode (name ++ toString j)) 1 rounds k ∧ rounds ≤ s.nodes.length ∧
          IsLeast {j | 1 ≤ j ∧ name ++ toString j ∉ s.nodeNames} k ∧
          s.uniqueName name = name ++ toString k) ∧
      s.uniqueName name ∉ s.nodeNames ∧
      ∀ type assigned after, s.create type name = .ok (assigned, after) →
        assigned = s.uniqueName name ∧ after.nodeNames = s.nodeNames ++ [assigned] := by
  refine ⟨fun free => s.uniqueName_of_not_mem free, fun used => ?_, s.uniqueName_not_mem name, ?_⟩
  · obtain ⟨k, bound, unique, search⟩ := search_uniqueName used
    have least := search.isLeast
    simp only [← Bool.not_eq_true, hasNode_iff] at least
    exact ⟨k, k, search, bound, least, unique⟩
  · intro type assigned after done
    obtain ⟨layout, _, _, _, rfl, rfl⟩ := create_eq_ok done
    exact ⟨rfl, by simp [nodeNames]⟩

/-- Names in use that end in numbers themselves: one is passed by, two is taken, and eleven does not
matter. -/
theorem uniqueName_least_number_suffixed :
    let s : Scene := ⟨["rev", "rev1", "rev11", "rev2"].map fun name => ⟨name, "reverse", []⟩,
      .empty, .empty, .empty⟩
    s.uniqueName "rev" = "rev3" ∧
      (∃ rounds, Search (fun j => s.hasNode ("rev" ++ toString j)) 1 rounds 3 ∧ rounds ≤ 4) ∧
      IsLeast {j | 1 ≤ j ∧ "rev" ++ toString j ∉ s.nodeNames} 3 := by
  intro s
  obtain ⟨_, numbered, _, _⟩ := s.uniqueName_least_number "rev"
  obtain ⟨rounds, k, search, bound, least, unique⟩ := numbered (by decide)
  have name : s.uniqueName "rev" = "rev3" := by decide +kernel
  obtain rfl : k = 3 := append_toString_injective "rev" (unique.symm.trans name)
  exact ⟨name, ⟨rounds, search, bound⟩, least⟩

end Scene

end FormulaNet
