/-
This file says what loading a list of operations comes to. The list is taken in
order, and what was taken so far is a registry of it: every operation is found
under its own name and nothing else is found. The next one is refused for its
own flaw, or else because its name is found already, and that ends the loading;
so a list loads exactly if all its operations are valid and their names differ,
and else the first that offends is blamed. A registry that was loaded does not
show the order of the list any more: it is in the order of the names, which is
the order of their bytes, and a look-up by the type of a node goes through it in
that order.
-/

import Mathlib.Data.List.Induction
import Mathlib.Data.List.Lex
import FormulaNet.Proofs.Template
import FormulaNet.Proofs.Typed

namespace FormulaNet

/-! ### The order of bytes -/

namespace Text

/-- The bytes of a text. -/
def bytes (text : String) : List UInt8 := text.toUTF8.data.toList

theorem bytes_eq (text : String) : bytes text = text.toList.flatMap String.utf8EncodeChar := by
  have encoded : text.toUTF8 = text.toList.utf8Encode := by
    rw [← String.toByteArray_ofList, String.ofList_toList]
    rfl
  rw [bytes, encoded, List.utf8Encode, List.toList_data_toByteArray]

theorem code_lt (c : Char) : c.val.toNat < 1114112 := by
  rcases c.valid with low | ⟨_, high⟩
  · exact Nat.lt_trans low (by decide)
  · exact high

/-- Bytes in front of others compare as numbers, and where they are equal the others decide. -/
theorem ofNat_cons_lt_iff {a b : Nat} (small : a < 256) (smallOther : b < 256)
    (left right : List UInt8) :
    UInt8.ofNat a :: left < UInt8.ofNat b :: right ↔ a < b ∨ a = b ∧ left < right := by
  rw [List.cons_lt_cons_iff, UInt8.lt_iff_toNat_lt, ← UInt8.toNat_inj, UInt8.toNat_ofNat',
    UInt8.toNat_ofNat', Nat.mod_eq_of_lt small, Nat.mod_eq_of_lt smallOther]

/-- The bytes of a smaller character come first, whatever follows: more bytes begin with a larger
one, and as many bytes are digits of the character in base 64. -/
theorem encode_lt {c d : Char} (less : c < d) (left right : List UInt8) :
    String.utf8EncodeChar c ++ left < String.utf8EncodeChar d ++ right := by
  have codes : c.val.toNat < d.val.toNat := less
  have bound := code_lt d
  unfold String.utf8EncodeChar
  generalize c.val.toNat = v at *
  generalize d.val.toNat = w at *
  -- The quotients are written as iterated ones, so that each digit is bounded by the one above.
  have second (n : Nat) : n / 4096 = n / 64 / 64 := by omega
  have third (n : Nat) : n / 262144 = n / 64 / 64 / 64 := by omega
  simp only [second, third]
  split_ifs <;> simp (disch := omega) only [List.cons_append, ofNat_cons_lt_iff] <;> omega

theorem flatMap_encode_lt {first second : List Char} (less : first < second) :
    first.flatMap String.utf8EncodeChar < second.flatMap String.utf8EncodeChar := by
  induction less with
  | @nil c rest =>
    cases encoded : String.utf8EncodeChar c with
    | nil => exact absurd encoded String.utf8EncodeChar_ne_nil
    | cons byte bytes =>
      rw [List.flatMap_cons, encoded]
      exact List.Lex.nil
  | cons _ inductionHypothesis =>
    rw [List.flatMap_cons, List.flatMap_cons]
    exact List.append_left_lt inductionHypothesis
  | rel smaller =>
    rw [List.flatMap_cons, List.flatMap_cons]
    exact encode_lt smaller _ _

/-- Texts are in the order of their bytes. -/
theorem bytes_lt_iff (first second : String) : bytes first < bytes second ↔ first < second := by
  have forward {a b : String} (less : a < b) : bytes a < bytes b := by
    rw [bytes_eq, bytes_eq]
    exact flatMap_encode_lt (String.lt_iff.mp less)
  refine ⟨fun less => ?_, forward⟩
  by_contra notLess
  by_cases other : second < first
  · exact List.lt_asymm less (forward other)
  · rw [String.le_antisymm (String.not_lt.mp other) (String.not_lt.mp notLess)] at less
    exact List.lt_irrefl _ less

end Text

/-! ### Valid operations -/

/-- Two branches as long as the list of channels they come out of, which has one to three. -/
structure Branches.Even (b : Branches) : Prop where
  two : b.slots = [b.ifTrue, b.ifFalse]
  ifTrue : b.ifTrue.length = b.channels.length
  ifFalse : b.ifFalse.length = b.channels.length
  filled : 1 ≤ b.channels.length
  narrow : b.channels.length ≤ 3

/-- One to three channels, or two branches that come out of so many. -/
def Output.Fits : Output → Prop
  | .channels names => 1 ≤ names.length ∧ names.length ≤ 3
  | .deferred branches => branches.Even

/-- The groups of an operation that are not repeated. -/
def Operation.fixedGroups (op : Operation) : List (List String) :=
  if op.multiIndex then op.inputs.tail else op.inputs

/-- What an operation has to be like to be registered. -/
structure Operation.Valid (op : Operation) : Prop where
  named : op.name ≠ ""
  typed : op.nodeType ≠ ""
  grouped : op.inputs ≠ []
  width : ∀ group ∈ op.inputs, 1 ≤ group.length ∧ group.length ≤ 3
  template : op.multiIndex = true → ∀ group ∈ op.inputs.head?, ∀ channel ∈ group,
    ∃ front back, channel = front ++ placeholder ++ back
  plain : ∀ group ∈ op.fixedGroups, ∀ channel ∈ group,
    ∀ front back, channel ≠ front ++ placeholder ++ back
  output : op.output.Fits

namespace Operation

theorem even_iff (b : Branches) :
    b.Even ↔ b.slots.length = 2 ∧ fits b.channels = true ∧
      b.slots.all (·.length == b.channels.length) = true := by
  obtain ⟨slots, channels⟩ := b
  rw [fits_iff]
  constructor
  · rintro ⟨two, ifTrue, ifFalse, filled, narrow⟩
    dsimp only at *
    rw [two]
    exact ⟨rfl, ⟨filled, narrow⟩, by simp [ifTrue, ifFalse]⟩
  · rintro ⟨two, ⟨filled, narrow⟩, even⟩
    obtain ⟨first, second, rfl⟩ := List.length_eq_two.mp two
    obtain ⟨ifTrue, ifFalse⟩ : first.length = channels.length ∧ second.length = channels.length := by
      simpa using even
    exact ⟨rfl, ifTrue, ifFalse, filled, narrow⟩

theorem outputFlaw?_eq_none_iff (op : Operation) : op.outputFlaw? = none ↔ op.output.Fits := by
  unfold outputFlaw?
  cases op.output with
  | channels names =>
    show _ ↔ 1 ≤ names.length ∧ names.length ≤ 3
    rw [← fits_iff]
    simp
  | deferred branches =>
    show _ ↔ branches.Even
    rw [even_iff]
    simp only [ne_eq, ite_not]
    split
    · simp [*]
    · simp [*]

theorem inputFlaw?_eq_none_iff (op : Operation) (grouped : op.inputs ≠ []) :
    op.inputFlaw? = none ↔
      (op.multiIndex = true → ∀ group ∈ op.inputs.head?, ∀ channel ∈ group,
        ∃ front back, channel = front ++ placeholder ++ back) ∧
      ∀ group ∈ op.fixedGroups, ∀ channel ∈ group,
        ∀ front back, channel ≠ front ++ placeholder ++ back := by
  obtain ⟨first, rest, inputs⟩ := List.exists_cons_of_ne_nil grouped
  have templated : isTemplate first = true ↔ ∀ channel ∈ first,
      ∃ front back, channel = front ++ placeholder ++ back := by
    simp only [isTemplate, List.all_eq_true, Text.mentions_iff]
  have plain (groups : List (List String)) : groups.any mentionsIndex = false ↔
      ∀ group ∈ groups, ∀ channel ∈ group,
        ∀ front back, channel ≠ front ++ placeholder ++ back := by
    simp only [List.any_eq_false, Bool.not_eq_true, mentionsIndex_eq_false_iff]
  rw [inputFlaw?, fixedGroups, inputs]
  cases op.multiIndex with
  | false =>
    rw [if_neg Bool.false_ne_true, if_neg Bool.false_ne_true, ← plain]
    simp
  | true =>
    rw [if_pos rfl, if_pos rfl, ← plain]
    simp only [List.head?_cons, Option.any_some, List.tail_cons, Option.mem_some_iff,
      forall_eq', ← templated]
    by_cases template : isTemplate first = true
    · simp [template]
    · simp [template]

/-- The checks of an operation come to its validity. -/
theorem flaw?_eq_none_iff_valid (op : Operation) : op.flaw? = none ↔ op.Valid := by
  rw [flaw?_eq_none_iff, outputFlaw?_eq_none_iff]
  simp only [fits_iff]
  constructor
  · rintro ⟨named, typed, grouped, width, inputs, output⟩
    obtain ⟨template, plain⟩ := (inputFlaw?_eq_none_iff op grouped).mp inputs
    exact ⟨named, typed, grouped, width, template, plain, output⟩
  · rintro ⟨named, typed, grouped, width, template, plain, output⟩
    exact ⟨named, typed, grouped, width, (inputFlaw?_eq_none_iff op grouped).mpr ⟨template, plain⟩,
      output⟩

theorem flaw?_ne_some {op : Operation} (valid : op.Valid) (flaw : Flaw) : op.flaw? ≠ some flaw := by
  rw [(flaw?_eq_none_iff_valid op).mpr valid]
  exact nofun

end Operation

/-! ### Taking operations in order -/

namespace Registry

/-- What is wrong with an operation behind others: its own first flaw, or else that one of them has
its name. -/
inductive Offends (earlier : List Operation) (op : Operation) : LoadError → Prop where
  | flawed {flaw : Operation.Flaw} (found : op.flaw? = some flaw) :
      Offends earlier op (.flawed op.name flaw)
  | duplicate (valid : op.Valid) (taken : op.name ∈ earlier.map (·.name)) :
      Offends earlier op (.duplicate op.name)

/-- Valid operations with different names. -/
structure Clear (operations : List Operation) : Prop where
  valid : ∀ op ∈ operations, op.Valid
  distinct : (operations.map (·.name)).Nodup

theorem clear_iff (operations : List Operation) :
    Clear operations ↔ (∀ op ∈ operations, op.Valid) ∧ (operations.map (·.name)).Nodup :=
  ⟨fun clear => ⟨clear.valid, clear.distinct⟩, fun ⟨valid, distinct⟩ => ⟨valid, distinct⟩⟩

theorem clear_append_iff (earlier : List Operation) (op : Operation) :
    Clear (earlier ++ [op]) ↔ Clear earlier ∧ op.Valid ∧ op.name ∉ earlier.map (·.name) := by
  constructor
  · rintro ⟨valid, distinct⟩
    obtain ⟨validEarlier, validLast⟩ := List.forall_mem_append.mp valid
    rw [List.map_append, List.nodup_append] at distinct
    refine ⟨⟨validEarlier, distinct.1⟩, validLast op (List.mem_singleton_self op), ?_⟩
    exact fun taken => distinct.2.2 _ taken _ (List.mem_singleton_self op.name) rfl
  · rintro ⟨⟨validEarlier, distinct⟩, valid, free⟩
    refine ⟨List.forall_mem_append.mpr ⟨validEarlier, by simpa using valid⟩, ?_⟩
    rw [List.map_append, List.nodup_append]
    refine ⟨distinct, List.nodup_singleton _, ?_⟩
    rintro name inside _ isLast rfl
    rw [List.map_singleton, List.mem_singleton] at isLast
    exact free (isLast ▸ inside)

theorem Clear.of_append {first second : List Operation} (clear : Clear (first ++ second)) :
    Clear first where
  valid op member := clear.valid op (List.mem_append_left _ member)
  distinct := by
    have distinct := clear.distinct
    rw [List.map_append] at distinct
    exact (List.nodup_append.mp distinct).1

/-- What offends keeps a list from being clear, whatever follows. -/
theorem Offends.not_clear {earlier : List Operation} {op : Operation} {e : LoadError}
    (offends : Offends earlier op e) (later : List Operation) : ¬ Clear (earlier ++ op :: later) := by
  intro clear
  rw [List.append_cons] at clear
  obtain ⟨_, valid, free⟩ := (clear_append_iff earlier op).mp clear.of_append
  cases offends with
  | flawed found => exact Operation.flaw?_ne_some valid _ found
  | duplicate _ taken => exact free taken

theorem Offends.unique {earlier : List Operation} {op : Operation} {e other : LoadError}
    (offends : Offends earlier op e) (again : Offends earlier op other) : e = other := by
  cases offends with
  | flawed found =>
    cases again with
    | flawed foundAgain => rw [Option.some.inj (found.symm.trans foundAgain)]
    | duplicate valid _ => exact absurd found (Operation.flaw?_ne_some valid _)
  | duplicate valid _ =>
    cases again with
    | flawed found => exact absurd found (Operation.flaw?_ne_some valid _)
    | duplicate _ _ => rfl

/-- The offences of an operation: a flaw, or else the name of an earlier one. -/
theorem offends_iff (earlier : List Operation) (op : Operation) (e : LoadError) :
    Offends earlier op e ↔
      (¬ op.Valid ∧ ∃ flaw, op.flaw? = some flaw ∧ e = .flawed op.name flaw) ∨
        (op.Valid ∧ (∃ other ∈ earlier, other.name = op.name) ∧ e = .duplicate op.name) := by
  constructor
  · rintro (⟨found⟩ | ⟨valid, taken⟩)
    · exact Or.inl ⟨fun valid => Operation.flaw?_ne_some valid _ found, _, found, rfl⟩
    · exact Or.inr ⟨valid, List.mem_map.mp taken, rfl⟩
  · rintro (⟨_, flaw, found, rfl⟩ | ⟨valid, taken, rfl⟩)
    · exact .flawed found
    · exact .duplicate valid (List.mem_map.mpr taken)

/-- An operation offends behind a clear list, and whatever follows. -/
def Blames (operations : List Operation) (e : LoadError) : Prop :=
  ∃ before op after, operations = before ++ op :: after ∧ Clear before ∧ Offends before op e

theorem blames_iff (operations : List Operation) (e : LoadError) :
    Blames operations e ↔ ∃ before op after, operations = before ++ op :: after ∧
      (∀ earlier ∈ before, earlier.Valid) ∧ (before.map (·.name)).Nodup ∧
      ((¬ op.Valid ∧ ∃ flaw, op.flaw? = some flaw ∧ e = .flawed op.name flaw) ∨
        (op.Valid ∧ (∃ earlier ∈ before, earlier.name = op.name) ∧ e = .duplicate op.name)) := by
  simp only [Blames, clear_iff, offends_iff, and_assoc]

theorem Blames.append {operations : List Operation} {e : LoadError} (blames : Blames operations e)
    (more : List Operation) : Blames (operations ++ more) e := by
  obtain ⟨before, op, after, rfl, clear, offends⟩ := blames
  exact ⟨before, op, after ++ more, by simp, clear, offends⟩

theorem Blames.not_clear {operations : List Operation} {e : LoadError}
    (blames : Blames operations e) : ¬ Clear operations := by
  obtain ⟨before, op, after, rfl, _, offends⟩ := blames
  exact offends.not_clear after

/-- Only one operation can be the first that offends. -/
theorem Blames.unique {operations : List Operation} {e other : LoadError}
    (blames : Blames operations e) (again : Blames operations other) : e = other := by
  obtain ⟨before, op, after, rfl, clear, offends⟩ := blames
  obtain ⟨before', op', after', split, clearAgain, offendsAgain⟩ := again
  -- If one list in front were longer, it would hold the other operation that offends.
  rcases List.append_eq_append_iff.mp split with ⟨more, rfl, back⟩ | ⟨more, rfl, back⟩
  · cases more with
    | nil =>
      obtain ⟨rfl, _⟩ := List.cons.inj back
      rw [List.append_nil] at offendsAgain
      exact offends.unique offendsAgain
    | cons first rest =>
      obtain ⟨rfl, _⟩ := List.cons.inj back
      exact absurd clearAgain (offends.not_clear rest)
  · cases more with
    | nil =>
      obtain ⟨rfl, _⟩ := List.cons.inj back
      rw [List.append_nil] at offends
      exact offends.unique offendsAgain
    | cons first rest =>
      obtain ⟨rfl, _⟩ := List.cons.inj back
      exact absurd clear (offendsAgain.not_clear rest)

/-- A registry of a list: the operations of the list are what is found, under their names. -/
structure Holds (r : Registry) (operations : List Operation) : Prop where
  ordered : r.table.Ordered
  found : ∀ name op, r.lookup? name = some op ↔ op ∈ operations ∧ op.name = name

theorem holds_empty : Holds empty [] := by
  refine ⟨Table.ordered_empty, fun name op => ?_⟩
  simp [lookup?, empty, Table.find?, Table.empty, Table.findIn?]

/-- A name is free exactly if nothing is found under it. -/
theorem Holds.isSome_iff {r : Registry} {operations : List Operation} (holds : r.Holds operations)
    (name : String) : (r.lookup? name).isSome = true ↔ name ∈ operations.map (·.name) := by
  rw [Option.isSome_iff_exists, List.mem_map]
  simp only [holds.found]

theorem Holds.insert {r : Registry} {operations : List Operation} (holds : r.Holds operations)
    {op : Operation} (free : op.name ∉ operations.map (·.name)) :
    Holds ⟨r.table.insert op.name op⟩ (operations ++ [op]) := by
  refine ⟨holds.ordered.insert _ _, fun name other => ?_⟩
  rw [List.mem_append, List.mem_singleton]
  by_cases same : name = op.name
  · subst same
    rw [lookup?, Table.find?_insert_self, Option.some.injEq]
    constructor
    · rintro rfl
      exact ⟨Or.inr rfl, rfl⟩
    · rintro ⟨old | new, named⟩
      · exact absurd (List.mem_map.mpr ⟨other, old, named⟩) free
      · exact new.symm
  · rw [lookup?, Table.find?_insert_other _ same]
    refine (holds.found name other).trans (and_congr_left fun named => ?_)
    refine ⟨Or.inl, fun among => among.resolve_right ?_⟩
    rintro rfl
    exact same named.symm

/-- Taking one operation: it offends, or the registry has it besides. -/
theorem add_cases {r : Registry} {operations : List Operation} (holds : r.Holds operations)
    (op : Operation) :
    (∃ e, r.add op = .error e ∧ Offends operations op e) ∨
      ∃ more, r.add op = .ok more ∧ Holds more (operations ++ [op]) ∧ op.Valid ∧
        op.name ∉ operations.map (·.name) := by
  unfold add
  cases checked : op.flaw? with
  | some flaw => exact Or.inl ⟨_, rfl, .flawed checked⟩
  | none =>
    have valid := (Operation.flaw?_eq_none_iff_valid op).mp checked
    dsimp only
    split
    · rename_i taken
      exact Or.inl ⟨_, rfl, .duplicate valid ((holds.isSome_iff _).mp taken)⟩
    · rename_i free
      rw [holds.isSome_iff] at free
      exact Or.inr ⟨_, rfl, holds.insert free, valid, free⟩

theorem addAll_append (r : Registry) (first second : List Operation) :
    r.addAll (first ++ second) = (r.addAll first).bind (·.addAll second) := by
  induction first generalizing r with
  | nil => rfl
  | cons op rest inductionHypothesis =>
    rw [List.cons_append, addAll, addAll]
    cases r.add op with
    | error e => rfl
    | ok more => exact inductionHypothesis more

theorem load_append (operations : List Operation) (op : Operation) :
    load (operations ++ [op]) = (load operations).bind (·.add op) := by
  rw [load, addAll_append, load]
  cases empty.addAll operations with
  | error e => rfl
  | ok r =>
    show r.addAll [op] = r.add op
    rw [addAll]
    cases r.add op <;> rfl

/-- Taking all of them: the registry has them and they are clear, or one of them is to blame. -/
theorem load_cases (operations : List Operation) :
    (∃ r, load operations = .ok r ∧ r.Holds operations ∧ Clear operations) ∨
      ∃ e, load operations = .error e ∧ Blames operations e := by
  induction operations using List.reverseRecOn with
  | nil => exact Or.inl ⟨empty, rfl, holds_empty, by simp, by simp⟩
  | append_singleton operations op inductionHypothesis =>
    rw [load_append]
    rcases inductionHypothesis with ⟨r, loaded, holds, clear⟩ | ⟨e, failed, blames⟩
    · rw [loaded]
      rcases add_cases holds op with ⟨e, refused, offends⟩ | ⟨more, added, holdsMore, valid, free⟩
      · exact Or.inr ⟨e, refused, operations, op, [], rfl, clear, offends⟩
      · exact Or.inl ⟨more, added, holdsMore,
          (clear_append_iff operations op).mpr ⟨clear, valid, free⟩⟩
    · rw [failed]
      exact Or.inr ⟨e, rfl, blames.append [op]⟩

/-! ### What a loaded registry answers -/

variable {r : Registry} {operations : List Operation} (holds : r.Holds operations)
include holds

theorem Holds.mem_entries_iff (name : String) (op : Operation) :
    (name, op) ∈ r.table.entries ↔ op ∈ operations ∧ op.name = name :=
  (holds.ordered.mem_entries_iff name op).trans (holds.found name op)

theorem Holds.names_ascend : r.names.Pairwise fun a b => Text.bytes a < Text.bytes b := by
  rw [names, Table.keys, List.pairwise_map]
  exact holds.ordered.imp fun less => (Text.bytes_lt_iff _ _).mpr less

theorem Holds.mem_names_iff (name : String) : name ∈ r.names ↔ ∃ op ∈ operations, op.name = name := by
  rw [names, Table.keys, List.mem_map]
  constructor
  · rintro ⟨entry, member, rfl⟩
    exact ⟨entry.2, (holds.mem_entries_iff _ _).mp member⟩
  · rintro ⟨op, inside, named⟩
    exact ⟨(name, op), (holds.mem_entries_iff name op).mpr ⟨inside, named⟩, rfl⟩

theorem Holds.lookup_eq_ok_iff (name : String) (op : Operation) :
    r.lookup name = .ok op ↔ op ∈ operations ∧ op.name = name := by
  rw [← holds.found, lookup]
  cases r.lookup? name <;> simp

theorem Holds.lookup_eq_error_iff (name : String) (e : Error) :
    r.lookup name = .error e ↔
      e = .unknownOperation name ∧ ∀ op ∈ operations, op.name ≠ name := by
  have none : r.lookup? name = none ↔ ∀ op ∈ operations, op.name ≠ name := by
    rw [Option.eq_none_iff_forall_ne_some]
    simp only [ne_eq, holds.found, not_and]
  rw [lookup, ← none]
  cases r.lookup? name <;> simp [eq_comm]

theorem Holds.branchesOf?_eq_none_iff (type : String) :
    r.branchesOf? type = none ↔ ∀ op ∈ operations, op.isDeferred = true → op.nodeType ≠ type := by
  rw [Registry.branchesOf?_eq_none_iff]
  constructor
  · intro others op inside
    exact others (op.name, op) ((holds.mem_entries_iff _ _).mpr ⟨inside, rfl⟩)
  · intro others entry member
    exact others entry.2 ((holds.mem_entries_iff _ _).mp member).1

/-- The branches of a type are those of the deferred operation that makes it and has the smallest
name. -/
theorem Holds.branchesOf?_eq_some_iff (type : String) (branches : Branches) :
    r.branchesOf? type = some branches ↔
      ∃ op ∈ operations, op.nodeType = type ∧ op.output = .deferred branches ∧
        ∀ other ∈ operations, other.nodeType = type → other.isDeferred = true → other ≠ op →
          Text.bytes op.name < Text.bytes other.name := by
  have branchesOf (op : Operation) :
      (if op.nodeType = type then op.branches? else none) = some branches ↔
        op.nodeType = type ∧ op.output = .deferred branches := by
    unfold Operation.branches?
    cases op.output <;> simp
  have noBranches (op : Operation) :
      (if op.nodeType = type then op.branches? else none) = none ↔
        (op.nodeType = type → op.isDeferred = false) := by
    rw [Operation.isDeferred, Option.isSome_eq_false_iff, Option.isNone_iff_eq_none]
    simp
  have ascends := holds.ordered
  rw [branchesOf?, List.findSome?_eq_some_iff]
  simp only [branchesOf, noBranches, Text.bytes_lt_iff]
  constructor
  · rintro ⟨before, ⟨name, op⟩, after, entries, ⟨typed, deferred⟩, undeferred⟩
    obtain ⟨inside, rfl⟩ := (holds.mem_entries_iff name op).mp (by simp [entries])
    refine ⟨op, inside, typed, deferred, fun other inOthers otherTyped otherDeferred different => ?_⟩
    have member := (holds.mem_entries_iff other.name other).mpr ⟨inOthers, rfl⟩
    unfold Table.Ordered Table.Ascends at ascends
    rw [entries] at member ascends
    rcases List.mem_append.mp member with early | late
    · have contradiction := undeferred _ early otherTyped
      rw [otherDeferred] at contradiction
      cases contradiction
    · rcases List.mem_cons.mp late with same | later
      · exact absurd (Prod.mk.inj same).2 different
      · exact (List.pairwise_cons.mp (List.pairwise_append.mp ascends).2.1).1 _ later
  · rintro ⟨op, inside, typed, deferred, smallest⟩
    obtain ⟨before, after, entries⟩ :=
      List.append_of_mem ((holds.mem_entries_iff op.name op).mpr ⟨inside, rfl⟩)
    refine ⟨before, _, after, entries, ⟨typed, deferred⟩, ?_⟩
    rintro ⟨name, other⟩ early otherTyped
    obtain ⟨inOthers, rfl⟩ := (holds.mem_entries_iff name other).mp (by simp [entries, early])
    unfold Table.Ordered Table.Ascends at ascends
    rw [entries] at ascends
    have less := (List.pairwise_append.mp ascends).2.2 _ early _ List.mem_cons_self
    by_contra otherDeferred
    have different : other ≠ op := by
      rintro rfl
      exact String.lt_irrefl _ less
    exact String.lt_asymm less
      (smallest other inOthers otherTyped (Bool.not_eq_false _ ▸ otherDeferred) different)

omit holds

/-- A list of operations loads exactly if all of them are valid and their names are different.
Otherwise the error is that of the first operation that has a flaw or repeats the name of an earlier
one, and the flaw comes first. A registry that was loaded lists the names in the order of their
bytes, finds every operation under its name and nothing else, and gives for the type of a node the
branches of the deferred operation of that type with the smallest name. -/
theorem load_blames_first (operations : List Operation) :
    ((∃ r, load operations = .ok r) ↔
      (∀ op ∈ operations, op.Valid) ∧ (operations.map (·.name)).Nodup) ∧
    (∀ e, load operations = .error e ↔ ∃ before op after, operations = before ++ op :: after ∧
      (∀ earlier ∈ before, earlier.Valid) ∧ (before.map (·.name)).Nodup ∧
      ((¬ op.Valid ∧ ∃ flaw, op.flaw? = some flaw ∧ e = .flawed op.name flaw) ∨
        (op.Valid ∧ (∃ earlier ∈ before, earlier.name = op.name) ∧ e = .duplicate op.name))) ∧
    ∀ r, load operations = .ok r →
      (r.names.Pairwise fun a b => Text.bytes a < Text.bytes b) ∧
      (∀ name, name ∈ r.names ↔ ∃ op ∈ operations, op.name = name) ∧
      (∀ name op, r.lookup name = .ok op ↔ op ∈ operations ∧ op.name = name) ∧
      (∀ name e, r.lookup name = .error e ↔
        e = .unknownOperation name ∧ ∀ op ∈ operations, op.name ≠ name) ∧
      (∀ type, r.branchesOf? type = none ↔
        ∀ op ∈ operations, op.isDeferred = true → op.nodeType ≠ type) ∧
      ∀ type branches,
        (r.branchesOf? type = some branches ↔
          ∃ op ∈ operations, op.nodeType = type ∧ op.output = .deferred branches ∧
            ∀ other ∈ operations, other.nodeType = type → other.isDeferred = true → other ≠ op →
              Text.bytes op.name < Text.bytes other.name) ∧
        (r.branchesOf? type = some branches → branches.Even) := by
  refine ⟨?_, fun e => ?_, fun r loaded => ?_⟩
  · rw [← clear_iff]
    rcases load_cases operations with ⟨r, loaded, _, clear⟩ | ⟨e, failed, blames⟩
    · exact iff_of_true ⟨r, loaded⟩ clear
    · rw [failed]
      exact iff_of_false nofun blames.not_clear
  · rw [← blames_iff]
    rcases load_cases operations with ⟨r, loaded, _, clear⟩ | ⟨other, failed, blames⟩
    · rw [loaded]
      exact iff_of_false nofun fun blames => blames.not_clear clear
    · rw [failed, Except.error.injEq]
      exact ⟨fun same => same ▸ blames, blames.unique⟩
  · rcases load_cases operations with ⟨same, loadedAgain, holds, clear⟩ | ⟨e, failed, _⟩
    · obtain rfl := Except.ok.inj (loaded.symm.trans loadedAgain)
      refine ⟨holds.names_ascend, holds.mem_names_iff, holds.lookup_eq_ok_iff,
        holds.lookup_eq_error_iff, holds.branchesOf?_eq_none_iff, fun type branches =>
        ⟨holds.branchesOf?_eq_some_iff type branches, fun known => ?_⟩⟩
      obtain ⟨op, inside, _, deferred, _⟩ := (holds.branchesOf?_eq_some_iff type branches).mp known
      have fits := (clear.valid op inside).output
      rwa [deferred] at fits
    · rw [failed] at loaded
      cases loaded

end Registry

end FormulaNet
