/-
This file says which references are tests. Every node keeps the attributes of
its type, whatever it is given besides. A test is a node of a type that a
deferred operation makes, so it has two compounds whose children are the slots
of its branches. A condition on anything else fails before it has done anything,
and no later part of a condition fails in that way.
-/

import FormulaNet.Proofs.Formula
import FormulaNet.Proofs.Plan

namespace FormulaNet

/-! ### Nodes and their types -/

namespace Scene

/-- Every node has the attributes of its type, whatever it was given besides. -/
def Typed (s : Scene) : Prop :=
  ∀ n ∈ s.nodes, ∃ layout, Layout.ofType? n.type = some layout ∧ ∀ a ∈ layout, a ∈ n.layout

theorem Reachable.typed {s : Scene} (reachable : s.Reachable) : s.Typed := by
  refine reachable.forall_nodes ?_ ?_
  · exact fun _ _ layout known => ⟨layout, known, fun _ => id⟩
  · rintro n name default ⟨layout, known, kept⟩
    exact ⟨layout, known, fun a listed => List.mem_append_left _ (kept a listed)⟩

end Scene

/-! ### Tests -/

namespace Registry

/-- A type has no branches exactly if no deferred operation makes nodes of it. -/
theorem branchesOf?_eq_none_iff (r : Registry) (type : String) :
    r.branchesOf? type = none ↔
      ∀ entry ∈ r.table.entries, entry.2.isDeferred = true → entry.2.nodeType ≠ type := by
  rw [branchesOf?, List.findSome?_eq_none_iff]
  refine forall₂_congr fun entry _ => ?_
  show (if entry.2.nodeType = type then entry.2.branches? else none) = none ↔ _
  rw [Operation.isDeferred]
  by_cases same : entry.2.nodeType = type
  · rw [if_pos same, Option.isSome_iff_ne_none]
    tauto
  · rw [if_neg same]
    exact ⟨fun _ _ => same, fun _ => rfl⟩

theorem entry_of_branchesOf? {r : Registry} {type : String} {branches : Branches}
    (known : r.branchesOf? type = some branches) :
    ∃ entry ∈ r.table.entries, entry.2.output = .deferred branches ∧ entry.2.nodeType = type := by
  obtain ⟨entry, member, chosen⟩ := List.exists_of_findSome?_eq_some known
  dsimp only at chosen
  split at chosen
  · rename_i same
    rw [Operation.branches?] at chosen
    split at chosen
    · rename_i output
      cases chosen
      exact ⟨entry, member, output, same⟩
    · cases chosen
  · cases chosen

theorem mem_entries_builtin_iff (name : String) (op : Operation) :
    (name, op) ∈ builtin.table.entries ↔ builtin.lookup? name = some op := by
  refine ⟨fun member => ?_, Table.mem_entries_of_find?⟩
  have listed : ∀ entry ∈ builtin.table.entries, builtin.lookup? entry.1 = some entry.2 := by
    decide +kernel
  exact listed _ member

end Registry

/-- Deferred operations that make nodes of one type have the same branches. -/
theorem Operation.branches_unique : ∀ op ∈ builtin, ∀ other ∈ builtin,
    op.nodeType = other.nodeType →
      ∀ branches ∈ op.branches?, ∀ others ∈ other.branches?, branches = others := by
  decide +kernel

/-- A compound that holds a branch of an operation: it has as many children as a wiring may have
channels, and neither it nor a child of it is a slot of the operation itself. -/
structure Operation.Branch (op : Operation) (a : Attribute) : Prop where
  single : a.multi = false
  compound : a.isCompound = true
  width : a.childNames.length = maxChannels
  apart : ∀ slot ∈ "operation" :: op.inputs.flatten, slot ∉ a.long :: a.childNames

instance (op : Operation) (a : Attribute) : Decidable (op.Branch a) :=
  decidable_of_iff
    (a.multi = false ∧ a.isCompound = true ∧ a.childNames.length = maxChannels ∧
      ∀ slot ∈ "operation" :: op.inputs.flatten, slot ∉ a.long :: a.childNames)
    ⟨fun ⟨single, compound, width, apart⟩ => ⟨single, compound, width, apart⟩,
      fun ⟨single, compound, width, apart⟩ => ⟨single, compound, width, apart⟩⟩

/-- The branches of an operation are two compounds that its type has. -/
theorem Operation.branches_of_mem_builtin : ∀ op ∈ builtin, ∀ branches ∈ op.branches?,
    ∀ layout ∈ Layout.ofType? op.nodeType, ∃ a ∈ layout, ∃ b ∈ layout,
      op.Branch a ∧ op.Branch b ∧ a.long ≠ b.long ∧
        branches.slots = [a.childNames, b.childNames] ∧
        branches.channels.length = maxChannels := by
  decide +kernel

namespace Scene

/-- A reference names a node of the type that a deferred operation makes, and these are the branches
of the operation. -/
structure Tests (s : Scene) (test : Reference) (node : String) (op : Operation)
    (branches : Branches) : Prop where
  named : test.target? = some node
  registered : ∃ name, Registry.builtin.lookup? name = some op
  deferred : op.output = .deferred branches
  typed : s.typeOf? node = some op.nodeType

theorem Tests.branches? {s : Scene} {test : Reference} {node : String} {op : Operation}
    {branches : Branches} (tests : s.Tests test node op branches) :
    op.branches? = some branches := by
  rw [Operation.branches?, tests.deferred]

theorem test_of_tests {s : Scene} {test : Reference} {node : String} {op : Operation}
    {branches : Branches} (tests : s.Tests test node op branches) :
    s.test test = .ok (node, branches) := by
  obtain ⟨name, registered⟩ := tests.registered
  have entry := (Registry.mem_entries_builtin_iff name op).mpr registered
  have deferred : op.isDeferred = true := by
    rw [Operation.isDeferred, tests.branches?]
    rfl
  rw [Scene.test, tests.named]
  dsimp only
  rw [tests.typed]
  dsimp only
  cases found : Registry.builtin.branchesOf? op.nodeType with
  | none => exact absurd rfl ((Registry.branchesOf?_eq_none_iff _ _).mp found _ entry deferred)
  | some others =>
    obtain ⟨⟨otherName, other⟩, otherEntry, output, type⟩ := Registry.entry_of_branchesOf? found
    have otherRegistered := (Registry.mem_entries_builtin_iff otherName other).mp otherEntry
    have otherBranches : other.branches? = some others := by
      rw [Operation.branches?, output]
    rw [Operation.branches_unique op (Program.mem_builtin_of_lookup? registered) other
      (Program.mem_builtin_of_lookup? otherRegistered) type.symm _ tests.branches? _ otherBranches]

/-- A reference is no test: it is a literal, or its node is not there, or no deferred operation
makes nodes of its type. -/
def NotTest (s : Scene) (test : Reference) : Prop :=
  (∃ payload, test = .literal payload) ∨
    ∃ node, test.target? = some node ∧
      (s.typeOf? node = none ∨ ∃ type, s.typeOf? node = some type ∧
        ∀ name op, Registry.builtin.lookup? name = some op → op.isDeferred = true →
          op.nodeType ≠ type)

/-- A reference is a test, or it is refused as none. -/
theorem test_cases (s : Scene) (test : Reference) :
    (¬ s.NotTest test ∧ ∃ node op branches, s.Tests test node op branches) ∨
      (s.NotTest test ∧ ∃ e, s.test test = .error e ∧ e.kind = .notBranchTest) := by
  cases test with
  | literal payload => exact Or.inr ⟨Or.inl ⟨payload, rfl⟩, _, rfl, rfl⟩
  | node node attrs =>
    cases typed : s.typeOf? node with
    | none =>
      refine Or.inr ⟨Or.inr ⟨node, rfl, Or.inl typed⟩, .missingTest node, ?_, rfl⟩
      rw [Scene.test, Reference.target?]
      dsimp only
      rw [typed]
    | some type =>
      cases found : Registry.builtin.branchesOf? type with
      | none =>
        have undeferred := (Registry.branchesOf?_eq_none_iff _ _).mp found
        refine Or.inr ⟨Or.inr ⟨node, rfl, Or.inr ⟨type, typed, ?_⟩⟩, .otherTest node type, ?_, rfl⟩
        · intro name op registered
          exact undeferred (name, op) ((Registry.mem_entries_builtin_iff name op).mpr registered)
        · rw [Scene.test, Reference.target?]
          dsimp only
          rw [typed]
          dsimp only
          rw [found]
      | some branches =>
        obtain ⟨⟨name, op⟩, entry, output, rfl⟩ := Registry.entry_of_branchesOf? found
        have registered := (Registry.mem_entries_builtin_iff name op).mp entry
        have tests : s.Tests (.node node attrs) node op branches :=
          ⟨rfl, ⟨name, registered⟩, output, typed⟩
        refine Or.inl ⟨?_, node, op, branches, tests⟩
        rintro (⟨_, isLiteral⟩ | ⟨_, named, missing | ⟨type, otherwise, undeferred⟩⟩)
        · cases isLiteral
        · cases named
          cases missing.symm.trans typed
        · cases named
          obtain rfl := Option.some.inj (otherwise.symm.trans typed)
          refine undeferred name op registered ?_ rfl
          rw [Operation.isDeferred, tests.branches?]
          rfl

/-- A compound on a node that is there. -/
structure Compound (s : Scene) (node : String) (n : Node) (a : Attribute) : Prop where
  found : s.node? node = some n
  member : a ∈ n.layout
  single : a.multi = false
  compound : a.isCompound = true

/-- The node of a test, with the compounds that its branches are the children of. -/
structure Forks (s : Scene) (node : String) (op : Operation) (branches : Branches) (n : Node)
    (a b : Attribute) : Prop where
  ifTrue : s.Compound node n a
  ifFalse : s.Compound node n b
  branchTrue : op.Branch a
  branchFalse : op.Branch b
  different : a.long ≠ b.long
  slots : branches.slots = [a.childNames, b.childNames]
  channels : branches.channels.length = maxChannels

theorem Tests.forks {s : Scene} (typed : s.Typed) {test : Reference} {node : String}
    {op : Operation} {branches : Branches} (tests : s.Tests test node op branches) :
    ∃ n a b, s.Forks node op branches n a b := by
  obtain ⟨name, registered⟩ := tests.registered
  obtain ⟨n, found, type⟩ := Option.map_eq_some_iff.mp tests.typed
  obtain ⟨layout, known, kept⟩ := typed n (mem_of_node? found).1
  rw [type] at known
  obtain ⟨a, inTrue, b, inFalse, branchTrue, branchFalse, different, slots, channels⟩ :=
    Operation.branches_of_mem_builtin op (Program.mem_builtin_of_lookup? registered) branches
      tests.branches? layout known
  exact ⟨n, a, b, ⟨found, kept a inTrue, branchTrue.single, branchTrue.compound⟩,
    ⟨found, kept b inFalse, branchFalse.single, branchFalse.compound⟩, branchTrue, branchFalse,
    different, slots, channels⟩

end Scene

/-! ### Errors of a condition -/

namespace Program

/-- A wiring never fails because of a test. -/
theorem kind_of_wire (o : Options) (targets sources : List Channel) :
    FailsOnly (fun e => e.kind ≠ .notBranchTest) (wire o targets sources) := by
  intro s e after failed
  rw [exec_wire_eq] at failed
  split at failed
  · cases failed
    exact nofun
  · split at failed
    · obtain ⟨_, _, _, _, _, _, _, ⟨_, _, run⟩ | ⟨_, _, _, _, run, stops⟩⟩ :=
        exec_wireLinks_cases o.force (s.scene.links targets sources) s
      · cases run.symm.trans failed
      · cases run.symm.trans failed
        cases stops <;> exact nofun
    · cases failed
      exact nofun

end Program

mutual

/-- Operands that cannot be taken apart are not recognised. -/
theorem Scene.kind_of_unravel (s : Scene) (operand : Operand) {e : Error}
    (refused : s.unravel operand = .error e) : e.kind = .unrecognizedOperand := by
  cases operand with
  | number v => cases refused
  | value v => cases refused
  | path plug =>
    rw [unravel] at refused
    split at refused
    · cases refused
    · cases refused
      rfl
  | node name attrs =>
    rw [unravel, attrsChannels] at refused
    split at refused
    · cases refused
    · cases refused
      rfl
  | literal payload => exact s.kind_of_unravel payload refused
  | list items => exact s.kind_of_unravelAll items refused

theorem Scene.kind_of_unravelAll (s : Scene) (items : List Operand) {e : Error}
    (refused : s.unravelAll items = .error e) : e.kind = .unrecognizedOperand := by
  cases items with
  | nil => cases refused
  | cons item rest =>
    rw [unravelAll] at refused
    split at refused
    · rename_i failed
      cases refused
      exact s.kind_of_unravel item failed
    · cases later : s.unravelAll rest with
      | ok channels =>
        rw [later] at refused
        cases refused
      | error cause =>
        rw [later] at refused
        cases refused
        exact s.kind_of_unravelAll rest later

end

namespace Program

theorem kind_of_looking (operand : Operand) :
    FailsOnly (fun e => e.kind ≠ .notBranchTest) (unravel operand) :=
  FailsOnly.look fun s e refused isTest => by
    cases (s.kind_of_unravel operand refused).symm.trans isTest

theorem kind_of_setOrConnect (o : Options) (target source : Operand) :
    FailsOnly (fun e => e.kind ≠ .notBranchTest) (setOrConnect o target source) :=
  FailsOnly.bind (kind_of_looking _) fun _ =>
    FailsOnly.bind (kind_of_looking _) fun _ => kind_of_wire _ _ _

theorem kind_of_bindBranches (o : Options) (node : String) (branches : Branches) (width : Nat)
    (ifTrue ifFalse : Operand) :
    FailsOnly (fun e => e.kind ≠ .notBranchTest)
      (bindBranches o node branches width ifTrue ifFalse) := by
  rw [bindBranches]
  split
  · refine FailsOnly.throw fun kind => ?_
    cases kind
  · exact FailsOnly.bind (kind_of_setOrConnect _ _ _) fun _ =>
      FailsOnly.bind (kind_of_setOrConnect _ _ _) fun _ => FailsOnly.pure _

/-- A condition fails for want of a test exactly if its reference is none, and then nothing has
happened. -/
theorem condition_refused (o : Options) (test : Reference) (ifTrue ifFalse : Operand)
    (s : Session) :
    ((∃ e, (exec (condition o test ifTrue ifFalse) s).1 = .error e ∧ e.kind = .notBranchTest) ↔
      s.scene.NotTest test) ∧
    (s.scene.NotTest test → (exec (condition o test ifTrue ifFalse) s).2 = s) := by
  rcases s.scene.test_cases test with
    ⟨isTest, node, op, branches, tests⟩ | ⟨notTest, e, refused, kind⟩
  · refine ⟨⟨?_, fun notTest => absurd notTest isTest⟩, fun notTest => absurd notTest isTest⟩
    rintro ⟨e, failed, kind⟩
    have rest : FailsOnly (fun e => e.kind ≠ .notBranchTest) (do
        let trueChannels ← unravel ifTrue
        let falseChannels ← unravel ifFalse
        bindBranches o node branches (max trueChannels.length falseChannels.length)
          ifTrue ifFalse) :=
      FailsOnly.bind (kind_of_looking _) fun _ =>
        FailsOnly.bind (kind_of_looking _) fun _ => kind_of_bindBranches _ _ _ _ _ _
    rw [condition, exec_bind, exec_look, Scene.test_of_tests tests] at failed
    exact absurd kind (rest s e _ (Prod.ext failed rfl))
  · have run : exec (condition o test ifTrue ifFalse) s = (.error e, s) := by
      rw [condition, exec_bind, exec_look, refused]
    rw [run]
    exact ⟨⟨fun _ => notTest, fun _ => ⟨e, rfl, kind⟩⟩, fun _ => rfl⟩

end Program

end FormulaNet
