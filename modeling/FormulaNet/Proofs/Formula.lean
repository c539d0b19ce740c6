/-
This file proves that formulas are compiled faithfully. A formula is a tree of
operations with operands at its leaves, and it is compiled from the leaves up:
the result of each operation is an operand of the operation above it. Each
application adds one node that stands for it and keeps everything else, so
whatever a node was driven by when it was built, it is driven by in the end.
-/

import FormulaNet.Proofs.Feeding

namespace FormulaNet

/-! ### Formulas -/

inductive Formula where
  | leaf (operand : Operand)
  | node (operation : String) (arguments : List Formula)

/-- A formula with the result of each of its operations. -/
inductive Compiled where
  | leaf (operand : Operand)
  | node (operation : String) (arguments : List Compiled) (result : Reference)

/-- One operation as it was applied. -/
structure Application where
  operation : String
  operands : List Operand
  result : Reference

namespace Compiled

/-- What stands for a formula in the operation above it. -/
def operand : Compiled → Operand
  | leaf operand => operand
  | node _ _ result => result.toOperand

mutual

/-- The formula without the results. -/
def formula : Compiled → Formula
  | leaf operand => .leaf operand
  | node operation arguments _ => .node operation (formulas arguments)

def formulas : List Compiled → List Formula
  | [] => []
  | first :: rest => first.formula :: formulas rest

end

mutual

/-- The operations of a formula, each on what stands for its arguments. -/
def applications : Compiled → List Application
  | leaf _ => []
  | node operation arguments result =>
    applicationsAll arguments ++ [⟨operation, arguments.map operand, result⟩]

def applicationsAll : List Compiled → List Application
  | [] => []
  | first :: rest => first.applications ++ applicationsAll rest

end

end Compiled

namespace Formula

mutual

/-- Applies the operations of a formula, arguments first. -/
def compile (o : Options) : Formula → Program Compiled
  | leaf operand => pure (.leaf operand)
  | node operation arguments => do
    let compiled ← compileAll o arguments
    let result ← Program.apply o operation (compiled.map Compiled.operand)
    pure (.node operation compiled result)

def compileAll (o : Options) : List Formula → Program (List Compiled)
  | [] => pure []
  | first :: rest => do
    let compiled ← first.compile o
    let others ← compileAll o rest
    pure (compiled :: others)

end

mutual

/-- A formula over what a scene has: its leaves supply something, and its operations are known and
not deferred. -/
def Admissible (s : Scene) : Formula → Prop
  | leaf operand => (s.supply? operand).isSome
  | node operation arguments =>
    (∃ op, Registry.builtin.lookup? operation = some op ∧ op.isDeferred = false) ∧
      AdmissibleAll s arguments

def AdmissibleAll (s : Scene) : List Formula → Prop
  | [] => True
  | first :: rest => first.Admissible s ∧ AdmissibleAll s rest

end

mutual

theorem Admissible.mono {s after : Scene} (grows : Scene.Grows s after) (formula : Formula)
    (admissible : formula.Admissible s) : formula.Admissible after := by
  cases formula with
  | leaf operand =>
    obtain ⟨drivers, supplies⟩ := Option.isSome_iff_exists.mp admissible
    exact Option.isSome_of_eq_some (grows.supply operand supplies)
  | node operation arguments =>
    exact ⟨admissible.1, AdmissibleAll.mono grows arguments admissible.2⟩

theorem AdmissibleAll.mono {s after : Scene} (grows : Scene.Grows s after)
    (formulas : List Formula) (admissible : AdmissibleAll s formulas) :
    AdmissibleAll after formulas := by
  cases formulas with
  | nil => trivial
  | cons first rest =>
    exact ⟨Admissible.mono grows first admissible.1, AdmissibleAll.mono grows rest admissible.2⟩

end

end Formula

/-! ### One application -/

namespace Scene

/-- What each of several operands supplies. -/
def Supplies (s : Scene) (operands : List Operand) (supplies : List (List Driver)) : Prop :=
  List.Forall₂ (fun operand drivers => s.supply? operand = some drivers) operands supplies

theorem WellFormed.unravelEach_carry {s : Scene} (wf : s.WellFormed) {operands : List Operand}
    {supplies : List (List Driver)} (supplied : s.Supplies operands supplies) :
    ∃ channels, s.unravelEach operands = .ok channels ∧ channels.length = operands.length ∧
      List.Forall₂ (List.Forall₂ s.Carries) channels supplies := by
  induction supplied with
  | nil => exact ⟨[], rfl, rfl, .nil⟩
  | @cons operand drivers _ _ known _ inductionHypothesis =>
    obtain ⟨first, taken, carry⟩ := wf.unravel_carries operand known
    obtain ⟨others, takenRest, counted, carryRest⟩ := inductionHypothesis
    refine ⟨first :: others, ?_, congrArg Nat.succ counted, .cons carry carryRest⟩
    rw [unravelEach, taken, takenRest]
    rfl

/-- An application was carried out: its result names a node that stands for the operation on its
operands. -/
def Realised (s : Scene) (application : Application) : Prop :=
  ∃ op host supplies, Registry.builtin.lookup? application.operation = some op ∧
    s.Supplies application.operands supplies ∧
    application.result = .node host (op.resultAttrs (breadth supplies)) ∧
    s.Realises op host supplies

theorem plugsSupply?_isSome {s : Scene} {plugs : List String}
    (each : ∀ plug ∈ plugs, (s.plugSupply? plug).isSome) : (s.plugsSupply? plugs).isSome := by
  induction plugs with
  | nil => rfl
  | cons plug rest inductionHypothesis =>
    rw [List.forall_mem_cons] at each
    obtain ⟨drivers, first⟩ := Option.isSome_iff_exists.mp each.1
    obtain ⟨others, later⟩ := Option.isSome_iff_exists.mp (inductionHypothesis each.2)
    rw [plugsSupply?, first, Option.bind_some, later]
    rfl

/-- The output channels of an operation are found on its node, under the spelling they have. -/
theorem WellFormed.place?_output {s : Scene} (wf : s.WellFormed) {n : Node}
    (found : s.node? n.name = some n) {op : Operation} {count : Nat} (fits : op.Fits n.layout count)
    {name : String} (member : name ∈ op.output.names) :
    ∃ place, s.place? (Plug.join n.name name) = some (n.name, place) ∧ place.parts? = none := by
  obtain ⟨filled, place, located, narrow⟩ := fits.output name member
  obtain ⟨nodeFilled, free⟩ := wf.named n (mem_of_node? found).1
  have split := Plug.split?_join n.name name nodeFilled free filled
  exact ⟨place, (s.place?_eq_some_iff _ _ _).mpr ⟨name, n, split, found, located⟩, narrow⟩

/-- The result of an operation that is not deferred supplies something. -/
theorem WellFormed.supply?_result {s : Scene} (wf : s.WellFormed) {n : Node}
    (found : s.node? n.name = some n) {op : Operation} {count : Nat} (fits : op.Fits n.layout count)
    (direct : op.isDeferred = false) (width : Nat) :
    (s.supply? (.node n.name (op.resultAttrs width))).isSome := by
  have channel : ∀ name ∈ op.output.names, (s.plugSupply? (Plug.join n.name name)).isSome := by
    intro name member
    obtain ⟨place, there, narrow⟩ := wf.place?_output found fits member
    rw [plugSupply?, there, Option.bind_some]
    dsimp only
    rw [narrow]
    rfl
  rw [supply?]
  unfold Operation.resultAttrs
  split
  · rename_i branches deferred
    rw [Operation.isDeferred, Operation.branches?, deferred] at direct
    cases direct
  · rename_i name single
    rw [single] at channel
    refine plugsSupply?_isSome fun plug member => ?_
    rw [List.mem_singleton.mp member]
    exact channel name List.mem_cons_self
  · rename_i names _ several
    rw [several] at channel
    refine plugsSupply?_isSome fun plug member => ?_
    obtain ⟨name, taken, rfl⟩ := List.mem_map.mp member
    exact channel name (List.mem_of_mem_take taken)

end Scene

namespace Program

theorem exec_apply_ok {o : Options} {name : String} {operands : List Operand} {s after : Session}
    {result : Reference} (done : exec (apply o name operands) s = (.ok result, after)) :
    ∃ op channels, Registry.builtin.lookup? name = some op ∧ op.accepts operands.length = true ∧
      s.scene.unravelEach operands = .ok channels ∧
      exec (build o op operands channels) s = (.ok result, after) := by
  rw [apply] at done
  split at done
  · cases done
  · rename_i op known
    split at done
    · rename_i accepted
      obtain ⟨channels, between, looked, built⟩ := exec_bind_ok done
      rw [exec_look] at looked
      obtain ⟨taken, rfl⟩ := Prod.mk.inj looked
      exact ⟨op, channels, known, accepted, taken, built⟩
    · cases done

theorem mem_builtin_of_lookup? {name : String} {op : Operation}
    (known : Registry.builtin.lookup? name = some op) : op ∈ Operation.builtin := by
  have entry := Table.mem_entries_of_find? known
  obtain ⟨listed, member, equal⟩ := List.mem_map.mp entry
  cases equal
  exact member

/-- An operation that is applied to operands that supply something adds one node that stands for it,
and keeps everything else. -/
theorem apply_realises {o : Options} {name : String} {operands : List Operand} {s after : Session}
    {result : Reference} {supplies : List (List Driver)} (wf : s.scene.WellFormed)
    (supplied : s.scene.Supplies operands supplies)
    (done : exec (apply o name operands) s = (.ok result, after)) :
    ∃ op n, Registry.builtin.lookup? name = some op ∧
      result = .node n.name (op.resultAttrs (breadth supplies)) ∧
      n.name ∉ s.scene.nodeNames ∧ after.scene.node? n.name = some n ∧
      op.Fits n.layout operands.length ∧ after.scene.WellFormed ∧ s.scene.Keeps after.scene ∧
      after.scene.Realises op n.name supplies := by
  obtain ⟨op, channels, known, accepted, taken, built⟩ := exec_apply_ok done
  obtain ⟨_, same, counted, carry⟩ := wf.unravelEach_carry supplied
  obtain rfl := Except.ok.inj (taken.symm.trans same)
  obtain ⟨n, isResult, fresh, found, fits, keeps, realises⟩ :=
    build_realises wf (mem_builtin_of_lookup? known) accepted counted carry built
  have evolves := evolves_build o op operands channels s
  rw [built] at evolves
  exact ⟨op, n, known, isResult, fresh, found, fits, evolves.wellFormed wf, keeps, realises⟩

end Program

/-! ### All applications of a formula -/

namespace Scene

theorem Keeps.realised {s after : Scene} (keeps : Keeps s after) (wf : s.WellFormed)
    {application : Application} (realised : s.Realised application) :
    after.Realised application := by
  obtain ⟨op, host, supplies, known, supplied, isResult, realises⟩ := realised
  exact ⟨op, host, supplies, known, supplied.imp fun operand _ => keeps.grows.supply operand,
    isResult, keeps.realises wf realises⟩

/-- Applications were carried out on nodes of their own, that were not there before, and everything
else was kept. -/
structure Compiles (s after : Scene) (applications : List Application) : Prop where
  keeps : Keeps s after
  fresh : ∀ application ∈ applications, ∀ host, application.result.target? = some host →
    host ∉ s.nodeNames
  distinct : (applications.map (·.result.target?)).Nodup
  realised : ∀ application ∈ applications, after.Realised application

namespace Compiles

theorem nil (s : Scene) : Compiles s s [] where
  keeps := .refl s
  fresh := by simp
  distinct := List.nodup_nil
  realised := by simp

theorem append {s between after : Scene} {first second : List Application}
    (wf : between.WellFormed) (early : Compiles s between first)
    (late : Compiles between after second) : Compiles s after (first ++ second) where
  keeps := early.keeps.trans late.keeps
  fresh application member host named := by
    rcases List.mem_append.mp member with old | new
    · exact early.fresh application old host named
    · exact fun there => late.fresh application new host named (early.keeps.grows.node there)
  distinct := by
    rw [List.map_append, List.nodup_append]
    refine ⟨early.distinct, late.distinct, ?_⟩
    -- A node of the first part is there in between, and one of the second part is not.
    rintro _ inFirst target inSecond rfl
    obtain ⟨old, member, rfl⟩ := List.mem_map.mp inFirst
    obtain ⟨new, memberNew, same⟩ := List.mem_map.mp inSecond
    obtain ⟨op, host, supplies, _, _, isResult, realises⟩ := early.realised old member
    have named : old.result.target? = some host := by rw [isResult]; rfl
    obtain ⟨n, found, _⟩ := Option.map_eq_some_iff.mp realises.type
    have there := (between.node?_isSome_iff host).mp (Option.isSome_of_eq_some found)
    exact late.fresh new memberNew host (same.trans named) there
  realised application member := by
    rcases List.mem_append.mp member with old | new
    · exact late.keeps.realised wf (early.realised application old)
    · exact late.realised application new

end Compiles

end Scene

namespace Formula

mutual

/-- What compiling a formula comes to: its operations are carried out, and what stands for it
supplies something. -/
theorem compiles_of_compile (o : Options) (formula : Formula) {s after : Session}
    {compiled : Compiled} (wf : s.scene.WellFormed) (admissible : formula.Admissible s.scene)
    (done : Program.exec (formula.compile o) s = (.ok compiled, after)) :
    compiled.formula = formula ∧ after.scene.WellFormed ∧
      (after.scene.supply? compiled.operand).isSome ∧
      s.scene.Compiles after.scene compiled.applications := by
  cases formula with
  | leaf operand =>
    cases done
    exact ⟨rfl, wf, admissible, .nil _⟩
  | node operation arguments =>
    obtain ⟨⟨op, known, direct⟩, admissibleAll⟩ := admissible
    obtain ⟨inputs, between, compiledAll, rest⟩ := Program.exec_bind_ok done
    obtain ⟨result, final, applied, last⟩ := Program.exec_bind_ok rest
    cases last
    obtain ⟨same, wfBetween, each, early⟩ :=
      compiles_of_compileAll o arguments wf admissibleAll compiledAll
    obtain ⟨supplies, supplied⟩ : ∃ supplies, between.scene.Supplies _ supplies :=
      exists_forall₂_iff.mpr fun operand member => Option.isSome_iff_exists.mp (each operand member)
    obtain ⟨_, n, lookedUp, isResult, fresh, found, fits, wfAfter, keeps, realises⟩ :=
      Program.apply_realises wfBetween supplied applied
    obtain rfl := Option.some.inj (lookedUp.symm.trans known)
    refine ⟨by rw [Compiled.formula, same], wfAfter, ?_, ?_⟩
    · rw [Compiled.operand, isResult]
      exact wfAfter.supply?_result found fits direct _
    · refine early.append wfBetween ⟨keeps, ?_, List.nodup_singleton _, ?_⟩
      · intro application member host named
        rw [List.mem_singleton.mp member, isResult] at named
        exact Option.some.inj named ▸ fresh
      · intro application member
        rw [List.mem_singleton.mp member]
        exact ⟨_, n.name, supplies, known, supplied.imp fun operand _ => keeps.grows.supply operand,
          isResult, realises⟩

theorem compiles_of_compileAll (o : Options) (formulas : List Formula) {s after : Session}
    {compiled : List Compiled} (wf : s.scene.WellFormed)
    (admissible : AdmissibleAll s.scene formulas)
    (done : Program.exec (compileAll o formulas) s = (.ok compiled, after)) :
    Compiled.formulas compiled = formulas ∧ after.scene.WellFormed ∧
      (∀ operand ∈ compiled.map Compiled.operand, (after.scene.supply? operand).isSome) ∧
      s.scene.Compiles after.scene (Compiled.applicationsAll compiled) := by
  cases formulas with
  | nil =>
    cases done
    exact ⟨rfl, wf, by simp, .nil _⟩
  | cons first rest =>
    obtain ⟨compiledFirst, between, doneFirst, others⟩ := Program.exec_bind_ok done
    obtain ⟨compiledRest, final, doneRest, last⟩ := Program.exec_bind_ok others
    cases last
    obtain ⟨same, wfBetween, supplied, early⟩ :=
      compiles_of_compile o first wf admissible.1 doneFirst
    obtain ⟨sameRest, wfAfter, suppliedRest, late⟩ := compiles_of_compileAll o rest wfBetween
      (AdmissibleAll.mono early.keeps.grows rest admissible.2) doneRest
    refine ⟨by rw [Compiled.formulas, same, sameRest], wfAfter, ?_, early.append wfBetween late⟩
    rw [List.map_cons, List.forall_mem_cons]
    obtain ⟨drivers, known⟩ := Option.isSome_iff_exists.mp supplied
    exact ⟨Option.isSome_of_eq_some (late.keeps.grows.supply _ known), suppliedRest⟩

end

/-- A formula over a reachable scene that is compiled is compiled faithfully. Its operations have
nodes of their own; each node has the type of its operation and holds its mode; and each slot of each
group, as far as the operands reach, is driven by the channel at its position of the operand of the
group, or by its only channel. -/
theorem compile_realised (o : Options) (formula : Formula) {s after : Session} {compiled : Compiled}
    (reachable : s.scene.Reachable) (admissible : formula.Admissible s.scene)
    (done : Program.exec (formula.compile o) s = (.ok compiled, after)) :
    compiled.formula = formula ∧
      (compiled.applications.map (·.result.target?)).Nodup ∧
      ∀ application ∈ compiled.applications, after.scene.Realised application := by
  obtain ⟨same, _, _, compiles⟩ := compiles_of_compile o formula reachable.wellFormed admissible done
  exact ⟨same, compiles.distinct, compiles.realised⟩

/-- The product of a reversed vector and a number, in a scene with a transform. -/
theorem compile_realised_transform :
    ∃ (formula : Formula) (s after : Session) (compiled : Compiled),
      formula = .node "mul" [.node "reverse" [.leaf (.path "pCube1.t")], .leaf (.path "pCube1.tx")] ∧
      s.scene.nodeNames = ["pCube1"] ∧ s.scene.Reachable ∧ formula.Admissible s.scene ∧
      Program.exec (formula.compile .default) s = (.ok compiled, after) ∧
      compiled.formula = formula ∧ (compiled.applications.map (·.result.target?)).Nodup ∧
      ∀ application ∈ compiled.applications, after.scene.Realised application := by
  let formula : Formula :=
    .node "mul" [.node "reverse" [.leaf (.path "pCube1.t")], .leaf (.path "pCube1.tx")]
  let s : Session := Session.start (Host.ofScene (Scene.empty.run [.addTransform "pCube1"]) "")
  have reachable : s.scene.Reachable := ⟨_, rfl⟩
  have vector : (s.scene.supply? (.path "pCube1.t")).isSome = true := by decide +kernel
  have number : (s.scene.supply? (.path "pCube1.tx")).isSome = true := by decide +kernel
  have admissible : formula.Admissible s.scene :=
    ⟨⟨_, rfl, rfl⟩, ⟨⟨⟨_, rfl, rfl⟩, vector, trivial⟩, number, trivial⟩⟩
  have succeeds : (Program.exec (formula.compile .default) s).1.toOption.isSome = true := by
    decide +kernel
  cases run : Program.exec (formula.compile .default) s with
  | mk answer after =>
    rw [run] at succeeds
    cases answer with
    | error e => cases succeeds
    | ok compiled =>
      exact ⟨formula, s, after, compiled, rfl, by decide +kernel, reachable, admissible, run,
        compile_realised .default formula reachable admissible run⟩

end Formula

end FormulaNet
