/-
This file follows values through the steps of a script. A step names items that
earlier steps gave, and gives an item itself. If the values written out in it are
written by hand, and those in the items it names mean their payloads, then so do
the values it gives, over the readings there were and those it makes; what it
sets is written as what means the number that is set; and what it reads under a
tracer is told by the log.
-/

import FormulaNet.Proofs.Provenance
import FormulaNet.Proofs.Script

namespace FormulaNet

variable {made : Reading → Prop} {used : String → Prop} {items : Table Item}

/-! ### Values in arguments -/

/-- The values in an item. -/
def Item.values : Item → List Value
  | value v => [v]
  | reference r => r.values
  | _ => []

theorem Item.values_of_operand? {item : Item} {operand : Operand}
    (known : item.operand? = some operand) : operand.values = item.values := by
  cases item with
  | value v =>
    cases known
    rfl
  | reference r =>
    cases known
    cases r <;> rfl
  | _ => cases known

/-- The items kept under some names hold values that mean their payloads. -/
def SourcedUnder (used : String → Prop) (made : Reading → Prop) (items : Table Item) : Prop :=
  ∀ name, used name → ∀ item, items.find? name = some item → ∀ v ∈ item.values, v.Sourced made

theorem SourcedUnder.mono {others : Reading → Prop} (more : ∀ r, made r → others r)
    (kept : SourcedUnder used made items) : SourcedUnder used others items :=
  fun name named item found v member => (kept name named item found v member).mono more

theorem SourcedUnder.keep (kept : SourcedUnder used made items) (name : Option String)
    {outcome : Except Error Item}
    (sourced : ∀ item, outcome = .ok item → ∀ v ∈ item.values, v.Sourced made) :
    SourcedUnder used made (FormulaNet.keep items name outcome) := by
  unfold FormulaNet.keep
  split
  · rename_i name item
    intro asked named found known
    by_cases same : asked = name
    · rw [same, Table.find?_insert_self] at known
      exact sourced found (congrArg Except.ok (Option.some.inj known))
    · rw [Table.find?_insert_other _ same] at known
      exact kept asked named found known
  · exact kept

namespace Argument

mutual

/-- The names of the kept items in an argument. -/
def names : Argument → List String
  | given _ => []
  | kept name => [name]
  | literal payload => payload.names
  | list arguments => namesAll arguments

def namesAll : List Argument → List String
  | [] => []
  | argument :: rest => argument.names ++ namesAll rest

end

mutual

/-- Whether the values written out in an argument are written by hand. -/
def Authored : Argument → Prop
  | given operand => ∀ v ∈ operand.values, v = .ofPrimitive v.payload
  | kept _ => True
  | literal payload => payload.Authored
  | list arguments => AuthoredAll arguments

def AuthoredAll : List Argument → Prop
  | [] => True
  | argument :: rest => argument.Authored ∧ AuthoredAll rest

end

mutual

theorem sourced_operand? (kept : SourcedUnder used made items) (argument : Argument)
    (authored : argument.Authored) (among : ∀ name ∈ argument.names, used name)
    {operand : Operand} (known : argument.operand? items = some operand) :
    ∀ v ∈ operand.values, v.Sourced made := by
  cases argument with
  | given operand =>
    cases known
    intro v member
    rw [authored v member]
    exact Value.sourced_ofPrimitive v.payload
  | kept name =>
    obtain ⟨item, found, isOperand⟩ := Option.bind_eq_some_iff.mp known
    rw [Item.values_of_operand? isOperand]
    exact kept name (among name (List.mem_singleton_self name)) item found
  | literal payload =>
    obtain ⟨inner, knownInner, rfl⟩ := Option.map_eq_some_iff.mp known
    show ∀ v ∈ inner.values, _
    exact sourced_operand? kept payload authored among knownInner
  | list arguments =>
    obtain ⟨operands, knownAll, rfl⟩ := Option.map_eq_some_iff.mp known
    exact sourced_operands? kept arguments authored among knownAll

theorem sourced_operands? (kept : SourcedUnder used made items) (arguments : List Argument)
    (authored : AuthoredAll arguments) (among : ∀ name ∈ namesAll arguments, used name)
    {operands : List Operand} (known : operands? items arguments = some operands) :
    ∀ v ∈ Operand.valuesAll operands, v.Sourced made := by
  cases arguments with
  | nil =>
    cases known
    exact List.forall_mem_nil _
  | cons argument rest =>
    obtain ⟨first, knownFirst, knownMore⟩ := Option.bind_eq_some_iff.mp known
    obtain ⟨others, knownRest, rfl⟩ := Option.map_eq_some_iff.mp knownMore
    obtain ⟨amongFirst, amongRest⟩ := List.forall_mem_append.mp among
    exact List.forall_mem_append.mpr
      ⟨sourced_operand? kept argument authored.1 amongFirst knownFirst,
        sourced_operands? kept rest authored.2 amongRest knownRest⟩

end

theorem sourced_each (kept : SourcedUnder used made items) {arguments : List Argument}
    (each : ∀ argument ∈ arguments, argument.Authored ∧ ∀ name ∈ argument.names, used name)
    {operands : List Operand} (known : operands? items arguments = some operands) :
    ∀ operand ∈ operands, ∀ v ∈ operand.values, v.Sourced made := by
  induction arguments generalizing operands with
  | nil =>
    cases known
    exact List.forall_mem_nil _
  | cons argument rest inductionHypothesis =>
    obtain ⟨first, knownFirst, knownMore⟩ := Option.bind_eq_some_iff.mp known
    obtain ⟨others, knownRest, rfl⟩ := Option.map_eq_some_iff.mp knownMore
    rw [List.forall_mem_cons] at each
    exact List.forall_mem_cons.mpr ⟨sourced_operand? kept argument each.1.1 each.1.2 knownFirst,
      inductionHypothesis each.2 knownRest⟩

theorem sourced_reference? (kept : SourcedUnder used made items) {argument : Argument}
    (authored : argument.Authored) (among : ∀ name ∈ argument.names, used name)
    {r : Reference} (known : argument.reference? items = some r) :
    ∀ v ∈ r.values, v.Sourced made := by
  obtain ⟨operand, knownOperand, rfl⟩ := Option.map_eq_some_iff.mp known
  have values : operand.toReference.values = operand.values := by cases operand <;> rfl
  rw [values]
  exact sourced_operand? kept argument authored among knownOperand

theorem sourced_value? (kept : SourcedUnder used made items) {argument : Argument}
    (authored : argument.Authored) (among : ∀ name ∈ argument.names, used name)
    {v : Value} (known : argument.value? items = some v) : v.Sourced made := by
  obtain ⟨operand, knownOperand, isValue⟩ := Option.bind_eq_some_iff.mp known
  refine sourced_operand? kept argument authored among knownOperand v ?_
  cases operand with
  | value w =>
    cases isValue
    exact List.mem_singleton_self _
  | _ => cases isValue

end Argument

/-! ### Results of programs -/

namespace Program

/-- Whatever a program gives has a property. -/
def Yields {α : Type} (property : α → Prop) (program : Program α) : Prop :=
  ∀ s a after, exec program s = (.ok a, after) → property a

namespace Yields

variable {α β : Type} {property : α → Prop}

theorem pure {a : α} (holds : property a) : Yields property (pure a) := by
  intro s b after done
  cases done
  exact holds

theorem throw (e : Error) : Yields property (throw e) := by
  intro s b after done
  cases done

theorem bind {program : Program β} {next : β → Program α}
    (rest : ∀ b, Yields property (next b)) : Yields property (program >>= next) := by
  intro s a after done
  obtain ⟨b, between, _, later⟩ := exec_bind_ok done
  exact rest b between a after later

end Yields

/-- A reference without values: its channels are those of a node. -/
def Valueless (r : Reference) : Prop := r.values = []

theorem yields_apply (o : Options) (name : String) (operands : List Operand) :
    Yields Valueless (apply o name operands) := by
  rw [apply]
  split
  · exact .throw _
  · split
    · exact .bind fun channels => .bind fun node => .bind fun _ => .bind fun _ => .pure rfl
    · exact .throw _

theorem yields_condition (o : Options) (test : Reference) (ifTrue ifFalse : Operand) :
    Yields Valueless (condition o test ifTrue ifFalse) := by
  refine .bind fun (node, branches) => .bind fun _ => .bind fun _ => ?_
  rw [bindBranches]
  split
  · exact .throw _
  · exact .bind fun _ => .bind fun _ => .pure rfl

theorem yields_addUserAttribute (o : Options) (node name : String) (spec : AttributeSpec) :
    Yields Valueless (addUserAttribute o node name spec) := by
  have parsed (plug : String) : Valueless (Reference.parse plug) := by
    rw [Reference.parse]
    split <;> rfl
  refine .bind fun scene => ?_
  split
  · exact .bind fun _ => .pure (parsed _)
  · refine .bind fun _ => ?_
    dsimp only
    split
    · exact .pure (parsed _)
    · exact .bind fun _ => .pure (parsed _)

theorem yields_addAttributeTo (o : Options) (r : Reference) (name : String) (spec : AttributeSpec) :
    Yields Valueless (addAttributeTo o r name spec) :=
  .bind fun node => yields_addUserAttribute o node name spec

theorem yields_addSeparator (o : Options) (r : Reference) :
    Yields Valueless (addSeparator o r) :=
  .bind fun node => .bind fun _ => yields_addUserAttribute o node _ separatorSpec

end Program

/-! ### Instructions -/

/-- A step gives no values, unless it reads. -/
theorem Step.item_of_exec {o : Options} {step : Step} {s after : Session} {item : Item}
    (done : (step.program o).exec s = (.ok item, after)) :
    item.values = [] ∨ ∃ r v, step = .act (.read r) ∧ item = .value v ∧
      (Program.read r).exec s = (.ok v, after) := by
  match step with
  | act (.apply name operands) =>
    obtain ⟨r, given, rfl⟩ := Program.exec_wrap_ok _ done
    exact Or.inl (Program.yields_apply o name operands _ _ _ given)
  | act (.condition test ifTrue ifFalse) =>
    obtain ⟨r, given, rfl⟩ := Program.exec_wrap_ok _ done
    exact Or.inl (Program.yields_condition o test ifTrue ifFalse _ _ _ given)
  | act (.addUserAttribute node name spec) =>
    obtain ⟨r, given, rfl⟩ := Program.exec_wrap_ok _ done
    exact Or.inl (Program.yields_addUserAttribute o node name spec _ _ _ given)
  | act (.addAttributeTo owner name spec) =>
    obtain ⟨r, given, rfl⟩ := Program.exec_wrap_ok _ done
    exact Or.inl (Program.yields_addAttributeTo o owner name spec _ _ _ given)
  | act (.addSeparator owner) =>
    obtain ⟨r, given, rfl⟩ := Program.exec_wrap_ok _ done
    exact Or.inl (Program.yields_addSeparator o owner _ _ _ given)
  | act (.read r) =>
    obtain ⟨v, taken, rfl⟩ := Program.exec_wrap_ok _ done
    exact Or.inr ⟨r, v, rfl, rfl, taken⟩
  | act (.setOrConnect _ _) | dropContainer _ | abandonContainer | arm _ | write _ =>
    obtain ⟨_, _, rfl⟩ := Program.exec_wrap_ok (fun _ => Item.done) done
    exact Or.inl rfl
  | openContainer _ | finishContainer _ =>
    obtain ⟨_, _, rfl⟩ := Program.exec_wrap_ok _ done
    exact Or.inl rfl

namespace Instruction

/-- The arguments of an instruction. -/
def arguments : Instruction → List Argument
  | refer base => [base]
  | attr base _ => [base]
  | attrs base _ => [base]
  | element base _ => [base]
  | combine _ left right => [left, right]
  | negate operand => [operand]
  | read base => [base]
  | setOrConnect target source => [target, source]
  | apply _ operands => operands
  | condition test ifTrue ifFalse => [test, ifTrue, ifFalse]
  | addAttributeTo base _ _ => [base]
  | addSeparator base => [base]
  | _ => []

/-- The readings that an instruction makes. -/
def readings (opening : Nat) (items : Table Item) (s : Session) : Instruction → List Reading
  | read base =>
    match base.reference? items with
    | some r => Program.readingsOf opening s r
    | none => []
  | _ => []

/-- What is run for an instruction is its step, or only answers. -/
theorem program?_cases {o : Options} {instruction : Instruction} {program : Program Item}
    (known : instruction.program? o items = some program) :
    (∃ step, instruction.step? items = some step ∧ program = step.program o) ∨
      ∃ answer, instruction.answer? items = some answer ∧ ∀ s, program.exec s = (answer, s) := by
  unfold program? at known
  split at known
  · rename_i step isStep
    exact Or.inl ⟨step, isStep, (Option.some.inj known).symm⟩
  · obtain ⟨answer, isAnswer, rfl⟩ := Option.map_eq_some_iff.mp known
    exact Or.inr ⟨answer, isAnswer, Program.exec_look _⟩

/-- Only an instruction to read is a step that reads. -/
theorem read_of_step? {instruction : Instruction} {r : Reference}
    (isRead : instruction.step? items = some (.act (.read r))) :
    ∃ base, instruction = .read base ∧ base.reference? items = some r := by
  cases instruction with
  | read base =>
    obtain ⟨t, isBase, same⟩ := Option.map_eq_some_iff.mp isRead
    cases same
    exact ⟨base, rfl, isBase⟩
  | setOrConnect target source =>
    obtain ⟨_, _, rest⟩ := Option.bind_eq_some_iff.mp isRead
    obtain ⟨_, _, same⟩ := Option.map_eq_some_iff.mp rest
    cases same
  | condition test ifTrue ifFalse =>
    obtain ⟨_, _, rest⟩ := Option.bind_eq_some_iff.mp isRead
    obtain ⟨_, _, more⟩ := Option.bind_eq_some_iff.mp rest
    obtain ⟨_, _, same⟩ := Option.map_eq_some_iff.mp more
    cases same
  | apply _ _ | addAttributeTo _ _ _ | addSeparator _ | finishContainer _ | dropContainer _ =>
    obtain ⟨_, _, same⟩ := Option.map_eq_some_iff.mp isRead
    cases same
  | _ => cases isRead

/-- An instruction whose arguments are written by hand, or kept under names in use. -/
def Uses (used : String → Prop) (instruction : Instruction) : Prop :=
  ∀ argument ∈ instruction.arguments,
    argument.Authored ∧ ∀ name ∈ argument.names, used name

/-- What an instruction sets is explained. -/
theorem explained_step? {instruction : Instruction} (kept : SourcedUnder used made items)
    (uses : instruction.Uses used) {step : Step} (known : instruction.step? items = some step) :
    ∀ channel ∈ step.literals, channel.Explained made := by
  have nothing {channels : List Channel} (empty : channels = []) :
      ∀ channel ∈ channels, channel.Explained made := by
    rw [empty]
    exact List.forall_mem_nil _
  have value (given : Option Float) :
      ∀ channel ∈ (given.map Channel.ofNumber).toList, channel.Explained made := by
    cases given with
    | none => exact nothing rfl
    | some v => exact List.forall_mem_singleton.mpr (Channel.explained_ofNumber v)
  have operand {argument : Argument} (member : argument ∈ instruction.arguments) {operand : Operand}
      (isOperand : argument.operand? items = some operand) :=
    operand.explained_literals (argument.sourced_operand? kept (uses argument member).1
      (uses argument member).2 isOperand)
  cases instruction with
  | setOrConnect target source =>
    obtain ⟨t, _, rest⟩ := Option.bind_eq_some_iff.mp known
    obtain ⟨r, isSource, rfl⟩ := Option.map_eq_some_iff.mp rest
    exact operand (List.mem_cons_of_mem _ (List.mem_singleton_self _)) isSource
  | apply name arguments =>
    obtain ⟨operands, isAll, rfl⟩ := Option.map_eq_some_iff.mp known
    refine List.forall_mem_append.mpr ⟨?_, fun channel member => ?_⟩
    · cases (Registry.builtin.lookup? name).bind (·.mode) with
      | none => exact nothing rfl
      | some mode => exact List.forall_mem_singleton.mpr (Channel.explained_ofNumber _)
    · obtain ⟨one, among, inside⟩ := List.mem_flatMap.mp member
      exact one.explained_literals (Argument.sourced_each kept uses isAll one among) channel inside
  | condition test ifTrue ifFalse =>
    obtain ⟨r, _, rest⟩ := Option.bind_eq_some_iff.mp known
    obtain ⟨a, isTrue, more⟩ := Option.bind_eq_some_iff.mp rest
    obtain ⟨b, isFalse, rfl⟩ := Option.map_eq_some_iff.mp more
    refine List.forall_mem_append.mpr ⟨operand ?_ isTrue, operand ?_ isFalse⟩
    · exact List.mem_cons_of_mem _ List.mem_cons_self
    · exact List.mem_cons_of_mem _ (List.mem_cons_of_mem _ (List.mem_singleton_self _))
  | addUserAttribute node name spec =>
    cases known
    exact value spec.value
  | addAttributeTo base name spec =>
    obtain ⟨r, _, rfl⟩ := Option.map_eq_some_iff.mp known
    exact value spec.value
  | read base =>
    obtain ⟨r, _, rfl⟩ := Option.map_eq_some_iff.mp known
    exact nothing rfl
  | addSeparator base =>
    obtain ⟨r, _, rfl⟩ := Option.map_eq_some_iff.mp known
    exact nothing rfl
  | finishContainer scope =>
    obtain ⟨held, _, rfl⟩ := Option.map_eq_some_iff.mp known
    exact nothing rfl
  | dropContainer scope =>
    obtain ⟨held, _, rfl⟩ := Option.map_eq_some_iff.mp known
    exact nothing rfl
  | openContainer options =>
    cases known
    exact nothing rfl
  | abandonContainer =>
    cases known
    exact nothing rfl
  | arm fault =>
    cases known
    exact nothing rfl
  | write change =>
    cases known
    exact nothing rfl
  | _ => cases known

/-- What an instruction answers holds values that mean their payloads. -/
theorem sourced_answer? {instruction : Instruction} (kept : SourcedUnder used made items)
    (uses : instruction.Uses used) {item : Item}
    (known : instruction.answer? items = some (.ok item)) : ∀ v ∈ item.values, v.Sourced made := by
  have nothing {vs : List Value} (empty : vs = []) : ∀ v ∈ vs, v.Sourced made := by
    rw [empty]
    exact List.forall_mem_nil _
  have reference {argument : Argument} (member : argument ∈ instruction.arguments) {r : Reference}
      (isReference : argument.reference? items = some r) :=
    Argument.sourced_reference? kept (uses argument member).1 (uses argument member).2 isReference
  have value {argument : Argument} (member : argument ∈ instruction.arguments) {v : Value}
      (isValue : argument.value? items = some v) :=
    Argument.sourced_value? kept (uses argument member).1 (uses argument member).2 isValue
  cases instruction with
  | refer base =>
    obtain ⟨r, isBase, same⟩ := Option.map_eq_some_iff.mp known
    cases same
    exact reference (List.mem_singleton_self _) isBase
  | attr base name =>
    obtain ⟨r, _, same⟩ := Option.map_eq_some_iff.mp known
    cases same
    exact nothing (r.values_attr name)
  | attrs base names =>
    obtain ⟨r, _, same⟩ := Option.map_eq_some_iff.mp known
    cases same
    exact nothing (r.values_attrs names)
  | element base index =>
    obtain ⟨r, isBase, same⟩ := Option.map_eq_some_iff.mp known
    cases same
    unfold Reference.element
    split
    · rename_i element found
      exact fun v member =>
        reference (List.mem_singleton_self _) isBase v (Reference.values_get? found v member)
    · exact nothing rfl
  | combine op left right =>
    obtain ⟨a, isLeft, rest⟩ := Option.bind_eq_some_iff.mp known
    obtain ⟨b, isRight, joined⟩ := Option.map_eq_some_iff.mp rest
    unfold Value.joined at joined
    split at joined
    · rename_i w isCombined
      cases joined
      refine List.forall_mem_singleton.mpr (Value.Sourced.combine ?_ ?_ isCombined)
      · exact value List.mem_cons_self isLeft
      · exact value (List.mem_cons_of_mem _ (List.mem_singleton_self _)) isRight
    · cases joined
  | negate argument =>
    obtain ⟨v, isOperand, same⟩ := Option.map_eq_some_iff.mp known
    cases same
    exact List.forall_mem_singleton.mpr (value (List.mem_singleton_self _) isOperand).negate
  | _ => cases known

/-- What an instruction gives holds values that mean their payloads, over the readings there were and
those it makes. -/
theorem sourced_of_exec (opening : Nat) {o : Options} {instruction : Instruction}
    (kept : SourcedUnder used made items) (uses : instruction.Uses used)
    {program : Program Item} (known : instruction.program? o items = some program)
    {s after : Session} {item : Item} (done : program.exec s = (.ok item, after)) :
    ∀ v ∈ item.values,
      v.Sourced fun r => made r ∨ r ∈ instruction.readings opening items s := by
  have before {vs : List Value} (sourced : ∀ v ∈ vs, v.Sourced made) :
      ∀ v ∈ vs, v.Sourced fun r => made r ∨ r ∈ instruction.readings opening items s :=
    fun v member => (sourced v member).mono fun _ => Or.inl
  have reference {argument : Argument} (member : argument ∈ instruction.arguments) {r : Reference}
      (isReference : argument.reference? items = some r) :=
    Argument.sourced_reference? kept (uses argument member).1 (uses argument member).2 isReference
  rcases program?_cases known with ⟨step, isStep, rfl⟩ | ⟨answer, isAnswer, still⟩
  · rcases step.item_of_exec done with empty | ⟨r, v, rfl, rfl, taken⟩
    · rw [empty]
      exact List.forall_mem_nil _
    · obtain ⟨base, rfl, isBase⟩ := read_of_step? isStep
      rw [readings, isBase]
      exact List.forall_mem_singleton.mpr
        (Program.sourced_read opening (reference (List.mem_singleton_self _) isBase) taken)
  · rw [still] at done
    cases done
    exact before (sourced_answer? kept uses isAnswer)

/-- An instruction is logged as its calls are answered, with explained literals. -/
theorem logs_of_program? {o : Options} {instruction : Instruction}
    (kept : SourcedUnder used made items) (uses : instruction.Uses used) {program : Program Item}
    (known : instruction.program? o items = some program) (s : Session) :
    ∃ literals, (∀ channel ∈ literals, channel.Explained made) ∧
      Session.Logs literals s (program.exec s).2 := by
  rcases program?_cases known with ⟨step, isStep, rfl⟩ | ⟨_, _, still⟩
  · exact ⟨step.literals, explained_step? kept uses isStep, step.logs_program o (fun _ => id) s⟩
  · rw [still s]
    exact ⟨[], List.forall_mem_nil _, (Session.lasting_logs []).refl s⟩

/-- Readings that an instruction makes under a tracer are told by its log. -/
theorem tells_readings (opening : Nat) {o : Options} {instruction : Instruction}
    {program : Program Item} (known : instruction.program? o items = some program) {s : Session}
    (on : s.recorder.tracing = true) :
    ∀ r ∈ instruction.readings opening items s,
      Trace.Tells opening (program.exec s).2.recorder.log (program.exec s).2.recorder.log.length r := by
  cases instruction with
  | read base =>
    cases isBase : base.reference? items with
    | none =>
      rw [readings, isBase]
      exact List.forall_mem_nil _
    | some r =>
      rw [program?, step?, isBase] at known
      cases known
      rw [readings, isBase, Step.program, Action.program, Program.exec_wrap_snd]
      exact Program.tells_readingsOf opening r on
  | _ => exact List.forall_mem_nil _

end Instruction

end FormulaNet
