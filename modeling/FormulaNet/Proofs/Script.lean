/-
This file runs scripts. A script is a list of turns: steps of a user, and tracers
that are opened or closed in between. A step may name what earlier steps gave
and is left out if that is not there. Taking all tracers out of a script changes
nothing that its steps report but expressions: after every step the scene is the
same, a step succeeds or fails for the same kind of reason, references are the
same, and values have the same payload.
-/

import FormulaNet.Proofs.Erasure
import FormulaNet.Proofs.Steps

namespace FormulaNet

/-! ### Steps -/

/-- An item as an operand. -/
def Item.operand? : Item → Option Operand
  | value v => some (.value v)
  | reference r => some r.toOperand
  | _ => none

def Item.scope? : Item → Option ContainerScope
  | scope s => some s
  | _ => none

/-- An operand as a reference: what names no node is a literal. -/
def Operand.toReference : Operand → Reference
  | node name attrs => .node name attrs
  | literal payload => .literal payload
  | operand => .literal operand

def Operand.value? : Operand → Option Value
  | value v => some v
  | _ => none

/-- An operand of a script: written out, kept from an earlier step, or made of such. -/
inductive Argument where
  | given (operand : Operand)
  | kept (name : String)
  | literal (payload : Argument)
  | list (items : List Argument)

namespace Argument

mutual

/-- The operand that an argument stands for. -/
def operand? (items : Table Item) : Argument → Option Operand
  | given operand => some operand
  | kept name => (items.find? name).bind Item.operand?
  | literal payload => (payload.operand? items).map .literal
  | list arguments => (operands? items arguments).map .list

/-- The operands that several arguments stand for. -/
def operands? (items : Table Item) : List Argument → Option (List Operand)
  | [] => some []
  | argument :: rest =>
    (argument.operand? items).bind fun operand => (operands? items rest).map (operand :: ·)

end

def reference? (items : Table Item) (argument : Argument) : Option Reference :=
  (argument.operand? items).map Operand.toReference

def value? (items : Table Item) (argument : Argument) : Option Value :=
  (argument.operand? items).bind Operand.value?

end Argument

/-- What a user does. Operators on references are applications of their operations, and setting an
attribute is setting or connecting it. -/
inductive Instruction where
  | refer (base : Argument)
  | attr (base : Argument) (name : String)
  | attrs (base : Argument) (names : List String)
  | element (base : Argument) (index : Nat)
  | combine (op : Operator) (left right : Argument)
  | negate (operand : Argument)
  | read (base : Argument)
  | setOrConnect (target source : Argument)
  | apply (name : String) (operands : List Argument)
  | condition (test ifTrue ifFalse : Argument)
  | addUserAttribute (node name : String) (spec : AttributeSpec)
  | addAttributeTo (base : Argument) (name : String) (spec : AttributeSpec)
  | addSeparator (base : Argument)
  | openContainer (options : ContainerOptions)
  | finishContainer (scope : String)
  | dropContainer (scope : String)
  | abandonContainer
  | arm (fault : Option Fault)
  | write (change : Scene.Change)

/-- Two values joined by an operator. -/
def Value.joined (op : Operator) (a b : Value) : Except Error Item :=
  match Value.combine op a b with
  | .ok v => .ok (.value v)
  | .error mismatch => .error (.lengths mismatch)

/-- One element of a reference, or nothing. -/
def Reference.element (r : Reference) (index : Nat) : Item :=
  match r.get? index with
  | some element => .reference element
  | none => .done

namespace Instruction

/-- The step that an instruction stands for, if it stands for one and all that it names is
there. -/
def step? (items : Table Item) : Instruction → Option Step
  | read base => (base.reference? items).map fun r => .act (.read r)
  | setOrConnect target source =>
    (target.operand? items).bind fun target => (source.operand? items).map fun source =>
      .act (.setOrConnect target source)
  | apply name operands =>
    (Argument.operands? items operands).map fun operands => .act (.apply name operands)
  | condition test ifTrue ifFalse =>
    (test.reference? items).bind fun test => (ifTrue.operand? items).bind fun ifTrue =>
      (ifFalse.operand? items).map fun ifFalse => .act (.condition test ifTrue ifFalse)
  | addUserAttribute node name spec => some (.act (.addUserAttribute node name spec))
  | addAttributeTo base name spec =>
    (base.reference? items).map fun r => .act (.addAttributeTo r name spec)
  | addSeparator base => (base.reference? items).map fun r => .act (.addSeparator r)
  | openContainer options => some (.openContainer options)
  | finishContainer scope => ((items.find? scope).bind Item.scope?).map .finishContainer
  | dropContainer scope => ((items.find? scope).bind Item.scope?).map .dropContainer
  | abandonContainer => some .abandonContainer
  | arm fault => some (.arm fault)
  | write change => some (.write change)
  | _ => none

/-- What an instruction gives that works on references and values alone, if all that it names is
there. -/
def answer? (items : Table Item) : Instruction → Option (Except Error Item)
  | refer base => (base.reference? items).map fun r => .ok (.reference r)
  | attr base name => (base.reference? items).map fun r => .ok (.reference (r.attr name))
  | attrs base names => (base.reference? items).map fun r => .ok (.reference (r.attrs names))
  | element base index => (base.reference? items).map fun r => .ok (r.element index)
  | combine op left right =>
    (left.value? items).bind fun a => (right.value? items).map fun b => Value.joined op a b
  | negate operand => (operand.value? items).map fun v => .ok (.value v.negate)
  | _ => none

/-- What is to be run for an instruction, if all that it names is there. -/
def program? (o : Options) (items : Table Item) (instruction : Instruction) :
    Option (Program Item) :=
  match instruction.step? items with
  | some step => some (step.program o)
  | none => (instruction.answer? items).map fun answer => Program.look fun _ => answer

end Instruction

/-! ### Scripts -/

/-- A turn of a script: a step, whose result may be kept under a name, or a tracer. -/
inductive Turn where
  | step (instruction : Instruction) (keep : Option String)
  | openTracer (options : TracerOptions)
  | closeTracer (options : TracerOptions)

def Turn.isStep : Turn → Bool
  | step .. => true
  | _ => false

/-- What is seen of a step: what came of it, unless it was left out, and the scene after it. -/
structure Report where
  outcome : Option (Except Error Item)
  scene : Scene

/-- The kept items after a step. A step that failed leaves them as they were. -/
def keep (items : Table Item) (name : Option String) (outcome : Except Error Item) : Table Item :=
  match name, outcome with
  | some name, .ok item => items.insert name item
  | _, _ => items

/-- The reports of the steps of a script, one for each and in order. -/
def reports (o : Options) (s : Session) (items : Table Item) : List Turn → List Report
  | [] => []
  | .openTracer options :: rest =>
    reports o ((Happening.openTracer options).perform o s) items rest
  | .closeTracer options :: rest =>
    reports o ((Happening.closeTracer options).perform o s) items rest
  | .step instruction name :: rest =>
    match instruction.program? o items with
    | none => ⟨none, s.scene⟩ :: reports o s items rest
    | some program =>
      ⟨some (program.exec s).1, (program.exec s).2.scene⟩ ::
        reports o (program.exec s).2 (keep items name (program.exec s).1) rest

/-! ### Items alike -/

/-- Items that are the same but for the expressions of values. -/
inductive Item.Alike : Item → Item → Prop where
  | value {v w : Value} (payload : v.payload = w.payload) (authored : v.authored = w.authored) :
    Alike (.value v) (.value w)
  | node (name : String) (attrs : Attrs) :
    Alike (.reference (.node name attrs)) (.reference (.node name attrs))
  | literal {payload other : Operand} (same : payload.erased = other.erased) :
    Alike (.reference (.literal payload)) (.reference (.literal other))
  | scope (scope : ContainerScope) : Alike (.scope scope) (.scope scope)
  | container (name : Option String) : Alike (.container name) (.container name)
  | done : Alike .done .done

/-- Reports of the same scene, with outcomes alike or none. -/
structure Report.Alike (report other : Report) : Prop where
  scene : report.scene = other.scene
  outcome : Option.Rel (Agree Item.Alike) report.outcome other.outcome

section Options

variable {α β γ δ : Type} {R : α → β → Prop} {S : γ → δ → Prop}

theorem rel_map {x : Option α} {y : Option β} {f : α → γ} {g : β → δ} (related : Option.Rel R x y)
    (step : ∀ a b, R a b → S (f a) (g b)) : Option.Rel S (x.map f) (y.map g) := by
  cases related with
  | none => exact .none
  | some head => exact .some (step _ _ head)

theorem rel_bind {x : Option α} {y : Option β} {f : α → Option γ} {g : β → Option δ}
    (related : Option.Rel R x y) (step : ∀ a b, R a b → Option.Rel S (f a) (g b)) :
    Option.Rel S (x.bind f) (y.bind g) := by
  cases related with
  | none => exact .none
  | some head => exact step _ _ head

theorem rel_of_map_eq {f : α → γ} {x y : Option α} (same : x.map f = y.map f) :
    Option.Rel (fun a b => f a = f b) x y := by
  match x, y with
  | none, none => exact .none
  | some a, some b => exact .some (Option.some.inj same)

end Options

open Program

namespace Item.Alike

theorem ofValue {v w : Value} (alike : AlikeValues v w) : Alike (.value v) (.value w) := by
  obtain ⟨payload, authored⟩ := (alikeValues_iff v w).mp alike
  exact .value payload authored

theorem ofReference {r t : Reference} (alike : AlikeReferences r t) :
    Alike (.reference r) (.reference t) := by
  rcases alikeReferences_cases alike with ⟨name, attrs, rfl, rfl⟩ | ⟨_, _, rfl, rfl, same⟩
  · exact .node name attrs
  · exact .literal same

theorem operand? {item other : Item} (alike : item.Alike other) :
    Option.Rel AlikeOperands item.operand? other.operand? := by
  cases alike with
  | @value v w payload authored =>
    exact .some (congrArg Operand.value ((alikeValues_iff v w).mpr ⟨payload, authored⟩))
  | node name attrs => exact .some rfl
  | literal same => exact .some (congrArg Operand.literal same)
  | scope scope => exact .none
  | container name => exact .none
  | done => exact .none

theorem scope? {item other : Item} (alike : item.Alike other) :
    Option.Rel Eq item.scope? other.scope? := by
  cases alike with
  | scope scope => exact .some rfl
  | _ => exact .none

end Item.Alike

/-- Tables that keep items alike under each name. -/
def AlikeTables (items others : Table Item) : Prop :=
  ∀ name, Option.Rel Item.Alike (items.find? name) (others.find? name)

theorem alikeTables_keep {items others : Table Item} (tables : AlikeTables items others)
    (name : Option String) {outcome other : Except Error Item}
    (agree : Agree Item.Alike outcome other) :
    AlikeTables (keep items name outcome) (keep others name other) := by
  cases name with
  | none => exact tables
  | some name =>
    cases agree with
    | error kinds => exact tables
    | ok related =>
      intro asked
      unfold keep
      by_cases same : asked = name
      · subst same
        simp [related]
      · rw [Table.find?_insert_other _ same, Table.find?_insert_other _ same]
        exact tables asked

theorem Operand.toReference_erased (operand : Operand) :
    operand.erased.toReference = operand.toReference.erased := by
  cases operand <;> rfl

theorem Operand.value?_erased (operand : Operand) :
    operand.erased.value? = operand.value?.map Value.erased := by
  cases operand <;> rfl

namespace Argument

variable {items others : Table Item}

mutual

theorem alike_operand? (tables : AlikeTables items others) (argument : Argument) :
    Option.Rel AlikeOperands (argument.operand? items) (argument.operand? others) := by
  cases argument with
  | given operand => exact .some rfl
  | kept name => exact rel_bind (tables name) fun _ _ alike => alike.operand?
  | literal payload =>
    exact rel_map (alike_operand? tables payload) fun _ _ alike => congrArg Operand.literal alike
  | list arguments =>
    refine rel_map (alike_operands? tables arguments) fun operands operandsOther alike => ?_
    simp only [AlikeOperands, Operand.erased, Operand.erasedAll_eq, alike]

theorem alike_operands? (tables : AlikeTables items others) (arguments : List Argument) :
    Option.Rel (fun operands operandsOther =>
        operands.map Operand.erased = operandsOther.map Operand.erased)
      (operands? items arguments) (operands? others arguments) := by
  cases arguments with
  | nil => exact .some rfl
  | cons argument rest =>
    refine rel_bind (alike_operand? tables argument) fun a b head => ?_
    refine rel_map (alike_operands? tables rest) fun as bs tail => ?_
    rw [List.map_cons, List.map_cons, head, tail]

end

theorem alike_reference? (tables : AlikeTables items others) (argument : Argument) :
    Option.Rel AlikeReferences (argument.reference? items) (argument.reference? others) := by
  refine rel_map (argument.alike_operand? tables) fun a b alike => ?_
  rw [AlikeReferences, ← a.toReference_erased, ← b.toReference_erased, alike]

theorem alike_value? (tables : AlikeTables items others) (argument : Argument) :
    Option.Rel AlikeValues (argument.value? items) (argument.value? others) := by
  refine rel_bind (argument.alike_operand? tables) fun a b alike => rel_of_map_eq ?_
  rw [← a.value?_erased, ← b.value?_erased, alike]

end Argument

/-! ### References and values alike -/

namespace Reference

theorem attr_erased (r : Reference) (name : String) :
    (r.attr name).erased = r.erased.attr name := by
  cases r <;> rfl

theorem attrs_erased (r : Reference) (names : List String) :
    (r.attrs names).erased = r.erased.attrs names := by
  cases r with
  | node n attrs => rfl
  | literal payload =>
    simp [attrs, erased, Operand.erased, Operand.erasedAll_eq, Function.comp_def]

theorem get?_erased (r : Reference) (index : Nat) :
    r.erased.get? index = (r.get? index).map erased := by
  match r with
  | node _ .bare => rfl
  | node _ (.one _) =>
    unfold get? erased
    dsimp only
    split <;> rfl
  | node _ (.many _) => simp [get?, erased, Function.comp_def]
  | literal (.list items) =>
    simp [get?, erased, Operand.erased, Operand.erasedAll_eq, Function.comp_def]
  | literal (.number _) | literal (.value _) | literal (.path _) | literal (.node _ _)
  | literal (.literal _) =>
    simp only [get?, erased, Operand.erased]
    split <;> rfl

end Reference

namespace Program

theorem agree_joined (op : Operator) {a b c d : Value} (left : AlikeValues a c)
    (right : AlikeValues b d) : Agree Item.Alike (Value.joined op a b) (Value.joined op c d) := by
  unfold Value.joined Value.combine
  rw [((alikeValues_iff a c).mp left).1, ((alikeValues_iff b d).mp right).1]
  cases Value.combinePayloads op c.payload d.payload with
  | ok payload => exact .ok (.value rfl rfl)
  | error mismatch => exact .error rfl

theorem alike_element {r t : Reference} (alike : AlikeReferences r t) (index : Nat) :
    (r.element index).Alike (t.element index) := by
  have elements : Option.Rel AlikeReferences (r.get? index) (t.get? index) := by
    refine rel_of_map_eq ?_
    rw [← r.get?_erased, ← t.get?_erased, alike]
  unfold Reference.element
  cases first : r.get? index <;> cases second : t.get? index <;> rw [first, second] at elements <;>
    cases elements
  · exact .done
  · exact .ofReference (by assumption)

theorem alike_arm (fault : Option Fault) : Parallel Session.Alike Eq (arm fault) (arm fault) := by
  refine .modify ?_
  intro s t ⟨host, scopes, collected⟩
  refine ⟨?_, scopes, collected⟩
  dsimp only
  rw [host]

theorem alike_write (change : Scene.Change) :
    Parallel Session.Alike Eq (write change) (write change) := by
  refine .modify ?_
  intro s t ⟨host, scopes, collected⟩
  refine ⟨?_, scopes, collected⟩
  dsimp only
  rw [host]

/-- What follows a program that gives the same on both sides. -/
theorem alike_then {α : Type} {program other : Program α} {wrap : α → Item}
    (parallel : Parallel Session.Alike Eq program other)
    (each : ∀ a, Item.Alike (wrap a) (wrap a)) :
    Parallel Session.Alike Item.Alike (do return wrap (← program)) (do return wrap (← other)) :=
  .bind_eq parallel fun a => .pure (each a)

end Program

/-! ### Tracers taken out -/

/-- From kept items alike, an instruction stands for no step on both sides, or for steps that go
parallel. -/
theorem Instruction.alike_step? (o : Options) {items others : Table Item}
    (tables : AlikeTables items others) (instruction : Instruction) :
    Option.Rel (fun step other : Step =>
        Parallel Session.Alike Item.Alike (step.program o) (other.program o))
      (instruction.step? items) (instruction.step? others) := by
  have reflexive (r : Reference) : Item.Alike (.reference r) (.reference r) := .ofReference rfl
  have scopes (scope : String) : Option.Rel Eq ((items.find? scope).bind Item.scope?)
      ((others.find? scope).bind Item.scope?) :=
    rel_bind (tables scope) fun _ _ alike => alike.scope?
  cases instruction with
  | read base =>
    exact rel_map (base.alike_reference? tables) fun _ _ r =>
      .bind (alike_read r) fun _ _ v => .pure (.ofValue v)
  | setOrConnect target source =>
    refine rel_bind (target.alike_operand? tables) fun _ _ a => ?_
    exact rel_map (source.alike_operand? tables) fun _ _ b =>
      alike_then (alike_setOrConnect o a b) fun _ => .done
  | apply name operands =>
    exact rel_map (Argument.alike_operands? tables operands) fun _ _ alike =>
      alike_then (alike_apply o name alike) reflexive
  | condition test ifTrue ifFalse =>
    refine rel_bind (test.alike_reference? tables) fun _ _ r => ?_
    refine rel_bind (ifTrue.alike_operand? tables) fun _ _ a => ?_
    exact rel_map (ifFalse.alike_operand? tables) fun _ _ b =>
      alike_then (alike_condition o r a b) reflexive
  | addUserAttribute node name spec =>
    exact .some (alike_then (alike_addUserAttribute o node name spec) reflexive)
  | addAttributeTo base name spec =>
    exact rel_map (base.alike_reference? tables) fun _ _ r =>
      alike_then (alike_addAttributeTo o r name spec) reflexive
  | addSeparator base =>
    exact rel_map (base.alike_reference? tables) fun _ _ r =>
      alike_then (alike_addSeparator o r) reflexive
  | openContainer options => exact .some (alike_then (alike_openContainer options) .scope)
  | finishContainer scope =>
    refine rel_map (scopes scope) ?_
    rintro s _ rfl
    exact alike_then (alike_finishContainer s) .container
  | dropContainer scope =>
    refine rel_map (scopes scope) ?_
    rintro s _ rfl
    exact alike_then (alike_dropContainer s) fun _ => .done
  | abandonContainer => exact .some (alike_then alike_abandonContainer fun _ => .done)
  | arm fault => exact .some (alike_then (alike_arm fault) fun _ => .done)
  | write change => exact .some (alike_then (alike_write change) fun _ => .done)
  | _ => exact .none

theorem Instruction.agree_answer? {items others : Table Item} (tables : AlikeTables items others)
    (instruction : Instruction) :
    Option.Rel (Agree Item.Alike) (instruction.answer? items) (instruction.answer? others) := by
  cases instruction with
  | refer base => exact rel_map (base.alike_reference? tables) fun _ _ r => .ok (.ofReference r)
  | attr base name =>
    refine rel_map (base.alike_reference? tables) fun r t alike => .ok (.ofReference ?_)
    rw [AlikeReferences, r.attr_erased, t.attr_erased, alike]
  | attrs base names =>
    refine rel_map (base.alike_reference? tables) fun r t alike => .ok (.ofReference ?_)
    rw [AlikeReferences, r.attrs_erased, t.attrs_erased, alike]
  | element base index =>
    exact rel_map (base.alike_reference? tables) fun _ _ r => .ok (alike_element r index)
  | combine op left right =>
    refine rel_bind (left.alike_value? tables) fun _ _ a => ?_
    exact rel_map (right.alike_value? tables) fun _ _ b => agree_joined op a b
  | negate operand =>
    refine rel_map (operand.alike_value? tables) fun v w alike => .ok (.value ?_ rfl)
    exact congrArg Primitive.negate ((alikeValues_iff v w).mp alike).1
  | _ => exact .none

/-- From kept items alike, an instruction is left out on both sides or goes parallel. -/
theorem Instruction.alike_program? (o : Options) {items others : Table Item}
    (tables : AlikeTables items others) (instruction : Instruction) :
    Option.Rel (Parallel Session.Alike Item.Alike) (instruction.program? o items)
      (instruction.program? o others) := by
  have steps := instruction.alike_step? o tables
  have answers := instruction.agree_answer? tables
  unfold program?
  cases first : instruction.step? items <;> cases second : instruction.step? others <;>
    rw [first, second] at steps <;> cases steps
  · exact rel_map answers fun _ _ agree => alike_look fun _ => agree
  · exact .some (by assumption)

theorem reports_alike (o : Options) (turns : List Turn) {s t : Session} (sessions : s.Alike t)
    {items others : Table Item} (tables : AlikeTables items others) :
    List.Forall₂ Report.Alike (reports o s items turns)
      (reports o t others (turns.filter Turn.isStep)) := by
  -- A tracer is a turn of the first script only, and leaves its session alike to the second's.
  induction turns generalizing s t items others with
  | nil => exact .nil
  | cons turn rest inductionHypothesis =>
    cases turn with
    | openTracer options =>
      rw [reports, Happening.perform_openTracer]
      exact inductionHypothesis (sessions.openTracer options) tables
    | closeTracer options =>
      rw [reports, Happening.perform_closeTracer]
      exact inductionHypothesis (sessions.closeTracer options) tables
    | step instruction name =>
      have programs := instruction.alike_program? o tables
      rw [List.filter_cons_of_pos rfl, reports, reports]
      cases first : instruction.program? o items <;>
        cases second : instruction.program? o others <;>
        rw [first, second] at programs <;> cases programs
      · exact .cons ⟨sessions.scene, .none⟩ (inductionHypothesis sessions tables)
      · rename_i parallel
        obtain ⟨agree, after⟩ := parallel s t sessions
        exact .cons ⟨after.scene, .some agree⟩
          (inductionHypothesis after (alikeTables_keep tables name agree))

/-- Whatever tracers are opened and closed between the steps of a script, its steps report the same
as without them: the same scene after each step, success or an error of the same kind, the same
references, and the same payloads of values. -/
theorem reports_without_tracers (o : Options) (s : Session) (turns : List Turn) :
    List.Forall₂ Report.Alike (reports o s .empty turns)
      (reports o s .empty (turns.filter Turn.isStep)) :=
  reports_alike o turns ⟨rfl, rfl, rfl⟩ fun _ => .none

end FormulaNet
