/-
This file runs one program in two sessions. It runs uniformly if from related
sessions it comes to the same result or the same error and to related sessions
again. Programs see a session through its scene and change it by calls, so a
relation between sessions of the same scene under which the calls of actions
run uniformly is one under which every action does.
-/

import FormulaNet.Proofs.Holding

namespace FormulaNet

namespace Program

/-- From related sessions, a program comes to one outcome and to related sessions. -/
abbrev Uniform {α : Type} (R : Session → Session → Prop) (program : Program α) : Prop :=
  InStep Eq R Eq program program

theorem Uniform.same {α : Type} {R : Session → Session → Prop} {program : Program α}
    (uniform : Uniform R program) {s t : Session} (sessions : R s t) :
    (exec program s).1 = (exec program t).1 ∧ R (exec program s).2 (exec program t).2 := by
  obtain ⟨outcomes, after⟩ := uniform s t sessions
  exact ⟨outcomes.eq, after⟩

/-! ### Actions -/

/-- A relation between sessions of the same scene under which the calls of actions run
uniformly. -/
structure Steady (force : Bool) (R : Session → Session → Prop) : Prop where
  scenes : ∀ s t, R s t → s.scene = t.scene
  create : ∀ type name, Uniform R (create type name)
  setPlug : ∀ plug value text, Uniform R (setPlug plug value text)
  connect : ∀ source dest, Uniform R (connect source dest force)
  addAttribute : ∀ node name spec, Uniform R (addAttribute node name spec)
  readPlug : ∀ plug, Uniform R (readPlug plug)
  warn : ∀ warning, Uniform R (warn warning)

namespace Steady

variable {o : Options} {R : Session → Session → Prop} (steady : Steady o.force R)
include steady

theorem look {α : Type} (answer : Scene → Except Error α) : Uniform R (Program.look answer) := by
  refine .look fun s t sessions => ?_
  rw [steady.scenes s t sessions]
  exact .refl (fun _ => rfl) _

theorem wireLink (link : Link) : Uniform R (Program.wireLink o.force link) := by
  refine .bind_eq (.scene steady.scenes) fun scene => ?_
  split
  · exact .throw rfl
  · split
    · exact steady.setPlug _ _ _
    · exact .throw rfl
  · split
    · split
      · exact steady.connect _ _
      · exact .throw rfl
    · exact .throw rfl

theorem wire (targets sources : List Channel) : Uniform R (Program.wire o targets sources) := by
  refine .wire (C := Eq) (fun _ => rfl) steady.scenes (fun _ => rfl) ?_ ?_
    (List.forall₂_refl targets) (List.forall₂_refl sources)
  · rintro s t _ channel _ rfl
    rfl
  · rintro ⟨target, source⟩ ⟨_, _⟩ ⟨rfl, rfl⟩
    exact steady.wireLink _

theorem setOrConnect (target source : Operand) :
    Uniform R (Program.setOrConnect o target source) :=
  .bind_eq (steady.look _) fun targets => .bind_eq (steady.look _) fun sources =>
    steady.wire targets sources

theorem feedAll (op : Operation) (node : String) (width : Nat) (all : List Feed) :
    Uniform R (Program.feedAll o op node width all) := by
  induction all with
  | nil => exact .pure rfl
  | cons f rest inductionHypothesis =>
    refine .bind_eq ?_ fun _ => inductionHypothesis
    rw [feed]
    split
    · exact .throw rfl
    · exact steady.wire _ _

theorem build (op : Operation) (operands : List Operand) (channels : List (List Channel)) :
    Uniform R (Program.build o op operands channels) := by
  refine .bind_eq (steady.create _ _) fun node => ?_
  refine .bind_eq ?_ fun _ => .bind_eq (steady.feedAll op node _ _) fun _ => .pure rfl
  cases op.mode with
  | none => exact .pure rfl
  | some mode => exact steady.wire _ _

theorem apply (name : String) (operands : List Operand) :
    Uniform R (Program.apply o name operands) := by
  rw [Program.apply]
  split
  · exact .throw rfl
  · split
    · exact .bind_eq (steady.look _) fun channels => steady.build _ operands channels
    · exact .throw rfl

theorem condition (test : Reference) (ifTrue ifFalse : Operand) :
    Uniform R (Program.condition o test ifTrue ifFalse) := by
  refine .bind_eq (steady.look _) fun pair => ?_
  refine .bind_eq (steady.look _) fun trueChannels => ?_
  refine .bind_eq (steady.look _) fun falseChannels => ?_
  rw [bindBranches]
  split
  · exact .throw rfl
  · refine .bind_eq (steady.setOrConnect _ _) fun _ => ?_
    exact .bind_eq (steady.setOrConnect _ _) fun _ => .pure rfl

theorem addUserAttribute (node name : String) (spec : AttributeSpec) :
    Uniform R (Program.addUserAttribute o node name spec) := by
  refine .bind_eq (.scene steady.scenes) fun scene => ?_
  split
  · exact .bind_eq (steady.warn _) fun _ => .pure rfl
  · refine .bind_eq (steady.addAttribute _ _ _) fun _ => ?_
    dsimp only
    split
    · exact .pure rfl
    · exact .bind_eq (steady.setOrConnect _ _) fun _ => .pure rfl

omit steady in
theorem owner (r : Reference) : Uniform R (Program.owner r) := by
  rw [Program.owner]
  split
  · exact .pure rfl
  · exact .throw rfl

theorem readPlugs (plugs : List String) : Uniform R (Program.readPlugs plugs) := by
  induction plugs with
  | nil => exact .pure rfl
  | cons plug rest inductionHypothesis =>
    exact .bind_eq (steady.readPlug plug) fun _ => .bind_eq inductionHypothesis fun _ => .pure rfl

theorem readChannels (channels : List Channel) : Uniform R (Program.readChannels channels) := by
  induction channels with
  | nil => exact .pure rfl
  | cons channel rest inductionHypothesis =>
    refine .bind_eq ?_ fun _ => .bind_eq inductionHypothesis fun _ => .pure rfl
    unfold readChannel
    split
    · exact .pure rfl
    · exact .pure rfl
    · exact steady.readPlug _

theorem read (r : Reference) : Uniform R (Program.read r) := by
  unfold Program.read
  split
  · exact .pure rfl
  · exact .pure rfl
  · exact .bind_eq (steady.look _) fun channels =>
      .bind_eq (steady.readChannels channels) fun _ => .pure rfl
  · split
    · exact .throw rfl
    · exact .bind_eq (steady.readPlugs _) fun _ => .pure rfl

/-- Every action runs uniformly. -/
theorem action (action : Action) : Uniform R (action.program o) := by
  cases action with
  | apply name operands => exact .bind_eq (steady.apply name operands) fun _ => .pure rfl
  | condition test ifTrue ifFalse =>
    exact .bind_eq (steady.condition test ifTrue ifFalse) fun _ => .pure rfl
  | setOrConnect target source =>
    exact .bind_eq (steady.setOrConnect target source) fun _ => .pure rfl
  | addUserAttribute node name spec =>
    exact .bind_eq (steady.addUserAttribute node name spec) fun _ => .pure rfl
  | addAttributeTo r name spec =>
    exact .bind_eq (.bind_eq (owner r) fun node => steady.addUserAttribute node name spec) fun _ =>
      .pure rfl
  | addSeparator r =>
    refine .bind_eq (.bind_eq (owner r) fun node => ?_) fun _ => .pure rfl
    exact .bind_eq (.scene steady.scenes) fun scene => steady.addUserAttribute _ _ _
  | read r => exact .bind_eq (steady.read r) fun _ => .pure rfl

end Steady

end Program

end FormulaNet
