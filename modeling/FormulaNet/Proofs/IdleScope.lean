/-
This file inserts a scope without a container into a run. While it is open the
recorder counts one scope more, which nothing but the collecting of nodes
depends on; where other scopes are held, what is collected is the same from the
next creation on. But the opening starts collecting afresh, and closing does not
bring back what was collected before. So the scope does one thing: it forgets
the nodes that were collected for the scopes around it. Outside all scopes there
is nothing to forget.
-/

import FormulaNet.Proofs.Population
import FormulaNet.Proofs.Uniform

namespace FormulaNet

/-! ### One scope more -/

namespace Session

/-- The session with one scope more, and with other nodes collected. -/
def nested (s : Session) (collected : List String) : Session :=
  { s with recorder := { s.recorder with scopes := s.recorder.scopes + 1, collected } }

/-- The second session has one scope more. Where the first has any, both have collected the same. -/
def Nested (s t : Session) : Prop :=
  ∃ collected, t = s.nested collected ∧ (0 < s.recorder.scopes → collected = s.recorder.collected)

theorem Nested.scene {s t : Session} (nested : Nested s t) : s.scene = t.scene := by
  obtain ⟨_, rfl, _⟩ := nested
  rfl

end Session

namespace Program

open Session

theorem nested_call {α : Type} (c : Call) (report : α → Outcome)
    (change : Scene → Except SceneError (α × Scene)) : Uniform Nested (call c report change) := by
  rintro s _ ⟨collected, rfl, same⟩
  rw [Abreast, exec_call, exec_call]
  exact ⟨.refl (fun _ => rfl) _, collected, rfl, same⟩

theorem nested_editHost (edit : Host → Host) :
    Uniform Nested (modify fun s => { s with host := edit s.host }) := by
  refine .modify ?_
  rintro s _ ⟨collected, rfl, same⟩
  exact ⟨collected, rfl, same⟩

/-- Edits of the recorder that do not look at scopes. -/
theorem nested_editRecorder {edit : Recorder → Recorder}
    (keeps : ∀ r, (edit r).scopes = r.scopes ∧ (edit r).collected = r.collected)
    (blind : ∀ (r : Recorder) scopes collected, edit { r with scopes, collected } =
      { edit r with scopes, collected }) : Uniform Nested (editRecorder edit) := by
  refine .modify ?_
  rintro s _ ⟨collected, rfl, same⟩
  refine ⟨collected, ?_, ?_⟩
  · rw [nested, nested, blind, (keeps s.recorder).1]
  · show 0 < (edit s.recorder).scopes → collected = (edit s.recorder).collected
    rw [(keeps s.recorder).1, (keeps s.recorder).2]
    exact same

theorem nested_record (event : Trace.Event) : Uniform Nested (record event) := by
  refine nested_editRecorder (fun r => ⟨r.scopes_record event, r.collected_record event⟩) ?_
  intro r scopes collected
  unfold Recorder.record
  dsimp only
  split <;> rfl

/-- A node is collected in both sessions, or in the second only, where that does not count. -/
theorem nested_collect (node : String) : Uniform Nested (editRecorder (·.collect node)) := by
  refine .modify ?_
  rintro s _ ⟨collected, rfl, same⟩
  show Nested { s with recorder := s.recorder.collect node } _
  by_cases isOpen : 0 < s.recorder.scopes
  · rw [show s.recorder.collect node =
      { s.recorder with collected := s.recorder.collected ++ [node] } from if_pos isOpen]
    refine ⟨collected ++ [node], rfl, fun _ => ?_⟩
    rw [same isOpen]
  · rw [show s.recorder.collect node = s.recorder from if_neg isOpen]
    exact ⟨collected ++ [node], rfl, fun openAfter => absurd openAfter isOpen⟩

theorem nested_create (type name : String) : Uniform Nested (create type name) := by
  refine .bind .get ?_
  rintro s _ ⟨collected, rfl, _⟩
  exact .bind_eq (nested_call _ _ _) fun node => .bind_eq (nested_collect node) fun _ =>
    .bind_eq (nested_record _) fun _ => .pure rfl

theorem nested_readPlug (plug : String) : Uniform Nested (readPlug plug) := by
  refine .bind_eq (.scene fun s t => Nested.scene) fun scene => ?_
  split
  · refine .bind_eq (nested_call _ _ _) fun payload => .bind .get ?_
    rintro s _ ⟨collected, rfl, _⟩
    exact .bind_eq (nested_record _) fun _ => .pure rfl
  · exact .throw rfl

theorem nested_warn (warning : Warning) : Uniform Nested (warn warning) := by
  refine .modify ?_
  rintro s _ ⟨collected, rfl, same⟩
  exact ⟨collected, rfl, same⟩

theorem steady_nested (force : Bool) : Steady force Nested where
  scenes _ _ := Nested.scene
  create := nested_create
  setPlug _ _ _ := .bind_eq (nested_call _ _ _) fun _ => nested_record _
  connect _ _ := .bind_eq (nested_call _ _ _) fun _ => nested_record _
  addAttribute _ _ _ := .bind_eq (nested_call _ _ _) fun _ => nested_record _
  readPlug := nested_readPlug
  warn := nested_warn

theorem nested_arm (fault : Option Fault) : Uniform Nested (arm fault) :=
  nested_editHost fun host => { host with fault }

theorem nested_write (change : Scene.Change) : Uniform Nested (write change) :=
  nested_editHost fun host => { host with scene := host.scene.after change }

theorem nested_openTracer (options : TracerOptions) : Uniform Nested (openTracer options) :=
  nested_editRecorder (fun _ => ⟨rfl, rfl⟩) fun _ _ _ => rfl

theorem nested_closeTracer (options : TracerOptions) : Uniform Nested (closeTracer options) := by
  refine .bind_eq (nested_editRecorder (fun _ => ⟨rfl, rfl⟩) fun _ _ _ => rfl) fun _ => ?_
  split
  · split
    · refine .bind_eq (.bind .get ?_) fun commands => .modify ?_
      · rintro s _ ⟨collected, rfl, _⟩
        exact .pure rfl
      · rintro s _ ⟨collected, rfl, same⟩
        exact ⟨collected, rfl, same⟩
    · exact nested_warn _
  · exact .pure rfl

theorem nested_openContainer (options : ContainerOptions) :
    Uniform Nested (openContainer options) := by
  refine .bind_eq (.modify ?_) fun _ => ?_
  · rintro s _ ⟨collected, rfl, _⟩
    exact ⟨[], rfl, fun _ => rfl⟩
  · split
    · exact .bind_eq (nested_call _ _ _) fun _ => .pure rfl
    · exact .pure rfl

/-! ### Filling containers -/

/-- The second session has one scope more, the first has some, and both have collected the same. -/
def NestedOpen (s t : Session) : Prop :=
  0 < s.recorder.scopes ∧ t = s.nested s.recorder.collected

theorem nestedOpen_call {α : Type} (c : Call) (report : α → Outcome)
    (change : Scene → Except SceneError (α × Scene)) :
    Uniform NestedOpen (call c report change) := by
  rintro s _ ⟨isOpen, rfl⟩
  rw [Abreast, exec_call, exec_call]
  exact ⟨.refl (fun _ => rfl) _, isOpen, rfl⟩

theorem nestedOpen_exposeAll (container : String) (publications : List (String × String)) :
    Uniform NestedOpen (exposeAll container publications) := by
  induction publications with
  | nil => exact .pure rfl
  | cons _ _ inductionHypothesis =>
    exact .bind_eq (nestedOpen_call _ _ _) fun _ => inductionHypothesis

theorem nestedOpen_populate (scope : ContainerScope) : Uniform NestedOpen (populate scope) := by
  rw [populate]
  split
  · exact .pure rfl
  · refine .bind .get ?_
    rintro s _ ⟨_, rfl⟩
    refine .bind_eq (nestedOpen_call _ _ _) fun _ => .bind_eq (.scene ?_) fun scene =>
      .bind_eq (nestedOpen_exposeAll _ _) fun _ => ?_
    · rintro s _ ⟨_, rfl⟩
      rfl
    · split
      · exact nestedOpen_call _ _ _
      · exact .pure rfl

end Program

theorem Closing.nestedOpen_filling (closing : Closing) (scope : ContainerScope) :
    Program.Uniform Program.NestedOpen (closing.filling scope) := by
  have filled := Program.nestedOpen_populate scope
  have warned (warning : Warning) : Program.Uniform Program.NestedOpen (Program.warn warning) := by
    refine .modify ?_
    rintro s _ ⟨isOpen, rfl⟩
    exact ⟨isOpen, rfl⟩
  cases closing with
  | finish => exact .bind_eq filled fun _ => .pure rfl
  | drop =>
    refine .bind filled.outcome fun outcome other both => ?_
    cases both.eq
    split
    · exact .pure rfl
    · exact .bind_eq (warned _) fun _ => .pure rfl
  | abandon => exact .bind_eq (warned _) fun _ => .pure rfl

theorem Session.nested_ended {s : Session} (isOpen : 0 < s.recorder.scopes) :
    s.ended.Nested (s.nested s.recorder.collected).ended := by
  have scopes : s.recorder.scopes + 1 - 1 = s.recorder.scopes - 1 + 1 := by omega
  have collected : (s.nested s.recorder.collected).recorder.endContainer.collected =
      s.recorder.collected := if_neg (Nat.ne_of_gt isOpen)
  refine ⟨s.recorder.collected, ?_, fun openAfter => ?_⟩
  · unfold ended nested Recorder.endContainer at *
    dsimp only at *
    rw [collected, scopes]
  · exact (if_neg (Nat.ne_of_gt openAfter)).symm

/-- Taking the one scope off the count again gives the first session back. -/
theorem Session.Nested.ended {s t : Session} (nested : s.Nested t)
    (none : s.recorder.scopes = 0 → s.recorder.collected = []) : t.ended = s := by
  obtain ⟨collected, rfl, same⟩ := nested
  have kept : (s.nested collected).recorder.endContainer.collected = s.recorder.collected := by
    show (if s.recorder.scopes + 1 - 1 = 0 then [] else collected) = s.recorder.collected
    rw [Nat.add_sub_cancel]
    by_cases idle : s.recorder.scopes = 0
    · rw [if_pos idle, none idle]
    · rw [if_neg idle, same (Nat.pos_of_ne_zero idle)]
  unfold Session.ended Session.nested Recorder.endContainer at *
  dsimp only at *
  rw [kept]
  rfl

/-- A scope without a container has nothing to fill. -/
theorem Closing.filling_idle {scope : ContainerScope} (idle : scope.container = none)
    {closing : Closing} (asked : closing ≠ .abandon) (s : Session) :
    ∃ item, Program.exec (closing.filling scope) s = (.ok item, s) := by
  have filled : Program.exec (Program.populate scope) s = (.ok (), s) := by
    rw [Program.populate, idle]
    rfl
  cases closing with
  | finish =>
    refine ⟨.container scope.container, ?_⟩
    rw [filling, Program.exec_wrap, filled]
    rfl
  | drop =>
    refine ⟨.done, ?_⟩
    rw [filling, Program.exec_bind, Program.exec_outcome, filled]
    rfl
  | abandon => exact absurd rfl asked

/-- Where scopes are open, one of them is closed in the same way under one scope more. -/
theorem Closing.nested (o : Options) (closing : Closing) (scope : ContainerScope) {s t : Session}
    (isOpen : 0 < s.recorder.scopes) (nested : s.Nested t) :
    (Program.exec ((closing.step scope).program o) s).1 =
        (Program.exec ((closing.step scope).program o) t).1 ∧
      (Program.exec ((closing.step scope).program o) s).2.Nested
        (Program.exec ((closing.step scope).program o) t).2 := by
  obtain ⟨_, rfl, same⟩ := nested
  rw [same isOpen, exec_step, exec_step]
  obtain ⟨outcomes, stillOpen, after⟩ := (closing.nestedOpen_filling scope).same
    (t := s.nested s.recorder.collected) ⟨isOpen, rfl⟩
  rw [after]
  exact ⟨outcomes, Session.nested_ended stillOpen⟩

/-! ### Reports -/

namespace Desk

/-- What came of a move, unless it was left out. -/
def outcome (o : Options) (d : Desk) (move : Move) : Option (Except Error Item) :=
  (move.program? o d.held).map fun program => (program.exec d.session).1

/-- The reports of several moves. -/
def reports (o : Options) (d : Desk) : List Move → List Report
  | [] => []
  | move :: rest =>
    ⟨d.outcome o move, (d.after o move).session.scene⟩ :: (d.after o move).reports o rest

theorem reports_append (o : Options) (d : Desk) (first second : List Move) :
    d.reports o (first ++ second) = d.reports o first ++ (d.run o first).reports o second := by
  induction first generalizing d with
  | nil => rfl
  | cons move rest inductionHypothesis =>
    rw [List.cons_append, reports, reports, inductionHypothesis]
    rfl

/-! ### The inserted scope -/

/-- The second desk holds one scope more. -/
structure Nested (hold : Hold) (d e : Desk) : Prop where
  session : d.session.Nested e.session
  held : ∃ newer older, (∀ other ∈ newer, other.name ≠ hold.name) ∧ d.held = newer ++ older ∧
    e.held = newer ++ hold :: older

namespace Nested

variable {hold : Hold} {d e : Desk} (nested : Nested hold d e)
include nested

/-- Other scopes are found as if the inserted one was not there. -/
theorem find?_other {name : String} (other : name ≠ hold.name) :
    e.held.find? (Hold.isNamed name) = d.held.find? (Hold.isNamed name) := by
  obtain ⟨newer, older, _, before, after⟩ := nested.held
  have unnamed : hold.isNamed name = false := beq_eq_false_iff_ne.mpr other.symm
  rw [before, after, List.find?_append, List.find?_append,
    List.find?_cons_of_neg (by simp [unnamed])]

/-- Other scopes are given back as if the inserted one was not there. -/
theorem eraseP_other {name : String} (other : name ≠ hold.name) :
    ∃ newer older, (∀ other ∈ newer, other.name ≠ hold.name) ∧
      d.held.eraseP (Hold.isNamed name) = newer ++ older ∧
      e.held.eraseP (Hold.isNamed name) = newer ++ hold :: older := by
  obtain ⟨newer, older, apart, before, after⟩ := nested.held
  have unnamed : hold.isNamed name = false := beq_eq_false_iff_ne.mpr other.symm
  rw [before, after, List.eraseP_append, List.eraseP_append]
  split
  · exact ⟨newer.eraseP (Hold.isNamed name), older,
      fun h member => apart h (List.mem_of_mem_eraseP member), rfl, rfl⟩
  · exact ⟨newer, older.eraseP (Hold.isNamed name), apart, rfl,
      by rw [List.eraseP_cons_of_neg (by simp [unnamed])]⟩

/-- The scopes that are held after the same outcome of a move about another scope. -/
theorem holds_other {move : Move} (other : move.scope? ≠ some hold.name)
    (outcome : Except Error Item) :
    ∃ newer older, (∀ other ∈ newer, other.name ≠ hold.name) ∧
      move.holds d.held outcome = newer ++ older ∧
      move.holds e.held outcome = newer ++ hold :: older := by
  cases move with
  | openScope name options =>
    obtain ⟨newer, older, apart, before, after⟩ := nested.held
    rw [before, after]
    unfold Move.holds
    dsimp only
    split
    · rename_i scope
      refine ⟨⟨name, scope⟩ :: newer, older, List.forall_mem_cons.mpr ⟨?_, apart⟩, rfl, rfl⟩
      exact fun equal => other (congrArg some equal)
    · exact ⟨newer, older, apart, rfl, rfl⟩
  | closeScope name closing =>
    exact nested.eraseP_other fun equal => other (congrArg some equal)
  | _ => exact nested.held

theorem program?_other (o : Options) {move : Move} (other : move.scope? ≠ some hold.name) :
    move.program? o e.held = move.program? o d.held := by
  cases move with
  | closeScope name closing =>
    rw [Move.program?, Move.program?, Move.happening?, Move.happening?,
      nested.find?_other fun equal => other (congrArg some equal)]
  | _ => rfl

/-- What is run for a move comes to the same on both desks. Where a scope is closed, one is held, so
that one is counted. -/
theorem exec_other {refused : Nat} (counts : d.Counts refused) {o : Options} {move : Move}
    {program : Program Item} (known : move.program? o d.held = some program) :
    (program.exec d.session).1 = (program.exec e.session).1 ∧
      (program.exec d.session).2.Nested (program.exec e.session).2 := by
  have uniform {first : Program Unit} (nestedFirst : Program.Uniform Session.Nested first) :
      Program.Uniform Session.Nested (do first; pure Item.done) :=
    .bind_eq nestedFirst fun _ => .pure rfl
  cases move with
  | act action =>
    cases known
    exact ((Program.steady_nested o.force).action action).same nested.session
  | arm fault =>
    cases known
    exact (uniform (Program.nested_arm fault)).same nested.session
  | write change =>
    cases known
    exact (uniform (Program.nested_write change)).same nested.session
  | openTracer options =>
    cases known
    exact (uniform (Program.nested_openTracer options)).same nested.session
  | closeTracer options =>
    cases known
    exact (uniform (Program.nested_closeTracer options)).same nested.session
  | openScope name options =>
    cases known
    exact Program.Uniform.same
      (.bind_eq (Program.nested_openContainer options) fun _ => .pure rfl) nested.session
  | closeScope name closing =>
    rw [Move.program?, Move.happening?, Option.map_map] at known
    obtain ⟨held, found, rfl⟩ := Option.map_eq_some_iff.mp known
    have holding := List.length_pos_of_mem (List.mem_of_find?_eq_some found)
    have scopes := counts.scopes
    exact closing.nested o held.scope (by omega) nested.session

/-- A move that is about another scope does the same on both desks. -/
theorem after {refused : Nat} (counts : d.Counts refused) (o : Options) {move : Move}
    (other : move.scope? ≠ some hold.name) :
    d.outcome o move = e.outcome o move ∧ Nested hold (d.after o move) (e.after o move) := by
  have same := nested.program?_other o other
  cases known : move.program? o d.held with
  | none =>
    rw [outcome, outcome, Desk.after, Desk.after, same, known]
    exact ⟨rfl, nested⟩
  | some program =>
    obtain ⟨outcomes, session⟩ := nested.exec_other counts known
    rw [known] at same
    rw [after_of_some known, after_of_some same, outcome, outcome, known, same, ← outcomes]
    exact ⟨congrArg some outcomes, session, nested.holds_other other _⟩

theorem run {refused : Nat} (counts : d.Counts refused) (o : Options) {moves : List Move}
    (others : ∀ move ∈ moves, move.scope? ≠ some hold.name) :
    d.reports o moves = e.reports o moves ∧ Nested hold (d.run o moves) (e.run o moves) := by
  induction moves generalizing d e refused with
  | nil => exact ⟨rfl, nested⟩
  | cons move rest inductionHypothesis =>
    obtain ⟨first, later⟩ := List.forall_mem_cons.mp others
    obtain ⟨outcomes, after⟩ := nested.after counts o first
    obtain ⟨reported, final⟩ := inductionHypothesis after (counts.after o move) later
    rw [reports, reports, outcomes, after.session.scene, reported]
    exact ⟨rfl, final⟩

/-- Closing the inserted scope, which has no container, leaves the first desk. -/
theorem close {refused : Nat} (counts : d.Counts refused) (idle : hold.scope.container = none)
    (o : Options) {closing : Closing} (asked : closing ≠ .abandon) :
    (∃ item, e.outcome o (.closeScope hold.name closing) = some (.ok item)) ∧
      e.after o (.closeScope hold.name closing) = d := by
  obtain ⟨newer, older, apart, before, after⟩ := nested.held
  have named : hold.isNamed hold.name = true := beq_self_eq_true _
  have unnamed : ∀ other ∈ newer, ¬ other.isNamed hold.name = true :=
    fun other member equal => apart other member (beq_iff_eq.mp equal)
  have found : e.held.find? (Hold.isNamed hold.name) = some hold := by
    rw [after, List.find?_append, List.find?_eq_none.mpr unnamed, List.find?_cons_of_pos named]
    rfl
  have known := Move.program?_closeScope found o closing
  have given : e.held.eraseP (Hold.isNamed hold.name) = d.held := by
    rw [after, before, List.eraseP_append_right _ unnamed, List.eraseP_cons_of_pos named]
  obtain ⟨item, filled⟩ := closing.filling_idle idle asked e.session
  rw [outcome, after_of_some known, known, Option.map_some, closing.exec_step, filled]
  refine ⟨⟨item, rfl⟩, ?_⟩
  show Desk.mk e.session.ended (e.held.eraseP (Hold.isNamed hold.name)) = d
  rw [given, nested.session.ended counts.collected]

end Nested

/-- The desk with nothing collected. -/
def forget (d : Desk) : Desk :=
  { d with session := { d.session with recorder := { d.session.recorder with collected := [] } } }

/-- Opening a scope without a container is the same as forgetting what was collected, with one scope
more. -/
theorem nested_forget (o : Options) (d : Desk) (name : String) {options : ContainerOptions}
    (idle : options.create = false) :
    d.outcome o (.openScope name options) = some (.ok (.scope ⟨options, none⟩)) ∧
      (d.after o (.openScope name options)).session.scene = d.session.scene ∧
      Nested ⟨name, options, none⟩ d.forget (d.after o (.openScope name options)) := by
  have known : Move.program? o d.held (.openScope name options) =
      some (return .scope (← Program.openContainer options)) := rfl
  rw [outcome, after_of_some known, known, Option.map_some, Program.exec_wrap,
    Program.exec_openContainer_idle idle]
  exact ⟨rfl, rfl, ⟨[], rfl, fun _ => rfl⟩, [], d.held, by simp, rfl, rfl⟩

theorem insert_idle {d : Desk} {refused : Nat} (counts : d.Counts refused) (o : Options)
    {middle : List Move} (later : List Move) {name : String} {options : ContainerOptions}
    (idle : options.create = false) {closing : Closing} (asked : closing ≠ .abandon)
    (apart : ∀ move ∈ middle, move.scope? ≠ some name) :
    (∃ item,
      d.reports o (.openScope name options :: (middle ++ .closeScope name closing :: later)) =
      ⟨some (.ok (.scope ⟨options, none⟩)), d.session.scene⟩ ::
        (d.forget.reports o middle ++
          ⟨some (.ok item), (d.forget.run o middle).session.scene⟩ ::
          (d.forget.run o middle).reports o later)) ∧
    d.run o (.openScope name options :: (middle ++ .closeScope name closing :: later)) =
      d.forget.run o (middle ++ later) := by
  have forgotten : d.forget.Counts refused := ⟨counts.scopes, fun _ => rfl⟩
  obtain ⟨opened, unchanged, nested⟩ := d.nested_forget o name idle
  obtain ⟨reported, final⟩ := nested.run forgotten o apart
  obtain ⟨⟨item, closed⟩, back⟩ := final.close (forgotten.run o middle) rfl o asked
  constructor
  · refine ⟨item, ?_⟩
    rw [reports, opened, unchanged, reports_append, ← reported, reports, closed, back]
  · rw [run_append o d.forget, ← back]
    exact run_append o (d.after o (.openScope name options)) middle
      (.closeScope name closing :: later)

/-- A scope without a container that is opened and closed again, by finishing or by dropping it,
does nothing but forget what was collected when it was opened: both succeed and leave the scene as
it is, the moves in between and afterwards report what they would without it from there on, and the
session ends in the same state. Where no scope was held and none was refused there is nothing to
forget. -/
theorem idle_scope_forgets (o : Options) (host : Host) (before middle later : List Move) (d : Desk)
    (reached : d = (start host).run o before) (name : String) (options : ContainerOptions)
    (idle : options.create = false) (closing : Closing) (asked : closing ≠ .abandon)
    (apart : ∀ move ∈ middle, move.scope? ≠ some name) :
    (∃ item, (start host).reports o
        (before ++ .openScope name options :: (middle ++ .closeScope name closing :: later)) =
      (start host).reports o before ++
        ⟨some (.ok (.scope ⟨options, none⟩)), d.session.scene⟩ ::
        (d.forget.reports o middle ++
          ⟨some (.ok item), (d.forget.run o middle).session.scene⟩ ::
          (d.forget.run o middle).reports o later)) ∧
    (start host).run o
        (before ++ .openScope name options :: (middle ++ .closeScope name closing :: later)) =
      d.forget.run o (middle ++ later) ∧
    (d.held = [] → (start host).refusals o before = 0 → d.forget = d) := by
  have counts := (counts_start host).run o before
  rw [Nat.zero_add, ← reached] at counts
  obtain ⟨⟨item, reported⟩, final⟩ := insert_idle counts o later idle asked apart
  refine ⟨⟨item, ?_⟩, ?_, ?_⟩
  · rw [reports_append, ← reached, reported]
  · rw [run_append, ← reached, final]
  · intro none neverRefused
    have empty : d.session.recorder.collected = [] := by
      refine counts.collected ?_
      rw [counts.scopes, none, neverRefused]
      rfl
    rw [forget, ← empty]

/-- A scope without a container between two nodes that are created in another scope. -/
theorem idle_scope_forgets_reverse :
    ∃ (host : Host) (before middle later : List Move) (d : Desk) (options : ContainerOptions),
      middle = [.act (.apply "reverse" [.path "pCube1.r"])] ∧
      d = (start host).run .default before ∧ options.create = false ∧
      Closing.drop ≠ .abandon ∧ (∀ move ∈ middle, move.scope? ≠ some "inner") ∧
      d.session.recorder.collected = ["nc_REVERSE_t_reverse"] ∧
      (∃ item, (start host).reports .default
          (before ++ .openScope "inner" options :: (middle ++ .closeScope "inner" .drop :: later)) =
        (start host).reports .default before ++
          ⟨some (.ok (.scope ⟨options, none⟩)), d.session.scene⟩ ::
          (d.forget.reports .default middle ++
            ⟨some (.ok item), (d.forget.run .default middle).session.scene⟩ ::
            (d.forget.run .default middle).reports .default later)) ∧
      (start host).run .default
          (before ++ .openScope "inner" options :: (middle ++ .closeScope "inner" .drop :: later)) =
        d.forget.run .default (middle ++ later) ∧
      (d.held = [] → (start host).refusals .default before = 0 → d.forget = d) := by
  let host := Host.ofScene (Scene.empty.run [.addTransform "pCube1"]) ""
  let before : List Move :=
    [.openScope "outer" ⟨"box", "", true⟩, .act (.apply "reverse" [.path "pCube1.t"])]
  let middle : List Move := [.act (.apply "reverse" [.path "pCube1.r"])]
  let later : List Move := [.closeScope "outer" .finish]
  let options : ContainerOptions := ⟨"", "", false⟩
  have collected : ((start host).run .default before).session.recorder.collected =
      ["nc_REVERSE_t_reverse"] := by decide +kernel
  obtain ⟨d, reached⟩ : ∃ d, d = (start host).run .default before := ⟨_, rfl⟩
  rw [← reached] at collected
  have asked : Closing.drop ≠ .abandon := by decide
  have apart : ∀ move ∈ middle, move.scope? ≠ some "inner" := by
    intro move member
    rw [List.mem_singleton.mp member]
    decide
  exact ⟨host, before, middle, later, d, options, rfl, reached, rfl, asked, apart, collected,
    idle_scope_forgets .default host before middle later d reached "inner" options rfl .drop asked
      apart⟩

/-- With the same scope in between, the container of the outer scope stays empty, where it would
hold the created node and publish its input. -/
theorem idle_scope_empties_container :
    ∃ (start : Desk) (before later : List Move),
      ((start.run .default (before ++ later)).session.scene.containers.find? "box" =
        some ⟨["nc_REVERSE_t_reverse"],
          [("nc_REVERSE_t_reverse.input", "ncREVERSEtreverse_I_input")], none⟩) ∧
      (start.run .default (before ++ [.openScope "inner" ⟨"", "", false⟩,
          .closeScope "inner" .finish] ++ later)).session.scene.containers.find? "box" =
        some ⟨[], [], none⟩ :=
  ⟨.start (Host.ofScene (Scene.empty.run [.addTransform "pCube1"]) ""),
    [.openScope "outer" ⟨"box", "", true⟩, .act (.apply "reverse" [.path "pCube1.t"])],
    [.closeScope "outer" .finish], by decide +kernel, by decide +kernel⟩

end Desk

end FormulaNet
