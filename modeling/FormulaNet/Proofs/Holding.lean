/-
This file counts container scopes. A user holds the scopes that were opened and
closes each of them once, in any order and in any way. The recorder counts a
scope before its container is made, so an opening that is refused stays counted
although nobody can close it, and what was collected until then is gone. The
count is the number of scopes that are held and of openings that were refused,
after whatever has happened; what is collected are the nodes created since the
last opening, refused or not.
-/

import FormulaNet.Proofs.Gathering
import FormulaNet.Proofs.Script

namespace FormulaNet

/-! ### Moves -/

/-- How a scope is closed. -/
inductive Closing where
  | finish
  | drop
  | abandon
  deriving DecidableEq

/-- The step that closes a scope. -/
def Closing.step (scope : ContainerScope) : Closing → Step
  | finish => .finishContainer scope
  | drop => .dropContainer scope
  | abandon => .abandonContainer

/-- A scope that is held, under the name its user gave it. -/
structure Hold where
  name : String
  scope : ContainerScope

def Hold.isNamed (name : String) (hold : Hold) : Bool := hold.name == name

/-- What happens: an action, a fault that is armed, a write past the session, a tracer, or a scope
that is opened or closed under a name. -/
inductive Move where
  | act (action : Action)
  | arm (fault : Option Fault)
  | write (change : Scene.Change)
  | openTracer (options : TracerOptions)
  | closeTracer (options : TracerOptions)
  | openScope (name : String) (options : ContainerOptions)
  | closeScope (name : String) (closing : Closing)

/-- A session with the scopes that are held, the newest first. -/
structure Desk where
  session : Session
  held : List Hold

namespace Move

/-- The scope that a move is about. -/
def scope? : Move → Option String
  | openScope name _ => some name
  | closeScope name _ => some name
  | _ => none

def opens : Move → Bool
  | openScope .. => true
  | _ => false

/-- What a move is to its session. A scope that is not held cannot be closed. -/
def happening? (held : List Hold) : Move → Option Happening
  | act action => some (.step (.act action))
  | arm fault => some (.step (.arm fault))
  | write change => some (.step (.write change))
  | openTracer options => some (.openTracer options)
  | closeTracer options => some (.closeTracer options)
  | openScope _ options => some (.step (.openContainer options))
  | closeScope name closing =>
    (held.find? (Hold.isNamed name)).map fun hold => .step (closing.step hold.scope)

theorem eq_write {held : List Hold} {move : Move} {change : Scene.Change}
    (isWrite : move.happening? held = some (.step (.write change))) : move = .write change := by
  cases move with
  | write other =>
    cases isWrite
    rfl
  | closeScope name closing =>
    obtain ⟨hold, _, closes⟩ := Option.map_eq_some_iff.mp isWrite
    cases closing <;> cases closes
  | _ => cases isWrite

/-- What is to be run for a move. -/
def program? (o : Options) (held : List Hold) (move : Move) : Option (Program Item) :=
  (move.happening? held).map (Happening.program o)

theorem program?_closeScope {held : List Hold} {name : String} {hold : Hold}
    (found : held.find? (Hold.isNamed name) = some hold) (o : Options) (closing : Closing) :
    program? o held (.closeScope name closing) = some ((closing.step hold.scope).program o) := by
  rw [program?, happening?, found]
  rfl

/-- The scopes that are held after a move with its outcome: a refused opening gives no scope, and a
scope that was closed is gone even if its container could not be filled. -/
def holds (held : List Hold) (outcome : Except Error Item) : Move → List Hold
  | openScope name _ =>
    match outcome with
    | .ok (.scope scope) => ⟨name, scope⟩ :: held
    | _ => held
  | closeScope name _ => held.eraseP (Hold.isNamed name)
  | _ => held

end Move

namespace Desk

def start (host : Host) : Desk := ⟨Session.start host, []⟩

/-- The desk after a move. -/
def after (o : Options) (d : Desk) (move : Move) : Desk :=
  match move.program? o d.held with
  | none => d
  | some program => ⟨(program.exec d.session).2, move.holds d.held (program.exec d.session).1⟩

/-- The desk after several moves. -/
def run (o : Options) (d : Desk) (moves : List Move) : Desk := moves.foldl (after o) d

theorem run_append (o : Options) (d : Desk) (first second : List Move) :
    d.run o (first ++ second) = (d.run o first).run o second := List.foldl_append

/-- What several moves are to the session, one after the other. -/
def happenings (o : Options) (d : Desk) : List Move → List Happening
  | [] => []
  | move :: rest => (move.happening? d.held).toList ++ (d.after o move).happenings o rest

theorem session_after (o : Options) (d : Desk) (move : Move) :
    (d.after o move).session = d.session.undergo o (move.happening? d.held).toList := by
  rw [after, Move.program?]
  cases move.happening? d.held <;> rfl

theorem session_run (o : Options) (d : Desk) (moves : List Move) :
    (d.run o moves).session = d.session.undergo o (d.happenings o moves) := by
  induction moves generalizing d with
  | nil => rfl
  | cons move rest inductionHypothesis =>
    rw [happenings, Session.undergo_append, ← session_after]
    exact inductionHypothesis (d.after o move)

theorem mem_happenings {o : Options} {d : Desk} {moves : List Move} {happening : Happening}
    (member : happening ∈ d.happenings o moves) :
    ∃ move ∈ moves, ∃ held, move.happening? held = some happening := by
  induction moves generalizing d with
  | nil => cases member
  | cons move rest inductionHypothesis =>
    rcases List.mem_append.mp member with first | later
    · exact ⟨move, List.mem_cons_self, d.held, Option.mem_toList.mp first⟩
    · obtain ⟨other, inside, held, isHappening⟩ := inductionHypothesis later
      exact ⟨other, List.mem_cons_of_mem _ inside, held, isHappening⟩

/-- Whether a move is an opening that is refused. -/
def refuses (d : Desk) : Move → Bool
  | .openScope _ options => !(Program.exec (Program.openContainer options) d.session).1.isOk
  | _ => false

/-- The number of openings among moves that are refused. -/
def refusals (o : Options) (d : Desk) : List Move → Nat
  | [] => 0
  | move :: rest => (if d.refuses move then 1 else 0) + (d.after o move).refusals o rest

end Desk

/-! ### Going on under the same scopes -/

namespace Session

/-- The session goes on under the same scopes. What it creates is in its journal, and is collected
if and only if a scope is open. -/
structure Proceeds (s after : Session) : Prop where
  scopes : after.recorder.scopes = s.recorder.scopes
  created : ∃ entries, after.host.journal = s.host.journal ++ entries ∧
    after.recorder.collected =
      s.recorder.collected ++ if 0 < s.recorder.scopes then createdNodes entries else []

theorem proceeds_of_same {s after : Session} (journal : after.host.journal = s.host.journal)
    (scopes : after.recorder.scopes = s.recorder.scopes)
    (collected : after.recorder.collected = s.recorder.collected) : Proceeds s after where
  scopes := scopes
  created := ⟨[], by simp [journal], by simp [collected, createdNodes]⟩

theorem lasting_proceeds : Program.Lasting Proceeds where
  refl _ := proceeds_of_same rfl rfl rfl
  trans := by
    rintro s t u ⟨scopes, entries, journal, collected⟩
      ⟨scopesLater, later, journalLater, collectedLater⟩
    have joined : createdNodes (entries ++ later) = createdNodes entries ++ createdNodes later :=
      List.filterMap_append
    refine ⟨scopesLater.trans scopes, entries ++ later, ?_, ?_⟩
    · rw [journalLater, journal, List.append_assoc]
    · rw [collectedLater, collected, scopes, joined]
      split <;> simp

end Session

namespace Program

open Session

/-- A call that creates no node. -/
theorem proceeds_call {α : Type} {c : Call} {report : α → Outcome}
    {change : Scene → Except SceneError (α × Scene)}
    (plain : ∀ outcome, JournalEntry.created? ⟨c, outcome⟩ = none) :
    Respects Proceeds (call c report change) := by
  have none (outcome : Outcome) : createdNodes [⟨c, outcome⟩] = [] := by
    simp [createdNodes, plain]
  intro s
  rcases exec_call_cases c report change s with
    ⟨e, fault, message, run⟩ | ⟨a, scene, fault, done, run⟩
  · rw [run]
    exact ⟨rfl, [⟨c, .failed message⟩], rfl, by simp [none, refused]⟩
  · rw [run]
    exact ⟨rfl, [⟨c, report a⟩], rfl, by simp [none, answered]⟩

theorem proceeds_editRecorder {edit : Recorder → Recorder}
    (scopes : ∀ r, (edit r).scopes = r.scopes) (collected : ∀ r, (edit r).collected = r.collected) :
    Respects Proceeds (editRecorder edit) :=
  fun _ => proceeds_of_same rfl (scopes _) (collected _)

theorem proceeds_record (event : Trace.Event) : Respects Proceeds (record event) :=
  proceeds_editRecorder (fun r => r.scopes_record event) fun r => r.collected_record event

theorem proceeds_create (type name : String) : Respects Proceeds (create type name) := by
  intro s
  rcases exec_create_cases type name s with
    ⟨e, fault, message, run⟩ | ⟨node, scene, fault, made, run⟩
  · rw [run]
    exact ⟨rfl, [⟨.create type name, .failed message⟩], rfl,
      by simp [createdNodes, JournalEntry.created?, refused]⟩
  · rw [run]
    refine ⟨?_, [⟨.create type name, .made node⟩], rfl, ?_⟩
    · show ((s.recorder.collect node).record (.create node type)).scopes = s.recorder.scopes
      simp
    · show ((s.recorder.collect node).record (.create node type)).collected = _
      rw [Recorder.collected_record, Recorder.collect]
      split
      · rfl
      · exact (List.append_nil _).symm

theorem covers_proceeds (force : Bool) : Covers force (fun _ => True) Proceeds where
  toLasting := lasting_proceeds
  create type name _ := proceeds_create type name
  setPlug _ _ _ _ := lasting_proceeds.bind (proceeds_call fun _ => rfl) fun _ => proceeds_record _
  connect _ _ := lasting_proceeds.bind (proceeds_call fun _ => rfl) fun _ => proceeds_record _
  addAttribute _ _ _ :=
    lasting_proceeds.bind (proceeds_call fun _ => rfl) fun _ => proceeds_record _
  readPlug plug := by
    refine Respects.scene_bind fun s => ?_
    split
    · refine lasting_proceeds.bind (proceeds_call fun _ => rfl) (fun _ => ?_) s
      refine lasting_proceeds.bind (fun _ => lasting_proceeds.refl _) fun _ => ?_
      exact lasting_proceeds.bind (proceeds_record _) fun _ => lasting_proceeds.pure _
    · exact lasting_proceeds.throw _ s
  warn _ _ := proceeds_of_same rfl rfl rfl

/-- Filling a container creates no node. -/
theorem proceeds_populate (scope : ContainerScope) : Respects Proceeds (populate scope) :=
  lasting_proceeds.populate (fun _ _ => proceeds_call fun _ => rfl)
    (fun _ _ _ => proceeds_call fun _ => rfl) (fun _ _ => proceeds_call fun _ => rfl) scope

end Program

/-- The session after a scope was taken off the count. -/
def Session.ended (s : Session) : Session := { s with recorder := s.recorder.endContainer }

namespace Closing

open Program in
/-- What closing a scope does before the scope is taken off the count. -/
def filling (scope : ContainerScope) : Closing → Program Item
  | finish => do
    populate scope
    pure (.container scope.container)
  | drop => do
    match ← outcome (populate scope) with
    | .ok _ => pure ()
    | .error _ => warn .populationFailed
    pure .done
  | abandon => do
    warn .abandoned
    pure .done

/-- A scope is taken off the count whether or not its container could be filled. -/
theorem exec_step (o : Options) (closing : Closing) (scope : ContainerScope) (s : Session) :
    Program.exec ((closing.step scope).program o) s =
      ((Program.exec (closing.filling scope) s).1,
        (Program.exec (closing.filling scope) s).2.ended) := by
  cases closing with
  | finish =>
    rw [step, Step.program, filling, Program.exec_wrap, Program.finishContainer, Program.exec_bind,
      Program.exec_outcome, Program.exec_wrap]
    rcases Program.exec (Program.populate scope) s with ⟨_ | _, _⟩ <;> rfl
  | drop =>
    rw [step, Step.program, filling, Program.exec_wrap, Program.dropContainer, Program.exec_bind,
      Program.exec_outcome, Program.exec_bind, Program.exec_outcome]
    rcases Program.exec (Program.populate scope) s with ⟨_ | _, _⟩ <;> rfl
  | abandon => rfl

/-- Closing a scope does what filling its container does, and may warn. -/
theorem respects_filling {R : Session → Session → Prop} (lasting : Program.Lasting R)
    {scope : ContainerScope} (filled : Program.Respects R (Program.populate scope))
    (warned : ∀ warning, Program.Respects R (Program.warn warning)) (closing : Closing) :
    Program.Respects R (closing.filling scope) := by
  cases closing with
  | finish => exact lasting.bind filled fun _ => lasting.pure _
  | drop =>
    refine lasting.bind (fun s => filled s) fun outcome => ?_
    split
    · exact lasting.pure _
    · exact lasting.bind (warned _) fun _ => lasting.pure _
  | abandon => exact lasting.bind (warned _) fun _ => lasting.pure _

theorem proceeds_filling (closing : Closing) (scope : ContainerScope) :
    Program.Respects Session.Proceeds (closing.filling scope) :=
  respects_filling Session.lasting_proceeds (Program.proceeds_populate scope)
    (fun _ _ => Session.proceeds_of_same rfl rfl rfl) closing

end Closing

/-- A move that is about no scope is carried out, and the session goes on under the same scopes. -/
theorem Move.proceeds (o : Options) (held : List Hold) {move : Move} (quiet : move.scope? = none) :
    ∃ program, move.program? o held = some program ∧
      Program.Respects Session.Proceeds program := by
  have alike {program : Program Unit} (same : ∀ s, (Program.exec program s).2.Alike s) :
      Program.Respects Session.Proceeds (do program; pure Item.done) := by
    intro s
    rw [Program.exec_wrap]
    exact Session.proceeds_of_same (by rw [(same s).host]) (same s).scopes (same s).collected
  cases move with
  | act action =>
    exact ⟨_, rfl, (Program.covers_proceeds o.force).action action fun _ _ => trivial⟩
  | arm fault => exact ⟨_, rfl, fun _ => Session.proceeds_of_same rfl rfl rfl⟩
  | write change => exact ⟨_, rfl, fun _ => Session.proceeds_of_same rfl rfl rfl⟩
  | openTracer options =>
    exact ⟨_, rfl, alike fun _ => Session.Alike.openTracer ⟨rfl, rfl, rfl⟩ options⟩
  | closeTracer options =>
    exact ⟨_, rfl, alike fun _ => Session.Alike.closeTracer ⟨rfl, rfl, rfl⟩ options⟩
  | openScope name options => cases quiet
  | closeScope name closing => cases quiet

/-! ### Openings -/

/-- The session after a scope was counted. -/
def Session.begun (s : Session) : Session := { s with recorder := s.recorder.beginContainer }

/-- An opening without a container succeeds. -/
theorem Program.exec_openContainer_idle {options : ContainerOptions} (idle : options.create = false)
    (s : Session) : exec (openContainer options) s = (.ok ⟨options, none⟩, s.begun) := by
  show exec (if options.create then
    (do return (⟨options, some (← createContainer options.name)⟩ : ContainerScope))
    else pure ⟨options, none⟩) s.begun = _
  rw [idle]
  rfl

/-- An opening with a container may be refused. The scope is counted in any case. -/
theorem Program.exec_openContainer_cases (options : ContainerOptions) (s : Session) :
    (options.create = false ∧ exec (openContainer options) s = (.ok ⟨options, none⟩, s.begun)) ∨
    (∃ container scene fault, exec (openContainer options) s =
      (.ok ⟨options, some container⟩,
        s.begun.answered (.createContainer options.name) (.made container) scene fault)) ∨
    ∃ e fault message, exec (openContainer options) s =
      (.error (.host e), s.begun.refused (.createContainer options.name) fault message) := by
  by_cases create : options.create = true
  · have opening : exec (openContainer options) s = exec (if options.create then
        (do return (⟨options, some (← createContainer options.name)⟩ : ContainerScope))
        else pure ⟨options, none⟩) s.begun := rfl
    rw [opening, if_pos create, exec_wrap]
    rcases exec_call_cases (.createContainer options.name) .made
        (fun scene => scene.createContainer options.name) s.begun with
      ⟨e, fault, message, run⟩ | ⟨container, scene, fault, made, run⟩
    · rw [createContainer, run]
      exact Or.inr (Or.inr ⟨e, fault, message, rfl⟩)
    · rw [createContainer, run]
      exact Or.inr (Or.inl ⟨container, scene, fault, rfl⟩)
  · have idle := Bool.eq_false_iff.mpr create
    exact Or.inl ⟨idle, exec_openContainer_idle idle s⟩

/-! ### The count -/

namespace Desk

/-- The recorder counts the scopes that are held and some openings that were refused. Where it
counts none, nothing is collected. -/
structure Counts (d : Desk) (refused : Nat) : Prop where
  scopes : d.session.recorder.scopes = d.held.length + refused
  collected : d.session.recorder.scopes = 0 → d.session.recorder.collected = []

theorem after_of_some {o : Options} {d : Desk} {move : Move} {program : Program Item}
    (known : move.program? o d.held = some program) :
    d.after o move =
      ⟨(program.exec d.session).2, move.holds d.held (program.exec d.session).1⟩ := by
  rw [after, known]

theorem after_of_quiet (o : Options) (d : Desk) {move : Move} (quiet : move.scope? = none) :
    d.session.Proceeds (d.after o move).session ∧ (d.after o move).held = d.held := by
  obtain ⟨program, known, proceeds⟩ := move.proceeds o d.held quiet
  rw [after_of_some known]
  refine ⟨proceeds d.session, ?_⟩
  cases move with
  | openScope _ _ => cases quiet
  | closeScope _ _ => cases quiet
  | _ => rfl

theorem after_openScope (o : Options) (d : Desk) (name : String) (options : ContainerOptions) :
    (d.after o (.openScope name options)).session.recorder = d.session.recorder.beginContainer ∧
      (d.after o (.openScope name options)).held.length +
        (if d.refuses (.openScope name options) then 1 else 0) = d.held.length + 1 := by
  have opened := Program.exec_openContainer_cases options d.session
  rw [after_of_some rfl, Happening.program, Step.program, Program.exec_wrap, refuses]
  rcases opened with ⟨_, run⟩ | ⟨_, _, _, run⟩ | ⟨_, _, _, run⟩ <;> rw [run] <;> exact ⟨rfl, rfl⟩

/-- A scope that is not held is not closed; one that is held is taken off the count. -/
theorem after_closeScope (o : Options) (d : Desk) (name : String) (closing : Closing) :
    d.after o (.closeScope name closing) = d ∨
      ∃ t, d.session.Proceeds t ∧ 0 < d.held.length ∧
        (d.after o (.closeScope name closing)).session = t.ended ∧
        (d.after o (.closeScope name closing)).held.length = d.held.length - 1 := by
  cases found : d.held.find? (Hold.isNamed name) with
  | none =>
    left
    rw [after, Move.program?, Move.happening?, found]
    rfl
  | some hold =>
    right
    have known := Move.program?_closeScope found o closing
    have member := List.mem_of_find?_eq_some found
    have named : hold.isNamed name = true := List.find?_some found
    rw [after_of_some known, closing.exec_step]
    exact ⟨_, closing.proceeds_filling hold.scope d.session, List.length_pos_of_mem member, rfl,
      List.length_eraseP_of_mem member named⟩

theorem Counts.proceeds {d : Desk} {refused : Nat} (counts : d.Counts refused) {t : Session}
    (proceeds : d.session.Proceeds t) : Counts ⟨t, d.held⟩ refused where
  scopes := proceeds.scopes.trans counts.scopes
  collected none := by
    obtain ⟨entries, _, collected⟩ := proceeds.created
    have noneBefore : d.session.recorder.scopes = 0 := proceeds.scopes.symm.trans none
    show t.recorder.collected = []
    rw [collected, counts.collected noneBefore, noneBefore]
    rfl

theorem Counts.quiet {d : Desk} {refused : Nat} (counts : d.Counts refused) (o : Options)
    {move : Move} (quiet : move.scope? = none) : (d.after o move).Counts refused := by
  obtain ⟨proceeds, held⟩ := d.after_of_quiet o quiet
  have counted := counts.proceeds proceeds
  rwa [← held] at counted

/-- One move: the count stays right. -/
theorem Counts.after {d : Desk} {refused : Nat} (counts : d.Counts refused) (o : Options)
    (move : Move) : (d.after o move).Counts (refused + if d.refuses move then 1 else 0) := by
  cases move with
  | openScope name options =>
    obtain ⟨recorder, held⟩ := d.after_openScope o name options
    have scopes := counts.scopes
    constructor
    · rw [recorder]
      show d.session.recorder.scopes + 1 = _
      omega
    · intro none
      rw [recorder] at none
      cases none
  | closeScope name closing =>
    rcases d.after_closeScope o name closing with same | ⟨t, proceeds, holding, session, held⟩
    · rw [same]
      exact counts
    · have scopes := (counts.proceeds proceeds).scopes
      constructor
      · rw [session, held]
        show t.recorder.scopes - 1 = d.held.length - 1 + refused
        dsimp only at scopes
        omega
      · intro none
        rw [session] at none ⊢
        exact if_pos none
  | _ => exact counts.quiet o rfl

/-- Several moves: the count stays right. -/
theorem Counts.run {d : Desk} {refused : Nat} (counts : d.Counts refused) (o : Options)
    (moves : List Move) : (d.run o moves).Counts (refused + d.refusals o moves) := by
  induction moves generalizing d refused with
  | nil => exact counts
  | cons move rest inductionHypothesis =>
    have later := inductionHypothesis (counts.after o move)
    rwa [Nat.add_assoc] at later

theorem counts_start (host : Host) : (start host).Counts 0 := ⟨rfl, fun _ => rfl⟩

/-! ### What is collected -/

/-- Without an opening scopes are only closed, and while one is counted all nodes are collected. -/
structure Lasts (d after : Desk) : Prop where
  scopes : after.session.recorder.scopes ≤ d.session.recorder.scopes
  created : 0 < after.session.recorder.scopes → ∃ entries,
    after.session.host.journal = d.session.host.journal ++ entries ∧
      after.session.recorder.collected = d.session.recorder.collected ++ createdNodes entries

theorem Lasts.trans {d between after : Desk} (first : Lasts d between)
    (second : Lasts between after) : Lasts d after where
  scopes := Nat.le_trans second.scopes first.scopes
  created isOpen := by
    obtain ⟨entries, journal, collected⟩ := first.created (Nat.lt_of_lt_of_le isOpen second.scopes)
    obtain ⟨later, journalLater, collectedLater⟩ := second.created isOpen
    refine ⟨entries ++ later, ?_, ?_⟩
    · rw [journalLater, journal, List.append_assoc]
    · rw [collectedLater, collected, createdNodes, createdNodes, createdNodes,
        List.filterMap_append, List.append_assoc]

theorem lasts_of_proceeds {d after : Desk} (proceeds : d.session.Proceeds after.session) :
    Lasts d after where
  scopes := Nat.le_of_eq proceeds.scopes
  created isOpen := by
    obtain ⟨entries, journal, collected⟩ := proceeds.created
    rw [proceeds.scopes] at isOpen
    rw [if_pos isOpen] at collected
    exact ⟨entries, journal, collected⟩

theorem lasts_after (o : Options) (d : Desk) {move : Move} (closed : move.opens = false) :
    Lasts d (d.after o move) := by
  cases move with
  | openScope name options => cases closed
  | closeScope name closing =>
    rcases d.after_closeScope o name closing with same | ⟨t, proceeds, _, session, _⟩
    · rw [same]
      exact lasts_of_proceeds (Session.lasting_proceeds.refl _)
    · have filling : Lasts d ⟨t, d.held⟩ := lasts_of_proceeds proceeds
      refine filling.trans ⟨?_, ?_⟩
      · rw [session]
        exact Nat.sub_le _ _
      · rw [session]
        intro (isOpen : 0 < t.recorder.scopes - 1)
        refine ⟨[], (List.append_nil _).symm, ?_⟩
        show (if t.recorder.scopes - 1 = 0 then [] else t.recorder.collected) = _
        rw [if_neg (Nat.ne_of_gt isOpen)]
        exact (List.append_nil _).symm
  | _ => exact lasts_of_proceeds (d.after_of_quiet o rfl).1

theorem lasts_run (o : Options) (d : Desk) {moves : List Move}
    (closed : ∀ move ∈ moves, move.opens = false) : Lasts d (d.run o moves) := by
  induction moves generalizing d with
  | nil => exact lasts_of_proceeds (Session.lasting_proceeds.refl _)
  | cons move rest inductionHypothesis =>
    obtain ⟨first, later⟩ := List.forall_mem_cons.mp closed
    exact (lasts_after o d first).trans (inductionHypothesis _ later)

/-- Whatever happens after the start, the recorder counts the scopes that are held and the openings
that were refused. If none is held and none was refused, nothing is collected; while any is counted,
what is collected are the nodes created since the last opening, refused or not. An opening that is
refused leaves the scene as it was, but is counted and forgets what was collected. -/
theorem openings_counted (o : Options) (host : Host) (moves : List Move) :
    ((start host).run o moves).session.recorder.scopes =
      ((start host).run o moves).held.length + (start host).refusals o moves ∧
    (((start host).run o moves).held = [] → (start host).refusals o moves = 0 →
      ((start host).run o moves).session.recorder.collected = []) ∧
    (∀ before name options later, moves = before ++ .openScope name options :: later →
      (∀ move ∈ later, move.opens = false) →
      0 < ((start host).run o moves).session.recorder.scopes →
      ∃ entries, ((start host).run o moves).session.host.journal =
          ((start host).run o (before ++ [.openScope name options])).session.host.journal ++
            entries ∧
        ((start host).run o moves).session.recorder.collected = createdNodes entries) ∧
    ∀ options e after,
      Program.exec (Program.openContainer options) ((start host).run o moves).session =
        (.error e, after) →
      after.scene = ((start host).run o moves).session.scene ∧
      after.recorder = { ((start host).run o moves).session.recorder with
        scopes := ((start host).run o moves).session.recorder.scopes + 1
        collected := [] } := by
  have counts := (counts_start host).run o moves
  rw [Nat.zero_add] at counts
  refine ⟨counts.scopes, ?_, ?_, ?_⟩
  · intro none neverRefused
    refine counts.collected ?_
    rw [counts.scopes, none, neverRefused]
    rfl
  · rintro before name options later rfl closed isOpen
    rw [List.append_cons, run_append] at isOpen ⊢
    obtain ⟨entries, journal, collected⟩ :=
      (lasts_run o ((start host).run o (before ++ [.openScope name options])) closed).created isOpen
    refine ⟨entries, journal, ?_⟩
    rw [collected, run_append]
    show (((start host).run o before).after o (.openScope name options)).session.recorder.collected
      ++ _ = _
    rw [(after_openScope o _ name options).1]
    rfl
  · intro options e after refused
    rcases Program.exec_openContainer_cases options ((start host).run o moves).session with
      ⟨_, run⟩ | ⟨_, _, _, run⟩ | ⟨_, _, _, run⟩
    · cases run.symm.trans refused
    · cases run.symm.trans refused
    · cases run.symm.trans refused
      exact ⟨rfl, rfl⟩

/-- A dot in the name of an inner container: its opening is refused, and with one scope held two are
counted and the node that was collected for the outer container is forgotten. -/
theorem refused_opening_forgets :
    ∃ d : Desk,
      d = (start (Host.ofScene (Scene.empty.run [.addTransform "pCube1"]) "")).run .default
        [.openScope "outer" ⟨"box", "", true⟩, .act (.apply "reverse" [.path "pCube1.t"])] ∧
      d.held.length = 1 ∧ d.session.recorder.scopes = 1 ∧
      d.session.recorder.collected = ["nc_REVERSE_t_reverse"] ∧
      (d.after .default (.openScope "inner" ⟨"a.b", "", true⟩)).held.length = 1 ∧
      (d.after .default (.openScope "inner" ⟨"a.b", "", true⟩)).session.recorder.scopes = 2 ∧
      (d.after .default (.openScope "inner" ⟨"a.b", "", true⟩)).session.recorder.collected = [] :=
  ⟨_, rfl, by decide +kernel⟩

end Desk

end FormulaNet
