/-
This file proves that traces are faithful and can be replayed. The journal of
the host says what was asked of it and what came of that. Under an open tracer
the log tells of the journal's successful creations, settings, connections, new
attributes and reads, one line for each and in their order: every program
records an event right after the call it stands for, and a failed call ends the
program before it gets there. The lines name the nodes and plugs of their calls,
but for names with a quote in them.

Replaying the journal's calls on the scene that the tracer found, with each node
created under the name it had got, leads to the scene that the run has left. A
name that was granted once is free again when its turn comes, so that it is
granted again.
-/

import Mathlib.Data.List.Forall2
import FormulaNet.Proofs.Steps
import FormulaNet.Proofs.Trace

namespace FormulaNet

/-! ### Logs -/

/-- What the session recorded since is what the journal tells of. -/
def Session.Logs (literals : List Channel) (s after : Session) : Prop :=
  after.recorder.tracing = s.recorder.tracing ∧
    ∃ entries, after.host.journal = s.host.journal ++ entries ∧
      (s.recorder.tracing = true →
        ∃ events, after.recorder.log = s.recorder.log ++ events ∧
          List.Forall₂ (Trace.Renders literals) (entries.filter (·.isTraced)) events)

namespace Session

theorem lasting_logs (literals : List Channel) : Program.Lasting (Logs literals) where
  refl s := ⟨rfl, [], (List.append_nil _).symm, fun _ =>
    ⟨[], (List.append_nil _).symm, List.Forall₂.nil⟩⟩
  trans := by
    rintro s t u ⟨tracing, first, journal, told⟩ ⟨tracing', second, journal', told'⟩
    refine ⟨tracing'.trans tracing, first ++ second, ?_, ?_⟩
    · rw [journal', journal, List.append_assoc]
    · intro on
      obtain ⟨events, logged, renders⟩ := told on
      obtain ⟨events', logged', renders'⟩ := told' (tracing.trans on)
      refine ⟨events ++ events', ?_, ?_⟩
      · rw [logged', logged, List.append_assoc]
      · rw [List.filter_append]
        exact List.rel_append renders renders'

variable {literals : List Channel}

/-- Sessions with the same journal and recorder tell the same. -/
theorem logs_of_same {s after : Session} (journal : after.host.journal = s.host.journal)
    (recorder : after.recorder = s.recorder) : Logs literals s after := by
  have same := (lasting_logs literals).refl s
  rw [Logs, journal, recorder]
  exact same

theorem logs_refused (s : Session) (call : Call) (fault : Option Fault) (message : String) :
    Logs literals s (s.refused call fault message) := by
  refine ⟨rfl, [⟨call, .failed message⟩], rfl, fun _ => ⟨[], (List.append_nil _).symm, ?_⟩⟩
  rw [List.filter_cons_of_neg (by simp [JournalEntry.isTraced, Outcome.isSuccess])]
  exact List.Forall₂.nil

/-- A call that is not traced leaves the log alone. -/
theorem logs_untraced (s : Session) {call : Call} (untraced : call.kind.isTraced = false)
    (outcome : Outcome) (scene : Scene) (fault : Option Fault) :
    Logs literals s (s.answered call outcome scene fault) := by
  refine ⟨rfl, [⟨call, outcome⟩], rfl, fun _ => ⟨[], (List.append_nil _).symm, ?_⟩⟩
  rw [List.filter_cons_of_neg (by simp [JournalEntry.isTraced, untraced])]
  exact List.Forall₂.nil

theorem log_recorded (s : Session) (event : Trace.Event) (on : s.recorder.tracing = true) :
    (s.recorded event).recorder.log = s.recorder.log ++ [event] := by
  rw [recorded, Recorder.record, if_pos on]

theorem tracing_recorded (s : Session) (event : Trace.Event) :
    (s.recorded event).recorder.tracing = s.recorder.tracing := by
  rw [recorded, Recorder.record]
  split <;> rfl

/-- A call that is recorded as it is told. -/
theorem logs_recorded {s between : Session} {entry : JournalEntry} {event : Trace.Event}
    (journal : between.host.journal = s.host.journal ++ [entry])
    (tracing : between.recorder.tracing = s.recorder.tracing)
    (log : between.recorder.log = s.recorder.log)
    (traced : entry.isTraced = true) (renders : Trace.Renders literals entry event) :
    Logs literals s (between.recorded event) := by
  refine ⟨(between.tracing_recorded event).trans tracing, [entry], journal, ?_⟩
  intro on
  refine ⟨[event], ?_, ?_⟩
  · rw [between.log_recorded event (tracing.trans on), log]
  · rw [List.filter_cons_of_pos traced]
    exact List.Forall₂.cons renders List.Forall₂.nil

end Session

namespace Program

/-- Every action is logged as its calls are answered. -/
theorem covers_logs (force : Bool) (literals : List Channel) :
    Covers force (· ∈ literals) (Session.Logs literals) where
  toLasting := Session.lasting_logs literals
  create type name _ s := by
    rcases exec_create_cases type name s with
      ⟨e, fault, message, run⟩ | ⟨node, scene, fault, _, run⟩
    · rw [run]
      exact s.logs_refused _ fault message
    · rw [run]
      refine Session.logs_recorded rfl ?_ ?_ rfl (.create type name node)
      · exact s.recorder.tracing_collect node
      · exact s.recorder.log_collect node
  setPlug plug value expression given s := by
    rcases exec_setPlug_cases plug value (Channel.literal value expression).text s with
      ⟨e, fault, message, run⟩ | ⟨scene, fault, _, run⟩
    · rw [run]
      exact s.logs_refused _ fault message
    · rw [run]
      exact Session.logs_recorded rfl rfl rfl rfl (.set plug value expression given)
  connect source dest s := by
    rcases exec_connect_cases source dest force s with
      ⟨e, fault, message, run⟩ | ⟨scene, fault, _, run⟩
    · rw [run]
      exact s.logs_refused _ fault message
    · rw [run]
      exact Session.logs_recorded rfl rfl rfl rfl (.connect source dest force)
  addAttribute node name spec s := by
    rcases exec_addAttribute_cases node name spec s with
      ⟨e, fault, message, run⟩ | ⟨scene, fault, _, run⟩
    · rw [run]
      exact s.logs_refused _ fault message
    · rw [run]
      exact Session.logs_recorded rfl rfl rfl rfl (.addAttribute node name spec)
  readPlug plug s := by
    rcases exec_readPlug_cases plug s with
      ⟨e, run⟩ | ⟨e, fault, message, run⟩ | ⟨payload, fault, _, run⟩
    · rw [run]
      exact (Session.lasting_logs literals).refl s
    · rw [run]
      exact s.logs_refused _ fault message
    · rw [run]
      exact Session.logs_recorded rfl rfl rfl rfl (.read plug)
  warn _ _ := Session.logs_of_same rfl rfl

end Program

/-! ### Replaying calls -/

/-- Carries out an entry of a journal again: nodes are created under the names they got, plugs are
connected with the given choice of force, and reads change nothing. -/
def JournalEntry.replay (force : Bool) (s : Scene) (entry : JournalEntry) :
    Except SceneError Scene :=
  match entry.call, entry.outcome with
  | .create type _, .made node => (s.create type node).map (·.2)
  | .set plug value, _ => s.set plug value
  | .connect source dest _, _ => s.connect source dest force
  | .addAttribute node name spec, _ => s.addAttribute node name spec.default
  | _, _ => .ok s

/-- Carries out entries again, in order. -/
def Scene.replay (force : Bool) (s : Scene) (entries : List JournalEntry) :
    Except SceneError Scene :=
  entries.foldlM (fun s entry => entry.replay force s) s

/-- A granted name is granted again. -/
theorem Scene.create_again {s after : Scene} {type name node : String}
    (done : s.create type name = .ok (node, after)) : s.create type node = .ok (node, after) := by
  obtain ⟨fresh, filled, noDot⟩ := create_name done
  obtain ⟨layout, known, _, _, assigned, rfl⟩ := create_eq_ok done
  have valid : ¬(node = "" ∨ '.' ∈ node.toList) := fun bad => bad.elim filled noDot
  rw [create, known]
  simp only [if_neg valid, s.uniqueName_of_not_mem fresh]
  rw [← assigned]

/-- The traced calls since lead from the one scene to the other. -/
def Session.Replays (force : Bool) (s after : Session) : Prop :=
  ∃ entries, after.host.journal = s.host.journal ++ entries ∧
    s.scene.replay force (entries.filter (·.isTraced)) = .ok after.scene

namespace Session

theorem lasting_replays (force : Bool) : Program.Lasting (Replays force) where
  refl s := ⟨[], (List.append_nil _).symm, rfl⟩
  trans := by
    rintro s t u ⟨first, journal, replayed⟩ ⟨second, journal', replayed'⟩
    refine ⟨first ++ second, ?_, ?_⟩
    · rw [journal', journal, List.append_assoc]
    · rw [List.filter_append, Scene.replay, List.foldlM_append]
      rw [Scene.replay] at replayed
      rw [replayed]
      exact replayed'

theorem replays_refused (force : Bool) (s : Session) (call : Call) (fault : Option Fault)
    (message : String) : Replays force s (s.refused call fault message) := by
  refine ⟨[⟨call, .failed message⟩], rfl, ?_⟩
  rw [List.filter_cons_of_neg (by simp [JournalEntry.isTraced, Outcome.isSuccess])]
  rfl

/-- A traced call that is carried out again as it was the first time. -/
theorem replays_answered {force : Bool} {s after : Session} {entry : JournalEntry}
    (journal : after.host.journal = s.host.journal ++ [entry]) (traced : entry.isTraced = true)
    (again : entry.replay force s.scene = .ok after.scene) : Replays force s after := by
  refine ⟨[entry], journal, ?_⟩
  rw [List.filter_cons_of_pos traced, List.filter_nil, Scene.replay, List.foldlM_cons, again]
  rfl

end Session

namespace Program

/-- The calls of every action lead again to where they led. -/
theorem covers_replays (force : Bool) : Covers force (fun _ => True) (Session.Replays force) where
  toLasting := Session.lasting_replays force
  create type name _ s := by
    rcases exec_create_cases type name s with
      ⟨e, fault, message, run⟩ | ⟨node, scene, fault, done, run⟩
    · rw [run]
      exact Session.replays_refused force s _ fault message
    · rw [run]
      refine Session.replays_answered rfl rfl ?_
      show (s.scene.create type node).map (·.2) = .ok scene
      rw [Scene.create_again done]
      rfl
  setPlug plug value expression _ s := by
    rcases exec_setPlug_cases plug value (Channel.literal value expression).text s with
      ⟨e, fault, message, run⟩ | ⟨scene, fault, done, run⟩
    · rw [run]
      exact Session.replays_refused force s _ fault message
    · rw [run]
      exact Session.replays_answered rfl rfl done
  connect source dest s := by
    rcases exec_connect_cases source dest force s with
      ⟨e, fault, message, run⟩ | ⟨scene, fault, done, run⟩
    · rw [run]
      exact Session.replays_refused force s _ fault message
    · rw [run]
      exact Session.replays_answered rfl rfl done
  addAttribute node name spec s := by
    rcases exec_addAttribute_cases node name spec s with
      ⟨e, fault, message, run⟩ | ⟨scene, fault, done, run⟩
    · rw [run]
      exact Session.replays_refused force s _ fault message
    · rw [run]
      exact Session.replays_answered rfl rfl done
  readPlug plug s := by
    rcases exec_readPlug_cases plug s with
      ⟨e, run⟩ | ⟨e, fault, message, run⟩ | ⟨payload, fault, _, run⟩
    · rw [run]
      exact (Session.lasting_replays force).refl s
    · rw [run]
      exact Session.replays_refused force s _ fault message
    · rw [run]
      exact Session.replays_answered rfl rfl rfl
  warn _ s := ⟨[], (List.append_nil _).symm, rfl⟩

/-! ### Container scopes -/

variable {literals : List Channel}

theorem logs_call_untraced {α : Type} {c : Call} (untraced : c.kind.isTraced = false)
    (report : α → Outcome) (change : Scene → Except SceneError (α × Scene)) :
    Respects (Session.Logs literals) (call c report change) := by
  intro s
  rcases exec_call_cases c report change s with
    ⟨e, fault, message, run⟩ | ⟨a, scene, fault, _, run⟩
  · rw [run]
    exact s.logs_refused c fault message
  · rw [run]
    exact s.logs_untraced untraced _ scene fault

theorem logs_editRecorder {edit : Recorder → Recorder} (tracing : ∀ r, (edit r).tracing = r.tracing)
    (log : ∀ r, (edit r).log = r.log) : Respects (Session.Logs literals) (editRecorder edit) := by
  intro s
  refine ⟨tracing _, [], (List.append_nil _).symm, fun _ => ⟨[], ?_, List.Forall₂.nil⟩⟩
  exact (log _).trans (List.append_nil _).symm

theorem logs_openContainer (options : ContainerOptions) :
    Respects (Session.Logs literals) (openContainer options) := by
  have lasting := Session.lasting_logs literals
  refine lasting.bind (logs_editRecorder (fun _ => rfl) fun _ => rfl) fun _ => ?_
  split
  · exact lasting.bind (logs_call_untraced rfl _ _) fun _ => lasting.pure _
  · exact lasting.pure _

theorem logs_populate (scope : ContainerScope) :
    Respects (Session.Logs literals) (populate scope) :=
  (Session.lasting_logs literals).populate (fun _ _ => logs_call_untraced rfl _ _)
    (fun _ _ _ => logs_call_untraced rfl _ _) (fun _ _ => logs_call_untraced rfl _ _) scope

theorem logs_finishContainer (scope : ContainerScope) :
    Respects (Session.Logs literals) (finishContainer scope) := by
  have lasting := Session.lasting_logs literals
  refine lasting.bind (fun s => logs_populate scope s) fun filled => ?_
  refine lasting.bind (logs_editRecorder (fun _ => rfl) fun _ => rfl) fun _ => ?_
  split
  · exact lasting.pure _
  · exact lasting.throw _

theorem logs_dropContainer (scope : ContainerScope) :
    Respects (Session.Logs literals) (dropContainer scope) := by
  have lasting := Session.lasting_logs literals
  have closing : Respects (Session.Logs literals) (editRecorder (·.endContainer)) :=
    logs_editRecorder (fun _ => rfl) fun _ => rfl
  refine lasting.bind (fun s => logs_populate scope s) fun filled => ?_
  dsimp only
  split
  · exact closing
  · exact lasting.bind ((covers_logs false literals).warn _) fun _ => closing

end Program

/-! ### Runs -/

namespace Step

/-- Every step is logged as its calls are answered. -/
theorem logs_program (o : Options) (step : Step) {literals : List Channel}
    (within : ∀ channel ∈ step.literals, channel ∈ literals) :
    Program.Respects (Session.Logs literals) (step.program o) := by
  have lasting := Session.lasting_logs literals
  cases step with
  | act action => exact (Program.covers_logs o.force literals).action action within
  | arm fault => exact fun _ => Session.logs_of_same rfl rfl
  | openContainer options => exact lasting.wrap (Program.logs_openContainer options)
  | finishContainer scope => exact lasting.wrap (Program.logs_finishContainer scope)
  | dropContainer scope => exact lasting.wrap (Program.logs_dropContainer scope)
  | abandonContainer =>
    have closing : Program.Respects (Session.Logs literals)
        (Program.editRecorder (·.endContainer)) :=
      Program.logs_editRecorder (fun _ => rfl) fun _ => rfl
    exact lasting.wrap (lasting.bind ((Program.covers_logs o.force literals).warn _) fun _ =>
      closing)
  | write change => exact fun _ => Session.logs_of_same rfl rfl

/-- The calls of a plain step lead again to where they led. -/
theorem replays_program (o : Options) {step : Step} (plain : step.isPlain = true) :
    Program.Respects (Session.Replays o.force) (step.program o) := by
  cases step with
  | act action => exact (Program.covers_replays o.force).action action fun _ _ => trivial
  | arm fault => exact fun _ => ⟨[], (List.append_nil _).symm, rfl⟩
  | openContainer options => cases plain
  | finishContainer scope => cases plain
  | dropContainer scope => cases plain
  | abandonContainer => cases plain
  | write change => cases plain

end Step

namespace Session

/-- The calls that steps make of the host, each with the step that makes it. -/
def calls (o : Options) (s : Session) : List Step → List (Step × JournalEntry)
  | [] => []
  | step :: rest =>
    let after := step.perform o s
    (after.host.journal.drop s.host.journal.length).map (step, ·) ++ after.calls o rest

/-- The calls of a step are those that it adds to the journal. -/
theorem calls_cons (o : Options) (s : Session) (step : Step) (rest : List Step)
    {entries : List JournalEntry}
    (journal : (step.perform o s).host.journal = s.host.journal ++ entries) :
    s.calls o (step :: rest) = entries.map (step, ·) ++ (step.perform o s).calls o rest := by
  rw [calls, journal, List.drop_left]

/-- A run under a tracer makes its calls one after the other, and logs what each step's calls are
with the literals of that step. -/
theorem run_logs_calls (o : Options) (steps : List Step) (s : Session)
    (on : s.recorder.tracing = true) :
    (s.run o steps).host.journal = s.host.journal ++ (s.calls o steps).map Prod.snd ∧
      ∃ events, (s.run o steps).recorder.log = s.recorder.log ++ events ∧
        List.Forall₂ (fun call event => Trace.Renders call.1.literals call.2 event)
          ((s.calls o steps).filter (·.2.isTraced)) events := by
  induction steps generalizing s with
  | nil => exact ⟨(List.append_nil _).symm, [], (List.append_nil _).symm, .nil⟩
  | cons step rest inductionHypothesis =>
    obtain ⟨tracing, entries, journal, told⟩ := step.logs_program o (fun _ inside => inside) s
    obtain ⟨events, logged, renders⟩ := told on
    obtain ⟨journal', events', logged', renders'⟩ :=
      inductionHypothesis (step.perform o s) (tracing.trans on)
    have made := s.calls_cons o step rest journal
    refine ⟨?_, events ++ events', ?_, ?_⟩
    · have own : (entries.map fun entry => (step, entry)).map Prod.snd = entries := by
        rw [List.map_map]
        exact List.map_id entries
      rw [made, List.map_append, own, ← List.append_assoc]
      exact journal'.trans (congrArg (· ++ _) journal)
    · rw [← List.append_assoc]
      exact logged'.trans (congrArg (· ++ _) logged)
    · rw [made, List.filter_append, List.filter_map]
      refine List.rel_append ?_ renders'
      exact List.forall₂_map_left_iff.mpr renders

/-- After a tracer was opened, every creation, setting, connection, new attribute and read that is
carried out is told by one line, in order, and nothing else is: the K-th creation is `varK` and the
N-th read `valN`, a node or plug on an earlier creation is written with its variable, any other is
put in quotes, and what is set is written as the step gave it. From such a line the nodes and plugs
of the call can be read if and only if no quote stands in what it puts in quotes. Replayed on the
scene that the tracer found, the told calls lead to the scene of the end, provided that no container
scope and no write past the session came in between. -/
theorem run_traced_told (o : Options) (printLine printBlock : Bool) (s : Session)
    (steps : List Step) :
    ∃ opened after : Session, ∃ told lines,
      opened = (Program.exec (Program.openTracer ⟨true, printLine, printBlock⟩) s).2 ∧
      after = opened.run o steps ∧
      after.host.journal = s.host.journal ++ (opened.calls o steps).map Prod.snd ∧
      told = (opened.calls o steps).filter (·.2.isTraced) ∧
      Program.exec Program.tracedCommands after = (.ok lines, after) ∧
      lines.length = told.length ∧
      (∀ (i : Nat) (step : Step) (entry : JournalEntry) (line : String),
        told[i]? = some (step, entry) → lines[i]? = some line →
          ∃ before parts, before = (told.take i).map Prod.snd ∧
            Trace.Line before step.literals entry line parts ∧
            (Trace.places? (createdNodes before) line = some entry.call.places ↔
              ∀ part ∈ parts, '\'' ∉ part.toList)) ∧
      ((∀ step ∈ steps, step.isPlain = true) →
        s.scene.replay o.force (told.map Prod.snd) = .ok after.scene) := by
  let opened := (Program.exec (Program.openTracer ⟨true, printLine, printBlock⟩) s).2
  obtain ⟨journal, events, logged, renders⟩ := opened.run_logs_calls o steps rfl
  obtain ⟨counted, lines⟩ := Trace.texts_told Step.literals renders
  refine ⟨opened, opened.run o steps, _, Trace.texts events, rfl, rfl, journal, rfl, ?_, counted,
    ?_, ?_⟩
  · show (Except.ok (Trace.texts (opened.run o steps).recorder.log), _) = _
    rw [logged]
    rfl
  · intro i step entry line position written
    obtain ⟨parts, told⟩ := lines i (step, entry) line position written
    exact ⟨_, parts, rfl, told, told.places?_iff⟩
  · intro plain
    obtain ⟨again, journal', replayed⟩ := (lasting_replays o.force).run
      (fun step member => Step.replays_program o (plain step member)) opened
    have same : again = (opened.calls o steps).map Prod.snd :=
      List.append_cancel_left (journal'.symm.trans journal)
    rw [same, List.filter_map] at replayed
    exact replayed

/-- A product and a read under a tracer: the node is `var1` and the read `val1`. -/
theorem run_traced_told_product :
    ∃ opened after : Session, ∃ (told : List (Step × JournalEntry)) (lines : List String),
      opened = (Program.exec (Program.openTracer .default)
        (.start (.ofScene (Scene.empty.run [.addTransform "pCube1"]) ""))).2 ∧
      after = opened.run .default
        [.act (.apply "mul" [.path "pCube1.t", .number 2]),
          .act (.read (.node "pCube1" (.one "tx")))] ∧
      Program.exec Program.tracedCommands after = (.ok lines, after) ∧
      lines = ["var1 = create_node('multiplyDivide', name='nc_MUL_t_2_multiplyDivide')",
        "set(var1 + '.operation', 1)", "connect('pCube1.translate', var1 + '.input1')",
        "set(var1 + '.input2X', 2)", "set(var1 + '.input2Y', 2)", "set(var1 + '.input2Z', 2)",
        "val1 = get('pCube1.tx')"] ∧
      lines.length = told.length ∧
      (∃ step entry line parts, told[2]? = some (step, entry) ∧ lines[2]? = some line ∧
        entry.call = .connect "pCube1.translate" "nc_MUL_t_2_multiplyDivide.input1" true ∧
        Trace.Line ((told.take 2).map Prod.snd) step.literals entry line parts) ∧
      (Scene.empty.run [.addTransform "pCube1"]).replay true (told.map Prod.snd) =
        .ok after.scene := by
  obtain ⟨opened, after, told, lines, isOpened, isAfter, _, isTold, logged, counted, each, replayed⟩ :=
    run_traced_told .default false false
      (.start (.ofScene (Scene.empty.run [.addTransform "pCube1"]) ""))
      [.act (.apply "mul" [.path "pCube1.t", .number 2]), .act (.read (.node "pCube1" (.one "tx")))]
  have texts : Trace.texts after.recorder.log = lines := Except.ok.inj (congrArg Prod.fst logged)
  have third : told[2]?.map (·.2.call) =
      some (.connect "pCube1.translate" "nc_MUL_t_2_multiplyDivide.input1" true) := by
    rw [isTold, isOpened]
    decide +kernel
  obtain ⟨⟨step, entry⟩, position, called⟩ := Option.map_eq_some_iff.mp third
  have inside : 2 < lines.length := counted ▸ (List.getElem?_eq_some_iff.mp position).1
  have written := List.getElem?_eq_getElem inside
  obtain ⟨_, parts, rfl, line, _⟩ := each 2 step entry _ position written
  refine ⟨opened, after, told, lines, isOpened, isAfter, logged, ?_, counted,
    ⟨step, entry, _, parts, position, written, called, line⟩, replayed (by decide)⟩
  rw [← texts, isAfter, isOpened]
  decide +kernel

/-- A plug on a node with a quote in its name. The line of its connection reads as another node and
a variable that was never assigned, and nothing was created at all. -/
theorem quoted_name_misread :
    ∃ opened after : Session,
      opened = (Program.exec (Program.openTracer .default) (.start (.ofScene
        (Scene.empty.run [.addTransform "pCube1", .addTransform "n1', var9 + '"]) ""))).2 ∧
      after = opened.run .default
        [.act (.setOrConnect (.path "pCube1.ty") (.path "n1', var9 + '.tx"))] ∧
      after.host.journal = [⟨.connect "n1', var9 + '.tx" "pCube1.ty" true, .done⟩] ∧
      Trace.texts after.recorder.log = ["connect('n1', var9 + '.tx', 'pCube1.ty')"] ∧
      Trace.terms? "connect('n1', var9 + '.tx', 'pCube1.ty')" =
        some [.quoted "n1", .member 9 "tx"] := by
  refine ⟨_, _, rfl, rfl, ?_, ?_, ?_⟩ <;> decide +kernel

end Session

end FormulaNet
