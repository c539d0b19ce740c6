/-
This file follows values through scripts. Besides the session and the kept items
a narration holds the readings that were made: those since the last tracer was
opened, and those before. Whatever a script does, as long as the values written
out in it are written by hand, every value it keeps means its payload over the
readings made so far.

A log is therefore explained by readings of two kinds: readings that values had
been computed from when they were carried into the tracer, and readings made
under the tracer. Readings of the second kind are told by an earlier entry of the
same log. Of the first kind it tells nothing: a value that was read under one
tracer and is set under a later one is written as the label that its reading had
in the earlier log, whatever that label stands for in the later one.
-/

import FormulaNet.Proofs.Links
import FormulaNet.Proofs.Sourced

namespace FormulaNet

variable {made : Reading → Prop} {used : String → Prop}

/-! ### Logs -/

namespace Trace

/-- The settings of a log are written as what means the numbers that were set, over what is known at
their positions. -/
def Explained (known : Nat → Reading → Prop) (calls : List JournalEntry) (log : List Event) : Prop :=
  calls.length = log.length ∧
    ∀ (i : Nat) (plug text : String), log[i]? = some (.set plug text) →
      ∃ value payload, calls[i]? = some ⟨.set plug value, .done⟩ ∧
        payload.scalar? = some value ∧ Means (known i) text payload

/-- A log stays explained if explained literals are set, and what is known stays known. -/
theorem Explained.append {known later : Nat → Reading → Prop} {calls more : List JournalEntry}
    {log events : List Event} {literals : List Channel} (explained : Explained known calls log)
    (renders : List.Forall₂ (Renders literals) more events)
    (each : ∀ channel ∈ literals, channel.Explained made)
    (old : ∀ i r, known i r → later i r) (new : ∀ i r, log.length ≤ i → made r → later i r) :
    Explained later (calls ++ more) (log ++ events) := by
  obtain ⟨lengths, settings⟩ := explained
  refine ⟨by rw [List.length_append, List.length_append, lengths, renders.length_eq], ?_⟩
  intro i plug text there
  by_cases early : i < log.length
  · rw [List.getElem?_append_left early] at there
    obtain ⟨value, payload, called, scalar, means⟩ := settings i plug text there
    refine ⟨value, payload, ?_, scalar, means.mono (old i)⟩
    rw [List.getElem?_append_left (lengths ▸ early)]
    exact called
  · have late := Nat.le_of_not_lt early
    rw [List.getElem?_append_right late] at there
    obtain ⟨entry, called, rendered⟩ := forall₂_getElem? renders.flip there
    rw [← lengths] at called
    cases rendered with
    | set plug value expression given =>
      obtain ⟨payload, means, scalar⟩ := each _ given
      refine ⟨value, payload, ?_, scalar, means.mono fun r => new i r late⟩
      rw [List.getElem?_append_right (lengths ▸ late)]
      exact called

end Trace

/-! ### Narrations -/

namespace Turn

/-- The names of the kept items that a turn uses. -/
def names : Turn → List String
  | step instruction _ => instruction.arguments.flatMap Argument.names
  | _ => []

/-- Whether the values written out in a turn are written by hand. -/
def Authored : Turn → Prop
  | step instruction _ => ∀ argument ∈ instruction.arguments, argument.Authored
  | _ => True

end Turn

/-- A session with what was kept and what was read. -/
structure Narration where
  session : Session
  items : Table Item
  /-- How many tracers have been opened. -/
  openings : Nat
  /-- The readings before the last opening. -/
  earlier : List Reading
  /-- The readings since the last opening. -/
  own : List Reading

namespace Narration

def start (host : Host) : Narration := ⟨.start host, .empty, 0, [], []⟩

def log (n : Narration) : List Trace.Event := n.session.recorder.log

/-- The narration after a turn. -/
def after (o : Options) (n : Narration) : Turn → Narration
  | .openTracer options =>
    ⟨((Program.openTracer options).exec n.session).2, n.items, n.openings + 1, n.earlier ++ n.own, []⟩
  | .closeTracer options =>
    { n with session := ((Program.closeTracer options).exec n.session).2 }
  | .step instruction name =>
    match instruction.program? o n.items with
    | none => n
    | some program =>
      { n with
        session := (program.exec n.session).2
        items := keep n.items name (program.exec n.session).1
        own := n.own ++ instruction.readings n.openings n.items n.session }

/-- The narration after several turns. -/
def run (o : Options) (n : Narration) (turns : List Turn) : Narration := turns.foldl (after o) n

theorem uses_of_authored {instruction : Instruction} {name : Option String}
    (authored : (Turn.step instruction name).Authored)
    (among : ∀ other ∈ (Turn.step instruction name).names, used other) : instruction.Uses used :=
  fun argument member => ⟨authored argument member,
    fun name inside => among name (List.mem_flatMap.mpr ⟨argument, member, inside⟩)⟩

/-- The items kept after an instruction hold values that mean their payloads. -/
theorem sourced_step (o : Options) {n : Narration} {instruction : Instruction} {name : Option String}
    (kept : SourcedUnder used made n.items) (uses : instruction.Uses used) {program : Program Item}
    (known : instruction.program? o n.items = some program) :
    SourcedUnder used
      (fun r => made r ∨ r ∈ instruction.readings n.openings n.items n.session)
      (keep n.items name (program.exec n.session).1) := by
  refine (kept.mono fun _ => Or.inl).keep name fun item given => ?_
  exact Instruction.sourced_of_exec n.openings kept uses known (Prod.ext given rfl)

/-- Whatever a narration keeps means its payload over the readings made. -/
theorem sourced_after (o : Options) {n : Narration} {turn : Turn} (authored : turn.Authored)
    (kept : SourcedUnder (fun _ => True) (· ∈ n.earlier ++ n.own) n.items) :
    SourcedUnder (fun _ => True) (· ∈ (n.after o turn).earlier ++ (n.after o turn).own)
      (n.after o turn).items := by
  cases turn with
  | openTracer options => exact kept.mono fun _ => List.mem_append_left _
  | closeTracer options => exact kept
  | step instruction name =>
    rw [after]
    split
    · exact kept
    · rename_i program known
      have uses : instruction.Uses fun _ => True := uses_of_authored authored fun _ _ => trivial
      refine (sourced_step o kept uses known).mono fun r => ?_
      simp only [List.mem_append]
      tauto

theorem sourced_run (o : Options) {n : Narration} {turns : List Turn}
    (authored : ∀ turn ∈ turns, turn.Authored)
    (kept : SourcedUnder (fun _ => True) (· ∈ n.earlier ++ n.own) n.items) :
    SourcedUnder (fun _ => True) (· ∈ (n.run o turns).earlier ++ (n.run o turns).own)
      (n.run o turns).items := by
  induction turns generalizing n with
  | nil => exact kept
  | cons turn rest inductionHypothesis =>
    rw [List.forall_mem_cons] at authored
    exact inductionHypothesis authored.2 (sourced_after o authored.1 kept)

/-- What is known at a position of the log: readings that were carried into it, and readings of its
own that it has told of. -/
def known (carried : Reading → Prop) (n : Narration) (i : Nat) (r : Reading) : Prop :=
  carried r ∨ (r ∈ n.own ∧ Trace.Tells n.openings n.log i r)

/-- A narration under a tracer that was opened at a given state of the journal. -/
structure Accounts (journal : List JournalEntry) (carried : Reading → Prop) (used : String → Prop)
    (n : Narration) : Prop where
  tracing : n.session.recorder.tracing = true
  told : ∀ r ∈ n.own, Trace.Tells n.openings n.log n.log.length r
  kept : SourcedUnder used (fun r => carried r ∨ r ∈ n.own) n.items
  explained : ∃ entries, n.session.host.journal = journal ++ entries ∧
    Trace.Explained (n.known carried) (entries.filter (·.isTraced)) n.log

theorem accounts_after (o : Options) {journal : List JournalEntry} {carried : Reading → Prop}
    {n : Narration} {turn : Turn} (accounts : n.Accounts journal carried used)
    (isStep : turn.isStep = true) (authored : turn.Authored) (among : ∀ name ∈ turn.names, used name) :
    (n.after o turn).Accounts journal carried used := by
  cases turn with
  | openTracer options => cases isStep
  | closeTracer options => cases isStep
  | step instruction name =>
    have uses := uses_of_authored authored among
    rw [after]
    split
    · exact accounts
    · rename_i program known
      obtain ⟨literals, each, tracing, more, journalled, logs⟩ :=
        Instruction.logs_of_program? accounts.kept uses known n.session
      obtain ⟨events, logged, renders⟩ := logs accounts.tracing
      obtain ⟨entries, journal, explained⟩ := accounts.explained
      have later : (program.exec n.session).2.recorder.log = n.log ++ events := logged
      have told {i j : Nat} {r : Reading} (tells : Trace.Tells n.openings n.log i r) (le : i ≤ j) :
          Trace.Tells n.openings (program.exec n.session).2.recorder.log j r := by
        rw [later]
        exact tells.append events le
      refine ⟨tracing.trans accounts.tracing, ?_, ?_, entries ++ more, ?_, ?_⟩
      · refine List.forall_mem_append.mpr
          ⟨fun r member => told (accounts.told r member) ?_,
            Instruction.tells_readings n.openings known accounts.tracing⟩
        simp [log, later]
      · exact (sourced_step o accounts.kept uses known).mono fun r => by
          simp only [List.mem_append]
          tauto
      · exact journalled.trans (by rw [journal, List.append_assoc])
      · rw [List.filter_append]
        show Trace.Explained _ _ (program.exec n.session).2.recorder.log
        rw [later]
        refine explained.append renders each ?_ ?_
        · rintro i r (given | ⟨member, tells⟩)
          · exact Or.inl given
          · exact Or.inr ⟨List.mem_append_left _ member, told tells (Nat.le_refl i)⟩
        · rintro i r late (given | member)
          · exact Or.inl given
          · exact Or.inr ⟨List.mem_append_left _ member, told (accounts.told r member) late⟩

theorem accounts_run (o : Options) {journal : List JournalEntry} {carried : Reading → Prop}
    {n : Narration} {turns : List Turn} (accounts : n.Accounts journal carried used)
    (steps : ∀ turn ∈ turns, turn.isStep = true) (authored : ∀ turn ∈ turns, turn.Authored)
    (among : ∀ turn ∈ turns, ∀ name ∈ turn.names, used name) :
    (n.run o turns).Accounts journal carried used := by
  induction turns generalizing n with
  | nil => exact accounts
  | cons turn rest inductionHypothesis =>
    rw [List.forall_mem_cons] at steps authored among
    exact inductionHypothesis (accounts_after o accounts steps.1 authored.1 among.1) steps.2
      authored.2 among.2

/-- A narration accounts for the log of a tracer that was just opened. -/
theorem accounts_openTracer (o : Options) (n : Narration) {options : TracerOptions}
    (traces : options.trace = true) {carried : Reading → Prop}
    (kept : SourcedUnder used carried n.items) :
    (n.after o (.openTracer options)).Accounts n.session.host.journal carried used where
  tracing := traces
  told := List.forall_mem_nil _
  kept := kept.mono fun _ => Or.inl
  explained := ⟨[], (List.append_nil _).symm, rfl, fun i plug text there => by cases there⟩

/-- The log of a tracer mentions the readings it tells of, and those that were carried into it. Take
any run, with tracers opened and closed in any order, in which the values that are written out are
written by hand. Whatever is kept when a tracer is opened means its payload over the readings made
so far; and over any readings that explain the kept items that are used under the tracer, together
with readings that earlier entries of the same log tell of, each under the number it has there, the
text of every setting in the log means the number that was set. -/
theorem log_explained (o : Options) (host : Host) {options : TracerOptions}
    (traces : options.trace = true) (before inside : List Turn)
    (authored : ∀ turn ∈ before ++ inside, turn.Authored)
    (steps : ∀ turn ∈ inside, turn.isStep = true) :
    ∃ opened final : Narration,
      opened = (start host).run o (before ++ [.openTracer options]) ∧
      final = opened.run o inside ∧
      Program.exec Program.tracedCommands final.session =
        (.ok ((Trace.commands final.log).map Trace.Command.text), final.session) ∧
      SourcedUnder (fun _ => True) (· ∈ opened.earlier) opened.items ∧
      ∀ carried : Reading → Prop,
        SourcedUnder (· ∈ inside.flatMap Turn.names) carried opened.items →
        ∃ entries, final.session.host.journal = opened.session.host.journal ++ entries ∧
          ∀ (i : Nat) (target : Trace.Term) (text : String),
            (Trace.commands final.log)[i]? = some (.set target text) →
            ∃ plug value payload,
              (entries.filter (·.isTraced))[i]? = some ⟨.set plug value, .done⟩ ∧
              target = Trace.plugTerm (Trace.created (final.log.take i)) plug ∧
              payload.scalar? = some value ∧
              Means (fun r => carried r ∨
                (r ∈ final.own ∧ Trace.Tells final.openings final.log i r)) text payload := by
  rw [List.forall_mem_append] at authored
  have opened : (start host).run o (before ++ [.openTracer options]) =
      ((start host).run o before).after o (.openTracer options) := List.foldl_append
  rw [opened]
  refine ⟨_, _, rfl, rfl, rfl, ?_, fun carried kept => ?_⟩
  · exact sourced_run o authored.1 fun name _ item found => nomatch found
  · have among : ∀ turn ∈ inside, ∀ name ∈ turn.names, name ∈ inside.flatMap Turn.names :=
      fun turn member name named => List.mem_flatMap.mpr ⟨turn, member, named⟩
    have accounts := accounts_run o (accounts_openTracer o ((start host).run o before) traces kept)
      steps authored.2 among
    obtain ⟨entries, journal, _, settings⟩ := accounts.explained
    refine ⟨entries, journal, fun i target text there => ?_⟩
    rw [Trace.getElem?_commands] at there
    obtain ⟨event, atEvent, isSet⟩ := Option.map_eq_some_iff.mp there
    cases event with
    | set plug written =>
      obtain ⟨value, payload, called, scalar, means⟩ := settings i plug written atEvent
      obtain ⟨rfl, rfl⟩ := Trace.Command.set.inj isSet
      exact ⟨plug, value, payload, called, rfl, scalar, means⟩
    | _ => cases isSet

/-- Reads before and under a tracer, whose sum is set. -/
theorem log_explained_sum :
    ∃ opened final : Narration,
      opened = (start (.ofScene (Scene.empty.run [.addTransform "pCube1"]) "")).run .default
        [.step (.read (.given (.node "pCube1" (.one "ry")))) (some "before"), .openTracer .default] ∧
      final = opened.run .default
        [.step (.read (.given (.node "pCube1" (.one "tx")))) (some "under"),
          .step (.combine (.arithmetic .add) (.kept "under") (.kept "before")) (some "sum"),
          .step (.setOrConnect (.given (.path "pCube1.ty")) (.kept "sum")) none] ∧
      Program.exec Program.tracedCommands final.session =
        (.ok ["val1 = get('pCube1.tx')", "set('pCube1.ty', val1 + pCube1.ry)"], final.session) ∧
      ∃ entries, final.session.host.journal = opened.session.host.journal ++ entries ∧
        ∃ plug value payload,
          (entries.filter (·.isTraced))[1]? = some ⟨.set plug value, .done⟩ ∧
          payload.scalar? = some value ∧
          Means (fun r => r ∈ opened.earlier ∨
            (r ∈ final.own ∧ Trace.Tells final.openings final.log 1 r))
            "val1 + pCube1.ry" payload := by
  obtain ⟨opened, final, isOpened, isFinal, written, kept, explained⟩ := log_explained .default
    (.ofScene (Scene.empty.run [.addTransform "pCube1"]) "")
    (show TracerOptions.default.trace = true from rfl)
    [.step (.read (.given (.node "pCube1" (.one "ry")))) (some "before")]
    [.step (.read (.given (.node "pCube1" (.one "tx")))) (some "under"),
      .step (.combine (.arithmetic .add) (.kept "under") (.kept "before")) (some "sum"),
      .step (.setOrConnect (.given (.path "pCube1.ty")) (.kept "sum")) none]
    (by simp [Turn.Authored, Instruction.arguments, Argument.Authored, Operand.values])
    (by decide)
  obtain ⟨entries, journal, settings⟩ := explained (· ∈ opened.earlier) fun name _ => kept name trivial
  have texts : (Trace.commands final.log).map Trace.Command.text =
      ["val1 = get('pCube1.tx')", "set('pCube1.ty', val1 + pCube1.ry)"] := by
    rw [isFinal, isOpened]
    decide +kernel
  have second : (Trace.commands final.log)[1]? =
      some (.set (.quoted "pCube1.ty") "val1 + pCube1.ry") := by
    rw [isFinal, isOpened]
    decide +kernel
  obtain ⟨plug, value, payload, called, _, scalar, means⟩ := settings 1 _ _ second
  exact ⟨opened, final, isOpened, isFinal, texts ▸ written, entries, journal, plug, value, payload,
    called, scalar, means⟩

/-- A value that was read under one tracer is set under the next. Its label stands for another plug
there, which is all that the log tells of. -/
theorem label_of_earlier_log :
    ∃ final : Narration,
      final = (start (.ofScene (Scene.empty.run [.addTransform "pCube1", .set "pCube1.tx" 5]) "")).run
        .default
        [.openTracer .default, .step (.read (.given (.node "pCube1" (.one "tx")))) (some "v"),
          .closeTracer .default, .openTracer .default,
          .step (.read (.given (.node "pCube1" (.one "ry")))) none,
          .step (.setOrConnect (.given (.path "pCube1.ty")) (.kept "v")) none] ∧
      Trace.texts final.log = ["val1 = get('pCube1.ry')", "set('pCube1.ty', val1)"] ∧
      final.own.map (fun r => (r.plug, r.entry)) = [("pCube1.ry", some (2, 1))] ∧
      final.earlier.map (fun r => (r.plug, r.entry)) = [("pCube1.tx", some (1, 1))] := by
  refine ⟨_, rfl, ?_, ?_, ?_⟩ <;> decide +kernel

end Narration

end FormulaNet
