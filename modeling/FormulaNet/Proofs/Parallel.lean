/-
This file runs two programs side by side. Which results and which errors count as
the same is a parameter: two outcomes agree when both are results that stand in
one given relation, or both are errors that stand in another. Two programs go in
step if from related sessions they come to agreeing outcomes and to related
sessions again; this is carried through sequences, through lists of links, and
through wirings, where the plan of one side is the plan of the other as long as
channels that stand for each other are the same strands.
-/

import FormulaNet.Proofs.Program

namespace FormulaNet

/-! ### Outcomes -/

/-- Two outcomes of one form: results that `Q` relates, or errors that `E` relates. -/
inductive Both {α β : Type} (E : Error → Error → Prop) (Q : α → β → Prop) :
    Except Error α → Except Error β → Prop where
  | ok {a : α} {b : β} (related : Q a b) : Both E Q (.ok a) (.ok b)
  | error {e f : Error} (related : E e f) : Both E Q (.error e) (.error f)

/-- Errors of one kind, whatever they tell. -/
def Error.SameKind (e f : Error) : Prop := e.kind = f.kind

theorem Error.SameKind.refl (e : Error) : e.SameKind e := rfl

/-- Two outcomes of one kind: related results, or errors of one kind. -/
abbrev Agree {α β : Type} (Q : α → β → Prop) : Except Error α → Except Error β → Prop :=
  Both Error.SameKind Q

namespace Both

variable {α β : Type} {E : Error → Error → Prop} {Q : α → β → Prop}

theorem imp {x : Except Error α} {y : Except Error β} {F : Error → Error → Prop}
    {P : α → β → Prop} (errors : ∀ e f, E e f → F e f) (results : ∀ a b, Q a b → P a b)
    (both : Both E Q x y) : Both F P x y := by
  cases both with
  | ok related => exact .ok (results _ _ related)
  | error related => exact .error (errors _ _ related)

theorem refl (errors : ∀ e, E e e) (x : Except Error α) : Both E Eq x x := by
  cases x with
  | ok a => exact .ok rfl
  | error e => exact .error (errors e)

theorem eq {x y : Except Error α} (both : Both Eq Eq x y) : x = y := by
  cases both with
  | ok related => exact congrArg _ related
  | error related => exact congrArg _ related

end Both

/-- Outcomes that a function of their results makes equal. -/
theorem Agree.of_map_eq {α β : Type} {f : α → β} {x y : Except Error α}
    (same : x.map f = y.map f) : Agree (fun a b => f a = f b) x y := by
  cases x with
  | ok a =>
    cases y with
    | ok b => exact .ok (Except.ok.inj same)
    | error e => cases same
  | error e =>
    cases y with
    | ok b => cases same
    | error f => exact .error (congrArg Error.kind (Except.error.inj same))

namespace Program

/-! ### Programs side by side -/

/-- Two programs, each from a session of its own, come to agreeing outcomes and to related
sessions. -/
def Abreast {α β : Type} (E : Error → Error → Prop) (R : Session → Session → Prop)
    (Q : α → β → Prop) (program : Program α) (other : Program β) (s t : Session) : Prop :=
  Both E Q (exec program s).1 (exec other t).1 ∧ R (exec program s).2 (exec other t).2

/-- From related sessions, two programs come to agreeing outcomes and to related sessions. -/
def InStep {α β : Type} (E : Error → Error → Prop) (R : Session → Session → Prop)
    (Q : α → β → Prop) (program : Program α) (other : Program β) : Prop :=
  ∀ s t, R s t → Abreast E R Q program other s t

/-- Programs in step whose errors agree if they are of one kind. -/
abbrev Parallel {α β : Type} (R : Session → Session → Prop) (Q : α → β → Prop)
    (program : Program α) (other : Program β) : Prop :=
  InStep Error.SameKind R Q program other

variable {α β γ δ : Type} {E : Error → Error → Prop} {R : Session → Session → Prop}
  {Q : α → β → Prop} {P : γ → δ → Prop}

/-- What follows two programs that are abreast may use how each of them ran. -/
theorem Abreast.bind {program : Program α} {other : Program β} {next : α → Program γ}
    {nextOther : β → Program δ} {s t : Session} (first : Abreast E R Q program other s t)
    (rest : ∀ a b after afterOther, exec program s = (.ok a, after) →
      exec other t = (.ok b, afterOther) → Q a b → R after afterOther →
      Abreast E R P (next a) (nextOther b) after afterOther) :
    Abreast E R P (program >>= next) (other >>= nextOther) s t := by
  obtain ⟨outcomes, sessions⟩ := first
  rw [Abreast, exec_bind, exec_bind]
  rcases run : exec program s with ⟨answer, after⟩
  rcases runOther : exec other t with ⟨answerOther, afterOther⟩
  rw [run, runOther] at outcomes sessions
  cases outcomes with
  | ok related => exact rest _ _ after afterOther run runOther related sessions
  | error related => exact ⟨.error related, sessions⟩

/-- Programs that go on from one result. -/
theorem Abreast.bind_eq {program other : Program α} {next : α → Program γ}
    {nextOther : α → Program δ} {s t : Session} (first : Abreast E R Eq program other s t)
    (rest : ∀ a after afterOther, exec program s = (.ok a, after) → R after afterOther →
      Abreast E R P (next a) (nextOther a) after afterOther) :
    Abreast E R P (program >>= next) (other >>= nextOther) s t := by
  refine first.bind ?_
  rintro a _ after afterOther run _ rfl sessions
  exact rest a after afterOther run sessions

namespace InStep

theorem pure {a : α} {b : β} (related : Q a b) :
    InStep E R Q (pure a : Program α) (pure b : Program β) :=
  fun _ _ sessions => ⟨.ok related, sessions⟩

theorem throw {e f : Error} (related : E e f) :
    InStep E R Q (throw e : Program α) (throw f : Program β) :=
  fun _ _ sessions => ⟨.error related, sessions⟩

theorem bind {program : Program α} {other : Program β} {next : α → Program γ}
    {nextOther : β → Program δ} (first : InStep E R Q program other)
    (rest : ∀ a b, Q a b → InStep E R P (next a) (nextOther b)) :
    InStep E R P (program >>= next) (other >>= nextOther) :=
  fun s t sessions => (first s t sessions).bind fun a b _ _ _ _ related => rest a b related _ _

theorem bind_eq {program other : Program α} {next : α → Program γ} {nextOther : α → Program δ}
    (first : InStep E R Eq program other)
    (rest : ∀ a, InStep E R P (next a) (nextOther a)) :
    InStep E R P (program >>= next) (other >>= nextOther) :=
  fun s t sessions => (first s t sessions).bind_eq fun a _ _ _ => rest a _ _

theorem look {answer : Scene → Except Error α} {answerOther : Scene → Except Error β}
    (answers : ∀ s t, R s t → Both E Q (answer s.scene) (answerOther t.scene)) :
    InStep E R Q (look answer) (look answerOther) := by
  intro s t sessions
  rw [Abreast, exec_look, exec_look]
  exact ⟨answers s t sessions, sessions⟩

theorem get : InStep E R R get get := fun _ _ sessions => ⟨.ok sessions, sessions⟩

theorem scene {S : Scene → Scene → Prop} (scenes : ∀ s t, R s t → S s.scene t.scene) :
    InStep E R S scene scene :=
  fun s t sessions => ⟨.ok (scenes s t sessions), sessions⟩

/-- Taking the outcomes of programs in step is in step. -/
theorem outcome {program : Program α} {other : Program β} (inStep : InStep E R Q program other) :
    InStep E R (Both E Q) (outcome program) (outcome other) := by
  intro s t sessions
  obtain ⟨outcomes, after⟩ := inStep s t sessions
  exact ⟨.ok outcomes, after⟩

/-- Edits that keep sessions related. -/
theorem modify {edit editOther : Session → Session}
    (edits : ∀ s t, R s t → R (edit s) (editOther t)) :
    InStep E R Eq (modify edit) (modify editOther) :=
  fun s t sessions => ⟨.ok rfl, edits s t sessions⟩

end InStep

end Program

/-! ### Plans side by side -/

/-- Links whose ends stand for each other. -/
structure Link.Matches (C : Channel → Channel → Prop) (link other : Link) : Prop where
  target : C link.target other.target
  source : C link.source other.source

theorem Link.pair?_matches {C : Channel → Channel → Prop}
    {targets targetsOther sources sourcesOther : List Channel}
    (alikeTargets : List.Forall₂ C targets targetsOther)
    (alikeSources : List.Forall₂ C sources sourcesOther) :
    Option.Rel (List.Forall₂ (Link.Matches C)) (Link.pair? targets sources)
      (Link.pair? targetsOther sourcesOther) := by
  have lengths := alikeTargets.length_eq
  have lengthsSources := alikeSources.length_eq
  have zipped : List.Forall₂ (Link.Matches C) (List.zipWith Link.mk targets sources)
      (List.zipWith Link.mk targetsOther sourcesOther) := by
    clear lengths lengthsSources
    induction alikeTargets generalizing sources sourcesOther with
    | nil => simp
    | cons target _ inductionHypothesis =>
      cases alikeSources with
      | nil => simp
      | cons source others => exact .cons ⟨target, source⟩ (inductionHypothesis others)
  have empty : targets = [] ↔ targetsOther = [] := by
    rw [← List.length_eq_zero_iff, lengths, List.length_eq_zero_iff]
  unfold Link.pair?
  by_cases equal : targets.length = sources.length ∧ targets ≠ []
  · have equalOther : targetsOther.length = sourcesOther.length ∧ targetsOther ≠ [] := by
      rwa [← lengths, ← lengthsSources, ne_eq, ← empty]
    rw [if_pos equal, if_pos equalOther]
    exact .some zipped
  · have unequalOther : ¬(targetsOther.length = sourcesOther.length ∧ targetsOther ≠ []) := by
      rwa [← lengths, ← lengthsSources, ne_eq, ← empty]
    rw [if_neg equal, if_neg unequalOther]
    cases alikeSources with
    | nil => exact .none
    | cons source others =>
      cases others with
      | cons _ _ => exact .none
      | nil =>
        dsimp only
        rw [← lengths]
        split
        · refine .some ?_
          rw [List.forall₂_map_left_iff, List.forall₂_map_right_iff]
          exact alikeTargets.imp fun _ _ target => ⟨target, source⟩
        · exact .none

namespace Scene

variable {s : Scene} {C : Channel → Channel → Prop}
  (strands : ∀ channel other, C channel other → s.strand? channel = s.strand? other)
include strands

/-- Channels that are the same strands collapse into the same compound. -/
theorem collapse?_eq_of_strands {channels others : List Channel}
    (alike : List.Forall₂ C channels others) : s.collapse? channels = s.collapse? others := by
  have mapped : channels.mapM s.strand? = others.mapM s.strand? := by
    induction alike with
    | nil => rfl
    | cons head _ inductionHypothesis =>
      rw [List.mapM_cons, List.mapM_cons, strands _ _ head, inductionHypothesis]
  rw [collapse?, collapse?, mapped]

theorem plan_matches (plugs : ∀ text, C (.plug text) (.plug text)) (ceiling : Nat)
    {targets targetsOther sources sourcesOther : List Channel}
    (alikeTargets : List.Forall₂ C targets targetsOther)
    (alikeSources : List.Forall₂ C sources sourcesOther) :
    Both Eq (List.Forall₂ (Link.Matches C)) (s.plan ceiling targets sources)
      (s.plan ceiling targetsOther sourcesOther) := by
  rw [plan, plan, ← alikeTargets.length_eq, ← alikeSources.length_eq]
  split
  · exact .error rfl
  · have paired := Link.pair?_matches alikeTargets alikeSources
    rcases first : Link.pair? targets sources with _ | pairs <;>
      rcases second : Link.pair? targetsOther sourcesOther with _ | pairsOther <;>
      rw [first, second] at paired <;> cases paired
    · exact .error rfl
    · rename_i matched
      refine .ok ?_
      have targets : List.Forall₂ C (pairs.map (·.target)) (pairsOther.map (·.target)) := by
        rw [List.forall₂_map_left_iff, List.forall₂_map_right_iff]
        exact matched.imp fun _ _ links => links.target
      have sources : List.Forall₂ C (pairs.map (·.source)) (pairsOther.map (·.source)) := by
        rw [List.forall₂_map_left_iff, List.forall₂_map_right_iff]
        exact matched.imp fun _ _ links => links.source
      rw [collapseLinks, collapseLinks, collapse?_eq_of_strands strands targets,
        collapse?_eq_of_strands strands sources]
      split
      · exact .cons ⟨plugs _, plugs _⟩ .nil
      · exact matched

end Scene

/-! ### Wirings side by side -/

namespace Program

variable {E : Error → Error → Prop} {R : Session → Session → Prop}
  {C : Channel → Channel → Prop} {o : Options}

/-- Links are made in step if each of them is. -/
theorem InStep.wireLinks {force : Bool} {links others : List Link}
    (matched : List.Forall₂ (Link.Matches C) links others)
    (each : ∀ link other, Link.Matches C link other →
      InStep E R Eq (wireLink force link) (wireLink force other)) :
    InStep E R Eq (wireLinks force links) (wireLinks force others) := by
  induction matched with
  | nil => exact .pure rfl
  | cons head _ inductionHypothesis => exact .bind (each _ _ head) fun _ _ _ => inductionHypothesis

/-- Wirings go in step where the scenes are the same, channels that stand for each other are the
same strands, and links between such channels are made in step. -/
theorem InStep.wire (errors : ∀ e, E e e) (scenes : ∀ s t, R s t → s.scene = t.scene)
    (plugs : ∀ text, C (.plug text) (.plug text))
    (strands : ∀ s t, R s t → ∀ channel other, C channel other →
      s.scene.strand? channel = s.scene.strand? other)
    (each : ∀ link other, Link.Matches C link other →
      InStep E R Eq (wireLink o.force link) (wireLink o.force other))
    {targets targetsOther sources sourcesOther : List Channel}
    (alikeTargets : List.Forall₂ C targets targetsOther)
    (alikeSources : List.Forall₂ C sources sourcesOther) :
    InStep E R Eq (wire o targets sources) (wire o targetsOther sourcesOther) := by
  refine .bind (.look fun s t sessions => ?_) fun links others matched => .wireLinks matched each
  rw [← scenes s t sessions]
  refine (Scene.plan_matches (strands s t sessions) plugs o.ceiling alikeTargets
    alikeSources).imp ?_ fun _ _ matched => matched
  rintro e _ rfl
  exact errors e

end Program

end FormulaNet
