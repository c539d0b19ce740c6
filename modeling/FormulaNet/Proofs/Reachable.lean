/-
This file runs sequences of changes on a scene, carried out or refused, and
draws the sum: every scene that is reached from the empty one is well-formed. It
also accounts for publications. A container publishes exactly what was
successfully exposed on it, and since the name of a node can be exposed like a
plug, what a scene publishes are plugs throughout exactly if no name of a node
was ever exposed.
-/

import FormulaNet.Proofs.Invariant
import FormulaNet.Session.Host

namespace FormulaNet.Scene

/-! ### Runs of changes -/

/-- A change that can be asked of a scene. -/
inductive Change where
  | addTransform (name : String)
  | addAttribute (node name : String) (default : Float)
  | set (plug : String) (value : Float)
  | connect (source dest : String) (force : Bool)
  | create (type name : String)
  | createContainer (name : String)
  | group (container : String) (nodes : List String)
  | expose (container plug name : String)
  | note (container text : String)

/-- The scene that a change gives, or why it is refused. -/
def Change.apply (s : Scene) : Change → Except SceneError Scene
  | addTransform name => (s.addTransform name).map (·.2)
  | addAttribute node name default => s.addAttribute node name default
  | set plug value => s.set plug value
  | connect source dest force => s.connect source dest force
  | create type name => (s.create type name).map (·.2)
  | createContainer name => (s.createContainer name).map (·.2)
  | group container nodes => s.group container nodes
  | expose container plug name => s.expose container plug name
  | note container text => s.setNote container text

/-- The scene after a change was asked for. -/
def after (s : Scene) (change : Change) : Scene :=
  match change.apply s with
  | .ok changed => changed
  | .error _ => s

/-- The scene after several changes were asked for, one after the other. -/
def run (s : Scene) (changes : List Change) : Scene := changes.foldl after s

/-- The scenes that can be built. -/
def Reachable (s : Scene) : Prop := ∃ changes, s = empty.run changes

theorem after_eq_of_ok {s changed : Scene} {change : Change} (done : change.apply s = .ok changed) :
    s.after change = changed := by
  rw [after, done]

theorem pair_of_map_snd {made : Except SceneError (String × Scene)} {changed : Scene}
    (mapped : made.map (·.2) = .ok changed) : ∃ name, made = .ok (name, changed) := by
  cases made with
  | error e => cases mapped
  | ok pair => exact ⟨pair.1, by rw [← Except.ok.inj mapped]⟩

/-- A change that is carried out keeps the invariant. -/
theorem WellFormed.apply {s changed : Scene} (wf : s.WellFormed) {change : Change}
    (done : change.apply s = .ok changed) : changed.WellFormed := by
  cases change with
  | addTransform name =>
    obtain ⟨assigned, made⟩ := pair_of_map_snd done
    exact wf.create (addTransform_eq_ok made)
  | addAttribute node name default => exact wf.addAttribute done
  | set plug value => exact wf.set done
  | connect source dest force => exact wf.connect done
  | create type name =>
    obtain ⟨assigned, made⟩ := pair_of_map_snd done
    exact wf.create made
  | createContainer name =>
    obtain ⟨assigned, made⟩ := pair_of_map_snd done
    exact wf.createContainer made
  | group container nodes => exact wf.group done
  | expose container plug name => exact wf.expose done
  | note container text => exact wf.setNote done

theorem WellFormed.after {s : Scene} (wf : s.WellFormed) (change : Change) :
    (s.after change).WellFormed := by
  rw [Scene.after]
  split
  · rename_i done
    exact wf.apply done
  · exact wf

theorem WellFormed.run {s : Scene} (wf : s.WellFormed) (changes : List Change) :
    (s.run changes).WellFormed := by
  induction changes generalizing s with
  | nil => exact wf
  | cons change rest inductionHypothesis => exact inductionHypothesis (wf.after change)

theorem Reachable.wellFormed {s : Scene} (reachable : s.Reachable) : s.WellFormed := by
  obtain ⟨changes, rfl⟩ := reachable
  exact wellFormed_empty.run changes

/-! ### What holds of every node -/

section Nodes

variable {P : Node → Prop}
  (created : ∀ name type layout, Layout.ofType? type = some layout → P ⟨name, type, layout⟩)
  (extended : ∀ n name default, P n →
    P { n with layout := n.layout ++ [.scalar name none default] })
include created extended

/-- What holds of new nodes and of nodes with one attribute more outlasts a change. -/
theorem forall_nodes_apply {s changed : Scene} (all : ∀ n ∈ s.nodes, P n) {change : Change}
    (done : change.apply s = .ok changed) : ∀ n ∈ changed.nodes, P n := by
  have adding {type name assigned : String} {after : Scene}
      (made : s.create type name = .ok (assigned, after)) : ∀ n ∈ after.nodes, P n := by
    obtain ⟨layout, known, rfl⟩ := create_withNode made
    exact List.forall_mem_append.mpr
      ⟨all, List.forall_mem_singleton.mpr (created assigned type layout known)⟩
  cases change with
  | addTransform name =>
    obtain ⟨_, made⟩ := pair_of_map_snd done
    exact adding (addTransform_eq_ok made)
  | addAttribute node name default =>
    obtain ⟨_, _, _, _, _, rfl⟩ := addAttribute_eq_ok done
    refine List.forall_mem_map.mpr fun n member => ?_
    split
    · exact extended n name default (all n member)
    · exact all n member
  | set plug value =>
    obtain ⟨_, _, _, _, rfl⟩ := set_eq_ok done
    exact all
  | connect source dest force =>
    obtain ⟨_, _, _, _, _, _, _, _, _, rfl⟩ := connect_eq_ok done
    exact all
  | create type name =>
    obtain ⟨_, made⟩ := pair_of_map_snd done
    exact adding made
  | createContainer name =>
    obtain ⟨_, made⟩ := pair_of_map_snd done
    obtain ⟨_, first, rfl⟩ := createContainer_eq_ok made
    have withContainer := adding first
    exact withContainer
  | group container nodes =>
    obtain ⟨_, _, _, rfl⟩ := group_eq_ok done
    exact all
  | expose container plug name =>
    obtain ⟨_, _, _, rfl⟩ := expose_eq_ok done
    exact all
  | note container text =>
    obtain ⟨_, _, rfl⟩ := editContainer_eq_ok done
    exact all

theorem forall_nodes_run {s : Scene} (all : ∀ n ∈ s.nodes, P n) (changes : List Change) :
    ∀ n ∈ (s.run changes).nodes, P n := by
  induction changes generalizing s with
  | nil => exact all
  | cons change rest inductionHypothesis =>
    refine inductionHypothesis ?_
    rw [after]
    split
    · rename_i done
      exact forall_nodes_apply created extended all done
    · exact all

/-- What holds of new nodes and outlasts new attributes holds of every node that can be built. -/
theorem Reachable.forall_nodes {s : Scene} (reachable : s.Reachable) : ∀ n ∈ s.nodes, P n := by
  obtain ⟨changes, rfl⟩ := reachable
  exact forall_nodes_run created extended (List.forall_mem_nil _) changes

end Nodes

/-! ### Publications -/

/-- Everything that containers publish. -/
def published (s : Scene) : List (String × String) :=
  s.containers.entries.flatMap (·.2.published)

/-- What one container publishes. -/
def publishedBy (s : Scene) (container : String) : List (String × String) :=
  ((s.containers.find? container).map (·.published)).getD []

theorem mem_published_iff {s : Scene} (ordered : s.containers.Ordered)
    (publication : String × String) :
    publication ∈ s.published ↔ ∃ container, publication ∈ s.publishedBy container := by
  rw [published, List.mem_flatMap]
  constructor
  · rintro ⟨⟨container, record⟩, member, inside⟩
    refine ⟨container, ?_⟩
    rw [publishedBy, (ordered.mem_entries_iff _ _).mp member]
    exact inside
  · rintro ⟨container, inside⟩
    rw [publishedBy] at inside
    cases found : s.containers.find? container with
    | none => simp [found] at inside
    | some record =>
      rw [found] at inside
      exact ⟨(container, record), (ordered.mem_entries_iff _ _).mpr found, inside⟩

/-- Of a record that is put in, what it publishes more than the one before comes in; the rest
stays. -/
theorem mem_published_insert_iff {s : Scene} (ordered : s.containers.Ordered)
    {container : String} {record : Container} (more : List (String × String))
    (extended : record.published = s.publishedBy container ++ more)
    (publication : String × String) :
    publication ∈ published { s with containers := s.containers.insert container record } ↔
      publication ∈ s.published ∨ publication ∈ more := by
  rw [mem_published_iff (ordered.insert _ _), mem_published_iff ordered]
  have self : publishedBy { s with containers := s.containers.insert container record } container
      = s.publishedBy container ++ more := by
    rw [publishedBy, Table.find?_insert_self, Option.map_some, Option.getD_some, extended]
  have others {other : String} (different : other ≠ container) :
      publishedBy { s with containers := s.containers.insert container record } other
        = s.publishedBy other := by
    rw [publishedBy, Table.find?_insert_other _ different, publishedBy]
  constructor
  · rintro ⟨other, inside⟩
    by_cases same : other = container
    · rw [same, self] at inside
      exact (List.mem_append.mp inside).imp (fun old => ⟨container, old⟩) id
    · rw [others same] at inside
      exact Or.inl ⟨other, inside⟩
  · rintro (⟨other, inside⟩ | new)
    · refine ⟨other, ?_⟩
      by_cases same : other = container
      · rw [same, self]
        exact List.mem_append_left _ (same ▸ inside)
      · rw [others same]
        exact inside
    · exact ⟨container, by rw [self]; exact List.mem_append_right _ new⟩

theorem publishedBy_of_find? {s : Scene} {container : String} {record : Container}
    (found : s.containers.find? container = some record) :
    s.publishedBy container = record.published := by
  rw [publishedBy, found, Option.map_some, Option.getD_some]

/-- Containers publish nothing before they are there. -/
theorem WellFormed.publishedBy_of_not_mem {s : Scene} (wf : s.WellFormed) {container : String}
    (absent : container ∉ s.nodeNames) : s.publishedBy container = [] := by
  rw [publishedBy]
  cases found : s.containers.find? container with
  | none => rfl
  | some record =>
    obtain ⟨n, there, _⟩ := Option.map_eq_some_iff.mp (wf.contains found).type
    exact absurd ((s.node?_isSome_iff container).mp (by rw [there]; rfl)) absent

/-- What is published comes from exposing it. -/
theorem WellFormed.mem_published_apply_iff {s changed : Scene} (wf : s.WellFormed)
    {change : Change} (done : change.apply s = .ok changed) (publication : String × String) :
    publication ∈ changed.published ↔
      publication ∈ s.published ∨
        ∃ container, change = .expose container publication.1 publication.2 := by
  have nothing {change : Change}
      (other : ∀ container plug name, change ≠ .expose container plug name)
      (same : publication ∈ changed.published ↔ publication ∈ s.published) :
      publication ∈ changed.published ↔ publication ∈ s.published ∨
        ∃ container, change = .expose container publication.1 publication.2 := by
    rw [same]
    constructor
    · exact Or.inl
    · rintro (old | ⟨container, exposed⟩)
      · exact old
      · exact absurd exposed (other _ _ _)
  have edited {container : String} {record old : Container}
      (found : s.containers.find? container = some old)
      (now : changed = { s with containers := s.containers.insert container record })
      (same : record.published = old.published) :
      publication ∈ changed.published ↔ publication ∈ s.published := by
    rw [now, mem_published_insert_iff wf.ordered.containers []
      (by rw [publishedBy_of_find? found, same, List.append_nil])]
    exact or_iff_left List.not_mem_nil
  cases change with
  | addTransform name =>
    refine nothing (by simp) ?_
    obtain ⟨assigned, made⟩ := pair_of_map_snd done
    obtain ⟨_, _, _, _, _, rfl⟩ := create_eq_ok (addTransform_eq_ok made)
    exact Iff.rfl
  | addAttribute node name default =>
    refine nothing (by simp) ?_
    obtain ⟨_, _, _, _, _, rfl⟩ := addAttribute_eq_ok done
    exact Iff.rfl
  | set plug value =>
    refine nothing (by simp) ?_
    obtain ⟨_, _, _, _, rfl⟩ := set_eq_ok done
    exact Iff.rfl
  | connect source dest force =>
    refine nothing (by simp) ?_
    obtain ⟨_, _, _, _, _, _, _, _, _, rfl⟩ := connect_eq_ok done
    exact Iff.rfl
  | create type name =>
    refine nothing (by simp) ?_
    obtain ⟨assigned, made⟩ := pair_of_map_snd done
    obtain ⟨_, _, _, _, _, rfl⟩ := create_eq_ok made
    exact Iff.rfl
  | createContainer name =>
    refine nothing (by simp) ?_
    obtain ⟨assigned, made⟩ := pair_of_map_snd done
    obtain ⟨created, first, rfl⟩ := createContainer_eq_ok made
    obtain ⟨layout, _, _, _, rfl, rfl⟩ := create_eq_ok first
    have none := wf.publishedBy_of_not_mem (s.uniqueName_not_mem name)
    rw [mem_published_insert_iff (wf.create first).ordered.containers []
      (by rw [List.append_nil]; exact none.symm)]
    exact or_iff_left List.not_mem_nil
  | group container nodes =>
    refine nothing (by simp) ?_
    obtain ⟨_, record, found, now⟩ := group_eq_ok done
    exact edited found now rfl
  | expose container plug name =>
    obtain ⟨_, record, found, rfl⟩ := expose_eq_ok done
    rw [mem_published_insert_iff wf.ordered.containers [(plug, name)]
      (by rw [publishedBy_of_find? found]), List.mem_singleton]
    refine or_congr_right ⟨?_, ?_⟩
    · rintro rfl
      exact ⟨container, rfl⟩
    · rintro ⟨_, exposed⟩
      cases exposed
      rfl
  | note container text =>
    refine nothing (by simp) ?_
    obtain ⟨record, found, now⟩ := editContainer_eq_ok done
    exact edited found now rfl

theorem WellFormed.mem_published_after_iff {s : Scene} (wf : s.WellFormed) (change : Change)
    (publication : String × String) :
    publication ∈ (s.after change).published ↔
      publication ∈ s.published ∨
        ∃ container changed, change = .expose container publication.1 publication.2 ∧
          s.expose container publication.1 publication.2 = .ok changed := by
  rw [Scene.after]
  split
  · rename_i changed done
    rw [wf.mem_published_apply_iff done]
    refine or_congr_right ⟨?_, ?_⟩
    · rintro ⟨container, rfl⟩
      exact ⟨container, changed, rfl, done⟩
    · rintro ⟨container, _, exposed, _⟩
      exact ⟨container, exposed⟩
  · rename_i e refused
    constructor
    · exact Or.inl
    · rintro (old | ⟨container, changed, rfl, done⟩)
      · exact old
      · rw [show s.expose container publication.1 publication.2 = .error e from refused] at done
        cases done

/-- What is published after a run was published before it or exposed in it. -/
theorem WellFormed.mem_published_run_iff {s : Scene} (wf : s.WellFormed) (changes : List Change)
    (publication : String × String) :
    publication ∈ (s.run changes).published ↔
      publication ∈ s.published ∨
        ∃ before container later changed,
          changes = before ++ .expose container publication.1 publication.2 :: later ∧
            (s.run before).expose container publication.1 publication.2 = .ok changed := by
  induction changes generalizing s with
  | nil =>
    show publication ∈ s.published ↔ _
    simp
  | cons change rest inductionHypothesis =>
    rw [show s.run (change :: rest) = (s.after change).run rest from rfl,
      inductionHypothesis (wf.after change), wf.mem_published_after_iff, or_assoc]
    refine or_congr_right ⟨?_, ?_⟩
    · rintro (⟨container, changed, rfl, done⟩ | ⟨before, container, later, changed, rfl, done⟩)
      · exact ⟨[], container, rest, changed, rfl, done⟩
      · exact ⟨change :: before, container, later, changed, rfl, done⟩
    · rintro ⟨before, container, later, changed, split, done⟩
      cases before with
      | nil =>
        obtain ⟨rfl, rfl⟩ := List.cons.inj split
        exact Or.inl ⟨container, changed, rfl, done⟩
      | cons first before =>
        obtain ⟨rfl, rfl⟩ := List.cons.inj split
        exact Or.inr ⟨before, container, later, changed, rfl, done⟩

/-- What is published exists, so that it is a plug exactly if it reads as one. -/
theorem WellFormed.isPlug_iff_of_published {s : Scene} (wf : s.WellFormed)
    {publication : String × String} (inside : publication ∈ s.published) :
    (s.place? publication.1).isSome ↔ (Plug.split? publication.1).isSome := by
  obtain ⟨entry, member, listed⟩ := List.mem_flatMap.mp inside
  have there := (s.has_iff _).mp ((wf.contained entry member).published publication listed)
  constructor
  · intro isPlug
    obtain ⟨found, place⟩ := Option.isSome_iff_exists.mp isPlug
    obtain ⟨attr, n, split, _⟩ := (s.place?_eq_some_iff _ _ _).mp place
    rw [split]
    rfl
  · intro reads
    rcases there with isPlug | ⟨unread, _⟩
    · exact isPlug
    · rw [unread] at reads
      cases reads

/-! ### Refused calls -/

theorem take_scene_of_error {α : Type} {h after : Host} {call : Call} {report : α → Outcome}
    {change : Scene → Except SceneError (α × Scene)} {e : HostError}
    (refused : h.take call report change = (.error e, after)) : after.scene = h.scene := by
  rw [Host.take] at refused
  split at refused
  · rw [← (Prod.mk.inj refused).2]
  · split at refused
    · rw [← (Prod.mk.inj refused).2]
    · cases (Prod.mk.inj refused).1

/-- Every scene that can be built is well-formed. What its containers publish are existing plugs
throughout exactly if no run of changes has exposed a text that is no plug path, which succeeds for
the name of a node. That a node is found exactly under the names in the list of nodes, and that what
is refused leaves the scene as it was, holds by the way scenes and changes are given: nodes are kept
in that list, and a refused change has an error in the place of a scene. -/
theorem run_empty_wellFormed_publishing (changes : List Change) :
    (empty.run changes).WellFormed ∧
      (∀ name, ((empty.run changes).node? name).isSome ↔
        name ∈ (empty.run changes).nodeNames) ∧
      ((∀ publication ∈ (empty.run changes).published,
          ((empty.run changes).place? publication.1).isSome) ↔
        ∀ before container text name later,
          changes = before ++ .expose container text name :: later →
          Plug.split? text = none →
          ∃ e, (empty.run before).expose container text name = .error e) ∧
      (∀ change e, change.apply (empty.run changes) = .error e →
        (empty.run changes).after change = empty.run changes) ∧
      ∀ {α : Type} (h after : Host) (call : Call) (report : α → Outcome)
        (change : Scene → Except SceneError (α × Scene)) (e : HostError),
        h.take call report change = (.error e, after) → after.scene = h.scene := by
  have wf := wellFormed_empty.run changes
  refine ⟨wf, fun name => node?_isSome_iff _ name, ⟨?_, ?_⟩, ?_, ?_⟩
  · intro plugs before container text name later split noPlug
    cases done : (empty.run before).expose container text name with
    | error e => exact ⟨e, rfl⟩
    | ok changed =>
      have inside := (wellFormed_empty.mem_published_run_iff changes (text, name)).mpr
        (Or.inr ⟨before, container, later, changed, split, done⟩)
      have reads := (wf.isPlug_iff_of_published inside).mp (plugs _ inside)
      rw [noPlug] at reads
      cases reads
  · intro refused publication inside
    refine (wf.isPlug_iff_of_published inside).mpr ?_
    rcases (wellFormed_empty.mem_published_run_iff changes publication).mp inside with
      old | ⟨before, container, later, changed, split, done⟩
    · cases old
    · cases reads : Plug.split? publication.1 with
      | some pair => rfl
      | none =>
        obtain ⟨e, failed⟩ := refused _ _ _ _ _ split reads
        rw [done] at failed
        cases failed
  · intro change e refused
    rw [after, refused]
  · intro α h after call report change e refused
    exact take_scene_of_error refused

end FormulaNet.Scene
