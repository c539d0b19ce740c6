/-
This file says which published plugs are confused. Whatever happens in a session
with its container scopes, the names of the nodes it collects are made up by it,
and a plug that it publishes is spelled in its canonical way, stands on a node
that it collected, and is published under its own letters and digits. So two
plugs in the record of a container have one name exactly if their nodes and
their paths have the same letters and digits. Then their nodes are named alike
up to underscores; and if it is one node, at least one of the plugs was added to
it by a user, since those that the type of a node brings along are told apart.
Publications that were written past the session are another matter.
-/

import FormulaNet.Proofs.Holding
import FormulaNet.Proofs.Legible
import FormulaNet.Proofs.NewAttribute
import FormulaNet.Proofs.Population

namespace FormulaNet

/-! ### Names of collected nodes -/

/-- The name of a new node is the requested one, or that with a number behind it. -/
theorem Scene.named_of_create {s after : Scene} {type given name node : String}
    (plain : name.toList.all Plug.isNameChar = true)
    (made : s.create type (given ++ name) = .ok (node, after)) : Plug.Named given node := by
  obtain ⟨_, _, _, _, rfl, _⟩ := create_eq_ok made
  rcases List.mem_cons.mp (s.uniqueName_mem_candidates (given ++ name)) with same | numbered
  · exact ⟨name, same, plain⟩
  · obtain ⟨k, _, equal⟩ := List.mem_map.mp numbered
    refine ⟨name ++ toString (k + 1), ?_, ?_⟩
    · rw [← equal, String.append_assoc]
    · rw [String.toList_append, List.all_append, plain, Bool.true_and, List.all_eq_true]
      intro c member
      rw [Plug.isNameChar, Char.isAlphanum, Number.isDigit_of_mem_toString member]
      simp

/-- What a session collects besides are nodes whose names it made up. -/
structure Session.Names (s after : Session) : Prop where
  given : after.host.namePrefix = s.host.namePrefix
  collected : ∀ node ∈ after.recorder.collected,
    node ∈ s.recorder.collected ∨ Plug.Named s.host.namePrefix node

namespace Session

theorem names_of_same {s after : Session} (given : after.host.namePrefix = s.host.namePrefix)
    (collected : after.recorder.collected = s.recorder.collected) : Names s after :=
  ⟨given, fun _ member => Or.inl (collected ▸ member)⟩

theorem lasting_names : Program.Lasting Names where
  refl _ := names_of_same rfl rfl
  trans := by
    rintro s t u ⟨given, collected⟩ ⟨givenLater, collectedLater⟩
    refine ⟨givenLater.trans given, fun node member => ?_⟩
    rcases collectedLater node member with old | new
    · exact collected node old
    · exact Or.inr (given ▸ new)

end Session

namespace Program

open Session

theorem names_call {α : Type} (c : Call) (report : α → Outcome)
    (change : Scene → Except SceneError (α × Scene)) : Respects Names (call c report change) := by
  intro s
  rcases exec_call_cases c report change s with
    ⟨e, fault, message, run⟩ | ⟨a, scene, fault, _, run⟩
  · rw [run]
    exact names_of_same rfl rfl
  · rw [run]
    exact names_of_same rfl rfl

theorem names_record (event : Trace.Event) : Respects Names (record event) :=
  fun s => names_of_same rfl (s.recorder.collected_record event)

theorem names_create {type name : String} (plain : name.toList.all Plug.isNameChar = true) :
    Respects Names (create type name) := by
  intro s
  rcases exec_create_cases type name s with
    ⟨e, fault, message, run⟩ | ⟨node, scene, fault, made, run⟩
  · rw [run]
    exact names_of_same rfl rfl
  · rw [run]
    refine ⟨rfl, fun other member => ?_⟩
    change other ∈ ((s.recorder.collect node).record (.create node type)).collected at member
    rw [Recorder.collected_record, Recorder.collect] at member
    split at member
    · rcases List.mem_append.mp member with old | new
      · exact Or.inl old
      · rw [List.mem_singleton.mp new]
        exact Or.inr (Scene.named_of_create plain made)
    · exact Or.inl member

theorem covers_names (force : Bool) : Covers force (fun _ => True) Names where
  toLasting := lasting_names
  create _ _ plain := names_create plain
  setPlug _ _ _ _ := lasting_names.bind (names_call _ _ _) fun _ => names_record _
  connect _ _ := lasting_names.bind (names_call _ _ _) fun _ => names_record _
  addAttribute _ _ _ := lasting_names.bind (names_call _ _ _) fun _ => names_record _
  readPlug plug := by
    refine Respects.scene_bind fun s => ?_
    split
    · refine lasting_names.bind (names_call _ _ _) (fun _ => ?_) s
      refine lasting_names.bind (fun _ => lasting_names.refl _) fun _ => ?_
      exact lasting_names.bind (names_record _) fun _ => lasting_names.pure _
    · exact lasting_names.throw _ s
  warn _ _ := names_of_same rfl rfl

end Program

/-! ### What is in the records -/

namespace Scene

/-- A container has a plug and its name in its record. -/
def Publishes (s : Scene) (container : String) (publication : String × String) : Prop :=
  ∃ record, s.containers.find? container = some record ∧ publication ∈ record.published

/-- A publication as a session makes it: a canonical plug on a node whose name the session made up,
under its exposed name. -/
def Displays (s : Scene) (given : String) (publication : String × String) : Prop :=
  ∃ node attr, Plug.split? publication.1 = some (node, attr) ∧
    publication.2 = exposedName node attr ∧
    s.canonical? publication.1 = some publication.1 ∧ Plug.Named given node

theorem Displays.grows {s after : Scene} {given : String} {publication : String × String}
    (displays : s.Displays given publication) (grows : Grows s after) :
    after.Displays given publication := by
  obtain ⟨node, attr, split, exposed, canonical, named⟩ := displays
  exact ⟨node, attr, split, exposed, grows.canonical canonical, named⟩

/-- What a group of nodes publishes is as a session makes it, if their names are. -/
theorem WellFormed.displays_publications {s : Scene} (wf : s.WellFormed) {given : String}
    {nodes : List String} (named : ∀ node ∈ nodes, Plug.Named given node)
    {publication : String × String} (member : publication ∈ s.publications nodes) :
    s.Displays given publication := by
  obtain ⟨⟨node, attr, other, _, _, split, inside, _, _, _, linked⟩, _, _, splitAgain, exposed⟩ :=
    (s.mem_publications_iff nodes publication.1 publication.2).mp member
  obtain ⟨rfl, rfl⟩ := Prod.mk.inj (Option.some.inj (split.symm.trans splitAgain))
  refine ⟨node, attr, split, exposed, ?_, named node inside⟩
  rcases linked with into | outOf
  · exact (wf.linked _ into).1
  · exact (wf.linked _ outOf).2.1

theorem publishes_of_containers {s after : Scene} (same : after.containers = s.containers)
    {container : String} {publication : String × String}
    (published : after.Publishes container publication) : s.Publishes container publication := by
  rwa [Publishes, same] at published

/-- After a record was replaced, what is published was published before or stands in the new
record. -/
theorem publishes_of_insert {s after : Scene} {owner : String} {entry : Container}
    (inserted : after.containers = s.containers.insert owner entry) {container : String}
    {publication : String × String} (published : after.Publishes container publication) :
    s.Publishes container publication ∨ container = owner ∧ publication ∈ entry.published := by
  obtain ⟨record, found, member⟩ := published
  rw [inserted] at found
  by_cases same : container = owner
  · rw [same, Table.find?_insert_self] at found
    cases found
    exact Or.inr ⟨same, member⟩
  · rw [Table.find?_insert_other _ same] at found
    exact Or.inl ⟨record, found, member⟩

/-- A change publishes nothing unless it is asked to. -/
theorem publishes_of_apply {s changed : Scene} {change : Change}
    (done : change.apply s = .ok changed) {container : String} {publication : String × String}
    (published : changed.Publishes container publication) :
    s.Publishes container publication ∨
      change = .expose container publication.1 publication.2 := by
  cases change with
  | addTransform name =>
    obtain ⟨_, made⟩ := pair_of_map_snd done
    obtain ⟨_, _, rfl⟩ := create_withNode (addTransform_eq_ok made)
    exact Or.inl published
  | addAttribute node name default =>
    obtain ⟨_, _, _, _, _, rfl⟩ := addAttribute_eq_ok done
    exact Or.inl published
  | set plug value =>
    obtain ⟨_, _, _, _, rfl⟩ := set_eq_ok done
    exact Or.inl published
  | connect source dest force =>
    obtain ⟨_, _, _, _, _, _, _, _, _, rfl⟩ := connect_eq_ok done
    exact Or.inl published
  | create type name =>
    obtain ⟨_, made⟩ := pair_of_map_snd done
    obtain ⟨_, _, rfl⟩ := create_withNode made
    exact Or.inl published
  | createContainer name =>
    obtain ⟨_, made⟩ := pair_of_map_snd done
    obtain ⟨_, creating, rfl⟩ := createContainer_eq_ok made
    obtain ⟨_, _, rfl⟩ := create_withNode creating
    rcases publishes_of_insert (s := s) rfl published with old | ⟨_, none⟩
    · exact Or.inl old
    · cases none
  | group owner nodes =>
    obtain ⟨_, record, found, rfl⟩ := group_eq_ok done
    rcases publishes_of_insert (s := s) rfl published with old | ⟨rfl, kept⟩
    · exact Or.inl old
    · exact Or.inl ⟨record, found, kept⟩
  | expose owner plug name =>
    obtain ⟨_, record, found, rfl⟩ := expose_eq_ok done
    rcases publishes_of_insert (s := s) rfl published with old | ⟨rfl, member⟩
    · exact Or.inl old
    · rcases List.mem_append.mp member with kept | new
      · exact Or.inl ⟨record, found, kept⟩
      · rw [List.mem_singleton.mp new]
        exact Or.inr rfl
  | note owner text =>
    obtain ⟨record, found, rfl⟩ := editContainer_eq_ok done
    rcases publishes_of_insert (s := s) rfl published with old | ⟨rfl, kept⟩
    · exact Or.inl old
    · exact Or.inl ⟨record, found, kept⟩

theorem publishes_of_after {s : Scene} {change : Change} {container : String}
    {publication : String × String} (published : (s.after change).Publishes container publication) :
    s.Publishes container publication ∨
      change = .expose container publication.1 publication.2 := by
  rw [Scene.after] at published
  split at published
  · rename_i done
    exact publishes_of_apply done published
  · exact Or.inl published

end Scene

/-! ### One step -/

/-- What was published without the session: by the scene that it found, or by a write past it. -/
def Host.Publicises (host : Host) (moves : List Move) (container : String)
    (publication : String × String) : Prop :=
  host.scene.Publishes container publication ∨
    .write (.expose container publication.1 publication.2) ∈ moves

/-- The names of nodes that a session collected are made up by it, and what containers publish was
written past the session, or is as a session makes it. -/
structure Session.Honest (written : String → String × String → Prop) (given : String)
    (s : Session) : Prop where
  wellFormed : s.scene.WellFormed
  prefixed : s.host.namePrefix = given
  named : ∀ node ∈ s.recorder.collected, Plug.Named given node
  published : ∀ container publication, s.scene.Publishes container publication →
    written container publication ∨ s.scene.Displays given publication

namespace Session

variable {written : String → String × String → Prop} {given : String} {s after : Session}
  (honest : s.Honest written given)
include honest

/-- A session stays honest if it publishes nothing else than it may. -/
theorem Honest.step (evolves : s.Evolves after) (names : s.Names after)
    (published : ∀ container publication, after.scene.Publishes container publication →
      s.scene.Publishes container publication ∨ written container publication ∨
        s.scene.Displays given publication) : after.Honest written given where
  wellFormed := evolves.wellFormed honest.wellFormed
  prefixed := names.given.trans honest.prefixed
  named node member := by
    rcases names.collected node member with old | new
    · exact honest.named node old
    · exact honest.prefixed ▸ new
  published container publication there := by
    have known : written container publication ∨ s.scene.Displays given publication := by
      rcases published container publication there with old | new
      · exact honest.published container publication old
      · exact new
    exact known.imp_right fun displays => displays.grows evolves.grows

/-- What becomes of the recorder does not matter as long as nothing more is collected. -/
theorem Honest.edit (host : after.host = s.host)
    (collected : ∀ node ∈ after.recorder.collected, node ∈ s.recorder.collected) :
    after.Honest written given := by
  have scene : after.scene = s.scene := congrArg Host.scene host
  refine honest.step (evolves_of_scene scene) ⟨congrArg Host.namePrefix host, ?_⟩ ?_
  · exact fun node member => Or.inl (collected node member)
  · rw [scene]
    exact fun _ _ => Or.inl

/-- A call that makes a change keeps a session honest, if what the change publishes may be
published. -/
theorem Honest.call {α : Type} (c : Call) (report : α → Outcome)
    {edit : Scene → Except SceneError (α × Scene)} (change : Scene.Change)
    (same : change.apply s.scene = (edit s.scene).map (·.2))
    (allowed : ∀ container publication,
      change = .expose container publication.1 publication.2 →
        s.scene.Displays given publication) :
    (Program.exec (Program.call c report edit) s).2.Honest written given ∧
      s.scene.Grows (Program.exec (Program.call c report edit) s).2.scene := by
  have names := Program.names_call c report edit s
  rcases Program.exec_call_cases c report edit s with
    ⟨e, fault, message, run⟩ | ⟨a, scene, fault, done, run⟩
  · rw [run] at names ⊢
    exact ⟨honest.step (evolves_of_scene rfl) names fun _ _ => Or.inl, .refl _⟩
  · rw [run] at names ⊢
    have applied : change.apply s.scene = .ok scene := by
      rw [same, done]
      rfl
    refine ⟨honest.step (evolves_of_apply change applied) names ?_, Scene.grows_apply applied⟩
    intro container publication there
    rcases Scene.publishes_of_apply applied there with old | asked
    · exact Or.inl old
    · exact Or.inr (Or.inr (allowed container publication asked))

theorem Honest.change (c : Call) (edit : Scene → Except SceneError Scene) (change : Scene.Change)
    (same : change.apply s.scene = edit s.scene)
    (allowed : ∀ container publication,
      change = .expose container publication.1 publication.2 →
        s.scene.Displays given publication) :
    (Program.exec (Program.change c edit) s).2.Honest written given ∧
      s.scene.Grows (Program.exec (Program.change c edit) s).2.scene := by
  refine honest.call c _ change ?_ allowed
  rw [same]
  cases edit s.scene <;> rfl

end Session

/-! ### Filling a container -/

namespace Program

variable {written : String → String × String → Prop} {given : String} {s : Session}

/-- What follows a program starts from an honest session, or does not start. -/
theorem honest_bind {α β : Type} {program : Program α} {next : α → Program β}
    (first : (exec program s).2.Honest written given)
    (rest : ∀ a after, exec program s = (.ok a, after) → after.Honest written given →
      (exec (next a) after).2.Honest written given) :
    (exec (program >>= next) s).2.Honest written given := by
  rw [exec_bind]
  cases run : exec program s with
  | mk result after =>
    rw [run] at first
    cases result with
    | ok a => exact rest a after run first
    | error e => exact first

theorem honest_exposeAll {container : String} {publications : List (String × String)}
    (honest : s.Honest written given)
    (displays : ∀ publication ∈ publications, s.scene.Displays given publication) :
    (exec (exposeAll container publications) s).2.Honest written given := by
  induction publications generalizing s with
  | nil => exact honest
  | cons publication rest inductionHypothesis =>
    obtain ⟨plug, name⟩ := publication
    obtain ⟨first, others⟩ := List.forall_mem_cons.mp displays
    have exposed := honest.change (.expose container plug name)
      (fun scene => scene.expose container plug name) (.expose container plug name) rfl
      fun _ _ asked => by cases asked; exact first
    rw [exposeAll]
    refine honest_bind exposed.1 fun _ between run honestBetween => ?_
    have grows : s.scene.Grows between.scene := by
      have grown := exposed.2
      rwa [show exec (change _ _) s = _ from run] at grown
    exact inductionHypothesis honestBetween fun publication member =>
      (others publication member).grows grows

/-- Filling a container publishes plugs as a session does. -/
theorem honest_populate (honest : s.Honest written given) (scope : ContainerScope) :
    (exec (populate scope) s).2.Honest written given := by
  rw [populate]
  split
  · exact honest
  · rename_i container _
    refine honest_bind honest fun now _ looked _ => ?_
    cases looked
    have grouped := honest.change (.group container s.recorder.collected)
      (fun scene => scene.group container s.recorder.collected)
      (.group container s.recorder.collected) rfl fun _ _ asked => by cases asked
    refine honest_bind grouped.1 fun _ between _ honestBetween => ?_
    refine honest_bind honestBetween fun scene _ seen _ => ?_
    cases seen
    refine honest_bind (honest_exposeAll honestBetween fun _ member =>
      honestBetween.wellFormed.displays_publications honest.named member)
      fun _ after _ honestAfter => ?_
    split
    · exact (honestAfter.change (.note container scope.options.notes)
        (fun scene => scene.setNote container scope.options.notes)
        (.note container scope.options.notes) rfl fun _ _ asked => by cases asked).1
    · exact honestAfter

end Program

namespace Closing

variable {written : String → String × String → Prop} {given : String} {s : Session}

theorem honest_filling (closing : Closing) (scope : ContainerScope)
    (honest : s.Honest written given) :
    (Program.exec (closing.filling scope) s).2.Honest written given := by
  have filled := Program.honest_populate honest scope
  cases closing with
  | finish => exact Program.honest_bind filled fun _ _ _ honestAfter => honestAfter
  | drop =>
    refine Program.honest_bind (by exact filled) fun outcome after _ honestAfter => ?_
    split
    · exact honestAfter
    · exact honestAfter.edit rfl fun _ => id
  | abandon => exact honest.edit rfl fun _ => id

theorem honest_step (o : Options) (closing : Closing) (scope : ContainerScope)
    (honest : s.Honest written given) :
    ((closing.step scope).perform o s).Honest written given := by
  rw [Step.perform, closing.exec_step]
  refine (closing.honest_filling scope honest).edit rfl fun node member => ?_
  change node ∈ if _ then [] else _ at member
  split at member
  · cases member
  · exact member

end Closing

theorem Program.honest_openContainer {written : String → String × String → Prop} {given : String}
    {s : Session} (honest : s.Honest written given) (options : ContainerOptions) :
    (exec (openContainer options) s).2.Honest written given := by
  have begun : s.begun.Honest written given := honest.edit rfl nofun
  show (exec (if options.create then
    (do return (⟨options, some (← createContainer options.name)⟩ : ContainerScope))
    else pure ⟨options, none⟩) s.begun).2.Honest written given
  split
  · rw [exec_wrap]
    exact (begun.call (.createContainer options.name) .made (.createContainer options.name) rfl
      fun _ _ asked => by cases asked).1
  · exact begun

/-! ### Happenings -/

section Happenings

variable {written : String → String × String → Prop} {given : String}

/-- Whatever happens keeps a session honest, if what it writes past the session is said to be
written. -/
theorem Happening.honest_perform (o : Options) {s : Session} (honest : s.Honest written given)
    {happening : Happening}
    (writes : ∀ container publication,
      happening = .step (.write (.expose container publication.1 publication.2)) →
        written container publication) :
    (happening.perform o s).Honest written given := by
  match happening with
  | step (.act action) =>
    have works := (Program.covers_works o.force).action action (fun _ _ => trivial) s
    refine honest.step ((Program.covers_evolves o.force).action action (fun _ _ => trivial) s)
      ((Program.covers_names o.force).action action (fun _ _ => trivial) s) ?_
    exact fun _ _ there => Or.inl (Scene.publishes_of_containers works.containers there)
  | step (.arm fault) =>
    exact honest.step (Session.evolves_of_scene rfl) (Session.names_of_same rfl rfl)
      fun _ _ => Or.inl
  | step (.write change) =>
    refine honest.step ⟨[change], rfl⟩ (Session.names_of_same rfl rfl)
      fun container publication there => ?_
    rcases Scene.publishes_of_after there with old | rfl
    · exact Or.inl old
    · exact Or.inr (Or.inl (writes container publication rfl))
  | step (.openContainer options) =>
    rw [perform, program, Step.program, Program.exec_wrap]
    exact Program.honest_openContainer honest options
  | step (.finishContainer scope) => exact Closing.finish.honest_step o scope honest
  | step (.dropContainer scope) => exact Closing.drop.honest_step o scope honest
  | step .abandonContainer => exact Closing.abandon.honest_step o ⟨.default, none⟩ honest
  | openTracer options => exact honest.edit rfl fun _ => id
  | closeTracer options =>
    have alike := Session.Alike.closeTracer (s := s) ⟨rfl, rfl, rfl⟩ options
    rw [perform_closeTracer]
    exact honest.edit alike.host fun node member => alike.collected ▸ member

theorem Session.honest_undergo (o : Options) {happenings : List Happening} {s : Session}
    (honest : s.Honest written given)
    (writes : ∀ container publication,
      .step (.write (.expose container publication.1 publication.2)) ∈ happenings →
        written container publication) :
    (s.undergo o happenings).Honest written given := by
  induction happenings generalizing s with
  | nil => exact honest
  | cons happening rest inductionHypothesis =>
    refine inductionHypothesis (happening.honest_perform o honest ?_) ?_
    · rintro container publication rfl
      exact writes container publication List.mem_cons_self
    · exact fun container publication member =>
        writes container publication (List.mem_cons_of_mem _ member)

/-- Several moves keep the session honest. -/
theorem Desk.honest_run (o : Options) {d : Desk} {moves : List Move}
    (honest : d.session.Honest written given)
    (writes : ∀ container publication,
      .write (.expose container publication.1 publication.2) ∈ moves →
        written container publication) :
    (d.run o moves).session.Honest written given := by
  rw [session_run]
  refine Session.honest_undergo o honest fun container publication member => ?_
  obtain ⟨move, inside, held, isWrite⟩ := mem_happenings member
  refine writes container publication ?_
  rwa [← Move.eq_write isWrite]

end Happenings

/-! ### Names that are confused -/

/-- A place whose attribute is on a layout stands on that layout, if it stands on any. -/
theorem Place.On.of_owner {layout larger : Layout} {place : Place} (on : place.On larger)
    (owned : place.owner ∈ layout) : place.On layout := by
  cases place with
  | whole => exact owned
  | child | element | elementChild => exact ⟨owned, on.2⟩

namespace Scene

/-- Whether a plug is one that its node has by its type. -/
def isTypical (s : Scene) (plug : String) : Bool :=
  (s.place? plug).any fun found =>
    ((s.typeOf? found.1).bind Layout.ofType?).any fun layout => decide (found.2.owner ∈ layout)

/-- A plug that its node has by its type stands on a legible layout. -/
theorem on_of_isTypical {s : Scene} {plug node : String} {place : Place}
    (there : s.place? plug = some (node, place)) (typical : s.isTypical plug = true) :
    ∃ type layout, s.typeOf? node = some type ∧ Layout.ofType? type = some layout ∧
      place.On layout := by
  rw [isTypical, there, Option.any_some] at typical
  obtain ⟨layout, known, owned⟩ := (Option.any_eq_true _ _).mp typical
  obtain ⟨type, typed, ofType⟩ := Option.bind_eq_some_iff.mp known
  obtain ⟨_, n, _, _, designated⟩ := (s.place?_eq_some_iff _ _ _).mp there
  exact ⟨type, layout, typed, ofType,
    (Layout.on_of_find? designated).of_owner (of_decide_eq_true owned)⟩

/-- The path of a canonical plug is that of its place. -/
theorem place?_of_canonical {s : Scene} {plug node attr : String}
    (split : Plug.split? plug = some (node, attr)) (canonical : s.canonical? plug = some plug) :
    ∃ place, s.place? plug = some (node, place) ∧ attr = place.path := by
  obtain ⟨⟨owner, place⟩, there, joined⟩ := Option.map_eq_some_iff.mp canonical
  obtain ⟨path, _, splitAgain, _⟩ := (s.place?_eq_some_iff _ _ _).mp there
  obtain ⟨rfl, rfl⟩ := Prod.mk.inj (Option.some.inj (split.symm.trans splitAgain))
  refine ⟨place, there, Plug.join_injective node ?_⟩
  rw [Plug.join_of_split? split, ← joined]

/-- Two plugs of one node that it has by its type are not confused. -/
theorem letters_ne_of_typical {s : Scene} {plug other node attr path : String}
    (split : Plug.split? plug = some (node, attr)) (canonical : s.canonical? plug = some plug)
    (splitOther : Plug.split? other = some (node, path))
    (canonicalOther : s.canonical? other = some other) (different : plug ≠ other)
    (typical : s.isTypical plug = true) (typicalOther : s.isTypical other = true) :
    Plug.alphanumerics attr ≠ Plug.alphanumerics path := by
  obtain ⟨place, there, rfl⟩ := place?_of_canonical split canonical
  obtain ⟨placeOther, thereOther, rfl⟩ := place?_of_canonical splitOther canonicalOther
  obtain ⟨type, layout, typed, known, on⟩ := on_of_isTypical there typical
  obtain ⟨_, _, typedOther, knownOther, onOther⟩ := on_of_isTypical thereOther typicalOther
  obtain rfl := Option.some.inj (typed.symm.trans typedOther)
  obtain rfl := Option.some.inj (known.symm.trans knownOther)
  intro same
  have path := (Layout.legible_ofType? known).path_eq_of_letters (Layout.sound_ofType? known) on
    onOther same
  exact different (by rw [← Plug.join_of_split? split, path, Plug.join_of_split? splitOther])

end Scene

namespace Desk

/-- In the record of a container that was made in the course of a session, and that no write past
the session published on, two plugs have one name exactly if their nodes and their paths have the
same letters and digits. Then the names of the nodes differ in underscores at most, and if it is one
node, it does not have both plugs by its type. -/
theorem published_names_confused (o : Options) (host : Host) (reachable : host.scene.Reachable)
    (moves : List Move) (container : String) (record : Container)
    (found : ((start host).run o moves).session.scene.containers.find? container = some record)
    (fresh : host.scene.containers.find? container = none)
    (unwritten : ∀ plug name, .write (.expose container plug name) ∉ moves)
    (plug other name otherName : String) (published : (plug, name) ∈ record.published)
    (publishedOther : (other, otherName) ∈ record.published) (different : plug ≠ other) :
    ∃ node attr owner path, Plug.split? plug = some (node, attr) ∧
      Plug.split? other = some (owner, path) ∧
      (name = otherName ↔ Plug.alphanumerics node = Plug.alphanumerics owner ∧
        Plug.alphanumerics attr = Plug.alphanumerics path) ∧
      (name = otherName → Plug.unscored node = Plug.unscored owner) ∧
      (name = otherName → node = owner →
        ¬ (((start host).run o moves).session.scene.isTypical plug = true ∧
          ((start host).run o moves).session.scene.isTypical other = true)) := by
  have begins : (start host).session.Honest (host.Publicises moves) host.namePrefix :=
    ⟨reachable.wellFormed, rfl, nofun, fun _ _ there => Or.inl (Or.inl there)⟩
  have honest := honest_run o begins fun _ _ => Or.inr
  have displays {publication : String × String} (member : publication ∈ record.published) :
      ((start host).run o moves).session.scene.Displays host.namePrefix publication := by
    rcases honest.published container publication ⟨record, found, member⟩ with
      (⟨_, old, _⟩ | asked) | displays
    · rw [fresh] at old
      cases old
    · exact absurd asked (unwritten _ _)
    · exact displays
  obtain ⟨node, attr, split, rfl, canonical, named⟩ := displays published
  obtain ⟨owner, path, splitOther, rfl, canonicalOther, namedOther⟩ := displays publishedOther
  obtain ⟨letters, unscored⟩ := named.letters namedOther
  have confused := Plug.exposedName_eq_iff node attr owner path
  rw [letters] at confused
  refine ⟨node, attr, owner, path, split, splitOther, confused,
    fun same => unscored (confused.mp same).1, ?_⟩
  rintro same rfl ⟨typical, typicalOther⟩
  exact Scene.letters_ne_of_typical split canonical splitOther canonicalOther different typical
    typicalOther (confused.mp same).2

/-- The two factors of a product come from outside the container and get names of their own. -/
theorem published_names_confused_product :
    let d := (start (.ofScene (Scene.empty.run [.addTransform "pCube1"]) "")).run .default
      [.openScope "scope" ⟨"box", "", true⟩,
        .act (.apply "mul" [.path "pCube1.tx", .path "pCube1.ty"]), .closeScope "scope" .finish]
    ∃ record first second, d.session.scene.containers.find? "box" = some record ∧
      ("nc_MUL_tx_ty_multiplyDivide.input1X", first) ∈ record.published ∧
      ("nc_MUL_tx_ty_multiplyDivide.input2X", second) ∈ record.published ∧ first ≠ second := by
  let host : Host := .ofScene (Scene.empty.run [.addTransform "pCube1"]) ""
  let moves : List Move := [.openScope "scope" ⟨"box", "", true⟩,
    .act (.apply "mul" [.path "pCube1.tx", .path "pCube1.ty"]), .closeScope "scope" .finish]
  let plug := "nc_MUL_tx_ty_multiplyDivide.input1X"
  let other := "nc_MUL_tx_ty_multiplyDivide.input2X"
  let name := "ncMULtxtymultiplyDivide_I_input1X"
  let otherName := "ncMULtxtymultiplyDivide_I_input2X"
  let record : Container :=
    ⟨["nc_MUL_tx_ty_multiplyDivide"], [(plug, name), (other, otherName)], none⟩
  have reachable : host.scene.Reachable := ⟨_, rfl⟩
  have ⟨found, typical⟩ :
      ((start host).run .default moves).session.scene.containers.find? "box" = some record ∧
        ((start host).run .default moves).session.scene.isTypical plug = true ∧
        ((start host).run .default moves).session.scene.isTypical other = true := by
    decide +kernel
  have fresh : host.scene.containers.find? "box" = none := by decide +kernel
  have unwritten : ∀ plug name, .write (.expose "box" plug name) ∉ moves := by simp [moves]
  have different : plug ≠ other := by decide +kernel
  have split : Plug.split? plug = some ("nc_MUL_tx_ty_multiplyDivide", "input1X") := by
    decide +kernel
  have splitOther : Plug.split? other = some ("nc_MUL_tx_ty_multiplyDivide", "input2X") := by
    decide +kernel
  have published : (plug, name) ∈ record.published := List.mem_cons_self
  have publishedOther : (other, otherName) ∈ record.published :=
    List.mem_cons_of_mem _ List.mem_cons_self
  obtain ⟨node, attr, owner, path, isPlug, isOther, _, _, apart⟩ :=
    published_names_confused .default host reachable moves "box" record found fresh unwritten plug
      other name otherName published publishedOther different
  obtain ⟨rfl, rfl⟩ := Prod.mk.inj (Option.some.inj (split.symm.trans isPlug))
  obtain ⟨rfl, rfl⟩ := Prod.mk.inj (Option.some.inj (splitOther.symm.trans isOther))
  exact ⟨record, name, otherName, found, published, publishedOther,
    fun same => apart same rfl typical⟩

/-- Two sums that differ in the sign of a number publish their first plugs under one name; and so
does a node with the two attributes that a user has added to it. -/
theorem published_names_collide :
    let host := Host.ofScene (Scene.empty.run [.addTransform "pCube1"]) ""
    let sums := (start host).run .default [.openScope "scope" ⟨"box", "", true⟩,
      .act (.apply "add" [.path "pCube1.tx", .number 1]),
      .act (.apply "add" [.path "pCube1.tx", .number (-1)]), .closeScope "scope" .finish]
    let weights := (start host).run .default [.openScope "scope" ⟨"box", "", true⟩,
      .act (.apply "reverse" [.number 1]),
      .act (.addUserAttribute "nc_REVERSE_1_reverse" "weight" {}),
      .act (.addUserAttribute "nc_REVERSE_1_reverse" "we_ight" {}),
      .act (.setOrConnect (.path "nc_REVERSE_1_reverse.weight") (.path "pCube1.tx")),
      .act (.setOrConnect (.path "nc_REVERSE_1_reverse.we_ight") (.path "pCube1.ty")),
      .closeScope "scope" .finish]
    (sums.session.scene.containers.find? "box").map (·.published) = some
      [("nc_ADD_tx_1_plusMinusAverage.input3D[0].input3Dx",
          "ncADDtx1plusMinusAverage_I_input3D0input3Dx"),
        ("nc_ADD_tx__1_plusMinusAverage.input3D[0].input3Dx",
          "ncADDtx1plusMinusAverage_I_input3D0input3Dx")] ∧
    (weights.session.scene.containers.find? "box").map (·.published) = some
      [("nc_REVERSE_1_reverse.we_ight", "ncREVERSE1reverse_I_weight"),
        ("nc_REVERSE_1_reverse.weight", "ncREVERSE1reverse_I_weight")] := by
  decide +kernel

end Desk

end FormulaNet
