/-
This file says when a wiring succeeds. With no fault in wait the host carries
out what the scene lets it, and a scene lets a link be made if its ends are
there with as many channels, are not the same, and nothing is in the way at the
target. None of this is touched by links to other targets, so links that are
ready at the start are all made. Where a wiring collapses, the link between the
compounds is ready as soon as the links it stands for are and nothing is
connected into the compound.
-/

import FormulaNet.Proofs.Plan

namespace FormulaNet

/-! ### Links that are ready -/

namespace Scene

theorem set_of_place? {s : Scene} {plug node : String} {place : Place}
    (there : s.place? plug = some (node, place)) (narrow : place.width = 1) (value : Float) :
    s.set plug value =
      .ok { s with values := s.values.insert (Plug.join node place.path) value } := by
  rw [set, (s.placeOf_eq_ok_iff _ _).mpr there]
  exact if_pos narrow

theorem connect_of_place? {s : Scene} {source dest sourceNode node : String}
    {sourcePlace place : Place} {force : Bool}
    (thereSource : s.place? source = some (sourceNode, sourcePlace))
    (there : s.place? dest = some (node, place)) (widths : sourcePlace.width = place.width)
    (different : Plug.join sourceNode sourcePlace.path ≠ Plug.join node place.path)
    (free : force = true ∨ s.connections.find? (Plug.join node place.path) = none) :
    s.connect source dest force = .ok { s with
      connections := s.connections.insert (Plug.join node place.path)
        (Plug.join sourceNode sourcePlace.path) } := by
  rw [connect, (s.placeOf_eq_ok_iff _ _).mpr thereSource, (s.placeOf_eq_ok_iff _ _).mpr there]
  dsimp only
  rw [if_neg (not_not_intro widths), if_neg different]
  rcases free with rfl | free
  · split
    · contradiction
    · rfl
  · rw [free]

end Scene

namespace Link

/-- A link that the scene lets be made. -/
inductive Ready (force : Bool) (s : Scene) : Link → Prop where
  | set {target node : String} {place : Place} {value : Float} {expression : Option String}
    (there : s.place? target = some (node, place)) (narrow : place.width = 1) :
    Ready force s ⟨.plug target, .literal value expression⟩
  | connect {target source node sourceNode : String} {place sourcePlace : Place}
    (there : s.place? target = some (node, place))
    (thereSource : s.place? source = some (sourceNode, sourcePlace))
    (widths : sourcePlace.width = place.width)
    (different : Plug.join sourceNode sourcePlace.path ≠ Plug.join node place.path)
    (free : force = true ∨ s.connections.find? (Plug.join node place.path) = none) :
    Ready force s ⟨.plug target, .plug source⟩

/-- Making a link to another target leaves a link ready. -/
theorem Ready.after {force : Bool} {link first : Link} {s after : Scene}
    (ready : link.Ready force s) (made : first.Makes force s after)
    (apart : ∀ key, s.goal? first = some key → s.goal? link ≠ some key) :
    link.Ready force after := by
  obtain ⟨nodes, key, aimed, elsewhere, _⟩ := Scene.makes_stores made
  have places (plug : String) : after.place? plug = s.place? plug :=
    Scene.place?_of_nodes nodes plug
  cases ready with
  | set there narrow => exact .set ((places _).trans there) narrow
  | @connect target source node _ place _ there thereSource widths different free =>
    have goal : s.goal? ⟨.plug target, .plug source⟩ = some (Plug.join node place.path) := by
      show s.canonical? target = _
      rw [Scene.canonical?, there]
      rfl
    have other : Plug.join node place.path ≠ key := fun equal => apart key aimed (equal ▸ goal)
    refine .connect ((places _).trans there) ((places _).trans thereSource) widths different ?_
    rwa [(elsewhere _ other).2]

end Link

/-! ### Calls without a fault -/

namespace Program

/-- With no fault in wait, a call that the scene takes is carried out. -/
theorem exec_call_calm {α : Type} (c : Call) (report : α → Outcome)
    (change : Scene → Except SceneError (α × Scene)) {s : Session} {a : α} {scene : Scene}
    (calm : s.host.fault = none) (done : change s.scene = .ok (a, scene)) :
    exec (call c report change) s = (.ok a, s.answered c (report a) scene none) := by
  rw [Session.scene] at done
  rw [exec_call, Host.take, calm, Fault.meet]
  simp only [done]
  rfl

theorem exec_change_record_calm (c : Call) (edit : Scene → Except SceneError Scene)
    (event : Trace.Event) {s : Session} {scene : Scene} (calm : s.host.fault = none)
    (done : edit s.scene = .ok scene) :
    exec (do change c edit; record event) s =
      (.ok (), (s.answered c .done scene none).recorded event) := by
  have run := exec_call_calm c (fun _ => .done)
    (fun scene => (edit scene).map fun scene => ((), scene)) calm
    (congrArg (Except.map fun scene => ((), scene)) done)
  rw [exec_bind, change, run]
  rfl

/-- No fault comes up where none is in wait. -/
def StaysCalm (s after : Session) : Prop := s.host.fault = none → after.host.fault = none

theorem staysCalm_call {α : Type} (c : Call) (report : α → Outcome)
    (change : Scene → Except SceneError (α × Scene)) :
    Respects StaysCalm (call c report change) := by
  intro s calm
  rw [exec_call, Host.take, calm, Fault.meet]
  dsimp only
  split <;> rfl

theorem covers_staysCalm (force : Bool) : Covers force (fun _ => True) StaysCalm := by
  have lasting : Lasting StaysCalm := ⟨fun _ => id, fun first second => second ∘ first⟩
  have logged (event : Trace.Event) : Respects StaysCalm (record event) := fun _ => id
  have changed (c : Call) (edit : Scene → Except SceneError Scene) (event : Trace.Event) :
      Respects StaysCalm (do change c edit; record event) :=
    lasting.bind (staysCalm_call c _ _) fun _ => logged event
  refine ⟨lasting, ?_, ?_, ?_, ?_, ?_, fun _ _ => id⟩
  · intro type name _
    refine lasting.bind (fun _ => id) fun _ => lasting.bind (staysCalm_call _ _ _) fun node => ?_
    exact lasting.bind (fun _ => id) fun _ =>
      lasting.bind (logged (.create node type)) fun _ => lasting.pure node
  · exact fun plug value expression _ => changed _ _ _
  · exact fun source dest => changed _ _ _
  · exact fun node name spec => changed _ _ _
  · intro plug
    refine Respects.scene_bind fun s => ?_
    split
    · refine lasting.bind (staysCalm_call _ _ _) (fun _ => ?_) s
      refine lasting.bind (fun _ => id) fun _ => ?_
      exact lasting.bind (logged (.read plug)) fun _ => lasting.pure _
    · exact lasting.throw _ s

/-- With no fault in wait, a node of a known type is created under a name that the scene takes. -/
theorem exec_create_calm {type name : String} {s : Session} {layout : Layout}
    (calm : s.host.fault = none) (typed : Layout.ofType? type = some layout)
    (filled : s.host.namePrefix ++ name ≠ "") (free : '.' ∉ (s.host.namePrefix ++ name).toList) :
    ∃ node after, exec (create type name) s = (.ok node, after) ∧ after.host.fault = none ∧
      s.scene.create type (s.host.namePrefix ++ name) = .ok (node, after.scene) := by
  cases made : s.scene.create type (s.host.namePrefix ++ name) with
  | error e =>
    rw [Scene.create, typed] at made
    dsimp only at made
    rw [if_neg (not_or.mpr ⟨filled, free⟩)] at made
    cases made
  | ok done =>
    obtain ⟨node, scene⟩ := done
    have run := exec_call_calm (.create type name) .made
      (fun scene => scene.create type (s.host.namePrefix ++ name)) calm made
    refine ⟨node, ((s.answered (.create type name) (.made node) scene none).collected
      node).recorded (.create node type), ?_, rfl, rfl⟩
    rw [create, exec_bind, exec_get]
    dsimp only
    rw [exec_bind, run]
    rfl

/-- A link that is ready is made. -/
theorem exec_wireLink_ready {force : Bool} {link : Link} {s : Session}
    (calm : s.host.fault = none) (ready : link.Ready force s.scene) :
    ∃ after, exec (wireLink force link) s = (.ok (), after) ∧ after.host.fault = none ∧
      link.Makes force s.scene after.scene := by
  cases ready with
  | @set target node place value expression there narrow =>
    have done := Scene.set_of_place? there narrow value
    have run := exec_change_record_calm (.set target value) (fun scene => scene.set target value)
      (.set target (Channel.literal value expression).text) calm done
    refine ⟨_, Eq.trans ?_ run, rfl, .set done⟩
    rw [wireLink, exec_bind, exec_scene]
    dsimp only
    rw [if_pos (Scene.has_of_place? there)]
    rfl
  | @connect target source node sourceNode place sourcePlace there thereSource widths different
      free =>
    have done := Scene.connect_of_place? thereSource there widths different free
    have run := exec_change_record_calm (.connect source target force)
      (fun scene => scene.connect source target force) (.connect source target) calm done
    refine ⟨_, Eq.trans ?_ run, rfl, .connect done⟩
    rw [wireLink, exec_bind, exec_scene]
    dsimp only
    rw [if_pos (Scene.has_of_place? there), if_pos (Scene.has_of_place? thereSource)]
    rfl

/-- Links to different targets that are ready are all made. -/
theorem exec_wireLinks_ready {force : Bool} {links : List Link} {s : Session}
    (calm : s.host.fault = none) (ready : ∀ link ∈ links, link.Ready force s.scene)
    (apart : s.scene.Apart links) :
    ∃ after, exec (wireLinks force links) s = (.ok (), after) ∧ after.host.fault = none ∧
      Link.MakesAll force links s.scene after.scene := by
  induction links generalizing s with
  | nil => exact ⟨s, rfl, calm, .nil _⟩
  | cons link rest inductionHypothesis =>
    obtain ⟨readyFirst, readyRest⟩ := List.forall_mem_cons.mp ready
    obtain ⟨apartFirst, apartRest⟩ := List.pairwise_cons.mp apart
    obtain ⟨between, first, calmBetween, made⟩ := exec_wireLink_ready calm readyFirst
    have goals : between.scene.goal? = s.scene.goal? :=
      funext (Scene.goal?_of_nodes made.nodes)
    have apartBetween : between.scene.Apart rest := by
      rw [Scene.Apart, goals]
      exact apartRest
    obtain ⟨after, others, calmAfter, madeRest⟩ := inductionHypothesis calmBetween
      (fun later member => (readyRest later member).after made fun key aimed =>
        apartFirst later member key aimed) apartBetween
    refine ⟨after, ?_, calmAfter, .cons made madeRest⟩
    rw [wireLinks, exec_bind, first]
    exact others

end Program

/-! ### Wirings that collapse -/

namespace Scene

variable {s : Scene} (wf : s.WellFormed) {channels others : List Channel}
include wf

/-- A compound has children, and as many as channels that collapse into it. -/
theorem WellFormed.collapse?_width {plug : String} (collapsed : s.collapse? channels = some plug) :
    ∃ node a, plug = Plug.join node a.long ∧ s.place? plug = some (node, .whole a) ∧
      (Place.whole a).width = channels.length ∧ channels ≠ [] := by
  obtain ⟨node, a, joined, there, compound, children⟩ := wf.collapse?_children collapsed
  have parts : (Place.whole a).parts? = some a.childNames := by
    simp [Place.parts?, compound]
  refine ⟨node, a, joined, there, ?_, ?_⟩
  · rw [Place.width, parts, children.length_eq]
    simp [Attribute.childNames]
  · rintro rfl
    have none : a.children = [] := List.eq_nil_of_length_eq_zero children.length_eq.symm
    simp [Attribute.isCompound, none] at compound

/-- Channels that collapse into one compound begin with one plug. -/
theorem WellFormed.collapse?_same {plug : String} (collapsed : s.collapse? channels = some plug)
    (collapsedOther : s.collapse? others = some plug) :
    ∃ text other rest restOther found, channels = .plug text :: rest ∧
      others = .plug other :: restOther ∧ s.place? text = some found ∧
      s.place? other = some found := by
  obtain ⟨node, a, _, there, _, children⟩ := wf.collapse?_children collapsed
  obtain ⟨owner, b, _, thereOther, _, childrenOther⟩ := wf.collapse?_children collapsedOther
  cases there.symm.trans thereOther
  obtain ⟨_, _, _, _, _, filled⟩ := wf.collapse?_width collapsed
  obtain ⟨channel, rest, rfl⟩ := List.exists_cons_of_ne_nil filled
  obtain ⟨c, cs, first, _, listed⟩ := List.forall₂_cons_left_iff.mp children
  rw [listed] at childrenOther
  obtain ⟨other, restOther, firstOther, _, rfl⟩ := List.forall₂_cons_right_iff.mp childrenOther
  obtain ⟨text, rfl, place⟩ := first
  obtain ⟨textOther, rfl, placeOther⟩ := firstOther
  exact ⟨text, textOther, rest, restOther, _, rfl, rfl, place, placeOther⟩

/-- The link between two compounds is ready if they are two and nothing is connected into the
target. -/
theorem WellFormed.collapsed_ready {target source : String}
    (collapsed : s.collapse? channels = some target)
    (collapsedSource : s.collapse? others = some source) (lengths : others.length = channels.length)
    (different : source ≠ target) (free : s.connections.find? target = none) (force : Bool) :
    Link.Ready force s ⟨.plug target, .plug source⟩ := by
  obtain ⟨node, a, rfl, there, width, _⟩ := wf.collapse?_width collapsed
  obtain ⟨sourceNode, b, rfl, thereSource, widthSource, _⟩ := wf.collapse?_width collapsedSource
  exact .connect there thereSource (widthSource.trans (lengths.trans width.symm)) different
    (Or.inr free)

end Scene

namespace Program

/-- A wiring succeeds if the links between its channels are ready, to different targets, and nothing
is connected into the compound that the targets may collapse into. -/
theorem exec_wire_ready {o : Options} {targets sources : List Channel} {s : Session}
    (wf : s.scene.WellFormed) (calm : s.host.fault = none) (short : targets.length ≤ o.ceiling)
    (shortSources : sources.length ≤ o.ceiling)
    (matched : Link.Matched targets.length sources.length)
    (ready : ∀ link ∈ List.zipWith Link.mk targets (Channel.spread targets.length sources),
      link.Ready o.force s.scene)
    (apart : s.scene.Apart
      (List.zipWith Link.mk targets (Channel.spread targets.length sources)))
    (compound : ∀ plug, s.scene.collapse? targets = some plug →
      s.scene.connections.find? plug = none) :
    ∃ after, exec (wire o targets sources) s = (.ok (), after) ∧ after.host.fault = none := by
  rw [exec_wire_eq, if_neg (by omega), if_pos matched, Scene.links]
  split
  · rename_i target source collapsed collapsedSource
    have different : source ≠ target := by
      rintro rfl
      obtain ⟨text, other, rest, restOther, found, isTargets, isSources, there, thereOther⟩ :=
        wf.collapse?_same collapsed collapsedSource
      rw [isSources, isTargets] at ready
      cases ready _ List.mem_cons_self with
      | connect there' thereSource _ different _ =>
        rw [there] at there'
        rw [thereOther] at thereSource
        cases there'
        cases thereSource
        exact different rfl
    have single := wf.collapsed_ready collapsed collapsedSource (Channel.length_spread matched)
      different (compound target collapsed) o.force
    obtain ⟨after, run, calmAfter, _⟩ := exec_wireLinks_ready calm
      (List.forall_mem_singleton.mpr single) (List.pairwise_singleton _ _)
    exact ⟨after, run, calmAfter⟩
  · obtain ⟨after, run, calmAfter, _⟩ := exec_wireLinks_ready calm ready apart
    exact ⟨after, run, calmAfter⟩

end Program

end FormulaNet
