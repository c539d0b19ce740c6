/-
This file fills containers. What a group of nodes publishes are the plugs on its
nodes that are connected with plugs elsewhere, except for messages, each of them
once. When a scope closes, its container takes in the nodes that the session
created while the scope was open and publishes what they publish. That always
succeeds, because nodes, plugs and records are never taken away, and it changes
nothing but the record of the container. The record says just that if nobody
wrote to it past the session; otherwise it says that in addition.
-/

import FormulaNet.Proofs.Gathering

namespace FormulaNet

/-! ### Publications -/

theorem mem_of_mem_firstOfEach {list : List (String × String)} {p : String × String}
    (member : p ∈ firstOfEach list) : p ∈ list := by
  induction list with
  | nil => exact member
  | cons head rest inductionHypothesis =>
    rcases List.mem_cons.mp member with rfl | later
    · exact List.mem_cons_self
    · exact List.mem_cons_of_mem _ (inductionHypothesis (List.mem_filter.mp later).1)

theorem exists_mem_firstOfEach {list : List (String × String)} {p : String × String}
    (member : p ∈ list) : ∃ q ∈ firstOfEach list, q.1 = p.1 := by
  induction list with
  | nil => cases member
  | cons head rest inductionHypothesis =>
    by_cases same : head.1 = p.1
    · exact ⟨head, List.mem_cons_self, same⟩
    · rcases List.mem_cons.mp member with rfl | later
      · exact absurd rfl same
      · obtain ⟨q, among, equal⟩ := inductionHypothesis later
        refine ⟨q, List.mem_cons_of_mem _ (List.mem_filter.mpr ⟨among, ?_⟩), equal⟩
        rw [equal, bne_iff_ne]
        exact fun equalHead => same equalHead.symm

theorem nodup_firstOfEach (list : List (String × String)) :
    ((firstOfEach list).map (·.1)).Nodup := by
  induction list with
  | nil => exact List.nodup_nil
  | cons head rest inductionHypothesis =>
    rw [firstOfEach, List.map_cons, List.nodup_cons]
    refine ⟨?_, inductionHypothesis.sublist (List.filter_sublist.map _)⟩
    simp

namespace Scene

/-- A plug on a node of a group that is connected, in one direction or the other, with a plug on
another node. Messages do not count. -/
def Crosses (s : Scene) (nodes : List String) (plug : String) : Prop :=
  ∃ node attr other owner path, Plug.split? plug = some (node, attr) ∧ node ∈ nodes ∧
    attr ≠ "message" ∧ Plug.split? other = some (owner, path) ∧ owner ∉ nodes ∧
    ((plug, other) ∈ s.connections.entries ∨ (other, plug) ∈ s.connections.entries)

theorem mem_connectionsOf_iff (s : Scene) (node inside outside : String) :
    (inside, outside) ∈ s.connectionsOf node ↔ onNode node inside = true ∧
      ((inside, outside) ∈ s.connections.entries ∨ (outside, inside) ∈ s.connections.entries) := by
  unfold connectionsOf
  rw [List.mem_flatMap]
  constructor
  · rintro ⟨⟨dest, source⟩, connected, member⟩
    rcases List.mem_append.mp member with into | from_
    · split at into
      · cases List.mem_singleton.mp into
        exact ⟨by assumption, Or.inl connected⟩
      · cases into
    · split at from_
      · cases List.mem_singleton.mp from_
        exact ⟨by assumption, Or.inr connected⟩
      · cases from_
  · rintro ⟨on, connected | connected⟩
    · exact ⟨_, connected, by simp [on]⟩
    · exact ⟨_, connected, by simp [on]⟩

theorem isOutside_iff (nodes : List String) (plug : String) :
    isOutside nodes plug = true ↔
      ∃ owner path, Plug.split? plug = some (owner, path) ∧ owner ∉ nodes := by
  unfold isOutside
  cases split : Plug.split? plug with
  | none => simp
  | some pair => simp [Prod.ext_iff]

theorem publication?_eq_some_iff (plug : String) (p : String × String) :
    publication? plug = some p ↔ ∃ node attr, Plug.split? plug = some (node, attr) ∧
      attr ≠ "message" ∧ p = (plug, exposedName node attr) := by
  unfold publication?
  cases split : Plug.split? plug with
  | none => simp
  | some pair =>
    obtain ⟨node, attr⟩ := pair
    by_cases message : attr = "message"
    · simp [message]
    · simp [message, eq_comm]

/-- What a group of nodes would publish if each plug was listed once for each connection of it that
crosses the boundary. -/
def crossings (s : Scene) (nodes : List String) : List (String × String) :=
  nodes.flatMap fun node => (s.connectionsOf node).filterMap fun ends =>
    if isOutside nodes ends.2 then publication? ends.1 else none

theorem publications_eq (s : Scene) (nodes : List String) :
    s.publications nodes = firstOfEach (s.crossings nodes) :=
  rfl

theorem mem_crossings_iff (s : Scene) (nodes : List String) (plug name : String) :
    (plug, name) ∈ s.crossings nodes ↔ s.Crosses nodes plug ∧
      ∃ node attr, Plug.split? plug = some (node, attr) ∧ name = exposedName node attr := by
  constructor
  · intro member
    obtain ⟨node, inGroup, listed⟩ := List.mem_flatMap.mp member
    obtain ⟨⟨inside, outside⟩, connected, published⟩ := List.mem_filterMap.mp listed
    dsimp only at published
    split at published
    · rename_i isOutside
      obtain ⟨on, entry⟩ := (s.mem_connectionsOf_iff node inside outside).mp connected
      obtain ⟨attr, split⟩ := (onNode_iff node inside).mp on
      obtain ⟨owner, path, splitOther, elsewhere⟩ := (isOutside_iff nodes outside).mp isOutside
      obtain ⟨_, _, splitAgain, noMessage, equal⟩ := (publication?_eq_some_iff _ _).mp published
      cases equal
      cases split.symm.trans splitAgain
      exact ⟨⟨node, attr, outside, owner, path, split, inGroup, noMessage, splitOther, elsewhere,
        entry⟩, node, attr, split, rfl⟩
    · cases published
  · rintro ⟨⟨node, attr, other, owner, path, split, inGroup, noMessage, splitOther, elsewhere,
      entry⟩, _, _, splitAgain, rfl⟩
    cases split.symm.trans splitAgain
    refine List.mem_flatMap.mpr ⟨node, inGroup, List.mem_filterMap.mpr ⟨(plug, other), ?_, ?_⟩⟩
    · have on := (onNode_iff node plug).mpr ⟨attr, split⟩
      exact (s.mem_connectionsOf_iff node plug other).mpr ⟨on, entry⟩
    · dsimp only
      rw [if_pos ((isOutside_iff nodes other).mpr ⟨owner, path, splitOther, elsewhere⟩)]
      exact (publication?_eq_some_iff _ _).mpr ⟨node, attr, split, noMessage, rfl⟩

/-- What a group of nodes publishes is exactly what crosses its boundary, under the exposed name. -/
theorem mem_publications_iff (s : Scene) (nodes : List String) (plug name : String) :
    (plug, name) ∈ s.publications nodes ↔ s.Crosses nodes plug ∧
      ∃ node attr, Plug.split? plug = some (node, attr) ∧ name = exposedName node attr := by
  rw [publications_eq]
  constructor
  · exact fun member => (s.mem_crossings_iff nodes plug name).mp (mem_of_mem_firstOfEach member)
  · intro crossing
    -- The first of the plug is listed, and the plug has one exposed name only.
    obtain ⟨⟨_, other⟩, listed, rfl⟩ :=
      exists_mem_firstOfEach ((s.mem_crossings_iff nodes plug name).mpr crossing)
    obtain ⟨_, _, _, split, rfl⟩ := crossing
    obtain ⟨_, _, _, splitAgain, rfl⟩ :=
      (s.mem_crossings_iff nodes _ _).mp (mem_of_mem_firstOfEach listed)
    cases split.symm.trans splitAgain
    exact listed

/-- What crosses a boundary exists. -/
theorem WellFormed.has_of_crosses {s : Scene} (wf : s.WellFormed) {nodes : List String}
    {plug : String} (crosses : s.Crosses nodes plug) : s.has plug = true := by
  obtain ⟨_, _, other, _, _, _, _, _, _, _, into | outOf⟩ := crosses
  · obtain ⟨found, there, _⟩ := Option.map_eq_some_iff.mp (wf.linked _ into).1
    exact has_of_place? there
  · obtain ⟨found, there, _⟩ := Option.map_eq_some_iff.mp (wf.linked _ outOf).2.1
    exact has_of_place? there

end Scene

/-! ### Filling a container -/

/-- Only the record of one container differs, and it is the given one. -/
structure Scene.Edits (container : String) (record : Container) (before after : Scene) : Prop where
  nodes : after.nodes = before.nodes
  values : after.values = before.values
  connections : after.connections = before.connections
  others : ∀ other, other ≠ container →
    after.containers.find? other = before.containers.find? other
  record : after.containers.find? container = some record

/-- A session in which only the record of one container differs, with no fault waiting for the calls
that fill a container. -/
structure Session.Fills (container : String) (record : Container) (s after : Session) : Prop where
  edits : Scene.Edits container record s.scene after.scene
  recorder : after.recorder = s.recorder
  spared : Fault.spares after.host.fault = true

theorem Scene.edits_editContainer {s after : Scene} {container : String} {found : Container}
    {edit : Container → Container} (known : s.containers.find? container = some found)
    (done : s.editContainer container edit = .ok after) :
    Scene.Edits container (edit found) s after := by
  obtain ⟨record, again, rfl⟩ := editContainer_eq_ok done
  cases known.symm.trans again
  exact ⟨rfl, rfl, rfl, fun other different => Table.find?_insert_other _ different _,
    Table.find?_insert_self _ _ _⟩

theorem Session.Fills.trans {container : String} {first second : Container} {s t u : Session}
    (early : Fills container first s t) (late : Fills container second t u) :
    Fills container second s u where
  edits :=
    { nodes := late.edits.nodes.trans early.edits.nodes
      values := late.edits.values.trans early.edits.values
      connections := late.edits.connections.trans early.edits.connections
      others := fun other different =>
        (late.edits.others other different).trans (early.edits.others other different)
      record := late.edits.record }
  recorder := late.recorder.trans early.recorder
  spared := late.spared

namespace Program

/-- A fault that spares the calls that fill a container lets them pass. -/
theorem exec_change_spared {c : Call} {edit : Scene → Except SceneError Scene} {s : Session}
    {scene : Scene} (filling : c.kind.fills = true) (spared : Fault.spares s.host.fault = true)
    (done : edit s.scene = .ok scene) :
    exec (change c edit) s = (.ok (), s.answered c .done scene s.host.fault) := by
  have passes : Fault.meet c s.host.fault = .waits s.host.fault := by
    unfold Fault.meet
    cases armed : s.host.fault with
    | none => rfl
    | some fault =>
      have other : fault.kind ≠ c.kind := by
        intro same
        rw [armed] at spared
        simp [Fault.spares, same, filling] at spared
      simp [other]
  rw [Session.scene] at done
  rw [change, exec_call, Host.take, passes]
  simp only [done]
  rfl

/-- Editing the record of a container by a call that no fault waits for. -/
theorem exec_edit (c : Call) (change : Scene → Except SceneError Scene)
    (edit : Container → Container) {container : String} {found : Container} {s : Session}
    (filling : c.kind.fills = true) (spared : Fault.spares s.host.fault = true)
    (known : s.scene.containers.find? container = some found)
    (edits : change s.scene = s.scene.editContainer container edit) :
    ∃ after, exec (Program.change c change) s = (.ok (), after) ∧
      Session.Fills container (edit found) s after := by
  have done : s.scene.editContainer container edit =
      .ok { s.scene with containers := s.scene.containers.insert container (edit found) } := by
    rw [Scene.editContainer, known]
  refine ⟨_, exec_change_spared filling spared (edits.trans done), ?_, rfl, spared⟩
  exact Scene.edits_editContainer known done

variable {container : String} {found : Container} {s : Session}

theorem exec_group {nodes : List String} (spared : Fault.spares s.host.fault = true)
    (known : s.scene.containers.find? container = some found)
    (there : ∀ node ∈ nodes, node ∈ s.scene.nodeNames) :
    ∃ after, exec (group container nodes) s = (.ok (), after) ∧
      Session.Fills container { found with members := Scene.appendNew found.members nodes } s
        after := by
  refine exec_edit (.group container nodes) (fun scene => scene.group container nodes)
    (fun record => { record with members := Scene.appendNew record.members nodes }) rfl spared
    known ?_
  have present : nodes.find? (fun node => !s.scene.hasNode node) = none := by
    rw [List.find?_eq_none]
    intro node member
    simp [(s.scene.hasNode_iff node).mpr (there node member)]
  rw [Scene.group, present]

theorem exec_exposeAll {publications : List (String × String)}
    (spared : Fault.spares s.host.fault = true)
    (known : s.scene.containers.find? container = some found)
    (there : ∀ publication ∈ publications, s.scene.has publication.1 = true) :
    ∃ after, exec (exposeAll container publications) s = (.ok (), after) ∧
      Session.Fills container { found with published := found.published ++ publications } s
        after := by
  induction publications generalizing s found with
  | nil =>
    refine ⟨s, rfl, ⟨rfl, rfl, rfl, fun _ _ => rfl, ?_⟩, rfl, spared⟩
    rw [known, List.append_nil]
  | cons publication rest inductionHypothesis =>
    obtain ⟨plug, name⟩ := publication
    obtain ⟨present, presentRest⟩ := List.forall_mem_cons.mp there
    obtain ⟨between, exposed, early⟩ :
        ∃ between, exec (expose container plug name) s = (.ok (), between) ∧
          Session.Fills container { found with published := found.published ++ [(plug, name)] } s
            between := by
      refine exec_edit (.expose container plug name) (fun scene => scene.expose container plug name)
        (fun record => { record with published := record.published ++ [(plug, name)] }) rfl spared
        known ?_
      rw [Scene.expose, if_pos present]
    have presentBetween : ∀ publication ∈ rest, between.scene.has publication.1 = true :=
      fun publication member =>
        (Scene.Grows.of_nodes early.edits.nodes).has (presentRest publication member)
    obtain ⟨after, exposedRest, late⟩ :=
      inductionHypothesis early.spared early.edits.record presentBetween
    refine ⟨after, ?_, ?_⟩
    · rw [exposeAll, exec_bind, exposed]
      exact exposedRest
    · have filled := early.trans late
      rwa [List.append_assoc] at filled

/-- Filling a container succeeds, and leaves in its record what was there and what was
collected. -/
theorem exec_populate (options : ContainerOptions) (wf : s.scene.WellFormed)
    (spared : Fault.spares s.host.fault = true)
    (known : s.scene.containers.find? container = some found)
    (there : ∀ node ∈ s.recorder.collected, node ∈ s.scene.nodeNames) :
    ∃ after, exec (populate ⟨options, some container⟩) s = (.ok (), after) ∧
      Session.Fills container
        { members := Scene.appendNew found.members s.recorder.collected
          published := found.published ++ s.scene.publications s.recorder.collected
          note := if options.notes = "" then found.note else some options.notes } s after := by
  obtain ⟨grouped, grouping, first⟩ := exec_group spared known there
  have published : grouped.scene.publications s.recorder.collected =
      s.scene.publications s.recorder.collected := by
    simp only [Scene.publications, Scene.connectionsOf, first.edits.connections]
  have present : ∀ publication ∈ s.scene.publications s.recorder.collected,
      grouped.scene.has publication.1 = true := by
    intro publication member
    have crosses := ((s.scene.mem_publications_iff _ _ _).mp member).1
    exact (Scene.Grows.of_nodes first.edits.nodes).has (wf.has_of_crosses crosses)
  obtain ⟨exposed, exposing, second⟩ := exec_exposeAll first.spared first.edits.record present
  -- Grouping connects nothing, so that the plugs looked up after it are those from before.
  have early : exec (populate ⟨options, some container⟩) s =
      exec (if options.notes ≠ "" then setNote container options.notes else pure ()) exposed := by
    show exec (get >>= _) s = _
    rw [exec_bind, exec_get]
    dsimp only
    rw [exec_bind, grouping]
    dsimp only
    rw [exec_bind, exec_scene]
    dsimp only
    rw [published, exec_bind, exposing]
  rw [early]
  by_cases silent : options.notes = ""
  · rw [if_neg (not_not_intro silent)]
    refine ⟨exposed, rfl, ?_⟩
    simpa [silent] using first.trans second
  · rw [if_pos silent]
    obtain ⟨after, noting, third⟩ := exec_edit (.note container options.notes)
      (fun scene => scene.setNote container options.notes)
      (fun record => { record with note := some options.notes }) rfl second.spared
      second.edits.record rfl
    refine ⟨after, noting, ?_⟩
    simpa [silent] using (first.trans second).trans third

/-! ### Opening and closing a scope -/

/-- Opening a scope starts collecting, with a new container that has an empty record. -/
theorem exec_openContainer_ok {options : ContainerOptions} {opened : Session}
    (opening : exec (openContainer options) s = (.ok ⟨options, some container⟩, opened)) :
    0 < opened.recorder.scopes ∧ opened.recorder.collected = [] ∧ s.Evolves opened ∧
      (Fault.spares s.host.fault = true → Fault.spares opened.host.fault = true) ∧
      container ∈ opened.scene.nodeNames ∧
      opened.scene.containers.find? container = some ⟨[], [], none⟩ := by
  obtain ⟨_, begun, beginning, rest⟩ := exec_bind_ok opening
  cases beginning
  dsimp only at rest
  split at rest
  · obtain ⟨assigned, between, creating, last⟩ := exec_bind_ok rest
    cases last
    have spares := spares_call (.createContainer options.name) .made
      (fun scene => scene.createContainer options.name)
      (s := { s with recorder := s.recorder.beginContainer })
    rcases exec_call_cases (.createContainer options.name) .made
        (fun scene => scene.createContainer options.name)
        { s with recorder := s.recorder.beginContainer } with
      ⟨e, fault, message, run⟩ | ⟨node, scene, fault, made, run⟩
    · cases run.symm.trans creating
    · rw [run] at spares
      cases run.symm.trans creating
      refine ⟨Nat.succ_pos _, rfl, Session.evolves_of_apply (.createContainer options.name) ?_,
        spares, ?_, ?_⟩
      · show (s.scene.createContainer options.name).map (·.2) = .ok scene
        rw [show s.scene.createContainer options.name = .ok (container, scene) from made]
        rfl
      · obtain ⟨created, assigning, rfl⟩ := Scene.createContainer_eq_ok made
        exact (Scene.adds_create assigning).there container (List.mem_singleton_self container)
      · obtain ⟨created, _, rfl⟩ := Scene.createContainer_eq_ok made
        exact Table.find?_insert_self _ _ _
  · cases rest

/-- A scope whose container was filled is closed in the same way with and without asking for the
container. -/
theorem exec_close {scope : ContainerScope} {after : Session}
    (filled : exec (populate scope) s = (.ok (), after)) :
    exec (finishContainer scope) s =
        (.ok scope.container, { after with recorder := after.recorder.endContainer }) ∧
      exec (dropContainer scope) s =
        (.ok (), { after with recorder := after.recorder.endContainer }) := by
  constructor
  · rw [finishContainer, exec_bind, exec_outcome, filled]
    rfl
  · rw [dropContainer, exec_bind, exec_outcome, filled]
    rfl

end Program

/-! ### What a scope leaves behind -/

theorem Scene.appendNew_of_nodup {present new : List String} (nodup : (present ++ new).Nodup) :
    appendNew present new = present ++ new := by
  induction new generalizing present with
  | nil => simp [appendNew]
  | cons x rest inductionHypothesis =>
    have fresh : x ∉ present := fun member =>
      (List.nodup_append.mp nodup).2.2 x member x List.mem_cons_self rfl
    have shifted : (present ++ [x]) ++ rest = present ++ x :: rest := List.append_cons .. |>.symm
    rw [appendNew, if_neg fresh, inductionHypothesis (shifted ▸ nodup), shifted]

/-- A container has taken in nodes and published plugs, and nothing else has changed. What is
published is what crosses the boundary of the nodes, each plug once. -/
structure Scene.Populates (container : String) (nodes : List String) (notes : String)
    (published : List (String × String)) (before after : Scene) : Prop where
  edits : ∃ found, before.containers.find? container = some found ∧
    Scene.Edits container
      { members := appendNew found.members nodes
        published := found.published ++ published
        note := if notes = "" then found.note else some notes } before after
  distinct : (published.map (·.1)).Nodup
  exact : ∀ plug name, (plug, name) ∈ published ↔ before.Crosses nodes plug ∧
    ∃ node attr, Plug.split? plug = some (node, attr) ∧ name = exposedName node attr

namespace Program

/-- Whatever happens between the opening of a scope with a container and its closing, as long as no
other scope is opened or closed: filling the container succeeds. The container takes in exactly the
nodes that the session created meanwhile, in the order of their creation, and publishes exactly the
plugs on them that are connected with plugs elsewhere; its note is set if there is one to set; and
nothing else changes. Unless somebody wrote to the container past the session, that is all that its
record says. -/
theorem closing_populates (o : Options) {options : ContainerOptions} {container : String}
    {s opened : Session} (reachable : s.scene.Reachable)
    (spared : Fault.spares s.host.fault = true)
    (opening : exec (openContainer options) s = (.ok ⟨options, some container⟩, opened))
    (happenings : List Happening)
    (inside : ∀ happening ∈ happenings, happening.isInside = true) :
    ∃ before entries published closed, before = opened.undergo o happenings ∧
      before.host.journal = opened.host.journal ++ entries ∧
      exec (finishContainer ⟨options, some container⟩) before = (.ok (some container), closed) ∧
      exec (dropContainer ⟨options, some container⟩) before = (.ok (), closed) ∧
      Scene.Populates container (createdNodes entries) options.notes published before.scene
        closed.scene ∧
      ((∀ happening ∈ happenings, happening.container? ≠ some container) →
        closed.scene.containers.find? container = some ⟨createdNodes entries, published,
          if options.notes = "" then none else some options.notes⟩) := by
  obtain ⟨isOpen, empty, evolves, spares, there, recorded⟩ := exec_openContainer_ok opening
  have tends := opened.tends_undergo o (fun container =>
    ∃ happening ∈ happenings, happening.container? = some container) happenings inside
    fun happening member container addressed => ⟨happening, member, addressed⟩
  obtain ⟨entries, journal, adds, collects⟩ := tends.gathers.created
  have collected : (opened.undergo o happenings).recorder.collected = createdNodes entries := by
    rw [collects isOpen, empty, List.nil_append]
  have wf := tends.evolves.wellFormed (evolves.wellFormed reachable.wellFormed)
  -- The record may have been written to, but it is still there.
  obtain ⟨found, known⟩ := Option.isSome_iff_exists.mp
    (tends.known container (Option.isSome_of_eq_some recorded))
  obtain ⟨after, filled, fills⟩ := exec_populate options wf
    (tends.gathers.spares (spares spared)) known (collected ▸ adds.there)
  obtain ⟨finished, dropped⟩ := exec_close filled
  rw [collected] at fills
  refine ⟨_, entries, (opened.undergo o happenings).scene.publications (createdNodes entries), _,
    rfl, journal, finished, dropped, ⟨⟨found, known, fills.edits⟩, nodup_firstOfEach _, ?_⟩, ?_⟩
  · exact (opened.undergo o happenings).scene.mem_publications_iff (createdNodes entries)
  · intro unaddressed
    have untouched := tends.same container there fun ⟨happening, member, addressed⟩ =>
      unaddressed happening member addressed
    cases (untouched.trans recorded).symm.trans known
    have members : Scene.appendNew [] (createdNodes entries) = createdNodes entries :=
      Scene.appendNew_of_nodup adds.distinct
    show after.scene.containers.find? container = _
    simpa [members] using fills.edits.record

/-- A product and a failing step inside a scope, and a connection past the session from the product
to a transform. -/
theorem closing_populates_product :
    let s := Session.start (.ofScene (Scene.empty.run [.addTransform "pCube1"]) "")
    let options : ContainerOptions := ⟨"box", "scaled", true⟩
    let happenings : List Happening :=
      [.openTracer .default, .step (.act (.apply "mul" [.path "pCube1.t", .number 2])),
        .step (.act (.apply "mul" [.path "pCube9.t", .number 2])),
        .step (.write (.connect "nc_MUL_t_2_multiplyDivide.outputX" "pCube1.rx" true))]
    ∃ opened before closed entries published,
      exec (openContainer options) s = (.ok ⟨options, some "box"⟩, opened) ∧
      before = opened.undergo .default happenings ∧
      before.scene.nodeNames = ["pCube1", "box", "nc_MUL_t_2_multiplyDivide"] ∧
      before.host.journal = opened.host.journal ++ entries ∧
      exec (finishContainer ⟨options, some "box"⟩) before = (.ok (some "box"), closed) ∧
      Scene.Populates "box" (createdNodes entries) "scaled" published before.scene closed.scene ∧
      closed.scene.containers.find? "box" =
        some ⟨createdNodes entries, published, some "scaled"⟩ := by
  intro s options happenings
  have opening : exec (openContainer options) s =
      (.ok ⟨options, some "box"⟩, (exec (openContainer options) s).2) := by
    have opened : (exec (openContainer options) s).1 = .ok ⟨options, some "box"⟩ := by
      decide +kernel
    exact Prod.ext opened rfl
  have reachable : s.scene.Reachable := ⟨_, rfl⟩
  obtain ⟨before, entries, published, closed, reached, journal, finished, _, populates,
    untouched⟩ := closing_populates .default reachable rfl opening happenings (by decide)
  have named : before.scene.nodeNames = ["pCube1", "box", "nc_MUL_t_2_multiplyDivide"] := by
    rw [reached]
    decide +kernel
  exact ⟨_, before, closed, entries, published, opening, reached, named, journal, finished,
    populates, untouched (by decide)⟩

/-- A write past the session may put nodes into the container of an open scope. They stay in its
record, though the session has not created them. -/
theorem closing_keeps_written_member :
    let s := Session.start (.ofScene (Scene.empty.run [.addTransform "pCube1"]) "")
    let opened := (exec (openContainer .default) s).2
    let before := opened.undergo .default
      [.step (.write (.group "noca_formula_container" ["pCube1"]))]
    let scope : ContainerScope := ⟨.default, some "noca_formula_container"⟩
    (exec (openContainer .default) s).1 = .ok scope ∧
      before.host.journal = opened.host.journal ∧
      (exec (finishContainer scope) before).1 = .ok (some "noca_formula_container") ∧
      (exec (finishContainer scope) before).2.scene.containers.find? "noca_formula_container" =
        some ⟨["pCube1"], [], none⟩ := by
  decide +kernel

end Program

end FormulaNet
