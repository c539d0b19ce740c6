/-
This file says what adding an attribute does. The new name is free of marks and
not in use on its node, be it by a child of an array that has no plug of its
own. So no path but the bare name designates the new attribute, and what was
designated before stays so. Numbers and connections are stored under canonical
plugs only, none of which is the new one: it starts with its default and without
a source. An attribute that was added once is there ever after, and asking for
it again is no more than a warning.
-/

import FormulaNet.Proofs.Gathering
import FormulaNet.Proofs.Wiring

namespace FormulaNet

/-! ### Paths to a new attribute -/

/-- A path without index and tail is the bare name. -/
theorem AttrPath.eq_of_read?_bare {text name : String}
    (read : AttrPath.read? text = some ⟨name, none, none⟩) : text = name := by
  rw [read?] at read
  split at read
  · obtain ⟨⟨_, _⟩, segment, equal⟩ := Option.map_eq_some_iff.mp read
    simp only [AttrPath.mk.injEq] at equal
    obtain ⟨rfl, rfl, _⟩ := equal
    rw [readSegment?] at segment
    split at segment
    · exact (Prod.mk.inj (Option.some.inj segment)).1
    · split at segment
      · obtain ⟨_, _, indexed⟩ := Option.map_eq_some_iff.mp segment
        cases indexed
      · cases segment
  · obtain ⟨⟨_, _⟩, _, tailed⟩ := Option.map_eq_some_iff.mp read
    cases tailed

namespace Layout

variable {layout : Layout} {name : String}

/-- A scalar answers to its name only. -/
theorem attribute?_append_scalar_of_none (default : Float) {other : String}
    (missing : layout.attribute? other = none) :
    attribute? (layout ++ [.scalar name none default]) other =
      if other = name then some (.scalar name none default) else none := by
  rw [attribute?, List.find?_append, ← attribute?, missing, Option.none_or]
  by_cases same : other = name
  · simp [same, Attribute.answersTo, Attribute.scalar]
  · simp [same, Attribute.answersTo, Attribute.scalar, Ne.symm same]

/-- A scalar has no children. -/
theorem child?_append_scalar (default : Float) (other : String) :
    child? (layout ++ [.scalar name none default]) other = layout.child? other := by
  rw [child?, List.findSome?_append, ← child?]
  simp [Attribute.scalar, Attribute.child?]

variable (free : name ∉ layout.names)
include free

theorem attribute?_eq_none : layout.attribute? name = none := by
  cases found : layout.attribute? name with
  | none => rfl
  | some a =>
    obtain ⟨member, named⟩ := mem_of_attribute? found
    exact absurd (mem_names member (Attribute.mem_names_of_own named)) free

theorem child?_eq_none : layout.child? name = none := by
  cases found : layout.child? name with
  | none => rfl
  | some pair =>
    obtain ⟨member, _, inside, named⟩ := mem_of_child? found
    exact absurd (mem_names member (Attribute.mem_names_of_child inside named)) free

variable (unmarked : name.toList.any Scene.isPathMark = false)
include unmarked

omit free in
theorem read?_unmarked : AttrPath.read? name = some ⟨name, none, none⟩ := by
  have plain (mark : Char) (marks : Scene.isPathMark mark = true) : mark ∉ name.toList := by
    intro inside
    rw [List.any_eq_true.mpr ⟨mark, inside, marks⟩] at unmarked
    cases unmarked
  exact AttrPath.read?_name (plain '.' rfl) (plain '[' rfl)

/-- A free name designates nothing. -/
theorem find?_eq_none : layout.find? name = none := by
  rw [find?, read?_unmarked unmarked, Option.bind_some, locate?, attribute?_eq_none free]
  simp [child?_eq_none free]

/-- A scalar under a free name is designated by its name alone. -/
theorem find?_append_scalar_iff (default : Float) (text : String) (place : Place) :
    find? (layout ++ [.scalar name none default]) text = some place ↔
      layout.find? text = some place ∨
        (text = name ∧ place = .whole (.scalar name none default)) := by
  constructor
  · intro found
    obtain ⟨⟨first, index, tail⟩, read, located⟩ := Option.bind_eq_some_iff.mp found
    rw [find?, read, Option.bind_some]
    rw [locate?] at located ⊢
    dsimp only at located ⊢
    cases present : layout.attribute? first with
    | some a =>
      rw [attribute?_append _ present] at located
      exact Or.inl located
    | none =>
      rw [attribute?_append_scalar_of_none default present] at located
      by_cases same : first = name
      · -- The scalar is no array and has no children, so there is neither index nor tail.
        subst same
        rw [if_pos rfl] at located
        cases index with
        | some i => cases tail <;> cases located
        | none =>
          cases tail with
          | some child => cases located
          | none => exact Or.inr ⟨AttrPath.eq_of_read?_bare read, (Option.some.inj located).symm⟩
      · rw [if_neg same, child?_append_scalar] at located
        exact Or.inl located
  · rintro (old | ⟨rfl, rfl⟩)
    · exact find?_append_scalar free default old
    · rw [find?, read?_unmarked unmarked, Option.bind_some, locate?,
        attribute?_append_scalar_of_none default (attribute?_eq_none free), if_pos rfl]

end Layout

/-! ### One plug more -/

namespace Scene

variable {s after : Scene} {node name : String} {default : Float}

section Adding

variable (wf : s.WellFormed) (done : s.addAttribute node name default = .ok after)
include wf done

/-- The plug of a new attribute designates it, and nothing else designates anything new. -/
theorem WellFormed.place?_addAttribute_iff (plug owner : String) (place : Place) :
    after.place? plug = some (owner, place) ↔
      s.place? plug = some (owner, place) ∨
        (plug = Plug.join node name ∧ owner = node ∧
          place = .whole (.scalar name none default)) := by
  have grows := grows_addAttribute done
  obtain ⟨filled, unmarked, n, found, free, rfl⟩ := addAttribute_eq_ok done
  obtain ⟨member, named⟩ := mem_of_node? found
  have nodeAfter : (s.withAttribute node (.scalar name none default)).node? node =
      some { n with layout := n.layout ++ [.scalar name none default] } := by
    rw [node?_withAttribute, found, Option.map_some, extended, if_pos named]
  constructor
  · intro there
    obtain ⟨attr, m, split, foundOwner, located⟩ := (place?_eq_some_iff _ _ _ _).mp there
    by_cases same : owner = node
    · subst same
      cases nodeAfter.symm.trans foundOwner
      refine ((Layout.find?_append_scalar_iff free unmarked default attr place).mp located).imp
        (fun old => (s.place?_eq_some_iff _ _ _).mpr ⟨attr, n, split, found, old⟩) ?_
      rintro ⟨rfl, rfl⟩
      exact ⟨(Plug.join_of_split? split).symm, rfl, rfl⟩
    · left
      have kept := node?_withAttribute s node (.scalar name none default) owner
      rw [show (s.withAttribute node _).node? owner = some m from foundOwner] at kept
      obtain ⟨m, foundBefore, rfl⟩ := Option.map_eq_some_iff.mp kept.symm
      rw [extended, if_neg ((mem_of_node? foundBefore).2 ▸ same)] at located
      exact (s.place?_eq_some_iff _ _ _).mpr ⟨attr, m, split, foundBefore, located⟩
  · rintro (old | ⟨rfl, rfl, rfl⟩)
    · exact grows.places _ _ old
    · obtain ⟨nodeFilled, noDot⟩ := wf.named n member
      rw [named] at nodeFilled noDot
      refine (place?_eq_some_iff _ _ _ _).mpr ⟨name, _,
        Plug.split?_join owner name nodeFilled noDot filled, nodeAfter, ?_⟩
      exact (Layout.find?_append_scalar_iff free unmarked default _ _).mpr (Or.inr ⟨rfl, rfl⟩)

theorem WellFormed.place?_new : after.place? (Plug.join node name) =
    some (node, .whole (.scalar name none default)) :=
  (wf.place?_addAttribute_iff done _ _ _).mpr (Or.inr ⟨rfl, rfl, rfl⟩)

/-- The plug of a new attribute designates nothing before it is added. -/
theorem WellFormed.place?_before : s.place? (Plug.join node name) = none := by
  obtain ⟨_, unmarked, n, found, free, _⟩ := addAttribute_eq_ok done
  cases there : s.place? (Plug.join node name) with
  | none => rfl
  | some pair =>
    obtain ⟨_, located⟩ := wf.find?_of_place? found there
    rw [Layout.find?_eq_none free unmarked] at located
    cases located

/-- One text more is there. -/
theorem WellFormed.has_addAttribute_iff (text : String) :
    after.has text = true ↔ s.has text = true ∨ text = Plug.join node name := by
  have names : after.nodeNames = s.nodeNames := by
    obtain ⟨_, _, _, _, _, rfl⟩ := addAttribute_eq_ok done
    exact nodeNames_withAttribute s node _
  rw [has_iff, has_iff, names]
  constructor
  · rintro (isPlug | isNode)
    · obtain ⟨⟨owner, place⟩, there⟩ := Option.isSome_iff_exists.mp isPlug
      rcases (wf.place?_addAttribute_iff done _ _ _).mp there with old | ⟨new, _⟩
      · exact Or.inl (Or.inl (Option.isSome_of_eq_some old))
      · exact Or.inr new
    · exact Or.inl (Or.inr isNode)
  · rintro ((isPlug | isNode) | rfl)
    · obtain ⟨found, there⟩ := Option.isSome_iff_exists.mp isPlug
      exact Or.inl (Option.isSome_of_eq_some ((grows_addAttribute done).places _ _ there))
    · exact Or.inr isNode
    · exact Or.inl (Option.isSome_of_eq_some (wf.place?_new done))

end Adding

/-! ### What is said about plugs -/

/-- Two scenes that say the same about a plug, whatever they are asked. -/
structure AnswersAlike (s after : Scene) (plug : String) : Prop where
  canonical : after.canonical? plug = s.canonical? plug
  attributes : ∀ node attr, Plug.split? plug = some (node, attr) →
    after.children? node attr = s.children? node attr ∧
      after.parent? node attr = s.parent? node attr ∧
      after.longName? node attr = s.longName? node attr
  reading : after.read plug = s.read plug
  value : after.valueOf? plug = s.valueOf? plug
  source : after.sourceOf? plug = s.sourceOf? plug

/-- Scenes that store the same say the same about a plug that designates the same. -/
theorem answersAlike_of_place? (values : after.values = s.values)
    (connections : after.connections = s.connections) {plug : String}
    (same : after.place? plug = s.place? plug) : s.AnswersAlike after plug := by
  have canonical : after.canonical? plug = s.canonical? plug := by
    rw [canonical?, canonical?, same]
  have stored : after.stored = s.stored := by
    funext node path default
    rw [Scene.stored, Scene.stored, values]
  have located (node attr : String) (split : Plug.split? plug = some (node, attr)) :
      after.locate? node attr = s.locate? node attr := by
    rw [place?, place?, split] at same
    exact Option.map_inj_right (fun _ _ equal => (Prod.mk.inj equal).2) |>.mp same
  refine ⟨canonical, ?_, ?_, ?_, ?_⟩
  · intro node attr split
    rw [children?, children?, parent?, parent?, longName?, longName?, located node attr split]
    exact ⟨rfl, rfl, rfl⟩
  · have placed : after.placeOf plug = s.placeOf plug := by
      rw [placeOf, placeOf]
      split
      · rfl
      · rename_i node attr split
        rw [located node attr split]
    have reads : after.readPlace = s.readPlace := by
      funext node place
      rw [readPlace, readPlace, stored]
    rw [read, read, placed, reads]
  · rw [valueOf?, valueOf?, same, stored]
  · rw [sourceOf?, sourceOf?, canonical, connections]

/-- All but the new plug is as it was. -/
theorem WellFormed.answersAlike_addAttribute (wf : s.WellFormed)
    (done : s.addAttribute node name default = .ok after) {plug : String}
    (other : plug ≠ Plug.join node name) : s.AnswersAlike after plug := by
  have same : after.place? plug = s.place? plug := by
    refine Option.ext fun found => ?_
    obtain ⟨owner, place⟩ := found
    rw [wf.place?_addAttribute_iff done]
    exact or_iff_left fun new => other new.1
  obtain ⟨_, _, _, _, _, now⟩ := addAttribute_eq_ok done
  exact answersAlike_of_place? (by rw [now]) (by rw [now]) same

/-- A plug of one channel that belongs to no compound, holds a given number and is not connected. -/
structure Untouched (s : Scene) (node name : String) (default : Float) : Prop where
  split : Plug.split? (Plug.join node name) = some (node, name)
  canonical : s.canonical? (Plug.join node name) = some (Plug.join node name)
  width : s.width? (Plug.join node name) = some 1
  children : s.children? node name = none
  parent : s.parent? node name = none
  reading : s.read (Plug.join node name) = .ok (.number default)
  value : s.valueOf? (Plug.join node name) = some default
  source : s.sourceOf? (Plug.join node name) = none

/-- Nothing is stored under a text that is no canonical plug. -/
theorem WellFormed.unstored (wf : s.WellFormed) {plug : String} (missing : s.place? plug = none) :
    s.values.find? plug = none ∧ s.connections.find? plug = none := by
  have noPlug : s.canonical? plug = none := by rw [canonical?, missing]; rfl
  refine ⟨?_, ?_⟩
  · cases held : s.values.find? plug with
    | none => rfl
    | some value =>
      have known := (wf.valued _ (Table.mem_entries_of_find? held)).1
      rw [noPlug] at known
      cases known
  · cases connected : s.connections.find? plug with
    | none => rfl
    | some source =>
      have known := (wf.linked _ (Table.mem_entries_of_find? connected)).1
      rw [noPlug] at known
      cases known

theorem WellFormed.untouched_new (wf : s.WellFormed)
    (done : s.addAttribute node name default = .ok after) :
    after.Untouched node name default := by
  have there := wf.place?_new done
  obtain ⟨noValue, noSource⟩ := wf.unstored (wf.place?_before done)
  obtain ⟨filled, _, n, found, _, now⟩ := addAttribute_eq_ok done
  obtain ⟨member, named⟩ := mem_of_node? found
  obtain ⟨nodeFilled, noDot⟩ := wf.named n member
  rw [named] at nodeFilled noDot
  have split := Plug.split?_join node name nodeFilled noDot filled
  have located : after.locate? node name = some (.whole (.scalar name none default)) := by
    rw [place?, split] at there
    obtain ⟨_, isPlace, equal⟩ := Option.map_eq_some_iff.mp there
    rw [isPlace, (Prod.mk.inj equal).2]
  have held : after.stored node name default = default := by
    rw [stored, now, show ({ s with nodes := _ } : Scene).values = s.values from rfl, noValue]
    rfl
  refine ⟨split, ?_, ?_, ?_, ?_, ?_, ?_, ?_⟩
  · rw [canonical?, there]
    rfl
  · rw [width?, there]
    rfl
  · rw [children?, located]
    rfl
  · rw [parent?, located]
    rfl
  · rw [read, (after.placeOf_eq_ok_iff _ _).mpr there]
    exact congrArg (fun v => Except.ok (Primitive.number v)) held
  · rw [valueOf?, there]
    exact congrArg some held
  · rw [sourceOf?, canonical?, there, now]
    exact noSource

end Scene

/-! ### Adding again -/

/-- A run of changes lets the scene grow. -/
theorem Scene.grows_run (s : Scene) (changes : List Change) : Grows s (s.run changes) := by
  induction changes generalizing s with
  | nil => exact .refl s
  | cons change rest inductionHypothesis =>
    exact (s.grows_after change).trans (inductionHypothesis (s.after change))

theorem Session.Evolves.grows {s after : Session} (evolves : s.Evolves after) :
    Scene.Grows s.scene after.scene := by
  obtain ⟨changes, reached⟩ := evolves
  rw [reached]
  exact s.scene.grows_run changes

namespace Program

variable {o : Options} {node name : String} {spec : AttributeSpec} {s after : Session}
  {result : Reference}

/-- An attribute that is there is given back, with a warning and nothing else. -/
theorem exec_addUserAttribute_of_has (o : Options) (spec : AttributeSpec)
    (there : s.scene.has (Plug.join node (attributeName name)) = true) :
    exec (addUserAttribute o node name spec) s =
      (.ok (.parse (Plug.join node (attributeName name))),
        { s with warnings := s.warnings ++ [.attributeExists] }) := by
  rw [addUserAttribute, exec_bind, exec_scene]
  dsimp only
  rw [if_pos there]
  rfl

/-- An attribute that is not there is added, and given back if there is no value to set. -/
theorem exec_addUserAttribute_of_not_has (o : Options)
    (missing : s.scene.has (Plug.join node (attributeName name)) = false)
    (unset : spec.value = none) :
    exec (addUserAttribute o node name spec) s =
      ((exec (addAttribute node (attributeName name) spec) s).1.map fun _ =>
          .parse (Plug.join node (attributeName name)),
        (exec (addAttribute node (attributeName name) spec) s).2) := by
  rw [addUserAttribute, exec_bind, exec_scene]
  dsimp only
  rw [if_neg (by simp [missing]), unset]
  exact exec_wrap _ _ s

theorem place?_of_addAttribute (wf : s.scene.WellFormed)
    (run : exec (addAttribute node name spec) s = (.ok (), after)) :
    after.scene.place? (Plug.join node name) =
      some (node, .whole (.scalar name none spec.default)) := by
  rcases exec_addAttribute_cases node name spec s with
    ⟨e, fault, message, failed⟩ | ⟨scene, fault, done, added⟩
  · rw [failed] at run
    cases run
  · rw [added] at run
    cases run
    exact wf.place?_new done

/-- An attribute that was added is there, and what is given back names it. -/
theorem has_of_addUserAttribute (wf : s.scene.WellFormed)
    (run : exec (addUserAttribute o node name spec) s = (.ok result, after)) :
    after.scene.has (Plug.join node (attributeName name)) = true ∧
      result = .parse (Plug.join node (attributeName name)) := by
  by_cases there : s.scene.has (Plug.join node (attributeName name)) = true
  · rw [exec_addUserAttribute_of_has o spec there] at run
    cases run
    exact ⟨there, rfl⟩
  · rw [addUserAttribute, exec_bind, exec_scene] at run
    dsimp only at run
    rw [if_neg there] at run
    obtain ⟨_, between, adding, setting⟩ := exec_bind_ok run
    have placed := place?_of_addAttribute wf adding
    -- the value is set by changes of the scene, which take nothing away
    cases given : spec.value with
    | none =>
      rw [given] at setting
      cases setting
      exact ⟨Scene.has_of_place? placed, rfl⟩
    | some v =>
      rw [given] at setting
      obtain ⟨_, last, set, ending⟩ := exec_bind_ok setting
      cases ending
      have respects : Respects Session.Evolves
          (setOrConnect o (Reference.parse (Plug.join node (attributeName name))).toOperand
            (.number v)) :=
        (covers_evolves o.force).setOrConnect fun _ _ => trivial
      have evolves := respects between
      rw [set] at evolves
      exact ⟨Scene.has_of_place? (evolves.grows.places _ _ placed), rfl⟩

/-- Adding an attribute adds its plug, which starts out untouched, and nothing else is there or
answers otherwise than before. Once added, an attribute is there and is only given back. -/
theorem addAttribute_adds_one_plug (scene : Scene) (reachable : scene.Reachable)
    (node name : String) :
    (∀ default after, scene.addAttribute node name default = .ok after →
      scene.has (Plug.join node name) = false ∧
        (∀ text, after.has text = true ↔ scene.has text = true ∨ text = Plug.join node name) ∧
        (∀ text, text ≠ Plug.join node name → scene.AnswersAlike after text) ∧
        after.Untouched node name default) ∧
      ∀ (o again : Options) (spec other : AttributeSpec) (s after : Session) (result : Reference),
        s.scene = scene → exec (addUserAttribute o node name spec) s = (.ok result, after) →
          after.scene.has (Plug.join node (attributeName name)) = true ∧
            exec (addUserAttribute again node name other) after =
              (.ok result, { after with warnings := after.warnings ++ [.attributeExists] }) := by
  have wf := reachable.wellFormed
  refine ⟨?_, ?_⟩
  · intro default after done
    refine ⟨?_, wf.has_addAttribute_iff done,
      fun text other => wf.answersAlike_addAttribute done other, wf.untouched_new done⟩
    have missing := wf.place?_before done
    rw [Scene.place?, (wf.untouched_new done).split] at missing
    rw [Scene.has, (wf.untouched_new done).split]
    exact Option.isSome_eq_false_iff.mpr (Option.isNone_iff_eq_none.mpr
      (Option.map_eq_none_iff.mp missing))
  · rintro o again spec other s after result rfl run
    obtain ⟨there, rfl⟩ := has_of_addUserAttribute wf run
    exact ⟨there, exec_addUserAttribute_of_has again other there⟩

/-- An average with a number and a connection in its array gets an attribute that is called almost
like a child of the array. -/
theorem addAttribute_adds_one_plug_average :
    ∃ (scene : Scene) (s : Session), scene.Reachable ∧ s.scene = scene ∧
      scene.values.entries = [("pma.input3D[1].input3Dx", 2)] ∧
      scene.connections.entries = [("pma.input3D[0].input3Dy", "pCube1.translateX")] ∧
      (∃ after, scene.addAttribute "pma" "input3Dw" 0.25 = .ok after ∧
        (∀ text, after.has text = true ↔ scene.has text = true ∨ text = "pma.input3Dw") ∧
        scene.AnswersAlike after "pma.input3D[1].input3Dx" ∧
        after.Untouched "pma" "input3Dw" 0.25) ∧
      ∃ result after,
        exec (addUserAttribute .default "pma" "input3Dw" { value := some 3 }) s =
          (.ok result, after) ∧
        after.scene.has "pma.input3Dw" = true ∧
        exec (addUserAttribute .default "pma" "input3Dw" { kind := .int }) after =
          (.ok result, { after with warnings := after.warnings ++ [.attributeExists] }) := by
  let changes : List Scene.Change := [.create "plusMinusAverage" "pma",
    .set "pma.input3D[1].input3Dx" 2, .addTransform "pCube1",
    .connect "pCube1.tx" "pma.input3D[0].input3Dy" false]
  have values : (Scene.empty.run changes).values.entries = [("pma.input3D[1].input3Dx", 2)] := by
    decide +kernel
  have connections : (Scene.empty.run changes).connections.entries =
      [("pma.input3D[0].input3Dy", "pCube1.translateX")] := by
    decide +kernel
  have adds : ((Scene.empty.run changes).addAttribute "pma" "input3Dw" 0.25).isOk = true := by
    decide +kernel
  have runs : (exec (addUserAttribute .default "pma" "input3Dw" { value := some 3 })
      (.start (.ofScene (Scene.empty.run changes) ""))).1.isOk = true := by
    decide +kernel
  obtain ⟨s, scene, runsOn⟩ : ∃ s : Session, s.scene = Scene.empty.run changes ∧
      (exec (addUserAttribute .default "pma" "input3Dw" { value := some 3 }) s).1.isOk = true :=
    ⟨_, rfl, runs⟩
  obtain ⟨onePlug, again⟩ :=
    addAttribute_adds_one_plug (Scene.empty.run changes) ⟨_, rfl⟩ "pma" "input3Dw"
  refine ⟨_, s, ⟨_, rfl⟩, scene, values, connections, ?_, ?_⟩
  · cases done : (Scene.empty.run changes).addAttribute "pma" "input3Dw" 0.25 with
    | error e =>
      rw [done] at adds
      cases adds
    | ok after =>
      obtain ⟨_, texts, others, untouched⟩ := onePlug 0.25 after done
      exact ⟨after, rfl, texts, others _ (by decide), untouched⟩
  · cases run : exec (addUserAttribute .default "pma" "input3Dw" { value := some 3 }) s with
    | mk answer after =>
      rw [run] at runsOn
      cases answer with
      | error e => cases runsOn
      | ok result => exact ⟨result, after, rfl, again _ _ _ _ s after result scene run⟩

end Program

end FormulaNet
