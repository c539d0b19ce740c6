/-
This file proves that it does not matter how a plug is spelled. Whatever a scene
is asked about a plug, it answers from the place that the plug designates, and a
plug designates the same place as its canonical spelling. Two wirings whose
channels are spelled differently therefore have the same strands and so the same
plan up to spelling, and each of their links is refused in both or changes the
scene in the same way in both. Since wiring changes no node, this stays so from
one link to the next.
-/

import FormulaNet.Proofs.Parallel
import FormulaNet.Proofs.Reachable

namespace FormulaNet

namespace Scene

/-! ### Answers from places -/

theorem placeOf_toOption (s : Scene) (plug : String) :
    (s.placeOf plug).toOption = s.place? plug := by
  rw [placeOf, place?]
  rcases Plug.split? plug with _ | ⟨node, attr⟩
  · rfl
  · dsimp only
    cases s.locate? node attr <;> rfl

/-- What setting a plug comes to depends on its place only. -/
theorem set_toOption_congr {s : Scene} {plug other : String} (same : s.place? plug = s.place? other)
    (value : Float) : (s.set plug value).toOption = (s.set other value).toOption := by
  rw [← placeOf_toOption, ← placeOf_toOption] at same
  rw [set, set]
  cases first : s.placeOf plug <;> cases second : s.placeOf other <;>
    rw [first, second] at same <;> cases same
  · rfl
  · dsimp only
    split <;> rfl

/-- What connecting two plugs comes to depends on their places only. -/
theorem connect_toOption_congr {s : Scene} {source sourceOther dest destOther : String}
    (sources : s.place? source = s.place? sourceOther) (dests : s.place? dest = s.place? destOther)
    (force : Bool) :
    (s.connect source dest force).toOption = (s.connect sourceOther destOther force).toOption := by
  rw [← placeOf_toOption, ← placeOf_toOption] at sources dests
  rw [connect, connect]
  cases first : s.placeOf source <;> cases second : s.placeOf sourceOther <;>
    rw [first, second] at sources <;> cases sources
  · rfl
  · cases third : s.placeOf dest <;> cases fourth : s.placeOf destOther <;>
      rw [third, fourth] at dests <;> cases dests
    · rfl
    · dsimp only
      split
      · rfl
      · split
        · rfl
        · split <;> rfl

/-- The strand of a plug is read off its place. -/
theorem strand?_plug (s : Scene) (plug : String) :
    s.strand? (.plug plug) = (s.place? plug).bind fun (node, place) =>
      place.parent?.map fun parent => ⟨node, parent, place.path⟩ := by
  unfold strand? place?
  simp only [Channel.plug?, Option.bind_eq_bind, Option.bind_some, parent?, longName?]
  cases Plug.split? plug with
  | none => rfl
  | some pair =>
    obtain ⟨node, attr⟩ := pair
    simp only [Option.bind_some]
    cases s.locate? node attr with
    | none => rfl
    | some place => cases place <;> rfl

theorem place?_of_nodes {s other : Scene} (nodes : other.nodes = s.nodes) (plug : String) :
    other.place? plug = s.place? plug := by
  simp only [place?, locate?, node?, nodes]

theorem has_of_nodes {s other : Scene} (nodes : other.nodes = s.nodes) (path : String) :
    other.has path = s.has path := by
  simp only [has, hasNode, locate?, node?, nodes]

theorem plugChannels_of_nodes {s other : Scene} (nodes : other.nodes = s.nodes) (plug : String) :
    other.plugChannels plug = s.plugChannels plug := by
  simp only [plugChannels, children?, locate?, node?, nodes]

mutual

/-- How an operand is taken apart depends on the nodes only. -/
theorem unravel_of_nodes {s other : Scene} (nodes : other.nodes = s.nodes) (operand : Operand) :
    other.unravel operand = s.unravel operand := by
  cases operand with
  | number v => rfl
  | value v => rfl
  | path plug => rw [unravel, unravel, has_of_nodes nodes, plugChannels_of_nodes nodes]
  | node name attrs =>
    have channels : other.plugChannels = s.plugChannels := funext (plugChannels_of_nodes nodes)
    rw [unravel, unravel, attrsChannels, attrsChannels, channels]
  | literal payload => exact unravel_of_nodes nodes payload
  | list items => exact unravelAll_of_nodes nodes items

theorem unravelAll_of_nodes {s other : Scene} (nodes : other.nodes = s.nodes)
    (items : List Operand) : other.unravelAll items = s.unravelAll items := by
  cases items with
  | nil => rfl
  | cons item rest =>
    rw [unravelAll, unravelAll, unravel_of_nodes nodes item, unravelAll_of_nodes nodes rest]

end

/-! ### Spellings -/

/-- Two plugs that a scene answers alike whatever it is asked about them. -/
structure Interchangeable (s : Scene) (plug other : String) : Prop where
  attributes : ∃ node attr attrOther,
    Plug.split? plug = some (node, attr) ∧ Plug.split? other = some (node, attrOther) ∧
      s.children? node attr = s.children? node attrOther ∧
      s.parent? node attr = s.parent? node attrOther ∧
      s.longName? node attr = s.longName? node attrOther
  reading : s.read plug = s.read other
  value : s.valueOf? plug = s.valueOf? other
  source : s.sourceOf? plug = s.sourceOf? other

theorem interchangeable_of_place? {s : Scene} {plug other node : String} {place : Place}
    (there : s.place? plug = some (node, place))
    (thereOther : s.place? other = some (node, place)) : s.Interchangeable plug other where
  attributes := by
    obtain ⟨attr, n, split, found, located⟩ := (s.place?_eq_some_iff _ _ _).mp there
    obtain ⟨path, m, splitOther, foundOther, locatedOther⟩ :=
      (s.place?_eq_some_iff _ _ _).mp thereOther
    rw [found] at foundOther
    cases foundOther
    refine ⟨node, attr, path, split, splitOther, ?_⟩
    simp [children?, parent?, longName?, locate?_eq, found, located, locatedOther]
  reading := by
    rw [read, read, (s.placeOf_eq_ok_iff _ _).mpr there, (s.placeOf_eq_ok_iff _ _).mpr thereOther]
  value := by rw [valueOf?, valueOf?, there, thereOther]
  source := by rw [sourceOf?, sourceOf?, canonical?, canonical?, there, thereOther]

/-- A plug designates what its canonical spelling designates. -/
theorem WellFormed.place?_of_canonical? {s : Scene} (wf : s.WellFormed) {plug canonical : String}
    (known : s.canonical? plug = some canonical) :
    ∃ node place, s.place? plug = some (node, place) ∧ s.place? canonical = some (node, place) := by
  obtain ⟨⟨node, place⟩, there, rfl⟩ := Option.map_eq_some_iff.mp known
  exact ⟨node, place, there, wf.place?_canonical there⟩

/-- Channels that differ at most in the spelling of an existing plug. -/
inductive SpellsAlike (s : Scene) : Channel → Channel → Prop where
  | same (channel : Channel) : SpellsAlike s channel channel
  | respelled {plug other : String} (known : (s.canonical? plug).isSome)
    (same : s.canonical? plug = s.canonical? other) : SpellsAlike s (.plug plug) (.plug other)

/-- Texts that stand for one place, or for none, and exist both or not at all. -/
def SamePlug (s : Scene) (plug other : String) : Prop :=
  s.place? plug = s.place? other ∧ s.has plug = s.has other

/-- Channels that are spelled alike are one literal or two texts of one plug. -/
theorem WellFormed.spellsAlike_cases {s : Scene} (wf : s.WellFormed) {channel other : Channel}
    (alike : s.SpellsAlike channel other) :
    (∃ value expression, channel = .literal value expression ∧ other = .literal value expression) ∨
      ∃ plug text, channel = .plug plug ∧ other = .plug text ∧ s.SamePlug plug text := by
  cases alike with
  | same channel =>
    cases channel with
    | literal value expression => exact Or.inl ⟨value, expression, rfl, rfl⟩
    | plug plug => exact Or.inr ⟨plug, plug, rfl, rfl, rfl, rfl⟩
  | @respelled plug other known same =>
    obtain ⟨canonical, known⟩ := Option.isSome_iff_exists.mp known
    obtain ⟨node, place, there, atCanonical⟩ := wf.place?_of_canonical? known
    obtain ⟨_, _, thereOther, again⟩ := wf.place?_of_canonical? (same.symm.trans known)
    rw [atCanonical] at again
    cases again
    refine Or.inr ⟨plug, other, rfl, rfl, there.trans thereOther.symm, ?_⟩
    rw [has_of_place? there, has_of_place? thereOther]

theorem WellFormed.strand?_of_spellsAlike {s : Scene} (wf : s.WellFormed) {channel other : Channel}
    (alike : s.SpellsAlike channel other) : s.strand? channel = s.strand? other := by
  rcases wf.spellsAlike_cases alike with ⟨_, _, rfl, rfl⟩ | ⟨plug, text, rfl, rfl, same, _⟩
  · rfl
  · rw [strand?_plug, strand?_plug, same]

end Scene

/-! ### Wirings in two spellings -/

/-- Sessions with one scene, on given nodes, and one fault. -/
structure Session.Shares (nodes : List Node) (s t : Session) : Prop where
  scene : s.scene = t.scene
  fault : s.host.fault = t.host.fault
  nodes : s.scene.nodes = nodes

namespace Program

variable {nodes : List Node}

/-- Calls of one kind that change the scene alike. -/
theorem shares_change {call other : Call} (kinds : call.kind = other.kind)
    {edit editOther : Scene → Except SceneError Scene}
    (edits : ∀ scene : Scene, scene.nodes = nodes →
      (edit scene).toOption = (editOther scene).toOption)
    (kept : ∀ scene changed, edit scene = .ok changed → changed.nodes = scene.nodes) :
    Parallel (Session.Shares nodes) Eq (change call edit) (change other editOther) := by
  intro s t ⟨scene, fault, same⟩
  have meets : Fault.meet call s.host.fault = Fault.meet other t.host.fault := by
    rw [← fault]
    unfold Fault.meet
    rw [kinds]
  have edited := edits s.scene same
  rw [Abreast, change, change, exec_call, exec_call, Host.take, Host.take, meets, ← Session.scene,
    ← Session.scene, ← scene]
  cases Fault.meet other t.host.fault with
  | strikes message => exact ⟨.error rfl, rfl, rfl, same⟩
  | waits rest =>
    dsimp only
    cases first : edit s.scene <;> cases second : editOther s.scene <;>
      rw [first, second] at edited <;> cases edited
    · exact ⟨.error rfl, rfl, rfl, same⟩
    · exact ⟨.ok rfl, rfl, rfl, (kept _ _ first).trans same⟩

theorem shares_editRecorder (edit editOther : Recorder → Recorder) :
    Parallel (Session.Shares nodes) Eq (editRecorder edit) (editRecorder editOther) :=
  .modify fun _ _ ⟨scene, fault, same⟩ => ⟨scene, fault, same⟩

theorem shares_setPlug {plug other : String}
    (same : ∀ scene : Scene, scene.nodes = nodes → scene.place? plug = scene.place? other)
    (value : Float) (text textOther : String) :
    Parallel (Session.Shares nodes) Eq (setPlug plug value text)
      (setPlug other value textOther) := by
  refine .bind (shares_change ?_ ?_ ?_) fun _ _ _ => shares_editRecorder _ _
  · rfl
  · exact fun scene kept => Scene.set_toOption_congr (same scene kept) value
  · intro scene changed done
    obtain ⟨_, _, _, _, rfl⟩ := Scene.set_eq_ok done
    rfl

theorem shares_connect {source sourceOther dest destOther : String}
    (sources : ∀ scene : Scene, scene.nodes = nodes →
      scene.place? source = scene.place? sourceOther)
    (dests : ∀ scene : Scene, scene.nodes = nodes → scene.place? dest = scene.place? destOther)
    (force : Bool) :
    Parallel (Session.Shares nodes) Eq (connect source dest force)
      (connect sourceOther destOther force) := by
  refine .bind (shares_change ?_ ?_ ?_) fun _ _ _ => shares_editRecorder _ _
  · rfl
  · intro scene kept
    exact Scene.connect_toOption_congr (sources scene kept) (dests scene kept) force
  · intro scene changed done
    obtain ⟨_, _, _, _, _, _, _, _, _, rfl⟩ := Scene.connect_eq_ok done
    rfl

variable {base : Scene} (wf : base.WellFormed)
include wf

/-- A link is refused in both spellings, or changes the scene alike in both. -/
theorem shares_wireLink {link other : Link} (matched : Link.Matches base.SpellsAlike link other)
    (force : Bool) :
    Parallel (Session.Shares base.nodes) Eq (wireLink force link) (wireLink force other) := by
  obtain ⟨target, source⟩ := link
  obtain ⟨targetOther, sourceOther⟩ := other
  obtain ⟨targets, sources⟩ := matched
  have scenes : Parallel (Session.Shares base.nodes)
      (fun first second => first = second ∧ first.nodes = base.nodes) scene scene :=
    .scene fun _ _ sessions => ⟨sessions.scene, sessions.nodes⟩
  refine .bind scenes ?_
  rintro scene _ ⟨rfl, kept⟩
  rcases wf.spellsAlike_cases targets with ⟨_, _, rfl, rfl⟩ | ⟨plug, text, rfl, rfl, place, there⟩
  · exact .throw rfl
  have places (current : Scene) (onNodes : current.nodes = base.nodes) :
      current.place? plug = current.place? text := by
    rw [Scene.place?_of_nodes onNodes, Scene.place?_of_nodes onNodes, place]
  have exist : scene.has plug = scene.has text := by
    rw [Scene.has_of_nodes kept, Scene.has_of_nodes kept, there]
  rcases wf.spellsAlike_cases sources with
    ⟨value, expression, rfl, rfl⟩ | ⟨origin, originText, rfl, rfl, originPlace, originThere⟩
  · dsimp only
    rw [exist]
    split
    · exact shares_setPlug places value _ _
    · exact .throw rfl
  · have originPlaces (current : Scene) (onNodes : current.nodes = base.nodes) :
        current.place? origin = current.place? originText := by
      rw [Scene.place?_of_nodes onNodes, Scene.place?_of_nodes onNodes, originPlace]
    have originExist : scene.has origin = scene.has originText := by
      rw [Scene.has_of_nodes kept, Scene.has_of_nodes kept, originThere]
    dsimp only
    rw [exist, originExist]
    split
    · split
      · exact shares_connect originPlaces places force
      · exact .throw rfl
    · exact .throw rfl

theorem shares_wire (o : Options) {targets targetsOther sources sourcesOther : List Channel}
    (alikeTargets : List.Forall₂ base.SpellsAlike targets targetsOther)
    (alikeSources : List.Forall₂ base.SpellsAlike sources sourcesOther) :
    Parallel (Session.Shares base.nodes) Eq (wire o targets sources)
      (wire o targetsOther sourcesOther) := by
  refine .wire Error.SameKind.refl (fun _ _ sessions => sessions.scene) (fun _ => .same _) ?_
    (fun _ _ matched => shares_wireLink wf matched o.force) alikeTargets alikeSources
  intro s t sessions channel other alike
  -- Strands are read off places, and places off the nodes, which are still those of the start.
  have strands : ∀ plug, s.scene.strand? (.plug plug) = base.strand? (.plug plug) := by
    intro plug
    rw [Scene.strand?_plug, Scene.strand?_plug, Scene.place?_of_nodes sessions.nodes]
  rcases wf.spellsAlike_cases alike with ⟨_, _, rfl, rfl⟩ | ⟨plug, text, rfl, rfl, _⟩
  · rfl
  · rw [strands, strands, wf.strand?_of_spellsAlike alike]

omit wf

/-- In a scene that can be built, a canonical spelling is its own canonical spelling, and whatever
is asked about a plug can be asked about its canonical spelling. Two wirings of channels that differ
only in the spelling of existing plugs end in one scene, and both succeed or both fail with errors
of one kind. -/
theorem wire_respelled (o : Options) (s : Session) (reachable : s.scene.Reachable) :
    (∀ plug canonical, s.scene.canonical? plug = some canonical →
      s.scene.canonical? canonical = some canonical ∧ s.scene.Interchangeable plug canonical) ∧
    ∀ targets targetsOther sources sourcesOther : List Channel,
      List.Forall₂ s.scene.SpellsAlike targets targetsOther →
      List.Forall₂ s.scene.SpellsAlike sources sourcesOther →
      (exec (wire o targets sources) s).2.scene =
          (exec (wire o targetsOther sourcesOther) s).2.scene ∧
        Agree Eq (exec (wire o targets sources) s).1
          (exec (wire o targetsOther sourcesOther) s).1 := by
  have wf := reachable.wellFormed
  refine ⟨?_, ?_⟩
  · intro plug canonical known
    obtain ⟨node, place, there, atCanonical⟩ := wf.place?_of_canonical? known
    refine ⟨?_, Scene.interchangeable_of_place? there atCanonical⟩
    rw [Scene.canonical?, there] at known
    rw [Scene.canonical?, atCanonical]
    exact known
  · intro targets targetsOther sources sourcesOther alikeTargets alikeSources
    obtain ⟨agree, shared⟩ := shares_wire wf o alikeTargets alikeSources s s ⟨rfl, rfl, rfl⟩
    exact ⟨shared.scene, agree⟩

/-- Three ways to spell a channel of a transform, and two to spell the element of an array. -/
theorem wire_respelled_transform :
    let s := Session.start (.ofScene
      (Scene.empty.run [.addTransform "pCube1", .create "plusMinusAverage" "total"]) "")
    (exec (wire .default [.plug "total.input1D[007]", .plug "total.i1[+1]"]
        [.plug "pCube1.tx", .plug "pCube1.translate.ty"]) s).2.scene =
      (exec (wire .default [.plug "total.i1[7]", .plug "total.input1D[1]"]
        [.plug "pCube1.t.translateX", .plug "pCube1.translateY"]) s).2.scene ∧
    (exec (wire .default [.plug "total.input1D[007]", .plug "total.i1[+1]"]
        [.plug "pCube1.tx", .plug "pCube1.translate.ty"]) s).1 = .ok () := by
  have respelled := (wire_respelled .default (.start (.ofScene
    (Scene.empty.run [.addTransform "pCube1", .create "plusMinusAverage" "total"]) "")) ⟨_, rfl⟩).2
      [.plug "total.input1D[007]", .plug "total.i1[+1]"]
      [.plug "total.i1[7]", .plug "total.input1D[1]"]
      [.plug "pCube1.tx", .plug "pCube1.translate.ty"]
      [.plug "pCube1.t.translateX", .plug "pCube1.translateY"]
      (.cons (.respelled (by decide +kernel) (by decide +kernel))
        (.cons (.respelled (by decide +kernel) (by decide +kernel)) .nil))
      (.cons (.respelled (by decide +kernel) (by decide +kernel))
        (.cons (.respelled (by decide +kernel) (by decide +kernel)) .nil))
  exact ⟨respelled.1, by decide +kernel⟩

end Program

end FormulaNet
