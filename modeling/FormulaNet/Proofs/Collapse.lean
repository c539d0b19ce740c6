/-
This file is about collapsing. Channels collapse into a compound exactly if they
are plugs of its node, and by long names its children, all of them and in order;
the names of a node are pairwise different, so no other compound will do, and
the channels are the plugs that the compound falls into. A wiring that collapses
makes one connection where a wiring that looks for no compounds makes one for
each child. Then a child inherits what it would have been connected to, so as
long as nothing was connected before into the targets and the compounds they
belong to, both succeed or both fail, and every plug of one channel is driven by
the same.
-/

import FormulaNet.Proofs.Ready
import FormulaNet.Proofs.Wiring

namespace FormulaNet

namespace Scene

/-! ### What collapses -/

/-- Channels that are plugs of a node, and by long names the children of an attribute, all of them
and in order. -/
def Lists (s : Scene) (node : String) (a : Attribute) (channels : List Channel) : Prop :=
  List.Forall₂ (fun channel c => ∃ text attr, channel = .plug text ∧
    Plug.split? text = some (node, attr) ∧ s.longName? node attr = some c.long) channels a.children

theorem mapM_of_forall₂ {α β : Type} {f : α → Option β} {list : List α} {images : List β}
    (related : List.Forall₂ (fun a b => f a = some b) list images) :
    list.mapM f = some images := by
  induction related with
  | nil => rfl
  | cons image _ inductionHypothesis =>
    rw [List.mapM_cons, image, inductionHypothesis]
    rfl

/-- A child is spelled by its long name. -/
theorem longName?_of_place? {s : Scene} {text node : String} {place : Place}
    (there : s.place? text = some (node, place)) :
    ∃ attr, Plug.split? text = some (node, attr) ∧ s.longName? node attr = some place.path := by
  obtain ⟨attr, n, split, found, located⟩ := (s.place?_eq_some_iff _ _ _).mp there
  refine ⟨attr, split, ?_⟩
  rw [longName?, locate?_eq, found, Option.bind_some, located]
  rfl

section Children

variable {s : Scene} (wf : s.WellFormed) {node : String} {n : Node} (found : s.node? node = some n)
  {a : Attribute} (member : a ∈ n.layout)
include wf found member

/-- A plug with the long name of a child is that child. -/
theorem WellFormed.place?_of_longName? (single : a.multi = false) {text attr : String}
    {c : Attribute.Child} (inside : c ∈ a.children) (split : Plug.split? text = some (node, attr))
    (long : s.longName? node attr = some c.long) : s.place? text = some (node, .child a c) := by
  have sound := wf.layouts n (mem_of_node? found).1
  obtain ⟨place, located, path⟩ := Option.map_eq_some_iff.mp long
  rw [locate?_eq, found, Option.bind_some] at located
  have on : (Place.child a c).On n.layout := ⟨member, single, inside⟩
  obtain rfl := sound.path_injective (Layout.on_of_find? located) on path
  exact (s.place?_eq_some_iff _ _ _).mpr ⟨attr, n, split, found, located⟩

theorem WellFormed.nodup_childNames : a.childNames.Nodup := by
  have sound := wf.layouts n (mem_of_node? found).1
  refine (List.nodup_map_iff_inj_on (sound.nodup_children member)).mpr ?_
  intro c inside d insideOther same
  exact sound.child_eq_of_shared_name member inside insideOther c.long_mem_names
    (same ▸ d.long_mem_names)

/-- The children of a compound, all of them and in order, collapse into it. -/
theorem WellFormed.collapse?_of_lists (single : a.multi = false) (compound : a.isCompound = true)
    {channels : List Channel} (listed : s.Lists node a channels) :
    s.collapse? channels = some (Plug.join node a.long) := by
  have strands : channels.mapM s.strand? =
      some (a.children.map fun c => ⟨node, a.long, c.long⟩) := by
    refine mapM_of_forall₂ (List.forall₂_map_right_iff.mpr ?_)
    have children := (List.forall₂_and_left _ _).mpr ⟨fun c (inside : c ∈ a.children) => inside,
      listed.flip⟩
    refine children.flip.imp ?_
    rintro channel c ⟨inside, text, attr, rfl, split, long⟩
    rw [strand?_plug, wf.place?_of_longName? found member single inside split long]
    rfl
  obtain ⟨c, rest, children⟩ : ∃ c rest, a.children = c :: rest := by
    refine List.exists_cons_of_ne_nil fun none => ?_
    simp [Attribute.isCompound, none] at compound
  have whole := wf.children?_long found member compound
  have distinct := wf.nodup_childNames found member
  rw [Attribute.childNames, children] at whole distinct
  rw [collapse?, strands, children, List.map_cons]
  dsimp only
  rw [if_pos]
  refine ⟨?_, ?_, ?_⟩
  · simp
  · simpa [Function.comp_def] using distinct
  · rw [whole]
    simp

end Children

variable {s : Scene} (wf : s.WellFormed)
include wf

/-- What channels collapse into is no array, because their own places are children of it. -/
theorem WellFormed.collapse?_single {channels : List Channel} {plug node : String} {a : Attribute}
    (collapsed : s.collapse? channels = some plug) (there : s.place? plug = some (node, .whole a)) :
    a.multi = false := by
  obtain ⟨owner, b, _, thereOther, _, children⟩ := wf.collapse?_children collapsed
  cases there.symm.trans thereOther
  obtain ⟨_, _, _, _, _, filled⟩ := wf.collapse?_width collapsed
  obtain ⟨channel, rest, rfl⟩ := List.exists_cons_of_ne_nil filled
  obtain ⟨c, _, ⟨text, _, thereChild⟩, _⟩ := List.forall₂_cons_left_iff.mp children
  obtain ⟨_, n, _, _, located⟩ := (s.place?_eq_some_iff _ _ _).mp thereChild
  exact (Layout.on_of_find? located).2.1

/-- Exactly the children of a compound, all of them and in order, collapse into it. -/
theorem WellFormed.collapse?_eq_some_iff (channels : List Channel) (plug : String) :
    s.collapse? channels = some plug ↔
      ∃ node n a, s.node? node = some n ∧ a ∈ n.layout ∧ a.multi = false ∧
        a.isCompound = true ∧ plug = Plug.join node a.long ∧ s.Lists node a channels := by
  constructor
  · intro collapsed
    obtain ⟨node, a, rfl, there, compound, children⟩ := wf.collapse?_children collapsed
    obtain ⟨_, n, _, found, located⟩ := (s.place?_eq_some_iff _ _ _).mp there
    have listed : s.Lists node a channels := by
      refine children.imp ?_
      rintro channel c ⟨text, rfl, thereChild⟩
      obtain ⟨attr, split, long⟩ := longName?_of_place? thereChild
      exact ⟨text, attr, rfl, split, long⟩
    have member : a ∈ n.layout := Layout.on_of_find? located
    exact ⟨node, n, a, found, member, wf.collapse?_single collapsed there, compound, rfl, listed⟩
  · rintro ⟨node, n, a, found, member, single, compound, rfl, listed⟩
    exact wf.collapse?_of_lists found member single compound listed

/-- Channels that collapse are the channels of the compound, in some spelling. -/
theorem WellFormed.collapse?_spellsAlike {channels : List Channel} {plug : String}
    (collapsed : s.collapse? channels = some plug) :
    List.Forall₂ s.SpellsAlike channels (s.plugChannels plug) := by
  obtain ⟨node, a, _, there, compound, children⟩ := wf.collapse?_children collapsed
  have listed : s.plugChannels plug = a.children.map fun c => .plug (Plug.join node c.long) := by
    rw [plugChannels_eq there]
    simp [Place.children?, compound, Attribute.childNames]
  rw [listed]
  refine List.forall₂_map_right_iff.mpr (children.imp ?_)
  rintro channel c ⟨text, rfl, thereChild⟩
  have known : s.canonical? text = some (Plug.join node c.long) := by
    rw [canonical?, thereChild]
    rfl
  refine .respelled (Option.isSome_of_eq_some known) (known.trans ?_)
  exact (wf.canonical?_canonical thereChild).1.symm

/-! ### Drivers after a collapse -/

/-- The children of one compound come to be driven by those of another, in order, and all other plugs
of one channel are driven as before. -/
structure Rewires (s after : Scene) (node : String) (a : Attribute) (sourceNode : String)
    (q : Attribute) : Prop where
  nodes : after.nodes = s.nodes
  children : ∀ (j : Nat) (c d : Attribute.Child), a.children[j]? = some c →
    q.children[j]? = some d →
    after.driverAt node (.child a c) = .plug (Plug.join sourceNode d.long)
  others : ∀ (plug owner : String) (place : Place), s.place? plug = some (owner, place) →
    place.width = 1 → (∀ c ∈ a.children, (owner, place) ≠ (node, .child a c)) →
    after.driverAt owner place = s.driverAt owner place

/-- Plugs with one canonical spelling designate one place. -/
theorem WellFormed.place_eq_of_join_eq {plug other node owner : String} {place otherPlace : Place}
    (there : s.place? plug = some (node, place))
    (thereOther : s.place? other = some (owner, otherPlace))
    (same : Plug.join node place.path = Plug.join owner otherPlace.path) :
    (node, place) = (owner, otherPlace) := by
  have canonical := wf.place?_canonical there
  rw [same, wf.place?_canonical thereOther] at canonical
  exact (Option.some.inj canonical).symm

/-- The compound that a plug belongs to exists. -/
theorem WellFormed.place?_compound {plug node : String} {place parent : Place} {j : Nat}
    (there : s.place? plug = some (node, place)) (belongs : place.compound? = some (parent, j)) :
    s.place? (Plug.join node parent.path) = some (node, parent) := by
  obtain ⟨_, n, _, found, located⟩ := (s.place?_eq_some_iff _ _ _).mp there
  exact wf.place?_path found ((Layout.on_of_find? located).of_compound? belongs)

omit wf in
theorem compound?_eq_whole {place : Place} {a : Attribute} {j : Nat}
    (belongs : place.compound? = some (.whole a, j)) : ∃ c ∈ a.children, place = .child a c := by
  cases place with
  | whole b => cases belongs
  | element b index => cases belongs
  | child b c =>
    obtain ⟨i, known, equal⟩ := Option.map_eq_some_iff.mp belongs
    cases equal
    exact ⟨c, List.isSome_idxOf?.mp (Option.isSome_of_eq_some known), rfl⟩
  | elementChild b index c =>
    obtain ⟨i, known, equal⟩ := Option.map_eq_some_iff.mp belongs
    cases equal

/-- A compound has more than one channel. -/
theorem WellFormed.width_compound {plug node : String} {a : Attribute}
    (there : s.place? plug = some (node, .whole a)) (compound : a.isCompound = true) :
    (Place.whole a).width ≠ 1 := by
  obtain ⟨_, n, _, found, located⟩ := (s.place?_eq_some_iff _ _ _).mp there
  have sound := wf.layouts n (mem_of_node? found).1
  have vector : a.children.length = maxChannels := by
    refine (sound.vectors a (Layout.on_of_find? located)).resolve_left fun none => ?_
    simp [Attribute.isCompound, none] at compound
  simp [Place.width, Place.parts?, compound, Attribute.childNames, vector, maxChannels]

section Rewiring

variable {node sourceNode : String} {a q : Attribute}
  (there : s.place? (Plug.join node a.long) = some (node, .whole a)) (single : a.multi = false)
include there single

/-- A connection between two compounds drives each child by the child at its position. -/
theorem WellFormed.rewires_of_connect {after : Scene} {force : Bool}
    (compound : a.isCompound = true)
    (thereSource : s.place? (Plug.join sourceNode q.long) = some (sourceNode, .whole q))
    (free : ∀ c ∈ a.children, s.connections.find? (Plug.join node c.long) = none)
    (done : s.connect (Plug.join sourceNode q.long) (Plug.join node a.long) force = .ok after) :
    s.Rewires after node a sourceNode q := by
  obtain ⟨nodes, connected, elsewhere⟩ := connect_stores done thereSource there
  have grows : Grows s after := .of_nodes nodes
  refine ⟨nodes, ?_, ?_⟩
  · intro j c d atChild atSource
    have inside := List.mem_of_getElem? atChild
    obtain ⟨_, n, _, found, located⟩ := (s.place?_eq_some_iff _ _ _).mp there
    have sound := wf.layouts n (mem_of_node? found).1
    have position := sound.idxOf?_child (Layout.on_of_find? located) atChild
    have other : Plug.join node c.long ≠ Plug.join node a.long := by
      intro same
      cases wf.place_eq_of_join_eq (wf.place?_child there single inside) there same
    refine driverAt_child position ?_ connected (grows.places _ _ thereSource) atSource
    rw [(elsewhere _ other).2]
    exact free c inside
  · intro plug owner place thereOther narrow notChild
    refine driverAt_congr wf grows (elsewhere _ ?_) ?_
    · intro same
      cases wf.place_eq_of_join_eq thereOther there same
      exact wf.width_compound there compound narrow
    · intro parent j belongs
      refine (elsewhere _ fun same => ?_).2
      cases wf.place_eq_of_join_eq (wf.place?_compound thereOther belongs) there same
      obtain ⟨c, inside, rfl⟩ := compound?_eq_whole belongs
      exact notChild c inside rfl

variable {targets sources : List Channel}
  (targeted : List.Forall₂ (fun channel c => ∃ text, channel = .plug text ∧
    s.place? text = some (node, .child a c)) targets a.children)
  (lengths : sources.length = targets.length)
include targeted lengths

omit wf there single in
/-- Links to the children of a compound are aimed at these children. -/
theorem map_goal?_children : (List.zipWith Link.mk targets sources).map s.goal? =
    (a.children.map fun c => Plug.join node c.long).map some := by
  have goals : List.Forall₂ Eq (targets.map fun channel => channel.plug?.bind s.canonical?)
      (a.children.map fun c => some (Plug.join node c.long)) := by
    rw [List.forall₂_map_left_iff, List.forall₂_map_right_iff]
    refine targeted.imp ?_
    rintro channel c ⟨text, rfl, thereChild⟩
    show s.canonical? text = _
    rw [canonical?, thereChild]
    rfl
  rw [List.forall₂_eq_eq_eq] at goals
  rw [map_goal?_eq, Link.map_target_zipWith lengths, goals, List.map_map]
  rfl

omit single in
theorem WellFormed.apart_children : s.Apart (List.zipWith Link.mk targets sources) := by
  obtain ⟨_, n, _, found, located⟩ := (s.place?_eq_some_iff _ _ _).mp there
  refine apart_of_map_goal? _ (map_goal?_children targeted lengths) ?_
  have names := wf.nodup_childNames found (Layout.on_of_find? located)
  have joined := names.map fun _ _ => Plug.join_injective node
  rwa [Attribute.childNames, List.map_map] at joined

omit there single lengths in
/-- Links between the children of two compounds are ready. -/
theorem WellFormed.children_ready
    (sourced : List.Forall₂ (fun channel c => ∃ text, channel = .plug text ∧
      s.place? text = some (sourceNode, .child q c)) sources q.children)
    (different : Plug.join sourceNode q.long ≠ Plug.join node a.long)
    (free : ∀ c ∈ a.children, s.connections.find? (Plug.join node c.long) = none) (force : Bool) :
    ∀ link ∈ List.zipWith Link.mk targets sources, link.Ready force s := by
  intro link member
  obtain ⟨j, linked⟩ := List.mem_iff_getElem?.mp member
  obtain ⟨_, _, atTarget, atSource, rfl⟩ := List.getElem?_zipWith_eq_some.mp linked
  obtain ⟨c, atChild, text, rfl, thereChild⟩ := forall₂_getElem? targeted atTarget
  obtain ⟨d, _, origin, rfl, thereOrigin⟩ := forall₂_getElem? sourced atSource
  refine .connect thereChild thereOrigin rfl ?_ (Or.inr (free c (List.mem_of_getElem? atChild)))
  intro alike
  cases wf.place_eq_of_join_eq thereOrigin thereChild alike
  exact different rfl

/-- Connections from the children of one compound to those of another, one by one. -/
theorem WellFormed.rewires_of_links {after : Scene} {force : Bool}
    (sourced : List.Forall₂ (fun channel c => ∃ text, channel = .plug text ∧
      s.place? text = some (sourceNode, .child q c)) sources q.children)
    (made : Link.MakesAll force (List.zipWith Link.mk targets sources) s after) :
    s.Rewires after node a sourceNode q := by
  obtain ⟨nodes, elsewhere, fed⟩ := makesAll_stores made (wf.apart_children there targeted lengths)
  have grows : Grows s after := .of_nodes nodes
  -- What is no child of the compound was aimed at by no link.
  have missed {plug owner : String} {place : Place} (thereOther : s.place? plug = some (owner, place))
      (notChild : ∀ c ∈ a.children, (owner, place) ≠ (node, .child a c)) :
      SameAt s after (Plug.join owner place.path) := by
    refine elsewhere _ fun link member goal => ?_
    have among := List.mem_map_of_mem (f := s.goal?) member
    rw [map_goal?_children targeted lengths, goal] at among
    obtain ⟨key, inside, equal⟩ := List.mem_map.mp among
    obtain ⟨c, insideChild, rfl⟩ := List.mem_map.mp inside
    exact notChild c insideChild (wf.place_eq_of_join_eq thereOther
      (wf.place?_child there single insideChild) (Option.some.inj equal).symm)
  refine ⟨nodes, ?_, ?_⟩
  · intro j c d atChild atSource
    obtain ⟨_, atTarget, text, rfl, thereChild⟩ := forall₂_getElem? targeted.flip atChild
    obtain ⟨_, atOrigin, origin, rfl, thereOrigin⟩ := forall₂_getElem? sourced.flip atSource
    have linked : (List.zipWith Link.mk targets sources)[j]? = some ⟨.plug text, .plug origin⟩ := by
      rw [List.getElem?_zipWith, atTarget, atOrigin]
    obtain ⟨key, goal, feeds⟩ := fed _ (List.mem_of_getElem? linked)
    have isKey : s.goal? ⟨.plug text, .plug origin⟩ = some (Plug.join node c.long) := by
      show s.canonical? text = _
      rw [canonical?, thereChild]
      rfl
    obtain rfl := Option.some.inj (isKey.symm.trans goal)
    have connected : after.connections.find? (Plug.join node c.long) =
        some (Plug.join sourceNode d.long) := feeds _ (carries_of_place? thereOrigin rfl)
    rw [driverAt, Place.path, connected]
  · intro plug owner place thereOther narrow notChild
    refine driverAt_congr wf grows (missed thereOther notChild) ?_
    intro parent j belongs
    refine (missed (wf.place?_compound thereOther belongs) ?_).2
    intro c inside same
    cases same
    exact Place.parts?_of_compound? belongs rfl

end Rewiring

omit wf in
/-- Scenes that were rewired alike drive every plug of one channel alike. -/
theorem Rewires.driver?_eq {first second : Scene} {node sourceNode : String} {a q : Attribute}
    (one : s.Rewires first node a sourceNode q) (two : s.Rewires second node a sourceNode q)
    (lengths : q.children.length = a.children.length) {plug : String}
    (narrow : s.width? plug = some 1) : first.driver? plug = second.driver? plug := by
  obtain ⟨⟨owner, place⟩, there, width⟩ := Option.map_eq_some_iff.mp narrow
  rw [driver?, driver?, place?_of_nodes one.nodes, place?_of_nodes two.nodes, there]
  refine congrArg some ?_
  show first.driverAt owner place = second.driverAt owner place
  by_cases isChild : ∃ c ∈ a.children, (owner, place) = (node, .child a c)
  · obtain ⟨c, inside, same⟩ := isChild
    cases same
    obtain ⟨j, bound, atChild⟩ := List.getElem_of_mem inside
    have known : a.children[j]? = some c := List.getElem?_eq_some_iff.mpr ⟨bound, atChild⟩
    have atSource : q.children[j]? = some q.children[j] := List.getElem?_eq_getElem _
    rw [one.children j c _ known atSource, two.children j c _ known atSource]
  · have notChild : ∀ c ∈ a.children, (owner, place) ≠ (node, .child a c) :=
      fun c inside same => isChild ⟨c, inside, same⟩
    rw [one.others plug owner place there width notChild,
      two.others plug owner place there width notChild]

/-- Nothing is connected into a channel or into the compound it belongs to. -/
def Undriven (s : Scene) (channel : Channel) : Prop :=
  ∀ text node place, channel = .plug text → s.place? text = some (node, place) →
    s.connections.find? (Plug.join node place.path) = none ∧
    ∀ parent j, place.compound? = some (parent, j) →
      s.connections.find? (Plug.join node parent.path) = none

/-- If the children of a compound are not driven, nothing is connected into them or into it. -/
theorem WellFormed.free_of_undriven {node : String} {a : Attribute} {targets : List Channel}
    (there : s.place? (Plug.join node a.long) = some (node, .whole a))
    (targeted : List.Forall₂ (fun channel c => ∃ text, channel = .plug text ∧
      s.place? text = some (node, .child a c)) targets a.children)
    (undriven : ∀ channel ∈ targets, s.Undriven channel) {c : Attribute.Child}
    (inside : c ∈ a.children) :
    s.connections.find? (Plug.join node c.long) = none ∧
      s.connections.find? (Plug.join node a.long) = none := by
  obtain ⟨j, atChild⟩ := List.mem_iff_getElem?.mp inside
  obtain ⟨_, atTarget, text, rfl, thereChild⟩ := forall₂_getElem? targeted.flip atChild
  obtain ⟨_, n, _, found, located⟩ := (s.place?_eq_some_iff _ _ _).mp there
  have sound := wf.layouts n (mem_of_node? found).1
  have position := sound.idxOf?_child (Layout.on_of_find? located) atChild
  obtain ⟨own, parents⟩ := undriven _ (List.mem_of_getElem? atTarget) text node _ rfl thereChild
  refine ⟨own, parents (.whole a) j ?_⟩
  rw [Place.compound?, position]
  rfl

end Scene

/-! ### Wirings that look for no compounds -/

/-- The links of a wiring, one for each target, if their numbers allow it. -/
def Link.planApart (ceiling : Nat) (targets sources : List Channel) : Except Error (List Link) :=
  if ceiling < targets.length ∨ ceiling < sources.length then
    .error (.ceiling targets.length sources.length ceiling)
  else
    match Link.pair? targets sources with
    | none => .error (.broadcast targets.length sources.length)
    | some links => .ok links

namespace Program

/-- Wires sources to targets one by one. -/
def wireApart (o : Options) (targets sources : List Channel) : Program Unit := do
  let links ← look fun _ => Link.planApart o.ceiling targets sources
  wireLinks o.force links

theorem exec_wireApart_eq (o : Options) (targets sources : List Channel) (s : Session) :
    exec (wireApart o targets sources) s =
      if o.ceiling < targets.length ∨ o.ceiling < sources.length then
        (.error (.ceiling targets.length sources.length o.ceiling), s)
      else if Link.Matched targets.length sources.length then
        exec (wireLinks o.force
          (List.zipWith Link.mk targets (Channel.spread targets.length sources))) s
      else (.error (.broadcast targets.length sources.length), s) := by
  rw [wireApart, exec_bind, exec_look, Link.planApart]
  by_cases long : o.ceiling < targets.length ∨ o.ceiling < sources.length
  · rw [if_pos long, if_pos long]
  · rw [if_neg long, if_neg long, Link.pair?_eq]
    by_cases matched : Link.Matched targets.length sources.length
    · rw [if_pos matched, if_pos matched]
    · rw [if_neg matched, if_neg matched]

/-- Links stop at a first that joins a plug to itself. -/
theorem exec_wireLinks_self (force : Bool) {target source : String} (rest : List Link) {s : Session}
    {found : String × Place} (there : s.scene.place? target = some found)
    (thereSource : s.scene.place? source = some found) :
    ∃ e after, exec (wireLinks force (⟨.plug target, .plug source⟩ :: rest)) s =
      (.error (.host e), after) ∧ after.scene = s.scene := by
  rw [wireLinks, exec_bind]
  rcases exec_wireLink_cases force ⟨.plug target, .plug source⟩ s with
    ⟨after, _, makes, _⟩ | ⟨e, tried, after, run, stops, same, _⟩
  · cases makes with
    | connect done =>
      obtain ⟨_, _, _, _, foundSource, foundTarget, _, different, _⟩ := Scene.connect_eq_ok done
      rw [there] at foundTarget
      rw [thereSource] at foundSource
      cases foundTarget
      cases foundSource
      exact absurd rfl different
  · rw [run]
    cases stops with
    | target missing => cases missing.symm.trans (Scene.has_of_place? there)
    | source _ missing => cases missing.symm.trans (Scene.has_of_place? thereSource)
    | @host _ _ _ e _ _ _ _ => exact ⟨e, after, rfl, same⟩

/-- One link between two compounds and links between their children come to the same. -/
theorem exec_wireLinks_collapse {s : Session} (wf : s.scene.WellFormed)
    (calm : s.host.fault = none) {targets sources : List Channel} {target source : String}
    (collapsed : s.scene.collapse? targets = some target)
    (collapsedSource : s.scene.collapse? sources = some source)
    (lengths : sources.length = targets.length)
    (undriven : ∀ channel ∈ targets, s.scene.Undriven channel) (force : Bool) :
    Agree Eq (exec (wireLinks force [⟨.plug target, .plug source⟩]) s).1
        (exec (wireLinks force (List.zipWith Link.mk targets sources)) s).1 ∧
      ∀ plug, s.scene.width? plug = some 1 →
        (exec (wireLinks force [⟨.plug target, .plug source⟩]) s).2.scene.driver? plug =
          (exec (wireLinks force (List.zipWith Link.mk targets sources)) s).2.scene.driver?
            plug := by
  by_cases same : source = target
  · subst same
    -- Both stop at once, the one at the compound, the others at its first child.
    obtain ⟨text, other, rest, restOther, found, rfl, rfl, there, thereOther⟩ :=
      wf.collapse?_same collapsed collapsedSource
    obtain ⟨node, a, _, therePlug, _⟩ := wf.collapse?_width collapsed
    obtain ⟨e, after, run, unchanged⟩ := exec_wireLinks_self force [] therePlug therePlug
    obtain ⟨eOther, afterOther, runOther, unchangedOther⟩ :=
      exec_wireLinks_self force (List.zipWith Link.mk rest restOther) there thereOther
    rw [List.zipWith_cons_cons, run, runOther]
    refine ⟨.error rfl, fun plug _ => ?_⟩
    show after.scene.driver? plug = afterOther.scene.driver? plug
    rw [unchanged, unchangedOther]
  · obtain ⟨node, a, rfl, there, compound, targeted⟩ := wf.collapse?_children collapsed
    obtain ⟨sourceNode, q, rfl, thereSource, _, sourced⟩ := wf.collapse?_children collapsedSource
    have single := wf.collapse?_single collapsed there
    have free {c : Attribute.Child} (inside : c ∈ a.children) :=
      wf.free_of_undriven there targeted undriven inside
    have readyCompound : Link.Ready force s.scene
        ⟨.plug (Plug.join node a.long), .plug (Plug.join sourceNode q.long)⟩ := by
      obtain ⟨c, inside⟩ : ∃ c, c ∈ a.children := by
        refine List.exists_mem_of_ne_nil _ fun none => ?_
        simp [Attribute.isCompound, none] at compound
      exact wf.collapsed_ready collapsed collapsedSource lengths same (free inside).2 force
    have ready := wf.children_ready targeted sourced same (fun c inside => (free inside).1) force
    obtain ⟨after, run, _, made⟩ := exec_wireLinks_ready calm
      (List.forall_mem_singleton.mpr readyCompound) (List.pairwise_singleton _ _)
    obtain ⟨afterOther, runOther, _, madeOther⟩ := exec_wireLinks_ready calm ready
      (wf.apart_children there targeted lengths)
    have rewired : s.scene.Rewires after.scene node a sourceNode q := by
      cases made with
      | cons first others =>
        cases others
        cases first with
        | connect done =>
          exact wf.rewires_of_connect there single compound thereSource
            (fun c inside => (free inside).1) done
    have rewiredOther := wf.rewires_of_links there single targeted lengths sourced madeOther
    rw [run, runOther]
    refine ⟨.ok rfl, fun plug narrow => ?_⟩
    refine rewired.driver?_eq rewiredOther ?_ narrow
    rw [← sourced.length_eq, lengths, targeted.length_eq]

/-- Collapsing is exact: channels collapse into a compound if and only if they are plugs of its node
and by long names its children, all of them and in order, and then they are the channels of the
compound. And it is transparent: where nothing is connected into the targets and the compounds they
belong to, a wiring and the same wiring without collapsing both succeed or both fail with errors of
one kind, and leave every plug of one channel driven by the same. -/
theorem collapse_transparent (o : Options) (s : Session) (reachable : s.scene.Reachable) :
    (∀ channels plug, s.scene.collapse? channels = some plug ↔
      ∃ node n a, s.scene.node? node = some n ∧ a ∈ n.layout ∧ a.multi = false ∧
        a.isCompound = true ∧ plug = Plug.join node a.long ∧ s.scene.Lists node a channels) ∧
    (∀ channels plug, s.scene.collapse? channels = some plug →
      List.Forall₂ s.scene.SpellsAlike channels (s.scene.plugChannels plug)) ∧
    (s.host.fault = none → ∀ targets sources : List Channel,
      (∀ target ∈ targets, s.scene.Undriven target) →
      Agree Eq (exec (wire o targets sources) s).1 (exec (wireApart o targets sources) s).1 ∧
      ∀ plug, s.scene.width? plug = some 1 →
        (exec (wire o targets sources) s).2.scene.driver? plug =
          (exec (wireApart o targets sources) s).2.scene.driver? plug) := by
  have wf := reachable.wellFormed
  refine ⟨wf.collapse?_eq_some_iff, fun _ _ => wf.collapse?_spellsAlike, ?_⟩
  intro calm targets sources undriven
  rw [exec_wire_eq, exec_wireApart_eq]
  split
  · exact ⟨.error rfl, fun _ _ => rfl⟩
  · split
    · rename_i matched
      rw [Scene.links]
      split
      · rename_i target source collapsed collapsedSource
        exact exec_wireLinks_collapse wf calm collapsed collapsedSource
          (Channel.length_spread matched) undriven o.force
      · exact ⟨.refl Error.SameKind.refl _, fun _ _ => rfl⟩
    · exact ⟨.error rfl, fun _ _ => rfl⟩

/-- The translation of one transform is wired to that of another, in mixed spellings: the wiring
collapses, and the plugs are driven as if it had not. -/
theorem collapse_transparent_transforms :
    ∃ s : Session, s = Session.start (.ofScene
        (Scene.empty.run [.addTransform "pCube1", .addTransform "pCube2"]) "") ∧
      s.scene.collapse? [.plug "pCube2.tx", .plug "pCube2.translate.ty", .plug "pCube2.translateZ"] =
        some "pCube2.translate" ∧
      (exec (wire .default
        [.plug "pCube2.tx", .plug "pCube2.translate.ty", .plug "pCube2.translateZ"]
        [.plug "pCube1.tx", .plug "pCube1.ty", .plug "pCube1.tz"]) s).1 = .ok () ∧
      ∀ plug, s.scene.width? plug = some 1 →
        (exec (wire .default
          [.plug "pCube2.tx", .plug "pCube2.translate.ty", .plug "pCube2.translateZ"]
          [.plug "pCube1.tx", .plug "pCube1.ty", .plug "pCube1.tz"]) s).2.scene.driver? plug =
        (exec (wireApart .default
          [.plug "pCube2.tx", .plug "pCube2.translate.ty", .plug "pCube2.translateZ"]
          [.plug "pCube1.tx", .plug "pCube1.ty", .plug "pCube1.tz"]) s).2.scene.driver? plug := by
  have unconnected : (Session.start (.ofScene
      (Scene.empty.run [.addTransform "pCube1", .addTransform "pCube2"]) "")).scene.connections =
        Table.empty := by decide +kernel
  refine ⟨_, rfl, by decide +kernel, by decide +kernel, ?_⟩
  refine ((collapse_transparent .default (.start (.ofScene
    (Scene.empty.run [.addTransform "pCube1", .addTransform "pCube2"]) "")) ⟨_, rfl⟩).2.2 rfl
      [.plug "pCube2.tx", .plug "pCube2.translate.ty", .plug "pCube2.translateZ"]
      [.plug "pCube1.tx", .plug "pCube1.ty", .plug "pCube1.tz"] ?_).2
  intro target _ text node place _ _
  rw [unconnected]
  exact ⟨rfl, fun _ _ _ => rfl⟩

end Program

end FormulaNet
