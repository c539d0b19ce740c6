/-
This file proves what holds in every scene that can be built: nodes have
different names that can stand before a dot, the names on each node are
unambiguous, numbers and connections are kept under canonical plugs of matching
widths, and containers list nodes and plugs that exist. Each change keeps this;
most of it is a matter of plugs keeping their places while the scene grows. The
one thing that a change does not see to is that a container publishes plugs and
not nodes: the name of a node passes for a plug there, and this happens exactly
when somebody publishes one.
-/

import FormulaNet.Proofs.Growth

namespace FormulaNet.Scene

/-! ### More nodes and longer layouts -/

/-- The scene with one node more. -/
def withNode (s : Scene) (n : Node) : Scene := { s with nodes := s.nodes ++ [n] }

/-- The scene with one attribute more on a node. -/
def withAttribute (s : Scene) (node : String) (a : Attribute) : Scene :=
  { s with nodes := extendNode node a s.nodes }

theorem node?_withNode {s : Scene} {name : String} {n : Node} (more : Node)
    (found : s.node? name = some n) : (s.withNode more).node? name = some n := by
  rw [node?, withNode, List.find?_append, ← node?, found, Option.some_or]

theorem node?_withNode_self {s : Scene} {n : Node} (fresh : n.name ∉ s.nodeNames) :
    (s.withNode n).node? n.name = some n := by
  have missing : s.node? n.name = none := by
    rw [← Option.not_isSome_iff_eq_none, node?_isSome_iff]
    exact fresh
  rw [node?, withNode, List.find?_append, ← node?, missing, Option.none_or]
  simp

theorem grows_withNode (s : Scene) (n : Node) : Grows s (s.withNode n) := by
  refine ⟨?_, ?_⟩
  · rintro plug ⟨node, place⟩ there
    rw [place?_eq_some_iff] at there ⊢
    obtain ⟨attr, m, split, found, located⟩ := there
    exact ⟨attr, m, split, node?_withNode n found, located⟩
  · intro node type typed
    obtain ⟨m, found, rfl⟩ := Option.map_eq_some_iff.mp typed
    rw [typeOf?, node?_withNode n found]
    rfl

/-- Creating adds one node, with the layout of its type. -/
theorem create_withNode {s after : Scene} {type name assigned : String}
    (done : s.create type name = .ok (assigned, after)) :
    ∃ layout, Layout.ofType? type = some layout ∧ after = s.withNode ⟨assigned, type, layout⟩ := by
  obtain ⟨layout, typed, _, _, rfl, rfl⟩ := create_eq_ok done
  exact ⟨layout, typed, rfl⟩

/-- A node with one attribute more, if it is the one that gets it. -/
def extended (node : String) (a : Attribute) (n : Node) : Node :=
  if n.name = node then { n with layout := n.layout ++ [a] } else n

@[simp] theorem extended_name (node : String) (a : Attribute) (n : Node) :
    (extended node a n).name = n.name := by
  rw [extended]
  split <;> rfl

@[simp] theorem extended_type (node : String) (a : Attribute) (n : Node) :
    (extended node a n).type = n.type := by
  rw [extended]
  split <;> rfl

theorem node?_withAttribute (s : Scene) (node : String) (a : Attribute) (name : String) :
    (s.withAttribute node a).node? name = (s.node? name).map (extended node a) := by
  have same : (fun n : Node => n.name == name) ∘ extended node a = fun n => n.name == name := by
    funext n
    simp
  show (s.nodes.map (extended node a)).find? (fun n => n.name == name) = _
  rw [List.find?_map, same, ← node?]

theorem nodeNames_withAttribute (s : Scene) (node : String) (a : Attribute) :
    (s.withAttribute node a).nodeNames = s.nodeNames := by
  show (s.nodes.map (extended node a)).map (·.name) = _
  rw [List.map_map]
  refine List.map_congr_left fun n _ => ?_
  simp

/-- Attributes under free names leave all places where they are. -/
theorem grows_withAttribute {s : Scene} {node name : String} {n : Node} (default : Float)
    (found : s.node? node = some n) (free : name ∉ n.layout.names) :
    Grows s (s.withAttribute node (.scalar name none default)) := by
  refine ⟨?_, ?_⟩
  · rintro plug ⟨owner, place⟩ there
    rw [place?_eq_some_iff] at there ⊢
    obtain ⟨attr, m, split, foundOwner, located⟩ := there
    refine ⟨attr, _, split, by rw [node?_withAttribute, foundOwner, Option.map_some], ?_⟩
    rw [extended]
    split
    · rename_i same
      obtain rfl : m = n := by
        have named := (mem_of_node? foundOwner).2
        rw [← named, same, found] at foundOwner
        exact (Option.some.inj foundOwner).symm
      exact Layout.find?_append_scalar free default located
    · exact located
  · intro owner type typed
    obtain ⟨m, foundOwner, rfl⟩ := Option.map_eq_some_iff.mp typed
    rw [typeOf?, node?_withAttribute, foundOwner]
    simp

/-! ### The invariant -/

/-- The number of channels of a plug. -/
def width? (s : Scene) (plug : String) : Option Nat :=
  (s.place? plug).map fun (_, place) => place.width

/-- A canonical plug of one channel. -/
def Valued (s : Scene) (plug : String) : Prop :=
  s.canonical? plug = some plug ∧ s.width? plug = some 1

/-- Two different canonical plugs of one width. -/
def Linked (s : Scene) (dest source : String) : Prop :=
  s.canonical? dest = some dest ∧ s.canonical? source = some source ∧
    s.width? dest = s.width? source ∧ dest ≠ source

/-- A container node with a record of existing nodes, none of them twice, and of published texts
that exist. -/
structure Contains (s : Scene) (container : String) (record : Container) : Prop where
  type : s.typeOf? container = some "container"
  distinct : record.members.Nodup
  members : ∀ member ∈ record.members, member ∈ s.nodeNames
  published : ∀ publication ∈ record.published, s.has publication.1 = true

/-- The tables of a scene are in order. -/
structure Ordered (s : Scene) : Prop where
  values : s.values.Ordered
  connections : s.connections.Ordered
  containers : s.containers.Ordered

/-- What holds in every scene that can be built. -/
structure WellFormed (s : Scene) : Prop where
  ordered : s.Ordered
  distinct : s.nodeNames.Nodup
  named : ∀ n ∈ s.nodes, n.name ≠ "" ∧ '.' ∉ n.name.toList
  layouts : ∀ n ∈ s.nodes, n.layout.Sound
  valued : ∀ entry ∈ s.values.entries, s.Valued entry.1
  linked : ∀ entry ∈ s.connections.entries, s.Linked entry.1 entry.2
  contained : ∀ entry ∈ s.containers.entries, s.Contains entry.1 entry.2

theorem wellFormed_empty : WellFormed empty where
  ordered := ⟨Table.ordered_empty, Table.ordered_empty, Table.ordered_empty⟩
  distinct := List.nodup_nil
  named := by simp [empty]
  layouts := by simp [empty]
  valued := by simp [empty, Table.empty]
  linked := by simp [empty, Table.empty]
  contained := by simp [empty, Table.empty]

variable {s : Scene}

/-! ### What growing keeps -/

namespace Grows

variable {after : Scene} (grows : Grows s after)
include grows

theorem width {plug : String} {n : Nat} (known : s.width? plug = some n) :
    after.width? plug = some n := by
  obtain ⟨found, there, rfl⟩ := Option.map_eq_some_iff.mp known
  rw [width?, grows.places plug found there]
  rfl

theorem valued {plug : String} (old : s.Valued plug) : after.Valued plug :=
  ⟨grows.canonical old.1, grows.width old.2⟩

theorem linked {dest source : String} (old : s.Linked dest source) : after.Linked dest source := by
  obtain ⟨canonicalDest, canonicalSource, widths, different⟩ := old
  obtain ⟨found, there, _⟩ := Option.map_eq_some_iff.mp canonicalDest
  have wide : s.width? dest = some found.2.width := by
    rw [width?, there]
    rfl
  refine ⟨grows.canonical canonicalDest, grows.canonical canonicalSource, ?_, different⟩
  rw [grows.width wide, grows.width (widths ▸ wide)]

theorem contains {container : String} {record : Container} (old : s.Contains container record) :
    after.Contains container record where
  type := grows.types _ _ old.type
  distinct := old.distinct
  members member inside := grows.node (old.members member inside)
  published publication inside := grows.has (old.published publication inside)

end Grows

/-- A grown scene is well-formed if its nodes are and its tables hold nothing new, or only new
entries that are as they should be. -/
theorem WellFormed.grow {after : Scene} (wf : s.WellFormed) (grows : Grows s after)
    (ordered : after.Ordered) (distinct : after.nodeNames.Nodup)
    (named : ∀ n ∈ after.nodes, n.name ≠ "" ∧ '.' ∉ n.name.toList)
    (layouts : ∀ n ∈ after.nodes, n.layout.Sound)
    (values : ∀ entry ∈ after.values.entries,
      entry ∈ s.values.entries ∨ after.Valued entry.1)
    (connections : ∀ entry ∈ after.connections.entries,
      entry ∈ s.connections.entries ∨ after.Linked entry.1 entry.2)
    (containers : ∀ entry ∈ after.containers.entries,
      entry ∈ s.containers.entries ∨ after.Contains entry.1 entry.2) : after.WellFormed where
  ordered := ordered
  distinct := distinct
  named := named
  layouts := layouts
  valued entry member := (values entry member).elim
    (fun old => grows.valued (wf.valued entry old)) id
  linked entry member := (connections entry member).elim
    (fun old => grows.linked (wf.linked entry old)) id
  contained entry member := (containers entry member).elim
    (fun old => grows.contains (wf.contained entry old)) id

/-- A node is found under its name. -/
theorem WellFormed.node?_of_mem (wf : s.WellFormed) {n : Node} (member : n ∈ s.nodes) :
    s.node? n.name = some n := by
  refine find?_eq_some_of_unique member (by simp) ?_
  intro m other same
  exact List.inj_on_of_nodup_map wf.distinct other member (by simpa using same)

/-! ### Canonical plugs -/

/-- Every place on a node is designated by its path. -/
theorem WellFormed.place?_path (wf : s.WellFormed) {node : String} {n : Node}
    (found : s.node? node = some n) {place : Place} (on : place.On n.layout) :
    s.place? (Plug.join node place.path) = some (node, place) := by
  obtain ⟨member, rfl⟩ := mem_of_node? found
  obtain ⟨filled, noDot⟩ := wf.named n member
  have sound := wf.layouts n member
  have split := Plug.split?_join n.name place.path filled noDot (sound.path_ne_empty on)
  have located := sound.find?_path on
  exact (s.place?_eq_some_iff _ _ _).mpr ⟨place.path, n, split, found, located⟩

/-- What a plug designates is designated by its canonical spelling. -/
theorem WellFormed.place?_canonical (wf : s.WellFormed) {plug node : String} {place : Place}
    (there : s.place? plug = some (node, place)) :
    s.place? (Plug.join node place.path) = some (node, place) := by
  obtain ⟨attr, n, _, found, located⟩ := (s.place?_eq_some_iff _ _ _).mp there
  exact wf.place?_path found (Layout.on_of_find? located)

theorem WellFormed.canonical?_canonical (wf : s.WellFormed) {plug node : String} {place : Place}
    (there : s.place? plug = some (node, place)) :
    s.canonical? (Plug.join node place.path) = some (Plug.join node place.path) ∧
      s.width? (Plug.join node place.path) = some place.width := by
  rw [canonical?, width?, wf.place?_canonical there]
  exact ⟨rfl, rfl⟩

/-! ### Each change keeps the invariant -/

theorem WellFormed.set {after : Scene} (wf : s.WellFormed) {plug : String} {value : Float}
    (done : s.set plug value = .ok after) : after.WellFormed := by
  obtain ⟨node, place, there, narrow, rfl⟩ := set_eq_ok done
  have grows : Grows s { s with values := s.values.insert (Plug.join node place.path) value } :=
    .of_nodes rfl
  refine wf.grow grows ⟨wf.ordered.values.insert _ _, wf.ordered.connections,
    wf.ordered.containers⟩ wf.distinct wf.named wf.layouts ?_ (fun _ => Or.inl) (fun _ => Or.inl)
  intro entry member
  rcases Table.mem_of_mem_insert member with rfl | old
  · obtain ⟨canonical, width⟩ := wf.canonical?_canonical there
    exact Or.inr (grows.valued ⟨canonical, narrow ▸ width⟩)
  · exact Or.inl old

theorem WellFormed.connect {after : Scene} (wf : s.WellFormed) {source dest : String} {force : Bool}
    (done : s.connect source dest force = .ok after) : after.WellFormed := by
  obtain ⟨sourceNode, sourcePlace, destNode, destPlace, thereSource, thereDest, widths, different, _,
    rfl⟩ := connect_eq_ok done
  obtain ⟨canonicalSource, widthSource⟩ := wf.canonical?_canonical thereSource
  obtain ⟨canonicalDest, widthDest⟩ := wf.canonical?_canonical thereDest
  have linked : s.Linked (Plug.join destNode destPlace.path)
      (Plug.join sourceNode sourcePlace.path) :=
    ⟨canonicalDest, canonicalSource, by rw [widthDest, widthSource, widths], different.symm⟩
  have grows : Grows s { s with
      connections := s.connections.insert (Plug.join destNode destPlace.path)
        (Plug.join sourceNode sourcePlace.path) } := .of_nodes rfl
  refine wf.grow grows ⟨wf.ordered.values, wf.ordered.connections.insert _ _,
    wf.ordered.containers⟩ wf.distinct wf.named wf.layouts (fun _ => Or.inl) ?_ (fun _ => Or.inl)
  intro entry member
  rcases Table.mem_of_mem_insert member with rfl | old
  · exact Or.inr (grows.linked linked)
  · exact Or.inl old

theorem WellFormed.withNode (wf : s.WellFormed) {n : Node} (fresh : n.name ∉ s.nodeNames)
    (named : n.name ≠ "" ∧ '.' ∉ n.name.toList) (sound : n.layout.Sound) :
    (s.withNode n).WellFormed := by
  refine wf.grow (s.grows_withNode n) ⟨wf.ordered.values, wf.ordered.connections,
    wf.ordered.containers⟩ ?_ ?_ ?_ (fun _ => Or.inl)
    (fun _ => Or.inl) (fun _ => Or.inl)
  · show ((s.nodes ++ [n]).map (·.name)).Nodup
    rw [List.map_append]
    refine List.nodup_append.mpr ⟨wf.distinct, List.nodup_singleton _, ?_⟩
    intro old inside new isNew equal
    have same : old = n.name := equal.trans (List.mem_singleton.mp isNew)
    exact fresh (same ▸ inside)
  · intro m member
    rcases List.mem_append.mp member with old | new
    · exact wf.named m old
    · rw [List.mem_singleton.mp new]
      exact named
  · intro m member
    rcases List.mem_append.mp member with old | new
    · exact wf.layouts m old
    · rw [List.mem_singleton.mp new]
      exact sound

theorem WellFormed.create {after : Scene} (wf : s.WellFormed) {type name assigned : String}
    (done : s.create type name = .ok (assigned, after)) : after.WellFormed := by
  obtain ⟨layout, known, filled, noDot, _, rfl⟩ := create_eq_ok done
  exact wf.withNode (s.uniqueName_not_mem name) (s.uniqueName_valid filled noDot)
    (Layout.sound_ofType? known)

theorem WellFormed.addAttribute {after : Scene} (wf : s.WellFormed) {node name : String}
    {default : Float} (done : s.addAttribute node name default = .ok after) : after.WellFormed := by
  obtain ⟨filled, unmarked, n, found, free, rfl⟩ := addAttribute_eq_ok done
  refine wf.grow (grows_withAttribute default found free) ⟨wf.ordered.values,
    wf.ordered.connections, wf.ordered.containers⟩ ?_ ?_ ?_ (fun _ => Or.inl) (fun _ => Or.inl)
    (fun _ => Or.inl)
  · exact (s.nodeNames_withAttribute node _).symm ▸ wf.distinct
  · intro m member
    obtain ⟨old, inside, rfl⟩ := List.mem_map.mp member
    exact (extended_name node _ old).symm ▸ wf.named old inside
  · intro m member
    obtain ⟨old, inside, rfl⟩ := List.mem_map.mp member
    split
    · rename_i same
      obtain rfl : n = old := by
        have only := wf.node?_of_mem inside
        rw [same, found] at only
        exact Option.some.inj only
      exact (wf.layouts n inside).append_scalar default free filled unmarked
    · exact wf.layouts old inside

/-! ### Containers -/

theorem mem_appendNew {present new : List String} {x : String} (member : x ∈ appendNew present new) :
    x ∈ present ∨ x ∈ new := by
  induction new generalizing present with
  | nil => exact Or.inl member
  | cons y rest inductionHypothesis =>
    rw [appendNew] at member
    rcases inductionHypothesis member with old | later
    · split at old
      · exact Or.inl old
      · rcases List.mem_append.mp old with old | isNew
        · exact Or.inl old
        · rw [List.mem_singleton.mp isNew]
          exact Or.inr List.mem_cons_self
    · exact Or.inr (List.mem_cons_of_mem _ later)

theorem nodup_appendNew {present : List String} (nodup : present.Nodup) (new : List String) :
    (appendNew present new).Nodup := by
  induction new generalizing present with
  | nil => exact nodup
  | cons y rest inductionHypothesis =>
    rw [appendNew]
    split
    · exact inductionHypothesis nodup
    · rename_i absent
      refine inductionHypothesis (List.nodup_append.mpr ⟨nodup, List.nodup_singleton y, ?_⟩)
      intro x inside z isNew equal
      rw [List.mem_singleton.mp isNew] at equal
      exact absent (equal ▸ inside)

/-- Records that are replaced by valid ones keep the invariant. -/
theorem WellFormed.withContainer (wf : s.WellFormed) {container : String} {record : Container}
    (valid : s.Contains container record) :
    WellFormed { s with containers := s.containers.insert container record } := by
  have grows : Grows s { s with containers := s.containers.insert container record } :=
    .of_nodes rfl
  refine wf.grow grows ⟨wf.ordered.values, wf.ordered.connections,
    wf.ordered.containers.insert _ _⟩ wf.distinct wf.named wf.layouts (fun _ => Or.inl)
    (fun _ => Or.inl) ?_
  intro entry member
  rcases Table.mem_of_mem_insert member with rfl | old
  · exact Or.inr (grows.contains valid)
  · exact Or.inl old

theorem WellFormed.contains (wf : s.WellFormed) {container : String} {record : Container}
    (found : s.containers.find? container = some record) : s.Contains container record :=
  wf.contained _ (Table.mem_entries_of_find? found)

theorem WellFormed.createContainer {after : Scene} (wf : s.WellFormed) {name assigned : String}
    (done : s.createContainer name = .ok (assigned, after)) : after.WellFormed := by
  obtain ⟨created, made, rfl⟩ := createContainer_eq_ok done
  refine (wf.create made).withContainer ⟨?_, List.nodup_nil, by simp, by simp⟩
  obtain ⟨layout, _, _, _, rfl, rfl⟩ := create_eq_ok made
  have found := node?_withNode_self
    (n := ⟨s.uniqueName name, "container", layout⟩) (s.uniqueName_not_mem name)
  exact congrArg (Option.map (·.type)) found

theorem WellFormed.group {after : Scene} (wf : s.WellFormed) {container : String}
    {nodes : List String} (done : s.group container nodes = .ok after) : after.WellFormed := by
  obtain ⟨present, record, found, rfl⟩ := group_eq_ok done
  have old := wf.contains found
  refine wf.withContainer ⟨old.type, nodup_appendNew old.distinct nodes, ?_, old.published⟩
  intro member inside
  rcases mem_appendNew inside with known | new
  · exact old.members member known
  · exact present member new

theorem WellFormed.expose {after : Scene} (wf : s.WellFormed) {container plug name : String}
    (done : s.expose container plug name = .ok after) : after.WellFormed := by
  obtain ⟨there, record, found, rfl⟩ := expose_eq_ok done
  have old := wf.contains found
  refine wf.withContainer ⟨old.type, old.distinct, old.members, ?_⟩
  intro publication inside
  rcases List.mem_append.mp inside with known | new
  · exact old.published publication known
  · rw [List.mem_singleton.mp new]
    exact there

theorem WellFormed.setNote {after : Scene} (wf : s.WellFormed) {container text : String}
    (done : s.setNote container text = .ok after) : after.WellFormed := by
  obtain ⟨record, found, rfl⟩ := editContainer_eq_ok done
  have old := wf.contains found
  exact wf.withContainer ⟨old.type, old.distinct, old.members, old.published⟩

end FormulaNet.Scene
