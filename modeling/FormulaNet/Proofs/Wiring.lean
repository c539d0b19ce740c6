/-
This file says what drives the slots of a node once they are wired. Slots that
belong together are places of one attribute, or of one element of an array, and
wiring them changes nothing outside it. Linked one by one, each slot is driven
by what its source carries; where the wiring collapses, each slot is a child and
inherits the child at its own position. Either way a slot is driven by its share
of what the sources carry.
-/

import FormulaNet.Proofs.Links

namespace FormulaNet

namespace Scene

/-! ### Drivers after a wiring -/

/-- What drives a place depends on what is stored under it, and on what is connected into the compound
it belongs to. -/
theorem driverAt_congr {s after : Scene} (wf : s.WellFormed) (grows : Grows s after) {node : String}
    {place : Place} (own : SameAt s after (Plug.join node place.path))
    (parents : ∀ parent j, place.compound? = some (parent, j) →
      after.connections.find? (Plug.join node parent.path) =
        s.connections.find? (Plug.join node parent.path)) :
    after.driverAt node place = s.driverAt node place := by
  have inherited : after.inherited? node place = s.inherited? node place := by
    unfold inherited?
    cases belongs : place.compound? with
    | none => rfl
    | some pair =>
      obtain ⟨parent, j⟩ := pair
      dsimp only [Option.bind_some]
      rw [parents parent j belongs]
      cases connected : s.connections.find? (Plug.join node parent.path) with
      | none => rfl
      | some source =>
        -- Sources exist, and what exists keeps its parts.
        obtain ⟨_, known, _⟩ := wf.linked _ (Table.mem_entries_of_find? connected)
        obtain ⟨found, there, _⟩ := Option.map_eq_some_iff.mp known
        dsimp only [Option.bind_some]
        rw [parts?, parts?, grows.places _ _ there, there]
  rw [driverAt, driverAt, own.2, inherited, stored, stored, own.1]

/-- A place that nothing was connected into is driven by what it is fed with, as long as the compound
it belongs to stays unconnected. -/
theorem Fed.driverAt {s after : Scene} {node : String} {place : Place} {driver : Driver}
    (fed : Fed s after (Plug.join node place.path) driver)
    (free : s.connections.find? (Plug.join node place.path) = none)
    (parents : ∀ parent j, place.compound? = some (parent, j) →
      after.connections.find? (Plug.join node parent.path) = none) :
    after.driverAt node place = driver := by
  cases driver with
  | plug source => rw [Scene.driverAt, show after.connections.find? _ = some source from fed]
  | literal value =>
    have inherited : after.inherited? node place = none := by
      unfold inherited?
      cases belongs : place.compound? with
      | none => rfl
      | some pair =>
        dsimp only [Option.bind_some]
        rw [parents pair.1 pair.2 belongs]
        rfl
    rw [Scene.driverAt, fed.2.trans free]
    dsimp only
    rw [inherited, stored, fed.1]
    rfl

/-- A child that nothing is connected into is driven by the child at the same position of the compound
that is connected into its own. -/
theorem driverAt_child {s : Scene} {node sourceNode : String} {a q : Attribute}
    {c d : Attribute.Child} {j : Nat}    (position : a.children.idxOf? c = some j)
    (free : s.connections.find? (Plug.join node c.long) = none)
    (connected : s.connections.find? (Plug.join node a.long) = some (Plug.join sourceNode q.long))
    (there : s.place? (Plug.join sourceNode q.long) = some (sourceNode, .whole q))
    (atSource : q.children[j]? = some d) :
    s.driverAt node (.child a c) = .plug (Plug.join sourceNode d.long) := by
  have compound := Attribute.isCompound_of_mem (List.mem_of_getElem? atSource)
  have parts : s.parts? (Plug.join sourceNode q.long) =
      some (q.childNames.map (Plug.join sourceNode)) := by
    rw [parts?, there]
    simp [Place.parts?, compound]
  have inherited : s.inherited? node (.child a c) = some (Plug.join sourceNode d.long) := by
    rw [inherited?, Place.compound?, position]
    dsimp only [Option.map_some, Option.bind_some, Place.path]
    rw [connected]
    dsimp only [Option.bind_some]
    rw [parts, Option.bind_some]
    simp [Attribute.childNames, atSource]
  rw [Scene.driverAt, Place.path, free]
  dsimp only
  rw [inherited]

/-- Nothing differs but what is stored under the places of some keys on a node. -/
structure OnlyAt (node : String) (layout : Layout) (keys : List (String × Option Nat))
    (s after : Scene) : Prop where
  nodes : after.nodes = s.nodes
  same : ∀ plug, (∀ place : Place, place.On layout → place.key ∈ keys →
    plug ≠ Plug.join node place.path) → SameAt s after plug

/-- Nothing is connected into the places of a key on a node. -/
def Unwired (s : Scene) (node : String) (layout : Layout) (key : String × Option Nat) : Prop :=
  ∀ place : Place, place.On layout → place.key = key →
    s.connections.find? (Plug.join node place.path) = none

namespace OnlyAt

variable {node : String} {layout : Layout} {keys more : List (String × Option Nat)}
  {s between after : Scene}

theorem refl (node : String) (layout : Layout) (s : Scene) : OnlyAt node layout [] s s :=
  ⟨rfl, fun _ _ => ⟨rfl, rfl⟩⟩

theorem trans (first : OnlyAt node layout keys s between)
    (second : OnlyAt node layout more between after) : OnlyAt node layout (keys ++ more) s after where
  nodes := second.nodes.trans first.nodes
  same plug apart :=
    (first.same plug fun place on keyed => apart place on (List.mem_append_left _ keyed)).trans
      (second.same plug fun place on keyed => apart place on (List.mem_append_right _ keyed))

variable (only : OnlyAt node layout keys s after) (sound : layout.Sound)
include only sound

theorem sameAt {place : Place} (on : place.On layout) (other : place.key ∉ keys) :
    SameAt s after (Plug.join node place.path) := by
  apply only.same
  intro changed onChanged keyed equal
  have alike := sound.path_injective on onChanged (Plug.join_injective node equal)
  exact other (alike ▸ keyed)

theorem driverAt (wf : s.WellFormed) {place : Place} (on : place.On layout)
    (other : place.key ∉ keys) : after.driverAt node place = s.driverAt node place := by
  refine driverAt_congr wf (.of_nodes only.nodes) (only.sameAt sound on other) ?_
  intro parent j belongs
  have otherParent : parent.key ∉ keys := Place.key_of_compound? belongs ▸ other
  exact (only.sameAt sound (on.of_compound? belongs) otherParent).2

theorem unwired {key : String × Option Nat} (other : key ∉ keys)
    (unwired : s.Unwired node layout key) : after.Unwired node layout key := by
  intro place on keyed
  rw [(only.sameAt sound on (keyed ▸ other)).2]
  exact unwired place on keyed

end OnlyAt

/-! ### Wiring a group of slots -/

/-- Slots that stand for different places of one channel, all of one key. Slots that designate
nothing are left open. -/
structure Grouped (layout : Layout) (key : String × Option Nat) (slots : List String) : Prop where
  distinct : slots.Nodup
  narrow : ∀ slot ∈ slots, ∀ place, layout.find? slot = some place →
    place.path = slot ∧ place.key = key ∧ place.parts? = none

/-- Each slot of a node is driven by what the source of its link carried. -/
def Driven (s after : Scene) (node : String) (slots : List String) (pairs : List Link) : Prop :=
  ∀ (j : Nat) (slot : String) (pair : Link), slots[j]? = some slot → pairs[j]? = some pair →
    ∀ driver, s.Carries pair.source driver → after.driver? (Plug.join node slot) = some driver

section Group

variable {s after : Scene} (wf : s.WellFormed) {node : String} {n : Node}
  (found : s.node? node = some n)
include wf found

theorem WellFormed.find?_of_place? {attr owner : String} {place : Place}
    (there : s.place? (Plug.join node attr) = some (owner, place)) :
    owner = node ∧ n.layout.find? attr = some place := by
  obtain ⟨path, m, split, foundOwner, located⟩ := (s.place?_eq_some_iff _ _ _).mp there
  obtain ⟨_, _, freeOwner, joined⟩ := (Plug.split?_eq_some_iff _ _ _).mp split
  obtain ⟨member, rfl⟩ := mem_of_node? found
  obtain ⟨rfl, rfl⟩ := Plug.join_inj freeOwner (wf.named n member).2 joined
  obtain rfl := Option.some.inj (foundOwner.symm.trans found)
  exact ⟨rfl, located⟩

variable {key : String × Option Nat} {slots : List String} (grouped : Grouped n.layout key slots)
  (unwired : s.Unwired node n.layout key) {force : Bool} {pairs : List Link}
  (aimed : pairs.map (·.target) = slots.map fun slot => .plug (Plug.join node slot))
include grouped aimed

/-- Slots of one channel are spelled canonically. -/
theorem WellFormed.isCanonical_slots :
    ∀ link ∈ pairs, ∀ text, link.target = .plug text → s.IsCanonical text := by
  intro link member text isPlug owner place there
  have among : link.target ∈ pairs.map (·.target) := List.mem_map_of_mem member
  rw [aimed, isPlug] at among
  obtain ⟨slot, inside, equal⟩ := List.mem_map.mp among
  obtain rfl := Channel.plug.inj equal
  obtain ⟨rfl, located⟩ := wf.find?_of_place? found there
  rw [(grouped.narrow slot inside place located).1]

omit wf found in
theorem Grouped.nodup_targets : (pairs.map (·.target)).Nodup := by
  rw [aimed]
  exact grouped.distinct.map fun _ _ equal => Plug.join_injective node (Channel.plug.inj equal)

include unwired

/-- Slots that are linked one by one are driven by what their sources carry. -/
theorem WellFormed.drives_of_pairs (made : Link.MakesAll force pairs s after) :
    OnlyAt node n.layout [key] s after ∧ Driven s after node slots pairs := by
  have sound := wf.layouts n (mem_of_node? found).1
  have slotOf : ∀ text, .plug text ∈ pairs.map (·.target) →
      ∃ slot ∈ slots, text = Plug.join node slot := by
    intro text among
    rw [aimed] at among
    obtain ⟨slot, inside, equal⟩ := List.mem_map.mp among
    exact ⟨slot, inside, (Channel.plug.inj equal).symm⟩
  obtain ⟨nodes, elsewhere, fed⟩ := makesAll_fed made
    (wf.isCanonical_slots found grouped aimed) (grouped.nodup_targets aimed)
  have targeted : ∀ plug, .plug plug ∈ pairs.map (·.target) → ∃ place : Place,
      place.On n.layout ∧ place.key = key ∧ place.parts? = none ∧
        plug = Plug.join node place.path := by
    intro plug among
    obtain ⟨link, member, isPlug⟩ := List.mem_map.mp among
    obtain ⟨text, ⟨owner, place⟩, isText, there, _⟩ := fed link member
    obtain rfl := Channel.plug.inj (isPlug.symm.trans isText)
    obtain ⟨slot, inside, rfl⟩ := slotOf plug among
    obtain ⟨rfl, located⟩ := wf.find?_of_place? found there
    obtain ⟨path, keyed, narrow⟩ := grouped.narrow slot inside place located
    exact ⟨place, Layout.on_of_find? located, keyed, narrow, by rw [path]⟩
  refine ⟨⟨nodes, fun plug apart => elsewhere plug fun among => ?_⟩, ?_⟩
  · obtain ⟨place, on, keyed, _, equal⟩ := targeted plug among
    exact apart place on (List.mem_singleton.mpr keyed) equal
  · intro j slot pair atSlot atPair driver carries
    obtain ⟨text, ⟨owner, place⟩, isPlug, there, feeds⟩ := fed pair (List.mem_of_getElem? atPair)
    have sameTarget := congrArg (·[j]?) aimed
    simp only [List.getElem?_map, atSlot, atPair, Option.map_some, isPlug] at sameTarget
    obtain rfl := Channel.plug.inj (Option.some.inj sameTarget)
    obtain ⟨rfl, located⟩ := wf.find?_of_place? found there
    obtain ⟨rfl, keyed, _⟩ := grouped.narrow slot (List.mem_of_getElem? atSlot) place located
    have on := Layout.on_of_find? located
    rw [driver?, (Grows.of_nodes nodes).places _ _ there]
    refine congrArg some ((feeds driver carries).driverAt (unwired place on keyed) ?_)
    intro parent i belongs
    -- A slot has one channel, so the compound it belongs to is none of the targets.
    have onParent := on.of_compound? belongs
    have untouched : .plug (Plug.join owner parent.path) ∉ pairs.map (·.target) := by
      intro among
      obtain ⟨other, onOther, _, narrow, equal⟩ := targeted _ among
      obtain rfl := sound.path_injective onParent onOther (Plug.join_injective _ equal)
      exact Place.parts?_of_compound? belongs narrow
    rw [(elsewhere _ untouched).2]
    exact unwired parent onParent ((Place.key_of_compound? belongs).trans keyed)

omit grouped unwired in
/-- Slots that are the children of a compound are its children in order. -/
theorem WellFormed.slot_child {owner : String} {a : Attribute}
    (children : List.Forall₂ (fun channel c => ∃ text, channel = .plug text ∧
      s.place? text = some (owner, .child a c)) (pairs.map (·.target)) a.children)
    {j : Nat} {slot : String} (atSlot : slots[j]? = some slot) :
    ∃ c, a.children[j]? = some c ∧ owner = node ∧ n.layout.find? slot = some (.child a c) := by
  have atTarget : (pairs.map (·.target))[j]? = some (.plug (Plug.join node slot)) := by
    rw [aimed, List.getElem?_map, atSlot]
    rfl
  obtain ⟨c, atChild, text, isPlug, thereChild⟩ := forall₂_getElem? children atTarget
  cases isPlug
  exact ⟨c, atChild, wf.find?_of_place? found thereChild⟩

omit unwired in
/-- The compound that slots collapse into stands on their node, under their key. -/
theorem WellFormed.collapse?_slots {target : String}
    (collapsed : s.collapse? (pairs.map (·.target)) = some target) :
    ∃ a, target = Plug.join node a.long ∧ s.place? target = some (node, .whole a) ∧
      a.isCompound = true ∧ a ∈ n.layout ∧ (Place.whole a).key = key ∧
      List.Forall₂ (fun channel c => ∃ text, channel = .plug text ∧
        s.place? text = some (node, .child a c)) (pairs.map (·.target)) a.children := by
  obtain ⟨owner, a, rfl, there, compound, children⟩ := wf.collapse?_children collapsed
  -- The first slot tells on which node and under which key the compound stands.
  obtain ⟨first, atFirst⟩ : ∃ slot, slots[0]? = some slot := by
    cases slots with
    | cons slot rest => exact ⟨slot, rfl⟩
    | nil =>
      rw [aimed] at children
      cases empty : a.children with
      | nil => simp [Attribute.isCompound, empty] at compound
      | cons c rest => simp [empty] at children
  obtain ⟨c, _, rfl, located⟩ := wf.slot_child found aimed children atFirst
  obtain ⟨_, keyed, _⟩ := grouped.narrow first (List.mem_of_getElem? atFirst) _ located
  obtain ⟨member, _, _⟩ := Layout.on_of_find? located
  exact ⟨a, rfl, there, compound, member, keyed, children⟩

/-- Slots that collapse together with their sources inherit what the sources carry. -/
theorem WellFormed.drives_of_collapse {target source : String}
    (collapsedTarget : s.collapse? (pairs.map (·.target)) = some target)
    (collapsedSource : s.collapse? (pairs.map (·.source)) = some source)
    (made : Link.Makes force ⟨.plug target, .plug source⟩ s after) :
    OnlyAt node n.layout [key] s after ∧ Driven s after node slots pairs := by
  have sound := wf.layouts n (mem_of_node? found).1
  obtain ⟨a, rfl, there, _, member, keyed, children⟩ :=
    wf.collapse?_slots found grouped aimed collapsedTarget
  obtain ⟨sourceNode, q, rfl, thereSource, _, sources⟩ := wf.collapse?_children collapsedSource
  obtain ⟨nodes, connected, elsewhere⟩ : after.nodes = s.nodes ∧
      after.connections.find? (Plug.join node a.long) = some (Plug.join sourceNode q.long) ∧
      ∀ plug, plug ≠ Plug.join node a.long → SameAt s after plug := by
    cases made with
    | connect done => exact connect_stores done thereSource there
  have grows : Grows s after := .of_nodes nodes
  have onWhole : (Place.whole a).On n.layout := member
  have inside : (Place.whole a).key ∈ [key] := List.mem_singleton.mpr keyed
  refine ⟨⟨nodes, fun plug apart => elsewhere plug (apart (.whole a) onWhole inside)⟩, ?_⟩
  intro j slot pair atSlot atPair driver carries
  obtain ⟨d, atChild, _, locatedSlot⟩ := wf.slot_child found aimed children atSlot
  obtain ⟨rfl, keyedSlot, _⟩ := grouped.narrow slot (List.mem_of_getElem? atSlot) _ locatedSlot
  have onSlot := Layout.on_of_find? locatedSlot
  have atSource : (pairs.map (·.source))[j]? = some pair.source := by
    rw [List.getElem?_map, atPair]
    rfl
  obtain ⟨e, atSourceChild, text, isPlug, thereChild⟩ := forall₂_getElem? sources atSource
  rw [isPlug] at carries
  have free : after.connections.find? (Plug.join node d.long) = none := by
    have apart : Plug.join node d.long ≠ Plug.join node a.long := by
      intro equal
      cases sound.path_injective onSlot onWhole (Plug.join_injective node equal)
    rw [(elsewhere _ apart).2]
    exact unwired (.child a d) onSlot keyedSlot
  rw [driver?, grows.places _ _ (wf.place?_path found onSlot), carries.eq_plug thereChild]
  exact congrArg some (driverAt_child (sound.idxOf?_child member atChild) free connected
    (grows.places _ _ thereSource) atSourceChild)

end Group

/-- The slots of a node are driven, each by its share of several drivers. -/
def Supplied (s : Scene) (node : String) (slots : List String) (drivers : List Driver) : Prop :=
  ∀ (j : Nat) (slot : String), slots[j]? = some slot →
    ∃ driver, Driver.share? drivers j = some driver ∧
      s.driver? (Plug.join node slot) = some driver

/-- A slot keeps its driver when places of other keys change. -/
theorem OnlyAt.driver? {s after : Scene} {node : String} {n : Node}
    {keys : List (String × Option Nat)} (only : OnlyAt node n.layout keys s after)
    (wf : s.WellFormed) (found : s.node? node = some n) {key : String × Option Nat}
    {slots : List String} (grouped : Grouped n.layout key slots) (other : key ∉ keys) {slot : String}
    (inside : slot ∈ slots) {driver : Driver}
    (drives : s.driver? (Plug.join node slot) = some driver) :
    after.driver? (Plug.join node slot) = some driver := by
  obtain ⟨⟨owner, place⟩, there, drivesAt⟩ := Option.map_eq_some_iff.mp drives
  obtain ⟨rfl, located⟩ := wf.find?_of_place? found there
  obtain ⟨_, keyed, _⟩ := grouped.narrow slot inside place located
  have sound := wf.layouts n (mem_of_node? found).1
  have same := only.driverAt sound wf (Layout.on_of_find? located) (keyed ▸ other)
  rw [Scene.driver?, (Grows.of_nodes only.nodes).places _ _ there]
  exact congrArg some (same.trans drivesAt)

end Scene

namespace Program

/-- Wiring a group of slots that nothing is connected into drives each slot by its share of what the
sources carry, and leaves all other places alone. -/
theorem wire_supplied {o : Options} {s after : Session} (wf : s.scene.WellFormed) {node : String}
    {n : Node} (found : s.scene.node? node = some n) {key : String × Option Nat}
    {slots : List String} (grouped : Scene.Grouped n.layout key slots)
    (unwired : s.scene.Unwired node n.layout key) {sources : List Channel} {drivers : List Driver}
    (carry : List.Forall₂ s.scene.Carries sources drivers)
    (done : exec (wire o (slots.map fun slot => .plug (Plug.join node slot)) sources) s =
      (.ok (), after)) :
    Scene.OnlyAt node n.layout [key] s.scene after.scene ∧
      after.scene.Supplied node slots drivers := by
  obtain ⟨pairs, paired, made⟩ := makesAll_of_wire done
  obtain ⟨aimed, shared⟩ := Link.pair?_eq_some paired
  have driven : Scene.OnlyAt node n.layout [key] s.scene after.scene ∧
      Scene.Driven s.scene after.scene node slots pairs := by
    rw [Scene.collapseLinks] at made
    split at made
    · rename_i target source collapsedTarget collapsedSource
      cases made with
      | cons first others =>
        cases others
        exact wf.drives_of_collapse found grouped unwired aimed collapsedTarget collapsedSource
          first
    · exact wf.drives_of_pairs found grouped unwired aimed made
  refine ⟨driven.1, ?_⟩
  intro j slot atSlot
  obtain ⟨pair, atPair⟩ : ∃ pair, pairs[j]? = some pair := by
    have same := congrArg (·[j]?) aimed
    simp only [List.getElem?_map, atSlot, Option.map_some] at same
    obtain ⟨pair, atPair, _⟩ := Option.map_eq_some_iff.mp same
    exact ⟨pair, atPair⟩
  rcases shared j pair atPair with only | own
  · rw [only] at carry
    cases carry with
    | @cons _ driver _ _ carries rest =>
      cases rest
      exact ⟨driver, rfl, driven.2 j slot pair atSlot atPair driver carries⟩
  · obtain ⟨driver, atDriver, carries⟩ := forall₂_getElem? carry own
    exact ⟨driver, Driver.share?_of_getElem? atDriver,
      driven.2 j slot pair atSlot atPair driver carries⟩

end Program

end FormulaNet
