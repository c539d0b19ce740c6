/-
This file says how a test gets its branches. A branch is wired to the first
children of a compound, as many as the wider branch has channels. That succeeds
exactly if the numbers allow it, drives each slot by its share of the branch,
and leaves alone whatever is no slot that was wired, except that a branch that
fills its compound may be connected to the compound as a whole. The two branches
have a compound each, so neither wiring disturbs the other.
-/

import FormulaNet.Proofs.Acceptance
import FormulaNet.Proofs.Direct
import FormulaNet.Proofs.Typed

namespace FormulaNet

/-! ### What a wiring leaves alone -/

namespace Scene

/-- Links change nothing but their targets. -/
theorem makesAll_elsewhere {force : Bool} {links : List Link} {s after : Scene} {plug : String}
    (made : Link.MakesAll force links s after) (missed : ∀ link ∈ links, s.goal? link ≠ some plug) :
    SameAt s after plug := by
  induction made with
  | nil s => exact ⟨rfl, rfl⟩
  | cons first _ inductionHypothesis =>
    obtain ⟨nodes, key, aimed, elsewhere, _⟩ := makes_stores first
    rw [List.forall_mem_cons] at missed
    refine (elsewhere plug fun equal => missed.1 (equal ▸ aimed)).trans (inductionHypothesis ?_)
    intro link member
    rw [goal?_of_nodes nodes]
    exact missed.2 link member

end Scene

/-- A wiring changes no numbers but those of its targets, and no connections but those into its
targets and into the compound they collapse into. -/
theorem Program.wire_elsewhere {o : Options} {targets sources : List Channel} {s after : Session}
    (done : exec (wire o targets sources) s = (.ok (), after)) {plug : String}
    (missed : ∀ text, .plug text ∈ targets → s.scene.canonical? text ≠ some plug) :
    after.scene.values.find? plug = s.scene.values.find? plug ∧
      ((∀ compound, s.scene.collapse? targets = some compound →
          s.scene.canonical? compound ≠ some plug) →
        after.scene.connections.find? plug = s.scene.connections.find? plug) := by
  obtain ⟨pairs, paired, made⟩ := makesAll_of_wire done
  obtain ⟨aimed, _⟩ := Link.pair?_eq_some paired
  rw [Scene.collapseLinks] at made
  split at made
  · rename_i target source collapsedTarget _
    rw [aimed] at collapsedTarget
    cases made with
    | cons first others =>
      cases others
      obtain ⟨_, key, goal, elsewhere, _⟩ := Scene.makes_stores first
      cases first with
      | connect connected =>
        obtain ⟨_, _, _, _, _, _, _, _, _, reached⟩ := Scene.connect_eq_ok connected
        refine ⟨by rw [reached], fun other => (elsewhere plug fun equal => ?_).2⟩
        exact other target collapsedTarget (equal ▸ goal)
  · have same : Scene.SameAt s.scene after.scene plug := by
      refine Scene.makesAll_elsewhere made fun link member goal => ?_
      obtain ⟨text, _, _, isPlug, _⟩ := Scene.goal?_eq_some goal
      have among := List.mem_map_of_mem (f := (·.target)) member
      rw [aimed, isPlug] at among
      rw [Scene.goal?, isPlug] at goal
      exact missed text among goal
    exact ⟨same.1, fun _ => same.2⟩

/-! ### One compound -/

theorem Attribute.exists_child {a : Attribute} (compound : a.isCompound = true) :
    ∃ c, c ∈ a.children := by
  refine List.exists_mem_of_ne_nil _ fun childless => ?_
  simp [isCompound, childless] at compound

namespace Scene

namespace Compound

variable {s : Scene} {node : String} {n : Node} {a : Attribute} (held : s.Compound node n a)
include held

theorem of_nodes {after : Scene} (nodes : after.nodes = s.nodes) : after.Compound node n a :=
  { held with found := by rw [node?, nodes, ← node?]; exact held.found }

theorem on_child {c : Attribute.Child} (child : c ∈ a.children) : (Place.child a c).On n.layout :=
  ⟨held.member, held.single, child⟩

variable (wf : s.WellFormed)
include wf

theorem noDot : '.' ∉ node.toList := by
  obtain ⟨inScene, rfl⟩ := mem_of_node? held.found
  exact (wf.named n inScene).2

theorem find?_child {c : Attribute.Child} (child : c ∈ a.children) :
    n.layout.find? c.long = some (.child a c) := by
  have located := (wf.layouts n (mem_of_node? held.found).1).find?_path (held.on_child child)
  rwa [Place.path] at located

theorem place?_whole : s.place? (Plug.join node a.long) = some (node, .whole a) := by
  have on : (Place.whole a).On n.layout := held.member
  have there := wf.place?_path held.found on
  rwa [Place.path] at there

theorem place?_child {c : Attribute.Child} (child : c ∈ a.children) :
    s.place? (Plug.join node c.long) = some (node, .child a c) :=
  wf.place?_child (held.place?_whole wf) held.single child

/-- The first children of a compound are slots that belong together. -/
theorem grouped (width : Nat) : Grouped n.layout (a.long, none) (a.childNames.take width) := by
  have grouped : Grouped n.layout (a.long, none) a.childNames := by
    refine ⟨wf.nodup_childNames held.found held.member, fun slot inside place located => ?_⟩
    obtain ⟨c, child, rfl⟩ := List.mem_map.mp inside
    obtain rfl := Option.some.inj (located.symm.trans (held.find?_child wf child))
    exact ⟨rfl, rfl, rfl⟩
  exact grouped.sublist (List.take_sublist _ _)

theorem present {width : Nat} {slot : String} (inside : slot ∈ a.childNames.take width) :
    (n.layout.find? slot).isSome = true := by
  obtain ⟨c, child, rfl⟩ := List.mem_map.mp (List.mem_of_mem_take inside)
  exact Option.isSome_of_eq_some (held.find?_child wf child)

/-- If nothing is connected into the children of a compound or into it, then nothing is connected
into what stands under its key. -/
theorem unwired (undriven : ∀ slot ∈ a.childNames, s.Undriven (.plug (Plug.join node slot))) :
    s.Unwired node n.layout (a.long, none) := by
  have sound := wf.layouts n (mem_of_node? held.found).1
  have targeted : List.Forall₂ (fun channel c => ∃ text, channel = .plug text ∧
      s.place? text = some (node, .child a c))
      (a.childNames.map fun slot => Channel.plug (Plug.join node slot)) a.children := by
    rw [Attribute.childNames, List.map_map, List.forall₂_map_left_iff, List.forall₂_same]
    exact fun c child => ⟨_, rfl, held.place?_child wf child⟩
  have each : ∀ channel ∈ a.childNames.map fun slot => Channel.plug (Plug.join node slot),
      s.Undriven channel := List.forall_mem_map.mpr undriven
  have free {c : Attribute.Child} (child : c ∈ a.children) :=
    wf.free_of_undriven (held.place?_whole wf) targeted each child
  have onWhole : (Place.whole a).On n.layout := held.member
  have own {b : Attribute} (on : (Place.whole b).On n.layout) (long : b.long = a.long) : b = a :=
    Place.whole.inj (sound.path_injective on onWhole long)
  intro place on keyed
  cases place with
  | whole b =>
    obtain rfl := own on (Prod.mk.inj keyed).1
    obtain ⟨c, child⟩ := Attribute.exists_child held.compound
    exact (free child).2
  | child b c =>
    obtain rfl := own on.1 (Prod.mk.inj keyed).1
    exact (free on.2.2).1
  | element b index => cases (Prod.mk.inj keyed).2
  | elementChild b index c => cases (Prod.mk.inj keyed).2

/-- The first children of a compound collapse into nothing else, and only if they are all. -/
theorem collapse?_take {width : Nat} {compound : String}
    (collapsed : s.collapse? ((a.childNames.take width).map fun slot =>
      .plug (Plug.join node slot)) = some compound) :
    s.canonical? compound = some (Plug.join node a.long) ∧ a.childNames.length ≤ width := by
  obtain ⟨owner, q, rfl, there, isCompound, children⟩ := wf.collapse?_children collapsed
  -- Any of the children tells which compound it is.
  obtain ⟨d, inside⟩ := Attribute.exists_child isCompound
  obtain ⟨j, atChild⟩ := List.mem_iff_getElem?.mp inside
  obtain ⟨_, atSlot, text, rfl, thereChild⟩ := forall₂_getElem? children.flip atChild
  obtain ⟨slot, among, equal⟩ := List.mem_map.mp (List.mem_of_getElem? atSlot)
  cases equal
  obtain ⟨c, child, rfl⟩ := List.mem_map.mp (List.mem_of_mem_take among)
  cases (held.place?_child wf child).symm.trans thereChild
  have counted := children.length_eq
  rw [List.length_map, List.length_take] at counted
  have named : a.childNames.length = a.children.length := List.length_map _
  refine ⟨?_, by omega⟩
  rw [canonical?, there]
  rfl

/-- The first children of a compound, if they are all, belong to the compound. -/
theorem exists_parent? {width : Nat} (filled : a.childNames.length ≤ width) :
    ∃ slot ∈ a.childNames.take width, s.parent? node slot = some a.long := by
  obtain ⟨c, child⟩ := Attribute.exists_child held.compound
  refine ⟨c.long, ?_, ?_⟩
  · rw [List.take_of_length_le filled]
    exact List.mem_map_of_mem child
  · rw [parent?, locate?_eq, held.found, Option.bind_some, held.find?_child wf child]
    rfl

end Compound

/-- Nothing differs but what is stored under the first children of a compound and, if these are all
of them, what is connected into the compound. -/
structure Binds (node : String) (a : Attribute) (width : Nat) (s after : Scene) : Prop where
  nodes : after.nodes = s.nodes
  containers : after.containers = s.containers
  values : ∀ plug, (∀ slot ∈ a.childNames.take width, plug ≠ Plug.join node slot) →
    after.values.find? plug = s.values.find? plug
  connections : ∀ plug, (∀ slot ∈ a.childNames.take width, plug ≠ Plug.join node slot) →
    (a.childNames.length ≤ width → plug ≠ Plug.join node a.long) →
    after.connections.find? plug = s.connections.find? plug

namespace Binds

variable {s after : Scene} {node : String} {a : Attribute} {width : Nat}
  (binds : s.Binds node a width after)
include binds

/-- What is driven as one channel, and is none of the children that were bound, keeps its driver. -/
theorem driver? (wf : s.WellFormed) {n : Node} (held : s.Compound node n a) {plug : String}
    (narrow : s.width? plug = some 1)
    (other : ∀ slot ∈ a.childNames.take width, s.canonical? plug ≠ some (Plug.join node slot)) :
    after.driver? plug = s.driver? plug := by
  obtain ⟨⟨owner, place⟩, there, isNarrow⟩ := Option.map_eq_some_iff.mp narrow
  have isKey : s.canonical? plug = some (Plug.join owner place.path) := by
    rw [canonical?, there]
    rfl
  have missed : ∀ slot ∈ a.childNames.take width,
      Plug.join owner place.path ≠ Plug.join node slot := fun slot inside equal =>
    other slot inside (isKey.trans (congrArg some equal))
  have thereWhole := held.place?_whole wf
  rw [Scene.driver?, Scene.driver?, place?_of_nodes binds.nodes, there]
  refine congrArg some (driverAt_congr wf (.of_nodes binds.nodes)
    ⟨binds.values _ missed, binds.connections _ missed fun _ equal => ?_⟩ ?_)
  · cases wf.place_eq_of_join_eq there thereWhole equal
    exact wf.width_compound there held.compound isNarrow
  · intro parent j belongs
    have thereParent := wf.place?_compound there belongs
    refine binds.connections _ (fun slot inside equal => ?_) fun filled equal => ?_
    · obtain ⟨c, child, rfl⟩ := List.mem_map.mp (List.mem_of_mem_take inside)
      cases wf.place_eq_of_join_eq thereParent (held.place?_child wf child) equal
      exact Place.parts?_of_compound? belongs rfl
    · cases wf.place_eq_of_join_eq thereParent thereWhole equal
      obtain ⟨c, child, rfl⟩ := compound?_eq_whole belongs
      refine missed c.long ?_ rfl
      rw [List.take_of_length_le filled]
      exact List.mem_map_of_mem child

/-- The slots of an operation keep what is stored under them when one of its branches is bound. -/
theorem sameAt_own {op : Operation} (branch : op.Branch a) {slot : String}
    (own : slot ∈ "operation" :: op.inputs.flatten) : SameAt s after (Plug.join node slot) := by
  have apart := branch.apart slot own
  have missed : ∀ child ∈ a.childNames.take width, Plug.join node slot ≠ Plug.join node child := by
    intro child inside equal
    obtain rfl := Plug.join_injective node equal
    exact apart (List.mem_cons_of_mem _ (List.mem_of_mem_take inside))
  refine ⟨binds.values _ missed, binds.connections _ missed fun _ equal => ?_⟩
  exact List.ne_of_not_mem_cons apart (Plug.join_injective node equal)

end Binds

end Scene

namespace Program

/-- Wires the first children of a compound. -/
abbrev wireFirst (o : Options) (node : String) (a : Attribute) (width : Nat)
    (sources : List Channel) : Program Unit :=
  wire o ((a.childNames.take width).map fun slot => .plug (Plug.join node slot)) sources

section Wiring

variable {s : Session} (wf : s.scene.WellFormed) {node : String} {n : Node} {a : Attribute}
  (held : s.scene.Compound node n a) {sources : List Channel}
include wf held

/-- Setting or connecting the first children of a compound is wiring them. -/
theorem exec_setOrConnect_children (o : Options) (width : Nat) {operand : Operand}
    (taken : s.scene.unravel operand = .ok sources) :
    exec (setOrConnect o (.node node (.many (a.childNames.take width))) operand) s =
      exec (wireFirst o node a width sources) s := by
  have grouped := held.grouped wf width
  exact exec_setOrConnect (Scene.unravel_slots (held.noDot wf) held.found grouped rfl) taken

theorem binds_of_wire {o : Options} {width : Nat} {after : Session}
    (done : exec (wireFirst o node a width sources) s = (.ok (), after)) :
    s.scene.Binds node a width after.scene := by
  have only := onlyOn_wire o (held.noDot wf) (a.childNames.take width) sources s
  rw [done] at only
  have apart {plug : String}
      (missed : ∀ slot ∈ a.childNames.take width, plug ≠ Plug.join node slot) (text : String)
      (among : .plug text ∈ (a.childNames.take width).map fun slot =>
        Channel.plug (Plug.join node slot)) : s.scene.canonical? text ≠ some plug := by
    intro known
    obtain ⟨slot, inside, equal⟩ := List.mem_map.mp among
    cases equal
    obtain ⟨c, child, rfl⟩ := List.mem_map.mp (List.mem_of_mem_take inside)
    rw [Scene.canonical?, held.place?_child wf child] at known
    exact missed c.long inside (Option.some.inj known).symm
  refine ⟨only.nodes, only.containers, ?_, ?_⟩
  · intro plug missed
    exact (wire_elsewhere done (apart missed)).1
  · intro plug missed whole
    refine (wire_elsewhere done (apart missed)).2 fun compound collapsed known => ?_
    obtain ⟨isWhole, filled⟩ := held.collapse?_take wf collapsed
    exact whole filled (Option.some.inj (known.symm.trans isWhole))

end Wiring

end Program

/-! ### Both branches -/

/-- The slots of both branches that are bound if the wider branch has some width. -/
def Branches.bound (branches : Branches) (width : Nat) : List String :=
  branches.ifTrue.take width ++ branches.ifFalse.take width

namespace Scene

/-- Both branches of a test are bound: each slot is driven by its share of its branch, and nothing
else differs. Only if the branches fill their compounds may the compounds be connected. -/
structure BindsBranches (node : String) (op : Operation) (branches : Branches) (width : Nat)
    (trues falses : List Channel) (s after : Scene) : Prop where
  ifTrue : ∃ drivers, List.Forall₂ s.Carries trues drivers ∧
    after.Supplied node (branches.ifTrue.take width) drivers
  ifFalse : ∃ drivers, List.Forall₂ s.Carries falses drivers ∧
    after.Supplied node (branches.ifFalse.take width) drivers
  nodes : after.nodes = s.nodes
  containers : after.containers = s.containers
  own : ∀ slot ∈ "operation" :: op.inputs.flatten, SameAt s after (Plug.join node slot)
  values : ∀ plug, (∀ slot ∈ branches.bound width, plug ≠ Plug.join node slot) →
    after.values.find? plug = s.values.find? plug
  connections : ∀ plug, (∀ slot ∈ branches.bound width, plug ≠ Plug.join node slot) →
    (branches.channels.length ≤ width → ∀ slot ∈ branches.bound width, ∀ parent,
      s.parent? node slot = some parent → plug ≠ Plug.join node parent) →
    after.connections.find? plug = s.connections.find? plug
  drivers : ∀ plug, s.width? plug = some 1 →
    (∀ slot ∈ branches.bound width, s.canonical? plug ≠ some (Plug.join node slot)) →
    after.driver? plug = s.driver? plug

namespace Forks

variable {s : Scene} {node : String} {op : Operation} {branches : Branches} {n : Node}
  {a b : Attribute} (forks : s.Forks node op branches n a b)
include forks

theorem ifTrue_eq : branches.ifTrue = a.childNames := by
  rw [Branches.ifTrue, forks.slots]
  rfl

theorem ifFalse_eq : branches.ifFalse = b.childNames := by
  rw [Branches.ifFalse, forks.slots]
  rfl

theorem of_nodes {after : Scene} (nodes : after.nodes = s.nodes) :
    after.Forks node op branches n a b :=
  { forks with ifTrue := forks.ifTrue.of_nodes nodes, ifFalse := forks.ifFalse.of_nodes nodes }

end Forks

end Scene

/-- Both branches match up with the wider of them exactly if each has one channel or as many. -/
theorem Link.matched_both_iff {width trues falses : Nat} (isWidth : width = max trues falses) :
    Link.Matched width trues ∧ Link.Matched width falses ↔
      1 ≤ width ∧ (trues = 1 ∨ trues = width) ∧ (falses = 1 ∨ falses = width) := by
  unfold Link.Matched
  omega

namespace Program

section Both

variable {o : Options} {s between after : Session} (wf : s.scene.WellFormed) {node : String}
  {op : Operation} {branches : Branches} {n : Node} {a b : Attribute}
  (forks : s.scene.Forks node op branches n a b) {width : Nat} {trues falses : List Channel}
include wf forks

/-- Branches that a test can hold are bound by two wirings. -/
theorem exec_bindBranches (holds : width ≤ maxChannels) {ifTrue ifFalse : Operand}
    (takenTrue : s.scene.unravel ifTrue = .ok trues)
    (takenFalse : s.scene.unravel ifFalse = .ok falses) (r : Reference) :
    exec (bindBranches o node branches width ifTrue ifFalse) s = (.ok r, after) ↔
      r = .node node (.many (branches.channels.take width)) ∧ ∃ between,
        exec (wireFirst o node a width trues) s = (.ok (), between) ∧
        exec (wireFirst o node b width falses) between = (.ok (), after) := by
  have first := exec_setOrConnect_children wf forks.ifTrue o width takenTrue
  have second {between : Session}
      (doneTrue : exec (wireFirst o node a width trues) s = (.ok (), between)) :
      exec (setOrConnect o (.node node (.many (b.childNames.take width))) ifFalse) between =
        exec (wireFirst o node b width falses) between := by
    have nodes := (binds_of_wire wf forks.ifTrue doneTrue).nodes
    exact exec_setOrConnect_children (wellFormed_wire _ _ wf doneTrue)
      (forks.of_nodes nodes).ifFalse o width
      ((Scene.unravel_of_nodes nodes ifFalse).trans takenFalse)
  rw [bindBranches, forks.channels, if_neg (Nat.not_lt.mpr holds), forks.ifTrue_eq,
    forks.ifFalse_eq]
  constructor
  · intro done
    obtain ⟨_, between, doneTrue, rest⟩ := exec_bind_ok done
    rw [first] at doneTrue
    obtain ⟨_, _, doneFalse, ended⟩ := exec_bind_ok rest
    rw [second doneTrue] at doneFalse
    cases ended
    exact ⟨rfl, between, doneTrue, doneFalse⟩
  · rintro ⟨rfl, between, doneTrue, doneFalse⟩
    rw [exec_bind, first, doneTrue]
    dsimp only
    rw [exec_bind, second doneTrue, doneFalse]
    rfl

omit wf in
/-- Branches that are wider than a test are refused before anything is wired. -/
theorem bindBranches_wide (exceeds : maxChannels < width) (ifTrue ifFalse : Operand) :
    exec (bindBranches o node branches width ifTrue ifFalse) s =
      (.error (.branchWidth node maxChannels width), s) := by
  rw [bindBranches, forks.channels, if_pos exceeds]
  rfl

theorem wires_of_bindBranches {ifTrue ifFalse : Operand}
    (takenTrue : s.scene.unravel ifTrue = .ok trues)
    (takenFalse : s.scene.unravel ifFalse = .ok falses) {r : Reference}
    (done : exec (bindBranches o node branches width ifTrue ifFalse) s = (.ok r, after)) :
    width ≤ maxChannels ∧ r = .node node (.many (branches.channels.take width)) ∧ ∃ between,
      exec (wireFirst o node a width trues) s = (.ok (), between) ∧
      exec (wireFirst o node b width falses) between = (.ok (), after) := by
  have holds : width ≤ maxChannels := by
    refine Nat.not_lt.mp fun exceeds => ?_
    rw [bindBranches_wide forks exceeds] at done
    cases done
  exact ⟨holds, (exec_bindBranches wf forks holds takenTrue takenFalse r).mp done⟩

variable (unwiredTrue : s.scene.Unwired node n.layout (a.long, none))
  (offersTrue : ∀ channel ∈ trues, s.scene.Offers node channel)
include unwiredTrue offersTrue

/-- Wiring the one branch drives its slots, and stays away from the compound of the other. -/
theorem supplied_ifTrue
    (doneTrue : exec (wireFirst o node a width trues) s = (.ok (), between)) :
    (∃ drivers, List.Forall₂ s.scene.Carries trues drivers ∧
      between.scene.Supplied node (a.childNames.take width) drivers) ∧
    (s.scene.Unwired node n.layout (b.long, none) →
      between.scene.Unwired node n.layout (b.long, none)) := by
  have sound := wf.layouts n (Scene.mem_of_node? forks.ifTrue.found).1
  obtain ⟨drivers, carry⟩ := Scene.exists_carry fun channel inside =>
    (offersTrue channel inside).wirable
  obtain ⟨only, supplied⟩ :=
    wire_supplied wf forks.ifTrue.found (forks.ifTrue.grouped wf width) unwiredTrue carry doneTrue
  have other : (b.long, none) ∉ [(a.long, (none : Option Nat))] := fun among =>
    forks.different (Prod.mk.inj (List.mem_singleton.mp among)).1.symm
  exact ⟨⟨drivers, carry, supplied⟩, only.unwired sound other⟩

variable (unwiredFalse : s.scene.Unwired node n.layout (b.long, none))
  (offersFalse : ∀ channel ∈ falses, s.scene.Offers node channel)
include unwiredFalse offersFalse

theorem bindsBranches_of_wires
    (doneTrue : exec (wireFirst o node a width trues) s = (.ok (), between))
    (doneFalse : exec (wireFirst o node b width falses) between = (.ok (), after)) :
    s.scene.BindsBranches node op branches width trues falses after.scene := by
  have bindsTrue := binds_of_wire wf forks.ifTrue doneTrue
  have wfBetween := wellFormed_wire _ _ wf doneTrue
  have forksBetween := forks.of_nodes bindsTrue.nodes
  have bindsFalse := binds_of_wire wfBetween forksBetween.ifFalse doneFalse
  obtain ⟨⟨driversTrue, carryTrue, suppliedTrue⟩, keepsFalse⟩ :=
    supplied_ifTrue wf forks unwiredTrue offersTrue doneTrue
  obtain ⟨driversFalse, carryFalse⟩ := Scene.exists_carry fun channel inside =>
    (offersFalse channel inside).wirable
  -- What the second branch carries, it carries after the first wiring too.
  have grows : Scene.Grows s.scene between.scene := .of_nodes bindsTrue.nodes
  obtain ⟨onlyFalse, suppliedFalse⟩ := wire_supplied wfBetween forksBetween.ifFalse.found
    (forksBetween.ifFalse.grouped wfBetween width) (keepsFalse unwiredFalse)
    (carryFalse.imp fun _ _ carries => grows.carries carries) doneFalse
  have otherTrue : (a.long, none) ∉ [(b.long, (none : Option Nat))] := fun among =>
    forks.different (Prod.mk.inj (List.mem_singleton.mp among)).1
  refine ⟨⟨driversTrue, carryTrue, ?_⟩, ⟨driversFalse, carryFalse, ?_⟩,
    bindsFalse.nodes.trans bindsTrue.nodes, bindsFalse.containers.trans bindsTrue.containers,
    ?_, ?_, ?_, ?_⟩
  · rw [forks.ifTrue_eq]
    intro j slot atSlot
    obtain ⟨driver, share, drives⟩ := suppliedTrue j slot atSlot
    exact ⟨driver, share, onlyFalse.driver? wfBetween forksBetween.ifFalse.found
      (forks.ifTrue.grouped wf width) otherTrue (List.mem_of_getElem? atSlot) drives⟩
  · rw [forks.ifFalse_eq]
    exact suppliedFalse
  · intro slot own
    exact (bindsTrue.sameAt_own forks.branchTrue own).trans
      (bindsFalse.sameAt_own forks.branchFalse own)
  all_goals
    rw [Branches.bound, forks.ifTrue_eq, forks.ifFalse_eq]
    simp only [List.forall_mem_append]
  · rintro plug ⟨missedTrue, missedFalse⟩
    exact (bindsFalse.values plug missedFalse).trans (bindsTrue.values plug missedTrue)
  · rintro plug ⟨missedTrue, missedFalse⟩ parents
    rw [forks.channels] at parents
    refine (bindsFalse.connections plug missedFalse fun filled => ?_).trans
      (bindsTrue.connections plug missedTrue fun filled => ?_)
    · obtain ⟨slot, inside, parent⟩ := forks.ifFalse.exists_parent? wf filled
      exact (parents (forks.branchFalse.width ▸ filled)).2 slot inside _ parent
    · obtain ⟨slot, inside, parent⟩ := forks.ifTrue.exists_parent? wf filled
      exact (parents (forks.branchTrue.width ▸ filled)).1 slot inside _ parent
  · rintro plug narrow ⟨missedTrue, missedFalse⟩
    have there := Scene.place?_of_nodes bindsTrue.nodes plug
    refine (bindsFalse.driver? wfBetween forksBetween.ifFalse ?_ ?_).trans
      (bindsTrue.driver? wf forks.ifTrue narrow missedTrue)
    · rw [Scene.width?, there]
      exact narrow
    · intro slot inside
      rw [Scene.canonical?, there]
      exact missedFalse slot inside

/-- Both branches can be wired, if the numbers allow it. -/
theorem exists_wires (calm : s.host.fault = none) (holds : width ≤ maxChannels)
    (short : width ≤ o.ceiling) (matchedTrue : Link.Matched width trues.length)
    (matchedFalse : Link.Matched width falses.length) :
    ∃ between after,
      exec (wireFirst o node a width trues) s = (.ok (), between) ∧
      exec (wireFirst o node b width falses) between = (.ok (), after) := by
  have lengthTrue : (a.childNames.take width).length = width := by
    rw [List.length_take, forks.branchTrue.width, Nat.min_eq_left holds]
  have lengthFalse : (b.childNames.take width).length = width := by
    rw [List.length_take, forks.branchFalse.width, Nat.min_eq_left holds]
  have shortSources {count : Nat} (matched : Link.Matched width count) : count ≤ o.ceiling := by
    unfold Link.Matched at matched
    omega
  obtain ⟨between, doneTrue, calmBetween⟩ := exec_wire_group wf forks.ifTrue.found
    (forks.ifTrue.grouped wf width) (fun _ inside => forks.ifTrue.present wf inside) calm
    unwiredTrue offersTrue (lengthTrue.symm ▸ short) (shortSources matchedTrue)
    (lengthTrue.symm ▸ matchedTrue)
  have keepsFalse := (supplied_ifTrue wf forks unwiredTrue offersTrue doneTrue).2
  have wfBetween := wellFormed_wire _ _ wf doneTrue
  have nodes := (binds_of_wire wf forks.ifTrue doneTrue).nodes
  have held := (forks.of_nodes nodes).ifFalse
  obtain ⟨after, doneFalse, _⟩ := exec_wire_group wfBetween held.found
    (held.grouped wfBetween width) (fun _ inside => held.present wfBetween inside) calmBetween
    (keepsFalse unwiredFalse)
    (fun channel inside => (offersFalse channel inside).of_nodes nodes)
    (lengthFalse.symm ▸ short) (shortSources matchedFalse) (lengthFalse.symm ▸ matchedFalse)
  exact ⟨between, after, doneTrue, doneFalse⟩

/-- Binding both branches succeeds exactly if the numbers allow it. -/
theorem bindBranches_accepts (calm : s.host.fault = none) (valid : o.flaw? = none)
    {ifTrue ifFalse : Operand} (takenTrue : s.scene.unravel ifTrue = .ok trues)
    (takenFalse : s.scene.unravel ifFalse = .ok falses)
    (isWidth : width = max trues.length falses.length) :
    (∃ r, (exec (bindBranches o node branches width ifTrue ifFalse) s).1 = .ok r) ↔
      1 ≤ width ∧ width ≤ o.ceiling ∧ (trues.length = 1 ∨ trues.length = width) ∧
        (falses.length = 1 ∨ falses.length = width) := by
  constructor
  · rintro ⟨r, done⟩
    obtain ⟨holds, _, between, doneTrue, doneFalse⟩ :=
      wires_of_bindBranches wf forks takenTrue takenFalse (Prod.ext done rfl)
    obtain ⟨short, _, matchedTrue⟩ := matched_of_wire doneTrue
    obtain ⟨_, _, matchedFalse⟩ := matched_of_wire doneFalse
    rw [List.length_map, List.length_take, forks.branchTrue.width, Nat.min_eq_left holds]
      at short matchedTrue
    rw [List.length_map, List.length_take, forks.branchFalse.width, Nat.min_eq_left holds]
      at matchedFalse
    have counts := (Link.matched_both_iff isWidth).mp ⟨matchedTrue, matchedFalse⟩
    exact ⟨counts.1, short, counts.2⟩
  · rintro ⟨filled, short, counts⟩
    obtain ⟨matchedTrue, matchedFalse⟩ := (Link.matched_both_iff isWidth).mpr ⟨filled, counts⟩
    have holds : width ≤ maxChannels := by
      rw [Options.flaw?] at valid
      split at valid
      · cases valid
      · omega
    obtain ⟨between, after, doneTrue, doneFalse⟩ := exists_wires wf forks unwiredTrue offersTrue
      unwiredFalse offersFalse calm holds short matchedTrue matchedFalse
    exact ⟨_, congrArg Prod.fst ((exec_bindBranches wf forks holds takenTrue takenFalse _).mpr
      ⟨rfl, between, doneTrue, doneFalse⟩)⟩

end Both

/-! ### Conditions -/

theorem exec_condition (o : Options) {test : Reference} {ifTrue ifFalse : Operand} {s : Session}
    {node : String} {op : Operation} {branches : Branches} {trues falses : List Channel}
    (tests : s.scene.Tests test node op branches)
    (takenTrue : s.scene.unravel ifTrue = .ok trues)
    (takenFalse : s.scene.unravel ifFalse = .ok falses) :
    exec (condition o test ifTrue ifFalse) s =
      exec (bindBranches o node branches (max trues.length falses.length) ifTrue ifFalse) s := by
  rw [condition, exec_bind, exec_look, Scene.test_of_tests tests]
  dsimp only
  rw [unravel, unravel, exec_bind, exec_look, takenTrue]
  dsimp only
  rw [exec_bind, exec_look, takenFalse]

/-- A test binds both of its branches. A condition fails for want of a test exactly if its reference
is a literal, or names no node, or one of another type, and then nothing has happened. Otherwise the
lists of slots are as long as the list of output channels, so that no more is taken from them than
they hold: wider branches are refused, and nothing has happened. Where nothing is connected into the
branches of the test and their compounds, and the branches can be wired to it, the condition holds
exactly if the wider branch has at least one channel and not more than the ceiling, and each branch
has one channel or as many as the wider. Then the result is the first output channels, as many as
the wider branch has channels, each slot of a branch up to there is driven by its share of the
branch, and nothing else differs. -/
theorem condition_binds_branches (o : Options) (s : Session) (reachable : s.scene.Reachable)
    (test : Reference) (ifTrue ifFalse : Operand) :
    ((∃ e, (exec (condition o test ifTrue ifFalse) s).1 = .error e ∧ e.kind = .notBranchTest) ↔
      s.scene.NotTest test) ∧
    (s.scene.NotTest test → (exec (condition o test ifTrue ifFalse) s).2 = s) ∧
    (s.scene.NotTest test ∨ ∃ node op branches, s.scene.Tests test node op branches) ∧
    ∀ node op branches, s.scene.Tests test node op branches →
      branches.slots = [branches.ifTrue, branches.ifFalse] ∧
      branches.ifTrue.length = branches.channels.length ∧
      branches.ifFalse.length = branches.channels.length ∧
      ∀ trues falses width, s.scene.unravel ifTrue = .ok trues →
        s.scene.unravel ifFalse = .ok falses → width = max trues.length falses.length →
        (branches.channels.length < width → exec (condition o test ifTrue ifFalse) s =
          (.error (.branchWidth node branches.channels.length width), s)) ∧
        ((∀ slot ∈ branches.ifTrue ++ branches.ifFalse,
            s.scene.Undriven (.plug (Plug.join node slot))) →
          (∀ channel ∈ trues ++ falses, s.scene.Offers node channel) →
          (s.host.fault = none → o.flaw? = none →
            ((∃ r, (exec (condition o test ifTrue ifFalse) s).1 = .ok r) ↔
              1 ≤ width ∧ width ≤ o.ceiling ∧ (trues.length = 1 ∨ trues.length = width) ∧
                (falses.length = 1 ∨ falses.length = width))) ∧
          ∀ r after, exec (condition o test ifTrue ifFalse) s = (.ok r, after) →
            r = .node node (.many (branches.channels.take width)) ∧
            width ≤ branches.channels.length ∧
            s.scene.BindsBranches node op branches width trues falses after.scene) := by
  have wf := reachable.wellFormed
  obtain ⟨refused, unchanged⟩ := condition_refused o test ifTrue ifFalse s
  refine ⟨refused, unchanged, ?_, ?_⟩
  · rcases s.scene.test_cases test with ⟨_, tests⟩ | ⟨notTest, _⟩
    · exact Or.inr tests
    · exact Or.inl notTest
  intro node op branches tests
  obtain ⟨n, a, b, forks⟩ := tests.forks reachable.typed
  rw [forks.ifTrue_eq, forks.ifFalse_eq, forks.channels]
  refine ⟨forks.slots, forks.branchTrue.width, forks.branchFalse.width, ?_⟩
  intro trues falses width takenTrue takenFalse isWidth
  have run := exec_condition o tests takenTrue takenFalse
  rw [← isWidth] at run
  rw [run]
  refine ⟨fun exceeds => bindBranches_wide forks exceeds ifTrue ifFalse, fun undriven offers => ?_⟩
  rw [List.forall_mem_append] at undriven offers
  have unwiredTrue := forks.ifTrue.unwired wf undriven.1
  have unwiredFalse := forks.ifFalse.unwired wf undriven.2
  refine ⟨fun calm valid => ?_, fun r after done => ?_⟩
  · exact bindBranches_accepts wf forks unwiredTrue offers.1 unwiredFalse offers.2 calm valid
      takenTrue takenFalse isWidth
  · obtain ⟨holds, isResult, between, doneTrue, doneFalse⟩ :=
      wires_of_bindBranches wf forks takenTrue takenFalse done
    exact ⟨isResult, holds, bindsBranches_of_wires wf forks unwiredTrue offers.1 unwiredFalse
      offers.2 doneTrue doneFalse⟩

/-- The translation of a transform if a test holds, and the number one if not. -/
theorem condition_binds_branches_translation :
    ∃ s : Session, s = Session.start (.ofScene (Scene.empty.run
        [.addTransform "pCube1", .create "condition" "condition1"]) "") ∧
      ∃ op branches, s.scene.Tests (.node "condition1" .bare) "condition1" op branches ∧
      ∃ after,
        exec (condition .default (.node "condition1" .bare) (.path "pCube1.t") (.number 1)) s =
          (.ok (.node "condition1" (.many ["outColorR", "outColorG", "outColorB"])), after) ∧
        s.scene.BindsBranches "condition1" op branches 3
          [.plug "pCube1.translateX", .plug "pCube1.translateY", .plug "pCube1.translateZ"]
          [.ofNumber 1] after.scene := by
  have reachable : (Scene.empty.run
      [.addTransform "pCube1", .create "condition" "condition1"]).Reachable := ⟨_, rfl⟩
  have tests : (Scene.empty.run [.addTransform "pCube1", .create "condition" "condition1"]).Tests
      (.node "condition1" .bare) "condition1" (Operation.test "eq" 0)
      ⟨[Operation.rgb "colorIfTrue", Operation.rgb "colorIfFalse"], Operation.rgb "outColor"⟩ :=
    ⟨rfl, ⟨"eq", by decide +kernel⟩, rfl, by decide +kernel⟩
  have unconnected : (Scene.empty.run
      [.addTransform "pCube1", .create "condition" "condition1"]).connections = Table.empty := by
    decide +kernel
  have taken : (Scene.empty.run [.addTransform "pCube1", .create "condition" "condition1"]).unravel
      (.path "pCube1.t") = .ok
        [.plug "pCube1.translateX", .plug "pCube1.translateY", .plug "pCube1.translateZ"] := by
    decide +kernel
  have offers : ∀ channel ∈ [Channel.plug "pCube1.translateX", .plug "pCube1.translateY",
      .plug "pCube1.translateZ"] ++ [.ofNumber 1],
      (Scene.empty.run [.addTransform "pCube1", .create "condition" "condition1"]).Offers
        "condition1" channel := by
    decide +kernel
  have outputs : (Operation.rgb "outColor").take 3 = ["outColorR", "outColorG", "outColorB"] := by
    decide +kernel
  have valid : Options.default.flaw? = none := by decide +kernel
  obtain ⟨s, isStart, scene, calm⟩ : ∃ s : Session, s = Session.start (.ofScene (Scene.empty.run
      [.addTransform "pCube1", .create "condition" "condition1"]) "") ∧
      s.scene = Scene.empty.run [.addTransform "pCube1", .create "condition" "condition1"] ∧
      s.host.fault = none := ⟨_, rfl, rfl, rfl⟩
  rw [← scene] at reachable tests unconnected taken offers
  obtain ⟨_, _, _, binds⟩ := condition_binds_branches .default s reachable
    (.node "condition1" .bare) (.path "pCube1.t") (.number 1)
  obtain ⟨_, _, _, bound⟩ := binds _ _ _ tests
  have undriven (slot : String) : s.scene.Undriven (.plug (Plug.join "condition1" slot)) := by
    intro text node place _ _
    rw [unconnected]
    exact ⟨rfl, fun _ _ _ => rfl⟩
  obtain ⟨accepted, results⟩ :=
    (bound _ [.ofNumber 1] 3 taken rfl rfl).2 (fun slot _ => undriven slot) offers
  obtain ⟨r, done⟩ := (accepted calm valid).mpr ⟨by decide, by decide, Or.inr rfl, Or.inl rfl⟩
  cases run : exec (condition .default (.node "condition1" .bare) (.path "pCube1.t") (.number 1))
      s with
  | mk answer after =>
    rw [run] at done
    subst done
    obtain ⟨rfl, _, bindsBoth⟩ := results r after run
    rw [outputs] at run
    exact ⟨s, isStart, _, _, tests, after, run, bindsBoth⟩

end Program

end FormulaNet
