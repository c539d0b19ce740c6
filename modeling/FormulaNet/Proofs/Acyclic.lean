/-
This file orders the nodes of compiled formulas. Applying an operation connects
into its own node only, and that node is the last of the scene; what it connects
are plugs on nodes that its operands refer to, which were there before. Every
connection therefore leads from an earlier node to a later one, and no path of
connections comes back to where it started. It does not matter where an
application stops: what it has connected by then leads forward as well.
-/

import Mathlib.Logic.Relation
import FormulaNet.Proofs.Frame
import FormulaNet.Proofs.Links

namespace FormulaNet

/-! ### The nodes that operands refer to -/

namespace Operand

mutual

/-- Whether every node that an operand refers to is there. Paths are looked up in any case. -/
def isGrounded (s : Scene) : Operand → Bool
  | number _ => true
  | value _ => true
  | path _ => true
  | node name _ => s.hasNode name
  | literal payload => payload.isGrounded s
  | list items => areGrounded s items

/-- Whether every node that some operands refer to is there. -/
def areGrounded (s : Scene) : List Operand → Bool
  | [] => true
  | item :: rest => item.isGrounded s && areGrounded s rest

end

end Operand

/-- A channel that is a plug on one of the given nodes, unless it is a number or no plug path. -/
def Channel.StandsOn (nodes : List String) (channel : Channel) : Prop :=
  ∀ text, channel = .plug text → ∀ node attr, Plug.split? text = some (node, attr) → node ∈ nodes

namespace Scene

theorem plugChannels_standsOn (s : Scene) {nodes : List String} {plug : String}
    (on : ∀ node attr, Plug.split? plug = some (node, attr) → node ∈ nodes) :
    ∀ channel ∈ s.plugChannels plug, channel.StandsOn nodes := by
  have itself : ∀ channel ∈ [Channel.plug plug], channel.StandsOn nodes := by
    rintro channel member text rfl
    cases List.mem_singleton.mp member
    exact on
  rw [plugChannels]
  split
  · rename_i node attr split
    split
    · intro channel member text isPlug owner path splitChild
      obtain ⟨child, _, rfl⟩ := List.mem_map.mp member
      cases isPlug
      obtain ⟨_, _, free, _⟩ := (Plug.split?_eq_some_iff _ _ _).mp split
      rw [owner_of_split?_join free splitChild]
      exact on node attr split
    · exact itself
  · exact itself

variable {s : Scene}

theorem WellFormed.attrsChannels_standsOn (wf : s.WellFormed) {name : String}
    (there : name ∈ s.nodeNames) (attrs : Attrs) {channels : List Channel}
    (taken : s.attrsChannels name attrs = .ok channels) :
    ∀ channel ∈ channels, channel.StandsOn s.nodeNames := by
  obtain ⟨n, member, named⟩ := List.mem_map.mp there
  have free : '.' ∉ name.toList := named ▸ (wf.named n member).2
  have joined (attr : String) : ∀ node path, Plug.split? (Plug.join name attr) = some (node, path) →
      node ∈ s.nodeNames := by
    intro node path split
    rw [owner_of_split?_join free split]
    exact there
  rw [attrsChannels] at taken
  split at taken
  · rename_i plugs listed
    cases taken
    intro channel inside
    obtain ⟨plug, among, inPlug⟩ := List.mem_flatMap.mp inside
    obtain ⟨attr, rfl⟩ : ∃ attr, plug = Plug.join name attr := by
      cases attrs with
      | bare => cases listed
      | one attr =>
        cases listed
        exact ⟨attr, List.mem_singleton.mp among⟩
      | many names =>
        cases listed
        obtain ⟨attr, _, equal⟩ := List.mem_map.mp among
        exact ⟨attr, equal.symm⟩
    exact s.plugChannels_standsOn (joined attr) channel inPlug
  · cases taken

mutual

/-- The channels of an operand stand on nodes that are there. -/
theorem WellFormed.unravel_standsOn (wf : s.WellFormed) (operand : Operand)
    (grounded : operand.isGrounded s = true) {channels : List Channel}
    (taken : s.unravel operand = .ok channels) :
    ∀ channel ∈ channels, channel.StandsOn s.nodeNames := by
  have literal (v : Float) (expression : Option String) :
      (Channel.literal v expression).StandsOn s.nodeNames := by
    intro text isPlug
    cases isPlug
  cases operand with
  | number v =>
    cases taken
    exact fun channel member => List.mem_singleton.mp member ▸ literal v none
  | value v =>
    cases taken
    intro channel member
    rw [Value.channels] at member
    split at member
    · exact List.mem_singleton.mp member ▸ literal _ _
    · obtain ⟨x, _, rfl⟩ := List.mem_map.mp member
      exact literal x none
  | path plug =>
    rw [unravel] at taken
    split at taken
    · rename_i known
      cases taken
      refine s.plugChannels_standsOn fun node attr split => ?_
      rcases (s.has_iff plug).mp known.2 with there | ⟨unsplit, _⟩
      · obtain ⟨⟨owner, place⟩, found⟩ := Option.isSome_iff_exists.mp there
        obtain ⟨_, n, splitAgain, foundNode, _⟩ := (s.place?_eq_some_iff _ _ _).mp found
        cases split.symm.trans splitAgain
        exact (s.node?_isSome_iff node).mp (Option.isSome_of_eq_some foundNode)
      · cases split.symm.trans unsplit
    · cases taken
  | node name attrs =>
    exact wf.attrsChannels_standsOn ((s.hasNode_iff name).mp grounded) attrs taken
  | literal payload => exact wf.unravel_standsOn payload grounded taken
  | list items => exact wf.unravelAll_standsOn items grounded taken

theorem WellFormed.unravelAll_standsOn (wf : s.WellFormed) (items : List Operand)
    (grounded : Operand.areGrounded s items = true) {channels : List Channel}
    (taken : s.unravelAll items = .ok channels) :
    ∀ channel ∈ channels, channel.StandsOn s.nodeNames := by
  cases items with
  | nil =>
    cases taken
    simp
  | cons item rest =>
    rw [Operand.areGrounded, Bool.and_eq_true] at grounded
    obtain ⟨first, others, takenFirst, takenRest, rfl⟩ := unravelAll_cons_eq_ok taken
    exact List.forall_mem_append.mpr
      ⟨wf.unravel_standsOn item grounded.1 takenFirst,
        wf.unravelAll_standsOn rest grounded.2 takenRest⟩

end

theorem WellFormed.unravelEach_standsOn (wf : s.WellFormed) {operands : List Operand}
    (grounded : Operand.areGrounded s operands = true) {channels : List (List Channel)}
    (taken : s.unravelEach operands = .ok channels) :
    ∀ cs ∈ channels, ∀ channel ∈ cs, channel.StandsOn s.nodeNames := by
  have each := unravelEach_eq_ok taken
  clear taken
  induction each with
  | nil => simp
  | @cons operand _ _ _ takenFirst _ inductionHypothesis =>
    rw [Operand.areGrounded, Bool.and_eq_true] at grounded
    exact List.forall_mem_cons.mpr ⟨wf.unravel_standsOn operand grounded.1 takenFirst,
      inductionHypothesis grounded.2⟩

end Scene

/-! ### Where connections come from -/

/-- The sources of the links of a plan stand where the given sources do. -/
theorem Scene.plan_source {s : Scene} {ceiling : Nat} {nodes : List String}
    {targets sources : List Channel} {links : List Link}
    (standing : ∀ channel ∈ sources, channel.StandsOn nodes)
    (planned : s.plan ceiling targets sources = .ok links) {link : Link} (member : link ∈ links) :
    link.source.StandsOn nodes := by
  obtain ⟨pairs, paired, rfl⟩ := plan_eq_ok planned
  rcases mem_collapseLinks member with old | ⟨target, source, rfl, _, collapsed⟩
  · exact standing _ (Link.mem_pair? paired old).2
  · -- The compound stands on the node of its first child, which is a given source.
    obtain ⟨first, rest, related, _, _, rfl⟩ := collapse?_eq_some collapsed
    obtain ⟨channel, others, known, _, channels⟩ := List.forall₂_cons_right_iff.mp related
    obtain ⟨pair, among, isChannel⟩ :=
      List.mem_map.mp (channels ▸ List.mem_cons_self : channel ∈ pairs.map (·.source))
    obtain ⟨text, _, _, rfl, there, _⟩ := strand?_eq_some known
    obtain ⟨attr, _, split, _⟩ := (s.place?_eq_some_iff _ _ _).mp there
    obtain ⟨_, _, free, _⟩ := (Plug.split?_eq_some_iff _ _ _).mp split
    intro compound isCompound node path splitCompound
    cases isCompound
    rw [owner_of_split?_join free splitCompound]
    exact standing _ (Link.mem_pair? paired among).2 text isChannel _ _ split

/-- New connections come from plugs on the given nodes. -/
def Session.DrawsOn (nodes : List String) (s after : Session) : Prop :=
  ∀ entry ∈ after.scene.connections.entries, entry ∈ s.scene.connections.entries ∨
    ∃ node ∈ nodes, ∃ path, entry.2 = Plug.join node path

theorem Session.drawsOn_of_connections {nodes : List String} {s after : Session}
    (same : after.scene.connections = s.scene.connections) : DrawsOn nodes s after :=
  fun _ member => Or.inl (same ▸ member)

namespace Program

variable (nodes : List String)

theorem lasting_drawsOn : Lasting (Session.DrawsOn nodes) where
  refl _ _ := Or.inl
  trans first second entry member := by
    rcases second entry member with earlier | drawn
    · exact first entry earlier
    · exact Or.inr drawn

theorem drawsOn_create (type name : String) :
    Respects (Session.DrawsOn nodes) (create type name) := by
  intro s
  rcases exec_create_cases type name s with
    ⟨e, fault, message, run⟩ | ⟨node, scene, fault, made, run⟩
  · rw [run]
    exact (lasting_drawsOn nodes).refl s
  · obtain ⟨layout, _, rfl⟩ := Scene.create_withNode made
    rw [run]
    exact Session.drawsOn_of_connections rfl

theorem drawsOn_setPlug (plug : String) (value : Float) (text : String) :
    Respects (Session.DrawsOn nodes) (setPlug plug value text) := by
  intro s
  rcases exec_setPlug_cases plug value text s with
    ⟨e, fault, message, run⟩ | ⟨scene, fault, done, run⟩
  · rw [run]
    exact (lasting_drawsOn nodes).refl s
  · obtain ⟨_, _, _, _, rfl⟩ := Scene.set_eq_ok done
    rw [run]
    exact Session.drawsOn_of_connections rfl

variable {nodes}

theorem drawsOn_connect {source : String} (standing : (Channel.plug source).StandsOn nodes)
    (dest : String) (force : Bool) :
    Respects (Session.DrawsOn nodes) (connect source dest force) := by
  intro s
  rcases exec_connect_cases source dest force s with
    ⟨e, fault, message, run⟩ | ⟨scene, fault, done, run⟩
  · rw [run]
    exact (lasting_drawsOn nodes).refl s
  · obtain ⟨sourceNode, sourcePlace, _, _, there, _, _, _, _, rfl⟩ := Scene.connect_eq_ok done
    obtain ⟨attr, _, split, _⟩ := (s.scene.place?_eq_some_iff _ _ _).mp there
    rw [run]
    intro entry member
    rcases Table.mem_of_mem_insert member with rfl | old
    · exact Or.inr ⟨sourceNode, standing source rfl _ _ split, sourcePlace.path, rfl⟩
    · exact Or.inl old

theorem drawsOn_wire (o : Options) (targets : List Channel) {sources : List Channel}
    (standing : ∀ channel ∈ sources, channel.StandsOn nodes) :
    Respects (Session.DrawsOn nodes) (wire o targets sources) := by
  have lasting := lasting_drawsOn nodes
  refine lasting.wire fun scene links planned link member => lasting.wireLink ?_ ?_
  · intro target value expression _
    exact drawsOn_setPlug nodes target value link.source.text
  · rintro target source rfl
    exact drawsOn_connect (Scene.plan_source standing planned member) target o.force

theorem drawsOn_build (o : Options) (op : Operation) (operands : List Operand)
    {channels : List (List Channel)}
    (standing : ∀ cs ∈ channels, ∀ channel ∈ cs, channel.StandsOn nodes) :
    Respects (Session.DrawsOn nodes) (build o op operands channels) := by
  have lasting := lasting_drawsOn nodes
  refine lasting.build (drawsOn_create nodes _ _) fun node => lasting.fill ?_
  rintro slots sources (⟨mode, _, rfl⟩ | given)
  · refine drawsOn_wire o _ fun channel member => ?_
    rintro text rfl
    cases List.mem_singleton.mp member
  · exact drawsOn_wire o _ (standing sources given)

end Program

/-! ### The order of creation -/

namespace Scene

/-- The first node was created before the second. -/
def Precedes (s : Scene) (first second : String) : Prop :=
  ∃ i j : Nat, i < j ∧ s.nodeNames[i]? = some first ∧ s.nodeNames[j]? = some second

/-- A plug on the second node is connected to a plug on the first. -/
def Drives (s : Scene) (first second : String) : Prop :=
  ∃ entry ∈ s.connections.entries, onNode first entry.2 = true ∧ onNode second entry.1 = true

/-- Every connection leads from a plug on one node to a plug on a node that was created later. -/
def LeadsForward (s : Scene) : Prop :=
  ∀ entry ∈ s.connections.entries, ∃ first second,
    onNode first entry.2 = true ∧ onNode second entry.1 = true ∧ s.Precedes first second

theorem eq_of_onNode {node other plug : String} (on : onNode node plug = true)
    (onOther : onNode other plug = true) : node = other := by
  obtain ⟨_, split⟩ := (onNode_iff node plug).mp on
  obtain ⟨_, splitOther⟩ := (onNode_iff other plug).mp onOther
  cases split.symm.trans splitOther
  rfl

theorem Precedes.append {s after : Scene} {added : List Node} {first second : String}
    (precedes : s.Precedes first second) (nodes : after.nodes = s.nodes ++ added) :
    after.Precedes first second := by
  obtain ⟨i, j, less, foundFirst, foundSecond⟩ := precedes
  have names : after.nodeNames = s.nodeNames ++ added.map (·.name) := by
    rw [nodeNames, nodes, List.map_append, nodeNames]
  have kept {k : Nat} {node : String} (found : s.nodeNames[k]? = some node) :
      after.nodeNames[k]? = some node := by
    rw [names, List.getElem?_append_left (List.getElem?_eq_some_iff.mp found).1, found]
  exact ⟨i, j, less, kept foundFirst, kept foundSecond⟩

/-- All nodes precede a node that comes in after them. -/
theorem precedes_of_append {s after : Scene} {added : List Node} {node : String} {n : Node}
    (there : node ∈ s.nodeNames) (nodes : after.nodes = s.nodes ++ added) (new : n ∈ added) :
    after.Precedes node n.name := by
  obtain ⟨i, bound, found⟩ := List.mem_iff_getElem.mp there
  obtain ⟨j, boundNew, foundNew⟩ := List.mem_iff_getElem.mp new
  have names : after.nodeNames = s.nodeNames ++ added.map (·.name) := by
    rw [nodeNames, nodes, List.map_append, nodeNames]
  refine ⟨i, s.nodeNames.length + j, by omega, ?_, ?_⟩
  · rw [names, List.getElem?_append_left bound, List.getElem?_eq_getElem bound, found]
  · rw [names, List.getElem?_append_right (by omega), Nat.add_sub_cancel_left, List.getElem?_map,
      List.getElem?_eq_getElem boundNew, foundNew]
    rfl

section

variable {s : Scene} (wf : s.WellFormed)
include wf

theorem WellFormed.precedes_trans {first second third : String} (before : s.Precedes first second)
    (after : s.Precedes second third) : s.Precedes first third := by
  obtain ⟨i, j, less, foundFirst, foundSecond⟩ := before
  obtain ⟨k, l, lessAfter, foundAgain, foundThird⟩ := after
  have same : j = k := (List.getElem?_inj (List.getElem?_eq_some_iff.mp foundSecond).1
    wf.distinct).mp (foundSecond.trans foundAgain.symm)
  exact ⟨i, l, by omega, foundFirst, foundThird⟩

theorem WellFormed.not_precedes_self (node : String) : ¬ s.Precedes node node := by
  rintro ⟨i, j, less, found, foundAgain⟩
  have same : i = j := (List.getElem?_inj (List.getElem?_eq_some_iff.mp found).1
    wf.distinct).mp (found.trans foundAgain.symm)
  omega

/-- Where every connection leads forward, so does every path of connections, and none returns. -/
theorem WellFormed.not_transGen_drives (forward : s.LeadsForward) (node : String) :
    ¬ Relation.TransGen s.Drives node node := by
  have step {first second : String} (drives : s.Drives first second) : s.Precedes first second := by
    obtain ⟨entry, member, onFirst, onSecond⟩ := drives
    obtain ⟨a, b, onA, onB, precedes⟩ := forward entry member
    rwa [eq_of_onNode onFirst onA, eq_of_onNode onSecond onB]
  have path {first second : String} (drives : Relation.TransGen s.Drives first second) :
      s.Precedes first second := by
    induction drives with
    | single last => exact step last
    | tail _ last inductionHypothesis => exact wf.precedes_trans inductionHypothesis (step last)
  exact fun cycle => wf.not_precedes_self node (path cycle)

end

/-- One step: what comes in with a new last node, from nodes that were there, leads forward. -/
theorem LeadsForward.framed {s after : Scene} {added : List Node} (forward : s.LeadsForward)
    (wf : s.WellFormed) (wfAfter : after.WellFormed) (framed : s.Framed after added)
    (drawn : ∀ entry ∈ after.connections.entries, entry ∈ s.connections.entries ∨
      ∃ node ∈ s.nodeNames, ∃ path, entry.2 = Plug.join node path) :
    after.LeadsForward := by
  intro entry member
  by_cases old : entry ∈ s.connections.entries
  · obtain ⟨first, second, onFirst, onSecond, precedes⟩ := forward entry old
    exact ⟨first, second, onFirst, onSecond, precedes.append framed.nodes⟩
  · obtain ⟨node, there, source⟩ := (drawn entry member).resolve_left old
    obtain ⟨n, new, onNew⟩ := (framed.newConnections entry member).resolve_left old
    obtain ⟨owner, known, named⟩ := List.mem_map.mp there
    have free : '.' ∉ node.toList := named ▸ (wf.named owner known).2
    exact ⟨node, n.name, onNode_of_canonical? free source (wfAfter.linked entry member).2.1, onNew,
      precedes_of_append there framed.nodes new⟩

end Scene

/-- Applying an operation to operands on existing nodes keeps the scene leading forward. -/
theorem Program.leadsForward_apply (o : Options) (name : String) {operands : List Operand}
    {s : Session} (wf : s.scene.WellFormed) (forward : s.scene.LeadsForward)
    (grounded : Operand.areGrounded s.scene operands = true) :
    (exec (apply o name operands) s).2.scene.LeadsForward := by
  rw [apply]
  split
  · exact forward
  · rename_i op known
    split
    · rw [exec_bind, exec_look]
      cases taken : s.scene.unravelEach operands with
      | ok channels =>
        have wfAfter := (evolves_build o op operands channels s).wellFormed wf
        have drawn := drawsOn_build o op operands (wf.unravelEach_standsOn grounded taken) s
        obtain ⟨added, _, framed⟩ := framed_build o op operands channels wf
        exact forward.framed wf wfAfter framed drawn
      | error e => exact forward
    · exact forward

/-! ### Runs of applications -/

/-- An operation to apply, with the fault that its calls meet. -/
structure Attempt where
  name : String
  operands : List Operand
  fault : Option Fault

namespace Session

/-- The session in which a fault, or none, is waiting. -/
def facing (s : Session) (fault : Option Fault) : Session :=
  { s with host := { s.host with fault } }

/-- The session after an attempt, whether it succeeded or failed midway. -/
def attempt (o : Options) (s : Session) (a : Attempt) : Session :=
  (Program.exec (Program.apply o a.name a.operands) (s.facing a.fault)).2

/-- Whether each attempt of a run refers to nodes that are there when its turn comes. -/
def isGrounded (o : Options) (s : Session) : List Attempt → Bool
  | [] => true
  | a :: rest => Operand.areGrounded s.scene a.operands && (s.attempt o a).isGrounded o rest

theorem wellFormed_attempt (o : Options) {s : Session} (wf : s.scene.WellFormed) (a : Attempt) :
    (s.attempt o a).scene.WellFormed :=
  ((Program.covers_evolves o.force).apply (fun _ _ _ _ => trivial) (fun _ _ => trivial)
    (s.facing a.fault)).wellFormed wf

theorem leadsForward_attempts (o : Options) {s : Session} (wf : s.scene.WellFormed)
    (forward : s.scene.LeadsForward) {attempts later : List Attempt}
    (grounded : s.isGrounded o (attempts ++ later) = true) :
    (attempts.foldl (attempt o) s).scene.WellFormed ∧
      (attempts.foldl (attempt o) s).scene.LeadsForward := by
  induction attempts generalizing s with
  | nil => exact ⟨wf, forward⟩
  | cons a rest inductionHypothesis =>
    rw [List.cons_append, isGrounded, Bool.and_eq_true] at grounded
    exact inductionHypothesis (wellFormed_attempt o wf a)
      (Program.leadsForward_apply o a.name (s := s.facing a.fault) wf forward grounded.1) grounded.2

/-- From a scene without connections, and as long as operands refer to nodes that are there, every
connection leads from an earlier node to a later one after each attempt of a run, failed ones
included; hence no node ever drives itself, directly or through others. -/
theorem attempts_acyclic (o : Options) (s : Session) (reachable : s.scene.Reachable)
    (unconnected : s.scene.connections = .empty) (attempts later : List Attempt)
    (grounded : s.isGrounded o (attempts ++ later) = true) :
    (attempts.foldl (attempt o) s).scene.LeadsForward ∧
      ∀ node, ¬ Relation.TransGen (attempts.foldl (attempt o) s).scene.Drives node node := by
  have start : s.scene.LeadsForward := by
    intro entry member
    rw [unconnected] at member
    cases member
  obtain ⟨wf, forward⟩ := leadsForward_attempts o reachable.wellFormed start grounded
  exact ⟨forward, wf.not_transGen_drives forward⟩

/-- A reversed vector is multiplied with the vector itself, up to a fault between the two
connections. -/
theorem attempts_acyclic_product :
    ∃ (s : Session) (attempts : List Attempt), s.scene.Reachable ∧
      s.scene.connections = .empty ∧ attempts.map (·.name) = ["reverse", "mul"] ∧
      s.isGrounded .default (attempts ++ []) = true ∧
      (attempts.foldl (attempt .default) s).scene.LeadsForward ∧
      ∀ node, ¬ Relation.TransGen (attempts.foldl (attempt .default) s).scene.Drives node node := by
  let s : Session := Session.start (Host.ofScene (Scene.empty.run [.addTransform "pCube1"]) "")
  let reversed : Operand := .node "nc_REVERSE_t_reverse" (.one "output")
  let attempts : List Attempt := [⟨"reverse", [.path "pCube1.t"], none⟩,
    ⟨"mul", [reversed, .path "pCube1.t"], some ⟨.connect, 1, "stopped"⟩⟩]
  have grounded : s.isGrounded .default (attempts ++ []) = true := by decide +kernel
  exact ⟨s, attempts, ⟨_, rfl⟩, rfl, rfl, grounded,
    attempts_acyclic .default s ⟨_, rfl⟩ rfl attempts [] grounded⟩

end Session

end FormulaNet
