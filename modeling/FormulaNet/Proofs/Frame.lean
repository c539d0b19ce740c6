/-
This file proves what applying an operation leaves alone. The name of a new node
is not in use, and every target that is wired afterwards stands on that node,
also where a wiring collapses into a compound. Numbers and connections on other
nodes are therefore never touched, and since no stored plug stands on a node
that is not there, nothing that was stored before is. Errors of the kinds that
do not depend on wiring arise before the first call, so that they leave the
whole session as it was.
-/

import FormulaNet.Proofs.Actions
import FormulaNet.Proofs.Reachable

namespace FormulaNet

/-! ### Programs change the scene by changes only -/

/-- The scene of a session has gone through a run of changes. -/
def Session.Evolves (s after : Session) : Prop := ∃ changes, after.scene = s.scene.run changes

namespace Session

theorem evolves_of_scene {s after : Session} (same : after.scene = s.scene) : Evolves s after :=
  ⟨[], same⟩

theorem evolves_of_apply {s after : Session} (change : Scene.Change)
    (done : change.apply s.scene = .ok after.scene) : Evolves s after :=
  ⟨[change], (Scene.after_eq_of_ok done).symm⟩

theorem lasting_evolves : Program.Lasting Evolves where
  refl _ := evolves_of_scene rfl
  trans := by
    rintro s t u ⟨first, middle⟩ ⟨second, last⟩
    refine ⟨first ++ second, ?_⟩
    rw [last, middle, Scene.run, Scene.run, Scene.run, List.foldl_append]

theorem Evolves.wellFormed {s after : Session} (evolves : Evolves s after)
    (wf : s.scene.WellFormed) : after.scene.WellFormed := by
  obtain ⟨changes, reached⟩ := evolves
  rw [reached]
  exact wf.run changes

theorem Evolves.reachable {s after : Session} (evolves : Evolves s after)
    (reachable : s.scene.Reachable) : after.scene.Reachable := by
  obtain ⟨later, reached⟩ := evolves
  obtain ⟨changes, built⟩ := reachable
  refine ⟨changes ++ later, ?_⟩
  rw [reached, built, Scene.run, Scene.run, Scene.run, List.foldl_append]

end Session

namespace Program

/-- A call that asks for a change of the scene. -/
theorem evolves_call {α : Type} (c : Call) (report : α → Outcome)
    {edit : Scene → Except SceneError (α × Scene)} (change : Scene.Change)
    (same : ∀ scene, change.apply scene = (edit scene).map (·.2)) :
    Respects Session.Evolves (call c report edit) := by
  intro s
  rcases exec_call_cases c report edit s with
    ⟨e, fault, message, run⟩ | ⟨a, scene, fault, done, run⟩
  · rw [run]
    exact Session.evolves_of_scene rfl
  · rw [run]
    refine Session.evolves_of_apply change ?_
    rw [same, done]
    rfl

theorem evolves_change (c : Call) {edit : Scene → Except SceneError Scene} (change : Scene.Change)
    (same : ∀ scene, change.apply scene = edit scene) :
    Respects Session.Evolves (Program.change c edit) := by
  refine evolves_call c _ change fun scene => ?_
  rw [same]
  cases edit scene <;> rfl

theorem evolves_change_record (c : Call) (event : Trace.Event)
    {edit : Scene → Except SceneError Scene} (change : Scene.Change)
    (same : ∀ scene, change.apply scene = edit scene) :
    Respects Session.Evolves (do Program.change c edit; record event) :=
  Session.lasting_evolves.bind (evolves_change c change same) fun _ _ =>
    Session.evolves_of_scene rfl

/-- Whatever an action does to the scene, it does by changes. -/
theorem covers_evolves (force : Bool) : Covers force (fun _ => True) Session.Evolves where
  toLasting := Session.lasting_evolves
  create type name _ s := by
    rcases exec_create_cases type name s with
      ⟨e, fault, message, run⟩ | ⟨node, scene, fault, done, run⟩
    · rw [run]
      exact Session.evolves_of_scene rfl
    · rw [run]
      refine Session.evolves_of_apply (.create type (s.host.namePrefix ++ name)) ?_
      show (s.scene.create type (s.host.namePrefix ++ name)).map (·.2) = .ok scene
      rw [done]
      rfl
  setPlug plug value _ _ :=
    evolves_change_record _ _ (.set plug value) fun _ => rfl
  connect source dest :=
    evolves_change_record _ _ (.connect source dest force) fun _ => rfl
  addAttribute node name spec :=
    evolves_change_record _ _ (.addAttribute node name spec.default) fun _ => rfl
  readPlug plug s := by
    rcases exec_readPlug_cases plug s with
      ⟨e, run⟩ | ⟨e, fault, message, run⟩ | ⟨payload, fault, _, run⟩
    · rw [run]
      exact Session.evolves_of_scene rfl
    · rw [run]
      exact Session.evolves_of_scene rfl
    · rw [run]
      exact Session.evolves_of_scene rfl
  warn _ _ := Session.evolves_of_scene rfl

theorem evolves_build (o : Options) (op : Operation) (operands : List Operand)
    (channels : List (List Channel)) :
    Respects Session.Evolves (build o op operands channels) :=
  (covers_evolves o.force).build (fun _ _ => trivial) fun _ _ _ _ _ => trivial

end Program

/-! ### Writing on one node -/

namespace Scene

/-- Nothing but numbers and connections on one node differ. -/
structure OnlyOn (node : String) (before after : Scene) : Prop where
  nodes : after.nodes = before.nodes
  containers : after.containers = before.containers
  values : ∀ plug, (∀ path, plug ≠ Plug.join node path) →
    after.values.find? plug = before.values.find? plug
  connections : ∀ plug, (∀ path, plug ≠ Plug.join node path) →
    after.connections.find? plug = before.connections.find? plug

/-- What is written with the name of a node is split at that name. -/
theorem owner_of_split?_join {node attr owner path : String} (free : '.' ∉ node.toList)
    (split : Plug.split? (Plug.join node attr) = some (owner, path)) : owner = node := by
  obtain ⟨_, _, freeOwner, joined⟩ := (Plug.split?_eq_some_iff _ _ _).mp split
  exact (Plug.join_inj freeOwner free joined).1

/-- A plug that is written with the name of a node stands on that node. -/
theorem owner_of_place?_join {s : Scene} {node attr owner : String} {place : Place}
    (free : '.' ∉ node.toList) (there : s.place? (Plug.join node attr) = some (owner, place)) :
    owner = node := by
  obtain ⟨path, n, split, _⟩ := (s.place?_eq_some_iff _ _ _).mp there
  exact owner_of_split?_join free split

theorem onlyOn_set {s after : Scene} {node attr : String} {value : Float}
    (free : '.' ∉ node.toList) (done : s.set (Plug.join node attr) value = .ok after) :
    OnlyOn node s after := by
  obtain ⟨owner, place, there, _, rfl⟩ := set_eq_ok done
  obtain rfl := owner_of_place?_join free there
  refine ⟨rfl, rfl, ?_, fun _ _ => rfl⟩
  intro plug elsewhere
  exact Table.find?_insert_other _ (elsewhere place.path) _

theorem onlyOn_connect {s after : Scene} {node attr source : String} {force : Bool}
    (free : '.' ∉ node.toList) (done : s.connect source (Plug.join node attr) force = .ok after) :
    OnlyOn node s after := by
  obtain ⟨_, _, owner, place, _, there, _, _, _, rfl⟩ := connect_eq_ok done
  obtain rfl := owner_of_place?_join free there
  refine ⟨rfl, rfl, fun _ _ => rfl, ?_⟩
  intro plug elsewhere
  exact Table.find?_insert_other _ (elsewhere place.path) _

/-- A channel on a node is the child of a compound on that node. -/
theorem strand?_node {s : Scene} {node attr : String} {strand : Strand}
    (free : '.' ∉ node.toList) (known : s.strand? (.plug (Plug.join node attr)) = some strand) :
    strand.node = node := by
  simp only [strand?, Channel.plug?, Option.bind_eq_bind, Option.bind_some,
    Option.bind_eq_some_iff, Option.pure_def, Option.some.injEq] at known
  obtain ⟨⟨owner, path⟩, split, parent, _, long, _, rfl⟩ := known
  exact owner_of_split?_join free split

/-- Where all targets stand on one node, so do the targets of the links. -/
theorem plan_target {s : Scene} {ceiling : Nat} {node : String} {slots : List String}
    {sources : List Channel} {links : List Link} (free : '.' ∉ node.toList)
    (planned : s.plan ceiling (slots.map fun slot => .plug (Plug.join node slot)) sources =
      .ok links) {link : Link} (member : link ∈ links) :
    ∃ attr, link.target = .plug (Plug.join node attr) := by
  obtain ⟨pairs, paired, rfl⟩ := plan_eq_ok planned
  have given {target : Channel} (inside : target ∈ pairs.map (·.target)) :
      ∃ attr, target = .plug (Plug.join node attr) := by
    obtain ⟨pair, among, rfl⟩ := List.mem_map.mp inside
    obtain ⟨slot, _, equal⟩ := List.mem_map.mp (Link.mem_pair? paired among).1
    exact ⟨slot, equal.symm⟩
  rcases mem_collapseLinks member with old | ⟨target, source, rfl, collapsed, _⟩
  · exact given (List.mem_map_of_mem old)
  · obtain ⟨first, rest, related, _, _, rfl⟩ := collapse?_eq_some collapsed
    obtain ⟨channel, others, known, _, targets⟩ := List.forall₂_cons_right_iff.mp related
    obtain ⟨attr, rfl⟩ := given (targets ▸ List.mem_cons_self)
    rw [strand?_node free known]
    exact ⟨first.parent, rfl⟩

end Scene

/-- The scene of a session differs on one node only. -/
def Session.OnlyOn (node : String) (s after : Session) : Prop :=
  Scene.OnlyOn node s.scene after.scene

namespace Program

theorem lasting_onlyOn (node : String) : Lasting (Session.OnlyOn node) where
  refl _ := ⟨rfl, rfl, fun _ _ => rfl, fun _ _ => rfl⟩
  trans first second :=
    ⟨second.nodes.trans first.nodes, second.containers.trans first.containers,
      fun plug elsewhere => (second.values plug elsewhere).trans (first.values plug elsewhere),
      fun plug elsewhere =>
        (second.connections plug elsewhere).trans (first.connections plug elsewhere)⟩

/-- Wiring slots of a node writes on that node. -/
theorem onlyOn_wire (o : Options) {node : String} (free : '.' ∉ node.toList) (slots : List String)
    (sources : List Channel) :
    Respects (Session.OnlyOn node)
      (wire o (slots.map fun slot => .plug (Plug.join node slot)) sources) := by
  have lasting := lasting_onlyOn node
  refine lasting.wire fun scene links planned link member => ?_
  obtain ⟨attr, aimed⟩ := Scene.plan_target free planned member
  refine lasting.wireLink ?_ ?_
  · rintro target value expression rfl s
    cases aimed
    rcases exec_setPlug_cases (Plug.join node attr) value (Channel.literal value expression).text s
      with ⟨e, fault, message, run⟩ | ⟨changed, fault, done, run⟩
    · rw [run]
      exact lasting.refl s
    · rw [run]
      exact Scene.onlyOn_set free done
  · rintro target source rfl s
    cases aimed
    rcases exec_connect_cases source (Plug.join node attr) o.force s with
      ⟨e, fault, message, run⟩ | ⟨changed, fault, done, run⟩
    · rw [run]
      exact lasting.refl s
    · rw [run]
      exact Scene.onlyOn_connect free done

theorem onlyOn_fill (o : Options) (op : Operation) {node : String} (free : '.' ∉ node.toList)
    (operands : List Operand) (channels : List (List Channel)) :
    Respects (Session.OnlyOn node) (fill o op node operands channels) :=
  (lasting_onlyOn node).fill fun slots sources _ => onlyOn_wire o free slots sources

end Program

/-! ### Early errors -/

/-- The kinds of errors that applying an operation meets before it calls the host. -/
def Error.Kind.isEarly : Error.Kind → Bool
  | unknownOperation => true
  | arityMismatch => true
  | unrecognizedOperand => true
  | _ => false

namespace Program

/-- An error that is not early. -/
def Late (e : Error) : Prop := e.kind.isEarly = false

theorem late_setPlug (plug : String) (value : Float) (text : String) :
    FailsOnly Late (setPlug plug value text) := by
  intro s e after run
  rcases exec_setPlug_cases plug value text s with ⟨_, _, _, failed⟩ | ⟨_, _, _, done⟩
  · rw [failed] at run
    cases run
    rfl
  · rw [done] at run
    cases run

theorem late_connect (source dest : String) (force : Bool) :
    FailsOnly Late (connect source dest force) := by
  intro s e after run
  rcases exec_connect_cases source dest force s with ⟨_, _, _, failed⟩ | ⟨_, _, _, done⟩
  · rw [failed] at run
    cases run
    rfl
  · rw [done] at run
    cases run

theorem late_create (type name : String) : FailsOnly Late (create type name) := by
  intro s e after run
  rcases exec_create_cases type name s with ⟨_, _, _, failed⟩ | ⟨_, _, _, _, done⟩
  · rw [failed] at run
    cases run
    rfl
  · rw [done] at run
    cases run

theorem late_wireLink (force : Bool) (link : Link) : FailsOnly Late (wireLink force link) := by
  refine FailsOnly.bind FailsOnly.scene fun scene => ?_
  split
  · exact FailsOnly.throw rfl
  · split
    · exact late_setPlug _ _ _
    · exact FailsOnly.throw rfl
  · split
    · split
      · exact late_connect _ _ _
      · exact FailsOnly.throw rfl
    · exact FailsOnly.throw rfl

theorem late_wireLinks (force : Bool) (links : List Link) :
    FailsOnly Late (wireLinks force links) := by
  induction links with
  | nil => exact FailsOnly.pure ()
  | cons link rest inductionHypothesis =>
    exact FailsOnly.bind (late_wireLink force link) fun _ => inductionHypothesis

theorem late_wire (o : Options) (targets sources : List Channel) :
    FailsOnly Late (wire o targets sources) := by
  refine FailsOnly.bind (FailsOnly.look fun s e refused => ?_) fun links => late_wireLinks _ links
  rw [Scene.plan] at refused
  split at refused
  · cases refused
    rfl
  · split at refused
    · cases refused
      rfl
    · cases refused

theorem late_slotsFor {op : Operation} {width : Nat} {operand : Operand} {channels : List Channel}
    {group : List String} {e : Error} (refused : op.slotsFor width operand channels group = .error e) :
    Late e := by
  unfold Operation.slotsFor at refused
  split at refused
  · split at refused
    · cases refused
      rfl
    · cases refused
  · split at refused
    · cases refused
      rfl
    · cases refused

theorem late_feedAll (o : Options) (op : Operation) (node : String) (width : Nat)
    (all : List Feed) : FailsOnly Late (feedAll o op node width all) := by
  induction all with
  | nil => exact FailsOnly.pure ()
  | cons f rest inductionHypothesis =>
    refine FailsOnly.bind ?_ fun _ => inductionHypothesis
    rw [feed]
    split
    · rename_i refused
      exact FailsOnly.throw (late_slotsFor refused)
    · exact late_wire _ _ _

/-- Building a node fails late. -/
theorem late_build (o : Options) (op : Operation) (operands : List Operand)
    (channels : List (List Channel)) : FailsOnly Late (build o op operands channels) := by
  rw [build_eq]
  refine FailsOnly.bind (late_create _ _) fun node => ?_
  refine FailsOnly.bind (FailsOnly.bind ?_ fun _ => late_feedAll _ _ _ _ _) fun _ =>
    FailsOnly.pure _
  cases op.mode with
  | none => exact FailsOnly.pure ()
  | some mode => exact late_wire _ _ _

end Program

/-! ### The frame -/

namespace Scene

/-- A scene with some nodes more, and numbers and connections on these nodes, in which everything
else is as it was. -/
structure Framed (before after : Scene) (added : List Node) : Prop where
  nodes : after.nodes = before.nodes ++ added
  fresh : ∀ n ∈ added, n.name ∉ before.nodeNames
  containers : after.containers = before.containers
  keptValues : ∀ entry ∈ before.values.entries, entry ∈ after.values.entries
  keptConnections : ∀ entry ∈ before.connections.entries, entry ∈ after.connections.entries
  newValues : ∀ entry ∈ after.values.entries,
    entry ∈ before.values.entries ∨ ∃ n ∈ added, onNode n.name entry.1 = true
  newConnections : ∀ entry ∈ after.connections.entries,
    entry ∈ before.connections.entries ∨ ∃ n ∈ added, onNode n.name entry.1 = true

theorem framed_refl (s : Scene) : Framed s s [] where
  nodes := (List.append_nil _).symm
  fresh := by simp
  containers := rfl
  keptValues _ := id
  keptConnections _ := id
  newValues _ := Or.inl
  newConnections _ := Or.inl

/-- A plug with a canonical spelling stands on an existing node. -/
theorem split?_of_canonical? {s : Scene} {plug canonical : String}
    (known : s.canonical? plug = some canonical) :
    ∃ node attr, Plug.split? plug = some (node, attr) ∧ node ∈ s.nodeNames := by
  obtain ⟨⟨node, place⟩, there, _⟩ := Option.map_eq_some_iff.mp known
  obtain ⟨attr, n, split, found, _⟩ := (s.place?_eq_some_iff _ _ _).mp there
  exact ⟨node, attr, split, (s.node?_isSome_iff node).mp (by rw [found]; rfl)⟩

theorem ne_join_of_canonical? {s : Scene} {node plug canonical : String} (free : '.' ∉ node.toList)
    (fresh : node ∉ s.nodeNames) (known : s.canonical? plug = some canonical) (path : String) :
    plug ≠ Plug.join node path := by
  rintro rfl
  obtain ⟨owner, attr, split, member⟩ := split?_of_canonical? known
  rw [owner_of_split?_join free split] at member
  exact fresh member

theorem onNode_iff (node plug : String) :
    onNode node plug = true ↔ ∃ attr, Plug.split? plug = some (node, attr) := by
  unfold onNode
  cases split : Plug.split? plug with
  | none => simp
  | some pair => simp [Prod.ext_iff]

theorem onNode_of_canonical? {s : Scene} {node plug canonical : String} (free : '.' ∉ node.toList)
    (there : ∃ path, plug = Plug.join node path) (known : s.canonical? plug = some canonical) :
    onNode node plug = true := by
  obtain ⟨path, rfl⟩ := there
  obtain ⟨owner, attr, split, _⟩ := split?_of_canonical? known
  rw [onNode, split, owner_of_split?_join free split]
  exact beq_self_eq_true node

/-- Writing on a new node only leaves everything else as it was. -/
theorem OnlyOn.framed {before after : Scene} {n : Node} (wf : before.WellFormed)
    (wfAfter : after.WellFormed) (fresh : n.name ∉ before.nodeNames)
    (free : '.' ∉ n.name.toList) (only : OnlyOn n.name (before.withNode n) after) :
    Framed before after [n] where
  nodes := only.nodes
  fresh := by simpa using fresh
  containers := only.containers
  keptValues entry member := by
    have elsewhere := ne_join_of_canonical? free fresh (wf.valued entry member).1
    have same := only.values entry.1 elsewhere
    exact (wfAfter.ordered.values.mem_entries_congr wf.ordered.values same).mpr member
  keptConnections entry member := by
    have elsewhere := ne_join_of_canonical? free fresh (wf.linked entry member).1
    have same := only.connections entry.1 elsewhere
    exact (wfAfter.ordered.connections.mem_entries_congr wf.ordered.connections same).mpr member
  newValues entry member := by
    by_cases there : ∃ path, entry.1 = Plug.join n.name path
    · exact Or.inr ⟨n, List.mem_singleton_self n,
        onNode_of_canonical? free there (wfAfter.valued entry member).1⟩
    · have same := only.values entry.1 fun path equal => there ⟨path, equal⟩
      exact Or.inl ((wfAfter.ordered.values.mem_entries_congr wf.ordered.values same).mp member)
  newConnections entry member := by
    by_cases there : ∃ path, entry.1 = Plug.join n.name path
    · exact Or.inr ⟨n, List.mem_singleton_self n,
        onNode_of_canonical? free there (wfAfter.linked entry member).1⟩
    · have same := only.connections entry.1 fun path equal => there ⟨path, equal⟩
      exact Or.inl
        ((wfAfter.ordered.connections.mem_entries_congr wf.ordered.connections same).mp member)

/-- What creating a node and then writing on it only leaves alone. -/
theorem framed_of_create {before created after : Scene} {type name node : String}
    (wf : before.WellFormed) (wfAfter : after.WellFormed)
    (made : before.create type name = .ok (node, created)) (only : OnlyOn node created after) :
    ∃ layout, Framed before after [⟨node, type, layout⟩] := by
  obtain ⟨fresh, _, free⟩ := create_name made
  obtain ⟨layout, _, rfl⟩ := create_withNode made
  exact ⟨layout, only.framed wf wfAfter fresh free⟩

end Scene

namespace Program

theorem framed_build (o : Options) (op : Operation) (operands : List Operand)
    (channels : List (List Channel)) {s : Session} (wf : s.scene.WellFormed) :
    ∃ added, added.length ≤ 1 ∧
      s.scene.Framed (exec (build o op operands channels) s).2.scene added := by
  have wfAfter := (evolves_build o op operands channels s).wellFormed wf
  rw [build_eq] at wfAfter ⊢
  rw [exec_bind] at wfAfter ⊢
  rcases exec_create_cases op.nodeType (op.nodeName o operands) s with
    ⟨e, fault, message, run⟩ | ⟨node, created, fault, made, run⟩
  · rw [run]
    exact ⟨[], Nat.zero_le 1, s.scene.framed_refl⟩
  · rw [run] at wfAfter ⊢
    have free := (Scene.create_name made).2.2
    have lasting := lasting_onlyOn node
    have filling := lasting.bind (onlyOn_fill o op free operands channels)
      (fun _ => lasting.pure (Reference.node node (op.resultAttrs (widest channels))))
      (((s.answered (.create op.nodeType (op.nodeName o operands)) (.made node) created
        fault).collected node).recorded (.create node op.nodeType))
    obtain ⟨layout, framed⟩ := Scene.framed_of_create wf wfAfter made filling
    exact ⟨[⟨node, op.nodeType, layout⟩], Nat.le_refl 1, framed⟩

/-- Errors before the node is built leave the session as it was. -/
theorem apply_of_early (o : Options) (name : String) (operands : List Operand) {s after : Session}
    {e : Error} (run : exec (apply o name operands) s = (.error e, after))
    (early : e.kind.isEarly = true) : after = s := by
  rw [apply] at run
  split at run
  · exact (Prod.mk.inj run).2.symm
  · split at run
    · rw [exec_bind, exec_look] at run
      split at run
      · rename_i channels between looked
        have late := late_build _ _ _ _ _ _ _ run
        rw [Late, early] at late
        cases late
      · rename_i looked
        rw [← (Prod.mk.inj run).2]
        exact (Prod.mk.inj looked).2.symm
    · exact (Prod.mk.inj run).2.symm

/-- Whether an operation is applied or fails, at most one node comes in, under a new name, and
whatever was in the scene stays; new numbers and connections are on that node. A name without an
operation, a wrong number of operands and an operand that is no plug change nothing at all. -/
theorem apply_framed (o : Options) (name : String) (operands : List Operand) (s : Session)
    (reachable : s.scene.Reachable) :
    (∃ added, added.length ≤ 1 ∧
      s.scene.Framed (exec (apply o name operands) s).2.scene added) ∧
    ∀ e after, exec (apply o name operands) s = (.error e, after) → e.kind.isEarly = true →
      after = s := by
  refine ⟨?_, fun e after run early => apply_of_early o name operands run early⟩
  have nothing : ∃ added, added.length ≤ 1 ∧ s.scene.Framed s.scene added :=
    ⟨[], Nat.zero_le 1, s.scene.framed_refl⟩
  rw [apply]
  split
  · exact nothing
  · rename_i op known
    split
    · rw [exec_bind, exec_look]
      cases s.scene.unravelEach operands with
      | ok channels => exact framed_build o op operands channels reachable.wellFormed
      | error e => exact nothing
    · exact nothing

/-- The frame of a product in a scene with a transform. -/
theorem apply_framed_transform :
    ∃ s : Session, s.scene.Reachable ∧ s.scene.nodeNames = ["pCube1"] ∧
      (∃ added, added.length ≤ 1 ∧ s.scene.Framed
        (exec (apply .default "mul" [.path "pCube1.t", .number 2]) s).2.scene added) ∧
      ∀ e after, exec (apply .default "mul" [.path "pCube1.t", .number 2]) s =
        (.error e, after) → e.kind.isEarly = true → after = s :=
  ⟨Session.start (Host.ofScene (Scene.empty.run [.addTransform "pCube1"]) ""), ⟨_, rfl⟩,
    by decide +kernel, apply_framed _ _ _ _ ⟨_, rfl⟩⟩

end Program

end FormulaNet
