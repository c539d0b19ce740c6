/-
This file follows what is connected into plugs. A plug keeps the connection that
was made into it last, under its own canonical spelling only: a compound and its
children are different plugs, and connecting into one level does not look at the
other. So an input is driven twice exactly if connections were made on both
levels. Applying an operation never does that, because each group of slots is
wired once, either slot by slot or as a whole; setting or connecting what is
there already can.
-/

import FormulaNet.Proofs.Formula
import FormulaNet.Proofs.Gathering
import FormulaNet.Proofs.Replay

namespace FormulaNet

/-! ### The last connection into a plug -/

/-- The ends of the connection that a call made, in their canonical spellings, destination first. -/
def JournalEntry.wiring? (s : Scene) : JournalEntry → Option (String × String)
  | ⟨.connect source dest _, .done⟩ =>
    (s.canonical? dest).bind fun into => (s.canonical? source).map fun origin => (into, origin)
  | _ => none

/-- The source of the last connection into a plug among the calls of a journal. -/
def Scene.lastInto (s : Scene) (entries : List JournalEntry) (plug : String) : Option String :=
  (entries.filterMap (JournalEntry.wiring? s)).reverse.lookup plug

theorem Scene.lastInto_append (s : Scene) (first second : List JournalEntry) (plug : String) :
    s.lastInto (first ++ second) plug = (s.lastInto second plug).or (s.lastInto first plug) := by
  rw [lastInto, List.filterMap_append, List.reverse_append, List.lookup_append]
  rfl

/-- What is connected into plugs is what the journal says was connected last, or else what was
connected before. -/
structure Session.Wires (s after : Session) : Prop where
  grows : s.scene.Grows after.scene
  wired : ∃ entries, after.host.journal = s.host.journal ++ entries ∧
    ∀ later, after.scene.Grows later → ∀ plug, after.scene.connections.find? plug =
      (later.lastInto entries plug).or (s.scene.connections.find? plug)

namespace Session

theorem wires_of_same {s after : Session} (journal : after.host.journal = s.host.journal)
    (scene : after.scene = s.scene) : Wires s after where
  grows := scene ▸ .refl _
  wired := ⟨[], by simp [journal], fun _ _ plug => by simp [scene, Scene.lastInto]⟩

theorem lasting_wires : Program.Lasting Wires where
  refl _ := wires_of_same rfl rfl
  trans := by
    rintro s t u ⟨grows, entries, journal, wired⟩ ⟨growsLater, more, journalLater, wiredLater⟩
    refine ⟨grows.trans growsLater, entries ++ more, ?_, ?_⟩
    · rw [journalLater, journal, List.append_assoc]
    · intro later growsOn plug
      rw [wiredLater later growsOn, wired later (growsLater.trans growsOn), Scene.lastInto_append,
        Option.or_assoc]

end Session

namespace Program

open Session

/-- A call that connects nothing. -/
theorem wires_call {α : Type} {c : Call} {report : α → Outcome}
    {change : Scene → Except SceneError (α × Scene)}
    (plain : ∀ scene outcome, JournalEntry.wiring? scene ⟨c, outcome⟩ = none)
    (kept : ∀ scene a changed, change scene = .ok (a, changed) →
      scene.Grows changed ∧ changed.connections = scene.connections) :
    Respects Wires (call c report change) := by
  have nothing (scene : Scene) (outcome : Outcome) (plug : String) :
      scene.lastInto [⟨c, outcome⟩] plug = none := by
    simp [Scene.lastInto, plain]
  intro s
  rcases exec_call_cases c report change s with
    ⟨e, fault, message, run⟩ | ⟨a, scene, fault, done, run⟩
  · rw [run]
    refine ⟨.refl _, [⟨c, .failed message⟩], rfl, fun later _ plug => ?_⟩
    rw [nothing, Option.none_or]
    rfl
  · obtain ⟨grows, connections⟩ := kept _ a scene done
    rw [run]
    refine ⟨grows, [⟨c, report a⟩], rfl, fun later _ plug => ?_⟩
    rw [nothing, Option.none_or]
    exact congrArg (·.find? plug) connections

theorem wires_change {c : Call} {edit : Scene → Except SceneError Scene}
    (plain : ∀ scene outcome, JournalEntry.wiring? scene ⟨c, outcome⟩ = none)
    (kept : ∀ scene changed, edit scene = .ok changed →
      scene.Grows changed ∧ changed.connections = scene.connections) :
    Respects Wires (change c edit) := by
  refine wires_call plain fun scene _ changed done => kept scene changed ?_
  cases edited : edit scene with
  | error e =>
    rw [edited] at done
    cases done
  | ok final =>
    rw [edited] at done
    cases done
    rfl

theorem wires_record (event : Trace.Event) : Respects Wires (record event) :=
  fun _ => wires_of_same rfl rfl

/-- A connection replaces what was connected into its destination. -/
theorem wires_connect (source dest : String) (force : Bool) :
    Respects Wires (connect source dest force) := by
  intro s
  rcases exec_connect_cases source dest force s with
    ⟨e, fault, message, run⟩ | ⟨scene, fault, done, run⟩
  · rw [run]
    exact ⟨.refl _, [⟨.connect source dest force, .failed message⟩], rfl, fun _ _ _ => rfl⟩
  · have unchanged : s.scene.Grows scene :=
      Scene.grows_apply (show (Scene.Change.connect source dest force).apply s.scene = _ from done)
    obtain ⟨sourceNode, sourcePlace, node, place, thereSource, there, _, _, _, rfl⟩ :=
      Scene.connect_eq_ok done
    rw [run]
    refine ⟨unchanged, [⟨.connect source dest force, .done⟩], rfl, fun later grows plug => ?_⟩
    -- Both ends keep their canonical spellings in every scene that grows from this one.
    have canonical {text owner : String} {where_ : Place}
        (found : s.scene.place? text = some (owner, where_)) :
        later.canonical? text = some (Plug.join owner where_.path) := by
      rw [Scene.canonical?, (unchanged.trans grows).places _ _ found]
      rfl
    have last : later.lastInto [⟨.connect source dest force, .done⟩] plug =
        if plug = Plug.join node place.path then some (Plug.join sourceNode sourcePlace.path)
        else none := by
      simp only [Scene.lastInto, List.filterMap_cons, JournalEntry.wiring?, canonical there,
        canonical thereSource, Option.bind_some, Option.map_some, List.filterMap_nil,
        List.reverse_singleton, List.lookup_cons, List.lookup_nil]
      by_cases same : plug = Plug.join node place.path
      · simp [same]
      · rw [beq_eq_false_iff_ne.mpr same, if_neg same]
    rw [last]
    show (s.scene.connections.insert _ _).find? plug = _
    by_cases same : plug = Plug.join node place.path
    · rw [same, Table.find?_insert_self, if_pos rfl, Option.some_or]
    · rw [Table.find?_insert_other _ same, if_neg same, Option.none_or]

theorem wires_create (type name : String) : Respects Wires (create type name) := by
  intro s
  rcases exec_create_cases type name s with
    ⟨e, fault, message, run⟩ | ⟨node, scene, fault, made, run⟩
  · rw [run]
    exact ⟨.refl _, [⟨.create type name, .failed message⟩], rfl, fun _ _ _ => rfl⟩
  · have grows := Scene.grows_create made
    obtain ⟨layout, _, rfl⟩ := Scene.create_withNode made
    rw [run]
    exact ⟨grows, [⟨.create type name, .made node⟩], rfl, fun _ _ _ => rfl⟩

/-- Whatever an action connects is in the journal. -/
theorem covers_wires (force : Bool) : Covers force (fun _ => True) Wires where
  toLasting := lasting_wires
  create type name _ := wires_create type name
  setPlug plug value expression _ := by
    refine lasting_wires.bind (wires_change (fun _ _ => rfl) fun scene changed done => ?_)
      fun _ => wires_record _
    obtain ⟨_, _, _, _, rfl⟩ := Scene.set_eq_ok done
    exact ⟨.of_nodes rfl, rfl⟩
  connect source dest := wires_connect source dest force
  addAttribute node name spec := by
    refine lasting_wires.bind (wires_change (fun _ _ => rfl) fun scene changed done => ?_)
      fun _ => wires_record _
    refine ⟨Scene.grows_addAttribute done, ?_⟩
    obtain ⟨_, _, _, _, _, rfl⟩ := Scene.addAttribute_eq_ok done
    rfl
  readPlug plug := by
    refine Respects.scene_bind fun s => ?_
    split
    · refine lasting_wires.bind (wires_call (fun _ _ => rfl) fun scene _ changed done => ?_)
        (fun _ => ?_) s
      · cases read : scene.read plug with
        | error e =>
          rw [read] at done
          cases done
        | ok payload =>
          rw [read] at done
          cases done
          exact ⟨.refl _, rfl⟩
      · refine lasting_wires.bind (fun _ => lasting_wires.refl _) fun _ => ?_
        exact lasting_wires.bind (wires_record _) fun _ => lasting_wires.pure _
    · exact lasting_wires.throw _ s
  warn _ _ := wires_of_same rfl rfl

end Program

/-! ### Two levels -/

namespace Scene

/-- Whether both a plug and the compound it belongs to are connected. -/
def drivenTwice (s : Scene) (plug : String) : Bool :=
  match s.place? plug with
  | some (node, place) =>
    match place.compound? with
    | some (parent, _) =>
      (s.connections.find? (Plug.join node place.path)).isSome &&
        (s.connections.find? (Plug.join node parent.path)).isSome
    | none => false
  | none => false

theorem drivenTwice_iff (s : Scene) (plug : String) :
    s.drivenTwice plug = true ↔ ∃ node place parent j, s.place? plug = some (node, place) ∧
      place.compound? = some (parent, j) ∧
      (s.connections.find? (Plug.join node place.path)).isSome = true ∧
      (s.connections.find? (Plug.join node parent.path)).isSome = true := by
  unfold drivenTwice
  cases there : s.place? plug with
  | none => simp
  | some found =>
    obtain ⟨node, place⟩ := found
    cases belongs : place.compound? with
    | none => simp [belongs]
    | some pair => simp [belongs, Prod.ext_iff]

/-- Of the places of a key on a node, those of one channel are unconnected, or those of several. -/
def OneLevel (s : Scene) (node : String) (layout : Layout) (key : String × Option Nat) : Prop :=
  ∃ wide : Bool, ∀ place : Place, place.On layout → place.key = key →
    place.parts?.isSome = wide → s.connections.find? (Plug.join node place.path) = none

theorem Unwired.oneLevel {s : Scene} {node : String} {layout : Layout} {key : String × Option Nat}
    (unwired : s.Unwired node layout key) : s.OneLevel node layout key :=
  ⟨true, fun place on keyed _ => unwired place on keyed⟩

/-- A place and its compound have one key and are on different levels. -/
theorem OneLevel.unconnected {s : Scene} {node : String} {layout : Layout} {place parent : Place}
    {j : Nat} (level : s.OneLevel node layout place.key) (on : place.On layout)
    (belongs : place.compound? = some (parent, j)) :
    s.connections.find? (Plug.join node place.path) = none ∨
      s.connections.find? (Plug.join node parent.path) = none := by
  obtain ⟨wide, free⟩ := level
  cases wide with
  | true =>
    right
    exact free parent (on.of_compound? belongs) (Place.key_of_compound? belongs)
      (Option.isSome_iff_ne_none.mpr (Place.parts?_of_compound? belongs))
  | false =>
    left
    refine free place on rfl ?_
    cases place with
    | whole a => cases belongs
    | element a index => cases belongs
    | child a c => rfl
    | elementChild a index c => rfl

/-- Nothing is connected but into the places of one key and level on a node. -/
structure ConnectsAt (node : String) (layout : Layout) (key : String × Option Nat) (wide : Bool)
    (s after : Scene) : Prop where
  nodes : after.nodes = s.nodes
  same : ∀ plug, (∀ place : Place, place.On layout → place.key = key →
    place.parts?.isSome = wide → plug ≠ Plug.join node place.path) →
    after.connections.find? plug = s.connections.find? plug

namespace ConnectsAt

variable {node : String} {layout : Layout} {key : String × Option Nat} {wide : Bool}
  {s between after : Scene}

theorem refl (s : Scene) : ConnectsAt node layout key wide s s := ⟨rfl, fun _ _ => rfl⟩

theorem trans (first : ConnectsAt node layout key wide s between)
    (second : ConnectsAt node layout key wide between after) :
    ConnectsAt node layout key wide s after where
  nodes := second.nodes.trans first.nodes
  same plug apart := (second.same plug apart).trans (first.same plug apart)

variable (connects : ConnectsAt node layout key wide s after) (sound : layout.Sound)
include connects sound

theorem sameAt {place : Place} (on : place.On layout)
    (other : place.key ≠ key ∨ place.parts?.isSome ≠ wide) :
    after.connections.find? (Plug.join node place.path) =
      s.connections.find? (Plug.join node place.path) := by
  refine connects.same _ fun changed onChanged keyed level equal => ?_
  obtain rfl := sound.path_injective on onChanged (Plug.join_injective node equal)
  exact other.elim (fun otherKey => otherKey keyed) fun otherLevel => otherLevel level

theorem unwired {other : String × Option Nat} (apart : other ≠ key)
    (unwired : s.Unwired node layout other) : after.Unwired node layout other := by
  intro place on keyed
  rw [connects.sameAt sound on (Or.inl (keyed ▸ apart))]
  exact unwired place on keyed

/-- Connecting under a key that was unconnected, on one level, leaves one level connected under each
key. -/
theorem oneLevel (unwired : s.Unwired node layout key)
    (levels : ∀ other, s.OneLevel node layout other) (other : String × Option Nat) :
    after.OneLevel node layout other := by
  by_cases same : other = key
  · subst same
    refine ⟨!wide, fun place on keyed level => ?_⟩
    rw [connects.sameAt sound on (Or.inr (by simp [level]))]
    exact unwired place on keyed
  · obtain ⟨level, free⟩ := levels other
    refine ⟨level, fun place on keyed atLevel => ?_⟩
    rw [connects.sameAt sound on (Or.inl (keyed ▸ same))]
    exact free place on keyed atLevel

end ConnectsAt

/-- The links that wire a group of slots end on one level of its key. -/
theorem WellFormed.plan_level {s : Scene} (wf : s.WellFormed) {node : String} {n : Node}
    (found : s.node? node = some n) {key : String × Option Nat} {slots : List String}
    (grouped : Grouped n.layout key slots) {ceiling : Nat} {sources : List Channel}
    {links : List Link}
    (planned : s.plan ceiling (slots.map fun slot => .plug (Plug.join node slot)) sources =
      .ok links) :
    ∃ wide : Bool, ∀ link ∈ links, ∀ target owner place, link.target = .plug target →
      s.place? target = some (owner, place) → owner = node ∧ place.On n.layout ∧
        place.key = key ∧ place.parts?.isSome = wide := by
  obtain ⟨pairs, paired, rfl⟩ := plan_eq_ok planned
  obtain ⟨aimed, _⟩ := Link.pair?_eq_some paired
  rw [collapseLinks]
  split
  · rename_i target source collapsed _
    obtain ⟨a, rfl, thereWhole, compound, inLayout, keyed, _⟩ :=
      wf.collapse?_slots found grouped aimed collapsed
    refine ⟨true, fun link member text owner place isPlug there => ?_⟩
    cases List.mem_singleton.mp member
    cases isPlug
    cases thereWhole.symm.trans there
    exact ⟨rfl, inLayout, keyed, by rw [Place.parts?, if_pos compound]; rfl⟩
  · refine ⟨false, fun link member text owner place isPlug there => ?_⟩
    have among : link.target ∈ pairs.map (·.target) := List.mem_map_of_mem member
    rw [aimed, isPlug] at among
    obtain ⟨slot, inside, equal⟩ := List.mem_map.mp among
    cases equal
    obtain ⟨rfl, located⟩ := wf.find?_of_place? found there
    obtain ⟨_, keyed, narrow⟩ := grouped.narrow slot inside place located
    exact ⟨rfl, Layout.on_of_find? located, keyed, by rw [narrow]; rfl⟩

end Scene

/-! ### Filling a node -/

namespace Program

variable {o : Options} {node : String} {n : Node}

/-- Wiring a group of slots connects on one level of its key, as far as it comes. -/
theorem wire_connectsAt {s : Session} (wf : s.scene.WellFormed)
    (found : s.scene.node? node = some n) {key : String × Option Nat} {slots : List String}
    (grouped : Scene.Grouped n.layout key slots) (sources : List Channel) :
    ∃ wide, Scene.ConnectsAt node n.layout key wide s.scene
      (exec (wire o (slots.map fun slot => .plug (Plug.join node slot)) sources) s).2.scene := by
  rw [wire, exec_bind, exec_look]
  cases planned :
      s.scene.plan o.ceiling (slots.map fun slot => .plug (Plug.join node slot)) sources with
  | error e => exact ⟨true, .refl _⟩
  | ok links =>
    obtain ⟨wide, level⟩ := wf.plan_level found grouped planned
    -- The nodes stay the same, so that targets are found where the plan has found them.
    have lasting : Lasting fun t after : Session => t.scene.nodes = s.scene.nodes →
        Scene.ConnectsAt node n.layout key wide t.scene after.scene := by
      refine ⟨fun _ _ => .refl _, fun first second nodes => ?_⟩
      exact (first nodes).trans (second ((first nodes).nodes.trans nodes))
    refine ⟨wide, lasting.wireLinks (fun link member => lasting.wireLink ?_ ?_) s rfl⟩
    · intro target value expression _ t _
      rcases exec_setPlug_cases target value link.source.text t with
        ⟨e, fault, message, run⟩ | ⟨scene, fault, done, run⟩
      · rw [run]
        exact .refl _
      · obtain ⟨_, _, _, _, rfl⟩ := Scene.set_eq_ok done
        rw [run]
        exact ⟨rfl, fun _ _ => rfl⟩
    · rintro target source rfl t nodes
      rcases exec_connect_cases source target o.force t with
        ⟨e, fault, message, run⟩ | ⟨scene, fault, done, run⟩
      · rw [run]
        exact .refl _
      · obtain ⟨_, _, owner, place, _, there, _, _, _, rfl⟩ := Scene.connect_eq_ok done
        obtain ⟨rfl, on, keyed, atLevel⟩ := level _ member target owner place rfl
          ((Scene.Grows.of_nodes nodes.symm).places _ _ there)
        rw [run]
        exact ⟨rfl, fun plug apart => Table.find?_insert_other _ (apart place on keyed atLevel) _⟩

/-- A program that connects into one node only, on one level of a key. -/
def Serves (node : String) (n : Node) (key : String × Option Nat) (program : Program Unit) :
    Prop :=
  ∀ s, s.scene.WellFormed → s.scene.node? node = some n →
    (exec program s).2.scene.WellFormed ∧
      ∃ wide, Scene.ConnectsAt node n.layout key wide s.scene (exec program s).2.scene

theorem serves_wire {key : String × Option Nat} {slots : List String}
    (grouped : Scene.Grouped n.layout key slots) (sources : List Channel) :
    Serves node n key (wire o (slots.map fun slot => .plug (Plug.join node slot)) sources) :=
  fun s wf found => ⟨((covers_evolves o.force).wire (fun _ _ _ => trivial) s).wellFormed wf,
    wire_connectsAt wf found grouped sources⟩

theorem serves_setMode (mode : Option Int)
    (grouped : Scene.Grouped n.layout modeKey ["operation"]) :
    Serves node n modeKey (setMode o node mode) := by
  cases mode with
  | none => exact fun s wf _ => ⟨wf, true, .refl _⟩
  | some number => exact serves_wire grouped _

theorem serves_feed {op : Operation} {width : Nat} {key : String × Option Nat} {f : Feed}
    (grouped : Scene.Grouped n.layout key f.group) :
    Serves node n key (feed o op node width f) := by
  rw [feed]
  split
  · exact fun s wf _ => ⟨wf, true, .refl _⟩
  · rename_i slots chosen
    exact serves_wire (grouped.sublist (Operation.slotsFor_eq_ok chosen).1) f.channels

end Program

/-- A node on which some keys are still unconnected, and no key is connected on two levels. -/
structure Scene.Awaits (s : Scene) (node : String) (n : Node) (keys : List (String × Option Nat)) :
    Prop where
  wellFormed : s.WellFormed
  found : s.node? node = some n
  unwired : ∀ key ∈ keys, s.Unwired node n.layout key
  levels : ∀ key, s.OneLevel node n.layout key

namespace Program

/-- What is connected under a key that was awaited leaves the other keys awaited. -/
theorem Serves.awaits {key : String × Option Nat} {keys : List (String × Option Nat)}
    {program : Program Unit} (serves : Serves node n key program) (apart : key ∉ keys) {s : Session}
    (awaits : s.scene.Awaits node n (key :: keys)) :
    (exec program s).2.scene.Awaits node n keys := by
  obtain ⟨unwired, unwiredOthers⟩ := List.forall_mem_cons.mp awaits.unwired
  obtain ⟨wf, wide, connects⟩ := serves s awaits.wellFormed awaits.found
  have sound := awaits.wellFormed.layouts n (Scene.mem_of_node? awaits.found).1
  refine ⟨wf, ?_, fun other member => ?_, connects.oneLevel sound unwired awaits.levels⟩
  · rw [Scene.node?, connects.nodes]
    exact awaits.found
  · refine connects.unwired sound ?_ (unwiredOthers other member)
    rintro rfl
    exact apart member

/-- One key after the other: if the first fails, the rest stay as they were. -/
theorem Serves.awaits_bind {key : String × Option Nat} {keys : List (String × Option Nat)}
    {program rest : Program Unit} (serves : Serves node n key program) (apart : key ∉ keys)
    (others : ∀ s : Session, s.scene.Awaits node n keys → (exec rest s).2.scene.Awaits node n [])
    {s : Session} (awaits : s.scene.Awaits node n (key :: keys)) :
    (exec (program >>= fun _ => rest) s).2.scene.Awaits node n [] := by
  have between := serves.awaits apart awaits
  rw [exec_bind]
  rcases run : exec program s with ⟨answer, t⟩
  rw [run] at between
  cases answer with
  | error e => exact ⟨between.wellFormed, between.found, nofun, between.levels⟩
  | ok _ => exact others t between

theorem awaits_feedAll {op : Operation} {width : Nat} {keys : List (String × Option Nat)}
    {all : List Feed}
    (grouped : List.Forall₂ (fun key f => Scene.Grouped n.layout key f.group) keys all)
    (distinct : keys.Nodup) {s : Session} (awaits : s.scene.Awaits node n keys) :
    (exec (feedAll o op node width all) s).2.scene.Awaits node n [] := by
  induction grouped generalizing s with
  | nil => exact awaits
  | cons groupedFirst _ inductionHypothesis =>
    rw [List.nodup_cons] at distinct
    exact (serves_feed groupedFirst).awaits_bind distinct.1
      (fun t => inductionHypothesis distinct.2) awaits

/-- Filling a node that nothing is connected into connects on one level of each key, as far as it
comes. -/
theorem awaits_fill {op : Operation} {operands : List Operand} {channels : List (List Channel)}
    (fits : op.Fits n.layout operands.length) (taken : channels.length = operands.length)
    {s : Session} (wf : s.scene.WellFormed) (found : s.scene.node? node = some n)
    (unwired : ∀ key, s.scene.Unwired node n.layout key) :
    (exec (fill o op node operands channels) s).2.scene.Awaits node n [] := by
  obtain ⟨keys, grouped, distinct⟩ := fits.groups
  rw [← map_group_feeds taken fits.length, List.forall₂_map_right_iff] at grouped
  rw [List.nodup_cons] at distinct
  exact (serves_setMode op.mode fits.mode).awaits_bind distinct.1
    (fun t => awaits_feedAll grouped distinct.2)
    ⟨wf, found, fun key _ => unwired key, fun key => (unwired key).oneLevel⟩

end Program

/-! ### Applying an operation -/

namespace Scene

/-- No input is driven twice. -/
def Single (s : Scene) : Prop := ∀ plug, s.drivenTwice plug = false

theorem single_of_unconnected {s : Scene} (unconnected : s.connections = .empty) : s.Single := by
  intro plug
  by_contra driven
  rw [Bool.not_eq_false, drivenTwice_iff] at driven
  obtain ⟨_, _, _, _, _, _, connected, _⟩ := driven
  rw [unconnected] at connected
  cases connected

/-- A connected place of a scene that has grown was there before, if its connection was. -/
theorem Grows.place?_of_linked {s after : Scene} (grows : Grows s after) (wf : s.WellFormed)
    (wfAfter : after.WellFormed) {plug node : String} {place : Place}
    (there : after.place? plug = some (node, place))
    (linked : (s.connections.find? (Plug.join node place.path)).isSome = true) :
    s.place? (Plug.join node place.path) = some (node, place) := by
  obtain ⟨source, connected⟩ := Option.isSome_iff_exists.mp linked
  obtain ⟨known, _⟩ := wf.linked _ (Table.mem_entries_of_find? connected)
  obtain ⟨found, before, _⟩ := Option.map_eq_some_iff.mp known
  have same := (grows.places _ _ before).symm.trans (wfAfter.place?_canonical there)
  rw [before, same]

/-- Where the nodes that were there keep what they have, and one new node is connected on one level
of each key, no input is driven twice if none was before. -/
theorem Single.keeps {s after : Scene} (single : s.Single) (wf : s.WellFormed)
    (keeps : Keeps s after) {node : String} {n : Node} (awaits : after.Awaits node n [])
    (only : ∀ other, other ∈ after.nodeNames → other ∈ s.nodeNames ∨ other = node) :
    after.Single := by
  intro plug
  by_contra driven
  rw [Bool.not_eq_false, drivenTwice_iff] at driven
  obtain ⟨owner, place, parent, j, there, belongs, connected, connectedParent⟩ := driven
  obtain ⟨attr, m, _, found, located⟩ := (after.place?_eq_some_iff _ _ _).mp there
  -- A node that was there has both connections from before; on the new one, one level is free.
  rcases only owner ((after.node?_isSome_iff owner).mp (Option.isSome_of_eq_some found)) with
    old | rfl
  · rw [(keeps.same owner old _).2] at connected connectedParent
    have before := keeps.grows.place?_of_linked wf awaits.wellFormed there connected
    have twice : s.drivenTwice (Plug.join owner place.path) = true :=
      (s.drivenTwice_iff _).mpr ⟨owner, place, parent, j, before, belongs, connected,
        connectedParent⟩
    rw [single] at twice
    cases twice
  · cases awaits.found.symm.trans found
    rcases (awaits.levels place.key).unconnected (Layout.on_of_find? located) belongs with
      free | free
    · rw [free] at connected
      cases connected
    · rw [free] at connectedParent
      cases connectedParent

end Scene

namespace Program

variable {o : Options}

/-- A node that was just created is filled without driving an input twice. -/
theorem single_fill {op : Operation} {operands : List Operand} {channels : List (List Channel)}
    {s created : Scene} {name node : String} (wf : s.WellFormed) (member : op ∈ Operation.builtin)
    (accepted : op.accepts operands.length = true) (taken : channels.length = operands.length)
    (single : s.Single) (made : s.create op.nodeType name = .ok (node, created)) {t : Session}
    (reached : t.scene = created) :
    (exec (fill o op node operands channels) t).2.scene.Single := by
  subst reached
  obtain ⟨fresh, _, free⟩ := Scene.create_name made
  obtain ⟨layout, typed, reached⟩ := Scene.create_withNode made
  have only := onlyOn_fill o op free operands channels t
  have fits := Operation.fits_of_mem_builtin member typed accepted
  have found : t.scene.node? node = some ⟨node, op.nodeType, layout⟩ := by
    rw [reached]
    exact Scene.node?_withNode_self fresh
  have unwired (key : String × Option Nat) : t.scene.Unwired node layout key := by
    rw [reached]
    exact wf.unwired free fresh layout key
  refine single.keeps wf (only.keeps wf made)
    (awaits_fill fits taken (wf.create made) found unwired) fun other inside => ?_
  rw [Scene.nodeNames, only.nodes, reached, Scene.withNode, List.map_append, List.mem_append]
    at inside
  exact inside.imp_right List.mem_singleton.mp

theorem single_build {op : Operation} {operands : List Operand} {channels : List (List Channel)}
    {s : Session} (wf : s.scene.WellFormed) (member : op ∈ Operation.builtin)
    (accepted : op.accepts operands.length = true) (taken : channels.length = operands.length)
    (single : s.scene.Single) : (exec (build o op operands channels) s).2.scene.Single := by
  rw [build_eq, exec_bind]
  rcases exec_create_cases op.nodeType (op.nodeName o operands) s with
    ⟨e, fault, message, run⟩ | ⟨node, created, fault, made, run⟩
  · rw [run]
    exact single
  · rw [run]
    dsimp only
    rw [exec_wrap_snd _ fun _ => Reference.node node (op.resultAttrs (widest channels))]
    exact single_fill wf member accepted taken single made rfl

/-- Applying an operation, whether it succeeds or fails midway, drives no input twice. -/
theorem single_apply (name : String) (operands : List Operand) {s : Session}
    (wf : s.scene.WellFormed) (single : s.scene.Single) :
    (exec (apply o name operands) s).2.scene.Single := by
  rw [apply]
  split
  · exact single
  · rename_i op known
    split
    · rename_i accepted
      rw [exec_bind, exec_look]
      cases taken : s.scene.unravelEach operands with
      | ok channels =>
        exact single_build wf (mem_builtin_of_lookup? known) accepted
          (Scene.unravelEach_eq_ok taken).length_eq.symm single
      | error e => exact single
    · exact single

end Program

/-! ### Runs -/

/-- Whether a step applies an operation, or only has to do with faults. -/
def Step.isApplication : Step → Bool
  | act (.apply _ _) => true
  | arm _ => true
  | _ => false

namespace Step

theorem wires_program (o : Options) {step : Step} (plain : step.isPlain = true) :
    Program.Respects Session.Wires (step.program o) := by
  cases step with
  | act action => exact (Program.covers_wires o.force).action action fun _ _ => trivial
  | arm fault => exact fun _ => Session.wires_of_same rfl rfl
  | openContainer options => cases plain
  | finishContainer scope => cases plain
  | dropContainer scope => cases plain
  | abandonContainer => cases plain
  | write change => cases plain

theorem single_perform (o : Options) {s : Session} {step : Step}
    (application : step.isApplication = true) (wf : s.scene.WellFormed)
    (single : s.scene.Single) :
    (step.perform o s).scene.WellFormed ∧ (step.perform o s).scene.Single := by
  unfold isApplication at application
  split at application
  · rename_i name operands
    have evolves := (Program.covers_evolves o.force).action (.apply name operands)
      (fun _ _ => trivial) s
    refine ⟨evolves.wellFormed wf, ?_⟩
    rw [perform, program, Action.program, Program.exec_wrap_snd]
    exact Program.single_apply name operands wf single
  · exact ⟨wf, single⟩
  · cases application

end Step

namespace Session

theorem single_run (o : Options) {s : Session} {steps : List Step}
    (applications : ∀ step ∈ steps, step.isApplication = true) (wf : s.scene.WellFormed)
    (single : s.scene.Single) : (s.run o steps).scene.Single := by
  induction steps generalizing s with
  | nil => exact single
  | cons step rest inductionHypothesis =>
    obtain ⟨first, others⟩ := List.forall_mem_cons.mp applications
    obtain ⟨wfBetween, between⟩ := Step.single_perform o first wf single
    exact inductionHypothesis others wfBetween between

/-- After any actions, failed ones included, a plug keeps the last connection that was made into
that very plug, or else the one it had; what was connected into its compound or its children has no
part in this. As long as nothing but applying operations goes on, no input is driven on two
levels. -/
theorem run_inputs (o : Options) (s : Session) (reachable : s.scene.Reachable) (steps : List Step)
    (plain : ∀ step ∈ steps, step.isPlain = true) :
    ∃ entries, (s.run o steps).host.journal = s.host.journal ++ entries ∧
      (∀ plug, (s.run o steps).scene.connections.find? plug =
        ((s.run o steps).scene.lastInto entries plug).or (s.scene.connections.find? plug)) ∧
      ((∀ step ∈ steps, step.isApplication = true) → (∀ plug, s.scene.drivenTwice plug = false) →
        ∀ plug, (s.run o steps).scene.drivenTwice plug = false) := by
  obtain ⟨_, entries, journal, wired⟩ := lasting_wires.run (o := o)
    (fun step member => Step.wires_program o (plain step member)) s
  exact ⟨entries, journal, wired _ (.refl _),
    fun applications single => single_run o applications reachable.wellFormed single⟩

/-- A product of a product, with a fault between its connections. -/
theorem run_inputs_product :
    ∃ (s : Session) (steps : List Step), s.scene.Reachable ∧
      (∀ step ∈ steps, step.isPlain = true) ∧ (∀ step ∈ steps, step.isApplication = true) ∧
      ∃ entries, (s.run .default steps).host.journal = s.host.journal ++ entries ∧
        (∀ plug, (s.run .default steps).scene.connections.find? plug =
          ((s.run .default steps).scene.lastInto entries plug).or
            (s.scene.connections.find? plug)) ∧
        ∀ plug, (s.run .default steps).scene.drivenTwice plug = false := by
  let s : Session := Session.start (Host.ofScene (Scene.empty.run [.addTransform "pCube1"]) "")
  let product : Operand := .node "nc_MUL_t_multiplyDivide" (.one "output")
  let steps : List Step := [.act (.apply "mul" [.path "pCube1.t", .number 2]),
    .arm (some ⟨.connect, 1, "stopped"⟩), .act (.apply "mul" [product, .path "pCube1.tx"])]
  have plain : ∀ step ∈ steps, step.isPlain = true := by decide
  have applications : ∀ step ∈ steps, step.isApplication = true := by decide
  obtain ⟨entries, journal, wired, single⟩ := run_inputs .default s ⟨_, rfl⟩ steps plain
  exact ⟨s, steps, ⟨_, rfl⟩, plain, applications, entries, journal, wired,
    single applications (Scene.single_of_unconnected rfl)⟩

/-- A channel of a transform is connected, and then the vector that it belongs to. The channel has
two drivers, by force or not. -/
theorem setOrConnect_drives_twice :
    ∃ (s : Session) (steps : List Step),
      s.scene = Scene.empty.run [.addTransform "pCube1", .addTransform "pCube2"] ∧
      steps = [.act (.setOrConnect (.path "pCube2.tx") (.path "pCube1.ry")),
        .act (.setOrConnect (.path "pCube2.t") (.path "pCube1.t"))] ∧
      (s.run .default steps).scene.connections.entries =
        [("pCube2.translate", "pCube1.translate"), ("pCube2.translateX", "pCube1.rotateY")] ∧
      (s.run .default steps).scene.drivenTwice "pCube2.tx" = true ∧
      (s.run { Options.default with force := false } steps).scene.drivenTwice "pCube2.tx" =
        true := by
  refine ⟨.start (.ofScene (Scene.empty.run [.addTransform "pCube1", .addTransform "pCube2"]) ""),
    _, rfl, rfl, ?_, ?_, ?_⟩
  · decide +kernel
  · decide +kernel
  · decide +kernel

end Session

end FormulaNet
