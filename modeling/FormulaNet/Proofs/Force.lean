/-
This file compares applying an operation by force with applying it without. The
two differ only where something is connected already, and on the node that an
application makes nothing is: its slots are wired group by group, each group
under a key of its own, and the links of one group are aimed at different plugs.
So no plug is written twice, and both ways go abreast, call by call, to one
outcome and to sessions that differ in what the journal says about force.
-/

import FormulaNet.Proofs.Inputs

namespace FormulaNet

/-! ### Sessions that differ in force only -/

/-- A call without what it says about force. -/
def Call.unforced : Call → Call
  | .connect source dest _ => .connect source dest false
  | call => call

def JournalEntry.unforced (entry : JournalEntry) : JournalEntry :=
  { entry with call := entry.call.unforced }

theorem Call.kind_unforced (call : Call) : call.unforced.kind = call.kind := by
  cases call <;> rfl

/-- Two sessions that are the same, but for what their journals say about force. -/
structure Session.SameButForce (s t : Session) : Prop where
  scene : s.scene = t.scene
  fault : s.host.fault = t.host.fault
  namePrefix : s.host.namePrefix = t.host.namePrefix
  journal : s.host.journal.map JournalEntry.unforced = t.host.journal.map JournalEntry.unforced
  recorder : s.recorder = t.recorder
  warnings : s.warnings = t.warnings
  printed : s.printed = t.printed

theorem Session.SameButForce.refl (s : Session) : s.SameButForce s :=
  ⟨rfl, rfl, rfl, rfl, rfl, rfl, rfl⟩

namespace Program

variable {α β : Type} {s t : Session}

/-- Two programs that come to one outcome, from one session each, and to sessions that differ in
force only. -/
abbrev EitherWay (program other : Program α) (s t : Session) : Prop :=
  Abreast Eq Session.SameButForce Eq program other s t

variable (same : s.SameButForce t)
include same

theorem eitherWay_look (answer : Scene → Except Error α) :
    EitherWay (look answer) (look answer) s t := by
  refine InStep.look (fun s t same => ?_) s t same
  rw [same.scene]
  exact .refl (fun _ => rfl) _

theorem eitherWay_editRecorder (edit : Recorder → Recorder) :
    EitherWay (editRecorder edit) (editRecorder edit) s t :=
  InStep.modify (fun _ _ same => { same with recorder := congrArg edit same.recorder }) s t same

/-- Calls that differ in force only, and to which the scene gives one answer. -/
theorem eitherWay_call {c d : Call} (calls : c.unforced = d.unforced) (report : α → Outcome)
    {change changeOther : Scene → Except SceneError (α × Scene)}
    (answers : change s.scene = changeOther s.scene) :
    EitherWay (call c report change) (call d report changeOther) s t := by
  have met : Fault.meet c s.host.fault = Fault.meet d t.host.fault := by
    have kinds : c.kind = d.kind := by rw [← c.kind_unforced, calls, d.kind_unforced]
    rw [same.fault]
    cases t.host.fault with
    | none => rfl
    | some fault => rw [Fault.meet, Fault.meet, kinds]
  have answersOther : change s.host.scene = changeOther t.host.scene :=
    answers.trans (congrArg changeOther same.scene)
  have journals (outcome : Outcome) :
      (s.host.journal ++ [JournalEntry.mk c outcome]).map JournalEntry.unforced =
        (t.host.journal ++ [JournalEntry.mk d outcome]).map JournalEntry.unforced := by
    simp [same.journal, JournalEntry.unforced, calls]
  rw [EitherWay, Abreast, exec_call, exec_call, Host.take, Host.take, ← met, ← answersOther]
  cases Fault.meet c s.host.fault with
  | strikes message => exact ⟨.error rfl, { same with fault := rfl, journal := journals _ }⟩
  | waits fault =>
    cases change s.host.scene with
    | error e => exact ⟨.error rfl, { same with fault := rfl, journal := journals _ }⟩
    | ok pair => exact ⟨.ok rfl, { same with scene := rfl, fault := rfl, journal := journals _ }⟩

theorem eitherWay_change {c d : Call} (calls : c.unforced = d.unforced)
    {edit editOther : Scene → Except SceneError Scene}
    (answers : edit s.scene = editOther s.scene) :
    EitherWay (change c edit) (change d editOther) s t :=
  eitherWay_call same calls _ (by rw [answers])

theorem eitherWay_create (type name : String) :
    EitherWay (create type name) (create type name) s t := by
  have named : (s.host.namePrefix ++ name) = t.host.namePrefix ++ name := by rw [same.namePrefix]
  rw [EitherWay, Abreast, create, exec_bind, exec_bind, exec_get, exec_get]
  dsimp only
  rw [← named]
  refine Abreast.bind_eq (eitherWay_call same rfl _ rfl) fun node after afterOther _ sameAfter => ?_
  refine Abreast.bind_eq (eitherWay_editRecorder sameAfter _) fun _ _ _ _ sameThen => ?_
  exact Abreast.bind_eq (eitherWay_editRecorder sameThen _) fun _ _ _ _ sameLast =>
    InStep.pure rfl _ _ sameLast

end Program

/-! ### Links that find their targets free -/

namespace Scene

/-- Force makes no difference where nothing is connected. -/
theorem connect_of_free {s : Scene} {source dest : String}
    (free : ∀ goal, s.canonical? dest = some goal → s.connections.find? goal = none)
    (force other : Bool) : s.connect source dest force = s.connect source dest other := by
  rw [connect, connect]
  cases s.placeOf source with
  | error e => rfl
  | ok origin =>
    cases placed : s.placeOf dest with
    | error e => rfl
    | ok found =>
      have unconnected := free (Plug.join found.1 found.2.path) (by
        rw [canonical?, (s.placeOf_eq_ok_iff _ _).mp placed]
        rfl)
      dsimp only
      rw [unconnected]

/-- Links whose targets are different plugs, and nothing is connected into any of them. -/
structure Free (s : Scene) (links : List Link) : Prop where
  apart : s.Apart links
  unconnected : ∀ link ∈ links, ∀ goal, s.goal? link = some goal →
    s.connections.find? goal = none

/-- Making a link leaves the other targets free. -/
theorem Free.rest {s after : Scene} {link : Link} {rest : List Link} {force : Bool}
    (free : s.Free (link :: rest)) (made : link.Makes force s after) : after.Free rest := by
  obtain ⟨nodes, key, aimed, elsewhere, _⟩ := makes_stores made
  obtain ⟨apartFirst, apartRest⟩ := List.pairwise_cons.mp free.apart
  have goals : after.goal? = s.goal? := funext (goal?_of_nodes nodes)
  refine ⟨by rwa [Apart, goals], fun later member goal aimedLater => ?_⟩
  rw [goals] at aimedLater
  have other : goal ≠ key := fun equal => apartFirst later member key aimed (equal ▸ aimedLater)
  rw [(elsewhere goal other).2]
  exact free.unconnected later (List.mem_cons_of_mem _ member) goal aimedLater

end Scene

namespace Program

variable {s t : Session} (force other : Bool)

theorem eitherWay_wireLink (same : s.SameButForce t) {link : Link}
    (free : ∀ goal, s.scene.goal? link = some goal → s.scene.connections.find? goal = none) :
    EitherWay (wireLink force link) (wireLink other link) s t := by
  obtain ⟨target, source⟩ := link
  rw [EitherWay, Abreast, wireLink, wireLink, exec_bind, exec_bind, exec_scene, exec_scene,
    ← same.scene]
  cases target with
  | literal value expression => exact InStep.throw rfl _ _ same
  | plug target =>
    cases source with
    | literal value expression =>
      dsimp only
      split
      · exact Abreast.bind_eq (eitherWay_change same rfl rfl) fun _ _ _ _ sameAfter =>
          eitherWay_editRecorder sameAfter _
      · exact InStep.throw rfl _ _ same
    | plug source =>
      dsimp only
      split
      · split
        · have calls : (Call.connect source target force).unforced =
              (Call.connect source target other).unforced := rfl
          refine Abreast.bind_eq (eitherWay_change same calls ?_) fun _ _ _ _ sameAfter =>
            eitherWay_editRecorder sameAfter _
          exact Scene.connect_of_free free force other
        · exact InStep.throw rfl _ _ same
      · exact InStep.throw rfl _ _ same

theorem eitherWay_wireLinks {links : List Link} (same : s.SameButForce t)
    (free : s.scene.Free links) :
    EitherWay (wireLinks force links) (wireLinks other links) s t := by
  induction links generalizing s t with
  | nil => exact InStep.pure rfl _ _ same
  | cons link rest inductionHypothesis =>
    refine Abreast.bind_eq (eitherWay_wireLink force other same
      (free.unconnected link List.mem_cons_self)) fun _ after _ run sameAfter => ?_
    exact inductionHypothesis sameAfter (free.rest (makes_of_wireLink run))

end Program

/-! ### Links of a group of slots -/

namespace Scene

variable {s : Scene} {node : String} {n : Node} {key : String × Option Nat} {slots : List String}

/-- The links that wire a group of slots are aimed at different plugs. -/
theorem WellFormed.plan_apart (wf : s.WellFormed) (found : s.node? node = some n)
    (grouped : Grouped n.layout key slots) {ceiling : Nat} {sources : List Channel}
    {links : List Link}
    (planned : s.plan ceiling (slots.map fun slot => .plug (Plug.join node slot)) sources =
      .ok links) : s.Apart links := by
  obtain ⟨pairs, paired, rfl⟩ := plan_eq_ok planned
  obtain ⟨aimed, _⟩ := Link.pair?_eq_some paired
  rw [collapseLinks]
  split
  · exact List.pairwise_singleton _ _
  · exact apart_of_canonical (wf.isCanonical_slots found grouped aimed)
      (grouped.nodup_targets aimed)

/-- What the links of a group of slots are aimed at stands under the key of the group. -/
theorem WellFormed.plan_goal (wf : s.WellFormed) (found : s.node? node = some n)
    (grouped : Grouped n.layout key slots) {ceiling : Nat} {sources : List Channel}
    {links : List Link}
    (planned : s.plan ceiling (slots.map fun slot => .plug (Plug.join node slot)) sources =
      .ok links) {link : Link} (member : link ∈ links) {goal : String}
    (aimed : s.goal? link = some goal) :
    ∃ place : Place, place.On n.layout ∧ place.key = key ∧ goal = Plug.join node place.path := by
  obtain ⟨_, level⟩ := wf.plan_level found grouped planned
  obtain ⟨text, owner, place, isPlug, there, rfl⟩ := goal?_eq_some aimed
  obtain ⟨rfl, on, keyed, _⟩ := level link member text owner place isPlug there
  exact ⟨place, on, keyed, rfl⟩

theorem WellFormed.plan_free (wf : s.WellFormed) (found : s.node? node = some n)
    (grouped : Grouped n.layout key slots) (unwired : s.Unwired node n.layout key) {ceiling : Nat}
    {sources : List Channel} {links : List Link}
    (planned : s.plan ceiling (slots.map fun slot => .plug (Plug.join node slot)) sources =
      .ok links) : s.Free links where
  apart := wf.plan_apart found grouped planned
  unconnected link member goal aimed := by
    obtain ⟨place, on, keyed, rfl⟩ := wf.plan_goal found grouped planned member aimed
    exact unwired place on keyed

end Scene

/-! ### Both ways of applying an operation -/

namespace Program

/-- What is awaited after a program that has come to an end. -/
theorem Serves.awaits_of_exec {node : String} {n : Node} {key : String × Option Nat}
    {keys : List (String × Option Nat)} {program : Program Unit}
    (serves : Serves node n key program) (apart : key ∉ keys) {s after : Session}
    (awaits : s.scene.Awaits node n (key :: keys)) {answer : Except Error Unit}
    (run : exec program s = (answer, after)) : after.scene.Awaits node n keys := by
  have later := serves.awaits apart awaits
  rwa [run] at later

/-- A node that was just created for an operation has its slots, and nothing is connected into
them. -/
theorem fresh_of_create {op : Operation} {count : Nat} {name node : String} {s after : Session}
    (member : op ∈ Operation.builtin) (accepted : op.accepts count = true)
    (wf : s.scene.WellFormed) (run : exec (create op.nodeType name) s = (.ok node, after)) :
    ∃ n, op.Fits n.layout count ∧ after.scene.WellFormed ∧ after.scene.node? node = some n ∧
      ∀ key, after.scene.Unwired node n.layout key := by
  rcases exec_create_cases op.nodeType name s with
    ⟨e, fault, message, failed⟩ | ⟨_, scene, fault, made, ran⟩
  · rw [failed] at run
    cases run
  · rw [ran] at run
    cases run
    obtain ⟨fresh, _, free⟩ := Scene.create_name made
    have wfCreated := wf.create made
    obtain ⟨layout, typed, rfl⟩ := Scene.create_withNode made
    exact ⟨⟨node, op.nodeType, layout⟩, Operation.fits_of_mem_builtin member typed accepted,
      wfCreated, Scene.node?_withNode_self fresh, wf.unwired free fresh layout⟩

variable {o : Options} {node : String} {n : Node} (force other : Bool)

section Slots

variable {s t : Session} (same : s.SameButForce t) {key : String × Option Nat}
  {keys : List (String × Option Nat)} (awaits : s.scene.Awaits node n (key :: keys))
include same awaits

theorem eitherWay_wire {slots : List String} (grouped : Scene.Grouped n.layout key slots)
    (sources : List Channel) :
    EitherWay
      (wire { o with force := force } (slots.map fun slot => .plug (Plug.join node slot)) sources)
      (wire { o with force := other } (slots.map fun slot => .plug (Plug.join node slot)) sources)
      s t := by
  refine Abreast.bind_eq (eitherWay_look same _) fun links after _ looked sameAfter => ?_
  rw [exec_look] at looked
  obtain ⟨planned, rfl⟩ := Prod.mk.inj looked
  exact eitherWay_wireLinks force other sameAfter (awaits.wellFormed.plan_free awaits.found grouped
    (awaits.unwired key List.mem_cons_self) planned)

theorem eitherWay_feed {op : Operation} {width : Nat} {f : Feed}
    (grouped : Scene.Grouped n.layout key f.group) :
    EitherWay (feed { o with force := force } op node width f)
      (feed { o with force := other } op node width f) s t := by
  rw [feed, feed]
  split
  · exact InStep.throw rfl _ _ same
  · rename_i slots chosen
    exact eitherWay_wire force other same awaits
      (grouped.sublist (Operation.slotsFor_eq_ok chosen).1) f.channels

end Slots

theorem eitherWay_setMode {s t : Session} (same : s.SameButForce t)
    {keys : List (String × Option Nat)} (awaits : s.scene.Awaits node n (modeKey :: keys))
    (mode : Option Int) (grouped : Scene.Grouped n.layout modeKey ["operation"]) :
    EitherWay (setMode { o with force := force } node mode)
      (setMode { o with force := other } node mode) s t := by
  cases mode with
  | none => exact InStep.pure rfl _ _ same
  | some number => exact eitherWay_wire force other same awaits grouped _

theorem eitherWay_feedAll {op : Operation} {width : Nat} {keys : List (String × Option Nat)}
    {all : List Feed}
    (grouped : List.Forall₂ (fun key f => Scene.Grouped n.layout key f.group) keys all)
    (distinct : keys.Nodup) {s t : Session} (same : s.SameButForce t)
    (awaits : s.scene.Awaits node n keys) :
    EitherWay (feedAll { o with force := force } op node width all)
      (feedAll { o with force := other } op node width all) s t := by
  induction grouped generalizing s t with
  | nil => exact InStep.pure rfl _ _ same
  | cons groupedFirst _ inductionHypothesis =>
    rw [List.nodup_cons] at distinct
    refine Abreast.bind_eq (eitherWay_feed force other same awaits groupedFirst)
      fun _ after _ run sameAfter => ?_
    exact inductionHypothesis distinct.2 sameAfter
      ((serves_feed groupedFirst).awaits_of_exec distinct.1 awaits run)

theorem eitherWay_fill {op : Operation} {operands : List Operand} {channels : List (List Channel)}
    (fits : op.Fits n.layout operands.length) (taken : channels.length = operands.length)
    {s t : Session} (same : s.SameButForce t) (wf : s.scene.WellFormed)
    (found : s.scene.node? node = some n)
    (unwired : ∀ key, s.scene.Unwired node n.layout key) :
    EitherWay (fill { o with force := force } op node operands channels)
      (fill { o with force := other } op node operands channels) s t := by
  obtain ⟨keys, grouped, distinct⟩ := fits.groups
  rw [← map_group_feeds taken fits.length, List.forall₂_map_right_iff] at grouped
  rw [List.nodup_cons] at distinct
  have awaits : s.scene.Awaits node n (modeKey :: keys) :=
    ⟨wf, found, fun key _ => unwired key, fun key => (unwired key).oneLevel⟩
  refine Abreast.bind_eq (eitherWay_setMode force other same awaits op.mode fits.mode)
    fun _ after _ run sameAfter => ?_
  exact eitherWay_feedAll force other grouped distinct.2 sameAfter
    ((serves_setMode op.mode fits.mode).awaits_of_exec distinct.1 awaits run)

theorem eitherWay_build {op : Operation} {operands : List Operand} {channels : List (List Channel)}
    (member : op ∈ Operation.builtin) (accepted : op.accepts operands.length = true)
    (taken : channels.length = operands.length) {s t : Session} (same : s.SameButForce t)
    (wf : s.scene.WellFormed) :
    EitherWay (build { o with force := force } op operands channels)
      (build { o with force := other } op operands channels) s t := by
  rw [build_eq, build_eq]
  refine Abreast.bind_eq (eitherWay_create same _ _) fun node created _ creating sameCreated => ?_
  obtain ⟨n, fits, wfCreated, found, unwired⟩ :=
    fresh_of_create member accepted wf creating
  exact Abreast.bind_eq (eitherWay_fill force other fits taken sameCreated wfCreated found unwired)
    fun _ _ _ _ sameFilled => InStep.pure rfl _ _ sameFilled

/-- Applying an operation goes the same way by force and without. -/
theorem eitherWay_apply (name : String) (operands : List Operand) {s : Session}
    (wf : s.scene.WellFormed) :
    EitherWay (apply { o with force := force } name operands)
      (apply { o with force := other } name operands) s s := by
  rw [apply, apply]
  split
  · exact InStep.throw rfl _ _ (.refl s)
  · rename_i op known
    split
    · rename_i accepted
      refine Abreast.bind_eq (eitherWay_look (.refl s) _) fun channels after _ looked same => ?_
      rw [exec_look] at looked
      obtain ⟨taken, rfl⟩ := Prod.mk.inj looked
      exact eitherWay_build force other (mem_builtin_of_lookup? known) accepted
        (Scene.unravelEach_eq_ok taken).length_eq.symm same wf
    · exact InStep.throw rfl _ _ (.refl s)

end Program

/-! ### What was written -/

/-- The plug that a call was carried out on, in its canonical spelling. -/
def JournalEntry.written? (s : Scene) : JournalEntry → Option String
  | ⟨.set plug _, .done⟩ => s.canonical? plug
  | ⟨.connect _ dest _, .done⟩ => s.canonical? dest
  | _ => none

/-- The plugs that were set or connected into by the calls of a journal, in order. -/
def Scene.written (s : Scene) (entries : List JournalEntry) : List String :=
  entries.filterMap (JournalEntry.written? s)

theorem Scene.written_singleton (s : Scene) (entry : JournalEntry) :
    s.written [entry] = (JournalEntry.written? s entry).toList := by
  rw [written, List.filterMap_cons, List.filterMap_nil]
  cases JournalEntry.written? s entry <;> rfl

theorem Scene.written_of_nodes {s after : Scene} (same : after.nodes = s.nodes) :
    after.written = s.written := by
  funext entries
  have entry : JournalEntry.written? after = JournalEntry.written? s := by
    funext entry
    unfold JournalEntry.written?
    rw [canonical?_of_nodes same]
  rw [written, written, entry]

/-- Only some of the given plugs were written since, in their order. -/
structure Session.Aims (goals : List String) (s after : Session) : Prop where
  nodes : after.scene.nodes = s.scene.nodes
  written : ∃ entries, after.host.journal = s.host.journal ++ entries ∧
    (s.scene.written entries).Sublist goals

namespace Session.Aims

variable {s between after : Session} {goals more : List String}

theorem none (s : Session) (goals : List String) : Aims goals s s :=
  ⟨rfl, [], (List.append_nil _).symm, List.nil_sublist _⟩

theorem mono (aims : Aims goals s after) (fewer : goals.Sublist more) : Aims more s after := by
  obtain ⟨nodes, entries, journal, written⟩ := aims
  exact ⟨nodes, entries, journal, written.trans fewer⟩

theorem append (first : Aims goals s between) (second : Aims more between after) :
    Aims (goals ++ more) s after := by
  obtain ⟨nodes, entries, journal, written⟩ := first
  obtain ⟨nodesLater, later, journalLater, writtenLater⟩ := second
  refine ⟨nodesLater.trans nodes, entries ++ later, ?_, ?_⟩
  · rw [journalLater, journal, List.append_assoc]
  · rw [Scene.written_of_nodes nodes] at writtenLater
    rw [Scene.written, List.filterMap_append]
    exact written.append writtenLater

end Session.Aims

namespace Program

/-- What the first of two programs writes comes first; if it fails, that is all. -/
theorem aims_bind {α β : Type} {program : Program α} {next : α → Program β} {s : Session}
    {goals more : List String} (first : s.Aims goals (exec program s).2)
    (rest : ∀ a after, exec program s = (.ok a, after) → after.Aims more (exec (next a) after).2) :
    s.Aims (goals ++ more) (exec (program >>= next) s).2 := by
  rw [exec_bind]
  rcases run : exec program s with ⟨answer, after⟩
  rw [run] at first
  cases answer with
  | error e => exact first.mono (List.sublist_append_left _ _)
  | ok a => exact first.append (rest a after run)

/-- Making a link writes what it is aimed at, if anything. -/
theorem aims_wireLink (force : Bool) (link : Link) (s : Session) :
    s.Aims (s.scene.goal? link).toList (exec (wireLink force link) s).2 := by
  obtain ⟨target, source⟩ := link
  rw [wireLink, exec_bind, exec_scene]
  cases target with
  | literal value expression => exact .none s _
  | plug target =>
    have goal : s.scene.goal? ⟨.plug target, source⟩ = s.scene.canonical? target := rfl
    cases source with
    | literal value expression =>
      dsimp only
      split
      · rcases exec_setPlug_cases target value (Channel.literal value expression).text s with
          ⟨e, fault, message, run⟩ | ⟨scene, fault, done, run⟩
        · rw [run]
          exact ⟨rfl, [_], rfl, List.nil_sublist _⟩
        · obtain ⟨_, _, _, _, rfl⟩ := Scene.set_eq_ok done
          rw [run, goal]
          refine ⟨rfl, [_], rfl, ?_⟩
          rw [Scene.written_singleton]
          exact List.Sublist.refl _
      · exact .none s _
    | plug source =>
      dsimp only
      split
      · split
        · rcases exec_connect_cases source target force s with
            ⟨e, fault, message, run⟩ | ⟨scene, fault, done, run⟩
          · rw [run]
            exact ⟨rfl, [_], rfl, List.nil_sublist _⟩
          · obtain ⟨_, _, _, _, _, _, _, _, _, rfl⟩ := Scene.connect_eq_ok done
            rw [run, goal]
            refine ⟨rfl, [_], rfl, ?_⟩
            rw [Scene.written_singleton]
            exact List.Sublist.refl _
        · exact .none s _
      · exact .none s _

theorem aims_wireLinks (force : Bool) (links : List Link) (s : Session) :
    s.Aims (links.flatMap fun link => (s.scene.goal? link).toList)
      (exec (wireLinks force links) s).2 := by
  induction links generalizing s with
  | nil => exact .none s _
  | cons link rest inductionHypothesis =>
    refine aims_bind (aims_wireLink force link s) fun _ after run => ?_
    have goals : after.scene.goal? = s.scene.goal? :=
      funext (Scene.goal?_of_nodes (Scene.makes_stores (makes_of_wireLink run)).1)
    rw [← goals]
    exact inductionHypothesis after

end Program

/-! ### Nothing is written twice -/

/-- Different plugs on a node, each under one of some keys. -/
structure Scene.Under (node : String) (layout : Layout) (keys : List (String × Option Nat))
    (plugs : List String) : Prop where
  distinct : plugs.Nodup
  placed : ∀ plug ∈ plugs, ∃ place : Place, place.On layout ∧ place.key ∈ keys ∧
    plug = Plug.join node place.path

namespace Scene

variable {node : String} {n : Node} {key : String × Option Nat}
  {keys : List (String × Option Nat)}

theorem Under.nil (node : String) (layout : Layout) (keys : List (String × Option Nat)) :
    Under node layout keys [] :=
  ⟨List.nodup_nil, fun _ inside => absurd inside List.not_mem_nil⟩

theorem Under.append (sound : n.layout.Sound) (apart : key ∉ keys) {first others : List String}
    (under : Under node n.layout [key] first) (underOthers : Under node n.layout keys others) :
    Under node n.layout (key :: keys) (first ++ others) where
  distinct := by
    refine under.distinct.append underOthers.distinct fun plug inFirst inOthers => ?_
    obtain ⟨place, on, keyed, rfl⟩ := under.placed plug inFirst
    obtain ⟨other, onOther, keyedOther, equal⟩ := underOthers.placed _ inOthers
    obtain rfl := sound.path_injective on onOther (Plug.join_injective node equal)
    exact apart (List.mem_singleton.mp keyed ▸ keyedOther)
  placed plug member := by
    rcases List.mem_append.mp member with inFirst | inOthers
    · obtain ⟨place, on, keyed, equal⟩ := under.placed plug inFirst
      exact ⟨place, on, List.mem_cons.mpr (Or.inl (List.mem_singleton.mp keyed)), equal⟩
    · obtain ⟨place, on, keyed, equal⟩ := underOthers.placed plug inOthers
      exact ⟨place, on, List.mem_cons_of_mem _ keyed, equal⟩

/-- The links of a group of slots are aimed at different plugs under its key. -/
theorem WellFormed.plan_under {s : Scene} (wf : s.WellFormed) (found : s.node? node = some n)
    {slots : List String} (grouped : Grouped n.layout key slots) {ceiling : Nat}
    {sources : List Channel} {links : List Link}
    (planned : s.plan ceiling (slots.map fun slot => .plug (Plug.join node slot)) sources =
      .ok links) :
    Under node n.layout [key] (links.flatMap fun link => (s.goal? link).toList) where
  distinct := by
    refine List.nodup_flatMap.mpr ⟨fun link _ => ?_, ?_⟩
    · cases s.goal? link with
      | none => exact List.nodup_nil
      | some goal => exact List.nodup_singleton goal
    · refine (wf.plan_apart found grouped planned).imp fun apart goal inFirst inSecond => ?_
      exact apart goal (Option.mem_toList.mp inFirst) (Option.mem_toList.mp inSecond)
  placed plug member := by
    obtain ⟨link, inside, aimed⟩ := List.mem_flatMap.mp member
    obtain ⟨place, on, keyed, equal⟩ :=
      wf.plan_goal found grouped planned inside (Option.mem_toList.mp aimed)
    exact ⟨place, on, List.mem_singleton.mpr keyed, equal⟩

end Scene

namespace Program

variable {o : Options} {node : String} {n : Node} {key : String × Option Nat}
  {keys : List (String × Option Nat)}

/-- A program that writes plugs of a node under some keys, none of them twice. -/
def WritesOnce (node : String) (n : Node) (keys : List (String × Option Nat))
    (program : Program Unit) : Prop :=
  ∀ s : Session, s.scene.WellFormed → s.scene.node? node = some n →
    ∃ plugs, Scene.Under node n.layout keys plugs ∧ s.Aims plugs (exec program s).2

theorem writesOnce_pure : WritesOnce node n keys (pure ()) :=
  fun s _ _ => ⟨[], .nil _ _ _, .none s _⟩

/-- One key after the other. -/
theorem WritesOnce.bind {program rest : Program Unit} (first : WritesOnce node n [key] program)
    (serves : Serves node n key program) (apart : key ∉ keys)
    (others : WritesOnce node n keys rest) :
    WritesOnce node n (key :: keys) (program >>= fun _ => rest) := by
  intro s wf found
  obtain ⟨plugs, under, aims⟩ := first s wf found
  obtain ⟨wfAfter, _⟩ := serves s wf found
  have foundAfter : (exec program s).2.scene.node? node = some n := by
    rw [Scene.node?, aims.nodes]
    exact found
  obtain ⟨more, underMore, aimsMore⟩ := others _ wfAfter foundAfter
  have sound := wf.layouts n (Scene.mem_of_node? found).1
  refine ⟨plugs ++ more, under.append sound apart underMore, aims_bind aims fun _ after run => ?_⟩
  rwa [run] at aimsMore

theorem writesOnce_wire {slots : List String} (grouped : Scene.Grouped n.layout key slots)
    (sources : List Channel) :
    WritesOnce node n [key]
      (wire o (slots.map fun slot => .plug (Plug.join node slot)) sources) := by
  intro s wf found
  rw [wire, exec_bind, exec_look]
  cases planned :
      s.scene.plan o.ceiling (slots.map fun slot => .plug (Plug.join node slot)) sources with
  | error e => exact ⟨[], .nil _ _ _, .none s _⟩
  | ok links => exact ⟨_, wf.plan_under found grouped planned, aims_wireLinks o.force links s⟩

theorem writesOnce_setMode (mode : Option Int)
    (grouped : Scene.Grouped n.layout modeKey ["operation"]) :
    WritesOnce node n [modeKey] (setMode o node mode) := by
  cases mode with
  | none => exact writesOnce_pure
  | some number => exact writesOnce_wire grouped _

theorem writesOnce_feed {op : Operation} {width : Nat} {f : Feed}
    (grouped : Scene.Grouped n.layout key f.group) :
    WritesOnce node n [key] (feed o op node width f) := by
  rw [feed]
  split
  · exact fun s _ _ => ⟨[], .nil _ _ _, .none s _⟩
  · rename_i slots chosen
    exact writesOnce_wire (grouped.sublist (Operation.slotsFor_eq_ok chosen).1) f.channels

theorem writesOnce_feedAll {op : Operation} {width : Nat} {all : List Feed}
    (grouped : List.Forall₂ (fun key f => Scene.Grouped n.layout key f.group) keys all)
    (distinct : keys.Nodup) : WritesOnce node n keys (feedAll o op node width all) := by
  induction grouped with
  | nil => exact writesOnce_pure
  | cons groupedFirst _ inductionHypothesis =>
    rw [List.nodup_cons] at distinct
    exact (writesOnce_feed groupedFirst).bind (serves_feed groupedFirst) distinct.1
      (inductionHypothesis distinct.2)

theorem writesOnce_fill (o : Options) (node : String) {op : Operation} {operands : List Operand}
    {channels : List (List Channel)} (fits : op.Fits n.layout operands.length)
    (taken : channels.length = operands.length) :
    ∃ keys, WritesOnce node n keys (fill o op node operands channels) := by
  obtain ⟨keys, grouped, distinct⟩ := fits.groups
  rw [← map_group_feeds taken fits.length, List.forall₂_map_right_iff] at grouped
  rw [List.nodup_cons] at distinct
  exact ⟨_, (writesOnce_setMode op.mode fits.mode).bind (serves_setMode op.mode fits.mode)
    distinct.1 (writesOnce_feedAll grouped distinct.2)⟩

end Program

/-- Whatever was written since was written once, and on nodes that were not there before. -/
def Session.WritesFresh (s after : Session) : Prop :=
  ∃ entries, after.host.journal = s.host.journal ++ entries ∧
    (after.scene.written entries).Nodup ∧
    ∀ plug ∈ after.scene.written entries, ∃ node attr, plug = Plug.join node attr ∧
      node ∉ s.scene.nodeNames

theorem Session.WritesFresh.refl (s : Session) : s.WritesFresh s :=
  ⟨[], (List.append_nil _).symm, List.nodup_nil, by simp [Scene.written]⟩

namespace Program

variable {o : Options}

theorem writesFresh_build {op : Operation} {operands : List Operand}
    {channels : List (List Channel)} {s : Session} (wf : s.scene.WellFormed)
    (member : op ∈ Operation.builtin) (accepted : op.accepts operands.length = true)
    (taken : channels.length = operands.length) :
    s.WritesFresh (exec (build o op operands channels) s).2 := by
  rw [build_eq, exec_bind]
  rcases exec_create_cases op.nodeType (op.nodeName o operands) s with
    ⟨e, fault, message, run⟩ | ⟨node, created, fault, made, run⟩
  · rw [run]
    exact ⟨[_], rfl, List.nodup_nil, by simp [Scene.written, JournalEntry.written?]⟩
  · obtain ⟨n, fits, wfCreated, found, _⟩ := fresh_of_create member accepted wf run
    obtain ⟨keys, once⟩ := writesOnce_fill o node fits taken
    rw [run]
    dsimp only
    rw [exec_wrap_snd _ fun _ => Reference.node node (op.resultAttrs (widest channels))]
    obtain ⟨plugs, under, nodes, entries, journal, written⟩ := once _ wfCreated found
    rw [← Scene.written_of_nodes nodes] at written
    refine ⟨⟨.create op.nodeType (op.nodeName o operands), .made node⟩ :: entries, ?_,
      under.distinct.sublist written, fun plug inside => ?_⟩
    · rw [journal]
      exact List.append_assoc _ _ _
    · obtain ⟨place, _, _, rfl⟩ := under.placed plug (written.subset inside)
      exact ⟨node, place.path, rfl, (Scene.create_name made).1⟩

theorem writesFresh_apply (name : String) (operands : List Operand) {s : Session}
    (wf : s.scene.WellFormed) : s.WritesFresh (exec (apply o name operands) s).2 := by
  rw [apply]
  split
  · exact .refl s
  · rename_i op known
    split
    · rename_i accepted
      rw [exec_bind, exec_look]
      cases taken : s.scene.unravelEach operands with
      | error e => exact .refl s
      | ok channels =>
        exact writesFresh_build wf (mem_builtin_of_lookup? known) accepted
          (Scene.unravelEach_eq_ok taken).length_eq.symm
    · exact .refl s

/-- Applying an operation, whether it succeeds or fails midway, comes to the same by force and
without, since no plug of the node that it makes is written twice. -/
theorem apply_regardless_of_force (o : Options) (name : String) (operands : List Operand)
    (s : Session) (reachable : s.scene.Reachable) :
    (exec (apply { o with force := true } name operands) s).1 =
        (exec (apply { o with force := false } name operands) s).1 ∧
      Session.SameButForce (exec (apply { o with force := true } name operands) s).2
        (exec (apply { o with force := false } name operands) s).2 ∧
      ∀ force, s.WritesFresh (exec (apply { o with force := force } name operands) s).2 := by
  have wf := reachable.wellFormed
  obtain ⟨outcomes, same⟩ := eitherWay_apply (o := o) true false name operands wf
  exact ⟨outcomes.eq, same, fun force => writesFresh_apply name operands wf⟩

/-- An average is stopped by a fault while its first operand is being wired. -/
theorem apply_regardless_of_force_average :
    ∃ s : Session, s.scene.Reachable ∧ s.host.fault = some ⟨.connect, 2, "stopped"⟩ ∧
      (exec (apply { Options.default with force := false } "average"
        [.path "pCube1.t", .path "pCube1.r", .number 2]) s).2.scene.connections.entries =
          [("nc_AVERAGE_t_r_2_plusMinusAverage.input3D[0].input3Dx", "pCube1.translateX"),
            ("nc_AVERAGE_t_r_2_plusMinusAverage.input3D[0].input3Dy", "pCube1.translateY")] ∧
      (exec (apply { Options.default with force := true } "average"
        [.path "pCube1.t", .path "pCube1.r", .number 2]) s).1 =
          (exec (apply { Options.default with force := false } "average"
            [.path "pCube1.t", .path "pCube1.r", .number 2]) s).1 ∧
      Session.SameButForce
        (exec (apply { Options.default with force := true } "average"
          [.path "pCube1.t", .path "pCube1.r", .number 2]) s).2
        (exec (apply { Options.default with force := false } "average"
          [.path "pCube1.t", .path "pCube1.r", .number 2]) s).2 ∧
      ∀ force, s.WritesFresh (exec (apply { Options.default with force := force } "average"
        [.path "pCube1.t", .path "pCube1.r", .number 2]) s).2 := by
  let scene := Scene.empty.run [.addTransform "pCube1"]
  let host := { Host.ofScene scene "" with fault := some ⟨.connect, 2, "stopped"⟩ }
  refine ⟨.start host, ⟨_, rfl⟩, rfl, ?_, ?_⟩
  · decide +kernel
  · exact apply_regardless_of_force .default "average" _ (.start host) ⟨_, rfl⟩

end Program

end FormulaNet
