/-
This file reasons about programs without opening them. A relation between
sessions that holds of a session with itself and adds up over steps holds over a
whole program as soon as it holds over its calls; likewise for the errors a
program may end with. For the calls themselves the file says once what each can
come to: the host does not carry it out and only its journal and fault move, or
the scene takes the change, and the recorder learns of it afterwards.
-/

import Mathlib.Data.List.Forall2
import FormulaNet.Formula.Apply
import FormulaNet.Scope.Container

namespace FormulaNet

namespace Program

/-! ### Relations between sessions -/

/-- A relation that adds up over the steps of a program. -/
structure Lasting (R : Session → Session → Prop) : Prop where
  refl : ∀ s, R s s
  trans : ∀ {s t u}, R s t → R t u → R s u

/-- Every run of a program, failed or not, relates the session before to the session after. -/
def Respects {α : Type} (R : Session → Session → Prop) (program : Program α) : Prop :=
  ∀ s, R s (exec program s).2

/-- Every error of a program is as described. -/
def FailsOnly {α : Type} (K : Error → Prop) (program : Program α) : Prop :=
  ∀ s e after, exec program s = (.error e, after) → K e

variable {α β : Type} {R : Session → Session → Prop}

/-- A sequence that succeeds is two programs that succeed. -/
theorem exec_bind_ok {program : Program α} {next : α → Program β} {s after : Session} {b : β}
    (done : exec (program >>= next) s = (.ok b, after)) :
    ∃ a between, exec program s = (.ok a, between) ∧ exec (next a) between = (.ok b, after) := by
  rw [exec_bind] at done
  split at done
  · rename_i a between first
    exact ⟨a, between, first, done⟩
  · cases done

/-- Naming what a program gave changes nothing. -/
theorem exec_wrap (program : Program α) (wrap : α → β) (s : Session) :
    exec (do return wrap (← program)) s = ((exec program s).1.map wrap, (exec program s).2) := by
  rw [exec_bind]
  rcases exec program s with ⟨_ | _, _⟩ <;> rfl

theorem exec_wrap_snd (program : Program α) (wrap : α → β) (s : Session) :
    (exec (do return wrap (← program)) s).2 = (exec program s).2 :=
  congrArg Prod.snd (exec_wrap program wrap s)

theorem exec_wrap_ok {program : Program α} (wrap : α → β) {s after : Session} {b : β}
    (done : exec (do return wrap (← program)) s = (.ok b, after)) :
    ∃ a, exec program s = (.ok a, after) ∧ b = wrap a := by
  obtain ⟨a, between, first, last⟩ := exec_bind_ok done
  cases last
  exact ⟨a, first, rfl⟩

/-- A session is related across a sequence if it is across the first program, and from there on
across the second. -/
theorem Lasting.exec_bind (lasting : Lasting R) {program : Program α} {next : α → Program β}
    {s : Session} (first : R s (exec program s).2)
    (rest : ∀ a after, exec program s = (.ok a, after) → R after (exec (next a) after).2) :
    R s (exec (program >>= next) s).2 := by
  rw [Program.exec_bind]
  cases run : exec program s with
  | mk result after =>
    rw [run] at first
    cases result with
    | ok a => exact lasting.trans first (rest a after run)
    | error e => exact first

theorem Lasting.bind (lasting : Lasting R) {program : Program α} {next : α → Program β}
    (first : Respects R program) (rest : ∀ a, Respects R (next a)) :
    Respects R (program >>= next) :=
  fun s => lasting.exec_bind (first s) fun a after _ => rest a after

theorem Lasting.pure (lasting : Lasting R) (a : α) : Respects R (pure a : Program α) :=
  fun s => lasting.refl s

theorem Lasting.wrap (lasting : Lasting R) {program : Program α} {wrap : α → β}
    (respects : Respects R program) : Respects R (do return wrap (← program)) :=
  lasting.bind respects fun _ => lasting.pure _

theorem Lasting.throw (lasting : Lasting R) (e : Error) : Respects R (throw e : Program α) :=
  fun s => lasting.refl s

/-- What follows a look at the scene starts from the same session. -/
theorem Lasting.look_bind (lasting : Lasting R) {answer : Scene → Except Error α}
    {next : α → Program β}
    (rest : ∀ s a, answer s.scene = .ok a → R s (exec (next a) s).2) :
    Respects R (look answer >>= next) := by
  intro s
  rw [Program.exec_bind, exec_look]
  cases answered : answer s.scene with
  | ok a => exact rest s a answered
  | error e => exact lasting.refl s

theorem Respects.scene_bind {next : Scene → Program β}
    (rest : ∀ s, R s (exec (next s.scene) s).2) : Respects R (scene >>= next) := by
  intro s
  rw [Program.exec_bind, exec_scene]
  exact rest s

/-! ### Errors -/

variable {K : Error → Prop}

theorem FailsOnly.pure (a : α) : FailsOnly K (pure a : Program α) := by
  intro s e after run
  cases run

theorem FailsOnly.throw {e : Error} (known : K e) : FailsOnly K (throw e : Program α) := by
  intro s thrown after run
  cases run
  exact known

theorem FailsOnly.bind {program : Program α} {next : α → Program β}
    (first : FailsOnly K program) (rest : ∀ a, FailsOnly K (next a)) :
    FailsOnly K (program >>= next) := by
  intro s e after run
  rw [exec_bind] at run
  cases executed : exec program s with
  | mk result between =>
    rw [executed] at run
    cases result with
    | ok a => exact rest a between e after run
    | error thrown =>
      cases run
      exact first s e after executed

theorem FailsOnly.scene : FailsOnly K scene := by
  intro s e after run
  cases run

theorem FailsOnly.look {answer : Scene → Except Error α}
    (known : ∀ s e, answer s = .error e → K e) : FailsOnly K (look answer) := by
  intro s e after run
  rw [exec_look] at run
  exact known s.scene e (Prod.mk.inj run).1

end Program

/-! ### Calls -/

/-- The session after a call that was not carried out. -/
def Session.refused (s : Session) (call : Call) (fault : Option Fault) (message : String) :
    Session :=
  { s with
    host := { s.host with fault, journal := s.host.journal ++ [⟨call, .failed message⟩] } }

/-- The session after a call that was carried out. -/
def Session.answered (s : Session) (call : Call) (outcome : Outcome) (scene : Scene)
    (fault : Option Fault) : Session :=
  { s with
    host := { s.host with scene, fault, journal := s.host.journal ++ [⟨call, outcome⟩] } }

/-- The session after an event was recorded. -/
def Session.recorded (s : Session) (event : Trace.Event) : Session :=
  { s with recorder := s.recorder.record event }

/-- The session after a node was collected. -/
def Session.collected (s : Session) (node : String) : Session :=
  { s with recorder := s.recorder.collect node }

namespace Program

theorem exec_call_cases {α : Type} (c : Call) (report : α → Outcome)
    (change : Scene → Except SceneError (α × Scene)) (s : Session) :
    (∃ e fault message,
      exec (call c report change) s = (.error (.host e), s.refused c fault message)) ∨
    ∃ a scene fault, change s.scene = .ok (a, scene) ∧
      exec (call c report change) s = (.ok a, s.answered c (report a) scene fault) := by
  rw [exec_call, Host.take]
  cases Fault.meet c s.host.fault with
  | strikes message => exact Or.inl ⟨_, _, _, rfl⟩
  | waits fault =>
    cases answered : change s.host.scene with
    | error e => exact Or.inl ⟨_, _, _, rfl⟩
    | ok pair => exact Or.inr ⟨pair.1, pair.2, fault, answered, rfl⟩

theorem exec_change_cases (c : Call) (edit : Scene → Except SceneError Scene) (s : Session) :
    (∃ e fault message,
      exec (change c edit) s = (.error (.host e), s.refused c fault message)) ∨
    ∃ scene fault, edit s.scene = .ok scene ∧
      exec (change c edit) s = (.ok (), s.answered c .done scene fault) := by
  rcases exec_call_cases c (fun _ : Unit => .done)
      (fun scene => (edit scene).map fun scene => ((), scene)) s with
    failed | ⟨_, scene, fault, done, run⟩
  · exact Or.inl failed
  · refine Or.inr ⟨scene, fault, ?_, run⟩
    cases edited : edit s.scene with
    | error e =>
      rw [edited] at done
      cases done
    | ok changed =>
      rw [edited] at done
      cases done
      rfl

/-- A change that is logged afterwards. -/
theorem exec_change_record_cases (c : Call) (edit : Scene → Except SceneError Scene)
    (event : Trace.Event) (s : Session) :
    (∃ e fault message,
      exec (do change c edit; record event) s = (.error (.host e), s.refused c fault message)) ∨
    ∃ scene fault, edit s.scene = .ok scene ∧
      exec (do change c edit; record event) s =
        (.ok (), (s.answered c .done scene fault).recorded event) := by
  rw [exec_bind]
  rcases exec_change_cases c edit s with ⟨e, fault, message, run⟩ | ⟨scene, fault, done, run⟩
  · rw [run]
    exact Or.inl ⟨e, fault, message, rfl⟩
  · rw [run]
    exact Or.inr ⟨scene, fault, done, rfl⟩

theorem exec_setPlug_cases (plug : String) (value : Float) (text : String) (s : Session) :
    (∃ e fault message, exec (setPlug plug value text) s =
      (.error (.host e), s.refused (.set plug value) fault message)) ∨
    ∃ scene fault, s.scene.set plug value = .ok scene ∧
      exec (setPlug plug value text) s =
        (.ok (), (s.answered (.set plug value) .done scene fault).recorded (.set plug text)) :=
  exec_change_record_cases _ (fun scene => scene.set plug value) _ s

theorem exec_connect_cases (source dest : String) (force : Bool) (s : Session) :
    (∃ e fault message, exec (connect source dest force) s =
      (.error (.host e), s.refused (.connect source dest force) fault message)) ∨
    ∃ scene fault, s.scene.connect source dest force = .ok scene ∧
      exec (connect source dest force) s =
        (.ok (), (s.answered (.connect source dest force) .done scene fault).recorded
          (.connect source dest)) :=
  exec_change_record_cases _ (fun scene => scene.connect source dest force) _ s

theorem exec_addAttribute_cases (node name : String) (spec : AttributeSpec) (s : Session) :
    (∃ e fault message, exec (addAttribute node name spec) s =
      (.error (.host e), s.refused (.addAttribute node name spec) fault message)) ∨
    ∃ scene fault, s.scene.addAttribute node name spec.default = .ok scene ∧
      exec (addAttribute node name spec) s =
        (.ok (), (s.answered (.addAttribute node name spec) .done scene fault).recorded
          (.addAttribute node name spec.flags)) :=
  exec_change_record_cases _ (fun scene => scene.addAttribute node name spec.default) _ s

theorem exec_create_cases (type name : String) (s : Session) :
    (∃ e fault message,
      exec (create type name) s = (.error (.host e), s.refused (.create type name) fault message)) ∨
    ∃ node scene fault, s.scene.create type (s.host.namePrefix ++ name) = .ok (node, scene) ∧
      exec (create type name) s =
        (.ok node,
          ((s.answered (.create type name) (.made node) scene fault).collected node).recorded
            (.create node type)) := by
  rw [create, exec_bind, exec_get]
  dsimp only
  rw [exec_bind]
  rcases exec_call_cases (.create type name) .made
      (fun scene => scene.create type (s.host.namePrefix ++ name)) s with
    ⟨e, fault, message, run⟩ | ⟨node, scene, fault, done, run⟩
  · rw [run]
    exact Or.inl ⟨e, fault, message, rfl⟩
  · rw [run]
    exact Or.inr ⟨node, scene, fault, done, rfl⟩

theorem exec_readPlug_cases (plug : String) (s : Session) :
    (∃ e, exec (readPlug plug) s = (.error e, s)) ∨
    (∃ e fault message,
      exec (readPlug plug) s = (.error (.host e), s.refused (.read plug) fault message)) ∨
    ∃ payload fault, s.scene.read plug = .ok payload ∧
      exec (readPlug plug) s =
        (.ok ⟨payload, s.recorder.nextLabel?.getD plug, false⟩,
          (s.answered (.read plug) .done s.scene fault).recorded (.read plug)) := by
  rw [readPlug, exec_bind, exec_scene]
  dsimp only
  split
  · rw [exec_bind]
    rcases exec_call_cases (.read plug) (fun _ : Primitive => .done)
        (fun scene => (scene.read plug).map fun payload => (payload, scene)) s with
      ⟨e, fault, message, run⟩ | ⟨payload, scene, fault, done, run⟩
    · rw [run]
      exact Or.inr (Or.inl ⟨e, fault, message, rfl⟩)
    · rw [run]
      cases answered : s.scene.read plug with
      | error e =>
        rw [answered] at done
        cases done
      | ok read =>
        rw [answered] at done
        cases done
        exact Or.inr (Or.inr ⟨payload, fault, rfl, rfl⟩)
  · exact Or.inl ⟨_, rfl⟩

/-! ### Wiring -/

theorem Lasting.wireLinks (lasting : Lasting R) {force : Bool} {links : List Link}
    (each : ∀ link ∈ links, Respects R (wireLink force link)) :
    Respects R (wireLinks force links) := by
  induction links with
  | nil => exact lasting.pure ()
  | cons link rest inductionHypothesis =>
    refine lasting.bind (each link List.mem_cons_self) fun _ => inductionHypothesis ?_
    intro later member
    exact each later (List.mem_cons_of_mem _ member)

/-- A wiring respects what each of its planned links does. -/
theorem Lasting.wire (lasting : Lasting R) {o : Options} {targets sources : List Channel}
    (each : ∀ (s : Scene) (links : List Link), s.plan o.ceiling targets sources = .ok links →
      ∀ link ∈ links, Respects R (wireLink o.force link)) :
    Respects R (wire o targets sources) := by
  refine lasting.look_bind ?_
  intro s links planned
  exact lasting.wireLinks (each s.scene links planned) s

/-- A link is made by setting its target or by connecting it, if at all. -/
theorem Lasting.wireLink (lasting : Lasting R) {force : Bool} {link : Link}
    (setting : ∀ target value expression, link = ⟨.plug target, .literal value expression⟩ →
      Respects R (setPlug target value link.source.text))
    (connecting : ∀ target source, link = ⟨.plug target, .plug source⟩ →
      Respects R (connect source target force)) :
    Respects R (wireLink force link) := by
  refine Respects.scene_bind ?_
  intro s
  obtain ⟨target, source⟩ := link
  cases target with
  | literal value expression => exact lasting.throw _ s
  | plug target =>
    cases source with
    | literal value expression =>
      dsimp only
      split
      · exact setting target value expression rfl s
      · exact lasting.throw _ s
    | plug source =>
      dsimp only
      split
      · split
        · exact connecting target source rfl s
        · exact lasting.throw _ s
      · exact lasting.throw _ s

end Program

/-! ### Plans -/

theorem Link.mem_pair? {targets sources : List Channel} {links : List Link}
    (paired : Link.pair? targets sources = some links) {link : Link} (member : link ∈ links) :
    link.target ∈ targets ∧ link.source ∈ sources := by
  unfold Link.pair? at paired
  split at paired
  · cases paired
    rw [← List.map_uncurry_zip_eq_zipWith] at member
    obtain ⟨⟨target, source⟩, zipped, rfl⟩ := List.mem_map.mp member
    exact List.of_mem_zip zipped
  · split at paired
    · split at paired
      · cases paired
        obtain ⟨target, inside, rfl⟩ := List.mem_map.mp member
        exact ⟨inside, List.mem_singleton_self _⟩
      · cases paired
    · cases paired

namespace Scene

theorem plan_eq_ok {s : Scene} {ceiling : Nat} {targets sources : List Channel} {links : List Link}
    (planned : s.plan ceiling targets sources = .ok links) :
    ∃ pairs, Link.pair? targets sources = some pairs ∧ links = s.collapseLinks pairs := by
  rw [plan] at planned
  split at planned
  · cases planned
  · split at planned
    · cases planned
    · rename_i pairs paired
      exact ⟨pairs, paired, (Except.ok.inj planned).symm⟩

theorem forall₂_of_mapM {α β : Type} {f : α → Option β} {list : List α} {images : List β}
    (mapped : list.mapM f = some images) :
    List.Forall₂ (fun a b => f a = some b) list images := by
  induction list generalizing images with
  | nil =>
    cases mapped
    exact .nil
  | cons a rest inductionHypothesis =>
    simp only [List.mapM_cons, Option.bind_eq_bind, Option.bind_eq_some_iff, Option.pure_def,
      Option.some.injEq] at mapped
    obtain ⟨b, image, others, images, rfl⟩ := mapped
    exact .cons image (inductionHypothesis images)

/-- Channels that collapse are children of one compound, and they are all of its children in
order. -/
theorem collapse?_eq_some {s : Scene} {channels : List Channel} {plug : String}
    (collapsed : s.collapse? channels = some plug) :
    ∃ first rest, List.Forall₂ (fun channel strand => s.strand? channel = some strand) channels
        (first :: rest) ∧
      (∀ strand ∈ rest, strand.node = first.node ∧ strand.parent = first.parent) ∧
      s.children? first.node first.parent = some ((first :: rest).map (·.long)) ∧
      plug = Plug.join first.node first.parent := by
  rw [collapse?] at collapsed
  split at collapsed
  · rename_i first rest strands
    dsimp only at collapsed
    split at collapsed
    · rename_i conditions
      obtain ⟨together, _, listed⟩ := conditions
      cases collapsed
      refine ⟨first, rest, forall₂_of_mapM strands, ?_, listed, rfl⟩
      intro strand member
      have alike := List.all_eq_true.mp together strand member
      rwa [Bool.and_eq_true, beq_iff_eq, beq_iff_eq] at alike
    · cases collapsed
  · cases collapsed

/-- The links of a plan join given targets and sources, or else two compounds. -/
theorem mem_collapseLinks {s : Scene} {pairs : List Link} {link : Link}
    (member : link ∈ s.collapseLinks pairs) :
    link ∈ pairs ∨ ∃ target source, link = ⟨.plug target, .plug source⟩ ∧
      s.collapse? (pairs.map (·.target)) = some target ∧
      s.collapse? (pairs.map (·.source)) = some source := by
  rw [collapseLinks] at member
  split at member
  · rename_i target source collapsedTarget collapsedSource
    exact Or.inr ⟨target, source, List.mem_singleton.mp member, collapsedTarget, collapsedSource⟩
  · exact Or.inl member

end Scene

/-! ### Feeding a node -/

namespace Program

variable {R : Session → Session → Prop}

/-- Sets the mode of a node and wires its operands. -/
def fill (o : Options) (op : Operation) (node : String) (operands : List Operand)
    (channels : List (List Channel)) : Program Unit := do
  setMode o node op.mode
  feedAll o op node (widest channels) (feeds operands channels (op.slotGroups operands.length))

theorem build_eq (o : Options) (op : Operation) (operands : List Operand)
    (channels : List (List Channel)) :
    build o op operands channels = (do
      let node ← create op.nodeType (op.nodeName o operands)
      fill o op node operands channels
      pure (.node node (op.resultAttrs (widest channels)))) := by
  simp only [build, fill, bind_assoc]

theorem channels_mem_of_mem_feeds {operands : List Operand} {channels : List (List Channel)}
    {groups : List (List String)} {f : Feed} (member : f ∈ feeds operands channels groups) :
    f.channels ∈ channels := by
  unfold feeds at member
  rw [← List.map_uncurry_zip_eq_zipWith] at member
  obtain ⟨⟨⟨operand, cs⟩, group⟩, zipped, rfl⟩ := List.mem_map.mp member
  exact (List.of_mem_zip (List.of_mem_zip zipped).1).2

theorem Lasting.feedAll (lasting : Lasting R) {o : Options} {op : Operation} {node : String}
    {width : Nat} {all : List Feed}
    (wiring : ∀ slots : List String, ∀ f ∈ all,
      Respects R (Program.wire o (slots.map fun slot => .plug (Plug.join node slot)) f.channels)) :
    Respects R (Program.feedAll o op node width all) := by
  induction all with
  | nil => exact lasting.pure ()
  | cons f rest inductionHypothesis =>
    refine lasting.bind ?_ fun _ => inductionHypothesis ?_
    · rw [feed]
      split
      · exact lasting.throw _
      · exact wiring _ f List.mem_cons_self
    · intro slots later member
      exact wiring slots later (List.mem_cons_of_mem _ member)

/-- The slots of a node are fed with the number of its mode and with the channels of its
operands. -/
theorem Lasting.fill (lasting : Lasting R) {o : Options} {op : Operation} {node : String}
    {operands : List Operand} {channels : List (List Channel)}
    (wiring : ∀ (slots : List String) sources,
      (∃ mode, op.mode = some mode ∧ sources = [.ofNumber (Float.ofInt mode)]) ∨
        sources ∈ channels →
      Respects R (Program.wire o (slots.map fun slot => .plug (Plug.join node slot)) sources)) :
    Respects R (Program.fill o op node operands channels) := by
  refine lasting.bind ?_ fun _ => lasting.feedAll ?_
  · cases known : op.mode with
    | none => exact lasting.pure ()
    | some mode => exact wiring ["operation"] _ (Or.inl ⟨mode, known, rfl⟩)
  · intro slots f member
    exact wiring slots f.channels (Or.inr (channels_mem_of_mem_feeds member))

theorem Lasting.build (lasting : Lasting R) {o : Options} {op : Operation}
    {operands : List Operand} {channels : List (List Channel)}
    (creating : Respects R (create op.nodeType (op.nodeName o operands)))
    (filling : ∀ node, Respects R (Program.fill o op node operands channels)) :
    Respects R (Program.build o op operands channels) := by
  rw [build_eq]
  exact lasting.bind creating fun node => lasting.bind (filling node) fun _ => lasting.pure _

/-- Before the node is built, applying an operation only looks at the scene. -/
theorem Lasting.apply (lasting : Lasting R) {o : Options} {name : String} {operands : List Operand}
    (building : ∀ s op channels, Registry.builtin.lookup? name = some op →
      s.scene.unravelEach operands = .ok channels →
      R s (exec (Program.build o op operands channels) s).2) :
    Respects R (Program.apply o name operands) := by
  rw [Program.apply]
  split
  · exact lasting.throw _
  · rename_i op known
    split
    · refine lasting.look_bind ?_
      intro s channels taken
      exact building s op channels known taken
    · exact lasting.throw _

/-! ### Filling containers -/

theorem Lasting.exposeAll (lasting : Lasting R)
    (expose : ∀ container plug name, Respects R (Program.expose container plug name))
    (container : String) (publications : List (String × String)) :
    Respects R (Program.exposeAll container publications) := by
  induction publications with
  | nil => exact lasting.pure ()
  | cons publication rest inductionHypothesis =>
    exact lasting.bind (expose container _ _) fun _ => inductionHypothesis

/-- Filling a container is grouping nodes, publishing plugs and setting a note. -/
theorem Lasting.populate (lasting : Lasting R)
    (group : ∀ container nodes, Respects R (Program.group container nodes))
    (expose : ∀ container plug name, Respects R (Program.expose container plug name))
    (note : ∀ container text, Respects R (setNote container text)) (scope : ContainerScope) :
    Respects R (Program.populate scope) := by
  rw [Program.populate]
  split
  · exact lasting.pure ()
  · refine lasting.bind (fun s => lasting.refl s) fun s => ?_
    refine lasting.bind (group _ _) fun _ => ?_
    refine lasting.bind (fun s => lasting.refl s) fun scene => ?_
    refine lasting.bind (lasting.exposeAll expose _ _) fun _ => ?_
    split
    · exact note _ _
    · exact lasting.pure ()

end Program

end FormulaNet
