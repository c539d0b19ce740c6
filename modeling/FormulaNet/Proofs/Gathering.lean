/-
This file follows a session while a container scope is open. Whatever happens in
it that opens or closes no scope, the recorder collects the nodes that the
session created, which the journal tells as well: each of them once, in order,
none of them there before, all of them there afterwards. Writes past the session
are not collected. The record of the scope's container stays, and stays as it is
unless a write addresses it; and no fault comes to wait for the calls that will
fill the container, unless it was armed for them.
-/

import FormulaNet.Proofs.Erasure
import FormulaNet.Proofs.Frame
import FormulaNet.Proofs.Replay

namespace FormulaNet

namespace Scene

theorem grows_create {s after : Scene} {type name node : String}
    (made : s.create type name = .ok (node, after)) : Grows s after := by
  obtain ⟨layout, _, rfl⟩ := create_withNode made
  exact s.grows_withNode _

theorem grows_addAttribute {s after : Scene} {node name : String} {default : Float}
    (done : s.addAttribute node name default = .ok after) : Grows s after := by
  obtain ⟨_, _, n, found, free, rfl⟩ := addAttribute_eq_ok done
  exact grows_withAttribute default found free

/-- Every change lets the scene grow. -/
theorem grows_apply {s changed : Scene} {change : Change} (done : change.apply s = .ok changed) :
    Grows s changed := by
  cases change with
  | addTransform name =>
    obtain ⟨assigned, made⟩ := pair_of_map_snd done
    exact grows_create (addTransform_eq_ok made)
  | addAttribute node name default => exact grows_addAttribute done
  | set plug value =>
    obtain ⟨_, _, _, _, rfl⟩ := set_eq_ok done
    exact .of_nodes rfl
  | connect source dest force =>
    obtain ⟨_, _, _, _, _, _, _, _, _, rfl⟩ := connect_eq_ok done
    exact .of_nodes rfl
  | create type name =>
    obtain ⟨assigned, made⟩ := pair_of_map_snd done
    exact grows_create made
  | createContainer name =>
    obtain ⟨assigned, made⟩ := pair_of_map_snd done
    obtain ⟨created, creating, rfl⟩ := createContainer_eq_ok made
    exact (grows_create creating).trans (.of_nodes rfl)
  | group container nodes =>
    obtain ⟨_, _, _, rfl⟩ := group_eq_ok done
    exact .of_nodes rfl
  | expose container plug name =>
    obtain ⟨_, _, _, rfl⟩ := expose_eq_ok done
    exact .of_nodes rfl
  | note container text =>
    obtain ⟨_, _, rfl⟩ := editContainer_eq_ok done
    exact .of_nodes rfl

theorem grows_after (s : Scene) (change : Change) : Grows s (s.after change) := by
  unfold after
  split
  · rename_i done
    exact grows_apply done
  · exact .refl s

/-- Nodes that are new in a scene that has grown. -/
structure Adds (before after : Scene) (nodes : List String) : Prop where
  grows : Grows before after
  fresh : ∀ node ∈ nodes, node ∉ before.nodeNames
  distinct : nodes.Nodup
  there : ∀ node ∈ nodes, node ∈ after.nodeNames

namespace Adds

theorem none {before after : Scene} (grows : Grows before after) : Adds before after [] where
  grows := grows
  fresh := by simp
  distinct := List.nodup_nil
  there := by simp

theorem append {before between after : Scene} {first second : List String}
    (early : Adds before between first) (late : Adds between after second) :
    Adds before after (first ++ second) where
  grows := early.grows.trans late.grows
  fresh node member := by
    rcases List.mem_append.mp member with old | new
    · exact early.fresh node old
    · exact fun there => late.fresh node new (early.grows.node there)
  distinct := by
    refine List.nodup_append.mpr ⟨early.distinct, late.distinct, ?_⟩
    rintro node inFirst _ inSecond rfl
    exact late.fresh node inSecond (early.there node inFirst)
  there node member := by
    rcases List.mem_append.mp member with old | new
    · exact late.grows.node (early.there node old)
    · exact late.there node new

end Adds

theorem adds_create {s after : Scene} {type name node : String}
    (made : s.create type name = .ok (node, after)) : Adds s after [node] where
  grows := grows_create made
  fresh := by simpa using (create_name made).1
  distinct := List.nodup_singleton node
  there := by
    obtain ⟨layout, _, rfl⟩ := create_withNode made
    simp [withNode, nodeNames]

end Scene

/-! ### Faults -/

/-- The kinds of calls that fill a container. -/
def Call.Kind.fills : Call.Kind → Bool
  | group | expose | note => true
  | _ => false

/-- Whether a fault leaves alone the calls that fill a container. -/
def Fault.spares (fault : Option Fault) : Bool := fault.all fun f => !f.kind.fills

theorem Fault.spares_meet {fault rest : Option Fault} {call : Call}
    (spared : Fault.spares fault = true) (met : Fault.meet call fault = .waits rest) :
    Fault.spares rest = true := by
  unfold Fault.meet at met
  split at met
  · cases met
    exact spared
  · split at met
    · cases met
      exact spared
    · split at met
      · cases met
      · cases met
        exact spared

/-- A call arms no fault. -/
theorem Program.spares_call {α : Type} (c : Call) (report : α → Outcome)
    (change : Scene → Except SceneError (α × Scene)) {s : Session}
    (spared : Fault.spares s.host.fault = true) :
    Fault.spares (exec (call c report change) s).2.host.fault = true := by
  rw [exec_call, Host.take]
  cases met : Fault.meet c s.host.fault with
  | strikes message => rfl
  | waits rest =>
    dsimp only
    cases change s.host.scene <;> exact Fault.spares_meet spared met

/-! ### Actions -/

/-- The session goes on under the same scopes: what it creates is in its journal, and is collected
if a scope is open. -/
structure Session.Gathers (s after : Session) : Prop where
  scopes : after.recorder.scopes = s.recorder.scopes
  spares : Fault.spares s.host.fault = true → Fault.spares after.host.fault = true
  created : ∃ entries, after.host.journal = s.host.journal ++ entries ∧
    s.scene.Adds after.scene (createdNodes entries) ∧
    (0 < s.recorder.scopes →
      after.recorder.collected = s.recorder.collected ++ createdNodes entries)

/-- The session goes on and leaves all containers alone. -/
structure Session.Works (s after : Session) : Prop extends Session.Gathers s after where
  containers : after.scene.containers = s.scene.containers

namespace Session

/-- The journal has no new creations, and nothing new is collected. -/
theorem gathers_of_same {s after : Session} (journal : after.host.journal = s.host.journal)
    (spares : Fault.spares s.host.fault = true → Fault.spares after.host.fault = true)
    (grows : s.scene.Grows after.scene) (scopes : after.recorder.scopes = s.recorder.scopes)
    (collected : after.recorder.collected = s.recorder.collected) : Gathers s after where
  scopes := scopes
  spares := spares
  created := ⟨[], by simp [journal], .none grows, by simp [collected, createdNodes]⟩

theorem lasting_gathers : Program.Lasting Gathers where
  refl s := gathers_of_same rfl id (.refl _) rfl rfl
  trans := by
    rintro s t u ⟨scopes, spares, entries, journal, adds, collects⟩
      ⟨scopesLater, sparesLater, later, journalLater, addsLater, collectsLater⟩
    have joined : createdNodes (entries ++ later) = createdNodes entries ++ createdNodes later :=
      List.filterMap_append
    refine ⟨scopesLater.trans scopes, fun spared => sparesLater (spares spared), entries ++ later,
      ?_, ?_, ?_⟩
    · rw [journalLater, journal, List.append_assoc]
    · rw [joined]
      exact adds.append addsLater
    · intro isOpen
      -- The first part has left the scope open for the second.
      rw [collectsLater (scopes ▸ isOpen), collects isOpen, joined, List.append_assoc]

theorem lasting_works : Program.Lasting Works where
  refl s := ⟨lasting_gathers.refl s, rfl⟩
  trans first second :=
    ⟨lasting_gathers.trans first.toGathers second.toGathers,
      second.containers.trans first.containers⟩

/-- A call that is not carried out creates nothing. -/
theorem works_refused (s : Session) (call : Call) {fault : Option Fault} (message : String)
    (spares : Fault.spares s.host.fault = true → Fault.spares fault = true) :
    Works s (s.refused call fault message) := by
  have none : createdNodes [⟨call, .failed message⟩] = [] := by
    cases call <;> rfl
  refine ⟨⟨rfl, spares, [⟨call, .failed message⟩], rfl, ?_, fun _ => ?_⟩, rfl⟩
  · rw [none]
    exact .none (.refl _)
  · rw [none, List.append_nil]
    rfl

end Session

namespace Program

/-- A call that creates no node and leaves containers alone. -/
theorem works_call {α : Type} {c : Call} {report : α → Outcome}
    {change : Scene → Except SceneError (α × Scene)}
    (plain : ∀ outcome, JournalEntry.created? ⟨c, outcome⟩ = none)
    (kept : ∀ scene a changed, change scene = .ok (a, changed) →
      scene.Grows changed ∧ changed.containers = scene.containers) :
    Respects Session.Works (call c report change) := by
  intro s
  have spares := spares_call c report change (s := s)
  rcases exec_call_cases c report change s with
    ⟨e, fault, message, run⟩ | ⟨a, scene, fault, done, run⟩
  · rw [run] at spares ⊢
    exact s.works_refused c message spares
  · rw [run] at spares ⊢
    obtain ⟨grows, containers⟩ := kept _ a scene done
    have none : createdNodes [⟨c, report a⟩] = [] := by
      simp [createdNodes, plain]
    refine ⟨⟨rfl, spares, [⟨c, report a⟩], rfl, ?_, fun _ => ?_⟩, containers⟩
    · rw [none]
      exact .none grows
    · rw [none, List.append_nil]
      rfl

theorem works_change {c : Call} {edit : Scene → Except SceneError Scene}
    (plain : ∀ outcome, JournalEntry.created? ⟨c, outcome⟩ = none)
    (kept : ∀ scene changed, edit scene = .ok changed →
      scene.Grows changed ∧ changed.containers = scene.containers) :
    Respects Session.Works (change c edit) := by
  refine works_call plain fun scene _ changed done => kept scene changed ?_
  cases edited : edit scene with
  | error e =>
    rw [edited] at done
    cases done
  | ok final =>
    rw [edited] at done
    cases done
    rfl

theorem works_editRecorder {edit : Recorder → Recorder} (scopes : ∀ r, (edit r).scopes = r.scopes)
    (collected : ∀ r, (edit r).collected = r.collected) :
    Respects Session.Works (editRecorder edit) :=
  fun _ => ⟨Session.gathers_of_same rfl id (.refl _) (scopes _) (collected _), rfl⟩

theorem works_record (event : Trace.Event) : Respects Session.Works (record event) :=
  works_editRecorder (fun r => r.scopes_record event) fun r => r.collected_record event

/-- A node that is created is in the journal, and is collected if a scope is open. -/
theorem works_create (type name : String) : Respects Session.Works (create type name) := by
  intro s
  rw [create, exec_bind, exec_get]
  dsimp only
  rw [exec_bind]
  have spares := spares_call (.create type name) .made
    (fun scene => scene.create type (s.host.namePrefix ++ name)) (s := s)
  rcases exec_call_cases (.create type name) .made
      (fun scene => scene.create type (s.host.namePrefix ++ name)) s with
    ⟨e, fault, message, run⟩ | ⟨node, scene, fault, made, run⟩
  · rw [run] at spares ⊢
    exact s.works_refused _ message spares
  · rw [run] at spares ⊢
    refine ⟨⟨?_, spares, [⟨.create type name, .made node⟩], rfl, Scene.adds_create made, ?_⟩, ?_⟩
    · show ((s.recorder.collect node).record (.create node type)).scopes = s.recorder.scopes
      simp
    · intro isOpen
      show ((s.recorder.collect node).record (.create node type)).collected =
        s.recorder.collected ++ [node]
      rw [Recorder.collected_record, Recorder.collect, if_pos isOpen]
    · obtain ⟨layout, _, rfl⟩ := Scene.create_withNode made
      rfl

/-- Whatever an action creates is in the journal and is collected, and it leaves containers
alone. -/
theorem covers_works (force : Bool) : Covers force (fun _ => True) Session.Works where
  toLasting := Session.lasting_works
  create type name _ := works_create type name
  setPlug plug value expression _ := by
    refine Session.lasting_works.bind (works_change (fun _ => rfl) fun scene changed done => ?_)
      fun _ => works_record _
    obtain ⟨_, _, _, _, rfl⟩ := Scene.set_eq_ok done
    exact ⟨.of_nodes rfl, rfl⟩
  connect source dest := by
    refine Session.lasting_works.bind (works_change (fun _ => rfl) fun scene changed done => ?_)
      fun _ => works_record _
    obtain ⟨_, _, _, _, _, _, _, _, _, rfl⟩ := Scene.connect_eq_ok done
    exact ⟨.of_nodes rfl, rfl⟩
  addAttribute node name spec := by
    refine Session.lasting_works.bind (works_change (fun _ => rfl) fun scene changed done => ?_)
      fun _ => works_record _
    refine ⟨Scene.grows_addAttribute done, ?_⟩
    obtain ⟨_, _, _, _, _, rfl⟩ := Scene.addAttribute_eq_ok done
    rfl
  readPlug plug := by
    refine Respects.scene_bind fun s => ?_
    split
    · refine Session.lasting_works.bind (works_call (fun _ => rfl) fun scene _ changed done => ?_)
        (fun _ => ?_) s
      · cases read : scene.read plug with
        | error e =>
          rw [read] at done
          cases done
        | ok payload =>
          rw [read] at done
          cases done
          exact ⟨.refl _, rfl⟩
      · refine Session.lasting_works.bind (fun _ => Session.lasting_works.refl _) fun _ => ?_
        exact Session.lasting_works.bind (works_record _) fun _ => Session.lasting_works.pure _
    · exact Session.lasting_works.throw _ s
  warn _ s := ⟨Session.gathers_of_same rfl id (.refl _) rfl rfl, rfl⟩

end Program

/-! ### Records of containers -/

namespace Scene

/-- The container that a change addresses. -/
def Change.container? : Change → Option String
  | group container _ => some container
  | expose container _ _ => some container
  | note container _ => some container
  | _ => none

/-- A change leaves the records of containers alone, or replaces one of them: that of the container
that it addresses, or of a new one. -/
theorem containers_after (s : Scene) (change : Change) :
    (s.after change).containers = s.containers ∨
      ∃ container record, (s.after change).containers = s.containers.insert container record ∧
        (change.container? = some container ∨ container ∉ s.nodeNames) := by
  unfold after
  split
  · rename_i changed done
    cases change with
    | addTransform name =>
      obtain ⟨assigned, made⟩ := pair_of_map_snd done
      obtain ⟨_, _, rfl⟩ := create_withNode (addTransform_eq_ok made)
      exact Or.inl rfl
    | addAttribute node name default =>
      obtain ⟨_, _, _, _, _, rfl⟩ := addAttribute_eq_ok done
      exact Or.inl rfl
    | set plug value =>
      obtain ⟨_, _, _, _, rfl⟩ := set_eq_ok done
      exact Or.inl rfl
    | connect source dest force =>
      obtain ⟨_, _, _, _, _, _, _, _, _, rfl⟩ := connect_eq_ok done
      exact Or.inl rfl
    | create type name =>
      obtain ⟨assigned, made⟩ := pair_of_map_snd done
      obtain ⟨_, _, rfl⟩ := create_withNode made
      exact Or.inl rfl
    | createContainer name =>
      obtain ⟨assigned, made⟩ := pair_of_map_snd done
      obtain ⟨created, creating, rfl⟩ := createContainer_eq_ok made
      have fresh := (create_name creating).1
      obtain ⟨_, _, rfl⟩ := create_withNode creating
      exact Or.inr ⟨assigned, _, rfl, Or.inr fresh⟩
    | group container nodes =>
      obtain ⟨_, _, _, rfl⟩ := group_eq_ok done
      exact Or.inr ⟨container, _, rfl, Or.inl rfl⟩
    | expose container plug name =>
      obtain ⟨_, _, _, rfl⟩ := expose_eq_ok done
      exact Or.inr ⟨container, _, rfl, Or.inl rfl⟩
    | note container text =>
      obtain ⟨_, _, rfl⟩ := editContainer_eq_ok done
      exact Or.inr ⟨container, _, rfl, Or.inl rfl⟩
  · exact Or.inl rfl

/-- No change takes the record of a container away. -/
theorem isSome_record_after {s : Scene} {container : String}
    (known : (s.containers.find? container).isSome = true) (change : Change) :
    ((s.after change).containers.find? container).isSome = true := by
  rcases s.containers_after change with same | ⟨other, record, inserted, _⟩
  · rwa [same]
  · rw [inserted]
    by_cases equal : container = other
    · simp [equal]
    · rwa [Table.find?_insert_other _ equal]

/-- A change that does not address a container leaves its record alone. -/
theorem record_after {s : Scene} {container : String} (there : container ∈ s.nodeNames)
    {change : Change} (other : change.container? ≠ some container) :
    (s.after change).containers.find? container = s.containers.find? container := by
  rcases s.containers_after change with same | ⟨owner, record, inserted, addressed | fresh⟩
  · rw [same]
  · rw [inserted, Table.find?_insert_other]
    rintro rfl
    exact other addressed
  · rw [inserted, Table.find?_insert_other]
    rintro rfl
    exact fresh there

end Scene

/-! ### While a scope is open -/

namespace Happening

/-- Whether something neither opens nor closes a container scope, nor arms a fault for the calls
that fill a container. -/
def isInside : Happening → Bool
  | step (.act _) => true
  | step (.arm fault) => Fault.spares fault
  | step (.write _) => true
  | step _ => false
  | openTracer _ => true
  | closeTracer _ => true

/-- The container that is written to past the session. -/
def container? : Happening → Option String
  | step (.write change) => change.container?
  | _ => none

theorem gathers_perform (o : Options) (s : Session) {happening : Happening}
    (inside : happening.isInside = true) : s.Gathers (happening.perform o s) := by
  have alike {after : Session} (same : after.Alike s) : s.Gathers after := by
    refine Session.gathers_of_same (by rw [same.host]) (fun spared => ?_) ?_ same.scopes
      same.collected
    · rwa [same.host]
    · rw [same.scene]
      exact .refl _
  match happening with
  | step (.act action) =>
    exact ((Program.covers_works o.force).action action (fun _ _ => trivial) s).toGathers
  | step (.arm fault) => exact Session.gathers_of_same rfl (fun _ => inside) (.refl _) rfl rfl
  | step (.write change) =>
    exact Session.gathers_of_same rfl id (s.scene.grows_after change) rfl rfl
  | openTracer options =>
    rw [perform_openTracer]
    exact alike (Session.Alike.openTracer ⟨rfl, rfl, rfl⟩ options)
  | closeTracer options =>
    rw [perform_closeTracer]
    exact alike (Session.Alike.closeTracer ⟨rfl, rfl, rfl⟩ options)

/-- What happens inside a scope changes the scene by changes that leave containers alone, or by a
write. -/
theorem scene_perform (o : Options) (s : Session) {happening : Happening}
    (inside : happening.isInside = true) :
    (s.Evolves (happening.perform o s) ∧
      (happening.perform o s).scene.containers = s.scene.containers) ∨
    ∃ change, happening.container? = change.container? ∧
      (happening.perform o s).scene = s.scene.after change := by
  match happening with
  | step (.act action) =>
    exact Or.inl ⟨(Program.covers_evolves o.force).action action (fun _ _ => trivial) s,
      ((Program.covers_works o.force).action action (fun _ _ => trivial) s).containers⟩
  | step (.arm fault) => exact Or.inl ⟨Session.evolves_of_scene rfl, rfl⟩
  | step (.write change) => exact Or.inr ⟨change, rfl, rfl⟩
  | openTracer options => exact Or.inl ⟨Session.evolves_of_scene rfl, rfl⟩
  | closeTracer options =>
    rw [perform_closeTracer]
    have same := (Session.Alike.closeTracer (s := s) ⟨rfl, rfl, rfl⟩ options).scene
    exact Or.inl ⟨Session.evolves_of_scene same, congrArg Scene.containers same⟩

end Happening

namespace Session

/-- A session goes on inside its scope: containers keep their records, unchanged unless they are
addressed. -/
structure Tends (addressed : String → Prop) (s after : Session) : Prop where
  evolves : s.Evolves after
  gathers : s.Gathers after
  known : ∀ container, (s.scene.containers.find? container).isSome = true →
    (after.scene.containers.find? container).isSome = true
  same : ∀ container ∈ s.scene.nodeNames, ¬ addressed container →
    after.scene.containers.find? container = s.scene.containers.find? container

theorem lasting_tends (addressed : String → Prop) : Program.Lasting (Tends addressed) where
  refl s := ⟨lasting_evolves.refl s, lasting_gathers.refl s, fun _ => id, fun _ _ _ => rfl⟩
  trans first second := by
    refine ⟨lasting_evolves.trans first.evolves second.evolves,
      lasting_gathers.trans first.gathers second.gathers,
      fun container known => second.known container (first.known container known), ?_⟩
    intro container there free
    obtain ⟨_, _, adds, _⟩ := first.gathers.created
    rw [second.same container (adds.grows.node there) free, first.same container there free]

theorem tends_perform (o : Options) (s : Session) {addressed : String → Prop}
    {happening : Happening} (inside : happening.isInside = true)
    (addresses : ∀ container, happening.container? = some container → addressed container) :
    Tends addressed s (happening.perform o s) := by
  have gathers := happening.gathers_perform o s inside
  rcases happening.scene_perform o s inside with
    ⟨evolves, containers⟩ | ⟨change, addressing, written⟩
  · refine ⟨evolves, gathers, fun container known => ?_, fun container _ _ => ?_⟩
    · rwa [containers]
    · rw [containers]
  · refine ⟨⟨[change], written⟩, gathers, fun container known => ?_, fun container there free => ?_⟩
    · rw [written]
      exact Scene.isSome_record_after known change
    · rw [written]
      refine Scene.record_after there fun addressedHere => ?_
      exact free (addresses container (addressing.trans addressedHere))

theorem tends_undergo (o : Options) (s : Session) (addressed : String → Prop)
    (happenings : List Happening)
    (inside : ∀ happening ∈ happenings, happening.isInside = true)
    (addresses : ∀ happening ∈ happenings, ∀ container,
      happening.container? = some container → addressed container) :
    Tends addressed s (s.undergo o happenings) := by
  refine (lasting_tends addressed).undergo (fun happening member t => ?_) s
  exact t.tends_perform o (inside happening member) (addresses happening member)

end Session

end FormulaNet
