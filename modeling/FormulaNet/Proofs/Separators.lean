/-
This file proves that separators are numbered once and for all: each gets the
least number that its node has no separator of, and a later one gets a greater
number. No type of node has an attribute that is called like a separator, and
what users add are scalars; so the plug of a separator exists exactly if its
name is in use, and no attribute has two such names, which bounds the search.
Since plugs stay where they are whatever is done to the scene, every number up
to that of the last separator is taken ever after.
-/

import FormulaNet.Proofs.Holding
import FormulaNet.Proofs.NewAttribute
import FormulaNet.Proofs.Numbering
import FormulaNet.Proofs.Ready

namespace FormulaNet

/-! ### Names of separators -/

theorem toList_separatorName (k : Nat) :
    (separatorName k).toList = "channelBoxSeparator".toList ++ (toString k).toList :=
  String.toList_append

theorem separatorName_ne_empty (k : Nat) : separatorName k ≠ "" := by
  intro empty
  have letters := congrArg String.toList empty
  rw [toList_separatorName] at letters
  cases letters

/-- A character in the name of a separator is one of its letters or a digit. -/
theorem isAlphanum_of_mem_separatorName {k : Nat} {c : Char}
    (member : c ∈ (separatorName k).toList) : c.isAlphanum = true := by
  rw [toList_separatorName, List.mem_append] at member
  rcases member with letter | digit
  · have letters : "channelBoxSeparator".toList.all Char.isAlphanum = true := by decide
    exact List.all_eq_true.mp letters c letter
  · rw [Char.isAlphanum, Number.isDigit_of_mem_toString digit, Bool.or_true]

theorem separatorName_unmarked (k : Nat) :
    (separatorName k).toList.any Scene.isPathMark = false := by
  rw [List.any_eq_false]
  intro c member marked
  have plain := isAlphanum_of_mem_separatorName member
  simp only [Scene.isPathMark, Bool.or_eq_true, beq_iff_eq] at marked
  rcases marked with (rfl | rfl) | rfl <;> exact absurd plain (by decide)

/-- The name of a separator has no blanks to replace. -/
theorem attributeName_separatorName (k : Nat) :
    attributeName (separatorName k) = separatorName k := by
  have same : (separatorName k).toList.map (fun c => if c = ' ' then '_' else c) =
      (separatorName k).toList.map id := by
    refine List.map_congr_left fun c member => if_neg ?_
    rintro rfl
    exact absurd (isAlphanum_of_mem_separatorName member) (by decide)
  rw [attributeName, same, List.map_id, String.ofList_toList]

namespace Layout

/-- Whatever goes by the name of a separator is a scalar of that name, and goes by no other. -/
def SeparatorsAlone (layout : Layout) : Prop :=
  ∀ a ∈ layout, ∀ k, separatorName k ∈ a.names →
    ∃ default, a = .scalar (separatorName k) none default

theorem not_separator_of_mem_types : ∀ entry ∈ types, ∀ name ∈ names (message :: entry.2),
    "channelBoxSeparator".toList.isPrefixOf name.toList = false := by
  decide +kernel

/-- New nodes have no separators. -/
theorem separatorsAlone_ofType? {type : String} {layout : Layout}
    (known : ofType? type = some layout) : layout.SeparatorsAlone := by
  obtain ⟨entry, found, rfl⟩ := Option.map_eq_some_iff.mp known
  intro a member k named
  have other := not_separator_of_mem_types entry (List.mem_of_find?_eq_some found) _
    (mem_names member named)
  rw [toList_separatorName, List.isPrefixOf_iff_prefix.mpr (List.prefix_append _ _)] at other
  cases other

variable {layout : Layout}

theorem SeparatorsAlone.append_scalar (alone : layout.SeparatorsAlone) (name : String)
    (default : Float) : SeparatorsAlone (layout ++ [.scalar name none default]) := by
  intro a member k named
  rcases List.mem_append.mp member with old | new
  · exact alone a old k named
  · rw [List.mem_singleton.mp new] at named ⊢
    have same : separatorName k = name := List.mem_singleton.mp named
    exact ⟨default, by rw [same]⟩

/-- The plug of a separator exists exactly if its name is in use. -/
theorem SeparatorsAlone.find?_isSome_iff (alone : layout.SeparatorsAlone) (k : Nat) :
    (layout.find? (separatorName k)).isSome = true ↔ separatorName k ∈ layout.names := by
  constructor
  · intro there
    by_contra free
    rw [find?_eq_none free (separatorName_unmarked k)] at there
    cases there
  · intro used
    obtain ⟨a, member, named⟩ := List.mem_flatMap.mp used
    obtain ⟨default, rfl⟩ := alone a member k named
    have present : (layout.attribute? (separatorName k)).isSome = true :=
      List.find?_isSome.mpr ⟨_, member, (Attribute.answersTo_iff _ _).mpr List.mem_cons_self⟩
    obtain ⟨b, found⟩ := Option.isSome_iff_exists.mp present
    rw [find?, read?_unmarked (separatorName_unmarked k), Option.bind_some, locate?, found]
    rfl

end Layout

namespace Scene

variable {s : Scene} {node : String} {n : Node}

theorem Reachable.separatorsAlone (reachable : s.Reachable) :
    ∀ n ∈ s.nodes, n.layout.SeparatorsAlone :=
  reachable.forall_nodes (fun _ _ _ known => Layout.separatorsAlone_ofType? known)
    fun _ name default alone => alone.append_scalar name default

section Present

variable (reachable : s.Reachable) (found : s.node? node = some n)
include reachable found

theorem Reachable.has_separator_iff (k : Nat) :
    s.has (Plug.join node (separatorName k)) = true ↔ separatorName k ∈ n.layout.names := by
  obtain ⟨member, rfl⟩ := mem_of_node? found
  obtain ⟨filled, noDot⟩ := reachable.wellFormed.named n member
  rw [has, Plug.split?_join _ _ filled noDot (separatorName_ne_empty k),
    ← (reachable.separatorsAlone n member).find?_isSome_iff]
  dsimp only
  rw [locate?_eq, found]
  rfl

/-- Each separator that is there is an attribute of its own, so one more number is enough to find
one that is not. -/
theorem Reachable.search_freeSeparator :
    ∃ k ≤ s.attributeCount + 1, s.freeSeparator node = separatorName k ∧
      Search (fun j => s.has (Plug.join node (separatorName j))) 1 k k := by
  obtain ⟨member, _⟩ := mem_of_node? found
  let names := (List.range (s.attributeCount + 1)).map fun k => separatorName (k + 1)
  have more : ((s.nodes.flatMap (·.layout)).map (·.long)).length < names.length := by
    rw [List.length_map, List.length_map, List.length_range, attributeCount]
    exact Nat.lt_succ_self _
  have taken : ∀ name ∈ names, (!s.has (Plug.join node name)) = false →
      name ∈ (s.nodes.flatMap (·.layout)).map (·.long) := by
    intro name tried used
    obtain ⟨k, _, rfl⟩ := List.mem_map.mp tried
    have named := (reachable.has_separator_iff found (k + 1)).mp (by simpa using used)
    obtain ⟨a, inside, own⟩ := List.mem_flatMap.mp named
    obtain ⟨default, rfl⟩ := reachable.separatorsAlone n member a inside (k + 1) own
    exact List.mem_map.mpr ⟨_, List.mem_flatMap.mpr ⟨n, member, inside⟩, rfl⟩
  have free : (names.find? fun name => !s.has (Plug.join node name)).isSome = true :=
    find?_isSome_of_more (nodup_numbered "channelBoxSeparator" _) more taken
  obtain ⟨name, first⟩ := Option.isSome_iff_exists.mp free
  obtain ⟨k, bound, rfl, search⟩ := Search.of_find? first
  refine ⟨k, bound, ?_, search⟩
  rw [freeSeparator, first, Option.getD_some]

/-- A separator that is not there can be added. -/
theorem Reachable.addAttribute_separator {k : Nat}
    (free : s.has (Plug.join node (separatorName k)) = false) (default : Float) :
    s.addAttribute node (separatorName k) default =
      .ok (s.withAttribute node (.scalar (separatorName k) none default)) := by
  have unused : n.layout.isTaken (separatorName k) = false := by
    rw [← Bool.not_eq_true, Layout.isTaken_iff, ← reachable.has_separator_iff found, free]
    exact Bool.false_ne_true
  have valid : ¬(separatorName k = "" ∨ (separatorName k).toList.any isPathMark = true) := by
    rw [separatorName_unmarked]
    simp [separatorName_ne_empty]
  rw [addAttribute, if_neg valid, found]
  dsimp only
  rw [unused]
  rfl

end Present

end Scene

/-! ### Whatever happens to a scene -/

namespace Program

theorem evolves_populate (scope : ContainerScope) :
    Respects Session.Evolves (populate scope) :=
  Session.lasting_evolves.populate
    (fun container nodes => evolves_change _ (.group container nodes) fun _ => rfl)
    (fun container plug name => evolves_change _ (.expose container plug name) fun _ => rfl)
    (fun container text => evolves_change _ (.note container text) fun _ => rfl) scope

theorem evolves_openContainer (options : ContainerOptions) :
    Respects Session.Evolves (openContainer options) := by
  have lasting := Session.lasting_evolves
  refine lasting.bind (fun _ => Session.evolves_of_scene rfl) fun _ => ?_
  split
  · refine lasting.bind ?_ fun _ => lasting.pure _
    exact evolves_call _ _ (.createContainer options.name) fun _ => rfl
  · exact lasting.pure _

end Program

/-- Whatever happens changes the scene by changes only. -/
theorem Happening.evolves_program (o : Options) (happening : Happening) :
    Program.Respects Session.Evolves (happening.program o) := by
  have lasting := Session.lasting_evolves
  have closed (closing : Closing) (scope : ContainerScope) :
      Program.Respects Session.Evolves ((closing.step scope).program o) := by
    intro s
    rw [closing.exec_step]
    exact Closing.respects_filling lasting (Program.evolves_populate scope)
      (fun _ _ => Session.evolves_of_scene rfl) closing s
  match happening with
  | step (.act action) => exact (Program.covers_evolves o.force).action action fun _ _ => trivial
  | step (.arm fault) => exact fun _ => Session.evolves_of_scene rfl
  | step (.write change) => exact fun _ => ⟨[change], rfl⟩
  | step (.openContainer options) => exact lasting.wrap (Program.evolves_openContainer options)
  | step (.finishContainer scope) => exact closed .finish scope
  | step (.dropContainer scope) => exact closed .drop scope
  | step .abandonContainer => exact fun _ => Session.evolves_of_scene rfl
  | openTracer options => exact fun _ => Session.evolves_of_scene rfl
  | closeTracer options =>
    refine lasting.wrap fun s => Session.evolves_of_scene ?_
    exact (Session.Alike.closeTracer (s := s) ⟨rfl, rfl, rfl⟩ options).scene

theorem Desk.evolves_run (o : Options) (d : Desk) (moves : List Move) :
    d.session.Evolves (d.run o moves).session := by
  rw [session_run]
  exact Session.lasting_evolves.undergo (fun happening _ => happening.evolves_program o) d.session

/-! ### Adding separators -/

namespace Program

variable {s : Session} {r : Reference} {node : String} {n : Node}

section Present

variable (reachable : s.scene.Reachable) (targets : r.target? = some node)
  (found : s.scene.node? node = some n) {rounds k : Nat}
  (search : Search (fun j => s.scene.has (Plug.join node (separatorName j))) 1 rounds k)
include reachable targets found search

/-- The separator that is added is the one that a search ends with. -/
theorem exec_addSeparator (o : Options) :
    exec (addSeparator o r) s =
      ((exec (addAttribute node (separatorName k) separatorSpec) s).1.map fun _ =>
          .node node (.one (separatorName k)),
        (exec (addAttribute node (separatorName k) separatorSpec) s).2) := by
  have first : s.scene.freeSeparator node = separatorName k := by
    obtain ⟨m, _, first, same⟩ := reachable.search_freeSeparator found
    rw [first, same.isLeast.unique search.isLeast]
  have parsed : Reference.parse (Plug.join node (separatorName k)) =
      .node node (.one (separatorName k)) := by
    obtain ⟨member, rfl⟩ := Scene.mem_of_node? found
    obtain ⟨filled, noDot⟩ := reachable.wellFormed.named n member
    rw [Reference.parse, Plug.split?_join _ _ filled noDot (separatorName_ne_empty k)]
  have name := attributeName_separatorName k
  have missing : s.scene.has (Plug.join node (attributeName (separatorName k))) = false := by
    rw [name]
    exact search.isLeast.1.2
  have unset : separatorSpec.value = none := rfl
  have run := exec_addUserAttribute_of_not_has o missing unset
  rw [name, parsed] at run
  rw [addSeparator, owner, targets, exec_bind]
  show exec (do addUserAttribute o node ((← scene).freeSeparator node) separatorSpec) s = _
  rw [exec_bind, exec_scene]
  dsimp only
  rw [first, run]

/-- Unless a fault is armed, nothing keeps a separator from being added. -/
theorem exec_addSeparator_calm (o : Options) (calm : s.host.fault = none) :
    ∃ after, exec (addSeparator o r) s = (.ok (.node node (.one (separatorName k))), after) := by
  have adding := reachable.addAttribute_separator found search.isLeast.1.2 separatorSpec.default
  rw [exec_addSeparator reachable targets found search o, addAttribute,
    exec_change_record_calm _ _ _ calm adding]
  exact ⟨_, rfl⟩

/-- A separator that was added is all that is new in the scene. -/
theorem addSeparator_eq_ok {o : Options} {result : Reference} {after : Session}
    (done : exec (addSeparator o r) s = (.ok result, after)) :
    result = .node node (.one (separatorName k)) ∧
      after.scene = s.scene.withAttribute node (.scalar (separatorName k) none 0) := by
  have adding := reachable.addAttribute_separator found search.isLeast.1.2 separatorSpec.default
  rw [exec_addSeparator reachable targets found search o] at done
  rcases exec_addAttribute_cases node (separatorName k) separatorSpec s with
    ⟨e, fault, message, failed⟩ | ⟨scene, fault, changed, added⟩
  · rw [failed] at done
    cases done
  · rw [added] at done
    cases done
    cases adding.symm.trans changed
    exact ⟨rfl, rfl⟩

end Present

/-- On a node that is there, looking for a separator that is not comes to an end, with the least
number that is free. Unless a fault is armed the separator with that number is added, and if it is,
it is the one attribute that is new. Whatever happens then, the next separator of the node gets a
greater number. -/
theorem addSeparator_numbers_upward (o : Options) (s : Session) (reachable : s.scene.Reachable)
    (r : Reference) (node : String) (targets : r.target? = some node)
    (present : node ∈ s.scene.nodeNames) :
    ∃ rounds k,
      Search (fun j => s.scene.has (Plug.join node (separatorName j))) 1 rounds k ∧
      rounds ≤ s.scene.attributeCount + 1 ∧
      IsLeast {j | 1 ≤ j ∧ s.scene.has (Plug.join node (separatorName j)) = false} k ∧
      (s.host.fault = none → ∃ result after, exec (addSeparator o r) s = (.ok result, after)) ∧
      ∀ result after, exec (addSeparator o r) s = (.ok result, after) →
        result = .node node (.one (separatorName k)) ∧
          after.scene = s.scene.withAttribute node (.scalar (separatorName k) none 0) ∧
          ∀ (held : List Hold) (moves : List Move) (again : Reference) (next : Reference)
            (last : Session), again.target? = some node →
            exec (addSeparator o again) (Desk.run o ⟨after, held⟩ moves).session =
              (.ok next, last) →
            ∃ m, k < m ∧ next = .node node (.one (separatorName m)) := by
  obtain ⟨n, found⟩ := Option.isSome_iff_exists.mp ((s.scene.node?_isSome_iff node).mpr present)
  obtain ⟨k, bound, _, search⟩ := reachable.search_freeSeparator found
  refine ⟨k, k, search, bound, search.isLeast, fun calm => ?_, fun result after done => ?_⟩
  · exact ⟨_, exec_addSeparator_calm reachable targets found search o calm⟩
  · obtain ⟨same, scene⟩ := addSeparator_eq_ok reachable targets found search done
    refine ⟨same, scene, fun held moves again next last targetsAgain doneAgain => ?_⟩
    have adding := reachable.addAttribute_separator found search.isLeast.1.2 0
    rw [← scene] at adding
    have evolved : Session.Evolves s after :=
      Session.evolves_of_apply (.addAttribute node (separatorName k) 0) adding
    have evolves := Desk.evolves_run o ⟨after, held⟩ moves
    have evolvesAll := Session.lasting_evolves.trans evolved evolves
    have reachableLater := evolvesAll.reachable reachable
    obtain ⟨later, foundLater⟩ := Option.isSome_iff_exists.mp
      ((Scene.node?_isSome_iff _ node).mpr (evolvesAll.grows.node present))
    obtain ⟨m, _, _, searchLater⟩ := reachableLater.search_freeSeparator foundLater
    obtain ⟨sameLater, _⟩ :=
      addSeparator_eq_ok reachableLater targetsAgain foundLater searchLater doneAgain
    -- the separator is there from now on, and so are those that were there before
    have there := Scene.has_of_place? (reachable.wellFormed.place?_new adding)
    have less := search.lt_of_taken (fun _ used => evolvesAll.grows.has used)
      (evolves.grows.has there) searchLater
    exact ⟨m, less, sameLater⟩

/-- A transform has a second separator already, and gets a third one under its plain name between
two calls. -/
theorem addSeparator_numbers_upward_between :
    let r : Reference := .node "pCube1" .bare
    let between : List Move := [.act (.addUserAttribute "pCube1" "channelBoxSeparator3" {})]
    ∃ (s after last : Session) (k m : Nat), s.scene.Reachable ∧
      s.scene.has "pCube1.channelBoxSeparator2" = true ∧
      exec (addSeparator .default r) s = (.ok (.node "pCube1" (.one (separatorName k))), after) ∧
      exec (addSeparator .default r) (Desk.run .default ⟨after, []⟩ between).session =
        (.ok (.node "pCube1" (.one (separatorName m))), last) ∧ k < m := by
  intro r between
  let scene : Scene := Scene.empty.run
    [.addTransform "pCube1", .addAttribute "pCube1" "channelBoxSeparator2" 0]
  have second : scene.has "pCube1.channelBoxSeparator2" = true := by decide +kernel
  have present : "pCube1" ∈ scene.nodeNames := by decide +kernel
  have runs : (exec (addSeparator .default r) (Desk.run .default
      ⟨(exec (addSeparator .default r) (.start (.ofScene scene ""))).2, []⟩
      between).session).1.isOk = true := by
    decide +kernel
  obtain ⟨s, same, calm, runsOn⟩ : ∃ s : Session, s.scene = scene ∧ s.host.fault = none ∧
      (exec (addSeparator .default r) (Desk.run .default
        ⟨(exec (addSeparator .default r) s).2, []⟩ between).session).1.isOk = true :=
    ⟨_, rfl, rfl, runs⟩
  obtain ⟨_, k, _, _, _, succeeds, adds⟩ := addSeparator_numbers_upward .default s
    (same ▸ ⟨_, rfl⟩) r "pCube1" rfl (same ▸ present)
  obtain ⟨result, after, done⟩ := succeeds calm
  rw [done] at runsOn
  obtain ⟨rfl, _, upward⟩ := adds result after done
  cases doneAgain : exec (addSeparator .default r)
      (Desk.run .default ⟨after, []⟩ between).session with
  | mk outcome last =>
    rw [doneAgain] at runsOn
    cases outcome with
    | error e => cases runsOn
    | ok next =>
      obtain ⟨m, less, rfl⟩ := upward [] between r next last rfl doneAgain
      exact ⟨s, after, last, k, m, same ▸ ⟨_, rfl⟩, same ▸ second, done, doneAgain, less⟩

end Program

end FormulaNet
