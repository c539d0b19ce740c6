/-
This file says what each change of a scene does, and what all of them keep. A
change that is carried out gives the scene with one field replaced; the lemmas
here name the conditions it was carried out under and the new field. Whatever
the change, the scene only grows: a plug that designated a place designates that
place afterwards, and a node keeps its type. A new node gets a name that was not
in use, because there is always one candidate more than there are nodes.
-/

import FormulaNet.Proofs.Place

namespace FormulaNet.Scene

/-! ### Nodes and places -/

theorem node?_isSome_iff (s : Scene) (name : String) :
    (s.node? name).isSome = true ↔ name ∈ s.nodeNames := by
  rw [node?, List.find?_isSome, nodeNames, List.mem_map]
  simp only [beq_iff_eq]

theorem hasNode_iff (s : Scene) (name : String) : s.hasNode name = true ↔ name ∈ s.nodeNames :=
  s.node?_isSome_iff name

theorem mem_of_node? {s : Scene} {name : String} {n : Node} (found : s.node? name = some n) :
    n ∈ s.nodes ∧ n.name = name :=
  ⟨List.mem_of_find?_eq_some found,
    beq_iff_eq.mp (List.find?_some (p := fun m : Node => m.name == name) found)⟩

theorem locate?_eq (s : Scene) (node attr : String) :
    s.locate? node attr = (s.node? node).bind fun n => n.layout.find? attr := by
  rw [locate?]
  cases s.node? node <;> cases read : AttrPath.read? attr <;> simp [Layout.find?, read]

/-- A plug designates the place that its path designates on its node. -/
theorem place?_eq_some_iff (s : Scene) (plug node : String) (place : Place) :
    s.place? plug = some (node, place) ↔
      ∃ attr n, Plug.split? plug = some (node, attr) ∧ s.node? node = some n ∧
        n.layout.find? attr = some place := by
  constructor
  · intro found
    rw [place?] at found
    split at found
    · rename_i owner attr split
      obtain ⟨place', located, equal⟩ := Option.map_eq_some_iff.mp found
      obtain ⟨rfl, rfl⟩ := Prod.mk.inj equal
      rw [locate?_eq] at located
      obtain ⟨n, foundNode, foundPlace⟩ := Option.bind_eq_some_iff.mp located
      exact ⟨attr, n, split, foundNode, foundPlace⟩
    · cases found
  · rintro ⟨attr, n, split, foundNode, foundPlace⟩
    simp only [place?, split, locate?_eq, foundNode, Option.bind_some, foundPlace, Option.map_some]

theorem placeOf_eq_ok_iff (s : Scene) (plug : String) (found : String × Place) :
    s.placeOf plug = .ok found ↔ s.place? plug = some found := by
  rw [placeOf, place?]
  cases Plug.split? plug with
  | none => simp
  | some pair =>
    obtain ⟨node, attr⟩ := pair
    cases located : s.locate? node attr <;> simp [located]

theorem has_of_place? {s : Scene} {plug : String} {found : String × Place}
    (there : s.place? plug = some found) : s.has plug = true := by
  rw [place?] at there
  rw [has]
  split at there
  · rename_i node attr split
    obtain ⟨place, located, _⟩ := Option.map_eq_some_iff.mp there
    simp [located]
  · cases there

/-- A text that exists is a plug that designates a place, or the name of a node. -/
theorem has_iff (s : Scene) (path : String) :
    s.has path = true ↔
      (s.place? path).isSome = true ∨ (Plug.split? path = none ∧ path ∈ s.nodeNames) := by
  rw [has, place?]
  cases Plug.split? path with
  | none => simp [hasNode_iff]
  | some pair => simp

/-! ### Growing -/

/-- What every change keeps: plugs keep their places, nodes their types. -/
structure Grows (before after : Scene) : Prop where
  places : ∀ plug found, before.place? plug = some found → after.place? plug = some found
  types : ∀ node type, before.typeOf? node = some type → after.typeOf? node = some type

namespace Grows

theorem refl (s : Scene) : Grows s s := ⟨fun _ _ found => found, fun _ _ typed => typed⟩

theorem trans {first second third : Scene} (early : Grows first second)
    (late : Grows second third) : Grows first third :=
  ⟨fun plug found there => late.places plug found (early.places plug found there),
    fun node type typed => late.types node type (early.types node type typed)⟩

/-- Scenes with the same nodes have the same places. -/
theorem of_nodes {before after : Scene} (same : after.nodes = before.nodes) :
    Grows before after := by
  have nodes : ∀ name, after.node? name = before.node? name := by
    intro name
    rw [node?, node?, same]
  refine ⟨?_, ?_⟩
  · rintro plug ⟨node, place⟩ there
    rw [place?_eq_some_iff] at there ⊢
    simpa only [nodes] using there
  · intro node type typed
    rwa [typeOf?, nodes]

variable {before after : Scene} (grows : Grows before after)
include grows

theorem canonical {plug path : String} (known : before.canonical? plug = some path) :
    after.canonical? plug = some path := by
  obtain ⟨found, there, rfl⟩ := Option.map_eq_some_iff.mp known
  rw [canonical?, grows.places plug found there]
  rfl

theorem node {name : String} (member : name ∈ before.nodeNames) : name ∈ after.nodeNames := by
  obtain ⟨n, found⟩ := Option.isSome_iff_exists.mp ((before.node?_isSome_iff name).mpr member)
  have typed := grows.types name n.type (by rw [typeOf?, found]; rfl)
  obtain ⟨m, found', _⟩ := Option.map_eq_some_iff.mp typed
  exact (after.node?_isSome_iff name).mp (Option.isSome_iff_exists.mpr ⟨m, found'⟩)

theorem has {path : String} (there : before.has path = true) : after.has path = true := by
  rw [has_iff] at there ⊢
  rcases there with isPlug | ⟨noPlug, member⟩
  · obtain ⟨found, place⟩ := Option.isSome_iff_exists.mp isPlug
    exact Or.inl (Option.isSome_iff_exists.mpr ⟨found, grows.places path found place⟩)
  · exact Or.inr ⟨noPlug, grows.node member⟩

end Grows

/-! ### New names -/

/-- The names tried for a new node, in order. -/
def candidates (s : Scene) (name : String) : List String :=
  name :: (List.range s.nodes.length).map fun k => name ++ toString (k + 1)

theorem uniqueName_eq (s : Scene) (name : String) :
    s.uniqueName name =
      ((s.candidates name).find? fun candidate => !s.hasNode candidate).getD name :=
  rfl

theorem append_toString_injective (name : String) :
    Function.Injective fun k : Nat => name ++ toString k := by
  intro first second equal
  have chars := congrArg String.toList equal
  simp only [String.toList_append, List.append_cancel_left_eq] at chars
  have values := congrArg Number.digitsValue chars
  rwa [Number.digitsValue_toString, Number.digitsValue_toString] at values

theorem nodup_numbered (name : String) (bound : Nat) :
    ((List.range bound).map fun k => name ++ toString (k + 1)).Nodup :=
  List.nodup_range.map fun _ _ equal => Nat.succ.inj (append_toString_injective name equal)

theorem nodup_candidates (s : Scene) (name : String) : (s.candidates name).Nodup := by
  refine List.nodup_cons.mpr ⟨?_, ?_⟩
  · intro member
    obtain ⟨k, _, equal⟩ := List.mem_map.mp member
    have chars := congrArg String.toList equal
    rw [String.toList_append, List.append_right_eq_self] at chars
    exact Number.toString_ne_nil _ chars
  · exact nodup_numbered name s.nodes.length

/-- Of more names than are in use, one is free. -/
theorem find?_isSome_of_more {tried used : List String} {free : String → Bool}
    (distinct : tried.Nodup) (more : used.length < tried.length)
    (taken : ∀ name ∈ tried, free name = false → name ∈ used) :
    (tried.find? free).isSome = true := by
  by_contra none
  have all : tried ⊆ used := fun name member =>
    taken name member (Bool.eq_false_iff.mpr
      (List.find?_eq_none.mp (Option.not_isSome_iff_eq_none.mp none) name member))
  have count := distinct.length_le_of_subset all
  omega

/-- The name of a new node is not in use: there are more candidates than nodes. -/
theorem uniqueName_not_mem (s : Scene) (name : String) : s.uniqueName name ∉ s.nodeNames := by
  have more : s.nodeNames.length < (s.candidates name).length := by simp [candidates, nodeNames]
  have taken (other : String) (used : (!s.hasNode other) = false) : other ∈ s.nodeNames :=
    (s.hasNode_iff other).mp (by simpa using used)
  obtain ⟨candidate, found⟩ := Option.isSome_iff_exists.mp
    (find?_isSome_of_more (s.nodup_candidates name) more fun other _ => taken other)
  have unused := List.find?_some found
  rw [uniqueName_eq, found, Option.getD_some, ← hasNode_iff]
  simpa using unused

theorem uniqueName_mem_candidates (s : Scene) (name : String) :
    s.uniqueName name ∈ s.candidates name := by
  rw [uniqueName_eq]
  cases found : (s.candidates name).find? fun candidate => !s.hasNode candidate with
  | none => exact List.mem_cons_self
  | some candidate => exact List.mem_of_find?_eq_some found

/-- A free name is kept. -/
theorem uniqueName_of_not_mem (s : Scene) {name : String} (free : name ∉ s.nodeNames) :
    s.uniqueName name = name := by
  have unused : s.hasNode name = false := by simpa [← hasNode_iff] using free
  rw [uniqueName_eq, candidates, List.find?_cons_of_pos (by simp [unused])]
  rfl

/-- The name of a new node is as good as the requested one. -/
theorem uniqueName_valid (s : Scene) {name : String} (filled : name ≠ "")
    (noDot : '.' ∉ name.toList) :
    s.uniqueName name ≠ "" ∧ '.' ∉ (s.uniqueName name).toList := by
  rcases List.mem_cons.mp (s.uniqueName_mem_candidates name) with same | numbered
  · rw [same]
    exact ⟨filled, noDot⟩
  · obtain ⟨k, _, equal⟩ := List.mem_map.mp numbered
    have digits := Number.not_mem_toString (c := '.') rfl (k + 1)
    rw [← equal]
    refine ⟨?_, ?_⟩
    · intro empty
      have chars := congrArg String.toList empty
      simp only [String.toList_append, String.toList_empty, List.append_eq_nil_iff] at chars
      exact Number.toString_ne_nil _ chars.2
    · rw [String.toList_append, List.mem_append, not_or]
      exact ⟨noDot, digits⟩

/-! ### What each change does -/

theorem set_eq_ok {s after : Scene} {plug : String} {value : Float}
    (done : s.set plug value = .ok after) :
    ∃ node place, s.place? plug = some (node, place) ∧ place.width = 1 ∧
      after = { s with values := s.values.insert (Plug.join node place.path) value } := by
  rw [set] at done
  split at done
  · cases done
  · rename_i node place found
    split at done
    · rename_i narrow
      exact ⟨node, place, (s.placeOf_eq_ok_iff _ _).mp found, narrow, (Except.ok.inj done).symm⟩
    · cases done

theorem connect_eq_ok {s after : Scene} {source dest : String} {force : Bool}
    (done : s.connect source dest force = .ok after) :
    ∃ sourceNode sourcePlace destNode destPlace,
      s.place? source = some (sourceNode, sourcePlace) ∧
      s.place? dest = some (destNode, destPlace) ∧ sourcePlace.width = destPlace.width ∧
      Plug.join sourceNode sourcePlace.path ≠ Plug.join destNode destPlace.path ∧
      (force = true ∨ s.connections.find? (Plug.join destNode destPlace.path) = none) ∧
      after = { s with
        connections := s.connections.insert (Plug.join destNode destPlace.path)
          (Plug.join sourceNode sourcePlace.path) } := by
  simp only [connect] at done
  split at done
  · cases done
  · rename_i sourceNode sourcePlace foundSource
    split at done
    · cases done
    · rename_i destNode destPlace foundDest
      split at done
      · cases done
      · rename_i widths
        split at done
        · cases done
        · rename_i different
          refine ⟨sourceNode, sourcePlace, destNode, destPlace,
            (s.placeOf_eq_ok_iff _ _).mp foundSource, (s.placeOf_eq_ok_iff _ _).mp foundDest,
            by simpa using widths, different, ?_⟩
          cases occupied : s.connections.find? (Plug.join destNode destPlace.path) with
          | none =>
            rw [occupied] at done
            exact ⟨Or.inr rfl, (Except.ok.inj done).symm⟩
          | some existing =>
            rw [occupied] at done
            cases force with
            | true => exact ⟨Or.inl rfl, (Except.ok.inj done).symm⟩
            | false => cases done

theorem create_eq_ok {s after : Scene} {type name assigned : String}
    (done : s.create type name = .ok (assigned, after)) :
    ∃ layout, Layout.ofType? type = some layout ∧ name ≠ "" ∧ '.' ∉ name.toList ∧
      assigned = s.uniqueName name ∧
      after = { s with nodes := s.nodes ++ [⟨s.uniqueName name, type, layout⟩] } := by
  rw [create] at done
  split at done
  · cases done
  · rename_i layout known
    split at done
    · cases done
    · rename_i valid
      obtain ⟨rfl, rfl⟩ := Prod.mk.inj (Except.ok.inj done)
      exact ⟨layout, known, fun empty => valid (Or.inl empty), fun dotted => valid (Or.inr dotted),
        rfl, rfl⟩

/-- The name of a created node is new and can stand before a dot. -/
theorem create_name {s after : Scene} {type name assigned : String}
    (done : s.create type name = .ok (assigned, after)) :
    assigned ∉ s.nodeNames ∧ assigned ≠ "" ∧ '.' ∉ assigned.toList := by
  obtain ⟨_, _, filled, noDot, rfl, _⟩ := create_eq_ok done
  exact ⟨s.uniqueName_not_mem name, s.uniqueName_valid filled noDot⟩

theorem addAttribute_eq_ok {s after : Scene} {node name : String} {default : Float}
    (done : s.addAttribute node name default = .ok after) :
    name ≠ "" ∧ name.toList.any isPathMark = false ∧
      ∃ n, s.node? node = some n ∧ name ∉ n.layout.names ∧
        after = { s with nodes := extendNode node (.scalar name none default) s.nodes } := by
  rw [addAttribute] at done
  split at done
  · cases done
  · rename_i valid
    split at done
    · cases done
    · rename_i n found
      split at done
      · cases done
      · rename_i free
        refine ⟨fun empty => valid (Or.inl empty),
          by simpa using fun marked => valid (Or.inr marked), n, found, ?_,
          (Except.ok.inj done).symm⟩
        rwa [Layout.isTaken_iff] at free

theorem editContainer_eq_ok {s after : Scene} {container : String} {edit : Container → Container}
    (done : s.editContainer container edit = .ok after) :
    ∃ record, s.containers.find? container = some record ∧
      after = { s with containers := s.containers.insert container (edit record) } := by
  rw [editContainer] at done
  split at done
  · cases done
  · rename_i record found
    exact ⟨record, found, (Except.ok.inj done).symm⟩

theorem group_eq_ok {s after : Scene} {container : String} {nodes : List String}
    (done : s.group container nodes = .ok after) :
    (∀ node ∈ nodes, node ∈ s.nodeNames) ∧
      ∃ record, s.containers.find? container = some record ∧
        after = { s with
          containers := s.containers.insert container
            { record with members := appendNew record.members nodes } } := by
  rw [group] at done
  split at done
  · cases done
  · rename_i present
    refine ⟨?_, editContainer_eq_ok done⟩
    intro node member
    have there := List.find?_eq_none.mp present node member
    exact (s.hasNode_iff node).mp (by simpa using there)

theorem expose_eq_ok {s after : Scene} {container plug name : String}
    (done : s.expose container plug name = .ok after) :
    s.has plug = true ∧
      ∃ record, s.containers.find? container = some record ∧
        after = { s with
          containers := s.containers.insert container
            { record with published := record.published ++ [(plug, name)] } } := by
  rw [expose] at done
  split at done
  · rename_i there
    exact ⟨there, editContainer_eq_ok done⟩
  · cases done

theorem createContainer_eq_ok {s after : Scene} {name assigned : String}
    (done : s.createContainer name = .ok (assigned, after)) :
    ∃ created, s.create "container" name = .ok (assigned, created) ∧
      after = { created with containers := created.containers.insert assigned ⟨[], [], none⟩ } := by
  rw [createContainer] at done
  split at done
  · cases done
  · rename_i unique created made
    obtain ⟨rfl, rfl⟩ := Prod.mk.inj (Except.ok.inj done)
    exact ⟨created, made, rfl⟩

theorem addTransform_eq_ok {s : Scene} {name : String} {result : String × Scene}
    (done : s.addTransform name = .ok result) : s.create "transform" name = .ok result := by
  rw [addTransform] at done
  split at done
  · cases done
  · exact done

end FormulaNet.Scene
