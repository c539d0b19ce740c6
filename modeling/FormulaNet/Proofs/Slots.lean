/-
This file fits the built-in operations to the layouts of their nodes. Every slot
that exists is spelled canonically and has one channel, the slots of one group
are different places of one attribute or element, and no two groups share one,
nor any group the attribute of the mode. For operations with fixed slots that is
a matter of the table; a template is instantiated with every index in turn, and
gives the channels of that element of an array.
-/

import FormulaNet.Proofs.Wiring

namespace FormulaNet

/-- The key of the attribute that holds the mode of a node. -/
def modeKey : String × Option Nat := ("operation", none)

def Output.names : Output → List String
  | channels names => names
  | deferred _ => []

/-- How the slots and results of an operation stand on a layout. -/
structure Operation.Fits (op : Operation) (layout : Layout) (operands : Nat) : Prop where
  mode : Scene.Grouped layout modeKey ["operation"]
  groups : ∃ keys, List.Forall₂ (Scene.Grouped layout) keys (op.slotGroups operands) ∧
    (modeKey :: keys).Nodup
  length : (op.slotGroups operands).length = operands
  output : ∀ name ∈ op.output.names, name ≠ "" ∧
    ∃ place ∈ layout.find? name, place.parts? = none

/-! ### Fixed slots -/

instance (layout : Layout) (key : String × Option Nat) (slots : List String) :
    Decidable (Scene.Grouped layout key slots) :=
  decidable_of_iff
    (slots.Nodup ∧ ∀ slot ∈ slots, ∀ place ∈ layout.find? slot,
      place.path = slot ∧ place.key = key ∧ place.parts? = none)
    ⟨fun ⟨distinct, narrow⟩ => ⟨distinct, narrow⟩, fun ⟨distinct, narrow⟩ => ⟨distinct, narrow⟩⟩

/-- The key that the slots of a group have in common. -/
def slotKey (layout : Layout) (group : List String) : String × Option Nat :=
  ((group.head?.bind layout.find?).map Place.key).getD modeKey

namespace Operation

theorem mode_output_of_mem_builtin : ∀ op ∈ builtin, ∀ layout ∈ Layout.ofType? op.nodeType,
    Scene.Grouped layout modeKey ["operation"] ∧ ∀ name ∈ op.output.names, name ≠ "" ∧
      ∃ place ∈ layout.find? name, place.parts? = none := by
  decide +kernel

theorem fixed_of_mem_builtin : ∀ op ∈ builtin, op.multiIndex = false →
    ∀ layout ∈ Layout.ofType? op.nodeType,
      (∀ group ∈ op.inputs, Scene.Grouped layout (slotKey layout group) group) ∧
        (modeKey :: op.inputs.map (slotKey layout)).Nodup := by
  decide +kernel

theorem template_of_mem_builtin : ∀ op ∈ builtin, op.multiIndex = true →
    (op.nodeType = "plusMinusAverage" ∧
      op.inputs = [triple "input3D[\x7bmulti_index\x7d].input3D" ["x", "y", "z"]]) ∨
    (op.nodeType = "choice" ∧ op.inputs = [["input[\x7bmulti_index\x7d]"], ["selector"]]) := by
  decide +kernel

end Operation

/-! ### Templates -/

section Elements

variable {layout : Layout} (sound : layout.Sound) {a : Attribute} (member : a ∈ layout)
  (multi : a.multi = true)
include sound member multi

/-- The children of an array element form a group. -/
theorem grouped_elementChildren (index : Nat) :
    Scene.Grouped layout (a.long, some index)
      (a.children.map fun c => (Place.elementChild a index c).path) where
  distinct := by
    refine (sound.nodup_children member).map_on ?_
    intro c insideFirst d insideSecond equal
    have sameLong : c.long = d.long := by simpa [Place.path] using equal
    exact sound.child_eq_of_shared_name member insideFirst insideSecond c.long_mem_names
      (sameLong ▸ d.long_mem_names)
  narrow slot inside place located := by
    obtain ⟨c, child, rfl⟩ := List.mem_map.mp inside
    rw [sound.find?_elementChild member multi child] at located
    split at located
    · cases located
      exact ⟨rfl, rfl, rfl⟩
    · cases located

/-- An array element without children forms a group of its own. -/
theorem grouped_element (plain : a.children = []) (index : Nat) :
    Scene.Grouped layout (a.long, some index) [(Place.element a index).path] where
  distinct := List.nodup_singleton _
  narrow slot inside place located := by
    rw [List.mem_singleton.mp inside, sound.find?_element member multi] at located
    split at located
    · cases located
      have narrow : (Place.element a index).parts? = none := by
        simp [Place.parts?, Attribute.isCompound, plain]
      exact ⟨(List.mem_singleton.mp inside).symm, rfl, narrow⟩
    · cases located

end Elements

theorem Text.replace_eq {piece text : String} (front back : String)
    (split : ∀ chars, substitute piece.toList chars 0 text.toList =
      front.toList ++ (chars ++ back.toList)) (new : String) :
    replace piece new text = front ++ new ++ back := by
  apply String.toList_injective
  simp [replace, split]

namespace Operation

/-- The array of vectors that sums are taken over. -/
def summands : Attribute := (Attribute.suffixed "input3D" Layout.summed 0).array

/-- The array of numbers that a choice is made from. -/
def alternatives : Attribute := (Attribute.scalar "input" (some "i") 0).array

theorem summands_mem {layout : Layout}
    (typed : Layout.ofType? "plusMinusAverage" = some layout) : summands ∈ layout := by
  cases typed
  exact .tail _ (.tail _ (.tail _ (.head _)))

theorem alternatives_mem {layout : Layout} (typed : Layout.ofType? "choice" = some layout) :
    alternatives ∈ layout := by
  cases typed
  exact .tail _ (.tail _ (.head _))

theorem grouped_selector {layout : Layout} (typed : Layout.ofType? "choice" = some layout) :
    Scene.Grouped layout ("selector", none) ["selector"] := by
  cases typed
  decide +kernel

theorem instantiate_summands (index : Nat) :
    instantiate (triple "input3D[\x7bmulti_index\x7d].input3D" ["x", "y", "z"]) index =
      summands.children.map fun c => (Place.elementChild summands index c).path := by
  have channel (ending : String) (split : ∀ chars, Text.substitute placeholder.toList chars 0
        ("input3D[\x7bmulti_index\x7d].input3D" ++ ending).toList =
        "input3D[".toList ++ (chars ++ ("]." ++ ("input3D" ++ ending)).toList)) :
      Text.replace placeholder (toString index) ("input3D[\x7bmulti_index\x7d].input3D" ++ ending) =
        (Place.elementChild summands index ⟨"input3D" ++ ending, none⟩).path := by
    rw [Text.replace_eq _ _ split]
    apply String.toList_injective
    simp [Place.path, Place.elementPath, summands, Attribute.array, Attribute.suffixed]
  simp only [instantiate, triple, List.map_cons, List.map_nil]
  rw [channel "x" fun _ => rfl, channel "y" fun _ => rfl, channel "z" fun _ => rfl]
  rfl

theorem instantiate_alternatives (index : Nat) :
    instantiate ["input[\x7bmulti_index\x7d]"] index =
      [(Place.element alternatives index).path] := by
  rw [instantiate, List.map_singleton, Text.replace_eq "input[" "]" fun _ => rfl]
  apply congrArg (fun text => [text])
  apply String.toList_injective
  simp [Place.path, Place.elementPath, alternatives, Attribute.array, Attribute.scalar]

theorem nodup_elementKeys (name : String) (count : Nat) :
    ((List.range count).map fun index => (name, some index)).Nodup := by
  refine List.nodup_range.map ?_
  intro first second equal
  exact Option.some.inj (Prod.mk.inj equal).2

/-- The slot groups of a built-in operation: the listed ones, or the elements of an array in turn. -/
theorem slotGroups_of_mem_builtin {op : Operation} (member : op ∈ builtin) (operands : Nat) :
    (op.multiIndex = false ∧ op.slotGroups operands = op.inputs) ∨
    (op.multiIndex = true ∧ op.nodeType = "plusMinusAverage" ∧ op.inputs.length = 1 ∧
      op.slotGroups operands = (List.range operands).map fun index =>
        summands.children.map fun c => (Place.elementChild summands index c).path) ∨
    (op.multiIndex = true ∧ op.nodeType = "choice" ∧ op.inputs.length = 2 ∧
      op.slotGroups operands = ((List.range (operands - 1)).map fun index =>
        [(Place.element alternatives index).path]) ++ [["selector"]]) := by
  cases repeats : op.multiIndex with
  | false =>
    refine Or.inl ⟨rfl, ?_⟩
    rw [slotGroups, repeats]
  | true =>
    rcases template_of_mem_builtin op member repeats with ⟨isSum, inputs⟩ | ⟨isChoice, inputs⟩
    · refine Or.inr (Or.inl ⟨rfl, isSum, by rw [inputs]; rfl, ?_⟩)
      rw [slotGroups, repeats, inputs, ← funext instantiate_summands]
      exact List.append_nil _
    · refine Or.inr (Or.inr ⟨rfl, isChoice, by rw [inputs]; rfl, ?_⟩)
      rw [slotGroups, repeats, inputs, ← funext instantiate_alternatives]
      rfl

/-- A built-in operation fits the layout of its node, for every number of operands it accepts. -/
theorem fits_of_mem_builtin {op : Operation} (member : op ∈ builtin) {layout : Layout}
    (typed : Layout.ofType? op.nodeType = some layout) {operands : Nat}
    (accepted : op.accepts operands = true) : op.Fits layout operands := by
  obtain ⟨mode, output⟩ := mode_output_of_mem_builtin op member layout typed
  have sound := Layout.sound_ofType? typed
  rcases slotGroups_of_mem_builtin member operands with
    ⟨repeats, groups⟩ | ⟨_, isSum, _, groups⟩ | ⟨repeats, isChoice, inputs, groups⟩
  · obtain ⟨grouped, distinct⟩ := fixed_of_mem_builtin op member repeats layout typed
    refine ⟨mode, ⟨op.inputs.map (slotKey layout), ?_, distinct⟩, ?_, output⟩
    · rw [groups, List.forall₂_map_left_iff, List.forall₂_same]
      exact grouped
    · rw [groups]
      have counted : operands = op.inputs.length := by
        simpa [accepts, arity, repeats, Arity.accepts] using accepted
      exact counted.symm
  · refine ⟨mode, ⟨(List.range operands).map fun index => ("input3D", some index), ?_, ?_⟩, ?_,
      output⟩
    · rw [groups, List.forall₂_map_left_iff, List.forall₂_map_right_iff, List.forall₂_same]
      intro index _
      exact grouped_elementChildren sound (summands_mem (isSum ▸ typed)) rfl index
    · refine List.nodup_cons.mpr ⟨?_, nodup_elementKeys _ _⟩
      simp [modeKey]
    · rw [groups, List.length_map, List.length_range]
  · have enough : op.inputs.length ≤ operands := by
      simpa [accepts, arity, repeats, Arity.accepts] using accepted
    have inLayout := alternatives_mem (isChoice ▸ typed)
    refine ⟨mode, ⟨((List.range (operands - 1)).map fun index => ("input", some index)) ++
      [("selector", none)], ?_, ?_⟩, ?_, output⟩
    · rw [groups]
      refine List.rel_append ?_ (.cons ?_ .nil)
      · rw [List.forall₂_map_left_iff, List.forall₂_map_right_iff, List.forall₂_same]
        intro index _
        exact grouped_element sound inLayout rfl rfl index
      · exact grouped_selector (isChoice ▸ typed)
    · refine List.nodup_cons.mpr ⟨by simp [modeKey], List.nodup_append.mpr ⟨?_, ?_, ?_⟩⟩
      · exact nodup_elementKeys _ _
      · exact List.nodup_singleton _
      · simp
    · rw [inputs] at enough
      rw [groups, List.length_append, List.length_map, List.length_range]
      exact Nat.sub_add_cancel (Nat.le_of_succ_le enough)

end Operation

end FormulaNet
