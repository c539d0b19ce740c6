/-
This file says how far what a scene tells about attributes fits together. A
compound lists its children, each child names its compound, and the list that is
read from a compound has the numbers of its children in order. An array of
compounds that is named without an index lists children all the same, but they
exist inside its elements only: none of them is a plug, and taking the array
apart gives plugs that are not there.
-/

import FormulaNet.Proofs.Collapse
import FormulaNet.Proofs.NewAttribute
import FormulaNet.Proofs.ReadBack

namespace FormulaNet

/-! ### What is located -/

/-- The name of a child of an array designates nothing. -/
theorem Layout.Sound.find?_child_of_multi {layout : Layout} (sound : layout.Sound) {a : Attribute}
    (member : a ∈ layout) (multi : a.multi = true) {c : Attribute.Child} (inside : c ∈ a.children) :
    layout.find? c.long = none := by
  cases found : layout.find? c.long with
  | none => rfl
  | some place =>
    obtain rfl := sound.eq_child_of_find? member inside found
    obtain ⟨_, single, _⟩ := on_of_find? found
    rw [multi] at single
    cases single

namespace Scene

/-- Whether an attribute path names an array of compounds without an index. -/
def isBareArray (s : Scene) (node attr : String) : Bool :=
  match s.locate? node attr with
  | some (.whole a) => a.multi && a.isCompound
  | _ => false

section Located

variable {s : Scene} (wf : s.WellFormed) {node attr : String}
include wf

/-- What is located on a node is designated by the plug made of both. -/
theorem WellFormed.place?_of_locate? {place : Place} (located : s.locate? node attr = some place) :
    s.place? (Plug.join node attr) = some (node, place) := by
  rw [locate?_eq] at located
  obtain ⟨n, found, designated⟩ := Option.bind_eq_some_iff.mp located
  obtain ⟨member, named⟩ := mem_of_node? found
  obtain ⟨filled, noDot⟩ := wf.named n member
  rw [named] at filled noDot
  have attrFilled : attr ≠ "" := by
    rintro rfl
    have free : "" ∉ n.layout.names := fun inside => ((wf.layouts n member).plain "" inside).1 rfl
    rw [Layout.find?_eq_none free rfl] at designated
    cases designated
  exact (s.place?_eq_some_iff _ _ _).mpr
    ⟨attr, n, Plug.split?_join node attr filled noDot attrFilled, found, designated⟩

/-- A compound that lists children is located as a whole. -/
theorem WellFormed.whole_of_children? {children : List String}
    (listed : s.children? node attr = some children) :
    ∃ n a, s.node? node = some n ∧ a ∈ n.layout ∧ s.locate? node attr = some (.whole a) ∧
      a.isCompound = true ∧ children = a.childNames := by
  obtain ⟨place, located, lists⟩ := Option.bind_eq_some_iff.mp listed
  obtain ⟨attr', n, _, found, designated⟩ :=
    (s.place?_eq_some_iff _ _ _).mp (wf.place?_of_locate? located)
  cases place with
  | child | element | elementChild => cases lists
  | whole a =>
    rw [Place.children?] at lists
    split at lists
    · rename_i compound
      exact ⟨n, a, found, Layout.on_of_find? designated, located, compound,
        (Option.some.inj lists).symm⟩
    · cases lists

end Located

/-! ### Compounds -/

/-- What a compound says about its children is what they say of themselves. -/
structure Coherent (s : Scene) (node attr : String) (children : List String) : Prop where
  present : ∀ c ∈ children, s.has (Plug.join node c) = true
  narrow : ∀ c ∈ children, s.width? (Plug.join node c) = some 1
  long : ∀ c ∈ children, s.longName? node c = some c
  parent : ∀ c ∈ children, (s.parent? node c).isSome = true ∧
    s.parent? node c = s.longName? node attr
  reading : ∃ numbers, s.read (Plug.join node attr) = .ok (.list numbers) ∧
    List.Forall₂ (fun c v => s.read (Plug.join node c) = .ok (.number v)) children numbers

/-- What an array without an index says about its children: they are no plugs, and whatever its
elements hold, it is read as defaults. -/
structure Hollow (s : Scene) (node attr : String) (children : List String) : Prop where
  absent : ∀ c ∈ children, s.has (Plug.join node c) = false
  reading : ∃ default, s.read (Plug.join node attr) = .ok (.list (children.map fun _ => default))

section Compound

variable {s : Scene} (wf : s.WellFormed) {node attr : String} {n : Node} {a : Attribute}
  (found : s.node? node = some n) (member : a ∈ n.layout)
include wf found member

/-- A child of a compound that is no array is located under its long name. -/
theorem WellFormed.locate?_child (single : a.multi = false) {c : Attribute.Child}
    (inside : c ∈ a.children) : s.locate? node c.long = some (.child a c) := by
  have on : (Place.child a c).On n.layout := ⟨member, single, inside⟩
  have located := (wf.layouts n (mem_of_node? found).1).find?_path on
  rw [Place.path] at located
  rw [locate?_eq, found, Option.bind_some, located]

theorem WellFormed.coherent_of_single (located : s.locate? node attr = some (.whole a))
    (compound : a.isCompound = true) (single : a.multi = false) :
    s.Coherent node attr a.childNames := by
  have child (c : Attribute.Child) (inside : c ∈ a.children) :=
    wf.locate?_child found member single inside
  have designated (c : Attribute.Child) (inside : c ∈ a.children) :=
    wf.place?_of_locate? (child c inside)
  have long : s.longName? node attr = some a.long := by
    rw [longName?, located]
    rfl
  refine ⟨?_, ?_, ?_, ?_, a.childNames.map (s.stored node · a.default), ?_, ?_⟩
  · intro name inside
    obtain ⟨c, isChild, rfl⟩ := List.mem_map.mp inside
    exact has_of_place? (designated c isChild)
  · intro name inside
    obtain ⟨c, isChild, rfl⟩ := List.mem_map.mp inside
    rw [width?, designated c isChild]
    rfl
  · intro name inside
    obtain ⟨c, isChild, rfl⟩ := List.mem_map.mp inside
    rw [longName?, child c isChild]
    rfl
  · intro name inside
    obtain ⟨c, isChild, rfl⟩ := List.mem_map.mp inside
    rw [long, parent?, child c isChild]
    exact ⟨rfl, rfl⟩
  · rw [read_of_place? (wf.place?_of_locate? located), readPlace, Place.parts?, if_pos compound]
    rfl
  · rw [List.forall₂_map_right_iff, List.forall₂_same]
    intro name inside
    obtain ⟨c, isChild, rfl⟩ := List.mem_map.mp inside
    exact read_of_place? (designated c isChild)

/-- The children of an array are no plugs. -/
theorem WellFormed.place?_child_of_multi (multi : a.multi = true) {name : String}
    (inside : name ∈ a.childNames) : s.place? (Plug.join node name) = none := by
  obtain ⟨c, isChild, rfl⟩ := List.mem_map.mp inside
  cases there : s.place? (Plug.join node c.long) with
  | none => rfl
  | some pair =>
    obtain ⟨_, located⟩ := wf.find?_of_place? found there
    have sound := wf.layouts n (mem_of_node? found).1
    rw [sound.find?_child_of_multi member multi isChild] at located
    cases located

theorem WellFormed.hollow_of_multi (located : s.locate? node attr = some (.whole a))
    (compound : a.isCompound = true) (multi : a.multi = true) :
    s.Hollow node attr a.childNames := by
  have missing (name : String) (inside : name ∈ a.childNames) :=
    wf.place?_child_of_multi found member multi inside
  refine ⟨?_, a.default, ?_⟩
  · intro name inside
    have dotted : '.' ∈ (Plug.join node name).toList := by simp [Plug.join]
    rw [← Bool.not_eq_true, wf.has_iff_place? dotted, missing name inside]
    exact Bool.false_ne_true
  · rw [read_of_place? (wf.place?_of_locate? located), readPlace, Place.parts?, if_pos compound]
    refine congrArg (fun numbers => Except.ok (Primitive.list numbers)) (List.map_congr_left ?_)
    intro name inside
    rw [stored, (wf.unstored (missing name inside)).1]
    rfl

end Compound

/-! ### Every attribute -/

section Attribute

variable {s : Scene} (wf : s.WellFormed) {node attr : String}
include wf

theorem WellFormed.coherent_or_hollow {children : List String}
    (listed : s.children? node attr = some children) :
    (s.isBareArray node attr = false → s.Coherent node attr children) ∧
      (s.isBareArray node attr = true → s.Hollow node attr children) := by
  obtain ⟨n, a, found, member, located, compound, rfl⟩ := wf.whole_of_children? listed
  have bare : s.isBareArray node attr = a.multi := by
    rw [isBareArray, located]
    simp [compound]
  rw [bare]
  exact ⟨wf.coherent_of_single found member located compound,
    wf.hollow_of_multi found member located compound⟩

/-- A child is listed once by the compound that it names. -/
theorem WellFormed.listed_of_parent? {parent : String}
    (belongs : s.parent? node attr = some parent) :
    ∃ long children, s.longName? node attr = some long ∧
      s.children? node parent = some children ∧ children.count long = 1 := by
  obtain ⟨place, located, isParent⟩ := Option.bind_eq_some_iff.mp belongs
  cases place with
  | whole | element | elementChild => cases isParent
  | child a c =>
    cases isParent
    have there := wf.place?_of_locate? located
    obtain ⟨_, n, _, found, designated⟩ := (s.place?_eq_some_iff _ _ _).mp there
    obtain ⟨member, _, inside⟩ := Layout.on_of_find? designated
    obtain ⟨_, children, _⟩ := wf.place?_parent there
    refine ⟨c.long, a.childNames, ?_, children, ?_⟩
    · rw [longName?, located]
      rfl
    · exact List.count_eq_one_of_mem (wf.nodup_childNames found member)
        (List.mem_map_of_mem inside)

/-- A plug is taken apart into plugs that are there, unless it is an array without an index. -/
theorem WellFormed.unravel_plug {plug : String} (split : Plug.split? plug = some (node, attr))
    (there : s.has plug = true) :
    ∃ texts, texts ≠ [] ∧ s.unravel (.path plug) = .ok (texts.map .plug) ∧
      ∀ text ∈ texts, s.has text = !s.isBareArray node attr := by
  have isPlug : (Plug.split? plug).isSome = true := by rw [split]; rfl
  rw [unravel, if_pos ⟨isPlug, there⟩, plugChannels, split]
  dsimp only
  cases listed : s.children? node attr with
  | none =>
    have plain : s.isBareArray node attr = false := by
      rw [isBareArray]
      split
      · rename_i a located
        rw [children?, located, Option.bind_some, Place.children?] at listed
        split at listed
        · cases listed
        · rename_i narrow
          rw [Bool.not_eq_true] at narrow
          rw [narrow, Bool.and_false]
      · rfl
    refine ⟨[plug], List.cons_ne_nil _ _, rfl, fun text inside => ?_⟩
    rw [List.mem_singleton.mp inside, there, plain]
    rfl
  | some children =>
    obtain ⟨coherent, hollow⟩ := wf.coherent_or_hollow listed
    obtain ⟨_, a, _, _, _, compound, rfl⟩ := wf.whole_of_children? listed
    refine ⟨a.childNames.map (Plug.join node), ?_, ?_, fun text inside => ?_⟩
    · intro none
      simp [List.map_eq_nil_iff.mp (List.map_eq_nil_iff.mp none), Attribute.isCompound] at compound
    · rw [List.map_map]
      rfl
    · obtain ⟨name, isChild, rfl⟩ := List.mem_map.mp inside
      cases bare : s.isBareArray node attr with
      | false => exact (coherent bare).present name isChild
      | true => exact (hollow bare).absent name isChild

end Attribute

/-- Compounds and children that are located say the same about each other, in both directions, and a
plug is taken apart into plugs that are there; all but for an array that is named without an
index. -/
theorem introspection_fits_together (s : Scene) (reachable : s.Reachable) (node attr : String) :
    (∀ children, s.children? node attr = some children →
      (s.isBareArray node attr = false → s.Coherent node attr children) ∧
        (s.isBareArray node attr = true → s.Hollow node attr children)) ∧
      (∀ parent, s.parent? node attr = some parent →
        ∃ long children, s.longName? node attr = some long ∧
          s.children? node parent = some children ∧ children.count long = 1) ∧
      ∀ plug, Plug.split? plug = some (node, attr) → s.has plug = true →
        ∃ texts, texts ≠ [] ∧ s.unravel (.path plug) = .ok (texts.map .plug) ∧
          ∀ text ∈ texts, s.has text = !s.isBareArray node attr := by
  have wf := reachable.wellFormed
  refine ⟨fun children listed => wf.coherent_or_hollow listed,
    fun parent belongs => wf.listed_of_parent? belongs, ?_⟩
  intro plug split there
  exact wf.unravel_plug split there

/-- The translation of a transform, by its short name, and an array beside it. -/
theorem introspection_fits_together_translation :
    ∃ s : Scene, s.Reachable ∧ s.isBareArray "pCube1" "t" = false ∧
      s.isBareArray "pma" "input3D" = true ∧
      s.Coherent "pCube1" "t" ["translateX", "translateY", "translateZ"] ∧
      s.Hollow "pma" "input3D" ["input3Dx", "input3Dy", "input3Dz"] ∧
      (∃ long children, s.longName? "pCube1" "translate.ty" = some long ∧
        s.children? "pCube1" "translate" = some children ∧ children.count long = 1) ∧
      ∃ texts, texts ≠ [] ∧ s.unravel (.path "pCube1.t") = .ok (texts.map .plug) ∧
        ∀ text ∈ texts, s.has text = true := by
  let changes : List Change := [.create "plusMinusAverage" "pma", .addTransform "pCube1",
    .addAttribute "pCube1" "weight" 0.5, .set "pCube1.ty" 2,
    .set "pma.input3D[0].input3Dx" 3]
  have reachable : (empty.run changes).Reachable := ⟨_, rfl⟩
  have plain : (empty.run changes).isBareArray "pCube1" "t" = false := by decide +kernel
  have bare : (empty.run changes).isBareArray "pma" "input3D" = true := by decide +kernel
  have listed : (empty.run changes).children? "pCube1" "t" =
      some ["translateX", "translateY", "translateZ"] := by
    decide +kernel
  have listedArray : (empty.run changes).children? "pma" "input3D" =
      some ["input3Dx", "input3Dy", "input3Dz"] := by
    decide +kernel
  have belongs : (empty.run changes).parent? "pCube1" "translate.ty" = some "translate" := by
    decide +kernel
  have split : Plug.split? "pCube1.t" = some ("pCube1", "t") := by decide +kernel
  have there : (empty.run changes).has "pCube1.t" = true := by decide +kernel
  -- From here on it does not matter how the scene was made.
  generalize empty.run changes = s at *
  obtain ⟨compounds, _, plugs⟩ := introspection_fits_together s reachable "pCube1" "t"
  obtain ⟨arrays, _, _⟩ := introspection_fits_together s reachable "pma" "input3D"
  obtain ⟨_, children, _⟩ := introspection_fits_together s reachable "pCube1" "translate.ty"
  have apart := plugs "pCube1.t" split there
  rw [plain, Bool.not_false] at apart
  exact ⟨s, reachable, plain, bare, (compounds _ listed).1 plain, (arrays _ listedArray).2 bare,
    children _ belongs, apart⟩

/-- An array without an index exists and lists children, but they do not exist, and taking it apart
gives them. -/
theorem bare_array_lists_missing_children :
    ∃ s : Scene, s.Reachable ∧ s.has "pma.input3D" = true ∧
      s.children? "pma" "input3D" = some ["input3Dx", "input3Dy", "input3Dz"] ∧
      s.has "pma.input3Dx" = false ∧ s.parent? "pma" "input3Dx" = none ∧
      s.unravel (.path "pma.input3D") =
        .ok [.plug "pma.input3Dx", .plug "pma.input3Dy", .plug "pma.input3Dz"] := by
  refine ⟨empty.run [.create "plusMinusAverage" "pma"], ⟨_, rfl⟩, ?_, ?_, ?_, ?_, ?_⟩
  · decide +kernel
  · decide +kernel
  · decide +kernel
  · decide +kernel
  · decide +kernel

end Scene

end FormulaNet
