/-
This file proves that channels cannot be taken apart any further. A channel
written back as an operand is a number, a value or a node with one attribute,
and taking all of them apart gives the same channels. For numbers that is plain.
A plug that came out of an operand splits as a text, wherever its first dot is,
and it is no compound: either it was found to have no children, or it is a child
itself, and a child is no compound where it is a plug at all.
-/

import FormulaNet.Proofs.Introspection

namespace FormulaNet

/-! ### Names -/

/-- Whether attributes all have names. -/
def Attrs.isNamed : Attrs → Bool
  | .bare => true
  | .one name => name != ""
  | .many names => names.all (· != "")

namespace Operand

mutual

/-- Whether the nodes that an operand refers to have names that do not begin with a dot, and their
attributes have names. -/
def isNamed : Operand → Bool
  | number _ => true
  | value _ => true
  | path _ => true
  | node name attrs => name != "" && name.toList.head? != some '.' && attrs.isNamed
  | literal payload => payload.isNamed
  | list items => areNamed items

/-- Whether the nodes that some operands refer to have such names. -/
def areNamed : List Operand → Bool
  | [] => true
  | item :: rest => item.isNamed && areNamed rest

end

end Operand

/-- A text behind a name that does not begin with a dot makes a plug with it. The plug is split in
the name if there is a dot in it, and else behind it. -/
theorem Plug.split?_join_isSome {node attr : String} (filled : node ≠ "")
    (undotted : node.toList.head? ≠ some '.') (attrFilled : attr ≠ "") :
    ∃ owner path, split? (join node attr) = some (owner, path) := by
  by_cases dotted : '.' ∈ node.toList
  · obtain ⟨front, back, chars, free⟩ := List.eq_append_cons_of_mem dotted
    refine ⟨String.ofList front, String.ofList back ++ "." ++ attr,
      (split?_eq_some_iff _ _ _).mpr ⟨?_, ?_, ?_, ?_⟩⟩
    · intro empty
      have none : front = [] := by simpa using congrArg String.toList empty
      rw [chars, none] at undotted
      exact undotted rfl
    · intro empty
      simpa using congrArg String.toList empty
    · rwa [String.toList_ofList]
    · apply String.toList_injective
      simp [join, chars]
  · exact ⟨node, attr, split?_join node attr filled dotted attrFilled⟩

/-! ### Channels as operands -/

/-- A channel written back: a number, a value with its expression, or a node with one attribute. -/
def Channel.toOperand (authored : Bool) : Channel → Operand
  | literal v none => .number v
  | literal v (some expression) => .value ⟨.number v, expression, authored⟩
  | plug text => (Reference.parse text).toOperand

namespace Scene

/-- A channel that has no parts: a number, or a plug without children. -/
def Undivided (s : Scene) (channel : Channel) : Prop :=
  ∀ text, channel = .plug text →
    ∃ node attr, Plug.split? text = some (node, attr) ∧ s.children? node attr = none

theorem undivided_literal (s : Scene) (v : Float) (expression : Option String) :
    s.Undivided (.literal v expression) :=
  nofun

/-- A channel without parts is all that comes out when it is taken apart. -/
theorem Undivided.unravel {s : Scene} {channel : Channel} (undivided : s.Undivided channel)
    (authored : Bool) : s.unravel (channel.toOperand authored) = .ok [channel] := by
  cases channel with
  | literal v expression => cases expression <;> rfl
  | plug text =>
    obtain ⟨node, attr, split, childless⟩ := undivided text rfl
    have joined := Plug.join_of_split? split
    rw [Channel.toOperand, Reference.parse, split]
    show s.attrsChannels node (.one attr) = .ok [.plug text]
    rw [attrsChannels, Attrs.plugs?]
    dsimp only
    rw [joined, List.flatMap_singleton, plugChannels, split]
    dsimp only
    rw [childless]

theorem unravelAll_undivided {s : Scene} {channels : List Channel}
    (undivided : ∀ channel ∈ channels, s.Undivided channel) (authored : Bool) :
    s.unravelAll (channels.map (Channel.toOperand authored)) = .ok channels := by
  induction channels with
  | nil => rfl
  | cons channel rest inductionHypothesis =>
    obtain ⟨first, others⟩ := List.forall_mem_cons.mp undivided
    rw [List.map_cons, unravelAll, first.unravel authored]
    dsimp only
    rw [inductionHypothesis others]
    rfl

/-! ### What comes out of an operand -/

section WellFormed

variable {s : Scene} (wf : s.WellFormed)
include wf

/-- A child that a compound lists has a name and no children, whether or not it is a plug. -/
theorem WellFormed.childless_of_listed {node attr : String} {children : List String}
    (listed : s.children? node attr = some children) {child : String} (inside : child ∈ children) :
    child ≠ "" ∧ s.children? node child = none := by
  obtain ⟨n, a, found, member, _, _, rfl⟩ := wf.whole_of_children? listed
  obtain ⟨c, isChild, rfl⟩ := List.mem_map.mp inside
  have sound := wf.layouts n (mem_of_node? found).1
  have named := Layout.mem_names member (Attribute.mem_names_of_child isChild c.long_mem_names)
  refine ⟨(sound.plain c.long named).1, ?_⟩
  cases multi : a.multi with
  | false =>
    rw [children?, wf.locate?_child found member multi isChild]
    rfl
  | true =>
    rw [children?, locate?_eq, found, Option.bind_some,
      sound.find?_child_of_multi member multi isChild]
    rfl

theorem WellFormed.plugChannels_undivided {plug node attr : String}
    (split : Plug.split? plug = some (node, attr)) :
    ∀ channel ∈ s.plugChannels plug, s.Undivided channel := by
  rw [plugChannels, split]
  dsimp only
  cases listed : s.children? node attr with
  | none =>
    rintro channel member _ rfl
    obtain ⟨rfl⟩ := List.mem_singleton.mp member
    exact ⟨node, attr, split, listed⟩
  | some children =>
    rintro channel member _ rfl
    obtain ⟨child, inside, same⟩ := List.mem_map.mp member
    obtain ⟨rfl⟩ := same
    obtain ⟨filled, _, free, _⟩ := (Plug.split?_eq_some_iff _ _ _).mp split
    obtain ⟨childFilled, childless⟩ := wf.childless_of_listed listed inside
    exact ⟨node, child, Plug.split?_join node child filled free childFilled, childless⟩

theorem WellFormed.attrsChannels_undivided {name : String} {attrs : Attrs}
    (named : (Operand.node name attrs).isNamed = true) {channels : List Channel}
    (taken : s.attrsChannels name attrs = .ok channels) :
    ∀ channel ∈ channels, s.Undivided channel := by
  obtain ⟨⟨filled, undotted⟩, attrsNamed⟩ :
      (name ≠ "" ∧ name.toList.head? ≠ some '.') ∧ attrs.isNamed = true := by
    simpa [Operand.isNamed] using named
  have plugged : ∀ attr, attr ≠ "" → ∀ channel ∈ s.plugChannels (Plug.join name attr),
      s.Undivided channel := by
    intro attr attrFilled
    obtain ⟨owner, path, split⟩ := Plug.split?_join_isSome filled undotted attrFilled
    exact wf.plugChannels_undivided split
  cases attrs with
  | bare => cases taken
  | one attr =>
    cases taken
    rw [List.flatMap_singleton]
    exact plugged attr (by simpa [Attrs.isNamed] using attrsNamed)
  | many names =>
    cases taken
    intro channel member
    obtain ⟨plug, isPlug, inside⟩ := List.mem_flatMap.mp member
    obtain ⟨attr, isName, rfl⟩ := List.mem_map.mp isPlug
    have attrFilled : attr ≠ "" := by
      simpa using List.all_eq_true.mp attrsNamed attr isName
    exact plugged attr attrFilled channel inside

end WellFormed

mutual

/-- Every channel of an operand is without parts. -/
theorem WellFormed.unravel_undivided {s : Scene} (wf : s.WellFormed) (operand : Operand)
    (named : operand.isNamed = true) {channels : List Channel}
    (taken : s.unravel operand = .ok channels) : ∀ channel ∈ channels, s.Undivided channel := by
  cases operand with
  | number v =>
    cases taken
    exact List.forall_mem_singleton.mpr (s.undivided_literal v none)
  | value v =>
    cases taken
    intro channel member
    rw [Value.channels] at member
    split at member
    · exact List.mem_singleton.mp member ▸ s.undivided_literal _ _
    · obtain ⟨x, _, rfl⟩ := List.mem_map.mp member
      exact s.undivided_literal x none
  | path plug =>
    rw [unravel] at taken
    split at taken
    · rename_i there
      cases taken
      obtain ⟨⟨node, attr⟩, split⟩ := Option.isSome_iff_exists.mp there.1
      exact wf.plugChannels_undivided split
    · cases taken
  | node name attrs => exact wf.attrsChannels_undivided named taken
  | literal payload => exact wf.unravel_undivided payload named taken
  | list items => exact wf.unravelAll_undivided items named taken

theorem WellFormed.unravelAll_undivided {s : Scene} (wf : s.WellFormed) (items : List Operand)
    (named : Operand.areNamed items = true) {channels : List Channel}
    (taken : s.unravelAll items = .ok channels) :
    ∀ channel ∈ channels, s.Undivided channel := by
  cases items with
  | nil =>
    cases taken
    exact List.forall_mem_nil _
  | cons item rest =>
    obtain ⟨first, others, takenFirst, takenRest, rfl⟩ := unravelAll_cons_eq_ok taken
    obtain ⟨namedFirst, namedRest⟩ := Bool.and_eq_true_iff.mp named
    exact List.forall_mem_append.mpr ⟨wf.unravel_undivided item namedFirst takenFirst,
      wf.unravelAll_undivided rest namedRest takenRest⟩

end

/-- The channels of an operand, each of them written back, are taken apart into themselves, and no
plug among them has children. -/
theorem unravel_channels_again (s : Scene) (reachable : s.Reachable) (operand : Operand)
    (named : operand.isNamed = true) (channels : List Channel)
    (taken : s.unravel operand = .ok channels) (authored : Bool) :
    s.unravel (.list (channels.map (Channel.toOperand authored))) = .ok channels ∧
      ∀ text, .plug text ∈ channels →
        ∃ node attr, Plug.split? text = some (node, attr) ∧ s.children? node attr = none := by
  have undivided := reachable.wellFormed.unravel_undivided operand named taken
  exact ⟨unravelAll_undivided undivided authored, fun text member => undivided _ member text rfl⟩

/-- A nested operand with a compound, an array without an index, a comparison and a plug of a node
that is not there. -/
theorem unravel_channels_again_nested :
    ∃ s : Scene, s.Reachable ∧
      s.unravel (.list [.literal (.list [.path "pCube1.t", .number 2]),
        .node "pma" (.many ["input3D", "input3D[0].input3Dx"]),
        .value ⟨.bool true, "3 > 2", false⟩, .node "ab.c" (.one "d")]) =
      s.unravel (.list [.node "pCube1" (.one "translateX"), .node "pCube1" (.one "translateY"),
        .node "pCube1" (.one "translateZ"), .number 2, .node "pma" (.one "input3Dx"),
        .node "pma" (.one "input3Dy"), .node "pma" (.one "input3Dz"),
        .node "pma" (.one "input3D[0].input3Dx"), .value ⟨.number 1, "3 > 2", true⟩,
        .node "ab" (.one "c.d")]) ∧
      s.children? "pCube1" "t" = some ["translateX", "translateY", "translateZ"] ∧
      s.children? "pCube1" "translateX" = none := by
  let changes : List Change := [.create "plusMinusAverage" "pma", .addTransform "pCube1"]
  let operand : Operand := .list [.literal (.list [.path "pCube1.t", .number 2]),
    .node "pma" (.many ["input3D", "input3D[0].input3Dx"]),
    .value ⟨.bool true, "3 > 2", false⟩, .node "ab.c" (.one "d")]
  let channels : List Channel := [.plug "pCube1.translateX", .plug "pCube1.translateY",
    .plug "pCube1.translateZ", .literal 2 none, .plug "pma.input3Dx", .plug "pma.input3Dy",
    .plug "pma.input3Dz", .plug "pma.input3D[0].input3Dx", .literal 1 (some "3 > 2"),
    .plug "ab.c.d"]
  have reachable : (empty.run changes).Reachable := ⟨_, rfl⟩
  have named : operand.isNamed = true := by decide +kernel
  have taken : (empty.run changes).unravel operand = .ok channels := by decide +kernel
  have listed : (empty.run changes).children? "pCube1" "t" =
      some ["translateX", "translateY", "translateZ"] := by
    decide +kernel
  have split : Plug.split? "pCube1.translateX" = some ("pCube1", "translateX") := by decide +kernel
  have written : channels.map (Channel.toOperand true) =
      [.node "pCube1" (.one "translateX"), .node "pCube1" (.one "translateY"),
        .node "pCube1" (.one "translateZ"), .number 2, .node "pma" (.one "input3Dx"),
        .node "pma" (.one "input3Dy"), .node "pma" (.one "input3Dz"),
        .node "pma" (.one "input3D[0].input3Dx"), .value ⟨.number 1, "3 > 2", true⟩,
        .node "ab" (.one "c.d")] := by
    rfl
  generalize empty.run changes = s at *
  obtain ⟨again, childless⟩ := unravel_channels_again s reachable operand named channels taken true
  obtain ⟨node, attr, splitAgain, none⟩ := childless "pCube1.translateX" List.mem_cons_self
  obtain ⟨rfl, rfl⟩ := Prod.mk.inj (Option.some.inj (split.symm.trans splitAgain))
  rw [written] at again
  exact ⟨s, reachable, taken.trans again.symm, listed, none⟩

end Scene

end FormulaNet
