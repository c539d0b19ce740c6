/-
This file says what reaches a plug and what an operand stands for, without
looking at how operands are wired. A plug of one channel is driven by the plug
connected into it; failing that, by the corresponding channel of the compound
that is connected into the compound it belongs to; failing that, by the number
it holds. An operand supplies drivers in turn: a number or scalar value itself,
a plug of one channel that plug, a compound its children, and a list what its
items supply. Taking an operand apart gives channels that carry exactly what it
supplies.
-/

import Mathlib.Data.List.Forall2
import FormulaNet.Proofs.Frame

namespace FormulaNet

/-- What a channel gets its number from: a plug, in its canonical spelling, or a number. -/
inductive Driver where
  | plug (plug : String)
  | literal (value : Float)
  deriving DecidableEq

/-- What the target at a position gets of several drivers: its own, or the only one there is. -/
def Driver.share? : List Driver → Nat → Option Driver
  | [only], _ => some only
  | drivers, j => drivers[j]?

theorem Driver.share?_of_getElem? {drivers : List Driver} {j : Nat} {driver : Driver}
    (own : drivers[j]? = some driver) : share? drivers j = some driver := by
  match drivers with
  | [] => exact own
  | [only] =>
    obtain ⟨_, equal⟩ := List.getElem?_eq_some_iff.mp own
    simp only [List.getElem_singleton] at equal
    exact congrArg some equal
  | _ :: _ :: _ => exact own

namespace Place

/-- The compound that a child belongs to, and which of the children it is. -/
def compound? : Place → Option (Place × Nat)
  | child a c => (a.children.idxOf? c).map fun j => (whole a, j)
  | elementChild a index c => (a.children.idxOf? c).map fun j => (element a index, j)
  | _ => none

/-- The attribute, or element of one, that a place is part of. -/
def key : Place → String × Option Nat
  | whole a => (a.long, none)
  | child a _ => (a.long, none)
  | element a index => (a.long, some index)
  | elementChild a index _ => (a.long, some index)

/-- A compound is part of the same attribute as its children. -/
theorem key_of_compound? {place parent : Place} {j : Nat}
    (belongs : place.compound? = some (parent, j)) : parent.key = place.key := by
  cases place with
  | whole a => cases belongs
  | element a index => cases belongs
  | child a c =>
    obtain ⟨_, _, equal⟩ := Option.map_eq_some_iff.mp belongs
    cases equal
    rfl
  | elementChild a index c =>
    obtain ⟨_, _, equal⟩ := Option.map_eq_some_iff.mp belongs
    cases equal
    rfl

theorem On.of_compound? {layout : Layout} {place parent : Place} {j : Nat} (on : place.On layout)
    (belongs : place.compound? = some (parent, j)) : parent.On layout := by
  cases place with
  | whole a => cases belongs
  | element a index => cases belongs
  | child a c =>
    obtain ⟨_, _, equal⟩ := Option.map_eq_some_iff.mp belongs
    cases equal
    exact on.1
  | elementChild a index c =>
    obtain ⟨_, _, equal⟩ := Option.map_eq_some_iff.mp belongs
    cases equal
    exact ⟨on.1, on.2.1, on.2.2.1⟩

theorem parts?_of_compound? {place parent : Place} {j : Nat}
    (belongs : place.compound? = some (parent, j)) : parent.parts? ≠ none := by
  cases place with
  | whole a => cases belongs
  | element a index => cases belongs
  | child a c =>
    obtain ⟨i, known, equal⟩ := Option.map_eq_some_iff.mp belongs
    cases equal
    have inside := List.isSome_idxOf?.mp (Option.isSome_of_eq_some known)
    simp [parts?, Attribute.isCompound_of_mem inside]
  | elementChild a index c =>
    obtain ⟨i, known, equal⟩ := Option.map_eq_some_iff.mp belongs
    cases equal
    have inside := List.isSome_idxOf?.mp (Option.isSome_of_eq_some known)
    simp [parts?, Attribute.isCompound_of_mem inside]

end Place

namespace Scene

/-! ### Drivers -/

/-- The plugs that a compound plug consists of. -/
def parts? (s : Scene) (plug : String) : Option (List String) :=
  (s.place? plug).bind fun (node, place) => place.parts?.map fun parts =>
    parts.map (Plug.join node)

/-- The plug that reaches a place through the compound it belongs to. -/
def inherited? (s : Scene) (node : String) (place : Place) : Option String :=
  place.compound?.bind fun (parent, j) =>
    (s.connections.find? (Plug.join node parent.path)).bind fun source =>
      (s.parts? source).bind fun parts => parts[j]?

/-- What drives a place. -/
def driverAt (s : Scene) (node : String) (place : Place) : Driver :=
  match s.connections.find? (Plug.join node place.path) with
  | some source => .plug source
  | none =>
    match s.inherited? node place with
    | some part => .plug part
    | none => .literal (s.stored node place.path place.default)

/-- What drives a plug. -/
def driver? (s : Scene) (plug : String) : Option Driver :=
  (s.place? plug).map fun (node, place) => s.driverAt node place

/-! ### What operands supply -/

/-- What a plug supplies: itself, or its children if it is a compound. Arrays of compounds supply
nothing as a whole. -/
def plugSupply? (s : Scene) (plug : String) : Option (List Driver) :=
  (s.place? plug).bind fun (node, place) =>
    match place.parts? with
    | none => some [.plug (Plug.join node place.path)]
    | some parts =>
      if place.owner.multi then none else some (parts.map fun part => .plug (Plug.join node part))

/-- What several plugs supply, one after the other. -/
def plugsSupply? (s : Scene) : List String → Option (List Driver)
  | [] => some []
  | plug :: rest =>
    (s.plugSupply? plug).bind fun first => (s.plugsSupply? rest).map (first ++ ·)

mutual

/-- What an operand supplies, if all it names exists. -/
def supply? (s : Scene) : Operand → Option (List Driver)
  | .number v => some [.literal v]
  | .value v => v.payload.scalar?.map fun x => [.literal x]
  | .path plug => s.plugSupply? plug
  | .node name attrs => (attrs.plugs? name).bind s.plugsSupply?
  | .literal payload => s.supply? payload
  | .list items => s.supplyAll? items

/-- What several operands supply, one after the other. -/
def supplyAll? (s : Scene) : List Operand → Option (List Driver)
  | [] => some []
  | item :: rest => (s.supply? item).bind fun first => (s.supplyAll? rest).map (first ++ ·)

end

namespace Grows

variable {s after : Scene} (grows : Grows s after)
include grows

theorem plugSupply {plug : String} {drivers : List Driver}
    (known : s.plugSupply? plug = some drivers) : after.plugSupply? plug = some drivers := by
  obtain ⟨found, there, supplies⟩ := Option.bind_eq_some_iff.mp known
  rw [plugSupply?, grows.places plug found there]
  exact supplies

theorem plugsSupply {plugs : List String} {drivers : List Driver}
    (known : s.plugsSupply? plugs = some drivers) : after.plugsSupply? plugs = some drivers := by
  induction plugs generalizing drivers with
  | nil => exact known
  | cons plug rest inductionHypothesis =>
    obtain ⟨first, knownFirst, others⟩ := Option.bind_eq_some_iff.mp known
    obtain ⟨later, knownRest, rfl⟩ := Option.map_eq_some_iff.mp others
    rw [plugsSupply?, grows.plugSupply knownFirst, Option.bind_some, inductionHypothesis knownRest,
      Option.map_some]

end Grows

mutual

/-- What an operand supplies, it supplies as the scene grows. -/
theorem Grows.supply {s after : Scene} (grows : Grows s after) (operand : Operand)
    {drivers : List Driver} (known : s.supply? operand = some drivers) :
    after.supply? operand = some drivers := by
  cases operand with
  | number v => exact known
  | value v => exact known
  | path plug => exact grows.plugSupply known
  | node name attrs =>
    obtain ⟨plugs, named, supplies⟩ := Option.bind_eq_some_iff.mp known
    rw [supply?, named, Option.bind_some]
    exact grows.plugsSupply supplies
  | literal payload => exact grows.supply payload known
  | list items => exact grows.supplyAll items known

theorem Grows.supplyAll {s after : Scene} (grows : Grows s after) (items : List Operand)
    {drivers : List Driver} (known : s.supplyAll? items = some drivers) :
    after.supplyAll? items = some drivers := by
  cases items with
  | nil => exact known
  | cons item rest =>
    obtain ⟨first, knownFirst, others⟩ := Option.bind_eq_some_iff.mp known
    obtain ⟨later, knownRest, rfl⟩ := Option.map_eq_some_iff.mp others
    rw [supplyAll?, grows.supply item knownFirst, Option.bind_some,
      grows.supplyAll rest knownRest, Option.map_some]

end

/-! ### What channels carry -/

/-- A channel that carries what a driver gives. -/
def Carries (s : Scene) : Channel → Driver → Prop
  | .literal value _, .literal given => value = given
  | .plug plug, .plug canonical => s.canonical? plug = some canonical ∧ s.width? plug = some 1
  | _, _ => False

theorem Grows.carries {s after : Scene} (grows : Grows s after) {channel : Channel} {driver : Driver}
    (known : s.Carries channel driver) : after.Carries channel driver := by
  cases channel with
  | literal value expression => cases driver <;> exact known
  | plug plug =>
    cases driver with
    | literal given => exact known
    | plug canonical => exact ⟨grows.canonical known.1, grows.width known.2⟩

theorem carries_of_place? {s : Scene} {plug node : String} {place : Place}
    (there : s.place? plug = some (node, place)) (narrow : place.width = 1) :
    s.Carries (.plug plug) (.plug (Plug.join node place.path)) := by
  refine ⟨?_, ?_⟩
  · rw [canonical?, there]
    rfl
  · rw [width?, there]
    exact congrArg some narrow

/-- A channel with the text of a plug carries that plug. -/
theorem Carries.eq_plug {s : Scene} {text node : String} {place : Place} {driver : Driver}
    (carries : s.Carries (.plug text) driver) (there : s.place? text = some (node, place)) :
    driver = .plug (Plug.join node place.path) := by
  cases driver with
  | literal given => cases carries
  | plug known =>
    have canonical := carries.1
    rw [canonical?, there] at canonical
    exact congrArg Driver.plug (Option.some.inj canonical).symm

/-- A child of a compound is found under its long name. -/
theorem WellFormed.place?_child {s : Scene} (wf : s.WellFormed) {plug node : String} {a : Attribute}
    {c : Attribute.Child} (there : s.place? plug = some (node, .whole a)) (single : a.multi = false)
    (inside : c ∈ a.children) : s.place? (Plug.join node c.long) = some (node, .child a c) := by
  obtain ⟨attr, n, _, found, located⟩ := (s.place?_eq_some_iff _ _ _).mp there
  have on : (Place.child a c).On n.layout := ⟨Layout.on_of_find? located, single, inside⟩
  have designated := wf.place?_path found on
  exact designated

theorem plugChannels_eq {s : Scene} {plug node : String} {place : Place}
    (there : s.place? plug = some (node, place)) :
    s.plugChannels plug =
      match place.children? with
      | some children => children.map fun c => .plug (Plug.join node c)
      | none => [.plug plug] := by
  obtain ⟨attr, n, split, found, located⟩ := (s.place?_eq_some_iff _ _ _).mp there
  have children : s.children? node attr = place.children? := by
    rw [children?, locate?_eq, found, Option.bind_some, located, Option.bind_some]
  unfold plugChannels
  cases listed : place.children? <;> simp only [split, children, listed]

/-- The channels of a plug carry what it supplies. -/
theorem WellFormed.plugChannels_carry {s : Scene} (wf : s.WellFormed) {plug : String}
    {drivers : List Driver} (known : s.plugSupply? plug = some drivers) :
    List.Forall₂ s.Carries (s.plugChannels plug) drivers := by
  obtain ⟨⟨node, place⟩, there, supplies⟩ := Option.bind_eq_some_iff.mp known
  obtain ⟨_, n, _, _, located⟩ := (s.place?_eq_some_iff _ _ _).mp there
  have on := Layout.on_of_find? located
  rw [plugChannels_eq there]
  dsimp only at supplies
  cases parts : place.parts? with
  | none =>
    rw [parts] at supplies
    cases supplies
    rw [Place.children?_of_parts? parts]
    exact .cons (carries_of_place? there (by rw [Place.width, parts])) .nil
  | some names =>
    rw [parts] at supplies
    cases place with
    | whole a =>
      have compound : (Place.whole a).children? = some names := parts
      cases single : a.multi with
      | true => simp [Place.owner, single] at supplies
      | false =>
        simp only [Place.owner, single, Bool.false_eq_true, if_false, Option.some.injEq] at supplies
        rw [compound, ← supplies]
        dsimp only
        rw [List.forall₂_map_left_iff, List.forall₂_map_right_iff, List.forall₂_same]
        intro name member
        have named : a.childNames = names := by
          rw [Place.parts?] at parts
          split at parts
          · exact Option.some.inj parts
          · cases parts
        rw [← named] at member
        obtain ⟨c, inside, rfl⟩ := List.mem_map.mp member
        exact carries_of_place? (wf.place?_child there single inside) rfl
    | element a index => simp [Place.owner, on.2.1] at supplies
    | child a c => cases parts
    | elementChild a index c => cases parts

theorem WellFormed.plugsChannels_carry {s : Scene} (wf : s.WellFormed) {plugs : List String}
    {drivers : List Driver} (known : s.plugsSupply? plugs = some drivers) :
    List.Forall₂ s.Carries (plugs.flatMap s.plugChannels) drivers := by
  induction plugs generalizing drivers with
  | nil =>
    cases known
    exact .nil
  | cons plug rest inductionHypothesis =>
    obtain ⟨first, knownFirst, others⟩ := Option.bind_eq_some_iff.mp known
    obtain ⟨later, knownRest, rfl⟩ := Option.map_eq_some_iff.mp others
    rw [List.flatMap_cons]
    exact List.rel_append (wf.plugChannels_carry knownFirst) (inductionHypothesis knownRest)

mutual

/-- Taking an operand apart gives channels that carry what it supplies. -/
theorem WellFormed.unravel_carries {s : Scene} (wf : s.WellFormed) (operand : Operand)
    {drivers : List Driver} (known : s.supply? operand = some drivers) :
    ∃ channels, s.unravel operand = .ok channels ∧ List.Forall₂ s.Carries channels drivers := by
  cases operand with
  | number v =>
    cases known
    exact ⟨_, rfl, .cons rfl .nil⟩
  | value v =>
    obtain ⟨x, scalar, rfl⟩ := Option.map_eq_some_iff.mp known
    refine ⟨[.literal x (some v.expression)], ?_, .cons rfl .nil⟩
    rw [unravel, Value.channels, scalar]
  | path plug =>
    have carry := wf.plugChannels_carry known
    obtain ⟨found, there, _⟩ := Option.bind_eq_some_iff.mp known
    obtain ⟨attr, n, split, _⟩ := (s.place?_eq_some_iff _ _ _).mp there
    refine ⟨_, ?_, carry⟩
    rw [unravel, if_pos ⟨by rw [split]; rfl, has_of_place? there⟩]
  | node name attrs =>
    obtain ⟨plugs, named, supplies⟩ := Option.bind_eq_some_iff.mp known
    refine ⟨_, ?_, wf.plugsChannels_carry supplies⟩
    rw [unravel, attrsChannels, named]
  | literal payload => exact wf.unravel_carries payload known
  | list items => exact wf.unravelAll_carries items known

theorem WellFormed.unravelAll_carries {s : Scene} (wf : s.WellFormed) (items : List Operand)
    {drivers : List Driver} (known : s.supplyAll? items = some drivers) :
    ∃ channels, s.unravelAll items = .ok channels ∧
      List.Forall₂ s.Carries channels drivers := by
  cases items with
  | nil =>
    cases known
    exact ⟨[], rfl, .nil⟩
  | cons item rest =>
    obtain ⟨first, knownFirst, others⟩ := Option.bind_eq_some_iff.mp known
    obtain ⟨later, knownRest, rfl⟩ := Option.map_eq_some_iff.mp others
    obtain ⟨channels, taken, carry⟩ := wf.unravel_carries item knownFirst
    obtain ⟨more, takenRest, carryRest⟩ := wf.unravelAll_carries rest knownRest
    refine ⟨channels ++ more, ?_, List.rel_append carry carryRest⟩
    rw [unravelAll, taken, takenRest]
    rfl

end

end Scene

end FormulaNet
