/-
This file compares applying an operation with wiring its node by hand. Applying
takes all operands apart before the node is there and checks how wide they are;
by hand the node is created, and then its mode and its operands are set or
connected one after the other, each operand taken apart when its turn comes.
Where the plugs that the operands name exist beforehand, the operands fall into
the same channels at any later time, and the slots of a node are never
compounds, so both make the same calls.
-/

import FormulaNet.Proofs.Formula

namespace FormulaNet

/-! ### Operands in a growing scene -/

namespace Operand

mutual

/-- The plugs that an operand names. -/
def plugs : Operand → List String
  | number _ => []
  | value _ => []
  | path plug => [plug]
  | node name attrs => (attrs.plugs? name).getD []
  | literal payload => payload.plugs
  | list items => plugsAll items

/-- The plugs that several operands name. -/
def plugsAll : List Operand → List String
  | [] => []
  | item :: rest => item.plugs ++ plugsAll rest

end

end Operand

namespace Scene

/-- A plug that exists keeps its channels. -/
theorem Grows.plugChannels {s after : Scene} (grows : Grows s after) {plug : String}
    (there : s.has plug = true) :
    after.plugChannels plug = s.plugChannels plug := by
  rcases (s.has_iff plug).mp there with isPlug | ⟨noPlug, _⟩
  · obtain ⟨⟨node, place⟩, found⟩ := Option.isSome_iff_exists.mp isPlug
    rw [plugChannels_eq found, plugChannels_eq (grows.places plug _ found)]
  · simp only [Scene.plugChannels, noPlug]

mutual

/-- An operand whose plugs exist keeps its channels. -/
theorem Grows.unravel {s after : Scene} (grows : Grows s after) (operand : Operand)
    (there : ∀ plug ∈ operand.plugs, s.has plug = true) :
    after.unravel operand = s.unravel operand := by
  cases operand with
  | number v => rfl
  | value v => rfl
  | path plug =>
    have present : s.has plug = true := there plug (List.mem_singleton_self plug)
    rw [Scene.unravel, Scene.unravel, present, grows.has present, grows.plugChannels present]
  | node name attrs =>
    rw [Scene.unravel, Scene.unravel, attrsChannels, attrsChannels]
    rw [Operand.plugs] at there
    cases named : attrs.plugs? name with
    | none => rfl
    | some plugs =>
      rw [named] at there
      exact congrArg Except.ok
        (List.flatMap_congr fun plug member => grows.plugChannels (there plug member))
  | literal payload => exact Grows.unravel grows payload there
  | list items => exact Grows.unravelAll grows items there

theorem Grows.unravelAll {s after : Scene} (grows : Grows s after) (items : List Operand)
    (there : ∀ plug ∈ Operand.plugsAll items, s.has plug = true) :
    after.unravelAll items = s.unravelAll items := by
  cases items with
  | nil => rfl
  | cons item rest =>
    rw [Operand.plugsAll, List.forall_mem_append] at there
    rw [Scene.unravelAll, Scene.unravelAll, Grows.unravel grows item there.1,
      Grows.unravelAll grows rest there.2]

end

end Scene

/-! ### Slots as targets -/

/-- The attributes that an operand is wired to by hand: the only slot of its group, or as many of
its slots as the widest operand has channels. -/
def slotAttrs (width : Nat) : List String → Attrs
  | [slot] => .one slot
  | group => .many (group.take width)

namespace Scene

/-- A slot is its own channel, whether or not it exists. -/
theorem plugChannels_slot {s : Scene} {node slot : String} {n : Node} (free : '.' ∉ node.toList)
    (found : s.node? node = some n)
    (narrow : ∀ place, n.layout.find? slot = some place → place.parts? = none) :
    s.plugChannels (Plug.join node slot) = [.plug (Plug.join node slot)] := by
  unfold plugChannels
  split
  · rename_i owner attr split
    obtain ⟨_, _, freeOwner, joined⟩ := (Plug.split?_eq_some_iff _ _ _).mp split
    obtain ⟨rfl, rfl⟩ := Plug.join_inj freeOwner free joined
    have childless : s.children? owner attr = none := by
      rw [children?, locate?_eq, found, Option.bind_some]
      cases located : n.layout.find? attr with
      | none => rfl
      | some place => exact Place.children?_of_parts? (narrow place located)
    rw [childless]
  · rfl

theorem unravel_slots {s : Scene} {node : String} {n : Node} {key : String × Option Nat}
    {slots : List String} (free : '.' ∉ node.toList) (found : s.node? node = some n)
    (grouped : Grouped n.layout key slots) {attrs : Attrs}
    (named : attrs.plugs? node = some (slots.map (Plug.join node))) :
    s.unravel (.node node attrs) = .ok (slots.map fun slot => .plug (Plug.join node slot)) := by
  have single : ∀ slot ∈ slots,
      s.plugChannels (Plug.join node slot) = [.plug (Plug.join node slot)] := fun slot member =>
    plugChannels_slot free found fun place located => (grouped.narrow slot member place located).2.2
  rw [unravel, attrsChannels, named]
  dsimp only
  rw [List.flatMap_map, List.flatMap_congr single, ← List.map_eq_flatMap]

end Scene

theorem Operation.slotsFor_slotAttrs {op : Operation} {width : Nat} {operand : Operand}
    {channels : List Channel} {group slots : List String}
    (chosen : op.slotsFor width operand channels group = .ok slots) (node : String) :
    (slotAttrs width group).plugs? node = some (slots.map (Plug.join node)) := by
  unfold slotsFor at chosen
  split at chosen
  · split at chosen
    · cases chosen
    · cases chosen
      rfl
  · rename_i several
    split at chosen
    · cases chosen
    · cases chosen
      rw [slotAttrs]
      · rfl
      · exact several

/-! ### Wiring by hand -/

namespace Program

/-- Sets or connects operands to their slot groups, in order. -/
def supplyAll (o : Options) (node : String) (width : Nat) :
    List (Operand × List String) → Program Unit
  | [] => pure ()
  | (operand, group) :: rest => do
    setOrConnect o (.node node (slotAttrs width group)) operand
    supplyAll o node width rest

/-- Sets the mode of a node like any other attribute. -/
def supplyMode (o : Options) (node : String) : Option Int → Program Unit
  | none => pure ()
  | some mode => setOrConnect o (.node node (.one "operation")) (.number (Float.ofInt mode))

/-- Creates the node of an operation, and wires its mode and its operands by hand. -/
def assemble (o : Options) (op : Operation) (width : Nat) (operands : List Operand) :
    Program String := do
  let node ← create op.nodeType (op.nodeName o operands)
  supplyMode o node op.mode
  supplyAll o node width (operands.zip (op.slotGroups operands.length))
  pure node

variable {o : Options} {op : Operation} {node : String} {n : Node} {width : Nat}
  {s after : Session}

/-- The session goes on with the scene that an operand was taken apart in, and with a node in it. -/
structure Continues (start : Scene) (node : String) (n : Node) (s : Session) : Prop where
  grows : Scene.Grows start s.scene
  found : s.scene.node? node = some n

/-- What was created is there, and everything else still is. -/
theorem continues_create {type name : String}
    (done : exec (create type name) s = (.ok node, after)) :
    ∃ layout, Layout.ofType? type = some layout ∧ '.' ∉ node.toList ∧
      Continues s.scene node ⟨node, type, layout⟩ after := by
  rcases exec_create_cases type name s with
    ⟨e, fault, message, run⟩ | ⟨assigned, scene, fault, made, run⟩
  · rw [run] at done
    cases done
  · rw [run] at done
    cases done
    obtain ⟨fresh, _, free⟩ := Scene.create_name made
    obtain ⟨layout, typed, rfl⟩ := Scene.create_withNode made
    exact ⟨layout, typed, free, s.scene.grows_withNode _, Scene.node?_withNode_self fresh⟩

theorem Continues.wire (free : '.' ∉ node.toList) {scene : Scene}
    (continues : Continues scene node n s) (slots : List String) {sources : List Channel}
    (done : exec (wire o (slots.map fun slot => .plug (Plug.join node slot)) sources) s =
      (.ok (), after)) : Continues scene node n after := by
  have only := onlyOn_wire o free slots sources s
  rw [done] at only
  refine ⟨continues.grows.trans (.of_nodes only.nodes), ?_⟩
  rw [Scene.node?, only.nodes]
  exact continues.found

theorem exec_supplyMode (free : '.' ∉ node.toList) {scene : Scene} {mode : Option Int}
    (continues : Continues scene node n s) (grouped : Scene.Grouped n.layout modeKey ["operation"])
    (done : exec (setMode o node mode) s = (.ok (), after)) :
    exec (supplyMode o node mode) s = (.ok (), after) ∧ Continues scene node n after := by
  cases mode with
  | none =>
    cases done
    exact ⟨rfl, continues⟩
  | some mode =>
    refine ⟨?_, continues.wire free ["operation"] done⟩
    refine (exec_setOrConnect ?_ rfl).trans done
    exact Scene.unravel_slots free continues.found grouped rfl

/-- Feeding a group is setting or connecting its operand, taken apart anew. -/
theorem exec_supply (free : '.' ∉ node.toList) {scene : Scene}
    (continues : Continues scene node n s) {f : Feed} {key : String × Option Nat}
    (grouped : Scene.Grouped n.layout key f.group)
    (there : ∀ plug ∈ f.operand.plugs, scene.has plug = true)
    (taken : scene.unravel f.operand = .ok f.channels)
    (done : exec (feed o op node width f) s = (.ok (), after)) :
    exec (setOrConnect o (.node node (slotAttrs width f.group)) f.operand) s = (.ok (), after) ∧
      Continues scene node n after := by
  rw [feed] at done
  split at done
  · cases done
  · rename_i slots chosen
    have part := (Operation.slotsFor_eq_ok chosen).1
    have targets := Scene.unravel_slots free continues.found (grouped.sublist part)
      (Operation.slotsFor_slotAttrs chosen node)
    have sources := (continues.grows.unravel f.operand there).trans taken
    refine ⟨?_, continues.wire free slots done⟩
    exact (exec_setOrConnect targets sources).trans done

theorem exec_supplyAll (free : '.' ∉ node.toList) {scene : Scene}
    (continues : Continues scene node n s) {keys : List (String × Option Nat)}
    {groups : List (List String)} (grouped : List.Forall₂ (Scene.Grouped n.layout) keys groups)
    {operands : List Operand} {channels : List (List Channel)}
    (there : ∀ operand ∈ operands, ∀ plug ∈ operand.plugs, scene.has plug = true)
    (taken : scene.unravelEach operands = .ok channels)
    (done : exec (feedAll o op node width (feeds operands channels groups)) s = (.ok (), after)) :
    exec (supplyAll o node width (operands.zip groups)) s = (.ok (), after) := by
  -- Along the groups: each operand finds the scene grown, and the node as it was created.
  induction grouped generalizing s operands channels with
  | nil =>
    rw [feeds, List.zipWith_nil_right] at done
    rw [List.zip_nil_right]
    exact done
  | @cons key group keys groups groupedFirst _ inductionHypothesis =>
    cases operands with
    | nil => exact done
    | cons operand rest =>
      obtain ⟨thereFirst, thereRest⟩ := List.forall_mem_cons.mp there
      rw [Scene.unravelEach] at taken
      split at taken
      · cases taken
      · rename_i cs takenFirst
        cases takenRest : scene.unravelEach rest with
        | error e =>
          rw [takenRest] at taken
          cases taken
        | ok others =>
          rw [takenRest] at taken
          cases taken
          obtain ⟨_, between, first, later⟩ := exec_bind_ok done
          obtain ⟨again, continuesBetween⟩ :=
            exec_supply free continues groupedFirst thereFirst takenFirst first
          rw [List.zip_cons_cons, supplyAll, exec_bind, again]
          exact inductionHypothesis continuesBetween thereRest takenRest later

/-- Where all plugs that the operands name exist, an operation that is applied successfully does
what assembling its node by hand does: the same calls with the same answers, and so the same scene
and the same trace. -/
theorem apply_assembles (o : Options) {name : String} {operands : List Operand} {s after : Session}
    {result : Reference}
    (there : ∀ operand ∈ operands, ∀ plug ∈ operand.plugs, s.scene.has plug = true)
    (done : exec (apply o name operands) s = (.ok result, after)) :
    ∃ op channels node, Registry.builtin.lookup? name = some op ∧
      s.scene.unravelEach operands = .ok channels ∧
      result = .node node (op.resultAttrs (widest channels)) ∧
      exec (assemble o op (widest channels) operands) s = (.ok node, after) := by
  obtain ⟨op, channels, known, accepted, taken, built⟩ := exec_apply_ok done
  rw [build_eq] at built
  obtain ⟨node, created, creating, rest⟩ := exec_bind_ok built
  obtain ⟨_, final, filled, last⟩ := exec_bind_ok rest
  cases last
  obtain ⟨_, between, moded, fed⟩ := exec_bind_ok filled
  refine ⟨op, channels, node, known, taken, rfl, ?_⟩
  obtain ⟨layout, typed, free, continues⟩ := continues_create creating
  have fits := Operation.fits_of_mem_builtin (mem_builtin_of_lookup? known) typed accepted
  obtain ⟨keys, grouped, _⟩ := fits.groups
  obtain ⟨modedByHand, continuesBetween⟩ := exec_supplyMode free continues fits.mode moded
  have fedByHand := exec_supplyAll free continuesBetween grouped there taken fed
  rw [assemble, exec_bind, creating]
  dsimp only
  rw [exec_bind, modedByHand]
  dsimp only
  rw [exec_bind, fedByHand]
  rfl

/-- The dot product of a vector and a number, with a flag, in a scene with a transform. -/
theorem apply_assembles_transform :
    ∃ (operands : List Operand) (s after : Session) (result : Reference),
      operands = [.path "pCube1.t", .node "pCube1" (.one "sx"), .number 1] ∧
      s.scene = Scene.empty.run [.addTransform "pCube1"] ∧
      exec (apply .default "dot" operands) s = (.ok result, after) ∧
      ∃ op channels node, Registry.builtin.lookup? "dot" = some op ∧
        s.scene.unravelEach operands = .ok channels ∧
        result = .node node (op.resultAttrs (widest channels)) ∧
        exec (assemble .default op (widest channels) operands) s = (.ok node, after) := by
  let operands : List Operand := [.path "pCube1.t", .node "pCube1" (.one "sx"), .number 1]
  let s : Session := .start (.ofScene (Scene.empty.run [.addTransform "pCube1"]) "")
  have there : ∀ operand ∈ operands, ∀ plug ∈ operand.plugs, s.scene.has plug = true := by
    decide +kernel
  have succeeds : (exec (apply .default "dot" operands) s).1.toOption.isSome = true := by
    decide +kernel
  cases run : exec (apply .default "dot" operands) s with
  | mk answer after =>
    rw [run] at succeeds
    cases answer with
    | error e => cases succeeds
    | ok result =>
      exact ⟨operands, s, after, result, rfl, rfl, run, apply_assembles .default there run⟩

end Program

end FormulaNet
