/-
This file follows the building of one node. Groups are wired one after the
other, each under a key of its own, so that a group keeps the drivers it got
while the others are wired, and the mode keeps its number. Since the node is
new, nothing was connected into it before. What comes out stands for the
operation: a node of its type, with its mode, and with every slot driven by its
share of what the operand of its group supplies.
-/

import FormulaNet.Proofs.Slots

namespace FormulaNet

/-! ### Slots of a group -/

/-- The slots of a group that are to be driven, by position: the only slot, or as many as the widest
operand has channels. -/
def Operation.Fills (width : Nat) (group : List String) (j : Nat) : Prop :=
  if group.length = 1 then j = 0 else j < width

theorem Operation.slotsFor_eq_ok {op : Operation} {width : Nat} {operand : Operand}
    {channels : List Channel} {group slots : List String}
    (chosen : op.slotsFor width operand channels group = .ok slots) :
    slots.Sublist group ∧ ∀ j, Fills width group j →
      ∃ slot, group[j]? = some slot ∧ slots[j]? = some slot := by
  unfold slotsFor at chosen
  split at chosen
  · rename_i slot
    split at chosen
    · cases chosen
    · cases chosen
      refine ⟨List.Sublist.refl _, fun j filled => ?_⟩
      rw [Fills, List.length_singleton, if_pos rfl] at filled
      exact ⟨slot, by rw [filled]; rfl, by rw [filled]; rfl⟩
  · rename_i several
    split at chosen
    · cases chosen
    · rename_i wide
      cases chosen
      refine ⟨List.take_sublist _ _, fun j filled => ?_⟩
      have notSingle : group.length ≠ 1 := by
        intro single
        obtain ⟨slot, rfl⟩ := List.length_eq_one_iff.mp single
        exact several slot rfl
      rw [Fills, if_neg notSingle] at filled
      have bound : j < group.length := Nat.lt_of_lt_of_le filled (Nat.le_of_not_lt wide)
      refine ⟨group[j], List.getElem?_eq_getElem bound, ?_⟩
      rw [List.getElem?_take_of_lt filled, List.getElem?_eq_getElem bound]

namespace Scene

theorem Grouped.sublist {layout : Layout} {key : String × Option Nat} {slots group : List String}
    (grouped : Grouped layout key group) (part : slots.Sublist group) : Grouped layout key slots where
  distinct := part.nodup grouped.distinct
  narrow slot inside := grouped.narrow slot (part.subset inside)

/-- Every slot of a group that is to be driven is driven by its share of several drivers. -/
def Feeds (s : Scene) (node : String) (width : Nat) (group : List String)
    (drivers : List Driver) : Prop :=
  ∀ j, Operation.Fills width group j → ∃ slot driver, group[j]? = some slot ∧
    Driver.share? drivers j = some driver ∧ s.driver? (Plug.join node slot) = some driver

theorem Feeds.mono {s after : Scene} {node : String} {width : Nat} {group : List String}
    {drivers : List Driver} (feeds : s.Feeds node width group drivers)
    (keeps : ∀ slot ∈ group, ∀ driver, s.driver? (Plug.join node slot) = some driver →
      after.driver? (Plug.join node slot) = some driver) :
    after.Feeds node width group drivers := by
  intro j filled
  obtain ⟨slot, driver, atSlot, shared, drives⟩ := feeds j filled
  exact ⟨slot, driver, atSlot, shared, keeps slot (List.mem_of_getElem? atSlot) driver drives⟩

end Scene

/-! ### Feeding the groups of a node -/

namespace Program

variable {o : Options} {op : Operation} {node : String} {n : Node} {width : Nat} {s after : Session}

theorem wellFormed_wire (targets sources : List Channel) (wf : s.scene.WellFormed)
    (done : exec (wire o targets sources) s = (.ok (), after)) : after.scene.WellFormed := by
  have respects : Respects Session.Evolves (wire o targets sources) :=
    (covers_evolves o.force).wire fun _ _ _ => trivial
  have evolves := respects s
  rw [done] at evolves
  exact evolves.wellFormed wf

/-- Feeding one group changes nothing under other keys, and drives the slots of the group. -/
theorem feed_feeds (wf : s.scene.WellFormed) (found : s.scene.node? node = some n) {f : Feed}
    {key : String × Option Nat} (grouped : Scene.Grouped n.layout key f.group)
    (unwired : s.scene.Unwired node n.layout key) {drivers : List Driver}
    (carry : List.Forall₂ s.scene.Carries f.channels drivers)
    (done : exec (feed o op node width f) s = (.ok (), after)) :
    after.scene.WellFormed ∧ Scene.OnlyAt node n.layout [key] s.scene after.scene ∧
      after.scene.Feeds node width f.group drivers := by
  rw [feed] at done
  split at done
  · cases done
  · rename_i slots chosen
    obtain ⟨part, filled⟩ := Operation.slotsFor_eq_ok chosen
    obtain ⟨only, supplied⟩ := wire_supplied wf found (grouped.sublist part) unwired carry done
    refine ⟨wellFormed_wire _ _ wf done, only, fun j fills => ?_⟩
    obtain ⟨slot, atGroup, atSlot⟩ := filled j fills
    obtain ⟨driver, shared, drives⟩ := supplied j slot atSlot
    exact ⟨slot, driver, atGroup, shared, drives⟩

/-- Feeding groups in order changes nothing but what is under their keys, and drives the slots of
each group. -/
theorem feedAll_feeds {keys : List (String × Option Nat)} {all : List Feed}
    (grouped : List.Forall₂ (fun key f => Scene.Grouped n.layout key f.group) keys all)
    (distinct : keys.Nodup) (wf : s.scene.WellFormed) (found : s.scene.node? node = some n)
    (unwired : ∀ key ∈ keys, s.scene.Unwired node n.layout key) {supplies : List (List Driver)}
    (carry : List.Forall₂ (fun f drivers => List.Forall₂ s.scene.Carries f.channels drivers)
      all supplies)
    (done : exec (feedAll o op node width all) s = (.ok (), after)) :
    Scene.OnlyAt node n.layout keys s.scene after.scene ∧
      List.Forall₂ (fun f drivers => after.scene.Feeds node width f.group drivers) all
        supplies := by
  induction grouped generalizing s supplies with
  | nil =>
    cases carry
    cases done
    exact ⟨.refl _ _ _, .nil⟩
  | @cons key f keys rest groupedFirst groupedRest inductionHypothesis =>
    obtain ⟨_, between, first, others⟩ := exec_bind_ok done
    rw [List.nodup_cons] at distinct
    rw [List.forall_mem_cons] at unwired
    cases carry with
    | @cons _ drivers _ _ carryFirst carryRest =>
      obtain ⟨wfBetween, only, feeds⟩ := feed_feeds wf found groupedFirst unwired.1 carryFirst first
      have sound := wf.layouts n (Scene.mem_of_node? found).1
      have foundBetween : between.scene.node? node = some n := by
        rw [Scene.node?, only.nodes]
        exact found
      have grows : Scene.Grows s.scene between.scene := .of_nodes only.nodes
      obtain ⟨onlyRest, feedsRest⟩ := inductionHypothesis distinct.2 wfBetween foundBetween
        (fun later member => only.unwired sound
          (fun same => distinct.1 (List.mem_singleton.mp same ▸ member)) (unwired.2 later member))
        (carryRest.imp fun _ _ carries => carries.imp fun _ _ => grows.carries) others
      -- The other groups have other keys, so the first one keeps its drivers.
      refine ⟨only.trans onlyRest, .cons ?_ feedsRest⟩
      exact feeds.mono fun slot inside driver =>
        onlyRest.driver? wfBetween foundBetween groupedFirst distinct.1 inside

/-- Setting the mode of a node changes nothing under other keys, and drives it by its number. -/
theorem setMode_feeds {mode : Option Int} (wf : s.scene.WellFormed)
    (found : s.scene.node? node = some n)
    (grouped : Scene.Grouped n.layout modeKey ["operation"])
    (unwired : s.scene.Unwired node n.layout modeKey)
    (done : exec (setMode o node mode) s = (.ok (), after)) :
    after.scene.WellFormed ∧ Scene.OnlyAt node n.layout [modeKey] s.scene after.scene ∧
      ∀ number, mode = some number →
        after.scene.driver? (Plug.join node "operation") =
          some (.literal (Float.ofInt number)) := by
  cases mode with
  | none =>
    cases done
    exact ⟨wf, ⟨rfl, fun _ _ => ⟨rfl, rfl⟩⟩, fun _ absent => nomatch absent⟩
  | some number =>
    have carry : List.Forall₂ s.scene.Carries [.ofNumber (Float.ofInt number)]
        [.literal (Float.ofInt number)] := .cons rfl .nil
    obtain ⟨only, supplied⟩ := wire_supplied wf found grouped unwired carry done
    refine ⟨wellFormed_wire _ _ wf done, only, ?_⟩
    intro given same
    obtain ⟨driver, shared, drives⟩ := supplied 0 "operation" rfl
    rw [drives, ← Option.some.inj shared, Option.some.inj same]

end Program

/-! ### What stands for an operation -/

/-- The largest number of drivers that an operand supplies. -/
def breadth (supplies : List (List Driver)) : Nat :=
  supplies.foldr (fun drivers width => max drivers.length width) 0

/-- A node stands for an operation on operands that supply given drivers: it has the type of the
operation and holds its mode, and for each operand there is a group whose slots are driven by what
the operand supplies. -/
structure Scene.Realises (s : Scene) (op : Operation) (host : String)
    (supplies : List (List Driver)) : Prop where
  type : s.typeOf? host = some op.nodeType
  mode : ∀ number, op.mode = some number →
    s.driver? (Plug.join host "operation") = some (.literal (Float.ofInt number))
  groups : List.Forall₂ (s.Feeds host (breadth supplies)) (op.slotGroups supplies.length) supplies

namespace Program

theorem widest_eq_breadth {scene : Scene} {channels : List (List Channel)}
    {supplies : List (List Driver)}
    (carry : List.Forall₂ (List.Forall₂ scene.Carries) channels supplies) :
    widest channels = breadth supplies := by
  induction carry with
  | nil => rfl
  | cons head _ inductionHypothesis =>
    rw [widest, breadth, List.foldr_cons, List.foldr_cons, head.length_eq, ← widest, ← breadth,
      inductionHypothesis]

theorem map_group_feeds {operands : List Operand} {channels : List (List Channel)}
    {groups : List (List String)} (taken : channels.length = operands.length)
    (counted : groups.length = operands.length) :
    (feeds operands channels groups).map (·.group) = groups := by
  have paired : groups.length = (operands.zip channels).length := by
    rw [List.length_zip, taken, counted, Nat.min_self]
  rw [feeds, ← List.map_uncurry_zip_eq_zipWith, List.map_map]
  exact List.map_snd_zip (Nat.le_of_eq paired)

/-- With a group for each of them, all operands are fed with their channels. -/
theorem map_pair_feeds {operands : List Operand} {channels : List (List Channel)}
    {groups : List (List String)} (taken : channels.length = operands.length)
    (counted : groups.length = operands.length) :
    (feeds operands channels groups).map (fun f => (f.operand, f.channels)) =
      operands.zip channels := by
  have paired : (operands.zip channels).length = groups.length := by
    rw [List.length_zip, taken, counted, Nat.min_self]
  rw [feeds, ← List.map_uncurry_zip_eq_zipWith, List.map_map]
  exact List.map_fst_zip (Nat.le_of_eq paired)

theorem map_operand_feeds {operands : List Operand} {channels : List (List Channel)}
    {groups : List (List String)} (taken : channels.length = operands.length)
    (counted : groups.length = operands.length) :
    (feeds operands channels groups).map (·.operand) = operands := by
  have pairs := congrArg (List.map Prod.fst) (map_pair_feeds taken counted)
  rw [List.map_map, List.map_fst_zip (Nat.le_of_eq taken.symm)] at pairs
  exact pairs

theorem map_channels_feeds {operands : List Operand} {channels : List (List Channel)}
    {groups : List (List String)} (taken : channels.length = operands.length)
    (counted : groups.length = operands.length) :
    (feeds operands channels groups).map (·.channels) = channels := by
  have pairs := congrArg (List.map Prod.snd) (map_pair_feeds taken counted)
  rw [List.map_map, List.map_snd_zip (Nat.le_of_eq taken)] at pairs
  exact pairs

variable {o : Options} {op : Operation} {node : String} {n : Node} {s after : Session}

/-- Filling a node that nothing is connected into makes it stand for its operation. -/
theorem fill_realises {operands : List Operand} {channels : List (List Channel)}
    {supplies : List (List Driver)} (wf : s.scene.WellFormed)
    (found : s.scene.node? node = some n) (type : n.type = op.nodeType)
    (fits : op.Fits n.layout operands.length)
    (unwired : ∀ key, s.scene.Unwired node n.layout key)
    (taken : channels.length = operands.length)
    (carry : List.Forall₂ (List.Forall₂ s.scene.Carries) channels supplies)
    (done : exec (fill o op node operands channels) s = (.ok (), after)) :
    after.scene.nodes = s.scene.nodes ∧ after.scene.Realises op node supplies := by
  obtain ⟨_, between, set, fed⟩ := exec_bind_ok done
  obtain ⟨keys, grouped, distinct⟩ := fits.groups
  rw [List.nodup_cons] at distinct
  have sound := wf.layouts n (Scene.mem_of_node? found).1
  obtain ⟨wfBetween, only, moded⟩ := setMode_feeds wf found fits.mode (unwired modeKey) set
  have foundBetween : between.scene.node? node = some n := by
    rw [Scene.node?, only.nodes]
    exact found
  have grows : Scene.Grows s.scene between.scene := .of_nodes only.nodes
  have width := widest_eq_breadth carry
  have supplied : supplies.length = operands.length := carry.length_eq.symm.trans taken
  have groupsFed := map_group_feeds taken fits.length
  have channelsFed := map_channels_feeds taken fits.length
  rw [← groupsFed, List.forall₂_map_right_iff] at grouped
  rw [← channelsFed, List.forall₂_map_left_iff] at carry
  obtain ⟨onlyRest, feedsAll⟩ := feedAll_feeds grouped distinct.2 wfBetween foundBetween
    (fun key member => only.unwired sound
      (fun same => distinct.1 (List.mem_singleton.mp same ▸ member)) (unwired key))
    (carry.imp fun _ _ carries => carries.imp fun _ _ => grows.carries) fed
  have nodes : after.scene.nodes = s.scene.nodes := onlyRest.nodes.trans only.nodes
  refine ⟨nodes, ?_, ?_, ?_⟩
  · rw [Scene.typeOf?, Scene.node?, nodes, ← Scene.node?, found, Option.map_some, type]
  · intro number known
    exact onlyRest.driver? wfBetween foundBetween fits.mode distinct.1 List.mem_cons_self
      (moded number known)
  · rw [supplied, ← width, ← groupsFed, List.forall₂_map_left_iff]
    exact feedsAll

end Program

/-! ### Building a node -/

namespace Scene

/-- What is there stays there, with everything that is stored under it. -/
structure Keeps (s after : Scene) : Prop where
  grows : Grows s after
  same : ∀ node ∈ s.nodeNames, ∀ path, SameAt s after (Plug.join node path)

namespace Keeps

theorem refl (s : Scene) : Keeps s s := ⟨.refl s, fun _ _ _ => ⟨rfl, rfl⟩⟩

theorem trans {s between after : Scene} (first : Keeps s between) (second : Keeps between after) :
    Keeps s after where
  grows := first.grows.trans second.grows
  same node member path :=
    (first.same node member path).trans (second.same node (first.grows.node member) path)

variable {s after : Scene} (keeps : Keeps s after)
include keeps

theorem driver? (wf : s.WellFormed) {plug : String} {driver : Driver}
    (drives : s.driver? plug = some driver) : after.driver? plug = some driver := by
  obtain ⟨⟨node, place⟩, there, drivesAt⟩ := Option.map_eq_some_iff.mp drives
  obtain ⟨_, n, _, found, _⟩ := (s.place?_eq_some_iff _ _ _).mp there
  have member := (s.node?_isSome_iff node).mp (Option.isSome_of_eq_some found)
  have unchanged : after.driverAt node place = s.driverAt node place :=
    driverAt_congr wf keeps.grows (keeps.same node member _)
      fun parent j _ => (keeps.same node member _).2
  rw [Scene.driver?, keeps.grows.places _ _ there]
  exact congrArg some (unchanged.trans drivesAt)

theorem realises (wf : s.WellFormed) {op : Operation} {host : String}
    {supplies : List (List Driver)} (realised : s.Realises op host supplies) :
    after.Realises op host supplies where
  type := keeps.grows.types host _ realised.type
  mode number known := keeps.driver? wf (realised.mode number known)
  groups := realised.groups.imp fun _ _ feeds => feeds.mono fun _ _ _ => keeps.driver? wf

end Keeps

/-- Writing on a new node keeps the others as they are. -/
theorem OnlyOn.keeps {s created after : Scene} {type name node : String} (wf : s.WellFormed)
    (made : s.create type name = .ok (node, created)) (only : OnlyOn node created after) :
    Keeps s after := by
  obtain ⟨fresh, _, free⟩ := create_name made
  obtain ⟨layout, _, rfl⟩ := create_withNode made
  refine ⟨(s.grows_withNode ⟨node, type, layout⟩).trans (.of_nodes only.nodes), ?_⟩
  intro other member path
  have apart : ∀ written, Plug.join other path ≠ Plug.join node written := by
    intro written equal
    obtain ⟨n, inside, rfl⟩ := List.mem_map.mp member
    have same := (Plug.join_inj (wf.named n inside).2 free equal).1
    exact fresh (same ▸ member)
  exact ⟨only.values _ apart, only.connections _ apart⟩

/-- Nothing is connected into a node that is not there. -/
theorem WellFormed.unwired {s : Scene} (wf : s.WellFormed) {node : String}
    (free : '.' ∉ node.toList) (fresh : node ∉ s.nodeNames) (layout : Layout)
    (key : String × Option Nat) : s.Unwired node layout key := by
  intro place _ _
  cases connected : s.connections.find? (Plug.join node place.path) with
  | none => rfl
  | some source =>
    obtain ⟨known, _⟩ := wf.linked _ (Table.mem_entries_of_find? connected)
    exact absurd rfl (ne_join_of_canonical? free fresh known place.path)

end Scene

namespace Program

variable {o : Options} {op : Operation} {s after : Session}

theorem exec_build_ok {operands : List Operand} {channels : List (List Channel)}
    {result : Reference} (done : exec (build o op operands channels) s = (.ok result, after)) :
    ∃ name node created between, s.scene.create op.nodeType name = .ok (node, created) ∧
      between.scene = created ∧ exec (fill o op node operands channels) between = (.ok (), after) ∧
      result = .node node (op.resultAttrs (widest channels)) := by
  rw [build_eq] at done
  obtain ⟨node, between, created, rest⟩ := exec_bind_ok done
  obtain ⟨_, final, filled, last⟩ := exec_bind_ok rest
  cases last
  rcases exec_create_cases op.nodeType (op.nodeName o operands) s with
    ⟨e, fault, message, run⟩ | ⟨assigned, scene, fault, made, run⟩
  · rw [run] at created
    cases created
  · rw [run] at created
    cases created
    exact ⟨_, _, scene, _, made, rfl, filled, rfl⟩

/-- A node that was built is new and stands for its operation, and everything else is kept. -/
theorem build_realises {operands : List Operand} {channels : List (List Channel)}
    {supplies : List (List Driver)} {result : Reference} (wf : s.scene.WellFormed)
    (member : op ∈ Operation.builtin) (accepted : op.accepts operands.length = true)
    (taken : channels.length = operands.length)
    (carry : List.Forall₂ (List.Forall₂ s.scene.Carries) channels supplies)
    (done : exec (build o op operands channels) s = (.ok result, after)) :
    ∃ n, result = .node n.name (op.resultAttrs (breadth supplies)) ∧
      n.name ∉ s.scene.nodeNames ∧ after.scene.node? n.name = some n ∧
      op.Fits n.layout operands.length ∧ s.scene.Keeps after.scene ∧
      after.scene.Realises op n.name supplies := by
  obtain ⟨name, node, created, between, made, reached, filled, rfl⟩ := exec_build_ok done
  obtain ⟨fresh, _, free⟩ := Scene.create_name made
  have wfCreated := wf.create made
  have only := onlyOn_fill o op free operands channels between
  rw [filled, Session.OnlyOn, reached] at only
  have keeps := only.keeps wf made
  have unwired := wf.unwired free fresh
  obtain ⟨layout, typed, rfl⟩ := Scene.create_withNode made
  have fits := Operation.fits_of_mem_builtin member typed accepted
  have grows := s.scene.grows_withNode ⟨node, op.nodeType, layout⟩
  have found := Scene.node?_withNode_self (s := s.scene) (n := ⟨node, op.nodeType, layout⟩) fresh
  rw [← reached] at wfCreated found grows
  have unwiredBetween : ∀ key, between.scene.Unwired node layout key := by
    intro key
    rw [reached]
    exact unwired layout key
  obtain ⟨nodes, realised⟩ := fill_realises wfCreated found rfl fits unwiredBetween taken
    (carry.imp fun _ _ carries => carries.imp fun _ _ => grows.carries) filled
  refine ⟨⟨node, op.nodeType, layout⟩, ?_, fresh, ?_, fits, keeps, realised⟩
  · rw [widest_eq_breadth carry]
  · rw [Scene.node?, nodes]
    exact found

end Program

end FormulaNet
