/-
This file says which calls an operation accepts. Nothing but the numbers of
channels decides: a group of one slot takes one channel; a group of several
takes as many channels as the widest operand has, or one for all of them, as
long as the widest operand has any and no more than may be wired at once.
Everything else that could go wrong does not. The node gets a name the scene
takes, its slots exist, for every index that a word can hold, and being new it
has nothing connected into it and is none of the sources. What comes out is a
valid operand again.
-/

import FormulaNet.Proofs.Collapse
import FormulaNet.Proofs.Formula

namespace FormulaNet

/-! ### Dimensions -/

/-- The largest of several numbers of channels. -/
def largest (counts : List Nat) : Nat := counts.foldr max 0

theorem widest_eq_largest (channels : List (List Channel)) :
    widest channels = largest (channels.map List.length) := by
  rw [widest, largest, List.foldr_map]

namespace Operation

/-- Numbers of channels, one for each operand, that an operation takes: as many as it has groups for,
one for each group of one slot, and for a group of several slots either one or as many as the widest
operand has, which must be some and no more than the ceiling. -/
structure Takes (op : Operation) (ceiling : Nat) (counts : List Nat) : Prop where
  accepted : op.accepts counts.length = true
  single : ∀ pair ∈ (op.slotGroups counts.length).zip counts, pair.1.length = 1 → pair.2 = 1
  several : (∃ group ∈ op.slotGroups counts.length, 1 < group.length) →
    1 ≤ largest counts ∧ largest counts ≤ ceiling ∧
      ∀ pair ∈ (op.slotGroups counts.length).zip counts, 1 < pair.1.length →
        pair.2 = 1 ∨ pair.2 = largest counts

/-- What a number of channels must be for a group, if the widest operand has a given number. -/
def TakesAt (ceiling width : Nat) (group : List String) (count : Nat) : Prop :=
  if group.length = 1 then count = 1
  else 1 ≤ width ∧ width ≤ ceiling ∧ (count = 1 ∨ count = width)

/-- An operation takes what each of its groups takes. -/
theorem takes_iff {op : Operation} {ceiling : Nat} {counts : List Nat}
    (accepted : op.accepts counts.length = true)
    (filled : ∀ group ∈ op.slotGroups counts.length, 1 ≤ group.length)
    (lengths : (op.slotGroups counts.length).length = counts.length) :
    op.Takes ceiling counts ↔
      ∀ pair ∈ (op.slotGroups counts.length).zip counts,
        TakesAt ceiling (largest counts) pair.1 pair.2 := by
  constructor
  · rintro ⟨_, single, several⟩ ⟨group, count⟩ member
    have inside := (List.of_mem_zip member).1
    by_cases one : group.length = 1
    · rw [TakesAt, if_pos one]
      exact single _ member one
    · have many : 1 < group.length := Nat.lt_of_le_of_ne (filled group inside) (Ne.symm one)
      obtain ⟨some, fits, each⟩ := several ⟨group, inside, many⟩
      rw [TakesAt, if_neg one]
      exact ⟨some, fits, each _ member many⟩
  · intro each
    refine ⟨accepted, ?_, ?_⟩
    · rintro ⟨group, count⟩ member (one : group.length = 1)
      have takes := each _ member
      rwa [TakesAt, if_pos one] at takes
    · rintro ⟨group, inside, many⟩
      have takes {group : List String} {count : Nat}
          (member : (group, count) ∈ (op.slotGroups counts.length).zip counts)
          (many : 1 < group.length) :
          1 ≤ largest counts ∧ largest counts ≤ ceiling ∧ (count = 1 ∨ count = largest counts) := by
        have takes := each _ member
        rwa [TakesAt, if_neg (Nat.ne_of_gt many)] at takes
      obtain ⟨count, member⟩ : ∃ count, (group, count) ∈ (op.slotGroups counts.length).zip counts := by
        rw [← List.map_fst_zip (Nat.le_of_eq lengths)] at inside
        obtain ⟨⟨_, count⟩, member, rfl⟩ := List.mem_map.mp inside
        exact ⟨count, member⟩
      refine ⟨(takes member many).1, (takes member many).2.1, ?_⟩
      rintro ⟨other, count⟩ member (many : 1 < other.length)
      exact (takes member many).2.2

/-! ### Slots that exist -/

/-- The slots of all groups exist, and each group has one slot or as many as can be wired at once. -/
def Present (op : Operation) (layout : Layout) (operands : Nat) : Prop :=
  ∀ group ∈ op.slotGroups operands, (group.length = 1 ∨ group.length = maxChannels) ∧
    ∀ slot ∈ group, (layout.find? slot).isSome = true

theorem fixed_present : ∀ op ∈ builtin, op.multiIndex = false →
    ∀ layout ∈ Layout.ofType? op.nodeType, ∀ group ∈ op.inputs,
      (group.length = 1 ∨ group.length = maxChannels) ∧
        ∀ slot ∈ group, (layout.find? slot).isSome = true := by
  decide +kernel

theorem mode_present : ∀ op ∈ builtin, op.mode.isSome = true →
    ∀ layout ∈ Layout.ofType? op.nodeType, (layout.find? "operation").isSome = true := by
  decide +kernel

theorem type_present : ∀ op ∈ builtin, (Layout.ofType? op.nodeType).isSome = true := by
  decide +kernel

theorem selector_present {layout : Layout} (typed : Layout.ofType? "choice" = some layout) :
    (layout.find? "selector").isSome = true := by
  cases typed
  decide +kernel

/-- The slots of a built-in operation exist, for as many operands as a word can count. -/
theorem present_of_mem_builtin {op : Operation} (member : op ∈ builtin) {layout : Layout}
    (typed : Layout.ofType? op.nodeType = some layout) {operands : Nat}
    (counted : operands ≤ Number.largestWord) : op.Present layout operands := by
  have sound := Layout.sound_ofType? typed
  intro group inside
  rcases slotGroups_of_mem_builtin member operands with
    ⟨repeats, groups⟩ | ⟨_, isSum, _, groups⟩ | ⟨_, isChoice, _, groups⟩
  · rw [groups] at inside
    exact fixed_present op member repeats layout typed group inside
  · rw [groups] at inside
    obtain ⟨index, below, rfl⟩ := List.mem_map.mp inside
    have fits : index ≤ Number.largestWord :=
      Nat.le_trans (Nat.le_of_lt (List.mem_range.mp below)) counted
    refine ⟨Or.inr rfl, fun slot among => ?_⟩
    obtain ⟨c, child, rfl⟩ := List.mem_map.mp among
    rw [sound.find?_elementChild (summands_mem (isSum ▸ typed)) rfl child, if_pos fits]
    rfl
  · rw [groups] at inside
    rcases List.mem_append.mp inside with early | late
    · obtain ⟨index, below, rfl⟩ := List.mem_map.mp early
      have fits : index ≤ Number.largestWord := by
        have bound := List.mem_range.mp below
        omega
      refine ⟨Or.inl rfl, fun slot among => ?_⟩
      rw [List.mem_singleton.mp among, sound.find?_element (alternatives_mem (isChoice ▸ typed)) rfl,
        if_pos fits]
      rfl
    · rw [List.mem_singleton.mp late]
      refine ⟨Or.inl rfl, fun slot among => ?_⟩
      rw [List.mem_singleton.mp among]
      exact selector_present (isChoice ▸ typed)

end Operation

/-! ### Sources -/

namespace Scene

/-- A channel that can be wired to a slot: a number, or an existing plug of one channel. -/
def Wirable (s : Scene) : Channel → Prop
  | .literal _ _ => True
  | .plug text => s.width? text = some 1

/-- A channel that can be wired to slots of a node, and stands on another one. -/
def Offers (s : Scene) (node : String) : Channel → Prop
  | .literal _ _ => True
  | .plug text => ∃ owner place, s.place? text = some (owner, place) ∧ place.width = 1 ∧ owner ≠ node

instance (s : Scene) (node : String) (channel : Channel) : Decidable (s.Offers node channel) :=
  match channel with
  | .literal _ _ => isTrue trivial
  | .plug text => decidable_of_iff (∃ found ∈ s.place? text, found.2.width = 1 ∧ found.1 ≠ node)
    ⟨fun ⟨found, there, offers⟩ => ⟨found.1, found.2, there, offers⟩,
      fun ⟨owner, place, there, offers⟩ => ⟨(owner, place), there, offers⟩⟩

theorem Wirable.offers {s after : Scene} {channel : Channel} (wirable : s.Wirable channel)
    (grows : Grows s after) {node : String} (fresh : node ∉ s.nodeNames) :
    after.Offers node channel := by
  cases channel with
  | literal value expression => trivial
  | plug text =>
    obtain ⟨⟨owner, place⟩, there, narrow⟩ := Option.map_eq_some_iff.mp wirable
    refine ⟨owner, place, grows.places _ _ there, narrow, ?_⟩
    rintro rfl
    obtain ⟨_, n, _, found, _⟩ := (s.place?_eq_some_iff _ _ _).mp there
    exact fresh ((s.node?_isSome_iff owner).mp (Option.isSome_of_eq_some found))

theorem Offers.of_nodes {s after : Scene} (nodes : after.nodes = s.nodes) {node : String}
    {channel : Channel} (offers : s.Offers node channel) : after.Offers node channel := by
  cases channel with
  | literal value expression => trivial
  | plug text =>
    obtain ⟨owner, place, there, narrow, apart⟩ := offers
    exact ⟨owner, place, (place?_of_nodes nodes text).trans there, narrow, apart⟩

theorem Offers.wirable {s : Scene} {node : String} {channel : Channel}
    (offers : s.Offers node channel) : s.Wirable channel := by
  cases channel with
  | literal value expression => trivial
  | plug text =>
    obtain ⟨owner, place, there, narrow, _⟩ := offers
    exact Option.map_eq_some_iff.mpr ⟨_, there, narrow⟩

theorem Wirable.carries {s : Scene} {channel : Channel} (wirable : s.Wirable channel) :
    ∃ driver, s.Carries channel driver := by
  cases channel with
  | literal value expression => exact ⟨.literal value, rfl⟩
  | plug text =>
    obtain ⟨⟨owner, place⟩, there, narrow⟩ := Option.map_eq_some_iff.mp wirable
    exact ⟨_, carries_of_place? there narrow⟩

/-- What can be wired carries something. -/
theorem exists_carry {s : Scene} {channels : List Channel}
    (wirable : ∀ channel ∈ channels, s.Wirable channel) :
    ∃ drivers, List.Forall₂ s.Carries channels drivers :=
  exists_forall₂_iff.mpr fun channel member => (wirable channel member).carries

end Scene

theorem Channel.mem_of_mem_spread {targets : Nat} {sources : List Channel} {channel : Channel}
    (member : channel ∈ Channel.spread targets sources) : channel ∈ sources := by
  unfold spread at member
  split at member
  · exact List.mem_singleton.mpr (List.eq_of_mem_replicate member)
  · exact member

/-! ### Wiring one group -/

namespace Program

section Group

variable {o : Options} {s : Session} (wf : s.scene.WellFormed) {node : String} {n : Node}
  (found : s.scene.node? node = some n) {key : String × Option Nat} {slots : List String}
  (grouped : Scene.Grouped n.layout key slots)
  (present : ∀ slot ∈ slots, (n.layout.find? slot).isSome = true)
include wf found grouped present

/-- A slot that exists is found under its own spelling, with one channel. -/
theorem place?_slot {slot : String} (inside : slot ∈ slots) :
    ∃ place, s.scene.place? (Plug.join node slot) = some (node, place) ∧ place.path = slot ∧
      place.width = 1 ∧ place.On n.layout ∧ place.key = key := by
  obtain ⟨place, located⟩ := Option.isSome_iff_exists.mp (present slot inside)
  obtain ⟨path, keyed, narrow⟩ := grouped.narrow slot inside place located
  have on := Layout.on_of_find? located
  have there := wf.place?_path found on
  rw [path] at there
  refine ⟨place, there, path, ?_, on, keyed⟩
  rw [Place.width, narrow]

variable (calm : s.host.fault = none) (unwired : s.scene.Unwired node n.layout key)
  {sources : List Channel} (offers : ∀ channel ∈ sources, s.scene.Offers node channel)
include calm unwired offers

/-- Wiring a group of existing slots that nothing is connected into succeeds, if the numbers allow
it. -/
theorem exec_wire_group (short : slots.length ≤ o.ceiling) (shortSources : sources.length ≤ o.ceiling)
    (matched : Link.Matched slots.length sources.length) :
    ∃ after, exec (wire o (slots.map fun slot => .plug (Plug.join node slot)) sources) s =
      (.ok (), after) ∧ after.host.fault = none := by
  have counted : (slots.map fun slot => Channel.plug (Plug.join node slot)).length = slots.length :=
    List.length_map _
  rw [← counted] at short matched
  have lengths := Channel.length_spread matched
  have aimed := Link.map_target_zipWith lengths
  refine exec_wire_ready wf calm short shortSources matched ?_ ?_ ?_
  · intro link member
    obtain ⟨j, linked⟩ := List.mem_iff_getElem?.mp member
    obtain ⟨_, source, atTarget, atSource, rfl⟩ := List.getElem?_zipWith_eq_some.mp linked
    obtain ⟨slot, inside, rfl⟩ := List.mem_map.mp (List.mem_of_getElem? atTarget)
    obtain ⟨place, there, _, narrow, on, keyed⟩ := place?_slot wf found grouped present inside
    have offered := offers source (Channel.mem_of_mem_spread (List.mem_of_getElem? atSource))
    cases source with
    | literal value expression => exact .set there narrow
    | plug text =>
      obtain ⟨owner, sourcePlace, thereSource, narrowSource, apart⟩ := offered
      refine .connect there thereSource (narrowSource.trans narrow.symm) ?_ (Or.inr ?_)
      · intro same
        exact apart (Prod.mk.inj (wf.place_eq_of_join_eq thereSource there same)).1
      · exact unwired place on keyed
  · refine Scene.apart_of_map_goal? (slots.map (Plug.join node)) ?_ ?_
    · rw [Scene.map_goal?_eq, aimed, List.map_map, List.map_map]
      refine List.map_congr_left fun slot inside => ?_
      obtain ⟨place, there, path, _⟩ := place?_slot wf found grouped present inside
      show s.scene.canonical? (Plug.join node slot) = some (Plug.join node slot)
      rw [Scene.canonical?, there, ← path]
      rfl
    · exact grouped.distinct.map fun _ _ => Plug.join_injective node
  · intro plug collapsed
    rw [← aimed] at collapsed
    obtain ⟨a, rfl, _, _, member, keyed, _⟩ := wf.collapse?_slots found grouped aimed collapsed
    exact unwired (.whole a) member keyed

end Group

/-! ### Feeding the groups -/

/-- What a wiring that succeeds says about its numbers. -/
theorem matched_of_wire {o : Options} {targets sources : List Channel} {s after : Session}
    (done : exec (wire o targets sources) s = (.ok (), after)) :
    targets.length ≤ o.ceiling ∧ sources.length ≤ o.ceiling ∧
      Link.Matched targets.length sources.length := by
  rw [exec_wire_eq] at done
  split at done
  · cases done
  · rename_i short
    split at done
    · rename_i matched
      exact ⟨by omega, by omega, matched⟩
    · cases done

variable {o : Options} {op : Operation} {node : String} {width : Nat} {s : Session} {f : Feed}

/-- A group that was fed takes the number of channels it was fed with. -/
theorem takesAt_of_feed {after : Session}
    (done : exec (feed o op node width f) s = (.ok (), after)) :
    Operation.TakesAt o.ceiling width f.group f.channels.length := by
  rw [feed] at done
  split at done
  · cases done
  · rename_i slots chosen
    obtain ⟨short, shortSources, matched⟩ := matched_of_wire done
    rw [List.length_map] at short matched
    unfold Operation.slotsFor at chosen
    split at chosen
    · rename_i slot isGroup
      split at chosen
      · cases chosen
      · cases chosen
        rw [Operation.TakesAt, isGroup, if_pos List.length_singleton]
        rcases matched with ⟨equal, _⟩ | ⟨one, _⟩
        · exact equal.symm
        · exact one
    · rename_i notSingle
      split at chosen
      · cases chosen
      · rename_i wide
        cases chosen
        rw [List.length_take, Nat.min_eq_left (Nat.le_of_not_lt wide)] at short matched
        have several : f.group.length ≠ 1 := by
          intro one
          obtain ⟨slot, isGroup⟩ := List.length_eq_one_iff.mp one
          exact notSingle slot isGroup
        rw [Operation.TakesAt, if_neg several]
        rcases matched with ⟨equal, some⟩ | ⟨one, some⟩
        · exact ⟨some, short, Or.inr equal.symm⟩
        · exact ⟨Nat.le_of_lt some, short, Or.inl one⟩

variable {n : Node} {key : String × Option Nat}

/-- A group that exists takes what it is said to take. -/
theorem exec_feed_ready (wf : s.scene.WellFormed) (calm : s.host.fault = none)
    (found : s.scene.node? node = some n) (valid : 1 ≤ o.ceiling ∧ o.ceiling ≤ maxChannels)
    (grouped : Scene.Grouped n.layout key f.group)
    (size : f.group.length = 1 ∨ f.group.length = maxChannels)
    (present : ∀ slot ∈ f.group, (n.layout.find? slot).isSome = true)
    (unwired : s.scene.Unwired node n.layout key)
    (offers : ∀ channel ∈ f.channels, s.scene.Offers node channel)
    (takes : Operation.TakesAt o.ceiling width f.group f.channels.length) :
    ∃ after, exec (feed o op node width f) s = (.ok (), after) ∧ after.host.fault = none := by
  have wired {slots : List String} (part : slots.Sublist f.group) (short : slots.length ≤ o.ceiling)
      (shortSources : f.channels.length ≤ o.ceiling)
      (matched : Link.Matched slots.length f.channels.length) :=
    exec_wire_group wf found (grouped.sublist part)
      (fun slot inside => present slot (part.subset inside)) calm unwired offers short shortSources
      matched
  rw [Operation.TakesAt] at takes
  by_cases one : f.group.length = 1
  · rw [if_pos one] at takes
    obtain ⟨slot, isGroup⟩ := List.length_eq_one_iff.mp one
    have chosen : op.slotsFor width f.operand f.channels f.group = .ok [slot] := by
      rw [isGroup, Operation.slotsFor, if_neg (by omega)]
    rw [feed, chosen]
    refine wired (isGroup ▸ List.Sublist.refl _) valid.1 (by omega) (Or.inl ⟨takes.symm, ?_⟩)
    exact Nat.one_pos
  · rw [if_neg one] at takes
    obtain ⟨some, fits, count⟩ := takes
    have wide : width ≤ f.group.length := by omega
    have chosen : op.slotsFor width f.operand f.channels f.group = .ok (f.group.take width) := by
      unfold Operation.slotsFor
      split
      · rename_i slot isGroup
        exact absurd (congrArg List.length isGroup) one
      · rw [if_neg (Nat.not_lt.mpr wide)]
    have length : (f.group.take width).length = width := by
      rw [List.length_take, Nat.min_eq_left wide]
    rw [feed, chosen]
    refine wired (List.take_sublist _ _) (by omega) (by omega) ?_
    rw [length]
    rcases count with single | whole
    · by_cases narrow : width = 1
      · exact Or.inl ⟨narrow.trans single.symm, some⟩
      · exact Or.inr ⟨single, by omega⟩
    · exact Or.inl ⟨whole.symm, some⟩

theorem takesAt_of_feedAll {all : List Feed} {after : Session}
    (done : exec (feedAll o op node width all) s = (.ok (), after)) :
    ∀ f ∈ all, Operation.TakesAt o.ceiling width f.group f.channels.length := by
  induction all generalizing s with
  | nil => simp
  | cons f rest inductionHypothesis =>
    obtain ⟨_, between, first, others⟩ := exec_bind_ok done
    exact List.forall_mem_cons.mpr ⟨takesAt_of_feed first, inductionHypothesis others⟩

/-- Groups with keys of their own take what they are said to take, one after the other. -/
theorem exec_feedAll_ready {keys : List (String × Option Nat)} {all : List Feed}
    (grouped : List.Forall₂ (fun key f => Scene.Grouped n.layout key f.group) keys all)
    (distinct : keys.Nodup) (wf : s.scene.WellFormed) (calm : s.host.fault = none)
    (found : s.scene.node? node = some n) (valid : 1 ≤ o.ceiling ∧ o.ceiling ≤ maxChannels)
    (sizes : ∀ f ∈ all, f.group.length = 1 ∨ f.group.length = maxChannels)
    (present : ∀ f ∈ all, ∀ slot ∈ f.group, (n.layout.find? slot).isSome = true)
    (unwired : ∀ key ∈ keys, s.scene.Unwired node n.layout key)
    (offers : ∀ f ∈ all, ∀ channel ∈ f.channels, s.scene.Offers node channel)
    (takes : ∀ f ∈ all, Operation.TakesAt o.ceiling width f.group f.channels.length) :
    ∃ after, exec (feedAll o op node width all) s = (.ok (), after) := by
  induction grouped generalizing s with
  | nil => exact ⟨s, rfl⟩
  | @cons key f keys rest groupedFirst _ inductionHypothesis =>
    rw [List.nodup_cons] at distinct
    rw [List.forall_mem_cons] at sizes present unwired offers takes
    obtain ⟨between, first, calmBetween⟩ := exec_feed_ready wf calm found valid groupedFirst sizes.1
      present.1 unwired.1 offers.1 takes.1
    obtain ⟨drivers, carry⟩ :=
      Scene.exists_carry fun channel inside => (offers.1 channel inside).wirable
    obtain ⟨wfBetween, only, _⟩ := feed_feeds wf found groupedFirst unwired.1 carry first
    have sound := wf.layouts n (Scene.mem_of_node? found).1
    have foundBetween : between.scene.node? node = some n := by
      rw [Scene.node?, only.nodes]
      exact found
    obtain ⟨after, others⟩ := inductionHypothesis distinct.2 wfBetween calmBetween foundBetween
      sizes.2 present.2
      (fun later member => only.unwired sound
        (fun same => distinct.1 (List.mem_singleton.mp same ▸ member)) (unwired.2 later member))
      (fun later member channel inside => (offers.2 later member channel inside).of_nodes only.nodes)
      takes.2
    refine ⟨after, ?_⟩
    rw [feedAll, exec_bind, first]
    exact others

/-- The mode of a node can be set if it has one. -/
theorem exec_setMode_ready {mode : Option Int} (wf : s.scene.WellFormed)
    (calm : s.host.fault = none) (found : s.scene.node? node = some n)
    (valid : 1 ≤ o.ceiling ∧ o.ceiling ≤ maxChannels)
    (grouped : Scene.Grouped n.layout modeKey ["operation"])
    (present : mode.isSome = true → (n.layout.find? "operation").isSome = true)
    (unwired : s.scene.Unwired node n.layout modeKey) :
    ∃ after, exec (setMode o node mode) s = (.ok (), after) ∧ after.host.fault = none := by
  cases mode with
  | none => exact ⟨s, rfl, calm⟩
  | some number =>
    have there : ∀ slot ∈ ["operation"], (n.layout.find? slot).isSome = true :=
      List.forall_mem_singleton.mpr (present rfl)
    have offers : ∀ channel ∈ [Channel.ofNumber (Float.ofInt number)],
        s.scene.Offers node channel := List.forall_mem_singleton.mpr trivial
    exact exec_wire_group wf found grouped there calm unwired offers valid.1 valid.1
      (Or.inl ⟨rfl, Nat.one_pos⟩)

/-! ### The whole node -/

/-- What the groups take is told by the numbers of channels alone. -/
theorem map_counts_feeds {operands : List Operand} {channels : List (List Channel)}
    {groups : List (List String)} (taken : channels.length = operands.length)
    (counted : groups.length = operands.length) :
    (feeds operands channels groups).map (fun f => (f.group, f.channels.length)) =
      groups.zip (channels.map List.length) := by
  calc
    (feeds operands channels groups).map (fun f => (f.group, f.channels.length)) =
        ((feeds operands channels groups).map (·.group)).zip
          (((feeds operands channels groups).map (·.channels)).map List.length) := by
      rw [List.map_map, List.zip_map']
      rfl
    _ = groups.zip (channels.map List.length) := by
      rw [map_group_feeds taken counted, map_channels_feeds taken counted]

/-- A node that nothing is connected into can be filled with what its operation takes. -/
theorem exec_fill_ready {operands : List Operand} {channels : List (List Channel)}
    (wf : s.scene.WellFormed) (calm : s.host.fault = none) (found : s.scene.node? node = some n)
    (valid : 1 ≤ o.ceiling ∧ o.ceiling ≤ maxChannels) (fits : op.Fits n.layout operands.length)
    (present : op.Present n.layout operands.length)
    (moded : op.mode.isSome = true → (n.layout.find? "operation").isSome = true)
    (unwired : ∀ key, s.scene.Unwired node n.layout key)
    (taken : channels.length = operands.length)
    (offers : ∀ cs ∈ channels, ∀ channel ∈ cs, s.scene.Offers node channel)
    (takes : ∀ f ∈ feeds operands channels (op.slotGroups operands.length),
      Operation.TakesAt o.ceiling (widest channels) f.group f.channels.length) :
    ∃ after, exec (fill o op node operands channels) s = (.ok (), after) := by
  obtain ⟨keys, grouped, distinct⟩ := fits.groups
  rw [List.nodup_cons] at distinct
  have sound := wf.layouts n (Scene.mem_of_node? found).1
  obtain ⟨between, set, calmBetween⟩ :=
    exec_setMode_ready wf calm found valid fits.mode moded (unwired modeKey)
  obtain ⟨wfBetween, only, _⟩ := setMode_feeds wf found fits.mode (unwired modeKey) set
  have foundBetween : between.scene.node? node = some n := by
    rw [Scene.node?, only.nodes]
    exact found
  have inGroups : ∀ f ∈ feeds operands channels (op.slotGroups operands.length),
      f.group ∈ op.slotGroups operands.length := by
    intro f member
    have mapped := List.mem_map_of_mem (f := fun f : Feed => f.group) member
    rwa [map_group_feeds taken fits.length] at mapped
  rw [← map_group_feeds taken fits.length, List.forall₂_map_right_iff] at grouped
  obtain ⟨after, fed⟩ := exec_feedAll_ready grouped distinct.2 wfBetween calmBetween foundBetween
    valid (fun f member => (present _ (inGroups f member)).1)
    (fun f member => (present _ (inGroups f member)).2)
    (fun key member => only.unwired sound
      (fun same => distinct.1 (List.mem_singleton.mp same ▸ member)) (unwired key))
    (fun f member channel inside =>
      (offers _ (channels_mem_of_mem_feeds member) channel inside).of_nodes only.nodes) takes
  refine ⟨after, ?_⟩
  rw [fill, exec_bind, set]
  exact fed

/-- The name made up for a node is one that the scene takes. -/
theorem nodeName_valid (o : Options) (op : Operation) (operands : List Operand) {given : String}
    (free : '.' ∉ given.toList) :
    given ++ op.nodeName o operands ≠ "" ∧ '.' ∉ (given ++ op.nodeName o operands).toList := by
  have filled : (op.nodeName o operands).toList ≠ [] := by
    rw [Operation.nodeName, Plug.sanitize, String.intercalate_cons_cons]
    simp
  have noDot : '.' ∉ (op.nodeName o operands).toList := by
    rw [Operation.nodeName, Plug.sanitize, String.toList_ofList]
    intro member
    obtain ⟨c, _, isDot⟩ := List.mem_map.mp member
    split at isDot
    · rename_i inName
      rw [isDot] at inName
      exact absurd inName (by decide)
    · exact absurd isDot (by decide)
  rw [String.toList_append, List.mem_append, not_or]
  refine ⟨fun empty => filled ?_, free, noDot⟩
  have texts := congrArg String.toList empty
  rw [String.toList_append] at texts
  exact (List.append_eq_nil_iff.mp texts).2

/-- The node of an operation can be built from what the operation takes. -/
theorem exec_build_ready {operands : List Operand} {channels : List (List Channel)}
    (wf : s.scene.WellFormed) (calm : s.host.fault = none) (free : '.' ∉ s.host.namePrefix.toList)
    (valid : 1 ≤ o.ceiling ∧ o.ceiling ≤ maxChannels) (member : op ∈ Operation.builtin)
    (accepted : op.accepts operands.length = true) (counted : operands.length ≤ Number.largestWord)
    (taken : channels.length = operands.length)
    (wirable : ∀ cs ∈ channels, ∀ channel ∈ cs, s.scene.Wirable channel)
    (takes : ∀ f ∈ feeds operands channels (op.slotGroups operands.length),
      Operation.TakesAt o.ceiling (widest channels) f.group f.channels.length) :
    ∃ result after, exec (build o op operands channels) s = (.ok result, after) := by
  obtain ⟨layout, typed⟩ := Option.isSome_iff_exists.mp (Operation.type_present op member)
  obtain ⟨filledName, freeName⟩ := nodeName_valid o op operands free
  obtain ⟨node, between, created, calmBetween, made⟩ :=
    exec_create_calm calm typed filledName freeName
  obtain ⟨fresh, _, freeNode⟩ := Scene.create_name made
  have wfBetween := wf.create made
  have unwired := wf.unwired freeNode fresh
  obtain ⟨_, typedNode, isScene⟩ := Scene.create_withNode made
  obtain rfl := Option.some.inj (typed.symm.trans typedNode)
  have grows := s.scene.grows_withNode ⟨node, op.nodeType, layout⟩
  have found := Scene.node?_withNode_self (s := s.scene) (n := ⟨node, op.nodeType, layout⟩) fresh
  rw [← isScene] at grows found
  obtain ⟨after, filled⟩ := exec_fill_ready wfBetween calmBetween found valid
    (Operation.fits_of_mem_builtin member typed accepted)
    (Operation.present_of_mem_builtin member typed counted)
    (fun moded => Operation.mode_present op member moded layout typed)
    (fun key => isScene ▸ unwired layout key) taken
    (fun cs among channel inside => (wirable cs among channel inside).offers grows fresh) takes
  refine ⟨.node node (op.resultAttrs (widest channels)), after, ?_⟩
  rw [build_eq, exec_bind, created]
  dsimp only
  rw [exec_bind, filled]
  rfl

end Program

/-! ### Results -/

/-- The attributes of a result are output channels: the only one, or as many as asked for. -/
theorem Operation.plugs?_resultAttrs {op : Operation} (direct : op.isDeferred = false)
    (size : op.output.names.length = 1 ∨ op.output.names.length = maxChannels) {width : Nat}
    (narrow : width ≤ maxChannels) (node : String) :
    ∃ names : List String, (op.resultAttrs width).plugs? node = some (names.map (Plug.join node)) ∧
      (∀ name ∈ names, name ∈ op.output.names) ∧
      names.length = if op.output.names.length = 1 then 1 else width := by
  unfold resultAttrs
  split
  · rename_i branches output
    rw [isDeferred, branches?, output] at direct
    cases direct
  · rename_i name output
    rw [output]
    exact ⟨[name], rfl, fun _ => id, rfl⟩
  · rename_i names several output
    rw [output] at size ⊢
    refine ⟨names.take width, rfl, fun _ => List.mem_of_mem_take, ?_⟩
    rcases size with one | most
    · obtain ⟨name, single⟩ := List.length_eq_one_iff.mp one
      exact absurd single (several name)
    · have plenty : (Output.channels names).names.length ≠ 1 := by
        rw [most]
        decide
      rw [List.length_take, if_neg plenty, Nat.min_eq_left]
      exact Nat.le_trans narrow (Nat.le_of_eq most.symm)

theorem Operation.output_size : ∀ op ∈ builtin, op.isDeferred = false →
    op.output.names.length = 1 ∨ op.output.names.length = maxChannels := by
  decide +kernel

namespace Scene

/-- What the result of an operation is: the bare node if the operation is deferred, and else existing
plugs of one channel each, which are the channels it unravels to: one, or as many as asked for. -/
def Returns (s : Scene) (op : Operation) (width : Nat) (result : Reference) : Prop :=
  if op.isDeferred then ∃ node, s.typeOf? node = some op.nodeType ∧ result = .node node .bare
  else ∃ plugs, result.plugs? = some plugs ∧ s.unravel result.toOperand = .ok (plugs.map .plug) ∧
    plugs.length = (if op.output.names.length = 1 then 1 else width) ∧
    ∀ plug ∈ plugs, s.has plug = true ∧ s.width? plug = some 1

/-- The output channels of a node are what an operation returns. -/
theorem WellFormed.returns {s : Scene} (wf : s.WellFormed) {n : Node}
    (found : s.node? n.name = some n) {op : Operation} {count : Nat} (fits : op.Fits n.layout count)
    (type : s.typeOf? n.name = some op.nodeType) (member : op ∈ Operation.builtin) {width : Nat}
    (narrow : width ≤ maxChannels) : s.Returns op width (.node n.name (op.resultAttrs width)) := by
  cases direct : op.isDeferred with
  | true =>
    rw [Returns, if_pos direct]
    refine ⟨n.name, type, ?_⟩
    obtain ⟨branches, deferred⟩ := Option.isSome_iff_exists.mp direct
    rw [Operation.branches?] at deferred
    split at deferred
    · rename_i output
      rw [Operation.resultAttrs, output]
    · cases deferred
  | false =>
    obtain ⟨names, listed, among, counted⟩ := Operation.plugs?_resultAttrs direct
      (Operation.output_size op member direct) narrow n.name
    have channel : ∀ plug ∈ names.map (Plug.join n.name), s.plugChannels plug = [.plug plug] ∧
        s.has plug = true ∧ s.width? plug = some 1 := by
      rw [List.forall_mem_map]
      intro name inside
      obtain ⟨place, there, single⟩ := wf.place?_output found fits (among name inside)
      refine ⟨?_, (s.has_iff _).mpr (Or.inl (Option.isSome_of_eq_some there)), ?_⟩
      · rw [plugChannels_eq there, Place.children?_of_parts? single]
      · refine Option.map_eq_some_iff.mpr ⟨_, there, ?_⟩
        show place.width = 1
        rw [Place.width, single]
    have taken : s.attrsChannels n.name (op.resultAttrs width) =
        .ok ((names.map (Plug.join n.name)).map .plug) := by
      rw [attrsChannels, listed]
      dsimp only
      rw [List.flatMap_congr fun plug inside => (channel plug inside).1]
      exact congrArg Except.ok List.map_eq_flatMap.symm
    rw [Returns, if_neg (ne_true_of_eq_false direct)]
    exact ⟨_, listed, taken, (List.length_map _).trans counted,
      fun plug inside => (channel plug inside).2⟩

end Scene

/-! ### The whole application -/

namespace Program

theorem widest_le {channels : List (List Channel)} {bound : Nat}
    (each : ∀ cs ∈ channels, cs.length ≤ bound) : widest channels ≤ bound := by
  induction channels with
  | nil => exact Nat.zero_le _
  | cons cs rest inductionHypothesis =>
    rw [List.forall_mem_cons] at each
    rw [widest, List.foldr_cons, ← widest]
    exact Nat.max_le.mpr ⟨each.1, inductionHypothesis each.2⟩

/-- What was built takes the numbers of channels it was built from. -/
theorem takesAt_of_build {o : Options} {op : Operation} {operands : List Operand}
    {channels : List (List Channel)} {s after : Session} {result : Reference}
    (done : exec (build o op operands channels) s = (.ok result, after)) :
    ∀ f ∈ feeds operands channels (op.slotGroups operands.length),
      Operation.TakesAt o.ceiling (widest channels) f.group f.channels.length := by
  obtain ⟨_, _, _, _, _, _, filled, _⟩ := exec_build_ok done
  obtain ⟨_, _, _, fed⟩ := exec_bind_ok filled
  exact takesAt_of_feedAll fed

/-- No operand that was wired is wider than the ceiling. -/
theorem widest_le_of_takesAt {o : Options} {operands : List Operand}
    {channels : List (List Channel)} {groups : List (List String)} (some : 1 ≤ o.ceiling)
    (lengths : channels.length = operands.length) (counted : groups.length = operands.length)
    (takes : ∀ f ∈ feeds operands channels groups,
      Operation.TakesAt o.ceiling (widest channels) f.group f.channels.length) :
    widest channels ≤ o.ceiling := by
  refine widest_le ?_
  rw [← map_channels_feeds lengths counted, List.forall_mem_map]
  intro f member
  have takesOne := takes f member
  rw [Operation.TakesAt] at takesOne
  split at takesOne <;> omega

/-- An operation takes the numbers of channels that its groups take. -/
theorem takes_iff_feeds {op : Operation} {operands : List Operand} {channels : List (List Channel)}
    (ceiling : Nat) (member : op ∈ Operation.builtin) (accepted : op.accepts operands.length = true)
    (counted : operands.length ≤ Number.largestWord) (lengths : channels.length = operands.length) :
    op.Takes ceiling (channels.map List.length) ↔
      ∀ f ∈ feeds operands channels (op.slotGroups operands.length),
        Operation.TakesAt ceiling (widest channels) f.group f.channels.length := by
  obtain ⟨layout, typed⟩ := Option.isSome_iff_exists.mp (Operation.type_present op member)
  have fits := Operation.fits_of_mem_builtin member typed accepted
  have present := Operation.present_of_mem_builtin member typed counted
  have counts : (channels.map List.length).length = operands.length :=
    (List.length_map _).trans lengths
  rw [Operation.takes_iff (counts ▸ accepted) ?_ (counts ▸ fits.length), counts,
    ← widest_eq_largest, ← map_counts_feeds lengths fits.length, List.forall_mem_map]
  rw [counts]
  intro group inside
  rcases (present group inside).1 with one | most
  · exact Nat.le_of_eq one.symm
  · rw [most]
    decide

/-- Applying an operation that accepts so many operands is building its node. -/
theorem exec_apply_eq {o : Options} {name : String} {operands : List Operand} {op : Operation}
    {channels : List (List Channel)} {s : Session}
    (known : Registry.builtin.lookup? name = some op)
    (accepted : op.accepts operands.length = true)
    (taken : s.scene.unravelEach operands = .ok channels) :
    exec (apply o name operands) s = exec (build o op operands channels) s := by
  rw [apply, known]
  dsimp only
  rw [if_pos accepted, exec_bind, exec_look, taken]

/-- An operation is applied successfully exactly if it takes the numbers of channels of its operands:
the numbers decide, whatever else the scene holds, as long as no fault is in wait, the operands
unravel to numbers and existing plugs of one channel, and there are no more of them than a word can
count. What comes out is the bare node or plugs that can be wired again. -/
theorem apply_accepts (o : Options) (name : String) (operands : List Operand) {op : Operation}
    {channels : List (List Channel)} {s : Session} (reachable : s.scene.Reachable)
    (calm : s.host.fault = none) (free : '.' ∉ s.host.namePrefix.toList) (valid : o.flaw? = none)
    (known : Registry.builtin.lookup? name = some op)
    (taken : s.scene.unravelEach operands = .ok channels)
    (wirable : ∀ cs ∈ channels, ∀ channel ∈ cs, s.scene.Wirable channel)
    (counted : operands.length ≤ Number.largestWord) :
    ((∃ result after, exec (apply o name operands) s = (.ok result, after)) ↔
      op.Takes o.ceiling (channels.map List.length)) ∧
    ∀ result after, exec (apply o name operands) s = (.ok result, after) →
      after.scene.Returns op (largest (channels.map List.length)) result := by
  have wf := reachable.wellFormed
  have member := mem_builtin_of_lookup? known
  have lengths : channels.length = operands.length := (Scene.unravelEach_eq_ok taken).length_eq.symm
  have ceiling : 1 ≤ o.ceiling ∧ o.ceiling ≤ maxChannels := by
    rw [Options.flaw?] at valid
    split at valid
    · cases valid
    · omega
  by_cases accepted : op.accepts operands.length = true
  · rw [exec_apply_eq known accepted taken,
      takes_iff_feeds o.ceiling member accepted counted lengths]
    refine ⟨⟨?_, ?_⟩, ?_⟩
    · rintro ⟨result, after, done⟩
      exact takesAt_of_build done
    · exact exec_build_ready wf calm free ceiling member accepted counted lengths wirable
    · intro result after done
      obtain ⟨supplies, carry⟩ :=
        exists_forall₂_iff.mpr fun cs among => Scene.exists_carry (wirable cs among)
      obtain ⟨n, rfl, _, found, fits, _, realises⟩ :=
        build_realises wf member accepted lengths carry done
      have evolves := evolves_build o op operands channels s
      rw [done] at evolves
      have narrow := widest_le_of_takesAt ceiling.1 lengths fits.length (takesAt_of_build done)
      rw [← widest_eq_breadth carry, ← widest_eq_largest]
      exact (evolves.wellFormed wf).returns found fits realises.type member
        (Nat.le_trans narrow ceiling.2)
  · have refused : ¬ ∃ result after, exec (apply o name operands) s = (.ok result, after) := by
      rintro ⟨result, after, done⟩
      obtain ⟨_, _, knownToo, acceptedToo, _⟩ := exec_apply_ok done
      obtain rfl := Option.some.inj (known.symm.trans knownToo)
      exact accepted acceptedToo
    refine ⟨⟨fun done => absurd done refused, fun takes => ?_⟩,
      fun result after done => absurd ⟨result, after, done⟩ refused⟩
    have acceptedToo := takes.accepted
    rw [List.length_map, lengths] at acceptedToo
    exact absurd acceptedToo accepted

/-- A vector times a number, in a scene with a transform. -/
theorem apply_accepts_product :
    ∃ (s : Session) (op : Operation) (channels : List (List Channel)),
      s = Session.start (.ofScene (Scene.empty.run [.addTransform "pCube1"]) "") ∧
      s.scene.Reachable ∧ s.host.fault = none ∧ '.' ∉ s.host.namePrefix.toList ∧
      Options.default.flaw? = none ∧ Registry.builtin.lookup? "mul" = some op ∧
      s.scene.unravelEach [.path "pCube1.t", .path "pCube1.sx"] = .ok channels ∧
      (∀ cs ∈ channels, ∀ channel ∈ cs, s.scene.Wirable channel) ∧
      channels.map List.length = [3, 1] ∧ op.Takes 3 [3, 1] ∧
      ∃ result after, exec (apply .default "mul" [.path "pCube1.t", .path "pCube1.sx"]) s =
        (.ok result, after) ∧ after.scene.Returns op 3 result := by
  have reachable : (Scene.empty.run [.addTransform "pCube1"]).Reachable := ⟨_, rfl⟩
  have valid : Options.default.flaw? = none := by decide +kernel
  have taken : (Scene.empty.run [.addTransform "pCube1"]).unravelEach
      [.path "pCube1.t", .path "pCube1.sx"] =
      .ok [[.plug "pCube1.translateX", .plug "pCube1.translateY", .plug "pCube1.translateZ"],
        [.plug "pCube1.sx"]] := by
    decide +kernel
  have wirable : ∀ text ∈ ["pCube1.translateX", "pCube1.translateY", "pCube1.translateZ", "pCube1.sx"],
      (Scene.empty.run [.addTransform "pCube1"]).width? text = some 1 := by
    decide +kernel
  have succeeds : (exec (apply .default "mul" [.path "pCube1.t", .path "pCube1.sx"])
      (Session.start (.ofScene (Scene.empty.run [.addTransform "pCube1"]) ""))).1.toOption.isSome =
        true := by
    decide +kernel
  cases run : exec (apply .default "mul" [.path "pCube1.t", .path "pCube1.sx"])
      (Session.start (.ofScene (Scene.empty.run [.addTransform "pCube1"]) "")) with
  | mk answer after =>
    rw [run] at succeeds
    cases answer with
    | error e => cases succeeds
    | ok result =>
      have each : ∀ cs ∈ [[Channel.plug "pCube1.translateX", .plug "pCube1.translateY",
          .plug "pCube1.translateZ"], [.plug "pCube1.sx"]], ∀ channel ∈ cs,
          (Scene.empty.run [.addTransform "pCube1"]).Wirable channel := by
        simpa [Scene.Wirable, and_assoc] using wirable
      obtain ⟨takes, returns⟩ := apply_accepts .default "mul" [.path "pCube1.t", .path "pCube1.sx"]
        (s := Session.start (.ofScene (Scene.empty.run [.addTransform "pCube1"]) ""))
        reachable rfl (by decide) valid rfl taken each (by decide)
      exact ⟨_, _, _, rfl, reachable, rfl, by decide, valid, rfl, taken, each, rfl,
        takes.mp ⟨result, after, run⟩, result, after, run, returns result after run⟩

end Program

end FormulaNet
