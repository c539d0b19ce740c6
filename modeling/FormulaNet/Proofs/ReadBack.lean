/-
This file proves that numbers that were set are read back. A wiring from numbers
never collapses, since only plugs belong to compounds, so it sets its targets
one by one and changes nothing else. Where the targets are different plugs, each
keeps its own number; a compound is read from its parts, so it shows the new
numbers at the parts that were set and the old ones at the others.
-/

import FormulaNet.Proofs.Provenance
import FormulaNet.Proofs.Ready

namespace FormulaNet

/-! ### Numbers as sources -/

/-- The number of a literal. -/
def Channel.number? : Channel → Option Float
  | literal v _ => some v
  | plug _ => none

/-- What several targets get of some numbers: each its own, or all of them the only one. -/
def Dealt (targets : Nat) (numbers dealt : List Float) : Prop :=
  dealt.length = targets ∧
    (dealt = numbers ∨ ∃ v, numbers = [v] ∧ dealt = List.replicate targets v)

theorem exists_dealt {targets : Nat} {sources : List Channel} {numbers : List Float}
    (literal : sources.map Channel.number? = numbers.map some)
    (fits : (Channel.spread targets sources).length = targets) :
    ∃ dealt, Dealt targets numbers dealt ∧
      (Channel.spread targets sources).map Channel.number? = dealt.map some := by
  have lengths : sources.length = numbers.length := by simpa using congrArg List.length literal
  revert fits
  unfold Channel.spread
  split
  · rename_i source
    intro _
    obtain ⟨v, rfl⟩ := List.length_eq_one_iff.mp lengths.symm
    refine ⟨List.replicate targets v, ⟨List.length_replicate, Or.inr ⟨v, rfl, rfl⟩⟩, ?_⟩
    rw [List.map_replicate, List.map_replicate, (List.cons.inj literal).1]
  · intro fits
    exact ⟨numbers, ⟨lengths.symm.trans fits, Or.inl rfl⟩, literal⟩

/-- What is known of each element of a list relates two lists that are read off it. -/
theorem forall₂_of_map_eq_some {α β γ : Type} {f : α → Option β} {g : α → Option γ}
    {R : β → γ → Prop} {as : List α} {bs : List β} {cs : List γ} (left : as.map f = bs.map some)
    (right : as.map g = cs.map some)
    (each : ∀ a ∈ as, ∀ b c, f a = some b → g a = some c → R b c) : List.Forall₂ R bs cs := by
  induction as generalizing bs cs with
  | nil =>
    obtain rfl := List.map_eq_nil_iff.mp left.symm
    obtain rfl := List.map_eq_nil_iff.mp right.symm
    exact .nil
  | cons a as inductionHypothesis =>
    obtain ⟨b, bs, rfl, isFirst, others⟩ := List.map_eq_cons_iff.mp left.symm
    obtain ⟨c, cs, rfl, isFirst', others'⟩ := List.map_eq_cons_iff.mp right.symm
    obtain ⟨eachFirst, eachRest⟩ := List.forall_mem_cons.mp each
    exact .cons (eachFirst b c isFirst.symm isFirst'.symm)
      (inductionHypothesis others.symm others'.symm eachRest)

theorem forall₂_trans {α β γ : Type} {R : α → β → Prop} {S : β → γ → Prop} {T : α → γ → Prop}
    (joined : ∀ a b c, R a b → S b c → T a c) {as : List α} {bs : List β} {cs : List γ}
    (first : List.Forall₂ R as bs) (second : List.Forall₂ S bs cs) : List.Forall₂ T as cs := by
  induction first generalizing cs with
  | nil =>
    cases second
    exact .nil
  | cons head _ inductionHypothesis =>
    cases second with
    | cons head' rest => exact .cons (joined _ _ _ head head') (inductionHypothesis rest)

namespace Scene

/-- Numbers belong to no compound. -/
theorem collapse?_numbers (s : Scene) {sources : List Channel} {numbers : List Float}
    (literal : sources.map Channel.number? = numbers.map some) : s.collapse? sources = none := by
  cases sources with
  | nil => rfl
  | cons source rest =>
    cases source with
    | literal value expression => rfl
    | plug text =>
      cases numbers with
      | nil => cases literal
      | cons v others => cases (List.cons.inj literal).1

/-! ### Numbers that were set -/

/-- Numbers were set under different canonical plugs, and nothing else was changed. -/
structure Writes (keys : List String) (numbers : List Float) (s after : Scene) : Prop where
  same : after = { s with values := after.values }
  held : List.Forall₂ (fun key v => after.values.find? key = some v) keys numbers
  elsewhere : ∀ key, key ∉ keys → after.values.find? key = s.values.find? key

/-- Links from numbers change numbers only. -/
theorem makesAll_numbers {force : Bool} {links : List Link} {s after : Scene}
    (made : Link.MakesAll force links s after)
    (literal : ∀ link ∈ links, link.source.number?.isSome = true) :
    after = { s with values := after.values } := by
  induction made with
  | nil s => rfl
  | cons first _ inductionHypothesis =>
    obtain ⟨literalFirst, literalRest⟩ := List.forall_mem_cons.mp literal
    cases first with
    | connect => cases literalFirst
    | set done =>
      obtain ⟨_, _, _, _, rfl⟩ := set_eq_ok done
      exact inductionHypothesis literalRest

/-- Links from numbers to different plugs leave every plug its own number. -/
theorem writes_of_makesAll {force : Bool} {plugs keys : List String} {sources : List Channel}
    {numbers : List Float} {s after : Scene} (known : plugs.map s.canonical? = keys.map some)
    (distinct : keys.Nodup) (literal : sources.map Channel.number? = numbers.map some)
    (lengths : sources.length = (plugs.map Channel.plug).length)
    (made : Link.MakesAll force (List.zipWith Link.mk (plugs.map .plug) sources) s after) :
    Writes keys numbers s after := by
  have sourced := Link.map_source_zipWith lengths
  have aimed : (List.zipWith Link.mk (plugs.map .plug) sources).map s.goal? = keys.map some := by
    rw [map_goal?_eq, Link.map_target_zipWith lengths, List.map_map]
    exact known
  obtain ⟨nodes, elsewhere, fed⟩ := makesAll_stores made (apart_of_map_goal? keys aimed distinct)
  refine ⟨makesAll_numbers made ?_, ?_, ?_⟩
  · intro link member
    have among : link.source ∈ sources := sourced ▸ List.mem_map_of_mem member
    have known : link.source.number? ∈ numbers.map some := literal ▸ List.mem_map_of_mem among
    obtain ⟨v, _, same⟩ := List.mem_map.mp known
    exact Option.isSome_of_eq_some same.symm
  · have given := congrArg (List.map Channel.number?) sourced
    rw [List.map_map, literal] at given
    refine forall₂_of_map_eq_some aimed given fun link member key v isKey isNumber => ?_
    obtain ⟨other, isOther, fedOther⟩ := fed link member
    obtain rfl := Option.some.inj (isKey.symm.trans isOther)
    cases isSource : link.source with
    | plug text =>
      rw [Function.comp_apply, isSource] at isNumber
      cases isNumber
    | literal value expression =>
      rw [Function.comp_apply, isSource] at isNumber
      rw [isSource] at fedOther
      obtain rfl := Option.some.inj isNumber
      exact (fedOther (.literal value) rfl).1
  · intro key absent
    refine (elsewhere key fun link member isKey => absent ?_).1
    have among : some key ∈ keys.map some := aimed ▸ isKey ▸ List.mem_map_of_mem member
    obtain ⟨other, inside, same⟩ := List.mem_map.mp among
    exact Option.some.inj same ▸ inside

theorem read_of_place? {s : Scene} {plug node : String} {place : Place}
    (there : s.place? plug = some (node, place)) : s.read plug = .ok (s.readPlace node place) := by
  rw [read, (s.placeOf_eq_ok_iff _ _).mpr there]

theorem read_eq_ok {s : Scene} {plug : String} {payload : Primitive}
    (reads : s.read plug = .ok payload) :
    ∃ node place, s.place? plug = some (node, place) ∧ s.readPlace node place = payload := by
  rw [read] at reads
  split at reads
  · cases reads
  · rename_i node place placed
    exact ⟨node, place, (s.placeOf_eq_ok_iff _ _).mp placed, Except.ok.inj reads⟩

/-- A place of one channel is no compound, since compounds have several. -/
theorem WellFormed.parts?_eq_none {s : Scene} (wf : s.WellFormed) {plug node : String}
    {place : Place} (there : s.place? plug = some (node, place)) (narrow : place.width = 1) :
    place.parts? = none := by
  obtain ⟨_, n, _, found, located⟩ := (s.place?_eq_some_iff _ _ _).mp there
  have vectors := (wf.layouts n (mem_of_node? found).1).vectors
  have wide {a : Attribute} (member : a ∈ n.layout) (compound : a.isCompound = true) :
      a.children.length ≠ 1 := by
    rcases vectors a member with none | several
    · simp [Attribute.isCompound, none] at compound
    · rw [several]
      decide
  have on := Layout.on_of_find? located
  cases place with
  | child | elementChild => rfl
  | whole a =>
    rw [Place.parts?]
    refine if_neg fun compound => wide on compound ?_
    simpa [Place.width, Place.parts?, compound, Attribute.childNames] using narrow
  | element a index =>
    rw [Place.parts?]
    refine if_neg fun compound => wide on.1 compound ?_
    simpa [Place.width, Place.parts?, compound, Attribute.childNames] using narrow

namespace Writes

variable {s after : Scene} {keys : List String} {numbers : List Float}
  (writes : Writes keys numbers s after)
include writes

theorem nodes : after.nodes = s.nodes := by
  rw [writes.same]

/-- A plug that was set is read as the number that it was set to. -/
theorem read_key (wf : after.WellFormed) {plug key : String} {v : Float}
    (known : s.canonical? plug = some key) (held : after.values.find? key = some v) :
    after.read plug = .ok (.number v) := by
  obtain ⟨⟨node, place⟩, there, rfl⟩ := Option.map_eq_some_iff.mp known
  rw [← place?_of_nodes writes.nodes] at there
  have narrow : place.width = 1 :=
    Option.some.inj ((wf.canonical?_canonical there).2.symm.trans
      (wf.valued _ (Table.mem_entries_of_find? held)).2)
  rw [read_of_place? there, readPlace, wf.parts?_eq_none there narrow]
  simp only [stored, held, Option.getD_some]

theorem read_plugs (wf : after.WellFormed) {plugs : List String}
    (known : plugs.map s.canonical? = keys.map some) :
    List.Forall₂ (fun plug v => after.read plug = .ok (.number v)) plugs numbers := by
  have aimed : List.Forall₂ (· = ·) (plugs.map s.canonical?) (keys.map some) :=
    known ▸ List.forall₂_same.mpr fun _ _ => rfl
  rw [List.forall₂_map_left_iff, List.forall₂_map_right_iff] at aimed
  refine forall₂_trans ?_ aimed writes.held
  intro plug key v isKey held
  exact writes.read_key wf isKey held

/-- Other plugs keep their numbers. -/
theorem valueOf? {plug : String} (apart : ∀ key ∈ keys, s.canonical? plug ≠ some key) :
    after.valueOf? plug = s.valueOf? plug := by
  rw [Scene.valueOf?, Scene.valueOf?, place?_of_nodes writes.nodes]
  cases there : s.place? plug with
  | none => rfl
  | some found =>
    obtain ⟨node, place⟩ := found
    have other : Plug.join node place.path ∉ keys := by
      intro member
      refine apart _ member ?_
      rw [canonical?, there]
      rfl
    simp only [Option.map_some, stored, writes.elsewhere _ other]

/-- A compound is read with the new numbers at the parts that were set, and with the old ones at
the others. -/
theorem read_compound {plug : String} {parts : List String} (listed : s.parts? plug = some parts) :
    ∃ before now : List Float, s.read plug = .ok (.list before) ∧
      after.read plug = .ok (.list now) ∧ before.length = parts.length ∧
      now.length = parts.length ∧ ∀ (i : Nat) (part : String), parts[i]? = some part →
        (∀ (j : Nat) (v : Float), keys[j]? = some part → numbers[j]? = some v →
          now[i]? = some v) ∧
        (part ∉ keys → now[i]? = before[i]?) := by
  obtain ⟨⟨node, place⟩, there, isParts⟩ := Option.bind_eq_some_iff.mp listed
  obtain ⟨names, isNames, rfl⟩ := Option.map_eq_some_iff.mp isParts
  have thereAfter := (place?_of_nodes writes.nodes plug).trans there
  refine ⟨names.map (s.stored node · place.default), names.map (after.stored node · place.default),
    ?_, ?_, by simp, by simp, fun i part isPart => ?_⟩
  · rw [read_of_place? there, readPlace, isNames]
  · rw [read_of_place? thereAfter, readPlace, isNames]
  · rw [List.getElem?_map] at isPart
    obtain ⟨name, isName, rfl⟩ := Option.map_eq_some_iff.mp isPart
    rw [List.getElem?_map, List.getElem?_map, isName, Option.map_some, Option.map_some, stored,
      stored]
    refine ⟨fun j v isKey isNumber => ?_, fun absent => ?_⟩
    · obtain ⟨number, isNumber', held⟩ := forall₂_getElem? writes.held isKey
      rw [isNumber] at isNumber'
      rw [held, Option.getD_some, ← Option.some.inj isNumber']
    · rw [writes.elsewhere _ absent]

end Writes

/-! ### Reading without a fault -/

end Scene

/-- The name of a child designates that child, if anything. -/
theorem Layout.Sound.eq_child_of_find? {layout : Layout} (sound : layout.Sound) {a : Attribute}
    (member : a ∈ layout) {c : Attribute.Child} (inside : c ∈ a.children) {place : Place}
    (found : layout.find? c.long = some place) : place = .child a c := by
  have named := Attribute.mem_names_of_child inside c.long_mem_names
  have known := mem_names member named
  rw [find?, AttrPath.read?_name (sound.unmarked known rfl) (sound.unmarked known rfl),
    Option.bind_some, locate?, sound.attribute?_child member inside c.long_mem_names] at found
  obtain ⟨⟨b, d⟩, foundChild, rfl⟩ := Option.map_eq_some_iff.mp found
  obtain ⟨inLayout, _, other, namedOther⟩ := mem_of_child? foundChild
  obtain rfl := sound.eq_of_shared_name inLayout member
    (Attribute.mem_names_of_child other namedOther) named
  rw [sound.child_eq_of_shared_name member other inside namedOther c.long_mem_names]

namespace Scene

/-- What is read under the name of a child is the number of that child. -/
theorem WellFormed.read_child {s : Scene} (wf : s.WellFormed) {plug node : String} {a : Attribute}
    (there : s.place? plug = some (node, .whole a)) {c : Attribute.Child} (inside : c ∈ a.children)
    {v : Float} (reads : s.read (Plug.join node c.long) = .ok (.number v)) :
    s.stored node c.long a.default = v := by
  obtain ⟨_, n, _, found, located⟩ := (s.place?_eq_some_iff _ _ _).mp there
  obtain ⟨inScene, rfl⟩ := mem_of_node? found
  obtain ⟨owner, place, thereChild, isNumber⟩ := read_eq_ok reads
  obtain ⟨name, m, split, foundOwner, locatedChild⟩ :=
    (s.place?_eq_some_iff _ _ _).mp thereChild
  obtain ⟨_, _, freeOwner, joined⟩ := (Plug.split?_eq_some_iff _ _ _).mp split
  obtain ⟨rfl, rfl⟩ := Plug.join_inj freeOwner (wf.named n inScene).2 joined
  obtain rfl := Option.some.inj (found.symm.trans foundOwner)
  obtain rfl := (wf.layouts n inScene).eq_child_of_find? (Layout.on_of_find? located) inside
    locatedChild
  exact Primitive.number.inj isNumber

/-- A compound whose children hold numbers is read as these numbers. -/
theorem WellFormed.read_children {s : Scene} (wf : s.WellFormed) {plug node : String}
    {place : Place} {children texts : List String} {numbers : List Float}
    (there : s.place? plug = some (node, place)) (listed : place.children? = some children)
    (channels : (children.map fun c => Channel.plug (Plug.join node c)) = texts.map .plug)
    (reads : List.Forall₂ (fun text v => s.read text = .ok (.number v)) texts numbers) :
    ∃ payload, s.read plug = .ok payload ∧ payload.numbers = numbers := by
  have named : children.map (Plug.join node) = texts := by
    refine List.map_injective_iff.mpr (fun _ _ => Channel.plug.inj) ?_
    rw [List.map_map]
    exact channels
  cases place with
  | child | element | elementChild => cases listed
  | whole a =>
    have compound : (Place.whole a).parts? = some children := listed
    refine ⟨_, read_of_place? there, ?_⟩
    rw [readPlace, compound]
    rw [Place.children?] at listed
    split at listed
    · obtain rfl := Option.some.inj listed
      rw [← named, Attribute.childNames, List.map_map, List.forall₂_map_left_iff] at reads
      have each := (List.forall₂_and_left _ _).mpr
        ⟨fun c (inside : c ∈ a.children) => inside, reads⟩
      have held : List.Forall₂ (fun c v => s.stored node c.long a.default = v) a.children
          numbers := each.imp fun c v known => wf.read_child there known.1 known.2
      rw [← List.forall₂_map_left_iff, List.forall₂_eq_eq_eq] at held
      show a.childNames.map (s.stored node · a.default) = numbers
      rw [← held, Attribute.childNames, List.map_map]
      rfl
    · cases listed

/-- A plug whose channels hold numbers is read as these numbers. -/
theorem WellFormed.read_channels {s : Scene} (wf : s.WellFormed) {plug : String}
    {texts : List String} {numbers : List Float}
    (channels : s.plugChannels plug = texts.map .plug)
    (reads : List.Forall₂ (fun text v => s.read text = .ok (.number v)) texts numbers) :
    ∃ payload, s.read plug = .ok payload ∧ payload.numbers = numbers := by
  have itself (single : [Channel.plug plug] = texts.map .plug) :
      ∃ payload, s.read plug = .ok payload ∧ payload.numbers = numbers := by
    obtain ⟨text, rest, rfl, isPlug, isRest⟩ := List.map_eq_cons_iff.mp single.symm
    obtain rfl := List.map_eq_nil_iff.mp isRest
    cases isPlug
    obtain ⟨v, others, first, none, rfl⟩ := List.forall₂_cons_left_iff.mp reads
    obtain rfl := List.forall₂_nil_left_iff.mp none
    exact ⟨.number v, first, rfl⟩
  rw [plugChannels] at channels
  split at channels
  · rename_i node attr split
    split at channels
    · rename_i children listed
      obtain ⟨place, located, isChildren⟩ := Option.bind_eq_some_iff.mp listed
      have there : s.place? plug = some (node, place) := by
        simp only [place?, split, located, Option.map_some]
      exact wf.read_children there isChildren channels reads
    · exact itself channels
  · exact itself channels

end Scene

theorem Value.numbers_collect (values : List Value) :
    (Value.collect values).payload.numbers = values.flatMap (·.payload.numbers) := by
  unfold Value.collect
  split
  · exact (List.append_nil _).symm
  · rfl

namespace Program

/-- With no fault in wait, a plug that the scene can read is read. -/
theorem exec_readPlug_calm {plug : String} {payload : Primitive} {s : Session}
    (calm : s.host.fault = none) (reads : s.scene.read plug = .ok payload) :
    ∃ v after, exec (readPlug plug) s = (.ok v, after) ∧ v.payload = payload ∧
      after.host.fault = none ∧ after.scene = s.scene := by
  obtain ⟨node, place, there, _⟩ := Scene.read_eq_ok reads
  have run := exec_call_calm (.read plug) (fun _ => .done)
    (fun scene => (scene.read plug).map fun payload => (payload, scene)) calm
    (congrArg (Except.map fun payload => (payload, s.scene)) reads)
  refine ⟨⟨payload, s.recorder.nextLabel?.getD plug, false⟩,
    (s.answered (.read plug) .done s.scene none).recorded (.read plug), ?_, rfl, rfl, rfl⟩
  rw [readPlug, exec_bind, exec_scene]
  dsimp only
  rw [if_pos (Scene.has_of_place? there), exec_bind, run]
  rfl

theorem exec_readChannels_calm {plugs : List String} {payloads : List Primitive} {scene : Scene}
    (reads : List.Forall₂ (fun plug payload => scene.read plug = .ok payload) plugs payloads)
    {s : Session} (calm : s.host.fault = none) (same : s.scene = scene) :
    ∃ values after, exec (readChannels (plugs.map .plug)) s = (.ok values, after) ∧
      values.map (·.payload) = payloads := by
  induction reads generalizing s with
  | nil => exact ⟨[], s, rfl, rfl⟩
  | @cons plug payload plugs payloads first others inductionHypothesis =>
    obtain ⟨v, between, run, rfl, calmBetween, sameBetween⟩ :=
      exec_readPlug_calm calm (same ▸ first)
    obtain ⟨values, after, runs, isPayloads⟩ :=
      inductionHypothesis calmBetween (sameBetween.trans same)
    refine ⟨v :: values, after, ?_, congrArg (v.payload :: ·) isPayloads⟩
    rw [List.map_cons, readChannels, exec_bind, readChannel, run]
    dsimp only
    rw [exec_bind, runs]
    rfl

/-- The plugs of a reference whose channels hold numbers are read as these numbers. -/
theorem read_flatMap_channels {scene : Scene} (wf : scene.WellFormed) {plugs texts : List String}
    {numbers : List Float} (channels : plugs.flatMap scene.plugChannels = texts.map .plug)
    (reads : List.Forall₂ (fun text v => scene.read text = .ok (.number v)) texts numbers) :
    ∃ payloads, List.Forall₂ (fun plug payload => scene.read plug = .ok payload) plugs payloads ∧
      payloads.flatMap Primitive.numbers = numbers := by
  induction plugs generalizing texts numbers with
  | nil =>
    obtain rfl := List.map_eq_nil_iff.mp channels.symm
    obtain rfl := List.forall₂_nil_left_iff.mp reads
    exact ⟨[], .nil, rfl⟩
  | cons plug rest inductionHypothesis =>
    obtain ⟨front, back, rfl, isFront, isBack⟩ := List.map_eq_append_iff.mp channels.symm
    have first := List.forall₂_take front.length reads
    have others := List.forall₂_drop front.length reads
    rw [List.take_left] at first
    rw [List.drop_left] at others
    obtain ⟨payload, readsPlug, isFirst⟩ := wf.read_channels isFront.symm first
    obtain ⟨payloads, readsRest, isRest⟩ := inductionHypothesis isBack.symm others
    refine ⟨payload :: payloads, .cons readsPlug readsRest, ?_⟩
    rw [List.flatMap_cons, isFirst, isRest, List.take_append_drop]

/-- A reference whose channels hold numbers is read as these numbers. -/
theorem exec_read_numbers {r : Reference} {plugs : List String} {numbers : List Float} {s : Session}
    (wf : s.scene.WellFormed) (calm : s.host.fault = none)
    (taken : s.scene.unravel r.toOperand = .ok (plugs.map .plug))
    (reads : List.Forall₂ (fun plug v => s.scene.read plug = .ok (.number v)) plugs numbers) :
    ∃ v after, exec (read r) s = (.ok v, after) ∧ v.payload.numbers = numbers := by
  cases r with
  | node name attrs =>
    rw [Reference.toOperand, Scene.unravel, Scene.attrsChannels] at taken
    cases listed : attrs.plugs? name with
    | none =>
      rw [listed] at taken
      cases taken
    | some named =>
      rw [listed] at taken
      obtain ⟨payloads, each, isNumbers⟩ := read_flatMap_channels wf (Except.ok.inj taken) reads
      obtain ⟨values, after, run, isPayloads⟩ := exec_readChannels_calm each calm rfl
      refine ⟨.collect values, after, ?_, ?_⟩
      · rw [read_node_eq listed, exec_wrap, run]
        rfl
      · rw [Value.numbers_collect, ← isNumbers, ← isPayloads, List.flatMap_map]
  | literal payload =>
    have apart : (read (.literal payload) = do
          let channels ← unravel payload
          return .collect (← readChannels channels)) →
        ∃ v after, exec (read (.literal payload)) s = (.ok v, after) ∧
          v.payload.numbers = numbers := by
      intro isRead
      have each : List.Forall₂ (fun plug payload => s.scene.read plug = .ok payload) plugs
          (numbers.map .number) := List.forall₂_map_right_iff.mpr reads
      obtain ⟨values, after, run, isPayloads⟩ := exec_readChannels_calm each calm rfl
      refine ⟨.collect values, after, ?_, ?_⟩
      · rw [isRead, exec_bind, unravel, exec_look]
        rw [Reference.toOperand, Scene.unravel] at taken
        rw [taken]
        dsimp only
        rw [exec_wrap, run]
        rfl
      · have collected : values.flatMap (·.payload.numbers) =
            (values.map (·.payload)).flatMap Primitive.numbers := (List.flatMap_map ..).symm
        rw [Value.numbers_collect, collected, isPayloads, List.flatMap_map]
        exact List.flatMap_singleton' numbers
    -- A number or a value is no plug, so nothing is left to read unless the value is an empty list.
    cases payload with
    | number v => cases plugs <;> cases taken
    | value v =>
      have channels : v.channels = plugs.map .plug := Except.ok.inj taken
      rw [Value.channels] at channels
      split at channels
      · cases plugs <;> cases channels
      · cases empty : v.payload.numbers with
        | cons x rest =>
          rw [empty] at channels
          cases plugs <;> cases channels
        | nil =>
          rw [empty] at channels
          obtain rfl := List.map_eq_nil_iff.mp channels.symm
          cases reads
          exact ⟨v, s, rfl, empty⟩
    | path | node | literal | list => exact apart rfl

/-! ### Setting and reading -/

/-- Setting plugs to numbers, if it succeeds, writes the numbers under them. -/
theorem writes_of_setOrConnect {o : Options} {target source : Operand} {plugs keys : List String}
    {sources : List Channel} {numbers : List Float} {s after : Session}
    (aimed : s.scene.unravel (asTarget target) = .ok (plugs.map .plug))
    (known : plugs.map s.scene.canonical? = keys.map some) (distinct : keys.Nodup)
    (taken : s.scene.unravel source = .ok sources)
    (literal : sources.map Channel.number? = numbers.map some)
    (done : exec (setOrConnect o target source) s = (.ok (), after)) :
    ∃ dealt, Dealt plugs.length numbers dealt ∧ s.scene.Writes keys dealt after.scene := by
  rw [exec_setOrConnect aimed taken, exec_wire_eq] at done
  split at done
  · cases done
  · split at done
    · rename_i matched
      have lengths := Channel.length_spread matched
      obtain ⟨dealt, isDealt, spread⟩ := exists_dealt literal lengths
      have links : s.scene.links (plugs.map .plug) sources = List.zipWith Link.mk
          (plugs.map .plug) (Channel.spread (plugs.map Channel.plug).length sources) := by
        rw [Scene.links, s.scene.collapse?_numbers spread]
        cases s.scene.collapse? (plugs.map .plug) <;> rfl
      rw [links] at done
      rw [List.length_map] at isDealt
      exact ⟨dealt, isDealt,
        Scene.writes_of_makesAll known distinct spread lengths (makesAll_of_wireLinks done)⟩
    · cases done

/-- Numbers that were set on different plugs are read back. Each target is read as its own number,
or as the only one there is, and so is whatever reference the target was written as. All other plugs
keep their numbers, a compound changes at the parts that were set, and nothing but numbers is
touched. -/
theorem setOrConnect_reads_back {o : Options} {target source : Operand} {plugs keys : List String}
    {sources : List Channel} {numbers : List Float} {s after : Session}
    (reachable : s.scene.Reachable) (calm : s.host.fault = none)
    (aimed : s.scene.unravel (asTarget target) = .ok (plugs.map .plug))
    (known : plugs.map s.scene.canonical? = keys.map some) (distinct : keys.Nodup)
    (taken : s.scene.unravel source = .ok sources)
    (literal : sources.map Channel.number? = numbers.map some)
    (done : exec (setOrConnect o target source) s = (.ok (), after)) :
    ∃ dealt, Dealt plugs.length numbers dealt ∧
      plugs.map after.scene.read = dealt.map (fun v => .ok (.number v)) ∧
      (∃ values later, exec (readChannels (plugs.map .plug)) after = (.ok values, later) ∧
        values.map (·.payload) = dealt.map .number) ∧
      (∀ r : Reference, r.toOperand = asTarget target →
        ∃ v later, exec (read r) after = (.ok v, later) ∧ v.payload.numbers = dealt) ∧
      (∀ plug, (∀ key ∈ keys, s.scene.canonical? plug ≠ some key) →
        after.scene.valueOf? plug = s.scene.valueOf? plug) ∧
      (∀ plug parts, s.scene.parts? plug = some parts →
        ∃ before now : List Float, s.scene.read plug = .ok (.list before) ∧
          after.scene.read plug = .ok (.list now) ∧ before.length = parts.length ∧
          now.length = parts.length ∧ ∀ (i : Nat) (part : String), parts[i]? = some part →
            (∀ (j : Nat) (v : Float), keys[j]? = some part → dealt[j]? = some v →
              now[i]? = some v) ∧
            (part ∉ keys → now[i]? = before[i]?)) ∧
      after.scene.nodes = s.scene.nodes ∧ after.scene.connections = s.scene.connections ∧
      after.scene.containers = s.scene.containers := by
  obtain ⟨dealt, isDealt, writes⟩ :=
    writes_of_setOrConnect aimed known distinct taken literal done
  have evolves : Session.Evolves s (exec (setOrConnect o target source) s).2 :=
    (covers_evolves o.force).setOrConnect (fun _ _ => trivial) s
  have calmly : StaysCalm s (exec (setOrConnect o target source) s).2 :=
    (covers_staysCalm o.force).setOrConnect (fun _ _ => trivial) s
  rw [done] at evolves calmly
  have wf : after.scene.WellFormed := evolves.wellFormed reachable.wellFormed
  have reads := writes.read_plugs wf known
  have each : List.Forall₂ (fun plug payload => after.scene.read plug = .ok payload) plugs
      (dealt.map .number) := List.forall₂_map_right_iff.mpr reads
  refine ⟨dealt, isDealt, ?_, exec_readChannels_calm each (calmly calm) rfl, ?_,
    fun _ => writes.valueOf?, fun _ _ => writes.read_compound, writes.nodes, ?_, ?_⟩
  · rw [← List.forall₂_eq_eq_eq, List.forall₂_map_left_iff, List.forall₂_map_right_iff]
    exact reads
  · intro r isTarget
    refine exec_read_numbers wf (calmly calm) ?_ reads
    rw [isTarget, Scene.unravel_of_nodes writes.nodes]
    exact aimed
  · rw [writes.same]
  · rw [writes.same]

/-- One number for all three channels of a translation. -/
theorem setOrConnect_reads_back_translation :
    ∃ s after : Session,
      s = Session.start (.ofScene (Scene.empty.run [.addTransform "pCube1"]) "") ∧
      s.scene.Reachable ∧ s.host.fault = none ∧
      s.scene.unravel (asTarget (.path "pCube1.t")) =
        .ok (["pCube1.translateX", "pCube1.translateY", "pCube1.translateZ"].map .plug) ∧
      exec (setOrConnect .default (.path "pCube1.t") (.number 5)) s = (.ok (), after) ∧
      ∃ dealt, Dealt 3 [5] dealt ∧
        ["pCube1.translateX", "pCube1.translateY", "pCube1.translateZ"].map after.scene.read =
          dealt.map (fun v => .ok (.number v)) := by
  have reachable : (Scene.empty.run [.addTransform "pCube1"]).Reachable := ⟨_, rfl⟩
  have aimed : (Scene.empty.run [.addTransform "pCube1"]).unravel (asTarget (.path "pCube1.t")) =
      .ok (["pCube1.translateX", "pCube1.translateY", "pCube1.translateZ"].map .plug) := by
    decide +kernel
  have known : ["pCube1.translateX", "pCube1.translateY", "pCube1.translateZ"].map
      (Scene.empty.run [.addTransform "pCube1"]).canonical? =
      ["pCube1.translateX", "pCube1.translateY", "pCube1.translateZ"].map some := by
    decide +kernel
  have done : (exec (setOrConnect .default (.path "pCube1.t") (.number 5)) (Session.start
      (.ofScene (Scene.empty.run [.addTransform "pCube1"]) ""))).1 = .ok () := by
    decide +kernel
  have literal : [Channel.ofNumber 5].map Channel.number? = [5].map some := rfl
  cases run : exec (setOrConnect .default (.path "pCube1.t") (.number 5)) (Session.start
      (.ofScene (Scene.empty.run [.addTransform "pCube1"]) "")) with
  | mk answer after =>
    rw [run] at done
    subst done
    obtain ⟨dealt, isDealt, reads, _⟩ := setOrConnect_reads_back
      (s := Session.start (.ofScene (Scene.empty.run [.addTransform "pCube1"]) ""))
      reachable rfl aimed known (by decide) rfl literal run
    exact ⟨_, after, rfl, reachable, rfl, aimed, run, dealt, isDealt, reads⟩

end Program

end FormulaNet
