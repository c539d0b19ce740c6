/-
This file follows a wiring whatever becomes of it. Numbers of targets and
sources that do not match up are refused before anything is asked of the host.
Else the wiring has a list of links to make: one between two compounds if both
sides are all the children of one, and otherwise one for each target. It makes
them in order up to the first that cannot be made, and the error tells what
stood in the way of that one: its target is missing, or its target is there and
its source is missing, or both are there and the host did not carry out the
call. What is stored changes by the links that were made and by nothing else.
-/

import FormulaNet.Proofs.Actions
import FormulaNet.Proofs.Links
import FormulaNet.Proofs.Reachable
import FormulaNet.Proofs.Spelling

namespace FormulaNet

/-! ### The links of a wiring -/

/-- Numbers of targets and sources that match up: as many of one as of the other, or one source for
several targets. -/
def Link.Matched (targets sources : Nat) : Prop :=
  (targets = sources ∧ 0 < targets) ∨ (sources = 1 ∧ 1 < targets)

instance (targets sources : Nat) : Decidable (Link.Matched targets sources) :=
  inferInstanceAs (Decidable (_ ∨ _))

/-- The sources as the targets get them: a single source goes to every target. -/
def Channel.spread (targets : Nat) : List Channel → List Channel
  | [source] => List.replicate targets source
  | sources => sources

/-- The links of a wiring: one between two compounds if the targets are all the children of one and
the sources all those of the other, and else one for each target. -/
def Scene.links (s : Scene) (targets sources : List Channel) : List Link :=
  match s.collapse? targets, s.collapse? (Channel.spread targets.length sources) with
  | some target, some source => [⟨.plug target, .plug source⟩]
  | _, _ => List.zipWith Link.mk targets (Channel.spread targets.length sources)

theorem Channel.length_spread {targets sources : List Channel}
    (matched : Link.Matched targets.length sources.length) :
    (Channel.spread targets.length sources).length = targets.length := by
  unfold spread
  split
  · exact List.length_replicate
  · rename_i several
    rcases matched with ⟨equal, _⟩ | ⟨single, _⟩
    · exact equal.symm
    · obtain ⟨source, rfl⟩ := List.length_eq_one_iff.mp single
      exact absurd rfl (several source)

theorem Link.pair?_eq (targets sources : List Channel) :
    Link.pair? targets sources =
      if Link.Matched targets.length sources.length then
        some (List.zipWith Link.mk targets (Channel.spread targets.length sources))
      else none := by
  unfold Link.pair?
  by_cases equal : targets.length = sources.length ∧ targets ≠ []
  · have matched : Link.Matched targets.length sources.length :=
      Or.inl ⟨equal.1, List.length_pos_iff.mpr equal.2⟩
    rw [if_pos equal, if_pos matched]
    unfold Channel.spread
    split
    · -- one target and one source
      rename_i source
      rw [equal.1]
      rfl
    · rfl
  · rw [if_neg equal]
    have unequal : ¬ (targets.length = sources.length ∧ 0 < targets.length) := by
      rwa [List.length_pos_iff]
    split
    · rename_i source
      by_cases several : 1 < targets.length
      · have matched : Link.Matched targets.length [source].length := Or.inr ⟨rfl, several⟩
        rw [if_pos several, if_pos matched, Channel.spread]
        refine congrArg some (List.ext_getElem? fun j => ?_)
        rw [List.getElem?_map, List.getElem?_zipWith, List.getElem?_replicate]
        by_cases inside : j < targets.length
        · simp [inside]
        · simp [inside]
      · rw [if_neg several, if_neg]
        rintro (matched | ⟨_, many⟩)
        · exact unequal matched
        · exact several many
    · rename_i single
      rw [if_neg]
      rintro (matched | ⟨one, _⟩)
      · exact unequal matched
      · obtain ⟨source, rfl⟩ := List.length_eq_one_iff.mp one
        exact single source rfl

theorem Link.map_target_zipWith {targets sources : List Channel}
    (lengths : sources.length = targets.length) :
    (List.zipWith Link.mk targets sources).map (·.target) = targets := by
  rw [← List.map_uncurry_zip_eq_zipWith, List.map_map]
  exact List.map_fst_zip (Nat.le_of_eq lengths.symm)

theorem Link.map_source_zipWith {targets sources : List Channel}
    (lengths : sources.length = targets.length) :
    (List.zipWith Link.mk targets sources).map (·.source) = sources := by
  rw [← List.map_uncurry_zip_eq_zipWith, List.map_map]
  exact List.map_snd_zip (Nat.le_of_eq lengths)

/-- Paired off, targets and sources collapse if both sides do. -/
theorem Scene.collapseLinks_zipWith (s : Scene) {targets sources : List Channel}
    (matched : Link.Matched targets.length sources.length) :
    s.collapseLinks (List.zipWith Link.mk targets (Channel.spread targets.length sources)) =
      s.links targets sources := by
  have lengths := Channel.length_spread matched
  rewrite [collapseLinks, Link.map_target_zipWith lengths, Link.map_source_zipWith lengths, links]
  rfl

/-- A wiring is planned if its sides are not too long and match up. -/
theorem Scene.plan_eq (s : Scene) (ceiling : Nat) (targets sources : List Channel) :
    s.plan ceiling targets sources =
      if ceiling < targets.length ∨ ceiling < sources.length then
        .error (.ceiling targets.length sources.length ceiling)
      else if Link.Matched targets.length sources.length then .ok (s.links targets sources)
      else .error (.broadcast targets.length sources.length) := by
  unfold plan
  by_cases long : ceiling < targets.length ∨ ceiling < sources.length
  · rw [if_pos long, if_pos long]
  · rw [if_neg long, if_neg long, Link.pair?_eq]
    by_cases matched : Link.Matched targets.length sources.length
    · rw [if_pos matched, if_pos matched]
      exact congrArg Except.ok (s.collapseLinks_zipWith matched)
    · rw [if_neg matched, if_neg matched]

/-! ### Links that are made, and links that are not -/

namespace Link

/-- The call that makes a link. A number is no target. -/
def call? (force : Bool) : Link → Option Call
  | ⟨.plug target, .literal value _⟩ => some (.set target value)
  | ⟨.plug target, .plug source⟩ => some (.connect source target force)
  | ⟨.literal _ _, _⟩ => none

/-- What the journal tells of a link that was made. -/
def carried (force : Bool) (link : Link) : List JournalEntry :=
  (link.call? force).toList.map fun call => ⟨call, .done⟩

/-- Why a link was not made: the error, and what the journal tells of it. The host is asked only if
what the link joins is there. -/
inductive Stops (force : Bool) (s : Scene) : Link → Error → List JournalEntry → Prop where
  | literal {value : Float} {expression : Option String} {source : Channel} :
    Stops force s ⟨.literal value expression, source⟩
      (.noTarget (Channel.literal value expression).text) []
  | target {target : String} {source : Channel} (missing : s.has target = false) :
    Stops force s ⟨.plug target, source⟩ (.noTarget target) []
  | source {target source : String} (there : s.has target = true)
    (missing : s.has source = false) :
    Stops force s ⟨.plug target, .plug source⟩ (.noSource source) []
  | host {target : String} {source : Channel} {call : Call} {e : HostError} {message : String}
    (there : s.has target = true)
    (thereSource : ∀ text, source = .plug text → s.has text = true)
    (asked : call? force ⟨.plug target, source⟩ = some call) :
    Stops force s ⟨.plug target, source⟩ (.host e) [⟨call, .failed message⟩]

theorem Stops.of_nodes {force : Bool} {s other : Scene} (nodes : s.nodes = other.nodes)
    {link : Link} {e : Error} {tried : List JournalEntry} (stops : link.Stops force s e tried) :
    link.Stops force other e tried := by
  have same (path : String) : other.has path = s.has path := Scene.has_of_nodes nodes.symm path
  cases stops with
  | literal => exact .literal
  | target missing => exact .target ((same _).trans missing)
  | source there missing => exact .source ((same _).trans there) ((same _).trans missing)
  | host there thereSource asked =>
    exact .host ((same _).trans there)
      (fun text isPlug => (same text).trans (thereSource text isPlug)) asked

theorem Makes.nodes {force : Bool} {link : Link} {s after : Scene}
    (made : link.Makes force s after) : after.nodes = s.nodes := by
  cases made with
  | set done =>
    obtain ⟨_, _, _, _, rfl⟩ := Scene.set_eq_ok done
    rfl
  | connect done =>
    obtain ⟨_, _, _, _, _, _, _, _, _, rfl⟩ := Scene.connect_eq_ok done
    rfl

end Link

namespace Program

/-- One link: it is made, or something stops it and the scene stays as it is. -/
theorem exec_wireLink_cases (force : Bool) (link : Link) (s : Session) :
    (∃ after, exec (wireLink force link) s = (.ok (), after) ∧
      link.Makes force s.scene after.scene ∧
      after.host.journal = s.host.journal ++ link.carried force) ∨
    ∃ e tried after, exec (wireLink force link) s = (.error e, after) ∧
      link.Stops force s.scene e tried ∧ after.scene = s.scene ∧
      after.host.journal = s.host.journal ++ tried := by
  obtain ⟨target, source⟩ := link
  rw [wireLink, exec_bind, exec_scene]
  have nothing : s.host.journal = s.host.journal ++ [] := (List.append_nil _).symm
  cases target with
  | literal value expression => exact Or.inr ⟨_, [], s, rfl, .literal, rfl, nothing⟩
  | plug target =>
    by_cases there : s.scene.has target = true
    · cases source with
      | literal value expression =>
        dsimp only
        rw [if_pos there]
        rcases exec_setPlug_cases target value (Channel.literal value expression).text s with
          ⟨e, fault, message, run⟩ | ⟨scene, fault, done, run⟩
        · refine Or.inr ⟨_, _, _, run, .host there ?_ rfl, rfl, rfl⟩
          intro text isPlug
          cases isPlug
        · exact Or.inl ⟨_, run, .set done, rfl⟩
      | plug source =>
        dsimp only
        rw [if_pos there]
        by_cases thereSource : s.scene.has source = true
        · rw [if_pos thereSource]
          rcases exec_connect_cases source target force s with
            ⟨e, fault, message, run⟩ | ⟨scene, fault, done, run⟩
          · refine Or.inr ⟨_, _, _, run, .host there ?_ rfl, rfl, rfl⟩
            intro text isPlug
            cases isPlug
            exact thereSource
          · exact Or.inl ⟨_, run, .connect done, rfl⟩
        · rw [if_neg thereSource]
          have missing := Bool.eq_false_iff.mpr thereSource
          exact Or.inr ⟨_, [], s, rfl, .source there missing, rfl, nothing⟩
    · have missing := Bool.eq_false_iff.mpr there
      refine Or.inr ⟨.noTarget target, [], s, ?_, .target missing, rfl, nothing⟩
      cases source with
      | literal value expression =>
        dsimp only
        rw [if_neg there]
        rfl
      | plug source =>
        dsimp only
        rw [if_neg there]
        rfl

/-- Links in order: those up to the first that is stopped are made, and the rest is left. -/
theorem exec_wireLinks_cases (force : Bool) (links : List Link) (s : Session) :
    ∃ made rest tried after, links = made ++ rest ∧
      Link.MakesAll force made s.scene after.scene ∧
      after.host.journal = s.host.journal ++ made.flatMap (Link.carried force) ++ tried ∧
      ((rest = [] ∧ tried = [] ∧ exec (wireLinks force links) s = (.ok (), after)) ∨
        ∃ link later e, rest = link :: later ∧
          exec (wireLinks force links) s = (.error e, after) ∧
          link.Stops force s.scene e tried) := by
  induction links generalizing s with
  | nil => exact ⟨[], [], [], s, rfl, .nil _, by simp, Or.inl ⟨rfl, rfl, rfl⟩⟩
  | cons link links inductionHypothesis =>
    rw [wireLinks, exec_bind]
    rcases exec_wireLink_cases force link s with
      ⟨between, run, makes, journal⟩ | ⟨e, tried, after, run, stops, same, journal⟩
    · obtain ⟨made, rest, tried, after, rfl, makesAll, journalLater, ended⟩ :=
        inductionHypothesis between
      refine ⟨link :: made, rest, tried, after, rfl, .cons makes makesAll, ?_, ?_⟩
      · rw [journalLater, journal, List.flatMap_cons]
        simp only [List.append_assoc]
      · rw [run]
        rcases ended with done | ⟨stopped, later, e, isRest, failed, stops⟩
        · exact Or.inl done
        · exact Or.inr ⟨stopped, later, e, isRest, failed, stops.of_nodes makes.nodes⟩
    · refine ⟨[], link :: links, tried, after, rfl, ?_, by simpa using journal, ?_⟩
      · rw [same]
        exact .nil _
      · rw [run]
        exact Or.inr ⟨link, links, e, rfl, rfl, stops⟩

end Program

/-! ### Plugs that exist -/

namespace Scene

/-- A text with a dot names no node, so it exists if and only if it designates a place. -/
theorem WellFormed.has_iff_place? {s : Scene} (wf : s.WellFormed) {text : String}
    (dotted : '.' ∈ text.toList) : s.has text = true ↔ (s.place? text).isSome = true := by
  rw [has_iff, or_iff_left]
  rintro ⟨_, named⟩
  obtain ⟨n, member, rfl⟩ := List.mem_map.mp named
  exact (wf.named n member).2 dotted

theorem dotted_of_mem_plugChannels {s : Scene} {plug text : String} (dotted : '.' ∈ plug.toList)
    (member : .plug text ∈ s.plugChannels plug) : '.' ∈ text.toList := by
  have itself (same : Channel.plug text ∈ [Channel.plug plug]) : '.' ∈ text.toList := by
    cases List.mem_singleton.mp same
    exact dotted
  rw [plugChannels] at member
  split at member
  · split at member
    · obtain ⟨child, _, joined⟩ := List.mem_map.mp member
      cases joined
      simp [Plug.join]
    · exact itself member
  · exact itself member

theorem dotted_of_mem_attrsChannels {s : Scene} {node : String} {attrs : Attrs}
    {channels : List Channel} (taken : s.attrsChannels node attrs = .ok channels) {text : String}
    (member : .plug text ∈ channels) : '.' ∈ text.toList := by
  rw [attrsChannels] at taken
  split at taken
  · rename_i plugs named
    cases taken
    obtain ⟨plug, inside, among⟩ := List.mem_flatMap.mp member
    refine dotted_of_mem_plugChannels ?_ among
    cases attrs with
    | bare => cases named
    | one attr =>
      cases named
      cases List.mem_singleton.mp inside
      simp [Plug.join]
    | many names =>
      cases named
      obtain ⟨name, _, rfl⟩ := List.mem_map.mp inside
      simp [Plug.join]
  · cases taken

mutual

/-- Every plug among the channels of an operand is written with a dot. -/
theorem dotted_of_unravel (s : Scene) (operand : Operand) {channels : List Channel}
    (taken : s.unravel operand = .ok channels) {text : String} (member : .plug text ∈ channels) :
    '.' ∈ text.toList := by
  cases operand with
  | number v =>
    cases taken
    cases List.mem_singleton.mp member
  | value v =>
    cases taken
    rw [Value.channels] at member
    split at member
    · cases List.mem_singleton.mp member
    · obtain ⟨_, _, literal⟩ := List.mem_map.mp member
      cases literal
  | path plug =>
    rw [unravel] at taken
    split at taken
    · rename_i there
      cases taken
      obtain ⟨⟨node, attr⟩, split⟩ := Option.isSome_iff_exists.mp there.1
      refine dotted_of_mem_plugChannels ?_ member
      rw [← Plug.join_of_split? split]
      simp [Plug.join]
    · cases taken
  | node name attrs => exact dotted_of_mem_attrsChannels taken member
  | literal payload => exact s.dotted_of_unravel payload taken member
  | list items => exact s.dotted_of_unravelAll items taken member

theorem dotted_of_unravelAll (s : Scene) (items : List Operand) {channels : List Channel}
    (taken : s.unravelAll items = .ok channels) {text : String} (member : .plug text ∈ channels) :
    '.' ∈ text.toList := by
  cases items with
  | nil =>
    cases taken
    cases member
  | cons item rest =>
    obtain ⟨first, others, takenFirst, takenRest, rfl⟩ := unravelAll_cons_eq_ok taken
    rcases List.mem_append.mp member with early | late
    · exact s.dotted_of_unravel item takenFirst early
    · exact s.dotted_of_unravelAll rest takenRest late

end

end Scene

/-! ### Whole wirings -/

namespace Program

/-- A wiring is refused for its numbers, and then nothing happens, or it makes its links. -/
theorem exec_wire_eq (o : Options) (targets sources : List Channel) (s : Session) :
    exec (wire o targets sources) s =
      if o.ceiling < targets.length ∨ o.ceiling < sources.length then
        (.error (.ceiling targets.length sources.length o.ceiling), s)
      else if Link.Matched targets.length sources.length then
        exec (wireLinks o.force (s.scene.links targets sources)) s
      else (.error (.broadcast targets.length sources.length), s) := by
  rw [wire, exec_bind, exec_look, Scene.plan_eq]
  by_cases long : o.ceiling < targets.length ∨ o.ceiling < sources.length
  · rw [if_pos long, if_pos long]
  · rw [if_neg long, if_neg long]
    by_cases matched : Link.Matched targets.length sources.length
    · rw [if_pos matched, if_pos matched]
    · rw [if_neg matched, if_neg matched]

/-- A link is never stopped for numbers that do not match up. -/
theorem kind_of_stops {force : Bool} {s : Scene} {link : Link} {e : Error}
    {tried : List JournalEntry} (stops : link.Stops force s e tried) :
    e.kind ≠ .dimensionMismatch ∧ e.kind ≠ .incompatibleDimensions := by
  cases stops <;> exact ⟨nofun, nofun⟩

/-- Making links never fails for their number. -/
theorem kind_of_wireLinks {force : Bool} {links : List Link} {s : Session} {e : Error}
    (failed : (exec (wireLinks force links) s).1 = .error e) :
    e.kind ≠ .dimensionMismatch ∧ e.kind ≠ .incompatibleDimensions := by
  obtain ⟨_, _, _, _, _, _, _, ⟨_, _, run⟩ | ⟨_, _, _, _, run, stops⟩⟩ :=
    exec_wireLinks_cases force links s
  · rw [run] at failed
    cases failed
  · rw [run] at failed
    cases failed
    exact kind_of_stops stops

/-- A wiring follows its plan. If a side is too long it fails for its dimensions, else it fails
because they are incompatible if and only if the sides do not match up, and in both cases nothing
happens. Else it makes its links in order: a part of them from the front is carried out, which is
all that the journal tells and all that changes the scene; it succeeds if and only if that part is
all of them; and otherwise the error and the one more entry that the journal may have are those of
the first link that was not made. For the channels that operands have, to exist is to designate a
place. -/
theorem wire_follows_plan (o : Options) (s : Session) (reachable : s.scene.Reachable)
    (targets sources : List Channel) :
    ((∃ e, (exec (wire o targets sources) s).1 = .error e ∧ e.kind = .dimensionMismatch) ↔
      o.ceiling < targets.length ∨ o.ceiling < sources.length) ∧
    (targets.length ≤ o.ceiling → sources.length ≤ o.ceiling →
      ((∃ e, (exec (wire o targets sources) s).1 = .error e ∧
          e.kind = .incompatibleDimensions) ↔
        ¬ Link.Matched targets.length sources.length)) ∧
    (o.ceiling < targets.length ∨ o.ceiling < sources.length ∨
        ¬ Link.Matched targets.length sources.length →
      (exec (wire o targets sources) s).2 = s) ∧
    (targets.length ≤ o.ceiling → sources.length ≤ o.ceiling →
      Link.Matched targets.length sources.length →
      ∃ made rest tried, s.scene.links targets sources = made ++ rest ∧
        Link.MakesAll o.force made s.scene (exec (wire o targets sources) s).2.scene ∧
        (exec (wire o targets sources) s).2.host.journal =
          s.host.journal ++ made.flatMap (Link.carried o.force) ++ tried ∧
        ((exec (wire o targets sources) s).1 = .ok () ↔ rest = []) ∧
        (rest = [] → tried = []) ∧
        ∀ link later, rest = link :: later →
          ∃ e, (exec (wire o targets sources) s).1 = .error e ∧
            link.Stops o.force s.scene e tried) ∧
    ∀ operand channels text, s.scene.unravel operand = .ok channels → .plug text ∈ channels →
      (s.scene.has text = true ↔ (s.scene.place? text).isSome = true) := by
  have wf := reachable.wellFormed
  rw [exec_wire_eq]
  refine ⟨?_, ?_, ?_, ?_, ?_⟩
  · by_cases long : o.ceiling < targets.length ∨ o.ceiling < sources.length
    · rw [if_pos long]
      exact ⟨fun _ => long, fun _ => ⟨_, rfl, rfl⟩⟩
    · rw [if_neg long]
      refine ⟨?_, fun isLong => absurd isLong long⟩
      rintro ⟨e, failed, kind⟩
      split at failed
      · exact absurd kind (kind_of_wireLinks failed).1
      · cases failed
        cases kind
  · intro fits fitsSource
    rw [if_neg (by omega)]
    by_cases matched : Link.Matched targets.length sources.length
    · rw [if_pos matched]
      refine ⟨?_, fun unmatched => absurd matched unmatched⟩
      rintro ⟨e, failed, kind⟩
      exact absurd kind (kind_of_wireLinks failed).2
    · rw [if_neg matched]
      exact ⟨fun _ => matched, fun _ => ⟨_, rfl, rfl⟩⟩
  · intro refused
    split
    · rfl
    · rename_i short
      rw [if_neg (by tauto)]
  · intro fits fitsSource matched
    rw [if_neg (by omega), if_pos matched]
    obtain ⟨made, rest, tried, after, planned, makes, journal, ended⟩ :=
      exec_wireLinks_cases o.force (s.scene.links targets sources) s
    refine ⟨made, rest, tried, planned, ?_⟩
    rcases ended with ⟨rfl, rfl, run⟩ | ⟨link, later, e, rfl, run, stops⟩
    · rw [run]
      exact ⟨makes, journal, ⟨fun _ => rfl, fun _ => rfl⟩, fun _ => rfl, nofun⟩
    · rw [run]
      refine ⟨makes, journal, ⟨nofun, nofun⟩, nofun, ?_⟩
      rintro _ _ same
      obtain ⟨rfl, rfl⟩ := List.cons.inj same
      exact ⟨e, rfl, stops⟩
  · intro operand channels text taken member
    exact wf.has_iff_place? (s.scene.dotted_of_unravel operand taken member)

/-- A fault strikes the second of two connections: the first is made, and the wiring fails with the
fault. -/
theorem wire_follows_plan_struck :
    ∃ (s after : Session) (made rest : List Link) (tried : List JournalEntry),
      s = Session.start
        ⟨Scene.empty.run [.addTransform "pCube1"], some ⟨.connect, 1, "down"⟩, "", []⟩ ∧
      exec (wire .default [.plug "pCube1.tx", .plug "pCube1.ty"]
        [.plug "pCube1.rx", .plug "pCube1.ry"]) s = (.error (.host (.fault "down")), after) ∧
      s.scene.links [.plug "pCube1.tx", .plug "pCube1.ty"]
        [.plug "pCube1.rx", .plug "pCube1.ry"] = made ++ rest ∧
      Link.MakesAll Options.default.force made s.scene after.scene ∧
      after.host.journal =
        s.host.journal ++ made.flatMap (Link.carried Options.default.force) ++ tried ∧
      rest ≠ [] := by
  have struck : (exec (wire .default [.plug "pCube1.tx", .plug "pCube1.ty"]
      [.plug "pCube1.rx", .plug "pCube1.ry"]) (Session.start
        ⟨Scene.empty.run [.addTransform "pCube1"], some ⟨.connect, 1, "down"⟩, "", []⟩)).1 =
      .error (.host (.fault "down")) := by decide +kernel
  have follows := (wire_follows_plan .default (Session.start
    ⟨Scene.empty.run [.addTransform "pCube1"], some ⟨.connect, 1, "down"⟩, "", []⟩) ⟨_, rfl⟩
    [.plug "pCube1.tx", .plug "pCube1.ty"] [.plug "pCube1.rx", .plug "pCube1.ry"]).2.2.2.1
      (by decide) (by decide) (by decide)
  obtain ⟨made, rest, tried, planned, makes, journal, succeeds, _⟩ := follows
  refine ⟨_, _, made, rest, tried, rfl, Prod.ext struck rfl, planned, makes, journal, ?_⟩
  intro finished
  exact nomatch struck.symm.trans (succeeds.mpr finished)

end Program

end FormulaNet
