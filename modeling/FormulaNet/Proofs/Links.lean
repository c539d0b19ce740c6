/-
This file follows the links of a wiring that succeeds. Made one by one, links
set or connect their own targets and nothing else, each with what its source
carries. A wiring that collapses connects two compounds instead; then the
targets are all children of the one and the sources all children of the other,
in order.
-/

import FormulaNet.Proofs.Driver

namespace FormulaNet

/-- A list related to another has a partner for each of its elements. -/
theorem forall₂_getElem? {α β : Type} {R : α → β → Prop} {as : List α} {bs : List β}
    (related : List.Forall₂ R as bs) {j : Nat} {a : α} (position : as[j]? = some a) :
    ∃ b, bs[j]? = some b ∧ R a b := by
  induction related generalizing j with
  | nil => simp at position
  | cons head _ inductionHypothesis =>
    cases j with
    | zero =>
      rw [List.getElem?_cons_zero] at position
      exact ⟨_, List.getElem?_cons_zero, Option.some.inj position ▸ head⟩
    | succ j =>
      rw [List.getElem?_cons_succ] at position ⊢
      exact inductionHypothesis position

/-- Partners for the members of a list make a list of partners. -/
theorem exists_forall₂_iff {α β : Type} {R : α → β → Prop} {as : List α} :
    (∃ bs, List.Forall₂ R as bs) ↔ ∀ a ∈ as, ∃ b, R a b := by
  induction as with
  | nil => exact iff_of_true ⟨[], .nil⟩ (List.forall_mem_nil _)
  | cons first rest inductionHypothesis =>
    rw [List.forall_mem_cons, ← inductionHypothesis]
    constructor
    · rintro ⟨_, _ | ⟨one, others⟩⟩
      exact ⟨⟨_, one⟩, _, others⟩
    · rintro ⟨⟨b, one⟩, bs, others⟩
      exact ⟨b :: bs, .cons one others⟩

/-! ### Links that are made -/

/-- Targets keep their order, and each gets the source at its position or the only one. -/
theorem Link.pair?_eq_some {targets sources : List Channel} {pairs : List Link}
    (paired : Link.pair? targets sources = some pairs) :
    pairs.map (·.target) = targets ∧ ∀ (j : Nat) (pair : Link), pairs[j]? = some pair →
      sources = [pair.source] ∨ sources[j]? = some pair.source := by
  unfold Link.pair? at paired
  split at paired
  · rename_i equal
    cases paired
    refine ⟨?_, ?_⟩
    · rw [← List.map_uncurry_zip_eq_zipWith, List.map_map]
      exact List.map_fst_zip (Nat.le_of_eq equal.1)
    · intro j pair atPair
      obtain ⟨target, source, _, atSource, rfl⟩ := List.getElem?_zipWith_eq_some.mp atPair
      exact Or.inr atSource
  · split at paired
    · split at paired
      · cases paired
        refine ⟨by rw [List.map_map]; exact List.map_id _, ?_⟩
        intro j pair atPair
        rw [List.getElem?_map] at atPair
        obtain ⟨target, _, rfl⟩ := Option.map_eq_some_iff.mp atPair
        exact Or.inl rfl
      · cases paired
    · cases paired

/-- What making a link does to the scene. -/
inductive Link.Makes (force : Bool) : Link → Scene → Scene → Prop where
  | set {target : String} {value : Float} {expression : Option String} {s after : Scene}
    (done : s.set target value = .ok after) :
    Makes force ⟨.plug target, .literal value expression⟩ s after
  | connect {target source : String} {s after : Scene}
    (done : s.connect source target force = .ok after) :
    Makes force ⟨.plug target, .plug source⟩ s after

/-- What making several links in order does. -/
inductive Link.MakesAll (force : Bool) : List Link → Scene → Scene → Prop where
  | nil (s : Scene) : MakesAll force [] s s
  | cons {link : Link} {rest : List Link} {s between after : Scene}
    (first : Makes force link s between) (others : MakesAll force rest between after) :
    MakesAll force (link :: rest) s after

namespace Program

theorem makes_of_wireLink {force : Bool} {link : Link} {s after : Session}
    (done : exec (wireLink force link) s = (.ok (), after)) :
    link.Makes force s.scene after.scene := by
  obtain ⟨target, source⟩ := link
  rw [wireLink, exec_bind, exec_scene] at done
  cases target with
  | literal value expression => cases done
  | plug target =>
    cases source with
    | literal value expression =>
      dsimp only at done
      split at done
      · rcases exec_setPlug_cases target value (Channel.literal value expression).text s with
          ⟨_, _, _, run⟩ | ⟨scene, fault, changed, run⟩
        · rw [run] at done
          cases done
        · rw [run] at done
          cases done
          exact .set changed
      · cases done
    | plug source =>
      dsimp only at done
      split at done
      · split at done
        · rcases exec_connect_cases source target force s with
            ⟨_, _, _, run⟩ | ⟨scene, fault, changed, run⟩
          · rw [run] at done
            cases done
          · rw [run] at done
            cases done
            exact .connect changed
        · cases done
      · cases done

theorem makesAll_of_wireLinks {force : Bool} {links : List Link} {s after : Session}
    (done : exec (wireLinks force links) s = (.ok (), after)) :
    Link.MakesAll force links s.scene after.scene := by
  induction links generalizing s with
  | nil =>
    cases done
    exact .nil _
  | cons link rest inductionHypothesis =>
    obtain ⟨_, between, first, others⟩ := exec_bind_ok done
    exact .cons (makes_of_wireLink first) (inductionHypothesis others)

/-- A wiring that succeeds has made all links of its plan. -/
theorem makesAll_of_wire {o : Options} {targets sources : List Channel} {s after : Session}
    (done : exec (wire o targets sources) s = (.ok (), after)) :
    ∃ pairs, Link.pair? targets sources = some pairs ∧
      Link.MakesAll o.force (s.scene.collapseLinks pairs) s.scene after.scene := by
  obtain ⟨links, between, looked, made⟩ := exec_bind_ok done
  rw [exec_look] at looked
  obtain ⟨planned, rfl⟩ := Prod.mk.inj looked
  obtain ⟨pairs, paired, rfl⟩ := Scene.plan_eq_ok planned
  exact ⟨pairs, paired, makesAll_of_wireLinks made⟩

/-- Setting or connecting is wiring what both sides are taken apart into. -/
theorem exec_setOrConnect {o : Options} {target source : Operand} {targets sources : List Channel}
    {s : Session} (taken : s.scene.unravel (asTarget target) = .ok targets)
    (takenSource : s.scene.unravel source = .ok sources) :
    exec (setOrConnect o target source) s = exec (wire o targets sources) s := by
  rw [setOrConnect, unravel, unravel, exec_bind, exec_look, taken]
  dsimp only
  rw [exec_bind, exec_look, takenSource]

end Program

/-! ### Links made one by one -/

namespace Scene

/-- The same is stored under a plug. -/
def SameAt (s after : Scene) (plug : String) : Prop :=
  after.values.find? plug = s.values.find? plug ∧
    after.connections.find? plug = s.connections.find? plug

theorem SameAt.trans {s between after : Scene} {plug : String} (first : SameAt s between plug)
    (second : SameAt between after plug) : SameAt s after plug :=
  ⟨second.1.trans first.1, second.2.trans first.2⟩

/-- What is stored under a target that was fed from a driver. -/
def Fed (s after : Scene) (target : String) : Driver → Prop
  | .plug source => after.connections.find? target = some source
  | .literal value =>
    after.values.find? target = some value ∧
      after.connections.find? target = s.connections.find? target

theorem Fed.of_sameAt {s between after : Scene} {target : String} {driver : Driver}
    (fed : Fed s between target driver) (same : SameAt between after target) :
    Fed s after target driver := by
  cases driver with
  | plug source => exact same.2.trans fed
  | literal value => exact ⟨same.1.trans fed.1, same.2.trans fed.2⟩

theorem Fed.from_sameAt {s between after : Scene} {target : String} {driver : Driver}
    (same : SameAt s between target) (fed : Fed between after target driver) :
    Fed s after target driver := by
  cases driver with
  | plug source => exact fed
  | literal value => exact ⟨fed.1, fed.2.trans same.2⟩

/-- A text that is no other spelling of a plug. -/
def IsCanonical (s : Scene) (text : String) : Prop :=
  ∀ node place, s.place? text = some (node, place) → Plug.join node place.path = text

/-- A connection changes nothing but its destination. -/
theorem connect_stores {s after : Scene} {source dest sourceNode node : String}
    {sourcePlace place : Place} {force : Bool} (done : s.connect source dest force = .ok after)
    (thereSource : s.place? source = some (sourceNode, sourcePlace))
    (there : s.place? dest = some (node, place)) :
    after.nodes = s.nodes ∧
      after.connections.find? (Plug.join node place.path) =
        some (Plug.join sourceNode sourcePlace.path) ∧
      ∀ plug, plug ≠ Plug.join node place.path → SameAt s after plug := by
  obtain ⟨_, _, _, _, foundSource, found, _, _, _, rfl⟩ := connect_eq_ok done
  obtain ⟨rfl, rfl⟩ := Prod.mk.inj (Option.some.inj (thereSource.symm.trans foundSource))
  obtain ⟨rfl, rfl⟩ := Prod.mk.inj (Option.some.inj (there.symm.trans found))
  exact ⟨rfl, Table.find?_insert_self _ _ _, fun plug other =>
    ⟨rfl, Table.find?_insert_other _ other _⟩⟩

/-- The plug that a link is aimed at, in its canonical spelling. -/
def goal? (s : Scene) (link : Link) : Option String := link.target.plug?.bind s.canonical?

theorem canonical?_of_nodes {s after : Scene} (same : after.nodes = s.nodes) :
    after.canonical? = s.canonical? := by
  funext plug
  simp only [canonical?, place?, locate?, node?, same]

theorem goal?_of_nodes {s after : Scene} (same : after.nodes = s.nodes) (link : Link) :
    after.goal? link = s.goal? link := by
  rw [goal?, goal?, canonical?_of_nodes same]

theorem goal?_eq_some {s : Scene} {link : Link} {key : String} (aimed : s.goal? link = some key) :
    ∃ text node place, link.target = .plug text ∧ s.place? text = some (node, place) ∧
      Plug.join node place.path = key := by
  obtain ⟨text, isPlug, known⟩ := Option.bind_eq_some_iff.mp aimed
  obtain ⟨⟨node, place⟩, there, rfl⟩ := Option.map_eq_some_iff.mp known
  refine ⟨text, node, place, ?_, there, rfl⟩
  cases aimedAt : link.target with
  | plug other => rw [aimedAt] at isPlug; exact congrArg Channel.plug (Option.some.inj isPlug)
  | literal value expression => rw [aimedAt] at isPlug; cases isPlug

theorem map_goal?_eq (s : Scene) (links : List Link) :
    links.map s.goal? =
      (links.map (·.target)).map fun channel => channel.plug?.bind s.canonical? := by
  rw [List.map_map]
  rfl

/-- Links of which no two are aimed at one plug. -/
def Apart (s : Scene) (links : List Link) : Prop :=
  links.Pairwise fun first second => ∀ key, s.goal? first = some key → s.goal? second ≠ some key

theorem apart_of_map_goal? {s : Scene} {links : List Link} (keys : List String)
    (aimed : links.map s.goal? = keys.map some) (distinct : keys.Nodup) : s.Apart links := by
  have goals : (links.map s.goal?).Nodup := by
    rw [aimed]
    exact distinct.map fun _ _ => Option.some.inj
  refine (List.pairwise_map.mp goals).imp ?_
  intro first second different key aimedFirst aimedSecond
  exact different (aimedFirst.trans aimedSecond.symm)

/-- One link changes nothing but its target, which is fed with what its source carries. -/
theorem makes_stores {force : Bool} {link : Link} {s after : Scene}
    (made : link.Makes force s after) :
    after.nodes = s.nodes ∧ ∃ key, s.goal? link = some key ∧
      (∀ plug, plug ≠ key → SameAt s after plug) ∧
      ∀ driver, s.Carries link.source driver → Fed s after key driver := by
  cases made with
  | @set target value expression _ _ done =>
    obtain ⟨node, place, there, _, rfl⟩ := set_eq_ok done
    refine ⟨rfl, Plug.join node place.path, ?_, ?_, ?_⟩
    · show s.canonical? target = _
      rw [canonical?, there]
      rfl
    · intro plug other
      exact ⟨Table.find?_insert_other _ other _, rfl⟩
    · intro driver carries
      cases driver with
      | plug source => cases carries
      | literal given =>
        obtain rfl := carries
        exact ⟨Table.find?_insert_self _ _ _, rfl⟩
  | @connect target source _ _ done =>
    obtain ⟨_, _, node, place, thereSource, there, _⟩ := connect_eq_ok done
    obtain ⟨nodes, connected, elsewhere⟩ := connect_stores done thereSource there
    refine ⟨nodes, Plug.join node place.path, ?_, elsewhere, ?_⟩
    · show s.canonical? target = _
      rw [canonical?, there]
      rfl
    · intro driver carries
      rw [carries.eq_plug thereSource]
      exact connected

/-- Links made in order change nothing but their targets, and each target is fed with what its own
source carries. -/
theorem makesAll_stores {force : Bool} {links : List Link} {s after : Scene}
    (made : Link.MakesAll force links s after) (apart : s.Apart links) :
    after.nodes = s.nodes ∧
      (∀ plug, (∀ link ∈ links, s.goal? link ≠ some plug) → SameAt s after plug) ∧
      ∀ link ∈ links, ∃ key, s.goal? link = some key ∧
        ∀ driver, s.Carries link.source driver → Fed s after key driver := by
  induction made with
  | nil s => exact ⟨rfl, fun _ _ => ⟨rfl, rfl⟩, by simp⟩
  | @cons link rest s between after first others inductionHypothesis =>
    obtain ⟨nodes, key, aimed, elsewhere, fed⟩ := makes_stores first
    obtain ⟨apartFirst, apartRest⟩ := List.pairwise_cons.mp apart
    have goals : between.goal? = s.goal? := funext (goal?_of_nodes nodes)
    rw [Apart, goals] at inductionHypothesis
    obtain ⟨nodesRest, elsewhereRest, fedRest⟩ := inductionHypothesis apartRest
    refine ⟨nodesRest.trans nodes, ?_, ?_⟩
    · intro plug missed
      obtain ⟨missedFirst, missedRest⟩ := List.forall_mem_cons.mp missed
      have other : plug ≠ key := fun equal => missedFirst (equal ▸ aimed)
      exact (elsewhere plug other).trans (elsewhereRest plug missedRest)
    · intro later member
      rcases List.mem_cons.mp member with rfl | inRest
      · refine ⟨key, aimed, fun driver carries => ?_⟩
        exact (fed driver carries).of_sameAt
          (elsewhereRest key fun later member => apartFirst later member key aimed)
      · obtain ⟨other, aimedOther, fedLater⟩ := fedRest later inRest
        refine ⟨other, aimedOther, fun driver carries => ?_⟩
        have distinct : other ≠ key := fun equal =>
          apartFirst later inRest key aimed (equal ▸ aimedOther)
        have grows : Grows s between := .of_nodes nodes
        exact (fedLater driver (grows.carries carries)).from_sameAt (elsewhere other distinct)

/-- A target that is no other spelling of a plug is what its link is aimed at. -/
theorem target_of_goal? {s : Scene} {link : Link} {key : String}
    (canonical : ∀ text, link.target = .plug text → s.IsCanonical text)
    (aimed : s.goal? link = some key) :
    link.target = .plug key ∧ ∃ found, s.place? key = some found := by
  obtain ⟨text, node, place, isPlug, there, joined⟩ := goal?_eq_some aimed
  obtain rfl := (canonical text isPlug node place there).symm.trans joined
  exact ⟨isPlug, _, there⟩

/-- Different targets, none of them another spelling of a plug, are different plugs. -/
theorem apart_of_canonical {s : Scene} {links : List Link}
    (canonical : ∀ link ∈ links, ∀ text, link.target = .plug text → s.IsCanonical text)
    (distinct : (links.map (·.target)).Nodup) : s.Apart links := by
  refine (List.pairwise_map.mp distinct).imp_of_mem ?_
  intro first second inFirst inSecond different key aimed aimedSecond
  exact different ((target_of_goal? (canonical first inFirst) aimed).1.trans
    (target_of_goal? (canonical second inSecond) aimedSecond).1.symm)

/-- Links made in order to different targets, none of them another spelling of a plug. -/
theorem makesAll_fed {force : Bool} {links : List Link} {s after : Scene}
    (made : Link.MakesAll force links s after)
    (canonical : ∀ link ∈ links, ∀ text, link.target = .plug text → s.IsCanonical text)
    (distinct : (links.map (·.target)).Nodup) :
    after.nodes = s.nodes ∧
      (∀ plug, .plug plug ∉ links.map (·.target) → SameAt s after plug) ∧
      ∀ link ∈ links, ∃ text found, link.target = .plug text ∧ s.place? text = some found ∧
        ∀ driver, s.Carries link.source driver → Fed s after text driver := by
  obtain ⟨nodes, elsewhere, fed⟩ := makesAll_stores made (apart_of_canonical canonical distinct)
  refine ⟨nodes, ?_, ?_⟩
  · intro plug absent
    refine elsewhere plug fun link member aimed => absent ?_
    rw [← (target_of_goal? (canonical link member) aimed).1]
    exact List.mem_map_of_mem member
  · intro link member
    obtain ⟨key, aimed, fedLink⟩ := fed link member
    obtain ⟨isPlug, found, there⟩ := target_of_goal? (canonical link member) aimed
    exact ⟨key, found, isPlug, there, fedLink⟩

/-! ### Links that collapse -/

theorem strand?_eq_some {s : Scene} {channel : Channel} {strand : Strand}
    (known : s.strand? channel = some strand) :
    ∃ text a c, channel = .plug text ∧ s.place? text = some (strand.node, .child a c) ∧
      strand.parent = a.long ∧ strand.long = c.long := by
  simp only [strand?, Option.bind_eq_bind, Option.bind_eq_some_iff, Option.pure_def,
    Option.some.injEq] at known
  obtain ⟨text, isPlug, ⟨node, attr⟩, split, parent, isParent, long, isLong, rfl⟩ := known
  obtain ⟨place, located, isParent⟩ := Option.bind_eq_some_iff.mp isParent
  obtain ⟨a, c, rfl⟩ : ∃ a c, place = .child a c := by
    cases place with
    | child a c => exact ⟨a, c, rfl⟩
    | _ => cases isParent
  rw [longName?, located] at isLong
  refine ⟨text, a, c, ?_, ?_, (Option.some.inj isParent).symm, (Option.some.inj isLong).symm⟩
  · cases channel with
    | plug other => exact congrArg Channel.plug (Option.some.inj isPlug)
    | literal value expression => cases isPlug
  · rw [place?, split]
    dsimp only
    rw [located]
    rfl

/-- Children of one node whose parents share a name are children of one compound. -/
theorem WellFormed.child_eq {s : Scene} (wf : s.WellFormed) {text other node : String}
    {a b : Attribute} {c d : Attribute.Child} (there : s.place? text = some (node, .child a c))
    (thereOther : s.place? other = some (node, .child b d)) (same : b.long = a.long) :
    b = a ∧ ∀ e ∈ a.children, d.long = e.long → d = e := by
  obtain ⟨_, n, _, found, located⟩ := (s.place?_eq_some_iff _ _ _).mp there
  obtain ⟨_, m, _, foundOther, locatedOther⟩ := (s.place?_eq_some_iff _ _ _).mp thereOther
  obtain rfl := Option.some.inj (foundOther.symm.trans found)
  have sound := wf.layouts m (mem_of_node? found).1
  obtain ⟨member, _, _⟩ := Layout.on_of_find? located
  obtain ⟨memberOther, _, insideOther⟩ := Layout.on_of_find? locatedOther
  have named := Attribute.mem_names_of_own a.long_mem_ownNames
  have namedOther := Attribute.mem_names_of_own b.long_mem_ownNames
  obtain rfl := sound.eq_of_shared_name memberOther member (same ▸ namedOther) named
  refine ⟨rfl, fun e inside alike => ?_⟩
  exact sound.child_eq_of_shared_name member insideOther inside
    (alike ▸ d.long_mem_names) e.long_mem_names

/-- A compound lists its children under its long name. -/
theorem WellFormed.children?_long {s : Scene} (wf : s.WellFormed) {node : String} {n : Node}
    {a : Attribute} (found : s.node? node = some n) (member : a ∈ n.layout)
    (compound : a.isCompound = true) : s.children? node a.long = some a.childNames := by
  have on : (Place.whole a).On n.layout := member
  have located := (wf.layouts n (mem_of_node? found).1).find?_path on
  rw [Place.path] at located
  rw [children?, locate?_eq, found, Option.bind_some, located, Option.bind_some,
    Place.children?, if_pos compound]

/-- The parent of a child is found under its long name, with its children. -/
theorem WellFormed.place?_parent {s : Scene} (wf : s.WellFormed) {text node : String}
    {a : Attribute} {c : Attribute.Child} (there : s.place? text = some (node, .child a c)) :
    s.place? (Plug.join node a.long) = some (node, .whole a) ∧
      s.children? node a.long = some a.childNames ∧ a.isCompound = true := by
  obtain ⟨_, n, _, found, located⟩ := (s.place?_eq_some_iff _ _ _).mp there
  obtain ⟨member, _, inside⟩ := Layout.on_of_find? located
  have on : (Place.whole a).On n.layout := member
  have designated := wf.place?_path found on
  have compound := Attribute.isCompound_of_mem inside
  exact ⟨designated, wf.children?_long found member compound, compound⟩

/-- Channels that are children of one compound, by the long names of some of its children, are these
children. -/
theorem WellFormed.strands_children {s : Scene} (wf : s.WellFormed) {text node : String}
    {a : Attribute} {c : Attribute.Child} (there : s.place? text = some (node, .child a c))
    {channels : List Channel} {strands : List Strand}
    (related : List.Forall₂ (fun channel strand => s.strand? channel = some strand) channels strands)
    (together : ∀ strand ∈ strands, strand.node = node ∧ strand.parent = a.long)
    {children : List Attribute.Child} (inside : ∀ d ∈ children, d ∈ a.children)
    (listed : strands.map (·.long) = children.map (·.long)) :
    List.Forall₂ (fun channel d => ∃ text, channel = .plug text ∧
      s.place? text = some (node, .child a d)) channels children := by
  induction related generalizing children with
  | nil =>
    rw [List.map_nil, eq_comm, List.map_eq_nil_iff] at listed
    rw [listed]
    exact .nil
  | @cons channel strand _ _ known _ inductionHypothesis =>
    cases children with
    | nil => cases listed
    | cons d others =>
      obtain ⟨sameLong, listedRest⟩ := List.cons.inj listed
      obtain ⟨here, togetherRest⟩ := List.forall_mem_cons.mp together
      obtain ⟨insideFirst, insideRest⟩ := List.forall_mem_cons.mp inside
      obtain ⟨other, b, e, isPlug, thereOther, parent, long⟩ := strand?_eq_some known
      rw [here.1] at thereOther
      obtain ⟨rfl, unique⟩ := wf.child_eq there thereOther (parent.symm.trans here.2)
      obtain rfl := unique d insideFirst (long.symm.trans sameLong)
      exact .cons ⟨other, isPlug, thereOther⟩
        (inductionHypothesis togetherRest insideRest listedRest)

/-- The place of a compound, and of each of its children in order, if channels collapse into it. -/
theorem WellFormed.collapse?_children {s : Scene} (wf : s.WellFormed) {channels : List Channel}
    {plug : String} (collapsed : s.collapse? channels = some plug) :
    ∃ node a, plug = Plug.join node a.long ∧ s.place? plug = some (node, .whole a) ∧
      a.isCompound = true ∧
      List.Forall₂ (fun channel c => ∃ text, channel = .plug text ∧
        s.place? text = some (node, .child a c)) channels a.children := by
  obtain ⟨first, rest, related, together, listed, rfl⟩ := collapse?_eq_some collapsed
  cases related with
  | @cons channel _ others _ known knownRest =>
    obtain ⟨text, a, c, rfl, there, parent, long⟩ := strand?_eq_some known
    obtain ⟨designated, children, compound⟩ := wf.place?_parent there
    rw [parent, children] at listed
    rw [parent]
    refine ⟨first.node, a, rfl, designated, compound, ?_⟩
    refine wf.strands_children there (.cons known knownRest) ?_ (fun _ => id)
      (Option.some.inj listed).symm
    refine List.forall_mem_cons.mpr ⟨⟨rfl, parent⟩, ?_⟩
    intro strand member
    exact ⟨(together strand member).1, (together strand member).2.trans parent⟩

end Scene

end FormulaNet
