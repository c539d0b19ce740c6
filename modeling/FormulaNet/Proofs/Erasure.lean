/-
This file forgets the expressions of values. Operands that are the same but for
expressions fall into channels that are the same but for expressions, ask for
nodes of the same name, and are as wide. Two sessions are alike if they have one
host and collect alike; they may log and print differently. From alike sessions,
a program that is given operands alike makes the same calls, is refused for the
same kind of reason, and gives results alike: neither a log nor an expression is
ever asked for a decision.
-/

import FormulaNet.Proofs.Actions
import FormulaNet.Proofs.Parallel
import FormulaNet.Scope.Container
import FormulaNet.Scope.Tracer

namespace FormulaNet

/-! ### Forgetting expressions -/

/-- A value without its expression. -/
def Value.erased (v : Value) : Value := { v with expression := "" }

/-- A channel without its expression, but still with the mark that it had one. -/
def Channel.erased : Channel → Channel
  | literal v expression => literal v (expression.map fun _ => "")
  | plug text => plug text

namespace Operand

mutual

/-- An operand without the expressions of its values. -/
def erased : Operand → Operand
  | number v => number v
  | value v => value v.erased
  | path plug => path plug
  | node name attrs => node name attrs
  | literal payload => literal payload.erased
  | list items => list (erasedAll items)

/-- Operands without the expressions of their values. -/
def erasedAll : List Operand → List Operand
  | [] => []
  | item :: rest => item.erased :: erasedAll rest

end

theorem erasedAll_eq (items : List Operand) : erasedAll items = items.map erased := by
  induction items with
  | nil => rfl
  | cons item rest inductionHypothesis => rw [erasedAll, inductionHypothesis, List.map_cons]

/-- The token of an operand does not depend on expressions. -/
theorem token_erased : (operand : Operand) → operand.erased.token = operand.token
  | number _ => rfl
  | value _ => rfl
  | path _ => rfl
  | node _ _ => rfl
  | literal payload => token_erased payload
  | list [] => rfl
  | list [item] => token_erased item
  | list (_ :: _ :: _) => rfl

end Operand

/-- A reference without the expressions of its values. -/
def Reference.erased : Reference → Reference
  | literal payload => literal payload.erased
  | node name attrs => node name attrs

theorem Value.channels_erased (v : Value) : v.erased.channels = v.channels.map Channel.erased := by
  unfold channels erased
  cases v.payload.scalar? with
  | some x => rfl
  | none =>
    rw [List.map_map]
    rfl

namespace Scene

@[simp] theorem map_erased_plugChannels (s : Scene) (plug : String) :
    (s.plugChannels plug).map Channel.erased = s.plugChannels plug := by
  have plain : ∀ channel ∈ s.plugChannels plug, channel.erased = channel := by
    intro channel member
    obtain ⟨text, rfl⟩ := plugChannels_isPlug member
    rfl
  simpa using List.map_congr_left plain

mutual

/-- Forgetting expressions before taking an operand apart is forgetting them afterwards. -/
theorem unravel_erased (s : Scene) (operand : Operand) :
    s.unravel operand.erased = (s.unravel operand).map (List.map Channel.erased) := by
  cases operand with
  | number v => rfl
  | value v => exact congrArg Except.ok v.channels_erased
  | path plug =>
    unfold Operand.erased unravel
    split <;> simp [Except.map]
  | node name attrs =>
    unfold Operand.erased unravel attrsChannels
    cases attrs.plugs? name <;> simp [Except.map, List.map_flatMap]
  | literal payload => exact unravel_erased s payload
  | list items => exact unravelAll_erased s items

theorem unravelAll_erased (s : Scene) (items : List Operand) :
    s.unravelAll (Operand.erasedAll items) =
      (s.unravelAll items).map (List.map Channel.erased) := by
  cases items with
  | nil => rfl
  | cons item rest =>
    rw [Operand.erasedAll, unravelAll, unravelAll, unravel_erased s item,
      unravelAll_erased s rest]
    cases s.unravel item with
    | error e => rfl
    | ok channels => cases s.unravelAll rest <;> simp [Except.map]

end

theorem unravelEach_erased (s : Scene) (operands : List Operand) :
    s.unravelEach (operands.map Operand.erased) =
      (s.unravelEach operands).map (List.map (List.map Channel.erased)) := by
  induction operands with
  | nil => rfl
  | cons operand rest inductionHypothesis =>
    rw [List.map_cons, unravelEach, unravelEach, unravel_erased, inductionHypothesis]
    cases s.unravel operand with
    | error e => rfl
    | ok channels => cases s.unravelEach rest <;> simp [Except.map]

end Scene

/-- Collecting values does not depend on their expressions. -/
theorem Value.collect_erased (values : List Value) :
    (collect (values.map erased)).erased = (collect values).erased := by
  match values with
  | [] => rfl
  | [_] => rfl
  | v :: w :: rest => simp [collect, erased, List.flatMap_map]

theorem forall₂_of_map_eq {α β : Type} {f : α → β} {list others : List α}
    (alike : list.map f = others.map f) : List.Forall₂ (fun a b => f a = f b) list others := by
  have related : List.Forall₂ Eq (list.map f) (others.map f) := by
    rw [alike]
    exact List.forall₂_same.mpr fun _ _ => rfl
  rwa [List.forall₂_map_left_iff, List.forall₂_map_right_iff] at related

/-! ### Sessions alike -/

/-- Sessions with one host that collect alike. -/
structure Session.Alike (s t : Session) : Prop where
  host : s.host = t.host
  scopes : s.recorder.scopes = t.recorder.scopes
  collected : s.recorder.collected = t.recorder.collected

theorem Session.Alike.scene {s t : Session} (alike : s.Alike t) : s.scene = t.scene :=
  congrArg Host.scene alike.host

namespace Program

theorem alike_scene : Parallel Session.Alike Eq scene scene :=
  .scene fun _ _ sessions => sessions.scene

theorem alike_look {α β : Type} {Q : α → β → Prop} {answer : Scene → Except Error α}
    {answerOther : Scene → Except Error β} (agree : ∀ s, Agree Q (answer s) (answerOther s)) :
    Parallel Session.Alike Q (look answer) (look answerOther) := by
  refine .look fun s t sessions => ?_
  rw [sessions.scene]
  exact agree t.scene

theorem alike_call {α : Type} (c : Call) (report : α → Outcome)
    (change : Scene → Except SceneError (α × Scene)) :
    Parallel Session.Alike Eq (call c report change) (call c report change) := by
  intro s t ⟨host, scopes, collected⟩
  rw [Abreast, exec_call, exec_call, host]
  exact ⟨.refl Error.SameKind.refl _, rfl, scopes, collected⟩

theorem alike_change (c : Call) (edit : Scene → Except SceneError Scene) :
    Parallel Session.Alike Eq (change c edit) (change c edit) :=
  alike_call c _ _

theorem alike_editRecorder {edit editOther : Recorder → Recorder}
    (edits : ∀ r t : Recorder, r.scopes = t.scopes → r.collected = t.collected →
      (edit r).scopes = (editOther t).scopes ∧ (edit r).collected = (editOther t).collected) :
    Parallel Session.Alike Eq (editRecorder edit) (editRecorder editOther) := by
  refine .modify ?_
  intro s t ⟨host, scopes, collected⟩
  obtain ⟨scopesAfter, collectedAfter⟩ := edits _ _ scopes collected
  exact ⟨host, scopesAfter, collectedAfter⟩

theorem alike_record (event other : Trace.Event) :
    Parallel Session.Alike Eq (record event) (record other) := by
  refine alike_editRecorder fun r t scopes collected => ?_
  simp [scopes, collected]

theorem alike_collect (node : String) :
    Parallel Session.Alike Eq (editRecorder (·.collect node)) (editRecorder (·.collect node)) := by
  refine alike_editRecorder fun r t scopes collected => ?_
  unfold Recorder.collect
  rw [scopes]
  split <;> simp [scopes, collected]

theorem alike_warn (warning other : Warning) :
    Parallel Session.Alike Eq (warn warning) (warn other) :=
  .modify fun _ _ ⟨host, scopes, collected⟩ => ⟨host, scopes, collected⟩

/-! ### Calls -/

theorem alike_create (type name : String) :
    Parallel Session.Alike Eq (create type name) (create type name) := by
  refine .bind .get fun s t sessions => ?_
  rw [sessions.host]
  refine .bind (alike_call _ _ _) ?_
  rintro node _ rfl
  exact .bind (alike_collect node) fun _ _ _ =>
    .bind (alike_record _ _) fun _ _ _ => .pure rfl

theorem alike_setPlug (plug : String) (value : Float) (text other : String) :
    Parallel Session.Alike Eq (setPlug plug value text) (setPlug plug value other) :=
  .bind (alike_change _ _) fun _ _ _ => alike_record _ _

theorem alike_connect (source dest : String) (force : Bool) :
    Parallel Session.Alike Eq (connect source dest force) (connect source dest force) :=
  .bind (alike_change _ _) fun _ _ _ => alike_record _ _

theorem alike_addAttribute (node name : String) (spec : AttributeSpec) :
    Parallel Session.Alike Eq (addAttribute node name spec) (addAttribute node name spec) :=
  .bind (alike_change _ _) fun _ _ _ => alike_record _ _

/-- Values that are the same but for their expressions. -/
def AlikeValues (v w : Value) : Prop := v.erased = w.erased

theorem alikeValues_iff (v w : Value) :
    AlikeValues v w ↔ v.payload = w.payload ∧ v.authored = w.authored := by
  simp [AlikeValues, Value.erased]

/-- A read gives one payload, under whatever label. -/
theorem alike_readPlug (plug : String) :
    Parallel Session.Alike AlikeValues (readPlug plug) (readPlug plug) := by
  refine .bind alike_scene ?_
  rintro scene _ rfl
  split
  · refine .bind (alike_call _ _ _) ?_
    rintro payload _ rfl
    exact .bind .get fun s t _ => .bind (alike_record _ _) fun _ _ _ => .pure rfl
  · exact .throw rfl

/-! ### Wiring -/

/-- Channels that are the same but for their expressions. -/
def AlikeChannels (channel other : Channel) : Prop := channel.erased = other.erased

theorem alikeChannels_cases {channel other : Channel} (alike : AlikeChannels channel other) :
    (∃ v expression expressionOther, channel = .literal v expression ∧
      other = .literal v expressionOther ∧ expression.isSome = expressionOther.isSome) ∨
      ∃ text, channel = .plug text ∧ other = .plug text := by
  unfold AlikeChannels at alike
  match channel, other with
  | .literal v expression, .literal w expressionOther =>
    simp only [Channel.erased, Channel.literal.injEq] at alike
    obtain ⟨rfl, marks⟩ := alike
    refine Or.inl ⟨v, expression, expressionOther, rfl, rfl, ?_⟩
    simpa using congrArg Option.isSome marks
  | .plug text, .plug other =>
    cases alike
    exact Or.inr ⟨text, rfl, rfl⟩

theorem alike_wireLink (force : Bool) {link other : Link}
    (matched : Link.Matches AlikeChannels link other) :
    Parallel Session.Alike Eq (wireLink force link) (wireLink force other) := by
  obtain ⟨target, source⟩ := link
  obtain ⟨targetOther, sourceOther⟩ := other
  obtain ⟨targets, sources⟩ := matched
  refine .bind alike_scene ?_
  rintro scene _ rfl
  rcases alikeChannels_cases targets with ⟨v, _, _, rfl, rfl, _⟩ | ⟨plug, rfl, rfl⟩
  · exact .throw rfl
  · rcases alikeChannels_cases sources with ⟨v, _, _, rfl, rfl, _⟩ | ⟨origin, rfl, rfl⟩
    · dsimp only
      split
      -- The expression goes into the trace only.
      · exact alike_setPlug _ _ _ _
      · exact .throw rfl
    · dsimp only
      split
      · split
        · exact alike_connect _ _ _
        · exact .throw rfl
      · exact .throw rfl

theorem alike_wire (o : Options) {targets targetsOther sources sourcesOther : List Channel}
    (alikeTargets : targets.map Channel.erased = targetsOther.map Channel.erased)
    (alikeSources : sources.map Channel.erased = sourcesOther.map Channel.erased) :
    Parallel Session.Alike Eq (wire o targets sources) (wire o targetsOther sourcesOther) := by
  refine .wire (C := AlikeChannels) Error.SameKind.refl (fun _ _ sessions => sessions.scene)
    (fun _ => rfl) ?_ (fun _ _ => alike_wireLink o.force) (forall₂_of_map_eq alikeTargets)
    (forall₂_of_map_eq alikeSources)
  intro s t _ channel other alike
  rcases alikeChannels_cases alike with ⟨_, _, _, rfl, rfl, _⟩ | ⟨_, rfl, rfl⟩ <;> rfl

/-- Operands that are the same but for expressions. -/
def AlikeOperands (operand other : Operand) : Prop := operand.erased = other.erased

theorem alike_unravel {operand other : Operand} (alike : AlikeOperands operand other) :
    Parallel Session.Alike
      (fun channels others => channels.map Channel.erased = others.map Channel.erased)
      (unravel operand) (unravel other) := by
  refine alike_look fun s => .of_map_eq ?_
  rw [← s.unravel_erased, ← s.unravel_erased, alike]

theorem asTarget_erased (operand : Operand) :
    (asTarget operand).erased = asTarget operand.erased := by
  cases operand with
  | path plug =>
    unfold asTarget Reference.parse
    dsimp only [Operand.erased]
    split <;> rfl
  | _ => rfl

theorem alike_setOrConnect (o : Options) {target targetOther source sourceOther : Operand}
    (alikeTarget : AlikeOperands target targetOther)
    (alikeSource : AlikeOperands source sourceOther) :
    Parallel Session.Alike Eq (setOrConnect o target source)
      (setOrConnect o targetOther sourceOther) := by
  have alikeTargets : AlikeOperands (asTarget target) (asTarget targetOther) := by
    unfold AlikeOperands
    rw [asTarget_erased, asTarget_erased, alikeTarget]
  exact .bind (alike_unravel alikeTargets) fun _ _ targets =>
    .bind (alike_unravel alikeSource) fun _ _ sources => alike_wire o targets sources

/-! ### Operations -/

/-- Feeds of one group with operands alike. -/
structure AlikeFeeds (f g : Feed) : Prop where
  operand : f.operand.erased = g.operand.erased
  channels : f.channels.map Channel.erased = g.channels.map Channel.erased
  group : f.group = g.group

theorem alike_feeds {operands operandsOther : List Operand}
    {channels channelsOther : List (List Channel)} (groups : List (List String))
    (alikeOperands : List.Forall₂ AlikeOperands operands operandsOther)
    (alikeChannels : List.Forall₂
      (fun cs ds => cs.map Channel.erased = ds.map Channel.erased) channels channelsOther) :
    List.Forall₂ AlikeFeeds (feeds operands channels groups)
      (feeds operandsOther channelsOther groups) := by
  unfold feeds
  induction alikeOperands generalizing channels channelsOther groups with
  | nil => simp
  | cons operand _ inductionHypothesis =>
    cases alikeChannels with
    | nil => simp
    | cons cs others =>
      cases groups with
      | nil => simp
      | cons group rest => exact .cons ⟨operand, cs, rfl⟩ (inductionHypothesis rest others)

theorem alike_slotsFor (op : Operation) (width : Nat) {f g : Feed} (alike : AlikeFeeds f g) :
    Agree Eq (op.slotsFor width f.operand f.channels f.group)
      (op.slotsFor width g.operand g.channels g.group) := by
  have lengths : f.channels.length = g.channels.length := by
    simpa using congrArg List.length alike.channels
  unfold Operation.slotsFor
  rw [alike.group, lengths]
  split
  · split
    · exact .error rfl
    · exact .ok rfl
  · split
    · exact .error rfl
    · exact .ok rfl

theorem alike_feed (o : Options) (op : Operation) (node : String) (width : Nat) {f g : Feed}
    (alike : AlikeFeeds f g) :
    Parallel Session.Alike Eq (feed o op node width f) (feed o op node width g) := by
  have slots := alike_slotsFor op width alike
  unfold feed
  cases first : op.slotsFor width f.operand f.channels f.group <;>
    cases second : op.slotsFor width g.operand g.channels g.group <;>
    rw [first, second] at slots <;> cases slots
  · exact .throw (by assumption)
  · rename_i same
    cases same
    exact alike_wire o rfl alike.channels

theorem alike_feedAll (o : Options) (op : Operation) (node : String) (width : Nat)
    {all others : List Feed} (alike : List.Forall₂ AlikeFeeds all others) :
    Parallel Session.Alike Eq (feedAll o op node width all) (feedAll o op node width others) := by
  induction alike with
  | nil => exact .pure rfl
  | cons head _ inductionHypothesis =>
    exact .bind (alike_feed o op node width head) fun _ _ _ => inductionHypothesis

theorem alike_setMode (o : Options) (node : String) (mode : Option Int) :
    Parallel Session.Alike Eq (setMode o node mode) (setMode o node mode) := by
  cases mode with
  | none => exact .pure rfl
  | some mode => exact alike_wire o rfl rfl

theorem widest_eq {channels others : List (List Channel)}
    (alike : channels.map (List.map Channel.erased) = others.map (List.map Channel.erased)) :
    widest channels = widest others := by
  have erased : ∀ cs, widest (cs.map (List.map Channel.erased)) = widest cs := by
    intro cs
    simp [widest, List.foldr_map]
  rw [← erased channels, alike, erased]

theorem nodeName_eq (o : Options) (op : Operation) {operands others : List Operand}
    (alike : operands.map Operand.erased = others.map Operand.erased) :
    op.nodeName o operands = op.nodeName o others := by
  have tokens : ∀ list : List Operand,
      list.map Operand.token = (list.map Operand.erased).map Operand.token := by
    intro list
    rw [List.map_map]
    exact List.map_congr_left fun operand _ => operand.token_erased.symm
  unfold Operation.nodeName
  rw [tokens operands, alike, ← tokens]

theorem alike_build (o : Options) (op : Operation) {operands operandsOther : List Operand}
    {channels channelsOther : List (List Channel)}
    (alikeOperands : operands.map Operand.erased = operandsOther.map Operand.erased)
    (alikeChannels : channels.map (List.map Channel.erased) =
      channelsOther.map (List.map Channel.erased)) :
    Parallel Session.Alike Eq (build o op operands channels)
      (build o op operandsOther channelsOther) := by
  have lengths : operands.length = operandsOther.length := by
    simpa using congrArg List.length alikeOperands
  unfold build
  rw [widest_eq alikeChannels, nodeName_eq o op alikeOperands, lengths]
  refine .bind (alike_create _ _) ?_
  rintro node _ rfl
  have fed := alike_feeds (op.slotGroups operandsOther.length) (forall₂_of_map_eq alikeOperands)
    (forall₂_of_map_eq alikeChannels)
  exact .bind (alike_setMode o node op.mode) fun _ _ _ =>
    .bind (alike_feedAll o op node _ fed) fun _ _ _ => .pure rfl

theorem alike_apply (o : Options) (name : String) {operands others : List Operand}
    (alike : operands.map Operand.erased = others.map Operand.erased) :
    Parallel Session.Alike Eq (apply o name operands) (apply o name others) := by
  have lengths : operands.length = others.length := by
    simpa using congrArg List.length alike
  unfold apply
  split
  · exact .throw rfl
  · rename_i op _
    rw [lengths]
    split
    · refine .bind (alike_look fun s => .of_map_eq (f := List.map (List.map Channel.erased)) ?_)
        fun _ _ channels => alike_build o op alike channels
      rw [← s.unravelEach_erased, ← s.unravelEach_erased, alike]
    · exact .throw rfl

/-! ### Tests and attributes -/

/-- References that are the same but for expressions. -/
def AlikeReferences (r t : Reference) : Prop := r.erased = t.erased

theorem alikeReferences_cases {r t : Reference} (alike : AlikeReferences r t) :
    (∃ name attrs, r = .node name attrs ∧ t = .node name attrs) ∨
      ∃ payload other, r = .literal payload ∧ t = .literal other ∧ AlikeOperands payload other := by
  unfold AlikeReferences at alike
  match r, t with
  | .node name attrs, .node _ _ =>
    cases alike
    exact Or.inl ⟨name, attrs, rfl, rfl⟩
  | .literal payload, .literal other =>
    exact Or.inr ⟨payload, other, rfl, rfl, Reference.literal.inj alike⟩

theorem alike_test (s : Scene) {r t : Reference} (alike : AlikeReferences r t) :
    Agree Eq (s.test r) (s.test t) := by
  unfold Scene.test
  rcases alikeReferences_cases alike with ⟨name, attrs, rfl, rfl⟩ | ⟨_, _, rfl, rfl, _⟩
  · dsimp only [Reference.target?]
    split
    · exact .error rfl
    · split
      · exact .error rfl
      · exact .ok rfl
  · exact .error rfl

theorem alike_condition (o : Options) {test testOther : Reference}
    {ifTrue ifTrueOther ifFalse ifFalseOther : Operand} (alikeTest : AlikeReferences test testOther)
    (alikeTrue : AlikeOperands ifTrue ifTrueOther)
    (alikeFalse : AlikeOperands ifFalse ifFalseOther) :
    Parallel Session.Alike Eq (condition o test ifTrue ifFalse)
      (condition o testOther ifTrueOther ifFalseOther) := by
  refine .bind (alike_look fun s => alike_test s alikeTest) ?_
  rintro ⟨node, branches⟩ _ rfl
  refine .bind (alike_unravel alikeTrue) fun trueChannels _ alikeWidth => ?_
  refine .bind (alike_unravel alikeFalse) fun falseChannels _ alikeWidthFalse => ?_
  have widthTrue := congrArg List.length alikeWidth
  have widthFalse := congrArg List.length alikeWidthFalse
  rw [List.length_map, List.length_map] at widthTrue widthFalse
  rw [widthTrue, widthFalse]
  unfold bindBranches
  split
  · exact .throw rfl
  · exact .bind (alike_setOrConnect o rfl alikeTrue) fun _ _ _ =>
      .bind (alike_setOrConnect o rfl alikeFalse) fun _ _ _ => .pure rfl

theorem alike_addUserAttribute (o : Options) (node name : String) (spec : AttributeSpec) :
    Parallel Session.Alike Eq (addUserAttribute o node name spec)
      (addUserAttribute o node name spec) := by
  refine .bind alike_scene ?_
  rintro scene _ rfl
  split
  · exact .bind (alike_warn _ _) fun _ _ _ => .pure rfl
  · refine .bind (alike_addAttribute _ _ _) fun _ _ _ => ?_
    dsimp only
    split
    · exact .pure rfl
    · exact .bind (alike_setOrConnect o rfl rfl) fun _ _ _ => .pure rfl

theorem alike_owner {r t : Reference} (alike : AlikeReferences r t) :
    Parallel Session.Alike Eq (owner r) (owner t) := by
  rcases alikeReferences_cases alike with ⟨name, attrs, rfl, rfl⟩ | ⟨_, _, rfl, rfl, _⟩
  · exact .pure rfl
  · exact .throw rfl

theorem alike_addAttributeTo (o : Options) {r t : Reference} (alike : AlikeReferences r t)
    (name : String) (spec : AttributeSpec) :
    Parallel Session.Alike Eq (addAttributeTo o r name spec) (addAttributeTo o t name spec) := by
  refine .bind (alike_owner alike) ?_
  rintro node _ rfl
  exact alike_addUserAttribute o node name spec

theorem alike_addSeparator (o : Options) {r t : Reference} (alike : AlikeReferences r t) :
    Parallel Session.Alike Eq (addSeparator o r) (addSeparator o t) := by
  refine .bind (alike_owner alike) ?_
  rintro node _ rfl
  refine .bind alike_scene ?_
  rintro scene _ rfl
  exact alike_addUserAttribute o node _ separatorSpec

/-! ### Reading -/

/-- Values that are the same, one by one, but for their expressions. -/
def AlikeLists (values others : List Value) : Prop :=
  values.map Value.erased = others.map Value.erased

theorem alikeValues_collect {values others : List Value} (alike : AlikeLists values others) :
    AlikeValues (Value.collect values) (Value.collect others) := by
  unfold AlikeValues
  rw [← Value.collect_erased, alike, Value.collect_erased]

theorem alikeLists_cons {v w : Value} {values others : List Value} (head : AlikeValues v w)
    (tail : AlikeLists values others) : AlikeLists (v :: values) (w :: others) := by
  unfold AlikeLists at *
  rw [List.map_cons, List.map_cons, head, tail]

theorem alike_readPlugs (plugs : List String) :
    Parallel Session.Alike AlikeLists (readPlugs plugs) (readPlugs plugs) := by
  induction plugs with
  | nil => exact .pure rfl
  | cons plug rest inductionHypothesis =>
    exact .bind (alike_readPlug plug) fun _ _ head =>
      .bind inductionHypothesis fun _ _ tail => .pure (alikeLists_cons head tail)

theorem alike_readChannel {channel other : Channel} (alike : AlikeChannels channel other) :
    Parallel Session.Alike AlikeValues (readChannel channel) (readChannel other) := by
  rcases alikeChannels_cases alike with ⟨v, first, second, rfl, rfl, marks⟩ | ⟨text, rfl, rfl⟩
  · match first, second with
    | none, none => exact .pure rfl
    | some _, some _ => exact .pure rfl
  · exact alike_readPlug text

theorem alike_readChannels {channels others : List Channel}
    (alike : List.Forall₂ AlikeChannels channels others) :
    Parallel Session.Alike AlikeLists (readChannels channels) (readChannels others) := by
  induction alike with
  | nil => exact .pure rfl
  | cons head _ inductionHypothesis =>
    exact .bind (alike_readChannel head) fun _ _ first =>
      .bind inductionHypothesis fun _ _ tail => .pure (alikeLists_cons first tail)

theorem alike_read {r t : Reference} (alike : AlikeReferences r t) :
    Parallel Session.Alike AlikeValues (read r) (read t) := by
  have channelwise {payload other : Operand} (same : AlikeOperands payload other) :
      Parallel Session.Alike AlikeValues
        (do let channels ← unravel payload; let values ← readChannels channels
            pure (Value.collect values))
        (do let channels ← unravel other; let values ← readChannels channels
            pure (Value.collect values)) :=
    .bind (alike_unravel same) fun _ _ channels =>
      .bind (alike_readChannels (forall₂_of_map_eq channels)) fun _ _ values =>
        .pure (alikeValues_collect values)
  rcases alikeReferences_cases alike with ⟨name, attrs, rfl, rfl⟩ | ⟨payload, other, rfl, rfl, same⟩
  · unfold read
    dsimp only
    split
    · exact .throw rfl
    · exact .bind (alike_readPlugs _) fun _ _ values => .pure (alikeValues_collect values)
  · match payload, other with
    | .number v, .number w =>
      cases same
      exact .pure rfl
    | .value v, .value w => exact .pure (Operand.value.inj same)
    | .path _, .path _ => exact channelwise same
    | .node _ _, .node _ _ => exact channelwise same
    | .literal _, .literal _ => exact channelwise same
    | .list _, .list _ => exact channelwise same

/-! ### Container scopes -/

theorem alike_openContainer (options : ContainerOptions) :
    Parallel Session.Alike Eq (openContainer options) (openContainer options) := by
  refine .bind (alike_editRecorder fun r t scopes _ => ?_) fun _ _ _ => ?_
  · simp [Recorder.beginContainer, scopes]
  · split
    · refine .bind (alike_call _ _ _) ?_
      rintro container _ rfl
      exact .pure rfl
    · exact .pure rfl

theorem alike_exposeAll (container : String) (publications : List (String × String)) :
    Parallel Session.Alike Eq (exposeAll container publications)
      (exposeAll container publications) := by
  induction publications with
  | nil => exact .pure rfl
  | cons publication rest inductionHypothesis =>
    exact .bind (alike_change _ _) fun _ _ _ => inductionHypothesis

theorem alike_populate (scope : ContainerScope) :
    Parallel Session.Alike Eq (populate scope) (populate scope) := by
  unfold populate
  split
  · exact .pure rfl
  · refine .bind .get fun s t sessions => ?_
    rw [sessions.collected]
    refine .bind (alike_change _ _) fun _ _ _ => .bind alike_scene ?_
    rintro scene _ rfl
    refine .bind (alike_exposeAll _ _) fun _ _ _ => ?_
    split
    · exact alike_change _ _
    · exact .pure rfl

theorem alike_endContainer :
    Parallel Session.Alike Eq (editRecorder (·.endContainer)) (editRecorder (·.endContainer)) := by
  refine alike_editRecorder fun r t scopes collected => ?_
  simp [Recorder.endContainer, scopes, collected]

theorem alike_finishContainer (scope : ContainerScope) :
    Parallel Session.Alike Eq (finishContainer scope) (finishContainer scope) := by
  refine .bind (.outcome (alike_populate scope)) fun filled other agree => ?_
  refine .bind alike_endContainer fun _ _ _ => ?_
  cases agree with
  | ok _ => exact .pure rfl
  | error kinds => exact .throw kinds

theorem alike_dropContainer (scope : ContainerScope) :
    Parallel Session.Alike Eq (dropContainer scope) (dropContainer scope) := by
  refine .bind (.outcome (alike_populate scope)) fun filled other agree => ?_
  cases agree with
  | ok _ => exact alike_endContainer
  | error _ => exact .bind (alike_warn _ _) fun _ _ _ => alike_endContainer

theorem alike_abandonContainer :
    Parallel Session.Alike Eq abandonContainer abandonContainer :=
  .bind (alike_warn _ _) fun _ _ _ => alike_endContainer

end Program

/-! ### Tracers -/

namespace Session

/-- Opening a tracer is a matter of the log. -/
theorem Alike.openTracer {s t : Session} (alike : s.Alike t) (options : TracerOptions) :
    (Program.exec (Program.openTracer options) s).2.Alike t :=
  ⟨alike.host, alike.scopes, alike.collected⟩

/-- Closing a tracer is a matter of the log, of warnings and of what is printed. -/
theorem Alike.closeTracer {s t : Session} (alike : s.Alike t) (options : TracerOptions) :
    (Program.exec (Program.closeTracer options) s).2.Alike t := by
  unfold Program.closeTracer
  rw [Program.exec_bind]
  dsimp only [Program.editRecorder, Program.exec_modify]
  split
  · split <;> exact ⟨alike.host, alike.scopes, alike.collected⟩
  · exact ⟨alike.host, alike.scopes, alike.collected⟩

end Session

end FormulaNet
