/-
This file follows the literals of operands to the calls they end up in. An
action is what a user of a session does: apply an operation, bind the branches
of a test, set or connect, add an attribute, read. All that an action does to
its session it does by creating nodes, setting plugs, connecting them, adding
attributes, reading plugs and warning; and what it sets are the literals among
its operands, the mode of its operation, or the value of its attribute, each
logged as it was written. A relation that covers these calls covers every
action.
-/

import FormulaNet.Formula.Condition
import FormulaNet.Formula.Read
import FormulaNet.Formula.UserAttribute
import FormulaNet.Proofs.Program

namespace FormulaNet

/-! ### The literals of operands -/

namespace Operand

mutual

/-- The literal channels that are written in an operand. -/
def literals : Operand → List Channel
  | number v => [.ofNumber v]
  | value v => v.channels
  | path _ => []
  | node _ _ => []
  | literal payload => payload.literals
  | list items => literalsAll items

/-- The literal channels that are written in several operands. -/
def literalsAll : List Operand → List Channel
  | [] => []
  | item :: rest => item.literals ++ literalsAll rest

end

end Operand

/-- Channels whose literals are among the given ones. -/
def Channel.Within (literals channels : List Channel) : Prop :=
  ∀ value expression, .literal value expression ∈ channels → .literal value expression ∈ literals

namespace Scene

theorem plugChannels_isPlug {s : Scene} {plug : String} {channel : Channel}
    (member : channel ∈ s.plugChannels plug) : ∃ text, channel = .plug text := by
  rw [plugChannels] at member
  split at member
  · split at member
    · obtain ⟨child, _, rfl⟩ := List.mem_map.mp member
      exact ⟨_, rfl⟩
    · exact ⟨_, List.mem_singleton.mp member⟩
  · exact ⟨_, List.mem_singleton.mp member⟩

theorem plugChannels_within (s : Scene) (plug : String) (literals : List Channel) :
    Channel.Within literals (s.plugChannels plug) := by
  intro value expression member
  obtain ⟨text, isPlug⟩ := plugChannels_isPlug member
  cases isPlug

theorem attrsChannels_within {s : Scene} (node : String) (attrs : Attrs) {channels : List Channel}
    (taken : s.attrsChannels node attrs = .ok channels) (literals : List Channel) :
    Channel.Within literals channels := by
  rw [attrsChannels] at taken
  split at taken
  · cases taken
    intro value expression member
    obtain ⟨plug, _, inside⟩ := List.mem_flatMap.mp member
    exact s.plugChannels_within plug literals value expression inside
  · cases taken

theorem unravelAll_cons_eq_ok {s : Scene} {item : Operand} {rest : List Operand}
    {channels : List Channel} (taken : s.unravelAll (item :: rest) = .ok channels) :
    ∃ first others, s.unravel item = .ok first ∧ s.unravelAll rest = .ok others ∧
      channels = first ++ others := by
  rw [unravelAll] at taken
  split at taken
  · cases taken
  · rename_i first takenFirst
    cases takenRest : s.unravelAll rest with
    | error e =>
      rw [takenRest] at taken
      cases taken
    | ok others =>
      rw [takenRest] at taken
      cases taken
      exact ⟨first, others, takenFirst, rfl, rfl⟩

theorem unravelEach_eq_ok {s : Scene} {operands : List Operand} {channels : List (List Channel)}
    (taken : s.unravelEach operands = .ok channels) :
    List.Forall₂ (fun operand cs => s.unravel operand = .ok cs) operands channels := by
  induction operands generalizing channels with
  | nil =>
    cases taken
    exact .nil
  | cons operand rest inductionHypothesis =>
    rw [unravelEach] at taken
    split at taken
    · cases taken
    · rename_i first takenFirst
      cases takenRest : s.unravelEach rest with
      | error e =>
        rw [takenRest] at taken
        cases taken
      | ok others =>
        rw [takenRest] at taken
        cases taken
        exact .cons takenFirst (inductionHypothesis takenRest)

mutual

/-- Taking an operand apart gives no literals but its own. -/
theorem unravel_within (s : Scene) (operand : Operand) {channels : List Channel}
    (taken : s.unravel operand = .ok channels) : Channel.Within operand.literals channels := by
  cases operand with
  | number v =>
    cases taken
    exact fun _ _ => id
  | value v =>
    cases taken
    exact fun _ _ => id
  | path plug =>
    rw [unravel] at taken
    split at taken
    · cases taken
      exact s.plugChannels_within plug _
    · cases taken
  | node name attrs => exact attrsChannels_within name attrs taken _
  | literal payload => exact unravel_within s payload taken
  | list items => exact unravelAll_within s items taken

theorem unravelAll_within (s : Scene) (items : List Operand) {channels : List Channel}
    (taken : s.unravelAll items = .ok channels) :
    Channel.Within (Operand.literalsAll items) channels := by
  cases items with
  | nil =>
    cases taken
    exact fun _ _ => id
  | cons item rest =>
    obtain ⟨first, others, takenFirst, takenRest, rfl⟩ := unravelAll_cons_eq_ok taken
    intro value expression member
    rw [Operand.literalsAll]
    rcases List.mem_append.mp member with inFirst | inRest
    · exact List.mem_append_left _ (unravel_within s item takenFirst value expression inFirst)
    · exact List.mem_append_right _ (unravelAll_within s rest takenRest value expression inRest)

end

theorem unravelEach_within {s : Scene} {operands : List Operand} {channels : List (List Channel)}
    (taken : s.unravelEach operands = .ok channels) {cs : List Channel} (member : cs ∈ channels) :
    Channel.Within (operands.flatMap Operand.literals) cs := by
  have each := unravelEach_eq_ok taken
  clear taken
  induction each with
  | nil => cases member
  | @cons operand first _ _ takenFirst _ inductionHypothesis =>
    intro value expression inside
    rw [List.flatMap_cons]
    rcases List.mem_cons.mp member with rfl | later
    · exact List.mem_append_left _ (s.unravel_within operand takenFirst _ _ inside)
    · exact List.mem_append_right _ (inductionHypothesis later _ _ inside)

end Scene

/-- The name made up for a node is plain. -/
theorem Operation.nodeName_plain (o : Options) (op : Operation) (operands : List Operand) :
    (op.nodeName o operands).toList.all Plug.isNameChar = true := by
  rw [nodeName, Plug.sanitize, String.toList_ofList, List.all_map, List.all_eq_true]
  intro c _
  rw [Function.comp_apply]
  split
  · assumption
  · decide

namespace Program

/-! ### Relations that cover the calls of actions -/

/-- A relation that covers all calls of actions, creations under plain names, connections with one
choice of force and settings to allowed literals. -/
structure Covers (force : Bool) (allowed : Channel → Prop) (R : Session → Session → Prop) :
    Prop extends Lasting R where
  create : ∀ type name, name.toList.all Plug.isNameChar = true → Respects R (create type name)
  setPlug : ∀ plug value expression, allowed (.literal value expression) →
    Respects R (setPlug plug value (Channel.literal value expression).text)
  connect : ∀ source dest, Respects R (connect source dest force)
  addAttribute : ∀ node name spec, Respects R (addAttribute node name spec)
  readPlug : ∀ plug, Respects R (readPlug plug)
  warn : ∀ warning, Respects R (warn warning)

namespace Covers

variable {o : Options} {allowed : Channel → Prop} {R : Session → Session → Prop}
  (covers : Covers o.force allowed R)
include covers

theorem wire {targets sources : List Channel}
    (within : ∀ value expression, .literal value expression ∈ sources →
      allowed (.literal value expression)) :
    Respects R (Program.wire o targets sources) := by
  refine covers.toLasting.wire fun scene links planned link member => ?_
  obtain ⟨pairs, paired, rfl⟩ := Scene.plan_eq_ok planned
  refine covers.toLasting.wireLink ?_ fun target source _ => covers.connect source target
  rintro target value expression rfl
  rcases Scene.mem_collapseLinks member with old | ⟨_, _, collapsed, _⟩
  · exact covers.setPlug target value expression
      (within value expression (Link.mem_pair? paired old).2)
  · cases collapsed

theorem setOrConnect {target source : Operand} (within : ∀ channel ∈ source.literals, allowed channel) :
    Respects R (Program.setOrConnect o target source) := by
  refine covers.look_bind fun s targets _ => ?_
  refine covers.look_bind (fun s sources taken => ?_) s
  exact covers.wire (fun value expression member =>
    within _ (s.scene.unravel_within source taken value expression member)) s

theorem build {op : Operation} {operands : List Operand} {channels : List (List Channel)}
    (mode : ∀ mode, op.mode = some mode → allowed (.ofNumber (Float.ofInt mode)))
    (within : ∀ cs ∈ channels, ∀ value expression, .literal value expression ∈ cs →
      allowed (.literal value expression)) :
    Respects R (Program.build o op operands channels) := by
  have created := covers.create op.nodeType _ (op.nodeName_plain o operands)
  refine covers.toLasting.build created fun node => covers.toLasting.fill ?_
  rintro slots sources (⟨value, known, rfl⟩ | member)
  · refine covers.wire ?_
    intro v expression inside
    rw [List.mem_singleton.mp inside]
    exact mode value known
  · exact covers.wire (within sources member)

theorem apply {name : String} {operands : List Operand}
    (mode : ∀ op mode, Registry.builtin.lookup? name = some op → op.mode = some mode →
      allowed (.ofNumber (Float.ofInt mode)))
    (within : ∀ channel ∈ operands.flatMap Operand.literals, allowed channel) :
    Respects R (Program.apply o name operands) := by
  refine covers.toLasting.apply fun s op channels known taken => ?_
  refine covers.build (fun value moded => mode op value known moded) (fun cs member => ?_) s
  exact fun value expression inside =>
    within _ (Scene.unravelEach_within taken member value expression inside)

theorem condition {test : Reference} {ifTrue ifFalse : Operand}
    (withinTrue : ∀ channel ∈ ifTrue.literals, allowed channel)
    (withinFalse : ∀ channel ∈ ifFalse.literals, allowed channel) :
    Respects R (Program.condition o test ifTrue ifFalse) := by
  refine covers.look_bind fun s pair _ => ?_
  refine covers.look_bind (fun s trueChannels _ => ?_) s
  refine covers.look_bind (fun s falseChannels _ => ?_) s
  rw [bindBranches]
  split
  · exact covers.toLasting.throw _ s
  · exact covers.toLasting.bind (covers.setOrConnect withinTrue) (fun _ =>
      covers.toLasting.bind (covers.setOrConnect withinFalse) fun _ =>
        covers.toLasting.pure _) s

theorem addUserAttribute {node name : String} {spec : AttributeSpec}
    (within : ∀ v, spec.value = some v → allowed (.ofNumber v)) :
    Respects R (Program.addUserAttribute o node name spec) := by
  refine Respects.scene_bind fun s => ?_
  split
  · exact covers.toLasting.bind (covers.warn _) (fun _ => covers.toLasting.pure _) s
  · refine covers.toLasting.bind (covers.addAttribute _ _ _) (fun _ => ?_) s
    dsimp only
    split
    · exact covers.toLasting.pure _
    · rename_i v given
      refine covers.toLasting.bind (covers.setOrConnect fun channel member => ?_) fun _ =>
        covers.toLasting.pure _
      rw [List.mem_singleton.mp member]
      exact within v given

theorem owner {β : Type} {r : Reference} {next : String → Program β}
    (rest : ∀ node, Respects R (next node)) : Respects R (Program.owner r >>= next) := by
  refine covers.toLasting.bind ?_ rest
  rw [Program.owner]
  split
  · exact covers.toLasting.pure _
  · exact covers.toLasting.throw _

theorem addSeparator {r : Reference} : Respects R (Program.addSeparator o r) := by
  refine covers.owner fun node => Respects.scene_bind fun s => ?_
  exact covers.addUserAttribute (fun v given => by cases given) s

theorem readPlugs (plugs : List String) : Respects R (Program.readPlugs plugs) := by
  induction plugs with
  | nil => exact covers.toLasting.pure []
  | cons plug rest inductionHypothesis =>
    exact covers.toLasting.bind (covers.readPlug plug) fun _ =>
      covers.toLasting.bind inductionHypothesis fun _ => covers.toLasting.pure _

theorem readChannels (channels : List Channel) : Respects R (Program.readChannels channels) := by
  induction channels with
  | nil => exact covers.toLasting.pure []
  | cons channel rest inductionHypothesis =>
    refine covers.toLasting.bind ?_ fun _ =>
      covers.toLasting.bind inductionHypothesis fun _ => covers.toLasting.pure _
    unfold readChannel
    split
    · exact covers.toLasting.pure _
    · exact covers.toLasting.pure _
    · exact covers.readPlug _

theorem read (r : Reference) : Respects R (Program.read r) := by
  unfold Program.read
  split
  · exact covers.toLasting.pure _
  · exact covers.toLasting.pure _
  · refine covers.look_bind fun s channels _ => ?_
    exact covers.toLasting.bind (covers.readChannels channels)
      (fun _ => covers.toLasting.pure _) s
  · split
    · exact covers.toLasting.throw _
    · exact covers.toLasting.bind (covers.readPlugs _) fun _ => covers.toLasting.pure _

end Covers

end Program

/-! ### Actions -/

/-- What a user of a session does. -/
inductive Action where
  | apply (name : String) (operands : List Operand)
  | condition (test : Reference) (ifTrue ifFalse : Operand)
  | setOrConnect (target source : Operand)
  | addUserAttribute (node name : String) (spec : AttributeSpec)
  | addAttributeTo (owner : Reference) (name : String) (spec : AttributeSpec)
  | addSeparator (owner : Reference)
  | read (reference : Reference)

/-- What a program of a user gives. -/
inductive Item where
  | value (v : Value)
  | reference (r : Reference)
  | scope (scope : ContainerScope)
  | container (name : Option String)
  | done

namespace Action

/-- What is to be run for an action. -/
def program (o : Options) : Action → Program Item
  | apply name operands => return .reference (← Program.apply o name operands)
  | condition test ifTrue ifFalse => return .reference (← Program.condition o test ifTrue ifFalse)
  | setOrConnect target source => do
    Program.setOrConnect o target source
    pure .done
  | addUserAttribute node name spec =>
    return .reference (← Program.addUserAttribute o node name spec)
  | addAttributeTo owner name spec => return .reference (← Program.addAttributeTo o owner name spec)
  | addSeparator owner => return .reference (← Program.addSeparator o owner)
  | read reference => return .value (← Program.read reference)

/-- What an action may set: the mode of its operation and the literals of its operands, or the value
of its attribute. -/
def literals : Action → List Channel
  | apply name operands =>
    (((Registry.builtin.lookup? name).bind (·.mode)).map fun mode =>
      .ofNumber (Float.ofInt mode)).toList ++ operands.flatMap Operand.literals
  | condition _ ifTrue ifFalse => ifTrue.literals ++ ifFalse.literals
  | setOrConnect _ source => source.literals
  | addUserAttribute _ _ spec => (spec.value.map .ofNumber).toList
  | addAttributeTo _ _ spec => (spec.value.map .ofNumber).toList
  | addSeparator _ => []
  | read _ => []

end Action

/-- A relation that covers the calls of actions covers actions. -/
theorem Program.Covers.action {o : Options} {allowed : Channel → Prop}
    {R : Session → Session → Prop} (covers : Covers o.force allowed R) (action : Action)
    (within : ∀ channel ∈ action.literals, allowed channel) : Respects R (action.program o) := by
  have lasting := covers.toLasting
  cases action with
  | apply name operands =>
    obtain ⟨modes, others⟩ := List.forall_mem_append.mp within
    refine lasting.wrap (covers.apply (fun op mode known moded => modes _ ?_) others)
    rw [known, Option.bind_some, moded]
    exact List.mem_singleton_self _
  | condition test ifTrue ifFalse =>
    obtain ⟨first, second⟩ := List.forall_mem_append.mp within
    exact lasting.wrap (covers.condition first second)
  | setOrConnect target source => exact lasting.wrap (covers.setOrConnect within)
  | addUserAttribute node name spec =>
    refine lasting.wrap (covers.addUserAttribute fun v given => within _ ?_)
    rw [Action.literals, given]
    exact List.mem_singleton_self _
  | addAttributeTo owner name spec =>
    refine lasting.wrap (covers.owner fun node => covers.addUserAttribute fun v given =>
      within _ ?_)
    rw [Action.literals, given]
    exact List.mem_singleton_self _
  | addSeparator owner => exact lasting.wrap covers.addSeparator
  | read reference => exact lasting.wrap (covers.read reference)

end FormulaNet
