/-
This file proves that a reference is the sequence of its elements. Counting,
indexing, taking apart and reading each go by cases of their own, but all of
them agree: the elements are as many as are counted, the channels of a reference
are those of its elements one after the other, and so are the strands that are
read from it. The strands are not the channels, since a node is read plug by
plug and a compound plug at once, while a literal is read channel by channel;
but either way they come element by element, and a reading is told by its
strands: which of them can be read, the numbers they hold, and the session in
which they have been read in order.
-/

import FormulaNet.Proofs.ReadBack
import FormulaNet.Proofs.Reachable

namespace FormulaNet

/-! ### Elements -/

namespace Reference

/-- The elements of a reference, by index. -/
def elements (r : Reference) : List Reference := (List.range r.length).filterMap r.get?

theorem filterMap_range_getElem? {α β : Type} (list : List α) (f : α → β) :
    ((List.range list.length).filterMap fun i => list[i]?.map f) = list.map f := by
  induction list with
  | nil => rfl
  | cons first rest inductionHypothesis =>
    rw [List.length_cons, List.range_succ_eq_map, List.filterMap_cons, List.filterMap_map,
      List.map_cons, ← inductionHypothesis]
    rfl

/-- There is an element exactly below the length. -/
theorem isSome_get?_iff (r : Reference) (i : Nat) : (r.get? i).isSome = true ↔ i < r.length := by
  unfold get? length
  split <;> simp

/-- A reference is its only element, or a node with several attributes, or a literal list. -/
theorem elements_cases (r : Reference) (attributed : ∀ node, r ≠ .node node .bare) :
    r.elements = [r] ∨
      (∃ name names, r = .node name (.many names) ∧
        r.elements = names.map fun attr => .node name (.one attr)) ∨
      ∃ items, r = .literal (.list items) ∧ r.elements = items.map .literal := by
  cases r with
  | node name attrs =>
    cases attrs with
    | bare => exact absurd rfl (attributed name)
    | one attr => exact Or.inl rfl
    | many names => exact Or.inr (Or.inl ⟨name, names, rfl, filterMap_range_getElem? names _⟩)
  | literal payload =>
    cases payload with
    | list items => exact Or.inr (Or.inr ⟨items, rfl, filterMap_range_getElem? items _⟩)
    | number | value | path | node | literal => exact Or.inl rfl

end Reference

/-! ### Taking apart element by element -/

namespace Scene

theorem unravelAll_eq_ok_iff (s : Scene) (items : List Operand) (channels : List Channel) :
    s.unravelAll items = .ok channels ↔
      ∃ parts, List.Forall₂ (fun item part => s.unravel item = .ok part) items parts ∧
        channels = parts.flatten := by
  constructor
  · intro taken
    induction items generalizing channels with
    | nil =>
      cases taken
      exact ⟨[], .nil, rfl⟩
    | cons item rest inductionHypothesis =>
      obtain ⟨first, others, takenFirst, takenRest, rfl⟩ := unravelAll_cons_eq_ok taken
      obtain ⟨parts, each, rfl⟩ := inductionHypothesis others takenRest
      exact ⟨first :: parts, .cons takenFirst each, rfl⟩
  · rintro ⟨parts, each, rfl⟩
    induction each with
    | nil => rfl
    | cons first _ inductionHypothesis =>
      rw [unravelAll, first]
      dsimp only
      rw [inductionHypothesis]
      rfl

/-- What references give comes element by element. -/
def Elementwise (gives : Reference → List Channel → Prop) (r : Reference) : Prop :=
  ∀ all, gives r all ↔ ∃ parts, List.Forall₂ gives r.elements parts ∧ all = parts.flatten

/-- A reference gives something exactly if every element does. -/
theorem Elementwise.exists_iff {gives : Reference → List Channel → Prop} {r : Reference}
    (elementwise : Elementwise gives r) :
    (∃ all, gives r all) ↔ ∀ element ∈ r.elements, ∃ part, gives element part := by
  rw [← exists_forall₂_iff]
  constructor
  · rintro ⟨all, given⟩
    obtain ⟨parts, each, _⟩ := (elementwise all).mp given
    exact ⟨parts, each⟩
  · rintro ⟨parts, each⟩
    exact ⟨_, (elementwise _).mpr ⟨parts, each, rfl⟩⟩

/-- Channels do if those of a node come attribute by attribute, and literals are taken apart. -/
theorem elementwise_of (s : Scene) {channels : Reference → Except Error (List Channel)}
    (ofAttr : String → String → List Channel)
    (one : ∀ name attr, channels (.node name (.one attr)) = .ok (ofAttr name attr))
    (many : ∀ name attrs,
      channels (.node name (.many attrs)) = .ok (attrs.flatMap (ofAttr name)))
    (literal : ∀ payload, channels (.literal payload) = s.unravel payload)
    {r : Reference} (attributed : ∀ node, r ≠ .node node .bare) :
    Elementwise (fun r all => channels r = .ok all) r := by
  intro all
  rcases r.elements_cases attributed with
    lone | ⟨name, attrs, rfl, elements⟩ | ⟨items, rfl, elements⟩
  · rw [lone]
    constructor
    · intro taken
      exact ⟨[all], .cons taken .nil, by simp⟩
    · rintro ⟨_, _ | ⟨taken, ⟨⟩⟩, rfl⟩
      simpa using taken
  · dsimp only
    rw [elements, many, Except.ok.injEq, List.flatMap_def]
    simp only [List.forall₂_map_left_iff, one, Except.ok.injEq]
    constructor
    · rintro rfl
      exact ⟨attrs.map (ofAttr name), by simp [List.forall₂_map_right_iff, List.forall₂_same], rfl⟩
    · rintro ⟨parts, each, rfl⟩
      have same : attrs.map (ofAttr name) = parts := by
        rw [← List.forall₂_eq_eq_eq, List.forall₂_map_left_iff]
        exact each
      rw [same]
  · dsimp only
    rw [elements, literal, unravel, unravelAll_eq_ok_iff]
    simp only [List.forall₂_map_left_iff, literal]

theorem elementwise_unravel (s : Scene) {r : Reference} (attributed : ∀ node, r ≠ .node node .bare) :
    Elementwise (fun r all => s.unravel r.toOperand = .ok all) r := by
  refine elementwise_of s (fun name attr => s.plugChannels (Plug.join name attr)) ?_ ?_
    (fun _ => rfl) attributed
  · intro name attr
    exact congrArg Except.ok (List.flatMap_singleton _ _)
  · intro name attrs
    exact congrArg Except.ok (List.flatMap_map _ _ attrs)

/-- The strands of a reference, which are what is read from it: the plugs of a node as they are, and
the channels of a literal. -/
def strands (s : Scene) : Reference → Except Error (List Channel)
  | .literal payload => s.unravel payload
  | .node name attrs =>
    match attrs.plugs? name with
    | some plugs => .ok (plugs.map .plug)
    | none => .error (.bareReading name)

theorem elementwise_strands (s : Scene) {r : Reference} (attributed : ∀ node, r ≠ .node node .bare) :
    Elementwise (fun r all => s.strands r = .ok all) r := by
  refine elementwise_of s (fun name attr => [.plug (Plug.join name attr)]) (fun _ _ => rfl) ?_
    (fun _ => rfl) attributed
  intro name attrs
  rw [strands, Attrs.plugs?]
  dsimp only
  rw [List.map_map, List.map_eq_flatMap]
  rfl

end Scene

/-! ### Reading strands -/

namespace Channel

/-- A strand that can be read: a number, or a plug that the scene reads. -/
def Readable (scene : Scene) : Channel → Prop
  | literal .. => True
  | plug text => ∃ payload, scene.read text = .ok payload

/-- The numbers of a strand. -/
def numbers (scene : Scene) : Channel → List Float
  | literal v _ => [v]
  | plug text =>
    match scene.read text with
    | .ok payload => payload.numbers
    | .error _ => []

end Channel

/-- The strands of a reference that can be read. -/
def Scene.Reads (scene : Scene) (r : Reference) (strands : List Channel) : Prop :=
  scene.strands r = .ok strands ∧ ∀ strand ∈ strands, strand.Readable scene

theorem Scene.forall₂_reads_iff (scene : Scene) (references : List Reference)
    (parts : List (List Channel)) :
    List.Forall₂ scene.Reads references parts ↔
      List.Forall₂ (fun r part => scene.strands r = .ok part) references parts ∧
        ∀ strand ∈ parts.flatten, strand.Readable scene := by
  constructor
  · intro each
    induction each with
    | nil => exact ⟨.nil, List.forall_mem_nil _⟩
    | cons first _ inductionHypothesis =>
      exact ⟨.cons first.1 inductionHypothesis.1,
        List.forall_mem_append.mpr ⟨first.2, inductionHypothesis.2⟩⟩
  · rintro ⟨each, readable⟩
    induction each with
    | nil => exact .nil
    | cons first _ inductionHypothesis =>
      obtain ⟨readableFirst, readableRest⟩ := List.forall_mem_append.mp readable
      exact .cons ⟨first, readableFirst⟩ (inductionHypothesis readableRest)

theorem Scene.elementwise_reads (scene : Scene) {r : Reference}
    (attributed : ∀ node, r ≠ .node node .bare) : Elementwise scene.Reads r := by
  intro all
  have strands := scene.elementwise_strands attributed all
  simp only [scene.forall₂_reads_iff]
  constructor
  · rintro ⟨taken, readable⟩
    obtain ⟨parts, each, rfl⟩ := strands.mp taken
    exact ⟨parts, ⟨each, readable⟩, rfl⟩
  · rintro ⟨parts, ⟨each, readable⟩, rfl⟩
    exact ⟨strands.mpr ⟨parts, each, rfl⟩, readable⟩

namespace Session

/-- The session in which a strand has been read. -/
def reads (s : Session) : Channel → Session
  | .literal .. => s
  | .plug text => (s.answered (.read text) .done s.scene none).recorded (.read text)

/-- The session in which strands have been read in order. -/
def readsAll (s : Session) (strands : List Channel) : Session := strands.foldl reads s

theorem readsAll_append (s : Session) (first second : List Channel) :
    s.readsAll (first ++ second) = (s.readsAll first).readsAll second :=
  List.foldl_append

theorem scene_reads (s : Session) (strand : Channel) : (s.reads strand).scene = s.scene := by
  cases strand <;> rfl

theorem fault_reads {s : Session} (calm : s.host.fault = none) (strand : Channel) :
    (s.reads strand).host.fault = none := by
  cases strand with
  | literal => exact calm
  | plug => rfl

theorem calm_readsAll {s : Session} (calm : s.host.fault = none) (strands : List Channel) :
    (s.readsAll strands).host.fault = none ∧ (s.readsAll strands).scene = s.scene := by
  induction strands generalizing s with
  | nil => exact ⟨calm, rfl⟩
  | cons strand rest inductionHypothesis =>
    obtain ⟨calmRest, same⟩ := inductionHypothesis (fault_reads calm strand)
    exact ⟨calmRest, same.trans (s.scene_reads strand)⟩

theorem readsAll_literals (s : Session) {strands : List Channel}
    (literal : ∀ strand ∈ strands, strand.isLiteral = true) : s.readsAll strands = s := by
  induction strands with
  | nil => rfl
  | cons strand rest inductionHypothesis =>
    obtain ⟨first, others⟩ := List.forall_mem_cons.mp literal
    cases strand with
    | literal => exact inductionHypothesis others
    | plug => cases first

end Session

theorem Value.channels_literal (v : Value) : ∀ channel ∈ v.channels, channel.isLiteral = true := by
  intro channel member
  rw [channels] at member
  split at member
  · rw [List.mem_singleton.mp member]
    rfl
  · obtain ⟨x, _, rfl⟩ := List.mem_map.mp member
    rfl

theorem Value.numbers_channels (v : Value) (scene : Scene) :
    v.channels.flatMap (·.numbers scene) = v.payload.numbers := by
  rw [channels]
  cases v.payload with
  | bool b => rfl
  | number x => rfl
  | list xs =>
    show (xs.map Channel.ofNumber).flatMap _ = xs
    rw [List.flatMap_map]
    exact List.flatMap_singleton' xs

namespace Program

/-- A strand that can be read is read, and gives its numbers. -/
theorem exec_readChannel_readable {s : Session} (calm : s.host.fault = none) {strand : Channel}
    (readable : strand.Readable s.scene) :
    ∃ v, exec (readChannel strand) s = (.ok v, s.reads strand) ∧
      v.payload.numbers = strand.numbers s.scene := by
  cases strand with
  | literal v expression => cases expression <;> exact ⟨_, rfl, rfl⟩
  | plug text =>
    obtain ⟨payload, reads⟩ := readable
    obtain ⟨v, after, done, rfl, still, _⟩ := exec_readPlug_calm calm reads
    refine ⟨v, ?_, ?_⟩
    · rcases exec_readPlug_cases text s with
        ⟨e, run⟩ | ⟨e, fault, message, run⟩ | ⟨_, fault, _, run⟩ <;> rw [run] at done
      · cases done
      · cases done
      · cases done
        cases still
        exact run
    · rw [Channel.numbers, reads]

theorem readable_of_exec_readChannel {s after : Session} {strand : Channel} {v : Value}
    (done : exec (readChannel strand) s = (.ok v, after)) : strand.Readable s.scene := by
  cases strand with
  | literal => trivial
  | plug text =>
    rw [readChannel] at done
    rcases exec_readPlug_cases text s with
      ⟨e, run⟩ | ⟨e, fault, message, run⟩ | ⟨payload, _, reads, _⟩
    · rw [run] at done
      cases done
    · rw [run] at done
      cases done
    · exact ⟨payload, reads⟩

/-- Strands that can be read are read in order. -/
theorem exec_readChannels_readable {strands : List Channel} {s : Session}
    (calm : s.host.fault = none) (readable : ∀ strand ∈ strands, strand.Readable s.scene) :
    ∃ values, exec (readChannels strands) s = (.ok values, s.readsAll strands) ∧
      values.flatMap (·.payload.numbers) = strands.flatMap (·.numbers s.scene) := by
  induction strands generalizing s with
  | nil => exact ⟨[], rfl, rfl⟩
  | cons strand rest inductionHypothesis =>
    obtain ⟨first, others⟩ := List.forall_mem_cons.mp readable
    obtain ⟨v, run, isNumbers⟩ := exec_readChannel_readable calm first
    rw [← s.scene_reads strand] at others
    obtain ⟨values, runs, areNumbers⟩ := inductionHypothesis (Session.fault_reads calm strand) others
    refine ⟨v :: values, ?_, ?_⟩
    · rw [readChannels, exec_bind, run]
      dsimp only
      rw [exec_bind, runs]
      rfl
    · rw [List.flatMap_cons, List.flatMap_cons, isNumbers, areNumbers, s.scene_reads strand]

theorem readable_of_exec_readChannels {strands : List Channel} {s after : Session}
    {values : List Value} (calm : s.host.fault = none)
    (done : exec (readChannels strands) s = (.ok values, after)) :
    ∀ strand ∈ strands, strand.Readable s.scene := by
  induction strands generalizing s values with
  | nil => exact List.forall_mem_nil _
  | cons strand rest inductionHypothesis =>
    obtain ⟨v, between, first, others⟩ := exec_bind_ok done
    obtain ⟨tail, _, later, last⟩ := exec_bind_ok others
    cases last
    have readable := readable_of_exec_readChannel first
    obtain ⟨_, run, _⟩ := exec_readChannel_readable calm readable
    obtain ⟨_, rfl⟩ := Prod.mk.inj (first.symm.trans run)
    have readableRest := inductionHypothesis (Session.fault_reads calm strand) later
    rw [s.scene_reads strand] at readableRest
    exact List.forall_mem_cons.mpr ⟨readable, readableRest⟩

/-! ### Reading references -/

/-- A literal number or value is itself and its strands are numbers; any other literal is read
strand by strand. -/
theorem read_literal_strands (payload : Operand) :
    (∃ v strands, read (.literal payload) = pure v ∧
      (∀ scene : Scene, scene.unravel payload = .ok strands) ∧
      (∀ strand ∈ strands, strand.isLiteral = true) ∧
      ∀ scene, strands.flatMap (Channel.numbers scene) = v.payload.numbers) ∨
    read (.literal payload) = do
      let strands ← unravel payload
      return .collect (← readChannels strands) := by
  cases payload with
  | number v =>
    exact Or.inl ⟨.ofNumber v, [.ofNumber v], rfl, fun _ => rfl,
      by simp [Channel.ofNumber, Channel.isLiteral], fun _ => rfl⟩
  | value v =>
    exact Or.inl ⟨v, v.channels, rfl, fun _ => rfl, v.channels_literal, v.numbers_channels⟩
  | path | node | literal | list => exact Or.inr rfl

/-- A reference whose strands can be read is read, and gives their numbers. -/
theorem exec_read_readable {s : Session} (calm : s.host.fault = none) {r : Reference}
    {strands : List Channel} (readable : s.scene.Reads r strands) :
    ∃ v, exec (read r) s = (.ok v, s.readsAll strands) ∧
      v.payload.numbers = strands.flatMap (·.numbers s.scene) := by
  obtain ⟨taken, readable⟩ := readable
  obtain ⟨values, runs, areNumbers⟩ := exec_readChannels_readable calm readable
  have collected : exec (do return Value.collect (← readChannels strands)) s =
      (.ok (.collect values), s.readsAll strands) := by
    rw [exec_wrap, runs]
    rfl
  rw [← Value.numbers_collect] at areNumbers
  cases r with
  | node name attrs =>
    rw [Scene.strands] at taken
    split at taken
    · rename_i plugs listed
      cases taken
      exact ⟨.collect values, by rw [read_node_eq listed, collected], areNumbers⟩
    · cases taken
  | literal payload =>
    rw [Scene.strands] at taken
    rcases read_literal_strands payload with ⟨v, own, isPure, takenOwn, literal, isNumbers⟩ | isRead
    · obtain rfl := Except.ok.inj ((takenOwn s.scene).symm.trans taken)
      rw [isPure, s.readsAll_literals literal]
      exact ⟨v, rfl, (isNumbers s.scene).symm⟩
    · refine ⟨.collect values, ?_, areNumbers⟩
      rw [isRead, exec_bind, unravel, exec_look, taken]
      exact collected

theorem readable_of_exec_read {s after : Session} (calm : s.host.fault = none) {r : Reference}
    {v : Value} (done : exec (read r) s = (.ok v, after)) : ∃ strands, s.scene.Reads r strands := by
  cases r with
  | node name attrs =>
    simp only [Scene.Reads, Scene.strands]
    cases listed : attrs.plugs? name with
    | none =>
      rw [read, listed] at done
      cases done
    | some plugs =>
      rw [read_node_eq listed] at done
      obtain ⟨values, run, _⟩ := exec_wrap_ok _ done
      exact ⟨plugs.map .plug, rfl, readable_of_exec_readChannels calm run⟩
  | literal payload =>
    simp only [Scene.Reads, Scene.strands]
    rcases read_literal_strands payload with ⟨_, own, _, takenOwn, literal, _⟩ | isRead
    · refine ⟨own, takenOwn s.scene, fun strand member => ?_⟩
      have isLiteral := literal strand member
      cases strand with
      | literal => trivial
      | plug => cases isLiteral
    · rw [isRead] at done
      obtain ⟨strands, between, looked, rest⟩ := exec_bind_ok done
      rw [unravel, exec_look] at looked
      obtain ⟨taken, rfl⟩ := Prod.mk.inj looked
      obtain ⟨values, run, _⟩ := exec_wrap_ok _ rest
      exact ⟨strands, taken, readable_of_exec_readChannels calm run⟩

/-- Reads references one after the other. -/
def readAll : List Reference → Program (List Value)
  | [] => pure []
  | r :: rest => do
    let v ← read r
    let vs ← readAll rest
    pure (v :: vs)

/-- References whose strands can be read are read in order, and each gives the numbers of its
strands. -/
theorem exec_readAll_readable {scene : Scene} {references : List Reference}
    {parts : List (List Channel)} (readable : List.Forall₂ scene.Reads references parts)
    {s : Session} (calm : s.host.fault = none) (same : s.scene = scene) :
    ∃ values, exec (readAll references) s = (.ok values, s.readsAll parts.flatten) ∧
      values.flatMap (·.payload.numbers) = parts.flatten.flatMap (·.numbers scene) ∧
      List.Forall₂ (fun r v => ∃ part, scene.Reads r part ∧
        v.payload.numbers = part.flatMap (·.numbers scene)) references values := by
  induction readable generalizing s with
  | nil => exact ⟨[], rfl, rfl, .nil⟩
  | @cons r part references parts first _ inductionHypothesis =>
    subst same
    obtain ⟨v, run, isNumbers⟩ := exec_read_readable calm first
    obtain ⟨calmBetween, sameBetween⟩ := Session.calm_readsAll calm part
    obtain ⟨values, runs, areNumbers, each⟩ := inductionHypothesis calmBetween sameBetween
    refine ⟨v :: values, ?_, ?_, .cons ⟨part, first, isNumbers⟩ each⟩
    · rw [readAll, exec_bind, run]
      dsimp only
      rw [exec_bind, runs, List.flatten_cons, Session.readsAll_append]
      rfl
    · rw [List.flatMap_cons, isNumbers, areNumbers, List.flatten_cons, List.flatMap_append]

/-- There is an element exactly at every index below the length. A reference can be taken apart
exactly if all its elements can, and its channels are theirs in order. It can be read exactly if
each element can be read; then reading the elements one after the other leaves the same session,
with the same log, and the numbers are theirs in order, which are the numbers that each element
gives on its own. -/
theorem read_elementwise (s : Session) (calm : s.host.fault = none) (r : Reference)
    (attributed : ∀ node, r ≠ .node node .bare) :
    (∀ i, (r.get? i).isSome = true ↔ i < r.length) ∧
    ((∃ channels, s.scene.unravel r.toOperand = .ok channels) ↔
      ∀ element ∈ r.elements, ∃ part, s.scene.unravel element.toOperand = .ok part) ∧
    (∀ channels, s.scene.unravel r.toOperand = .ok channels ↔
      ∃ parts, List.Forall₂ (fun element part => s.scene.unravel element.toOperand = .ok part)
        r.elements parts ∧ channels = parts.flatten) ∧
    ((∃ v after, exec (read r) s = (.ok v, after)) ↔
      ∀ element ∈ r.elements, ∃ v after, exec (read element) s = (.ok v, after)) ∧
    ∀ v after, exec (read r) s = (.ok v, after) →
      ∃ values, exec (readAll r.elements) s = (.ok values, after) ∧
        v.payload.numbers = values.flatMap (·.payload.numbers) ∧
        List.Forall₂ (fun element w => ∃ u alone, exec (read element) s = (.ok u, alone) ∧
          u.payload.numbers = w.payload.numbers) r.elements values := by
  have channels := s.scene.elementwise_unravel attributed
  have strands := s.scene.elementwise_reads attributed
  have isRead (r : Reference) :
      (∃ v after, exec (read r) s = (.ok v, after)) ↔ ∃ all, s.scene.Reads r all := by
    constructor
    · rintro ⟨v, after, done⟩
      exact readable_of_exec_read calm done
    · rintro ⟨all, readable⟩
      obtain ⟨v, run, _⟩ := exec_read_readable calm readable
      exact ⟨v, _, run⟩
  refine ⟨r.isSome_get?_iff, channels.exists_iff, channels, ?_, fun v after done => ?_⟩
  · simp only [isRead]
    exact strands.exists_iff
  · obtain ⟨all, readable⟩ := readable_of_exec_read calm done
    obtain ⟨_, run, isNumbers⟩ := exec_read_readable calm readable
    obtain ⟨same, rfl⟩ := Prod.mk.inj (done.symm.trans run)
    cases same
    obtain ⟨parts, each, rfl⟩ := (strands all).mp readable
    obtain ⟨values, runs, areNumbers, eachValue⟩ := exec_readAll_readable each calm rfl
    refine ⟨values, runs, isNumbers.trans areNumbers.symm, eachValue.imp ?_⟩
    rintro element w ⟨part, readableAlone, isPart⟩
    obtain ⟨u, runAlone, isAlone⟩ := exec_read_readable calm readableAlone
    exact ⟨u, _, runAlone, isAlone.trans isPart.symm⟩

/-- A literal list of a compound, a value that is a list and a plug, read under a tracer. -/
theorem read_elementwise_traced :
    ∃ s : Session, s.recorder.tracing = true ∧
      ∃ v after values,
        exec (read (.literal (.list [.path "pCube1.t", .value ⟨.list [3, 4], "limits", true⟩,
          .node "pCube1" (.one "ry")]))) s = (.ok v, after) ∧
        exec (readAll [.literal (.path "pCube1.t"), .literal (.value ⟨.list [3, 4], "limits", true⟩),
          .literal (.node "pCube1" (.one "ry"))]) s = (.ok values, after) ∧
        v.payload.numbers = [0, 2, 0, 3, 4, 0] ∧
        values.flatMap (·.payload.numbers) = [0, 2, 0, 3, 4, 0] ∧
        Trace.texts after.recorder.log = ["val1 = get('pCube1.translateX')",
          "val2 = get('pCube1.translateY')", "val3 = get('pCube1.translateZ')",
          "val4 = get('pCube1.ry')"] := by
  let changes : List Scene.Change := [.addTransform "pCube1", .set "pCube1.ty" 2]
  let opened := (exec (openTracer .default) (.start (.ofScene (Scene.empty.run changes) ""))).2
  let r : Reference := .literal (.list [.path "pCube1.t", .value ⟨.list [3, 4], "limits", true⟩,
    .node "pCube1" (.one "ry")])
  have numbers : (exec (read r) opened).1.map (·.payload) = .ok (.list [0, 2, 0, 3, 4, 0]) := by
    decide +kernel
  have log : Trace.texts (exec (read r) opened).2.recorder.log =
      ["val1 = get('pCube1.translateX')", "val2 = get('pCube1.translateY')",
        "val3 = get('pCube1.translateZ')", "val4 = get('pCube1.ry')"] := by
    decide +kernel
  have calm : opened.host.fault = none := rfl
  have tracing : opened.recorder.tracing = true := rfl
  generalize opened = s at *
  obtain ⟨_, _, _, _, reading⟩ := read_elementwise s calm r nofun
  cases run : exec (read r) s with
  | mk result after =>
    rw [run] at numbers log
    cases result with
    | error e => cases numbers
    | ok v =>
      have payload : v.payload = .list [0, 2, 0, 3, 4, 0] := Except.ok.inj numbers
      obtain ⟨values, runs, isNumbers, _⟩ := reading v after run
      have all : v.payload.numbers = [0, 2, 0, 3, 4, 0] := by
        rw [payload]
        rfl
      exact ⟨s, tracing, v, after, values, run, runs, all, isNumbers.symm.trans all, log⟩

end Program

end FormulaNet
