/-
This file says what the expressions of values stand for. A plug that is read
makes a reading: its payload, and the entry of the log that tells of it, if one
does. An expression means a payload if the one is built like the other, out of
written payloads and of readings: a reading is written as the label of its entry,
or as its plug if it has none. Every value that a session computes has an
expression that means its payload, over the readings it was computed from; and
what is set on a plug is the number that the logged text means.
-/

import FormulaNet.Proofs.Replay

namespace FormulaNet

/-! ### Readings -/

/-- A plug that was read. -/
structure Reading where
  plug : String
  payload : Primitive
  /-- The log that tells of the reading, counted by openings of tracers, and its number there. -/
  entry : Option (Nat × Nat)

/-- How a reading is written in an expression. -/
def Reading.text (r : Reading) : String :=
  match r.entry with
  | some (_, number) => Trace.readLabel number
  | none => r.plug

/-! ### Meaning -/

/-- An expression and the payload that it stands for, over readings that were made. -/
inductive Means (made : Reading → Prop) : String → Primitive → Prop where
  | written (p : Primitive) : Means made p.text p
  | read {r : Reading} (known : made r) : Means made r.text r.payload
  | joined {op : Operator} {left right : String} {x y z : Primitive} (first : Means made left x)
    (second : Means made right y) (combined : Value.combinePayloads op x y = .ok z) :
    Means made (Value.joinExpressions op left right) z
  | negated {inner : String} {x : Primitive} (operand : Means made inner x) :
    Means made ("-" ++ Value.parenthesize inner) x.negate
  | number {text : String} {x : Primitive} {v : Float} (operand : Means made text x)
    (scalar : x.scalar? = some v) : Means made text (.number v)
  | listed (items : List Value) (each : ∀ v ∈ items, Means made v.expression v.payload) :
    Means made (Text.bracketed (items.map (·.expression)))
      (.list (items.flatMap (·.payload.numbers)))

theorem Means.mono {made others : Reading → Prop} (more : ∀ r, made r → others r) {text : String}
    {p : Primitive} (means : Means made text p) : Means others text p := by
  induction means with
  | written p => exact .written p
  | read known => exact .read (more _ known)
  | joined _ _ combined left right => exact .joined left right combined
  | negated _ operand => exact .negated operand
  | number _ scalar operand => exact .number operand scalar
  | listed items _ each => exact .listed items each

variable {made : Reading → Prop}

namespace Value

/-- A value whose expression means its payload. -/
def Sourced (made : Reading → Prop) (v : Value) : Prop := Means made v.expression v.payload

theorem sourced_ofPrimitive (p : Primitive) : (ofPrimitive p).Sourced made := .written p

theorem Sourced.combine {op : Operator} {a b v : Value} (first : a.Sourced made)
    (second : b.Sourced made) (done : Value.combine op a b = .ok v) : v.Sourced made := by
  rw [Value.combine] at done
  cases combined : combinePayloads op a.payload b.payload with
  | error mismatch =>
    rw [combined] at done
    cases done
  | ok payload =>
    rw [combined] at done
    cases done
    exact .joined first second combined

theorem Sourced.negate {v : Value} (sourced : v.Sourced made) : v.negate.Sourced made :=
  .negated sourced

theorem sourced_collect {vs : List Value} (each : ∀ v ∈ vs, v.Sourced made) :
    (collect vs).Sourced made := by
  unfold collect
  split
  · exact each _ (List.mem_singleton_self _)
  · exact .listed vs each

end Value

/-- A literal that is written as what means its number. -/
def Channel.Explained (made : Reading → Prop) : Channel → Prop
  | literal value expression =>
    ∃ p, Means made (literal value expression).text p ∧ p.scalar? = some value
  | plug _ => True

theorem Channel.explained_ofNumber (v : Float) : (Channel.ofNumber v).Explained made :=
  ⟨.number v, .written (.number v), rfl⟩

/-- Only a scalar is written as its expression, so that its number is what the expression means. -/
theorem Value.Sourced.channels {v : Value} (sourced : v.Sourced made) :
    ∀ channel ∈ v.channels, channel.Explained made := by
  unfold Value.channels
  split
  · rename_i x scalar
    exact List.forall_mem_singleton.mpr ⟨v.payload, sourced, scalar⟩
  · rw [List.forall_mem_map]
    exact fun x _ => Channel.explained_ofNumber x

/-! ### Values in operands -/

namespace Operand

mutual

/-- The values in an operand. -/
def values : Operand → List Value
  | value v => [v]
  | literal payload => payload.values
  | list items => valuesAll items
  | _ => []

/-- The values in several operands. -/
def valuesAll : List Operand → List Value
  | [] => []
  | item :: rest => item.values ++ valuesAll rest

end

theorem valuesAll_eq (items : List Operand) : valuesAll items = items.flatMap values := by
  induction items with
  | nil => rfl
  | cons item rest inductionHypothesis =>
    rw [valuesAll, inductionHypothesis, List.flatMap_cons]

mutual

/-- The literals of an operand are explained by its values. -/
theorem explained_literals (operand : Operand) (sourced : ∀ v ∈ operand.values, v.Sourced made) :
    ∀ channel ∈ operand.literals, channel.Explained made := by
  cases operand with
  | number v => exact List.forall_mem_singleton.mpr (Channel.explained_ofNumber v)
  | value v => exact (sourced v (List.mem_singleton_self v)).channels
  | path plug => exact List.forall_mem_nil _
  | node name attrs => exact List.forall_mem_nil _
  | literal payload => exact explained_literals payload sourced
  | list items => exact explained_literalsAll items sourced

theorem explained_literalsAll (items : List Operand)
    (sourced : ∀ v ∈ valuesAll items, v.Sourced made) :
    ∀ channel ∈ literalsAll items, channel.Explained made := by
  cases items with
  | nil => exact List.forall_mem_nil _
  | cons item rest =>
    obtain ⟨first, others⟩ := List.forall_mem_append.mp sourced
    exact List.forall_mem_append.mpr
      ⟨explained_literals item first, explained_literalsAll rest others⟩

end

end Operand

/-- The values in a reference. -/
def Reference.values : Reference → List Value
  | literal payload => payload.values
  | node _ _ => []

namespace Reference

theorem values_attr (r : Reference) (name : String) : (r.attr name).values = [] := by
  cases r <;> rfl

theorem values_attrs (r : Reference) (names : List String) : (r.attrs names).values = [] := by
  cases r with
  | node n attrs => rfl
  | literal payload =>
    show Operand.valuesAll (names.map .path) = []
    rw [Operand.valuesAll_eq, List.flatMap_map]
    exact List.flatMap_eq_nil_iff.mpr fun _ _ => rfl

/-- An element of a reference holds values of the reference. -/
theorem values_get? {r element : Reference} {index : Nat} (found : r.get? index = some element) :
    ∀ v ∈ element.values, v ∈ r.values := by
  intro v member
  unfold get? at found
  split at found
  · cases found
  · split at found
    · cases found
      exact member
    · cases found
  · obtain ⟨name, _, rfl⟩ := Option.map_eq_some_iff.mp found
    cases member
  · rename_i items
    obtain ⟨item, position, rfl⟩ := Option.map_eq_some_iff.mp found
    show v ∈ Operand.valuesAll items
    rw [Operand.valuesAll_eq]
    exact List.mem_flatMap.mpr ⟨item, List.mem_of_getElem? position, member⟩
  · split at found
    · cases found
      exact member
    · cases found

end Reference

/-! ### Entries of a log -/

namespace Trace

/-- The first entries of a log tell of a reading, under the number it has. -/
def Tells (opening : Nat) (log : List Event) (position : Nat) (r : Reading) : Prop :=
  ∃ number index, r.entry = some (opening, number) ∧ index < position ∧
    (commands log)[index]? =
      some (.read number (plugTerm (created (log.take index)) r.plug))

theorem Tells.append {opening position : Nat} {log : List Event} {r : Reading}
    (tells : Tells opening log position r) (more : List Event) {further : Nat}
    (later : position ≤ further) : Tells opening (log ++ more) further r := by
  obtain ⟨number, index, numbered, early, there⟩ := tells
  refine ⟨number, index, numbered, Nat.lt_of_lt_of_le early later, ?_⟩
  rw [getElem?_commands] at there ⊢
  obtain ⟨event, position, isRead⟩ := Option.map_eq_some_iff.mp there
  have inside := (List.getElem?_eq_some_iff.mp position).1
  rw [List.getElem?_append_left inside, List.take_append_of_le_length (Nat.le_of_lt inside)]
  exact there

/-- The last entry tells of the reading that it is about. -/
theorem tells_last (opening : Nat) (log : List Event) (plug : String) (payload : Primitive) :
    Tells opening (log ++ [.read plug]) (log.length + 1)
      ⟨plug, payload, some (opening, reads log + 1)⟩ := by
  refine ⟨_, log.length, rfl, Nat.lt_succ_self _, ?_⟩
  rw [getElem?_commands, List.getElem?_concat_length, List.take_left]
  rfl

end Trace

/-! ### Reading -/

/-- The reading that a session makes of a plug with a payload. -/
def Session.reading (opening : Nat) (s : Session) (plug : String) (payload : Primitive) : Reading :=
  ⟨plug, payload,
    if s.recorder.tracing then some (opening, Trace.reads s.recorder.log + 1) else none⟩

theorem Session.text_reading (opening : Nat) (s : Session) (plug : String) (payload : Primitive) :
    (s.reading opening plug payload).text = s.recorder.nextLabel?.getD plug := by
  cases tracing : s.recorder.tracing <;> simp [reading, Reading.text, Recorder.nextLabel?, tracing]

namespace Program

/-- The readings that reading channels makes, in order and as far as it gets. -/
def readings (opening : Nat) : List Channel → Session → List Reading
  | [], _ => []
  | .literal .. :: rest, s => readings opening rest s
  | .plug plug :: rest, s =>
    match exec (readPlug plug) s with
    | (.ok v, after) => s.reading opening plug v.payload :: readings opening rest after
    | (.error _, _) => []

/-- The readings that reading an operand channel by channel makes. -/
def operandReadings (opening : Nat) (s : Session) (operand : Operand) : List Reading :=
  match s.scene.unravel operand with
  | .ok channels => readings opening channels s
  | .error _ => []

/-- The readings that reading a reference makes. -/
def readingsOf (opening : Nat) (s : Session) : Reference → List Reading
  | .literal (.number _) => []
  | .literal (.value _) => []
  | .literal payload => operandReadings opening s payload
  | .node node attrs =>
    match attrs.plugs? node with
    | some plugs => readings opening (plugs.map .plug) s
    | none => []

theorem readPlugs_eq (plugs : List String) : readPlugs plugs = readChannels (plugs.map .plug) := by
  induction plugs with
  | nil => rfl
  | cons plug rest inductionHypothesis =>
    rw [readPlugs, inductionHypothesis, List.map_cons, readChannels]
    rfl

/-- What is read from a plug is written as its reading. -/
theorem sourced_readPlug (opening : Nat) {plug : String} {s after : Session} {v : Value}
    (done : exec (readPlug plug) s = (.ok v, after)) :
    v.Sourced (· = s.reading opening plug v.payload) := by
  rcases exec_readPlug_cases plug s with
    ⟨e, run⟩ | ⟨e, fault, message, run⟩ | ⟨payload, fault, _, run⟩ <;> rw [run] at done
  · cases done
  · cases done
  · cases done
    rw [Value.Sourced, ← s.text_reading opening plug payload]
    exact .read rfl

/-- What is read from explained channels means its payload. -/
theorem sourced_readChannels (opening : Nat) {channels : List Channel} {s after : Session}
    {vs : List Value} (explained : ∀ channel ∈ channels, channel.Explained made)
    (done : exec (readChannels channels) s = (.ok vs, after)) :
    ∀ v ∈ vs, v.Sourced fun r => made r ∨ r ∈ readings opening channels s := by
  induction channels generalizing s vs with
  | nil =>
    cases done
    exact List.forall_mem_nil _
  | cons channel rest inductionHypothesis =>
    obtain ⟨v, between, first, others⟩ := exec_bind_ok done
    obtain ⟨tail, final, later, last⟩ := exec_bind_ok others
    cases last
    rw [List.forall_mem_cons] at explained
    have behind := inductionHypothesis explained.2 later
    cases channel with
    | literal value expression =>
      cases expression with
      | none =>
        cases first
        exact List.forall_mem_cons.mpr ⟨Value.sourced_ofPrimitive (.number value), behind⟩
      | some expression =>
        cases first
        obtain ⟨p, means, scalar⟩ := explained.1
        exact List.forall_mem_cons.mpr ⟨.number (means.mono fun _ => Or.inl) scalar, behind⟩
    | plug plug =>
      have made : readings opening (.plug plug :: rest) s =
          s.reading opening plug v.payload :: readings opening rest between := by
        rw [readings, show exec (readPlug plug) s = _ from first]
      rw [made]
      refine List.forall_mem_cons.mpr ⟨(sourced_readPlug opening first).mono ?_, ?_⟩
      · rintro r rfl
        exact Or.inr List.mem_cons_self
      · exact fun v member => (behind v member).mono fun _ => Or.imp_right (List.mem_cons_of_mem _)

/-- Readings made under a tracer are told by its log. -/
theorem tells_readings (opening : Nat) {channels : List Channel} {s : Session}
    (on : s.recorder.tracing = true) :
    ∀ r ∈ readings opening channels s,
      Trace.Tells opening (exec (readChannels channels) s).2.recorder.log
        (exec (readChannels channels) s).2.recorder.log.length r := by
  induction channels generalizing s with
  | nil => exact List.forall_mem_nil _
  | cons channel rest inductionHypothesis =>
    have session {v : Value} {between : Session}
        (first : exec (readChannel channel) s = (.ok v, between)) :
        (exec (readChannels (channel :: rest)) s).2 = (exec (readChannels rest) between).2 := by
      rw [readChannels, exec_bind, first]
      exact exec_wrap_snd _ _ _
    cases channel with
    | literal value expression =>
      cases expression <;> rw [session rfl] <;> exact inductionHypothesis on
    | plug plug =>
      rcases exec_readPlug_cases plug s with
        ⟨e, run⟩ | ⟨e, fault, message, run⟩ | ⟨payload, fault, _, run⟩
      · rw [readings, run]
        exact List.forall_mem_nil _
      · rw [readings, run]
        exact List.forall_mem_nil _
      · rw [readings, run, session run]
        have onBetween :=
          ((s.answered (.read plug) .done s.scene fault).tracing_recorded (.read plug)).trans on
        have logged : _ = s.recorder.log ++ [.read plug] :=
          (s.answered (.read plug) .done s.scene fault).log_recorded (.read plug) on
        have reads := (covers_logs Options.default.force []).readChannels rest
        obtain ⟨_, _, _, told⟩ := reads _
        obtain ⟨events, loggedRest, _⟩ := told onBetween
        refine List.forall_mem_cons.mpr ⟨?_, inductionHypothesis onBetween⟩
        rw [loggedRest, logged, Session.reading, if_pos on]
        exact (Trace.tells_last opening s.recorder.log plug payload).append events (by simp)

theorem read_node_eq {node : String} {attrs : Attrs} {plugs : List String}
    (listed : attrs.plugs? node = some plugs) :
    read (.node node attrs) = do return .collect (← readChannels (plugs.map .plug)) := by
  rw [read, listed]
  dsimp only
  rw [readPlugs_eq]

/-- A literal number or value is itself; any other literal is read channel by channel. -/
theorem read_literal_cases (opening : Nat) (s : Session) (payload : Operand) :
    (∃ v, (∀ made, (∀ w ∈ payload.values, w.Sourced made) → v.Sourced made) ∧
      read (.literal payload) = pure v ∧ readingsOf opening s (.literal payload) = []) ∨
    (read (.literal payload) = (do
        let channels ← unravel payload
        return .collect (← readChannels channels)) ∧
      readingsOf opening s (.literal payload) = operandReadings opening s payload) := by
  cases payload with
  | number v => exact Or.inl ⟨.ofNumber v, fun _ _ => Value.sourced_ofPrimitive _, rfl, rfl⟩
  | value v => exact Or.inl ⟨v, fun _ each => each v (List.mem_singleton_self v), rfl, rfl⟩
  | path plug => exact Or.inr ⟨rfl, rfl⟩
  | node name attrs => exact Or.inr ⟨rfl, rfl⟩
  | literal payload => exact Or.inr ⟨rfl, rfl⟩
  | list items => exact Or.inr ⟨rfl, rfl⟩

/-- What is read from a reference with sourced values means its payload. -/
theorem sourced_read (opening : Nat) {r : Reference} {s after : Session} {v : Value}
    (sourced : ∀ v ∈ r.values, v.Sourced made) (done : exec (read r) s = (.ok v, after)) :
    v.Sourced fun reading => made reading ∨ reading ∈ readingsOf opening s r := by
  cases r with
  | node node attrs =>
    cases listed : attrs.plugs? node with
    | none =>
      rw [read, listed] at done
      cases done
    | some plugs =>
      rw [read_node_eq listed] at done
      obtain ⟨values, _, taken, last⟩ := exec_bind_ok done
      cases last
      rw [readingsOf, listed]
      refine Value.sourced_collect (sourced_readChannels opening ?_ taken)
      exact List.forall_mem_map.mpr fun _ _ => trivial
  | literal payload =>
    rcases read_literal_cases opening s payload with ⟨w, kept, isPure, _⟩ | ⟨isRead, told⟩
    · rw [isPure] at done
      cases done
      exact (kept made sourced).mono fun _ => Or.inl
    · rw [isRead] at done
      obtain ⟨channels, between, looked, rest⟩ := exec_bind_ok done
      obtain ⟨values, _, taken, last⟩ := exec_bind_ok rest
      cases last
      rw [unravel, exec_look] at looked
      obtain ⟨unravelled, rfl⟩ := Prod.mk.inj looked
      rw [told, operandReadings, unravelled]
      refine Value.sourced_collect (sourced_readChannels opening ?_ taken)
      intro channel member
      cases channel with
      | plug text => trivial
      | literal value expression =>
        exact payload.explained_literals sourced _
          (s.scene.unravel_within payload unravelled _ _ member)

/-- Readings that reading a reference makes under a tracer are told by its log. -/
theorem tells_readingsOf (opening : Nat) (r : Reference) {s : Session}
    (on : s.recorder.tracing = true) :
    ∀ reading ∈ readingsOf opening s r,
      Trace.Tells opening (exec (read r) s).2.recorder.log
        (exec (read r) s).2.recorder.log.length reading := by
  cases r with
  | node node attrs =>
    rw [readingsOf]
    cases listed : attrs.plugs? node with
    | none => exact List.forall_mem_nil _
    | some plugs =>
      rw [read_node_eq listed, exec_wrap_snd]
      exact tells_readings opening on
  | literal payload =>
    rcases read_literal_cases opening s payload with ⟨v, _, _, none⟩ | ⟨isRead, told⟩
    · rw [none]
      exact List.forall_mem_nil _
    · rw [told, isRead, operandReadings, exec_bind, unravel, exec_look]
      cases s.scene.unravel payload with
      | error e => exact List.forall_mem_nil _
      | ok channels =>
        dsimp only
        rw [exec_wrap_snd]
        exact tells_readings opening on

end Program

end FormulaNet
