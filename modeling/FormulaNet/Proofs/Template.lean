/-
This file says what the slot groups of a valid operation are. A template channel
is cut at its placeholders, and an instance of it is the same fragments with the
digits of an index between them. No fragment contains the placeholder, and since
digits do not stand in it, it cannot come about across a fragment's end either;
so instances are free of it. Two instances of one channel that are equal are as
long as each other, hence so are their digits, and the first fragment tells
where these begin. Counting the groups is then a matter of the three rules for
numbers of operands.
-/

import FormulaNet.Proofs.Feeding

namespace FormulaNet

namespace Text

/-! ### Occurrences -/

theorem occurs_iff (piece text : List Char) : occurs piece text = true ↔ piece <:+: text := by
  induction text with
  | nil => rw [occurs, List.isEmpty_iff, List.infix_nil]
  | cons c rest inductionHypothesis =>
    rw [occurs, Bool.or_eq_true, List.isPrefixOf_iff_prefix, inductionHypothesis,
      List.infix_cons_iff]

theorem mentions_iff (piece text : String) :
    mentions piece text = true ↔ ∃ front back, text = front ++ piece ++ back := by
  rw [mentions, occurs_iff]
  constructor
  · rintro ⟨front, back, joined⟩
    refine ⟨String.ofList front, String.ofList back, String.toList_injective ?_⟩
    simpa using joined.symm
  · rintro ⟨front, back, rfl⟩
    exact ⟨front.toList, back.toList, by simp⟩

/-- A piece that a character does not stand in lies on one side of the character. -/
theorem infix_of_append_cons {piece left right : List Char} {c : Char} (apart : c ∉ piece)
    (inside : piece <:+: left ++ c :: right) : piece <:+: left ∨ piece <:+: right := by
  obtain ⟨front, back, joined⟩ := inside
  rcases List.append_eq_append_iff.mp joined with ⟨more, rfl, _⟩ | ⟨more, reach, rest⟩
  · exact Or.inl ⟨front, more, rfl⟩
  · -- The piece ends behind the character, so it begins behind it too.
    cases more with
    | nil => exact Or.inl ⟨front, [], by simpa using reach⟩
    | cons d more =>
      obtain ⟨rfl, rfl⟩ := List.cons.inj rest
      rcases List.append_eq_append_iff.mp reach with ⟨gap, rfl, rfl⟩ | ⟨gap, rfl, behind⟩
      · exact absurd (List.mem_append_right _ List.mem_cons_self) apart
      · cases gap with
        | nil => exact absurd (List.nil_append piece ▸ behind ▸ List.mem_cons_self) apart
        | cons e gap =>
          obtain ⟨_, rfl⟩ := List.cons.inj behind
          exact Or.inr ⟨gap, back, rfl⟩

/-- A piece lies behind characters that do not stand in it. -/
theorem infix_of_append {piece front text : List Char} (filled : piece ≠ [])
    (apart : ∀ c ∈ front, c ∉ piece) (inside : piece <:+: front ++ text) : piece <:+: text := by
  induction front with
  | nil => exact inside
  | cons c rest inductionHypothesis =>
    obtain ⟨apartFirst, apartRest⟩ := List.forall_mem_cons.mp apart
    have behind : piece <:+: [] ++ c :: (rest ++ text) := inside
    rcases infix_of_append_cons apartFirst behind with none | later
    · exact absurd (List.infix_nil.mp none) filled
    · exact inductionHypothesis apartRest later

/-! ### Fragments -/

/-- Where no fragment contains a piece, they do not when other characters stand between them. -/
theorem not_infix_intercalate {piece new : List Char} (filled : piece ≠ []) (filledNew : new ≠ [])
    (apart : ∀ c ∈ new, c ∉ piece) {fragments : List (List Char)}
    (free : ∀ fragment ∈ fragments, ¬ piece <:+: fragment) :
    ¬ piece <:+: new.intercalate fragments := by
  induction fragments with
  | nil => exact fun inside => filled (List.infix_nil.mp inside)
  | cons first rest inductionHypothesis =>
    obtain ⟨freeFirst, freeRest⟩ := List.forall_mem_cons.mp free
    cases rest with
    | nil => simpa using freeFirst
    | cons second rest =>
      obtain ⟨c, digits, rfl⟩ := List.exists_cons_of_ne_nil filledNew
      obtain ⟨apartFirst, apartRest⟩ := List.forall_mem_cons.mp apart
      rw [List.intercalate_cons_cons, List.append_assoc]
      intro inside
      rcases infix_of_append_cons apartFirst inside with early | late
      · exact freeFirst early
      · exact inductionHypothesis freeRest (infix_of_append filled apartRest late)

theorem length_intercalate (new : List Char) (fragments : List (List Char)) :
    (new.intercalate fragments).length =
      (fragments.length - 1) * new.length + fragments.flatten.length := by
  induction fragments with
  | nil => simp
  | cons first rest inductionHypothesis =>
    cases rest with
    | nil => simp
    | cons second rest =>
      rw [List.intercalate_cons_cons, List.flatten_cons]
      simp only [List.length_append, inductionHypothesis, List.length_cons, Nat.add_sub_cancel,
        Nat.succ_mul]
      omega

/-- What stands between two fragments or more can be told from the whole. -/
theorem eq_of_intercalate_eq {first second : List Char} {fragments : List (List Char)}
    (several : 2 ≤ fragments.length)
    (equal : first.intercalate fragments = second.intercalate fragments) : first = second := by
  have lengths := congrArg List.length equal
  rw [length_intercalate, length_intercalate, Nat.add_right_cancel_iff] at lengths
  have long : first.length = second.length := Nat.eq_of_mul_eq_mul_left (by omega) lengths
  match fragments with
  | _ :: _ :: _ =>
    rw [List.intercalate_cons_cons, List.intercalate_cons_cons, List.append_assoc,
      List.append_assoc, List.append_cancel_left_eq] at equal
    exact List.append_inj_left equal long

theorem prefix_intercalate (new first : List Char) (rest : List (List Char)) :
    first <+: new.intercalate (first :: rest) := by
  cases rest with
  | nil => simp
  | cons second rest =>
    rw [List.intercalate_cons_cons, List.append_assoc]
    exact List.prefix_append _ _

/-- The fragments of a text between the places where a piece is replaced. -/
structure Cut (piece text : List Char) (fragments : List (List Char)) : Prop where
  joined : text = piece.intercalate fragments
  free : ∀ fragment ∈ fragments, ¬ piece <:+: fragment

/-- Replacing puts something else between the fragments of a text. With characters still to pass,
it begins behind them. -/
theorem exists_cut {piece : List Char} (filled : piece ≠ []) (skip : Nat) (text : List Char) :
    ∃ first rest, Cut piece (text.drop skip) (first :: rest) ∧
      ∀ new, substitute piece new skip text = new.intercalate (first :: rest) := by
  induction text generalizing skip with
  | nil =>
    refine ⟨[], [], ⟨by simp, ?_⟩, fun new => by simp [substitute]⟩
    exact List.forall_mem_singleton.mpr fun inside => filled (List.infix_nil.mp inside)
  | cons c cs inductionHypothesis =>
    cases skip with
    | succ skip => exact inductionHypothesis skip
    | zero =>
      by_cases starts : piece.isPrefixOf (c :: cs) = true
      · obtain ⟨first, rest, ⟨joined, free⟩, replaced⟩ := inductionHypothesis (piece.length - 1)
        have behind : cs.drop (piece.length - 1) = (c :: cs).drop piece.length := by
          cases piece with
          | nil => exact absurd rfl filled
          | cons d piece => rfl
        have whole := List.prefix_iff_eq_append.mp (List.isPrefixOf_iff_prefix.mp starts)
        refine ⟨[], first :: rest, ⟨?_, ?_⟩, fun new => ?_⟩
        · rw [List.intercalate_cons_cons, ← joined, behind]
          exact whole.symm
        · refine List.forall_mem_cons.mpr ⟨fun inside => filled (List.infix_nil.mp inside), free⟩
        · rw [substitute, if_pos starts, replaced, List.intercalate_cons_cons]
          rfl
      · obtain ⟨first, rest, ⟨joined, free⟩, replaced⟩ := inductionHypothesis 0
        obtain ⟨freeFirst, freeRest⟩ := List.forall_mem_cons.mp free
        -- A piece that begins with the next character would have been found here.
        have starting : c :: first <+: c :: cs := by
          rw [List.drop_zero] at joined
          rw [List.cons_prefix_cons, joined]
          exact ⟨rfl, prefix_intercalate piece first rest⟩
        refine ⟨c :: first, rest, ⟨?_, ?_⟩, fun new => ?_⟩
        · rw [List.intercalate_cons_cons_left, ← joined]
          rfl
        · refine List.forall_mem_cons.mpr ⟨fun inside => ?_, freeRest⟩
          rcases List.infix_cons_iff.mp inside with early | late
          · exact starts (List.isPrefixOf_iff_prefix.mpr (early.trans starting))
          · exact freeFirst late
        · rw [substitute, if_neg starts, replaced, List.intercalate_cons_cons_left]

end Text

namespace Operation

/-! ### Instances of a template -/

theorem digits_apart (index : Nat) : ∀ c ∈ (toString index).toList, c ∉ placeholder.toList := by
  have letters : placeholder.toList.all (fun c => !c.isDigit) = true := by decide
  intro c member inside
  have letter := List.all_eq_true.mp letters c inside
  rw [Number.isDigit_of_mem_toString member] at letter
  cases letter

theorem placeholder_filled : placeholder.toList ≠ [] := by decide

/-- How the instances of a channel come about: it is cut at its placeholders, and each instance has
the digits of its index between the fragments. -/
structure Instances (channel : String) (fragments : List String) : Prop where
  several : 2 ≤ fragments.length
  joined : channel = placeholder.intercalate fragments
  free : ∀ fragment ∈ fragments, ∀ front back, fragment ≠ front ++ placeholder ++ back
  instances : ∀ index : Nat, Text.replace placeholder (toString index) channel =
    (toString index).intercalate fragments

theorem mentions_eq_false_iff (channel : String) :
    Text.mentions placeholder channel = false ↔
      ∀ front back, channel ≠ front ++ placeholder ++ back := by
  rw [← Bool.not_eq_true, Text.mentions_iff]
  simp

theorem exists_instances {channel : String}
    (mentions : Text.mentions placeholder channel = true) :
    ∃ fragments, Instances channel fragments := by
  obtain ⟨first, rest, ⟨joined, free⟩, replaced⟩ :=
    Text.exists_cut placeholder_filled 0 channel.toList
  rw [List.drop_zero] at joined
  have chars : ((first :: rest).map String.ofList).map String.toList = first :: rest := by
    simp
  refine ⟨(first :: rest).map String.ofList, ?_, ?_, ?_, ?_⟩
  · cases rest with
    | cons second rest => simp
    | nil =>
      rw [Text.mentions, Text.occurs_iff, joined] at mentions
      exact absurd mentions (by simpa using free)
  · apply String.toList_injective
    rw [String.toList_intercalate, chars]
    exact joined
  · intro fragment member
    obtain ⟨letters, inside, rfl⟩ := List.mem_map.mp member
    rw [← mentions_eq_false_iff, ← Bool.not_eq_true, Text.mentions, Text.occurs_iff,
      String.toList_ofList]
    exact free letters inside
  · intro index
    apply String.toList_injective
    rw [String.toList_intercalate, chars, Text.replace, String.toList_ofList, replaced]

namespace Instances

variable {channel : String} {fragments : List String} (made : Instances channel fragments)
include made

/-- An instance is free of placeholders. -/
theorem mentions (index : Nat) :
    Text.mentions placeholder (Text.replace placeholder (toString index) channel) = false := by
  rw [made.instances, ← Bool.not_eq_true, Text.mentions, Text.occurs_iff,
    String.toList_intercalate]
  refine Text.not_infix_intercalate placeholder_filled (Number.toString_ne_nil index)
    (digits_apart index) ?_
  intro letters member
  obtain ⟨fragment, inside, rfl⟩ := List.mem_map.mp member
  rw [← Text.occurs_iff, ← Text.mentions, Bool.not_eq_true, mentions_eq_false_iff]
  exact made.free fragment inside

/-- The index of an instance can be told from it. -/
theorem index_eq {first second : Nat}
    (equal : Text.replace placeholder (toString first) channel =
      Text.replace placeholder (toString second) channel) : first = second := by
  have chars := congrArg String.toList equal
  rw [made.instances, made.instances, String.toList_intercalate, String.toList_intercalate] at chars
  have digits := Text.eq_of_intercalate_eq (by rw [List.length_map]; exact made.several) chars
  have values := congrArg Number.digitsValue digits
  rwa [Number.digitsValue_toString, Number.digitsValue_toString] at values

end Instances

/-! ### Valid operations -/

variable {op : Operation}

theorem flaw?_eq_none_iff :
    op.flaw? = none ↔ op.name ≠ "" ∧ op.nodeType ≠ "" ∧ op.inputs ≠ [] ∧
      (∀ group ∈ op.inputs, fits group = true) ∧ op.inputFlaw? = none ∧ op.outputFlaw? = none := by
  rw [flaw?]
  split
  · rename_i unnamed
    simp only [reduceCtorEq, false_iff]
    tauto
  · rename_i named
    split
    · rename_i empty
      simp [empty]
    · rename_i filled
      split
      · rename_i wide
        simp only [reduceCtorEq, false_iff]
        simp only [Bool.not_eq_true', List.all_eq_false] at wide
        rintro ⟨_, _, _, fitting, _⟩
        obtain ⟨group, member, unfit⟩ := wide
        exact unfit (fitting group member)
      · rename_i fitting
        simp only [Bool.not_eq_true', Bool.not_eq_false, List.all_eq_true] at fitting
        rw [Option.or_eq_none_iff]
        tauto

/-- The inputs of a valid multi-index operation: a template, and groups without placeholders. -/
theorem template_of_inputFlaw? (valid : op.inputFlaw? = none) (multi : op.multiIndex = true) :
    ∃ template fixed, op.inputs = template :: fixed ∧
      (∀ channel ∈ template, Text.mentions placeholder channel = true) ∧
      ∀ group ∈ fixed, mentionsIndex group = false := by
  rw [inputFlaw?, if_pos multi] at valid
  split at valid
  · cases valid
  · rename_i templated
    split at valid
    · cases valid
    · rename_i plain
      cases inputs : op.inputs with
      | nil => simp [inputs] at templated
      | cons template fixed =>
        refine ⟨template, fixed, rfl, ?_, ?_⟩
        · simpa [inputs, isTemplate] using templated
        · simpa [inputs] using plain

theorem plain_of_inputFlaw? (valid : op.inputFlaw? = none) (single : op.multiIndex = false) :
    ∀ group ∈ op.inputs, mentionsIndex group = false := by
  rw [inputFlaw?, single, if_neg Bool.false_ne_true] at valid
  split at valid
  · cases valid
  · rename_i plain
    simpa using plain

theorem mentionsIndex_eq_false_iff (group : List String) :
    mentionsIndex group = false ↔
      ∀ channel ∈ group, ∀ front back, channel ≠ front ++ placeholder ++ back := by
  simp only [mentionsIndex, List.any_eq_false, Bool.not_eq_true, mentions_eq_false_iff]

/-- An instance of a template is as wide as the template. -/
theorem length_instantiate (template : List String) (index : Nat) :
    (instantiate template index).length = template.length :=
  List.length_map _

theorem fits_iff (group : List String) :
    fits group = true ↔ 1 ≤ group.length ∧ group.length ≤ 3 := by
  rw [fits, decide_eq_true_eq, maxChannels]

/-- An instance of a template mentions no index any more. -/
theorem mentionsIndex_instantiate {template : List String}
    (templated : ∀ channel ∈ template, Text.mentions placeholder channel = true) (index : Nat) :
    mentionsIndex (instantiate template index) = false := by
  rw [mentionsIndex, List.any_eq_false]
  intro slot member
  obtain ⟨channel, inside, rfl⟩ := List.mem_map.mp member
  obtain ⟨fragments, made⟩ := exists_instances (templated channel inside)
  rw [Bool.not_eq_true]
  exact made.mentions index

theorem slotGroups_of_single (single : op.multiIndex = false) (operands : Nat) :
    op.slotGroups operands = op.inputs := by
  rw [slotGroups, single]

theorem slotGroups_of_template (multi : op.multiIndex = true) {template : List String}
    {fixed : List (List String)} (inputs : op.inputs = template :: fixed) (operands : Nat) :
    op.slotGroups operands =
      (List.range (operands - fixed.length)).map (instantiate template) ++ fixed := by
  rw [slotGroups, multi, inputs]

theorem length_slotGroups (valid : op.flaw? = none) {operands : Nat}
    (accepted : op.accepts operands = true) : (op.slotGroups operands).length = operands := by
  obtain ⟨_, _, _, _, validInputs, _⟩ := flaw?_eq_none_iff.mp valid
  rw [accepts, arity] at accepted
  cases repeats : op.multiIndex with
  | false =>
    rw [repeats, if_neg Bool.false_ne_true, Arity.accepts, beq_iff_eq] at accepted
    rw [slotGroups_of_single repeats, accepted]
  | true =>
    obtain ⟨template, fixed, inputs, _, _⟩ := template_of_inputFlaw? validInputs repeats
    rw [if_pos repeats, Arity.accepts, decide_eq_true_eq, inputs, List.length_cons] at accepted
    rw [slotGroups_of_template repeats inputs, List.length_append, List.length_map,
      List.length_range]
    omega

/-- Every slot group of a valid operation is a valid group without placeholders. -/
theorem fits_slotGroups (valid : op.flaw? = none) {operands : Nat} {group : List String}
    (member : group ∈ op.slotGroups operands) :
    fits group = true ∧ mentionsIndex group = false := by
  obtain ⟨_, _, _, fitting, validInputs, _⟩ := flaw?_eq_none_iff.mp valid
  cases repeats : op.multiIndex with
  | false =>
    rw [slotGroups_of_single repeats] at member
    exact ⟨fitting group member, plain_of_inputFlaw? validInputs repeats group member⟩
  | true =>
    obtain ⟨template, fixed, inputs, templated, plain⟩ := template_of_inputFlaw? validInputs repeats
    rw [slotGroups_of_template repeats inputs] at member
    rw [inputs] at fitting
    obtain ⟨fittingTemplate, fittingFixed⟩ := List.forall_mem_cons.mp fitting
    rcases List.mem_append.mp member with instantiated | isFixed
    · obtain ⟨index, _, rfl⟩ := List.mem_map.mp instantiated
      rw [fits_iff, length_instantiate, ← fits_iff]
      exact ⟨fittingTemplate, mentionsIndex_instantiate templated index⟩
    · exact ⟨fittingFixed group isFixed, plain group isFixed⟩

/-- An operation without flaws has, for every number of operands that it accepts, one slot group of
one to three channels for each operand, so that every operand is fed to one, and no channel mentions
the running index any more. A template is repeated with the indices from zero on, as often as the
fixed groups behind it leave operands over; each of its channels consists of fragments with a
placeholder between them, an instance has the digits of its index there, and different indices give
different instances. -/
theorem slotGroups_of_accepts (op : Operation) (valid : op.flaw? = none) (count : Nat)
    (accepted : op.accepts count = true) :
    (op.slotGroups count).length = count ∧
    (∀ (operands : List Operand) (channels : List (List Channel)), operands.length = count →
      channels.length = count →
      (feeds operands channels (op.slotGroups count)).map (·.operand) = operands) ∧
    (∀ group ∈ op.slotGroups count, 1 ≤ group.length ∧ group.length ≤ 3 ∧
      ∀ channel ∈ group, ∀ front back, channel ≠ front ++ placeholder ++ back) ∧
    (op.multiIndex = false → op.slotGroups count = op.inputs) ∧
    (op.multiIndex = true → ∃ template fixed, op.inputs = template :: fixed ∧
      fixed.length < count ∧
      op.slotGroups count =
        (List.range (count - fixed.length)).map (instantiate template) ++ fixed ∧
      ∀ channel ∈ template, (∃ fragments, Instances channel fragments) ∧
        ∀ first second : Nat, first ≠ second →
          Text.replace placeholder (toString first) channel ≠
            Text.replace placeholder (toString second) channel) := by
  have counted := length_slotGroups valid accepted
  obtain ⟨_, _, _, _, validInputs, _⟩ := flaw?_eq_none_iff.mp valid
  refine ⟨counted, ?_, ?_, fun single => slotGroups_of_single single count, ?_⟩
  · intro operands channels given taken
    exact Program.map_operand_feeds (taken.trans given.symm) (counted.trans given.symm)
  · intro group member
    obtain ⟨fitting, plain⟩ := fits_slotGroups valid member
    obtain ⟨filled, narrow⟩ := (fits_iff group).mp fitting
    exact ⟨filled, narrow, (mentionsIndex_eq_false_iff group).mp plain⟩
  · intro multi
    obtain ⟨template, fixed, inputs, templated, _⟩ := template_of_inputFlaw? validInputs multi
    rw [accepts, arity, if_pos multi, Arity.accepts, decide_eq_true_eq, inputs,
      List.length_cons] at accepted
    refine ⟨template, fixed, inputs, accepted, slotGroups_of_template multi inputs count, ?_⟩
    intro channel member
    obtain ⟨fragments, made⟩ := exists_instances (templated channel member)
    exact ⟨⟨fragments, made⟩, fun first second different equal =>
      different (made.index_eq equal)⟩

/-- Twelve operands for a template whose first channel has two placeholders, and whose second has
one inside what else would be another. -/
theorem slotGroups_of_accepts_nested :
    ∃ op : Operation,
      op.inputs = [["in[\x7bmulti_index\x7d].at[\x7bmulti_index\x7d]",
        "\x7bmulti_\x7bmulti_index\x7dindex\x7d"], ["selector"]] ∧
      op.multiIndex = true ∧ op.flaw? = none ∧ op.accepts 12 = true ∧
      (op.slotGroups 12)[10]? = some ["in[10].at[10]", "\x7bmulti_10index\x7d"] ∧
      (op.slotGroups 12).length = 12 ∧
      ∀ group ∈ op.slotGroups 12, 1 ≤ group.length ∧ group.length ≤ 3 ∧
        ∀ channel ∈ group, ∀ front back, channel ≠ front ++ placeholder ++ back := by
  let op : Operation := ⟨"pick", "choice",
    [["in[\x7bmulti_index\x7d].at[\x7bmulti_index\x7d]",
      "\x7bmulti_\x7bmulti_index\x7dindex\x7d"], ["selector"]], .channels ["out"], none, true⟩
  have valid : op.flaw? = none := by decide +kernel
  have accepted : op.accepts 12 = true := by decide
  obtain ⟨counted, _, groups, _⟩ := slotGroups_of_accepts op valid 12 accepted
  exact ⟨op, rfl, rfl, valid, accepted, by decide +kernel, counted, groups⟩

end Operation

end FormulaNet
