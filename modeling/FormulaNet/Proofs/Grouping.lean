/-
This file compares what the expression of a value says with how the value was
computed. Every operator but addition puts its operands in parentheses, so its
expression is read as it was built. Sums are strung together without them, and
are read from the left whichever way they were built: among arithmetic that
changes the grouping and keeps the value, because addition is associative. A
comparison binds weaker than a sum, and added to something it is torn apart: the
sum is read inside of one of its sides.
-/

import FormulaNet.Proofs.Grammar
import Mathlib.Algebra.Group.Basic

namespace FormulaNet

universe u

/-! ### What phrases stand for -/

section Meaning

variable {G : Type u} [AddGroup G]

/-- An operator in a group: sums and differences are the group's, the rest is as it is given. -/
def Operator.within (others : Operator → G → G → G) : Operator → G → G → G
  | arithmetic .add => (· + ·)
  | arithmetic .sub => (· - ·)
  | op => others op

def Phrase.value (words : String → G) (others : Operator → G → G → G) : Phrase → G
  | word text => words text
  | negation x => -x.value words others
  | joined op x y => op.within others (x.value words others) (y.value words others)

end Meaning

/-- A text says a phrase if it is read as that phrase and as no other. -/
def Says (ground : Tier) (text : String) (x : Phrase) : Prop :=
  ∀ y, Spells ground ground (Lexeme.read text.toList) y ↔ y = x

theorem says_of_spells {ground : Tier} {text : String} {x : Phrase}
    (spells : Spells ground ground (Lexeme.read text.toList) x) : Says ground text x := by
  intro y
  constructor
  · exact fun other => other.unique spells
  · rintro rfl
    exact spells

/-! ### Expressions beside an operator -/

/-- An expression that spells a phrase, and that spells an atom if it is left without parentheses
beside an operator. -/
structure Reads (ground : Tier) (text : String) (x : Phrase) : Prop where
  spells : Spells ground ground (Lexeme.read text.toList) x
  plain : text.toList.all Value.isPlain = true → Spells ground .atom (Lexeme.read text.toList) x

variable {ground : Tier} {text left right : String} {x y : Phrase}

theorem Reads.parenthesize (reads : Reads ground text x) :
    Spells ground .atom (Lexeme.read (Value.parenthesize text).toList) x := by
  unfold Value.parenthesize
  split
  case isTrue plain => exact reads.plain plain
  case isFalse =>
    rw [String.toList_append, String.toList_append]
    have grouped := Spells.group reads.spells
    rw [← Lexeme.read_grouped] at grouped
    exact grouped

theorem Reads.of_spells {tier : Tier} (le : ground.rank ≤ tier.rank)
    (marked : text.toList.all Value.isPlain = false)
    (spells : Spells ground tier (Lexeme.read text.toList) x) : Reads ground text x where
  spells := spells.loosen_of_le le
  plain := by
    intro plain
    rw [marked] at plain
    cases plain

/-- A sign or an operator is not plain. -/
theorem all_isPlain_eq_false {c : Char} (within : c ∈ text.toList)
    (marked : Value.isPlain c = false) : text.toList.all Value.isPlain = false :=
  List.all_eq_false.mpr ⟨c, within, by simp [marked]⟩

theorem Reads.negation (le : ground.rank ≤ Tier.factor.rank) (reads : Reads ground text x) :
    Reads ground ("-" ++ Value.parenthesize text) (.negation x) := by
  have operand : Spells ground .factor _ x := .loosen reads.parenthesize
  have spells := Spells.minus operand
  rw [← Lexeme.read_negated] at spells
  refine .of_spells le (all_isPlain_eq_false (c := '-') (by simp) (by decide)) ?_
  rw [String.toList_append]
  exact spells

theorem Operator.exists_mark (op : Operator) :
    ∃ c ∈ op.symbol.toList, Value.isPlain c = false := by
  cases op with
  | arithmetic op => cases op <;> exact ⟨_, List.mem_cons_self, by decide⟩
  | comparison op => cases op <;> exact ⟨_, List.mem_cons_self, by decide⟩

theorem joinExpressions_marked (op : Operator) (left right : String) :
    (Value.joinExpressions op left right).toList.all Value.isPlain = false := by
  obtain ⟨c, within, marked⟩ := op.exists_mark
  refine all_isPlain_eq_false (c := c) ?_ marked
  unfold Value.joinExpressions
  split <;> simp [within]

theorem read_joined_text (op : Operator) (left right : String) :
    Lexeme.read (left ++ " " ++ op.symbol ++ " " ++ right).toList =
      Lexeme.read left.toList ++ .operator op :: Lexeme.read right.toList := by
  rw [← Lexeme.read_joined]
  simp

theorem read_strung {op : Operator} (associative : op.isAssociative = true) (left right : String) :
    Lexeme.read (Value.joinExpressions op left right).toList =
      Lexeme.read left.toList ++ .operator op :: Lexeme.read right.toList := by
  rw [Value.joinExpressions, if_pos associative, read_joined_text]

theorem read_parted {op : Operator} (apart : op.isAssociative = false) (left right : String) :
    Lexeme.read (Value.joinExpressions op left right).toList =
      Lexeme.read (Value.parenthesize left).toList ++
        .operator op :: Lexeme.read (Value.parenthesize right).toList := by
  rw [Value.joinExpressions, apart, if_neg Bool.false_ne_true, read_joined_text]

/-- Two atoms joined by an operator hold together at its tier. -/
theorem Spells.joined_atoms (op : Operator) {before behind : List Lexeme}
    (first : Spells ground .atom before x) (second : Spells ground .atom behind y) :
    Spells ground op.tier (before ++ .operator op :: behind) (.joined op x y) := by
  have tightest (tier : Tier) : tier.rank ≤ Tier.atom.rank := by cases tier <;> decide
  cases chained : op.tier.isChain with
  | true =>
    exact .chain chained rfl (first.loosen_of_le (tightest _)) (second.loosen_of_le (tightest _))
  | false =>
    have power : op = .arithmetic .pow := by
      cases op with
      | arithmetic op => cases op <;> first | rfl | cases chained
      | comparison op => cases chained
    rw [power]
    exact .power first (second.loosen_of_le (tightest _))

/-- Operands in parentheses are read as they are. -/
theorem Reads.joined {op : Operator} (apart : op.isAssociative = false)
    (le : ground.rank ≤ op.tier.rank) (first : Reads ground left x)
    (second : Reads ground right y) :
    Reads ground (Value.joinExpressions op left right) (.joined op x y) := by
  refine .of_spells le (joinExpressions_marked op left right) ?_
  rw [read_parted apart]
  exact .joined_atoms op first.parenthesize second.parenthesize

/-! ### Sums strung together -/

/-- A sum behind a plus is read from the left, and has the value that it has in parentheses. -/
theorem Spells.plus {before behind : List Lexeme} (first : Spells ground .sum before x)
    (second : Spells ground .sum behind y) :
    ∃ z, Spells ground .sum (before ++ .operator (.arithmetic .add) :: behind) z ∧
      ∀ (G : Type u) [AddGroup G] (words : String → G) (others : Operator → G → G → G),
        z.value words others = x.value words others + y.value words others := by
  generalize tier : Tier.sum = level at second
  induction second with
  | word | group | power | minus => cases tier
  | loosen tighter =>
    subst tier
    exact ⟨_, .chain rfl rfl first tighter, fun G _ words others => rfl⟩
  | @chain _ op left right a b _ joins _ last front _ =>
    -- The last summand stays the last one, and those before it are added from the left.
    subst tier
    obtain ⟨z, spells, value⟩ := front rfl
    refine ⟨.joined op z b, ?_, fun G _ words others => ?_⟩
    · have longer := Spells.chain rfl joins spells last
      rw [List.append_assoc] at longer
      exact longer
    · have grouped := value G words others
      cases op with
      | comparison op => cases joins
      | arithmetic op =>
        cases op with
        | add =>
          change z.value words others + b.value words others =
            x.value words others + (a.value words others + b.value words others)
          rw [grouped, add_assoc]
        | sub =>
          change z.value words others - b.value words others =
            x.value words others + (a.value words others - b.value words others)
          rw [grouped, add_sub_assoc]
        | mul | div | pow => cases joins

theorem Reads.plus (first : Reads .sum left x) (second : Reads .sum right y) :
    ∃ z, Reads .sum (Value.joinExpressions (.arithmetic .add) left right) z ∧
      ∀ (G : Type u) [AddGroup G] (words : String → G) (others : Operator → G → G → G),
        z.value words others = x.value words others + y.value words others := by
  obtain ⟨z, spells, value⟩ := first.spells.plus second.spells
  refine ⟨z, .of_spells (Nat.le_refl _) (joinExpressions_marked _ left right) ?_, value⟩
  rw [read_strung rfl]
  exact spells

/-! ### Tokens -/

/-- Texts that are one word, with a sign or without one, and what they say. -/
inductive Token : String → Phrase → Prop where
  | word {text : String} (nonempty : text ≠ "")
    (letters : ∀ c ∈ text.toList, Lexeme.isLetter c = true) : Token text (.word text)
  | signed {text : String} (nonempty : text ≠ "")
    (letters : ∀ c ∈ text.toList, Lexeme.isLetter c = true) :
    Token ("-" ++ text) (.negation (.word text))

theorem spells_word (nonempty : text ≠ "")
    (letters : ∀ c ∈ text.toList, Lexeme.isLetter c = true) :
    Spells ground .atom (Lexeme.read text.toList) (.word text) := by
  have filled : text.toList ≠ [] := by simpa using nonempty
  have spells : Spells ground .atom [.word text.toList] _ := .word text.toList
  rw [← Lexeme.read_word letters filled, String.ofList_toList] at spells
  exact spells

theorem Token.spells (token : Token text x) :
    Spells ground .factor (Lexeme.read text.toList) x := by
  cases token with
  | word nonempty letters => exact .loosen (spells_word nonempty letters)
  | signed nonempty letters =>
    have operand : Spells ground .factor _ _ := .loosen (spells_word nonempty letters)
    have spells := Spells.minus operand
    rw [← Lexeme.read_negated] at spells
    rw [String.toList_append]
    exact spells

theorem Token.reads (le : ground.rank ≤ Tier.factor.rank) (token : Token text x) :
    Reads ground text x := by
  refine ⟨token.spells.loosen_of_le le, fun plain => ?_⟩
  cases token with
  | word nonempty letters => exact spells_word nonempty letters
  | signed =>
    rw [all_isPlain_eq_false (c := '-') (by simp) (by decide)] at plain
    cases plain

/-! ### Arithmetic -/

/-- A scalar that is written as one word. -/
structure Leaf where
  value : Value
  phrase : Phrase
  scalar : value.scalar?.isSome = true
  token : Token value.expression phrase

inductive Computation where
  | given (leaf : Leaf)
  | negated (x : Computation)
  | joined (op : Arithmetic) (x y : Computation)

namespace Computation

def run : Computation → Except Primitive.LengthMismatch Value
  | given leaf => .ok leaf.value
  | negated x => x.run.map Value.negate
  | joined op x y => do
    let first ← x.run
    let second ← y.run
    Value.combine (.arithmetic op) first second

def value {G : Type u} [AddGroup G] (words : String → G) (others : Operator → G → G → G) :
    Computation → G
  | given leaf => leaf.phrase.value words others
  | negated x => -x.value words others
  | joined op x y =>
    (Operator.arithmetic op).within others (x.value words others) (y.value words others)

end Computation

/-- Only two lists can fail to combine. -/
theorem Value.combine_of_scalar (op : Operator) {a b : Value}
    (scalar : a.scalar?.isSome = true ∨ b.scalar?.isSome = true) :
    ∃ v, Value.combine op a b = .ok v ∧
      v.expression = Value.joinExpressions op a.expression b.expression := by
  have payload : ∃ p, Value.combinePayloads op a.payload b.payload = .ok p := by
    cases op with
    | comparison op => exact ⟨_, rfl⟩
    | arithmetic op =>
      rw [Value.combinePayloads, Primitive.combine]
      cases first : a.payload.scalar? with
      | some x => cases b.payload.scalar? <;> exact ⟨_, rfl⟩
      | none =>
        cases second : b.payload.scalar? with
        | some y => exact ⟨_, rfl⟩
        | none => simp [Value.scalar?, first, second] at scalar
  obtain ⟨p, combined⟩ := payload
  rw [Value.combine, combined]
  exact ⟨_, rfl, rfl⟩

theorem Value.scalar?_combine {op : Arithmetic} {a b v : Value} (first : a.scalar?.isSome = true)
    (second : b.scalar?.isSome = true) (combined : Value.combine (.arithmetic op) a b = .ok v) :
    v.scalar?.isSome = true := by
  obtain ⟨p, isScalar⟩ := Option.isSome_iff_exists.mp first
  obtain ⟨q, isScalar'⟩ := Option.isSome_iff_exists.mp second
  rw [Value.scalar?] at isScalar isScalar'
  rw [Value.combine, Value.combinePayloads, Primitive.combine, isScalar, isScalar'] at combined
  cases combined
  rfl

theorem Value.scalar?_negate {v : Value} (scalar : v.scalar?.isSome = true) :
    v.negate.scalar?.isSome = true := by
  unfold Value.scalar? Value.negate at *
  cases payload : v.payload with
  | bool b => rfl
  | number x => rfl
  | list xs =>
    rw [payload] at scalar
    cases scalar

/-- The text of a computation with scalars is read as a phrase of its value. -/
theorem Computation.run_reads (computation : Computation) :
    ∃ v x, computation.run = .ok v ∧ v.scalar?.isSome = true ∧ Reads .sum v.expression x ∧
      ∀ (G : Type u) [AddGroup G] (words : String → G) (others : Operator → G → G → G),
        x.value words others = computation.value words others := by
  induction computation with
  | given leaf =>
    exact ⟨leaf.value, leaf.phrase, rfl, leaf.scalar, leaf.token.reads (by decide),
      fun G _ words others => rfl⟩
  | negated x operand =>
    obtain ⟨v, phrase, runs, scalar, reads, value⟩ := operand
    refine ⟨v.negate, .negation phrase, ?_, Value.scalar?_negate scalar,
      reads.negation (by decide), fun G _ words others => ?_⟩
    · rw [run, runs, Except.map]
    · rw [Phrase.value, Computation.value, value G words others]
  | joined op x y first second =>
    obtain ⟨a, left, runs, scalar, reads, value⟩ := first
    obtain ⟨b, right, runs', scalar', reads', value'⟩ := second
    obtain ⟨v, combined, spelled⟩ := Value.combine_of_scalar (.arithmetic op) (.inl scalar)
    have isScalar := Value.scalar?_combine scalar scalar' combined
    have whole : (joined op x y).run = .ok v := by
      rw [run, runs, runs']
      exact combined
    cases associative : (Operator.arithmetic op).isAssociative with
    | true =>
      have added : op = .add := by cases op <;> first | rfl | cases associative
      subst added
      obtain ⟨z, joined, sum⟩ := reads.plus reads'
      refine ⟨v, z, whole, isScalar, spelled ▸ joined, fun G _ words others => ?_⟩
      rw [sum G words others, value G words others, value' G words others]
      rfl
    | false =>
      have joined := reads.joined associative (by cases op <;> decide) reads'
      refine ⟨v, _, whole, isScalar, spelled ▸ joined, fun G _ words others => ?_⟩
      rw [Phrase.value, Computation.value, value G words others, value' G words others]

/-- Arithmetic with scalars always gives a value. Its expression is read in one way only, and
what it says has the value that was computed. -/
theorem Computation.run_says (computation : Computation) :
    ∃ v x, computation.run = .ok v ∧ Says .sum v.expression x ∧
      ∀ (G : Type u) [AddGroup G] (words : String → G) (others : Operator → G → G → G),
        x.value words others = computation.value words others := by
  obtain ⟨v, x, runs, -, reads, value⟩ := computation.run_reads
  exact ⟨v, x, runs, says_of_spells reads.spells, value⟩

/-! ### Comparisons -/

section Comparison

variable {a b v : Value} {z : Phrase}

theorem Value.combine_comparison (op : Comparison) (a b : Value) :
    ∃ c, Value.combine (.comparison op) a b = .ok c ∧ c.scalar?.isSome = true ∧
      c.expression = Value.joinExpressions (.comparison op) a.expression b.expression :=
  ⟨_, rfl, rfl, rfl⟩

/-- With something added behind it, a comparison has the sum for its right side. -/
theorem spells_comparison_add (op : Comparison) (first : Reads .comparison left x)
    (second : Reads .comparison right y) (token : Token text z) :
    Spells .comparison .comparison (Lexeme.read (Value.joinExpressions (.arithmetic .add)
        (Value.joinExpressions (.comparison op) left right) text).toList)
      (.joined (.comparison op) x (.joined (.arithmetic .add) y z)) := by
  have outer : Spells .comparison .comparison _ x := first.parenthesize.loosen_of_le (by decide)
  have inner : Spells .comparison .sum _ y := second.parenthesize.loosen_of_le (by decide)
  have last : Spells .comparison .product _ z := .loosen token.spells
  have sum : Spells .comparison .sum _ (.joined (.arithmetic .add) y z) :=
    .chain rfl rfl inner last
  rw [read_strung rfl, read_parted rfl, List.append_assoc]
  exact .chain rfl rfl outer sum

/-- With something added before it, a comparison has the sum for its left side. -/
theorem spells_add_comparison (op : Comparison) (first : Reads .comparison left x)
    (second : Reads .comparison right y) (token : Token text z) :
    Spells .comparison .comparison (Lexeme.read (Value.joinExpressions (.arithmetic .add) text
        (Value.joinExpressions (.comparison op) left right)).toList)
      (.joined (.comparison op) (.joined (.arithmetic .add) z x) y) := by
  have start : Spells .comparison .sum _ z := token.spells.loosen_of_le (by decide)
  have inner : Spells .comparison .product _ x := first.parenthesize.loosen_of_le (by decide)
  have outer : Spells .comparison .sum _ y := second.parenthesize.loosen_of_le (by decide)
  have sum : Spells .comparison .sum _ (.joined (.arithmetic .add) z x) :=
    .chain rfl rfl start inner
  rw [read_strung rfl, read_parted rfl, ← List.cons_append, ← List.append_assoc]
  exact .chain rfl rfl (.loosen sum) outer

/-- A comparison that is added to something is read as a comparison with a sum for one of its
sides. With every other operator it is read as one operand. -/
theorem comparison_regrouped (op : Comparison) (first : Token a.expression x)
    (second : Token b.expression y) (other : Token v.expression z) :
    ∃ c, Value.combine (.comparison op) a b = .ok c ∧
      ∀ joint, ∃ before behind,
        Value.combine joint c v = .ok before ∧ Value.combine joint v c = .ok behind ∧
        (joint = .arithmetic .add →
          Says .comparison before.expression (.joined (.comparison op) x (.joined joint y z)) ∧
          Says .comparison behind.expression (.joined (.comparison op) (.joined joint z x) y)) ∧
        (joint ≠ .arithmetic .add →
          Says .comparison before.expression (.joined joint (.joined (.comparison op) x y) z) ∧
          Says .comparison behind.expression (.joined joint z (.joined (.comparison op) x y))) := by
  have loosest (tier : Tier) : Tier.comparison.rank ≤ tier.rank := Nat.zero_le _
  have reads := first.reads (loosest _)
  have reads' := second.reads (loosest _)
  obtain ⟨c, compared, scalar, spelled⟩ := Value.combine_comparison op a b
  refine ⟨c, compared, fun joint => ?_⟩
  obtain ⟨before, combined, text⟩ :=
    Value.combine_of_scalar joint (a := c) (b := v) (.inl scalar)
  obtain ⟨behind, combined', text'⟩ :=
    Value.combine_of_scalar joint (a := v) (b := c) (.inr scalar)
  refine ⟨before, behind, combined, combined', ?_, fun apart => ?_⟩
  · rintro rfl
    rw [text, text', spelled]
    exact ⟨says_of_spells (spells_comparison_add op reads reads' other),
      says_of_spells (spells_add_comparison op reads reads' other)⟩
  · have grouped : joint.isAssociative = false := by
      cases joint with
      | comparison => rfl
      | arithmetic joint => cases joint <;> first | rfl | exact absurd rfl apart
    have compares : Reads .comparison _ (.joined (.comparison op) x y) :=
      reads.joined rfl (loosest _) reads'
    have alone := other.reads (loosest _)
    rw [text, text', spelled]
    exact ⟨says_of_spells (compares.joined grouped (loosest _) alone).spells,
      says_of_spells (alone.joined grouped (loosest _) compares).spells⟩

theorem comparison_regrouped_three :
    Token (Value.ofNumber 3).expression (.word "3") ∧
      Token (Value.ofNumber 2).expression (.word "2") ∧
      Token (Value.ofNumber (-1)).expression (.negation (.word "1")) ∧
      ∃ c, Value.combine (.comparison .gt) (Value.ofNumber 3) (Value.ofNumber 2) = .ok c ∧
        ∃ s, Value.combine (.arithmetic .add) c (Value.ofNumber (-1)) = .ok s ∧
          Says .comparison s.expression (.joined (.comparison .gt) (.word "3")
            (.joined (.arithmetic .add) (.word "2") (.negation (.word "1")))) := by
  have first : Token (Value.ofNumber 3).expression (.word "3") := by
    rw [show (Value.ofNumber 3).expression = "3" by decide +kernel]
    exact .word (by decide) (List.all_eq_true.mp (by decide))
  have second : Token (Value.ofNumber 2).expression (.word "2") := by
    rw [show (Value.ofNumber 2).expression = "2" by decide +kernel]
    exact .word (by decide) (List.all_eq_true.mp (by decide))
  have other : Token (Value.ofNumber (-1)).expression (.negation (.word "1")) := by
    rw [show (Value.ofNumber (-1)).expression = "-" ++ "1" by decide +kernel]
    exact .signed (by decide) (List.all_eq_true.mp (by decide))
  obtain ⟨c, compared, joined⟩ := comparison_regrouped .gt first second other
  obtain ⟨s, behind, added, -, torn, -⟩ := joined (.arithmetic .add)
  exact ⟨first, second, other, c, compared, s, added, (torn rfl).1⟩

/-- A comparison that holds and one are two, but the text of the sum compares three with three. -/
theorem sum_of_comparison_misread :
    Value.combine (.comparison .gt) (Value.ofNumber 3) (Value.ofNumber 2) =
        .ok ⟨.bool true, "3 > 2", false⟩ ∧
      Value.combine (.arithmetic .add) ⟨.bool true, "3 > 2", false⟩ (Value.ofNumber 1) =
        .ok ⟨.number 2, "3 > 2 + 1", false⟩ ∧
      Says .comparison "3 > 2 + 1" (.joined (.comparison .gt) (.word "3")
        (.joined (.arithmetic .add) (.word "2") (.word "1"))) ∧
      ¬ Says .comparison "3 > 2 + 1" (.joined (.arithmetic .add)
        (.joined (.comparison .gt) (.word "3") (.word "2")) (.word "1")) := by
  have three : Token "3" (.word "3") := .word (by decide) (List.all_eq_true.mp (by decide))
  have two : Token "2" (.word "2") := .word (by decide) (List.all_eq_true.mp (by decide))
  have one : Token "1" (.word "1") := .word (by decide) (List.all_eq_true.mp (by decide))
  have spells := spells_comparison_add .gt (three.reads (by decide)) (two.reads (by decide)) one
  refine ⟨congrArg Except.ok ?_, congrArg Except.ok ?_, says_of_spells spells, fun grouped => ?_⟩
  · decide +kernel
  · decide +kernel
  · cases (grouped _).mp spells

end Comparison

end FormulaNet
