/-
This file says how an expression is read. Its characters are cut into lexemes,
and the lexemes are put together by a grammar of tiers: comparisons bind weakest,
then sums, products, signs and powers, and what stands in parentheses is read
from the weakest tier again. Sums, products and comparisons associate to the
left, powers to the right. The grammar is unambiguous: a reader that looks one
lexeme ahead has one way to go, and it finds every phrase that the grammar spells.
-/

import FormulaNet.Value.Basic

namespace FormulaNet

/-! ### Lexemes -/

inductive Lexeme where
  | word (text : List Char)
  | operator (op : Operator)
  | opening
  | closing
  /-- A character of operators that is none by itself. -/
  | stray (c : Char)
  deriving DecidableEq

/-- The operator that is written by a symbol. -/
def Operator.ofSymbol? (symbol : List Char) : Option Operator :=
  all.find? (·.symbol.toList = symbol)

namespace Lexeme

/-- Characters that operators are written with. -/
def isMark (c : Char) : Bool := Operator.all.any (·.symbol.toList.contains c)

/-- Characters that end a word and an operator alike. -/
def isDivider (c : Char) : Bool := Text.isBlank c || c == '(' || c == ')'

/-- Characters that words are made of. -/
def isLetter (c : Char) : Bool := !isDivider c && !isMark c

/-- Puts a letter in front of what was read behind it: a word goes on if the next character belongs
to it. -/
def extend (c : Char) (next : Option Char) (behind : List Lexeme) : List Lexeme :=
  match next.any isLetter, behind with
  | true, word text :: rest => word (c :: text) :: rest
  | _, rest => word [c] :: rest

/-- Puts one character in front of what was read behind it. -/
def put (c : Char) (next : Option Char) (behind : List Lexeme) : List Lexeme :=
  if Text.isBlank c then behind
  else if c = '(' then opening :: behind
  else if c = ')' then closing :: behind
  else match Operator.ofSymbol? [c] with
    | some op => operator op :: behind
    | none => if isMark c then stray c :: behind else extend c next behind

/-- The lexemes of a text. Of two operators that start alike, the longer one is read. -/
def read : List Char → List Lexeme
  | [] => []
  | [c] => put c none []
  | c :: d :: rest =>
    match Operator.ofSymbol? [c, d] with
    | some op => operator op :: read rest
    | none => put c (some d) (read (d :: rest))

example : read "a ** -(b2+3) >= c".toList =
    [word ['a'], operator (.arithmetic .pow), operator (.arithmetic .sub), opening,
      word ['b', '2'], operator (.arithmetic .add), word ['3'], closing,
      operator (.comparison .ge), word ['c']] := by decide

/-! ### Reading what was written apart -/

theorem symbol_of_ofSymbol? {symbol : List Char} {op : Operator}
    (found : Operator.ofSymbol? symbol = some op) :
    op ∈ Operator.all ∧ op.symbol.toList = symbol := by
  have spelled := List.find?_some found
  exact ⟨List.mem_of_find?_eq_some found, of_decide_eq_true spelled⟩

theorem ofSymbol?_divider {symbol : List Char} {d : Char} (within : d ∈ symbol)
    (divider : isDivider d = true) : Operator.ofSymbol? symbol = none := by
  have undivided : ∀ op ∈ Operator.all, op.symbol.toList.any isDivider = false := by decide
  cases found : Operator.ofSymbol? symbol with
  | none => rfl
  | some op =>
    obtain ⟨known, spelled⟩ := symbol_of_ofSymbol? found
    exact absurd divider (List.any_eq_false.mp (undivided op known) d (spelled ▸ within))

theorem ofSymbol?_letter {c : Char} (rest : List Char) (letter : isLetter c = true) :
    Operator.ofSymbol? (c :: rest) = none := by
  cases found : Operator.ofSymbol? (c :: rest) with
  | none => rfl
  | some op =>
    obtain ⟨known, spelled⟩ := symbol_of_ofSymbol? found
    have mark : isMark c = true := List.any_eq_true.mpr ⟨op, known, by simp [spelled]⟩
    simp [isLetter, mark] at letter

theorem put_letter {c : Char} (letter : isLetter c = true) (next : Option Char)
    (behind : List Lexeme) : put c next behind = extend c next behind := by
  have single := ofSymbol?_letter [] letter
  simp only [isLetter, isDivider, Bool.and_eq_true, Bool.not_eq_true', Bool.or_eq_false_iff,
    beq_eq_false_iff_ne] at letter
  simp [put, letter, single]

/-- In front of anything but a letter, a character is read by itself. -/
theorem put_of_not_letter {next : Option Char} (apart : next.any isLetter = false) (c : Char)
    (behind : List Lexeme) : put c next behind = put c none [] ++ behind := by
  simp only [put, extend, apart, Option.any_none]
  repeat' split
  all_goals rfl

theorem put_divider {c : Char} (divider : isDivider c = true) (next : Option Char)
    (behind : List Lexeme) : put c next behind = put c none [] ++ behind := by
  simp only [isDivider, Bool.or_eq_true, beq_iff_eq] at divider
  rcases divider with (blank | rfl) | rfl
  · simp [put, blank]
  · rfl
  · rfl

theorem read_divider {c : Char} (divider : isDivider c = true) (rest : List Char) :
    read (c :: rest) = put c none [] ++ read rest := by
  cases rest with
  | nil => simp [read]
  | cons d rest =>
    rw [read, ofSymbol?_divider List.mem_cons_self divider]
    exact put_divider divider _ _

theorem read_letter {c : Char} (letter : isLetter c = true) (rest : List Char) :
    read (c :: rest) = extend c rest.head? (read rest) := by
  cases rest with
  | nil => exact put_letter letter none []
  | cons d rest =>
    rw [read, ofSymbol?_letter [d] letter]
    exact put_letter letter _ _

/-- A word is the same whatever is put behind it. -/
theorem put_append (c d : Char) (rest : List Char) (more : List Lexeme) :
    put c (some d) (read (d :: rest) ++ more) = put c (some d) (read (d :: rest)) ++ more := by
  cases letter : isLetter d with
  | false =>
    have apart : (some d).any isLetter = false := letter
    rw [put_of_not_letter apart, put_of_not_letter apart c (read (d :: rest)), List.append_assoc]
  | true =>
    have starts : ∃ text behind, read (d :: rest) = word text :: behind := by
      rw [read_letter letter, extend.eq_def]
      split
      · exact ⟨_, _, rfl⟩
      · exact ⟨_, _, rfl⟩
    obtain ⟨text, behind, reads⟩ := starts
    simp only [reads, put, extend, Option.any_some, letter, List.cons_append]
    repeat' split
    all_goals rfl

/-- A divider keeps the lexemes of its two sides apart. -/
theorem read_append (front : List Char) {back : List Char}
    (divided : ∀ c ∈ back.head?, isDivider c = true) :
    read (front ++ back) = read front ++ read back := by
  fun_induction read front with
  | case1 => rfl
  | case2 c =>
    cases back with
    | nil => simp [read]
    | cons d rest =>
      have divider := divided d rfl
      have apart : (some d).any isLetter = false := by simp [isLetter, divider]
      rw [List.singleton_append, read, ofSymbol?_divider (by simp) divider]
      exact put_of_not_letter apart c _
  | case3 c d rest op found inductionHypothesis =>
    rw [List.cons_append, List.cons_append, read, found]
    simp only [inductionHypothesis, List.cons_append]
  | case4 c d rest missing inductionHypothesis =>
    rw [List.cons_append, List.cons_append, read, missing]
    simp only
    rw [← List.cons_append, inductionHypothesis, put_append]

theorem read_joined (op : Operator) (left right : List Char) :
    read (left ++ ' ' :: op.symbol.toList ++ ' ' :: right) =
      read left ++ operator op :: read right := by
  have blank (rest : List Char) : ∀ c ∈ (' ' :: rest).head?, isDivider c = true := by
    intro c first
    cases first
    decide
  have each : ∀ op ∈ Operator.all, read op.symbol.toList = [operator op] := by decide
  have known : op ∈ Operator.all := by cases op with
    | arithmetic op => cases op <;> decide
    | comparison op => cases op <;> decide
  rw [read_append _ (blank right), read_append _ (blank _), read_divider (by decide),
    read_divider (by decide), each op known, List.append_assoc]
  rfl

theorem read_grouped (text : List Char) :
    read ('(' :: text ++ [')']) = opening :: read text ++ [closing] := by
  have divided : ∀ c ∈ [')'].head?, isDivider c = true := by
    intro c first
    cases first
    decide
  rw [read_append _ divided, read_divider (by decide)]
  rfl

theorem read_negated (text : List Char) :
    read ('-' :: text) = operator (.arithmetic .sub) :: read text := by
  cases text with
  | nil => rfl
  | cons d rest =>
    have short : ∀ op ∈ Operator.all, op.symbol.toList.head? = some '-' →
        op.symbol.toList.length = 1 := by decide
    have missing : Operator.ofSymbol? ['-', d] = none := by
      cases found : Operator.ofSymbol? ['-', d] with
      | none => rfl
      | some op =>
        obtain ⟨known, spelled⟩ := symbol_of_ofSymbol? found
        have single := short op known (by rw [spelled]; rfl)
        rw [spelled] at single
        cases single
    rw [read, missing]
    rfl

theorem read_word {text : List Char} (letters : ∀ c ∈ text, isLetter c = true)
    (nonempty : text ≠ []) : read text = [word text] := by
  induction text with
  | nil => exact absurd rfl nonempty
  | cons c rest inductionHypothesis =>
    rw [read_letter (letters c List.mem_cons_self)]
    cases rest with
    | nil => rfl
    | cons d rest =>
      have next := letters d (List.mem_cons_of_mem _ List.mem_cons_self)
      rw [inductionHypothesis (fun c within => letters c (List.mem_cons_of_mem _ within))
        (List.cons_ne_nil d rest)]
      simp [extend, next]

end Lexeme

/-! ### The grammar -/

/-- What an expression says: words, signs and operators, without parentheses. -/
inductive Phrase where
  | word (text : String)
  | negation (x : Phrase)
  | joined (op : Operator) (x y : Phrase)
  deriving DecidableEq

/-- How tight a phrase holds together. -/
inductive Tier where
  | comparison | sum | product | factor | atom
  deriving DecidableEq

namespace Tier

def rank : Tier → Nat
  | comparison => 0
  | sum => 1
  | product => 2
  | factor => 3
  | atom => 4

/-- The next tighter tier. -/
def next : Tier → Tier
  | comparison => sum
  | sum => product
  | product => factor
  | factor | atom => atom

/-- Whether operators of this tier are strung together from the left. -/
def isChain : Tier → Bool
  | comparison | sum | product => true
  | factor | atom => false

theorem rank_injective {tier other : Tier} (same : tier.rank = other.rank) : tier = other := by
  cases tier <;> cases other <;> first | rfl | cases same

theorem rank_next {tier other : Tier} (tighter : tier.rank < other.rank) :
    tier.next.rank = tier.rank + 1 := by
  cases tier with
  | comparison | sum | product | factor => rfl
  | atom => cases other <;> simp [rank] at tighter

theorem rank_lt_next {tier : Tier} (chain : tier.isChain = true) : tier.rank < tier.next.rank := by
  cases tier with
  | comparison | sum | product => decide
  | factor | atom => cases chain

end Tier

/-- The tier of what an operator joins. -/
def Operator.tier : Operator → Tier
  | comparison _ => .comparison
  | arithmetic .add | arithmetic .sub => .sum
  | arithmetic .mul | arithmetic .div => .product
  | arithmetic .pow => .factor

/-- The lexemes that spell a phrase at a tier. In parentheses stands a phrase of the ground tier. -/
inductive Spells (ground : Tier) : Tier → List Lexeme → Phrase → Prop where
  | word (text : List Char) : Spells ground .atom [.word text] (.word (String.ofList text))
  | group {lexemes : List Lexeme} {x : Phrase} (inner : Spells ground ground lexemes x) :
    Spells ground .atom (.opening :: lexemes ++ [.closing]) x
  | power {left right : List Lexeme} {x y : Phrase} (base : Spells ground .atom left x)
    (exponent : Spells ground .factor right y) :
    Spells ground .factor (left ++ .operator (.arithmetic .pow) :: right)
      (.joined (.arithmetic .pow) x y)
  | minus {lexemes : List Lexeme} {x : Phrase} (operand : Spells ground .factor lexemes x) :
    Spells ground .factor (.operator (.arithmetic .sub) :: lexemes) (.negation x)
  | chain {tier : Tier} {op : Operator} {left right : List Lexeme} {x y : Phrase}
    (chained : tier.isChain = true) (joins : op.tier = tier) (first : Spells ground tier left x)
    (second : Spells ground tier.next right y) :
    Spells ground tier (left ++ .operator op :: right) (.joined op x y)
  | loosen {tier : Tier} {lexemes : List Lexeme} {x : Phrase}
    (tighter : Spells ground tier.next lexemes x) : Spells ground tier lexemes x

/-- What holds together at a tier does so at every looser one. -/
theorem Spells.loosen_of_le {ground tier looser : Tier} {lexemes : List Lexeme} {x : Phrase}
    (le : looser.rank ≤ tier.rank) (spells : Spells ground tier lexemes x) :
    Spells ground looser lexemes x := by
  induction gap : tier.rank - looser.rank generalizing looser with
  | zero =>
    have same : looser = tier := Tier.rank_injective (by omega)
    exact same ▸ spells
  | succ n inductionHypothesis =>
    have tighter : looser.rank < tier.rank := by omega
    have next := Tier.rank_next tighter
    exact .loosen (inductionHypothesis (by omega) (by omega))

/-! ### A reader with one way to go -/

/-- Lexemes at which a phrase of the tier ends. -/
def Stops (tier : Tier) (rest : List Lexeme) : Prop :=
  ∀ op behind, rest = .operator op :: behind → op.tier.rank < tier.rank

/-- A reader from left to right. It takes a phrase of the tier off the front and leaves a rest. If a
phrase is given, it was read before, and the reader goes on from it. -/
inductive Takes (ground : Tier) :
    Tier → Option Phrase → List Lexeme → Phrase → List Lexeme → Prop where
  | word (text : List Char) (rest : List Lexeme) :
    Takes ground .atom none (.word text :: rest) (.word (String.ofList text)) rest
  | group {lexemes rest : List Lexeme} {x : Phrase}
    (inner : Takes ground ground none lexemes x (.closing :: rest)) :
    Takes ground .atom none (.opening :: lexemes) x rest
  | minus {lexemes rest : List Lexeme} {x : Phrase}
    (operand : Takes ground .factor none lexemes x rest) :
    Takes ground .factor none (.operator (.arithmetic .sub) :: lexemes) (.negation x) rest
  | plain {lexemes rest : List Lexeme} {x : Phrase}
    (base : Takes ground .atom none lexemes x rest) (stops : Stops .factor rest) :
    Takes ground .factor none lexemes x rest
  | power {lexemes middle rest : List Lexeme} {x y : Phrase}
    (base : Takes ground .atom none lexemes x (.operator (.arithmetic .pow) :: middle))
    (exponent : Takes ground .factor none middle y rest) :
    Takes ground .factor none lexemes (.joined (.arithmetic .pow) x y) rest
  | first {tier : Tier} {lexemes middle rest : List Lexeme} {x z : Phrase}
    (chained : tier.isChain = true) (start : Takes ground tier.next none lexemes x middle)
    (more : Takes ground tier (some x) middle z rest) : Takes ground tier none lexemes z rest
  | stop {tier : Tier} {rest : List Lexeme} {x : Phrase} (chained : tier.isChain = true)
    (stops : Stops tier rest) : Takes ground tier (some x) rest x rest
  | chain {tier : Tier} {op : Operator} {lexemes middle rest : List Lexeme} {x y z : Phrase}
    (chained : tier.isChain = true) (joins : op.tier = tier)
    (second : Takes ground tier.next none lexemes y middle)
    (more : Takes ground tier (some (.joined op x y)) middle z rest) :
    Takes ground tier (some x) (.operator op :: lexemes) z rest

theorem Takes.unique {ground tier : Tier} {start : Option Phrase} {lexemes rest : List Lexeme}
    {x : Phrase} (takes : Takes ground tier start lexemes x rest) {y : Phrase}
    {other : List Lexeme} (takes' : Takes ground tier start lexemes y other) :
    x = y ∧ rest = other := by
  induction takes generalizing y other with
  | word text rest =>
    cases takes' with
    | word => exact ⟨rfl, rfl⟩
    | first chained => cases chained
  | group _ inner =>
    cases takes' with
    | group inner' =>
      obtain ⟨rfl, same⟩ := inner inner'
      cases same
      exact ⟨rfl, rfl⟩
    | first chained => cases chained
  | minus _ operand =>
    cases takes' with
    | minus operand' =>
      obtain ⟨rfl, rfl⟩ := operand operand'
      exact ⟨rfl, rfl⟩
    | plain base' => cases base' with | first chained => cases chained
    | power base' => cases base' with | first chained => cases chained
    | first chained => cases chained
  | plain taken stops base =>
    cases takes' with
    | minus => cases taken with | first chained => cases chained
    | plain base' => exact base base'
    | power base' =>
      obtain ⟨-, rfl⟩ := base base'
      exact absurd (stops _ _ rfl) (Nat.lt_irrefl _)
    | first chained => cases chained
  | power taken _ base exponent =>
    cases takes' with
    | minus => cases taken with | first chained => cases chained
    | plain base' stops =>
      obtain ⟨-, rfl⟩ := base base'
      exact absurd (stops _ _ rfl) (Nat.lt_irrefl _)
    | power base' exponent' =>
      obtain ⟨rfl, same⟩ := base base'
      cases same
      obtain ⟨rfl, rfl⟩ := exponent exponent'
      exact ⟨rfl, rfl⟩
    | first chained => cases chained
  | first chained _ _ start more =>
    cases takes' with
    | first _ start' more' =>
      obtain ⟨rfl, rfl⟩ := start start'
      exact more more'
    | word | group | minus | plain | power => cases chained
  | stop chained stops =>
    cases takes' with
    | stop => exact ⟨rfl, rfl⟩
    | chain _ joins => exact absurd (joins ▸ stops _ _ rfl) (Nat.lt_irrefl _)
  | chain _ joins _ _ second more =>
    cases takes' with
    | stop _ stops => exact absurd (joins ▸ stops _ _ rfl) (Nat.lt_irrefl _)
    | chain _ _ second' more' =>
      obtain ⟨rfl, rfl⟩ := second second'
      exact more more'

theorem Stops.mono {tier looser : Tier} (le : looser.rank ≤ tier.rank) {rest : List Lexeme}
    (stops : Stops looser rest) : Stops tier rest :=
  fun op behind starts => Nat.lt_of_lt_of_le (stops op behind starts) le

/-- What the reader does with lexemes of the tier. In a chain it may still go on behind them, since
chains grow to the right while they associate to the left. -/
def Readable (ground tier : Tier) (lexemes : List Lexeme) (x : Phrase) : Prop :=
  ∀ rest,
    (tier.isChain = false → Stops tier rest →
      Takes ground tier none (lexemes ++ rest) x rest) ∧
    (tier.isChain = true → Stops tier.next rest →
      ∀ z left, Takes ground tier (some x) rest z left →
        Takes ground tier none (lexemes ++ rest) z left)

theorem Readable.takes {ground tier : Tier} {lexemes : List Lexeme} {x : Phrase}
    (readable : Readable ground tier lexemes x) {rest : List Lexeme} (stops : Stops tier rest) :
    Takes ground tier none (lexemes ++ rest) x rest := by
  cases chained : tier.isChain with
  | false => exact (readable rest).1 chained stops
  | true =>
    have later := stops.mono (Nat.le_of_lt (Tier.rank_lt_next chained))
    exact (readable rest).2 chained later x rest (.stop chained stops)

/-- The reader finds every phrase that the grammar spells. -/
theorem Spells.readable {ground tier : Tier} {lexemes : List Lexeme} {x : Phrase}
    (spells : Spells ground tier lexemes x) : Readable ground tier lexemes x := by
  induction spells with
  | word text =>
    refine fun rest => ⟨fun _ _ => .word text rest, ?_⟩
    intro chained
    cases chained
  | @group lexemes x _ inner =>
    refine fun rest => ⟨fun _ _ => ?_, ?_⟩
    · have closed : Stops ground (.closing :: rest) := by
        intro op behind starts
        cases starts
      have taken := Takes.group (inner.takes closed)
      rw [List.append_cons] at taken
      exact taken
    · intro chained
      cases chained
  | @power left right x y _ _ base exponent =>
    refine fun rest => ⟨fun _ stops => ?_, ?_⟩
    · have tight : Stops .atom (.operator (.arithmetic .pow) :: (right ++ rest)) := by
        intro op behind starts
        cases starts
        decide
      have taken := Takes.power (base.takes tight) (exponent.takes stops)
      rw [List.append_assoc]
      exact taken
    · intro chained
      cases chained
  | minus _ operand =>
    refine fun rest => ⟨fun _ stops => .minus (operand.takes stops), ?_⟩
    intro chained
    cases chained
  | @chain tier op left right x y chained joins _ _ first second =>
    refine fun rest => ⟨fun unchained => ?_, fun _ stops z remains more => ?_⟩
    · rw [chained] at unchained
      cases unchained
    · have later : Stops tier.next (.operator op :: (right ++ rest)) := by
        intro op behind starts
        cases starts
        rw [joins]
        exact Tier.rank_lt_next chained
      have taken := (first _).2 chained later z remains
        (.chain chained joins (second.takes stops) more)
      rw [List.append_assoc]
      exact taken
  | @loosen tier lexemes x _ tighter =>
    cases tier with
    | comparison | sum | product =>
      refine fun rest => ⟨fun unchained => ?_, fun chained stops z remains more => ?_⟩
      · cases unchained
      · exact .first chained (tighter.takes stops) more
    | factor =>
      refine fun rest => ⟨fun _ stops => ?_, ?_⟩
      · exact .plain (tighter.takes (stops.mono (by decide))) stops
      · intro chained
        cases chained
    | atom => exact tighter

/-- The grammar is unambiguous. -/
theorem Spells.unique {ground tier : Tier} {lexemes : List Lexeme} {x y : Phrase}
    (first : Spells ground tier lexemes x) (second : Spells ground tier lexemes y) : x = y := by
  have ends : Stops tier [] := by
    intro op behind starts
    cases starts
  exact ((first.readable.takes ends).unique (second.readable.takes ends)).1

end FormulaNet
