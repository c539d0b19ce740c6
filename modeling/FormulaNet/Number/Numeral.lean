/-
This file reads decimal numerals. A numeral is kept as it was written (sign,
digits before and after the point, exponent), and there are two ways to turn it
into a double. `Numeral.nearest` gives the double nearest to it.
`Numeral.scaled?` takes the leading digits that fit into a 64-bit word and
scales them by a power of ten in double arithmetic, which is how numbers inside
JSON texts are read; there a numeral beyond the largest double is refused.
-/

import FormulaNet.Number.Text

namespace FormulaNet.Number

/-- A decimal numeral as written. A missing point and a missing exponent are told apart from empty
ones, because integers are numerals with neither. -/
structure Numeral where
  negative : Bool
  whole : List Char
  fraction : Option (List Char)
  exponent : Option (Bool × List Char)
  deriving DecidableEq

/-- The value of one decimal digit. -/
def digitValue (c : Char) : Nat := c.toNat - '0'.toNat

/-- The number a list of digits writes. -/
def digitsValue (cs : List Char) : Nat :=
  cs.foldl (fun n c => 10 * n + digitValue c) 0

/-! ### Scanning -/

/-- Takes an optional sign off the front: whether it is a minus, and the rest. -/
def scanSign : List Char → Bool × List Char
  | '-' :: rest => (true, rest)
  | '+' :: rest => (false, rest)
  | rest => (false, rest)

/-- Takes an exponent off the front, if one stands there. An `e` that no digit follows is
malformed. -/
def scanExponent : List Char → Option (Option (Bool × List Char) × List Char)
  | c :: rest =>
    if c = 'e' ∨ c = 'E' then
      let (negative, digits) := scanSign rest
      match digits.span Char.isDigit with
      | ([], _) => none
      | (ds, rest') => some (some (negative, ds), rest')
    else some (none, c :: rest)
  | [] => some (none, [])

/-- Takes a point and the digits behind it off the front, if a point stands there. -/
def scanFraction : List Char → Option (List Char) × List Char
  | '.' :: rest =>
    let (ds, rest') := rest.span Char.isDigit
    (some ds, rest')
  | rest => (none, rest)

/-- Takes the longest numeral off the front. -/
def Numeral.scan? (cs : List Char) : Option (Numeral × List Char) :=
  let (negative, cs) := scanSign cs
  let (whole, cs) := cs.span Char.isDigit
  let (fraction, cs) := scanFraction cs
  (scanExponent cs).map fun (exponent, cs) => (⟨negative, whole, fraction, exponent⟩, cs)

/-! ### The nearest double -/

/-- The exponent as a number. -/
def Numeral.power (n : Numeral) : Int :=
  match n.exponent with
  | none => 0
  | some (true, ds) => -(digitsValue ds)
  | some (false, ds) => digitsValue ds

/-- The nearest double to `digits * 10 ^ exponent`. Far outside the range of doubles the answer is
known without forming the power. -/
def nearest (digits : Nat) (exponent : Int) : Float :=
  let point := digitCount digits + exponent
  if digits = 0 ∨ point < -400 then 0
  else if 400 < point then 1 / 0
  else Float.ofScientific digits (decide (exponent < 0)) exponent.natAbs

/-- The nearest double to a numeral. -/
def Numeral.nearest (n : Numeral) : Float :=
  let fraction := n.fraction.getD []
  let magnitude := Number.nearest (digitsValue (n.whole ++ fraction)) (n.power - fraction.length)
  if n.negative then -magnitude else magnitude

/-- Reads a number text: a numeral with a digit somewhere before its exponent, or the name of an
infinity or of NaN in any case. -/
def read? (text : String) : Option Float :=
  let (negative, name) := scanSign text.toList
  match String.ofList (name.map Char.toLower) with
  | "nan" => some (0 / 0)
  | "inf" | "infinity" => some (if negative then -1 / 0 else 1 / 0)
  | _ =>
    match Numeral.scan? text.toList with
    | some (n, []) => if n.whole = [] ∧ n.fraction.getD [] = [] then none else some n.nearest
    | _ => none

/-! ### Scaled reading -/

/-- The largest 64-bit word. -/
def largestWord : Nat := 0xffffffffffffffff

/-- Reads digits onto `n` for as long as the result fits into a 64-bit word: the word, and how many
digits were left over. -/
def takeWord (n : Nat) : List Char → Nat × Nat
  | [] => (n, 0)
  | c :: cs =>
    if 10 * n + digitValue c ≤ largestWord then takeWord (10 * n + digitValue c) cs
    else (n, cs.length + 1)

/-- `f / 10 ^ n`, in steps small enough that every divisor is a double. -/
def divideByPower (f : Float) (n : Nat) : Float :=
  if n ≤ 308 then f / Float.ofScientific 1 false n
  else if f == 0 then f
  else divideByPower (f / Float.ofScientific 1 false 308) (n - 308)
termination_by n

/-- `f * 10 ^ n`, unless that is beyond the largest double. -/
def multiplyByPower? (f : Float) (n : Nat) : Option Float :=
  if n ≤ 308 then
    let product := f * Float.ofScientific 1 false n
    if product.isInf then none else some product
  else if f == 0 then some f
  else none

/-- Scaled reading of a numeral. Digits of the whole part that do not fit into the word count as
zeros, digits of the fraction that do not fit are dropped. -/
def Numeral.scaled? (n : Numeral) : Option Float :=
  let (head, dropped) := takeWord 0 n.whole
  let fraction := n.fraction.getD []
  let (significand, left) := takeWord head fraction
  let exponent : Int := n.power + dropped - (fraction.length - left : Nat)
  let magnitude? :=
    if 0 ≤ exponent then multiplyByPower? (Float.ofNat significand) exponent.toNat
    else some (divideByPower (Float.ofNat significand) exponent.natAbs)
  magnitude?.map fun magnitude => if n.negative then -magnitude else magnitude

/-- The integer a numeral writes, if it has neither point nor exponent. A minus before zero makes
it a number that is no integer. -/
def Numeral.integer? (n : Numeral) : Option Int :=
  if n.fraction.isSome ∨ n.exponent.isSome then none
  else
    let magnitude := digitsValue n.whole
    if n.negative then if magnitude = 0 then none else some (-magnitude) else some magnitude

end FormulaNet.Number
