/-
This file writes numbers. The text of a double is the shortest decimal that
reads back, always in positional notation: no exponent, no trailing point or
zero, a minus sign kept on negative zero. The reals that round to `m * 2 ^ q`
form an interval around it, whose ends belong to it exactly when `m` is even. On
the grid of decimals with `n` significant digits only the two neighbours of the
value need a look: if any grid point lies in the interval, one of them does. The
first grid with a hit wins, of two hits the nearer, and of two equally near the
larger. All comparisons are between natural numbers.
-/

import FormulaNet.Number.Basic

namespace FormulaNet.Number

/-! ### The shortest decimal -/

/-- A decimal `digits * 10 ^ exponent`. -/
structure Decimal where
  digits : Nat
  exponent : Int
  deriving DecidableEq

/-- How many decimal digits a number is written with. -/
def digitCount (n : Nat) : Nat := (Nat.toDigits 10 n).length

/-- The power `k` with `10 ^ (k - 1) ≤ m * 2 ^ q < 10 ^ k`. The value is scaled by `10 ^ 400`, which
makes every double at least one, and its digits are counted. -/
def decimalPoint (m : Nat) (q : Int) : Int :=
  (digitCount (wholePart (m * Nat.pow 10 400) q) : Int) - 400

/-- A double with its rounding interval, in quarters of its last place: the value is
`4 * mantissa`, the interval runs from `4 * mantissa - below` to `4 * mantissa + 2`. Below a power
of two the doubles are twice as dense, so there the lower half is narrower. -/
structure Rounded where
  mantissa : Nat
  exponent : Int
  below : Nat

/-- The rounding interval of `m * 2 ^ q`. -/
def rounded (m : Nat) (q : Int) : Rounded :=
  ⟨m, q, if m = leadingBit ∧ leastExponent < q then 1 else 2⟩

/-- The neighbours of a value on one decimal grid: `4 * mantissa * up / down` in units of the
grid, with the interval around it. -/
structure Grid where
  value : Nat
  low : Nat
  high : Nat
  unit : Nat
  closed : Bool

/-- The grid of multiples of `10 ^ p`, both sides brought to a common denominator. -/
def Rounded.grid (r : Rounded) (p : Int) : Grid :=
  let up := Nat.pow 10 (-p).toNat <<< (r.exponent - 2).toNat
  let down := Nat.pow 10 p.toNat <<< (2 - r.exponent).toNat
  ⟨4 * r.mantissa * up, (4 * r.mantissa - r.below) * up, (4 * r.mantissa + 2) * up, down,
    r.mantissa % 2 == 0⟩

/-- Whether the grid point `s` reads back as the value. -/
def Grid.holds (g : Grid) (s : Nat) : Bool :=
  if g.closed then decide (g.low ≤ s * g.unit ∧ s * g.unit ≤ g.high)
  else decide (g.low < s * g.unit ∧ s * g.unit < g.high)

/-- The grid point that reads back as the value and is nearest to it, if there is one. -/
def Grid.pick? (g : Grid) : Option Nat :=
  let s := g.value / g.unit
  match g.holds s, g.holds (s + 1) with
  | true, true => some (if g.value - s * g.unit < (s + 1) * g.unit - g.value then s else s + 1)
  | true, false => some s
  | false, true => some (s + 1)
  | false, false => none

/-- Trailing zeros moved into the exponent. At most as many as there are digits. -/
def Decimal.trimmed (d : Decimal) : Decimal :=
  go (digitCount d.digits) d.digits d.exponent
where
  /-- Drops up to `steps` trailing zeros. -/
  go : Nat → Nat → Int → Decimal
    | 0, digits, exponent => ⟨digits, exponent⟩
    | steps + 1, digits, exponent =>
      if digits ≠ 0 ∧ digits % 10 = 0 then go steps (digits / 10) (exponent + 1)
      else ⟨digits, exponent⟩

/-- The shortest decimal that reads back as `m * 2 ^ q`, for a positive `m`. Seventeen digits
always suffice, so the last arm only closes the search. -/
def shortest (m : Nat) (q : Int) : Decimal :=
  let point := decimalPoint m q
  let found := (List.range 17).findSome? fun n =>
    let p := point - (n + 1 : Nat)
    ((rounded m q).grid p).pick?.map fun digits => (⟨digits, p⟩ : Decimal)
  (found.getD ⟨m, q⟩).trimmed

/-! ### Texts -/

/-- A decimal in positional notation. -/
def Decimal.positional (d : Decimal) : String :=
  let digits := Nat.toDigits 10 d.digits
  if 0 ≤ d.exponent then String.ofList (digits ++ List.replicate d.exponent.toNat '0')
  else
    let places := (-d.exponent).toNat
    let padded := List.replicate (places + 1 - digits.length) '0' ++ digits
    let split := padded.length - places
    String.ofList (padded.take split ++ '.' :: padded.drop split)

/-- The text of a number. -/
def text (v : Float) : String :=
  match parts v with
  | .nan => "NaN"
  | .infinite negative => if negative then "-inf" else "inf"
  | .finite negative mantissa exponent =>
    let magnitude := if mantissa = 0 then "0" else (shortest mantissa exponent).positional
    if negative then "-" ++ magnitude else magnitude

end FormulaNet.Number
