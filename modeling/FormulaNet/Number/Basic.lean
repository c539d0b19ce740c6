/-
This file opens a double into its parts and compares numbers. A finite double is
`± mantissa * 2 ^ exponent` with a natural mantissa, so whole-number questions
about it (is it integral, what does it truncate to) are answered in exact integer
arithmetic, without rounding. NaN stands in no order to anything, so a comparison
may have no answer. Lists compare like words in a dictionary, over any comparison
of their elements.
-/

namespace FormulaNet.Number

/-- What a double stands for: not a number, an infinity, or `± mantissa * 2 ^ exponent`. -/
inductive Parts where
  | nan
  | infinite (negative : Bool)
  | finite (negative : Bool) (mantissa : Nat) (exponent : Int)
  deriving DecidableEq

/-- The least exponent: every double below the normal range has it. -/
def leastExponent : Int := -1074

/-- The least mantissa of a double in the normal range: the bit above the 52 fraction bits. -/
def leadingBit : Nat := 0x10000000000000

/-- Reads the sign, the eleven exponent bits and the 52 fraction bits. -/
def parts (v : Float) : Parts :=
  let bits := v.toBits.toNat
  let negative := decide (0x8000000000000000 ≤ bits)
  let scale : Nat := bits / leadingBit % 0x800
  let fraction := bits % leadingBit
  if scale = 2047 then
    if fraction = 0 then .infinite negative else .nan
  else if scale = 0 then .finite negative fraction leastExponent
  else .finite negative (fraction + leadingBit) ((scale : Int) - 1075)

/-! ### Whole numbers -/

/-- `mantissa * 2 ^ exponent` without its fraction. -/
def wholePart (mantissa : Nat) (exponent : Int) : Nat :=
  if 0 ≤ exponent then mantissa <<< exponent.toNat
  else mantissa >>> (-exponent).toNat

/-- Whether `mantissa * 2 ^ exponent` is a whole number. -/
def isWhole (mantissa : Nat) (exponent : Int) : Bool :=
  decide (0 ≤ exponent) || mantissa % (1 <<< (-exponent).toNat) == 0

/-- The least signed 64-bit word. -/
def leastSigned : Int := -0x8000000000000000

/-- The greatest signed 64-bit word. -/
def greatestSigned : Int := 0x7fffffffffffffff

/-- A whole number brought into the range of signed 64-bit words. -/
def clampToWord (i : Int) : Int :=
  max leastSigned (min greatestSigned i)

/-- The token of a number in a node name: the whole part, held inside the signed 64-bit range,
with a trailing `f` where a fraction was dropped. Infinities and NaN have none and read `nan`. -/
def token (v : Float) : String :=
  match parts v with
  | .finite negative mantissa exponent =>
    let whole : Int := wholePart mantissa exponent
    let text := toString (clampToWord (if negative then -whole else whole))
    if isWhole mantissa exponent then text else text ++ "f"
  | _ => "nan"

/-! ### Comparisons -/

/-- How two numbers stand to each other, if they do. -/
def compare? (a b : Float) : Option Ordering :=
  if a < b then some .lt else if a == b then some .eq else if b < a then some .gt else none

/-- How two lists stand to each other: as their first elements that are not equal, and where one
list continues the other, as their lengths. -/
def compareLists? {α : Type} (cmp : α → α → Option Ordering) : List α → List α → Option Ordering
  | [], [] => some .eq
  | [], _ :: _ => some .lt
  | _ :: _, [] => some .gt
  | a :: as, b :: bs =>
    match cmp a b with
    | some .eq => compareLists? cmp as bs
    | order => order

/-- Whether two lists of numbers are equal element by element. -/
def sameLists : List Float → List Float → Bool
  | [], [] => true
  | a :: as, b :: bs => a == b && sameLists as bs
  | _, _ => false

end FormulaNet.Number
