/-
This file holds the payloads of values: truth values, numbers and lists of
numbers. A truth value counts as one or zero. Arithmetic spreads a scalar over a
list and takes two lists element by element if they are equally long. Two
scalars compare as numbers, two lists by their first elements that are not equal
and then by length; a scalar and a list do not compare at all.
-/

import FormulaNet.Number.Text
import FormulaNet.Text.Basic
import FormulaNet.Value.Operator

namespace FormulaNet

inductive Primitive where
  | bool (b : Bool)
  | number (v : Float)
  | list (vs : List Float)
  deriving DecidableEq

namespace Primitive

/-- The number of a scalar. -/
def scalar? : Primitive → Option Float
  | bool b => some (if b then 1 else 0)
  | number v => some v
  | list _ => none

/-- The numbers of a payload, one for a scalar. -/
def numbers : Primitive → List Float
  | bool b => [if b then 1 else 0]
  | number v => [v]
  | list vs => vs

def text : Primitive → String
  | bool b => if b then "true" else "false"
  | number v => Number.text v
  | list vs => Text.bracketed (vs.map Number.text)

/-! ### Arithmetic -/

/-- Two lists of different lengths that were to be combined. -/
structure LengthMismatch where
  op : Arithmetic
  left : List Float
  right : List Float
  deriving DecidableEq

def combine (op : Arithmetic) (a b : Primitive) : Except LengthMismatch Primitive :=
  match a.scalar?, b.scalar? with
  | some x, some y => .ok (number (op.apply x y))
  | some x, none => .ok (list (b.numbers.map fun y => op.apply x y))
  | none, some y => .ok (list (a.numbers.map fun x => op.apply x y))
  | none, none =>
    if a.numbers.length = b.numbers.length then
      .ok (list (List.zipWith op.apply a.numbers b.numbers))
    else .error ⟨op, a.numbers, b.numbers⟩

/-- The payload with its sign turned. -/
def negate : Primitive → Primitive
  | bool b => number (-(if b then 1 else 0))
  | number v => number (-v)
  | list vs => list (vs.map fun v => -v)

/-! ### Order -/

/-- How two payloads stand to each other under a comparison of numbers. -/
def compareBy? (cmp : Float → Float → Option Ordering) (a b : Primitive) : Option Ordering :=
  match a.scalar?, b.scalar? with
  | some x, some y => cmp x y
  | none, none => Number.compareLists? cmp a.numbers b.numbers
  | _, _ => none

def compare? (a b : Primitive) : Option Ordering := compareBy? Number.compare? a b

/-- Whether two payloads are of one kind and hold equal numbers. -/
def same : Primitive → Primitive → Bool
  | bool a, bool b => a == b
  | number a, number b => a == b
  | list as, list bs => Number.sameLists as bs
  | _, _ => false

end Primitive

end FormulaNet
