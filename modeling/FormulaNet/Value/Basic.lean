/-
This file holds values with their history. A value carries the expression that
made it, and whether it was written by hand. Combining values combines their
payloads and their expressions: sums are strung together as they are, every
other operator puts its operands in parentheses unless they are made of letters,
digits, points and blanks only. In a JSON text a payload is recognised by its
form: a truth value, a number or an array of numbers.
-/

import FormulaNet.Json.Reader
import FormulaNet.Value.Primitive

namespace FormulaNet

structure Value where
  payload : Primitive
  expression : String
  authored : Bool
  deriving DecidableEq

namespace Value

/-- A value written by hand: its expression is its own text. -/
def ofPrimitive (p : Primitive) : Value := ⟨p, p.text, true⟩

def ofNumber (v : Float) : Value := ofPrimitive (.number v)

/-- The text of a value is that of its payload. -/
def text (v : Value) : String := v.payload.text

def scalar? (v : Value) : Option Float := v.payload.scalar?

/-! ### Expressions -/

/-- Characters that need no parentheses around them. -/
def isPlain (c : Char) : Bool := c.isAlphanum || Text.isBlank c || c == '.'

/-- An expression made safe to stand beside an operator. -/
def parenthesize (expression : String) : String :=
  if expression.toList.all isPlain then expression else "(" ++ expression ++ ")"

/-- The expression of two operands joined by an operator. -/
def joinExpressions (op : Operator) (left right : String) : String :=
  if op.isAssociative then left ++ " " ++ op.symbol ++ " " ++ right
  else parenthesize left ++ " " ++ op.symbol ++ " " ++ parenthesize right

/-! ### Operators -/

/-- The payload of two values joined by an operator. -/
def combinePayloads (op : Operator) (a b : Primitive) : Except Primitive.LengthMismatch Primitive :=
  match op with
  | .arithmetic op => Primitive.combine op a b
  | .comparison op => .ok (.bool (op.holds (a.compare? b)))

/-- Two values joined by an operator. -/
def combine (op : Operator) (a b : Value) : Except Primitive.LengthMismatch Value :=
  (combinePayloads op a.payload b.payload).map fun payload =>
    ⟨payload, joinExpressions op a.expression b.expression, false⟩

def negate (v : Value) : Value :=
  ⟨v.payload.negate, "-" ++ parenthesize v.expression, false⟩

/-! ### Equality -/

/-- Whether two values agree in payload, expression and authorship. -/
def same (a b : Value) : Bool :=
  a.payload.same b.payload && a.expression == b.expression && a.authored == b.authored

/-- Whether a value equals a payload. A number is compared with any scalar, a truth value only with
truth values. -/
def isPrimitive (v : Value) : Primitive → Bool
  | .number x => match v.scalar? with
    | some y => y == x
    | none => false
  | p => v.payload.same p

/-- Several reads as one value: one read is itself, any other number of them is a list. -/
def collect : List Value → Value
  | [v] => v
  | vs => ⟨.list (vs.flatMap (·.payload.numbers)), Text.bracketed (vs.map (·.expression)), false⟩

end Value

/-! ### Values in JSON texts -/

open Json

def Primitive.ofJson? : Json → Option Primitive
  | .bool b => some (.bool b)
  | .number n => n.scaled?.map .number
  | .array items => (items.mapM float?).map .list
  | _ => none

def Value.ofJson? (j : Json) : Option Value :=
  match fields? ["value", "expression", "user_authored"] j with
  | some [payload, expression, authored] => do
    pure ⟨← required? Primitive.ofJson? payload, ← required? string? expression,
      ← required? bool? authored⟩
  | _ => none

/-- The value a text describes. -/
def Value.read? (text : String) : Option Value := (Json.read? text).bind Value.ofJson?

end FormulaNet
