/-
This file gives the built-in operations names of their own. They are all
applications of a registered operation; some fix an operand.
-/

import FormulaNet.Formula.Apply

namespace FormulaNet.Program

variable (o : Options)

/-! ### Any number of operands -/

def add (operands : List Operand) : Program Reference := apply o "add" operands

def sub (operands : List Operand) : Program Reference := apply o "sub" operands

def sum (operands : List Operand) : Program Reference := apply o "sum" operands

def average (operands : List Operand) : Program Reference := apply o "average" operands

/-- One of several inputs, chosen by a selector. -/
def choice (inputs : List Operand) (selector : Operand) : Program Reference :=
  apply o "choice" (inputs ++ [selector])

/-! ### Fixed operands -/

def mul (a b : Operand) : Program Reference := apply o "mul" [a, b]

def div (a b : Operand) : Program Reference := apply o "div" [a, b]

def pow (base exponent : Operand) : Program Reference := apply o "pow" [base, exponent]

def neg (a : Operand) : Program Reference := mul o a (.number (-1))

/-- The test node of a comparison. -/
def compare (op : Comparison) (a b : Operand) : Program Reference := apply o op.name [a, b]

def blend (a b weight : Operand) : Program Reference := apply o "blend" [a, b, weight]

def length (a b : Operand) : Program Reference := apply o "length" [a, b]

def clamp (v min max : Operand) : Program Reference := apply o "clamp" [v, min, max]

def remap (v min max oldMin oldMax : Operand) : Program Reference :=
  apply o "remap" [v, min, max, oldMin, oldMax]

def dot (a b normalize : Operand) : Program Reference := apply o "dot" [a, b, normalize]

def cross (a b normalize : Operand) : Program Reference := apply o "cross" [a, b, normalize]

def reverse (v : Operand) : Program Reference := apply o "reverse" [v]

def angleBetween (a b : Operand) : Program Reference := apply o "angle_between" [a, b]

/-! ### Fixed values -/

/-- The distance from the origin. -/
def magnitude (a : Operand) : Program Reference := length o a (.number 0)

def midpoint (a b : Operand) : Program Reference := blend o a b (.number 0.5)

/-- A value held between zero and one. -/
def saturate (v : Operand) : Program Reference := clamp o v (.number 0) (.number 1)

end FormulaNet.Program
