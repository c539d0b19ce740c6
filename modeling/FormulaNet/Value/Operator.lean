/-
This file names the operators that combine values: five of arithmetic and six
comparisons. They are kept apart because arithmetic can fail and gives numbers,
while a comparison always gives a truth value.
-/

namespace FormulaNet

inductive Arithmetic where
  | add | sub | mul | div | pow
  deriving DecidableEq

inductive Comparison where
  | eq | ne | gt | ge | lt | le
  deriving DecidableEq

inductive Operator where
  | arithmetic (op : Arithmetic)
  | comparison (op : Comparison)
  deriving DecidableEq

namespace Arithmetic

def symbol : Arithmetic → String
  | add => "+"
  | sub => "-"
  | mul => "*"
  | div => "/"
  | pow => "**"

def name : Arithmetic → String
  | add => "add"
  | sub => "sub"
  | mul => "mul"
  | div => "div"
  | pow => "pow"

/-- The operation on numbers. -/
def apply : Arithmetic → Float → Float → Float
  | add, a, b => a + b
  | sub, a, b => a - b
  | mul, a, b => a * b
  | div, a, b => a / b
  | pow, a, b => Float.pow a b

end Arithmetic

namespace Comparison

def symbol : Comparison → String
  | eq => "=="
  | ne => "!="
  | gt => ">"
  | ge => ">="
  | lt => "<"
  | le => "<="

def name : Comparison → String
  | eq => "eq"
  | ne => "ne"
  | gt => "gt"
  | ge => "ge"
  | lt => "lt"
  | le => "le"

/-- Whether a comparison holds of two things that stand in a given order, or in none. -/
def holds : Comparison → Option Ordering → Bool
  | eq, order => order == some .eq
  | ne, order => order != some .eq
  | gt, order => order == some .gt
  | ge, order => order == some .gt || order == some .eq
  | lt, order => order == some .lt
  | le, order => order == some .lt || order == some .eq

end Comparison

namespace Operator

def symbol : Operator → String
  | arithmetic op => op.symbol
  | comparison op => op.symbol

def name : Operator → String
  | arithmetic op => op.name
  | comparison op => op.name

/-- Whether operands may be strung together without parentheses. -/
def isAssociative : Operator → Bool
  | arithmetic .add => true
  | _ => false

def all : List Operator :=
  [.add, .sub, .mul, .div, .pow].map arithmetic ++ [.eq, .ne, .gt, .ge, .lt, .le].map comparison

/-- The operator of a name. -/
def ofName? (name : String) : Option Operator := all.find? (·.name = name)

end Operator

end FormulaNet
