/-
This file holds what formulas are written with. An operand is a number, a value,
the path of a plug, a node with some of its attributes, a wrapped literal, or a
list of operands. A reference is what an operation returns and what attributes
are taken from: a node with attributes, or a literal.
-/

import FormulaNet.Plug
import FormulaNet.Value.Basic

namespace FormulaNet

/-- The attributes a reference picks on its node: none, one, or a list of them. -/
inductive Attrs where
  | bare
  | one (name : String)
  | many (names : List String)
  deriving DecidableEq

inductive Operand where
  | number (v : Float)
  | value (v : Value)
  | path (plug : String)
  | node (name : String) (attrs : Attrs)
  | literal (payload : Operand)
  | list (items : List Operand)

inductive Reference where
  | literal (payload : Operand)
  | node (name : String) (attrs : Attrs)

/-- The plugs that attributes make on a node. -/
def Attrs.plugs? (node : String) : Attrs → Option (List String)
  | bare => none
  | one name => some [Plug.join node name]
  | many names => some (names.map (Plug.join node))

/-- The text of a node with attributes. -/
def Attrs.text (node : String) : Attrs → String
  | bare => node
  | one name => Plug.join node name
  | many names => Text.bracketed (names.map (Plug.join node))

/-! ### Operands -/

namespace Operand

/-- Truth values stand for one and zero. -/
def ofBool (b : Bool) : Operand := number (if b then 1 else 0)

mutual

/-- The text of an operand. -/
def text : Operand → String
  | number v => Number.text v
  | value v => v.expression
  | path plug => plug
  | node name attrs => attrs.text name
  | literal payload => payload.text
  | list items => Text.bracketed (texts items)

/-- The texts of several operands. -/
def texts : List Operand → List String
  | [] => []
  | item :: rest => item.text :: texts rest

end

mutual

/-- Whether two operands are equal, with numbers compared as numbers. -/
def same : Operand → Operand → Bool
  | number a, number b => a == b
  | value a, value b => a.same b
  | path a, path b => a == b
  | node a as, node b bs => a == b && as == bs
  | literal a, literal b => a.same b
  | list as, list bs => sameAll as bs
  | _, _ => false

/-- Whether two lists of operands are equal item by item. -/
def sameAll : List Operand → List Operand → Bool
  | [], [] => true
  | a :: as, b :: bs => a.same b && sameAll as bs
  | _, _ => false

end

end Operand

/-! ### References -/

namespace Reference

def toOperand : Reference → Operand
  | literal payload => .literal payload
  | node name attrs => .node name attrs

/-- A plug text gives a node with one attribute, any other text a bare node. -/
def parse (path : String) : Reference :=
  match Plug.split? path with
  | some (name, attr) => node name (.one attr)
  | none => node path .bare

def text (r : Reference) : String := r.toOperand.text

/-- The node a reference names. -/
def target? : Reference → Option String
  | node name _ => some name
  | literal _ => none

def plugs? : Reference → Option (List String)
  | node name attrs => attrs.plugs? name
  | literal _ => none

/-- The same node with one attribute. A literal forgets itself for the bare attribute name. -/
def attr (r : Reference) (name : String) : Reference :=
  match r with
  | node n _ => node n (.one name)
  | literal _ => literal (.path name)

/-- The same node with several attributes. -/
def attrs (r : Reference) (names : List String) : Reference :=
  match r with
  | node n _ => node n (.many names)
  | literal _ => literal (.list (names.map .path))

/-- The number of elements. -/
def length : Reference → Nat
  | node _ .bare => 0
  | node _ (.one _) => 1
  | node _ (.many names) => names.length
  | literal (.list items) => items.length
  | literal _ => 1

def isEmpty (r : Reference) : Bool := r.length == 0

/-- One element. -/
def get? (r : Reference) (i : Nat) : Option Reference :=
  match r with
  | node _ .bare => none
  | node _ (.one _) => if i = 0 then some r else none
  | node n (.many names) => names[i]?.map fun name => node n (.one name)
  | literal (.list items) => items[i]?.map literal
  | literal _ => if i = 0 then some r else none

def same (a b : Reference) : Bool := a.toOperand.same b.toOperand

end Reference

end FormulaNet
