/-
This file makes up names for the nodes of operations: the chosen beginning, the
operation in capitals, a token for each operand, and the type of the node,
joined by underscores.
-/

import FormulaNet.Operation.Basic
import FormulaNet.Options
import FormulaNet.Reference.Basic

namespace FormulaNet

/-- The token of a node with attributes. Only a single attribute gives one away. -/
def Attrs.token : Attrs → String
  | one name => Plug.lastSegment name
  | many [name] => Plug.lastSegment name
  | _ => "Node"

/-- The token of a value. -/
def Value.token (v : Value) : String :=
  match v.scalar? with
  | some x => Number.token x
  | none => "list"

/-- The token of an operand. A list of one item is named after the item. -/
def Operand.token : Operand → String
  | number v => Number.token v
  | value v => v.token
  | path plug => Plug.lastSegment plug
  | node _ attrs => attrs.token
  | literal payload => payload.token
  | list [item] => item.token
  | list _ => "list"

/-- ASCII letters in capitals. The names of the built-in operations hold no others. -/
def capitals (name : String) : String := String.ofList (name.toList.map Char.toUpper)

/-- The name requested for the node of an operation. -/
def Operation.nodeName (o : Options) (op : Operation) (operands : List Operand) : String :=
  Plug.sanitize ("_".intercalate
    (o.namePrefix :: capitals op.name :: (operands.map Operand.token ++ [op.nodeType])))

end FormulaNet
