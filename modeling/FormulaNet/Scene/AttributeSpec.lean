/-
This file describes user attributes: their kind, how they are presented, their
range and default, and a value to set once they are there. A scene keeps the
default only; the rest shows in traces.
-/

import FormulaNet.Number.Text

namespace FormulaNet

inductive AttributeKind where
  | float
  | int
  | bool
  | enum (cases : List String)
  deriving DecidableEq

def AttributeKind.name : AttributeKind → String
  | float => "float"
  | int => "long"
  | bool => "bool"
  | enum _ => "enum"

structure AttributeSpec where
  kind : AttributeKind := .float
  niceName : Option String := none
  keyable : Bool := true
  min : Option Float := none
  max : Option Float := none
  default : Float := 0
  value : Option Float := none
  deriving DecidableEq

namespace AttributeSpec

/-- The flags that a trace lists. A default of zero goes without saying. -/
def flags (spec : AttributeSpec) : List String :=
  ["attribute_type='" ++ spec.kind.name ++ "'",
    "keyable=" ++ (if spec.keyable then "True" else "False")] ++
  (match spec.kind with
    | .enum cases => ["enum_name='" ++ ":".intercalate cases ++ "'"]
    | _ => []) ++
  (spec.niceName.map fun name => "nice_name='" ++ name ++ "'").toList ++
  (spec.min.map fun v => "min_value=" ++ Number.text v).toList ++
  (spec.max.map fun v => "max_value=" ++ Number.text v).toList ++
  (if spec.default == 0 then [] else ["default_value=" ++ Number.text spec.default])

end AttributeSpec

end FormulaNet
