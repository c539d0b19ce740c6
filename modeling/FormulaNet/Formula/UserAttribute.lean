/-
This file adds user attributes to nodes. Blanks in a name become underscores,
and an attribute that is already there is left alone. Separators are attributes
of their own: numbered, shown as a line, and holding nothing.
-/

import FormulaNet.Wiring.Basic

namespace FormulaNet

/-- A name without plain blanks. -/
def attributeName (name : String) : String :=
  String.ofList (name.toList.map fun c => if c = ' ' then '_' else c)

/-- The N-th separator. -/
def separatorName (n : Nat) : String := "channelBoxSeparator" ++ toString n

/-- The line that a separator shows. -/
def separatorLabel : String := "________"

def separatorSpec : AttributeSpec :=
  { kind := .enum [separatorLabel], niceName := some separatorLabel, keyable := false }

/-- The number of attributes of all nodes together. -/
def Scene.attributeCount (s : Scene) : Nat := (s.nodes.flatMap (·.layout)).length

/-- The first separator that a node does not have. No two separators are one attribute, so with one
number more to try than there are attributes, one of them is free. -/
def Scene.freeSeparator (s : Scene) (node : String) : String :=
  let names := (List.range (s.attributeCount + 1)).map fun k => separatorName (k + 1)
  (names.find? fun name => !s.has (Plug.join node name)).getD "channelBoxSeparator"

namespace Program

/-- Adds an attribute to a node and sets its value, unless it is there already. -/
def addUserAttribute (o : Options) (node name : String) (spec : AttributeSpec) :
    Program Reference := do
  let name := attributeName name
  let plug := Plug.join node name
  let result := Reference.parse plug
  if (← scene).has plug then
    warn .attributeExists
    pure result
  else
    addAttribute node name spec
    match spec.value with
    | none => pure ()
    | some v => setOrConnect o result.toOperand (.number v)
    pure result

/-- The node that attributes are added to. -/
def owner (r : Reference) : Program String :=
  match r.target? with
  | some node => pure node
  | none => throw (.literalOwner r.text)

/-- Adds an attribute to the node of a reference. -/
def addAttributeTo (o : Options) (r : Reference) (name : String) (spec : AttributeSpec) :
    Program Reference := do
  addUserAttribute o (← owner r) name spec

/-- Adds the next separator to the node of a reference. -/
def addSeparator (o : Options) (r : Reference) : Program Reference := do
  let node ← owner r
  let name := (← scene).freeSeparator node
  addUserAttribute o node name separatorSpec

end Program

end FormulaNet
