/-
This file takes operands apart into channels, the single strands that are wired.
A channel is a number, perhaps with the expression it came from, or the text of
a plug. A compound plug falls into its children, a list into the channels of its
items.
-/

import FormulaNet.Error
import FormulaNet.Reference.Basic
import FormulaNet.Scene.Basic

namespace FormulaNet

inductive Channel where
  | literal (value : Float) (expression : Option String)
  | plug (text : String)
  deriving DecidableEq

namespace Channel

def ofNumber (v : Float) : Channel := literal v none

def plug? : Channel → Option String
  | plug text => some text
  | literal .. => none

def isLiteral : Channel → Bool
  | literal .. => true
  | plug _ => false

/-- A literal is written as its expression, or as its number if it has none. -/
def text : Channel → String
  | literal _ (some expression) => expression
  | literal v none => Number.text v
  | plug p => p

end Channel

/-- The channels of a value. Only a scalar carries its expression along. -/
def Value.channels (v : Value) : List Channel :=
  match v.payload.scalar? with
  | some x => [.literal x (some v.expression)]
  | none => v.payload.numbers.map .ofNumber

namespace Scene

/-- The channels of a plug: its children if it is a compound, else itself. -/
def plugChannels (s : Scene) (plug : String) : List Channel :=
  match Plug.split? plug with
  | some (node, attr) =>
    match s.children? node attr with
    | some children => children.map fun c => .plug (Plug.join node c)
    | none => [.plug plug]
  | none => [.plug plug]

/-- The channels of a node with attributes. -/
def attrsChannels (s : Scene) (node : String) (attrs : Attrs) : Except Error (List Channel) :=
  match attrs.plugs? node with
  | some plugs => .ok (plugs.flatMap s.plugChannels)
  | none => .error (.bareWiring node)

mutual

/-- The channels of an operand. A path must be an existing plug, a node with attributes is taken at
its word. -/
def unravel (s : Scene) : Operand → Except Error (List Channel)
  | .number v => .ok [.ofNumber v]
  | .value v => .ok v.channels
  | .path plug =>
    if (Plug.split? plug).isSome ∧ s.has plug then .ok (s.plugChannels plug)
    else .error (.notPlug plug)
  | .node name attrs => s.attrsChannels name attrs
  | .literal payload => s.unravel payload
  | .list items => s.unravelAll items

/-- The channels of several operands, one after the other. -/
def unravelAll (s : Scene) : List Operand → Except Error (List Channel)
  | [] => .ok []
  | item :: rest =>
    match s.unravel item with
    | .error e => .error e
    | .ok channels => (s.unravelAll rest).map (channels ++ ·)

end

/-- The channels of each of several operands. -/
def unravelEach (s : Scene) : List Operand → Except Error (List (List Channel))
  | [] => .ok []
  | operand :: rest =>
    match s.unravel operand with
    | .error e => .error e
    | .ok channels => (s.unravelEach rest).map (channels :: ·)

end Scene

end FormulaNet
