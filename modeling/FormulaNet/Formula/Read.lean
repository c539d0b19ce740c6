/-
This file reads references. A literal number or value is itself; everything else
is read channel by channel, and several reads make up a list.
-/

import FormulaNet.Wiring.Basic

namespace FormulaNet.Program

/-- Reads plugs in order. -/
def readPlugs : List String → Program (List Value)
  | [] => pure []
  | plug :: rest => do
    let v ← readPlug plug
    let vs ← readPlugs rest
    pure (v :: vs)

/-- Reads one channel. A literal keeps the expression it came with. -/
def readChannel : Channel → Program Value
  | .literal v (some expression) => pure ⟨.number v, expression, false⟩
  | .literal v none => pure (.ofNumber v)
  | .plug plug => readPlug plug

/-- Reads channels in order. -/
def readChannels : List Channel → Program (List Value)
  | [] => pure []
  | channel :: rest => do
    let v ← readChannel channel
    let vs ← readChannels rest
    pure (v :: vs)

/-- Reads a reference. -/
def read : Reference → Program Value
  | .literal (.number v) => pure (.ofNumber v)
  | .literal (.value v) => pure v
  | .literal payload => do
    let channels ← unravel payload
    let values ← readChannels channels
    pure (.collect values)
  | .node node attrs =>
    match attrs.plugs? node with
    | none => throw (.bareReading node)
    | some plugs => do
      let values ← readPlugs plugs
      pure (.collect values)

end FormulaNet.Program
