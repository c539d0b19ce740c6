/-
This file decodes operations and lists of them from JSON. A registry text is a
record with the one field `operations`.
-/

import FormulaNet.Json.Reader
import FormulaNet.Operation.Registry

namespace FormulaNet

open Json

def Branches.ofJson? (j : Json) : Option Branches :=
  match fields? ["branches", "channels"] j with
  | some [slots, channels] => do
    pure ⟨← required? (list? (list? string?)) slots, ← required? (list? string?) channels⟩
  | _ => none

/-- An output is an object with one member that names its kind. -/
def Output.ofJson? : Json → Option Output
  | .object [(some "channels", j)] => (list? string? j).map .channels
  | .object [(some "deferred", j)] => (Branches.ofJson? j).map .deferred
  | _ => none

def Operation.ofJson? (j : Json) : Option Operation :=
  match fields? ["name", "node_type", "inputs", "output", "mode", "multi_index"] j with
  | some [name, nodeType, inputs, output, mode, multiIndex] => do
    pure {
      name := ← required? string? name
      nodeType := ← required? string? nodeType
      inputs := ← required? (list? (list? string?)) inputs
      output := ← required? Output.ofJson? output
      mode := ← defaulted? none (nullable? signedWord?) mode
      multiIndex := ← defaulted? false bool? multiIndex }
  | _ => none

/-- The operations a registry text lists. -/
def Operation.listOfJson? (j : Json) : Option (List Operation) :=
  match fields? ["operations"] j with
  | some [operations] => required? (list? Operation.ofJson?) operations
  | _ => none

/-- The operation a text describes, valid or not. -/
def Operation.read? (text : String) : Option Operation :=
  (Json.read? text).bind Operation.ofJson?

/-- Loads the registry a text describes. -/
def Registry.read (text : String) : Except LoadError Registry :=
  match (Json.read? text).bind Operation.listOfJson? with
  | some operations => load operations
  | none => .error .malformed

end FormulaNet
