/-
This file names what a scene can refuse, and words it.
-/

namespace FormulaNet

inductive SceneError where
  | nodeExists (name : String)
  | attributeName (name : String)
  | noNode (name : String)
  | attributeExists (node name : String)
  | malformedPlug (plug : String)
  | noPlug (plug : String)
  | compoundValue (plug : String)
  | widths (sourceWidth : Nat) (source : String) (destWidth : Nat) (dest : String)
  | selfConnection (source : String)
  | occupied (dest existing : String)
  | unknownType (type : String)
  | nodeName (name : String)
  | missingMember (node : String)
  | missingPlug (plug : String)
  | noContainer (name : String)
  deriving DecidableEq

def SceneError.message : SceneError → String
  | nodeExists name => s!"node '{name}' already exists"
  | attributeName name => s!"invalid attribute name '{name}'"
  | noNode name => s!"no node '{name}'"
  | attributeExists node name => s!"attribute '{node}.{name}' already exists"
  | malformedPlug plug => s!"malformed plug '{plug}'"
  | noPlug plug => s!"no such plug '{plug}'"
  | compoundValue plug => s!"cannot set compound plug '{plug}' from a single value"
  | widths n source m dest => s!"cannot connect {n}-channel '{source}' to {m}-channel '{dest}'"
  | selfConnection source => s!"cannot connect '{source}' to itself"
  | occupied dest existing => s!"'{dest}' is already connected from '{existing}'"
  | unknownType type => s!"unknown node type '{type}'"
  | nodeName name => s!"invalid node name '{name}'"
  | missingMember node => s!"cannot group missing node '{node}'"
  | missingPlug plug => s!"cannot publish missing plug '{plug}'"
  | noContainer name => s!"no container '{name}'"

end FormulaNet
