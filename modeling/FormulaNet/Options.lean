/-
This file holds the options of a session: what the names of its nodes begin
with, whether connections replace older ones, and how many channels are wired at
once.
-/

import FormulaNet.Json.Reader
import FormulaNet.Operation.Basic
import FormulaNet.Plug

namespace FormulaNet

structure Options where
  namePrefix : String
  force : Bool
  ceiling : Nat
  deriving DecidableEq

/-- What can be wrong with options. -/
inductive OptionsError where
  | malformed
  | ceiling (given : Nat)
  | namePrefix (given : String)
  deriving DecidableEq

def OptionsError.message : OptionsError → String
  | malformed => "calculator opts json:"
  | ceiling given => s!"max_channels must be in 1..={maxChannels}, got {given}"
  | namePrefix given => s!"node_prefix '{given}' is not a valid node name prefix"

namespace Options

def default : Options := ⟨"nc", true, maxChannels⟩

/-- Whether a node name may begin with a text: a letter, then letters, digits and underscores. -/
def isNamePrefix (text : String) : Bool :=
  text.toList.head?.any Char.isAlpha && text.toList.all Plug.isNameChar

/-- The first thing wrong with options. -/
def flaw? (o : Options) : Option OptionsError :=
  if o.ceiling < 1 ∨ maxChannels < o.ceiling then some (.ceiling o.ceiling)
  else if !isNamePrefix o.namePrefix then some (.namePrefix o.namePrefix)
  else none

/-- Options that have nothing wrong with them. -/
def validate (o : Options) : Except OptionsError Options :=
  match o.flaw? with
  | some flaw => .error flaw
  | none => .ok o

open Json

/-- Options from a record in which every field has a default. -/
def ofJson? (j : Json) : Option Options :=
  match fields? ["node_prefix", "force_connections", "max_channels"] j with
  | some [namePrefix, force, ceiling] => do
    pure ⟨← defaulted? default.namePrefix string? namePrefix,
      ← defaulted? default.force bool? force,
      ← defaulted? default.ceiling unsignedWord? ceiling⟩
  | _ => none

/-- The valid options a text describes. -/
def read (text : String) : Except OptionsError Options :=
  match (Json.read? text).bind ofJson? with
  | some o => o.validate
  | none => .error .malformed

end Options

end FormulaNet
