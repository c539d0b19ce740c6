/-
This file holds registries: sets of operations under their names. Loading takes
a list of operations in order and stops at the first that is flawed or repeats a
name, so a registry holds valid operations only. The branches of a test are
found by the type of its node.
-/

import FormulaNet.Operation.Basic
import FormulaNet.Table

namespace FormulaNet

structure Registry where
  table : Table Operation
  deriving DecidableEq

/-- Why a list of operations could not be loaded. -/
inductive LoadError where
  | malformed
  | flawed (name : String) (flaw : Operation.Flaw)
  | duplicate (name : String)
  deriving DecidableEq

def LoadError.message : LoadError → String
  | malformed => "registry json:"
  | flawed name flaw => s!"operation '{name}': " ++ flaw.message
  | duplicate name => s!"duplicate operation '{name}'"

namespace Registry

def empty : Registry := ⟨.empty⟩

def lookup? (r : Registry) (name : String) : Option Operation := r.table.find? name

/-- Adds one operation, checking it before its name. -/
def add (r : Registry) (op : Operation) : Except LoadError Registry :=
  match op.flaw? with
  | some flaw => .error (.flawed op.name flaw)
  | none =>
    if (r.lookup? op.name).isSome then .error (.duplicate op.name)
    else .ok ⟨r.table.insert op.name op⟩

/-- Adds operations in order. -/
def addAll (r : Registry) : List Operation → Except LoadError Registry
  | [] => .ok r
  | op :: rest =>
    match r.add op with
    | .ok r' => r'.addAll rest
    | .error e => .error e

def load (operations : List Operation) : Except LoadError Registry := empty.addAll operations

/-- The names of a registry, in order. -/
def names (r : Registry) : List String := r.table.keys

/-- The branches of the first deferred operation, in the order of names, that makes nodes of a
type. -/
def branchesOf? (r : Registry) (nodeType : String) : Option Branches :=
  r.table.entries.findSome? fun (_, op) =>
    if op.nodeType = nodeType then op.branches? else none

end Registry

end FormulaNet
