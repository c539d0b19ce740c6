/-
This file names everything that can go wrong in a session, and words it. Every
error has a kind, and each kind but the host's own begins its message in a fixed
way.
-/

import FormulaNet.Operation.Registry
import FormulaNet.Options
import FormulaNet.Scene.Error
import FormulaNet.Value.Primitive

namespace FormulaNet

/-- Why the host did not carry out a call: its scene refused it, or a fault was armed. -/
inductive HostError where
  | refused (cause : SceneError)
  | fault (message : String)
  deriving DecidableEq

def HostError.message : HostError → String
  | refused cause => cause.message
  | fault message => message

inductive Error where
  | unknownOperation (name : String)
  | arity (operation : String) (takes : Arity) (given : Nat)
  /-- More channels than may be wired at once. -/
  | ceiling (targets sources most : Nat)
  /-- An operand of several channels at a slot for one. -/
  | slotWidth (operation slot operand : String) (width : Nat)
  /-- Operands wider than a slot group. -/
  | groupWidth (operation : String) (holds wanted : Nat)
  /-- Branches wider than the test they are wired to. -/
  | branchWidth (node : String) (holds wanted : Nat)
  /-- Channel counts that do not match up. -/
  | broadcast (targets sources : Nat)
  | lengths (mismatch : Primitive.LengthMismatch)
  | noTarget (target : String)
  | noSource (plug : String)
  | notPlug (path : String)
  | bareWiring (node : String)
  | bareReading (node : String)
  | literalOwner (text : String)
  | literalTest (text : String)
  | missingTest (node : String)
  | otherTest (node type : String)
  | load (cause : LoadError)
  | options (cause : OptionsError)
  | host (cause : HostError)
  deriving DecidableEq

namespace Error

inductive Kind where
  | unknownOperation
  | arityMismatch
  | dimensionMismatch
  | incompatibleDimensions
  | targetNotFound
  | unsupportedSource
  | unrecognizedOperand
  | notBranchTest
  | validation
  | host
  deriving DecidableEq

def kind : Error → Kind
  | unknownOperation _ => .unknownOperation
  | arity .. => .arityMismatch
  | ceiling .. => .dimensionMismatch
  | slotWidth .. => .dimensionMismatch
  | groupWidth .. => .dimensionMismatch
  | branchWidth .. => .dimensionMismatch
  | broadcast .. => .incompatibleDimensions
  | lengths _ => .incompatibleDimensions
  | noTarget _ => .targetNotFound
  | noSource _ => .unsupportedSource
  | notPlug _ => .unrecognizedOperand
  | bareWiring _ => .unrecognizedOperand
  | bareReading _ => .unrecognizedOperand
  | literalOwner _ => .unrecognizedOperand
  | literalTest _ => .notBranchTest
  | missingTest _ => .notBranchTest
  | otherTest .. => .notBranchTest
  | load _ => .validation
  | options _ => .validation
  | host _ => .host

/-- How the messages of a kind begin. -/
def Kind.heading : Kind → String
  | unknownOperation => "unknown operation: "
  | arityMismatch => "arity mismatch: "
  | dimensionMismatch => "dimension mismatch: "
  | incompatibleDimensions => "incompatible dimensions: "
  | targetNotFound => "target not found: "
  | unsupportedSource => "unsupported source type: "
  | unrecognizedOperand => "unrecognized operand type: "
  | notBranchTest => "not a branch-test node: "
  | validation => "validation error: "
  | host => ""

/-- What happened, without the heading. -/
def detail : Error → String
  | unknownOperation name => name
  | arity operation takes given => s!"'{operation}' takes {takes.text} operand(s), got {given}"
  | ceiling targets sources most =>
    s!"cannot wire {targets} channel(s) from {sources} channel(s), at most {most} allowed"
  | slotWidth operation slot operand width =>
    s!"'{operation}' slot {slot} takes one channel, '{operand}' has {width}"
  | groupWidth operation holds wanted =>
    s!"'{operation}' slot group holds {holds} channels, operands have {wanted}"
  | branchWidth node holds wanted => s!"branches of '{node}' hold {holds} channels, got {wanted}"
  | broadcast targets sources =>
    s!"cannot wire {targets} target channel(s) from {sources} source channel(s)"
  | lengths ⟨op, left, right⟩ =>
    let a := (Primitive.list left).text
    let b := (Primitive.list right).text
    s!"cannot combine {a} {op.symbol} {b}: lengths {left.length} and {right.length} differ"
  | noTarget target => target
  | noSource plug => s!"'{plug}' is neither a number nor an existing plug"
  | notPlug path => s!"'{path}' is not an existing plug"
  | bareWiring node => s!"bare node '{node}' has no plug to wire"
  | bareReading node => s!"bare node '{node}' has no value to read"
  | literalOwner text => s!"cannot add attributes to literal '{text}'"
  | literalTest text => s!"'{text}' is a literal"
  | missingTest node => s!"'{node}' does not exist"
  | otherTest node type => s!"'{node}' is a {type} node"
  | load cause => cause.message
  | options cause => cause.message
  | host cause => cause.message

def message (e : Error) : String := e.kind.heading ++ e.detail

end Error

/-- The operation that is registered under a name. -/
def Registry.lookup (r : Registry) (name : String) : Except Error Operation :=
  match r.lookup? name with
  | some op => .ok op
  | none => .error (.unknownOperation name)

end FormulaNet
