/-
This file describes operations. An operation is compiled into one node of a
given type: `inputs` lists the slot groups its operands are wired to, `output`
the channels its result is read from. In a multi-index operation the first group
is a template that is repeated, with a running index, for every operand that the
fixed groups behind it leave over. A deferred operation has no result yet: it is
a test whose two branches are wired later.
-/

import FormulaNet.Text.Basic

namespace FormulaNet

/-- The branches of a test node, true first, and the channels they come out of. -/
structure Branches where
  slots : List (List String)
  channels : List String
  deriving DecidableEq

def Branches.ifTrue (b : Branches) : List String := b.slots.getD 0 []

def Branches.ifFalse (b : Branches) : List String := b.slots.getD 1 []

inductive Output where
  | channels (names : List String)
  | deferred (branches : Branches)
  deriving DecidableEq

structure Operation where
  name : String
  nodeType : String
  inputs : List (List String)
  output : Output
  mode : Option Int
  multiIndex : Bool
  deriving DecidableEq

/-- How many operands an operation takes. -/
inductive Arity where
  | exactly (count : Nat)
  | atLeast (count : Nat)
  deriving DecidableEq

def Arity.accepts : Arity → Nat → Bool
  | exactly count, n => n == count
  | atLeast count, n => decide (count ≤ n)

def Arity.text : Arity → String
  | exactly count => toString count
  | atLeast count => toString count ++ " or more"

/-- The most channels a slot group, an output or a wiring may have. -/
def maxChannels : Nat := 3

/-- The text that stands for the running index in a template. -/
def placeholder : String := "\x7bmulti_index\x7d"

namespace Operation

def arity (op : Operation) : Arity :=
  if op.multiIndex then .atLeast op.inputs.length else .exactly op.inputs.length

def accepts (op : Operation) (operands : Nat) : Bool := op.arity.accepts operands

def branches? (op : Operation) : Option Branches :=
  match op.output with
  | .deferred branches => some branches
  | .channels _ => none

def isDeferred (op : Operation) : Bool := op.branches?.isSome

/-- The slot group of one operand, made from a template. -/
def instantiate (template : List String) (index : Nat) : List String :=
  template.map (Text.replace placeholder (toString index))

/-- The slot groups for a number of operands. -/
def slotGroups (op : Operation) (operands : Nat) : List (List String) :=
  match op.multiIndex, op.inputs with
  | true, template :: fixed =>
    (List.range (operands - fixed.length)).map (instantiate template) ++ fixed
  | _, inputs => inputs

/-! ### Validity -/

/-- What can be wrong with an operation. -/
inductive Flaw where
  | unnamed
  | noInputs
  | groupWidth
  | notTemplate
  | extraTemplate
  | strayPlaceholder
  | outputWidth
  | branchCount
  | branchWidth
  deriving DecidableEq

def Flaw.message : Flaw → String
  | unnamed => "name and node_type must be non-empty"
  | noInputs => "at least one input slot group is required"
  | groupWidth => "input slot groups must hold 1..=3 channels"
  | notTemplate => "multi-index templates must contain \x7bmulti_index\x7d"
  | extraTemplate => "only the first group of a multi-index operation is a template"
  | strayPlaceholder => "\x7bmulti_index\x7d needs multi_index = true"
  | outputWidth => "output must hold 1..=3 channels"
  | branchCount => "deferred outputs need a true and a false branch"
  | branchWidth => "branch and output channel counts must match (1..=3)"

/-- Whether a list of channels has an admissible length. -/
def fits (channels : List String) : Bool :=
  decide (1 ≤ channels.length ∧ channels.length ≤ maxChannels)

/-- Whether some channel of a group mentions the running index. -/
def mentionsIndex (group : List String) : Bool := group.any (Text.mentions placeholder)

/-- Whether every channel of a group mentions the running index. -/
def isTemplate (group : List String) : Bool := group.all (Text.mentions placeholder)

def inputFlaw? (op : Operation) : Option Flaw :=
  if op.multiIndex then
    if !(op.inputs.head?.any isTemplate) then some .notTemplate
    else if op.inputs.tail.any mentionsIndex then some .extraTemplate
    else none
  else if op.inputs.any mentionsIndex then some .strayPlaceholder
  else none

def outputFlaw? (op : Operation) : Option Flaw :=
  match op.output with
  | .channels names => if fits names then none else some .outputWidth
  | .deferred branches =>
    if branches.slots.length ≠ 2 then some .branchCount
    else if fits branches.channels ∧
        branches.slots.all (·.length == branches.channels.length) then none
    else some .branchWidth

/-- The first flaw of an operation. -/
def flaw? (op : Operation) : Option Flaw :=
  if op.name = "" ∨ op.nodeType = "" then some .unnamed
  else if op.inputs = [] then some .noInputs
  else if !op.inputs.all fits then some .groupWidth
  else op.inputFlaw?.or op.outputFlaw?

end Operation

end FormulaNet
