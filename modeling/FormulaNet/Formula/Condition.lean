/-
This file binds the branches of a test. The test is a node made by a comparison;
its two branches are wired to the slots that the registry lists for its type,
and the result names its output channels.
-/

import FormulaNet.Formula.Apply

namespace FormulaNet

/-- The node and the branches of a test. -/
def Scene.test (s : Scene) (test : Reference) : Except Error (String × Branches) :=
  match test.target? with
  | none => .error (.literalTest test.text)
  | some node =>
    match s.typeOf? node with
    | none => .error (.missingTest node)
    | some type =>
      match Registry.builtin.branchesOf? type with
      | none => .error (.otherTest node type)
      | some branches => .ok (node, branches)

namespace Program

/-- Wires both branches of a test as far as the wider of them reaches. -/
def bindBranches (o : Options) (node : String) (branches : Branches) (width : Nat)
    (ifTrue ifFalse : Operand) : Program Reference :=
  if branches.channels.length < width then
    throw (.branchWidth node branches.channels.length width)
  else do
    setOrConnect o (.node node (.many (branches.ifTrue.take width))) ifTrue
    setOrConnect o (.node node (.many (branches.ifFalse.take width))) ifFalse
    pure (.node node (.many (branches.channels.take width)))

/-- Wires one operand for the case that a test holds and one for the case that it does not. -/
def condition (o : Options) (test : Reference) (ifTrue ifFalse : Operand) : Program Reference := do
  let (node, branches) ← look (·.test test)
  let trueChannels ← unravel ifTrue
  let falseChannels ← unravel ifFalse
  bindBranches o node branches (max trueChannels.length falseChannels.length) ifTrue ifFalse

/-- A test as a number: zero if it holds, one if not. -/
def conditionFlag (o : Options) (test : Reference) : Program Reference :=
  condition o test (.ofBool false) (.ofBool true)

end Program

end FormulaNet
