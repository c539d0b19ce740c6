/-
This file compiles one operation into a node. All operands are taken apart
before anything changes; then the node is created, its mode is set, and the
operands are wired to their slot groups in order. Groups of several slots are
filled as far as the widest operand reaches; a group of one slot takes operands
of one channel only. The result names the output channels of the node, or the
bare node where the output is deferred.
-/

import FormulaNet.Formula.Naming
import FormulaNet.Operation.Builtin
import FormulaNet.Wiring.Basic

namespace FormulaNet

/-- The largest of several channel counts. -/
def widest (channels : List (List Channel)) : Nat :=
  channels.foldr (fun cs width => max cs.length width) 0

namespace Operation

/-- The slots of a group that an operand is wired to. -/
def slotsFor (op : Operation) (width : Nat) (operand : Operand) (channels : List Channel)
    (group : List String) : Except Error (List String) :=
  match group with
  | [slot] =>
    if 1 < channels.length then
      .error (.slotWidth op.name slot operand.text channels.length)
    else .ok [slot]
  | _ =>
    if group.length < width then .error (.groupWidth op.name group.length width)
    else .ok (group.take width)

/-- The attributes that hold the result of an operation. -/
def resultAttrs (op : Operation) (width : Nat) : Attrs :=
  match op.output with
  | .deferred _ => .bare
  | .channels [name] => .one name
  | .channels names => .many (names.take width)

end Operation

/-- An operand on its way to a slot group. -/
structure Feed where
  operand : Operand
  channels : List Channel
  group : List String

/-- The operands with their channels and slot groups, as far as there are groups. -/
def feeds (operands : List Operand) (channels : List (List Channel)) (groups : List (List String)) :
    List Feed :=
  List.zipWith (fun (operand, cs) group => ⟨operand, cs, group⟩) (operands.zip channels) groups

namespace Program

/-- Wires one operand to slots of a node. -/
def feed (o : Options) (op : Operation) (node : String) (width : Nat) (f : Feed) :
    Program Unit := do
  match op.slotsFor width f.operand f.channels f.group with
  | .error e => throw e
  | .ok slots => wire o (slots.map fun slot => .plug (Plug.join node slot)) f.channels

/-- Wires operands to slots of a node, in order. -/
def feedAll (o : Options) (op : Operation) (node : String) (width : Nat) :
    List Feed → Program Unit
  | [] => pure ()
  | f :: rest => do
    feed o op node width f
    feedAll o op node width rest

/-- Sets the mode of a node, where its operation has one. -/
def setMode (o : Options) (node : String) : Option Int → Program Unit
  | none => pure ()
  | some mode =>
    wire o [.plug (Plug.join node "operation")] [.ofNumber (Float.ofInt mode)]

/-- Creates the node of an operation and wires its operands, already taken apart. -/
def build (o : Options) (op : Operation) (operands : List Operand)
    (channels : List (List Channel)) : Program Reference := do
  let width := widest channels
  let node ← create op.nodeType (op.nodeName o operands)
  setMode o node op.mode
  feedAll o op node width (feeds operands channels (op.slotGroups operands.length))
  pure (.node node (op.resultAttrs width))

/-- Applies the operation of a name to operands. -/
def apply (o : Options) (name : String) (operands : List Operand) : Program Reference := do
  match Registry.builtin.lookup? name with
  | none => throw (.unknownOperation name)
  | some op =>
    if op.accepts operands.length then
      let channels ← look (·.unravelEach operands)
      build o op operands channels
    else throw (.arity name op.arity operands.length)

end Program

end FormulaNet
