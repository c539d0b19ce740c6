/-
This file carries out wirings. A literal source is set on its target, a plug is
connected into it. Links are made in order, and the first that cannot be made
stops the rest.
-/

import FormulaNet.Session.Basic
import FormulaNet.Wiring.Plan

namespace FormulaNet.Program

/-- Makes one link. -/
def wireLink (force : Bool) (link : Link) : Program Unit := do
  let scene ← scene
  match link.target, link.source with
  | .literal .., _ => throw (.noTarget link.target.text)
  | .plug target, .literal value _ =>
    if scene.has target then setPlug target value link.source.text else throw (.noTarget target)
  | .plug target, .plug source =>
    if scene.has target then
      if scene.has source then connect source target force else throw (.noSource source)
    else throw (.noTarget target)

/-- Makes links in order. -/
def wireLinks (force : Bool) : List Link → Program Unit
  | [] => pure ()
  | link :: rest => do
    wireLink force link
    wireLinks force rest

/-- Wires sources to targets. -/
def wire (o : Options) (targets sources : List Channel) : Program Unit := do
  let links ← look (·.plan o.ceiling targets sources)
  wireLinks o.force links

/-- The channels of an operand in the scene as it is now. -/
def unravel (operand : Operand) : Program (List Channel) := look (·.unravel operand)

/-- A target is taken at its word: a path is parsed and need not exist yet. -/
def asTarget : Operand → Operand
  | .path plug => (Reference.parse plug).toOperand
  | operand => operand

/-- Sets or connects a target from a source. -/
def setOrConnect (o : Options) (target source : Operand) : Program Unit := do
  let targets ← unravel (asTarget target)
  let sources ← unravel source
  wire o targets sources

end FormulaNet.Program
