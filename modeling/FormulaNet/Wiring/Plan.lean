/-
This file plans a wiring. Targets and sources are paired off, a single source
going to every target. Where the targets are exactly the children of one
compound and the sources exactly those of another, the whole wiring collapses
into one link between the two compounds. The plan of a wiring is fixed before
any link is made.
-/

import FormulaNet.Reference.Channel

namespace FormulaNet

/-- One strand to be wired. -/
structure Link where
  target : Channel
  source : Channel
  deriving DecidableEq

/-- Pairs targets with sources: as many of one as of the other, or one source for several
targets. -/
def Link.pair? (targets sources : List Channel) : Option (List Link) :=
  if targets.length = sources.length ∧ targets ≠ [] then some (List.zipWith Link.mk targets sources)
  else
    match sources with
    | [source] => if 1 < targets.length then some (targets.map (⟨·, source⟩)) else none
    | _ => none

/-- A channel as the child of a compound: its node, the compound, and its own long name. -/
structure Strand where
  node : String
  parent : String
  long : String
  deriving DecidableEq

namespace Scene

/-- How a channel is the child of a compound, if it is. -/
def strand? (s : Scene) (channel : Channel) : Option Strand := do
  let plug ← channel.plug?
  let (node, attr) ← Plug.split? plug
  let parent ← s.parent? node attr
  let long ← s.longName? node attr
  pure ⟨node, parent, long⟩

/-- The compound whose children the channels are, all of them and in order. -/
def collapse? (s : Scene) (channels : List Channel) : Option String :=
  match channels.mapM s.strand? with
  | some (first :: rest) =>
    let longs := (first :: rest).map (·.long)
    if (rest.all fun strand => strand.node == first.node && strand.parent == first.parent) ∧
        longs.Nodup ∧ s.children? first.node first.parent = some longs then
      some (Plug.join first.node first.parent)
    else none
  | _ => none

/-- The links of a wiring, collapsed into one where both sides allow it. -/
def collapseLinks (s : Scene) (links : List Link) : List Link :=
  match s.collapse? (links.map (·.target)), s.collapse? (links.map (·.source)) with
  | some target, some source => [⟨.plug target, .plug source⟩]
  | _, _ => links

/-- The links that wire sources to targets, if their numbers allow it. -/
def plan (s : Scene) (ceiling : Nat) (targets sources : List Channel) :
    Except Error (List Link) :=
  if ceiling < targets.length ∨ ceiling < sources.length then
    .error (.ceiling targets.length sources.length ceiling)
  else
    match Link.pair? targets sources with
    | none => .error (.broadcast targets.length sources.length)
    | some links => .ok (s.collapseLinks links)

end Scene

end FormulaNet
