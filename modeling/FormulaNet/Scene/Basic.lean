/-
This file holds scenes. A scene is a list of nodes in the order of their
creation, the numbers set on plugs, the connections (at most one into each
plug), and the containers that group nodes. Numbers and connections are kept
under canonical plugs, so it does not matter how a plug was spelled when it was
written. Everything here only looks at a scene.
-/

import FormulaNet.Scene.Builtin
import FormulaNet.Scene.Place
import FormulaNet.Table
import FormulaNet.Value.Primitive

namespace FormulaNet

structure Node where
  name : String
  type : String
  layout : Layout
  deriving DecidableEq

/-- What a container holds: its member nodes, the plugs it publishes with their exposed names, and
a note. -/
structure Container where
  members : List String
  published : List (String × String)
  note : Option String
  deriving DecidableEq

structure Scene where
  nodes : List Node
  values : Table Float
  /-- The source of each connected plug. -/
  connections : Table String
  containers : Table Container
  deriving DecidableEq

namespace Scene

def empty : Scene := ⟨[], .empty, .empty, .empty⟩

/-! ### Nodes -/

def node? (s : Scene) (name : String) : Option Node := s.nodes.find? (·.name == name)

def hasNode (s : Scene) (name : String) : Bool := (s.node? name).isSome

def nodeNames (s : Scene) : List String := s.nodes.map (·.name)

def typeOf? (s : Scene) (node : String) : Option String := (s.node? node).map (·.type)

def nodesOfType (s : Scene) (type : String) : List String :=
  (s.nodes.filter (·.type == type)).map (·.name)

/-! ### Plugs -/

/-- The place of an attribute path on a node. -/
def locate? (s : Scene) (node attr : String) : Option Place :=
  match s.node? node, AttrPath.read? attr with
  | some n, some path => n.layout.locate? path
  | _, _ => none

/-- The node and place of a plug. -/
def place? (s : Scene) (plug : String) : Option (String × Place) :=
  match Plug.split? plug with
  | some (node, attr) => (s.locate? node attr).map fun place => (node, place)
  | none => none

/-- The canonical spelling of a plug. -/
def canonical? (s : Scene) (plug : String) : Option String :=
  (s.place? plug).map fun (node, place) => Plug.join node place.path

/-- Whether a plug exists, or a node if the text is no plug. -/
def has (s : Scene) (path : String) : Bool :=
  match Plug.split? path with
  | some (node, attr) => (s.locate? node attr).isSome
  | none => s.hasNode path

def children? (s : Scene) (node attr : String) : Option (List String) :=
  (s.locate? node attr).bind Place.children?

def parent? (s : Scene) (node attr : String) : Option String :=
  (s.locate? node attr).bind Place.parent?

def longName? (s : Scene) (node attr : String) : Option String :=
  (s.locate? node attr).map Place.path

/-! ### Numbers and connections -/

/-- The number under a canonical path of a node, or else the given default. -/
def stored (s : Scene) (node path : String) (default : Float) : Float :=
  (s.values.find? (Plug.join node path)).getD default

/-- The number set on a plug, or its default. -/
def valueOf? (s : Scene) (plug : String) : Option Float :=
  (s.place? plug).map fun (node, place) => s.stored node place.path place.default

/-- The plug connected into a plug. -/
def sourceOf? (s : Scene) (plug : String) : Option String :=
  (s.canonical? plug).bind s.connections.find?

/-- All connections, source first, in the order of their destinations. -/
def connectionList (s : Scene) : List (String × String) :=
  s.connections.entries.map fun (dest, source) => (source, dest)

/-- Whether a plug stands on a node. -/
def onNode (node plug : String) : Bool :=
  match Plug.split? plug with
  | some (owner, _) => owner == node
  | none => false

/-- The connections of a node: the plug on the node, then the other end. A connection of the node
with itself counts twice. -/
def connectionsOf (s : Scene) (node : String) : List (String × String) :=
  s.connections.entries.flatMap fun (dest, source) =>
    (if onNode node dest then [(dest, source)] else []) ++
      (if onNode node source then [(source, dest)] else [])

/-- The payload read from a place: a list for a compound, a number otherwise. -/
def readPlace (s : Scene) (node : String) (place : Place) : Primitive :=
  match place.parts? with
  | some parts => .list (parts.map fun part => s.stored node part place.default)
  | none => .number (s.stored node place.path place.default)

end Scene

end FormulaNet
