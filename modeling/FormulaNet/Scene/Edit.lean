/-
This file changes scenes. Every change either gives a new scene or refuses and
gives none, so a refused change leaves the scene as it was.
-/

import FormulaNet.Scene.Basic
import FormulaNet.Scene.Error

namespace FormulaNet.Scene

/-! ### Reading and writing plugs -/

/-- The node and place of a plug, or why there is none. -/
def placeOf (s : Scene) (plug : String) : Except SceneError (String × Place) :=
  match Plug.split? plug with
  | none => .error (.malformedPlug plug)
  | some (node, attr) =>
    match s.locate? node attr with
    | none => .error (.noPlug plug)
    | some place => .ok (node, place)

/-- Reads a plug. -/
def read (s : Scene) (plug : String) : Except SceneError Primitive :=
  match s.placeOf plug with
  | .error e => .error e
  | .ok (node, place) => .ok (s.readPlace node place)

/-- Sets a number on a plug of one channel. -/
def set (s : Scene) (plug : String) (value : Float) : Except SceneError Scene :=
  match s.placeOf plug with
  | .error e => .error e
  | .ok (node, place) =>
    if place.width = 1 then
      .ok { s with values := s.values.insert (Plug.join node place.path) value }
    else .error (.compoundValue plug)

/-- Connects two plugs of one width. An existing connection into the destination is replaced by
force only. -/
def connect (s : Scene) (source dest : String) (force : Bool) : Except SceneError Scene :=
  match s.placeOf source with
  | .error e => .error e
  | .ok (sourceNode, sourcePlace) =>
    match s.placeOf dest with
    | .error e => .error e
    | .ok (destNode, destPlace) =>
      let origin := Plug.join sourceNode sourcePlace.path
      let goal := Plug.join destNode destPlace.path
      if sourcePlace.width ≠ destPlace.width then
        .error (.widths sourcePlace.width source destPlace.width dest)
      else if origin = goal then .error (.selfConnection source)
      else
        match s.connections.find? goal, force with
        | some existing, false => .error (.occupied dest existing)
        | _, _ => .ok { s with connections := s.connections.insert goal origin }

/-! ### Nodes and attributes -/

/-- The first name that is free: the requested one, or else it followed by the least positive
number. With as many numbers to try as there are nodes, one of them is free. -/
def uniqueName (s : Scene) (name : String) : String :=
  let numbered := (List.range s.nodes.length).map fun k => name ++ toString (k + 1)
  ((name :: numbered).find? fun candidate => !s.hasNode candidate).getD name

/-- Creates a node of a known type under a name like the requested one: the name it got, and the
scene with it. -/
def create (s : Scene) (type name : String) : Except SceneError (String × Scene) :=
  match Layout.ofType? type with
  | none => .error (.unknownType type)
  | some layout =>
    if name = "" ∨ '.' ∈ name.toList then .error (.nodeName name)
    else
      let unique := s.uniqueName name
      .ok (unique, { s with nodes := s.nodes ++ [⟨unique, type, layout⟩] })

/-- Creates a transform under exactly the given name. -/
def addTransform (s : Scene) (name : String) : Except SceneError (String × Scene) :=
  if s.hasNode name then .error (.nodeExists name) else s.create "transform" name

/-- Characters that have a meaning in attribute paths. -/
def isPathMark (c : Char) : Bool := c == '.' || c == '[' || c == ']'

/-- The nodes with one attribute more on one of them. -/
def extendNode (node : String) (a : Attribute) (nodes : List Node) : List Node :=
  nodes.map fun n => if n.name = node then { n with layout := n.layout ++ [a] } else n

/-- Adds a scalar attribute to a node. -/
def addAttribute (s : Scene) (node name : String) (default : Float) : Except SceneError Scene :=
  if name = "" ∨ name.toList.any isPathMark then .error (.attributeName name)
  else
    match s.node? node with
    | none => .error (.noNode node)
    | some n =>
      if n.layout.isTaken name then .error (.attributeExists node name)
      else .ok { s with nodes := extendNode node (.scalar name none default) s.nodes }

/-! ### Containers -/

/-- Creates an empty container. -/
def createContainer (s : Scene) (name : String) : Except SceneError (String × Scene) :=
  match s.create "container" name with
  | .error e => .error e
  | .ok (unique, s) =>
    .ok (unique, { s with containers := s.containers.insert unique ⟨[], [], none⟩ })

/-- Changes the record of a container. -/
def editContainer (s : Scene) (container : String) (edit : Container → Container) :
    Except SceneError Scene :=
  match s.containers.find? container with
  | none => .error (.noContainer container)
  | some record => .ok { s with containers := s.containers.insert container (edit record) }

/-- Appends the elements that are not there yet. -/
def appendNew (present : List String) : List String → List String
  | [] => present
  | x :: rest => appendNew (if x ∈ present then present else present ++ [x]) rest

/-- Puts nodes into a container. -/
def group (s : Scene) (container : String) (nodes : List String) : Except SceneError Scene :=
  match nodes.find? fun node => !s.hasNode node with
  | some missing => .error (.missingMember missing)
  | none =>
    s.editContainer container fun record =>
      { record with members := appendNew record.members nodes }

/-- Publishes a plug on a container under an exposed name. -/
def expose (s : Scene) (container plug name : String) : Except SceneError Scene :=
  if s.has plug then
    s.editContainer container fun record =>
      { record with published := record.published ++ [(plug, name)] }
  else .error (.missingPlug plug)

/-- Sets the note of a container. -/
def setNote (s : Scene) (container text : String) : Except SceneError Scene :=
  s.editContainer container fun record => { record with note := some text }

end FormulaNet.Scene
