/-
This file opens and closes container scopes. While a scope is open the recorder
collects the nodes that are created. When it closes, its container takes them in
and publishes every plug on them that is connected with a plug outside, except
for messages.
-/

import FormulaNet.Session.Basic

namespace FormulaNet

structure ContainerOptions where
  name : String
  notes : String
  /-- Whether there is a container at all. -/
  create : Bool
  deriving DecidableEq

namespace ContainerOptions

def default : ContainerOptions := ⟨"noca_formula_container", "", true⟩

open Json

def ofJson? (j : Json) : Option ContainerOptions :=
  match fields? ["name", "notes", "create"] j with
  | some [name, notes, create] => do
    pure ⟨← defaulted? default.name string? name, ← defaulted? default.notes string? notes,
      ← defaulted? default.create bool? create⟩
  | _ => none

/-- The options a text describes. -/
def read? (text : String) : Option ContainerOptions := (Json.read? text).bind ofJson?

end ContainerOptions

/-- An open scope, with the container it made. -/
structure ContainerScope where
  options : ContainerOptions
  container : Option String
  deriving DecidableEq

/-! ### What is published -/

/-- The name a plug is published under: the letters and digits of its node and of its path. -/
def exposedName (node attr : String) : String :=
  Plug.alphanumerics (Plug.baseName node) ++ "_I_" ++ Plug.alphanumerics attr

/-- Whether a plug stands on a node outside a group. -/
def isOutside (nodes : List String) (plug : String) : Bool :=
  match Plug.split? plug with
  | some (node, _) => !nodes.contains node
  | none => false

/-- A plug to be published, with its exposed name. Messages are not published. -/
def publication? (plug : String) : Option (String × String) :=
  match Plug.split? plug with
  | some (node, attr) => if attr = "message" then none else some (plug, exposedName node attr)
  | none => none

/-- The first of each plug that occurs. -/
def firstOfEach : List (String × String) → List (String × String)
  | [] => []
  | p :: rest => p :: (firstOfEach rest).filter (·.1 != p.1)

/-- The plugs that a group of nodes publishes: those connected with plugs outside, each once, in the
order of the nodes and of the connections of each. -/
def Scene.publications (s : Scene) (nodes : List String) : List (String × String) :=
  firstOfEach <| nodes.flatMap fun node =>
    (s.connectionsOf node).filterMap fun (inside, outside) =>
      if isOutside nodes outside then publication? inside else none

namespace Program

/-! ### Calls on containers -/

def createContainer (name : String) : Program String :=
  call (.createContainer name) .made fun scene => scene.createContainer name

def group (container : String) (nodes : List String) : Program Unit :=
  change (.group container nodes) fun scene => scene.group container nodes

def expose (container plug name : String) : Program Unit :=
  change (.expose container plug name) fun scene => scene.expose container plug name

def setNote (container text : String) : Program Unit :=
  change (.note container text) fun scene => scene.setNote container text

/-! ### Scopes -/

/-- Opens a scope. The recorder counts it before its container is made. -/
def openContainer (o : ContainerOptions) : Program ContainerScope := do
  editRecorder (·.beginContainer)
  if o.create then
    let container ← createContainer o.name
    pure ⟨o, some container⟩
  else pure ⟨o, none⟩

/-- Publishes plugs in order. -/
def exposeAll (container : String) : List (String × String) → Program Unit
  | [] => pure ()
  | (plug, name) :: rest => do
    expose container plug name
    exposeAll container rest

/-- Fills the container of a scope, if it has one. -/
def populate (scope : ContainerScope) : Program Unit := do
  match scope.container with
  | none => pure ()
  | some container =>
    let nodes := (← get).recorder.collected
    group container nodes
    exposeAll container ((← scene).publications nodes)
    if scope.options.notes ≠ "" then setNote container scope.options.notes

/-- Closes a scope and gives its container. It is closed even if the container could not be
filled. -/
def finishContainer (scope : ContainerScope) : Program (Option String) := do
  let filled ← outcome (populate scope)
  editRecorder (·.endContainer)
  match filled with
  | .ok _ => pure scope.container
  | .error e => throw e

/-- Closes a scope without asking for its container: failing to fill it is only a warning. -/
def dropContainer (scope : ContainerScope) : Program Unit := do
  match ← outcome (populate scope) with
  | .ok _ => pure ()
  | .error _ => warn .populationFailed
  editRecorder (·.endContainer)

/-- Closes a scope without filling its container. -/
def abandonContainer : Program Unit := do
  warn .abandoned
  editRecorder (·.endContainer)

end Program

end FormulaNet
