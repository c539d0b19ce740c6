/-
This file holds sessions, and the programs that run in them. A session is a host
with a recorder, and what it has said so far: warnings and printed lines. A
program is a function on sessions that may fail; whatever it did before it
failed stays done.
-/

import FormulaNet.Reference.Channel
import FormulaNet.Session.Host
import FormulaNet.Trace.Recorder

namespace FormulaNet

inductive Warning where
  | attributeExists
  | notTraced
  | abandoned
  | populationFailed
  deriving DecidableEq

def Warning.message : Warning → String
  | attributeExists => "attribute already exists, not adding it"
  | notTraced => "commands were not traced"
  | abandoned => "container abandoned during a panic"
  | populationFailed => "container population failed"

structure Session where
  host : Host
  recorder : Recorder
  warnings : List Warning
  printed : List String
  deriving DecidableEq

def Session.start (host : Host) : Session := ⟨host, .idle, [], []⟩

def Session.scene (s : Session) : Scene := s.host.scene

/-- Programs over a session. -/
abbrev Program := ExceptT Error (StateM Session)

namespace Program

/-- Runs a program: its result or error, and the session it leaves. -/
def exec {α : Type} (program : Program α) (s : Session) : Except Error α × Session := program.run s

/-! ### Running programs -/

@[simp] theorem exec_pure {α : Type} (a : α) (s : Session) :
    exec (pure a : Program α) s = (.ok a, s) := rfl

@[simp] theorem exec_throw {α : Type} (e : Error) (s : Session) :
    exec (throw e : Program α) s = (.error e, s) := rfl

@[simp] theorem exec_get (s : Session) : exec (get : Program Session) s = (.ok s, s) := rfl

@[simp] theorem exec_set (s t : Session) : exec (set t : Program Unit) s = (.ok (), t) := rfl

@[simp] theorem exec_modify (f : Session → Session) (s : Session) :
    exec (modify f : Program Unit) s = (.ok (), f s) := rfl

/-- One program after another: an error stops the second, and the session stays as the first left
it. -/
theorem exec_bind {α β : Type} (program : Program α) (next : α → Program β) (s : Session) :
    exec (program >>= next) s =
      match exec program s with
      | (.ok a, s') => exec (next a) s'
      | (.error e, s') => (.error e, s') := by
  have run : exec (program >>= next) s =
      ExceptT.bindCont next (exec program s).1 (exec program s).2 := rfl
  rw [run]
  rcases exec program s with ⟨_ | _, _⟩ <;> rfl

/-! ### Looking and telling -/

def scene : Program Scene := return (← get).scene

@[simp] theorem exec_scene (s : Session) : exec scene s = (.ok s.scene, s) := rfl

/-- The answer of a look at the scene. -/
def look {α : Type} (answer : Scene → Except Error α) : Program α := do
  match answer (← scene) with
  | .ok a => pure a
  | .error e => throw e

/-- A look changes nothing. -/
@[simp] theorem exec_look {α : Type} (answer : Scene → Except Error α) (s : Session) :
    exec (look answer) s = (answer s.scene, s) := by
  rw [look, exec_bind, exec_scene]
  dsimp only
  cases answer s.scene <;> rfl

/-- Runs a program and gives its outcome instead of failing with it. -/
def outcome {α : Type} (program : Program α) : Program (Except Error α) :=
  ExceptT.mk do
    let result ← program.run
    pure (.ok result)

/-- Taking the outcome of a program never fails. -/
@[simp] theorem exec_outcome {α : Type} (program : Program α) (s : Session) :
    exec (outcome program) s = (.ok (exec program s).1, (exec program s).2) := rfl

def editRecorder (edit : Recorder → Recorder) : Program Unit :=
  modify fun s => { s with recorder := edit s.recorder }

/-- Logs an event. -/
def record (event : Trace.Event) : Program Unit := editRecorder (·.record event)

def warn (warning : Warning) : Program Unit :=
  modify fun s => { s with warnings := s.warnings ++ [warning] }

def print (lines : List String) : Program Unit :=
  modify fun s => { s with printed := s.printed ++ lines }

/-! ### Calls -/

/-- Makes a call to the host. -/
def call {α : Type} (call : Call) (report : α → Outcome)
    (change : Scene → Except SceneError (α × Scene)) : Program α := do
  let s ← get
  match s.host.take call report change with
  | (.ok a, host) =>
    set { s with host }
    pure a
  | (.error e, host) =>
    set { s with host }
    throw (.host e)

/-- A call changes the host only. -/
theorem exec_call {α : Type} (c : Call) (report : α → Outcome)
    (change : Scene → Except SceneError (α × Scene)) (s : Session) :
    exec (call c report change) s =
      ((s.host.take c report change).1.mapError Error.host,
        { s with host := (s.host.take c report change).2 }) := by
  rw [call, exec_bind, exec_get]
  dsimp only
  rcases s.host.take c report change with ⟨_ | _, _⟩ <;> rfl

/-- Makes a call that has no answer. -/
def change (c : Call) (edit : Scene → Except SceneError Scene) : Program Unit :=
  call c (fun _ => .done) fun scene => (edit scene).map fun scene => ((), scene)

/-- Creates a node, and logs and collects it under the name it got. -/
def create (type name : String) : Program String := do
  let requested := (← get).host.namePrefix ++ name
  let node ← call (.create type name) .made fun scene => scene.create type requested
  editRecorder (·.collect node)
  record (.create node type)
  pure node

/-- Sets a number on a plug, logged under the given text. -/
def setPlug (plug : String) (value : Float) (text : String) : Program Unit := do
  change (.set plug value) fun scene => scene.set plug value
  record (.set plug text)

/-- Connects two plugs. -/
def connect (source dest : String) (force : Bool) : Program Unit := do
  change (.connect source dest force) fun scene => scene.connect source dest force
  record (.connect source dest)

/-- Adds an attribute to a node. -/
def addAttribute (node name : String) (spec : AttributeSpec) : Program Unit := do
  change (.addAttribute node name spec) fun scene => scene.addAttribute node name spec.default
  record (.addAttribute node name spec.flags)

/-- Reads a plug. Under tracing the read is labelled, and its label is the expression of the
value. -/
def readPlug (plug : String) : Program Value := do
  if (← scene).has plug then
    let payload ← call (.read plug) (fun _ => .done) fun scene =>
      (scene.read plug).map fun payload => (payload, scene)
    let label := (← get).recorder.nextLabel?
    record (.read plug)
    pure ⟨payload, label.getD plug, false⟩
  else throw (.noTarget plug)

end Program

end FormulaNet
