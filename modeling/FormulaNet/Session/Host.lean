/-
This file holds the host: the application that owns the scene. A session changes
the scene, and reads its plugs, through calls only. The host keeps a journal of
them, carried out or not, and can be armed with a fault that makes a later call
of one kind fail before it reaches the scene.
-/

import FormulaNet.Error
import FormulaNet.Scene.AttributeSpec
import FormulaNet.Scene.Edit

namespace FormulaNet

/-- What is asked of the host: a change or a reading. -/
inductive Call where
  | set (plug : String) (value : Float)
  | connect (source dest : String) (force : Bool)
  | create (type name : String)
  | addAttribute (node name : String) (spec : AttributeSpec)
  | createContainer (name : String)
  | group (container : String) (nodes : List String)
  | expose (container plug name : String)
  | note (container text : String)
  | read (plug : String)
  deriving DecidableEq

inductive Call.Kind where
  | set | connect | create | addAttribute | createContainer | group | expose | note | read
  deriving DecidableEq

def Call.kind : Call → Call.Kind
  | set .. => .set
  | connect .. => .connect
  | create .. => .create
  | addAttribute .. => .addAttribute
  | createContainer _ => .createContainer
  | group .. => .group
  | expose .. => .expose
  | note .. => .note
  | read _ => .read

/-- What came of a call: the reason it failed, or that it was carried out, perhaps with the name of
the node it made. -/
inductive Outcome where
  | failed (message : String)
  | done
  | made (node : String)
  deriving DecidableEq

structure JournalEntry where
  call : Call
  outcome : Outcome
  deriving DecidableEq

/-- A fault waiting for a call: it lets `skip` calls of its kind pass and strikes the next. -/
structure Fault where
  kind : Call.Kind
  skip : Nat
  message : String
  deriving DecidableEq

structure Host where
  scene : Scene
  fault : Option Fault
  /-- What the names of created nodes are given in front. -/
  namePrefix : String
  journal : List JournalEntry
  deriving DecidableEq

/-- The fault after a call: how it strikes, or what is left of it. -/
inductive Fault.Strike where
  | strikes (message : String)
  | waits (rest : Option Fault)

/-- What an armed fault makes of a call. -/
def Fault.meet (call : Call) : Option Fault → Fault.Strike
  | none => .waits none
  | some fault =>
    if fault.kind ≠ call.kind then .waits (some fault)
    else
      match fault.skip with
      | 0 => .strikes fault.message
      | skip + 1 => .waits (some { fault with skip })

namespace Host

def ofScene (scene : Scene) (namePrefix : String) : Host := ⟨scene, none, namePrefix, []⟩

/-- Takes a call: a fault may strike it, the scene may refuse it, or it is carried out. The journal
gets it in any case, with its answer in the words of `report`. -/
def take {α : Type} (h : Host) (call : Call) (report : α → Outcome)
    (change : Scene → Except SceneError (α × Scene)) : Except HostError α × Host :=
  match Fault.meet call h.fault with
  | .strikes message =>
    (.error (.fault message),
      { h with fault := none, journal := h.journal ++ [⟨call, .failed message⟩] })
  | .waits fault =>
    match change h.scene with
    | .error e =>
      (.error (.refused e), { h with fault, journal := h.journal ++ [⟨call, .failed e.message⟩] })
    | .ok (a, scene) => (.ok a, { h with scene, fault, journal := h.journal ++ [⟨call, report a⟩] })

end Host

end FormulaNet
