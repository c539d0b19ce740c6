/-
This file holds traces. A trace is a log of what happened to the scene:
creations, settings, connections, new attributes and reads. It is written out as
a list of commands, in which the K-th created node is called `varK` and the N-th
read `valN`; a plug on a node that was created earlier in the log is written
relative to its variable. The log itself holds plain names only, so the
variables are a matter of writing it out.
-/

import FormulaNet.Plug

namespace FormulaNet.Trace

inductive Event where
  | create (node type : String)
  | set (plug text : String)
  | connect (source dest : String)
  | addAttribute (node name : String) (flags : List String)
  | read (plug : String)
  deriving DecidableEq

/-- The node an event creates. -/
def Event.created? : Event → Option String
  | create node _ => some node
  | _ => none

def Event.isRead : Event → Bool
  | read _ => true
  | _ => false

/-- The created nodes of a log, in order: the K-th is `varK`. -/
def created (log : List Event) : List String := log.filterMap Event.created?

/-- The number of reads in a log. -/
def reads (log : List Event) : Nat := log.countP Event.isRead

/-! ### Commands -/

/-- A node or plug as it is written: by its name, or relative to a variable. -/
inductive Term where
  | quoted (text : String)
  | created (index : Nat)
  | member (index : Nat) (attr : String)
  deriving DecidableEq

inductive Command where
  | create (index : Nat) (type node : String)
  | set (target : Term) (text : String)
  | connect (source dest : Term)
  | addAttribute (node : Term) (name : String) (flags : List String)
  | read (index : Nat) (target : Term)
  deriving DecidableEq

/-- A node, given the nodes created so far. -/
def nodeTerm (nodes : List String) (node : String) : Term :=
  match nodes.idxOf? node with
  | some i => .created (i + 1)
  | none => .quoted node

/-- A plug, given the nodes created so far. -/
def plugTerm (nodes : List String) (plug : String) : Term :=
  match Plug.split? plug with
  | some (node, attr) =>
    match nodes.idxOf? node with
    | some i => .member (i + 1) attr
    | none => .quoted plug
  | none => .quoted plug

/-- The command of an event, given the events before it. -/
def command (before : List Event) : Event → Command
  | .create node type => .create ((created before).length + 1) type node
  | .set plug text => .set (plugTerm (created before) plug) text
  | .connect source dest =>
    .connect (plugTerm (created before) source) (plugTerm (created before) dest)
  | .addAttribute node name flags => .addAttribute (nodeTerm (created before) node) name flags
  | .read plug => .read (reads before + 1) (plugTerm (created before) plug)

/-- The commands of the events behind a part of the log. -/
def commandsAfter (before : List Event) : List Event → List Command
  | [] => []
  | event :: rest => command before event :: commandsAfter (before ++ [event]) rest

/-- The commands of a log. -/
def commands (log : List Event) : List Command := commandsAfter [] log

/-! ### Texts -/

def variableName (index : Nat) : String := "var" ++ toString index

/-- The label of a read. -/
def readLabel (index : Nat) : String := "val" ++ toString index

def Term.text : Term → String
  | quoted text => "'" ++ text ++ "'"
  | created index => variableName index
  | member index attr => variableName index ++ " + '." ++ attr ++ "'"

def Command.text : Command → String
  | create index type node =>
    variableName index ++ " = create_node('" ++ type ++ "', name='" ++ node ++ "')"
  | set target text => "set(" ++ target.text ++ ", " ++ text ++ ")"
  | connect source dest => "connect(" ++ source.text ++ ", " ++ dest.text ++ ")"
  | addAttribute node name flags =>
    "add_attr(" ++ ", ".intercalate (node.text :: ("long_name='" ++ name ++ "'") :: flags) ++ ")"
  | read index target => readLabel index ++ " = get(" ++ target.text ++ ")"

/-- A log written out, one text for each command. -/
def texts (log : List Event) : List String := (commands log).map Command.text

end FormulaNet.Trace
