/-
This file opens and closes tracers. A tracer starts a new log when it opens;
when it closes, tracing stops and the log is printed as its options say: on one
line, line by line, or both.
-/

import FormulaNet.Session.Basic

namespace FormulaNet

structure TracerOptions where
  trace : Bool
  /-- Print the log on one line. -/
  printLine : Bool
  /-- Print the log line by line. -/
  printBlock : Bool
  deriving DecidableEq

namespace TracerOptions

def default : TracerOptions := ⟨true, false, false⟩

open Json

def ofJson? (j : Json) : Option TracerOptions :=
  match fields? ["trace", "print_trace", "pprint_trace"] j with
  | some [trace, printLine, printBlock] => do
    pure ⟨← defaulted? default.trace bool? trace, ← defaulted? default.printLine bool? printLine,
      ← defaulted? default.printBlock bool? printBlock⟩
  | _ => none

/-- The options a text describes. -/
def read? (text : String) : Option TracerOptions := (Json.read? text).bind ofJson?

/-- Whether closing has anything to print. -/
def prints (o : TracerOptions) : Bool := o.printLine || o.printBlock

end TracerOptions

namespace Trace

/-- A log on one line. -/
def printedLine (commands : List String) : List String :=
  ["nodecalc command-stack: " ++ Text.bracketed (commands.map Text.quoted)]

/-- A log line by line, between two rules. -/
def printedBlock (commands : List String) : List String :=
  "~~~~~~~~~~~~~ nodecalc command-stack: ~~~~~~~~~~~~~" ::
    (commands ++ ["~~~~~~~~~~~~~~~~~~~~~~~~~~~~~~~~~~~~~~~~~~~~~~~~~~~"])

end Trace

namespace Program

def openTracer (o : TracerOptions) : Program Unit := editRecorder (·.beginTrace o.trace)

def isTracing : Program Bool := return (← get).recorder.tracing

/-- The commands logged so far. -/
def tracedCommands : Program (List String) := return Trace.texts (← get).recorder.log

/-- Closes a tracer. A tracer that should print but did not trace says so. -/
def closeTracer (o : TracerOptions) : Program Unit := do
  editRecorder (·.endTrace)
  if o.prints then
    if o.trace then
      let commands ← tracedCommands
      print ((if o.printLine then Trace.printedLine commands else []) ++
        (if o.printBlock then Trace.printedBlock commands else []))
    else warn .notTraced

/-- Closes a tracer and gives its log. -/
def finishTracer (o : TracerOptions) : Program (List String) := do
  let commands ← tracedCommands
  closeTracer o
  pure commands

end Program

end FormulaNet
