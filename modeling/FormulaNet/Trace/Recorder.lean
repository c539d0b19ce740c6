/-
This file holds the recorder. While tracing is on it appends events to its log,
and while container scopes are open it collects the nodes that are created. The
two are independent.
-/

import FormulaNet.Trace.Event

namespace FormulaNet

structure Recorder where
  tracing : Bool
  log : List Trace.Event
  /-- How many container scopes are open. -/
  scopes : Nat
  /-- The nodes created since a container scope was opened last. -/
  collected : List String
  deriving DecidableEq

namespace Recorder

def idle : Recorder := ⟨false, [], 0, []⟩

/-- Starts a new log, on or off. -/
def beginTrace (r : Recorder) (on : Bool) : Recorder := { r with tracing := on, log := [] }

/-- Stops tracing and keeps the log. -/
def endTrace (r : Recorder) : Recorder := { r with tracing := false }

/-- Opens a container scope and starts collecting afresh. -/
def beginContainer (r : Recorder) : Recorder := { r with scopes := r.scopes + 1, collected := [] }

/-- Closes a container scope. Behind the last one nothing stays collected. -/
def endContainer (r : Recorder) : Recorder :=
  { r with
    scopes := r.scopes - 1
    collected := if r.scopes - 1 = 0 then [] else r.collected }

/-- Logs an event, if tracing is on. -/
def record (r : Recorder) (event : Trace.Event) : Recorder :=
  if r.tracing then { r with log := r.log ++ [event] } else r

@[simp] theorem scopes_record (r : Recorder) (event : Trace.Event) :
    (r.record event).scopes = r.scopes := by
  rw [record]
  split <;> rfl

@[simp] theorem collected_record (r : Recorder) (event : Trace.Event) :
    (r.record event).collected = r.collected := by
  rw [record]
  split <;> rfl

/-- Collects a created node, if a container scope is open. -/
def collect (r : Recorder) (node : String) : Recorder :=
  if 0 < r.scopes then { r with collected := r.collected ++ [node] } else r

@[simp] theorem tracing_collect (r : Recorder) (node : String) :
    (r.collect node).tracing = r.tracing := by
  rw [collect]
  split <;> rfl

@[simp] theorem log_collect (r : Recorder) (node : String) : (r.collect node).log = r.log := by
  rw [collect]
  split <;> rfl

@[simp] theorem scopes_collect (r : Recorder) (node : String) :
    (r.collect node).scopes = r.scopes := by
  rw [collect]
  split <;> rfl

/-- The label of the next read, if tracing is on. -/
def nextLabel? (r : Recorder) : Option String :=
  if r.tracing then some (Trace.readLabel (Trace.reads r.log + 1)) else none

end Recorder

end FormulaNet
