/-
This file says once what can be done in a session. A step is an action of its
user, a container scope that is opened or closed, a fault that is armed or taken
back, or a write to the scene past the session; what happens in a session are
steps and tracers. Each of them is a program, and the session after it is the
session that its program leaves, whether it succeeded or failed. A relation that
adds up over programs holds over whatever happens if it holds over each thing
that does.
-/

import FormulaNet.Proofs.Actions
import FormulaNet.Proofs.Reachable
import FormulaNet.Scope.Container
import FormulaNet.Scope.Tracer

namespace FormulaNet

/-! ### Steps -/

namespace Program

/-- Arms a fault, or takes one back. -/
def arm (fault : Option Fault) : Program Unit :=
  modify fun s => { s with host := { s.host with fault } }

/-- Writes to the scene past the session. -/
def write (change : Scene.Change) : Program Unit :=
  modify fun s => { s with host := { s.host with scene := s.host.scene.after change } }

end Program

/-- What happens in a session between the opening of a tracer and the next one's: actions of its
user, container scopes, a fault that is armed or taken back, and writes to the scene past the
session. -/
inductive Step where
  | act (action : Action)
  | arm (fault : Option Fault)
  | openContainer (options : ContainerOptions)
  | finishContainer (scope : ContainerScope)
  | dropContainer (scope : ContainerScope)
  | abandonContainer
  | write (change : Scene.Change)

namespace Step

/-- What is to be run for a step. -/
def program (o : Options) : Step → Program Item
  | act action => action.program o
  | arm fault => do
    Program.arm fault
    pure .done
  | openContainer options => return .scope (← Program.openContainer options)
  | finishContainer scope => return .container (← Program.finishContainer scope)
  | dropContainer scope => do
    Program.dropContainer scope
    pure .done
  | abandonContainer => do
    Program.abandonContainer
    pure .done
  | write change => do
    Program.write change
    pure .done

/-- The session after a step. -/
def perform (o : Options) (s : Session) (step : Step) : Session :=
  ((step.program o).exec s).2

/-- What a step may set. -/
def literals : Step → List Channel
  | act action => action.literals
  | _ => []

/-- Whether a step has to do with neither container scopes nor writes past the session. -/
def isPlain : Step → Bool
  | act _ => true
  | arm _ => true
  | _ => false

end Step

/-! ### Happenings -/

/-- What happens in a session: a step, or a tracer that is opened or closed. -/
inductive Happening where
  | step (step : Step)
  | openTracer (options : TracerOptions)
  | closeTracer (options : TracerOptions)

namespace Happening

/-- What is to be run for a happening. -/
def program (o : Options) : Happening → Program Item
  | step taken => taken.program o
  | openTracer options => do
    Program.openTracer options
    pure .done
  | closeTracer options => do
    Program.closeTracer options
    pure .done

/-- The session after a happening. -/
def perform (o : Options) (s : Session) (happening : Happening) : Session :=
  ((happening.program o).exec s).2

theorem perform_openTracer (o : Options) (s : Session) (options : TracerOptions) :
    perform o s (openTracer options) = (Program.exec (Program.openTracer options) s).2 :=
  Program.exec_wrap_snd _ _ s

theorem perform_closeTracer (o : Options) (s : Session) (options : TracerOptions) :
    perform o s (closeTracer options) = (Program.exec (Program.closeTracer options) s).2 :=
  Program.exec_wrap_snd _ _ s

end Happening

namespace Session

/-- The session after several happenings. -/
def undergo (o : Options) (s : Session) (happenings : List Happening) : Session :=
  happenings.foldl (fun s happening => happening.perform o s) s

theorem undergo_append (o : Options) (s : Session) (first second : List Happening) :
    s.undergo o (first ++ second) = (s.undergo o first).undergo o second := List.foldl_append

/-- The session after several steps. -/
def run (o : Options) (s : Session) (steps : List Step) : Session :=
  s.undergo o (steps.map .step)

end Session

/-- What adds up holds over several happenings if it holds over each of them. -/
theorem Program.Lasting.undergo {R : Session → Session → Prop} (lasting : Lasting R) {o : Options}
    {happenings : List Happening}
    (each : ∀ happening ∈ happenings, Respects R (happening.program o)) (s : Session) :
    R s (s.undergo o happenings) := by
  induction happenings generalizing s with
  | nil => exact lasting.refl s
  | cons happening rest inductionHypothesis =>
    obtain ⟨first, others⟩ := List.forall_mem_cons.mp each
    exact lasting.trans (first s) (inductionHypothesis others _)

theorem Program.Lasting.run {R : Session → Session → Prop} (lasting : Lasting R) {o : Options}
    {steps : List Step} (each : ∀ step ∈ steps, Respects R (step.program o)) (s : Session) :
    R s (s.run o steps) := by
  refine lasting.undergo (fun happening member => ?_) s
  obtain ⟨step, inside, rfl⟩ := List.mem_map.mp member
  exact each step inside

end FormulaNet
