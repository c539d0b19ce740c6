import FormulaNet.Formula.Condition
import FormulaNet.Formula.Operators
import FormulaNet.Formula.Read
import FormulaNet.Formula.UserAttribute
import FormulaNet.Operation.Json
import FormulaNet.Scope.Container
import FormulaNet.Scope.Tracer
import FormulaNet.Proofs.Layout
import FormulaNet.Proofs.Place
import FormulaNet.Proofs.Growth
import FormulaNet.Proofs.Invariant
import FormulaNet.Proofs.Reachable
import FormulaNet.Proofs.Frame
import FormulaNet.Proofs.Steps
import FormulaNet.Proofs.Trace
import FormulaNet.Proofs.Replay
import FormulaNet.Proofs.Driver
import FormulaNet.Proofs.Links
import FormulaNet.Proofs.Wiring
import FormulaNet.Proofs.Slots
import FormulaNet.Proofs.Feeding
import FormulaNet.Proofs.Formula
import FormulaNet.Proofs.Parallel
import FormulaNet.Proofs.Spelling
import FormulaNet.Proofs.Plan
import FormulaNet.Proofs.Ready
import FormulaNet.Proofs.Collapse
import FormulaNet.Proofs.Direct
import FormulaNet.Proofs.Erasure
import FormulaNet.Proofs.Script
import FormulaNet.Proofs.Gathering
import FormulaNet.Proofs.Population
import FormulaNet.Proofs.Acyclic
import FormulaNet.Proofs.Holding
import FormulaNet.Proofs.Uniform
import FormulaNet.Proofs.IdleScope
import FormulaNet.Proofs.Inputs
import FormulaNet.Proofs.Acceptance
import FormulaNet.Proofs.Narration
import FormulaNet.Proofs.Provenance
import FormulaNet.Proofs.Sourced
import FormulaNet.Proofs.Grammar
import FormulaNet.Proofs.Grouping
import FormulaNet.Proofs.ReadBack
import FormulaNet.Proofs.Branching
import FormulaNet.Proofs.Template
import FormulaNet.Proofs.NewAttribute
import FormulaNet.Proofs.Force
import FormulaNet.Proofs.Introspection
import FormulaNet.Proofs.Loading
import FormulaNet.Proofs.NormalForm
import FormulaNet.Proofs.Elements
import FormulaNet.Proofs.Legible
import FormulaNet.Proofs.Exposure
import FormulaNet.Proofs.Comparing
import FormulaNet.Proofs.Numbering
import FormulaNet.Proofs.Separators
