import BoxLang.Binary64.Basic
import BoxLang.Binary64.Rounding
import BoxLang.Binary64.Shortest
import BoxLang.Binary64.Text
import BoxLang.CommandLine.Arguments
import BoxLang.CommandLine.Basic
import BoxLang.Engine.Basic
import BoxLang.Engine.Error
import BoxLang.Expr.Basic
import BoxLang.Expr.Cost
import BoxLang.Expr.Nesting
import BoxLang.Expr.Outline
import BoxLang.Expr.Parts
import BoxLang.Expr.Scoping
import BoxLang.Heap.Basic
import BoxLang.Heap.Bindings
import BoxLang.Heap.Delegation
import BoxLang.Heap.Kind
import BoxLang.Heap.Show
import BoxLang.Heap.Values
import BoxLang.Machine.Basic
import BoxLang.Machine.Call
import BoxLang.Machine.Error
import BoxLang.Machine.Frame
import BoxLang.Machine.Semantics
import BoxLang.Machine.Stack
import BoxLang.Main
import BoxLang.Reader.Basic
import BoxLang.Reader.Descent
import BoxLang.Reader.Fault
import BoxLang.Reader.Grammar
import BoxLang.Reader.Numeral
import BoxLang.Reader.Span
import BoxLang.Reader.State
import BoxLang.Report.Basic
import BoxLang.Report.Piece
import BoxLang.Report.Snippet
import BoxLang.Report.SourceLine
import BoxLang.Text.Blank
import BoxLang.Text.CharSet
import BoxLang.Text.Columns
import BoxLang.Text.Lines
import BoxLang.Text.Outline
import BoxLang.Text.Printable
import BoxLang.Text.Quoted
import BoxLang.Text.Utf8
import BoxLang.Proofs.Engine.Bounds
import BoxLang.Proofs.Engine.Diagnostics
import BoxLang.Proofs.Engine.Isolation
import BoxLang.Proofs.Engine.Joining
import BoxLang.Proofs.Engine.Sessions
import BoxLang.Proofs.Engine.Threads
import BoxLang.Proofs.Expr.Agreement
import BoxLang.Proofs.Heap.Correspondence
import BoxLang.Proofs.Heap.Delegation
import BoxLang.Proofs.Heap.Printing
import BoxLang.Proofs.Heap.References
import BoxLang.Proofs.Heap.Retention
import BoxLang.Proofs.Machine.Acyclicity
import BoxLang.Proofs.Machine.CallScopes
import BoxLang.Proofs.Machine.Confinement
import BoxLang.Proofs.Machine.Cost
import BoxLang.Proofs.Machine.DefiniteAssignment
import BoxLang.Proofs.Machine.Discipline
import BoxLang.Proofs.Machine.ExactCost
import BoxLang.Proofs.Machine.Kinds
import BoxLang.Proofs.Machine.Limits
import BoxLang.Proofs.Machine.LocalSteps
import BoxLang.Proofs.Machine.Parallel
import BoxLang.Proofs.Machine.Phases
import BoxLang.Proofs.Machine.Running
import BoxLang.Proofs.Machine.Simulation
import BoxLang.Proofs.Machine.Termination
import BoxLang.Proofs.Machine.WellFormedness
import BoxLang.Proofs.Reader.Boundaries
import BoxLang.Proofs.Reader.Completeness
import BoxLang.Proofs.Reader.Continuing
import BoxLang.Proofs.Reader.Cursors
import BoxLang.Proofs.Reader.Descent
import BoxLang.Proofs.Reader.Evidence
import BoxLang.Proofs.Reader.Literals
import BoxLang.Proofs.Reader.Moves
import BoxLang.Proofs.Reader.NestingLimit
import BoxLang.Proofs.Reader.Numerals
import BoxLang.Proofs.Reader.Positions
import BoxLang.Proofs.Reader.Prefixes
import BoxLang.Proofs.Reader.Safety
import BoxLang.Proofs.Reader.Shapes
import BoxLang.Proofs.Reader.Soundness
import BoxLang.Proofs.Reader.Tokens
import BoxLang.Proofs.Reader.Trees
import BoxLang.Proofs.Report.Colours
import BoxLang.Proofs.Report.Layout
import BoxLang.Proofs.Report.Location
import BoxLang.Proofs.Report.Places
