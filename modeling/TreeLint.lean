import TreeLint.Lint.Stable
import TreeLint.Main
import TreeLint.Report.Progress
import TreeLint.Script.Parse
import TreeLint.Tree.Json
import TreeLint.Proofs.Edit.Rewriting
import TreeLint.Proofs.Edit.Splicing
import TreeLint.Proofs.Fix.Acceptance
import TreeLint.Proofs.Fix.Selection
import TreeLint.Proofs.Fix.Application
import TreeLint.Proofs.Lint.Stability
import TreeLint.Proofs.Order
import TreeLint.Proofs.Lint.Entries
import TreeLint.Proofs.Tree.InFile
import TreeLint.Proofs.Document.InFile
import TreeLint.Proofs.Diagnostic.InFile
import TreeLint.Proofs.Rule.InFile
import TreeLint.Proofs.Rule.Uniform
import TreeLint.Proofs.Lint.InFile
import TreeLint.Proofs.Path.Components
import TreeLint.Proofs.Run.Key
import TreeLint.Proofs.Disk.Place
import TreeLint.Proofs.Run.Sound
import TreeLint.Proofs.Run.Job
import TreeLint.Proofs.Run.Schedule
import TreeLint.Proofs.Run.Refinement
import TreeLint.Proofs.Document.Comparison
import TreeLint.Proofs.Tree.Growth
import TreeLint.Proofs.Source.Utf16
import TreeLint.Proofs.Document.Nesting
import TreeLint.Proofs.Tree.Ascent
import TreeLint.Proofs.Document.Building
import TreeLint.Proofs.Document.Layout
import TreeLint.Proofs.Lint.Completion
import TreeLint.Proofs.Script.Parse
import TreeLint.Proofs.Tree.Check
import TreeLint.Proofs.Tree.Laminar
import TreeLint.Proofs.Tree.Tour
import TreeLint.Proofs.Fix.Independence
import TreeLint.Proofs.Fix.Stored
import TreeLint.Proofs.Run.Verdict
import TreeLint.Proofs.Rewriting.Statement
import TreeLint.Proofs.Script.Piece
import TreeLint.Proofs.Rewriting.Script
import TreeLint.Proofs.Script.Insertion
import TreeLint.Proofs.Rewriting.Insertion
import TreeLint.Proofs.Tree.Likeness
import TreeLint.Proofs.Script.Returned
import TreeLint.Proofs.Document.Bounds
import TreeLint.Proofs.Rule.Fixes
import TreeLint.Proofs.Lint.Fixes
import TreeLint.Proofs.Path.Relative
import TreeLint.Proofs.Edit.Straying
import TreeLint.Proofs.Lint.Pass
import TreeLint.Proofs.Fix.Merging
import TreeLint.Proofs.Script.Program
import TreeLint.Proofs.Rule.EventProperty
import TreeLint.Proofs.Rule.ReturnAwait
import TreeLint.Proofs.Rule.Awaiting
import TreeLint.Proofs.Source.Boundary
import TreeLint.Proofs.Source.Lines
import TreeLint.Proofs.Path.Within
import TreeLint.Proofs.Text.Part
import TreeLint.Proofs.Text.Clip
import TreeLint.Proofs.Diagnostic.Template
import TreeLint.Proofs.Report.Preview
import TreeLint.Proofs.Report.Snippet
import TreeLint.Proofs.Fix.DryRun
import TreeLint.Proofs.Fix.Reload
import TreeLint.Proofs.Run.Discovery
import TreeLint.Proofs.Script.Coverage
import TreeLint.Proofs.Script.Termination
import TreeLint.Proofs.Script.Precedence
import TreeLint.Proofs.Script.Quoting
import TreeLint.Proofs.Tree.Construction
import TreeLint.Proofs.Tree.Traversal
import TreeLint.Proofs.Document.Climbing
import TreeLint.Proofs.Trace.Retention
import TreeLint.Proofs.Rewriting.Commenting
import TreeLint.Proofs.Rewriting.Objects
import TreeLint.Proofs.Rule.Commenting
