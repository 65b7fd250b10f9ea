import TaskScript.Bindings
import TaskScript.CommandLine.Standard
import TaskScript.Fault
import TaskScript.Invocation
import TaskScript.Main
import TaskScript.Proofs.CommandLine.Exit
import TaskScript.Proofs.CommandLine.Tokens
import TaskScript.Proofs.File.Discovery
import TaskScript.Proofs.Reading.Accounting
import TaskScript.Proofs.Reading.Arguments
import TaskScript.Proofs.Reading.Bodies
import TaskScript.Proofs.Reading.Concatenation
import TaskScript.Proofs.Reading.Form
import TaskScript.Proofs.Reading.Quotation
import TaskScript.Proofs.Reading.Recording
import TaskScript.Proofs.Reading.Rendering
import TaskScript.Proofs.Reading.Shape
import TaskScript.Proofs.Reading.Surplus
import TaskScript.Proofs.Reference.Calls
import TaskScript.Proofs.Reference.Extent
import TaskScript.Proofs.Reference.Identifier
import TaskScript.Proofs.Reference.Index
import TaskScript.Proofs.Reference.Scan
import TaskScript.Proofs.Reference.Separation
import TaskScript.Proofs.Reference.Substitution
import TaskScript.Proofs.Run.Circles
import TaskScript.Proofs.Run.Deletion
import TaskScript.Proofs.Run.Depth
import TaskScript.Proofs.Run.Diagnostics
import TaskScript.Proofs.Run.Expansion
import TaskScript.Proofs.Run.Footprint
import TaskScript.Proofs.Run.Lasso
import TaskScript.Proofs.Run.Mishaps
import TaskScript.Proofs.Run.Nesting
import TaskScript.Proofs.Run.Scoping
import TaskScript.Proofs.Run.Shadowing
import TaskScript.Proofs.Run.Soundness
import TaskScript.Proofs.Run.Strictness
import TaskScript.Proofs.Script.Acceptance
import TaskScript.Proofs.Script.Bookkeeping
import TaskScript.Proofs.Script.Dump
import TaskScript.Proofs.Text.Matching
import TaskScript.Reference.Passes
import TaskScript.Run.Execution
import TaskScript.Script.Check
import TaskScript.Script.Dump
import TaskScript.Script.Reading
import TaskScript.Shell.Spawn
