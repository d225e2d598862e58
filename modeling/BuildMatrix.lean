import BuildMatrix.Main
import BuildMatrix.Pipeline.Rehearsal
import BuildMatrix.Proofs.Config.Anchoring
import BuildMatrix.Proofs.Pipeline.DryRun
import BuildMatrix.Proofs.Pipeline.EventLog
import BuildMatrix.Proofs.Pipeline.StateMachine
import BuildMatrix.Proofs.Request.ExitStatus
import BuildMatrix.Proofs.Context.Isolation
import BuildMatrix.Proofs.CommandLine.Performance
import BuildMatrix.Proofs.Request.Phases
import BuildMatrix.Proofs.Json.OneLine
import BuildMatrix.Proofs.Pipeline.Muting
import BuildMatrix.Proofs.CommandLine.Streams
import BuildMatrix.Proofs.Matrix.Rows
import BuildMatrix.Proofs.Json.Strings
import BuildMatrix.Proofs.Command.Display
import BuildMatrix.Proofs.Command.Pasting
import BuildMatrix.Proofs.Command.ShellLine
import BuildMatrix.Proofs.Event.Encoding
import BuildMatrix.Proofs.Console.Transcript
import BuildMatrix.Proofs.Doctor.Coverage
import BuildMatrix.Proofs.Request.Taxonomy
import BuildMatrix.Proofs.Selection.Grammar
import BuildMatrix.Proofs.Config.Override
import BuildMatrix.Proofs.Path.Absolute
import BuildMatrix.Proofs.Console.Colour
import BuildMatrix.Proofs.FileTree.Directories
import BuildMatrix.Proofs.Config.Schema
import BuildMatrix.Proofs.Diagnostic.Captured
import BuildMatrix.Proofs.Context.HandedPaths
import BuildMatrix.Proofs.Doctor.Queries
import BuildMatrix.Proofs.Json.Reader
import BuildMatrix.Proofs.FileTree.Lineage
