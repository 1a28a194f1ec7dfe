import LineSieve.Main
import LineSieve.Proofs.Classifier.CommentText
import LineSieve.Proofs.Run.Strip
import LineSieve.Proofs.Sieve.OpenCalls
import LineSieve.Proofs.Sieve.Tally
import LineSieve.Proofs.Sieve.Annotations
import LineSieve.Proofs.Sieve.Cleanness
import LineSieve.Proofs.FileTree.Updates
import LineSieve.Proofs.Run.Frame
import LineSieve.Proofs.Run.Pool
import LineSieve.Proofs.Run.Progress
import LineSieve.Proofs.Aggregate
import LineSieve.Proofs.Run.Schedule
import LineSieve.Proofs.Classifier.Ledger
import LineSieve.Proofs.Selection.Targets
import LineSieve.Proofs.Run.Effects
import LineSieve.Proofs.Run.DryRun
import LineSieve.Proofs.Run.Reported
import LineSieve.Proofs.Faults
import LineSieve.Proofs.Verify
import LineSieve.Proofs.FileTree.Growth
import LineSieve.Proofs.FileTree.Rooted
import LineSieve.Proofs.Selection.Reach
import LineSieve.Proofs.Selection.Coverage
import LineSieve.Proofs.CommandLine.StripVerify
import LineSieve.Proofs.Sieve.Recount
import LineSieve.Proofs.Sieve.Stored
import LineSieve.Proofs.Sieve.DecisionLog
import LineSieve.Proofs.Sieve.Headers
import LineSieve.Proofs.Sieve.InlineAnnotations
import LineSieve.Proofs.Classifier.Slices
import LineSieve.Proofs.Sieve.Inert
import LineSieve.Proofs.Classifier.BlockLayout
import LineSieve.Proofs.Classifier.Indentation
import LineSieve.Proofs.Selection.DialectName
import LineSieve.Proofs.Findings
import LineSieve.Proofs.Selection.Exact
import LineSieve.Proofs.Folders.Partition
import LineSieve.Proofs.Folders.Keys
import LineSieve.Proofs.Run.Failures
import LineSieve.Proofs.Run.Changed
import LineSieve.Proofs.Text.RoundTrip
import LineSieve.Proofs.Pattern.CallNames
import LineSieve.Proofs.Encoding.Decoding
import LineSieve.Proofs.Report.Export
