import CheckMatrix.Main
import CheckMatrix.Proofs.Run.Cancellation
import CheckMatrix.Proofs.Run.Cleanup
import CheckMatrix.Proofs.Run.Refusal
import CheckMatrix.Proofs.Run.Verdict
import CheckMatrix.Proofs.Plan.Selecting
import CheckMatrix.Proofs.Plan.Agreement
import CheckMatrix.Proofs.Plan.Restriction
import CheckMatrix.Proofs.Text.Quoting
import CheckMatrix.Proofs.Text.Filling
import CheckMatrix.Proofs.Plan.QuotedWords
import CheckMatrix.Proofs.Text.Written
import CheckMatrix.Proofs.Plan.Displayed
import CheckMatrix.Proofs.Run.Phases
import CheckMatrix.Proofs.Text.Comments
import CheckMatrix.Proofs.Run.Listing
import CheckMatrix.Proofs.Config.RoundTrip
import CheckMatrix.Proofs.Plan.Acceptance
import CheckMatrix.Proofs.Run.ReportLines
import CheckMatrix.Proofs.Text.Scanning
import CheckMatrix.Proofs.Plan.References
import CheckMatrix.Proofs.Run.Received
import CheckMatrix.Proofs.Plan.Counting
import CheckMatrix.Proofs.Text.Standing
import CheckMatrix.Proofs.Plan.Insertion
import CheckMatrix.Proofs.FileTree.Subdirectories
import CheckMatrix.Proofs.Plan.StandIns
import CheckMatrix.Proofs.Plan.Transparency
import CheckMatrix.Proofs.Plan.Shadowing
import CheckMatrix.Proofs.Plan.Rearrangement
import CheckMatrix.Proofs.Plan.Composition
import CheckMatrix.Proofs.Plan.Naming
import CheckMatrix.Proofs.Run.Outcome
import CheckMatrix.Proofs.Run.Recording
import CheckMatrix.Proofs.Run.FailureSections
import CheckMatrix.Proofs.CommandLine.Language
import CheckMatrix.Proofs.FileTree.Custody
import CheckMatrix.Proofs.Config.FirstConfig
