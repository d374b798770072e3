import GraphSelect.Command.Directory
import GraphSelect.Main
import GraphSelect.Proofs.Command.Agreement
import GraphSelect.Proofs.Command.Answers
import GraphSelect.Proofs.Command.Console
import GraphSelect.Proofs.Command.Directories
import GraphSelect.Proofs.Command.Failures
import GraphSelect.Proofs.Command.Logs
import GraphSelect.Proofs.Diagnostic.Coloring
import GraphSelect.Proofs.Json.RoundTrip
import GraphSelect.Proofs.Number.Whole
import GraphSelect.Proofs.Operation.Accounts
import GraphSelect.Proofs.Operation.Building
import GraphSelect.Proofs.Operation.Decoding
import GraphSelect.Proofs.Operation.Merging
import GraphSelect.Proofs.Operation.Shapes
import GraphSelect.Proofs.Operation.Stages
import GraphSelect.Proofs.Selection.Depth
import GraphSelect.Proofs.Selection.Growth
import GraphSelect.Proofs.Selection.Lines
import GraphSelect.Proofs.Selection.Pruning
import GraphSelect.Proofs.Selection.Uniqueness
import GraphSelect.Proofs.Selector.Parsing
import GraphSelect.Proofs.Text.Partners
