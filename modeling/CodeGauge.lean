import CodeGauge.Main
import CodeGauge.Proofs.CallGraph.Builder
import CodeGauge.Proofs.Tree.Walk
import CodeGauge.Proofs.CallGraph.Lexical
import CodeGauge.Proofs.Literal.Scan
import CodeGauge.Proofs.Literal.StringLiteral
import CodeGauge.Proofs.Survey.Measure
import CodeGauge.Proofs.Report.Fold
import CodeGauge.Proofs.Usage
import CodeGauge.Proofs.Number.Binary
import CodeGauge.Proofs.Report.Balance
import CodeGauge.Proofs.Survey.Run
import CodeGauge.Proofs.Path
import CodeGauge.Proofs.Disk.Listing
import CodeGauge.Proofs.Scan.Candidates
import CodeGauge.Proofs.Scan.Selection
import CodeGauge.Proofs.Settings.Layers
import CodeGauge.Proofs.Survey.Classes
import CodeGauge.Proofs.Settings.Faults
import CodeGauge.Proofs.Number.Double
import CodeGauge.Proofs.Report.Shown
import CodeGauge.Proofs.Scan.Faults
import CodeGauge.Proofs.Settings.Accepted
import CodeGauge.Proofs.Settings.Scripts
import CodeGauge.Proofs.Command.Agreement
import CodeGauge.Proofs.Report.Document
import CodeGauge.Proofs.Markup.Literal
import CodeGauge.Proofs.CallGraph.Edges
import CodeGauge.Proofs.CallGraph.Global
import CodeGauge.Proofs.Report.Rows
import CodeGauge.Proofs.Tally.Structure
import CodeGauge.Proofs.Command.Verbatim
import CodeGauge.Proofs.Literal.Alternatives
import CodeGauge.Proofs.Literal.SameString
import CodeGauge.Proofs.Number.Rounding
import CodeGauge.Proofs.Number.Whole
import CodeGauge.Proofs.Literal.NumericLiteral
import CodeGauge.Proofs.Literal.SameNumber
import CodeGauge.Proofs.Locality
import CodeGauge.Proofs.LineCounts
import CodeGauge.Proofs.Amount
import CodeGauge.Proofs.Disk.RoundTrip
import CodeGauge.Proofs.CallGraph.Anonymous
import CodeGauge.Proofs.Tree.Occurrence
import CodeGauge.Proofs.Recorder
