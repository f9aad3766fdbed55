import RaceFarm.Text.Blank
import RaceFarm.Text.Cut
import RaceFarm.Text.Quoted
import RaceFarm.KeyTable
import RaceFarm.Json.Scan
import RaceFarm.Binary64.Numeral
import RaceFarm.Json.Fault
import RaceFarm.Json.Decode
import RaceFarm.Sha256
import RaceFarm.Checker.Frontend
import RaceFarm.ConfigError
import RaceFarm.Build
import RaceFarm.Checker.Config
import RaceFarm.Checker.RaceVerifier
import RaceFarm.Severity
import RaceFarm.Benchmark.Expectation
import RaceFarm.Benchmark.Monitor
import RaceFarm.Revision
import RaceFarm.Assembly
import RaceFarm.Run
import RaceFarm.Catalogue
import RaceFarm.Deployment
import RaceFarm.Report.Generation
import RaceFarm.Report.Judgement
import RaceFarm.CommandLine.Answer
import RaceFarm.Main
import RaceFarm.Proofs.Run.Publication
import RaceFarm.Proofs.Assembly.Atomicity
import RaceFarm.Proofs.Assembly.Provenance
import RaceFarm.Proofs.Build.Command
import RaceFarm.Proofs.Build.Assignments
import RaceFarm.Proofs.Assembly.Reuse
import RaceFarm.Proofs.Assembly.Reordering
import RaceFarm.Proofs.Checker.Tokens
import RaceFarm.Proofs.Checker.Separator
import RaceFarm.Proofs.Checker.ShellLine
import RaceFarm.Proofs.Run.Noninterference
import RaceFarm.Proofs.Text.Trimming
import RaceFarm.Proofs.Text.Words
import RaceFarm.Proofs.Benchmark.Lines
import RaceFarm.Proofs.Benchmark.Accounts
import RaceFarm.Proofs.Benchmark.Chunks
import RaceFarm.Proofs.Benchmark.Deviations
import RaceFarm.Proofs.Assembly.Following
import RaceFarm.Proofs.Assembly.TwoPasses
import RaceFarm.Proofs.Deployment.Pipelines
import RaceFarm.Proofs.Deployment.Identity
import RaceFarm.Proofs.Deployment.Uploads
import RaceFarm.Proofs.Deployment.Supply
import RaceFarm.Proofs.Binary64.Basin
import RaceFarm.Proofs.Binary64.Shortest
import RaceFarm.Proofs.Binary64.Rounding
import RaceFarm.Proofs.Binary64.Numerals
import RaceFarm.Proofs.Binary64.NumeralChars
import RaceFarm.Proofs.Json.Strings
import RaceFarm.Proofs.Json.Numbers
import RaceFarm.Proofs.Json.Compact
import RaceFarm.Proofs.Json.Layout
import RaceFarm.Proofs.Json.Readers
import RaceFarm.Proofs.Json.Collections
import RaceFarm.Proofs.Json.Records
import RaceFarm.Proofs.Settings.Loading
import RaceFarm.Proofs.Catalogue.Encoding
import RaceFarm.Proofs.Catalogue.Selection
import RaceFarm.Proofs.Benchmark.ResultLines
import RaceFarm.Proofs.Benchmark.ResultValues
import RaceFarm.Proofs.Assembly.ToolTests
import RaceFarm.Proofs.CommandLine.ExitStatus
