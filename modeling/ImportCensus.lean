import ImportCensus.Json.Reader
import ImportCensus.Report.Format
import ImportCensus.Report.Human
import ImportCensus.SourceFile
import ImportCensus.Text.Utf8
import ImportCensus.Url.Domain
import ImportCensus.Url.Percent
import ImportCensus.Url
import ImportCensus.Url.Reader
import ImportCensus.Json.Direct
import ImportCensus.Registry.DownloadPoint
import ImportCensus.Registry.Batch
import ImportCensus.Registry.Client
import ImportCensus.Toml.Fault
import ImportCensus.Toml.Quote
import ImportCensus.Toml.Item
import ImportCensus.Toml.Reader
import ImportCensus.Config
import ImportCensus.Config.Format
import ImportCensus.Config.Store
import ImportCensus.Survey.Scan
import ImportCensus.CommandLine
import ImportCensus.CommandLine.Reader
import ImportCensus.Program
import ImportCensus.Program.Analysis
import ImportCensus.Program.Run
import ImportCensus.Main
import ImportCensus.Proofs.Source.Bindings
import ImportCensus.Proofs.Source.Coverage
import ImportCensus.Proofs.Source.LineEnds
import ImportCensus.Proofs.Source.Literal
import ImportCensus.Proofs.Source.Separation
import ImportCensus.Proofs.Registry.Requests
import ImportCensus.Proofs.Registry.Address
import ImportCensus.Proofs.Package.Name
import ImportCensus.Proofs.Report
import ImportCensus.Proofs.Report.Format
import ImportCensus.Proofs.Report.Colour
import ImportCensus.Proofs.Config.Session
import ImportCensus.Proofs.Program.Local
import ImportCensus.Proofs.Registry.Document
import ImportCensus.Proofs.Program.Access
import ImportCensus.Proofs.Registry.Answers
import ImportCensus.Proofs.Survey.Order
import ImportCensus.Proofs.Survey.Fragments
import ImportCensus.Proofs.Usage.Ranking
import ImportCensus.Proofs.Registry.Spelling
import ImportCensus.Proofs.Survey.Target
import ImportCensus.Proofs.Config.Interleaving
import ImportCensus.Proofs.Config.Table
import ImportCensus.Proofs.Program.Settings
import ImportCensus.Proofs.Program.Tasks
import ImportCensus.Proofs.Registry.Base
import ImportCensus.Proofs.Timestamp
import ImportCensus.Proofs.Number.Grouped
import ImportCensus.Proofs.Path.Relative
import ImportCensus.Proofs.Report.Numbers
import ImportCensus.Proofs.Report.Rows
import ImportCensus.Proofs.Report.Verbose
import ImportCensus.Proofs.Path.Respelling
import ImportCensus.Proofs.Path.Order
import ImportCensus.Proofs.Usage.FileMap
import ImportCensus.Proofs.SourceFile
