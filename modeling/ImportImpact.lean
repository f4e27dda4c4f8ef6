import ImportImpact.Analysis.Analyzer
import ImportImpact.Analysis.Basic
import ImportImpact.Analysis.Options
import ImportImpact.Analysis.Repository
import ImportImpact.Change.Argument
import ImportImpact.Change.ChangedFile
import ImportImpact.Change.Kind
import ImportImpact.Change.PullRequest
import ImportImpact.CommandLine.Command
import ImportImpact.CommandLine.Reading
import ImportImpact.CommandLine.Run
import ImportImpact.CommandLine.Switch
import ImportImpact.CommandLine.Usage
import ImportImpact.Console.Lines
import ImportImpact.Console.Markup
import ImportImpact.Console.Table
import ImportImpact.Decimal.FloatText
import ImportImpact.Decimal.IntegerText
import ImportImpact.Decimal.Shortest
import ImportImpact.Encoding.Basic
import ImportImpact.Encoding.Utf16
import ImportImpact.Encoding.Utf8
import ImportImpact.Fault
import ImportImpact.FileSystem.Basic
import ImportImpact.FileSystem.Edit
import ImportImpact.FileSystem.ReadText
import ImportImpact.FileSystem.RealPath
import ImportImpact.FileSystem.Walk
import ImportImpact.Graph.Assembly
import ImportImpact.Graph.Edge
import ImportImpact.Graph.ImporterIndex
import ImportImpact.Graph.Neighbourhood
import ImportImpact.Host
import ImportImpact.Impact.Graph
import ImportImpact.Impact.Moment
import ImportImpact.Impact.PullRequest
import ImportImpact.Import.Extractor
import ImportImpact.Import.Form
import ImportImpact.Import.Resolver
import ImportImpact.Import.ScriptForms
import ImportImpact.Import.StyleForms
import ImportImpact.Journal.Basic
import ImportImpact.Journal.Configure
import ImportImpact.Journal.Layout
import ImportImpact.Journal.Level
import ImportImpact.Json.Escape
import ImportImpact.Json.Printer
import ImportImpact.Json.Reader
import ImportImpact.Main
import ImportImpact.Path.Basic
import ImportImpact.Path.Segment
import ImportImpact.Path.Size
import ImportImpact.Path.Written
import ImportImpact.Platform
import ImportImpact.Platform.Ordinary
import ImportImpact.Proofs.Analysis.Categories
import ImportImpact.Proofs.Analysis.ChangeOrder
import ImportImpact.Proofs.Analysis.Connected
import ImportImpact.Proofs.Analysis.Crawl
import ImportImpact.Proofs.Analysis.CrawlRefinement
import ImportImpact.Proofs.Analysis.Depth
import ImportImpact.Proofs.Analysis.Edges
import ImportImpact.Proofs.Analysis.Enclosure
import ImportImpact.Proofs.Analysis.Errors
import ImportImpact.Proofs.Analysis.Findings
import ImportImpact.Proofs.Analysis.ImportIndex
import ImportImpact.Proofs.Analysis.Isolation
import ImportImpact.Proofs.Analysis.Locality
import ImportImpact.Proofs.Analysis.Naming
import ImportImpact.Proofs.Analysis.OneName
import ImportImpact.Proofs.Analysis.Options
import ImportImpact.Proofs.Analysis.Place
import ImportImpact.Proofs.Analysis.Process
import ImportImpact.Proofs.Analysis.Reach
import ImportImpact.Proofs.Analysis.Relocated
import ImportImpact.Proofs.Analysis.Repository
import ImportImpact.Proofs.Analysis.Rescan
import ImportImpact.Proofs.Analysis.ScannedImports
import ImportImpact.Proofs.Analysis.StageFaults
import ImportImpact.Proofs.Analysis.Unreadable
import ImportImpact.Proofs.Change.Argument
import ImportImpact.Proofs.Change.Described
import ImportImpact.Proofs.Change.Distinct
import ImportImpact.Proofs.Change.Normal
import ImportImpact.Proofs.CommandLine.Act
import ImportImpact.Proofs.CommandLine.ChangesFile
import ImportImpact.Proofs.CommandLine.Run
import ImportImpact.Proofs.Console.Markup
import ImportImpact.Proofs.Encoding.Utf8
import ImportImpact.Proofs.FileSystem.Elsewhere
import ImportImpact.Proofs.FileSystem.Emptied
import ImportImpact.Proofs.FileSystem.Entries
import ImportImpact.Proofs.FileSystem.Folders
import ImportImpact.Proofs.FileSystem.Lookup
import ImportImpact.Proofs.FileSystem.Lossless
import ImportImpact.Proofs.FileSystem.PlainWalk
import ImportImpact.Proofs.FileSystem.Planted
import ImportImpact.Proofs.FileSystem.Relocated
import ImportImpact.Proofs.FileSystem.SameBelow
import ImportImpact.Proofs.FileSystem.Shape
import ImportImpact.Proofs.FileSystem.Survey
import ImportImpact.Proofs.FileSystem.Walk
import ImportImpact.Proofs.FileSystem.WithoutLinks
import ImportImpact.Proofs.FileSystem.Written
import ImportImpact.Proofs.FirstOccurrence
import ImportImpact.Proofs.Graph.Additions
import ImportImpact.Proofs.Graph.Assembly
import ImportImpact.Proofs.Graph.Chain
import ImportImpact.Proofs.Graph.Distance
import ImportImpact.Proofs.Graph.ImporterIndex
import ImportImpact.Proofs.Graph.Round
import ImportImpact.Proofs.Graph.Search
import ImportImpact.Proofs.Impact.Document
import ImportImpact.Proofs.Impact.WellFormed
import ImportImpact.Proofs.Import.ByteOrderMark
import ImportImpact.Proofs.Import.Candidate
import ImportImpact.Proofs.Import.Extractor
import ImportImpact.Proofs.Import.Grammar
import ImportImpact.Proofs.Import.LineEnds
import ImportImpact.Proofs.Import.LineStart
import ImportImpact.Proofs.Import.Literal
import ImportImpact.Proofs.Import.Occurrence
import ImportImpact.Proofs.Import.Resolver
import ImportImpact.Proofs.Import.ScriptForms
import ImportImpact.Proofs.Import.Spelling
import ImportImpact.Proofs.Import.Statement
import ImportImpact.Proofs.Import.StyleForms
import ImportImpact.Proofs.Journal.WithoutFile
import ImportImpact.Proofs.Json.Escape
import ImportImpact.Proofs.Json.Read
import ImportImpact.Proofs.Json.RoundTrip
import ImportImpact.Proofs.Json.Scalar
import ImportImpact.Proofs.Outcome
import ImportImpact.Proofs.Path.Below
import ImportImpact.Proofs.Path.Canonical
import ImportImpact.Proofs.Path.Evaluate
import ImportImpact.Proofs.Path.Inside
import ImportImpact.Proofs.Path.Segment
import ImportImpact.Proofs.Path.Written
import ImportImpact.Proofs.Settings.Apply
import ImportImpact.Proofs.Settings.Discovery
import ImportImpact.Proofs.Settings.Given
import ImportImpact.Proofs.Settings.Merge
import ImportImpact.Proofs.Settings.Saved
import ImportImpact.Proofs.Settings.SavedAsYaml
import ImportImpact.Proofs.Settings.Variable
import ImportImpact.Proofs.Text.Returns
import ImportImpact.Proofs.Text.Scan
import ImportImpact.Proofs.Text.Split
import ImportImpact.Proofs.Value.Keyed
import ImportImpact.Proofs.Value.Texts
import ImportImpact.Proofs.Yaml.Block
import ImportImpact.Proofs.Yaml.Keyed
import ImportImpact.Proofs.Yaml.Place
import ImportImpact.Proofs.Yaml.RoundTrip
import ImportImpact.Proofs.Yaml.Scalar
import ImportImpact.Proofs.Yaml.Written
import ImportImpact.Settings.Apply
import ImportImpact.Settings.Basic
import ImportImpact.Settings.Environment
import ImportImpact.Settings.Store
import ImportImpact.Text.Blank
import ImportImpact.Text.Digit
import ImportImpact.Text.LineEnd
import ImportImpact.Text.LowerCase
import ImportImpact.Text.Printable
import ImportImpact.Text.Quoted
import ImportImpact.Text.Ranges
import ImportImpact.Text.Scan
import ImportImpact.Text.Split
import ImportImpact.Text.Word
import ImportImpact.Value.Basic
import ImportImpact.Value.Printer
import ImportImpact.Yaml.Block
import ImportImpact.Yaml.Flow
import ImportImpact.Yaml.Literal
import ImportImpact.Yaml.Meaning
import ImportImpact.Yaml.Node
import ImportImpact.Yaml.Number
import ImportImpact.Yaml.Place
import ImportImpact.Yaml.Plain
import ImportImpact.Yaml.Printer
import ImportImpact.Yaml.Quoted
import ImportImpact.Yaml.Reader
import ImportImpact.Yaml.Style
import ImportImpact.Yaml.Time
