import WebBaseline.CommandLine.Help
import WebBaseline.CommandLine.Request
import WebBaseline.CommandLine.Run
import WebBaseline.CommandLine.Switch
import WebBaseline.CommandLine.Usage
import WebBaseline.Dataset
import WebBaseline.Document.Builder
import WebBaseline.Document.Insertion
import WebBaseline.Document.PlainText
import WebBaseline.Document.Reference
import WebBaseline.Document.Token
import WebBaseline.Document.Tree
import WebBaseline.Download
import WebBaseline.Failure
import WebBaseline.Feature.Key
import WebBaseline.Feature.Record
import WebBaseline.Files
import WebBaseline.Finding
import WebBaseline.Index.Basic
import WebBaseline.Index.Build
import WebBaseline.Index.Table
import WebBaseline.Journal
import WebBaseline.Json.Basic
import WebBaseline.Json.Reader
import WebBaseline.Language
import WebBaseline.Lookup
import WebBaseline.Main
import WebBaseline.Markup.Comment
import WebBaseline.Markup.Foreign
import WebBaseline.Markup.Scan
import WebBaseline.Markup.Tag
import WebBaseline.Number.Double
import WebBaseline.Panel
import WebBaseline.Path
import WebBaseline.Proofs.CommandLine.Loading
import WebBaseline.Proofs.CommandLine.Loads
import WebBaseline.Proofs.CommandLine.ScanReport
import WebBaseline.Proofs.Download.Caller
import WebBaseline.Proofs.Download.Exchange
import WebBaseline.Proofs.Download.Failure
import WebBaseline.Proofs.Download.Fetch
import WebBaseline.Proofs.Download.SharedClient
import WebBaseline.Proofs.Feature.Acceptance
import WebBaseline.Proofs.Feature.GuessedPage
import WebBaseline.Proofs.Feature.KeyShape
import WebBaseline.Proofs.Feature.MarkupKey
import WebBaseline.Proofs.Feature.Member
import WebBaseline.Proofs.Feature.Page
import WebBaseline.Proofs.Feature.ScriptKey
import WebBaseline.Proofs.Files.Text
import WebBaseline.Proofs.Index.Claim
import WebBaseline.Proofs.Index.Contents
import WebBaseline.Proofs.Index.KeySpace
import WebBaseline.Proofs.Index.Locality
import WebBaseline.Proofs.Index.Table
import WebBaseline.Proofs.Lookup.Answer
import WebBaseline.Proofs.Lookup.Candidate
import WebBaseline.Proofs.Lookup.Column
import WebBaseline.Proofs.Lookup.Declared
import WebBaseline.Proofs.Lookup.Extent
import WebBaseline.Proofs.Lookup.Hovered
import WebBaseline.Proofs.Lookup.Indexed
import WebBaseline.Proofs.Lookup.Marked
import WebBaseline.Proofs.Lookup.Reported
import WebBaseline.Proofs.Lookup.Settled
import WebBaseline.Proofs.Lookup.Word
import WebBaseline.Proofs.Markup.Comment
import WebBaseline.Proofs.Markup.Concatenation
import WebBaseline.Proofs.Markup.Construct
import WebBaseline.Proofs.Markup.Depth
import WebBaseline.Proofs.Markup.Excerpt
import WebBaseline.Proofs.Markup.Foreign
import WebBaseline.Proofs.Markup.Locate
import WebBaseline.Proofs.Markup.Masking
import WebBaseline.Proofs.Markup.Suppression
import WebBaseline.Proofs.Markup.Tag
import WebBaseline.Proofs.Report.Summary
import WebBaseline.Proofs.Scan.Canonical
import WebBaseline.Proofs.Scan.CoreProperties
import WebBaseline.Proofs.Scan.Locate
import WebBaseline.Proofs.Scan.Mention
import WebBaseline.Proofs.Scan.Soundness
import WebBaseline.Proofs.Script.Chain
import WebBaseline.Proofs.Script.Naming
import WebBaseline.Proofs.Script.Order
import WebBaseline.Proofs.Script.Prefix
import WebBaseline.Proofs.Script.Range
import WebBaseline.Proofs.Script.Walk
import WebBaseline.Proofs.Script.WrittenKey
import WebBaseline.Proofs.Session.History
import WebBaseline.Proofs.Session.Published
import WebBaseline.Proofs.Settings.Load
import WebBaseline.Proofs.Settings.Merging
import WebBaseline.Proofs.Settings.Value
import WebBaseline.Proofs.Step
import WebBaseline.Proofs.Stylesheet.Comment
import WebBaseline.Proofs.Stylesheet.Completeness
import WebBaseline.Proofs.Stylesheet.Concatenation
import WebBaseline.Proofs.Stylesheet.Declaration
import WebBaseline.Proofs.Stylesheet.Excerpt
import WebBaseline.Proofs.Stylesheet.Layout
import WebBaseline.Proofs.Stylesheet.Locate
import WebBaseline.Proofs.Stylesheet.Masking
import WebBaseline.Proofs.Stylesheet.Order
import WebBaseline.Proofs.Stylesheet.Segment
import WebBaseline.Proofs.Stylesheet.Spot
import WebBaseline.Proofs.Stylesheet.Surroundings
import WebBaseline.Proofs.Stylesheet.Value
import WebBaseline.Proofs.Text.Blank
import WebBaseline.Proofs.Text.Case
import WebBaseline.Proofs.Text.CharOffset
import WebBaseline.Proofs.Text.Field
import WebBaseline.Proofs.Text.LineIndex
import WebBaseline.Proofs.Text.LineStart
import WebBaseline.Proofs.Text.Name
import WebBaseline.Proofs.Text.Pieces
import WebBaseline.Proofs.Text.Position
import WebBaseline.Proofs.Text.Search
import WebBaseline.Proofs.Text.Slice
import WebBaseline.Proofs.Text.Utf8
import WebBaseline.Proofs.Toml.Shown
import WebBaseline.Reading
import WebBaseline.Report
import WebBaseline.Script.Action
import WebBaseline.Script.Branch
import WebBaseline.Script.Dialect
import WebBaseline.Script.Grammar
import WebBaseline.Script.Grammar.Class
import WebBaseline.Script.Grammar.Element
import WebBaseline.Script.Grammar.Expression
import WebBaseline.Script.Grammar.Module
import WebBaseline.Script.Grammar.Order
import WebBaseline.Script.Grammar.Statement
import WebBaseline.Script.Grammar.Type
import WebBaseline.Script.Grammar.Word
import WebBaseline.Script.GrammarTable
import WebBaseline.Script.Layout
import WebBaseline.Script.Lexeme
import WebBaseline.Script.LineEnd
import WebBaseline.Script.Order
import WebBaseline.Script.Parse
import WebBaseline.Script.Part
import WebBaseline.Script.Rule
import WebBaseline.Script.Scan
import WebBaseline.Script.Stack
import WebBaseline.Script.State
import WebBaseline.Script.Token
import WebBaseline.Script.Tree
import WebBaseline.Session
import WebBaseline.Settings
import WebBaseline.Status
import WebBaseline.Stylesheet.Comment
import WebBaseline.Stylesheet.Declaration
import WebBaseline.Stylesheet.Scan
import WebBaseline.Text.Basic
import WebBaseline.Text.Blank
import WebBaseline.Text.Case
import WebBaseline.Text.CaseTable
import WebBaseline.Text.CellTable
import WebBaseline.Text.Cells
import WebBaseline.Text.Encoding
import WebBaseline.Text.Fill
import WebBaseline.Text.Integer
import WebBaseline.Text.Line
import WebBaseline.Text.Matches
import WebBaseline.Text.Printable
import WebBaseline.Text.Quoted
import WebBaseline.Text.Ranges
import WebBaseline.Text.Similar
import WebBaseline.Text.Utf8
import WebBaseline.Text.Word
import WebBaseline.Text.Wrap
import WebBaseline.Toml.Basic
import WebBaseline.Toml.Reader
