import PredicateIndex.Analyzer.Installed
import PredicateIndex.Analyzer.Locate
import PredicateIndex.Analyzer.Outcome
import PredicateIndex.Analyzer.Reply
import PredicateIndex.Analyzer.Settings
import PredicateIndex.Analyzer.SourceName
import PredicateIndex.Analyzer.Tool
import PredicateIndex.Cache.Basic
import PredicateIndex.Cache.Lookup
import PredicateIndex.Cache.Navigation
import PredicateIndex.Cli.Arguments
import PredicateIndex.Cli.Batch
import PredicateIndex.Cli.Report
import PredicateIndex.Cli.Session
import PredicateIndex.Cli.Usage
import PredicateIndex.Config.Basic
import PredicateIndex.Config.Check
import PredicateIndex.Config.Environment
import PredicateIndex.Config.Load
import PredicateIndex.Debounce.Basic
import PredicateIndex.Debounce.Session
import PredicateIndex.Decimal.Binary64
import PredicateIndex.Decimal.Count
import PredicateIndex.Decimal.Numeral
import PredicateIndex.Decimal.Shortest
import PredicateIndex.Failure
import PredicateIndex.Failure.Request
import PredicateIndex.Index.Basic
import PredicateIndex.Index.Build
import PredicateIndex.Index.Calls
import PredicateIndex.Indicator
import PredicateIndex.Json.Reader
import PredicateIndex.Json.Writer
import PredicateIndex.Ledger
import PredicateIndex.Log.Delivery
import PredicateIndex.Log.Destination
import PredicateIndex.Log.Level
import PredicateIndex.Log.Record
import PredicateIndex.Main
import PredicateIndex.Path.Basic
import PredicateIndex.Path.Disk
import PredicateIndex.Path.Url
import PredicateIndex.Pipeline.Event
import PredicateIndex.Pipeline.Notice
import PredicateIndex.Pipeline.Run
import PredicateIndex.Pipeline.Schedule
import PredicateIndex.Pipeline.State
import PredicateIndex.Pipeline.Task
import PredicateIndex.Proofs.Analyzer.Classification
import PredicateIndex.Proofs.Analyzer.CopyName
import PredicateIndex.Proofs.Analyzer.Failures
import PredicateIndex.Proofs.Analyzer.OutputName
import PredicateIndex.Proofs.Cache.Chronicle
import PredicateIndex.Proofs.Cache.Convergence
import PredicateIndex.Proofs.Cache.Navigation
import PredicateIndex.Proofs.Cache.Queries
import PredicateIndex.Proofs.Cache.Slot
import PredicateIndex.Proofs.Cli.Batch
import PredicateIndex.Proofs.Cli.Invocations
import PredicateIndex.Proofs.Cli.Printouts
import PredicateIndex.Proofs.Config.Faults
import PredicateIndex.Proofs.Config.Outcome
import PredicateIndex.Proofs.Config.Precedence
import PredicateIndex.Proofs.Config.Revalidation
import PredicateIndex.Proofs.Config.Rules
import PredicateIndex.Proofs.Config.Variables
import PredicateIndex.Proofs.Debounce.Fate
import PredicateIndex.Proofs.Debounce.Insulation
import PredicateIndex.Proofs.Debounce.Trail
import PredicateIndex.Proofs.Index.Extent
import PredicateIndex.Proofs.Index.Grouping
import PredicateIndex.Proofs.Index.Indicator
import PredicateIndex.Proofs.Index.Occurrence
import PredicateIndex.Proofs.Index.Traversal
import PredicateIndex.Proofs.Index.Warnings
import PredicateIndex.Proofs.Indicator.Keys
import PredicateIndex.Proofs.Indicator.Reading
import PredicateIndex.Proofs.Ledger
import PredicateIndex.Proofs.Log.Levels
import PredicateIndex.Proofs.Path
import PredicateIndex.Proofs.Pipeline.Advance
import PredicateIndex.Proofs.Pipeline.Agreement
import PredicateIndex.Proofs.Pipeline.Atomicity
import PredicateIndex.Proofs.Pipeline.Awaiting
import PredicateIndex.Proofs.Pipeline.Calls
import PredicateIndex.Proofs.Pipeline.Closing
import PredicateIndex.Proofs.Pipeline.Conclusion
import PredicateIndex.Proofs.Pipeline.Desk
import PredicateIndex.Proofs.Pipeline.Draining
import PredicateIndex.Proofs.Pipeline.Effect
import PredicateIndex.Proofs.Pipeline.Flight
import PredicateIndex.Proofs.Pipeline.Generations
import PredicateIndex.Proofs.Pipeline.Interleaving
import PredicateIndex.Proofs.Pipeline.Isolation
import PredicateIndex.Proofs.Pipeline.Joining
import PredicateIndex.Proofs.Pipeline.Lane
import PredicateIndex.Proofs.Pipeline.LastRun
import PredicateIndex.Proofs.Pipeline.Moves
import PredicateIndex.Proofs.Pipeline.Occasion
import PredicateIndex.Proofs.Pipeline.Promptness
import PredicateIndex.Proofs.Pipeline.Provider
import PredicateIndex.Proofs.Pipeline.Punctual
import PredicateIndex.Proofs.Pipeline.Reopening
import PredicateIndex.Proofs.Pipeline.Requests
import PredicateIndex.Proofs.Pipeline.Runs
import PredicateIndex.Proofs.Pipeline.Shelf
import PredicateIndex.Proofs.Pipeline.Signals
import PredicateIndex.Proofs.Pipeline.SingleFlight
import PredicateIndex.Proofs.Pipeline.Staleness
import PredicateIndex.Proofs.Pipeline.Standing
import PredicateIndex.Proofs.Pipeline.Supersession
import PredicateIndex.Proofs.Pipeline.Tally
import PredicateIndex.Proofs.Pipeline.View
import PredicateIndex.Proofs.Range
import PredicateIndex.Proofs.Tree.Acceptance
import PredicateIndex.Proofs.Tree.Breach
import PredicateIndex.Proofs.Tree.Compatibility
import PredicateIndex.Proofs.Tree.Decoder
import PredicateIndex.Proofs.Tree.Exchange
import PredicateIndex.Proofs.Tree.Export
import PredicateIndex.Proofs.Tree.FirstFault
import PredicateIndex.Proofs.Tree.Grammar
import PredicateIndex.Proofs.Tree.RoundTrip
import PredicateIndex.Proofs.Tree.Site
import PredicateIndex.Proofs.Tree.Unseen
import PredicateIndex.Proofs.Value
import PredicateIndex.Proofs.Value.Payload
import PredicateIndex.Proofs.Yaml
import PredicateIndex.Range
import PredicateIndex.Table.Handler
import PredicateIndex.Table.Layout
import PredicateIndex.Table.Literal
import PredicateIndex.Table.Literal.Lexeme
import PredicateIndex.Table.Literal.Quotation
import PredicateIndex.Table.Literal.Reason
import PredicateIndex.Table.Literal.Worth
import PredicateIndex.Table.Markup
import PredicateIndex.Table.Pictograph
import PredicateIndex.Table.Pictograph.Names
import PredicateIndex.Table.Strip
import PredicateIndex.Table.Style
import PredicateIndex.Table.Wrap
import PredicateIndex.Text.Blank
import PredicateIndex.Text.CodePoint
import PredicateIndex.Text.Digit
import PredicateIndex.Text.Letter
import PredicateIndex.Text.Lines
import PredicateIndex.Text.Lower
import PredicateIndex.Text.Printable
import PredicateIndex.Text.Quoted
import PredicateIndex.Text.Ranges
import PredicateIndex.Text.Sequence
import PredicateIndex.Text.Similar
import PredicateIndex.Text.Utf8
import PredicateIndex.Text.Width
import PredicateIndex.Tree.Basic
import PredicateIndex.Tree.Decode
import PredicateIndex.Tree.Dump
import PredicateIndex.Tree.Fault
import PredicateIndex.Value
import PredicateIndex.Value.Display
import PredicateIndex.Value.Path
import PredicateIndex.Yaml.Basic
import PredicateIndex.Yaml.Document
import PredicateIndex.Yaml.Node
import PredicateIndex.Yaml.Resolve
import PredicateIndex.Yaml.Scalar
import PredicateIndex.Yaml.Scan
import PredicateIndex.Yaml.Timestamp
import PredicateIndex.Yaml.Token
