import Launcher.Catalog.Builtin
import Launcher.Catalog.Entry
import Launcher.Catalog.Kind
import Launcher.Catalog.Load
import Launcher.Catalog.Record
import Launcher.CommandLine.Command
import Launcher.CommandLine.Numeral
import Launcher.CommandLine.Options
import Launcher.CommandLine.Porcelain
import Launcher.CommandLine.Run
import Launcher.CommandLine.Similarity
import Launcher.Config.Basic
import Launcher.Config.Payload
import Launcher.Config.Setting
import Launcher.Config.Stored
import Launcher.Decimal.Binary64
import Launcher.Decimal.Fixed
import Launcher.Decimal.Reading
import Launcher.Decimal.Shortest
import Launcher.Fault
import Launcher.Files.Path
import Launcher.Files.Tree
import Launcher.Json.Reader
import Launcher.Json.Writer
import Launcher.Machine
import Launcher.Main
import Launcher.Number
import Launcher.Release.Assignment
import Launcher.Release.Bump
import Launcher.Release.Template
import Launcher.Release.Version
import Launcher.Request
import Launcher.Search.Index
import Launcher.Search.Ranking
import Launcher.Search.Scoring
import Launcher.Search.Subsequence
import Launcher.Search.Values
import Launcher.Session.Basic
import Launcher.Session.Cursor
import Launcher.Session.Debounce
import Launcher.Session.Desk
import Launcher.Session.Memo
import Launcher.Session.Query
import Launcher.Session.Stats
import Launcher.Terminal.ColourTable
import Launcher.Terminal.Emoji
import Launcher.Terminal.EmojiTable
import Launcher.Terminal.Encoding
import Launcher.Terminal.Literal
import Launcher.Terminal.Markup
import Launcher.Terminal.Output
import Launcher.Terminal.Style
import Launcher.Terminal.Table
import Launcher.Terminal.Width
import Launcher.Terminal.WidthTable
import Launcher.Terminal.Wrap
import Launcher.Text
import Launcher.Text.Blank
import Launcher.Text.CaseTable
import Launcher.Text.Identifier
import Launcher.Text.Lowercase
import Launcher.Text.Printable
import Launcher.Text.Quoted
import Launcher.Text.Split
import Launcher.Text.Utf8
import Launcher.Text.Words
import Launcher.Value
import Launcher.Value.Arithmetic
import Launcher.Value.Conversion
import Launcher.Value.Same
import Launcher.Value.Shown
import Launcher.Proofs.Catalog.FirstPerId
import Launcher.Proofs.Catalog.Grammar
import Launcher.Proofs.Catalog.Load
import Launcher.Proofs.Catalog.Record
import Launcher.Proofs.Catalog.Resolve
import Launcher.Proofs.CommandLine.Agreement
import Launcher.Proofs.CommandLine.Pick
import Launcher.Proofs.CommandLine.Porcelain
import Launcher.Proofs.CommandLine.Results
import Launcher.Proofs.CommandLine.Search
import Launcher.Proofs.CommandLine.Steps
import Launcher.Proofs.Config.Directories
import Launcher.Proofs.Config.Document
import Launcher.Proofs.Config.Effect
import Launcher.Proofs.Config.Layers
import Launcher.Proofs.Config.Payload
import Launcher.Proofs.Config.RoundTrip
import Launcher.Proofs.Config.Script
import Launcher.Proofs.Config.Shelf
import Launcher.Proofs.Config.Stored
import Launcher.Proofs.Config.Update
import Launcher.Proofs.Config.Validity
import Launcher.Proofs.Decimal.Bits
import Launcher.Proofs.Decimal.Digits
import Launcher.Proofs.Decimal.Interval
import Launcher.Proofs.Decimal.Nearest
import Launcher.Proofs.Decimal.Order
import Launcher.Proofs.Decimal.Shortest
import Launcher.Proofs.Decimal.UnitInterval
import Launcher.Proofs.Files.Growth
import Launcher.Proofs.Files.Overwrite
import Launcher.Proofs.Files.Path
import Launcher.Proofs.Files.Tree
import Launcher.Proofs.Json.DistinctKeys
import Launcher.Proofs.Json.Halves
import Launcher.Proofs.Json.Number
import Launcher.Proofs.Json.OneLine
import Launcher.Proofs.Json.WrittenNumber
import Launcher.Proofs.Json.WrittenText
import Launcher.Proofs.Json.WrittenValue
import Launcher.Proofs.Machine
import Launcher.Proofs.Release.Assignment
import Launcher.Proofs.Release.Bump
import Launcher.Proofs.Release.LastWins
import Launcher.Proofs.Release.Replacement
import Launcher.Proofs.Request
import Launcher.Proofs.Search.Band
import Launcher.Proofs.Search.Beginning
import Launcher.Proofs.Search.Rank
import Launcher.Proofs.Search.Shorter
import Launcher.Proofs.Search.StartsFirst
import Launcher.Proofs.Search.Subsequence
import Launcher.Proofs.Search.Top
import Launcher.Proofs.Session.Background
import Launcher.Proofs.Session.Counters
import Launcher.Proofs.Session.Course
import Launcher.Proofs.Session.Cursor
import Launcher.Proofs.Session.Debounce
import Launcher.Proofs.Session.Durations
import Launcher.Proofs.Session.Failure
import Launcher.Proofs.Session.Flag
import Launcher.Proofs.Session.Holding
import Launcher.Proofs.Session.Memo
import Launcher.Proofs.Session.Newest
import Launcher.Proofs.Session.Order
import Launcher.Proofs.Session.Refusal
import Launcher.Proofs.Session.Selection
import Launcher.Proofs.Session.Settled
import Launcher.Proofs.Session.Stats
import Launcher.Proofs.Session.Turn
import Launcher.Proofs.Session.View
import Launcher.Proofs.Terminal.Colours
import Launcher.Proofs.Terminal.Halves
import Launcher.Proofs.Terminal.Markup
import Launcher.Proofs.Text.Lowercase
import Launcher.Proofs.Text.Split
import Launcher.Proofs.Text.Trim
