import Highlight.Text.Ranges
import Highlight.Text.Category
import Highlight.Text.Script
import Highlight.Text.Age
import Highlight.Text.Property.Letter
import Highlight.Text.Property.Identifier
import Highlight.Text.Property.Grapheme
import Highlight.Text.Property.Symbol
import Highlight.Text.Property.Binary
import Highlight.Text.Blank
import Highlight.Text.Word
import Highlight.Text.Case
import Highlight.Text.Quote
import Highlight.Text.Number
import Highlight.Grammar.Format
import Highlight.Grammar.Keywords
import Highlight.Grammar.Placeholder
import Highlight.Grammar.Error
import Highlight.Grammar.Header
import Highlight.Grammar.Definition
import Highlight.Xml.Node
import Highlight.Xml.Parse
import Highlight.Grammar.Read
import Highlight.Regex.Syntax
import Highlight.Regex.Property
import Highlight.Regex.Class
import Highlight.Regex.Read
import Highlight.Regex.Size
import Highlight.Regex.Program
import Highlight.Regex.Run
import Highlight.Grammar.Basic
import Highlight.Grammar.Link
import Highlight.Grammar.Cache
import Highlight.Grammar.Load
import Highlight.Line.Literal
import Highlight.Line.State
import Highlight.Line.Span
import Highlight.Line.Text
import Highlight.Line.Match
import Highlight.Line.Parse
import Highlight.Json.Value
import Highlight.Json.Read
import Highlight.Registry.Bundled
import Highlight.Registry.Index
import Highlight.Registry.Glob
import Highlight.Registry.Folder
import Highlight.Registry.Source
import Highlight.Registry.Basic
import Highlight.Registry.Directory
import Highlight.Document.Budget
import Highlight.Document.Basic
import Highlight.Config.Toml
import Highlight.Config.Basic
import Highlight.Cli.Args
import Highlight.Cli.Host
import Highlight.Cli.Report
import Highlight.Cli.Run
import Highlight.Main
import Highlight.Proofs.Reconcile
import Highlight.Proofs.Linked
import Highlight.Proofs.Stack
import Highlight.Proofs.Tables
import Highlight.Proofs.Representation
import Highlight.Proofs.Respects
import Highlight.Proofs.Layout
import Highlight.Proofs.Totality
import Highlight.Proofs.SlotDiscipline
import Highlight.Proofs.MatchBounds
import Highlight.Proofs.Slices
import Highlight.Proofs.EarlyStop
import Highlight.Proofs.SearchMemo
import Highlight.Proofs.SharedCache
import Highlight.Proofs.Continuation
import Highlight.Proofs.HitBounds
import Highlight.Proofs.Coverage
import Highlight.Proofs.Walks
import Highlight.Proofs.KeywordClosure
import Highlight.Proofs.Splicing
import Highlight.Proofs.Gathering
import Highlight.Proofs.Selection
import Highlight.Proofs.Runs
import Highlight.Proofs.Literals
import Highlight.Proofs.Switches
import Highlight.Proofs.Layers
import Highlight.Proofs.Cache
import Highlight.Proofs.Placeholders
import Highlight.Proofs.SeparatorTable
