import TerseMarkup.Command.Invocation
import TerseMarkup.Command.Outcome
import TerseMarkup.Command.Usage
import TerseMarkup.Compilation
import TerseMarkup.Diagnostic
import TerseMarkup.Document
import TerseMarkup.Document.Scope
import TerseMarkup.Element
import TerseMarkup.Expectation
import TerseMarkup.Expression.Evaluator
import TerseMarkup.Expression.Span
import TerseMarkup.Expression.Substitution
import TerseMarkup.Html.Escape
import TerseMarkup.Html.Fragment
import TerseMarkup.Main
import TerseMarkup.Number.Decimal
import TerseMarkup.Number.Double
import TerseMarkup.Options
import TerseMarkup.Output.Datum
import TerseMarkup.Output.Json
import TerseMarkup.Output.Yaml
import TerseMarkup.Output.Yaml.Plain
import TerseMarkup.Output.Yaml.Scalar
import TerseMarkup.Rendering.Budget
import TerseMarkup.Rendering.Chain
import TerseMarkup.Rendering.Copy
import TerseMarkup.Rendering.Document
import TerseMarkup.Settings.KeyPath
import TerseMarkup.Settings.Loader
import TerseMarkup.Settings.Setting
import TerseMarkup.Source.Combinator
import TerseMarkup.Source.Comment
import TerseMarkup.Source.Cursor
import TerseMarkup.Source.Line
import TerseMarkup.Source.Quoting
import TerseMarkup.Storage.Folder
import TerseMarkup.Storage.Path
import TerseMarkup.Storage.ReadError
import TerseMarkup.Text.Blank
import TerseMarkup.Text.LowerCase
import TerseMarkup.Text.LowerCase.Context
import TerseMarkup.Text.LowerCase.Mapping
import TerseMarkup.Token
import TerseMarkup.Toml.Document
import TerseMarkup.Toml.Moment
import TerseMarkup.Toml.Number
import TerseMarkup.Toml.Quoted
import TerseMarkup.Toml.Reader
import TerseMarkup.Toml.Table
import TerseMarkup.Toml.Value
import TerseMarkup.Proofs.Rendering.Expansion
import TerseMarkup.Proofs.Rendering.Spending
import TerseMarkup.Proofs.Rendering.StepLaw
import TerseMarkup.Proofs.Html.Writing
import TerseMarkup.Proofs.Rendering.ChainText
import TerseMarkup.Proofs.Rendering.Emission
import TerseMarkup.Proofs.Document.Steps
import TerseMarkup.Proofs.Limits
import TerseMarkup.Proofs.Document.Partition
import TerseMarkup.Proofs.Source.Placement
import TerseMarkup.Proofs.Document.Numbering
import TerseMarkup.Proofs.Element.Tokens
import TerseMarkup.Proofs.Element.Form
import TerseMarkup.Proofs.Element.Grammar
import TerseMarkup.Proofs.Text.Trimming
import TerseMarkup.Proofs.Document.NestedScopes
import TerseMarkup.Proofs.Source.OnePass
import TerseMarkup.Proofs.Element.Boundary
import TerseMarkup.Proofs.Source.Joining
import TerseMarkup.Proofs.Element.Separation
import TerseMarkup.Proofs.Document.OneLine
import TerseMarkup.Proofs.Document.JoinedLine
import TerseMarkup.Proofs.Source.TrailingComment
import TerseMarkup.Proofs.Document.Transparency
import TerseMarkup.Proofs.Document.Shifting
import TerseMarkup.Proofs.Document.Sequence
import TerseMarkup.Proofs.Document.EnclosedSource
import TerseMarkup.Proofs.Element.Naming
import TerseMarkup.Proofs.Html.Tags
import TerseMarkup.Proofs.Document.Elements
import TerseMarkup.Proofs.Rendering.Yields
import TerseMarkup.Proofs.Rendering.WellNested
import TerseMarkup.Proofs.Expression.Pattern
import TerseMarkup.Proofs.Expression.Pieces
import TerseMarkup.Proofs.Expression.Asking
import TerseMarkup.Proofs.Document.Literals
import TerseMarkup.Proofs.Rendering.LimitReports
import TerseMarkup.Proofs.Phases
import TerseMarkup.Proofs.Document.WellFormed
import TerseMarkup.Proofs.Document.Indentation
import TerseMarkup.Proofs.Rendering.Placeholder
import TerseMarkup.Proofs.Expression.MarkupSigns
import TerseMarkup.Proofs.Rendering.Splice
import TerseMarkup.Proofs.Rendering.Stopping
import TerseMarkup.Proofs.Document.Written
import TerseMarkup.Proofs.Command.Arguments
import TerseMarkup.Proofs.Command.Agreement
import TerseMarkup.Proofs.Source.Calls
import TerseMarkup.Proofs.Document.MatchingClose
import TerseMarkup.Proofs.Source.ForwardPass
import TerseMarkup.Proofs.Source.Rejoining
import TerseMarkup.Proofs.Element.ByteSpans
import TerseMarkup.Proofs.Html.Escaping
import TerseMarkup.Proofs.Rendering.IndexPieces
import TerseMarkup.Proofs.Source.Markers
