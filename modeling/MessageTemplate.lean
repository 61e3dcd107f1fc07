import MessageTemplate.Argument.Basic
import MessageTemplate.Argument.Conversion
import MessageTemplate.Argument.Error
import MessageTemplate.Argument.Format
import MessageTemplate.Argument.Text
import MessageTemplate.CommandLine.Run
import MessageTemplate.CommandLine.Settings
import MessageTemplate.Culture
import MessageTemplate.Json.Reader
import MessageTemplate.Json.Value
import MessageTemplate.Lint.Check
import MessageTemplate.Lint.Report
import MessageTemplate.Lint.SourceLine
import MessageTemplate.Main
import MessageTemplate.Number.Binary64
import MessageTemplate.Number.Digits
import MessageTemplate.Number.Format
import MessageTemplate.Number.Numeral
import MessageTemplate.Number.Specifier
import MessageTemplate.Options.Basic
import MessageTemplate.Options.Document
import MessageTemplate.Proofs.Argument.Display
import MessageTemplate.Proofs.CommandLine.Integers
import MessageTemplate.Proofs.Json.Integers
import MessageTemplate.Proofs.Lint.Clean
import MessageTemplate.Proofs.Lint.Malformed
import MessageTemplate.Proofs.Lint.Underlining
import MessageTemplate.Proofs.Lint.Unresolved
import MessageTemplate.Proofs.Lint.Unused
import MessageTemplate.Proofs.Lint.Warnings
import MessageTemplate.Proofs.Number.Decimal
import MessageTemplate.Proofs.Number.FiniteText
import MessageTemplate.Proofs.Number.GeneralForm
import MessageTemplate.Proofs.Number.Grouping
import MessageTemplate.Proofs.Number.LeadingDigits
import MessageTemplate.Proofs.Number.NumeralParts
import MessageTemplate.Proofs.Number.NumeralText
import MessageTemplate.Proofs.Number.Rounding
import MessageTemplate.Proofs.Number.Specifiers
import MessageTemplate.Proofs.Number.WholeNumbers
import MessageTemplate.Proofs.Number.WholeValues
import MessageTemplate.Proofs.Options.Truncation
import MessageTemplate.Proofs.Render.Alignment
import MessageTemplate.Proofs.Render.Calls
import MessageTemplate.Proofs.Render.Independence
import MessageTemplate.Proofs.Render.Pieces
import MessageTemplate.Proofs.Render.RelationTable
import MessageTemplate.Proofs.Render.Relations
import MessageTemplate.Proofs.Render.Renumbering
import MessageTemplate.Proofs.Serializer.ControlCharacters
import MessageTemplate.Proofs.Serializer.Pruning
import MessageTemplate.Proofs.Template.BodyGrammar
import MessageTemplate.Proofs.Template.BodyMarks
import MessageTemplate.Proofs.Template.Concatenation
import MessageTemplate.Proofs.Template.Encoding
import MessageTemplate.Proofs.Template.FirstError
import MessageTemplate.Proofs.Template.LongestMatch
import MessageTemplate.Proofs.Template.Lossless
import MessageTemplate.Proofs.Template.Numbering
import MessageTemplate.Proofs.Template.Renumbering
import MessageTemplate.Proofs.Template.Scanning
import MessageTemplate.Proofs.Template.Slicing
import MessageTemplate.Proofs.Text.Slices
import MessageTemplate.Render.Format
import MessageTemplate.Render.Relations
import MessageTemplate.Render.Traced
import MessageTemplate.Render.Weave
import MessageTemplate.Serializer
import MessageTemplate.Template.Body
import MessageTemplate.Template.Rejection
import MessageTemplate.Template.Segment
import MessageTemplate.Template.Token
import MessageTemplate.Template.Tokens
import MessageTemplate.Text.Alphanumeric
import MessageTemplate.Text.CodePoints
import MessageTemplate.Text.Columns
import MessageTemplate.Text.Cursor
import MessageTemplate.Text.Printable
import MessageTemplate.Text.Quoted
import MessageTemplate.Text.Span
import MessageTemplate.Time.DateTime
import MessageTemplate.Time.Description
import MessageTemplate.Time.Format
import MessageTemplate.Toml.Item
import MessageTemplate.Toml.Number
import MessageTemplate.Toml.Reader
import MessageTemplate.Toml.Text
