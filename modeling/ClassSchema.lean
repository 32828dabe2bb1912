import ClassSchema.Assoc
import ClassSchema.CommandLine.Invocation
import ClassSchema.CommandLine.Listing
import ClassSchema.CommandLine.Run
import ClassSchema.CommandLine.Usage
import ClassSchema.Declaration.Argument
import ClassSchema.Declaration.Basic
import ClassSchema.Declaration.Walk
import ClassSchema.Diagnostic
import ClassSchema.Files.Path
import ClassSchema.Files.Tree
import ClassSchema.Grammar.Arguments
import ClassSchema.Grammar.Initializer
import ClassSchema.Grammar.Member
import ClassSchema.Grammar.Prelude
import ClassSchema.Grammar.Reading
import ClassSchema.Grammar.Skip
import ClassSchema.Grammar.TypeText
import ClassSchema.Json.Basic
import ClassSchema.Json.Reader
import ClassSchema.Json.Writer
import ClassSchema.Main
import ClassSchema.Number.Basic
import ClassSchema.Number.Double
import ClassSchema.Number.Numeral
import ClassSchema.Number.Shortest
import ClassSchema.Options
import ClassSchema.Parser.Rules
import ClassSchema.Parser.Session
import ClassSchema.Parser.State
import ClassSchema.Pattern.Escape
import ClassSchema.Pattern.Glyph
import ClassSchema.Pattern.Validity
import ClassSchema.Pipeline
import ClassSchema.Proofs.CommandLine.Batch
import ClassSchema.Proofs.CommandLine.Convert
import ClassSchema.Proofs.CommandLine.Output
import ClassSchema.Proofs.CommandLine.Steps
import ClassSchema.Proofs.Declaration.Outline
import ClassSchema.Proofs.Declaration.Walk
import ClassSchema.Proofs.Field.Commented
import ClassSchema.Proofs.Field.Declaration
import ClassSchema.Proofs.Field.Declarators
import ClassSchema.Proofs.Field.Front
import ClassSchema.Proofs.Field.Inserted
import ClassSchema.Proofs.Files.Growth
import ClassSchema.Proofs.Grammar.Closing
import ClassSchema.Proofs.Grammar.Grounded
import ClassSchema.Proofs.Grammar.Groups
import ClassSchema.Proofs.Grammar.Local
import ClassSchema.Proofs.Grammar.Moved
import ClassSchema.Proofs.Grammar.Stretches
import ClassSchema.Proofs.Grammar.TypeParts
import ClassSchema.Proofs.Grammar.TypeTokens
import ClassSchema.Proofs.Json.RoundTrip
import ClassSchema.Proofs.Member.Atomic
import ClassSchema.Proofs.Member.Block
import ClassSchema.Proofs.Member.Closed
import ClassSchema.Proofs.Member.Front
import ClassSchema.Proofs.Member.Local
import ClassSchema.Proofs.Member.Lookahead
import ClassSchema.Proofs.Member.Malformed
import ClassSchema.Proofs.Member.Moved
import ClassSchema.Proofs.Member.Neighbours
import ClassSchema.Proofs.Member.Origin
import ClassSchema.Proofs.Member.Row
import ClassSchema.Proofs.Member.Source
import ClassSchema.Proofs.Number.Digits
import ClassSchema.Proofs.Number.Numeral
import ClassSchema.Proofs.Number.PlainText
import ClassSchema.Proofs.Number.Shortest
import ClassSchema.Proofs.Parser.Behind
import ClassSchema.Proofs.Parser.Ending
import ClassSchema.Proofs.Parser.Frame
import ClassSchema.Proofs.Parser.Moves
import ClassSchema.Proofs.Parser.Onward
import ClassSchema.Proofs.Parser.Opaque
import ClassSchema.Proofs.Parser.Origin
import ClassSchema.Proofs.Parser.Position
import ClassSchema.Proofs.Parser.Progress
import ClassSchema.Proofs.Parser.Rewind
import ClassSchema.Proofs.Parser.Sequence
import ClassSchema.Proofs.Parser.Skips
import ClassSchema.Proofs.Parser.Source
import ClassSchema.Proofs.Parser.Start
import ClassSchema.Proofs.Parser.Termination
import ClassSchema.Proofs.Parser.Whole
import ClassSchema.Proofs.Pipeline.Privacy
import ClassSchema.Proofs.Pipeline.Strategy
import ClassSchema.Proofs.Pipeline.Verdict
import ClassSchema.Proofs.Record.Comment
import ClassSchema.Proofs.Schema.Accepted
import ClassSchema.Proofs.Schema.Bounds
import ClassSchema.Proofs.Schema.DeclaredType
import ClassSchema.Proofs.Schema.Dialect
import ClassSchema.Proofs.Schema.Elements
import ClassSchema.Proofs.Schema.GenericTypes
import ClassSchema.Proofs.Schema.LastBound
import ClassSchema.Proofs.Schema.Members
import ClassSchema.Proofs.Schema.Properties
import ClassSchema.Proofs.Schema.ReadBack
import ClassSchema.Proofs.Schema.Shape
import ClassSchema.Proofs.Schema.TypeArguments
import ClassSchema.Proofs.Text.Apart
import ClassSchema.Proofs.Text.Trim
import ClassSchema.Proofs.Token.Balanced
import ClassSchema.Proofs.Token.Matching
import ClassSchema.Proofs.Token.NumberValue
import ClassSchema.Proofs.Token.Places
import ClassSchema.Proofs.Token.Quoted
import ClassSchema.Proofs.Token.Reaches
import ClassSchema.Proofs.Token.Recognized
import ClassSchema.Proofs.Token.Relined
import ClassSchema.Proofs.Token.Spaced
import ClassSchema.Proofs.Token.Tiling
import ClassSchema.Proofs.Written.Annotation
import ClassSchema.Proofs.Written.Borders
import ClassSchema.Proofs.Written.Bounds
import ClassSchema.Proofs.Written.Class
import ClassSchema.Proofs.Written.Field
import ClassSchema.Proofs.Written.Laid
import ClassSchema.Proofs.Written.Literal
import ClassSchema.Proofs.Written.MapClass
import ClassSchema.Proofs.Written.MapField
import ClassSchema.Proofs.Written.Modifiers
import ClassSchema.Proofs.Written.Pieces
import ClassSchema.Proofs.Written.QualifiedName
import ClassSchema.Proofs.Written.TypeTerm
import ClassSchema.Proofs.Yaml.Payload
import ClassSchema.Record.Basic
import ClassSchema.Record.Comment
import ClassSchema.Record.Extract
import ClassSchema.Record.Required
import ClassSchema.Schema.Basic
import ClassSchema.Schema.BlockStyle
import ClassSchema.Schema.Convert
import ClassSchema.Schema.DeclaredType
import ClassSchema.Schema.Format
import ClassSchema.Schema.Validity
import ClassSchema.Schema.Yaml
import ClassSchema.Span
import ClassSchema.Text.Blank
import ClassSchema.Text.CharacterName.Abugidas
import ClassSchema.Text.CharacterName.Additions
import ClassSchema.Text.CharacterName.Aliases
import ClassSchema.Text.CharacterName.Alphabets
import ClassSchema.Text.CharacterName.Ancient
import ClassSchema.Text.CharacterName.EastAsia
import ClassSchema.Text.CharacterName.Form
import ClassSchema.Text.CharacterName.Hangul
import ClassSchema.Text.CharacterName.Hieroglyphs
import ClassSchema.Text.CharacterName.Lookup
import ClassSchema.Text.CharacterName.Notations
import ClassSchema.Text.CharacterName.Pictographs
import ClassSchema.Text.CharacterName.Presentation
import ClassSchema.Text.CharacterName.Punctuation
import ClassSchema.Text.CharacterName.Shapes
import ClassSchema.Text.Digit
import ClassSchema.Text.Letter
import ClassSchema.Text.Name
import ClassSchema.Text.Printable
import ClassSchema.Text.Quoted
import ClassSchema.Text.Radix
import ClassSchema.Text.RangeTable
import ClassSchema.Text.Utf8
import ClassSchema.Token.Basic
import ClassSchema.Token.Kind
import ClassSchema.Token.Lexer
