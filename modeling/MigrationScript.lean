import MigrationScript.Builder.Entry
import MigrationScript.Builder.Recorder
import MigrationScript.Builder.Setter
import MigrationScript.Builder.Table
import MigrationScript.Decimal
import MigrationScript.Double.Basic
import MigrationScript.Double.Nearest
import MigrationScript.Double.Shortest
import MigrationScript.Double.Text
import MigrationScript.FixedWidth
import MigrationScript.Identifier
import MigrationScript.Json.Basic
import MigrationScript.Json.Codec
import MigrationScript.Json.Derive
import MigrationScript.Json.Format
import MigrationScript.Json.Grammar
import MigrationScript.Json.Reader
import MigrationScript.Json.Standard
import MigrationScript.Json.Writer
import MigrationScript.Meaning.Binding
import MigrationScript.Meaning.Error
import MigrationScript.Meaning.Parameter
import MigrationScript.Meaning.Run
import MigrationScript.Meaning.Statement
import MigrationScript.Meaning.Table
import MigrationScript.Meaning.Value
import MigrationScript.Operation.Basic
import MigrationScript.Operation.Fault
import MigrationScript.Operation.Json
import MigrationScript.Operation.Kind
import MigrationScript.Operation.Same
import MigrationScript.Operation.Summary
import MigrationScript.Operation.Value
import MigrationScript.Proofs.Builder.Declared
import MigrationScript.Proofs.Builder.Parts
import MigrationScript.Proofs.Builder.Recorded
import MigrationScript.Proofs.Builder.Schema
import MigrationScript.Proofs.Builder.Settings
import MigrationScript.Proofs.Double.Exact
import MigrationScript.Proofs.Json.Derived
import MigrationScript.Proofs.Json.Exchange
import MigrationScript.Proofs.Json.Members
import MigrationScript.Proofs.Json.Number
import MigrationScript.Proofs.Json.Presentation
import MigrationScript.Proofs.Json.Reader
import MigrationScript.Proofs.Json.Writer
import MigrationScript.Proofs.Meaning.Culprit
import MigrationScript.Proofs.Meaning.Declaration
import MigrationScript.Proofs.Meaning.Declared
import MigrationScript.Proofs.Meaning.DefaultColumn
import MigrationScript.Proofs.Meaning.Given
import MigrationScript.Proofs.Meaning.Layout
import MigrationScript.Proofs.Meaning.Matches
import MigrationScript.Proofs.Meaning.Numbers
import MigrationScript.Proofs.Meaning.Owned
import MigrationScript.Proofs.Meaning.Places
import MigrationScript.Proofs.Meaning.Pointing
import MigrationScript.Proofs.Meaning.Received
import MigrationScript.Proofs.Meaning.Record
import MigrationScript.Proofs.Meaning.Renaming
import MigrationScript.Proofs.Meaning.Respelled
import MigrationScript.Proofs.Meaning.Respelling
import MigrationScript.Proofs.Meaning.Run
import MigrationScript.Proofs.Meaning.Slot
import MigrationScript.Proofs.Meaning.Sound
import MigrationScript.Proofs.Meaning.Spans
import MigrationScript.Proofs.Meaning.Steps
import MigrationScript.Proofs.Meaning.Written
import MigrationScript.Proofs.Operation.Canonical
import MigrationScript.Proofs.Operation.Conditions
import MigrationScript.Proofs.Operation.Exchange
import MigrationScript.Proofs.Operation.Presentation
import MigrationScript.Proofs.Operation.Writable
import MigrationScript.Proofs.RoundTrip
import MigrationScript.Proofs.Script.Arguments
import MigrationScript.Proofs.Script.Composition
import MigrationScript.Proofs.Script.Concatenation
import MigrationScript.Proofs.Script.Errors
import MigrationScript.Proofs.Script.Identifier
import MigrationScript.Proofs.Script.Integers
import MigrationScript.Proofs.Script.Layout
import MigrationScript.Proofs.Script.Lines
import MigrationScript.Proofs.Script.Minimal
import MigrationScript.Proofs.Script.Program
import MigrationScript.Proofs.Script.Quoted
import MigrationScript.Proofs.Script.Slices
import MigrationScript.Proofs.Script.Value
import MigrationScript.Proofs.Script.Writer
import MigrationScript.Proofs.Token.Alone
import MigrationScript.Proofs.Token.Cut
import MigrationScript.Proofs.Token.Double
import MigrationScript.Proofs.Token.Integer
import MigrationScript.Proofs.Token.Kinds
import MigrationScript.Proofs.Token.Literal
import MigrationScript.Proofs.Token.Local
import MigrationScript.Proofs.Token.Spaced
import MigrationScript.Proofs.Token.Spelling
import MigrationScript.Proofs.Token.Tiling
import MigrationScript.Proofs.Tree.Bound
import MigrationScript.Proofs.Tree.Completeness
import MigrationScript.Proofs.Tree.Fault
import MigrationScript.Proofs.Tree.Grammar
import MigrationScript.Proofs.Tree.Local
import MigrationScript.Proofs.Tree.Moved
import MigrationScript.Proofs.Tree.Moves
import MigrationScript.Proofs.Tree.Node
import MigrationScript.Proofs.Tree.Parse
import MigrationScript.Proofs.Tree.Reading
import MigrationScript.Proofs.Tree.Seats
import MigrationScript.Proofs.Tree.Settling
import MigrationScript.Proofs.Tree.Shared
import MigrationScript.Proofs.Tree.Soundness
import MigrationScript.Proofs.Tree.Spans
import MigrationScript.Proofs.Tree.Tidy
import MigrationScript.Proofs.Tree.Viable
import MigrationScript.RoundTrip
import MigrationScript.Script.Call
import MigrationScript.Script.Generate
import MigrationScript.Script.Layout
import MigrationScript.Script.Literal
import MigrationScript.Script.Shape
import MigrationScript.Script.Table
import MigrationScript.Script.Writer
import MigrationScript.Span
import MigrationScript.Text.Alphabetic
import MigrationScript.Text.Blank
import MigrationScript.Text.Hex
import MigrationScript.Text.Integer
import MigrationScript.Text.Numeric
import MigrationScript.Text.Printable
import MigrationScript.Text.Quoted
import MigrationScript.Text.Ranges
import MigrationScript.Text.Width
import MigrationScript.Token.Basic
import MigrationScript.Token.Cover
import MigrationScript.Token.Keyword
import MigrationScript.Token.Lexer
import MigrationScript.Token.Scan
import MigrationScript.Tree.Basic
import MigrationScript.Tree.Cursor
import MigrationScript.Tree.Error
import MigrationScript.Tree.Parser
