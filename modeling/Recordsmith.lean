import Recordsmith.Catalog
import Recordsmith.Check
import Recordsmith.Class.Basic
import Recordsmith.Class.Member
import Recordsmith.Class.Unsupported
import Recordsmith.Command.FileSystem
import Recordsmith.Command.Invocation
import Recordsmith.Command.Options
import Recordsmith.Command.Report
import Recordsmith.Command.Session
import Recordsmith.Command.Usage
import Recordsmith.Dart.Expr
import Recordsmith.Dart.Quoted
import Recordsmith.Dart.Render
import Recordsmith.Decimal
import Recordsmith.Diagnostic
import Recordsmith.Distinct
import Recordsmith.Event
import Recordsmith.Generator
import Recordsmith.Json.Basic
import Recordsmith.Json.Printer
import Recordsmith.Json.Reader
import Recordsmith.Layout.Format
import Recordsmith.Layout.Indent
import Recordsmith.Layout.LineBuilder
import Recordsmith.Layout.Token
import Recordsmith.Lint
import Recordsmith.Main
import Recordsmith.Path
import Recordsmith.Proofs.Class.Anatomy
import Recordsmith.Proofs.Class.Equality
import Recordsmith.Proofs.Class.HashCode
import Recordsmith.Proofs.Class.JsonForm
import Recordsmith.Proofs.Class.Members
import Recordsmith.Proofs.Class.RoundTrip
import Recordsmith.Proofs.Dart.Eval
import Recordsmith.Proofs.Dart.Program
import Recordsmith.Proofs.Dart.Steps
import Recordsmith.Proofs.Dart.Value
import Recordsmith.Proofs.Text.Trim
import Recordsmith.Proofs.TypeExpr.Brackets
import Recordsmith.Proofs.TypeExpr.Canonical
import Recordsmith.Proofs.TypeExpr.Grammar
import Recordsmith.Record.Basic
import Recordsmith.Record.Declaration
import Recordsmith.Schema.Error
import Recordsmith.Schema.FieldEntry
import Recordsmith.Schema.File
import Recordsmith.Schema.OfJson
import Recordsmith.Schema.OfToml
import Recordsmith.SourceFile
import Recordsmith.Text.Blank
import Recordsmith.Text.Digits
import Recordsmith.Text.Identifier
import Recordsmith.Text.Pieces
import Recordsmith.Text.WordChar
import Recordsmith.Toml.Basic
import Recordsmith.Toml.Reader
import Recordsmith.Toml.Scalar
import Recordsmith.TypeExpr.Basic
import Recordsmith.TypeExpr.Brackets
import Recordsmith.TypeExpr.Error
import Recordsmith.TypeExpr.Parser
import Recordsmith.TypeExpr.Printer
import Recordsmith.Proofs.Check.Prediction
import Recordsmith.Proofs.Generator.Order
import Recordsmith.Proofs.Command.FileTree
import Recordsmith.Proofs.Command.Writing
import Recordsmith.Proofs.Command.ModuleFiles
import Recordsmith.Proofs.Generator.Regrouping
import Recordsmith.Proofs.Generator.References
import Recordsmith.Proofs.Generator.Skipping
import Recordsmith.Proofs.Command.Effects
import Recordsmith.Proofs.Record.Declaration
import Recordsmith.Proofs.Record.Field
import Recordsmith.Proofs.Catalog.Calls
import Recordsmith.Proofs.Dart.Rendered
import Recordsmith.Proofs.Class.Layout
import Recordsmith.Proofs.Schema.Outline
import Recordsmith.Proofs.Json.Written
import Recordsmith.Proofs.Toml.Written
import Recordsmith.Proofs.Schema.File
import Recordsmith.Proofs.Generator.FileLayout
import Recordsmith.Proofs.Dart.Terminators
import Recordsmith.Proofs.Dart.Balance
import Recordsmith.Proofs.Check.ClassNames
import Recordsmith.Proofs.Layout.Composition
import Recordsmith.Proofs.Class.Blocks
import Recordsmith.Proofs.Dart.Binding
import Recordsmith.Proofs.Class.Capture
import Recordsmith.Proofs.Dart.Statement
import Recordsmith.Proofs.Class.Accessors
import Recordsmith.Proofs.Class.Hygiene
import Recordsmith.Proofs.Class.Absence
import Recordsmith.Proofs.Class.PureJson
import Recordsmith.Proofs.Class.Copy
import Recordsmith.Proofs.TypeExpr.BracketErrors
import Recordsmith.Proofs.Record.LastRun
import Recordsmith.Proofs.Check.MemberNames
import Recordsmith.Proofs.Dart.Rank
import Recordsmith.Proofs.Dart.Reading
import Recordsmith.Proofs.Class.Grouping
import Recordsmith.Proofs.TypeExpr.Segments
import Recordsmith.Proofs.TypeExpr.Guarded
import Recordsmith.Proofs.Record.References
import Recordsmith.Proofs.Dart.Literal
