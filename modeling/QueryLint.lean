import QueryLint.Expr.Walk
import QueryLint.Proofs.Grammar.Complete
import QueryLint.Proofs.Expr.Nodes
import QueryLint.Proofs.Expr.Placement
import QueryLint.Proofs.Expr.Typing
import QueryLint.Proofs.Expr.Move
import QueryLint.Proofs.Token.Cut
import QueryLint.Proofs.Grammar.Brackets
import QueryLint.Proofs.Grammar.Segments
import QueryLint.Proofs.Expr.NodeText
import QueryLint.Proofs.Expr.Conditions
import QueryLint.Proofs.Rule.DeniedLabels
import QueryLint.Proofs.Linter.Output
import QueryLint.Proofs.Linter.Denied
import QueryLint.Proofs.Expr.Precedence
import QueryLint.Proofs.Token.Tiling
import QueryLint.Proofs.Token.Spacing
import QueryLint.Proofs.Expr.Spacing
import QueryLint.Proofs.Expr.ErrorSpan
import QueryLint.Proofs.Linter.Defaults
import QueryLint.Proofs.Expr.OperatorTree
import QueryLint.Proofs.Expr.OperatorChain
import QueryLint.Proofs.Linter.Call
import QueryLint.Proofs.Linter.Truncation
import QueryLint.Proofs.Run.Input
import QueryLint.Proofs.Run.Outcome
import QueryLint.Proofs.Literal.Quoted
import QueryLint.Proofs.Token.Literals
import QueryLint.Proofs.Expr.StringLiteral
import QueryLint.Proofs.Text.Place
import QueryLint.Proofs.Diagnostic.Color
import QueryLint.Proofs.Text.PlaceOrder
import QueryLint.Proofs.Diagnostic.Plain
import QueryLint.Proofs.Literal.Duration
import QueryLint.Proofs.Literal.Escapes
import QueryLint.Proofs.Rule.Watched
import QueryLint.Proofs.Expr.SourceOrder
import QueryLint.Proofs.Token.Enclosed
import QueryLint.Proofs.Grammar.Builders
import QueryLint.Proofs.Expr.Operands
import QueryLint.Proofs.Expr.Calls
import QueryLint.Proofs.Expr.Aggregations
import QueryLint.Proofs.Expr.Modifiers
import QueryLint.Proofs.Linter.ThreeLines
import QueryLint.Proofs.Pattern.Extents
import QueryLint.Proofs.Pattern.Padding
import QueryLint.Proofs.Pattern.Escapes
import QueryLint.Proofs.Pattern.Classes
import QueryLint.Proofs.Pattern.Groups
import QueryLint.Proofs.Pattern.Anchored
import QueryLint.Proofs.Expr.Patterns
import QueryLint.Proofs.Settings.Flags
import QueryLint.Proofs.Settings.Merging
import QueryLint.Proofs.Text.Lines
import QueryLint.Proofs.Cursor.Progress
import QueryLint.Proofs.Files.Search
import QueryLint.Main
