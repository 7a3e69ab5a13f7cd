import QueryLint.Expr.Signature
import QueryLint.Literal.Duration
import QueryLint.Literal.Quoted
import QueryLint.Token.Lexer

/-! Why a text is no expression. -/

set_option autoImplicit false

namespace QueryLint

open Text (Span)

namespace ParseError

/-- What was being read when an unexpected token came. -/
inductive Context where
  | expression | vectorMatching | grouping | range | subqueryStep | subquery | rangeSelector
  | offset | instant | parentheses | functionCall | arguments | aggregation | labelMatching
  deriving DecidableEq, Repr

def Context.name : Context → String
  | .expression => "expression"
  | .vectorMatching => "vector matching"
  | .grouping => "grouping"
  | .range => "range"
  | .subqueryStep => "subquery step"
  | .subquery => "subquery"
  | .rangeSelector => "range selector"
  | .offset => "offset"
  | .instant => "@ modifier"
  | .parentheses => "parenthesized expression"
  | .functionCall => "function call"
  | .arguments => "function call arguments"
  | .aggregation => "aggregation"
  | .labelMatching => "label matching"

/-- What would have been read instead. -/
inductive Expectation where
  | anything
  | kind (kind : Token.Kind)
  | matchOperator
  deriving DecidableEq, Repr

def Expectation.clause : Expectation → String
  | .anything => ""
  | .kind k => s!", expected {k.describe}"
  | .matchOperator => ", expected one of \"=\", \"!=\", \"=~\" or \"!~\""

/-- Where a value of the wrong type stands. -/
inductive Role where
  | argument (function : String)
  | parameter
  | body
  deriving DecidableEq, Repr

def Role.name : Role → String
  | .argument function => s!"call to function {Text.quoted function}"
  | .parameter => "aggregation parameter"
  | .body => "aggregation expression"

inductive Cause where
  | lexical (fault : Token.Fault)
  | empty
  | unexpected (kind : Token.Kind) (text : String) (context : Context) (expected : Expectation)
  | operandType (type : ValueType)
  | setOperandScalar (op : BinaryOp)
  | scalarComparison
  | boolMisplaced
  | matchingOperands
  | setGrouping
  | signedType (type : ValueType)
  | subqueryType (type : ValueType)
  | rangeType (type : ValueType)
  | offsetMisplaced
  | offsetRepeated
  | instantMisplaced
  | instantRepeated
  | instantInfinite
  | duration (error : Literal.DurationError)
  | number (text : String)
  | string (error : Literal.QuotedError)
  | unknownFunction (name : String)
  | argumentCount (function : Signature) (count : Nat)
  | argumentType (expected : ValueType) (role : Role) (actual : ValueType)
  | aggregateCount (expected actual : Nat)
  | pattern (label report : String)
  | emptySelector
  deriving DecidableEq, Repr

/-- How a message names a token: names and numbers with their text. -/
def found (kind : Token.Kind) (text : String) : String :=
  match kind with
  | .identifier | .number | .duration => s!"{kind.describe} {Text.quoted text}"
  | kind => kind.describe

/-- How a message gives the number of arguments of a function. -/
def argumentRange (function : Signature) : String :=
  let least := function.minArgs
  match function.maxArgs? with
  | some most => if most = least then s!"{most}" else s!"{least} to {most}"
  | none => s!"at least {least}"

def Cause.message : Cause → String
  | .lexical fault => fault.message
  | .empty => "no expression found in input"
  | .unexpected kind text context expected =>
    s!"unexpected {found kind text} in {context.name}{expected.clause}"
  | .operandType type =>
    s!"binary expression must contain only scalar and instant vector types, got {type.name}"
  | .setOperandScalar op =>
    s!"set operator {Text.quoted op.symbol} not allowed in binary scalar expression"
  | .scalarComparison => "comparisons between scalars must use BOOL modifier"
  | .boolMisplaced => "bool modifier can only be used on comparison operators"
  | .matchingOperands => "vector matching only allowed between instant vectors"
  | .setGrouping => "no grouping allowed for set operations"
  | .signedType type =>
    "unary expression only allowed on expressions of type scalar or instant vector, got " ++
      type.name
  | .subqueryType type => s!"subquery is only allowed on instant vector, got {type.name}"
  | .rangeType type => s!"ranges only allowed for vector selectors, got {type.name}"
  | .offsetMisplaced =>
    "offset modifier must be preceded by an instant vector selector or range vector selector or " ++
      "a subquery"
  | .offsetRepeated => "offset may not be set multiple times"
  | .instantMisplaced =>
    "@ modifier must be preceded by an instant vector selector or range vector selector or " ++
      "a subquery"
  | .instantRepeated => "@ <timestamp> may not be set multiple times"
  | .instantInfinite => "timestamp out of bounds for @ modifier"
  | .duration error => error.message
  | .number text => s!"invalid number {Text.quoted text}"
  | .string error => error.message
  | .unknownFunction name => s!"unknown function with name {Text.quoted name}"
  | .argumentCount function count =>
    s!"expected {argumentRange function} argument(s) in call to {Text.quoted function.name}, " ++
      s!"got {count}"
  | .argumentType expected role actual =>
    s!"expected type {expected.name} in {role.name}, got {actual.name}"
  | .aggregateCount expected actual =>
    "wrong number of arguments for aggregate expression provided, " ++
      s!"expected {expected}, got {actual}"
  | .pattern label report =>
    s!"invalid regular expression in label matcher {Text.quoted label}: {report}"
  | .emptySelector => "vector selector must contain at least one non-empty matcher"

end ParseError

/-- A fault of a text, and the part of the text it concerns. -/
structure ParseError where
  span : Span
  cause : ParseError.Cause
  deriving DecidableEq, Repr

namespace ParseError

def message (e : ParseError) : String :=
  e.cause.message

/-- The message as a report shows it. -/
def display (e : ParseError) : String :=
  s!"parse error: {e.message}"

end ParseError

end QueryLint
