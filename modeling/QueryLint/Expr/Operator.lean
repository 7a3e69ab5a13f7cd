import QueryLint.Text.Word
import QueryLint.Token

/-! Value types and operators of the query language. -/

set_option autoImplicit false

namespace QueryLint

/-- What an expression evaluates to. -/
inductive ValueType where
  | scalar | string | vector | matrix
  deriving DecidableEq, Repr

namespace ValueType

def name : ValueType → String
  | .scalar => "scalar"
  | .string => "string"
  | .vector => "instant vector"
  | .matrix => "range vector"

/-- Scalars and instant vectors are the types that arithmetic works on. -/
def isNumeric : ValueType → Bool
  | .scalar | .vector => true
  | .string | .matrix => false

/-- Whether an argument of a type is taken where another is expected: scalars and instant vectors
stand in for each other. -/
def accepts (expected actual : ValueType) : Bool :=
  if expected.isNumeric then actual.isNumeric else actual == expected

end ValueType

/-- How a matcher compares a label with its value. -/
inductive MatchOp where
  | equal | notEqual | regex | notRegex
  deriving DecidableEq, Repr

namespace MatchOp

def symbol : MatchOp → String
  | .equal => "="
  | .notEqual => "!="
  | .regex => "=~"
  | .notRegex => "!~"

def all : List MatchOp := [.equal, .notEqual, .regex, .notRegex]

def ofSymbol? (s : String) : Option MatchOp :=
  all.find? (·.symbol == s)

def ofKind? : Token.Kind → Option MatchOp
  | .assign => some .equal
  | .notEqual => some .notEqual
  | .regexMatch => some .regex
  | .regexNoMatch => some .notRegex
  | _ => none

end MatchOp

inductive UnaryOp where
  | plus | minus
  deriving DecidableEq, Repr

def UnaryOp.ofKind? : Token.Kind → Option UnaryOp
  | .add => some .plus
  | .sub => some .minus
  | _ => none

inductive BinaryOp where
  | add | sub | mul | div | mod | pow | atan2
  | equal | notEqual | greater | less | greaterEqual | lessEqual
  | and | or | unless
  deriving DecidableEq, Repr

namespace BinaryOp

def symbol : BinaryOp → String
  | .add => "+"
  | .sub => "-"
  | .mul => "*"
  | .div => "/"
  | .mod => "%"
  | .pow => "^"
  | .atan2 => "atan2"
  | .equal => "=="
  | .notEqual => "!="
  | .greater => ">"
  | .less => "<"
  | .greaterEqual => ">="
  | .lessEqual => "<="
  | .and => "and"
  | .or => "or"
  | .unless => "unless"

def all : List BinaryOp :=
  [.add, .sub, .mul, .div, .mod, .pow, .atan2, .equal, .notEqual, .greater, .less, .greaterEqual,
    .lessEqual, .and, .or, .unless]

def ofSymbol? (s : String) : Option BinaryOp :=
  all.find? (·.symbol == s)

/-- Operators of a higher level bind more tightly. -/
def precedence : BinaryOp → Nat
  | .or => 1
  | .and | .unless => 2
  | .equal | .notEqual | .greater | .less | .greaterEqual | .lessEqual => 3
  | .add | .sub => 4
  | .mul | .div | .mod | .atan2 => 5
  | .pow => 6

/-- Whether a chain of the operator groups to the right. -/
def isRightAssociative : BinaryOp → Bool
  | .pow => true
  | _ => false

def isComparison (op : BinaryOp) : Bool :=
  op.precedence == 3

def isSetOperator : BinaryOp → Bool
  | .and | .or | .unless => true
  | _ => false

/-- The loosest level that may stand on the right of the operator. -/
def rightLevel (op : BinaryOp) : Nat :=
  if op.isRightAssociative then op.precedence else op.precedence + 1

/-- The operator that a word names, in any case. -/
def ofWord? (word : String) : Option BinaryOp :=
  match Text.lower word with
  | "and" => some .and
  | "or" => some .or
  | "unless" => some .unless
  | "atan2" => some .atan2
  | _ => none

def ofToken? (t : Token) : Option BinaryOp :=
  match t.kind with
  | .add => some .add
  | .sub => some .sub
  | .mul => some .mul
  | .div => some .div
  | .mod => some .mod
  | .pow => some .pow
  | .equal => some .equal
  | .notEqual => some .notEqual
  | .greater => some .greater
  | .less => some .less
  | .greaterEqual => some .greaterEqual
  | .lessEqual => some .lessEqual
  | .identifier => ofWord? t.text
  | _ => none

end BinaryOp

inductive AggregateOp where
  | sum | avg | count | min | max | group | stddev | stdvar
  | topk | bottomk | quantile | countValues | limitk | limitRatio
  deriving DecidableEq, Repr

namespace AggregateOp

/-- The operator that a name in any case stands for. -/
def ofName? (name : String) : Option AggregateOp :=
  match Text.lower name with
  | "sum" => some .sum
  | "avg" => some .avg
  | "count" => some .count
  | "min" => some .min
  | "max" => some .max
  | "group" => some .group
  | "stddev" => some .stddev
  | "stdvar" => some .stdvar
  | "topk" => some .topk
  | "bottomk" => some .bottomk
  | "quantile" => some .quantile
  | "count_values" => some .countValues
  | "limitk" => some .limitk
  | "limit_ratio" => some .limitRatio
  | _ => none

/-- Type of the parameter in front of the body, for the operators that have one. -/
def paramType? : AggregateOp → Option ValueType
  | .topk | .bottomk | .quantile | .limitk | .limitRatio => some .scalar
  | .countValues => some .string
  | _ => none

end AggregateOp

/-- Which side of a binary expression may have several series for one on the other. -/
inductive Cardinality where
  | oneToOne | manyToOne | oneToMany
  deriving DecidableEq, Repr

end QueryLint
