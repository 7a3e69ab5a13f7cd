import QueryLint.Expr.Operator

/-! The functions of the query language and what they take. -/

set_option autoImplicit false

namespace QueryLint

structure Signature where
  name : String
  argTypes : List ValueType
  /-- How many arguments at the end may be left out. -/
  optional : Nat
  /-- Whether the last argument may be repeated. -/
  variadic : Bool
  returnType : ValueType
  deriving DecidableEq, Repr

namespace Signature

def minArgs (s : Signature) : Nat :=
  s.argTypes.length - s.optional

/-- Greatest number of arguments, if there is one. -/
def maxArgs? (s : Signature) : Option Nat :=
  if s.variadic then none else some s.argTypes.length

/-- Type of the argument at an index; a repeated argument has the type of the last. -/
def argType? (s : Signature) (index : Nat) : Option ValueType :=
  (s.argTypes[index]?).or (if s.variadic then s.argTypes.getLast? else none)

/-- Whether a call may have so many arguments. -/
def acceptsCount (s : Signature) (n : Nat) : Bool :=
  s.minArgs ≤ n && s.maxArgs?.all (n ≤ ·)

/-- A signature with all its arguments required. -/
def fixed (name : String) (argTypes : List ValueType) (returnType : ValueType) : Signature :=
  ⟨name, argTypes, 0, false, returnType⟩

def all : List Signature := [
  fixed "abs" [.vector] .vector,
  fixed "absent" [.vector] .vector,
  fixed "absent_over_time" [.matrix] .vector,
  fixed "acos" [.vector] .vector,
  fixed "acosh" [.vector] .vector,
  fixed "asin" [.vector] .vector,
  fixed "asinh" [.vector] .vector,
  fixed "atan" [.vector] .vector,
  fixed "atanh" [.vector] .vector,
  fixed "avg_over_time" [.matrix] .vector,
  fixed "ceil" [.vector] .vector,
  fixed "changes" [.matrix] .vector,
  fixed "clamp" [.vector, .scalar, .scalar] .vector,
  fixed "clamp_max" [.vector, .scalar] .vector,
  fixed "clamp_min" [.vector, .scalar] .vector,
  fixed "cos" [.vector] .vector,
  fixed "cosh" [.vector] .vector,
  fixed "count_over_time" [.matrix] .vector,
  ⟨"day_of_month", [.vector], 1, false, .vector⟩,
  ⟨"day_of_week", [.vector], 1, false, .vector⟩,
  ⟨"day_of_year", [.vector], 1, false, .vector⟩,
  ⟨"days_in_month", [.vector], 1, false, .vector⟩,
  fixed "deg" [.vector] .vector,
  fixed "delta" [.matrix] .vector,
  fixed "deriv" [.matrix] .vector,
  fixed "exp" [.vector] .vector,
  fixed "floor" [.vector] .vector,
  fixed "histogram_quantile" [.scalar, .vector] .vector,
  fixed "holt_winters" [.matrix, .scalar, .scalar] .vector,
  ⟨"hour", [.vector], 1, false, .vector⟩,
  fixed "idelta" [.matrix] .vector,
  fixed "increase" [.matrix] .vector,
  fixed "irate" [.matrix] .vector,
  ⟨"label_join", [.vector, .string, .string, .string], 1, true, .vector⟩,
  fixed "label_replace" [.vector, .string, .string, .string, .string] .vector,
  fixed "last_over_time" [.matrix] .vector,
  fixed "ln" [.vector] .vector,
  fixed "log10" [.vector] .vector,
  fixed "log2" [.vector] .vector,
  fixed "max_over_time" [.matrix] .vector,
  fixed "min_over_time" [.matrix] .vector,
  ⟨"minute", [.vector], 1, false, .vector⟩,
  ⟨"month", [.vector], 1, false, .vector⟩,
  fixed "pi" [] .scalar,
  fixed "predict_linear" [.matrix, .scalar] .vector,
  fixed "present_over_time" [.matrix] .vector,
  fixed "quantile_over_time" [.scalar, .matrix] .vector,
  fixed "rad" [.vector] .vector,
  fixed "rate" [.matrix] .vector,
  fixed "resets" [.matrix] .vector,
  ⟨"round", [.vector, .scalar], 1, false, .vector⟩,
  fixed "scalar" [.vector] .scalar,
  fixed "sgn" [.vector] .vector,
  fixed "sin" [.vector] .vector,
  fixed "sinh" [.vector] .vector,
  fixed "sort" [.vector] .vector,
  fixed "sort_desc" [.vector] .vector,
  fixed "sqrt" [.vector] .vector,
  fixed "stddev_over_time" [.matrix] .vector,
  fixed "stdvar_over_time" [.matrix] .vector,
  fixed "sum_over_time" [.matrix] .vector,
  fixed "tan" [.vector] .vector,
  fixed "tanh" [.vector] .vector,
  fixed "time" [] .scalar,
  fixed "timestamp" [.vector] .vector,
  fixed "vector" [.scalar] .vector,
  ⟨"year", [.vector], 1, false, .vector⟩]

def lookup? (name : String) : Option Signature :=
  all.find? (·.name == name)

end Signature

end QueryLint
