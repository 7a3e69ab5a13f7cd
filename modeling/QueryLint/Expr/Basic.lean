import QueryLint.Expr.Operator
import QueryLint.Number.Double
import QueryLint.Text.Span

/-! Expression trees.

Every node knows its span in the text; a selector inside a range selector keeps the span it had
before the range was added. -/

set_option autoImplicit false

namespace QueryLint

open Number (Double)
open Text (Span)

/-- The label that holds the name of a metric. -/
def metricNameLabel : String := "__name__"

/-- A condition on one label. -/
structure Matcher where
  label : String
  op : MatchOp
  value : String
  span : Span
  deriving DecidableEq, Repr

/-- Whether the matcher is on the metric name. -/
def Matcher.isMetricName (m : Matcher) : Bool :=
  m.label == metricNameLabel

/-- Time at which a selector is evaluated. -/
inductive Instant where
  | timestamp (value : Double)
  | start
  | stop
  deriving DecidableEq, Repr

/-- What `offset`, in milliseconds, and `@` say about a selector or subquery. -/
structure Modifiers where
  offset : Option Int := none
  instant : Option Instant := none
  deriving DecidableEq, Repr

/-- A selector of time series; a name in front of the braces is also its first matcher. -/
structure Selector where
  name : Option String
  matchers : List Matcher
  modifiers : Modifiers
  span : Span
  deriving DecidableEq, Repr

/-- Labels on which the two sides of a binary expression are matched, or which are ignored. -/
structure Matching where
  on : Bool
  labels : List String
  card : Cardinality
  included : List String
  deriving DecidableEq, Repr

/-- Labels by which, or without which, an aggregation groups. -/
structure Grouping where
  without : Bool := false
  labels : List String := []
  deriving DecidableEq, Repr

/-- Expressions; windows and steps are in milliseconds. -/
inductive Expr where
  | number (value : Double) (span : Span)
  | string (value : String) (span : Span)
  | vector (selector : Selector)
  | matrix (selector : Selector) (window : Nat) (span : Span)
  | subquery (body : Expr) (window : Nat) (step : Option Nat) (modifiers : Modifiers) (span : Span)
  | paren (body : Expr) (span : Span)
  | unary (op : UnaryOp) (body : Expr) (span : Span)
  | binary (op : BinaryOp) (lhs rhs : Expr) (returnsBool : Bool) (matching : Option Matching)
      (span : Span)
  | call (function : String) (args : List Expr) (type : ValueType) (span : Span)
  | aggregate (op : AggregateOp) (param : Option Expr) (body : Expr) (grouping : Grouping)
      (span : Span)

namespace Expr

def span : Expr → Span
  | .number _ span => span
  | .string _ span => span
  | .vector selector => selector.span
  | .matrix _ _ span => span
  | .subquery _ _ _ _ span => span
  | .paren _ span => span
  | .unary _ _ span => span
  | .binary _ _ _ _ _ span => span
  | .call _ _ _ span => span
  | .aggregate _ _ _ _ span => span

def valueType : Expr → ValueType
  | .number .. => .scalar
  | .string .. => .string
  | .vector _ => .vector
  | .matrix .. => .matrix
  | .subquery .. => .matrix
  | .paren body _ => body.valueType
  | .unary _ body _ => body.valueType
  | .binary _ lhs rhs _ _ _ =>
    if lhs.valueType = .scalar ∧ rhs.valueType = .scalar then .scalar else .vector
  | .call _ _ type _ => type
  | .aggregate .. => .vector

/-- Direct subexpressions in the order of the text. The selector of a range selector is none. -/
def children : Expr → List Expr
  | .number .. | .string .. | .vector _ | .matrix .. => []
  | .subquery body _ _ _ _ => [body]
  | .paren body _ => [body]
  | .unary _ body _ => [body]
  | .binary _ lhs rhs _ _ _ => [lhs, rhs]
  | .call _ args _ _ => args
  | .aggregate _ param body _ _ => param.toList ++ [body]

/-- The selector of a selector node, with a range or without. -/
def selector? : Expr → Option Selector
  | .vector selector => some selector
  | .matrix selector _ _ => some selector
  | _ => none

/-- The modifiers of a node that can have some. -/
def modifiers? : Expr → Option Modifiers
  | .vector selector => some selector.modifiers
  | .matrix selector _ _ => some selector.modifiers
  | .subquery _ _ _ modifiers _ => some modifiers
  | _ => none

/-- Gives a node other modifiers, written up to the end of `last`. -/
def modify (e : Expr) (modifiers : Modifiers) (last : Span) : Expr :=
  match e with
  | .vector selector => .vector { selector with modifiers, span := selector.span.cover last }
  | .matrix selector window span =>
    .matrix { selector with modifiers } window (span.cover last)
  | .subquery body window step _ span => .subquery body window step modifiers (span.cover last)
  | e => e

theorem sizeOf_lt_of_mem_children {e child : Expr} (h : child ∈ e.children) :
    sizeOf child < sizeOf e := by
  cases e with
  | number | string | vector | matrix => simp [children] at h
  | subquery | paren | unary =>
    simp only [children, List.mem_singleton] at h
    subst h
    simp +arith
  | binary =>
    simp only [children, List.mem_cons, List.not_mem_nil, or_false] at h
    rcases h with rfl | rfl <;> simp +arith
  | call =>
    have := List.sizeOf_lt_of_mem h
    simp only [children] at this
    simp +arith
    omega
  | aggregate op param body =>
    simp only [children, List.mem_append, Option.mem_toList, List.mem_singleton] at h
    rcases h with h | rfl
    · cases param <;> simp_all +arith
    · simp +arith

end Expr

end QueryLint
