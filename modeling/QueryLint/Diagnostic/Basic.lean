import QueryLint.Expr.Error
import QueryLint.Text.Word

/-! Findings about an expression. -/

set_option autoImplicit false

namespace QueryLint

open Text (Span)

inductive Severity where
  | info | warning | error
  deriving DecidableEq, Repr

namespace Severity

def rank : Severity → Nat
  | .info => 0
  | .warning => 1
  | .error => 2

def name : Severity → String
  | .info => "info"
  | .warning => "warning"
  | .error => "error"

/-- How reports show a severity. -/
def label : Severity → String
  | .info => "INFO"
  | .warning => "WARN"
  | .error => "ERROR"

def ofName? : String → Option Severity
  | "info" => some .info
  | "warning" => some .warning
  | "error" => some .error
  | _ => none

/-- Reads a severity, in any case. -/
def read (s : String) : Except String Severity :=
  match ofName? (Text.lower s) with
  | some severity => .ok severity
  | none => .error s!"level filter must be one of info/warning/error, got `{s}`"

end Severity

/-- Whether a finding is shown in colour. -/
inductive ColorMode where
  | enabled | disabled
  deriving DecidableEq, Repr

def ColorMode.ofBool (colored : Bool) : ColorMode :=
  if colored then .enabled else .disabled

structure Diagnostic where
  level : Severity
  span : Span
  message : String
  color : ColorMode
  deriving DecidableEq, Repr

namespace Diagnostic

/-- Whether a finding is at least as severe as the filter. -/
def isVisible (d : Diagnostic) (filter : Severity) : Bool :=
  filter.rank ≤ d.level.rank

/-- The findings that pass a filter, in order. -/
def visible (filter : Severity) (ds : List Diagnostic) : List Diagnostic :=
  ds.filter (·.isVisible filter)

/-- Errors of the parser as findings. -/
def ofParseErrors (color : ColorMode) (errors : List ParseError) : List Diagnostic :=
  errors.map fun e => ⟨.error, e.span, e.display, color⟩

end Diagnostic

end QueryLint
