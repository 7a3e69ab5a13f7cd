import QueryLint.Diagnostic.Render
import QueryLint.Expr.Parser
import QueryLint.Log
import QueryLint.Rule.DeniedLabels
import QueryLint.Sink

/-! Linting one expression: it is parsed, every rule is applied in turn, and what passes the filter
is written out. An error ends the call; what was written before it stays written. -/

set_option autoImplicit false

namespace QueryLint

/-- Name under which errors of the parser are reported. -/
def parserName : String := "promql/parser"

inductive LintError where
  | rule (name : String) (error : RuleError)
  | render (error : RenderError)
  deriving DecidableEq, Repr

def LintError.message : LintError → String
  | .rule name error => s!"plugin `{name}` failed: {error.message}"
  | .render error => s!"failed to render diagnostic: {error.message}"

/-- Whether an expression failed, and how many findings were written. -/
structure Verdict where
  failed : Bool := false
  reported : Nat := 0
  deriving DecidableEq, Repr

/-- What linting leaves behind: the output, the log, and how many rules were applied. -/
structure Session where
  sink : Sink := {}
  log : List Log.Entry := []
  applied : Nat := 0
  deriving DecidableEq, Repr

/-- Linting: fails, and keeps the session in either case. -/
abbrev LintM := ExceptT LintError (StateM Session)

structure Linter where
  rules : List Rule := []
  /-- Colour mode of parse errors. -/
  color : ColorMode := .disabled
  paint : Paint := ⟨true⟩

/-- The rules that the program comes with. -/
def Rule.defaults [Pattern.Engine] (denied : LabelMap) (color : ColorMode) : List Rule :=
  [DeniedLabels.rule denied color]

namespace Linter

def log (entry : Log.Entry) : LintM Unit :=
  modify fun s => { s with log := s.log ++ [entry] }

/-- Writes a text to the sink. -/
def emit (text : String) : LintM Unit := do
  let s ← get
  let (taken, sink) := s.sink.writeText text
  set { s with sink := sink }
  if taken then pure () else throw (.render .closed)

section

variable [Coloring]

/-- Writes one finding. -/
def report (paint : Paint) (producer expression : String) (d : Diagnostic) : LintM Unit :=
  match d.render paint producer expression with
  | .ok text => emit text
  | .error e => throw (.render e)

/-- Writes the findings that pass the filter and counts them. -/
def reportAll (paint : Paint) (producer expression : String) (filter : Severity)
    (ds : List Diagnostic) : LintM Nat := do
  let shown := Diagnostic.visible filter ds
  shown.forM (report paint producer expression)
  pure shown.length

/-- Applies one rule and writes its findings. -/
def apply (paint : Paint) (expression : String) (filter : Severity) (e : Expr) (rule : Rule) :
    LintM Nat := do
  log (.debug s!"running plugin {rule.name}")
  modify fun s => { s with applied := s.applied + 1 }
  match rule.check e with
  | .error error => throw (.rule rule.name error)
  | .ok ds =>
    log (.debug s!"plugin {rule.name} produced {ds.length} diagnostic(s)")
    reportAll paint rule.name expression filter ds

/-- Applies rules in order and adds up how many findings were written. -/
def applyAll (paint : Paint) (expression : String) (filter : Severity) (e : Expr) :
    List Rule → LintM Nat
  | [] => pure 0
  | rule :: rest => do
    let n ← apply paint expression filter e rule
    let more ← applyAll paint expression filter e rest
    pure (n + more)

/-- Lints one expression. A text that does not parse fails whatever the filter. -/
def run [Pattern.Engine] (linter : Linter) (expression : String) (filter : Severity) : LintM Verdict :=
  match Expr.parse expression with
  | .error errors => do
    log (.debug s!"parse failed with {errors.length} error(s)")
    let reported ← reportAll linter.paint parserName expression filter
      (Diagnostic.ofParseErrors linter.color errors)
    pure ⟨true, reported⟩
  | .ok e => do
    let reported ← applyAll linter.paint expression filter e linter.rules
    log (.info s!"linted expression: {reported} diagnostic(s) at or above {filter.name}")
    pure ⟨0 < reported, reported⟩

end

end Linter

end QueryLint
