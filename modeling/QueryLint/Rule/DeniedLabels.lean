import QueryLint.Expr.Walk
import QueryLint.Pattern.Engine
import QueryLint.Rule.Basic
import QueryLint.Rule.LabelMap

/-! The rule that reports selectors with a matcher on a configured label whose value its pattern
matches. Patterns are compiled when they are first needed, so one that is no pattern fails the rule
only where its label occurs. -/

set_option autoImplicit false

namespace QueryLint.DeniedLabels

/-- Name under which the findings are reported. -/
def name : String := "denied-labels"

/-- Patterns compiled so far, and findings so far in reverse order. -/
structure State where
  compiled : List (String × (String → Bool)) := []
  findings : List Diagnostic := []

def message (pattern : String) : String :=
  s!"matched to the denied label rule `{pattern}`"

section

variable [Pattern.Engine]

/-- The test of a pattern, compiled at most once. -/
def test (pattern : String) : StateT State (Except RuleError) (String → Bool) := do
  let state ← get
  match state.compiled.lookup pattern with
  | some test => pure test
  | none =>
    match Pattern.Engine.compile pattern with
    | .error report => throw (.invalidPattern pattern report)
    | .ok test =>
      set { state with compiled := (pattern, test) :: state.compiled }
      pure test

/-- Checks one matcher of a selector. -/
def checkMatcher (rules : LabelMap) (color : ColorMode) (selector : Selector) (m : Matcher) :
    StateT State (Except RuleError) Unit :=
  if m.isMetricName then pure ()
  else match rules.get? m.label with
    | none => pure ()
    | some pattern => do
      let test ← test pattern
      if test m.value then
        let finding : Diagnostic := ⟨.error, selector.span, message pattern, color⟩
        modify fun state => { state with findings := finding :: state.findings }

/-- Checks every matcher of every selector, in the order of the text. -/
def check (rules : LabelMap) (color : ColorMode) (e : Expr) :
    Except RuleError (List Diagnostic) := do
  let visit (node : Expr) (_ : List Expr) : StateT State (Except RuleError) Unit :=
    match node.selector? with
    | none => pure ()
    | some selector => selector.matchers.forM (checkMatcher rules color selector)
  let (_, state) ← (e.inspect visit []).run {}
  pure state.findings.reverse

def rule (rules : LabelMap) (color : ColorMode) : Rule :=
  ⟨name, check rules color⟩

end

end QueryLint.DeniedLabels
