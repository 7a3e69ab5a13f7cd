import QueryLint.Diagnostic.Basic
import QueryLint.Expr.Basic

/-! Rules: named checks of an expression. -/

set_option autoImplicit false

namespace QueryLint

/-- Why a rule could not be applied. -/
inductive RuleError where
  | invalidPattern (pattern report : String)
  | other (message : String)
  deriving DecidableEq, Repr

def RuleError.message : RuleError → String
  | .invalidPattern pattern report => s!"invalid pattern `{pattern}`: {report}"
  | .other message => message

/-- A check with the name under which its findings are reported. -/
structure Rule where
  name : String
  check : Expr → Except RuleError (List Diagnostic)

end QueryLint
