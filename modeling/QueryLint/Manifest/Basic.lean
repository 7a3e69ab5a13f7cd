import QueryLint.Number.Decimal

/-! Manifests of rules, and what a decoder makes of a text that holds some. -/

set_option autoImplicit false

namespace QueryLint

/-- An expression as a manifest gives it: a number stands for the text that it is written as. -/
inductive RuleText where
  | int (value : Int64)
  | float (value : Number.Double)
  | text (value : String)
  deriving DecidableEq, Repr

def RuleText.display : RuleText → String
  | .int value => toString value
  | .float value => Number.Decimal.write value
  | .text value => value

/-- A rule: its name as a recording or as an alert, and its expression. -/
structure RuleEntry where
  record : Option String := none
  alert : Option String := none
  expr : Option RuleText := none
  deriving DecidableEq, Repr

structure RuleGroup where
  name : String := ""
  rules : List RuleEntry := []
  deriving DecidableEq, Repr

structure Manifest where
  kind : Option String := none
  groups : List RuleGroup := []
  deriving DecidableEq, Repr

namespace Manifest

/-- A document of a text: it may be faulty or no manifest, or there may be nothing in it. -/
inductive Document where
  | faulty
  | empty
  | manifest (manifest : Manifest)
  deriving DecidableEq, Repr

/-- What decodes texts. A library does; here is what is asked of it. -/
class Decoder where
  documents (text : String) : List Document

end Manifest

end QueryLint
