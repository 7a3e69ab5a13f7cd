import QueryLint.Files.Tree
import QueryLint.Log
import QueryLint.Manifest.Basic

/-! The expressions that manifests hold. -/

set_option autoImplicit false

namespace QueryLint

/-- An expression with the group it is in and the name of its rule. -/
structure RuleExpression where
  group : String
  name : Option String
  expr : String
  deriving DecidableEq, Repr

inductive ManifestError where
  | read (error : ReadError)
  | yaml
  deriving DecidableEq, Repr

/-- Of a malformed manifest nothing more is told. -/
def ManifestError.message : ManifestError → String
  | .read error => s!"IO error: {error.message}"
  | .yaml => "YAML parse error"

namespace Manifest

/-- The kind of manifest that holds rules. -/
def ruleKind : String := "PrometheusRule"

/-- The expressions of a manifest, in the order of its groups and rules; rules without one are left
out. -/
def expressions (m : Manifest) : List RuleExpression :=
  m.groups.flatMap fun group => group.rules.filterMap fun rule =>
    rule.expr.map fun expr => ⟨group.name, rule.record.or rule.alert, expr.display⟩

/-- The kind of a manifest, if it says that it holds something else than rules. -/
def otherKind? (m : Manifest) : Option String :=
  m.kind.filter (· ≠ ruleKind)

/-- The expressions of documents, one after the other; an empty one has none, and a faulty one ends
the reading. -/
def documentsExpressions : List Document → Logged ManifestError (List RuleExpression)
  | [] => pure []
  | .faulty :: _ => throw .yaml
  | .empty :: rest => documentsExpressions rest
  | .manifest manifest :: rest =>
    match manifest.otherKind? with
    | some kind => do
      Logged.note (.debug s!"skipping document of kind {kind}")
      documentsExpressions rest
    | none => do
      let more ← documentsExpressions rest
      pure (manifest.expressions ++ more)

section

variable [Decoder]

/-- The expressions of a text, document by document. -/
def expressionsOfText (text : String) : Logged ManifestError (List RuleExpression) :=
  documentsExpressions (Decoder.documents text)

/-- The expressions of a file. -/
def expressionsOfFile (files : FileTree) (path : String) :
    Logged ManifestError (List RuleExpression) :=
  match files.readText path with
  | .error error => throw (.read error)
  | .ok text => do
    Logged.note (.debug s!"reading manifest {path}")
    expressionsOfText text

end

end Manifest

end QueryLint
